import ImageGateway.Proofs.Text.Pieces
import ImageGateway.UrlOption

/-! Which segments are options: those with a colon. Reading a segment takes back writing an option,
when the option has an argument and its parts have no colon. -/
namespace ImageGateway.UrlOption

theorem parse?_of_split {segment name : String} {args : List String}
    (cut : Text.split ':' segment = name :: args) :
    parse? segment = if args = [] then none else some ⟨name, args⟩ := by
  cases args <;> simp [parse?, cut]

theorem parse?_of_not_mem {segment : String} (bare : ':' ∉ segment.toList) :
    parse? segment = none := by
  rw [parse?_of_split (Text.split_of_not_mem bare), if_pos rfl]

theorem parse?_of_mem {segment : String} (named : ':' ∈ segment.toList) :
    ∃ option, parse? segment = some option := by
  obtain ⟨first, rest, cut⟩ := Text.exists_split_cons named
  exact ⟨_, by rw [parse?_of_split cut, if_neg (Text.split_ne_nil ':' rest)]⟩

theorem parse?_eq_none_iff {segment : String} :
    parse? segment = none ↔ ':' ∉ segment.toList := by
  refine ⟨fun none named => ?_, parse?_of_not_mem⟩
  obtain ⟨option, found⟩ := parse?_of_mem named
  rw [none] at found
  contradiction

theorem parse?_named (name : String) (letters : ':' ∉ name.toList) (args : String) :
    parse? (name ++ ":" ++ args) = some ⟨name, Text.split ':' args⟩ := by
  have cut : Text.split ':' (name ++ ":" ++ args) = name :: Text.split ':' args := by
    rw [String.append_assoc]
    exact Text.split_append letters args
  rw [parse?_of_split cut, if_neg (Text.split_ne_nil ':' args)]

theorem parse?_single (name : String) (letters : ':' ∉ name.toList) {arg : String}
    (plain : ':' ∉ arg.toList) : parse? (name ++ ":" ++ arg) = some ⟨name, [arg]⟩ := by
  rw [parse?_named name letters, Text.split_of_not_mem plain]

/-- There is an argument, and no colon but those in front of the arguments. -/
structure Writable (o : UrlOption) : Prop where
  args : o.args ≠ []
  plain : ∀ part ∈ o.name :: o.args, ':' ∉ part.toList

instance (o : UrlOption) : Decidable o.Writable :=
  decidable_of_iff (o.args ≠ [] ∧ ∀ part ∈ o.name :: o.args, ':' ∉ part.toList)
    ⟨fun ⟨args, plain⟩ => ⟨args, plain⟩, fun h => ⟨h.args, h.plain⟩⟩

theorem Writable.mem_text {o : UrlOption} (writable : o.Writable) :
    ':' ∈ o.text.toList := by
  rw [text, Text.join_cons o.name writable.args]
  simp

/-- Segments are read as what is written as them. -/
theorem parse?_eq_some_iff {segment : String} {o : UrlOption} :
    parse? segment = some o ↔ o.Writable ∧ o.text = segment := by
  constructor
  · intro parsed
    obtain ⟨name, args, cut⟩ := List.exists_cons_of_ne_nil (Text.split_ne_nil ':' segment)
    rw [parse?_of_split cut, Option.ite_none_left_eq_some] at parsed
    obtain ⟨several, same⟩ := parsed
    obtain rfl := Option.some.inj same
    exact ⟨⟨several, fun part member => Text.not_mem_of_mem_split (cut ▸ member)⟩,
      by rw [text, ← cut, Text.join_split]⟩
  · rintro ⟨writable, rfl⟩
    have cut : Text.split ':' o.text = o.name :: o.args :=
      Text.split_join ':' (o.name :: o.args) (List.cons_ne_nil _ _) writable.plain
    rw [parse?_of_split cut, if_neg writable.args]

theorem mapM_parse?_eq_some_iff {segments : List String} {options : List UrlOption} :
    segments.mapM parse? = some options ↔
      (∀ o ∈ options, o.Writable) ∧ options.map text = segments := by
  induction segments generalizing options with
  | nil => cases options <;> simp
  | cons segment rest ih =>
    cases options with
    | nil => simp [List.mapM_cons, Option.bind_eq_some_iff]
    | cons o others =>
      simp [List.mapM_cons, Option.bind_eq_some_iff, parse?_eq_some_iff, ih, and_and_and_comm]

theorem mapM_parse?_eq_none_iff {segments : List String} :
    segments.mapM parse? = none ↔ ∃ segment ∈ segments, ':' ∉ segment.toList := by
  induction segments with
  | nil => simp
  | cons segment rest ih =>
    by_cases named : ':' ∈ segment.toList
    · obtain ⟨o, parsed⟩ := parse?_of_mem named
      cases others : rest.mapM parse? <;> simp [List.mapM_cons, parsed, named, others, ← ih]
    · simp [List.mapM_cons, parse?_of_not_mem named, named]

theorem takeFrom_cons {segment : String} {option : UrlOption}
    (parsed : parse? segment = some option) (rest : List String) :
    takeFrom (segment :: rest) = (option :: (takeFrom rest).1, (takeFrom rest).2) := by
  rw [takeFrom, parsed]

theorem takeFrom_of_mapM {segments : List String} {options : List UrlOption}
    (read : segments.mapM parse? = some options) : takeFrom segments = (options, []) := by
  induction segments generalizing options with
  | nil =>
    obtain rfl := Option.some.inj read
    rfl
  | cons segment rest ih =>
    rw [List.mapM_cons] at read
    obtain ⟨option, parsed, read⟩ := Option.bind_eq_some_iff.mp read
    obtain ⟨others, remaining, listed⟩ := Option.bind_eq_some_iff.mp read
    obtain rfl := Option.some.inj listed
    rw [takeFrom_cons parsed, ih remaining]

theorem takeFrom_bare {source : List String} (bare : ∀ s ∈ source.head?, ':' ∉ s.toList) :
    takeFrom source = ([], source) := by
  cases source with
  | nil => rfl
  | cons first rest => rw [takeFrom, parse?_of_not_mem (bare first rfl)]

/-- The options in front are taken, and nothing from the first segment without a colon on. -/
theorem takeFrom_append {options source : List String} (named : ∀ s ∈ options, ':' ∈ s.toList)
    (bare : ∀ s ∈ source.head?, ':' ∉ s.toList) :
    takeFrom (options ++ source) = (options.filterMap parse?, source) := by
  induction options with
  | nil => exact takeFrom_bare bare
  | cons segment others ih =>
    obtain ⟨first, remaining⟩ := List.forall_mem_cons.mp named
    obtain ⟨option, parsed⟩ := parse?_of_mem first
    rw [List.cons_append, takeFrom_cons parsed, ih remaining, List.filterMap_cons_some parsed]

/-- What is put behind the last segment makes no option of it, and leaves the others as they are. -/
theorem takeFrom_append_last {t last : String} (clean : ':' ∉ t.toList) {front : List String} :
    ∀ {options : List UrlOption} {source : List String},
      takeFrom (front ++ [last]) = (options, source) → source ≠ [] →
        ∃ others, source = others ++ [last] ∧
          takeFrom (front ++ [last ++ t]) = (options, others ++ [last ++ t]) := by
  induction front with
  | nil =>
    intro options source taken filled
    cases parsed : parse? last with
    | some option =>
      simp only [List.nil_append, takeFrom, parsed] at taken
      exact absurd (Prod.mk.inj taken).2.symm filled
    | none =>
      -- The last segment has no colon, and what is put behind it brings none.
      have bare := parse?_eq_none_iff.mp parsed
      simp only [List.nil_append, takeFrom, parsed] at taken
      obtain ⟨rfl, rfl⟩ := Prod.mk.inj taken
      exact ⟨[], rfl, takeFrom_bare (by simp [bare, clean])⟩
  | cons segment front ih =>
    intro options source taken filled
    cases parsed : parse? segment with
    | some option =>
      rw [List.cons_append, takeFrom_cons parsed] at taken
      obtain ⟨rfl, rfl⟩ := Prod.mk.inj taken
      obtain ⟨others, same, extended⟩ := ih rfl filled
      exact ⟨others, same, by rw [List.cons_append, takeFrom_cons parsed, extended]⟩
    | none =>
      simp only [List.cons_append, takeFrom, parsed] at taken ⊢
      obtain ⟨rfl, rfl⟩ := Prod.mk.inj taken
      exact ⟨segment :: front, rfl, rfl⟩

/-- What is written as options in front is taken as these options, whatever segments follow that do
not go on with another one. -/
theorem takeFrom_written {options : List UrlOption} {source : List String}
    (writable : ∀ o ∈ options, o.Writable) (bare : ∀ s ∈ source.head?, ':' ∉ s.toList) :
    takeFrom (options.map text ++ source) = (options, source) := by
  induction options with
  | nil => exact takeFrom_bare bare
  | cons o others ih =>
    obtain ⟨first, remaining⟩ := List.forall_mem_cons.mp writable
    rw [List.map_cons, List.cons_append, takeFrom_cons (parse?_eq_some_iff.mpr ⟨first, rfl⟩),
      ih remaining]

/-- Segments are parted into options and what follows them, and nothing of the text gets lost. -/
theorem takeFrom_sound {segments source : List String} {options : List UrlOption}
    (taken : takeFrom segments = (options, source)) :
    options.map text ++ source = segments ∧ (∀ o ∈ options, o.Writable) ∧
      ∀ s ∈ source.head?, ':' ∉ s.toList := by
  induction segments generalizing options source with
  | nil =>
    cases taken
    simp
  | cons segment rest ih =>
    cases parsed : parse? segment with
    | none =>
      rw [takeFrom, parsed] at taken
      cases taken
      simpa using parse?_eq_none_iff.mp parsed
    | some o =>
      rw [takeFrom_cons parsed] at taken
      cases taken
      obtain ⟨writable, rfl⟩ := parse?_eq_some_iff.mp parsed
      obtain ⟨whole, others, bare⟩ := ih rfl
      exact ⟨congrArg _ whole, List.forall_mem_cons.mpr ⟨writable, others⟩, bare⟩

/-- Segments are taken as options as far as they go, and written again they are the segments that
were read. What is taken is options that have an argument and no colon in their parts, each segment
of it has a colon, and what is left begins with a segment that has none, if it has any. Every such
list of options and segments comes about in this way, from the segments that it is written as. -/
theorem takeFrom_lossless (segments : List String) :
    (∀ options source, takeFrom segments = (options, source) ↔
      options.map text ++ source = segments ∧ (∀ o ∈ options, o.Writable) ∧
        ∀ s ∈ source.head?, ':' ∉ s.toList) ∧
    ∀ segment ∈ segments.take (takeFrom segments).1.length, ':' ∈ segment.toList := by
  refine ⟨fun options source => ⟨takeFrom_sound, ?written⟩, ?named⟩
  case written =>
    rintro ⟨rfl, writable, bare⟩
    exact takeFrom_written writable bare
  case named =>
    cases taken : takeFrom segments with
    | mk options source =>
      obtain ⟨rfl, writable, -⟩ := takeFrom_sound taken
      rw [List.take_left' (by simp)]
      intro segment member
      obtain ⟨o, inside, rfl⟩ := List.mem_map.mp member
      exact (writable o inside).mem_text

/-- A name and arguments may be empty, and a colon alone is an option. -/
example : takeFrom ["rs:fill:1", ":", "q::", "abc", "x:y"] =
    ([⟨"rs", ["fill", "1"]⟩, ⟨"", [""]⟩, ⟨"q", ["", ""]⟩], ["abc", "x:y"]) := by decide +kernel

end ImageGateway.UrlOption
