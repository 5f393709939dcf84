import ImageGateway.Proofs.Request.Dialects
import ImageGateway.Proofs.Request.Written
import ImageGateway.Proofs.SourceUrl.Verdict

/-! An extension put behind a path that is read without one. It goes to the last segment of the
source, in every dialect and in either form, so that the options and the URL stay as they were. The
format is then what the extension names, whatever the options before it asked for. -/
namespace ImageGateway

namespace SourceUrl

theorem form_append_last (front : List String) (last t : String) :
    form (front ++ [last ++ t]) = form (front ++ [last]) := by
  cases front <;> simp [form]

theorem text_append_last (front : List String) (last t : String) :
    text (front ++ [last ++ t]) = text (front ++ [last]) ++ t := by
  unfold text
  rw [form_append_last]
  cases kind : form (front ++ [last]) with
  | base64 => simp [String.join_append, String.append_assoc]
  | plain =>
    cases front with
    | nil => simp [form] at kind
    | cons first front =>
      exact Text.join_append_last front last t

/-- A source without its delimiter has no extension, and takes the one that is put behind it. -/
theorem decode_append_last {front : List String} {last base extension : String} {found : SourceUrl}
    (decoded : decode (front ++ [last]) base = .ok found)
    (bare : (form (front ++ [last])).delimiter ∉ (text (front ++ [last])).toList)
    (named : extension ≠ "") (clean : (form (front ++ [last])).delimiter ∉ extension.toList) :
    found.extension = none ∧
      decode (front ++ [last ++
          (String.singleton (form (front ++ [last])).delimiter ++ extension)]) base =
        .ok ⟨found.url, some extension⟩ := by
  have filled (piece : String) : front ++ [piece] ≠ [] := by simp
  rw [decode_eq (filled _), decodeWith_ok] at decoded
  obtain ⟨payload, suffix, whole, visible, simple, -, written, read, rfl⟩ := decoded
  -- The delimiter would stand in front of a suffix.
  have alone : suffix = none := by
    cases suffix with
    | none => rfl
    | some e => simp [written, extended] at bare
  subst alone
  rw [extended] at written
  refine ⟨rfl, ?_⟩
  rw [decode_eq (filled _), form_append_last, text_append_last, decodeWith_ok, written]
  refine ⟨payload, some extension, whole, visible, simple, ?_, rfl, read, ?_⟩
  · simpa using clean
  · simp [Option.filter, named]

end SourceUrl

/-- What may be put behind a segment without being read as anything but a part of it. -/
structure Aside (t : String) : Prop where
  slash : '/' ∉ t.toList
  colon : ':' ∉ t.toList
  type : ∀ s, ResizeType.ofName? (s ++ t) = none

/-- An extension is put behind a segment with its delimiter, which is in the name of no resizing
type. -/
theorem aside_extension (form : SourceUrl.Form) {extension : String}
    (clean : ∀ c ∈ ['/', ':'], c ∉ extension.toList) :
    Aside (String.singleton form.delimiter ++ extension) where
  slash := by cases form <;> simp_all [SourceUrl.Form.delimiter]
  colon := by cases form <;> simp_all [SourceUrl.Form.delimiter]
  type s := by
    cases known : ResizeType.ofName? (s ++ (String.singleton form.delimiter ++ extension)) with
    | none => rfl
    | some type =>
      have letters : form.delimiter ∈ type.name.toList := by
        simp [← ResizeType.name_of_ofName? known]
      cases form <;> cases type <;> exact absurd letters (by decide)

namespace RequestParser

variable {p : RequestParser} {t last : String}

/-- The segments that the source of a path is decoded from. -/
def source (p : RequestParser) (path : String) (h : Headers) : List String :=
  match segments path with
  | _ :: first :: rest => (p.readOptions h first rest).2
  | _ => []

theorem segments_append_last {path : String} {front : List String}
    (cut : segments path = front ++ [last]) (several : front ≠ []) (aside : Aside t) :
    segments (path ++ t) = front ++ [last ++ t] := by
  have rooted : (Text.after? "/" (path ++ t)).getD (path ++ t) =
      (Text.after? "/" path).getD path ++ t := by
    cases letters : path.toList with
    | nil =>
      obtain rfl := String.toList_eq_nil_iff.mp letters
      cases front with
      | nil => contradiction
      | cons first front => simp [segments, Text.after?, Text.split] at cut
    | cons c rest =>
      by_cases root : '/' = c
      · subst root
        obtain rfl : path = "/" ++ String.ofList rest :=
          String.toList_injective (by simp [letters])
        rw [String.append_assoc, Text.after?_append, Text.after?_append]
        rfl
      · simp [Text.after?, letters, root]
  rw [segments] at cut ⊢
  rw [rooted]
  exact Text.split_append_last aside.slash cut

theorem exists_source_last (taken : List String) {front source : List String}
    (filled : source ≠ []) (whole : front ++ [last] = taken ++ source) :
    ∃ others, source = others ++ [last] ∧ front = taken ++ others := by
  obtain ⟨others, final, rfl⟩ := (List.eq_nil_or_concat source).resolve_left filled
  rw [List.concat_eq_append, ← List.append_assoc] at whole
  obtain ⟨rfl, same⟩ := List.append_inj' whole rfl
  exact ⟨others, by rw [same, List.concat_eq_append], rfl⟩

theorem Reads.append_last (aside : Aside t) {front source : List String} {tasks : List Task}
    (reads : p.Reads (front ++ [last]) tasks source) (filled : source ≠ []) :
    ∃ others, source = others ++ [last] ∧
      p.Reads (front ++ [last ++ t]) tasks (others ++ [last ++ t]) := by
  generalize whole : front ++ [last] = segments at reads
  cases reads with
  | @presets first source only =>
    obtain ⟨others, same, rfl⟩ := exists_source_last [first] filled whole
    exact ⟨others, same, .presets only⟩
  | @positions first width height gravity enlarge _ _ _ byName named =>
    obtain ⟨others, same, rfl⟩ := exists_source_last _ filled whole
    obtain ⟨image, more, extended⟩ : ∃ image more, others ++ [last ++ t] = image :: more :=
      List.exists_cons_of_ne_nil (by simp)
    refine ⟨others, same, ?_⟩
    rw [List.append_assoc, extended]
    exact .positions byName named
  | names byName unnamed taken =>
    rw [← whole] at taken
    obtain ⟨others, same, extended⟩ := UrlOption.takeFrom_append_last aside.colon taken filled
    refine ⟨others, same, ?_⟩
    cases front with
    | nil => exact .names byName (aside.type last) extended
    | cons segment front =>
      obtain ⟨rfl, -⟩ := List.cons.inj whole
      exact .names byName unnamed extended

/-- The same options are read, and the source takes what is put behind the last segment. -/
theorem readOptions_append_last (aside : Aside t) (h : Headers) {first first' : String}
    {front rest rest' : List String} (shape : first :: rest = front ++ [last])
    (shape' : first' :: rest' = front ++ [last ++ t]) (filled : (p.readOptions h first rest).2 ≠ []) :
    ∃ others, (p.readOptions h first rest).2 = others ++ [last] ∧
      p.readOptions h first' rest' = ((p.readOptions h first rest).1, others ++ [last ++ t]) := by
  cases asked : p.tasks? first rest with
  | none => simp [readOptions_of_none asked] at filled
  | some found =>
    obtain ⟨tasks, source⟩ := found
    rw [readOptions_of_tasks asked] at filled ⊢
    have reads := tasks?_eq_some_iff.mp asked
    rw [shape] at reads
    obtain ⟨others, same, extended⟩ := reads.append_last aside filled
    rw [← shape'] at extended
    exact ⟨others, same, readOptions_of_tasks (tasks?_eq_some_iff.mpr extended) h⟩

theorem parse_append_last (insecure : p.config.allowInsecure = true) (aside : Aside t) (h : Headers)
    {path signature first : String} {rest : List String}
    (cut : segments path = signature :: first :: rest)
    (filled : (p.readOptions h first rest).2 ≠ []) :
    ∃ others last, (p.readOptions h first rest).2 = others ++ [last] ∧
      (p.parse (path ++ t) h).value =
        (p.finish (p.readOptions h first rest).1 (others ++ [last ++ t])).mapError .ofParseError := by
  obtain ⟨front, last, shape⟩ : ∃ front last, first :: rest = front ++ [last] :=
    ⟨_, _, (List.dropLast_concat_getLast (List.cons_ne_nil first rest)).symm⟩
  obtain ⟨first', rest', shape'⟩ : ∃ first' rest', front ++ [last ++ t] = first' :: rest' :=
    List.exists_cons_of_ne_nil (by simp)
  have longer : segments (path ++ t) = signature :: first' :: rest' := by
    rw [← shape', ← List.cons_append]
    exact segments_append_last (by rw [cut, shape]; rfl) (by simp) aside
  obtain ⟨others, split, read⟩ := readOptions_append_last aside h shape shape'.symm filled
  exact ⟨others, last, split, by rw [parse_unsigned insecure longer, accepted, read]⟩

theorem finish_extension {options : Outcome Options} {source : List String} {url extension : String}
    (sound : options.fault = none)
    (decoded : SourceUrl.decode source p.config.baseUrl = .ok ⟨url, some extension⟩) :
    p.finish options source =
      match ImageType.ofName? extension with
      | none => .error (.value "image format" extension)
      | some type =>
        if p.canSave type then .ok ⟨url, { options.state with format := type }⟩
        else .error (.unsupportedFormat type) := by
  rw [finish_sound sound, decoded]
  simp only [applyExtension, Setting.readFormat]
  cases ImageType.ofName? extension with
  | none => rfl
  | some type =>
    by_cases saved : p.canSave type = true
    · simp only [if_pos saved]
      rfl
    · simp only [if_neg saved]
      rfl

/-- A path that is read from a source without an extension is read with one too. Of the request only
the format changes, whatever was asked for it by name, or it is refused for the extension alone. -/
theorem parse_extension (p : RequestParser) (insecure : p.config.allowInsecure = true) (h : Headers)
    (path extension : String) (request : ImageRequest)
    (parsed : (p.parse path h).value = .ok request)
    (bare : (SourceUrl.form (p.source path h)).delimiter ∉
      (SourceUrl.text (p.source path h)).toList)
    (named : extension ≠ "")
    (clean : ∀ c ∈ ['/', ':', (SourceUrl.form (p.source path h)).delimiter],
      c ∉ extension.toList) :
    let longer :=
      path ++ (String.singleton (SourceUrl.form (p.source path h)).delimiter ++ extension)
    (∀ type, ImageType.ofName? extension = some type → p.canSave type = true →
      (p.parse longer h).value =
        .ok { request with options := { request.options with format := type } }) ∧
    (∀ type, ImageType.ofName? extension = some type → p.canSave type = false →
      (p.parse longer h).value = .error (.invalidUrl .unsupportedFormat
        ("Resulting image format is not supported: " ++ type.name))) ∧
    (ImageType.ofName? extension = none →
      (p.parse longer h).value = .error (.invalidUrl .invalidArgument
        ("Invalid image format: " ++ extension))) := by
  intro longer
  obtain ⟨signature, first, rest, cut, -, finished⟩ := parse_ok parsed
  obtain ⟨found, sound, decoded, -, rfl⟩ := finish_ok finished
  have same : p.source path h = (p.readOptions h first rest).2 := by rw [source, cut]
  simp only [longer, same] at bare clean ⊢
  have filled : (p.readOptions h first rest).2 ≠ [] := by
    intro none
    rw [none] at decoded
    contradiction
  simp only [List.forall_mem_cons] at clean
  obtain ⟨slashes, colons, outside, -⟩ := clean
  have aside := aside_extension (SourceUrl.form (p.readOptions h first rest).2)
    (List.forall_mem_cons.mpr ⟨slashes, List.forall_mem_singleton.mpr colons⟩)
  obtain ⟨others, last, split, answered⟩ := parse_append_last insecure aside h cut filled
  rw [split] at decoded bare outside answered ⊢
  obtain ⟨unnamed, extended⟩ := SourceUrl.decode_append_last decoded bare named outside
  rw [answered, finish_extension sound extended, unnamed]
  refine ⟨fun type known saved => ?_, fun type known lost => ?_, fun unknown => ?_⟩
  · simp only [known, saved, if_true]
    rfl
  · simp only [known, lost, Bool.false_eq_true, if_false]
    rfl
  · simp only [unknown]
    rfl

/-- A format by name, and three extensions: one that can be had, one that cannot, and none at all. -/
theorem parse_extension_png :
    let p : RequestParser := { config := { allowInsecure := true } }
    let o : Options := { Options.baseline 80 with format := .png }
    let path := "/s/f:png/YQ"
    let form := SourceUrl.form (p.source path {})
    p.config.allowInsecure = true ∧ (p.parse path {}).value = .ok ⟨"a", o⟩ ∧
      form.delimiter ∉ (SourceUrl.text (p.source path {})).toList ∧
      (∀ extension ∈ ["webp", "svg", "x"],
        extension ≠ "" ∧ ∀ c ∈ ['/', ':', form.delimiter], c ∉ extension.toList) ∧
      (p.parse (path ++ (String.singleton form.delimiter ++ "webp")) {}).value =
        .ok ⟨"a", { o with format := .webp }⟩ ∧
      (p.parse (path ++ (String.singleton form.delimiter ++ "svg")) {}).value =
        .error (.invalidUrl .unsupportedFormat ("Resulting image format is not supported: " ++ "svg")) ∧
      (p.parse (path ++ (String.singleton form.delimiter ++ "x")) {}).value =
        .error (.invalidUrl .invalidArgument ("Invalid image format: " ++ "x")) := by
  intro p o path form
  have cut : segments path = "s" :: (["f:png"] ++ ["YQ"]) := by decide +kernel
  have settings : (["f:png"].filterMap UrlOption.parse?).mapM UrlOption.directive? =
      some [⟨.format, ["png"]⟩] := by decide +kernel
  have parsed : (p.parse path {}).value = .ok ⟨"a", o⟩ :=
    parse_settings rfl rfl {} cut (by decide) (by decide) (by decide) settings (by decide +kernel)
      rfl
  have read : p.source path {} = ["YQ"] := by decide +kernel
  have bare : form.delimiter ∉ (SourceUrl.text (p.source path {})).toList := by
    simp only [form, read]
    decide
  have clean : ∀ extension ∈ ["webp", "svg", "x"],
      extension ≠ "" ∧ ∀ c ∈ ['/', ':', form.delimiter], c ∉ extension.toList := by
    simp [form, read, SourceUrl.form, SourceUrl.Form.delimiter]
  have extended (extension : String) (listed : extension ∈ ["webp", "svg", "x"]) :=
    parse_extension p rfl {} path extension ⟨"a", o⟩ parsed bare (clean extension listed).1
      (clean extension listed).2
  exact ⟨rfl, parsed, bare, clean, (extended "webp" (by decide)).1 .webp rfl rfl,
    (extended "svg" (by decide)).2.1 .svg rfl rfl, (extended "x" (by decide)).2.2 rfl⟩

end RequestParser
end ImageGateway
