import ImageGateway.Proofs.Preset.Directives
import ImageGateway.Proofs.Request.Stages
import ImageGateway.Proofs.SourceUrl
import ImageGateway.Proofs.UrlOption

/-! Paths written for options by name and a source URL. Reading such a path gives the outcome of
the options alone, with a format for the extension as the last of them, and the URL that was
written, whichever way it was encoded and cut into segments. -/
namespace ImageGateway

theorem ResizeType.ofName?_of_mem {s : String} (named : ':' ∈ s.toList) : ofName? s = none := by
  cases known : ofName? s with
  | none => rfl
  | some type =>
    obtain rfl := name_of_ofName? known
    cases type <;> exact absurd named (by decide)

namespace RequestParser

def formatOption : Option String → List UrlOption
  | none => []
  | some extension => [⟨"format", [extension]⟩]

/-- What options by name come to when they stand before the source of that text. -/
def answer (p : RequestParser) (h : Headers) (options : List UrlOption) (text : String) :
    Logged (Except RequestError ImageRequest) :=
  let outcome := p.namedDialect h options
  let result : Except RequestError ImageRequest :=
    match outcome.fault with
    | some e => .error (.ofParseError e)
    | none => .ok ⟨p.config.baseUrl ++ text, outcome.state⟩
  ⟨outcome.warnings.map .warned ++ p.completion result, result⟩

variable {p : RequestParser}

theorem namedDialect_append (h : Headers) (first second : List UrlOption) :
    p.namedDialect h (first ++ second) =
      (p.namedDialect h first).andThen fun o => o.applyAll p.context second := by
  rw [namedDialect, namedDialect, Outcome.andThen_assoc]
  exact congrArg _ (funext fun _ => Options.applyAll_append first second)

theorem namedDialect_directives {options : List UrlOption} {directives : List Directive}
    (settings : options.mapM UrlOption.directive? = some directives) (h : Headers) :
    p.namedDialect h options =
      (p.defaults h).andThen (Reading.all (directives.map (·.read p.canSave))).applyTo :=
  congrArg (p.defaults h).andThen (funext (Options.applyAll_directives settings))

theorem applyExtension_eq (extension : Option String) (o : Options) :
    p.applyExtension extension o = o.applyAll p.context (formatOption extension) := by
  cases extension with
  | none => rw [formatOption, Options.applyAll_nil]; rfl
  | some e =>
    have named : OptionName.ofText? "format" = some (.setting .format) := rfl
    have applied : o.apply p.context ⟨"format", [e]⟩ =
        (Setting.format.read p.canSave [e]).applyTo o := Options.apply_setting named
    exact applied.symm

theorem warnings_applyExtension (extension : Option String) (o : Options) :
    (p.applyExtension extension o).warnings = [] := by
  cases extension with
  | none => rfl
  | some e =>
    simp only [applyExtension, Setting.readFormat]
    split
    next => rfl
    next => split <;> rfl

def requested (url : String) (final : Outcome Options) : Except ParseError ImageRequest :=
  match final.fault with
  | some e => .error e
  | none => .ok ⟨url, final.state⟩

theorem finish_decoded {source : List String} {decoded : SourceUrl}
    (read : SourceUrl.decode source p.config.baseUrl = .ok decoded) (options : Outcome Options) :
    p.finish options source = requested decoded.url
      (options.andThen (·.applyAll p.context (formatOption decoded.extension))) := by
  cases fault : options.fault with
  | some e =>
    have stopped : options.andThen (·.applyAll p.context (formatOption decoded.extension)) =
        options := by rw [Outcome.andThen, fault]
    rw [stopped, requested, fault, finish, fault]
    rfl
  | none =>
    simp only [← applyExtension_eq]
    rw [finish_sound fault, read, Outcome.andThen, fault]
    rfl

/-- The answer is what is left after the options and the format. -/
theorem finish_answer {h : Headers} {options : List UrlOption} {source : List String}
    {text : String} {extension : Option String}
    (decoded : SourceUrl.decode source p.config.baseUrl =
      .ok ⟨p.config.baseUrl ++ text, extension⟩) :
    (let result := (p.finish (p.namedDialect h options) source).mapError RequestError.ofParseError
     (⟨(p.namedDialect h options).warnings.map .warned ++ p.completion result, result⟩ :
       Logged (Except RequestError ImageRequest))) =
      p.answer h (options ++ formatOption extension) text := by
  have quiet : (p.namedDialect h (options ++ formatOption extension)).warnings =
      (p.namedDialect h options).warnings := by
    rw [namedDialect_append, Outcome.andThen]
    split
    next => rfl
    next =>
      rw [← applyExtension_eq]
      exact (congrArg _ (warnings_applyExtension extension _)).trans (List.append_nil _)
  simp only [answer, finish_decoded decoded, ← namedDialect_append, quiet, requested]
  cases (p.namedDialect h (options ++ formatOption extension)).fault with
  | some e => rfl
  | none => rfl

theorem readOptions_written (byName : p.config.onlyPresets = false) (h : Headers)
    {options source others : List String} {front : String}
    (shape : options ++ source = front :: others) (named : ∀ s ∈ options, ':' ∈ s.toList)
    (bare : ∀ s ∈ source.head?, ':' ∉ s.toList)
    (dialect : options ≠ [] ∨ ∀ first ∈ source.head?, ResizeType.ofName? first = none) :
    p.readOptions h front others =
      (p.namedDialect h (options.filterMap UrlOption.parse?), source) := by
  have taken := UrlOption.takeFrom_append named bare
  rw [shape] at taken
  have ordinary : ResizeType.ofName? front = none := by
    cases options with
    | nil =>
      have opening : source.head? = some front := congrArg List.head? shape
      exact dialect.resolve_left (by simp) front opening
    | cons option more =>
      obtain ⟨rfl, -⟩ := List.cons.inj shape
      exact ResizeType.ofName?_of_mem (named option (by simp))
  simp only [readOptions, byName, Bool.false_eq_true, if_false, ordinary, taken]

/-- Segments for options and then for a source are read as they were meant, unless the source
stands alone and looks like the positional dialect. -/
theorem parse_written (byName : p.config.onlyPresets = false)
    (insecure : p.config.allowInsecure = true) (h : Headers) {path signature first text : String}
    {options rest : List String} {extension : Option String}
    (cut : segments path = signature :: (options ++ first :: rest))
    (named : ∀ s ∈ options, ':' ∈ s.toList) (bare : ':' ∉ first.toList)
    (dialect : options ≠ [] ∨ ResizeType.ofName? first = none)
    (decoded : SourceUrl.decode (first :: rest) p.config.baseUrl =
      .ok ⟨p.config.baseUrl ++ text, extension⟩) :
    p.parse path h =
      p.answer h (options.filterMap UrlOption.parse? ++ formatOption extension) text := by
  obtain ⟨front, others, shape⟩ : ∃ front others, options ++ first :: rest = front :: others :=
    List.exists_cons_of_ne_nil (by simp)
  have read := readOptions_written byName h shape named (by simpa using bare)
    (by simpa using dialect)
  rw [shape] at cut
  rw [parse_unsigned insecure cut, accepted, read]
  exact finish_answer decoded

/-- Segments that all ask for settings, before a source without an extension, leave what their
readings leave one after the other. -/
theorem parse_settings (byName : p.config.onlyPresets = false)
    (insecure : p.config.allowInsecure = true) (h : Headers) {path signature first text : String}
    {options rest : List String} {directives : List Directive} {o : Options}
    (cut : segments path = signature :: (options ++ first :: rest)) (filled : options ≠ [])
    (named : ∀ s ∈ options, ':' ∈ s.toList) (bare : ':' ∉ first.toList)
    (settings : (options.filterMap UrlOption.parse?).mapM UrlOption.directive? = some directives)
    (outcome : ((p.defaults h).andThen
      (Reading.all (directives.map (·.read p.canSave))).applyTo) = { state := o })
    (decoded : SourceUrl.decode (first :: rest) p.config.baseUrl =
      .ok ⟨p.config.baseUrl ++ text, none⟩) :
    (p.parse path h).value = .ok ⟨p.config.baseUrl ++ text, o⟩ := by
  rw [parse_written byName insecure h cut named bare (.inl filled) decoded, formatOption,
    List.append_nil]
  simp only [answer, namedDialect_directives settings, outcome]

theorem segments_rooted (text : String) : segments ("/" ++ text) = Text.split '/' text := by
  rw [segments, Text.after?_append, Option.getD_some]

theorem segments_joined {pieces : List String} (filled : pieces ≠ [])
    (clean : ∀ s ∈ pieces, '/' ∉ s.toList) : segments ("/" ++ Text.join '/' pieces) = pieces := by
  rw [segments_rooted, Text.split_join '/' pieces filled clean]

/-- The base64 of a URL, cut anywhere into segments, is read as the URL behind the options. No cut
makes it look like the plain form, since base64 of a text cannot begin with `plain`. -/
theorem parse_base64 (p : RequestParser) (byName : p.config.onlyPresets = false)
    (insecure : p.config.allowInsecure = true) (h : Headers) (signature text : String)
    (options pieces : List String) (padding : Nat) (extension : Option String)
    (whole : '/' ∉ signature.toList)
    (named : ∀ s ∈ options, '/' ∉ s.toList ∧ ':' ∈ s.toList) (filled : text ≠ "")
    (clean : ∀ e ∈ extension, e ≠ "" ∧ '.' ∉ e.toList ∧ ':' ∉ e.toList ∧ '/' ∉ e.toList)
    (cut : String.join pieces =
      SourceUrl.extended '.' (SourceUrl.base64Text text padding) extension)
    (dialect : options ≠ [] ∨ ∀ first ∈ pieces.head?, ResizeType.ofName? first = none) :
    p.parse ("/" ++ Text.join '/' ([signature] ++ options ++ pieces)) h =
        p.answer h (options.filterMap UrlOption.parse? ++ formatOption extension) text ∧
      pieces.head? ≠ some "plain" := by
  have simple : ∀ e ∈ extension, e ≠ "" ∧ '.' ∉ e.toList :=
    fun e member => ⟨(clean e member).1, (clean e member).2.1⟩
  obtain ⟨other, decoded⟩ := SourceUrl.decode_base64 filled simple cut p.config.baseUrl
  have absent {c : Char} (digit : Base64Url.sextet? c = none) (visible : c ≠ '=') (dot : c ≠ '.')
      (outside : ∀ e ∈ extension, c ∉ e.toList) : ∀ piece ∈ pieces, c ∉ piece.toList := by
    intro piece member inside
    have joined : c ∈ (String.join pieces).toList := by
      rw [String.toList_join]
      exact List.mem_flatMap.mpr ⟨piece, member, inside⟩
    rw [cut] at joined
    exact SourceUrl.not_mem_extended dot
      (SourceUrl.not_mem_base64Text digit visible text padding) outside joined
  have slashes : ∀ piece ∈ pieces, '/' ∉ piece.toList :=
    absent (by decide) (by decide) (by decide) fun e member => (clean e member).2.2.2
  have colons : ∀ piece ∈ pieces, ':' ∉ piece.toList :=
    absent (by decide) (by decide) (by decide) fun e member => (clean e member).2.2.1
  have pieced : ∀ s ∈ [signature] ++ options ++ pieces, '/' ∉ s.toList := by
    intro s member
    rcases List.mem_append.mp member with front | source
    · rcases List.mem_append.mp front with first | option
      · exact List.mem_singleton.mp first ▸ whole
      · exact (named s option).1
    · exact slashes s source
  refine ⟨?_, other⟩
  cases pieces with
  | nil => contradiction
  | cons first rest =>
    have segmented : segments ("/" ++ Text.join '/' ([signature] ++ options ++ first :: rest)) =
        signature :: (options ++ first :: rest) := by
      rw [segments_rooted, Text.split_join '/' _ (by simp) pieced]
      rfl
    exact parse_written byName insecure h segmented (fun s member => (named s member).2)
      (colons first (by simp)) (dialect.imp_right fun ordinary => ordinary first rfl) decoded

/-- Padding, an empty segment in front and a cut inside the extension. -/
theorem parse_base64_cut :
    let p : RequestParser := { config := { allowInsecure := true, baseUrl := "b:" } }
    p.config.onlyPresets = false ∧ p.config.allowInsecure = true ∧ '/' ∉ "".toList ∧
      (∀ s ∈ ["w:5"], '/' ∉ s.toList ∧ ':' ∈ s.toList) ∧ "é" ≠ "" ∧
      (∀ e ∈ some "png", e ≠ "" ∧ '.' ∉ e.toList ∧ ':' ∉ e.toList ∧ '/' ∉ e.toList) ∧
      String.join ["", "w6", "k=.p", "ng"] =
        SourceUrl.extended '.' (SourceUrl.base64Text "é" 1) (some "png") ∧
      p.parse ("/" ++ Text.join '/' ([""] ++ ["w:5"] ++ ["", "w6", "k=.p", "ng"])) {} =
        p.answer {} (["w:5"].filterMap UrlOption.parse? ++ formatOption (some "png")) "é" ∧
      ["", "w6", "k=.p", "ng"].head? ≠ some "plain" ∧
      p.namedDialect {} (["w:5"].filterMap UrlOption.parse? ++ formatOption (some "png")) =
        { state := { Options.baseline 80 with width := 5, format := .png } } := by
  intro p
  have named : ∀ s ∈ ["w:5"], '/' ∉ s.toList ∧ ':' ∈ s.toList := by decide
  have clean : ∀ e ∈ some "png", e ≠ "" ∧ '.' ∉ e.toList ∧ ':' ∉ e.toList ∧ '/' ∉ e.toList := by
    decide
  have cut : String.join ["", "w6", "k=.p", "ng"] =
      SourceUrl.extended '.' (SourceUrl.base64Text "é" 1) (some "png") := by decide +kernel
  have settings : (["w:5"].filterMap UrlOption.parse? ++ formatOption (some "png")).mapM
      UrlOption.directive? = some [⟨.width, ["5"]⟩, ⟨.format, ["png"]⟩] := by decide +kernel
  obtain ⟨read, form⟩ := parse_base64 p rfl rfl {} "" "é" ["w:5"] ["", "w6", "k=.p", "ng"] 1
    (some "png") (by decide) named (by decide) clean cut (.inl (by simp))
  refine ⟨rfl, rfl, by decide, named, by decide, clean, cut, read, form, ?_⟩
  rw [namedDialect_directives settings]
  decide +kernel

/-- A URL in any escaping is read as the URL behind the options, slashes, colons and empty pieces
of it included. -/
theorem parse_plain (p : RequestParser) (byName : p.config.onlyPresets = false)
    (insecure : p.config.allowInsecure = true) (h : Headers) (signature text written : String)
    (options : List String) (extension : Option String) (whole : '/' ∉ signature.toList)
    (named : ∀ s ∈ options, '/' ∉ s.toList ∧ ':' ∈ s.toList) (filled : text ≠ "")
    (clean : ∀ e ∈ extension, e ≠ "" ∧ '@' ∉ e.toList)
    (spelled : Percent.Spelling ['%', '@'] text.toList written.toList) :
    p.parse ("/" ++ Text.join '/' ([signature] ++ options ++ ["plain"]) ++ "/" ++
        SourceUrl.extended '@' written extension) h =
      p.answer h (options.filterMap UrlOption.parse? ++ formatOption extension) text := by
  have pieced : ∀ s ∈ [signature] ++ options ++ ["plain"], '/' ∉ s.toList := by
    intro s member
    rcases List.mem_append.mp member with front | mark
    · rcases List.mem_append.mp front with first | option
      · exact List.mem_singleton.mp first ▸ whole
      · exact (named s option).1
    · exact List.mem_singleton.mp mark ▸ by decide
  have cut : segments ("/" ++ Text.join '/' ([signature] ++ options ++ ["plain"]) ++ "/" ++
      SourceUrl.extended '@' written extension) =
      signature :: (options ++ "plain" ::
        Text.split '/' (SourceUrl.extended '@' written extension)) := by
    rw [String.append_assoc, String.append_assoc, segments_rooted]
    calc
      _ = [signature] ++ options ++ ["plain"] ++
          Text.split '/' (SourceUrl.extended '@' written extension) :=
        Text.split_join_append (by simp) pieced _
      _ = _ := by simp
  exact parse_written byName insecure h cut (fun s member => (named s member).2) (by decide)
    (.inr rfl) (SourceUrl.decode_plain filled spelled clean p.config.baseUrl)

/-- Escapes of both cases beside a slash, a colon and a reserved character. -/
theorem parse_plain_escaped :
    let p : RequestParser := { config := { allowInsecure := true, baseUrl := "b:" } }
    p.config.onlyPresets = false ∧ p.config.allowInsecure = true ∧ '/' ∉ "s".toList ∧
      (∀ s ∈ ["w:5"], '/' ∉ s.toList ∧ ':' ∈ s.toList) ∧ ":/é%/" ≠ "" ∧
      (∀ e ∈ some "png", e ≠ "" ∧ '@' ∉ e.toList) ∧
      Percent.Spelling ['%', '@'] ":/é%/".toList ":/%C3%a9%25/".toList ∧
      p.parse ("/" ++ Text.join '/' (["s"] ++ ["w:5"] ++ ["plain"]) ++ "/" ++
          SourceUrl.extended '@' ":/%C3%a9%25/" (some "png")) {} =
        p.answer {} (["w:5"].filterMap UrlOption.parse? ++ formatOption (some "png")) ":/é%/" := by
  intro p
  have named : ∀ s ∈ ["w:5"], '/' ∉ s.toList ∧ ':' ∈ s.toList := by decide
  have clean : ∀ e ∈ some "png", e ≠ "" ∧ '@' ∉ e.toList := by decide
  have accent : Percent.Escaped (String.utf8EncodeChar 'é') ['%', 'C', '3', '%', 'a', '9'] :=
    .cons (by decide) (by decide) (.cons (by decide) (by decide) .nil)
  have sign : Percent.Escaped (String.utf8EncodeChar '%') ['%', '2', '5'] :=
    .cons (by decide) (by decide) .nil
  have spelled : Percent.Spelling ['%', '@'] ":/é%/".toList ":/%C3%a9%25/".toList :=
    .raw (by decide) (.raw (by decide) (.escaped accent (.escaped sign (.raw (by decide) .nil))))
  exact ⟨rfl, rfl, by decide, named, by decide, clean, spelled,
    parse_plain p rfl rfl {} "s" ":/é%/" ":/%C3%a9%25/" ["w:5"] (some "png") (by decide) named
      (by decide) clean spelled⟩

end RequestParser
end ImageGateway
