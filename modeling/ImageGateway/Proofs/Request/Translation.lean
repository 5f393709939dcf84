import ImageGateway.Proofs.Request.Dialects
import ImageGateway.Proofs.Request.Written

/-! The dialects translated into each other. Whatever the positional dialect and the preset dialect
say, options by name say too: the translated path gives the same answer with the same events, and is
refused with the same error. -/
namespace ImageGateway

theorem ResizeType.whole_of_ofName? {s : String} {type : ResizeType} (named : ofName? s = some type) :
    ':' ∉ s.toList ∧ '/' ∉ s.toList := by
  obtain rfl := name_of_ofName? named
  cases type <;> decide

namespace RequestParser

variable {p : RequestParser}

/-- The settings by position, each with its name before it, are taken as the options for them. -/
theorem takeFrom_positional {type width height enlarge : String} (kind : ':' ∉ type.toList)
    (wide : ':' ∉ width.toList) (high : ':' ∉ height.toList) (large : ':' ∉ enlarge.toList)
    (gravity : String) {source : List String} (bare : ∀ s ∈ source.head?, ':' ∉ s.toList) :
    UrlOption.takeFrom (["rt:" ++ type, "w:" ++ width, "h:" ++ height, "g:" ++ gravity,
        "el:" ++ enlarge] ++ source) =
      (positionalOptions type width height gravity enlarge, source) := by
  have resized : UrlOption.parse? ("rt:" ++ type) = some ⟨"rt", [type]⟩ :=
    UrlOption.parse?_single "rt" (by decide) kind
  have widened : UrlOption.parse? ("w:" ++ width) = some ⟨"w", [width]⟩ :=
    UrlOption.parse?_single "w" (by decide) wide
  have heightened : UrlOption.parse? ("h:" ++ height) = some ⟨"h", [height]⟩ :=
    UrlOption.parse?_single "h" (by decide) high
  have placed : UrlOption.parse? ("g:" ++ gravity) = some ⟨"g", Text.split ':' gravity⟩ :=
    UrlOption.parse?_named "g" (by decide) gravity
  have enlarged : UrlOption.parse? ("el:" ++ enlarge) = some ⟨"el", [enlarge]⟩ :=
    UrlOption.parse?_single "el" (by decide) large
  simp only [List.cons_append, List.nil_append]
  rw [UrlOption.takeFrom_cons resized, UrlOption.takeFrom_cons widened,
    UrlOption.takeFrom_cons heightened, UrlOption.takeFrom_cons placed,
    UrlOption.takeFrom_cons enlarged, UrlOption.takeFrom_bare bare]
  rfl

theorem tasks?_position (byName : p.config.onlyPresets = false) {first : String} {type : ResizeType}
    (named : ResizeType.ofName? first = some type) (width height gravity enlarge source : String)
    (rest : List String) :
    p.tasks? first ([width, height, gravity, enlarge] ++ source :: rest) =
      some (Task.ofOptions (positionalOptions first width height gravity enlarge),
        source :: rest) :=
  tasks?_eq_some_iff.mpr (.positions byName named)

theorem tasks?_named (byName : p.config.onlyPresets = false) {first : String}
    {rest source : List String} {options : List UrlOption} (named : ':' ∈ first.toList)
    (taken : UrlOption.takeFrom (first :: rest) = (options, source)) :
    p.tasks? first rest = some (Task.ofOptions options, source) :=
  tasks?_eq_some_iff.mpr (.names byName (ResizeType.ofName?_of_mem named) taken)

/-- Settings by position are options by name: a path with the name before each setting gives the
same answer. -/
theorem parse_positional (p : RequestParser) (byName : p.config.onlyPresets = false)
    (insecure : p.config.allowInsecure = true) (h : Headers)
    (signature type width height gravity enlarge source : String) (rest : List String)
    (keyword : ResizeType.ofName? type ≠ none)
    (whole : ∀ s ∈ [signature, width, height, gravity, enlarge, source] ++ rest, '/' ∉ s.toList)
    (plain : ∀ s ∈ [width, height, enlarge, source], ':' ∉ s.toList) :
    p.parse ("/" ++ Text.join '/'
        ([signature, type, width, height, gravity, enlarge] ++ source :: rest)) h =
      p.parse ("/" ++ Text.join '/' ([signature, "rt:" ++ type, "w:" ++ width, "h:" ++ height,
        "g:" ++ gravity, "el:" ++ enlarge] ++ source :: rest)) h := by
  obtain ⟨resize, named⟩ := Option.ne_none_iff_exists'.mp keyword
  obtain ⟨kind, piece⟩ := ResizeType.whole_of_ofName? named
  simp only [List.cons_append, List.nil_append, List.forall_mem_cons] at whole plain
  obtain ⟨sign, wide, high, place, large, image, others⟩ := whole
  obtain ⟨width_plain, height_plain, enlarge_plain, bare, -⟩ := plain
  have opening : ∀ s ∈ (source :: rest).head?, ':' ∉ s.toList := by simpa using bare
  have taken := takeFrom_positional kind width_plain height_plain enlarge_plain gravity opening
  have positions : segments ("/" ++ Text.join '/'
      ([signature, type, width, height, gravity, enlarge] ++ source :: rest)) =
      [signature, type, width, height, gravity, enlarge] ++ source :: rest := by
    refine segments_joined (by simp) ?_
    simp only [List.cons_append, List.nil_append, List.forall_mem_cons]
    exact ⟨sign, piece, wide, high, place, large, image, others⟩
  have names : segments ("/" ++ Text.join '/' ([signature, "rt:" ++ type, "w:" ++ width,
      "h:" ++ height, "g:" ++ gravity, "el:" ++ enlarge] ++ source :: rest)) =
      [signature, "rt:" ++ type, "w:" ++ width, "h:" ++ height, "g:" ++ gravity,
        "el:" ++ enlarge] ++ source :: rest := by
    have prefixed {lead s : String} (letters : '/' ∉ lead.toList) (clean : '/' ∉ s.toList) :
        '/' ∉ (lead ++ s).toList := by simp [letters, clean]
    refine segments_joined (by simp) ?_
    simp only [List.cons_append, List.nil_append, List.forall_mem_cons]
    exact ⟨sign, prefixed (by decide) piece, prefixed (by decide) wide, prefixed (by decide) high,
      prefixed (by decide) place, prefixed (by decide) large, image, others⟩
  rw [parse_unsigned insecure positions, parse_unsigned insecure names]
  have byPosition := tasks?_position byName named width height gravity enlarge source rest
  have byNames := tasks?_named byName (by simp) taken
  exact accepted_congr ((readOptions_of_tasks byPosition h).trans
    (readOptions_of_tasks byNames h).symm) rfl rfl

/-- A gravity with an offset, and no signature. -/
theorem parse_positional_offset :
    let p : RequestParser := { config := { allowInsecure := true } }
    let o : Options := { Options.baseline 80 with
      resizeType := .fill
      width := 300
      gravity := ⟨.north, .finite ⟨false, 1 <<< 52, -52⟩, 0⟩
      enlarge := true }
    p.config.onlyPresets = false ∧ p.config.allowInsecure = true ∧
      ResizeType.ofName? "fill" ≠ none ∧
      (∀ s ∈ ["", "300", "0", "no:1", "t", "Y"] ++ ["Q"], '/' ∉ s.toList) ∧
      (∀ s ∈ ["300", "0", "t", "Y"], ':' ∉ s.toList) ∧
      p.parse ("/" ++ Text.join '/' (["", "fill", "300", "0", "no:1", "t"] ++ "Y" :: ["Q"])) {} =
        p.parse ("/" ++ Text.join '/' (["", "rt:" ++ "fill", "w:" ++ "300", "h:" ++ "0",
          "g:" ++ "no:1", "el:" ++ "t"] ++ "Y" :: ["Q"])) {} ∧
      (p.parse ("/" ++ Text.join '/' (["", "fill", "300", "0", "no:1", "t"] ++ "Y" :: ["Q"]))
        {}).value = .ok ⟨"a", o⟩ := by
  intro p o
  have whole : ∀ s ∈ ["", "300", "0", "no:1", "t", "Y"] ++ ["Q"], '/' ∉ s.toList := by decide
  have plain : ∀ s ∈ ["300", "0", "t", "Y"], ':' ∉ s.toList := by decide
  have same := parse_positional p rfl rfl {} "" "fill" "300" "0" "no:1" "t" "Y" ["Q"] (by decide)
    whole plain
  have cut : segments ("/" ++ Text.join '/' (["", "rt:" ++ "fill", "w:" ++ "300", "h:" ++ "0",
      "g:" ++ "no:1", "el:" ++ "t"] ++ "Y" :: ["Q"])) =
      "" :: (["rt:fill", "w:300", "h:0", "g:no:1", "el:t"] ++ "Y" :: ["Q"]) := by decide +kernel
  have settings : (["rt:fill", "w:300", "h:0", "g:no:1", "el:t"].filterMap
      UrlOption.parse?).mapM UrlOption.directive? = some [⟨.resizingType, ["fill"]⟩,
        ⟨.width, ["300"]⟩, ⟨.height, ["0"]⟩, ⟨.gravity, ["no", "1"]⟩, ⟨.enlarge, ["t"]⟩] := by
    decide +kernel
  have outcome : (p.defaults {}).andThen (Reading.all ([⟨.resizingType, ["fill"]⟩,
      ⟨.width, ["300"]⟩, ⟨.height, ["0"]⟩, ⟨.gravity, ["no", "1"]⟩,
      ⟨.enlarge, ["t"]⟩].map (Directive.read p.canSave))).applyTo = { state := o } := by
    decide +kernel
  have decoded : SourceUrl.decode ("Y" :: ["Q"]) p.config.baseUrl =
      .ok ⟨p.config.baseUrl ++ "a", none⟩ := rfl
  have parsed := parse_settings rfl rfl {} cut (by decide) (by decide) (by decide) settings outcome
    decoded
  exact ⟨rfl, rfl, by decide, whole, plain, same, same ▸ parsed⟩

/-- The same parser for options by name. -/
def byName (p : RequestParser) : RequestParser :=
  { p with config := { p.config with onlyPresets := false } }

theorem run_preset_option {ctx : Context} {o : Options} (tasks : List Task) (names : List String) :
    Task.run ctx o (tasks ++ Task.ofOptions [⟨"preset", names⟩]) =
      Task.run ctx o (tasks ++ Task.ofNames names) := by
  have preset : OptionName.ofText? "preset" = some .preset := rfl
  have opened (o : Options) : Task.run ctx o (Task.ofOptions [⟨"preset", names⟩]) =
      Task.run ctx o (Task.ofNames names) := by
    rw [Task.ofOptions, List.map_singleton, Task.run_names preset, List.append_nil]
  simp only [Task.run_append, opened]

/-- Presets alone are one option by name: a path with `preset` before the names gives the same
answer where options are read by name. -/
theorem parse_presets (p : RequestParser) (only : p.config.onlyPresets = true)
    (insecure : p.config.allowInsecure = true) (h : Headers) (signature names : String)
    (source : List String) (whole : ∀ s ∈ [signature, names] ++ source, '/' ∉ s.toList)
    (bare : ∀ first ∈ source.head?, ':' ∉ first.toList) :
    p.parse ("/" ++ Text.join '/' ([signature, names] ++ source)) h =
      p.byName.parse ("/" ++ Text.join '/' ([signature, "preset:" ++ names] ++ source)) h := by
  have presets : segments ("/" ++ Text.join '/' ([signature, names] ++ source)) =
      [signature, names] ++ source := segments_joined (by simp) whole
  have option : segments ("/" ++ Text.join '/' ([signature, "preset:" ++ names] ++ source)) =
      [signature, "preset:" ++ names] ++ source := by
    refine segments_joined (by simp) ?_
    simp only [List.cons_append, List.nil_append, List.forall_mem_cons] at whole ⊢
    obtain ⟨sign, piece, others⟩ := whole
    exact ⟨sign, by simp [piece], others⟩
  have parsed : UrlOption.parse? ("preset:" ++ names) = some ⟨"preset", Text.split ':' names⟩ :=
    UrlOption.parse?_named "preset" (by decide) names
  have taken : UrlOption.takeFrom (("preset:" ++ names) :: source) =
      ([⟨"preset", Text.split ':' names⟩], source) := by
    rw [UrlOption.takeFrom_cons parsed, UrlOption.takeFrom_bare bare]
  have listed : p.tasks? names source = some (Task.ofNames (Text.split ':' names), source) := by
    simp only [tasks?, only, if_true]
  have asked : p.byName.tasks? ("preset:" ++ names) source =
      some (Task.ofOptions [⟨"preset", Text.split ':' names⟩], source) :=
    tasks?_named rfl (by simp) taken
  have same : p.readOptions h names source = p.byName.readOptions h ("preset:" ++ names) source := by
    rw [readOptions_of_tasks listed, readOptions_of_tasks asked, run_preset_option]
    rfl
  have unsigned : p.byName.config.allowInsecure = true := insecure
  rw [parse_unsigned insecure presets, parse_unsigned unsigned option]
  exact accepted_congr same rfl rfl

/-- A preset that was used by default, one that is not in the table, and no source. -/
theorem parse_presets_unknown :
    let table : PresetTable := ⟨[⟨"default", [⟨"w", ["1"]⟩]⟩], by decide⟩
    let p : RequestParser :=
      { config := { presets := table, onlyPresets := true, allowInsecure := true } }
    p.config.onlyPresets = true ∧ p.config.allowInsecure = true ∧
      (∀ s ∈ ["s", "default:"] ++ [], '/' ∉ s.toList) ∧
      (∀ first ∈ ([] : List String).head?, ':' ∉ first.toList) ∧
      p.parse ("/" ++ Text.join '/' (["s", "default:"] ++ [])) {} =
        p.byName.parse ("/" ++ Text.join '/' (["s", "preset:" ++ "default:"] ++ [])) {} := by
  intro table p
  have whole : ∀ s ∈ ["s", "default:"] ++ [], '/' ∉ s.toList := by decide
  have bare : ∀ first ∈ ([] : List String).head?, ':' ∉ first.toList := by decide
  exact ⟨rfl, rfl, whole, bare, parse_presets p rfl rfl {} "s" "default:" [] whole bare⟩

end RequestParser
end ImageGateway
