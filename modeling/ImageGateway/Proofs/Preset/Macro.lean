import Mathlib
import ImageGateway.Proofs.Preset.Definition
import ImageGateway.Proofs.Preset.Reach
import ImageGateway.Proofs.UrlOption

/-! Presets as macros. Of the presets used before, a run looks only at those that its tasks reach,
so that marking another one changes nothing but the record. A preset that does not reach itself is
therefore its definition, read as a request path would be read and applied in place. -/
namespace ImageGateway

/-- The outcome with another record of the used presets. -/
def Outcome.recording (outcome : Outcome Options) (used : List String) : Outcome Options :=
  { outcome with state := outcome.state.withUsed used }

theorem Reading.applyTo_recording (r : Reading Edit) (o : Options) (used : List String) :
    r.applyTo (o.withUsed used) = (r.applyTo o).recording used := by
  have state := r.applyTo_withUsed o used
  rw [Outcome.recording, ← state]
  rfl

namespace PresetTable

variable {t : PresetTable}

theorem Reaches.of_body {name other : String} {options : List UrlOption} {names : List String}
    (found : t.get? name = some options)
    (reached : t.Reaches (options.flatMap UrlOption.presets ++ names) other) :
    t.Reaches (name :: names) other := by
  obtain ⟨first, member, path⟩ := reached
  rcases List.mem_append.mp member with body | later
  · exact ⟨name, List.mem_cons_self, .head ((mem_presets_iff found).mp body) path⟩
  · exact ⟨first, List.mem_cons_of_mem name later, path⟩

theorem cyclic_of_reaches {name : String} {options : List UrlOption}
    (found : t.get? name = some options)
    (reached : t.Reaches (options.flatMap UrlOption.presets) name) :
    Relation.TransGen t.Mentions name name := by
  obtain ⟨first, body, path⟩ := reached
  exact .head' ((mem_presets_iff found).mp body) path

end PresetTable

namespace Task

variable {ctx : Context} {o : Options} {tasks : List Task}

/-- Two records of used presets that agree on what the tasks reach grow by the same names, and all
else that the run leaves is the same. -/
theorem run_withUsed {used : List String}
    (same : ∀ name, ctx.presets.Reaches (tasks.flatMap presets) name →
      (name ∈ used ↔ name ∈ o.usedPresets)) :
    ∃ added, (run ctx o tasks).state.usedPresets = o.usedPresets ++ added ∧
      run ctx (o.withUsed used) tasks = (run ctx o tasks).recording (used ++ added) := by
  -- The records differ from the start, so the other one grows along with the run.
  fun_induction run ctx o tasks generalizing used with
  | case1 o =>
    refine ⟨[], (List.append_nil _).symm, ?_⟩
    rw [run, List.append_nil]
    rfl
  | case2 o asked rest unknown =>
    refine ⟨[], (List.append_nil _).symm, ?_⟩
    rw [run_unknown unknown, List.append_nil]
    rfl
  | case3 o asked rest named ih =>
    have listed : (Task.option asked :: rest).flatMap presets =
        (ofNames asked.args ++ rest).flatMap presets := by
      rw [List.flatMap_cons, presets, UrlOption.presets_of_preset named, List.flatMap_append,
        presets_ofNames]
    rw [run_names named]
    exact ih (listed ▸ same)
  | case4 o asked rest setting named next e =>
    rename_i fault
    have kept : next.state.usedPresets = o.usedPresets := Reading.usedPresets_applyTo _ o
    have stopped : (next.recording used).fault = some e := fault
    refine ⟨[], by rw [kept, List.append_nil], ?_⟩
    rw [run_setting named, Reading.applyTo_recording, List.append_nil]
    change (next.recording used).andThen _ = _
    simp only [Outcome.andThen, stopped]
  | case5 o asked rest setting named next sound =>
    rename_i ih
    have kept : next.state.usedPresets = o.usedPresets := Reading.usedPresets_applyTo _ o
    have listed : (Task.option asked :: rest).flatMap presets = rest.flatMap presets := by
      rw [List.flatMap_cons, presets, UrlOption.presets_of_setting named, List.nil_append]
    have quiet : (next.recording used).fault = none := sound
    rw [kept, ← listed] at ih
    obtain ⟨added, grown, later⟩ := ih same
    refine ⟨added, grown, ?_⟩
    rw [run_setting named, Reading.applyTo_recording]
    change (next.recording used).andThen _ = _
    simp only [Outcome.andThen, quiet]
    exact congrArg (Outcome.warned next.warnings) later
  | case6 o name rest missing =>
    refine ⟨[], (List.append_nil _).symm, ?_⟩
    rw [run_missing missing, List.append_nil]
    rfl
  | case7 o name rest options found before ih =>
    have reached : ctx.presets.Reaches ((Task.preset name :: rest).flatMap presets) name :=
      ⟨name, List.mem_cons_self, .refl⟩
    have passed : name ∈ (o.withUsed used).usedPresets := (same name reached).mpr before
    obtain ⟨added, grown, later⟩ := ih fun other inside =>
      same other (inside.of_subset (List.subset_cons_self name _))
    refine ⟨added, grown, ?_⟩
    rw [run_used found passed, later]
    rfl
  | case8 o name rest options found fresh ih =>
    have reached : ctx.presets.Reaches ((Task.preset name :: rest).flatMap presets) name :=
      ⟨name, List.mem_cons_self, .refl⟩
    have new : name ∉ (o.withUsed used).usedPresets := fun member =>
      fresh ((same name reached).mp member)
    have agree (other : String)
        (inside : ctx.presets.Reaches ((ofOptions options ++ rest).flatMap presets) other) :
        other ∈ used ++ [name] ↔ other ∈ (o.markPreset name).usedPresets := by
      rw [List.flatMap_append, presets_ofOptions] at inside
      have outside := same other (.of_body found inside)
      simp only [Options.markPreset, List.mem_append, outside]
    obtain ⟨added, grown, later⟩ := ih agree
    refine ⟨name :: added, ?_, ?_⟩
    · rw [grown, List.append_cons]
      rfl
    · rw [run_fresh found new, List.append_cons]
      exact later

end Task

namespace Options

variable {ctx : Context} {o : Options}

theorem expand_acyclic {name : String} {options : List UrlOption}
    (found : ctx.presets.get? name = some options)
    (acyclic : ¬Relation.TransGen ctx.presets.Mentions name name) (fresh : name ∉ o.usedPresets) :
    ∃ added, (o.applyAll ctx options).state.usedPresets = o.usedPresets ++ added ∧
      o.expand ctx [name] =
        (o.applyAll ctx options).recording (o.usedPresets ++ name :: added) := by
  have apart (other : String)
      (inside : ctx.presets.Reaches ((Task.ofOptions options).flatMap Task.presets) other) :
      other ∈ o.usedPresets ++ [name] ↔ other ∈ o.usedPresets := by
    rw [Task.presets_ofOptions] at inside
    have different : other ≠ name := by
      rintro rfl
      exact acyclic (PresetTable.cyclic_of_reaches found inside)
    simp [different]
  obtain ⟨added, grown, marked⟩ := Task.run_withUsed apart
  refine ⟨added, grown, ?_⟩
  have opened := Task.run_fresh found fresh []
  rw [List.append_nil] at opened
  rw [List.append_cons]
  exact opened.trans marked

/-- A preset is its definition. Where the table has for a name what an entry defines, and the name is
not reached from itself, asking for the preset is asking for the options in the definition's place:
the segments of the value are options, all of them, and applying these has the same outcome, but for
the name, which is recorded before the names that they add. -/
theorem apply_defined (ctx : Context) (name value : String) (defined : PresetTable)
    (plain : '=' ∉ name.toList)
    (accepted : PresetTable.parse [name ++ "=" ++ value] = .ok defined)
    (bound : ctx.presets.get? (Text.trim name) = defined.get? (Text.trim name))
    (acyclic : ¬Relation.TransGen ctx.presets.Mentions (Text.trim name) (Text.trim name))
    (o : Options) (fresh : Text.trim name ∉ o.usedPresets) (keyword : String)
    (named : OptionName.ofText? keyword = some .preset) :
    ∃ options, UrlOption.takeFrom (Preset.pieces value) = (options, []) ∧
      ∃ added, (o.applyAll ctx options).state.usedPresets = o.usedPresets ++ added ∧
        o.apply ctx ⟨keyword, [Text.trim name]⟩ =
          (o.applyAll ctx options).recording (o.usedPresets ++ Text.trim name :: added) := by
  obtain ⟨options, read, body⟩ := PresetTable.get?_of_parse plain accepted
  refine ⟨options, UrlOption.takeFrom_of_mapM read, ?_⟩
  rw [apply_preset named]
  exact expand_acyclic (bound.trans body) acyclic fresh

/-- The entry has blanks and outer slashes, and its preset opens one that names a used one. -/
theorem apply_defined_nested :
    let table : PresetTable := ⟨[⟨"c", [⟨"q", ["5"]⟩]⟩, ⟨"t", [⟨"w", ["10"]⟩, ⟨"pr", ["b"]⟩]⟩,
      ⟨"b", [⟨"pr", ["c"]⟩, ⟨"h", ["20"]⟩]⟩], by decide⟩
    let defined : PresetTable := ⟨[⟨"t", [⟨"w", ["10"]⟩, ⟨"pr", ["b"]⟩]⟩], by decide⟩
    let ctx : Context := ⟨table, ImageType.canEncode⟩
    let o : Options := (baseline 80).markPreset "c"
    '=' ∉ " t ".toList ∧
      PresetTable.parse [" t " ++ "=" ++ " /w:10/pr:b/ "] = .ok defined ∧
      table.get? (Text.trim " t ") = defined.get? (Text.trim " t ") ∧
      ¬Relation.TransGen table.Mentions (Text.trim " t ") (Text.trim " t ") ∧
      Text.trim " t " ∉ o.usedPresets ∧ OptionName.ofText? "pr" = some .preset ∧
      (o.apply ctx ⟨"pr", [Text.trim " t "]⟩).state.usedPresets = ["c", "t", "b"] ∧
      ∃ options, UrlOption.takeFrom (Preset.pieces " /w:10/pr:b/ ") = (options, []) ∧
        ∃ added, (o.applyAll ctx options).state.usedPresets = o.usedPresets ++ added ∧
          o.apply ctx ⟨"pr", [Text.trim " t "]⟩ =
            (o.applyAll ctx options).recording (o.usedPresets ++ Text.trim " t " :: added) := by
  intro table defined ctx o
  have trimmed : Text.trim " t " = "t" := by decide +kernel
  have plain : '=' ∉ " t ".toList := by decide
  have accepted : PresetTable.parse [" t " ++ "=" ++ " /w:10/pr:b/ "] = .ok defined := by
    have entry : Text.trim (" t " ++ "=" ++ " /w:10/pr:b/ ") = "t = /w:10/pr:b/" := by
      decide +kernel
    have preset : Preset.parse "t = /w:10/pr:b/" =
        .ok ⟨"t", [⟨"w", ["10"]⟩, ⟨"pr", ["b"]⟩]⟩ := by decide +kernel
    simp only [PresetTable.parse, PresetTable.addAll, entry, preset]
    rfl
  have bound : table.get? (Text.trim " t ") = defined.get? (Text.trim " t ") := by
    rw [trimmed]
    decide
  have used : (o.apply ctx ⟨"pr", [Text.trim " t "]⟩).state.usedPresets = ["c", "t", "b"] := by
    rw [trimmed]
    cbv
  -- Whatever mentions lead to is one of the two other presets.
  have leads (name other : String) (mention : table.Mentions name other) : other ∈ ["b", "c"] := by
    obtain ⟨options, found, -⟩ := id mention
    have listed := (PresetTable.mem_presets_iff found).mpr mention
    have known : name ∈ ["c", "t", "b"] := PresetTable.mem_names_of_get? found
    simp only [List.mem_cons, List.not_mem_nil, or_false] at known
    rcases known with rfl | rfl | rfl
    all_goals
      cases found
      revert listed
      simp +contextual [UrlOption.presets]
  have acyclic : ¬Relation.TransGen table.Mentions (Text.trim " t ") (Text.trim " t ") := by
    rw [trimmed]
    intro cycle
    obtain ⟨last, -, mention⟩ := Relation.TransGen.tail'_iff.mp cycle
    exact absurd (leads last "t" mention) (by decide)
  have fresh : Text.trim " t " ∉ o.usedPresets := by
    rw [trimmed]
    decide
  exact ⟨plain, accepted, bound, acyclic, fresh, rfl, used,
    apply_defined ctx " t " " /w:10/pr:b/ " defined plain accepted bound acyclic o fresh "pr" rfl⟩

end Options
end ImageGateway
