import ImageGateway.Preset.Expansion

/-! Applying options and expanding presets, each in terms of the other: what the first option or
the first name does, and how the rest goes on from there. -/
namespace ImageGateway

theorem Outcome.fault_andThen {o : Outcome S} {next : S → Outcome S} :
    (o.andThen next).fault = none ↔ o.fault = none ∧ (next o.state).fault = none := by
  cases fault : o.fault with
  | some e => simp [andThen, fault]
  | none => simp [andThen, fault]

theorem PresetTable.mem_names_iff {t : PresetTable} {name : String} :
    name ∈ t.names ↔ ∃ options, t.get? name = some options := by
  constructor
  · intro member
    obtain ⟨p, hp, rfl⟩ := List.mem_map.mp member
    have found : (t.presets.find? (·.name = p.name)).isSome :=
      List.find?_isSome.mpr ⟨p, hp, by simp⟩
    obtain ⟨q, hq⟩ := Option.isSome_iff_exists.mp found
    exact ⟨q.options, by rw [get?, hq, Option.map_some]⟩
  · rintro ⟨options, found⟩
    exact mem_names_of_get? found

namespace Task

variable {ctx : Context} {o : Options}

theorem run_unknown {asked : UrlOption} (unknown : OptionName.ofText? asked.name = none)
    (rest : List Task) :
    run ctx o (.option asked :: rest) =
      { state := o, fault := some (.unknownOption asked.name) } := by
  rw [run]
  simp only [unknown]

theorem run_names {asked : UrlOption} (named : OptionName.ofText? asked.name = some .preset)
    (rest : List Task) :
    run ctx o (.option asked :: rest) = run ctx o (ofNames asked.args ++ rest) := by
  rw [run]
  simp only [named]

theorem run_setting {asked : UrlOption} {setting : Setting}
    (named : OptionName.ofText? asked.name = some (.setting setting)) (rest : List Task) :
    run ctx o (.option asked :: rest) =
      ((setting.read ctx.canSave asked.args).applyTo o).andThen fun o => run ctx o rest := by
  rw [run]
  simp only [named, Outcome.andThen]
  rfl

theorem run_missing {name : String} (missing : ctx.presets.get? name = none) (rest : List Task) :
    run ctx o (.preset name :: rest) = { state := o, fault := some (.unknownPreset name) } := by
  rw [run]
  split <;> simp_all

theorem run_used {name : String} {options : List UrlOption}
    (found : ctx.presets.get? name = some options) (used : name ∈ o.usedPresets)
    (rest : List Task) :
    run ctx o (.preset name :: rest) = (run ctx o rest).warned [.repeatedPreset name] := by
  rw [run]
  split
  next missing => simp_all
  next => rw [dif_pos used]

/-- A preset is marked before its options are applied, so that it does not expand inside them. -/
theorem run_fresh {name : String} {options : List UrlOption}
    (found : ctx.presets.get? name = some options) (fresh : name ∉ o.usedPresets)
    (rest : List Task) :
    run ctx o (.preset name :: rest) = run ctx (o.markPreset name) (ofOptions options ++ rest) := by
  rw [run]
  split
  next missing => simp_all
  next body same =>
    obtain rfl := Option.some.inj (found.symm.trans same)
    rw [dif_neg fresh]

end Task

namespace Options

variable {ctx : Context} {o : Options}

theorem applyAll_nil : o.applyAll ctx [] = { state := o } := by
  rw [applyAll, Task.ofOptions, List.map_nil, Task.run]

theorem applyAll_cons (asked : UrlOption) (rest : List UrlOption) :
    o.applyAll ctx (asked :: rest) = (o.apply ctx asked).andThen (·.applyAll ctx rest) :=
  Task.run_append ctx o [.option asked] (Task.ofOptions rest)

theorem applyAll_append (first second : List UrlOption) :
    o.applyAll ctx (first ++ second) = (o.applyAll ctx first).andThen (·.applyAll ctx second) := by
  rw [applyAll, Task.ofOptions, List.map_append, Task.run_append]
  rfl

theorem apply_unknown {asked : UrlOption} (unknown : OptionName.ofText? asked.name = none) :
    o.apply ctx asked = { state := o, fault := some (.unknownOption asked.name) } :=
  Task.run_unknown unknown []

theorem apply_preset {asked : UrlOption} (named : OptionName.ofText? asked.name = some .preset) :
    o.apply ctx asked = o.expand ctx asked.args := by
  rw [apply, Task.run_names named, List.append_nil]
  rfl

theorem apply_setting {asked : UrlOption} {setting : Setting}
    (named : OptionName.ofText? asked.name = some (.setting setting)) :
    o.apply ctx asked = (setting.read ctx.canSave asked.args).applyTo o := by
  rw [apply, Task.run_setting named]
  generalize (setting.read ctx.canSave asked.args).applyTo o = next
  obtain ⟨state, warnings, fault⟩ := next
  cases fault with
  | some e => rfl
  | none => simp [Outcome.andThen, Task.run]

theorem expand_nil : o.expand ctx [] = { state := o } := by
  rw [expand, Task.ofNames, List.map_nil, Task.run]

theorem expand_unknown {name : String} (unknown : ctx.presets.get? name = none)
    (rest : List String) :
    o.expand ctx (name :: rest) = { state := o, fault := some (.unknownPreset name) } :=
  Task.run_missing unknown (Task.ofNames rest)

theorem expand_used {name : String} {options : List UrlOption}
    (found : ctx.presets.get? name = some options) (used : name ∈ o.usedPresets)
    (rest : List String) :
    o.expand ctx (name :: rest) = (o.expand ctx rest).warned [.repeatedPreset name] :=
  Task.run_used found used (Task.ofNames rest)

theorem expand_fresh {name : String} {options : List UrlOption}
    (found : ctx.presets.get? name = some options) (fresh : name ∉ o.usedPresets)
    (rest : List String) :
    o.expand ctx (name :: rest) =
      ((o.markPreset name).applyAll ctx options).andThen (·.expand ctx rest) := by
  have opened := Task.run_fresh found fresh (Task.ofNames rest)
  rw [Task.run_append] at opened
  exact opened

end Options
end ImageGateway
