import ImageGateway.Preset.Validation
import ImageGateway.Proofs.Preset.Recursion

/-! Whether options can be applied is a question about the options and the table alone: settings
read their arguments without looking at what they change, and a preset option asks only for its
names to be in the table. Presets that were tried out on fresh options therefore never fail later. -/
namespace ImageGateway

namespace Context

/-- The option is known and its arguments can be read, or name presets of the table. -/
def Accepts (ctx : Context) (asked : UrlOption) : Prop :=
  match OptionName.ofText? asked.name with
  | none => False
  | some .preset => ∀ name ∈ asked.args, name ∈ ctx.presets.names
  | some (.setting setting) => (setting.read ctx.canSave asked.args).fault = none

def AcceptsTask (ctx : Context) : Task → Prop
  | .option asked => ctx.Accepts asked
  | .preset name => name ∈ ctx.presets.names

def Sound (ctx : Context) : Prop :=
  ∀ name options, ctx.presets.get? name = some options → ∀ asked ∈ options, ctx.Accepts asked

variable {ctx : Context} {asked : UrlOption}

theorem accepts_preset (named : OptionName.ofText? asked.name = some .preset) :
    ctx.Accepts asked ↔ ∀ name ∈ asked.args, name ∈ ctx.presets.names := by
  rw [Accepts, named]

theorem accepts_setting {setting : Setting}
    (named : OptionName.ofText? asked.name = some (.setting setting)) :
    ctx.Accepts asked ↔ (setting.read ctx.canSave asked.args).fault = none := by
  rw [Accepts, named]

theorem not_accepts_unknown (unknown : OptionName.ofText? asked.name = none) :
    ¬ctx.Accepts asked := by
  rw [Accepts, unknown]
  exact id

end Context

namespace Task

variable {ctx : Context} {o : Options} {tasks : List Task}

theorem accepted_of_run (well : (run ctx o tasks).fault = none) :
    ∀ task ∈ tasks, ctx.AcceptsTask task := by
  fun_induction run ctx o tasks with
  | case1 => simp
  | case2 => contradiction
  | case3 o asked rest named ih =>
    -- The run went on with the names in front of the other tasks.
    have accepted := ih well
    intro task member
    rcases List.mem_cons.mp member with rfl | later
    · refine (Context.accepts_preset named).mpr fun name argument => ?_
      exact accepted (.preset name)
        (List.mem_append_left rest (List.mem_map_of_mem argument))
    · exact accepted task (List.mem_append_right (ofNames asked.args) later)
  | case4 o asked rest setting named next e fault =>
    rw [fault] at well
    contradiction
  | case5 o asked rest setting named next sound ih =>
    intro task member
    rcases List.mem_cons.mp member with rfl | later
    · exact (Context.accepts_setting named).mpr sound
    · exact ih well task later
  | case6 => contradiction
  | case7 o name rest options found used ih =>
    intro task member
    rcases List.mem_cons.mp member with rfl | later
    · exact PresetTable.mem_names_of_get? found
    · exact ih well task later
  | case8 o name rest options found fresh ih =>
    intro task member
    rcases List.mem_cons.mp member with rfl | later
    · exact PresetTable.mem_names_of_get? found
    · exact ih well task (List.mem_append_right (ofOptions options) later)

/-- With a sound table, accepted tasks go well on any options, whichever presets are used. -/
theorem run_of_accepted (sound : ctx.Sound) (accepted : ∀ task ∈ tasks, ctx.AcceptsTask task) :
    (run ctx o tasks).fault = none := by
  fun_induction run ctx o tasks with
  | case1 => rfl
  | case2 o asked rest unknown =>
    exact absurd (accepted (.option asked) (by simp)) (Context.not_accepts_unknown unknown)
  | case3 o asked rest named ih =>
    have known := (Context.accepts_preset named).mp (accepted (.option asked) (by simp))
    refine ih fun task member => ?_
    rcases List.mem_append.mp member with inside | later
    · obtain ⟨name, argument, rfl⟩ := List.mem_map.mp inside
      exact known name argument
    · exact accepted task (List.mem_cons_of_mem _ later)
  | case4 o asked rest setting named next e fault =>
    have fine := (Context.accepts_setting named).mp (accepted (.option asked) (by simp))
    exact absurd (fault.symm.trans fine) (by simp)
  | case5 o asked rest setting named next _ ih =>
    exact ih fun task member => accepted task (List.mem_cons_of_mem _ member)
  | case6 o name rest missing =>
    obtain ⟨options, found⟩ := PresetTable.mem_names_iff.mp (accepted (.preset name) (by simp))
    exact absurd (missing.symm.trans found) (by simp)
  | case7 o name rest options found used ih =>
    exact ih fun task member => accepted task (List.mem_cons_of_mem _ member)
  | case8 o name rest options found fresh ih =>
    refine ih fun task member => ?_
    rcases List.mem_append.mp member with inside | later
    · obtain ⟨asked, part, rfl⟩ := List.mem_map.mp inside
      exact sound name options found asked part
    · exact accepted task (List.mem_cons_of_mem _ later)

end Task

namespace Context

variable {ctx : Context}

/-- Trying a preset out on options that have not used it applies all of its options. -/
theorem accepts_of_expand {o : Options} {name : String} {options : List UrlOption}
    (fresh : name ∉ o.usedPresets) (found : ctx.presets.get? name = some options)
    (well : (o.expand ctx [name]).fault = none) : ∀ asked ∈ options, ctx.Accepts asked := by
  rw [Options.expand_fresh found fresh, Outcome.fault_andThen] at well
  intro asked part
  exact Task.accepted_of_run well.1 (.option asked) (List.mem_map_of_mem part)

theorem expand_of_tryPresets {quality : UInt8} {names : List String}
    (valid : (ctx.tryPresets quality names).2 = .ok ()) :
    ∀ name ∈ names, ((Options.baseline quality).expand ctx [name]).fault = none := by
  induction names with
  | nil => simp
  | cons first rest ih =>
    rw [tryPresets] at valid
    split at valid
    next => contradiction
    next well =>
      intro name member
      rcases List.mem_cons.mp member with rfl | later
      · exact well
      · exact ih valid name later

theorem sound_of_validatePresets {quality : UInt8}
    (valid : (ctx.validatePresets quality).2 = .ok ()) : ctx.Sound := by
  intro name options found
  have well := expand_of_tryPresets valid name (PresetTable.mem_names_of_get? found)
  exact accepts_of_expand (by simp [Options.baseline]) found well

/-- Names of a sound table can be expanded on any options. -/
theorem expand_of_sound (sound : ctx.Sound) (o : Options) {names : List String}
    (known : ∀ name ∈ names, name ∈ ctx.presets.names) : (o.expand ctx names).fault = none := by
  refine Task.run_of_accepted sound fun task member => ?_
  obtain ⟨name, listed, rfl⟩ := List.mem_map.mp member
  exact known name listed

end Context
end ImageGateway
