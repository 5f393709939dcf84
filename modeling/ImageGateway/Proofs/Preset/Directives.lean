import ImageGateway.Proofs.Preset.Depth
import ImageGateway.Proofs.Reading

/-! What a run comes down to: the settings that it reads, presets opened in place. Which settings
these are depends on the table and on the presets used, and not on what the settings change. A run
without a fault leaves what following them one by one leaves, the record of the presets apart. -/
namespace ImageGateway

structure Directive where
  setting : Setting
  args : List String
  deriving DecidableEq, Repr

def Directive.read (canSave : ImageType → Bool) (d : Directive) : Reading Edit :=
  d.setting.read canSave d.args

def UrlOption.directive? (asked : UrlOption) : Option Directive :=
  match OptionName.ofText? asked.name with
  | some (.setting setting) => some ⟨setting, asked.args⟩
  | _ => none

namespace Options

theorem applyAll_directives {ctx : Context} {options : List UrlOption}
    {directives : List Directive}
    (settings : options.mapM UrlOption.directive? = some directives) (o : Options) :
    o.applyAll ctx options = (Reading.all (directives.map (·.read ctx.canSave))).applyTo o := by
  induction options generalizing directives o with
  | nil =>
    obtain rfl := Option.some.inj settings
    exact applyAll_nil
  | cons asked rest ih =>
    rw [List.mapM_cons] at settings
    obtain ⟨d, read, settings⟩ := Option.bind_eq_some_iff.mp settings
    obtain ⟨ds, others, listed⟩ := Option.bind_eq_some_iff.mp settings
    obtain rfl := Option.some.inj listed
    unfold UrlOption.directive? at read
    split at read
    next setting named =>
      obtain rfl := Option.some.inj read
      rw [applyAll_cons, apply_setting named, List.map_cons, Reading.applyTo_all_cons]
      exact congrArg _ (funext (ih others))
    next => contradiction

/-- The options that follow when each directive is read and applied in turn. -/
def follow (canSave : ImageType → Bool) (o : Options) (directives : List Directive) : Options :=
  directives.foldl (fun o d => ((d.read canSave).applyTo o).state) o

def withUsed (o : Options) (used : List String) : Options := { o with usedPresets := used }

theorem follow_cons (canSave : ImageType → Bool) (o : Options) (d : Directive)
    (rest : List Directive) :
    o.follow canSave (d :: rest) = ((d.read canSave).applyTo o).state.follow canSave rest := rfl

theorem follow_append (canSave : ImageType → Bool) (o : Options) (first second : List Directive) :
    o.follow canSave (first ++ second) = (o.follow canSave first).follow canSave second :=
  List.foldl_append

/-- What holds before the directives and is kept by each of them holds after them. -/
theorem follow_keeps {canSave : ImageType → Bool} {I : Options → Prop} {directives : List Directive}
    (step : ∀ d ∈ directives, ∀ o, I o → I ((d.read canSave).applyTo o).state) {o : Options}
    (start : I o) : I (o.follow canSave directives) := by
  induction directives generalizing o with
  | nil => exact start
  | cons d rest ih =>
    obtain ⟨first, others⟩ := List.forall_mem_cons.mp step
    exact ih others (first o start)

@[simp] theorem withUsed_withUsed (o : Options) (first second : List String) :
    (o.withUsed first).withUsed second = o.withUsed second := rfl

@[simp] theorem gravity_withUsed (o : Options) (used : List String) :
    (o.withUsed used).gravity = o.gravity := rfl

@[simp] theorem crop_withUsed (o : Options) (used : List String) :
    (o.withUsed used).crop = o.crop := rfl

end Options

theorem Edit.apply_withUsed (e : Edit) (o : Options) (used : List String) :
    e.apply (o.withUsed used) = (e.apply o).withUsed used := by
  cases e <;> rfl

theorem Reading.applyTo_withUsed (r : Reading Edit) (o : Options) (used : List String) :
    (r.applyTo (o.withUsed used)).state = (r.applyTo o).state.withUsed used := by
  obtain ⟨edits, warnings, fault⟩ := r
  simp only [applyTo, apply]
  induction edits generalizing o with
  | nil => rfl
  | cons e edits ih => rw [List.foldl_cons, List.foldl_cons, e.apply_withUsed, ih]

theorem Options.follow_withUsed (canSave : ImageType → Bool) (o : Options) (used : List String)
    (directives : List Directive) :
    (o.withUsed used).follow canSave directives = (o.follow canSave directives).withUsed used := by
  induction directives generalizing o with
  | nil => rfl
  | cons d rest ih => rw [follow_cons, follow_cons, Reading.applyTo_withUsed, ih]

namespace Task

/-- The settings that tasks read, in order, up to the first unknown name. -/
def directives (t : PresetTable) (used : List String) (tasks : List Task) : List Directive :=
  match tasks with
  | [] => []
  | .option asked :: rest =>
    match OptionName.ofText? asked.name with
    | none => []
    | some .preset => directives t used (ofNames asked.args ++ rest)
    | some (.setting setting) => ⟨setting, asked.args⟩ :: directives t used rest
  | .preset name :: rest =>
    match _ : t.get? name with
    | none => []
    | some options =>
      if _ : name ∈ used then directives t used rest
      else directives t (used ++ [name]) (ofOptions options ++ rest)
  termination_by ((t.unused used).length, weights tasks)
  decreasing_by
    · rw [weights_ofNames_append]
      exact Prod.Lex.right _ (by simp [weights, weight])
    · exact Prod.Lex.right _ (by simp [weights, weight])
    · exact Prod.Lex.right _ (by simp [weights, weight])
    · exact Prod.Lex.left _ _ (PresetTable.unused_lt (PresetTable.mem_names_of_get? ‹_›) ‹_›)

variable {ctx : Context} {o : Options} {tasks : List Task}

/-- A run without a fault read its directives without one, and left what following them leaves. -/
theorem run_follow (well : (run ctx o tasks).fault = none) :
    (∀ d ∈ directives ctx.presets o.usedPresets tasks, (d.read ctx.canSave).fault = none) ∧
      (run ctx o tasks).state =
        (o.follow ctx.canSave (directives ctx.presets o.usedPresets tasks)).withUsed
          (run ctx o tasks).state.usedPresets := by
  fun_induction run ctx o tasks with
  | case1 o => exact ⟨by simp [directives], by rw [directives]; rfl⟩
  | case2 => contradiction
  | case3 o asked rest named ih =>
    rw [directives]
    simp only [named]
    exact ih well
  | case4 o asked rest setting named next e fault =>
    rw [fault] at well
    contradiction
  | case5 o asked rest setting named next sound ih =>
    obtain ⟨later, left⟩ := ih well
    have used : next.state.usedPresets = o.usedPresets := Reading.usedPresets_applyTo _ o
    rw [used] at later left
    rw [directives]
    simp only [named]
    exact ⟨List.forall_mem_cons.mpr ⟨sound, later⟩, left⟩
  | case6 => contradiction
  | case7 o name rest options found used ih =>
    have passed : directives ctx.presets o.usedPresets (.preset name :: rest) =
        directives ctx.presets o.usedPresets rest := by
      rw [directives]
      split <;> simp_all
    rw [passed]
    exact ih well
  | case8 o name rest options found fresh ih =>
    have opened : directives ctx.presets o.usedPresets (.preset name :: rest) =
        directives ctx.presets (o.usedPresets ++ [name]) (ofOptions options ++ rest) := by
      rw [directives]
      split <;> simp_all
    obtain ⟨later, left⟩ := ih well
    have marked : o.markPreset name = o.withUsed (o.usedPresets ++ [name]) := rfl
    rw [opened]
    refine ⟨later, left.trans ?_⟩
    rw [marked, Options.follow_withUsed, Options.withUsed_withUsed]
    rfl

/-- A run uses presets of the table, each at most once. -/
theorem run_expansions (ctx : Context) (o : Options) (tasks : List Task) :
    ∃ expanded, ctx.presets.Expansions o.usedPresets expanded
      (run ctx o tasks).state.usedPresets := by
  fun_induction run ctx o tasks with
  | case1 o => exact ⟨[], .none ctx.presets o.usedPresets⟩
  | case2 o => exact ⟨[], .none ctx.presets o.usedPresets⟩
  | case3 o asked rest named ih => exact ih
  | case4 o asked rest setting named next e fault =>
    have used : next.state.usedPresets = o.usedPresets := Reading.usedPresets_applyTo _ o
    exact ⟨[], used ▸ .none ctx.presets o.usedPresets⟩
  | case5 o asked rest setting named next sound ih =>
    have used : next.state.usedPresets = o.usedPresets := Reading.usedPresets_applyTo _ o
    exact used ▸ ih
  | case6 o => exact ⟨[], .none ctx.presets o.usedPresets⟩
  | case7 o name rest options found used ih => exact ih
  | case8 o name rest options found fresh ih =>
    obtain ⟨expanded, later⟩ := ih
    have one := PresetTable.Expansions.single (PresetTable.mem_names_of_get? found) fresh
    exact ⟨name :: expanded, one.append later⟩

end Task
end ImageGateway
