import ImageGateway.Proofs.Preset.Directives

/-! What tasks do, apart from the options that they are done on. The edits, the warnings, the fault
and the presets used afterwards depend on the tasks, on the context and on the presets used before,
and on nothing else of the options. -/
namespace ImageGateway

/-- A change of any options: what is read, and the presets that are used after it. -/
structure Effect where
  reading : Reading Edit
  used : List String
  deriving DecidableEq, Repr

namespace Effect

def on (e : Effect) (o : Options) : Outcome Options :=
  let outcome := e.reading.applyTo o
  { outcome with state := outcome.state.withUsed e.used }

def after (first : Reading Edit) (e : Effect) : Effect := ⟨first.andThen e.reading, e.used⟩

theorem on_after {first : Reading Edit} (sound : first.fault = none) (e : Effect) (o : Options) :
    (after first e).on o = (first.applyTo o).andThen e.on := by
  have joined := Reading.apply_andThen Edit.apply first e.reading o
  have quiet : (first.apply Edit.apply o).fault = none := sound
  simp only [on, after, Reading.applyTo, joined, Outcome.andThen, quiet]

/-- The presets used before do not show in what an effect leaves. -/
theorem on_withUsed (e : Effect) (o : Options) (used : List String) :
    e.on (o.withUsed used) = e.on o := by
  have left := Reading.applyTo_withUsed e.reading o used
  simp only [on, left, Options.withUsed_withUsed]
  rfl

theorem on_last (r : Reading Edit) (o : Options) : on ⟨r, o.usedPresets⟩ o = r.applyTo o := by
  have kept := Reading.usedPresets_applyTo r o
  rw [on, ← kept]
  rfl

end Effect

namespace Task

/-- Options that have used the same presets are changed by tasks in the same way. -/
theorem exists_effect_of_run (ctx : Context) (o : Options) (tasks : List Task) :
    ∃ e : Effect, ∀ s : Options, s.usedPresets = o.usedPresets → run ctx s tasks = e.on s := by
  -- Only the presets used so far decide how the run goes on, and edits leave them as they are.
  fun_induction run ctx o tasks with
  | case1 o =>
    refine ⟨⟨.nothing, o.usedPresets⟩, fun s same => ?_⟩
    rw [run, ← same, Effect.on_last]
    rfl
  | case2 o asked rest unknown =>
    refine ⟨⟨.fail (.unknownOption asked.name), o.usedPresets⟩, fun s same => ?_⟩
    rw [run_unknown unknown, ← same, Effect.on_last]
    rfl
  | case3 o asked rest named ih =>
    obtain ⟨e, fixed⟩ := ih
    exact ⟨e, fun s same => (run_names named rest).trans (fixed s same)⟩
  | case4 o asked rest setting named next fault faulty =>
    refine ⟨⟨setting.read ctx.canSave asked.args, o.usedPresets⟩, fun s same => ?_⟩
    have stopped : ((setting.read ctx.canSave asked.args).applyTo s).fault = some fault := faulty
    rw [run_setting named, Outcome.andThen, ← same, Effect.on_last]
    simp only [stopped]
  | case5 o asked rest setting named next sound ih =>
    obtain ⟨e, fixed⟩ := ih
    refine ⟨.after (setting.read ctx.canSave asked.args) e, fun s same => ?_⟩
    have quiet : ((setting.read ctx.canSave asked.args).applyTo s).fault = none := sound
    have kept : ((setting.read ctx.canSave asked.args).applyTo s).state.usedPresets =
        next.state.usedPresets := by
      rw [Reading.usedPresets_applyTo, same]
      exact (Reading.usedPresets_applyTo _ o).symm
    rw [run_setting named, Effect.on_after sound, Outcome.andThen, Outcome.andThen]
    simp only [quiet, fixed _ kept]
  | case6 o name rest missing =>
    refine ⟨⟨.fail (.unknownPreset name), o.usedPresets⟩, fun s same => ?_⟩
    rw [run_missing missing, ← same, Effect.on_last]
    rfl
  | case7 o name rest options found used ih =>
    obtain ⟨e, fixed⟩ := ih
    refine ⟨.after { warnings := [.repeatedPreset name] } e, fun s same => ?_⟩
    rw [run_used found (same ▸ used), fixed s same, Effect.on_after rfl]
    rfl
  | case8 o name rest options found fresh ih =>
    obtain ⟨e, fixed⟩ := ih
    refine ⟨e, fun s same => ?_⟩
    have marked : (s.markPreset name).usedPresets = (o.markPreset name).usedPresets :=
      congrArg (· ++ [name]) same
    rw [run_fresh found (same ▸ fresh), fixed _ marked]
    exact e.on_withUsed s (s.usedPresets ++ [name])

end Task
end ImageGateway
