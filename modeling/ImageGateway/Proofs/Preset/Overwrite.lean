import Mathlib.Logic.Basic
import ImageGateway.Proofs.Options.Field
import ImageGateway.Proofs.Preset.Effect

/-! Options as overwrites. What a list of options comes to is settled by the presets used before it:
either one fault, or values for some of the leaves and presets that are used after it, whatever the
options are that it is applied to. -/
namespace ImageGateway

/-- Values for some of the leaves, and the presets that are used from then on. -/
structure Overwrite where
  assigned : Leaf → Option Scalar
  expanded : List String

namespace Overwrite

/-- The options after have the assigned values, those of the options before in all other leaves,
and the presets behind the ones used before. -/
structure Turns (w : Overwrite) (before after : Options) : Prop where
  leaves : ∀ l, after.get l = (w.assigned l).getD (before.get l)
  used : after.usedPresets = before.usedPresets ++ w.expanded

theorem Turns.eq_iff {w : Overwrite} {before after : Options} (turns : w.Turns before after)
    (other : Options) : after = other ↔ w.Turns before other := by
  constructor
  · rintro rfl
    exact turns
  · intro also
    refine Options.ext_get (fun l => ?_) (turns.used.trans also.used.symm)
    exact (turns.leaves l).trans (also.leaves l).symm

end Overwrite

theorem Options.get_withUsed (o : Options) (used : List String) (l : Leaf) :
    (o.withUsed used).get l = o.get l := by
  cases l <;> rfl

/-- An effect overwrites the leaves that its edits write. -/
theorem Effect.turns (e : Effect) {o : Options} {expanded : List String}
    (appended : e.used = o.usedPresets ++ expanded) :
    (Overwrite.mk (Edit.written e.reading.edits) expanded).Turns o (e.on o).state where
  leaves l := (Options.get_withUsed _ e.used l).trans (Options.get_foldl e.reading.edits o l)
  used := appended

namespace Options

/-- A list of options is a fixed overwrite of all options that have used the same presets, or it has
one fault on all of them, and never both. -/
theorem applyAll_overwrites (ctx : Context) (options : List UrlOption) (used : List String) :
    Xor
      (∃ fault : ParseError, ∀ o : Options, o.usedPresets = used →
        (o.applyAll ctx options).fault = some fault)
      (∃ w : Overwrite, ∀ o : Options, o.usedPresets = used →
        (o.applyAll ctx options).fault = none ∧
          ∀ after, (o.applyAll ctx options).state = after ↔ w.Turns o after) := by
  -- The effect can be read off any options that have used the same presets.
  let start := (baseline 1).withUsed used
  obtain ⟨e, fixed⟩ := Task.exists_effect_of_run ctx start (Task.ofOptions options)
  have alike (o : Options) (same : o.usedPresets = used) : o.applyAll ctx options = e.on o :=
    fixed o same
  have fault (o : Options) : (e.on o).fault = e.reading.fault := rfl
  cases faulty : e.reading.fault with
  | some cause =>
    refine .inl ⟨⟨cause, fun o same => ?_⟩, ?_⟩
    · rw [alike o same, fault, faulty]
    · rintro ⟨w, sound⟩
      have none := (sound start rfl).1
      rw [alike start rfl, fault, faulty] at none
      contradiction
  | none =>
    obtain ⟨expanded, run⟩ := Task.run_expansions ctx start (Task.ofOptions options)
    rw [fixed start rfl] at run
    let w : Overwrite := ⟨Edit.written e.reading.edits, expanded⟩
    refine .inr ⟨⟨w, fun o same => ⟨?_, fun after => ?_⟩⟩, ?_⟩
    · rw [alike o same, fault, faulty]
    · rw [alike o same]
      have appended : e.used = o.usedPresets ++ expanded := same ▸ run.appended
      exact (e.turns appended).eq_iff after
    · rintro ⟨cause, refused⟩
      have stopped := refused start rfl
      rw [alike start rfl, fault, faulty] at stopped
      contradiction

/-- A size overwrites the width and the enlargement, and a blank height stays as it is. -/
example :
    let edits := (Setting.size.read ImageType.canEncode ["640", "", "yes"]).edits
    Edit.written edits .width = some (.pixels 640) ∧ Edit.written edits .height = none ∧
      Edit.written edits .enlarge = some (.flag false) := by
  decide +kernel

end Options
end ImageGateway
