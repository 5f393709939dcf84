import ImageGateway.Proofs.Preset.Directives

/-! The warnings on the way. Settings warn of texts that are no truth values and of nothing else, and
the expansion of presets warns of the presets that were used before. -/
namespace ImageGateway

/-- There was a reason for the warning: the text is no truth value, or the preset is one of those
used. -/
def Warning.Warranted (used : List String) : Warning → Prop
  | .notBoolean text => Argument.boolean? text = none
  | .repeatedPreset name => name ∈ used

namespace Reading

variable {E : Type}

def Warranted (r : Reading E) : Prop := ∀ used, ∀ w ∈ r.warnings, w.Warranted used

theorem warranted_quiet {r : Reading E} (quiet : r.warnings = []) : r.Warranted := by
  intro used w member
  rw [quiet] at member
  contradiction

theorem warranted_ofExcept {α : Type} (make : α → E) (value : Except ParseError α) :
    (ofExcept make value).Warranted := by
  cases value <;> exact warranted_quiet rfl

theorem closed_warranted : Closed (Warranted (E := E)) where
  nothing := warranted_quiet rfl
  fail _ := warranted_quiet rfl
  andThen {first second} left right := by
    unfold andThen
    split
    next => exact left
    next =>
      exact fun used w member => (List.mem_append.mp member).elim (left used w) (right used w)

theorem warranted_flag (make : Bool → E) (text : String) :
    (Argument.flag make text).Warranted := by
  unfold Argument.flag
  split
  next => exact warranted_quiet rfl
  next untrue => exact fun used w member => List.mem_singleton.mp member ▸ untrue

end Reading

open Reading

theorem Gravity.warranted_read (args : List String) : (read args).Warranted := by
  unfold read
  split
  next => exact warranted_quiet rfl
  next name offsets =>
    split
    next => exact warranted_quiet rfl
    next =>
      split
      next => exact warranted_quiet rfl
      next anchor _ =>
        refine closed_warranted.all ?_
        simp only [List.forall_mem_cons]
        refine ⟨warranted_quiet rfl, ?arity, ?x, ?y, by simp⟩
        case arity => split <;> exact warranted_quiet rfl
        case x =>
          split
          next => exact warranted_ofExcept _ _
          next => exact warranted_quiet rfl
        case y =>
          split
          next => exact warranted_ofExcept _ _
          next => exact warranted_quiet rfl

namespace Setting

variable {canSave : ImageType → Bool}

theorem warranted_size (args : List String) : (readSize args).Warranted := by
  refine closed_warranted.limited (closed_warranted.all ?_)
  simp only [List.forall_mem_cons]
  exact ⟨closed_warranted.position fun _ => warranted_ofExcept _ _,
    closed_warranted.position fun _ => warranted_ofExcept _ _,
    closed_warranted.position (warranted_flag _), closed_warranted.position (warranted_flag _), by simp⟩

theorem warranted_resize (args : List String) : (readResize args).Warranted := by
  refine closed_warranted.limited (closed_warranted.all ?_)
  simp only [List.forall_mem_cons]
  refine ⟨closed_warranted.position fun _ => warranted_ofExcept _ _, ?_, by simp⟩
  split
  next => exact warranted_quiet rfl
  next => exact warranted_size args.tail

theorem warranted_format (arg : String) : (readFormat canSave arg).Warranted := by
  unfold readFormat
  split
  next => exact warranted_quiet rfl
  next => split <;> exact warranted_quiet rfl

theorem warranted_crop (args : List String) : (readCrop args).Warranted := by
  refine closed_warranted.limited (closed_warranted.all ?_)
  simp only [List.forall_mem_cons]
  refine ⟨closed_warranted.position fun _ => warranted_ofExcept _ _,
    closed_warranted.position fun _ => warranted_ofExcept _ _, ?_, by simp⟩
  split
  next => exact warranted_quiet rfl
  next => exact Gravity.warranted_read (args.drop 2)

theorem warranted_background (args : List String) : (readBackground args).Warranted := by
  unfold readBackground
  split
  next text =>
    split
    next => exact warranted_quiet rfl
    next => split <;> exact warranted_quiet rfl
  next r g b =>
    refine closed_warranted.all ?_
    simp only [List.forall_mem_cons]
    exact ⟨warranted_quiet rfl, warranted_ofExcept _ _, warranted_ofExcept _ _,
      warranted_ofExcept _ _, by simp⟩
  next => exact warranted_quiet rfl

theorem warranted_watermark (args : List String) : (readWatermark args).Warranted := by
  refine closed_warranted.limited (closed_warranted.all ?_)
  simp only [List.forall_mem_cons]
  refine ⟨?opacity, closed_warranted.position fun arg => ?place,
    closed_warranted.position fun _ => warranted_ofExcept _ _,
    closed_warranted.position fun _ => warranted_ofExcept _ _,
    closed_warranted.position fun _ => warranted_ofExcept _ _, by simp⟩
  case opacity =>
    unfold readOpacity
    split <;> exact warranted_quiet rfl
  case place =>
    unfold readPosition
    split
    next => exact warranted_quiet rfl
    next => exact warranted_ofExcept _ _

/-- A setting warns of texts that are no truth values, and of nothing else. -/
theorem warranted_read (s : Setting) (args : List String) : (s.read canSave args).Warranted := by
  cases s with
  | format => exact closed_warranted.single warranted_format
  | resize => exact warranted_resize args
  | size => exact warranted_size args
  | enlarge | extend => exact closed_warranted.single (warranted_flag _)
  | gravity => exact Gravity.warranted_read args
  | crop => exact warranted_crop args
  | background => exact warranted_background args
  | watermark => exact warranted_watermark args
  | cacheBuster | filename => exact closed_warranted.single fun _ => warranted_quiet rfl
  | _ => exact closed_warranted.single fun _ => warranted_ofExcept _ _

end Setting

/-- A run warns of texts that are no truth values, and of presets that it has used before. -/
theorem Task.warranted_run (ctx : Context) (o : Options) (tasks : List Task) :
    ∀ w ∈ (run ctx o tasks).warnings, w.Warranted (run ctx o tasks).state.usedPresets := by
  fun_induction run ctx o tasks with
  | case1 | case2 | case6 => exact List.forall_mem_nil _
  | case3 o asked rest named ih => exact ih
  | case4 o asked rest setting named next e fault =>
    exact setting.warranted_read asked.args _
  | case5 o asked rest setting named next sound ih =>
    intro w member
    exact (List.mem_append.mp member).elim (setting.warranted_read asked.args _ w) (ih w)
  | case7 o name rest options found used ih =>
    -- Presets that were used before are still used at the end.
    obtain ⟨expanded, later⟩ := run_expansions ctx o rest
    refine List.forall_mem_cons.mpr ⟨?_, ih⟩
    show name ∈ (run ctx o rest).state.usedPresets
    rw [later.appended]
    exact List.mem_append_left expanded used
  | case8 o name rest options found fresh ih => exact ih

end ImageGateway
