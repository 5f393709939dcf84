import ImageGateway.Options.Setting
import ImageGateway.Proofs.Reading

/-! The edits that each setting can ask for. A composite setting asks for what its parts ask for.
A value that comes with an edit has passed the check of its setting, whatever the arguments are. -/
namespace ImageGateway

def Gravity.Edit.Named (e : Gravity.Edit) : Prop := e ≠ .anchor .unknown

theorem Gravity.only_named (args : List String) : Reading.Only Edit.Named (read args) := by
  have placed (anchor : Anchor) (what text : String) {edit : Binary → Edit}
      (coordinate : ∀ x, (edit x).Named) :
      Reading.Only Edit.Named (readOffset anchor what text edit) :=
    Reading.only_ofExcept fun x _ => coordinate x
  unfold read
  split
  next => exact Reading.only_fail _
  next name offsets =>
    split
    next => exact Reading.only_fail _
    next =>
      split
      next => exact Reading.only_fail _
      next anchor known =>
        have named := Anchor.ne_unknown_of_ofName? known
        refine Reading.only_all ?_
        simp only [List.forall_mem_cons]
        refine ⟨?anchor, ?arity, ?x, ?y, by simp⟩
        case anchor => exact Reading.only_edit (by simp [Edit.Named, named])
        case arity =>
          split
          next => exact Reading.only_nothing
          next => exact Reading.only_fail _
        case x =>
          split
          next text _ => exact placed anchor _ text (by simp [Edit.Named])
          next => exact Reading.only_nothing
        case y =>
          split
          next text _ => exact placed anchor _ text (by simp [Edit.Named])
          next => exact Reading.only_nothing

/-- What a request may set of a watermark. -/
inductive Watermark.Edit.Allowed : Watermark.Edit → Prop where
  | enabled : Allowed (.enabled b)
  | opacity : 0 ≤ x → x ≤ 1 → Allowed (.opacity x)
  | replicate : Allowed (.replicate b)
  | anchor : a ≠ .unknown → a ≠ .smart → a ≠ .focusPoint → Allowed (.anchor a)
  | offsetX : Allowed (.offsetX n)
  | offsetY : Allowed (.offsetY n)
  | scale : 0 ≤ x → Allowed (.scale x)

namespace Setting
open Reading

inductive Asks (canSave : ImageType → Bool) : Setting → Edit → Prop where
  | format : canSave t = true → Asks canSave .format (.format t)
  | resize : part ∈ [.resizingType, .size] → Asks canSave part e → Asks canSave .resize e
  | resizingType : Asks canSave .resizingType (.resizeType t)
  | size : part ∈ [.width, .height, .enlarge, .extend] → Asks canSave part e → Asks canSave .size e
  | width : Asks canSave .width (.width n)
  | height : Asks canSave .height (.height n)
  | enlarge : Asks canSave .enlarge (.enlarge b)
  | extend : Asks canSave .extend (.extend b)
  | dpr : 0 < x → Asks canSave .dpr (.dpr x)
  | gravity : g.Named → Asks canSave .gravity (.gravity g)
  | cropWidth : Asks canSave .crop (.cropWidth n)
  | cropHeight : Asks canSave .crop (.cropHeight n)
  | cropGravity : g.Named → Asks canSave .crop (.cropGravity g)
  | quality : 1 ≤ n → n ≤ 100 → Asks canSave .quality (.quality n)
  | flatten : Asks canSave .background (.flatten b)
  | background : Asks canSave .background (.background channel level)
  | blur : 0 ≤ x → Asks canSave .blur (.blur x)
  | sharpen : 0 ≤ x → Asks canSave .sharpen (.sharpen x)
  | watermark : w.Allowed → Asks canSave .watermark (.watermark w)
  | cacheBuster : Asks canSave .cacheBuster (.cacheBuster s)
  | filename : Asks canSave .filename (.filename s)

variable {canSave : ImageType → Bool}

theorem only_width (arg : String) : Only (Asks canSave .width) (readWidth arg) :=
  only_ofExcept fun _ _ => .width

theorem only_height (arg : String) : Only (Asks canSave .height) (readHeight arg) :=
  only_ofExcept fun _ _ => .height

theorem only_enlarge (arg : String) : Only (Asks canSave .enlarge) (readEnlarge arg) :=
  only_flag (fun _ => .enlarge) arg

theorem only_extend (arg : String) : Only (Asks canSave .extend) (readExtend arg) :=
  only_flag (fun _ => .extend) arg

theorem only_resizingType (arg : String) :
    Only (Asks canSave .resizingType) (readResizingType arg) :=
  only_ofExcept fun _ _ => .resizingType

theorem only_part {whole part : Setting} {r : Reading Edit}
    (asks : ∀ e, Asks canSave part e → Asks canSave whole e) (only : Only (Asks canSave part) r) :
    Only (Asks canSave whole) r := fun e member => asks e (only e member)

theorem only_size (args : List String) : Only (Asks canSave .size) (readSize args) := by
  have part {s : Setting} (listed : s ∈ [.width, .height, .enlarge, .extend])
      {i : Nat} {read : String → Reading Edit} (each : ∀ arg, Only (Asks canSave s) (read arg)) :
      Only (Asks canSave .size) (position args i read) :=
    only_part (fun _ => .size listed) (only_position each)
  refine only_limited (only_all ?_)
  simp only [List.forall_mem_cons]
  exact ⟨part (by simp) only_width, part (by simp) only_height, part (by simp) only_enlarge,
    part (by simp) only_extend, by simp⟩

theorem only_resize (args : List String) : Only (Asks canSave .resize) (readResize args) := by
  refine only_limited (only_all ?_)
  simp only [List.forall_mem_cons]
  refine ⟨only_part (fun _ => .resize (by simp)) (only_position only_resizingType), ?_, by simp⟩
  split
  next => exact only_nothing
  next => exact only_part (fun _ => .resize (by simp)) (only_size args.tail)

theorem only_format (arg : String) : Only (Asks canSave .format) (readFormat canSave arg) := by
  unfold readFormat
  split
  next => exact only_fail _
  next t _ =>
    split
    next savable => exact only_edit (.format savable)
    next => exact only_fail _

theorem only_dpr (arg : String) : Only (Asks canSave .dpr) (readDpr arg) :=
  only_ofExcept fun _ read => .dpr (by simpa using Argument.accepted_of_number read)

theorem only_crop (args : List String) : Only (Asks canSave .crop) (readCrop args) := by
  refine only_limited (only_all ?_)
  simp only [List.forall_mem_cons]
  refine ⟨only_position fun _ => only_ofExcept fun _ _ => .cropWidth,
    only_position fun _ => only_ofExcept fun _ _ => .cropHeight, ?_, by simp⟩
  split
  next => exact only_nothing
  next => exact only_map (Gravity.only_named _) fun _ => .cropGravity

theorem only_quality (arg : String) : Only (Asks canSave .quality) (readQuality arg) := by
  refine only_ofExcept fun n read => ?_
  obtain ⟨value, found, rfl⟩ := Option.map_eq_some_iff.mp (Argument.require_eq_ok.mp read)
  obtain ⟨least, most⟩ : 1 ≤ value ∧ value ≤ 100 := by
    simpa using (Option.filter_eq_some_iff.mp found).2
  have size : (UInt8.ofNat value).toNat = value :=
    UInt8.toNat_ofNat_of_lt' (Nat.lt_of_le_of_lt most (by decide))
  refine .quality ?_ ?_
  · rw [UInt8.le_iff_toNat_le, size]
    exact least
  · rw [UInt8.le_iff_toNat_le, size]
    exact most

theorem only_background (args : List String) :
    Only (Asks canSave .background) (readBackground args) := by
  have channel (c : Channel) (arg : String) :
      Only (Asks canSave .background) (readChannel c arg) :=
    only_ofExcept fun _ _ => .background
  unfold readBackground
  split
  next text =>
    split
    next => exact only_edit .flatten
    next =>
      split
      next => exact only_fail _
      next color _ =>
        simp only [Only, List.forall_mem_cons]
        exact ⟨.flatten, .background, .background, .background, by simp⟩
  next r g b =>
    refine only_all ?_
    simp only [List.forall_mem_cons]
    exact ⟨only_edit .flatten, channel .red r, channel .green g, channel .blue b, by simp⟩
  next => exact only_fail _

theorem only_opacity (arg : String) : Only (Asks canSave .watermark) (readOpacity arg) := by
  unfold readOpacity
  split
  next => exact only_fail _
  next x read =>
    have accepted := Argument.accepted_of_number read
    obtain ⟨least, most⟩ : 0 ≤ x ∧ x ≤ 1 := by simpa using accepted
    simp only [Only, List.forall_mem_cons]
    exact ⟨.watermark .enabled, .watermark (.opacity least most), by simp⟩

theorem only_place (arg : String) : Only (Asks canSave .watermark) (readPosition arg) := by
  unfold readPosition
  split
  next => exact only_edit (.watermark .replicate)
  next =>
    refine only_ofExcept fun a read => ?_
    obtain ⟨known, placed⟩ := Option.filter_eq_some_iff.mp (Argument.require_eq_ok.mp read)
    obtain ⟨notSmart, notFocus⟩ : a ≠ .smart ∧ a ≠ .focusPoint := by simpa using placed
    exact .watermark (.anchor (Anchor.ne_unknown_of_ofName? known) notSmart notFocus)

theorem only_watermark (args : List String) :
    Only (Asks canSave .watermark) (readWatermark args) := by
  refine only_limited (only_all ?_)
  simp only [List.forall_mem_cons]
  refine ⟨only_opacity _, only_position only_place,
    only_position fun _ => only_ofExcept fun _ _ => .watermark .offsetX,
    only_position fun _ => only_ofExcept fun _ _ => .watermark .offsetY,
    only_position fun _ => only_ofExcept fun x read => ?_, by simp⟩
  exact .watermark (.scale (by simpa using Argument.accepted_of_number read))

/-- A setting asks for its own edits only, with values that its checks let through. -/
theorem only_asks (s : Setting) (args : List String) :
    Only (Asks canSave s) (s.read canSave args) := by
  have amount {s : Setting} {what : String} {edit : Binary → Edit}
      (asks : ∀ x, 0 ≤ x → Asks canSave s (edit x)) (arg : String) :
      Only (Asks canSave s) (readAmount what edit arg) :=
    only_ofExcept fun x read => asks x (by simpa using Argument.accepted_of_number read)
  cases s with
  | format => exact only_single only_format
  | resize => exact only_resize args
  | resizingType => exact only_single only_resizingType
  | size => exact only_size args
  | width => exact only_single only_width
  | height => exact only_single only_height
  | enlarge => exact only_single only_enlarge
  | extend => exact only_single only_extend
  | dpr => exact only_single only_dpr
  | gravity => exact only_map (Gravity.only_named args) fun _ => .gravity
  | crop => exact only_crop args
  | quality => exact only_single only_quality
  | background => exact only_background args
  | blur => exact only_single (amount fun _ => .blur)
  | sharpen => exact only_single (amount fun _ => .sharpen)
  | watermark => exact only_watermark args
  | cacheBuster => exact only_single fun _ => only_edit .cacheBuster
  | filename => exact only_single fun _ => only_edit .filename

end Setting
end ImageGateway
