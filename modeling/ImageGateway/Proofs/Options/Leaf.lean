import ImageGateway.Proofs.Reading

/-! The leaves of the options: the fields that hold a single value, those of the gravities, the
crop, the background and the watermark included. An edit gives one leaf a value of its own and
leaves the others, so that a list of edits gives each leaf the value that is written to it last. -/
namespace ImageGateway

inductive Scalar where
  | resizeType (t : ResizeType)
  | pixels (n : UInt32)
  | number (x : Binary)
  | flag (b : Bool)
  | anchor (a : Anchor)
  | format (t : ImageType)
  | byte (n : UInt8)
  | text (s : String)
  | offset (n : Int32)
  deriving DecidableEq, Repr

namespace Gravity

inductive Leaf where
  | anchor
  | x
  | y
  deriving DecidableEq, Repr

def get (g : Gravity) : Leaf → Scalar
  | .anchor => .anchor g.anchor
  | .x => .number g.x
  | .y => .number g.y

def Edit.leaf : Edit → Leaf
  | .anchor _ => .anchor
  | .x _ => .x
  | .y _ => .y

def Edit.value : Edit → Scalar
  | .anchor a => .anchor a
  | .x offset => .number offset
  | .y offset => .number offset

theorem get_apply (e : Edit) (g : Gravity) (l : Leaf) :
    (e.apply g).get l = if e.leaf = l then e.value else g.get l := by
  cases e <;> cases l <;> rfl

theorem ext_get {g h : Gravity} (same : ∀ l, g.get l = h.get l) : g = h := by
  have anchor : g.anchor = h.anchor := Scalar.anchor.inj (same .anchor)
  have x : g.x = h.x := Scalar.number.inj (same .x)
  have y : g.y = h.y := Scalar.number.inj (same .y)
  cases g
  cases h
  simp_all

end Gravity

namespace Color

def get (c : Color) : Channel → Scalar
  | .red => .byte c.red
  | .green => .byte c.green
  | .blue => .byte c.blue

theorem get_set (c : Color) (level : UInt8) (channel l : Channel) :
    (c.set level channel).get l = if channel = l then .byte level else c.get l := by
  cases channel <;> cases l <;> rfl

theorem ext_get {c d : Color} (same : ∀ l, c.get l = d.get l) : c = d := by
  have red : c.red = d.red := Scalar.byte.inj (same .red)
  have green : c.green = d.green := Scalar.byte.inj (same .green)
  have blue : c.blue = d.blue := Scalar.byte.inj (same .blue)
  cases c
  cases d
  simp_all

end Color

namespace Watermark

inductive Leaf where
  | enabled
  | opacity
  | replicate
  | anchor
  | offsetX
  | offsetY
  | scale
  deriving DecidableEq, Repr

def get (w : Watermark) : Leaf → Scalar
  | .enabled => .flag w.enabled
  | .opacity => .number w.opacity
  | .replicate => .flag w.replicate
  | .anchor => .anchor w.anchor
  | .offsetX => .offset w.offsetX
  | .offsetY => .offset w.offsetY
  | .scale => .number w.scale

def Edit.leaf : Edit → Leaf
  | .enabled _ => .enabled
  | .opacity _ => .opacity
  | .replicate _ => .replicate
  | .anchor _ => .anchor
  | .offsetX _ => .offsetX
  | .offsetY _ => .offsetY
  | .scale _ => .scale

def Edit.value : Edit → Scalar
  | .enabled b => .flag b
  | .opacity x => .number x
  | .replicate b => .flag b
  | .anchor a => .anchor a
  | .offsetX n => .offset n
  | .offsetY n => .offset n
  | .scale x => .number x

theorem get_apply (e : Edit) (w : Watermark) (l : Leaf) :
    (e.apply w).get l = if e.leaf = l then e.value else w.get l := by
  cases e <;> cases l <;> rfl

theorem ext_get {v w : Watermark} (same : ∀ l, v.get l = w.get l) : v = w := by
  have enabled : v.enabled = w.enabled := Scalar.flag.inj (same .enabled)
  have opacity : v.opacity = w.opacity := Scalar.number.inj (same .opacity)
  have replicate : v.replicate = w.replicate := Scalar.flag.inj (same .replicate)
  have anchor : v.anchor = w.anchor := Scalar.anchor.inj (same .anchor)
  have offsetX : v.offsetX = w.offsetX := Scalar.offset.inj (same .offsetX)
  have offsetY : v.offsetY = w.offsetY := Scalar.offset.inj (same .offsetY)
  have scale : v.scale = w.scale := Scalar.number.inj (same .scale)
  cases v
  cases w
  simp_all

end Watermark

inductive Leaf where
  | resizeType
  | width
  | height
  | dpr
  | gravity (l : Gravity.Leaf)
  | enlarge
  | extend
  | cropWidth
  | cropHeight
  | cropGravity (l : Gravity.Leaf)
  | format
  | quality
  | flatten
  | background (channel : Channel)
  | blur
  | sharpen
  | cacheBuster
  | watermark (l : Watermark.Leaf)
  | preferWebp
  | enforceWebp
  | filename
  deriving DecidableEq, Repr

def Options.get (o : Options) : Leaf → Scalar
  | .resizeType => .resizeType o.resizeType
  | .width => .pixels o.width
  | .height => .pixels o.height
  | .dpr => .number o.dpr
  | .gravity l => o.gravity.get l
  | .enlarge => .flag o.enlarge
  | .extend => .flag o.extend
  | .cropWidth => .pixels o.crop.width
  | .cropHeight => .pixels o.crop.height
  | .cropGravity l => o.crop.gravity.get l
  | .format => .format o.format
  | .quality => .byte o.quality
  | .flatten => .flag o.flatten
  | .background channel => o.background.get channel
  | .blur => .number o.blur
  | .sharpen => .number o.sharpen
  | .cacheBuster => .text o.cacheBuster
  | .watermark l => o.watermark.get l
  | .preferWebp => .flag o.preferWebp
  | .enforceWebp => .flag o.enforceWebp
  | .filename => .text o.filename

namespace Edit

def leaf : Edit → Leaf
  | .resizeType _ => .resizeType
  | .width _ => .width
  | .height _ => .height
  | .dpr _ => .dpr
  | .gravity e => .gravity e.leaf
  | .enlarge _ => .enlarge
  | .extend _ => .extend
  | .cropWidth _ => .cropWidth
  | .cropHeight _ => .cropHeight
  | .cropGravity e => .cropGravity e.leaf
  | .format _ => .format
  | .quality _ => .quality
  | .flatten _ => .flatten
  | .background channel _ => .background channel
  | .blur _ => .blur
  | .sharpen _ => .sharpen
  | .cacheBuster _ => .cacheBuster
  | .watermark e => .watermark e.leaf
  | .filename _ => .filename

def value : Edit → Scalar
  | .resizeType t => .resizeType t
  | .width n => .pixels n
  | .height n => .pixels n
  | .dpr x => .number x
  | .gravity e => e.value
  | .enlarge b => .flag b
  | .extend b => .flag b
  | .cropWidth n => .pixels n
  | .cropHeight n => .pixels n
  | .cropGravity e => e.value
  | .format t => .format t
  | .quality n => .byte n
  | .flatten b => .flag b
  | .background _ level => .byte level
  | .blur x => .number x
  | .sharpen x => .number x
  | .cacheBuster s => .text s
  | .watermark e => e.value
  | .filename s => .text s

/-- The value that a list of edits writes last to a leaf, if they write one. -/
def written (edits : List Edit) (l : Leaf) : Option Scalar :=
  ((edits.filter fun e => e.leaf = l).getLast?).map value

theorem written_append (first second : List Edit) (l : Leaf) :
    written (first ++ second) l = (written second l).or (written first l) := by
  rw [written, List.filter_append, List.getLast?_append, written, written]
  cases (second.filter fun e => e.leaf = l).getLast? <;> rfl

theorem written_eq_none {edits : List Edit} {l : Leaf} (other : ∀ e ∈ edits, e.leaf ≠ l) :
    written edits l = none := by
  have silent : (edits.filter fun e => e.leaf = l) = [] :=
    List.filter_eq_nil_iff.mpr fun e member => by simpa using other e member
  rw [written, silent]
  rfl

end Edit

namespace Options

theorem get_apply (e : Edit) (o : Options) (l : Leaf) :
    (e.apply o).get l = if e.leaf = l then e.value else o.get l := by
  cases e with
  | gravity e =>
    cases l with
    | gravity l =>
      simpa [Edit.apply, get, Edit.leaf, Edit.value] using Gravity.get_apply e o.gravity l
    | _ => rfl
  | cropGravity e =>
    cases l with
    | cropGravity l =>
      simpa [Edit.apply, get, Edit.leaf, Edit.value] using Gravity.get_apply e o.crop.gravity l
    | _ => rfl
  | background channel level =>
    cases l with
    | background l =>
      simpa [Edit.apply, get, Edit.leaf, Edit.value] using o.background.get_set level channel l
    | _ => rfl
  | watermark e =>
    cases l with
    | watermark l =>
      simpa [Edit.apply, get, Edit.leaf, Edit.value] using Watermark.get_apply e o.watermark l
    | _ => rfl
  | _ => cases l <;> rfl

/-- After a list of edits a leaf has the value written to it last, or else the one before. -/
theorem get_foldl (edits : List Edit) (o : Options) (l : Leaf) :
    (edits.foldl (fun o e => e.apply o) o).get l = (Edit.written edits l).getD (o.get l) := by
  induction edits generalizing o with
  | nil => rfl
  | cons e rest ih =>
    rw [List.foldl_cons, ih, get_apply]
    by_cases same : e.leaf = l
    · rw [if_pos same, Edit.written, Edit.written, List.filter_cons_of_pos (by simpa using same),
        List.getLast?_cons]
      cases (rest.filter fun e => e.leaf = l).getLast? <;> rfl
    · rw [if_neg same, Edit.written, Edit.written, List.filter_cons_of_neg (by simpa using same)]

end Options

namespace Reading

variable {l : Leaf} {r first : Reading Edit}

/-- The value that a reading writes last to a leaf, if it writes one. -/
def written (r : Reading Edit) (l : Leaf) : Option Scalar := Edit.written r.edits l

theorem get_applyTo (r : Reading Edit) (o : Options) (l : Leaf) :
    (r.applyTo o).state.get l = (r.written l).getD (o.get l) :=
  Options.get_foldl r.edits o l

theorem written_of_only (only : Only (fun e => e.leaf ≠ l) r) : r.written l = none :=
  Edit.written_eq_none only

theorem written_all_cons (sound : first.fault = none) (rest : List (Reading Edit)) :
    (all (first :: rest)).written l = ((all rest).written l).or (first.written l) := by
  rw [written, edits_all_cons sound]
  exact Edit.written_append first.edits (all rest).edits l

theorem written_edit (e : Edit) : (Reading.edit e).written e.leaf = some e.value := by
  simp [written, edit, Edit.written]

theorem written_all_between {before after : List (Reading Edit)}
    (aside : ∀ b ∈ before ++ after, b.Only fun e => e.leaf ≠ l)
    (sound : (all (before ++ r :: after)).fault = none) :
    (all (before ++ r :: after)).written l = r.written l := by
  have silent {readings : List (Reading Edit)} (each : ∀ b ∈ readings, b.Only fun e => e.leaf ≠ l) :
      Edit.written (readings.flatMap edits) l = none := by
    refine Edit.written_eq_none fun e member => ?_
    obtain ⟨b, listed, inside⟩ := List.mem_flatMap.mp member
    exact each b listed e inside
  obtain ⟨earlier, later⟩ := List.forall_mem_append.mp aside
  rw [written, edits_all (fault_all.mp sound), List.flatMap_append, List.flatMap_cons,
    Edit.written_append, Edit.written_append, silent earlier, silent later, Option.none_or,
    Option.or_none, written]

end Reading
end ImageGateway
