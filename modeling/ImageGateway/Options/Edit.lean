import ImageGateway.Options.Basic

/-! Edits of the options. Each edit replaces one leaf; the expanded presets and what the request
headers ask for are no leaves that an edit can reach. -/
namespace ImageGateway

inductive Channel where
  | red
  | green
  | blue
  deriving DecidableEq, Repr

def Channel.name : Channel → String
  | .red => "red"
  | .green => "green"
  | .blue => "blue"

def Color.set (c : Color) (level : UInt8) : Channel → Color
  | .red => { c with red := level }
  | .green => { c with green := level }
  | .blue => { c with blue := level }

inductive Watermark.Edit where
  | enabled (b : Bool)
  | opacity (x : Binary)
  | replicate (b : Bool)
  | anchor (a : Anchor)
  | offsetX (n : Int32)
  | offsetY (n : Int32)
  | scale (x : Binary)
  deriving DecidableEq, Repr

def Watermark.Edit.apply : Watermark.Edit → Watermark → Watermark
  | .enabled b, w => { w with enabled := b }
  | .opacity x, w => { w with opacity := x }
  | .replicate b, w => { w with replicate := b }
  | .anchor a, w => { w with anchor := a }
  | .offsetX n, w => { w with offsetX := n }
  | .offsetY n, w => { w with offsetY := n }
  | .scale x, w => { w with scale := x }

inductive Edit where
  | resizeType (t : ResizeType)
  | width (n : UInt32)
  | height (n : UInt32)
  | dpr (x : Binary)
  | gravity (e : Gravity.Edit)
  | enlarge (b : Bool)
  | extend (b : Bool)
  | cropWidth (n : UInt32)
  | cropHeight (n : UInt32)
  | cropGravity (e : Gravity.Edit)
  | format (t : ImageType)
  | quality (n : UInt8)
  | flatten (b : Bool)
  | background (channel : Channel) (level : UInt8)
  | blur (x : Binary)
  | sharpen (x : Binary)
  | cacheBuster (s : String)
  | watermark (e : Watermark.Edit)
  | filename (s : String)
  deriving DecidableEq, Repr

def Edit.apply : Edit → Options → Options
  | .resizeType t, o => { o with resizeType := t }
  | .width n, o => { o with width := n }
  | .height n, o => { o with height := n }
  | .dpr x, o => { o with dpr := x }
  | .gravity e, o => { o with gravity := e.apply o.gravity }
  | .enlarge b, o => { o with enlarge := b }
  | .extend b, o => { o with extend := b }
  | .cropWidth n, o => { o with crop := { o.crop with width := n } }
  | .cropHeight n, o => { o with crop := { o.crop with height := n } }
  | .cropGravity e, o => { o with crop := { o.crop with gravity := e.apply o.crop.gravity } }
  | .format t, o => { o with format := t }
  | .quality n, o => { o with quality := n }
  | .flatten b, o => { o with flatten := b }
  | .background channel level, o => { o with background := o.background.set level channel }
  | .blur x, o => { o with blur := x }
  | .sharpen x, o => { o with sharpen := x }
  | .cacheBuster s, o => { o with cacheBuster := s }
  | .watermark e, o => { o with watermark := e.apply o.watermark }
  | .filename s, o => { o with filename := s }

@[simp] theorem Edit.usedPresets_apply (e : Edit) (o : Options) :
    (e.apply o).usedPresets = o.usedPresets := by
  cases e <;> rfl

@[simp] theorem Edit.preferWebp_apply (e : Edit) (o : Options) :
    (e.apply o).preferWebp = o.preferWebp := by
  cases e <;> rfl

@[simp] theorem Edit.enforceWebp_apply (e : Edit) (o : Options) :
    (e.apply o).enforceWebp = o.enforceWebp := by
  cases e <;> rfl

def Reading.applyTo (r : Reading Edit) (o : Options) : Outcome Options := r.apply Edit.apply o

@[simp] theorem Reading.usedPresets_applyTo (r : Reading Edit) (o : Options) :
    (r.applyTo o).state.usedPresets = o.usedPresets := by
  obtain ⟨edits, warnings, fault⟩ := r
  simp only [applyTo, apply]
  induction edits generalizing o with
  | nil => rfl
  | cons e edits ih => simp [ih (e.apply o)]

end ImageGateway
