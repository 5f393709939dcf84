import ImageGateway.Proofs.Options.Leaf

/-! The fields of the options, each a group of leaves. Options are known by their fields, and a
field by its leaves, the presets used apart, which are a field without any. -/
namespace ImageGateway

inductive Field where
  | resizeType
  | width
  | height
  | dpr
  | gravity
  | enlarge
  | extend
  | crop
  | format
  | quality
  | flatten
  | background
  | blur
  | sharpen
  | cacheBuster
  | watermark
  | preferWebp
  | enforceWebp
  | filename
  | usedPresets
  deriving DecidableEq, Repr

def Field.Value : Field → Type
  | .resizeType => ResizeType
  | .width | .height => UInt32
  | .dpr | .blur | .sharpen => Binary
  | .gravity => Gravity
  | .crop => Crop
  | .format => ImageType
  | .quality => UInt8
  | .background => Color
  | .watermark => Watermark
  | .enlarge | .extend | .flatten | .preferWebp | .enforceWebp => Bool
  | .cacheBuster | .filename => String
  | .usedPresets => List String

def Leaf.field : Leaf → Field
  | .resizeType => .resizeType
  | .width => .width
  | .height => .height
  | .dpr => .dpr
  | .gravity _ => .gravity
  | .enlarge => .enlarge
  | .extend => .extend
  | .cropWidth | .cropHeight | .cropGravity _ => .crop
  | .format => .format
  | .quality => .quality
  | .flatten => .flatten
  | .background _ => .background
  | .blur => .blur
  | .sharpen => .sharpen
  | .cacheBuster => .cacheBuster
  | .watermark _ => .watermark
  | .preferWebp => .preferWebp
  | .enforceWebp => .enforceWebp
  | .filename => .filename

namespace Options

def field (o : Options) : (f : Field) → f.Value
  | .resizeType => o.resizeType
  | .width => o.width
  | .height => o.height
  | .dpr => o.dpr
  | .gravity => o.gravity
  | .enlarge => o.enlarge
  | .extend => o.extend
  | .crop => o.crop
  | .format => o.format
  | .quality => o.quality
  | .flatten => o.flatten
  | .background => o.background
  | .blur => o.blur
  | .sharpen => o.sharpen
  | .cacheBuster => o.cacheBuster
  | .watermark => o.watermark
  | .preferWebp => o.preferWebp
  | .enforceWebp => o.enforceWebp
  | .filename => o.filename
  | .usedPresets => o.usedPresets

variable {o p : Options}

theorem ext_field (same : ∀ f, o.field f = p.field f) : o = p := by
  cases o
  cases p
  rw [mk.injEq]
  exact ⟨same .resizeType, same .width, same .height, same .dpr, same .gravity, same .enlarge,
    same .extend, same .crop, same .format, same .quality, same .flatten, same .background,
    same .blur, same .sharpen, same .cacheBuster, same .watermark, same .preferWebp,
    same .enforceWebp, same .filename, same .usedPresets⟩

theorem field_congr {f : Field} (leaves : ∀ l, l.field = f → o.get l = p.get l)
    (used : o.usedPresets = p.usedPresets) : o.field f = p.field f := by
  cases f with
  | resizeType => exact Scalar.resizeType.inj (leaves .resizeType rfl)
  | width => exact Scalar.pixels.inj (leaves .width rfl)
  | height => exact Scalar.pixels.inj (leaves .height rfl)
  | dpr => exact Scalar.number.inj (leaves .dpr rfl)
  | gravity => exact Gravity.ext_get fun l => leaves (.gravity l) rfl
  | enlarge => exact Scalar.flag.inj (leaves .enlarge rfl)
  | extend => exact Scalar.flag.inj (leaves .extend rfl)
  | crop =>
    have width : o.crop.width = p.crop.width := Scalar.pixels.inj (leaves .cropWidth rfl)
    have height : o.crop.height = p.crop.height := Scalar.pixels.inj (leaves .cropHeight rfl)
    have gravity : o.crop.gravity = p.crop.gravity :=
      Gravity.ext_get fun l => leaves (.cropGravity l) rfl
    calc
      o.crop = ⟨p.crop.width, p.crop.height, p.crop.gravity⟩ := by
        rw [← width, ← height, ← gravity]
      _ = p.crop := rfl
  | format => exact Scalar.format.inj (leaves .format rfl)
  | quality => exact Scalar.byte.inj (leaves .quality rfl)
  | flatten => exact Scalar.flag.inj (leaves .flatten rfl)
  | background => exact Color.ext_get fun l => leaves (.background l) rfl
  | blur => exact Scalar.number.inj (leaves .blur rfl)
  | sharpen => exact Scalar.number.inj (leaves .sharpen rfl)
  | cacheBuster => exact Scalar.text.inj (leaves .cacheBuster rfl)
  | watermark => exact Watermark.ext_get fun l => leaves (.watermark l) rfl
  | preferWebp => exact Scalar.flag.inj (leaves .preferWebp rfl)
  | enforceWebp => exact Scalar.flag.inj (leaves .enforceWebp rfl)
  | filename => exact Scalar.text.inj (leaves .filename rfl)
  | usedPresets => exact used

/-- Options with the same leaves that have used the same presets are the same. -/
theorem ext_get (same : ∀ l, o.get l = p.get l) (used : o.usedPresets = p.usedPresets) : o = p :=
  ext_field fun _ => field_congr (fun l _ => same l) used

end Options
end ImageGateway
