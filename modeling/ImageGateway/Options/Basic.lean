import ImageGateway.Color
import ImageGateway.Gravity
import ImageGateway.ImageType

/-! Processing options: what is to be done with one image. -/
namespace ImageGateway

inductive ResizeType where
  | fit
  | fill
  | crop
  | auto
  deriving DecidableEq, Repr

namespace ResizeType

def ofName? : String → Option ResizeType
  | "fit" => some .fit
  | "fill" => some .fill
  | "crop" => some .crop
  | "auto" => some .auto
  | _ => none

def name : ResizeType → String
  | .fit => "fit"
  | .fill => "fill"
  | .crop => "crop"
  | .auto => "auto"

theorem ofName?_name (t : ResizeType) : ofName? t.name = some t := by cases t <;> rfl

theorem name_of_ofName? {s : String} {t : ResizeType} (h : ofName? s = some t) : s = t.name := by
  unfold ofName? at h
  split at h <;> cases h <;> rfl

end ResizeType

/-- The part of the source that is cut out; its gravity is independent of the main one. -/
structure Crop where
  width : UInt32
  height : UInt32
  gravity : Gravity
  deriving DecidableEq, Repr

structure Watermark where
  enabled : Bool
  opacity : Binary
  /-- The watermark is tiled instead of placed once. -/
  replicate : Bool
  anchor : Anchor
  offsetX : Int32
  offsetY : Int32
  scale : Binary
  deriving DecidableEq, Repr

structure Options where
  resizeType : ResizeType
  width : UInt32
  height : UInt32
  dpr : Binary
  gravity : Gravity
  enlarge : Bool
  extend : Bool
  crop : Crop
  format : ImageType
  quality : UInt8
  /-- Transparent parts are filled with the background. -/
  flatten : Bool
  background : Color
  blur : Binary
  sharpen : Binary
  cacheBuster : String
  watermark : Watermark
  preferWebp : Bool
  enforceWebp : Bool
  filename : String
  /-- The presets expanded so far, in order. -/
  usedPresets : List String
  deriving DecidableEq, Repr

namespace Options

/-- The options before any request is read. -/
def baseline (quality : UInt8) : Options where
  resizeType := .fit
  width := 0
  height := 0
  dpr := 1
  gravity := .exactly .center
  enlarge := false
  extend := false
  crop := ⟨0, 0, .exactly .unknown⟩
  format := .unknown
  quality := quality
  flatten := false
  background := .white
  blur := 0
  sharpen := 0
  cacheBuster := ""
  watermark := ⟨false, 1, false, .center, 0, 0, 0⟩
  preferWebp := false
  enforceWebp := false
  filename := ""
  usedPresets := []

def markPreset (o : Options) (name : String) : Options :=
  { o with usedPresets := o.usedPresets ++ [name] }

end Options
end ImageGateway
