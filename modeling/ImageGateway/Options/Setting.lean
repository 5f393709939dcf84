import ImageGateway.Options.Edit

/-! The settings that an option can name, and how the arguments of each are read. A composite
setting reads its arguments in order, each as the setting of its own would, and skips the ones
that are absent or empty. -/
namespace ImageGateway

inductive Setting where
  | format
  | resize
  | resizingType
  | size
  | width
  | height
  | enlarge
  | extend
  | dpr
  | gravity
  | crop
  | quality
  | background
  | blur
  | sharpen
  | watermark
  | cacheBuster
  | filename
  deriving DecidableEq, Repr

inductive OptionName where
  | setting (s : Setting)
  | preset
  deriving DecidableEq, Repr

def OptionName.ofText? : String → Option OptionName
  | "format" | "f" | "ext" => some (.setting .format)
  | "resize" | "rs" => some (.setting .resize)
  | "resizing_type" | "rt" => some (.setting .resizingType)
  | "size" | "s" => some (.setting .size)
  | "width" | "w" => some (.setting .width)
  | "height" | "h" => some (.setting .height)
  | "enlarge" | "el" => some (.setting .enlarge)
  | "extend" | "ex" => some (.setting .extend)
  | "dpr" => some (.setting .dpr)
  | "gravity" | "g" => some (.setting .gravity)
  | "crop" | "c" => some (.setting .crop)
  | "quality" | "q" => some (.setting .quality)
  | "background" | "bg" => some (.setting .background)
  | "blur" | "bl" => some (.setting .blur)
  | "sharpen" | "sh" => some (.setting .sharpen)
  | "watermark" | "wm" => some (.setting .watermark)
  | "preset" | "pr" => some .preset
  | "cachebuster" | "cb" => some (.setting .cacheBuster)
  | "filename" | "fn" => some (.setting .filename)
  | _ => none

namespace Setting
open Reading

def readWidth (arg : String) : Reading Edit := .ofExcept .width (Argument.dimension "width" arg)

def readHeight (arg : String) : Reading Edit := .ofExcept .height (Argument.dimension "height" arg)

def readEnlarge (arg : String) : Reading Edit := Argument.flag .enlarge arg

def readExtend (arg : String) : Reading Edit := Argument.flag .extend arg

def readResizingType (arg : String) : Reading Edit :=
  .ofExcept .resizeType (Argument.require "resize type" arg (ResizeType.ofName? arg))

/-- A known type that cannot be produced is refused. -/
def readFormat (canSave : ImageType → Bool) (arg : String) : Reading Edit :=
  match ImageType.ofName? arg with
  | none => .fail (.value "image format" arg)
  | some t => if canSave t then .edit (.format t) else .fail (.unsupportedFormat t)

/-- `width:height:enlarge:extend` -/
def readSize (args : List String) : Reading Edit :=
  limited "size" args 4 <| .all [
    position args 0 readWidth,
    position args 1 readHeight,
    position args 2 readEnlarge,
    position args 3 readExtend]

/-- `type`, then the arguments of a size, if there are any -/
def readResize (args : List String) : Reading Edit :=
  limited "resize" args 5 <| .all [
    position args 0 readResizingType,
    if args.length ≤ 1 then .nothing else readSize args.tail]

def readDpr (arg : String) : Reading Edit :=
  .ofExcept .dpr (Argument.number .double (0 < ·) "dpr" arg)

/-- `width:height`, then the arguments of a gravity, unless all of them are empty -/
def readCrop (args : List String) : Reading Edit :=
  limited "crop" args 5 <| .all [
    position args 0 fun arg => .ofExcept .cropWidth (Argument.dimension "crop width" arg),
    position args 1 fun arg => .ofExcept .cropHeight (Argument.dimension "crop height" arg),
    if (args.drop 2).all String.isEmpty then .nothing
    else (Gravity.read (args.drop 2)).map .cropGravity]

def readQuality (arg : String) : Reading Edit :=
  .ofExcept .quality <| Argument.require "quality" arg <|
    ((Numeral.unsigned 8 arg).filter fun n => 1 ≤ n && n ≤ 100).map UInt8.ofNat

def readChannel (channel : Channel) (arg : String) : Reading Edit :=
  .ofExcept (.background channel) (Argument.byte ("background " ++ channel.name ++ " channel") arg)

/-- One hexadecimal colour, which may be empty to leave transparency alone, or three channels. -/
def readBackground (args : List String) : Reading Edit :=
  match args with
  | [text] =>
    if text.isEmpty then .edit (.flatten false) else
    match Color.ofHex text with
    | .error e => .fail (.value "background argument" e.detail)
    | .ok color => { edits := [.flatten true, .background .red color.red,
        .background .green color.green, .background .blue color.blue] }
  | [r, g, b] =>
    .all [.edit (.flatten true), readChannel .red r, readChannel .green g, readChannel .blue b]
  | _ => .fail (.arguments "background" args)

def readAmount (what : String) (edit : Binary → Edit) (arg : String) : Reading Edit :=
  .ofExcept edit (Argument.number .single (0 ≤ ·) what arg)

/-- A watermark shows exactly when it is not fully transparent. -/
def readOpacity (arg : String) : Reading Edit :=
  match Argument.number .double (fun x => 0 ≤ x && x ≤ 1) "watermark opacity" arg with
  | .error e => .fail e
  | .ok x => { edits := [.watermark (.enabled (0 < x)), .watermark (.opacity x)] }

/-- `re` asks for tiling; any other position is an anchor that needs no further data. -/
def readPosition (arg : String) : Reading Edit :=
  if arg = "re" then .edit (.watermark (.replicate true)) else
  .ofExcept (fun a => .watermark (.anchor a)) <| Argument.require "watermark position" arg <|
    (Anchor.ofName? arg).filter fun a => a ≠ .smart && a ≠ .focusPoint

/-- `opacity:position:x_offset:y_offset:scale`; the opacity is required. -/
def readWatermark (args : List String) : Reading Edit :=
  limited "watermark" args 7 <| .all [
    readOpacity (args.headD ""),
    position args 1 readPosition,
    position args 2 fun arg =>
      .ofExcept (fun n => .watermark (.offsetX n)) (Argument.offset "watermark X offset" arg),
    position args 3 fun arg =>
      .ofExcept (fun n => .watermark (.offsetY n)) (Argument.offset "watermark Y offset" arg),
    position args 4 fun arg =>
      .ofExcept (fun x => .watermark (.scale x))
        (Argument.number .double (0 ≤ ·) "watermark scale" arg)]

def read (canSave : ImageType → Bool) (setting : Setting) (args : List String) : Reading Edit :=
  match setting with
  | .format => single "format" args (readFormat canSave)
  | .resize => readResize args
  | .resizingType => single "resizing type" args readResizingType
  | .size => readSize args
  | .width => single "width" args readWidth
  | .height => single "height" args readHeight
  | .enlarge => single "enlarge" args readEnlarge
  | .extend => single "extend" args readExtend
  | .dpr => single "dpr" args readDpr
  | .gravity => (Gravity.read args).map .gravity
  | .crop => readCrop args
  | .quality => single "quality" args readQuality
  | .background => readBackground args
  | .blur => single "blur" args (readAmount "blur" .blur)
  | .sharpen => single "sharpen" args (readAmount "sharpen" .sharpen)
  | .watermark => readWatermark args
  | .cacheBuster => single "cache buster" args fun arg => .edit (.cacheBuster arg)
  | .filename => single "filename" args fun arg => .edit (.filename arg)

end Setting
end ImageGateway
