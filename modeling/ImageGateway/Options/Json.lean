import ImageGateway.Json.Text
import ImageGateway.Options.Basic

/-! Options as JSON, in two layouts. The declared layout keeps the order of the fields and writes
single-precision values with the digits of single precision; it is the form of a document. The
layout by name sorts the members and writes every value in double precision; it is the form in
which options are compared. -/
namespace ImageGateway

inductive Layout where
  | declared
  | byName
  deriving DecidableEq, Repr

namespace Layout

/-- The order of the members is a matter of their names alone. -/
def arrange {β : Type} (layout : Layout) (fields : List (String × β)) : List (String × β) :=
  match layout with
  | .declared => fields
  | .byName => fields.mergeSort fun a b => a.1 ≤ b.1

def record {α : Type} (layout : Layout) (fields : List (String × (α → Json))) (a : α) : Json :=
  .object ((layout.arrange fields).map fun field => (field.1, field.2 a))

def single (layout : Layout) (x : Binary) : Json :=
  match layout with
  | .declared => .ofBinary .single x
  | .byName => .ofBinary .double x

end Layout

def Json.double (x : Binary) : Json := .ofBinary .double x

def Json.natural (n : Nat) : Json := .integer n

def ImageType.toJson (t : ImageType) : Json := if t = .unknown then .null else .string t.name

def Anchor.toJson (a : Anchor) : Json := if a = .unknown then .null else .string a.name

def Gravity.toJson (layout : Layout) : Gravity → Json := layout.record [
  ("type", fun g => g.anchor.toJson),
  ("x", fun g => .double g.x),
  ("y", fun g => .double g.y)]

def Color.toJson (layout : Layout) : Color → Json := layout.record [
  ("r", fun c => .natural c.red.toNat),
  ("g", fun c => .natural c.green.toNat),
  ("b", fun c => .natural c.blue.toNat)]

def Crop.toJson (layout : Layout) : Crop → Json := layout.record [
  ("width", fun c => .natural c.width.toNat),
  ("height", fun c => .natural c.height.toNat),
  ("gravity", fun c => c.gravity.toJson layout)]

def Watermark.toJson (layout : Layout) : Watermark → Json := layout.record [
  ("enabled", fun w => .bool w.enabled),
  ("opacity", fun w => .double w.opacity),
  ("replicate", fun w => .bool w.replicate),
  ("gravity", fun w => w.anchor.toJson),
  ("offset_x", fun w => .integer w.offsetX.toInt),
  ("offset_y", fun w => .integer w.offsetY.toInt),
  ("scale", fun w => .double w.scale)]

def Options.toJson (layout : Layout) : Options → Json := layout.record [
  ("resizing_type", fun o => .string o.resizeType.name),
  ("width", fun o => .natural o.width.toNat),
  ("height", fun o => .natural o.height.toNat),
  ("dpr", fun o => .double o.dpr),
  ("gravity", fun o => o.gravity.toJson layout),
  ("enlarge", fun o => .bool o.enlarge),
  ("extend", fun o => .bool o.extend),
  ("crop", fun o => o.crop.toJson layout),
  ("format", fun o => o.format.toJson),
  ("quality", fun o => .natural o.quality.toNat),
  ("flatten", fun o => .bool o.flatten),
  ("background", fun o => o.background.toJson layout),
  ("blur", fun o => layout.single o.blur),
  ("sharpen", fun o => layout.single o.sharpen),
  ("cache_buster", fun o => .string o.cacheBuster),
  ("watermark", fun o => o.watermark.toJson layout),
  ("prefer_webp", fun o => .bool o.preferWebp),
  ("enforce_webp", fun o => .bool o.enforceWebp),
  ("filename", fun o => .string o.filename),
  ("used_presets", fun o => .array (o.usedPresets.map .string))]

end ImageGateway
