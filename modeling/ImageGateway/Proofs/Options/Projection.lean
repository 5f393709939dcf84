import ImageGateway.Proofs.Options.Difference
import ImageGateway.Proofs.Options.Leaf

/-! The leaves of the options in JSON. Each leaf is written at a path of its own, and there a
difference of options has what changed in the leaf. -/
namespace ImageGateway

def Scalar.toJson : Scalar → Json
  | .resizeType t => .string t.name
  | .pixels n => .natural n.toNat
  | .number x => .double x
  | .flag b => .bool b
  | .anchor a => a.toJson
  | .format t => t.toJson
  | .byte n => .natural n.toNat
  | .text s => .string s
  | .offset n => .integer n.toInt

def Gravity.Leaf.name : Gravity.Leaf → String
  | .anchor => "type"
  | .x => "x"
  | .y => "y"

def Channel.key : Channel → String
  | .red => "r"
  | .green => "g"
  | .blue => "b"

def Watermark.Leaf.name : Watermark.Leaf → String
  | .enabled => "enabled"
  | .opacity => "opacity"
  | .replicate => "replicate"
  | .anchor => "gravity"
  | .offsetX => "offset_x"
  | .offsetY => "offset_y"
  | .scale => "scale"

def Leaf.path : Leaf → List String
  | .resizeType => ["resizing_type"]
  | .width => ["width"]
  | .height => ["height"]
  | .dpr => ["dpr"]
  | .gravity l => ["gravity", l.name]
  | .enlarge => ["enlarge"]
  | .extend => ["extend"]
  | .cropWidth => ["crop", "width"]
  | .cropHeight => ["crop", "height"]
  | .cropGravity l => ["crop", "gravity", l.name]
  | .format => ["format"]
  | .quality => ["quality"]
  | .flatten => ["flatten"]
  | .background channel => ["background", channel.key]
  | .blur => ["blur"]
  | .sharpen => ["sharpen"]
  | .cacheBuster => ["cache_buster"]
  | .watermark l => ["watermark", l.name]
  | .preferWebp => ["prefer_webp"]
  | .enforceWebp => ["enforce_webp"]
  | .filename => ["filename"]

namespace Json

theorem at?_change? {v w before leaf : Json} (alike : Alike v w) {path : List String}
    (stood : v.at? path = some before) (stands : w.at? path = some leaf)
    (plain : leaf.isObject = false) :
    (change? (some v) w).bind (at? path) = change? (some before) leaf := by
  induction alike generalizing path before leaf with
  | @leaf v w left right =>
    cases path with
    | nil =>
      obtain rfl := Option.some.inj stood
      obtain rfl := Option.some.inj stands
      rw [change?_leaf right]
      split <;> rfl
    | cons name path =>
      obtain ⟨x, held, -⟩ := Option.bind_eq_some_iff.mp stands
      cases w <;> contradiction
  | @object xs ys names distinct values ih =>
    cases path with
    | nil =>
      obtain rfl := Option.some.inj stands
      contradiction
    | cons name path =>
      obtain ⟨x, left, stood⟩ := Option.bind_eq_some_iff.mp stood
      obtain ⟨y, right, stands⟩ := Option.bind_eq_some_iff.mp stands
      replace left : find? name xs = some x := left
      replace right : find? name ys = some y := right
      have inside : (change? (some (.object xs)) (.object ys)).bind (at? (name :: path)) =
          (find? name (changes xs ys)).bind (at? path) := by
        rw [change?_object]
        cases changes xs ys <;> rfl
      rw [inside, find?_changes (names ▸ distinct), left, right]
      exact ih name x y left right stood stands plain

end Json

namespace Layout

variable {α : Type} {layout : Layout} {fields : List (String × (α → Json))} {a : α}

/-- A path into a record goes on in the member of its first name, in whatever order the members are
written. -/
theorem at?_record {name : String} {write : α → Json} (named : fields.lookup name = some write)
    (path : List String) (distinct : (fields.map Prod.fst).Nodup) :
    (layout.record fields a).at? (name :: path) = (write a).at? path := by
  obtain ⟨before, after, listed, -⟩ := List.lookup_eq_some_iff.mp named
  have member : (name, write) ∈ fields := by simp [listed]
  rw [Json.at?, member?_record distinct member, Option.bind_some]

end Layout

variable {layout : Layout}

theorem Gravity.at?_toJson (g : Gravity) (l : Gravity.Leaf) :
    (g.toJson layout).at? [l.name] = some (g.get l).toJson := by
  unfold Gravity.toJson
  cases l <;> (rw [Gravity.Leaf.name, Layout.at?_record rfl [] (by decide)]; rfl)

theorem Color.at?_toJson (c : Color) (channel : Channel) :
    (c.toJson layout).at? [channel.key] = some (c.get channel).toJson := by
  unfold Color.toJson
  cases channel <;> (rw [Channel.key, Layout.at?_record rfl [] (by decide)]; rfl)

theorem Watermark.at?_toJson (w : Watermark) (l : Watermark.Leaf) :
    (w.toJson layout).at? [l.name] = some (w.get l).toJson := by
  unfold Watermark.toJson
  cases l <;> (rw [Watermark.Leaf.name, Layout.at?_record rfl [] (by decide)]; rfl)

theorem Crop.at?_toJson (c : Crop) :
    (c.toJson layout).at? ["width"] = some (Scalar.pixels c.width).toJson ∧
      (c.toJson layout).at? ["height"] = some (Scalar.pixels c.height).toJson ∧
      ∀ l : Gravity.Leaf,
        (c.toJson layout).at? ["gravity", l.name] = some (c.gravity.get l).toJson := by
  have distinct : ["width", "height", "gravity"].Nodup := by decide
  unfold Crop.toJson
  refine ⟨?_, ?_, fun l => ?_⟩ <;> rw [Layout.at?_record rfl _ (by exact distinct)]
  case refine_3 => exact c.gravity.at?_toJson l
  all_goals rfl

theorem Options.at?_toJson (o : Options) (l : Leaf) :
    (o.toJson .byName).at? l.path = some (o.get l).toJson := by
  cases l <;> rw [Leaf.path, toJson, Layout.at?_record rfl _ (by exact distinct_names)]
  case gravity l => exact o.gravity.at?_toJson l
  case cropWidth => exact o.crop.at?_toJson.1
  case cropHeight => exact o.crop.at?_toJson.2.1
  case cropGravity l => exact o.crop.at?_toJson.2.2 l
  case background channel => exact o.background.at?_toJson channel
  case watermark l => exact o.watermark.at?_toJson l
  all_goals rfl

theorem Scalar.isObject_toJson (v : Scalar) : v.toJson.isObject = false := by
  cases v with
  | number x => cases x <;> rfl
  | anchor a => cases a <;> rfl
  | format t => cases t <;> rfl
  | _ => rfl

theorem OptionsDiff.at?_between (base current : Options) (l : Leaf) :
    (between base current).toJson.at? l.path =
      Json.change? (some (base.get l).toJson) (current.get l).toJson := by
  have alike := (Options.steady_toJson .byName).alike base current
  rw [toJson_between, ← Json.at?_change? alike (base.at?_toJson l) (current.at?_toJson l)
    (current.get l).isObject_toJson]
  cases Json.change? (some (base.toJson .byName)) (current.toJson .byName) with
  | some d => rfl
  | none => cases l <;> rfl

end ImageGateway
