import ImageGateway.Proofs.Json.Leaves
import ImageGateway.Proofs.Options.Projection

/-! The line of text for a difference of options. It has one entry for each value that changed, in
the order of the paths, and it is empty only where the difference is. -/
namespace ImageGateway

open Json

namespace Layout

variable {α : Type} {fields : List (String × (α → Json))} {a : α}

theorem ascending_arrange (distinct : (fields.map Prod.fst).Nodup) :
    ((Layout.byName.arrange fields).map Prod.fst).Pairwise (· < ·) := by
  have sorted : (Layout.byName.arrange fields).Pairwise fun f g => decide (f.1 ≤ g.1) = true :=
    List.pairwise_mergeSort (fun _ _ _ => by simpa using String.le_trans)
      (fun f g => by simpa using String.le_total f.1 g.1) fields
  have unequal : ((Layout.byName.arrange fields).map Prod.fst).Pairwise (· ≠ ·) :=
    ((perm_arrange .byName fields).map Prod.fst).nodup_iff.mpr distinct
  exact List.pairwise_map.mpr <| sorted.imp₂
    (fun _ _ before apart => Std.lt_of_le_of_ne (of_decide_eq_true before) apart)
    (List.pairwise_map.mp unequal)

theorem ordered_record (distinct : (fields.map Prod.fst).Nodup) (named : "" ∉ fields.map Prod.fst)
    (values : ∀ f ∈ fields, Ordered (f.2 a)) : Ordered (Layout.byName.record fields a) := by
  refine .object (fun m member => ?named) ?ascending fun m member => ?values
  case ascending =>
    rw [List.map_map]
    exact ascending_arrange distinct
  all_goals
    obtain ⟨f, arranged, rfl⟩ := List.mem_map.mp member
    have listed : f ∈ fields := (perm_arrange .byName fields).mem_iff.mp arranged
  case named => exact fun empty => named (empty ▸ List.mem_map_of_mem (f := Prod.fst) listed)
  case values => exact values f listed

end Layout

theorem Scalar.ordered_toJson (v : Scalar) : Ordered v.toJson := .leaf v.isObject_toJson

theorem Gravity.ordered_toJson (g : Gravity) : Ordered (g.toJson .byName) := by
  refine Layout.ordered_record (by decide) (by decide) ?_
  simp only [List.forall_mem_cons]
  exact ⟨Scalar.ordered_toJson (.anchor g.anchor), Scalar.ordered_toJson (.number g.x),
    Scalar.ordered_toJson (.number g.y), by simp⟩

theorem Color.ordered_toJson (c : Color) : Ordered (c.toJson .byName) := by
  refine Layout.ordered_record (by decide) (by decide) ?_
  simp only [List.forall_mem_cons]
  exact ⟨.leaf rfl, .leaf rfl, .leaf rfl, by simp⟩

theorem Crop.ordered_toJson (c : Crop) : Ordered (c.toJson .byName) := by
  refine Layout.ordered_record (show ["width", "height", "gravity"].Nodup by decide)
    (show "" ∉ ["width", "height", "gravity"] by decide) ?_
  simp only [List.forall_mem_cons]
  exact ⟨.leaf rfl, .leaf rfl, c.gravity.ordered_toJson, by simp⟩

theorem Watermark.ordered_toJson (w : Watermark) : Ordered (w.toJson .byName) := by
  refine Layout.ordered_record (by decide) (by decide) ?_
  simp only [List.forall_mem_cons]
  exact ⟨.leaf rfl, Scalar.ordered_toJson (.number w.opacity), .leaf rfl,
    Scalar.ordered_toJson (.anchor w.anchor), .leaf rfl, .leaf rfl,
    Scalar.ordered_toJson (.number w.scale), by simp⟩

/-- Written by name, options have their members in order at every depth. -/
theorem Options.ordered_toJson (o : Options) : Ordered (o.toJson .byName) := by
  refine Layout.ordered_record Options.distinct_names (by simp) ?_
  simp only [List.forall_mem_cons]
  exact ⟨.leaf rfl, .leaf rfl, .leaf rfl, Scalar.ordered_toJson (.number o.dpr),
    o.gravity.ordered_toJson, .leaf rfl, .leaf rfl, o.crop.ordered_toJson,
    Scalar.ordered_toJson (.format o.format), .leaf rfl, .leaf rfl, o.background.ordered_toJson,
    Scalar.ordered_toJson (.number o.blur), Scalar.ordered_toJson (.number o.sharpen), .leaf rfl,
    o.watermark.ordered_toJson, .leaf rfl, .leaf rfl, .leaf rfl, .leaf rfl, by simp⟩

namespace OptionsDiff

theorem ordered_between (base current : Options) : Ordered (between base current).toJson := by
  rw [toJson_between]
  cases changed : change? (some (base.toJson .byName)) (current.toJson .byName) with
  | none => exact .object nofun .nil nofun
  | some d => exact ordered_of_change? current.ordered_toJson changed

theorem leaves_between_eq_nil_iff (base current : Options) :
    leaves (between base current).toJson = [] ↔ (between base current).isEmpty = true := by
  rw [isEmpty, List.isEmpty_iff]
  constructor
  · intro none
    by_contra some
    exact leaves_ne_nil (.object some (filled_between base current)) none
  · intro none
    rw [toJson, none]
    rfl

/-- The text of a difference is one entry for each value in it that is no object, at whatever depth,
with a semicolon between neighbours. The entries stand in the order of the paths, depth first, and
no path comes twice; they are for all the paths that lead to such a value, and for no other; and
there is no entry exactly when nothing differs. -/
theorem text_between (base current : Options) :
    let d := between base current
    d.text = "; ".intercalate ((leaves d.toJson).map entry) ∧
      ((leaves d.toJson).map Prod.fst).Pairwise (· < ·) ∧
      (∀ path v, (path, v) ∈ leaves d.toJson ↔
        d.toJson.at? path = some v ∧ v.isObject = false) ∧
      (d.text = "" ↔ d.isEmpty = true) := by
  intro d
  have ordered : Ordered d.toJson := ordered_between base current
  have text : d.text = "; ".intercalate ((leaves d.toJson).map entry) := writeMembers_eq ordered
  refine ⟨text, ascending_leaves ordered, fun _ _ => mem_leaves_iff ordered, ?empty⟩
  have filled : ∀ e ∈ (leaves d.toJson).map entry, e ≠ "" :=
    List.forall_mem_map.mpr fun leaf _ => entry_ne_empty leaf
  rw [text, Text.intercalate_eq_empty_iff filled, List.map_eq_nil_iff]
  exact leaves_between_eq_nil_iff base current

end OptionsDiff
end ImageGateway
