import ImageGateway.Proofs.Options.Asked
import ImageGateway.Proofs.Options.Field
import ImageGateway.Proofs.Preset.Plain

/-! The fields that an option may change. An option that asks for no presets writes inside its
footprint, also where it fails, and what it writes does not depend on the options that it is applied
to. A field is therefore settled by the options that have it in their footprint, in their order, and
how these stand among the others is of no account. -/
namespace ImageGateway

namespace Setting

def footprint : Setting → List Field
  | .format => [.format]
  | .resize => [.resizeType, .width, .height, .enlarge, .extend]
  | .resizingType => [.resizeType]
  | .size => [.width, .height, .enlarge, .extend]
  | .width => [.width]
  | .height => [.height]
  | .enlarge => [.enlarge]
  | .extend => [.extend]
  | .dpr => [.dpr]
  | .gravity => [.gravity]
  | .crop => [.crop]
  | .quality => [.quality]
  | .background => [.flatten, .background]
  | .blur => [.blur]
  | .sharpen => [.sharpen]
  | .watermark => [.watermark]
  | .cacheBuster => [.cacheBuster]
  | .filename => [.filename]

theorem footprint_resize {part : Setting} (listed : part ∈ [.resizingType, .size]) :
    part.footprint ⊆ resize.footprint := by
  revert part
  decide

theorem footprint_size {part : Setting} (listed : part ∈ [.width, .height, .enlarge, .extend]) :
    part.footprint ⊆ size.footprint := by
  revert part
  decide

theorem Asks.mem_footprint {canSave : ImageType → Bool} {setting : Setting} {e : Edit}
    (asked : Asks canSave setting e) : e.leaf.field ∈ setting.footprint := by
  induction asked with
  | resize part _ ih => exact footprint_resize part ih
  | size part _ ih => exact footprint_size part ih
  | _ => simp [Edit.leaf, Leaf.field, footprint]

end Setting

namespace UrlOption

/-- The fields that the option may change by itself: those of its setting, if it names one. -/
def footprint (asked : UrlOption) : List Field :=
  match OptionName.ofText? asked.name with
  | some (.setting setting) => setting.footprint
  | _ => []

/-- Both options may change one and the same field. -/
def Overlap (first second : UrlOption) : Prop := ∃ f ∈ first.footprint, f ∈ second.footprint

instance (first second : UrlOption) : Decidable (first.Overlap second) :=
  inferInstanceAs (Decidable (∃ f ∈ first.footprint, f ∈ second.footprint))

variable {canSave : ImageType → Bool} {asked : UrlOption}

theorem only_footprint (canSave : ImageType → Bool) (asked : UrlOption) :
    Reading.Only (fun e => e.leaf.field ∈ asked.footprint) (asked.read canSave) := by
  cases named : OptionName.ofText? asked.name with
  | none =>
    rw [read, named]
    exact Reading.only_fail _
  | some name =>
    cases name with
    | preset =>
      rw [read, named]
      exact Reading.only_fail _
    | setting setting =>
      rw [footprint, read, named]
      exact fun e member => (Setting.only_asks setting asked.args e member).mem_footprint

theorem written_read {l : Leaf} (outside : l.field ∉ asked.footprint) :
    (asked.read canSave).written l = none :=
  Reading.written_of_only fun e member same =>
    outside (same ▸ only_footprint canSave asked e member)

end UrlOption

namespace Reading

/-- A leaf is written by the options alone that have its field in their footprint. -/
theorem written_all {canSave : ImageType → Bool} {options : List UrlOption}
    (sound : (all (options.map (·.read canSave))).fault = none) (l : Leaf) :
    (all (options.map (·.read canSave))).written l =
      (all ((options.filter (l.field ∈ ·.footprint)).map (·.read canSave))).written l := by
  induction options with
  | nil => rfl
  | cons asked rest ih =>
    obtain ⟨first, others⟩ := fault_all_cons.mp sound
    rw [List.map_cons, written_all_cons first, ih others]
    by_cases inside : l.field ∈ asked.footprint
    · rw [List.filter_cons_of_pos (by simpa using inside), List.map_cons, written_all_cons first]
    · rw [List.filter_cons_of_neg (by simpa using inside), UrlOption.written_read inside,
        Option.or_none]

end Reading

namespace Options

variable {ctx : Context}

/-- An option leaves the fields outside of its footprint, whether it fails or not. -/
theorem field_apply {asked : UrlOption} (plain : asked.Plain) {f : Field}
    (outside : f ∉ asked.footprint) (o : Options) :
    (o.apply ctx asked).state.field f = o.field f := by
  rw [apply_plain plain]
  refine field_congr (fun l within => ?_) (Reading.usedPresets_applyTo _ o)
  rw [Reading.get_applyTo, UrlOption.written_read (within ▸ outside), Option.getD_none]

/-- Options that have no fault have none in any other order, and leave the same, as long as those
for each field keep the order that they have among themselves. -/
theorem applyAll_rearranged {before after : List UrlOption}
    (plain : ∀ asked ∈ before, asked.Plain) (members : ∀ asked ∈ after, asked ∈ before)
    (kept : ∀ f : Field, after.filter (f ∈ ·.footprint) = before.filter (f ∈ ·.footprint))
    {o : Options} (sound : (o.applyAll ctx before).fault = none) :
    (o.applyAll ctx after).fault = none ∧
      (o.applyAll ctx after).state = (o.applyAll ctx before).state := by
  rw [applyAll_plain plain] at sound ⊢
  rw [applyAll_plain fun asked member => plain asked (members asked member)]
  have quiet : (Reading.all (after.map (·.read ctx.canSave))).fault = none := by
    refine Reading.fault_all.mpr fun r member => ?_
    obtain ⟨asked, listed, rfl⟩ := List.mem_map.mp member
    exact Reading.fault_all.mp sound _ (List.mem_map_of_mem (members asked listed))
  refine ⟨quiet, ext_get (fun l => ?_) ?_⟩
  · rw [Reading.get_applyTo, Reading.get_applyTo, Reading.written_all quiet,
      Reading.written_all sound, kept]
  · rw [Reading.usedPresets_applyTo, Reading.usedPresets_applyTo]

theorem applyAll_swap {first second : UrlOption} (plain : first.Plain) (other : second.Plain)
    (apart : ¬first.Overlap second) {o : Options}
    (sound : (o.applyAll ctx [first, second]).fault = none) :
    (o.applyAll ctx [second, first]).fault = none ∧
      (o.applyAll ctx [second, first]).state = (o.applyAll ctx [first, second]).state := by
  refine applyAll_rearranged (by simp [plain, other]) (by simp) (fun f => ?_) sound
  by_cases early : f ∈ first.footprint
  · have late : f ∉ second.footprint := fun also => apart ⟨f, early, also⟩
    simp [early, late]
  · simp [List.filter_cons, early]

end Options
end ImageGateway
