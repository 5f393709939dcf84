import ImageGateway.Proofs.Preset.Acceptance
import ImageGateway.Proofs.Preset.Plain
import ImageGateway.Proofs.Preset.Reach
import ImageGateway.Proofs.Preset.Table

/-! The verdict on a table of presets, taken apart. Trying out all presets goes well exactly when
each option of each preset is acceptable where it stands. A table is therefore judged in the same
way in whatever order its presets are defined, on whatever quality they are tried out, and whichever
of the table's names they mention, in a circle or not. -/
namespace ImageGateway

theorem UrlOption.presets_of_plain {asked : UrlOption} (plain : asked.Plain) :
    asked.presets = [] :=
  if_neg fun preset => plain (OptionName.ofText?_eq_preset_iff.mpr preset)

def Preset.unlinked (p : Preset) : Preset := ⟨p.name, p.options.filter (·.Plain)⟩

namespace PresetTable

variable {t : PresetTable}

theorem names_unlinked (presets : List Preset) :
    (presets.map Preset.unlinked).map Preset.name = presets.map Preset.name :=
  List.map_map ..

/-- The presets of the table, none of which mentions another one. -/
def unlinked (t : PresetTable) : PresetTable :=
  ⟨t.presets.map .unlinked, names_unlinked t.presets ▸ t.distinct⟩

/-- All presets that are mentioned are in the table. -/
def Closed (t : PresetTable) : Prop := ∀ name other, t.Mentions name other → other ∈ t.names

theorem closed_iff : t.Closed ↔ ∀ preset ∈ t.presets, ∀ asked ∈ preset.options,
    ∀ name ∈ asked.presets, name ∈ t.names := by
  constructor
  · intro closed preset defined asked part name named
    exact closed preset.name name ⟨_, get?_eq_some_iff.mpr defined, asked, part, named⟩
  · rintro known name other ⟨options, found, asked, part, named⟩
    exact known _ (get?_eq_some_iff.mp found) asked part other named

end PresetTable

namespace Context

variable {ctx : Context} {quality : UInt8}

def Passes (ctx : Context) (quality : UInt8) : Prop := (ctx.validatePresets quality).2 = .ok ()

/-- The option is acceptable where it stands: it goes by a known name, and either asks for presets
of the table or for a setting that can be applied to the given options. -/
def AcceptsOn (ctx : Context) (o : Options) (asked : UrlOption) : Prop :=
  match OptionName.ofText? asked.name with
  | none => False
  | some .preset => ∀ name ∈ asked.args, name ∈ ctx.presets.names
  | some (.setting setting) => ((setting.read ctx.canSave asked.args).applyTo o).fault = none

/-- The options do not matter, since settings read their arguments alone. -/
theorem acceptsOn_iff (o : Options) (asked : UrlOption) :
    ctx.AcceptsOn o asked ↔ ctx.Accepts asked := by
  rw [AcceptsOn, Accepts]
  cases OptionName.ofText? asked.name with
  | none => rfl
  | some name => cases name <;> rfl

theorem sound_iff : ctx.Sound ↔
    ∀ preset ∈ ctx.presets.presets, ∀ asked ∈ preset.options, ctx.Accepts asked := by
  constructor
  · exact fun sound preset defined => sound _ _ (PresetTable.get?_eq_some_iff.mpr defined)
  · exact fun each name options found => each _ (PresetTable.get?_eq_some_iff.mp found)

theorem tryPresets_of_expand {names : List String}
    (well : ∀ name ∈ names, ((Options.baseline quality).expand ctx [name]).fault = none) :
    (ctx.tryPresets quality names).2 = .ok () := by
  induction names with
  | nil => rfl
  | cons first rest ih =>
    obtain ⟨sound, others⟩ := List.forall_mem_cons.mp well
    simp only [tryPresets, sound]
    exact ih others

/-- Each preset is tried out with its own options in front, so that none of them is passed over. -/
theorem passes_iff_sound : ctx.Passes quality ↔ ctx.Sound := by
  constructor
  · exact sound_of_validatePresets
  · intro sound
    refine tryPresets_of_expand fun name member => ?_
    exact expand_of_sound sound _ (List.forall_mem_singleton.mpr member)

theorem passes_iff : ctx.Passes quality ↔
    ∀ preset ∈ ctx.presets.presets, ∀ asked ∈ preset.options, ctx.Accepts asked :=
  passes_iff_sound.trans sound_iff

theorem accepts_plain {asked : UrlOption} (plain : asked.Plain) (t : PresetTable) :
    (⟨t, ctx.canSave⟩ : Context).Accepts asked ↔ ctx.Accepts asked := by
  unfold Accepts
  split
  next => rfl
  next named => exact absurd named plain
  next => rfl

/-- What an option needs of the table is the presets that it names. -/
theorem accepts_iff {asked : UrlOption} :
    ctx.Accepts asked ↔
      (∀ name ∈ asked.presets, name ∈ ctx.presets.names) ∧ (asked.Plain → ctx.Accepts asked) := by
  by_cases plain : asked.Plain
  · simp [UrlOption.presets_of_plain plain, plain]
  · have named := UrlOption.named_of_not_plain plain
    rw [accepts_preset named, UrlOption.presets_of_preset named]
    simp [plain]

theorem accepts_congr (ctx : Context) {t : PresetTable}
    (same : ∀ name, name ∈ t.names ↔ name ∈ ctx.presets.names) (asked : UrlOption) :
    (⟨t, ctx.canSave⟩ : Context).Accepts asked ↔ ctx.Accepts asked := by
  refine accepts_iff.trans (Iff.trans (and_congr ?_ ?_) accepts_iff.symm)
  · exact forall₂_congr fun name _ => same name
  · exact imp_congr_right fun plain => accepts_plain plain t

theorem passes_unlinked_iff (ctx : Context) :
    (⟨ctx.presets.unlinked, ctx.canSave⟩ : Context).Passes quality ↔
      ∀ preset ∈ ctx.presets.presets, ∀ asked ∈ preset.options,
        asked.Plain → ctx.Accepts asked := by
  rw [passes_iff]
  simp only [PresetTable.unlinked, List.forall_mem_map, Preset.unlinked, List.mem_filter,
    decide_eq_true_eq, and_imp]
  refine forall₂_congr fun preset _ => forall₂_congr fun asked _ => ?_
  exact forall_congr' fun plain => accepts_plain plain _

/-- The presets pass exactly when each option of each of them is acceptable where it stands. So they
do in every order of definition and on every quality; and of the presets mentioned it matters only
that they are in the table, so that mentions can be cut, and every circle with them. -/
theorem validatePresets_eq_ok_iff (t : PresetTable) (canSave : ImageType → Bool)
    (quality : UInt8) :
    ((⟨t, canSave⟩ : Context).Passes quality ↔ ∀ preset ∈ t.presets, ∀ asked ∈ preset.options,
        (⟨t, canSave⟩ : Context).AcceptsOn (.baseline quality) asked) ∧
      (∀ (arranged : PresetTable) (other : UInt8), arranged.presets.Perm t.presets →
        ((⟨arranged, canSave⟩ : Context).Passes other ↔
          (⟨t, canSave⟩ : Context).Passes quality)) ∧
      ((⟨t, canSave⟩ : Context).Passes quality ↔
        t.Closed ∧ (⟨t.unlinked, canSave⟩ : Context).Passes quality) := by
  let ctx : Context := ⟨t, canSave⟩
  refine ⟨?standing, ?arranged, ?cut⟩
  case standing =>
    simp only [acceptsOn_iff]
    exact passes_iff
  case arranged =>
    intro arranged other perm
    have names (name : String) : name ∈ arranged.names ↔ name ∈ ctx.presets.names :=
      (perm.map Preset.name).mem_iff
    rw [passes_iff, passes_iff]
    refine forall_congr' fun preset => imp_congr perm.mem_iff ?_
    exact forall₂_congr fun asked _ => accepts_congr ctx names asked
  case cut =>
    rw [passes_iff, passes_unlinked_iff ctx, PresetTable.closed_iff]
    constructor
    · intro each
      exact ⟨fun preset defined asked part => (accepts_iff.mp (each preset defined asked part)).1,
        fun preset defined asked part _ => each preset defined asked part⟩
    · rintro ⟨known, settings⟩ preset defined asked part
      exact accepts_iff.mpr ⟨known preset defined asked part, settings preset defined asked part⟩

end Context
end ImageGateway
