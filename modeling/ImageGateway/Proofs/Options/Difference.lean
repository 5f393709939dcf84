import ImageGateway.Proofs.Json.Change
import ImageGateway.Request.Parser

/-! The difference of two options. Written by name, options are objects with the same members all the
way down, whatever their values, so that what holds of changes in general holds of the difference:
it turns the base into the options that were compared with it. -/
namespace ImageGateway

namespace Layout

variable {α : Type} {layout : Layout} {fields : List (String × (α → Json))} {a b : α}

theorem perm_arrange (layout : Layout) (fields : List (String × (α → Json))) :
    (layout.arrange fields).Perm fields := by
  cases layout with
  | declared => exact .refl fields
  | byName => exact fields.mergeSort_perm _

theorem find?_record {name : String} {v : Json}
    (found : Json.find? name ((layout.arrange fields).map fun f => (f.1, f.2 a)) = some v) :
    ∃ f ∈ fields, f.1 = name ∧ v = f.2 a := by
  obtain ⟨f, member, same⟩ := List.mem_map.mp (Json.mem_of_find? found)
  cases same
  exact ⟨f, (perm_arrange layout fields).mem_iff.mp member, rfl, rfl⟩

theorem alike_record (distinct : (fields.map Prod.fst).Nodup)
    (values : ∀ f ∈ fields, Json.Alike (f.2 a) (f.2 b)) :
    Json.Alike (layout.record fields a) (layout.record fields b) := by
  have names (c : α) : ((layout.arrange fields).map fun f => (f.1, f.2 c)).map Prod.fst =
      (layout.arrange fields).map Prod.fst := by
    rw [List.map_map]
    rfl
  refine .object ((names a).trans (names b).symm) ?distinct ?values
  case distinct =>
    rw [names a]
    exact ((perm_arrange layout fields).map Prod.fst).nodup_iff.mpr distinct
  case values =>
    intro name x y left right
    obtain ⟨f, first, rfl, rfl⟩ := find?_record left
    obtain ⟨g, second, same, rfl⟩ := find?_record right
    obtain rfl := List.inj_on_of_nodup_map distinct second first same
    exact values g first

theorem filled_record (some : fields ≠ []) (values : ∀ f ∈ fields, (f.2 a).Filled) :
    (layout.record fields a).Filled := by
  refine .object ?some fun m member => ?values
  case some =>
    intro none
    have empty := List.map_eq_nil_iff.mp none
    exact some (List.perm_nil.mp (empty ▸ perm_arrange layout fields).symm)
  case values =>
    obtain ⟨f, arranged, rfl⟩ := List.mem_map.mp member
    exact values f ((perm_arrange layout fields).mem_iff.mp arranged)

theorem content_record_congr (values : ∀ f ∈ fields, (f.2 a).content = (f.2 b).content) :
    (layout.record fields a).content = (layout.record fields b).content := by
  have members : ∀ f ∈ layout.arrange fields, (f.1, (f.2 a).content) = (f.1, (f.2 b).content) :=
    fun f arranged => congrArg _ (values f ((perm_arrange layout fields).mem_iff.mp arranged))
  rw [record, record, Json.content, Json.content, Json.contentMembers_eq_map,
    Json.contentMembers_eq_map, List.map_map, List.map_map]
  exact congrArg _ (List.map_congr_left members)

theorem member?_record (distinct : (fields.map Prod.fst).Nodup) {f : String × (α → Json)}
    (member : f ∈ fields) : (layout.record fields a).member? f.1 = some (f.2 a) := by
  have arranged := (perm_arrange layout fields).mem_iff.mpr member
  refine Json.find?_of_mem ?_ (List.mem_map.mpr ⟨f, arranged, rfl⟩)
  rw [List.map_map]
  exact ((perm_arrange layout fields).map Prod.fst).nodup_iff.mpr distinct

end Layout

namespace Json

/-- What is written is alike for all values, with no empty object in it. -/
structure Steady {α : Type} (write : α → Json) : Prop where
  alike : ∀ a b, Alike (write a) (write b)
  filled : ∀ a, Filled (write a)

variable {α β : Type} {layout : Layout} {fields : List (String × (α → Json))}

theorem Steady.scalar {write : α → Json} (single : ∀ a, (write a).isScalar = true) :
    Steady write where
  alike a b := .leaf (isObject_of_isScalar (single a)) (isObject_of_isScalar (single b))
  filled a := .scalar (single a)

theorem Steady.strings (texts : α → List String) :
    Steady fun a => .array ((texts a).map .string) where
  alike _ _ := .leaf rfl rfl
  filled a := .array fun item member => by
    obtain ⟨text, -, rfl⟩ := List.mem_map.mp member
    exact .scalar rfl

theorem Steady.comp {write : α → Json} (steady : Steady write) (part : β → α) :
    Steady fun b => write (part b) where
  alike a b := steady.alike (part a) (part b)
  filled a := steady.filled (part a)

theorem Steady.record (some : fields ≠ []) (distinct : (fields.map Prod.fst).Nodup)
    (values : ∀ f ∈ fields, Steady f.2) : Steady (layout.record fields) where
  alike a b := Layout.alike_record distinct fun f member => (values f member).alike a b
  filled a := Layout.filled_record some fun f member => (values f member).filled a

theorem isScalar_ofBinary (style : Binary.Style) (x : Binary) :
    (ofBinary style x).isScalar = true := by
  cases x <;> rfl

theorem Steady.double (value : α → Binary) : Steady fun a => .double (value a) :=
  .scalar fun a => isScalar_ofBinary .double (value a)

theorem Steady.single (layout : Layout) (value : α → Binary) :
    Steady fun a => layout.single (value a) := by
  cases layout with
  | declared => exact .scalar fun a => isScalar_ofBinary .single (value a)
  | byName => exact .double value

end Json

open Json

variable {layout : Layout}

theorem Anchor.steady_toJson : Steady Anchor.toJson := .scalar fun a => by cases a <;> rfl

theorem ImageType.steady_toJson : Steady ImageType.toJson := .scalar fun t => by cases t <;> rfl

theorem Gravity.steady_toJson : Steady (Gravity.toJson layout) := by
  refine .record (List.cons_ne_nil _ _) (by decide) ?_
  simp only [List.forall_mem_cons]
  exact ⟨Anchor.steady_toJson.comp _, .double _, .double _, by simp⟩

theorem Color.steady_toJson : Steady (Color.toJson layout) := by
  refine .record (List.cons_ne_nil _ _) (by decide) ?_
  simp only [List.forall_mem_cons]
  exact ⟨.scalar fun _ => rfl, .scalar fun _ => rfl, .scalar fun _ => rfl, by simp⟩

theorem Crop.steady_toJson : Steady (Crop.toJson layout) := by
  refine .record (List.cons_ne_nil _ _) (show ["width", "height", "gravity"].Nodup by decide) ?_
  simp only [List.forall_mem_cons]
  exact ⟨.scalar fun _ => rfl, .scalar fun _ => rfl, Gravity.steady_toJson.comp _, by simp⟩

theorem Watermark.steady_toJson : Steady (Watermark.toJson layout) := by
  refine .record (List.cons_ne_nil _ _) (by decide) ?_
  simp only [List.forall_mem_cons]
  exact ⟨.scalar fun _ => rfl, .double _, .scalar fun _ => rfl, Anchor.steady_toJson.comp _,
    .scalar fun _ => rfl, .scalar fun _ => rfl, .double _, by simp⟩

theorem Options.distinct_names :
    ["resizing_type", "width", "height", "dpr", "gravity", "enlarge", "extend", "crop", "format",
      "quality", "flatten", "background", "blur", "sharpen", "cache_buster", "watermark",
      "prefer_webp", "enforce_webp", "filename", "used_presets"].Nodup := by
  decide

theorem Options.steady_toJson (layout : Layout) : Steady (Options.toJson layout) := by
  refine .record (List.cons_ne_nil _ _) Options.distinct_names ?_
  simp only [List.forall_mem_cons]
  exact ⟨.scalar fun _ => rfl, .scalar fun _ => rfl, .scalar fun _ => rfl, .double _,
    Gravity.steady_toJson.comp _, .scalar fun _ => rfl, .scalar fun _ => rfl,
    Crop.steady_toJson.comp _, ImageType.steady_toJson.comp _, .scalar fun _ => rfl,
    .scalar fun _ => rfl, Color.steady_toJson.comp _, .single layout _, .single layout _,
    .scalar fun _ => rfl, Watermark.steady_toJson.comp _, .scalar fun _ => rfl,
    .scalar fun _ => rfl, .scalar fun _ => rfl, .strings _, by simp⟩

namespace OptionsDiff

theorem exists_between (base current : Options) :
    ∃ xs ys, base.toJson .byName = .object xs ∧ current.toJson .byName = .object ys ∧
      between base current = ⟨changes xs ys⟩ :=
  ⟨_, _, rfl, rfl, rfl⟩

theorem get?_between (base current : Options) (name : String) :
    (between base current).get? name =
      ((current.toJson .byName).member? name).bind
        (change? ((base.toJson .byName).member? name)) := by
  obtain ⟨xs, ys, before, after, difference⟩ := exists_between base current
  have distinct : (ys.map Prod.fst).Nodup := by
    cases after ▸ (Options.steady_toJson .byName).alike current current with
    | leaf left right => cases left
    | object names distinct values => exact distinct
  rw [difference, before, after]
  exact find?_changes distinct

/-- The difference is what changed, or nothing. -/
theorem toJson_between (base current : Options) :
    (between base current).toJson =
      (change? (some (base.toJson .byName)) (current.toJson .byName)).getD (.object []) := by
  obtain ⟨xs, ys, before, after, difference⟩ := exists_between base current
  rw [difference, before, after, change?_object, toJson]
  cases changes xs ys <;> rfl

theorem isEmpty_between (base current : Options) :
    (between base current).isEmpty = true ↔
      change? (some (base.toJson .byName)) (current.toJson .byName) = none := by
  obtain ⟨xs, ys, before, after, difference⟩ := exists_between base current
  rw [difference, before, after, change?_object, isEmpty]
  cases changes xs ys <;> simp

theorem overlay_between (base current : Options) :
    ((base.toJson .byName).overlay (between base current).toJson).content =
      (current.toJson .byName).content := by
  have alike := (Options.steady_toJson .byName).alike base current
  rw [toJson_between]
  cases changed : change? (some (base.toJson .byName)) (current.toJson .byName) with
  | some d => exact overlay_change? alike changed
  | none =>
    obtain ⟨xs, ys, before, -⟩ := exists_between base current
    rw [Option.getD_none, before, overlay_empty, ← before]
    exact (change?_eq_none_iff alike).mp changed

theorem content_ne_between {base current : Options} {path : List String} {part before : Json}
    (found : (between base current).toJson.at? path = some part)
    (stood : (base.toJson .byName).at? path = some before) : before.content ≠ part.content := by
  have alike := (Options.steady_toJson .byName).alike base current
  rw [toJson_between] at found
  cases changed : change? (some (base.toJson .byName)) (current.toJson .byName) with
  | some d =>
    rw [changed] at found
    exact content_ne_of_change? alike changed found stood
  | none =>
    -- Nothing stands in an empty difference but the difference itself, and the base has members.
    rw [changed, Option.getD_none] at found
    cases path with
    | cons name path => contradiction
    | nil =>
      obtain rfl := Option.some.inj found
      obtain rfl := Option.some.inj stood
      obtain ⟨xs, ys, written, -⟩ := exists_between base current
      have some := (written ▸ (Options.steady_toJson .byName).filled base).ne_nil
      rw [written, content, content, ne_eq, Content.object.injEq]
      cases xs with
      | nil => contradiction
      | cons m rest => nofun

theorem filled_between (base current : Options) :
    ∀ m ∈ (between base current).members, Filled m.2 := by
  obtain ⟨xs, ys, -, after, difference⟩ := exists_between base current
  have filled := (after ▸ (Options.steady_toJson .byName).filled current).values
  rw [difference]
  intro m member
  obtain ⟨name, d⟩ := m
  obtain ⟨value, written, changed⟩ := mem_changes member
  exact filled_of_change? (filled (name, value) written) changed

/-- The difference of two options is a patch from the first to the second. Laid over what the base
says it gives what the current options say; nowhere does it hold what stands in the base at that
place; and no object in it is empty. It is therefore empty only between options that say the same,
and a request is described, beside its template, by the difference from it alone. -/
theorem between_patches (base current : Options) :
    ((base.toJson .byName).overlay (between base current).toJson).same
        (current.toJson .byName) = true ∧
      (∀ path part before, (between base current).toJson.at? path = some part →
        (base.toJson .byName).at? path = some before → before.same part = false) ∧
      (∀ m ∈ (between base current).members, Filled m.2) ∧
      ((between base current).isEmpty = true ↔
        (base.toJson .byName).same (current.toJson .byName) = true) ∧
      ∀ r₁ r₂ : ImageRequest, (r₁.description base).same (r₂.description base) = true →
        r₁.sourceUrl = r₂.sourceUrl ∧
          (r₁.options.toJson .byName).same (r₂.options.toJson .byName) = true := by
  have alike := (Options.steady_toJson .byName).alike base current
  refine ⟨(same_iff _ _).mpr (overlay_between base current), ?new, filled_between base current,
    ?empty, ?described⟩
  case new =>
    intro path part before found stood
    have differ := content_ne_between found stood
    rwa [← Bool.not_eq_true, same_iff]
  case empty => rw [isEmpty_between, change?_eq_none_iff alike, same_iff]
  case described =>
    intro r₁ r₂ same
    have parts := (same_iff _ _).mp same
    simp only [ImageRequest.description, content, contentMembers, Content.object.injEq,
      List.cons.injEq, Prod.mk.injEq, Content.string.injEq] at parts
    obtain ⟨⟨-, url⟩, ⟨-, difference⟩, -⟩ := parts
    refine ⟨url, (same_iff _ _).mpr ?_⟩
    calc
      (r₁.options.toJson .byName).content
        = ((base.toJson .byName).overlay (between base r₁.options).toJson).content :=
          (overlay_between base r₁.options).symm
      _ = ((base.toJson .byName).overlay (between base r₂.options).toJson).content :=
          overlay_congr _ difference
      _ = (r₂.options.toJson .byName).content := overlay_between base r₂.options

/-- Another quality is what is described, and a negative zero is not. -/
theorem between_patches_quality :
    let base := Options.baseline 80
    let current : Options := { base with quality := 60 }
    let zero : Options := { base with gravity := ⟨.center, .finite ⟨true, 0, 0⟩, 0⟩ }
    ((base.toJson .byName).overlay (between base current).toJson).same
        (current.toJson .byName) = true ∧
      (between base current).toJson.at? ["quality"] = some (.integer 60) ∧
      (base.toJson .byName).at? ["quality"] = some (.integer 80) ∧
      (Json.integer 80).same (.integer 60) = false ∧
      ("quality", .integer 60) ∈ (between base current).members ∧ Filled (.integer 60) ∧
      ((ImageRequest.mk "a" base).description base).same
        ((ImageRequest.mk "a" zero).description base) = true ∧
      (base.toJson .byName).same (zero.toJson .byName) = true := by
  intro base current zero
  obtain ⟨overlaid, new, filled, -, described⟩ := between_patches base current
  have quality (o : Options) :
      (o.toJson .byName).member? "quality" = some (.natural o.quality.toNat) := by
    unfold Options.toJson
    refine Layout.member?_record (f := ("quality", fun o : Options => .natural o.quality.toNat))
      ?_ (by simp)
    exact Options.distinct_names
  have stood : (base.toJson .byName).at? ["quality"] = some (.integer 80) := by
    rw [at?, quality]
    rfl
  have changed : (between base current).get? "quality" = some (.integer 60) := by
    rw [get?_between, quality, quality]
    rfl
  have found : (between base current).toJson.at? ["quality"] = some (.integer 60) := by
    change ((between base current).get? "quality").bind (at? []) = _
    rw [changed]
    rfl
  have member := mem_of_find? changed
  have unsaid : (base.toJson .byName).content = (zero.toJson .byName).content := by
    have gravity :
        (base.gravity.toJson .byName).content = (zero.gravity.toJson .byName).content := by
      refine Layout.content_record_congr ?_
      simp only [List.forall_mem_cons]
      refine ⟨rfl, ?_, rfl, by simp⟩
      exact congrArg Content.number (by norm_num [Binary.Finite.toRat])
    refine Layout.content_record_congr ?_
    simp only [List.forall_mem_cons]
    exact ⟨rfl, rfl, rfl, rfl, gravity, rfl, rfl, rfl, rfl, rfl, rfl, rfl, rfl, rfl, rfl, rfl, rfl,
      rfl, rfl, rfl, by simp⟩
  have nothing : (between base zero).toJson = (between base base).toJson := by
    have alike (o : Options) := (Options.steady_toJson .byName).alike base o
    rw [toJson_between, toJson_between, (change?_eq_none_iff (alike zero)).mpr unsaid,
      (change?_eq_none_iff (alike base)).mpr rfl]
  have same : ((ImageRequest.mk "a" base).description base).same
      ((ImageRequest.mk "a" zero).description base) = true := by
    rw [same_iff, ImageRequest.description, ImageRequest.description, nothing]
  exact ⟨overlaid, found, stood, new ["quality"] _ _ found stood, member, filled _ member, same,
    (described _ _ same).2⟩

end OptionsDiff
end ImageGateway
