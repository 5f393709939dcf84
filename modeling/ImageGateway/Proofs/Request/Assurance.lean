import ImageGateway.Proofs.Options.Bounds
import ImageGateway.Proofs.Request.Directives
import ImageGateway.Proofs.Request.Written
import ImageGateway.Proofs.Text.Pieces

/-! What is assured of every request that is read. The template is within the bounds, the headers
and the settings stay within them, and the presets and the WebP settings are as the table and the
headers have them, in every dialect. -/
namespace ImageGateway.RequestParser

variable {p : RequestParser}

/-- The options of a request read for those headers are within bounds, record presets of the table,
each at most once and the default one first, and follow the headers in what concerns WebP. -/
structure Assured (p : RequestParser) (h : Headers) (o : Options) : Prop
    extends o.Bounded p.canSave where
  /-- None of the numbers that are compared is a NaN. -/
  numbers : ∀ x ∈ [o.dpr, o.blur, o.sharpen, o.watermark.scale, o.watermark.opacity], x ≠ .nan
  shown : o.watermark = p.template.watermark ∨
    o.watermark.enabled = decide (0 < o.watermark.opacity)
  distinct : o.usedPresets.Nodup
  known : ∀ name ∈ o.usedPresets, name ∈ p.config.presets.names
  first : Options.defaultPreset ∈ p.config.presets.names →
    o.usedPresets.head? = some Options.defaultPreset
  preferWebp : o.preferWebp = true ↔ "image/webp".toList <:+: h.accept.toList ∧
    (p.config.enableWebpDetection = true ∨ p.config.enforceWebp = true)
  enforceWebp : o.enforceWebp = true ↔ "image/webp".toList <:+: h.accept.toList ∧
    p.config.enforceWebp = true

theorem bounded_start (quality : 1 ≤ p.config.quality ∧ p.config.quality ≤ 100) (h : Headers) :
    (p.start h).Bounded p.canSave := by
  obtain ⟨width, dpr, positive, started⟩ := p.start_eq h
  have template : p.template.Bounded p.canSave := Options.bounded_baseline quality
  rw [started]
  exact { template with dpr := positive }

theorem webp_start (p : RequestParser) (h : Headers) :
    ((p.start h).preferWebp = true ↔ "image/webp".toList <:+: h.accept.toList ∧
      (p.config.enableWebpDetection = true ∨ p.config.enforceWebp = true)) ∧
    ((p.start h).enforceWebp = true ↔ "image/webp".toList <:+: h.accept.toList ∧
      p.config.enforceWebp = true) := by
  obtain ⟨width, dpr, -, started⟩ := p.start_eq h
  have accepts : h.acceptsWebp = true ↔ "image/webp".toList <:+: h.accept.toList :=
    Text.includes_iff
  rw [started]
  simp only [Bool.and_eq_true, Bool.or_eq_true, accepts, and_self]

theorem usedPresets_follows {path : String} {h : Headers} {o : Options}
    (follows : p.Follows path h o) :
    o.usedPresets.Nodup ∧ (∀ name ∈ o.usedPresets, name ∈ p.config.presets.names) ∧
      (Options.defaultPreset ∈ p.config.presets.names →
        o.usedPresets.head? = some Options.defaultPreset) := by
  obtain ⟨expanded, appended, distinct, known, fresh⟩ := follows.used
  rw [appended, openedPresets]
  split
  next present =>
    obtain ⟨options, found⟩ := Option.isSome_iff_exists.mp present
    have new : Options.defaultPreset ∉ expanded := fun member =>
      fresh _ member (by simp [openedPresets, present])
    refine ⟨List.nodup_cons.mpr ⟨new, distinct⟩, ?_, fun _ => rfl⟩
    exact List.forall_mem_cons.mpr ⟨PresetTable.mem_names_of_get? found, known⟩
  next absent =>
    refine ⟨distinct, known, fun named => ?_⟩
    obtain ⟨options, found⟩ := PresetTable.mem_names_iff.mp named
    exact absurd (Option.isSome_iff_exists.mpr ⟨options, found⟩) absent

/-- Whatever path is read, the options that come of it are assured. -/
theorem parse_assured (p : RequestParser)
    (quality : 1 ≤ p.config.quality ∧ p.config.quality ≤ 100) (path : String) (h : Headers)
    (request : ImageRequest) (parsed : (p.parse path h).value = .ok request) :
    p.Assured h request.options := by
  have follows := parse_follows parsed
  have template : (p.start h).watermark = p.template.watermark := by
    obtain ⟨width, dpr, -, started⟩ := p.start_eq h
    rw [started]
  have bounded : request.options.Bounded p.canSave :=
    follows.keeps (bounded_start quality h) (fun d _ _ => d.bounded_applyTo)
      fun _ _ bounded => { bounded with }
  have shown : request.options.watermark = p.template.watermark ∨ request.options.watermark.Shown :=
    follows.keeps (I := fun o => o.watermark = p.template.watermark ∨ o.watermark.Shown)
      (.inl template) (fun d sound _ => d.shown_applyTo sound) fun _ _ shown => shown
  obtain ⟨prefers, enforces⟩ : request.options.preferWebp = (p.start h).preferWebp ∧
      request.options.enforceWebp = (p.start h).enforceWebp :=
    follows.keeps (I := fun o => o.preferWebp = (p.start h).preferWebp ∧
        o.enforceWebp = (p.start h).enforceWebp)
      ⟨rfl, rfl⟩ (fun d _ o same => ⟨(d.webp_applyTo o).1.trans same.1,
        (d.webp_applyTo o).2.trans same.2⟩) fun _ _ same => same
  obtain ⟨distinct, known, first⟩ := usedPresets_follows follows
  exact { bounded with
    numbers := bounded.ne_nan
    shown := shown
    distinct := distinct
    known := known
    first := first
    preferWebp := prefers ▸ (p.webp_start h).1
    enforceWebp := enforces ▸ (p.webp_start h).2 }

/-- The path sets a quality and a pixel ratio, and the header WebP. -/
theorem parse_assured_webp :
    let p : RequestParser := { config := { allowInsecure := true, enforceWebp := true } }
    let h : Headers := { accept := "image/webp,*/*" }
    let o : Options := { Options.baseline 80 with
      quality := 90
      dpr := .finite ⟨false, 1 <<< 52, -51⟩
      preferWebp := true
      enforceWebp := true }
    (1 ≤ p.config.quality ∧ p.config.quality ≤ 100) ∧
      (p.parse "/s/q:90/dpr:2/YQ" h).value = .ok ⟨"a", o⟩ ∧ p.Assured h o := by
  intro p h o
  have quality : 1 ≤ p.config.quality ∧ p.config.quality ≤ 100 := by decide
  have cut : segments "/s/q:90/dpr:2/YQ" = "s" :: (["q:90", "dpr:2"] ++ ["YQ"]) := by
    decide +kernel
  have settings : (["q:90", "dpr:2"].filterMap UrlOption.parse?).mapM UrlOption.directive? =
      some [⟨.quality, ["90"]⟩, ⟨.dpr, ["2"]⟩] := by decide +kernel
  have parsed : (p.parse "/s/q:90/dpr:2/YQ" h).value = .ok ⟨"a", o⟩ :=
    parse_settings rfl rfl h cut (by decide) (by decide) (by decide) settings (by decide +kernel)
      rfl
  exact ⟨quality, parsed, p.parse_assured quality _ h ⟨"a", o⟩ parsed⟩

end ImageGateway.RequestParser
