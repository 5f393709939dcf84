import ImageGateway.Request.Parser

/-! The options before any preset. The headers choose whether WebP is preferred and enforced, and
with hints enabled a width and a positive pixel ratio; everything else is as in the template. -/
namespace ImageGateway

namespace Headers

variable {o : Options}

theorem apply_widthHint (text : String) (o : Options) :
    ∃ width, (widthHint text).foldl (fun o e => e.apply o) o = { o with width := width } := by
  unfold widthHint
  split
  next n read => exact ⟨.ofNat n, rfl⟩
  next => exact ⟨o.width, rfl⟩

/-- A ratio that does not count leaves the one before, which was positive. -/
theorem apply_dprHint (text : String) (positive : 0 < o.dpr) :
    ∃ dpr, 0 < dpr ∧ (dprHint text).foldl (fun o e => e.apply o) o = { o with dpr := dpr } := by
  unfold dprHint
  split
  next x read =>
    have accepted := (Option.filter_eq_some_iff.mp read).2
    exact ⟨x, by simp_all, rfl⟩
  next => exact ⟨o.dpr, positive, rfl⟩

theorem apply_hints (h : Headers) (positive : 0 < o.dpr) :
    ∃ width dpr, 0 < dpr ∧
      h.hints.foldl (fun o e => e.apply o) o = { o with width := width, dpr := dpr } := by
  rw [hints, List.foldl_append, List.foldl_append]
  obtain ⟨viewport, first⟩ := apply_widthHint h.viewportWidth o
  obtain ⟨width, second⟩ := apply_widthHint h.width { o with width := viewport }
  obtain ⟨dpr, above, third⟩ := apply_dprHint h.dpr (o := { o with width := width }) positive
  refine ⟨width, dpr, above, ?_⟩
  rw [first, second]
  exact third

end Headers

namespace RequestParser

/-- The options before any preset: the template, with what the headers ask for. -/
def start (p : RequestParser) (h : Headers) : Options :=
  (p.template.withWebp p.config h).withHints p.config h

theorem start_eq (p : RequestParser) (h : Headers) :
    ∃ width dpr, 0 < dpr ∧ p.start h =
      { p.template with
        width := width
        dpr := dpr
        preferWebp := h.acceptsWebp && (p.config.enableWebpDetection || p.config.enforceWebp)
        enforceWebp := h.acceptsWebp && p.config.enforceWebp } := by
  have asked : p.template.withWebp p.config h =
      { p.template with
        preferWebp := h.acceptsWebp && (p.config.enableWebpDetection || p.config.enforceWebp)
        enforceWebp := h.acceptsWebp && p.config.enforceWebp } := by
    cases accepted : h.acceptsWebp with
    | true => simp [Options.withWebp, accepted]
    | false => simp [Options.withWebp, accepted, template, Options.baseline]
  have positive : 0 < p.template.dpr := show (0 : Binary) < 1 by decide
  rw [start, asked, Options.withHints]
  split
  next => exact Headers.apply_hints h positive
  next => exact ⟨_, _, positive, rfl⟩

theorem usedPresets_start (p : RequestParser) (h : Headers) : (p.start h).usedPresets = [] := by
  obtain ⟨width, dpr, -, started⟩ := p.start_eq h
  rw [started]
  rfl

end RequestParser
end ImageGateway
