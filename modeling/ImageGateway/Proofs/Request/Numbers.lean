import ImageGateway.Proofs.Options.Projection
import ImageGateway.Proofs.Preset.Overwrite
import ImageGateway.Proofs.Request.Slots

/-! The numbers of a request that is read. They start finite, whatever the headers ask for. The last
text for a number settles whether it is finite, unless only finite ones are accepted there, and JSON
has a number for it exactly then. -/
namespace ImageGateway

namespace Binary

theorem isFinite_iff {x : Binary} : x.isFinite = true ↔ ∃ y, x = .finite y := by
  cases x <;> simp [isFinite]

theorem isFinite_of_between {x : Binary} {least most : Finite} (above : .finite least ≤ x)
    (below : x ≤ .finite most) : x.isFinite = true := by
  rcases x with _ | negative | x
  · contradiction
  · cases negative <;> contradiction
  · rfl

theorem isFinite_of_unit {x : Binary} (within : (0 ≤ x && x ≤ 1) = true) : x.isFinite = true := by
  obtain ⟨above, below⟩ : 0 ≤ x ∧ x ≤ 1 := by simpa using within
  exact isFinite_of_between above below

end Binary

namespace Headers

theorem leaf_widthHint {text : String} {e : Edit} (member : e ∈ widthHint text) :
    e.leaf = .width := by
  unfold widthHint at member
  split at member
  next => exact List.mem_singleton.mp member ▸ rfl
  next => exact absurd member List.not_mem_nil

theorem finite_dprHint {text : String} {e : Edit} (member : e ∈ dprHint text) :
    ∃ x, e = .dpr (.finite x) := by
  unfold dprHint at member
  split at member
  next x read =>
    have bounds : 0 < x ∧ x ≤ 8 := by simpa using (Option.filter_eq_some_iff.mp read).2
    have above : (0 : Binary) ≤ x := (Bool.and_eq_true_iff.mp bounds.1).1
    obtain ⟨y, rfl⟩ := Binary.isFinite_iff.mp (Binary.isFinite_of_between above bounds.2)
    exact ⟨y, List.mem_singleton.mp member⟩
  next => exact absurd member List.not_mem_nil

theorem finite_hints {h : Headers} {l : Leaf} {s : Slot} (listed : l.slot? = some s) {v : Scalar}
    (written : Edit.written h.hints l = some v) : ∃ x, v = .number (.finite x) := by
  obtain ⟨e, last, rfl⟩ := Option.map_eq_some_iff.mp written
  obtain ⟨member, same⟩ : e ∈ h.hints ∧ e.leaf = l := by simpa using List.mem_of_getLast? last
  rcases List.mem_append.mp member with widths | ratio
  · have width : e.leaf = .width :=
      (List.mem_append.mp widths).elim leaf_widthHint leaf_widthHint
    rw [← same, width] at listed
    contradiction
  · obtain ⟨x, rfl⟩ := finite_dprHint ratio
    exact ⟨x, rfl⟩

end Headers

theorem Options.finite_baseline {l : Leaf} {s : Slot} (listed : l.slot? = some s)
    (quality : UInt8) : ∃ x, (baseline quality).get l = .number (.finite x) := by
  cases l with
  | gravity l | cropGravity l | watermark l => cases l <;> cases listed <;> exact ⟨_, rfl⟩
  | _ => cases listed <;> exact ⟨_, rfl⟩

namespace RequestParser

variable {p : RequestParser} {path : String} {h : Headers} {l : Leaf} {s : Slot}

theorem finite_start (p : RequestParser) (h : Headers) (listed : l.slot? = some s) :
    ∃ x, (p.start h).get l = .number (.finite x) := by
  obtain ⟨x, base⟩ := Options.finite_baseline listed p.config.quality
  have asked : (p.template.withWebp p.config h).get l = .number (.finite x) := by
    rw [← base, Options.withWebp]
    cases h.acceptsWebp with
    | false => rfl
    | true => cases l <;> first | rfl | cases listed
  rw [start, Options.withHints]
  split
  next =>
    rw [Options.get_foldl]
    cases written : Edit.written h.hints l with
    | none => exact ⟨x, asked⟩
    | some v => exact Headers.finite_hints listed written
  next => exact ⟨x, asked⟩

/-- The leaf holds nothing outside 0 to 1: the opacity, and the coordinates of a focus point. -/
def Confined (o : Options) : Leaf → Prop
  | .watermark .opacity => True
  | .gravity _ => o.gravity.anchor = .focusPoint
  | .cropGravity _ => o.crop.gravity.anchor = .focusPoint
  | _ => False

/-- What is known of a number of a request. -/
structure Numeric (p : RequestParser) (path : String) (request : ImageRequest) (l : Leaf) (s : Slot)
    (x : Binary) : Prop where
  held : request.options.get l = .number x
  /-- The last text for it decides whether the number is finite; without one it is. -/
  finite : x.isFinite = true ↔ ∀ text, (s.texts (p.directives path)).getLast? = some text →
    ∃ y, Binary.read? s.format text = some (.finite y)
  confined : Confined request.options l → x.isFinite = true
  /-- Only an offset can be a NaN. -/
  ordered : x = .nan → s.setting = .gravity ∨ s.setting = .crop
  /-- A number that is not finite differs from the template, and is null. -/
  null : (p.diff request.options).toJson.at? l.path = some .null ↔ x.isFinite = false
  number : ∀ v, (p.diff request.options).toJson.at? l.path = some v → x.isFinite = true →
    ∃ y, v = .number .double y
  described : (request.description p.template).at? ("options" :: l.path) =
    (p.diff request.options).toJson.at? l.path

theorem Follows.number {o : Options} (follows : p.Follows path h o) (listed : l.slot? = some s) :
    ∃ x, o.get l = .number x ∧
      (x.isFinite = true ↔ ∀ text, (s.texts (p.directives path)).getLast? = some text →
        ∃ y, Binary.read? s.format text = some (.finite y)) ∧
      (x.isFinite = true ∨ s.accepted x = true) := by
  have left : o.get l =
      (s.number? (s.texts (p.directives path)).getLast?).getD ((p.start h).get l) := by
    rw [← Options.get_follow listed follows.sound]
    exact (congrArg (Options.get · l) follows.left).trans (Options.get_withUsed _ _ l)
  cases last : (s.texts (p.directives path)).getLast? with
  | none =>
    obtain ⟨x, started⟩ := p.finite_start h listed
    rw [last] at left
    exact ⟨.finite x, left.trans started, by simp [Binary.isFinite], .inl rfl⟩
  | some text =>
    obtain ⟨x, read, accepted⟩ :=
      Slot.texts_read listed follows.sound text (List.mem_of_getLast? last)
    refine ⟨x, ?_, ?_, .inr accepted⟩
    · rw [left, last, Slot.number?, Option.bind_some, read]
      rfl
    · simp [read, Binary.isFinite_iff]

theorem Follows.confined {o : Options} (follows : p.Follows path h o) (listed : l.slot? = some s)
    (confined : Confined o l) {x : Binary} (held : o.get l = .number x)
    (checked : x.isFinite = true ∨ s.accepted x = true) : x.isFinite = true := by
  refine checked.elim id fun accepted => ?_
  cases l with
  | watermark l =>
    cases l with
    | opacity =>
      cases listed
      exact Binary.isFinite_of_unit accepted
    | _ => contradiction
  | gravity l =>
    obtain ⟨axis, found, -⟩ := Option.map_eq_some_iff.mp listed
    obtain rfl := Scalar.number.inj ((Gravity.get_axis found o.gravity).symm.trans held)
    replace confined : o.gravity.anchor = .focusPoint := confined
    rw [follows.gravity] at confined ⊢
    exact Binary.isFinite_of_unit
      (Gravity.admits_settle_focused (by decide) follows.gravities_named confined axis)
  | cropGravity l =>
    obtain ⟨axis, found, -⟩ := Option.map_eq_some_iff.mp listed
    obtain rfl := Scalar.number.inj ((Gravity.get_axis found o.crop.gravity).symm.trans held)
    replace confined : o.crop.gravity.anchor = .focusPoint := confined
    rw [follows.cropGravity] at confined ⊢
    exact Binary.isFinite_of_unit
      (Gravity.admits_settle_focused (by decide) follows.cropGravities_named confined axis)
  | _ => contradiction

/-- The check of a number excludes a NaN, unless an anchor decides. -/
theorem setting_of_accepted_nan (listed : l.slot? = some s) (accepted : s.accepted .nan = true) :
    s.setting = .gravity ∨ s.setting = .crop := by
  cases l with
  | gravity l =>
    obtain ⟨axis, -, rfl⟩ := Option.map_eq_some_iff.mp listed
    exact .inl rfl
  | cropGravity l =>
    obtain ⟨axis, -, rfl⟩ := Option.map_eq_some_iff.mp listed
    exact .inr rfl
  | watermark l => cases l <;> cases listed <;> contradiction
  | _ => cases listed <;> contradiction

/-- The numbers of a request that is read are finite exactly when the last texts for them are, and
JSON shows them as numbers exactly then. -/
theorem parse_numeric (p : RequestParser) (path : String) (h : Headers) (request : ImageRequest)
    (parsed : (p.parse path h).value = .ok request) (l : Leaf) (s : Slot)
    (listed : l.slot? = some s) : ∃ x, p.Numeric path request l s x := by
  have follows := parse_follows parsed
  obtain ⟨x, held, finite, checked⟩ := follows.number listed
  obtain ⟨y, baseline⟩ := Options.finite_baseline listed p.config.quality
  have template : p.template.get l = .number (.finite y) := baseline
  -- The template has a finite number there, so that null is a change from it.
  have change : (p.diff request.options).toJson.at? l.path =
      Json.change? (some (.number .double y)) (.double x) := by
    have between := OptionsDiff.at?_between p.template request.options l
    rwa [held, template] at between
  refine ⟨x, held, finite, fun confined => follows.confined listed confined held checked, ?ordered,
    ?null, ?number, rfl⟩
  case ordered =>
    rintro rfl
    exact setting_of_accepted_nan listed (checked.resolve_left (by decide))
  case null =>
    rw [change]
    cases x with
    | finite x =>
      refine iff_of_false ?_ (by simp [Binary.isFinite])
      rw [Json.change?_leaf rfl]
      split <;> nofun
    | nan | infinity => exact iff_of_true rfl rfl
  case number =>
    intro v shown finite
    obtain ⟨z, rfl⟩ := Binary.isFinite_iff.mp finite
    rw [change, Json.change?_leaf rfl] at shown
    split at shown
    next => contradiction
    next => exact ⟨z, (Option.some.inj shown).symm⟩

/-- An infinite pixel ratio that a finite one follows. -/
theorem parse_numeric_dpr :
    let p : RequestParser := { config := { allowInsecure := true } }
    let request : ImageRequest :=
      ⟨"a", { Options.baseline 80 with dpr := .finite ⟨false, 1 <<< 52, -51⟩ }⟩
    let s : Slot := ⟨.dpr, 0, .double, (0 < ·)⟩
    (p.parse "/s/dpr:inf/dpr:2/YQ" {}).value = .ok request ∧ Leaf.dpr.slot? = some s ∧
      ∃ x, p.Numeric "/s/dpr:inf/dpr:2/YQ" request .dpr s x := by
  intro p request s
  have cut : segments "/s/dpr:inf/dpr:2/YQ" = "s" :: (["dpr:inf", "dpr:2"] ++ ["YQ"]) := by
    decide +kernel
  have settings : (["dpr:inf", "dpr:2"].filterMap UrlOption.parse?).mapM UrlOption.directive? =
      some [⟨.dpr, ["inf"]⟩, ⟨.dpr, ["2"]⟩] := by decide +kernel
  have parsed : (p.parse "/s/dpr:inf/dpr:2/YQ" {}).value = .ok request :=
    parse_settings rfl rfl {} cut (by decide) (by decide) (by decide) settings (by decide +kernel)
      rfl
  exact ⟨parsed, rfl, p.parse_numeric _ {} request parsed .dpr s rfl⟩

/-- An infinite pixel ratio is accepted, and is null in the description of the request. -/
theorem parse_infinity :
    let p : RequestParser := { config := { allowInsecure := true } }
    let request : ImageRequest := ⟨"a", { Options.baseline 80 with dpr := .infinity false }⟩
    (p.parse "/s/dpr:inf/YQ" {}).value = .ok request ∧ request.options.dpr.isFinite = false ∧
      (p.diff request.options).toJson.at? ["dpr"] = some .null ∧
      (request.description p.template).at? ["options", "dpr"] = some .null := by
  intro p request
  have cut : segments "/s/dpr:inf/YQ" = "s" :: (["dpr:inf"] ++ ["YQ"]) := by decide +kernel
  have settings : (["dpr:inf"].filterMap UrlOption.parse?).mapM UrlOption.directive? =
      some [⟨.dpr, ["inf"]⟩] := by decide +kernel
  have parsed : (p.parse "/s/dpr:inf/YQ" {}).value = .ok request :=
    parse_settings rfl rfl {} cut (by decide) (by decide) (by decide) settings (by decide +kernel)
      rfl
  have shown : (p.diff request.options).toJson.at? ["dpr"] = some .null :=
    OptionsDiff.at?_between p.template request.options .dpr
  exact ⟨parsed, rfl, shown, shown⟩

end RequestParser
end ImageGateway
