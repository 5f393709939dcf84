import Mathlib.Data.List.Sort
import ImageGateway.Proofs.Options.Footprint
import ImageGateway.Proofs.Request.Written

/-! Option segments in another order. Options commute when no field is in the footprint of both, so
that a path may be written with its options in any order that keeps overlapping ones in theirs. -/
namespace ImageGateway

/-- The elements are taken from their places in another order, each of them once, and those that
overlap in the order that they had. -/
structure Reordering {α : Type} (Overlap : α → α → Prop) (before after : List α) where
  order : List (Fin before.length)
  complete : order.Perm (List.finRange before.length)
  taken : after = order.map before.get
  kept : order.Pairwise fun i j => Overlap (before.get i) (before.get j) → i < j

namespace Reordering

variable {α : Type} {Overlap : α → α → Prop} {before after : List α}

theorem perm (moved : Reordering Overlap before after) : after.Perm before :=
  calc
    after = moved.order.map before.get := moved.taken
    List.Perm _ ((List.finRange before.length).map before.get) := moved.complete.map _
    _ = before := List.map_get_finRange before

theorem filter_eq (moved : Reordering Overlap before after) {P : α → Bool}
    (overlapping : ∀ a b, P a = true → P b = true → Overlap a b) :
    after.filter P = before.filter P := by
  let chosen : Fin before.length → Bool := P ∘ before.get
  have sorted : (moved.order.filter chosen).Pairwise (· < ·) := by
    refine (moved.kept.filter chosen).imp_of_mem fun {i j} first second kept => ?_
    exact kept (overlapping _ _ (List.mem_filter.mp first).2 (List.mem_filter.mp second).2)
  have listed : ((List.finRange before.length).filter chosen).Pairwise (· < ·) :=
    (List.sortedLT_finRange before.length).pairwise.filter chosen
  calc
    after.filter P = (moved.order.map before.get).filter P := congrArg _ moved.taken
    _ = (moved.order.filter chosen).map before.get := List.filter_map
    _ = ((List.finRange before.length).filter chosen).map before.get := by
      rw [(moved.complete.filter chosen).eq_of_pairwise' sorted listed]
    _ = before.filter P := by
      rw [← List.filter_map, List.map_get_finRange]

end Reordering

namespace UrlOption

/-- The segments are options that overlap. -/
def SegmentsOverlap (first second : String) : Prop :=
  ∃ a ∈ parse? first, ∃ b ∈ parse? second, a.Overlap b

instance (first second : String) : Decidable (SegmentsOverlap first second) :=
  inferInstanceAs (Decidable (∃ a ∈ parse? first, ∃ b ∈ parse? second, a.Overlap b))

/-- The options that have a field in their footprint are read in the same order. -/
theorem filter_parse_reordered {before after : List String}
    (moved : Reordering SegmentsOverlap before after) (f : Field) :
    (after.filterMap parse?).filter (f ∈ ·.footprint) =
      (before.filterMap parse?).filter (f ∈ ·.footprint) := by
  let chosen (s : String) : Bool := (parse? s).any (f ∈ ·.footprint)
  have read (segments : List String) : (segments.filterMap parse?).filter (f ∈ ·.footprint) =
      (segments.filter chosen).filterMap parse? := by
    rw [List.filter_filterMap, List.filterMap_filter]
    refine List.filterMap_congr fun s _ => ?_
    cases parsed : parse? s with
    | none => simp
    | some asked => simp [chosen, parsed, Option.filter_some]
  have overlapping (s t : String) (first : chosen s = true) (second : chosen t = true) :
      SegmentsOverlap s t := by
    obtain ⟨a, parsed, early⟩ := (Option.any_eq_true _ _).mp first
    obtain ⟨b, also, late⟩ := (Option.any_eq_true _ _).mp second
    exact ⟨a, parsed, b, also, f, of_decide_eq_true early, of_decide_eq_true late⟩
  rw [read, read, moved.filter_eq overlapping]

end UrlOption

theorem Options.applyAll_reordered {ctx : Context} {before after : List String}
    (moved : Reordering UrlOption.SegmentsOverlap before after)
    (plain : ∀ asked ∈ before.filterMap UrlOption.parse?, asked.Plain) {o : Options}
    (sound : (o.applyAll ctx (before.filterMap UrlOption.parse?)).fault = none) :
    (o.applyAll ctx (after.filterMap UrlOption.parse?)).fault = none ∧
      (o.applyAll ctx (after.filterMap UrlOption.parse?)).state =
        (o.applyAll ctx (before.filterMap UrlOption.parse?)).state := by
  have members : ∀ asked ∈ after.filterMap UrlOption.parse?,
      asked ∈ before.filterMap UrlOption.parse? :=
    fun _ => (moved.perm.filterMap UrlOption.parse?).mem_iff.mp
  exact applyAll_rearranged plain members (UrlOption.filter_parse_reordered moved) sound

namespace RequestParser

/-- Two paths in which options, none of them for presets, stand before the same source. Those of
the second path are those of the first one in another order. -/
structure Reordered (path other : String) where
  signature : String
  resigned : String
  options : List String
  reordered : List String
  source : List String
  cut : segments path = signature :: (options ++ source)
  cutAgain : segments other = resigned :: (reordered ++ source)
  named : ∀ s ∈ options, ':' ∈ s.toList
  bare : ∀ s ∈ source.head?, ':' ∉ s.toList
  plain : ∀ asked ∈ options.filterMap UrlOption.parse?, asked.Plain
  moved : Reordering UrlOption.SegmentsOverlap options reordered

variable {p : RequestParser}

theorem finish_congr {first second : Outcome Options} (fault : second.fault = first.fault)
    (state : second.state = first.state) (source : List String) :
    p.finish second source = p.finish first source := by
  simp only [finish, fault, state]

theorem namedDialect_reordered {h : Headers} {before after : List String}
    (moved : Reordering UrlOption.SegmentsOverlap before after)
    (plain : ∀ asked ∈ before.filterMap UrlOption.parse?, asked.Plain)
    (sound : (p.namedDialect h (before.filterMap UrlOption.parse?)).fault = none) :
    (p.namedDialect h (after.filterMap UrlOption.parse?)).fault = none ∧
      (p.namedDialect h (after.filterMap UrlOption.parse?)).state =
        (p.namedDialect h (before.filterMap UrlOption.parse?)).state := by
  obtain ⟨opened, applied⟩ := Outcome.fault_andThen.mp sound
  obtain ⟨quiet, same⟩ := Options.applyAll_reordered moved plain applied
  refine ⟨Outcome.fault_andThen.mpr ⟨opened, quiet⟩, ?_⟩
  rw [namedDialect, namedDialect, Outcome.state_andThen opened, Outcome.state_andThen opened, same]

theorem finish_reordered {h : Headers} {path other front : String} {others : List String}
    {request : ImageRequest} (byName : p.config.onlyPresets = false)
    (paths : Reordered path other) (shape : paths.options ++ paths.source = front :: others)
    (finished : p.finish (p.readOptions h front others).1 (p.readOptions h front others).2 =
      .ok request) :
    ∃ first rest, paths.reordered ++ paths.source = first :: rest ∧
      p.finish (p.readOptions h first rest).1 (p.readOptions h first rest).2 = .ok request := by
  have perm := paths.moved.perm
  cases filled : paths.options with
  | nil =>
    -- Without options there is nothing to reorder, and the dialect may be any other.
    rw [filled] at shape perm
    exact ⟨front, others, perm.eq_nil ▸ shape, finished⟩
  | cons option more =>
    have given : paths.options ≠ [] := filled ▸ List.cons_ne_nil option more
    have moved : paths.reordered ≠ [] := fun none => given (none ▸ perm).symm.eq_nil
    have named : ∀ s ∈ paths.reordered, ':' ∈ s.toList :=
      fun s member => paths.named s (perm.mem_iff.mp member)
    obtain ⟨first, rest, again⟩ : ∃ first rest, paths.reordered ++ paths.source = first :: rest :=
      List.exists_cons_of_ne_nil (by simp [moved])
    rw [readOptions_written byName h shape paths.named paths.bare (.inl given)] at finished
    refine ⟨first, rest, again, ?_⟩
    rw [readOptions_written byName h again named paths.bare (.inl moved)]
    obtain ⟨-, sound, -⟩ := finish_ok finished
    obtain ⟨quiet, same⟩ := namedDialect_reordered paths.moved paths.plain sound
    rw [finish_congr (quiet.trans sound.symm) same]
    exact finished

/-- Options change nothing outside of their footprints, whether they fail or not, and two of them
that do not overlap commute. A path is therefore read as the same request when its options are
reordered, provided that the signature of the new path is accepted as well. -/
theorem options_commute :
    (∀ (ctx : Context) (o : Options) (asked : UrlOption), asked.Plain →
      ∀ f ∉ asked.footprint, (o.apply ctx asked).state.field f = o.field f) ∧
    (∀ (ctx : Context) (o : Options) (first second : UrlOption), first.Plain → second.Plain →
      ¬first.Overlap second → (o.applyAll ctx [first, second]).fault = none →
        (o.applyAll ctx [second, first]).fault = none ∧
          (o.applyAll ctx [second, first]).state = (o.applyAll ctx [first, second]).state) ∧
    (∀ (p : RequestParser) (h : Headers) (path other : String) (paths : Reordered path other)
        (request : ImageRequest), p.config.onlyPresets = false →
      (p.parse path h).value = .ok request →
        (p.parse other h).value = (p.authorize other paths.resigned).map fun _ => request) := by
  refine ⟨fun ctx o asked plain f outside => Options.field_apply plain outside o,
    fun ctx o first second plain also apart sound => Options.applyAll_swap plain also apart sound,
    fun p h path other paths request byName parsed => ?_⟩
  obtain ⟨signature, front, others, cut, -, finished⟩ := parse_ok parsed
  have shape : paths.options ++ paths.source = front :: others :=
    (List.cons.inj (paths.cut.symm.trans cut)).2
  obtain ⟨first, rest, again, left⟩ := finish_reordered byName paths shape finished
  have cutAgain : segments other = paths.resigned :: first :: rest := again ▸ paths.cutAgain
  rw [parse_of_segments cutAgain]
  cases p.authorize other paths.resigned with
  | error refusal => rfl
  | ok accepted =>
    simp only [RequestParser.accepted, left]
    rfl

/-- A resize that fails at its height leaves the quality. A width and a height change places, and
the width behind them stays the last one. -/
theorem options_commute_widths :
    let p : RequestParser := { config := { allowInsecure := true } }
    let o := Options.baseline 80
    let resize : UrlOption := ⟨"rs", ["fill", "", "x"]⟩
    let width : UrlOption := ⟨"w", ["1"]⟩
    let height : UrlOption := ⟨"h", ["2"]⟩
    let request : ImageRequest := ⟨"a", { o with width := 3, height := 2 }⟩
    (o.apply p.context resize).fault = some (.value "height" "x") ∧
      (o.apply p.context resize).state.field .quality = o.field .quality ∧
      (o.applyAll p.context [width, height]).fault = none ∧
      (o.applyAll p.context [height, width]).fault = none ∧
      (o.applyAll p.context [height, width]).state =
        (o.applyAll p.context [width, height]).state ∧
      (p.parse "/s/w:1/h:2/w:3/YQ" {}).value = .ok request ∧
      (p.parse "/s/h:2/w:1/w:3/YQ" {}).value = .ok request := by
  intro p o resize width height request
  obtain ⟨frame, commute, reorder⟩ := options_commute
  have failed : (o.apply p.context resize).fault = some (.value "height" "x") := by
    rw [Options.apply_plain (by decide)]
    decide +kernel
  have sound : (o.applyAll p.context [width, height]).fault = none := by
    rw [Options.applyAll_plain (by decide)]
    decide +kernel
  obtain ⟨quiet, same⟩ := commute p.context o width height (by decide) (by decide) (by decide) sound
  let options := ["w:1", "h:2", "w:3"]
  let moved : Reordering UrlOption.SegmentsOverlap options ["h:2", "w:1", "w:3"] :=
    ⟨([1, 0, 2] : List (Fin 3)), by decide, rfl, by decide⟩
  have cut : segments "/s/w:1/h:2/w:3/YQ" = "s" :: (options ++ ["YQ"]) := by decide +kernel
  let paths : Reordered "/s/w:1/h:2/w:3/YQ" "/s/h:2/w:1/w:3/YQ" :=
    ⟨"s", "s", options, ["h:2", "w:1", "w:3"], ["YQ"], cut, by decide +kernel, by decide, by decide,
      by decide, moved⟩
  have settings : (options.filterMap UrlOption.parse?).mapM UrlOption.directive? =
      some [⟨.width, ["1"]⟩, ⟨.height, ["2"]⟩, ⟨.width, ["3"]⟩] := by decide +kernel
  have parsed : (p.parse "/s/w:1/h:2/w:3/YQ" {}).value = .ok request :=
    parse_settings rfl rfl {} cut (by decide) (by decide) (by decide) settings (by decide +kernel)
      rfl
  exact ⟨failed, frame p.context o resize (by decide) .quality (by decide), sound, quiet, same,
    parsed, reorder p {} _ _ paths request rfl parsed⟩

end RequestParser
end ImageGateway
