import ImageGateway.Gravity
import ImageGateway.Proofs.Reading

/-! What gravities read one after the other leave. The anchor is the one that was read last. An
offset is the one that was given last, and it suits the anchor that it was given for; for another
anchor it is merely left over. -/
namespace ImageGateway

theorem Anchor.name_of_ofName? {s : String} {a : Anchor} (known : ofName? s = some a) :
    s = a.name := by
  unfold ofName? at known
  split at known <;> cases known <;> rfl

theorem Anchor.ofName?_eq_center {s : String} : ofName? s = some .center ↔ s = "ce" :=
  ⟨name_of_ofName?, fun same => same ▸ rfl⟩

theorem Anchor.admits_of_le {a : Anchor} (unfocused : a ≠ .focusPoint) {offset : Binary}
    (least : 0 ≤ offset) : a.admits offset = true := by
  cases a <;> first | contradiction | simp [admits, least]

theorem Anchor.le_of_admits {a : Anchor} (elsewhere : a ≠ .center) {offset : Binary}
    (suits : a.admits offset = true) : 0 ≤ offset := by
  cases a <;> first | contradiction | simp_all [admits]

inductive Axis where
  | x
  | y
  deriving DecidableEq, Repr

/-- Where the offset on the axis stands among the arguments, the anchor being the first. -/
def Axis.position : Axis → Nat
  | .x => 1
  | .y => 2

namespace Gravity

def offset (g : Gravity) : Axis → Binary
  | .x => g.x
  | .y => g.y

def Fits (g : Gravity) : Prop := ∀ axis, g.anchor.admits (g.offset axis) = true

/-- The offset that the arguments give on the axis. -/
def given? (axis : Axis) (args : List String) : Option Binary :=
  args[axis.position]?.bind (Binary.read? .double)

/-- The gravity after arguments that are read one after the other. -/
def settle (g : Gravity) (history : List (List String)) : Gravity :=
  history.foldl (fun g args => ((read args).apply Edit.apply g).state) g

/-- What arguments without a fault say: an anchor, and the offsets that they give for it. -/
structure Names (args : List String) (anchor : Anchor) : Prop where
  named : args.head?.bind Anchor.ofName? = some anchor
  suited : ∀ axis, axis.position < args.length →
    ∃ offset, given? axis args = some offset ∧ anchor.admits offset = true
  whole : anchor = .focusPoint → ∀ axis : Axis, axis.position < args.length
  settled : ∀ g, ((read args).apply Edit.apply g).state =
    ⟨anchor, (given? .x args).getD g.x, (given? .y args).getD g.y⟩

theorem Names.central_iff {args : List String} {anchor : Anchor} (names : Names args anchor) :
    args.head? = some "ce" ↔ anchor = .center := by
  obtain ⟨name, head, known⟩ := Option.bind_eq_some_iff.mp names.named
  rw [head]
  constructor
  · rintro ⟨⟩
    exact (Option.some.inj known).symm
  · rintro rfl
    rw [Anchor.ofName?_eq_center.mp known]

theorem Names.offset_step {args : List String} {anchor : Anchor} (names : Names args anchor)
    (g : Gravity) (axis : Axis) :
    ((read args).apply Edit.apply g).state.offset axis =
      (given? axis args).getD (g.offset axis) := by
  rw [names.settled]
  cases axis <;> rfl

theorem readOffset_sound {anchor : Anchor} {what text : String} {edit : Binary → Edit}
    (sound : (readOffset anchor what text edit).fault = none) :
    ∃ offset, Binary.read? .double text = some offset ∧ anchor.admits offset = true ∧
      readOffset anchor what text edit = .edit (edit offset) :=
  Argument.number_sound sound

/-- An offset is read for the anchor beside it, or not given at all. -/
def readGiven (anchor : Anchor) (what : String) (text : Option String) (edit : Binary → Edit) :
    Reading Edit :=
  match text with
  | some text => readOffset anchor what text edit
  | none => .nothing

theorem readGiven_sound {anchor : Anchor} {what : String} {text : Option String}
    {edit : Binary → Edit} (sound : (readGiven anchor what text edit).fault = none) :
    (readGiven anchor what text edit).edits =
        ((text.bind (Binary.read? .double)).map edit).toList ∧
      ∀ t, text = some t → ∃ offset, Binary.read? .double t = some offset ∧
        anchor.admits offset = true := by
  cases text with
  | none => exact ⟨rfl, nofun⟩
  | some t =>
    obtain ⟨offset, read, suits, same⟩ := readOffset_sound sound
    refine ⟨?_, ?_⟩
    · simp only [readGiven, same, Option.bind_some, read]
      rfl
    · rintro _ ⟨⟩
      exact ⟨offset, read, suits⟩

theorem read_eq_all {name : String} {offsets : List String} {anchor : Anchor}
    (few : offsets.length ≤ 2) (known : Anchor.ofName? name = some anchor) :
    read (name :: offsets) = .all [.edit (.anchor anchor),
      if arity anchor offsets.length then .nothing
        else .fail (.arguments "gravity" (name :: offsets)),
      readGiven anchor "gravity X" offsets[0]? .x, readGiven anchor "gravity Y" offsets[1]? .y] := by
  simp only [read, if_neg (Nat.not_lt.mpr few), known]
  rfl

theorem named_of_read {args : List String} (sound : (read args).fault = none) :
    ∃ name offsets anchor, args = name :: offsets ∧ offsets.length ≤ 2 ∧
      Anchor.ofName? name = some anchor := by
  unfold read at sound
  split at sound
  next => exact absurd sound (Option.some_ne_none _)
  next name offsets =>
    split at sound
    next => exact absurd sound (Option.some_ne_none _)
    next few =>
      split at sound
      next => exact absurd sound (Option.some_ne_none _)
      next anchor known => exact ⟨name, offsets, anchor, rfl, Nat.not_lt.mp few, known⟩

theorem read_sound {args : List String} (sound : (read args).fault = none) :
    ∃ anchor, Names args anchor := by
  obtain ⟨name, offsets, anchor, rfl, few, known⟩ := named_of_read sound
  have form := read_eq_all few known
  rw [form] at sound
  simp only [Reading.fault_all_cons] at sound
  obtain ⟨-, allowed, first, second, -⟩ := sound
  have arity : arity anchor offsets.length = true := by
    split at allowed
    next yes => exact yes
    next => exact absurd allowed (Option.some_ne_none _)
  obtain ⟨xEdits, xSuits⟩ := readGiven_sound first
  obtain ⟨yEdits, ySuits⟩ := readGiven_sound second
  have suited {i : Nat} (inside : i < offsets.length)
      (suits : ∀ t, offsets[i]? = some t → ∃ offset, Binary.read? .double t = some offset ∧
        anchor.admits offset = true) :
      ∃ offset, offsets[i]?.bind (Binary.read? .double) = some offset ∧
        anchor.admits offset = true := by
    rw [List.getElem?_eq_getElem inside, Option.bind_some]
    exact suits _ (List.getElem?_eq_getElem inside)
  refine ⟨anchor, ⟨known, ?suited, ?whole, ?settled⟩⟩
  case suited =>
    intro axis inside
    cases axis with
    | x => exact suited (Nat.lt_of_succ_lt_succ inside) xSuits
    | y => exact suited (Nat.lt_of_succ_lt_succ inside) ySuits
  case whole =>
    -- A focus point has exactly two arguments behind it, so both offsets are given.
    rintro rfl axis
    have both : offsets.length = 2 := by simpa [Gravity.arity] using arity
    cases axis <;> simp [Axis.position, both]
  case settled =>
    intro g
    have edits : (read (name :: offsets)).edits = .anchor anchor ::
        (((offsets[0]?.bind (Binary.read? .double)).map Edit.x).toList ++
          ((offsets[1]?.bind (Binary.read? .double)).map Edit.y).toList) := by
      rw [form, Reading.edits_all_cons rfl, Reading.edits_all_cons allowed,
        Reading.edits_all_cons first, Reading.edits_all_cons second, xEdits, yEdits, if_pos arity]
      simp [Reading.edit, Reading.nothing, Reading.all]
    simp only [Reading.apply, edits, List.foldl_cons, List.foldl_append, given?, Axis.position,
      List.getElem?_cons_succ]
    cases offsets[0]?.bind (Binary.read? .double) <;>
      cases offsets[1]?.bind (Binary.read? .double) <;> rfl

/-- The last arguments that give an offset on the axis. -/
def lastGiving (axis : Axis) (history : List (List String)) : Option (List String) :=
  (history.filter fun args => axis.position < args.length).getLast?

/-- The offset on the axis was given for the centre, where it need not be positive, and another
anchor was named later without an offset of its own. -/
def LeftOver (axis : Axis) (history : List (List String)) : Prop :=
  ∃ last giving offset, history.getLast? = some last ∧ last.head? ≠ some "ce" ∧
    lastGiving axis history = some giving ∧ giving.head? = some "ce" ∧
    given? axis giving = some offset ∧ ¬ 0 ≤ offset

section History

variable {history : List (List String)}

theorem settle_append (g : Gravity) (first second : List (List String)) :
    g.settle (first ++ second) = (g.settle first).settle second :=
  List.foldl_append

theorem anchor_settle (g : Gravity) (earlier : List (List String)) {args : List String}
    {anchor : Anchor} (names : Names args anchor) :
    (g.settle (earlier ++ [args])).anchor = anchor := by
  rw [settle_append]
  exact congrArg Gravity.anchor (names.settled (g.settle earlier))

theorem mem_of_lastGiving {axis : Axis} {giving : List String}
    (last : lastGiving axis history = some giving) :
    giving ∈ history ∧ axis.position < giving.length := by
  simpa using List.mem_of_getLast? last

theorem lastGiving_append {axis : Axis} (earlier : List (List String)) {last : List String}
    (inside : axis.position < last.length) : lastGiving axis (earlier ++ [last]) = some last := by
  simp [lastGiving, inside]

theorem offset_settle (g : Gravity) (axis : Axis)
    (sound : ∀ args ∈ history, ∃ anchor, Names args anchor) :
    (g.settle history).offset axis =
      ((lastGiving axis history).bind (given? axis)).getD (g.offset axis) := by
  induction history generalizing g with
  | nil => rfl
  | cons args later ih =>
    obtain ⟨⟨anchor, names⟩, others⟩ := List.forall_mem_cons.mp sound
    have stepped : (g.settle (args :: later)).offset axis =
        ((lastGiving axis later).bind (given? axis)).getD
          ((given? axis args).getD (g.offset axis)) := by
      rw [← names.offset_step g axis]
      exact ih _ others
    rw [stepped, lastGiving, lastGiving]
    by_cases inside : axis.position < args.length
    · obtain ⟨offset, given, -⟩ := names.suited axis inside
      rw [List.filter_cons_of_pos (by simpa using inside), List.getLast?_cons, given]
      cases last : (later.filter fun args => axis.position < args.length).getLast? with
      | none => simp [given]
      | some giving =>
        obtain ⟨member, inside⟩ := mem_of_lastGiving last
        obtain ⟨_, others⟩ := others giving member
        obtain ⟨offset, given, -⟩ := others.suited axis inside
        simp [given]
    · have absent : given? axis args = none := by
        rw [given?, List.getElem?_eq_none (Nat.le_of_not_lt inside), Option.bind_none]
      rw [List.filter_cons_of_neg (by simpa using inside), absent, Option.getD_none]

theorem admits_settle_iff {g : Gravity} (unfocused : g.anchor ≠ .focusPoint) {axis : Axis}
    (least : 0 ≤ g.offset axis) (sound : ∀ args ∈ history, ∃ anchor, Names args anchor) :
    (g.settle history).anchor.admits ((g.settle history).offset axis) = true ↔
      ¬ LeftOver axis history := by
  rw [offset_settle g axis sound]
  rcases List.eq_nil_or_concat history with rfl | ⟨earlier, last, rfl⟩
  · have fits : g.anchor.admits (g.offset axis) = true := Anchor.admits_of_le unfocused least
    exact iff_of_true fits (by simp [LeftOver])
  rw [List.concat_eq_append] at sound ⊢
  have final : (earlier ++ [last]).getLast? = some last := by simp
  obtain ⟨anchor, names⟩ := sound last (by simp)
  rw [anchor_settle g earlier names]
  by_cases central : anchor = .center
  · have fits (offset : Binary) : anchor.admits offset = true := by rw [central]; rfl
    refine iff_of_true (fits _) ?_
    rintro ⟨other, _, _, same, elsewhere, -⟩
    obtain rfl := Option.some.inj (final.symm.trans same)
    exact elsewhere (names.central_iff.mpr central)
  have elsewhere : last.head? ≠ some "ce" := fun head => central (names.central_iff.mp head)
  -- A focus point has both offsets beside it, so that what was given before does not count.
  have focused : anchor = .focusPoint → lastGiving axis (earlier ++ [last]) = some last :=
    fun focus => lastGiving_append earlier (names.whole focus axis)
  cases given : lastGiving axis (earlier ++ [last]) with
  | none =>
    have unfocused : anchor ≠ .focusPoint := fun focus =>
      absurd (given.symm.trans (focused focus)) (by simp)
    exact iff_of_true (Anchor.admits_of_le unfocused least) (by simp [LeftOver, given])
  | some giving =>
    obtain ⟨member, inside⟩ := mem_of_lastGiving given
    obtain ⟨before, namesBefore⟩ := sound giving member
    obtain ⟨offset, read, suits⟩ := namesBefore.suited axis inside
    rw [Option.bind_some, read, Option.getD_some]
    constructor
    · rintro fits ⟨_, other, _, -, -, same, -, again, negative⟩
      obtain rfl := Option.some.inj (given.symm.trans same)
      obtain rfl := Option.some.inj (read.symm.trans again)
      exact negative (Anchor.le_of_admits central fits)
    · intro fresh
      by_cases focus : anchor = .focusPoint
      · obtain rfl := Option.some.inj (given.symm.trans (focused focus))
        obtain ⟨offset', again, suits⟩ := names.suited axis inside
        obtain rfl := Option.some.inj (read.symm.trans again)
        exact suits
      · refine Anchor.admits_of_le focus (Decidable.byContradiction fun negative => ?_)
        have central : before = .center := Decidable.byContradiction fun elsewhere =>
          negative (Anchor.le_of_admits elsewhere suits)
        exact fresh ⟨last, giving, offset, final, elsewhere, given,
          namesBefore.central_iff.mpr central, read, negative⟩

/-- Offsets suit the anchor exactly when none of them is left over from the centre. -/
theorem fits_settle_iff {g : Gravity} (unfocused : g.anchor ≠ .focusPoint)
    (least : ∀ axis, 0 ≤ g.offset axis) (sound : ∀ args ∈ history, ∃ anchor, Names args anchor) :
    (g.settle history).Fits ↔ ∀ axis, ¬ LeftOver axis history :=
  forall_congr' fun axis => admits_settle_iff unfocused (least axis) sound

/-- The offsets of a focus point were read with it, and suit it. -/
theorem admits_settle_focused {g : Gravity}
    (unfocused : g.anchor ≠ .focusPoint) (sound : ∀ args ∈ history, ∃ anchor, Names args anchor)
    (focused : (g.settle history).anchor = .focusPoint) (axis : Axis) :
    Anchor.focusPoint.admits ((g.settle history).offset axis) = true := by
  rcases List.eq_nil_or_concat history with rfl | ⟨earlier, last, rfl⟩
  · exact absurd focused unfocused
  · rw [List.concat_eq_append] at sound focused ⊢
    obtain ⟨anchor, names⟩ := sound last (by simp)
    obtain rfl : anchor = .focusPoint := (anchor_settle g earlier names).symm.trans focused
    obtain ⟨offset, given, suits⟩ := names.suited axis (names.whole rfl axis)
    have settled : (g.settle (earlier ++ [last])).offset axis = offset := by
      rw [settle_append]
      refine (names.offset_step _ axis).trans ?_
      rw [given, Option.getD_some]
    rwa [settled]

end History

end Gravity
end ImageGateway
