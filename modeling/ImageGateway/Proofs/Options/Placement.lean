import ImageGateway.Proofs.Gravity
import ImageGateway.Proofs.Options.Composite

/-! Gravities by themselves and behind the size of a crop. Which arguments make a gravity is a
matter of the arguments alone, and so is the fault of those that do not. A crop leaves blank
arguments behind its size alone, and reads any other ones as the gravity of the crop. -/
namespace ImageGateway

namespace Gravity

/-- Arguments that make a gravity: the name of an anchor, and as many offsets as it allows, each of
which suits it. -/
structure Proper (args : List String) (anchor : Anchor) : Prop where
  few : 1 ≤ args.length ∧ args.length ≤ 3
  named : args.head?.bind Anchor.ofName? = some anchor
  smart : anchor = .smart → args.length = 1
  focused : anchor = .focusPoint → args.length = 3
  suited : ∀ arg ∈ args.tail,
    ∃ offset, Binary.read? .double arg = some offset ∧ anchor.admits offset = true

def readInto (args : List String) (g : Gravity) : Outcome Gravity := (read args).apply Edit.apply g

theorem arity_iff {anchor : Anchor} {offsets : Nat} :
    arity anchor offsets = true ↔
      (anchor = .smart → offsets = 0) ∧ (anchor = .focusPoint → offsets = 2) := by
  cases anchor <;> simp [arity]

theorem fault_readGiven {anchor : Anchor} {what : String} {text : Option String}
    {edit : Binary → Edit} :
    (readGiven anchor what text edit).fault = none ↔
      ∀ t ∈ text, ∃ offset, Binary.read? .double t = some offset ∧ anchor.admits offset = true := by
  cases text with
  | none => simp [readGiven, Reading.nothing]
  | some t =>
    rw [readGiven, readOffset, Argument.fault_number]
    simp

theorem fault_read_named {name : String} {offsets : List String} {anchor : Anchor}
    (few : offsets.length ≤ 2) (known : Anchor.ofName? name = some anchor) :
    (read (name :: offsets)).fault = none ↔
      arity anchor offsets.length = true ∧ ∀ arg ∈ offsets,
        ∃ offset, Binary.read? .double arg = some offset ∧ anchor.admits offset = true := by
  have allowed : (if arity anchor offsets.length then Reading.nothing
      else .fail (.arguments "gravity" (name :: offsets)) : Reading Edit).fault = none ↔
      arity anchor offsets.length = true := by
    split
    next yes => exact iff_of_true rfl yes
    next no => exact iff_of_false (Option.some_ne_none _) no
  have listed : (∀ arg ∈ offsets, ∃ offset, Binary.read? .double arg = some offset ∧
      anchor.admits offset = true) ↔
      (∀ t ∈ offsets[0]?, ∃ offset, Binary.read? .double t = some offset ∧
        anchor.admits offset = true) ∧
      ∀ t ∈ offsets[1]?, ∃ offset, Binary.read? .double t = some offset ∧
        anchor.admits offset = true := by
    match offsets, few with
    | [], _ => simp
    | [_], _ => simp
    | [_, _], _ => simp
  rw [read_eq_all few known]
  simp only [Reading.fault_all_cons, fault_readGiven, allowed, listed]
  simp [Reading.edit, Reading.all, Reading.nothing]

/-- A gravity is read without a fault when its arguments make one, and only then. -/
theorem fault_read_iff {args : List String} :
    (read args).fault = none ↔ ∃ anchor, Proper args anchor := by
  constructor
  · intro sound
    obtain ⟨name, offsets, anchor, rfl, few, known⟩ := named_of_read sound
    obtain ⟨allowed, suited⟩ := (fault_read_named few known).mp sound
    obtain ⟨smart, focused⟩ := arity_iff.mp allowed
    refine ⟨anchor, ⟨Nat.succ_pos _, Nat.succ_le_succ few⟩, known, ?_, ?_, suited⟩
    · intro same
      simp [smart same]
    · intro same
      simp [focused same]
  · rintro ⟨anchor, proper⟩
    obtain ⟨name, head, known⟩ := Option.bind_eq_some_iff.mp proper.named
    obtain ⟨offsets, rfl⟩ := List.head?_eq_some_iff.mp head
    have few : offsets.length ≤ 2 := Nat.le_of_succ_le_succ proper.few.2
    refine (fault_read_named few known).mpr ⟨arity_iff.mpr ⟨fun same => ?_, fun same => ?_⟩,
      proper.suited⟩
    · simpa using proper.smart same
    · simpa using proper.focused same

theorem Proper.settled {args : List String} {anchor : Anchor} (proper : Proper args anchor)
    (g : Gravity) :
    (readInto args g).state =
      ⟨anchor, (given? .x args).getD g.x, (given? .y args).getD g.y⟩ := by
  obtain ⟨other, names⟩ := read_sound (fault_read_iff.mpr ⟨anchor, proper⟩)
  obtain rfl : other = anchor := Option.some.inj (names.named.symm.trans proper.named)
  exact names.settled g

end Gravity

namespace Setting
open Reading

variable {args : List String}

/-- An argument that leaves a length as it is or that gives it a value. -/
def Sizing (arg : String) : Prop := arg = "" ∨ (Numeral.unsigned 32 arg).isSome

def length? (args : List String) (i : Nat) : Option UInt32 :=
  (args[i]?.bind (Numeral.unsigned 32)).map UInt32.ofNat

theorem position_length {i : Nat} (sizing : ∀ arg ∈ args[i]?, Sizing arg) (what : String)
    (edit : UInt32 → Edit) :
    position args i (fun arg => .ofExcept edit (Argument.dimension what arg)) =
      { edits := (length? args i).toList.map edit } := by
  unfold position length?
  cases given : args[i]? with
  | none => rfl
  | some arg =>
    rcases sizing arg given with rfl | valid
    · rfl
    · obtain ⟨n, value⟩ := Option.isSome_iff_exists.mp valid
      have filled : arg.isEmpty = false := by
        rw [← Bool.not_eq_true, String.isEmpty_iff]
        rintro rfl
        contradiction
      simp only [filled, Argument.dimension, value, Option.map_some, Option.bind_some]
      rfl

/-- The gravity that the arguments behind the size of a crop are read as. -/
def cropGravity (args : List String) : Reading Gravity.Edit :=
  if (args.drop 2).all String.isEmpty then .nothing else Gravity.read (args.drop 2)

theorem readCrop_eq (args : List String) :
    readCrop args = .limited "crop" args 5 (.all [
      position args 0 fun arg => .ofExcept .cropWidth (Argument.dimension "crop width" arg),
      position args 1 fun arg => .ofExcept .cropHeight (Argument.dimension "crop height" arg),
      (cropGravity args).map .cropGravity]) := by
  rw [readCrop, cropGravity]
  split <;> rfl

/-- A gravity for the crop changes the gravity of the crop as it would change any other one. -/
theorem applyTo_map_cropGravity (r : Reading Gravity.Edit) (o : Options) :
    (r.map Edit.cropGravity).applyTo o =
      let g := r.apply Gravity.Edit.apply o.crop.gravity
      ⟨{ o with crop := { o.crop with gravity := g.state } }, g.warnings, g.fault⟩ := by
  obtain ⟨edits, warnings, fault⟩ := r
  simp only [map, applyTo, apply]
  congr 1
  induction edits generalizing o with
  | nil => rfl
  | cons e edits ih => rw [List.map_cons, List.foldl_cons, List.foldl_cons, ih]; rfl

theorem applyTo_lengths (width height : Option UInt32) (r : Reading Gravity.Edit) (o : Options) :
    (all [{ edits := width.toList.map .cropWidth }, { edits := height.toList.map .cropHeight },
        r.map Edit.cropGravity]).applyTo o =
      let g := r.apply Gravity.Edit.apply o.crop.gravity
      let crop : Crop := ⟨width.getD o.crop.width, height.getD o.crop.height, g.state⟩
      ⟨{ o with crop := crop }, g.warnings, g.fault⟩ := by
  have alone : all [r.map Edit.cropGravity] = r.map Edit.cropGravity := andThen_nothing _
  have joined : all [{ edits := width.toList.map .cropWidth },
      { edits := height.toList.map .cropHeight }, r.map Edit.cropGravity] =
      { edits := width.toList.map .cropWidth ++ (height.toList.map .cropHeight ++
          r.edits.map .cropGravity), warnings := r.warnings, fault := r.fault } := by
    rw [all, List.foldr_cons, List.foldr_cons]
    exact congrArg _ (congrArg _ alone)
  have last := applyTo_map_cropGravity r
  rw [joined]
  cases width <;> cases height <;> exact last _

/-- A crop whose size is in order writes the lengths that are given and then the gravity. -/
theorem applyTo_readCrop (few : 1 ≤ args.length ∧ args.length ≤ 5)
    (sizing : ∀ arg ∈ args.take 2, Sizing arg) (o : Options) :
    (readCrop args).applyTo o =
      let g := (cropGravity args).apply Gravity.Edit.apply o.crop.gravity
      let crop : Crop := ⟨(length? args 0).getD o.crop.width,
        (length? args 1).getD o.crop.height, g.state⟩
      ⟨{ o with crop := crop }, g.warnings, g.fault⟩ := by
  have within {i : Nat} (front : i < 2) : ∀ arg ∈ args[i]?, Sizing arg := fun arg given =>
    sizing arg (List.mem_of_getElem? ((List.getElem?_take_of_lt front).trans given))
  have read : readCrop args = .all [{ edits := (length? args 0).toList.map .cropWidth },
      { edits := (length? args 1).toList.map .cropHeight },
      (cropGravity args).map .cropGravity] := by
    rw [readCrop_eq, limited_eq, if_pos few, position_length (within (by decide)),
      position_length (within (by decide))]
  rw [read]
  exact applyTo_lengths _ _ _ o

theorem cropGravity_of_blank (blank : ∀ arg ∈ args.drop 2, arg = "") :
    cropGravity args = .nothing :=
  if_pos (List.all_eq_true.mpr fun arg member => String.isEmpty_iff.mpr (blank arg member))

theorem cropGravity_of_given (given : ∃ arg ∈ args.drop 2, arg ≠ "") :
    cropGravity args = Gravity.read (args.drop 2) := by
  obtain ⟨arg, member, filled⟩ := given
  exact if_neg fun blank => filled (String.isEmpty_iff.mp (List.all_eq_true.mp blank arg member))

/-- Arguments are read as a gravity without a fault exactly when they make one. Then the anchor is
the one they name and the offsets are those they give, and what they do not give is as it was. The
fault does not depend on the gravity that is changed. A crop whose lengths are in order has no fault
and leaves its gravity alone when all arguments behind them are blank, and otherwise changes its
gravity, with the same fault, as these arguments change any other one. The main gravity stays. -/
theorem gravity_alone_or_in_crop (args : List String) :
    (∀ g, (Gravity.readInto args g).fault = none ↔ ∃ anchor, Gravity.Proper args anchor) ∧
    (∀ anchor, Gravity.Proper args anchor → ∀ g, (Gravity.readInto args g).state =
      ⟨anchor, (args[1]?.bind (Binary.read? .double)).getD g.x,
        (args[2]?.bind (Binary.read? .double)).getD g.y⟩) ∧
    (∀ g other, (Gravity.readInto args g).fault = (Gravity.readInto args other).fault) ∧
    (1 ≤ args.length ∧ args.length ≤ 5 → (∀ arg ∈ args.take 2, Sizing arg) → ∀ o,
      let outcome := (readCrop args).applyTo o
      outcome.state.gravity = o.gravity ∧
      ((∀ arg ∈ args.drop 2, arg = "") →
        outcome.fault = none ∧ outcome.state.crop.gravity = o.crop.gravity) ∧
      ((∃ arg ∈ args.drop 2, arg ≠ "") →
        (⟨outcome.state.crop.gravity, outcome.warnings, outcome.fault⟩ : Outcome Gravity) =
          Gravity.readInto (args.drop 2) o.crop.gravity)) := by
  refine ⟨fun _ => Gravity.fault_read_iff, fun _ proper => proper.settled, fun _ _ => rfl, ?_⟩
  intro few sizing o
  rw [applyTo_readCrop few sizing]
  refine ⟨rfl, fun blank => ?_, fun given => ?_⟩
  · rw [cropGravity_of_blank blank]
    exact ⟨rfl, rfl⟩
  · rw [cropGravity_of_given given]
    rfl

theorem gravity_alone_or_in_crop_north :
    let one : Binary := .finite ⟨false, 4503599627370496, -52⟩
    let o := Options.baseline 80
    Gravity.Proper ["no", "1"] .north ∧
    (Gravity.readInto ["no", "1"] (.exactly .smart)).state = ⟨.north, one, 0⟩ ∧
    ((readCrop ["", "10", "", ""]).applyTo o).state.crop.gravity = .exactly .unknown ∧
    ((readCrop ["", "10", "no", "1"]).applyTo o).state.crop.gravity = ⟨.north, one, 0⟩ := by
  have offset : Binary.read? .double "1" = some (.finite ⟨false, 4503599627370496, -52⟩) := by decide
  have proper : Gravity.Proper ["no", "1"] .north :=
    ⟨by decide, rfl, nofun, nofun, by simpa using ⟨_, offset, by decide⟩⟩
  have sizing {third fourth : String} : ∀ arg ∈ ["", "10", third, fourth].take 2, Sizing arg := by
    simpa [Sizing] using by decide
  obtain ⟨-, alone, -⟩ := gravity_alone_or_in_crop ["no", "1"]
  obtain ⟨-, -, -, blank⟩ := gravity_alone_or_in_crop ["", "10", "", ""]
  obtain ⟨-, -, -, given⟩ := gravity_alone_or_in_crop ["", "10", "no", "1"]
  have north (g : Gravity) (level : g.y = 0) : (Gravity.readInto ["no", "1"] g).state =
      ⟨.north, .finite ⟨false, 4503599627370496, -52⟩, 0⟩ := by
    simpa [offset, level] using alone .north proper g
  obtain ⟨-, kept, -⟩ := blank (by decide) sizing (Options.baseline 80)
  obtain ⟨-, -, changed⟩ := given (by decide) sizing (Options.baseline 80)
  have turned := changed ⟨"no", by decide, by decide⟩
  exact ⟨proper, north _ rfl, (kept (by decide)).2,
    (congrArg Outcome.state turned).trans (north _ rfl)⟩

end Setting
end ImageGateway
