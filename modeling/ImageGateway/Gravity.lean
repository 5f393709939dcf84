import ImageGateway.Argument
import ImageGateway.Text.Pieces

/-! Gravity: the part of an image that is kept or aligned to. It is written as an anchor with up
to two offsets. Offsets from the centre may be anything, focus points have coordinates between 0
and 1, and other anchors have offsets that are not negative. -/
namespace ImageGateway

inductive Anchor where
  | unknown
  | center
  | north
  | east
  | south
  | west
  | northWest
  | northEast
  | southWest
  | southEast
  | smart
  | focusPoint
  deriving DecidableEq, Repr

namespace Anchor

def ofName? : String → Option Anchor
  | "ce" => some .center
  | "no" => some .north
  | "ea" => some .east
  | "so" => some .south
  | "we" => some .west
  | "nowe" => some .northWest
  | "noea" => some .northEast
  | "sowe" => some .southWest
  | "soea" => some .southEast
  | "sm" => some .smart
  | "fp" => some .focusPoint
  | _ => none

def name : Anchor → String
  | .unknown => ""
  | .center => "ce"
  | .north => "no"
  | .east => "ea"
  | .south => "so"
  | .west => "we"
  | .northWest => "nowe"
  | .northEast => "noea"
  | .southWest => "sowe"
  | .southEast => "soea"
  | .smart => "sm"
  | .focusPoint => "fp"

def admits (anchor : Anchor) (offset : Binary) : Bool :=
  match anchor with
  | .center => true
  | .focusPoint => 0 ≤ offset && offset ≤ 1
  | _ => 0 ≤ offset

theorem ofName?_name {a : Anchor} (known : a ≠ .unknown) : ofName? a.name = some a := by
  cases a <;> first | rfl | contradiction

theorem ne_unknown_of_ofName? {s : String} {a : Anchor} (h : ofName? s = some a) :
    a ≠ .unknown := by
  unfold ofName? at h
  split at h <;> cases h <;> simp

end Anchor

structure Gravity where
  anchor : Anchor
  x : Binary
  y : Binary
  deriving DecidableEq, Repr

namespace Gravity

def exactly (anchor : Anchor) : Gravity := ⟨anchor, 0, 0⟩

inductive Edit where
  | anchor (a : Anchor)
  | x (offset : Binary)
  | y (offset : Binary)
  deriving DecidableEq, Repr

def Edit.apply : Edit → Gravity → Gravity
  | .anchor a, g => { g with anchor := a }
  | .x offset, g => { g with x := offset }
  | .y offset, g => { g with y := offset }

def arity (anchor : Anchor) (offsets : Nat) : Bool :=
  match anchor with
  | .smart => offsets = 0
  | .focusPoint => offsets = 2
  | _ => true

/-- The offset must suit the anchor that the same arguments name. -/
def readOffset (anchor : Anchor) (what text : String) (edit : Binary → Edit) : Reading Edit :=
  .ofExcept edit (Argument.number .double anchor.admits what text)

/-- An offset that is not given is left as it is. -/
def read (args : List String) : Reading Edit :=
  match args with
  | [] => .fail (.arguments "gravity" args)
  | name :: offsets =>
    if 2 < offsets.length then .fail (.arguments "gravity" args) else
    match Anchor.ofName? name with
    | none => .fail (.value "gravity" name)
    | some anchor =>
      .all [
        .edit (.anchor anchor),
        if arity anchor offsets.length then .nothing else .fail (.arguments "gravity" args),
        match offsets[0]? with
        | some text => readOffset anchor "gravity X" text .x
        | none => .nothing,
        match offsets[1]? with
        | some text => readOffset anchor "gravity Y" text .y
        | none => .nothing]

end Gravity
end ImageGateway
