/-! Integers written in decimal: an optional sign, then at least one ASCII digit. Leading zeros
are allowed. A value that does not fit is refused, never wrapped or clamped. -/
namespace ImageGateway.Numeral

/-- The number that a run of digits denotes, the first digit being the most significant. -/
def value (digits : List Char) : Nat :=
  digits.foldl (fun n c => 10 * n + (c.toNat - '0'.toNat)) 0

def isDigits (cs : List Char) : Bool := !cs.isEmpty && cs.all Char.isDigit

/-- A number below `2 ^ bits`; a plus sign is allowed and a minus sign is not. -/
def unsigned (bits : Nat) (s : String) : Option Nat :=
  let digits := match s.toList with
    | '+' :: rest => rest
    | cs => cs
  if isDigits digits && value digits < 1 <<< bits then some (value digits) else none

/-- A number from `-2 ^ (bits - 1)` to `2 ^ (bits - 1) - 1`, with either sign allowed. -/
def signed (bits : Nat) (s : String) : Option Int :=
  match s.toList with
  | '-' :: digits =>
    if isDigits digits && value digits ≤ 1 <<< (bits - 1) then some (-(value digits : Int)) else none
  | cs =>
    let digits := match cs with
      | '+' :: rest => rest
      | _ => cs
    if isDigits digits && value digits < 1 <<< (bits - 1) then some (value digits) else none

theorem unsigned_lt {bits n : Nat} {s : String} (h : unsigned bits s = some n) : n < 1 <<< bits := by
  simp only [unsigned, Option.ite_none_right_eq_some, Bool.and_eq_true, decide_eq_true_eq,
    Option.some.injEq] at h
  omega

end ImageGateway.Numeral
