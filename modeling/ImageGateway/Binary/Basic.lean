/-! Binary floating-point values with exact order and correct rounding. A finite value is a sign,
a mantissa and a power of two; a format says which mantissas and powers there are. Values of
different formats compare as the numbers they are. -/
namespace ImageGateway

/-- The number `± mantissa * 2 ^ exponent`; zero has a sign. -/
structure Binary.Finite where
  negative : Bool
  mantissa : Nat
  exponent : Int
  deriving DecidableEq, Repr

inductive Binary where
  | nan
  | infinity (negative : Bool)
  | finite (x : Binary.Finite)
  deriving DecidableEq, Repr

namespace Binary

/-- The signed mantissa of `x` in units of `2 ^ unit`, for `unit` at most its exponent. -/
def Finite.scaled (x : Finite) (unit : Int) : Int :=
  let size : Int := (x.mantissa <<< (x.exponent - unit).toNat : Nat)
  if x.negative then -size else size

def Finite.le (x y : Finite) : Bool :=
  let unit := min x.exponent y.exponent
  x.scaled unit ≤ y.scaled unit

/-- Equality of the numbers: the two zeros are equal. -/
def Finite.same (x y : Finite) : Bool := x.le y && y.le x

/-- Nothing is ordered with a NaN. -/
def le : Binary → Binary → Bool
  | .nan, _ | _, .nan => false
  | .infinity true, _ | _, .infinity false => true
  | .infinity false, _ | _, .infinity true => false
  | .finite x, .finite y => x.le y

instance : LE Binary := ⟨fun x y => x.le y = true⟩

instance (x y : Binary) : Decidable (x ≤ y) := inferInstanceAs (Decidable (x.le y = true))

def lt (x y : Binary) : Bool := x.le y && !y.le x

instance : LT Binary := ⟨fun x y => x.lt y = true⟩

instance (x y : Binary) : Decidable (x < y) := inferInstanceAs (Decidable (x.lt y = true))

instance (n : Nat) : OfNat Binary n := ⟨.finite ⟨false, n, 0⟩⟩

def isFinite : Binary → Bool
  | .finite _ => true
  | _ => false

/-- `precision` bits of mantissa; the smallest and largest power of two that a mantissa is
multiplied by. -/
structure Format where
  precision : Nat
  leastExponent : Int
  greatestExponent : Int
  deriving DecidableEq, Repr

namespace Format

def double : Format := ⟨53, -1074, 971⟩
def single : Format := ⟨24, -149, 104⟩

def zero (f : Format) (negative : Bool) : Binary := .finite ⟨negative, 0, f.leastExponent⟩

/-- The power of two that gives `numerator / denominator` a mantissa of full precision, or the
least one of the format. -/
def exponentFor (f : Format) (numerator denominator : Nat) : Int :=
  let guess : Int := numerator.log2 - denominator.log2 - f.precision + 1
  let full := f.precision - 1 + guess
  let below := numerator <<< (-full).toNat < denominator <<< full.toNat
  max f.leastExponent (if below then guess - 1 else guess)

/-- The quotient to the nearest integer, a half to the even neighbour. -/
def nearest (numerator denominator : Nat) : Nat :=
  let floor := numerator / denominator
  let rest := 2 * (numerator % denominator)
  if denominator < rest || (rest = denominator && floor % 2 = 1) then floor + 1 else floor

/-- The value of the format nearest to `numerator / denominator`, a tie to the even mantissa; past
the largest value it is infinity. -/
def round (f : Format) (negative : Bool) (numerator denominator : Nat) : Binary :=
  if numerator = 0 then f.zero negative else
  let exponent := f.exponentFor numerator denominator
  let mantissa := nearest (numerator <<< (-exponent).toNat) (denominator <<< exponent.toNat)
  let (mantissa, exponent) :=
    if mantissa = 1 <<< f.precision then (1 <<< (f.precision - 1), exponent + 1)
    else (mantissa, exponent)
  if f.greatestExponent < exponent then .infinity negative
  else .finite ⟨negative, mantissa, exponent⟩

end Format
end Binary
end ImageGateway
