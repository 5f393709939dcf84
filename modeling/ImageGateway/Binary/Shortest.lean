import ImageGateway.Binary.Basic

/-! The fewest decimal digits that read back. A value of a format stands for every real that
rounds to it. For growing digit counts the two neighbours of the value on the decimal grid are
tried; the first grid with a neighbour in that interval wins, and of two the nearer one. -/
namespace ImageGateway.Binary

/-- The mantissa is shifted up as far as the format's precision and least exponent allow. The
number stays the same. -/
def Finite.normal (f : Format) (x : Finite) : Finite :=
  let spare := f.precision - (x.mantissa.log2 + 1)
  let shift := min spare (x.exponent - f.leastExponent).toNat
  { x with mantissa := x.mantissa <<< shift, exponent := x.exponent - shift }

def digitCount (n : Nat) : Nat := (Nat.toDigits 10 n).length

/-- The decimal exponent of the first digit of `numerator / denominator`, which is positive. -/
def leading (numerator denominator : Nat) : Int :=
  if denominator ≤ numerator then digitCount (numerator / denominator) - 1
  else -(digitCount ((denominator - 1) / numerator) : Int)

/-- The reals that round to one value, as bounds in quarter units of its last place. -/
structure Interval where
  least : Nat
  value : Nat
  greatest : Nat
  closed : Bool

def Finite.interval (f : Format) (x : Finite) : Interval :=
  let lowest := x.mantissa = 1 <<< (f.precision - 1) && f.leastExponent < x.exponent
  ⟨4 * x.mantissa - (if lowest then 1 else 2), 4 * x.mantissa, 4 * x.mantissa + 2,
    x.mantissa % 2 = 0⟩

/-- With `unit` quarter units to one grid step scaled by `scale`: the neighbour of the value on
the grid that lies in the interval, the nearer one of two, and the even one of two equally near. -/
def Interval.neighbour (i : Interval) (scale unit : Nat) : Option Nat :=
  let low := i.value * scale / unit
  let high := low + 1
  let inside (n : Nat) : Bool :=
    if i.closed then i.least * scale ≤ n * unit && n * unit ≤ i.greatest * scale
    else i.least * scale < n * unit && n * unit < i.greatest * scale
  let down := i.value * scale - low * unit
  let up := high * unit - i.value * scale
  match inside low, inside high with
  | true, true => some (if up < down || (up = down && low % 2 = 1) then high else low)
  | true, false => some low
  | false, true => some high
  | false, false => none

structure Digits where
  number : Nat
  place : Int
  deriving DecidableEq, Repr

def stripZeros (digits : Digits) : Digits :=
  let shown := Nat.toDigits 10 digits.number
  let zeros := (shown.reverse.takeWhile (· = '0')).length
  if digits.number = 0 then digits else ⟨digits.number / Nat.pow 10 zeros, digits.place + zeros⟩

/-- Enough digits for any value of the format. -/
def Format.mostDigits (f : Format) : Nat := f.precision * 30103 / 100000 + 2

/-- For a value other than zero. -/
def Finite.shortest (f : Format) (x : Finite) : Digits :=
  let x := x.normal f
  let interval := x.interval f
  let exponent := x.exponent - 2
  let top := leading (interval.value <<< exponent.toNat) (1 <<< (-exponent).toNat)
  let candidates := (List.range f.mostDigits).findSome? fun (count : Nat) =>
    let place := top - count
    let scale := Nat.pow 10 (-place).toNat <<< exponent.toNat
    let unit := Nat.pow 10 place.toNat <<< (-exponent).toNat
    (interval.neighbour scale unit).map fun number => (⟨number, place⟩ : Digits)
  stripZeros (candidates.getD ⟨interval.value, 0⟩)

end ImageGateway.Binary
