import ImageGateway.Binary.Basic
import ImageGateway.Text.Numeral
import ImageGateway.Text.Pieces

/-! Floating-point values read from decimal text. The syntax is an optional sign, then `inf`,
`infinity` or `nan` in any letter case, or digits with an optional point and an optional exponent.
The value is rounded once, from the exact decimal. -/
namespace ImageGateway.Binary

/-- The decimal `digits * 10 ^ exponent`. -/
structure Decimal where
  digits : List Char
  exponent : Int
  deriving DecidableEq, Repr

def exponent? (cs : List Char) : Option Int :=
  match cs with
  | '-' :: digits => if Numeral.isDigits digits then some (-(Numeral.value digits : Int)) else none
  | '+' :: digits => if Numeral.isDigits digits then some (Numeral.value digits) else none
  | digits => if Numeral.isDigits digits then some (Numeral.value digits) else none

def Decimal.read? (cs : List Char) : Option Decimal :=
  let whole := cs.takeWhile Char.isDigit
  let (fraction, rest) := match cs.dropWhile Char.isDigit with
    | '.' :: tail => (tail.takeWhile Char.isDigit, tail.dropWhile Char.isDigit)
    | tail => ([], tail)
  if whole.isEmpty && fraction.isEmpty then none else
  let exponent := match rest with
    | [] => some 0
    | e :: tail => if e = 'e' || e = 'E' then exponent? tail else none
  exponent.map fun e => ⟨whole ++ fraction, e - fraction.length⟩

/-- The nearest value of the format. A decimal whose first digit stands far outside the range of
the format is settled by that place alone, so that no huge power of ten is formed. -/
def Decimal.round (f : Format) (negative : Bool) (d : Decimal) : Binary :=
  let digits := d.digits.dropWhile (· = '0')
  let top := digits.length + d.exponent
  if digits.isEmpty then f.zero negative
  else if f.greatestExponent + f.precision < top - 1 then .infinity negative
  else if top < f.leastExponent - 1 then f.zero negative
  else
    f.round negative (Numeral.value digits * Nat.pow 10 d.exponent.toNat)
      (Nat.pow 10 (-d.exponent).toNat)

def special? (negative : Bool) (cs : List Char) : Option Binary :=
  match Text.lowerAscii (String.ofList cs) with
  | "inf" | "infinity" => some (.infinity negative)
  | "nan" => some .nan
  | _ => none

def read? (f : Format) (s : String) : Option Binary :=
  let (negative, cs) := match s.toList with
    | '-' :: rest => (true, rest)
    | '+' :: rest => (false, rest)
    | cs => (false, cs)
  match special? negative cs with
  | some x => some x
  | none => (Decimal.read? cs).map (·.round f negative)

end ImageGateway.Binary
