import ImageGateway.Binary.Shortest

/-! The written form of finite values: the shortest digits, in positional notation while the first
digit stands in the style's range of places and in scientific notation outside it. -/
namespace ImageGateway.Binary

structure Style where
  format : Format
  leastPlain : Int
  greatestPlain : Int
  deriving DecidableEq, Repr

def Style.double : Style := ⟨.double, -5, 15⟩
def Style.single : Style := ⟨.single, -6, 12⟩

/-- Positional notation with at least one digit on each side of the point. -/
def plain (digits : List Char) (place : Int) : List Char :=
  let whole := digits ++ List.replicate place.toNat '0'
  let fraction := (-place).toNat
  let whole := List.replicate (fraction + 1 - whole.length) '0' ++ whole
  let cut := whole.length - fraction
  whole.take cut ++ '.' :: (if fraction = 0 then ['0'] else whole.drop cut)

/-- One digit before the point, no point after a lone digit, and always a sign on the exponent. -/
def scientific (digits : List Char) (top : Int) : List Char :=
  let mantissa := match digits with
    | first :: second :: rest => first :: '.' :: second :: rest
    | short => short
  mantissa ++ 'e' :: (if top < 0 then '-' else '+') :: Nat.toDigits 10 top.natAbs

def Finite.write (style : Style) (x : Finite) : String :=
  let sign := if x.negative then "-" else ""
  if x.mantissa = 0 then sign ++ "0.0" else
  let shortest := x.shortest style.format
  let digits := Nat.toDigits 10 shortest.number
  let top := shortest.place + digits.length - 1
  let body :=
    if style.leastPlain ≤ top && top ≤ style.greatestPlain then plain digits shortest.place
    else scientific digits top
  sign ++ String.ofList body

end ImageGateway.Binary
