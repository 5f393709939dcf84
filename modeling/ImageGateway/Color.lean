import ImageGateway.Codec.Hex
import ImageGateway.Error

/-! Opaque colours in three channels of one byte. -/
namespace ImageGateway

structure Color where
  red : UInt8
  green : UInt8
  blue : UInt8
  deriving DecidableEq, Repr

namespace Color

def white : Color := ⟨255, 255, 255⟩

/-- The channel of one digit spreads the digit's sixteen values evenly over the whole range. -/
def shortChannel? (c : Char) : Option UInt8 := (Hex.digit? c).map fun n => UInt8.ofNat (17 * n)

def longChannel? (high low : Char) : Option UInt8 := do
  let h ← Hex.digit? high
  let l ← Hex.digit? low
  return UInt8.ofNat (16 * h + l)

def ofHexDigits? : List Char → Option Color
  | [r, g, b] => return ⟨← shortChannel? r, ← shortChannel? g, ← shortChannel? b⟩
  | [r, s, g, h, b, c] => return ⟨← longChannel? r s, ← longChannel? g h, ← longChannel? b c⟩
  | _ => none

def ofHex (text : String) : Except ParseError Color :=
  match ofHexDigits? text.toList with
  | some color => .ok color
  | none => .error (.value "hex color" text)

end Color
end ImageGateway
