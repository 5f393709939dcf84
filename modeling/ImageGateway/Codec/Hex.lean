import ImageGateway.Text.Quoted

/-! Bytes written as pairs of hexadecimal digits, letters of either case on input and lower case
on output. -/
namespace ImageGateway.Hex

def digit? (c : Char) : Option Nat :=
  if '0' ≤ c && c ≤ '9' then some (c.toNat - '0'.toNat)
  else if 'a' ≤ c && c ≤ 'f' then some (c.toNat - 'a'.toNat + 10)
  else if 'A' ≤ c && c ≤ 'F' then some (c.toNat - 'A'.toNat + 10)
  else none

def nibble? (b : UInt8) : Option Nat := digit? (Char.ofNat b.toNat)

inductive Fault where
  | oddLength
  | badDigit (c : Char) (position : Nat)
  deriving DecidableEq, Repr

def Fault.message : Fault → String
  | .oddLength => "Odd number of digits"
  | .badDigit c position =>
    "Invalid character " ++ Text.quotedChar c ++ " at position " ++ toString position

def decodePairs (position : Nat) : List UInt8 → Except Fault (List UInt8)
  | [] => .ok []
  | [_] => .error .oddLength
  | high :: low :: rest =>
    match nibble? high, nibble? low with
    | none, _ => .error (.badDigit (Char.ofNat high.toNat) position)
    | some _, none => .error (.badDigit (Char.ofNat low.toNat) (position + 1))
    | some h, some l => (decodePairs (position + 2) rest).map (UInt8.ofNat (16 * h + l) :: ·)

/-- An odd number of digits is reported before any bad digit, and a bad digit by the byte found
and its offset. -/
def decode (digits : List UInt8) : Except Fault (List UInt8) :=
  if digits.length % 2 = 1 then .error .oddLength else decodePairs 0 digits

def encode (bytes : List UInt8) : String :=
  String.ofList (bytes.flatMap fun b => [Nat.digitChar (b.toNat / 16), Nat.digitChar (b.toNat % 16)])

end ImageGateway.Hex
