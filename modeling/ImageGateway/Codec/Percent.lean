import ImageGateway.Codec.Hex

/-! Percent escapes over bytes: `%` and two hexadecimal digits stand for one byte. -/
namespace ImageGateway.Percent

/-- The code of `%`. -/
def sign : UInt8 := 0x25

/-- Every `%` starts an escape. -/
def wellFormed : List UInt8 → Bool
  | [] => true
  | b :: rest =>
    if b = sign then
      match rest with
      | high :: low :: rest =>
        (Hex.nibble? high).isSome && (Hex.nibble? low).isSome && wellFormed rest
      | _ => false
    else wellFormed rest

/-- Escapes become their bytes, from left to right and once; a `%` that starts no escape stays. -/
def decode : List UInt8 → List UInt8
  | [] => []
  | b :: rest =>
    if b = sign then
      match rest with
      | high :: low :: tail =>
        match Hex.nibble? high, Hex.nibble? low with
        | some h, some l => UInt8.ofNat (16 * h + l) :: decode tail
        | _, _ => b :: decode (high :: low :: tail)
      | short => b :: short
    else b :: decode rest

end ImageGateway.Percent
