import ImageGateway.Digest.Sha256

/-! Keyed message authentication over SHA-256. -/
namespace ImageGateway.Hmac

def blockSize : Nat := 64

/-- The key as one block: a longer key is hashed first, a shorter one filled with zeros. -/
def blockKey (key : List UInt8) : List UInt8 :=
  let short := if key.length > blockSize then Sha256.digest key else key
  short ++ List.replicate (blockSize - short.length) 0

def tag (key message : List UInt8) : List UInt8 :=
  let key := blockKey key
  Sha256.digest (key.map (· ^^^ 0x5c) ++ Sha256.digest (key.map (· ^^^ 0x36) ++ message))

theorem length_tag (key message : List UInt8) : (tag key message).length = 32 :=
  Sha256.length_digest _

end ImageGateway.Hmac
