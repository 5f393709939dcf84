import ImageGateway.Codec.Base64Url
import ImageGateway.Codec.Utf8
import ImageGateway.Config.Basic
import ImageGateway.Digest.Hmac

/-! Signatures of request paths: the first bytes of the message authentication code of a salt and
the path, in base64. The path signed is all that follows the signature's own segment. -/
namespace ImageGateway

structure Signer where
  key : List UInt8
  salt : List UInt8
  /-- The number of bytes of the code that a signature keeps. -/
  size : Nat

inductive SignatureError where
  | encoding
  | size
  | mismatch
  deriving DecidableEq, Repr

def SignatureError.message : SignatureError → String
  | .encoding => "Invalid signature encoding"
  | .size => "Invalid signature size"
  | .mismatch => "Invalid signature"

namespace Signer

def ofConfig (c : Config) : Signer := ⟨c.key, c.salt, c.signatureSize⟩

def tag (s : Signer) (path : String) : List UInt8 := Hmac.tag s.key (s.salt ++ Utf8.encode path)

/-- The signature for a path; no more bytes are kept than the code has. -/
def sign (s : Signer) (path : String) : String :=
  String.ofList (Base64Url.encode ((s.tag path).take s.size))

/-- The signature must hold exactly as many bytes as are kept, at least one, and they must be the
first ones of the code. -/
def check (s : Signer) (signature path : String) : Except SignatureError Unit :=
  match Base64Url.decode? signature.toList with
  | none => .error .encoding
  | some bytes =>
    if bytes.length ≠ s.size then .error .size
    else if !bytes.isEmpty && bytes.isPrefixOf (s.tag path) then .ok ()
    else .error .mismatch

end Signer
end ImageGateway
