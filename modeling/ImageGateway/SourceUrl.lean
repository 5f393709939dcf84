import ImageGateway.Codec.Base64Url
import ImageGateway.Codec.Percent
import ImageGateway.Codec.Utf8
import ImageGateway.Error

/-! Source URLs. The last segments of a request path carry the URL of the source image, either in
base64 over any number of segments, with an extension after a dot, or after the segment `plain` in
percent escapes, with an extension after an at sign. -/
namespace ImageGateway

structure SourceUrl where
  url : String
  /-- The output format asked for by extension; an empty extension asks for none. -/
  extension : Option String
  deriving DecidableEq, Repr

namespace SourceUrl

/-- The text before and after the delimiter, which may stand in it once. -/
def splitExtension (delimiter : Char) (encoded : String) :
    Except ParseError (String × Option String) :=
  match Text.split delimiter encoded with
  | [] => .error .emptyUrl
  | payload :: rest =>
    if payload.isEmpty then .error .emptyUrl
    else
      match rest with
      | [] => .ok (payload, none)
      | [extension] => .ok (payload, if extension.isEmpty then none else some extension)
      | _ => .error (.multipleFormats encoded)

def isPadding (c : Char) : Bool := c = '='

/-- The text that a base64 payload stands for; padding at its end does not count. -/
def fromBase64? (payload : String) : Option String := do
  let bytes ← Base64Url.decode? (Text.stripEnd isPadding payload).toList
  Utf8.decode? bytes

def fromEscapes? (payload : String) : Option String :=
  let bytes := Utf8.encode payload
  if Percent.wellFormed bytes then Utf8.decode? (Percent.decode bytes) else none

def decodeWith (delimiter : Char) (payloadText? : String → Option String)
    (encoded base : String) : Except ParseError SourceUrl := do
  let (payload, extension) ← splitExtension delimiter encoded
  match payloadText? payload with
  | some text => .ok ⟨base ++ text, extension⟩
  | none => .error (.value "url encoding" encoded)

def decodeBase64 (segments : List String) (base : String) : Except ParseError SourceUrl :=
  decodeWith '.' fromBase64? (String.join segments) base

def decodePlain (segments : List String) (base : String) : Except ParseError SourceUrl :=
  decodeWith '@' fromEscapes? (Text.join '/' segments) base

/-- The segment `plain` alone is base64. -/
def decode (segments : List String) (base : String) : Except ParseError SourceUrl :=
  match segments with
  | [] => .error .missingUrl
  | first :: rest =>
    if first = "plain" && !rest.isEmpty then decodePlain rest base else decodeBase64 segments base

end SourceUrl
end ImageGateway
