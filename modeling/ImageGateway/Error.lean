import ImageGateway.ImageType
import ImageGateway.Text.Pieces
import ImageGateway.Text.Quoted

/-! Why a request is refused. A `ParseError` is the cause found while a request path is read; a
`RequestError` is what the service makes of it: one of two classes that clients can tell apart,
with a detail that is for the log. -/
namespace ImageGateway

inductive ErrorKind where
  | invalidArgument
  | unknownOption
  | unknownPreset
  | emptyUrl
  | multipleFormats
  | unsupportedFormat
  | invalidPath
  deriving DecidableEq, Repr

def ErrorKind.name : ErrorKind → String
  | .invalidArgument => "invalid_argument"
  | .unknownOption => "unknown_option"
  | .unknownPreset => "unknown_preset"
  | .emptyUrl => "empty_url"
  | .multipleFormats => "multiple_formats"
  | .unsupportedFormat => "unsupported_format"
  | .invalidPath => "invalid_path"

inductive ParseError where
  /-- An option got the wrong number of arguments. -/
  | arguments (option : String) (args : List String)
  /-- A text is no value of what it stands for. -/
  | value (what text : String)
  | unknownOption (name : String)
  | unknownPreset (name : String)
  /-- No path segment is left for the source URL. -/
  | missingUrl
  /-- The segments for the source URL hold no text for it. -/
  | emptyUrl
  | multipleFormats (encoded : String)
  | unsupportedFormat (format : ImageType)
  | invalidPath (path : String)
  /-- The positional dialect needs more segments. -/
  | fewSegments (segments : List String)
  deriving DecidableEq, Repr

namespace ParseError

def kind : ParseError → ErrorKind
  | .arguments _ _ | .value _ _ => .invalidArgument
  | .unknownOption _ => .unknownOption
  | .unknownPreset _ => .unknownPreset
  | .missingUrl | .emptyUrl => .emptyUrl
  | .multipleFormats _ => .multipleFormats
  | .unsupportedFormat _ => .unsupportedFormat
  | .invalidPath _ | .fewSegments _ => .invalidPath

def detail : ParseError → String
  | .arguments option args => "Invalid " ++ option ++ " arguments: " ++ Text.quotedList args
  | .value what text => "Invalid " ++ what ++ ": " ++ text
  | .unknownOption name => "Unknown processing option: " ++ name
  | .unknownPreset name => "Unknown preset: " ++ name
  | .missingUrl => "Image URL is missing"
  | .emptyUrl => "Image URL is empty"
  | .multipleFormats encoded => "Multiple formats are specified: " ++ encoded
  | .unsupportedFormat format => "Resulting image format is not supported: " ++ format.name
  | .invalidPath path => "Invalid path: " ++ path
  | .fewSegments segments => "Invalid basic URL format arguments: " ++ Text.join '/' segments

end ParseError

inductive Level where
  | debug
  | info
  | warn
  | error
  deriving DecidableEq, Repr

inductive RequestError where
  | forbidden (reason : String)
  | invalidUrl (kind : ErrorKind) (detail : String)
  deriving DecidableEq, Repr

namespace RequestError

def ofParseError (e : ParseError) : RequestError := .invalidUrl e.kind e.detail

def typeName : RequestError → String
  | .forbidden _ => "Forbidden"
  | .invalidUrl kind _ => kind.name

def detail : RequestError → String
  | .forbidden reason => reason
  | .invalidUrl _ detail => detail

/-- The cause must not reach the client, whatever the environment. -/
def isSensitive : RequestError → Bool
  | .forbidden _ => true
  | .invalidUrl _ _ => false

def status : RequestError → Nat
  | .forbidden _ => 403
  | .invalidUrl _ _ => 404

def code : RequestError → String
  | .forbidden _ => "FORBIDDEN"
  | .invalidUrl _ _ => "INVALID_URL"

/-- The fixed text that clients see. -/
def clientMessage : RequestError → String
  | .forbidden _ => "Forbidden"
  | .invalidUrl _ _ => "Invalid URL"

def level : RequestError → Level
  | .forbidden _ => .warn
  | .invalidUrl _ _ => .debug

def message (e : RequestError) : String := e.clientMessage ++ ": " ++ e.detail

end RequestError
end ImageGateway
