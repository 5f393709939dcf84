import ImageGateway.Options.Diff
import ImageGateway.Request.Defaults
import ImageGateway.SourceUrl

/-! Request paths, `/signature/options/source`. After the signature a path is written in one of
three dialects. When only presets are allowed, one segment names them. Otherwise, a first segment
that is a resizing type begins four more settings by position; and any other one begins options by
name. What remains is the source URL, whose extension overrides the format. -/
namespace ImageGateway

structure ImageRequest where
  sourceUrl : String
  options : Options
  deriving DecidableEq, Repr

def ImageRequest.document (r : ImageRequest) : Json :=
  .object [("source_url", .string r.sourceUrl), ("options", r.options.toJson .declared)]

/-- Names only what differs from the template. -/
def ImageRequest.description (template : Options) (r : ImageRequest) : Json :=
  .object [("source_url", .string r.sourceUrl),
    ("options", (OptionsDiff.between template r.options).toJson)]

/-- Decides on a signature and the path that it signs; a refusal gives its reason. -/
abbrev PathCheck := String → String → Except String Unit

structure RequestParser where
  config : Config
  canSave : ImageType → Bool := ImageType.canEncode
  check : Option PathCheck := none

namespace RequestParser

def template (p : RequestParser) : Options := .baseline p.config.quality

def context (p : RequestParser) : Context := ⟨p.config.presets, p.canSave⟩

def diff (p : RequestParser) (o : Options) : OptionsDiff := .between p.template o

def defaults (p : RequestParser) (h : Headers) : Outcome Options :=
  Options.defaults p.context p.template p.config h

def segments (path : String) : List String :=
  Text.split '/' ((Text.after? "/" path).getD path)

/-- The signature is checked against the path without it. -/
def authorize (p : RequestParser) (path signature : String) : Except RequestError Unit :=
  if p.config.allowInsecure then .ok () else
  match p.check with
  | none => .error (.forbidden "Signature validation is not configured")
  | some check =>
    (check signature ((Text.after? ("/" ++ signature) path).getD path)).mapError .forbidden

/-- Presets by name, with colons between them. -/
def presetDialect (p : RequestParser) (h : Headers) (names : String) : Outcome Options :=
  (p.defaults h).andThen fun o => o.expand p.context (Text.split ':' names)

def namedDialect (p : RequestParser) (h : Headers) (options : List UrlOption) : Outcome Options :=
  (p.defaults h).andThen fun o => o.applyAll p.context options

/-- Settings by position; the source URL needs a segment too. -/
def positionalDialect (p : RequestParser) (h : Headers) (type : ResizeType)
    (segments : List String) : Outcome Options × List String :=
  match segments with
  | width :: height :: gravity :: enlarge :: source :: rest =>
    let reading : Reading Edit := .all [
      .edit (.resizeType type),
      Setting.readWidth width,
      Setting.readHeight height,
      (Gravity.read (Text.split ':' gravity)).map .gravity,
      Setting.readEnlarge enlarge]
    ((p.defaults h).andThen reading.applyTo, source :: rest)
  | _ => ({ state := p.template, fault := some (.fewSegments (type.name :: segments)) }, [])

/-- The options that the segments after the signature ask for, and the source segments. -/
def readOptions (p : RequestParser) (h : Headers) (first : String) (rest : List String) :
    Outcome Options × List String :=
  if p.config.onlyPresets then (p.presetDialect h first, rest)
  else
    match ResizeType.ofName? first with
    | some type => p.positionalDialect h type rest
    | none =>
      let (options, source) := UrlOption.takeFrom (first :: rest)
      (p.namedDialect h options, source)

def applyExtension (p : RequestParser) (extension : Option String) (o : Options) :
    Outcome Options :=
  match extension with
  | none => { state := o }
  | some extension => (Setting.readFormat p.canSave extension).applyTo o

/-- The source is decoded only when the options are sound. -/
def finish (p : RequestParser) (options : Outcome Options) (source : List String) :
    Except ParseError ImageRequest := do
  if let some e := options.fault then throw e
  let decoded ← SourceUrl.decode source p.config.baseUrl
  let final := p.applyExtension decoded.extension options.state
  if let some e := final.fault then throw e
  return ⟨decoded.url, final.state⟩

/-- What a path asks for, with the warnings on the way. It is read only after its signature is
accepted. -/
def read (p : RequestParser) (path : String) (h : Headers) :
    List Warning × Except RequestError ImageRequest :=
  match segments path with
  | signature :: first :: rest =>
    match p.authorize path signature with
    | .error e => ([], .error e)
    | .ok () =>
      let (options, source) := p.readOptions h first rest
      (options.warnings, (p.finish options source).mapError .ofParseError)
  | _ => ([], .error (.ofParseError (.invalidPath path)))

/-- The event that ends a successful reading. -/
def completion (p : RequestParser) : Except RequestError ImageRequest → List Event
  | .ok request => [.parsed request.sourceUrl (p.diff request.options).text]
  | .error _ => []

def parse (p : RequestParser) (path : String) (h : Headers) :
    Logged (Except RequestError ImageRequest) :=
  let (warnings, result) := p.read path h
  ⟨warnings.map .warned ++ p.completion result, result⟩

end RequestParser
end ImageGateway
