import ImageGateway.Preset.Validation
import ImageGateway.Request.Parser
import ImageGateway.Service.Http
import ImageGateway.Signature

/-! The service: it starts only with a valid configuration and presets that can be applied, and
answers each request on its own. Image requests are answered with their description. -/
namespace ImageGateway

structure Service where
  parser : RequestParser

inductive StartupError where
  | config (e : ConfigError)
  | preset (e : InvalidPreset)
  deriving DecidableEq, Repr

def StartupError.message : StartupError → String
  | .config e => e.message
  | .preset e => e.message

def Signer.pathCheck (s : Signer) : PathCheck := fun signature path =>
  (s.check signature path).mapError SignatureError.message

/-- Signatures are checked unless the configuration says otherwise. -/
def RequestParser.ofConfig (c : Config) : RequestParser where
  config := c
  check := if c.allowInsecure then none else some (Signer.ofConfig c).pathCheck

inductive Route where
  | health
  | image
  | missing
  deriving DecidableEq, Repr

def Route.ofPath (path : String) : Route :=
  if path = "/health" then .health
  else
    match path.toList with
    | '/' :: _ :: _ => .image
    | _ => .missing

namespace Service

def start (c : Config) : Logged (Except StartupError Service) :=
  match c.validate with
  | .error e => ⟨[], .error (.config e)⟩
  | .ok () =>
    let parser := RequestParser.ofConfig c
    let (warnings, result) := parser.context.validatePresets c.quality
    ⟨warnings.map .warned, match result with
      | .error e => .error (.preset e)
      | .ok () => .ok ⟨parser⟩⟩

def serveImage (s : Service) (requestId path : String) (h : Headers) : Logged HttpResponse :=
  let parsed := s.parser.parse path h
  let json := some "application/json"
  match parsed.value with
  | .ok request =>
    ⟨parsed.events ++ [.processing requestId request.sourceUrl],
      ⟨200, json, none, requestId, (request.description s.parser.template).text⟩⟩
  | .error e =>
    ⟨parsed.events ++ [.rejected requestId e],
      ⟨e.status, json, none, requestId, (e.body s.parser.config.isProduction).text⟩⟩

def liveness (requestId : String) : HttpResponse :=
  ⟨200, some "application/json", none, requestId,
    (Json.object [("status", .string "alive")]).text⟩

/-- Every response carries the identifier of its request, which is the client's own or a fresh
one. A request for the head alone is answered in full and loses the body. -/
def respond (s : Service) (freshId : String) (r : HttpRequest) : Logged HttpResponse :=
  let requestId := (r.header? "x-request-id").getD freshId
  let bare (response : HttpResponse) : HttpResponse :=
    if r.method = "HEAD" then { response with body := "" } else response
  match Route.ofPath r.path with
  | .missing => ⟨[], ⟨404, none, none, requestId, ""⟩⟩
  | route =>
    if r.method ≠ "GET" && r.method ≠ "HEAD" then
      ⟨[], ⟨405, none, some "GET,HEAD", requestId, ""⟩⟩
    else
      match route with
      | .image =>
        let answer := s.serveImage requestId r.path r.processingHeaders
        { answer with value := bare answer.value }
      | _ => ⟨[], bare (liveness requestId)⟩

end Service
end ImageGateway
