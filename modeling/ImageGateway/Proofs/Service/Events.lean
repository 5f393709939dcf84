import Mathlib
import ImageGateway.Proofs.Preset.Warnings
import ImageGateway.Proofs.Request.Directives
import ImageGateway.Service.Basic

/-! What an image request leaves in the log: the warnings of the options, and then what became of the
request. Nothing is warned of before a signature is accepted, since nothing behind it is read. -/
namespace ImageGateway

structure LogLine where
  level : Level
  message : String
  fields : List (String × String)
  deriving DecidableEq, Repr

def Event.line (e : Event) : LogLine := ⟨e.level, e.message, e.fields⟩

/-- The line warns, and with reason: a text is no truth value, or one of the presets was named
again. -/
inductive LogLine.Cautions (presets : List String) : LogLine → Prop where
  | notBoolean {text : String} (untrue : Argument.boolean? text = none) :
    Cautions presets ⟨.warn, "Not a valid boolean value, treated as false", [("value", text)]⟩
  | repeatedPreset {name : String} (used : name ∈ presets) :
    Cautions presets ⟨.warn, "Recursive preset usage is detected", [("preset", name)]⟩

theorem Warning.Warranted.line {w : Warning} {used presets : List String}
    (warranted : w.Warranted used) (known : ∀ name ∈ used, name ∈ presets) :
    (Event.warned w).line.Cautions presets := by
  cases w with
  | notBoolean text => exact .notBoolean warranted
  | repeatedPreset name => exact .repeatedPreset (known name warranted)

theorem Event.cautions_warned {warnings : List Warning} {used presets : List String}
    (warranted : ∀ w ∈ warnings, w.Warranted used) (known : ∀ name ∈ used, name ∈ presets) :
    ∀ line ∈ (warnings.map Event.warned).map Event.line, line.Cautions presets := by
  intro line member
  obtain ⟨e, listed, rfl⟩ := List.mem_map.mp member
  obtain ⟨w, given, rfl⟩ := List.mem_map.mp listed
  exact (warranted w given).line known

namespace RequestParser

variable {p : RequestParser}

theorem warranted_readOptions (p : RequestParser) (h : Headers) (first : String)
    (rest : List String) :
    ∀ w ∈ (p.readOptions h first rest).1.warnings,
      w.Warranted (p.readOptions h first rest).1.state.usedPresets := by
  cases asked : p.tasks? first rest with
  | none =>
    rw [readOptions_of_none asked]
    exact List.forall_mem_nil _
  | some found =>
    rw [readOptions_of_tasks asked]
    exact Task.warranted_run p.context (p.start h) _

theorem known_readOptions (p : RequestParser) (h : Headers) (first : String)
    (rest : List String) :
    ∀ name ∈ (p.readOptions h first rest).1.state.usedPresets, name ∈ p.config.presets.names := by
  cases asked : p.tasks? first rest with
  | none =>
    rw [readOptions_of_none asked]
    exact List.forall_mem_nil _
  | some found =>
    rw [readOptions_of_tasks asked]
    obtain ⟨expanded, run⟩ :=
      Task.run_expansions p.context (p.start h) (p.defaultTasks ++ found.1)
    rw [run.appended, p.usedPresets_start h, List.nil_append]
    exact run.known

theorem usedPresets_finish {options : Outcome Options} {source : List String}
    {request : ImageRequest} (finished : p.finish options source = .ok request) :
    request.options.usedPresets = options.state.usedPresets := by
  obtain ⟨decoded, -, -, -, rfl⟩ := finish_ok finished
  exact p.usedPresets_applyExtension decoded.extension options.state

theorem parse_short {path : String} (p : RequestParser) (h : Headers)
    (short : ¬∃ signature first rest, segments path = signature :: first :: rest) :
    p.parse path h = ⟨[], .error (.ofParseError (.invalidPath path))⟩ := by
  have answered : p.read path h = ([], .error (.ofParseError (.invalidPath path))) := by
    unfold read
    split
    next signature first rest cut => exact absurd ⟨signature, first, rest, cut⟩ short
    next => rfl
  rw [parse, answered]
  rfl

end RequestParser

namespace Service

/-- What an image request leaves in the log, by what becomes of it and the status that says so. -/
inductive Recorded (s : Service) (requestId path : String) (h : Headers) :
    Nat → List LogLine → Prop where
  | accepted {request : ImageRequest} {warnings : List LogLine}
      (parsed : (s.parser.parse path h).value = .ok request)
      (cautions : ∀ line ∈ warnings, line.Cautions request.options.usedPresets) :
      Recorded s requestId path h 200 (warnings ++ [
        ⟨.debug, "Parsed image request", [("source_url", request.sourceUrl),
          ("options", (s.parser.diff request.options).text)]⟩,
        ⟨.info, "Processing image request", [("request_id", requestId),
          ("source_url", request.sourceUrl)]⟩])
  | invalid {kind : ErrorKind} {detail : String} {warnings : List LogLine}
      (parsed : (s.parser.parse path h).value = .error (.invalidUrl kind detail))
      (cautions : ∀ line ∈ warnings, line.Cautions s.parser.config.presets.names) :
      Recorded s requestId path h 404 (warnings ++ [
        ⟨.debug, "Rejected image request", [("request_id", requestId),
          ("error", "Invalid URL: " ++ detail), ("error_type", kind.name)]⟩])
  | forbidden {reason : String}
      (parsed : (s.parser.parse path h).value = .error (.forbidden reason))
      -- No option, preset or header was interpreted: other ones make no difference.
      (unread : ∀ (q : RequestParser) (other : Headers), q.authorize = s.parser.authorize →
        q.parse path other = ⟨[], .error (.forbidden reason)⟩) :
      Recorded s requestId path h 403 [
        ⟨.warn, "Rejected image request", [("request_id", requestId),
          ("error", "Forbidden: " ++ reason), ("error_type", "Forbidden")]⟩]

theorem serveImage_recorded (s : Service) (requestId path : String) (h : Headers) :
    s.Recorded requestId path h (s.serveImage requestId path h).value.status
      ((s.serveImage requestId path h).events.map Event.line) := by
  by_cases cut : ∃ signature first rest, RequestParser.segments path = signature :: first :: rest
  · obtain ⟨signature, first, rest, cut⟩ := cut
    have parse (q : RequestParser) (h : Headers) := q.parse_of_segments cut h
    cases authorized : s.parser.authorize path signature with
    | error e =>
      obtain ⟨reason, rfl⟩ := RequestParser.forbidden_of_authorize authorized
      have unread (q : RequestParser) (other : Headers) (same : q.authorize = s.parser.authorize) :
          q.parse path other = ⟨[], .error (.forbidden reason)⟩ := by
        rw [parse, same, authorized]
      have parsed := unread s.parser h rfl
      simp only [serveImage, parsed]
      exact .forbidden (congrArg Logged.value parsed) unread
    | ok u =>
      have parsed := parse s.parser h
      rw [authorized] at parsed
      simp only [RequestParser.accepted] at parsed
      have warranted := s.parser.warranted_readOptions h first rest
      cases finished : s.parser.finish (s.parser.readOptions h first rest).1
          (s.parser.readOptions h first rest).2 with
      | error cause =>
        simp only [finished] at parsed
        simp only [serveImage, parsed, Except.mapError, RequestParser.completion, List.append_nil,
          List.map_append]
        exact .invalid (congrArg Logged.value parsed)
          (Event.cautions_warned warranted (s.parser.known_readOptions h first rest))
      | ok request =>
        simp only [finished] at parsed
        simp only [serveImage, parsed, Except.mapError, RequestParser.completion, List.append_assoc,
          List.map_append]
        have used := RequestParser.usedPresets_finish finished
        exact .accepted (congrArg Logged.value parsed)
          (Event.cautions_warned warranted fun name member => used ▸ member)
  · have parsed := s.parser.parse_short h cut
    simp only [serveImage, parsed]
    exact .invalid (congrArg Logged.value parsed) (List.forall_mem_nil _)

/-- A request for an image is answered by the handler, but for the body of a request for the head. -/
theorem respond_image (s : Service) (freshId : String) {r : HttpRequest}
    (image : Route.ofPath r.path = .image) (method : r.method = "GET" ∨ r.method = "HEAD") :
    ∃ body, s.respond freshId r =
      let served := s.serveImage ((r.header? "x-request-id").getD freshId) r.path
        r.processingHeaders
      ⟨served.events, { served.value with body := body }⟩ := by
  have allowed : (r.method ≠ "GET" && r.method ≠ "HEAD") = false := by
    rcases method with get | head
    · simp [get]
    · simp [head]
  rw [respond, image]
  simp only [allowed, Bool.false_eq_true, if_false]
  generalize s.serveImage ((r.header? "x-request-id").getD freshId) r.path r.processingHeaders =
    served
  split
  next => exact ⟨"", rfl⟩
  next => exact ⟨served.value.body, rfl⟩

theorem requestId_serveImage (s : Service) (requestId path : String) (h : Headers) :
    (s.serveImage requestId path h).value.requestId = requestId := by
  simp only [serveImage]
  split <;> rfl

/-- Whatever the service and the request for an image are, the log has the warnings first, and then
one account of the request: two lines when it was accepted, one when it was not. -/
theorem respond_recorded (s : Service) (freshId : String) (r : HttpRequest)
    (image : Route.ofPath r.path = .image) (method : r.method = "GET" ∨ r.method = "HEAD") :
    let answer := s.respond freshId r
    answer.value.requestId = (r.header? "x-request-id").getD freshId ∧
      s.Recorded answer.value.requestId r.path r.processingHeaders answer.value.status
        (answer.events.map Event.line) := by
  obtain ⟨body, answered⟩ := s.respond_image freshId image method
  have identified := s.requestId_serveImage ((r.header? "x-request-id").getD freshId) r.path
    r.processingHeaders
  have recorded := s.serveImage_recorded ((r.header? "x-request-id").getD freshId) r.path
    r.processingHeaders
  simp only [answered, identified]
  exact ⟨trivial, recorded⟩

/-- Behind a malformed signature not even a wrong truth value is warned of. -/
theorem respond_recorded_signature :
    let s : Service := ⟨.ofConfig { key := [1], salt := [2] }⟩
    let r : HttpRequest := ⟨"HEAD", "/!/el:maybe/YQ", [("X-Request-Id", "7")]⟩
    let answer := s.respond "1" r
    (Service.start { key := [1], salt := [2] }).value = .ok s ∧
      Route.ofPath r.path = .image ∧ (r.method = "GET" ∨ r.method = "HEAD") ∧
      answer.value.requestId = "7" ∧
      answer.events.map Event.line = [⟨.warn, "Rejected image request", [("request_id", "7"),
        ("error", "Forbidden: Invalid signature encoding"), ("error_type", "Forbidden")]⟩] ∧
      s.Recorded answer.value.requestId r.path r.processingHeaders answer.value.status
        (answer.events.map Event.line) := by
  intro s r answer
  have started : (Service.start { key := [1], salt := [2] }).value = .ok s := by cbv
  have image : Route.ofPath r.path = .image := by cbv
  have method : r.method = "GET" ∨ r.method = "HEAD" := .inr rfl
  have brought : (r.header? "x-request-id").getD "1" = "7" := by cbv
  have cut : RequestParser.segments r.path = ["!", "el:maybe", "YQ"] := by cbv
  have refused : s.parser.authorize r.path "!" =
      .error (.forbidden "Invalid signature encoding") := by cbv
  have parsed : s.parser.parse r.path r.processingHeaders =
      ⟨[], .error (.forbidden "Invalid signature encoding")⟩ := by
    rw [RequestParser.parse_of_segments cut, refused]
  have told : answer.events = [.rejected "7" (.forbidden "Invalid signature encoding")] := by
    obtain ⟨body, answered⟩ := s.respond_image "1" image method
    simp only [answer, answered, brought, serveImage, parsed, List.nil_append]
  obtain ⟨identified, recorded⟩ := s.respond_recorded "1" r image method
  refine ⟨started, image, method, identified.trans brought, ?_, recorded⟩
  rw [told]
  rfl

end Service
end ImageGateway
