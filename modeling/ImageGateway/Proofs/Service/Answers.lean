import ImageGateway.Proofs.Service.Start

/-! What clients can tell apart. An image request is answered in one of three ways, and a refusal
shows its class; the cause is shown for an invalid URL outside production, and nowhere else. -/
namespace ImageGateway

namespace RequestError

theorem text_forbidden (reason : String) (production : Bool) :
    ((forbidden reason).body production).text =
      "\x7b\"error\":\"Forbidden\",\"code\":\"FORBIDDEN\"\x7d" := by
  have hidden : (forbidden reason).body production =
      .object [("error", .string "Forbidden"), ("code", .string "FORBIDDEN")] := by
    cases production <;> rfl
  rw [hidden]
  decide +kernel

theorem text_production (kind : ErrorKind) (detail : String) :
    ((invalidUrl kind detail).body true).text =
      "\x7b\"error\":\"Invalid URL\",\"code\":\"INVALID_URL\"\x7d" := by
  have hidden : (invalidUrl kind detail).body true =
      .object [("error", .string "Invalid URL"), ("code", .string "INVALID_URL")] := rfl
  rw [hidden]
  decide +kernel

end RequestError

/-- The service that was started with a configuration is asked for an image. -/
structure ImageExchange where
  config : Config
  service : Service
  started : (Service.start config).value = .ok service
  /-- The identifier for a request that brings none. -/
  freshId : String
  request : HttpRequest
  get : request.method = "GET"
  image : Route.ofPath request.path = .image

namespace ImageExchange

variable (x : ImageExchange)

def parsed : Except RequestError ImageRequest :=
  (x.service.parser.parse x.request.path x.request.processingHeaders).value

def answer : HttpResponse := (x.service.respond x.freshId x.request).value

def InProduction : Prop :=
  Text.lowerAscii x.config.environment = "production" ∨
    Text.lowerAscii x.config.environment = "prod"

theorem isProduction_iff : x.service.parser.config.isProduction = true ↔ x.InProduction := by
  rw [(Service.start_ok x.started).1]
  exact Bool.or_eq_true_iff.trans (or_congr decide_eq_true_iff decide_eq_true_iff)

def shown (status : Nat) (body : String) : HttpResponse :=
  ⟨status, some "application/json", none, (x.request.header? "x-request-id").getD x.freshId, body⟩

theorem answer_eq :
    x.answer =
      match x.parsed with
      | .ok request => x.shown 200 (request.description x.service.parser.template).text
      | .error e => x.shown e.status (e.body x.service.parser.config.isProduction).text := by
  have method : (x.request.method ≠ "GET" && x.request.method ≠ "HEAD") = false := by simp [x.get]
  have whole : ¬x.request.method = "HEAD" := by simp [x.get]
  rw [answer, parsed, Service.respond, x.image]
  simp only [method, whole, if_false, Bool.false_eq_true, Service.serveImage]
  cases (x.service.parser.parse x.request.path x.request.processingHeaders).value with
  | ok request => rfl
  | error e => rfl

variable {x}

theorem answer_ok {request : ImageRequest} (parsed : x.parsed = .ok request) :
    x.answer = x.shown 200 (request.description x.service.parser.template).text := by
  rw [answer_eq, parsed]

theorem answer_forbidden {reason : String} (parsed : x.parsed = .error (.forbidden reason)) :
    x.answer = x.shown 403 "\x7b\"error\":\"Forbidden\",\"code\":\"FORBIDDEN\"\x7d" := by
  simp only [answer_eq, parsed, RequestError.text_forbidden]
  rfl

theorem answer_production {kind : ErrorKind} {detail : String} (production : x.InProduction)
    (parsed : x.parsed = .error (.invalidUrl kind detail)) :
    x.answer = x.shown 404 "\x7b\"error\":\"Invalid URL\",\"code\":\"INVALID_URL\"\x7d" := by
  simp only [answer_eq, parsed, x.isProduction_iff.mpr production, RequestError.text_production]
  rfl

theorem answer_development {kind : ErrorKind} {detail : String} (development : ¬x.InProduction)
    (parsed : x.parsed = .error (.invalidUrl kind detail)) :
    x.answer = x.shown 404 (Json.object [("error", .string "Invalid URL"),
      ("details", .string detail), ("error_type", .string kind.name),
      ("code", .string "INVALID_URL")]).text := by
  rw [← isProduction_iff, Bool.not_eq_true] at development
  simp only [answer_eq, parsed, development]
  rfl

theorem answer_invalidUrl_status {kind : ErrorKind} {detail : String}
    (parsed : x.parsed = .error (.invalidUrl kind detail)) : x.answer.status = 404 := by
  simp only [answer_eq, parsed]
  rfl

theorem status_iff (x : ImageExchange) :
    (x.answer.status = 200 ↔ ∃ request, x.parsed = .ok request) ∧
      (x.answer.status = 403 ↔ ∃ reason, x.parsed = .error (.forbidden reason)) ∧
      (x.answer.status = 404 ↔ ∃ kind detail, x.parsed = .error (.invalidUrl kind detail)) := by
  cases parsed : x.parsed with
  | ok request => simp [answer_ok parsed, shown]
  | error e =>
    cases e with
    | forbidden reason => simp [answer_forbidden parsed, shown]
    | invalidUrl kind detail => simp [answer_invalidUrl_status parsed]

/-- The status of an answer is the class of what was parsed. A refusal for the signature has one
body, and so has an invalid URL in production; elsewhere an invalid URL shows its cause besides.
Two refusals that hide their causes therefore differ in nothing but the identifier of the request,
whatever was asked for and of which service. -/
theorem answer_conceals :
    (∀ x : ImageExchange,
      (x.answer.status = 200 ↔ ∃ request, x.parsed = .ok request) ∧
      (x.answer.status = 403 ↔ ∃ reason, x.parsed = .error (.forbidden reason)) ∧
      (x.answer.status = 404 ↔ ∃ kind detail, x.parsed = .error (.invalidUrl kind detail)) ∧
      (x.answer.status = 403 →
        x.answer.body = "\x7b\"error\":\"Forbidden\",\"code\":\"FORBIDDEN\"\x7d") ∧
      (x.answer.status = 404 → x.InProduction →
        x.answer.body = "\x7b\"error\":\"Invalid URL\",\"code\":\"INVALID_URL\"\x7d") ∧
      ∀ kind detail, x.parsed = .error (.invalidUrl kind detail) →
        (∃ cause : ParseError, kind = cause.kind ∧ detail = cause.detail) ∧
        (¬x.InProduction → x.answer.body = (Json.object [("error", .string "Invalid URL"),
          ("details", .string detail), ("error_type", .string kind.name),
          ("code", .string "INVALID_URL")]).text)) ∧
    ∀ x y : ImageExchange, x.answer.status = y.answer.status →
      x.answer.status = 403 ∨ x.answer.status = 404 ∧ x.InProduction ∧ y.InProduction →
        { x.answer with requestId := y.answer.requestId } = y.answer := by
  refine ⟨fun x => ?single, fun x y same hidden => ?pair⟩
  case single =>
    obtain ⟨accepted, forbidden, invalid⟩ := x.status_iff
    refine ⟨accepted, forbidden, invalid, fun status => ?_, fun status production => ?_,
      fun kind detail parsed => ⟨RequestParser.cause_of_parse parsed, fun development => ?_⟩⟩
    · obtain ⟨reason, parsed⟩ := forbidden.mp status
      rw [answer_forbidden parsed, shown]
    · obtain ⟨kind, detail, parsed⟩ := invalid.mp status
      rw [answer_production production parsed, shown]
    · rw [answer_development development parsed, shown]
  case pair =>
    rcases hidden with status | ⟨status, left, right⟩
    · obtain ⟨reason, first⟩ := x.status_iff.2.1.mp status
      obtain ⟨other, second⟩ := y.status_iff.2.1.mp (same ▸ status)
      rw [answer_forbidden first, answer_forbidden second]
      rfl
    · obtain ⟨kind, detail, first⟩ := x.status_iff.2.2.mp status
      obtain ⟨other, text, second⟩ := y.status_iff.2.2.mp (same ▸ status)
      rw [answer_production left first, answer_production right second]
      rfl

/-- A malformed signature and a short one, in and out of production, are answered alike, and so are
two paths that are too short in production. -/
theorem answer_conceals_signature :
    let ask (c : Config) (started : (Service.start c).value = .ok ⟨.ofConfig c⟩) (path : String)
        (image : Route.ofPath (HttpRequest.mk "GET" path []).path = .image) : ImageExchange :=
      ⟨c, ⟨.ofConfig c⟩, started, "1", ⟨"GET", path, []⟩, rfl, image⟩
    let secure (environment : String) : Config := { environment, key := [1], salt := [2] }
    let insecure : Config := { environment := "Prod", allowInsecure := true }
    let w := ask (secure "development") (by cbv) "/!/YQ" (by cbv)
    let x := ask (secure "Prod") (by cbv) "/AA/w:1/YQ" (by cbv)
    let y := ask insecure (by cbv) "/-/fit/1" (by cbv)
    let z := ask insecure (by cbv) "/-/fill" (by cbv)
    w.parsed = .error (.forbidden "Invalid signature encoding") ∧
      x.parsed = .error (.forbidden "Invalid signature size") ∧
      { w.answer with requestId := x.answer.requestId } = x.answer ∧
      y.parsed = .error (.ofParseError (.fewSegments ["fit", "1"])) ∧
      z.parsed = .error (.ofParseError (.fewSegments ["fill"])) ∧
      { y.answer with requestId := z.answer.requestId } = z.answer := by
  intro ask secure insecure w x y z
  have encoding : w.parsed = .error (.forbidden "Invalid signature encoding") := by cbv
  have size : x.parsed = .error (.forbidden "Invalid signature size") := by cbv
  have basic : y.parsed = .error (.ofParseError (.fewSegments ["fit", "1"])) := by
    have cut : RequestParser.segments "/-/fit/1" = ["-", "fit", "1"] := by cbv
    have path : y.request.path = "/-/fit/1" := by cbv
    rw [parsed, path, RequestParser.parse_unsigned rfl cut]
    rfl
  have short : z.parsed = .error (.ofParseError (.fewSegments ["fill"])) := by
    have cut : RequestParser.segments "/-/fill" = ["-", "fill"] := by cbv
    have path : z.request.path = "/-/fill" := by cbv
    rw [parsed, path, RequestParser.parse_unsigned rfl cut]
    rfl
  obtain ⟨single, pair⟩ := answer_conceals
  have first := (single w).2.1.mpr ⟨_, encoding⟩
  have second := (single x).2.1.mpr ⟨_, size⟩
  have third := (single y).2.2.1.mpr ⟨_, _, basic⟩
  have fourth := (single z).2.2.1.mpr ⟨_, _, short⟩
  have production : Text.lowerAscii insecure.environment = "prod" := by cbv
  exact ⟨encoding, size, pair w x (first.trans second.symm) (.inl first), basic, short,
    pair y z (third.trans fourth.symm) (.inr ⟨third, .inr production, .inr production⟩)⟩

end ImageExchange
end ImageGateway
