import ImageGateway.Request.Parser

/-! The stages of reading a path, each as an equation: the check of the signature, the options with
the source after them, and the extension of the source. -/
namespace ImageGateway.RequestParser

/-- What the segments after an accepted signature ask for. -/
def accepted (p : RequestParser) (h : Headers) (first : String) (rest : List String) :
    Logged (Except RequestError ImageRequest) :=
  let (options, source) := p.readOptions h first rest
  let result := (p.finish options source).mapError .ofParseError
  ⟨options.warnings.map .warned ++ p.completion result, result⟩

/-- Parsing is the check of the signature and then, if it passes, reading the other segments. -/
theorem parse_of_segments {p : RequestParser} {path signature first : String} {rest : List String}
    (cut : segments path = signature :: first :: rest) (h : Headers) :
    p.parse path h =
      match p.authorize path signature with
      | .error e => ⟨[], .error e⟩
      | .ok () => p.accepted h first rest := by
  simp only [parse, read, cut]
  cases p.authorize path signature with
  | error e => rfl
  | ok u => rfl

theorem parse_unsigned {p : RequestParser} (insecure : p.config.allowInsecure = true)
    {path signature first : String} {rest : List String}
    (cut : segments path = signature :: first :: rest) (h : Headers) :
    p.parse path h = p.accepted h first rest := by
  have authorized : p.authorize path signature = .ok () := by rw [authorize, if_pos insecure]
  rw [parse_of_segments cut, authorized]

theorem accepted_congr {p q : RequestParser} {h : Headers} {first other : String}
    {rest others : List String} (same : p.readOptions h first rest = q.readOptions h other others)
    (finished : p.finish = q.finish) (completed : p.completion = q.completion) :
    p.accepted h first rest = q.accepted h other others := by
  simp only [accepted, finished, completed, same]

theorem finish_sound {p : RequestParser} {options : Outcome Options}
    (sound : options.fault = none) (source : List String) :
    p.finish options source =
      match SourceUrl.decode source p.config.baseUrl with
      | .error e => .error e
      | .ok decoded =>
        let final := p.applyExtension decoded.extension options.state
        match final.fault with
        | some e => .error e
        | none => .ok ⟨decoded.url, final.state⟩ := by
  simp only [finish, sound]
  cases SourceUrl.decode source p.config.baseUrl with
  | error e => rfl
  | ok decoded =>
    cases fault : (p.applyExtension decoded.extension options.state).fault with
    | some e => simp only [bind, Except.bind, fault]; rfl
    | none => simp only [bind, Except.bind, fault]; rfl

/-- A request comes of sound options, a source that is decoded and a format that can be had. -/
theorem finish_ok {p : RequestParser} {options : Outcome Options} {source : List String}
    {request : ImageRequest} (finished : p.finish options source = .ok request) :
    ∃ decoded, options.fault = none ∧ SourceUrl.decode source p.config.baseUrl = .ok decoded ∧
      (p.applyExtension decoded.extension options.state).fault = none ∧
      request = ⟨decoded.url, (p.applyExtension decoded.extension options.state).state⟩ := by
  cases sound : options.fault with
  | some e =>
    simp only [finish, sound] at finished
    contradiction
  | none =>
    rw [finish_sound sound] at finished
    cases read : SourceUrl.decode source p.config.baseUrl with
    | error e =>
      rw [read] at finished
      contradiction
    | ok decoded =>
      rw [read] at finished
      cases extended : (p.applyExtension decoded.extension options.state).fault with
      | some e =>
        simp only [extended] at finished
        contradiction
      | none =>
        simp only [extended] at finished
        exact ⟨decoded, rfl, rfl, extended, (Except.ok.inj finished).symm⟩

/-- A path that is read has a signature that was accepted, and another segment. -/
theorem parse_ok {p : RequestParser} {path : String} {h : Headers} {request : ImageRequest}
    (parsed : (p.parse path h).value = .ok request) :
    ∃ signature first rest, segments path = signature :: first :: rest ∧
      p.authorize path signature = .ok () ∧
      p.finish (p.readOptions h first rest).1 (p.readOptions h first rest).2 = .ok request := by
  have answered : (p.read path h).2 = .ok request := parsed
  unfold read at answered
  split at answered
  next signature first rest cut =>
    refine ⟨signature, first, rest, cut, ?_⟩
    split at answered
    next => contradiction
    next authorized =>
      refine ⟨authorized, ?_⟩
      cases finished : p.finish (p.readOptions h first rest).1 (p.readOptions h first rest).2 with
      | error e =>
        simp only [finished] at answered
        contradiction
      | ok found =>
        simp only [finished] at answered
        exact congrArg _ (Except.ok.inj answered)
  next => contradiction

theorem forbidden_of_authorize {p : RequestParser} {path signature : String}
    {e : RequestError} (refused : p.authorize path signature = .error e) :
    ∃ reason, e = .forbidden reason := by
  unfold authorize at refused
  split at refused
  next => contradiction
  next =>
    split at refused
    next => exact ⟨_, (Except.error.inj refused).symm⟩
    next check configured =>
      cases verdict : check signature ((Text.after? ("/" ++ signature) path).getD path) with
      | error reason =>
        rw [verdict] at refused
        exact ⟨reason, (Except.error.inj refused).symm⟩
      | ok u =>
        rw [verdict] at refused
        contradiction

theorem cause_of_parse {p : RequestParser} {path : String} {h : Headers}
    {kind : ErrorKind} {detail : String}
    (refused : (p.parse path h).value = .error (.invalidUrl kind detail)) :
    ∃ cause : ParseError, kind = cause.kind ∧ detail = cause.detail := by
  have answered : (p.read path h).2 = .error (.invalidUrl kind detail) := refused
  unfold read at answered
  split at answered
  next signature first rest cut =>
    split at answered
    next e authorized =>
      obtain rfl := Except.error.inj answered
      obtain ⟨reason, forbidden⟩ := forbidden_of_authorize authorized
      contradiction
    next authorized =>
      cases finished : p.finish (p.readOptions h first rest).1 (p.readOptions h first rest).2 with
      | error cause =>
        simp only [finished] at answered
        cases answered
        exact ⟨cause, rfl, rfl⟩
      | ok found =>
        simp only [finished] at answered
        contradiction
  next =>
    cases answered
    exact ⟨.invalidPath path, rfl, rfl⟩

end ImageGateway.RequestParser
