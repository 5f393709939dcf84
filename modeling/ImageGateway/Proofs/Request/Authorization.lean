import ImageGateway.Proofs.Request.Stages
import ImageGateway.Proofs.Text.Pieces

/-! What the signature decides. The segment in front is cut off a path twice, once as the first of
the segments and once as a leading text; both cuts leave what was signed, and nothing else is read. -/
namespace ImageGateway.RequestParser

def insecure (p : RequestParser) : RequestParser :=
  { p with config := { p.config with allowInsecure := true } }

theorem insecure_accepted (p : RequestParser) : p.insecure.accepted = p.accepted := rfl

theorem insecure_parse {p : RequestParser} {path signature first : String} {rest : List String}
    (cut : segments path = signature :: first :: rest) (h : Headers) :
    p.insecure.parse path h = p.accepted h first rest := by
  rw [parse_unsigned rfl cut, insecure_accepted]

/-- Cutting at slashes finds the signature in front, however often it stands in the rest. -/
theorem segments_signed {signature : String} (whole : '/' ∉ signature.toList) (rest : String) :
    segments ("/" ++ signature ++ ("/" ++ rest)) = signature :: Text.split '/' rest := by
  rw [segments, String.append_assoc, Text.after?_append, Option.getD_some]
  exact Text.split_append whole rest

theorem authorize_signed {p : RequestParser} (secure : p.config.allowInsecure = false)
    (signature path : String) :
    p.authorize ("/" ++ signature ++ path) signature =
      match p.check with
      | none => .error (.forbidden "Signature validation is not configured")
      | some check => (check signature path).mapError .forbidden := by
  cases configured : p.check with
  | none => simp [authorize, secure, configured]
  | some check => simp [authorize, secure, configured, Text.after?_append]

/-- A path is refused for its signature exactly when there is no check, or the check refuses the
signature for the path after it. Any other path is read as it would be without signatures, and what
is read does not depend on the signature. -/
theorem parse_signed (p : RequestParser) (h : Headers) (signature path : String)
    (whole : '/' ∉ signature.toList) (rooted : path.toList.head? = some '/')
    (secure : p.config.allowInsecure = false) :
    p.parse ("/" ++ signature ++ path) h =
      (match p.check with
      | none => ⟨[], .error (.forbidden "Signature validation is not configured")⟩
      | some check =>
        match check signature path with
        | .error reason => ⟨[], .error (.forbidden reason)⟩
        | .ok () => p.insecure.parse ("/" ++ signature ++ path) h) ∧
    ∀ other : String, '/' ∉ other.toList →
      p.insecure.parse ("/" ++ other ++ path) h =
        p.insecure.parse ("/" ++ signature ++ path) h := by
  obtain ⟨rest, rfl⟩ : ∃ rest, path = "/" ++ rest := by
    obtain ⟨tail, split⟩ := List.head?_eq_some_iff.mp rooted
    exact ⟨String.ofList tail, String.toList_injective (by simp [split])⟩
  -- A segment stands behind the signature, if only an empty one.
  obtain ⟨first, others, pieces⟩ := List.exists_cons_of_ne_nil (Text.split_ne_nil '/' rest)
  have cut {s : String} (whole : '/' ∉ s.toList) :
      segments ("/" ++ s ++ ("/" ++ rest)) = s :: first :: others := by
    rw [segments_signed whole, pieces]
  constructor
  · rw [parse_of_segments (cut whole), authorize_signed secure, insecure_parse (cut whole)]
    cases p.check with
    | none => rfl
    | some check =>
      cases verdict : check signature ("/" ++ rest) with
      | error reason => simp only [verdict]; rfl
      | ok u => simp only [verdict]; rfl
  · intro other clean
    rw [insecure_parse (cut whole), insecure_parse (cut clean)]

/-- The signature stands a second time at the front of the path that it signs. -/
theorem parse_signed_repeated :
    let check : PathCheck := fun signature path =>
      if signature = "a" ∧ path = "/a/YQ" then .ok () else .error "Invalid signature"
    let p : RequestParser := { config := {}, check := some check }
    '/' ∉ "a".toList ∧ "/a/YQ".toList.head? = some '/' ∧ p.config.allowInsecure = false ∧
      p.parse ("/" ++ "a" ++ "/a/YQ") {} = p.insecure.parse ("/" ++ "a" ++ "/a/YQ") {} ∧
      p.parse ("/" ++ "" ++ "/a/YQ") {} = ⟨[], .error (.forbidden "Invalid signature")⟩ ∧
      p.insecure.parse ("/" ++ "" ++ "/a/YQ") {} = p.insecure.parse ("/" ++ "a" ++ "/a/YQ") {} := by
  intro check p
  have accepts := parse_signed p {} "a" "/a/YQ" (by decide) rfl rfl
  have refuses := parse_signed p {} "" "/a/YQ" (by decide) rfl rfl
  exact ⟨by decide, rfl, rfl, accepts.1, refuses.1, accepts.2 "" (by decide)⟩

end ImageGateway.RequestParser
