import ImageGateway.Proofs.Codec.Unescaping
import ImageGateway.Proofs.SourceUrl.Accepted

/-! The verdict on any segments for a source: which ones are refused and with which kind of error,
and which ones are decoded and to what. Both forms are judged alike, a payload in front of the first
delimiter and an extension behind it. They differ in the delimiter and in what a payload stands
for. -/
namespace ImageGateway.SourceUrl

inductive Form where
  | base64
  | plain
  deriving DecidableEq, Repr

namespace Form

def delimiter : Form → Char
  | .base64 => '.'
  | .plain => '@'

def payloadText? : Form → String → Option String
  | .base64 => fromBase64?
  | .plain => fromEscapes?

end Form

/-- The plain form begins with its name, and has more segments than that. -/
def form (segments : List String) : Form :=
  if segments.head? = some "plain" ∧ 1 < segments.length then .plain else .base64

def text (segments : List String) : String :=
  match form segments with
  | .base64 => String.join segments
  | .plain => Text.join '/' segments.tail

theorem decode_eq {segments : List String} (filled : segments ≠ []) (base : String) :
    decode segments base =
      decodeWith (form segments).delimiter (form segments).payloadText? (text segments) base := by
  obtain ⟨first, rest, rfl⟩ := List.exists_cons_of_ne_nil filled
  by_cases named : first = "plain"
  · cases rest with
    | nil => simp [decode, form, text, named, decodeBase64, Form.delimiter, Form.payloadText?]
    | cons more rest =>
      simp [decode, form, text, named, decodePlain, Form.delimiter, Form.payloadText?]
  · simp [decode, form, text, named, decodeBase64, Form.delimiter, Form.payloadText?]

/-- The text in front of the first delimiter, or all of it. -/
def payload (delimiter : Char) (encoded : String) : String :=
  ((Text.cut? delimiter encoded).map Prod.fst).getD encoded

def extension? (delimiter : Char) (encoded : String) : Option String :=
  ((Text.cut? delimiter encoded).map Prod.snd).filter (· ≠ "")

theorem splitExtension_eq (delimiter : Char) (encoded : String) :
    splitExtension delimiter encoded =
      if payload delimiter encoded = "" then .error .emptyUrl
      else if 2 ≤ encoded.toList.count delimiter then .error (.multipleFormats encoded)
      else .ok (payload delimiter encoded, extension? delimiter encoded) := by
  by_cases inside : delimiter ∈ encoded.toList
  · obtain ⟨front, rest, rfl, whole⟩ := Text.exists_append_of_mem inside
    have cut := Text.cut?_append whole rest
    have counted : (front ++ (String.singleton delimiter ++ rest)).toList.count delimiter =
        rest.toList.count delimiter + 1 := by
      simp [List.count_eq_zero.mpr whole, Nat.add_comm]
    by_cases again : delimiter ∈ rest.toList
    · have several : 2 ≤ rest.toList.count delimiter + 1 := by
        have one := List.count_pos_iff.mpr again
        omega
      rw [splitExtension_crowded whole again, counted, if_pos several]
      simp [payload, cut]
    · have single : ¬2 ≤ rest.toList.count delimiter + 1 := by
        simp [List.count_eq_zero.mpr again]
      have split : splitExtension delimiter (extended delimiter front (some rest)) = _ :=
        splitExtension_suffixed whole (by simpa using again)
      rw [extended] at split
      rw [split, counted, if_neg single]
      simp [payload, extension?, cut]
  · have cut := Text.cut?_of_not_mem inside
    have absent : ¬2 ≤ encoded.toList.count delimiter := by simp [List.count_eq_zero.mpr inside]
    have split : splitExtension delimiter (extended delimiter encoded none) = _ :=
      splitExtension_suffixed inside (by simp)
    rw [extended] at split
    rw [split, if_neg absent]
    simp [payload, extension?, cut]

theorem decodeWith_eq (delimiter : Char) (payloadText? : String → Option String)
    (encoded base : String) :
    decodeWith delimiter payloadText? encoded base =
      if payload delimiter encoded = "" then .error .emptyUrl
      else if 2 ≤ encoded.toList.count delimiter then .error (.multipleFormats encoded)
      else
        match payloadText? (payload delimiter encoded) with
        | some found => .ok ⟨base ++ found, extension? delimiter encoded⟩
        | none => .error (.value "url encoding" encoded) := by
  rw [decodeWith, splitExtension_eq]
  split
  next => rfl
  next =>
    split
    next => rfl
    next => rfl

/-- No source came of it, but an error of that kind. -/
def FailsAs (result : Except ParseError SourceUrl) (kind : ErrorKind) : Prop :=
  ∃ e, result = .error e ∧ e.kind = kind

/-- What comes of a text when its payload may stand for other texts. A payload that is missing counts
before a delimiter too many, and either of them before what the payload stands for. -/
structure Judged (delimiter : Char) (stands : String → String → Prop) (encoded base : String)
    (result : Except ParseError SourceUrl) : Prop where
  empty : FailsAs result .emptyUrl ↔ payload delimiter encoded = ""
  crowded : payload delimiter encoded ≠ "" →
    (FailsAs result .multipleFormats ↔ 2 ≤ encoded.toList.count delimiter)
  accepted : payload delimiter encoded ≠ "" → encoded.toList.count delimiter < 2 →
    ∀ found, result = .ok found ↔ ∃ whole, stands (payload delimiter encoded) whole ∧
      found = ⟨base ++ whole, extension? delimiter encoded⟩
  refused : payload delimiter encoded ≠ "" → encoded.toList.count delimiter < 2 →
    (∀ whole, ¬stands (payload delimiter encoded) whole) → FailsAs result .invalidArgument

section Judged

variable {delimiter : Char} {stands : String → String → Prop} {encoded base : String}

theorem failsAs_error {e : ParseError} {kind : ErrorKind} :
    FailsAs (.error e) kind ↔ e.kind = kind := by simp [FailsAs]

theorem not_failsAs_ok {found : SourceUrl} {kind : ErrorKind} : ¬FailsAs (.ok found) kind := by
  simp [FailsAs]

theorem judged_of_empty (none : payload delimiter encoded = "")
    {result : Except ParseError SourceUrl} (failed : FailsAs result .emptyUrl) :
    Judged delimiter stands encoded base result where
  empty := iff_of_true failed none
  crowded filled := absurd none filled
  accepted filled := absurd none filled
  refused filled := absurd none filled

/-- A text is judged by what its payload is read as. -/
theorem judged_decodeWith {payloadText? : String → Option String}
    (reads : ∀ payload whole, payloadText? payload = some whole ↔ stands payload whole) :
    Judged delimiter stands encoded base (decodeWith delimiter payloadText? encoded base) := by
  rw [decodeWith_eq]
  by_cases none : payload delimiter encoded = ""
  · rw [if_pos none]
    exact judged_of_empty none ⟨_, rfl, rfl⟩
  rw [if_neg none]
  by_cases several : 2 ≤ encoded.toList.count delimiter
  · rw [if_pos several]
    refine ⟨?_, fun _ => ?_, fun _ single => ?_, fun _ single => ?_⟩
    · simpa [failsAs_error, ParseError.kind] using none
    · simpa [failsAs_error, ParseError.kind] using several
    · omega
    · omega
  rw [if_neg several]
  cases read : payloadText? (payload delimiter encoded) with
  | none =>
    have silent : ∀ whole, ¬stands (payload delimiter encoded) whole := fun whole standing => by
      rw [(reads _ whole).mpr standing] at read
      contradiction
    refine ⟨?_, fun _ => ?_, fun _ _ found => ?_, fun _ _ _ => ⟨_, rfl, rfl⟩⟩
    · simpa [failsAs_error, ParseError.kind] using none
    · simpa [failsAs_error, ParseError.kind] using several
    · simp [silent]
  | some whole =>
    have standing := (reads _ whole).mp read
    refine ⟨?_, fun _ => ?_, fun _ _ found => ?_, fun _ _ silent => absurd standing (silent whole)⟩
    · simpa [not_failsAs_ok] using none
    · simpa [not_failsAs_ok] using several
    · constructor
      · rintro ⟨⟩
        exact ⟨whole, standing, rfl⟩
      · rintro ⟨other, again, rfl⟩
        rw [Option.some.inj (read.symm.trans ((reads _ other).mpr again))]

theorem Judged.stands_of_ok {found : SourceUrl}
    (judged : Judged delimiter stands encoded base (.ok found)) :
    ∃ whole, stands (payload delimiter encoded) whole ∧
      found = ⟨base ++ whole, extension? delimiter encoded⟩ := by
  have filled : payload delimiter encoded ≠ "" := fun none =>
    not_failsAs_ok (judged.empty.mpr none)
  have single : encoded.toList.count delimiter < 2 := Nat.lt_of_not_le fun several =>
    not_failsAs_ok ((judged.crowded filled).mpr several)
  exact (judged.accepted filled single found).mp rfl

end Judged

theorem judged_base64 {segments : List String}
    (other : segments.head? ≠ some "plain" ∨ segments.length = 1) (base : String) :
    Judged '.' EncodesBase64 (String.join segments) base (decode segments base) := by
  by_cases none : segments = []
  · subst none
    exact judged_of_empty rfl ⟨.missingUrl, rfl, rfl⟩
  · have form : form segments = .base64 := by
      refine if_neg ?_
      rintro ⟨plain, more⟩
      rcases other with different | single
      · exact different plain
      · omega
    simp only [decode_eq none, text, form]
    exact judged_decodeWith fun _ _ => fromBase64?_iff_encodes

/-- Segments that are not in the plain form are judged by their base64, with no segments being an
empty text. Sources of one base with the same URL have the same payload but for the padding. -/
theorem decode_base64_judged (segments : List String) (base : String)
    (other : segments.head? ≠ some "plain" ∨ segments.length = 1) :
    Judged '.' EncodesBase64 (String.join segments) base (decode segments base) ∧
      ∀ others : List String, others.head? ≠ some "plain" ∨ others.length = 1 →
        ∀ found again, decode segments base = .ok found → decode others base = .ok again →
          found.url = again.url →
            Text.stripEnd isPadding (payload '.' (String.join segments)) =
              Text.stripEnd isPadding (payload '.' (String.join others)) := by
  refine ⟨judged_base64 other base, fun others unlike found again decoded repeated same => ?_⟩
  obtain ⟨whole, encodes, rfl⟩ := (decoded ▸ judged_base64 other base).stands_of_ok
  obtain ⟨whole', encodes', rfl⟩ := (repeated ▸ judged_base64 unlike base).stands_of_ok
  have texts : whole = whole' := String.append_right_inj base |>.mp same
  subst texts
  exact String.toList_injective (encodes.trans encodes'.symm)

/-- A padded payload in two segments, and the same one without padding. -/
theorem decode_base64_judged_padded :
    let segments := ["YQ=", "=.png"]
    (segments.head? ≠ some "plain" ∨ segments.length = 1) ∧
      (["YQ"].head? ≠ some "plain" ∨ ["YQ"].length = 1) ∧
      decode segments "b:" = .ok ⟨"b:a", some "png"⟩ ∧ decode ["YQ"] "b:" = .ok ⟨"b:a", none⟩ ∧
      Judged '.' EncodesBase64 (String.join segments) "b:" (decode segments "b:") ∧
      Text.stripEnd isPadding (payload '.' (String.join segments)) =
        Text.stripEnd isPadding (payload '.' (String.join ["YQ"])) := by
  intro segments
  have other : segments.head? ≠ some "plain" ∨ segments.length = 1 := by decide
  have unlike : ["YQ"].head? ≠ some "plain" ∨ ["YQ"].length = 1 := by decide
  have decoded : decode segments "b:" = .ok ⟨"b:a", some "png"⟩ := by decide +kernel
  have repeated : decode ["YQ"] "b:" = .ok ⟨"b:a", none⟩ := by decide +kernel
  obtain ⟨judged, canonical⟩ := decode_base64_judged segments "b:" other
  exact ⟨other, unlike, decoded, repeated, judged,
    canonical ["YQ"] unlike _ _ decoded repeated rfl⟩

/-- A payload with escapes stands for the text whose bytes are left when each escape sign begins an
escape and all of them are replaced. -/
def EncodesEscaped (payload whole : String) : Prop :=
  Percent.EachEscape payload.toList ∧ Percent.Unescaped payload.toList (Utf8.encode whole)

theorem fromEscapes?_iff_encodes {payload whole : String} :
    fromEscapes? payload = some whole ↔ EncodesEscaped payload whole := by
  rw [fromEscapes?, Utf8.encode_eq_flatMap payload, EncodesEscaped, Percent.unescaped_iff,
    ← Percent.wellFormed_iff]
  by_cases formed : Percent.wellFormed (payload.toList.flatMap String.utf8EncodeChar) = true
  · simp [formed, Utf8.decode?_eq_some_iff]
  · simp [formed]

/-- Segments behind `plain` are judged by their escapes. The check of the escapes accepts the payloads
in which each escape sign begins an escape, and then the decoder replaces all of them. -/
theorem decode_plain_judged (rest : List String) (filled : rest ≠ []) (base : String) :
    let escaped := payload '@' (Text.join '/' rest)
    Judged '@' EncodesEscaped (Text.join '/' rest) base (decode ("plain" :: rest) base) ∧
      (Percent.wellFormed (Utf8.encode escaped) = true ↔ Percent.EachEscape escaped.toList) ∧
      (Percent.EachEscape escaped.toList →
        Percent.Unescaped escaped.toList (Percent.decode (Utf8.encode escaped))) := by
  intro escaped
  have form : form ("plain" :: rest) = .plain :=
    if_pos ⟨rfl, by simpa using List.length_pos_iff.mpr filled⟩
  rw [Utf8.encode_eq_flatMap]
  refine ⟨?judged, Percent.wellFormed_iff, fun each => Percent.unescaped_iff.mpr ⟨each, rfl⟩⟩
  simp only [decode_eq (List.cons_ne_nil _ _), text, form, List.tail_cons]
  exact judged_decodeWith fun _ _ => fromEscapes?_iff_encodes

/-- An escape sign that is escaped, a letter of two bytes and a segment without escapes. -/
theorem decode_plain_judged_accent :
    let rest := ["%25%C3%a9", "b@png"]
    rest ≠ [] ∧ decode ("plain" :: rest) "b:" = .ok ⟨"b:%é/b", some "png"⟩ ∧
      Judged '@' EncodesEscaped (Text.join '/' rest) "b:" (decode ("plain" :: rest) "b:") ∧
      payload '@' (Text.join '/' rest) = "%25%C3%a9/b" ∧ Percent.EachEscape "%25%C3%a9/b".toList := by
  intro rest
  have escaped : payload '@' (Text.join '/' rest) = "%25%C3%a9/b" := by decide +kernel
  obtain ⟨judged, checked, -⟩ := decode_plain_judged rest (by decide) "b:"
  refine ⟨by decide, by decide +kernel, judged, escaped, ?_⟩
  rw [escaped] at checked
  exact checked.mp (by decide +kernel)

end ImageGateway.SourceUrl
