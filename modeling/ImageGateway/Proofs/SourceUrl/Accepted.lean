import Mathlib.Data.List.TakeWhile
import ImageGateway.Proofs.SourceUrl

/-! The segments that are accepted as a source, and what they are read as. A payload in base64 is the
base64 of its text with padding behind it, and a payload is never empty; but padding alone is the
base64 of an empty text, so that it names the base URL itself. -/
namespace ImageGateway

namespace Percent

theorem decode_ne_nil {bytes : List UInt8} (filled : bytes ≠ []) : decode bytes ≠ [] := by
  unfold decode
  split
  next => contradiction
  next b rest =>
    split
    next =>
      split
      next =>
        split
        next => exact List.cons_ne_nil _ _
        next => exact List.cons_ne_nil _ _
      next => exact List.cons_ne_nil _ _
    next => exact List.cons_ne_nil _ _

end Percent

namespace SourceUrl

/-- A payload and what follows the only delimiter behind it, if there is one; a payload must not be
empty, and an empty extension counts as none. -/
theorem splitExtension_suffixed {delimiter : Char} {payload : String} {suffix : Option String}
    (whole : delimiter ∉ payload.toList) (clean : ∀ e ∈ suffix, delimiter ∉ e.toList) :
    splitExtension delimiter (extended delimiter payload suffix) =
      if payload = "" then .error .emptyUrl else .ok (payload, suffix.filter (· ≠ "")) := by
  cases suffix with
  | none => simp [splitExtension, extended, Text.split_of_not_mem whole]
  | some e =>
    have simple : delimiter ∉ e.toList := clean e rfl
    simp only [splitExtension, extended, Text.split_append whole, Text.split_of_not_mem simple]
    by_cases blank : e = "" <;> simp [blank, Option.filter]

/-- A second delimiter is one too many, but only behind a payload. -/
theorem splitExtension_crowded {delimiter : Char} {payload rest : String}
    (whole : delimiter ∉ payload.toList) (again : delimiter ∈ rest.toList) :
    splitExtension delimiter (payload ++ (String.singleton delimiter ++ rest)) =
      if payload = "" then .error .emptyUrl
      else .error (.multipleFormats (payload ++ (String.singleton delimiter ++ rest))) := by
  obtain ⟨first, later, pieces⟩ := Text.exists_split_cons again
  obtain ⟨second, more, others⟩ := List.exists_cons_of_ne_nil (Text.split_ne_nil delimiter later)
  simp only [splitExtension, Text.split_append whole, pieces, others, String.isEmpty_iff]

theorem splitExtension_ok {delimiter : Char} {encoded payload : String}
    {extension : Option String} :
    splitExtension delimiter encoded = .ok (payload, extension) ↔
      ∃ suffix, payload ≠ "" ∧ delimiter ∉ payload.toList ∧
        (∀ e ∈ suffix, delimiter ∉ e.toList) ∧ encoded = extended delimiter payload suffix ∧
        extension = suffix.filter (· ≠ "") := by
  constructor
  · intro split
    obtain ⟨front, suffix, text, whole, clean⟩ : ∃ front suffix,
        encoded = extended delimiter front suffix ∧ delimiter ∉ front.toList ∧
          ∀ e ∈ suffix, delimiter ∉ e.toList := by
      by_cases inside : delimiter ∈ encoded.toList
      · obtain ⟨front, rest, rfl, whole⟩ := Text.exists_append_of_mem inside
        have once : delimiter ∉ rest.toList := fun again => by
          rw [splitExtension_crowded whole again] at split
          split at split <;> contradiction
        exact ⟨front, some rest, rfl, whole, by simpa using once⟩
      · exact ⟨encoded, none, rfl, inside, nofun⟩
    rw [text, splitExtension_suffixed whole clean] at split
    by_cases empty : front = ""
    · rw [if_pos empty] at split
      contradiction
    · rw [if_neg empty] at split
      cases split
      exact ⟨suffix, empty, whole, clean, text, rfl⟩
  · rintro ⟨suffix, filled, whole, clean, rfl, rfl⟩
    rw [splitExtension_suffixed whole clean, if_neg filled]

theorem exists_padding (payload : String) :
    ∃ padding, payload.toList =
      (Text.stripEnd isPadding payload).toList ++ List.replicate padding '=' := by
  have ending : ∀ c ∈ payload.toList.reverse.takeWhile isPadding, c = '=' := by
    intro c member
    have padded : isPadding c = true := List.mem_takeWhile_imp member
    exact of_decide_eq_true padded
  have parted := List.takeWhile_append_dropWhile (p := isPadding) (l := payload.toList.reverse)
  rw [List.eq_replicate_of_mem ending] at parted
  refine ⟨(payload.toList.reverse.takeWhile isPadding).length, ?_⟩
  rw [Text.stripEnd, String.toList_ofList, ← List.reverse_replicate, ← List.reverse_append, parted,
    List.reverse_reverse]

/-- A payload in base64 stands for the text whose unpadded encoding it is but for its padding. -/
def EncodesBase64 (payload whole : String) : Prop :=
  (Text.stripEnd isPadding payload).toList = Base64Url.encode (Utf8.encode whole)

theorem fromBase64?_iff_encodes {payload whole : String} :
    fromBase64? payload = some whole ↔ EncodesBase64 payload whole := by
  constructor
  · intro read
    obtain ⟨bytes, decoded, written⟩ := Option.bind_eq_some_iff.mp read
    rw [EncodesBase64, Base64Url.eq_encode_of_decode? decoded, Utf8.decode?_eq_some_iff.mp written]
  · intro encodes
    rw [fromBase64?, encodes, Base64Url.decode?_encode]
    exact Utf8.decode?_eq_some_iff.mpr rfl

/-- A payload stands for a text exactly when it is the base64 of it, with any padding. -/
theorem fromBase64?_eq_some_iff {payload text : String} :
    fromBase64? payload = some text ↔ ∃ padding, payload = base64Text text padding := by
  constructor
  · intro read
    obtain ⟨padding, whole⟩ := exists_padding payload
    rw [fromBase64?_iff_encodes.mp read] at whole
    refine ⟨padding, String.toList_injective ?_⟩
    rw [whole, base64Text, String.toList_ofList]
  · rintro ⟨padding, rfl⟩
    exact fromBase64?_base64Text text padding

theorem ne_empty_of_fromEscapes? {payload text : String} (filled : payload ≠ "")
    (read : fromEscapes? payload = some text) : text ≠ "" := by
  simp only [fromEscapes?] at read
  split at read
  next formed =>
    obtain ⟨lead, rest, bytes, -⟩ := Utf8.encode_head filled
    have left : Percent.decode (Utf8.encode payload) ≠ [] :=
      Percent.decode_ne_nil (bytes ▸ List.cons_ne_nil lead rest)
    rintro rfl
    exact left (Utf8.decode?_eq_some_iff.mp read)
  next => contradiction

theorem decodeWith_ok {delimiter : Char} {payloadText? : String → Option String}
    {encoded base : String} {found : SourceUrl} :
    decodeWith delimiter payloadText? encoded base = .ok found ↔
      ∃ payload suffix text, payload ≠ "" ∧ delimiter ∉ payload.toList ∧
        (∀ e ∈ suffix, delimiter ∉ e.toList) ∧ encoded = extended delimiter payload suffix ∧
        payloadText? payload = some text ∧
        found = ⟨base ++ text, suffix.filter (· ≠ "")⟩ := by
  have parted : decodeWith delimiter payloadText? encoded base = .ok found ↔
      ∃ payload extension text, splitExtension delimiter encoded = .ok (payload, extension) ∧
        payloadText? payload = some text ∧ found = ⟨base ++ text, extension⟩ := by
    unfold decodeWith
    cases split : splitExtension delimiter encoded with
    | error e => simp [bind, Except.bind]
    | ok pieces =>
      obtain ⟨payload, extension⟩ := pieces
      cases read : payloadText? payload with
      | none => simp [bind, Except.bind, read]
      | some text => simp [bind, Except.bind, read, eq_comm]
  rw [parted]
  constructor
  · rintro ⟨payload, extension, text, split, read, rfl⟩
    obtain ⟨suffix, filled, whole, clean, written, rfl⟩ := splitExtension_ok.mp split
    exact ⟨payload, suffix, text, filled, whole, clean, written, read, rfl⟩
  · rintro ⟨payload, suffix, text, filled, whole, clean, written, read, rfl⟩
    exact ⟨payload, _, text,
      splitExtension_ok.mpr ⟨suffix, filled, whole, clean, written, rfl⟩, read, rfl⟩

/-- The segments hold padding, and at most an extension behind it. -/
def PaddingOnly (segments : List String) : Prop :=
  ∃ padding suffix, 0 < padding ∧ (∀ e ∈ suffix, '.' ∉ e.toList) ∧
    String.join segments = extended '.' (base64Text "" padding) suffix

theorem base64Text_empty (padding : Nat) :
    base64Text "" padding = String.ofList (List.replicate padding '=') := rfl

/-- Padding does not begin as the plain form does, and it is read as the base URL. -/
theorem decode_padding {segments : List String} (padded : PaddingOnly segments) (base : String) :
    ∃ extension, decode segments base = .ok ⟨base, extension⟩ := by
  obtain ⟨padding, suffix, positive, clean, written⟩ := padded
  obtain ⟨fewer, rfl⟩ := Nat.exists_eq_add_one_of_ne_zero (Nat.ne_of_gt positive)
  have head : (String.join segments).toList.head? = some '=' := by
    rw [written]
    cases suffix <;> simp [extended, base64Text_empty, List.replicate_succ]
  have other : segments.head? ≠ some "plain" := by
    intro plain
    obtain ⟨rest, rfl⟩ := List.head?_eq_some_iff.mp plain
    rw [String.join_cons, String.toList_append] at head
    exact absurd head (by simp)
  have more : segments ≠ [] := by
    rintro rfl
    exact absurd head (by simp)
  have filled : base64Text "" (fewer + 1) ≠ "" := by
    rw [base64Text_empty, Ne, ← String.toList_eq_nil_iff, String.toList_ofList]
    exact List.cons_ne_nil _ _
  have whole : '.' ∉ (base64Text "" (fewer + 1)).toList :=
    not_mem_base64Text (by decide) (by decide) "" _
  refine ⟨suffix.filter (· ≠ ""), ?_⟩
  rw [decode_of_not_plain other more, decodeBase64, decodeWith_ok]
  exact ⟨_, suffix, "", filled, whole, clean, written, fromBase64?_base64Text "" _, by simp⟩

theorem padding_of_decode {segments : List String} {base : String} {found : SourceUrl}
    (decoded : decode segments base = .ok found) :
    ∃ text, found.url = base ++ text ∧ (text = "" → PaddingOnly segments) := by
  unfold decode at decoded
  split at decoded
  next => contradiction
  next first rest =>
    split at decoded
    next =>
      obtain ⟨payload, suffix, text, filled, -, -, -, read, rfl⟩ := decodeWith_ok.mp decoded
      exact ⟨text, rfl, fun empty => absurd empty (ne_empty_of_fromEscapes? filled read)⟩
    next =>
      obtain ⟨payload, suffix, text, filled, -, clean, written, read, rfl⟩ :=
        decodeWith_ok.mp decoded
      obtain ⟨padding, rfl⟩ := fromBase64?_eq_some_iff.mp read
      refine ⟨text, rfl, ?_⟩
      rintro rfl
      refine ⟨padding, suffix, Nat.pos_of_ne_zero ?_, clean, written⟩
      rintro rfl
      exact filled rfl

/-- A source that is decoded is the base URL and a text. The text is empty for padding with or
without an extension, which is decoded whatever the base URL is, and for no other segments. -/
theorem decode_filled_iff (segments : List String) (base : String) :
    (∀ found, decode segments base = .ok found →
      ∃ text, found.url = base ++ text ∧ (text = "" ↔ PaddingOnly segments)) ∧
    (PaddingOnly segments → ∃ extension, decode segments base = .ok ⟨base, extension⟩) := by
  refine ⟨fun found decoded => ?_, fun padded => decode_padding padded base⟩
  obtain ⟨text, url, padded⟩ := padding_of_decode decoded
  refine ⟨text, url, padded, fun padded => ?_⟩
  obtain ⟨extension, again⟩ := decode_padding padded base
  have same : found = ⟨base, extension⟩ := Except.ok.inj (decoded.symm.trans again)
  have bare : base ++ text = base ++ "" := by rw [← url, same, String.append_empty]
  exact String.append_right_inj base |>.mp bare

/-- A padded text in two segments, and padding alone in front of an extension. -/
theorem decode_filled_iff_padded :
    decode ["YQ=", "=.png"] "b:" = .ok ⟨"b:a", some "png"⟩ ∧
      (∃ text, "b:a" = "b:" ++ text ∧ (text = "" ↔ PaddingOnly ["YQ=", "=.png"])) ∧
      PaddingOnly ["=", "=.png"] ∧
      ∃ extension, decode ["=", "=.png"] "b:" = .ok ⟨"b:", extension⟩ := by
  have decoded : decode ["YQ=", "=.png"] "b:" = .ok ⟨"b:a", some "png"⟩ := by decide +kernel
  have padded : PaddingOnly ["=", "=.png"] :=
    ⟨2, some "png", by decide, by decide, by decide +kernel⟩
  exact ⟨decoded, (decode_filled_iff _ "b:").1 _ decoded, padded,
    (decode_filled_iff _ "b:").2 padded⟩

/-- A lone padding sign is taken for a source, which is then the base URL. -/
theorem decode_padding_alone : decode ["="] "http://b/" = .ok ⟨"http://b/", none⟩ := by
  decide +kernel

end SourceUrl
end ImageGateway
