import ImageGateway.Codec.Percent
import ImageGateway.Proofs.Codec.Utf8

/-! The ways to write a text with escapes. Reserved characters have to be escaped; any other one
stands for itself or is escaped byte by byte. Every such spelling is well formed, and decoding it
gives the bytes of the text. -/
namespace ImageGateway.Percent

/-- Bytes as escapes, each with two digits of either case. -/
inductive Escaped : List UInt8 → List Char → Prop
  | nil : Escaped [] []
  | cons {b : UInt8} {high low : Char} {bytes : List UInt8} {written : List Char} :
      Hex.digit? high = some (b.toNat / 16) → Hex.digit? low = some (b.toNat % 16) →
      Escaped bytes written → Escaped (b :: bytes) ('%' :: high :: low :: written)

/-- A text and a way to write it. -/
inductive Spelling (reserved : List Char) : List Char → List Char → Prop
  | nil : Spelling reserved [] []
  | raw {c : Char} {text written : List Char} : c ∉ reserved → Spelling reserved text written →
      Spelling reserved (c :: text) (c :: written)
  | escaped {c : Char} {text escapes written : List Char} :
      Escaped (String.utf8EncodeChar c) escapes → Spelling reserved text written →
      Spelling reserved (c :: text) (escapes ++ written)

theorem toNat_lt_of_digit? {c : Char} {n : Nat} (digit : Hex.digit? c = some n) : c.toNat < 128 := by
  have below {least most : Char} (small : most.toNat < 128)
      (range : (decide (least ≤ c) && decide (c ≤ most)) = true) : c.toNat < 128 := by
    simp only [Bool.and_eq_true, decide_eq_true_eq] at range
    exact Nat.lt_of_le_of_lt range.2 small
  unfold Hex.digit? at digit
  split at digit
  next decimal => exact below (by decide) decimal
  split at digit
  next lower => exact below (by decide) lower
  split at digit
  next upper => exact below (by decide) upper
  next => contradiction

theorem nibble?_ascii {c : Char} (ascii : c.toNat < 128) :
    Hex.nibble? (UInt8.ofNat c.toNat) = Hex.digit? c := by
  have value : (UInt8.ofNat c.toNat).toNat = c.toNat := by
    rw [UInt8.toNat_ofNat', Nat.mod_eq_of_lt (by omega)]
  rw [Hex.nibble?, value, Char.ofNat_toNat]

theorem nibble?_of_digit? {c : Char} {n : Nat} (digit : Hex.digit? c = some n) :
    String.utf8EncodeChar c = [UInt8.ofNat c.toNat] ∧
      Hex.nibble? (UInt8.ofNat c.toNat) = some n := by
  have ascii := toNat_lt_of_digit? digit
  exact ⟨Utf8.encodeChar_ascii ascii, (nibble?_ascii ascii).trans digit⟩

theorem wellFormed_cons {b : UInt8} (plain : b ≠ sign) (rest : List UInt8) :
    wellFormed (b :: rest) = wellFormed rest := by
  rw [wellFormed.eq_def (b :: rest)]
  exact if_neg plain

theorem decode_cons {b : UInt8} (plain : b ≠ sign) (rest : List UInt8) :
    decode (b :: rest) = b :: decode rest := by
  rw [decode.eq_def (b :: rest)]
  exact if_neg plain

theorem wellFormed_append {bytes : List UInt8} (plain : sign ∉ bytes) (rest : List UInt8) :
    wellFormed (bytes ++ rest) = wellFormed rest := by
  induction bytes with
  | nil => rfl
  | cons b bytes ih =>
    obtain ⟨first, others⟩ := List.ne_and_not_mem_of_not_mem_cons plain
    rw [List.cons_append, wellFormed_cons first.symm, ih others]

theorem decode_append {bytes : List UInt8} (plain : sign ∉ bytes) (rest : List UInt8) :
    decode (bytes ++ rest) = bytes ++ decode rest := by
  induction bytes with
  | nil => rfl
  | cons b bytes ih =>
    obtain ⟨first, others⟩ := List.ne_and_not_mem_of_not_mem_cons plain
    rw [List.cons_append, decode_cons first.symm, ih others, List.cons_append]

/-- An escape is well formed and becomes the byte of its digits. -/
theorem decode_escape {high low : Char} {h l : Nat} (highDigit : Hex.digit? high = some h)
    (lowDigit : Hex.digit? low = some l) (rest : List UInt8) :
    wellFormed (['%', high, low].flatMap String.utf8EncodeChar ++ rest) = wellFormed rest ∧
      decode (['%', high, low].flatMap String.utf8EncodeChar ++ rest) =
        UInt8.ofNat (16 * h + l) :: decode rest := by
  obtain ⟨highByte, highNibble⟩ := nibble?_of_digit? highDigit
  obtain ⟨lowByte, lowNibble⟩ := nibble?_of_digit? lowDigit
  have opened : ['%', high, low].flatMap String.utf8EncodeChar ++ rest =
      sign :: UInt8.ofNat high.toNat :: UInt8.ofNat low.toNat :: rest := by
    simp only [List.flatMap_cons, List.flatMap_nil, highByte, lowByte]
    rfl
  rw [opened]
  constructor
  · rw [wellFormed, if_pos rfl]
    simp only [highNibble, lowNibble, Option.isSome_some, Bool.and_self, Bool.true_and]
  · rw [decode, if_pos rfl]
    simp only [highNibble, lowNibble]

theorem decode_escaped {bytes : List UInt8} {written : List Char} (escaped : Escaped bytes written)
    (rest : List UInt8) :
    wellFormed (written.flatMap String.utf8EncodeChar ++ rest) = wellFormed rest ∧
      decode (written.flatMap String.utf8EncodeChar ++ rest) = bytes ++ decode rest := by
  induction escaped with
  | nil => exact ⟨rfl, rfl⟩
  | @cons b high low bytes written highDigit lowDigit _ ih =>
    have value : UInt8.ofNat (16 * (b.toNat / 16) + b.toNat % 16) = b := by
      rw [Nat.div_add_mod, UInt8.ofNat_toNat]
    have front : ('%' :: high :: low :: written).flatMap String.utf8EncodeChar ++ rest =
        ['%', high, low].flatMap String.utf8EncodeChar ++
          (written.flatMap String.utf8EncodeChar ++ rest) := by
      simp
    obtain ⟨formed, decoded⟩ := decode_escape highDigit lowDigit
      (written.flatMap String.utf8EncodeChar ++ rest)
    rw [front, formed, decoded, ih.1, ih.2, value]
    exact ⟨rfl, rfl⟩

theorem sign_not_mem_encodeChar {c : Char} (other : c ≠ '%') : sign ∉ String.utf8EncodeChar c := by
  intro member
  have code : c.toNat = '%'.toNat := Utf8.toNat_eq_of_mem member (by decide)
  exact other (Char.toNat_inj.mp code)

/-- A spelling in which the escape sign itself is reserved decodes to the text. -/
theorem decode_spelling {reserved text written : List Char} (self : '%' ∈ reserved)
    (spelled : Spelling reserved text written) :
    wellFormed (written.flatMap String.utf8EncodeChar) = true ∧
      decode (written.flatMap String.utf8EncodeChar) = text.flatMap String.utf8EncodeChar := by
  induction spelled with
  | nil => exact ⟨rfl, rfl⟩
  | @raw c text written free _ ih =>
    have plain : sign ∉ String.utf8EncodeChar c :=
      sign_not_mem_encodeChar fun same => free (same ▸ self)
    rw [List.flatMap_cons, List.flatMap_cons, wellFormed_append plain, decode_append plain, ih.2]
    exact ⟨ih.1, rfl⟩
  | @escaped c text escapes written bytes _ ih =>
    obtain ⟨formed, decoded⟩ := decode_escaped bytes (written.flatMap String.utf8EncodeChar)
    rw [List.flatMap_append, List.flatMap_cons, formed, decoded, ih.2]
    exact ⟨ih.1, rfl⟩

theorem not_mem_escaped {bytes : List UInt8} {written : List Char} {c : Char} (other : c ≠ '%')
    (digit : Hex.digit? c = none) (escaped : Escaped bytes written) : c ∉ written := by
  induction escaped with
  | nil => exact List.not_mem_nil
  | cons high low _ ih =>
    intro member
    rcases List.mem_cons.mp member with same | later
    · exact other same
    rcases List.mem_cons.mp later with rfl | later
    · exact absurd (high.symm.trans digit) (by simp)
    rcases List.mem_cons.mp later with rfl | later
    · exact absurd (low.symm.trans digit) (by simp)
    · exact ih later

theorem not_mem_spelling {reserved text written : List Char} {c : Char} (kept : c ∈ reserved)
    (other : c ≠ '%') (digit : Hex.digit? c = none) (spelled : Spelling reserved text written) :
    c ∉ written := by
  induction spelled with
  | nil => exact List.not_mem_nil
  | raw free _ ih =>
    intro member
    rcases List.mem_cons.mp member with rfl | later
    · exact free kept
    · exact ih later
  | escaped bytes _ ih =>
    intro member
    rcases List.mem_append.mp member with inside | later
    · exact not_mem_escaped other digit bytes inside
    · exact ih later

theorem spelling_ne_nil {reserved text written : List Char}
    (spelled : Spelling reserved text written) (filled : text ≠ []) : written ≠ [] := by
  cases spelled with
  | nil => contradiction
  | raw => simp
  | @escaped c _ escapes _ bytes _ =>
    intro empty
    obtain ⟨none, _⟩ := List.append_eq_nil_iff.mp empty
    subst none
    cases encoded : String.utf8EncodeChar c with
    | nil => exact String.utf8EncodeChar_ne_nil encoded
    | cons b rest => rw [encoded] at bytes; cases bytes

end ImageGateway.Percent
