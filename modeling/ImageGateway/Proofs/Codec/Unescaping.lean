import ImageGateway.Proofs.Codec.Percent

/-! Texts with escapes, read one character or one escape at a time. A text can be read so exactly
when each escape sign in it has two digits behind it, which is what the check on bytes decides, and
then the decoder gives the bytes that were read: there is no sign left that it would pass over. -/
namespace ImageGateway.Percent

/-- Each escape sign has two digits behind it, wherever it stands. -/
def EachEscape (written : List Char) : Prop :=
  ∀ later, '%' :: later <:+ written →
    ∃ high low rest, later = high :: low :: rest ∧
      (Hex.digit? high).isSome ∧ (Hex.digit? low).isSome

/-- The bytes of a text whose escapes are replaced from left to right. An escape sign is read with
its digits or not at all. -/
inductive Unescaped : List Char → List UInt8 → Prop
  | nil : Unescaped [] []
  | raw {c : Char} {written : List Char} {bytes : List UInt8} : c ≠ '%' →
      Unescaped written bytes → Unescaped (c :: written) (String.utf8EncodeChar c ++ bytes)
  | escape {high low : Char} {h l : Nat} {written : List Char} {bytes : List UInt8} :
      Hex.digit? high = some h → Hex.digit? low = some l → Unescaped written bytes →
      Unescaped ('%' :: high :: low :: written) (UInt8.ofNat (16 * h + l) :: bytes)

/-- An escape is what a text begins with, and the condition holds of what follows it. -/
def Opens (P : List Char → Prop) (later : List Char) : Prop :=
  ∃ high low rest h l, later = high :: low :: rest ∧ Hex.digit? high = some h ∧
    Hex.digit? low = some l ∧ P rest

variable {P : List Char → Prop} {written : List Char} {bytes : List UInt8}

/-- A condition that goes from a text to what is behind its first character, and that asks for an
escape at an escape sign, makes the text readable. -/
theorem exists_unescaped (raw : ∀ {c rest}, c ≠ '%' → P (c :: rest) → P rest)
    (escape : ∀ {later}, P ('%' :: later) → Opens P later) :
    ∀ {written : List Char}, P written → ∃ bytes, Unescaped written bytes
  | [], _ => ⟨[], .nil⟩
  | c :: later, holds => by
    by_cases sign : c = '%'
    · subst sign
      obtain ⟨high, low, rest, h, l, rfl, highDigit, lowDigit, holds⟩ := escape holds
      obtain ⟨bytes, read⟩ := exists_unescaped raw escape holds
      exact ⟨_, .escape highDigit lowDigit read⟩
    · obtain ⟨bytes, read⟩ := exists_unescaped raw escape (raw sign holds)
      exact ⟨_, .raw sign read⟩
  termination_by written => written.length

theorem Unescaped.decode (read : Unescaped written bytes) :
    wellFormed (written.flatMap String.utf8EncodeChar) = true ∧
      Percent.decode (written.flatMap String.utf8EncodeChar) = bytes := by
  induction read with
  | nil => exact ⟨rfl, rfl⟩
  | @raw c written bytes other _ ih =>
    have plain : sign ∉ String.utf8EncodeChar c := sign_not_mem_encodeChar other
    rw [List.flatMap_cons, wellFormed_append plain, decode_append plain, ih.2]
    exact ⟨ih.1, rfl⟩
  | @escape high low h l written bytes highDigit lowDigit _ ih =>
    obtain ⟨formed, decoded⟩ := decode_escape highDigit lowDigit
      (written.flatMap String.utf8EncodeChar)
    have front : ('%' :: high :: low :: written).flatMap String.utf8EncodeChar =
        ['%', high, low].flatMap String.utf8EncodeChar ++
          written.flatMap String.utf8EncodeChar := by simp
    rw [front, formed, decoded, ih.2]
    exact ⟨ih.1, rfl⟩

theorem not_digit_sign {n : Nat} : Hex.digit? '%' ≠ some n := by simp [Hex.digit?]

/-- An escape sign that is read begins an escape, and none stands among the digits. -/
theorem Unescaped.eachEscape (read : Unescaped written bytes) : EachEscape written := by
  induction read with
  | nil => simp [EachEscape]
  | raw other _ ih =>
    intro later suffix
    rcases List.suffix_cons_iff.mp suffix with same | inside
    · exact absurd (List.cons.inj same).1.symm other
    · exact ih later inside
  | @escape high low h l written _ highDigit lowDigit _ ih =>
    intro later suffix
    rcases List.suffix_cons_iff.mp suffix with same | inside
    · exact ⟨high, low, written, (List.cons.inj same).2, by simp [highDigit], by simp [lowDigit]⟩
    rcases List.suffix_cons_iff.mp inside with same | inside
    · obtain ⟨rfl, -⟩ := List.cons.inj same
      exact absurd highDigit not_digit_sign
    rcases List.suffix_cons_iff.mp inside with same | inside
    · obtain ⟨rfl, -⟩ := List.cons.inj same
      exact absurd lowDigit not_digit_sign
    · exact ih later inside

theorem EachEscape.of_suffix {part : List Char} (each : EachEscape written)
    (inside : part <:+ written) : EachEscape part :=
  fun later suffix => each later (suffix.trans inside)

theorem eachEscape_iff : EachEscape written ↔ ∃ bytes, Unescaped written bytes := by
  refine ⟨exists_unescaped (fun _ each => each.of_suffix (List.suffix_cons _ _)) ?_,
    fun ⟨_, read⟩ => read.eachEscape⟩
  intro later each
  obtain ⟨high, low, rest, rfl, highDigit, lowDigit⟩ := each later (List.suffix_refl _)
  obtain ⟨h, highDigit⟩ := Option.isSome_iff_exists.mp highDigit
  obtain ⟨l, lowDigit⟩ := Option.isSome_iff_exists.mp lowDigit
  have behind : rest <:+ '%' :: high :: low :: rest := ⟨['%', high, low], rfl⟩
  exact ⟨high, low, rest, h, l, rfl, highDigit, lowDigit, each.of_suffix behind⟩

theorem exists_cons_of_nibble? {b : UInt8} {rest : List UInt8} {n : Nat}
    (encoded : written.flatMap String.utf8EncodeChar = b :: rest)
    (digit : Hex.nibble? b = some n) :
    ∃ c later, written = c :: later ∧ Hex.digit? c = some n ∧
      later.flatMap String.utf8EncodeChar = rest := by
  cases written with
  | nil => simp at encoded
  | cons c later =>
    rw [List.flatMap_cons] at encoded
    rcases Utf8.encodeChar_cases c with ⟨ascii, bytes⟩ | ⟨-, lead, others, bytes, high, -⟩
    · rw [bytes, List.singleton_append] at encoded
      obtain ⟨rfl, rfl⟩ := List.cons.inj encoded
      exact ⟨c, later, rfl, (nibble?_ascii ascii).symm.trans digit, rfl⟩
    · rw [bytes, List.cons_append] at encoded
      obtain ⟨rfl, -⟩ := List.cons.inj encoded
      have small := toNat_lt_of_digit? digit
      rw [Utf8.toNat_ofNat_byte] at small
      omega

/-- The check on the bytes accepts the texts that have an escape at each escape sign. -/
theorem wellFormed_iff :
    wellFormed (written.flatMap String.utf8EncodeChar) = true ↔ EachEscape written := by
  rw [eachEscape_iff]
  refine ⟨exists_unescaped (P := fun written =>
    wellFormed (written.flatMap String.utf8EncodeChar) = true) ?raw ?escape,
    fun ⟨_, read⟩ => read.decode.1⟩
  case raw =>
    intro c rest other formed
    rwa [List.flatMap_cons, wellFormed_append (sign_not_mem_encodeChar other)] at formed
  case escape =>
    intro later formed
    have opened : ('%' :: later).flatMap String.utf8EncodeChar =
        sign :: later.flatMap String.utf8EncodeChar := rfl
    rw [opened, wellFormed.eq_def] at formed
    simp only [if_pos] at formed
    split at formed
    next high low rest bytes =>
      simp only [Bool.and_eq_true, Option.isSome_iff_exists] at formed
      obtain ⟨⟨⟨h, highNibble⟩, l, lowNibble⟩, formed⟩ := formed
      obtain ⟨c, others, rfl, highDigit, bytes⟩ := exists_cons_of_nibble? bytes highNibble
      obtain ⟨d, rest, rfl, lowDigit, rfl⟩ := exists_cons_of_nibble? bytes lowNibble
      exact ⟨c, d, rest, h, l, rfl, highDigit, lowDigit, formed⟩
    next => contradiction

/-- The bytes that are read are those that the decoder gives, and no others. -/
theorem unescaped_iff :
    Unescaped written bytes ↔
      EachEscape written ∧ Percent.decode (written.flatMap String.utf8EncodeChar) = bytes := by
  constructor
  · exact fun read => ⟨read.eachEscape, read.decode.2⟩
  · rintro ⟨each, rfl⟩
    obtain ⟨bytes, read⟩ := eachEscape_iff.mp each
    exact read.decode.2.symm ▸ read

end ImageGateway.Percent
