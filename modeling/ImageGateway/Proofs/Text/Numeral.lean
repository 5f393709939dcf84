import Mathlib.Data.Nat.Digits.Defs
import ImageGateway.Text.Numeral

/-! Which texts are integers, and which integers they are. A text is read exactly when it is a sign
or none and then ASCII digits, and when the number that the digits are by their places fits. -/
namespace ImageGateway.Numeral

/-- One ASCII digit or more. Each of them counts by its place from the right. -/
structure Digits (cs : List Char) (n : Nat) : Prop where
  filled : cs ≠ []
  ascii : ∀ c ∈ cs, '0' ≤ c ∧ c ≤ '9'
  value : Nat.ofDigits 10 (cs.reverse.map fun c => c.toNat - '0'.toNat) = n

/-- Digits, with or without a plus sign. -/
inductive Natural : List Char → Nat → Prop where
  | bare {cs : List Char} {n : Nat} (digits : Digits cs n) : Natural cs n
  | plus {cs : List Char} {n : Nat} (digits : Digits cs n) : Natural ('+' :: cs) n

/-- Digits, with or without a sign of either kind. -/
inductive Whole : List Char → Int → Prop where
  | natural {cs : List Char} {n : Nat} (natural : Natural cs n) : Whole cs n
  | minus {cs : List Char} {n : Nat} (digits : Digits cs n) : Whole ('-' :: cs) (-n)

variable {cs : List Char} {n : Nat} {z : Int} {bits : Nat} {s : String}

theorem value_eq_ofDigits (cs : List Char) :
    value cs = Nat.ofDigits 10 (cs.reverse.map fun c => c.toNat - '0'.toNat) := by
  rw [Nat.ofDigits_eq_foldr, List.foldr_map, List.foldr_reverse, value]
  simp only [Nat.cast_id, Nat.add_comm]

theorem isDigit_iff {c : Char} : c.isDigit = true ↔ '0' ≤ c ∧ c ≤ '9' := by
  simp [Char.isDigit, Char.le_def]

theorem digits_iff : Digits cs n ↔ isDigits cs = true ∧ value cs = n := by
  have ascii : cs.all Char.isDigit = true ↔ ∀ c ∈ cs, '0' ≤ c ∧ c ≤ '9' := by
    simp only [List.all_eq_true, isDigit_iff]
  rw [isDigits, Bool.and_eq_true, ascii, value_eq_ofDigits]
  constructor
  · exact fun digits => ⟨⟨by simpa using digits.filled, digits.ascii⟩, digits.value⟩
  · exact fun ⟨⟨filled, ascii⟩, value⟩ => ⟨by simpa using filled, ascii, value⟩

theorem Digits.not_sign {c : Char} (sign : c < '0') (digits : Digits (c :: cs) n) : False :=
  absurd (digits.ascii c List.mem_cons_self).1 (Char.not_le.mpr sign)

theorem natural_plus : Natural ('+' :: cs) n ↔ Digits cs n := by
  constructor
  · rintro (digits | digits)
    · exact (digits.not_sign (by decide)).elim
    · exact digits
  · exact .plus

theorem natural_bare (unsigned : ∀ rest, cs ≠ '+' :: rest) : Natural cs n ↔ Digits cs n := by
  constructor
  · rintro (digits | digits)
    · exact digits
    · exact absurd rfl (unsigned _)
  · exact .bare

theorem Natural.filled (natural : Natural cs n) : cs ≠ [] := by
  cases natural with
  | bare digits => exact digits.filled
  | plus => exact List.cons_ne_nil _ _

theorem Whole.filled (whole : Whole cs z) : cs ≠ [] := by
  cases whole with
  | natural natural => exact natural.filled
  | minus => exact List.cons_ne_nil _ _

theorem whole_minus : Whole ('-' :: cs) z ↔ ∃ n : Nat, Digits cs n ∧ z = -n := by
  constructor
  · rintro (natural | digits)
    · cases natural with
      | bare digits => exact (digits.not_sign (by decide)).elim
    · exact ⟨_, digits, rfl⟩
  · rintro ⟨n, digits, rfl⟩
    exact .minus digits

theorem whole_natural (positive : ∀ rest, cs ≠ '-' :: rest) :
    Whole cs z ↔ ∃ n : Nat, Natural cs n ∧ z = n := by
  constructor
  · rintro (natural | digits)
    · exact ⟨_, natural, rfl⟩
    · exact absurd rfl (positive _)
  · rintro ⟨n, natural, rfl⟩
    exact .natural natural

theorem fits_iff :
    (if isDigits cs && value cs < 1 <<< bits then some (value cs) else none) = some n ↔
      Digits cs n ∧ n < 2 ^ bits := by
  rw [digits_iff, Nat.one_shiftLeft]
  simp only [Option.ite_none_right_eq_some, Bool.and_eq_true, decide_eq_true_eq,
    Option.some.injEq]
  constructor
  · rintro ⟨⟨digits, fits⟩, rfl⟩
    exact ⟨⟨digits, rfl⟩, fits⟩
  · rintro ⟨⟨digits, rfl⟩, fits⟩
    exact ⟨⟨digits, fits⟩, rfl⟩

theorem unsigned_eq_some_iff :
    unsigned bits s = some n ↔ Natural s.toList n ∧ n < 2 ^ bits := by
  rw [unsigned]
  split
  next plus => rw [plus, natural_plus, fits_iff]
  next other => rw [natural_bare other, fits_iff]

/-- Behind a minus sign there is room for one number more. -/
theorem signed_minus (minus : s.toList = '-' :: cs) :
    signed bits s = some z ↔ ∃ n : Nat, Digits cs n ∧ n ≤ 2 ^ (bits - 1) ∧ z = -n := by
  simp only [signed, minus, Nat.one_shiftLeft, digits_iff, Option.ite_none_right_eq_some,
    Bool.and_eq_true, decide_eq_true_eq, Option.some.injEq]
  constructor
  · rintro ⟨⟨digits, fits⟩, rfl⟩
    exact ⟨value cs, ⟨digits, rfl⟩, fits, rfl⟩
  · rintro ⟨n, ⟨digits, rfl⟩, fits, rfl⟩
    exact ⟨⟨digits, fits⟩, rfl⟩

theorem signed_natural (positive : ∀ rest, s.toList ≠ '-' :: rest) :
    signed bits s = (unsigned (bits - 1) s).map Nat.cast := by
  unfold signed
  split
  next minus => exact absurd minus (positive _)
  next =>
    simp only [unsigned, Option.map_if]
    split <;> rfl

theorem signed_eq_some_iff :
    signed bits s = some z ↔
      Whole s.toList z ∧ -(2 ^ (bits - 1) : Nat) ≤ z ∧ z < (2 ^ (bits - 1) : Nat) := by
  by_cases negative : ∃ rest, s.toList = '-' :: rest
  · obtain ⟨rest, minus⟩ := negative
    rw [signed_minus minus, minus, whole_minus]
    constructor
    · rintro ⟨n, digits, fits, rfl⟩
      exact ⟨⟨n, digits, rfl⟩, by omega, by have := Nat.two_pow_pos (bits - 1); omega⟩
    · rintro ⟨⟨n, digits, rfl⟩, least, -⟩
      exact ⟨n, digits, by omega, rfl⟩
  · have positive : ∀ rest, s.toList ≠ '-' :: rest := by simpa using negative
    rw [signed_natural positive, whole_natural positive, Option.map_eq_some_iff]
    simp only [unsigned_eq_some_iff]
    constructor
    · rintro ⟨n, ⟨natural, fits⟩, rfl⟩
      exact ⟨⟨n, natural, rfl⟩, by omega, by omega⟩
    · rintro ⟨⟨n, natural, rfl⟩, -, most⟩
      exact ⟨n, ⟨natural, by omega⟩, rfl⟩

theorem natural_toString (n : Nat) : Natural (toString n).toList n := by
  have digits : (toString n).toList = Nat.toDigits 10 n := Nat.toList_repr
  rw [digits]
  refine .bare (digits_iff.mpr ⟨?_, Nat.ofDigitChars_toDigits (by decide) (by decide)⟩)
  rw [isDigits, Bool.and_eq_true, List.all_eq_true]
  exact ⟨by simp, fun c => Nat.isDigit_of_mem_toDigits (by decide) (by decide)⟩

end ImageGateway.Numeral
