import ImageGateway.Color
import ImageGateway.Proofs.Codec.Hex

/-! Which texts are colours. A text of three digits is the text of six with each digit twice, and a
text of six is the bytes of the three channels. No channel wraps around. -/
namespace ImageGateway

namespace Hex

def IsDigit (c : Char) : Prop :=
  ('0' ≤ c ∧ c ≤ '9') ∨ ('a' ≤ c ∧ c ≤ 'f') ∨ ('A' ≤ c ∧ c ≤ 'F')

instance (c : Char) : Decidable (IsDigit c) := inferInstanceAs (Decidable (_ ∨ _ ∨ _))

theorem isDigit_iff {c : Char} : IsDigit c ↔ ∃ n, digit? c = some n := by
  simp only [IsDigit, digit?, Bool.and_eq_true, decide_eq_true_eq]
  split
  next numeral => exact iff_of_true (.inl numeral) ⟨_, rfl⟩
  next numeral =>
    split
    next small => exact iff_of_true (.inr (.inl small)) ⟨_, rfl⟩
    next small =>
      split
      next large => exact iff_of_true (.inr (.inr large)) ⟨_, rfl⟩
      next large =>
        exact iff_of_false (fun digit => digit.elim numeral (Or.elim · small large)) (by simp)

theorem digit?_lt {c : Char} {n : Nat} (found : digit? c = some n) : n < 16 :=
  (digit?_eq_some_iff.mp found).1

end Hex

namespace Color

def twice (cs : List Char) : List Char := cs.flatMap fun c => [c, c]

variable {c high low : Char} {b : UInt8} {cs : List Char} {s : String}

theorem length_twice (cs : List Char) : (twice cs).length = 2 * cs.length := by
  simp [twice, List.length_flatMap, List.map_const', Nat.mul_comm]

theorem mem_twice : c ∈ twice cs ↔ c ∈ cs := by
  simp [twice]

/-- A digit spreads over a channel by being written twice. -/
theorem shortChannel?_eq (c : Char) : shortChannel? c = longChannel? c c := by
  rw [shortChannel?, longChannel?]
  cases Hex.digit? c with
  | none => rfl
  | some n =>
    have twice : 17 * n = 16 * n + n := by omega
    exact congrArg (fun level => some (UInt8.ofNat level)) twice

theorem longChannel?_eq_some_iff :
    longChannel? high low = some b ↔ [high.toLower, low.toLower] = Hex.pair b := by
  rw [← Hex.digits_iff]
  simp [longChannel?, Option.bind_eq_some_iff]

theorem longChannel?_isSome_iff :
    (∃ b, longChannel? high low = some b) ↔ Hex.IsDigit high ∧ Hex.IsDigit low := by
  rw [Hex.isDigit_iff, Hex.isDigit_iff, longChannel?]
  cases Hex.digit? high <;> cases Hex.digit? low <;> simp

/-- Two digits never exceed a byte, and neither does one that is written twice. -/
theorem toNat_longChannel? {h l : Nat} (first : Hex.digit? high = some h)
    (second : Hex.digit? low = some l) :
    (longChannel? high low).map UInt8.toNat = some (16 * h + l) := by
  have fits : 16 * h + l < 256 := by
    have := Hex.digit?_lt first
    have := Hex.digit?_lt second
    omega
  rw [longChannel?, first, second]
  exact congrArg some (UInt8.toNat_ofNat_of_lt' fits)

theorem toNat_shortChannel? {n : Nat} (found : Hex.digit? c = some n) :
    (shortChannel? c).map UInt8.toNat = some (17 * n) := by
  rw [shortChannel?_eq, toNat_longChannel? found found]
  congr 1
  omega

theorem ofHex_eq_ok_iff {color : Color} :
    ofHex s = .ok color ↔ ofHexDigits? s.toList = some color := by
  rw [ofHex]
  split
  next found => rw [found, Except.ok.injEq, Option.some.injEq]
  next missing => rw [missing]; exact iff_of_false nofun nofun

theorem ofHexDigits?_twice (three : cs.length = 3) : ofHexDigits? cs = ofHexDigits? (twice cs) := by
  match cs, three with
  | [r, g, b], _ =>
    simp only [ofHexDigits?, shortChannel?_eq, twice, List.flatMap_cons, List.flatMap_nil,
      List.cons_append, List.nil_append]

theorem ofHexDigits?_pairs {r r' g g' b b' : Char} {red green blue : UInt8} :
    ofHexDigits? [r, r', g, g', b, b'] = some ⟨red, green, blue⟩ ↔
      longChannel? r r' = some red ∧ longChannel? g g' = some green ∧
        longChannel? b b' = some blue := by
  simp only [ofHexDigits?]
  cases longChannel? r r' <;> cases longChannel? g g' <;> cases longChannel? b b' <;> simp

theorem ofHexDigits?_six (six : cs.length = 6) {r g b : UInt8} :
    ofHexDigits? cs = some ⟨r, g, b⟩ ↔ cs.map Char.toLower = [r, g, b].flatMap Hex.pair := by
  match cs, six with
  | [_, _, _, _, _, _], _ =>
    rw [ofHexDigits?_pairs]
    simp [longChannel?_eq_some_iff, Hex.pair, and_assoc]

theorem exists_ofHexDigits?_six (six : cs.length = 6) :
    (∃ color, ofHexDigits? cs = some color) ↔ ∀ c ∈ cs, Hex.IsDigit c := by
  match cs, six with
  | [r, r', g, g', b, b'], _ =>
    have channels : (∃ color, ofHexDigits? [r, r', g, g', b, b'] = some color) ↔
        (∃ n, longChannel? r r' = some n) ∧ (∃ n, longChannel? g g' = some n) ∧
          ∃ n, longChannel? b b' = some n := by
      constructor
      · rintro ⟨⟨red, green, blue⟩, read⟩
        obtain ⟨first, second, third⟩ := ofHexDigits?_pairs.mp read
        exact ⟨⟨red, first⟩, ⟨green, second⟩, blue, third⟩
      · rintro ⟨⟨red, first⟩, ⟨green, second⟩, blue, third⟩
        exact ⟨⟨red, green, blue⟩, ofHexDigits?_pairs.mpr ⟨first, second, third⟩⟩
    rw [channels]
    simp [longChannel?_isSome_iff, and_assoc]

theorem length_of_ofHexDigits? {color : Color}
    (read : ofHexDigits? cs = some color) : cs.length = 3 ∨ cs.length = 6 := by
  unfold ofHexDigits? at read
  split at read
  next => exact .inl rfl
  next => exact .inr rfl
  next => contradiction

/-- Three digits are read, or six, and nothing else. -/
theorem exists_ofHexDigits? :
    (∃ color, ofHexDigits? cs = some color) ↔
      (cs.length = 3 ∨ cs.length = 6) ∧ ∀ c ∈ cs, Hex.IsDigit c := by
  by_cases sized : cs.length = 3 ∨ cs.length = 6
  · rw [and_iff_right sized]
    rcases sized with three | six
    · rw [ofHexDigits?_twice three, exists_ofHexDigits?_six (by rw [length_twice, three])]
      simp only [mem_twice]
    · exact exists_ofHexDigits?_six six
  · exact iff_of_false (fun ⟨_, read⟩ => sized (length_of_ofHexDigits? read))
      fun both => sized both.1

theorem ofHex_of_encode {r g b : UInt8} (spelled : Text.lowerAscii s = Hex.encode [r, g, b]) :
    ofHex s = .ok ⟨r, g, b⟩ := by
  have same : s.toList.map Char.toLower = [r, g, b].flatMap Hex.pair := by
    rw [← Hex.toList_encode, ← spelled, Text.lowerAscii, String.toList_ofList]
  have six : s.toList.length = 6 := by simpa [Hex.pair] using congrArg List.length same
  exact ofHex_eq_ok_iff.mpr ((ofHexDigits?_six six).mpr same)

end Color
end ImageGateway
