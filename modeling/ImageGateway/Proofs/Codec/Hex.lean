import ImageGateway.Codec.Hex
import ImageGateway.Proofs.Codec.Utf8
import ImageGateway.Text.Pieces

/-! What decodes from hexadecimal: the texts that are the digits of the bytes, but for the case of
letters. -/
namespace ImageGateway.Hex

def pair (b : UInt8) : List Char := [Nat.digitChar (b.toNat / 16), Nat.digitChar (b.toNat % 16)]

def lower (b : UInt8) : Char := (Char.ofNat b.toNat).toLower

theorem digit?_ascii : ∀ k ∈ List.range 128,
    (∀ n ∈ digit? (Char.ofNat k), n < 16) ∧
    ∀ n ∈ List.range 16,
      digit? (Char.ofNat k) = some n ↔ (Char.ofNat k).toLower = Nat.digitChar n := by
  decide +kernel

theorem toLower_of_large {c : Char} (large : 128 ≤ c.toNat) : c.toLower = c := by
  have past : ¬c.val ≤ 'Z'.val := fun below => by
    have small : c.toNat ≤ 90 := below
    omega
  exact dif_neg fun letter => past letter.2

theorem toNat_digitChar_lt {n : Nat} (small : n < 16) : (Nat.digitChar n).toNat < 128 := by
  have all : ∀ n < 16, (Nat.digitChar n).toNat < 128 := by decide
  exact all n small

theorem digit?_eq_some_iff {c : Char} {n : Nat} :
    digit? c = some n ↔ n < 16 ∧ c.toLower = Nat.digitChar n := by
  by_cases ascii : c.toNat < 128
  · obtain ⟨bounded, same⟩ := digit?_ascii c.toNat (List.mem_range.mpr ascii)
    rw [Char.ofNat_toNat] at bounded same
    constructor
    · intro found
      have small := bounded n found
      exact ⟨small, (same n (List.mem_range.mpr small)).mp found⟩
    · rintro ⟨small, lower⟩
      exact (same n (List.mem_range.mpr small)).mpr lower
  · have large := Nat.le_of_not_lt ascii
    have below (d : Char) (small : d.toNat < 128) : ¬c ≤ d := fun le => by
      have bounded : c.toNat ≤ d.toNat := le
      omega
    have none : digit? c = none := by
      simp [digit?, below '9' (by decide), below 'f' (by decide), below 'F' (by decide)]
    rw [none]
    refine iff_of_false nofun ?_
    rintro ⟨small, same⟩
    have bounded := toNat_digitChar_lt small
    rw [← same, toLower_of_large large] at bounded
    omega

theorem digits_iff {high low : Char} {b : UInt8} :
    (∃ h l, digit? high = some h ∧ digit? low = some l ∧ UInt8.ofNat (16 * h + l) = b) ↔
      [high.toLower, low.toLower] = pair b := by
  have size := b.toNat_lt
  simp only [digit?_eq_some_iff, pair, List.cons.injEq, and_true]
  constructor
  · rintro ⟨h, l, ⟨smallHigh, first⟩, ⟨smallLow, second⟩, rfl⟩
    have value : (UInt8.ofNat (16 * h + l)).toNat = 16 * h + l := by
      rw [UInt8.toNat_ofNat']
      omega
    have quotient : (16 * h + l) / 16 = h := by omega
    have remainder : (16 * h + l) % 16 = l := by omega
    rw [value, quotient, remainder]
    exact ⟨first, second⟩
  · rintro ⟨first, second⟩
    have whole : 16 * (b.toNat / 16) + b.toNat % 16 = b.toNat := by omega
    exact ⟨b.toNat / 16, b.toNat % 16, ⟨by omega, first⟩, ⟨by omega, second⟩,
      by rw [whole, UInt8.ofNat_toNat]⟩

theorem nibbles_iff {high low b : UInt8} :
    (∃ h l, nibble? high = some h ∧ nibble? low = some l ∧ UInt8.ofNat (16 * h + l) = b) ↔
      [lower high, lower low] = pair b :=
  digits_iff

theorem decodePairs_cons {position : Nat} {high low : UInt8} {rest bytes : List UInt8} :
    decodePairs position (high :: low :: rest) = .ok bytes ↔
      ∃ b tail, [lower high, lower low] = pair b ∧ decodePairs (position + 2) rest = .ok tail ∧
        bytes = b :: tail := by
  simp only [← nibbles_iff]
  rw [decodePairs]
  constructor
  · intro decoded
    split at decoded
    next => contradiction
    next => contradiction
    next h l first second =>
      cases later : decodePairs (position + 2) rest with
      | error fault =>
        rw [later] at decoded
        contradiction
      | ok tail =>
        rw [later] at decoded
        exact ⟨_, tail, ⟨h, l, first, second, rfl⟩, rfl, (Except.ok.inj decoded).symm⟩
  · rintro ⟨b, tail, ⟨h, l, first, second, rfl⟩, later, rfl⟩
    rw [first, second, later]
    rfl

theorem decodePairs_ok : ∀ {position : Nat} {digits bytes : List UInt8},
    decodePairs position digits = .ok bytes ↔ digits.map lower = bytes.flatMap pair
  | _, [], bytes => by cases bytes <;> simp [decodePairs, pair]
  | _, [_], bytes => by cases bytes <;> simp [decodePairs, pair]
  | position, high :: low :: rest, bytes => by
    simp only [decodePairs_cons, @decodePairs_ok (position + 2) rest]
    cases bytes with
    | nil => simp
    | cons b tail => simp [pair, ← and_assoc]

/-- Nothing but pairs of digits decodes, so the length is even without being asked for. -/
theorem decode_ok {digits bytes : List UInt8} :
    decode digits = .ok bytes ↔ digits.map lower = bytes.flatMap pair := by
  rw [← @decodePairs_ok 0, decode]
  split
  next odd =>
    refine iff_of_false nofun fun decoded => ?_
    have sizes := congrArg List.length (decodePairs_ok.mp decoded)
    have twice : (bytes.flatMap pair).length = 2 * bytes.length := by
      simp [List.length_flatMap, pair, List.map_const', Nat.mul_comm]
    rw [List.length_map, twice] at sizes
    omega
  next => rfl

theorem toList_encode (bytes : List UInt8) : (encode bytes).toList = bytes.flatMap pair :=
  String.toList_ofList

theorem ascii_of_mem_digits {bytes : List UInt8} {d : Char} (member : d ∈ bytes.flatMap pair) :
    d.toNat < 128 := by
  obtain ⟨b, -, digit⟩ := List.mem_flatMap.mp member
  have size := b.toNat_lt
  simp only [pair, List.mem_cons, List.not_mem_nil, or_false] at digit
  rcases digit with rfl | rfl
  · exact toNat_digitChar_lt (by omega)
  · exact toNat_digitChar_lt (by omega)

theorem map_lower_ascii {cs : List Char} (ascii : ∀ c ∈ cs, c.toNat < 128) :
    (cs.flatMap String.utf8EncodeChar).map lower = cs.map Char.toLower := by
  induction cs with
  | nil => rfl
  | cons c rest ih =>
    obtain ⟨small, others⟩ := List.forall_mem_cons.mp ascii
    have byte : (UInt8.ofNat c.toNat).toNat = c.toNat := by
      rw [UInt8.toNat_ofNat']
      omega
    rw [List.flatMap_cons, Utf8.encodeChar_ascii small, List.singleton_append, List.map_cons,
      List.map_cons, ih others, lower, byte, Char.ofNat_toNat]

/-- A text decodes to the bytes whose digits it holds, letters in either case. -/
theorem decode_encode_ok {s : String} {bytes : List UInt8} :
    decode (Utf8.encode s) = .ok bytes ↔ Text.lowerAscii s = encode bytes := by
  rw [decode_ok, ← String.toList_inj, toList_encode, Text.lowerAscii, String.toList_ofList,
    Utf8.encode_eq_flatMap]
  by_cases ascii : ∀ c ∈ s.toList, c.toNat < 128
  · rw [map_lower_ascii ascii]
  · -- A character past ASCII is no digit, and neither is its first byte.
    obtain ⟨c, member, large⟩ : ∃ c ∈ s.toList, 128 ≤ c.toNat := by simpa using ascii
    refine iff_of_false (fun same => ?_) fun same => ?_
    · obtain ⟨b, first, high⟩ : ∃ b ∈ String.utf8EncodeChar c, 128 ≤ b.toNat := by
        rcases Utf8.encodeChar_cases c with ⟨small, -⟩ | ⟨-, lead, rest, bytes, high, -⟩
        · omega
        · exact ⟨lead, by simp [bytes], by omega⟩
      have digit := ascii_of_mem_digits
        (same ▸ List.mem_map_of_mem (List.mem_flatMap.mpr ⟨c, member, first⟩))
      have whole := Utf8.toNat_ofNat_byte b
      rw [lower, toLower_of_large (by omega), whole] at digit
      omega
    · have digit := ascii_of_mem_digits (same ▸ List.mem_map_of_mem member)
      rw [toLower_of_large large] at digit
      omega

end ImageGateway.Hex
