import ImageGateway.Codec.Base64Url

/-! Texts in base64 and byte lists correspond one to one: decoding undoes encoding, and a text that
can be decoded is the encoding of its bytes. -/
namespace ImageGateway.Base64Url

theorem sextet?_digit {n : Nat} (bound : n < 64) : sextet? (digit n) = some n := by
  -- There are few enough digits to try them all.
  have all : ∀ n ∈ List.range 64, sextet? (digit n) = some n := by decide
  exact all n (List.mem_range.mpr bound)

theorem ofNat_add_distance {first c : Char} (above : first ≤ c) :
    Char.ofNat (first.toNat + (c.toNat - first.toNat)) = c := by
  have ordered : first.toNat ≤ c.toNat := above
  rw [Nat.add_sub_cancel' ordered, Char.ofNat_toNat]

theorem digit_of_sextet? {c : Char} {n : Nat} (known : sextet? c = some n) :
    n < 64 ∧ c = digit n := by
  unfold sextet? at known
  split at known
  next upper =>
    simp only [Bool.and_eq_true, decide_eq_true_eq] at upper
    have last : c.toNat ≤ 90 := upper.2
    obtain rfl := Option.some.inj known
    have below : c.toNat - 'A'.toNat < 26 := by simp; omega
    refine ⟨by omega, ?_⟩
    rw [digit, if_pos below, ofNat_add_distance upper.1]
  split at known
  next lower =>
    simp only [Bool.and_eq_true, decide_eq_true_eq] at lower
    have last : c.toNat ≤ 122 := lower.2
    obtain rfl := Option.some.inj known
    have below : c.toNat - 'a'.toNat < 26 := by simp; omega
    refine ⟨by omega, ?_⟩
    rw [digit, if_neg (by omega), if_pos (by omega), Nat.add_sub_cancel, ofNat_add_distance lower.1]
  split at known
  next decimal =>
    simp only [Bool.and_eq_true, decide_eq_true_eq] at decimal
    have last : c.toNat ≤ 57 := decimal.2
    obtain rfl := Option.some.inj known
    have below : c.toNat - '0'.toNat < 10 := by simp; omega
    refine ⟨by omega, ?_⟩
    rw [digit, if_neg (by omega), if_neg (by omega), if_pos (by omega), Nat.add_sub_cancel,
      ofNat_add_distance decimal.1]
  split at known
  next dash => obtain rfl := Option.some.inj known; exact ⟨by omega, dash⟩
  split at known
  next bar => obtain rfl := Option.some.inj known; exact ⟨by omega, bar⟩
  next => contradiction

theorem ofNat_eq {b : UInt8} {n : Nat} (value : n = b.toNat) : UInt8.ofNat n = b := by
  rw [value, UInt8.ofNat_toNat]

/-- With the bound as a numeral, which arithmetic can see. -/
theorem toNat_ofNat {n : Nat} (bound : n < 256) : (UInt8.ofNat n).toNat = n :=
  UInt8.toNat_ofNat_of_lt' bound

theorem decode?_encode (bytes : List UInt8) : decode? (encode bytes) = some bytes := by
  fun_induction encode bytes with
  | case1 => rfl
  | case2 a =>
    have ha := a.toNat_lt
    have p : sextet? (digit (a.toNat / 4)) = some (a.toNat / 4) := sextet?_digit (by omega)
    have q : sextet? (digit (a.toNat % 4 * 16)) = some (a.toNat % 4 * 16) := sextet?_digit (by omega)
    have first : a.toNat / 4 * 4 + a.toNat % 4 * 16 / 16 = a.toNat := by omega
    simp only [decode?, p, q, Option.bind_eq_bind, Option.bind_some]
    rw [if_pos (by omega), ofNat_eq first]
  | case3 a b =>
    have ha := a.toNat_lt
    have hb := b.toNat_lt
    have p : sextet? (digit (a.toNat / 4)) = some (a.toNat / 4) := sextet?_digit (by omega)
    have q : sextet? (digit (a.toNat % 4 * 16 + b.toNat / 16)) =
        some (a.toNat % 4 * 16 + b.toNat / 16) := sextet?_digit (by omega)
    have r : sextet? (digit (b.toNat % 16 * 4)) = some (b.toNat % 16 * 4) := sextet?_digit (by omega)
    have first : a.toNat / 4 * 4 + (a.toNat % 4 * 16 + b.toNat / 16) / 16 = a.toNat := by omega
    have second : (a.toNat % 4 * 16 + b.toNat / 16) % 16 * 16 + b.toNat % 16 * 4 / 4 = b.toNat := by
      omega
    simp only [decode?, p, q, r, Option.bind_eq_bind, Option.bind_some]
    rw [if_pos (by omega), ofNat_eq first, ofNat_eq second]
  | case4 a b c rest ih =>
    have ha := a.toNat_lt
    have hb := b.toNat_lt
    have hc := c.toNat_lt
    have p : sextet? (digit (a.toNat / 4)) = some (a.toNat / 4) := sextet?_digit (by omega)
    have q : sextet? (digit (a.toNat % 4 * 16 + b.toNat / 16)) =
        some (a.toNat % 4 * 16 + b.toNat / 16) := sextet?_digit (by omega)
    have r : sextet? (digit (b.toNat % 16 * 4 + c.toNat / 64)) =
        some (b.toNat % 16 * 4 + c.toNat / 64) := sextet?_digit (by omega)
    have s : sextet? (digit (c.toNat % 64)) = some (c.toNat % 64) := sextet?_digit (by omega)
    have first : a.toNat / 4 * 4 + (a.toNat % 4 * 16 + b.toNat / 16) / 16 = a.toNat := by omega
    have second : (a.toNat % 4 * 16 + b.toNat / 16) % 16 * 16 +
        (b.toNat % 16 * 4 + c.toNat / 64) / 4 = b.toNat := by omega
    have third : (b.toNat % 16 * 4 + c.toNat / 64) % 4 * 64 + c.toNat % 64 = c.toNat := by omega
    simp only [decode?, p, q, r, s, ih, Option.bind_eq_bind, Option.bind_some]
    rw [ofNat_eq first, ofNat_eq second, ofNat_eq third]
    rfl

/-- Left-over bits that are not zero would give the same bytes a second text; they are refused. -/
theorem eq_encode_of_decode? {cs : List Char} {bytes : List UInt8}
    (decoded : decode? cs = some bytes) : cs = encode bytes := by
  fun_induction decode? cs generalizing bytes with
  | case1 => obtain rfl := Option.some.inj decoded; rfl
  | case2 => contradiction
  | case3 w x =>
    simp only [Option.bind_eq_bind, Option.bind_eq_some_iff, Option.ite_none_right_eq_some] at decoded
    obtain ⟨p, hp, q, hq, spare, decoded⟩ := decoded
    obtain ⟨pBound, rfl⟩ := digit_of_sextet? hp
    obtain ⟨qBound, rfl⟩ := digit_of_sextet? hq
    obtain rfl := Option.some.inj decoded
    -- The bits of the last digit that no byte takes are zero, so the bytes give the digit back.
    have first : (UInt8.ofNat (p * 4 + q / 16)).toNat = p * 4 + q / 16 := toNat_ofNat (by omega)
    have hp : (p * 4 + q / 16) / 4 = p := by omega
    have hq : (p * 4 + q / 16) % 4 * 16 = q := by omega
    rw [encode, first, hp, hq]
  | case4 w x y =>
    simp only [Option.bind_eq_bind, Option.bind_eq_some_iff, Option.ite_none_right_eq_some] at decoded
    obtain ⟨p, hp, q, hq, r, hr, spare, decoded⟩ := decoded
    obtain ⟨pBound, rfl⟩ := digit_of_sextet? hp
    obtain ⟨qBound, rfl⟩ := digit_of_sextet? hq
    obtain ⟨rBound, rfl⟩ := digit_of_sextet? hr
    obtain rfl := Option.some.inj decoded
    have first : (UInt8.ofNat (p * 4 + q / 16)).toNat = p * 4 + q / 16 := toNat_ofNat (by omega)
    have second : (UInt8.ofNat (q % 16 * 16 + r / 4)).toNat = q % 16 * 16 + r / 4 :=
      toNat_ofNat (by omega)
    have hp : (p * 4 + q / 16) / 4 = p := by omega
    have hq : (p * 4 + q / 16) % 4 * 16 + (q % 16 * 16 + r / 4) / 16 = q := by omega
    have hr : (q % 16 * 16 + r / 4) % 16 * 4 = r := by omega
    rw [encode, first, second, hp, hq, hr]
  | case5 w x y z rest ih =>
    simp only [Option.bind_eq_bind, Option.bind_eq_some_iff] at decoded
    obtain ⟨p, hp, q, hq, r, hr, s, hs, tail, remaining, decoded⟩ := decoded
    obtain ⟨pBound, rfl⟩ := digit_of_sextet? hp
    obtain ⟨qBound, rfl⟩ := digit_of_sextet? hq
    obtain ⟨rBound, rfl⟩ := digit_of_sextet? hr
    obtain ⟨sBound, rfl⟩ := digit_of_sextet? hs
    obtain rfl := Option.some.inj decoded
    have first : (UInt8.ofNat (p * 4 + q / 16)).toNat = p * 4 + q / 16 := toNat_ofNat (by omega)
    have second : (UInt8.ofNat (q % 16 * 16 + r / 4)).toNat = q % 16 * 16 + r / 4 :=
      toNat_ofNat (by omega)
    have third : (UInt8.ofNat (r % 4 * 64 + s)).toNat = r % 4 * 64 + s := toNat_ofNat (by omega)
    have hp : (p * 4 + q / 16) / 4 = p := by omega
    have hq : (p * 4 + q / 16) % 4 * 16 + (q % 16 * 16 + r / 4) / 16 = q := by omega
    have hr : (q % 16 * 16 + r / 4) % 16 * 4 + (r % 4 * 64 + s) / 64 = r := by omega
    have hs : (r % 4 * 64 + s) % 64 = s := by omega
    rw [encode, first, second, third, ← ih remaining, hp, hq, hr, hs]

theorem exists_digit_of_mem {bytes : List UInt8} {c : Char} (member : c ∈ encode bytes) :
    ∃ n, n < 64 ∧ c = digit n := by
  fun_induction encode bytes with
  | case1 => contradiction
  | case2 a =>
    have ha := a.toNat_lt
    rcases List.mem_cons.mp member with first | later
    · exact ⟨_, by omega, first⟩
    · exact ⟨_, by omega, List.mem_singleton.mp later⟩
  | case3 a b =>
    have ha := a.toNat_lt
    have hb := b.toNat_lt
    rcases List.mem_cons.mp member with first | later
    · exact ⟨_, by omega, first⟩
    rcases List.mem_cons.mp later with second | later
    · exact ⟨_, by omega, second⟩
    · exact ⟨_, by omega, List.mem_singleton.mp later⟩
  | case4 a b c rest ih =>
    have ha := a.toNat_lt
    have hb := b.toNat_lt
    have hc := c.toNat_lt
    rcases List.mem_cons.mp member with first | later
    · exact ⟨_, by omega, first⟩
    rcases List.mem_cons.mp later with second | later
    · exact ⟨_, by omega, second⟩
    rcases List.mem_cons.mp later with third | later
    · exact ⟨_, by omega, third⟩
    rcases List.mem_cons.mp later with fourth | later
    · exact ⟨_, by omega, fourth⟩
    · exact ih later

theorem not_mem_encode {c : Char} (other : sextet? c = none) (bytes : List UInt8) :
    c ∉ encode bytes := by
  intro member
  obtain ⟨n, bound, rfl⟩ := exists_digit_of_mem member
  exact absurd ((sextet?_digit bound).symm.trans other) (by simp)

theorem encode_cons (b : UInt8) (rest : List UInt8) :
    ∃ later, encode (b :: rest) = digit (b.toNat / 4) :: later := by
  match rest with
  | [] => exact ⟨_, rfl⟩
  | [_] => exact ⟨_, rfl⟩
  | _ :: _ :: _ => exact ⟨_, rfl⟩

end ImageGateway.Base64Url
