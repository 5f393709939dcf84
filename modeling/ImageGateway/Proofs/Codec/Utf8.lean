import ImageGateway.Codec.Utf8

/-! The bytes of single characters. ASCII characters are their own byte; in any other character
the first byte is at least 192 and all bytes are past ASCII, so that neither an escape sign nor a
continuation byte in front can come from it. -/
namespace ImageGateway.Utf8

theorem encode_eq_flatMap (s : String) : encode s = s.toList.flatMap String.utf8EncodeChar := by
  have bytes : s.toByteArray = s.toList.utf8Encode := by
    conv => lhs; rw [← String.ofList_toList (s := s)]
    rfl
  rw [encode, String.toUTF8_eq_toByteArray, bytes]
  exact List.toList_data_toByteArray

theorem toNat_ofNat_byte (b : UInt8) : (Char.ofNat b.toNat).toNat = b.toNat := by
  have size := b.toNat_lt
  rw [Char.ofNat, dif_pos (.inl (by omega))]
  rfl

/-- A character is one byte below 128, or a leading byte of at least 192 and then bytes of at
least 128. -/
theorem encodeChar_cases (c : Char) :
    (c.toNat < 128 ∧ String.utf8EncodeChar c = [UInt8.ofNat c.toNat]) ∨
    (128 ≤ c.toNat ∧ ∃ lead rest, String.utf8EncodeChar c = lead :: rest ∧ 192 ≤ lead.toNat ∧
      ∀ b ∈ rest, 128 ≤ b.toNat) := by
  have value (n : Nat) : (UInt8.ofNat n).toNat = n % 256 := UInt8.toNat_ofNat'
  have code : c.val.toNat = c.toNat := rfl
  unfold String.utf8EncodeChar
  simp only [code]
  split
  next one => exact .inl ⟨by omega, rfl⟩
  refine .inr ⟨by omega, ?_⟩
  split
  next two =>
    refine ⟨_, _, rfl, ?_, ?_⟩
    · rw [value]; omega
    · simp only [List.mem_singleton, forall_eq, value]; omega
  split
  next three =>
    refine ⟨_, _, rfl, ?_, ?_⟩
    · rw [value]; omega
    · simp only [List.mem_cons, List.not_mem_nil, or_false, forall_eq_or_imp, forall_eq, value]
      omega
  next four =>
    refine ⟨_, _, rfl, ?_, ?_⟩
    · rw [value]; omega
    · simp only [List.mem_cons, List.not_mem_nil, or_false, forall_eq_or_imp, forall_eq, value]
      omega

theorem encodeChar_ascii {c : Char} (ascii : c.toNat < 128) :
    String.utf8EncodeChar c = [UInt8.ofNat c.toNat] := by
  rcases encodeChar_cases c with ⟨_, bytes⟩ | ⟨high, _⟩
  · exact bytes
  · omega

theorem toNat_eq_of_mem {c : Char} {b : UInt8} (member : b ∈ String.utf8EncodeChar c)
    (ascii : b.toNat < 128) : c.toNat = b.toNat := by
  rcases encodeChar_cases c with ⟨small, bytes⟩ | ⟨_, lead, rest, bytes, high, others⟩
  · rw [bytes, List.mem_singleton] at member
    rw [member, UInt8.toNat_ofNat']
    omega
  · rw [bytes] at member
    rcases List.mem_cons.mp member with rfl | later
    · omega
    · have past := others b later
      omega

theorem encode_head {s : String} (filled : s ≠ "") :
    ∃ lead rest, encode s = lead :: rest ∧ (lead.toNat < 128 ∨ 192 ≤ lead.toNat) := by
  obtain ⟨c, cs, text⟩ := List.exists_cons_of_ne_nil (mt String.toList_eq_nil_iff.mp filled)
  rw [encode_eq_flatMap, text, List.flatMap_cons]
  rcases encodeChar_cases c with ⟨small, bytes⟩ | ⟨_, lead, rest, bytes, high, _⟩
  · refine ⟨UInt8.ofNat c.toNat, cs.flatMap String.utf8EncodeChar, by rw [bytes]; rfl, .inl ?_⟩
    rw [UInt8.toNat_ofNat']
    omega
  · exact ⟨lead, rest ++ cs.flatMap String.utf8EncodeChar, by rw [bytes]; rfl, .inr high⟩

end ImageGateway.Utf8
