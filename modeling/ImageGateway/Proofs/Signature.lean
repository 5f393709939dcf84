import ImageGateway.Proofs.Codec.Base64Url
import ImageGateway.Signature

/-! Which signatures pass. The check and the signing meet in one byte list, the first bytes of the
code, and the text of a byte list is unique. -/
namespace ImageGateway.Signer

theorem length_tag (s : Signer) (path : String) : (s.tag path).length = 32 := Hmac.length_tag _ _

theorem check_ok {s : Signer} {signature path : String} :
    s.check signature path = .ok () ↔
      ∃ bytes, signature.toList = Base64Url.encode bytes ∧ bytes.length = s.size ∧
        bytes ≠ [] ∧ bytes <+: s.tag path := by
  unfold check
  constructor
  · intro passed
    split at passed
    next => contradiction
    next bytes decoded =>
      split at passed
      next => contradiction
      next sized =>
        split at passed
        next agrees =>
          simp only [Bool.and_eq_true, Bool.not_eq_true', List.isEmpty_eq_false_iff,
            List.isPrefixOf_iff_prefix] at agrees
          exact ⟨bytes, Base64Url.eq_encode_of_decode? decoded, Decidable.not_not.mp sized, agrees⟩
        next => contradiction
  · rintro ⟨bytes, written, sized, filled, agrees⟩
    have matching : (!bytes.isEmpty && bytes.isPrefixOf (s.tag path)) = true := by
      simp [filled, agrees]
    simp only [written, Base64Url.decode?_encode, sized, ne_eq, not_true_eq_false, if_false, matching,
      if_true]

/-- The beginnings of the code that are neither empty nor longer than it, by their size. -/
theorem beginning_iff {s : Signer} {path : String} {bytes : List UInt8} :
    (bytes.length = s.size ∧ bytes ≠ [] ∧ bytes <+: s.tag path) ↔
      1 ≤ s.size ∧ s.size ≤ 32 ∧ bytes = (s.tag path).take s.size := by
  constructor
  · rintro ⟨sized, filled, agrees⟩
    have positive : 0 < bytes.length := List.length_pos_iff.mpr filled
    have bounded := agrees.length_le
    rw [s.length_tag] at bounded
    exact ⟨by omega, by omega, sized ▸ List.prefix_iff_eq_take.mp agrees⟩
  · rintro ⟨positive, bounded, rfl⟩
    have sized : ((s.tag path).take s.size).length = s.size := by
      rw [List.length_take, s.length_tag, Nat.min_eq_left bounded]
    exact ⟨sized, List.length_pos_iff.mp (by omega), List.take_prefix _ _⟩

/-- For sizes from one byte to the whole code each path has one signature that passes, the one that
signing gives; for other sizes none passes. -/
theorem check_eq_ok_iff (s : Signer) (signature path : String) :
    s.check signature path = .ok () ↔
      1 ≤ s.size ∧ s.size ≤ 32 ∧ signature = s.sign path := by
  simp only [check_ok, beginning_iff]
  constructor
  · rintro ⟨bytes, written, positive, bounded, rfl⟩
    refine ⟨positive, bounded, String.toList_injective ?_⟩
    rw [written, sign, String.toList_ofList]
  · rintro ⟨positive, bounded, rfl⟩
    exact ⟨_, String.toList_ofList, positive, bounded, rfl⟩

end ImageGateway.Signer
