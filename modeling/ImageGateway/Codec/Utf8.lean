/-! Texts as bytes in UTF-8. Decoding accepts exactly the encodings of texts. -/
namespace ImageGateway.Utf8

def encode (s : String) : List UInt8 := s.toUTF8.data.toList

def decode? (bytes : List UInt8) : Option String := String.fromUTF8? ⟨bytes.toArray⟩

theorem decode?_eq_some_iff {bytes : List UInt8} {s : String} :
    decode? bytes = some s ↔ bytes = encode s := by
  unfold decode? encode String.fromUTF8?
  constructor
  · intro h
    split at h
    · cases h; rfl
    · contradiction
  · rintro rfl
    have valid : ByteArray.IsValidUTF8 ⟨s.toUTF8.data.toList.toArray⟩ := s.isValidUTF8
    rw [dif_pos valid]
    rfl

end ImageGateway.Utf8
