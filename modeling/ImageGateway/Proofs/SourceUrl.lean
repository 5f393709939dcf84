import ImageGateway.Proofs.Codec.Base64Url
import ImageGateway.Proofs.Codec.Percent
import ImageGateway.Proofs.Text.Pieces
import ImageGateway.SourceUrl

/-! Source URLs that are written and read again. In base64 a URL may be padded and cut into
segments anywhere; after `plain` it may be escaped in any way. Either form is followed by an
extension or by none, and reading it gives the URL and the extension back. -/
namespace ImageGateway.SourceUrl

/-- A payload with the extension behind it, if there is one. -/
def extended (delimiter : Char) (payload : String) : Option String → String
  | none => payload
  | some extension => payload ++ (String.singleton delimiter ++ extension)

/-- The base64 of a text with any amount of padding. -/
def base64Text (text : String) (padding : Nat) : String :=
  String.ofList (Base64Url.encode (Utf8.encode text) ++ List.replicate padding '=')

theorem splitExtension_extended {delimiter : Char} {payload : String} {extension : Option String}
    (filled : payload ≠ "") (whole : delimiter ∉ payload.toList)
    (clean : ∀ e ∈ extension, e ≠ "" ∧ delimiter ∉ e.toList) :
    splitExtension delimiter (extended delimiter payload extension) = .ok (payload, extension) := by
  have visible : payload.isEmpty = false := by simpa using filled
  cases extension with
  | none =>
    simp only [splitExtension, extended, Text.split_of_not_mem whole, visible]
    rfl
  | some e =>
    obtain ⟨named, simple⟩ := clean e rfl
    have suffix : e.isEmpty = false := by simpa using named
    simp only [splitExtension, extended, Text.split_append whole, Text.split_of_not_mem simple,
      visible, suffix]
    rfl

theorem not_mem_extended {c delimiter : Char} {payload : String} {extension : Option String}
    (other : c ≠ delimiter) (absent : c ∉ payload.toList) (clean : ∀ e ∈ extension, c ∉ e.toList) :
    c ∉ (extended delimiter payload extension).toList := by
  cases extension with
  | none => exact absent
  | some e =>
    have outside := clean e rfl
    simp only [extended, String.toList_append, String.toList_singleton, List.mem_append,
      List.mem_singleton]
    rintro (inside | same | inside)
    · exact absent inside
    · exact other same
    · exact outside inside

/-- No base64 is lost when the padding is removed: it has none of its own. -/
theorem stripEnd_padding (digits : List Char) (clean : '=' ∉ digits) (padding : Nat) :
    Text.stripEnd isPadding (String.ofList (digits ++ List.replicate padding '=')) =
      String.ofList digits := by
  have all : ∀ c ∈ List.replicate padding '=', isPadding c = true := by
    intro c member
    rw [List.eq_of_mem_replicate member]
    rfl
  have none : digits.reverse.dropWhile isPadding = digits.reverse := by
    cases reversed : digits.reverse with
    | nil => rfl
    | cons c rest =>
      have member : c ∈ digits := List.mem_reverse.mp (reversed ▸ List.mem_cons_self)
      have kept : ¬isPadding c = true := fun padded => clean (of_decide_eq_true padded ▸ member)
      exact List.dropWhile_cons_of_neg kept
  rw [Text.stripEnd, String.toList_ofList, List.reverse_append, List.reverse_replicate,
    List.dropWhile_append_of_pos all, none, List.reverse_reverse]

theorem not_mem_base64Text {c : Char} (other : Base64Url.sextet? c = none) (visible : c ≠ '=')
    (text : String) (padding : Nat) : c ∉ (base64Text text padding).toList := by
  rw [base64Text, String.toList_ofList, List.mem_append]
  rintro (digit | padded)
  · exact Base64Url.not_mem_encode other _ digit
  · exact visible (List.eq_of_mem_replicate padded)

theorem fromBase64?_base64Text (text : String) (padding : Nat) :
    fromBase64? (base64Text text padding) = some text := by
  have clean : '=' ∉ Base64Url.encode (Utf8.encode text) := Base64Url.not_mem_encode (by decide) _
  rw [fromBase64?, base64Text, stripEnd_padding _ clean, String.toList_ofList,
    Base64Url.decode?_encode]
  exact Utf8.decode?_eq_some_iff.mpr rfl

/-- The first two digits of `plain` would begin a text with a continuation byte. -/
theorem head_base64Text {text : String} (filled : text ≠ "") (padding : Nat) :
    ∃ c later, (base64Text text padding).toList = c :: later ∧ c ≠ 'p' := by
  obtain ⟨lead, rest, bytes, first⟩ := Utf8.encode_head filled
  obtain ⟨later, digits⟩ := Base64Url.encode_cons lead rest
  refine ⟨Base64Url.digit (lead.toNat / 4), later ++ List.replicate padding '=', ?_, ?_⟩
  · rw [base64Text, String.toList_ofList, bytes, digits, List.cons_append]
  · intro same
    have bound := lead.toNat_lt
    have value : Base64Url.sextet? (Base64Url.digit (lead.toNat / 4)) = some (lead.toNat / 4) :=
      Base64Url.sextet?_digit (by omega)
    rw [same] at value
    have upper : 41 = lead.toNat / 4 := Option.some.inj value
    omega

theorem decode_of_not_plain {segments : List String} (other : segments.head? ≠ some "plain")
    (filled : segments ≠ []) (base : String) :
    decode segments base = decodeBase64 segments base := by
  cases segments with
  | nil => contradiction
  | cons first rest =>
    have different : first ≠ "plain" := by simpa using other
    simp only [decode, different, decide_false, Bool.false_and, Bool.false_eq_true, if_false]

/-- Wherever the base64 of a URL is cut, the first segment is not taken for the mark of the plain
form, and the segments give the URL and the extension. -/
theorem decode_base64 {text : String} {padding : Nat} {extension : Option String}
    {segments : List String} (filled : text ≠ "")
    (clean : ∀ e ∈ extension, e ≠ "" ∧ '.' ∉ e.toList)
    (cut : String.join segments = extended '.' (base64Text text padding) extension)
    (base : String) :
    segments.head? ≠ some "plain" ∧
      decode segments base = .ok ⟨base ++ text, extension⟩ := by
  obtain ⟨c, later, written, different⟩ := head_base64Text filled padding
  have visible : base64Text text padding ≠ "" := by
    intro empty
    rw [empty] at written
    contradiction
  have head : (String.join segments).toList.head? = some c := by
    rw [cut]
    cases extension with
    | none => rw [extended, written]; rfl
    | some e => rw [extended, String.toList_append, written]; rfl
  have other : segments.head? ≠ some "plain" := by
    intro plain
    obtain ⟨rest, rfl⟩ := List.head?_eq_some_iff.mp plain
    rw [String.join_cons, String.toList_append] at head
    exact different (Option.some.inj head).symm
  have some : segments ≠ [] := by
    rintro rfl
    contradiction
  have whole : '.' ∉ (base64Text text padding).toList :=
    not_mem_base64Text (by decide) (by decide) text padding
  refine ⟨other, ?_⟩
  rw [decode_of_not_plain other some, decodeBase64, decodeWith, cut,
    splitExtension_extended visible whole clean]
  simp only [bind, Except.bind, fromBase64?_base64Text]

theorem fromEscapes?_of_spelling {reserved : List Char} {text written : String}
    (self : '%' ∈ reserved) (spelled : Percent.Spelling reserved text.toList written.toList) :
    fromEscapes? written = some text := by
  obtain ⟨formed, decoded⟩ := Percent.decode_spelling self spelled
  simp only [fromEscapes?, Utf8.encode_eq_flatMap, formed, decoded, if_true]
  rw [← Utf8.encode_eq_flatMap]
  exact Utf8.decode?_eq_some_iff.mpr rfl

/-- However the characters of a URL are escaped, the segments after `plain` give the URL and the
extension; only the escape sign and the delimiter of the extension have to be escaped. -/
theorem decode_plain {text written : String} {extension : Option String} (filled : text ≠ "")
    (spelled : Percent.Spelling ['%', '@'] text.toList written.toList)
    (clean : ∀ e ∈ extension, e ≠ "" ∧ '@' ∉ e.toList) (base : String) :
    decode ("plain" :: Text.split '/' (extended '@' written extension)) base =
      .ok ⟨base ++ text, extension⟩ := by
  have whole : '@' ∉ written.toList :=
    Percent.not_mem_spelling (by decide) (by decide) (by decide) spelled
  have visible : written ≠ "" := by
    rintro rfl
    exact Percent.spelling_ne_nil spelled (mt String.toList_eq_nil_iff.mp filled) rfl
  have more : (Text.split '/' (extended '@' written extension)).isEmpty = false := by
    simpa using Text.split_ne_nil '/' (extended '@' written extension)
  have form : decode ("plain" :: Text.split '/' (extended '@' written extension)) base =
      decodePlain (Text.split '/' (extended '@' written extension)) base := by
    simp only [decode, more, decide_true, Bool.not_false, Bool.and_self, if_true]
  rw [form, decodePlain, decodeWith, Text.join_split, splitExtension_extended visible whole clean]
  simp only [bind, Except.bind, fromEscapes?_of_spelling (by decide) spelled]

end ImageGateway.SourceUrl
