import ImageGateway.Proofs.Color
import ImageGateway.Proofs.Preset.Recursion
import ImageGateway.Proofs.Text.Numeral

/-! The ways to write a background. A colour in hexadecimal digits and its three channels in decimal
ones are read by different rules, and come to the same options. -/
namespace ImageGateway

variable {ctx : Context} {keyword : String} {r g b : UInt8}

namespace Setting

theorem readChannel_decimal {text : String} {level : UInt8}
    (decimal : Numeral.Natural text.toList level.toNat) (c : Channel) :
    readChannel c text = .edit (.background c level) := by
  have read : Numeral.unsigned 8 text = some level.toNat :=
    Numeral.unsigned_eq_some_iff.mpr ⟨decimal, level.toNat_lt⟩
  rw [readChannel, Argument.byte, read, Option.map_some, UInt8.ofNat_toNat]
  rfl

end Setting

namespace Options

theorem apply_hexBackground (named : OptionName.ofText? keyword = some (.setting .background))
    {text : String} {color : Color} (read : Color.ofHex text = .ok color) (o : Options) :
    o.apply ctx ⟨keyword, [text]⟩ =
      { state := { o with flatten := true, background := color } } := by
  have filled : text.isEmpty = false := by
    rw [Bool.eq_false_iff, Ne, String.isEmpty_iff]
    rintro rfl
    contradiction
  rw [apply_setting named, Setting.read, Setting.readBackground]
  simp only [filled, read]
  rfl

theorem apply_decimalBackground (named : OptionName.ofText? keyword = some (.setting .background))
    {x y z : String} (red : Numeral.Natural x.toList r.toNat)
    (green : Numeral.Natural y.toList g.toNat) (blue : Numeral.Natural z.toList b.toNat)
    (o : Options) :
    o.apply ctx ⟨keyword, [x, y, z]⟩ =
      { state := { o with flatten := true, background := ⟨r, g, b⟩ } } := by
  rw [apply_setting named, Setting.read, Setting.readBackground, Setting.readChannel_decimal red,
    Setting.readChannel_decimal green, Setting.readChannel_decimal blue]
  rfl

/-- All ways to write a background agree. A text is a colour if and only if it is three hexadecimal
digits or six, three digits are the colour of the six that repeat each of them, and no channel
exceeds a byte. The six digits of three bytes, with letters in either case, are the colour of these
bytes, and asking for them in hexadecimal digits or byte by byte in decimal ones succeeds with the
same options, that have this background and no transparency, and are otherwise as they were. -/
theorem background_spellings :
    (∀ text, (∃ color, Color.ofHex text = .ok color) ↔
      (text.length = 3 ∨ text.length = 6) ∧ ∀ c ∈ text.toList, Hex.IsDigit c) ∧
    (∀ text, text.length = 3 → (∀ c ∈ text.toList, Hex.IsDigit c) →
      Color.ofHex text = Color.ofHex (String.ofList (Color.twice text.toList))) ∧
    (∀ c d n m, Hex.digit? c = some n → Hex.digit? d = some m →
      (Color.shortChannel? c).map UInt8.toNat = some (17 * n) ∧
        (Color.longChannel? c d).map UInt8.toNat = some (16 * n + m)) ∧
    ∀ (r g b : UInt8) (text : String), Text.lowerAscii text = Hex.encode [r, g, b] →
      Color.ofHex text = .ok ⟨r, g, b⟩ ∧
      ∀ (ctx : Context) (o : Options) (keyword : String),
        OptionName.ofText? keyword = some (.setting .background) →
        ∀ x y z : String, Numeral.Natural x.toList r.toNat → Numeral.Natural y.toList g.toNat →
          Numeral.Natural z.toList b.toNat →
          let flat : Options := { o with flatten := true, background := ⟨r, g, b⟩ }
          o.apply ctx ⟨keyword, [text]⟩ = { state := flat } ∧
            o.apply ctx ⟨keyword, [x, y, z]⟩ = { state := flat } := by
  refine ⟨fun text => ?accepted, fun text three digits => ?doubled,
    fun c d n m first second => ?exact,
    fun r g b text spelled => ⟨Color.ofHex_of_encode spelled, ?applied⟩⟩
  case accepted =>
    simp only [Color.ofHex_eq_ok_iff, Color.exists_ofHexDigits?, String.length_toList]
  case doubled =>
    rw [← String.length_toList] at three
    obtain ⟨color, read⟩ := Color.exists_ofHexDigits?.mpr ⟨.inl three, digits⟩
    have repeated := Color.ofHexDigits?_twice three ▸ read
    rw [Color.ofHex_eq_ok_iff.mpr read, Color.ofHex_eq_ok_iff.mpr]
    rwa [String.toList_ofList]
  case exact => exact ⟨Color.toNat_shortChannel? first, Color.toNat_longChannel? first second⟩
  case applied =>
    intro ctx o keyword named x y z red green blue
    exact ⟨apply_hexBackground named (Color.ofHex_of_encode spelled) o,
      apply_decimalBackground named red green blue o⟩

/-- Letters of both cases, and a channel with a sign and a zero in front. -/
theorem background_spellings_mixed :
    let ctx : Context := ⟨.empty, ImageType.canEncode⟩
    let o := Options.baseline 80
    let flat : Options := { o with flatten := true, background := ⟨0xa0, 0xbb, 0xff⟩ }
    "0aF".length = 3 ∧ (∀ c ∈ "0aF".toList, Hex.IsDigit c) ∧
      Color.ofHex "0aF" = Color.ofHex "00aaFF" ∧
      Hex.digit? 'F' = some 15 ∧ (Color.shortChannel? 'F').map UInt8.toNat = some 255 ∧
      Text.lowerAscii "A0bBFf" = Hex.encode [0xa0, 0xbb, 0xff] ∧
      OptionName.ofText? "bg" = some (.setting .background) ∧
      Numeral.Natural "160".toList 160 ∧ Numeral.Natural "+0187".toList 187 ∧
      Numeral.Natural "255".toList 255 ∧
      o.apply ctx ⟨"bg", ["A0bBFf"]⟩ = { state := flat } ∧
      o.apply ctx ⟨"bg", ["160", "+0187", "255"]⟩ = { state := flat } := by
  intro ctx o flat
  obtain ⟨-, doubled, exact, agree⟩ := background_spellings
  have digits : ∀ c ∈ "0aF".toList, Hex.IsDigit c := by
    change ∀ c ∈ ['0', 'a', 'F'], Hex.IsDigit c
    simp only [List.forall_mem_cons]
    exact ⟨by decide, by decide, by decide, by simp⟩
  have spelled : Text.lowerAscii "A0bBFf" = Hex.encode [0xa0, 0xbb, 0xff] := rfl
  have red : Numeral.Natural "160".toList 160 := Numeral.natural_toString 160
  have green : Numeral.Natural "+0187".toList 187 :=
    (Numeral.unsigned_eq_some_iff.mp (show Numeral.unsigned 8 "+0187" = some 187 by decide)).1
  have blue : Numeral.Natural "255".toList 255 := Numeral.natural_toString 255
  have same := (agree 0xa0 0xbb 0xff "A0bBFf" spelled).2 ctx o "bg" rfl "160" "+0187" "255"
    red green blue
  exact ⟨rfl, digits, doubled "0aF" rfl digits, rfl, (exact 'F' 'F' 15 15 rfl rfl).1, spelled, rfl,
    red, green, blue, same.1, same.2⟩

end Options
end ImageGateway
