import ImageGateway.Preset.Table
import ImageGateway.Proofs.Text.Blank
import ImageGateway.Proofs.UrlOption

/-! How presets are written. An entry is cut at its first equals sign; what stands before it is the
name and what stands after it the options, blanks and outer slashes apart. An entry either defines a
preset or is malformed in one way, the first that is found from left to right. -/
namespace ImageGateway

namespace Preset

/-- The pieces of a value that have to be options. -/
def pieces (value : String) : List String :=
  Text.split '/' (Text.strip isSlash (Text.trim value))

/-- The texts on both sides of the first equals sign. -/
structure Parted (entry name value : String) : Prop where
  whole : entry = name ++ ("=" ++ value)
  first : '=' ∉ name.toList

/-- What is wrong with an entry. A fault is named only where those before it in this list are not
there. -/
inductive Malformed (entry : String) : PresetError → Prop
  | noValue (bare : '=' ∉ entry.toList) : Malformed entry (.noValue entry)
  | emptyName {name value : String} (parted : Parted entry name value) (blank : Text.Blank name) :
      Malformed entry (.emptyName entry)
  | emptyValue {name value : String} (parted : Parted entry name value)
      (named : ¬Text.Blank name) (blank : Text.Blank value) : Malformed entry (.emptyValue entry)
  | badValue {name value piece : String} (parted : Parted entry name value)
      (named : ¬Text.Blank name) (filled : ¬Text.Blank value) (member : piece ∈ pieces value)
      (bare : ':' ∉ piece.toList) : Malformed entry (.badValue entry)

/-- The preset that an entry stands for: the pieces of its value are the options as written. -/
inductive Defines (entry : String) : Preset → Prop
  | intro {name value : String} {options : List UrlOption} (parted : Parted entry name value)
      (named : ¬Text.Blank name) (filled : ¬Text.Blank value)
      (writable : ∀ o ∈ options, o.Writable)
      (written : options.map UrlOption.text = pieces value) :
      Defines entry ⟨Text.trim name, options⟩

variable {entry name value : String} {p : Preset} {e : PresetError}

theorem parted_iff : Parted entry name value ↔ Text.cut? '=' entry = some (name, value) := by
  rw [Text.cut?_eq_some_iff]
  exact ⟨fun parted => ⟨parted.whole, parted.first⟩, fun ⟨whole, first⟩ => ⟨whole, first⟩⟩

theorem parse_parted (parted : Parted entry name value) (named : ¬Text.Blank name)
    (filled : ¬Text.Blank value) :
    parse entry = match optionsOf? (pieces value) with
      | none => .error (.badValue entry)
      | some options => .ok ⟨Text.trim name, options⟩ := by
  rw [pieces]
  cases read : optionsOf? (Text.split '/' (Text.strip isSlash (Text.trim value))) <;>
    simp [parse, parted_iff.mp parted, Text.trim_eq_empty_iff, named, filled, read]

theorem Malformed.parse (malformed : Malformed entry e) : Preset.parse entry = .error e := by
  cases malformed with
  | noValue bare => simp [Preset.parse, Text.cut?_of_not_mem bare]
  | emptyName parted blank =>
    simp [Preset.parse, parted_iff.mp parted, Text.trim_eq_empty_iff.mpr blank]
  | emptyValue parted named blank =>
    simp [Preset.parse, parted_iff.mp parted, Text.trim_eq_empty_iff.mpr blank,
      Text.trim_eq_empty_iff, named]
  | badValue parted named filled member bare =>
    have spoilt : optionsOf? (pieces _) = none :=
      UrlOption.mapM_parse?_eq_none_iff.mpr ⟨_, member, bare⟩
    rw [parse_parted parted named filled, spoilt]

theorem Defines.parse (defines : Defines entry p) : Preset.parse entry = .ok p := by
  obtain ⟨parted, named, filled, writable, written⟩ := defines
  have read : optionsOf? (pieces _) = some _ :=
    UrlOption.mapM_parse?_eq_some_iff.mpr ⟨writable, written⟩
  rw [parse_parted parted named filled, read]

theorem malformed_or_defines (entry : String) :
    (∃ e, Malformed entry e) ∨ ∃ p, Defines entry p := by
  by_cases inside : '=' ∈ entry.toList
  case neg => exact .inl ⟨_, .noValue inside⟩
  obtain ⟨name, value, whole, first⟩ := Text.exists_append_of_mem inside
  have parted : Parted entry name value := ⟨whole, first⟩
  by_cases named : Text.Blank name
  · exact .inl ⟨_, .emptyName parted named⟩
  by_cases filled : Text.Blank value
  · exact .inl ⟨_, .emptyValue parted named filled⟩
  cases read : optionsOf? (pieces value) with
  | none =>
    obtain ⟨piece, member, bare⟩ := UrlOption.mapM_parse?_eq_none_iff.mp read
    exact .inl ⟨_, .badValue parted named filled member bare⟩
  | some options =>
    obtain ⟨writable, written⟩ := UrlOption.mapM_parse?_eq_some_iff.mp read
    exact .inr ⟨_, .intro parted named filled writable written⟩

theorem parse_eq_ok_iff : parse entry = .ok p ↔ Defines entry p := by
  refine ⟨fun read => ?_, Defines.parse⟩
  rcases malformed_or_defines entry with ⟨e, malformed⟩ | ⟨other, defines⟩
  · cases malformed.parse.symm.trans read
  · obtain rfl := Except.ok.inj (defines.parse.symm.trans read)
    exact defines

end Preset

namespace PresetTable

theorem get?_of_parse {name value : String} {t : PresetTable} (plain : '=' ∉ name.toList)
    (read : PresetTable.parse [name ++ "=" ++ value] = .ok t) :
    ∃ options, Preset.optionsOf? (Preset.pieces value) = some options ∧
      t.get? (Text.trim name) = some options := by
  have solid : Text.isBlank '=' = false := by decide
  obtain ⟨first, second, trimmed, whole, sameName, sameValue⟩ :=
    Text.exists_strip_separated solid plain value
  have entry : Text.trim (name ++ "=" ++ value) = first ++ (String.singleton '=' ++ second) := by
    rw [String.append_assoc]
    exact trimmed
  have filled : (first ++ (String.singleton '=' ++ second)).isEmpty = false := by simp
  simp only [PresetTable.parse, addAll, entry, filled] at read
  cases parsed : Preset.parse (first ++ (String.singleton '=' ++ second)) with
  | error e =>
    rw [parsed] at read
    cases read
  | ok p =>
    rw [parsed] at read
    obtain rfl := Except.ok.inj read
    obtain ⟨parted, -, -, writable, written⟩ := Preset.parse_eq_ok_iff.mp parsed
    cases (Text.cut?_append whole second).symm.trans (Preset.parted_iff.mp parted)
    have sameTrim : Text.trim first = Text.trim name := sameName
    refine ⟨_, UrlOption.mapM_parse?_eq_some_iff.mpr ⟨writable, ?_⟩, ?_⟩
    · rw [written, Preset.pieces, Preset.pieces, Text.trim, Text.trim, sameValue]
    · simp [get?, insert, empty, Preset.insertInto, sameTrim]

end PresetTable
end ImageGateway
