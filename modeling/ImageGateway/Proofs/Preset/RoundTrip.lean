import ImageGateway.Proofs.Config.Environment
import ImageGateway.Proofs.Preset.Table

/-! Presets written and read again. The separators nest: commas between presets, an equals sign
behind a name, slashes between options and colons in front of arguments. Where no part has the
separators that it is cut at in it, and no blanks are at the ends of names and values, reading a
table's text gives the table. -/
namespace ImageGateway

namespace Preset

def value (p : Preset) : String := Text.join '/' (p.options.map UrlOption.text)

/-- The text of the preset stands for nothing else: the separators that its parts are cut at are not
in them, and no blanks are at the ends of the name and the value. -/
structure Writable (p : Preset) : Prop where
  named : p.name ≠ ""
  plain : '=' ∉ p.name.toList
  trimmed : Text.Trimmed p.name
  filled : p.options ≠ []
  options : ∀ o ∈ p.options, o.Writable
  whole : ∀ o ∈ p.options, ∀ part ∈ o.name :: o.args, '/' ∉ part.toList
  ends : Text.Trimmed p.value

variable {p : Preset}

theorem Writable.option_text (writable : p.Writable) :
    ∀ text ∈ p.options.map UrlOption.text, text ≠ "" ∧ '/' ∉ text.toList := by
  refine List.forall_mem_map.mpr fun o member => ⟨?_, ?_⟩
  · intro empty
    simpa [empty] using (writable.options o member).mem_text
  · exact Text.not_mem_join (by decide) (writable.whole o member)

theorem Writable.value_stripped (writable : p.Writable) :
    p.value ≠ "" ∧ Text.Stripped isSlash p.value := by
  refine Text.stripped_join (by simpa using writable.filled)
    (fun text member => (writable.option_text text member).1) fun text member => ?_
  refine Text.stripped_of_forall fun c inside => decide_eq_false ?_
  rintro rfl
  exact (writable.option_text text member).2 inside

theorem Writable.pieces_value (writable : p.Writable) :
    pieces p.value = p.options.map UrlOption.text := by
  rw [pieces, Text.trim_of_trimmed writable.ends,
    Text.strip_of_stripped writable.value_stripped.2]
  exact Text.split_join '/' _ (by simpa using writable.filled) fun text member =>
    (writable.option_text text member).2

theorem text_eq (p : Preset) : p.text = p.name ++ ("=" ++ p.value) := String.append_assoc

theorem Writable.defines (writable : p.Writable) : Defines p.text p := by
  have defines : Defines p.text ⟨Text.trim p.name, p.options⟩ :=
    .intro ⟨text_eq p, writable.plain⟩
      (Text.not_blank_of_trimmed writable.trimmed writable.named)
      (Text.not_blank_of_trimmed writable.ends writable.value_stripped.1)
      writable.options writable.pieces_value.symm
  rwa [Text.trim_of_trimmed writable.trimmed] at defines

theorem Writable.trimmed_text (writable : p.Writable) : Text.Trimmed p.text := by
  rw [text_eq]
  exact Text.stripped_between writable.trimmed writable.ends writable.named
    writable.value_stripped.1 "="

def parts (p : Preset) : List String := p.name :: p.options.flatMap fun o => o.name :: o.args

theorem not_mem_text {c : Char} (other : c ∉ ['=', '/', ':'])
    (clean : ∀ part ∈ p.parts, c ∉ part.toList) : c ∉ p.text.toList := by
  obtain ⟨noEquals, noSlash, noColon⟩ : c ≠ '=' ∧ c ≠ '/' ∧ c ≠ ':' := by simpa using other
  obtain ⟨name, options⟩ := List.forall_mem_cons.mp clean
  have value : c ∉ p.value.toList := by
    refine Text.not_mem_join noSlash (List.forall_mem_map.mpr fun o member => ?_)
    exact Text.not_mem_join noColon fun part inside =>
      options part (List.mem_flatMap.mpr ⟨o, member, inside⟩)
  simp [text_eq, name, noEquals, value]

end Preset

namespace PresetTable

variable {t : PresetTable}

def text (t : PresetTable) : String := Text.join ',' (t.presets.map Preset.text)

theorem parse_of_filled_eq (writable : ∀ p ∈ t.presets, p.Writable) {entries : List String}
    (same : filled entries = filled (t.presets.map Preset.text)) : parse entries = .ok t := by
  have texts : filled (t.presets.map Preset.text) = t.presets.map Preset.text := by
    refine filled_of_trimmed (List.forall_mem_map.mpr fun p member => ⟨?_, ?_⟩)
    · simp [Preset.text_eq]
    · exact (writable p member).trimmed_text
  have defines : List.Forall₂ Preset.Defines (t.presets.map Preset.text) t.presets :=
    List.forall₂_map_left_iff.mpr (List.forall₂_same.mpr fun p member => (writable p member).defines)
  have complete : ∀ p ∈ t.presets, p.Complete := fun p member =>
    (writable p member).defines.complete
  exact parse_eq_ok_iff.mpr ⟨t.presets, same ▸ texts.symm ▸ defines, collects_self complete⟩

/-- The presets of a table are read again from their texts, all of them and in the same order, and
where no part has a comma in it also from the one text that an environment holds. -/
theorem parse_text (t : PresetTable) (writable : ∀ p ∈ t.presets, p.Writable) :
    parse (t.presets.map Preset.text) = .ok t ∧
      ((∀ p ∈ t.presets, ∀ part ∈ p.parts, ',' ∉ part.toList) →
        parse (Text.split ',' t.text) = .ok t ∧
          ∀ env : Environment, env.Holds "IMGRELAY_PRESETS" t.text → env.presets = .ok t) := by
  refine ⟨parse_of_filled_eq writable rfl, fun clean => ?_⟩
  have entries : ∀ entry ∈ t.presets.map Preset.text, ',' ∉ entry.toList :=
    List.forall_mem_map.mpr fun p member => Preset.not_mem_text (by decide) (clean p member)
  have read : parse (Text.split ',' t.text) = .ok t :=
    parse_of_filled_eq writable (filled_split_join entries)
  exact ⟨read, fun env held => Environment.presets_ok.mpr (.set held read)⟩

/-- An equals sign in an argument, options without a name, empty arguments at the end, and a blank
and a slash in a name. -/
theorem parse_text_edges :
    let t : PresetTable := ⟨[⟨"a", [⟨"w", ["1=2", ""]⟩, ⟨"", [" x"]⟩]⟩, ⟨"b /c", [⟨"", ["", ""]⟩]⟩],
      by decide⟩
    let env : Environment := fun name =>
      if name = "IMGRELAY_PRESETS" then some (Utf8.encode "a=w:1=2:/: x,b /c=::") else none
    (∀ p ∈ t.presets, p.Writable) ∧ (∀ p ∈ t.presets, ∀ part ∈ p.parts, ',' ∉ part.toList) ∧
      parse ["a=w:1=2:/: x", "b /c=::"] = .ok t ∧ env.presets = .ok t := by
  intro t env
  have writable : ∀ p ∈ t.presets, p.Writable := by
    have first : Preset.Writable ⟨"a", [⟨"w", ["1=2", ""]⟩, ⟨"", [" x"]⟩]⟩ :=
      ⟨by decide, by decide, by decide, by decide, by decide, by decide, by decide +kernel⟩
    have second : Preset.Writable ⟨"b /c", [⟨"", ["", ""]⟩]⟩ :=
      ⟨by decide, by decide, by decide, by decide, by decide, by decide, by decide +kernel⟩
    simp [t, first, second]
  have clean : ∀ p ∈ t.presets, ∀ part ∈ p.parts, ',' ∉ part.toList := by decide
  have texts : t.presets.map Preset.text = ["a=w:1=2:/: x", "b /c=::"] := by decide +kernel
  have whole : t.text = "a=w:1=2:/: x,b /c=::" := by decide +kernel
  obtain ⟨each, joined⟩ := parse_text t writable
  obtain ⟨-, environment⟩ := joined clean
  refine ⟨writable, clean, texts ▸ each, environment env ?_⟩
  rw [Environment.Holds, whole]
  rfl

end PresetTable
end ImageGateway
