import Mathlib.Data.List.Nodup
import ImageGateway.Proofs.Preset.Definition

/-! The table that entries give. Entries that are well formed give an ordered map: each name once,
in the order of first definition, with the options of its last one. Otherwise the first malformed
entry says what is wrong. -/
namespace ImageGateway

namespace Preset

theorem names_insertInto (p : Preset) (presets : List Preset) :
    (insertInto p presets).map Preset.name =
      if p.name ∈ presets.map Preset.name then presets.map Preset.name
      else presets.map Preset.name ++ [p.name] := by
  induction presets with
  | nil => simp [insertInto]
  | cons q rest ih =>
    by_cases same : q.name = p.name
    · simp [insertInto, same]
    · simp only [insertInto, same, if_false, List.map_cons, ih, List.mem_cons, Ne.symm same,
        false_or]
      split <;> simp

theorem find?_insertInto (p : Preset) (presets : List Preset) (name : String) :
    (insertInto p presets).find? (·.name = name) =
      if p.name = name then some p else presets.find? (·.name = name) := by
  induction presets with
  | nil => by_cases asked : p.name = name <;> simp [insertInto, asked]
  | cons q rest ih =>
    by_cases same : q.name = p.name
    · by_cases asked : p.name = name <;> simp [insertInto, same, asked]
    · rw [insertInto, if_neg same, List.find?_cons, List.find?_cons, ih]
      by_cases asked : p.name = name
      · simp [← asked, same]
      · simp [asked]

theorem mem_insertInto {p q : Preset} {presets : List Preset} (member : q ∈ insertInto p presets) :
    q = p ∨ q ∈ presets := by
  induction presets with
  | nil => simpa [insertInto] using member
  | cons first rest ih =>
    by_cases same : first.name = p.name
    · have either : q = p ∨ q ∈ rest := by simpa [insertInto, same] using member
      exact either.imp_right (List.mem_cons_of_mem first)
    · have either : q = first ∨ q ∈ insertInto p rest := by simpa [insertInto, same] using member
      rcases either with rfl | later
      · exact .inr List.mem_cons_self
      · exact (ih later).imp_right (List.mem_cons_of_mem first)

/-- What every preset has that an entry defines. -/
structure Complete (p : Preset) : Prop where
  named : p.name ≠ ""
  trimmed : Text.Trimmed p.name
  filled : p.options ≠ []
  args : ∀ o ∈ p.options, o.args ≠ []

variable {entry : String} {p : Preset}

theorem Defines.complete (defines : Defines entry p) : p.Complete := by
  cases defines with
  | intro parted named filled writable written =>
    refine ⟨fun empty => named (Text.trim_eq_empty_iff.mp empty), Text.trimmed_trim _, ?_,
      fun o member => (writable o member).args⟩
    rintro rfl
    exact Text.split_ne_nil _ _ written.symm

theorem Defines.not_malformed (defines : Defines entry p) (e : PresetError) :
    ¬Malformed entry e := by
  intro malformed
  cases malformed.parse.symm.trans defines.parse

end Preset

namespace PresetTable

variable {t : PresetTable} {p : Preset} {defined : List Preset} {entries : List String}

theorem get?_of_mem (member : p ∈ t.presets) : t.get? p.name = some p.options := by
  have found : (t.presets.find? (·.name = p.name)).isSome := by
    rw [List.find?_isSome]
    exact ⟨p, member, by simp⟩
  obtain ⟨q, first⟩ := Option.isSome_iff_exists.mp found
  have named : q.name = p.name := by simpa using List.find?_some first
  obtain rfl := List.inj_on_of_nodup_map t.distinct (List.mem_of_find?_eq_some first) member named
  rw [get?, first, Option.map_some]

theorem get?_eq_some_iff {name : String} {options : List UrlOption} :
    t.get? name = some options ↔ ⟨name, options⟩ ∈ t.presets := by
  refine ⟨fun found => ?_, get?_of_mem⟩
  obtain ⟨p, first, rfl⟩ := Option.map_eq_some_iff.mp found
  obtain rfl : p.name = name := by simpa using List.find?_some first
  exact List.mem_of_find?_eq_some first

/-- A table is known by its names in order and by what it has for each of them. -/
theorem eq_of_get? {s : PresetTable} (names : t.names = s.names)
    (same : ∀ name, t.get? name = s.get? name) : t = s := by
  have listed (t : PresetTable) :
      t.names.map (fun name => ⟨name, (t.get? name).getD []⟩) = t.presets := by
    rw [PresetTable.names, List.map_map]
    exact (List.map_congr_left fun p member => by simp [get?_of_mem member]).trans (List.map_id _)
  have presets : t.presets = s.presets := by
    rw [← listed t, ← listed s, names]
    simp only [same]
  cases t
  cases s
  simpa using presets

theorem names_insert (t : PresetTable) (p : Preset) :
    (t.insert p).names = if p.name ∈ t.names then t.names else t.names ++ [p.name] :=
  Preset.names_insertInto p t.presets

theorem get?_insert (t : PresetTable) (p : Preset) (name : String) :
    (t.insert p).get? name = if p.name = name then some p.options else t.get? name := by
  rw [get?, insert, Preset.find?_insertInto]
  split <;> rfl

/-- The entries that count: those that are not blank, without the blanks around them. -/
def filled (entries : List String) : List String := (entries.map Text.trim).filter (· ≠ "")

theorem filled_of_trimmed {entries : List String}
    (trimmed : ∀ entry ∈ entries, entry ≠ "" ∧ Text.Trimmed entry) : filled entries = entries := by
  have same : entries.map Text.trim = entries :=
    (List.map_congr_left fun entry member => Text.trim_of_trimmed (trimmed entry member).2).trans
      (List.map_id entries)
  rw [filled, same, List.filter_eq_self]
  exact fun entry member => decide_eq_true (trimmed entry member).1

/-- Entries without a comma are found again between commas, and of no entries there is a blank one
left, which does not count. -/
theorem filled_split_join {entries : List String} (clean : ∀ entry ∈ entries, ',' ∉ entry.toList) :
    filled (Text.split ',' (Text.join ',' entries)) = filled entries := by
  by_cases none : entries = []
  · subst none
    decide +kernel
  · rw [Text.split_join ',' entries none clean]

def define (t : PresetTable) (entry : String) : Except PresetError PresetTable :=
  (Preset.parse entry).map t.insert

theorem addAll_eq_foldlM (t : PresetTable) (entries : List String) :
    t.addAll entries = (filled entries).foldlM define t := by
  induction entries generalizing t with
  | nil => rfl
  | cons entry rest ih =>
    by_cases blank : Text.trim entry = ""
    · simp [addAll, filled, blank, ih]
    · cases read : Preset.parse (Text.trim entry) <;>
        simp [addAll, filled, blank, ih, define, read, bind, Except.bind, Except.map]

theorem eraseDups_concat (names : List String) (name : String) :
    (names ++ [name]).eraseDups =
      if name ∈ names then names.eraseDups else names.eraseDups ++ [name] := by
  by_cases again : name ∈ names <;>
    simp [List.eraseDups_append, List.removeAll, List.eraseDups_cons, again]

theorem eraseDups_of_nodup {names : List String} (distinct : names.Nodup) :
    names.eraseDups = names := by
  induction names using List.reverseRecOn with
  | nil => rfl
  | append_singleton front name ih =>
    rw [List.nodup_append_comm, List.singleton_append, List.nodup_cons] at distinct
    rw [eraseDups_concat, if_neg distinct.1, ih distinct.2]

/-- The presets that were defined, as an ordered map. -/
structure Collects (t : PresetTable) (defined : List Preset) : Prop where
  distinct : t.names.Nodup
  /-- A name stands where it was first defined. -/
  ordered : t.names = (defined.map Preset.name).eraseDups
  /-- The last definition of a name counts. -/
  latest : ∀ name, t.get? name = (defined.reverse.find? (·.name = name)).map Preset.options
  contained : ∀ name, t.contains name = true ↔ name ∈ defined.map Preset.name
  complete : ∀ p ∈ t.presets, p.Complete

theorem collects_empty : empty.Collects [] where
  distinct := List.nodup_nil
  ordered := rfl
  latest _ := rfl
  contained _ := by simp [contains, get?, empty]
  complete _ member := absurd member List.not_mem_nil

theorem Collects.insert (collects : t.Collects defined) (complete : p.Complete) :
    (t.insert p).Collects (defined ++ [p]) where
  distinct := (t.insert p).distinct
  ordered := by
    have known : p.name ∈ t.names ↔ p.name ∈ defined.map Preset.name := by
      rw [collects.ordered, List.mem_eraseDups]
    rw [names_insert, List.map_append, List.map_singleton, eraseDups_concat, ← collects.ordered]
    simp only [known]
  latest name := by
    rw [get?_insert, collects.latest]
    by_cases asked : p.name = name <;> simp [asked]
  contained name := by
    have before : (t.get? name).isSome = true ↔ _ := collects.contained name
    rw [contains, get?_insert, List.map_append, List.mem_append, ← before]
    by_cases asked : p.name = name
    · simp [asked]
    · simp [asked, Ne.symm asked]
  complete q member := by
    rcases Preset.mem_insertInto member with rfl | earlier
    · exact complete
    · exact collects.complete q earlier

theorem Collects.run {later : List Preset} (collects : t.Collects defined)
    (defines : List.Forall₂ Preset.Defines entries later) :
    ∃ s, entries.foldlM define t = .ok s ∧ s.Collects (defined ++ later) := by
  induction defines generalizing t defined with
  | nil => exact ⟨t, rfl, by simpa using collects⟩
  | cons first _ ih =>
    obtain ⟨s, ran, collected⟩ := ih (collects.insert first.complete)
    refine ⟨s, ?_, by simpa using collected⟩
    rw [List.foldlM_cons, define, first.parse]
    exact ran

theorem Collects.unique {s : PresetTable} (collects : t.Collects defined)
    (other : s.Collects defined) : t = s :=
  eq_of_get? (collects.ordered.trans other.ordered.symm) fun name =>
    (collects.latest name).trans (other.latest name).symm

theorem collects_self (complete : ∀ p ∈ t.presets, p.Complete) : t.Collects t.presets where
  distinct := t.distinct
  ordered := (eraseDups_of_nodup t.distinct).symm
  latest name := by
    -- The names are distinct, so looking from the other end finds the same preset.
    let reversed : PresetTable := ⟨t.presets.reverse, by simpa using t.distinct⟩
    have same : t.get? name = reversed.get? name :=
      Option.ext fun options => by simp [get?_eq_some_iff, reversed]
    exact same
  contained name := by simp [contains, get?]
  complete := complete

theorem not_malformed_of_mem (defines : List.Forall₂ Preset.Defines entries defined)
    {entry : String} (member : entry ∈ entries) (e : PresetError) : ¬Preset.Malformed entry e := by
  induction defines with
  | nil => contradiction
  | cons first _ ih =>
    rcases List.mem_cons.mp member with rfl | later
    · exact first.not_malformed e
    · exact ih later

theorem exists_defined_iff :
    (∃ defined, List.Forall₂ Preset.Defines entries defined) ↔
      ∀ entry ∈ entries, ∀ e, ¬Preset.Malformed entry e := by
  refine ⟨fun ⟨_, defines⟩ _ => not_malformed_of_mem defines, fun sound => ?_⟩
  induction entries with
  | nil => exact ⟨[], .nil⟩
  | cons entry rest ih =>
    obtain ⟨first, later⟩ := List.forall_mem_cons.mp sound
    obtain ⟨p, defines⟩ := (Preset.malformed_or_defines entry).resolve_left (not_exists.mpr first)
    obtain ⟨defined, others⟩ := ih later
    exact ⟨p :: defined, .cons defines others⟩

/-- The first malformed entry is malformed in this way. -/
def FirstFault (entries : List String) (e : PresetError) : Prop :=
  ∃ before entry after, entries = before ++ entry :: after ∧ Preset.Malformed entry e ∧
    ∀ other ∈ before, ∀ fault, ¬Preset.Malformed other fault

theorem exists_firstFault_iff :
    (∃ e, FirstFault entries e) ↔ ∃ entry ∈ entries, ∃ e, Preset.Malformed entry e := by
  constructor
  · rintro ⟨e, before, entry, after, rfl, malformed, -⟩
    exact ⟨entry, by simp, e, malformed⟩
  · rintro ⟨entry, member, malformed⟩
    induction entries with
    | nil => contradiction
    | cons first rest ih =>
      by_cases bad : ∃ e, Preset.Malformed first e
      · obtain ⟨e, bad⟩ := bad
        exact ⟨e, [], first, rest, rfl, bad, by simp⟩
      · rcases List.mem_cons.mp member with rfl | later
        · exact absurd malformed bad
        obtain ⟨e, before, other, after, rfl, found, sound⟩ := ih later
        exact ⟨e, first :: before, other, after, rfl, found,
          List.forall_mem_cons.mpr ⟨not_exists.mp bad, sound⟩⟩

theorem firstFault_or_defined (entries : List String) :
    (∃ e, FirstFault entries e) ∨ ∃ defined, List.Forall₂ Preset.Defines entries defined := by
  rw [exists_firstFault_iff, exists_defined_iff]
  by_cases bad : ∃ entry ∈ entries, ∃ e, Preset.Malformed entry e
  · exact .inl bad
  · exact .inr (by simpa using bad)

theorem parse_of_defines (defines : List.Forall₂ Preset.Defines (filled entries) defined) :
    ∃ t, parse entries = .ok t ∧ t.Collects defined := by
  rw [parse, addAll_eq_foldlM]
  exact collects_empty.run defines

theorem parse_of_fault {e : PresetError} (fault : FirstFault (filled entries) e) :
    parse entries = .error e := by
  obtain ⟨before, entry, after, split, malformed, sound⟩ := fault
  obtain ⟨defined, defines⟩ := exists_defined_iff.mpr sound
  obtain ⟨t, ran, -⟩ := collects_empty.run defines
  rw [parse, addAll_eq_foldlM, split, List.foldlM_append, ran]
  simp [define, malformed.parse, Except.map, bind, Except.bind]

theorem parse_eq_error_iff {e : PresetError} :
    parse entries = .error e ↔ FirstFault (filled entries) e := by
  refine ⟨fun refused => ?_, parse_of_fault⟩
  rcases firstFault_or_defined (filled entries) with ⟨other, fault⟩ | ⟨defined, defines⟩
  · cases refused.symm.trans (parse_of_fault fault)
    exact fault
  · obtain ⟨t, read, -⟩ := parse_of_defines defines
    cases refused.symm.trans read

theorem parse_eq_ok_iff :
    parse entries = .ok t ↔
      ∃ defined, List.Forall₂ Preset.Defines (filled entries) defined ∧ t.Collects defined := by
  constructor
  · intro read
    rcases firstFault_or_defined (filled entries) with ⟨e, fault⟩ | ⟨defined, defines⟩
    · cases read.symm.trans (parse_of_fault fault)
    · obtain ⟨s, same, collects⟩ := parse_of_defines defines
      cases read.symm.trans same
      exact ⟨defined, defines, collects⟩
  · rintro ⟨defined, defines, collects⟩
    obtain ⟨s, read, collected⟩ := parse_of_defines defines
    rw [read, collects.unique collected]

/-- Entries give an error exactly when one of them is malformed, and then what is wrong with the
first such one. Otherwise they give the ordered map of the presets that they define: distinct names
in the order of first definition, each with the options of its last one. -/
theorem parse_collects (entries : List String) :
    (∀ e, parse entries = .error e ↔ FirstFault (filled entries) e) ∧
      ((∃ e, parse entries = .error e) ↔
        ∃ entry ∈ filled entries, ∃ e, Preset.Malformed entry e) ∧
      ∀ t, parse entries = .ok t ↔
        ∃ defined, List.Forall₂ Preset.Defines (filled entries) defined ∧ t.Collects defined := by
  refine ⟨fun e => parse_eq_error_iff, ?_, fun t => parse_eq_ok_iff⟩
  simp only [parse_eq_error_iff, exists_firstFault_iff]

/-- Another definition replaces the first one where that stands. -/
example : (parse ["a=q:10", " ", " b = /q:20/ ", "a=q:30"]).map PresetTable.presets =
    .ok [⟨"a", [⟨"q", ["30"]⟩]⟩, ⟨"b", [⟨"q", ["20"]⟩]⟩] := by
  decide +kernel

end PresetTable
end ImageGateway
