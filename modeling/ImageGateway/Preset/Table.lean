import ImageGateway.Text.Pieces
import ImageGateway.UrlOption

/-! Presets: named bundles of options, written `name=option/option`. A table keeps them in the
order of their first definition; a later definition replaces the options in place. -/
namespace ImageGateway

inductive PresetError where
  /-- There is no equals sign. -/
  | noValue (entry : String)
  | emptyName (entry : String)
  | emptyValue (entry : String)
  /-- A piece of the value is no option. -/
  | badValue (entry : String)
  deriving DecidableEq, Repr

def PresetError.message : PresetError → String
  | .noValue entry => "Invalid preset string: " ++ entry
  | .emptyName entry => "Empty preset name: " ++ entry
  | .emptyValue entry => "Empty preset value: " ++ entry
  | .badValue entry => "Invalid preset value: " ++ entry

structure Preset where
  name : String
  options : List UrlOption
  deriving DecidableEq, Repr

namespace Preset

def isSlash (c : Char) : Bool := c = '/'

def optionsOf? (pieces : List String) : Option (List UrlOption) := pieces.mapM UrlOption.parse?

/-- Blanks around the name and the value and slashes around the value do not count. -/
def parse (entry : String) : Except PresetError Preset :=
  match Text.cut? '=' entry with
  | none => .error (.noValue entry)
  | some (name, value) =>
    let name := Text.trim name
    let value := Text.trim value
    if name.isEmpty then .error (.emptyName entry)
    else if value.isEmpty then .error (.emptyValue entry)
    else
      match optionsOf? (Text.split '/' (Text.strip isSlash value)) with
      | none => .error (.badValue entry)
      | some options => .ok ⟨name, options⟩

def text (p : Preset) : String := p.name ++ "=" ++ Text.join '/' (p.options.map UrlOption.text)

/-- The options of the preset of that name are replaced; without one the preset is added last. -/
def insertInto (p : Preset) : List Preset → List Preset
  | [] => [p]
  | q :: rest => if q.name = p.name then p :: rest else q :: insertInto p rest

theorem mem_names_insertInto (p : Preset) (presets : List Preset) (name : String) :
    name ∈ (insertInto p presets).map Preset.name ↔
      name = p.name ∨ name ∈ presets.map Preset.name := by
  induction presets with
  | nil => simp [insertInto]
  | cons q rest ih =>
    by_cases h : q.name = p.name
    · simp [insertInto, h]
    · simp only [insertInto, h, if_false, List.map_cons, List.mem_cons, ih]
      exact or_left_comm

theorem nodup_names_insertInto (p : Preset) (presets : List Preset)
    (distinct : (presets.map Preset.name).Nodup) :
    ((insertInto p presets).map Preset.name).Nodup := by
  induction presets with
  | nil => simp [insertInto]
  | cons q rest ih =>
    obtain ⟨fresh, distinct⟩ := List.nodup_cons.mp distinct
    by_cases h : q.name = p.name
    · simp only [insertInto, h, if_true, List.map_cons]
      exact List.nodup_cons.mpr ⟨h ▸ fresh, distinct⟩
    · simp only [insertInto, h, if_false, List.map_cons]
      refine List.nodup_cons.mpr ⟨?_, ih distinct⟩
      rw [mem_names_insertInto]
      exact fun either => either.elim h fresh

end Preset

structure PresetTable where
  presets : List Preset
  distinct : (presets.map Preset.name).Nodup

namespace PresetTable

def empty : PresetTable := ⟨[], List.nodup_nil⟩

def insert (t : PresetTable) (p : Preset) : PresetTable :=
  ⟨p.insertInto t.presets, p.nodup_names_insertInto t.presets t.distinct⟩

def names (t : PresetTable) : List String := t.presets.map Preset.name

def get? (t : PresetTable) (name : String) : Option (List UrlOption) :=
  (t.presets.find? (·.name = name)).map Preset.options

def contains (t : PresetTable) (name : String) : Bool := (t.get? name).isSome

def size (t : PresetTable) : Nat := t.presets.length

def isEmpty (t : PresetTable) : Bool := t.presets.isEmpty

/-- The entries are added in order, blank ones left out; the first malformed one is the error. -/
def addAll (t : PresetTable) : List String → Except PresetError PresetTable
  | [] => .ok t
  | entry :: rest =>
    let entry := Text.trim entry
    if entry.isEmpty then t.addAll rest
    else
      match Preset.parse entry with
      | .error e => .error e
      | .ok preset => (t.insert preset).addAll rest

def parse (entries : List String) : Except PresetError PresetTable := empty.addAll entries

theorem mem_names_of_get? {t : PresetTable} {name : String} {options : List UrlOption}
    (found : t.get? name = some options) : name ∈ t.names := by
  obtain ⟨p, hp, _⟩ := Option.map_eq_some_iff.mp found
  have named : p.name = name := by simpa using List.find?_some hp
  exact named ▸ List.mem_map_of_mem (List.mem_of_find?_eq_some hp)

end PresetTable
end ImageGateway
