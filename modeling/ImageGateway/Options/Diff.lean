import ImageGateway.Options.Json

/-! The options that differ from a base, as JSON and as one line of text. Objects are compared
member by member at every depth and keep only the members that changed. -/
namespace ImageGateway

mutual

/-- What is new in a value against the one before, if anything is. -/
def Json.change? : Option Json → Json → Option Json
  | some (.object before), .object members =>
    match changes before members with
    | [] => none
    | changed => some (.object changed)
  | some before, after => if before.same after then none else some after
  | none, after => some after

/-- The members of the second list whose values the first one does not have; an object without
changed members is left out. -/
def Json.changes (base : List (String × Json)) : List (String × Json) → List (String × Json)
  | [] => []
  | (name, value) :: rest =>
    match change? (find? name base) value with
    | none => changes base rest
    | some changed => (name, changed) :: changes base rest

end

def Json.bare : Json → String
  | .string s => s
  | value => value.text

/-- Continues the text with every value that is no object, under its path, after a separator
unless the text is still empty. -/
def Json.writeMembers (parent written : String) : List (String × Json) → String
  | [] => written
  | (name, value) :: rest =>
    let path := if parent.isEmpty then name else parent ++ "." ++ name
    match value with
    | .object members => writeMembers parent (writeMembers path written members) rest
    | leaf =>
      let lead := if written.isEmpty then "" else written ++ "; "
      writeMembers parent (lead ++ path ++ ": " ++ leaf.bare) rest

structure OptionsDiff where
  members : List (String × Json)

namespace OptionsDiff

def between (base current : Options) : OptionsDiff :=
  match base.toJson .byName, current.toJson .byName with
  | .object before, .object after => ⟨Json.changes before after⟩
  | _, _ => ⟨[]⟩

def isEmpty (d : OptionsDiff) : Bool := d.members.isEmpty

def size (d : OptionsDiff) : Nat := d.members.length

def get? (d : OptionsDiff) (name : String) : Option Json := Json.find? name d.members

def toJson (d : OptionsDiff) : Json := .object d.members

/-- The changed values with their paths, such as `crop.width: 10; quality: 60`. -/
def text (d : OptionsDiff) : String := Json.writeMembers "" "" d.members

end OptionsDiff
end ImageGateway
