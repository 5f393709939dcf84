import ImageGateway.Binary.Written

/-! JSON values. An object keeps its members in the order given. A number is an integer or a finite
binary value together with the style it is written in; the style is no part of the value. -/
namespace ImageGateway

inductive Json where
  | null
  | bool (b : Bool)
  | integer (n : Int)
  | number (style : Binary.Style) (x : Binary.Finite)
  | string (s : String)
  | array (items : List Json)
  | object (members : List (String × Json))

namespace Json

/-- JSON has no NaN and no infinity: they become null. -/
def ofBinary (style : Binary.Style) : Binary → Json
  | .finite x => .number style x
  | _ => .null

mutual

/-- The same value: numbers of one kind by size, everything else by its parts. -/
def same : Json → Json → Bool
  | .null, .null => true
  | .bool a, .bool b => a = b
  | .integer m, .integer n => m = n
  | .number _ x, .number _ y => x.same y
  | .string s, .string t => s = t
  | .array xs, .array ys => sameItems xs ys
  | .object xs, .object ys => sameMembers xs ys
  | _, _ => false

def sameItems : List Json → List Json → Bool
  | [], [] => true
  | x :: xs, y :: ys => x.same y && sameItems xs ys
  | _, _ => false

def sameMembers : List (String × Json) → List (String × Json) → Bool
  | [], [] => true
  | (k, x) :: xs, (l, y) :: ys => k = l && x.same y && sameMembers xs ys
  | _, _ => false

end

/-- The value of the first member of that name. -/
def find? (name : String) : List (String × Json) → Option Json
  | [] => none
  | (key, value) :: rest => if key = name then some value else find? name rest

def member? (name : String) : Json → Option Json
  | .object members => find? name members
  | _ => none

end Json
end ImageGateway
