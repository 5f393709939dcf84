import ImageGateway.Reading
import ImageGateway.Text.Numeral
import ImageGateway.Binary.Numeral

/-! The values that single arguments stand for. -/
namespace ImageGateway.Argument

/-- The value read, or the fault that names what the text should have been. -/
def require (what text : String) : Option α → Except ParseError α
  | some a => .ok a
  | none => .error (.value what text)

def dimension (what text : String) : Except ParseError UInt32 :=
  require what text ((Numeral.unsigned 32 text).map UInt32.ofNat)

def byte (what text : String) : Except ParseError UInt8 :=
  require what text ((Numeral.unsigned 8 text).map UInt8.ofNat)

def offset (what text : String) : Except ParseError Int32 :=
  require what text ((Numeral.signed 32 text).map Int32.ofInt)

def number (f : Binary.Format) (accepted : Binary → Bool) (what text : String) :
    Except ParseError Binary :=
  require what text ((Binary.read? f text).filter accepted)

def boolean? : String → Option Bool
  | "1" | "t" | "T" | "true" | "TRUE" | "True" => some true
  | "0" | "f" | "F" | "false" | "FALSE" | "False" => some false
  | _ => none

/-- A text that is no truth value counts as false, with a warning. -/
def flag (edit : Bool → E) (text : String) : Reading E :=
  match boolean? text with
  | some b => .edit (edit b)
  | none => { edits := [edit false], warnings := [.notBoolean text] }

end ImageGateway.Argument
