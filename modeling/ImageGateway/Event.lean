import ImageGateway.Error

/-! What the service reports while it works. Events are data that a computation returns beside its
value, in the order in which they happen. -/
namespace ImageGateway

/-- Input that is accepted all the same. -/
inductive Warning where
  /-- A text that is no truth value was taken as false. -/
  | notBoolean (text : String)
  /-- A preset that was already expanded was named again. -/
  | repeatedPreset (name : String)
  deriving DecidableEq, Repr

inductive Event where
  | warned (warning : Warning)
  | parsed (sourceUrl options : String)
  | processing (requestId sourceUrl : String)
  | rejected (requestId : String) (error : RequestError)
  deriving DecidableEq, Repr

namespace Event

def level : Event → Level
  | .warned _ => .warn
  | .parsed _ _ => .debug
  | .processing _ _ => .info
  | .rejected _ error => error.level

def message : Event → String
  | .warned (.notBoolean _) => "Not a valid boolean value, treated as false"
  | .warned (.repeatedPreset _) => "Recursive preset usage is detected"
  | .parsed _ _ => "Parsed image request"
  | .processing _ _ => "Processing image request"
  | .rejected _ _ => "Rejected image request"

def fields : Event → List (String × String)
  | .warned (.notBoolean text) => [("value", text)]
  | .warned (.repeatedPreset name) => [("preset", name)]
  | .parsed sourceUrl options => [("source_url", sourceUrl), ("options", options)]
  | .processing requestId sourceUrl => [("request_id", requestId), ("source_url", sourceUrl)]
  | .rejected requestId error =>
    [("request_id", requestId), ("error", error.message), ("error_type", error.typeName)]

end Event

structure Logged (α : Type) where
  events : List Event
  value : α

end ImageGateway
