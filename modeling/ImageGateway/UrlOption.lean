import ImageGateway.Text.Pieces

/-! Options as they are written in request paths and presets: a name and its arguments, with a
colon before each argument. -/
namespace ImageGateway

structure UrlOption where
  name : String
  args : List String
  deriving DecidableEq, Repr

namespace UrlOption

/-- A segment without a colon is no option. -/
def parse? (segment : String) : Option UrlOption :=
  match Text.split ':' segment with
  | [] | [_] => none
  | name :: args => some ⟨name, args⟩

def text (o : UrlOption) : String := Text.join ':' (o.name :: o.args)

/-- The options that the segments start with, and the segments from the first other one on. -/
def takeFrom : List String → List UrlOption × List String
  | [] => ([], [])
  | segment :: rest =>
    match parse? segment with
    | none => ([], segment :: rest)
    | some option => let (options, others) := takeFrom rest; (option :: options, others)

end UrlOption
end ImageGateway
