import ImageGateway.Error
import ImageGateway.Json.Text
import ImageGateway.Request.Defaults

/-! Requests and responses of the protocol that the service speaks, and what a client is told
about a refused request: always the class of the error, and its detail only outside production
and never when the cause is sensitive. -/
namespace ImageGateway

structure HttpRequest where
  method : String
  target : String
  headers : List (String × String)
  deriving DecidableEq, Repr

structure HttpResponse where
  status : Nat
  contentType : Option String
  allow : Option String
  requestId : String
  body : String
  deriving DecidableEq, Repr

namespace HttpRequest

/-- A query or a fragment begins. -/
def isPathEnd (c : Char) : Bool := c = '?' || c = '#'

/-- The authority is over: a path, a query or a fragment begins. -/
def isAuthorityEnd (c : Char) : Bool := c = '/' || isPathEnd c

def afterScheme : List Char → Option (List Char)
  | ':' :: '/' :: '/' :: rest => some rest
  | _ :: rest => afterScheme rest
  | [] => none

/-- The path of the target, still escaped and without a query. A target that names an authority
and no path has the path `/`. -/
def path (r : HttpRequest) : String :=
  let target := r.target.toList
  if target.head? = some '/' then String.ofList (target.takeWhile (!isPathEnd ·))
  else
    match afterScheme target with
    | none => r.target
    | some rest =>
      match (rest.dropWhile (!isAuthorityEnd ·)).takeWhile (!isPathEnd ·) with
      | [] => "/"
      | path => String.ofList path

/-- Only visible ASCII, space and tab can be read. -/
def legible (value : String) : Bool :=
  value.toList.all fun c => c = '\t' || (0x20 ≤ c.toNat && c.toNat < 0x7F)

/-- The first header of that name counts, whatever the letter case; it is absent when it cannot
be read. -/
def header? (r : HttpRequest) (name : String) : Option String :=
  ((r.headers.find? fun header => Text.lowerAscii header.1 = Text.lowerAscii name).map
    Prod.snd).filter legible

def processingHeaders (r : HttpRequest) : Headers where
  accept := (r.header? "accept").getD ""
  width := (r.header? "width").getD ""
  viewportWidth := (r.header? "viewport-width").getD ""
  dpr := (r.header? "dpr").getD ""

end HttpRequest

def RequestError.body (e : RequestError) (production : Bool) : Json :=
  let causes := if production || e.isSensitive then [] else
    [("details", Json.string e.detail), ("error_type", .string e.typeName)]
  .object ([("error", .string e.clientMessage)] ++ causes ++ [("code", .string e.code)])

end ImageGateway
