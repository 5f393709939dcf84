import ImageGateway.Event

/-! Reading arguments into edits. A reading depends on the arguments alone: it lists the edits
asked for, the warnings given on the way, and the fault that ended it, if one did. Edits read
before a fault are kept, so that applying a failed reading changes what it got to. -/
namespace ImageGateway

structure Reading (E : Type) where
  edits : List E := []
  warnings : List Warning := []
  fault : Option ParseError := none
  deriving DecidableEq, Repr

/-- What a change leaves behind, whether it ended with a fault or not. -/
structure Outcome (S : Type) where
  state : S
  warnings : List Warning := []
  fault : Option ParseError := none
  deriving DecidableEq, Repr

namespace Reading

def nothing : Reading E := {}

def edit (e : E) : Reading E := { edits := [e] }

def fail (e : ParseError) : Reading E := { fault := some e }

def ofExcept (edit : α → E) : Except ParseError α → Reading E
  | .ok a => .edit (edit a)
  | .error e => .fail e

/-- The second reading goes on where the first one ended, unless that was a fault. -/
def andThen (first second : Reading E) : Reading E :=
  match first.fault with
  | some _ => first
  | none => ⟨first.edits ++ second.edits, first.warnings ++ second.warnings, second.fault⟩

def all (readings : List (Reading E)) : Reading E := readings.foldr andThen nothing

def map (f : E → F) (r : Reading E) : Reading F := { r with edits := r.edits.map f }

/-- The reading of the only argument; any other number of arguments is a fault. -/
def single (option : String) (args : List String) (read : String → Reading E) : Reading E :=
  match args with
  | [arg] => read arg
  | _ => .fail (.arguments option args)

/-- The reading of an argument by position; it is skipped when absent or empty. -/
def position (args : List String) (i : Nat) (read : String → Reading E) : Reading E :=
  match args[i]? with
  | none => nothing
  | some arg => if arg.isEmpty then nothing else read arg

/-- From one to `most` arguments are allowed. -/
def limited (option : String) (args : List String) (most : Nat) (r : Reading E) : Reading E :=
  if args.isEmpty || most < args.length then .fail (.arguments option args) else r

/-- The edits made before a fault stay. -/
def apply (change : E → S → S) (r : Reading E) (s : S) : Outcome S :=
  ⟨r.edits.foldl (fun s e => change e s) s, r.warnings, r.fault⟩

end Reading

namespace Outcome

/-- The next change starts from the state reached, unless there was a fault. -/
def andThen (o : Outcome S) (next : S → Outcome S) : Outcome S :=
  match o.fault with
  | some _ => o
  | none => let n := next o.state; { n with warnings := o.warnings ++ n.warnings }

def warned (warnings : List Warning) (o : Outcome S) : Outcome S :=
  { o with warnings := warnings ++ o.warnings }

theorem andThen_warned (warnings : List Warning) (o : Outcome S) (next : S → Outcome S) :
    (o.warned warnings).andThen next = (o.andThen next).warned warnings := by
  obtain ⟨state, given, fault⟩ := o
  cases fault <;> simp [andThen, warned]

theorem andThen_assoc (o : Outcome S) (next last : S → Outcome S) :
    (o.andThen next).andThen last = o.andThen fun s => (next s).andThen last := by
  obtain ⟨state, given, fault⟩ := o
  cases fault with
  | some _ => rfl
  | none => cases h : (next state).fault <;> simp [andThen, h]

end Outcome
end ImageGateway
