import ImageGateway.Argument
import ImageGateway.Options.Edit

/-! What a reading can ask for. A property of all of its edits goes from the readings of single
arguments to the reading of all of them, and what every such edit keeps, the whole reading keeps. -/
namespace ImageGateway

theorem Outcome.state_andThen {o : Outcome S} (sound : o.fault = none) (next : S → Outcome S) :
    (o.andThen next).state = (next o.state).state := by
  rw [andThen, sound]

namespace Reading

variable {E F S : Type} {P : E → Prop}

/-- A property that goes from readings to what is put together from them. -/
structure Closed (Q : Reading E → Prop) : Prop where
  nothing : Q nothing
  fail (fault : ParseError) : Q (fail fault)
  andThen {first second : Reading E} : Q first → Q second → Q (first.andThen second)

namespace Closed

variable {Q : Reading E → Prop}

theorem all (closed : Closed Q) {readings : List (Reading E)} (each : ∀ r ∈ readings, Q r) :
    Q (all readings) := by
  induction readings with
  | nil => exact closed.nothing
  | cons r rest ih =>
    obtain ⟨first, others⟩ := List.forall_mem_cons.mp each
    exact closed.andThen first (ih others)

theorem single (closed : Closed Q) {option : String} {args : List String}
    {read : String → Reading E} (each : ∀ arg, Q (read arg)) : Q (single option args read) := by
  unfold Reading.single
  split
  next arg => exact each arg
  next => exact closed.fail _

theorem position (closed : Closed Q) {args : List String} {i : Nat} {read : String → Reading E}
    (each : ∀ arg, Q (read arg)) : Q (position args i read) := by
  unfold Reading.position
  split
  next => exact closed.nothing
  next arg _ =>
    split
    next => exact closed.nothing
    next => exact each arg

theorem limited (closed : Closed Q) {option : String} {args : List String} {most : Nat}
    {r : Reading E} (whole : Q r) : Q (limited option args most r) := by
  unfold Reading.limited
  split
  next => exact closed.fail _
  next => exact whole

end Closed

/-- All edits have the property, those before a fault included. -/
def Only (P : E → Prop) (r : Reading E) : Prop := ∀ e ∈ r.edits, P e

theorem only_nothing : Only P nothing := fun _ member => absurd member List.not_mem_nil

theorem only_fail (fault : ParseError) : Only P (fail fault) :=
  fun _ member => absurd member List.not_mem_nil

theorem only_edit {e : E} (kept : P e) : Only P (edit e) :=
  fun _ member => List.mem_singleton.mp member ▸ kept

theorem only_ofExcept {α : Type} {make : α → E} {value : Except ParseError α}
    (kept : ∀ a, value = .ok a → P (make a)) : Only P (ofExcept make value) := by
  cases value with
  | error fault => exact only_fail fault
  | ok a => exact only_edit (kept a rfl)

theorem closed_only : Closed (Only P) where
  nothing := only_nothing
  fail := only_fail
  andThen {first second} left right := by
    unfold andThen
    split
    next => exact left
    next => exact fun e member => (List.mem_append.mp member).elim (left e) (right e)

theorem only_all {readings : List (Reading E)} (each : ∀ r ∈ readings, Only P r) :
    Only P (all readings) :=
  closed_only.all each

theorem only_map {Q : F → Prop} {make : E → F} {r : Reading E} (only : Only P r)
    (kept : ∀ e, P e → Q (make e)) : Only Q (r.map make) := by
  intro f member
  obtain ⟨e, old, rfl⟩ := List.mem_map.mp member
  exact kept e (only e old)

theorem only_single {option : String} {args : List String} {read : String → Reading E}
    (each : ∀ arg, Only P (read arg)) : Only P (single option args read) :=
  closed_only.single each

theorem only_position {args : List String} {i : Nat} {read : String → Reading E}
    (each : ∀ arg, Only P (read arg)) : Only P (position args i read) :=
  closed_only.position each

theorem only_limited {option : String} {args : List String} {most : Nat} {r : Reading E}
    (only : Only P r) : Only P (limited option args most r) :=
  closed_only.limited only

theorem only_flag {make : Bool → E} (kept : ∀ b, P (make b)) (text : String) :
    Only P (Argument.flag make text) := by
  unfold Argument.flag
  split
  next b _ => exact only_edit (kept b)
  next => exact fun e member => List.mem_singleton.mp member ▸ kept false

theorem Only.apply {I : S → Prop} {change : E → S → S} {r : Reading E} (only : Only P r)
    (step : ∀ e, P e → ∀ s, I s → I (change e s)) {s : S} (start : I s) :
    I (r.apply change s).state := by
  obtain ⟨edits, warnings, fault⟩ := r
  simp only [Reading.apply]
  induction edits generalizing s with
  | nil => exact start
  | cons e edits ih =>
    obtain ⟨first, others⟩ := List.forall_mem_cons.mp only
    exact ih (step e first s start) others

theorem apply_map {T : Type} {make : E → F} {change : F → S → S} {changePart : E → T → T}
    (part : S → T) (step : ∀ e s, part (change (make e) s) = changePart e (part s))
    (r : Reading E) (s : S) :
    part ((r.map make).apply change s).state = (r.apply changePart (part s)).state := by
  obtain ⟨edits, warnings, fault⟩ := r
  simp only [map, Reading.apply]
  induction edits generalizing s with
  | nil => rfl
  | cons e edits ih => rw [List.map_cons, List.foldl_cons, List.foldl_cons, ih, step]

/-- The second reading is applied where the first one ended well. -/
theorem apply_andThen (change : E → S → S) (first second : Reading E) (s : S) :
    (first.andThen second).apply change s =
      (first.apply change s).andThen (second.apply change) := by
  obtain ⟨edits, warnings, fault⟩ := first
  cases fault with
  | some e => rfl
  | none => simp [andThen, apply, Outcome.andThen]

@[simp] theorem fault_applyTo (r : Reading Edit) (o : Options) : (r.applyTo o).fault = r.fault :=
  rfl

theorem applyTo_all_cons (first : Reading Edit) (rest : List (Reading Edit)) :
    (all (first :: rest)).applyTo = fun o => (first.applyTo o).andThen (all rest).applyTo :=
  funext (apply_andThen Edit.apply first (all rest))

theorem state_all_cons {first : Reading Edit} (sound : first.fault = none)
    (rest : List (Reading Edit)) (o : Options) :
    ((all (first :: rest)).applyTo o).state =
      ((all rest).applyTo (first.applyTo o).state).state := by
  rw [applyTo_all_cons]
  exact Outcome.state_andThen ((fault_applyTo first o).trans sound) _

theorem applyTo_all_nil : (all []).applyTo = fun o => { state := o } := rfl

theorem fault_andThen {first second : Reading E} :
    (first.andThen second).fault = none ↔ first.fault = none ∧ second.fault = none := by
  cases fault : first.fault with
  | some e => simp [andThen, fault]
  | none => simp [andThen, fault]

theorem fault_all_cons {first : Reading E} {rest : List (Reading E)} :
    (all (first :: rest)).fault = none ↔ first.fault = none ∧ (all rest).fault = none :=
  fault_andThen

theorem fault_all {readings : List (Reading E)} :
    (all readings).fault = none ↔ ∀ r ∈ readings, r.fault = none := by
  induction readings with
  | nil => exact iff_of_true rfl (by simp)
  | cons first rest ih => rw [fault_all_cons, ih, List.forall_mem_cons]

theorem fault_ofExcept {α : Type} {make : α → E} {value : Except ParseError α} :
    (ofExcept make value).fault = none ↔ ∃ a, value = .ok a := by
  cases value <;> simp [ofExcept, fail, edit]

/-- An argument by position is in order when it is absent, empty or read without a fault. -/
theorem fault_position {args : List String} {i : Nat} {read : String → Reading E} :
    (position args i read).fault = none ↔
      ∀ arg ∈ args[i]?, arg = "" ∨ (read arg).fault = none := by
  unfold position
  cases args[i]? with
  | none => simp [nothing]
  | some arg =>
    by_cases empty : arg = ""
    · simp [empty, nothing]
    · simp [empty]

theorem edits_all_cons {first : Reading E} (sound : first.fault = none)
    (rest : List (Reading E)) : (all (first :: rest)).edits = first.edits ++ (all rest).edits := by
  simp [all, andThen, sound]

theorem edits_all {readings : List (Reading E)} (sound : ∀ r ∈ readings, r.fault = none) :
    (all readings).edits = readings.flatMap edits := by
  induction readings with
  | nil => rfl
  | cons r rest ih =>
    obtain ⟨first, others⟩ := List.forall_mem_cons.mp sound
    rw [edits_all_cons first, ih others, List.flatMap_cons]

theorem position_set {args : List String} {i : Nat} (inside : i < args.length) (text : String)
    (read : String → Reading E) :
    position (args.set i text) i read = if text = "" then nothing else read text := by
  simp [position, List.getElem?_set_self inside]

theorem position_set_ne {args : List String} {i j : Nat} (apart : i ≠ j) (text : String)
    (read : String → Reading E) : position (args.set i text) j read = position args j read := by
  rw [position, List.getElem?_set_ne apart, position]

/-- If the reading ends with a fault, then it is that of an argument. -/
def Blames (r : Reading E) : Prop := ∀ e ∈ r.fault, e.kind = .invalidArgument

theorem blames_sound {r : Reading E} (sound : r.fault = none) : r.Blames := by
  rw [Blames, sound]
  nofun

theorem blames_fail {e : ParseError} (kind : e.kind = .invalidArgument) :
    (fail e : Reading E).Blames := by
  rintro _ ⟨⟩
  exact kind

theorem blames_require {α : Type} {edit : α → E} {what text : String} {value : Option α} :
    (ofExcept edit (Argument.require what text value)).Blames := by
  cases value with
  | none => exact blames_fail rfl
  | some a => exact blames_sound rfl

theorem blames_position {args : List String} {i : Nat} {read : String → Reading E}
    (each : ∀ arg, (read arg).Blames) : (position args i read).Blames := by
  unfold position
  split
  next => exact blames_sound rfl
  next arg _ =>
    split
    next => exact blames_sound rfl
    next => exact each arg

/-- Whatever comes before a fault of an argument, there is such a fault. -/
theorem blamed_all {before after : List (Reading E)} {r : Reading E}
    (earlier : ∀ b ∈ before, b.Blames) (fails : ∃ e ∈ r.fault, e.kind = .invalidArgument) :
    ∃ e ∈ (all (before ++ r :: after)).fault, e.kind = .invalidArgument := by
  induction before with
  | nil =>
    obtain ⟨e, failed, kind⟩ := fails
    exact ⟨e, by simp [all, andThen, Option.mem_def.mp failed], kind⟩
  | cons b rest ih =>
    obtain ⟨first, others⟩ := List.forall_mem_cons.mp earlier
    obtain ⟨e, failed, kind⟩ := ih others
    cases fault : b.fault with
    | none => exact ⟨e, by simpa [all, andThen, fault] using failed, kind⟩
    | some e => exact ⟨e, by simp [all, andThen, fault], first e fault⟩

end Reading

namespace Argument

theorem require_eq_ok {α : Type} {what text : String} {value : Option α} {a : α} :
    require what text value = .ok a ↔ value = some a := by
  cases value <;> simp [require]

theorem require_eq_error {α : Type} {what text : String} {value : Option α} {e : ParseError} :
    require what text value = .error e ↔ value = none ∧ e = .value what text := by
  cases value <;> simp [require, eq_comm]

section
variable {f : Binary.Format} {accepted : Binary → Bool} {what text : String} {x : Binary}

theorem number_eq_ok :
    number f accepted what text = .ok x ↔ Binary.read? f text = some x ∧ accepted x = true :=
  require_eq_ok.trans Option.filter_eq_some_iff

theorem accepted_of_number (read : number f accepted what text = .ok x) : accepted x = true :=
  (number_eq_ok.mp read).2

theorem fault_number {make : Binary → E} :
    (Reading.ofExcept make (number f accepted what text)).fault = none ↔
      ∃ x, Binary.read? f text = some x ∧ accepted x = true := by
  simp only [Reading.fault_ofExcept, number_eq_ok]

theorem number_sound {make : Binary → E}
    (sound : (Reading.ofExcept make (number f accepted what text)).fault = none) :
    ∃ x, Binary.read? f text = some x ∧ accepted x = true ∧
      Reading.ofExcept make (number f accepted what text) = .edit (make x) := by
  obtain ⟨x, read⟩ := Reading.fault_ofExcept.mp sound
  obtain ⟨found, suits⟩ := number_eq_ok.mp read
  refine ⟨x, found, suits, ?_⟩
  rw [read]
  rfl

end

end Argument
end ImageGateway
