import ImageGateway.Proofs.Json.Change

/-! The values in a JSON value that are no objects, each with the names that lead to it. In a value
whose members are ordered by name they stand in the order of their paths, and the line that is
written for the members of an object has one entry for each of them. -/
namespace ImageGateway

namespace Text

variable {separator : String} {pieces : List String}

theorem intercalate_eq_empty_iff (filled : ∀ p ∈ pieces, p ≠ "") :
    separator.intercalate pieces = "" ↔ pieces = [] := by
  cases pieces with
  | nil => exact iff_of_true String.intercalate_nil rfl
  | cons p rest =>
    have first : p ≠ "" := filled p List.mem_cons_self
    refine iff_of_false (fun empty => ?_) (List.cons_ne_nil p rest)
    cases rest with
    | nil => exact first (String.intercalate_singleton.symm.trans empty)
    | cons q rest => simp [String.intercalate_cons_cons, first] at empty

theorem intercalate_concat (filled : ∀ p ∈ pieces, p ≠ "") (p : String) :
    separator.intercalate (pieces ++ [p]) =
      (if (separator.intercalate pieces).isEmpty then "" else
        separator.intercalate pieces ++ separator) ++ p := by
  simp only [String.isEmpty_iff, intercalate_eq_empty_iff filled]
  split
  next none => simp [none]
  next some =>
    rw [String.intercalate_append_of_ne_nil some (List.cons_ne_nil _ _),
      String.intercalate_singleton]

end Text

namespace Json

mutual

/-- The values that are no objects, with the names that lead to them, depth first. -/
def leaves : Json → List (List String × Json)
  | .object members => memberLeaves members
  | leaf => [([], leaf)]

def memberLeaves : List (String × Json) → List (List String × Json)
  | [] => []
  | (name, value) :: rest =>
    (leaves value).map (fun leaf => (name :: leaf.1, leaf.2)) ++ memberLeaves rest

end

/-- The entry of a leaf: its path, with dots between the names, and the value. -/
def entry (leaf : List String × Json) : String :=
  ".".intercalate leaf.1 ++ ": " ++ leaf.2.bare

/-- The members of each object, at any depth, have names, and stand in the order of them. -/
inductive Ordered : Json → Prop where
  | leaf {v : Json} (plain : v.isObject = false) : Ordered v
  | object {members : List (String × Json)} (named : ∀ m ∈ members, m.1 ≠ "")
      (ascending : (members.map Prod.fst).Pairwise (· < ·))
      (values : ∀ m ∈ members, Ordered m.2) : Ordered (.object members)

variable {base members : List (String × Json)} {path names done : List String} {v w d : Json}

theorem leaves_plain (plain : v.isObject = false) : leaves v = [([], v)] := by
  cases v with
  | object members => contradiction
  | _ => simp [leaves]

theorem memberLeaves_eq (members : List (String × Json)) :
    memberLeaves members =
      members.flatMap fun m => (leaves m.2).map fun leaf => (m.1 :: leaf.1, leaf.2) := by
  induction members with
  | nil => simp [memberLeaves]
  | cons m rest ih => rw [memberLeaves, ih, List.flatMap_cons]

theorem entry_ne_empty (leaf : List String × Json) : entry leaf ≠ "" := by
  simp [entry]

theorem leaves_ne_nil (filled : Filled v) : leaves v ≠ [] := by
  induction filled with
  | @object members some values ih =>
    obtain ⟨m, rest, rfl⟩ := List.exists_cons_of_ne_nil some
    have inside : leaves m.2 ≠ [] := ih m List.mem_cons_self
    simp [leaves, memberLeaves, inside]
  | array values => simp [leaves]
  | scalar single => simp [leaves_plain (isObject_of_isScalar single)]

theorem distinct_of_ascending (ascending : names.Pairwise (· < ·)) : names.Nodup :=
  ascending.imp fun before => String.ne_of_lt before

/-- The leaves are what paths lead to, but for objects. -/
theorem mem_leaves_iff (ordered : Ordered v) :
    (path, w) ∈ leaves v ↔ v.at? path = some w ∧ w.isObject = false := by
  induction ordered generalizing path w with
  | @leaf v plain =>
    rw [leaves_plain plain, List.mem_singleton, Prod.mk.injEq]
    cases path with
    | nil =>
      rw [at?, Option.some.injEq]
      constructor
      · rintro ⟨-, rfl⟩
        exact ⟨rfl, plain⟩
      · rintro ⟨rfl, -⟩
        exact ⟨rfl, rfl⟩
    | cons name path =>
      have missing : v.member? name = none := by
        cases v with
        | object members => contradiction
        | _ => rfl
      rw [at?, missing]
      simp
  | @object members named ascending values ih =>
    rw [leaves, memberLeaves_eq]
    cases path with
    | nil =>
      -- The empty path leads to the object itself, which is no leaf.
      refine iff_of_false (by simp) ?_
      rintro ⟨stands, plain⟩
      obtain rfl := Option.some.inj stands
      contradiction
    | cons name path =>
      simp only [List.mem_flatMap, List.mem_map, Prod.mk.injEq, List.cons.injEq]
      constructor
      · rintro ⟨m, member, ⟨path, w⟩, inside, ⟨rfl, rfl⟩, rfl⟩
        have found : find? m.1 members = some m.2 :=
          find?_of_mem (distinct_of_ascending ascending) member
        obtain ⟨stands, plain⟩ := (ih m member).mp inside
        exact ⟨(congrArg (·.bind (at? path)) found).trans stands, plain⟩
      · rintro ⟨stands, plain⟩
        obtain ⟨value, found, stands⟩ := Option.bind_eq_some_iff.mp stands
        have member : (name, value) ∈ members := mem_of_find? found
        exact ⟨_, member, (path, w), (ih _ member).mpr ⟨stands, plain⟩, ⟨rfl, rfl⟩, rfl⟩

/-- Depth first is the order of the paths, so no path comes twice. -/
theorem ascending_leaves (ordered : Ordered v) : ((leaves v).map Prod.fst).Pairwise (· < ·) := by
  induction ordered with
  | leaf plain => simp [leaves_plain plain]
  | @object members named ascending values ih =>
    rw [leaves, memberLeaves_eq, List.pairwise_map, List.pairwise_flatMap]
    constructor
    · intro m member
      have inside := List.pairwise_map.mp (ih m member)
      exact List.pairwise_map.mpr
        (inside.imp fun before => List.cons_lt_cons_iff.mpr (.inr ⟨rfl, before⟩))
    · refine (List.pairwise_map.mp ascending).imp fun {m n} before a first b second => ?_
      obtain ⟨x, -, rfl⟩ := List.mem_map.mp first
      obtain ⟨y, -, rfl⟩ := List.mem_map.mp second
      exact List.cons_lt_cons_iff.mpr (.inl before)

/-- Below any path and behind any entries, the members are written as the entries of their leaves. -/
def Listed (members : List (String × Json)) : Prop :=
  ∀ names done : List String, (∀ n ∈ names, n ≠ "") → (∀ e ∈ done, e ≠ "") →
    writeMembers (".".intercalate names) ("; ".intercalate done) members =
      "; ".intercalate
        (done ++ (memberLeaves members).map fun leaf => entry (names ++ leaf.1, leaf.2))

variable {name : String} {rest inner : List (String × Json)}

theorem path_concat (filled : ∀ n ∈ names, n ≠ "") (name : String) :
    (if (".".intercalate names).isEmpty then name else ".".intercalate names ++ "." ++ name) =
      ".".intercalate (names ++ [name]) := by
  rw [Text.intercalate_concat filled]
  split <;> simp

theorem Listed.nil : Listed [] := by
  intro names done _ _
  simp [writeMembers, memberLeaves]

theorem Listed.leaf (plain : v.isObject = false) (later : Listed rest) :
    Listed ((name, v) :: rest) := by
  intro names done named filled
  have written : "; ".intercalate (done ++ [entry (names ++ [name], v)]) =
      (if ("; ".intercalate done).isEmpty then "" else "; ".intercalate done ++ "; ") ++
        ".".intercalate (names ++ [name]) ++ ": " ++ v.bare := by
    rw [Text.intercalate_concat filled, entry]
    simp only [String.append_assoc]
  have step : writeMembers (".".intercalate names) ("; ".intercalate done) ((name, v) :: rest) =
      writeMembers (".".intercalate names)
        ("; ".intercalate (done ++ [entry (names ++ [name], v)])) rest := by
    rw [written, ← path_concat named, writeMembers]
    rintro members rfl
    contradiction
  have full : ∀ e ∈ done ++ [entry (names ++ [name], v)], e ≠ "" :=
    List.forall_mem_append.mpr ⟨filled, List.forall_mem_singleton.mpr (entry_ne_empty _)⟩
  rw [step, later names _ named full, memberLeaves, leaves_plain plain]
  simp

theorem Listed.object (named : name ≠ "") (inside : Listed inner) (later : Listed rest) :
    Listed ((name, .object inner) :: rest) := by
  intro names done full filled
  have deeper : ∀ n ∈ names ++ [name], n ≠ "" :=
    List.forall_mem_append.mpr ⟨full, List.forall_mem_singleton.mpr named⟩
  have further : ∀ e ∈ done ++ (memberLeaves inner).map fun leaf =>
      entry (names ++ [name] ++ leaf.1, leaf.2), e ≠ "" := by
    refine List.forall_mem_append.mpr ⟨filled, List.forall_mem_map.mpr fun leaf _ => ?_⟩
    exact entry_ne_empty _
  rw [writeMembers, path_concat full, inside _ _ deeper filled, later _ _ full further,
    memberLeaves, leaves]
  simp only [List.map_append, List.map_map, Function.comp_def, List.append_assoc, List.cons_append,
    List.nil_append]

theorem Listed.of_forall
    (each : ∀ m ∈ members, m.1 ≠ "" ∧ ∀ inner, m.2 = .object inner → Listed inner) :
    Listed members := by
  induction members with
  | nil => exact .nil
  | cons m rest ih =>
    obtain ⟨name, value⟩ := m
    obtain ⟨⟨named, inside⟩, others⟩ := List.forall_mem_cons.mp each
    cases value with
    | object inner => exact .object named (inside inner rfl) (ih others)
    | _ => exact .leaf rfl (ih others)

theorem listed_of_ordered (ordered : Ordered (.object members)) : Listed members := by
  generalize object : Json.object members = v at ordered
  induction ordered generalizing members with
  | leaf plain =>
    subst object
    contradiction
  | object named ascending values ih =>
    cases object
    exact .of_forall fun m member => ⟨named m member, fun inner same => ih m member same.symm⟩

theorem writeMembers_eq (ordered : Ordered (.object members)) :
    writeMembers "" "" members = "; ".intercalate ((leaves (.object members)).map entry) := by
  have written := listed_of_ordered ordered [] [] nofun nofun
  rwa [String.intercalate_nil, String.intercalate_nil] at written

theorem names_changes (base members : List (String × Json)) :
    ((changes base members).map Prod.fst).Sublist (members.map Prod.fst) := by
  induction members with
  | nil => simp [changes]
  | cons m rest ih =>
    obtain ⟨name, value⟩ := m
    rw [changes]
    cases change? (find? name base) value with
    | none => exact ih.cons name
    | some changed => exact ih.cons_cons name

theorem ordered_of_change? {before : Option Json} (ordered : Ordered w)
    (changed : change? before w = some d) : Ordered d := by
  induction ordered generalizing before d with
  | leaf plain =>
    rcases cases_of_change? changed with rfl | ⟨_, _, rfl, rfl, -⟩
    · exact .leaf plain
    · contradiction
  | @object members named ascending values ih =>
    rcases cases_of_change? changed with rfl | ⟨base, _, rfl, same, rfl, -⟩
    · exact .object named ascending values
    · cases same
      refine .object (fun m inside => ?_) (ascending.sublist (names_changes base members))
        fun m inside => ?_
      · obtain ⟨value, member, -⟩ := mem_changes inside
        exact named (m.1, value) member
      · obtain ⟨value, member, change⟩ := mem_changes inside
        exact ih (m.1, value) member change

end Json
end ImageGateway
