import ImageGateway.Options.Diff
import ImageGateway.Proofs.Json.Overlay

/-! A difference as a patch. Laid over the value that it was taken from, the difference of two
values gives the other value back, as far as objects stand at the same places in both of them. What
it holds is new, wherever it stands, and it holds no empty object. -/
namespace ImageGateway.Json

/-- The value that a path of names leads to. -/
def at? : List String → Json → Option Json
  | [], v => some v
  | name :: path, v => (v.member? name).bind (at? path)

/-- Objects stand at the same places in both values, with the same names. -/
inductive Alike : Json → Json → Prop where
  | leaf {v w : Json} (left : v.isObject = false) (right : w.isObject = false) : Alike v w
  | object {xs ys : List (String × Json)} (names : xs.map Prod.fst = ys.map Prod.fst)
      (distinct : (xs.map Prod.fst).Nodup)
      (values : ∀ name x y, find? name xs = some x → find? name ys = some y → Alike x y) :
      Alike (.object xs) (.object ys)

def isScalar : Json → Bool
  | .object _ | .array _ => false
  | _ => true

theorem isObject_of_isScalar {v : Json} (single : v.isScalar = true) : v.isObject = false := by
  cases v <;> first | rfl | contradiction

/-- There is no empty object in the value, and it is none itself. -/
inductive Filled : Json → Prop where
  | object {members : List (String × Json)} (filled : members ≠ [])
      (values : ∀ m ∈ members, Filled m.2) : Filled (.object members)
  | array {items : List Json} (values : ∀ item ∈ items, Filled item) : Filled (.array items)
  | scalar {v : Json} (single : v.isScalar = true) : Filled v

variable {base members xs ys : List (String × Json)} {name : String} {v w d : Json}

theorem change?_leaf (plain : w.isObject = false) :
    change? (some v) w = if v.same w then none else some w := by
  cases w with
  | object members => contradiction
  | _ => rw [change?]; nofun

theorem change?_object (before members : List (String × Json)) :
    change? (some (.object before)) (.object members) =
      if (changes before members).isEmpty then none
      else some (.object (changes before members)) := by
  rw [change?]
  cases changes before members <;> rfl

theorem changes_cons (name : String) (value : Json) (rest : List (String × Json)) :
    changes base ((name, value) :: rest) =
      ((change? (find? name base) value).map (name, ·)).toList ++ changes base rest := by
  rw [changes]
  cases change? (find? name base) value <;> rfl

theorem mem_changes (changed : (name, d) ∈ changes base members) :
    ∃ value, (name, value) ∈ members ∧ change? (find? name base) value = some d := by
  induction members with
  | nil => simp [changes] at changed
  | cons m rest ih =>
    obtain ⟨key, value⟩ := m
    rw [changes_cons] at changed
    rcases List.mem_append.mp changed with first | later
    · obtain ⟨found, changed, same⟩ : ∃ c, change? (find? key base) value = some c ∧
          (key, c) = (name, d) := by simpa using first
      cases same
      exact ⟨value, List.mem_cons_self, changed⟩
    · obtain ⟨value, member, changed⟩ := ih later
      exact ⟨value, List.mem_cons_of_mem _ member, changed⟩

theorem changes_eq_nil_iff :
    changes base members = [] ↔ ∀ m ∈ members, change? (find? m.1 base) m.2 = none := by
  induction members with
  | nil => simp [changes]
  | cons m rest ih =>
    rw [changes_cons, List.append_eq_nil_iff, ih, List.forall_mem_cons]
    simp

theorem find?_changes (distinct : (members.map Prod.fst).Nodup) :
    find? name (changes base members) = (find? name members).bind (change? (find? name base)) := by
  induction members with
  | nil => rfl
  | cons m rest ih =>
    obtain ⟨key, value⟩ := m
    obtain ⟨fresh, distinct⟩ := List.nodup_cons.mp distinct
    have others := ih distinct
    rw [changes, find?]
    by_cases same : key = name
    · subst same
      have absent : find? key (changes base rest) = none := by
        rw [others]
        cases later : find? key rest with
        | none => rfl
        | some x => exact absurd (mem_names_of_find? later) fresh
      cases change : change? (find? key base) value with
      | none => simp [absent, change]
      | some changed => simp [find?, change]
    · cases change? (find? key base) value with
      | none => simp [same, others]
      | some changed => simp [find?, same, others]

/-- Nothing is changed exactly between values that say the same. -/
theorem change?_eq_none_iff (alike : Alike v w) :
    change? (some v) w = none ↔ v.content = w.content := by
  induction alike with
  | leaf left right =>
    rw [change?_leaf right, ← same_iff]
    simp
  | @object xs ys names distinct values ih =>
    have unchanged : change? (some (.object xs)) (.object ys) = none ↔
        ∀ m ∈ ys, change? (find? m.1 xs) m.2 = none := by
      rw [change?_object, ← changes_eq_nil_iff, ite_eq_left_iff]
      simp
    rw [unchanged, content, content, Content.object.injEq]
    constructor
    · intro none
      refine contentMembers_ext names distinct fun name x y left right => ?_
      have still := none (name, y) (mem_of_find? right)
      rw [left] at still
      exact (ih name x y left right).mp still
    · intro same m member
      obtain ⟨name, y⟩ := m
      have right : find? name ys = some y := find?_of_mem (names ▸ distinct) member
      obtain ⟨x, left⟩ := exists_find? (names ▸ mem_names_of_find? right)
      rw [left]
      exact (ih name x y left right).mpr (content_of_find? same left right)

/-- The changes of an object lay no new names over it. -/
theorem filter_changes (names : xs.map Prod.fst = ys.map Prod.fst) :
    ((changes xs ys).filter fun m => (find? m.1 xs).isNone) = [] := by
  refine List.filter_eq_nil_iff.mpr fun m changed absent => ?_
  obtain ⟨name, d⟩ := m
  obtain ⟨value, member, -⟩ := mem_changes changed
  have named : name ∈ xs.map Prod.fst := names ▸ List.mem_map_of_mem (f := Prod.fst) member
  obtain ⟨x, found⟩ := exists_find? named
  rw [found] at absent
  contradiction

/-- A change laid over the value before gives the value after. -/
theorem overlay_change? (alike : Alike v w) (changed : change? (some v) w = some d) :
    (v.overlay d).content = w.content := by
  induction alike generalizing d with
  | @leaf v w left right =>
    rw [change?_leaf right] at changed
    split at changed
    next => contradiction
    next =>
      obtain rfl := Option.some.inj changed
      rw [overlay_plain right]
  | @object xs ys names distinct values ih =>
    rw [change?_object] at changed
    split at changed
    next => contradiction
    next =>
      obtain rfl := Option.some.inj changed
      rw [overlay, filter_changes names, List.append_nil, content, content]
      refine congrArg _ (contentMembers_ext (names_overlayMembers.trans names) ?distinct ?values)
      case distinct => rwa [names_overlayMembers]
      case values =>
        intro name laid y covered right
        rw [find?_overlayMembers, find?_changes (names ▸ distinct), right] at covered
        obtain ⟨x, left, rfl⟩ := Option.map_eq_some_iff.mp covered
        rw [left, Option.bind_some]
        cases change : change? (some x) y with
        -- What did not change stays as it was, and says the same.
        | none => exact (change?_eq_none_iff (values name x y left right)).mp change
        | some c => exact ih name x y left right change

theorem exists_of_find?_changes (names : xs.map Prod.fst = ys.map Prod.fst)
    (distinct : (xs.map Prod.fst).Nodup) (changed : find? name (changes xs ys) = some d) :
    ∃ x y, find? name xs = some x ∧ find? name ys = some y ∧ change? (some x) y = some d := by
  rw [find?_changes (names ▸ distinct)] at changed
  obtain ⟨y, right, change⟩ := Option.bind_eq_some_iff.mp changed
  obtain ⟨x, left⟩ := exists_find? (names ▸ mem_names_of_find? right)
  exact ⟨x, y, left, right, left ▸ change⟩

/-- Wherever a path leads to in a change, the value before had something else there. -/
theorem content_ne_of_change? (alike : Alike v w) (changed : change? (some v) w = some d)
    {path : List String} {part before : Json} (found : d.at? path = some part)
    (stood : v.at? path = some before) : before.content ≠ part.content := by
  induction alike generalizing d path part before with
  | @leaf v w left right =>
    rw [change?_leaf right] at changed
    split at changed
    next => contradiction
    next different =>
      obtain rfl := Option.some.inj changed
      cases path with
      | nil =>
        obtain rfl := Option.some.inj found
        obtain rfl := Option.some.inj stood
        exact fun same => different ((same_iff _ _).mpr same)
      | cons name path =>
        cases v with
        | object members => contradiction
        | _ => contradiction
  | @object xs ys names distinct values ih =>
    rw [change?_object] at changed
    split at changed
    next => contradiction
    next filled =>
      obtain rfl := Option.some.inj changed
      cases path with
      | nil =>
        obtain rfl := Option.some.inj found
        obtain rfl := Option.some.inj stood
        -- The first changed member differs, so the objects do.
        intro same
        obtain ⟨m, rest, first⟩ := List.exists_cons_of_ne_nil fun none =>
          filled (List.isEmpty_iff.mpr none)
        obtain ⟨name, c⟩ := m
        have inside : find? name (changes xs ys) = some c := by simp [first, find?]
        obtain ⟨x, y, left, right, change⟩ := exists_of_find?_changes names distinct inside
        rw [content, content, Content.object.injEq] at same
        have here (v : Json) : v.at? [] = some v := rfl
        exact ih name x y left right change (here c) (here x) (content_of_find? same left inside)
      | cons name path =>
        obtain ⟨c, inside, found⟩ := Option.bind_eq_some_iff.mp found
        obtain ⟨x, y, left, right, change⟩ := exists_of_find?_changes names distinct inside
        obtain ⟨b, held, stood⟩ := Option.bind_eq_some_iff.mp stood
        obtain rfl := Option.some.inj (left.symm.trans held)
        exact ih name x y left right change found stood

theorem Filled.ne_nil (filled : Filled (.object members)) : members ≠ [] := by
  cases filled with
  | object some values => exact some
  | scalar single => contradiction

theorem Filled.values (filled : Filled (.object members)) : ∀ m ∈ members, Filled m.2 := by
  cases filled with
  | object some values => exact values
  | scalar single => contradiction

theorem cases_of_change? {before : Option Json} (changed : change? before w = some d) :
    d = w ∨ ∃ base members, before = some (.object base) ∧ w = .object members ∧
      d = .object (changes base members) ∧ changes base members ≠ [] := by
  unfold change? at changed
  split at changed
  next base members =>
    split at changed
    next => contradiction
    next filled =>
      exact .inr ⟨base, members, rfl, rfl, (Option.some.inj changed).symm, filled⟩
  next =>
    split at changed
    next => contradiction
    next => exact .inl (Option.some.inj changed).symm
  next => exact .inl (Option.some.inj changed).symm

/-- A change has no empty object in it, however deep. -/
theorem filled_of_change? {before : Option Json} (filled : Filled w)
    (changed : change? before w = some d) : Filled d := by
  induction filled generalizing before d with
  | @object members some values ih =>
    rcases cases_of_change? changed with rfl | ⟨base, _, rfl, same, rfl, nonempty⟩
    · exact .object some values
    · cases same
      refine .object nonempty fun m inside => ?_
      obtain ⟨name, c⟩ := m
      obtain ⟨value, member, change⟩ := mem_changes inside
      exact ih (name, value) member change
  | array values ih =>
    rcases cases_of_change? changed with rfl | ⟨_, _, rfl, impossible, -⟩
    · exact .array values
    · contradiction
  | scalar single =>
    rcases cases_of_change? changed with rfl | ⟨_, _, rfl, rfl, -⟩
    · exact .scalar single
    · contradiction

end ImageGateway.Json
