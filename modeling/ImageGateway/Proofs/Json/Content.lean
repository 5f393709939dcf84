import Mathlib.Data.List.Nodup
import ImageGateway.Json.Basic
import ImageGateway.Proofs.Binary.Order

/-! What a JSON value says, apart from how its numbers are written. Two values are the same when they
say the same, so that sameness is an equality. -/
namespace ImageGateway.Json

/-- A JSON value whose numbers are the rationals that they stand for. -/
inductive Content where
  | null
  | bool (b : Bool)
  | integer (n : Int)
  | number (q : ℚ)
  | string (s : String)
  | array (items : List Content)
  | object (members : List (String × Content))

mutual

def content : Json → Content
  | .null => .null
  | .bool b => .bool b
  | .integer n => .integer n
  | .number _ x => .number x.toRat
  | .string s => .string s
  | .array items => .array (contentItems items)
  | .object members => .object (contentMembers members)

def contentItems : List Json → List Content
  | [] => []
  | item :: rest => item.content :: contentItems rest

def contentMembers : List (String × Json) → List (String × Content)
  | [] => []
  | (name, value) :: rest => (name, value.content) :: contentMembers rest

end

mutual

theorem same_iff : (v w : Json) → (v.same w = true ↔ v.content = w.content)
  | .null, w => by cases w <;> simp [same, content]
  | .bool b, w => by cases w <;> simp [same, content]
  | .integer n, w => by cases w <;> simp [same, content]
  | .number style x, w => by cases w <;> simp [same, content, Binary.Finite.same_iff]
  | .string s, w => by cases w <;> simp [same, content]
  | .array items, w => by
    cases w with
    | array others =>
      rw [same, content, content, Content.array.injEq]
      exact sameItems_iff items others
    | _ => simp [same, content]
  | .object members, w => by
    cases w with
    | object others =>
      rw [same, content, content, Content.object.injEq]
      exact sameMembers_iff members others
    | _ => simp [same, content]

theorem sameItems_iff : (xs ys : List Json) →
    (sameItems xs ys = true ↔ contentItems xs = contentItems ys)
  | [], ys => by cases ys <;> simp [sameItems, contentItems]
  | x :: xs, [] => by simp [sameItems, contentItems]
  | x :: xs, y :: ys => by
    rw [sameItems, contentItems, contentItems, Bool.and_eq_true, List.cons.injEq]
    exact and_congr (same_iff x y) (sameItems_iff xs ys)

theorem sameMembers_iff : (xs ys : List (String × Json)) →
    (sameMembers xs ys = true ↔ contentMembers xs = contentMembers ys)
  | [], ys => by cases ys <;> simp [sameMembers, contentMembers]
  | x :: xs, [] => by simp [sameMembers, contentMembers]
  | (k, x) :: xs, (l, y) :: ys => by
    rw [sameMembers, contentMembers, contentMembers, Bool.and_eq_true, Bool.and_eq_true,
      List.cons.injEq, Prod.mk.injEq, decide_eq_true_iff]
    exact and_congr (and_congr Iff.rfl (same_iff x y)) (sameMembers_iff xs ys)

end

theorem contentMembers_eq_map (members : List (String × Json)) :
    contentMembers members = members.map fun m => (m.1, m.2.content) := by
  induction members with
  | nil => rfl
  | cons m rest ih => exact congrArg _ ih

variable {name : String} {members others : List (String × Json)} {v w : Json}

theorem mem_of_find? (found : find? name members = some v) : (name, v) ∈ members := by
  induction members with
  | nil => contradiction
  | cons m rest ih =>
    obtain ⟨key, value⟩ := m
    rw [find?] at found
    split at found
    next same =>
      obtain rfl := Option.some.inj found
      exact same ▸ List.mem_cons_self
    next => exact List.mem_cons_of_mem _ (ih found)

theorem mem_names_of_find? (found : find? name members = some v) :
    name ∈ members.map Prod.fst :=
  List.mem_map_of_mem (f := Prod.fst) (mem_of_find? found)

theorem exists_find? (named : name ∈ members.map Prod.fst) : ∃ v, find? name members = some v := by
  induction members with
  | nil => contradiction
  | cons m rest ih =>
    obtain ⟨key, value⟩ := m
    rw [find?]
    split
    next => exact ⟨value, rfl⟩
    next different =>
      exact ih ((List.mem_cons.mp named).resolve_left fun same => different same.symm)

theorem find?_of_mem (distinct : (members.map Prod.fst).Nodup) (member : (name, v) ∈ members) :
    find? name members = some v := by
  obtain ⟨w, found⟩ := exists_find? (List.mem_map_of_mem (f := Prod.fst) member)
  have same := List.inj_on_of_nodup_map distinct member (mem_of_find? found) rfl
  cases same
  exact found

theorem lookup_contentMembers (members : List (String × Json)) (name : String) :
    (contentMembers members).lookup name = (find? name members).map content := by
  induction members with
  | nil => rfl
  | cons m rest ih =>
    obtain ⟨key, value⟩ := m
    rw [contentMembers, find?, List.lookup_cons]
    split
    next same => simp [LawfulBEq.eq_of_beq same]
    next different =>
      have apart : key ≠ name := fun same => by simp [same] at different
      rw [if_neg apart, ih]

theorem content_of_find? (same : contentMembers members = contentMembers others)
    (left : find? name members = some v) (right : find? name others = some w) :
    v.content = w.content := by
  have seen := congrArg (List.lookup name) same
  rw [lookup_contentMembers, lookup_contentMembers, left, right] at seen
  exact Option.some.inj seen

/-- Objects with the same distinct names say the same when their values do. -/
theorem contentMembers_ext (names : members.map Prod.fst = others.map Prod.fst)
    (distinct : (members.map Prod.fst).Nodup)
    (values : ∀ name v w, find? name members = some v → find? name others = some w →
      v.content = w.content) : contentMembers members = contentMembers others := by
  induction members generalizing others with
  | nil =>
    obtain rfl := List.map_eq_nil_iff.mp names.symm
    rfl
  | cons m rest ih =>
    obtain ⟨key, v⟩ := m
    cases others with
    | nil => contradiction
    | cons other others =>
      obtain ⟨key', w⟩ := other
      obtain ⟨rfl, remaining⟩ := List.cons.inj names
      obtain ⟨fresh, distinct⟩ := List.nodup_cons.mp distinct
      have head : v.content = w.content := values key v w (by simp [find?]) (by simp [find?])
      rw [contentMembers, contentMembers, head, ih remaining distinct]
      intro name v w left right
      have apart : key ≠ name := fun same => fresh (same ▸ mem_names_of_find? left)
      exact values name v w (by rw [find?, if_neg apart, left])
        (by rw [find?, if_neg apart, right])

end ImageGateway.Json
