import Mathlib.Data.List.TakeDrop
import Mathlib.Data.List.TakeWhile
import ImageGateway.Text.Pieces

/-! Pieces cut off the front of a text, and pieces put in front of one. -/
namespace ImageGateway.Text

/-- A leading text is removed exactly once, whatever follows it. -/
theorem after?_append (lead rest : String) : after? lead (lead ++ rest) = some rest := by
  simp [after?]

theorem split_append {separator : Char} {first : String} (whole : separator ∉ first.toList)
    (rest : String) :
    split separator (first ++ (String.singleton separator ++ rest)) =
      first :: split separator rest := by
  simp [split, List.splitOn_append_cons_self_of_not_mem whole]

theorem split_ne_nil (separator : Char) (s : String) : split separator s ≠ [] := by
  simp [split, List.splitOn_ne_nil]

theorem split_of_not_mem {separator : Char} {s : String} (whole : separator ∉ s.toList) :
    split separator s = [s] := by
  have joined : join separator [s] = s := String.intercalate_singleton
  calc
    split separator s = split separator (join separator [s]) := by rw [joined]
    _ = [s] := split_join separator [s] (by simp) (by simpa using whole)

theorem exists_append_of_mem {separator : Char} {s : String} (inside : separator ∈ s.toList) :
    ∃ first rest, s = first ++ (String.singleton separator ++ rest) ∧
      separator ∉ first.toList := by
  obtain ⟨before, after, cut, whole⟩ := List.eq_append_cons_of_mem inside
  refine ⟨String.ofList before, String.ofList after, ?_, by simpa using whole⟩
  exact String.toList_injective (by simp [cut])

theorem not_mem_of_mem_split {separator : Char} {piece : String} :
    ∀ {s : String}, piece ∈ split separator s → separator ∉ piece.toList
  | s, member => by
    by_cases inside : separator ∈ s.toList
    · obtain ⟨first, rest, text, whole⟩ := exists_append_of_mem inside
      have shorter : rest.toList.length < s.toList.length := by simp [text]; omega
      rw [text, split_append whole] at member
      rcases List.mem_cons.mp member with rfl | later
      · exact whole
      · exact not_mem_of_mem_split later
    · rw [split_of_not_mem inside] at member
      obtain rfl := List.mem_singleton.mp member
      exact inside
  termination_by s => s.toList.length

/-- A separator in a text divides it into a first piece and the pieces of what follows. -/
theorem exists_split_cons {separator : Char} {s : String} (inside : separator ∈ s.toList) :
    ∃ first rest, split separator s = first :: split separator rest := by
  obtain ⟨first, rest, text, whole⟩ := exists_append_of_mem inside
  exact ⟨first, rest, by rw [text, split_append whole]⟩

theorem join_append {separator : Char} {first second : List String} (filled : first ≠ [])
    (more : second ≠ []) :
    join separator (first ++ second) =
      join separator first ++ (String.singleton separator ++ join separator second) := by
  rw [join, String.intercalate_append_of_ne_nil filled more, String.append_assoc]
  rfl

theorem join_cons {separator : Char} (piece : String) {others : List String} (more : others ≠ []) :
    join separator (piece :: others) =
      piece ++ (String.singleton separator ++ join separator others) := by
  have parted : join separator ([piece] ++ others) = _ := join_append (by simp) more
  simpa [join] using parted

theorem join_append_last {separator : Char} (front : List String) (last t : String) :
    join separator (front ++ [last ++ t]) = join separator (front ++ [last]) ++ t := by
  by_cases alone : front = []
  · simp [alone, join]
  · rw [join_append alone (by simp), join_append alone (by simp)]
    simp [join, String.append_assoc]

theorem not_mem_join {c separator : Char} (other : c ≠ separator) {pieces : List String}
    (clean : ∀ piece ∈ pieces, c ∉ piece.toList) : c ∉ (join separator pieces).toList := by
  induction pieces with
  | nil => simp [join]
  | cons piece others ih =>
    obtain ⟨first, later⟩ := List.forall_mem_cons.mp clean
    by_cases last : others = []
    · simpa [last, join] using first
    · simp [join_cons piece last, first, other, ih later]

/-- Pieces in front are found again, whatever text follows them. -/
theorem split_join_append {separator : Char} {pieces : List String} (filled : pieces ≠ [])
    (clean : ∀ piece ∈ pieces, separator ∉ piece.toList) (rest : String) :
    split separator (join separator pieces ++ (String.singleton separator ++ rest)) =
      pieces ++ split separator rest := by
  induction pieces with
  | nil => contradiction
  | cons piece others ih =>
    have whole : separator ∉ piece.toList := clean piece (by simp)
    by_cases last : others = []
    · subst last
      rw [join, String.intercalate_singleton, split_append whole]
      rfl
    · have remaining := ih last fun p member => clean p (List.mem_cons_of_mem piece member)
      rw [join_cons piece last, String.append_assoc, String.append_assoc, split_append whole,
        remaining, List.cons_append]

theorem split_append_last {separator : Char} {t : String} (clean : separator ∉ t.toList) :
    ∀ {s : String} {front : List String} {last : String}, split separator s = front ++ [last] →
      split separator (s ++ t) = front ++ [last ++ t]
  | s, front, last, cut => by
    by_cases inside : separator ∈ s.toList
    · obtain ⟨first, rest, text, whole⟩ := exists_append_of_mem inside
      have shorter : rest.toList.length < s.toList.length := by simp [text]; omega
      rw [text, split_append whole] at cut
      cases front with
      | nil => exact absurd (List.cons.inj cut).2 (split_ne_nil separator rest)
      | cons piece front =>
        obtain ⟨same, later⟩ := List.cons.inj cut
        rw [text, String.append_assoc, String.append_assoc, split_append whole,
          split_append_last clean later, same, List.cons_append]
    · have extended : separator ∉ (s ++ t).toList := by simp [inside, clean]
      rw [split_of_not_mem inside] at cut
      obtain ⟨rfl, rfl⟩ : front = [] ∧ last = s := by
        cases front with
        | nil => simpa using cut.symm
        | cons piece front => simp at cut
      rw [split_of_not_mem extended, List.nil_append]
  termination_by s => s.toList.length

theorem all_ne_of_not_mem {separator : Char} {s : String} (whole : separator ∉ s.toList) :
    ∀ c ∈ s.toList, decide (c ≠ separator) := by
  intro c member
  exact decide_eq_true fun same => whole (same ▸ member)

theorem cut?_append {separator : Char} {first : String} (whole : separator ∉ first.toList)
    (rest : String) :
    cut? separator (first ++ (String.singleton separator ++ rest)) = some (first, rest) := by
  have inside := all_ne_of_not_mem whole
  have before : (first.toList ++ separator :: rest.toList).takeWhile (· ≠ separator) =
      first.toList := by
    rw [List.takeWhile_append_of_pos inside]
    simp
  have after : (first.toList ++ separator :: rest.toList).dropWhile (· ≠ separator) =
      separator :: rest.toList := by
    rw [List.dropWhile_append_of_pos inside]
    simp
  simp only [cut?, String.toList_append, String.toList_singleton, List.singleton_append,
    List.span_eq_takeWhile_dropWhile, before, after, String.ofList_toList]

theorem cut?_of_not_mem {separator : Char} {s : String} (whole : separator ∉ s.toList) :
    cut? separator s = none := by
  have after : s.toList.dropWhile (· ≠ separator) = [] :=
    List.dropWhile_eq_nil_iff.mpr (all_ne_of_not_mem whole)
  simp only [cut?, List.span_eq_takeWhile_dropWhile, after]

theorem cut?_eq_some_iff {separator : Char} {s before after : String} :
    cut? separator s = some (before, after) ↔
      s = before ++ (String.singleton separator ++ after) ∧ separator ∉ before.toList := by
  constructor
  · intro cut
    by_cases inside : separator ∈ s.toList
    · obtain ⟨first, rest, text, whole⟩ := exists_append_of_mem inside
      rw [text, cut?_append whole] at cut
      cases cut
      exact ⟨text, whole⟩
    · simp [cut?_of_not_mem inside] at cut
  · rintro ⟨rfl, whole⟩
    exact cut?_append whole after

theorem occursIn_iff {part s : List Char} : occursIn part s = true ↔ part <:+: s := by
  induction s with
  | nil => simp [occursIn, List.isEmpty_iff]
  | cons c rest ih => simp [occursIn, ih, List.infix_cons_iff]

theorem includes_iff {part s : String} : includes part s = true ↔ part.toList <:+: s.toList :=
  occursIn_iff

end ImageGateway.Text
