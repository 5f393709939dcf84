import Mathlib.Data.List.DropRight
import ImageGateway.Proofs.Text.Pieces

/-! Texts without what surrounds them. What is stripped can be added or removed at both ends, and a
separator that is not stripped itself keeps the texts on its two sides apart. -/
namespace ImageGateway.Text

variable {p : Char → Bool}

theorem strip_append_left {lead : List Char} (outside : ∀ c ∈ lead, p c) (s : List Char) :
    strip p (String.ofList (lead ++ s)) = strip p (String.ofList s) := by
  simp only [strip, String.toList_ofList, List.dropWhile_append_of_pos outside]

theorem strip_append_right {trail : List Char} (outside : ∀ c ∈ trail, p c) (s : List Char) :
    strip p (String.ofList (s ++ trail)) = strip p (String.ofList s) := by
  have gone : trail.dropWhile p = [] := List.dropWhile_eq_nil_iff.mpr outside
  simp only [strip, String.toList_ofList, List.dropWhile_append]
  split
  next blank => rw [List.isEmpty_iff.mp blank, gone]
  next =>
    rw [List.reverse_append, List.dropWhile_append_of_pos fun c member =>
      outside c (List.mem_reverse.mp member)]

def Stripped (p : Char → Bool) (s : String) : Prop :=
  (∀ c ∈ s.toList.head?, p c = false) ∧ ∀ c ∈ s.toList.getLast?, p c = false

instance (s : String) : Decidable (Stripped p s) :=
  decidable_of_iff (s.toList.head?.all (!p ·) ∧ s.toList.getLast?.all (!p ·))
    (by simp [Stripped, Option.all_eq_true])

theorem toList_strip (s : String) :
    (strip p s).toList = (s.toList.dropWhile p).rdropWhile p :=
  String.toList_ofList

theorem stripped_strip (p : Char → Bool) (s : String) : Stripped p (strip p s) := by
  rw [Stripped, toList_strip]
  constructor
  · intro c first
    obtain ⟨later, whole⟩ := List.head?_eq_some_iff.mp first
    obtain ⟨rest, split⟩ := List.rdropWhile_prefix p (s.toList.dropWhile p)
    have start : (s.toList.dropWhile p).head? = some c := by
      rw [← split, whole]
      rfl
    simpa [start] using List.head?_dropWhile_not p s.toList
  · intro c last
    have filled : (s.toList.dropWhile p).rdropWhile p ≠ [] := by
      intro empty
      simp [empty] at last
    rw [List.getLast?_eq_some_getLast filled] at last
    obtain rfl := Option.some.inj last
    simpa using List.rdropWhile_last_not p (s.toList.dropWhile p) filled

theorem strip_of_stripped {s : String} (stripped : Stripped p s) : strip p s = s := by
  have front : s.toList.dropWhile p = s.toList := by
    refine List.dropWhile_eq_self_iff.mpr fun filled => ?_
    have first : s.toList.head? = some s.toList[0] :=
      List.head?_eq_getElem?.trans (List.getElem?_eq_getElem filled)
    simpa using stripped.1 _ first
  have back : s.toList.rdropWhile p = s.toList := by
    refine List.rdropWhile_eq_self_iff.mpr fun filled => ?_
    simpa using stripped.2 _ (List.getLast?_eq_some_getLast filled)
  exact String.toList_injective (by rw [toList_strip, front, back])

theorem stripped_of_forall {s : String} (solid : ∀ c ∈ s.toList, p c = false) : Stripped p s :=
  ⟨fun c first => solid c (List.mem_of_mem_head? first),
    fun c last => solid c (List.mem_of_mem_getLast? last)⟩

theorem stripped_between {first last : String} (front : Stripped p first) (back : Stripped p last)
    (filled : first ≠ "") (ending : last ≠ "") (middle : String) :
    Stripped p (first ++ (middle ++ last)) := by
  constructor
  · simpa [List.head?_append_of_ne_nil, filled] using front.1
  · simpa [List.getLast?_append_of_ne_nil, ending] using back.2

theorem stripped_join {separator : Char} {pieces : List String} (several : pieces ≠ [])
    (filled : ∀ piece ∈ pieces, piece ≠ "") (stripped : ∀ piece ∈ pieces, Stripped p piece) :
    join separator pieces ≠ "" ∧ Stripped p (join separator pieces) := by
  induction pieces with
  | nil => contradiction
  | cons piece others ih =>
    obtain ⟨filledFirst, filledLater⟩ := List.forall_mem_cons.mp filled
    obtain ⟨first, later⟩ := List.forall_mem_cons.mp stripped
    by_cases last : others = []
    · subst last
      simpa [join] using ⟨filledFirst, first⟩
    · obtain ⟨ending, back⟩ := ih last filledLater later
      rw [join_cons piece last]
      exact ⟨by simp [filledFirst], stripped_between first back filledFirst ending _⟩

theorem strip_eq_empty_iff {s : String} : strip p s = "" ↔ ∀ c ∈ s.toList, p c := by
  rw [← String.toList_inj, toList_strip, String.toList_empty, List.rdropWhile_eq_nil_iff]
  constructor
  · intro inside c member
    rw [← List.takeWhile_append_dropWhile (p := p) (l := s.toList)] at member
    exact (List.mem_append.mp member).elim List.mem_takeWhile_imp (inside c)
  · exact fun all c member => all c ((List.dropWhile_sublist p).subset member)

def Blank (s : String) : Prop := ∀ c ∈ s.toList, isBlank c

def Trimmed (s : String) : Prop := Stripped isBlank s

instance (s : String) : Decidable (Trimmed s) := inferInstanceAs (Decidable (Stripped isBlank s))

theorem trimmed_trim (s : String) : Trimmed (trim s) := stripped_strip isBlank s

theorem trim_of_trimmed {s : String} (trimmed : Trimmed s) : trim s = s := strip_of_stripped trimmed

theorem trim_eq_empty_iff {s : String} : trim s = "" ↔ Blank s := strip_eq_empty_iff

theorem not_blank_of_trimmed {s : String} (trimmed : Trimmed s) (filled : s ≠ "") : ¬Blank s :=
  fun blank => filled ((trim_of_trimmed trimmed).symm.trans (trim_eq_empty_iff.mpr blank))

/-- Stripping leaves the separator where it is and takes from both sides only what stripping them
alone takes too. -/
theorem exists_strip_separated {separator : Char} (solid : p separator = false) {before : String}
    (plain : separator ∉ before.toList) (after : String) :
    ∃ first second,
      strip p (before ++ (String.singleton separator ++ after)) =
          first ++ (String.singleton separator ++ second) ∧
        separator ∉ first.toList ∧ strip p first = strip p before ∧
        strip p second = strip p after := by
  refine ⟨String.ofList (before.toList.dropWhile p), String.ofList (after.toList.rdropWhile p),
    ?whole, ?apart, ?left, ?right⟩
  case whole =>
    apply String.toList_injective
    have start : (before.toList ++ separator :: after.toList).dropWhile p =
        before.toList.dropWhile p ++ separator :: after.toList := by
      rw [List.dropWhile_append]
      split
      next blank => simp [List.isEmpty_iff.mp blank, solid]
      next => rfl
    simp [strip, start, List.rdropWhile, List.dropWhile_append, solid]
  case apart =>
    intro member
    exact plain ((List.dropWhile_sublist p).subset (by simpa using member))
  case left =>
    have blanks : ∀ c ∈ before.toList.takeWhile p, p c := fun c => List.mem_takeWhile_imp
    rw [← strip_append_left blanks, List.takeWhile_append_dropWhile, String.ofList_toList]
  case right =>
    have blanks : ∀ c ∈ after.toList.rtakeWhile p, p c := fun c => List.mem_rtakeWhile_imp
    rw [← strip_append_right blanks, List.rdropWhile_append_rtakeWhile, String.ofList_toList]

end ImageGateway.Text
