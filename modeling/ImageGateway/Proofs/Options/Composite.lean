import ImageGateway.Proofs.Preset.Plain

/-! Composite options. A resize and a size stand for other options, one for each argument that is
given, by the argument's place. Applying them and applying these options one after the other comes
to the same outcome on all options, with what was written before a fault and with the same fault. -/
namespace ImageGateway

namespace UrlOption

/-- The options that arguments stand for by place; an argument that is absent or empty stands for
none. -/
def parts (keywords args : List String) : List UrlOption :=
  ((keywords.zip args).filter fun part => !part.2.isEmpty).map fun part => ⟨part.1, [part.2]⟩

theorem parts_cons (keyword arg : String) (keywords args : List String) :
    parts (keyword :: keywords) (arg :: args) =
      if arg.isEmpty then parts keywords args else ⟨keyword, [arg]⟩ :: parts keywords args := by
  rw [parts, List.zip_cons_cons]
  cases empty : arg.isEmpty with
  | true => rw [List.filter_cons_of_neg (by simp [empty])]; rfl
  | false => rw [List.filter_cons_of_pos (by simp [empty])]; rfl

theorem plain_parts {keywords : List String}
    (known : ∀ keyword ∈ keywords, OptionName.ofText? keyword ≠ some .preset) (args : List String) :
    ∀ asked ∈ parts keywords args, asked.Plain := by
  intro asked member
  obtain ⟨⟨keyword, arg⟩, given, rfl⟩ := List.mem_map.mp member
  exact known keyword (List.of_mem_zip (List.mem_filter.mp given).1).1

end UrlOption

namespace Reading

variable {E : Type}

theorem andThen_nothing (r : Reading E) : r.andThen nothing = r := by
  obtain ⟨edits, warnings, fault⟩ := r
  cases fault <;> simp [andThen, nothing]

theorem limited_eq (option : String) (args : List String) (most : Nat) (r : Reading E) :
    limited option args most r =
      if 1 ≤ args.length ∧ args.length ≤ most then r else .fail (.arguments option args) := by
  unfold limited
  cases args with
  | nil => rfl
  | cons arg rest =>
    by_cases crowded : most < (arg :: rest).length
    · rw [if_pos (by simpa using crowded), if_neg fun within => Nat.not_le.mpr crowded within.2]
    · rw [if_neg (by simpa using crowded), if_pos ⟨by simp, Nat.not_lt.mp crowded⟩]

theorem fault_limited {option : String} {args : List String} {most : Nat} {r : Reading E} :
    (limited option args most r).fault = none ↔
      (1 ≤ args.length ∧ args.length ≤ most) ∧ r.fault = none := by
  rw [limited_eq]
  split
  next within => exact ⟨fun sound => ⟨within, sound⟩, And.right⟩
  next outside => exact iff_of_false (Option.some_ne_none _) fun both => outside both.1

end Reading

namespace Setting
open Reading

variable (canSave : ImageType → Bool)

/-- The arguments by place, each as the option with the keyword of its place reads it. -/
def readParts (keywords args : List String) : Reading Edit :=
  .all (keywords.mapIdx fun i keyword =>
    position args i fun arg => UrlOption.read canSave ⟨keyword, [arg]⟩)

theorem readParts_cons (keyword : String) (keywords args : List String) :
    readParts canSave (keyword :: keywords) args =
      (position args 0 fun arg => UrlOption.read canSave ⟨keyword, [arg]⟩).andThen
        (readParts canSave keywords args.tail) := by
  rw [readParts, List.mapIdx_cons]
  cases args <;> rfl

theorem readParts_nil (keywords : List String) : readParts canSave keywords [] = nothing := by
  induction keywords with
  | nil => rfl
  | cons keyword keywords ih => rw [readParts_cons, List.tail_nil, ih]; rfl

theorem readParts_eq (keywords args : List String) :
    readParts canSave keywords args =
      .all ((UrlOption.parts keywords args).map (·.read canSave)) := by
  induction keywords generalizing args with
  | nil => rfl
  | cons keyword keywords ih =>
    cases args with
    | nil => exact readParts_nil canSave (keyword :: keywords)
    | cons arg args =>
      rw [readParts_cons, List.tail_cons, ih, UrlOption.parts_cons]
      cases empty : arg.isEmpty with
      | true => simp only [position, List.getElem?_cons_zero, empty, if_true]; rfl
      | false =>
        simp only [position, List.getElem?_cons_zero, empty, Bool.false_eq_true, if_false]; rfl

def sizeParts : List String := ["width", "height", "enlarge", "extend"]

def resizeParts : List String := "resizing_type" :: sizeParts

theorem readSize_eq (args : List String) :
    readSize args = limited "size" args 4 (readParts canSave sizeParts args) := rfl

/-- The arguments behind the type are never too many for a size, and there may be none. -/
theorem readResize_eq (args : List String) :
    readResize args = limited "resize" args 5 (readParts canSave resizeParts args) := by
  rw [readResize, limited_eq, limited_eq]
  split
  next within =>
    have later : (if args.length ≤ 1 then nothing else readSize args.tail) =
        readParts canSave sizeParts args.tail := by
      split
      next short =>
        have none : args.tail = [] := by
          rw [List.eq_nil_iff_length_eq_zero, List.length_tail]
          omega
        rw [none, readParts_nil]
      next long =>
        have few : 1 ≤ args.tail.length ∧ args.tail.length ≤ 4 := by
          rw [List.length_tail]
          omega
        rw [readSize_eq canSave, limited_eq, if_pos few]
    rw [later, resizeParts, readParts_cons]
    exact congrArg _ (andThen_nothing _)
  next => rfl

end Setting

namespace Options

/-- A setting that reads its arguments by place stands for the options of these places. -/
theorem apply_of_parts {setting : Setting} {title : String} {keywords : List String}
    (known : ∀ keyword ∈ keywords, OptionName.ofText? keyword ≠ some .preset)
    {ctx : Context} {args : List String}
    (reads : setting.read ctx.canSave args =
      .limited title args keywords.length (Setting.readParts ctx.canSave keywords args))
    (o : Options) {keyword : String}
    (named : OptionName.ofText? keyword = some (.setting setting)) :
    o.apply ctx ⟨keyword, args⟩ =
      if 1 ≤ args.length ∧ args.length ≤ keywords.length then
        o.applyAll ctx (UrlOption.parts keywords args)
      else { state := o, fault := some (.arguments title args) } := by
  rw [apply_setting named, reads, Reading.limited_eq]
  split
  next => rw [Setting.readParts_eq, applyAll_plain (UrlOption.plain_parts known args)]
  next => rfl

/-- A resize and a size have the outcome of their parts, applied in order up to the first fault:
the same options, also where there was a fault, the same fault and the same warnings. With no
arguments or with too many they are refused, and the options stay as they are. -/
theorem apply_composite (ctx : Context) (o : Options) (args : List String) :
    (∀ keyword, OptionName.ofText? keyword = some (.setting .resize) →
      o.apply ctx ⟨keyword, args⟩ =
        if 1 ≤ args.length ∧ args.length ≤ 5 then
          o.applyAll ctx (UrlOption.parts
            ["resizing_type", "width", "height", "enlarge", "extend"] args)
        else { state := o, fault := some (.arguments "resize" args) }) ∧
      (∀ keyword, OptionName.ofText? keyword = some (.setting .size) →
        o.apply ctx ⟨keyword, args⟩ =
          if 1 ≤ args.length ∧ args.length ≤ 4 then
            o.applyAll ctx (UrlOption.parts ["width", "height", "enlarge", "extend"] args)
          else { state := o, fault := some (.arguments "size" args) }) := by
  have sized : ∀ keyword ∈ Setting.sizeParts, OptionName.ofText? keyword ≠ some .preset := by
    decide
  have resized : ∀ keyword ∈ Setting.resizeParts, OptionName.ofText? keyword ≠ some .preset := by
    decide
  have readResize : Setting.resize.read ctx.canSave args = _ :=
    Setting.readResize_eq ctx.canSave args
  have readSize : Setting.size.read ctx.canSave args = _ := Setting.readSize_eq ctx.canSave args
  exact ⟨fun keyword => apply_of_parts resized readResize o,
    fun keyword => apply_of_parts sized readSize o⟩

/-- A blank width, and a height that is no number: the type is written before the fault, and the
enlargement behind it is not. A size without arguments writes nothing. -/
theorem apply_composite_partial :
    let ctx : Context := ⟨.empty, ImageType.canEncode⟩
    let o := Options.baseline 80
    let args := ["fill", "", "x", "1"]
    OptionName.ofText? "rs" = some (.setting .resize) ∧
      o.apply ctx ⟨"rs", args⟩ =
        o.applyAll ctx [⟨"resizing_type", ["fill"]⟩, ⟨"height", ["x"]⟩, ⟨"enlarge", ["1"]⟩] ∧
      o.apply ctx ⟨"rs", args⟩ =
        { state := { o with resizeType := .fill }, fault := some (.value "height" "x") } ∧
      OptionName.ofText? "s" = some (.setting .size) ∧
      o.apply ctx ⟨"s", []⟩ = { state := o, fault := some (.arguments "size" []) } := by
  intro ctx o args
  have resized : o.apply ctx ⟨"rs", args⟩ =
      o.applyAll ctx [⟨"resizing_type", ["fill"]⟩, ⟨"height", ["x"]⟩, ⟨"enlarge", ["1"]⟩] :=
    ((apply_composite ctx o args).1 "rs" rfl).trans (if_pos (by decide))
  have sized : o.apply ctx ⟨"s", []⟩ = { state := o, fault := some (.arguments "size" []) } :=
    ((apply_composite ctx o []).2 "s" rfl).trans (if_neg (by decide))
  have named : OptionName.ofText? "rs" = some (.setting .resize) := rfl
  refine ⟨rfl, resized, ?_, rfl, sized⟩
  rw [apply_setting named]
  decide +kernel

end Options
end ImageGateway
