import ImageGateway.Proofs.Options.Bounds
import ImageGateway.Proofs.Options.Composite
import ImageGateway.Proofs.Request.Written

/-! Which arguments make a watermark, and where a sequence of watermarks leaves it. The written form
has five places with texts of their own, and behind the opacity a place may be absent or blank. Up
to two more arguments are let through, and nothing looks at them. The position tiles the watermark
or names its anchor. An anchor takes the place of the one before, and tiling is never taken back. -/
namespace ImageGateway

namespace Watermark

/-- Each of the five places holds a text that is meant to stand there. -/
structure Readable (args : List String) : Prop where
  opacity : ∃ x, args[0]?.bind (Binary.read? .double) = some x ∧ 0 ≤ x ∧ x ≤ 1
  position : ∀ arg ∈ args[1]?, arg = "" ∨ arg = "re" ∨
    ∃ a, Anchor.ofName? arg = some a ∧ a ≠ .smart ∧ a ≠ .focusPoint
  offsetX : ∀ arg ∈ args[2]?, arg = "" ∨ (Numeral.signed 32 arg).isSome
  offsetY : ∀ arg ∈ args[3]?, arg = "" ∨ (Numeral.signed 32 arg).isSome
  scale : ∀ arg ∈ args[4]?, arg = "" ∨ ∃ x, Binary.read? .double arg = some x ∧ 0 ≤ x

/-- The written form `opacity:position:x_offset:y_offset:scale`, with nothing behind it. -/
structure Proper (args : List String) : Prop extends Readable args where
  few : 1 ≤ args.length ∧ args.length ≤ 5

variable {args others : List String}

theorem Readable.congr (same : ∀ i < 5, args[i]? = others[i]?) (readable : Readable args) :
    Readable others where
  opacity := same 0 (by omega) ▸ readable.opacity
  position := same 1 (by omega) ▸ readable.position
  offsetX := same 2 (by omega) ▸ readable.offsetX
  offsetY := same 3 (by omega) ▸ readable.offsetY
  scale := same 4 (by omega) ▸ readable.scale

theorem Readable.ne_nil (readable : Readable args) : args ≠ [] := by
  rintro rfl
  obtain ⟨x, absent, -⟩ := readable.opacity
  contradiction

theorem place_take {i : Nat} (inside : i < 5) : (args.take 5)[i]? = args[i]? :=
  List.getElem?_take_of_lt inside

theorem proper_take : Proper (args.take 5) ↔ Readable args := by
  constructor
  · exact fun proper => proper.congr fun _ => place_take
  · intro readable
    have filled := List.length_pos_iff.mpr readable.ne_nil
    refine ⟨readable.congr fun _ inside => (place_take inside).symm, ?_⟩
    rw [List.length_take]
    omega

end Watermark

namespace Setting
open Reading

variable {args : List String}

theorem fault_readOpacity {arg : String} :
    (readOpacity arg).fault = none ↔ ∃ x, Binary.read? .double arg = some x ∧ 0 ≤ x ∧ x ≤ 1 := by
  have read : (readOpacity arg).fault = none ↔
      ∃ x, Argument.number .double (fun x => 0 ≤ x && x ≤ 1) "watermark opacity" arg = .ok x := by
    unfold readOpacity
    split
    next e failed => simp [failed, Reading.fail]
    next x found => simp [found]
  simp [read, Argument.number_eq_ok]

theorem fault_readPosition {arg : String} :
    (readPosition arg).fault = none ↔
      arg = "re" ∨ ∃ a, Anchor.ofName? arg = some a ∧ a ≠ .smart ∧ a ≠ .focusPoint := by
  unfold readPosition
  by_cases tiled : arg = "re"
  · simp [tiled, Reading.edit]
  · simp [tiled, fault_ofExcept, Argument.require_eq_ok, Option.filter_eq_some_iff]

theorem fault_offset {what arg : String} {make : Int32 → Edit} :
    (Reading.ofExcept make (Argument.offset what arg)).fault = none ↔
      (Numeral.signed 32 arg).isSome := by
  simp [fault_ofExcept, Argument.offset, Argument.require_eq_ok, Option.isSome_iff_exists]

/-- A watermark is read when its five places are filled as they should, and up to two arguments more
make no difference. -/
theorem fault_readWatermark :
    (readWatermark args).fault = none ↔ args.length ≤ 7 ∧ Watermark.Readable args := by
  have opacity : (∃ x, Binary.read? .double (args.headD "") = some x ∧ 0 ≤ x ∧ x ≤ 1) ∧
      1 ≤ args.length ↔ ∃ x, args[0]?.bind (Binary.read? .double) = some x ∧ 0 ≤ x ∧ x ≤ 1 := by
    cases args with
    | nil => simp
    | cons arg rest => simp
  simp only [readWatermark, fault_limited, fault_all_cons, fault_position, fault_readOpacity,
    fault_readPosition, fault_offset, Argument.fault_number]
  constructor
  · rintro ⟨⟨filled, few⟩, first, position, offsetX, offsetY, scale, -⟩
    refine ⟨few, opacity.mp ⟨first, filled⟩, position, offsetX, offsetY, by simpa using scale⟩
  · rintro ⟨few, readable⟩
    obtain ⟨first, filled⟩ := opacity.mpr readable.opacity
    exact ⟨⟨filled, few⟩, first, readable.position, readable.offsetX, readable.offsetY,
      by simpa using readable.scale, rfl⟩

/-- No argument behind the fifth is read. -/
theorem readWatermark_take (few : args.length ≤ 7) :
    readWatermark (args.take 5) = readWatermark args := by
  have first : (args.take 5).headD "" = args.headD "" := by cases args <;> rfl
  have place {i : Nat} (inside : i < 5) (read : String → Reading Edit) :
      position (args.take 5) i read = position args i read := by
    unfold position
    rw [Watermark.place_take inside]
  by_cases empty : args = []
  · simp [empty]
  · have filled := List.length_pos_iff.mpr empty
    have within : 1 ≤ (args.take 5).length ∧ (args.take 5).length ≤ 7 := by
      rw [List.length_take]
      omega
    simp only [readWatermark, limited_eq, if_pos within, if_pos (⟨filled, few⟩ : 1 ≤ _ ∧ _ ≤ 7),
      first, place (by omega : 1 < 5), place (by omega : 2 < 5), place (by omega : 3 < 5),
      place (by omega : 4 < 5)]

/-- A watermark is read without a fault exactly when there are at most seven arguments and the first
five have the written form, and what stands behind these changes nothing. So the written form alone
is accepted, unless one or two arguments stand behind five that have it. -/
theorem readWatermark_accepts (args : List String) (o : Options) :
    (((readWatermark args).applyTo o).fault = none ↔
      args.length ≤ 7 ∧ Watermark.Proper (args.take 5)) ∧
    (args.length ≤ 7 → (readWatermark args).applyTo o = (readWatermark (args.take 5)).applyTo o) ∧
    ((((readWatermark args).applyTo o).fault = none ↔ Watermark.Proper args) ↔
      ¬ (5 < args.length ∧ args.length ≤ 7 ∧ Watermark.Proper (args.take 5))) := by
  have accepts : ((readWatermark args).applyTo o).fault = none ↔
      args.length ≤ 7 ∧ Watermark.Proper (args.take 5) := by
    rw [fault_applyTo, fault_readWatermark, Watermark.proper_take]
  refine ⟨accepts, fun few => by rw [readWatermark_take few], ?_⟩
  rw [accepts]
  by_cases short : args.length ≤ 5
  · rw [List.take_of_length_le short]
    exact iff_of_true ⟨And.right, fun proper => ⟨by omega, proper⟩⟩ fun long => by omega
  · have improper : ¬ Watermark.Proper args := fun proper => short proper.few.2
    simp [improper, Nat.lt_of_not_le short]

/-- Five arguments in the written form, and two more. -/
theorem readWatermark_accepts_seven :
    let args := ["1", "re", "5", "-7", "2", "x", "y"]
    let o := Options.baseline 80
    args.length ≤ 7 ∧ Watermark.Proper (args.take 5) ∧
      ((readWatermark args).applyTo o).fault = none ∧
      (readWatermark args).applyTo o = (readWatermark (args.take 5)).applyTo o := by
  intro args o
  have readable : Watermark.Readable (args.take 5) :=
    { opacity := ⟨.finite ⟨false, 1 <<< 52, -52⟩, by decide, by decide, by decide⟩
      position := by simp [args]
      offsetX := by simpa [args] using show (Numeral.signed 32 "5").isSome by decide
      offsetY := by simpa [args] using show (Numeral.signed 32 "-7").isSome by decide
      scale := by
        have read : Binary.read? .double "2" = some (.finite ⟨false, 1 <<< 52, -51⟩) := by decide
        simpa [args, read] using show (0 : Binary) ≤ _ by decide }
  have proper : Watermark.Proper (args.take 5) := ⟨readable, by simp [args]⟩
  obtain ⟨accepts, same, -⟩ := readWatermark_accepts args o
  exact ⟨by simp [args], proper, accepts.mpr ⟨by simp [args], proper⟩, same (by simp [args])⟩

end Setting

/-- A sixth argument of a watermark is accepted, and it is never read. -/
theorem RequestParser.parse_unread :
    let p : RequestParser := { config := { allowInsecure := true } }
    let args := ["1", "", "", "", "", "x"]
    let watermark : Watermark := ⟨true, .finite ⟨false, 1 <<< 52, -52⟩, false, .center, 0, 0, 0⟩
    UrlOption.parse? "wm:1:::::x" = some ⟨"wm", args⟩ ∧ ¬ Watermark.Proper args ∧
      (p.parse "/s/wm:1:::::x/YQ" {}).value =
        .ok ⟨"a", { Options.baseline 80 with watermark := watermark }⟩ := by
  intro p args watermark
  have cut : segments "/s/wm:1:::::x/YQ" = "s" :: (["wm:1:::::x"] ++ ["YQ"]) := by decide +kernel
  have option : UrlOption.parse? "wm:1:::::x" = some ⟨"wm", args⟩ := by decide +kernel
  have settings : (["wm:1:::::x"].filterMap UrlOption.parse?).mapM UrlOption.directive? =
      some [⟨.watermark, args⟩] := by
    rw [List.filterMap_cons_some option]
    rfl
  refine ⟨option, fun proper => absurd proper.few.2 (by simp [args]), ?_⟩
  exact parse_settings rfl rfl {} cut (by decide) (by decide) (by decide) settings
    (by decide +kernel) rfl

/-- The edit leaves the watermark where it stands. -/
def Edit.Still (e : Edit) : Prop :=
  ∀ o, (e.apply o).watermark.replicate = o.watermark.replicate ∧
    (e.apply o).watermark.anchor = o.watermark.anchor

namespace Watermark

/-- What positions read one after the other make of a watermark: it is tiled when one of them asks
for that, and its anchor is the one that is named last. -/
structure Placed (start : Watermark) (positions : List String) (w : Watermark) : Prop where
  tiled : w.replicate = true ↔ start.replicate = true ∨ "re" ∈ positions
  anchored : w.anchor = (positions.filterMap Anchor.ofName?).getLast?.getD start.anchor

theorem Placed.append {start middle w : Watermark} {first second : List String}
    (earlier : Placed start first middle) (later : Placed middle second w) :
    Placed start (first ++ second) w where
  tiled := by simp [later.tiled, earlier.tiled, or_assoc]
  anchored := by
    rw [later.anchored, earlier.anchored, List.filterMap_append, List.getLast?_append]
    cases (second.filterMap Anchor.ofName?).getLast? <;> rfl

end Watermark

namespace Setting
open Reading

variable {args : List String}

theorem placed_still {r : Reading Edit} (only : Only Edit.Still r) (o : Options) :
    Watermark.Placed o.watermark [] (r.applyTo o).state.watermark := by
  let Same (current : Options) : Prop := current.watermark.replicate = o.watermark.replicate ∧
    current.watermark.anchor = o.watermark.anchor
  have same : Same (r.applyTo o).state := by
    refine only.apply (I := Same) (fun e still current kept => ?_) ⟨rfl, rfl⟩
    obtain ⟨replicate, anchor⟩ := still current
    exact ⟨replicate.trans kept.1, anchor.trans kept.2⟩
  exact ⟨by simp [same.1], by simp [same.2]⟩

theorem placed_readPosition {arg : String} (sound : (readPosition arg).fault = none) (o : Options) :
    Watermark.Placed o.watermark [arg] ((readPosition arg).applyTo o).state.watermark := by
  rcases fault_readPosition.mp sound with rfl | ⟨a, known, notSmart, notFocus⟩
  · have read : readPosition "re" = .edit (.watermark (.replicate true)) := rfl
    rw [read]
    exact ⟨iff_of_true rfl (.inr (by simp)), rfl⟩
  · have single : arg ≠ "re" := by
      rintro rfl
      contradiction
    have accepted : Argument.require "watermark position" arg
        ((Anchor.ofName? arg).filter fun a => a ≠ .smart && a ≠ .focusPoint) = .ok a :=
      Argument.require_eq_ok.mpr (by simp [known, notSmart, notFocus])
    have read : readPosition arg = .edit (.watermark (.anchor a)) := by
      rw [readPosition, if_neg single, accepted]
      rfl
    have placed : ((readPosition arg).applyTo o).state.watermark =
        { o.watermark with anchor := a } := by
      rw [read]
      rfl
    rw [placed]
    exact ⟨by simp [single.symm], by simp [known]⟩

theorem placed_position (sound : (position args 1 readPosition).fault = none) (o : Options) :
    Watermark.Placed o.watermark (args[1]?.filter (· ≠ "")).toList
      ((position args 1 readPosition).applyTo o).state.watermark := by
  unfold position at sound ⊢
  cases given : args[1]? with
  | none => exact placed_still only_nothing o
  | some arg =>
    by_cases blank : arg = ""
    · simpa [blank, Option.filter_some] using placed_still only_nothing o
    · have filled : arg.isEmpty = false := by simpa using blank
      simp only [given, filled] at sound
      simpa [blank, Option.filter_some] using placed_readPosition sound o

theorem placed_readWatermark (sound : (readWatermark args).fault = none) (o : Options) :
    Watermark.Placed o.watermark (args[1]?.filter (· ≠ "")).toList
      ((readWatermark args).applyTo o).state.watermark := by
  obtain ⟨within, parts⟩ := fault_limited.mp sound
  obtain ⟨opacity, position, -⟩ := by simpa only [fault_all_cons] using parts
  have before : Only Edit.Still (readOpacity (args.headD "")) := by
    unfold readOpacity
    split
    next => exact only_fail _
    next => simp [Only, Edit.Still, Edit.apply, Watermark.Edit.apply]
  have moved := (placed_still before o).append (placed_position position _)
  rw [readWatermark, limited_eq, if_pos within, state_all_cons opacity, state_all_cons position,
    ← List.append_nil (Option.toList _)]
  refine moved.append (placed_still (only_all ?_) _)
  simp only [List.forall_mem_cons]
  exact ⟨only_position fun _ => only_ofExcept fun _ _ _ => ⟨rfl, rfl⟩,
    only_position fun _ => only_ofExcept fun _ _ _ => ⟨rfl, rfl⟩,
    only_position fun _ => only_ofExcept fun _ _ _ => ⟨rfl, rfl⟩, by simp⟩

end Setting

namespace Directive

variable {canSave : ImageType → Bool} {d : Directive}

def position? (d : Directive) : Option String :=
  match d.setting with
  | .watermark => d.args[1]?.filter (· ≠ "")
  | _ => none

theorem placed_applyTo (sound : (d.read canSave).fault = none) (o : Options) :
    Watermark.Placed o.watermark d.position?.toList
      ((d.read canSave).applyTo o).state.watermark := by
  by_cases asked : d.setting = .watermark
  · rw [read, asked] at sound ⊢
    rw [position?, asked]
    exact Setting.placed_readWatermark sound o
  · have none : d.position? = none := by
      unfold position?
      split <;> trivial
    rw [none]
    refine Setting.placed_still (fun e member o => ?_) o
    have kept := (Setting.only_asks d.setting d.args e member).watermark_apply asked o
    exact ⟨congrArg Watermark.replicate kept, congrArg Watermark.anchor kept⟩

end Directive

theorem Options.placed_follow {canSave : ImageType → Bool} {directives : List Directive}
    (sound : ∀ d ∈ directives, (d.read canSave).fault = none) (o : Options) :
    Watermark.Placed o.watermark (directives.filterMap Directive.position?)
      (o.follow canSave directives).watermark := by
  induction directives generalizing o with
  | nil => exact ⟨by simp [follow], rfl⟩
  | cons d rest ih =>
    obtain ⟨first, others⟩ := List.forall_mem_cons.mp sound
    have moved := (d.placed_applyTo first o).append (ih others _)
    cases given : d.position? with
    | none => simpa [follow_cons, given] using moved
    | some position => simpa [follow_cons, given] using moved

namespace Task

variable {ctx : Context} {tasks : List Task}

/-- The texts that tasks read as positions of the watermark, in order and presets opened in
place. -/
def positions (t : PresetTable) (used : List String) (tasks : List Task) : List String :=
  (directives t used tasks).filterMap Directive.position?

theorem placed_run {o : Options} (well : (run ctx o tasks).fault = none) :
    Watermark.Placed o.watermark (positions ctx.presets o.usedPresets tasks)
      (run ctx o tasks).state.watermark := by
  obtain ⟨sound, left⟩ := run_follow well
  rw [left]
  exact Options.placed_follow sound o

/-- After a run from the baseline the watermark has the anchor that was named last, and it is tiled
when any position asked for that. So the last position decides, unless it is an anchor and an
earlier one asked for tiling, which nothing takes back. -/
theorem run_last_position (ctx : Context) (quality : UInt8) (tasks : List Task)
    (well : (run ctx (.baseline quality) tasks).fault = none) (last : String)
    (given : (positions ctx.presets [] tasks).getLast? = some last) :
    let w := (run ctx (.baseline quality) tasks).state.watermark
    (∀ a, Anchor.ofName? last = some a → w.anchor = a) ∧
      (w.replicate = true ↔ "re" ∈ positions ctx.presets [] tasks) ∧
      ((w.replicate = true ↔ last = "re") ↔
        ¬ (last ≠ "re" ∧ "re" ∈ positions ctx.presets [] tasks)) := by
  intro w
  have placed : Watermark.Placed _ (positions ctx.presets [] tasks) w := placed_run well
  obtain ⟨earlier, split⟩ := List.getLast?_eq_some_iff.mp given
  have tiled : w.replicate = true ↔ "re" ∈ positions ctx.presets [] tasks :=
    placed.tiled.trans (or_iff_right Bool.false_ne_true)
  refine ⟨fun a named => ?_, tiled, ?_⟩
  · simpa [split, named] using placed.anchored
  · rw [tiled]
    by_cases same : last = "re"
    · simp [same, split]
    · simp [same]

/-- A default preset that tiles, then an anchor, then no position. -/
theorem run_last_position_default :
    let table : PresetTable := ⟨[⟨"default", [⟨"wm", ["1", "re"]⟩]⟩], by decide⟩
    let ctx : Context := ⟨table, ImageType.canEncode⟩
    let tasks : List Task := [.preset "default", .option ⟨"wm", ["1", "no"]⟩,
      .option ⟨"watermark", ["0", "", "5"]⟩]
    let w := (run ctx (.baseline 80) tasks).state.watermark
    (run ctx (.baseline 80) tasks).fault = none ∧
      (positions ctx.presets [] tasks).getLast? = some "no" ∧
      w.anchor = .north ∧ w.replicate = true := by
  intro table ctx tasks w
  have found : ctx.presets.get? "default" = some [⟨"wm", ["1", "re"]⟩] := rfl
  have opened : run ctx (.baseline 80) tasks =
      ((Options.baseline 80).markPreset "default").applyAll ctx
        [⟨"wm", ["1", "re"]⟩, ⟨"wm", ["1", "no"]⟩, ⟨"watermark", ["0", "", "5"]⟩] :=
    run_fresh found List.not_mem_nil _
  have well : (run ctx (.baseline 80) tasks).fault = none := by
    rw [opened, Options.applyAll_directives rfl]
    rfl
  have given : positions ctx.presets [] tasks = ["re", "no"] := by cbv
  have last : (positions ctx.presets [] tasks).getLast? = some "no" := by simp [given]
  obtain ⟨anchored, tiled, -⟩ := run_last_position ctx 80 tasks well "no" last
  exact ⟨well, last, anchored .north rfl, tiled.mpr (by simp [given])⟩

end Task

/-- A watermark that was tiled stays so when it is placed at the north afterwards. -/
theorem RequestParser.parse_tiled :
    let p : RequestParser := { config := { allowInsecure := true } }
    let watermark : Watermark := ⟨true, .finite ⟨false, 1 <<< 52, -52⟩, true, .north, 0, 0, 0⟩
    (p.parse "/s/wm:1:re/wm:1:no/YQ" {}).value =
      .ok ⟨"a", { Options.baseline 80 with watermark := watermark }⟩ := by
  intro p watermark
  have cut : segments "/s/wm:1:re/wm:1:no/YQ" = "s" :: (["wm:1:re", "wm:1:no"] ++ ["YQ"]) := by
    decide +kernel
  have settings : (["wm:1:re", "wm:1:no"].filterMap UrlOption.parse?).mapM UrlOption.directive? =
      some [⟨.watermark, ["1", "re"]⟩, ⟨.watermark, ["1", "no"]⟩] := by decide +kernel
  exact parse_settings rfl rfl {} cut (by decide) (by decide) (by decide) settings
    (by decide +kernel) rfl

end ImageGateway
