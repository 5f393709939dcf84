import ImageGateway.Proofs.Options.Integers
import ImageGateway.Proofs.Options.Placement

/-! What stands around the text of an integer in an option. A setting reads it among other texts,
none of which has a part in the leaf, so that the leaf gets the integer that is spelled whenever the
option is accepted, and the text alone decides what it contributes to that. -/
namespace ImageGateway

namespace IntegerSlot
open Reading

/-- What a setting makes of a text at the place of the slot. Either there are too many arguments,
whatever the text is, or it is read among other texts, which leave the leaf alone. -/
inductive Framed (s : IntegerSlot) (canSave : ImageType → Bool) (l : Leaf) (args : List String) :
    Prop where
  | crowded (fails : ∀ text, ∃ e, e.kind = .invalidArgument ∧
      s.setting.read canSave (args.set s.place text) = .fail e)
  | among (before after : List (Reading Edit))
      (reads : ∀ text, s.setting.read canSave (args.set s.place text) =
        .all (before ++ s.readAt text :: after))
      (blames : ∀ r ∈ before, r.Blames)
      (aside : ∀ r ∈ before ++ after, r.Only fun e => e.leaf ≠ l)

variable {s : IntegerSlot} {canSave : ImageType → Bool} {l : Leaf} {args : List String}

theorem framed_single {title : String} (required : s.optional = false) (first : s.place = 0)
    (reads : ∀ args, s.setting.read canSave args = .single title args s.read) (filled : args ≠ []) :
    s.Framed canSave l args := by
  obtain ⟨arg, rest, rfl⟩ := List.exists_cons_of_ne_nil filled
  cases rest with
  | nil =>
    refine .among [] [] (fun text => ?_) nofun nofun
    rw [reads, first, readAt, required]
    exact (andThen_nothing (s.read text)).symm
  | cons other rest =>
    refine .crowded fun text => ⟨.arguments title ((arg :: other :: rest).set s.place text), rfl, ?_⟩
    rw [reads, first]
    rfl

theorem framed_position (i : Nat) (title : String) (most : Nat)
    (before after : List String → List (Reading Edit))
    (here : s.place = i) (optional : s.optional = true) (inside : i < args.length)
    (reads : ∀ args, s.setting.read canSave args =
      .limited title args most (.all (before args ++ position args i s.read :: after args)))
    (kept : ∀ text, before (args.set i text) = before args ∧
      after (args.set i text) = after args)
    (blames : ∀ r ∈ before args, r.Blames)
    (aside : ∀ r ∈ before args ++ after args, r.Only fun e => e.leaf ≠ l) :
    s.Framed canSave l args := by
  by_cases few : args.length ≤ most
  · refine .among (before args) (after args) (fun text => ?_) blames aside
    rw [here, reads, (kept text).1, (kept text).2, position_set inside, limited_eq,
      List.length_set, if_pos ⟨by omega, few⟩]
    simp only [readAt, optional, true_and]
  · refine .crowded fun text => ⟨.arguments title (args.set i text), rfl, ?_⟩
    rw [here, reads, limited_eq, List.length_set, if_neg fun within => few within.2]

def sizing (args : List String) (i : Nat) : List (Reading Edit) := [
  position args i Setting.readWidth,
  position args (i + 1) Setting.readHeight,
  position args (i + 2) Setting.readEnlarge,
  position args (i + 3) Setting.readExtend]

/-- A setting that reads a size behind other arguments. -/
structure Sized (setting : Setting) (canSave : ImageType → Bool) (title : String) (most : Nat)
    (front : List String → List (Reading Edit)) (i : Nat) : Prop where
  reads : ∀ args, setting.read canSave args =
    .limited title args most (.all (front args ++ sizing args i))
  kept : ∀ args place text, i ≤ place → front (args.set place text) = front args
  blames : ∀ args, ∀ r ∈ front args, r.Blames
  aside : ∀ args, ∀ r ∈ front args, r.Only fun e => e.leaf ≠ .width ∧ e.leaf ≠ .height

theorem sized_size : Sized .size canSave "size" 4 (fun _ => []) 0 where
  reads _ := rfl
  kept _ _ _ _ := rfl
  blames _ := nofun
  aside _ := nofun

theorem sized_resize :
    Sized .resize canSave "resize" 5 (fun args => [position args 0 Setting.readResizingType]) 1 where
  reads args := Setting.readResize_eq canSave args
  kept args place text behind := by rw [position_set_ne (by omega)]
  blames _ := List.forall_mem_singleton.mpr (blames_position fun _ => blames_require)
  aside _ := List.forall_mem_singleton.mpr
    (only_position fun _ => only_ofExcept fun _ _ => ⟨nofun, nofun⟩)

namespace Sized

variable {setting : Setting} {title : String} {most i : Nat}
  {front : List String → List (Reading Edit)}

theorem framed_width (sized : Sized setting canSave title most front i) (inside : i < args.length) :
    (dimension setting i true "width" .width).Framed canSave .width args := by
  refine framed_position i title most front (fun args => (sizing args i).tail) rfl rfl inside
    sized.reads (fun text => ⟨sized.kept args i text i.le_refl, ?kept⟩) (sized.blames args)
    (List.forall_mem_append.mpr
      ⟨fun r member e asked => (sized.aside args r member e asked).1, ?later⟩)
  case kept => simp [sizing, position_set_ne]
  case later =>
    simp only [sizing, List.tail_cons, List.forall_mem_cons]
    exact ⟨only_position fun _ => only_ofExcept fun _ _ => nofun,
      only_position (only_flag fun _ => nofun), only_position (only_flag fun _ => nofun), by simp⟩

theorem framed_height (sized : Sized setting canSave title most front i)
    (inside : i + 1 < args.length) :
    (dimension setting (i + 1) true "height" .height).Framed canSave .height args := by
  refine framed_position (i + 1) title most
    (fun args => front args ++ [position args i Setting.readWidth])
    (fun args => (sizing args i).tail.tail) rfl rfl inside (fun args => ?reads)
    (fun text => ⟨?before, ?after⟩) (List.forall_mem_append.mpr ⟨sized.blames args, ?blames⟩)
    (List.forall_mem_append.mpr ⟨List.forall_mem_append.mpr
      ⟨fun r member e asked => (sized.aside args r member e asked).2, ?earlier⟩, ?later⟩)
  case reads =>
    rw [List.append_assoc]
    exact sized.reads args
  case before => rw [sized.kept args (i + 1) text i.le_succ, position_set_ne i.succ_ne_self]
  case after => simp [sizing, position_set_ne]
  case blames => exact List.forall_mem_singleton.mpr (blames_position fun _ => blames_require)
  case earlier =>
    exact List.forall_mem_singleton.mpr (only_position fun _ => only_ofExcept fun _ _ => nofun)
  case later =>
    simp only [sizing, List.tail_cons, List.forall_mem_cons]
    exact ⟨only_position (only_flag fun _ => nofun), only_position (only_flag fun _ => nofun),
      by simp⟩

end Sized

theorem cropGravity_set {place : Nat} (front : place < 2) (text : String) :
    Setting.cropGravity (args.set place text) = Setting.cropGravity args := by
  rw [Setting.cropGravity, Setting.cropGravity, List.drop_set_of_lt front]

theorem framed_cropWidth (inside : 0 < args.length) :
    (dimension .crop 0 true "crop width" .cropWidth).Framed canSave .cropWidth args := by
  refine framed_position 0 "crop" 5 (fun _ => []) (fun args => [
    position args 1 fun arg => .ofExcept .cropHeight (Argument.dimension "crop height" arg),
    (Setting.cropGravity args).map .cropGravity]) rfl rfl inside Setting.readCrop_eq
    (fun text => ⟨rfl, ?kept⟩) nofun ?aside
  case kept =>
    rw [cropGravity_set (show 0 < 2 by decide), position_set_ne (show 0 ≠ 1 by decide)]
  case aside =>
    simp only [List.nil_append, List.forall_mem_cons]
    exact ⟨only_position fun _ => only_ofExcept fun _ _ => nofun,
      only_map (fun _ _ => trivial) fun _ _ => nofun, by simp⟩

theorem framed_cropHeight (inside : 1 < args.length) :
    (dimension .crop 1 true "crop height" .cropHeight).Framed canSave .cropHeight args := by
  refine framed_position 1 "crop" 5 (fun args => [
    position args 0 fun arg => .ofExcept .cropWidth (Argument.dimension "crop width" arg)])
    (fun args => [(Setting.cropGravity args).map .cropGravity]) rfl rfl inside
    Setting.readCrop_eq (fun text => ⟨?before, ?after⟩) ?blames ?aside
  case before => rw [position_set_ne (show 1 ≠ 0 by decide)]
  case after => rw [cropGravity_set (show 1 < 2 by decide)]
  case blames => exact List.forall_mem_singleton.mpr (blames_position fun _ => blames_require)
  case aside =>
    simp only [List.cons_append, List.nil_append, List.forall_mem_cons]
    exact ⟨only_position fun _ => only_ofExcept fun _ _ => nofun,
      only_map (fun _ _ => trivial) fun _ _ => nofun, by simp⟩

theorem blames_readOpacity (arg : String) : (Setting.readOpacity arg).Blames := by
  unfold Setting.readOpacity
  split
  next e failed =>
    obtain ⟨-, rfl⟩ := Argument.require_eq_error.mp failed
    exact blames_fail rfl
  next => exact blames_sound rfl

theorem blames_readPosition (arg : String) : (Setting.readPosition arg).Blames := by
  unfold Setting.readPosition
  split
  next => exact blames_sound rfl
  next => exact blames_require

def aheadOfOffsets (args : List String) : List (Reading Edit) :=
  [Setting.readOpacity (args.headD ""), position args 1 Setting.readPosition]

theorem blames_aheadOfOffsets : ∀ r ∈ aheadOfOffsets args, r.Blames := by
  simp only [aheadOfOffsets, List.forall_mem_cons]
  exact ⟨blames_readOpacity _, blames_position blames_readPosition, by simp⟩

theorem aside_aheadOfOffsets (shift : l = .watermark .offsetX ∨ l = .watermark .offsetY) :
    ∀ r ∈ aheadOfOffsets args, r.Only fun e => e.leaf ≠ l := by
  have other {w : Watermark.Edit} (apart : w.leaf ≠ .offsetX ∧ w.leaf ≠ .offsetY) :
      (Edit.watermark w).leaf ≠ l := by
    rcases shift with rfl | rfl <;> simp [Edit.leaf, apart]
  simp only [aheadOfOffsets, List.forall_mem_cons]
  refine ⟨?opacity, only_position fun arg => ?position, by simp⟩
  case opacity =>
    unfold Setting.readOpacity
    split
    next => exact only_fail _
    next =>
      simp only [Only, List.forall_mem_cons]
      exact ⟨other (by simp [Watermark.Edit.leaf]), other (by simp [Watermark.Edit.leaf]), by simp⟩
  case position =>
    unfold Setting.readPosition
    split
    next => exact only_edit (other (by simp [Watermark.Edit.leaf]))
    next => exact only_ofExcept fun _ _ => other (by simp [Watermark.Edit.leaf])

theorem aheadOfOffsets_set {place : Nat} (behind : 2 ≤ place) (text : String) :
    aheadOfOffsets (args.set place text) = aheadOfOffsets args := by
  have first : (args.set place text).headD "" = args.headD "" := by
    cases args with
    | nil => rfl
    | cons arg rest =>
      obtain ⟨i, rfl⟩ := Nat.exists_eq_add_of_le' behind
      rfl
  rw [aheadOfOffsets, aheadOfOffsets, first, position_set_ne (by omega)]

def readShiftX (arg : String) : Reading Edit :=
  .ofExcept (fun n => .watermark (.offsetX n)) (Argument.offset "watermark X offset" arg)

def readShiftY (arg : String) : Reading Edit :=
  .ofExcept (fun n => .watermark (.offsetY n)) (Argument.offset "watermark Y offset" arg)

def readScale (arg : String) : Reading Edit :=
  .ofExcept (fun x => .watermark (.scale x)) (Argument.number .double (0 ≤ ·) "watermark scale" arg)

theorem readWatermark_eq (args : List String) :
    Setting.readWatermark args = .limited "watermark" args 7 (.all (aheadOfOffsets args ++
      [position args 2 readShiftX, position args 3 readShiftY, position args 4 readScale])) := rfl

theorem framed_offsetX (inside : 2 < args.length) :
    (offset 2 "watermark X offset" .offsetX).Framed canSave (.watermark .offsetX) args := by
  refine framed_position 2 "watermark" 7 aheadOfOffsets
    (fun args => [position args 3 readShiftY, position args 4 readScale]) rfl rfl inside
    readWatermark_eq (fun text => ⟨aheadOfOffsets_set (by decide) text, ?kept⟩)
    blames_aheadOfOffsets (List.forall_mem_append.mpr ⟨aside_aheadOfOffsets (.inl rfl), ?aside⟩)
  case kept => rw [position_set_ne (show 2 ≠ 3 by decide), position_set_ne (show 2 ≠ 4 by decide)]
  case aside =>
    simp only [List.forall_mem_cons]
    exact ⟨only_position fun _ => only_ofExcept fun _ _ => nofun,
      only_position fun _ => only_ofExcept fun _ _ => nofun, by simp⟩

theorem framed_offsetY (inside : 3 < args.length) :
    (offset 3 "watermark Y offset" .offsetY).Framed canSave (.watermark .offsetY) args := by
  refine framed_position 3 "watermark" 7
    (fun args => aheadOfOffsets args ++ [position args 2 readShiftX])
    (fun args => [position args 4 readScale]) rfl rfl inside (fun args => ?reads)
    (fun text => ⟨?before, ?after⟩) (List.forall_mem_append.mpr ⟨blames_aheadOfOffsets, ?blames⟩)
    (List.forall_mem_append.mpr ⟨List.forall_mem_append.mpr
      ⟨aside_aheadOfOffsets (.inr rfl), ?earlier⟩, ?later⟩)
  case reads =>
    rw [List.append_assoc]
    exact readWatermark_eq args
  case before => rw [aheadOfOffsets_set (by decide), position_set_ne (show 3 ≠ 2 by decide)]
  case after => rw [position_set_ne (show 3 ≠ 4 by decide)]
  case blames => exact List.forall_mem_singleton.mpr (blames_position fun _ => blames_require)
  case earlier =>
    exact List.forall_mem_singleton.mpr (only_position fun _ => only_ofExcept fun _ _ => nofun)
  case later =>
    exact List.forall_mem_singleton.mpr (only_position fun _ => only_ofExcept fun _ _ => nofun)

theorem framed_channel {c : Channel} (feeds : s.Feeds (.background c))
    (three : args.length = 3) : s.Framed canSave (.background c) args := by
  obtain ⟨r, g, b, rfl⟩ := List.length_eq_three.mp three
  have blames (c : Channel) (arg : String) : (Setting.readChannel c arg).Blames := blames_require
  have aside (c d : Channel) (apart : c ≠ d) (arg : String) :
      (Setting.readChannel c arg).Only fun e => e.leaf ≠ .background d :=
    only_ofExcept fun _ _ same => apart (Leaf.background.inj same)
  have flat (c : Channel) :
      (Reading.edit (Edit.flatten true)).Only fun e => e.leaf ≠ .background c :=
    only_edit nofun
  cases feeds with
  | red =>
    refine .among [.edit (.flatten true)]
      [Setting.readChannel .green g, Setting.readChannel .blue b] (fun _ => rfl) ?blames ?aside
    case blames => simpa using blames_sound rfl
    case aside => simpa using ⟨flat .red, aside .green .red nofun g, aside .blue .red nofun b⟩
  | green =>
    refine .among [.edit (.flatten true), Setting.readChannel .red r]
      [Setting.readChannel .blue b] (fun _ => rfl) ?blames ?aside
    case blames => simpa using ⟨blames_sound rfl, blames .red r⟩
    case aside => simpa using ⟨flat .green, aside .red .green nofun r, aside .blue .green nofun b⟩
  | blue =>
    refine .among [.edit (.flatten true), Setting.readChannel .red r, Setting.readChannel .green g]
      [] (fun _ => rfl) ?blames ?aside
    case blames => simpa using ⟨blames_sound rfl, blames .red r, blames .green g⟩
    case aside => simpa using ⟨flat .blue, aside .red .blue nofun r, aside .green .blue nofun g⟩

/-- Every integer is read among texts that have no part in it. -/
theorem Feeds.framed {text : String} (feeds : s.Feeds l) (holds : s.Holds args text) :
    s.Framed canSave l args := by
  have inside := (List.getElem?_eq_some_iff.mp holds.stands).1
  have filled : args ≠ [] := List.ne_nil_of_length_pos (Nat.zero_lt_of_lt inside)
  cases feeds with
  | width | height | quality => exact framed_single rfl rfl (fun _ => rfl) filled
  | widthOfResize => exact sized_resize.framed_width inside
  | widthOfSize => exact sized_size.framed_width inside
  | heightOfResize => exact sized_resize.framed_height inside
  | heightOfSize => exact sized_size.framed_height inside
  | cropWidth => exact framed_cropWidth inside
  | cropHeight => exact framed_cropHeight inside
  | red => exact framed_channel .red (holds.channels rfl)
  | green => exact framed_channel .green (holds.channels rfl)
  | blue => exact framed_channel .blue (holds.channels rfl)
  | offsetX => exact framed_offsetX inside
  | offsetY => exact framed_offsetY inside

/-- Acceptance is a matter of the text and of the other arguments, each by themselves. -/
theorem Framed.fault_iff (framed : s.Framed canSave l args) (exact : s.Exact l) (text : String)
    {other : String} (proper : s.Takes other) :
    (s.setting.read canSave (args.set s.place text)).fault = none ↔
      s.Takes text ∧ (s.setting.read canSave (args.set s.place other)).fault = none := by
  cases framed with
  | crowded fails =>
    obtain ⟨e, -, failed⟩ := fails text
    obtain ⟨e', -, failed'⟩ := fails other
    rw [failed, failed']
    exact iff_of_false (Option.some_ne_none e) fun both => Option.some_ne_none e' both.2
  | among before after reads =>
    simp only [reads, fault_all, List.forall_mem_append, List.forall_mem_cons, fault_readAt exact,
      proper, true_and]
    exact and_left_comm

/-- A text that is neither is refused as an argument, or another one before it is. -/
theorem Framed.blamed (framed : s.Framed canSave l args) (exact : s.Exact l) {text : String}
    (improper : ¬s.Takes text) :
    ∃ e ∈ (s.setting.read canSave (args.set s.place text)).fault, e.kind = .invalidArgument := by
  cases framed with
  | crowded fails =>
    obtain ⟨e, kind, failed⟩ := fails text
    exact ⟨e, by rw [failed]; rfl, kind⟩
  | among before after reads blames =>
    rw [reads, readAt_refused exact improper]
    exact blamed_all blames ⟨_, rfl, rfl⟩

theorem Framed.written (framed : s.Framed canSave l args) {text : String}
    (sound : (s.setting.read canSave (args.set s.place text)).fault = none) :
    (s.setting.read canSave (args.set s.place text)).written l = (s.readAt text).written l := by
  cases framed with
  | crowded fails =>
    obtain ⟨e, -, failed⟩ := fails text
    rw [failed] at sound
    contradiction
  | among before after reads blames aside =>
    rw [reads] at sound ⊢
    exact written_all_between aside sound

/-- With nothing else that could be refused, acceptance is a matter of the text alone. -/
theorem Feeds.fault_sparse (feeds : s.Feeds l) (text : String) :
    (s.setting.read canSave (s.sparse text)).fault = none ↔ s.Takes text := by
  obtain ⟨read, sound⟩ := feeds.sparse_sound canSave
  have one : s.Takes "1" := .inr (feeds.exact.fault_iff.mp read)
  have framed : s.Framed canSave l (s.sparse "1") := feeds.framed (feeds.sparse_holds "1")
  have split := framed.fault_iff feeds.exact text one
  rw [feeds.sparse_set, feeds.sparse_set] at split
  rw [split, and_iff_left sound]

/-- An integer in an argument is read exactly. The text by itself is accepted if and only if it is
ASCII digits, behind a sign where one is allowed, whose number is in the range of its place, and then
that number is what the leaf has afterwards; any other text is refused as an argument that is
invalid, and nothing changes. In an option it is the same, but that the text may be left empty where
it is optional. An option with little else is accepted if and only if the text is, and an option with
whatever other arguments if and only if the text is and the option is accepted with some other
integer in place of the text. -/
theorem reads_exactly (feeds : s.Feeds l) (text : String) (o : Options) :
    (let alone := (s.read text).applyTo o;
      (alone.fault = none ↔ ∃ z, s.Spells text z) ∧
      (∀ z, s.Spells text z → (alone.state.get l).integer? = some z) ∧
      ((¬∃ z, s.Spells text z) →
        alone = { state := o, fault := some (.value s.what text) } ∧
          (ParseError.value s.what text).kind = .invalidArgument)) ∧
    ∀ (ctx : Context) (keyword : String),
      OptionName.ofText? keyword = some (.setting s.setting) →
      ((o.apply ctx ⟨keyword, s.sparse text⟩).fault = none ↔ s.Takes text) ∧
      ∀ args : List String, s.Holds args text →
        let outcome := o.apply ctx ⟨keyword, args⟩;
        (∀ other z, s.Spells other z → (outcome.fault = none ↔
          s.Takes text ∧ (o.apply ctx ⟨keyword, args.set s.place other⟩).fault = none)) ∧
        (outcome.fault = none →
          (∀ z, s.Spells text z → (outcome.state.get l).integer? = some z) ∧
            (s.Blank text → outcome.state.get l = o.get l)) ∧
        (¬s.Takes text → ∃ e ∈ outcome.fault, e.kind = .invalidArgument) := by
  have exact : s.Exact l := feeds.exact
  refine ⟨⟨exact.fault_iff, fun z spells => ?kept, fun unspelled => ?rejected⟩,
    fun ctx keyword named => ?inside⟩
  case kept =>
    obtain ⟨v, written, value⟩ := exact.written spells
    rw [Reading.get_applyTo, written]
    exact value
  case rejected =>
    rw [exact.refused text unspelled]
    exact ⟨rfl, rfl⟩
  case inside =>
    have applied (args : List String) :
        o.apply ctx ⟨keyword, args⟩ = (s.setting.read ctx.canSave args).applyTo o :=
      Options.apply_setting named
    simp only [applied, Reading.fault_applyTo, Reading.get_applyTo]
    refine ⟨feeds.fault_sparse text, fun args holds => ?_⟩
    have framed : s.Framed ctx.canSave l args := feeds.framed holds
    have same : args.set s.place text = args := by
      obtain ⟨short, rfl⟩ := List.getElem?_eq_some_iff.mp holds.stands
      exact List.set_getElem_self short
    refine ⟨fun other z spells => ?_, fun sound => ?_, fun improper => ?_⟩
    · rw [← framed.fault_iff exact text (.inr ⟨z, spells⟩), same]
    · have written := framed.written (same.symm ▸ sound)
      rw [same] at written
      rw [written]
      refine ⟨fun z spells => ?_, fun blank => ?_⟩
      · obtain ⟨v, put, value⟩ := exact.written spells
        rw [readAt_spelled spells, put]
        exact value
      · rw [readAt_blank blank]
        rfl
    · exact same ▸ framed.blamed exact improper

/-- The least offset, and the integer below it, behind a position that is left empty. -/
theorem reads_exactly_least :
    let ctx : Context := ⟨.empty, ImageType.canEncode⟩
    let o := Options.baseline 80
    let s : IntegerSlot := .offset 2 "watermark X offset" .offsetX
    let args (text : String) := ["1", "", text]
    s.Feeds (.watermark .offsetX) ∧ OptionName.ofText? "wm" = some (.setting s.setting) ∧
      s.Holds (args "-2147483648") "-2147483648" ∧ s.Spells "-2147483648" (-2147483648) ∧
      (o.apply ctx ⟨"wm", args "-2147483648"⟩).fault = none ∧
      ((o.apply ctx ⟨"wm", args "-2147483648"⟩).state.get (.watermark .offsetX)).integer? =
        some (-2147483648) ∧
      s.Holds (args "-2147483649") "-2147483649" ∧ ¬s.Takes "-2147483649" ∧
      ∃ e ∈ (o.apply ctx ⟨"wm", args "-2147483649"⟩).fault, e.kind = .invalidArgument := by
  intro ctx o s args
  have feeds : s.Feeds (.watermark .offsetX) := .offsetX
  have holds (text : String) : s.Holds (args text) text := ⟨rfl, nofun⟩
  have spells : s.Spells "-2147483648" (-2147483648) := spells_offset_iff.mpr (by decide)
  have below : ¬s.Takes "-2147483649" := by
    rintro (⟨-, empty⟩ | ⟨z, spelled⟩)
    · contradiction
    · have read : Numeral.signed 32 "-2147483649" = some z := spells_offset_iff.mp spelled
      rw [show Numeral.signed 32 "-2147483649" = none by decide] at read
      contradiction
  obtain ⟨accepted, least⟩ := (reads_exactly feeds "-2147483648" o).2 ctx "wm" rfl
  obtain ⟨-, kept, -⟩ := least _ (holds _)
  have sound := accepted.mpr (.inr ⟨_, spells⟩)
  obtain ⟨-, lower⟩ := (reads_exactly feeds "-2147483649" o).2 ctx "wm" rfl
  obtain ⟨-, -, lost⟩ := lower _ (holds _)
  exact ⟨feeds, rfl, holds _, spells, sound, (kept sound).1 _ spells, holds _, below, lost below⟩

end IntegerSlot
end ImageGateway
