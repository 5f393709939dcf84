import Mathlib.Data.List.Basic
import ImageGateway.Options.Setting
import ImageGateway.Proofs.Options.Leaf
import ImageGateway.Proofs.Text.Numeral

/-! The leaves of the options that hold integers. Such a leaf is read from a text at a place among
the arguments of a setting, of its own or of a composite one. The text is read as the integer that it
spells, and a text that spells none, or one that is out of range, is refused. -/
namespace ImageGateway

def Scalar.integer? : Scalar → Option Int
  | .pixels n => some n.toNat
  | .byte n => some n.toNat
  | .offset n => some n.toInt
  | _ => none

/-- Where the text of an integer stands among the arguments of a setting, how it is read and what
it is called when it is refused, and which integers it may spell. A text that is optional may be
left empty. Sparse arguments are those that give the text and as little else as the setting allows. -/
structure IntegerSlot where
  setting : Setting
  place : Nat
  sparse : String → List String
  optional : Bool
  what : String
  read : String → Reading Edit
  signed : Bool
  least : Int
  greatest : Int

namespace IntegerSlot

def dimension (setting : Setting) (place : Nat) (optional : Bool) (what : String)
    (edit : UInt32 → Edit) : IntegerSlot where
  setting := setting
  place := place
  sparse text := List.replicate place "" ++ [text]
  optional := optional
  what := what
  read arg := .ofExcept edit (Argument.dimension what arg)
  signed := false
  least := 0
  greatest := 4294967295

def channel (c : Channel) (place : Nat) : IntegerSlot where
  setting := .background
  place := place
  sparse text := ["0", "0", "0"].set place text
  optional := false
  what := "background " ++ c.name ++ " channel"
  read := Setting.readChannel c
  signed := false
  least := 0
  greatest := 255

def quality : IntegerSlot where
  setting := .quality
  place := 0
  sparse text := [text]
  optional := false
  what := "quality"
  read := Setting.readQuality
  signed := false
  least := 1
  greatest := 100

def offset (place : Nat) (what : String) (edit : Int32 → Watermark.Edit) : IntegerSlot where
  setting := .watermark
  place := place
  sparse text := "1" :: List.replicate (place - 1) "" ++ [text]
  optional := true
  what := what
  read arg := .ofExcept (fun n => .watermark (edit n)) (Argument.offset what arg)
  signed := true
  least := -2147483648
  greatest := 2147483647

/-- The text is an integer in the range, written with a sign as far as one is allowed. -/
def Spells (s : IntegerSlot) (text : String) (z : Int) : Prop :=
  (if s.signed then Numeral.Whole text.toList z
    else ∃ n : Nat, Numeral.Natural text.toList n ∧ z = n) ∧ s.least ≤ z ∧ z ≤ s.greatest

/-- The text gives no integer, and it need not. -/
def Blank (s : IntegerSlot) (text : String) : Prop := s.optional = true ∧ text = ""

/-- The text at the place of the slot. Three arguments of a background are its channels. -/
structure Holds (s : IntegerSlot) (args : List String) (text : String) : Prop where
  stands : args[s.place]? = some text
  channels : s.setting = .background → args.length = 3

/-- The leaf gets its integer from there, in the setting of its own or in a composite one. -/
inductive Feeds : IntegerSlot → Leaf → Prop where
  | width : Feeds (dimension .width 0 false "width" .width) .width
  | widthOfResize : Feeds (dimension .resize 1 true "width" .width) .width
  | widthOfSize : Feeds (dimension .size 0 true "width" .width) .width
  | height : Feeds (dimension .height 0 false "height" .height) .height
  | heightOfResize : Feeds (dimension .resize 2 true "height" .height) .height
  | heightOfSize : Feeds (dimension .size 1 true "height" .height) .height
  | cropWidth : Feeds (dimension .crop 0 true "crop width" .cropWidth) .cropWidth
  | cropHeight : Feeds (dimension .crop 1 true "crop height" .cropHeight) .cropHeight
  | quality : Feeds quality .quality
  | red : Feeds (channel .red 0) (.background .red)
  | green : Feeds (channel .green 1) (.background .green)
  | blue : Feeds (channel .blue 2) (.background .blue)
  | offsetX : Feeds (offset 2 "watermark X offset" .offsetX) (.watermark .offsetX)
  | offsetY : Feeds (offset 3 "watermark Y offset" .offsetY) (.watermark .offsetY)

/-- A text that spells an integer is read as an edit to it, and any other text is refused. -/
structure Exact (s : IntegerSlot) (l : Leaf) : Prop where
  spelled : ∀ text z, s.Spells text z →
    ∃ e, s.read text = .edit e ∧ e.leaf = l ∧ e.value.integer? = some z
  refused : ∀ text, (¬∃ z, s.Spells text z) → s.read text = .fail (.value s.what text)

variable {s : IntegerSlot} {l : Leaf} {text : String} {z : Int}

/-- It is enough that the texts that are decoded are those that spell an integer, and that the
integers of the range are kept as they are. -/
theorem exact_of_decodes {α β : Type} {decode : String → Option β} {make : β → α}
    {edit : α → Edit} (integer : β → Int)
    (reads : ∀ text,
      s.read text = .ofExcept edit (Argument.require s.what text ((decode text).map make)))
    (decodes : ∀ text z, s.Spells text z ↔ ∃ b, decode text = some b ∧ z = integer b)
    (leaf : ∀ a, (edit a).leaf = l)
    (value : ∀ b, s.least ≤ integer b → integer b ≤ s.greatest →
      (edit (make b)).value.integer? = some (integer b)) : s.Exact l where
  spelled text z spells := by
    obtain ⟨b, found, rfl⟩ := (decodes text z).mp spells
    obtain ⟨-, least, greatest⟩ := spells
    exact ⟨edit (make b), by rw [reads, found]; rfl, leaf _, value b least greatest⟩
  refused text none := by
    cases found : decode text with
    | none => rw [reads, found]; rfl
    | some b => exact absurd ⟨_, (decodes text _).mpr ⟨b, found, rfl⟩⟩ none

theorem exact_of_natural {α : Type} {decode : String → Option Nat} {make : Nat → α}
    {edit : α → Edit} (unsigned : s.signed = false)
    (reads : ∀ text,
      s.read text = .ofExcept edit (Argument.require s.what text ((decode text).map make)))
    (decodes : ∀ text n, decode text = some n ↔
      Numeral.Natural text.toList n ∧ s.least ≤ n ∧ n ≤ s.greatest)
    (leaf : ∀ a, (edit a).leaf = l)
    (value : ∀ n : Nat, n ≤ s.greatest → (edit (make n)).value.integer? = some (n : Int)) :
    s.Exact l := by
  refine exact_of_decodes Nat.cast reads (fun text z => ?_) leaf fun n _ => value n
  simp only [Spells, unsigned, if_neg Bool.false_ne_true, decodes]
  constructor
  · rintro ⟨⟨n, natural, rfl⟩, range⟩
    exact ⟨n, ⟨natural, range⟩, rfl⟩
  · rintro ⟨n, ⟨natural, range⟩, rfl⟩
    exact ⟨⟨n, natural, rfl⟩, range⟩

theorem exact_dimension {setting : Setting} {place : Nat} {optional : Bool} {what : String}
    {edit : UInt32 → Edit} (leaf : ∀ n, (edit n).leaf = l)
    (value : ∀ n, (edit n).value = .pixels n) :
    (dimension setting place optional what edit).Exact l := by
  refine exact_of_natural rfl (fun _ => rfl) (fun text n => ?_) leaf fun n greatest => ?_
  · rw [Numeral.unsigned_eq_some_iff]
    exact and_congr_right fun _ => by simp only [dimension]; omega
  · have fits : n < 2 ^ 32 := by simp only [dimension] at greatest; omega
    rw [value, Scalar.integer?, UInt32.toNat_ofNat_of_lt' fits]

theorem exact_channel {c : Channel} {place : Nat} :
    (channel c place).Exact (.background c) := by
  refine exact_of_natural rfl (fun _ => rfl) (fun text n => ?_) (fun _ => rfl) fun n greatest => ?_
  · rw [Numeral.unsigned_eq_some_iff]
    exact and_congr_right fun _ => by simp only [channel]; omega
  · have fits : n < 2 ^ 8 := by simp only [channel] at greatest; omega
    rw [Edit.value, Scalar.integer?, UInt8.toNat_ofNat_of_lt' fits]

theorem exact_quality : quality.Exact .quality := by
  refine exact_of_natural rfl (fun _ => rfl) (fun text n => ?_) (fun _ => rfl) fun n greatest => ?_
  · rw [Option.filter_eq_some_iff, Numeral.unsigned_eq_some_iff, and_assoc]
    exact and_congr_right fun _ => by simp [quality]; omega
  · have fits : n < 2 ^ 8 := by simp only [quality] at greatest; omega
    rw [Edit.value, Scalar.integer?, UInt8.toNat_ofNat_of_lt' fits]

theorem spells_offset_iff {place : Nat} {what : String} {edit : Int32 → Watermark.Edit} :
    (offset place what edit).Spells text z ↔ Numeral.signed 32 text = some z := by
  rw [Numeral.signed_eq_some_iff]
  exact and_congr_right fun _ => by simp only [offset]; omega

theorem exact_offset {place : Nat} {what : String} {edit : Int32 → Watermark.Edit}
    {l : Watermark.Leaf} (leaf : ∀ n, (edit n).leaf = l) (value : ∀ n, (edit n).value = .offset n) :
    (offset place what edit).Exact (.watermark l) := by
  refine exact_of_decodes id (fun _ => rfl) (fun text z => ?_)
    (fun n => congrArg Leaf.watermark (leaf n)) fun n least greatest => ?_
  · simp only [spells_offset_iff, id, exists_eq_right']
  · simp only [offset, id] at least greatest
    rw [Edit.value, value, Scalar.integer?, Int32.toInt_ofInt_of_le (by omega) (by omega), id]

/-- Every integer is read exactly. -/
theorem Feeds.exact (feeds : s.Feeds l) : s.Exact l := by
  cases feeds with
  | quality => exact exact_quality
  | red | green | blue => exact exact_channel
  | offsetX | offsetY => exact exact_offset (fun _ => rfl) fun _ => rfl
  | _ => exact exact_dimension (fun _ => rfl) fun _ => rfl

open Reading

/-- The text is an integer, or it is left empty where it may be. -/
def Takes (s : IntegerSlot) (text : String) : Prop := s.Blank text ∨ ∃ z, s.Spells text z

theorem Exact.fault_iff (exact : s.Exact l) :
    (s.read text).fault = none ↔ ∃ z, s.Spells text z := by
  constructor
  · intro sound
    by_contra unspelled
    rw [exact.refused text unspelled] at sound
    contradiction
  · rintro ⟨z, spells⟩
    obtain ⟨e, read, -⟩ := exact.spelled text z spells
    rw [read]
    rfl

theorem Exact.written (exact : s.Exact l) (spells : s.Spells text z) :
    ∃ v, (s.read text).written l = some v ∧ v.integer? = some z := by
  obtain ⟨e, read, rfl, value⟩ := exact.spelled text z spells
  rw [read]
  exact ⟨e.value, written_edit e, value⟩

def readAt (s : IntegerSlot) (text : String) : Reading Edit :=
  if s.optional = true ∧ text = "" then .nothing else s.read text

theorem Spells.filled (spells : s.Spells text z) : text ≠ "" := by
  rintro rfl
  obtain ⟨form, -⟩ := spells
  split at form
  · exact form.filled rfl
  · obtain ⟨n, natural, -⟩ := form
    exact natural.filled rfl

theorem Feeds.sparse_set (feeds : s.Feeds l) (text other : String) :
    (s.sparse text).set s.place other = s.sparse other := by
  cases feeds <;> rfl

theorem Feeds.sparse_holds (feeds : s.Feeds l) (text : String) : s.Holds (s.sparse text) text := by
  cases feeds with
  | red | green | blue => exact ⟨rfl, fun _ => rfl⟩
  | _ => exact ⟨rfl, nofun⟩

theorem Feeds.sparse_sound (feeds : s.Feeds l) (canSave : ImageType → Bool) :
    (s.read "1").fault = none ∧ (s.setting.read canSave (s.sparse "1")).fault = none := by
  have third : (Setting.readWatermark ["1", "", "1"]).fault = none := by decide +kernel
  have fourth : (Setting.readWatermark ["1", "", "", "1"]).fault = none := by decide +kernel
  cases feeds with
  | offsetX => exact ⟨rfl, third⟩
  | offsetY => exact ⟨rfl, fourth⟩
  | _ => exact ⟨rfl, rfl⟩

theorem readAt_blank (blank : s.Blank text) : s.readAt text = .nothing :=
  if_pos blank

theorem readAt_spelled (spells : s.Spells text z) :
    s.readAt text = s.read text :=
  if_neg fun blank => spells.filled blank.2

theorem readAt_refused (exact : s.Exact l) (improper : ¬s.Takes text) :
    s.readAt text = .fail (.value s.what text) := by
  obtain ⟨given, unspelled⟩ := not_or.mp improper
  exact (if_neg given).trans (exact.refused text unspelled)

theorem fault_readAt (exact : s.Exact l) :
    (s.readAt text).fault = none ↔ s.Takes text := by
  by_cases taken : s.Takes text
  · refine iff_of_true ?_ taken
    rcases taken with blank | ⟨z, spells⟩
    · rw [readAt_blank blank]
      rfl
    · rw [readAt_spelled spells]
      exact exact.fault_iff.mpr ⟨z, spells⟩
  · refine iff_of_false ?_ taken
    rw [readAt_refused exact taken]
    exact Option.some_ne_none _

end IntegerSlot
end ImageGateway
