import ImageGateway.Proofs.Options.Footprint
import ImageGateway.Proofs.Request.Offsets

/-! The floating-point leaves of the options. Each of them is read by one setting, from one place
among its arguments, so that a directive has at most one text for it. Directives that are read leave
the number of the last text. -/
namespace ImageGateway

/-- Where the text of a number stands among the arguments of a setting, the format that it is read
in, and the check that the number has to pass. -/
structure Slot where
  setting : Setting
  place : Nat
  format : Binary.Format
  accepted : Binary → Bool

namespace Slot

def opacity : Slot := ⟨.watermark, 0, .double, fun x => 0 ≤ x && x ≤ 1⟩

def scale : Slot := ⟨.watermark, 4, .double, (0 ≤ ·)⟩

end Slot

def Gravity.Leaf.axis? : Gravity.Leaf → Option Axis
  | .anchor => none
  | .x => some .x
  | .y => some .y

/-- The slots of the leaves that hold numbers. An offset is checked with its anchor, and not by
itself. -/
def Leaf.slot? : Leaf → Option Slot
  | .dpr => some ⟨.dpr, 0, .double, (0 < ·)⟩
  | .gravity l => l.axis?.map fun axis => ⟨.gravity, axis.position, .double, fun _ => true⟩
  | .cropGravity l => l.axis?.map fun axis => ⟨.crop, 2 + axis.position, .double, fun _ => true⟩
  | .blur => some ⟨.blur, 0, .single, (0 ≤ ·)⟩
  | .sharpen => some ⟨.sharpen, 0, .single, (0 ≤ ·)⟩
  | .watermark .opacity => some .opacity
  | .watermark .scale => some .scale
  | _ => none

theorem Gravity.get_axis {l : Gravity.Leaf} {axis : Axis} (found : l.axis? = some axis)
    (g : Gravity) : g.get l = .number (g.offset axis) := by
  cases l <;> cases found <;> rfl

theorem Leaf.setting_of_slot {l : Leaf} {s : Slot} (listed : l.slot? = some s) {setting : Setting}
    (inside : l.field ∈ setting.footprint) : setting = s.setting := by
  revert setting
  cases l with
  | gravity l | cropGravity l =>
    obtain ⟨axis, -, rfl⟩ := Option.map_eq_some_iff.mp listed
    intro setting inside
    cases setting <;> simp_all [Leaf.field, Setting.footprint]
  | watermark l => cases l <;> cases listed <;> intro setting <;> cases setting <;> decide
  | _ => cases listed <;> intro setting <;> cases setting <;> decide

theorem Setting.Asks.ne_leaf {canSave : ImageType → Bool} {setting : Setting} {e : Edit}
    (asked : Asks canSave setting e) {l : Leaf} {s : Slot} (listed : l.slot? = some s)
    (other : setting ≠ s.setting) : e.leaf ≠ l := by
  rintro rfl
  exact other (Leaf.setting_of_slot listed asked.mem_footprint)

theorem Binary.ne_empty_of_read? {f : Format} {text : String} {x : Binary}
    (read : read? f text = some x) : text ≠ "" := by
  rintro rfl
  exact absurd read (Option.some_ne_none x).symm

namespace Slot

/-- The text that arguments have at the place of the slot; an empty one is none. -/
def textAt (s : Slot) (args : List String) : Option String := args[s.place]?.filter (· ≠ "")

def text? (s : Slot) (d : Directive) : Option String :=
  if d.setting = s.setting then s.textAt d.args else none

/-- The texts that directives have for the slot, in order. -/
def texts (s : Slot) (directives : List Directive) : List String := directives.filterMap s.text?

def number? (s : Slot) (text : Option String) : Option Scalar :=
  (text.bind (Binary.read? s.format)).map .number

/-- The directive writes the number of its text to the leaf, and nothing when it has none. -/
structure Fills (s : Slot) (canSave : ImageType → Bool) (l : Leaf) (d : Directive) : Prop where
  read : ∀ text, s.text? d = some text →
    ∃ x, Binary.read? s.format text = some x ∧ s.accepted x = true
  left : ∀ o, ((d.read canSave).applyTo o).state.get l = (s.number? (s.text? d)).getD (o.get l)

variable {canSave : ImageType → Bool} {l : Leaf} {s : Slot} {d : Directive}

theorem text?_asked (asked : d.setting = s.setting) : s.text? d = s.textAt d.args := if_pos asked

theorem textAt_some {args : List String} {text : String} {x : Binary}
    (stands : args[s.place]? = some text) (read : Binary.read? s.format text = some x) :
    s.textAt args = some text := by
  have filled := Binary.ne_empty_of_read? read
  rw [textAt, stands, Option.filter_some, if_pos (by simpa using filled)]

theorem fills_none (silent : s.text? d = none)
    (kept : ∀ o, ((d.read canSave).applyTo o).state.get l = o.get l) : s.Fills canSave l d where
  read := by rw [silent]; nofun
  left o := by rw [kept, silent]; rfl

theorem fills_some {text : String} {x : Binary} (given : s.text? d = some text)
    (read : Binary.read? s.format text = some x) (accepted : s.accepted x = true)
    (written : ∀ o, ((d.read canSave).applyTo o).state.get l = .number x) :
    s.Fills canSave l d where
  read other same := by
    obtain rfl := Option.some.inj (given.symm.trans same)
    exact ⟨x, read, accepted⟩
  left o := by rw [written, given, number?, Option.bind_some, read]; rfl

theorem fills_single {what : String} {make : Binary → Edit} (first : s.place = 0)
    (reads : s.setting.read canSave d.args = .single what d.args fun arg =>
      .ofExcept make (Argument.number s.format s.accepted what arg))
    (writes : ∀ x o, ((make x).apply o).get l = .number x) (asked : d.setting = s.setting)
    (sound : (d.read canSave).fault = none) : s.Fills canSave l d := by
  rw [← asked] at reads
  have form : d.read canSave = _ := reads
  rw [form] at sound
  unfold Reading.single at sound form
  split at sound
  next arg alone =>
    obtain ⟨x, read, accepted, same⟩ := Argument.number_sound sound
    have stands : d.args[s.place]? = some arg := by rw [alone, first]; rfl
    refine fills_some ((text?_asked asked).trans (textAt_some stands read)) read accepted
      fun o => ?_
    rw [form, alone]
    simp only [same]
    exact writes x o
  next => exact absurd sound (Option.some_ne_none _)

theorem fills_offset {part : Options → Gravity} {axis : Axis} {args : List String}
    (double : s.format = .double) (free : ∀ x, s.accepted x = true)
    (view : ∀ o : Options, o.get l = .number ((part o).offset axis))
    (settled : ∀ o, part ((d.read canSave).applyTo o).state = (part o).settle [args])
    (stands : s.text? d = args[axis.position]?.filter (· ≠ ""))
    (sound : (Gravity.read args).fault = none) : s.Fills canSave l d := by
  obtain ⟨anchor, names⟩ := Gravity.read_sound sound
  have stepped (o : Options) : ((d.read canSave).applyTo o).state.get l =
      .number ((Gravity.given? axis args).getD ((part o).offset axis)) := by
    rw [view, settled]
    exact congrArg _ (names.offset_step (part o) axis)
  cases given : args[axis.position]? with
  | none =>
    have absent : Gravity.given? axis args = none := by rw [Gravity.given?, given, Option.bind_none]
    refine fills_none (by rw [stands, given]; rfl) fun o => ?_
    rw [stepped, absent, view, Option.getD_none]
  | some text =>
    obtain ⟨x, read, -⟩ := names.suited axis (List.getElem?_eq_some_iff.mp given).1
    have found : Binary.read? s.format text = some x := by
      rw [double, ← read, Gravity.given?, given, Option.bind_some]
    have filled := Binary.ne_empty_of_read? found
    have named : s.text? d = some text := by
      rw [stands, given, Option.filter_some, if_pos (by simpa using filled)]
    refine fills_some named found (free x) fun o => ?_
    rw [stepped, read, Option.getD_some]

theorem fills_gravity {g : Gravity.Leaf} {axis : Axis} (found : g.axis? = some axis)
    (asked : d.setting = .gravity) (sound : (d.read canSave).fault = none) :
    Fills ⟨.gravity, axis.position, .double, fun _ => true⟩ canSave (.gravity g) d := by
  have listed : d.gravities = [d.args] := by rw [Directive.gravities, asked]
  have read := Directive.read_gravities sound d.args (by simp [listed])
  exact fills_offset rfl (fun _ => rfl) (fun o => Gravity.get_axis found o.gravity)
    (fun o => listed ▸ d.gravity_applyTo o) (text?_asked asked) read

theorem fills_cropGravity {g : Gravity.Leaf} {axis : Axis} (found : g.axis? = some axis)
    (asked : d.setting = .crop) (sound : (d.read canSave).fault = none) :
    Fills ⟨.crop, 2 + axis.position, .double, fun _ => true⟩ canSave (.cropGravity g) d := by
  have settled := Directive.cropGravity_applyTo sound
  have place : d.args[2 + axis.position]? = (d.args.drop 2)[axis.position]? :=
    List.getElem?_drop.symm
  have stands : text? ⟨.crop, 2 + axis.position, .double, fun _ => true⟩ d =
      (d.args.drop 2)[axis.position]?.filter (· ≠ "") :=
    (text?_asked asked).trans (congrArg _ place)
  have view (o : Options) := Gravity.get_axis found o.crop.gravity
  by_cases empty : (d.args.drop 2).all String.isEmpty = true
  · have listed : d.cropGravities = [] := by rw [Directive.cropGravities, asked]; exact if_pos empty
    refine fills_none ?_ fun o => ?_
    · rw [stands, Option.filter_eq_none_iff]
      intro text given
      have blank := List.all_eq_true.mp empty text (List.mem_of_getElem? given)
      simpa using blank
    · have same : ((d.read canSave).applyTo o).state.crop.gravity = o.crop.gravity := by
        rw [settled, listed]
        rfl
      exact congrArg (Gravity.get · g) same
  · have listed : d.cropGravities = [d.args.drop 2] := by
      rw [Directive.cropGravities, asked]
      exact if_neg empty
    have read := Directive.read_cropGravities sound (d.args.drop 2) (by simp [listed])
    exact fills_offset rfl (fun _ => rfl) view (fun o => listed ▸ settled o) stands read

def readAt (s : Slot) (what : String) (make : Binary → Edit) (args : List String) : Reading Edit :=
  .position args s.place fun arg => .ofExcept make (Argument.number s.format s.accepted what arg)

theorem readAt_sound {what : String} {make : Binary → Edit} {args : List String}
    (sound : (s.readAt what make args).fault = none) :
    (s.textAt args = none ∧ s.readAt what make args = .nothing) ∨
      ∃ text x, s.textAt args = some text ∧ Binary.read? s.format text = some x ∧
        s.accepted x = true ∧ s.readAt what make args = .edit (make x) := by
  unfold readAt Reading.position at sound ⊢
  split at sound
  next absent => exact .inl ⟨by rw [textAt, absent]; rfl, rfl⟩
  next text stands =>
    split at sound
    next blank =>
      refine .inl ⟨?_, if_pos blank⟩
      rw [textAt, stands, Option.filter_some, if_neg (by simpa using blank)]
    next filled =>
      obtain ⟨x, read, accepted, same⟩ := Argument.number_sound sound
      exact .inr ⟨text, x, textAt_some stands read, read, accepted, (if_neg filled).trans same⟩

end Slot

namespace Setting

variable {canSave : ImageType → Bool}

theorem readOpacity_sound {arg : String} (sound : (readOpacity arg).fault = none) :
    ∃ x, Binary.read? .double arg = some x ∧ Slot.opacity.accepted x = true ∧
      readOpacity arg =
        { edits := [.watermark (.enabled (0 < x)), .watermark (.opacity x)] } := by
  unfold readOpacity at sound ⊢
  split at sound
  next => exact absurd sound (Option.some_ne_none _)
  next x read =>
    obtain ⟨found, accepted⟩ := Argument.number_eq_ok.mp read
    exact ⟨x, found, accepted, rfl⟩

/-- The scale is read last in a watermark and the opacity first; what is read between them is
neither. -/
theorem readWatermark_sound {args : List String} (sound : (readWatermark args).fault = none) :
    let scale := Slot.scale.readAt "watermark scale" (fun x => .watermark (.scale x)) args
    args ≠ [] ∧ (readOpacity (args.headD "")).fault = none ∧ scale.fault = none ∧
      ∀ l, l = .watermark .opacity ∨ l = .watermark .scale →
        (readWatermark args).written l =
          (scale.written l).or ((readOpacity (args.headD "")).written l) := by
  unfold readWatermark Reading.limited at sound ⊢
  split at sound
  next => exact absurd sound (Option.some_ne_none _)
  next allowed =>
    simp only [Reading.fault_all_cons] at sound
    obtain ⟨opacity, position, offsetX, offsetY, scale, -⟩ := sound
    have filled : args ≠ [] := by rintro rfl; exact allowed rfl
    refine ⟨filled, opacity, scale, fun l wanted => ?_⟩
    have aside {i : Nat} {read : String → Reading Edit}
        (each : ∀ arg, Reading.Only (fun e => e.leaf ≠ l) (read arg)) :
        (Reading.position args i read).written l = none :=
      Reading.written_of_only (Reading.only_position each)
    have places (arg : String) : Reading.Only (fun e => e.leaf ≠ l) (readPosition arg) := by
      unfold readPosition
      split
      next => exact Reading.only_edit (by rcases wanted with rfl | rfl <;> nofun)
      next => exact Reading.only_ofExcept fun _ _ => by rcases wanted with rfl | rfl <;> nofun
    have offsets {i : Nat} {what : String} {make : Int32 → Edit} (each : ∀ n, (make n).leaf ≠ l) :
        (Reading.position args i fun arg =>
          .ofExcept make (Argument.offset what arg)).written l = none :=
      aside fun _ => Reading.only_ofExcept fun n _ => each n
    have shiftX (n : Int32) : (Edit.watermark (.offsetX n)).leaf ≠ l := by
      rcases wanted with rfl | rfl <;> nofun
    have shiftY (n : Int32) : (Edit.watermark (.offsetY n)).leaf ≠ l := by
      rcases wanted with rfl | rfl <;> nofun
    rw [if_neg allowed, Reading.written_all_cons opacity, Reading.written_all_cons position,
      Reading.written_all_cons offsetX, Reading.written_all_cons offsetY,
      Reading.written_all_cons scale, aside places, offsets shiftX, offsets shiftY]
    simp only [Option.or_none]
    rfl

end Setting

namespace Slot

variable {canSave : ImageType → Bool} {l : Leaf} {s : Slot} {d : Directive}

theorem fills_opacity (asked : d.setting = .watermark) (sound : (d.read canSave).fault = none) :
    opacity.Fills canSave (.watermark .opacity) d := by
  have form : d.read canSave = Setting.readWatermark d.args := by rw [Directive.read, asked]; rfl
  rw [form] at sound
  obtain ⟨filled, first, -, written⟩ := Setting.readWatermark_sound sound
  obtain ⟨x, read, accepted, same⟩ := Setting.readOpacity_sound first
  obtain ⟨arg, rest, listed⟩ := List.exists_cons_of_ne_nil filled
  have stands : d.args[opacity.place]? = some (d.args.headD "") := by rw [listed]; rfl
  refine fills_some ((text?_asked asked).trans (textAt_some stands read)) read accepted fun o => ?_
  have last : (scale.readAt "watermark scale" (fun x => .watermark (.scale x)) d.args).written
      (.watermark .opacity) = none :=
    Reading.written_of_only <| Reading.only_position fun _ => Reading.only_ofExcept fun _ _ => by
      simp [Edit.leaf, Watermark.Edit.leaf]
  rw [form, Reading.get_applyTo, written _ (.inl rfl), last, same]
  rfl

theorem fills_scale (asked : d.setting = .watermark) (sound : (d.read canSave).fault = none) :
    scale.Fills canSave (.watermark .scale) d := by
  have form : d.read canSave = Setting.readWatermark d.args := by rw [Directive.read, asked]; rfl
  rw [form] at sound
  obtain ⟨-, first, last, written⟩ := Setting.readWatermark_sound sound
  obtain ⟨x, -, -, same⟩ := Setting.readOpacity_sound first
  have aside : (Setting.readOpacity (d.args.headD "")).written (.watermark .scale) = none := by
    rw [same]
    rfl
  have left (o : Options) := Reading.get_applyTo (d.read canSave) o (.watermark .scale)
  simp only [form, written _ (.inr rfl), aside, Option.or_none] at left
  rcases readAt_sound last with ⟨absent, reading⟩ | ⟨text, x, given, read, accepted, reading⟩
  · exact fills_none ((text?_asked asked).trans absent) fun o => by rw [form, left, reading]; rfl
  · exact fills_some ((text?_asked asked).trans given) read accepted fun o => by
      rw [form, left, reading]
      rfl

end Slot

/-- Each directive writes the number of its text to the leaf of the slot, and nothing without a
text. -/
theorem Directive.fills {canSave : ImageType → Bool} {l : Leaf} {s : Slot} {d : Directive}
    (listed : l.slot? = some s) (sound : (d.read canSave).fault = none) : s.Fills canSave l d := by
  by_cases asked : d.setting = s.setting
  · cases l with
    | gravity l =>
      obtain ⟨axis, found, rfl⟩ := Option.map_eq_some_iff.mp listed
      exact Slot.fills_gravity found asked sound
    | cropGravity l =>
      obtain ⟨axis, found, rfl⟩ := Option.map_eq_some_iff.mp listed
      exact Slot.fills_cropGravity found asked sound
    | dpr | blur | sharpen =>
      cases listed
      exact Slot.fills_single rfl rfl (fun _ _ => rfl) asked sound
    | watermark l =>
      cases l with
      | opacity =>
        cases listed
        exact Slot.fills_opacity asked sound
      | scale =>
        cases listed
        exact Slot.fills_scale asked sound
      | _ => cases listed
    | _ => cases listed
  · refine Slot.fills_none (if_neg asked) fun o => ?_
    rw [Reading.get_applyTo, Reading.written_of_only, Option.getD_none]
    exact fun e member => (Setting.only_asks d.setting d.args e member).ne_leaf listed asked

namespace Slot

variable {canSave : ImageType → Bool} {l : Leaf} {s : Slot} {directives : List Directive}

theorem texts_read (listed : l.slot? = some s)
    (sound : ∀ d ∈ directives, (d.read canSave).fault = none) :
    ∀ text ∈ s.texts directives,
      ∃ x, Binary.read? s.format text = some x ∧ s.accepted x = true := by
  intro text member
  obtain ⟨d, asked, given⟩ := List.mem_filterMap.mp member
  exact (Directive.fills listed (sound d asked)).read text given

end Slot

/-- After directives that are all read a number is that of the last text for it. -/
theorem Options.get_follow {canSave : ImageType → Bool} {l : Leaf} {s : Slot}
    {directives : List Directive} (listed : l.slot? = some s)
    (sound : ∀ d ∈ directives, (d.read canSave).fault = none) (o : Options) :
    (o.follow canSave directives).get l =
      (s.number? (s.texts directives).getLast?).getD (o.get l) := by
  induction directives generalizing o with
  | nil => rfl
  | cons d rest ih =>
    obtain ⟨first, others⟩ := List.forall_mem_cons.mp sound
    have fills := Directive.fills listed first
    rw [follow_cons, ih others, fills.left]
    cases given : s.text? d with
    | none =>
      rw [Slot.texts, Slot.texts, List.filterMap_cons_none given]
      simp only [Slot.number?, Option.bind_none, Option.map_none, Option.getD_none]
    | some text =>
      rw [Slot.texts, Slot.texts, List.filterMap_cons_some given, List.getLast?_cons]
      cases last : (rest.filterMap s.text?).getLast? with
      | none => simp only [Slot.number?, Option.bind_none, Option.map_none, Option.getD_none]
      | some later =>
        -- A later text is a number too, so that it hides this one.
        obtain ⟨x, read, -⟩ := Slot.texts_read listed others later (List.mem_of_getLast? last)
        simp [Slot.number?, read]

end ImageGateway
