import ImageGateway.Proofs.Gravity
import ImageGateway.Proofs.Options.Asked
import ImageGateway.Proofs.Request.Directives
import ImageGateway.Proofs.Request.Written

/-! The offsets of a request that is read, for the gravity and for the gravity of the crop. Both are
settled by the gravities that the directives of the path read for them, in order. An offset suits
its anchor unless it was given for the centre and is left over for another anchor. -/
namespace ImageGateway

namespace Setting

variable {canSave : ImageType → Bool} {s : Setting} {e : Edit}

theorem Asks.gravity_apply (asked : Asks canSave s e) (other : s ≠ .gravity) (o : Options) :
    (e.apply o).gravity = o.gravity := by
  induction asked with
  | resize listed _ ih => exact ih (by rintro rfl; simp at listed)
  | size listed _ ih => exact ih (by rintro rfl; simp at listed)
  | gravity => contradiction
  | _ => rfl

theorem Asks.cropGravity_apply (asked : Asks canSave s e) (other : s ≠ .crop) (o : Options) :
    (e.apply o).crop.gravity = o.crop.gravity := by
  induction asked with
  | resize listed _ ih => exact ih (by rintro rfl; simp at listed)
  | size listed _ ih => exact ih (by rintro rfl; simp at listed)
  | cropGravity => contradiction
  | _ => rfl

def readCropGravity (args : List String) : Reading Edit :=
  if (args.drop 2).all String.isEmpty then .nothing
  else (Gravity.read (args.drop 2)).map .cropGravity

theorem readCrop_sound {args : List String} (sound : (readCrop args).fault = none) :
    (readCropGravity args).fault = none ∧
      ∃ sized : Options → Options, (∀ o, (sized o).crop.gravity = o.crop.gravity) ∧
        ∀ o, ((readCrop args).applyTo o).state =
          ((readCropGravity args).applyTo (sized o)).state := by
  let Aside (e : Edit) : Prop := ∀ o, (e.apply o).crop.gravity = o.crop.gravity
  have aside {r : Reading Edit} (only : Reading.Only Aside r) (o : Options) :
      (r.applyTo o).state.crop.gravity = o.crop.gravity :=
    only.apply (I := fun current => current.crop.gravity = o.crop.gravity)
      (fun _ kept before same => (kept before).trans same) rfl
  unfold readCrop Reading.limited at sound ⊢
  split at sound
  next => exact absurd sound (Option.some_ne_none _)
  next allowed =>
    simp only [Reading.fault_all_cons] at sound
    obtain ⟨width, height, gravity, -⟩ := sound
    refine ⟨gravity, fun o => (Reading.applyTo ?height (Reading.applyTo ?width o).state).state,
      ?kept, fun o => ?stepped⟩
    case stepped =>
      rw [if_neg allowed, Reading.state_all_cons width, Reading.state_all_cons height,
        Reading.state_all_cons gravity, Reading.applyTo_all_nil]
      rfl
    case kept =>
      intro o
      refine (aside (Reading.only_position fun _ => ?_) _).trans
        (aside (Reading.only_position fun _ => ?_) o)
      · exact Reading.only_ofExcept fun _ _ _ => rfl
      · exact Reading.only_ofExcept fun _ _ _ => rfl

end Setting

namespace Directive

def gravities (d : Directive) : List (List String) :=
  match d.setting with
  | .gravity => [d.args]
  | _ => []

/-- The arguments that are read as the gravity of the crop: those after its size, unless all of
them are empty. -/
def cropGravities (d : Directive) : List (List String) :=
  match d.setting with
  | .crop => if (d.args.drop 2).all String.isEmpty then [] else [d.args.drop 2]
  | _ => []

variable {canSave : ImageType → Bool} {d : Directive}

theorem gravity_applyTo (d : Directive) (o : Options) :
    ((d.read canSave).applyTo o).state.gravity = o.gravity.settle d.gravities := by
  by_cases asked : d.setting = .gravity
  · have listed : d.gravities = [d.args] := by rw [gravities, asked]
    rw [listed, read, asked]
    exact Reading.apply_map Options.gravity (fun _ _ => rfl) (Gravity.read d.args) o
  · have none : d.gravities = [] := by
      unfold gravities
      split <;> trivial
    rw [none]
    exact (Setting.only_asks d.setting d.args).apply
      (I := fun current => current.gravity = o.gravity)
      (fun _ ofSetting before same => (ofSetting.gravity_apply asked before).trans same) rfl

theorem read_gravities (sound : (d.read canSave).fault = none) :
    ∀ args ∈ d.gravities, (Gravity.read args).fault = none := by
  unfold gravities
  split
  next asked =>
    rw [read, asked] at sound
    exact List.forall_mem_singleton.mpr sound
  next => exact List.forall_mem_nil _

theorem cropGravity_applyTo (sound : (d.read canSave).fault = none) (o : Options) :
    ((d.read canSave).applyTo o).state.crop.gravity = o.crop.gravity.settle d.cropGravities := by
  by_cases asked : d.setting = .crop
  · rw [read, asked] at sound ⊢
    obtain ⟨-, sized, aside, stepped⟩ := Setting.readCrop_sound sound
    rw [cropGravities, asked, ← aside o]
    refine (congrArg (fun current : Options => current.crop.gravity) (stepped o)).trans ?_
    unfold Setting.readCropGravity
    split
    next => rfl
    next =>
      exact Reading.apply_map (fun current : Options => current.crop.gravity) (fun _ _ => rfl)
        (Gravity.read (d.args.drop 2)) (sized o)
  · have none : d.cropGravities = [] := by
      unfold cropGravities
      split <;> trivial
    rw [none]
    exact (Setting.only_asks d.setting d.args).apply
      (I := fun current => current.crop.gravity = o.crop.gravity)
      (fun _ ofSetting before same => (ofSetting.cropGravity_apply asked before).trans same) rfl

theorem read_cropGravities (sound : (d.read canSave).fault = none) :
    ∀ args ∈ d.cropGravities, (Gravity.read args).fault = none := by
  unfold cropGravities
  split
  next asked =>
    rw [read, asked] at sound
    have part := (Setting.readCrop_sound sound).1
    unfold Setting.readCropGravity at part
    split
    next => exact List.forall_mem_nil _
    next given => exact List.forall_mem_singleton.mpr (by rwa [if_neg given] at part)
  next => exact List.forall_mem_nil _

end Directive

/-- What each directive settles by its own arguments is settled by all of them in order. -/
theorem Options.follow_settle {canSave : ImageType → Bool} (part : Options → Gravity)
    {history : Directive → List (List String)} {directives : List Directive}
    (step : ∀ d ∈ directives, ∀ o,
      part ((d.read canSave).applyTo o).state = (part o).settle (history d)) (o : Options) :
    part (o.follow canSave directives) = (part o).settle (directives.flatMap history) := by
  induction directives generalizing o with
  | nil => rfl
  | cons d rest ih =>
    obtain ⟨first, others⟩ := List.forall_mem_cons.mp step
    rw [follow_cons, ih others, first, List.flatMap_cons, Gravity.settle_append]

namespace RequestParser

variable {p : RequestParser} {path : String} {h : Headers} {o : Options}

/-- The arguments that a path reads as the gravity, in order. -/
def gravities (p : RequestParser) (path : String) : List (List String) :=
  (p.directives path).flatMap Directive.gravities

def cropGravities (p : RequestParser) (path : String) : List (List String) :=
  (p.directives path).flatMap Directive.cropGravities

theorem gravity_start (p : RequestParser) (h : Headers) :
    (p.start h).gravity = .exactly .center ∧ (p.start h).crop.gravity = .exactly .unknown := by
  obtain ⟨width, dpr, -, started⟩ := p.start_eq h
  rw [started]
  exact ⟨rfl, rfl⟩

theorem Follows.gravity (follows : p.Follows path h o) :
    o.gravity = (Gravity.exactly .center).settle (p.gravities path) := by
  rw [follows.left, Options.gravity_withUsed, ← (p.gravity_start h).1]
  exact Options.follow_settle Options.gravity (fun d _ => d.gravity_applyTo) _

theorem Follows.cropGravity (follows : p.Follows path h o) :
    o.crop.gravity = (Gravity.exactly .unknown).settle (p.cropGravities path) := by
  rw [follows.left, Options.crop_withUsed, ← (p.gravity_start h).2]
  exact Options.follow_settle (fun o => o.crop.gravity)
    (fun d member => Directive.cropGravity_applyTo (follows.sound d member)) _

theorem Follows.gravities_named (follows : p.Follows path h o) :
    ∀ args ∈ p.gravities path, ∃ anchor, Gravity.Names args anchor := by
  intro args member
  obtain ⟨d, asked, listed⟩ := List.mem_flatMap.mp member
  exact Gravity.read_sound (Directive.read_gravities (follows.sound d asked) args listed)

theorem Follows.cropGravities_named (follows : p.Follows path h o) :
    ∀ args ∈ p.cropGravities path, ∃ anchor, Gravity.Names args anchor := by
  intro args member
  obtain ⟨d, asked, listed⟩ := List.mem_flatMap.mp member
  exact Gravity.read_sound (Directive.read_cropGravities (follows.sound d asked) args listed)

/-- The gravities of a request that is read suit their anchors, unless an offset from the centre
is left over. -/
theorem parse_fits_iff (p : RequestParser) (path : String) (h : Headers) (request : ImageRequest)
    (parsed : (p.parse path h).value = .ok request) :
    (request.options.gravity.Fits ↔ ∀ axis, ¬ Gravity.LeftOver axis (p.gravities path)) ∧
      (request.options.crop.gravity.Fits ↔
        ∀ axis, ¬ Gravity.LeftOver axis (p.cropGravities path)) := by
  have follows := parse_follows parsed
  have least (anchor : Anchor) (axis : Axis) : 0 ≤ (Gravity.exactly anchor).offset axis := by
    cases axis <;> exact show (0 : Binary) ≤ 0 by decide
  rw [follows.gravity, follows.cropGravity]
  exact ⟨Gravity.fits_settle_iff nofun (least .center) follows.gravities_named,
    Gravity.fits_settle_iff nofun (least .unknown) follows.cropGravities_named⟩

/-- The north with an offset, and then the east. -/
theorem parse_fits_iff_east :
    let p : RequestParser := { config := { allowInsecure := true } }
    let request : ImageRequest := ⟨"a", { Options.baseline 80 with
      gravity := ⟨.east, .finite ⟨false, 5 <<< 50, -50⟩, 0⟩ }⟩
    (p.parse "/s/g:no:5/g:ea/YQ" {}).value = .ok request ∧
      (request.options.gravity.Fits ↔
        ∀ axis, ¬ Gravity.LeftOver axis (p.gravities "/s/g:no:5/g:ea/YQ")) ∧
      (request.options.crop.gravity.Fits ↔
        ∀ axis, ¬ Gravity.LeftOver axis (p.cropGravities "/s/g:no:5/g:ea/YQ")) := by
  intro p request
  have cut : segments "/s/g:no:5/g:ea/YQ" = "s" :: (["g:no:5", "g:ea"] ++ ["YQ"]) := by
    decide +kernel
  have settings : (["g:no:5", "g:ea"].filterMap UrlOption.parse?).mapM UrlOption.directive? =
      some [⟨.gravity, ["no", "5"]⟩, ⟨.gravity, ["ea"]⟩] := by decide +kernel
  have parsed : (p.parse "/s/g:no:5/g:ea/YQ" {}).value = .ok request :=
    parse_settings rfl rfl {} cut (by decide) (by decide) (by decide) settings (by decide +kernel)
      rfl
  exact ⟨parsed, p.parse_fits_iff _ {} request parsed⟩

/-- A negative offset from the centre stays when the anchor becomes the north. -/
theorem parse_leftOver :
    let p : RequestParser := { config := { allowInsecure := true } }
    let gravity : Gravity := ⟨.north, .finite ⟨true, 5 <<< 50, -50⟩, 0⟩
    (p.parse "/s/g:ce:-5/g:no/YQ" {}).value =
        .ok ⟨"a", { Options.baseline 80 with gravity := gravity }⟩ ∧
      gravity.anchor.admits gravity.x = false := by
  intro p gravity
  have cut : segments "/s/g:ce:-5/g:no/YQ" = "s" :: (["g:ce:-5", "g:no"] ++ ["YQ"]) := by
    decide +kernel
  have settings : (["g:ce:-5", "g:no"].filterMap UrlOption.parse?).mapM UrlOption.directive? =
      some [⟨.gravity, ["ce", "-5"]⟩, ⟨.gravity, ["no"]⟩] := by decide +kernel
  have parsed : (p.parse "/s/g:ce:-5/g:no/YQ" {}).value =
      .ok ⟨"a", { Options.baseline 80 with gravity := gravity }⟩ :=
    parse_settings rfl rfl {} cut (by decide) (by decide) (by decide) settings (by decide +kernel)
      rfl
  exact ⟨parsed, by decide⟩

end RequestParser
end ImageGateway
