import ImageGateway.Proofs.Preset.Directives

/-! Options that ask for no presets. A list of them is one reading, of one option after the other:
neither the presets of the table nor those used before have a say in what it comes to. -/
namespace ImageGateway

namespace UrlOption

def Plain (asked : UrlOption) : Prop := OptionName.ofText? asked.name ≠ some .preset

instance (asked : UrlOption) : Decidable asked.Plain :=
  inferInstanceAs (Decidable (OptionName.ofText? asked.name ≠ some .preset))

theorem named_of_not_plain {asked : UrlOption} (preset : ¬asked.Plain) :
    OptionName.ofText? asked.name = some .preset :=
  Decidable.not_not.mp preset

/-- What a plain option reads; its name alone is a fault when nothing goes by it. -/
def read (canSave : ImageType → Bool) (asked : UrlOption) : Reading Edit :=
  match OptionName.ofText? asked.name with
  | some (.setting setting) => setting.read canSave asked.args
  | _ => .fail (.unknownOption asked.name)

end UrlOption

namespace Options

variable {ctx : Context}

theorem apply_plain {asked : UrlOption} (plain : asked.Plain) (o : Options) :
    o.apply ctx asked = (asked.read ctx.canSave).applyTo o := by
  cases named : OptionName.ofText? asked.name with
  | none =>
    rw [apply_unknown named, UrlOption.read, named]
    rfl
  | some name =>
    cases name with
    | preset => exact absurd named plain
    | setting setting => rw [apply_setting named, UrlOption.read, named]

theorem applyAll_plain {options : List UrlOption} (plain : ∀ asked ∈ options, asked.Plain)
    (o : Options) :
    o.applyAll ctx options = (Reading.all (options.map (·.read ctx.canSave))).applyTo o := by
  induction options generalizing o with
  | nil => exact applyAll_nil
  | cons asked rest ih =>
    obtain ⟨first, others⟩ := List.forall_mem_cons.mp plain
    rw [applyAll_cons, apply_plain first, List.map_cons, Reading.applyTo_all_cons]
    exact congrArg _ (funext (ih others))

end Options
end ImageGateway
