import ImageGateway.Options.Setting
import ImageGateway.Preset.Table

/-! Options applied in order, presets expanding in place. The work still to do is a list of tasks:
a preset option puts its names in front of it, and a name puts the options of its preset there.
Each name expands at most once, so the number of table names not yet used bounds the run. -/
namespace ImageGateway

structure Context where
  presets : PresetTable
  canSave : ImageType → Bool

inductive Task where
  | option (o : UrlOption)
  | preset (name : String)
  deriving DecidableEq, Repr

namespace Task

/-- A task outweighs the names that it puts in its place. -/
def weight : Task → Nat
  | .option o => o.args.length + 2
  | .preset _ => 1

def weights : List Task → Nat
  | [] => 0
  | t :: rest => t.weight + weights rest

def ofNames (names : List String) : List Task := names.map .preset

def ofOptions (options : List UrlOption) : List Task := options.map .option

theorem weights_ofNames_append (names : List String) (tasks : List Task) :
    weights (ofNames names ++ tasks) = names.length + weights tasks := by
  induction names with
  | nil => simp [ofNames]
  | cons name rest ih =>
    rw [ofNames] at ih
    simp only [ofNames, List.map_cons, List.cons_append, weights, weight, List.length_cons, ih]
    omega

end Task

namespace PresetTable

/-- The table names that are still to be expanded. -/
def unused (t : PresetTable) (used : List String) : List String :=
  t.names.filter fun name => !used.contains name

theorem length_unused_append {t : PresetTable} {used : List String} {name : String}
    (known : name ∈ t.names) (fresh : name ∉ used) :
    (t.unused (used ++ [name])).length + 1 = (t.unused used).length := by
  have member : name ∈ t.unused used := by simp [unused, known, fresh]
  have erased : t.unused (used ++ [name]) = (t.unused used).erase name := by
    have distinct : (t.unused used).Nodup := t.distinct.filter _
    rw [distinct.erase_eq_filter, unused, unused, List.filter_filter]
    refine List.filter_congr fun n _ => ?_
    by_cases same : n = name <;> simp [same]
  rw [erased, List.length_erase_of_mem member]
  have positive := List.length_pos_of_mem member
  omega

theorem unused_lt {t : PresetTable} {used : List String} {name : String}
    (known : name ∈ t.names) (fresh : name ∉ used) :
    (t.unused (used ++ [name])).length < (t.unused used).length := by
  have one := length_unused_append known fresh
  omega

end PresetTable

namespace Task

/-- The tasks are done in order, up to the first fault. -/
def run (ctx : Context) (o : Options) (tasks : List Task) : Outcome Options :=
  match tasks with
  | [] => { state := o }
  | .option asked :: rest =>
    match OptionName.ofText? asked.name with
    | none => { state := o, fault := some (.unknownOption asked.name) }
    | some .preset => run ctx o (ofNames asked.args ++ rest)
    | some (.setting setting) =>
      let next := (setting.read ctx.canSave asked.args).applyTo o
      match next.fault with
      | some _ => next
      | none => (run ctx next.state rest).warned next.warnings
  | .preset name :: rest =>
    match _ : ctx.presets.get? name with
    | none => { state := o, fault := some (.unknownPreset name) }
    | some options =>
      if _ : name ∈ o.usedPresets then (run ctx o rest).warned [.repeatedPreset name]
      else run ctx (o.markPreset name) (ofOptions options ++ rest)
  termination_by ((ctx.presets.unused o.usedPresets).length, weights tasks)
  decreasing_by
    · rw [weights_ofNames_append]
      exact Prod.Lex.right _ (by simp [weights, weight])
    · simp only [Reading.usedPresets_applyTo]
      exact Prod.Lex.right _ (by simp [weights, weight])
    · exact Prod.Lex.right _ (by simp [weights, weight])
    · exact Prod.Lex.left _ _ (PresetTable.unused_lt (PresetTable.mem_names_of_get? ‹_›) ‹_›)

theorem run_append (ctx : Context) (o : Options) (first second : List Task) :
    run ctx o (first ++ second) = (run ctx o first).andThen fun o => run ctx o second := by
  fun_induction run ctx o first with
  | case1 o => simp [Outcome.andThen]
  | case2 o asked rest unknown =>
    rw [List.cons_append, run]
    simp [unknown, Outcome.andThen]
  | case3 o asked rest preset ih =>
    -- The names go in front of the rest of the first part, and so in front of the second one.
    rw [List.cons_append, run]
    simp only [preset]
    rw [← List.append_assoc, ih]
  | case4 o asked rest setting known next e fault =>
    rw [List.cons_append, run]
    simp_all [next, Outcome.andThen]
  | case5 o asked rest setting known next sound ih =>
    rw [List.cons_append, run]
    simp only [known]
    simp_all [next, Outcome.andThen_warned]
  | case6 o name rest missing =>
    rw [List.cons_append, run]
    split <;> simp_all [Outcome.andThen]
  | case7 o name rest options found used ih =>
    rw [List.cons_append, run]
    split <;> simp_all [Outcome.andThen_warned]
  | case8 o name rest options found fresh ih =>
    rw [List.cons_append, run]
    split <;> simp_all

end Task

namespace Options

def applyAll (ctx : Context) (o : Options) (options : List UrlOption) : Outcome Options :=
  Task.run ctx o (Task.ofOptions options)

def apply (ctx : Context) (o : Options) (option : UrlOption) : Outcome Options :=
  Task.run ctx o [.option option]

def expand (ctx : Context) (o : Options) (names : List String) : Outcome Options :=
  Task.run ctx o (Task.ofNames names)

end Options
end ImageGateway
