import Mathlib.Data.List.Nodup
import Mathlib.Logic.Relation
import ImageGateway.Proofs.Preset.Directives

/-! Which presets a run uses. The options of a preset can mention other presets, and a run without a
fault uses exactly the presets that are reached from the names given to it, along any number of
mentions. A name that is passed over because it is still open is explored all the same: the run
counts it as used, and every used name has its mentions used in the end. -/
namespace ImageGateway

theorem OptionName.ofText?_eq_preset_iff {s : String} :
    ofText? s = some .preset ↔ s = "preset" ∨ s = "pr" := by
  unfold ofText?
  split <;> simp_all

namespace UrlOption

def presets (asked : UrlOption) : List String :=
  if asked.name = "preset" ∨ asked.name = "pr" then asked.args else []

theorem presets_of_preset {asked : UrlOption}
    (named : OptionName.ofText? asked.name = some .preset) : asked.presets = asked.args :=
  if_pos (OptionName.ofText?_eq_preset_iff.mp named)

theorem presets_of_setting {asked : UrlOption} {setting : Setting}
    (named : OptionName.ofText? asked.name = some (.setting setting)) : asked.presets = [] := by
  refine if_neg fun preset => ?_
  have other := OptionName.ofText?_eq_preset_iff.mpr preset
  cases named.symm.trans other

end UrlOption

namespace PresetTable

/-- An option of the first preset names the second one. -/
def Mentions (t : PresetTable) (name other : String) : Prop :=
  ∃ options, t.get? name = some options ∧ ∃ asked ∈ options, other ∈ asked.presets

/-- The name is one of the given ones, or mentions lead to it from one of them. -/
def Reaches (t : PresetTable) (given : List String) (name : String) : Prop :=
  ∃ first ∈ given, Relation.ReflTransGen t.Mentions first name

variable {t : PresetTable}

theorem Reaches.of_subset {given others : List String} {name : String}
    (reached : t.Reaches given name) (sub : given ⊆ others) : t.Reaches others name := by
  obtain ⟨first, member, path⟩ := reached
  exact ⟨first, sub member, path⟩

theorem mem_presets_iff {name other : String} {options : List UrlOption}
    (found : t.get? name = some options) :
    other ∈ options.flatMap UrlOption.presets ↔ t.Mentions name other := by
  rw [List.mem_flatMap]
  constructor
  · exact fun mentioned => ⟨options, found, mentioned⟩
  · rintro ⟨body, same, mentioned⟩
    obtain rfl := Option.some.inj (found.symm.trans same)
    exact mentioned

/-- What a run has done when it went well: the names asked for are used, those that were not used
before were reached from them, and what these mention is used too. -/
structure Explored (t : PresetTable) (before names after : List String) : Prop where
  kept : before ⊆ after
  asked : names ⊆ after
  reached : ∀ name ∈ after, name ∉ before → t.Reaches names name
  closed : ∀ name ∈ after, name ∉ before → ∀ other, t.Mentions name other → other ∈ after

theorem Explored.none (t : PresetTable) (used : List String) : t.Explored used [] used :=
  ⟨List.Subset.refl used, List.nil_subset used, fun _ member fresh => absurd member fresh,
    fun _ member fresh => absurd member fresh⟩

theorem Explored.used {before names after : List String} {name : String} (used : name ∈ before)
    (rest : t.Explored before names after) : t.Explored before (name :: names) after where
  kept := rest.kept
  asked := List.cons_subset.mpr ⟨rest.kept used, rest.asked⟩
  reached n member fresh :=
    (rest.reached n member fresh).of_subset (List.subset_cons_self name names)
  closed := rest.closed

theorem Explored.fresh {before names after : List String} {name : String}
    {options : List UrlOption} (found : t.get? name = some options)
    (inside : t.Explored (before ++ [name]) (options.flatMap UrlOption.presets ++ names) after) :
    t.Explored before (name :: names) after := by
  obtain ⟨kept, members, reached, closed⟩ := inside
  obtain ⟨before_kept, name_kept⟩ := List.append_subset.mp kept
  obtain ⟨mentioned, others⟩ := List.append_subset.mp members
  have marked {n : String} (fresh : n ∉ before) (different : n ≠ name) :
      n ∉ before ++ [name] := by
    simp [fresh, different]
  refine ⟨before_kept, List.cons_subset.mpr ⟨name_kept (by simp), others⟩, ?reached, ?closed⟩
  case reached =>
    intro n member fresh
    rcases eq_or_ne n name with rfl | different
    · exact ⟨n, List.mem_cons_self, .refl⟩
    · obtain ⟨first, listed, path⟩ := reached n member (marked fresh different)
      rcases List.mem_append.mp listed with body | later
      · exact ⟨name, List.mem_cons_self, .head ((mem_presets_iff found).mp body) path⟩
      · exact ⟨first, List.mem_cons_of_mem name later, path⟩
  case closed =>
    -- The new name is not fresh inside, where its mentions are asked for instead.
    intro n member fresh other mention
    rcases eq_or_ne n name with rfl | different
    · exact mentioned ((mem_presets_iff found).mpr mention)
    · exact closed n member (marked fresh different) other mention

/-- With nothing used before, the names used in the end are those reached. -/
theorem Explored.mem_iff {names after : List String} (explored : t.Explored [] names after)
    {name : String} : name ∈ after ↔ t.Reaches names name := by
  constructor
  · exact fun member => explored.reached name member List.not_mem_nil
  · rintro ⟨first, given, path⟩
    induction path with
    | refl => exact explored.asked given
    | tail _ mention ih => exact explored.closed _ ih List.not_mem_nil _ mention

end PresetTable

namespace Task

def presets : Task → List String
  | .option asked => asked.presets
  | .preset name => [name]

theorem presets_ofNames (names : List String) : (ofNames names).flatMap presets = names := by
  induction names with
  | nil => rfl
  | cons name rest ih => exact congrArg (name :: ·) ih

theorem presets_ofOptions (options : List UrlOption) :
    (ofOptions options).flatMap presets = options.flatMap UrlOption.presets :=
  List.flatMap_map ..

variable {ctx : Context} {o : Options} {tasks : List Task}

/-- A run without a fault explores what its tasks name. -/
theorem explored_of_run (well : (run ctx o tasks).fault = none) :
    ctx.presets.Explored o.usedPresets (tasks.flatMap presets)
      (run ctx o tasks).state.usedPresets := by
  fun_induction run ctx o tasks with
  | case1 o => exact .none ctx.presets o.usedPresets
  | case2 => contradiction
  | case3 o asked rest named ih =>
    have explored := ih well
    rw [List.flatMap_append, presets_ofNames] at explored
    rw [List.flatMap_cons, presets, UrlOption.presets_of_preset named]
    exact explored
  | case4 o asked rest setting named next e fault =>
    rw [fault] at well
    contradiction
  | case5 o asked rest setting named next sound ih =>
    have used : next.state.usedPresets = o.usedPresets := Reading.usedPresets_applyTo _ o
    rw [List.flatMap_cons, presets, UrlOption.presets_of_setting named, List.nil_append, ← used]
    exact ih well
  | case6 => contradiction
  | case7 o name rest options found used ih => exact .used used (ih well)
  | case8 o name rest options found fresh ih =>
    have inside := ih well
    rw [List.flatMap_append, presets_ofOptions] at inside
    exact .fresh found inside

end Task

namespace Options

/-- Names that expand without a fault, on options that have used no preset, use exactly the presets
that they reach, each of them once, and all of these are in the table. -/
theorem expand_reaches (ctx : Context) (o : Options) (names : List String)
    (unused : o.usedPresets = []) (well : (o.expand ctx names).fault = none) (name : String) :
    (name ∈ (o.expand ctx names).state.usedPresets ↔ ctx.presets.Reaches names name) ∧
      (ctx.presets.Reaches names name → name ∈ ctx.presets.names ∧
        (o.expand ctx names).state.usedPresets.count name = 1) := by
  have explored := Task.explored_of_run well
  rw [unused, Task.presets_ofNames] at explored
  obtain ⟨expanded, run⟩ := Task.run_expansions ctx o (Task.ofNames names)
  rw [unused] at run
  have whole : (o.expand ctx names).state.usedPresets = expanded := run.appended
  refine ⟨explored.mem_iff, fun reached => ?_⟩
  have member : name ∈ expanded := whole ▸ explored.mem_iff.mpr reached
  refine ⟨run.known name member, ?_⟩
  rw [whole]
  exact List.count_eq_one_of_mem run.distinct member

/-- A cycle of two presets, one of which names itself too, beside a preset that is not reached. -/
theorem expand_reaches_cycle :
    let table : PresetTable := ⟨[⟨"a", [⟨"fn", ["x"]⟩, ⟨"pr", ["b", "a"]⟩]⟩, ⟨"c", [⟨"pr", ["a"]⟩]⟩,
      ⟨"b", [⟨"preset", ["a"]⟩, ⟨"cb", ["y"]⟩]⟩], by decide⟩
    let ctx : Context := ⟨table, ImageType.canEncode⟩
    let o := Options.baseline 80
    o.usedPresets = [] ∧ (o.expand ctx ["b"]).fault = none ∧
      (o.expand ctx ["b"]).state.usedPresets = ["b", "a"] ∧
      ("a" ∈ (o.expand ctx ["b"]).state.usedPresets ↔ table.Reaches ["b"] "a") ∧
      (table.Reaches ["b"] "a" → "a" ∈ table.names ∧
        (o.expand ctx ["b"]).state.usedPresets.count "a" = 1) ∧
      ¬table.Reaches ["b"] "c" := by
  intro table ctx o
  have well : (o.expand ctx ["b"]).fault = none := by cbv
  have used : (o.expand ctx ["b"]).state.usedPresets = ["b", "a"] := by cbv
  obtain ⟨reached, once⟩ := expand_reaches ctx o ["b"] rfl well "a"
  have apart := (expand_reaches ctx o ["b"] rfl well "c").1
  rw [used] at apart
  exact ⟨rfl, well, used, reached, once, fun other => absurd (apart.mpr other) (by decide)⟩

end Options
end ImageGateway
