import ImageGateway.Proofs.Preset.Recursion

/-! How deep presets nest. Options and presets are applied by two functions that call each other
and keep count of the presets that may still be open inside one another. The number of unused table
names is always enough of them, so that every run comes to an end, cycles in the table or not. -/
namespace ImageGateway

namespace PresetTable

/-- The names that a run appends to the used ones are table names, each of them once and none of
them used before. -/
structure Expansions (t : PresetTable) (before expanded after : List String) : Prop where
  appended : after = before ++ expanded
  distinct : expanded.Nodup
  known : ∀ name ∈ expanded, name ∈ t.names
  fresh : ∀ name ∈ expanded, name ∉ before

theorem Expansions.none (t : PresetTable) (used : List String) : t.Expansions used [] used :=
  ⟨(List.append_nil used).symm, List.nodup_nil, nofun, nofun⟩

theorem Expansions.append {t : PresetTable} (first : t.Expansions before expanded middle)
    (second : t.Expansions middle further after) :
    t.Expansions before (expanded ++ further) after := by
  have apart : ∀ a ∈ expanded, ∀ b ∈ further, a ≠ b := by
    intro a old b new same
    apply second.fresh b new
    rw [first.appended]
    exact List.mem_append_right before (same ▸ old)
  refine ⟨?_, List.nodup_append.mpr ⟨first.distinct, second.distinct, apart⟩, ?_, ?_⟩
  · rw [second.appended, first.appended, List.append_assoc]
  · intro name member
    exact (List.mem_append.mp member).elim (first.known name) (second.known name)
  · intro name member
    rcases List.mem_append.mp member with old | new
    · exact first.fresh name old
    · intro used
      apply second.fresh name new
      rw [first.appended]
      exact List.mem_append_left expanded used

theorem Expansions.single {t : PresetTable} {name : String} (known : name ∈ t.names)
    (fresh : name ∉ used) : t.Expansions used [name] (used ++ [name]) :=
  ⟨rfl, by simp, by simpa using known, by simpa using fresh⟩

/-- Each expansion takes exactly one name from the unused ones. -/
theorem Expansions.length_unused {t : PresetTable} (run : t.Expansions before expanded after) :
    (t.unused after).length + expanded.length = (t.unused before).length := by
  obtain ⟨rfl, distinct, known, fresh⟩ := run
  induction expanded generalizing before with
  | nil => simp
  | cons name rest ih =>
    have one := length_unused_append (known name (by simp)) (fresh name (by simp))
    have later : ∀ n ∈ rest, n ∉ before ++ [name] := by
      intro n member used
      rcases List.mem_append.mp used with old | same
      · exact fresh n (List.mem_cons_of_mem name member) old
      · exact (List.nodup_cons.mp distinct).1 (List.mem_singleton.mp same ▸ member)
    have others := ih (List.nodup_cons.mp distinct).2
      (fun n member => known n (List.mem_cons_of_mem name member)) later
    rw [List.append_cons, List.length_cons]
    omega

end PresetTable

/-- The outcome of a run, and the presets whose options it applied, in order. -/
structure Options.Run where
  outcome : Outcome Options
  expanded : List String
  deriving DecidableEq, Repr

namespace Options.Run

def ended (outcome : Outcome Options) : Run := ⟨outcome, []⟩

def andThen (r : Run) (next : Options → Option Run) : Option Run :=
  match r.outcome.fault with
  | some _ => some r
  | none => (next r.outcome.state).map fun n =>
      ⟨n.outcome.warned r.outcome.warnings, r.expanded ++ n.expanded⟩

end Options.Run

namespace Options

mutual

/-- The options in order. There is no result when presets nest more than `depth` deep. -/
def applyWithin (ctx : Context) (depth : Nat) (o : Options) (options : List UrlOption) :
    Option Run :=
  match options with
  | [] => some (.ended { state := o })
  | asked :: rest =>
    match OptionName.ofText? asked.name with
    | none => some (.ended { state := o, fault := some (.unknownOption asked.name) })
    | some .preset => do
      let run ← expandWithin ctx depth o asked.args
      run.andThen (applyWithin ctx depth · rest)
    | some (.setting setting) =>
      (Run.ended ((setting.read ctx.canSave asked.args).applyTo o)).andThen
        (applyWithin ctx depth · rest)
  termination_by (depth, 1, options.length)

/-- The presets in order. Applying the options of one opens one level. -/
def expandWithin (ctx : Context) (depth : Nat) (o : Options) (names : List String) : Option Run :=
  match names with
  | [] => some (.ended { state := o })
  | name :: rest =>
    match ctx.presets.get? name with
    | none => some (.ended { state := o, fault := some (.unknownPreset name) })
    | some options =>
      if name ∈ o.usedPresets then
        (Run.ended { state := o, warnings := [.repeatedPreset name] }).andThen
          (expandWithin ctx depth · rest)
      else
        match depth with
        | 0 => none
        | inner + 1 => do
          let run ← applyWithin ctx inner (o.markPreset name) options
          Run.andThen ⟨run.outcome, name :: run.expanded⟩ (expandWithin ctx (inner + 1) · rest)
  termination_by (depth, 0, names.length)

end

/-- The result is that outcome, reached by expansions. -/
def Finishes (ctx : Context) (o : Options) (result : Option Run) (outcome : Outcome Options) :
    Prop :=
  ∃ expanded, result = some ⟨outcome, expanded⟩ ∧
    ctx.presets.Expansions o.usedPresets expanded outcome.state.usedPresets

variable {ctx : Context} {o : Options}

theorem Finishes.ended {outcome : Outcome Options}
    (same : outcome.state.usedPresets = o.usedPresets) :
    Finishes ctx o (some (.ended outcome)) outcome :=
  ⟨[], rfl, same ▸ .none ctx.presets o.usedPresets⟩

/-- Runs in sequence: the second one starts with no more unused presets than the first. -/
theorem Finishes.andThen {result : Option Run} {outcome : Outcome Options}
    {next : Options → Option Run} {more : Options → Outcome Options}
    (first : Finishes ctx o result outcome)
    (second : ∀ s : Options, (ctx.presets.unused s.usedPresets).length ≤
      (ctx.presets.unused o.usedPresets).length → Finishes ctx s (next s) (more s)) :
    Finishes ctx o (result.bind (·.andThen next)) (outcome.andThen more) := by
  obtain ⟨expanded, rfl, before⟩ := first
  rw [Option.bind_some, Run.andThen, Outcome.andThen]
  cases fault : outcome.fault with
  | some e => exact ⟨expanded, by simp, before⟩
  | none =>
    have fewer := before.length_unused
    obtain ⟨further, found, after⟩ := second outcome.state (by omega)
    exact ⟨expanded ++ further, by rw [found]; rfl, before.append after⟩

theorem expandWithin_finishes {depth : Nat}
    (bodies : ∀ inner, depth = inner + 1 → ∀ (s : Options) (options : List UrlOption),
      (ctx.presets.unused s.usedPresets).length ≤ inner →
        Finishes ctx s (applyWithin ctx inner s options) (s.applyAll ctx options))
    (names : List String) (enough : (ctx.presets.unused o.usedPresets).length ≤ depth) :
    Finishes ctx o (expandWithin ctx depth o names) (o.expand ctx names) := by
  -- The names that are left start from other options, with no more unused presets than before.
  induction names generalizing o with
  | nil =>
    rw [expandWithin, expand_nil]
    exact .ended rfl
  | cons name rest ih =>
    rw [expandWithin]
    cases found : ctx.presets.get? name with
    | none =>
      rw [expand_unknown found]
      exact .ended rfl
    | some options =>
      by_cases used : name ∈ o.usedPresets
      · simp only [if_pos used]
        rw [expand_used found used]
        have passed : Finishes ctx o (some (.ended { state := o, warnings := [.repeatedPreset name] }))
            { state := o, warnings := [.repeatedPreset name] } := .ended rfl
        exact passed.andThen fun s fewer => ih (Nat.le_trans fewer enough)
      · simp only [if_neg used]
        rw [expand_fresh found used]
        have known := PresetTable.mem_names_of_get? found
        have one := PresetTable.length_unused_append known used
        -- The name itself is unused, so there is a level left to open for it.
        cases depth with
        | zero => omega
        | succ inner =>
          obtain ⟨expanded, applied, inside⟩ := bodies inner rfl (o.markPreset name) options
            (by simp only [markPreset]; omega)
          have opened := (PresetTable.Expansions.single known used).append inside
          have body : Finishes ctx o (some ⟨(o.markPreset name).applyAll ctx options, name :: expanded⟩)
              ((o.markPreset name).applyAll ctx options) := ⟨_, rfl, opened⟩
          simp only [applied]
          exact body.andThen fun s fewer => ih (Nat.le_trans fewer enough)

theorem applyWithin_finishes {depth : Nat}
    (presets : ∀ (s : Options) (names : List String),
      (ctx.presets.unused s.usedPresets).length ≤ depth →
        Finishes ctx s (expandWithin ctx depth s names) (s.expand ctx names))
    (options : List UrlOption) (enough : (ctx.presets.unused o.usedPresets).length ≤ depth) :
    Finishes ctx o (applyWithin ctx depth o options) (o.applyAll ctx options) := by
  induction options generalizing o with
  | nil =>
    rw [applyWithin, applyAll_nil]
    exact .ended rfl
  | cons asked rest ih =>
    rw [applyWithin, applyAll_cons]
    cases named : OptionName.ofText? asked.name with
    | none =>
      rw [apply_unknown named]
      exact .ended rfl
    | some what =>
      cases what with
      | preset =>
        rw [apply_preset named]
        exact (presets o asked.args enough).andThen fun s fewer => ih (Nat.le_trans fewer enough)
      | setting setting =>
        rw [apply_setting named]
        exact Finishes.andThen (.ended (Reading.usedPresets_applyTo _ o))
          fun s fewer => ih (Nat.le_trans fewer enough)

/-- One level for each unused table name is enough. -/
theorem finishes (ctx : Context) (depth : Nat) :
    (∀ (o : Options) (options : List UrlOption),
      (ctx.presets.unused o.usedPresets).length ≤ depth →
        Finishes ctx o (applyWithin ctx depth o options) (o.applyAll ctx options)) ∧
    (∀ (o : Options) (names : List String),
      (ctx.presets.unused o.usedPresets).length ≤ depth →
        Finishes ctx o (expandWithin ctx depth o names) (o.expand ctx names)) := by
  induction depth with
  | zero =>
    have presets (s : Options) (names : List String)
        (enough : (ctx.presets.unused s.usedPresets).length ≤ 0) :
        Finishes ctx s (expandWithin ctx 0 s names) (s.expand ctx names) :=
      expandWithin_finishes (by intro inner impossible; contradiction) names enough
    exact ⟨fun o options => applyWithin_finishes presets options, presets⟩
  | succ inner ih =>
    have presets (s : Options) (names : List String)
        (enough : (ctx.presets.unused s.usedPresets).length ≤ inner + 1) :
        Finishes ctx s (expandWithin ctx (inner + 1) s names) (s.expand ctx names) := by
      refine expandWithin_finishes (fun d same => ?_) names enough
      obtain rfl := Nat.succ.inj same
      exact ih.1
    exact ⟨fun o options => applyWithin_finishes presets options, presets⟩

theorem expand_all_used {names : List String} (known : ∀ name ∈ names, name ∈ ctx.presets.names)
    (used : ∀ name ∈ names, name ∈ o.usedPresets) :
    o.expand ctx names = { state := o, warnings := names.map .repeatedPreset } := by
  induction names with
  | nil => rw [expand_nil]; rfl
  | cons name rest ih =>
    obtain ⟨options, found⟩ := PresetTable.mem_names_iff.mp (known name (by simp))
    rw [expand_used found (used name (by simp)),
      ih (fun n member => known n (by simp [member])) (fun n member => used n (by simp [member]))]
    rfl

/-- Applying options and expanding presets come to an end for every table: as many levels as there
are unused table names are enough. Whatever the outcome, the used presets grow by the presets
expanded, which are table names, each expanded once and none of them used before, and so many fewer
table names are left unused. A preset option with table names that are all used changes nothing. -/
theorem expansion_terminates (ctx : Context) (o : Options) :
    (∀ options : List UrlOption, ∃ expanded,
      o.applyWithin ctx (ctx.presets.unused o.usedPresets).length options =
        some ⟨o.applyAll ctx options, expanded⟩ ∧
      ctx.presets.Expansions o.usedPresets expanded
        (o.applyAll ctx options).state.usedPresets ∧
      (ctx.presets.unused (o.applyAll ctx options).state.usedPresets).length + expanded.length =
        (ctx.presets.unused o.usedPresets).length) ∧
    (∀ names : List String, ∃ expanded,
      o.expandWithin ctx (ctx.presets.unused o.usedPresets).length names =
        some ⟨o.expand ctx names, expanded⟩ ∧
      ctx.presets.Expansions o.usedPresets expanded (o.expand ctx names).state.usedPresets ∧
      (ctx.presets.unused (o.expand ctx names).state.usedPresets).length + expanded.length =
        (ctx.presets.unused o.usedPresets).length) ∧
    ∀ asked : UrlOption, OptionName.ofText? asked.name = some .preset →
      (∀ name ∈ asked.args, name ∈ ctx.presets.names ∧ name ∈ o.usedPresets) →
        (o.apply ctx asked).fault = none ∧ (o.apply ctx asked).state = o := by
  obtain ⟨applying, expanding⟩ := finishes ctx (ctx.presets.unused o.usedPresets).length
  refine ⟨fun options => ?_, fun names => ?_, fun asked named settled => ?_⟩
  · obtain ⟨expanded, finished, run⟩ := applying o options (Nat.le_refl _)
    exact ⟨expanded, finished, run, run.length_unused⟩
  · obtain ⟨expanded, finished, run⟩ := expanding o names (Nat.le_refl _)
    exact ⟨expanded, finished, run, run.length_unused⟩
  · rw [apply_preset named, expand_all_used (fun n member => (settled n member).1)
      fun n member => (settled n member).2]
    exact ⟨rfl, rfl⟩

/-- Two presets that name each other, both used. -/
theorem expansion_terminates_cycle :
    let table : PresetTable := ⟨[⟨"a", [⟨"w", ["1"]⟩, ⟨"pr", ["b"]⟩]⟩,
      ⟨"b", [⟨"pr", ["a", "b"]⟩, ⟨"h", ["2"]⟩]⟩], by decide⟩
    let ctx : Context := ⟨table, ImageType.canEncode⟩
    let o : Options := { Options.baseline 80 with usedPresets := ["b", "a"] }
    let asked : UrlOption := ⟨"preset", ["a", "b", "a"]⟩
    OptionName.ofText? asked.name = some .preset ∧
      (∀ name ∈ asked.args, name ∈ ctx.presets.names ∧ name ∈ o.usedPresets) ∧
      (o.apply ctx asked).fault = none ∧ (o.apply ctx asked).state = o := by
  intro table ctx o asked
  have named : OptionName.ofText? asked.name = some .preset := rfl
  have settled : ∀ name ∈ asked.args, name ∈ ctx.presets.names ∧ name ∈ o.usedPresets := by decide
  exact ⟨named, settled, (expansion_terminates ctx o).2.2 asked named settled⟩

/-- A preset that names another one opens two levels, and one level is too few for it. -/
example :
    let table : PresetTable := ⟨[⟨"a", [⟨"pr", ["b", "a"]⟩]⟩, ⟨"b", [⟨"pr", ["a"]⟩]⟩], by decide⟩
    let ctx : Context := ⟨table, ImageType.canEncode⟩
    ((Options.baseline 80).expandWithin ctx 2 ["a"]).map Run.expanded = some ["a", "b"] ∧
      (Options.baseline 80).expandWithin ctx 1 ["a"] = none := by
  cbv

end Options
end ImageGateway
