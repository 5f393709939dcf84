import ImageGateway.Proofs.Preset.Plain

/-! Presets flattened. A list of options is rewritten into one that asks for no presets: each preset
gives way to its options where it is named for the first time, and is dropped where it is named
again. Rewriting looks at the options, the table and the presets used before, and not at what the
options change. Applying options is flattening them and applying what is left, option by option. -/
namespace ImageGateway

/-- Options without presets, and the presets that are used after them. -/
structure Flattened where
  options : List UrlOption
  used : List String
  plain : ∀ asked ∈ options, asked.Plain

def Flattened.cons (asked : UrlOption) (single : asked.Plain) (f : Flattened) : Flattened :=
  ⟨asked :: f.options, f.used, List.forall_mem_cons.mpr ⟨single, f.plain⟩⟩

namespace PresetTable

/-- The options with all presets opened in place, or the first name that the table does not have. -/
def flatten (t : PresetTable) (used : List String) :
    List UrlOption → Except String Flattened
  | [] => .ok ⟨[], used, List.forall_mem_nil _⟩
  | ⟨keyword, args⟩ :: rest =>
    if single : UrlOption.Plain ⟨keyword, args⟩ then (t.flatten used rest).map (.cons _ single)
    else
      match args with
      | [] => t.flatten used rest
      | name :: names =>
        match _ : t.get? name with
        | none => .error name
        | some options =>
          if _ : name ∈ used then t.flatten used (⟨keyword, names⟩ :: rest)
          else t.flatten (used ++ [name]) (options ++ ⟨keyword, names⟩ :: rest)
  termination_by options => ((t.unused used).length, Task.weights (Task.ofOptions options))
  decreasing_by
    · exact Prod.Lex.right _ (by simp [Task.ofOptions, Task.weights, Task.weight])
    · exact Prod.Lex.right _ (by simp [Task.ofOptions, Task.weights, Task.weight])
    · exact Prod.Lex.right _ (by simp [Task.ofOptions, Task.weights, Task.weight])
    · exact Prod.Lex.left _ _ (unused_lt (mem_names_of_get? ‹_›) ‹_›)

end PresetTable

namespace Options

variable {ctx : Context} {o : Options} {keyword name : String}

theorem applyAll_preset (named : OptionName.ofText? keyword = some .preset) (names : List String)
    (rest : List UrlOption) :
    o.applyAll ctx (⟨keyword, names⟩ :: rest) =
      (o.expand ctx names).andThen (·.applyAll ctx rest) := by
  rw [applyAll_cons, apply_preset named]

theorem applyAll_nameless (named : OptionName.ofText? keyword = some .preset)
    (rest : List UrlOption) :
    o.applyAll ctx (⟨keyword, []⟩ :: rest) = o.applyAll ctx rest := by
  rw [applyAll_preset named, expand_nil]
  rfl

theorem applyAll_missing (named : OptionName.ofText? keyword = some .preset)
    (missing : ctx.presets.get? name = none) (names : List String) (rest : List UrlOption) :
    o.applyAll ctx (⟨keyword, name :: names⟩ :: rest) =
      { state := o, fault := some (.unknownPreset name) } := by
  rw [applyAll_preset named, expand_unknown missing]
  rfl

theorem applyAll_used {options : List UrlOption}
    (named : OptionName.ofText? keyword = some .preset)
    (found : ctx.presets.get? name = some options) (used : name ∈ o.usedPresets)
    (names : List String) (rest : List UrlOption) :
    o.applyAll ctx (⟨keyword, name :: names⟩ :: rest) =
      (o.applyAll ctx (⟨keyword, names⟩ :: rest)).warned [.repeatedPreset name] := by
  rw [applyAll_preset named, expand_used found used, Outcome.andThen_warned, applyAll_preset named]

/-- The options of a new preset stand before the names that are left. -/
theorem applyAll_fresh {options : List UrlOption}
    (named : OptionName.ofText? keyword = some .preset)
    (found : ctx.presets.get? name = some options) (fresh : name ∉ o.usedPresets)
    (names : List String) (rest : List UrlOption) :
    o.applyAll ctx (⟨keyword, name :: names⟩ :: rest) =
      (o.markPreset name).applyAll ctx (options ++ ⟨keyword, names⟩ :: rest) := by
  rw [applyAll_preset named, expand_fresh found fresh, Outcome.andThen_assoc, applyAll_append]
  refine congrArg _ (funext fun s => ?_)
  rw [applyAll_preset named]

theorem usedPresets_apply_plain {asked : UrlOption} (plain : asked.Plain) :
    (o.apply ctx asked).state.usedPresets = o.usedPresets := by
  rw [apply_plain plain]
  exact Reading.usedPresets_applyTo _ o

theorem applyAll_withUsed (ctx : Context) (o : Options) {options : List UrlOption}
    (plain : ∀ asked ∈ options, asked.Plain) (used : List String) :
    ((o.withUsed used).applyAll ctx options).fault = (o.applyAll ctx options).fault ∧
      ((o.withUsed used).applyAll ctx options).state =
        (o.applyAll ctx options).state.withUsed used := by
  rw [applyAll_plain plain, applyAll_plain plain]
  exact ⟨rfl, Reading.applyTo_withUsed _ o used⟩

/-- What flattening says of the outcome on some options: an unknown name is a fault, and otherwise
the outcome is that of the plain options, with the presets used that flattening has found. -/
def Flattens (ctx : Context) (o : Options) (outcome : Outcome Options) :
    Except String Flattened → Prop
  | .error name => name ∉ ctx.presets.names ∧ outcome.fault ≠ none
  | .ok flat => outcome.fault = (o.applyAll ctx flat.options).fault ∧
      (outcome.fault = none →
        outcome.state = (o.applyAll ctx flat.options).state.withUsed flat.used)

theorem Flattens.cons {asked : UrlOption} (plain : asked.Plain) {rest : List UrlOption}
    {result : Except String Flattened}
    (later : Flattens ctx (o.apply ctx asked).state
      ((o.apply ctx asked).state.applyAll ctx rest) result) :
    Flattens ctx o (o.applyAll ctx (asked :: rest)) (result.map (.cons asked plain)) := by
  rw [applyAll_cons]
  cases result with
  | error name =>
    refine ⟨later.1, fun well => later.2 ?_⟩
    exact (Outcome.fault_andThen.mp well).2
  | ok flat =>
    have behind : o.applyAll ctx (asked :: flat.options) =
        (o.apply ctx asked).andThen (·.applyAll ctx flat.options) := applyAll_cons ..
    change Outcome.fault _ = Outcome.fault (o.applyAll ctx (asked :: flat.options)) ∧
      (_ → _ = (o.applyAll ctx (asked :: flat.options)).state.withUsed flat.used)
    rw [behind]
    cases stopped : (o.apply ctx asked).fault with
    | some e => simp [Outcome.andThen, stopped]
    | none =>
      simp only [Outcome.andThen, stopped]
      exact later

theorem Flattens.marked {outcome : Outcome Options} {result : Except String Flattened}
    (inside : Flattens ctx (o.markPreset name) outcome result) : Flattens ctx o outcome result := by
  cases result with
  | error => exact inside
  | ok flat =>
    obtain ⟨fault, state⟩ := applyAll_withUsed ctx o flat.plain (o.usedPresets ++ [name])
    refine ⟨inside.1.trans fault, fun well => (inside.2 well).trans ?_⟩
    exact congrArg (·.withUsed flat.used) state

theorem flattens_applyAll (ctx : Context) {o : Options} {used : List String}
    (options : List UrlOption) (same : o.usedPresets = used) :
    Flattens ctx o (o.applyAll ctx options) (ctx.presets.flatten used options) := by
  fun_induction PresetTable.flatten ctx.presets used options generalizing o with
  | case1 used =>
    rw [applyAll_nil, ← same]
    refine ⟨?_, fun _ => ?_⟩
    · rw [applyAll_nil]
    · rw [applyAll_nil]
      rfl
  | case2 used keyword args rest plain ih =>
    exact .cons plain (ih ((usedPresets_apply_plain plain).trans same))
  | case3 used keyword rest named ih =>
    rw [applyAll_nameless (UrlOption.named_of_not_plain named)]
    exact ih same
  | case4 used keyword rest name names named missing =>
    rw [applyAll_missing (UrlOption.named_of_not_plain named) missing]
    refine ⟨fun known => ?_, Option.some_ne_none _⟩
    obtain ⟨options, found⟩ := PresetTable.mem_names_iff.mp known
    exact absurd (missing.symm.trans found) (Option.some_ne_none options).symm
  | case5 used keyword rest name names named options found before ih =>
    rw [applyAll_used (UrlOption.named_of_not_plain named) found (same ▸ before)]
    exact ih same
  | case6 used keyword rest name names named options found fresh ih =>
    -- The name is used while its own options are flattened, so a cycle comes to an end.
    rw [applyAll_fresh (UrlOption.named_of_not_plain named) found (same ▸ fresh)]
    exact .marked (ih (congrArg (· ++ [name]) same))

/-- Applying options, presets and all, is flattening them and then applying what is left, which asks
for no presets. It goes well exactly when all named presets are found on the way and the plain
options go well, and leaves what these leave, with the presets used that flattening has found. -/
theorem applyAll_flatten (ctx : Context) (o : Options) (options : List UrlOption) :
    (∀ name, ctx.presets.flatten o.usedPresets options = .error name →
        name ∉ ctx.presets.names) ∧
      ∀ after, ((o.applyAll ctx options).fault = none ∧ (o.applyAll ctx options).state = after) ↔
        ∃ flat, ctx.presets.flatten o.usedPresets options = .ok flat ∧
          (o.applyAll ctx flat.options).fault = none ∧
          (o.applyAll ctx flat.options).state.withUsed flat.used = after := by
  have flattens := flattens_applyAll ctx options (rfl : o.usedPresets = o.usedPresets)
  cases result : ctx.presets.flatten o.usedPresets options with
  | error name =>
    rw [result] at flattens
    obtain ⟨unknown, refused⟩ := flattens
    refine ⟨?_, fun after => ⟨fun went => absurd went.1 refused, ?_⟩⟩
    · intro other same
      obtain rfl := Except.error.inj same
      exact unknown
    · rintro ⟨flat, opened, -⟩
      contradiction
  | ok flat =>
    rw [result] at flattens
    obtain ⟨fault, state⟩ := flattens
    refine ⟨fun name refused => by contradiction, fun after => ⟨?_, ?_⟩⟩
    · rintro ⟨well, rfl⟩
      exact ⟨flat, rfl, fault.symm.trans well, (state well).symm⟩
    · rintro ⟨_, same, well, rfl⟩
      obtain rfl := Except.ok.inj same
      exact ⟨fault.trans well, state (fault.trans well)⟩

/-- A preset that names itself between two settings, and that is named again later. -/
example :
    let table : PresetTable :=
      ⟨[⟨"a", [⟨"w", ["1"]⟩, ⟨"pr", ["b", "a"]⟩, ⟨"h", ["2"]⟩]⟩, ⟨"b", [⟨"cb", ["x"]⟩]⟩], by decide⟩
    (table.flatten [] [⟨"pr", ["a"]⟩, ⟨"q", ["3"]⟩, ⟨"preset", ["b"]⟩]).map
        (fun flat => (flat.options, flat.used)) =
      .ok ([⟨"w", ["1"]⟩, ⟨"cb", ["x"]⟩, ⟨"h", ["2"]⟩, ⟨"q", ["3"]⟩], ["a", "b"]) := by
  cbv

end Options
end ImageGateway
