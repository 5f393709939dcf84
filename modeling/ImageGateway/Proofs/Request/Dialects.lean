import ImageGateway.Proofs.Preset.Directives
import ImageGateway.Proofs.Request.Defaults

/-! The three dialects as one. Each of them comes down to tasks that are done after the default
preset, on the options that the headers ask for, so that what holds of a run of tasks holds of
every request, however its path is written. -/
namespace ImageGateway.RequestParser

variable {p : RequestParser}

/-- The preset named `default` is expanded before anything else, if there is one. -/
def openedPresets (p : RequestParser) : List String :=
  if p.config.presets.contains Options.defaultPreset then [Options.defaultPreset] else []

def defaultTasks (p : RequestParser) : List Task := Task.ofNames p.openedPresets

def positionalOptions (type width height gravity enlarge : String) : List UrlOption :=
  [⟨"rt", [type]⟩, ⟨"w", [width]⟩, ⟨"h", [height]⟩, ⟨"g", Text.split ':' gravity⟩,
    ⟨"el", [enlarge]⟩]

/-- The tasks that the segments after the signature stand for, and the source segments; there are
none when the positional dialect lacks a segment. -/
def tasks? (p : RequestParser) (first : String) (rest : List String) :
    Option (List Task × List String) :=
  if p.config.onlyPresets then some (Task.ofNames (Text.split ':' first), rest)
  else
    match ResizeType.ofName? first with
    | some _ =>
      match rest with
      | width :: height :: gravity :: enlarge :: source :: more =>
        some (Task.ofOptions (positionalOptions first width height gravity enlarge), source :: more)
      | _ => none
    | none =>
      let (options, source) := UrlOption.takeFrom (first :: rest)
      some (Task.ofOptions options, source)

/-- What segments are read as in each of the dialects: the names of presets, settings by position or
options by name, and the source behind them. -/
inductive Reads (p : RequestParser) : List String → List Task → List String → Prop
  | presets {first : String} {source : List String} : p.config.onlyPresets = true →
      Reads p (first :: source) (Task.ofNames (Text.split ':' first)) source
  | positions {first width height gravity enlarge image : String} {more : List String}
      {type : ResizeType} : p.config.onlyPresets = false → ResizeType.ofName? first = some type →
      Reads p ([first, width, height, gravity, enlarge] ++ image :: more)
        (Task.ofOptions (positionalOptions first width height gravity enlarge)) (image :: more)
  | names {first : String} {rest source : List String} {options : List UrlOption} :
      p.config.onlyPresets = false → ResizeType.ofName? first = none →
      UrlOption.takeFrom (first :: rest) = (options, source) →
      Reads p (first :: rest) (Task.ofOptions options) source

theorem tasks?_eq_some_iff {first : String} {rest source : List String} {tasks : List Task} :
    p.tasks? first rest = some (tasks, source) ↔ p.Reads (first :: rest) tasks source := by
  constructor
  · intro asked
    unfold tasks? at asked
    split at asked
    next only =>
      obtain ⟨rfl, rfl⟩ := Prod.mk.inj (Option.some.inj asked)
      exact .presets only
    next byName =>
      rw [Bool.not_eq_true] at byName
      split at asked
      next type named =>
        split at asked
        next =>
          obtain ⟨rfl, rfl⟩ := Prod.mk.inj (Option.some.inj asked)
          exact .positions byName named
        next => contradiction
      next unnamed =>
        obtain ⟨rfl, rfl⟩ := Prod.mk.inj (Option.some.inj asked)
        exact .names byName unnamed rfl
  · intro reads
    cases reads with
    | presets only => simp only [tasks?, only, if_true]
    | positions byName named =>
      simp only [tasks?, byName, named, Bool.false_eq_true, if_false]
      rfl
    | names byName unnamed taken =>
      simp only [tasks?, byName, unnamed, taken, Bool.false_eq_true, if_false]

theorem defaults_eq (h : Headers) :
    p.defaults h = Task.run p.context (p.start h) p.defaultTasks := by
  rw [defaults, Options.defaults, defaultTasks, openedPresets]
  cases present : p.context.presets.contains Options.defaultPreset with
  | true =>
    have known : p.config.presets.contains Options.defaultPreset = true := present
    simp only [known, if_true]
    rfl
  | false =>
    have unknown : p.config.presets.contains Options.defaultPreset = false := present
    simp only [unknown, Bool.false_eq_true, if_false, Task.ofNames, List.map_nil, Task.run]
    rfl

theorem defaults_andThen (h : Headers) (tasks : List Task) :
    ((p.defaults h).andThen fun o => Task.run p.context o tasks) =
      Task.run p.context (p.start h) (p.defaultTasks ++ tasks) := by
  rw [defaults_eq, Task.run_append]

theorem applyAll_positional {first : String} {type : ResizeType}
    (named : ResizeType.ofName? first = some type) (width height gravity enlarge : String)
    (o : Options) :
    (Reading.all [
        .edit (.resizeType type),
        Setting.readWidth width,
        Setting.readHeight height,
        (Gravity.read (Text.split ':' gravity)).map .gravity,
        Setting.readEnlarge enlarge]).applyTo o =
      o.applyAll p.context (positionalOptions first width height gravity enlarge) := by
  have settings : (positionalOptions first width height gravity enlarge).mapM
      UrlOption.directive? = some [⟨.resizingType, [first]⟩, ⟨.width, [width]⟩,
        ⟨.height, [height]⟩, ⟨.gravity, Text.split ':' gravity⟩, ⟨.enlarge, [enlarge]⟩] := rfl
  have resized : Directive.read p.canSave ⟨.resizingType, [first]⟩ = .edit (.resizeType type) := by
    simp only [Directive.read, Setting.read, Reading.single, Setting.readResizingType, named]
    rfl
  calc
    _ = (Reading.all [Directive.read p.canSave ⟨.resizingType, [first]⟩,
          Setting.readWidth width, Setting.readHeight height,
          (Gravity.read (Text.split ':' gravity)).map .gravity,
          Setting.readEnlarge enlarge]).applyTo o := by rw [resized]
    _ = _ := (Options.applyAll_directives settings o).symm

/-- Whatever the dialect, the options come from a run of the tasks. -/
theorem readOptions_of_tasks {first : String} {rest source : List String} {tasks : List Task}
    (asked : p.tasks? first rest = some (tasks, source)) (h : Headers) :
    p.readOptions h first rest =
      (Task.run p.context (p.start h) (p.defaultTasks ++ tasks), source) := by
  rw [← defaults_andThen]
  cases tasks?_eq_some_iff.mp asked with
  | presets only =>
    simp only [readOptions, only, if_true]
    rfl
  | @positions _ width height gravity enlarge image more _ byName named =>
    simp only [readOptions, byName, named, Bool.false_eq_true, if_false, positionalDialect]
    refine congrArg (·, image :: more) (congrArg (p.defaults h).andThen ?_)
    funext o
    exact applyAll_positional named width height gravity enlarge o
  | names byName unnamed taken =>
    simp only [readOptions, byName, unnamed, taken, Bool.false_eq_true, if_false]
    rfl

/-- A positional path that lacks a segment is refused before anything else is read. -/
theorem readOptions_of_none {first : String} {rest : List String}
    (lacking : p.tasks? first rest = none) (h : Headers) :
    p.readOptions h first rest =
      ({ state := p.template, fault := some (.fewSegments (first :: rest)) }, []) := by
  cases only : p.config.onlyPresets with
  | true =>
    simp only [tasks?, only, if_true] at lacking
    contradiction
  | false =>
    cases named : ResizeType.ofName? first with
    | none =>
      simp only [tasks?, only, named, Bool.false_eq_true, if_false] at lacking
      contradiction
    | some type =>
      obtain rfl := ResizeType.name_of_ofName? named
      simp only [tasks?, only, named, Bool.false_eq_true, if_false] at lacking
      simp only [readOptions, only, named, Bool.false_eq_true, if_false]
      unfold positionalDialect
      split
      next => contradiction
      next => rfl

end ImageGateway.RequestParser
