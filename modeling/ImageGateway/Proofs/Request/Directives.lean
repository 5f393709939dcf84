import ImageGateway.Proofs.Preset.Directives
import ImageGateway.Proofs.Request.Dialects
import ImageGateway.Proofs.Request.Stages

/-! What a request path asks for in all: the settings of the default preset, of the path in its
dialect, and of the extension of the source, presets opened in place. A request that is read follows
them one by one, from the options that the headers ask for. -/
namespace ImageGateway.RequestParser

variable {p : RequestParser}

/-- The format that the extension of the source names, as a directive. -/
def extensionDirectives : Option String → List Directive
  | none => []
  | some extension => [⟨.format, [extension]⟩]

/-- The settings that a path asks for in all, in order and presets opened in place: those of the
default preset, those before the source, and the format that the source names by its extension. -/
def directives (p : RequestParser) (path : String) : List Directive :=
  match segments path with
  | _ :: first :: rest =>
    match p.tasks? first rest with
    | none => []
    | some (tasks, source) =>
      Task.directives p.config.presets [] (p.defaultTasks ++ tasks) ++
        match SourceUrl.decode source p.config.baseUrl with
        | .error _ => []
        | .ok decoded => extensionDirectives decoded.extension
  | _ => []

/-- The options follow the directives of the path, and record presets of the table. -/
structure Follows (p : RequestParser) (path : String) (h : Headers) (o : Options) : Prop where
  sound : ∀ d ∈ p.directives path, (d.read p.canSave).fault = none
  left : o = ((p.start h).follow p.canSave (p.directives path)).withUsed o.usedPresets
  used : ∃ expanded, p.config.presets.Expansions p.openedPresets expanded o.usedPresets

/-- What holds of the options to start from and is kept by every directive of the path holds of the
options that follow, as long as it is not about the presets. -/
theorem Follows.keeps {path : String} {h : Headers} {o : Options} (follows : p.Follows path h o)
    {I : Options → Prop} (start : I (p.start h))
    (step : ∀ d : Directive, (d.read p.canSave).fault = none → ∀ o, I o →
      I ((d.read p.canSave).applyTo o).state)
    (blind : ∀ o used, I o → I (o.withUsed used)) : I o := by
  rw [follows.left]
  exact blind _ _ (Options.follow_keeps (fun d member => step d (follows.sound d member)) start)

theorem usedPresets_applyExtension (p : RequestParser) (extension : Option String) (o : Options) :
    (p.applyExtension extension o).state.usedPresets = o.usedPresets := by
  cases extension with
  | none => rfl
  | some e => exact Reading.usedPresets_applyTo _ o

theorem applyExtension_follow (extension : Option String) (o : Options) :
    (p.applyExtension extension o).state = o.follow p.canSave (extensionDirectives extension) := by
  cases extension with
  | none => rfl
  | some e => rfl

theorem fault_extensionDirectives {extension : Option String} {o : Options}
    (sound : (p.applyExtension extension o).fault = none) :
    ∀ d ∈ extensionDirectives extension, (d.read p.canSave).fault = none := by
  cases extension with
  | none => exact List.forall_mem_nil _
  | some e => exact List.forall_mem_singleton.mpr sound

theorem run_opened (p : RequestParser) {o : Options} (fresh : o.usedPresets = [])
    (tasks : List Task) :
    ∃ expanded, p.config.presets.Expansions p.openedPresets expanded
      (Task.run p.context o (p.defaultTasks ++ tasks)).state.usedPresets := by
  unfold defaultTasks openedPresets
  split
  next present =>
    obtain ⟨options, found⟩ := Option.isSome_iff_exists.mp present
    have opened := Task.run_expansions p.context (o.markPreset Options.defaultPreset)
      (Task.ofOptions options ++ tasks)
    have marked : (o.markPreset Options.defaultPreset).usedPresets = [Options.defaultPreset] := by
      rw [Options.markPreset, fresh, List.nil_append]
    rw [marked] at opened
    have first : Options.defaultPreset ∉ o.usedPresets := fresh ▸ List.not_mem_nil
    rw [Task.ofNames, List.map_singleton, List.singleton_append, Task.run_fresh found first]
    exact opened
  next absent =>
    have run := Task.run_expansions p.context o tasks
    rwa [fresh] at run

/-- A request that is read follows the directives of its path, in whatever dialect it is written. -/
theorem parse_follows {path : String} {h : Headers} {request : ImageRequest}
    (parsed : (p.parse path h).value = .ok request) : p.Follows path h request.options := by
  obtain ⟨signature, first, rest, cut, -, finished⟩ := parse_ok parsed
  cases asked : p.tasks? first rest with
  | none =>
    rw [readOptions_of_none asked] at finished
    obtain ⟨decoded, sound, -⟩ := finish_ok finished
    contradiction
  | some found =>
    obtain ⟨tasks, source⟩ := found
    rw [readOptions_of_tasks asked] at finished
    obtain ⟨decoded, sound, url, extended, rfl⟩ := finish_ok finished
    have opened := p.run_opened (p.usedPresets_start h) tasks
    obtain ⟨read, left⟩ := Task.run_follow sound
    rw [p.usedPresets_start h] at read left
    have listed : p.directives path =
        Task.directives p.config.presets [] (p.defaultTasks ++ tasks) ++
          extensionDirectives decoded.extension := by
      simp only [directives, cut, asked, url]
    have kept := p.usedPresets_applyExtension decoded.extension
      (Task.run p.context (p.start h) (p.defaultTasks ++ tasks)).state
    refine ⟨?_, ?_, ?_⟩
    · intro d member
      rw [listed] at member
      rcases List.mem_append.mp member with before | last
      · exact read d before
      · exact fault_extensionDirectives extended d last
    · simp only [kept]
      rw [applyExtension_follow, left, Options.follow_withUsed, listed, Options.follow_append]
      rfl
    · simp only [kept]
      exact opened

end ImageGateway.RequestParser
