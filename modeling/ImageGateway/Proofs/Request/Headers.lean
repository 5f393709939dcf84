import ImageGateway.Proofs.Preset.Effect
import ImageGateway.Proofs.Request.Dialects
import ImageGateway.Proofs.Request.Written

/-! What the request headers can decide. A path is either refused with the same error under all
headers, or it names one source and has one effect on whatever options the headers ask for. Two
sets of headers are therefore told apart by four fields of the options at most. -/
namespace ImageGateway

namespace Options

/-- Options that two starts were changed into alike: they differ in what headers can ask for, and
their width and pixel ratio only as long as both are left as they were. -/
structure ChangedAlike (start₁ start₂ o₁ o₂ : Options) : Prop where
  same : o₂ =
    { o₁ with
      width := o₂.width
      dpr := o₂.dpr
      preferWebp := o₂.preferWebp
      enforceWebp := o₂.enforceWebp }
  width : o₁.width = o₂.width ∨ o₁.width = start₁.width ∧ o₂.width = start₂.width
  dpr : o₁.dpr = o₂.dpr ∨ o₁.dpr = start₁.dpr ∧ o₂.dpr = start₂.dpr

variable {start₁ start₂ o₁ o₂ : Options}

theorem ChangedAlike.edit (alike : ChangedAlike start₁ start₂ o₁ o₂) (e : Edit) :
    ChangedAlike start₁ start₂ (e.apply o₁) (e.apply o₂) := by
  obtain ⟨same, width, dpr⟩ := alike
  refine ⟨?same, ?width, ?dpr⟩
  case same =>
    -- For any values of the four fields, so that the cases on the edit close by computation: what
    -- relates the two options is only put in afterwards.
    have blind (w : UInt32) (d : Binary) (p f : Bool) :
        let o := { o₁ with width := w, dpr := d, preferWebp := p, enforceWebp := f }
        e.apply o =
          { e.apply o₁ with
            width := (e.apply o).width
            dpr := (e.apply o).dpr
            preferWebp := (e.apply o).preferWebp
            enforceWebp := (e.apply o).enforceWebp } := by
      cases e <;> rfl
    have replaced := blind o₂.width o₂.dpr o₂.preferWebp o₂.enforceWebp
    simp only [← same] at replaced
    exact replaced
  case width =>
    cases e with
    | width n => exact .inl rfl
    | _ => exact width
  case dpr =>
    cases e with
    | dpr x => exact .inl rfl
    | _ => exact dpr

theorem ChangedAlike.withUsed (alike : ChangedAlike start₁ start₂ o₁ o₂) (used : List String) :
    ChangedAlike start₁ start₂ (o₁.withUsed used) (o₂.withUsed used) :=
  ⟨congrArg (Options.withUsed · used) alike.same, alike.width, alike.dpr⟩

end Options

theorem Effect.changedAlike (e : Effect) {start₁ start₂ : Options}
    (apart : Options.ChangedAlike start₁ start₂ start₁ start₂) :
    Options.ChangedAlike start₁ start₂ (e.on start₁).state (e.on start₂).state := by
  obtain ⟨⟨edits, warnings, fault⟩, used⟩ := e
  have edited (edits : List Edit) {o₁ o₂ : Options}
      (alike : Options.ChangedAlike start₁ start₂ o₁ o₂) :
      Options.ChangedAlike start₁ start₂ (edits.foldl (fun o e => e.apply o) o₁)
        (edits.foldl (fun o e => e.apply o) o₂) := by
    induction edits generalizing o₁ o₂ with
    | nil => exact alike
    | cons e rest ih => exact ih (alike.edit e)
  exact (edited edits apart).withUsed used

namespace RequestParser

theorem start_changedAlike (p : RequestParser) (h₁ h₂ : Headers) :
    Options.ChangedAlike (p.start h₁) (p.start h₂) (p.start h₁) (p.start h₂) := by
  obtain ⟨width₁, dpr₁, -, started₁⟩ := p.start_eq h₁
  obtain ⟨width₂, dpr₂, -, started₂⟩ := p.start_eq h₂
  refine ⟨?_, .inr ⟨rfl, rfl⟩, .inr ⟨rfl, rfl⟩⟩
  rw [started₁, started₂]

/-- Options that have used no preset come to the same end, whatever they are: a fault, or one URL
and one effect. -/
theorem exists_effect_of_finish (p : RequestParser) (tasks : List Task) (source : List String) :
    (∃ fault, ∀ o : Options, o.usedPresets = [] →
        p.finish (Task.run p.context o tasks) source = .error fault) ∨
      ∃ url, ∃ e : Effect, ∀ o : Options, o.usedPresets = [] →
        p.finish (Task.run p.context o tasks) source = .ok ⟨url, (e.on o).state⟩ := by
  cases read : SourceUrl.decode source p.config.baseUrl with
  | error cause =>
    -- A fault of the options comes before that of the source.
    obtain ⟨e, fixed⟩ := Task.exists_effect_of_run p.context p.template tasks
    refine .inl ⟨e.reading.fault.getD cause, fun o fresh => ?_⟩
    have outcome := fixed o fresh
    have faulty : (Task.run p.context o tasks).fault = e.reading.fault :=
      congrArg Outcome.fault outcome
    cases fault : e.reading.fault with
    | some first =>
      simp only [finish, faulty, fault]
      rfl
    | none =>
      rw [finish_sound (faulty.trans fault), read]
      rfl
  | ok decoded =>
    obtain ⟨e, fixed⟩ := Task.exists_effect_of_run p.context p.template
      (tasks ++ Task.ofOptions (formatOption decoded.extension))
    have finished (o : Options) (fresh : o.usedPresets = []) :
        p.finish (Task.run p.context o tasks) source = requested decoded.url (e.on o) := by
      rw [finish_decoded read, ← fixed o fresh, Task.run_append]
      rfl
    have faulty (o : Options) : (e.on o).fault = e.reading.fault := rfl
    cases fault : e.reading.fault with
    | some first =>
      refine .inl ⟨first, fun o fresh => ?_⟩
      rw [finished o fresh, requested, faulty, fault]
    | none =>
      refine .inr ⟨decoded.url, e, fun o fresh => ?_⟩
      rw [finished o fresh, requested, faulty, fault]

/-- A path is refused under all headers for one reason, or it has one URL and one effect. -/
theorem exists_effect_of_parse (p : RequestParser) (path : String) :
    (∃ refusal, ∀ h, (p.parse path h).value = .error refusal) ∨
      ∃ url, ∃ e : Effect, ∀ h,
        (p.parse path h).value = .ok ⟨url, (e.on (p.start h)).state⟩ := by
  cases cut : segments path with
  | nil =>
    refine .inl ⟨.ofParseError (.invalidPath path), fun h => ?_⟩
    simp only [parse, read, cut]
  | cons signature others =>
    cases others with
    | nil =>
      refine .inl ⟨.ofParseError (.invalidPath path), fun h => ?_⟩
      simp only [parse, read, cut]
    | cons first rest =>
      cases authorized : p.authorize path signature with
      | error refusal =>
        exact .inl ⟨refusal, fun h => by rw [parse_of_segments cut, authorized]⟩
      | ok u =>
        have value (h : Headers) : (p.parse path h).value =
            (p.finish (p.readOptions h first rest).1 (p.readOptions h first rest).2).mapError
              .ofParseError := by
          rw [parse_of_segments cut, authorized]
          rfl
        cases asked : p.tasks? first rest with
        | none =>
          refine .inl ⟨.ofParseError (.fewSegments (first :: rest)), fun h => ?_⟩
          rw [value, readOptions_of_none asked]
          rfl
        | some found =>
          obtain ⟨tasks, source⟩ := found
          have run (h : Headers) := readOptions_of_tasks asked h
          rcases p.exists_effect_of_finish (p.defaultTasks ++ tasks) source with
            ⟨fault, refused⟩ | ⟨url, e, read⟩
          · refine .inl ⟨.ofParseError fault, fun h => ?_⟩
            rw [value, run, refused _ (p.usedPresets_start h)]
            rfl
          · refine .inr ⟨url, e, fun h => ?_⟩
            rw [value, run, read _ (p.usedPresets_start h)]
            rfl

/-- Headers never decide whether a path is read. Two sets of them lead to the same error, or to the
same source and to options that are changed alike from those that each of them asks for. -/
theorem parse_headers (p : RequestParser) (path : String) (h₁ h₂ : Headers) :
    (∃ refusal, (p.parse path h₁).value = .error refusal ∧
        (p.parse path h₂).value = .error refusal) ∨
      ∃ url o₁ o₂, (p.parse path h₁).value = .ok ⟨url, o₁⟩ ∧
        (p.parse path h₂).value = .ok ⟨url, o₂⟩ ∧
        Options.ChangedAlike (p.start h₁) (p.start h₂) o₁ o₂ := by
  rcases p.exists_effect_of_parse path with ⟨refusal, refused⟩ | ⟨url, e, read⟩
  · exact .inl ⟨refusal, refused h₁, refused h₂⟩
  · have alike := e.changedAlike (p.start_changedAlike h₁ h₂)
    exact .inr ⟨url, _, _, read h₁, read h₂, alike⟩

end RequestParser
end ImageGateway
