import Mathlib
import ImageGateway.Proofs.Preset.Acceptance
import ImageGateway.Proofs.Request.Stages
import ImageGateway.Service.Basic

/-! What a start promises for the requests after it. The presets of a running service were tried
out, so that neither the defaults nor presets named by a request can fail. -/
namespace ImageGateway

namespace RequestParser

variable {p : RequestParser}

/-- The source cannot be decoded, or its extension is no format that can be saved. -/
def RefusesSource (p : RequestParser) (source : List String) (e : ParseError) : Prop :=
  SourceUrl.decode source p.config.baseUrl = .error e ∨
    ∃ url extension, SourceUrl.decode source p.config.baseUrl = .ok ⟨url, some extension⟩ ∧
      (Setting.readFormat p.canSave extension).fault = some e

theorem defaults_of_sound (sound : p.context.Sound) (h : Headers) :
    (p.defaults h).fault = none := by
  rw [defaults, Options.defaults]
  split
  next present =>
    obtain ⟨options, found⟩ := Option.isSome_iff_exists.mp present
    refine Context.expand_of_sound sound _ fun name member => ?_
    rw [List.mem_singleton.mp member]
    exact PresetTable.mem_names_of_get? found
  next => rfl

theorem presetDialect_of_sound (sound : p.context.Sound) (h : Headers) {listed : String}
    (known : ∀ name ∈ Text.split ':' listed, name ∈ p.config.presets.names) :
    (p.presetDialect h listed).fault = none := by
  rw [presetDialect, Outcome.fault_andThen]
  exact ⟨defaults_of_sound sound h, Context.expand_of_sound sound _ known⟩

theorem finish_error {options : Outcome Options} {source : List String} {e : ParseError}
    (sound : options.fault = none) (refused : p.finish options source = .error e) :
    p.RefusesSource source e := by
  rw [finish_sound sound] at refused
  cases decoded : SourceUrl.decode source p.config.baseUrl with
  | error cause =>
    simp only [decoded] at refused
    obtain rfl := Except.error.inj refused
    exact .inl decoded
  | ok found =>
    obtain ⟨url, extension⟩ := found
    simp only [decoded] at refused
    split at refused
    next cause fault =>
      obtain rfl := Except.error.inj refused
      cases extension with
      | none => contradiction
      | some extension => exact .inr ⟨url, extension, decoded, fault⟩
    next => contradiction

/-- When only presets are allowed, known ones leave nothing but the source to refuse. -/
theorem presets_error (sound : p.context.Sound) (only : p.config.onlyPresets = true) (h : Headers)
    {listed : String} {source : List String} {e : RequestError}
    (known : ∀ name ∈ Text.split ':' listed, name ∈ p.config.presets.names)
    (refused : (p.accepted h listed source).value = .error e) :
    ∃ cause, e = .ofParseError cause ∧ p.RefusesSource source cause := by
  have options := presetDialect_of_sound sound h known
  have dialect : p.readOptions h listed source = (p.presetDialect h listed, source) := by
    rw [readOptions, if_pos only]
  rw [accepted, dialect] at refused
  cases finished : p.finish (p.presetDialect h listed) source with
  | error cause =>
    simp only [finished] at refused
    exact ⟨cause, (Except.error.inj refused).symm, finish_error options finished⟩
  | ok request =>
    simp only [finished] at refused
    contradiction

end RequestParser

namespace Service

theorem start_ok {c : Config} {s : Service} (started : (start c).value = .ok s) :
    s.parser = .ofConfig c ∧ (s.parser.context.validatePresets c.quality).2 = .ok () := by
  unfold start at started
  split at started
  next => contradiction
  next =>
    simp only at started
    split at started
    next => contradiction
    next valid =>
      obtain rfl := Except.ok.inj started
      exact ⟨rfl, valid⟩

/-- Once presets are validated, table names expand without a fault on any options. In a running
service the defaults then have no fault, and a path that only names presets of the table is refused
for its signature or its source, and for nothing else. -/
theorem validated_presets_expand :
    (∀ (ctx : Context) (quality : UInt8), (ctx.validatePresets quality).2 = .ok () →
      ∀ (o : Options) (names : List String), (∀ name ∈ names, name ∈ ctx.presets.names) →
        (o.expand ctx names).fault = none) ∧
    ∀ (c : Config) (s : Service), (start c).value = .ok s →
      (∀ h : Headers, (s.parser.defaults h).fault = none) ∧
      (c.onlyPresets = true →
        ∀ (path signature listed : String) (source : List String) (h : Headers) (e : RequestError),
          RequestParser.segments path = signature :: listed :: source →
          (∀ name ∈ Text.split ':' listed, name ∈ c.presets.names) →
          (s.parser.parse path h).value = .error e →
            s.parser.authorize path signature = .error e ∨
            ∃ cause, e = .ofParseError cause ∧ s.parser.RefusesSource source cause) := by
  refine ⟨fun ctx quality valid o names known => ?_, fun c s started => ?_⟩
  · exact Context.expand_of_sound (Context.sound_of_validatePresets valid) o known
  · obtain ⟨made, valid⟩ := start_ok started
    have sound := Context.sound_of_validatePresets valid
    refine ⟨RequestParser.defaults_of_sound sound, ?_⟩
    intro only path signature listed source h e cut known refused
    rw [RequestParser.parse_of_segments cut] at refused
    cases authorized : s.parser.authorize path signature with
    | error reason =>
      simp only [authorized] at refused
      obtain rfl := Except.error.inj refused
      exact .inl rfl
    | ok u =>
      simp only [authorized] at refused
      exact .inr (RequestParser.presets_error sound (made ▸ only) h (made ▸ known) refused)

/-- Two presets that name each other are validated, and expand where one of them is used. -/
theorem validated_presets_expand_cycle :
    let table : PresetTable := ⟨[⟨"default", [⟨"w", ["1"]⟩, ⟨"pr", ["b"]⟩]⟩,
      ⟨"b", [⟨"pr", ["default", "b"]⟩, ⟨"h", ["2"]⟩]⟩], by decide⟩
    let ctx : Context := ⟨table, ImageType.canEncode⟩
    let o : Options := { Options.baseline 1 with usedPresets := ["default", "c"] }
    let c : Config := { presets := table, onlyPresets := true, allowInsecure := true }
    let s : Service := ⟨.ofConfig c⟩
    (ctx.validatePresets 80).2 = .ok () ∧
      (∀ name ∈ ["b", "default", "b"], name ∈ ctx.presets.names) ∧
      (o.expand ctx ["b", "default", "b"]).fault = none ∧
      (start c).value = .ok s ∧ (s.parser.defaults { accept := "image/webp" }).fault = none ∧
      c.onlyPresets = true ∧ RequestParser.segments "/s/b:default" = ["s", "b:default"] ∧
      (∀ name ∈ Text.split ':' "b:default", name ∈ c.presets.names) ∧
      (s.parser.parse "/s/b:default" {}).value = .error (.ofParseError .missingUrl) ∧
      (s.parser.authorize "/s/b:default" "s" = .error (.ofParseError .missingUrl) ∨
        ∃ cause, RequestError.ofParseError .missingUrl = .ofParseError cause ∧
          s.parser.RefusesSource [] cause) := by
  intro table ctx o c s
  have valid : (ctx.validatePresets 80).2 = .ok () := by cbv
  have known : ∀ name ∈ ["b", "default", "b"], name ∈ ctx.presets.names := by decide
  have started : (start c).value = .ok s := by cbv
  have cut : RequestParser.segments "/s/b:default" = ["s", "b:default"] := by cbv
  have names : Text.split ':' "b:default" = ["b", "default"] := by cbv
  have listed : ∀ name ∈ Text.split ':' "b:default", name ∈ c.presets.names := by
    rw [names]
    decide
  have refused : (s.parser.parse "/s/b:default" {}).value = .error (.ofParseError .missingUrl) := by
    have dialect : (s.parser.presetDialect {} "b:default").fault = none := by cbv
    rw [RequestParser.parse_of_segments cut]
    change (s.parser.finish (s.parser.presetDialect {} "b:default") []).mapError
      RequestError.ofParseError = _
    rw [RequestParser.finish_sound dialect]
    rfl
  obtain ⟨expands, serves⟩ := validated_presets_expand
  obtain ⟨defaults, refusals⟩ := serves c s started
  exact ⟨valid, known, expands ctx 80 valid o _ known, started, defaults _, rfl, cut, listed,
    refused, refusals rfl _ _ _ _ _ _ cut listed refused⟩

end Service
end ImageGateway
