import ImageGateway.Config.Environment
import ImageGateway.Proofs.Codec.Hex
import ImageGateway.Proofs.Request.Stages
import ImageGateway.Service.Basic

/-! What an environment configures. Each variable gives the meaning of its text, or a default when
it holds no text; a configuration is read exactly when every text means something, and it is
accepted exactly when it is within bounds and has its secrets. -/
namespace ImageGateway

theorem bind_eq_ok_iff {ε α β : Type} {x : Except ε α} {f : α → Except ε β} {b : β} :
    (x >>= f) = .ok b ↔ ∃ a, x = .ok a ∧ f a = .ok b := by
  cases x with
  | error e => simp [bind, Except.bind]
  | ok a => simp [bind, Except.bind]

theorem mapError_eq_ok_iff {ε δ α : Type} {x : Except ε α} {f : ε → δ} {a : α} :
    x.mapError f = .ok a ↔ x = .ok a := by
  cases x with
  | error e => exact iff_of_false nofun nofun
  | ok b =>
    exact ⟨fun same => congrArg _ (Except.ok.inj same), fun same => congrArg _ (Except.ok.inj same)⟩

theorem ite_error_eq_ok_iff {ε α : Type} {refused : Prop} [Decidable refused] {e : ε}
    {x : Except ε α} {a : α} :
    (if refused then .error e else x) = .ok a ↔ ¬refused ∧ x = .ok a := by
  by_cases h : refused <;> simp [h]

namespace Environment

def Holds (env : Environment) (name text : String) : Prop := env name = some (Utf8.encode text)

/-- What a variable gives: what its text means, or a default when it holds no text. -/
inductive Gives {α : Type} (env : Environment) (name : String) (default : α)
    (means : String → α → Prop) : α → Prop
  | set {text : String} {a : α} (held : env.Holds name text) (meant : means text a) :
      Gives env name default means a
  | unset (free : ∀ text, ¬env.Holds name text) : Gives env name default means default

def Number (bits : Nat) (text : String) (n : Nat) : Prop := Numeral.unsigned bits text = some n

/-- Flags are on for one word, in any letter case. -/
def Flag (text : String) (on : Bool) : Prop := on = true ↔ Text.lowerAscii text = "true"

/-- Secrets are written in hexadecimal, in any letter case and with blanks around them. -/
def Secret (text : String) (bytes : List UInt8) : Prop :=
  Text.lowerAscii (Text.trim text) = Hex.encode bytes

instance (text : String) (on : Bool) : Decidable (Flag text on) :=
  inferInstanceAs (Decidable (_ ↔ _))

instance (text : String) (bytes : List UInt8) : Decidable (Secret text bytes) :=
  inferInstanceAs (Decidable (_ = _))

def Presets (text : String) (table : PresetTable) : Prop :=
  PresetTable.parse (Text.split ',' text) = .ok table

/-- Every setting is what its variable gives. -/
structure Describes (env : Environment) (c : Config) : Prop where
  serverPort : env.Gives "PORT" 8080 (Number 16) c.serverPort.toNat
  environment : ∃ fallback, env.Gives "APP_ENV" "development" Eq fallback ∧
    env.Gives "ENVIRONMENT" fallback Eq c.environment
  baseUrl : env.Gives "IMGRELAY_BASE_URL" "" Eq c.baseUrl
  quality : env.Gives "IMGRELAY_QUALITY" 80 (Number 8) c.quality.toNat
  presets : env.Gives "IMGRELAY_PRESETS" .empty Presets c.presets
  allowInsecure : env.Gives "IMGRELAY_ALLOW_INSECURE" false Flag c.allowInsecure
  onlyPresets : env.Gives "IMGRELAY_ONLY_PRESETS" false Flag c.onlyPresets
  enableClientHints : env.Gives "IMGRELAY_ENABLE_CLIENT_HINTS" false Flag c.enableClientHints
  enableWebpDetection : env.Gives "IMGRELAY_ENABLE_WEBP_DETECTION" false Flag c.enableWebpDetection
  enforceWebp : env.Gives "IMGRELAY_ENFORCE_WEBP" false Flag c.enforceWebp
  key : env.Gives "IMGRELAY_KEY" [] Secret c.key
  salt : env.Gives "IMGRELAY_SALT" [] Secret c.salt
  signatureSize : env.Gives "IMGRELAY_SIGNATURE_SIZE" 32 (Number 64) c.signatureSize
  maxClients : env.Gives "IMGRELAY_MAX_CLIENTS" 1024 (Number 64) c.maxClients

/-- Every text that has to be read means something. -/
structure Legible (env : Environment) : Prop where
  presets : ∀ text, env.Holds "IMGRELAY_PRESETS" text → ∃ table, Presets text table
  numbers : ∀ v ∈ [("PORT", 16), ("IMGRELAY_QUALITY", 8), ("IMGRELAY_SIGNATURE_SIZE", 64),
    ("IMGRELAY_MAX_CLIENTS", 64)], ∀ text, env.Holds v.1 text → ∃ n, Number v.2 text n
  secrets : ∀ name ∈ ["IMGRELAY_KEY", "IMGRELAY_SALT"],
    ∀ text, env.Holds name text → ∃ bytes, Secret text bytes

variable {env : Environment} {name : String} {c : Config}

theorem text?_eq_some_iff {text : String} : env.text? name = some text ↔ env.Holds name text := by
  simp only [text?, Option.bind_eq_some_iff, Utf8.decode?_eq_some_iff, exists_eq_right, Holds]

theorem Holds.unique {text other : String} (first : env.Holds name text)
    (second : env.Holds name other) : text = other :=
  Option.some.inj ((text?_eq_some_iff.mpr first).symm.trans (text?_eq_some_iff.mpr second))

theorem Gives.meant {α : Type} {default a : α} {means : String → α → Prop} {text : String}
    (given : env.Gives name default means a) (held : env.Holds name text) : means text a := by
  cases given with
  | set other meant => exact held.unique other ▸ meant
  | unset free => exact absurd held (free text)

theorem gives_iff {α : Type} {default a : α} {means : String → α → Prop} :
    env.Gives name default means a ↔
      match env.text? name with
      | none => a = default
      | some text => means text a := by
  cases held : env.text? name with
  | none =>
    have free (text : String) : ¬env.Holds name text := fun some => by
      rw [text?_eq_some_iff.mpr some] at held
      contradiction
    constructor
    · rintro (⟨some, -⟩ | -)
      · exact absurd some (free _)
      · rfl
    · rintro rfl
      exact .unset free
  | some text =>
    have holds := text?_eq_some_iff.mp held
    exact ⟨fun given => given.meant holds, .set holds⟩

theorem number_ok {bits default n : Nat} {e : ConfigError} :
    env.number name bits default e = .ok n ↔ env.Gives name default (Number bits) n := by
  rw [number, gives_iff]
  cases env.text? name with
  | none => simp [eq_comm]
  | some text =>
    simp only [Number]
    cases Numeral.unsigned bits text <;> simp

theorem flag_eq_iff {on : Bool} : env.flag name = on ↔ env.Gives name false Flag on := by
  rw [flag, gives_iff]
  cases env.text? name with
  | none => exact eq_comm
  | some text => cases on <;> simp [Flag]

/-- An empty text is read as one without digits would be. -/
theorem hex_ok {bytes : List UInt8} :
    env.hex name = .ok bytes ↔ env.Gives name [] Secret bytes := by
  rw [hex, gives_iff]
  cases env.text? name with
  | none => simp [eq_comm]
  | some text =>
    simp only [Secret]
    by_cases empty : text.isEmpty = true
    · obtain rfl := String.isEmpty_iff.mp empty
      have blank : Hex.decode (Utf8.encode (Text.trim "")) = .ok [] :=
        Hex.decode_encode_ok.mpr (by decide +kernel)
      rw [if_pos empty, ← Hex.decode_encode_ok, blank, Except.ok.injEq, Except.ok.injEq]
    · rw [if_neg empty, mapError_eq_ok_iff, Hex.decode_encode_ok]

theorem presets_ok {table : PresetTable} :
    env.presets = .ok table ↔ env.Gives "IMGRELAY_PRESETS" .empty Presets table := by
  rw [presets, gives_iff]
  cases env.text? "IMGRELAY_PRESETS" with
  | none => simp [eq_comm]
  | some text => exact mapError_eq_ok_iff

theorem Gives.number_lt {bits default n : Nat} (given : env.Gives name default (Number bits) n)
    (fits : default < 1 <<< bits) : n < 1 <<< bits := by
  cases given with
  | set held meant => exact Numeral.unsigned_lt meant
  | unset free => exact fits

theorem environment_ok {environment : String} :
    ((env.text? "ENVIRONMENT").or (env.text? "APP_ENV")).getD "development" = environment ↔
      ∃ fallback, env.Gives "APP_ENV" "development" Eq fallback ∧
        env.Gives "ENVIRONMENT" fallback Eq environment := by
  simp only [gives_iff]
  cases env.text? "ENVIRONMENT" with
  | some text => cases env.text? "APP_ENV" <;> simp
  | none => cases env.text? "APP_ENV" <;> simp [eq_comm]

theorem baseUrl_ok {url : String} :
    (env.text? "IMGRELAY_BASE_URL").getD "" = url ↔ env.Gives "IMGRELAY_BASE_URL" "" Eq url := by
  rw [gives_iff]
  cases env.text? "IMGRELAY_BASE_URL" with
  | none => exact eq_comm
  | some text => exact Iff.rfl

/-- The configuration that is read is the one that the environment describes. -/
theorem unchecked_ok : env.unchecked = .ok c ↔ env.Describes c := by
  simp only [unchecked, bind_eq_ok_iff, presets_ok, number_ok, hex_ok]
  constructor
  · rintro ⟨presets, listed, port, served, quality, encoded, key, secret, salt, salted, size, sized,
      clients, limited, same⟩
    obtain rfl := Except.ok.inj same
    -- The port and the quality are stored in a narrower type than they are read in.
    have portFits := served.number_lt (by decide)
    have qualityFits := encoded.number_lt (by decide)
    exact {
      serverPort := by rwa [UInt16.toNat_ofNat_of_lt' portFits]
      environment := environment_ok.mp rfl
      baseUrl := baseUrl_ok.mp rfl
      quality := by rwa [UInt8.toNat_ofNat_of_lt' qualityFits]
      presets := listed
      allowInsecure := flag_eq_iff.mp rfl
      onlyPresets := flag_eq_iff.mp rfl
      enableClientHints := flag_eq_iff.mp rfl
      enableWebpDetection := flag_eq_iff.mp rfl
      enforceWebp := flag_eq_iff.mp rfl
      key := secret
      salt := salted
      signatureSize := sized
      maxClients := limited }
  · intro described
    refine ⟨_, described.presets, _, described.serverPort, _, described.quality, _, described.key,
      _, described.salt, _, described.signatureSize, _, described.maxClients, ?_⟩
    rw [environment_ok.mpr described.environment, baseUrl_ok.mpr described.baseUrl,
      flag_eq_iff.mpr described.allowInsecure, flag_eq_iff.mpr described.onlyPresets,
      flag_eq_iff.mpr described.enableClientHints, flag_eq_iff.mpr described.enableWebpDetection,
      flag_eq_iff.mpr described.enforceWebp, UInt16.ofNat_toNat, UInt8.ofNat_toNat]
    rfl

theorem exists_gives {α : Type} {default : α} {means : String → α → Prop} :
    (∃ a, env.Gives name default means a) ↔ ∀ text, env.Holds name text → ∃ a, means text a := by
  simp only [gives_iff, ← text?_eq_some_iff]
  cases env.text? name with
  | none => simp
  | some text => simp

theorem legible_iff : env.Legible ↔ ∃ c, env.Describes c := by
  constructor
  · rintro ⟨presets, numbers, secrets⟩
    simp only [List.forall_mem_cons] at numbers secrets
    obtain ⟨port, quality, size, clients, -⟩ := numbers
    obtain ⟨key, salt, -⟩ := secrets
    obtain ⟨table, listed⟩ := exists_gives.mpr presets
    obtain ⟨port, served⟩ := exists_gives.mpr port
    obtain ⟨quality, encoded⟩ := exists_gives.mpr quality
    obtain ⟨size, sized⟩ := exists_gives.mpr size
    obtain ⟨clients, limited⟩ := exists_gives.mpr clients
    obtain ⟨key, secret⟩ := exists_gives.mpr key
    obtain ⟨salt, salted⟩ := exists_gives.mpr salt
    simp only [← unchecked_ok, unchecked, bind_eq_ok_iff, presets_ok, number_ok, hex_ok]
    exact ⟨_, table, listed, port, served, quality, encoded, key, secret, salt, salted, size, sized,
      clients, limited, rfl⟩
  · rintro ⟨c, described⟩
    refine ⟨exists_gives.mp ⟨_, described.presets⟩, ?numbers, ?secrets⟩
    case numbers =>
      simp only [List.forall_mem_cons]
      exact ⟨exists_gives.mp ⟨_, described.serverPort⟩, exists_gives.mp ⟨_, described.quality⟩,
        exists_gives.mp ⟨_, described.signatureSize⟩, exists_gives.mp ⟨_, described.maxClients⟩,
        by simp⟩
    case secrets =>
      simp only [List.forall_mem_cons]
      exact ⟨exists_gives.mp ⟨_, described.key⟩, exists_gives.mp ⟨_, described.salt⟩, by simp⟩

theorem Describes.unique {d : Config} (first : env.Describes c) (second : env.Describes d) :
    c = d :=
  Except.ok.inj ((unchecked_ok.mpr first).symm.trans (unchecked_ok.mpr second))

/-- Signatures are off only for the one word. -/
theorem Describes.allowInsecure_iff (described : env.Describes c) :
    c.allowInsecure = true ↔
      ∃ text, env.Holds "IMGRELAY_ALLOW_INSECURE" text ∧ Text.lowerAscii text = "true" := by
  rw [← flag_eq_iff.mpr described.allowInsecure, flag]
  simp only [← text?_eq_some_iff]
  cases env.text? "IMGRELAY_ALLOW_INSECURE" with
  | none => simp
  | some text => simp

end Environment

namespace Config

/-- Within bounds, and with secrets unless signatures do not count. -/
structure Startable (c : Config) : Prop where
  quality : 1 ≤ c.quality ∧ c.quality ≤ 100
  signatureSize : 1 ≤ c.signatureSize ∧ c.signatureSize ≤ 32
  maxClients : 1 ≤ c.maxClients
  secrets : c.allowInsecure = true ∨ c.key ≠ [] ∧ c.salt ≠ []

theorem validate_ok {c : Config} : c.validate = .ok () ↔ c.Startable := by
  have secrets : (!c.allowInsecure && (c.key.isEmpty || c.salt.isEmpty)) = true ↔
      ¬(c.allowInsecure = true ∨ c.key ≠ [] ∧ c.salt ≠ []) := by
    cases c.allowInsecure <;> cases c.key <;> cases c.salt <;> simp
  simp only [validate, ite_error_eq_ok_iff, Decidable.not_not, secrets]
  constructor
  · rintro ⟨quality, size, clients, kept, -⟩
    exact ⟨quality, size, Nat.pos_of_ne_zero clients, kept⟩
  · rintro ⟨quality, size, clients, kept⟩
    exact ⟨quality, size, Nat.ne_of_gt clients, kept, trivial⟩

theorem fromEnvironment_ok {env : Environment} {c : Config} :
    fromEnvironment env = .ok c ↔ env.Describes c ∧ c.Startable := by
  simp only [fromEnvironment, bind_eq_ok_iff, Environment.unchecked_ok]
  constructor
  · rintro ⟨read, described, u, valid, same⟩
    obtain rfl := Except.ok.inj same
    exact ⟨described, validate_ok.mp valid⟩
  · rintro ⟨described, startable⟩
    exact ⟨c, described, (), validate_ok.mpr startable, rfl⟩

end Config

namespace RequestParser

theorem authorize_ofConfig {c : Config} (secure : c.allowInsecure = false)
    {path signature : String} (authorized : (ofConfig c).authorize path signature = .ok ()) :
    (Signer.ofConfig c).check signature ((Text.after? ("/" ++ signature) path).getD path) =
      .ok () := by
  simpa [authorize, ofConfig, secure, Signer.pathCheck, mapError_eq_ok_iff] using authorized

end RequestParser

namespace Config

/-- A configuration is accepted exactly when the environment is legible and what it describes can
start. Signatures are off only for the one word; in every other case, whatever is unset, blank or
misspelt, there are secrets, and no path is read whose signature the signer with these secrets does
not accept. -/
theorem fromEnvironment_fails_closed (env : Environment) :
    (∀ c, fromEnvironment env = .ok c ↔ env.Describes c ∧ c.Startable) ∧
      ((∃ c, fromEnvironment env = .ok c) ↔ env.Legible ∧ ∀ c, env.Describes c → c.Startable) ∧
      ∀ c, fromEnvironment env = .ok c →
        (c.allowInsecure = true ↔
          ∃ text, env.Holds "IMGRELAY_ALLOW_INSECURE" text ∧ Text.lowerAscii text = "true") ∧
        ((¬∃ text, env.Holds "IMGRELAY_ALLOW_INSECURE" text ∧ Text.lowerAscii text = "true") →
          c.key ≠ [] ∧ c.salt ≠ [] ∧
          ∀ path h request, ((RequestParser.ofConfig c).parse path h).value = .ok request →
            ∃ signature segments, RequestParser.segments path = signature :: segments ∧
              (Signer.ofConfig c).check signature
                ((Text.after? ("/" ++ signature) path).getD path) = .ok ()) := by
  refine ⟨fun c => fromEnvironment_ok, ?accepted, fun c read => ?closed⟩
  case accepted =>
    simp only [fromEnvironment_ok, Environment.legible_iff]
    constructor
    · rintro ⟨c, described, startable⟩
      exact ⟨⟨c, described⟩, fun d other => described.unique other ▸ startable⟩
    · rintro ⟨⟨c, described⟩, startable⟩
      exact ⟨c, described, startable c described⟩
  case closed =>
    obtain ⟨described, startable⟩ := fromEnvironment_ok.mp read
    refine ⟨described.allowInsecure_iff, fun unsaid => ?_⟩
    rw [← described.allowInsecure_iff] at unsaid
    have secure := Bool.eq_false_iff.mpr unsaid
    obtain ⟨key, salt⟩ := startable.secrets.resolve_left unsaid
    refine ⟨key, salt, fun path h request parsed => ?_⟩
    obtain ⟨signature, first, rest, cut, authorized, -⟩ := RequestParser.parse_ok parsed
    exact ⟨signature, first :: rest, cut, RequestParser.authorize_ofConfig secure authorized⟩

/-- A blank in front of the word leaves signatures on, and a blank secret is then none. -/
theorem fromEnvironment_fails_closed_blank :
    let env (salt : String) : Environment := fun name =>
      (List.lookup name [("IMGRELAY_KEY", "6B"), ("IMGRELAY_SALT", salt),
        ("IMGRELAY_ALLOW_INSECURE", " true")]).map Utf8.encode
    let c : Config := { key := [0x6B], salt := [0x73] }
    fromEnvironment (env " 73 ") = .ok c ∧ c.allowInsecure = false ∧ c.key ≠ [] ∧ c.salt ≠ [] ∧
      ∀ d, fromEnvironment (env " ") ≠ .ok d := by
  intro env c
  have described : (env " 73 ").Describes c := {
    serverPort := .unset fun _ => nofun
    environment := ⟨_, .unset fun _ => nofun, .unset fun _ => nofun⟩
    baseUrl := .unset fun _ => nofun
    quality := .unset fun _ => nofun
    presets := .unset fun _ => nofun
    allowInsecure := .set rfl (by decide +kernel)
    onlyPresets := .unset fun _ => nofun
    enableClientHints := .unset fun _ => nofun
    enableWebpDetection := .unset fun _ => nofun
    enforceWebp := .unset fun _ => nofun
    key := .set rfl (by decide +kernel)
    salt := .set rfl (by decide +kernel)
    signatureSize := .unset fun _ => nofun
    maxClients := .unset fun _ => nofun }
  have unsaid {salt : String} : ¬∃ text, (env salt).Holds "IMGRELAY_ALLOW_INSECURE" text ∧
      Text.lowerAscii text = "true" := by
    rintro ⟨text, held, lower⟩
    obtain rfl : text = " true" := held.unique rfl
    exact absurd lower (by decide +kernel)
  obtain ⟨accepted, -, closed⟩ := fromEnvironment_fails_closed (env " 73 ")
  have started := (accepted c).mpr ⟨described, by decide, by decide, by decide, .inr (by decide)⟩
  obtain ⟨flag, secure⟩ := closed c started
  obtain ⟨key, salt, -⟩ := secure unsaid
  refine ⟨started, Bool.eq_false_iff.mpr (mt flag.mp unsaid), key, salt, fun d blank => ?_⟩
  obtain ⟨accepted, -, closed⟩ := fromEnvironment_fails_closed (env " ")
  obtain ⟨-, salt, -⟩ := (closed d blank).2 unsaid
  have meant : Environment.Secret " " d.salt := ((accepted d).mp blank).1.salt.meant rfl
  have none : Hex.decode (Utf8.encode (Text.trim " ")) = .ok [] :=
    Hex.decode_encode_ok.mpr (by decide +kernel)
  exact salt (Except.ok.inj ((Hex.decode_encode_ok.mpr meant).symm.trans none))

end Config
end ImageGateway
