import ImageGateway.Codec.Utf8
import ImageGateway.Config.Basic
import ImageGateway.Text.Numeral

/-! The configuration read from environment variables. A variable holds bytes; one that is not
UTF-8 counts as unset. -/
namespace ImageGateway

/-- The bytes of each variable that is set. -/
abbrev Environment := String → Option (List UInt8)

namespace Environment

def text? (env : Environment) (name : String) : Option String := (env name).bind Utf8.decode?

def number (env : Environment) (name : String) (bits default : Nat) (e : ConfigError) :
    Except ConfigError Nat :=
  match env.text? name with
  | none => .ok default
  | some text =>
    match Numeral.unsigned bits text with
    | some n => .ok n
    | none => .error e

/-- On only for the word `true`, in any letter case. -/
def flag (env : Environment) (name : String) : Bool :=
  match env.text? name with
  | none => false
  | some text => Text.lowerAscii text = "true"

/-- The bytes written in hexadecimal; unset or empty, there are none. -/
def hex (env : Environment) (name : String) : Except ConfigError (List UInt8) :=
  match env.text? name with
  | none => .ok []
  | some text =>
    if text.isEmpty then .ok []
    else (Hex.decode (Utf8.encode (Text.trim text))).mapError (.hexSyntax name)

def presets (env : Environment) : Except ConfigError PresetTable :=
  match env.text? "IMGRELAY_PRESETS" with
  | none => .ok .empty
  | some text => (PresetTable.parse (Text.split ',' text)).mapError .presets

/-- Read in this order, so that of two faults the earlier one is reported. -/
def unchecked (env : Environment) : Except ConfigError Config := do
  let presets ← env.presets
  let port ← env.number "PORT" 16 8080 .portSyntax
  let quality ← env.number "IMGRELAY_QUALITY" 8 80 .qualitySyntax
  let key ← env.hex "IMGRELAY_KEY"
  let salt ← env.hex "IMGRELAY_SALT"
  let signatureSize ← env.number "IMGRELAY_SIGNATURE_SIZE" 64 32 .signatureSizeSyntax
  let maxClients ← env.number "IMGRELAY_MAX_CLIENTS" 64 1024 .maxClientsSyntax
  return {
    serverPort := UInt16.ofNat port
    environment :=
      ((env.text? "ENVIRONMENT").or (env.text? "APP_ENV")).getD "development"
    baseUrl := (env.text? "IMGRELAY_BASE_URL").getD ""
    quality := UInt8.ofNat quality
    presets, key, salt, signatureSize, maxClients
    allowInsecure := env.flag "IMGRELAY_ALLOW_INSECURE"
    onlyPresets := env.flag "IMGRELAY_ONLY_PRESETS"
    enableClientHints := env.flag "IMGRELAY_ENABLE_CLIENT_HINTS"
    enableWebpDetection := env.flag "IMGRELAY_ENABLE_WEBP_DETECTION"
    enforceWebp := env.flag "IMGRELAY_ENFORCE_WEBP" }

end Environment

def Config.fromEnvironment (env : Environment) : Except ConfigError Config := do
  let config ← env.unchecked
  config.validate
  return config

end ImageGateway
