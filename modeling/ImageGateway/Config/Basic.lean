import ImageGateway.Codec.Hex
import ImageGateway.Preset.Table

/-! The configuration of the service, and what must hold of it before the service starts. -/
namespace ImageGateway

structure Config where
  serverPort : UInt16 := 8080
  environment : String := "development"
  /-- Every decoded source URL is put after this text. -/
  baseUrl : String := ""
  quality : UInt8 := 80
  presets : PresetTable := .empty
  /-- Signatures are not checked. -/
  allowInsecure : Bool := false
  /-- Request paths name presets only. -/
  onlyPresets : Bool := false
  enableClientHints : Bool := false
  enableWebpDetection : Bool := false
  enforceWebp : Bool := false
  key : List UInt8 := []
  salt : List UInt8 := []
  /-- The number of bytes that signatures keep. -/
  signatureSize : Nat := 32
  maxClients : Nat := 1024

inductive ConfigError where
  | presets (e : PresetError)
  | portSyntax
  | qualitySyntax
  | signatureSizeSyntax
  | maxClientsSyntax
  | hexSyntax (variableName : String) (fault : Hex.Fault)
  | qualityRange (quality : UInt8)
  | signatureSizeRange (size : Nat)
  | noClients
  | noSecrets
  deriving DecidableEq, Repr

def ConfigError.message : ConfigError → String
  | .presets e => e.message
  | .portSyntax => "PORT must be a valid number"
  | .qualitySyntax => "IMGRELAY_QUALITY must be a number between 1 and 100"
  | .signatureSizeSyntax => "IMGRELAY_SIGNATURE_SIZE must be a valid number"
  | .maxClientsSyntax => "IMGRELAY_MAX_CLIENTS must be a valid number"
  | .hexSyntax variableName fault => variableName ++ " must be hex-encoded: " ++ fault.message
  | .qualityRange quality =>
    "IMGRELAY_QUALITY must be between 1 and 100, got " ++ toString quality.toNat
  | .signatureSizeRange size =>
    "IMGRELAY_SIGNATURE_SIZE must be between 1 and 32, got " ++ toString size
  | .noClients => "IMGRELAY_MAX_CLIENTS must be greater than 0"
  | .noSecrets => "IMGRELAY_KEY and IMGRELAY_SALT must be set unless IMGRELAY_ALLOW_INSECURE=true"

namespace Config

/-- Letter case does not count. Outside ASCII no letter has one of these letters as its lower
case. -/
def isProduction (c : Config) : Bool :=
  let environment := Text.lowerAscii c.environment
  environment = "production" || environment = "prod"

/-- The first condition that does not hold is the error. -/
def validate (c : Config) : Except ConfigError Unit :=
  if ¬(1 ≤ c.quality ∧ c.quality ≤ 100) then .error (.qualityRange c.quality)
  else if ¬(1 ≤ c.signatureSize ∧ c.signatureSize ≤ 32) then
    .error (.signatureSizeRange c.signatureSize)
  else if c.maxClients = 0 then .error .noClients
  else if !c.allowInsecure && (c.key.isEmpty || c.salt.isEmpty) then .error .noSecrets
  else .ok ()

end Config
end ImageGateway
