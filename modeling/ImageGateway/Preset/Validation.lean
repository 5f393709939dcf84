import ImageGateway.Preset.Expansion

/-! Presets are tried out once, each on fresh options, so that one that cannot be applied is found
before the first request names it. -/
namespace ImageGateway

structure InvalidPreset where
  name : String
  error : ParseError
  deriving DecidableEq, Repr

def InvalidPreset.message (p : InvalidPreset) : String :=
  "Invalid preset '" ++ p.name ++ "': " ++ p.error.detail

namespace Context

def tryPresets (ctx : Context) (quality : UInt8) :
    List String → List Warning × Except InvalidPreset Unit
  | [] => ([], .ok ())
  | name :: rest =>
    let outcome := (Options.baseline quality).expand ctx [name]
    match outcome.fault with
    | some e => (outcome.warnings, .error ⟨name, e⟩)
    | none =>
      let (warnings, result) := tryPresets ctx quality rest
      (outcome.warnings ++ warnings, result)

def validatePresets (ctx : Context) (quality : UInt8) :
    List Warning × Except InvalidPreset Unit :=
  ctx.tryPresets quality ctx.presets.names

end Context
end ImageGateway
