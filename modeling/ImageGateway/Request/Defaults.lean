import ImageGateway.Config.Basic
import ImageGateway.Preset.Expansion

/-! The options that a request starts from: the baseline, what the request headers ask for, and
the preset named `default`. -/
namespace ImageGateway

/-- The headers that influence the defaults; an absent one is empty. -/
structure Headers where
  accept : String := ""
  width : String := ""
  viewportWidth : String := ""
  dpr : String := ""
  deriving DecidableEq, Repr

namespace Headers

def acceptsWebp (h : Headers) : Bool := Text.includes "image/webp" h.accept

def widthHint (text : String) : List Edit :=
  match Numeral.unsigned 32 text with
  | some n => [.width (.ofNat n)]
  | none => []

def dprHint (text : String) : List Edit :=
  match (Binary.read? .double text).filter fun x => 0 < x && x ≤ 8 with
  | some x => [.dpr x]
  | none => []

/-- A width is taken from the viewport and then from the image, the later one counting. -/
def hints (h : Headers) : List Edit :=
  widthHint h.viewportWidth ++ widthHint h.width ++ dprHint h.dpr

end Headers

namespace Options

/-- WebP is preferred or enforced for clients that accept it, as far as the configuration says. -/
def withWebp (o : Options) (c : Config) (h : Headers) : Options :=
  bif h.acceptsWebp then
    { o with
      preferWebp := c.enableWebpDetection || c.enforceWebp
      enforceWebp := c.enforceWebp }
  else o

def withHints (o : Options) (c : Config) (h : Headers) : Options :=
  if c.enableClientHints then h.hints.foldl (fun o e => e.apply o) o else o

def defaultPreset : String := "default"

def defaults (ctx : Context) (template : Options) (c : Config) (h : Headers) : Outcome Options :=
  let o := (template.withWebp c h).withHints c h
  if ctx.presets.contains defaultPreset then o.expand ctx [defaultPreset] else { state := o }

end Options
end ImageGateway
