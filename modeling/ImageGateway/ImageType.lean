/-! Output image types, their names, and which of them can be produced. -/
namespace ImageGateway

/-- `unknown` leaves the choice to whoever produces the image. -/
inductive ImageType where
  | unknown
  | jpeg
  | png
  | webp
  | gif
  | ico
  | svg
  | heic
  | bmp
  | tiff
  | avif
  deriving DecidableEq, Repr

inductive Encoder where
  | jpeg
  | png
  | webp
  | gif
  | ico
  | bmp
  | tiff
  | avif
  deriving DecidableEq, Repr

namespace ImageType

/-- A format name or a file extension, in lower case. -/
def ofName? : String → Option ImageType
  | "jpeg" | "jpg" => some .jpeg
  | "png" => some .png
  | "webp" => some .webp
  | "gif" => some .gif
  | "ico" => some .ico
  | "svg" => some .svg
  | "heic" => some .heic
  | "bmp" => some .bmp
  | "tiff" | "tif" => some .tiff
  | "avif" => some .avif
  | _ => none

def name : ImageType → String
  | .unknown => ""
  | .jpeg => "jpeg"
  | .png => "png"
  | .webp => "webp"
  | .gif => "gif"
  | .ico => "ico"
  | .svg => "svg"
  | .heic => "heic"
  | .bmp => "bmp"
  | .tiff => "tiff"
  | .avif => "avif"

def mime : ImageType → String
  | .unknown => "application/octet-stream"
  | .jpeg => "image/jpeg"
  | .png => "image/png"
  | .webp => "image/webp"
  | .gif => "image/gif"
  | .ico => "image/x-icon"
  | .svg => "image/svg+xml"
  | .heic => "image/heif"
  | .bmp => "image/bmp"
  | .tiff => "image/tiff"
  | .avif => "image/avif"

def encoder? : ImageType → Option Encoder
  | .jpeg => some .jpeg
  | .png => some .png
  | .webp => some .webp
  | .gif => some .gif
  | .ico => some .ico
  | .bmp => some .bmp
  | .tiff => some .tiff
  | .avif => some .avif
  | .unknown | .svg | .heic => none

def canEncode (t : ImageType) : Bool := t.encoder?.isSome

theorem ofName?_name {t : ImageType} (known : t ≠ .unknown) : ofName? t.name = some t := by
  cases t <;> first | rfl | contradiction

end ImageType
end ImageGateway
