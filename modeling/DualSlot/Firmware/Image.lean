import DualSlot.Bytes.Pieces
import DualSlot.Firmware.Header
import DualSlot.Random

/-!
# Firmware images

An image is a header followed by its payload. `ImageSpec.build` makes one with a payload of seeded
bytes, so that the same settings always give the same image. Whatever source the bytes come from, only
their number matters to the header and to all that is done with the image.
-/

namespace DualSlot

/-- A complete image. -/
structure Image where
  header : Header
  payload : List UInt8
  deriving DecidableEq

namespace Image

/-- The image as it stands in the flash. -/
def bytes (image : Image) : List UInt8 := image.header.encode ++ image.payload

/-- The image cut into numbered chunks for a transfer. -/
def chunks (image : Image) (size : Nat) : List (List UInt8 × Nat) :=
  (pieces size image.bytes).zipIdx

end Image

/-- Why no image can be made. -/
inductive ImageError where
  | noPayload (size : Nat)
  | tooLarge
  deriving DecidableEq, Repr

namespace ImageError

def message : ImageError → String
  | noPayload size =>
    s!"image size {size} leaves no room for a payload after the {Header.length} byte header"
  | tooLarge => "cannot build header: invalid image size"

end ImageError

/-- The settings of a generated image. -/
structure ImageSpec where
  /-- The size of the whole image, header included. -/
  size : Nat := 4096
  seed : UInt64 := 1
  version : Version := ⟨1, 0, 0⟩
  /-- A version string to use in place of the label of the version. -/
  versionString : Option String := none
  timestamp : UInt32 := 0
  entryPoint : UInt32 := flashBase + 0x4000

namespace ImageSpec

/-- The header over a given payload. -/
def header (spec : ImageSpec) (payload : List UInt8) : Header :=
  let plain := Header.describe spec.version payload spec.entryPoint
  let dated := { plain with timestamp := spec.timestamp }
  match spec.versionString with
  | none => dated
  | some text => dated.withVersionString text.toList

/-- Generate the image. Its size must leave room for a payload and fit the header's size field. -/
def build (spec : ImageSpec) (source : ByteSource := Random.source) : Except ImageError Image :=
  if spec.size ≤ Header.length then .error (.noPayload spec.size)
  else if UInt32.size ≤ spec.size then .error .tooLarge
  else
    let payload := source.bytes spec.seed (spec.size - Header.length)
    .ok ⟨spec.header payload, payload⟩

end ImageSpec

end DualSlot
