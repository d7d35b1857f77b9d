import DualSlot.Bytes.LittleEndian
import DualSlot.Checksum
import DualSlot.Firmware.Version
import DualSlot.Text.Hex
import DualSlot.Text.Utf8

/-!
# The header of a firmware image

An image starts with a header of 80 bytes; its payload follows. All words are little-endian.

| offset | size | field                         |
|--------|------|-------------------------------|
| 0      | 4    | magic                         |
| 4      | 12   | version: major, minor, patch  |
| 16     | 16   | version string, NUL padded    |
| 32     | 4    | build time                    |
| 36     | 4    | size of the image with header |
| 40     | 4    | CRC-32 of the payload         |
| 44     | 4    | entry point                   |
| 48     | 32   | reserved                      |

Every 80 bytes decode to a header; `Header.wellShaped` and the boot loader decide what it is worth.
-/

namespace DualSlot

/-- The word that marks an image. -/
def firmwareMagic : UInt32 := 0xDEADBEEF

/-- The address at which the flash appears in memory. -/
def flashBase : UInt32 := 0x08000000

/-- The number of bytes of a version string. -/
def versionStringLength : Nat := Version.labelLength

/-- The number of reserved bytes. -/
def reservedLength : Nat := 32

/-- The header of an image. -/
structure Header where
  magic : UInt32
  version : Version
  versionString : Vector UInt8 versionStringLength
  timestamp : UInt32
  /-- The size of the whole image, header included. -/
  size : UInt32
  /-- The CRC-32 of the payload. -/
  crc32 : UInt32
  entryPoint : UInt32
  reserved : Vector UInt8 reservedLength
  deriving DecidableEq

namespace Header

/-- The number of bytes of an encoded header. -/
def length : Nat := 80

/-! ## Fields of fixed length -/

/-- A field whose first bytes are replaced by `bs`, as many as fit. -/
def patch {n : Nat} (old : Vector UInt8 n) (bs : List UInt8) : Vector UInt8 n :=
  Vector.ofFn fun i => bs[i.val]?.getD old[i]

/-- A blank field with some bytes put into it: the first `n` of them, filled up with zeros. -/
def field (n : Nat) (bs : List UInt8) : Vector UInt8 n := patch (Vector.replicate n 0) bs

/-! ## Codec -/

/-- The bytes of a header. -/
def encode (h : Header) : List UInt8 :=
  LittleEndian.ofWord h.magic
    ++ LittleEndian.ofWord h.version.major
    ++ LittleEndian.ofWord h.version.minor
    ++ LittleEndian.ofWord h.version.patch
    ++ h.versionString.toList
    ++ LittleEndian.ofWord h.timestamp
    ++ LittleEndian.ofWord h.size
    ++ LittleEndian.ofWord h.crc32
    ++ LittleEndian.ofWord h.entryPoint
    ++ h.reserved.toList

/-- The header in the first 80 bytes; missing bytes count as zero. -/
def decode (bs : List UInt8) : Header where
  magic := LittleEndian.word bs
  version :=
    { major := LittleEndian.word (bs.drop 4)
      minor := LittleEndian.word (bs.drop 8)
      patch := LittleEndian.word (bs.drop 12) }
  versionString := field versionStringLength (bs.drop 16)
  timestamp := LittleEndian.word (bs.drop 32)
  size := LittleEndian.word (bs.drop 36)
  crc32 := LittleEndian.word (bs.drop 40)
  entryPoint := LittleEndian.word (bs.drop 44)
  reserved := field reservedLength (bs.drop 48)

/-! ## Version string -/

/-- The header with a version string: the first 16 bytes of the text in UTF-8, filled up with NUL. A
character that straddles the sixteenth byte is cut in the middle. -/
def withVersionString (h : Header) (text : List Char) : Header :=
  { h with versionString := field versionStringLength (Utf8.encode text) }

/-- The version string up to the first NUL, or the empty text if that is not UTF-8. -/
def versionText (h : Header) : String :=
  (Utf8.decode? (h.versionString.toList.takeWhile (· != 0))).getD ""

/-! ## Making and judging headers -/

/-- The header of a payload. Its size field is the size of header and payload. -/
def describe (version : Version) (payload : List UInt8) (entryPoint : UInt32) : Header :=
  let blank : Header :=
    { magic := firmwareMagic
      version
      versionString := Vector.replicate versionStringLength 0
      timestamp := 0
      size := (length + payload.length).toUInt32
      crc32 := Crc32.checksum payload
      entryPoint
      reserved := Vector.replicate reservedLength 0 }
  blank.withVersionString version.labelChars

/-- The number of payload bytes. -/
def payloadLength (h : Header) : Nat := h.size.toNat - length

/-- The right magic, a size, and somewhere to jump to. -/
def wellShaped (h : Header) : Bool :=
  h.magic == firmwareMagic && h.size != 0 && h.entryPoint != 0

/-! ## Text -/

open Text in
def text (h : Header) : String :=
  s!"  Magic:        {word h.magic}\n"
    ++ s!"  Version:      v{h.version}\n"
    ++ s!"  Version Str:  {h.versionText}\n"
    ++ s!"  Timestamp:    {h.timestamp}\n"
    ++ s!"  Size:         {h.size} bytes\n"
    ++ s!"  CRC32:        {word h.crc32}\n"
    ++ s!"  Entry Point:  {word h.entryPoint}"

end Header

end DualSlot
