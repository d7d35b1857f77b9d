import DualSlot.Checksum
import DualSlot.Flash.Basic

/-!
# The CRC-32 of a region of the flash

The region is read in pieces of 256 bytes, so that it never has to be held as a whole.
-/

namespace DualSlot.Flash

variable {g : Geometry}

/-- The number of bytes read at a time. -/
def checksumBuffer : Nat := 256

/-- Feed `count` pieces of a region of `length` bytes at `offset` into the register. Each piece is one
read. -/
def feed : (count : Nat) → (offset length : Nat) → UInt32 → FlashAction g UInt32
  | 0, _, _, register => pure register
  | count + 1, offset, length, register => do
    let piece ← read offset (min checksumBuffer length)
    feed count (offset + checksumBuffer) (length - checksumBuffer) (Crc32.update register piece)

/-- The CRC-32 of `length` bytes at `offset`. -/
def checksum (offset length : Nat) : FlashAction g UInt32 := do
  let count := (length + checksumBuffer - 1) / checksumBuffer
  let register ← feed count offset length Crc32.start
  pure (Crc32.finish register)

end DualSlot.Flash
