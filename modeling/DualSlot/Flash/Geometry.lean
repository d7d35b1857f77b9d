import DualSlot.Flash.Error

/-!
# Flash geometry

A flash is an array of pages. The geometry gives the granularity of reads and writes, the size of a
page, which is what an erase clears at least, and the number of pages. Offsets and lengths are checked
against it before any access.

* `Geometry.ofSizes?` admits exactly the sizes that make sense together.
* `pageBase` and `pageEnd` round an offset to page boundaries.
* `Geometry.checkSlice` and `Geometry.checkErase` are the checks on arguments.
-/

namespace DualSlot

/-! ## Page boundaries -/

/-- An offset rounded down to a page boundary. -/
def pageBase (offset page : Nat) : Nat := offset - offset % page

/-- An offset rounded up to a page boundary. -/
def pageEnd (offset page : Nat) : Nat := (offset + page - 1) / page * page

/-! ## Geometries -/

/-- The sizes of a flash, all in bytes but for the number of pages. -/
structure Geometry where
  readSize : Nat
  writeSize : Nat
  eraseSize : Nat
  sectors : Nat
  readSize_pos : 0 < readSize
  writeSize_pos : 0 < writeSize
  eraseSize_pos : 0 < eraseSize
  sectors_pos : 0 < sectors
  writeSize_divides : eraseSize % writeSize = 0
  readSize_divides : eraseSize % readSize = 0
  capacity_lt : eraseSize * sectors < UInt64.size

namespace Geometry

/-- The number of bytes. -/
def capacity (g : Geometry) : Nat := g.eraseSize * g.sectors

/-- The geometry of four sizes: none may be zero, pages must hold whole reads and writes, and the
capacity must be a 64-bit number. -/
def ofSizes? (readSize writeSize eraseSize sectors : Nat) : Except FlashError Geometry :=
  if hpos : 0 < readSize ∧ 0 < writeSize ∧ 0 < eraseSize ∧ 0 < sectors then
    if hdiv : eraseSize % writeSize = 0 ∧ eraseSize % readSize = 0 then
      if hcap : eraseSize * sectors < UInt64.size then
        .ok
          { readSize, writeSize, eraseSize, sectors
            readSize_pos := hpos.1
            writeSize_pos := hpos.2.1
            eraseSize_pos := hpos.2.2.1
            sectors_pos := hpos.2.2.2
            writeSize_divides := hdiv.1
            readSize_divides := hdiv.2
            capacity_lt := hcap }
      else .error .outOfRange
    else .error .notAligned
  else .error .outOfRange

/-! ## Checks on arguments -/

/-- A slice must lie inside the flash, with its offset and length multiples of `alignment`. -/
def checkSlice (g : Geometry) (alignment offset length : Nat) : Except FlashError Unit :=
  if g.capacity < offset + length then .error .outOfRange
  else if offset % alignment ≠ 0 ∨ length % alignment ≠ 0 then .error .notAligned
  else .ok ()

def checkRead (g : Geometry) (offset length : Nat) : Except FlashError Unit :=
  g.checkSlice g.readSize offset length

def checkWrite (g : Geometry) (offset length : Nat) : Except FlashError Unit :=
  g.checkSlice g.writeSize offset length

/-- A range to erase must lie inside the flash and consist of whole pages. -/
def checkErase (g : Geometry) (start stop : Nat) : Except FlashError Unit :=
  if stop < start ∨ g.capacity < stop then .error .outOfRange
  else if start % g.eraseSize ≠ 0 ∨ stop % g.eraseSize ≠ 0 then .error .notAligned
  else .ok ()

/-! ## Parts on the market -/

/-- 1 MiB in pages of 2 KiB, programmed by words. -/
def stm32f1 : Geometry where
  readSize := 1
  writeSize := 4
  eraseSize := 2048
  sectors := 512
  readSize_pos := by decide
  writeSize_pos := by decide
  eraseSize_pos := by decide
  sectors_pos := by decide
  writeSize_divides := by decide
  readSize_divides := by decide
  capacity_lt := by decide

/-- 1 MiB in pages of 4 KiB, programmed by double words. -/
def k64 : Geometry where
  readSize := 1
  writeSize := 8
  eraseSize := 4096
  sectors := 256
  readSize_pos := by decide
  writeSize_pos := by decide
  eraseSize_pos := by decide
  sectors_pos := by decide
  writeSize_divides := by decide
  readSize_divides := by decide
  capacity_lt := by decide

/-- A small part: 256 KiB in pages of 1 KiB. -/
def small : Geometry where
  readSize := 1
  writeSize := 4
  eraseSize := 1024
  sectors := 256
  readSize_pos := by decide
  writeSize_pos := by decide
  eraseSize_pos := by decide
  sectors_pos := by decide
  writeSize_divides := by decide
  readSize_divides := by decide
  capacity_lt := by decide

/-- 512 KiB, programmed by whole pages of 512 bytes. -/
def lpc : Geometry where
  readSize := 1
  writeSize := 512
  eraseSize := 512
  sectors := 1024
  readSize_pos := by decide
  writeSize_pos := by decide
  eraseSize_pos := by decide
  sectors_pos := by decide
  writeSize_divides := by decide
  readSize_divides := by decide
  capacity_lt := by decide

/-- The part taken when none is named. -/
def standard : Geometry := stm32f1

/-- Every part there is. -/
def parts : List Geometry := [stm32f1, k64, small, lpc]

end Geometry

end DualSlot
