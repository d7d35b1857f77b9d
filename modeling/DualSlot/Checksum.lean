/-!
# The CRC-32 of a byte string

The reflected cyclic redundancy check with polynomial `0xEDB88320`, a register that starts with all
bits set, and a final complement. `update_append` says that a byte string may be fed in pieces.
-/

namespace DualSlot.Crc32

/-- The reflected generator polynomial. -/
def polynomial : UInt32 := 0xEDB88320

/-- The register before the first byte. -/
def start : UInt32 := 0xFFFFFFFF

/-- Shift one bit out of the register. -/
def shift (register : UInt32) : UInt32 :=
  if register &&& 1 = 1 then (register >>> 1) ^^^ polynomial else register >>> 1

/-- Shift several bits out of the register. -/
def shifts : Nat → UInt32 → UInt32
  | 0, register => register
  | n + 1, register => shifts n (shift register)

/-- Feed one byte. -/
def step (register : UInt32) (b : UInt8) : UInt32 :=
  shifts 8 (register ^^^ b.toUInt32)

/-- Feed a byte string. -/
def update (register : UInt32) (bs : List UInt8) : UInt32 :=
  bs.foldl step register

/-- The value that a register stands for. -/
def finish (register : UInt32) : UInt32 := ~~~ register

/-- The CRC-32 of a byte string. -/
def checksum (bs : List UInt8) : UInt32 := finish (update start bs)

@[simp] theorem update_nil (register : UInt32) : update register [] = register := rfl

theorem update_append (register : UInt32) (as bs : List UInt8) :
    update register (as ++ bs) = update (update register as) bs :=
  List.foldl_append

end DualSlot.Crc32
