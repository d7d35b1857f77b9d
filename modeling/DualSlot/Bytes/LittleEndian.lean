/-!
# Little-endian numbers

The bytes of a number, least significant first, and the number that a list of bytes stands for.
-/

namespace DualSlot.LittleEndian

/-- The lowest `count` bytes of a number. -/
def bytes : (count : Nat) → Nat → List UInt8
  | 0, _ => []
  | count + 1, n => n.toUInt8 :: bytes count (n / 256)

/-- The number that a list of bytes stands for. -/
def ofBytes : List UInt8 → Nat
  | [] => 0
  | b :: rest => b.toNat + 256 * ofBytes rest

/-- The four bytes of a word. -/
def ofWord (w : UInt32) : List UInt8 := bytes 4 w.toNat

/-- The word in the first four bytes; missing bytes count as zero. -/
def word (bs : List UInt8) : UInt32 := (ofBytes (bs.take 4)).toUInt32

@[simp] theorem length_bytes (count n : Nat) : (bytes count n).length = count := by
  induction count generalizing n with
  | zero => rfl
  | succ count ih => simp [bytes, ih]

end DualSlot.LittleEndian
