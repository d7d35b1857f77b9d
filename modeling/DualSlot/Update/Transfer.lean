import DualSlot.Bytes.Pieces

/-!
# Where a transfer stands

A transfer is declared with the size of the image and of its chunks, and then counts what arrives.
-/

namespace DualSlot

/-- The progress of a transfer. -/
structure Transfer where
  totalSize : UInt32
  chunkSize : UInt32
  totalChunks : UInt32
  receivedChunks : UInt32
  receivedBytes : UInt32
  nextChunk : UInt32
  deriving DecidableEq, Repr

namespace Transfer

/-- No transfer was declared yet. -/
def none : Transfer := ⟨0, 0, 0, 0, 0, 0⟩

/-- A transfer of `totalSize` bytes in chunks of `chunkSize`, of which nothing has arrived. -/
def declare (totalSize chunkSize : UInt32) : Transfer where
  totalSize
  chunkSize
  totalChunks := (ceilDiv totalSize.toNat chunkSize.toNat).toUInt32
  receivedChunks := 0
  receivedBytes := 0
  nextChunk := 0

/-- The number of bytes still to come. -/
def remaining (t : Transfer) : Nat := t.totalSize.toNat - t.receivedBytes.toNat

/-- The transfer after one more chunk of `count` bytes. -/
def accept (t : Transfer) (count : Nat) : Transfer :=
  { t with
    receivedChunks := t.receivedChunks + 1
    receivedBytes := t.receivedBytes + count.toUInt32
    nextChunk := t.nextChunk + 1 }

/-- The whole percent of the declared size that has arrived. -/
def percent (t : Transfer) : UInt8 :=
  if t.totalSize = 0 then 0
  else (t.receivedBytes.toNat * 100 / t.totalSize.toNat).toUInt8

end Transfer

end DualSlot
