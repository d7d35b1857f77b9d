import DualSlot.Proofs.Boot.Image
import DualSlot.Proofs.Boot.Programming
import DualSlot.Proofs.Bytes.LittleEndian

/-!
# Programming as a splice

To the caller, writing the update slot word by word is to splice a string into it, as far as the first word
that is blocked by a programmed byte.

* `Board.programUpdateSlot_eq_packed`: whether the words are packed into little-endian numbers on the
  way makes no difference.
* `Board.programUpdateSlot_splices`: what a call answers, and what it leaves in the flash.
-/

namespace DualSlot

namespace Board

open DualSlot.Action

variable {g : Geometry} {board : Board g}

/-! ## Words as numbers -/

/-- Program up to four bytes: filled up with erased ones and packed into a little-endian number, unless the
word would pass the end of the flash. -/
def programPacked (offset : Nat) (bytes : List UInt8) : BoardAction g Unit := do
  let access :=
    if offset + 4 ≤ g.capacity then
      Flash.writeWord offset (LittleEndian.word (bytes.rightpad 4 erasedByte))
    else Flash.write offset bytes
  match ← (onFlash id access).attempt with
  | .ok () => pure ()
  | .error e =>
    report (.writeFailed offset e)
    Action.fail (.flashWrite e)

/-- Program bytes at an offset into the update slot, a number at a time. -/
def programUpdateSlotPacked (offset : Nat) (data : List UInt8) : BoardAction g Unit := do
  let base := (← look (·.updateSlot)) + offset
  Action.require (base + data.length ≤ g.capacity) .invalidSize
  Action.forEach (pieces 4 data).zipIdx fun (bytes, i) => programPacked (base + i * 4) bytes

theorem programWord_eq_packed (offset : Nat) {bytes : List UInt8} (hshort : bytes.length ≤ 4) :
    (programWord offset bytes : BoardAction g Unit) = programPacked offset bytes := by
  have hlength : (bytes.rightpad 4 erasedByte).length = 4 := by
    rw [List.rightpad, List.length_append, List.length_replicate]
    omega
  have hword : (Flash.writeWord offset (LittleEndian.word (bytes.rightpad 4 erasedByte))
        : FlashAction g Unit)
      = Flash.write offset (bytes.rightpad 4 erasedByte) := by
    unfold Flash.writeWord
    rw [LittleEndian.ofWord_word (Nat.le_of_eq hlength.symm), List.take_of_length_le
      (Nat.le_of_eq hlength)]
  unfold programWord programPacked
  rw [hword]
  split <;> rfl

theorem programUpdateSlot_eq_packed (offset : Nat) (data : List UInt8) :
    (programUpdateSlot offset data : BoardAction g Unit) = programUpdateSlotPacked offset data := by
  have hloop : ∀ base : Nat,
      (Action.forEach (pieces 4 data).zipIdx fun (bytes, i) => programWord (base + i * 4) bytes
          : BoardAction g Unit)
        = Action.forEach (pieces 4 data).zipIdx fun (bytes, i) =>
            programPacked (base + i * 4) bytes := by
    intro base
    refine forEach_congr fun (bytes, i) hpiece => ?_
    exact programWord_eq_packed _ (length_le_of_mem_pieces (List.fst_mem_of_mem_zipIdx hpiece))
  unfold programUpdateSlot programUpdateSlotPacked
  simp only [hloop]

/-! ## The call -/

/-- On a flash without planned faults, programming a string is to splice it in. Where it has no room nothing
is written, and where a word is blocked the words before it are. The packing of the words does
not show. -/
theorem programUpdateSlot_splices (hplan : board.flash.writePlan = none) (offset : Nat)
    (data : List UInt8) :
    effect (programUpdateSlot offset data) board
        = (if board.loader.layout.slotB + offset + data.length ≤ g.capacity then
            board.spliced (board.loader.layout.slotB + offset) data
          else (.error .invalidSize, board))
      ∧ (programUpdateSlot offset data : BoardAction g Unit)
        = programUpdateSlotPacked offset data := by
  refine ⟨?_, programUpdateSlot_eq_packed offset data⟩
  rw [effect_programUpdateSlot]
  by_cases hroom : board.loader.layout.slotB + offset + data.length ≤ g.capacity
  · rw [if_pos hroom, if_pos hroom, effect_programFrom hplan fun _ => hroom]
  · rw [if_neg hroom, if_neg hroom]

end Board

namespace Factory

/-- The device with a programmed byte in the third word of the update slot. -/
def smudged : Board .tiny := { board with flash := flash.splice (layout.slotB + 9) [0] }

/-- Of three words, the two before that byte are stored. -/
theorem programUpdateSlot_smudged :
    smudged.flash.writePlan = none
      ∧ Action.effect (Board.programUpdateSlot 0 (List.replicate 12 7)) smudged
        = (.error (.flashWrite .notErased),
            { smudged with flash := smudged.flash.splice layout.slotB (List.replicate 8 7) }) := by
  have hplan : smudged.flash.writePlan = none := rfl
  have hblocked : Board.firstBlocked smudged.flash layout.slotB 12 = some 2 := by decide +kernel
  obtain ⟨hsplices, _⟩ := Board.programUpdateSlot_splices hplan 0 (List.replicate 12 7)
  refine ⟨hplan, hsplices.trans ?_⟩
  rw [if_pos (by decide)]
  unfold Board.spliced
  rw [List.length_replicate, Nat.add_zero, show smudged.loader.layout.slotB = layout.slotB from rfl,
    hblocked]
  rfl

end Factory

end DualSlot
