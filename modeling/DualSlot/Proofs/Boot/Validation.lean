import DualSlot.Proofs.Boot.Image
import DualSlot.Proofs.Flash.Writing

/-!
# The verdict on a slot

On a flash that is read byte by byte the check of an image is a function of the bytes. `Flash.imageVerdict`
is that function: the checks in their order, each on the stored bytes, with the checksum taken of the
payload as one string. The check of the boot loader gives this verdict in every slot, and leaves the
board as it found it (`Board.effect_validate_eq_imageVerdict`).
-/

namespace DualSlot

/-! ## Reading byte by byte -/

namespace Geometry

variable {g : Geometry} {offset length : Nat}

/-- Where single bytes can be read, a read fails only for want of room. -/
theorem checkRead_of_room (hbytes : g.readSize = 1) (hroom : offset + length ≤ g.capacity) :
    g.checkRead offset length = .ok () := by
  unfold checkRead
  rw [hbytes, Flash.checkSlice_one]
  exact hroom

/-- A region of the flash can be read in pieces, so long as no piece begins behind its last byte. -/
theorem feeds_of_room (hbytes : g.readSize = 1) {count : Nat}
    (hcount : count * Flash.checksumBuffer < length + Flash.checksumBuffer)
    (hroom : offset + length ≤ g.capacity) : g.Feeds count offset length := by
  -- By the number of pieces.
  induction count generalizing offset length with
  | zero => trivial
  | succ count ih =>
    rw [Nat.succ_mul] at hcount
    have hpiece : offset + min Flash.checksumBuffer length ≤ g.capacity := by omega
    refine ⟨checkRead_of_room hbytes hpiece, ?_⟩
    -- Without a further piece nothing is asked; with one, this piece was a whole one.
    cases count with
    | zero => trivial
    | succ count =>
      rw [Nat.succ_mul] at hcount
      exact ih (by rw [Nat.succ_mul]; omega) (by omega)

theorem feeds_checksum (hbytes : g.readSize = 1) (hroom : offset + length ≤ g.capacity) :
    g.Feeds (Flash.checksumReads length) offset length := by
  apply feeds_of_room hbytes _ hroom
  unfold Flash.checksumReads Flash.checksumBuffer
  omega

end Geometry

/-! ## The verdict -/

namespace Flash

variable {g : Geometry}

/-- What a header and the payload behind it amount to: the first check that fails, or the header. -/
def headerVerdict (flash : Flash g) (slot : Nat) (header : Header) : Except BootError Header :=
  if header.magic ≠ firmwareMagic then .error .magicMismatch
  else if header.size.toNat ≤ Header.length ∨ g.capacity - slot < header.size.toNat then
    .error .invalidSize
  else if Crc32.checksum (flash.slice (slot + Header.length) (header.size.toNat - Header.length))
      ≠ header.crc32 then
    .error .crcMismatch
  else .ok header

/-- What the bytes of a slot amount to. -/
def imageVerdict (flash : Flash g) (slot : Nat) : Except BootError Header :=
  if g.capacity < slot + Header.length then .error .invalidSize
  else flash.headerVerdict slot (Header.decode (flash.slice slot Header.length))

end Flash

/-! ## The check of the boot loader -/

namespace Board

open DualSlot.Action

variable {g : Geometry} {slot : Nat} {header : Header} {board : Board g}

theorem effect_validate_of_noRoom (hroom : g.capacity < slot + Header.length) :
    effect (validate slot) board = (.error .invalidSize, board) := by
  unfold validate
  rw [effect_bind, effect_require_of_false (decide_eq_false (by omega)), resume_error]

/-- With room for a header, the rest of the check looks at the header that is there. -/
theorem effect_validate_of_room (hmuted : board.flash.readPlan = none)
    (hplace : g.checkRead slot Header.length = .ok ())
    (hdecode : Header.decode (board.flash.slice slot Header.length) = header)
    (hbad : header.magic ≠ firmwareMagic
      ∨ header.size.toNat ≤ Header.length ∨ g.capacity < slot + header.size.toNat) :
    effect (validate slot) board
      = (.error (if header.magic ≠ firmwareMagic then .magicMismatch else .invalidSize), board) := by
  have hroom := Geometry.le_capacity_of_checkSlice hplace
  unfold validate
  rw [effect_bind, effect_require_of_true (decide_eq_true hroom), resume_ok, effect_bind,
    effect_readHeader (Flash.admits_of_muted hmuted 1) hplace, Flash.afterReads_of_muted hmuted,
    resume_ok, hdecode]
  -- The magic is checked before the size.
  by_cases hmagic : header.magic = firmwareMagic
  · have hsize := hbad.resolve_left (not_not_intro hmagic)
    rw [if_neg (not_not_intro hmagic), if_pos hsize, if_neg (not_not_intro hmagic)]
    rfl
  · rw [if_pos hmagic, if_pos hmagic]
    rfl

/-- The checks before the checksum look at the stored header, and the checksum is the one of the payload
as a whole. -/
theorem effect_validate_eq_imageVerdict (hmuted : board.flash.readPlan = none) (hbytes : g.readSize = 1)
    (slot : Nat) : effect (validate slot) board = (board.flash.imageVerdict slot, board) := by
  unfold Flash.imageVerdict
  by_cases hroom : g.capacity < slot + Header.length
  · rw [if_pos hroom, effect_validate_of_noRoom hroom]
  rw [if_neg hroom]
  have hplace : g.checkRead slot Header.length = .ok () :=
    Geometry.checkRead_of_room hbytes (Nat.not_lt.mp hroom)
  generalize hdecode : Header.decode (board.flash.slice slot Header.length) = header
  unfold Flash.headerVerdict
  -- The checks come in the same order in both.
  by_cases hmagic : header.magic = firmwareMagic
  · rw [if_neg (not_not_intro hmagic)]
    by_cases hsize : header.size.toNat ≤ Header.length ∨ g.capacity - slot < header.size.toNat
    · rw [effect_validate_of_room hmuted hplace hdecode (.inr (by omega)),
        if_neg (not_not_intro hmagic), if_pos hsize]
    · -- What is left is a header that promises a valid image.
      have hpayload : slot + Header.length + header.payloadLength ≤ g.capacity := by
        unfold Header.payloadLength
        omega
      have hholds : board.flash.HoldsHeader slot header :=
        ⟨hplace, hdecode, hmagic, by omega, by omega, Geometry.feeds_checksum hbytes hpayload⟩
      rw [effect_validate_of_holdsHeader (Flash.admits_of_muted hmuted _) hholds,
        Flash.afterReads_of_muted hmuted, if_neg hsize, Header.payloadLength]
      by_cases hcrc : Crc32.checksum
          (board.flash.slice (slot + Header.length) (header.size.toNat - Header.length)) = header.crc32
      · rw [if_pos hcrc.symm, if_neg (not_not_intro hcrc)]
      · rw [if_neg (Ne.symm hcrc), if_pos hcrc]
  · rw [effect_validate_of_room hmuted hplace hdecode (.inl hmagic), if_pos hmagic, if_pos hmagic]

/-- The verdict lets the valid images through, and no others. -/
theorem imageVerdict_eq_ok_iff (hmuted : board.flash.readPlan = none) (hbytes : g.readSize = 1)
    {slot : Nat} {header : Header} :
    board.flash.imageVerdict slot = .ok header ↔ board.flash.HoldsImage slot header := by
  have hcheck := effect_validate_eq_imageVerdict hmuted hbytes slot
  constructor
  · intro h
    exact holdsImage_of_validate (by rw [hcheck, h])
  · intro h
    rw [effect_validate_of_holdsImage hmuted h] at hcheck
    exact (congrArg Prod.fst hcheck).symm

/-- The check of the boot loader accepts the valid images and no others, gives the first reason against
anything else, and changes nothing. -/
theorem validate_decides (hmuted : board.flash.readPlan = none) (hbytes : g.readSize = 1) (slot : Nat) :
    effect (validate slot) board = (board.flash.imageVerdict slot, board)
      ∧ ∀ header, board.flash.imageVerdict slot = .ok header ↔ board.flash.HoldsImage slot header :=
  ⟨effect_validate_eq_imageVerdict hmuted hbytes slot, fun _ => imageVerdict_eq_ok_iff hmuted hbytes⟩

/-- On the device from the factory: its image, the erased slot, and a slot with no room for a header. -/
theorem validate_decides_factory :
    effect (validate Factory.layout.slotA) Factory.board = (.ok Factory.header, Factory.board)
      ∧ effect (validate Factory.layout.slotB) Factory.board = (.error .magicMismatch, Factory.board)
      ∧ effect (validate 113) Factory.board = (.error .invalidSize, Factory.board) := by
  have hblank : Factory.flash.imageVerdict Factory.layout.slotB = .error .magicMismatch := by
    unfold Flash.imageVerdict Flash.headerVerdict
    rw [if_neg (by decide)]
    exact if_pos (by decide +kernel)
  have hcut : Factory.flash.imageVerdict 113 = .error .invalidSize := if_pos (by decide)
  refine ⟨?_, ?_, ?_⟩
  · obtain ⟨hcheck, haccepts⟩ := @validate_decides .tiny Factory.board rfl rfl Factory.layout.slotA
    rw [hcheck, (haccepts Factory.header).mpr Factory.holdsImage]
  · rw [(validate_decides rfl rfl Factory.layout.slotB).1]
    exact congrArg (·, Factory.board) hblank
  · rw [(validate_decides rfl rfl 113).1]
    exact congrArg (·, Factory.board) hcut

end Board

end DualSlot
