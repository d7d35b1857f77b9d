import DualSlot.Proofs.Boot.Effect
import DualSlot.Proofs.Checksum

/-!
# Valid images

`Flash.HoldsImage` says what a valid image in a slot is, in terms of the bytes there and without any
run of the boot loader. The check of the boot loader finds valid images only (`holdsImage_of_validate`),
whatever faults are planned, and without planned faults it finds all of them
(`effect_validate_of_holdsImage`). A valid image depends on its own bytes only
(`HoldsImage.of_agreeOn`).

A header that passes the check on its own (`Flash.HoldsHeader`) leaves the rest of the check to the
checksum (`effect_validate_of_holdsHeader`).
-/

namespace DualSlot

/-! ## Valid images -/

/-- A slot holds a valid image: its header marks an image, gives a size that fits the flash, and the
checksum of the payload. All of it can be read. -/
structure Flash.HoldsImage {g : Geometry} (flash : Flash g) (slot : Nat) (header : Header) : Prop where
  header_place : g.checkRead slot Header.length = .ok ()
  decode_eq : Header.decode (flash.slice slot Header.length) = header
  magic_eq : header.magic = firmwareMagic
  length_lt : Header.length < header.size.toNat
  le_capacity : slot + header.size.toNat ≤ g.capacity
  payload_feeds : g.Feeds (Flash.checksumReads header.payloadLength) (slot + Header.length)
    header.payloadLength
  crc32_eq : header.crc32
    = Crc32.checksum (flash.slice (slot + Header.length) header.payloadLength)

namespace Flash.HoldsImage

variable {g : Geometry} {flash flash' : Flash g} {slot : Nat} {header header' : Header}

/-- The payload ends where the image does. -/
theorem payload_end (h : flash.HoldsImage slot header) :
    slot + Header.length + header.payloadLength = slot + header.size.toNat := by
  have hsize := h.length_lt
  unfold Header.payloadLength
  omega

/-- A slot holds at most one valid image. -/
theorem unique (h : flash.HoldsImage slot header) (h' : flash.HoldsImage slot header') :
    header = header' := by
  rw [← h.decode_eq, ← h'.decode_eq]

/-- A flash with the same bytes holds the same image. -/
theorem of_agreeOn {start stop : Nat} (h : flash.HoldsImage slot header)
    (hagree : AgreeOn start stop flash flash') (hstart : start ≤ slot)
    (hstop : slot + header.size.toNat ≤ stop) : flash'.HoldsImage slot header := by
  have hsize := h.length_lt
  have hpayload := h.payload_end
  exact
    { h with
      decode_eq := by
        rw [← h.decode_eq, hagree.slice_eq hstart (by omega)]
      crc32_eq := by
        rw [h.crc32_eq, hagree.slice_eq (by omega) (by omega)] }

/-- A flash with the same cells holds the same image. -/
theorem of_cells_eq (h : flash.HoldsImage slot header) (hcells : flash.cells = flash'.cells) :
    flash'.HoldsImage slot header :=
  h.of_agreeOn (AgreeOn.of_cells_eq hcells) (Nat.le_refl slot) (Nat.le_refl _)

end Flash.HoldsImage

/-- A slot holds a header that promises a valid image: all that is left is to compare the checksum. -/
structure Flash.HoldsHeader {g : Geometry} (flash : Flash g) (slot : Nat) (header : Header) : Prop where
  header_place : g.checkRead slot Header.length = .ok ()
  decode_eq : Header.decode (flash.slice slot Header.length) = header
  magic_eq : header.magic = firmwareMagic
  length_lt : Header.length < header.size.toNat
  le_capacity : slot + header.size.toNat ≤ g.capacity
  payload_feeds : g.Feeds (Flash.checksumReads header.payloadLength) (slot + Header.length)
    header.payloadLength

/-- A valid image begins with a header that promises one. -/
theorem Flash.HoldsImage.holdsHeader {g : Geometry} {flash : Flash g} {slot : Nat} {header : Header}
    (h : flash.HoldsImage slot header) : flash.HoldsHeader slot header :=
  ⟨h.header_place, h.decode_eq, h.magic_eq, h.length_lt, h.le_capacity, h.payload_feeds⟩

/-- The number of reads of the check of an image. -/
def Flash.imageReads (header : Header) : Nat := 1 + Flash.checksumReads header.payloadLength

/-! ## Under the checksum -/

/-- Where two flashes give a region the same checksum, and differ in four consecutive bytes of it at most,
they do not differ there either. -/
theorem Flash.AgreeOn.of_checksum_eq {g : Geometry} {flash flash' : Flash g}
    {offset length start stop : Nat} (hlow : offset ≤ start) (hwindow : start ≤ stop)
    (hhigh : stop ≤ offset + length) (hshort : stop ≤ start + 4) (hroom : offset + length ≤ g.capacity)
    (hbelow : Flash.AgreeOn 0 start flash flash') (habove : Flash.AgreeOn stop g.capacity flash flash')
    (h : Crc32.checksum (flash.slice offset length) = Crc32.checksum (flash'.slice offset length)) :
    Flash.AgreeOn start stop flash flash' := by
  have hlength : (flash.slice start (stop - start)).length = stop - start :=
    Flash.length_slice flash start _ (by omega)
  have hlength' : (flash'.slice start (stop - start)).length = stop - start :=
    Flash.length_slice flash' start _ (by omega)
  -- Around the window the two regions agree, so they are the same but for it.
  rw [flash.slice_window hlow hwindow hhigh hroom, flash'.slice_window hlow hwindow hhigh hroom,
    hbelow.slice_eq (Nat.zero_le _) (by omega), habove.slice_eq (Nat.le_refl _) (by omega)] at h
  have hsame : flash.slice start (stop - start) = flash'.slice start (stop - start) :=
    Crc32.window_eq_of_checksum_eq (hlength.trans hlength'.symm) (by omega) h
  have hagree := Flash.AgreeOn.of_slice_eq hsame
  rwa [Nat.add_sub_cancel' hwindow] at hagree

/-! ## The check of the boot loader -/

namespace Board

open DualSlot.Action

variable {g : Geometry} {slot : Nat} {header : Header} {board : Board g}

/-- A header that is answered was read from its place. -/
theorem readHeader_answers {board' : Board g}
    (h : effect (readHeader slot) board = (.ok header, board')) :
    board.flash.Admits 1 ∧ g.checkRead slot Header.length = .ok ()
      ∧ Header.decode (board.flash.slice slot Header.length) = header
      ∧ board' = ⟨board.flash.afterReads 1, board.loader⟩ := by
  unfold readHeader at h
  rw [effect_bind, effect_onFlash] at h
  rcases hread : effect (Flash.read slot Header.length) board.flash with ⟨_ | bytes, flash⟩
  · rw [hread] at h
    cases h
  · rw [hread] at h
    cases h
    obtain ⟨hadmits, hplace, rfl, rfl⟩ := Flash.read_answers hread
    exact ⟨hadmits, hplace, rfl, rfl⟩

/-- A checksum that is answered is the one of the payload. -/
theorem payloadCrc_answers {crc : UInt32}
    (h : (effect (payloadCrc slot header) board).1 = .ok crc) :
    board.flash.Admits (Flash.checksumReads header.payloadLength)
      ∧ g.Feeds (Flash.checksumReads header.payloadLength) (slot + Header.length)
        header.payloadLength
      ∧ crc = Crc32.checksum (board.flash.slice (slot + Header.length) header.payloadLength) := by
  obtain ⟨_, board', hrequire, hcrc⟩ := bind_answers h
  -- The check of the size changes nothing.
  obtain ⟨_, hboard⟩ := require_answers hrequire
  subst hboard
  rw [effect_onFlash] at hcrc
  cases hr : (effect (Flash.checksum (slot + Header.length) header.payloadLength) board.flash).1 with
  | error e =>
    rw [hr] at hcrc
    cases hcrc
  | ok answer =>
    rw [hr] at hcrc
    cases hcrc
    exact Flash.checksum_of_ok hr

/-- Whatever reads are planned to fail, the check of the boot loader accepts valid images only, and only
after it has read them. -/
theorem admits_of_validate (h : (effect (validate slot) board).1 = .ok header) :
    board.flash.HoldsImage slot header ∧ board.flash.Admits (Flash.imageReads header) := by
  unfold validate at h
  -- Every check that was passed is a part of what a valid image is.
  obtain ⟨_, _, hrequire, h⟩ := bind_answers h
  obtain ⟨_, hsame⟩ := require_answers hrequire
  subst hsame
  obtain ⟨found, board', hread, h⟩ := bind_answers h
  obtain ⟨hfirst, hplace, hdecode, hboard⟩ := readHeader_answers hread
  split at h
  · cases h
  rename_i hmagic
  split at h
  · cases h
  rename_i hsize
  obtain ⟨calculated, board'', hcrc, h⟩ := bind_answers h
  obtain ⟨hlater, hfeeds, hchecksum⟩ := payloadCrc_answers (congrArg Prod.fst hcrc)
  split at h
  · cases h
  rename_i hequal
  obtain ⟨_, _, _, h⟩ := bind_answers h
  cases h
  rw [hboard] at hlater hchecksum
  refine ⟨?_, Flash.admits_add.mpr ⟨hfirst, hlater⟩⟩
  exact
    { header_place := hplace
      decode_eq := hdecode
      magic_eq := Decidable.not_not.mp hmagic
      length_lt := by omega
      le_capacity := by omega
      payload_feeds := hfeeds
      crc32_eq := (Decidable.not_not.mp hequal).symm.trans hchecksum }

/-- Whatever reads are planned to fail, an image that passes the check of the boot loader is valid. -/
theorem holdsImage_of_validate (h : (effect (validate slot) board).1 = .ok header) :
    board.flash.HoldsImage slot header :=
  (admits_of_validate h).1

/-- A read that is admitted answers the header of a slot. -/
theorem effect_readHeader (hadmits : board.flash.Admits 1)
    (hplace : g.checkRead slot Header.length = .ok ()) :
    effect (readHeader slot) board
      = (.ok (Header.decode (board.flash.slice slot Header.length)),
          ⟨board.flash.afterReads 1, board.loader⟩) := by
  unfold readHeader
  rw [effect_bind, effect_onFlash, Flash.effect_read_of_admits hadmits hplace]
  rfl

/-- A payload whose reads are all admitted is answered with its checksum. -/
theorem effect_payloadCrc (hadmits : board.flash.Admits (Flash.checksumReads header.payloadLength))
    (hroom : slot + Header.length + header.payloadLength ≤ g.capacity)
    (hfeeds : g.Feeds (Flash.checksumReads header.payloadLength) (slot + Header.length)
      header.payloadLength) :
    effect (payloadCrc slot header) board
      = (.ok (Crc32.checksum (board.flash.slice (slot + Header.length) header.payloadLength)),
          ⟨board.flash.afterReads (Flash.checksumReads header.payloadLength), board.loader⟩) := by
  unfold payloadCrc
  rw [effect_bind, effect_require_of_true (decide_eq_true hroom), resume_ok, effect_onFlash,
    Flash.effect_checksum hadmits hfeeds]
  rfl

/-- After a header that promises a valid image, it is the checksum that decides. -/
theorem effect_validate_of_holdsHeader (hadmits : board.flash.Admits (Flash.imageReads header))
    (h : board.flash.HoldsHeader slot header) :
    effect (validate slot) board
      = (if header.crc32
            = Crc32.checksum (board.flash.slice (slot + Header.length) header.payloadLength)
          then .ok header else .error .crcMismatch,
          ⟨board.flash.afterReads (Flash.imageReads header), board.loader⟩) := by
  have hsize := h.length_lt
  have hroom := h.le_capacity
  have hend : slot + Header.length + header.payloadLength ≤ g.capacity := by
    unfold Header.payloadLength
    omega
  obtain ⟨hfirst, hlater⟩ := Flash.admits_add.mp hadmits
  let started : Board g := ⟨board.flash.afterReads 1, board.loader⟩
  have hrest : effect (payloadCrc slot header) started
      = (.ok (Crc32.checksum (board.flash.slice (slot + Header.length) header.payloadLength)),
          ⟨board.flash.afterReads (Flash.imageReads header), board.loader⟩) := by
    rw [effect_payloadCrc hlater hend h.payload_feeds, Flash.imageReads, Flash.afterReads_add]
    rfl
  -- The range, the magic and the size are no reason to turn the image down.
  have hbad : ¬ (header.size.toNat ≤ Header.length ∨ g.capacity < slot + header.size.toNat) := by
    omega
  unfold validate
  rw [effect_bind, effect_require_of_true (decide_eq_true (by omega)), resume_ok, effect_bind,
    effect_readHeader hfirst h.header_place, resume_ok, h.decode_eq,
    if_neg (not_not_intro h.magic_eq), if_neg hbad, effect_bind, hrest, resume_ok]
  split
  · rename_i hne
    rw [if_neg (Ne.symm hne)]
    rfl
  · rename_i heq
    rw [if_pos (Decidable.not_not.mp heq).symm]
    rfl

/-- Without planned faults the check of the boot loader accepts every valid image. -/
theorem effect_validate_of_holdsImage (hmuted : board.flash.readPlan = none)
    (h : board.flash.HoldsImage slot header) :
    effect (validate slot) board = (.ok header, board) := by
  rw [effect_validate_of_holdsHeader (Flash.admits_of_muted hmuted _) h.holdsHeader,
    if_pos h.crc32_eq, Flash.afterReads_of_muted hmuted]

/-- Without planned faults a check of an image leaves the board as it is. -/
theorem validate_board (hmuted : board.flash.readPlan = none) (slot : Nat) :
    (effect (validate slot) board).2 = board := by
  have hinspects : Inspects (fun _ => False) (validate slot : BoardAction g Header) :=
    inspects_validate slot
  calc (effect (validate slot) board).2
      = ⟨(effect (validate slot) board).2.flash, (effect (validate slot) board).2.loader⟩ := rfl
    _ = ⟨board.flash, board.loader⟩ := by
      rw [hinspects.flash_eq_of_muted hmuted, (hinspects.sameBytes board).loader_eq]
    _ = board := rfl

end Board

/-! ## A device from the factory -/

/-- A small part: twelve pages of 16 bytes. -/
def Geometry.tiny : Geometry where
  readSize := 1
  writeSize := 4
  eraseSize := 16
  sectors := 12
  readSize_pos := Nat.succ_pos _
  writeSize_pos := Nat.succ_pos _
  eraseSize_pos := Nat.succ_pos _
  sectors_pos := Nat.succ_pos _
  writeSize_divides := by decide
  readSize_divides := by decide
  capacity_lt := by decide

/-! The device has an image with a payload of four bytes in slot A, and nothing in the update slot. -/
namespace Factory

def layout : Layout := ⟨0, 96⟩

def payload : List UInt8 := [1, 2, 3, 4]

def header : Header where
  magic := firmwareMagic
  version := ⟨1, 0, 0⟩
  versionString := Vector.replicate versionStringLength 0
  timestamp := 0
  size := 84
  crc32 := Crc32.checksum payload
  entryPoint := flashBase
  reserved := Vector.replicate reservedLength 0

def flash : Flash .tiny := (Flash.erased .tiny).splice layout.slotA (header.encode ++ payload)

def loader : Loader .tiny where
  layout
  fits := by decide
  stage := .init
  lastError := none
  context :=
    { active := .a
      activeHeader := Header.decode (flash.slice layout.slotA Header.length)
      updateHeader := Header.decode (flash.slice layout.slotB Header.length)
      bootCount := 1
      updatePending := false
      rollbackRequested := false }
  updateLocked := false

def board : Board .tiny := ⟨flash, loader⟩

theorem holdsImage : flash.HoldsImage layout.slotA header where
  header_place := rfl
  decode_eq := by decide +kernel
  magic_eq := rfl
  length_lt := by decide
  le_capacity := by decide
  payload_feeds := ⟨rfl, trivial⟩
  crc32_eq := by decide +kernel

theorem validate_slotA : (Action.effect (Board.validate layout.slotA) board).1 = .ok header := by
  have hvalid : Action.effect (Board.validate layout.slotA) board = (.ok header, board) :=
    Board.effect_validate_of_holdsImage rfl holdsImage
  rw [hvalid]

end Factory

end DualSlot
