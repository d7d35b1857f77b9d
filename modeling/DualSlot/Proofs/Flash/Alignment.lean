import DualSlot.Proofs.Bytes.Pieces
import DualSlot.Proofs.Flash.Reading

/-!
# Reads and the read size

A flash holds its reads to a read size: the offset and the length of a read must be multiples of it. This
module says what that comes to for the three ways of reading, on a flash without planned faults.

* A read answers the bytes of its region, if `Geometry.checkRead` has nothing against it.
* A word that cannot be read looks erased, whatever is stored there (`Flash.fetch`).
* A checksum is answered if its first piece can be read and the region can be read as a whole
  (`Geometry.checkChecksum`).

`Flash.ReadsFreely` is a flash on which any region can be read. `Flash.reads_decided` says when there is
such a flash: just if single bytes are read.
-/

namespace DualSlot

/-! ## What a read is refused for -/

namespace Geometry

variable {g : Geometry} {offset length : Nat}

/-- A region that reaches out of the flash is refused as such, however it is aligned. -/
theorem checkRead_of_outside (h : g.capacity < offset + length) :
    g.checkRead offset length = .error .outOfRange :=
  if_pos h

theorem checkRead_of_aligned (hroom : offset + length ≤ g.capacity) (hoffset : g.readSize ∣ offset)
    (hlength : g.readSize ∣ length) : g.checkRead offset length = .ok () := by
  have hmods : ¬ (offset % g.readSize ≠ 0 ∨ length % g.readSize ≠ 0) := by
    rintro (h | h)
    · exact h (Nat.mod_eq_zero_of_dvd hoffset)
    · exact h (Nat.mod_eq_zero_of_dvd hlength)
  unfold checkRead checkSlice
  rw [if_neg (Nat.not_lt.mpr hroom), if_neg hmods]

/-- Inside of the flash, a read is refused if its offset or its length is off the read size. -/
theorem checkRead_of_misaligned (hroom : offset + length ≤ g.capacity)
    (h : ¬ (g.readSize ∣ offset ∧ g.readSize ∣ length)) :
    g.checkRead offset length = .error .notAligned := by
  have hmods : offset % g.readSize ≠ 0 ∨ length % g.readSize ≠ 0 := by
    rw [Nat.dvd_iff_mod_eq_zero, Nat.dvd_iff_mod_eq_zero] at h
    omega
  unfold checkRead checkSlice
  rw [if_neg (Nat.not_lt.mpr hroom), if_pos hmods]

/-- A read may go ahead just if its region is inside of the flash and comes in whole reads. -/
theorem checkRead_eq_ok_iff :
    g.checkRead offset length = .ok ()
      ↔ offset + length ≤ g.capacity ∧ g.readSize ∣ offset ∧ g.readSize ∣ length := by
  by_cases hroom : offset + length ≤ g.capacity
  · by_cases haligned : g.readSize ∣ offset ∧ g.readSize ∣ length
    · rw [checkRead_of_aligned hroom haligned.1 haligned.2]
      exact iff_of_true rfl ⟨hroom, haligned⟩
    · rw [checkRead_of_misaligned hroom haligned]
      exact iff_of_false (fun h => nomatch h) fun h => haligned h.2
  · rw [checkRead_of_outside (Nat.lt_of_not_le hroom)]
    exact iff_of_false (fun h => nomatch h) fun h => hroom h.1

/-- Two reads that end at the same place and are off the read size together are refused for the same
reason, if any. -/
theorem checkRead_congr {offset' length' : Nat} (hend : offset + length = offset' + length')
    (haligned : (g.readSize ∣ offset ∧ g.readSize ∣ length)
      ↔ (g.readSize ∣ offset' ∧ g.readSize ∣ length')) :
    g.checkRead offset length = g.checkRead offset' length' := by
  by_cases hroom : offset + length ≤ g.capacity
  · have hroom' : offset' + length' ≤ g.capacity := hend ▸ hroom
    by_cases h : g.readSize ∣ offset ∧ g.readSize ∣ length
    · have h' := haligned.mp h
      rw [checkRead_of_aligned hroom h.1 h.2, checkRead_of_aligned hroom' h'.1 h'.2]
    · rw [checkRead_of_misaligned hroom h, checkRead_of_misaligned hroom' (mt haligned.mpr h)]
  · rw [checkRead_of_outside (Nat.lt_of_not_le hroom), checkRead_of_outside (by omega)]

/-! ## What a checksum is refused for -/

/-- The reads of a checksum: nothing is read for no bytes. Otherwise there must be nothing against the
first piece, and nothing against the region as a whole. -/
def checkChecksum (g : Geometry) (offset length : Nat) : Except FlashError Unit :=
  if length = 0 then .ok ()
  else do
    g.checkRead offset (min Flash.checksumBuffer length)
    g.checkRead offset length

/-- If the first piece can be read, the region decides. -/
theorem checkChecksum_of_piece (hlength : 0 < length)
    (hpiece : g.checkRead offset (min Flash.checksumBuffer length) = .ok ()) :
    g.checkChecksum offset length = g.checkRead offset length := by
  unfold checkChecksum
  rw [if_neg (Nat.ne_of_gt hlength), hpiece]
  rfl

/-- If the first piece cannot be read, the answer is that of the piece. -/
theorem checkChecksum_of_piece_error {e : FlashError} (hlength : 0 < length)
    (hpiece : g.checkRead offset (min Flash.checksumBuffer length) = .error e) :
    g.checkChecksum offset length = .error e := by
  unfold checkChecksum
  rw [if_neg (Nat.ne_of_gt hlength), hpiece]
  rfl

/-- A piece in the middle is refused for the same reason as the region that begins with it: either the
region reaches out of the flash, or the piece is the last one and the region is off by as much. -/
theorem checkRead_eq_of_piece_error {e : FlashError} (hbuffer : g.readSize ∣ Flash.checksumBuffer)
    (hoffset : g.readSize ∣ offset)
    (hpiece : g.checkRead offset (min Flash.checksumBuffer length) = .error e) :
    g.checkRead offset length = .error e := by
  by_cases hroom : offset + min Flash.checksumBuffer length ≤ g.capacity
  · by_cases hlast : length ≤ Flash.checksumBuffer
    · rwa [Nat.min_eq_right hlast] at hpiece
    · -- A full piece that is inside the flash can be read.
      rw [Nat.min_eq_left (Nat.le_of_not_le hlast)] at hpiece hroom
      rw [checkRead_of_aligned hroom hoffset hbuffer] at hpiece
      cases hpiece
  · -- A piece that reaches out of the flash takes the region with it.
    rw [checkRead_of_outside (Nat.lt_of_not_le hroom)] at hpiece
    rw [checkRead_of_outside (by omega), hpiece]

/-- After its first piece, a checksum is refused for what the checksum of the rest is refused for. -/
theorem checkChecksum_rest (hlength : 0 < length)
    (hpiece : g.checkRead offset (min Flash.checksumBuffer length) = .ok ()) :
    g.checkChecksum offset length
      = g.checkChecksum (offset + Flash.checksumBuffer) (length - Flash.checksumBuffer) := by
  rw [checkChecksum_of_piece hlength hpiece]
  by_cases hlast : length ≤ Flash.checksumBuffer
  · -- The first piece is all there is.
    rw [Nat.min_eq_right hlast] at hpiece
    rw [hpiece, Nat.sub_eq_zero_of_le hlast]
    rfl
  · have hlonger : Flash.checksumBuffer < length := Nat.lt_of_not_le hlast
    rw [Nat.min_eq_left (Nat.le_of_lt hlonger)] at hpiece
    obtain ⟨_, hoffset, hbuffer⟩ := checkRead_eq_ok_iff.mp hpiece
    have hnext : g.readSize ∣ offset + Flash.checksumBuffer := Nat.dvd_add hoffset hbuffer
    -- The rest ends where the region does, and begins and is long as the region is, up to whole reads.
    have hrest : g.checkRead offset length
        = g.checkRead (offset + Flash.checksumBuffer) (length - Flash.checksumBuffer) := by
      refine checkRead_congr (by omega) ⟨fun h => ⟨hnext, Nat.dvd_sub h.2 hbuffer⟩, fun h => ?_⟩
      have hsum := Nat.dvd_add h.2 hbuffer
      rw [Nat.sub_add_cancel (Nat.le_of_lt hlonger)] at hsum
      exact ⟨hoffset, hsum⟩
    rw [hrest]
    cases hsecond : g.checkRead (offset + Flash.checksumBuffer)
        (min Flash.checksumBuffer (length - Flash.checksumBuffer)) with
    | ok _ => exact (checkChecksum_of_piece (by omega) hsecond).symm
    | error e =>
      rw [checkChecksum_of_piece_error (by omega) hsecond]
      exact checkRead_eq_of_piece_error hbuffer hnext hsecond

/-- Where single bytes are read, a checksum is refused only for want of room. -/
theorem checkChecksum_of_bytes (hbytes : g.readSize = 1) (hlength : 0 < length) :
    g.checkChecksum offset length
      = if offset + length ≤ g.capacity then .ok () else .error .outOfRange := by
  have hdvd : ∀ n, g.readSize ∣ n := fun n => hbytes ▸ Nat.one_dvd n
  have hregion : g.checkRead offset length
      = if offset + length ≤ g.capacity then .ok () else .error .outOfRange := by
    split
    · rename_i hroom
      exact checkRead_of_aligned hroom (hdvd _) (hdvd _)
    · rename_i hroom
      exact checkRead_of_outside (Nat.lt_of_not_le hroom)
  rw [← hregion]
  -- The pieces of a checksum are refused for want of room too, as any read is here.
  cases hpiece : g.checkRead offset (min Flash.checksumBuffer length) with
  | ok _ => exact checkChecksum_of_piece hlength hpiece
  | error e =>
    rw [checkChecksum_of_piece_error hlength hpiece]
    exact (checkRead_eq_of_piece_error (hdvd _) (hdvd _) hpiece).symm

end Geometry

namespace Flash

open DualSlot.Action

variable {g : Geometry} {flash : Flash g}

/-! ## The three ways of reading -/

/-- Without planned faults, a read answers what is stored in the region or what `Geometry.checkRead`
has against it. -/
theorem effect_read_of_muted (hmuted : flash.readPlan = none) (offset length : Nat) :
    effect (read offset length) flash
      = ((g.checkRead offset length).map fun _ => flash.slice offset length, flash) := by
  have hfault : flash.readFault = none := flash.readFault_eq_none_iff.mpr (admits_of_muted hmuted 1)
  rw [effect_read, hfault, afterReads_of_muted hmuted]

/-- The word that is seen at an offset: the one that is stored there, or an erased one if it cannot be
read. -/
def fetch (flash : Flash g) (offset : Nat) : UInt32 :=
  match g.checkRead offset 4 with
  | .ok _ => LittleEndian.word (flash.slice offset 4)
  | .error _ => erasedWord

theorem fetch_of_ok {offset : Nat} (h : g.checkRead offset 4 = .ok ()) :
    flash.fetch offset = LittleEndian.word (flash.slice offset 4) := by
  unfold fetch
  rw [h]

theorem fetch_of_error {offset : Nat} {e : FlashError} (h : g.checkRead offset 4 = .error e) :
    flash.fetch offset = erasedWord := by
  unfold fetch
  rw [h]

/-- Reading a word never fails: what cannot be read looks erased. -/
theorem effect_readWord_of_muted {ε : Type} (hmuted : flash.readPlan = none) (offset : Nat) :
    effect (readWord offset : Action FlashMessage (Flash g) ε UInt32) flash
      = (.ok (flash.fetch offset), flash) := by
  unfold readWord
  rw [effect_bind, effect_attempt, effect_read_of_muted hmuted, resume_ok]
  cases hplace : g.checkRead offset 4 with
  | ok _ =>
    rw [fetch_of_ok hplace]
    rfl
  | error e =>
    rw [fetch_of_error hplace]
    rfl

/-- The streaming loop over the pieces of a region comes to the register for the region, or stops for what
the checksum is refused for. -/
theorem effect_feed_of_muted (hmuted : flash.readPlan = none) {count offset length : Nat}
    (hcount : count = checksumReads length) (register : UInt32) :
    effect (feed count offset length register) flash
      = ((g.checkChecksum offset length).map fun _ =>
          Crc32.update register (flash.slice offset length), flash) := by
  -- By the number of pieces; the register carries those before.
  induction count generalizing offset length register with
  | zero =>
    -- No piece is left of an empty region only.
    have hempty : length = 0 := by
      have hcover := le_checksumReads length
      rw [← hcount, Nat.zero_mul] at hcover
      exact Nat.le_zero.mp hcover
    subst hempty
    rw [slice_zero]
    rfl
  | succ count ih =>
    have hlength : 0 < length := by
      refine Nat.pos_of_ne_zero fun hzero => ?_
      rw [hzero] at hcount
      exact Nat.succ_ne_zero count hcount
    have hrest : count = checksumReads (length - checksumBuffer) := by
      have hpieces : checksumReads length = checksumReads (length - checksumBuffer) + 1 :=
        ceilDiv_of_pos (by decide) hlength
      omega
    unfold feed
    rw [effect_bind, effect_read_of_muted hmuted]
    cases hpiece : g.checkRead offset (min checksumBuffer length) with
    -- The loop stops at this piece.
    | error e =>
      rw [Geometry.checkChecksum_of_piece_error hlength hpiece]
      rfl
    -- The piece is fed, and the rest comes to what the hypothesis says.
    | ok _ =>
      rw [Except.map, resume_ok, ih hrest, Geometry.checkChecksum_rest hlength hpiece,
        slice_piece flash hpiece, Crc32.update_append]

/-- A checksum is answered for the region as a whole, or refused for what `Geometry.checkChecksum`
says. -/
theorem effect_checksum_of_muted (hmuted : flash.readPlan = none) (offset length : Nat) :
    effect (checksum offset length) flash
      = ((g.checkChecksum offset length).map fun _ =>
          Crc32.checksum (flash.slice offset length), flash) := by
  have hfeed : effect (feed (checksumReads length) offset length Crc32.start) flash
      = ((g.checkChecksum offset length).map fun _ =>
          Crc32.update Crc32.start (flash.slice offset length), flash) :=
    effect_feed_of_muted hmuted rfl Crc32.start
  rw [checksumReads] at hfeed
  unfold checksum
  rw [effect_bind, hfeed]
  cases g.checkChecksum offset length <;> rfl

/-! ## Reading without regard for the read size -/

/-- Any region inside the flash can be read, as bytes, as a word and under a checksum; a region outside is
refused as such, and a word outside looks erased. -/
structure ReadsFreely (flash : Flash g) : Prop where
  read_inside : ∀ offset length, offset + length ≤ g.capacity →
    effect (read offset length) flash = (.ok (flash.slice offset length), flash)
  word_inside : ∀ offset, offset + 4 ≤ g.capacity →
    effect (readWord offset : FlashAction g UInt32) flash
      = (.ok (LittleEndian.word (flash.slice offset 4)), flash)
  checksum_inside : ∀ offset length, offset + length ≤ g.capacity →
    effect (checksum offset length) flash
      = (.ok (Crc32.checksum (flash.slice offset length)), flash)
  read_outside : ∀ offset length, 0 < length → g.capacity < offset + length →
    effect (read offset length) flash = (.error .outOfRange, flash)
  word_outside : ∀ offset, g.capacity < offset + 4 →
    effect (readWord offset : FlashAction g UInt32) flash = (.ok erasedWord, flash)
  checksum_outside : ∀ offset length, 0 < length → g.capacity < offset + length →
    effect (checksum offset length) flash = (.error .outOfRange, flash)

/-- Where single bytes are read, no region is off the read size. -/
theorem readsFreely_of_bytes (hmuted : flash.readPlan = none) (hbytes : g.readSize = 1) :
    flash.ReadsFreely := by
  have hinside : ∀ {offset length}, offset + length ≤ g.capacity →
      g.checkRead offset length = .ok () := fun hroom =>
    Geometry.checkRead_of_aligned hroom (hbytes ▸ Nat.one_dvd _) (hbytes ▸ Nat.one_dvd _)
  refine ⟨?_, ?_, ?_, ?_, ?_, ?_⟩
  · intro offset length hroom
    rw [effect_read_of_muted hmuted, hinside hroom]
    rfl
  · intro offset hroom
    rw [effect_readWord_of_muted hmuted, fetch_of_ok (hinside hroom)]
  · intro offset length hroom
    rw [effect_checksum_of_muted hmuted]
    -- For no bytes nothing is read.
    rcases Nat.eq_zero_or_pos length with rfl | hlength
    · rfl
    · rw [Geometry.checkChecksum_of_bytes hbytes hlength, if_pos hroom]
      rfl
  · intro offset length _ houtside
    rw [effect_read_of_muted hmuted, Geometry.checkRead_of_outside houtside]
    rfl
  · intro offset houtside
    rw [effect_readWord_of_muted hmuted, fetch_of_error (Geometry.checkRead_of_outside houtside)]
  · intro offset length hlength houtside
    rw [effect_checksum_of_muted hmuted, Geometry.checkChecksum_of_bytes hbytes hlength,
      if_neg (Nat.not_le_of_lt houtside)]
    rfl

/-- The second byte of the flash on its own is off any read size but one. -/
theorem ReadsFreely.readSize_eq (hmuted : flash.readPlan = none) (h : flash.ReadsFreely) :
    g.readSize = 1 := by
  by_cases hpage : g.eraseSize = 1
  · -- In pages of one byte, reads are no longer than that.
    have hdvd : g.readSize ∣ g.eraseSize := Nat.dvd_of_mod_eq_zero g.readSize_divides
    rw [hpage] at hdvd
    exact Nat.dvd_one.mp hdvd
  · have hroom : 1 + 1 ≤ g.capacity := by
      have htwo : 2 ≤ g.eraseSize := by
        have hpos := g.eraseSize_pos
        omega
      exact Nat.le_trans htwo (Nat.le_mul_of_pos_right _ g.sectors_pos)
    -- That byte is inside of the flash, so its read must not be refused.
    have hread := h.read_inside 1 1 hroom
    rw [effect_read_of_muted hmuted] at hread
    cases hplace : g.checkRead 1 1 with
    | error e =>
      rw [hplace] at hread
      cases hread
    | ok _ => exact Nat.dvd_one.mp (Geometry.checkRead_eq_ok_iff.mp hplace).2.1

/-- On a flash without planned faults, each way of reading answers what is stored unless its region is
outside of the flash or off the read size. So any region can be read just if single bytes are read. -/
theorem reads_decided (hmuted : flash.readPlan = none) :
    (∀ offset length, effect (read offset length) flash
        = ((g.checkRead offset length).map fun _ => flash.slice offset length, flash))
      ∧ (∀ offset, effect (readWord offset : FlashAction g UInt32) flash
        = (.ok (flash.fetch offset), flash))
      ∧ (∀ offset length, effect (checksum offset length) flash
        = ((g.checkChecksum offset length).map fun _ =>
            Crc32.checksum (flash.slice offset length), flash))
      ∧ (flash.ReadsFreely ↔ g.readSize = 1) :=
  ⟨effect_read_of_muted hmuted, effect_readWord_of_muted hmuted, effect_checksum_of_muted hmuted,
    fun h => h.readSize_eq hmuted, readsFreely_of_bytes hmuted⟩

end Flash

/-! ## A device that is read in halfwords -/

namespace Halfwords

/-- Eight pages of 8 bytes, read and written in halfwords. -/
def geometry : Geometry where
  readSize := 2
  writeSize := 2
  eraseSize := 8
  sectors := 8
  readSize_pos := Nat.succ_pos _
  writeSize_pos := Nat.succ_pos _
  eraseSize_pos := Nat.succ_pos _
  sectors_pos := Nat.succ_pos _
  writeSize_divides := by decide
  readSize_divides := by decide
  capacity_lt := by decide

/-- The device with eight bytes written to it. -/
def flash : Flash geometry := (Flash.erased geometry).splice 0 [1, 2, 3, 4, 5, 6, 7, 8]

/-- From an even offset, four bytes can be read. Still the device does not read freely. -/
theorem reads_decided_halfwords :
    flash.readPlan = none
      ∧ Action.effect (Flash.read 2 4) flash = (.ok [3, 4, 5, 6], flash)
      ∧ ¬ flash.ReadsFreely := by
  have hmuted : flash.readPlan = none := rfl
  obtain ⟨hread, _, _, hfreely⟩ := Flash.reads_decided hmuted
  have hbytes : flash.slice 2 4 = [3, 4, 5, 6] := by decide +kernel
  refine ⟨hmuted, ?_, fun h => absurd (hfreely.mp h) (by decide)⟩
  rw [hread, hbytes]
  rfl

/-- This is a geometry like any other. Still, four stored bytes from the second one on cannot be read, the
word there looks erased though it is not, and no checksum of them is answered. -/
theorem unreadable_at_odd :
    Geometry.ofSizes? 2 2 8 8 = .ok geometry
      ∧ 1 + 4 ≤ geometry.capacity
      ∧ Action.effect (Flash.read 1 4) flash = (.error .notAligned, flash)
      ∧ LittleEndian.word (flash.slice 1 4) = 0x05040302
      ∧ Action.effect (Flash.readWord 1 : FlashAction geometry UInt32) flash = (.ok erasedWord, flash)
      ∧ Action.effect (Flash.checksum 1 4) flash = (.error .notAligned, flash)
      ∧ ¬ flash.ReadsFreely := by
  -- All three ways of reading ask `Geometry.checkRead` first.
  have hplace : geometry.checkRead 1 4 = .error .notAligned := rfl
  have hread : Action.effect (Flash.read 1 4) flash = (.error .notAligned, flash) := by
    rw [Flash.effect_read_of_muted rfl, hplace]
    rfl
  refine ⟨rfl, by decide, hread, by decide +kernel, ?_, ?_, fun hfreely => ?_⟩
  · rw [Flash.effect_readWord_of_muted rfl, Flash.fetch_of_error hplace]
  · rw [Flash.effect_checksum_of_muted rfl,
      Geometry.checkChecksum_of_piece_error (by decide) hplace]
    rfl
  · have hinside := hfreely.read_inside 1 4 (by decide)
    rw [hread] at hinside
    cases hinside

end Halfwords

end DualSlot
