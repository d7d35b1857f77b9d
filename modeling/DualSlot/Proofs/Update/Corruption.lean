import DualSlot.Proofs.Update.Parallel

/-!
# Small corruptions are caught

Up to four bytes in a row of the payload of a valid image are replaced by others. Whether that happens in
the flash (`Board.validate_of_corrupted`) or on the way there (`Record.finalize_of_corrupted`), the check
of the image fails, and it fails because of the checksum and nothing else.

For the flash that is a matter of the checksum alone. A transfer has to be followed from its start, side by
side with the one that was not corrupted: the update slot comes to hold what was sent, and that is a good
header and a bad payload (`Mirror.corrupted`).
-/

namespace DualSlot

/-! ## In the flash -/

/-- Bytes that are stored over a few others of a region corrupt what is read there. -/
theorem Flash.corrupted_splice {g : Geometry} {flash : Flash g} {start length offset : Nat}
    {bytes : List UInt8} (hlow : start ≤ offset) (hhigh : offset + bytes.length ≤ start + length)
    (hroom : start + length ≤ g.capacity) (hshort : bytes.length ≤ 4)
    (hdiffers : bytes ≠ flash.slice offset bytes.length) :
    Corrupted (flash.slice start length) ((flash.splice offset bytes).slice start length) := by
  have hend : offset ≤ offset + bytes.length := Nat.le_add_right _ _
  have hbelow : AgreeOn 0 offset flash (flash.splice offset bytes) :=
    AgreeOn.splice flash (.inl (Nat.le_refl _))
  have habove : AgreeOn (offset + bytes.length) g.capacity flash (flash.splice offset bytes) :=
    AgreeOn.splice flash (.inr (Nat.le_refl _))
  have hlength : (flash.slice offset bytes.length).length = bytes.length :=
    length_slice flash offset bytes.length (by omega)
  -- The region is cut into three: below the bytes and above them nothing has changed.
  rw [flash.slice_window hlow hend hhigh hroom,
    (flash.splice offset bytes).slice_window hlow hend hhigh hroom,
    ← hbelow.slice_eq (Nat.zero_le _) (by omega), ← habove.slice_eq (Nat.le_refl _) (by omega),
    Nat.add_sub_cancel_left, slice_splice flash offset bytes (by omega)]
  refine .replaced _ _ hlength.symm ?_ hdiffers
  rw [hlength]
  exact hshort

/-- Where the payload of a valid image was corrupted, the header promises too much. -/
theorem Flash.HoldsImage.corrupted {g : Geometry} {flash flash' : Flash g} {slot : Nat} {header : Header}
    (h : flash.HoldsImage slot header)
    (hheader : flash'.slice slot Header.length = flash.slice slot Header.length)
    (hpayload : Corrupted (flash.slice (slot + Header.length) header.payloadLength)
      (flash'.slice (slot + Header.length) header.payloadLength)) :
    flash'.HoldsHeader slot header
      ∧ header.crc32
        ≠ Crc32.checksum (flash'.slice (slot + Header.length) header.payloadLength) := by
  constructor
  · exact
      { h.holdsHeader with
        decode_eq := by
          rw [hheader]
          exact h.decode_eq }
  · rw [h.crc32_eq]
    exact hpayload.checksum_ne.symm

namespace Board

open DualSlot.Action

variable {g : Geometry} {board board' : Board g} {slot : Nat} {header : Header}

/-- An image that the boot loader accepts is refused for its checksum once its payload is corrupted. -/
theorem validate_of_corrupted (hok : (effect (validate slot) board).1 = .ok header)
    (hplan : board'.flash.readPlan = board.flash.readPlan)
    (hheader : board'.flash.slice slot Header.length = board.flash.slice slot Header.length)
    (hpayload : Corrupted (board.flash.slice (slot + Header.length) header.payloadLength)
      (board'.flash.slice (slot + Header.length) header.payloadLength)) :
    (effect (validate slot) board').1 = .error .crcMismatch := by
  obtain ⟨himage, hadmits⟩ := admits_of_validate hok
  -- The reads that went through go through again.
  have hadmits' : board'.flash.Admits (Flash.imageReads header) := by
    unfold Flash.Admits
    rw [hplan]
    exact hadmits
  obtain ⟨hholds, hne⟩ := himage.corrupted hheader hpayload
  rw [effect_validate_of_holdsHeader hadmits' hholds, if_neg hne]

end Board

/-! ## The verdict of the session -/

namespace Link

open DualSlot.Action

variable {g : Geometry} {link link' : Link g} {header : Header}

/-- A header that passes leaves the session alone. -/
theorem checkHeader_answers {u : Unit} (h : effect (checkHeader header) link = (.ok u, link')) :
    link' = link := by
  have houtcome := checkHeader_outcome header link
  have hanswer := congrArg Prod.fst h
  generalize effect (checkHeader header) link = r at houtcome h hanswer
  cases houtcome with
  | misshapen _ message => cases (abandon_fails _ _ _).symm.trans hanswer
  | missized _ message => cases (abandon_fails _ _ _).symm.trans hanswer
  | passed _ _ _ => exact (Prod.mk.inj h).2.symm

/-- A header of a good shape and of the declared size passes. -/
theorem effect_checkHeader (hshape : header.wellShaped = true)
    (hlength : Header.length < link.session.transfer.totalSize.toNat)
    (hsize : header.size = link.session.transfer.totalSize) :
    effect (checkHeader header) link = (.ok (), link) := by
  have houtcome := checkHeader_outcome header link
  generalize effect (checkHeader header) link = r at houtcome ⊢
  cases houtcome with
  | misshapen shape _ => cases shape.symm.trans hshape
  | missized size _ => exact absurd size (not_or_intro (Nat.not_le_of_lt hlength) (not_not_intro hsize))
  | passed _ _ _ => rfl

/-- A payload that passes was read. -/
theorem admits_of_checkPayload (h : (effect (checkPayload header) link).1 = .ok ()) :
    link.board.flash.Admits (Flash.checksumReads header.payloadLength) := by
  have houtcome := checkPayload_outcome header link
  generalize effect (checkPayload header) link = r at houtcome h
  cases houtcome with
  | unread _ _ _ message => cases (abandon_fails _ _ _).symm.trans h
  | corrupt _ _ _ _ message => cases (abandon_fails _ _ _).symm.trans h
  | passed board read => exact (Board.payloadCrc_answers (congrArg Prod.fst read)).1

/-- A payload that was read with the wrong checksum ends the session in flight. -/
theorem effect_checkPayload_of_mismatch (hbusy : link.session.phase.busy = true)
    (hadmits : link.board.flash.Admits (Flash.checksumReads header.payloadLength))
    (hroom : link.board.loader.layout.slotB + Header.length + header.payloadLength ≤ g.capacity)
    (hfeeds : g.Feeds (Flash.checksumReads header.payloadLength)
      (link.board.loader.layout.slotB + Header.length) header.payloadLength)
    (hne : header.crc32 ≠ Crc32.checksum (link.board.flash.slice
      (link.board.loader.layout.slotB + Header.length) header.payloadLength)) :
    effect (checkPayload header) link
      = (.error .crcMismatch,
          ⟨link.session.failedWith .crcMismatch,
            (⟨link.board.flash.afterReads (Flash.checksumReads header.payloadLength),
              link.board.loader⟩ : Board g).unlocked⟩) := by
  have hcrc := Board.effect_payloadCrc hadmits hroom hfeeds
  have houtcome := checkPayload_outcome header link
  generalize effect (checkPayload header) link = r at houtcome ⊢
  cases houtcome with
  | unread _ _ read _ => cases read.symm.trans hcrc
  | corrupt _ board read _ message =>
    -- The read has one outcome, which is given.
    obtain rfl : board = _ := (Prod.mk.inj (read.symm.trans hcrc)).2
    rw [effect_abandon_of_busy]
    exact hbusy
  | passed board read =>
    -- Then the checksum would be the one of the header.
    exact absurd (Except.ok.inj (Prod.mk.inj (read.symm.trans hcrc)).1) hne

/-- A check that passes has read the header and the payload, and none of these reads was made to fail. -/
theorem admits_of_validate (hphase : link.session.phase = .validating)
    (hdecode : Header.decode
      (link.board.flash.slice link.board.loader.layout.slotB Header.length) = header)
    (h : (effect validate link).1 = .ok ()) :
    link.board.flash.Admits (Flash.imageReads header) := by
  rcases hread : effect (Board.readHeader link.board.loader.layout.slotB) link.board with
    ⟨cause | found, board⟩
  · -- A header that could not be read would have failed the check.
    rw [effect_validate_of_unread hphase hread] at h
    cases (abandon_fails _ _ _).symm.trans h
  · obtain ⟨hfirst, _, hfound, rfl⟩ := Board.readHeader_answers hread
    obtain rfl : found = header := hfound.symm.trans hdecode
    rw [effect_validate_of_read hphase hread] at h
    -- The check that passed made its parts one after the other, each on what the last one left.
    obtain ⟨_, _, hcheck, h⟩ := bind_answers h
    obtain rfl := checkHeader_answers hcheck
    obtain ⟨_, _, hpayload, _⟩ := bind_answers h
    exact Flash.admits_add.mpr ⟨hfirst, admits_of_checkPayload (congrArg Prod.fst hpayload)⟩

/-- If all the rest is as it should be, a wrong checksum is what the image is refused for. -/
theorem effect_validate_of_mismatch (hphase : link.session.phase = .validating)
    (hadmits : link.board.flash.Admits (Flash.imageReads header))
    (h : link.board.flash.HoldsHeader link.board.loader.layout.slotB header)
    (hshape : header.wellShaped = true) (hsize : header.size = link.session.transfer.totalSize)
    (hne : header.crc32 ≠ Crc32.checksum (link.board.flash.slice
      (link.board.loader.layout.slotB + Header.length) header.payloadLength)) :
    effect validate link
      = (.error .crcMismatch,
          ⟨{ link.session with header := some header }.failedWith .crcMismatch,
            (⟨link.board.flash.afterReads (Flash.imageReads header), link.board.loader⟩
              : Board g).unlocked⟩) := by
  have hlength := h.length_lt
  have hroom := h.le_capacity
  have hend : link.board.loader.layout.slotB + Header.length + header.payloadLength ≤ g.capacity := by
    unfold Header.payloadLength
    omega
  obtain ⟨hfirst, hlater⟩ := Flash.admits_add.mp hadmits
  have hread : effect (Board.readHeader link.board.loader.layout.slotB) link.board
      = (.ok header, ⟨link.board.flash.afterReads 1, link.board.loader⟩) := by
    rw [← h.decode_eq]
    exact Board.effect_readHeader hfirst h.header_place
  -- After the header was read.
  let looked : Link g :=
    ⟨{ link.session with header := some header }, ⟨link.board.flash.afterReads 1, link.board.loader⟩⟩
  have hbusy : looked.session.phase.busy = true := by
    show link.session.phase.busy = true
    rw [hphase]
    rfl
  have hheader : effect (checkHeader header) looked = (.ok (), looked) :=
    effect_checkHeader hshape (hsize ▸ hlength) hsize
  have hpayload := effect_checkPayload_of_mismatch hbusy hlater hend h.payload_feeds hne
  rw [effect_validate_of_read hphase hread, examine, effect_bind, hheader, resume_ok, effect_bind,
    hpayload, Flash.imageReads, Flash.afterReads_add]
  rfl

end Link

/-! ## On the way -/

/-- What was corrupted on the way is corrupted in the flash, in the same place. -/
theorem Mirror.corrupted {g : Geometry} {flash flash' before before' : Flash g} {slot : Nat}
    {transfer : Transfer} {sent sent' : List UInt8} (h : Mirror flash slot transfer sent before)
    (h' : Mirror flash' slot transfer sent' before') (hlength : Header.length ≤ sent.length)
    (hheader : sent'.take Header.length = sent.take Header.length)
    (hpayload : Corrupted (sent.drop Header.length) (sent'.drop Header.length)) :
    flash'.slice slot Header.length = flash.slice slot Header.length
      ∧ Corrupted (flash.slice (slot + Header.length) (sent.length - Header.length))
        (flash'.slice (slot + Header.length) (sent.length - Header.length)) := by
  -- Both strings are as long as the transfer says, so they fall apart at the same place.
  have hsent : sent'.length = sent.length := h'.length_eq.trans h.length_eq.symm
  obtain ⟨hfirst, hrest⟩ := h.slices_eq hlength
  obtain ⟨hfirst', hrest'⟩ := h'.slices_eq (hsent ▸ hlength)
  rw [hsent] at hrest'
  rw [hfirst, hrest, hfirst', hrest']
  exact ⟨hheader, hpayload⟩

namespace Record

open DualSlot.Action

variable {g : Geometry} {r r' : Record g} {loader : Loader g} {header : Header}
  {chunks chunks' : List (UInt32 × List UInt8)}

/-- Where one transfer leaves a sound image, its corrupted counterpart leaves a header that promises too
much. -/
theorem holdsHeader_of_corrupted (hparallel : r.link.Parallel loader r'.link)
    (hmirrors : r.Mirrors) (hmirrors' : r'.Mirrors)
    (hreceiving : r.link.session.phase.receiving = true)
    (hall : r.link.session.transfer.receivedBytes = r.link.session.transfer.totalSize)
    (hsound : Link.Sound header r.link.checking)
    (hheader : r'.sent.take Header.length = r.sent.take Header.length)
    (hpayload : Corrupted (r.sent.drop Header.length) (r'.sent.drop Header.length)) :
    r'.link.board.flash.HoldsHeader r'.link.board.loader.layout.slotB header
      ∧ header.crc32 ≠ Crc32.checksum (r'.link.board.flash.slice
        (r'.link.board.loader.layout.slotB + Header.length) header.payloadLength) := by
  obtain ⟨hsession, hloader, hloader', _⟩ := hparallel
  have hmirror := hmirrors hreceiving
  have hmirror' := hmirrors' (by rw [hsession]; exact hreceiving)
  have hholds : r.link.board.flash.HoldsImage r.link.board.loader.layout.slotB header :=
    hsound.holdsImage hmirror.room
  have himage := soundImage_of_sound hmirror hall hsound
  have hlength : Header.length < r.sent.length := himage.length_lt
  -- The payload of the header is all of the string behind it, as the sound image says.
  have hpayloadLength : header.payloadLength = r.sent.length - Header.length := by
    unfold Header.payloadLength
    rw [himage.length_eq, himage.size_eq]
  -- Both transfers are mirrored in one place.
  rw [hloader] at hmirror hholds
  rw [hloader', hsession] at hmirror'
  rw [hloader']
  obtain ⟨hfirst, hrest⟩ := hmirror.corrupted hmirror' (Nat.le_of_lt hlength) hheader hpayload
  rw [← hpayloadLength] at hrest
  exact hholds.corrupted hfirst hrest

/-- Where one transfer is brought to an end with success, its corrupted counterpart fails with a wrong
checksum. -/
theorem finalize_of_parallel
    (hparallel : r.link.session.phase.receiving = true → r.link.Parallel loader r'.link)
    (hmirrors : r.Mirrors) (hmirrors' : r'.Mirrors) (hok : (effect Link.finalize r.link).1 = .ok ())
    (hheader : r'.sent.take Header.length = r.sent.take Header.length)
    (hpayload : Corrupted (r.sent.drop Header.length) (r'.sent.drop Header.length)) :
    ∃ header flash, effect Link.finalize r'.link
      = (.error .crcMismatch,
          ⟨{ r'.link.checking.session with header := some header }.failedWith .crcMismatch,
            (⟨flash, loader⟩ : Board g).unlocked⟩) := by
  have houtcome := Link.finalize_outcome r.link
  generalize hfinal : effect Link.finalize r.link = final at houtcome hok
  cases houtcome with
  | refused e => cases hok
  | checked phase_eq all outcome =>
    rw [Link.effect_finalize phase_eq all] at hfinal
    have hreceiving : r.link.session.phase.receiving = true := by
      rw [phase_eq]
      rfl
    have hlinks := hparallel hreceiving
    have hsession := hlinks.session_eq
    cases outcome with
    | refused e _ => cases hok
    | failed e header board _ => cases hok
    -- The bad image has all that is asked for but the checksum.
    | completed header board _ sound =>
      obtain ⟨hholds, hne⟩ :=
        holdsHeader_of_corrupted hlinks hmirrors hmirrors' hreceiving all sound hheader hpayload
      -- What could be read of the good image can be read of the bad one.
      have hadmits : r.link.checking.board.flash.Admits (Flash.imageReads header) :=
        Link.admits_of_validate rfl sound.decode_eq (congrArg Prod.fst hfinal)
      have hadmits' := (hlinks.flash.admits_iff (Flash.imageReads header)).mpr hadmits
      have hphase : r'.link.checking.session.phase = .validating := rfl
      have hsize : header.size = r'.link.session.transfer.totalSize := by
        rw [hsession]
        exact sound.size_eq
      have hcheck := Link.effect_validate_of_mismatch hphase hadmits' hholds sound.wellShaped hsize hne
      refine ⟨header, r'.link.board.flash.afterReads (Flash.imageReads header), ?_⟩
      rw [Link.effect_finalize, hcheck, ← hlinks.loader_eq']
      · rfl
      · rw [hsession, phase_eq]
      · rw [hsession, all]

/-- Take any transfer that is started and brought to an end with success, and send it again with up to
four bytes in a row of its payload replaced by others. Then it ends with a wrong checksum: the session
fails, no update is pending, the active slot is what it was, and so are all bytes below the update slot. -/
theorem finalize_of_corrupted {before link : Link g} {total chunk : UInt32}
    (hstart : effect (Link.start total chunk) before = (.ok (), link)) (hshape : SameShape chunks chunks')
    (hr : (⟨link, [], before.board.flash⟩ : Record g).received chunks = r)
    (hr' : (⟨link, [], before.board.flash⟩ : Record g).received chunks' = r')
    (hok : (effect Link.finalize r.link).1 = .ok ())
    (hheader : r'.sent.take Header.length = r.sent.take Header.length)
    (hpayload : Corrupted (r.sent.drop Header.length) (r'.sent.drop Header.length)) :
    ∃ ended, effect Link.finalize r'.link = (.error .crcMismatch, ended)
      ∧ ended.session.phase = .failed
      ∧ ended.session.lastError = some .crcMismatch
      ∧ ended.board.loader = { before.board.loader with
          context := { before.board.loader.context with updatePending := false } }
      ∧ Flash.AgreeOn 0 before.board.loader.layout.slotB before.board.flash ended.board.flash := by
  -- All bytes below are kept on the whole way.
  have hkept := Link.keptBelow_start total chunk before ⟨rfl, .refl before.board.flash⟩
  rw [hstart] at hkept
  have hreceived := keptBelow_received (r := ⟨link, [], before.board.flash⟩) hkept chunks'
  rw [hr'] at hreceived
  have hended := Link.keptBelow_finalize r'.link hreceived
  have hstarted := Link.start_outcome total chunk before
  rw [hstart] at hstarted
  cases hstarted with
  -- A start that answers has reserved the slot, and both records begin there with nothing sent.
  | started may free =>
    have hfresh : (⟨⟨before.session.started total chunk,
        Link.reservedBoard before.board total.toNat⟩, [], before.board.flash⟩ : Record g).Mirrors :=
      Link.mirrors_reserved may
    have hmirrors := mirrors_received hfresh chunks
    have hmirrors' := mirrors_received hfresh chunks'
    rw [hr] at hmirrors
    rw [hr'] at hmirrors'
    -- Both transfers begin on one board.
    have hparallel : r.link.session.phase.receiving = true →
        r.link.Parallel (Link.reservedBoard before.board total.toNat).loader r'.link := by
      rw [← hr, ← hr']
      exact parallel_received hshape fun _ => ⟨rfl, rfl, rfl, .refl _⟩
    obtain ⟨header, flash, hfinalize⟩ :=
      finalize_of_parallel hparallel hmirrors hmirrors' hok hheader hpayload
    rw [hfinalize] at hended
    refine ⟨_, hfinalize, rfl, rfl, ?_, hended.agree⟩
    -- The lock that the session took is free again.
    show { before.board.loader with
      context := { before.board.loader.context with updatePending := false }, updateLocked := false } = _
    rw [← free]

end Record

/-! ## The outcome -/

open DualSlot.Action

/-- Replace up to four bytes in a row of a payload, in whatever way.

In the flash: an image that the boot loader accepted is refused for its checksum.

On the way: where the chunks that a session accepts would have made up an image that it finds sound, and
they are sent with a corrupted payload, the image is refused for its checksum. The session fails, no update
is pending, the active slot is what it was, and so are all bytes below the update slot. -/
theorem small_corruptions_caught {g : Geometry} :
    (∀ (board : Board g) (slot : Nat) (header : Header) (offset : Nat) (bytes : List UInt8),
        (effect (Board.validate slot) board).1 = .ok header →
        slot + Header.length ≤ offset → offset + bytes.length ≤ slot + header.size.toNat →
        bytes.length ≤ 4 → bytes ≠ board.flash.slice offset bytes.length →
        (effect (Board.validate slot) ⟨board.flash.splice offset bytes, board.loader⟩).1
          = .error .crcMismatch)
      ∧ (∀ (before link : Link g) (total chunk : UInt32) (chunks chunks' : List (UInt32 × List UInt8)),
        effect (Link.start total chunk) before = (.ok (), link) → SameShape chunks chunks' →
        let r := (⟨link, [], before.board.flash⟩ : Record g).received chunks
        let r' := (⟨link, [], before.board.flash⟩ : Record g).received chunks'
        (effect Link.finalize r.link).1 = .ok () →
        r'.sent.take Header.length = r.sent.take Header.length →
        Corrupted (r.sent.drop Header.length) (r'.sent.drop Header.length) →
        ∃ ended, effect Link.finalize r'.link = (.error .crcMismatch, ended)
          ∧ ended.session.phase = .failed
          ∧ ended.session.lastError = some .crcMismatch
          ∧ ended.board.loader = { before.board.loader with
              context := { before.board.loader.context with updatePending := false } }
          ∧ Flash.AgreeOn 0 before.board.loader.layout.slotB before.board.flash ended.board.flash) := by
  constructor
  · -- The bytes lie in the payload, behind the header and before its end.
    intro board slot header offset bytes hok hlow hhigh hshort hdiffers
    have himage := Board.holdsImage_of_validate hok
    have hend := himage.payload_end
    have hroom := himage.le_capacity
    have hbelow : Flash.AgreeOn slot offset board.flash (board.flash.splice offset bytes) :=
      Flash.AgreeOn.splice board.flash (.inl (Nat.le_refl _))
    refine Board.validate_of_corrupted hok rfl (hbelow.slice_eq (Nat.le_refl _) hlow).symm ?_
    exact Flash.corrupted_splice hlow (by omega) (by omega) hshort hdiffers
  · intro before link total chunk chunks chunks' hstart hshape r r' hok hheader hpayload
    exact Record.finalize_of_corrupted hstart hshape rfl rfl hok hheader hpayload

namespace Factory

/-- A session on the device from the factory, before and after a transfer is started. -/
def beforeTransfer : Link .tiny := ⟨.fresh {} fun _ => true, board⟩

def duringTransfer : Link .tiny := (effect (Link.start 84 50) beforeTransfer).2

/-- An image with some payload, in two chunks. -/
def halves (payload : List UInt8) : List (UInt32 × List UInt8) :=
  [(0, (header.encode ++ payload).take 50), (1, (header.encode ++ payload).drop 50)]

def afterHalves (payload : List UInt8) : Record .tiny :=
  (⟨duringTransfer, [], board.flash⟩ : Record .tiny).received (halves payload)

/-- One byte of the payload is replaced, first in slot A and then on the way to the update slot. -/
theorem replaced_byte_caught :
    (effect (Board.validate layout.slotA) ⟨board.flash.splice 82 [9], board.loader⟩).1
        = .error .crcMismatch
      ∧ (effect Link.finalize (afterHalves payload).link).1 = .ok ()
      ∧ ∃ ended, effect Link.finalize (afterHalves [1, 2, 9, 4]).link = (.error .crcMismatch, ended)
          ∧ ended.session.phase = .failed := by
  obtain ⟨hflash, htransfer⟩ := @small_corruptions_caught .tiny
  have hbyte : [9] ≠ board.flash.slice 82 1 := by decide +kernel
  -- Both transfers were begun in the same way, and are sent in chunks of the same lengths.
  have hstart : effect (Link.start 84 50) beforeTransfer = (.ok (), duringTransfer) := rfl
  have hshape : SameShape (halves payload) (halves [1, 2, 9, 4]) :=
    .cons ⟨rfl, by decide +kernel⟩ (.cons ⟨rfl, by decide +kernel⟩ .nil)
  -- What was sent is evaluated once for both.
  have hrun : (effect Link.finalize (afterHalves payload).link).1 = .ok ()
      ∧ (afterHalves [1, 2, 9, 4]).sent = header.encode ++ [1, 2, 9, 4]
      ∧ (afterHalves payload).sent = header.encode ++ payload := by decide +kernel
  obtain ⟨hok, hsent', hsent⟩ := hrun
  have hlength : header.encode.length = Header.length := by decide +kernel
  have hheader : (afterHalves [1, 2, 9, 4]).sent.take Header.length
      = (afterHalves payload).sent.take Header.length := by
    rw [hsent, hsent', List.take_left' hlength, List.take_left' hlength]
  have hpayload : Corrupted ([1, 2] ++ [3] ++ [4]) ([1, 2] ++ [9] ++ [4]) :=
    .replaced [1, 2] [4] rfl (by decide) (by decide)
  have hcorrupted : Corrupted ((afterHalves payload).sent.drop Header.length)
      ((afterHalves [1, 2, 9, 4]).sent.drop Header.length) := by
    rw [hsent, hsent', List.drop_left' hlength, List.drop_left' hlength]
    exact hpayload
  refine ⟨?_, hok, ?_⟩
  · exact hflash board layout.slotA header 82 [9] validate_slotA (by decide) (by decide) (by decide) hbyte
  · obtain ⟨ended, hfinalize, hphase, _⟩ :=
      htransfer beforeTransfer duringTransfer 84 50 _ _ hstart hshape hok hheader hcorrupted
    exact ⟨ended, hfinalize, hphase⟩

end Factory

end DualSlot
