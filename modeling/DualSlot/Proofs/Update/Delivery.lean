import DualSlot.Proofs.Boot.Validation
import DualSlot.Proofs.Firmware.Image
import DualSlot.Proofs.Update.Certificate
import DualSlot.Proofs.Update.Corruption
import DualSlot.Proofs.Update.Readiness

/-!
# An image delivered

Without planned faults and over an erased update slot nothing goes wrong on the way. Each call of an update
has one outcome, which this module works out:

* `Link.effect_start_of_missized`: a size or a chunk size that is out of bounds is refused.
* `Link.effect_transmit_of_erased`: in chunks of any other size the whole string is stored, be it cut in the
  middle of a word or reach up to the last byte of the flash.
* `Link.Checkable.effect_finalize_of_match` and `Link.Checkable.effect_finalize_of_mismatch`: behind a
  header that promises what it should, the checksum of the payload decides.
* `Link.apply_of_muted`: the version decides whether the image becomes the active one.
-/

namespace DualSlot

namespace Link

open DualSlot.Action

variable {g : Geometry} {link : Link g} {size k : Nat} {data : List UInt8}

/-! ## Sizes out of bounds -/

/-- A chunk size or a total size that is out of bounds is refused before anything is changed. -/
theorem effect_start_of_missized {total chunk : UInt32}
    (hrests : link.session.phase = .idle ∨ link.session.phase.terminal = true)
    (hsize : (chunk = 0 ∨ link.session.config.maxChunk < chunk)
      ∨ total = 0 ∨ g.capacity - link.board.loader.layout.slotB < total.toNat) :
    effect (start total chunk) link = (.error .invalidSize, link) := by
  have hphase : ¬ (link.session.phase ≠ .idle ∧ link.session.phase.terminal = false) := by
    rintro ⟨hbusy, hgoing⟩
    rcases hrests with hidle | hterminal
    · exact hbusy hidle
    · cases hterminal.symm.trans hgoing
  unfold start
  rw [effect_bind, effect_look, resume_ok, effect_bind, effect_look, resume_ok, effect_bind,
    effect_room, resume_ok, if_neg hphase]
  -- The chunk size is looked at first.
  by_cases hchunk : chunk = 0 ∨ link.session.config.maxChunk < chunk
  · rw [if_pos hchunk, effect_refuse]
  · rw [if_neg hchunk, if_pos (hsize.resolve_left hchunk), effect_refuse]

/-! ## One chunk after the other -/

/-- Send a string in chunks, of which the first has the number `k`. -/
def sendFrom (k size : Nat) (data : List UInt8) : SessionAction g Unit :=
  Action.forEach ((pieces size data).zipIdx k) fun (piece, i) => receive i.toUInt32 piece

/-- There are no chunks of the empty string. -/
theorem sendFrom_nil (k : Nat) (hsize : 0 < size) :
    (sendFrom k size [] : SessionAction g Unit) = pure () := by
  unfold sendFrom
  rw [pieces_nil hsize, List.zipIdx_nil, forEach_nil]

/-- The first chunk, and then the rest. -/
theorem sendFrom_of_ne_nil (k : Nat) (hsize : 0 < size) (hdata : data ≠ []) :
    (sendFrom k size data : SessionAction g Unit)
      = receive k.toUInt32 (data.take size) >>= fun _ => sendFrom (k + 1) size (data.drop size) := by
  unfold sendFrom
  rw [pieces_of_ne_nil hsize hdata, List.zipIdx_cons, forEach_cons]

/-- The link after a chunk was stored and counted. -/
def stored (link : Link g) (data : List UInt8) : Link g where
  session := link.session.accepted data.length
  board := ⟨link.board.flash.splice
      (link.board.loader.layout.slotB + link.session.transfer.receivedBytes.toNat) data,
    link.board.loader⟩

/-- A session waits for just these bytes, in chunks that are numbered from `k` on. No write is planned to
fail, and all is erased where it will write. -/
structure Awaits (size k : Nat) (data : List UInt8) (link : Link g) : Prop where
  receiving : link.session.phase.receiving = true
  chunkSize_eq : link.session.transfer.chunkSize.toNat = size
  nextChunk_eq : link.session.transfer.nextChunk = k.toUInt32
  length_eq : link.session.transfer.receivedBytes.toNat + data.length
    = link.session.transfer.totalSize.toNat
  room : link.board.loader.layout.slotB + link.session.transfer.totalSize.toNat ≤ g.capacity
  unplanned : link.board.flash.writePlan = none
  erased : link.board.flash.Erased
    (link.board.loader.layout.slotB + link.session.transfer.receivedBytes.toNat) g.capacity

namespace Awaits

/-- The next chunk is one that the session expects. -/
theorem expects (h : link.Awaits size k data) (hsize : 0 < size) (hdata : data ≠ []) :
    link.session.Expects k.toUInt32 (data.take size) where
  receiving := h.receiving
  number_eq := h.nextChunk_eq.symm
  length_pos := by
    have hlength := List.length_pos_iff.mpr hdata
    rw [List.length_take]
    omega
  le_chunk := by
    rw [h.chunkSize_eq]
    exact List.length_take_le size data
  le_remaining := by
    have hlength := h.length_eq
    unfold Transfer.remaining
    rw [List.length_take]
    omega

/-- The next chunk is stored, for its place is erased and no write is made to fail. -/
theorem effect_receive (h : link.Awaits size k data) (hsize : 0 < size) (hdata : data ≠ []) :
    effect (receive k.toUInt32 (data.take size)) link = (.ok (), link.stored (data.take size)) := by
  have hlength := h.length_eq
  have hroom := h.room
  refine effect_receive_of_written (h.expects hsize hdata)
    (Board.effect_programUpdateSlot_of_erased h.unplanned ?_ h.erased)
  rw [List.length_take]
  omega

/-- After a chunk the session waits for the rest. -/
theorem stored (h : link.Awaits size k data) (hsize : 0 < size) (hdata : data ≠ []) :
    (link.stored (data.take size)).Awaits size (k + 1) (data.drop size) := by
  have hbytes := (h.expects hsize hdata).toNat_receivedBytes
  have hlength := h.length_eq
  have hcut : (data.take size).length + (data.drop size).length = data.length := by
    rw [← List.length_append, List.take_append_drop]
  refine ⟨rfl, h.chunkSize_eq, ?_, ?_, h.room, h.unplanned, ?_⟩
  · show link.session.transfer.nextChunk + 1 = (k + 1).toUInt32
    rw [h.nextChunk_eq]
    exact (UInt32.ofNat_add k 1).symm
  · show (link.session.accepted _).transfer.receivedBytes.toNat + _
      = link.session.transfer.totalSize.toNat
    omega
  · show (link.board.flash.splice _ _).Erased
      (link.board.loader.layout.slotB + (link.session.accepted _).transfer.receivedBytes.toNat) _
    -- The chunk ends where the rest will be written.
    rw [hbytes, ← Nat.add_assoc]
    exact (h.erased.mono (Nat.le_add_right _ _) (Nat.le_refl _)).of_agreeOn
      (Flash.AgreeOn.splice _ (.inr (Nat.le_refl _)))

end Awaits

/-- All bytes have arrived: they stand in the update slot behind those that were there before. -/
structure Delivered (link : Link g) (data : List UInt8) (after : Link g) : Prop where
  phase_eq : after.session.phase = .receivingData
  all : after.session.transfer.receivedBytes = after.session.transfer.totalSize
  totalSize_eq : after.session.transfer.totalSize = link.session.transfer.totalSize
  accepts_eq : after.session.accepts = link.session.accepts
  board_eq : after.board
    = ⟨link.board.flash.splice
        (link.board.loader.layout.slotB + link.session.transfer.receivedBytes.toNat) data,
      link.board.loader⟩

/-- What a session waits for it takes in, chunk by chunk. -/
theorem Awaits.delivered (h : link.Awaits size k data) (hsize : 0 < size)
    (hbegun : data = [] → link.session.phase = .receivingData) :
    ∃ after, effect (sendFrom k size data) link = (.ok (), after) ∧ link.Delivered data after := by
  -- The induction takes the string chunk by chunk, with the link that the chunk has left.
  induction data using piecewise size hsize generalizing link k with
  | nil =>
    rw [sendFrom_nil k hsize]
    exact ⟨link, rfl, hbegun rfl, UInt32.toNat_inj.mp h.length_eq, rfl, rfl, rfl⟩
  | piece data hdata ih =>
    obtain ⟨after, hrest, hdelivered⟩ := ih (h.stored hsize hdata) fun _ => rfl
    have hbytes := (h.expects hsize hdata).toNat_receivedBytes
    refine ⟨after, ?_, hdelivered.phase_eq, hdelivered.all, hdelivered.totalSize_eq,
      hdelivered.accepts_eq, ?_⟩
    · rw [sendFrom_of_ne_nil k hsize hdata, effect_bind, h.effect_receive hsize hdata, resume_ok, hrest]
    · -- Each chunk goes behind the last one, so that in the end the whole string stands there.
      rw [hdelivered.board_eq]
      show (⟨(link.board.flash.splice _ _).splice (link.board.loader.layout.slotB
        + (link.session.accepted _).transfer.receivedBytes.toNat) _, link.board.loader⟩ : Board g) = _
      rw [hbytes, ← Nat.add_assoc, ← Flash.splice_append, List.take_append_drop]

/-! ## A whole transfer -/

/-- A transfer that is not cut short sends all of its chunks. -/
theorem transmit_none (total chunk : UInt32) (data : List UInt8) :
    (transmit total chunk data none : SessionAction g Nat) = (do
      start total chunk
      sendFrom 0 chunk.toNat data
      pure (pieces chunk.toNat data).length) := by
  unfold transmit sendFrom
  simp only [Option.getD_none, List.take_length]

/-- The link after a transfer was started. -/
def begun (link : Link g) (total chunk : UInt32) : Link g :=
  ⟨link.session.started total chunk, reservedBoard link.board total.toNat⟩

/-- A session that has just begun waits for the whole string, from the first chunk on. -/
theorem awaits_begun {total chunk : UInt32} (may : MayStart total chunk link)
    (hplan : link.board.flash.writePlan = none)
    (herased : link.board.flash.Erased link.board.loader.layout.slotB g.capacity)
    (hlength : data.length = total.toNat) : (link.begun total chunk).Awaits chunk.toNat 0 data := by
  have hslot := link.board.loader.fits.room_b
  have htotal := may.total_le
  have hroom : link.board.loader.layout.slotB + total.toNat ≤ g.capacity := by omega
  have hpage : link.board.loader.layout.slotB
      ≤ pageEnd (link.board.loader.layout.slotB + total.toNat) g.eraseSize :=
    Nat.le_trans (Nat.le_add_right _ _) (le_pageEnd _ g.eraseSize_pos)
  have hend : pageEnd (link.board.loader.layout.slotB + total.toNat) g.eraseSize ≤ g.capacity :=
    pageEnd_le g.eraseSize_pos hroom
  refine ⟨rfl, rfl, rfl, (Nat.zero_add _).trans hlength, hroom, hplan, ?_⟩
  -- The pages of the transfer are erased now, and those behind them were before.
  refine (Flash.erased_append hpage hend).mpr ⟨Flash.erased_blank _ _ _, ?_⟩
  exact (herased.mono hpage (Nat.le_refl _)).of_agreeOn
    (Flash.AgreeOn.blank link.board.flash (.inr (Nat.le_refl _)))

/-- Whatever the chunk size, a transfer over an erased slot goes through. -/
theorem effect_transmit_of_erased {total chunk : UInt32} (may : MayStart total chunk link)
    (hfree : link.board.loader.updateLocked = false) (hworks : link.board.flash.eraseBroken = false)
    (hplan : link.board.flash.writePlan = none)
    (herased : link.board.flash.Erased link.board.loader.layout.slotB g.capacity)
    (hlength : data.length = total.toNat) :
    ∃ count after, effect (transmit total chunk data none) link = (.ok count, after)
      ∧ (link.begun total chunk).Delivered data after := by
  have hsize : 0 < chunk.toNat := Nat.pos_of_ne_zero fun h => may.chunk_ne (UInt32.toNat_inj.mp h)
  have htotal : 0 < total.toNat := Nat.pos_of_ne_zero fun h => may.total_ne (UInt32.toNat_inj.mp h)
  have hdata : data ≠ [] := List.length_pos_iff.mp (hlength ▸ htotal)
  obtain ⟨after, hsent, hdelivered⟩ :=
    (awaits_begun may hplan herased hlength).delivered hsize fun h => absurd h hdata
  refine ⟨(pieces chunk.toNat data).length, after, ?_, hdelivered⟩
  rw [transmit_none, effect_bind, effect_start_of_works may hfree hworks, resume_ok, effect_bind]
  exact congrArg (resume · fun _ => pure (pieces chunk.toNat data).length) hsent

/-! ## The image in its place -/

end Link

/-- Where the header of an image stands, with as many bytes behind it as its payload has, all is read that
the header promises. -/
theorem Flash.holdsHeader_of_sealed {g : Geometry} {flash : Flash g} {slot : Nat} {image : Image}
    {payload : List UInt8} (hsealed : image.Sealed) (hbytes : g.readSize = 1)
    (hlength : payload.length = image.payload.length) (hroom : slot + image.bytes.length ≤ g.capacity)
    (hstands : flash.slice slot image.bytes.length = image.header.encode ++ payload) :
    flash.HoldsHeader slot image.header
      ∧ flash.slice (slot + Header.length) image.header.payloadLength = payload := by
  have hlong := hsealed.length_lt
  have hwhole := image.length_bytes
  have hdata : (image.header.encode ++ payload).length = image.bytes.length := by
    rw [List.length_append, Header.length_encode, hlength, hwhole]
  have hpayload : image.header.payloadLength = image.bytes.length - Header.length := by
    rw [Header.payloadLength, hsealed.size_eq]
  rw [← hdata] at hstands hroom
  -- The string is cut behind the header, as it stands in the flash and as it was sent.
  have hcut : Header.length ≤ (image.header.encode ++ payload).length := by omega
  obtain ⟨hfirst, hrest⟩ := slices_of_slice_eq hstands hcut hroom
  rw [hdata] at hrest hroom
  rw [List.take_left' (Header.length_encode _)] at hfirst
  rw [List.drop_left' (Header.length_encode _), ← hpayload] at hrest
  have hdecode : Header.decode (flash.slice slot Header.length) = image.header := by
    rw [hfirst, ← List.append_nil image.header.encode]
    exact Header.decode_encode_append image.header []
  refine ⟨?_, hrest⟩
  exact
    { header_place := Geometry.checkRead_of_room hbytes (by omega)
      decode_eq := hdecode
      magic_eq := hsealed.magic_eq
      length_lt := hsealed.size_eq ▸ hlong
      le_capacity := hsealed.size_eq ▸ hroom
      payload_feeds := Geometry.feeds_checksum hbytes (by omega) }

namespace Link

open DualSlot.Action

variable {g : Geometry} {link after : Link g} {header : Header} {total chunk : UInt32}

/-- The session has all bytes of an image whose header promises what it should. What is left to decide is
the checksum. -/
structure Checkable (header : Header) (link : Link g) : Prop where
  phase_eq : link.session.phase = .receivingData
  all : link.session.transfer.receivedBytes = link.session.transfer.totalSize
  holds : link.board.flash.HoldsHeader link.board.loader.layout.slotB header
  wellShaped : header.wellShaped = true
  size_eq : header.size = link.session.transfer.totalSize

/-- After an image was sent, be it with another payload of the same length, its header can be checked. -/
theorem Delivered.checkable {image : Image} {payload : List UInt8}
    (h : (link.begun total chunk).Delivered (image.header.encode ++ payload) after)
    (hsealed : image.Sealed) (hentry : image.header.entryPoint ≠ 0) (hbytes : g.readSize = 1)
    (hlength : payload.length = image.payload.length) (htotal : total.toNat = image.bytes.length)
    (hroom : link.board.loader.layout.slotB + total.toNat ≤ g.capacity) :
    after.Checkable image.header
      ∧ after.board.flash.slice (link.board.loader.layout.slotB + Header.length)
          image.header.payloadLength = payload := by
  -- What was sent is as long as the image, whatever its payload is.
  have hdata : (image.header.encode ++ payload).length = image.bytes.length := by
    rw [List.length_append, Header.length_encode, hlength, image.length_bytes]
  have hboard : after.board
      = ⟨(link.begun total chunk).board.flash.splice link.board.loader.layout.slotB
          (image.header.encode ++ payload), (link.begun total chunk).board.loader⟩ := h.board_eq
  have hstands : after.board.flash.slice link.board.loader.layout.slotB image.bytes.length
      = image.header.encode ++ payload := by
    rw [hboard, ← hdata]
    exact Flash.slice_splice _ _ _ (by omega)
  obtain ⟨hholds, hpayload⟩ :=
    Flash.holdsHeader_of_sealed hsealed hbytes hlength (htotal ▸ hroom) hstands
  refine ⟨⟨h.phase_eq, h.all, ?_, hsealed.wellShaped hentry, ?_⟩, hpayload⟩
  · rw [hboard] at hholds ⊢
    exact hholds
  · have htotalSize : after.session.transfer.totalSize = total := h.totalSize_eq
    rw [htotalSize]
    exact UInt32.toNat_inj.mp (hsealed.size_eq.trans htotal.symm)

/-! ## The verdict of the session -/

/-- The checksum of a valid image is the one in its header. -/
theorem effect_checkPayload_of_match (hmuted : link.board.flash.readPlan = none)
    (h : link.board.flash.HoldsImage link.board.loader.layout.slotB header) :
    effect (checkPayload header) link = (.ok (), link) := by
  have hend := h.payload_end
  have hroom := h.le_capacity
  have hcrc := Board.effect_payloadCrc (Flash.admits_of_muted hmuted _) (by omega) h.payload_feeds
  rw [← h.crc32_eq, Flash.afterReads_of_muted hmuted] at hcrc
  have houtcome := checkPayload_outcome header link
  generalize effect (checkPayload header) link = r at houtcome ⊢
  cases houtcome with
  | unread _ _ read _ => cases read.symm.trans hcrc
  | corrupt _ _ read differs _ =>
    exact absurd (Except.ok.inj (Prod.mk.inj (read.symm.trans hcrc)).1) differs
  | passed board read =>
    obtain rfl : board = _ := (Prod.mk.inj (read.symm.trans hcrc)).2
    rfl

/-- An application that accepts an image keeps quiet about it. -/
theorem effect_askApplication (haccepts : link.session.accepts header = true) :
    effect (askApplication header) link = (.ok (), link) := by
  have houtcome := askApplication_outcome header link
  generalize effect (askApplication header) link = r at houtcome ⊢
  cases houtcome with
  | vetoed veto _ => cases veto.symm.trans haccepts
  | consented _ => rfl

/-- Without planned faults a session completes with an image that is valid, is the one it was promised, and
has the consent of the application. -/
theorem Checkable.effect_finalize_of_match (h : link.Checkable header)
    (hmuted : link.board.flash.readPlan = none)
    (hmatch : header.crc32 = Crc32.checksum (link.board.flash.slice
      (link.board.loader.layout.slotB + Header.length) header.payloadLength))
    (haccepts : link.session.accepts header = true) :
    effect finalize link
      = (.ok (), ⟨link.checking.session.completed header, link.board.unlocked⟩) := by
  have hholds : link.board.flash.HoldsImage link.board.loader.layout.slotB header :=
    { h.holds with crc32_eq := hmatch }
  have hphase : link.checking.session.phase = .validating := rfl
  have hread : effect (Board.readHeader link.checking.board.loader.layout.slotB) link.checking.board
      = (.ok header, link.board) := by
    show effect (Board.readHeader link.board.loader.layout.slotB) link.board = _
    rw [Board.effect_readHeader (Flash.admits_of_muted hmuted 1) hholds.header_place,
      hholds.decode_eq, Flash.afterReads_of_muted hmuted]
  -- The header was read, and is checked against the transfer.
  let looked : Link g := ⟨{ link.checking.session with header := some header }, link.board⟩
  have hheader : effect (checkHeader header) looked = (.ok (), looked) :=
    effect_checkHeader h.wellShaped (h.size_eq ▸ hholds.length_lt) h.size_eq
  have hpayload : effect (checkPayload header) looked = (.ok (), looked) :=
    effect_checkPayload_of_match hmuted hholds
  have hconsent : effect (askApplication header) looked = (.ok (), looked) :=
    effect_askApplication haccepts
  rw [effect_finalize h.phase_eq h.all, effect_validate_of_read hphase hread, examine, effect_bind,
    hheader, resume_ok, effect_bind, hpayload, resume_ok, effect_bind, hconsent, resume_ok]
  exact effect_conclude rfl header link.board

/-- A payload that does not match is what the image is refused for. -/
theorem Checkable.effect_finalize_of_mismatch (h : link.Checkable header)
    (hmuted : link.board.flash.readPlan = none)
    (hmismatch : header.crc32 ≠ Crc32.checksum (link.board.flash.slice
      (link.board.loader.layout.slotB + Header.length) header.payloadLength)) :
    effect finalize link
      = (.error .crcMismatch,
          ⟨{ link.checking.session with header := some header }.failedWith .crcMismatch,
            link.board.unlocked⟩) := by
  have hadmits : link.checking.board.flash.Admits (Flash.imageReads header) :=
    Flash.admits_of_muted hmuted _
  -- The reads of the check are all admitted, and without a plan they leave the flash as it is.
  have hcheck := effect_validate_of_mismatch rfl hadmits h.holds h.wellShaped h.size_eq hmismatch
  rw [effect_finalize h.phase_eq h.all, hcheck]
  show (_, (⟨_, (⟨link.board.flash.afterReads _, _⟩ : Board g).unlocked⟩ : Link g)) = _
  rw [Flash.afterReads_of_muted hmuted]
  rfl

/-! ## The decision of the boot loader -/

/-- A complete session asks the boot loader, and frees the slot afterwards. -/
theorem effect_apply (hcomplete : link.session.phase = .complete) :
    ∃ session, effect apply link
      = ((effect takeOver link.board).1.mapError .ofBoot,
          ⟨session, (effect takeOver link.board).2.unlocked⟩) := by
  have houtcome := apply_outcome link
  generalize effect apply link = r at houtcome ⊢
  cases houtcome with
  | refused e notComplete => exact absurd hcomplete notComplete
  | turnedDown _ cause board taken =>
    rw [taken]
    exact ⟨_, rfl⟩
  | takenOver _ board taken =>
    rw [taken]
    exact ⟨_, rfl⟩

/-- The version decides whether a valid image is applied. Either way the flash stays as it is, and the
loader but for its notes on the image. -/
theorem apply_of_muted (hcomplete : link.session.phase = .complete)
    (hfree : link.board.loader.updateLocked = false) (hmuted : link.board.flash.readPlan = none)
    (hholds : link.board.flash.HoldsImage link.board.loader.layout.slotB header) :
    ∃ after, after.board.flash = link.board.flash
      ∧ (header.version.newerThan link.board.activeVersion = true
          ∧ effect apply link = (.ok (), after)
          ∧ link.board.Noted (link.board.loader.context.switchedTo header) after.board
        ∨ header.version.newerThan link.board.activeVersion = false
          ∧ effect apply link = (.error .validationFailed, after)
          ∧ link.board.Noted (link.board.loader.context.offered header) after.board) := by
  obtain ⟨session, happly⟩ := effect_apply hcomplete
  have hflash : (effect takeOver link.board).2.flash = link.board.flash :=
    Board.inspects_takeOver.flash_eq_of_muted hmuted
  -- What is left is how the boot loader takes over a valid image.
  have houtcome := Board.takeOver_outcome_of_muted hmuted hfree hholds
  generalize effect takeOver link.board = r at happly hflash houtcome
  cases houtcome with
  | switched newer noted =>
    exact ⟨_, hflash, .inl ⟨newer, happly, noted.cells_eq, noted.layout_eq, hfree.symm,
      noted.context_eq⟩⟩
  | stayed notNewer noted =>
    exact ⟨_, hflash, .inr ⟨notNewer, happly, noted.cells_eq, noted.layout_eq, hfree.symm,
      noted.context_eq⟩⟩

end Link

end DualSlot
