import DualSlot.Proofs.Boot.Verdict
import DualSlot.Proofs.Flash.Installing
import DualSlot.Proofs.Update.Delivery
import DualSlot.Simulation.Run

/-!
# What a simulated update comes to

The outcome of a simulation is a function of its settings. `Simulation.verdict` is that function, and
`Simulation.run_of_options` says that every run ends as it says, whatever source the payloads come from:

| settings                                              | outcome                     |
|-------------------------------------------------------|-----------------------------|
| the size leaves no room for a payload                 | no image                    |
| a chunk size or a size out of bounds                  | `invalidSize`               |
| otherwise, a corrupted payload                        | `crcMismatch`               |
| otherwise, a version that is not newer than 1.0.0     | `validationFailed`          |
| otherwise                                             | the update is applied, runs |

The run is followed stage by stage: the board that is set up (`Simulation.setUp_ready`), the string that is
sent (`Simulation.sent_eq`), the session (`Simulation.update_outcome`) and the boot
(`Simulation.Updated.boots`).
-/

namespace DualSlot

open DualSlot.Action

/-! ## Powering on -/

/-- A boot loader starts over every flash that its layout fits, if bytes can be read there. -/
theorem Board.effect_powerOn {g : Geometry} {layout : Layout} {flash : Flash g} (hfits : layout.Fits g)
    (hmuted : flash.readPlan = none) (hbytes : g.readSize = 1) :
    ∃ loader, effect (powerOn layout) flash = (.ok loader, flash) ∧ loader.context.bootCount = 1 := by
  have hlow := hfits.room_a
  have hhigh := hfits.room_b
  -- Both headers are read, whatever stands there.
  have hread : ∀ slot, slot + Header.length ≤ g.capacity →
      effect (Flash.read slot Header.length) flash = (.ok (flash.slice slot Header.length), flash) := by
    intro slot hroom
    rw [Flash.effect_read_of_admits (Flash.admits_of_muted hmuted 1)
      (Geometry.checkRead_of_room hbytes hroom), Flash.afterReads_of_muted hmuted]
  have hheaders : effect (headers layout) flash
      = (.ok (Header.decode (flash.slice layout.slotA Header.length),
          Header.decode (flash.slice layout.slotB Header.length)), flash) := by
    unfold headers
    rw [effect_bind, hread _ (by omega), resume_ok, effect_bind, hread _ hhigh]
    rfl
  obtain ⟨messages, hrun⟩ := apply_of_effect hheaders
  unfold headers at hrun
  unfold effect powerOn
  rw [dif_pos hfits]
  dsimp only
  rw [hrun]
  exact ⟨_, rfl, rfl⟩

namespace Simulation

/-! ## The board that is set up -/

/-- The factory image is the active one, the update slot is free, and no read is planned to fail. -/
structure Steady (factory : Image) (board : Board device) : Prop where
  layout_eq : board.loader.layout = slots
  active_eq : board.loader.context.active = .a
  activeHeader_eq : board.loader.context.activeHeader = factory.header
  bootCount_eq : board.loader.context.bootCount = 1
  free : board.loader.updateLocked = false
  reads : board.flash.readPlan = none

/-- The update slot is erased, and it can be erased and written. -/
structure Ready (factory : Image) (board : Board device) : Prop extends Steady factory board where
  works : board.flash.eraseBroken = false
  writes : board.flash.writePlan = none
  erased : board.flash.Erased slots.slotB device.capacity

/-- The factory image is installed, and the boot loader starts over it: the device is ready for an
update. -/
theorem setUp_ready {factory : Image} (hmade : factorySpec.Made factory) :
    ∃ loader flash, effect (setUp factory) (Flash.erased device) = (.ok loader, flash)
      ∧ Ready factory ⟨flash, loader⟩ := by
  have hlength : factory.bytes.length = 4096 := hmade.length_eq
  have hroom : slots.slotA + factory.bytes.length ≤ device.capacity := by
    rw [hlength]
    decide
  -- The pages of the factory image end before the update slot.
  have hpages : pageEnd (slots.slotA + factory.bytes.length) device.eraseSize ≤ slots.slotB := by
    rw [hlength]
    decide
  let blanked : Flash device := (Flash.erased device).blank (pageBase slots.slotA device.eraseSize)
    (pageEnd (slots.slotA + factory.bytes.length) device.eraseSize)
  let installed : Flash device := blanked.splice slots.slotA factory.bytes
  have hinstall : effect (Flash.install slots.slotA factory.bytes) (Flash.erased device)
      = (.ok (), installed) := Flash.effect_install rfl hroom
  have hpower : ∃ loader, effect (Board.powerOn slots) installed = (.ok loader, installed)
      ∧ loader.context.bootCount = 1 := Board.effect_powerOn (by decide) rfl rfl
  obtain ⟨loader, hpower, hcount⟩ := hpower
  -- What the loader is after power on needs no second look at its code.
  have hstarted : Board.Started slots (⟨installed, loader⟩ : Board device) :=
    Board.started_of_powerOn hpower
  have hheader : Header.decode (installed.slice slots.slotA Header.length) = factory.header := by
    have hcut : Header.length ≤ factory.bytes.length := by
      rw [hlength]
      decide
    -- The image stands in slot A, so its header is what is read there.
    have hstands := Flash.slice_splice blanked slots.slotA factory.bytes hroom
    rw [(Flash.slices_of_slice_eq hstands hcut hroom).1, Image.bytes,
      List.take_left' (Header.length_encode _), ← List.append_nil factory.header.encode]
    exact Header.decode_encode_append factory.header []
  refine ⟨loader, installed, ?_, ?_⟩
  · unfold setUp
    rw [effect_bind, effect_relabel, hinstall]
    dsimp only [Except.mapError]
    rw [resume_ok, effect_relabel, hpower]
    rfl
  · refine ⟨⟨hstarted.layout_eq, hstarted.active_eq, ?_, hcount, hstarted.free, rfl⟩, rfl, rfl, ?_⟩
    · rw [hstarted.activeHeader_eq, Board.stored, hstarted.layout_eq]
      exact hheader
    · -- The update slot lies behind all that was blanked and behind all that was installed.
      have hblanked : blanked.Erased slots.slotB device.capacity :=
        (Flash.erased_erased _ _).of_agreeOn (Flash.AgreeOn.blank _ (.inr hpages))
      have hbehind := le_pageEnd (slots.slotA + factory.bytes.length) device.eraseSize_pos
      exact hblanked.of_agreeOn (Flash.AgreeOn.splice _ (.inr (Nat.le_trans hbehind hpages)))

/-! ## The string that is sent -/

/-- Only the last byte is touched. -/
theorem flipLast_append (before : List UInt8) (b : UInt8) :
    flipLast (before ++ [b]) = before ++ [b ^^^ 1] := by
  have hlast : before.length < (before ++ [b]).length := by
    rw [List.length_append, List.length_singleton]
    exact Nat.lt_succ_self _
  unfold flipLast
  rw [List.length_append, List.length_singleton, Nat.add_sub_cancel,
    List.modify_eq_take_cons_drop hlast]
  simp

/-- A byte with its last bit flipped is another byte. -/
theorem xor_one_ne (b : UInt8) : b ^^^ 1 ≠ b := by
  intro h
  have hone : (1 : UInt8) = 0 := (UInt8.xor_right_inj b).mp (h.trans UInt8.xor_zero.symm)
  exact absurd hone (by decide)

/-- The header is sent as it is. The payload has its length, and its checksum unless it is corrupted. -/
theorem sent_eq (o : Options) {image : Image} (hpayload : image.payload ≠ []) :
    ∃ payload, sent o image = image.header.encode ++ payload
      ∧ payload.length = image.payload.length
      ∧ (Crc32.checksum payload = Crc32.checksum image.payload ↔ o.corrupt = false) := by
  unfold sent Image.bytes
  cases o.corrupt with
  | false => exact ⟨image.payload, if_neg Bool.false_ne_true, rfl, iff_of_true rfl rfl⟩
  | true =>
    -- The last byte that is sent is one of the payload.
    obtain ⟨before, b, hsplit⟩ : ∃ before b, image.payload = before ++ [b] :=
      ⟨_, _, (List.dropLast_append_getLast hpayload).symm⟩
    have hshort : [b].length ≤ 4 := Nat.le_add_left 1 3
    have hcorrupted : Corrupted (before ++ [b] ++ []) (before ++ [b ^^^ 1] ++ []) :=
      .replaced before [] rfl hshort fun heq => xor_one_ne b (List.singleton_inj.mp heq)
    rw [List.append_nil, List.append_nil] at hcorrupted
    refine ⟨before ++ [b ^^^ 1], ?_, ?_, ?_⟩
    · rw [if_pos rfl, hsplit, ← List.append_assoc, flipLast_append, List.append_assoc]
    · rw [hsplit, List.length_append, List.length_append]
      rfl
    · rw [hsplit]
      exact iff_of_false hcorrupted.checksum_ne Bool.noConfusion

/-! ## The session -/

/-- What the update should answer, by the settings alone. -/
def verdict (o : Options) : Except UpdateError Unit :=
  if o.chunkSize = 0 ∨ 1024 < o.chunkSize ∨ device.capacity - slots.slotB < o.size.toNat then
    .error .invalidSize
  else if o.corrupt then .error .crcMismatch
  else if o.version.newerThan ⟨1, 0, 0⟩ then .ok ()
  else .error .validationFailed

/-- The update was given up: slot A is active as before, and the update slot is free. -/
structure GivenUp (board : Board device) : Prop where
  activeSlot_eq : board.loader.activeSlot = slots.slotA
  free : board.loader.updateLocked = false

/-- The update is in its slot, which is the active one now, and can be booted. -/
structure Updated (image : Image) (board : Board device) : Prop where
  layout_eq : board.loader.layout = slots
  active_eq : board.loader.context.active = .b
  activeHeader_eq : board.loader.context.activeHeader = image.header
  bootCount_eq : board.loader.context.bootCount = 2
  free : board.loader.updateLocked = false
  reads : board.flash.readPlan = none
  holds : board.flash.HoldsImage slots.slotB image.header

/-- The session is about to check what it received: the header of an image and some payload. -/
structure Arrived (factory image : Image) (payload : List UInt8) (link : Link device) : Prop where
  steady : Steady factory link.board.unlocked
  checkable : link.Checkable image.header
  payload_eq : link.board.flash.slice (link.board.loader.layout.slotB + Header.length)
    image.header.payloadLength = payload
  accepts : link.session.accepts image.header = true

section Stages

variable {o : Options} {factory image : Image} {payload : List UInt8} {board : Board device}
  {link : Link device}

/-- A device that nothing was switched on is one on which the update was given up. -/
theorem Steady.givenUp (h : Steady factory board) : GivenUp board := by
  refine ⟨?_, h.free⟩
  rw [Loader.activeSlot, h.active_eq, h.layout_eq]
  rfl

/-- A size that fits a word is declared as it is. -/
theorem toNat_total {data : List UInt8} (hdata : data.length = o.size.toNat)
    (hsize : o.size.toNat < UInt32.size) : data.length.toUInt32.toNat = o.size.toNat := by
  rw [hdata]
  exact UInt32.toNat_ofNat_of_lt' hsize

/-- Sizes out of bounds end the transfer before it starts. -/
theorem transmit_of_missized {data : List UInt8} (hready : Ready factory board)
    (hdata : data.length = o.size.toNat) (hsize : o.size.toNat < UInt32.size)
    (hmissized : o.chunkSize = 0 ∨ 1024 < o.chunkSize
      ∨ device.capacity - slots.slotB < o.size.toNat) :
    effect (Link.transmit data.length.toUInt32 o.chunkSize data none) (connect board)
      = (.error .invalidSize, connect board) := by
  have hstart : effect (Link.start data.length.toUInt32 o.chunkSize) (connect board)
      = (.error .invalidSize, connect board) := by
    refine Link.effect_start_of_missized (.inl rfl) ?_
    rw [toNat_total hdata hsize]
    -- The three bounds are those of the session, with the layout of the simulated device.
    show _ ∨ _ ∨ device.capacity - board.loader.layout.slotB < o.size.toNat
    rw [hready.layout_eq]
    rcases hmissized with hzero | hmax | hroom
    · exact .inl (.inl hzero)
    · exact .inl (.inr hmax)
    · exact .inr (.inr hroom)
  rw [Link.transmit_none, effect_bind, hstart, resume_error]

/-- Sizes within bounds are all that a transfer asks for. -/
theorem Ready.mayStart {data : List UInt8} (h : Ready factory board) (hdata : data.length = o.size.toNat)
    (hpos : 0 < o.size.toNat) (hsize : o.size.toNat < UInt32.size) (hchunk : o.chunkSize ≠ 0)
    (hmax : o.chunkSize ≤ 1024) (hroom : o.size.toNat ≤ device.capacity - slots.slotB) :
    Link.MayStart data.length.toUInt32 o.chunkSize (connect board) := by
  have htotal := toNat_total hdata hsize
  refine ⟨.inl rfl, hchunk, hmax, fun hzero => ?_, ?_⟩
  · rw [hzero, UInt32.toNat_zero] at htotal
    omega
  · rw [htotal]
    show _ ≤ device.capacity - board.loader.layout.slotB
    rw [h.layout_eq]
    exact hroom

/-- An image that fits is received as a whole, and the session is about to check it. -/
theorem transmit_arrives (hready : Ready factory board) (hmade : (updateSpec o).Made image)
    (hlength : payload.length = image.payload.length)
    (hdata : (image.header.encode ++ payload).length = o.size.toNat)
    (hsize : o.size.toNat < UInt32.size) (hchunk : o.chunkSize ≠ 0) (hmax : o.chunkSize ≤ 1024)
    (hroom : o.size.toNat ≤ device.capacity - slots.slotB) :
    ∃ count link, effect (Link.transmit (image.header.encode ++ payload).length.toUInt32 o.chunkSize
        (image.header.encode ++ payload) none) (connect board) = (.ok count, link)
      ∧ Arrived factory image payload link := by
  have hwhole : image.bytes.length = o.size.toNat := hmade.length_eq
  have hlong := hmade.sealed.length_lt
  have htotal := toNat_total hdata hsize
  -- The transfer may start, it fits into the slot, and the slot is erased.
  have may := hready.mayStart hdata (by omega) hsize hchunk hmax hroom
  have hfits : (connect board).board.loader.layout.slotB
      + (image.header.encode ++ payload).length.toUInt32.toNat ≤ device.capacity := by
    have hslot : slots.slotB ≤ device.capacity := by decide
    show board.loader.layout.slotB + _ ≤ _
    rw [htotal, hready.layout_eq]
    omega
  have herased : (connect board).board.flash.Erased (connect board).board.loader.layout.slotB
      device.capacity := by
    show board.flash.Erased board.loader.layout.slotB _
    rw [hready.layout_eq]
    exact hready.erased
  have hentry : image.header.entryPoint ≠ 0 := by
    rw [hmade.entryPoint_eq]
    show Layout.mapped slots.slotB ≠ 0
    decide
  obtain ⟨count, link, hsent, hdelivered⟩ := Link.effect_transmit_of_erased may hready.free hready.works
    hready.writes herased (hdata.trans htotal.symm)
  obtain ⟨hcheckable, hpayload⟩ := hdelivered.checkable hmade.sealed hentry rfl hlength
    (htotal.trans hwhole.symm) hfits
  -- But for the lock and the bytes in the update slot, the board is the one from before.
  have hboard := hdelivered.board_eq
  have hlayout : link.board.loader.layout = board.loader.layout := congrArg (·.loader.layout) hboard
  refine ⟨count, link, hsent, ?_, hcheckable, ?_, ?_⟩
  · -- The lock is given back in `unlocked`, and all else is what it was when the device was
    -- ready.
    rw [hboard]
    exact ⟨hready.layout_eq, hready.active_eq, hready.activeHeader_eq, hready.bootCount_eq, rfl,
      hready.reads⟩
  · rw [hlayout]
    exact hpayload
  · rw [hdelivered.accepts_eq]
    rfl

/-- A payload with another checksum ends the update. -/
theorem Arrived.finalize_of_mismatch (h : Arrived factory image payload link)
    (hmismatch : Crc32.checksum payload ≠ image.header.crc32) :
    ∃ after, effect Link.finalize link = (.error .crcMismatch, after) ∧ GivenUp after.board := by
  rw [← h.payload_eq] at hmismatch
  exact ⟨_, h.checkable.effect_finalize_of_mismatch h.steady.reads hmismatch.symm, h.steady.givenUp⟩

/-- A session that completed has an image to apply. -/
theorem Arrived.finalize_of_match (h : Arrived factory image payload link)
    (hmatch : Crc32.checksum payload = image.header.crc32) :
    ∃ after, effect Link.finalize link = (.ok (), after)
      ∧ after.session.phase = .complete
      ∧ Steady factory after.board
      ∧ after.board.flash.HoldsImage after.board.loader.layout.slotB image.header := by
  rw [← h.payload_eq] at hmatch
  exact ⟨_, h.checkable.effect_finalize_of_match h.steady.reads hmatch.symm h.accepts, rfl, h.steady,
    { h.checkable.holds with crc32_eq := hmatch.symm }⟩

/-- The image is applied just if it is newer than the one from the factory. -/
theorem Steady.apply_cases (h : Steady factory link.board) (hcomplete : link.session.phase = .complete)
    (hholds : link.board.flash.HoldsImage link.board.loader.layout.slotB image.header) :
    (image.header.version.newerThan factory.header.version = true
        ∧ ∃ after, effect Link.apply link = (.ok (), after) ∧ Updated image after.board)
      ∨ (image.header.version.newerThan factory.header.version = false
        ∧ ∃ after, effect Link.apply link = (.error .validationFailed, after)
          ∧ GivenUp after.board) := by
  obtain ⟨after, hflash, happly⟩ := Link.apply_of_muted hcomplete h.free h.reads hholds
  rw [Board.activeVersion, h.activeHeader_eq] at happly
  rcases happly with ⟨hnewer, hok, hnoted⟩ | ⟨hnot, herror, hnoted⟩
  · -- The context after the switch is that of the board before, switched to the image.
    refine .inl ⟨hnewer, after, hok, ?_⟩
    have hcontext := hnoted.context_eq
    exact
      { layout_eq := hnoted.layout_eq.trans h.layout_eq
        active_eq := congrArg (·.active) hcontext
        activeHeader_eq := congrArg (·.activeHeader) hcontext
        bootCount_eq := by
          rw [hcontext]
          exact congrArg (· + 1) h.bootCount_eq
        free := hnoted.locked_eq.trans h.free
        reads := hflash ▸ h.reads
        holds := by
          rw [hflash, ← h.layout_eq]
          exact hholds }
  · -- The image is not newer, and all that the boot loader did was to note that.
    refine .inr ⟨hnot, after, herror, ?_, hnoted.locked_eq.trans h.free⟩
    have hactive : after.board.loader.context.active = .a :=
      (congrArg (·.active) hnoted.context_eq).trans h.active_eq
    rw [Loader.activeSlot, hactive, hnoted.layout_eq, h.layout_eq]
    rfl

/-- How the update ends: as the settings call for. -/
inductive UpdateOutcome (o : Options) (image : Image) : Except UpdateError Unit × Link device → Prop
  | givenUp {e : UpdateError} {link : Link device} (called : verdict o = .error e)
      (givenUp : GivenUp link.board) : UpdateOutcome o image (.error e, link)
  | updated {link : Link device} (called : verdict o = .ok ()) (updated : Updated image link.board) :
      UpdateOutcome o image (.ok (), link)

/-- The session ends as the settings call for, in each of the ways that `verdict` tells apart. -/
theorem update_outcome (hready : Ready factory board) (hfactory : factorySpec.Made factory)
    (hmade : (updateSpec o).Made image) (hsize : o.size.toNat < UInt32.size) :
    UpdateOutcome o image (effect (update (sent o image) o.chunkSize) (connect board)) := by
  obtain ⟨payload, hsent, hlength, hintact⟩ := sent_eq o hmade.sealed.payload_ne
  have hversion : image.header.version = o.version := hmade.version_eq
  have hold : factory.header.version = ⟨1, 0, 0⟩ := hfactory.version_eq
  have hcrc : image.header.crc32 = Crc32.checksum image.payload := hmade.sealed.crc32_eq
  have hdata : (image.header.encode ++ payload).length = o.size.toNat := by
    rw [List.length_append, Header.length_encode, hlength, ← image.length_bytes]
    exact hmade.length_eq
  unfold update
  rw [hsent, effect_bind]
  -- The verdict makes its checks in the order in which the session and the boot loader make theirs.
  by_cases hmissized :
      o.chunkSize = 0 ∨ 1024 < o.chunkSize ∨ device.capacity - slots.slotB < o.size.toNat
  · rw [transmit_of_missized hready hdata hsize hmissized, resume_error]
    exact .givenUp (if_pos hmissized) hready.givenUp
  -- All sizes are within bounds, so the image arrives.
  obtain ⟨hchunk, hmax, hroom⟩ := not_or.mp hmissized |>.imp_right not_or.mp
  obtain ⟨count, link, htransmit, harrived⟩ := transmit_arrives hready hmade hlength hdata
    hsize hchunk (UInt32.not_lt.mp hmax) (Nat.not_lt.mp hroom)
  rw [htransmit, resume_ok, effect_bind]
  cases hcorrupt : o.corrupt with
  | true =>
    -- The checksum was made of the payload before it was corrupted.
    have hmismatch : Crc32.checksum payload ≠ image.header.crc32 := by
      rw [hcrc]
      exact fun heq => Bool.noConfusion (hcorrupt.symm.trans (hintact.mp heq))
    obtain ⟨after, hfinalize, hgivenUp⟩ := harrived.finalize_of_mismatch hmismatch
    rw [hfinalize, resume_error]
    exact .givenUp (by rw [verdict, if_neg hmissized, if_pos hcorrupt]) hgivenUp
  | false =>
    -- The checksum is right, so the session completes; the version is left to the boot loader.
    obtain ⟨after, hfinalize, hcomplete, hsteady, hholds⟩ :=
      harrived.finalize_of_match ((hintact.mpr hcorrupt).trans hcrc.symm)
    have hplain : ¬ o.corrupt = true := by
      rw [hcorrupt]
      exact Bool.noConfusion
    rw [hfinalize, resume_ok]
    rcases hsteady.apply_cases hcomplete hholds with
      ⟨hnewer, last, happly, hupdated⟩ | ⟨hnot, last, happly, hgivenUp⟩
    · rw [hversion, hold] at hnewer
      rw [happly]
      exact .updated (by rw [verdict, if_neg hmissized, if_neg hplain, if_pos hnewer]) hupdated
    · rw [hversion, hold] at hnot
      rw [happly]
      refine .givenUp ?_ hgivenUp
      rw [verdict, if_neg hmissized, if_neg hplain, if_neg (by rw [hnot]; exact Bool.noConfusion)]

/-! ## The boot -/

/-- The update that was applied runs: it is booted as it is, for it is not newer than itself. -/
theorem Updated.boots (h : Updated image board) :
    ∃ booted, effect Board.boot board
        = (.ok ⟨slots.slotB, firmwareMagic, image.header.version.major⟩, booted)
      ∧ booted.loader.context.activeHeader = image.header
      ∧ booted.loader.context.bootCount = 2 := by
  have hholds : board.flash.HoldsImage board.loader.layout.slotB image.header := by
    rw [h.layout_eq]
    exact h.holds
  obtain ⟨booted, hboot, hnoted⟩ :=
    Board.boot_of_active_b h.reads rfl h.free h.active_eq h.activeHeader_eq hholds
  rw [h.layout_eq] at hboot
  exact ⟨booted, hboot, (congrArg (·.activeHeader) hnoted.context_eq).trans h.activeHeader_eq,
    (congrArg (·.bootCount) hnoted.context_eq).trans h.bootCount_eq⟩

/-- After a boot there is nothing left that can go wrong: the header of the image is inside the flash. -/
theorem bootEntries_of_boots {booted : Board device} {entry : AppEntry}
    (hboot : effect Board.boot board = (.ok entry, booted))
    (hroom : entry.slot + Header.length ≤ device.capacity) : (bootEntries board).2 = none := by
  -- The header that is printed starts where the boot has landed, inside of the flash.
  have hdump : booted.flash.dump entry.slot Header.length
      = .ok ⟨entry.slot, booted.flash.slice entry.slot Header.length⟩ := by
    refine if_neg (not_or.mpr ⟨?_, Nat.not_lt.mpr hroom⟩)
    decide
  obtain ⟨events, hrun⟩ := apply_of_effect hboot
  unfold bootEntries
  rw [hrun]
  dsimp only
  rw [hdump]

end Stages

/-! ## The whole run -/

/-- Without an image the run says why, and ends. -/
theorem run_of_noImage {source : ByteSource} {o : Options} {e : ImageError} {factory : Image}
    (hfactory : factorySpec.build source = .ok factory) (hnone : (updateSpec o).build source = .error e) :
    (run source o).failure = some e.message := by
  unfold run
  rw [hfactory, hnone]

/-- A run fails as its update does, or else as its boot does. -/
theorem run_of_setUp {source : ByteSource} {o : Options} {factory image : Image}
    {loader : Loader device} {flash : Flash device} (hfactory : factorySpec.build source = .ok factory)
    (himage : (updateSpec o).build source = .ok image)
    (hsetUp : effect (setUp factory) (Flash.erased device) = (.ok loader, flash)) :
    (run source o).failure
      = (finish (update (sent o image) o.chunkSize (connect ⟨flash, loader⟩))).2 := by
  obtain ⟨events, hrun⟩ := apply_of_effect hsetUp
  unfold run
  rw [hfactory, himage]
  dsimp only
  rw [hrun]

/-- Whatever the payloads and the options are, a run comes to what they call for: there is no image, or the
update is given up with the error of the verdict, and slot A stays active, or it is applied, and boots. -/
theorem run_of_options (source : ByteSource) (o : Options) (hsize : o.size.toNat < UInt32.size) :
    (o.size.toNat ≤ Header.length →
        (updateSpec o).build source = .error (.noPayload o.size.toNat)
          ∧ (run source o).failure = some (ImageError.noPayload o.size.toNat).message)
      ∧ (Header.length < o.size.toNat →
        ∃ factory image loader flash after,
          factorySpec.build source = .ok factory ∧ (updateSpec o).build source = .ok image
            ∧ effect (setUp factory) (Flash.erased device) = (.ok loader, flash)
            ∧ effect (update (sent o image) o.chunkSize) (connect ⟨flash, loader⟩) = (verdict o, after)
            ∧ (∀ e, verdict o = .error e →
              after.board.loader.activeSlot = slots.slotA
                ∧ after.board.loader.updateLocked = false
                ∧ (run source o).failure = some s!"update failed: {e.message}")
            ∧ (verdict o = .ok () →
              ∃ booted, effect Board.boot after.board
                  = (.ok ⟨slots.slotB, firmwareMagic, o.version.major⟩, booted)
                ∧ booted.loader.context.activeHeader = image.header
                ∧ booted.loader.context.bootCount = 2
                ∧ (run source o).failure = none)) := by
  -- The factory image has a fixed size, so it can be built from any source.
  obtain ⟨factory, hfactory, hfactoryMade⟩ := ImageSpec.build_of_fits source
    (show Header.length < factorySpec.size by decide) (show factorySpec.size < UInt32.size by decide)
  constructor
  · intro hnone
    have hbuild : (updateSpec o).build source = .error (.noPayload o.size.toNat) :=
      ImageSpec.build_of_noPayload source hnone
    exact ⟨hbuild, run_of_noImage hfactory hbuild⟩
  intro hlow
  -- The sizes that are left can be built too, and what is sent is as long as the settings say.
  obtain ⟨image, himage, hmade⟩ := ImageSpec.build_of_fits source
    (show Header.length < (updateSpec o).size from hlow)
    (show (updateSpec o).size < UInt32.size from hsize)
  obtain ⟨loader, flash, hsetUp, hready⟩ := setUp_ready hfactoryMade
  have hrun := run_of_setUp hfactory himage hsetUp
  have houtcome := update_outcome hready hfactoryMade hmade hsize
  generalize hupdate : effect (update (sent o image) o.chunkSize) (connect ⟨flash, loader⟩) = r
    at houtcome
  obtain ⟨answer, after⟩ := r
  obtain ⟨events, hraw⟩ := apply_of_effect hupdate
  rw [hraw] at hrun
  refine ⟨factory, image, loader, flash, after, hfactory, himage, hsetUp, ?_⟩
  cases houtcome with
  | givenUp called givenUp =>
    -- The answer of the update is the verdict, and the run fails with its message.
    refine ⟨hupdate.trans (by rw [called]), fun e he => ?_, fun hok => ?_⟩
    · obtain rfl := Except.error.inj (called.symm.trans he)
      exact ⟨givenUp.activeSlot_eq, givenUp.free, hrun⟩
    · cases called.symm.trans hok
  | updated called updated =>
    refine ⟨hupdate.trans (by rw [called]), fun e he => ?_, fun _ => ?_⟩
    · cases called.symm.trans he
    · -- The update was applied, so the run can only fail at its boot, which it does not.
      obtain ⟨booted, hboot, hheader, hcount⟩ := updated.boots
      have hroom : slots.slotB + Header.length ≤ device.capacity := by decide
      have hboots : (bootEntries after.board).2 = none := bootEntries_of_boots hboot hroom
      rw [hmade.version_eq] at hboot
      exact ⟨booted, hboot, hheader, hcount, hrun.trans hboots⟩

/-- The largest image that fits, in chunks that end in the middle of words: it boots, unless it was
corrupted. One more byte is too much. -/
theorem run_of_largest :
    (run Random.source { size := 917504, chunkSize := 7 }).failure = none
      ∧ (run Random.source { size := 917504, chunkSize := 7, corrupt := true }).failure
        = some "update failed: CRC mismatch"
      ∧ (run Random.source { size := 917505, chunkSize := 7 }).failure
        = some "update failed: invalid size" := by
  -- All three outcomes are cases of `run_of_options`, whose conditions are on the settings alone.
  refine ⟨?_, ?_, ?_⟩
  · obtain ⟨_, _, _, _, _, _, _, _, _, _, hupdated⟩ :=
      (run_of_options Random.source { size := 917504, chunkSize := 7 } (by decide)).2 (by decide)
    obtain ⟨_, _, _, _, hboots⟩ := hupdated rfl
    exact hboots
  · obtain ⟨_, _, _, _, _, _, _, _, _, hgivenUp, _⟩ :=
      (run_of_options Random.source { size := 917504, chunkSize := 7, corrupt := true } (by decide)).2
        (by decide)
    exact (hgivenUp .crcMismatch rfl).2.2
  · obtain ⟨_, _, _, _, _, _, _, _, _, hgivenUp, _⟩ :=
      (run_of_options Random.source { size := 917505, chunkSize := 7 } (by decide)).2 (by decide)
    exact (hgivenUp .invalidSize rfl).2.2

end Simulation

end DualSlot
