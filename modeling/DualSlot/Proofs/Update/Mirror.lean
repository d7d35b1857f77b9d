import DualSlot.Bench.Call
import DualSlot.Proofs.Boot.Kept
import DualSlot.Proofs.Flash.Pages
import DualSlot.Proofs.Update.Outcome

/-!
# What is sent is what is stored

One session works over a board that nobody else writes. A `Record` follows its run and remembers two
things that the session itself does not: the bytes of the chunks that were accepted since the last
start, and the flash as it was before that start.

* `Mirror` is the invariant: the update slot holds the bytes that were sent, then erased bytes up to the
  end of a page, and behind that page whatever was there before.
* `Record.mirrors_step` carries it through a turn, and `Record.mirrors_steps` through a run.
* `Record.sent_is_stored` is the outcome: the invariant, and that a transfer is brought to an end with
  success only if what was sent is a sound image.
-/

namespace DualSlot

/-! ## Runs of one session -/

/-- What may happen to a session and to the board under it. -/
inductive Turn where
  | start (total chunk : UInt32)
  | receive (number : UInt32) (data : List UInt8)
  | finalize
  | validate
  | abort
  | apply
  | poll (elapsed : UInt32)
  /-- The application changes its mind about images. -/
  | judge (accepts : Header → Bool)
  | flash (call : FlashCall)
  | boot (call : BootCall)

namespace Turn

/-- A turn writes nothing behind the back of the session. Reads, fault plans and the decisions of the
boot loader are free. -/
def Quiet : Turn → Prop
  | flash (.read ..) | flash (.readWord _) | flash (.checksum ..) | flash (.breakErase _)
  | flash (.planReads _) | flash (.planWrites _) => True
  | flash _ => False
  | boot (.eraseUpdateSlot _) | boot (.programUpdateSlot ..) | boot (.restart _) => False
  | _ => True

instance (turn : Turn) : Decidable turn.Quiet := by
  unfold Quiet
  split <;> infer_instance

/-- What is run on the session and the board. The answers of flash and boot loader are dropped. -/
def run {g : Geometry} : Turn → SessionAction g Unit
  | start total chunk => Link.start total chunk
  | receive number data => Link.receive number data
  | finalize => Link.finalize
  | validate => Link.validate
  | abort => Link.abort
  | apply => Link.apply
  | poll elapsed => Link.poll elapsed
  | judge accepts => Link.change fun s => { s with accepts }
  | flash call => do
    let _ ← Link.onBoard (Board.onFlash .flash call.run)
  | boot call => do
    let _ ← Link.onBoard call.run

end Turn

/-- A session, with the bytes of the chunks that were accepted since the last start, and the flash before
that start. -/
structure Record (g : Geometry) where
  link : Link g
  sent : List UInt8
  before : Flash g

namespace Record

open DualSlot.Action

variable {g : Geometry}

/-- A session before its first transfer. -/
def opened (config : SessionConfig) (accepts : Header → Bool) (board : Board g) : Record g :=
  ⟨⟨.fresh config accepts, board⟩, [], board.flash⟩

/-- One turn. Only calls that succeed leave a trace in the record. -/
def step (r : Record g) (turn : Turn) : Record g :=
  let after := effect turn.run r.link
  match turn, after.1 with
  | .start .., .ok () => ⟨after.2, [], r.link.board.flash⟩
  | .receive _ data, .ok () => ⟨after.2, r.sent ++ data, r.before⟩
  | _, _ => ⟨after.2, r.sent, r.before⟩

/-- The record follows the link, whatever else it remembers. -/
theorem link_step (r : Record g) (turn : Turn) : (r.step turn).link = (effect turn.run r.link).2 := by
  unfold step
  dsimp only
  split <;> rfl

/-- The record after a run of turns, whatever they answer. -/
def steps (r : Record g) (turns : List Turn) : Record g := turns.foldl step r

end Record

/-! ## The invariant -/

/-- The end of the pages that a transfer into a slot touches. -/
def transferEnd (g : Geometry) (slot : Nat) (transfer : Transfer) : Nat :=
  pageEnd (slot + transfer.totalSize.toNat) g.eraseSize

/-- The flash mirrors what was sent into a slot. -/
structure Mirror {g : Geometry} (flash : Flash g) (slot : Nat) (transfer : Transfer)
    (sent : List UInt8) (before : Flash g) : Prop where
  room : slot + transfer.totalSize.toNat ≤ g.capacity
  length_eq : sent.length = transfer.receivedBytes.toNat
  length_le : sent.length ≤ transfer.totalSize.toNat
  slice_eq : flash.slice slot sent.length = sent
  erased : flash.Erased (slot + sent.length) (transferEnd g slot transfer)
  behind : Flash.AgreeOn (transferEnd g slot transfer) g.capacity before flash

namespace Mirror

variable {g : Geometry} {flash flash' before : Flash g} {slot : Nat} {transfer : Transfer}
  {sent data : List UInt8}

/-- The invariant depends on the bytes of the flash only. -/
theorem of_cells_eq (h : Mirror flash slot transfer sent before)
    (hcells : flash'.cells = flash.cells) : Mirror flash' slot transfer sent before where
  room := h.room
  length_eq := h.length_eq
  length_le := h.length_le
  slice_eq := by
    unfold Flash.slice
    rw [hcells]
    exact h.slice_eq
  erased := h.erased.of_agreeOn (.of_cells_eq hcells.symm)
  behind := h.behind.trans (.of_cells_eq hcells.symm)

/-- A transfer begins with erased pages. -/
theorem declared {total chunk : UInt32} (hroom : slot + total.toNat ≤ g.capacity) (flash : Flash g) :
    Mirror (flash.blank slot (pageEnd (slot + total.toNat) g.eraseSize)) slot
      (.declare total chunk) [] flash where
  room := hroom
  length_eq := rfl
  length_le := Nat.zero_le _
  slice_eq := Flash.slice_zero _ slot
  erased := Flash.erased_blank flash slot _
  behind := Flash.AgreeOn.blank flash (.inr (Nat.le_refl _))

/-- The counter has room for what fits into the declared size. -/
theorem toNat_receivedBytes_accept (h : Mirror flash slot transfer sent before)
    (hfit : sent.length + data.length ≤ transfer.totalSize.toNat) :
    (transfer.accept data.length).receivedBytes.toNat = sent.length + data.length := by
  rw [h.length_eq] at hfit ⊢
  exact transfer.toNat_receivedBytes_accept hfit

/-- A chunk that is stored behind the others keeps the mirror. -/
theorem accept (h : Mirror flash slot transfer sent before)
    (hfit : sent.length + data.length ≤ transfer.totalSize.toNat) :
    Mirror (flash.splice (slot + sent.length) data) slot (transfer.accept data.length)
      (sent ++ data) before where
  room := h.room
  length_eq := by
    rw [h.toNat_receivedBytes_accept hfit, List.length_append]
  length_le := by
    rw [List.length_append]
    exact hfit
  slice_eq := by
    have hroom := h.room
    -- What was sent before lies below the chunk.
    have hfirst : Flash.AgreeOn slot (slot + sent.length) flash
        (flash.splice (slot + sent.length) data) :=
      Flash.AgreeOn.splice flash (.inl (Nat.le_refl _))
    rw [List.length_append, Flash.slice_append _ _ _ _ (by omega),
      ← hfirst.slice_eq (Nat.le_refl _) (Nat.le_refl _), h.slice_eq,
      Flash.slice_splice _ _ _ (by omega)]
  erased := by
    -- What was erased behind the last chunk is still erased behind this one.
    rw [List.length_append, ← Nat.add_assoc]
    refine (h.erased.mono (Nat.le_add_right _ _) (Nat.le_refl _)).of_agreeOn ?_
    exact Flash.AgreeOn.splice flash (.inr (Nat.le_refl _))
  behind := by
    -- No chunk goes past the declared size, so none goes past the end of its page.
    have hend : slot + transfer.totalSize.toNat ≤ transferEnd g slot transfer :=
      le_pageEnd _ g.eraseSize_pos
    refine h.behind.trans (Flash.AgreeOn.splice flash (.inr ?_))
    show slot + sent.length + data.length ≤ transferEnd g slot transfer
    omega

/-- The stored bytes fall into a header and a payload just as the sent ones do. -/
theorem slices_eq (h : Mirror flash slot transfer sent before) (hlength : Header.length ≤ sent.length) :
    flash.slice slot Header.length = sent.take Header.length
      ∧ flash.slice (slot + Header.length) (sent.length - Header.length)
        = sent.drop Header.length := by
  have hroom := h.room
  have hle := h.length_le
  exact Flash.slices_of_slice_eq h.slice_eq hlength (by omega)

end Mirror

/-! ## Calls that store nothing -/

namespace Link

open DualSlot.Action

variable {g : Geometry} {sent : List UInt8} {before : Flash g}

/-- While data may arrive, the flash mirrors what was sent. -/
def Mirrors (sent : List UInt8) (before : Flash g) (link : Link g) : Prop :=
  link.session.phase.receiving = true →
    Mirror link.board.flash link.board.loader.layout.slotB link.session.transfer sent before

/-- After a start the update slot mirrors the empty string. -/
theorem mirrors_reserved {link : Link g} {total chunk : UInt32} (may : MayStart total chunk link) :
    Mirrors [] link.board.flash
      ⟨link.session.started total chunk, reservedBoard link.board total.toNat⟩ := by
  intro _
  have hslot := link.board.loader.fits.room_b
  have htotal := may.total_le
  exact Mirror.declared (by omega) link.board.flash

/-- A validation keeps the mirror: it is refused, or the transfer is over with it. -/
theorem mirrors_validate : Keeps (Mirrors sent before) validate := by
  refine Keeps.of_outcome validate_outcome fun link r outcome h => ?_
  -- A check that is made ends the transfer, whichever way it goes.
  cases outcome with
  | refused e _ => exact h
  | failed e header board _ => exact fun h => nomatch h
  | completed header board _ _ => exact fun h => nomatch h

/-- So does a finalize, which turns to the same check. -/
theorem mirrors_finalize : Keeps (Mirrors sent before) finalize := by
  refine Keeps.of_outcome finalize_outcome fun link r outcome h => ?_
  cases outcome with
  | refused e => exact h
  | checked _ _ outcome =>
    cases outcome with
    | refused e _ => exact fun h => nomatch h
    | failed e header board _ => exact fun h => nomatch h
    | completed header board _ _ => exact fun h => nomatch h

/-- An abort ends the transfer, if there is one. -/
theorem mirrors_abort : Keeps (Mirrors sent before) abort := by
  refine Keeps.of_outcome abort_outcome fun link r outcome h => ?_
  cases outcome with
  | refused e _ => exact h
  | ended _ => exact fun h => nomatch h

/-- An apply finds a complete session, to which no data arrives. -/
theorem mirrors_apply : Keeps (Mirrors sent before) apply := by
  refine Keeps.of_outcome apply_outcome fun link r outcome h => ?_
  cases outcome with
  | refused e _ => exact h
  | turnedDown _ cause board _ => exact fun h => nomatch h
  | takenOver _ board _ => exact fun h => nomatch h

/-- A poll moves the clock alone. -/
theorem mirrors_poll (elapsed : UInt32) : Keeps (Mirrors sent before) (poll elapsed) := by
  intro link h
  obtain ⟨answer, idle, heq⟩ := poll_outcome elapsed link
  rw [heq]
  exact h

end Link

/-! ## Turns -/

namespace Record

open DualSlot.Action

variable {g : Geometry}

/-- The flash mirrors what the record says was sent. -/
def Mirrors (r : Record g) : Prop := r.link.Mirrors r.sent r.before

/-- A start that succeeds begins an empty mirror; the others leave no session that receives. -/
theorem mirrors_start {r : Record g} (hr : r.Mirrors) (total chunk : UInt32) :
    (r.step (.start total chunk)).Mirrors := by
  have houtcome : Link.StartOutcome total chunk r.link (effect (Turn.start total chunk).run r.link) :=
    Link.start_outcome total chunk r.link
  unfold step
  generalize effect (Turn.start total chunk).run r.link = after at houtcome ⊢
  cases houtcome with
  | refused e => exact hr
  | slotLocked _ _ => exact fun h => nomatch h
  | notErased _ _ => exact fun h => nomatch h
  -- The record begins anew: nothing sent yet, and the flash as it was before the erase.
  | started may _ => exact Link.mirrors_reserved may

/-- A chunk that is accepted is stored behind the others. -/
theorem mirrors_receive {r : Record g} (hr : r.Mirrors) (number : UInt32) (data : List UInt8) :
    (r.step (.receive number data)).Mirrors := by
  have houtcome : Link.ReceiveOutcome number data r.link
      (effect (Turn.receive number data).run r.link) := Link.receive_outcome number data r.link
  unfold step
  generalize effect (Turn.receive number data).run r.link = after at houtcome ⊢
  cases houtcome with
  | refused e _ => exact hr
  -- A chunk that fails halfway ends the session, so its traces need not be accounted for.
  | notWritten _ cause board _ => exact fun h => nomatch h
  | accepted expected board written =>
    intro _
    have hmirror := hr expected.receiving
    have hlength := hmirror.length_eq
    have hremaining := expected.le_remaining
    unfold Transfer.remaining at hremaining
    have hle := hmirror.length_le
    -- The bytes go behind those that were sent before.
    rw [Board.effect_programUpdateSlot, ← hlength] at written
    split at written
    · obtain ⟨hcells, hloader, _⟩ := Board.programFrom_ok written
      dsimp only
      rw [hloader]
      exact (hmirror.accept (by omega)).of_cells_eq hcells
    · cases written

/-- A quiet call on the flash changes none of its bytes. -/
theorem cells_quiet_flash {call : FlashCall} (hquiet : (Turn.flash call).Quiet) (flash : Flash g) :
    (effect (call.run : FlashAction g Answer) flash).2.cells = flash.cells := by
  unfold FlashCall.run
  cases call with
  -- The calls that read do not write; the plans are no bytes; the rest is not quiet.
  | read offset length =>
    rw [effect_map]
    exact (Flash.onlyReads_read offset length).cells_eq flash
  | readWord offset =>
    rw [effect_map]
    exact (Flash.onlyReads_readWord offset).cells_eq flash
  | checksum offset length =>
    rw [effect_map]
    exact (Flash.onlyReads_checksum offset length).cells_eq flash
  | breakErase broken => rfl
  | planReads plan => rfl
  | planWrites plan => rfl
  | erase start stop => exact hquiet.elim
  | erasePage offset => exact hquiet.elim
  | write offset data => exact hquiet.elim
  | writeWord offset value => exact hquiet.elim
  | install offset data => exact hquiet.elim
  | corrupt offset value => exact hquiet.elim

/-- Calls on the flash that write nothing keep the mirror. -/
theorem mirrors_flash {r : Record g} (hr : r.Mirrors) {call : FlashCall}
    (hquiet : (Turn.flash call).Quiet) : (r.step (.flash call)).Mirrors := by
  intro hreceiving
  exact (hr hreceiving).of_cells_eq (cells_quiet_flash hquiet r.link.board.flash)

/-- A quiet call of the boot loader changes neither the bytes nor the layout. -/
theorem frame_quiet_boot {call : BootCall} (hquiet : (Turn.boot call).Quiet) (board : Board g) :
    (effect (call.run : BoardAction g Answer) board).2.flash.cells = board.flash.cells
      ∧ (effect (call.run : BoardAction g Answer) board).2.loader.layout = board.loader.layout := by
  cases call.kind with
  -- What only inspects keeps bytes and layout; of the rest the quiet ones touch the lock alone.
  | inspection inspects => exact ⟨(inspects.frame board).1, (inspects.frame board).2.1⟩
  | lockUpdateSlot =>
    show (effect (Board.lockUpdateSlot.answering Answer.done) board).2.flash.cells = _
      ∧ (effect (Board.lockUpdateSlot.answering Answer.done) board).2.loader.layout = _
    rw [effect_answering]
    cases h : board.loader.updateLocked with
    | true =>
      rw [Board.effect_lockUpdateSlot_of_locked h]
      exact ⟨rfl, rfl⟩
    | false =>
      rw [Board.effect_lockUpdateSlot_of_free h]
      exact ⟨rfl, rfl⟩
  | unlockUpdateSlot => exact ⟨rfl, rfl⟩
  | eraseUpdateSlot length => exact hquiet.elim
  | programUpdateSlot offset data => exact hquiet.elim
  | restart layout => exact hquiet.elim

/-- So do the calls of the boot loader. -/
theorem mirrors_boot {r : Record g} (hr : r.Mirrors) {call : BootCall}
    (hquiet : (Turn.boot call).Quiet) : (r.step (.boot call)).Mirrors := by
  intro hreceiving
  -- The slot is the one of the layout, which is as it was.
  obtain ⟨hcells, hlayout⟩ := frame_quiet_boot hquiet r.link.board
  have hmirror := (hr hreceiving).of_cells_eq hcells
  rw [← hlayout] at hmirror
  exact hmirror

/-- The mirror survives every turn. Most of them store nothing. -/
theorem mirrors_step {r : Record g} (hr : r.Mirrors) {turn : Turn} (hquiet : turn.Quiet) :
    (r.step turn).Mirrors := by
  cases turn with
  | start total chunk => exact mirrors_start hr total chunk
  | receive number data => exact mirrors_receive hr number data
  | finalize => exact Link.mirrors_finalize r.link hr
  | validate => exact Link.mirrors_validate r.link hr
  | abort => exact Link.mirrors_abort r.link hr
  | apply => exact Link.mirrors_apply r.link hr
  | poll elapsed => exact Link.mirrors_poll elapsed r.link hr
  | judge accepts => exact hr
  | flash call => exact mirrors_flash hr hquiet
  | boot call => exact mirrors_boot hr hquiet

/-- The mirror survives every run of quiet turns. -/
theorem mirrors_steps {r : Record g} (hr : r.Mirrors) {turns : List Turn}
    (hquiet : ∀ turn ∈ turns, turn.Quiet) : (r.steps turns).Mirrors := by
  induction turns generalizing r with
  | nil => exact hr
  | cons turn rest ih =>
    refine ih (mirrors_step hr (hquiet turn List.mem_cons_self)) ?_
    exact fun turn hturn => hquiet turn (List.mem_cons_of_mem _ hturn)

/-! ## The outcome -/

/-- What is sent is what is stored: the update slot begins with the bytes that were sent, goes on with
erased bytes to the end of a page, and behind that page all is as it was before the transfer. -/
structure Stored (r : Record g) : Prop where
  sent_eq : r.link.board.flash.slice r.link.board.loader.layout.slotB
      r.link.session.transfer.receivedBytes.toNat = r.sent
  rest_erased : ∀ i, r.link.board.loader.layout.slotB
        + r.link.session.transfer.receivedBytes.toNat ≤ i →
      i < transferEnd g r.link.board.loader.layout.slotB r.link.session.transfer →
      r.link.board.flash.cells[i]? = some erasedByte
  behind_eq : ∀ i, transferEnd g r.link.board.loader.layout.slotB r.link.session.transfer ≤ i →
      r.link.board.flash.cells[i]? = r.before.cells[i]?

/-- The invariant in the words of the outcome, byte by byte. -/
theorem stored_of_mirror {r : Record g}
    (h : Mirror r.link.board.flash r.link.board.loader.layout.slotB r.link.session.transfer r.sent
      r.before) : r.Stored where
  sent_eq := by
    rw [← h.length_eq]
    exact h.slice_eq
  rest_erased i hlow hhigh := by
    have hend : transferEnd g r.link.board.loader.layout.slotB r.link.session.transfer ≤ g.capacity :=
      pageEnd_le g.eraseSize_pos h.room
    rw [← h.length_eq] at hlow
    exact (Cells.isErased_iff (by omega)).mp (h.erased i hlow hhigh)
  behind_eq i hlow := by
    -- Behind the end of the flash there is nothing before and nothing after.
    by_cases hi : i < g.capacity
    · exact (h.behind i hlow hi).symm
    · rw [Vector.getElem?_eq_none (by omega), Vector.getElem?_eq_none (by omega)]

/-- A string is a sound image of a size: a header for just these bytes, and the payload that the header
describes. -/
structure SoundImage (bytes : List UInt8) (total : UInt32) (header : Header) : Prop where
  length_eq : bytes.length = total.toNat
  length_lt : Header.length < bytes.length
  decode_eq : Header.decode (bytes.take Header.length) = header
  magic_eq : header.magic = firmwareMagic
  entryPoint_ne : header.entryPoint ≠ 0
  size_eq : header.size = total
  crc32_eq : header.crc32 = Crc32.checksum (bytes.drop Header.length)

/-- The checks of the stored image are checks of what was sent. -/
theorem soundImage_of_sound {r : Record g} {header : Header}
    (h : Mirror r.link.board.flash r.link.board.loader.layout.slotB r.link.session.transfer r.sent
      r.before)
    (hall : r.link.session.transfer.receivedBytes = r.link.session.transfer.totalSize)
    (hsound : Link.Sound header r.link.checking) :
    SoundImage r.sent r.link.session.transfer.totalSize header := by
  have hlength : r.sent.length = r.link.session.transfer.totalSize.toNat := by
    rw [h.length_eq, hall]
  have hlt : Header.length < r.link.session.transfer.totalSize.toNat := hsound.length_lt
  have hshape := hsound.wellShaped
  unfold Header.wellShaped at hshape
  simp only [Bool.and_eq_true, beq_iff_eq, bne_iff_ne] at hshape
  obtain ⟨hheader, hpayload⟩ := h.slices_eq (by omega)
  -- The header gives the length of the payload, and that is all that was sent behind it.
  have hpayloadLength : header.payloadLength = r.sent.length - Header.length := by
    unfold Header.payloadLength
    rw [hlength, hsound.size_eq]
    rfl
  have hcrc := hsound.crc32_eq
  rw [hpayloadLength] at hcrc
  exact
    { length_eq := hlength
      length_lt := by omega
      decode_eq := by
        rw [← hheader]
        exact hsound.decode_eq
      magic_eq := hshape.1.1
      entryPoint_ne := hshape.2
      size_eq := hsound.size_eq
      crc32_eq := by
        -- What was checked is the payload behind the header, in the slot as in the string.
        rw [← hpayload]
        exact hcrc }

/-- Before its first transfer a session receives nothing, so there is nothing to mirror. -/
theorem mirrors_opened (config : SessionConfig) (accepts : Header → Bool) (board : Board g) :
    (opened config accepts board).Mirrors :=
  fun h => nomatch h

/-- In every run of a session over a board that nobody else writes: while data may arrive, what was sent
is stored. And if a transfer is brought to an end with success, then what was sent is a sound image,
which the session keeps the header of and which the application accepted. -/
theorem sent_is_stored (config : SessionConfig) (accepts : Header → Bool) (board : Board g)
    {turns : List Turn} (hquiet : ∀ turn ∈ turns, turn.Quiet) :
    let r := (opened config accepts board).steps turns
    (r.link.session.phase.receiving = true → r.Stored)
      ∧ ((effect Link.finalize r.link).1 = .ok () →
          ∃ header, SoundImage r.sent r.link.session.transfer.totalSize header
            ∧ (effect Link.finalize r.link).2.session.header = some header
            ∧ r.link.session.accepts header = true) := by
  intro r
  -- One invariant is behind both parts.
  have hmirrors : r.Mirrors := mirrors_steps (mirrors_opened config accepts board) hquiet
  refine ⟨fun hreceiving => stored_of_mirror (hmirrors hreceiving), ?_⟩
  intro hok
  have houtcome := Link.finalize_outcome r.link
  generalize effect Link.finalize r.link = after at houtcome hok ⊢
  cases houtcome with
  | refused e => cases hok
  | checked phase_eq all outcome =>
    -- Up to the check data was still to arrive, so the mirror is there.
    have hreceiving : r.link.session.phase.receiving = true := by
      rw [phase_eq]
      rfl
    cases outcome with
    | refused e _ => cases hok
    | failed e header board _ => cases hok
    | completed header board _ sound =>
      exact ⟨header, soundImage_of_sound (hmirrors hreceiving) all sound, rfl, sound.accepted⟩

/-- An image that is sent in two chunks, while a read of the boot loader fails. -/
def twoChunks : List Turn :=
  [.start 84 50,
    .receive 0 ((Factory.header.encode ++ Factory.payload).take 50),
    .flash (.planReads (some (.window .outOfRange 0 (some 1)))),
    .boot (.validate 0),
    .receive 1 ((Factory.header.encode ++ Factory.payload).drop 50)]

def twoChunksRecord : Record .tiny := (opened {} (fun _ => true) Factory.board).steps twoChunks

/-- The image arrives in the update slot of the device from the factory, and is found sound. -/
theorem twoChunks_stored :
    twoChunksRecord.Stored ∧ ∃ header, SoundImage twoChunksRecord.sent 84 header := by
  have hquiet : ∀ turn ∈ twoChunks, turn.Quiet := by decide
  -- The run is computed; what it stored and what it sent comes from the theorem.
  have hrun : (twoChunksRecord.link.session.phase.receiving
      && twoChunksRecord.link.session.transfer.totalSize == 84
      && (effect Link.finalize twoChunksRecord.link).1.isOk) = true := by decide +kernel
  simp only [Bool.and_eq_true, beq_iff_eq] at hrun
  obtain ⟨⟨hreceiving, htotal⟩, hok⟩ := hrun
  unfold twoChunksRecord at hreceiving htotal hok ⊢
  obtain ⟨hstored, hsound⟩ := sent_is_stored {} (fun _ => true) Factory.board hquiet
  refine ⟨hstored hreceiving, ?_⟩
  rw [htotal] at hsound
  generalize (effect Link.finalize
    ((opened {} (fun _ => true) Factory.board).steps twoChunks).link).1 = answer at hok hsound
  cases answer with
  | error e => cases hok
  | ok _ =>
    obtain ⟨header, himage, _⟩ := hsound rfl
    exact ⟨header, himage⟩

end Record

end DualSlot
