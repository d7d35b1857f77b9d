import DualSlot.Bench.Call
import DualSlot.Proofs.Boot.Image
import DualSlot.Proofs.Update.Effect

/-!
# How the calls of a session end

For every call of a session, all the ways in which it can end: the answer, the session and the board
after it, and what was the case before. Everything that is proved of sessions starts from here, and no
other proof opens a call.

| call             | outcomes                                            |
|------------------|-----------------------------------------------------|
| `start`          | refused, slot locked, not erased, started           |
| `receive`        | refused, not written, accepted                      |
| `checkHeader`    | misshapen, missized, passed                         |
| `checkPayload`   | unread, corrupt, passed                             |
| `askApplication` | vetoed, consented                                   |
| `validate`       | refused, failed, completed                          |
| `finalize`       | refused, or checked as by `validate`                |
| `apply`          | refused, turned down by the boot loader, taken over |
| `abort`          | refused, ended                                      |
-/

namespace DualSlot.Link

open DualSlot.Action

variable {g : Geometry} {link : Link g}

/-! ## Starting -/

/-- A transfer may be declared: no session is in flight, the sizes make sense and the update slot has
room. -/
structure MayStart (total chunk : UInt32) (link : Link g) : Prop where
  phase_rests : link.session.phase = .idle ∨ link.session.phase.terminal = true
  chunk_ne : chunk ≠ 0
  chunk_le : chunk ≤ link.session.config.maxChunk
  total_ne : total ≠ 0
  total_le : total.toNat ≤ g.capacity - link.board.loader.layout.slotB

/-- The board with a locked update slot, of which the first `length` bytes are erased. -/
def reservedBoard (board : Board g) (length : Nat) : Board g where
  flash := board.flash.blank board.loader.layout.slotB
    (pageEnd (board.loader.layout.slotB + length) g.eraseSize)
  loader :=
    { board.loader with
      context := { board.loader.context with updatePending := false }
      updateLocked := true }

/-- The four ways in which a start ends. Only one of them touches the board: where the erase
fails, the lock is given back and no byte has changed. -/
inductive StartOutcome (total chunk : UInt32) (link : Link g) : Except UpdateError Unit × Link g → Prop
  | refused (e : UpdateError) : StartOutcome total chunk link (.error e, link)
  | slotLocked (may : MayStart total chunk link)
      (locked : link.board.loader.updateLocked = true) :
      StartOutcome total chunk link
        (.error .invalidState, ⟨link.session.declared total chunk, link.board⟩)
  | notErased (may : MayStart total chunk link)
      (free : link.board.loader.updateLocked = false) :
      StartOutcome total chunk link
        (.error .flashError,
          ⟨(link.session.declared total chunk).moved .failed (some .flashError), link.board⟩)
  | started (may : MayStart total chunk link)
      (free : link.board.loader.updateLocked = false) :
      StartOutcome total chunk link
        (.ok (), ⟨link.session.started total chunk, reservedBoard link.board total.toNat⟩)

/-- Locking and erasing either both happen or leave the board as it is. -/
theorem effect_reserve_cases (total : UInt32) {link : Link g}
    (hidle : link.session.phase = .idle) :
    (effect (reserve total) link = (.error .invalidState, link)
        ∧ link.board.loader.updateLocked = true)
      ∨ (effect (reserve total) link
            = (.error .flashError,
                ⟨link.session.moved .failed (some .flashError), link.board⟩)
          ∧ link.board.loader.updateLocked = false)
      ∨ (effect (reserve total) link
            = (.ok (), ⟨link.session, reservedBoard link.board total.toNat⟩)
          ∧ link.board.loader.updateLocked = false) := by
  cases hlocked : link.board.loader.updateLocked with
  | true =>
    -- A slot that another session holds: the lock answers, and the erase is not tried.
    refine .inl ⟨?_, rfl⟩
    unfold reserve
    rw [effect_bind, effect_onBoard, Board.effect_lockUpdateSlot_of_locked hlocked]
    rfl
  | false =>
    refine .inr ?_
    have hallows : link.session.phase.allows .failed = true := by
      rw [hidle]
      rfl
    have hidle' : boardAfter link.board link.session.phase .failed = link.board := by
      rw [hidle]
      rfl
    unfold reserve
    rw [effect_bind, effect_onBoard, Board.effect_lockUpdateSlot_of_free hlocked, resume_ok,
      effect_bind, effect_onBoard]
    rcases Board.eraseUpdateSlot_cases total.toNat link.board.locked with ⟨e, herror⟩ | ⟨hok, _⟩
    · -- The erase failed, so the lock that was just taken is given back.
      rw [herror]
      simp only [resume_ok, effect_bind, effect_release, Board.unlocked_locked hlocked, effect_log]
      rw [effect_enter hallows, hidle']
      exact .inl ⟨rfl, trivial⟩
    · -- The lock is held and the slot is blank, as `reservedBoard` says.
      rw [hok]
      exact .inr ⟨rfl, rfl⟩

/-- What a start does once the last transfer is forgotten. -/
def begin (total chunk : UInt32) : SessionAction g Unit := do
  log (.starting total (Transfer.declare total chunk).totalChunks chunk)
  reserve total
  change fun s =>
    { s with statistics := { s.statistics with total := s.statistics.total + 1 } }
  enter .waitingForStart none
  setProgress 0

/-- The answer of the boot loader to `reserve` decides between the three outcomes that are left. -/
theorem begin_outcome {total chunk : UInt32} (may : MayStart total chunk link) :
    StartOutcome total chunk link
      (effect (begin total chunk) ⟨link.session.declared total chunk, link.board⟩) := by
  have hidle : (⟨link.session.declared total chunk, link.board⟩ : Link g).session.phase = .idle := rfl
  unfold begin
  rw [effect_bind, effect_log, resume_ok, effect_bind]
  rcases effect_reserve_cases total hidle with ⟨heq, hlock⟩ | ⟨heq, hlock⟩ | ⟨heq, hlock⟩
  · rw [heq]
    exact .slotLocked may hlock
  · rw [heq]
    exact .notErased may hlock
  · -- Only a session that is going on counts as started, so the counter moves after the lock.
    rw [heq, resume_ok, effect_bind, effect_change, resume_ok, effect_bind, effect_enter]
    · exact .started may hlock
    · rfl

/-- The declaration keeps the phase, which the model writes out as `idle`. -/
theorem effect_declare {link : Link g} (hidle : link.session.phase = .idle) (total chunk : UInt32) :
    effect (declare total chunk) link
      = (.ok (), ⟨link.session.declared total chunk, link.board⟩) := by
  unfold declare Session.declared
  rw [effect_change, ← hidle]

/-- Whatever phase the last transfer ended in, forgetting it leaves the board alone. -/
theorem effect_enter_idle {link : Link g} (hterminal : link.session.phase.terminal = true) :
    effect (enter .idle none) link = (.ok (), ⟨link.session.moved .idle none, link.board⟩) := by
  rw [effect_enter (Phase.allows_idle_of_terminal hterminal),
    boardAfter_of_not_busy _ (Phase.not_busy_of_terminal hterminal)]

/-- Forget the last transfer, which ended in some phase, and begin another one. -/
def renew (phase : Phase) (total chunk : UInt32) : SessionAction g Unit := do
  if (← lookLoader (·.context.active)) = .b then
    log (.overRunningImage (← lookLoader (·.updateSlot)))
  if phase ≠ .idle then enter .idle none
  declare total chunk
  begin total chunk

/-- What may not be started is refused before anything is changed. -/
theorem start_cases (total chunk : UInt32) (link : Link g) :
    (¬ MayStart total chunk link
        ∧ Refuses (start total chunk) link)
      ∨ (MayStart total chunk link
        ∧ start total chunk link = renew link.session.phase total chunk link) := by
  unfold Refuses start
  rw [look_bind, look_bind, room_bind]
  split
  · -- The tests come in the order of the program: the phase, then the chunk, then the total.
    rename_i hphase
    refine .inl ⟨fun may => ?_, _, _, rfl, rfl⟩
    rcases may.phase_rests with hidle | hterminal
    · exact hphase.1 hidle
    · cases hphase.2.symm.trans hterminal
  rename_i hphase
  split
  · rename_i hchunk
    exact .inl ⟨fun may => hchunk.elim may.chunk_ne (UInt32.not_lt.mpr may.chunk_le), _, _, rfl, rfl⟩
  rename_i hchunk
  split
  · rename_i htotal
    exact .inl ⟨fun may => htotal.elim may.total_ne (Nat.not_lt.mpr may.total_le), _, _, rfl, rfl⟩
  rename_i htotal
  refine .inr ⟨?_, rfl⟩
  -- All three tests have passed, and what they did not find is what `MayStart` asks for.
  rw [not_or] at hchunk htotal
  refine ⟨?_, hchunk.1, UInt32.not_lt.mp hchunk.2, htotal.1, Nat.le_of_not_lt htotal.2⟩
  by_cases hidle : link.session.phase = .idle
  · exact .inl hidle
  · exact .inr (by simpa [hidle] using hphase)

/-- From a phase other than `idle` the session passes through it first. A running image in the update
slot is no obstacle: it is only reported. -/
theorem effect_renew {total chunk : UInt32} (may : MayStart total chunk link) :
    effect (renew link.session.phase total chunk) link
      = effect (begin total chunk) ⟨link.session.declared total chunk, link.board⟩ := by
  -- The report on a running image comes before this part and changes nothing, so it is split off.
  have hforget : effect (do
        if link.session.phase ≠ .idle then enter .idle none
        declare total chunk
        begin total chunk : SessionAction g Unit) link
      = effect (begin total chunk) ⟨link.session.declared total chunk, link.board⟩ := by
    by_cases hidle : link.session.phase = .idle
    · rw [if_neg (not_not_intro hidle), effect_bind, effect_declare hidle]
      rfl
    · rw [if_pos hidle, effect_bind, effect_enter_idle (may.phase_rests.resolve_left hidle),
        resume_ok, effect_bind, effect_declare rfl]
      rfl
  unfold renew
  -- Both branches of the report lead to the same rest.
  rw [effect_bind, effect_lookLoader, resume_ok]
  by_cases hactive : link.board.loader.context.active = .b
  · rw [if_pos hactive, effect_bind, effect_lookLoader, resume_ok, effect_bind, effect_log, resume_ok]
    exact hforget
  · rw [if_neg hactive]
    exact hforget

/-- Where a start is allowed, it comes to `begin` on the declared session. -/
theorem effect_start_of_may {total chunk : UInt32} (may : MayStart total chunk link) :
    effect (start total chunk) link
      = effect (begin total chunk) ⟨link.session.declared total chunk, link.board⟩ := by
  rcases start_cases total chunk link with ⟨mayNot, _⟩ | ⟨_, heq⟩
  · exact absurd may mayNot
  · rw [effect_congr heq, effect_renew may]

/-- Every start ends in one of the four ways. -/
theorem start_outcome (total chunk : UInt32) (link : Link g) :
    StartOutcome total chunk link (effect (start total chunk) link) := by
  rcases start_cases total chunk link with ⟨_, hrefuses⟩ | ⟨may, _⟩
  · obtain ⟨e, heq⟩ := hrefuses.effect_eq
    rw [heq]
    exact .refused e
  · rw [effect_start_of_may may]
    exact begin_outcome may

/-! ## Receiving -/

/-- A chunk is refused and nothing happens, or the write fails and ends the session, or it is
stored. -/
inductive ReceiveOutcome (number : UInt32) (data : List UInt8) (link : Link g) :
    Except UpdateError Unit × Link g → Prop
  | refused (e : UpdateError) (unexpected : ¬ link.session.Expects number data) :
      ReceiveOutcome number data link (.error e, link)
  | notWritten (expected : link.session.Expects number data) (cause : BootError) (board : Board g)
      (written : effect
          (Board.programUpdateSlot link.session.transfer.receivedBytes.toNat data) link.board
        = (.error cause, board)) :
      ReceiveOutcome number data link
        (.error .flashError, ⟨link.session.failedWith .flashError, board.unlocked⟩)
  | accepted (expected : link.session.Expects number data) (board : Board g)
      (written : effect
          (Board.programUpdateSlot link.session.transfer.receivedBytes.toNat data) link.board
        = (.ok (), board)) :
      ReceiveOutcome number data link (.ok (), ⟨link.session.accepted data.length, board⟩)

/-- What follows on a chunk that was written: it is counted, and the first one moves the session on. -/
def count (phase : Phase) (transfer : Transfer) (length : Nat) : SessionAction g Unit := do
  if phase = .waitingForStart then enter .receivingData none
  let transfer := transfer.accept length
  change fun s => { s with transfer, idle := 0 }
  log (.received transfer.receivedChunks transfer.totalChunks length)
  setProgress transfer.percent

/-- Store a chunk behind those that have arrived. -/
def store (phase : Phase) (transfer : Transfer) (number : UInt32) (data : List UInt8) :
    SessionAction g Unit := do
  match ← onBoard (Board.programUpdateSlot transfer.receivedBytes.toNat data) with
  | .error e => abandon (.chunkNotWritten number e) .flashError
  | .ok () => count phase transfer data.length

/-- A chunk is refused just if it is not the one that the session expects. -/
theorem receive_cases (number : UInt32) (data : List UInt8) (link : Link g) :
    (¬ link.session.Expects number data
        ∧ Refuses (receive number data) link)
      ∨ (link.session.Expects number data
        ∧ receive number data link
          = store link.session.phase link.session.transfer number data link) := by
  unfold Refuses receive
  rw [look_bind, look_bind]
  split
  · -- Phase, number and length, in the order in which the program tests them.
    rename_i hphase
    exact .inl ⟨fun h => by simp [h.receiving] at hphase, _, _, rfl, rfl⟩
  rename_i hphase
  split
  · rename_i hnumber
    exact .inl ⟨fun h => hnumber h.number_eq, _, _, rfl, rfl⟩
  rename_i hnumber
  split
  · rename_i hlength
    refine .inl ⟨fun h => ?_, _, _, rfl, rfl⟩
    have := h.length_pos
    have := h.le_chunk
    have := h.le_remaining
    omega
  rename_i hlength
  -- The negations of the three tests are the fields of `Expects`.
  refine .inr ⟨?_, rfl⟩
  rw [not_or, not_or] at hlength
  exact
    { receiving := by simpa using hphase
      number_eq := Decidable.not_not.mp hnumber
      length_pos := by omega
      le_chunk := by omega
      le_remaining := by omega }

/-- Counting a chunk is `accepted`, whether it is the first one or a later one. -/
theorem effect_count {session : Session} (h : session.phase.receiving = true) (board : Board g)
    (length : Nat) :
    effect (count session.phase session.transfer length) ⟨session, board⟩
      = (.ok (), ⟨session.accepted length, board⟩) := by
  unfold count
  -- The first chunk moves the session on, all others find it where it should be.
  rcases (Phase.receiving_iff _).mp h with hwaiting | hreceiving
  · rw [if_pos hwaiting, effect_bind, effect_enter, boardAfter_busy _ _ rfl]
    · rfl
    · rw [hwaiting]
      rfl
  · have hnot : session.phase ≠ .waitingForStart := by
      rw [hreceiving]
      exact fun h => nomatch h
    rw [if_neg hnot]
    unfold Session.accepted
    rw [← hreceiving]
    rfl

/-- Every chunk ends in one of the three ways. -/
theorem receive_outcome (number : UInt32) (data : List UInt8) (link : Link g) :
    ReceiveOutcome number data link (effect (receive number data) link) := by
  rcases receive_cases number data link with ⟨unexpected, hrefuses⟩ | ⟨expected, heq⟩
  · obtain ⟨e, heq⟩ := hrefuses.effect_eq
    rw [heq]
    exact .refused e unexpected
  rw [effect_congr heq]
  unfold store
  rw [effect_bind, effect_onBoard, resume_ok]
  rcases hwritten : effect
      (Board.programUpdateSlot link.session.transfer.receivedBytes.toNat data) link.board with
    ⟨_ | _, board⟩
  · -- A session that expects a chunk is busy, so a failed write gives the lock back.
    dsimp only
    rw [effect_abandon_of_busy]
    · exact .notWritten expected _ board hwritten
    · exact Phase.busy_of_receiving expected.receiving
  · dsimp only
    rw [effect_count expected.receiving]
    exact .accepted expected board hwritten

/-- A chunk that is not expected changes nothing. -/
theorem receive_of_unexpected {number : UInt32} {data : List UInt8}
    (h : ¬ link.session.Expects number data) : (effect (receive number data) link).2 = link := by
  -- The outcomes other than a refusal ask for an expected chunk.
  have houtcome := receive_outcome number data link
  generalize effect (receive number data) link = r at houtcome ⊢
  cases houtcome with
  | refused e _ => rfl
  | notWritten expected _ _ _ => exact absurd expected h
  | accepted expected _ _ => exact absurd expected h

/-- The answer of the board to the write decides: what was written is accepted. -/
theorem effect_receive_of_written {number : UInt32} {data : List UInt8} {board : Board g}
    (expected : link.session.Expects number data)
    (written : effect (Board.programUpdateSlot link.session.transfer.receivedBytes.toNat data)
      link.board = (.ok (), board)) :
    effect (receive number data) link = (.ok (), ⟨link.session.accepted data.length, board⟩) := by
  -- The write has one answer, so the outcome with the other one cannot be.
  have houtcome := receive_outcome number data link
  generalize effect (receive number data) link = r at houtcome ⊢
  cases houtcome with
  | refused e unexpected => exact absurd expected unexpected
  | notWritten _ cause _ failed => cases failed.symm.trans written
  | accepted _ _ written' =>
    cases written'.symm.trans written
    rfl

/-! ## Checking -/

/-- The image in the update slot is what it should be: a well-shaped header of the declared size, the
checksum of the payload, and the consent of the application. All of it can be read. -/
structure Sound (header : Header) (link : Link g) : Prop where
  header_place : g.checkRead link.board.loader.layout.slotB Header.length = .ok ()
  decode_eq : Header.decode
      (link.board.flash.slice link.board.loader.layout.slotB Header.length) = header
  wellShaped : header.wellShaped = true
  length_lt : Header.length < link.session.transfer.totalSize.toNat
  size_eq : header.size = link.session.transfer.totalSize
  payload_feeds : g.Feeds (Flash.checksumReads header.payloadLength)
    (link.board.loader.layout.slotB + Header.length) header.payloadLength
  crc32_eq : header.crc32 = Crc32.checksum
      (link.board.flash.slice (link.board.loader.layout.slotB + Header.length)
        header.payloadLength)
  accepted : link.session.accepts header = true

/-- The image that a session found sound is valid for the boot loader, if the transfer had room. -/
theorem Sound.holdsImage {header : Header} (h : Sound header link)
    (hroom : link.board.loader.layout.slotB + link.session.transfer.totalSize.toNat ≤ g.capacity) :
    link.board.flash.HoldsImage link.board.loader.layout.slotB header where
  header_place := h.header_place
  decode_eq := h.decode_eq
  magic_eq := by
    -- The magic number is one of the three tests of the shape.
    have hshape := h.wellShaped
    unfold Header.wellShaped at hshape
    simp only [Bool.and_eq_true, beq_iff_eq] at hshape
    exact hshape.1.1
  length_lt := by
    rw [h.size_eq]
    exact h.length_lt
  le_capacity := by
    rw [h.size_eq]
    exact hroom
  payload_feeds := h.payload_feeds
  crc32_eq := h.crc32_eq

/-- The header is turned down for its shape or its size, or nothing happens. -/
inductive HeaderOutcome (header : Header) (link : Link g) : Except UpdateError Unit × Link g → Prop
  | misshapen (shape : header.wellShaped = false) (message : UpdateMessage) :
      HeaderOutcome header link (effect (abandon message .validationFailed) link)
  | missized (size : link.session.transfer.totalSize.toNat ≤ Header.length
        ∨ header.size ≠ link.session.transfer.totalSize) (message : UpdateMessage) :
      HeaderOutcome header link (effect (abandon message .validationFailed) link)
  | passed (wellShaped : header.wellShaped = true)
      (length_lt : Header.length < link.session.transfer.totalSize.toNat)
      (size_eq : header.size = link.session.transfer.totalSize) :
      HeaderOutcome header link (.ok (), link)

/-- The shape is tested before the size. -/
theorem checkHeader_outcome (header : Header) (link : Link g) :
    HeaderOutcome header link (effect (checkHeader header) link) := by
  unfold checkHeader
  rw [effect_bind, effect_look, resume_ok]
  split
  · rename_i hshape
    exact .misshapen (by simpa using hshape) _
  rename_i hshape
  split
  · rename_i hsize
    exact .missized hsize _
  · rename_i hsize
    rw [not_or] at hsize
    exact .passed (by simpa using hshape) (Nat.lt_of_not_le hsize.1) (Decidable.not_not.mp hsize.2)

/-- The payload cannot be read, or it is, and the checksum decides. -/
inductive PayloadOutcome (header : Header) (link : Link g) : Except UpdateError Unit × Link g → Prop
  | unread (cause : BootError) (board : Board g)
      (read : effect (Board.payloadCrc link.board.loader.layout.slotB header) link.board
        = (.error cause, board)) (message : UpdateMessage) :
      PayloadOutcome header link (effect (abandon message .flashError) ⟨link.session, board⟩)
  | corrupt (calculated : UInt32) (board : Board g)
      (read : effect (Board.payloadCrc link.board.loader.layout.slotB header) link.board
        = (.ok calculated, board)) (differs : calculated ≠ header.crc32) (message : UpdateMessage) :
      PayloadOutcome header link (effect (abandon message .crcMismatch) ⟨link.session, board⟩)
  | passed (board : Board g)
      (read : effect (Board.payloadCrc link.board.loader.layout.slotB header) link.board
        = (.ok header.crc32, board)) :
      PayloadOutcome header link (.ok (), ⟨link.session, board⟩)

/-- Only a payload that was read is compared, and only an equal checksum passes. -/
theorem checkPayload_outcome (header : Header) (link : Link g) :
    PayloadOutcome header link (effect (checkPayload header) link) := by
  unfold checkPayload
  rw [effect_bind, effect_lookLoader, resume_ok, effect_bind, effect_onBoard, resume_ok]
  rcases hcrc : effect (Board.payloadCrc link.board.loader.updateSlot header) link.board with
    ⟨cause | calculated, board⟩
  · exact .unread cause board hcrc _
  · dsimp only
    split
    · rename_i hdiffers
      exact .corrupt calculated board hcrc hdiffers _
    · rename_i hequal
      rw [Decidable.not_not.mp hequal] at hcrc
      exact .passed board hcrc

/-- The application has the last word. -/
inductive ConsentOutcome (header : Header) (link : Link g) : Except UpdateError Unit × Link g → Prop
  | vetoed (veto : link.session.accepts header = false) (message : UpdateMessage) :
      ConsentOutcome header link (effect (abandon message .validationFailed) link)
  | consented (accepted : link.session.accepts header = true) :
      ConsentOutcome header link (.ok (), link)

/-- The hook is told first; its answer changes no state. -/
theorem askApplication_outcome (header : Header) (link : Link g) :
    ConsentOutcome header link (effect (askApplication header) link) := by
  unfold askApplication
  rw [effect_bind, effect_notify, resume_ok, effect_bind, effect_look, resume_ok]
  split
  · rename_i hveto
    exact .vetoed (by simpa using hveto) _
  · rename_i haccepts
    exact .consented (by simpa using haccepts)

/-- A check either passes, and then a condition holds, or it ends a session that is in flight. It only
reads the flash. -/
def Checks (x : SessionAction g Unit) (condition : Link g → Prop) : Prop :=
  ∀ link : Link g, link.session.phase.busy = true →
    ∃ board, Board.SameBytes link.board board
      ∧ ((effect x link = (.ok (), ⟨link.session, board⟩) ∧ condition link)
        ∨ ∃ e, effect x link = (.error e, ⟨link.session.failedWith e, board.unlocked⟩))

/-- The header check passes just the headers of a good shape and of the declared size. -/
theorem checks_checkHeader (header : Header) :
    Checks (checkHeader header : SessionAction g Unit) fun link =>
      header.wellShaped = true ∧ Header.length < link.session.transfer.totalSize.toNat
        ∧ header.size = link.session.transfer.totalSize := by
  intro link hbusy
  refine ⟨link.board, .refl _, ?_⟩
  have houtcome := checkHeader_outcome header link
  generalize effect (checkHeader header) link = r at houtcome ⊢
  cases houtcome with
  | misshapen _ message => exact .inr ⟨_, effect_abandon_of_busy hbusy _ _⟩
  | missized _ message => exact .inr ⟨_, effect_abandon_of_busy hbusy _ _⟩
  | passed wellShaped length_lt size_eq => exact .inl ⟨rfl, wellShaped, length_lt, size_eq⟩

/-- The payload check passes just the payloads that can be read and have the checksum of the
header. -/
theorem checks_checkPayload (header : Header) :
    Checks (checkPayload header : SessionAction g Unit) fun link =>
      g.Feeds (Flash.checksumReads header.payloadLength)
          (link.board.loader.layout.slotB + Header.length) header.payloadLength
        ∧ header.crc32 = Crc32.checksum
          (link.board.flash.slice (link.board.loader.layout.slotB + Header.length)
            header.payloadLength) := by
  intro link hbusy
  -- Reading the payload uses up faults, which is all that it changes of the board.
  have hinspects : Board.Inspects (fun _ => False)
      (Board.payloadCrc link.board.loader.layout.slotB header : BoardAction g UInt32) :=
    Board.inspects_payloadCrc _ _
  have hsame := hinspects.sameBytes link.board
  have houtcome := checkPayload_outcome header link
  generalize effect (checkPayload header) link = r at houtcome ⊢
  cases houtcome with
  | unread cause board read message =>
    rw [read] at hsame
    refine ⟨board, hsame, .inr ⟨.flashError, ?_⟩⟩
    rw [effect_abandon_of_busy]
    exact hbusy
  | corrupt calculated board read _ message =>
    rw [read] at hsame
    refine ⟨board, hsame, .inr ⟨.crcMismatch, ?_⟩⟩
    rw [effect_abandon_of_busy]
    exact hbusy
  | passed board read =>
    -- A checksum that was computed without an error is that of the bytes in the slot.
    rw [read] at hsame
    obtain ⟨_, hfeeds, hchecksum⟩ := Board.payloadCrc_answers (congrArg Prod.fst read)
    exact ⟨board, hsame, .inl ⟨rfl, hfeeds, hchecksum⟩⟩

/-- The application passes just what it accepts. -/
theorem checks_askApplication (header : Header) :
    Checks (askApplication header : SessionAction g Unit) fun link =>
      link.session.accepts header = true := by
  intro link hbusy
  refine ⟨link.board, .refl _, ?_⟩
  have houtcome := askApplication_outcome header link
  generalize effect (askApplication header) link = r at houtcome ⊢
  cases houtcome with
  | vetoed _ message => exact .inr ⟨_, effect_abandon_of_busy hbusy _ _⟩
  | consented accepted => exact .inl ⟨rfl, accepted⟩

/-- One check after the other: both conditions hold if both pass. -/
theorem Checks.bind {x y : SessionAction g Unit} {p q : Link g → Prop} (hx : Checks x p)
    (hy : Checks y q)
    (hq : ∀ session board board', Board.SameBytes board board' → q ⟨session, board'⟩ →
      q ⟨session, board⟩) :
    Checks (x >>= fun _ => y) fun link => p link ∧ q link := by
  intro link hbusy
  obtain ⟨board, hsame, ⟨hok, hp⟩ | ⟨e, herror⟩⟩ := hx link hbusy
  · -- The second check runs on a board that differs in its fault plan only.
    obtain ⟨board', hsame', ⟨hok', hq'⟩ | ⟨e, herror⟩⟩ := hy ⟨link.session, board⟩ hbusy
    · refine ⟨board', hsame.trans hsame', .inl ⟨?_, hp, hq _ _ _ hsame hq'⟩⟩
      rw [effect_bind, hok]
      exact hok'
    · refine ⟨board', hsame.trans hsame', .inr ⟨e, ?_⟩⟩
      rw [effect_bind, hok]
      exact herror
  · -- The first check failed, and the second is not run.
    refine ⟨board, hsame, .inr ⟨e, ?_⟩⟩
    rw [effect_bind, herror]
    rfl

/-- The checks of a header that was read, all in a row. -/
theorem checks_all (header : Header) :
    Checks (do
      checkHeader header
      checkPayload header
      askApplication header : SessionAction g Unit) fun link =>
        (header.wellShaped = true ∧ Header.length < link.session.transfer.totalSize.toNat
          ∧ header.size = link.session.transfer.totalSize)
        ∧ (g.Feeds (Flash.checksumReads header.payloadLength)
              (link.board.loader.layout.slotB + Header.length) header.payloadLength
          ∧ header.crc32 = Crc32.checksum
              (link.board.flash.slice (link.board.loader.layout.slotB + Header.length)
                header.payloadLength))
        ∧ link.session.accepts header = true := by
  -- From the right: payload and application first, then the header before both.
  refine (checks_checkHeader header).bind ?_ ?_
  · refine (checks_checkPayload header).bind (checks_askApplication header) ?_
    exact fun _ _ _ _ h => h
  · -- The conditions of the later checks speak of bytes and layout, which the earlier ones kept.
    intro session board board' hsame h
    dsimp only at h ⊢
    rw [← hsame.slice_eq, ← hsame.loader_eq]
    exact h

/-- What follows on the checks. -/
def conclude (header : Header) : SessionAction g Unit := do
  log (.validated header)
  enter .complete none
  setProgress 100
  change fun s =>
    { s with
      statistics := { s.statistics with successful := s.statistics.successful + 1 }
      restartRequired := true }

/-- An image that passed completes the session, and completing it gives the lock back. -/
theorem effect_conclude {session : Session} (hphase : session.phase = .validating) (header : Header)
    (board : Board g) :
    effect (conclude header) ⟨{ session with header := some header }, board⟩
      = (.ok (), ⟨session.completed header, board.unlocked⟩) := by
  unfold conclude
  -- The session is still in flight when it enters `complete`, so the lock is released there.
  rw [effect_bind, effect_log, resume_ok, effect_bind, effect_enter, boardAfter_of_busy]
  · rfl
  · rw [hphase]
    rfl
  · rfl
  · rw [hphase]
    rfl

/-- What follows on the header, once it was read. -/
def examine (header : Header) : SessionAction g Unit := do
  checkHeader header
  checkPayload header
  askApplication header
  conclude header

/-- Outside of `validating` there is nothing to check. -/
theorem effect_validate_of_not_validating (hphase : link.session.phase ≠ .validating) :
    effect validate link = (.error .invalidState, link) := by
  unfold validate
  rw [effect_bind, effect_look, resume_ok, if_pos hphase]
  rfl

/-- A header that cannot be read ends the session. -/
theorem effect_validate_of_unread (hphase : link.session.phase = .validating) {cause : BootError}
    {board : Board g} (read : effect (Board.readHeader link.board.loader.layout.slotB) link.board
      = (.error cause, board)) :
    effect validate link
      = effect (abandon (.headerNotRead cause) .flashError) ⟨link.session, board⟩ := by
  unfold validate
  rw [effect_bind, effect_look, resume_ok, if_neg (not_not_intro hphase), effect_bind,
    effect_lookLoader, resume_ok, effect_bind, effect_onBoard, resume_ok, Loader.updateSlot, read]

/-- The header is kept in the session even if a check fails. -/
theorem effect_validate_of_read (hphase : link.session.phase = .validating) {header : Header}
    {board : Board g} (read : effect (Board.readHeader link.board.loader.layout.slotB) link.board
      = (.ok header, board)) :
    effect validate link
      = effect (examine header) ⟨{ link.session with header := some header }, board⟩ := by
  unfold validate
  rw [effect_bind, effect_look, resume_ok, if_neg (not_not_intro hphase), effect_bind,
    effect_lookLoader, resume_ok, effect_bind, effect_onBoard, resume_ok, Loader.updateSlot, read]
  dsimp only
  rw [effect_bind, effect_change, resume_ok]
  rfl

/-- A validation is refused, or it fails and the session with it, or the image is sound. The board
differs at the end in its lock and its faults alone. -/
inductive ValidateOutcome (link : Link g) : Except UpdateError Unit × Link g → Prop
  | refused (e : UpdateError) (notValidating : link.session.phase ≠ .validating) :
      ValidateOutcome link (.error e, link)
  | failed (e : UpdateError) (header : Option Header) (board : Board g)
      (same : Board.SameBytes link.board board) :
      ValidateOutcome link (.error e, ⟨{ link.session with header }.failedWith e, board.unlocked⟩)
  | completed (header : Header) (board : Board g) (same : Board.SameBytes link.board board)
      (sound : Sound header link) :
      ValidateOutcome link (.ok (), ⟨link.session.completed header, board.unlocked⟩)

/-- Every validation ends in one of the three ways. -/
theorem validate_outcome (link : Link g) : ValidateOutcome link (effect validate link) := by
  by_cases hphase : link.session.phase = .validating
  · -- From here on the session holds the lock, which each of the checks gives back when it fails.
    have hbusy : link.session.phase.busy = true := by
      rw [hphase]
      rfl
    have hinspects : Board.Inspects (fun _ => False)
        (Board.readHeader link.board.loader.layout.slotB : BoardAction g Header) :=
      Board.inspects_readHeader _
    have hsame := hinspects.sameBytes link.board
    rcases hread : effect (Board.readHeader link.board.loader.layout.slotB) link.board with
      ⟨cause | header, board⟩
    · -- The header cannot be read, and nothing else is tried.
      rw [hread] at hsame
      rw [effect_validate_of_unread hphase hread, effect_abandon_of_busy]
      · exact .failed _ link.session.header board hsame
      · exact hbusy
    rw [hread] at hsame
    obtain ⟨_, hplace, hdecode, _⟩ := Board.readHeader_answers hread
    -- The checks run with the header kept in the session, on a board that has lost a fault at
    -- most.
    let looked : Link g := ⟨{ link.session with header := some header }, board⟩
    have hexamine : (examine header : SessionAction g Unit)
        = (do
          checkHeader header
          checkPayload header
          askApplication header) >>= fun _ => conclude header := by
      simp only [examine, bind_assoc]
    rw [effect_validate_of_read hphase hread, hexamine, effect_bind]
    obtain ⟨board', hsame',
      ⟨hok, ⟨hshape, hlength, hsize⟩, ⟨hfeeds, hcrc⟩, haccepts⟩ | ⟨e, herror⟩⟩ :=
      checks_all header looked hbusy
    · -- All three checks passed, on boards with the bytes of the first one.
      rw [hok, resume_ok, effect_conclude hphase]
      refine .completed header board' (hsame.trans hsame') ?_
      exact
        { header_place := hplace
          decode_eq := hdecode
          wellShaped := hshape
          length_lt := hlength
          size_eq := hsize
          payload_feeds := by
            rw [← hsame.loader_eq]
            exact hfeeds
          crc32_eq := by
            rw [← hsame.slice_eq, ← hsame.loader_eq]
            exact hcrc
          accepted := haccepts }
    · -- One of the checks failed: the header stays in the session.
      rw [herror]
      exact .failed e (some header) board' (hsame.trans hsame')
  · rw [effect_validate_of_not_validating hphase]
    exact .refused _ hphase

/-- The session that has all bytes and checks them. -/
def checking (link : Link g) : Link g :=
  ⟨{ link.session with phase := .validating, progress := 95 }, link.board⟩

/-- Turn to checking the image. -/
def check : SessionAction g Unit := do
  log .finalizing
  enter .validating none
  setProgress 95
  validate

/-- A transfer is finalized just if all of its bytes are there. -/
theorem finalize_cases (link : Link g) :
    (¬ (link.session.phase = .receivingData
          ∧ link.session.transfer.receivedBytes = link.session.transfer.totalSize)
        ∧ Refuses finalize link)
      ∨ (link.session.phase = .receivingData
        ∧ link.session.transfer.receivedBytes = link.session.transfer.totalSize
        ∧ finalize link = check link) := by
  unfold Refuses finalize
  rw [look_bind, look_bind]
  split
  · -- The phase is tested before the bytes.
    rename_i hphase
    exact .inl ⟨fun h => hphase h.1, _, _, rfl, rfl⟩
  rename_i hphase
  split
  · rename_i hall
    exact .inl ⟨fun h => hall h.2, _, _, rfl, rfl⟩
  rename_i hall
  exact .inr ⟨Decidable.not_not.mp hphase, Decidable.not_not.mp hall, rfl⟩

/-- The session turns to `validating` while it keeps the lock. -/
theorem effect_check (hphase : link.session.phase = .receivingData) :
    effect check link = effect validate link.checking := by
  have hallows : link.session.phase.allows .validating = true := by
    rw [hphase]
    rfl
  unfold check
  rw [effect_bind, effect_log, resume_ok, effect_bind, effect_enter hallows, boardAfter_busy _ _ rfl]
  rfl

/-- With all bytes there, what is left is a check. -/
theorem effect_finalize (hphase : link.session.phase = .receivingData)
    (hall : link.session.transfer.receivedBytes = link.session.transfer.totalSize) :
    effect finalize link = effect validate link.checking := by
  rcases finalize_cases link with ⟨notReady, _⟩ | ⟨_, _, heq⟩
  · exact absurd ⟨hphase, hall⟩ notReady
  · rw [effect_congr heq, effect_check hphase]

/-- A finalize that is not refused ends as the validation does that it turns to. -/
inductive FinalizeOutcome (link : Link g) : Except UpdateError Unit × Link g → Prop
  | refused (e : UpdateError) : FinalizeOutcome link (.error e, link)
  | checked (phase_eq : link.session.phase = .receivingData)
      (all : link.session.transfer.receivedBytes = link.session.transfer.totalSize)
      {r : Except UpdateError Unit × Link g} (outcome : ValidateOutcome link.checking r) :
      FinalizeOutcome link r

/-- Every finalize is refused or checks the image. -/
theorem finalize_outcome (link : Link g) : FinalizeOutcome link (effect finalize link) := by
  rcases finalize_cases link with ⟨_, hrefuses⟩ | ⟨hphase, hall, heq⟩
  · obtain ⟨e, heq⟩ := hrefuses.effect_eq
    rw [heq]
    exact .refused e
  · rw [effect_congr heq, effect_check hphase]
    exact .checked hphase hall (validate_outcome link.checking)

/-! ## Applying and ending -/

/-- An apply is refused, or the boot loader turns the image down or takes it over. Both of the
latter free the slot, whoever holds it. -/
inductive ApplyOutcome (link : Link g) : Except UpdateError Unit × Link g → Prop
  | refused (e : UpdateError) (notComplete : link.session.phase ≠ .complete) :
      ApplyOutcome link (.error e, link)
  | turnedDown (complete : link.session.phase = .complete) (cause : BootError) (board : Board g)
      (taken : effect takeOver link.board = (.error cause, board)) :
      ApplyOutcome link
        (.error (.ofBoot cause),
          ⟨{ link.session with phase := .failed, lastError := some (.ofBoot cause) },
            board.unlocked⟩)
  | takenOver (complete : link.session.phase = .complete) (board : Board g)
      (taken : effect takeOver link.board = (.ok (), board)) :
      ApplyOutcome link
        (.ok (), ⟨{ link.session with phase := .complete, restartRequired := true },
          board.unlocked⟩)

/-- Let the boot loader take the image over, and end up complete again or failed. -/
def handOver : SessionAction g Unit := do
  log .applying
  enter .updating none
  match ← onBoard takeOver with
  | .error e =>
    log (.refused e)
    enter .failed (some (.ofBoot e))
    Action.fail (.ofBoot e)
  | .ok () =>
    change fun s => { s with restartRequired := true }
    enter .complete none
    log .applied

/-- Only a complete session hands its image over. -/
theorem apply_cases (link : Link g) :
    (link.session.phase ≠ .complete ∧ Refuses apply link)
      ∨ (link.session.phase = .complete ∧ apply link = handOver link) := by
  unfold Refuses apply
  rw [look_bind]
  split
  · rename_i hphase
    exact .inl ⟨hphase, _, _, rfl, rfl⟩
  · rename_i hphase
    exact .inr ⟨Decidable.not_not.mp hphase, rfl⟩

/-- Every apply ends in one of the three ways. -/
theorem apply_outcome (link : Link g) : ApplyOutcome link (effect apply link) := by
  rcases apply_cases link with ⟨hphase, hrefuses⟩ | ⟨hcomplete, heq⟩
  · obtain ⟨e, heq⟩ := hrefuses.effect_eq
    rw [heq]
    exact .refused e hphase
  have hallows : link.session.phase.allows .updating = true := by
    rw [hcomplete]
    rfl
  rw [effect_congr heq]
  unfold handOver
  rw [effect_bind, effect_log, resume_ok, effect_bind, effect_enter hallows, boardAfter_busy _ _ rfl,
    resume_ok, effect_bind, effect_onBoard, resume_ok]
  -- Either way the session leaves `updating`, and with it the lock.
  rcases htaken : effect takeOver link.board with ⟨cause | _, board⟩
  · dsimp only
    rw [effect_bind, effect_log, resume_ok, effect_bind, effect_enter, boardAfter_of_busy]
    · exact .turnedDown hcomplete cause board htaken
    · rfl
    · rfl
    · rfl
  · dsimp only
    rw [effect_bind, effect_change, resume_ok, effect_bind, effect_enter, boardAfter_of_busy]
    · exact .takenOver hcomplete board htaken
    · rfl
    · rfl
    · rfl

/-- An abort is refused where the transfer is over, and ends the session everywhere else. The lock
goes with it if the session was busy. -/
inductive AbortOutcome (link : Link g) : Except UpdateError Unit × Link g → Prop
  | refused (e : UpdateError) (terminal : link.session.phase.terminal = true) :
      AbortOutcome link (.error e, link)
  | ended (notOver : link.session.phase.terminal = false) :
      AbortOutcome link
        (.ok (),
          ⟨{ link.session with abortRequested := true }.failedWith .communication,
            boardAfter link.board link.session.phase .failed⟩)

/-- Give up on the session, because the application wants to. -/
def retire : SessionAction g Unit := do
  log .aborted
  change fun s => { s with abortRequested := true }
  giveUp .communication

/-- An abort is refused just in the phases that are over. -/
theorem abort_cases (link : Link g) :
    (link.session.phase.terminal = true ∧ Refuses abort link)
      ∨ (link.session.phase.terminal = false ∧ abort link = retire link) := by
  unfold Refuses abort
  rw [look_bind]
  split
  · rename_i hover
    exact .inl ⟨hover, _, _, rfl, rfl⟩
  · rename_i hover
    exact .inr ⟨by simpa using hover, rfl⟩

/-- Every abort ends in one of the two ways. -/
theorem abort_outcome (link : Link g) : AbortOutcome link (effect abort link) := by
  rcases abort_cases link with ⟨hover, hrefuses⟩ | ⟨hnot, heq⟩
  · obtain ⟨e, heq⟩ := hrefuses.effect_eq
    rw [heq]
    exact .refused e hover
  · rw [effect_congr heq]
    unfold retire
    rw [effect_bind, effect_log, resume_ok, effect_bind, effect_change, resume_ok, effect_giveUp]
    · -- A phase that is not over may fail, so `giveUp` enters `failed`.
      exact .ended hnot
    · exact Phase.allows_failed_of_not_terminal hnot

/-- A poll sets the time without data and nothing else, whatever it answers. -/
theorem poll_outcome (elapsed : UInt32) (link : Link g) :
    ∃ r idle, effect (poll elapsed) link = (r, ⟨{ link.session with idle }, link.board⟩) := by
  unfold poll
  rw [effect_bind, effect_look, resume_ok]
  split
  · -- Nothing is in flight, and the clock is set back.
    exact ⟨_, 0, rfl⟩
  · -- Otherwise it is set forward, and the limit decides what is answered.
    rw [effect_bind, effect_look, resume_ok, effect_bind, effect_change, resume_ok, effect_bind,
      effect_look, resume_ok]
    split
    · exact ⟨_, _, rfl⟩
    · exact ⟨_, _, rfl⟩

/-- The phase in which a session that is closed seems to be from then on. A board that is in use elsewhere
does not learn that the session is over. -/
def closedPhase (inUse : Bool) (phase : Phase) : Phase := if inUse then phase else .idle

/-- A session that is closed leaves its lock behind if it was busy and the board was in use. -/
theorem effect_close (inUse : Bool) (link : Link g) :
    effect (close inUse) link
      = (.ok (),
          ⟨link.session,
            boardAfter link.board link.session.phase (closedPhase inUse link.session.phase)⟩) := by
  unfold close
  rw [effect_bind, effect_look, resume_ok]
  cases inUse with
  -- The board could not be borrowed, so nothing is released.
  | true =>
    rw [Bool.not_true, Bool.and_false, closedPhase, if_pos rfl, boardAfter_self]
    rfl
  | false =>
    rw [Bool.not_false, Bool.and_true, closedPhase, if_neg Bool.false_ne_true]
    cases hbusy : link.session.phase.busy with
    | true =>
      rw [if_pos rfl, effect_bind, effect_log, resume_ok, effect_release,
        boardAfter_of_busy _ hbusy rfl]
    | false =>
      rw [if_neg Bool.false_ne_true, boardAfter_of_not_busy _ hbusy]
      rfl

/-! ## Invariants -/

/-- Something that survives every call of a session. -/
structure Survives (I : Link g → Prop) : Prop where
  start : ∀ total chunk, Keeps I (Link.start total chunk)
  receive : ∀ number data, Keeps I (Link.receive number data)
  finalize : Keeps I Link.finalize
  validate : Keeps I Link.validate
  abort : Keeps I Link.abort
  apply : Keeps I Link.apply
  poll : ∀ elapsed, Keeps I (Link.poll elapsed)

variable {I : Link g → Prop}

/-- A start and a number of chunks. -/
theorem keeps_transmit (hstart : ∀ total chunk, Keeps I (start total chunk))
    (hreceive : ∀ number data, Keeps I (receive number data)) (total chunk : UInt32)
    (data : List UInt8) (limit : Option Nat) : Keeps I (transmit total chunk data limit) := by
  unfold transmit
  refine (hstart total chunk).bind fun _ => ?_
  refine (Keeps.forEach ?_ _).bind fun _ => keeps_pure _
  rintro ⟨piece, i⟩
  exact hreceive _ piece

/-- The calls of a session, by what they are made of: `transmit` is a start and chunks, all others
answer for themselves. -/
theorem Survives.sessionCall (h : Survives I) (call : SessionCall) :
    Keeps I (call.run : SessionAction g Answer) := by
  cases call with
  | start total chunk => exact (h.start total chunk).answering _
  | receive number data => exact (h.receive number data).answering _
  | transmit total chunk data limit =>
    exact (keeps_transmit h.start h.receive total chunk data limit).map _
  | finalize => exact h.finalize.answering _
  | validate => exact h.validate.answering _
  | abort => exact h.abort.answering _
  | apply => exact h.apply.answering _
  | poll elapsed => exact (h.poll elapsed).answering _

end DualSlot.Link
