import DualSlot.Proofs.Update.Lock
import DualSlot.Proofs.Update.Move

/-!
# A session that is always ready

Sessions end badly: an erase or a write fails halfway through a transfer, an image cannot be read, the
boot loader turns it down, the application gives up. None of this may keep the next transfer from being
started. For one session at a time on a board whose lock nobody else takes,
`Link.recoverable_after_any_run` says that

* a session that has not ended can be aborted,
* one that has ended, or has not begun, can be started, and finds the pages of its transfer erased,
* and one that is closed leaves the lock free, wherever it stood, if only the board is not in use
  elsewhere at that moment.

The invariant is that the lock is free unless the session receives data (`Link.Undisturbed`). It survives
every call but one that takes the lock, so that a session which may start never runs into a lock.
-/

namespace DualSlot

/-- Somebody other than the session takes the lock, or uses the board while a session is closed, so that
the lock of that session is left behind. -/
def Act.TakesLock : Act → Prop
  | .turn (.boot .lockUpdateSlot) => True
  | .reopen _ _ inUse => inUse = true
  | _ => False

instance : (act : Act) → Decidable act.TakesLock
  | .reopen _ _ inUse => inferInstanceAs (Decidable (inUse = true))
  | .turn (.boot .lockUpdateSlot) => .isTrue trivial
  | .turn (.boot .checkUpdate) | .turn (.boot .switchToUpdate) | .turn (.boot .rollback)
  | .turn (.boot (.jump _)) | .turn (.boot .boot) | .turn (.boot (.validate _))
  | .turn (.boot (.readHeader _)) | .turn (.boot (.payloadCrc ..))
  | .turn (.boot (.eraseUpdateSlot _)) | .turn (.boot (.programUpdateSlot ..))
  | .turn (.boot .unlockUpdateSlot) | .turn (.boot (.restart _)) => .isFalse id
  | .turn (.start ..) | .turn (.receive ..) | .turn .finalize | .turn .validate | .turn .abort
  | .turn .apply | .turn (.poll _) | .turn (.judge _) | .turn (.flash _) => .isFalse id

/-! ## Erasing that works -/

/-- The pages of a transfer into the update slot are whole ones, and lie inside the flash. -/
theorem Layout.Fits.checkErase {g : Geometry} {layout : Layout} (h : layout.Fits g) {length : Nat}
    (hroom : layout.slotB + length ≤ g.capacity) :
    g.checkErase layout.slotB (pageEnd (layout.slotB + length) g.eraseSize) = .ok () := by
  have hlow : layout.slotB + length ≤ pageEnd (layout.slotB + length) g.eraseSize :=
    le_pageEnd _ g.eraseSize_pos
  exact Geometry.checkErase_of_pages (by omega) (pageEnd_le g.eraseSize_pos hroom) h.aligned_b
    (pageEnd_mod _ _)

namespace Board

open DualSlot.Action

variable {g : Geometry} {board : Board g}

/-- While the erase circuit works, every part of the update slot can be erased. -/
theorem eraseUpdateSlot_answers {length : Nat} (hworks : board.flash.eraseBroken = false)
    (hpos : 0 < length) (hroom : board.loader.layout.slotB + length ≤ g.capacity) :
    (effect (eraseUpdateSlot length) board).1 = .ok () := by
  have hcheck := board.loader.fits.checkErase hroom
  have hrequire : (decide (0 < length) && decide (board.loader.updateSlot + length ≤ g.capacity))
      = true := Bool.and_eq_true_iff.mpr ⟨decide_eq_true hpos, decide_eq_true hroom⟩
  unfold eraseUpdateSlot
  rw [effect_bind, effect_look, resume_ok, effect_bind, effect_require_of_true hrequire, resume_ok,
    effect_bind, effect_report, resume_ok, effect_bind, effect_onFlash]
  unfold Loader.updateSlot
  rw [Flash.effect_erase_of_works hworks hcheck]
  rfl

/-- A boot loader that has just started finds the lock free. -/
theorem powerOn_free {layout : Layout} {flash : Flash g} {loader : Loader g}
    (h : (powerOn layout flash).result = .ok loader) : loader.updateLocked = false := by
  unfold powerOn at h
  split at h
  · dsimp only at h
    split at h
    · cases h
    · rw [← Except.ok.inj h]
  · cases h

/-- A boot loader that is started anew has a free lock, and one that cannot be keeps its own. -/
theorem free_restart (layout : Layout) :
    Keeps (fun board : Board g => board.loader.updateLocked = false) (restart layout) := by
  rintro ⟨before, loader⟩ hfree
  have hstarted : ∀ loader, (powerOn layout before).result = .ok loader →
      loader.updateLocked = false := fun _ => powerOn_free
  unfold effect restart
  dsimp only
  rcases hpower : powerOn layout before with ⟨_ | started, after, events⟩
  · exact hfree
  · rw [hpower] at hstarted
    exact hstarted started rfl

/-- A free lock stays free in every call but the one that takes it. -/
theorem free_bootCall {call : BootCall} (hcall : call ≠ .lockUpdateSlot) :
    Keeps (fun board : Board g => board.loader.updateLocked = false)
      (call.run : BoardAction g Answer) := by
  cases call.kind with
  | inspection inspects =>
    intro board hfree
    rw [(inspects.frame board).2.2]
    exact hfree
  | eraseUpdateSlot length =>
    refine Keeps.answering (fun board hfree => ?_) _
    rcases eraseUpdateSlot_cases length board with ⟨e, herror⟩ | ⟨hok, _⟩
    · rw [herror]
      exact hfree
    · rw [hok]
      exact hfree
  | programUpdateSlot offset data =>
    refine Keeps.answering (fun board hfree => ?_) _
    rw [loader_programUpdateSlot]
    exact hfree
  | lockUpdateSlot => exact absurd rfl hcall
  | unlockUpdateSlot => exact Keeps.answering (fun board _ => rfl) _
  | restart layout => exact (free_restart layout).answering _

end Board

namespace Link

open DualSlot.Action

variable {g : Geometry} {link : Link g}

/-! ## The invariant -/

/-- The session is in the middle of nothing, and nobody holds the lock but a session that receives. -/
structure Undisturbed (link : Link g) : Prop where
  settled : link.session.phase.settled = true
  free : link.session.phase.receiving = false → link.board.loader.updateLocked = false

/-- A session is opened over a board whose lock nobody holds. -/
theorem undisturbed_opened (config : SessionConfig) (accepts : Header → Bool) {board : Board g}
    (hfree : board.loader.updateLocked = false) : (opened config accepts board).Undisturbed :=
  ⟨rfl, fun _ => hfree⟩

/-- A session that stops being busy leaves the lock free. -/
theorem Undisturbed.free_boardAfter (h : link.Undisturbed) {next : Phase} (hnext : next.busy = false) :
    (boardAfter link.board link.session.phase next).loader.updateLocked = false := by
  -- A settled session is busy just if it receives data.
  have hbusy := Phase.busy_eq_receiving h.settled
  cases hreceiving : link.session.phase.receiving with
  | true =>
    rw [boardAfter_of_busy _ (hbusy.trans hreceiving) hnext]
    rfl
  | false =>
    rw [boardAfter_of_not_busy _ (hbusy.trans hreceiving)]
    exact h.free hreceiving

/-- A start takes the lock for a session that receives, or leaves it free. -/
theorem undisturbed_start (total chunk : UInt32) :
    Keeps (Undisturbed (g := g)) (start total chunk) := by
  refine Keeps.of_outcome (start_outcome total chunk) fun link r outcome h => ?_
  cases outcome with
  | refused e => exact h
  | slotLocked may locked =>
    -- The lock of a session that may start is free.
    have hfree := h.free (Phase.not_receiving_of_rests may.phase_rests)
    cases locked.symm.trans hfree
  | notErased may free => exact ⟨rfl, fun _ => free⟩
  | started may free => exact ⟨rfl, fun hreceiving => nomatch hreceiving⟩

/-- A chunk that cannot be written ends the session, and frees the lock. -/
theorem undisturbed_receive (number : UInt32) (data : List UInt8) :
    Keeps (Undisturbed (g := g)) (receive number data) := by
  refine Keeps.of_outcome (receive_outcome number data) fun link r outcome h => ?_
  cases outcome with
  | refused e _ => exact h
  | notWritten _ cause board _ => exact ⟨rfl, fun _ => rfl⟩
  | accepted _ board _ => exact ⟨rfl, fun hreceiving => nomatch hreceiving⟩

/-- A finalize that is not refused ends the session. -/
theorem undisturbed_finalize : Keeps (Undisturbed (g := g)) finalize := by
  refine Keeps.of_outcome finalize_outcome fun link r outcome h => ?_
  cases outcome with
  | refused e => exact h
  | checked _ _ outcome =>
    -- A check that is made gives the lock back, whichever way it goes.
    cases outcome with
    | refused e notValidating => exact absurd rfl notValidating
    | failed e header board _ => exact ⟨rfl, fun _ => rfl⟩
    | completed header board _ _ => exact ⟨rfl, fun _ => rfl⟩

/-- Between two calls there is nothing to validate. -/
theorem undisturbed_validate : Keeps (Undisturbed (g := g)) validate := by
  intro link h
  rw [effect_validate_of_settled h.settled]
  exact h

/-- An abort frees the lock that the session has held. -/
theorem undisturbed_abort : Keeps (Undisturbed (g := g)) abort := by
  refine Keeps.of_outcome abort_outcome fun link r outcome h => ?_
  cases outcome with
  | refused e _ => exact h
  | ended _ => exact ⟨rfl, fun _ => h.free_boardAfter rfl⟩

/-- An apply frees the lock, whoever has held it. -/
theorem undisturbed_apply : Keeps (Undisturbed (g := g)) apply := by
  refine Keeps.of_outcome apply_outcome fun link r outcome h => ?_
  cases outcome with
  | refused e _ => exact h
  | turnedDown _ cause board _ => exact ⟨rfl, fun _ => rfl⟩
  | takenOver _ board _ => exact ⟨rfl, fun _ => rfl⟩

/-- A poll moves the clock alone. -/
theorem undisturbed_poll (elapsed : UInt32) : Keeps (Undisturbed (g := g)) (poll elapsed) := by
  intro link h
  obtain ⟨answer, idle, heq⟩ := poll_outcome elapsed link
  rw [heq]
  exact ⟨h.settled, h.free⟩

/-- The invariant survives every call of a session. -/
theorem survives_undisturbed : Survives (Undisturbed (g := g)) where
  start := undisturbed_start
  receive := undisturbed_receive
  finalize := undisturbed_finalize
  validate := undisturbed_validate
  abort := undisturbed_abort
  apply := undisturbed_apply
  poll := undisturbed_poll

/-- It survives every act, as long as nobody takes the lock or keeps it from being given back. -/
theorem undisturbed_after {act : Act} (hact : ¬ act.TakesLock) (h : link.Undisturbed) :
    (link.after act).Undisturbed := by
  cases act with
  | reopen config accepts inUse =>
    -- The board is not in use, so the session that goes gives back its lock.
    obtain rfl : inUse = false := Bool.eq_false_iff.mpr hact
    rw [after_reopen]
    exact ⟨rfl, fun _ => h.free_boardAfter rfl⟩
  | turn turn =>
    cases turn with
    | judge accepts => exact ⟨h.settled, h.free⟩
    | flash call => exact ⟨h.settled, h.free⟩
    | boot call =>
      have hcall : call ≠ .lockUpdateSlot := by
        rintro rfl
        exact hact trivial
      rw [after_turn_boot]
      exact ⟨h.settled, fun hrests => Board.free_bootCall hcall link.board (h.free hrests)⟩
    | _ => exact survives_undisturbed.after_turn trivial h

/-! ## What a session may count on -/

/-- The session was aborted, and gave the lock back. -/
structure Aborted (after : Link g) : Prop where
  phase_eq : after.session.phase = .failed
  lastError_eq : after.session.lastError = some .communication
  free : after.board.loader.updateLocked = false

/-- A transfer was begun: nothing is left of the last one, neither in the session nor in the pages that
the new one is about to write. -/
structure Renewed (total chunk : UInt32) (after : Link g) : Prop where
  phase_eq : after.session.phase = .waitingForStart
  transfer_eq : after.session.transfer = .declare total chunk
  counters_eq : after.session.transfer.receivedChunks = 0
    ∧ after.session.transfer.receivedBytes = 0 ∧ after.session.transfer.nextChunk = 0
  progress_eq : after.session.progress = 0
  idle_eq : after.session.idle = 0
  not_aborted : after.session.abortRequested = false
  no_restart : after.session.restartRequired = false
  lastError_eq : after.session.lastError = none
  not_pending : after.board.loader.context.updatePending = false
  locked : after.board.loader.updateLocked = true
  erased : ∀ i, after.board.loader.layout.slotB ≤ i →
    i < pageEnd (after.board.loader.layout.slotB + total.toNat) g.eraseSize →
    after.board.flash.cells[i]? = some erasedByte

/-- A session that has not ended can be aborted, and any other one started, as long as the flash can be
erased. One that is closed leaves the lock free, unless the board is in use elsewhere at that moment: then
a lock that is held stays held. -/
structure Recoverable (link : Link g) : Prop where
  abort_ends : link.session.phase = .idle ∨ link.session.phase = .waitingForStart
      ∨ link.session.phase = .receivingData →
    ∃ after, effect abort link = (.ok (), after) ∧ after.Aborted
  start_begins : link.session.phase = .idle ∨ link.session.phase = .complete
      ∨ link.session.phase = .failed →
    link.board.flash.eraseBroken = false →
    ∀ total chunk : UInt32, 1 ≤ chunk → chunk ≤ link.session.config.maxChunk → 1 ≤ total →
      total.toNat ≤ g.capacity - link.board.loader.layout.slotB →
      ∃ after, effect (start total chunk) link = (.ok (), after)
        ∧ after.board.loader.layout = link.board.loader.layout ∧ after.Renewed total chunk
  close_answers : ∀ inUse, (effect (close inUse) link).1 = .ok ()
  close_frees : (effect (close false) link).2.board.loader.updateLocked = false
  close_strands : (effect (close true) link).2.board.loader.updateLocked
    = link.board.loader.updateLocked

/-- Where a session has not ended, an abort ends it and frees the lock. -/
theorem Undisturbed.abort_ends (h : link.Undisturbed) (hphase : link.session.phase.terminal = false) :
    ∃ after, effect abort link = (.ok (), after) ∧ after.Aborted := by
  have houtcome := abort_outcome link
  generalize effect abort link = r at houtcome ⊢
  cases houtcome with
  | refused e terminal => cases terminal.symm.trans hphase
  | ended _ => exact ⟨_, rfl, rfl, rfl, h.free_boardAfter rfl⟩

/-- With a free lock and a working circuit the slot is locked and erased. -/
theorem effect_reserve_of_works {total : UInt32} (hfree : link.board.loader.updateLocked = false)
    (hworks : link.board.flash.eraseBroken = false) (hpos : 0 < total.toNat)
    (hroom : link.board.loader.layout.slotB + total.toNat ≤ g.capacity) :
    effect (reserve total) link
      = (.ok (), ⟨link.session, reservedBoard link.board total.toNat⟩) := by
  have hanswer : (effect (Board.eraseUpdateSlot total.toNat) link.board.locked).1 = .ok () :=
    Board.eraseUpdateSlot_answers hworks hpos hroom
  unfold reserve
  rw [effect_bind, effect_onBoard, Board.effect_lockUpdateSlot_of_free hfree, resume_ok, effect_bind,
    effect_onBoard]
  rcases Board.eraseUpdateSlot_cases total.toNat link.board.locked with ⟨e, herror⟩ | ⟨hok, _⟩
  · rw [herror] at hanswer
    cases hanswer
  · rw [hok]
    rfl

/-- Where the lock is free and the erase circuit works, a session that may start does. -/
theorem effect_start_of_works {total chunk : UInt32} (may : MayStart total chunk link)
    (hfree : link.board.loader.updateLocked = false)
    (hworks : link.board.flash.eraseBroken = false) :
    effect (start total chunk) link
      = (.ok (), ⟨link.session.started total chunk, reservedBoard link.board total.toNat⟩) := by
  -- The erase asks for a length of at least one, inside the flash.
  have hpos : 0 < total.toNat := Nat.pos_of_ne_zero fun h => may.total_ne (UInt32.toNat_inj.mp h)
  have hslot := link.board.loader.fits.room_b
  have htotal := may.total_le
  rw [effect_start_of_may may]
  unfold begin
  rw [effect_bind, effect_log, resume_ok, effect_bind, effect_reserve_of_works, resume_ok, effect_bind,
    effect_change, resume_ok, effect_bind, effect_enter]
  · rfl
  · rfl
  · exact hfree
  · exact hworks
  · exact hpos
  · show link.board.loader.layout.slotB + total.toNat ≤ g.capacity
    omega

/-- What `started` and `reservedBoard` say, one by one. -/
theorem renewed_started {total chunk : UInt32} (may : MayStart total chunk link) :
    Renewed total chunk
      (⟨link.session.started total chunk, reservedBoard link.board total.toNat⟩ : Link g) where
  phase_eq := rfl
  transfer_eq := rfl
  counters_eq := ⟨rfl, rfl, rfl⟩
  progress_eq := rfl
  idle_eq := rfl
  not_aborted := rfl
  no_restart := rfl
  lastError_eq := rfl
  not_pending := rfl
  locked := rfl
  erased i hlow hhigh := by
    have hslot := link.board.loader.fits.room_b
    have htotal := may.total_le
    -- The pages of the transfer end inside the flash, so the blank bytes are there.
    have hstop : pageEnd (link.board.loader.layout.slotB + total.toNat) g.eraseSize ≤ g.capacity :=
      pageEnd_le g.eraseSize_pos
        (show link.board.loader.layout.slotB + total.toNat ≤ g.capacity by omega)
    exact (Cells.isErased_iff (Nat.lt_of_lt_of_le hhigh hstop)).mp
      (Flash.erased_blank link.board.flash _ _ i hlow hhigh)

/-- All that a session may count on follows from the invariant. -/
theorem Undisturbed.recoverable (h : link.Undisturbed) : link.Recoverable where
  abort_ends hphase := by
    refine h.abort_ends ?_
    rcases hphase with hphase | hphase | hphase <;> rw [hphase] <;> rfl
  start_begins hphase hworks total chunk hchunk hmax htotal hroom := by
    -- What is asked of the sizes is what makes a start allowed, and the invariant says that the
    -- lock is free.
    have may : MayStart total chunk link :=
      { phase_rests := by
          rcases hphase with hphase | hphase | hphase
          · exact .inl hphase
          · exact .inr (by rw [hphase]; rfl)
          · exact .inr (by rw [hphase]; rfl)
        chunk_ne := by
          rintro rfl
          exact absurd hchunk (by decide)
        chunk_le := hmax
        total_ne := by
          rintro rfl
          exact absurd htotal (by decide)
        total_le := hroom }
    have hfree := h.free (Phase.not_receiving_of_rests may.phase_rests)
    exact ⟨_, effect_start_of_works may hfree hworks, rfl, renewed_started may⟩
  close_answers inUse := by rw [effect_close]
  close_frees := by
    rw [effect_close]
    exact h.free_boardAfter rfl
  close_strands := by
    rw [effect_close, closedPhase, if_pos rfl, boardAfter_self]

/-! ## Every run -/

/-- The invariant holds in every run. -/
theorem undisturbed_steps {acts : List Act} (hacts : ∀ act ∈ acts, ¬ act.TakesLock)
    (h : link.Undisturbed) : (link.steps acts).Undisturbed :=
  steps_keeps (fun act hact _ h => undisturbed_after (hacts act hact) h) h

/-- A transfer in which the second word of a chunk cannot be written. -/
def brokenTransfer : List Act :=
  [.turn (.start 84 84),
    .turn (.flash (.planWrites (some (.window .outOfRange 1 none)))),
    .turn (.receive 0 (Factory.image ⟨1, 1, 0⟩))]

end Link

end DualSlot
