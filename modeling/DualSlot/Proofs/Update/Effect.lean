import DualSlot.Proofs.Boot.Programming
import DualSlot.Update.Calls

/-!
# The steps of an update session

What the basic steps of a session do to the session and to its board. The steps that end a session with
an error leave it in the phase `failed` (`effect_giveUp`) and give the update slot back.
-/

namespace DualSlot

/-! ## Phases -/

namespace Phase

theorem busy_of_receiving {p : Phase} (h : p.receiving = true) : p.busy = true := by
  cases p <;> first | rfl | cases h

theorem allows_failed_of_busy {p : Phase} (h : p.busy = true) : p.allows .failed = true := by
  cases p <;> first | rfl | cases h

theorem allows_failed_of_not_terminal {p : Phase} (h : p.terminal = false) :
    p.allows .failed = true := by
  cases p <;> first | rfl | cases h

theorem allows_idle_of_terminal {p : Phase} (h : p.terminal = true) : p.allows .idle = true := by
  cases p <;> first | rfl | cases h

theorem not_busy_of_terminal {p : Phase} (h : p.terminal = true) : p.busy = false := by
  cases p <;> first | rfl | cases h

theorem receiving_iff (p : Phase) :
    p.receiving = true ↔ p = .waitingForStart ∨ p = .receivingData := by
  cases p <;> simp [receiving]

end Phase

/-- The complaint about a phase that may not follow. -/
def UpdateMessage.complains : UpdateMessage → Bool
  | illegalTransition .. => true
  | _ => false

/-- The declared size is a 32-bit number, so a count that does not exceed it does not wrap around. -/
theorem Transfer.toNat_receivedBytes_accept (transfer : Transfer) {count : Nat}
    (hfit : transfer.receivedBytes.toNat + count ≤ transfer.totalSize.toNat) :
    (transfer.accept count).receivedBytes.toNat = transfer.receivedBytes.toNat + count := by
  have htotal := transfer.totalSize.toNat_lt
  unfold Transfer.accept
  simp only [UInt32.toNat_add, Nat.toUInt32_eq, UInt32.toNat_ofNat']
  omega

/-! ## Sessions changed -/

namespace Session

/-- The session in another phase. -/
def moved (s : Session) (next : Phase) (cause : Option UpdateError) : Session :=
  { s with phase := next, lastError := cause <|> s.lastError }

/-- The session that was ended by an error. -/
def failedWith (s : Session) (e : UpdateError) : Session :=
  { s with
    phase := .failed
    lastError := some e
    statistics := { s.statistics with failed := s.statistics.failed + 1 } }

/-- The session that has forgotten its last transfer and declared another one. -/
def declared (s : Session) (total chunk : UInt32) : Session :=
  { s with
    phase := .idle
    transfer := .declare total chunk
    header := none
    progress := 0
    restartRequired := false
    abortRequested := false
    idle := 0
    lastError := none }

/-- The session that waits for the first chunk of its transfer. -/
def started (s : Session) (total chunk : UInt32) : Session :=
  { s.declared total chunk with
    phase := .waitingForStart
    statistics := { s.statistics with total := s.statistics.total + 1 } }

/-- The session after one more chunk of some length. -/
def accepted (s : Session) (length : Nat) : Session :=
  { s with
    phase := .receivingData
    transfer := s.transfer.accept length
    progress := (s.transfer.accept length).percent
    idle := 0 }

/-- The session with an image that passed all checks. -/
def completed (s : Session) (header : Header) : Session :=
  { s with
    phase := .complete
    header := some header
    progress := 100
    restartRequired := true
    statistics := { s.statistics with successful := s.statistics.successful + 1 } }

/-- A chunk is the one that the session waits for: it has the next number, and is neither empty nor
longer than declared. -/
structure Expects (s : Session) (number : UInt32) (data : List UInt8) : Prop where
  receiving : s.phase.receiving = true
  number_eq : number = s.transfer.nextChunk
  length_pos : 0 < data.length
  le_chunk : data.length ≤ s.transfer.chunkSize.toNat
  le_remaining : data.length ≤ s.transfer.remaining

namespace Expects

variable {s : Session} {number : UInt32} {data data' : List UInt8}

/-- What the bytes of a chunk are is no concern of the session. -/
theorem of_length_eq (h : s.Expects number data) (hlength : data'.length = data.length) :
    s.Expects number data' where
  receiving := h.receiving
  number_eq := h.number_eq
  length_pos := hlength ▸ h.length_pos
  le_chunk := hlength ▸ h.le_chunk
  le_remaining := hlength ▸ h.le_remaining

theorem toNat_receivedBytes (h : s.Expects number data) :
    (s.accepted data.length).transfer.receivedBytes.toNat
      = s.transfer.receivedBytes.toNat + data.length := by
  have hpos := h.length_pos
  have hremaining := h.le_remaining
  unfold Transfer.remaining at hremaining
  exact s.transfer.toNat_receivedBytes_accept (by omega)

end Expects

end Session

namespace Link

open DualSlot.Action

variable {g : Geometry} {α β : Type}

/-! ## Looking first -/

/-- A call that begins by reading something off the session goes on with what it read. -/
theorem look_bind (f : Session → α) (next : α → SessionAction g β) (link : Link g) :
    (look f >>= next) link = next (f link.session) link := rfl

theorem room_bind (next : Nat → SessionAction g β) (link : Link g) :
    (room >>= next) link = next (g.capacity - link.board.loader.layout.slotB) link := rfl

/-- The call is refused at once: it says why, and does nothing else. -/
def Refuses (x : SessionAction g α) (link : Link g) : Prop :=
  ∃ message e, message.complains = false ∧ x link = refuse message e link

/-! ## Steps -/

@[simp] theorem effect_onBoard (x : BoardAction g α) (link : Link g) :
    effect (onBoard x) link
      = (.ok (effect x link.board).1, ⟨link.session, (effect x link.board).2⟩) := rfl

@[simp] theorem effect_look (f : Session → α) (link : Link g) :
    effect (look f) link = (.ok (f link.session), link) := rfl

@[simp] theorem effect_lookLoader (f : Loader g → α) (link : Link g) :
    effect (lookLoader f) link = (.ok (f link.board.loader), link) := rfl

@[simp] theorem effect_change (f : Session → Session) (link : Link g) :
    effect (change f) link = (.ok (), ⟨f link.session, link.board⟩) := rfl

@[simp] theorem effect_log (message : UpdateMessage) (link : Link g) :
    effect (log message) link = (.ok (), link) := rfl

@[simp] theorem effect_refuse (message : UpdateMessage) (e : UpdateError) (link : Link g) :
    effect (refuse message e : SessionAction g α) link = (.error e, link) := rfl

theorem Refuses.effect_eq {x : SessionAction g α} {link : Link g} (h : Refuses x link) :
    ∃ e, effect x link = (.error e, link) := by
  obtain ⟨message, e, _, heq⟩ := h
  exact ⟨e, by rw [effect_congr heq, effect_refuse]⟩

@[simp] theorem effect_notify (notice : Notice) (link : Link g) :
    effect (notify notice) link = (.ok (), link) := rfl

@[simp] theorem effect_release (link : Link g) :
    effect release link = (.ok (), ⟨link.session, link.board.unlocked⟩) := rfl

@[simp] theorem effect_setProgress (percent : UInt8) (link : Link g) :
    effect (setProgress percent) link
      = (.ok (), ⟨{ link.session with progress := percent }, link.board⟩) := rfl

@[simp] theorem effect_room (link : Link g) :
    effect room link = (.ok (g.capacity - link.board.loader.layout.slotB), link) := rfl

/-- Where the board stands after a session went from one phase to another. -/
def boardAfter (board : Board g) (phase next : Phase) : Board g :=
  if phase.busy && !next.busy then board.unlocked else board

theorem boardAfter_of_busy (board : Board g) {phase next : Phase} (h : phase.busy = true)
    (hnext : next.busy = false) : boardAfter board phase next = board.unlocked := by
  unfold boardAfter
  rw [h, hnext]
  rfl

/-- A session that was not in flight holds no lock to give back. -/
theorem boardAfter_of_not_busy (board : Board g) {phase : Phase} (h : phase.busy = false)
    (next : Phase) : boardAfter board phase next = board := by
  unfold boardAfter
  rw [h]
  rfl

theorem boardAfter_busy (board : Board g) (phase : Phase) {next : Phase} (h : next.busy = true) :
    boardAfter board phase next = board := by
  unfold boardAfter
  rw [h, Bool.not_true, Bool.and_false]
  rfl

/-- A session that stays in its phase leaves the board as it is. -/
theorem boardAfter_self (board : Board g) (phase : Phase) : boardAfter board phase phase = board := by
  unfold boardAfter
  rw [Bool.and_not_self]
  rfl

/-- A session that may go to a phase goes there, and gives the update slot back where its flight
ends. -/
theorem effect_enter {next : Phase} {link : Link g} (h : link.session.phase.allows next = true)
    (cause : Option UpdateError) :
    effect (enter next cause) link
      = (.ok (),
          ⟨link.session.moved next cause, boardAfter link.board link.session.phase next⟩) := by
  unfold enter boardAfter
  rw [effect_bind, effect_look, resume_ok, h]
  -- Whether the slot is given back depends on both phases.
  cases link.session.phase.busy && !next.busy <;> rfl

/-- Ending a session that is in flight gives the update slot back. -/
theorem effect_giveUp {link : Link g} (h : link.session.phase.allows .failed = true)
    (e : UpdateError) :
    effect (giveUp e) link
      = (.ok (), ⟨link.session.failedWith e, boardAfter link.board link.session.phase .failed⟩) := by
  unfold giveUp
  -- The failure is counted before the phase changes.
  rw [effect_bind, effect_change, resume_ok, effect_bind, effect_attempt, effect_enter]
  · rfl
  · exact h

theorem effect_abandon {link : Link g} (h : link.session.phase.allows .failed = true)
    (message : UpdateMessage) (e : UpdateError) :
    effect (abandon message e : SessionAction g α) link
      = (.error e,
          ⟨link.session.failedWith e, boardAfter link.board link.session.phase .failed⟩) := by
  unfold abandon
  rw [effect_bind, effect_log, resume_ok, effect_bind, effect_giveUp h]
  rfl

/-- Whatever phase the session is in, an error is passed on. -/
theorem abandon_fails (message : UpdateMessage) (e : UpdateError) (link : Link g) :
    (effect (abandon message e : SessionAction g α) link).1 = .error e := by
  have hgiveUp : (effect (giveUp e) link).1 = .ok () := by
    unfold giveUp
    rw [effect_bind, effect_change, resume_ok, effect_bind, effect_attempt]
    rfl
  -- The error comes last, and nothing before it fails.
  unfold abandon
  rw [effect_bind, effect_log, resume_ok, effect_bind]
  rcases hr : effect (giveUp e) link with ⟨r, link'⟩
  rw [hr] at hgiveUp
  cases hgiveUp
  rfl

/-- An error in a session that is in flight ends it and gives the update slot back. -/
theorem effect_abandon_of_busy {link : Link g} (h : link.session.phase.busy = true)
    (message : UpdateMessage) (e : UpdateError) :
    effect (abandon message e : SessionAction g α) link
      = (.error e, ⟨link.session.failedWith e, link.board.unlocked⟩) := by
  rw [effect_abandon (Phase.allows_failed_of_busy h), boardAfter_of_busy _ h rfl]

end Link

end DualSlot
