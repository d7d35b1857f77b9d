import DualSlot.Proofs.Bytes.Pieces
import DualSlot.Proofs.Update.Lock

/-!
# What a session says of itself

A session tells its phase, its last error, how much of a transfer has arrived, whether an image waits for a
restart, and whether it was aborted. These are changed one at a time, by calls that may stop anywhere on
the way. Between two calls they always fit together (`Session.Consistent`).

Nothing is asked of the world around the session. Each call may find another board, of any geometry, with
any bytes and fault plans and with its boot loader in any state, and the application may have changed
its mind (`Encounter`).
-/

namespace DualSlot

/-! ## Transfers -/

namespace Transfer

variable {t : Transfer} {length : Nat}

/-- The numbers of a transfer fit together. -/
structure Counted (t : Transfer) : Prop where
  nextChunk_eq : t.nextChunk = t.receivedChunks
  chunks_le : t.receivedChunks.toNat ≤ t.receivedBytes.toNat
  le_total : t.receivedBytes.toNat ≤ t.totalSize.toNat
  le_chunks : t.receivedBytes.toNat ≤ t.receivedChunks.toNat * t.chunkSize.toNat
  declared : t ≠ .none → t.totalSize ≠ 0 ∧ t.chunkSize ≠ 0
    ∧ t.totalChunks.toNat = ceilDiv t.totalSize.toNat t.chunkSize.toNat

/-- Before the first transfer all numbers are zero. -/
theorem counted_none : Counted .none where
  nextChunk_eq := rfl
  chunks_le := Nat.le_refl _
  le_total := Nat.le_refl _
  le_chunks := Nat.zero_le _
  declared h := absurd rfl h

/-- There are no more chunks than bytes, so their number is a 32-bit number too. -/
theorem toNat_totalChunks {total chunk : UInt32} (hchunk : chunk ≠ 0) :
    (declare total chunk).totalChunks.toNat = ceilDiv total.toNat chunk.toNat := by
  have hsize : 0 < chunk.toNat := Nat.pos_of_ne_zero fun h => hchunk (UInt32.toNat_inj.mp h)
  have hle := ceilDiv_le hsize total.toNat
  have htotal := total.toNat_lt
  show (ceilDiv total.toNat chunk.toNat).toUInt32.toNat = _
  rw [Nat.toUInt32_eq, UInt32.toNat_ofNat', Nat.mod_eq_of_lt (by omega)]

/-- A transfer that was just declared has sizes and nothing received. -/
theorem counted_declare {total chunk : UInt32} (htotal : total ≠ 0) (hchunk : chunk ≠ 0) :
    (declare total chunk).Counted where
  nextChunk_eq := rfl
  chunks_le := Nat.le_refl _
  le_total := Nat.zero_le _
  le_chunks := Nat.zero_le _
  declared _ := ⟨htotal, hchunk, toNat_totalChunks hchunk⟩

/-- Nothing has arrived, so the percentage is zero. -/
theorem percent_declare (total chunk : UInt32) : (declare total chunk).percent = 0 := by
  unfold percent declare
  simp

/-- No number of a transfer that stays within its size wraps around. -/
theorem Counted.toNat_accept (h : t.Counted) (hpos : 0 < length) (hremaining : length ≤ t.remaining) :
    (t.accept length).receivedBytes.toNat = t.receivedBytes.toNat + length
      ∧ (t.accept length).receivedChunks.toNat = t.receivedChunks.toNat + 1 := by
  -- One more chunk is one more byte at least, so the chunks stay below the size as the bytes do.
  have hchunks := h.chunks_le
  have htotal := t.totalSize.toNat_lt
  unfold remaining at hremaining
  unfold accept
  simp only [UInt32.toNat_add, Nat.toUInt32_eq, UInt32.toNat_ofNat']
  have hone : (1 : UInt32).toNat = 1 := rfl
  omega

/-- A chunk that is expected keeps the numbers together. -/
theorem Counted.accept (h : t.Counted) (hpos : 0 < length) (hchunk : length ≤ t.chunkSize.toNat)
    (hremaining : length ≤ t.remaining) : (t.accept length).Counted := by
  obtain ⟨hbytes, hchunks⟩ := h.toNat_accept hpos hremaining
  have hbefore := h.chunks_le
  have hfits := h.le_chunks
  unfold remaining at hremaining
  refine ⟨?_, ?_, ?_, ?_, fun _ => ?_⟩
  · show t.nextChunk + 1 = t.receivedChunks + 1
    rw [h.nextChunk_eq]
  · omega
  · show (t.accept length).receivedBytes.toNat ≤ t.totalSize.toNat
    omega
  · -- One chunk more makes room for one chunk size more.
    show (t.accept length).receivedBytes.toNat
      ≤ (t.accept length).receivedChunks.toNat * t.chunkSize.toNat
    rw [hbytes, hchunks, Nat.succ_mul]
    omega
  · refine h.declared fun hnone => ?_
    rw [hnone] at hremaining
    exact absurd hremaining (Nat.not_le.mpr hpos)

/-- No more than all has arrived. -/
theorem Counted.quotient_le (h : t.Counted) :
    100 * t.receivedBytes.toNat / t.totalSize.toNat ≤ 100 := by
  refine Nat.div_le_of_le_mul ?_
  rw [Nat.mul_comm]
  exact Nat.mul_le_mul_right 100 h.le_total

/-- Of a transfer that was declared, the percentage is the whole quotient. -/
theorem Counted.toNat_percent (h : t.Counted) (htotal : t.totalSize ≠ 0) :
    t.percent.toNat = 100 * t.receivedBytes.toNat / t.totalSize.toNat := by
  have hle := h.quotient_le
  unfold percent
  rw [if_neg htotal, Nat.mul_comm, Nat.toUInt8_eq, UInt8.toNat_ofNat', Nat.mod_eq_of_lt (by omega)]

/-- The percentage never goes past a hundred. -/
theorem Counted.percent_le (h : t.Counted) : t.percent.toNat ≤ 100 := by
  by_cases htotal : t.totalSize = 0
  · unfold percent
    rw [if_pos htotal]
    exact Nat.zero_le _
  · rw [h.toNat_percent htotal]
    exact h.quotient_le

/-- A hundred percent is reached with the last byte and not before. -/
theorem Counted.percent_eq_iff (h : t.Counted) (htotal : t.totalSize ≠ 0) :
    t.percent = 100 ↔ t.receivedBytes = t.totalSize := by
  have hpos : 0 < t.totalSize.toNat :=
    Nat.pos_of_ne_zero fun hzero => htotal (UInt32.toNat_inj.mp hzero)
  have hle := h.le_total
  rw [← UInt8.toNat_inj, ← UInt32.toNat_inj, h.toNat_percent htotal]
  show 100 * t.receivedBytes.toNat / t.totalSize.toNat = 100 ↔ _
  constructor
  · intro hfull
    -- A hundred percent are no fewer bytes than all.
    have hmul := Nat.div_mul_le_self (100 * t.receivedBytes.toNat) t.totalSize.toNat
    rw [hfull] at hmul
    omega
  · intro hall
    rw [hall, Nat.mul_div_cancel _ hpos]

end Transfer

/-! ## Sessions -/

namespace Session

/-- What a session tells between two calls fits together. -/
structure Consistent (s : Session) : Prop where
  settled : s.phase.settled = true
  lastError_iff : s.lastError.isSome = true ↔ s.phase = .failed
  available_iff : s.updateAvailable = true ↔ s.phase = .complete
  aborted : s.abortRequested = true → s.phase = .failed ∧ s.lastError = some .communication
  counted : s.transfer.Counted
  waiting : s.phase = .waitingForStart →
    s.transfer.totalSize ≠ 0 ∧ s.transfer.receivedChunks.toNat = 0
  receiving : s.phase = .receivingData →
    s.transfer.totalSize ≠ 0 ∧ 1 ≤ s.transfer.receivedChunks.toNat
  complete : s.phase = .complete →
    s.transfer.totalSize ≠ 0 ∧ s.transfer.receivedBytes = s.transfer.totalSize ∧ s.progress = 100
  progress_eq : s.phase.receiving = true → s.progress = s.transfer.percent

variable {s : Session}

/-- Only a complete session has an image to offer. -/
theorem available_iff_of_ne_complete (h : s.phase ≠ .complete) :
    s.updateAvailable = true ↔ s.phase = .complete := by
  unfold updateAvailable
  rw [beq_eq_false_iff_ne.mpr h]
  exact iff_of_false Bool.false_ne_true h

/-- A session that rests, without a word of an error. -/
theorem consistent_of_idle (hphase : s.phase = .idle) (herror : s.lastError = none)
    (haborted : s.abortRequested = false) (hcounted : s.transfer.Counted) : s.Consistent where
  settled := by rw [hphase]; rfl
  lastError_iff := by rw [herror, hphase]; exact iff_of_false (fun h => nomatch h) fun h => nomatch h
  available_iff := available_iff_of_ne_complete (by rw [hphase]; exact fun h => nomatch h)
  aborted h := by cases haborted.symm.trans h
  counted := hcounted
  waiting h := by cases hphase.symm.trans h
  receiving h := by cases hphase.symm.trans h
  complete h := by cases hphase.symm.trans h
  progress_eq h := by rw [hphase] at h; cases h

/-- A session that ended with an error. If it was aborted, then that is the error. -/
theorem consistent_of_failed {e : UpdateError} (hphase : s.phase = .failed)
    (herror : s.lastError = some e) (haborted : s.abortRequested = true → e = .communication)
    (hcounted : s.transfer.Counted) : s.Consistent where
  settled := by rw [hphase]; rfl
  lastError_iff := by rw [herror, hphase]; exact iff_of_true rfl rfl
  available_iff := available_iff_of_ne_complete (by rw [hphase]; exact fun h => nomatch h)
  aborted h := ⟨hphase, by rw [herror, haborted h]⟩
  counted := hcounted
  waiting h := by cases hphase.symm.trans h
  receiving h := by cases hphase.symm.trans h
  complete h := by cases hphase.symm.trans h
  progress_eq h := by rw [hphase] at h; cases h

/-- A session that receives data, with whatever has arrived so far. -/
theorem consistent_of_receiving (hphase : s.phase.receiving = true) (herror : s.lastError = none)
    (haborted : s.abortRequested = false) (hcounted : s.transfer.Counted)
    (htotal : s.transfer.totalSize ≠ 0)
    (hwaiting : s.phase = .waitingForStart → s.transfer.receivedChunks.toNat = 0)
    (hreceiving : s.phase = .receivingData → 1 ≤ s.transfer.receivedChunks.toNat)
    (hprogress : s.progress = s.transfer.percent) : s.Consistent := by
  -- A session that receives is in none of the phases in which a session rests.
  have hrests : ∀ p : Phase, p.receiving = false → s.phase ≠ p := by
    rintro p hp rfl
    cases hp.symm.trans hphase
  exact
    { settled := by rcases (Phase.receiving_iff _).mp hphase with hp | hp <;> rw [hp] <;> rfl
      lastError_iff := by rw [herror]; exact iff_of_false Bool.false_ne_true (hrests .failed rfl)
      available_iff := available_iff_of_ne_complete (hrests .complete rfl)
      aborted := fun h => by cases haborted.symm.trans h
      counted := hcounted
      waiting := fun h => ⟨htotal, hwaiting h⟩
      receiving := fun h => ⟨htotal, hreceiving h⟩
      complete := fun h => absurd h (hrests .complete rfl)
      progress_eq := fun _ => hprogress }

/-- A session with an image that passed all checks. -/
theorem consistent_of_complete (hphase : s.phase = .complete) (herror : s.lastError = none)
    (haborted : s.abortRequested = false) (hcounted : s.transfer.Counted)
    (hrestart : s.restartRequired = true)
    (hall : s.transfer.totalSize ≠ 0 ∧ s.transfer.receivedBytes = s.transfer.totalSize
      ∧ s.progress = 100) : s.Consistent where
  settled := by rw [hphase]; rfl
  lastError_iff := by rw [herror, hphase]; exact iff_of_false (fun h => nomatch h) fun h => nomatch h
  available_iff := by
    unfold updateAvailable
    rw [hphase, hrestart]
    exact iff_of_true rfl rfl
  aborted h := by cases haborted.symm.trans h
  counted := hcounted
  waiting h := by cases hphase.symm.trans h
  receiving h := by cases hphase.symm.trans h
  complete _ := hall
  progress_eq h := by rw [hphase] at h; cases h

/-- A session in which all is well so far was not aborted, and knows of no error. -/
theorem Consistent.clean (h : s.Consistent) (hphase : s.phase ≠ .failed) :
    s.lastError = none ∧ s.abortRequested = false := by
  constructor
  · -- An error comes with `failed`, and so does an abort.
    cases herror : s.lastError with
    | none => rfl
    | some e =>
      refine absurd (h.lastError_iff.mp ?_) hphase
      rw [herror]
      rfl
  · cases haborted : s.abortRequested with
    | false => rfl
    | true => exact absurd (h.aborted haborted).1 hphase

/-- A transfer that is under way was declared, and nothing has gone wrong with it yet. -/
theorem Consistent.under_way (h : s.Consistent) (hreceiving : s.phase.receiving = true) :
    s.transfer.totalSize ≠ 0 ∧ s.lastError = none ∧ s.abortRequested = false := by
  rcases (Phase.receiving_iff _).mp hreceiving with hphase | hphase
  · refine ⟨(h.waiting hphase).1, h.clean ?_⟩
    rw [hphase]
    exact fun h => nomatch h
  · refine ⟨(h.receiving hphase).1, h.clean ?_⟩
    rw [hphase]
    exact fun h => nomatch h

/-- A session that was just opened is consistent. -/
theorem consistent_fresh (config : SessionConfig) (accepts : Header → Bool) :
    (fresh config accepts).Consistent :=
  consistent_of_idle rfl rfl rfl Transfer.counted_none

end Session

namespace Link

open DualSlot.Action

variable {g : Geometry}

/-- The session of the link is consistent. The board does not matter. -/
def Consistent (link : Link g) : Prop := link.session.Consistent

/-- A start leaves the session idle, failed or waiting, with a transfer that was just declared. -/
theorem consistent_start (total chunk : UInt32) : Keeps (Consistent (g := g)) (start total chunk) := by
  refine Keeps.of_outcome (start_outcome total chunk) fun link r outcome h => ?_
  cases outcome with
  | refused e => exact h
  | slotLocked may _ =>
    exact Session.consistent_of_idle rfl rfl rfl (Transfer.counted_declare may.total_ne may.chunk_ne)
  | notErased may _ =>
    exact Session.consistent_of_failed rfl rfl (fun h => nomatch h)
      (Transfer.counted_declare may.total_ne may.chunk_ne)
  | started may _ =>
    exact Session.consistent_of_receiving rfl rfl rfl
      (Transfer.counted_declare may.total_ne may.chunk_ne) may.total_ne (fun _ => rfl)
      (fun h => nomatch h) (Transfer.percent_declare total chunk).symm

/-- A chunk leaves the session receiving or failed. -/
theorem consistent_receive (number : UInt32) (data : List UInt8) :
    Keeps (Consistent (g := g)) (receive number data) := by
  refine Keeps.of_outcome (receive_outcome number data) fun link r outcome h => ?_
  cases outcome with
  | refused e _ => exact h
  | notWritten expected cause board _ =>
    obtain ⟨_, _, haborted⟩ := h.under_way expected.receiving
    refine Session.consistent_of_failed rfl rfl (fun h => ?_) h.counted
    cases haborted.symm.trans h
  | accepted expected board _ =>
    obtain ⟨htotal, herror, haborted⟩ := h.under_way expected.receiving
    -- One chunk more has arrived, so there is at least one.
    obtain ⟨_, hchunks⟩ := h.counted.toNat_accept expected.length_pos expected.le_remaining
    have hone : 1 ≤ (link.session.transfer.accept data.length).receivedChunks.toNat := by omega
    exact Session.consistent_of_receiving rfl herror haborted
      (h.counted.accept expected.length_pos expected.le_chunk expected.le_remaining) htotal
      (fun h => nomatch h) (fun _ => hone) rfl

/-- Between two calls there is nothing to validate. -/
theorem consistent_validate : Keeps (Consistent (g := g)) validate := by
  intro link h
  rw [effect_validate_of_settled h.settled]
  exact h

/-- A check leaves the session complete or failed. -/
theorem consistent_finalize : Keeps (Consistent (g := g)) finalize := by
  refine Keeps.of_outcome finalize_outcome fun link r outcome h => ?_
  cases outcome with
  | refused e => exact h
  | checked phase_eq all outcome =>
    have hreceiving : link.session.phase.receiving = true := by
      rw [phase_eq]
      rfl
    -- Up to the check all was well, so an error is that of the check.
    obtain ⟨htotal, herror, haborted⟩ := h.under_way hreceiving
    cases outcome with
    | refused e notValidating => exact absurd rfl notValidating
    | failed e header board _ =>
      refine Session.consistent_of_failed rfl rfl (fun h => ?_) h.counted
      cases haborted.symm.trans h
    | completed header board _ _ =>
      exact Session.consistent_of_complete rfl herror haborted h.counted rfl ⟨htotal, all, rfl⟩

/-- An apply leaves the session complete as it was, or failed. -/
theorem consistent_apply : Keeps (Consistent (g := g)) apply := by
  refine Keeps.of_outcome apply_outcome fun link r outcome h => ?_
  cases outcome with
  | refused e _ => exact h
  | turnedDown complete cause board _ =>
    obtain ⟨_, haborted⟩ := h.clean (by rw [complete]; exact fun h => nomatch h)
    refine Session.consistent_of_failed rfl rfl (fun h => ?_) h.counted
    cases haborted.symm.trans h
  | takenOver complete board _ =>
    -- The session is complete again, as it was before.
    obtain ⟨herror, haborted⟩ := h.clean (by rw [complete]; exact fun h => nomatch h)
    exact Session.consistent_of_complete rfl herror haborted h.counted rfl (h.complete complete)

/-- An abort leaves the session failed, with the error that an abort has. -/
theorem consistent_abort : Keeps (Consistent (g := g)) abort := by
  refine Keeps.of_outcome abort_outcome fun link r outcome h => ?_
  cases outcome with
  | refused e _ => exact h
  | ended _ => exact Session.consistent_of_failed rfl rfl (fun _ => rfl) h.counted

/-- A poll changes nothing that is told. -/
theorem consistent_poll (elapsed : UInt32) : Keeps (Consistent (g := g)) (poll elapsed) := by
  intro link h
  obtain ⟨answer, idle, heq⟩ := poll_outcome elapsed link
  rw [heq]
  exact { h with }

/-- Consistency survives every call of a session. -/
theorem survives_consistent : Survives (Consistent (g := g)) where
  start := consistent_start
  receive := consistent_receive
  finalize := consistent_finalize
  validate := consistent_validate
  abort := consistent_abort
  apply := consistent_apply
  poll := consistent_poll

theorem consistent_sessionCall (call : SessionCall) :
    Keeps (Consistent (g := g)) (call.run : SessionAction g Answer) :=
  survives_consistent.sessionCall call

end Link

/-! ## Runs -/

/-- A call on a session, with the board and the verdict of the application that it meets with. -/
structure Encounter where
  geometry : Geometry
  board : Board geometry
  accepts : Header → Bool
  call : SessionCall

namespace Session

open DualSlot.Action

/-- The session after a call, whatever that answers. -/
def meet (s : Session) (e : Encounter) : Session :=
  let link : Link e.geometry := ⟨{ s with accepts := e.accepts }, e.board⟩
  (effect (e.call.run : SessionAction e.geometry Answer) link).2.session

/-- The session after a number of calls. -/
def meets (s : Session) (encounters : List Encounter) : Session := encounters.foldl meet s

/-- Whatever board the call meets, the session is consistent after it. -/
theorem Consistent.meet {s : Session} (h : s.Consistent) (e : Encounter) : (s.meet e).Consistent := by
  have hlink : (⟨{ s with accepts := e.accepts }, e.board⟩ : Link e.geometry).Consistent := { h with }
  exact Link.consistent_sessionCall e.call _ hlink

/-- So it is after any number of calls. -/
theorem Consistent.meets {s : Session} (h : s.Consistent) (encounters : List Encounter) :
    (s.meets encounters).Consistent := by
  induction encounters generalizing s with
  | nil => exact h
  | cons e rest ih => exact ih (h.meet e)

/-- Between any two calls, whatever these were and whatever they met with, what a session tells fits
together. A check by itself is refused, and the progress of a transfer is the whole percentage of what
has arrived, so that it is a hundred just when all has. -/
theorem consistent_after_any_calls (config : SessionConfig) (accepts : Header → Bool)
    (encounters : List Encounter) :
    let s := (fresh config accepts).meets encounters
    s.Consistent
      ∧ (∀ (g : Geometry) (board : Board g),
          effect Link.validate (⟨s, board⟩ : Link g) = (.error .invalidState, ⟨s, board⟩))
      ∧ (s.phase.receiving = true →
          s.progress.toNat = 100 * s.transfer.receivedBytes.toNat / s.transfer.totalSize.toNat
            ∧ (s.progress = 100 ↔ s.transfer.receivedBytes = s.transfer.totalSize)) := by
  intro s
  have hconsistent : s.Consistent := (consistent_fresh config accepts).meets encounters
  refine ⟨hconsistent, fun g board => Link.effect_validate_of_settled hconsistent.settled, ?_⟩
  intro hreceiving
  obtain ⟨htotal, _⟩ := hconsistent.under_way hreceiving
  rw [hconsistent.progress_eq hreceiving]
  exact ⟨hconsistent.counted.toNat_percent htotal, hconsistent.counted.percent_eq_iff htotal⟩

end Session

end DualSlot
