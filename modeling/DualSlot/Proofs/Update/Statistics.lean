import DualSlot.Proofs.Update.Consistency

/-!
# The statistics add up

The statistics of a session are three words that different calls count up on different exits. This module
keeps books next to them, of what is seen of the calls from outside (`Link.tally`):

| what is seen                                               | entry        |
|------------------------------------------------------------|--------------|
| a start answers                                            | `started`    |
| a check of the received image answers                      | `completed`  |
| a session in flight, or just started, ends with an error   | `lost`       |
| an abort is accepted while no session is in flight         | `idleAborts` |

The words agree with the books after every call, and the books balance: a session that was started is
completed, lost or still in flight (`Session.Accounted`). What the boards and the boot loaders do between
the calls makes no difference.
-/

namespace DualSlot

/-! ## Books -/

/-- What was seen of a number of calls. -/
structure Tally where
  started : Nat
  completed : Nat
  lost : Nat
  idleAborts : Nat

namespace Tally

/-- Nothing was seen. -/
def none : Tally := ⟨0, 0, 0, 0⟩

instance : Add Tally where
  add t u :=
    ⟨t.started + u.started, t.completed + u.completed, t.lost + u.lost, t.idleAborts + u.idleAborts⟩

theorem none_add (t : Tally) : none + t = t := by
  cases t
  show Tally.mk _ _ _ _ = _
  simp only [none, Nat.zero_add]

theorem add_assoc (t u v : Tally) : t + u + v = t + (u + v) := by
  show Tally.mk _ _ _ _ = Tally.mk _ _ _ _
  congr 1 <;> exact Nat.add_assoc _ _ _

end Tally

namespace Link

open DualSlot.Action

variable {g : Geometry}

/-- The call starts a session. -/
def opens (link : Link g) : SessionCall → Bool
  | .start total chunk | .transmit total chunk _ _ => (effect (start total chunk) link).1.isOk
  | _ => false

/-- The call completes a session. -/
def completes (link : Link g) : SessionCall → Bool
  | .finalize => (effect finalize link).1.isOk
  | _ => false

/-- The call ends a session with an error, one that was in flight before or that it has started itself. -/
def loses (link : Link g) (call : SessionCall) : Bool :=
  (link.session.phase.receiving || link.opens call)
    && (effect (call.run : SessionAction g Answer) link).2.session.phase == .failed

/-- The call is an abort that is accepted although there is nothing to abort. -/
def abortsIdle (link : Link g) : SessionCall → Bool
  | .abort => link.session.phase == .idle && (effect abort link).1.isOk
  | _ => false

/-- What is seen of a call. -/
def tally (link : Link g) (call : SessionCall) : Tally where
  started := (link.opens call).toNat
  completed := (link.completes call).toNat
  lost := (link.loses call).toNat
  idleAborts := (link.abortsIdle call).toNat

end Link

/-! ## The statistics against the books -/

namespace Session

variable {t : Tally} {s s' : Session}

/-- The statistics agree with the books, and the books balance. -/
structure Accounted (t : Tally) (s : Session) : Prop where
  settled : s.phase.settled = true
  total_eq : s.statistics.total = t.started.toUInt32
  successful_eq : s.statistics.successful = t.completed.toUInt32
  failed_eq : s.statistics.failed = (t.lost + t.idleAborts).toUInt32
  balance : t.started = t.completed + t.lost + s.phase.receiving.toNat

/-- A new session has counted nothing, and nothing was seen of it. -/
theorem accounted_fresh (config : SessionConfig) (accepts : Header → Bool) :
    Accounted .none (fresh config accepts) :=
  ⟨rfl, rfl, rfl, rfl, rfl⟩

/-- The counters are words, and a word counts on past its end as the number does. -/
theorem toUInt32_succ (n : Nat) : (n + 1).toUInt32 = n.toUInt32 + 1 := UInt32.ofNat_add n 1

namespace Accounted

/-- Nothing was counted, and a session in flight still is. -/
theorem same (h : s.Accounted t) (hsettled : s'.phase.settled = true)
    (hphase : s'.phase.receiving = s.phase.receiving) (hcounts : s'.statistics = s.statistics) :
    s'.Accounted t where
  settled := hsettled
  total_eq := by rw [hcounts, h.total_eq]
  successful_eq := by rw [hcounts, h.successful_eq]
  failed_eq := by rw [hcounts, h.failed_eq]
  balance := by rw [hphase, ← h.balance]

/-- A session is started: it is counted, and from then on in flight. -/
theorem opened (h : s.Accounted t) (hrests : s.phase.receiving = false) (total chunk : UInt32) :
    (s.started total chunk).Accounted (t + ⟨1, 0, 0, 0⟩) where
  settled := rfl
  total_eq := by
    show s.statistics.total + 1 = (t.started + 1).toUInt32
    rw [h.total_eq, toUInt32_succ]
  successful_eq := h.successful_eq
  failed_eq := h.failed_eq
  balance := by
    -- What is new in the books is in flight, and nothing was in flight before.
    have hbalance := h.balance
    rw [hrests, Bool.toNat_false] at hbalance
    show t.started + 1 = t.completed + t.lost + 1
    omega

/-- A session in flight ends with an error. -/
theorem lost (h : s.Accounted t) (hreceiving : s.phase.receiving = true) (hphase : s'.phase = .failed)
    (hcounts : s'.statistics = { s.statistics with failed := s.statistics.failed + 1 }) :
    s'.Accounted (t + ⟨0, 0, 1, 0⟩) where
  settled := by rw [hphase]; rfl
  total_eq := by rw [hcounts]; exact h.total_eq
  successful_eq := by rw [hcounts]; exact h.successful_eq
  failed_eq := by
    rw [hcounts]
    show s.statistics.failed + 1 = (t.lost + 1 + t.idleAborts).toUInt32
    rw [h.failed_eq, Nat.add_right_comm, toUInt32_succ]
  balance := by
    -- The session in flight moves to the lost ones, so the sum is the same.
    have hbalance := h.balance
    rw [hreceiving, Bool.toNat_true] at hbalance
    rw [hphase]
    show t.started = t.completed + (t.lost + 1) + 0
    omega

/-- An error is counted although no session is in flight. -/
theorem idleAborted (h : s.Accounted t) (hrests : s.phase.receiving = false)
    (hphase : s'.phase = .failed)
    (hcounts : s'.statistics = { s.statistics with failed := s.statistics.failed + 1 }) :
    s'.Accounted (t + ⟨0, 0, 0, 1⟩) where
  settled := by rw [hphase]; rfl
  total_eq := by rw [hcounts]; exact h.total_eq
  successful_eq := by rw [hcounts]; exact h.successful_eq
  failed_eq := by
    rw [hcounts]
    show s.statistics.failed + 1 = (t.lost + (t.idleAborts + 1)).toUInt32
    rw [h.failed_eq, ← Nat.add_assoc, toUInt32_succ]
  balance := by
    -- Nothing was in flight, and the abort stands apart from the balance.
    have hbalance := h.balance
    rw [hrests, Bool.toNat_false] at hbalance
    rw [hphase]
    show t.started = t.completed + t.lost + 0
    omega

/-- The image of a session in flight passes all checks. -/
theorem completed (h : s.Accounted t) (hreceiving : s.phase.receiving = true)
    (hphase : s'.phase = .complete)
    (hcounts : s'.statistics = { s.statistics with successful := s.statistics.successful + 1 }) :
    s'.Accounted (t + ⟨0, 1, 0, 0⟩) where
  settled := by rw [hphase]; rfl
  total_eq := by rw [hcounts]; exact h.total_eq
  successful_eq := by
    rw [hcounts]
    show s.statistics.successful + 1 = (t.completed + 1).toUInt32
    rw [h.successful_eq, toUInt32_succ]
  failed_eq := by rw [hcounts]; exact h.failed_eq
  balance := by
    -- The session in flight moves to the completed ones.
    have hbalance := h.balance
    rw [hreceiving, Bool.toNat_true] at hbalance
    rw [hphase]
    show t.started = t.completed + 1 + t.lost + 0
    omega

end Accounted

end Session

/-! ## What each call counts -/

namespace Link

open DualSlot.Action

variable {g : Geometry} {link : Link g} {t : Tally}

/-- Where data may arrive a session has not failed. -/
theorem receiving_and_failed (p : Phase) : (p.receiving && p == .failed) = false := by
  cases p <;> rfl

/-- Unless it starts a session, a call can only lose the one that was in flight. -/
theorem loses_of_not_opens {call : SessionCall} (h : link.opens call = false) :
    link.loses call = (link.session.phase.receiving
      && (effect (call.run : SessionAction g Answer) link).2.session.phase == .failed) := by
  rw [loses, h, Bool.or_false]

/-- A start counts if it succeeds; in all other outcomes the statistics stay. -/
theorem accounted_start (h : link.session.Accounted t) (total chunk : UInt32) :
    (effect (start total chunk) link).2.session.Accounted
      (t + link.tally (.start total chunk)) := by
  have houtcome := start_outcome total chunk link
  rcases hr : effect (start total chunk) link with ⟨answer, after⟩
  rw [hr] at houtcome
  -- The entry in the books is read off the answer and the phase after the call.
  have htally : link.tally (.start total chunk)
      = ⟨answer.isOk.toNat, 0,
          ((link.session.phase.receiving || answer.isOk) && after.session.phase == .failed).toNat, 0⟩ := by
    simp only [tally, opens, completes, loses, abortsIdle, SessionCall.run, effect_answering, hr]
    rfl
  rw [htally]
  cases houtcome with
  | refused e =>
    rw [Except.isOk, Except.toBool, Bool.or_false, receiving_and_failed]
    exact h
  | slotLocked may _ =>
    -- A session that may start anew has nothing in flight that it could lose.
    have hrests := Phase.not_receiving_of_rests may.phase_rests
    rw [hrests]
    have hnothing : (link.session.declared total chunk).Accounted t := h.same rfl hrests.symm rfl
    exact hnothing
  | notErased may _ =>
    have hrests := Phase.not_receiving_of_rests may.phase_rests
    rw [hrests]
    have hnothing : ((link.session.declared total chunk).moved .failed (some .flashError)).Accounted t :=
      h.same rfl hrests.symm rfl
    exact hnothing
  | started may _ =>
    have hrests := Phase.not_receiving_of_rests may.phase_rests
    rw [hrests]
    exact h.opened hrests total chunk

/-- A session that was in flight still is, or was lost since. -/
def Continued (t : Tally) (link : Link g) : Prop :=
  (link.session.phase.receiving = true ∧ link.session.Accounted t)
    ∨ (link.session.phase = .failed ∧ link.session.Accounted (t + ⟨0, 0, 1, 0⟩))

/-- A session that may have been lost: the books say it by its phase. -/
theorem Continued.accounted (h : link.Continued t) :
    link.session.Accounted (t + ⟨0, 0, (link.session.phase == .failed).toNat, 0⟩) := by
  rcases h with ⟨hreceiving, haccounted⟩ | ⟨hphase, haccounted⟩
  · have hnot : (link.session.phase == .failed) = false := by
      have hboth := receiving_and_failed link.session.phase
      rw [hreceiving, Bool.true_and] at hboth
      exact hboth
    rw [hnot]
    exact haccounted
  · rw [hphase]
    exact haccounted

/-- As long as the session receives, it was not lost. -/
theorem Continued.of_receiving (h : link.Continued t) (hreceiving : link.session.phase.receiving = true) :
    link.session.Accounted t := by
  rcases h with ⟨_, haccounted⟩ | ⟨hphase, _⟩
  · exact haccounted
  · rw [hphase] at hreceiving
    cases hreceiving

/-- A chunk is either added to the session in flight or ends it. -/
theorem continued_receive (number : UInt32) (data : List UInt8) :
    Keeps (Continued (g := g) t) (receive number data) := by
  refine Keeps.of_outcome (receive_outcome number data) fun link r outcome h => ?_
  cases outcome with
  | refused e _ => exact h
  | notWritten expected _ _ _ =>
    have haccounted := h.of_receiving expected.receiving
    exact .inr ⟨rfl, haccounted.lost expected.receiving rfl rfl⟩
  | accepted expected _ _ =>
    have haccounted := h.of_receiving expected.receiving
    exact .inl ⟨rfl, haccounted.same rfl expected.receiving.symm rfl⟩

/-- A chunk counts only if it loses the session. -/
theorem accounted_receive (h : link.session.Accounted t) (number : UInt32) (data : List UInt8) :
    (effect (receive number data) link).2.session.Accounted
      (t + link.tally (.receive number data)) := by
  have htally : link.tally (.receive number data)
      = ⟨0, 0, (link.session.phase.receiving
          && (effect (receive number data) link).2.session.phase == .failed).toNat, 0⟩ := by
    rw [tally, loses_of_not_opens rfl, SessionCall.run, effect_answering]
    rfl
  rw [htally]
  -- A session in flight either goes on or is lost, and the others expect no chunk.
  cases hreceiving : link.session.phase.receiving with
  | true => exact (continued_receive number data link (.inl ⟨hreceiving, h⟩)).accounted
  | false =>
    have hnot : ¬ link.session.Expects number data := fun expected => by
      cases hreceiving.symm.trans expected.receiving
    rw [receive_of_unexpected hnot]
    exact h

/-- A start books its own session; the chunks after it can only lose that one. -/
theorem accounted_transmit (h : link.session.Accounted t) (total chunk : UInt32) (data : List UInt8)
    (limit : Option Nat) :
    (effect (transmit total chunk data limit) link).2.session.Accounted
      (t + link.tally (.transmit total chunk data limit)) := by
  have houtcome := start_outcome total chunk link
  rcases hr : effect (start total chunk) link with ⟨e | _, after⟩
  · -- Without a session there are no chunks.
    have hstart := accounted_start h total chunk
    have hstop : effect (transmit total chunk data limit) link = (.error e, after) := by
      unfold transmit
      rw [effect_bind, hr, resume_error]
    have htally : link.tally (.transmit total chunk data limit) = link.tally (.start total chunk) := by
      simp only [tally, opens, completes, loses, abortsIdle, SessionCall.run, effect_map,
        effect_answering, hstop, hr]
    rw [htally, hstop]
    rwa [hr] at hstart
  · rw [hr] at houtcome
    cases houtcome with
    -- The other outcomes of a start do not answer.
    | started may _ =>
      have hrests := Phase.not_receiving_of_rests may.phase_rests
      have hbegun : Continued (t + ⟨1, 0, 0, 0⟩)
          ⟨link.session.started total chunk, reservedBoard link.board total.toNat⟩ :=
        .inl ⟨rfl, h.opened hrests total chunk⟩
      -- The chunks are added one by one, each of them to a session that goes on or was lost.
      have hsent : Continued (t + ⟨1, 0, 0, 0⟩) (effect (transmit total chunk data limit) link).2 := by
        unfold transmit
        rw [effect_bind, hr, resume_ok]
        refine (Keeps.forEach ?_ _).bind (fun _ => keeps_pure _) _ hbegun
        rintro ⟨piece, i⟩
        exact continued_receive _ piece
      -- The transfer succeeded in starting, so the entry depends on the last phase only.
      have htally : link.tally (.transmit total chunk data limit)
          = ⟨1, 0, ((effect (transmit total chunk data limit) link).2.session.phase == .failed).toNat,
              0⟩ := by
        simp only [tally, opens, completes, loses, abortsIdle, SessionCall.run, effect_map, hr, hrests,
          Except.isOk, Except.toBool, Bool.false_or, Bool.true_and, Bool.toNat_true, Bool.toNat_false]
      rw [htally]
      exact hsent.accounted

/-- A check completes the session in flight, or loses it. -/
theorem accounted_finalize (h : link.session.Accounted t) :
    (effect finalize link).2.session.Accounted (t + link.tally .finalize) := by
  have houtcome := finalize_outcome link
  rcases hr : effect finalize link with ⟨answer, after⟩
  rw [hr] at houtcome
  have htally : link.tally .finalize
      = ⟨0, answer.isOk.toNat,
          (link.session.phase.receiving && after.session.phase == .failed).toNat, 0⟩ := by
    rw [tally, loses_of_not_opens rfl, SessionCall.run, effect_answering, hr, completes, hr]
    rfl
  rw [htally]
  cases houtcome with
  | refused e =>
    rw [receiving_and_failed]
    exact h
  | checked phase_eq _ outcome =>
    have hreceiving : link.session.phase.receiving = true := by
      rw [phase_eq]
      rfl
    rw [hreceiving]
    cases outcome with
    -- The session was just moved to `validating`, so the check is not refused.
    | refused e notValidating => exact absurd rfl notValidating
    | failed e header board _ => exact h.lost hreceiving rfl rfl
    | completed header board _ _ => exact h.completed hreceiving rfl rfl

/-- Between two calls there is nothing to validate, so nothing is counted. -/
theorem accounted_validate (h : link.session.Accounted t) :
    (effect validate link).2.session.Accounted (t + link.tally .validate) := by
  have hrefused := effect_validate_of_settled h.settled
  have htally : link.tally .validate = .none := by
    rw [tally, loses_of_not_opens rfl, SessionCall.run, effect_answering, hrefused, receiving_and_failed]
    rfl
  rw [htally, hrefused]
  exact h

/-- An abort loses the session in flight, and counts as a failure of its own if there is none. -/
theorem accounted_abort (h : link.session.Accounted t) :
    (effect abort link).2.session.Accounted (t + link.tally .abort) := by
  have houtcome := abort_outcome link
  rcases hr : effect abort link with ⟨answer, after⟩
  rw [hr] at houtcome
  have htally : link.tally .abort
      = ⟨0, 0, (link.session.phase.receiving && after.session.phase == .failed).toNat,
          (link.session.phase == .idle && answer.isOk).toNat⟩ := by
    rw [tally, loses_of_not_opens rfl, SessionCall.run, effect_answering, hr, abortsIdle, hr]
    rfl
  rw [htally]
  cases houtcome with
  | refused e _ =>
    rw [receiving_and_failed, Except.isOk, Except.toBool, Bool.and_false]
    exact h
  | ended notOver =>
    -- Between two calls a session that is not over either rests or is in flight.
    have hsettled := h.settled
    cases hphase : link.session.phase with
    | idle => exact h.idleAborted (by rw [hphase]; rfl) rfl rfl
    | waitingForStart => exact h.lost (by rw [hphase]; rfl) rfl rfl
    | receivingData => exact h.lost (by rw [hphase]; rfl) rfl rfl
    | validating | updating =>
      rw [hphase] at hsettled
      cases hsettled
    | complete | failed =>
      rw [hphase] at notOver
      cases notOver

/-- A complete session has been counted already, whatever the boot loader says to its image. -/
theorem accounted_apply (h : link.session.Accounted t) :
    (effect apply link).2.session.Accounted (t + link.tally .apply) := by
  have houtcome := apply_outcome link
  rcases hr : effect apply link with ⟨answer, after⟩
  rw [hr] at houtcome
  have htally : link.tally .apply
      = ⟨0, 0, (link.session.phase.receiving && after.session.phase == .failed).toNat, 0⟩ := by
    rw [tally, loses_of_not_opens rfl, SessionCall.run, effect_answering, hr]
    rfl
  rw [htally]
  cases houtcome with
  | refused e _ =>
    rw [receiving_and_failed]
    exact h
  | turnedDown complete _ _ _ =>
    -- A complete session is not in flight any more.
    have hrests : link.session.phase.receiving = false := by
      rw [complete]
      rfl
    rw [hrests]
    exact h.same rfl hrests.symm rfl
  | takenOver complete _ _ =>
    have hrests : link.session.phase.receiving = false := by
      rw [complete]
      rfl
    rw [hrests]
    exact h.same rfl hrests.symm rfl

/-- A poll counts nothing. -/
theorem accounted_poll (h : link.session.Accounted t) (elapsed : UInt32) :
    (effect (poll elapsed) link).2.session.Accounted (t + link.tally (.poll elapsed)) := by
  obtain ⟨answer, idle, heq⟩ := poll_outcome elapsed link
  have htally : link.tally (.poll elapsed) = .none := by
    rw [tally, loses_of_not_opens rfl, SessionCall.run, effect_answering, heq]
    simp only [receiving_and_failed]
    rfl
  rw [htally, heq]
  exact h.same h.settled rfl rfl

/-- Every call keeps the statistics with the books: the parts of this proof are the calls. -/
theorem accounted_sessionCall (h : link.session.Accounted t) (call : SessionCall) :
    (effect (call.run : SessionAction g Answer) link).2.session.Accounted (t + link.tally call) := by
  cases call with
  | start total chunk =>
    rw [SessionCall.run, effect_answering]
    exact accounted_start h total chunk
  | receive number data =>
    rw [SessionCall.run, effect_answering]
    exact accounted_receive h number data
  | transmit total chunk data limit =>
    rw [SessionCall.run, effect_map]
    exact accounted_transmit h total chunk data limit
  | finalize =>
    rw [SessionCall.run, effect_answering]
    exact accounted_finalize h
  | validate =>
    rw [SessionCall.run, effect_answering]
    exact accounted_validate h
  | abort =>
    rw [SessionCall.run, effect_answering]
    exact accounted_abort h
  | apply =>
    rw [SessionCall.run, effect_answering]
    exact accounted_apply h
  | poll elapsed =>
    rw [SessionCall.run, effect_answering]
    exact accounted_poll h elapsed

/-- Taking over an image counts nothing, whether the boot loader turns it down or not. -/
theorem statistics_apply (link : Link g) :
    (effect apply link).2.session.statistics = link.session.statistics := by
  have houtcome := apply_outcome link
  generalize effect apply link = r at houtcome ⊢
  cases houtcome with
  | refused | turnedDown | takenOver => rfl

/-- A start that fails counts nothing, even if it has forgotten the last transfer. -/
theorem statistics_start_of_fails {total chunk : UInt32} (link : Link g)
    (h : (effect (start total chunk) link).1 ≠ .ok ()) :
    (effect (start total chunk) link).2.session.statistics = link.session.statistics := by
  have houtcome := start_outcome total chunk link
  generalize effect (start total chunk) link = r at houtcome h ⊢
  cases houtcome with
  | refused | slotLocked | notErased => rfl
  | started => exact absurd rfl h

end Link

/-! ## Runs -/

namespace Session

open DualSlot.Action

variable {t : Tally} {s : Session}

/-- What is seen of a call and of what it meets with. -/
def tally (s : Session) (e : Encounter) : Tally :=
  let link : Link e.geometry := ⟨{ s with accepts := e.accepts }, e.board⟩
  link.tally e.call

/-- What is seen of a number of calls. -/
def tallies (s : Session) : List Encounter → Tally
  | [] => .none
  | e :: rest => s.tally e + (s.meet e).tallies rest

/-- One encounter: the call is made in a session on the board that it meets. -/
theorem Accounted.meet (h : s.Accounted t) (e : Encounter) : (s.meet e).Accounted (t + s.tally e) := by
  let link : Link e.geometry := ⟨{ s with accepts := e.accepts }, e.board⟩
  have hlink : link.session.Accounted t := { h with }
  exact Link.accounted_sessionCall hlink e.call

/-- Any number of encounters, each on a board of its own. -/
theorem Accounted.meets (h : s.Accounted t) (encounters : List Encounter) :
    (s.meets encounters).Accounted (t + s.tallies encounters) := by
  induction encounters generalizing s t with
  | nil => exact h
  | cons e rest ih =>
    have hrest := ih (h.meet e)
    -- The entries of the first call and of the rest add up to those of the run.
    rwa [Tally.add_assoc] at hrest

/-- After any calls, whatever they met with, the statistics are what was seen of the calls, and every
session that was started is completed, lost or in flight. So the words add up, and so do the numbers as
long as no word has wrapped around; an abort of nothing counts as a failure of its own. Taking over an
image and failing to start count nothing. -/
theorem statistics_add_up (config : SessionConfig) (accepts : Header → Bool)
    (encounters : List Encounter) :
    let s := (fresh config accepts).meets encounters
    let seen := (fresh config accepts).tallies encounters
    s.statistics
        = ⟨seen.started.toUInt32, seen.completed.toUInt32, (seen.lost + seen.idleAborts).toUInt32⟩
      ∧ seen.started = seen.completed + seen.lost + s.phase.receiving.toNat
      ∧ s.statistics.total
          = s.statistics.successful + s.statistics.failed - seen.idleAborts.toUInt32
            + s.phase.receiving.toNat.toUInt32
      ∧ (seen.started < UInt32.size → s.statistics.successful ≤ s.statistics.total)
      ∧ (seen.started < UInt32.size → seen.lost + seen.idleAborts < UInt32.size →
          s.statistics.total.toNat + seen.idleAborts
            = s.statistics.successful.toNat + s.statistics.failed.toNat + s.phase.receiving.toNat)
      ∧ ∀ (g : Geometry) (board : Board g),
          (effect Link.apply ⟨s, board⟩).2.session.statistics = s.statistics
            ∧ ∀ total chunk, (effect (Link.start total chunk) ⟨s, board⟩).1 ≠ .ok () →
              (effect (Link.start total chunk) ⟨s, board⟩).2.session.statistics = s.statistics := by
  intro s seen
  have haccounted : s.Accounted seen := by
    have hmeets := (accounted_fresh config accepts).meets encounters
    rwa [Tally.none_add] at hmeets
  have hbalance := haccounted.balance
  have hcounts : s.statistics
      = ⟨seen.started.toUInt32, seen.completed.toUInt32, (seen.lost + seen.idleAborts).toUInt32⟩ := by
    rw [← haccounted.total_eq, ← haccounted.successful_eq, ← haccounted.failed_eq]
  refine ⟨hcounts, hbalance, ?_, fun hstarted => ?_, fun hstarted hfailed => ?_, fun g board => ?_⟩
  · -- As words the books balance even if they have wrapped around.
    rw [hcounts]
    simp only [hbalance, Nat.toUInt32_eq, UInt32.ofNat_add]
    rw [← UInt32.add_assoc _ _ (UInt32.ofNat seen.idleAborts), UInt32.add_sub_cancel]
  · -- No session was counted twice, so the completed ones fit into a word if the started ones do.
    have hcompleted : seen.completed < UInt32.size := by omega
    rw [hcounts]
    simp only [Nat.toUInt32_eq, UInt32.le_iff_toNat_le, UInt32.toNat_ofNat_of_lt' hstarted,
      UInt32.toNat_ofNat_of_lt' hcompleted]
    omega
  · -- As numbers the three words are the books, and these balance.
    have hcompleted : seen.completed < UInt32.size := by omega
    rw [hcounts]
    simp only [Nat.toUInt32_eq, UInt32.toNat_ofNat_of_lt' hstarted,
      UInt32.toNat_ofNat_of_lt' hcompleted, UInt32.toNat_ofNat_of_lt' hfailed]
    omega
  · exact ⟨Link.statistics_apply ⟨s, board⟩,
      fun total chunk hfails => Link.statistics_start_of_fails ⟨s, board⟩ hfails⟩

end Session

end DualSlot
