import DualSlot.Bench.Call
import DualSlot.Proofs.Update.Outcome

/-!
# Sessions and the lock of the update slot

The lock has no owner. What ties it to the sessions is a balance: the number of sessions that receive
data is one while the lock is held, and zero while it is free. `Link.Balanced others` says this of one
session next to `others` more that receive.

Every call of a session keeps the balance, but for one: `apply` gives the lock back although it never
took it. It keeps the balance just if it does not run into a lock (`balanced_apply_iff`).
-/

namespace DualSlot

namespace Phase

/-- The phases between two calls. A session passes through `validating` and `updating` only within a
call. -/
def settled : Phase → Bool
  | validating | updating => false
  | _ => true

/-- Between two calls only a session that receives is busy. -/
theorem busy_eq_receiving {p : Phase} (h : p.settled = true) : p.busy = p.receiving := by
  cases p <;> first | rfl | cases h

/-- A session that may start receives nothing. -/
theorem not_receiving_of_rests {p : Phase} (h : p = .idle ∨ p.terminal = true) :
    p.receiving = false := by
  rcases h with rfl | h
  · rfl
  · cases p <;> first | rfl | cases h

end Phase

namespace Link

open DualSlot.Action

variable {g : Geometry} {others : Nat}

/-- As many sessions receive data as the lock says, this one and `others` more. -/
structure Balanced (others : Nat) (link : Link g) : Prop where
  settled : link.session.phase.settled = true
  balance : others + link.session.phase.receiving.toNat = link.board.loader.updateLocked.toNat

namespace Balanced

variable {session session' : Session} {board board' : Board g}

/-- A session that receives data is the only one. -/
theorem alone (h : Balanced others ⟨session, board⟩) (hreceiving : session.phase.receiving = true) :
    others = 0 := by
  have hbalance := h.balance
  have hlocked := Bool.toNat_le board.loader.updateLocked
  rw [hreceiving] at hbalance
  simp only [Bool.toNat_true] at hbalance
  omega

/-- A session that is the only one and receives nothing leaves the lock free. -/
theorem free {link : Link g} (h : Balanced 0 link) (hrests : link.session.phase.receiving = false) :
    link.board.loader.updateLocked = false := by
  have hbalance := h.balance
  rw [hrests] at hbalance
  cases hlocked : link.board.loader.updateLocked with
  | false => rfl
  | true =>
    rw [hlocked] at hbalance
    cases hbalance

/-- Where the lock is free nobody receives data. -/
theorem nobody (h : Balanced others ⟨session, board⟩) (hfree : board.loader.updateLocked = false) :
    others = 0 := by
  have hbalance := h.balance
  rw [hfree] at hbalance
  simp only [Bool.toNat_false] at hbalance
  omega

/-- Nobody receives who did not before, and the lock is as it was. -/
theorem of_same (h : Balanced others ⟨session, board⟩)
    (hsettled : session'.phase.settled = true)
    (hphase : session'.phase.receiving = session.phase.receiving)
    (hlock : board'.loader.updateLocked = board.loader.updateLocked) :
    Balanced others ⟨session', board'⟩ where
  settled := hsettled
  balance := by
    rw [hphase, hlock]
    exact h.balance

/-- A session that takes the lock. -/
theorem taken (h : Balanced others ⟨session, board⟩) (hfree : board.loader.updateLocked = false)
    (hsettled : session'.phase.settled = true) (hreceiving : session'.phase.receiving = true)
    (hlocked : board'.loader.updateLocked = true) : Balanced others ⟨session', board'⟩ where
  settled := hsettled
  balance := by
    rw [hreceiving, hlocked, h.nobody hfree, Nat.zero_add]

/-- The session that holds the lock gives it back. -/
theorem given (h : Balanced others ⟨session, board⟩) (hreceiving : session.phase.receiving = true)
    (hsettled : session'.phase.settled = true) (hdone : session'.phase.receiving = false)
    (hfree : board'.loader.updateLocked = false) : Balanced others ⟨session', board'⟩ where
  settled := hsettled
  balance := by
    rw [hdone, hfree, h.alone hreceiving, Nat.zero_add]

/-- A session that stops gives the lock back if it held it, and leaves it alone otherwise. -/
theorem stopped (h : Balanced others ⟨session, board⟩) (hsettled : session'.phase.settled = true)
    {next : Phase} (hnext : next.busy = false) (hdone : session'.phase.receiving = false) :
    Balanced others ⟨session', boardAfter board session.phase next⟩ := by
  -- A settled session is busy just if it receives data.
  have hbusy := Phase.busy_eq_receiving h.settled
  cases hreceiving : session.phase.receiving with
  | true =>
    rw [boardAfter_of_busy board (hbusy.trans hreceiving) hnext]
    exact h.given hreceiving hsettled hdone rfl
  | false =>
    rw [boardAfter_of_not_busy board (hbusy.trans hreceiving)]
    exact h.of_same hsettled (hdone.trans hreceiving.symm) rfl

end Balanced

/-! ## The calls of a session -/

theorem balanced_start (total chunk : UInt32) : Keeps (Balanced (g := g) others) (start total chunk) := by
  refine Keeps.of_outcome (start_outcome total chunk) fun link r outcome h => ?_
  -- A session that may start receives nothing, and still does not if the start fails.
  cases outcome with
  | refused e => exact h
  | slotLocked may _ =>
    exact h.of_same rfl (Phase.not_receiving_of_rests may.phase_rests).symm rfl
  | notErased may _ =>
    exact h.of_same rfl (Phase.not_receiving_of_rests may.phase_rests).symm rfl
  | started _ free => exact h.taken free rfl rfl rfl

/-- A chunk keeps the lock, unless it cannot be written and ends the session. -/
theorem balanced_receive (number : UInt32) (data : List UInt8) :
    Keeps (Balanced (g := g) others) (receive number data) := by
  refine Keeps.of_outcome (receive_outcome number data) fun link r outcome h => ?_
  have hloader := Board.loader_programUpdateSlot link.session.transfer.receivedBytes.toNat data
    link.board
  cases outcome with
  | refused e _ => exact h
  | notWritten expected cause board written => exact h.given expected.receiving rfl rfl rfl
  | accepted expected board written =>
    rw [written] at hloader
    exact h.of_same rfl expected.receiving.symm (congrArg Loader.updateLocked hloader)

/-- Between two calls no session is validating, so a check by itself is refused. -/
theorem effect_validate_of_settled {link : Link g} (h : link.session.phase.settled = true) :
    effect validate link = (.error .invalidState, link) := by
  -- A settled session is in the middle of nothing.
  have hphase : link.session.phase ≠ .validating := by
    intro hphase
    rw [hphase] at h
    cases h
  exact effect_validate_of_not_validating hphase

/-- A validation between two calls is refused. -/
theorem balanced_validate : Keeps (Balanced (g := g) others) validate := by
  intro link h
  rw [effect_validate_of_settled h.settled]
  exact h

/-- A check ends the session that has received everything, and its lock goes with it. -/
theorem balanced_finalize : Keeps (Balanced (g := g) others) finalize := by
  refine Keeps.of_outcome finalize_outcome fun link r outcome h => ?_
  cases outcome with
  | refused e => exact h
  | checked phase_eq _ outcome =>
    have hreceiving : link.session.phase.receiving = true := by
      rw [phase_eq]
      rfl
    -- A check that is made gives the lock back, whichever way it goes.
    cases outcome with
    | refused e notValidating => exact absurd rfl notValidating
    | failed e header board _ => exact h.given hreceiving rfl rfl rfl
    | completed header board _ _ => exact h.given hreceiving rfl rfl rfl

/-- An abort stops the session. -/
theorem balanced_abort : Keeps (Balanced (g := g) others) abort := by
  refine Keeps.of_outcome abort_outcome fun link r outcome h => ?_
  cases outcome with
  | refused e _ => exact h
  | ended _ => exact h.stopped rfl rfl rfl

/-- A poll stops nothing. -/
theorem balanced_poll (elapsed : UInt32) : Keeps (Balanced (g := g) others) (poll elapsed) := by
  intro link h
  obtain ⟨r, idle, heq⟩ := poll_outcome elapsed link
  rw [heq]
  exact h.of_same h.settled rfl rfl

/-- The phase that a session is in after an attempt to apply its image. -/
theorem settled_apply (link : Link g) (h : link.session.phase.settled = true) :
    (effect apply link).2.session.phase.settled = true := by
  have houtcome := apply_outcome link
  generalize effect apply link = r at houtcome ⊢
  cases houtcome with
  | refused e _ => exact h
  | turnedDown _ cause board _ => rfl
  | takenOver _ board _ => rfl

/-- Applying keeps the balance just if it does not run into a lock. A session that may apply its image
holds no lock itself, so one that it runs into is the lock of another. -/
theorem balanced_apply_iff {link : Link g} (h : Balanced others link) :
    Balanced others (effect apply link).2
      ↔ ¬ (link.session.phase = .complete ∧ link.board.loader.updateLocked = true) := by
  have hsettled := settled_apply link h.settled
  have houtcome := apply_outcome link
  generalize effect apply link = r at houtcome hsettled ⊢
  -- Both ways to go on leave the lock free, whoever held it.
  have hfreed : ∀ session' : Session, ∀ board' : Board g, session'.phase.settled = true →
      session'.phase.receiving = false → link.session.phase = .complete →
      (Balanced others ⟨session', board'.unlocked⟩
        ↔ ¬ (link.session.phase = .complete ∧ link.board.loader.updateLocked = true)) := by
    intro session' board' hsettled' hreceiving' hcomplete
    have hreceiving : link.session.phase.receiving = false := by
      rw [hcomplete]
      rfl
    constructor
    · -- The lock was held for one of the others, who now receives without it.
      rintro h' ⟨_, hlocked⟩
      have hbalance := h.balance
      rw [hreceiving, hlocked, h'.nobody rfl] at hbalance
      cases hbalance
    · intro hnot
      have hfree : link.board.loader.updateLocked = false := by
        simpa [hcomplete] using hnot
      exact h.of_same hsettled' (hreceiving'.trans hreceiving.symm) hfree.symm
  cases houtcome with
  | refused e notComplete => exact iff_of_true h fun hboth => notComplete hboth.1
  | turnedDown complete cause board _ => exact hfreed _ board rfl rfl complete
  | takenOver complete board _ => exact hfreed _ board rfl rfl complete

/-- Every call but an apply keeps the balance. -/
theorem balanced_sessionCall {call : SessionCall} (hcall : call ≠ .apply) :
    Keeps (Balanced (g := g) others) (call.run : SessionAction g Answer) := by
  cases call with
  | start total chunk => exact (balanced_start total chunk).answering _
  | receive number data => exact (balanced_receive number data).answering _
  | transmit total chunk data limit =>
    exact (keeps_transmit balanced_start balanced_receive total chunk data limit).map _
  | finalize => exact balanced_finalize.answering _
  | validate => exact balanced_validate.answering _
  | abort => exact balanced_abort.answering _
  | apply => exact absurd rfl hcall
  | poll elapsed => exact (balanced_poll elapsed).answering _

end Link

end DualSlot
