import DualSlot.Proofs.Boot.Alike
import DualSlot.Proofs.Update.Move

/-!
# What a session cannot see of its board

The calls of a session that receives data respect the likeness of boards: over boards that are alike
they answer the same, report the same and notify the application in the same way, and leave the same
session over boards that are alike again.

A start and an attempt to apply would look at what else the boot loader has in mind, but a session that
receives refuses both.
-/

namespace DualSlot

namespace Link

open DualSlot.Action

variable {g : Geometry} {limit : Nat} {link link' : Link g} {α : Type}

/-- The flash of the board was read too often. -/
def PastReads (limit : Nat) (link : Link g) : Prop := link.board.PastReads limit

/-- The same session over boards that are alike. -/
structure Alike (limit : Nat) (link link' : Link g) : Prop where
  session_eq : link'.session = link.session
  board_alike : link.board.Alike limit link'.board

/-! ## Steps -/

theorem respects_onBoard {x : BoardAction g α}
    (hx : Respects (Board.Alike limit) (Board.PastReads limit) x) :
    Respects (Alike limit) (PastReads limit) (onBoard x) where
  lost_stays link h := hx.lost_stays link.board h
  same link link' h hon := by
    obtain ⟨hresult, hevents, hboard⟩ := hx.same link.board link'.board h.board_alike hon
    exact ⟨congrArg Except.ok hresult, congrArg (List.map SessionEvent.board) hevents,
      ⟨h.session_eq, hboard⟩⟩

theorem respects_look_session (f : Session → α) :
    Respects (Alike limit) (PastReads limit) (look f : SessionAction g α) :=
  respects_look fun _ _ h => congrArg f h.session_eq

theorem respects_lookSlot :
    Respects (Alike limit) (PastReads limit) (lookLoader (·.updateSlot) : SessionAction g Nat) :=
  respects_look fun _ _ h => congrArg Layout.slotB h.board_alike.layout_eq

theorem respects_change_session (f : Session → Session) :
    Respects (Alike limit) (PastReads limit) (change f : SessionAction g Unit) :=
  respects_change (fun _ h => h) fun _ _ h => ⟨congrArg f h.session_eq, h.board_alike⟩

theorem respects_log (message : UpdateMessage) :
    Respects (Alike limit) (PastReads limit) (log message : SessionAction g Unit) :=
  respects_say _

theorem respects_refuse (message : UpdateMessage) (e : UpdateError) :
    Respects (Alike limit) (PastReads limit) (refuse message e : SessionAction g α) :=
  (respects_log message).bind fun _ => respects_fail e

/-- The application is told of the lock, and that is the same. -/
theorem respects_notify (notice : Notice) :
    Respects (Alike limit) (PastReads limit) (notify notice : SessionAction g Unit) :=
  (respects_look fun _ _ h => h.board_alike.locked_eq).bind fun _ => respects_say _

theorem respects_release :
    Respects (Alike limit) (PastReads limit) (release : SessionAction g Unit) :=
  (respects_onBoard Board.respects_unlockUpdateSlot).bind fun _ => respects_pure ()

theorem respects_enter (next : Phase) (cause : Option UpdateError) :
    Respects (Alike limit) (PastReads limit) (enter next cause : SessionAction g Unit) := by
  unfold enter
  refine (respects_look_session _).bind fun phase => .ite (respects_refuse _ _) ?_
  refine (respects_log _).bind fun _ => (respects_change_session _).bind fun _ => ?_
  exact .ite (respects_release.bind fun _ => respects_notify _) (respects_notify _)

theorem respects_setProgress (percent : UInt8) :
    Respects (Alike limit) (PastReads limit) (setProgress percent : SessionAction g Unit) :=
  (respects_change_session _).bind fun _ => respects_notify _

theorem respects_giveUp (e : UpdateError) :
    Respects (Alike limit) (PastReads limit) (giveUp e : SessionAction g Unit) :=
  (respects_change_session _).bind fun _ =>
    (respects_enter _ _).attempt.bind fun _ => respects_pure ()

theorem respects_abandon (message : UpdateMessage) (e : UpdateError) :
    Respects (Alike limit) (PastReads limit) (abandon message e : SessionAction g α) :=
  (respects_log message).bind fun _ => (respects_giveUp e).bind fun _ => respects_fail e

/-! ## Calls -/

theorem respects_receive (number : UInt32) (data : List UInt8) :
    Respects (Alike limit) (PastReads limit) (receive number data : SessionAction g Unit) := by
  unfold receive
  refine (respects_look_session _).bind fun phase => (respects_look_session _).bind fun transfer => ?_
  refine .ite (respects_refuse _ _) (.ite (respects_refuse _ _) (.ite (respects_refuse _ _) ?_))
  refine (respects_onBoard (Board.respects_programUpdateSlot _ data)).bind fun answer => ?_
  cases answer with
  | error e => exact respects_abandon _ _
  | ok _ =>
    -- The first chunk moves the session on, and every chunk is counted.
    refine .ite ((respects_enter _ _).bind fun _ => ?_) ?_
    all_goals
      exact (respects_change_session _).bind fun _ => (respects_log _).bind fun _ =>
        respects_setProgress _

theorem respects_checkHeader (header : Header) :
    Respects (Alike limit) (PastReads limit) (checkHeader header : SessionAction g Unit) := by
  unfold checkHeader
  refine (respects_look_session _).bind fun total => .ite (respects_abandon _ _) ?_
  exact .ite (respects_abandon _ _) (respects_pure ())

theorem respects_checkPayload (header : Header) :
    Respects (Alike limit) (PastReads limit) (checkPayload header : SessionAction g Unit) := by
  unfold checkPayload
  refine respects_lookSlot.bind fun slot => ?_
  refine (respects_onBoard (Board.respects_payloadCrc slot header)).bind fun answer => ?_
  cases answer with
  | error e => exact respects_abandon _ _
  | ok calculated => exact .ite (respects_abandon _ _) (respects_pure ())

theorem respects_askApplication (header : Header) :
    Respects (Alike limit) (PastReads limit) (askApplication header : SessionAction g Unit) := by
  unfold askApplication
  refine (respects_notify _).bind fun _ => (respects_look_session _).bind fun accepts => ?_
  exact .ite (respects_abandon _ _) (respects_pure ())

theorem respects_validate :
    Respects (Alike limit) (PastReads limit) (validate : SessionAction g Unit) := by
  unfold validate
  -- Nothing is read of the board but the header and the payload, and every refusal is one of the
  -- session.
  refine (respects_look_session _).bind fun phase => .ite (respects_fail _) ?_
  refine respects_lookSlot.bind fun slot => ?_
  refine (respects_onBoard (Board.respects_readHeader slot)).bind fun answer => ?_
  cases answer with
  | error e => exact respects_abandon _ _
  | ok header =>
    refine (respects_change_session _).bind fun _ => (respects_checkHeader header).bind fun _ => ?_
    refine (respects_checkPayload header).bind fun _ => (respects_askApplication header).bind fun _ => ?_
    refine (respects_log _).bind fun _ => (respects_enter _ _).bind fun _ => ?_
    exact (respects_setProgress _).bind fun _ => respects_change_session _

theorem respects_finalize :
    Respects (Alike limit) (PastReads limit) (finalize : SessionAction g Unit) := by
  unfold finalize
  refine (respects_look_session _).bind fun phase => (respects_look_session _).bind fun transfer => ?_
  refine .ite (respects_refuse _ _) (.ite (respects_refuse _ _) ?_)
  exact (respects_log _).bind fun _ => (respects_enter _ _).bind fun _ =>
    (respects_setProgress _).bind fun _ => respects_validate

theorem respects_abort :
    Respects (Alike limit) (PastReads limit) (abort : SessionAction g Unit) := by
  unfold abort
  refine (respects_look_session _).bind fun phase => .ite (respects_refuse _ _) ?_
  exact (respects_log _).bind fun _ => (respects_change_session _).bind fun _ => respects_giveUp _

theorem respects_poll (elapsed : UInt32) :
    Respects (Alike limit) (PastReads limit) (poll elapsed : SessionAction g Unit) := by
  unfold poll
  refine (respects_look_session _).bind fun phase => .ite (respects_change_session _) ?_
  refine (respects_look_session _).bind fun idle => (respects_change_session _).bind fun _ => ?_
  exact (respects_look_session _).bind fun timeout => .ite (respects_refuse _ _) (respects_pure ())

theorem respects_close (inUse : Bool) :
    Respects (Alike limit) (PastReads limit) (close inUse : SessionAction g Unit) := by
  unfold close
  refine (respects_look_session _).bind fun phase => .ite ?_ (respects_pure ())
  exact (respects_log _).bind fun _ => respects_release

/-! ## Calls that are refused -/

/-- While data may arrive no other transfer can be declared. -/
theorem start_of_receiving (h : link.session.phase.receiving = true) (total chunk : UInt32) :
    start total chunk link = refuse (.cannotStart link.session.phase) .invalidState link := by
  -- In flight a session neither rests nor has ended.
  have hrefused : link.session.phase ≠ .idle ∧ link.session.phase.terminal = false := by
    rcases (Phase.receiving_iff _).mp h with hp | hp <;> simp [hp, Phase.terminal]
  unfold start look room lookLoader
  simp only [bind_apply, look_apply, Outcome.after_nil, pure_apply, bind_assoc]
  rw [if_pos hrefused]

/-- While data may arrive there is nothing to apply. -/
theorem apply_of_receiving (h : link.session.phase.receiving = true) :
    apply link = refuse (.nothingToApply link.session.phase) .invalidState link := by
  have hrefused : link.session.phase ≠ .complete := by
    rcases (Phase.receiving_iff _).mp h with hp | hp <;> simp [hp]
  unfold apply look
  rw [bind_apply, look_apply]
  dsimp only
  rw [if_pos hrefused, Outcome.after_nil]

end Link

end DualSlot
