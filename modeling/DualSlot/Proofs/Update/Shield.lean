import DualSlot.Proofs.Update.Alike

/-!
# A session and the boot loader do not meet

From the start of a transfer until the session ends, the boot loader may be called in between at any time.
The lock of the update slot keeps the two apart, in both directions.

* The boot loader neither checks nor switches to what is being written, and the active slot does not
  become the update slot (`Link.Shielded`, `Link.active_after`).
* The session goes the same way as without these calls, and so do the application's notices and the
  bytes of the flash (`Link.transcript_eq`). This is a statement about two runs, and its invariant is
  that their links are alike.

`Link.shielded_during_session` is the outcome.
-/

namespace DualSlot

/-! ## Whose act it is -/

/-- A check or a decision of the boot loader, or an attempt to take the lock. -/
def BootCall.Asks : BootCall → Prop
  | .lockUpdateSlot => True
  | call => call.Watches

instance : (call : BootCall) → Decidable call.Asks
  | .checkUpdate | .switchToUpdate | .rollback | .jump _ | .boot | .validate _ | .readHeader _
  | .payloadCrc .. | .lockUpdateSlot => .isTrue trivial
  | .eraseUpdateSlot _ | .programUpdateSlot .. | .unlockUpdateSlot | .restart _ => .isFalse id

namespace Act

/-- The act is a call on the session, or closes it. -/
def own : Act → Bool
  | .turn (.flash _) | .turn (.boot _) => false
  | _ => true

/-- What may happen while the boot loader is asked in between: the calls of the session, the checks and
decisions of the boot loader, and attempts to take the lock. -/
def Attends : Act → Prop
  | .turn (.flash _) => False
  | .turn (.boot call) => call.Asks
  | _ => True

instance : (act : Act) → Decidable act.Attends
  | .turn (.flash _) => .isFalse id
  | .turn (.boot call) => inferInstanceAs (Decidable call.Asks)
  | .turn (.start ..) | .turn (.receive ..) | .turn .finalize | .turn .validate | .turn .abort
  | .turn .apply | .turn (.poll _) | .turn (.judge _) | .reopen .. => .isTrue trivial

/-- Whatever attends is orderly: neither the flash nor the update slot is written. -/
theorem Attends.orderly {act : Act} (h : act.Attends) : act.Orderly := by
  cases act with
  | reopen config accepts inUse => trivial
  | turn turn =>
    cases turn with
    | flash call => exact h.elim
    | boot call => cases call <;> trivial
    | _ => trivial

end Act

/-! ## Decisions under the lock -/

namespace Board

open DualSlot.Action

variable {g : Geometry} {α : Type} {board : Board g}

/-- The call is turned away because an update is in progress, and changes neither bytes nor context. -/
def TurnsAway (board : Board g) (x : BoardAction g α) : Prop :=
  ∃ board', effect x board = (.error .updateInProgress, board')
    ∧ board.Noted board.loader.context board'

/-- Under the lock no update is looked for. -/
theorem turnsAway_checkUpdate (h : board.loader.updateLocked = true) : board.TurnsAway checkUpdate := by
  refine ⟨⟨board.flash, { board.loader with lastError := some .updateInProgress }⟩, ?_, rfl, rfl, rfl,
    rfl⟩
  unfold checkUpdate
  rw [effect_bind, effect_look, resume_ok, if_pos h, effect_bind, effect_report, resume_ok,
    effect_refuse]

/-- Under the lock no update is switched to, pending or not. -/
theorem turnsAway_switchToUpdate (h : board.loader.updateLocked = true) :
    board.TurnsAway switchToUpdate := by
  refine ⟨⟨board.flash, { board.loader with lastError := some .updateInProgress }⟩, ?_, rfl, rfl, rfl,
    rfl⟩
  unfold switchToUpdate
  rw [effect_bind, effect_look, resume_ok, if_pos h, effect_refuse]

/-- A lock that is held is not taken twice. -/
theorem turnsAway_lockUpdateSlot (h : board.loader.updateLocked = true) :
    board.TurnsAway lockUpdateSlot :=
  ⟨board, effect_lockUpdateSlot_of_locked h, .refl board⟩

end Board

namespace Link

open DualSlot.Action

variable {g : Geometry} {link link' : Link g} {act : Act} {acts : List Act} {limit : Nat}

/-! ## Sessions in flight -/

/-- Data may arrive before each of the acts. The last one may end the session. -/
def InSession : Link g → List Act → Prop
  | _, [] => True
  | link, act :: rest => link.session.phase.receiving = true ∧ (link.after act).InSession rest

instance decidableInSession : (link : Link g) → (acts : List Act) → Decidable (link.InSession acts)
  | _, [] => .isTrue trivial
  | link, act :: rest =>
    have := decidableInSession (link.after act) rest
    inferInstanceAs (Decidable (_ ∧ _))

/-- What comes later in a session in flight is in flight too. -/
theorem InSession.append {acts' : List Act} (h : link.InSession (acts ++ acts')) :
    (link.steps acts).InSession acts' := by
  induction acts generalizing link with
  | nil => exact h
  | cons act rest ih => exact ih h.2

/-- What the calls of the session answer and report, notices to the application included. -/
def transcript : Link g → List Act → List (Except UpdateError Unit × List SessionEvent)
  | _, [] => []
  | link, act :: rest =>
    if act.own then
      ((act.run link).result, (act.run link).events) :: (link.after act).transcript rest
    else (link.after act).transcript rest

/-- The lock is held and no update is pending. The boot loader turns away whoever wants to check, to
switch, or to take the lock. -/
structure Shielded (link : Link g) : Prop where
  locked : link.board.loader.updateLocked = true
  not_pending : link.board.loader.context.updatePending = false
  check_turnedAway : link.board.TurnsAway Board.checkUpdate
  switch_turnedAway : link.board.TurnsAway Board.switchToUpdate
  lock_turnedAway : link.board.TurnsAway Board.lockUpdateSlot

/-- A session that receives has its update slot shielded. -/
theorem Reserved.shielded (h : link.Reserved) (hreceiving : link.session.phase.receiving = true) :
    link.Shielded := by
  obtain ⟨hlocked, hpending⟩ := h hreceiving
  exact
    { locked := hlocked
      not_pending := hpending
      check_turnedAway := Board.turnsAway_checkUpdate hlocked
      switch_turnedAway := Board.turnsAway_switchToUpdate hlocked
      lock_turnedAway := Board.turnsAway_lockUpdateSlot hlocked }

/-! ## The calls of the session -/

/-- What a call of a session that receives does, is done by a call that respects likeness. -/
theorem exists_respects (hown : act.own = true) (hreceiving : link.session.phase.receiving = true) :
    ∃ x : SessionAction g Unit, Respects (Alike limit) (PastReads limit) x
      ∧ ∀ other : Link g, other.session = link.session → act.run other = x other := by
  -- A start and an apply would look at the context of the boot loader, in which the two runs may
  -- differ. But a session that receives refuses both beforehand.
  cases act with
  | reopen config accepts inUse =>
    exact ⟨_, (respects_close inUse).bind fun _ => respects_change_session _, fun _ _ => rfl⟩
  | turn turn =>
    cases turn with
    | start total chunk =>
      refine ⟨_, respects_refuse (.cannotStart link.session.phase) .invalidState, fun other h => ?_⟩
      rw [← h] at hreceiving ⊢
      exact start_of_receiving hreceiving total chunk
    | receive number data => exact ⟨_, respects_receive number data, fun _ _ => rfl⟩
    | finalize => exact ⟨_, respects_finalize, fun _ _ => rfl⟩
    | validate => exact ⟨_, respects_validate, fun _ _ => rfl⟩
    | abort => exact ⟨_, respects_abort, fun _ _ => rfl⟩
    | apply =>
      refine ⟨_, respects_refuse (.nothingToApply link.session.phase) .invalidState, fun other h => ?_⟩
      rw [← h] at hreceiving ⊢
      exact apply_of_receiving hreceiving
    | poll elapsed => exact ⟨_, respects_poll elapsed, fun _ _ => rfl⟩
    | judge accepts =>
      exact ⟨_, respects_change_session fun s => { s with accepts }, fun _ _ => rfl⟩
    | flash call => cases hown
    | boot call => cases hown

/-- Entering a phase touches the lock and nothing that a boot looks at. -/
theorem context_boardAfter (board : Board g) (phase next : Phase) :
    (boardAfter board phase next).loader.context = board.loader.context := by
  unfold boardAfter
  split <;> rfl

/-- A check reads the image and leaves the decision to the boot loader. -/
theorem context_of_validate {r : Except UpdateError Unit × Link g} (houtcome : ValidateOutcome link r) :
    r.2.board.loader.context = link.board.loader.context := by
  cases houtcome with
  | refused e _ => rfl
  | failed e header board same =>
    have hcontext : board.loader.context = _ := congrArg Loader.context same.loader_eq
    exact hcontext
  | completed header board same _ =>
    have hcontext : board.loader.context = _ := congrArg Loader.context same.loader_eq
    exact hcontext

/-- A session that receives leaves the context of the boot loader alone. -/
theorem context_after_own (hown : act.own = true)
    (hreceiving : link.session.phase.receiving = true) :
    (link.after act).board.loader.context = link.board.loader.context := by
  -- One case per call of the session; the outcomes say what is left of the board.
  cases act with
  | reopen config accepts inUse =>
    rw [after_reopen]
    exact context_boardAfter _ _ _
  | turn turn =>
    cases turn with
    | start total chunk =>
      show (start total chunk link).state.board.loader.context = _
      rw [start_of_receiving hreceiving]
      rfl
    | receive number data =>
      have houtcome := receive_outcome number data link
      have hloader := Board.loader_programUpdateSlot link.session.transfer.receivedBytes.toNat data
        link.board
      show (effect (receive number data) link).2.board.loader.context = _
      generalize effect (receive number data) link = r at houtcome ⊢
      cases houtcome with
      | refused e _ => rfl
      | notWritten _ cause board written =>
        rw [written] at hloader
        have hcontext : board.loader.context = _ := congrArg Loader.context hloader
        exact hcontext
      | accepted _ board written =>
        rw [written] at hloader
        have hcontext : board.loader.context = _ := congrArg Loader.context hloader
        exact hcontext
    | finalize =>
      have houtcome := finalize_outcome link
      show (effect finalize link).2.board.loader.context = _
      generalize effect finalize link = r at houtcome ⊢
      cases houtcome with
      | refused e => rfl
      | checked _ _ outcome =>
        have hchecked := context_of_validate outcome
        exact hchecked
    | validate => exact context_of_validate (validate_outcome link)
    | abort =>
      have houtcome := abort_outcome link
      show (effect abort link).2.board.loader.context = _
      generalize effect abort link = r at houtcome ⊢
      cases houtcome with
      | refused e _ => rfl
      | ended _ => exact context_boardAfter _ _ _
    -- A session that receives has nothing to apply.
    | apply =>
      show (apply link).state.board.loader.context = _
      rw [apply_of_receiving hreceiving]
      rfl
    | poll elapsed =>
      obtain ⟨answer, idle, heq⟩ := poll_outcome elapsed link
      show (effect (poll elapsed) link).2.board.loader.context = _
      rw [heq]
    | judge accepts => rfl
    | flash call => cases hown
    | boot call => cases hown

/-! ## The calls of the boot loader -/

/-- Under the lock every call of the boot loader comes down to an inspection. -/
theorem exists_inspects (hattends : act.Attends) (hother : act.own = false)
    (hlocked : link.board.loader.updateLocked = true) :
    ∃ x : BoardAction g Answer, Board.Inspects Board.Notes x
      ∧ link.after act = ⟨link.session, (effect x link.board).2⟩ := by
  cases act with
  | reopen config accepts inUse => cases hother
  | turn turn =>
    cases turn with
    | boot call =>
      by_cases hwatches : call.Watches
      · exact ⟨_, hwatches.inspects, rfl⟩
      · -- The only other call is an attempt to take the lock.
        obtain rfl : call = .lockUpdateSlot := by
          cases call <;> first | rfl | exact absurd trivial hwatches | exact hattends.elim
        refine ⟨_, .fail .updateInProgress, ?_⟩
        rw [after_turn_boot, BootCall.run, effect_answering,
          Board.effect_lockUpdateSlot_of_locked hlocked]
        rfl
    | flash call => exact hattends.elim
    | _ => cases hother

/-- What the boot loader does under the lock cannot be told from nothing by the session. -/
theorem Alike.watched (h : link.Alike limit link') (hattends : act.Attends)
    (hother : act.own = false) (hlocked : link.board.loader.updateLocked = true) :
    (link.after act).Alike limit link' := by
  obtain ⟨x, hx, heq⟩ := exists_inspects hattends hother hlocked
  rw [heq]
  exact ⟨h.session_eq, h.board_alike.inspected hx⟩

/-- While the session receives, the update slot is locked, and the active slot is the given one or slot
A. -/
def Steady (slot : Slot) (link : Link g) : Prop :=
  link.session.phase.receiving = true → link.board.loader.updateLocked = true
    ∧ (link.board.loader.context.active = slot ∨ link.board.loader.context.active = .a)

/-- The invariant under all moves: while the lock is held the active slot moves to slot A at most. -/
theorem Steady.move {slot : Slot} {fallsBack : Slot → Prop} (h : link.Steady slot)
    (hmove : Move fallsBack link link') : link'.Steady slot := by
  intro hreceiving
  cases hmove with
  | session hsession => exact h (hsession hreceiving)
  | board hmove =>
    obtain ⟨hlocked, hactive⟩ := h hreceiving
    obtain ⟨hlocked', _, heq | ha⟩ := hmove.of_locked hlocked
    · -- Neither the active slot nor the lock has moved.
      rw [← heq] at hactive
      exact ⟨hlocked', hactive⟩
    · exact ⟨hlocked', .inr ha⟩
  | stored _ loader_eq _ =>
    rw [loader_eq]
    exact h hreceiving
  | locked => exact ⟨rfl, (h hreceiving).2⟩
  -- The lock is given back only where no data may arrive, which is not the case.
  | unlocked rests =>
    rw [show link.session.phase.receiving = true from hreceiving] at rests
    cases rests

/-- While the session receives, the active slot stays what it is or becomes slot A. -/
theorem active_after (hattends : act.Attends) (hreserved : link.Reserved)
    (hreceiving : link.session.phase.receiving = true) :
    (link.after act).board.loader.context.active = link.board.loader.context.active
      ∨ (link.after act).board.loader.context.active = .a := by
  -- The session's own calls do not touch the context, and the others are moves under the lock.
  cases hown : act.own with
  | true => exact .inl (congrArg (·.active) (context_after_own hown hreceiving))
  | false =>
    cases act with
    | reopen config accepts inUse => cases hown
    | turn turn =>
      cases turn with
      | boot call =>
        have hsteady : link.Steady link.board.loader.context.active :=
          fun _ => ⟨(hreserved hreceiving).1, .inl rfl⟩
        exact ((moves_boot hattends.orderly link).keeps Steady.move hsteady hreceiving).2
      | flash call => exact hattends.elim
      | _ => cases hown

/-! ## Two runs -/

/-- A run that is past its reads stays so. This is why it is enough to look at the end. -/
theorem pastReads_after (hattends : act.Attends) (hreserved : link.Reserved)
    (hreceiving : link.session.phase.receiving = true) (hpast : link.PastReads limit) :
    (link.after act).PastReads limit := by
  cases hown : act.own with
  | true =>
    obtain ⟨x, hx, heq⟩ := exists_respects hown hreceiving
    show (act.run link).state.PastReads limit
    rw [heq link rfl]
    exact hx.lost_stays link hpast
  | false =>
    obtain ⟨x, hx, heq⟩ := exists_inspects hattends hown (hreserved hreceiving).1
    rw [heq]
    exact Board.pastReads_of_inspects hx link.board hpast

/-- The same over a whole run of a session in flight. -/
theorem pastReads_steps (hattends : ∀ act ∈ acts, act.Attends) (hreserved : link.Reserved)
    (hsession : link.InSession acts) (hpast : link.PastReads limit) :
    (link.steps acts).PastReads limit := by
  induction acts generalizing link with
  | nil => exact hpast
  | cons act rest ih =>
    obtain ⟨hreceiving, hrest⟩ := hsession
    have hact := hattends act List.mem_cons_self
    refine ih (fun act hmem => hattends act (List.mem_cons_of_mem _ hmem)) ?_ hrest ?_
    · exact reserved_after hact.orderly hreserved
    · exact pastReads_after hact hreserved hreceiving hpast

/-- Side by side: the session with the calls of the boot loader in between, and without them. -/
theorem transcript_eq (hattends : ∀ act ∈ acts, act.Attends) (hreserved : link.Reserved)
    (hsession : link.InSession acts) (halike : link.Alike limit link')
    (hon : ¬ (link.steps acts).PastReads limit) :
    link'.transcript (acts.filter Act.own) = link.transcript acts
      ∧ (link.steps acts).Alike limit (link'.steps (acts.filter Act.own)) := by
  -- The induction is on the run with the calls in between; the other one runs along as they stay
  -- alike.
  induction acts generalizing link link' with
  | nil => exact ⟨rfl, halike⟩
  | cons act rest ih =>
    obtain ⟨hreceiving, hrest⟩ := hsession
    have hact := hattends act List.mem_cons_self
    have hattends' : ∀ act ∈ rest, act.Attends := fun act hmem =>
      hattends act (List.mem_cons_of_mem _ hmem)
    have hreserved' := reserved_after hact.orderly hreserved
    cases hown : act.own with
    | true =>
      -- Both runs make this call, and it does the same in both.
      have hlater : (link.after act).PastReads limit → ((link.after act).steps rest).PastReads limit :=
        pastReads_steps hattends' hreserved' hrest
      obtain ⟨x, hx, heq⟩ := exists_respects hown hreceiving
      have hsame := hx.same link link' halike
      rw [← heq link rfl, ← heq link' halike.session_eq] at hsame
      obtain ⟨hresult, hevents, hafter⟩ := hsame fun hpast => hon (hlater hpast)
      obtain ⟨htranscript, hend⟩ := ih hattends' hreserved' hrest hafter hon
      rw [List.filter_cons_of_pos hown]
      refine ⟨?_, hend⟩
      unfold transcript
      rw [if_pos hown, if_pos hown, hresult, hevents]
      exact congrArg (List.cons _) htranscript
    | false =>
      -- Only the first run makes this call, and it comes out where it was.
      have hneg : ¬ act.own = true := by
        rw [hown]
        exact Bool.false_ne_true
      obtain ⟨htranscript, hend⟩ := ih hattends' hreserved' hrest
        (halike.watched hact hown (hreserved hreceiving).1) hon
      rw [List.filter_cons_of_neg hneg]
      refine ⟨?_, hend⟩
      rw [htranscript, transcript, if_neg hneg]

/-! ## The outcome -/

/-- A start that answers leaves the update slot reserved. -/
theorem reserved_of_start {before : Link g} {total chunk : UInt32}
    (hstart : effect (start total chunk) before = (.ok (), link)) : link.Reserved := by
  have houtcome := start_outcome total chunk before
  rw [hstart] at houtcome
  cases houtcome with
  | started _ _ => exact fun _ => ⟨rfl, rfl⟩

/-- Take any session from its start until it ends, and let the boot loader check, decide and lock in
between in whatever way. As long as data may arrive the boot loader turns away whoever wants to check, to
switch or to lock. None of the acts makes the update slot the active one. And if no read is made to fail,
the calls of the session answer, report and notify just as without these calls, and leave the same session
and the same bytes. -/
theorem shielded_during_session {before : Link g} {total chunk : UInt32}
    (hstart : effect (start total chunk) before = (.ok (), link))
    (hattends : ∀ act ∈ acts, act.Attends) (hsession : link.InSession acts) :
    (∀ done rest, acts = done ++ rest → (link.steps done).session.phase.receiving = true →
        (link.steps done).Shielded)
      ∧ (∀ done act rest, acts = done ++ act :: rest →
          (link.steps (done ++ [act])).board.loader.context.active
              = (link.steps done).board.loader.context.active
            ∨ (link.steps (done ++ [act])).board.loader.context.active = .a)
      ∧ (link.board.flash.ReadsWentThrough (link.steps acts).board.flash →
          link.transcript acts = link.transcript (acts.filter Act.own)
            ∧ (link.steps acts).session = (link.steps (acts.filter Act.own)).session
            ∧ (link.steps acts).board.flash.bytes
                = (link.steps (acts.filter Act.own)).board.flash.bytes) := by
  have hreserved := reserved_of_start hstart
  have hreserved_steps : ∀ done rest, acts = done ++ rest → (link.steps done).Reserved := by
    rintro done rest rfl
    exact reserved_steps (fun act hact => (hattends act (List.mem_append_left _ hact)).orderly) hreserved
  -- Three parts: what a prefix leaves, what one more act does to the active slot, and the two
  -- runs.
  refine ⟨fun done rest heq hreceiving => ?_, ?_, fun hreads => ?_⟩
  · exact (hreserved_steps done rest heq).shielded hreceiving
  · rintro done act rest heq
    have hact : act.Attends := by
      apply hattends
      rw [heq]
      exact List.mem_append_right _ List.mem_cons_self
    have hreceiving : (link.steps done).session.phase.receiving = true := by
      rw [heq] at hsession
      exact hsession.append.1
    rw [steps_append]
    exact active_after hact (hreserved_steps done _ heq) hreceiving
  · -- The run is compared with itself, from a board that is alike to itself up to the reads that
    -- fail.
    obtain ⟨limit, halike, hon⟩ := Flash.alike_self_of_reads hreads
    obtain ⟨htranscript, hend⟩ := transcript_eq hattends hreserved hsession
      ⟨rfl, ⟨halike, rfl, rfl⟩⟩ hon
    exact ⟨htranscript.symm, hend.session_eq.symm,
      congrArg Vector.toList hend.board_alike.flash_alike.cells_eq.symm⟩

/-- The device from the factory, on which a transfer was started. -/
def startedFactory : Link .tiny :=
  (opened {} (fun _ => true) Factory.board).after (.turn (.start 84 84))

/-- While a newer image is received, the boot loader is asked for everything that it can do. -/
def interrupted : List Act :=
  [.turn (.boot .boot), .turn (.boot .lockUpdateSlot), .turn (.receive 0 (Factory.image ⟨1, 1, 0⟩)),
    .turn (.boot .checkUpdate), .turn (.boot .switchToUpdate), .turn (.boot .rollback), .turn .finalize]

/-- The session completes as if it had been left alone. -/
theorem shielded_interrupted :
    effect (start 84 84) (opened {} (fun _ => true) Factory.board) = (.ok (), startedFactory)
      ∧ (∀ act ∈ interrupted, act.Attends) ∧ startedFactory.InSession interrupted
      ∧ (startedFactory.steps interrupted).session.phase = .complete
      ∧ startedFactory.transcript interrupted
        = startedFactory.transcript (Factory.transfer ⟨1, 1, 0⟩).tail := by
  have hstart : effect (start 84 84) (opened {} (fun _ => true) Factory.board)
      = (.ok (), startedFactory) := rfl
  have hattends : ∀ act ∈ interrupted, act.Attends := by decide
  -- The session is in flight through all of the run, and completes. The rest is the theorem.
  have hrun : startedFactory.InSession interrupted
      ∧ (startedFactory.steps interrupted).session.phase = .complete := by decide +kernel
  have hmuted : startedFactory.board.flash.readPlan = none := rfl
  obtain ⟨_, _, hsame⟩ := shielded_during_session hstart hattends hrun.1
  obtain ⟨htranscript, _⟩ := hsame fun plan _ hplan => by cases hmuted.symm.trans hplan
  exact ⟨hstart, hattends, hrun.1, hrun.2, htranscript⟩

end Link

end DualSlot
