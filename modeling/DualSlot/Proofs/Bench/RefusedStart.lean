import DualSlot.Proofs.Bench.Rejection

/-!
# Starts that are refused

A start is refused if the session is in flight, if a size makes no sense, or if the update slot is locked.
The first two are found out before anything is done. The lock is tried last: by then the session has left
its phase, told so to the application, and forgotten its last transfer.

`Bench.refused_start_unmoved_iff` says just when a start that is refused changes something of its session,
or is heard of: when it runs into a lock, unless the session rested with that same transfer declared. The
board never changes. So of two sessions on a board, one that has brought its image to an end loses all it
knew of it by a start that comes too late (`Bench.forgotten_in_late_start`).
-/

namespace DualSlot

namespace Session

variable {s : Session}

/-- The session but for the time without data. -/
def untimed (s : Session) : Session := { s with idle := 0 }

/-- A session that rests knows of nothing but perhaps a transfer that was declared and never begun. -/
def Blank (s : Session) : Prop :=
  s.phase = .idle → s.lastError = none ∧ s.header = none ∧ s.progress = 0
    ∧ s.restartRequired = false ∧ s.abortRequested = false

theorem blank_of_ne_idle (h : s.phase ≠ .idle) : s.Blank := fun hidle => absurd hidle h

theorem blank_fresh (config : SessionConfig) (accepts : Header → Bool) :
    (fresh config accepts).Blank :=
  fun _ => ⟨rfl, rfl, rfl, rfl, rfl⟩

/-- Declaring a transfer changes nothing just if the session rests with that transfer declared. -/
theorem Blank.untimed_eq_declared_iff (h : s.Blank) (total chunk : UInt32) :
    s.untimed = s.declared total chunk ↔ s.phase = .idle ∧ s.transfer = .declare total chunk := by
  constructor
  · intro heq
    exact ⟨congrArg Session.phase heq, congrArg Session.transfer heq⟩
  · rintro ⟨hidle, htransfer⟩
    obtain ⟨herror, hheader, hprogress, hrestart, haborted⟩ := h hidle
    unfold untimed declared
    rw [hidle, htransfer, herror, hheader, hprogress, hrestart, haborted]

end Session

namespace Link

open DualSlot.Action

variable {g : Geometry} {α : Type} {link : Link g} {total chunk : UInt32}

/-! ## Sessions that rest -/

theorem blank_start (total chunk : UInt32) :
    Keeps (fun link : Link g => link.session.Blank) (start total chunk) := by
  refine Keeps.of_outcome (start_outcome total chunk) fun link r outcome h => ?_
  cases outcome with
  | refused e => exact h
  | slotLocked _ _ => exact fun _ => ⟨rfl, rfl, rfl, rfl, rfl⟩
  | notErased _ _ => exact Session.blank_of_ne_idle fun h => nomatch h
  | started _ _ => exact Session.blank_of_ne_idle fun h => nomatch h

theorem blank_receive (number : UInt32) (data : List UInt8) :
    Keeps (fun link : Link g => link.session.Blank) (receive number data) := by
  refine Keeps.of_outcome (receive_outcome number data) fun link r outcome h => ?_
  cases outcome with
  | refused e _ => exact h
  | notWritten _ _ _ _ => exact Session.blank_of_ne_idle fun h => nomatch h
  | accepted _ _ _ => exact Session.blank_of_ne_idle fun h => nomatch h

theorem blank_validate : Keeps (fun link : Link g => link.session.Blank) validate := by
  refine Keeps.of_outcome validate_outcome fun link r outcome h => ?_
  cases outcome with
  | refused e _ => exact h
  | failed _ _ _ _ => exact Session.blank_of_ne_idle fun h => nomatch h
  | completed _ _ _ _ => exact Session.blank_of_ne_idle fun h => nomatch h

theorem blank_finalize : Keeps (fun link : Link g => link.session.Blank) finalize := by
  refine Keeps.of_outcome finalize_outcome fun link r outcome h => ?_
  cases outcome with
  | refused e => exact h
  | checked _ _ outcome =>
    cases outcome with
    | refused _ _ => exact Session.blank_of_ne_idle fun h => nomatch h
    | failed _ _ _ _ => exact Session.blank_of_ne_idle fun h => nomatch h
    | completed _ _ _ _ => exact Session.blank_of_ne_idle fun h => nomatch h

theorem blank_abort : Keeps (fun link : Link g => link.session.Blank) abort := by
  refine Keeps.of_outcome abort_outcome fun link r outcome h => ?_
  cases outcome with
  | refused e _ => exact h
  | ended _ => exact Session.blank_of_ne_idle fun h => nomatch h

theorem blank_apply : Keeps (fun link : Link g => link.session.Blank) apply := by
  refine Keeps.of_outcome apply_outcome fun link r outcome h => ?_
  cases outcome with
  | refused e _ => exact h
  | turnedDown _ _ _ _ => exact Session.blank_of_ne_idle fun h => nomatch h
  | takenOver _ _ _ => exact Session.blank_of_ne_idle fun h => nomatch h

theorem blank_poll (elapsed : UInt32) :
    Keeps (fun link : Link g => link.session.Blank) (poll elapsed) := by
  intro link h
  obtain ⟨answer, idle, heq⟩ := poll_outcome elapsed link
  rw [heq]
  exact h

theorem survives_blank : Survives (fun link : Link g => link.session.Blank) where
  start := blank_start
  receive := blank_receive
  finalize := blank_finalize
  validate := blank_validate
  abort := blank_abort
  apply := blank_apply
  poll := blank_poll

theorem blank_sessionCall (call : SessionCall) :
    Keeps (fun link : Link g => link.session.Blank) (call.run : SessionAction g Answer) :=
  survives_blank.sessionCall call

/-! ## Starts that run into a lock -/

/-- The call changes nothing but perhaps the time without data, and the application is not told. -/
structure Unmoved (x : SessionAction g α) (link : Link g) : Prop where
  session_eq : (effect x link).2.session.untimed = link.session.untimed
  board_eq : (effect x link).2.board = link.board
  untold : ∀ notice locked, .notice notice locked ∉ (x link).events

theorem unmoved_of_leavesAlone {x : SessionAction g α} (h : LeavesAlone x link) : Unmoved x link where
  session_eq := by
    have hstate : (effect x link).2 = link := h.state_eq
    rw [hstate]
  board_eq := congrArg Link.board h.state_eq
  untold := h.untold

/-- The lock keeps a transfer from being begun that nothing else does, and the session has something to
forget: it does not rest with that transfer declared already. -/
structure Forgets (total chunk : UInt32) (link : Link g) : Prop where
  may : MayStart total chunk link
  locked : link.board.loader.updateLocked = true
  differs : ¬ (link.session.phase = .idle ∧ link.session.transfer = .declare total chunk)

theorem not_mem_of_told_eq_nil {x : SessionAction g α} (h : told x link = []) (notice : Notice)
    (locked : Bool) : .notice notice locked ∉ (x link).events := by
  intro hmem
  have htold : SessionEvent.notice notice locked ∈ told x link := List.mem_filter.mpr ⟨hmem, rfl⟩
  rw [h] at htold
  cases htold

/-- How a start that runs into a lock ends. -/
theorem start_of_locked (may : MayStart total chunk link)
    (locked : link.board.loader.updateLocked = true) :
    effect (start total chunk) link
        = (.error .invalidState, ⟨link.session.declared total chunk, link.board⟩)
      ∧ told (start total chunk) link = forgotten link := by
  have hreport := begin_report total chunk link
  rw [effect_start_of_may may, told_start_of_may may]
  generalize effect (begin total chunk) _ = r at hreport ⊢
  generalize told (begin total chunk) _ = notices at hreport ⊢
  cases hreport with
  | slotLocked _ => exact ⟨rfl, List.append_nil _⟩
  | notErased free => cases locked.symm.trans free
  | started free => cases locked.symm.trans free

/-- A start that is refused for the lock moves the session just if there is something to forget. -/
theorem unmoved_iff_of_locked (hblank : link.session.Blank) (may : MayStart total chunk link)
    (locked : link.board.loader.updateLocked = true) :
    Unmoved (start total chunk) link ↔ ¬ Forgets total chunk link := by
  obtain ⟨heffect, htold⟩ := start_of_locked may locked
  have hiff := hblank.untimed_eq_declared_iff total chunk
  constructor
  · intro h hforgets
    have hsession := h.session_eq
    rw [heffect] at hsession
    exact hforgets.differs (hiff.mp hsession.symm)
  · intro h
    -- Otherwise it rests with that transfer declared, and declaring it once more changes nothing.
    have hrests : link.session.phase = .idle ∧ link.session.transfer = .declare total chunk :=
      Decidable.not_not.mp fun hdiffers => h ⟨may, locked, hdiffers⟩
    refine ⟨?_, ?_, not_mem_of_told_eq_nil ?_⟩
    · rw [heffect]
      exact (hiff.mpr hrests).symm
    · rw [heffect]
    · rw [htold, forgotten, if_pos hrests.1]

/-- The errors of a refusal come from a start that may not be made, or from the lock. -/
theorem start_refused {e : UpdateError} (h : (effect (start total chunk) link).1 = .error e)
    (he : e = .invalidState ∨ e = .invalidSize) :
    ¬ MayStart total chunk link ∧ LeavesAlone (start total chunk) link
      ∨ MayStart total chunk link ∧ link.board.loader.updateLocked = true := by
  rcases start_cases total chunk link with ⟨mayNot, hrefuses⟩ | ⟨may, _⟩
  · exact .inl ⟨mayNot, leavesAlone_of_refuses hrefuses⟩
  · have hreport := begin_report total chunk link
    rw [effect_start_of_may may] at h
    generalize effect (begin total chunk) _ = r at hreport h
    generalize told (begin total chunk) _ = notices at hreport
    cases hreport with
    | slotLocked locked => exact .inr ⟨may, locked⟩
    | notErased _ =>
      -- A flash that cannot be erased ends the session, and is another error.
      cases h
      rcases he with he | he <;> cases he
    | started _ => cases h

end Link

namespace Bench

open DualSlot.Action

variable {g : Geometry}

/-- Whatever was called before, by any number of sessions and beside them: a start that is refused leaves
its session and the board as they were, and is not heard of, just if it does not run into a lock with
something to forget. If it does, the session rests with a transfer declared that was never begun. -/
theorem refused_start_unmoved_iff {board : Board g} {calls : List BenchCall} {name : String}
    {client : Client} {total chunk : UInt32} {e : UpdateError}
    (hclient : ((ofBoard board).steps calls).client? name = some client)
    (hrefused : (effect (Link.start total chunk)
      ⟨client.session, ((ofBoard board).steps calls).board⟩).1 = .error e)
    (he : e = .invalidState ∨ e = .invalidSize) :
    let link : Link g := ⟨client.session, ((ofBoard board).steps calls).board⟩
    (Link.Unmoved (Link.start total chunk) link ↔ ¬ Link.Forgets total chunk link)
      ∧ (Link.Forgets total chunk link →
        effect (Link.start total chunk) link
          = (.error .invalidState, ⟨client.session.declared total chunk, link.board⟩)) := by
  intro link
  -- That a session which rests knows of nothing holds in every run.
  have hblank : client.session.Blank :=
    (sessions_steps Session.blank_fresh (fun _ _ h => h) Link.blank_sessionCall board
      calls).of_client? hclient
  refine ⟨?_, fun hforgets => (Link.start_of_locked hforgets.may hforgets.locked).1⟩
  rcases Link.start_refused hrefused he with ⟨mayNot, halone⟩ | ⟨may, locked⟩
  · exact iff_of_true (Link.unmoved_of_leavesAlone halone) fun hforgets => mayNot hforgets.may
  · exact Link.unmoved_iff_of_locked hblank may locked

/-- A session that receives data refuses to start another transfer, and goes on as before. -/
theorem unmoved_in_flight :
    ∃ client, ((ofBoard Factory.board).steps (sendingAs "first" ⟨1, 1, 0⟩)).client? "first" = some client
      ∧ client.session.phase = .receivingData
      ∧ (effect (Link.start 84 84) ⟨client.session,
          ((ofBoard Factory.board).steps (sendingAs "first" ⟨1, 1, 0⟩)).board⟩).1
        = .error .invalidState
      ∧ Link.Unmoved (Link.start 84 84) ⟨client.session,
          ((ofBoard Factory.board).steps (sendingAs "first" ⟨1, 1, 0⟩)).board⟩ := by
  have hrun : (((ofBoard Factory.board).steps (sendingAs "first" ⟨1, 1, 0⟩)).client? "first").any
      (fun first => decide (first.session.phase = .receivingData
        ∧ (effect (Link.start 84 84) ⟨first.session,
          ((ofBoard Factory.board).steps (sendingAs "first" ⟨1, 1, 0⟩)).board⟩).1
            = .error .invalidState)) = true := by decide +kernel
  obtain ⟨client, hclient, hsession⟩ := (Option.any_eq_true _ _).mp hrun
  obtain ⟨hphase, hrefused⟩ := of_decide_eq_true hsession
  refine ⟨client, hclient, hphase, hrefused, ?_⟩
  refine (refused_start_unmoved_iff hclient hrefused (.inl rfl)).1.mpr fun hforgets => ?_
  -- It is in flight, so it was not the lock that kept it from starting.
  rcases hforgets.may.phase_rests with hidle | hterminal
  · cases hphase.symm.trans hidle
  · rw [show client.session.phase = _ from hphase] at hterminal
    cases hterminal

/-- A session brings its image to an end. Then another one starts a transfer. -/
def lateStart : List BenchCall :=
  sendingAs "first" ⟨1, 1, 0⟩
    ++ [.session "first" .finalize,
      .openSession "second" {} false false,
      .session "second" (.start 84 84)]

/-- The first one starts too late. It is refused, and yet is no longer complete, has lost the header of
its image, and the application was told of it. -/
theorem forgotten_in_late_start :
    ∃ client after, ((ofBoard Factory.board).steps lateStart).client? "first" = some client
      ∧ effect (Link.start 84 84) ⟨client.session, ((ofBoard Factory.board).steps lateStart).board⟩
        = (.error .invalidState, after)
      ∧ client.session.phase = .complete ∧ after.session.phase = .idle
      ∧ client.session.header.isSome = true ∧ after.session.header = none
      ∧ client.session.restartRequired = true ∧ after.session.restartRequired = false
      ∧ SessionEvent.notice (.status .idle none) true ∈ (Link.start 84 84
          ⟨client.session, ((ofBoard Factory.board).steps lateStart).board⟩).events := by
  have hrun : (((ofBoard Factory.board).steps lateStart).client? "first").any
        (fun first => decide (first.session.phase = .complete ∧ first.session.header.isSome = true
          ∧ first.session.restartRequired = true ∧ 84 ≤ first.session.config.maxChunk)) = true
      ∧ ((ofBoard Factory.board).steps lateStart).board.loader.updateLocked = true
      ∧ 84 ≤ Geometry.tiny.capacity
        - ((ofBoard Factory.board).steps lateStart).board.loader.layout.slotB := by
    decide +kernel
  generalize (ofBoard Factory.board).steps lateStart = bench at hrun ⊢
  obtain ⟨hfirst, hlocked, hroom⟩ := hrun
  obtain ⟨client, hclient, hsession⟩ := (Option.any_eq_true _ _).mp hfirst
  obtain ⟨hcomplete, hheader, hrestart, hchunk⟩ := of_decide_eq_true hsession
  let link : Link .tiny := ⟨client.session, bench.board⟩
  have may : Link.MayStart 84 84 link :=
    { phase_rests := .inr (by rw [show link.session.phase = _ from hcomplete]; rfl)
      chunk_ne := by decide
      chunk_le := hchunk
      total_ne := by decide
      total_le := hroom }
  obtain ⟨heffect, htold⟩ := Link.start_of_locked may hlocked
  refine ⟨client, _, hclient, heffect, hcomplete, rfl, hheader, rfl, hrestart, rfl, ?_⟩
  have hmem : SessionEvent.notice (.status .idle none) true ∈ Link.told (Link.start 84 84) link := by
    rw [htold, Link.forgotten, if_neg]
    · rw [show link.board.loader.updateLocked = true from hlocked]
      exact List.mem_cons_self
    · rw [show link.session.phase = _ from hcomplete]
      exact fun h => nomatch h
  exact (List.mem_filter.mp hmem).1

end Bench

end DualSlot
