import DualSlot.Proofs.Update.Consistency
import DualSlot.Proofs.Update.Notices

/-!
# Rejected calls

Some answers of a session say that the call was out of place: a chunk that is not the next one, or of
the wrong length, a transfer that is not complete, a session that has ended. Such a call is rejected.

The same errors stand for other things as well. `invalidState` is also what becomes of a session whose
image the boot loader turns down, and a check may fail for a size; these end the session. So which
errors reject a call depends on the call, and for `apply` on the phase (`SessionCall.Rejection`).

`Link.leavesAlone_of_rejectsCall` is the outcome: a rejected call changes nothing, not even a counter,
and the application does not hear of it.
-/

namespace DualSlot

/-- The errors by which a call is rejected, rather than the session ended. A start is not among these
calls: by the time it runs into the lock of another session it has forgotten the last transfer. -/
def SessionCall.Rejection : SessionCall → Phase → UpdateError → Prop
  | .receive .., _, e => e = .invalidState ∨ e = .communication ∨ e = .invalidSize
  | .finalize, _, e => e = .invalidState ∨ e = .invalidSize
  | .abort, _, _ | .validate, _, _ => True
  | .apply, phase, _ => phase ≠ .complete
  | .start .., _, _ | .transmit .., _, _ | .poll _, _, _ => False

instance : (call : SessionCall) → (phase : Phase) → (e : UpdateError) →
    Decidable (call.Rejection phase e)
  | .receive .., _, e =>
    inferInstanceAs (Decidable (e = .invalidState ∨ e = .communication ∨ e = .invalidSize))
  | .finalize, _, e => inferInstanceAs (Decidable (e = .invalidState ∨ e = .invalidSize))
  | .apply, phase, _ => inferInstanceAs (Decidable (phase ≠ .complete))
  | .abort, _, _ | .validate, _, _ => .isTrue trivial
  | .start .., _, _ | .transmit .., _, _ | .poll _, _, _ => .isFalse id

namespace Link

open DualSlot.Action

variable {g : Geometry} {α β : Type} {link : Link g}

/-- The session rejects the call. -/
def RejectsCall (link : Link g) (call : SessionCall) : Prop :=
  ∃ e, (effect (call.run : SessionAction g Answer) link).1 = .error e
    ∧ call.Rejection link.session.phase e

instance (link : Link g) (call : SessionCall) : Decidable (link.RejectsCall call) :=
  match h : (effect (call.run : SessionAction g Answer) link).1 with
  | .ok _ => .isFalse fun ⟨_, he, _⟩ => nomatch h.symm.trans he
  | .error e =>
    if hrejection : call.Rejection link.session.phase e then .isTrue ⟨e, h, hrejection⟩
    else .isFalse fun ⟨_, he, hrejection'⟩ =>
      hrejection (Except.error.inj (h.symm.trans he) ▸ hrejection')

/-! ## Calls that leave no trace -/

/-- The call changes nothing, neither in the session nor on the board, and the application is not
told. -/
structure LeavesAlone (x : SessionAction g α) (link : Link g) : Prop where
  state_eq : (x link).state = link
  untold : ∀ notice locked, .notice notice locked ∉ (x link).events

theorem LeavesAlone.congr {x y : SessionAction g α} (h : x link = y link) (hy : LeavesAlone y link) :
    LeavesAlone x link where
  state_eq := by
    rw [h]
    exact hy.state_eq
  untold := by
    rw [h]
    exact hy.untold

theorem LeavesAlone.answering {x : SessionAction g α} (h : LeavesAlone x link) (b : β) :
    LeavesAlone (x.answering b) link := by
  obtain ⟨hstate, huntold⟩ := h
  have hboth : (x.answering b link).state = (x link).state
      ∧ (x.answering b link).events = (x link).events := by
    unfold Action.answering Action.bind
    rcases x link with ⟨_ | _, after, events⟩
    · exact ⟨rfl, rfl⟩
    · exact ⟨rfl, List.append_nil _⟩
  exact ⟨hboth.1.trans hstate, fun notice locked => hboth.2 ▸ huntold notice locked⟩

/-- A call that is refused at once leaves a word for the log and nothing else. -/
theorem leavesAlone_of_refuses {x : SessionAction g α} (h : Refuses x link) : LeavesAlone x link := by
  obtain ⟨message, e, _, heq⟩ := h
  refine LeavesAlone.congr heq ⟨rfl, fun notice locked hmem => ?_⟩
  cases List.mem_singleton.mp hmem

theorem leavesAlone_validate_of_settled (h : link.session.phase.settled = true) :
    LeavesAlone validate link := by
  have hphase : link.session.phase ≠ .validating := by
    intro hphase
    rw [hphase] at h
    cases h
  have heq : validate link = (Action.fail .invalidState : SessionAction g Unit) link := by
    unfold validate
    rw [look_bind, if_pos hphase]
  exact LeavesAlone.congr heq ⟨rfl, fun _ _ hmem => nomatch hmem⟩

/-! ## Rejected calls -/

/-- A chunk that the session expects is accepted, or cannot be written. -/
theorem receive_fails_of_expected {number : UInt32} {data : List UInt8} {e : UpdateError}
    (expected : link.session.Expects number data)
    (h : (effect (receive number data) link).1 = .error e) : e = .flashError := by
  have houtcome := receive_outcome number data link
  generalize effect (receive number data) link = r at houtcome h
  cases houtcome with
  | refused e unexpected => exact absurd expected unexpected
  | notWritten _ cause board _ => exact (Except.error.inj h).symm
  | accepted _ board _ => cases h

/-- A check that is made fails with an error of its own: its size errors are hidden, and no phase is
ever entered that may not follow. -/
theorem validate_fails_of_validating {e : UpdateError} (hphase : link.session.phase = .validating)
    (h : (effect validate link).1 = .error e) : IsCheckError e := by
  have hreport := validate_report link
  generalize effect validate link = r at hreport h
  generalize told validate link = notices at hreport
  cases hreport with
  | refused notValidating => exact absurd hphase notValidating
  | failed error header board =>
    cases h
    exact error
  | vetoed header board _ _ =>
    cases h
    exact .inr (.inr rfl)
  | completed header board _ _ => cases h

theorem leavesAlone_receive {number : UInt32} {data : List UInt8} {e : UpdateError}
    (h : (effect (receive number data) link).1 = .error e) (hflash : e ≠ .flashError) :
    LeavesAlone (receive number data) link := by
  rcases receive_cases number data link with ⟨_, hrefuses⟩ | ⟨expected, _⟩
  · exact leavesAlone_of_refuses hrefuses
  · exact absurd (receive_fails_of_expected expected h) hflash

theorem leavesAlone_finalize {e : UpdateError} (h : (effect finalize link).1 = .error e)
    (hcheck : ¬ IsCheckError e) : LeavesAlone finalize link := by
  rcases finalize_cases link with ⟨_, hrefuses⟩ | ⟨hphase, hall, _⟩
  · exact leavesAlone_of_refuses hrefuses
  · rw [effect_finalize hphase hall] at h
    exact absurd (validate_fails_of_validating rfl h) hcheck

theorem leavesAlone_abort {e : UpdateError} (h : (effect abort link).1 = .error e) :
    LeavesAlone abort link := by
  rcases abort_cases link with ⟨_, hrefuses⟩ | ⟨hnot, _⟩
  · exact leavesAlone_of_refuses hrefuses
  · have houtcome := abort_outcome link
    generalize effect abort link = r at houtcome h
    cases houtcome with
    | refused e terminal => cases terminal.symm.trans hnot
    | ended _ => cases h

theorem leavesAlone_apply (h : link.session.phase ≠ .complete) : LeavesAlone apply link := by
  rcases apply_cases link with ⟨_, hrefuses⟩ | ⟨hphase, _⟩
  · exact leavesAlone_of_refuses hrefuses
  · exact absurd hphase h

/-- Answers are given another form on the way out, errors are not. -/
theorem fails_of_answering {x : SessionAction g α} {b : β} {e : UpdateError}
    (h : (effect (x.answering b) link).1 = .error e) : (effect x link).1 = .error e := by
  rw [effect_answering] at h
  rcases hr : (effect x link).1 with e' | a
  · rw [hr] at h
    cases h
    rfl
  · rw [hr] at h
    cases h

theorem leavesAlone_of_rejectsCall (hsettled : link.session.phase.settled = true) {call : SessionCall}
    (h : link.RejectsCall call) : LeavesAlone (call.run : SessionAction g Answer) link := by
  obtain ⟨e, herror, hrejection⟩ := h
  -- By the call. For a chunk and the end of a transfer the error tells a rejection from a
  -- failure.
  cases call with
  | start total chunk => exact hrejection.elim
  | receive number data =>
    refine (leavesAlone_receive (fails_of_answering herror) ?_).answering _
    rintro rfl
    rcases hrejection with h | h | h <;> cases h
  | transmit total chunk data limit => exact hrejection.elim
  | finalize =>
    refine (leavesAlone_finalize (fails_of_answering herror) ?_).answering _
    rintro (rfl | rfl | rfl) <;> rcases hrejection with h | h <;> cases h
  | validate => exact (leavesAlone_validate_of_settled hsettled).answering _
  | abort => exact (leavesAlone_abort (fails_of_answering herror)).answering _
  | apply => exact (leavesAlone_apply hrejection).answering _
  | poll elapsed => exact hrejection.elim

end Link

end DualSlot
