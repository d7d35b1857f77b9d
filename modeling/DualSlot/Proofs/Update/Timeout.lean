import DualSlot.Proofs.Update.Statistics

/-!
# How long a session has waited

A session does not read a clock. It is told by polls how much time has passed, adds that up in one word,
and forgets it again in several places. Here the word is compared with what an observer of the calls
would add up (`Session.waited`): the milliseconds of all polls since the last call that renewed the
session, which is a start that answers or a chunk that is accepted.

* `Session.Ages`: a call that renews nothing only lets a session in flight grow older, by the milliseconds
  of a poll and by nothing otherwise.
* `Session.timeouts_measure_idleness`: a session in flight reports a stall just if it has waited longer than
  its limit, and one that is not in flight never does.

The word is held at the largest one, it does not wrap around.
-/

namespace DualSlot

namespace Link

open DualSlot.Action

variable {g : Geometry}

/-! ## Adding up -/

/-- Words are added as numbers, up to the largest word. -/
theorem toNat_saturatingAdd (a b : UInt32) :
    (saturatingAdd a b).toNat = min (a.toNat + b.toNat) (UInt32.size - 1) := by
  have hle : min (a.toNat + b.toNat) (UInt32.size - 1) ≤ UInt32.size - 1 := Nat.min_le_right _ _
  have hsize : UInt32.size - 1 < UInt32.size := by decide
  unfold saturatingAdd
  rw [Nat.toUInt32_eq, UInt32.toNat_ofNat_of_lt' (Nat.lt_of_le_of_lt hle hsize)]

/-- Adding up in two goes is held at the same bound as adding up in one. -/
theorem min_add_min (a b bound : Nat) : min (min a bound + b) bound = min (a + b) bound := by
  omega

/-- A poll of a session in flight adds the time, keeps the sum, and compares it with the limit. -/
theorem effect_poll_of_busy {link : Link g} (h : link.session.phase.busy = true) (elapsed : UInt32) :
    effect (poll elapsed) link
      = (if link.session.config.timeout < saturatingAdd link.session.idle elapsed then .error .timeout
          else .ok (),
        ⟨{ link.session with idle := saturatingAdd link.session.idle elapsed }, link.board⟩) := by
  unfold poll
  rw [effect_bind, effect_look, resume_ok, h, Bool.not_true, if_neg Bool.false_ne_true, effect_bind,
    effect_look, resume_ok, effect_bind, effect_change, resume_ok, effect_bind, effect_look, resume_ok]
  dsimp only
  split <;> rfl

/-- A poll of a session that is not in flight forgets the time. -/
theorem effect_poll_of_not_busy {link : Link g} (h : link.session.phase.busy = false)
    (elapsed : UInt32) :
    effect (poll elapsed) link = (.ok (), ⟨{ link.session with idle := 0 }, link.board⟩) := by
  unfold poll
  rw [effect_bind, effect_look, resume_ok, h]
  rfl

end Link

/-! ## Growing older -/

/-- The milliseconds that a call tells of. -/
def SessionCall.elapsed : SessionCall → Nat
  | .poll elapsed => elapsed.toNat
  | _ => 0

namespace Session

/-- If the second session is in flight, so is the first one, and the second one is older by some
milliseconds. -/
def Ages (s s' : Session) (ms : Nat) : Prop :=
  s'.phase.receiving = true →
    s.phase.receiving = true ∧ s'.idle.toNat = min (s.idle.toNat + ms) (UInt32.size - 1)

variable {s s' s'' : Session} {ms ms' : Nat}

/-- A session that stays as it is grows older by nothing. -/
theorem Ages.of_eq (hphase : s'.phase = s.phase) (hidle : s'.idle = s.idle) : s.Ages s' 0 := by
  intro hreceiving
  -- The word is at most the largest one, so holding it there changes nothing.
  have hlt := s.idle.toNat_lt
  have hsize : UInt32.size = 2 ^ 32 := rfl
  rw [hphase] at hreceiving
  refine ⟨hreceiving, ?_⟩
  rw [hidle]
  omega

/-- Of a session that is not in flight nothing is said. -/
theorem Ages.of_rests (h : s'.phase.receiving = false) : s.Ages s' ms := by
  intro hreceiving
  cases h.symm.trans hreceiving

/-- To grow older twice is to grow older by both times together. -/
theorem Ages.trans (h : s.Ages s' ms) (h' : s'.Ages s'' ms') : s.Ages s'' (ms + ms') := by
  intro hreceiving
  obtain ⟨hmiddle, hlast⟩ := h' hreceiving
  obtain ⟨hfirst, hidle⟩ := h hmiddle
  refine ⟨hfirst, ?_⟩
  rw [hlast, hidle, Link.min_add_min, Nat.add_assoc]

end Session

/-! ## What each call does to the time -/

namespace Link

open DualSlot.Action

variable {g : Geometry}

/-- The call renews the session: it starts one, or adds a chunk to the one in flight. -/
def renews (link : Link g) : SessionCall → Bool
  | .receive number data => (effect (receive number data) link).1.isOk
  | call => link.opens call

/-- A start either renews the session or leaves none in flight that was not before. -/
theorem start_renews_or_ages (total chunk : UInt32) (link : Link g) :
    (∃ after : Link g, effect (start total chunk) link = (.ok (), after) ∧ after.session.idle = 0)
      ∨ ∃ e, ∃ after : Link g, effect (start total chunk) link = (.error e, after)
        ∧ link.session.Ages after.session 0 := by
  have houtcome := start_outcome total chunk link
  generalize effect (start total chunk) link = r at houtcome ⊢
  cases houtcome with
  | refused e => exact .inr ⟨e, link, rfl, .of_eq rfl rfl⟩
  | slotLocked _ _ => exact .inr ⟨_, _, rfl, .of_rests rfl⟩
  | notErased _ _ => exact .inr ⟨_, _, rfl, .of_rests rfl⟩
  | started _ _ => exact .inl ⟨_, rfl, rfl⟩

/-- A chunk renews the session if it is accepted. If it is not, the session is as old as before or
gone. -/
theorem receive_renews_or_ages (number : UInt32) (data : List UInt8) (link : Link g) :
    (∃ after : Link g, effect (receive number data) link = (.ok (), after) ∧ after.session.idle = 0)
      ∨ ∃ e, ∃ after : Link g, effect (receive number data) link = (.error e, after)
        ∧ link.session.Ages after.session 0 := by
  have houtcome := receive_outcome number data link
  generalize effect (receive number data) link = r at houtcome ⊢
  cases houtcome with
  | refused e _ => exact .inr ⟨e, link, rfl, .of_eq rfl rfl⟩
  | notWritten _ _ _ _ => exact .inr ⟨_, _, rfl, .of_rests rfl⟩
  | accepted _ _ _ => exact .inl ⟨_, rfl, rfl⟩

/-- No time passes while chunks are sent. -/
theorem idle_eq_zero_receive (number : UInt32) (data : List UInt8) :
    Keeps (fun link : Link g => link.session.idle = 0) (receive number data) := by
  refine Keeps.of_outcome (receive_outcome number data) fun link r outcome h => ?_
  cases outcome with
  | refused e _ => exact h
  | notWritten _ _ _ _ => exact h
  | accepted _ _ _ => rfl

/-- A transfer renews the session by its start; its chunks tell of no time. -/
theorem transmit_renews_or_ages (total chunk : UInt32) (data : List UInt8) (limit : Option Nat)
    (link : Link g) :
    ((effect (start total chunk) link).1.isOk = true
        ∧ (effect (transmit total chunk data limit) link).2.session.idle = 0)
      ∨ ((effect (start total chunk) link).1.isOk = false
        ∧ link.session.Ages (effect (transmit total chunk data limit) link).2.session 0) := by
  unfold transmit
  rw [effect_bind]
  rcases start_renews_or_ages total chunk link with ⟨after, hok, hidle⟩ | ⟨e, after, herror, hages⟩
  · -- The start has set the clock back, and it stays there through all of the chunks.
    rw [hok, resume_ok]
    refine .inl ⟨rfl, ?_⟩
    refine Keeps.bind (I := fun link : Link g => link.session.idle = 0) (Keeps.forEach ?_ _)
      (fun _ => keeps_pure _) after hidle
    rintro ⟨piece, i⟩
    exact idle_eq_zero_receive _ piece
  · rw [herror]
    exact .inr ⟨rfl, hages⟩

/-- A validation ends the session in flight, or is refused. -/
theorem ages_validate (link : Link g) : link.session.Ages (effect validate link).2.session 0 := by
  have houtcome := validate_outcome link
  generalize effect validate link = r at houtcome ⊢
  cases houtcome with
  | refused e _ => exact .of_eq rfl rfl
  | failed e header board _ => exact .of_rests rfl
  | completed header board _ _ => exact .of_rests rfl

/-- So does a finalize. -/
theorem ages_finalize (link : Link g) : link.session.Ages (effect finalize link).2.session 0 := by
  have houtcome := finalize_outcome link
  generalize effect finalize link = r at houtcome ⊢
  cases houtcome with
  | refused e => exact .of_eq rfl rfl
  | checked _ _ outcome =>
    cases outcome with
    | refused e notValidating => exact absurd rfl notValidating
    | failed e header board _ => exact .of_rests rfl
    | completed header board _ _ => exact .of_rests rfl

/-- So does an abort. -/
theorem ages_abort (link : Link g) : link.session.Ages (effect abort link).2.session 0 := by
  have houtcome := abort_outcome link
  generalize effect abort link = r at houtcome ⊢
  cases houtcome with
  | refused e _ => exact .of_eq rfl rfl
  | ended _ => exact .of_rests rfl

/-- An apply finds no session in flight. -/
theorem ages_apply (link : Link g) : link.session.Ages (effect apply link).2.session 0 := by
  have houtcome := apply_outcome link
  generalize effect apply link = r at houtcome ⊢
  cases houtcome with
  | refused e _ => exact .of_eq rfl rfl
  | turnedDown _ _ _ _ => exact .of_rests rfl
  | takenOver _ _ _ => exact .of_rests rfl

/-- A poll lets a session in flight grow older by the time that it tells of. -/
theorem ages_poll (elapsed : UInt32) (link : Link g) :
    link.session.Ages (effect (poll elapsed) link).2.session elapsed.toNat := by
  cases hbusy : link.session.phase.busy with
  | true =>
    rw [effect_poll_of_busy hbusy]
    exact fun hreceiving => ⟨hreceiving, toNat_saturatingAdd link.session.idle elapsed⟩
  | false =>
    rw [effect_poll_of_not_busy hbusy]
    intro hreceiving
    cases hbusy.symm.trans (Phase.busy_of_receiving hreceiving)

/-- A call renews the session, or lets the time pass that it tells of. -/
theorem renews_or_ages (call : SessionCall) (link : Link g) :
    let after := (effect (call.run : SessionAction g Answer) link).2
    (link.renews call = true ∧ after.session.idle = 0)
      ∨ (link.renews call = false ∧ link.session.Ages after.session call.elapsed) := by
  intro after
  -- Two calls may renew the session, and an error tells that they did not.
  cases call with
  | start total chunk =>
    simp only [after, SessionCall.run, effect_answering, renews, opens]
    rcases start_renews_or_ages total chunk link with ⟨_, hok, hidle⟩ | ⟨_, _, herror, hages⟩
    · rw [hok]
      exact .inl ⟨rfl, hidle⟩
    · rw [herror]
      exact .inr ⟨rfl, hages⟩
  | receive number data =>
    simp only [after, SessionCall.run, effect_answering, renews]
    rcases receive_renews_or_ages number data link with ⟨_, hok, hidle⟩ | ⟨_, _, herror, hages⟩
    · rw [hok]
      exact .inl ⟨rfl, hidle⟩
    · rw [herror]
      exact .inr ⟨rfl, hages⟩
  | transmit total chunk data limit =>
    simp only [after, SessionCall.run, effect_map]
    exact transmit_renews_or_ages total chunk data limit link
  | finalize =>
    simp only [after, SessionCall.run, effect_answering]
    exact .inr ⟨rfl, ages_finalize link⟩
  | validate =>
    simp only [after, SessionCall.run, effect_answering]
    exact .inr ⟨rfl, ages_validate link⟩
  | abort =>
    simp only [after, SessionCall.run, effect_answering]
    exact .inr ⟨rfl, ages_abort link⟩
  | apply =>
    simp only [after, SessionCall.run, effect_answering]
    exact .inr ⟨rfl, ages_apply link⟩
  | poll elapsed =>
    simp only [after, SessionCall.run, effect_answering]
    exact .inr ⟨rfl, ages_poll elapsed link⟩

/-- The limits of a session are those that it was opened with. -/
theorem survives_config (config : SessionConfig) :
    Survives (fun link : Link g => link.session.config = config) where
  start total chunk := by
    refine Keeps.of_outcome (start_outcome total chunk) fun link r outcome h => ?_
    cases outcome <;> exact h
  receive number data := by
    refine Keeps.of_outcome (receive_outcome number data) fun link r outcome h => ?_
    cases outcome <;> exact h
  finalize := by
    refine Keeps.of_outcome finalize_outcome fun link r outcome h => ?_
    cases outcome with
    | refused e => exact h
    | checked _ _ outcome => cases outcome <;> exact h
  validate := by
    refine Keeps.of_outcome validate_outcome fun link r outcome h => ?_
    cases outcome <;> exact h
  abort := by
    refine Keeps.of_outcome abort_outcome fun link r outcome h => ?_
    cases outcome <;> exact h
  apply := by
    refine Keeps.of_outcome apply_outcome fun link r outcome h => ?_
    cases outcome <;> exact h
  poll elapsed := by
    intro link h
    obtain ⟨_, _, heq⟩ := poll_outcome elapsed link
    rw [heq]
    exact h

end Link

/-! ## Runs -/

/-- The milliseconds that a number of calls tell of. -/
def Encounter.elapsed : List Encounter → Nat
  | [] => 0
  | e :: rest => e.call.elapsed + elapsed rest

namespace Session

open DualSlot.Action

variable {s : Session}

/-- The call renews the session, with what it meets with. -/
def renews (s : Session) (e : Encounter) : Bool :=
  let link : Link e.geometry := ⟨{ s with accepts := e.accepts }, e.board⟩
  link.renews e.call

/-- The milliseconds that were told since the last call that renewed the session, if there was one. -/
def waited (s : Session) : List Encounter → Option Nat
  | [] => none
  | e :: rest =>
    match (s.meet e).waited rest with
    | some ms => some ms
    | none => if s.renews e then some (Encounter.elapsed rest) else none

/-- Encounters one after the other. -/
theorem meets_append (s : Session) (earlier later : List Encounter) :
    s.meets (earlier ++ later) = (s.meets earlier).meets later := List.foldl_append

/-- What was told before a call that renews the session does not count. -/
theorem waited_append {ms : Nat} (earlier later : List Encounter)
    (h : (s.meets earlier).waited later = some ms) : s.waited (earlier ++ later) = some ms := by
  induction earlier generalizing s with
  | nil => exact h
  | cons e rest ih =>
    show (match (s.meet e).waited (rest ++ later) with
      | some ms => some ms
      | none => if s.renews e then some (Encounter.elapsed (rest ++ later)) else none) = some ms
    rw [ih h]

/-- The last call that renewed the session is followed by others, which tell of the time waited. -/
theorem exists_of_waited {ms : Nat} {encounters : List Encounter}
    (h : s.waited encounters = some ms) :
    ∃ earlier e later, encounters = earlier ++ e :: later ∧ (s.meets earlier).renews e = true
      ∧ ((s.meets earlier).meet e).waited later = none ∧ ms = Encounter.elapsed later := by
  -- By the calls: the last one that renewed may be the first of all.
  induction encounters generalizing s with
  | nil => cases h
  | cons e rest ih =>
    unfold waited at h
    cases hrest : (s.meet e).waited rest with
    | some ms' =>
      rw [hrest] at h
      cases h
      obtain ⟨earlier, e', later, rfl, hrenews, hnone, hms⟩ := ih hrest
      exact ⟨e :: earlier, e', later, rfl, hrenews, hnone, hms⟩
    | none =>
      rw [hrest] at h
      dsimp only at h
      split at h
      · rename_i hrenews
        cases h
        exact ⟨[], e, rest, rfl, hrenews, hrest, rfl⟩
      · cases h

/-- A call that renews the session sets the clock back. -/
theorem idle_meet_of_renews {e : Encounter} (h : s.renews e = true) : (s.meet e).idle = 0 := by
  let link : Link e.geometry := ⟨{ s with accepts := e.accepts }, e.board⟩
  rcases link.renews_or_ages e.call with ⟨_, hidle⟩ | ⟨hnot, _⟩
  · exact hidle
  · cases hnot.symm.trans h

/-- Every other call lets the session grow older by the time that it tells of. -/
theorem ages_meet {e : Encounter} (h : s.renews e = false) : s.Ages (s.meet e) e.call.elapsed := by
  let link : Link e.geometry := ⟨{ s with accepts := e.accepts }, e.board⟩
  rcases link.renews_or_ages e.call with ⟨hrenews, _⟩ | ⟨_, hages⟩
  · cases h.symm.trans hrenews
  · exact hages

/-- Without a call that renews the session, it only grows older. -/
theorem ages_meets {encounters : List Encounter} (h : s.waited encounters = none) :
    s.Ages (s.meets encounters) (Encounter.elapsed encounters) := by
  induction encounters generalizing s with
  | nil => exact .of_eq rfl rfl
  | cons e rest ih =>
    unfold waited at h
    cases hrest : (s.meet e).waited rest with
    -- The session was renewed in the rest, which is not the case.
    | some ms =>
      rw [hrest] at h
      cases h
    | none =>
      rw [hrest] at h
      cases hrenews : s.renews e with
      | true =>
        rw [hrenews] at h
        cases h
      | false => exact (ages_meet hrenews).trans (ih hrest)

/-- A session in flight that was not so before was renewed since, and knows how long it has waited. -/
theorem idle_eq_waited {encounters : List Encounter} (hrests : s.phase.receiving = false)
    (hreceiving : (s.meets encounters).phase.receiving = true) :
    ∃ ms, s.waited encounters = some ms
      ∧ (s.meets encounters).idle.toNat = min ms (UInt32.size - 1) := by
  cases hwaited : s.waited encounters with
  -- Without a renewal the session would have been in flight from the beginning.
  | none =>
    obtain ⟨hbefore, _⟩ := ages_meets hwaited hreceiving
    cases hrests.symm.trans hbefore
  | some ms =>
    -- From the last renewal on the clock and the polls run together.
    refine ⟨ms, rfl, ?_⟩
    obtain ⟨earlier, e, later, rfl, hrenews, hnone, rfl⟩ := exists_of_waited hwaited
    have hsplit : s.meets (earlier ++ e :: later) = ((s.meets earlier).meet e).meets later :=
      meets_append s earlier (e :: later)
    rw [hsplit] at hreceiving ⊢
    have hidle := (ages_meets hnone hreceiving).2
    rw [idle_meet_of_renews hrenews, UInt32.toNat_zero, Nat.zero_add] at hidle
    exact hidle

/-- No call changes the limits. -/
theorem config_meets (s : Session) (encounters : List Encounter) :
    (s.meets encounters).config = s.config := by
  induction encounters generalizing s with
  | nil => rfl
  | cons e rest ih =>
    have hmeet : (s.meet e).config = s.config :=
      (Link.survives_config s.config).sessionCall e.call ⟨{ s with accepts := e.accepts }, e.board⟩ rfl
    exact (ih (s.meet e)).trans hmeet

/-- Polls measure the time that a session in flight has waited for data, and change nothing but this
measure. After any calls a poll reports a stall just if the milliseconds of all polls since the last call
that renewed the session, those of its own included, are more than the limit. Of a session that is not in
flight no stall is reported, and polls from before it was started make no difference. -/
theorem timeouts_measure_idleness (config : SessionConfig) (accepts : Header → Bool)
    (encounters : List Encounter) :
    let opened := fresh config accepts
    let s := opened.meets encounters
    (∀ (g : Geometry) (board : Board g) (elapsed : UInt32), ∃ idle,
        (effect (Link.poll elapsed) (⟨s, board⟩ : Link g)).2 = ⟨{ s with idle }, board⟩)
      ∧ (s.phase.receiving = false → ∀ (g : Geometry) (board : Board g) (elapsed : UInt32),
          (effect (Link.poll elapsed) (⟨s, board⟩ : Link g)).1 = .ok ())
      ∧ (s.phase.receiving = true → ∃ ms, opened.waited encounters = some ms
          ∧ ∀ (g : Geometry) (board : Board g) (elapsed : UInt32),
            (effect (Link.poll elapsed) (⟨s, board⟩ : Link g)).1
              = if config.timeout.toNat < min (ms + elapsed.toNat) (UInt32.size - 1)
                then .error .timeout else .ok ())
      ∧ ∀ earlier later, encounters = earlier ++ later →
          (opened.meets earlier).phase.receiving = false → s.phase.receiving = true →
          opened.waited encounters = (opened.meets earlier).waited later := by
  intro opened s
  have hsettled : s.phase.settled = true := ((consistent_fresh config accepts).meets encounters).settled
  have hbusy := Phase.busy_eq_receiving hsettled
  refine ⟨fun g board elapsed => ?_, fun hrests g board elapsed => ?_, fun hreceiving => ?_, ?_⟩
  · obtain ⟨_, idle, heq⟩ := Link.poll_outcome elapsed (⟨s, board⟩ : Link g)
    exact ⟨idle, congrArg Prod.snd heq⟩
  · rw [Link.effect_poll_of_not_busy (hbusy.trans hrests)]
  · -- The poll adds its own time to what was waited for, and compares the sum.
    obtain ⟨ms, hwaited, hidle⟩ := idle_eq_waited (s := opened) rfl hreceiving
    refine ⟨ms, hwaited, fun g board elapsed => ?_⟩
    have htotal : (Link.saturatingAdd s.idle elapsed).toNat
        = min (ms + elapsed.toNat) (UInt32.size - 1) := by
      rw [Link.toNat_saturatingAdd, hidle, Link.min_add_min]
    have hconfig : s.config = config := config_meets opened encounters
    rw [Link.effect_poll_of_busy (hbusy.trans hreceiving)]
    simp only [hconfig, UInt32.lt_iff_toNat_lt, htotal]
  · -- A session that was not in flight at some point was renewed after it, so what came before is
    -- forgotten.
    rintro earlier later rfl hrests hreceiving
    have hlater : s = (opened.meets earlier).meets later := meets_append opened earlier later
    rw [hlater] at hreceiving
    obtain ⟨ms, hwaited, _⟩ := idle_eq_waited hrests hreceiving
    rw [hwaited, waited_append earlier later hwaited]

end Session

end DualSlot
