import DualSlot.Proofs.Bench.Exclusion
import DualSlot.Proofs.Update.Certificate
import DualSlot.Proofs.Update.Consistency
import DualSlot.Proofs.Update.Notices
import Mathlib.Data.List.Chain

/-!
# What the application is told of a run

An application follows its session by the notices that it gets: phases, percentages, and the question
whether an image will do. They come in the middle of a call, between one change and the next. Here they
are collected over a whole run (`Link.history`), each with the state of the lock at that moment and the
call that it comes from.

For a session that is alone with its board, `Link.history_faithful` says that this history can be
trusted:

* every notice fits what was told before it (`Link.Fits`);
* each phase that is told may follow on the one before, the first one on `idle`, so that no phase is
  ever refused;
* the phase told last is the one that the session is in.

The invariant is `Link.Traced`. It is carried through one turn at a time, for which the outcomes say
where the turn leaves the session and `Link.told` what it tells on the way (`Link.Continues`).
-/

namespace DualSlot

/-- The phases in which a session has the update slot for itself. -/
def Phase.reserves : Phase → Bool
  | waitingForStart | receivingData | validating => true
  | _ => false

/-- Between two calls these are the phases in which data may arrive. -/
theorem Phase.reserves_of_settled {p : Phase} (h : p.settled = true) : p.reserves = p.receiving := by
  cases p <;> first | rfl | cases h

/-- Nobody but the session takes the lock or gives it back. -/
def Turn.LeavesLock : Turn → Prop
  | .boot call => (BenchCall.boot call).LeavesLock
  | _ => True

instance : (turn : Turn) → Decidable turn.LeavesLock
  | .boot call => inferInstanceAs (Decidable (BenchCall.boot call).LeavesLock)
  | .start .. | .receive .. | .finalize | .validate | .abort | .apply | .poll _ | .judge _
  | .flash _ => .isTrue trivial

/-- A notice that the application got, and the turn of the run that it comes from. -/
structure Heard (g : Geometry) where
  notice : Notice
  /-- The update slot was locked at that moment. -/
  locked : Bool
  before : Link g
  turn : Turn

namespace Heard

variable {g : Geometry}

/-- The answer of the turn, and the session and the board after it. -/
def outcome (s : Heard g) : Except UpdateError Unit × Link g := Action.effect s.turn.run s.before

/-- The notice as an event of the session. -/
def event (s : Heard g) : SessionEvent := .notice s.notice s.locked

/-- The phase that is told, if the notice tells one. -/
def phase? (s : Heard g) : Option Phase :=
  match s.notice with
  | .status next _ => some next
  | _ => none

/-- A transfer was begun, by a start that succeeds. -/
structure Begins (s : Heard g) : Prop where
  notice_eq : s.notice = .status .waitingForStart none
  turn_eq : ∃ total chunk, s.turn = .start total chunk
  answer_eq : s.outcome.1 = .ok ()

/-- The application is asked about an image. -/
def asks (s : Heard g) : Bool :=
  match s.notice with
  | .validate _ => true
  | _ => false

end Heard

namespace Link

open DualSlot.Action

variable {g : Geometry} {link : Link g} {turn : Turn} {earlier later : List (Heard g)} {s : Heard g}

/-! ## Histories -/

/-- An event as the application hears it: only notices get through. -/
def hear (link : Link g) (turn : Turn) : SessionEvent → Option (Heard g)
  | .notice notice locked => some ⟨notice, locked, link, turn⟩
  | _ => none

/-- The notices of one turn. -/
def heard (link : Link g) (turn : Turn) : List (Heard g) :=
  (turn.run link).events.filterMap (hear link turn)

/-- The notices of a run. -/
def history (link : Link g) : List Turn → List (Heard g)
  | [] => []
  | turn :: rest => heard link turn ++ history (link.after (.turn turn)) rest

/-- All that is reported in a run, to whomever. -/
def reports (link : Link g) : List Turn → List SessionEvent
  | [] => []
  | turn :: rest => (turn.run link).events ++ reports (link.after (.turn turn)) rest

/-- The phases that were told. -/
def statuses (told : List (Heard g)) : List Phase := told.filterMap Heard.phase?

/-- The phase that was told last. Before the first one a session is idle. -/
def latest (told : List (Heard g)) : Phase := (statuses told).getLastD .idle

/-- What is told last is in the later part, unless nothing is told there. -/
theorem latest_append (earlier later : List (Heard g)) :
    latest (earlier ++ later) = (statuses later).getLastD (latest earlier) := by
  unfold latest statuses
  rw [List.filterMap_append]
  rcases List.eq_nil_or_concat (later.filterMap Heard.phase?) with hnil | ⟨init, last, hlast⟩
  · -- Nothing was told in the later part.
    rw [hnil, List.append_nil]
    rfl
  · rw [hlast, List.concat_eq_append, ← List.append_assoc, List.getLastD_concat,
      List.getLastD_concat]

/-- What is told of a turn is all that there is to hear of it. -/
theorem heard_eq (link : Link g) (turn : Turn) :
    heard link turn = (told turn.run link).filterMap (hear link turn) := by
  unfold heard told
  rw [List.filterMap_filter]
  refine congrArg (fun f => List.filterMap f _) ?_
  funext event
  -- Only the complaints stand between `told` and the notices, and nobody hears them.
  cases event with
  | board event => rfl
  | log message => exact (ite_self none).symm
  | notice notice locked => rfl

/-! ## What a notice has to fit -/

/-- A transfer was begun, and the application was not asked about an image since. -/
def Unasked (earlier : List (Heard g)) : Prop :=
  ∃ before s since, earlier = before ++ s :: since ∧ s.Begins ∧ ∀ w ∈ since, w.asks = false

/-- Notices that ask nothing may follow. -/
theorem Unasked.append (h : Unasked earlier) (hlater : ∀ w ∈ later, w.asks = false) :
    Unasked (earlier ++ later) := by
  obtain ⟨before, s, since, rfl, hstart, hsince⟩ := h
  -- The start that is looked for is still the one from before.
  refine ⟨before, s, since ++ later, by rw [List.append_assoc, List.cons_append], hstart, ?_⟩
  intro w hw
  exact (List.mem_append.mp hw).elim (hsince w) (hlater w)

/-- A phase may be told. An error comes with `failed` and with no other phase, and is the last error of
the session then. A session is complete after a check only if the application was just asked, and
content. -/
structure Enters (earlier : List (Heard g)) (s : Heard g) (next : Phase)
    (cause : Option UpdateError) : Prop where
  allowed : (latest earlier).allows next = true
  cause_iff : cause.isSome = true ↔ next = .failed
  cause_eq : ∀ e, cause = some e → s.outcome.2.session.lastError = some e
  started : next = .waitingForStart → s.Begins
  consented : latest earlier = .validating → next = .complete →
    ∃ before asked header, earlier = before ++ [asked] ∧ asked.notice = .validate header
      ∧ asked.before = s.before ∧ asked.turn = s.turn ∧ s.before.session.accepts header = true

/-- The application may be asked: once for every transfer that was begun, in the middle of a check,
about an image that has passed all other checks. -/
structure Questions (earlier : List (Heard g)) (s : Heard g) (header : Header) : Prop where
  validating : latest earlier = .validating
  finalizing : s.turn = .finalize
  examined : Examined header s.before
  unasked : Unasked earlier

/-- A notice fits what was told before it. The lock is held just if the phase told last, this notice
included, is one that reserves the update slot. -/
structure Fits (earlier : List (Heard g)) (s : Heard g) : Prop where
  locked_eq : s.locked = (latest (earlier ++ [s])).reserves
  fits : match s.notice with
    | .progress percent => percent.toNat ≤ 100
    | .status next cause => Enters earlier s next cause
    | .validate header => Questions earlier s header

/-- Every notice of a list fits what was told before. -/
def Follows (earlier : List (Heard g)) : List (Heard g) → Prop
  | [] => True
  | s :: rest => Fits earlier s ∧ Follows (earlier ++ [s]) rest

/-- Two lists that fit, one behind the other. -/
theorem Follows.append (h : Follows earlier later) {more : List (Heard g)}
    (hmore : Follows (earlier ++ later) more) : Follows earlier (later ++ more) := by
  -- The context of the induction grows by the notice that was taken off.
  induction later generalizing earlier with
  | nil =>
    rw [List.append_nil] at hmore
    exact hmore
  | cons s rest ih =>
    refine ⟨h.1, ih h.2 ?_⟩
    rw [List.append_assoc]
    exact hmore

/-- A notice in the middle of a list fits all that came before it. -/
theorem Follows.fits (h : Follows earlier later) {before after : List (Heard g)}
    (heq : later = before ++ s :: after) : Fits (earlier ++ before) s := by
  subst heq
  induction before generalizing earlier with
  | nil =>
    rw [List.append_nil]
    exact h.1
  | cons w rest ih =>
    have hrest := ih h.2
    rw [List.append_assoc] at hrest
    exact hrest

/-- The phases of a list that fits follow one on the other. -/
theorem Follows.isChain (h : Follows earlier later) :
    List.IsChain (fun p next => p.allows next = true) (latest earlier :: statuses later) := by
  induction later generalizing earlier with
  | nil => exact List.isChain_singleton _
  | cons s rest ih =>
    have hrest := ih h.2
    have hfits := h.1.fits
    rw [latest_append] at hrest
    obtain ⟨notice, locked, before, turn⟩ := s
    -- Only a notice of a phase moves the chain on.
    cases notice with
    | status next cause => exact List.isChain_cons_cons.mpr ⟨hfits.allowed, hrest⟩
    | progress percent => exact hrest
    | validate header => exact hrest

/-! ## Notices that fit -/

section Fits

variable {locked : Bool} {next : Phase} {cause : Option UpdateError}

/-- A percentage leaves the phase as it is, so it fits wherever the lock does. -/
theorem fits_progress {percent : UInt8} (hle : percent.toNat ≤ 100)
    (hlocked : locked = (latest earlier).reserves) :
    Fits earlier ⟨.progress percent, locked, link, turn⟩ where
  locked_eq := by
    rw [latest_append]
    exact hlocked
  fits := hle

/-- A phase that is told is the last one, so the lock has to fit that phase. -/
theorem fits_status (hlocked : locked = next.reserves)
    (h : Enters earlier ⟨.status next cause, locked, link, turn⟩ next cause) :
    Fits earlier ⟨.status next cause, locked, link, turn⟩ where
  locked_eq := by
    rw [latest_append]
    exact hlocked
  fits := h

/-- A phase in which nothing begins and nothing ends. -/
theorem enters_plain (hallows : (latest earlier).allows next = true)
    (hplain : next = .idle ∨ next = .receivingData ∨ next = .validating ∨ next = .updating) :
    Enters earlier s next none := by
  have hne : next ≠ .failed ∧ next ≠ .waitingForStart ∧ next ≠ .complete := by
    -- None of the four is a phase on which `Enters` puts a further condition.
    rcases hplain with rfl | rfl | rfl | rfl <;> decide
  exact
    { allowed := hallows
      cause_iff := iff_of_false Bool.false_ne_true hne.1
      cause_eq := fun _ h => nomatch h
      started := fun h => absurd h hne.2.1
      consented := fun _ h => absurd h hne.2.2 }

/-- The session fails with the error that it keeps as its last one. -/
theorem enters_failed {e : UpdateError} (hallows : (latest earlier).allows .failed = true)
    (hafter : s.outcome.2.session.lastError = some e) : Enters earlier s .failed (some e) where
  allowed := hallows
  cause_iff := iff_of_true rfl rfl
  cause_eq e' h := by rw [← h, hafter]
  started h := nomatch h
  consented _ h := nomatch h

end Fits

/-! ## The invariant -/

/-- The session is where its notices have left it, and holds the lock just while it receives. As long as
it does, the application was not asked about the image. -/
structure Traced (earlier : List (Heard g)) (link : Link g) : Prop where
  consistent : link.Consistent
  balanced : Balanced 0 link
  latest_eq : latest earlier = link.session.phase
  unasked : link.session.phase.receiving = true → Unasked earlier

/-- A session that was just opened has told nothing and stands at `idle`. -/
theorem traced_opened (config : SessionConfig) (accepts : Header → Bool) {board : Board g}
    (hfree : board.loader.updateLocked = false) : Traced [] (opened config accepts board) where
  consistent := Session.consistent_fresh config accepts
  balanced := ⟨rfl, by
    show 0 + 0 = board.loader.updateLocked.toNat
    rw [hfree]
    rfl⟩
  latest_eq := rfl
  unasked h := nomatch h

/-- The lock can be read off the phase: nobody else holds it. -/
theorem Traced.locked_eq (h : Traced earlier link) :
    link.board.loader.updateLocked = link.session.phase.reserves := by
  rw [Phase.reserves_of_settled h.balanced.settled]
  cases hreceiving : link.session.phase.receiving with
  -- Not receiving, and nobody else there: the balance is zero.
  | false => exact h.balanced.free hreceiving
  | true =>
    -- Receiving: the lock is the only thing that makes up for it in the balance.
    have hbalance := h.balanced.balance
    rw [hreceiving] at hbalance
    cases hlocked : link.board.loader.updateLocked with
    | false =>
      rw [hlocked] at hbalance
      cases hbalance
    | true => rfl

/-- A turn goes on with a history. It tells nothing but notices, each of which fits, and leaves the
session where they say. -/
structure Continues (earlier : List (Heard g)) (link : Link g) (turn : Turn) : Prop where
  told_eq : told turn.run link = (heard link turn).map Heard.event
  follows : Follows earlier (heard link turn)
  latest_eq : latest (earlier ++ heard link turn) = (link.after (.turn turn)).session.phase
  unasked : (link.after (.turn turn)).session.phase.receiving = true →
    Unasked (earlier ++ heard link turn)

/-- A notice with the state of the lock, heard in some turn. -/
def heardIn (link : Link g) (turn : Turn) (notice : Notice × Bool) : Heard g :=
  ⟨notice.1, notice.2, link, turn⟩

/-- The notices of a turn, from what it tells. -/
theorem heard_of_told {notices : List (Notice × Bool)}
    (htold : told turn.run link = notices.map fun n => .notice n.1 n.2) :
    heard link turn = notices.map (heardIn link turn) := by
  rw [heard_eq, htold, List.filterMap_map, ← List.filterMap_eq_map]
  rfl

/-- What a turn tells and where it leaves the session, put together. -/
theorem Continues.of_told {after : Link g} (notices : List (Notice × Bool))
    (htold : told turn.run link = notices.map fun n => .notice n.1 n.2)
    (hafter : link.after (.turn turn) = after)
    (hfollows : Follows earlier (notices.map (heardIn link turn)))
    (hlatest : latest (earlier ++ notices.map (heardIn link turn)) = after.session.phase)
    (hunasked : after.session.phase.receiving = true →
      Unasked (earlier ++ notices.map (heardIn link turn))) : Continues earlier link turn := by
  subst hafter
  -- All four parts speak of `heard`, which is the list of these notices.
  have hheard := heard_of_told htold
  exact
    { told_eq := by
        rw [hheard, htold, List.map_map]
        rfl
      follows := by
        rw [hheard]
        exact hfollows
      latest_eq := by
        rw [hheard]
        exact hlatest
      unasked := by
        rw [hheard]
        exact hunasked }

/-- The same for a turn that tells its notices in two parts. -/
theorem Continues.of_told_append {after : Link g} (before more : List (Notice × Bool))
    (htold : told turn.run link
      = before.map (fun n => .notice n.1 n.2) ++ more.map fun n => .notice n.1 n.2)
    (hafter : link.after (.turn turn) = after)
    (hbefore : Follows earlier (before.map (heardIn link turn)))
    (hmore : Follows (earlier ++ before.map (heardIn link turn)) (more.map (heardIn link turn)))
    (hlatest : (statuses (more.map (heardIn link turn))).getLastD
      (latest (earlier ++ before.map (heardIn link turn))) = after.session.phase)
    (hunasked : after.session.phase.receiving = true →
      Unasked (earlier ++ before.map (heardIn link turn) ++ more.map (heardIn link turn))) :
    Continues earlier link turn := by
  -- The last phase is looked for in the second part, and from there in the first.
  refine .of_told (before ++ more) ?_ hafter ?_ ?_ ?_
  · rw [htold, List.map_append]
  · rw [List.map_append]
    exact hbefore.append hmore
  · rw [List.map_append, ← List.append_assoc, latest_append]
    exact hlatest
  · rw [List.map_append, ← List.append_assoc]
    exact hunasked

/-- A turn that ends the session with an error says so last, when the lock is free. -/
theorem Continues.of_failed {after : Link g} {e : UpdateError} (before : List (Notice × Bool))
    (htold : told turn.run link
      = before.map (fun n => .notice n.1 n.2) ++ [.notice (.status .failed (some e)) false])
    (hafter : link.after (.turn turn) = after)
    (hbefore : Follows earlier (before.map (heardIn link turn)))
    (hallows : (latest (earlier ++ before.map (heardIn link turn))).allows .failed = true)
    (hphase : after.session.phase = .failed) (herror : after.session.lastError = some e) :
    Continues earlier link turn := by
  subst hafter
  refine .of_told_append before [(.status .failed (some e), false)] htold rfl hbefore
    ⟨fits_status rfl (enters_failed hallows herror), trivial⟩ hphase.symm fun hreceiving => ?_
  -- A failed session does not receive, so nothing has to be shown of the questions.
  rw [hphase] at hreceiving
  cases hreceiving

/-- A turn that tells nothing, and keeps the phase. -/
theorem Traced.silent (h : Traced earlier link) (htold : told turn.run link = [])
    (hphase : (link.after (.turn turn)).session.phase = link.session.phase) :
    Continues earlier link turn := by
  refine .of_told [] htold rfl trivial ?_ ?_
  · rw [List.map_nil, List.append_nil, hphase]
    exact h.latest_eq
  · rw [List.map_nil, List.append_nil, hphase]
    exact h.unasked

/-- A turn that is refused tells nothing. -/
theorem Traced.refused (h : Traced earlier link) (hrefuses : Refuses turn.run link) :
    Continues earlier link turn := by
  obtain ⟨e, heq⟩ := hrefuses.effect_eq
  refine h.silent (told_of_refuses hrefuses) ?_
  show (effect turn.run link).2.session.phase = _
  rw [heq]

/-! ## Turn by turn -/

/-- A start forgets the last transfer first, if there was one. -/
theorem exists_forgotten (h : Traced earlier link) (hfree : link.board.loader.updateLocked = false)
    (hrests : link.session.phase = .idle ∨ link.session.phase.terminal = true) (turn : Turn) :
    ∃ notices : List (Notice × Bool),
      forgotten link = notices.map (fun n => .notice n.1 n.2)
        ∧ Follows earlier (notices.map (heardIn link turn))
        ∧ latest (earlier ++ notices.map (heardIn link turn)) = .idle := by
  unfold forgotten
  -- An idle session has nothing to forget, and every other one that rests passes through `idle`.
  by_cases hidle : link.session.phase = .idle
  · refine ⟨[], if_pos hidle, trivial, ?_⟩
    rw [List.map_nil, List.append_nil, h.latest_eq, hidle]
  · refine ⟨[(.status .idle none, false)], by rw [if_neg hidle, hfree]; rfl, ⟨?_, trivial⟩, ?_⟩
    · refine fits_status rfl (enters_plain ?_ (.inl rfl))
      rw [h.latest_eq]
      exact Phase.allows_idle_of_terminal (hrests.resolve_left hidle)
    · rw [latest_append]
      rfl

/-- A start tells that the last transfer is forgotten, and then that it has failed or begun. -/
theorem continues_start (h : Traced earlier link) (total chunk : UInt32) :
    Continues earlier link (.start total chunk) := by
  rcases start_cases total chunk link with ⟨_, hrefuses⟩ | ⟨may, _⟩
  · exact h.refused hrefuses
  -- No transfer goes on, so the lock is free and the notices before the erase say so.
  have hfree := h.balanced.free (Phase.not_receiving_of_rests may.phase_rests)
  obtain ⟨before, hforgotten, hbefore, hidle⟩ :=
    exists_forgotten h hfree may.phase_rests (.start total chunk)
  have htold := told_start_of_may may
  have heffect := effect_start_of_may may
  have hreport := begin_report total chunk link
  rw [hforgotten] at htold
  generalize told (begin total chunk) _ = notices at hreport htold
  generalize effect (begin total chunk) _ = r at hreport heffect
  have hafter : link.after (.turn (.start total chunk)) = r.2 := congrArg Prod.snd heffect
  cases hreport with
  -- Alone with the board, a session never meets a locked slot here.
  | slotLocked locked => cases hfree.symm.trans locked
  | notErased free =>
    refine .of_failed before htold hafter hbefore ?_ rfl rfl
    rw [hidle]
    rfl
  | started free =>
    -- This is the start that the later questions are counted from.
    have hbegins : Heard.Begins
        (heardIn link (.start total chunk) (.status .waitingForStart none, true)) :=
      ⟨rfl, ⟨total, chunk, rfl⟩, congrArg Prod.fst heffect⟩
    refine .of_told_append before [(.status .waitingForStart none, true), (.progress 0, true)] htold
      hafter hbefore ⟨fits_status rfl ?_, fits_progress (by decide) ?_, trivial⟩ rfl fun _ => ?_
    · exact
        { allowed := by
            rw [hidle]
            rfl
          cause_iff := iff_of_false Bool.false_ne_true fun h => nomatch h
          cause_eq := fun _ h => nomatch h
          started := fun _ => hbegins
          consented := fun _ h => nomatch h }
    · rw [latest_append]
      rfl
    · exact ⟨_, _, _, rfl, hbegins, by simp [heardIn, Heard.asks]⟩

/-- A chunk is told by its percentage, the first one also by a phase, and a write that fails by
`failed`. -/
theorem continues_receive (h : Traced earlier link) (number : UInt32) (data : List UInt8) :
    Continues earlier link (.receive number data) := by
  rcases receive_cases number data link with ⟨_, hrefuses⟩ | ⟨expected, _⟩
  · exact h.refused hrefuses
  have hreceiving := expected.receiving
  have hlocked := h.locked_eq
  -- The lock is held before the write, and the write does not touch it.
  rw [Phase.reserves_of_settled h.balanced.settled, hreceiving] at hlocked
  have houtcome := receive_outcome number data link
  generalize hr : effect (receive number data) link = r at houtcome
  have hafter : link.after (.turn (.receive number data)) = r.2 := congrArg Prod.snd hr
  cases houtcome with
  | refused e unexpected => exact absurd expected unexpected
  | notWritten _ cause board written =>
    refine .of_failed [] (told_receive_of_notWritten expected written) hafter trivial ?_ rfl rfl
    rw [List.map_nil, List.append_nil, h.latest_eq]
    exact Phase.allows_failed_of_busy (Phase.busy_of_receiving hreceiving)
  | accepted _ board written =>
    have hboard := Board.loader_programUpdateSlot link.session.transfer.receivedBytes.toNat data
      link.board
    rw [written] at hboard
    have hheld : board.loader.updateLocked = true := (congrArg Loader.updateLocked hboard).trans hlocked
    -- The counters have not run over, so the percentage is one.
    have hpercent : (link.session.transfer.accept data.length).percent.toNat ≤ 100 :=
      (h.consistent.counted.accept expected.length_pos expected.le_chunk
        expected.le_remaining).percent_le
    have htold := told_receive_of_accepted expected written
    rw [hheld] at htold
    rcases (Phase.receiving_iff _).mp hreceiving with hphase | hphase
    · -- The first chunk: the phase is told before the percentage.
      rw [if_pos hphase] at htold
      refine .of_told [(.status .receivingData none, true), (.progress _, true)] htold hafter
        ⟨fits_status rfl (enters_plain ?_ (.inr (.inl rfl))), fits_progress hpercent ?_, trivial⟩ ?_
        fun _ => ?_
      · rw [h.latest_eq, hphase]
        rfl
      · rw [latest_append]
        rfl
      · rw [latest_append]
        rfl
      · exact (h.unasked hreceiving).append (by simp [heardIn, Heard.asks])
    · -- A later chunk: the percentage alone.
      rw [if_neg (by rw [hphase]; decide)] at htold
      refine .of_told [(.progress _, true)] htold hafter ⟨fits_progress hpercent ?_, trivial⟩ ?_
        fun _ => ?_
      · rw [h.latest_eq, hphase]
        rfl
      · rw [latest_append, h.latest_eq, hphase]
        rfl
      · exact (h.unasked hreceiving).append (by simp [heardIn, Heard.asks])

/-- Before anything else the application hears that the image is checked. -/
def checkingNotices : List (Notice × Bool) :=
  [(.status .validating none, true), (.progress 95, true)]

/-- Both notices before a check fit: `validating` follows on `receivingData`, with the lock held. -/
theorem follows_checkingNotices (h : Traced earlier link) (hphase : link.session.phase = .receivingData)
    (turn : Turn) : Follows earlier (checkingNotices.map (heardIn link turn)) := by
  refine ⟨fits_status rfl (enters_plain ?_ (.inr (.inr (.inl rfl)))),
    fits_progress (by decide) ?_, trivial⟩
  · rw [h.latest_eq, hphase]
    rfl
  · rw [latest_append]
    rfl

/-- After these notices the application believes the session to be validating. -/
theorem latest_checkingNotices (earlier : List (Heard g)) (link : Link g) (turn : Turn) :
    latest (earlier ++ checkingNotices.map (heardIn link turn)) = .validating := by
  rw [latest_append]
  rfl

/-- The question about an image that has passed the other checks. -/
theorem fits_question {locked : Bool} {header : Header} (hlocked : locked = true)
    (h : Questions earlier ⟨.validate header, locked, link, turn⟩ header) :
    Fits earlier ⟨.validate header, locked, link, turn⟩ where
  locked_eq := by
    rw [latest_append, h.validating]
    exact hlocked
  fits := h

/-- The question comes while the image is checked, and the transfer was begun and not asked about
since. -/
theorem questions_of_examined (h : Traced earlier link) (hphase : link.session.phase = .receivingData)
    {header : Header} {locked : Bool} (examined : Examined header link.checking) :
    Questions (earlier ++ checkingNotices.map (heardIn link .finalize))
      ⟨.validate header, locked, link, .finalize⟩ header where
  validating := latest_checkingNotices earlier link .finalize
  finalizing := rfl
  examined := ⟨examined.decode_eq, examined.wellShaped, examined.length_lt, examined.size_eq,
    examined.crc32_eq⟩
  -- Neither of the two notices before it is a question.
  unasked := by
    refine (h.unasked ?_).append (by simp [checkingNotices, heardIn, Heard.asks])
    rw [hphase]
    rfl

/-- A check tells that it has begun, asks about an image that has passed, and tells how it ended. -/
theorem continues_finalize (h : Traced earlier link) : Continues earlier link .finalize := by
  rcases finalize_cases link with ⟨_, hrefuses⟩ | ⟨hphase, hall, _⟩
  · exact h.refused hrefuses
  have hlocked := h.locked_eq
  rw [hphase] at hlocked
  -- The first two notices are the same in all outcomes; what follows depends on the check.
  have hbefore := follows_checkingNotices h hphase .finalize
  have hvalidating := latest_checkingNotices earlier link .finalize
  have htold := told_finalize hphase hall
  have heffect := effect_finalize hphase hall
  rw [hlocked] at htold
  have hreport := validate_report link.checking
  generalize told validate link.checking = notices at hreport htold
  generalize effect validate link.checking = r at hreport heffect
  have hafter : link.after (.turn .finalize) = r.2 := congrArg Prod.snd heffect
  cases hreport with
  | refused notValidating => exact absurd rfl notValidating
  | failed error header board =>
    -- A check failed before the application was asked.
    refine .of_failed checkingNotices htold hafter hbefore ?_ rfl rfl
    rw [hvalidating]
    rfl
  | vetoed header board examined veto =>
    -- The application was asked, and turned the image down.
    have hasked := fits_question hlocked (questions_of_examined h hphase examined)
    refine .of_failed (checkingNotices ++ [(.validate header, link.checking.board.loader.updateLocked)])
      (htold.trans rfl) hafter ?_ ?_ rfl rfl
    · rw [List.map_append]
      exact hbefore.append ⟨hasked, trivial⟩
    · rw [List.map_append, ← List.append_assoc, latest_append, hvalidating]
      rfl
  | completed header board examined accepted =>
    -- The application was asked and content: this is what `consented` has to remember.
    refine .of_told_append checkingNotices
      [(.validate header, _), (.status .complete none, false), (.progress 100, false)] htold hafter
      hbefore
      ⟨fits_question hlocked (questions_of_examined h hphase examined), fits_status rfl ?_,
        fits_progress (by decide) ?_, trivial⟩ rfl fun hreceiving => nomatch hreceiving
    · exact
        { allowed := by
            rw [latest_append, hvalidating]
            rfl
          cause_iff := iff_of_false Bool.false_ne_true fun h => nomatch h
          cause_eq := fun _ h => nomatch h
          started := fun h => nomatch h
          consented := fun _ _ => ⟨_, _, header, rfl, rfl, rfl, rfl, accepted⟩ }
    · rw [latest_append]
      rfl

/-- An apply tells `updating`, and then `failed` or `complete`; the slot is free all the while. -/
theorem continues_apply (h : Traced earlier link) : Continues earlier link .apply := by
  rcases apply_cases link with ⟨_, hrefuses⟩ | ⟨hphase, _⟩
  · exact h.refused hrefuses
  have hlocked := h.locked_eq
  have htold := told_apply hphase
  rw [hphase] at hlocked
  rw [hlocked] at htold
  -- A complete session has given the lock back, so this notice comes with the lock free.
  have hupdating : Fits earlier ⟨.status .updating none, false, link, .apply⟩ := by
    refine fits_status rfl (enters_plain ?_ (.inr (.inr (.inr rfl))))
    rw [h.latest_eq, hphase]
    rfl
  have houtcome := apply_outcome link
  generalize hr : effect apply link = r at houtcome
  have hafter : link.after (.turn .apply) = r.2 := congrArg Prod.snd hr
  cases houtcome with
  | refused e notComplete => exact absurd hphase notComplete
  | turnedDown _ cause board taken =>
    rw [taken] at htold
    refine .of_failed [(.status .updating none, false)] htold hafter ⟨hupdating, trivial⟩ ?_ rfl rfl
    rw [latest_append]
    rfl
  | takenOver _ board taken =>
    rw [taken] at htold
    -- From `updating` a session may be complete again, without a question this time.
    have hlatest : latest (earlier ++ [heardIn link .apply (.status .updating none, false)])
        = .updating := by
      rw [latest_append]
      rfl
    refine .of_told [(.status .updating none, false), (.status .complete none, false)] htold hafter
      ⟨hupdating, fits_status rfl ?_, trivial⟩ ?_ fun hreceiving => nomatch hreceiving
    · exact
        { allowed := congrArg (fun p : Phase => p.allows .complete) hlatest
          cause_iff := iff_of_false Bool.false_ne_true fun h => nomatch h
          cause_eq := fun _ h => nomatch h
          started := fun h => nomatch h
          consented := fun hvalidating => nomatch hlatest.symm.trans hvalidating }
    · rw [latest_append]
      rfl

/-- The lock of a session that is alone belongs to it, whatever it does. -/
theorem balanced_turn (hturn : turn.LeavesLock) (h : Balanced 0 link) :
    Balanced 0 (link.after (.turn turn)) := by
  cases turn with
  | flash call => exact ⟨h.settled, h.balance⟩
  | boot call =>
    rw [after_turn_boot]
    exact h.of_same h.settled rfl (Bench.lock_bootCall hturn link.board)
  | _ => exact balanced_after_turn trivial h

/-- An abort tells `failed`, once the lock is free. -/
theorem continues_abort (h : Traced earlier link) : Continues earlier link .abort := by
  rcases abort_cases link with ⟨_, hrefuses⟩ | ⟨hphase, _⟩
  · exact h.refused hrefuses
  have hbalanced : Balanced 0 (link.after (.turn .abort)) := balanced_turn trivial h.balanced
  have htold := told_abort hphase
  have houtcome := abort_outcome link
  generalize hr : effect abort link = r at houtcome
  have hafter : link.after (.turn .abort) = r.2 := congrArg Prod.snd hr
  cases houtcome with
  | refused e terminal => cases terminal.symm.trans hphase
  | ended _ =>
    -- The lock was the session's, and the session gave it back.
    have hfree : (boardAfter link.board link.session.phase .failed).loader.updateLocked = false := by
      rw [hafter] at hbalanced
      exact hbalanced.free rfl
    rw [hfree] at htold
    refine .of_failed [] htold hafter trivial ?_ rfl rfl
    rw [List.map_nil, List.append_nil, h.latest_eq]
    exact Phase.allows_failed_of_not_terminal hphase

/-- Every turn goes on with the history, whatever it does. -/
theorem continues_turn (h : Traced earlier link) (turn : Turn) : Continues earlier link turn := by
  cases turn with
  | start total chunk => exact continues_start h total chunk
  | receive number data => exact continues_receive h number data
  | finalize => exact continues_finalize h
  | validate =>
    -- A check outside of `finalize` has nothing to do.
    -- Between two calls nothing is validating.
    have hphase : link.session.phase ≠ .validating := by
      intro hphase
      cases (congrArg Phase.settled hphase).symm.trans h.balanced.settled
    refine h.silent (told_validate_of_not_validating hphase) ?_
    exact congrArg (fun r => r.2.session.phase) (effect_validate_of_not_validating hphase)
  | abort => exact continues_abort h
  | apply => exact continues_apply h
  | poll elapsed =>
    obtain ⟨answer, idle, heq⟩ := poll_outcome elapsed link
    exact h.silent (told_poll elapsed link) (congrArg (fun r => r.2.session.phase) heq)
  | judge accepts => exact h.silent rfl rfl
  | flash call => exact h.silent (by rw [Turn.run, told_bind, told_onBoard]; rfl) rfl
  | boot call => exact h.silent (by rw [Turn.run, told_bind, told_onBoard]; rfl) rfl

/-- The application, the flash and the loader may act in between: the session stays consistent. -/
theorem consistent_turn (h : link.Consistent) (turn : Turn) : (link.after (.turn turn)).Consistent := by
  cases turn with
  | judge accepts => exact { h with }
  | flash call => exact h
  | boot call => exact h
  | _ => exact survives_consistent.after_turn trivial h

/-- The invariant is kept by every turn that leaves the lock to the session. -/
theorem Traced.next (h : Traced earlier link) (hturn : turn.LeavesLock) :
    Traced (earlier ++ heard link turn) (link.after (.turn turn)) where
  consistent := consistent_turn h.consistent turn
  balanced := balanced_turn hturn h.balanced
  latest_eq := (continues_turn h turn).latest_eq
  unasked := (continues_turn h turn).unasked

/-! ## Every run -/

/-- A run of any length follows on what was told before, and its last phase is that of the session. -/
theorem Traced.history {turns : List Turn} (h : Traced earlier link)
    (hturns : ∀ turn ∈ turns, turn.LeavesLock) :
    Follows earlier (history link turns)
      ∧ latest (earlier ++ history link turns) = (link.steps (turns.map .turn)).session.phase := by
  -- The history grows by what the first turn tells, and the rest runs from there.
  induction turns generalizing earlier link with
  | nil => exact ⟨trivial, by rw [history, List.append_nil]; exact h.latest_eq⟩
  | cons turn rest ih =>
    obtain ⟨hturn, hrest⟩ := List.forall_mem_cons.mp hturns
    obtain ⟨hfollows, hlatest⟩ := ih (h.next hturn) hrest
    refine ⟨(continues_turn h turn).follows.append hfollows, ?_⟩
    rw [history, ← List.append_assoc]
    exact hlatest

/-- No phase is ever refused. -/
theorem Continues.not_complains (h : Continues earlier link turn) (phase next : Phase) :
    .log (.illegalTransition phase next) ∉ (turn.run link).events := by
  intro hmem
  have htold : SessionEvent.log (.illegalTransition phase next) ∈ told turn.run link :=
    List.mem_filter.mpr ⟨hmem, rfl⟩
  -- All that is told are notices, and a complaint is none.
  rw [h.told_eq] at htold
  obtain ⟨s, _, hs⟩ := List.mem_map.mp htold
  cases hs

/-- Over a whole run no phase is refused. -/
theorem Traced.not_complains {turns : List Turn} (h : Traced earlier link)
    (hturns : ∀ turn ∈ turns, turn.LeavesLock) (phase next : Phase) :
    .log (.illegalTransition phase next) ∉ reports link turns := by
  induction turns generalizing earlier link with
  | nil => exact List.not_mem_nil
  | cons turn rest ih =>
    obtain ⟨hturn, hrest⟩ := List.forall_mem_cons.mp hturns
    rw [reports, List.mem_append]
    exact fun hmem => hmem.elim ((continues_turn h turn).not_complains phase next)
      (ih (h.next hturn) hrest)

/-- Whatever becomes of a run, the application is told truly: every notice fits those before it, the
phases that it hears of follow one on the other, the last one is that of the session, and no phase is
ever refused. Nobody else may touch the lock of the update slot, but the flash may be written, and made
to fail, as one likes. -/
theorem history_faithful (config : SessionConfig) (accepts : Header → Bool) {board : Board g}
    {turns : List Turn} (hfree : board.loader.updateLocked = false)
    (hturns : ∀ turn ∈ turns, turn.LeavesLock) :
    let link := opened config accepts board
    (∀ earlier s later, history link turns = earlier ++ s :: later → Fits earlier s)
      ∧ List.IsChain (fun p next => p.allows next = true) (.idle :: statuses (history link turns))
      ∧ latest (history link turns) = (link.steps (turns.map .turn)).session.phase
      ∧ ∀ phase next, .log (.illegalTransition phase next) ∉ reports link turns := by
  intro link
  have htraced : Traced [] link := traced_opened config accepts hfree
  obtain ⟨hfollows, hlatest⟩ := htraced.history hturns
  refine ⟨fun earlier s later heq => hfollows.fits heq, hfollows.isChain, hlatest, ?_⟩
  exact htraced.not_complains hturns

/-- A transfer that goes well, and is taken over by the boot loader. -/
def plainUpdate : List Turn :=
  [.start 84 84, .receive 0 (Factory.image ⟨1, 1, 0⟩), .finalize, .apply]

/-- A transfer that goes well, as the application hears of it. -/
theorem history_faithful_plainUpdate :
    let link := opened {} (fun _ => true) Factory.board
    statuses (history link plainUpdate)
        = [.waitingForStart, .receivingData, .validating, .complete, .updating, .complete]
      ∧ ∀ earlier s later, history link plainUpdate = earlier ++ s :: later → Fits earlier s := by
  refine ⟨by decide +kernel, ?_⟩
  exact (history_faithful {} (fun _ => true) rfl (by decide)).1

end Link

end DualSlot
