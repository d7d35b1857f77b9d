import DualSlot.Proofs.Update.Outcome

/-!
# What the application is told

The outcomes of a call leave its events aside. Here are those events that an application can hear of:
the notices, each with the state of the lock at that moment. The complaint about a phase that may not
follow is kept among them, so as to show that it is never made (`SessionEvent.notable`).

`Link.told` is computed call by call like `Action.effect`. What a call tells depends on how it ends:

| call       | told                                                                           |
|------------|--------------------------------------------------------------------------------|
| `start`    | the way through `idle`, then `failed`, or `waitingForStart` and no percent     |
| `receive`  | `failed`, or the percentage, and before the first chunk `receivingData`        |
| `validate` | `failed`; or the question about an image, and then `failed` or `complete`      |
| `finalize` | `validating` and 95 percent, and then what `validate` tells                    |
| `apply`    | `updating`, then `failed` or `complete`                                        |
| `abort`    | `failed`                                                                       |

A call that is refused tells nothing, and a poll never does.
-/

namespace DualSlot

/-- A notice to the application, or the complaint about a phase that may not follow. -/
def SessionEvent.notable : SessionEvent → Bool
  | .notice .. => true
  | .log message => message.complains
  | .board _ => false

namespace Link

open DualSlot.Action

variable {g : Geometry} {α β : Type} {link : Link g}

/-- The notable events of a call, in order. -/
def told (x : SessionAction g α) (link : Link g) : List SessionEvent :=
  (x link).events.filter SessionEvent.notable

/-- What a call tells that runs on what an earlier one left. A failure is not followed by anything. -/
def toldAfter (r : Except UpdateError α × Link g) (f : α → SessionAction g β) : List SessionEvent :=
  match r with
  | (.ok a, link) => told (f a) link
  | (.error _, _) => []

@[simp] theorem toldAfter_ok (a : α) (link : Link g) (f : α → SessionAction g β) :
    toldAfter (.ok a, link) f = told (f a) link := rfl

@[simp] theorem toldAfter_error (e : UpdateError) (link : Link g) (f : α → SessionAction g β) :
    toldAfter (.error e, link) f = [] := rfl

/-! ## Steps -/

/-- What is told depends on what the call does there, and on nothing else of it. -/
theorem told_congr {x y : SessionAction g α} (h : x link = y link) : told x link = told y link := by
  unfold told
  rw [h]

/-- What a sequence of steps tells: the first step, and then the rest from where it ended. -/
@[simp] theorem told_bind (x : SessionAction g α) (f : α → SessionAction g β) (link : Link g) :
    told (x >>= f) link = told x link ++ toldAfter (effect x link) f := by
  unfold told effect toldAfter
  rw [bind_apply]
  rcases x link with ⟨r, after, events⟩
  cases r with
  | error e => simp
  | ok a => simp [told]

@[simp] theorem told_pure (a : α) (link : Link g) :
    told (pure a : SessionAction g α) link = [] := rfl

@[simp] theorem told_fail (e : UpdateError) (link : Link g) :
    told (Action.fail e : SessionAction g α) link = [] := rfl

@[simp] theorem told_look (f : Session → α) (link : Link g) : told (look f) link = [] := rfl

@[simp] theorem told_lookLoader (f : Loader g → α) (link : Link g) :
    told (lookLoader f) link = [] := rfl

@[simp] theorem told_attempt (x : SessionAction g α) (link : Link g) :
    told (x.attempt : SessionAction g (Except UpdateError α)) link = told x link := rfl

@[simp] theorem told_change (f : Session → Session) (link : Link g) :
    told (change f) link = [] := rfl

@[simp] theorem told_release (link : Link g) : told release link = [] := rfl

@[simp] theorem told_notify (notice : Notice) (link : Link g) :
    told (notify notice) link = [.notice notice link.board.loader.updateLocked] := rfl

@[simp] theorem told_setProgress (percent : UInt8) (link : Link g) :
    told (setProgress percent) link
      = [.notice (.progress percent) link.board.loader.updateLocked] := rfl

/-- The log is not for the application, except for its complaints. -/
theorem told_log {message : UpdateMessage} (h : message.complains = false)
    (link : Link g) : told (log message) link = [] := by
  show List.filter _ [SessionEvent.log message] = []
  rw [List.filter_cons_of_neg (by simp [SessionEvent.notable, h]), List.filter_nil]

/-- What the board reports is not for the application. -/
@[simp] theorem told_onBoard (x : BoardAction g α) (link : Link g) : told (onBoard x) link = [] := by
  show ((x link.board).events.map SessionEvent.board).filter SessionEvent.notable = []
  rw [List.filter_eq_nil_iff]
  intro event hevent
  obtain ⟨_, _, rfl⟩ := List.mem_map.mp hevent
  exact Bool.false_ne_true

/-- A refusal is only logged. -/
theorem told_refuse {message : UpdateMessage} (h : message.complains = false)
    (e : UpdateError) (link : Link g) : told (refuse message e : SessionAction g α) link = [] := by
  unfold refuse
  rw [told_bind, told_log h, effect_log]
  rfl

/-- A call that refuses tells nothing. -/
theorem told_of_refuses {x : SessionAction g α} (h : Refuses x link) : told x link = [] := by
  obtain ⟨message, e, hmessage, heq⟩ := h
  rw [told_congr heq, told_refuse hmessage]

/-- A phase is told once it is entered, and after the lock was given back. -/
theorem told_enter {next : Phase} (h : link.session.phase.allows next = true)
    (cause : Option UpdateError) :
    told (enter next cause) link
      = [.notice (.status next cause)
          (boardAfter link.board link.session.phase next).loader.updateLocked] := by
  unfold enter boardAfter
  rw [told_bind, told_look, effect_look, toldAfter_ok, h]
  -- The lock is given back or not, but the notice comes after it in both cases.
  cases link.session.phase.busy && !next.busy <;> rfl

/-- To give up is told as `failed`, with the error that led to it. -/
theorem told_giveUp (h : link.session.phase.allows .failed = true) (e : UpdateError) :
    told (giveUp e) link
      = [.notice (.status .failed (some e))
          (boardAfter link.board link.session.phase .failed).loader.updateLocked] := by
  unfold giveUp
  rw [told_bind, told_change, effect_change, toldAfter_ok, told_bind, told_attempt, told_enter]
  · rfl
  · exact h

/-- A session in flight that gives up has freed the slot by the time that it says so. -/
theorem told_abandon_of_busy {message : UpdateMessage}
    (hmessage : message.complains = false)
    (h : link.session.phase.busy = true) (e : UpdateError) :
    told (abandon message e : SessionAction g α) link
      = [.notice (.status .failed (some e)) false] := by
  unfold abandon
  rw [told_bind, told_log hmessage, effect_log, toldAfter_ok, told_bind,
    told_giveUp (Phase.allows_failed_of_busy h), effect_giveUp (Phase.allows_failed_of_busy h),
    boardAfter_of_busy _ h rfl]
  rfl

/-! ## Starting -/

/-- The word that the last transfer is forgotten. -/
def forgotten (link : Link g) : List SessionEvent :=
  if link.session.phase = .idle then []
  else [.notice (.status .idle none) link.board.loader.updateLocked]

/-- An erase that fails is told, once the lock was given back. -/
theorem told_reserve (total : UInt32) {link : Link g} (hidle : link.session.phase = .idle) :
    told (reserve total) link
      = match (effect (reserve total) link).1 with
        | .error e =>
          if e = .flashError then [.notice (.status .failed (some .flashError)) false] else []
        | .ok () => [] := by
  unfold reserve
  cases hlocked : link.board.loader.updateLocked with
  -- The lock is refused, and nothing was told yet.
  | true =>
    rw [told_bind, effect_bind, told_onBoard, effect_onBoard,
      Board.effect_lockUpdateSlot_of_locked hlocked]
    rfl
  | false =>
    have hallows : link.session.phase.allows .failed = true := by
      rw [hidle]
      rfl
    rw [told_bind, effect_bind, told_onBoard, effect_onBoard,
      Board.effect_lockUpdateSlot_of_free hlocked, toldAfter_ok, resume_ok, told_bind, effect_bind,
      told_onBoard, effect_onBoard]
    rcases Board.eraseUpdateSlot_cases total.toNat link.board.locked with ⟨e, herror⟩ | ⟨hok, _⟩
    · -- The lock was taken and given back, so the notice finds it free.
      rw [herror]
      simp only [toldAfter_ok, resume_ok, effect_bind, effect_release, effect_log, told_bind,
        told_release, Board.unlocked_locked hlocked, List.nil_append]
      rw [told_log rfl, effect_enter hallows, told_enter hallows, hidle, boardAfter_of_not_busy _ rfl]
      show [SessionEvent.notice _ link.board.loader.updateLocked] = _
      rw [hlocked]
      rfl
    · rw [hok]
      rfl

/-- How a transfer is begun once the last one is forgotten, and what is told of it. -/
inductive BeginReport (total chunk : UInt32) (link : Link g) :
    Except UpdateError Unit × Link g → List SessionEvent → Prop
  | slotLocked (locked : link.board.loader.updateLocked = true) :
      BeginReport total chunk link
        (.error .invalidState, ⟨link.session.declared total chunk, link.board⟩) []
  | notErased (free : link.board.loader.updateLocked = false) :
      BeginReport total chunk link
        (.error .flashError,
          ⟨(link.session.declared total chunk).moved .failed (some .flashError), link.board⟩)
        [.notice (.status .failed (some .flashError)) false]
  | started (free : link.board.loader.updateLocked = false) :
      BeginReport total chunk link
        (.ok (), ⟨link.session.started total chunk, reservedBoard link.board total.toNat⟩)
        [.notice (.status .waitingForStart none) true, .notice (.progress 0) true]

/-- A transfer is begun in one of three ways, told as they are. -/
theorem begin_report (total chunk : UInt32) (link : Link g) :
    BeginReport total chunk link
      (effect (begin total chunk) ⟨link.session.declared total chunk, link.board⟩)
      (told (begin total chunk) ⟨link.session.declared total chunk, link.board⟩) := by
  have hidle : (⟨link.session.declared total chunk, link.board⟩ : Link g).session.phase = .idle := rfl
  have htold := told_reserve total hidle
  unfold begin
  rw [effect_bind, told_bind, effect_log, resume_ok, toldAfter_ok, told_log rfl, List.nil_append,
    effect_bind, told_bind]
  -- The same three cases as for the effect, now with what they tell.
  rcases effect_reserve_cases total hidle with ⟨heq, hlock⟩ | ⟨heq, hlock⟩ | ⟨heq, hlock⟩
  · rw [heq] at htold ⊢
    rw [htold]
    exact .slotLocked hlock
  · rw [heq] at htold ⊢
    rw [htold]
    exact .notErased hlock
  · rw [heq] at htold ⊢
    rw [htold, resume_ok, toldAfter_ok, effect_bind, told_bind, effect_change, resume_ok, toldAfter_ok,
      told_change, effect_bind, told_bind, effect_enter, told_enter]
    · exact .started hlock
    · rfl
    · rfl

/-- What was said of the last transfer comes first, and then what `begin` tells. -/
theorem told_start_of_may {total chunk : UInt32} (may : MayStart total chunk link) :
    told (start total chunk) link
      = forgotten link
        ++ told (begin total chunk) ⟨link.session.declared total chunk, link.board⟩ := by
  -- From a phase other than `idle` the session passes through it first.
  have hforget : told (do
        if link.session.phase ≠ .idle then enter .idle none
        declare total chunk
        begin total chunk : SessionAction g Unit) link
      = forgotten link
        ++ told (begin total chunk) ⟨link.session.declared total chunk, link.board⟩ := by
    unfold forgotten
    by_cases hidle : link.session.phase = .idle
    · rw [if_neg (not_not_intro hidle), if_pos hidle, told_bind, effect_declare hidle]
      rfl
    · have hterminal := may.phase_rests.resolve_left hidle
      rw [if_pos hidle, if_neg hidle, told_bind, told_enter (Phase.allows_idle_of_terminal hterminal),
        effect_enter_idle hterminal, toldAfter_ok, told_bind, effect_declare rfl,
        boardAfter_of_not_busy _ (Phase.not_busy_of_terminal hterminal)]
      rfl
  rcases start_cases total chunk link with ⟨mayNot, _⟩ | ⟨_, heq⟩
  · exact absurd may mayNot
  rw [told_congr heq]
  unfold renew
  rw [told_bind, told_lookLoader, effect_lookLoader, toldAfter_ok, List.nil_append]
  -- The report on a running image goes to the log, so both branches tell the same.
  by_cases hactive : link.board.loader.context.active = .b
  · rw [if_pos hactive, told_bind, told_lookLoader, effect_lookLoader, toldAfter_ok, told_bind,
      told_log rfl, effect_log]
    exact hforget
  · rw [if_neg hactive]
    exact hforget

/-! ## Receiving -/

/-- An expected chunk goes to the board, and what it tells is told from there. -/
theorem told_receive_of_expected {number : UInt32} {data : List UInt8}
    (h : link.session.Expects number data) :
    told (receive number data) link
      = told (store link.session.phase link.session.transfer number data) link := by
  rcases receive_cases number data link with ⟨unexpected, _⟩ | ⟨_, heq⟩
  · exact absurd h unexpected
  · exact told_congr heq

/-- A chunk that could not be written ends the session in one notice. -/
theorem told_receive_of_notWritten {number : UInt32} {data : List UInt8} {cause : BootError}
    {board : Board g} (expected : link.session.Expects number data)
    (written : effect (Board.programUpdateSlot link.session.transfer.receivedBytes.toNat data)
      link.board = (.error cause, board)) :
    told (receive number data) link = [.notice (.status .failed (some .flashError)) false] := by
  have hbusy := Phase.busy_of_receiving expected.receiving
  rw [told_receive_of_expected expected]
  unfold store
  rw [told_bind, told_onBoard, effect_onBoard, toldAfter_ok, written, List.nil_append]
  dsimp only
  rw [told_abandon_of_busy rfl]
  exact hbusy

/-- The first chunk moves the session on, and every chunk the percentage. -/
theorem told_count {session : Session} (h : session.phase.receiving = true) (board : Board g)
    (length : Nat) :
    told (count session.phase session.transfer length) ⟨session, board⟩
      = (if session.phase = .waitingForStart
          then [.notice (.status .receivingData none) board.loader.updateLocked] else [])
        ++ [.notice (.progress (session.transfer.accept length).percent)
          board.loader.updateLocked] := by
  unfold count
  -- The first chunk, which is told by its phase too.
  rcases (Phase.receiving_iff _).mp h with hwaiting | hreceiving
  · have hallows : session.phase.allows .receivingData = true := by
      rw [hwaiting]
      rfl
    rw [if_pos hwaiting, if_pos hwaiting, told_bind, told_enter hallows, effect_enter hallows,
      boardAfter_busy _ _ rfl]
    rfl
  · have hnot : session.phase ≠ .waitingForStart := by
      rw [hreceiving]
      exact fun h => nomatch h
    rw [if_neg hnot, if_neg hnot]
    rfl

/-- A chunk that was stored is told by its percentage. -/
theorem told_receive_of_accepted {number : UInt32} {data : List UInt8} {board : Board g}
    (expected : link.session.Expects number data)
    (written : effect (Board.programUpdateSlot link.session.transfer.receivedBytes.toNat data)
      link.board = (.ok (), board)) :
    told (receive number data) link
      = (if link.session.phase = .waitingForStart
          then [.notice (.status .receivingData none) board.loader.updateLocked] else [])
        ++ [.notice (.progress (link.session.transfer.accept data.length).percent)
          board.loader.updateLocked] := by
  rw [told_receive_of_expected expected]
  unfold store
  rw [told_bind, told_onBoard, effect_onBoard, toldAfter_ok, written, List.nil_append]
  exact told_count expected.receiving board data.length

/-! ## Checking -/

/-- The errors in which a check ends. -/
def IsCheckError (e : UpdateError) : Prop :=
  e = .flashError ∨ e = .crcMismatch ∨ e = .validationFailed

/-- A check passes in silence, or ends a session that is in flight and says so. -/
def ChecksQuietly (x : SessionAction g Unit) : Prop :=
  ∀ link : Link g, link.session.phase.busy = true →
    ((effect x link).1 = .ok () ∧ told x link = [])
      ∨ ∃ e, IsCheckError e ∧ (effect x link).1 = .error e
        ∧ told x link = [.notice (.status .failed (some e)) false]

/-- To abandon a session in flight is one of the ways in which a check may end. -/
theorem checksQuietly_abandon {message : UpdateMessage} (hmessage : message.complains = false)
    {e : UpdateError} (he : IsCheckError e) :
    ChecksQuietly (abandon message e : SessionAction g Unit) := fun link hbusy =>
  .inr ⟨e, he, abandon_fails message e link, told_abandon_of_busy hmessage hbusy e⟩

/-- A header that will do passes without a word. -/
theorem checksQuietly_checkHeader (header : Header) :
    ChecksQuietly (checkHeader header : SessionAction g Unit) := by
  intro link hbusy
  have hfails : IsCheckError .validationFailed := .inr (.inr rfl)
  unfold checkHeader
  rw [effect_bind, told_bind, effect_look, told_look, resume_ok, toldAfter_ok, List.nil_append]
  split
  · -- The shape is tested, then the size, and each of the tests ends the session by itself.
    exact checksQuietly_abandon rfl hfails link hbusy
  split
  · exact checksQuietly_abandon rfl hfails link hbusy
  · exact .inl ⟨rfl, rfl⟩

/-- A payload that will do passes without a word. -/
theorem checksQuietly_checkPayload (header : Header) :
    ChecksQuietly (checkPayload header : SessionAction g Unit) := by
  intro link hbusy
  unfold checkPayload
  rw [effect_bind, told_bind, effect_lookLoader, told_lookLoader, resume_ok, toldAfter_ok,
    List.nil_append, effect_bind, told_bind, effect_onBoard, told_onBoard, resume_ok, toldAfter_ok,
    List.nil_append]
  -- The board reports its reads to itself, so only the answer matters.
  rcases effect (Board.payloadCrc link.board.loader.updateSlot header) link.board with
    ⟨cause | calculated, board⟩
  · exact checksQuietly_abandon rfl (.inl rfl) ⟨link.session, board⟩ hbusy
  · dsimp only
    split
    · exact checksQuietly_abandon rfl (.inr (.inl rfl)) ⟨link.session, board⟩ hbusy
    · exact .inl ⟨rfl, rfl⟩

/-- The image in the update slot has passed all checks but the last one: a well-shaped header of the
declared size, and the checksum of the payload. -/
structure Examined (header : Header) (link : Link g) : Prop where
  decode_eq : Header.decode
      (link.board.flash.slice link.board.loader.layout.slotB Header.length) = header
  wellShaped : header.wellShaped = true
  length_lt : Header.length < link.session.transfer.totalSize.toNat
  size_eq : header.size = link.session.transfer.totalSize
  crc32_eq : header.crc32 = Crc32.checksum
      (link.board.flash.slice (link.board.loader.layout.slotB + Header.length)
        header.payloadLength)

/-- How an image is checked, and what is told of it. -/
inductive ValidateReport (link : Link g) :
    Except UpdateError Unit × Link g → List SessionEvent → Prop
  | refused (notValidating : link.session.phase ≠ .validating) :
      ValidateReport link (.error .invalidState, link) []
  | failed {e : UpdateError} (error : IsCheckError e) (header : Option Header) (board : Board g) :
      ValidateReport link
        (.error e, ⟨{ link.session with header }.failedWith e, board.unlocked⟩)
        [.notice (.status .failed (some e)) false]
  | vetoed (header : Header) (board : Board g) (examined : Examined header link)
      (veto : link.session.accepts header = false) :
      ValidateReport link
        (.error .validationFailed,
          ⟨{ link.session with header := some header }.failedWith .validationFailed, board.unlocked⟩)
        [.notice (.validate header) link.board.loader.updateLocked,
          .notice (.status .failed (some .validationFailed)) false]
  | completed (header : Header) (board : Board g) (examined : Examined header link)
      (accepted : link.session.accepts header = true) :
      ValidateReport link (.ok (), ⟨link.session.completed header, board.unlocked⟩)
        [.notice (.validate header) link.board.loader.updateLocked,
          .notice (.status .complete none) false, .notice (.progress 100) false]

/-- All that there is to say of a check. -/
theorem Checks.report {x : SessionAction g Unit} {condition : Link g → Prop} (hx : Checks x condition)
    (hquiet : ChecksQuietly x) (link : Link g) (hbusy : link.session.phase.busy = true) :
    ∃ board, Board.SameBytes link.board board
      ∧ ((effect x link = (.ok (), ⟨link.session, board⟩) ∧ told x link = [] ∧ condition link)
        ∨ ∃ e, IsCheckError e
          ∧ effect x link = (.error e, ⟨link.session.failedWith e, board.unlocked⟩)
          ∧ told x link = [.notice (.status .failed (some e)) false]) := by
  obtain ⟨board, hsame, ⟨hok, hcondition⟩ | ⟨e, herror⟩⟩ := hx link hbusy
  · -- Both statements are about one call, so they agree on how it ended.
    refine ⟨board, hsame, .inl ⟨hok, ?_, hcondition⟩⟩
    rcases hquiet link hbusy with ⟨_, htold⟩ | ⟨e, _, hanswer, _⟩
    · exact htold
    · rw [hok] at hanswer
      cases hanswer
  · refine ⟨board, hsame, .inr ⟨e, ?_⟩⟩
    rcases hquiet link hbusy with ⟨hanswer, _⟩ | ⟨e', he, hanswer, htold⟩
    · rw [herror] at hanswer
      cases hanswer
    · rw [herror] at hanswer
      cases hanswer
      exact ⟨he, herror, htold⟩

/-- The question is told, and the veto after it. -/
theorem told_askApplication (header : Header) (hbusy : link.session.phase.busy = true) :
    told (askApplication header) link
      = .notice (.validate header) link.board.loader.updateLocked
        :: if link.session.accepts header = true then []
          else [.notice (.status .failed (some .validationFailed)) false] := by
  unfold askApplication
  rw [told_bind, told_notify, effect_notify, toldAfter_ok, told_bind, told_look, effect_look,
    toldAfter_ok]
  -- The veto ends a session in flight, consent says nothing.
  cases link.session.accepts header with
  | true => rfl
  | false =>
    rw [Bool.not_false, if_pos rfl, told_abandon_of_busy rfl hbusy]
    rfl

/-- A session that completes tells its phase, with the lock free, and then the full percentage. -/
theorem told_conclude (header : Header) (link : Link g) (hphase : link.session.phase = .validating) :
    told (conclude header) link
      = [.notice (.status .complete none) false, .notice (.progress 100) false] := by
  have hallows : link.session.phase.allows .complete = true := by
    rw [hphase]
    rfl
  have hbusy : link.session.phase.busy = true := by
    rw [hphase]
    rfl
  unfold conclude
  rw [told_bind, told_log rfl, effect_log, toldAfter_ok, told_bind, told_enter hallows,
    effect_enter hallows, boardAfter_of_busy _ hbusy rfl]
  rfl

/-- The session that has read the header of the image. -/
def withHeader (link : Link g) (header : Header) (board : Board g) : Link g :=
  ⟨{ link.session with header := some header }, board⟩

/-- The last check of an image that has passed the others. -/
theorem examined_report {header : Header} {board : Board g} (hphase : link.session.phase = .validating)
    (hlocked : board.loader.updateLocked = link.board.loader.updateLocked)
    (examined : Examined header link) :
    ValidateReport link
      (effect (askApplication header >>= fun _ => conclude header) (link.withHeader header board))
      (told (askApplication header >>= fun _ => conclude header) (link.withHeader header board)) := by
  have hbusy : (link.withHeader header board).session.phase.busy = true := by
    show link.session.phase.busy = true
    rw [hphase]
    rfl
  have houtcome := askApplication_outcome header (link.withHeader header board)
  have htold := told_askApplication header hbusy
  rw [effect_bind, told_bind, htold]
  generalize effect (askApplication header) (link.withHeader header board) = r at houtcome ⊢
  -- The question is asked while the slot is still locked, for reading has not changed the lock.
  rw [show (link.withHeader header board).board.loader.updateLocked = _ from hlocked]
  cases houtcome with
  | vetoed veto message =>
    rw [effect_abandon_of_busy hbusy, if_neg (by rw [veto]; exact Bool.false_ne_true)]
    exact .vetoed header board examined veto
  | consented accepted =>
    have hconclude := told_conclude header (link.withHeader header board) hphase
    rw [resume_ok, toldAfter_ok, hconclude, if_pos accepted]
    unfold withHeader
    rw [effect_conclude hphase]
    exact .completed header board examined accepted

/-- Where there is nothing to check, nothing is told. -/
theorem told_validate_of_not_validating (hphase : link.session.phase ≠ .validating) :
    told validate link = [] := by
  unfold validate
  rw [told_bind, told_look, effect_look, toldAfter_ok, if_pos hphase]
  rfl

/-- A header that cannot be read is told as a failure of the flash. -/
theorem told_validate_of_unread (hphase : link.session.phase = .validating) {cause : BootError}
    {board : Board g} (read : effect (Board.readHeader link.board.loader.layout.slotB) link.board
      = (.error cause, board)) :
    told validate link = [.notice (.status .failed (some .flashError)) false] := by
  have hbusy : (⟨link.session, board⟩ : Link g).session.phase.busy = true := by
    show link.session.phase.busy = true
    rw [hphase]
    rfl
  unfold validate
  rw [told_bind, told_look, effect_look, toldAfter_ok, if_neg (not_not_intro hphase), told_bind,
    told_lookLoader, effect_lookLoader, toldAfter_ok, told_bind, told_onBoard, effect_onBoard,
    toldAfter_ok, Loader.updateSlot, read]
  dsimp only
  rw [told_abandon_of_busy rfl hbusy]
  rfl

/-- A header that was read leads to the checks. -/
theorem told_validate_of_read (hphase : link.session.phase = .validating) {header : Header}
    {board : Board g} (read : effect (Board.readHeader link.board.loader.layout.slotB) link.board
      = (.ok header, board)) :
    told validate link = told (examine header) (link.withHeader header board) := by
  unfold validate
  rw [told_bind, told_look, effect_look, toldAfter_ok, if_neg (not_not_intro hphase), told_bind,
    told_lookLoader, effect_lookLoader, toldAfter_ok, told_bind, told_onBoard, effect_onBoard,
    toldAfter_ok, Loader.updateSlot, read]
  rfl

/-- Every validation ends in one of the four ways, told as they are. -/
theorem validate_report (link : Link g) :
    ValidateReport link (effect validate link) (told validate link) := by
  by_cases hphase : link.session.phase = .validating
  case neg =>
    rw [effect_validate_of_not_validating hphase, told_validate_of_not_validating hphase]
    exact .refused hphase
  -- From here on the session holds the lock, and a failure gives it back.
  have hbusy : link.session.phase.busy = true := by
    rw [hphase]
    rfl
  have hinspects : Board.Inspects (fun _ => False)
      (Board.readHeader link.board.loader.layout.slotB : BoardAction g Header) :=
    Board.inspects_readHeader _
  have hsame := hinspects.sameBytes link.board
  rcases hread : effect (Board.readHeader link.board.loader.layout.slotB) link.board with
    ⟨cause | header, board⟩
  · rw [effect_validate_of_unread hphase hread, told_validate_of_unread hphase hread,
      effect_abandon_of_busy]
    · exact .failed (.inl rfl) link.session.header board
    · exact hbusy
  rw [hread] at hsame
  obtain ⟨_, _, hdecode, _⟩ := Board.readHeader_answers hread
  rw [effect_validate_of_read hphase hread, told_validate_of_read hphase hread]
  show ValidateReport link (effect (examine header) (link.withHeader header board)) _
  -- The checks come one after the other, each on a board that was only read.
  unfold examine
  obtain ⟨board₁, hsame₁, ⟨hok, htold, hshape, hlength, hsize⟩ | ⟨e, he, herror, htold⟩⟩ :=
    (checks_checkHeader header).report (checksQuietly_checkHeader header)
      (link.withHeader header board) hbusy
  case inr =>
    rw [effect_bind, told_bind, herror, htold]
    exact .failed he (some header) board₁
  rw [effect_bind, told_bind, hok, htold, resume_ok, toldAfter_ok, List.nil_append]
  obtain ⟨board₂, hsame₂, ⟨hok, htold, _, hcrc⟩ | ⟨e, he, herror, htold⟩⟩ :=
    (checks_checkPayload header).report (checksQuietly_checkPayload header)
      (link.withHeader header board₁) hbusy
  case inr =>
    show ValidateReport link (effect _ (link.withHeader header board₁))
      (told _ (link.withHeader header board₁))
    rw [effect_bind, told_bind, herror, htold]
    exact .failed he (some header) board₂
  show ValidateReport link (effect _ (link.withHeader header board₁))
    (told _ (link.withHeader header board₁))
  rw [effect_bind, told_bind, hok, htold, resume_ok, toldAfter_ok, List.nil_append]
  have hread₁ : Board.SameBytes link.board board₁ := hsame.trans hsame₁
  have hread₂ : Board.SameBytes link.board board₂ := hread₁.trans hsame₂
  -- The checks have only read, so what they found of the bytes is true of the board at the start.
  refine examined_report hphase (congrArg Loader.updateLocked hread₂.loader_eq) ?_
  exact
    { decode_eq := hdecode
      wellShaped := hshape
      length_lt := hlength
      size_eq := hsize
      crc32_eq := by
        rw [← hread₁.slice_eq, ← hread₁.loader_eq]
        exact hcrc }

/-- A transfer with all its bytes is checked, and the application hears of it before. -/
theorem told_finalize (hphase : link.session.phase = .receivingData)
    (hall : link.session.transfer.receivedBytes = link.session.transfer.totalSize) :
    told finalize link
      = [.notice (.status .validating none) link.board.loader.updateLocked,
          .notice (.progress 95) link.board.loader.updateLocked]
        ++ told validate link.checking := by
  have hallows : link.session.phase.allows .validating = true := by
    rw [hphase]
    rfl
  rcases finalize_cases link with ⟨notReady, _⟩ | ⟨_, _, heq⟩
  · exact absurd ⟨hphase, hall⟩ notReady
  rw [told_congr heq]
  unfold check
  rw [told_bind, told_log rfl, effect_log, toldAfter_ok, told_bind, told_enter hallows,
    effect_enter hallows, boardAfter_busy _ _ rfl]
  rfl

/-! ## Applying and ending -/

/-- An image is handed over with the word of it before, and of how it went after. -/
theorem told_apply (hphase : link.session.phase = .complete) :
    told apply link
      = [.notice (.status .updating none) link.board.loader.updateLocked,
          match (effect takeOver link.board).1 with
          | .error cause => .notice (.status .failed (some (.ofBoot cause))) false
          | .ok () => .notice (.status .complete none) false] := by
  have hallows : link.session.phase.allows .updating = true := by
    rw [hphase]
    rfl
  rcases apply_cases link with ⟨hnot, _⟩ | ⟨_, heq⟩
  · exact absurd hphase hnot
  rw [told_congr heq]
  unfold handOver
  rw [told_bind, told_log rfl, effect_log, toldAfter_ok, told_bind, told_enter hallows,
    effect_enter hallows, boardAfter_busy _ _ rfl, toldAfter_ok, told_bind, told_onBoard, effect_onBoard,
    toldAfter_ok]
  -- Either way the session leaves `updating`, and the slot is free when it says so.
  rcases effect takeOver link.board with ⟨cause | _, board⟩
  · dsimp only
    rw [told_bind, told_log rfl, effect_log, toldAfter_ok, told_bind, told_enter, effect_enter,
      boardAfter_of_busy]
    · rfl
    · rfl
    · rfl
    · rfl
    · rfl
  · dsimp only
    rw [told_bind, told_change, effect_change, toldAfter_ok, told_bind, told_enter, effect_enter,
      boardAfter_of_busy, toldAfter_ok, told_log rfl]
    · rfl
    · rfl
    · rfl
    · rfl
    · rfl

/-- An abort is told as a failure of the communication. -/
theorem told_abort (h : link.session.phase.terminal = false) :
    told abort link
      = [.notice (.status .failed (some .communication))
          (boardAfter link.board link.session.phase .failed).loader.updateLocked] := by
  rcases abort_cases link with ⟨hover, _⟩ | ⟨_, heq⟩
  · cases hover.symm.trans h
  rw [told_congr heq]
  unfold retire
  rw [told_bind, told_log rfl, effect_log, toldAfter_ok, told_bind, told_change, effect_change,
    toldAfter_ok, told_giveUp]
  · rfl
  · exact Phase.allows_failed_of_not_terminal h

/-- A poll tells nothing, also when the time is over. -/
theorem told_poll (elapsed : UInt32) (link : Link g) : told (poll elapsed) link = [] := by
  unfold poll
  rw [told_bind, told_look, effect_look, toldAfter_ok]
  split
  · rfl
  rw [told_bind, told_look, effect_look, toldAfter_ok, told_bind, told_change, effect_change,
    toldAfter_ok, told_bind, told_look, effect_look, toldAfter_ok]
  split
  · rw [told_refuse rfl]
    rfl
  · rfl

end Link

end DualSlot
