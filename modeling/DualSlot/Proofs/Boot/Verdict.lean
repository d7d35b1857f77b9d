import DualSlot.Proofs.Boot.Outcome
import DualSlot.Proofs.Firmware.Version
import DualSlot.Proofs.Flash.Alignment
import DualSlot.Proofs.TwoRuns

/-!
# The decision of a boot

Without planned faults a boot is a function of the verdicts on the two slots, the lock and the version of
the active image. `Board.decision` says what it decides, `BootDecision.outcome` what comes of that, down
to the last error, and `Board.boot_decides` that the boot does just this. Where reads are longer than a
byte this is so but for the two words that are handed over (`Board.boot_lands`).

| decision          | when                                                     | what runs     |
|-------------------|----------------------------------------------------------|---------------|
| `take header`     | the update slot is free and holds a valid, newer image   | the update    |
| `stay`            | otherwise, if the active image is valid                  | what did      |
| `fallBack header` | otherwise, if slot A is not active and holds a valid one | slot A        |
| `stop`            | otherwise                                                | nothing       |

The boot looks at a slot up to three times. It finds the same each time (`Board.verdict_eq`), for a
verdict depends on the flash only, and nothing that a boot does changes the flash.
-/

namespace DualSlot

/-- What a boot decides. -/
inductive BootDecision where
  /-- Switch to the update, which has this header. -/
  | take (header : Header)
  /-- Run what is active. -/
  | stay
  /-- Give up what is active for the image in slot A, which has this header. -/
  | fallBack (header : Header)
  /-- Run nothing. -/
  | stop
  deriving DecidableEq

namespace Board

open DualSlot.Action

variable {g : Geometry} {board : Board g} {slot : Slot} {header : Header} {e : BootError}
  {stage : BootStage} {lastError : Option BootError} {context : BootContext}

/-! ## Notes in the loader -/

/-- The board with another stage, last error and context. -/
def noting (board : Board g) (stage : BootStage) (lastError : Option BootError)
    (context : BootContext) : Board g :=
  ⟨board.flash, { board.loader with stage, lastError, context }⟩

@[simp] theorem context_noting : (board.noting stage lastError context).loader.context = context := rfl

@[simp] theorem noting_noting (stage' : BootStage) (lastError' : Option BootError)
    (context' : BootContext) :
    (board.noting stage lastError context).noting stage' lastError' context'
      = board.noting stage' lastError' context' := rfl

/-! ## Verdicts -/

/-- What the check of a slot answers. -/
def verdict (board : Board g) (slot : Slot) : Except BootError Header :=
  (effect (validate (board.loader.layout.offset slot)) board).1

/-- A verdict that names a header speaks of an image that is there. -/
theorem holdsImage_of_verdict (h : board.verdict slot = .ok header) :
    board.flash.HoldsImage (board.loader.layout.offset slot) header :=
  holdsImage_of_validate h

/-- The check of a slot never looks at the loader. -/
theorem respects_validate_of_flash (slot : Nat) :
    Respects (fun board board' : Board g => board'.flash = board.flash) (fun _ => False)
      (validate slot : BoardAction g Header) := by
  -- Each step of the check reads the flash or tests what was read, and nothing asks the loader.
  have honFlash : ∀ {ε ε' α : Type} (wrap : ε → ε') (x : Action FlashMessage (Flash g) ε α),
      Respects (fun board board' : Board g => board'.flash = board.flash) (fun _ => False)
        (onFlash wrap x) := by
    intro ε ε' α wrap x
    refine ⟨fun _ h => h, ?_⟩
    rintro ⟨flash, loader⟩ ⟨flash', loader'⟩ rfl _
    exact ⟨rfl, rfl, rfl⟩
  unfold validate readHeader payloadCrc
  refine (respects_require _ _).bind fun _ => ?_
  refine ((honFlash _ _).bind fun _ => respects_pure _).bind fun header => ?_
  refine .ite ((respects_say _).bind fun _ => respects_fail _) ?_
  refine .ite ((respects_say _).bind fun _ => respects_fail _) ?_
  refine ((respects_require _ _).bind fun _ => honFlash _ _).bind fun calculated => ?_
  refine .ite ((respects_say _).bind fun _ => respects_fail _) ?_
  exact (respects_say _).bind fun _ => respects_pure _

/-- Whatever the loader notes, the verdicts stay. -/
@[simp] theorem verdict_noting :
    (board.noting stage lastError context).verdict slot = board.verdict slot :=
  ((respects_validate_of_flash _).same board (board.noting stage lastError context) rfl
    not_false).result_eq

/-- A call goes on with the verdict on a slot, and the check has changed nothing. -/
theorem effect_verdict {α : Type} (hmuted : board.flash.readPlan = none) (slot : Slot)
    (f : Except BootError Header → BoardAction g α) :
    effect ((validate (board.loader.layout.offset slot)).attempt >>= f) board
      = effect (f (board.verdict slot)) board := by
  rw [effect_bind, effect_attempt, resume_ok, validate_board hmuted]
  rfl

/-! ## Looking for an update -/

/-- A locked update slot is no place to look for an update. Only the last error is noted. -/
theorem effect_checkUpdate_of_locked (hlocked : board.loader.updateLocked = true) :
    effect checkUpdate board
      = (.error .updateInProgress,
          board.noting board.loader.stage (some .updateInProgress) board.loader.context) := by
  simp [checkUpdate, hlocked, noting]

/-- An update that is not valid is forgotten: nothing is pending any more. -/
theorem effect_checkUpdate_of_error (hmuted : board.flash.readPlan = none)
    (hfree : board.loader.updateLocked = false) (h : board.verdict .b = .error e) :
    effect checkUpdate board
      = (.error e, board.noting .checkUpdate (some e) board.loader.context.cleared) := by
  -- The stage is noted first, and the verdict is given on the board with this note.
  let checking := board.noting .checkUpdate board.loader.lastError board.loader.context
  have hstill : checking.flash.readPlan = none := hmuted
  unfold checkUpdate
  rw [effect_bind, effect_look, resume_ok, hfree, if_neg Bool.false_ne_true, effect_bind,
    effect_report, resume_ok, effect_bind, effect_enter, resume_ok, effect_bind, effect_look, resume_ok]
  refine (effect_verdict hstill .b _).trans ?_
  rw [verdict_noting, h]
  rfl

/-- A valid update is compared with the active image, and is pending if it is newer. -/
theorem effect_checkUpdate_of_ok (hmuted : board.flash.readPlan = none)
    (hfree : board.loader.updateLocked = false) (h : board.verdict .b = .ok header) :
    effect checkUpdate board
      = (.ok (if header.version.newerThan board.loader.context.activeHeader.version
          then .newer header.version else .notNewer),
          board.noting .checkUpdate board.loader.lastError
            (board.loader.context.offered header)) := by
  let checking := board.noting .checkUpdate board.loader.lastError board.loader.context
  have hstill : checking.flash.readPlan = none := hmuted
  unfold checkUpdate
  rw [effect_bind, effect_look, resume_ok, hfree, if_neg Bool.false_ne_true, effect_bind,
    effect_report, resume_ok, effect_bind, effect_enter, resume_ok, effect_bind, effect_look, resume_ok]
  refine (effect_verdict hstill .b _).trans ?_
  rw [verdict_noting, h]
  unfold BootContext.offered
  -- Newer or not: both ways the context is the one that is offered.
  cases hnewer : header.version.newerThan board.loader.context.activeHeader.version <;>
    simp [hnewer, checking, noting, Except.map]

/-- A pending update that is valid is switched to. -/
theorem effect_switchToUpdate_of_ok (hmuted : board.flash.readPlan = none)
    (hfree : board.loader.updateLocked = false) (hpending : board.loader.context.updatePending = true)
    (h : board.verdict .b = .ok header) :
    effect switchToUpdate board
      = (.ok (),
          board.noting .updateInProgress board.loader.lastError
            (board.loader.context.switchedTo header)) := by
  let switching := board.noting .updateInProgress board.loader.lastError board.loader.context
  have hstill : switching.flash.readPlan = none := hmuted
  unfold switchToUpdate
  rw [effect_bind, effect_look, resume_ok, hfree, if_neg Bool.false_ne_true, effect_bind, effect_look,
    resume_ok, hpending, Bool.not_true, if_neg Bool.false_ne_true, effect_bind, effect_report,
    resume_ok, effect_bind, effect_enter, resume_ok, effect_bind, effect_look, resume_ok]
  refine (effect_verdict hstill .b _).trans ?_
  rw [verdict_noting, h]
  rfl

/-- The header of a valid update that is newer than the active image, unless the update slot is
locked. -/
def update? (board : Board g) : Option Header :=
  if board.loader.updateLocked then none
  else
    match board.verdict .b with
    | .ok header =>
      if header.version.newerThan board.loader.context.activeHeader.version then some header else none
    | .error _ => none

/-- There is an update just if the slot is free and what it holds is valid and newer. -/
theorem update?_eq_some_iff :
    board.update? = some header ↔ board.loader.updateLocked = false ∧ board.verdict .b = .ok header
      ∧ header.version.newerThan board.loader.context.activeHeader.version = true := by
  unfold update?
  cases board.loader.updateLocked with
  | true => simp
  | false =>
    cases board.verdict .b with
    | error e => simp
    | ok found =>
      -- Of a valid image only a newer one counts, and the header is the one that was found.
      cases hnewer : found.version.newerThan board.loader.context.activeHeader.version <;>
        simp [hnewer]
      · rintro rfl
        exact hnewer
      · rintro rfl
        exact hnewer

/-- The last error when an update was looked for in vain. -/
def missedError (board : Board g) : Option BootError :=
  if board.loader.updateLocked then some .updateInProgress
  else
    match board.verdict .b with
    | .ok _ => board.loader.lastError
    | .error e => some e

/-- The context when an update was looked for in vain. -/
def missedContext (board : Board g) : BootContext :=
  if board.loader.updateLocked then board.loader.context
  else
    match board.verdict .b with
    | .ok header => board.loader.context.offered header
    | .error _ => board.loader.context.cleared

/-- To look in vain does not move the device to another slot. -/
theorem active_missedContext (board : Board g) :
    board.missedContext.active = board.loader.context.active := by
  unfold missedContext
  split
  · rfl
  · cases board.verdict .b <;> rfl

/-- An update is found and switched to: the verdict on it is the same the second time. -/
theorem effect_takeUpdate_of_some (hmuted : board.flash.readPlan = none)
    (h : board.update? = some header) :
    effect takeUpdate board
      = (.ok (),
          board.noting .updateInProgress board.loader.lastError
            (board.loader.context.switchedTo header)) := by
  obtain ⟨hfree, hverdict, hnewer⟩ := update?_eq_some_iff.mp h
  -- The board between the two calls, on which the update is pending.
  let found := board.noting .checkUpdate board.loader.lastError (board.loader.context.offered header)
  have hswitch : effect switchToUpdate found
      = (.ok (), found.noting .updateInProgress found.loader.lastError
          (found.loader.context.switchedTo header)) :=
    effect_switchToUpdate_of_ok hmuted hfree hnewer (verdict_noting.trans hverdict)
  unfold takeUpdate
  rw [effect_bind, effect_attempt, resume_ok, effect_checkUpdate_of_ok hmuted hfree hverdict,
    if_pos hnewer]
  dsimp only
  rw [effect_bind, effect_attempt, resume_ok, hswitch]
  rfl

/-- Where no update is found the boot goes on, with the notes that the search has left. -/
theorem effect_takeUpdate_of_none (hmuted : board.flash.readPlan = none) (h : board.update? = none) :
    ∃ stage, effect takeUpdate board
      = (.ok (), board.noting stage board.missedError board.missedContext) := by
  unfold takeUpdate missedError missedContext
  rw [effect_bind, effect_attempt, resume_ok]
  cases hlocked : board.loader.updateLocked with
  | true =>
    rw [effect_checkUpdate_of_locked hlocked]
    exact ⟨board.loader.stage, rfl⟩
  | false =>
    refine ⟨.checkUpdate, ?_⟩
    cases hverdict : board.verdict .b with
    | error e =>
      rw [effect_checkUpdate_of_error hmuted hlocked hverdict]
      rfl
    | ok header =>
      -- The slot is free and the image valid, so it can only be too old.
      have hnot : header.version.newerThan board.loader.context.activeHeader.version = false := by
        simpa [update?, hlocked, hverdict] using h
      rw [effect_checkUpdate_of_ok hmuted hlocked hverdict, hnot]
      rfl

/-! ## Jumping -/

/-- The word at an offset, as it stands in the flash. -/
def wordAt (board : Board g) (offset : Nat) : UInt32 := LittleEndian.word (board.flash.slice offset 4)

/-- Where the application in a slot starts. -/
def entry (board : Board g) (slot : Slot) : AppEntry where
  slot := board.loader.layout.offset slot
  stackPointer := board.wordAt (board.loader.layout.offset slot)
  programCounter := board.wordAt (board.loader.layout.offset slot + 4)

/-- What a jump to the active slot hands over: the first two words there, as they are read. -/
def landing (board : Board g) : AppEntry where
  slot := board.loader.activeSlot
  stackPointer := board.flash.fetch board.loader.activeSlot
  programCounter := board.flash.fetch (board.loader.activeSlot + 4)

/-- A valid image has room for more than its two first words. Where bytes are read these are what is
stored. -/
theorem landing_noting (hbytes : g.readSize = 1) (hactive : context.active = slot)
    (h : board.verdict slot = .ok header) :
    (board.noting stage lastError context).landing = board.entry slot := by
  -- Both words lie in the header, which a valid image has room for.
  have hlength := (holdsImage_of_verdict h).length_lt
  have hroom := (holdsImage_of_verdict h).le_capacity
  rw [Header.length] at hlength
  -- Reads of single bytes are aligned everywhere.
  have hfetch : ∀ offset, offset + 4 ≤ g.capacity → board.flash.fetch offset = board.wordAt offset := by
    intro offset hfit
    exact Flash.fetch_of_ok
      (Geometry.checkRead_of_aligned hfit (hbytes ▸ Nat.one_dvd _) (hbytes ▸ Nat.one_dvd _))
  have hslot : (board.noting stage lastError context).loader.activeSlot
      = board.loader.layout.offset slot := by
    rw [← hactive]
    rfl
  unfold landing entry
  rw [hslot, ← hfetch _ (by omega), ← hfetch _ (by omega)]
  rfl

/-- A jump to the active slot reads the two words and hands them over. -/
theorem effect_jump (hmuted : board.flash.readPlan = none) :
    effect (look (·.activeSlot) >>= jump) board
      = (.ok board.landing, board.noting .jumpToApp board.loader.lastError board.loader.context) := by
  -- The active slot is a slot, so the jump is not refused.
  have hsome : ¬ (board.loader.layout.slotAt? board.loader.activeSlot).isNone = true := by
    rw [Option.isNone_iff_eq_none]
    exact slotAt?_activeSlot_ne_none board.loader
  have hword : ∀ offset, effect (onFlash id (Flash.readWord offset) : BoardAction g UInt32) board
      = (.ok (board.flash.fetch offset), board) := by
    intro offset
    rw [effect_onFlash, Flash.effect_readWord_of_muted hmuted]
    rfl
  unfold jump
  rw [effect_bind, effect_look, resume_ok, effect_bind, effect_look, resume_ok, if_neg hsome,
    effect_bind, hword, resume_ok, effect_bind, hword, resume_ok]
  rfl

/-! ## Falling back -/

/-- Slot A is the last resort: without a valid image there the device has failed. -/
theorem effect_rollback_of_error (hmuted : board.flash.readPlan = none)
    (h : board.verdict .a = .error e) :
    effect rollback board
      = (.error .rollbackFailed,
          board.noting .failed (some .rollbackFailed) board.loader.context) := by
  unfold rollback
  rw [effect_bind, effect_report, resume_ok, effect_bind, effect_look, resume_ok]
  refine (effect_verdict hmuted .a _).trans ?_
  rw [h]
  rfl

/-! ## Booting -/

/-- What a boot does without planned faults. -/
def decision (board : Board g) : BootDecision :=
  match board.update? with
  | some header => .take header
  | none =>
    match board.verdict board.loader.context.active with
    | .ok _ => .stay
    | .error _ =>
      match board.loader.context.active, board.verdict .a with
      | .b, .ok header => .fallBack header
      | _, _ => .stop

/-- What is behind each decision. -/
inductive Decides (board : Board g) : BootDecision → Prop where
  | take {header : Header} (found : board.update? = some header) : Decides board (.take header)
  | stay {header : Header} (missed : board.update? = none)
      (valid : board.verdict board.loader.context.active = .ok header) : Decides board .stay
  | fallBack {header : Header} {e : BootError} (missed : board.update? = none)
      (active : board.loader.context.active = .b) (invalid : board.verdict .b = .error e)
      (valid : board.verdict .a = .ok header) : Decides board (.fallBack header)
  | stop {e e' : BootError} (missed : board.update? = none)
      (invalid : board.verdict board.loader.context.active = .error e)
      (lost : board.verdict .a = .error e') : Decides board .stop

/-- The decision is made for the reasons that it says. -/
theorem decides_decision (board : Board g) : board.Decides board.decision := by
  unfold decision
  -- The search for an update, the active image and slot A are asked in this order.
  cases hupdate : board.update? with
  | some header => exact .take hupdate
  | none =>
    cases hverdict : board.verdict board.loader.context.active with
    | ok header => exact .stay hupdate hverdict
    | error e =>
      cases hslot : board.loader.context.active with
      -- Slot A is active, so there is nothing to fall back to.
      | a =>
        rw [hslot] at hverdict
        exact .stop hupdate (hslot ▸ hverdict) hverdict
      | b =>
        cases ha : board.verdict .a with
        | ok header => exact .fallBack hupdate hslot (hslot ▸ hverdict) ha
        | error e' => exact .stop hupdate hverdict ha

end Board

namespace BootDecision

variable {g : Geometry}

/-- What comes of a decision: the answer of the boot, and the board after it. -/
def outcome (board : Board g) : BootDecision → Except BootError AppEntry × Board g
  | take header =>
    (.ok (board.entry .b),
      board.noting .jumpToApp board.loader.lastError (board.loader.context.switchedTo header))
  | stay =>
    (.ok (board.entry board.loader.context.active),
      board.noting .jumpToApp board.missedError board.missedContext)
  | fallBack header =>
    (.ok (board.entry .a),
      board.noting .jumpToApp board.missedError (board.missedContext.rolledBackTo header))
  | stop =>
    match board.loader.context.active with
    | .a => (.error .noApp, board.noting .failed (some .noApp) board.missedContext)
    | .b => (.error .rollbackFailed, board.noting .failed (some .rollbackFailed) board.missedContext)

end BootDecision

namespace Board

open DualSlot.Action

variable {g : Geometry} {board : Board g} {header : Header} {e : BootError}

/-- A boot goes on with what is active, if that is valid. -/
theorem effect_bootActive_of_ok (hmuted : board.flash.readPlan = none)
    (h : board.verdict board.loader.context.active = .ok header) :
    effect bootActive board
      = (.ok board.landing,
          board.noting .jumpToApp board.loader.lastError board.loader.context) := by
  unfold bootActive
  rw [effect_bind, effect_look, resume_ok, effect_bind, effect_look, resume_ok]
  refine (effect_verdict hmuted board.loader.context.active _).trans ?_
  rw [h]
  exact effect_jump hmuted

/-- Slot A is active and not valid: there is no application. -/
theorem effect_bootActive_of_error_a (hmuted : board.flash.readPlan = none)
    (hactive : board.loader.context.active = .a)
    (h : board.verdict board.loader.context.active = .error e) :
    effect bootActive board
      = (.error .noApp, board.noting .failed (some .noApp) board.loader.context) := by
  unfold bootActive
  rw [effect_bind, effect_look, resume_ok, effect_bind, effect_look, resume_ok]
  refine (effect_verdict hmuted board.loader.context.active _).trans ?_
  rw [h, hactive]
  rfl

/-- Slot A takes the place of an update that is not valid. -/
theorem effect_bootActive_of_fallBack (hmuted : board.flash.readPlan = none)
    (hactive : board.loader.context.active = .b)
    (h : board.verdict board.loader.context.active = .error e) (ha : board.verdict .a = .ok header)
    {after : Board g}
    (hafter : after = board.noting .jumpToApp board.loader.lastError
      (board.loader.context.rolledBackTo header)) :
    effect bootActive board = (.ok after.landing, after) := by
  -- The board after the rollback, from which the jump is made.
  let fallen := board.noting board.loader.stage board.loader.lastError
    (board.loader.context.rolledBackTo header)
  have hholds : board.flash.HoldsImage (board.loader.layout.offset .a) header :=
    holdsImage_of_verdict ha
  have hrollback : effect rollback board = (.ok (), fallen) := effect_rollback hmuted hholds
  have hstill : fallen.flash.readPlan = none := hmuted
  unfold bootActive
  rw [effect_bind, effect_look, resume_ok, effect_bind, effect_look, resume_ok]
  refine (effect_verdict hmuted board.loader.context.active _).trans ?_
  rw [h, hactive]
  dsimp only
  rw [if_neg Slot.noConfusion, effect_bind, effect_report, resume_ok, effect_bind, hrollback,
    resume_ok, hafter]
  exact effect_jump hstill

/-- Slot B is active, and neither image is valid. -/
theorem effect_bootActive_of_error_b (hmuted : board.flash.readPlan = none)
    (hactive : board.loader.context.active = .b)
    (h : board.verdict board.loader.context.active = .error e) {e' : BootError}
    (ha : board.verdict .a = .error e') :
    effect bootActive board
      = (.error .rollbackFailed,
          board.noting .failed (some .rollbackFailed) board.loader.context) := by
  unfold bootActive
  rw [effect_bind, effect_look, resume_ok, effect_bind, effect_look, resume_ok]
  refine (effect_verdict hmuted board.loader.context.active _).trans ?_
  rw [h, hactive]
  dsimp only
  rw [if_neg Slot.noConfusion, effect_bind, effect_report, resume_ok, effect_bind,
    effect_rollback_of_error hmuted ha]
  rfl

/-- An update that is found is switched to before the active image is checked. -/
theorem effect_boot_of_some (hmuted : board.flash.readPlan = none) (h : board.update? = some header) :
    effect boot board
      = effect bootActive (board.noting .validateApp board.loader.lastError
          (board.loader.context.switchedTo header)) := by
  rw [boot_eq, effect_bind, effect_takeUpdate_of_some hmuted h, resume_ok, effect_bind, effect_enter,
    resume_ok]
  rfl

/-- Without an update the active image is checked next, on a board with the notes of the search. -/
theorem effect_boot_of_none (hmuted : board.flash.readPlan = none) (h : board.update? = none) :
    effect boot board
      = effect bootActive (board.noting .validateApp board.missedError board.missedContext) := by
  obtain ⟨stage, htake⟩ := effect_takeUpdate_of_none hmuted h
  rw [boot_eq, effect_bind, htake, resume_ok, effect_bind, effect_enter, resume_ok]
  rfl

/-- Without planned faults a boot does what it decides on, once, from the verdicts on the two slots. An
application that is started is entered where the board lands. -/
theorem boot_lands (hmuted : board.flash.readPlan = none) :
    effect boot board
      = ((board.decision.outcome board).1.map fun _ => (board.decision.outcome board).2.landing,
          (board.decision.outcome board).2) := by
  have hdecides := board.decides_decision
  generalize board.decision = decision at hdecides ⊢
  -- The verdicts are the same whatever was noted in the meantime.
  let looked := board.noting .validateApp board.missedError board.missedContext
  have hstill : looked.flash.readPlan = none := hmuted
  have hactive : looked.loader.context.active = board.loader.context.active :=
    active_missedContext board
  have hverdicts : ∀ slot, looked.verdict slot = board.verdict slot := fun _ => verdict_noting
  cases hdecides with
  | @take header hupdate =>
    obtain ⟨_, hverdict, _⟩ := update?_eq_some_iff.mp hupdate
    rw [effect_boot_of_some hmuted hupdate]
    exact effect_bootActive_of_ok hmuted (verdict_noting.trans hverdict)
  | @stay header hmissed hvalid =>
    -- The active image is checked a second time, and found valid again.
    have hgood : looked.verdict looked.loader.context.active = .ok header := by
      rw [hactive, hverdicts, hvalid]
    rw [effect_boot_of_none hmuted hmissed]
    exact effect_bootActive_of_ok hstill hgood
  | @fallBack header e hmissed hslot hinvalid hvalid =>
    -- The update is active, and found invalid again.
    have hbad : looked.verdict looked.loader.context.active = .error e := by
      rw [hactive, hverdicts, hslot, hinvalid]
    rw [effect_boot_of_none hmuted hmissed]
    exact effect_bootActive_of_fallBack hstill (hactive.trans hslot) hbad
      ((hverdicts .a).trans hvalid) rfl
  | @stop e e' hmissed hinvalid hlost =>
    -- What is active is not valid, and slot A is asked only if it is not the active one.
    have hbad : looked.verdict looked.loader.context.active = .error e := by
      rw [hactive, hverdicts, hinvalid]
    rw [effect_boot_of_none hmuted hmissed]
    show effect bootActive looked = _
    unfold BootDecision.outcome
    cases hslot : board.loader.context.active with
    | a => exact effect_bootActive_of_error_a hstill (hactive.trans hslot) hbad
    | b =>
      exact effect_bootActive_of_error_b hstill (hactive.trans hslot) hbad
        ((hverdicts .a).trans hlost)

/-- Where bytes are read the board lands on the first two words of the image. -/
theorem boot_decides (hmuted : board.flash.readPlan = none) (hbytes : g.readSize = 1) :
    effect boot board = board.decision.outcome board := by
  -- The boards agree already, so only the entry is left to be compared.
  have hdecides := board.decides_decision
  rw [boot_lands hmuted]
  generalize board.decision = decision at hdecides ⊢
  refine Prod.ext ?_ rfl
  cases hdecides with
  | take hupdate =>
    -- Each of the entries belongs to a slot with a valid image, which holds both words.
    obtain ⟨_, hverdict, _⟩ := update?_eq_some_iff.mp hupdate
    exact congrArg Except.ok (landing_noting hbytes rfl hverdict)
  | stay _ hvalid =>
    exact congrArg Except.ok (landing_noting hbytes (active_missedContext board) hvalid)
  | fallBack _ _ _ hvalid => exact congrArg Except.ok (landing_noting hbytes rfl hvalid)
  | stop =>
    unfold BootDecision.outcome
    cases board.loader.context.active <;> rfl

/-! ## The image that runs -/

/-- A word looks the same in whatever longer region it is read from. -/
theorem word_slice (flash : Flash g) {offset length : Nat} (hlength : 4 ≤ length)
    (hroom : offset + length ≤ g.capacity) :
    LittleEndian.word (flash.slice offset length) = LittleEndian.word (flash.slice offset 4) := by
  have hfour : (flash.slice offset 4).length = 4 := Flash.length_slice flash offset 4 (by omega)
  have hsplit := Flash.slice_append flash offset 4 (length - 4) (by omega)
  rw [Nat.add_sub_cancel' hlength] at hsplit
  unfold LittleEndian.word
  rw [hsplit, List.take_left' hfour, List.take_of_length_le (Nat.le_of_eq hfour)]

/-- The words that a boot hands over are the first two of the header. -/
theorem entry_of_holdsImage {slot : Slot}
    (h : board.flash.HoldsImage (board.loader.layout.offset slot) header) :
    board.entry slot = ⟨board.loader.layout.offset slot, firmwareMagic, header.version.major⟩ := by
  have hlength := h.length_lt
  have hroom := h.le_capacity
  -- The first four bytes of the header are the magic number, the next four the major version.
  have hsplit := Flash.slice_append board.flash (board.loader.layout.offset slot) 4 76
  rw [Header.length] at hlength
  have hmagic : board.wordAt (board.loader.layout.offset slot) = header.magic := by
    rw [← h.decode_eq]
    exact (word_slice board.flash (by decide) (by rw [Header.length]; omega)).symm
  have hmajor : board.wordAt (board.loader.layout.offset slot + 4) = header.version.major := by
    have hfour : (board.flash.slice (board.loader.layout.offset slot) 4).length = 4 :=
      Flash.length_slice board.flash _ 4 (by omega)
    rw [← h.decode_eq]
    show _ = LittleEndian.word ((board.flash.slice (board.loader.layout.offset slot) (4 + 76)).drop 4)
    rw [hsplit (by omega), List.drop_left' hfour]
    exact (word_slice board.flash (by decide) (by omega)).symm
  rw [entry, hmagic, hmajor, h.magic_eq]

/-- Without planned faults an update that is active and valid is booted again and again: it is not newer
than itself. -/
theorem boot_of_active_b (hmuted : board.flash.readPlan = none) (hbytes : g.readSize = 1)
    (hfree : board.loader.updateLocked = false) (hactive : board.loader.context.active = .b)
    (hheader : board.loader.context.activeHeader = header)
    (hholds : board.flash.HoldsImage board.loader.layout.slotB header) :
    ∃ after, effect boot board
        = (.ok ⟨board.loader.layout.slotB, firmwareMagic, header.version.major⟩, after)
      ∧ board.Noted (board.loader.context.offered header) after := by
  have hverdict : board.verdict .b = .ok header :=
    congrArg Prod.fst (effect_validate_of_holdsImage hmuted hholds)
  -- No version is newer than itself, so the running update is not taken again.
  have hnone : board.update? = none := by
    cases hupdate : board.update? with
    | none => rfl
    | some found =>
      obtain ⟨_, hfound, hnewer⟩ := update?_eq_some_iff.mp hupdate
      rw [hverdict] at hfound
      rw [← Except.ok.inj hfound, hheader, Version.not_newerThan_self] at hnewer
      cases hnewer
  -- The active image is valid, so the boot stays.
  have hstay : board.decision = .stay := by
    rw [decision, hnone]
    dsimp only
    rw [hactive, hverdict]
  have hmissed : board.missedContext = board.loader.context.offered header := by
    rw [missedContext, hfree, hverdict]
    rfl
  have hentry : board.entry .b = ⟨board.loader.layout.slotB, firmwareMagic, header.version.major⟩ :=
    entry_of_holdsImage hholds
  have hactive' : board.missedContext.active = .b := (active_missedContext board).trans hactive
  rw [boot_lands hmuted, hstay, BootDecision.outcome, Except.map,
    landing_noting hbytes hactive' hverdict, hentry, hmissed]
  exact ⟨_, rfl, rfl, rfl, rfl, rfl⟩

end Board

/-! ## An update on the device from the factory -/

namespace Factory

/-- The image of the factory in a newer version. -/
def newerHeader : Header := { header with version := ⟨1, 0, 1⟩ }

/-- The device with the newer image in the update slot. -/
def updatedBoard : Board .tiny :=
  ⟨flash.splice layout.slotB (newerHeader.encode ++ payload), loader⟩

/-- The device from the factory takes a newer image, as was decided. -/
theorem boot_takes_newer :
    updatedBoard.decision = .take newerHeader
      ∧ Action.effect Board.boot updatedBoard = updatedBoard.decision.outcome updatedBoard :=
  ⟨by decide +kernel, Board.boot_decides rfl rfl⟩

end Factory

end DualSlot
