import DualSlot.Bench.Call
import DualSlot.Proofs.Boot.Verdict

/-!
# Looking and booting again

On a flash that does not change, a second look for an update finds what the first one found, and a second
boot does what the first one did. Whatever a boot decides, after it there is nothing left to take and nothing
new to note (`Board.Quiet`), so the next one stays with what runs:

| decision          | the next boot |
|-------------------|---------------|
| `take header`     | `stay`        |
| `stay`            | `stay`        |
| `fallBack header` | `stay`        |
| `stop`            | `stop`        |

Looks for an update in between leave no more behind than another stage, and an error that the next boot
replaces (`Board.Echoed`). `Board.checkUpdate_boot_stable` has all of this.
-/

namespace DualSlot

namespace BootContext

variable {context : BootContext} {header : Header}

/-- Where nothing is pending, there is nothing to be cleared. -/
theorem cleared_of_idle (hpending : context.updatePending = false) : context.cleared = context := by
  unfold cleared
  rw [← hpending]

/-- An offer that was noted already changes nothing when it is noted again. -/
theorem offered_of_noted (hheader : context.updateHeader = header)
    (hpending : context.updatePending
      = header.version.newerThan context.activeHeader.version) :
    context.offered header = context := by
  unfold offered
  rw [← hpending, ← hheader]

end BootContext

/-- What the next boot decides. -/
def BootDecision.next : BootDecision → BootDecision
  | stop => stop
  | take _ | stay | fallBack _ => stay

namespace Board

open DualSlot.Action

variable {g : Geometry} {board : Board g} {header : Header} {e : BootError} {decision : BootDecision}

/-! ## Looking again -/

/-- Without planned faults a second look for an update has the answer of the first one, and changes
nothing. -/
theorem checkUpdate_twice (hmuted : board.flash.readPlan = none) :
    effect checkUpdate (effect checkUpdate board).2 = effect checkUpdate board := by
  -- The three ways in which a look for an update ends; each is the same once more.
  cases hlocked : board.loader.updateLocked with
  | true =>
    let looked := board.noting board.loader.stage (some .updateInProgress) board.loader.context
    have hstill : looked.loader.updateLocked = true := hlocked
    rw [effect_checkUpdate_of_locked hlocked]
    exact effect_checkUpdate_of_locked hstill
  | false =>
    cases hverdict : board.verdict .b with
    | error e =>
      let looked := board.noting .checkUpdate (some e) board.loader.context.cleared
      have hmuted' : looked.flash.readPlan = none := hmuted
      have hfree : looked.loader.updateLocked = false := hlocked
      rw [effect_checkUpdate_of_error hmuted hlocked hverdict]
      exact effect_checkUpdate_of_error hmuted' hfree (verdict_noting.trans hverdict)
    | ok header =>
      -- The offer is measured against the active image, which it does not change.
      let looked := board.noting .checkUpdate board.loader.lastError
        (board.loader.context.offered header)
      have hmuted' : looked.flash.readPlan = none := hmuted
      have hfree : looked.loader.updateLocked = false := hlocked
      rw [effect_checkUpdate_of_ok hmuted hlocked hverdict]
      exact effect_checkUpdate_of_ok hmuted' hfree (verdict_noting.trans hverdict)

/-! ## Nothing to do -/

/-- Looking for an update finds none, and there is nothing about it to be noted in the context. -/
structure Quiet (board : Board g) : Prop where
  update?_eq : board.update? = none
  missedContext_eq : board.missedContext = board.loader.context

/-- Under a lock nothing is looked at. -/
theorem quiet_of_locked (hlocked : board.loader.updateLocked = true) : board.Quiet where
  update?_eq := by simp [update?, hlocked]
  missedContext_eq := by simp [missedContext, hlocked]

/-- No update is found in a slot that holds no valid image, and if none is pending, none has to be
cleared. -/
theorem quiet_of_error (h : board.verdict .b = .error e)
    (hpending : board.loader.context.updatePending = false) : board.Quiet where
  update?_eq := by simp [update?, h]
  missedContext_eq := by simp [missedContext, h, BootContext.cleared_of_idle hpending]

/-- An image that is not newer is no update, and if it was noted as such, there is nothing to be
noted. -/
theorem quiet_of_ok (h : board.verdict .b = .ok header)
    (hnot : header.version.newerThan board.loader.context.activeHeader.version = false)
    (hheader : board.loader.context.updateHeader = header)
    (hpending : board.loader.context.updatePending = false) : board.Quiet where
  update?_eq := by simp [update?, h, hnot]
  missedContext_eq := by
    have hnoted := BootContext.offered_of_noted hheader (hpending.trans hnot.symm)
    simp [missedContext, h, hnoted]

variable {stage : BootStage} {lastError : Option BootError} {context : BootContext}

/-- After an update was looked for in vain there is nothing to do. -/
theorem quiet_missed (h : board.update? = none) :
    (board.noting stage lastError board.missedContext).Quiet := by
  cases hlocked : board.loader.updateLocked with
  | true => exact quiet_of_locked hlocked
  | false =>
    cases hverdict : board.verdict .b with
    | error e =>
      refine quiet_of_error (verdict_noting.trans hverdict) ?_
      -- The look itself cleared what was pending.
      simp [missedContext, hlocked, hverdict, BootContext.cleared]
    | ok header =>
      have hnot : header.version.newerThan board.loader.context.activeHeader.version = false := by
        simpa [update?, hlocked, hverdict] using h
      refine quiet_of_ok (verdict_noting.trans hverdict) ?_ ?_ ?_ <;>
        simp [missedContext, hlocked, hverdict, hnot, BootContext.offered]

/-- Falling back from an update that is not valid leaves nothing to do: what was pending is gone, if the
slot was free to be looked at. -/
theorem quiet_fallen (hinvalid : board.verdict .b = .error e) :
    (board.noting stage lastError (board.missedContext.rolledBackTo header)).Quiet := by
  cases hlocked : board.loader.updateLocked with
  | true => exact quiet_of_locked hlocked
  | false =>
    refine quiet_of_error (verdict_noting.trans hinvalid) ?_
    simp [missedContext, hlocked, hinvalid, BootContext.cleared, BootContext.rolledBackTo]

/-- An update is not newer than itself. -/
theorem quiet_taken (h : board.update? = some header) :
    (board.noting stage lastError (board.loader.context.switchedTo header)).Quiet := by
  obtain ⟨_, hverdict, _⟩ := update?_eq_some_iff.mp h
  refine quiet_of_ok (verdict_noting.trans hverdict) ?_ rfl rfl
  exact Version.not_newerThan_self header.version

/-- Whatever a boot decided, after it there is nothing to do. -/
theorem quiet_after (h : board.Decides decision) : (decision.outcome board).2.Quiet := by
  cases h with
  | take hupdate => exact quiet_taken hupdate
  | stay hmissed => exact quiet_missed hmissed
  | fallBack _ _ hinvalid => exact quiet_fallen hinvalid
  | stop hmissed =>
    unfold BootDecision.outcome
    cases board.loader.context.active <;> exact quiet_missed hmissed

/-! ## Booting again -/

/-- The last error of an update that is looked for in vain is the same the second time. -/
theorem missedError_missed :
    (board.noting stage board.missedError context).missedError = board.missedError := by
  unfold missedError
  rw [verdict_noting]
  show (if board.loader.updateLocked then _ else _) = _
  cases board.loader.updateLocked with
  | true => rfl
  | false => cases board.verdict .b <;> rfl

/-- A board with nothing to do boots what is active, if that is valid. -/
theorem Quiet.decision_eq_stay (h : board.Quiet)
    (hvalid : board.verdict board.loader.context.active = .ok header) : board.decision = .stay := by
  unfold decision
  rw [h.update?_eq, hvalid]

/-- If neither the active slot nor slot A holds a valid image, a board with nothing to do stops. -/
theorem Quiet.decision_eq_stop (h : board.Quiet)
    (hinvalid : board.verdict board.loader.context.active = .error e) {e' : BootError}
    (hlost : board.verdict .a = .error e') : board.decision = .stop := by
  unfold decision
  rw [h.update?_eq, hinvalid, hlost]
  cases board.loader.context.active <;> rfl

/-- What the next boot decides follows from what this one decided. -/
theorem decision_after (h : board.Decides decision) :
    (decision.outcome board).2.decision = decision.next := by
  have hquiet := quiet_after h
  cases h with
  | take hupdate =>
    obtain ⟨_, hverdict, _⟩ := update?_eq_some_iff.mp hupdate
    exact hquiet.decision_eq_stay (verdict_noting.trans hverdict)
  | stay _ hvalid =>
    have hactive := active_missedContext board
    -- The context that was noted has the same active slot, and the same bytes are in it.
    exact hquiet.decision_eq_stay (verdict_noting.trans (hactive.symm ▸ hvalid))
  | fallBack _ _ _ hvalid => exact hquiet.decision_eq_stay (verdict_noting.trans hvalid)
  | @stop e e' _ hinvalid hlost =>
    have hbad : board.verdict board.missedContext.active = .error e :=
      (active_missedContext board).symm ▸ hinvalid
    unfold BootDecision.outcome at hquiet ⊢
    -- The active slot may be slot A or the update slot; both are lost.
    cases hslot : board.loader.context.active
    all_goals
      rw [hslot] at hquiet
      exact hquiet.decision_eq_stop (verdict_noting.trans hbad) (verdict_noting.trans hlost)

/-- A board with nothing to do that jumped stays as it is, if there is no other error to remember. -/
theorem Quiet.stay_eq (h : (board.noting .jumpToApp lastError context).Quiet)
    (herror : (board.noting .jumpToApp lastError context).missedError = lastError) :
    (BootDecision.stay.outcome (board.noting .jumpToApp lastError context)).2
      = board.noting .jumpToApp lastError context := by
  unfold BootDecision.outcome
  rw [h.missedContext_eq, herror]
  rfl

/-- The next boot answers as the first one did, but for what it reads off the flash, and ends on the same
board. -/
theorem outcome_after (h : board.Decides decision) (entry : AppEntry) :
    (((decision.next.outcome (decision.outcome board).2).1.map fun _ => entry)
        = (decision.outcome board).1.map fun _ => entry)
      ∧ (decision.next.outcome (decision.outcome board).2).2 = (decision.outcome board).2 := by
  have hquiet := quiet_after h
  cases h with
  | take hupdate =>
    obtain ⟨hfree, hverdict, _⟩ := update?_eq_some_iff.mp hupdate
    refine ⟨rfl, hquiet.stay_eq ?_⟩
    -- The slot was free, and the update in it is valid. So no error is remembered.
    unfold missedError
    rw [verdict_noting, hverdict]
    exact if_neg (hfree ▸ Bool.false_ne_true)
  | stay => exact ⟨rfl, hquiet.stay_eq missedError_missed⟩
  | fallBack => exact ⟨rfl, hquiet.stay_eq missedError_missed⟩
  | stop =>
    have hactive := active_missedContext board
    unfold BootDecision.next
    -- The slots differ in the error alone, and each error is the same the second time.
    cases hslot : board.loader.context.active
    all_goals
      rw [hslot] at hactive
      simp only [BootDecision.outcome, hslot] at hquiet ⊢
      simp only [context_noting, hactive, hquiet.missedContext_eq, noting_noting, and_self]

/-- Without planned faults a second boot has the answer of the first one, and changes nothing. -/
theorem boot_twice (hmuted : board.flash.readPlan = none) :
    effect boot (effect boot board).2 = effect boot board := by
  have hdecides := board.decides_decision
  have hstate : (effect boot board).2 = (board.decision.outcome board).2 := by
    rw [boot_lands hmuted]
  have hstill : (board.decision.outcome board).2.flash.readPlan = none := by
    rw [← hstate, inspects_boot.flash_eq_of_muted hmuted, hmuted]
  obtain ⟨hanswer, hafter⟩ := outcome_after hdecides (board.decision.outcome board).2.landing
  rw [hstate, boot_lands hstill, boot_lands hmuted, decision_after hdecides, hafter, hanswer]

/-! ## Looking and booting in any order -/

/-- A look for an update only notes what it found, in a stage of its own or in the old one. -/
theorem state_checkUpdate (hmuted : board.flash.readPlan = none) :
    ∃ stage, (effect checkUpdate board).2 = board.noting stage board.missedError board.missedContext := by
  unfold missedError missedContext
  cases hlocked : board.loader.updateLocked with
  | true =>
    rw [effect_checkUpdate_of_locked hlocked]
    exact ⟨board.loader.stage, rfl⟩
  | false =>
    refine ⟨.checkUpdate, ?_⟩
    cases hverdict : board.verdict .b with
    | error e =>
      rw [effect_checkUpdate_of_error hmuted hlocked hverdict]
      rfl
    | ok header =>
      rw [effect_checkUpdate_of_ok hmuted hlocked hverdict]
      rfl

/-- Another board that has the context of this one, in another stage. Its last error may be another one too,
if the next look for an update makes up for that. -/
def Echoed (board other : Board g) : Prop :=
  ∃ stage lastError, other = board.noting stage lastError board.loader.context
    ∧ other.missedError = board.missedError

/-- Every board is its own echo. -/
theorem Echoed.refl (board : Board g) : board.Echoed board :=
  ⟨board.loader.stage, board.loader.lastError, rfl, rfl⟩

/-- What a look for an update notes depends on the context and the bytes. -/
theorem missedContext_noting :
    (board.noting stage lastError board.loader.context).missedContext = board.missedContext := by
  unfold missedContext
  rw [verdict_noting]
  rfl

/-- Whether there is an update depends on the context and the bytes, too. -/
theorem update?_noting :
    (board.noting stage lastError board.loader.context).update? = board.update? := by
  unfold update?
  rw [verdict_noting]
  rfl

/-- After a look for an update the board is still an echo. -/
theorem Echoed.looked {other : Board g} (hmuted : board.flash.readPlan = none) (hquiet : board.Quiet)
    (h : board.Echoed other) : board.Echoed (effect checkUpdate other).2 := by
  obtain ⟨stage, lastError, rfl, herror⟩ := h
  have hstill : (board.noting stage lastError board.loader.context).flash.readPlan = none := hmuted
  obtain ⟨stage', hlooked⟩ := state_checkUpdate hstill
  -- On a quiet board the look notes the same context again.
  rw [hlooked, herror, missedContext_noting, hquiet.missedContext_eq, noting_noting]
  exact ⟨stage', board.missedError, rfl, missedError_missed⟩

/-- An echo boots as the board does. -/
theorem Echoed.effect_boot {other : Board g} (hmuted : board.flash.readPlan = none)
    (hquiet : board.Quiet) (h : board.Echoed other) : effect boot other = effect boot board := by
  obtain ⟨stage, lastError, rfl, herror⟩ := h
  have hstill : (board.noting stage lastError board.loader.context).flash.readPlan = none := hmuted
  have hnone : (board.noting stage lastError board.loader.context).update? = none :=
    update?_noting.trans hquiet.update?_eq
  rw [effect_boot_of_none hstill hnone, effect_boot_of_none hmuted hquiet.update?_eq, herror,
    missedContext_noting]
  rfl

/-- The board after a run of calls, whatever they answer. -/
def steps (board : Board g) (calls : List BootCall) : Board g :=
  calls.foldl (fun board call => (effect call.run board).2) board

/-- After a run of looks and boots the board is still an echo. -/
theorem Echoed.steps {other : Board g} (hmuted : board.flash.readPlan = none) (hquiet : board.Quiet)
    (hfixed : (effect boot board).2 = board) {calls : List BootCall}
    (hcalls : ∀ call ∈ calls, call = .checkUpdate ∨ call = .boot) (h : board.Echoed other) :
    board.Echoed (other.steps calls) := by
  -- By the calls.
  induction calls generalizing other with
  | nil => exact h
  | cons call rest ih =>
    obtain ⟨hcall, hrest⟩ := List.forall_mem_cons.mp hcalls
    have hnext : board.Echoed (effect call.run other).2 := by
      -- A look leaves an echo, and a boot leaves the board that it always leaves.
      rcases hcall with rfl | rfl
      · rw [BootCall.run, effect_map]
        exact h.looked hmuted hquiet
      · rw [BootCall.run, effect_map]
        show board.Echoed (effect boot other).2
        rw [h.effect_boot hmuted hquiet, hfixed]
        exact .refl board
    exact ih hrest hnext

/-- Without planned faults looking for an update twice is as good as looking once, and booting twice as good
as booting once: the answer is the same, and so are the flash and all that the loader knows. However often
the board is booted then, with looks for an update in between, it boots in the same way, and its
context never changes. -/
theorem checkUpdate_boot_stable (hmuted : board.flash.readPlan = none) :
    effect checkUpdate (effect checkUpdate board).2 = effect checkUpdate board
      ∧ effect boot (effect boot board).2 = effect boot board
      ∧ ∀ calls : List BootCall, (∀ call ∈ calls, call = .checkUpdate ∨ call = .boot) →
          effect boot ((effect boot board).2.steps calls) = effect boot board
            ∧ ((effect boot board).2.steps calls).loader.context
              = (effect boot board).2.loader.context := by
  have htwice : effect boot (effect boot board).2 = effect boot board := boot_twice hmuted
  refine ⟨checkUpdate_twice hmuted, htwice, fun calls hcalls => ?_⟩
  -- The board after the first boot is quiet, and the runs from there only echo it.
  have hquiet : (effect boot board).2.Quiet := by
    rw [boot_lands hmuted]
    exact quiet_after board.decides_decision
  have hstill : (effect boot board).2.flash.readPlan = none := by
    rw [inspects_boot.flash_eq_of_muted hmuted, hmuted]
  have hechoed := (Echoed.refl (effect boot board).2).steps hstill hquiet (congrArg Prod.snd htwice) hcalls
  refine ⟨(hechoed.effect_boot hstill hquiet).trans htwice, ?_⟩
  obtain ⟨stage, lastError, hsteps, _⟩ := hechoed
  rw [hsteps, context_noting]

end Board

namespace Factory

/-- The update is taken once, and booted again and again. -/
theorem stable_updated :
    updatedBoard.flash.readPlan = none
      ∧ (Action.effect Board.boot updatedBoard).2.loader.context.bootCount = 2
      ∧ ((Action.effect Board.boot updatedBoard).2.steps
          [.checkUpdate, .boot, .boot, .checkUpdate]).loader.context.bootCount = 2 := by
  have hmuted : updatedBoard.flash.readPlan = none := rfl
  have hcount : (Action.effect Board.boot updatedBoard).2.loader.context.bootCount = 2 := by
    decide +kernel
  have hcalls : ∀ call ∈ [BootCall.checkUpdate, .boot, .boot, .checkUpdate],
      call = .checkUpdate ∨ call = .boot := by simp
  obtain ⟨_, _, hrun⟩ := Board.checkUpdate_boot_stable hmuted
  refine ⟨hmuted, hcount, ?_⟩
  rw [(hrun _ hcalls).2, hcount]

end Factory

end DualSlot
