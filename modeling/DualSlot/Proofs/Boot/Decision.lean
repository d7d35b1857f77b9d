import DualSlot.Proofs.Boot.Image

/-!
# What a boot decides

A boot takes an update if it can, and falls back to slot A if what is active is not valid. With a valid
image in slot A one of these images runs: a boot whose reads all go through answers, and the slot that
it answers holds a valid image (`boot_of_reads`). Whatever else the update slot holds, and whatever the
context of the loader says, does not matter.
-/

namespace DualSlot

/-- The reads between two states of a flash went through: the plan made none of them fail. -/
def Flash.ReadsWentThrough {g : Geometry} (before after : Flash g) : Prop :=
  ∀ plan plan', before.readPlan = some plan → after.readPlan = some plan' →
    ∀ call, plan.calls ≤ call → call < plan'.calls → plan.verdict call = none

theorem Flash.ReadsWentThrough.admits {g : Geometry} {flash : Flash g} {count : Nat}
    (h : flash.ReadsWentThrough (flash.afterReads count)) : flash.Admits count := by
  intro plan hplan call hlow hhigh
  have hafter : (flash.afterReads count).readPlan
      = some { plan with calls := plan.calls + count } := by
    rw [Flash.afterReads, hplan]
    rfl
  exact h plan _ hplan hafter call hlow hhigh

namespace Board

open DualSlot.Action

variable {g : Geometry} {ε α : Type} {board : Board g} {header : Header}

/-- An inspection whose reads go through ends as it does without planned faults, but for the plan. -/
theorem Inspects.effect_mute {notes : (Loader g → Loader g) → Prop}
    {x : Action BoardEvent (Board g) ε α} (hx : Inspects notes x)
    (hreads : board.flash.ReadsWentThrough (effect x board).2.flash) :
    effect x board.mute = ((effect x board).1, (effect x board).2.mute) := by
  obtain ⟨count, hflash, hmute⟩ := hx.onlyReads board
  have hafter : (effect x board).2.flash = board.flash.afterReads count := hflash
  rw [hafter] at hreads
  exact hmute hreads.admits

/-- No update is no failure. -/
theorem takeUpdate_answers (board : Board g) : (effect takeUpdate board).1 = .ok () := by
  unfold takeUpdate
  rw [effect_bind, effect_attempt, resume_ok]
  -- A check that fails, an image that is not newer, and one that is.
  rcases effect checkUpdate board with ⟨_ | _ | _, board'⟩
  · rfl
  · dsimp only
    rw [effect_bind, effect_attempt, resume_ok]
    rcases effect switchToUpdate board' with ⟨_ | _, board''⟩ <;> rfl
  · rfl

/-- A word that cannot be read looks erased, so reading a word never fails. -/
theorem readWord_answers (offset : Nat) (board : Board g) :
    ∃ word board', effect (onFlash id (Flash.readWord offset) : BoardAction g UInt32) board
        = (.ok word, board') ∧ board'.loader = board.loader := by
  unfold Flash.readWord
  rw [effect_onFlash, effect_bind, effect_attempt, resume_ok]
  rcases effect (Flash.read offset 4) board.flash with ⟨_ | bytes, flash⟩
  · exact ⟨erasedWord, ⟨flash, board.loader⟩, rfl, rfl⟩
  · exact ⟨LittleEndian.word bytes, ⟨flash, board.loader⟩, rfl, rfl⟩

/-- A jump to a slot of the layout answers that slot, whatever its words are. -/
theorem jump_answers {slot : Nat} (hslot : board.loader.layout.slotAt? slot ≠ none) :
    ∃ entry board', effect (jump slot) board = (.ok entry, board') ∧ entry.slot = slot := by
  have hsome : ¬ (board.loader.layout.slotAt? slot).isNone = true := by
    rw [Option.isNone_iff_eq_none]
    exact hslot
  obtain ⟨stackPointer, board₁, hstack, _⟩ := readWord_answers slot board
  obtain ⟨programCounter, board₂, hcounter, _⟩ := readWord_answers (slot + 4) board₁
  unfold jump
  rw [effect_bind, effect_look, resume_ok, if_neg hsome, effect_bind, hstack, resume_ok,
    effect_bind, hcounter, resume_ok]
  exact ⟨⟨slot, stackPointer, programCounter⟩, _, rfl, rfl⟩

/-- What is active is one of the two slots of the layout. -/
theorem slotAt?_activeSlot_ne_none (loader : Loader g) :
    loader.layout.slotAt? loader.activeSlot ≠ none := by
  unfold Loader.activeSlot Layout.slotAt?
  cases loader.context.active with
  | a => simp [Layout.offset]
  | b =>
    intro hnone
    split at hnone
    · cases hnone
    · simp [Layout.offset] at hnone

theorem jump_activeSlot_answers (board : Board g) :
    ∃ entry board', effect (look (·.activeSlot) >>= jump) board = (.ok entry, board')
      ∧ entry.slot = board.loader.activeSlot := by
  rw [effect_bind, effect_look, resume_ok]
  exact jump_answers (slotAt?_activeSlot_ne_none board.loader)

/-! ## Falling back -/

/-- Without planned faults a valid image in slot A can be gone back to. -/
theorem effect_rollback (hmuted : board.flash.readPlan = none)
    (h : board.flash.HoldsImage board.loader.layout.slotA header) :
    effect rollback board = (.ok (),
      { board with
        loader :=
          { board.loader with
            context :=
              { board.loader.context with
                active := .a
                activeHeader := header
                rollbackRequested := true
                bootCount := board.loader.context.bootCount + 1 } } }) := by
  unfold rollback
  rw [effect_bind, effect_report, resume_ok, effect_bind, effect_look, resume_ok, effect_bind,
    effect_attempt, effect_validate_of_holdsImage hmuted h, resume_ok]
  rfl

/-- The boot from the check of the active image on. -/
def bootActive : BoardAction g AppEntry := do
  let active ← look (·.context.active)
  match ← (validate (← look (·.activeSlot))).attempt with
  | .ok _ => pure ()
  | .error e =>
    if active = .a then
      report (.slotANotBootable e)
      abandon .noApp
    else
      report (.activeNotBootable e)
      rollback
  jump (← look (·.activeSlot))

theorem boot_eq : (boot : BoardAction g AppEntry)
    = takeUpdate >>= fun _ => enter .validateApp >>= fun _ => bootActive := rfl

/-- Without planned faults the boot settles on a valid image, given one in slot A. -/
theorem bootActive_answers (hmuted : board.flash.readPlan = none)
    (h : board.flash.HoldsImage board.loader.layout.slotA header) :
    ∃ entry board' found, effect bootActive board = (.ok entry, board')
      ∧ board.flash.HoldsImage entry.slot found := by
  have hboard := validate_board hmuted board.loader.activeSlot
  unfold bootActive
  rw [effect_bind, effect_look, resume_ok, effect_bind, effect_look, resume_ok, effect_bind,
    effect_attempt, resume_ok, hboard]
  cases hanswer : (effect (validate board.loader.activeSlot) board).1 with
  | ok found =>
    -- What the check accepts is valid, and it is what the jump goes to.
    obtain ⟨entry, board', hjump, hslot⟩ := jump_activeSlot_answers board
    exact ⟨entry, board', found, hjump, hslot ▸ holdsImage_of_validate hanswer⟩
  | error e =>
    -- Slot A is valid, so it is not what is active.
    have hactive : board.loader.context.active ≠ .a := by
      intro hactive
      have hslot : board.loader.activeSlot = board.loader.layout.slotA := by
        rw [Loader.activeSlot, hactive]
        rfl
      rw [hslot, effect_validate_of_holdsImage hmuted h] at hanswer
      cases hanswer
    dsimp only
    rw [if_neg hactive, effect_bind, effect_report, resume_ok, effect_bind,
      effect_rollback hmuted h, resume_ok]
    obtain ⟨entry, board', hjump, hslot⟩ := jump_activeSlot_answers _
    exact ⟨entry, board', header, hjump, hslot ▸ h⟩

/-- Without planned faults a boot settles on a valid image, given one in slot A. -/
theorem boot_answers (hmuted : board.flash.readPlan = none)
    (h : board.flash.HoldsImage board.loader.layout.slotA header) :
    ∃ entry board' found, effect boot board = (.ok entry, board')
      ∧ board.flash.HoldsImage entry.slot found := by
  rcases htake : effect takeUpdate board with ⟨answer, taken⟩
  have hok : answer = .ok () := by
    rw [← takeUpdate_answers board, htake]
  -- Looking for an update may change what is active, but neither the flash nor the layout.
  have hflash := inspects_takeUpdate.flash_eq_of_muted hmuted
  obtain ⟨_, hlayout, _⟩ := inspects_takeUpdate.frame board
  rw [htake] at hflash hlayout
  have htaken : taken.flash.HoldsImage taken.loader.layout.slotA header := by
    rw [hflash, hlayout]
    exact h
  let checking : Board g := ⟨taken.flash, { taken.loader with stage := .validateApp }⟩
  have hstill : checking.flash.readPlan = none := hflash ▸ hmuted
  have hchecking : checking.flash.HoldsImage checking.loader.layout.slotA header := htaken
  obtain ⟨entry, board', found, hboot, hfound⟩ := bootActive_answers hstill hchecking
  -- What comes after the update is `bootActive`, from a board that still holds the image in slot
  -- A.
  rw [boot_eq, effect_bind, htake, hok, resume_ok, effect_bind, effect_enter, resume_ok]
  exact ⟨entry, board', found, hboot, hflash ▸ hfound⟩

/-- A boot whose reads all go through answers the slot of a valid image, given one in slot A. -/
theorem boot_of_reads (h : board.flash.HoldsImage board.loader.layout.slotA header)
    (hreads : board.flash.ReadsWentThrough (effect boot board).2.flash) :
    ∃ entry found, (effect boot board).1 = .ok entry
      ∧ (effect boot board).2.flash.HoldsImage entry.slot found := by
  have hmuted : board.mute.flash.HoldsImage board.mute.loader.layout.slotA header :=
    h.of_cells_eq rfl
  -- On a muted board the boot settles on a valid image, and this boot ends like that one.
  obtain ⟨entry, board', found, hboot, hfound⟩ := boot_answers rfl hmuted
  have hsame := inspects_boot.effect_mute hreads
  rw [hboot] at hsame
  -- What is in the slot is as it was, for a boot writes nothing.
  have hcells : (effect boot board).2.flash.cells = board.flash.cells := (inspects_boot.frame board).1
  exact ⟨entry, found, (congrArg Prod.fst hsame).symm, hfound.of_cells_eq hcells.symm⟩

end Board

end DualSlot
