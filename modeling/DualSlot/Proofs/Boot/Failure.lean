import DualSlot.Proofs.Boot.Outcome

/-!
# What a failed call leaves behind

Every call of the boot loader may fail, at any of its reads and writes. A call that failed has left the
layout, the lock and the context as they were, and all bytes. There are two exceptions, and no third one:

| call                | what it may leave behind                                       |
|---------------------|----------------------------------------------------------------|
| `checkUpdate`       | no update is pending any more, unless the update slot is locked |
| `programUpdateSlot` | the first words of the string are stored                       |

A boot is several decisions in a row, of which the first ones may have succeeded, so that it is left out
here; so is the power cycle, which makes a new loader.
-/

namespace DualSlot

namespace BootCall

variable {g : Geometry}

/-- The calls that do one thing: all of them, but for a boot and a power cycle. -/
def Single : BootCall → Prop
  | .boot | .restart _ => False
  | _ => True

/-- The context after the call failed. -/
def failedContext (call : BootCall) (board : Board g) : BootContext :=
  match call with
  | .checkUpdate =>
    if board.loader.updateLocked then board.loader.context else board.loader.context.cleared
  | _ => board.loader.context

/-- What the flash may look like after the call failed. -/
def FailedFlash (call : BootCall) (board : Board g) (flash : Flash g) : Prop :=
  match call with
  | .programUpdateSlot offset data =>
    ∃ words, 4 * words ≤ data.length
      ∧ flash.cells
        = (board.flash.splice (board.loader.layout.slotB + offset) (data.take (4 * words))).cells
  | _ => flash.cells = board.flash.cells

end BootCall

namespace Board

open DualSlot.Action

variable {g : Geometry} {board board' : Board g} {e : BootError}

/-! ## Decisions -/

theorem checkUpdate_fails (h : effect checkUpdate board = (.error e, board')) :
    board.Noted (BootCall.checkUpdate.failedContext board) board' := by
  have houtcome := checkUpdate_outcome board
  rw [h] at houtcome
  unfold BootCall.failedContext
  cases houtcome with
  | locked locked noted => rwa [locked]
  | nothing free _ noted => rwa [free]

theorem switchToUpdate_fails (h : effect switchToUpdate board = (.error e, board')) :
    board.Noted board.loader.context board' := by
  have houtcome := switchToUpdate_outcome board
  rw [h] at houtcome
  cases houtcome with
  | refused _ noted => exact noted
  | invalid _ _ _ noted => exact noted

theorem rollback_fails (h : effect rollback board = (.error e, board')) :
    board.Noted board.loader.context board' := by
  have houtcome := rollback_outcome board
  rw [h] at houtcome
  cases houtcome with
  | invalid _ noted => exact noted

/-! ## Calls that change something only when they succeed -/

theorem lockUpdateSlot_fails (h : effect lockUpdateSlot board = (.error e, board')) :
    board' = board := by
  cases hlocked : board.loader.updateLocked with
  | true =>
    rw [effect_lockUpdateSlot_of_locked hlocked] at h
    exact (Prod.mk.inj h).2.symm
  | false =>
    rw [effect_lockUpdateSlot_of_free hlocked] at h
    cases h

theorem eraseUpdateSlot_fails {length : Nat}
    (h : effect (eraseUpdateSlot length) board = (.error e, board')) : board' = board := by
  rcases eraseUpdateSlot_cases length board with ⟨e', herror⟩ | ⟨hok, _⟩
  · rw [herror] at h
    exact (Prod.mk.inj h).2.symm
  · rw [hok] at h
    cases h

theorem programUpdateSlot_fails {offset : Nat} {data : List UInt8}
    (h : effect (programUpdateSlot offset data) board = (.error e, board')) :
    board'.loader = board.loader
      ∧ (BootCall.programUpdateSlot offset data).FailedFlash board board'.flash := by
  have hloader := loader_programUpdateSlot offset data board
  rw [h] at hloader
  refine ⟨hloader, ?_⟩
  rw [effect_programUpdateSlot] at h
  -- The string is refused for its length before anything is written, or stopped at some word.
  split at h
  · obtain ⟨words, hwords, hcells⟩ := programFrom_error h
    exact ⟨words, Nat.le_of_lt hwords, hcells⟩
  · cases h
    exact ⟨0, Nat.zero_le _, rfl⟩

/-! ## All calls -/

/-- What a call that failed has left of a board. -/
structure LeftBy (call : BootCall) (board board' : Board g) : Prop where
  layout_eq : board'.loader.layout = board.loader.layout
  locked_eq : board'.loader.updateLocked = board.loader.updateLocked
  context_eq : board'.loader.context = call.failedContext board
  flash_left : call.FailedFlash board board'.flash

theorem Noted.leftBy {call : BootCall} (h : board.Noted (call.failedContext board) board')
    (hflash : board'.flash.cells = board.flash.cells → call.FailedFlash board board'.flash) :
    LeftBy call board board' :=
  ⟨h.layout_eq, h.locked_eq, h.context_eq, hflash h.cells_eq⟩

/-- A failed call leaves the layout, the lock, the context and the bytes alone, whatever made it fail.
All that may be gone is a pending update, when a check found none, and all that may be stored is the
beginning of a string, when it could not be programmed to its end. -/
theorem leftBy_of_failed {call : BootCall} (hsingle : call.Single)
    (h : effect call.run board = (.error e, board')) : LeftBy call board board' := by
  -- An inspection without notes leaves the loader as it is, whether it fails or not.
  have hinspects : ∀ {α : Type} {x : BoardAction g α}, Inspects (fun _ => False) x →
      effect x board = (.error e, board') → board.Noted board.loader.context board' := by
    intro α x hx hr
    have hsame := hx.sameBytes board
    rw [hr] at hsame
    exact hsame.noted
  -- One case for each call. Those that only look have taken no notes, and the others are settled
  -- above.
  cases call with
  | checkUpdate => exact (checkUpdate_fails (map_fails h)).leftBy id
  | switchToUpdate => exact (switchToUpdate_fails (map_fails h)).leftBy id
  | rollback => exact (rollback_fails (map_fails h)).leftBy id
  | jump slot =>
    have hnoted := jump_noted slot board
    rw [map_fails h] at hnoted
    exact hnoted.leftBy id
  | validate slot => exact (hinspects (inspects_validate slot) (map_fails h)).leftBy id
  | readHeader slot => exact (hinspects (inspects_readHeader slot) (map_fails h)).leftBy id
  | payloadCrc slot header =>
    exact (hinspects (inspects_payloadCrc slot header) (map_fails h)).leftBy id
  | lockUpdateSlot =>
    rw [lockUpdateSlot_fails (map_fails h)]
    exact (Noted.refl board).leftBy id
  | unlockUpdateSlot => cases h
  | eraseUpdateSlot length =>
    rw [eraseUpdateSlot_fails (map_fails h)]
    exact (Noted.refl board).leftBy id
  | programUpdateSlot offset data =>
    obtain ⟨hloader, hflash⟩ := programUpdateSlot_fails (map_fails h)
    exact ⟨by rw [hloader], by rw [hloader], by rw [hloader]; rfl, hflash⟩
  | boot => exact hsingle.elim
  | restart layout => exact hsingle.elim

end Board

namespace Factory

/-- The board with a write circuit that gives out after one word. -/
def wornBoard : Board .tiny :=
  { board with flash := { flash with writePlan := some (.window .notErased 1 none) } }

theorem left_by_interrupted :
    ∃ e left, Action.effect (BootCall.programUpdateSlot 0 [1, 2, 3, 4, 5, 6, 7, 8]).run wornBoard
        = (.error e, left)
      ∧ Board.LeftBy (.programUpdateSlot 0 [1, 2, 3, 4, 5, 6, 7, 8]) wornBoard left := by
  have hfails : (Action.effect
      (BootCall.programUpdateSlot 0 [1, 2, 3, 4, 5, 6, 7, 8]).run wornBoard).1.isOk = false := by
    decide +kernel
  rcases hr : Action.effect (BootCall.programUpdateSlot 0 [1, 2, 3, 4, 5, 6, 7, 8]).run wornBoard
    with ⟨e | answer, left⟩
  · exact ⟨e, left, rfl, Board.leftBy_of_failed trivial hr⟩
  · rw [hr] at hfails
    cases hfails

end Factory

end DualSlot
