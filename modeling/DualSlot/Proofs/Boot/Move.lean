import DualSlot.Proofs.Boot.Outcome
import Mathlib.Logic.Relation

/-!
# What the boot loader does step by step

Whatever the boot loader decides, it does by a few kinds of moves (`Board.Move`), each of which changes
the context in one way and says what was found in the slots. An invariant of the boot loader has to be
checked for each kind of move, and then holds after every decision.

A move of its own is to fall back to slot A, since only a rollback does it, and a boot whose update is
not valid any more. Moves are therefore counted together with the slots from which they may fall back.
-/

namespace DualSlot.Board

open DualSlot.Action

variable {g : Geometry} {board board' : Board g} {fallsBack : Slot → Prop}

/-! ## Moves -/

/-- One move of the boot loader. It may fall back if the active slot is among `fallsBack`. -/
inductive Move (fallsBack : Slot → Prop) (board board' : Board g) : Prop
  | kept (noted : board.Noted board.loader.context board')
  | cleared (free : board.loader.updateLocked = false)
      (noted : board.Noted board.loader.context.cleared board')
  | offered {header : Header} (free : board.loader.updateLocked = false)
      (holds : board.flash.HoldsImage board.loader.layout.slotB header)
      (noted : board.Noted (board.loader.context.offered header) board')
  | switched {header : Header} (free : board.loader.updateLocked = false)
      (pending : board.loader.context.updatePending = true)
      (holds : board.flash.HoldsImage board.loader.layout.slotB header)
      (noted : board.Noted (board.loader.context.switchedTo header) board')
  | rolledBack {header : Header} (falls : fallsBack board.loader.context.active)
      (holds : board.flash.HoldsImage board.loader.layout.slotA header)
      (noted : board.Noted (board.loader.context.rolledBackTo header) board')

/-- A lock leaves the boot loader no move but to keep its context or to fall back. -/
theorem Move.cases_of_locked (hmove : board.Move fallsBack board')
    (hlocked : board.loader.updateLocked = true) :
    board.Noted board.loader.context board'
      ∨ ∃ header, board.Noted (board.loader.context.rolledBackTo header) board' := by
  have hnot : board.loader.updateLocked ≠ false := by
    rw [hlocked]
    exact fun h => nomatch h
  cases hmove with
  | kept noted => exact .inl noted
  | rolledBack _ _ noted => exact .inr ⟨_, noted⟩
  | cleared free _ => exact absurd free hnot
  | offered free _ _ => exact absurd free hnot
  | switched free _ _ _ => exact absurd free hnot

/-- Under a lock the active slot does not become the update slot, and nothing becomes pending. -/
theorem Move.of_locked (hmove : board.Move fallsBack board')
    (hlocked : board.loader.updateLocked = true) :
    board'.loader.updateLocked = true
      ∧ board'.loader.context.updatePending = board.loader.context.updatePending
      ∧ (board'.loader.context.active = board.loader.context.active
        ∨ board'.loader.context.active = .a) := by
  rcases hmove.cases_of_locked hlocked with noted | ⟨header, noted⟩
  · exact ⟨noted.locked_eq.trans hlocked, congrArg (·.updatePending) noted.context_eq,
      .inl (congrArg (·.active) noted.context_eq)⟩
  · exact ⟨noted.locked_eq.trans hlocked, congrArg (·.updatePending) noted.context_eq,
      .inr (congrArg (·.active) noted.context_eq)⟩

/-- Any number of moves. -/
abbrev Moves (fallsBack : Slot → Prop) : Board g → Board g → Prop :=
  Relation.ReflTransGen (Move fallsBack)

theorem Moves.of_noted (noted : board.Noted board.loader.context board') :
    Moves fallsBack board board' :=
  .single (.kept noted)

/-! ## Decisions -/

theorem moves_of_inspects {ε α : Type} {x : Action BoardEvent (Board g) ε α}
    (hx : Inspects (fun _ => False) x) (board : Board g) :
    Moves fallsBack board (effect x board).2 :=
  .of_noted (hx.sameBytes board).noted

theorem moves_checkUpdate (board : Board g) : Moves fallsBack board (effect checkUpdate board).2 := by
  have houtcome := checkUpdate_outcome board
  generalize effect checkUpdate board = r at houtcome ⊢
  cases houtcome with
  | locked _ noted => exact .single (.kept noted)
  | nothing free _ noted => exact .single (.cleared free noted)
  | newer free holds _ noted => exact .single (.offered free holds noted)
  | notNewer free holds _ noted => exact .single (.offered free holds noted)

theorem moves_switchToUpdate (board : Board g) :
    Moves fallsBack board (effect switchToUpdate board).2 := by
  have houtcome := switchToUpdate_outcome board
  generalize effect switchToUpdate board = r at houtcome ⊢
  cases houtcome with
  | refused _ noted => exact .single (.kept noted)
  | invalid _ _ _ noted => exact .single (.kept noted)
  | switched free pending holds noted => exact .single (.switched free pending holds noted)

theorem moves_rollback (board : Board g) (falls : fallsBack board.loader.context.active) :
    Moves fallsBack board (effect rollback board).2 := by
  have houtcome := rollback_outcome board
  generalize effect rollback board = r at houtcome ⊢
  cases houtcome with
  | invalid _ noted => exact .single (.kept noted)
  | rolledBack holds noted => exact .single (.rolledBack falls holds noted)

theorem moves_jump (slot : Nat) (board : Board g) :
    Moves fallsBack board (effect (jump slot) board).2 :=
  .of_noted (jump_noted slot board)

/-- An update that is taken becomes pending first. -/
theorem Moves.of_take {context : BootContext} (htake : TakeOutcome board context)
    (hnoted : board.Noted context board') : Moves fallsBack board board' := by
  -- Every way but the last one is a single move.
  cases htake with
  | locked _ => exact .single (.kept hnoted)
  | nothing free _ => exact .single (.cleared free hnoted)
  | notNewer free holds _ => exact .single (.offered free holds hnoted)
  | missed free holds _ _ => exact .single (.offered free holds hnoted)
  | taken free holds newer =>
    -- The update is offered on a board that the run itself never stops at.
    rename_i header
    let pending : Board g :=
      ⟨board.flash, { board.loader with context := board.loader.context.offered header }⟩
    have hoffered : Move fallsBack board pending := .offered free holds ⟨rfl, rfl, rfl, rfl⟩
    have hswitched : Move fallsBack pending board' :=
      .switched free newer holds
        ⟨hnoted.cells_eq, hnoted.layout_eq, hnoted.locked_eq, hnoted.context_eq⟩
    exact .tail (.single hoffered) hswitched

theorem moves_boot (falls : fallsBack .b) (board : Board g) :
    Moves fallsBack board (effect boot board).2 := by
  obtain ⟨context, taken, htake, hnoted, _, hactive⟩ := boot_outcome board
  refine (Moves.of_take htake hnoted).trans ?_
  generalize effect boot board = r at hactive ⊢
  cases hactive with
  | stayed _ _ noted => exact .single (.kept noted)
  | fellBack active_eq _ holds _ noted =>
    refine .single (.rolledBack ?_ holds noted)
    rw [active_eq]
    exact falls
  | failed _ noted => exact .single (.kept noted)

end DualSlot.Board
