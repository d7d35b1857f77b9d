import DualSlot.Proofs.Bench.Ownership

/-!
# What a device writes, and where

The frame of a whole device, in every state that a run can reach: which bytes a call may change.

* No byte below the update slot ever changes.
* A call changes no byte at all, unless it erases or programs the update slot, or is a session's call to
  start a transfer or to receive a chunk (`BenchCall.Silent`).
* Erasing the update slot erases its pages and nothing else, and programming a string changes bytes in the
  place of the string only, although whole words are written (`Bench.Framed`).
-/

namespace DualSlot

/-! ## Calls that write nothing -/

/-- The call is not meant to write. Power cycles are free: power on only reads. -/
def BenchCall.Silent : BenchCall → Prop
  | .flash call => (Turn.flash call).Quiet
  | .boot (.eraseUpdateSlot _) | .boot (.programUpdateSlot ..) => False
  | .boot _ => True
  | .session _ call => ¬ call.Writes
  | .openSession .. | .closeSession .. | .setVerdict .. => True

/-- A silent call is a power cycle, or one after which nothing was written behind the back of the
sessions, and by them neither. -/
theorem BenchCall.Silent.split {call : BenchCall} (h : call.Silent) :
    (∃ layout, call = .boot (.restart layout))
      ∨ (call.Mediated ∧ ∀ name sessionCall, call = .session name sessionCall →
          ¬ sessionCall.Writes) := by
  cases call with
  | flash call => exact .inr ⟨h, fun _ _ heq => nomatch heq⟩
  | boot call =>
    cases call with
    | restart layout => exact .inl ⟨layout, rfl⟩
    | eraseUpdateSlot length => exact h.elim
    | programUpdateSlot offset data => exact h.elim
    | _ => exact .inr ⟨trivial, fun _ _ heq => nomatch heq⟩
  | session name call =>
    refine .inr ⟨trivial, fun _ _ heq => ?_⟩
    cases heq
    exact h
  | openSession name config listens rejects => exact .inr ⟨trivial, fun _ _ heq => nomatch heq⟩
  | closeSession name inUse => exact .inr ⟨trivial, fun _ _ heq => nomatch heq⟩
  | setVerdict name rejects => exact .inr ⟨trivial, fun _ _ heq => nomatch heq⟩

namespace Board

open DualSlot.Action

variable {g : Geometry}

theorem cells_restart (layout : Layout) (board : Board g) :
    (effect (restart layout) board).2.flash.cells = board.flash.cells := by
  obtain ⟨hcells, _⟩ := powerOn_frame layout board.flash
  unfold effect restart
  dsimp only
  -- A loader that does not start leaves the old one, and neither writes.
  rcases hpower : powerOn layout board.flash with ⟨_ | started, after, events⟩ <;>
    rw [hpower] at hcells <;> exact hcells

end Board

namespace Bench

open DualSlot.Action

variable {g : Geometry}

/-- A silent call changes no byte. -/
theorem cells_silent {call : BenchCall} (hsilent : call.Silent) (bench : Bench g) :
    (effect (step call) bench).2.board.flash.cells = bench.board.flash.cells := by
  rcases hsilent.split with ⟨layout, rfl⟩ | ⟨hmediated, hno⟩
  · -- A power cycle may bring another layout, but it only reads.
    show (effect ((Board.restart layout).answering Answer.done) bench.board).2.flash.cells = _
    rw [effect_answering]
    exact Board.cells_restart layout bench.board
  · exact (unwritten_step hmediated hno bench).cells_eq

end Bench

/-! ## Calls that write the update slot -/

namespace Flash

variable {g : Geometry}

/-- The second flash is the first one with the bytes from `start` up to `stop` erased, all of which
exist. -/
structure ErasedJust (start stop : Nat) (flash flash' : Flash g) : Prop where
  erased : ∀ i, start ≤ i → i < stop → flash'.cells[i]? = some erasedByte
  below : AgreeOn 0 start flash flash'
  above : AgreeOn stop g.capacity flash flash'

/-- The second flash is the first one but for bytes from `start` up to `stop`. -/
structure ChangedWithin (start stop : Nat) (flash flash' : Flash g) : Prop where
  below : AgreeOn 0 start flash flash'
  above : AgreeOn stop g.capacity flash flash'

theorem erasedJust_blank {start stop : Nat} (hstop : stop ≤ g.capacity) (flash : Flash g) :
    ErasedJust start stop flash (flash.blank start stop) where
  erased i hlow hhigh :=
    (Cells.isErased_iff (Nat.lt_of_lt_of_le hhigh hstop)).mp (erased_blank flash start stop i hlow hhigh)
  below := .blank flash (.inl (Nat.le_refl start))
  above := .blank flash (.inr (Nat.le_refl stop))

theorem changedWithin_of_splice {offset : Nat} {data : List UInt8} {flash flash' : Flash g} {stop : Nat}
    (h : flash'.cells = (flash.splice offset data).cells) (hstop : offset + data.length ≤ stop) :
    ChangedWithin offset stop flash flash' where
  below := (AgreeOn.splice flash (.inl (Nat.le_refl offset))).trans (.of_cells_eq h.symm)
  above := (AgreeOn.splice flash (.inr hstop)).trans (.of_cells_eq h.symm)

end Flash

namespace Board

open DualSlot.Action

variable {g : Geometry} {board board' : Board g}

/-- Rounding to pages goes neither below the update slot nor past the end of the flash. -/
theorem erasedJust_of_erased {length : Nat}
    (h : effect (eraseUpdateSlot length) board = (.ok (), board')) :
    Flash.ErasedJust board.loader.layout.slotB
      (pageEnd (board.loader.layout.slotB + length) g.eraseSize) board.flash board'.flash := by
  rcases eraseUpdateSlot_cases length board with ⟨e, herror⟩ | ⟨hok, _, hroom⟩
  · rw [herror] at h
    cases h
  · rw [hok] at h
    cases h
    exact Flash.erasedJust_blank (pageEnd_le g.eraseSize_pos hroom) board.flash

/-- A string is written in its place, whether it can be written to its end or not. -/
theorem changedWithin_of_programmed (offset : Nat) (data : List UInt8) (board : Board g) :
    Flash.ChangedWithin (board.loader.layout.slotB + offset)
      (board.loader.layout.slotB + offset + data.length) board.flash
      (effect (programUpdateSlot offset data) board).2.flash := by
  obtain ⟨stored, _, hcells⟩ := programUpdateSlot_prefix offset data board
  refine Flash.changedWithin_of_splice hcells (Nat.add_le_add_left ?_ _)
  exact List.length_take_le' stored data

end Board

/-! ## Any run -/

namespace Bench

open DualSlot.Action

variable {g : Geometry} {layout : Layout} {before : Flash g}

/-- A device that started over a flash has written nothing below the update slot since, and what its calls
write next is in its place. -/
structure Framed (layout : Layout) (before : Flash g) (bench : Bench g) : Prop where
  below_kept : Flash.AgreeOn 0 layout.slotB before bench.board.flash
  silent : ∀ call : BenchCall, call.Silent →
    (effect (step call) bench).2.board.flash.cells = bench.board.flash.cells
  erases : ∀ length board',
    effect (Board.eraseUpdateSlot length) bench.board = (.ok (), board') →
      Flash.ErasedJust layout.slotB (pageEnd (layout.slotB + length) g.eraseSize) bench.board.flash
        board'.flash
  programs : ∀ offset data,
    Flash.ChangedWithin (layout.slotB + offset) (layout.slotB + offset + data.length)
      bench.board.flash (effect (Board.programUpdateSlot offset data) bench.board).2.flash

theorem framed_of_keptBelow {bench : Bench g} (h : bench.board.KeptBelow layout before) :
    bench.Framed layout before := by
  -- The layout is fixed, so the places of the update slot are those of the board.
  have hlayout := h.layout_eq
  refine ⟨h.agree, fun call hsilent => cells_silent hsilent bench, ?_, ?_⟩
  · intro length board' herased
    rw [← hlayout]
    exact Board.erasedJust_of_erased herased
  · intro offset data
    rw [← hlayout]
    exact Board.changedWithin_of_programmed offset data bench.board

/-- In every run, of the boot loader, of any number of sessions, and with whatever faults, all that is
written is written to the update slot, and in its place. -/
theorem framed_after_any_run {board : Board g} {calls : List BenchCall}
    (hpower : effect (Board.powerOn layout) before = (.ok board.loader, board.flash))
    (hcalls : ∀ call ∈ calls, call.Spares layout) :
    ((ofBoard board).steps calls).Framed layout before := by
  obtain ⟨hcells, hlayouts⟩ := Board.powerOn_frame layout before
  have hlayout : board.loader.layout = layout := by
    refine hlayouts board.loader ?_
    rw [result_eq_effect, hpower]
  -- Power on only reads, so nothing has changed yet.
  have hsame : board.flash.cells = before.cells := by
    rw [← hcells]
    exact (congrArg (fun r => r.2.cells) hpower).symm
  have hstart : (ofBoard board).board.KeptBelow layout before :=
    ⟨hlayout, .of_cells_eq hsame.symm⟩
  exact framed_of_keptBelow (keptBelow_steps (hlayout ▸ board.loader.fits) hcalls hstart)

theorem framed_after_brokenUpdate :
    ((ofBoard Factory.board).steps brokenUpdate).Framed Factory.layout Factory.flash :=
  framed_after_any_run Factory.powerOn_board (by decide)

end Bench

end DualSlot
