import DualSlot.Proofs.Boot.Decision
import DualSlot.Proofs.TwoRuns

/-!
# Boards that look alike to a session

A session sees the bytes, the layout and the lock of its board. It does not see what the boot loader has
made up its mind about, nor how often the flash was read. Two boards that differ in this only are alike
(`Board.Alike`), and the calls that a session makes on a board respect that.

The one thing that could tell the number of reads is a planned fault. Reads are therefore followed up to
a `limit`, before which the plan lets all of them through. A run that goes past it is lost.
-/

namespace DualSlot

namespace Flash

open DualSlot.Action

variable {g : Geometry} {limit : Nat} {flash flash' : Flash g}

/-! ## The flash -/

/-- More calls to read were counted than `limit`. -/
def PastReads (limit : Nat) (flash : Flash g) : Prop :=
  ∃ plan, flash.readPlan = some plan ∧ limit < plan.calls

/-- The first flash is the second one after some more reads, and up to the limit none is made to fail. -/
structure Alike (limit : Nat) (flash flash' : Flash g) : Prop where
  more_reads : ∃ count, flash = flash'.afterReads count
  clear : ∀ plan, flash'.readPlan = some plan →
    ∀ call, plan.calls ≤ call → call < limit → plan.verdict call = none

theorem Alike.cells_eq (h : flash.Alike limit flash') : flash'.cells = flash.cells := by
  obtain ⟨count, rfl⟩ := h.more_reads
  rfl

theorem Alike.slice_eq (h : flash.Alike limit flash') (offset length : Nat) :
    flash'.slice offset length = flash.slice offset length := by
  unfold slice
  rw [h.cells_eq]

theorem Alike.afterReads (h : flash.Alike limit flash') (count : Nat) :
    (flash.afterReads count).Alike limit flash' where
  more_reads := by
    obtain ⟨before, rfl⟩ := h.more_reads
    exact ⟨before + count, (flash'.afterReads_add before count).symm⟩
  clear := h.clear

theorem PastReads.afterReads (h : flash.PastReads limit) (count : Nat) :
    (flash.afterReads count).PastReads limit := by
  obtain ⟨plan, hplan, hpast⟩ := h
  refine ⟨{ plan with calls := plan.calls + count }, ?_, Nat.lt_add_right count hpast⟩
  unfold Flash.afterReads
  rw [hplan]
  rfl

/-- A flash whose reads all went through until later looks like itself, up to the last of these reads. -/
theorem alike_self_of_reads {later : Flash g} (hreads : flash.ReadsWentThrough later) :
    ∃ limit, flash.Alike limit flash ∧ ¬ later.PastReads limit := by
  have hmore : ∃ count, flash = flash.afterReads count := ⟨0, flash.afterReads_zero.symm⟩
  cases hlater : later.readPlan with
  | none =>
    refine ⟨0, ⟨hmore, fun _ _ call _ h => absurd h (Nat.not_lt_zero call)⟩, ?_⟩
    rintro ⟨plan, hplan, _⟩
    cases hlater.symm.trans hplan
  | some plan' =>
    refine ⟨plan'.calls, ⟨hmore, fun plan hplan => hreads plan plan' hplan hlater⟩, ?_⟩
    rintro ⟨plan, hplan, hpast⟩
    obtain rfl := Option.some.inj (hlater.symm.trans hplan)
    exact Nat.lt_irrefl _ hpast

/-! ## Reads -/

/-- The next read is not made to fail, on neither flash, if it does not go past the limit. -/
theorem Alike.readFault_eq_none (h : flash.Alike limit flash')
    (hon : ¬ (flash.afterReads 1).PastReads limit) :
    flash.readFault = none ∧ flash'.readFault = none := by
  obtain ⟨⟨count, rfl⟩, hclear⟩ := h
  rcases flash' with ⟨cells, eraseBroken, _ | plan, writePlan⟩
  · exact ⟨rfl, rfl⟩
  · -- The plan has counted the reads of the first flash already, so its next read is the later
    -- one.
    have hlimit : plan.calls + count < limit :=
      Nat.lt_of_not_le fun hpast => hon ⟨_, rfl, Nat.lt_succ_of_le hpast⟩
    refine ⟨hclear plan rfl (plan.calls + count) (Nat.le_add_right _ _) hlimit, ?_⟩
    exact hclear plan rfl plan.calls (Nat.le_refl _) (Nat.lt_of_le_of_lt (Nat.le_add_right _ _) hlimit)

theorem Alike.afterReads_both (h : flash.Alike limit flash') (count : Nat) :
    (flash.afterReads count).Alike limit (flash'.afterReads count) := by
  obtain ⟨⟨more, rfl⟩, hclear⟩ := h
  refine ⟨⟨more, ?_⟩, fun plan hplan call hlow hhigh => ?_⟩
  · rw [← afterReads_add, ← afterReads_add, Nat.add_comm]
  · obtain ⟨before, hbefore, rfl⟩ := Option.map_eq_some_iff.mp hplan
    exact hclear before hbefore call (Nat.le_of_add_right_le hlow) hhigh

theorem admitRead_of_no_fault (h : flash.readFault = none) :
    admitRead flash = ⟨.ok (), flash.afterReads 1, []⟩ := by
  rcases flash with ⟨cells, eraseBroken, _ | plan, writePlan⟩
  · rfl
  · have hnow : plan.now = none := h
    unfold admitRead
    dsimp only
    rw [hnow]
    rfl

theorem state_admitRead (flash : Flash g) : (admitRead flash).state = flash.afterReads 1 :=
  congrArg Prod.snd (effect_admitRead flash)

theorem respects_admitRead :
    Respects (Alike limit) (PastReads limit) (admitRead : FlashAction g Unit) where
  lost_stays flash h := by
    show (admitRead flash).state.PastReads limit
    rw [state_admitRead]
    exact h.afterReads 1
  same flash flash' h hon := by
    rw [state_admitRead] at hon
    obtain ⟨hfault, hfault'⟩ := h.readFault_eq_none hon
    rw [admitRead_of_no_fault hfault, admitRead_of_no_fault hfault']
    exact ⟨rfl, rfl, h.afterReads_both 1⟩

theorem respects_read (offset length : Nat) :
    Respects (Alike limit) (PastReads limit) (read offset length : FlashAction g (List UInt8)) := by
  unfold read
  refine respects_admitRead.bind fun _ => (respects_ofExcept _).bind fun _ => ?_
  exact respects_look fun _ _ h => h.slice_eq offset length

/-! ## Writes -/

/-- A call that does the same however often the flash was read, and does not read. -/
theorem respects_of_commutes {x : FlashAction g Unit}
    (hcommutes : ∀ flash count,
      x (flash.afterReads count) = { x flash with state := (x flash).state.afterReads count })
    (hplan : ∀ flash, (x flash).state.readPlan = flash.readPlan) :
    Respects (Alike limit) (PastReads limit) x where
  lost_stays := by
    rintro flash ⟨plan, hread, hpast⟩
    exact ⟨plan, (hplan flash).trans hread, hpast⟩
  same := by
    rintro flash flash' ⟨⟨count, rfl⟩, hclear⟩ _
    rw [hcommutes]
    refine ⟨rfl, rfl, ⟨count, rfl⟩, fun plan hread => ?_⟩
    exact hclear plan ((hplan flash').symm.trans hread)

theorem respects_admitWrite :
    Respects (Alike limit) (PastReads limit) (admitWrite : FlashAction g Unit) := by
  refine respects_of_commutes ?_ ?_
  · rintro ⟨cells, eraseBroken, readPlan, _ | plan⟩ count
    · rfl
    · unfold admitWrite Flash.afterReads
      dsimp only
      cases plan.now <;> rfl
  · rintro ⟨cells, eraseBroken, readPlan, _ | plan⟩
    · rfl
    · unfold admitWrite
      dsimp only
      cases plan.now <;> rfl

theorem respects_program (offset : Nat) (data : List UInt8) :
    Respects (Alike limit) (PastReads limit) (program offset data : FlashAction g Unit) := by
  refine respects_of_commutes (fun flash count => ?_) fun flash => ?_
  · unfold program
    rw [cells_afterReads]
    cases g.checkSlice 1 offset data.length with
    | error e => rfl
    | ok _ => cases Cells.firstProgrammed flash.cells offset data.length <;> rfl
  · unfold program
    cases g.checkSlice 1 offset data.length with
    | error e => rfl
    | ok _ => cases Cells.firstProgrammed flash.cells offset data.length <;> rfl

theorem respects_write (offset : Nat) (data : List UInt8) :
    Respects (Alike limit) (PastReads limit) (write offset data : FlashAction g Unit) :=
  respects_admitWrite.bind fun _ => respects_program offset data

theorem respects_feed (count offset length : Nat) (register : UInt32) :
    Respects (Alike limit) (PastReads limit)
      (feed count offset length register : FlashAction g UInt32) := by
  induction count generalizing offset length register with
  | zero => exact respects_pure register
  | succ count ih => exact (respects_read _ _).bind fun piece => ih _ _ _

theorem respects_checksum (offset length : Nat) :
    Respects (Alike limit) (PastReads limit) (checksum offset length : FlashAction g UInt32) :=
  (respects_feed _ _ _ _).bind fun _ => respects_pure _

end Flash

namespace Board

open DualSlot.Action

variable {g : Geometry} {limit : Nat} {board board' : Board g} {ε ε' α : Type}

/-! ## The board -/

/-- The flash of the board was read too often. -/
def PastReads (limit : Nat) (board : Board g) : Prop := board.flash.PastReads limit

/-- The flashes are alike, and the loaders have the layout and the lock in common. -/
structure Alike (limit : Nat) (board board' : Board g) : Prop where
  flash_alike : board.flash.Alike limit board'.flash
  layout_eq : board'.loader.layout = board.loader.layout
  locked_eq : board'.loader.updateLocked = board.loader.updateLocked

theorem respects_onFlash (wrap : ε → ε') {x : Action FlashMessage (Flash g) ε α}
    (hx : Respects (Flash.Alike limit) (Flash.PastReads limit) x) :
    Respects (Alike limit) (PastReads limit) (onFlash wrap x) where
  lost_stays board h := hx.lost_stays board.flash h
  same board board' h hon := by
    obtain ⟨hresult, hevents, hflash⟩ := hx.same board.flash board'.flash h.flash_alike hon
    exact ⟨congrArg (Except.mapError wrap) hresult, congrArg (List.map BoardEvent.flash) hevents,
      ⟨hflash, h.layout_eq, h.locked_eq⟩⟩

theorem respects_updateSlot :
    Respects (Alike limit) (PastReads limit) (look (·.updateSlot) : BoardAction g Nat) :=
  respects_look fun _ _ h => congrArg Layout.slotB h.layout_eq

theorem respects_unlockUpdateSlot :
    Respects (Alike limit) (PastReads limit) (unlockUpdateSlot : BoardAction g Unit) :=
  respects_change (fun _ h => h) fun _ _ h => ⟨h.flash_alike, h.layout_eq, rfl⟩

theorem respects_readHeader (slot : Nat) :
    Respects (Alike limit) (PastReads limit) (readHeader slot : BoardAction g Header) :=
  (respects_onFlash _ (Flash.respects_read _ _)).bind fun _ => respects_pure _

theorem respects_payloadCrc (slot : Nat) (header : Header) :
    Respects (Alike limit) (PastReads limit) (payloadCrc slot header : BoardAction g UInt32) :=
  (respects_require _ _).bind fun _ => respects_onFlash _ (Flash.respects_checksum _ _)

theorem respects_programWord (offset : Nat) (bytes : List UInt8) :
    Respects (Alike limit) (PastReads limit) (programWord offset bytes : BoardAction g Unit) := by
  unfold programWord
  refine (respects_onFlash id (Flash.respects_write _ _)).attempt.bind fun answer => ?_
  cases answer with
  | ok _ => exact respects_pure ()
  | error e => exact (respects_say _).bind fun _ => respects_fail _

theorem respects_programUpdateSlot (offset : Nat) (data : List UInt8) :
    Respects (Alike limit) (PastReads limit)
      (programUpdateSlot offset data : BoardAction g Unit) := by
  unfold programUpdateSlot
  refine respects_updateSlot.bind fun slot => (respects_require _ _).bind fun _ => ?_
  exact Respects.forEach (fun ⟨bytes, i⟩ => respects_programWord _ bytes) _

/-- A check or a decision of the boot loader is not seen by a session, whatever it comes to. -/
theorem Alike.inspected (h : board.Alike limit board') {x : Action BoardEvent (Board g) ε α}
    (hx : Inspects Notes x) : (effect x board).2.Alike limit board' := by
  obtain ⟨_, hlayout, hlocked⟩ := hx.frame board
  obtain ⟨count, hflash, _⟩ := hx.onlyReads board
  have hafter : (effect x board).2.flash = board.flash.afterReads count := hflash
  refine ⟨?_, h.layout_eq.trans hlayout.symm, h.locked_eq.trans hlocked.symm⟩
  rw [hafter]
  exact h.flash_alike.afterReads count

theorem pastReads_of_inspects {x : Action BoardEvent (Board g) ε α} (hx : Inspects Notes x) :
    Keeps (PastReads limit) x := by
  intro board h
  obtain ⟨count, hflash, _⟩ := hx.onlyReads board
  have hafter : (effect x board).2.flash = board.flash.afterReads count := hflash
  unfold PastReads
  rw [hafter]
  exact Flash.PastReads.afterReads h count

end Board

end DualSlot
