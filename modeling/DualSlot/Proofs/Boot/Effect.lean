import DualSlot.Boot.Board
import DualSlot.Proofs.Flash.Reading

/-!
# The steps of the boot loader

What the basic steps of the boot loader do to a board, and which of its calls only look at the flash.

`Board.Inspects` describes a call by how it is put together: of reads, reports and notes in the loader.
What holds of all these calls is proved once, by induction on it: they only read
(`Inspects.onlyReads`), and an invariant that survives a read and a note survives the call
(`Inspects.keeps`). All checks and all decisions of the boot loader are such calls.
-/

namespace DualSlot

instance {g : Geometry} : OverFlash (Board g) g where
  flash board := board.flash
  mute board := { board with flash := board.flash.mute }

namespace Board

open DualSlot.Action

variable {g : Geometry} {ε ε' α : Type}

/-- The board without planned faults of reads. -/
def mute (board : Board g) : Board g := { board with flash := board.flash.mute }

/-- A call on the flash changes nothing about the loader. -/
@[simp] theorem effect_onFlash (wrap : ε → ε') (x : Action FlashMessage (Flash g) ε α)
    (board : Board g) :
    effect (onFlash wrap x) board
      = ((effect x board.flash).1.mapError wrap, ⟨(effect x board.flash).2, board.loader⟩) := rfl

@[simp] theorem effect_look (f : Loader g → α) (board : Board g) :
    effect (look f) board = (.ok (f board.loader), board) := rfl

@[simp] theorem effect_change (f : Loader g → Loader g) (board : Board g) :
    effect (change f) board = (.ok (), ⟨board.flash, f board.loader⟩) := rfl

@[simp] theorem effect_changeContext (f : BootContext → BootContext) (board : Board g) :
    effect (changeContext f) board
      = (.ok (), ⟨board.flash, { board.loader with context := f board.loader.context }⟩) := rfl

@[simp] theorem effect_report (message : BootMessage) (board : Board g) :
    effect (report message) board = (.ok (), board) := rfl

@[simp] theorem effect_enter (stage : BootStage) (board : Board g) :
    effect (enter stage) board = (.ok (), ⟨board.flash, { board.loader with stage }⟩) := rfl

/-- A refusal remembers its error and changes nothing else. -/
@[simp] theorem effect_refuse (e : BootError) (board : Board g) :
    effect (refuse e : BoardAction g α) board
      = (.error e, ⟨board.flash, { board.loader with lastError := some e }⟩) := rfl

/-- A failure is remembered too, and is a stage of its own. -/
@[simp] theorem effect_abandon (e : BootError) (board : Board g) :
    effect (abandon e : BoardAction g α) board
      = (.error e,
          ⟨board.flash, { board.loader with stage := .failed, lastError := some e }⟩) := rfl

/-! ## The lock -/

/-- The board with the update slot locked. -/
def locked (board : Board g) : Board g :=
  ⟨board.flash, { board.loader with updateLocked := true }⟩

/-- The board with the update slot free. -/
def unlocked (board : Board g) : Board g :=
  ⟨board.flash, { board.loader with updateLocked := false }⟩

@[simp] theorem flash_locked (board : Board g) : board.locked.flash = board.flash := rfl

@[simp] theorem flash_unlocked (board : Board g) : board.unlocked.flash = board.flash := rfl

@[simp] theorem layout_locked (board : Board g) :
    board.locked.loader.layout = board.loader.layout := rfl

@[simp] theorem layout_unlocked (board : Board g) :
    board.unlocked.loader.layout = board.loader.layout := rfl

@[simp] theorem updateLocked_locked (board : Board g) :
    board.locked.loader.updateLocked = true := rfl

@[simp] theorem updateLocked_unlocked (board : Board g) :
    board.unlocked.loader.updateLocked = false := rfl

/-- Locking a free slot and giving it back changes nothing. -/
theorem unlocked_locked {board : Board g} (h : board.loader.updateLocked = false) :
    board.locked.unlocked = board := by
  rcases board with ⟨flash, loader⟩
  unfold locked unlocked
  rw [← show loader.updateLocked = false from h]

/-- A free slot can be locked. -/
theorem effect_lockUpdateSlot_of_free {board : Board g} (h : board.loader.updateLocked = false) :
    effect lockUpdateSlot board = (.ok (), board.locked) := by
  unfold lockUpdateSlot
  rw [effect_bind, effect_look, resume_ok, h]
  rfl

/-- A locked slot cannot be locked again, and nothing changes. -/
theorem effect_lockUpdateSlot_of_locked {board : Board g} (h : board.loader.updateLocked = true) :
    effect lockUpdateSlot board = (.error .updateInProgress, board) := by
  unfold lockUpdateSlot
  rw [effect_bind, effect_look, resume_ok, h]
  rfl

@[simp] theorem effect_unlockUpdateSlot (board : Board g) :
    effect unlockUpdateSlot board = (.ok (), board.unlocked) := rfl

/-! ## Inspections -/

/-- A call made of reads, reports, and notes that change the loader as `notes` allows. -/
inductive Inspects (notes : (Loader g → Loader g) → Prop) :
    ∀ {ε α : Type}, Action BoardEvent (Board g) ε α → Prop where
  | pure {ε α : Type} (a : α) : Inspects notes (pure a : Action BoardEvent (Board g) ε α)
  | fail {ε α : Type} (e : ε) : Inspects notes (fail e : Action BoardEvent (Board g) ε α)
  | look {α : Type} (f : Loader g → α) : Inspects notes (look f)
  | report (message : BootMessage) : Inspects notes (report message)
  | note {f : Loader g → Loader g} (hf : notes f) : Inspects notes (change f)
  | onFlash {ε ε' α : Type} (wrap : ε → ε') {x : Action FlashMessage (Flash g) ε α}
      (hx : OnlyReads x) : Inspects notes (onFlash wrap x)
  | bind {ε α β : Type} {x : Action BoardEvent (Board g) ε α}
      {f : α → Action BoardEvent (Board g) ε β} (hx : Inspects notes x)
      (hf : ∀ a, Inspects notes (f a)) : Inspects notes (x >>= f)
  | attempt {ε ε' α : Type} {x : Action BoardEvent (Board g) ε α} (hx : Inspects notes x) :
      Inspects notes (x.attempt : Action BoardEvent (Board g) ε' (Except ε α))

namespace Inspects

variable {notes : (Loader g → Loader g) → Prop} {x y : Action BoardEvent (Board g) ε α}

/-- Of two inspections either may be chosen. -/
theorem ite {p : Prop} [Decidable p] (hx : Inspects notes x) (hy : Inspects notes y) :
    Inspects notes (if p then x else y) := by
  split
  · exact hx
  · exact hy

/-- A condition that is required only decides about going on. -/
theorem require (condition : Bool) (e : ε) :
    Inspects notes (require condition e : Action BoardEvent (Board g) ε Unit) := by
  cases condition with
  | false => exact .fail e
  | true => exact .pure ()

/-- Whatever notes are taken, the flash is only read. -/
theorem onlyReads (hx : Inspects notes x) : OnlyReads x := by
  induction hx with
  | pure a => exact onlyReads_pure a
  | fail e => exact onlyReads_fail e
  | look f => exact onlyReads_of_untouched fun _ => ⟨rfl, rfl⟩
  | report message => exact onlyReads_say _
  | note _ => exact onlyReads_of_untouched fun _ => ⟨rfl, rfl⟩
  | onFlash wrap hx =>
    intro board
    obtain ⟨count, hflash, hmute⟩ := hx board.flash
    refine ⟨count, hflash, fun hadmits => ?_⟩
    have hmuted := hmute hadmits
    simp only [OverFlash.mute, effect_onFlash] at hmuted ⊢
    rw [hmuted]
  | bind _ _ ihx ihf => exact ihx.bind ihf
  | attempt _ ih => exact ih.attempt

/-- An invariant survives an inspection if it survives a read and each of the notes. -/
theorem keeps (hx : Inspects notes x) {I : Board g → Prop}
    (hread : ∀ flash loader count, I ⟨flash, loader⟩ → I ⟨flash.afterReads count, loader⟩)
    (hnote : ∀ f, notes f → ∀ flash loader, I ⟨flash, loader⟩ → I ⟨flash, f loader⟩) :
    Keeps I x := by
  induction hx with
  | pure a => exact keeps_pure a
  | fail e => exact keeps_fail e
  | look f => exact keeps_look _
  | report message => exact keeps_say _
  | note hf => exact fun board hboard => hnote _ hf board.flash board.loader hboard
  | onFlash wrap hx =>
    -- All that a read leaves behind is a plan that moved on.
    intro board hboard
    obtain ⟨count, hflash, _⟩ := hx board.flash
    rw [effect_onFlash, show (effect _ board.flash).2 = _ from hflash]
    exact hread board.flash board.loader count hboard
  | bind _ _ ihx ihf => exact ihx.bind ihf
  | attempt _ ih => exact ih.attempt

/-- Without planned faults an inspection leaves the flash as it is. -/
theorem flash_eq_of_muted (hx : Inspects notes x) {board : Board g}
    (hmuted : board.flash.readPlan = none) : (effect x board).2.flash = board.flash := by
  obtain ⟨count, hflash, _⟩ := hx.onlyReads board
  exact hflash.trans (Flash.afterReads_of_muted hmuted count)

end Inspects

/-! ## Checks -/

section Checks

variable {notes : (Loader g → Loader g) → Prop}

/-- The header of a slot is only read. -/
theorem inspects_readHeader (slot : Nat) :
    Inspects notes (readHeader slot : BoardAction g Header) :=
  .bind (.onFlash _ (Flash.onlyReads_read _ _)) fun _ => .pure _

/-- The payload is only read. -/
theorem inspects_payloadCrc (slot : Nat) (header : Header) :
    Inspects notes (payloadCrc slot header : BoardAction g UInt32) :=
  .bind (.require _ _) fun _ => .onFlash _ (Flash.onlyReads_checksum _ _)

/-- The check of an image notes nothing at all in the loader, whatever `notes` would allow. -/
theorem inspects_validate (slot : Nat) : Inspects notes (validate slot : BoardAction g Header) := by
  unfold validate
  refine .bind (.require _ _) fun _ => .bind (inspects_readHeader slot) fun header => ?_
  refine .ite (.bind (.report _) fun _ => .fail _) (.ite (.bind (.report _) fun _ => .fail _) ?_)
  refine .bind (inspects_payloadCrc slot header) fun calculated => ?_
  exact .ite (.bind (.report _) fun _ => .fail _) (.bind (.report _) fun _ => .pure _)

end Checks

/-! ## Decisions -/

/-- Changes of the stage, the last error and the context: the layout and the lock stay. -/
def Notes (f : Loader g → Loader g) : Prop :=
  ∀ loader, ∃ stage lastError context, f loader = { loader with stage, lastError, context }

theorem notes_enter (stage : BootStage) : Notes fun loader : Loader g => { loader with stage } :=
  fun loader => ⟨stage, loader.lastError, loader.context, rfl⟩

theorem notes_context (f : BootContext → BootContext) :
    Notes fun loader : Loader g => { loader with context := f loader.context } :=
  fun loader => ⟨loader.stage, loader.lastError, f loader.context, rfl⟩

theorem inspects_enter (stage : BootStage) : Inspects Notes (enter stage : BoardAction g Unit) :=
  .note (notes_enter stage)

theorem inspects_changeContext (f : BootContext → BootContext) :
    Inspects Notes (changeContext f : BoardAction g Unit) :=
  .note (notes_context f)

theorem inspects_refuse (e : BootError) : Inspects Notes (refuse e : BoardAction g α) :=
  .bind (.note fun loader => ⟨loader.stage, some e, loader.context, rfl⟩) fun _ => .fail e

theorem inspects_abandon (e : BootError) : Inspects Notes (abandon e : BoardAction g α) :=
  .bind (.note fun loader => ⟨.failed, some e, loader.context, rfl⟩) fun _ => .fail e

/-- A look for an update is an inspection. -/
theorem inspects_checkUpdate : Inspects Notes (checkUpdate : BoardAction g UpdateOffer) := by
  unfold checkUpdate
  -- Under a lock nothing is looked at. Otherwise the verdict on the update slot is noted.
  refine .bind (.look _) fun locked => .ite (.bind (.report _) fun _ => inspects_refuse _) ?_
  refine .bind (.report _) fun _ => .bind (inspects_enter _) fun _ => ?_
  refine .bind (.look _) fun slot => .bind (inspects_validate slot).attempt fun answer => ?_
  -- An image that is not valid is no update, and one that is may be newer or not.
  cases answer with
  | error e =>
    exact .bind (.report _) fun _ => .bind (inspects_changeContext _) fun _ => inspects_refuse e
  | ok header =>
    refine .bind (.look _) fun current => .ite ?_ ?_
    · exact .bind (.report _) fun _ => .bind (inspects_changeContext _) fun _ => .pure _
    · exact .bind (.report _) fun _ => .bind (inspects_changeContext _) fun _ => .pure _

/-- A switch is an inspection: it changes the context, and writes nothing. -/
theorem inspects_switchToUpdate : Inspects Notes (switchToUpdate : BoardAction g Unit) := by
  unfold switchToUpdate
  -- The image is checked once more before it becomes the active one.
  refine .bind (.look _) fun locked => .ite (inspects_refuse _) ?_
  refine .bind (.look _) fun pending => .ite (.bind (.report _) fun _ => inspects_refuse _) ?_
  refine .bind (.report _) fun _ => .bind (inspects_enter _) fun _ => ?_
  refine .bind (.look _) fun slot => .bind (inspects_validate slot).attempt fun answer => ?_
  cases answer with
  | error e => exact .bind (.report _) fun _ => inspects_abandon e
  | ok header => exact .bind (inspects_changeContext _) fun _ => .report _

/-- Falling back is an inspection. -/
theorem inspects_rollback : Inspects Notes (rollback : BoardAction g Unit) := by
  unfold rollback
  refine .bind (.report _) fun _ => .bind (.look _) fun slot => ?_
  refine .bind (inspects_validate slot).attempt fun answer => ?_
  cases answer with
  | error e => exact .bind (.report _) fun _ => inspects_abandon _
  | ok header => exact .bind (inspects_changeContext _) fun _ => .report _

/-- A jump is an inspection. -/
theorem inspects_jump (slot : Nat) : Inspects Notes (jump slot : BoardAction g AppEntry) := by
  unfold jump
  refine .bind (.look _) fun _ => .ite (.bind (.report _) fun _ => inspects_abandon _) ?_
  refine .bind (.onFlash _ (Flash.onlyReads_readWord _)) fun stackPointer => ?_
  refine .bind (.onFlash _ (Flash.onlyReads_readWord _)) fun programCounter => ?_
  refine .bind (.report _) fun _ => .bind (.report _) fun _ => .bind (.report _) fun _ => ?_
  exact .bind (inspects_enter _) fun _ => .pure _

/-- Taking an update is an inspection. -/
theorem inspects_takeUpdate : Inspects Notes (takeUpdate : BoardAction g Unit) := by
  unfold takeUpdate
  refine .bind inspects_checkUpdate.attempt fun offer => ?_
  -- Whatever goes wrong is reported, and the boot goes on.
  cases offer with
  | error e => exact .report _
  | ok offer =>
    cases offer with
    | notNewer => exact .pure ()
    | newer version =>
      refine .bind inspects_switchToUpdate.attempt fun answer => ?_
      cases answer with
      | error e => exact .report _
      | ok _ => exact .pure ()

/-- A boot is an inspection, so that it writes nothing either. -/
theorem inspects_boot : Inspects Notes (boot : BoardAction g AppEntry) := by
  unfold boot
  refine .bind inspects_takeUpdate fun _ => .bind (inspects_enter _) fun _ => ?_
  refine .bind (.look _) fun active => .bind (.look _) fun slot => ?_
  have hjump : Inspects Notes (look (·.activeSlot) >>= jump : BoardAction g AppEntry) :=
    .bind (.look _) inspects_jump
  refine .bind (inspects_validate slot).attempt fun answer => ?_
  -- Whatever is done about a bad image, the boot ends in the jump.
  cases answer with
  | ok _ => exact hjump
  | error e =>
    refine .ite ?_ ?_
    · exact .bind (.report _) fun _ => .bind (inspects_abandon _) fun _ => hjump
    · exact .bind (.report _) fun _ => .bind inspects_rollback fun _ => hjump

/-- The decisions of the boot loader write nothing, and leave the layout and the lock alone. -/
theorem Inspects.frame {x : Action BoardEvent (Board g) ε α} (hx : Inspects Notes x)
    (board : Board g) :
    (effect x board).2.flash.cells = board.flash.cells
      ∧ (effect x board).2.loader.layout = board.loader.layout
      ∧ (effect x board).2.loader.updateLocked = board.loader.updateLocked := by
  refine hx.keeps (I := fun after => after.flash.cells = board.flash.cells
      ∧ after.loader.layout = board.loader.layout
      ∧ after.loader.updateLocked = board.loader.updateLocked) ?_ ?_ board ⟨rfl, rfl, rfl⟩
  · -- A read leaves the bytes, and a note leaves the layout and the lock.
    intro flash loader count h
    exact h
  · intro f hf flash loader h
    obtain ⟨stage, lastError, context, heq⟩ := hf loader
    rw [heq]
    exact h

/-! ## Boards that were only read -/

/-- The second board has the bytes and the loader of the first one; the fault plan may have moved on. -/
structure SameBytes (board board' : Board g) : Prop where
  cells_eq : board'.flash.cells = board.flash.cells
  loader_eq : board'.loader = board.loader

/-- Every board has its own bytes. -/
theorem SameBytes.refl (board : Board g) : SameBytes board board := ⟨rfl, rfl⟩

theorem SameBytes.trans {board board' board'' : Board g} (h : SameBytes board board')
    (h' : SameBytes board' board'') : SameBytes board board'' :=
  ⟨h'.cells_eq.trans h.cells_eq, h'.loader_eq.trans h.loader_eq⟩

/-- The same bytes in every region. -/
theorem SameBytes.slice_eq {board board' : Board g} (h : SameBytes board board')
    (offset length : Nat) :
    board'.flash.slice offset length = board.flash.slice offset length := by
  unfold Flash.slice
  rw [h.cells_eq]

/-- An inspection without notes leaves bytes and loader as they are. -/
theorem Inspects.sameBytes {x : Action BoardEvent (Board g) ε α}
    (hx : Inspects (fun _ => False) x) (board : Board g) : SameBytes board (effect x board).2 := by
  refine hx.keeps (I := SameBytes board) ?_ ?_ board (.refl board)
  · exact fun flash loader count h => ⟨h.cells_eq, h.loader_eq⟩
  · exact fun f hf => hf.elim

end Board

end DualSlot
