import DualSlot.Proofs.Boot.Decision
import DualSlot.Proofs.Boot.Kept

/-!
# How the decisions of the boot loader end

For each decision of the boot loader, all the ways in which it can end: the answer, the context after it,
and what is in the slots. No decision writes to the flash or changes the layout or the lock
(`Board.Noted`), so that this is all there is to say.

| decision          | context after it                                            |
|-------------------|-------------------------------------------------------------|
| `powerOn`         | slot A is active, with the header that is stored there      |
| `checkUpdate`     | unchanged, `cleared` or `offered`                           |
| `switchToUpdate`  | unchanged or `switchedTo`                                   |
| `rollback`        | unchanged or `rolledBackTo`                                 |
| `takeUpdate`      | unchanged, `cleared`, `offered` or `switchedTo`             |
| `boot`            | what `takeUpdate` leaves, and then unchanged or `rolledBackTo` |

A decision that finds no valid image may have been misled by a planned fault. Without one there is none.
-/

namespace DualSlot

/-! ## Contexts changed -/

namespace BootContext

/-- There is no valid image in the update slot. -/
def cleared (c : BootContext) : BootContext := { c with updatePending := false }

/-- There is a valid image in the update slot. It is pending just if it is newer than the active one. -/
def offered (c : BootContext) (header : Header) : BootContext :=
  { c with
    updateHeader := header
    updatePending := header.version.newerThan c.activeHeader.version }

/-- The image in the update slot became the active one. -/
def switchedTo (c : BootContext) (header : Header) : BootContext :=
  { c with
    active := .b
    activeHeader := header
    updateHeader := header
    updatePending := false
    bootCount := c.bootCount + 1 }

/-- The image in slot A became the active one again. -/
def rolledBackTo (c : BootContext) (header : Header) : BootContext :=
  { c with
    active := .a
    activeHeader := header
    rollbackRequested := true
    bootCount := c.bootCount + 1 }

end BootContext

namespace Flash

variable {g : Geometry}

/-- There is no valid image in a slot. -/
def HoldsNone (flash : Flash g) (slot : Nat) : Prop := ∀ header, ¬ flash.HoldsImage slot header

end Flash

namespace Board

open DualSlot.Action

variable {g : Geometry} {α : Type} {slot : Nat} {header : Header} {board board' board'' : Board g}
  {context context' : BootContext}

/-! ## Boards with another context -/

/-- A board with the given context in place of its own. The bytes, the layout and the lock are as before;
the stage, the last error and the fault plans may differ. -/
structure Noted (board : Board g) (context : BootContext) (board' : Board g) : Prop where
  cells_eq : board'.flash.cells = board.flash.cells
  layout_eq : board'.loader.layout = board.loader.layout
  locked_eq : board'.loader.updateLocked = board.loader.updateLocked
  context_eq : board'.loader.context = context

/-- Nothing was changed. -/
theorem Noted.refl (board : Board g) : board.Noted board.loader.context board := ⟨rfl, rfl, rfl, rfl⟩

/-- Notes of notes: the last context is the one that stays. -/
theorem Noted.trans (h : board.Noted context board') (h' : board'.Noted context' board'') :
    board.Noted context' board'' where
  cells_eq := h'.cells_eq.trans h.cells_eq
  layout_eq := h'.layout_eq.trans h.layout_eq
  locked_eq := h'.locked_eq.trans h.locked_eq
  context_eq := h'.context_eq

/-- What only reads leaves the context as it was. -/
theorem SameBytes.noted (h : SameBytes board board') : board.Noted board.loader.context board' where
  cells_eq := h.cells_eq
  layout_eq := by rw [h.loader_eq]
  locked_eq := by rw [h.loader_eq]
  context_eq := by rw [h.loader_eq]

/-- The images in the slots are the same, for they are a matter of the bytes. -/
theorem Noted.holdsImage_iff (h : board.Noted context board') :
    board'.flash.HoldsImage slot header ↔ board.flash.HoldsImage slot header :=
  ⟨fun himage => himage.of_cells_eq h.cells_eq, fun himage => himage.of_cells_eq h.cells_eq.symm⟩

/-- What is read of the flash is the same. -/
theorem Noted.slice_eq (h : board.Noted context board') (offset length : Nat) :
    board'.flash.slice offset length = board.flash.slice offset length := by
  unfold Flash.slice
  rw [h.cells_eq]

/-- The header in a slot, whatever it is worth. -/
def stored (board : Board g) (slot : Slot) : Header :=
  Header.decode (board.flash.slice (board.loader.layout.offset slot) Header.length)

/-- So are the headers in the slots. -/
theorem Noted.stored_eq (h : board.Noted context board') (slot : Slot) :
    board'.stored slot = board.stored slot := by
  unfold stored
  rw [h.layout_eq, h.slice_eq]

/-- The header of slot A lies below the update slot. -/
theorem stored_a_eq (hlayout : board'.loader.layout = board.loader.layout)
    (hagree : Flash.AgreeOn 0 board.loader.layout.slotB board.flash board'.flash) :
    board'.stored .a = board.stored .a := by
  unfold stored
  rw [hlayout]
  exact congrArg Header.decode
    (hagree.slice_eq (Nat.zero_le _) board.loader.fits.room_a).symm

/-! ## Power on -/

/-- A loader that has just started: slot A is active, and the header there is the active one. -/
structure Started (layout : Layout) (board : Board g) : Prop where
  layout_eq : board.loader.layout = layout
  active_eq : board.loader.context.active = .a
  activeHeader_eq : board.loader.context.activeHeader = board.stored .a
  not_pending : board.loader.context.updatePending = false
  free : board.loader.updateLocked = false

/-- A loader that starts reads both headers; the one of slot A is read first. -/
theorem headers_answers {layout : Layout} {flash flash' : Flash g} {activeHeader updateHeader : Header}
    (h : effect (headers layout) flash = (.ok (activeHeader, updateHeader), flash')) :
    activeHeader = Header.decode (flash'.slice layout.slotA Header.length) := by
  unfold headers at h
  rw [effect_bind] at h
  -- Each of the two reads may fail, and then there is no loader.
  rcases hfirst : effect (Flash.read layout.slotA Header.length) flash with ⟨_ | bytes, flash₁⟩
  · rw [hfirst] at h
    cases h
  rw [hfirst, resume_ok, effect_bind] at h
  rcases hsecond : effect (Flash.read layout.slotB Header.length) flash₁ with ⟨_ | bytes', flash₂⟩
  · rw [hsecond] at h
    cases h
  rw [hsecond, resume_ok, effect_pure] at h
  cases h
  -- The second read has changed no byte, so the first header is still the stored one.
  obtain ⟨_, _, hbytes, rfl⟩ := Flash.read_answers hfirst
  obtain ⟨_, _, _, rfl⟩ := Flash.read_answers hsecond
  rw [hbytes]
  rfl

/-- A loader that has started stands at slot A, with the header that is stored there. -/
theorem started_of_powerOn {layout : Layout} {before : Flash g}
    (h : effect (powerOn layout) before = (.ok board.loader, board.flash)) :
    Started layout board := by
  unfold effect powerOn at h
  -- The layout is tested, then the headers are read.
  split at h
  · dsimp only at h
    split at h
    · cases h
    rename_i activeHeader updateHeader flash messages heq
    have hread : effect (headers layout) before = (.ok (activeHeader, updateHeader), flash) := by
      unfold effect headers
      rw [heq]
    have hactive := headers_answers hread
    obtain ⟨hloader, rfl⟩ := Prod.mk.inj h
    have hloader := (Except.ok.inj hloader).symm
    have hlayout := congrArg Loader.layout hloader
    -- Each part is a field of the loader that was made.
    refine ⟨hlayout, ?_, ?_, ?_, ?_⟩
    · exact congrArg (fun l : Loader g => l.context.active) hloader
    · unfold stored
      rw [hlayout]
      exact (congrArg (fun l : Loader g => l.context.activeHeader) hloader).trans hactive
    · exact congrArg (fun l : Loader g => l.context.updatePending) hloader
    · exact congrArg Loader.updateLocked hloader
  · cases h

/-! ## Checks -/

/-- A call that goes on with the verdict on a slot: either a valid image was found there, or none, and
then there is none or a planned fault was in the way. -/
theorem of_verdict {P : Except BootError α × Board g → Prop}
    {f : Except BootError Header → BoardAction g α}
    (hvalid : ∀ header flash, flash.cells = board.flash.cells →
      board.flash.HoldsImage slot header → P (effect (f (.ok header)) ⟨flash, board.loader⟩))
    (hinvalid : ∀ e flash, flash.cells = board.flash.cells →
      (board.flash.readPlan = none → board.flash.HoldsNone slot) →
      P (effect (f (.error e)) ⟨flash, board.loader⟩)) :
    P (effect ((validate slot).attempt >>= f) board) := by
  have hinspects : Inspects (fun _ => False) (validate slot : BoardAction g Header) :=
    inspects_validate slot
  obtain ⟨hcells, hloader⟩ := hinspects.sameBytes board
  rw [effect_bind, effect_attempt, resume_ok]
  rcases hr : effect (validate slot) board with ⟨e | header, flash, loader⟩
  · rw [hr] at hcells hloader
    subst hloader
    refine hinvalid e flash hcells fun hmuted header himage => ?_
    -- Without planned faults a valid image would have been found.
    rw [effect_validate_of_holdsImage hmuted himage] at hr
    cases hr
  · rw [hr] at hcells hloader
    subst hloader
    refine hvalid header flash hcells (holdsImage_of_validate ?_)
    rw [hr]

/-! ## Looking for an update -/

/-- A check for an update finds the slot locked, no image, a newer one or one that is not newer. -/
inductive CheckOutcome (board : Board g) : Except BootError UpdateOffer × Board g → Prop
  | locked {board' : Board g} (locked : board.loader.updateLocked = true)
      (noted : board.Noted board.loader.context board') :
      CheckOutcome board (.error .updateInProgress, board')
  | nothing {e : BootError} {board' : Board g} (free : board.loader.updateLocked = false)
      (unfound : board.flash.readPlan = none → board.flash.HoldsNone board.loader.layout.slotB)
      (noted : board.Noted board.loader.context.cleared board') :
      CheckOutcome board (.error e, board')
  | newer {header : Header} {board' : Board g} (free : board.loader.updateLocked = false)
      (holds : board.flash.HoldsImage board.loader.layout.slotB header)
      (newer : header.version.newerThan board.loader.context.activeHeader.version = true)
      (noted : board.Noted (board.loader.context.offered header) board') :
      CheckOutcome board (.ok (.newer header.version), board')
  | notNewer {header : Header} {board' : Board g} (free : board.loader.updateLocked = false)
      (holds : board.flash.HoldsImage board.loader.layout.slotB header)
      (notNewer : header.version.newerThan board.loader.context.activeHeader.version = false)
      (noted : board.Noted (board.loader.context.offered header) board') :
      CheckOutcome board (.ok .notNewer, board')

/-- Every check ends in one of the four ways. -/
theorem checkUpdate_outcome (board : Board g) : CheckOutcome board (effect checkUpdate board) := by
  unfold checkUpdate
  rw [effect_bind, effect_look, resume_ok]
  split
  · rename_i hlocked
    exact .locked hlocked ⟨rfl, rfl, rfl, rfl⟩
  rename_i hlocked
  have hfree : board.loader.updateLocked = false := eq_false_of_ne_true hlocked
  rw [effect_bind, effect_report, resume_ok, effect_bind, effect_enter, resume_ok, effect_bind,
    effect_look, resume_ok]
  -- The verdict is either a valid image or none.
  refine of_verdict ?_ fun e flash hcells unfound => .nothing hfree unfound ⟨hcells, rfl, rfl, rfl⟩
  -- A valid image becomes pending, or not, by its version.
  intro header flash hcells holds
  rw [effect_bind, effect_look, resume_ok]
  split
  · rename_i hnewer
    have hcontext : { board.loader.context with updateHeader := header, updatePending := true }
        = board.loader.context.offered header := by
      unfold BootContext.offered
      rw [show header.version.newerThan board.loader.context.activeHeader.version = true from hnewer]
    exact .newer hfree holds hnewer ⟨hcells, rfl, rfl, hcontext⟩
  · rename_i hnot
    have hnotNewer : header.version.newerThan board.loader.context.activeHeader.version = false :=
      eq_false_of_ne_true hnot
    have hcontext : { board.loader.context with updateHeader := header, updatePending := false }
        = board.loader.context.offered header := by
      unfold BootContext.offered
      rw [hnotNewer]
    exact .notNewer hfree holds hnotNewer ⟨hcells, rfl, rfl, hcontext⟩

/-! ## Switching -/

/-- A switch is refused, finds no valid image any more, or makes the image the active one. -/
inductive SwitchOutcome (board : Board g) : Except BootError Unit × Board g → Prop
  | refused {e : BootError} {board' : Board g}
      (blocked : board.loader.updateLocked = true ∨ board.loader.context.updatePending = false)
      (noted : board.Noted board.loader.context board') : SwitchOutcome board (.error e, board')
  | invalid {e : BootError} {board' : Board g} (free : board.loader.updateLocked = false)
      (pending : board.loader.context.updatePending = true)
      (unfound : board.flash.readPlan = none → board.flash.HoldsNone board.loader.layout.slotB)
      (noted : board.Noted board.loader.context board') : SwitchOutcome board (.error e, board')
  | switched {header : Header} {board' : Board g} (free : board.loader.updateLocked = false)
      (pending : board.loader.context.updatePending = true)
      (holds : board.flash.HoldsImage board.loader.layout.slotB header)
      (noted : board.Noted (board.loader.context.switchedTo header) board') :
      SwitchOutcome board (.ok (), board')

/-- Every switch ends in one of the three ways. -/
theorem switchToUpdate_outcome (board : Board g) :
    SwitchOutcome board (effect switchToUpdate board) := by
  unfold switchToUpdate
  rw [effect_bind, effect_look, resume_ok]
  split
  · -- The lock is tested before the pending update.
    rename_i hlocked
    exact .refused (.inl hlocked) ⟨rfl, rfl, rfl, rfl⟩
  rename_i hlocked
  have hfree : board.loader.updateLocked = false := eq_false_of_ne_true hlocked
  rw [effect_bind, effect_look, resume_ok]
  split
  · rename_i hpending
    refine .refused (.inr ?_) ⟨rfl, rfl, rfl, rfl⟩
    rwa [Bool.not_eq_true'] at hpending
  rename_i hpending
  have hpending : board.loader.context.updatePending = true := by
    rwa [Bool.not_eq_true', Bool.not_eq_false] at hpending
  rw [effect_bind, effect_report, resume_ok, effect_bind, effect_enter, resume_ok, effect_bind,
    effect_look, resume_ok]
  refine of_verdict ?_ ?_
  · exact fun header flash hcells holds =>
      .switched hfree hpending holds ⟨hcells, rfl, rfl, rfl⟩
  · exact fun e flash hcells unfound =>
      .invalid hfree hpending unfound ⟨hcells, rfl, rfl, rfl⟩

/-- With nothing pending there is nothing to switch to. -/
theorem effect_switchToUpdate_of_not_pending (hfree : board.loader.updateLocked = false)
    (hpending : board.loader.context.updatePending = false) :
    effect switchToUpdate board
      = (.error .noApp, ⟨board.flash, { board.loader with lastError := some .noApp }⟩) := by
  unfold switchToUpdate
  rw [effect_bind, effect_look, resume_ok, hfree, if_neg Bool.false_ne_true, effect_bind, effect_look,
    resume_ok, hpending, Bool.not_false, if_pos rfl]
  rfl

/-- A newer image that was found is switched to, or a planned fault is in the way. -/
theorem switchToUpdate_of_offered (free : board.loader.updateLocked = false)
    (holds : board.flash.HoldsImage board.loader.layout.slotB header)
    (newer : header.version.newerThan board.loader.context.activeHeader.version = true)
    (noted : board.Noted (board.loader.context.offered header) board')
    (hstill : board.flash.readPlan = none → board'.flash = board.flash) :
    (∃ after, effect switchToUpdate board' = (.ok (), after)
        ∧ board.Noted (board.loader.context.switchedTo header) after)
      ∨ ∃ e after, effect switchToUpdate board' = (.error e, after)
        ∧ board.Noted (board.loader.context.offered header) after
        ∧ board.flash.readPlan ≠ none := by
  have hswitch := switchToUpdate_outcome board'
  have hpending : board'.loader.context.updatePending = true := by
    rw [noted.context_eq]
    exact newer
  generalize effect switchToUpdate board' = r at hswitch ⊢
  cases hswitch with
  | refused blocked _ =>
    -- Neither of the two reasons for a refusal is given.
    rw [noted.locked_eq, free, hpending] at blocked
    rcases blocked with h | h <;> cases h
  | invalid _ _ unfound noted' =>
    refine .inr ⟨_, _, rfl, ?_, fun hmuted => ?_⟩
    · rw [← noted.context_eq]
      exact noted.trans noted'
    · -- Without planned faults it finds what the first check found.
      rw [hstill hmuted, noted.layout_eq] at unfound
      exact unfound hmuted header holds
  -- The image is the one that was offered, so the context after both calls is that of the first.
  | switched _ _ holds' noted' =>
    rw [noted.layout_eq, noted.holdsImage_iff] at holds'
    obtain rfl := holds.unique holds'
    have hcontext : board'.loader.context.switchedTo header
        = board.loader.context.switchedTo header := by
      rw [noted.context_eq]
      rfl
    rw [hcontext] at noted'
    exact .inl ⟨_, rfl, noted.trans noted'⟩

/-! ## Falling back -/

/-- A rollback finds no image in slot A, or makes that one active. -/
inductive RollbackOutcome (board : Board g) : Except BootError Unit × Board g → Prop
  | invalid {board' : Board g}
      (unfound : board.flash.readPlan = none → board.flash.HoldsNone board.loader.layout.slotA)
      (noted : board.Noted board.loader.context board') :
      RollbackOutcome board (.error .rollbackFailed, board')
  | rolledBack {header : Header} {board' : Board g}
      (holds : board.flash.HoldsImage board.loader.layout.slotA header)
      (noted : board.Noted (board.loader.context.rolledBackTo header) board') :
      RollbackOutcome board (.ok (), board')

/-- Every rollback ends in one of the two ways. -/
theorem rollback_outcome (board : Board g) : RollbackOutcome board (effect rollback board) := by
  unfold rollback
  rw [effect_bind, effect_report, resume_ok, effect_bind, effect_look, resume_ok]
  refine of_verdict ?_ ?_
  · exact fun header flash hcells holds => .rolledBack holds ⟨hcells, rfl, rfl, rfl⟩
  · exact fun e flash hcells unfound => .invalid unfound ⟨hcells, rfl, rfl, rfl⟩

/-! ## Jumping -/

/-- A jump changes no context, wherever it goes. -/
theorem jump_noted (slot : Nat) (board : Board g) :
    board.Noted board.loader.context (effect (jump slot) board).2 := by
  have hread : ∀ offset (board : Board g), SameBytes board
      (effect (onFlash id (Flash.readWord offset) : BoardAction g UInt32) board).2 :=
    fun offset board => (Inspects.onFlash id (Flash.onlyReads_readWord offset)).sameBytes board
  obtain ⟨stackPointer, board₁, hstack, _⟩ := readWord_answers slot board
  obtain ⟨programCounter, board₂, hcounter, _⟩ := readWord_answers (slot + 4) board₁
  -- Two words are read on the way, which may use up faults and nothing else.
  have hsame : SameBytes board board₂ := by
    have hfirst := hread slot board
    have hsecond := hread (slot + 4) board₁
    rw [hstack] at hfirst
    rw [hcounter] at hsecond
    exact hfirst.trans hsecond
  unfold jump
  rw [effect_bind, effect_look, resume_ok]
  split
  · exact ⟨rfl, rfl, rfl, rfl⟩
  · rw [effect_bind, hstack, resume_ok, effect_bind, hcounter, resume_ok]
    have hnoted := hsame.noted
    exact ⟨hnoted.cells_eq, hnoted.layout_eq, hnoted.locked_eq, hnoted.context_eq⟩

/-- A jump to the active slot always answers, and changes no context. -/
theorem jump_activeSlot_outcome (board : Board g) :
    ∃ entry board', effect (look (·.activeSlot) >>= jump) board = (.ok entry, board')
      ∧ entry.slot = board.loader.activeSlot ∧ board.Noted board.loader.context board' := by
  obtain ⟨entry, board', hjump, hslot⟩ := jump_activeSlot_answers board
  have hnoted := jump_noted board.loader.activeSlot board
  refine ⟨entry, board', hjump, hslot, ?_⟩
  rw [effect_bind, effect_look, resume_ok] at hjump
  rwa [hjump] at hnoted

/-! ## Booting -/

/-- The context after an update was looked for and taken if there was one. -/
inductive TakeOutcome (board : Board g) : BootContext → Prop
  | locked (locked : board.loader.updateLocked = true) : TakeOutcome board board.loader.context
  | nothing (free : board.loader.updateLocked = false)
      (unfound : board.flash.readPlan = none → board.flash.HoldsNone board.loader.layout.slotB) :
      TakeOutcome board board.loader.context.cleared
  | notNewer {header : Header} (free : board.loader.updateLocked = false)
      (holds : board.flash.HoldsImage board.loader.layout.slotB header)
      (notNewer : header.version.newerThan board.loader.context.activeHeader.version = false) :
      TakeOutcome board (board.loader.context.offered header)
  | missed {header : Header} (free : board.loader.updateLocked = false)
      (holds : board.flash.HoldsImage board.loader.layout.slotB header)
      (newer : header.version.newerThan board.loader.context.activeHeader.version = true)
      (faulty : board.flash.readPlan ≠ none) :
      TakeOutcome board (board.loader.context.offered header)
  | taken {header : Header} (free : board.loader.updateLocked = false)
      (holds : board.flash.HoldsImage board.loader.layout.slotB header)
      (newer : header.version.newerThan board.loader.context.activeHeader.version = true) :
      TakeOutcome board (board.loader.context.switchedTo header)

/-- All the ways in which a boot may look for an update and take it. -/
theorem takeUpdate_outcome (board : Board g) :
    ∃ context, TakeOutcome board context ∧ board.Noted context (effect takeUpdate board).2 := by
  have hcheck := checkUpdate_outcome board
  have hmuted : board.flash.readPlan = none → (effect checkUpdate board).2.flash = board.flash :=
    fun h => inspects_checkUpdate.flash_eq_of_muted h
  unfold takeUpdate
  rw [effect_bind, effect_attempt, resume_ok]
  generalize effect checkUpdate board = r at hcheck hmuted ⊢
  cases hcheck with
  | locked locked noted => exact ⟨_, .locked locked, noted⟩
  | nothing free unfound noted => exact ⟨_, .nothing free unfound, noted⟩
  | notNewer free holds notNewer noted => exact ⟨_, .notNewer free holds notNewer, noted⟩
  | newer free holds newer noted =>
    rename_i header checked
    dsimp only
    rw [effect_bind, effect_attempt, resume_ok]
    -- The update is pending now, and the switch checks it again.
    rcases switchToUpdate_of_offered free holds newer noted hmuted with
      ⟨after, hswitch, noted'⟩ | ⟨e, after, hswitch, noted', faulty⟩
    · rw [hswitch]
      exact ⟨_, .taken free holds newer, noted'⟩
    · rw [hswitch]
      exact ⟨_, .missed free holds newer faulty, noted'⟩

/-- What is active is run, or slot A in its place, or nothing. -/
inductive BootActiveOutcome (board : Board g) : Except BootError AppEntry × Board g → Prop
  | stayed {header : Header} {entry : AppEntry} {board' : Board g}
      (holds : board.flash.HoldsImage board.loader.activeSlot header)
      (slot_eq : entry.slot = board.loader.activeSlot)
      (noted : board.Noted board.loader.context board') : BootActiveOutcome board (.ok entry, board')
  | fellBack {header : Header} {entry : AppEntry} {board' : Board g}
      (active_eq : board.loader.context.active = .b)
      (unfound : board.flash.readPlan = none → board.flash.HoldsNone board.loader.activeSlot)
      (holds : board.flash.HoldsImage board.loader.layout.slotA header)
      (slot_eq : entry.slot = board.loader.layout.slotA)
      (noted : board.Noted (board.loader.context.rolledBackTo header) board') :
      BootActiveOutcome board (.ok entry, board')
  | failed {e : BootError} {board' : Board g}
      (unfound : board.flash.readPlan = none → board.flash.HoldsNone board.loader.activeSlot)
      (noted : board.Noted board.loader.context board') : BootActiveOutcome board (.error e, board')

/-- Every boot ends in one of the three ways, once it has looked for an update. -/
theorem bootActive_outcome (board : Board g) :
    BootActiveOutcome board (effect bootActive board) := by
  unfold bootActive
  rw [effect_bind, effect_look, resume_ok, effect_bind, effect_look, resume_ok]
  refine of_verdict ?_ ?_
  · -- The active image is valid.
    intro header flash hcells holds
    obtain ⟨entry, board', hjump, hslot, hnoted⟩ :=
      jump_activeSlot_outcome (⟨flash, board.loader⟩ : Board g)
    have hsame : board.Noted board.loader.context ⟨flash, board.loader⟩ := ⟨hcells, rfl, rfl, rfl⟩
    dsimp only
    rw [hjump]
    exact .stayed holds hslot (hsame.trans hnoted)
  intro e flash hcells unfound
  dsimp only
  -- Slot A is active already, and there is nothing else to run.
  split
  · exact .failed unfound ⟨hcells, rfl, rfl, rfl⟩
  rename_i hactive
  have hb : board.loader.context.active = .b := by
    cases h : board.loader.context.active with
    | a => exact absurd h hactive
    | b => rfl
  -- An update that is not valid any more is given up for slot A.
  have hrollback := rollback_outcome (⟨flash, board.loader⟩ : Board g)
  have hsame : board.Noted board.loader.context ⟨flash, board.loader⟩ := ⟨hcells, rfl, rfl, rfl⟩
  rw [effect_bind, effect_report, resume_ok, effect_bind]
  generalize effect rollback (⟨flash, board.loader⟩ : Board g) = r at hrollback ⊢
  cases hrollback with
  | invalid _ noted => exact .failed unfound (hsame.trans noted)
  | rolledBack holds noted =>
    rename_i header fallen
    obtain ⟨entry, board', hjump, hslot, hnoted⟩ := jump_activeSlot_outcome fallen
    rw [resume_ok, hjump]
    -- The board with the rollback done has slot A active, and that is where the jump goes.
    refine .fellBack hb unfound (hsame.holdsImage_iff.mp holds) ?_ ?_
    · rw [hslot, Loader.activeSlot, noted.layout_eq, noted.context_eq]
      rfl
    · rw [noted.context_eq] at hnoted
      exact hsame.trans (noted.trans hnoted)

/-- A boot takes an update if it can, and then settles on an image. -/
theorem boot_outcome (board : Board g) :
    ∃ context taken, TakeOutcome board context ∧ board.Noted context taken
      ∧ (board.flash.readPlan = none → taken.flash.readPlan = none)
      ∧ BootActiveOutcome taken (effect boot board) := by
  obtain ⟨context, htake, hnoted⟩ := takeUpdate_outcome board
  have hmuted : board.flash.readPlan = none → (effect takeUpdate board).2.flash = board.flash :=
    fun h => inspects_takeUpdate.flash_eq_of_muted h
  have hanswers := takeUpdate_answers board
  rw [boot_eq, effect_bind]
  generalize effect takeUpdate board = r at hnoted hmuted hanswers ⊢
  obtain ⟨answer, after⟩ := r
  obtain rfl : answer = .ok () := hanswers
  rw [resume_ok, effect_bind, effect_enter, resume_ok]
  -- The second half of the boot begins with a note of the stage, which is no part of the context.
  refine ⟨context, ⟨after.flash, { after.loader with stage := .validateApp }⟩, htake, ?_, ?_, ?_⟩
  · exact ⟨hnoted.cells_eq, hnoted.layout_eq, hnoted.locked_eq, hnoted.context_eq⟩
  · intro h
    rw [hmuted h]
    exact h
  · exact bootActive_outcome _

end Board

end DualSlot
