import DualSlot.Bench.Call
import DualSlot.Proofs.Boot.Programming

/-!
# What the boot loader never writes

No call of the boot loader changes a byte below the update slot, whatever its arguments are and
whatever fails on the way; nor does it change the layout. The same goes for a call on the flash itself
that stays behind the start of the update slot.

The invariant is `Board.KeptBelow`. It survives every call of the boot loader (`keptBelow_bootCall`)
and every flash call from the update slot on (`keptBelow_flashCall`).
-/

namespace DualSlot

/-! ## Flash calls that stay behind a bound -/

/-- The call changes no byte below the bound: what it writes or erases starts at the bound or behind
it. Reads and fault plans are free. -/
def FlashCall.StaysBehind (bound : Nat) : FlashCall → Prop
  | erase start _ => bound ≤ start
  | erasePage offset => bound ≤ offset
  | write offset _ => bound ≤ offset
  | writeWord offset _ => bound ≤ offset
  | install offset _ => bound ≤ offset
  | corrupt offset _ => bound ≤ offset
  | read .. | readWord _ | checksum .. | breakErase _ | planReads _ | planWrites _ => True

instance (bound : Nat) (call : FlashCall) : Decidable (call.StaysBehind bound) := by
  cases call <;> unfold FlashCall.StaysBehind <;> infer_instance

namespace Flash

open DualSlot.Action

variable {g : Geometry} {bound : Nat} {flash : Flash g}

/-- A bound on a page boundary stays below the page of an offset behind it. -/
theorem le_pageBase {bound offset page : Nat} (hbound : bound % page = 0) (h : bound ≤ offset) :
    bound ≤ pageBase offset page := by
  unfold pageBase
  -- The bound is the base of its own page, and the page of the offset does not come before it.
  have hoffset := Nat.div_add_mod offset page
  have hstart := Nat.div_add_mod bound page
  have hdiv : page * (bound / page) ≤ page * (offset / page) :=
    Nat.mul_le_mul_left page (Nat.div_le_div_right h)
  omega

/-- What only reads keeps all bytes, so also those below a bound. -/
theorem keeps_agreeOn_of_onlyReads {α ε : Type} {x : Action FlashMessage (Flash g) ε α}
    (hx : OnlyReads x) : Keeps (AgreeOn 0 bound flash) x := by
  intro flash' hflash
  exact hflash.trans (.of_cells_eq (hx.cells_eq flash').symm)

/-- Pages are erased behind the bound. -/
theorem keeps_agreeOn_erase {start stop : Nat} (h : bound ≤ start) :
    Keeps (AgreeOn 0 bound flash) (erase start stop) := by
  intro flash' hflash
  -- An erase fails before it changes anything, or blanks its pages.
  rcases erase_cases flash' start stop with ⟨e, herror⟩ | ⟨hok, _⟩
  · rw [herror]
    exact hflash
  · rw [hok]
    exact hflash.trans (.blank flash' (.inl h))

/-- Bytes that are programmed behind the bound leave those below it alone. -/
theorem keeps_agreeOn_program {offset : Nat} {data : List UInt8} (h : bound ≤ offset) :
    Keeps (AgreeOn 0 bound flash) (program offset data) := by
  intro flash' hflash
  rcases program_cases flash' offset data with ⟨e, herror⟩ | ⟨hok, _⟩
  · rw [herror]
    exact hflash
  · rw [hok]
    exact hflash.trans (.splice flash' (.inl h))

/-- So do bytes that are written there. -/
theorem keeps_agreeOn_write {offset : Nat} {data : List UInt8} (h : bound ≤ offset) :
    Keeps (AgreeOn 0 bound flash) (write offset data) := by
  intro flash' hflash
  rcases write_cases flash' offset data with ⟨e, herror⟩ | ⟨hok, _⟩
  · rw [herror]
    exact hflash
  · rw [hok]
    exact hflash.trans (.splice flash'.afterWrite (.inl h))

/-- A call that stays behind a page boundary keeps the bytes below it. -/
theorem keeps_agreeOn_flashCall (hbound : bound % g.eraseSize = 0) {call : FlashCall}
    (h : call.StaysBehind bound) : Keeps (AgreeOn 0 bound flash) (call.run : FlashAction g Answer) := by
  cases call with
  | erase start stop => exact (keeps_agreeOn_erase h).answering _
  | erasePage offset =>
    exact ((keeps_require _ _).bind fun _ =>
      keeps_agreeOn_erase (le_pageBase hbound h)).answering _
  | write offset data => exact (keeps_agreeOn_write h).answering _
  | writeWord offset value => exact (keeps_agreeOn_write h).answering _
  | install offset data =>
    -- The pages around the image are erased first, but the update slot begins with a page.
    refine ((keeps_require _ _).bind fun _ => ?_).answering _
    exact (keeps_agreeOn_erase (le_pageBase hbound h)).bind fun _ => keeps_agreeOn_program h
  | corrupt offset value =>
    refine ((keeps_require _ _).bind fun _ => keeps_change fun flash' hflash => ?_).answering _
    exact hflash.trans (.splice flash' (.inl h))
  | read offset length => exact (keeps_agreeOn_of_onlyReads (onlyReads_read _ _)).map _
  | readWord offset => exact (keeps_agreeOn_of_onlyReads (onlyReads_readWord _)).map _
  | checksum offset length => exact (keeps_agreeOn_of_onlyReads (onlyReads_checksum _ _)).map _
  | breakErase broken => exact fun flash' hflash => hflash
  | planReads plan => exact fun flash' hflash => hflash
  | planWrites plan => exact fun flash' hflash => hflash

end Flash

namespace Board

open DualSlot.Action

/-! ## The invariant -/

/-- The board has the layout, and no byte below the update slot differs from the given flash. -/
structure KeptBelow {g : Geometry} (layout : Layout) (flash : Flash g) (board : Board g) : Prop where
  layout_eq : board.loader.layout = layout
  agree : Flash.AgreeOn 0 layout.slotB flash board.flash

variable {g : Geometry} {layout : Layout} {flash : Flash g}

/-- An inspection keeps the bytes and the layout. -/
theorem keptBelow_of_inspects {ε α : Type} {x : Action BoardEvent (Board g) ε α}
    (hx : Inspects Notes x) : Keeps (KeptBelow layout flash) x := by
  intro board hboard
  obtain ⟨hcells, hlayout, _⟩ := hx.frame board
  exact ⟨hlayout.trans hboard.layout_eq, hboard.agree.trans (.of_cells_eq hcells.symm)⟩

/-- The update slot is erased from its start on, so the bytes below it are kept. -/
theorem keptBelow_eraseUpdateSlot (length : Nat) :
    Keeps (KeptBelow layout flash) (eraseUpdateSlot length) := by
  intro board hboard
  rcases eraseUpdateSlot_cases length board with ⟨e, herror⟩ | ⟨hok, _⟩
  · rw [herror]
    exact hboard
  · rw [hok]
    refine ⟨hboard.layout_eq, hboard.agree.trans (.blank _ (.inl ?_))⟩
    exact Nat.le_of_eq (congrArg Layout.slotB hboard.layout_eq).symm

/-- Words are programmed behind the start of the update slot. -/
theorem keptBelow_programWord {offset : Nat} (hoffset : layout.slotB ≤ offset)
    (bytes : List UInt8) : Keeps (KeptBelow layout flash) (programWord offset bytes) := by
  intro board hboard
  rcases programWord_cases offset bytes board with ⟨e, herror⟩ | ⟨hok, _⟩
  · rw [herror]
    exact ⟨hboard.layout_eq, hboard.agree.trans (.of_cells_eq rfl)⟩
  · rw [hok]
    exact ⟨hboard.layout_eq, hboard.agree.trans (.splice board.flash.afterWrite (.inl hoffset))⟩

/-- So are runs of words. -/
theorem keptBelow_programFrom {offset : Nat} (hoffset : layout.slotB ≤ offset)
    (data : List UInt8) : Keeps (KeptBelow layout flash) (programFrom offset data) := by
  refine Keeps.forEach ?_ _
  rintro ⟨bytes, i⟩
  exact keptBelow_programWord (Nat.le_add_right_of_le hoffset) bytes

/-- Programming the update slot keeps the bytes below it. -/
theorem keptBelow_programUpdateSlot (offset : Nat) (data : List UInt8) :
    Keeps (KeptBelow layout flash) (programUpdateSlot offset data) := by
  intro board hboard
  rw [effect_programUpdateSlot, hboard.layout_eq]
  -- Whatever the offset is, it counts from the start of the update slot.
  split
  · exact keptBelow_programFrom (Nat.le_add_right _ _) data board hboard
  · exact hboard

/-- The lock is no matter of bytes. -/
theorem KeptBelow.locked {board : Board g} (h : KeptBelow layout flash board) :
    KeptBelow layout flash board.locked :=
  ⟨h.layout_eq, h.agree⟩

theorem KeptBelow.unlocked {board : Board g} (h : KeptBelow layout flash board) :
    KeptBelow layout flash board.unlocked :=
  ⟨h.layout_eq, h.agree⟩

/-- Taking the lock keeps the bytes and the layout. -/
theorem keptBelow_lockUpdateSlot : Keeps (KeptBelow layout flash) lockUpdateSlot := by
  unfold lockUpdateSlot
  exact (keeps_look _).bind fun locked => Keeps.ite (keeps_fail _) fun board h => h.locked

/-- Giving it back does so, too. -/
theorem keptBelow_unlockUpdateSlot : Keeps (KeptBelow layout flash) unlockUpdateSlot :=
  fun _ h => h.unlocked

/-! ## Power cycles -/

/-- The headers that power on reads. -/
def headers (layout : Layout) : FlashAction g (Header × Header) := do
  let activeHeader ← Flash.read layout.slotA Header.length
  let updateHeader ← Flash.read layout.slotB Header.length
  pure (Header.decode activeHeader, Header.decode updateHeader)

/-- Reading the headers changes no byte. -/
theorem headers_cells (layout : Layout) (flash : Flash g) :
    (headers layout flash).state.cells = flash.cells := by
  have honly : OnlyReads (headers layout : FlashAction g (Header × Header)) :=
    (Flash.onlyReads_read _ _).bind fun _ => (Flash.onlyReads_read _ _).bind fun _ =>
      onlyReads_pure _
  exact honly.cells_eq flash

/-- Power on changes no byte, and a loader that starts has the layout. -/
theorem powerOn_frame (layout : Layout) (flash : Flash g) :
    (powerOn layout flash).state.cells = flash.cells
      ∧ ∀ loader, (powerOn layout flash).result = .ok loader → loader.layout = layout := by
  have hcells := headers_cells layout flash
  unfold headers at hcells
  unfold powerOn
  -- The layout is checked before anything is read, and is handed to the loader as it is.
  split
  · dsimp only
    split
    · rename_i heq
      rw [heq] at hcells
      exact ⟨hcells, fun loader h => nomatch h⟩
    · rename_i heq
      rw [heq] at hcells
      refine ⟨hcells, fun loader h => ?_⟩
      rw [← Except.ok.inj h]
  · exact ⟨rfl, fun loader h => nomatch h⟩

/-- A power cycle with the same layout keeps the bytes below the update slot. -/
theorem keptBelow_restart : Keeps (KeptBelow layout flash) (restart layout) := by
  rintro ⟨before, loader⟩ hboard
  obtain ⟨hcells, hlayout⟩ := powerOn_frame layout before
  have hsame : Flash.AgreeOn 0 layout.slotB flash (powerOn layout before).state :=
    hboard.agree.trans (.of_cells_eq hcells.symm)
  unfold effect restart
  dsimp only
  -- A loader that does not start leaves the old one in place.
  rcases hpower : powerOn layout before with ⟨_ | started, after, events⟩
  · rw [hpower] at hsame
    exact ⟨hboard.layout_eq, hsame⟩
  · rw [hpower] at hsame hlayout
    exact ⟨hlayout started rfl, hsame⟩

end Board

/-! ## All calls -/

/-- The calls of a boot loader by what they may touch. All checks and decisions are inspections; the
others are kinds of their own. -/
inductive BootCall.Kind : BootCall → Prop
  | inspection {call : BootCall}
      (inspects : ∀ {g : Geometry},
        Board.Inspects Board.Notes (call.run : BoardAction g Answer)) : Kind call
  | eraseUpdateSlot (length : Nat) : Kind (.eraseUpdateSlot length)
  | programUpdateSlot (offset : Nat) (data : List UInt8) : Kind (.programUpdateSlot offset data)
  | lockUpdateSlot : Kind .lockUpdateSlot
  | unlockUpdateSlot : Kind .unlockUpdateSlot
  | restart (layout : Layout) : Kind (.restart layout)

/-- Every call of the boot loader is of one of these kinds. -/
theorem BootCall.kind (call : BootCall) : call.Kind := by
  cases call with
  | checkUpdate => exact .inspection (Board.inspects_checkUpdate.bind fun _ => .pure _)
  | switchToUpdate => exact .inspection (Board.inspects_switchToUpdate.bind fun _ => .pure _)
  | rollback => exact .inspection (Board.inspects_rollback.bind fun _ => .pure _)
  | jump slot => exact .inspection ((Board.inspects_jump slot).bind fun _ => .pure _)
  | boot => exact .inspection (Board.inspects_boot.bind fun _ => .pure _)
  | validate slot => exact .inspection ((Board.inspects_validate slot).bind fun _ => .pure _)
  | readHeader slot => exact .inspection ((Board.inspects_readHeader slot).bind fun _ => .pure _)
  | payloadCrc slot header =>
    exact .inspection ((Board.inspects_payloadCrc slot header).bind fun _ => .pure _)
  | eraseUpdateSlot length => exact .eraseUpdateSlot length
  | programUpdateSlot offset data => exact .programUpdateSlot offset data
  | lockUpdateSlot => exact .lockUpdateSlot
  | unlockUpdateSlot => exact .unlockUpdateSlot
  | restart layout => exact .restart layout

/-- A check or a decision of the boot loader: it writes no byte, and leaves the layout and the lock
alone. -/
def BootCall.Watches : BootCall → Prop
  | .eraseUpdateSlot _ | .programUpdateSlot .. | .lockUpdateSlot | .unlockUpdateSlot
  | .restart _ => False
  | _ => True

instance (call : BootCall) : Decidable call.Watches := by
  unfold BootCall.Watches
  split <;> infer_instance

/-- The calls that watch are inspections. -/
theorem BootCall.Watches.inspects {g : Geometry} {call : BootCall} (h : call.Watches) :
    Board.Inspects Board.Notes (call.run : BoardAction g Answer) := by
  cases call.kind with
  | inspection inspects => exact inspects
  | eraseUpdateSlot length => exact h.elim
  | programUpdateSlot offset data => exact h.elim
  | lockUpdateSlot => exact h.elim
  | unlockUpdateSlot => exact h.elim
  | restart layout => exact h.elim

/-- A call of the boot loader that keeps the layout: all of them, but for a power cycle that brings
another one. -/
def BootCall.KeepsLayout (layout : Layout) : BootCall → Prop
  | .restart layout' => layout' = layout
  | _ => True

instance (layout : Layout) (call : BootCall) : Decidable (call.KeepsLayout layout) := by
  cases call <;> unfold BootCall.KeepsLayout <;> infer_instance

namespace Board

open DualSlot.Action

variable {g : Geometry} {layout : Layout} {flash : Flash g}

/-- A call of the boot loader keeps the bytes below the update slot, as long as it keeps the
layout. -/
theorem keptBelow_bootCall {call : BootCall} (h : call.KeepsLayout layout) :
    Keeps (KeptBelow layout flash) (call.run : BoardAction g Answer) := by
  cases call.kind with
  | inspection inspects => exact keptBelow_of_inspects inspects
  | eraseUpdateSlot length => exact (keptBelow_eraseUpdateSlot length).answering _
  | programUpdateSlot offset data => exact (keptBelow_programUpdateSlot offset data).answering _
  | lockUpdateSlot => exact keptBelow_lockUpdateSlot.answering _
  | unlockUpdateSlot => exact keptBelow_unlockUpdateSlot.answering _
  | restart layout' =>
    -- The only call that could bring another layout.
    have hlayout : layout' = layout := h
    rw [hlayout]
    exact keptBelow_restart.answering _

/-- So does a call on the flash that stays behind the start of the update slot. -/
theorem keptBelow_flashCall (hlayout : layout.Fits g) {call : FlashCall}
    (h : call.StaysBehind layout.slotB) :
    Keeps (KeptBelow layout flash)
      (onFlash id call.run : Action BoardEvent (Board g) FlashError Answer) := by
  intro board hboard
  have hagree := Flash.keeps_agreeOn_flashCall hlayout.aligned_b h board.flash hboard.agree
  exact ⟨hboard.layout_eq, hagree⟩

end Board

end DualSlot
