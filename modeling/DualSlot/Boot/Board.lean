import DualSlot.Boot.Message
import DualSlot.Bytes.Pieces
import DualSlot.Flash.Checksum

/-!
# The board: a flash and the boot loader over it

The boot loader decides which of the two slots runs. It takes an update from slot B when that is valid
and newer than the active image, and falls back to slot A when the active image is not valid.

* `Board.powerOn` starts the loader over whatever the flash holds.
* `Board.validate` checks the image in a slot: range, magic, size and CRC, in this order.
* `Board.checkUpdate`, `Board.switchToUpdate`, `Board.rollback` and `Board.boot` are the decisions.
* `Board.eraseUpdateSlot` and `Board.programUpdateSlot` write slot B and nothing else.
* `Board.lockUpdateSlot` reserves the update slot for one session; while it is locked the loader neither
  checks nor switches.
-/

namespace DualSlot

/-! ## State -/

/-- The boot loader of a flash with geometry `g`. -/
structure Loader (g : Geometry) where
  layout : Layout
  fits : layout.Fits g
  stage : BootStage
  lastError : Option BootError
  context : BootContext
  /-- Held while an update is being written into the update slot. -/
  updateLocked : Bool

namespace Loader

variable {g : Geometry}

/-- The offset of the active slot. -/
def activeSlot (l : Loader g) : Nat := l.layout.offset l.context.active

/-- The offset of the slot that receives updates. -/
def updateSlot (l : Loader g) : Nat := l.layout.slotB

/-- The label of the active image. -/
def label (l : Loader g) : String := l.context.activeHeader.version.label

/-- A snapshot for printing. -/
def status (l : Loader g) : BootStatus where
  stage := l.stage
  lastError := l.lastError
  activeSlot := l.activeSlot
  updateSlot := l.updateSlot
  bootCount := l.context.bootCount
  updatePending := l.context.updatePending
  rollbackRequested := l.context.rollbackRequested
  activeHeader := l.context.activeHeader

end Loader

/-- A flash and its boot loader. -/
structure Board (g : Geometry) where
  flash : Flash g
  loader : Loader g

/-- A call on a board. -/
abbrev BoardAction (g : Geometry) (α : Type) : Type := Action BoardEvent (Board g) BootError α

namespace Board

variable {g : Geometry} {α : Type}

/-! ## Reaching the parts -/

/-- Run a call on the flash; `wrap` says what its error means here. -/
@[inline] def onFlash {ε ε' : Type} (wrap : ε → ε') (x : Action FlashMessage (Flash g) ε α) :
    Action BoardEvent (Board g) ε' α := fun board =>
  match board with
  | ⟨flash, loader⟩ =>
    match x flash with
    | ⟨r, flash', messages⟩ => ⟨r.mapError wrap, ⟨flash', loader⟩, messages.map .flash⟩

/-- Read something off the loader. -/
@[inline] def look (f : Loader g → α) : BoardAction g α := Action.look fun board => f board.loader

/-- Change the loader. -/
@[inline] def change (f : Loader g → Loader g) : BoardAction g Unit := fun board =>
  match board with
  | ⟨flash, loader⟩ => ⟨.ok (), ⟨flash, f loader⟩, []⟩

/-- Change the context of the loader. -/
@[inline] def changeContext (f : BootContext → BootContext) : BoardAction g Unit :=
  change fun l => { l with context := f l.context }

/-- Report something. -/
@[inline] def report (message : BootMessage) : BoardAction g Unit := Action.say (.loader message)

/-- Enter a stage. -/
def enter (stage : BootStage) : BoardAction g Unit := change fun l => { l with stage }

/-- Remember an error without leaving the stage, and fail with it. -/
def refuse (e : BootError) : BoardAction g α := do
  change fun l => { l with lastError := some e }
  Action.fail e

/-- End the current operation with an error. -/
def abandon (e : BootError) : BoardAction g α := do
  change fun l => { l with stage := .failed, lastError := some e }
  Action.fail e

/-! ## The lock of the update slot -/

/-- Reserve the update slot. -/
def lockUpdateSlot : BoardAction g Unit := do
  if ← look (·.updateLocked) then Action.fail .updateInProgress
  else change fun l => { l with updateLocked := true }

/-- Give the update slot back, whoever holds it. -/
def unlockUpdateSlot : BoardAction g Unit := change fun l => { l with updateLocked := false }

/-! ## Checking images -/

/-- Decode the header at an offset. -/
def readHeader (slot : Nat) : BoardAction g Header := do
  let bytes ← onFlash .flash (Flash.read slot Header.length)
  pure (Header.decode bytes)

/-- The CRC-32 of the payload that a header describes in a slot. -/
def payloadCrc (slot : Nat) (header : Header) : BoardAction g UInt32 := do
  Action.require (slot + Header.length + header.payloadLength ≤ g.capacity) .invalidSize
  onFlash .flash (Flash.checksum (slot + Header.length) header.payloadLength)

/-- Check the image in a slot and answer its header. -/
def validate (slot : Nat) : BoardAction g Header := do
  Action.require (slot + Header.length ≤ g.capacity) .invalidSize
  let header ← readHeader slot
  if header.magic ≠ firmwareMagic then
    report (.invalidMagic slot header.magic)
    Action.fail .magicMismatch
  else if header.size.toNat ≤ Header.length ∨ g.capacity < slot + header.size.toNat then
    report (.badSize slot header.size)
    Action.fail .invalidSize
  else
    let calculated ← payloadCrc slot header
    if calculated ≠ header.crc32 then
      report (.crcMismatch slot calculated header.crc32)
      Action.fail .crcMismatch
    else
      report (.valid slot header)
      pure header

/-! ## Decisions -/

/-- Look for a valid, newer image in the update slot. -/
def checkUpdate : BoardAction g UpdateOffer := do
  if ← look (·.updateLocked) then
    report .notChecking
    refuse .updateInProgress
  else
    report .checking
    enter .checkUpdate
    match ← (validate (← look (·.updateSlot))).attempt with
    | .error e =>
      report (.noValidUpdate e)
      -- Whatever was pending is gone with the image.
      changeContext fun c => { c with updatePending := false }
      refuse e
    | .ok header =>
      let current ← look (·.context.activeHeader.version)
      if header.version.newerThan current then
        report (.updateAvailable current header.version)
        changeContext fun c => { c with updateHeader := header, updatePending := true }
        pure (.newer header.version)
      else
        report (.noNewerUpdate current header.version)
        changeContext fun c => { c with updateHeader := header, updatePending := false }
        pure .notNewer

/-- Make the update slot the active one. The update is checked again, for the flash may have changed
since it was found. -/
def switchToUpdate : BoardAction g Unit := do
  if ← look (·.updateLocked) then refuse .updateInProgress
  else if !(← look (·.context.updatePending)) then
    report .noUpdatePending
    refuse .noApp
  else
    report .switching
    enter .updateInProgress
    let slot ← look (·.updateSlot)
    match ← (validate slot).attempt with
    | .error e =>
      report (.updateInvalid e)
      abandon e
    | .ok header =>
      changeContext fun c =>
        { c with
          active := .b
          activeHeader := header
          updateHeader := header
          updatePending := false
          bootCount := c.bootCount + 1 }
      report (.switched slot header)

/-- Go back to slot A, whichever slot is active. -/
def rollback : BoardAction g Unit := do
  report .rollingBack
  let slot ← look (·.layout.slotA)
  match ← (validate slot).attempt with
  | .error e =>
    report (.rollbackInvalid e)
    abandon .rollbackFailed
  | .ok header =>
    changeContext fun c =>
      { c with
        active := .a
        activeHeader := header
        rollbackRequested := true
        bootCount := c.bootCount + 1 }
    report (.rolledBack slot header)

/-- Hand over to the image in a slot: answer the first two words there. -/
def jump (slot : Nat) : BoardAction g AppEntry := do
  if (← look (·.layout.slotAt? slot)).isNone then
    report (.invalidAddress slot)
    abandon .noApp
  else
    let stackPointer ← onFlash id (Flash.readWord slot)
    let programCounter ← onFlash id (Flash.readWord (slot + 4))
    report (.jumping slot)
    report (.settingStack stackPointer)
    report (.settingCounter programCounter)
    enter .jumpToApp
    pure { slot, stackPointer, programCounter }

/-- Take a newer update if there is one. Failing to do so is no failure of the boot. -/
def takeUpdate : BoardAction g Unit := do
  match ← checkUpdate.attempt with
  | .ok (.newer _) =>
    match ← switchToUpdate.attempt with
    | .ok () => pure ()
    | .error e => report (.staying e)
  | .ok .notNewer => pure ()
  | .error e => report (.noUpdateTaken e)

/-- The whole boot: take an update, fall back to slot A if the active image is not valid, and jump. -/
def boot : BoardAction g AppEntry := do
  takeUpdate
  enter .validateApp
  let active ← look (·.context.active)
  -- The active slot may have changed just now, so it is looked up only here.
  match ← (validate (← look (·.activeSlot))).attempt with
  | .ok _ => pure ()
  | .error e =>
    if active = .a then
      report (.slotANotBootable e)
      abandon .noApp
    else
      report (.activeNotBootable e)
      rollback
  jump (← look (·.activeSlot))

/-! ## Writing the update slot -/

/-- Erase the pages of the update slot that its first `length` bytes touch. -/
def eraseUpdateSlot (length : Nat) : BoardAction g Unit := do
  let start ← look (·.updateSlot)
  Action.require (0 < length && start + length ≤ g.capacity) .invalidSize
  let stop := pageEnd (start + length) g.eraseSize
  report (.erasing start stop)
  onFlash .flashErase (Flash.erase start stop)
  -- What was found there earlier is gone.
  changeContext fun c => { c with updatePending := false }

/-- Program up to four bytes. They are filled up to a word with erased bytes, unless the word would
pass the end of the flash. -/
def programWord (offset : Nat) (bytes : List UInt8) : BoardAction g Unit := do
  -- Erased bytes change nothing where they land, so the padding leaves no trace.
  let footprint :=
    if offset + 4 ≤ g.capacity then bytes.rightpad 4 erasedByte else bytes
  match ← (onFlash id (Flash.write offset footprint)).attempt with
  | .ok () => pure ()
  | .error e =>
    report (.writeFailed offset e)
    Action.fail (.flashWrite e)

/-- Program bytes at an offset into the update slot, a word at a time. -/
def programUpdateSlot (offset : Nat) (data : List UInt8) : BoardAction g Unit := do
  let base := (← look (·.updateSlot)) + offset
  Action.require (base + data.length ≤ g.capacity) .invalidSize
  Action.forEach (pieces 4 data).zipIdx fun (bytes, i) => programWord (base + i * 4) bytes

/-! ## Power -/

/-- Start a boot loader over a flash. Slot A is active. -/
def powerOn (layout : Layout) : Action BoardEvent (Flash g) BootError (Loader g) := fun flash =>
  if fits : layout.Fits g then
    let headers : FlashAction g (Header × Header) := do
      let activeHeader ← Flash.read layout.slotA Header.length
      let updateHeader ← Flash.read layout.slotB Header.length
      pure (Header.decode activeHeader, Header.decode updateHeader)
    match headers flash with
    | ⟨.error e, flash', messages⟩ => ⟨.error (.flash e), flash', messages.map .flash⟩
    | ⟨.ok (activeHeader, updateHeader), flash', messages⟩ =>
      let loader : Loader g :=
        { layout
          fits
          stage := .init
          lastError := none
          context :=
            { active := .a
              activeHeader
              updateHeader
              bootCount := 1
              updatePending := false
              rollbackRequested := false }
          updateLocked := false }
      ⟨.ok loader, flash', messages.map .flash ++
        [.loader .initialized,
          .loader (.activeSlot layout.slotA),
          .loader (.updateSlot layout.slotB)]⟩
  else ⟨.error .invalidSize, flash, []⟩

/-- Switch the power off and on: a new loader over the same flash. If it cannot start, the old one
stays. -/
def restart (layout : Layout) : BoardAction g Unit := fun board =>
  match board with
  | ⟨flash, loader⟩ =>
    match powerOn layout flash with
    | ⟨.ok loader', flash', events⟩ => ⟨.ok (), ⟨flash', loader'⟩, events⟩
    | ⟨.error e, flash', events⟩ => ⟨.error e, ⟨flash', loader⟩, events⟩

end Board

end DualSlot
