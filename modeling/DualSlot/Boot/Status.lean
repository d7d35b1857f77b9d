import DualSlot.Boot.Layout

/-!
# The state of the boot loader

The loader moves through a few stages, each entered by a call. Apart from them it keeps a context: which
slot is active, what is known of the two images, and some counters. The context changes only when a call
succeeds, so a failed switch never leaves an unchecked image active.

| stage              | entered by                                |
|--------------------|-------------------------------------------|
| `init`             | power on                                  |
| `checkUpdate`      | a check for an update                     |
| `validateApp`      | a boot, before it checks the active slot  |
| `updateInProgress` | a switch, while it checks the update      |
| `jumpToApp`        | a jump                                    |
| `failed`           | a failed switch, rollback, jump or boot   |
-/

namespace DualSlot

/-- The stage of the boot loader. -/
inductive BootStage where
  | init
  | checkUpdate
  | validateApp
  | jumpToApp
  | updateInProgress
  | failed
  deriving DecidableEq, Repr

namespace BootStage

def name : BootStage → String
  | init => "INIT"
  | checkUpdate => "CHECK_UPDATE"
  | validateApp => "VALIDATE_APP"
  | jumpToApp => "JUMP_TO_APP"
  | updateInProgress => "UPDATE_IN_PROGRESS"
  | failed => "ERROR"

end BootStage

/-- Which slots hold what, and the counters that go with them. -/
structure BootContext where
  /-- The slot that the device boots from. -/
  active : Slot
  activeHeader : Header
  /-- The header of the update slot when it was last checked with success. -/
  updateHeader : Header
  bootCount : UInt32
  updatePending : Bool
  rollbackRequested : Bool
  deriving DecidableEq

/-- The answer to a check for an update. -/
inductive UpdateOffer where
  | newer (version : Version)
  | notNewer
  deriving DecidableEq, Repr

/-- Where an application starts: its slot and the first two words there. -/
structure AppEntry where
  slot : Nat
  stackPointer : UInt32
  programCounter : UInt32
  deriving DecidableEq, Repr

/-- `YES` or `NO`. -/
def yesNo (b : Bool) : String := if b then "YES" else "NO"

/-- A snapshot of the boot loader, for printing. The slots are given by their offsets. -/
structure BootStatus where
  stage : BootStage
  lastError : Option BootError
  activeSlot : Nat
  updateSlot : Nat
  bootCount : UInt32
  updatePending : Bool
  rollbackRequested : Bool
  activeHeader : Header
  deriving DecidableEq

namespace BootStatus

/-- The label of the active image. -/
def label (s : BootStatus) : String := s.activeHeader.version.label

/-- The text of the last error, or `none`. -/
def errorText (s : BootStatus) : String :=
  match s.lastError with
  | some e => e.message
  | none => "none"

open Text in
def text (s : BootStatus) : String :=
  "Bootloader status\n"
    ++ s!"  State:            {s.stage.name}\n"
    ++ s!"  Last Error:       {s.errorText}\n"
    ++ s!"  Active Slot:      {address (flashBase.toNat + s.activeSlot)}\n"
    ++ s!"  Update Slot:      {address (flashBase.toNat + s.updateSlot)}\n"
    ++ s!"  Boot Count:       {s.bootCount}\n"
    ++ s!"  Update Pending:   {yesNo s.updatePending}\n"
    ++ s!"  Rollback Request: {yesNo s.rollbackRequested}\n"
    ++ s!"  Version:          {s.label}\n"
    ++ "Firmware details:\n"
    ++ s.activeHeader.text

end BootStatus

end DualSlot
