import DualSlot.Flash.Error

/-!
# What can go wrong in the boot loader
-/

namespace DualSlot

/-- Why the boot loader refused or failed. -/
inductive BootError where
  | noApp
  | crcMismatch
  | magicMismatch
  | flashWrite (cause : FlashError)
  | flashErase (cause : FlashError)
  | invalidSize
  | updateInProgress
  | rollbackFailed
  | flash (cause : FlashError)
  deriving DecidableEq, Repr

namespace BootError

def message : BootError → String
  | noApp => "no bootable application"
  | crcMismatch => "payload CRC mismatch"
  | magicMismatch => "bad image magic"
  | flashWrite cause => s!"flash write failed: {cause.message}"
  | flashErase cause => s!"flash erase failed: {cause.message}"
  | invalidSize => "invalid image size"
  | updateInProgress => "an update is being written to the update slot"
  | rollbackFailed => "rollback image is not valid"
  | flash cause => s!"flash error: {cause.message}"

end BootError

end DualSlot
