import DualSlot.Boot.Error

/-!
# What can go wrong in an update session
-/

namespace DualSlot

/-- Why an update session refused or failed. -/
inductive UpdateError where
  | invalidState
  | invalidSize
  | crcMismatch
  | flashError
  | timeout
  | communication
  | validationFailed
  deriving DecidableEq, Repr

namespace UpdateError

def message : UpdateError → String
  | invalidState => "operation not allowed in the current state"
  | invalidSize => "invalid size"
  | crcMismatch => "CRC mismatch"
  | flashError => "flash error"
  | timeout => "timed out"
  | communication => "communication error"
  | validationFailed => "validation failed"

/-- A failure of the boot loader as a session sees it. -/
def ofBoot : BootError → UpdateError
  | .crcMismatch => crcMismatch
  | .noApp | .magicMismatch | .invalidSize | .rollbackFailed => validationFailed
  | .updateInProgress => invalidState
  | .flashWrite _ | .flashErase _ | .flash _ => flashError

end UpdateError

end DualSlot
