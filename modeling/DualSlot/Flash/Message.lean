import DualSlot.Log
import DualSlot.Text.Hex

/-!
# What the flash reports
-/

namespace DualSlot

/-- A report of the flash. -/
inductive FlashMessage where
  | erasing (start stop : Nat)
  | eraseFailed (start stop : Nat)
  /-- A write met a byte that is not erased. -/
  | programmed (value : UInt8) (offset : Nat)
  deriving DecidableEq, Repr

namespace FlashMessage

open Text

def record : FlashMessage → LogRecord
  | erasing start stop => ⟨.debug, s!"[FLASH] erasing {hex start}..{hex stop}"⟩
  | eraseFailed start stop => ⟨.error, s!"[FLASH] erase of {hex start}..{hex stop} failed"⟩
  | programmed value offset =>
    ⟨.warn, s!"[FLASH] location not erased ({hexPadded 2 value.toNat} at {hex offset})"⟩

end FlashMessage

end DualSlot
