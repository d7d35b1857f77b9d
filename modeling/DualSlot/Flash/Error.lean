/-!
# What can go wrong with a flash access
-/

namespace DualSlot

/-- Why the flash refused an access. -/
inductive FlashError where
  | outOfRange
  | notAligned
  | notErased
  | eraseFailed
  deriving DecidableEq, Repr

namespace FlashError

def message : FlashError → String
  | outOfRange => "access outside of the flash"
  | notAligned => "erase range is not page aligned"
  | notErased => "write to a byte that is not erased"
  | eraseFailed => "page erase failed"

end FlashError

end DualSlot
