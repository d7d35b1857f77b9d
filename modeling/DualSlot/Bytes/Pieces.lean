/-!
# Cutting a byte string into pieces

A long byte string travels in pieces of one size, of which the last may be shorter.
-/

namespace DualSlot

/-- Division rounded up. -/
def ceilDiv (n size : Nat) : Nat := (n + size - 1) / size

/-- The consecutive pieces of `size` elements; the last one holds what is left. -/
def pieces {α : Type} (size : Nat) (xs : List α) : List (List α) :=
  let whole := xs.toArray
  (List.range (ceilDiv whole.size size)).map fun k =>
    (whole.extract (k * size) (k * size + size)).toList

end DualSlot
