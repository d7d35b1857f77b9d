import DualSlot.Boot.Error
import DualSlot.Firmware.Header
import DualSlot.Flash.Geometry

/-!
# Slots and their layout

The flash holds two slots. Slot A is the factory image and the image to fall back to; slot B receives
updates. A layout says where they start, and `Layout.Fits` when that makes sense on a flash.
-/

namespace DualSlot

/-- One of the two slots. -/
inductive Slot where
  | a
  | b
  deriving DecidableEq, Repr

/-- Where the two slots start, as offsets into the flash. -/
structure Layout where
  slotA : Nat
  slotB : Nat
  deriving DecidableEq, Repr

namespace Layout

/-- Slot A behind a loader of 16 KiB, slot B at 128 KiB. -/
def standard : Layout := ⟨0x4000, 0x20000⟩

/-- The start of a slot. -/
def offset (l : Layout) : Slot → Nat
  | .a => l.slotA
  | .b => l.slotB

/-- The slot that starts at an offset. -/
def slotAt? (l : Layout) (offset : Nat) : Option Slot :=
  if offset = l.slotA then some .a
  else if offset = l.slotB then some .b
  else none

/-- Both slots start on a page boundary, slot A lies before slot B, and each has room for a header. -/
structure Fits (l : Layout) (g : Geometry) : Prop where
  aligned_a : l.slotA % g.eraseSize = 0
  aligned_b : l.slotB % g.eraseSize = 0
  room_a : l.slotA + Header.length ≤ l.slotB
  room_b : l.slotB + Header.length ≤ g.capacity

theorem fits_iff (l : Layout) (g : Geometry) :
    l.Fits g ↔
      (l.slotA % g.eraseSize = 0 ∧ l.slotB % g.eraseSize = 0)
        ∧ l.slotA + Header.length ≤ l.slotB ∧ l.slotB + Header.length ≤ g.capacity :=
  ⟨fun h => ⟨⟨h.aligned_a, h.aligned_b⟩, h.room_a, h.room_b⟩,
    fun h => ⟨h.1.1, h.1.2, h.2.1, h.2.2⟩⟩

instance (l : Layout) (g : Geometry) : Decidable (l.Fits g) :=
  decidable_of_iff' _ (l.fits_iff g)

/-- A layout must fit the flash. -/
def check (l : Layout) (g : Geometry) : Except BootError Unit :=
  if l.Fits g then .ok () else .error .invalidSize

/-- The address of an offset in the 32-bit memory map. -/
def mapped (offset : Nat) : UInt32 := flashBase + offset.toUInt32

end Layout

end DualSlot
