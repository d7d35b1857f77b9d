import DualSlot.Action
import DualSlot.Bytes.LittleEndian
import DualSlot.Flash.Cells
import DualSlot.Flash.Fault
import DualSlot.Flash.Geometry
import DualSlot.Flash.Message

/-!
# The flash

A NOR flash is a flat array of bytes. Erasing sets whole pages to `0xFF`; a write may only touch bytes
that are erased, and stores all of its bytes or none. Reads are held to the read size; writes are
not held to the write size.

* `Flash.read`, `Flash.write`, `Flash.erase` are the accesses of a program. Reads and writes obey the
  fault plans, erases obey `eraseBroken`.
* `Flash.install` and `Flash.corrupt` are the accesses of a factory programmer and of bad luck; fault
  plans do not apply to them.
-/

namespace DualSlot

/-! ## The device -/

/-- A flash of a given geometry. -/
structure Flash (g : Geometry) where
  cells : Vector UInt8 g.capacity
  /-- While set, every erase fails. -/
  eraseBroken : Bool
  /-- The planned faults of reads, if any. -/
  readPlan : Option FaultPlan
  /-- The planned faults of writes, if any. -/
  writePlan : Option FaultPlan

/-- A call on a flash. -/
abbrev FlashAction (g : Geometry) (α : Type) : Type := Action FlashMessage (Flash g) FlashError α

namespace Flash

variable {g : Geometry}

/-- A flash as it comes from the maker: erased and without faults. -/
def erased (g : Geometry) : Flash g where
  cells := Vector.replicate g.capacity erasedByte
  eraseBroken := false
  readPlan := none
  writePlan := none

/-- The whole contents. -/
def bytes (flash : Flash g) : List UInt8 := flash.cells.toList

/-- The bytes from `offset` on, at most `length` of them. -/
def slice (flash : Flash g) (offset length : Nat) : List UInt8 :=
  (flash.cells.toArray.extract offset (offset + length)).toList

/-- The flash with `data` stored from `offset` on. -/
def splice (flash : Flash g) (offset : Nat) (data : List UInt8) : Flash g :=
  { flash with cells := Cells.splice flash.cells offset data }

/-- The flash with the bytes from `start` up to `stop` erased. -/
def blank (flash : Flash g) (start stop : Nat) : Flash g :=
  { flash with cells := Cells.blank flash.cells start (stop - start) }

/-! ## Faults -/

/-- Count a read, which fails if the plan says so. -/
def admitRead : FlashAction g Unit := fun flash =>
  match flash.readPlan with
  | none => ⟨.ok (), flash, []⟩
  | some plan =>
    let flash := { flash with readPlan := some plan.next }
    match plan.now with
    | none => ⟨.ok (), flash, []⟩
    | some e => ⟨.error e, flash, []⟩

/-- Count a write, which fails if the plan says so. -/
def admitWrite : FlashAction g Unit := fun flash =>
  match flash.writePlan with
  | none => ⟨.ok (), flash, []⟩
  | some plan =>
    let flash := { flash with writePlan := some plan.next }
    match plan.now with
    | none => ⟨.ok (), flash, []⟩
    | some e => ⟨.error e, flash, []⟩

/-- Replace the plan for reads. -/
def planReads (plan : Option FaultPlan) : FlashAction g Unit :=
  Action.change fun flash => { flash with readPlan := plan }

/-- Replace the plan for writes. -/
def planWrites (plan : Option FaultPlan) : FlashAction g Unit :=
  Action.change fun flash => { flash with writePlan := plan }

/-- Break the erase circuit, or mend it. -/
def breakErase (broken : Bool) : FlashAction g Unit :=
  Action.change fun flash => { flash with eraseBroken := broken }

/-! ## Reading -/

/-- Read `length` bytes. -/
def read (offset length : Nat) : FlashAction g (List UInt8) := do
  admitRead
  Action.ofExcept (g.checkRead offset length)
  Action.look fun flash => flash.slice offset length

/-- Read a little-endian word. A word that cannot be read looks erased. -/
def readWord {ε : Type} (offset : Nat) : Action FlashMessage (Flash g) ε UInt32 := do
  match ← (read offset 4).attempt with
  | .ok bytes => pure (LittleEndian.word bytes)
  | .error _ => pure erasedWord

/-! ## Erasing -/

/-- Erase the bytes from `start` up to `stop`, which must be whole pages. -/
def erase (start stop : Nat) : FlashAction g Unit := do
  Action.ofExcept (g.checkErase start stop)
  if ← Action.look (·.eraseBroken) then
    Action.say (.eraseFailed start stop)
    Action.fail .eraseFailed
  else
    Action.say (.erasing start stop)
    Action.change fun flash => flash.blank start stop

/-- Erase the page that holds a byte. -/
def erasePage (offset : Nat) : FlashAction g Unit := do
  Action.require (offset < g.capacity) .outOfRange
  let page := pageBase offset g.eraseSize
  erase page (page + g.eraseSize)

/-! ## Writing -/

/-- Store bytes, all of which must go to erased ones. -/
def program (offset : Nat) (data : List UInt8) : FlashAction g Unit := fun flash =>
  match g.checkSlice 1 offset data.length with
  | .error e => ⟨.error e, flash, []⟩
  | .ok () =>
    match Cells.firstProgrammed flash.cells offset data.length with
    | some found =>
      let value := flash.cells[found]?.getD erasedByte
      ⟨.error .notErased, flash, [.programmed value found]⟩
    | none => ⟨.ok (), flash.splice offset data, []⟩

/-- Write bytes. -/
def write (offset : Nat) (data : List UInt8) : FlashAction g Unit := do
  admitWrite
  program offset data

/-- Write a little-endian word. -/
def writeWord (offset : Nat) (value : UInt32) : FlashAction g Unit :=
  write offset (LittleEndian.ofWord value)

/-! ## Behind the program's back -/

/-- Store bytes as a factory programmer does, erasing the pages that they touch. -/
def install (offset : Nat) (data : List UInt8) : FlashAction g Unit := do
  Action.require (offset + data.length ≤ g.capacity) .outOfRange
  erase (pageBase offset g.eraseSize) (pageEnd (offset + data.length) g.eraseSize)
  program offset data

/-- Set one byte, erased or not. -/
def corrupt (offset : Nat) (value : UInt8) : FlashAction g Unit := do
  Action.require (offset < g.capacity) .outOfRange
  Action.change fun flash => flash.splice offset [value]

end Flash

end DualSlot
