import DualSlot.Flash.Basic
import DualSlot.Bytes.Pieces

/-!
# Hex dumps

A dump shows a region of the flash, sixteen bytes on a line: the address, the bytes in two columns of
eight, and the printable characters among them.
-/

namespace DualSlot

/-- A region of the flash, to be printed. -/
structure Dump where
  base : Nat
  bytes : List UInt8
  deriving DecidableEq, Repr

namespace Dump

/-- The number of bytes on a line. -/
def width : Nat := 16

/-- The character that stands for a byte: itself if it is printable, else a dot. -/
def glyph (b : UInt8) : Char :=
  if 0x20 ≤ b ∧ b ≤ 0x7E then Char.ofNat b.toNat else '.'

/-- One column: the digits of the byte, or blanks behind the last byte, and the gap after it. -/
def cell (bytes : List UInt8) (column : Nat) : List Char :=
  let digits :=
    match bytes[column]? with
    | some b => Text.byteDigits b
    | none => [' ', ' ']
  digits ++ if column = 7 then [' ', ' '] else [' ']

/-- One line, with up to sixteen bytes. -/
def line (address : Nat) (bytes : List UInt8) : List Char :=
  (Text.address address).toList ++ [':', ' ']
    ++ (List.range width).flatMap (cell bytes)
    ++ [' ']
    ++ bytes.map glyph
    ++ ['\n']

/-- All lines. -/
def lines (dump : Dump) : List (List Char) :=
  (pieces width dump.bytes).zipIdx.map fun (bytes, i) => line (dump.base + i * width) bytes

def text (dump : Dump) : String :=
  String.ofList dump.lines.flatten

end Dump

namespace Flash

variable {g : Geometry}

/-- The dump of a region, which must not be empty and must lie inside the flash. -/
def dump (flash : Flash g) (offset length : Nat) : Except FlashError Dump :=
  if length = 0 ∨ g.capacity < offset + length then .error .outOfRange
  else .ok ⟨offset, flash.slice offset length⟩

end Flash

end DualSlot
