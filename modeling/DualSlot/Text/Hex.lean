/-!
# Hexadecimal text

Addresses, words and bytes are printed in lower case. Three forms occur: the shortest digits behind
`0x`, a fixed number of digits behind `0x`, and the bare two digits of a byte.
-/

namespace DualSlot.Text

/-- The two digits of a byte. -/
def byteDigits (b : UInt8) : List Char :=
  [(b.toNat / 16).digitChar, (b.toNat % 16).digitChar]

/-- `0x` and as few digits as the number needs. -/
def hex (n : Nat) : String :=
  "0x" ++ String.ofList (Nat.toDigits 16 n)

/-- `0x` and at least `count` digits, filled up with zeros. -/
def hexPadded (count n : Nat) : String :=
  "0x" ++ String.ofList ((Nat.toDigits 16 n).leftpad count '0')

/-- An address, in eight digits or more. -/
def address (n : Nat) : String := hexPadded 8 n

/-- A 32-bit word, in eight digits. -/
def word (w : UInt32) : String := hexPadded 8 w.toNat

/-- The digits of a byte string, two for each byte. -/
def bytesHex (bs : List UInt8) : String :=
  String.ofList (bs.flatMap byteDigits)

end DualSlot.Text
