/-!
# Reading decimal numerals

A numeral is an optional sign followed by decimal digits. It is read from the left, and the first
thing wrong decides the error: a character that is no digit, or a value that leaves the range.

* `readNat limit` reads a number from 0 to `limit`; only `+` is a sign.
* `readInt below limit` reads a number from `-below` to `limit`; both signs are.
-/

namespace DualSlot.Text

/-- Why a text is no numeral of the range. -/
inductive NumeralError where
  | empty
  | invalidDigit
  | tooLarge
  | tooSmall
  deriving DecidableEq, Repr

namespace NumeralError

def message : NumeralError → String
  | empty => "cannot parse integer from empty string"
  | invalidDigit => "invalid digit found in string"
  | tooLarge => "number too large to fit in target type"
  | tooSmall => "number too small to fit in target type"

end NumeralError

/-- Read digits on from the value so far, which never passes `limit`. -/
def readDigits (limit value : Nat) : List Char → Except NumeralError Nat
  | [] => .ok value
  | c :: rest =>
    if c.isDigit then
      let next := value * 10 + (c.toNat - '0'.toNat)
      if next ≤ limit then readDigits limit next rest else .error .tooLarge
    else .error .invalidDigit

/-- Read a number from 0 to `limit`. -/
def readNat (limit : Nat) : List Char → Except NumeralError Nat
  | [] => .error .empty
  | ['+'] => .error .invalidDigit
  | '+' :: digits => readDigits limit 0 digits
  | digits => readDigits limit 0 digits

/-- Read a number from `-below` to `limit`. -/
def readInt (below limit : Nat) : List Char → Except NumeralError Int
  | ['-'] => .error .invalidDigit
  | '-' :: digits =>
    match readDigits below 0 digits with
    | .ok n => .ok (-(n : Int))
    | .error .tooLarge => .error .tooSmall
    | .error e => .error e
  | text => (readNat limit text).map Int.ofNat

/-- Read a 32-bit number. -/
def readWord (cs : List Char) : Except NumeralError UInt32 :=
  (readNat (UInt32.size - 1) cs).map Nat.toUInt32

/-- Read a 64-bit number. -/
def readLong (cs : List Char) : Except NumeralError UInt64 :=
  (readNat (UInt64.size - 1) cs).map Nat.toUInt64

end DualSlot.Text
