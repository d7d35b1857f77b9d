import DualSlot.Text.Numeral

/-!
# Firmware versions

A version has three numbers, ordered by the first that differs. It is printed as `X.Y.Z`, and its label
puts a `v` in front. `Version.parse` reads what a user types.
-/

namespace DualSlot

/-- The version of an image. -/
structure Version where
  major : UInt32
  minor : UInt32
  patch : UInt32
  deriving DecidableEq, Repr, Inhabited

namespace Version

/-! ## Order -/

/-- The order of two versions: by major, then minor, then patch number. -/
def compare (a b : Version) : Ordering :=
  (Ord.compare a.major b.major).then
    ((Ord.compare a.minor b.minor).then (Ord.compare a.patch b.patch))

instance : Ord Version := ⟨Version.compare⟩

/-- Is `a` newer than `b`? -/
def newerThan (a b : Version) : Bool := compare a b == .gt

/-! ## Text -/

/-- The longest label that the header field holds. -/
def labelLength : Nat := 16

/-- The digits and dots of a version. -/
def chars (v : Version) : List Char :=
  Nat.toDigits 10 v.major.toNat ++ '.' :: Nat.toDigits 10 v.minor.toNat
    ++ '.' :: Nat.toDigits 10 v.patch.toNat

/-- A version as `X.Y.Z`. -/
def text (v : Version) : String := String.ofList v.chars

/-- The characters of the label: `vX.Y.Z`, cut to the length of a label. -/
def labelChars (v : Version) : List Char := ('v' :: v.chars).take labelLength

/-- A version as `vX.Y.Z`, cut to the length of a label. -/
def label (v : Version) : String := String.ofList v.labelChars

instance : ToString Version := ⟨text⟩

/-! ## Reading -/

/-- Why a text is no version. -/
inductive ParseError where
  /-- A field is not a 32-bit number. -/
  | badField (field : List Char) (reason : Text.NumeralError)
  /-- There are not three fields. -/
  | wrongShape (text : List Char)
  deriving DecidableEq, Repr

namespace ParseError

def message : ParseError → String
  | badField field reason => s!"{String.ofList field}: {reason.message}"
  | wrongShape text => s!"expected X.Y.Z, got {String.ofList text}"

end ParseError

/-- The fields of a text between the dots; a text without dots is one field. -/
def fields : List Char → List (List Char)
  | [] => [[]]
  | c :: rest =>
    if c = '.' then [] :: fields rest
    else
      match fields rest with
      | [] => [[c]]
      | field :: more => (c :: field) :: more

/-- One field as a number. -/
def parseField (field : List Char) : Except ParseError UInt32 :=
  (Text.readWord field).mapError (.badField field)

/-- Read `X.Y.Z`, with any number of `v` in front. The first bad field is reported before a wrong
number of fields. -/
def parse (text : List Char) : Except ParseError Version := do
  match ← (fields (text.dropWhile (· = 'v'))).mapM parseField with
  | [major, minor, patch] => pure ⟨major, minor, patch⟩
  | _ => throw (.wrongShape text)

end Version

end DualSlot
