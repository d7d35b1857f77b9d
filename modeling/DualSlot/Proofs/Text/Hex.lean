import DualSlot.Text.Hex

/-!
# Hexadecimal text read back

Numbers and bytes are read from lower case digits by `hexNumber?` and `hexByte?`. Both are read back from the
digits that are printed for them, padded or not (`hexNumber?_leftpad`, `hexByte?_byteDigits`).
-/

namespace DualSlot.Text

/-! ## Reading -/

/-- What a digit is worth. -/
def hexValue? (c : Char) : Option Nat :=
  if '0' ≤ c ∧ c ≤ '9' then some (c.toNat - '0'.toNat)
  else if 'a' ≤ c ∧ c ≤ 'f' then some (c.toNat - 'a'.toNat + 10)
  else none

/-- Read digits on from the value so far. -/
def hexNumberFrom? (value : Nat) (digits : List Char) : Option Nat :=
  digits.foldlM (fun value c => (hexValue? c).map (16 * value + ·)) value

/-- The number that digits spell, if all characters are digits. -/
def hexNumber? (digits : List Char) : Option Nat := hexNumberFrom? 0 digits

/-- The byte that two digits spell. -/
def hexByte? (digits : List Char) : Option UInt8 :=
  if digits.length = 2 then (hexNumber? digits).map Nat.toUInt8 else none

/-! ## Digits -/

theorem hexValue?_digitChar {n : Nat} (h : n < 16) : hexValue? n.digitChar = some n :=
  (by decide : ∀ n < 16, hexValue? n.digitChar = some n) n h

theorem hexNumberFrom?_cons (value : Nat) (c : Char) (rest : List Char) :
    hexNumberFrom? value (c :: rest)
      = (hexValue? c).bind fun digit => hexNumberFrom? (16 * value + digit) rest := by
  unfold hexNumberFrom?
  rw [List.foldlM_cons]
  cases hexValue? c <;> rfl

theorem hexNumberFrom?_digit {n : Nat} (h : n < 16) (value : Nat) (rest : List Char) :
    hexNumberFrom? value (n.digitChar :: rest) = hexNumberFrom? (16 * value + n) rest := by
  rw [hexNumberFrom?_cons, hexValue?_digitChar h, Option.bind_some]

theorem hexNumber?_append (as bs : List Char) :
    hexNumber? (as ++ bs) = (hexNumber? as).bind fun value => hexNumberFrom? value bs := by
  unfold hexNumber? hexNumberFrom?
  rw [List.foldlM_append]
  rfl

/-- Whatever is read as a number consists of digits. -/
theorem hexValue?_isSome_of_mem {digits : List Char} {value n : Nat}
    (h : hexNumberFrom? value digits = some n) {c : Char} (hc : c ∈ digits) :
    (hexValue? c).isSome = true := by
  -- By the digits, from the front as they are read.
  induction digits generalizing value with
  | nil => cases hc
  | cons d rest ih =>
    rw [hexNumberFrom?_cons] at h
    obtain ⟨digit, hdigit, hrest⟩ := Option.bind_eq_some_iff.mp h
    rcases List.mem_cons.mp hc with rfl | hmem
    · rw [hdigit]
      rfl
    · exact ih hrest hmem

/-! ## Numbers -/

theorem hexNumber?_toDigits (n : Nat) : hexNumber? (Nat.toDigits 16 n) = some n := by
  -- By the value: all digits but the last one spell a sixteenth of it.
  induction n using Nat.strongRecOn with
  | ind n ih =>
    rw [Nat.toDigits_eq_if (by decide)]
    by_cases hn : n < 16
    · rw [if_pos hn]
      exact (hexNumberFrom?_digit hn 0 []).trans (congrArg some (Nat.zero_add n))
    · rw [if_neg hn, hexNumber?_append, ih (n / 16) (by omega), Option.bind_some,
        hexNumberFrom?_digit (Nat.mod_lt n (by decide))]
      exact congrArg some (Nat.div_add_mod n 16)

theorem hexNumber?_replicate_append (count : Nat) (digits : List Char) :
    hexNumber? (List.replicate count '0' ++ digits) = hexNumber? digits := by
  induction count with
  | zero => rfl
  | succ count ih =>
    -- Behind the first zero the value is still 0.
    rw [List.replicate_succ, List.cons_append]
    exact ih

/-- Leading zeros do not count. -/
theorem hexNumber?_leftpad (count n : Nat) :
    hexNumber? ((Nat.toDigits 16 n).leftpad count '0') = some n := by
  rw [List.leftpad, hexNumber?_replicate_append, hexNumber?_toDigits]

/-! ## Bytes -/

theorem length_byteDigits (b : UInt8) : (byteDigits b).length = 2 := rfl

theorem hexNumber?_byteDigits (b : UInt8) : hexNumber? (byteDigits b) = some b.toNat := by
  have hb : b.toNat < 256 := b.toNat_lt_size
  have hvalue : 16 * (16 * 0 + b.toNat / 16) + b.toNat % 16 = b.toNat := by omega
  rw [byteDigits, hexNumber?, hexNumberFrom?_digit (by omega), hexNumberFrom?_digit (by omega), hvalue]
  rfl

theorem hexByte?_byteDigits (b : UInt8) : hexByte? (byteDigits b) = some b := by
  rw [hexByte?, if_pos (length_byteDigits b), hexNumber?_byteDigits]
  exact congrArg some UInt8.ofNat_toNat

end DualSlot.Text
