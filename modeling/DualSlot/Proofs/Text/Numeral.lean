import DualSlot.Text.Numeral

/-!
# The written forms of a number

`Numeral` says how a number may be written: decimal digits, any number of leading zeros among them, and
perhaps a plus sign in front. Reading accepts exactly these forms, as far as the range goes
(`readNat_eq_ok_iff`, `readWord_eq_ok_iff`), although it gives up on a value as soon as the digits
read so far are too large. Printing gives one of the forms (`Numeral.of_toDigits`).
-/

namespace DualSlot.Text

variable {limit value n : Nat} {digits text : List Char}

/-! ## Forms -/

/-- Decimal digits, at least one, and what they are worth. -/
structure Digits (digits : List Char) (value : Nat) : Prop where
  ne_nil : digits ≠ []
  isDigit : ∀ c ∈ digits, c.isDigit = true
  value_eq : Nat.ofDigitChars 10 digits 0 = value

/-- The forms of a number: its digits, with or without a plus sign. -/
inductive Numeral (value : Nat) : List Char → Prop where
  | plain {digits : List Char} : Digits digits value → Numeral value digits
  | signed {digits : List Char} : Digits digits value → Numeral value ('+' :: digits)

theorem Digits.of_toDigits (n : Nat) : Digits (Nat.toDigits 10 n) n where
  ne_nil := Nat.toDigits_ne_nil
  isDigit _ hc := Nat.isDigit_of_mem_toDigits (by decide) (by decide) hc
  value_eq := Nat.ofDigitChars_ten_toDigits

/-- What is printed is a form of the number. -/
theorem Numeral.of_toDigits (n : Nat) : Numeral n (Nat.toDigits 10 n) := .plain (.of_toDigits n)

theorem not_numeral_nil : ¬ Numeral n [] := by
  intro h
  cases h with
  | plain hdigits => exact hdigits.ne_nil rfl

/-- A sign is no digit, so behind it there must be digits. -/
theorem numeral_plus_iff : Numeral n ('+' :: digits) ↔ Digits digits n := by
  refine ⟨fun h => ?_, .signed⟩
  cases h with
  | plain hdigits => exact absurd (hdigits.isDigit '+' List.mem_cons_self) (by decide)
  | signed hdigits => exact hdigits

theorem numeral_iff_of_ne_plus {c : Char} {rest : List Char} (hc : c ≠ '+') :
    Numeral n (c :: rest) ↔ Digits (c :: rest) n := by
  refine ⟨fun h => ?_, .plain⟩
  cases h with
  | plain hdigits => exact hdigits
  | signed _ => exact absurd rfl hc

/-- There are only digits and a sign in the forms of a number. -/
theorem Numeral.notMem (h : Numeral n text) {c : Char} (hdigit : c.isDigit = false) (hplus : c ≠ '+') :
    c ∉ text := by
  have hdigits : ∀ {digits : List Char}, Digits digits n → c ∉ digits := by
    intro digits hd hc
    rw [hd.isDigit c hc] at hdigit
    cases hdigit
  cases h with
  | plain hd => exact hdigits hd
  | signed hd => exact List.not_mem_cons_of_ne_of_not_mem hplus (hdigits hd)

/-! ## Reading -/

/-- More digits make no number smaller. -/
theorem le_ofDigitChars (digits : List Char) (value : Nat) :
    value ≤ Nat.ofDigitChars 10 digits value := by
  rw [Nat.ofDigitChars_eq_ofDigitChars_zero]
  exact Nat.le_trans (Nat.le_mul_of_pos_left value (Nat.pow_pos (by decide))) (Nat.le_add_right _ _)

/-- The bound is checked at every digit, which comes to the same as checking it at the end. -/
theorem readDigits_eq_ok_iff (hvalue : value ≤ limit) :
    readDigits limit value digits = .ok n
      ↔ (∀ c ∈ digits, c.isDigit = true) ∧ Nat.ofDigitChars 10 digits value = n ∧ n ≤ limit := by
  -- By the digits, the value being that of those before.
  induction digits generalizing value with
  | nil =>
    simp only [readDigits, Except.ok.injEq, Nat.ofDigitChars_nil, List.not_mem_nil, false_implies,
      implies_true, true_and]
    constructor
    · rintro rfl
      exact ⟨rfl, hvalue⟩
    · exact fun h => h.1
  | cons c rest ih =>
    have hnext : value * 10 + (c.toNat - '0'.toNat) = 10 * value + (c.toNat - '0'.toNat) := by
      rw [Nat.mul_comm]
    unfold readDigits
    dsimp only
    rw [hnext, Nat.ofDigitChars_cons, List.forall_mem_cons]
    by_cases hc : c.isDigit = true
    · rw [if_pos hc]
      by_cases hroom : 10 * value + (c.toNat - '0'.toNat) ≤ limit
      · rw [if_pos hroom, ih hroom]
        simp only [hc, true_and]
      · -- The value is too large already, and only grows.
        rw [if_neg hroom]
        have hgrows := le_ofDigitChars rest (10 * value + (c.toNat - '0'.toNat))
        constructor
        · intro h
          cases h
        · rintro ⟨_, rfl, hlimit⟩
          omega
    · rw [if_neg hc]
      -- A character that is no digit ends the reading, and is in no form.
      constructor
      · intro h
        cases h
      · rintro ⟨⟨hdigit, _⟩, _⟩
        exact absurd hdigit hc

theorem readDigits_zero_eq_ok_iff (hne : digits ≠ []) :
    readDigits limit 0 digits = .ok n ↔ Digits digits n ∧ n ≤ limit := by
  rw [readDigits_eq_ok_iff (Nat.zero_le _)]
  constructor
  · rintro ⟨hdigits, hvalue, hlimit⟩
    exact ⟨⟨hne, hdigits, hvalue⟩, hlimit⟩
  · rintro ⟨h, hlimit⟩
    exact ⟨h.isDigit, h.value_eq, hlimit⟩

theorem readNat_plus {c : Char} (rest : List Char) :
    readNat limit ('+' :: c :: rest) = readDigits limit 0 (c :: rest) := rfl

theorem readNat_of_ne_plus {c : Char} (hc : c ≠ '+') (rest : List Char) :
    readNat limit (c :: rest) = readDigits limit 0 (c :: rest) := by
  unfold readNat
  split
  · contradiction
  · next heq => exact absurd (List.cons.inj heq).1 hc
  · next heq => exact absurd (List.cons.inj heq).1 hc
  · rfl

/-- Exactly the forms of the numbers of the range are read. -/
theorem readNat_eq_ok_iff : readNat limit text = .ok n ↔ Numeral n text ∧ n ≤ limit := by
  cases text with
  | nil => exact iff_of_false (fun h => nomatch h) fun h => not_numeral_nil h.1
  | cons c rest =>
    -- A sign is skipped if a digit follows it, and is an error on its own.
    by_cases hc : c = '+'
    · subst hc
      rw [numeral_plus_iff]
      cases rest with
      | nil => exact iff_of_false (fun h => nomatch h) fun h => h.1.ne_nil rfl
      | cons d rest => rw [readNat_plus, readDigits_zero_eq_ok_iff (List.cons_ne_nil d rest)]
    · rw [readNat_of_ne_plus hc, numeral_iff_of_ne_plus hc,
        readDigits_zero_eq_ok_iff (List.cons_ne_nil c rest)]

/-- Exactly the forms of the 32-bit numbers are read. -/
theorem readWord_eq_ok_iff {w : UInt32} : readWord text = .ok w ↔ Numeral w.toNat text := by
  have hw := w.toNat_lt_size
  have hsize : UInt32.size - 1 < UInt32.size := by decide
  unfold readWord
  constructor
  · -- A number that is read is no larger than any 32-bit number.
    intro h
    cases hread : readNat (UInt32.size - 1) text with
    | error e =>
      rw [hread] at h
      cases h
    | ok n =>
      rw [hread] at h
      obtain ⟨hnumeral, hlimit⟩ := readNat_eq_ok_iff.mp hread
      cases h
      rwa [Nat.toUInt32_eq, UInt32.toNat_ofNat_of_lt' (Nat.lt_of_le_of_lt hlimit hsize)]
  · intro h
    rw [readNat_eq_ok_iff.mpr ⟨h, Nat.le_sub_one_of_lt hw⟩]
    exact congrArg Except.ok (UInt32.ofNat_toNat)

end DualSlot.Text
