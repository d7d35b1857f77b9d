import DualSlot.Checksum
import DualSlot.Proofs.Bytes.LittleEndian

/-!
# A changed word changes the checksum

Feeding a byte into the register loses nothing: the register before can be told from the register after
and the byte (`Crc32.step_left_inj`). Up to four bytes in a row are fed like one number of up to 32 bits,
all of which fit into the register at once (`Crc32.update_short`), so that they too can be told from the
register after (`Crc32.update_right_inj`). Two strings that differ in no more than four consecutive bytes
therefore have different checksums (`Crc32.window_eq_of_checksum_eq`), so that such a corruption of a
string is seen (`Corrupted.checksum_ne`).
-/

namespace DualSlot.Crc32

theorem low_bit (register : UInt32) : register &&& 1 = 1 ↔ register.toNat % 2 = 1 := by
  rw [← UInt32.toNat_inj, UInt32.toNat_and]
  show register.toNat &&& 1 = 1 ↔ _
  rw [Nat.and_one_is_mod]

theorem toNat_shiftRight_one (register : UInt32) :
    (register >>> 1).toNat = register.toNat / 2 := by
  rw [UInt32.toNat_shiftRight]
  exact Nat.shiftRight_eq_div_pow register.toNat 1

/-- The bit that is shifted out shows at the other end of the register, where the polynomial has a
one. -/
theorem testBit_shift (register : UInt32) :
    (shift register).toNat.testBit 31 = decide (register &&& 1 = 1) := by
  have hlow : (register >>> 1).toNat.testBit 31 = false := by
    apply Nat.testBit_lt_two_pow
    have hbound := register.toNat_lt
    rw [toNat_shiftRight_one]
    omega
  have htop : polynomial.toNat.testBit 31 = true := by decide
  unfold shift
  split
  · rename_i hone
    rw [UInt32.toNat_xor, Nat.testBit_xor, hlow, htop, decide_eq_true hone]
    rfl
  · rename_i hone
    rw [hlow, decide_eq_false hone]

/-- A register can be told from the one that it is shifted to. -/
theorem shift_inj {a b : UInt32} (h : shift a = shift b) : a = b := by
  -- The same bit is shifted out of both.
  have hbit : (a &&& 1 = 1) ↔ (b &&& 1 = 1) := by
    have htop := congrArg (fun register => register.toNat.testBit 31) h
    simp only [testBit_shift, decide_eq_decide] at htop
    exact htop
  have hrest : a >>> 1 = b >>> 1 := by
    unfold shift at h
    by_cases hone : a &&& 1 = 1
    · rw [if_pos hone, if_pos (hbit.mp hone)] at h
      exact (UInt32.xor_left_inj polynomial).mp h
    · rw [if_neg hone, if_neg fun hb => hone (hbit.mpr hb)] at h
      exact h
  have hhalves := congrArg UInt32.toNat hrest
  rw [toNat_shiftRight_one, toNat_shiftRight_one] at hhalves
  rw [low_bit, low_bit] at hbit
  apply UInt32.toNat_inj.mp
  omega

theorem shifts_inj {n : Nat} {a b : UInt32} (h : shifts n a = shifts n b) : a = b := by
  induction n generalizing a b with
  | zero => exact h
  | succ n ih => exact shift_inj (ih h)

/-- A register can be told from the one after a byte. -/
theorem step_left_inj {a b : UInt32} {byte : UInt8} (h : step a byte = step b byte) : a = b :=
  (UInt32.xor_left_inj byte.toUInt32).mp (shifts_inj h)

/-- A register can be told from the one after a string. -/
theorem update_left_inj {bs : List UInt8} {a b : UInt32} (h : update a bs = update b bs) : a = b := by
  induction bs generalizing a b with
  | nil => exact h
  | cons byte rest ih => exact step_left_inj (ih h)

/-! ## Short strings -/

/-- A number with a zero in its lowest place is not touched by a shift but for the shift. -/
theorem shift_xor {register low high : UInt32} (h : high.toNat = 2 * low.toNat) :
    shift (register ^^^ high) = shift register ^^^ low := by
  have hbit : (register ^^^ high) &&& 1 = 1 ↔ register &&& 1 = 1 := by
    rw [low_bit, low_bit, UInt32.toNat_xor, h, Nat.xor_mod_two_eq_one]
    simp
  have hhalf : (register ^^^ high) >>> 1 = register >>> 1 ^^^ low := by
    apply UInt32.toNat_inj.mp
    rw [toNat_shiftRight_one, UInt32.toNat_xor, UInt32.toNat_xor, toNat_shiftRight_one, h,
      Nat.xor_div_two, Nat.mul_div_cancel_left _ Nat.two_pos]
  unfold shift
  by_cases hone : register &&& 1 = 1
  · rw [if_pos (hbit.mpr hone), if_pos hone, hhalf, UInt32.xor_assoc, UInt32.xor_comm low,
      ← UInt32.xor_assoc]
  · rw [if_neg (mt hbit.mp hone), if_neg hone, hhalf]

/-- A number that stands above the places that are shifted out is only shifted down to its low end. -/
theorem shifts_xor {n : Nat} {register low high : UInt32} (h : high.toNat = 2 ^ n * low.toNat) :
    shifts n (register ^^^ high) = shifts n register ^^^ low := by
  induction n generalizing register high with
  | zero =>
    obtain rfl : high = low := UInt32.toNat_inj.mp (by simpa using h)
    rfl
  | succ n ih =>
    have hdouble : high.toNat = 2 * (2 ^ n * low.toNat) := by rw [h, Nat.pow_succ', Nat.mul_assoc]
    have hlt := high.toNat_lt
    -- One shift makes a half of it.
    obtain ⟨half, hhalf⟩ : ∃ half : UInt32, half.toNat = 2 ^ n * low.toNat := by
      refine ⟨(2 ^ n * low.toNat).toUInt32, ?_⟩
      rw [Nat.toUInt32_eq, UInt32.toNat_ofNat']
      exact Nat.mod_eq_of_lt (by omega)
    rw [← hhalf] at hdouble
    rw [shifts, shifts, shift_xor hdouble, ih hhalf]

theorem shifts_add (m n : Nat) (register : UInt32) :
    shifts (m + n) register = shifts m (shifts n register) := by
  induction n generalizing register with
  | zero => rfl
  | succ n ih => exact ih (shift register)

/-- The number that a short string stands for. -/
def number (bs : List UInt8) : UInt32 := (LittleEndian.ofBytes bs).toUInt32

theorem toNat_number {bs : List UInt8} (hshort : bs.length ≤ 4) :
    (number bs).toNat = LittleEndian.ofBytes bs := by
  have hlt : LittleEndian.ofBytes bs < 256 ^ 4 :=
    Nat.lt_of_lt_of_le (LittleEndian.ofBytes_lt bs) (Nat.pow_le_pow_right (by decide) hshort)
  unfold number
  rw [Nat.toUInt32_eq, UInt32.toNat_ofNat']
  exact Nat.mod_eq_of_lt hlt

/-- A short string can be told from its number and its length. -/
theorem number_inj {bs bs' : List UInt8} (hlength : bs'.length = bs.length) (hshort : bs.length ≤ 4)
    (h : number bs' = number bs) : bs' = bs := by
  have hnat := congrArg UInt32.toNat h
  rw [toNat_number hshort, toNat_number (hlength ▸ hshort)] at hnat
  rw [← LittleEndian.bytes_ofBytes bs, ← LittleEndian.bytes_ofBytes bs', hnat, hlength]

/-- The places of a byte and those of the number above it do not overlap. -/
theorem add_eq_xor {low : Nat} (hlow : low < 2 ^ 8) (high : Nat) :
    low + 256 * high = low ^^^ 2 ^ 8 * high := by
  apply Nat.eq_of_testBit_eq
  intro i
  rw [Nat.add_comm, show 256 = 2 ^ 8 from rfl, Nat.testBit_two_pow_mul_add high hlow, Nat.testBit_xor,
    Nat.testBit_two_pow_mul]
  by_cases hi : i < 8
  · have hnot : ¬ 8 ≤ i := Nat.not_le_of_lt hi
    simp [hi, hnot]
  · have hle : 8 ≤ i := Nat.le_of_not_lt hi
    have hzero : low.testBit i = false :=
      Nat.testBit_lt_two_pow (Nat.lt_of_lt_of_le hlow (Nat.pow_le_pow_right Nat.two_pos hle))
    simp [hi, hle, hzero]

/-- Up to four bytes are fed as one number. -/
theorem update_short {bs : List UInt8} (hshort : bs.length ≤ 4) (register : UInt32) :
    update register bs = shifts (8 * bs.length) (register ^^^ number bs) := by
  -- By the string; the register has taken in the bytes before.
  induction bs generalizing register with
  | nil => simp [number, LittleEndian.ofBytes, shifts]
  | cons byte rest ih =>
    have hrest : rest.length ≤ 4 := Nat.le_of_succ_le hshort
    have hlt := LittleEndian.ofBytes_lt (byte :: rest)
    have hbound : 256 * LittleEndian.ofBytes rest < 256 ^ 4 := by
      have hpow : 256 ^ (byte :: rest).length ≤ 256 ^ 4 := Nat.pow_le_pow_right (by decide) hshort
      rw [LittleEndian.ofBytes] at hlt
      omega
    -- The rest of the number waits above the byte while that is shifted out.
    obtain ⟨high, hhigh⟩ : ∃ high : UInt32, high.toNat = 2 ^ 8 * (number rest).toNat := by
      refine ⟨(256 * LittleEndian.ofBytes rest).toUInt32, ?_⟩
      rw [toNat_number hrest, Nat.toUInt32_eq, UInt32.toNat_ofNat']
      exact Nat.mod_eq_of_lt hbound
    have hnumber : number (byte :: rest) = byte.toUInt32 ^^^ high := by
      apply UInt32.toNat_inj.mp
      rw [toNat_number hshort, LittleEndian.ofBytes, UInt32.toNat_xor, hhigh, toNat_number hrest,
        UInt8.toNat_toUInt32]
      exact add_eq_xor byte.toNat_lt _
    calc update register (byte :: rest)
        = update (step register byte) rest := rfl
      _ = shifts (8 * rest.length) (shifts 8 (register ^^^ byte.toUInt32) ^^^ number rest) := ih hrest _
      _ = shifts (8 * rest.length) (shifts 8 (register ^^^ byte.toUInt32 ^^^ high)) := by
        rw [shifts_xor hhigh]
      _ = shifts (8 * (byte :: rest).length) (register ^^^ number (byte :: rest)) := by
        rw [← shifts_add, hnumber, UInt32.xor_assoc, List.length_cons, Nat.mul_succ]

theorem update_right_inj {bs bs' : List UInt8} {register : UInt32} (hlength : bs'.length = bs.length)
    (hshort : bs.length ≤ 4) (h : update register bs' = update register bs) : bs' = bs := by
  -- Shifts lose nothing, so the numbers of the two strings are the same.
  rw [update_short hshort, update_short (hlength ▸ hshort), hlength] at h
  exact number_inj hlength hshort ((UInt32.xor_right_inj register).mp (shifts_inj h))

/-- Strings that have the same checksum, and that differ in four consecutive bytes at most, are the
same. -/
theorem window_eq_of_checksum_eq {before window window' after : List UInt8}
    (hlength : window'.length = window.length) (hshort : window.length ≤ 4)
    (h : checksum (before ++ window' ++ after) = checksum (before ++ window ++ after)) :
    window' = window := by
  -- What comes before and what comes after loses nothing either.
  have hregister := UInt32.not_inj.mp h
  rw [update_append, update_append, update_append, update_append] at hregister
  exact update_right_inj hlength hshort (update_left_inj hregister)

end DualSlot.Crc32

namespace DualSlot

/-- The second string is the first one with up to four bytes in a row replaced by others. -/
inductive Corrupted : List UInt8 → List UInt8 → Prop
  | replaced {window window' : List UInt8} (before after : List UInt8)
      (length_eq : window'.length = window.length) (short : window.length ≤ 4)
      (differs : window' ≠ window) :
      Corrupted (before ++ window ++ after) (before ++ window' ++ after)

theorem Corrupted.checksum_ne {bytes bytes' : List UInt8} (h : Corrupted bytes bytes') :
    Crc32.checksum bytes' ≠ Crc32.checksum bytes := by
  cases h with
  | replaced before after length_eq short differs =>
    exact fun heq => differs (Crc32.window_eq_of_checksum_eq length_eq short heq)

end DualSlot
