import Mathlib.Algebra.Group.Nat.Defs
import DualSlot.Bytes.LittleEndian

/-!
# Numbers and their bytes

Writing a number to bytes and reading it from bytes are inverse to each other: `ofBytes_bytes` and
`bytes_ofBytes`. For words these are `word_ofWord_append`, with anything behind the four bytes, and
`ofWord_word`.
-/

namespace DualSlot.LittleEndian

theorem ofBytes_bytes (count n : Nat) : ofBytes (bytes count n) = n % 256 ^ count := by
  induction count generalizing n with
  | zero => simp [bytes, ofBytes, Nat.mod_one]
  | succ count ih =>
    have hlow : n.toUInt8.toNat = n % 256 := UInt8.toNat_ofNat'
    rw [bytes, ofBytes, ih, hlow, Nat.pow_succ', Nat.mod_mul]

theorem ofBytes_lt (bs : List UInt8) : ofBytes bs < 256 ^ bs.length := by
  induction bs with
  | nil => simp [ofBytes]
  | cons b rest ih =>
    have hb : b.toNat < 256 := b.toNat_lt
    simp only [ofBytes, List.length_cons, Nat.pow_succ']
    omega

theorem bytes_ofBytes (bs : List UInt8) : bytes bs.length (ofBytes bs) = bs := by
  induction bs with
  | nil => rfl
  | cons b rest ih =>
    have hb : b.toNat < 256 := b.toNat_lt
    have hdiv : (b.toNat + 256 * ofBytes rest) / 256 = ofBytes rest := by omega
    have hmod : (b.toNat + 256 * ofBytes rest).toUInt8 = b := by
      apply UInt8.toNat_inj.mp
      simp only [Nat.toUInt8, UInt8.toNat_ofNat']
      omega
    simp only [List.length_cons, bytes, ofBytes, hdiv, hmod, ih]

/-! ## Words -/

@[simp] theorem length_ofWord (w : UInt32) : (ofWord w).length = 4 := length_bytes 4 w.toNat

theorem word_ofWord_append (w : UInt32) (rest : List UInt8) : word (ofWord w ++ rest) = w := by
  have htake : (ofWord w ++ rest).take 4 = ofWord w := List.take_left' (length_ofWord w)
  have hw : w.toNat < 256 ^ 4 := w.toNat_lt
  unfold word
  rw [htake, ofWord, ofBytes_bytes, Nat.mod_eq_of_lt hw]
  exact UInt32.ofNat_toNat

theorem ofWord_word {bs : List UInt8} (h : 4 ≤ bs.length) : ofWord (word bs) = bs.take 4 := by
  have hlength : (bs.take 4).length = 4 := List.length_take_of_le h
  have hbound : ofBytes (bs.take 4) < 256 ^ (bs.take 4).length := ofBytes_lt (bs.take 4)
  rw [hlength] at hbound
  have hnat : (word bs).toNat = ofBytes (bs.take 4) := UInt32.toNat_ofNat_of_lt' hbound
  have hround := bytes_ofBytes (bs.take 4)
  rw [hlength] at hround
  rw [ofWord, hnat, hround]

/-- Different words have different bytes. -/
theorem ofWord_inj {v w : UInt32} (h : ofWord v = ofWord w) : v = w := by
  rw [← word_ofWord_append v [], h, word_ofWord_append]

end DualSlot.LittleEndian
