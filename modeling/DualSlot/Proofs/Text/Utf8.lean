import DualSlot.Text.Utf8

/-!
# Texts cut to a number of bytes

A text that does not fit into a number of bytes can be cut behind a character, or just behind the last
byte that fits. The first gives the longest prefix that fits (`Utf8.fitting`). The second gives the same
bytes if no character straddles the cut (`Utf8.take_encode_of_whole`), and otherwise bytes that do not spell
any text (`Utf8.decode?_take_of_straddles`).

All of it rests on one property of the encoding: the first character can be told from the bytes, whatever
follows (`Utf8.encodeChar_append_inj`).
-/

namespace DualSlot.Utf8

variable {room : Nat} {text : List Char}

/-! ## Bytes of characters -/

theorem encode_cons (c : Char) (rest : List Char) :
    encode (c :: rest) = String.utf8EncodeChar c ++ encode rest := List.flatMap_cons

theorem length_encode_nil : (encode []).length = 0 := rfl

theorem length_encode_cons (c : Char) (rest : List Char) :
    (encode (c :: rest)).length = c.utf8Size + (encode rest).length := by
  rw [encode_cons, List.length_append, String.length_utf8EncodeChar]

theorem length_encode_append (as bs : List Char) :
    (encode (as ++ bs)).length = (encode as).length + (encode bs).length := by
  rw [encode_append, List.length_append]

theorem length_encode_singleton (c : Char) : (encode [c]).length = c.utf8Size := by
  rw [length_encode_cons]
  rfl

/-- No character but NUL has a zero byte. -/
theorem ne_zero_of_mem_encodeChar {c : Char} (hc : c ≠ '\x00') {b : UInt8}
    (hb : b ∈ String.utf8EncodeChar c) : b ≠ 0 := by
  have hcode : c.val.toNat ≠ 0 := fun hzero => hc (Char.ext (UInt32.toNat_inj.mp hzero))
  have hbyte : ∀ n : Nat, 0 < n → n < UInt8.size → UInt8.ofNat n ≠ 0 := by
    intro n hpos hlt hzero
    have hn := congrArg UInt8.toNat hzero
    rw [UInt8.toNat_ofNat_of_lt' hlt] at hn
    exact Nat.ne_of_gt hpos hn
  have hsize : UInt8.size = 256 := rfl
  unfold String.utf8EncodeChar at hb
  dsimp only at hb
  -- The bytes of longer characters are at least 128.
  split at hb
  · rw [List.mem_singleton] at hb
    exact hb ▸ hbyte _ (by omega) (by omega)
  · split at hb
    · simp only [List.mem_cons, List.not_mem_nil, or_false] at hb
      rcases hb with rfl | rfl <;> exact hbyte _ (by omega) (by omega)
    · split at hb
      · simp only [List.mem_cons, List.not_mem_nil, or_false] at hb
        rcases hb with rfl | rfl | rfl <;> exact hbyte _ (by omega) (by omega)
      · simp only [List.mem_cons, List.not_mem_nil, or_false] at hb
        rcases hb with rfl | rfl | rfl | rfl <;> exact hbyte _ (by omega) (by omega)

theorem ne_zero_of_mem_encode (hnul : '\x00' ∉ text) {b : UInt8} (hb : b ∈ encode text) : b ≠ 0 := by
  obtain ⟨c, hc, hbyte⟩ := List.mem_flatMap.mp hb
  exact ne_zero_of_mem_encodeChar (fun heq => hnul (heq ▸ hc)) hbyte

/-- The first character can be told from the bytes. -/
theorem encodeChar_append_inj {c d : Char} {xs ys : List UInt8}
    (h : String.utf8EncodeChar c ++ xs = String.utf8EncodeChar d ++ ys) : c = d ∧ xs = ys := by
  have hdecode : ∀ (c : Char) (xs : List UInt8),
      (String.utf8EncodeChar c ++ xs).toByteArray.utf8DecodeChar? 0 = some c := by
    intro c xs
    rw [List.toByteArray_append]
    exact ByteArray.utf8DecodeChar?_utf8EncodeChar_append
  -- Both byte strings decode to their own first character.
  have hchar : c = d := by
    refine Option.some.inj ?_
    rw [← hdecode c xs, h, hdecode d ys]
  subst hchar
  exact ⟨rfl, List.append_cancel_left h⟩

/-! ## The longest prefix that fits -/

/-- The longest prefix of a text whose bytes fit. -/
def fitting : (room : Nat) → List Char → List Char
  | _, [] => []
  | room, c :: rest => if c.utf8Size ≤ room then c :: fitting (room - c.utf8Size) rest else []

/-- A prefix that fits, and has every other one that fits as a prefix. -/
structure LongestWithin (room : Nat) (text kept : List Char) : Prop where
  starts : kept <+: text
  fits : (encode kept).length ≤ room
  longest : ∀ other, other <+: text → (encode other).length ≤ room → other <+: kept

theorem longest_fitting (room : Nat) (text : List Char) :
    LongestWithin room text (fitting room text) := by
  -- By the text, the room being what the characters before it leave.
  induction text generalizing room with
  | nil => exact ⟨List.prefix_rfl, Nat.zero_le _, fun other hother _ => hother⟩
  | cons c rest ih =>
    unfold fitting
    by_cases hc : c.utf8Size ≤ room
    · rw [if_pos hc]
      obtain ⟨hstarts, hfits, hlongest⟩ := ih (room - c.utf8Size)
      refine ⟨(List.prefix_cons_inj c).mpr hstarts, ?_, fun other hother hroom => ?_⟩
      · rw [length_encode_cons]
        omega
      · -- Another prefix that fits is empty, or begins with the same character.
        cases other with
        | nil => exact List.nil_prefix
        | cons d others =>
          obtain ⟨rfl, hothers⟩ := List.cons_prefix_cons.mp hother
          rw [length_encode_cons] at hroom
          exact (List.prefix_cons_inj d).mpr (hlongest others hothers (by omega))
    · rw [if_neg hc]
      refine ⟨List.nil_prefix, Nat.zero_le _, fun other hother hroom => ?_⟩
      cases other with
      | nil => exact List.prefix_rfl
      -- The first character does not fit, so nothing but the empty prefix does.
      | cons d others =>
        obtain ⟨rfl, _⟩ := List.cons_prefix_cons.mp hother
        rw [length_encode_cons] at hroom
        omega

/-- A text that fits is not cut. -/
theorem fitting_of_fits (h : (encode text).length ≤ room) : fitting room text = text := by
  have hlongest := longest_fitting room text
  exact hlongest.starts.eq_of_length_le (hlongest.longest text List.prefix_rfl h).length_le

/-! ## Cutting behind a byte -/

/-- A character begins before the cut and ends behind it. -/
def Straddles (room : Nat) (text : List Char) : Prop :=
  ∃ before c after, text = before ++ c :: after
    ∧ (encode before).length < room ∧ room < (encode before).length + c.utf8Size

/-- Of the longest prefix that fits, one character more does not. -/
theorem LongestWithin.room_lt {kept after : List Char} {c : Char}
    (h : LongestWithin room (kept ++ c :: after) kept) :
    room < (encode kept).length + c.utf8Size := by
  refine Nat.lt_of_not_le fun hroom => ?_
  have hone : kept ++ [c] <+: kept ++ c :: after := ⟨after, by simp⟩
  have hmore : (encode (kept ++ [c])).length ≤ room := by
    rwa [length_encode_append, length_encode_singleton]
  have hlonger := (h.longest _ hone hmore).length_le
  rw [List.length_append, List.length_singleton] at hlonger
  omega

/-- There is a character across the cut just if the longest prefix that fits leaves some room unused. -/
theorem straddles_iff :
    Straddles room text ↔ (encode (fitting room text)).length < room ∧ fitting room text ≠ text := by
  -- Only what is known of the longest prefix is used.
  have hlongest := longest_fitting room text
  generalize fitting room text = kept at hlongest ⊢
  have hfits := hlongest.fits
  constructor
  · rintro ⟨before, c, after, rfl, hbefore, hbehind⟩
    have hlength : (encode kept).length ≤ (encode before).length := by
      rcases List.prefix_or_prefix_of_prefix hlongest.starts (List.prefix_append before (c :: after))
        with ⟨more, rfl⟩ | ⟨more, rfl⟩
      · rw [length_encode_append]
        exact Nat.le_add_right _ _
      · -- If there were more, it would begin with the character that does not fit.
        have hmore := (List.prefix_append_right_inj before).mp hlongest.starts
        cases more with
        | nil => exact Nat.le_of_eq (by rw [List.append_nil])
        | cons d rest =>
          obtain ⟨rfl, _⟩ := List.cons_prefix_cons.mp hmore
          rw [length_encode_append, length_encode_cons] at hfits
          omega
    refine ⟨Nat.lt_of_le_of_lt hlength hbefore, ?_⟩
    rintro rfl
    rw [length_encode_append, length_encode_cons] at hfits
    omega
  · rintro ⟨hroom, hne⟩
    obtain ⟨rest, hrest⟩ := hlongest.starts
    cases rest with
    | nil => exact absurd (by rw [← hrest, List.append_nil]) hne
    | cons c after =>
      rw [← hrest] at hlongest
      exact ⟨kept, c, after, hrest.symm, hroom, hlongest.room_lt⟩

instance (room : Nat) (text : List Char) : Decidable (Straddles room text) :=
  decidable_of_iff' _ straddles_iff

theorem whole_of_fits (h : (encode text).length ≤ room) : ¬ Straddles room text :=
  fun hstraddles => (straddles_iff.mp hstraddles).2 (fitting_of_fits h)

/-- Where there is room for any one character, something of every text fits. -/
theorem fitting_ne_nil (hroom : 4 ≤ room) (htext : text ≠ []) : fitting room text ≠ [] := by
  cases text with
  | nil => exact absurd rfl htext
  | cons c rest =>
    have hsize := c.utf8Size_le_four
    rw [fitting, if_pos (by omega)]
    exact List.cons_ne_nil _ _

/-- Without a character across the cut, the bytes are those of the longest prefix that fits. -/
theorem take_encode_of_whole (h : ¬ Straddles room text) :
    (encode text).take room = encode (fitting room text) := by
  rw [straddles_iff] at h
  have hlongest := longest_fitting room text
  have hfits := hlongest.fits
  by_cases hall : fitting room text = text
  · rw [hall] at hfits ⊢
    exact List.take_of_length_le hfits
  · have hfull : (encode (fitting room text)).length = room :=
      Nat.le_antisymm hfits (Nat.le_of_not_lt fun hlt => h ⟨hlt, hall⟩)
    -- The prefix fills the room, so the cut is behind it.
    obtain ⟨rest, hrest⟩ := hlongest.starts
    have hbytes : encode text = encode (fitting room text) ++ encode rest := by
      rw [← encode_append, hrest]
    rw [hbytes, List.take_left' hfull]

/-- Nothing spells a text and a part of one more character. -/
theorem encode_ne_of_part {c : Char} {count : Nat} (hpos : 0 < count) (hcount : count < c.utf8Size)
    (before spelled : List Char) :
    encode spelled ≠ encode before ++ (String.utf8EncodeChar c).take count := by
  have hlength := String.length_utf8EncodeChar c
  intro h
  -- Character by character the two texts are the same, until only the part is left.
  induction before generalizing spelled with
  | nil =>
    have hpart := congrArg List.length h
    rw [List.length_append, List.length_take] at hpart
    cases spelled with
    | nil =>
      rw [length_encode_nil] at hpart
      omega
    | cons d rest =>
      rw [encode_cons] at h
      -- The first character of the text would be this one, which is not there as a whole.
      have hwhole : String.utf8EncodeChar d ++ (encode rest ++ (String.utf8EncodeChar c).drop count)
          = String.utf8EncodeChar c ++ [] := by
        rw [← List.append_assoc, h, List.append_assoc, List.take_append_drop, List.append_nil]
        rfl
      obtain ⟨rfl, _⟩ := encodeChar_append_inj hwhole
      rw [length_encode_cons, length_encode_nil] at hpart
      omega
  | cons b before ih =>
    cases spelled with
    | nil =>
      have hpart := congrArg List.length h
      have hb := b.utf8Size_pos
      rw [List.length_append, length_encode_cons, length_encode_nil] at hpart
      omega
    | cons d rest =>
      rw [encode_cons, encode_cons, List.append_assoc] at h
      exact ih rest (encodeChar_append_inj h).2

/-- Cut in the middle of a character, the bytes do not spell any text. -/
theorem decode?_take_of_straddles (h : Straddles room text) :
    decode? ((encode text).take room) = none := by
  obtain ⟨before, c, after, rfl, hbefore, hbehind⟩ := h
  -- The cut leaves the characters before this one, and a part of it.
  have htake : (encode (before ++ c :: after)).take room
      = encode before ++ (String.utf8EncodeChar c).take (room - (encode before).length) := by
    rw [encode_append, encode_cons, List.take_append, List.take_of_length_le (Nat.le_of_lt hbefore),
      List.take_append_of_le_length]
    rw [String.length_utf8EncodeChar]
    omega
  rw [htake, decode?, String.fromUTF8?]
  refine dif_neg ?_
  rintro ⟨spelled, hspelled⟩
  have hbytes : encode spelled
      = encode before ++ (String.utf8EncodeChar c).take (room - (encode before).length) :=
    (List.toByteArray_inj.mp hspelled).symm
  exact encode_ne_of_part (by omega) (by omega) before spelled hbytes

end DualSlot.Utf8
