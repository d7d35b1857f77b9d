/-!
# Flash cells

The bytes of a flash as a vector, and the three operations on it: look for a cell that is not erased,
store bytes, and erase. Main statements: what each cell holds afterwards (`getElem_splice`,
`getElem_blank`), and when no programmed cell is found (`firstProgrammed_eq_none_iff`).
-/

namespace DualSlot

/-- The value of an erased byte. -/
def erasedByte : UInt8 := 0xFF

/-- The value of an erased word, and of a word that cannot be read. -/
def erasedWord : UInt32 := 0xFFFFFFFF

namespace Cells

variable {n : Nat}

/-! ## Operations -/

/-- Is a cell erased? A place behind the last cell counts as erased. -/
def isErased (cells : Vector UInt8 n) (i : Nat) : Bool := cells[i]?.getD erasedByte == erasedByte

/-- The first of `count` cells from `offset` on that is not erased. -/
def firstProgrammed (cells : Vector UInt8 n) (offset : Nat) : (count : Nat) → Option Nat
  | 0 => none
  | count + 1 =>
    if isErased cells offset then firstProgrammed cells (offset + 1) count
    else some offset

/-- The cells with `data` stored from `offset` on. -/
def splice (cells : Vector UInt8 n) (offset : Nat) : (data : List UInt8) → Vector UInt8 n
  | [] => cells
  | b :: rest => splice (cells.setIfInBounds offset b) (offset + 1) rest

/-- The cells with `count` of them erased from `offset` on. -/
def blank (cells : Vector UInt8 n) (offset : Nat) : (count : Nat) → Vector UInt8 n
  | 0 => cells
  | count + 1 => blank (cells.setIfInBounds offset erasedByte) (offset + 1) count

/-! ## What the cells hold -/

theorem firstProgrammed_eq_none_iff (cells : Vector UInt8 n) (offset count : Nat) :
    firstProgrammed cells offset count = none
      ↔ ∀ i, offset ≤ i → i < offset + count → isErased cells i := by
  -- By the number of cells that are looked at.
  induction count generalizing offset with
  | zero =>
    simp only [firstProgrammed, Nat.add_zero, true_iff]
    intro i hlow hhigh
    omega
  | succ count ih =>
    unfold firstProgrammed
    by_cases hfirst : isErased cells offset
    · rw [if_pos hfirst, ih]
      constructor
      · intro h i hlow hhigh
        by_cases hi : i = offset
        · exact hi ▸ hfirst
        · exact h i (by omega) (by omega)
      · intro h i hlow hhigh
        exact h i (by omega) (by omega)
    · rw [if_neg hfirst]
      constructor
      · intro h
        cases h
      · intro h
        exact absurd (h offset (Nat.le_refl _) (by omega)) hfirst

/-- A stored byte stands in its cell; all other cells are as before. -/
theorem getElem_splice (cells : Vector UInt8 n) (offset : Nat) (data : List UInt8) (i : Nat)
    (hi : i < n) :
    (splice cells offset data)[i]
      = (if offset ≤ i then data[i - offset]? else none).getD cells[i] := by
  induction data generalizing cells offset with
  | nil => simp [splice]
  | cons b rest ih =>
    rw [splice, ih, Vector.getElem_setIfInBounds hi]
    -- The byte may be the first one of the string, or one of the rest.
    by_cases heq : offset = i
    · subst heq
      have hnot : ¬ offset + 1 ≤ offset := by omega
      simp [hnot]
    · rw [if_neg heq]
      by_cases hle : offset ≤ i
      · have hlt : offset + 1 ≤ i := by omega
        have hsub : i - offset = i - (offset + 1) + 1 := by omega
        rw [if_pos hle, if_pos hlt, hsub, List.getElem?_cons_succ]
      · have hnot : ¬ offset + 1 ≤ i := by omega
        rw [if_neg hle, if_neg hnot]

/-- The cells of the range are erased; all other cells are as before. -/
theorem getElem_blank (cells : Vector UInt8 n) (offset count : Nat) (i : Nat) (hi : i < n) :
    (blank cells offset count)[i]
      = if offset ≤ i ∧ i < offset + count then erasedByte else cells[i] := by
  induction count generalizing cells offset with
  | zero =>
    have hnot : ¬ (offset ≤ i ∧ i < offset + 0) := by omega
    rw [if_neg hnot, blank]
  | succ count ih =>
    rw [blank, ih, Vector.getElem_setIfInBounds hi]
    by_cases heq : offset = i
    · subst heq
      simp
    · rw [if_neg heq]
      by_cases hin : offset ≤ i ∧ i < offset + (count + 1)
      · rw [if_pos hin, if_pos (by omega)]
      · rw [if_neg hin, if_neg (by omega)]

end Cells

end DualSlot
