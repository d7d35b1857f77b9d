import DualSlot.Bytes.Pieces

/-!
# Cutting off one piece after the other

`pieces` cuts a string in one go. Proofs about a loop over the pieces go by the recursion given here:
the first piece, then the pieces of what is left. By that recursion the pieces put together are the string
again (`flatten_pieces`), and all but the last one have the full size (`length_of_mem_dropLast_pieces`).
-/

namespace DualSlot

variable {α : Type} {size : Nat}

theorem ceilDiv_zero (hsize : 0 < size) : ceilDiv 0 size = 0 :=
  Nat.div_eq_of_lt (by omega)

theorem ceilDiv_le (hsize : 0 < size) (n : Nat) : ceilDiv n size ≤ n := by
  unfold ceilDiv
  refine Nat.le_of_lt_succ ((Nat.div_lt_iff_lt_mul hsize).mpr ?_)
  have hmul : n ≤ n * size := Nat.le_mul_of_pos_right n hsize
  rw [Nat.succ_mul]
  omega

theorem ceilDiv_of_pos {n : Nat} (hsize : 0 < size) (hn : 0 < n) :
    ceilDiv n size = ceilDiv (n - size) size + 1 := by
  unfold ceilDiv
  by_cases hlast : n ≤ size
  · -- One piece holds all, and nothing is left to cut.
    have hone : n + size - 1 = size + (n - 1) := by omega
    rw [Nat.sub_eq_zero_of_le hlast, hone, Nat.add_div_left _ hsize,
      Nat.div_eq_of_lt (by omega), Nat.div_eq_of_lt (by omega)]
  · have hmore : n + size - 1 = (n - size + size - 1) + size := by omega
    rw [hmore, Nat.add_div_right _ hsize]

theorem pieces_eq_map (size : Nat) (xs : List α) :
    pieces size xs
      = (List.range (ceilDiv xs.length size)).map fun k => (xs.drop (k * size)).take size := by
  unfold pieces
  simp only [List.size_toArray, List.extract_toArray, List.extract_eq_take_drop,
    Nat.add_sub_cancel_left]

/-- Each piece begins where those before it end. -/
theorem eq_of_getElem?_pieces {xs piece : List α} {i : Nat} (h : (pieces size xs)[i]? = some piece) :
    piece = (xs.drop (i * size)).take size := by
  rw [pieces_eq_map, List.getElem?_map] at h
  obtain ⟨k, hk, hpiece⟩ := Option.map_eq_some_iff.mp h
  obtain ⟨_, hindex⟩ := List.getElem?_eq_some_iff.mp hk
  rw [List.getElem_range] at hindex
  rw [← hpiece, hindex]

theorem length_le_of_mem_pieces {xs piece : List α} (h : piece ∈ pieces size xs) :
    piece.length ≤ size := by
  rw [pieces_eq_map] at h
  obtain ⟨k, _, rfl⟩ := List.mem_map.mp h
  exact List.length_take_le size _

@[simp] theorem pieces_nil (hsize : 0 < size) : pieces size ([] : List α) = [] := by
  rw [pieces_eq_map, List.length_nil, ceilDiv_zero hsize]
  rfl

/-- The first piece, and the pieces of the rest. -/
theorem pieces_of_ne_nil (hsize : 0 < size) {xs : List α} (hxs : xs ≠ []) :
    pieces size xs = xs.take size :: pieces size (xs.drop size) := by
  have hlength := List.length_pos_iff.mpr hxs
  rw [pieces_eq_map, pieces_eq_map, ceilDiv_of_pos hsize hlength, List.range_succ_eq_map,
    List.map_cons, List.map_map, List.length_drop]
  congr 1
  · simp
  · -- Piece `k + 1` of the string is piece `k` of what is left.
    apply List.map_congr_left
    intro k _
    simp only [Function.comp_apply, List.drop_drop, Nat.succ_mul]
    rw [Nat.add_comm]

/-- Induction over a string, a piece at a time. -/
@[elab_as_elim]
theorem piecewise {motive : List α → Prop} (size : Nat) (hsize : 0 < size) (nil : motive [])
    (piece : ∀ xs, xs ≠ [] → motive (xs.drop size) → motive xs) (xs : List α) : motive xs := by
  by_cases hxs : xs = []
  · rw [hxs]
    exact nil
  · have hlength := List.length_pos_iff.mpr hxs
    exact piece xs hxs (piecewise size hsize nil piece (xs.drop size))
termination_by xs.length
decreasing_by
  rw [List.length_drop]
  omega

/-! ## The pieces together -/

theorem length_pieces (size : Nat) (xs : List α) :
    (pieces size xs).length = ceilDiv xs.length size := by
  rw [pieces_eq_map, List.length_map, List.length_range]

theorem flatten_pieces (hsize : 0 < size) (xs : List α) : (pieces size xs).flatten = xs := by
  induction xs using piecewise size hsize with
  | nil => rw [pieces_nil hsize, List.flatten_nil]
  | piece xs hxs ih => rw [pieces_of_ne_nil hsize hxs, List.flatten_cons, ih, List.take_append_drop]

theorem length_pos_of_mem_pieces (hsize : 0 < size) {xs part : List α} (h : part ∈ pieces size xs) :
    0 < part.length := by
  induction xs using piecewise size hsize with
  | nil =>
    rw [pieces_nil hsize] at h
    cases h
  | piece xs hxs ih =>
    rw [pieces_of_ne_nil hsize hxs] at h
    rcases List.mem_cons.mp h with rfl | hrest
    · have hlength := List.length_pos_iff.mpr hxs
      rw [List.length_take]
      omega
    · exact ih hrest

/-- Every piece that another one follows has the full size. -/
theorem length_of_mem_dropLast_pieces (hsize : 0 < size) {xs part : List α}
    (h : part ∈ (pieces size xs).dropLast) : part.length = size := by
  -- By the pieces: the first one has the full size if something is left behind it.
  induction xs using piecewise size hsize with
  | nil =>
    rw [pieces_nil hsize] at h
    cases h
  | piece xs hxs ih =>
    rw [pieces_of_ne_nil hsize hxs] at h
    by_cases hlast : xs.drop size = []
    · rw [hlast, pieces_nil hsize] at h
      cases h
    · have hmore : pieces size (xs.drop size) ≠ [] := by
        rw [pieces_of_ne_nil hsize hlast]
        exact List.cons_ne_nil _ _
      rw [List.dropLast_cons_of_ne_nil hmore] at h
      rcases List.mem_cons.mp h with rfl | hrest
      · have hbehind := List.length_pos_iff.mpr hlast
        rw [List.length_drop] at hbehind
        rw [List.length_take]
        omega
      · exact ih hrest

end DualSlot
