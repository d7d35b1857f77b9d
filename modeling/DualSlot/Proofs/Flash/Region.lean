import DualSlot.Flash.Basic

/-!
# Regions of the flash

What the bytes of a region are, and when two flashes hold the same bytes there.

* `Flash.slice_append` and `Flash.slice_window`: a region is read piece by piece.
* `Cells.splice_append` and `Cells.splice_erased`: storing piece by piece stores the whole, and
  storing erased bytes over erased ones changes nothing.
* `Flash.AgreeOn` says that two flashes hold the same bytes in a region, so that what is read there is
  the same (`AgreeOn.slice_eq`).
-/

namespace DualSlot

/-! ## Storing in pieces -/

namespace Cells

variable {n : Nat}

/-- Storing two strings one after the other stores their concatenation. -/
theorem splice_append (cells : Vector UInt8 n) (offset : Nat) (as bs : List UInt8) :
    splice cells offset (as ++ bs) = splice (splice cells offset as) (offset + as.length) bs := by
  induction as generalizing cells offset with
  | nil => rfl
  | cons a rest ih =>
    rw [List.cons_append, splice, splice, ih, List.length_cons, Nat.add_right_comm, Nat.add_assoc]

/-- The bytes after storing a string: those of the string in its place, and the old ones elsewhere. -/
theorem getElem?_splice (cells : Vector UInt8 n) (offset : Nat) (data : List UInt8) (i : Nat) :
    (splice cells offset data)[i]?
      = if offset ≤ i ∧ i < offset + data.length ∧ i < n then data[i - offset]? else cells[i]? := by
  -- A cell is inside of the string, or below it or behind it; what is behind the last cell is
  -- lost.
  by_cases hi : i < n
  · rw [Vector.getElem?_eq_getElem hi, getElem_splice cells offset data i hi]
    by_cases hlow : offset ≤ i
    · by_cases hhigh : i < offset + data.length
      · have hsub : i - offset < data.length := by omega
        simp [hlow, hhigh, hi, hsub]
      · have hsub : data[i - offset]? = none := List.getElem?_eq_none (by omega)
        simp [hhigh, hi, hsub]
    · simp [hlow, hi]
  · rw [Vector.getElem?_eq_none (by omega), Vector.getElem?_eq_none (by omega)]
    simp [hi]

/-- A byte outside of the stored string stays. -/
theorem getElem?_splice_of_outside (cells : Vector UInt8 n) (offset : Nat) (data : List UInt8)
    {i : Nat} (h : i < offset ∨ offset + data.length ≤ i) :
    (splice cells offset data)[i]? = cells[i]? := by
  rw [getElem?_splice, if_neg (by omega)]

/-- The bytes after erasing: erased ones in the region, and the old ones elsewhere. -/
theorem getElem?_blank (cells : Vector UInt8 n) (offset count i : Nat) :
    (blank cells offset count)[i]?
      = if offset ≤ i ∧ i < offset + count ∧ i < n then some erasedByte else cells[i]? := by
  by_cases hi : i < n
  · rw [Vector.getElem?_eq_getElem hi, getElem_blank cells offset count i hi]
    by_cases hin : offset ≤ i ∧ i < offset + count
    · simp [hin, hi]
    · have hnot : ¬ (offset ≤ i ∧ i < offset + count ∧ i < n) := fun h => hin ⟨h.1, h.2.1⟩
      rw [if_neg hin, if_neg hnot, Vector.getElem?_eq_getElem hi]
  · rw [Vector.getElem?_eq_none (by omega), Vector.getElem?_eq_none (by omega)]
    simp [hi]

theorem isErased_iff {cells : Vector UInt8 n} {i : Nat} (hi : i < n) :
    isErased cells i = true ↔ cells[i]? = some erasedByte := by
  simp [isErased, hi]

/-- Erased bytes leave no trace where all is erased. -/
theorem splice_erased (cells : Vector UInt8 n) (offset count : Nat)
    (h : ∀ i, offset ≤ i → i < offset + count → isErased cells i) :
    splice cells offset (List.replicate count erasedByte) = cells := by
  apply Vector.ext
  intro i hi
  rw [getElem_splice cells offset _ i hi]
  -- Inside, the stored byte is the one that was there; outside, nothing was stored.
  by_cases hin : offset ≤ i ∧ i < offset + count
  · have hcell := (isErased_iff hi).mp (h i hin.1 hin.2)
    rw [Vector.getElem?_eq_getElem hi, Option.some.injEq] at hcell
    have hsub : i - offset < count := by omega
    simp [hin.1, hsub, hcell]
  · by_cases hlow : offset ≤ i
    · have hsub : ¬ i - offset < count := by omega
      simp [hlow, hsub]
    · simp [hlow]

end Cells

/-! ## Reading a region -/

namespace Flash

variable {g : Geometry}

/-- A region holds its bytes in their order, as far as the flash goes. -/
theorem getElem?_slice (flash : Flash g) (offset length k : Nat) :
    (flash.slice offset length)[k]?
      = if k < length then flash.cells[offset + k]? else none := by
  unfold slice
  rw [Array.getElem?_toList, Array.getElem?_extract]
  by_cases hk : k < length
  · -- What lies behind the last cell is cut off on both sides.
    by_cases hin : offset + k < g.capacity
    · have hmin : k < min (offset + length) flash.cells.toArray.size - offset := by
        rw [Vector.size_toArray]
        omega
      rw [if_pos hmin, if_pos hk, Vector.getElem?_toArray]
    · have hmin : ¬ k < min (offset + length) flash.cells.toArray.size - offset := by
        rw [Vector.size_toArray]
        omega
      rw [if_neg hmin, if_pos hk, Vector.getElem?_eq_none (by omega)]
  · have hmin : ¬ k < min (offset + length) flash.cells.toArray.size - offset := by omega
    rw [if_neg hmin, if_neg hk]

theorem length_slice (flash : Flash g) (offset length : Nat)
    (h : offset + length ≤ g.capacity) : (flash.slice offset length).length = length := by
  unfold slice
  rw [Array.length_toList, Array.size_extract, Vector.size_toArray]
  omega

/-- A region is the concatenation of its two parts. -/
theorem slice_append (flash : Flash g) (offset m n : Nat) (h : offset + m ≤ g.capacity) :
    flash.slice offset (m + n) = flash.slice offset m ++ flash.slice (offset + m) n := by
  apply List.ext_getElem?
  intro k
  rw [List.getElem?_append, length_slice flash offset m h]
  simp only [getElem?_slice]
  -- An index falls into the first part, into the second one, or behind both.
  by_cases hm : k < m
  · rw [if_pos hm, if_pos hm, if_pos (by omega)]
  · rw [if_neg hm]
    by_cases hn : k < m + n
    · have hplace : offset + m + (k - m) = offset + k := by omega
      rw [if_pos hn, if_pos (by omega), hplace]
    · rw [if_neg hn, if_neg (by omega)]

/-- A region is what lies below a window in it, the window, and what lies above. -/
theorem slice_window (flash : Flash g) {offset length start stop : Nat} (hlow : offset ≤ start)
    (hwindow : start ≤ stop) (hhigh : stop ≤ offset + length) (hroom : offset + length ≤ g.capacity) :
    flash.slice offset length
      = flash.slice offset (start - offset) ++ flash.slice start (stop - start)
        ++ flash.slice stop (offset + length - stop) := by
  have hlength : stop - offset + (offset + length - stop) = length := by omega
  have hinner : start - offset + (stop - start) = stop - offset := by omega
  have hstart : offset + (start - offset) = start := by omega
  have hstop : offset + (stop - offset) = stop := by omega
  -- The window cuts the region in two places.
  have hupper := slice_append flash offset (stop - offset) (offset + length - stop) (by omega)
  have hlower := slice_append flash offset (start - offset) (stop - start) (by omega)
  rw [hlength, hstop] at hupper
  rw [hinner, hstart] at hlower
  rw [hupper, hlower]

theorem slice_zero (flash : Flash g) (offset : Nat) : flash.slice offset 0 = [] := by
  apply List.ext_getElem?
  intro k
  rw [getElem?_slice, if_neg (by omega), List.getElem?_nil]

/-- Stored bytes are read back. -/
theorem slice_splice (flash : Flash g) (offset : Nat) (data : List UInt8)
    (h : offset + data.length ≤ g.capacity) :
    (flash.splice offset data).slice offset data.length = data := by
  apply List.ext_getElem?
  intro k
  rw [getElem?_slice]
  unfold splice
  by_cases hk : k < data.length
  · rw [if_pos hk, Cells.getElem?_splice, if_pos (by omega), Nat.add_sub_cancel_left]
  · rw [if_neg hk, List.getElem?_eq_none (by omega)]

/-- A string that stands in the flash stands there in two parts, wherever it is cut. -/
theorem slices_of_slice_eq {flash : Flash g} {offset cut : Nat} {data : List UInt8}
    (h : flash.slice offset data.length = data) (hcut : cut ≤ data.length)
    (hroom : offset + data.length ≤ g.capacity) :
    flash.slice offset cut = data.take cut
      ∧ flash.slice (offset + cut) (data.length - cut) = data.drop cut := by
  rw [← Nat.add_sub_cancel' hcut, slice_append _ _ _ _ (by omega)] at h
  have hfirst : (flash.slice offset cut).length = cut := length_slice flash offset cut (by omega)
  -- Both parts are cut from the string at the same place.
  have hlower := congrArg (List.take cut) h
  have hupper := congrArg (List.drop cut) h
  rw [List.take_left' hfirst] at hlower
  rw [List.drop_left' hfirst] at hupper
  exact ⟨hlower, hupper⟩

theorem splice_append (flash : Flash g) (offset : Nat) (as bs : List UInt8) :
    flash.splice offset (as ++ bs)
      = (flash.splice offset as).splice (offset + as.length) bs := by
  unfold splice
  rw [Cells.splice_append]

/-! ## The same bytes -/

/-- Two flashes hold the same bytes from `start` up to `stop`. -/
def AgreeOn (start stop : Nat) (flash flash' : Flash g) : Prop :=
  ∀ i, start ≤ i → i < stop → flash.cells[i]? = flash'.cells[i]?

namespace AgreeOn

variable {start stop : Nat} {flash flash' flash'' : Flash g}

theorem refl (flash : Flash g) : AgreeOn start stop flash flash := fun _ _ _ => rfl

theorem of_cells_eq (h : flash.cells = flash'.cells) : AgreeOn start stop flash flash' := by
  intro i _ _
  rw [h]

theorem symm (h : AgreeOn start stop flash flash') : AgreeOn start stop flash' flash :=
  fun i hlow hhigh => (h i hlow hhigh).symm

theorem trans (h : AgreeOn start stop flash flash') (h' : AgreeOn start stop flash' flash'') :
    AgreeOn start stop flash flash'' :=
  fun i hlow hhigh => (h i hlow hhigh).trans (h' i hlow hhigh)

theorem mono {start' stop' : Nat} (h : AgreeOn start stop flash flash') (hstart : start ≤ start')
    (hstop : stop' ≤ stop) : AgreeOn start' stop' flash flash' :=
  fun i hlow hhigh => h i (by omega) (by omega)

/-- A region reads the same on flashes that agree there. -/
theorem slice_eq {offset length : Nat} (h : AgreeOn start stop flash flash')
    (hstart : start ≤ offset) (hstop : offset + length ≤ stop) :
    flash.slice offset length = flash'.slice offset length := by
  apply List.ext_getElem?
  intro k
  rw [getElem?_slice, getElem?_slice]
  by_cases hk : k < length
  · rw [if_pos hk, if_pos hk]
    exact h (offset + k) (by omega) (by omega)
  · rw [if_neg hk, if_neg hk]

/-- Two flashes agree on a region that reads the same. -/
theorem of_slice_eq {length : Nat} (h : flash.slice start length = flash'.slice start length) :
    AgreeOn start (start + length) flash flash' := by
  intro i hlow hhigh
  have hbyte := congrArg (fun bytes => bytes[i - start]?) h
  simp only [getElem?_slice] at hbyte
  rwa [if_pos (by omega), if_pos (by omega), Nat.add_sub_cancel' hlow] at hbyte

end AgreeOn

end Flash

end DualSlot
