import DualSlot.Flash.Geometry

/-!
# Rounding to pages

Offsets are rounded down and up to page boundaries (`pageBase`, `pageEnd`). Rounding never leaves a flash
that the offset was in, so whatever is rounded on both ends can be erased
(`Geometry.checkErase_of_pages`).
-/

namespace DualSlot

/-! ## Down -/

theorem pageBase_eq (offset page : Nat) : pageBase offset page = page * (offset / page) := by
  have hoffset := Nat.div_add_mod offset page
  unfold pageBase
  omega

theorem pageBase_mod (offset page : Nat) : pageBase offset page % page = 0 := by
  rw [pageBase_eq, Nat.mul_mod_right]

theorem pageBase_le (offset page : Nat) : pageBase offset page ≤ offset := Nat.sub_le _ _

/-- The page of an offset has the bytes with its page number. -/
theorem mem_page_iff {page : Nat} (hpage : 0 < page) (offset i : Nat) :
    pageBase offset page ≤ i ∧ i < pageBase offset page + page ↔ i / page = offset / page := by
  rw [pageBase_eq, Nat.mul_comm, Nat.div_eq_iff hpage]
  omega

/-! ## Up -/

theorem pageEnd_mod (offset page : Nat) : pageEnd offset page % page = 0 :=
  Nat.mul_mod_left _ page

theorem le_pageEnd (offset : Nat) {page : Nat} (hpage : 0 < page) : offset ≤ pageEnd offset page := by
  unfold pageEnd
  have hdiv := Nat.div_add_mod (offset + page - 1) page
  have hmod := Nat.mod_lt (offset + page - 1) hpage
  rw [Nat.mul_comm] at hdiv
  omega

theorem pageEnd_le {offset page count : Nat} (hpage : 0 < page) (h : offset ≤ page * count) :
    pageEnd offset page ≤ page * count := by
  unfold pageEnd
  -- The number of pages is no larger than `count`.
  have hdiv : (offset + page - 1) / page < count + 1 := by
    rw [Nat.div_lt_iff_lt_mul hpage, Nat.succ_mul, Nat.mul_comm count]
    omega
  rw [Nat.mul_comm]
  exact Nat.mul_le_mul_left page (Nat.le_of_lt_succ hdiv)

/-! ## Erasing whole pages -/

namespace Geometry

variable {g : Geometry} {start stop offset : Nat}

theorem checkErase_of_pages (hle : start ≤ stop) (hroom : stop ≤ g.capacity)
    (hstart : start % g.eraseSize = 0) (hstop : stop % g.eraseSize = 0) :
    g.checkErase start stop = .ok () := by
  unfold checkErase
  rw [if_neg (by omega), if_neg]
  exact fun hne => hne.elim (· hstart) (· hstop)

/-- The page of an offset inside the flash is one that can be erased. -/
theorem checkErase_page (h : offset < g.capacity) :
    g.checkErase (pageBase offset g.eraseSize) (pageBase offset g.eraseSize + g.eraseSize)
      = .ok () := by
  have hsector : offset / g.eraseSize < g.sectors := Nat.div_lt_of_lt_mul h
  refine checkErase_of_pages (Nat.le_add_right _ _) ?_ (pageBase_mod _ _) ?_
  · rw [pageBase_eq, ← Nat.mul_succ]
    exact Nat.mul_le_mul_left _ hsector
  · rw [Nat.add_mod_right, pageBase_mod]

theorem le_capacity_of_checkErase (h : g.checkErase start stop = .ok ()) : stop ≤ g.capacity := by
  unfold checkErase at h
  split at h
  · cases h
  · omega

end Geometry

end DualSlot
