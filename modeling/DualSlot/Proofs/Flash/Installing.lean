import DualSlot.Proofs.Flash.Discipline

/-!
# The factory programmer

A factory programmer stores a string wherever it fits, in pages that it erases first. It needs nothing but
a working erase circuit (`Flash.effect_install`), and changes nothing if it fails
(`Flash.install_of_error`). If it succeeds, the string stands in its place, the rest of its pages is
erased, and all other bytes are as before (`Flash.getElem?_installed`).
-/

namespace DualSlot.Flash

open DualSlot.Action

variable {g : Geometry} {flash : Flash g} {offset : Nat} {data : List UInt8}

/-- The flash with a string stored in pages that are erased but for it. -/
def installed (flash : Flash g) (offset : Nat) (data : List UInt8) : Flash g :=
  (flash.blank (pageBase offset g.eraseSize) (pageEnd (offset + data.length) g.eraseSize)).splice
    offset data

/-- Whole pages are erased, from that of the first byte to that of the last. -/
theorem checkErase_around (hroom : offset + data.length ≤ g.capacity) :
    g.checkErase (pageBase offset g.eraseSize) (pageEnd (offset + data.length) g.eraseSize) = .ok () := by
  have hlow := pageBase_le offset g.eraseSize
  have hhigh := le_pageEnd (offset + data.length) g.eraseSize_pos
  exact Geometry.checkErase_of_pages (by omega) (pageEnd_le g.eraseSize_pos hroom) (pageBase_mod _ _)
    (pageEnd_mod _ _)

/-- In erased pages the string is stored, whatever is around them. -/
theorem effect_program_blank (hroom : offset + data.length ≤ g.capacity) (flash : Flash g) :
    effect (program offset data)
        (flash.blank (pageBase offset g.eraseSize) (pageEnd (offset + data.length) g.eraseSize))
      = (.ok (), flash.installed offset data) := by
  have hlow := pageBase_le offset g.eraseSize
  have hhigh := le_pageEnd (offset + data.length) g.eraseSize_pos
  exact effect_program_of_erased hroom ((erased_blank flash _ _).mono hlow hhigh)

theorem effect_install (hworks : flash.eraseBroken = false) (hroom : offset + data.length ≤ g.capacity) :
    effect (install offset data) flash = (.ok (), flash.installed offset data) := by
  unfold install
  rw [effect_bind, effect_require_of_true (decide_eq_true hroom), resume_ok, effect_bind,
    effect_erase_of_works hworks (checkErase_around hroom), resume_ok, effect_program_blank hroom]

/-- Programming cannot fail once the pages are erased, so the erase is the last thing that can. -/
theorem install_of_error {e : FlashError} {flash' : Flash g}
    (h : effect (install offset data) flash = (.error e, flash')) : flash' = flash := by
  unfold install at h
  rw [effect_bind] at h
  by_cases hroom : offset + data.length ≤ g.capacity
  · rw [effect_require_of_true (decide_eq_true hroom), resume_ok, effect_bind] at h
    rcases erase_cases flash (pageBase offset g.eraseSize)
      (pageEnd (offset + data.length) g.eraseSize) with ⟨_, herror⟩ | ⟨hok, _⟩
    · rw [herror] at h
      cases h
      rfl
    · rw [hok, resume_ok, effect_program_blank hroom] at h
      cases h
  · rw [effect_require_of_false (decide_eq_false hroom)] at h
    cases h
    rfl

theorem getElem?_installed (hroom : offset + data.length ≤ g.capacity) (flash : Flash g) (i : Nat) :
    (flash.installed offset data).cells[i]?
      = if offset ≤ i ∧ i < offset + data.length then data[i - offset]?
        else if pageBase offset g.eraseSize ≤ i ∧ i < pageEnd (offset + data.length) g.eraseSize then
          some erasedByte
        else flash.cells[i]? := by
  rw [installed, getElem?_splice hroom, getElem?_blank (pageEnd_le g.eraseSize_pos hroom)]

end DualSlot.Flash
