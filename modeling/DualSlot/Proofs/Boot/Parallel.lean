import DualSlot.Proofs.Boot.Programming

/-!
# Other bytes, the same way

Whether a string can be programmed is a matter of its length, of the erased bytes that it goes to, and of
the faults that are planned. What the bytes are, and what was written below, has no part in it.

`Flash.Parallel` is the relation of two flashes that were written with different strings so far: they have
the same plans, and the same bytes ahead. If a string can be programmed on one of them, then any string
of the same length can be programmed on the other (`Flash.Parallel.programUpdateSlot`).
-/

namespace DualSlot.Flash

open DualSlot.Action

variable {g : Geometry} {flash flash' : Flash g} {place offset : Nat} {data data' : List UInt8}

/-- The second flash has the plans of the first one, and its bytes from a place on. -/
structure Parallel (place : Nat) (flash flash' : Flash g) : Prop where
  readPlan_eq : flash'.readPlan = flash.readPlan
  writePlan_eq : flash'.writePlan = flash.writePlan
  ahead : AgreeOn place g.capacity flash flash'

namespace Parallel

theorem refl (flash : Flash g) : flash.Parallel place flash := ⟨rfl, rfl, .refl flash⟩

theorem admits_iff (h : flash.Parallel place flash') (count : Nat) :
    flash'.Admits count ↔ flash.Admits count := by
  unfold Admits
  rw [h.readPlan_eq]

theorem writeFault_eq (h : flash.Parallel place flash') : flash'.writeFault = flash.writeFault := by
  unfold writeFault
  rw [h.writePlan_eq]

theorem erased (h : flash.Parallel offset flash') {stop : Nat} (hstop : stop ≤ g.capacity)
    (herased : flash.Erased offset stop) : flash'.Erased offset stop :=
  herased.of_agreeOn (h.ahead.mono (Nat.le_refl _) hstop)

/-- Two strings of one length are stored next to one another, and behind them nothing changes. -/
theorem stored (h : flash.Parallel offset flash') (hlength : data'.length = data.length) :
    (flash.afterWrite.splice offset data).Parallel (offset + data.length)
      (flash'.afterWrite.splice offset data') where
  readPlan_eq := h.readPlan_eq
  writePlan_eq := by
    show flash'.writePlan.map (·.next) = flash.writePlan.map (·.next)
    rw [h.writePlan_eq]
  ahead := by
    -- Neither string reaches behind its end, so what is ahead of it is still the same on both.
    have hfirst : AgreeOn (offset + data.length) g.capacity flash.afterWrite
        (flash.afterWrite.splice offset data) := AgreeOn.splice _ (.inr (Nat.le_refl _))
    have hsecond : AgreeOn (offset + data.length) g.capacity flash'.afterWrite
        (flash'.afterWrite.splice offset data') :=
      AgreeOn.splice _ (.inr (Nat.le_of_eq (congrArg (offset + ·) hlength)))
    have hbetween : AgreeOn (offset + data.length) g.capacity flash.afterWrite flash'.afterWrite :=
      h.ahead.mono (Nat.le_add_right _ _) (Nat.le_refl _)
    exact hfirst.symm.trans (hbetween.trans hsecond)

end Parallel

/-! ## Programming -/

open Board

variable {board board' after : Board g}

theorem Parallel.programWord (h : board.flash.Parallel offset board'.flash)
    (hlength : data'.length = data.length)
    (hok : effect (programWord offset data) board = (.ok (), after)) :
    ∃ after', effect (Board.programWord offset data') board' = (.ok (), after')
      ∧ after.flash.Parallel (offset + data.length) after'.flash := by
  rcases programWord_cases offset data board with ⟨e, herror⟩ | ⟨hstored, hfault, hroom, herased⟩
  · rw [hok] at herror
    cases herror
  · obtain rfl : after = _ := (Prod.mk.inj (hok.symm.trans hstored)).2
    -- The other footprint is as long, and lies over the same erased bytes.
    have hfootprint := length_footprint_congr g offset hlength
    rw [← hfootprint] at hroom herased
    refine ⟨_, effect_programWord_of_erased ?_ hroom (h.erased hroom herased), h.stored hlength⟩
    rw [h.writeFault_eq, hfault]

theorem Parallel.programFrom (h : board.flash.Parallel offset board'.flash)
    (hlength : data'.length = data.length)
    (hok : effect (programFrom offset data) board = (.ok (), after)) :
    ∃ after', effect (Board.programFrom offset data') board' = (.ok (), after')
      ∧ after.flash.Parallel (offset + data.length) after'.flash := by
  -- By the words of the first string. The other one is cut at the same places.
  induction data using piecewise 4 (by decide) generalizing offset data' board board' with
  | nil =>
    obtain rfl : data' = [] := List.length_eq_zero_iff.mp hlength
    rw [programFrom_nil] at hok ⊢
    cases hok
    exact ⟨board', rfl, h⟩
  | piece data hdata ih =>
    have hdata' : data' ≠ [] := by
      rw [← List.length_pos_iff, hlength]
      exact List.length_pos_iff.mpr hdata
    have htake : (data'.take 4).length = (data.take 4).length := by
      rw [List.length_take, List.length_take, hlength]
    rw [programFrom_of_ne_nil offset hdata, effect_bind] at hok
    rw [programFrom_of_ne_nil offset hdata', effect_bind]
    rcases hword : effect (Board.programWord offset (data.take 4)) board with ⟨_ | _, mid⟩
    · rw [hword] at hok
      cases hok
    rw [hword, resume_ok] at hok
    obtain ⟨mid', hword', hmid⟩ := h.programWord htake hword
    rw [hword', resume_ok]
    rw [List.length_take] at hmid
    by_cases hlast : data.length ≤ 4
    · -- The last word may be a short one, so the place behind it is not that of a next word.
      rw [List.drop_eq_nil_of_le hlast, programFrom_nil] at hok
      rw [List.drop_eq_nil_of_le (hlength ▸ hlast), programFrom_nil]
      cases hok
      rw [Nat.min_eq_right hlast] at hmid
      exact ⟨mid', rfl, hmid⟩
    · have hfour : min 4 data.length = 4 := by omega
      -- What is left of the two strings has one length again.
      have hdrop : (data'.drop 4).length = (data.drop 4).length := by
        rw [List.length_drop, List.length_drop, hlength]
      rw [hfour] at hmid
      obtain ⟨after', hrest, hafter⟩ := ih hmid hdrop hok
      have hend : offset + 4 + (data.drop 4).length = offset + data.length := by
        rw [List.length_drop]
        omega
      rw [hend] at hafter
      exact ⟨after', hrest, hafter⟩

/-- If a string can be programmed, then so can another one of its length on a flash that runs in
parallel. -/
theorem Parallel.programUpdateSlot (hloader : board'.loader = board.loader)
    (h : board.flash.Parallel (board.loader.layout.slotB + offset) board'.flash)
    (hlength : data'.length = data.length)
    (hok : effect (programUpdateSlot offset data) board = (.ok (), after)) :
    ∃ after', effect (Board.programUpdateSlot offset data') board' = (.ok (), after')
      ∧ after.flash.Parallel (board.loader.layout.slotB + offset + data.length) after'.flash := by
  rw [effect_programUpdateSlot] at hok
  split at hok
  · rename_i hroom
    rw [effect_programUpdateSlot, hloader, hlength, if_pos hroom]
    exact h.programFrom hlength hok
  · cases hok

end DualSlot.Flash
