import DualSlot.Proofs.Flash.Reading

/-!
# Writes and erases

What the writing calls of a flash do to its bytes, whether they succeed or fail.

* `Flash.write_cases` and `Flash.erase_cases`: a call that succeeds stores or erases its region, and
  one that fails leaves all bytes alone.
* `Flash.write_answers_iff`: a write that is admitted succeeds just if its region exists and is erased.
* `Flash.AgreeOn.splice` and `Flash.AgreeOn.blank`: nothing else changes.
-/

namespace DualSlot.Flash

open DualSlot.Action

variable {g : Geometry}

/-! ## Regions left alone -/

/-- All bytes from `start` up to `stop` are erased. -/
def Erased (flash : Flash g) (start stop : Nat) : Prop :=
  ∀ i, start ≤ i → i < stop → Cells.isErased flash.cells i

instance (flash : Flash g) (start stop : Nat) : Decidable (flash.Erased start stop) :=
  decidable_of_iff (∀ i < stop, start ≤ i → Cells.isErased flash.cells i)
    ⟨fun h i hlow hhigh => h i hhigh hlow, fun h i hhigh hlow => h i hlow hhigh⟩

theorem Erased.mono {flash : Flash g} {start stop start' stop' : Nat} (h : flash.Erased start stop)
    (hstart : start ≤ start') (hstop : stop' ≤ stop) : flash.Erased start' stop' :=
  fun i hlow hhigh => h i (Nat.le_trans hstart hlow) (Nat.lt_of_lt_of_le hhigh hstop)

theorem Erased.of_agreeOn {flash flash' : Flash g} {start stop : Nat} (h : flash.Erased start stop)
    (hagree : AgreeOn start stop flash flash') : flash'.Erased start stop := by
  intro i hlow hhigh
  rw [Cells.isErased, ← hagree i hlow hhigh]
  exact h i hlow hhigh

theorem erased_congr {flash flash' : Flash g} {start stop : Nat}
    (hagree : AgreeOn start stop flash flash') :
    flash.Erased start stop ↔ flash'.Erased start stop :=
  ⟨fun h => h.of_agreeOn hagree, fun h => h.of_agreeOn hagree.symm⟩

/-- A region is erased just if both of its parts are. -/
theorem erased_append {flash : Flash g} {start mid stop : Nat} (hlow : start ≤ mid)
    (hhigh : mid ≤ stop) :
    flash.Erased start stop ↔ flash.Erased start mid ∧ flash.Erased mid stop := by
  constructor
  · intro h
    exact ⟨h.mono (Nat.le_refl _) hhigh, h.mono hlow (Nat.le_refl _)⟩
  · rintro ⟨hfirst, hsecond⟩ i hi hi'
    by_cases hmid : i < mid
    · exact hfirst i hi hmid
    · exact hsecond i (Nat.le_of_not_lt hmid) hi'

theorem erased_erased (start stop : Nat) : (erased g).Erased start stop := by
  intro i _ _
  unfold Cells.isErased erased
  rw [Vector.getElem?_replicate]
  split <;> rfl

/-- Storing bytes changes nothing below and nothing behind them. -/
theorem AgreeOn.splice {start stop offset : Nat} {data : List UInt8} (flash : Flash g)
    (h : stop ≤ offset ∨ offset + data.length ≤ start) :
    AgreeOn start stop flash (flash.splice offset data) := by
  intro i hlow hhigh
  exact (Cells.getElem?_splice_of_outside flash.cells offset data (by omega)).symm

/-- Erasing changes nothing below and nothing behind. -/
theorem AgreeOn.blank {start stop low high : Nat} (flash : Flash g)
    (h : stop ≤ low ∨ high ≤ start) : AgreeOn start stop flash (flash.blank low high) := by
  intro i hlow hhigh
  refine (Cells.getElem?_blank flash.cells low (high - low) i).trans (if_neg ?_) |>.symm
  omega

theorem erased_blank (flash : Flash g) (start stop : Nat) :
    (flash.blank start stop).Erased start stop := by
  intro i hlow hhigh
  unfold Cells.isErased
  rw [show (flash.blank start stop).cells = Cells.blank flash.cells start (stop - start) from rfl,
    Cells.getElem?_blank]
  by_cases hi : i < g.capacity
  · rw [if_pos ⟨hlow, by omega, hi⟩]
    rfl
  · -- A cell that does not exist counts as erased.
    rw [if_neg fun h => hi h.2.2, Vector.getElem?_eq_none (Nat.le_of_not_lt hi)]
    rfl

/-! ## Writing -/

/-- The flash after a write that was let through or not, before any byte is stored. -/
def afterWrite (flash : Flash g) : Flash g :=
  { flash with writePlan := flash.writePlan.map (·.next) }

@[simp] theorem cells_afterWrite (flash : Flash g) : flash.afterWrite.cells = flash.cells := rfl

@[simp] theorem writePlan_splice (flash : Flash g) (offset : Nat) (data : List UInt8) :
    (flash.splice offset data).writePlan = flash.writePlan := rfl

theorem afterWrite_of_unplanned {flash : Flash g} (h : flash.writePlan = none) :
    flash.afterWrite = flash := by
  rcases flash with ⟨cells, eraseBroken, readPlan, _ | plan⟩
  · rfl
  · cases h

/-- The planned fault of the next write. -/
def writeFault (flash : Flash g) : Option FlashError := flash.writePlan.bind (·.now)

theorem writeFault_of_unplanned {flash : Flash g} (h : flash.writePlan = none) :
    flash.writeFault = none := by
  rw [writeFault, h, Option.bind_none]

theorem effect_admitWrite (flash : Flash g) :
    effect admitWrite flash
      = (match flash.writeFault with
          | none => .ok ()
          | some e => .error e, flash.afterWrite) := by
  rcases flash with ⟨cells, eraseBroken, readPlan, _ | plan⟩
  · rfl
  · unfold effect admitWrite writeFault
    simp only [Option.bind_some]
    cases plan.now <;> rfl

theorem checkSlice_one (g : Geometry) (offset length : Nat) :
    g.checkSlice 1 offset length = .ok () ↔ offset + length ≤ g.capacity := by
  unfold Geometry.checkSlice
  simp [Nat.mod_one]

/-- Programming stores the bytes where all is erased. -/
theorem effect_program_of_erased {flash : Flash g} {offset : Nat} {data : List UInt8}
    (hroom : offset + data.length ≤ g.capacity)
    (herased : flash.Erased offset (offset + data.length)) :
    effect (program offset data) flash = (.ok (), flash.splice offset data) := by
  have hnone := (Cells.firstProgrammed_eq_none_iff _ _ _).mpr herased
  unfold effect program
  rw [(checkSlice_one g offset data.length).mpr hroom, hnone]

/-- Programming is refused where not all is erased, and nothing is stored. -/
theorem effect_program_of_programmed {flash : Flash g} {offset : Nat} {data : List UInt8}
    (hroom : offset + data.length ≤ g.capacity)
    (hprogrammed : ¬ flash.Erased offset (offset + data.length)) :
    effect (program offset data) flash = (.error .notErased, flash) := by
  unfold effect program
  rw [(checkSlice_one g offset data.length).mpr hroom]
  cases hfound : Cells.firstProgrammed flash.cells offset data.length with
  | none => exact absurd ((Cells.firstProgrammed_eq_none_iff _ _ _).mp hfound) hprogrammed
  | some found => rfl

/-- Programming stores all bytes where all was erased, or fails and stores none. -/
theorem program_cases (flash : Flash g) (offset : Nat) (data : List UInt8) :
    (∃ e, effect (program offset data) flash = (.error e, flash))
      ∨ (effect (program offset data) flash = (.ok (), flash.splice offset data)
        ∧ offset + data.length ≤ g.capacity
        ∧ flash.Erased offset (offset + data.length)) := by
  cases hcheck : g.checkSlice 1 offset data.length with
  | error e =>
    refine .inl ⟨e, ?_⟩
    unfold effect program
    rw [hcheck]
  | ok _ =>
    have hroom := (checkSlice_one g offset data.length).mp hcheck
    by_cases herased : flash.Erased offset (offset + data.length)
    · exact .inr ⟨effect_program_of_erased hroom herased, hroom, herased⟩
    · exact .inl ⟨.notErased, effect_program_of_programmed hroom herased⟩

/-- A write stores all of its bytes, or none. Either way the plan of its faults moves on. -/
theorem write_cases (flash : Flash g) (offset : Nat) (data : List UInt8) :
    (∃ e, effect (write offset data) flash = (.error e, flash.afterWrite))
      ∨ (effect (write offset data) flash = (.ok (), flash.afterWrite.splice offset data)
        ∧ flash.writeFault = none
        ∧ offset + data.length ≤ g.capacity
        ∧ flash.Erased offset (offset + data.length)) := by
  unfold write
  rw [effect_bind, effect_admitWrite]
  -- A planned fault moves the plan on, and so does a write that goes through.
  cases flash.writeFault with
  | some e => exact .inl ⟨e, rfl⟩
  | none =>
    rcases program_cases flash.afterWrite offset data with hfailed | ⟨hok, hroom, herased⟩
    · exact .inl hfailed
    · exact .inr ⟨hok, rfl, hroom, herased⟩

/-- A write that is admitted stores its bytes where all is erased. -/
theorem effect_write_of_erased {flash : Flash g} {offset : Nat} {data : List UInt8}
    (hfault : flash.writeFault = none) (hroom : offset + data.length ≤ g.capacity)
    (herased : flash.Erased offset (offset + data.length)) :
    effect (write offset data) flash = (.ok (), flash.afterWrite.splice offset data) := by
  have hprogram : effect (program offset data) flash.afterWrite
      = (.ok (), flash.afterWrite.splice offset data) := effect_program_of_erased hroom herased
  unfold write
  rw [effect_bind, effect_admitWrite, hfault]
  exact hprogram

/-- A write that is admitted is refused where not all is erased. -/
theorem effect_write_of_programmed {flash : Flash g} {offset : Nat} {data : List UInt8}
    (hfault : flash.writeFault = none) (hroom : offset + data.length ≤ g.capacity)
    (hprogrammed : ¬ flash.Erased offset (offset + data.length)) :
    effect (write offset data) flash = (.error .notErased, flash.afterWrite) := by
  have hprogram : effect (program offset data) flash.afterWrite = (.error .notErased, flash.afterWrite) :=
    effect_program_of_programmed hroom hprogrammed
  unfold write
  rw [effect_bind, effect_admitWrite, hfault]
  exact hprogram

/-- A write succeeds just if it is admitted, lies inside the flash and finds all erased. -/
theorem write_answers_iff {flash : Flash g} {offset : Nat} {data : List UInt8} :
    (effect (write offset data) flash).1 = .ok ()
      ↔ flash.writeFault = none ∧ offset + data.length ≤ g.capacity
        ∧ flash.Erased offset (offset + data.length) := by
  constructor
  · intro h
    rcases write_cases flash offset data with ⟨e, herror⟩ | ⟨_, hstored⟩
    · rw [herror] at h
      cases h
    · exact hstored
  · rintro ⟨hfault, hroom, herased⟩
    rw [effect_write_of_erased hfault hroom herased]

/-! ## Erasing -/

/-- An erase that succeeds blanks its pages, and one that fails changes nothing. -/
theorem erase_cases (flash : Flash g) (start stop : Nat) :
    (∃ e, effect (erase start stop) flash = (.error e, flash))
      ∨ (effect (erase start stop) flash = (.ok (), flash.blank start stop)
        ∧ g.checkErase start stop = .ok ()) := by
  unfold erase
  rw [effect_bind, effect_ofExcept]
  cases hcheck : g.checkErase start stop with
  -- The pages are checked before the circuit is tried.
  | error e => exact .inl ⟨e, rfl⟩
  | ok _ =>
    rw [resume_ok, effect_bind, effect_look, resume_ok]
    cases flash.eraseBroken with
    | true => exact .inl ⟨.eraseFailed, rfl⟩
    | false => exact .inr ⟨rfl, rfl⟩

theorem effect_erase_of_works {flash : Flash g} {start stop : Nat} (hworks : flash.eraseBroken = false)
    (hcheck : g.checkErase start stop = .ok ()) :
    effect (erase start stop) flash = (.ok (), flash.blank start stop) := by
  unfold erase
  rw [effect_bind, effect_ofExcept, hcheck, resume_ok, effect_bind, effect_look, hworks]
  rfl

end DualSlot.Flash
