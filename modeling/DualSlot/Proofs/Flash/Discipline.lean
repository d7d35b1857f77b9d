import DualSlot.Bench.Call
import DualSlot.Proofs.Bytes.LittleEndian
import DualSlot.Proofs.Flash.Alignment
import DualSlot.Proofs.Flash.Pages
import DualSlot.Proofs.Flash.Writing

/-!
# The discipline of the flash

What a program can do to the bytes of a flash: erase pages, which sets them to `0xFF`, and store bytes
where all is erased. Whatever it does, in whatever order and with the erase circuit broken at times:

* each call does all of what it says, or fails and leaves the device as it was (`Flash.Disciplined`);
* a byte that was programmed keeps its value until an erase of its page succeeds
  (`Flash.cell_survives`).

A call has four ways to end (`Flash.CallOutcome`); the rest follows from these by induction over a run.
-/

namespace DualSlot

/-! ## Words -/

/-- Any word but the erased one has a byte that is not erased. -/
theorem LittleEndian.exists_programmed_byte {value : UInt32} (h : value ≠ erasedWord) :
    ∃ k b, k < 4 ∧ (ofWord value)[k]? = some b ∧ b ≠ erasedByte := by
  -- If all bytes were erased the word would be the erased one, for words are their bytes.
  by_cases hall : ∀ b ∈ ofWord value, b = erasedByte
  · have hword : ofWord value = ofWord erasedWord :=
      List.eq_replicate_iff.mpr ⟨length_ofWord value, hall⟩
    exact absurd (ofWord_inj hword) h
  · simp only [Classical.not_forall] at hall
    obtain ⟨b, hb, hprogrammed⟩ := hall
    obtain ⟨k, hk, hbyte⟩ := List.mem_iff_getElem.mp hb
    refine ⟨k, b, ?_, ?_, hprogrammed⟩
    · rwa [length_ofWord] at hk
    · rw [List.getElem?_eq_getElem hk, hbyte]

/-! ## The calls of a program -/

namespace FlashCall

/-- The call erases or writes, or breaks or mends the erase circuit. -/
def Programs : FlashCall → Prop
  | erase .. | erasePage _ | write .. | writeWord .. | breakErase _ => True
  | read .. | readWord _ | checksum .. | install .. | corrupt .. | planReads _ | planWrites _ => False

instance : (call : FlashCall) → Decidable call.Programs
  | erase .. | erasePage _ | write .. | writeWord .. | breakErase _ => isTrue trivial
  | read .. | readWord _ | checksum .. | install .. | corrupt .. | planReads _ | planWrites _ =>
    isFalse id

/-- The call is an erase, and the byte is in its range. -/
def Erases (g : Geometry) (i : Nat) : FlashCall → Prop
  | erase start stop => start ≤ i ∧ i < stop
  | erasePage offset => i / g.eraseSize = offset / g.eraseSize
  | _ => False

instance (g : Geometry) (i : Nat) : (call : FlashCall) → Decidable (call.Erases g i)
  | erase start stop => inferInstanceAs (Decidable (start ≤ i ∧ i < stop))
  | erasePage offset => inferInstanceAs (Decidable (i / g.eraseSize = offset / g.eraseSize))
  | write .. | writeWord .. | breakErase _ | read .. | readWord _ | checksum .. | install ..
  | corrupt .. | planReads _ | planWrites _ => isFalse id

end FlashCall

namespace Flash

open DualSlot.Action

variable {g : Geometry} {flash : Flash g}

/-- How a call of a program ends: it fails and changes nothing, it erases its range, it stores a string
where all is erased, or it turns to the erase circuit. -/
inductive CallOutcome (flash : Flash g) (call : FlashCall) :
    Except FlashError Answer × Flash g → Prop
  | failed {e : FlashError} : CallOutcome flash call (.error e, flash)
  | erased {start stop : Nat} (covers : ∀ i, start ≤ i ∧ i < stop ↔ call.Erases g i) :
      CallOutcome flash call (.ok .done, flash.blank start stop)
  | stored {offset : Nat} {data : List UInt8}
      (erased : flash.Erased offset (offset + data.length)) :
      CallOutcome flash call (.ok .done, flash.splice offset data)
  | turned {broken : Bool} :
      CallOutcome flash call (.ok .done, { flash with eraseBroken := broken })

/-- On a flash without planned faults a write stores its string where all is erased, or fails and changes
nothing. -/
theorem write_cases_of_unplanned (hunplanned : flash.writePlan = none) (offset : Nat)
    (data : List UInt8) :
    (∃ e, effect (write offset data) flash = (.error e, flash))
      ∨ (effect (write offset data) flash = (.ok (), flash.splice offset data)
        ∧ offset + data.length ≤ g.capacity ∧ flash.Erased offset (offset + data.length)) := by
  have hcases := write_cases flash offset data
  rw [afterWrite_of_unplanned hunplanned] at hcases
  rcases hcases with hfailed | ⟨hok, _, hroom, herased⟩
  · exact .inl hfailed
  · exact .inr ⟨hok, hroom, herased⟩

/-- The page of an offset is erased, or nothing is. -/
theorem erasePage_cases (flash : Flash g) (offset : Nat) :
    (∃ e, effect (erasePage offset) flash = (.error e, flash))
      ∨ (effect (erasePage offset) flash
          = (.ok (), flash.blank (pageBase offset g.eraseSize)
              (pageBase offset g.eraseSize + g.eraseSize))
        ∧ offset < g.capacity) := by
  unfold erasePage
  rw [effect_bind]
  by_cases hinside : offset < g.capacity
  · rw [effect_require_of_true (decide_eq_true hinside), resume_ok]
    rcases erase_cases flash (pageBase offset g.eraseSize)
      (pageBase offset g.eraseSize + g.eraseSize) with hfailed | ⟨hok, _⟩
    · exact .inl hfailed
    · exact .inr ⟨hok, hinside⟩
  · rw [effect_require_of_false (decide_eq_false hinside)]
    exact .inl ⟨.outOfRange, rfl⟩

/-- Every call of a program ends in one of the four ways. -/
theorem call_outcome (hunplanned : flash.writePlan = none) {call : FlashCall} (h : call.Programs) :
    CallOutcome flash call (effect call.run flash) := by
  -- A write of bytes and a write of a word have this in common.
  have hwrite : ∀ offset data, CallOutcome flash call
      (effect ((write offset data).answering Answer.done) flash) := by
    intro offset data
    rw [effect_answering]
    rcases write_cases_of_unplanned hunplanned offset data with ⟨e, herror⟩ | ⟨hok, _, herased⟩
    · rw [herror]
      exact .failed
    · rw [hok]
      exact .stored herased
  cases call with
  | erase start stop =>
    rw [FlashCall.run, effect_answering]
    rcases erase_cases flash start stop with ⟨e, herror⟩ | ⟨hok, _⟩
    · rw [herror]
      exact .failed
    · rw [hok]
      exact .erased fun i => Iff.rfl
  | erasePage offset =>
    rw [FlashCall.run, effect_answering]
    rcases erasePage_cases flash offset with ⟨e, herror⟩ | ⟨hok, _⟩
    · rw [herror]
      exact .failed
    · rw [hok]
      exact .erased (mem_page_iff g.eraseSize_pos offset)
  | write offset data => exact hwrite offset data
  | writeWord offset value => exact hwrite offset (LittleEndian.ofWord value)
  | breakErase broken => exact .turned
  | read | readWord | checksum | install | corrupt | planReads | planWrites => exact h.elim

/-- A program plans no faults, so there are none after its calls either. -/
theorem keeps_unplanned_of_programs {call : FlashCall} (h : call.Programs) :
    Keeps (fun flash : Flash g => flash.writePlan = none) call.run := by
  intro flash hunplanned
  have houtcome := call_outcome hunplanned h
  generalize effect call.run flash = r at houtcome ⊢
  cases houtcome <;> exact hunplanned

/-! ## Programmed bytes -/

/-- A programmed byte outlives a call, unless the call is an erase of it that succeeds. -/
theorem cell_step (hunplanned : flash.writePlan = none) {call : FlashCall} (h : call.Programs)
    {i : Nat} {b : UInt8} (hcell : flash.cells[i]? = some b) (hprogrammed : b ≠ erasedByte) :
    (effect call.run flash).2.cells[i]? = some b
      ∨ call.Erases g i ∧ (effect call.run flash).1 = .ok .done := by
  have houtcome := call_outcome hunplanned h
  generalize effect call.run flash = r at houtcome ⊢
  cases houtcome with
  | failed => exact .inl hcell
  | turned => exact .inl hcell
  | erased covers =>
    rename_i start stop
    -- A byte in the range was erased on purpose; one outside keeps its value.
    by_cases hin : start ≤ i ∧ i < stop
    · exact .inr ⟨(covers i).mp hin, rfl⟩
    · have hagree : AgreeOn i (i + 1) flash (flash.blank start stop) := .blank flash (by omega)
      exact .inl ((hagree i (Nat.le_refl i) (Nat.lt_succ_self i)).symm.trans hcell)
  | stored erased =>
    rename_i offset data
    by_cases hin : offset ≤ i ∧ i < offset + data.length
    · -- All bytes under the string are erased, and this one is not.
      have hi : i < g.capacity := (Vector.getElem?_eq_some_iff.mp hcell).1
      have hblank := (Cells.isErased_iff hi).mp (erased i hin.1 hin.2)
      exact absurd (Option.some.inj (hcell.symm.trans hblank)) hprogrammed
    · have hagree : AgreeOn i (i + 1) flash (flash.splice offset data) := .splice flash (by omega)
      exact .inl ((hagree i (Nat.le_refl i) (Nat.lt_succ_self i)).symm.trans hcell)

/-- The flash after a run of calls, whatever they answer. -/
def steps (flash : Flash g) (calls : List FlashCall) : Flash g :=
  calls.foldl (fun flash call => (effect call.run flash).2) flash

/-- One of the calls of a run is an erase of the byte, and it succeeds. -/
def ErasedDuring (i : Nat) : (flash : Flash g) → List FlashCall → Prop
  | _, [] => False
  | flash, call :: rest =>
    (call.Erases g i ∧ (effect call.run flash).1.isOk = true)
      ∨ ErasedDuring i (effect call.run flash).2 rest

instance decidableErasedDuring (i : Nat) :
    (flash : Flash g) → (calls : List FlashCall) → Decidable (ErasedDuring i flash calls)
  | _, [] => isFalse id
  | flash, call :: rest =>
    have := decidableErasedDuring i (effect call.run flash).2 rest
    inferInstanceAs (Decidable (_ ∨ _))

/-- The same over a run. -/
theorem unplanned_steps (hunplanned : flash.writePlan = none) {calls : List FlashCall}
    (hcalls : ∀ call ∈ calls, call.Programs) : (flash.steps calls).writePlan = none := by
  induction calls generalizing flash with
  | nil => exact hunplanned
  | cons call rest ih =>
    obtain ⟨hcall, hrest⟩ := List.forall_mem_cons.mp hcalls
    exact ih (keeps_unplanned_of_programs hcall flash hunplanned) hrest

/-- A programmed byte outlives a run in which no erase of it succeeds. -/
theorem cell_survives (hunplanned : flash.writePlan = none) {calls : List FlashCall}
    (hcalls : ∀ call ∈ calls, call.Programs) {i : Nat} {b : UInt8}
    (hcell : flash.cells[i]? = some b) (hprogrammed : b ≠ erasedByte)
    (hspared : ¬ ErasedDuring i flash calls) : (flash.steps calls).cells[i]? = some b := by
  -- From the front, for the rest of the run begins with what the first call left.
  induction calls generalizing flash with
  | nil => exact hcell
  | cons call rest ih =>
    obtain ⟨hcall, hrest⟩ := List.forall_mem_cons.mp hcalls
    rw [ErasedDuring, not_or] at hspared
    have hstill : (effect call.run flash).2.cells[i]? = some b := by
      rcases cell_step hunplanned hcall hcell hprogrammed with hstill | ⟨herases, hok⟩
      · exact hstill
      · refine absurd ⟨herases, ?_⟩ hspared.1
        rw [hok]
        rfl
    exact ih (keeps_unplanned_of_programs hcall flash hunplanned) hrest hstill hspared.2

/-! ## The next call -/

/-- What the next call of a program may do: all that it says, or nothing. -/
structure Disciplined (flash : Flash g) : Prop where
  erase_answers_iff : ∀ start stop, (effect (erase start stop) flash).1 = .ok ()
    ↔ flash.eraseBroken = false ∧ g.checkErase start stop = .ok ()
  erase_exact : ∀ start stop flash', effect (erase start stop) flash = (.ok (), flash') →
    ∀ i : Nat, flash'.cells[i]?
      = if start ≤ i ∧ i < stop then some erasedByte else flash.cells[i]?
  erasePage_answers_iff : ∀ offset, (effect (erasePage offset) flash).1 = .ok ()
    ↔ flash.eraseBroken = false ∧ offset < g.capacity
  erasePage_exact : ∀ offset flash', effect (erasePage offset) flash = (.ok (), flash') →
    ∀ i : Nat, flash'.cells[i]?
      = if i / g.eraseSize = offset / g.eraseSize then some erasedByte else flash.cells[i]?
  write_answers_iff : ∀ offset data, (effect (write offset data) flash).1 = .ok ()
    ↔ offset + data.length ≤ g.capacity
      ∧ ∀ i : Nat, offset ≤ i → i < offset + data.length → flash.cells[i]? = some erasedByte
  write_exact : ∀ offset data flash', effect (write offset data) flash = (.ok (), flash') →
    ∀ i : Nat, flash'.cells[i]?
      = if offset ≤ i ∧ i < offset + data.length then data[i - offset]? else flash.cells[i]?
  failed_eq : ∀ (call : FlashCall) e flash', call.Programs → effect call.run flash = (.error e, flash') →
    flash' = flash
  /-- A word can be written twice just if the first time it was the erased one. -/
  rewrite_iff : ∀ offset value value' flash',
    effect (writeWord offset value) flash = (.ok (), flash') →
      ((effect (writeWord offset value') flash').1 = .ok () ↔ value = erasedWord)

/-- An erase of pages is refused for its range or fails for the circuit, and for no other reason. -/
theorem erase_answers_iff (flash : Flash g) (start stop : Nat) :
    (effect (erase start stop) flash).1 = .ok ()
      ↔ flash.eraseBroken = false ∧ g.checkErase start stop = .ok () := by
  unfold erase
  rw [effect_bind, effect_ofExcept]
  cases g.checkErase start stop with
  | error e => exact iff_of_false (fun h => nomatch h) fun h => nomatch h.2
  | ok _ =>
    rw [resume_ok, effect_bind, effect_look, resume_ok]
    cases flash.eraseBroken with
    | true => exact iff_of_false (fun h => nomatch h) fun h => nomatch h.1
    | false => exact iff_of_true rfl ⟨rfl, rfl⟩

/-- An erase of one page is never refused for its alignment. -/
theorem erasePage_answers_iff (flash : Flash g) (offset : Nat) :
    (effect (erasePage offset) flash).1 = .ok ()
      ↔ flash.eraseBroken = false ∧ offset < g.capacity := by
  unfold erasePage
  rw [effect_bind]
  by_cases hinside : offset < g.capacity
  · rw [effect_require_of_true (decide_eq_true hinside), resume_ok]
    refine (erase_answers_iff flash _ _).trans ?_
    rw [Geometry.checkErase_page hinside]
    exact and_congr_right fun _ => iff_of_true rfl hinside
  · rw [effect_require_of_false (decide_eq_false hinside)]
    exact iff_of_false (fun h => nomatch h) fun h => hinside h.2

/-- Byte by byte, what an erase leaves. -/
theorem getElem?_blank {start stop : Nat} (hstop : stop ≤ g.capacity) (flash : Flash g) (i : Nat) :
    (flash.blank start stop).cells[i]?
      = if start ≤ i ∧ i < stop then some erasedByte else flash.cells[i]? := by
  refine (Cells.getElem?_blank flash.cells start (stop - start) i).trans ?_
  by_cases hin : start ≤ i ∧ i < stop
  · rw [if_pos hin, if_pos (by omega)]
  · rw [if_neg hin, if_neg (by omega)]

/-- Byte by byte, what a write leaves. -/
theorem getElem?_splice {offset : Nat} {data : List UInt8}
    (hroom : offset + data.length ≤ g.capacity) (flash : Flash g) (i : Nat) :
    (flash.splice offset data).cells[i]?
      = if offset ≤ i ∧ i < offset + data.length then data[i - offset]? else flash.cells[i]? := by
  refine (Cells.getElem?_splice flash.cells offset data i).trans ?_
  by_cases hin : offset ≤ i ∧ i < offset + data.length
  · rw [if_pos hin, if_pos (by omega)]
  · rw [if_neg hin, if_neg (by omega)]

/-- Inside the flash, a region is erased just if each of its bytes is `0xFF`. -/
theorem erased_iff_cells {offset length : Nat} (hroom : offset + length ≤ g.capacity) :
    flash.Erased offset (offset + length)
      ↔ ∀ i : Nat, offset ≤ i → i < offset + length → flash.cells[i]? = some erasedByte := by
  refine forall_congr' fun i => forall_congr' fun _ => forall_congr' fun hhigh => ?_
  exact Cells.isErased_iff (Nat.lt_of_lt_of_le hhigh hroom)

/-- Without planned faults, a write is refused for its room or for a programmed byte. -/
theorem write_answers_iff_cells (hunplanned : flash.writePlan = none) (offset : Nat)
    (data : List UInt8) :
    (effect (write offset data) flash).1 = .ok ()
      ↔ offset + data.length ≤ g.capacity
        ∧ ∀ i : Nat, offset ≤ i → i < offset + data.length → flash.cells[i]? = some erasedByte := by
  rw [write_answers_iff]
  constructor
  · rintro ⟨_, hroom, herased⟩
    exact ⟨hroom, (erased_iff_cells hroom).mp herased⟩
  · rintro ⟨hroom, hcells⟩
    exact ⟨writeFault_of_unplanned hunplanned, hroom, (erased_iff_cells hroom).mpr hcells⟩

/-- A write that answers has stored its string, and it could. -/
theorem write_exact (hunplanned : flash.writePlan = none) {offset : Nat} {data : List UInt8}
    {flash' : Flash g} (h : effect (write offset data) flash = (.ok (), flash')) :
    flash' = flash.splice offset data ∧ offset + data.length ≤ g.capacity
      ∧ flash.Erased offset (offset + data.length) := by
  rcases write_cases_of_unplanned hunplanned offset data with ⟨e, herror⟩ | ⟨hok, hroom, herased⟩
  · rw [herror] at h
    cases h
  · rw [hok] at h
    cases h
    exact ⟨rfl, hroom, herased⟩

/-- After a word was written, a programmed byte of it stands in the way of another one for as long as
none of its bytes is erased. -/
theorem rewrite_later (hunplanned : flash.writePlan = none) {offset : Nat} {value value' : UInt32}
    {flash' : Flash g} (hfirst : effect (writeWord offset value) flash = (.ok (), flash'))
    {calls : List FlashCall} (hcalls : ∀ call ∈ calls, call.Programs)
    (hspared : ∀ i, offset ≤ i → i < offset + 4 → ¬ ErasedDuring i flash' calls)
    (hsecond : (effect (writeWord offset value') (flash'.steps calls)).1 = .ok ()) :
    value = erasedWord := by
  obtain ⟨rfl, hroom, _⟩ := write_exact hunplanned hfirst
  rw [LittleEndian.length_ofWord] at hroom
  -- Suppose the first word was not the erased one: then one of its bytes is programmed.
  refine Decidable.byContradiction fun hvalue => ?_
  obtain ⟨k, b, hk, hbyte, hprogrammed⟩ := LittleEndian.exists_programmed_byte hvalue
  have hcell : (flash.splice offset (LittleEndian.ofWord value)).cells[offset + k]? = some b := by
    rw [getElem?_splice (by rwa [LittleEndian.length_ofWord]), LittleEndian.length_ofWord,
      if_pos (by omega), Nat.add_sub_cancel_left, hbyte]
  -- This byte survives the run, for none of the bytes of the word is erased in it.
  have hunplanned' : (flash.splice offset (LittleEndian.ofWord value)).writePlan = none := hunplanned
  have hstill := cell_survives hunplanned' hcalls hcell hprogrammed
    (hspared (offset + k) (Nat.le_add_right _ _) (by omega))
  -- The second word finds this byte where it needs an erased one.
  obtain ⟨_, hcells⟩ := (write_answers_iff_cells (unplanned_steps hunplanned' hcalls) offset
    (LittleEndian.ofWord value')).mp hsecond
  rw [LittleEndian.length_ofWord] at hcells
  have hblank := hcells (offset + k) (Nat.le_add_right _ _) (by omega)
  exact hprogrammed (Option.some.inj (hstill.symm.trans hblank))

/-- The second word at once after the first one. -/
theorem rewrite_iff (hunplanned : flash.writePlan = none) {offset : Nat} {value value' : UInt32}
    {flash' : Flash g} (hfirst : effect (writeWord offset value) flash = (.ok (), flash')) :
    (effect (writeWord offset value') flash').1 = .ok () ↔ value = erasedWord := by
  constructor
  · exact rewrite_later hunplanned hfirst (List.forall_mem_nil _) fun _ _ _ => id
  · rintro rfl
    obtain ⟨rfl, hroom, herased⟩ := write_exact hunplanned hfirst
    -- The erased word changes nothing, so the place is as free as before.
    have hsame : flash.splice offset (LittleEndian.ofWord erasedWord) = flash := by
      unfold splice
      rw [show LittleEndian.ofWord erasedWord = List.replicate 4 erasedByte from rfl,
        Cells.splice_erased flash.cells offset 4 herased]
    rw [hsame]
    rw [LittleEndian.length_ofWord] at hroom herased
    refine (write_answers_iff_cells hunplanned offset (LittleEndian.ofWord value')).mpr ?_
    rw [LittleEndian.length_ofWord]
    exact ⟨hroom, (erased_iff_cells hroom).mp herased⟩

/-- All parts of the discipline, from what each single call does. -/
theorem disciplined_of_unplanned (hunplanned : flash.writePlan = none) : flash.Disciplined where
  erase_answers_iff := erase_answers_iff flash
  erase_exact := by
    intro start stop flash' h i
    rcases erase_cases flash start stop with ⟨e, herror⟩ | ⟨hok, hcheck⟩
    · rw [herror] at h
      -- A failed call has no answer, and the others have erased their range.
      cases h
    · rw [hok] at h
      cases h
      exact getElem?_blank (Geometry.le_capacity_of_checkErase hcheck) flash i
  erasePage_answers_iff := erasePage_answers_iff flash
  erasePage_exact := by
    intro offset flash' h i
    rcases erasePage_cases flash offset with ⟨e, herror⟩ | ⟨hok, hinside⟩
    · rw [herror] at h
      cases h
    · rw [hok] at h
      cases h
      have hend := Geometry.le_capacity_of_checkErase (Geometry.checkErase_page hinside)
      rw [getElem?_blank hend]
      simp only [mem_page_iff g.eraseSize_pos]
  write_answers_iff := write_answers_iff_cells hunplanned
  write_exact := by
    intro offset data flash' h i
    obtain ⟨rfl, hroom, _⟩ := write_exact hunplanned h
    exact getElem?_splice hroom flash i
  failed_eq := by
    intro call e flash' hcall h
    have houtcome := call_outcome hunplanned hcall
    rw [h] at houtcome
    cases houtcome
    rfl
  rewrite_iff := fun _ _ _ _ hfirst => rewrite_iff hunplanned hfirst

/-- In any run of erases and writes, with the erase circuit breaking and being mended on the way: each call
does all of what it says or nothing, a programmed byte keeps its value until an erase of it succeeds, and
a word that was written is in the way of another one until then, unless it was the erased one. -/
theorem disciplined_after_any_run (hunplanned : flash.writePlan = none) {calls : List FlashCall}
    (hcalls : ∀ call ∈ calls, call.Programs) :
    (flash.steps calls).Disciplined
      ∧ (∀ (i : Nat) b, flash.cells[i]? = some b → b ≠ erasedByte → ¬ ErasedDuring i flash calls →
          (flash.steps calls).cells[i]? = some b)
      ∧ ∀ before offset value value', before.writePlan = none →
          effect (writeWord offset value) before = (.ok (), flash) →
          (∀ i, offset ≤ i → i < offset + 4 → ¬ ErasedDuring i flash calls) →
          (effect (writeWord offset value') (flash.steps calls)).1 = .ok () → value = erasedWord :=
  ⟨disciplined_of_unplanned (unplanned_steps hunplanned hcalls),
    fun _ _ hcell hprogrammed hspared => cell_survives hunplanned hcalls hcell hprogrammed hspared,
    fun _ _ _ _ hbefore hfirst hspared hsecond =>
      rewrite_later hbefore hfirst hcalls hspared hsecond⟩

end Flash

namespace Halfwords

/-- The device with a word behind its eight bytes. -/
def written : Flash geometry := flash.splice 8 (LittleEndian.ofWord 5)

/-- An erase of the page of the word fails, and one of the next page succeeds. -/
def erasing : List FlashCall :=
  [.breakErase true, .erasePage 8, .breakErase false, .erasePage 16, .write 12 [9]]

/-- A word on a page that could not be erased survives, and stays in the way. -/
theorem disciplined_after_erasing :
    written.writePlan = none
      ∧ (∀ call ∈ erasing, call.Programs)
      ∧ (written.steps erasing).Disciplined
      ∧ (written.steps erasing).cells[8]? = some 5
      ∧ (Action.effect (Flash.writeWord 8 7) (written.steps erasing)).1 ≠ .ok () := by
  have hunplanned : written.writePlan = none := rfl
  have hcalls : ∀ call ∈ erasing, call.Programs := by decide
  obtain ⟨hnext, hsurvives, hagain⟩ := Flash.disciplined_after_any_run hunplanned hcalls
  -- The erase that succeeds is that of the next page.
  have hspared : ∀ i < 12, 8 ≤ i → ¬ Flash.ErasedDuring i written erasing := by decide +kernel
  have hfirst : Action.effect (Flash.writeWord 8 5) flash = (.ok (), written) :=
    Flash.effect_write_of_erased rfl (by decide) (by decide +kernel)
  refine ⟨hunplanned, hcalls, hnext, ?_, fun hsecond => ?_⟩
  · exact hsurvives 8 5 (by decide +kernel) (by decide)
      (hspared 8 (by decide) (Nat.le_refl 8))
  · have hvalue : (5 : UInt32) = erasedWord :=
      hagain flash 8 5 7 rfl hfirst (fun i hlow hhigh => hspared i hhigh hlow) hsecond
    exact absurd hvalue (by decide)

end Halfwords

end DualSlot
