import DualSlot.Proofs.Bench.Rejection
import DualSlot.Proofs.Boot.Splice
import DualSlot.Proofs.Boot.Validation
import DualSlot.Proofs.Flash.Alignment
import DualSlot.Proofs.Update.Readiness

/-!
# What is computed from sizes stays on the device

Offsets and lengths are subtracted, added and rounded in many places, some of them in 32 bits. That none of
this leaves the device follows from checks that stand far apart: the sizes that a geometry admits, the layout
that a boot loader starts with, the room that a transfer is declared in, and the count that a session keeps.

* `Board.InBounds` and `Board.inBounds`: the boot loader, over any flash, whatever it is called with.
* `Session.InBounds` and `Session.Consistent.inBounds`: a session, over any board.
* `Bench.inBounds_after_any_run`: both, after any run.

So an erase of the update slot cannot fail but for its length or a broken circuit, a write not but for its
length or a programmed byte, and the header of a slot is always there to be read.
-/

namespace DualSlot

open DualSlot.Action

/-! ## The flash -/

namespace Flash

variable {g : Geometry} {flash : Flash g}

/-- An erase of whole pages of the flash fails just if the circuit is broken. -/
theorem error_of_erase {start stop : Nat} (hcheck : g.checkErase start stop = .ok ()) {e : FlashError}
    {flash' : Flash g} (h : effect (erase start stop) flash = (.error e, flash')) :
    e = .eraseFailed := by
  cases hbroken : flash.eraseBroken with
  | false =>
    rw [effect_erase_of_works hbroken hcheck] at h
    cases h
  | true =>
    unfold erase at h
    rw [effect_bind, effect_ofExcept, hcheck, resume_ok, effect_bind, effect_look, hbroken] at h
    cases h
    rfl

end Flash

/-! ## The boot loader -/

namespace Board

variable {g : Geometry} {board board' : Board g} {e : BootError}

/-- Both slots begin where a header still has room. -/
theorem header_room (board : Board g) (slot : Slot) :
    board.loader.layout.offset slot + Header.length ≤ g.capacity := by
  have hlow := board.loader.fits.room_a
  have hhigh := board.loader.fits.room_b
  cases slot with
  | a =>
    show board.loader.layout.slotA + Header.length ≤ g.capacity
    omega
  | b => exact hhigh

theorem error_of_eraseUpdateSlot {length : Nat}
    (h : effect (eraseUpdateSlot length) board = (.error e, board')) :
    e = .invalidSize ∨ e = .flashErase .eraseFailed := by
  unfold eraseUpdateSlot at h
  rw [effect_bind, effect_look, resume_ok, effect_bind] at h
  cases hcheck : decide (0 < length) && decide (board.loader.updateSlot + length ≤ g.capacity) with
  -- A length that is refused is an error of its own, and nothing is erased.
  | false =>
    rw [hcheck, effect_require_of_false rfl] at h
    cases h
    exact .inl rfl
  | true =>
    -- What is left is the erase, whose pages are whole and inside of the flash.
    have hroom := of_decide_eq_true (Bool.and_eq_true_iff.mp hcheck).2
    have hpages := board.loader.fits.checkErase hroom
    rw [hcheck, effect_require_of_true rfl, resume_ok, effect_bind, effect_report, resume_ok,
      effect_bind, effect_onFlash] at h
    rcases herase : effect (Flash.erase board.loader.updateSlot
      (pageEnd (board.loader.updateSlot + length) g.eraseSize)) board.flash with ⟨cause | _, flash⟩
    · rw [herase] at h
      cases h
      rw [Flash.error_of_erase hpages herase]
      exact .inr rfl
    · rw [herase] at h
      cases h

theorem error_of_programUpdateSlot (hplan : board.flash.writePlan = none) {offset : Nat}
    {data : List UInt8} (h : effect (programUpdateSlot offset data) board = (.error e, board')) :
    e = .invalidSize ∨ e = .flashWrite .notErased := by
  -- The call is a splice up to the first byte that is programmed already.
  rw [(programUpdateSlot_splices hplan offset data).1] at h
  split at h
  · unfold spliced at h
    split at h
    · cases h
    · cases h
      exact .inr rfl
  · cases h
    exact .inl rfl

/-- Inside the flash a header can only be refused for the read size. -/
theorem error_of_readHeader (hmuted : board.flash.readPlan = none) {offset : Nat}
    (hroom : offset + Header.length ≤ g.capacity)
    (h : effect (readHeader offset) board = (.error e, board')) : e = .flash .notAligned := by
  unfold readHeader at h
  rw [effect_bind, effect_onFlash, Flash.effect_read_of_muted hmuted] at h
  by_cases haligned : g.readSize ∣ offset ∧ g.readSize ∣ Header.length
  · rw [Geometry.checkRead_of_aligned hroom haligned.1 haligned.2] at h
    cases h
  · rw [Geometry.checkRead_of_misaligned hroom haligned] at h
    cases h
    rfl

/-- What the boot loader computes from its slots and its arguments stays on the device. -/
structure InBounds (board : Board g) : Prop where
  slotB_le : board.loader.layout.slotB ≤ g.capacity
  header_le : ∀ slot : Slot, board.loader.layout.offset slot + Header.length ≤ g.capacity
  /-- What is left behind an offset is only computed where it is no less than a header. -/
  validate_ends : ∀ offset, g.capacity < offset + Header.length →
    effect (validate offset) board = (.error .invalidSize, board)
  pages_mod : ∀ length, pageEnd (board.loader.layout.slotB + length) g.eraseSize % g.eraseSize = 0
  pages_cover : ∀ length, board.loader.layout.slotB + length
    ≤ pageEnd (board.loader.layout.slotB + length) g.eraseSize
  pages_le : ∀ length, board.loader.layout.slotB + length ≤ g.capacity →
    pageEnd (board.loader.layout.slotB + length) g.eraseSize ≤ g.capacity
  erase_fails : ∀ length e board', effect (eraseUpdateSlot length) board = (.error e, board') →
    e = .invalidSize ∨ e = .flashErase .eraseFailed
  program_fails : board.flash.writePlan = none → ∀ offset data e board',
    effect (programUpdateSlot offset data) board = (.error e, board') →
      e = .invalidSize ∨ e = .flashWrite .notErased
  header_fails : board.flash.readPlan = none → ∀ (slot : Slot) e board',
    effect (readHeader (board.loader.layout.offset slot)) board = (.error e, board') →
      e = .flash .notAligned

/-- The boot loader stays on the device, over whatever flash. -/
theorem inBounds (board : Board g) : board.InBounds where
  slotB_le := Nat.le_trans (Nat.le_add_right _ _) (board.header_room .b)
  header_le := board.header_room
  validate_ends _ := effect_validate_of_noRoom
  pages_mod _ := pageEnd_mod _ _
  pages_cover _ := le_pageEnd _ g.eraseSize_pos
  pages_le _ := pageEnd_le g.eraseSize_pos
  erase_fails _ _ _ := error_of_eraseUpdateSlot
  program_fails hplan _ _ _ _ := error_of_programUpdateSlot hplan
  header_fails hmuted slot _ _ := error_of_readHeader hmuted (board.header_room slot)

end Board

/-! ## Sessions -/

namespace Session

variable {s : Session}

/-- What a session computes from its counts stays within the declared size, over whatever board. -/
structure InBounds (s : Session) : Prop where
  /-- A transfer that is started has room in the update slot. -/
  started_le : ∀ (g : Geometry) (board : Board g) total chunk link,
    effect (Link.start total chunk) ⟨s, board⟩ = (.ok (), link) →
      board.loader.layout.slotB + total.toNat ≤ g.capacity
  received_le : s.transfer.receivedBytes.toNat ≤ s.transfer.totalSize.toNat
  /-- An accepted chunk is added without wrapping around. -/
  accepted_eq : ∀ (g : Geometry) (board : Board g) number data link,
    effect (Link.receive number data) ⟨s, board⟩ = (.ok (), link) →
      link.session.transfer.receivedBytes.toNat = s.transfer.receivedBytes.toNat + data.length
        ∧ link.session.transfer.receivedBytes.toNat ≤ s.transfer.totalSize.toNat
  quotient_le : 100 * s.transfer.receivedBytes.toNat / s.transfer.totalSize.toNat ≤ 100
  /-- The quotient is a byte as it is. -/
  percent_eq : s.transfer.totalSize ≠ 0 →
    s.transfer.percent.toNat = 100 * s.transfer.receivedBytes.toNat / s.transfer.totalSize.toNat
  percent_le : s.transfer.percent.toNat ≤ 100

theorem room_of_started {g : Geometry} {board : Board g} {total chunk : UInt32} {link : Link g}
    (h : effect (Link.start total chunk) ⟨s, board⟩ = (.ok (), link)) :
    board.loader.layout.slotB + total.toNat ≤ g.capacity := by
  have houtcome := Link.start_outcome total chunk (⟨s, board⟩ : Link g)
  rw [h] at houtcome
  cases houtcome with
  | started may _ =>
    have hslot := board.inBounds.slotB_le
    have hroom : total.toNat ≤ g.capacity - board.loader.layout.slotB := may.total_le
    -- The check at the start compares with the room behind the update slot.
    omega

theorem received_of_accepted {g : Geometry} {board : Board g} {number : UInt32} {data : List UInt8}
    {link : Link g} (h : effect (Link.receive number data) ⟨s, board⟩ = (.ok (), link)) :
    link.session.transfer.receivedBytes.toNat = s.transfer.receivedBytes.toNat + data.length
      ∧ link.session.transfer.receivedBytes.toNat ≤ s.transfer.totalSize.toNat := by
  have houtcome := Link.receive_outcome number data (⟨s, board⟩ : Link g)
  rw [h] at houtcome
  cases houtcome with
  | accepted expected _ _ =>
    have hpos := expected.length_pos
    have hremaining : data.length ≤ s.transfer.remaining := expected.le_remaining
    have hsum : (s.accepted data.length).transfer.receivedBytes.toNat
        = s.transfer.receivedBytes.toNat + data.length := expected.toNat_receivedBytes
    unfold Transfer.remaining at hremaining
    refine ⟨hsum, ?_⟩
    show (s.accepted data.length).transfer.receivedBytes.toNat ≤ s.transfer.totalSize.toNat
    omega

/-- A session that is consistent with itself stays within its declared size. -/
theorem Consistent.inBounds (h : s.Consistent) : s.InBounds where
  started_le _ _ _ _ _ := room_of_started
  received_le := h.counted.le_total
  accepted_eq _ _ _ _ _ := received_of_accepted
  quotient_le := h.counted.quotient_le
  percent_eq := h.counted.toNat_percent
  percent_le := h.counted.percent_le

end Session

/-! ## Any run -/

namespace Bench

variable {g : Geometry}

/-- After any run of the boot loader, of power cycles with any layouts, and of any number of sessions, over
a flash with whatever bytes and faults, the boot loader and the sessions stay on the device in all that
they compute, whatever they are called with next. -/
theorem inBounds_after_any_run (board : Board g) (calls : List BenchCall) :
    let bench := (ofBoard board).steps calls
    bench.board.InBounds
      ∧ ∀ name client, bench.client? name = some client → client.session.InBounds := by
  intro bench
  refine ⟨bench.board.inBounds, fun name client hclient => ?_⟩
  have hconsistent := (consistent_steps board calls).of_client? hclient
  exact hconsistent.inBounds

end Bench

end DualSlot
