import DualSlot.Proofs.Boot.Outcome
import DualSlot.Proofs.Flash.Writing

/-!
# Does going back to slot A depend on the update slot?

An image in slot A may be longer than slot A: the check of the boot loader holds its size against the end
of the flash, not against the start of the update slot. The bytes of such an image in the update slot are
under its checksum, and a change of any one of them makes it invalid (`HoldsImage.cell_eq`).

`Board.rollback_independent_iff`: whatever happens to the update slot, slot A can be gone back to, just if
the image there ends where the update slot starts, or before.
-/

namespace DualSlot

/-! ## One byte of an image -/

namespace Flash

variable {g : Geometry} {flash flash' : Flash g} {slot i : Nat} {header : Header}

/-- A byte of the payload is under the checksum: where two flashes hold the same image and differ nowhere
else, they do not differ there either. -/
theorem HoldsImage.cell_eq (h : flash.HoldsImage slot header) (h' : flash'.HoldsImage slot header)
    (hlow : slot + Header.length ≤ i) (hhigh : i < slot + header.size.toNat)
    (hbelow : AgreeOn 0 i flash flash') (habove : AgreeOn (i + 1) g.capacity flash flash') :
    flash.cells[i]? = flash'.cells[i]? := by
  have hend := h.payload_end
  have hroom := h.le_capacity
  have hagree : AgreeOn i (i + 1) flash flash' :=
    .of_checksum_eq hlow (Nat.le_succ i) (by omega) (by omega) (by omega) hbelow habove
      (h.crc32_eq.symm.trans h'.crc32_eq)
  exact hagree i (Nat.le_refl i) (Nat.lt_succ_self i)

/-- The flash with another byte in a place, and no planned faults of reads. -/
def changedAt (flash : Flash g) (i : Nat) : Flash g :=
  flash.mute.splice i [(flash.cells[i]?.getD erasedByte) + 1]

/-- The byte in that place is another one. -/
theorem changedAt_ne (hi : i < g.capacity) :
    flash.cells[i]? ≠ (flash.changedAt i).cells[i]? := by
  have hafter : (flash.changedAt i).cells[i]? = some (flash.cells[i] + 1) := by
    unfold changedAt splice
    rw [Cells.getElem?_splice, if_pos ⟨Nat.le_refl i, Nat.lt_succ_self i, hi⟩, Nat.sub_self,
      Vector.getElem?_eq_getElem hi]
    rfl
  rw [hafter, Vector.getElem?_eq_getElem hi]
  intro heq
  have hnat := congrArg UInt8.toNat (Option.some.inj heq)
  rw [UInt8.toNat_add] at hnat
  have hone : (1 : UInt8).toNat = 1 := rfl
  omega

theorem AgreeOn.changedAt {start stop : Nat} (flash : Flash g) (h : stop ≤ i ∨ i + 1 ≤ start) :
    AgreeOn start stop flash (flash.changedAt i) :=
  (AgreeOn.of_cells_eq rfl).trans (AgreeOn.splice flash.mute h)

end Flash

/-! ## Going back to slot A -/

namespace Board

open DualSlot.Action

variable {g : Geometry} {board : Board g} {header : Header}

/-- Slot A is gone back to, and the image with this header is active then. -/
structure FallsBackTo (board : Board g) (header : Header) : Prop where
  answers : (effect rollback board).1 = .ok ()
  activeSlot_eq : (effect rollback board).2.loader.activeSlot = board.loader.layout.slotA
  activeHeader_eq : (effect rollback board).2.loader.context.activeHeader = header

theorem FallsBackTo.holdsImage (h : board.FallsBackTo header) :
    board.flash.HoldsImage board.loader.layout.slotA header := by
  obtain ⟨hanswers, _, hheader⟩ := h
  have houtcome := rollback_outcome board
  generalize effect rollback board = r at houtcome hanswers hheader
  cases houtcome with
  | invalid _ _ => cases hanswers
  | rolledBack holds noted =>
    rw [noted.context_eq] at hheader
    exact hheader ▸ holds

/-- A valid image in slot A is gone back to, if no read is made to fail. -/
theorem fallsBackTo_of_reads (h : board.flash.HoldsImage board.loader.layout.slotA header)
    (hreads : board.flash.ReadsWentThrough (effect rollback board).2.flash) :
    board.FallsBackTo header := by
  have hmuted : board.mute.flash.HoldsImage board.mute.loader.layout.slotA header :=
    h.of_cells_eq rfl
  have hanswers : (effect rollback board).1 = .ok () := by
    have hsame := inspects_rollback.effect_mute hreads
    rw [effect_rollback rfl hmuted] at hsame
    exact (congrArg Prod.fst hsame).symm
  have houtcome := rollback_outcome board
  rcases hr : effect rollback board with ⟨answer, after⟩
  rw [hr] at houtcome hanswers
  cases houtcome with
  | invalid _ _ => cases hanswers
  | rolledBack holds noted =>
    obtain rfl := holds.unique h
    -- What was found there is the image that is known to be there.
    refine ⟨by rw [hr], ?_, ?_⟩
    · rw [hr, Loader.activeSlot, noted.layout_eq, noted.context_eq]
      rfl
    · rw [hr, noted.context_eq]
      rfl

/-- Slot A holds a valid image. It can be gone back to, with whatever bytes in the update slot and whatever
else the boot loader has in mind, just if the image does not reach into the update slot. -/
theorem rollback_independent_iff
    (hvalid : (effect (validate board.loader.layout.slotA) board).1 = .ok header) :
    (∀ board' : Board g, board'.loader.layout = board.loader.layout →
        Flash.AgreeOn 0 board.loader.layout.slotB board.flash board'.flash →
        board'.flash.ReadsWentThrough (effect rollback board').2.flash →
        board'.FallsBackTo header)
      ↔ board.loader.layout.slotA + header.size.toNat ≤ board.loader.layout.slotB := by
  have hholds := holdsImage_of_validate hvalid
  constructor
  · intro hall
    -- Otherwise the image reaches into the update slot, and some change of that slot loses it.
    refine Nat.le_of_not_lt fun hreaches => ?_
    have hroom := hholds.le_capacity
    -- Change the first byte of the update slot, and nothing else.
    let changed : Board g :=
      ⟨board.flash.changedAt board.loader.layout.slotB, board.loader⟩
    have hbelow : Flash.AgreeOn 0 board.loader.layout.slotB board.flash changed.flash :=
      .changedAt board.flash (.inl (Nat.le_refl _))
    have habove : Flash.AgreeOn (board.loader.layout.slotB + 1) g.capacity board.flash
        changed.flash := .changedAt board.flash (.inr (Nat.le_refl _))
    have hunplanned : changed.flash.ReadsWentThrough (effect rollback changed).2.flash := by
      intro plan _ hplan
      cases hplan
    have hstill := (hall changed rfl hbelow hunplanned).holdsImage
    -- Then the image is not the same any more.
    have hcell := hholds.cell_eq hstill board.loader.fits.room_a hreaches hbelow habove
    exact Flash.changedAt_ne (by omega) hcell
  · intro hends board' hlayout hagree hreads
    refine fallsBackTo_of_reads ?_ hreads
    rw [hlayout]
    exact hholds.of_agreeOn hagree (Nat.zero_le _) hends

/-- The image from the factory can always be gone back to. -/
theorem rollback_independent_factory :
    (effect (validate Factory.board.loader.layout.slotA) Factory.board).1 = .ok Factory.header
      ∧ ∀ board' : Board .tiny, board'.loader.layout = Factory.board.loader.layout →
        Flash.AgreeOn 0 Factory.board.loader.layout.slotB Factory.board.flash board'.flash →
        board'.flash.ReadsWentThrough (effect rollback board').2.flash →
        board'.FallsBackTo Factory.header := by
  have hvalid : (effect (validate Factory.board.loader.layout.slotA) Factory.board).1
      = .ok Factory.header := Factory.validate_slotA
  have hends : Factory.board.loader.layout.slotA + Factory.header.size.toNat
      ≤ Factory.board.loader.layout.slotB := by decide
  exact ⟨hvalid, (rollback_independent_iff hvalid).mpr hends⟩

end Board

/-! ## An image that is longer than its slot -/

namespace Overlong

/-- Four bytes more than there is room for in slot A of the factory. -/
def payload : List UInt8 := List.replicate 20 7

def header : Header := { Factory.header with size := 100, crc32 := Crc32.checksum payload }

def flash : Flash .tiny :=
  (Flash.erased .tiny).splice Factory.layout.slotA (header.encode ++ payload)

def board : Board .tiny where
  flash
  loader :=
    { Factory.loader with
      context :=
        { Factory.loader.context with
          activeHeader := Header.decode (flash.slice Factory.layout.slotA Header.length)
          updateHeader := Header.decode (flash.slice Factory.layout.slotB Header.length) } }

/-- The boot loader starts over this flash and finds the image in slot A valid. Once the first page of the
update slot is erased, slot A cannot be gone back to any more. -/
theorem lost_by_erasing :
    Action.effect (Board.powerOn Factory.layout) flash = (.ok board.loader, board.flash)
      ∧ (Action.effect (Board.validate board.loader.layout.slotA) board).1 = .ok header
      ∧ Flash.AgreeOn 0 board.loader.layout.slotB board.flash (board.flash.blank 96 112)
      ∧ ¬ Board.FallsBackTo ⟨board.flash.blank 96 112, board.loader⟩ header := by
  have hholds : board.flash.HoldsImage board.loader.layout.slotA header :=
    { header_place := rfl
      decode_eq := by decide +kernel
      magic_eq := rfl
      length_lt := by decide
      le_capacity := by decide
      payload_feeds := ⟨rfl, trivial⟩
      crc32_eq := by decide +kernel }
  refine ⟨rfl, by rw [Board.effect_validate_of_holdsImage rfl hholds],
    .blank _ (.inl (by decide)), fun hfalls => ?_⟩
  -- The last four bytes of the payload are gone.
  have hcrc : header.crc32 ≠ Crc32.checksum ((board.flash.blank 96 112).slice 80 20) := by
    decide +kernel
  exact hcrc hfalls.holdsImage.crc32_eq

end Overlong

end DualSlot
