import DualSlot.Proofs.Bench.Step
import DualSlot.Proofs.Boot.Decision
import DualSlot.Proofs.Update.Kept

/-!
# A device that always boots

Take a device that starts with a valid image in slot A. Whatever is done to it afterwards, by any number
of sessions, by the boot loader, by power cycles, and to the bytes from the update slot on, a boot whose
reads go through answers the slot of a valid image (`boot_after_any_run`).

The invariant of such a run is that no byte below the update slot changes (`Board.KeptBelow`): the image
in slot A lies there, so that the boot loader can always go back to it.
-/

namespace DualSlot

/-- A call that may stand in such a run. A call on the flash itself stays behind the start of the update
slot, and a power cycle keeps the layout; all other calls are free. -/
def BenchCall.Spares (layout : Layout) : BenchCall → Prop
  | .flash call => call.StaysBehind layout.slotB
  | .boot call => call.KeepsLayout layout
  | .session .. | .openSession .. | .closeSession .. | .setVerdict .. => True

instance (layout : Layout) (call : BenchCall) : Decidable (call.Spares layout) := by
  cases call <;> unfold BenchCall.Spares <;> infer_instance

namespace Bench

open DualSlot.Action

variable {g : Geometry} {layout : Layout} {flash : Flash g}

/-- No byte below the update slot changes in one call. -/
theorem keptBelow_step (hlayout : layout.Fits g) {call : BenchCall} (h : call.Spares layout) :
    Keeps (fun bench => bench.board.KeptBelow layout flash) (step call) := by
  cases call with
  | flash call => exact keeps_onBoard _ (Board.keptBelow_flashCall hlayout h)
  | boot call => exact keeps_onBoard _ (Board.keptBelow_bootCall h)
  | session name call => exact keeps_onSession name (Link.keptBelow_sessionCall call)
  | openSession name config listens rejects =>
    exact (keeps_openSession name config listens rejects Link.keptBelow_close).answering _
  | closeSession name inUse => exact (keeps_closeSession name Link.keptBelow_close inUse).map _
  | setVerdict name rejects => exact (keeps_setVerdict name rejects).answering _

/-- No byte below the update slot changes in a run of calls. -/
theorem keptBelow_steps (hlayout : layout.Fits g) {calls : List BenchCall}
    (h : ∀ call ∈ calls, call.Spares layout) {bench : Bench g}
    (hbench : bench.board.KeptBelow layout flash) :
    (bench.steps calls).board.KeptBelow layout flash :=
  steps_keeps (fun call hcall => keptBelow_step hlayout (h call hcall)) hbench

/-- A device that started with a valid image in slot A, which ends before the update slot, always boots:
after every run, a boot whose reads go through answers a slot, and what is in it then is valid. It
passes the check of the boot loader wherever this is not made to fail by a planned fault. -/
theorem boot_after_any_run {before : Flash g} {board : Board g} {header : Header}
    {calls : List BenchCall}
    (hpower : effect (Board.powerOn layout) before = (.ok board.loader, board.flash))
    (hvalid : (effect (Board.validate layout.slotA) board).1 = .ok header)
    (hsize : header.size.toNat ≤ layout.slotB - layout.slotA)
    (hcalls : ∀ call ∈ calls, call.Spares layout)
    (hreads : ((ofBoard board).steps calls).board.flash.ReadsWentThrough
      (effect Board.boot ((ofBoard board).steps calls).board).2.flash) :
    ∃ entry found,
      (effect Board.boot ((ofBoard board).steps calls).board).1 = .ok entry
        ∧ (effect (Board.validate entry.slot)
            (effect Board.boot ((ofBoard board).steps calls).board).2.mute).1 = .ok found := by
  -- Power on checks that the layout fits, so a loader carries the proof of it.
  have hlayout : board.loader.layout = layout := by
    refine (Board.powerOn_frame layout before).2 board.loader ?_
    rw [result_eq_effect, hpower]
  have hfits : layout.Fits g := hlayout ▸ board.loader.fits
  have hroom := hfits.room_a
  have himage := Board.holdsImage_of_validate hvalid
  have hstart : (ofBoard board).board.KeptBelow layout board.flash :=
    ⟨hlayout, Flash.AgreeOn.refl board.flash⟩
  obtain ⟨hafter, hagree⟩ := keptBelow_steps hfits hcalls hstart
  -- Slot A still holds its image, for it ends before the update slot.
  have hstill : ((ofBoard board).steps calls).board.flash.HoldsImage
      ((ofBoard board).steps calls).board.loader.layout.slotA header := by
    rw [hafter]
    exact himage.of_agreeOn hagree (Nat.zero_le _) (by omega)
  obtain ⟨entry, found, hboot, hfound⟩ := Board.boot_of_reads hstill hreads
  -- The check of what it answers is made without planned faults.
  have hmuted : (effect Board.boot ((ofBoard board).steps calls).board).2.mute.flash.HoldsImage
      entry.slot found := hfound.of_cells_eq rfl
  refine ⟨entry, found, hboot, ?_⟩
  rw [Board.effect_validate_of_holdsImage rfl hmuted]

/-- A run in which a transfer into the update slot fails halfway, is cut off by a power cycle, and
leaves disorder behind. -/
def brokenUpdate : List BenchCall :=
  [.openSession "ota" {} false false,
    .session "ota" (.start 16 16),
    .flash (.planWrites (some (.window .outOfRange 1 none))),
    .session "ota" (.receive 0 [1, 2, 3, 4, 5, 6, 7, 8]),
    .boot (.restart Factory.layout),
    .flash (.corrupt 97 7)]

theorem reads_after_brokenUpdate :
    ((ofBoard Factory.board).steps brokenUpdate).board.flash.readPlan.isNone = true := by
  decide +kernel

/-- The device from the factory boots after that run. -/
theorem boot_after_brokenUpdate :
    ∃ entry found,
      (effect Board.boot ((ofBoard Factory.board).steps brokenUpdate).board).1 = .ok entry
        ∧ (effect (Board.validate entry.slot)
            (effect Board.boot ((ofBoard Factory.board).steps brokenUpdate).board).2.mute).1
          = .ok found := by
  have hpower : effect (Board.powerOn Factory.layout) Factory.flash
      = (.ok Factory.board.loader, Factory.board.flash) := rfl
  have hspares : ∀ call ∈ brokenUpdate, call.Spares Factory.layout := by decide
  refine boot_after_any_run hpower Factory.validate_slotA (by decide) hspares ?_
  intro plan plan' hplan
  rw [Option.isNone_iff_eq_none.mp reads_after_brokenUpdate] at hplan
  cases hplan

end Bench

end DualSlot
