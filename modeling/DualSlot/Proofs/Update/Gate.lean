import DualSlot.Proofs.Firmware.Version
import DualSlot.Proofs.Update.Move

/-!
# The version gate

A switch checks the image again, but not its version. That it never goes back to an older version rests
on an invariant of the whole run, `Board.Gated`:

* what is pending is a valid image in the update slot, newer than the active one;
* the active version is never below the one in slot A, so that falling back leaves a pending update newer.

The invariant survives every move (`Gated.move`), for while bytes are stored in the update slot nothing
is pending (`Link.Reserved`). `Link.versionGate_after_any_run` draws the conclusions for a device from
power on.
-/

namespace DualSlot

namespace Board

open DualSlot.Action

variable {g : Geometry} {board board' : Board g} {context : BootContext} {header : Header}
  {fallsBack : Slot → Prop}

/-- The version of the active image, as the loader knows it. -/
def activeVersion (board : Board g) : Version := board.loader.context.activeHeader.version

/-- The active version is that of the context that was noted. -/
theorem Noted.activeVersion_eq (h : board.Noted context board') :
    board'.activeVersion = context.activeHeader.version := by
  rw [activeVersion, h.context_eq]

/-- What is pending is a valid and newer image, and the active version is not below that in slot A. -/
structure Gated (board : Board g) : Prop where
  pending_holds : board.loader.context.updatePending = true →
    board.flash.HoldsImage board.loader.layout.slotB board.loader.context.updateHeader
  pending_newer : board.loader.context.updatePending = true →
    board.loader.context.updateHeader.version.newerThan board.activeVersion = true
  floor : (board.stored .a).version.newerThan board.activeVersion = false

/-- After power on nothing is pending, and the active header is the one in slot A. -/
theorem gated_of_started {layout : Layout} (h : Started layout board) : board.Gated where
  pending_holds hpending := by
    rw [h.not_pending] at hpending
    cases hpending
  pending_newer hpending := by
    rw [h.not_pending] at hpending
    cases hpending
  floor := by
    rw [activeVersion, h.activeHeader_eq]
    exact Version.not_newerThan_self _

/-- The gate is a matter of the context and of the bytes. -/
theorem gated_of_noted (hnoted : board.Noted context board')
    (hholds : context.updatePending = true →
      board.flash.HoldsImage board.loader.layout.slotB context.updateHeader)
    (hnewer : context.updatePending = true →
      context.updateHeader.version.newerThan context.activeHeader.version = true)
    (hfloor : (board.stored .a).version.newerThan context.activeHeader.version = false) :
    board'.Gated where
  pending_holds hpending := by
    rw [hnoted.context_eq] at hpending ⊢
    rw [hnoted.layout_eq, hnoted.holdsImage_iff]
    exact hholds hpending
  pending_newer hpending := by
    rw [hnoted.context_eq] at hpending ⊢
    rw [hnoted.activeVersion_eq]
    exact hnewer hpending
  floor := by
    rw [hnoted.activeVersion_eq, hnoted.stored_eq]
    exact hfloor

/-- An image that a gated loader switches to is newer than the active one. -/
theorem Gated.newer_of_pending (h : board.Gated)
    (hpending : board.loader.context.updatePending = true)
    (hholds : board.flash.HoldsImage board.loader.layout.slotB header) :
    header.version.newerThan board.activeVersion = true := by
  rw [hholds.unique (h.pending_holds hpending)]
  exact h.pending_newer hpending

/-- Every move of the boot loader keeps the board gated. -/
theorem Gated.move (h : board.Gated) (hmove : board.Move fallsBack board') : board'.Gated := by
  cases hmove with
  | kept noted => exact gated_of_noted noted h.pending_holds h.pending_newer h.floor
  | cleared _ noted => exact gated_of_noted noted (fun h => nomatch h) (fun h => nomatch h) h.floor
  | offered _ holds noted => exact gated_of_noted noted (fun _ => holds) id h.floor
  | switched _ pending holds noted =>
    -- The new version is above the old one, and that is not below the one in slot A.
    have hnewer := h.newer_of_pending pending holds
    refine gated_of_noted noted (fun h => nomatch h) (fun h => nomatch h) ?_
    exact Version.not_newerThan_trans h.floor (Version.not_newerThan_of_newerThan hnewer)
  | rolledBack _ holds noted =>
    -- What is pending stays newer, since the version in slot A is not above the old one.
    have hstored : board.stored .a = _ := holds.decode_eq
    have hfloor := h.floor
    rw [hstored] at hfloor
    refine gated_of_noted noted h.pending_holds (fun hpending => ?_) ?_
    · exact Version.newerThan_of_newerThan_of_not_newerThan (h.pending_newer hpending) hfloor
    · rw [hstored]
      exact Version.not_newerThan_self _

/-- Where nothing is pending, the gate depends on the bytes below the update slot only. -/
theorem Gated.of_agreeOn (h : board.Gated) (hlayout : board'.loader.layout = board.loader.layout)
    (hagree : Flash.AgreeOn 0 board.loader.layout.slotB board.flash board'.flash)
    (hversion : board'.activeVersion = board.activeVersion)
    (hpending : board'.loader.context.updatePending = false) : board'.Gated where
  pending_holds hpending' := by
    rw [hpending] at hpending'
    cases hpending'
  pending_newer hpending' := by
    rw [hpending] at hpending'
    cases hpending'
  floor := by
    rw [stored_a_eq hlayout hagree, hversion]
    exact h.floor

/-- So does any number of moves. -/
theorem Gated.moves (h : board.Gated) (hmoves : board.Moves fallsBack board') : board'.Gated := by
  -- By the moves, from the first one on.
  induction hmoves with
  | refl => exact h
  | tail _ hmove ih => exact ih.move hmove

/-! ## The active version -/

/-- A move that does not fall back never lowers the active version. -/
theorem Gated.not_lowered (h : board.Gated) (hstays : ∀ slot, ¬ fallsBack slot)
    (hmove : board.Move fallsBack board') :
    board.activeVersion.newerThan board'.activeVersion = false := by
  cases hmove with
  | kept noted =>
    rw [noted.activeVersion_eq]
    exact Version.not_newerThan_self _
  | cleared _ noted =>
    rw [noted.activeVersion_eq]
    exact Version.not_newerThan_self _
  | offered _ _ noted =>
    rw [noted.activeVersion_eq]
    exact Version.not_newerThan_self _
  | switched _ pending holds noted =>
    rw [noted.activeVersion_eq]
    exact Version.not_newerThan_of_newerThan (h.newer_of_pending pending holds)
  | rolledBack falls _ _ => exact absurd falls (hstays _)

/-- A switch that succeeds raises the active version. -/
theorem Gated.switch_raises (h : board.Gated) (hok : effect switchToUpdate board = (.ok (), board')) :
    board'.activeVersion.newerThan board.activeVersion = true := by
  -- Of all outcomes only a switch succeeds.
  have houtcome := switchToUpdate_outcome board
  rw [hok] at houtcome
  cases houtcome with
  | switched _ pending holds noted =>
    rw [noted.activeVersion_eq]
    exact h.newer_of_pending pending holds

/-- A check leaves the active version as it is. -/
theorem activeVersion_checkUpdate (board : Board g) :
    (effect checkUpdate board).2.activeVersion = board.activeVersion := by
  have houtcome := checkUpdate_outcome board
  generalize effect checkUpdate board = r at houtcome ⊢
  cases houtcome with
  | locked _ noted => exact noted.activeVersion_eq
  | nothing _ _ noted => exact noted.activeVersion_eq
  | newer _ _ _ noted => exact noted.activeVersion_eq
  | notNewer _ _ _ noted => exact noted.activeVersion_eq

/-- An update that is taken over raises the active version. -/
theorem Gated.takeOver_raises (h : board.Gated)
    (hok : effect Link.takeOver board = (.ok (), board')) :
    board'.activeVersion.newerThan board.activeVersion = true := by
  -- The check comes first and leaves the version, so the switch accounts for the raise.
  have hmoves : board.Moves (fun _ => False) (effect checkUpdate board).2 := moves_checkUpdate board
  have hversion := activeVersion_checkUpdate board
  unfold Link.takeOver at hok
  rw [effect_bind] at hok
  generalize effect checkUpdate board = r at hok hmoves hversion
  obtain ⟨e | offer, checked⟩ := r
  · cases hok
  · rw [← hversion]
    exact (h.moves hmoves).switch_raises hok

/-- The board fell back to the valid image in slot A. -/
structure FellBack (board : Board g) (header : Header) (board' : Board g) : Prop where
  holds : board.flash.HoldsImage board.loader.layout.slotA header
  noted : board.Noted (board.loader.context.rolledBackTo header) board'

/-- A rollback that lowers the version found a valid image in slot A. -/
theorem fellBack_of_rollback
    (hlowered : board.activeVersion.newerThan (effect rollback board).2.activeVersion = true) :
    ∃ header, board.FellBack header (effect rollback board).2 := by
  have houtcome := rollback_outcome board
  generalize effect rollback board = r at houtcome hlowered ⊢
  cases houtcome with
  -- A rollback that finds none leaves the version alone.
  | invalid _ noted =>
    rw [noted.activeVersion_eq] at hlowered
    cases (Version.not_newerThan_self board.activeVersion).symm.trans hlowered
  | rolledBack holds noted => exact ⟨_, holds, noted⟩

/-- Taking an update never lowers the active version. -/
theorem not_lowered_of_take (htake : TakeOutcome board context) :
    board.activeVersion.newerThan context.activeHeader.version = false := by
  cases htake with
  | locked _ => exact Version.not_newerThan_self _
  | nothing _ _ => exact Version.not_newerThan_self _
  | notNewer _ _ _ => exact Version.not_newerThan_self _
  | missed _ _ _ _ => exact Version.not_newerThan_self _
  | taken _ _ newer => exact Version.not_newerThan_of_newerThan newer

/-- A boot that lowers the active version ends by falling back. -/
theorem fellBack_of_boot
    (hlowered : board.activeVersion.newerThan (effect boot board).2.activeVersion = true) :
    ∃ (taken : Board g) (header : Header),
      board.activeVersion.newerThan taken.activeVersion = false
        ∧ taken.FellBack header (effect boot board).2 := by
  -- An update may be taken first. That does not lower the version, so what comes after must have.
  obtain ⟨context, taken, htake, hnoted, _, hactive⟩ := boot_outcome board
  have hnot : board.activeVersion.newerThan taken.activeVersion = false := by
    rw [hnoted.activeVersion_eq]
    exact not_lowered_of_take htake
  generalize effect boot board = r at hactive hlowered ⊢
  cases hactive with
  | fellBack _ _ holds _ noted => exact ⟨taken, _, hnot, holds, noted⟩
  | stayed _ _ noted =>
    rw [noted.activeVersion_eq] at hlowered
    cases hnot.symm.trans hlowered
  | failed _ noted =>
    rw [noted.activeVersion_eq] at hlowered
    cases hnot.symm.trans hlowered

end Board

namespace Link

open DualSlot.Action

variable {g : Geometry} {link link' : Link g} {fallsBack : Slot → Prop}

/-! ## The gate in a run -/

/-- The board is gated, and the update slot is reserved while data may arrive. -/
structure Gated (link : Link g) : Prop where
  reserved : link.Reserved
  board : link.board.Gated

/-- Every move of a session or of the boot loader keeps the device gated. -/
theorem Gated.move (h : link.Gated) (hmove : Move fallsBack link link') : link'.Gated := by
  refine ⟨h.reserved.move hmove, ?_⟩
  -- Only the boot loader touches the context; a session stores bytes in the update slot at most.
  cases hmove with
  | session _ => exact h.board
  | board hmove => exact h.board.move hmove
  -- While data may arrive nothing is pending, and slot A lies below the bytes that are stored.
  | stored receiving loader_eq agree =>
    have hpending := (h.reserved receiving).2
    rw [← loader_eq] at hpending
    refine h.board.of_agreeOn (congrArg Loader.layout loader_eq) agree ?_ hpending
    exact congrArg (fun l : Loader g => l.context.activeHeader.version) loader_eq
  | locked => exact ⟨h.board.pending_holds, h.board.pending_newer, h.board.floor⟩
  | unlocked _ => exact ⟨h.board.pending_holds, h.board.pending_newer, h.board.floor⟩

/-- A transfer begins with nothing pending, and behind slot A. -/
theorem Gated.started (h : link.Gated) (total chunk : UInt32) :
    Gated ⟨link.session.started total chunk, reservedBoard link.board total.toNat⟩ where
  reserved _ := ⟨rfl, rfl⟩
  board := h.board.of_agreeOn rfl (.blank _ (.inl (Nat.le_refl _))) rfl rfl

/-- Every orderly act keeps the device gated. -/
theorem gated_after {act : Act} (horderly : act.Orderly) (h : link.Gated) : (link.after act).Gated :=
  after_of_moves horderly Gated.move (fun total chunk h => h.started total chunk) h

/-- So does every run of orderly acts. -/
theorem gated_steps {acts : List Act} (horderly : ∀ act ∈ acts, act.Orderly) (h : link.Gated) :
    (link.steps acts).Gated :=
  steps_keeps (fun act hact _ h => gated_after (horderly act hact) h) h

/-! ## The outcome -/

/-- What the version gate guarantees of a device. -/
structure VersionGate (link : Link g) : Prop where
  /-- An update that is pending passes the check of the boot loader, unless a read fails. -/
  pending_valid : link.board.loader.context.updatePending = true →
    effect (Board.validate link.board.loader.layout.slotB) link.board.mute
      = (.ok link.board.loader.context.updateHeader, link.board.mute)
  /-- Its header is the one that is stored in the update slot. -/
  pending_stored : link.board.loader.context.updatePending = true →
    link.board.stored .b = link.board.loader.context.updateHeader
  pending_newer : link.board.loader.context.updatePending = true →
    link.board.loader.context.updateHeader.version.newerThan link.board.activeVersion = true
  /-- The active version is never below the one that is stored in slot A. -/
  floor : (link.board.stored .a).version.newerThan link.board.activeVersion = false
  switch_raises : ∀ {board : Board g},
    effect Board.switchToUpdate link.board = (.ok (), board) →
      board.activeVersion.newerThan link.board.activeVersion = true
  apply_raises : ∀ {link' : Link g}, effect apply link = (.ok (), link') →
    link'.board.activeVersion.newerThan link.board.activeVersion = true
  /-- An act that lowers the active version is a rollback or a boot, and ends by falling back to slot A.
  Up to there it has not lowered the version. -/
  lowered : ∀ {act : Act}, act.Orderly →
    link.board.activeVersion.newerThan (link.after act).board.activeVersion = true →
      (act = .turn (.boot .rollback) ∨ act = .turn (.boot .boot))
        ∧ ∃ (before : Board g) (header : Header),
          link.board.activeVersion.newerThan before.activeVersion = false
            ∧ before.FellBack header (link.after act).board

/-- An apply that succeeds raises the active version. -/
theorem Gated.apply_raises (h : link.Gated) (hok : effect apply link = (.ok (), link')) :
    link'.board.activeVersion.newerThan link.board.activeVersion = true := by
  have houtcome := apply_outcome link
  rw [hok] at houtcome
  cases houtcome with
  | takenOver _ board taken =>
    -- Giving the update slot back leaves the context alone.
    have hraises := h.board.takeOver_raises taken
    exact hraises

/-- Moves that do not fall back never lower the active version. -/
theorem Gated.not_lowered (h : link.Gated) (hstays : ∀ slot, ¬ fallsBack slot)
    (hmoves : Moves fallsBack link link') :
    link'.Gated ∧ link.board.activeVersion.newerThan link'.board.activeVersion = false := by
  -- By the moves. The version never sinks on the way, so it has not sunk in the end.
  induction hmoves with
  | refl => exact ⟨h, Version.not_newerThan_self _⟩
  | tail _ hmove ih =>
    obtain ⟨hgated, hnot⟩ := ih
    refine ⟨hgated.move hmove, Version.not_newerThan_trans hnot ?_⟩
    cases hmove with
    | session _ => exact Version.not_newerThan_self _
    | board hmove => exact hgated.board.not_lowered hstays hmove
    | stored _ loader_eq _ =>
      unfold Board.activeVersion
      rw [loader_eq]
      exact Version.not_newerThan_self _
    | locked => exact Version.not_newerThan_self _
    | unlocked _ => exact Version.not_newerThan_self _

/-- An orderly act that lowers the version falls back to slot A. -/
theorem Gated.lowered (h : link.Gated) {act : Act} (horderly : act.Orderly)
    (hlowered : link.board.activeVersion.newerThan (link.after act).board.activeVersion = true) :
    (act = .turn (.boot .rollback) ∨ act = .turn (.boot .boot))
      ∧ ∃ (before : Board g) (header : Header),
        link.board.activeVersion.newerThan before.activeVersion = false
          ∧ before.FellBack header (link.after act).board := by
  -- Whatever is a sequence of moves lowers the version by falling back only.
  rcases act_cases horderly link with hmoves | ⟨total, chunk, rfl, _, _, heq⟩
  · by_cases hfalls : ∃ slot, act.FallsBack slot
    · obtain ⟨slot, hfalls⟩ := hfalls
      rcases Act.eq_of_fallsBack hfalls with rfl | rfl
      · rw [after_rollback] at hlowered ⊢
        obtain ⟨header, hfell⟩ := Board.fellBack_of_rollback hlowered
        exact ⟨.inl rfl, link.board, header, Version.not_newerThan_self _, hfell⟩
      · rw [after_boot] at hlowered ⊢
        obtain ⟨before, header, hnot, hfell⟩ := Board.fellBack_of_boot hlowered
        exact ⟨.inr rfl, before, header, hnot, hfell⟩
    · have hstays : ∀ slot, ¬ act.FallsBack slot := fun slot hslot => hfalls ⟨slot, hslot⟩
      cases (h.not_lowered hstays hmoves).2.symm.trans hlowered
  · -- A transfer that starts leaves the active image alone.
    rw [after, heq] at hlowered
    cases (Version.not_newerThan_self link.board.activeVersion).symm.trans hlowered

/-- A gated device guarantees all of this. -/
theorem Gated.versionGate (h : link.Gated) : VersionGate link where
  pending_valid hpending :=
    Board.effect_validate_of_holdsImage rfl ((h.board.pending_holds hpending).of_cells_eq rfl)
  pending_stored hpending := (h.board.pending_holds hpending).decode_eq
  pending_newer := h.board.pending_newer
  floor := h.board.floor
  switch_raises := h.board.switch_raises
  apply_raises := h.apply_raises
  lowered := h.lowered

/-- From power on, in every run of the boot loader and of one session at a time, with any faults: what is
pending is valid and newer, every switch raises the active version, and only falling back to slot A
lowers it. -/
theorem versionGate_after_any_run {layout : Layout} {before : Flash g} {board : Board g}
    (hpower : effect (Board.powerOn layout) before = (.ok board.loader, board.flash))
    (config : SessionConfig) (accepts : Header → Bool) {acts : List Act}
    (horderly : ∀ act ∈ acts, act.Orderly) :
    VersionGate ((opened config accepts board).steps acts) := by
  -- After power on the device is gated, and the run keeps it so.
  have hgated : (opened config accepts board).Gated :=
    ⟨reserved_opened config accepts board, Board.gated_of_started (Board.started_of_powerOn hpower)⟩
  exact (gated_steps horderly hgated).versionGate

/-- A newer image is sent to the device from the factory, and found there by a check. -/
def newerSent : Link .tiny :=
  (opened {} (fun _ => true) Factory.board).steps
    (Factory.transfer ⟨1, 1, 0⟩ ++ [.turn (.boot .checkUpdate)])

/-- The update is pending there, so the guarantees are about something. -/
theorem versionGate_newerSent :
    newerSent.board.loader.context.updatePending = true ∧ VersionGate newerSent := by
  have horderly : ∀ act ∈ Factory.transfer ⟨1, 1, 0⟩ ++ [.turn (.boot .checkUpdate)],
      act.Orderly := by decide
  refine ⟨by decide +kernel, ?_⟩
  exact versionGate_after_any_run Factory.powerOn_board {} (fun _ => true) horderly

end Link

end DualSlot
