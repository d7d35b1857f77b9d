import DualSlot.Proofs.Update.Gate

/-!
# Does the active header describe what runs?

The loader keeps the header of the active image, and renews it only when it switches or falls back. Between
these a transfer may write the slot that the header was read from. `Board.Mislabels` is a boot that
answers a slot whose header is not the one that the loader keeps.

* `Board.mislabels_iff`: without faults a boot mislabels just if the update slot is active and was
  overwritten with another valid image that the boot passes over as an update.
* `Link.coherent_steps_or`: a run leaves the header coherent, unless some transfer was started while the
  update slot was active.
* `Link.mislabels_iff_after_any_run` puts both together, for a device from power on.
-/

namespace DualSlot

namespace Board

open DualSlot.Action

variable {g : Geometry} {board board' : Board g} {context : BootContext} {header : Header}
  {fallsBack : Slot → Prop}

/-! ## Boots that mislabel -/

/-- A boot answers, and the header where it jumps to is not the one that the loader keeps. -/
def Mislabels (board : Board g) : Prop :=
  ∃ entry after, effect boot board = (.ok entry, after)
    ∧ Header.decode (after.flash.slice entry.slot Header.length)
      ≠ after.loader.context.activeHeader

/-- The update slot is active, but holds another valid image than the loader knows of. A boot passes it
over as an update, because of the lock or because it is not newer. -/
structure Overwritten (board : Board g) (header : Header) : Prop where
  active_eq : board.loader.context.active = .b
  holds : board.flash.HoldsImage board.loader.layout.slotB header
  header_ne : header ≠ board.loader.context.activeHeader
  passed_over : board.loader.updateLocked = true
    ∨ header.version.newerThan board.activeVersion = false

/-- The header that the loader keeps is the one in the active slot. -/
def Coherent (board : Board g) : Prop :=
  board.loader.context.activeHeader = board.stored board.loader.context.active

/-- While slot A is active, the header that the loader keeps is the one there. -/
def Anchored (board : Board g) : Prop := board.loader.context.active = .a → board.Coherent

/-- A boot takes an update in a slot that is not overwritten, and passes over one that is. -/
theorem Overwritten.take (h : board.Overwritten header) (htake : TakeOutcome board context) :
    context.active = .b ∧ context.activeHeader = board.loader.context.activeHeader := by
  cases htake with
  | locked _ => exact ⟨h.active_eq, rfl⟩
  | nothing _ _ => exact ⟨h.active_eq, rfl⟩
  | notNewer _ _ _ => exact ⟨h.active_eq, rfl⟩
  | missed _ _ _ _ => exact ⟨h.active_eq, rfl⟩
  -- What is taken is the image in the update slot, which was to be passed over.
  | taken free holds newer =>
    obtain rfl := holds.unique h.holds
    rcases h.passed_over with hlocked | hnot
    · cases free.symm.trans hlocked
    · cases hnot.symm.trans newer

/-- A boot of an overwritten slot goes to the image there, and keeps the old header. -/
theorem Overwritten.mislabels (h : board.Overwritten header) (hmuted : board.flash.readPlan = none) :
    board.Mislabels := by
  -- Nothing is taken, so the boot tries the update slot and finds the image in it.
  obtain ⟨context, taken, htake, hnoted, hstill, hactive⟩ := boot_outcome board
  obtain ⟨hb, hkept⟩ := h.take htake
  have hslot : taken.loader.activeSlot = board.loader.layout.slotB := by
    rw [Loader.activeSlot, hnoted.layout_eq, hnoted.context_eq, hb]
    rfl
  have hholds : taken.flash.HoldsImage taken.loader.activeSlot header := by
    rw [hslot, hnoted.holdsImage_iff]
    exact h.holds
  unfold Mislabels
  generalize effect boot board = r at hactive ⊢
  cases hactive with
  | stayed holds slot_eq noted =>
    rename_i found entry after
    refine ⟨entry, after, rfl, ?_⟩
    rw [slot_eq, noted.slice_eq, hholds.decode_eq, noted.context_eq, hnoted.context_eq, hkept]
    exact h.header_ne
  -- Both other ends say that the active slot holds no valid image.
  | fellBack _ unfound _ _ _ => exact absurd hholds (unfound (hstill hmuted) header)
  | failed unfound _ => exact absurd hholds (unfound (hstill hmuted) header)

/-- Only the update slot can be active with another image than the loader knows of. -/
theorem Anchored.active_b (h : board.Anchored)
    (hholds : board.flash.HoldsImage board.loader.activeSlot header)
    (hne : header ≠ board.loader.context.activeHeader) : board.loader.context.active = .b := by
  cases hactive : board.loader.context.active with
  | b => rfl
  | a =>
    have hcoherent : board.loader.context.activeHeader = board.stored board.loader.context.active :=
      h hactive
    exact absurd (hholds.decode_eq.symm.trans hcoherent.symm) hne

/-- A valid image that a boot goes to is the one that the loader knows of, or the slot is overwritten. -/
theorem Anchored.overwritten_of_take (h : board.Anchored) (hmuted : board.flash.readPlan = none)
    (htake : TakeOutcome board context)
    (hholds : board.flash.HoldsImage (board.loader.layout.offset context.active) header)
    (hne : header ≠ context.activeHeader) : board.Overwritten header := by
  -- Every way of taking an update leaves the active slot as it was, or renews the header.
  cases htake with
  | locked locked =>
    have hb := h.active_b hholds hne
    rw [hb] at hholds
    exact ⟨hb, hholds, hne, .inl locked⟩
  -- The active slot would be the update slot, where no valid image was found.
  | nothing _ unfound =>
    have hb : board.loader.context.active = .b := h.active_b hholds hne
    rw [BootContext.cleared, hb] at hholds
    exact absurd hholds (unfound hmuted header)
  | notNewer _ holds notNewer =>
    have hb : board.loader.context.active = .b := h.active_b hholds hne
    rw [BootContext.offered, hb] at hholds
    obtain rfl := holds.unique hholds
    exact ⟨hb, hholds, hne, .inr notNewer⟩
  | missed _ _ _ faulty => exact absurd hmuted faulty
  -- The header was just renewed, from the image that the boot goes to.
  | taken _ holds _ => exact absurd (hholds.unique holds) hne

/-- Without planned faults a boot mislabels just if the update slot was overwritten. -/
theorem mislabels_iff (hanchored : board.Anchored) (hmuted : board.flash.readPlan = none) :
    board.Mislabels ↔ ∃ header, board.Overwritten header := by
  -- From right to left this is `Overwritten.mislabels`. Otherwise the boot says how it ended.
  refine ⟨?_, fun ⟨header, h⟩ => h.mislabels hmuted⟩
  rintro ⟨entry, after, hboot, hne⟩
  obtain ⟨context, taken, htake, hnoted, _, hactive⟩ := boot_outcome board
  rw [hboot] at hactive
  cases hactive with
  | stayed holds slot_eq noted =>
    rename_i header
    refine ⟨header, hanchored.overwritten_of_take hmuted htake ?_ ?_⟩
    · rw [Loader.activeSlot, hnoted.layout_eq, hnoted.context_eq, hnoted.holdsImage_iff] at holds
      exact holds
    · rw [slot_eq, noted.slice_eq, holds.decode_eq, noted.context_eq, hnoted.context_eq] at hne
      exact hne
  | fellBack _ _ holds slot_eq noted =>
    -- What it falls back to becomes the active header.
    rw [slot_eq, noted.slice_eq, holds.decode_eq, noted.context_eq] at hne
    exact absurd rfl hne

/-! ## The header of the active slot -/

/-- A slot whose header the loader keeps was not overwritten. -/
theorem Coherent.not_overwritten (h : board.Coherent) : ¬ board.Overwritten header := by
  intro hover
  apply hover.header_ne
  have hcoherent : board.loader.context.activeHeader = board.stored board.loader.context.active := h
  rw [hcoherent, hover.active_eq]
  exact hover.holds.decode_eq.symm

/-- What is noted is coherent if the noted header is the stored one. -/
theorem Noted.coherent (hnoted : board.Noted context board')
    (h : context.activeHeader = board.stored context.active) : board'.Coherent := by
  unfold Coherent
  rw [hnoted.context_eq, hnoted.stored_eq]
  exact h

/-- A move renews the header, or leaves the header and the active slot as they are. -/
theorem coherent_or_same_of_move (hmove : board.Move fallsBack board') :
    board'.Coherent ∨ board'.loader.context.active = board.loader.context.active
      ∧ (board.Coherent → board'.Coherent) := by
  cases hmove with
  | kept noted => exact .inr ⟨congrArg (·.active) noted.context_eq, noted.coherent⟩
  | cleared _ noted => exact .inr ⟨congrArg (·.active) noted.context_eq, noted.coherent⟩
  | offered _ _ noted => exact .inr ⟨congrArg (·.active) noted.context_eq, noted.coherent⟩
  | switched _ _ holds noted => exact .inl (noted.coherent holds.decode_eq.symm)
  | rolledBack _ holds noted => exact .inl (noted.coherent holds.decode_eq.symm)

/-- A coherent header survives every move. -/
theorem Coherent.move (h : board.Coherent) (hmove : board.Move fallsBack board') :
    board'.Coherent := by
  rcases coherent_or_same_of_move hmove with hrenewed | ⟨_, hsame⟩
  · exact hrenewed
  · exact hsame h

/-- Slot A stays described by the header that is kept of it. -/
theorem Anchored.move (h : board.Anchored) (hmove : board.Move fallsBack board') :
    board'.Anchored := by
  intro hactive
  rcases coherent_or_same_of_move hmove with hrenewed | ⟨hactive', hsame⟩
  · exact hrenewed
  · rw [hactive'] at hactive
    exact hsame (h hactive)

/-- While slot A is active, coherence is a matter of the bytes below the update slot. -/
theorem Coherent.of_agreeOn (h : board.Coherent) (hactive : board.loader.context.active = .a)
    (hlayout : board'.loader.layout = board.loader.layout)
    (hagree : Flash.AgreeOn 0 board.loader.layout.slotB board.flash board'.flash)
    (hheader : board'.loader.context.activeHeader = board.loader.context.activeHeader)
    (hactive' : board'.loader.context.active = .a) : board'.Coherent := by
  unfold Coherent at h ⊢
  rw [hheader, hactive', stored_a_eq hlayout hagree, h, hactive]

/-- The same for a loader that was left alone. -/
theorem Coherent.of_loader_eq (h : board.Coherent) (hactive : board.loader.context.active = .a)
    (hloader : board'.loader = board.loader)
    (hagree : Flash.AgreeOn 0 board.loader.layout.slotB board.flash board'.flash) :
    board'.Coherent :=
  h.of_agreeOn hactive (by rw [hloader]) hagree (by rw [hloader]) (by rw [hloader, hactive])

end Board

namespace Link

open DualSlot.Action

variable {g : Geometry} {link link' : Link g} {fallsBack : Slot → Prop}

/-! ## Transfers over the running image -/

/-- The act starts a transfer into the update slot while that slot is active. -/
structure StartsOver (link : Link g) (act : Act) : Prop where
  starts : act.Starts
  active_eq : link.board.loader.context.active = .b
  answers : (effect act.run link).1 = .ok ()

/-- Every move keeps what the loader knows of slot A true. -/
theorem anchored_move (h : link.board.Anchored) (hmove : Move fallsBack link link') :
    link'.board.Anchored := by
  cases hmove with
  | session _ => exact h
  | board hmove => exact h.move hmove
  | stored _ loader_eq agree =>
    intro hactive
    rw [loader_eq] at hactive
    exact (h hactive).of_loader_eq hactive loader_eq agree
  | locked => exact h
  | unlocked _ => exact h

/-- In every run, what the loader keeps of slot A is what is there. -/
theorem anchored_steps {acts : List Act} (horderly : ∀ act ∈ acts, act.Orderly)
    (h : link.board.Anchored) : (link.steps acts).board.Anchored := by
  refine steps_keeps (I := fun link => link.board.Anchored) (fun act hact link h => ?_) h
  refine after_of_moves (I := fun link => link.board.Anchored) (horderly act hact) anchored_move ?_ h
  -- A transfer begins behind slot A.
  intro link total chunk h hactive
  exact (h hactive).of_agreeOn hactive rfl (.blank _ (.inl (Nat.le_refl _))) rfl hactive

/-- The header that the loader keeps is the one in the active slot, and transfers keep off that slot. -/
structure Coherent (link : Link g) : Prop where
  reserved : link.Reserved
  board : link.board.Coherent
  aside : link.session.phase.receiving = true → link.board.loader.context.active = .a

/-- Every move keeps the header coherent, as long as transfers keep off the active slot. -/
theorem Coherent.move (h : link.Coherent) (hmove : Move fallsBack link link') : link'.Coherent := by
  refine ⟨h.reserved.move hmove, ?_, ?_⟩
  · -- Bytes are stored behind slot A, which is the active one while data may arrive.
    cases hmove with
    | session _ => exact h.board
    | board hmove => exact h.board.move hmove
    | stored receiving loader_eq agree =>
      exact h.board.of_loader_eq (h.aside receiving) loader_eq agree
    | locked => exact h.board
    | unlocked _ => exact h.board
  · intro hreceiving
    cases hmove with
    | session hsession => exact h.aside (hsession hreceiving)
    | stored receiving loader_eq _ => exact loader_eq ▸ h.aside receiving
    | locked => exact h.aside hreceiving
    | unlocked _ => exact h.aside hreceiving
    | board hmove =>
      -- While data may arrive the slot is locked, so no update is looked for.
      obtain ⟨_, _, hsame | ha⟩ := hmove.of_locked (h.reserved hreceiving).1
      · exact hsame.trans (h.aside hreceiving)
      · exact ha

/-- An orderly act keeps the header coherent, unless it starts a transfer over the active slot. -/
theorem coherent_after {act : Act} (horderly : act.Orderly) (hnot : ¬ StartsOver link act)
    (h : link.Coherent) : (link.after act).Coherent := by
  rcases act_cases horderly link with hmoves | ⟨total, chunk, rfl, _, _, heq⟩
  · exact hmoves.keeps Coherent.move h
  · -- The transfer was not started over the active slot, so slot A is active.
    have hactive : link.board.loader.context.active = .a := by
      cases hactive : link.board.loader.context.active with
      | a => rfl
      | b => exact absurd ⟨trivial, hactive, congrArg Prod.fst heq⟩ hnot
    rw [after, heq]
    refine ⟨fun _ => ⟨rfl, rfl⟩, ?_, fun _ => hactive⟩
    exact h.board.of_agreeOn hactive rfl (.blank _ (.inl (Nat.le_refl _))) rfl hactive

/-- Unless some transfer was started over the active slot, a run leaves the header coherent. -/
theorem coherent_steps_or {acts : List Act} (horderly : ∀ act ∈ acts, act.Orderly)
    (h : link.Coherent) :
    (link.steps acts).Coherent
      ∨ ∃ earlier act later, acts = earlier ++ act :: later ∧ StartsOver (link.steps earlier) act := by
  -- By the acts: at the first one that starts over the active slot there is nothing left to show.
  induction acts generalizing link with
  | nil => exact .inl h
  | cons act rest ih =>
    by_cases hover : StartsOver link act
    · exact .inr ⟨[], act, rest, rfl, hover⟩
    · have hrest : ∀ act ∈ rest, act.Orderly :=
        fun act hact => horderly act (List.mem_cons_of_mem _ hact)
      have hafter := coherent_after (horderly act List.mem_cons_self) hover h
      rcases ih hrest hafter with hcoherent | ⟨earlier, start, later, rfl, hover⟩
      · exact .inl hcoherent
      · exact .inr ⟨act :: earlier, start, later, rfl, hover⟩

/-! ## The outcome -/

/-- A session that was just opened on a started board. -/
theorem coherent_opened {layout : Layout} {board : Board g} (h : Board.Started layout board)
    (config : SessionConfig) (accepts : Header → Bool) : (opened config accepts board).Coherent where
  reserved := reserved_opened config accepts board
  board := by
    unfold Board.Coherent
    rw [show (opened config accepts board).board = board from rfl, h.active_eq]
    exact h.activeHeader_eq
  aside h := nomatch h

/-- From power on, in every run of the boot loader and of one session at a time: a boot without faults
mislabels just if the active update slot was overwritten with another valid image that is not newer, and
that takes a transfer which was started while the update slot was active. -/
theorem mislabels_iff_after_any_run {layout : Layout} {before : Flash g} {board : Board g}
    (hpower : effect (Board.powerOn layout) before = (.ok board.loader, board.flash))
    (config : SessionConfig) (accepts : Header → Bool) {acts : List Act}
    (horderly : ∀ act ∈ acts, act.Orderly)
    (hmuted : ((opened config accepts board).steps acts).board.flash.readPlan = none) :
    let link := (opened config accepts board).steps acts
    (link.board.Mislabels ↔ ∃ header, link.board.Overwritten header)
      ∧ (link.board.Mislabels → ∃ earlier act later, acts = earlier ++ act :: later
          ∧ StartsOver ((opened config accepts board).steps earlier) act) := by
  intro link
  have hstarted := Board.started_of_powerOn hpower
  have hcoherent := coherent_opened hstarted config accepts
  have hanchored : link.board.Anchored := anchored_steps horderly fun _ => hcoherent.board
  have hiff : link.board.Mislabels ↔ ∃ header, link.board.Overwritten header :=
    Board.mislabels_iff hanchored hmuted
  refine ⟨hiff, fun hmislabels => ?_⟩
  -- A mislabelled boot is of an overwritten slot, and no coherent header leaves one behind.
  obtain ⟨header, hover⟩ := hiff.mp hmislabels
  rcases coherent_steps_or horderly hcoherent with hstill | hstarts
  · exact absurd hover hstill.board.not_overwritten
  · exact hstarts

/-- A newer image is sent and applied. Then an older one is sent over it, which is not applied. -/
def overwriting : List Act :=
  Factory.transfer ⟨2, 0, 0⟩ ++ [.turn .apply] ++ Factory.transfer ⟨1, 5, 0⟩ ++ [.turn .apply]

def overwritten : Link .tiny := (opened {} (fun _ => true) Factory.board).steps overwriting

/-- What a boot of the overwritten device does: it goes to the older image and keeps the newer
header. -/
theorem boot_overwritten :
    overwritten.session.lastError = some .validationFailed
      ∧ overwritten.board.flash.readPlan = none
      ∧ ∃ entry after, effect Board.boot overwritten.board = (.ok entry, after)
        ∧ entry.slot = Factory.layout.slotB
        ∧ (Header.decode (after.flash.slice entry.slot Header.length)).version = ⟨1, 5, 0⟩
        ∧ after.loader.context.activeHeader.version = ⟨2, 0, 0⟩ := by
  -- The run is evaluated once, as a Boolean.
  have hrun : (overwritten.session.lastError == some .validationFailed
      && (overwritten.board.flash.readPlan.isNone
        && match effect Board.boot overwritten.board with
          | (.ok entry, after) => entry.slot == Factory.layout.slotB
              && (Header.decode (after.flash.slice entry.slot Header.length)).version == ⟨1, 5, 0⟩
              && after.loader.context.activeHeader.version == ⟨2, 0, 0⟩
          | (.error _, _) => false)) = true := by decide +kernel
  rw [Bool.and_eq_true, Bool.and_eq_true] at hrun
  obtain ⟨hrefused, hmuted, hboot⟩ := hrun
  refine ⟨beq_iff_eq.mp hrefused, Option.isNone_iff_eq_none.mp hmuted, ?_⟩
  rcases hr : effect Board.boot overwritten.board with ⟨_ | entry, after⟩
  · rw [hr] at hboot
    cases hboot
  · rw [hr] at hboot
    simp only [Bool.and_eq_true, beq_iff_eq] at hboot
    exact ⟨entry, after, rfl, hboot.1.1, hboot.1.2, hboot.2⟩

/-- The image that was turned down for its version runs, under the name of the one it was written over. -/
theorem mislabeled_overwritten :
    overwritten.session.lastError = some .validationFailed
      ∧ ∃ entry after, effect Board.boot overwritten.board = (.ok entry, after)
        ∧ entry.slot = Factory.layout.slotB
        ∧ (Header.decode (after.flash.slice entry.slot Header.length)).version = ⟨1, 5, 0⟩
        ∧ after.loader.context.activeHeader.version = ⟨2, 0, 0⟩ :=
  ⟨boot_overwritten.1, boot_overwritten.2.2⟩

/-- The transfer behind it was started over the active slot. -/
theorem startsOver_overwriting :
    (∃ header, overwritten.board.Overwritten header)
      ∧ ∃ earlier act later, overwriting = earlier ++ act :: later
        ∧ StartsOver ((opened {} (fun _ => true) Factory.board).steps earlier) act := by
  have horderly : ∀ act ∈ overwriting, act.Orderly := by decide
  obtain ⟨_, hmuted, entry, after, hboot, _, hfound, hkept⟩ := boot_overwritten
  have hmislabels : overwritten.board.Mislabels := by
    refine ⟨entry, after, hboot, fun heq => ?_⟩
    rw [heq, hkept] at hfound
    cases hfound
  unfold overwritten at hmuted
  obtain ⟨hiff, hstarts⟩ := mislabels_iff_after_any_run Factory.powerOn_board {} (fun _ => true)
    horderly hmuted
  exact ⟨hiff.mp hmislabels, hstarts hmislabels⟩

end Link

end DualSlot
