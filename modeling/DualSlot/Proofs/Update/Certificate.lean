import DualSlot.Proofs.Update.Gate
import DualSlot.Proofs.Update.Lock

/-!
# What a complete session vouches for

A session checks its image by itself, and keeps the header. Whatever is asked of the boot loader
afterwards, both agree on what is in the update slot, as long as nobody else writes there: the check of
the boot loader answers the header of the session, and the image is applied just if it is newer.

* `Link.Certified` is the invariant behind it: the image of a complete session is a valid one for the
  boot loader too. The session never asks whether the image ends within the flash; it had made sure that
  the transfer does.
* `Board.takeOver_outcome` follows a check and a switch over a valid image.
* `Link.Stranded` is what becomes of the lock when a session is closed while the board is in use: it stays
  held, and no session comes to hold an image any more.
* `Link.agrees_after_any_run` is the outcome.
-/

namespace DualSlot

/-! ## Taking over a valid image -/

namespace Board

open DualSlot.Action

variable {g : Geometry} {board : Board g} {header : Header}

/-- How the attempt to take over a valid image ends: it is switched to just if it is newer. -/
inductive TakeOverOutcome (board : Board g) (header : Header) : Except BootError Unit × Board g → Prop
  | switched {board' : Board g} (newer : header.version.newerThan board.activeVersion = true)
      (noted : board.Noted (board.loader.context.switchedTo header) board') :
      TakeOverOutcome board header (.ok (), board')
  | stayed {board' : Board g} (notNewer : header.version.newerThan board.activeVersion = false)
      (noted : board.Noted (board.loader.context.offered header) board') :
      TakeOverOutcome board header (.error .noApp, board')

/-- Without planned faults a valid image is found, and switched to if it is newer. -/
theorem takeOver_outcome_of_muted (hmuted : board.flash.readPlan = none)
    (hfree : board.loader.updateLocked = false)
    (hholds : board.flash.HoldsImage board.loader.layout.slotB header) :
    TakeOverOutcome board header (effect Link.takeOver board) := by
  have hcheck := checkUpdate_outcome board
  have hstill : board.flash.readPlan = none → (effect checkUpdate board).2.flash = board.flash :=
    fun h => inspects_checkUpdate.flash_eq_of_muted h
  unfold Link.takeOver
  rw [effect_bind]
  generalize effect checkUpdate board = r at hcheck hstill ⊢
  cases hcheck with
  -- The slot is free and holds an image, so two of the outcomes cannot be.
  | locked locked _ => cases hfree.symm.trans locked
  | nothing _ unfound _ => exact absurd hholds (unfound hmuted header)
  | newer _ holds newer noted =>
    obtain rfl := holds.unique hholds
    rw [resume_ok]
    rcases switchToUpdate_of_offered hfree holds newer noted hstill with
      ⟨after, hswitch, noted'⟩ | ⟨e, after, _, _, faulty⟩
    · rw [hswitch]
      exact .switched newer noted'
    · exact absurd hmuted faulty
  | notNewer free holds notNewer noted =>
    rename_i found checked
    obtain rfl := holds.unique hholds
    -- An image that is not newer is not pending, and then the switch has nothing to switch to.
    have hnot : checked.loader.context.updatePending = false := by
      rw [noted.context_eq]
      exact notNewer
    rw [resume_ok, effect_switchToUpdate_of_not_pending (noted.locked_eq.trans free) hnot]
    exact .stayed notNewer ⟨noted.cells_eq, noted.layout_eq, noted.locked_eq, noted.context_eq⟩

/-- The same with a fault plan that no read has run into. -/
theorem takeOver_outcome (hfree : board.loader.updateLocked = false)
    (hholds : board.flash.HoldsImage board.loader.layout.slotB header)
    (hreads : board.flash.ReadsWentThrough (effect Link.takeOver board).2.flash) :
    TakeOverOutcome board header (effect Link.takeOver board) := by
  have hmuted : board.mute.flash.HoldsImage board.mute.loader.layout.slotB header :=
    hholds.of_cells_eq rfl
  have houtcome : TakeOverOutcome board.mute header (effect Link.takeOver board.mute) :=
    takeOver_outcome_of_muted rfl hfree hmuted
  rw [inspects_takeOver.effect_mute hreads] at houtcome
  generalize effect Link.takeOver board = r at houtcome ⊢
  obtain ⟨answer, after⟩ := r
  dsimp only at houtcome
  -- Only the fault plan makes a difference.
  cases houtcome with
  | switched newer noted =>
    exact .switched newer ⟨noted.cells_eq, noted.layout_eq, noted.locked_eq, noted.context_eq⟩
  | stayed notNewer noted =>
    exact .stayed notNewer ⟨noted.cells_eq, noted.layout_eq, noted.locked_eq, noted.context_eq⟩

/-- The check of the boot loader answers the header of a valid image, if no read is made to fail. -/
theorem validate_answers {slot : Nat} (hholds : board.flash.HoldsImage slot header)
    (hreads : board.flash.ReadsWentThrough (effect (validate slot) board).2.flash) :
    (effect (validate slot) board).1 = .ok header := by
  have hinspects : Inspects Notes (validate slot : BoardAction g Header) := inspects_validate slot
  have hmuted : board.mute.flash.HoldsImage slot header := hholds.of_cells_eq rfl
  have hsame := hinspects.effect_mute hreads
  rw [effect_validate_of_holdsImage rfl hmuted] at hsame
  exact (congrArg Prod.fst hsame).symm

end Board

/-! ## Certificates -/

/-- Nobody but the session writes to the flash or touches the lock of the update slot. Reads, fault plans,
the checks and decisions of the boot loader, and other uses of the board while the session is closed are
free. -/
def Act.Alone : Act → Prop
  | .turn (.boot call) => call.Watches
  | .turn t => t.Quiet
  | .reopen .. => True

instance : (act : Act) → Decidable act.Alone
  | .turn (.boot call) => inferInstanceAs (Decidable call.Watches)
  | .turn (.flash call) => inferInstanceAs (Decidable (Turn.flash call).Quiet)
  | .turn (.start ..) | .turn (.receive ..) | .turn .finalize | .turn .validate | .turn .abort
  | .turn .apply | .turn (.poll _) | .turn (.judge _) | .reopen .. => .isTrue trivial

namespace Link

open DualSlot.Action

variable {g : Geometry} {link : Link g} {header : Header} {lost : Header → Prop}

/-- A session between two calls. While it receives there is room for its transfer, and once it is complete
the update slot holds the image of its header, unless that is among the lost ones. -/
structure Certified (lost : Header → Prop) (link : Link g) : Prop where
  settled : link.session.phase.settled = true
  room : link.session.phase.receiving = true →
    link.board.loader.layout.slotB + link.session.transfer.totalSize.toNat ≤ g.capacity
  holds : link.session.phase = .complete → ∃ header, link.session.header = some header
    ∧ (lost header ∨ link.board.flash.HoldsImage link.board.loader.layout.slotB header)

/-- A session that is idle or failed vouches for nothing. -/
theorem certified_of_over {session : Session} (h : session.phase = .idle ∨ session.phase = .failed)
    (board : Board g) : Certified lost ⟨session, board⟩ := by
  rcases h with h | h
  · refine ⟨by rw [h]; rfl, fun hreceiving => ?_, fun hcomplete => ?_⟩
    · rw [h] at hreceiving
      cases hreceiving
    · cases h.symm.trans hcomplete
  · refine ⟨by rw [h]; rfl, fun hreceiving => ?_, fun hcomplete => ?_⟩
    · rw [h] at hreceiving
      cases hreceiving
    · cases h.symm.trans hcomplete

/-- A certificate is good for any board with the same bytes and the same slots. -/
theorem Certified.of_unwritten (h : Certified lost link) {board : Board g}
    (hsame : link.board.Unwritten board) : Certified lost ⟨link.session, board⟩ where
  settled := h.settled
  room hreceiving := by
    rw [hsame.layout_eq]
    exact h.room hreceiving
  holds hcomplete := by
    obtain ⟨header, hheader, hlost | hholds⟩ := h.holds hcomplete
    · exact ⟨header, hheader, .inl hlost⟩
    · refine ⟨header, hheader, .inr ?_⟩
      rw [hsame.layout_eq]
      exact hholds.of_cells_eq hsame.cells_eq.symm

/-! ## The calls of a session -/

/-- A start that answers has made sure of the room. -/
theorem certified_start (total chunk : UInt32) :
    Keeps (Certified (g := g) lost) (start total chunk) := by
  refine Keeps.of_outcome (start_outcome total chunk) fun link r outcome h => ?_
  cases outcome with
  | refused e => exact h
  | slotLocked _ _ => exact certified_of_over (.inl rfl) _
  | notErased _ _ => exact certified_of_over (.inr rfl) _
  | started may _ =>
    -- The size was held against the room in the update slot.
    refine ⟨rfl, fun _ => ?_, fun h => nomatch h⟩
    have hslot := link.board.loader.fits.room_b
    have htotal := may.total_le
    show link.board.loader.layout.slotB + total.toNat ≤ g.capacity
    omega

/-- A chunk leaves the transfer in its room. -/
theorem certified_receive (number : UInt32) (data : List UInt8) :
    Keeps (Certified (g := g) lost) (receive number data) := by
  refine Keeps.of_outcome (receive_outcome number data) fun link r outcome h => ?_
  have hloader := Board.loader_programUpdateSlot link.session.transfer.receivedBytes.toNat data
    link.board
  cases outcome with
  | refused e _ => exact h
  | notWritten _ cause board _ => exact certified_of_over (.inr rfl) _
  | accepted expected board written =>
    rw [written] at hloader
    have hboard : board.loader = link.board.loader := hloader
    refine ⟨rfl, fun _ => ?_, fun h => nomatch h⟩
    rw [hboard]
    exact h.room expected.receiving

/-- Between two calls there is nothing to validate. -/
theorem certified_validate : Keeps (Certified (g := g) lost) validate := by
  intro link h
  rw [effect_validate_of_settled h.settled]
  exact h

/-- Only here is a certificate issued. -/
theorem certified_finalize : Keeps (Certified (g := g) lost) finalize := by
  refine Keeps.of_outcome finalize_outcome fun link r outcome h => ?_
  cases outcome with
  | refused e => exact h
  | checked phase_eq _ outcome =>
    cases outcome with
    | refused e notValidating => exact absurd rfl notValidating
    | failed e header board _ => exact certified_of_over (.inr rfl) _
    -- The transfer had room, so what the session found sound is valid for the boot loader.
    | completed header board same sound =>
      have hreceiving : link.session.phase.receiving = true := by
        rw [phase_eq]
        rfl
      have hholds : link.board.flash.HoldsImage link.board.loader.layout.slotB header :=
        sound.holdsImage (h.room hreceiving)
      refine ⟨rfl, fun h => (nomatch h), fun _ => ⟨header, rfl, .inr ?_⟩⟩
      rw [Board.layout_unlocked, same.loader_eq]
      exact hholds.of_cells_eq same.cells_eq.symm

/-- An apply that is turned down ends the session, and one that is taken over keeps the image. -/
theorem certified_apply : Keeps (Certified (g := g) lost) apply := by
  refine Keeps.of_outcome apply_outcome fun link r outcome h => ?_
  have hsame := Board.inspects_takeOver.unwritten link.board
  cases outcome with
  | refused e _ => exact h
  | turnedDown _ cause board _ => exact certified_of_over (.inr rfl) _
  | takenOver complete board taken =>
    rw [taken] at hsame
    have hstill : Certified lost ⟨link.session, board.unlocked⟩ := h.of_unwritten hsame.unlocked
    exact ⟨rfl, fun h => (nomatch h), fun _ => hstill.holds complete⟩

/-- An abort ends the session, or is refused. -/
theorem certified_abort : Keeps (Certified (g := g) lost) abort := by
  refine Keeps.of_outcome abort_outcome fun link r outcome h => ?_
  cases outcome with
  | refused e _ => exact h
  | ended _ => exact certified_of_over (.inr rfl) _

/-- A poll moves the clock alone. -/
theorem certified_poll (elapsed : UInt32) : Keeps (Certified (g := g) lost) (poll elapsed) := by
  intro link h
  obtain ⟨answer, idle, heq⟩ := poll_outcome elapsed link
  rw [heq]
  exact ⟨h.settled, h.room, h.holds⟩

/-- Certificates survive every call of a session. -/
theorem survives_certified : Survives (Certified (g := g) lost) where
  start := certified_start
  receive := certified_receive
  finalize := certified_finalize
  validate := certified_validate
  abort := certified_abort
  apply := certified_apply
  poll := certified_poll

/-- The same for the calls as they are made. -/
theorem certified_sessionCall (call : SessionCall) :
    Keeps (Certified (g := g) lost) (call.run : SessionAction g Answer) :=
  survives_certified.sessionCall call

/-! ## Runs -/

/-- Certificates survive every act, for nobody else writes. -/
theorem certified_after {act : Act} (halone : act.Alone) (h : Certified lost link) :
    Certified lost (link.after act) := by
  cases act with
  | reopen config accepts inUse =>
    rw [after_reopen]
    exact certified_of_over (.inl rfl) _
  | turn turn =>
    cases turn with
    | judge accepts => exact ⟨h.settled, h.room, h.holds⟩
    | flash call => exact h.of_unwritten ⟨Record.cells_quiet_flash halone link.board.flash, rfl⟩
    | boot call => exact h.of_unwritten ((BootCall.Watches.inspects halone).unwritten link.board)
    | _ => exact survives_certified.after_turn trivial h

/-- A session that is alone holds the lock just while it receives. -/
theorem balanced_after_turn {turn : Turn} (halone : (Act.turn turn).Alone) (h : Balanced 0 link) :
    Balanced 0 (link.after (.turn turn)) := by
  cases turn with
  | start total chunk => exact balanced_start total chunk link h
  | receive number data => exact balanced_receive number data link h
  | finalize => exact balanced_finalize link h
  | validate => exact balanced_validate link h
  | abort => exact balanced_abort link h
  | apply =>
    -- There is no lock of another session to run into.
    refine (balanced_apply_iff h).mpr fun ⟨hcomplete, hlocked⟩ => ?_
    have hrests : link.session.phase.receiving = false := by
      rw [hcomplete]
      rfl
    cases (h.free hrests).symm.trans hlocked
  | poll elapsed => exact balanced_poll elapsed link h
  | judge accepts => exact ⟨h.settled, h.balance⟩
  | flash call => exact ⟨h.settled, h.balance⟩
  | boot call =>
    obtain ⟨_, _, hlock⟩ := (BootCall.Watches.inspects halone).frame link.board
    rw [after_turn_boot]
    exact h.of_same h.settled rfl hlock

/-! ## Locks left behind -/

/-- The lock is held for a session that was closed, by a board that was in use then. The session that is
there now cannot start a transfer, so it never comes to hold an image. -/
structure Stranded (link : Link g) : Prop where
  rests : link.session.phase = .idle ∨ link.session.phase = .failed
  locked : link.board.loader.updateLocked = true

/-- The session is between two calls. -/
theorem Stranded.settled (h : link.Stranded) : link.session.phase.settled = true := by
  rcases h.rests with hphase | hphase <;> rw [hphase] <;> rfl

/-- The lock is not that of the session. -/
theorem Stranded.not_receiving (h : link.Stranded) : link.session.phase.receiving = false := by
  rcases h.rests with hphase | hphase <;> rw [hphase] <;> rfl

/-- The session has no image either. -/
theorem Stranded.not_complete (h : link.Stranded) : link.session.phase ≠ .complete := by
  rcases h.rests with hphase | hphase <;> rw [hphase] <;> exact Phase.noConfusion

/-- No call of a session that receives nothing gives back a lock, unless it is complete. -/
theorem survives_stranded : Survives (Stranded (g := g)) where
  start total chunk := by
    refine Keeps.of_outcome (start_outcome total chunk) fun link r outcome h => ?_
    cases outcome with
    | refused e => exact h
    | slotLocked _ locked => exact ⟨.inl rfl, locked⟩
    | notErased _ free => cases h.locked.symm.trans free
    | started _ free => cases h.locked.symm.trans free
  receive number data := by
    intro link h
    rw [receive_of_unexpected fun expected => by cases h.not_receiving.symm.trans expected.receiving]
    exact h
  finalize := by
    refine Keeps.of_outcome finalize_outcome fun link r outcome h => ?_
    cases outcome with
    | refused e => exact h
    | checked phase_eq _ _ =>
      -- Only a session that receives comes to a check.
      have hnot := h.not_receiving
      rw [phase_eq] at hnot
      cases hnot
  validate := by
    intro link h
    rw [effect_validate_of_settled h.settled]
    exact h
  abort := by
    refine Keeps.of_outcome abort_outcome fun link r outcome h => ?_
    cases outcome with
    | refused e _ => exact h
    | ended _ =>
      have hbusy := (Phase.busy_eq_receiving h.settled).trans h.not_receiving
      rw [boardAfter_of_not_busy _ hbusy]
      exact ⟨.inr rfl, h.locked⟩
  apply := by
    refine Keeps.of_outcome apply_outcome fun link r outcome h => ?_
    cases outcome with
    | refused e _ => exact h
    | turnedDown complete => exact absurd complete h.not_complete
    | takenOver complete => exact absurd complete h.not_complete
  poll elapsed := by
    intro link h
    obtain ⟨answer, idle, heq⟩ := poll_outcome elapsed link
    rw [heq]
    exact ⟨h.rests, h.locked⟩

/-- A lock that was left behind stays so, whatever the session and the boot loader do. -/
theorem Stranded.after (h : link.Stranded) {act : Act} (halone : act.Alone) :
    (link.after act).Stranded := by
  cases act with
  | reopen config accepts inUse =>
    have hbusy := (Phase.busy_eq_receiving h.settled).trans h.not_receiving
    rw [after_reopen, boardAfter_of_not_busy _ hbusy]
    exact ⟨.inl rfl, h.locked⟩
  | turn turn =>
    cases turn with
    | judge accepts => exact ⟨h.rests, h.locked⟩
    | flash call => exact ⟨h.rests, h.locked⟩
    | boot call =>
      obtain ⟨_, _, hlock⟩ := (BootCall.Watches.inspects halone).frame link.board
      rw [after_turn_boot]
      exact ⟨h.rests, hlock.trans h.locked⟩
    | _ => exact survives_stranded.after_turn trivial h

/-- A session that is closed gives the lock back, or leaves it behind if the board is in use. -/
theorem balanced_or_stranded_reopen (config : SessionConfig) (accepts : Header → Bool) (inUse : Bool)
    (h : Balanced 0 link) :
    Balanced 0 (link.after (.reopen config accepts inUse))
      ∨ (link.after (.reopen config accepts inUse)).Stranded := by
  rw [after_reopen]
  cases inUse with
  | false => exact .inl (h.stopped rfl rfl rfl)
  | true =>
    rw [closedPhase, if_pos rfl, boardAfter_self]
    cases hlocked : link.board.loader.updateLocked with
    | true => exact .inr ⟨.inl rfl, hlocked⟩
    | false =>
      refine .inl ⟨rfl, ?_⟩
      rw [hlocked]
      rfl

/-- In every run the session holds the lock just while it receives, or the lock was left behind. -/
theorem balanced_or_stranded_steps {acts : List Act} (halone : ∀ act ∈ acts, act.Alone)
    (h : Balanced 0 link) : Balanced 0 (link.steps acts) ∨ (link.steps acts).Stranded := by
  refine steps_keeps (I := fun link => Balanced 0 link ∨ link.Stranded) ?_ (.inl h)
  rintro act hact link (hbalanced | hstranded)
  · cases act with
    | reopen config accepts inUse => exact balanced_or_stranded_reopen config accepts inUse hbalanced
    | turn turn => exact .inl (balanced_after_turn (halone _ hact) hbalanced)
  · exact .inr (hstranded.after (halone act hact))

/-! ## The outcome -/

/-- The image became the active one, and the session is complete with it. -/
structure Applied (header : Header) (link link' : Link g) : Prop where
  active_eq : link'.board.loader.context.active = .b
  activeHeader_eq : link'.board.loader.context.activeHeader = header
  updateHeader_eq : link'.board.loader.context.updateHeader = header
  bootCount_eq :
    link'.board.loader.context.bootCount = link.board.loader.context.bootCount + 1
  not_pending : link'.board.loader.context.updatePending = false
  phase_eq : link'.session.phase = .complete

/-- The image was turned down: the session failed, and the boot loader stays with what was active. -/
structure TurnedDown (link link' : Link g) : Prop where
  active_eq : link'.board.loader.context.active = link.board.loader.context.active
  activeHeader_eq :
    link'.board.loader.context.activeHeader = link.board.loader.context.activeHeader
  bootCount_eq : link'.board.loader.context.bootCount = link.board.loader.context.bootCount
  phase_eq : link'.session.phase = .failed

/-- The session and the boot loader agree on the image in the update slot, wherever no read is made to
fail. -/
structure Agrees (header : Header) (link : Link g) : Prop where
  session_header : link.session.header = some header
  validates :
    link.board.flash.ReadsWentThrough
        (effect (Board.validate link.board.loader.layout.slotB) link.board).2.flash →
      (effect (Board.validate link.board.loader.layout.slotB) link.board).1 = .ok header
  applies_iff : link.board.flash.ReadsWentThrough (effect apply link).2.board.flash →
    ((effect apply link).1 = .ok ()
      ↔ header.version.newerThan link.board.activeVersion = true)
  applied : link.board.flash.ReadsWentThrough (effect apply link).2.board.flash →
    header.version.newerThan link.board.activeVersion = true →
      Applied header link (effect apply link).2
  turnedDown : link.board.flash.ReadsWentThrough (effect apply link).2.board.flash →
    header.version.newerThan link.board.activeVersion = false →
      (effect apply link).1 = .error .validationFailed ∧ TurnedDown link (effect apply link).2

/-- A complete session applies a valid image just if that is newer. -/
theorem apply_of_holdsImage (hcomplete : link.session.phase = .complete)
    (hfree : link.board.loader.updateLocked = false)
    (hholds : link.board.flash.HoldsImage link.board.loader.layout.slotB header)
    (hreads : link.board.flash.ReadsWentThrough (effect apply link).2.board.flash) :
    (header.version.newerThan link.board.activeVersion = true
        ∧ (effect apply link).1 = .ok () ∧ Applied header link (effect apply link).2)
      ∨ (header.version.newerThan link.board.activeVersion = false
        ∧ (effect apply link).1 = .error .validationFailed
        ∧ TurnedDown link (effect apply link).2) := by
  have houtcome := apply_outcome link
  generalize effect apply link = r at houtcome hreads ⊢
  -- Either way the flash is the one that the boot loader left.
  cases houtcome with
  | refused e notComplete => exact absurd hcomplete notComplete
  | turnedDown _ cause board taken =>
    have htake := Board.takeOver_outcome hfree hholds (by rw [taken]; exact hreads)
    rw [taken] at htake
    cases htake with
    | stayed notNewer noted =>
      refine .inr ⟨notNewer, rfl, ?_, ?_, ?_, rfl⟩
      · exact congrArg (·.active) noted.context_eq
      · exact congrArg (·.activeHeader) noted.context_eq
      · exact congrArg (·.bootCount) noted.context_eq
  | takenOver _ board taken =>
    have htake := Board.takeOver_outcome hfree hholds (by rw [taken]; exact hreads)
    rw [taken] at htake
    cases htake with
    | switched newer noted =>
      refine .inl ⟨newer, rfl, ?_, ?_, ?_, ?_, ?_, rfl⟩
      · exact congrArg (·.active) noted.context_eq
      · exact congrArg (·.activeHeader) noted.context_eq
      · exact congrArg (·.updateHeader) noted.context_eq
      · exact congrArg (·.bootCount) noted.context_eq
      · exact congrArg (·.updatePending) noted.context_eq

/-- A valid image in the slot is all that an agreement needs. -/
theorem agrees_of_holdsImage (hcomplete : link.session.phase = .complete)
    (hfree : link.board.loader.updateLocked = false) (hheader : link.session.header = some header)
    (hholds : link.board.flash.HoldsImage link.board.loader.layout.slotB header) :
    Agrees header link where
  session_header := hheader
  validates hreads := Board.validate_answers hholds hreads
  applies_iff hreads := by
    rcases apply_of_holdsImage hcomplete hfree hholds hreads with
      ⟨hnewer, hok, _⟩ | ⟨hnot, herror, _⟩
    · exact iff_of_true hok hnewer
    · rw [herror, hnot]
      exact iff_of_false (fun h => nomatch h) fun h => nomatch h
  applied hreads hnewer := by
    rcases apply_of_holdsImage hcomplete hfree hholds hreads with
      ⟨_, _, happlied⟩ | ⟨hnot, _⟩
    · exact happlied
    · cases hnot.symm.trans hnewer
  turnedDown hreads hnot := by
    rcases apply_of_holdsImage hcomplete hfree hholds hreads with
      ⟨hnewer, _⟩ | ⟨_, hdown⟩
    · cases hnot.symm.trans hnewer
    · exact hdown

/-- Take any run of the boot loader and of one session at a time, with any faults, in which nobody else
writes the flash or touches the lock. Whenever the session is complete then, it and the boot loader agree
on the image in the update slot. -/
theorem agrees_after_any_run (config : SessionConfig) (accepts : Header → Bool) {board : Board g}
    (hfree : board.loader.updateLocked = false) {acts : List Act}
    (halone : ∀ act ∈ acts, act.Alone)
    (hcomplete : ((opened config accepts board).steps acts).session.phase = .complete) :
    ∃ header, Agrees header ((opened config accepts board).steps acts) := by
  -- Two invariants go along with the run: the lock, and the certificate.
  have hopened : Balanced 0 (opened config accepts board) := by
    refine ⟨rfl, ?_⟩
    rw [show (opened config accepts board).board = board from rfl, hfree]
    rfl
  -- A session that is complete has started a transfer, so no lock was left behind before it.
  have hbalanced : Balanced 0 ((opened config accepts board).steps acts) :=
    (balanced_or_stranded_steps halone hopened).resolve_right fun h => h.not_complete hcomplete
  have hcertified : Certified (fun _ => False) ((opened config accepts board).steps acts) :=
    steps_keeps (fun act hact _ h => certified_after (halone act hact) h)
      (certified_of_over (.inl rfl) board)
  have hrests : ((opened config accepts board).steps acts).session.phase.receiving = false := by
    rw [hcomplete]
    rfl
  obtain ⟨header, hheader, hlost | hholds⟩ := hcertified.holds hcomplete
  · exact hlost.elim
  · exact ⟨header, agrees_of_holdsImage hcomplete (hbalanced.free hrests) hheader hholds⟩

/-- A newer image is sent to the device from the factory. The next boot takes it without being told, and
goes back to slot A later on. -/
def takenByBoot : List Act :=
  Factory.transfer ⟨1, 1, 0⟩ ++ [.turn (.boot .boot), .turn (.boot .rollback)]

/-- The session still agrees with the boot loader after the boot has taken its image and gone back. -/
theorem agrees_takenByBoot :
    ((opened {} (fun _ => true) Factory.board).steps takenByBoot).session.phase = .complete
      ∧ ∃ header, Agrees header ((opened {} (fun _ => true) Factory.board).steps takenByBoot) := by
  have halone : ∀ act ∈ takenByBoot, act.Alone := by decide
  have hcomplete : ((opened {} (fun _ => true) Factory.board).steps takenByBoot).session.phase
      = .complete := by decide +kernel
  exact ⟨hcomplete, agrees_after_any_run {} (fun _ => true) rfl halone hcomplete⟩

end Link

end DualSlot
