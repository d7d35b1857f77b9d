import DualSlot.Proofs.Update.Gate

/-!
# Does an image that was refused run?

A session and the boot loader both check the image in the update slot, but not in the same way. The
session asks for an entry point, for just the declared size, and for the consent of the application; the
boot loader asks for none of these. `Link.Rejects` says why a session refuses an image.

* `Board.runsUpdate_iff`: what the boot loader makes of an update slot that nobody writes any more. It
  runs the image there, sooner or later, just if that is valid and newer.
* `Link.refused_runs_iff`: after a refusal the image runs just if it is a newer one that the boot loader has
  nothing against. A wrong checksum is never among the reasons.
-/

namespace DualSlot

/-! ## The verdict of the boot loader -/

namespace Board

open DualSlot.Action

variable {g : Geometry} {board board' : Board g} {context : BootContext} {header : Header}
  {fallsBack : Slot → Prop}

/-- The update slot is active, or the next boot goes there. -/
def RunsUpdate (board : Board g) : Prop :=
  board.loader.context.active = .b
    ∨ ∃ entry after, effect boot board = (.ok entry, after)
      ∧ entry.slot = board.loader.layout.slotB

/-- Slot A is active, and the update slot holds nothing that is pending or could become so. -/
structure NoUpdate (board : Board g) : Prop where
  active_eq : board.loader.context.active = .a
  not_pending : board.loader.context.updatePending = false
  not_newer : ∀ header, board.flash.HoldsImage board.loader.layout.slotB header →
    header.version.newerThan board.activeVersion = false

/-- Notes in the loader make no update, unless they name another slot or another image. -/
theorem NoUpdate.of_noted (h : board.NoUpdate) (hnoted : board.Noted context board')
    (hactive : context.active = .a) (hpending : context.updatePending = false)
    (hheader : context.activeHeader = board.loader.context.activeHeader) : board'.NoUpdate where
  active_eq := by rw [hnoted.context_eq, hactive]
  not_pending := by rw [hnoted.context_eq, hpending]
  not_newer header hholds := by
    rw [hnoted.layout_eq, hnoted.holdsImage_iff] at hholds
    rw [hnoted.activeVersion_eq, hheader]
    exact h.not_newer header hholds

/-- Without an update no move makes one, as long as slot A is not gone back to while it is active. -/
theorem NoUpdate.move (h : board.NoUpdate) (hstays : ¬ fallsBack .a)
    (hmove : board.Move fallsBack board') : board'.NoUpdate := by
  cases hmove with
  -- A move that finds something finds an image that is not newer, so nothing becomes pending.
  | kept noted => exact h.of_noted noted h.active_eq h.not_pending rfl
  | cleared _ noted => exact h.of_noted noted h.active_eq rfl rfl
  | offered _ holds noted => exact h.of_noted noted h.active_eq (h.not_newer _ holds) rfl
  | switched _ pending _ _ => cases h.not_pending.symm.trans pending
  | rolledBack falls _ _ =>
    rw [h.active_eq] at falls
    exact absurd falls hstays

/-- The first half of a boot finds nothing to switch to. -/
theorem NoUpdate.take (h : board.NoUpdate) (htake : TakeOutcome board context) :
    context.active = .a := by
  cases htake with
  | locked _ => exact h.active_eq
  | nothing _ _ => exact h.active_eq
  | notNewer _ _ _ => exact h.active_eq
  | missed _ _ _ _ => exact h.active_eq
  | taken _ holds newer => cases (h.not_newer _ holds).symm.trans newer

/-- Slot A ends where slot B begins or before, and a header fits into it. -/
theorem slotA_ne_slotB (board : Board g) : board.loader.layout.slotA ≠ board.loader.layout.slotB := by
  have hroom := board.loader.fits.room_a
  have hlength : 0 < Header.length := by decide
  omega

/-- Without an update a boot stays in slot A. -/
theorem NoUpdate.not_runs (h : board.NoUpdate) : ¬ board.RunsUpdate := by
  rintro (hactive | ⟨entry, after, hboot, hslot⟩)
  · -- The slot is not active to begin with, so it would have to be the next boot that goes there.
    cases h.active_eq.symm.trans hactive
  obtain ⟨context, taken, htake, hnoted, _, hsettles⟩ := boot_outcome board
  have ha : taken.loader.context.active = .a := by
    rw [hnoted.context_eq]
    exact h.take htake
  rw [hboot] at hsettles
  apply board.slotA_ne_slotB
  rw [← hslot]
  -- The boot stays in slot A, or it would have to fall back from a slot that is not active.
  cases hsettles with
  | stayed _ slot_eq _ =>
    rw [slot_eq, Loader.activeSlot, ha, hnoted.layout_eq]
    rfl
  | fellBack active_eq _ _ _ _ => cases ha.symm.trans active_eq

/-- Without faults a boot runs a valid and newer image in the update slot, unless that is locked. -/
theorem runsUpdate_of_newer (hmuted : board.flash.readPlan = none)
    (hfree : board.loader.updateLocked = false)
    (hholds : board.flash.HoldsImage board.loader.layout.slotB header)
    (hnewer : header.version.newerThan board.activeVersion = true) : board.RunsUpdate := by
  obtain ⟨context, taken, htake, hnoted, hstill, hsettles⟩ := boot_outcome board
  -- The update is taken: each of the other ways in which the search can end contradicts a hypothesis.
  have hb : context.active = .b := by
    cases htake with
    | locked locked => cases hfree.symm.trans locked
    | nothing _ unfound => exact absurd hholds (unfound hmuted header)
    | notNewer _ holds notNewer =>
      obtain rfl := holds.unique hholds
      cases notNewer.symm.trans hnewer
    | missed _ _ _ faulty => exact absurd hmuted faulty
    | taken _ _ _ => rfl
  have hslot : taken.loader.activeSlot = board.loader.layout.slotB := by
    rw [Loader.activeSlot, hnoted.layout_eq, hnoted.context_eq, hb]
    rfl
  -- The image that was taken is still there when the boot checks it once more.
  have hstored : taken.flash.HoldsImage taken.loader.activeSlot header := by
    rw [hslot, hnoted.holdsImage_iff]
    exact hholds
  refine .inr ?_
  generalize effect boot board = r at hsettles ⊢
  cases hsettles with
  | stayed _ slot_eq _ => exact ⟨_, _, rfl, slot_eq.trans hslot⟩
  | fellBack _ unfound _ _ _ => exact absurd hstored (unfound (hstill hmuted) header)
  | failed unfound _ => exact absurd hstored (unfound (hstill hmuted) header)

end Board

/-! ## Waiting -/

/-- An orderly act that neither starts a transfer nor orders a rollback. -/
def Act.Waits : Act → Prop
  | .turn (.start ..) | .turn (.boot .rollback) => False
  | act => act.Orderly

instance : (act : Act) → Decidable act.Waits
  | .turn (.start ..) | .turn (.boot .rollback) | .turn (.boot .unlockUpdateSlot)
  | .turn (.boot (.eraseUpdateSlot _)) | .turn (.boot (.programUpdateSlot ..))
  | .turn (.boot (.restart _)) => .isFalse id
  | .turn (.boot .checkUpdate) | .turn (.boot .switchToUpdate) | .turn (.boot (.jump _))
  | .turn (.boot .boot) | .turn (.boot (.validate _)) | .turn (.boot (.readHeader _))
  | .turn (.boot (.payloadCrc ..)) | .turn (.boot .lockUpdateSlot) => .isTrue trivial
  | .turn (.flash call) => inferInstanceAs (Decidable (Turn.flash call).Quiet)
  | .turn (.receive ..) | .turn .finalize | .turn .validate | .turn .abort | .turn .apply
  | .turn (.poll _) | .turn (.judge _) | .reopen .. => .isTrue trivial

/-- What waits is orderly. -/
theorem Act.Waits.orderly {act : Act} (h : act.Waits) : act.Orderly := by
  unfold Waits at h
  split at h
  · exact h.elim
  · exact h.elim
  · exact h

/-- What waits starts no transfer, which is the one way to bring another image. -/
theorem Act.Waits.not_starts {act : Act} (h : act.Waits) : ¬ act.Starts := by
  intro hstarts
  unfold Starts at hstarts
  split at hstarts
  · exact h
  · exact hstarts

/-- An act that waits never goes back to slot A from there. -/
theorem Act.Waits.not_fallsBack {act : Act} (h : act.Waits) : ¬ act.FallsBack .a := by
  intro hfalls
  unfold FallsBack at hfalls
  split at hfalls
  · exact h
  · cases hfalls
  · exact hfalls

namespace Link

open DualSlot.Action

variable {g : Geometry} {link link' : Link g} {fallsBack : Slot → Prop} {header : Header}

/-- No session receives, and the update slot holds no update. -/
structure Rests (link : Link g) : Prop where
  not_receiving : link.session.phase.receiving = false
  board : link.board.NoUpdate

/-- The invariant of waiting: no move opens the session or the update slot again. -/
theorem Rests.move (h : link.Rests) (hstays : ¬ fallsBack .a) (hmove : Move fallsBack link link') :
    link'.Rests := by
  cases hmove with
  | session hsession =>
    refine ⟨?_, h.board⟩
    rename_i s
    cases hreceiving : s.phase.receiving with
    | false => rfl
    | true => cases h.not_receiving.symm.trans (hsession hreceiving)
  | board hmove => exact ⟨h.not_receiving, h.board.move hstays hmove⟩
  | stored receiving _ _ => cases h.not_receiving.symm.trans receiving
  -- The lock and its release write nothing that the invariant looks at.
  | locked => exact ⟨h.not_receiving, ⟨h.board.active_eq, h.board.not_pending, h.board.not_newer⟩⟩
  | unlocked _ =>
    exact ⟨h.not_receiving, ⟨h.board.active_eq, h.board.not_pending, h.board.not_newer⟩⟩

/-- An act that waits is one or several moves, for it starts nothing. -/
theorem rests_after {act : Act} (hwaits : act.Waits) (h : link.Rests) : (link.after act).Rests := by
  rcases act_cases hwaits.orderly link with hmoves | ⟨total, chunk, rfl, _⟩
  · exact hmoves.keeps (fun h hmove => h.move hwaits.not_fallsBack hmove) h
  · exact absurd trivial hwaits.not_starts

/-- A whole run of waiting, by its acts. -/
theorem rests_steps {acts : List Act} (hwaits : ∀ act ∈ acts, act.Waits) (h : link.Rests) :
    (link.steps acts).Rests :=
  steps_keeps (fun act hact _ h => rests_after (hwaits act hact) h) h

/-- Once a transfer into the update slot has ended, while slot A is active: the boot loader comes to run
what is there, without another transfer, just if it is a valid and newer image. -/
theorem runsUpdate_iff (hrests : link.session.phase.receiving = false)
    (hfree : link.board.loader.updateLocked = false)
    (hactive : link.board.loader.context.active = .a)
    (hpending : link.board.loader.context.updatePending = false) :
    (∃ acts, (∀ act ∈ acts, act.Waits) ∧ (link.steps acts).board.RunsUpdate)
      ↔ ∃ header, link.board.flash.HoldsImage link.board.loader.layout.slotB header
        ∧ header.version.newerThan link.board.activeVersion = true := by
  constructor
  · rintro ⟨acts, hwaits, hruns⟩
    -- Otherwise there is no update, now and after all of these acts.
    refine Classical.byContradiction fun hnone => ?_
    have hno : link.board.NoUpdate := by
      refine ⟨hactive, hpending, fun header hholds => ?_⟩
      cases hnewer : header.version.newerThan link.board.activeVersion with
      -- An update now would be the one that is looked for.
      | false => rfl
      | true => exact absurd ⟨header, hholds, hnewer⟩ hnone
    exact (rests_steps hwaits ⟨hrests, hno⟩).board.not_runs hruns
  · rintro ⟨header, hholds, hnewer⟩
    -- One boot is enough, once no reads are made to fail any more.
    refine ⟨[.turn (.flash (.planReads none))], by decide, ?_⟩
    have hcells : link.board.flash.cells
        = (link.steps [.turn (.flash (.planReads none))]).board.flash.cells := rfl
    exact Board.runsUpdate_of_newer rfl hfree (hholds.of_cells_eq hcells) hnewer

/-! ## The verdict of the session -/

/-- Why a session refuses an image with a header, and what it answers. -/
inductive Rejects (link : Link g) (header : Header) : UpdateError → Prop
  | misshapen (h : header.wellShaped = false) : Rejects link header .validationFailed
  | missized (h : link.session.transfer.totalSize.toNat ≤ Header.length
      ∨ header.size ≠ link.session.transfer.totalSize) : Rejects link header .validationFailed
  | corrupt (h : header.crc32 ≠ Crc32.checksum
      (link.board.flash.slice (link.board.loader.layout.slotB + Header.length)
        header.payloadLength)) : Rejects link header .crcMismatch
  | vetoed (h : link.session.accepts header = false) : Rejects link header .validationFailed

/-- The reasons are a matter of the declared size, the application and the bytes. -/
theorem Rejects.of_same {e : UpdateError} (h : Rejects link' header e)
    (htransfer : link'.session.transfer = link.session.transfer)
    (haccepts : link'.session.accepts = link.session.accepts)
    (hsame : Board.SameBytes link.board link'.board) : Rejects link header e := by
  cases h with
  | misshapen h => exact .misshapen h
  | missized h =>
    rw [htransfer] at h
    exact .missized h
  | corrupt h =>
    rw [hsame.slice_eq, hsame.loader_eq] at h
    exact .corrupt h
  | vetoed h =>
    rw [haccepts] at h
    exact .vetoed h

/-- A header check that fails names a reason that holds of this header. -/
theorem checkHeader_fails {e : UpdateError} (h : (effect (checkHeader header) link).1 = .error e) :
    Rejects link header e := by
  have houtcome := checkHeader_outcome header link
  generalize effect (checkHeader header) link = r at houtcome h
  cases houtcome with
  | misshapen shape message =>
    -- The error that was given is the one of the reason.
    rw [abandon_fails] at h
    cases h
    exact .misshapen shape
  | missized size message =>
    rw [abandon_fails] at h
    cases h
    exact .missized size
  | passed _ _ _ => cases h

/-- A payload check that fails either could not read, or has found another checksum. -/
theorem checkPayload_fails {e : UpdateError} (h : (effect (checkPayload header) link).1 = .error e) :
    e = .flashError ∨ Rejects link header e := by
  have houtcome := checkPayload_outcome header link
  generalize effect (checkPayload header) link = r at houtcome h
  cases houtcome with
  | unread cause board _ message =>
    rw [abandon_fails] at h
    cases h
    exact .inl rfl
  | corrupt calculated board read differs message =>
    rw [abandon_fails] at h
    cases h
    -- The checksum that was computed is that of the bytes in the slot.
    obtain ⟨_, _, hchecksum⟩ := Board.payloadCrc_answers (congrArg Prod.fst read)
    rw [hchecksum] at differs
    exact .inr (.corrupt differs.symm)
  | passed board _ => cases h

/-- A question that fails was answered with no. -/
theorem askApplication_fails {e : UpdateError}
    (h : (effect (askApplication header) link).1 = .error e) : Rejects link header e := by
  have houtcome := askApplication_outcome header link
  generalize effect (askApplication header) link = r at houtcome h
  cases houtcome with
  | vetoed veto message =>
    rw [abandon_fails] at h
    cases h
    exact .vetoed veto
  | consented _ => cases h

/-- A check that passes leaves the session and the bytes as they are. -/
theorem Checks.passes {x : SessionAction g Unit} {p : Link g → Prop} (hx : Checks x p)
    (hbusy : link.session.phase.busy = true) {u : Unit} (hok : effect x link = (.ok u, link')) :
    link'.session = link.session ∧ Board.SameBytes link.board link'.board := by
  obtain ⟨board, hsame, ⟨hpass, _⟩ | ⟨e, herror⟩⟩ := hx link hbusy
  · -- A check has one answer, and this one has passed.
    rw [hok] at hpass
    cases hpass
    exact ⟨rfl, hsame⟩
  · rw [hok] at herror
    cases herror

/-- What comes after the checks cannot fail. -/
theorem conclude_answers (hphase : link.session.phase = .validating) (header : Header) :
    (effect (conclude header) link).1 = .ok () := by
  have hallows : link.session.phase.allows .complete = true := by
    rw [hphase]
    rfl
  unfold conclude
  rw [effect_bind, effect_log, resume_ok, effect_bind, effect_enter hallows, resume_ok]
  rfl

/-- The checks of a header, one after the other. -/
theorem examine_fails {e : UpdateError} (hphase : link.session.phase = .validating)
    (h : (effect (examine header) link).1 = .error e) :
    e = .flashError ∨ Rejects link header e := by
  have hbusy : link.session.phase.busy = true := by
    rw [hphase]
    rfl
  -- Each check is met with the session and the bytes of the one before, by `Checks.passes`.
  rcases bind_fails h with h | ⟨_, link₁, hok, h⟩
  · exact .inr (checkHeader_fails h)
  obtain ⟨hsession, hsame⟩ := (checks_checkHeader header).passes hbusy hok
  rw [← hsession] at hbusy hphase
  rcases bind_fails h with h | ⟨_, link₂, hok₂, h⟩
  · rcases checkPayload_fails h with hflash | hrejects
    · exact .inl hflash
    · exact .inr (hrejects.of_same (by rw [hsession]) (by rw [hsession]) hsame)
  obtain ⟨hsession₂, hsame₂⟩ := (checks_checkPayload header).passes hbusy hok₂
  rw [← hsession₂] at hbusy hphase
  rw [← hsession₂] at hsession
  rcases bind_fails h with h | ⟨_, link₃, hok₃, h⟩
  · have hrejects := askApplication_fails h
    exact .inr (hrejects.of_same (by rw [hsession]) (by rw [hsession]) (hsame.trans hsame₂))
  -- Nothing is left that could go wrong.
  obtain ⟨hsession₃, _⟩ := (checks_askApplication header).passes hbusy hok₃
  rw [← hsession₃] at hphase
  cases (conclude_answers hphase header).symm.trans h

/-- A session refuses an image for one of the reasons, unless it could not read it. -/
theorem validate_fails {e : UpdateError} (hphase : link.session.phase = .validating)
    (h : (effect validate link).1 = .error e) :
    e = .flashError ∨ Rejects link (link.board.stored .b) e := by
  -- The reasons speak of the bytes at the start, and reading the header has not changed them.
  have hinspects : Board.Inspects (fun _ => False)
      (Board.readHeader link.board.loader.layout.slotB : BoardAction g Header) :=
    Board.inspects_readHeader _
  have hsame := hinspects.sameBytes link.board
  rcases hread : effect (Board.readHeader link.board.loader.layout.slotB) link.board with
    ⟨cause | header, board⟩
  · rw [effect_validate_of_unread hphase hread, abandon_fails] at h
    cases h
    exact .inl rfl
  · rw [hread] at hsame
    obtain ⟨_, _, hdecode, _⟩ := Board.readHeader_answers hread
    have hstored : link.board.stored .b = header := hdecode
    rw [effect_validate_of_read hphase hread] at h
    rw [hstored]
    -- The header is kept in the session before it is checked.
    let looked : Link g := ⟨{ link.session with header := some header }, board⟩
    have hlooked : looked.session.phase = .validating := hphase
    rcases examine_fails hlooked h with hflash | hrejects
    · exact .inl hflash
    · exact .inr (hrejects.of_same rfl rfl hsame)

/-- A transfer that is finalized in vain is over: its image was refused, the update slot is free again, and
all else is as it was. -/
structure Refused (link : Link g) (e : UpdateError) (link' : Link g) : Prop where
  phase_eq : link.session.phase = .receivingData
  rejects : Rejects link (link.board.stored .b) e
  not_receiving : link'.session.phase.receiving = false
  same : ∃ board, Board.SameBytes link.board board ∧ link'.board = board.unlocked

/-- Too early, and the call is turned down for its state or for the size. -/
theorem finalize_fails_early {e : UpdateError} (h : (effect finalize link).1 = .error e)
    (hearly : ¬ (link.session.phase = .receivingData
      ∧ link.session.transfer.receivedBytes = link.session.transfer.totalSize)) :
    e = .invalidState ∨ e = .invalidSize := by
  unfold finalize at h
  simp only [effect_bind, effect_look, resume_ok] at h
  split at h
  · cases h
    exact .inl rfl
  rename_i hphase
  split at h
  · cases h
    exact .inr rfl
  rename_i hall
  exact absurd ⟨Decidable.not_not.mp hphase, Decidable.not_not.mp hall⟩ hearly

/-- A finalize that refuses an image has checked it, for a refusal beforehand has other errors. -/
theorem refused_of_finalize {e : UpdateError} (h : effect finalize link = (.error e, link'))
    (he : e = .validationFailed ∨ e = .crcMismatch) : Refused link e link' := by
  by_cases hready : link.session.phase = .receivingData
    ∧ link.session.transfer.receivedBytes = link.session.transfer.totalSize
  · obtain ⟨hphase, hall⟩ := hready
    rw [effect_finalize hphase hall] at h
    have hrejects := validate_fails rfl (congrArg Prod.fst h)
    have houtcome := validate_outcome link.checking
    rw [h] at houtcome
    cases houtcome with
    | refused _ notValidating => exact absurd rfl notValidating
    | failed _ header board same =>
      -- The header in the session is what a failed check leaves behind, and no reason looks at
      -- it.
      refine ⟨hphase, ?_, rfl, board, same, rfl⟩
      rcases hrejects with rfl | hrejects
      · rcases he with he | he <;> cases he
      · exact hrejects.of_same rfl rfl (.refl _)
  · -- Neither of the early errors is one of the two.
    rcases finalize_fails_early (congrArg Prod.fst h) hready with rfl | rfl
    · rcases he with he | he <;> cases he
    · rcases he with he | he <;> cases he

/-! ## The outcome -/

/-- The boot loader has nothing against an image that the session refuses: it does not ask for an entry
point, nor for the declared size, nor for the consent of the application. -/
theorem Rejects.of_holdsImage {e : UpdateError} (h : Rejects link (link.board.stored .b) e)
    (hholds : link.board.flash.HoldsImage link.board.loader.layout.slotB header) :
    e = .validationFailed ∧ (header.entryPoint = 0
      ∨ header.size ≠ link.session.transfer.totalSize ∨ link.session.accepts header = false) := by
  have hstored : link.board.stored .b = header := hholds.decode_eq
  rw [hstored] at h
  cases h with
  -- The boot loader compares the checksum as well, so this reason is none of its own.
  | corrupt h => exact absurd hholds.crc32_eq h
  | vetoed h => exact ⟨rfl, .inr (.inr h)⟩
  | missized h =>
    -- Of the two sizes in question only the header's is the boot loader's business.
    refine ⟨rfl, .inr (.inl fun heq => ?_)⟩
    have hlength := hholds.length_lt
    rcases h with hshort | hsize
    · rw [heq] at hlength
      omega
    · exact hsize heq
  | misshapen h =>
    refine ⟨rfl, .inl ?_⟩
    have hsize : header.size ≠ 0 := by
      intro hzero
      have hlength := hholds.length_lt
      rw [hzero] at hlength
      exact absurd hlength (by decide)
    -- Of the three parts of the shape only the entry point is left.
    unfold Header.wellShaped at h
    rw [hholds.magic_eq] at h
    simpa [hsize] using h

/-- Take a run of one session at a time in which a transfer is finalized in vain while slot A is active.
Up to the next start, and whatever the boot loader is asked to do meanwhile, the image comes to run just
if it is a valid and newer one that was refused for its entry point, for its size, or by the
application. -/
theorem refused_runs_iff (config : SessionConfig) (accepts : Header → Bool) (board : Board g)
    {acts : List Act} (horderly : ∀ act ∈ acts, act.Orderly) {e : UpdateError} {refused : Link g}
    (hactive : ((opened config accepts board).steps acts).board.loader.context.active = .a)
    (hfinalize : effect finalize ((opened config accepts board).steps acts) = (.error e, refused))
    (he : e = .validationFailed ∨ e = .crcMismatch) :
    let session := ((opened config accepts board).steps acts).session
    (∃ acts', (∀ act ∈ acts', act.Waits) ∧ (refused.steps acts').board.RunsUpdate)
      ↔ e = .validationFailed ∧ ∃ header,
        refused.board.flash.HoldsImage refused.board.loader.layout.slotB header
          ∧ header.version.newerThan refused.board.activeVersion = true
          ∧ (header.entryPoint = 0 ∨ header.size ≠ session.transfer.totalSize
            ∨ session.accepts header = false) := by
  intro session
  have hrefused := refused_of_finalize hfinalize he
  -- The transfer had the update slot for itself, so nothing is pending.
  have hreserved : ((opened config accepts board).steps acts).Reserved :=
    reserved_steps horderly (reserved_opened config accepts board)
  have hreceiving : ((opened config accepts board).steps acts).session.phase.receiving = true := by
    rw [hrefused.phase_eq]
    rfl
  obtain ⟨_, hpending⟩ := hreserved hreceiving
  -- The refusal has released the slot and changed nothing that the boot loader looks at.
  obtain ⟨after, hsame, hboard⟩ := hrefused.same
  have hcells : refused.board.flash.cells
      = ((opened config accepts board).steps acts).board.flash.cells := by
    rw [hboard]
    exact hsame.cells_eq
  have hloader : refused.board.loader
      = ((opened config accepts board).steps acts).board.unlocked.loader := by
    rw [hboard, Board.unlocked, hsame.loader_eq]
    rfl
  have hruns := runsUpdate_iff hrefused.not_receiving (by rw [hloader]; rfl)
    (by rw [hloader]; exact hactive) (by rw [hloader]; exact hpending)
  rw [hruns]
  constructor
  · -- An image that runs is one that was refused, so its reasons are those of `of_holdsImage`.
    rintro ⟨header, hholds, hnewer⟩
    rw [hloader] at hholds
    have hreasons := hrefused.rejects.of_holdsImage (hholds.of_cells_eq hcells)
    exact ⟨hreasons.1, header, by rw [hloader]; exact hholds, hnewer, hreasons.2⟩
  · rintro ⟨_, header, hholds, hnewer, _⟩
    exact ⟨header, hholds, hnewer⟩

/-- An application that consents to nothing is sent an image from the factory. -/
def vetoing (version : Version) : Link .tiny :=
  (opened {} (fun _ => false) Factory.board).steps (Factory.sending version)

/-- A newer image that the application did not consent to runs all the same, at the next boot. -/
theorem vetoed_newer_runs :
    (vetoing ⟨1, 1, 0⟩).board.loader.context.active = .a
      ∧ ∃ refused, effect finalize (vetoing ⟨1, 1, 0⟩) = (.error .validationFailed, refused)
        ∧ ∃ entry after, effect Board.boot refused.board = (.ok entry, after)
          ∧ entry.slot = Factory.layout.slotB := by
  -- The run is evaluated once, as a Boolean, and then read off case by case.
  have hrun : (decide ((vetoing ⟨1, 1, 0⟩).board.loader.context.active = .a)
      && match effect finalize (vetoing ⟨1, 1, 0⟩) with
        | (.error .validationFailed, refused) =>
          match effect Board.boot refused.board with
          | (.ok entry, _) => entry.slot == Factory.layout.slotB
          | (.error _, _) => false
        | _ => false) = true := by decide +kernel
  rw [Bool.and_eq_true, decide_eq_true_iff] at hrun
  obtain ⟨hactive, hboot⟩ := hrun
  refine ⟨hactive, ?_⟩
  rcases hr : effect finalize (vetoing ⟨1, 1, 0⟩) with ⟨answer, refused⟩
  rw [hr] at hboot
  split at hboot
  · rename_i heq
    cases heq
    refine ⟨_, rfl, ?_⟩
    rcases hentry : effect Board.boot refused.board with ⟨_ | entry, after⟩
    · rw [hentry] at hboot
      cases hboot
    · rw [hentry] at hboot
      exact ⟨entry, after, rfl, beq_iff_eq.mp hboot⟩
  · cases hboot

/-- One that is no newer than the image from the factory does not. -/
theorem vetoed_older_rests :
    ∃ refused, effect finalize (vetoing ⟨1, 0, 0⟩) = (.error .validationFailed, refused)
      ∧ ∀ acts, (∀ act ∈ acts, act.Waits) → ¬ (refused.steps acts).board.RunsUpdate := by
  have hrun : (decide ((vetoing ⟨1, 0, 0⟩).board.loader.context.active = .a)
      && match effect finalize (vetoing ⟨1, 0, 0⟩) with
        | (.error .validationFailed, refused) =>
          !(refused.board.stored .b).version.newerThan refused.board.activeVersion
        | _ => false) = true := by decide +kernel
  rw [Bool.and_eq_true, decide_eq_true_iff] at hrun
  obtain ⟨hactive, hversion⟩ := hrun
  rcases hr : effect finalize (vetoing ⟨1, 0, 0⟩) with ⟨answer, refused⟩
  rw [hr] at hversion
  split at hversion
  · rename_i heq
    cases heq
    have horderly : ∀ act ∈ Factory.sending ⟨1, 0, 0⟩, act.Orderly := by decide
    refine ⟨_, rfl, fun acts hwaits hruns => ?_⟩
    -- An image that can run would be newer, and the one that is stored is not.
    unfold vetoing at hr hactive
    have hiff := refused_runs_iff {} (fun _ => false) Factory.board horderly hactive hr (.inl rfl)
    obtain ⟨_, header, hholds, hnewer, _⟩ := hiff.mp ⟨acts, hwaits, hruns⟩
    have hstored : refused.board.stored .b = header := hholds.decode_eq
    rw [hstored, hnewer] at hversion
    cases hversion
  · cases hversion

end Link

end DualSlot
