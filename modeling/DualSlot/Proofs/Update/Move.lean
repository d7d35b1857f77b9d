import DualSlot.Proofs.Boot.Move
import DualSlot.Proofs.Update.Kept
import DualSlot.Proofs.Update.Mirror

/-!
# What a device does step by step

A device is updated by one session at a time. What happens to it is a list of acts: calls of the session
and of the boot loader, faults that are planned or mended, and now and then another session in place of
the one there was.

All of it comes down to a few kinds of moves (`Link.Move`), and to the one act that is no move, the start
of a transfer (`Link.act_cases`). An invariant is checked for each of them once, and then holds in every
run (`Link.steps_keeps`).
-/

namespace DualSlot

/-! ## Acts -/

/-- What may happen to a device that is updated by one session at a time. -/
inductive Act where
  | turn (turn : Turn)
  /-- The session is closed, at a moment at which the board may be in use elsewhere, and another one is
  opened. -/
  | reopen (config : SessionConfig) (accepts : Header → Bool) (inUse : Bool := false)

/-- The turn is a call of the session itself. -/
def Turn.Calls : Turn → Prop
  | .judge _ | .flash _ | .boot _ => False
  | _ => True

namespace Act

/-- What is run on the session and the board. To close a session and to open another is one act, for a
device has one session at a time. -/
def run {g : Geometry} : Act → SessionAction g Unit
  | .turn t => t.run
  | .reopen config accepts inUse => do
    Link.close inUse
    Link.change fun _ => .fresh config accepts

/-- Nobody but the session writes the update slot, and nobody else gives it back. Reads, fault plans, the
decisions of the boot loader and its lock are free. -/
def Orderly : Act → Prop
  | .turn (.boot .unlockUpdateSlot) => False
  | .turn t => t.Quiet
  | .reopen .. => True

instance (act : Act) : Decidable act.Orderly := by
  unfold Orderly
  split <;> infer_instance

/-- The slots from which an act may fall back to slot A. A boot does so from the update slot only. -/
def FallsBack : Act → Slot → Prop
  | .turn (.boot .rollback), _ => True
  | .turn (.boot .boot), slot => slot = .b
  | _, _ => False

/-- Only two calls of the boot loader go back to slot A. -/
theorem eq_of_fallsBack {act : Act} {slot : Slot} (h : act.FallsBack slot) :
    act = .turn (.boot .rollback) ∨ act = .turn (.boot .boot) := by
  unfold FallsBack at h
  split at h
  · exact .inl rfl
  · exact .inr rfl
  · exact h.elim

/-- The act starts a transfer. -/
def Starts : Act → Prop
  | .turn (.start ..) => True
  | _ => False

instance (act : Act) : Decidable act.Starts := by
  unfold Starts
  split <;> infer_instance

end Act

namespace Link

open DualSlot.Action

variable {g : Geometry} {link link' : Link g} {fallsBack : Slot → Prop}

/-! ## Runs -/

/-- A session before its first transfer. -/
def opened (config : SessionConfig) (accepts : Header → Bool) (board : Board g) : Link g :=
  ⟨.fresh config accepts, board⟩

/-- The device after an act, whatever the act answers. -/
def after (link : Link g) (act : Act) : Link g := (effect act.run link).2

/-- The device after a run of acts. -/
def steps (link : Link g) (acts : List Act) : Link g := acts.foldl after link

/-- One run after the other. -/
theorem steps_append (link : Link g) (acts acts' : List Act) :
    link.steps (acts ++ acts') = (link.steps acts).steps acts' :=
  List.foldl_append

/-- What survives every act of a run survives the run. -/
theorem steps_keeps {I : Link g → Prop} {acts : List Act}
    (h : ∀ act ∈ acts, ∀ link : Link g, I link → I (link.after act)) (hlink : I link) :
    I (link.steps acts) := by
  -- On the list of acts, for each act begins where the last one has ended.
  induction acts generalizing link with
  | nil => exact hlink
  | cons act rest ih =>
    apply ih
    · exact fun act hact => h act (List.mem_cons_of_mem _ hact)
    · exact h act List.mem_cons_self link hlink

/-- What survives the calls of a session survives the turns that are calls. -/
theorem Survives.after_turn {I : Link g → Prop} (h : Survives I) {turn : Turn}
    (hcalls : turn.Calls) (hlink : I link) : I (link.after (.turn turn)) := by
  cases turn with
  | start total chunk => exact h.start total chunk link hlink
  | receive number data => exact h.receive number data link hlink
  | finalize => exact h.finalize link hlink
  | validate => exact h.validate link hlink
  | abort => exact h.abort link hlink
  | apply => exact h.apply link hlink
  | poll elapsed => exact h.poll elapsed link hlink
  | judge _ => exact hcalls.elim
  | flash _ => exact hcalls.elim
  | boot _ => exact hcalls.elim

/-- An act of the boot loader leaves the session alone. -/
theorem after_turn_boot (call : BootCall) (link : Link g) :
    link.after (.turn (.boot call)) = ⟨link.session, (effect call.run link.board).2⟩ := rfl

/-- A rollback is an act of the boot loader. -/
theorem after_rollback (link : Link g) :
    link.after (.turn (.boot .rollback)) = ⟨link.session, (effect Board.rollback link.board).2⟩ := by
  rw [after_turn_boot, BootCall.run, effect_answering]

/-- So is a boot. -/
theorem after_boot (link : Link g) :
    link.after (.turn (.boot .boot)) = ⟨link.session, (effect Board.boot link.board).2⟩ := by
  rw [after_turn_boot, BootCall.run, effect_map]

/-- A session that is closed gives the update slot back, if it was in flight and can. -/
theorem after_reopen (config : SessionConfig) (accepts : Header → Bool) (inUse : Bool) (link : Link g) :
    link.after (.reopen config accepts inUse)
      = ⟨.fresh config accepts,
          boardAfter link.board link.session.phase (closedPhase inUse link.session.phase)⟩ := by
  show (effect (close inUse >>= fun _ => change fun _ => .fresh config accepts) link).2 = _
  rw [effect_bind, effect_close, resume_ok, effect_change]

/-! ## Moves -/

/-- One move of a device. The session may stop receiving, but not begin to. Bytes are stored while it
receives, and then in the update slot only. The update slot is not given back as long as data may
arrive. -/
inductive Move (fallsBack : Slot → Prop) (link : Link g) : Link g → Prop
  | session {s : Session} (h : s.phase.receiving = true → link.session.phase.receiving = true) :
      Move fallsBack link ⟨s, link.board⟩
  | board {board : Board g} (h : link.board.Move fallsBack board) :
      Move fallsBack link ⟨link.session, board⟩
  | stored {board : Board g} (receiving : link.session.phase.receiving = true)
      (loader_eq : board.loader = link.board.loader)
      (agree : Flash.AgreeOn 0 link.board.loader.layout.slotB link.board.flash board.flash) :
      Move fallsBack link ⟨link.session, board⟩
  | locked : Move fallsBack link ⟨link.session, link.board.locked⟩
  | unlocked (rests : link.session.phase.receiving = false) :
      Move fallsBack link ⟨link.session, link.board.unlocked⟩

/-- Any number of moves. -/
abbrev Moves (fallsBack : Slot → Prop) : Link g → Link g → Prop :=
  Relation.ReflTransGen (Move fallsBack)

/-- What survives every move survives any number of them. -/
theorem Moves.keeps {I : Link g → Prop} (hmoves : Moves fallsBack link link')
    (hmove : ∀ {link link' : Link g}, I link → Move fallsBack link link' → I link')
    (hlink : I link) : I link' := by
  induction hmoves with
  | refl => exact hlink
  | tail _ hstep ih => exact hmove ih hstep

/-- Moves of the board are moves of the device. -/
theorem Moves.of_board {session : Session} {board board' : Board g}
    (h : board.Moves fallsBack board') : Moves fallsBack ⟨session, board⟩ ⟨session, board'⟩ := by
  induction h with
  | refl => exact .refl
  | tail _ hmove ih => exact ih.tail (.board hmove)

/-- A session that ends gives the update slot back once it has stopped receiving. -/
theorem Moves.ended {board : Board g} {session : Session}
    (h : Moves fallsBack link ⟨link.session, board⟩) (hrests : session.phase.receiving = false) :
    Moves fallsBack link ⟨session, board.unlocked⟩ := by
  -- First the session stops, and then the slot is given back.
  have hstop : Move fallsBack ⟨link.session, board⟩ ⟨session, board⟩ := by
    refine .session fun hreceiving => ?_
    rw [hrests] at hreceiving
    cases hreceiving
  exact (h.tail hstop).tail (.unlocked hrests)

/-- A session that enters a phase in which nothing arrives gives the slot back if it has held it. -/
theorem moves_boardAfter {session : Session} (hrests : session.phase.receiving = false)
    (phase next : Phase) :
    Moves fallsBack link ⟨session, boardAfter link.board phase next⟩ := by
  have hstop : Move fallsBack link ⟨session, link.board⟩ := by
    refine .session fun hreceiving => ?_
    rw [hrests] at hreceiving
    cases hreceiving
  unfold boardAfter
  split
  · exact .tail (.single hstop) (.unlocked hrests)
  · exact .single hstop

/-! ## Calls of the session -/

/-- A chunk is stored by the session that receives, which may end with it. -/
theorem moves_receive (number : UInt32) (data : List UInt8) (link : Link g) :
    Moves fallsBack link (effect (receive number data) link).2 := by
  have houtcome := receive_outcome number data link
  -- Whatever the words of the chunk do, they do it in the update slot.
  have hkept := Board.keptBelow_programUpdateSlot link.session.transfer.receivedBytes.toNat data
    link.board ⟨rfl, .refl link.board.flash⟩
  have hloader := Board.loader_programUpdateSlot link.session.transfer.receivedBytes.toNat data
    link.board
  generalize effect (receive number data) link = r at houtcome ⊢
  cases houtcome with
  | refused e _ => exact .refl
  | notWritten expected cause board written =>
    rw [written] at hkept hloader
    have hstored : Moves fallsBack link ⟨link.session, board⟩ :=
      .single (.stored expected.receiving hloader hkept.agree)
    -- A write that fails has stored a part of the chunk, and then the session ends.
    exact hstored.ended rfl
  | accepted expected board written =>
    rw [written] at hkept hloader
    have hstored : Moves fallsBack link ⟨link.session, board⟩ :=
      .single (.stored expected.receiving hloader hkept.agree)
    exact hstored.tail (.session fun _ => expected.receiving)

/-- A check reads the image and ends the session, one way or the other. -/
theorem moves_of_validate {r : Except UpdateError Unit × Link g} (h : ValidateOutcome link r) :
    Moves fallsBack link r.2 := by
  cases h with
  | refused e _ => exact .refl
  | failed e header board same =>
    have hread : Moves fallsBack link ⟨link.session, board⟩ := .single (.board (.kept same.noted))
    exact hread.ended rfl
  | completed header board same _ =>
    have hread : Moves fallsBack link ⟨link.session, board⟩ := .single (.board (.kept same.noted))
    exact hread.ended rfl

/-- To finalize is to turn to the check, and to check. -/
theorem moves_finalize (link : Link g) : Moves fallsBack link (effect finalize link).2 := by
  have houtcome := finalize_outcome link
  generalize effect finalize link = r at houtcome ⊢
  cases houtcome with
  | refused e => exact .refl
  | checked _ _ outcome =>
    have hchecking : Move fallsBack link link.checking := .session fun h => nomatch h
    exact .head hchecking (moves_of_validate outcome)

/-- To take an image over is to look for an update and to switch to it. -/
theorem moves_takeOver (board : Board g) :
    board.Moves fallsBack (effect takeOver board).2 := by
  unfold takeOver
  have hcheck : board.Moves fallsBack (effect Board.checkUpdate board).2 :=
    Board.moves_checkUpdate board
  rw [effect_bind]
  generalize effect Board.checkUpdate board = r at hcheck ⊢
  obtain ⟨e | offer, checked⟩ := r
  · exact hcheck
  · exact hcheck.trans (Board.moves_switchToUpdate checked)

/-- An apply lets the boot loader move, and gives the slot back. -/
theorem moves_apply (link : Link g) : Moves fallsBack link (effect apply link).2 := by
  have houtcome := apply_outcome link
  have htake : link.board.Moves fallsBack (effect takeOver link.board).2 :=
    moves_takeOver link.board
  generalize effect apply link = r at houtcome ⊢
  cases houtcome with
  | refused e _ => exact .refl
  | turnedDown _ cause board taken =>
    rw [taken] at htake
    exact (Moves.of_board htake).ended rfl
  | takenOver _ board taken =>
    rw [taken] at htake
    exact (Moves.of_board htake).ended rfl

/-- An abort ends the session. -/
theorem moves_abort (link : Link g) : Moves fallsBack link (effect abort link).2 := by
  have houtcome := abort_outcome link
  generalize effect abort link = r at houtcome ⊢
  cases houtcome with
  | refused e _ => exact .refl
  | ended _ => exact moves_boardAfter rfl _ _

/-- A poll sets the clock of the session. -/
theorem moves_poll (elapsed : UInt32) (link : Link g) :
    Moves fallsBack link (effect (poll elapsed) link).2 := by
  obtain ⟨answer, idle, heq⟩ := poll_outcome elapsed link
  rw [heq]
  exact .single (.session id)

/-! ## All acts -/

/-- A call on the flash that writes nothing is a move of the board. -/
theorem moves_flash {call : FlashCall} (hquiet : (Turn.flash call).Quiet) (link : Link g) :
    Moves fallsBack link (link.after (.turn (.flash call))) := by
  have hcells := Record.cells_quiet_flash hquiet link.board.flash
  exact .single (.board (.kept ⟨hcells, rfl, rfl, rfl⟩))

/-- The calls of the boot loader are moves of the board; those that write are not orderly. -/
theorem moves_boot {call : BootCall} (horderly : (Act.turn (.boot call)).Orderly) (link : Link g) :
    Moves (Act.turn (.boot call)).FallsBack link (link.after (.turn (.boot call))) := by
  rw [after_turn_boot]
  cases call with
  | checkUpdate =>
    simp only [BootCall.run, effect_map]
    exact .of_board (Board.moves_checkUpdate link.board)
  | switchToUpdate =>
    simp only [BootCall.run, effect_answering]
    exact .of_board (Board.moves_switchToUpdate link.board)
  | rollback =>
    simp only [BootCall.run, effect_answering]
    exact .of_board (Board.moves_rollback link.board trivial)
  | jump slot =>
    simp only [BootCall.run, effect_map]
    exact .of_board (Board.moves_jump slot link.board)
  | boot =>
    simp only [BootCall.run, effect_map]
    have hfalls : (Act.turn (.boot .boot)).FallsBack .b := rfl
    exact .of_board (Board.moves_boot hfalls link.board)
  | validate slot =>
    simp only [BootCall.run, effect_map]
    exact .of_board (Board.moves_of_inspects (Board.inspects_validate slot) link.board)
  | readHeader slot =>
    simp only [BootCall.run, effect_map]
    exact .of_board (Board.moves_of_inspects (Board.inspects_readHeader slot) link.board)
  | payloadCrc slot header =>
    simp only [BootCall.run, effect_map]
    exact .of_board (Board.moves_of_inspects (Board.inspects_payloadCrc slot header) link.board)
  -- The lock is taken if it is free, and otherwise nothing happens.
  | lockUpdateSlot =>
    simp only [BootCall.run, effect_answering]
    cases hlocked : link.board.loader.updateLocked with
    | true => rw [Board.effect_lockUpdateSlot_of_locked hlocked]
    | false =>
      rw [Board.effect_lockUpdateSlot_of_free hlocked]
      exact .single .locked
  | unlockUpdateSlot => exact horderly.elim
  | eraseUpdateSlot length => exact horderly.elim
  | programUpdateSlot offset data => exact horderly.elim
  | restart layout => exact horderly.elim

/-- A session that is closed stops, and gives the slot back if it can. -/
theorem moves_reopen (config : SessionConfig) (accepts : Header → Bool) (inUse : Bool)
    (link : Link g) : Moves fallsBack link (link.after (.reopen config accepts inUse)) := by
  rw [after_reopen]
  exact moves_boardAfter rfl _ _

/-- An orderly act is a number of moves, or it starts a transfer. -/
theorem act_cases {act : Act} (horderly : act.Orderly) (link : Link g) :
    Moves act.FallsBack link (link.after act)
      ∨ ∃ total chunk, act = .turn (.start total chunk) ∧ MayStart total chunk link
        ∧ link.board.loader.updateLocked = false
        ∧ effect act.run link
          = (.ok (), ⟨link.session.started total chunk, reservedBoard link.board total.toNat⟩) := by
  cases act with
  | reopen config accepts inUse => exact .inl (moves_reopen config accepts inUse link)
  | turn turn =>
    cases turn with
    | start total chunk =>
      have houtcome := start_outcome total chunk link
      show Moves _ link (effect (start total chunk) link).2 ∨ ∃ total' chunk', _ ∧ _ ∧ _
        ∧ effect (start total chunk) link = _
      generalize effect (start total chunk) link = r at houtcome ⊢
      -- A start that fails changes the session at most; only one that answers is no move.
      cases houtcome with
      | refused e => exact .inl .refl
      | slotLocked _ _ => exact .inl (.single (.session fun h => nomatch h))
      | notErased _ _ => exact .inl (.single (.session fun h => nomatch h))
      | started may free => exact .inr ⟨total, chunk, rfl, may, free, rfl⟩
    | receive number data => exact .inl (moves_receive number data link)
    | finalize => exact .inl (moves_finalize link)
    | validate => exact .inl (moves_of_validate (validate_outcome link))
    | abort => exact .inl (moves_abort link)
    | apply => exact .inl (moves_apply link)
    | poll elapsed => exact .inl (moves_poll elapsed link)
    | judge accepts => exact .inl (.single (.session id))
    | flash call => exact .inl (moves_flash horderly link)
    | boot call => exact .inl (moves_boot horderly link)

/-- An invariant that survives every move, and the start of a transfer, survives every orderly act. -/
theorem after_of_moves {I : Link g → Prop} {act : Act} (horderly : act.Orderly)
    (hmove : ∀ {link link' : Link g}, I link → Move act.FallsBack link link' → I link')
    (hstart : ∀ {link : Link g} (total chunk : UInt32), I link →
      I ⟨link.session.started total chunk, reservedBoard link.board total.toNat⟩)
    (hlink : I link) : I (link.after act) := by
  rcases act_cases horderly link with hmoves | ⟨total, chunk, _, _, _, heq⟩
  · exact hmoves.keeps hmove hlink
  · rw [after, heq]
    exact hstart total chunk hlink

/-! ## The update slot during a transfer -/

/-- While data may arrive, the update slot is locked and no update is pending. -/
def Reserved (link : Link g) : Prop :=
  link.session.phase.receiving = true →
    link.board.loader.updateLocked = true ∧ link.board.loader.context.updatePending = false

/-- Whoever receives keeps the slot through any move. -/
theorem Reserved.move (h : link.Reserved) (hmove : Move fallsBack link link') : link'.Reserved := by
  intro hreceiving
  cases hmove with
  | session hsession => exact h (hsession hreceiving)
  | board hmove =>
    obtain ⟨hlocked, hpending⟩ := h hreceiving
    obtain ⟨hlocked', hpending', _⟩ := hmove.of_locked hlocked
    exact ⟨hlocked', hpending'.trans hpending⟩
  | stored _ loader_eq _ =>
    rw [loader_eq]
    exact h hreceiving
  | locked => exact ⟨rfl, (h hreceiving).2⟩
  -- The slot is given back only by a session that does not receive.
  | unlocked rests =>
    rw [show link.session.phase.receiving = true from hreceiving] at rests
    cases rests

/-- The start of a transfer reserves the slot, and all other acts are moves. -/
theorem reserved_after {act : Act} (horderly : act.Orderly) (h : link.Reserved) :
    (link.after act).Reserved :=
  after_of_moves horderly Reserved.move (fun _ _ _ _ => ⟨rfl, rfl⟩) h

/-- Before its first transfer a session receives nothing. -/
theorem reserved_opened (config : SessionConfig) (accepts : Header → Bool) (board : Board g) :
    (opened config accepts board).Reserved :=
  fun h => nomatch h

/-- In every run, whoever receives has the update slot for himself. -/
theorem reserved_steps {acts : List Act} (horderly : ∀ act ∈ acts, act.Orderly) (h : link.Reserved) :
    (link.steps acts).Reserved :=
  steps_keeps (fun act hact _ h => reserved_after (horderly act hact) h) h

end Link

/-! ## Transfers to the device from the factory -/

namespace Factory

/-- The image of the factory in another version. -/
def image (version : Version) : List UInt8 := { header with version }.encode ++ payload

/-- The acts that send an image of a version. -/
def sending (version : Version) : List Act :=
  [.turn (.start 84 84), .turn (.receive 0 (image version))]

/-- The acts that send an image of a version and have it checked. -/
def transfer (version : Version) : List Act := sending version ++ [.turn .finalize]

/-- The device from the factory is powered on as it stands. -/
theorem powerOn_board :
    Action.effect (Board.powerOn layout) flash = (.ok board.loader, board.flash) := rfl

end Factory

end DualSlot
