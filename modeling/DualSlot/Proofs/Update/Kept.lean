import DualSlot.Proofs.Boot.Kept
import DualSlot.Proofs.Update.Outcome

/-!
# What a session never writes

Whatever a session is told to do and whatever fails, no byte below the update slot changes. Each case is
one of the outcomes of a call; `transmit` is a run of calls. A session that neither starts a transfer nor
receives chunks changes no byte at all (`unwritten_sessionCall`).
-/

namespace DualSlot

namespace Board

open DualSlot.Action

variable {g : Geometry} {layout : Layout} {flash : Flash g} {board board' : Board g}

theorem KeptBelow.sameBytes (h : KeptBelow layout flash board) (hsame : SameBytes board board') :
    KeptBelow layout flash board' where
  layout_eq := by
    rw [hsame.loader_eq]
    exact h.layout_eq
  agree := h.agree.trans (.of_cells_eq hsame.cells_eq.symm)

theorem KeptBelow.reserved (h : KeptBelow layout flash board) (length : Nat) :
    KeptBelow layout flash (Link.reservedBoard board length) where
  layout_eq := h.layout_eq
  agree := by
    have hslot : layout.slotB ≤ board.loader.layout.slotB :=
      Nat.le_of_eq (congrArg Layout.slotB h.layout_eq).symm
    exact h.agree.trans (.blank _ (.inl hslot))

theorem KeptBelow.after (h : KeptBelow layout flash board) (phase next : Phase) :
    KeptBelow layout flash (Link.boardAfter board phase next) := by
  unfold Link.boardAfter
  split
  · exact h.unlocked
  · exact h

/-- The second board has the bytes and the slots of the first one. -/
structure Unwritten (board board' : Board g) : Prop where
  cells_eq : board'.flash.cells = board.flash.cells
  layout_eq : board'.loader.layout = board.loader.layout

theorem Unwritten.refl (board : Board g) : Unwritten board board := ⟨rfl, rfl⟩

theorem Unwritten.trans {board board' board'' : Board g} (h : Unwritten board board')
    (h' : Unwritten board' board'') : Unwritten board board'' :=
  ⟨h'.cells_eq.trans h.cells_eq, h'.layout_eq.trans h.layout_eq⟩

theorem Unwritten.unlocked (h : Unwritten board board') : Unwritten board board'.unlocked :=
  ⟨h.cells_eq, h.layout_eq⟩

theorem Unwritten.after (h : Unwritten board board') (phase next : Phase) :
    Unwritten board (Link.boardAfter board' phase next) := by
  unfold Link.boardAfter
  split
  · exact h.unlocked
  · exact h

theorem SameBytes.unwritten (h : SameBytes board board') : Unwritten board board' where
  cells_eq := h.cells_eq
  layout_eq := by rw [h.loader_eq]

theorem Inspects.unwritten {ε α : Type} {x : Action BoardEvent (Board g) ε α}
    (hx : Inspects Notes x) (board : Board g) : Unwritten board (effect x board).2 := by
  obtain ⟨hcells, hlayout, _⟩ := hx.frame board
  exact ⟨hcells, hlayout⟩

theorem inspects_takeOver : Inspects Notes (Link.takeOver : BoardAction g Unit) :=
  inspects_checkUpdate.bind fun _ => inspects_switchToUpdate

end Board

namespace Link

open DualSlot.Action

variable {g : Geometry} {layout : Layout} {flash : Flash g} {board : Board g}

/-- The board of the session has the layout, and no byte below the update slot was changed. -/
def KeptBelow (layout : Layout) (flash : Flash g) (link : Link g) : Prop :=
  link.board.KeptBelow layout flash

theorem keptBelow_start (total chunk : UInt32) :
    Keeps (KeptBelow layout flash) (start total chunk) := by
  refine Keeps.of_outcome (start_outcome total chunk) fun link r outcome hlink => ?_
  -- A start that fails has erased nothing, and one that succeeds erases the update slot only.
  cases outcome with
  | refused e => exact hlink
  | slotLocked _ _ => exact hlink
  | notErased _ _ => exact hlink
  | started _ _ => exact hlink.reserved _

theorem keptBelow_receive (number : UInt32) (data : List UInt8) :
    Keeps (KeptBelow layout flash) (receive number data) := by
  refine Keeps.of_outcome (receive_outcome number data) fun link r outcome hlink => ?_
  -- Words that were written before a failure stay, but they lie in the update slot.
  have hwrite := Board.keptBelow_programUpdateSlot link.session.transfer.receivedBytes.toNat data
    link.board hlink
  cases outcome with
  | refused e _ => exact hlink
  | notWritten _ cause board written =>
    rw [written] at hwrite
    exact hwrite.unlocked
  | accepted _ board written =>
    rw [written] at hwrite
    exact hwrite

theorem keptBelow_validate : Keeps (KeptBelow layout flash) validate := by
  refine Keeps.of_outcome validate_outcome fun link r outcome hlink => ?_
  cases outcome with
  | refused e _ => exact hlink
  | failed e header board same => exact (Board.KeptBelow.sameBytes hlink same).unlocked
  | completed header board same _ => exact (Board.KeptBelow.sameBytes hlink same).unlocked

theorem keptBelow_finalize : Keeps (KeptBelow layout flash) finalize := by
  refine Keeps.of_outcome finalize_outcome fun link r outcome hlink => ?_
  cases outcome with
  | refused e => exact hlink
  | checked _ _ outcome =>
    have hchecking : KeptBelow layout flash link.checking := hlink
    cases outcome with
    | refused e _ => exact hlink
    | failed e header board same => exact (Board.KeptBelow.sameBytes hchecking same).unlocked
    | completed header board same _ => exact (Board.KeptBelow.sameBytes hchecking same).unlocked

theorem keptBelow_apply : Keeps (KeptBelow layout flash) apply := by
  refine Keeps.of_outcome apply_outcome fun link r outcome hlink => ?_
  have htake := Board.keptBelow_of_inspects Board.inspects_takeOver link.board hlink
  cases outcome with
  | refused e _ => exact hlink
  | turnedDown _ cause board taken =>
    rw [taken] at htake
    exact htake.unlocked
  | takenOver _ board taken =>
    rw [taken] at htake
    exact htake.unlocked

theorem keptBelow_abort : Keeps (KeptBelow layout flash) abort := by
  refine Keeps.of_outcome abort_outcome fun link r outcome hlink => ?_
  cases outcome with
  | refused e _ => exact hlink
  | ended _ => exact Board.KeptBelow.after hlink _ _

theorem keptBelow_poll (elapsed : UInt32) : Keeps (KeptBelow layout flash) (poll elapsed) := by
  intro link hlink
  obtain ⟨r, idle, heq⟩ := poll_outcome elapsed link
  rw [heq]
  exact hlink

theorem keptBelow_close (inUse : Bool) : Keeps (KeptBelow layout flash) (close inUse) := by
  intro link hlink
  rw [effect_close]
  exact Board.KeptBelow.after hlink _ _

theorem survives_keptBelow : Survives (KeptBelow layout flash) where
  start := keptBelow_start
  receive := keptBelow_receive
  finalize := keptBelow_finalize
  validate := keptBelow_validate
  abort := keptBelow_abort
  apply := keptBelow_apply
  poll := keptBelow_poll

/-- No call of a session changes a byte below the update slot. -/
theorem keptBelow_sessionCall (call : SessionCall) :
    Keeps (KeptBelow layout flash) (call.run : SessionAction g Answer) :=
  survives_keptBelow.sessionCall call

/-! ## Calls that write nothing -/

/-- The board of the session is as it was, but for the loader's mind. -/
def Unwritten (board : Board g) (link : Link g) : Prop := board.Unwritten link.board

theorem unwritten_of_validate {link : Link g} {r : Except UpdateError Unit × Link g}
    (houtcome : ValidateOutcome link r) (h : link.Unwritten board) : r.2.Unwritten board := by
  cases houtcome with
  | refused e _ => exact h
  | failed e header board' same => exact (Board.Unwritten.trans h same.unwritten).unlocked
  | completed header board' same _ => exact (Board.Unwritten.trans h same.unwritten).unlocked

theorem unwritten_validate : Keeps (Unwritten board) validate :=
  Keeps.of_outcome validate_outcome fun _ _ outcome h => unwritten_of_validate outcome h

theorem unwritten_finalize : Keeps (Unwritten board) finalize := by
  refine Keeps.of_outcome finalize_outcome fun link r outcome h => ?_
  cases outcome with
  | refused e => exact h
  | checked _ _ outcome => exact unwritten_of_validate outcome h

theorem unwritten_apply : Keeps (Unwritten board) apply := by
  refine Keeps.of_outcome apply_outcome fun link r outcome h => ?_
  have htake := Board.inspects_takeOver.unwritten link.board
  cases outcome with
  | refused e _ => exact h
  | turnedDown _ cause board' taken =>
    rw [taken] at htake
    exact (Board.Unwritten.trans h htake).unlocked
  | takenOver _ board' taken =>
    rw [taken] at htake
    exact (Board.Unwritten.trans h htake).unlocked

theorem unwritten_abort : Keeps (Unwritten board) abort := by
  refine Keeps.of_outcome abort_outcome fun link r outcome h => ?_
  cases outcome with
  | refused e _ => exact h
  | ended _ => exact Board.Unwritten.after h _ _

theorem unwritten_poll (elapsed : UInt32) : Keeps (Unwritten board) (poll elapsed) := by
  intro link h
  obtain ⟨r, idle, heq⟩ := poll_outcome elapsed link
  rw [heq]
  exact h

theorem unwritten_close (inUse : Bool) : Keeps (Unwritten board) (close inUse) := by
  intro link h
  rw [effect_close]
  exact Board.Unwritten.after h _ _

end Link

/-- The call may write the update slot. -/
def SessionCall.Writes : SessionCall → Prop
  | .start .. | .receive .. | .transmit .. => True
  | _ => False

instance (call : SessionCall) : Decidable call.Writes := by
  cases call <;> unfold SessionCall.Writes <;> infer_instance

namespace Link

open DualSlot.Action

variable {g : Geometry} {board : Board g}

/-- All other calls of a session write nothing. -/
theorem unwritten_sessionCall {call : SessionCall} (hcall : ¬ call.Writes) :
    Keeps (Unwritten board) (call.run : SessionAction g Answer) := by
  cases call with
  | start total chunk => exact absurd trivial hcall
  | receive number data => exact absurd trivial hcall
  | transmit total chunk data limit => exact absurd trivial hcall
  | finalize => exact unwritten_finalize.answering _
  | validate => exact unwritten_validate.answering _
  | abort => exact unwritten_abort.answering _
  | apply => exact unwritten_apply.answering _
  | poll elapsed => exact (unwritten_poll elapsed).answering _

end Link

end DualSlot
