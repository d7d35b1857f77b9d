import DualSlot.Proofs.Update.Mirror

/-!
# Which chunks are accepted

A chunk is well formed if it is the one that the session waits for (`Session.Expects`). Even without
faults that is not enough for it to be accepted. The last word of a chunk is filled up with erased
bytes, and where the chunk ends just before the end of the erased pages these reach into the page behind
them, which no start has erased.

`Record.accepted_iff` is the exact condition: a well-formed chunk is accepted just if what it reaches of
that page was erased before the transfer began.
-/

namespace DualSlot

namespace Session

theorem expects_iff (s : Session) (number : UInt32) (data : List UInt8) :
    s.Expects number data
      ↔ (s.phase.receiving = true ∧ number = s.transfer.nextChunk)
        ∧ 0 < data.length ∧ data.length ≤ s.transfer.chunkSize.toNat
          ∧ data.length ≤ s.transfer.remaining :=
  ⟨fun h => ⟨⟨h.receiving, h.number_eq⟩, h.length_pos, h.le_chunk, h.le_remaining⟩,
    fun h => ⟨h.1.1, h.1.2, h.2.1, h.2.2.1, h.2.2.2⟩⟩

instance (s : Session) (number : UInt32) (data : List UInt8) : Decidable (s.Expects number data) :=
  decidable_of_iff' _ (s.expects_iff number data)

end Session

namespace Link

open DualSlot.Action

variable {g : Geometry} {link : Link g} {number : UInt32} {data : List UInt8}

/-- A well-formed chunk is accepted just if it is written. -/
theorem receive_answers_iff (hexpects : link.session.Expects number data) :
    (effect (receive number data) link).1 = .ok ()
      ↔ (effect (Board.programUpdateSlot link.session.transfer.receivedBytes.toNat data)
          link.board).1 = .ok () := by
  -- Of the three ways to end, a chunk that is expected rules out the refusal.
  have houtcome := receive_outcome number data link
  generalize effect (receive number data) link = after at houtcome ⊢
  cases houtcome with
  | refused e unexpected => exact absurd hexpects unexpected
  | notWritten _ cause board written =>
    rw [written]
    exact iff_of_false (fun h => nomatch h) fun h => nomatch h
  | accepted _ board written =>
    rw [written]
    exact iff_of_true rfl rfl

end Link

namespace Mirror

open DualSlot.Action

variable {g : Geometry} {flash before : Flash g} {slot : Nat} {transfer : Transfer}
  {sent : List UInt8}

/-- From the next byte on, what a transfer finds erased is what lies in its own pages, and what was
erased behind them. -/
theorem erased_iff (h : Mirror flash slot transfer sent before) {stop : Nat}
    (hstop : stop ≤ g.capacity) :
    flash.Erased (slot + sent.length) stop ↔ before.Erased (transferEnd g slot transfer) stop := by
  -- The pages of the transfer are erased from the next byte on, and no page behind them has changed.
  have hle : slot + sent.length ≤ transferEnd g slot transfer :=
    Nat.le_trans (Nat.add_le_add_left h.length_le slot) (le_pageEnd _ g.eraseSize_pos)
  by_cases hinside : stop ≤ transferEnd g slot transfer
  · refine iff_of_true (h.erased.mono (Nat.le_refl _) hinside) fun i hlow hhigh => ?_
    omega
  · have hbehind := h.behind.mono (Nat.le_refl _) hstop
    rw [Flash.erased_append hle (by omega), Flash.erased_congr hbehind]
    exact and_iff_right h.erased

end Mirror

namespace Record

open DualSlot.Action

variable {g : Geometry}

theorem receive_answers_iff_of_mirrors {r : Record g} (hmirrors : r.Mirrors) {number : UInt32}
    {data : List UInt8} (hexpects : r.link.session.Expects number data)
    (hplan : r.link.board.flash.writePlan = none) :
    (effect (Link.receive number data) r.link).1 = .ok ()
      ↔ r.before.Erased
          (transferEnd g r.link.board.loader.layout.slotB r.link.session.transfer)
          (Board.footprintEnd g
            (r.link.board.loader.layout.slotB + r.link.session.transfer.receivedBytes.toNat)
            data.length) := by
  -- The bytes of the chunk have room. What decides is its footprint.
  have hmirror := hmirrors hexpects.receiving
  have hroom := hmirror.room
  have hlength := hmirror.length_eq
  have hle := hmirror.length_le
  have hremaining := hexpects.le_remaining
  unfold Transfer.remaining at hremaining
  have hfit : r.link.board.loader.layout.slotB + r.sent.length + data.length ≤ g.capacity := by
    omega
  rw [Link.receive_answers_iff hexpects, Board.effect_programUpdateSlot, ← hlength, if_pos hfit,
    Board.programFrom_answers_iff hplan hfit]
  exact hmirror.erased_iff (Board.footprintEnd_le hfit)

/-- Without faults a well-formed chunk is accepted just if the bytes that its last word reaches behind
the pages of the transfer were erased before that began. -/
theorem accepted_iff (config : SessionConfig) (accepts : Header → Bool) (board : Board g)
    {turns : List Turn} (hquiet : ∀ turn ∈ turns, turn.Quiet) {number : UInt32} {data : List UInt8}
    (hexpects : ((opened config accepts board).steps turns).link.session.Expects number data)
    (hplan : ((opened config accepts board).steps turns).link.board.flash.writePlan = none) :
    let r := (opened config accepts board).steps turns
    let slot := r.link.board.loader.layout.slotB
    (effect (Link.receive number data) r.link).1 = .ok ()
      ↔ r.before.Erased (transferEnd g slot r.link.session.transfer)
          (Board.footprintEnd g (slot + r.link.session.transfer.receivedBytes.toNat) data.length) :=
  receive_answers_iff_of_mirrors (mirrors_steps (mirrors_opened config accepts board) hquiet)
    hexpects hplan

/-- A transfer over the leftovers of a larger one: the first chunk leaves three bytes of the page. -/
def oddCut : List Turn :=
  [.start 32 16,
    .receive 0 (List.replicate 16 0),
    .receive 1 (List.replicate 16 0),
    .abort,
    .start 16 13,
    .receive 0 (List.replicate 13 1)]

def oddCutRecord : Record .tiny := (opened {} (fun _ => true) Factory.board).steps oddCut

/-- The chunk that is to follow is well formed and no faults are planned, but it is turned down. -/
theorem oddCut_refused :
    oddCutRecord.link.session.Expects 1 [1, 1, 1]
      ∧ oddCutRecord.link.board.flash.writePlan.isNone = true
      ∧ (effect (Link.receive 1 [1, 1, 1]) oddCutRecord.link).1.isOk = false := by
  decide +kernel

/-- Without the larger transfer the same cut is accepted. -/
def oddCutAlone : List Turn := [.start 16 13, .receive 0 (List.replicate 13 1)]

theorem oddCutAlone_accepted :
    (effect (Link.receive 1 [1, 1, 1])
      ((opened {} (fun _ => true) Factory.board).steps oddCutAlone).link).1 = .ok () := by
  have hquiet : ∀ turn ∈ oddCutAlone, turn.Quiet := by decide
  have hexpects : ((opened {} (fun _ => true) Factory.board).steps
      oddCutAlone).link.session.Expects 1 [1, 1, 1] := by decide +kernel
  have hplan : ((opened {} (fun _ => true) Factory.board).steps
      oddCutAlone).link.board.flash.writePlan.isNone = true := by decide +kernel
  exact (accepted_iff {} (fun _ => true) Factory.board hquiet hexpects
    (Option.isNone_iff_eq_none.mp hplan)).mpr (by decide +kernel)

end Record

end DualSlot
