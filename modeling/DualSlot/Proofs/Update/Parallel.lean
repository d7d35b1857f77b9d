import DualSlot.Proofs.Boot.Parallel
import DualSlot.Proofs.Update.Kept
import DualSlot.Proofs.Update.Mirror
import Mathlib.Data.List.Forall2

/-!
# Two transfers in parallel

A session looks at the numbers and the lengths of the chunks that it is sent, and not at the bytes in them.
Two transfers with chunks of the same shape (`SameShape`) therefore go the same way, chunk by chunk: what is
accepted in one is accepted in the other, and the sessions stay the same (`Record.parallel_received`).

Nothing is said of a session that fails on the way, where the flash may be left with different bytes.
-/

namespace DualSlot

/-! ## One chunk -/

/-- The same numbers, with strings of the same lengths. -/
def SameShape : List (UInt32 × List UInt8) → List (UInt32 × List UInt8) → Prop :=
  List.Forall₂ fun chunk chunk' => chunk'.1 = chunk.1 ∧ chunk'.2.length = chunk.2.length

namespace Link

open DualSlot.Action

variable {g : Geometry} {link link' : Link g} {loader : Loader g}

/-- Two links run in parallel: the session is the same, and the flashes differ only in what was received. -/
structure Parallel (loader : Loader g) (link link' : Link g) : Prop where
  session_eq : link'.session = link.session
  loader_eq : link.board.loader = loader
  loader_eq' : link'.board.loader = loader
  flash : link.board.flash.Parallel
    (loader.layout.slotB + link.session.transfer.receivedBytes.toNat) link'.board.flash

/-- As long as data may arrive, a chunk is dealt with in the same way whatever its bytes are. -/
theorem parallel_receive (number : UInt32) {data data' : List UInt8}
    (h : link.session.phase.receiving = true → link.Parallel loader link')
    (hlength : data'.length = data.length)
    (hreceiving : (effect (receive number data) link).2.session.phase.receiving = true) :
    (effect (receive number data) link).2.Parallel loader (effect (receive number data') link').2 := by
  by_cases hexpects : link.session.Expects number data
  · -- The chunk is expected by both, since the session is the same.
    obtain ⟨hsession, hloader, hloader', hflash⟩ := h hexpects.receiving
    have hexpects' : link'.session.Expects number data' := by
      rw [hsession]
      exact hexpects.of_length_eq hlength
    have houtcome := receive_outcome number data link
    generalize effect (receive number data) link = r at houtcome hreceiving ⊢
    cases houtcome with
    | refused e unexpected => exact absurd hexpects unexpected
    | notWritten _ cause board _ => cases hreceiving
    | accepted _ board written =>
      rw [← hloader] at hflash
      -- The other string can be written where this one was.
      obtain ⟨board', written', hafter⟩ :=
        hflash.programUpdateSlot (hloader'.trans hloader.symm) hlength written
      have hkept := Board.loader_programUpdateSlot link.session.transfer.receivedBytes.toNat data
        link.board
      have hkept' := Board.loader_programUpdateSlot link.session.transfer.receivedBytes.toNat data'
        link'.board
      rw [written] at hkept
      rw [written'] at hkept'
      rw [← hsession] at written'
      rw [effect_receive_of_written hexpects' written']
      exact
        { session_eq := by rw [hsession, hlength]
          loader_eq := hkept.trans hloader
          loader_eq' := hkept'.trans hloader'
          flash := by
            rw [hexpects.toNat_receivedBytes, ← Nat.add_assoc, ← hloader]
            exact hafter }
  · -- Neither session expects the chunk, so both stay where they are.
    rw [receive_of_unexpected hexpects] at hreceiving ⊢
    have hparallel := h hreceiving
    rw [receive_of_unexpected]
    · exact hparallel
    · rw [hparallel.session_eq]
      exact fun h => hexpects (h.of_length_eq hlength.symm)

end Link

/-! ## All chunks -/

namespace Record

open DualSlot.Action

variable {g : Geometry} {r r' : Record g} {loader : Loader g}
  {chunks chunks' : List (UInt32 × List UInt8)}

/-- A session that is sent some numbered strings, whatever it answers to them. -/
def received (r : Record g) (chunks : List (UInt32 × List UInt8)) : Record g :=
  r.steps (chunks.map fun chunk => .receive chunk.1 chunk.2)

/-- Chunk by chunk the two transfers stay side by side, as long as data may arrive in the first one. -/
theorem parallel_received (hshape : SameShape chunks chunks')
    (h : r.link.session.phase.receiving = true → r.link.Parallel loader r'.link)
    (hreceiving : (r.received chunks).link.session.phase.receiving = true) :
    (r.received chunks).link.Parallel loader (r'.received chunks').link := by
  -- By the chunks of the two transfers, pair by pair.
  induction hshape generalizing r r' with
  | nil => exact h hreceiving
  | @cons chunk chunk' _ _ hchunk _ ih =>
    obtain ⟨_, data⟩ := chunk
    obtain ⟨number, data'⟩ := chunk'
    obtain ⟨rfl, hlength⟩ := hchunk
    refine ih ?_ hreceiving
    rw [link_step, link_step]
    exact Link.parallel_receive number h hlength

theorem mirrors_received (h : r.Mirrors) (chunks : List (UInt32 × List UInt8)) :
    (r.received chunks).Mirrors := by
  refine mirrors_steps h fun turn hturn => ?_
  obtain ⟨chunk, _, rfl⟩ := List.mem_map.mp hturn
  trivial

theorem keptBelow_received {layout : Layout} {flash : Flash g} (h : r.link.KeptBelow layout flash)
    (chunks : List (UInt32 × List UInt8)) : (r.received chunks).link.KeptBelow layout flash := by
  induction chunks generalizing r with
  | nil => exact h
  | cons chunk rest ih =>
    refine ih ?_
    rw [link_step]
    exact Link.keptBelow_receive chunk.1 chunk.2 r.link h

end Record

end DualSlot
