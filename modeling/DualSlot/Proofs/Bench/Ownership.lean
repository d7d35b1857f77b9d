import DualSlot.Proofs.Bench.Exclusion
import DualSlot.Proofs.Bench.Recovery
import DualSlot.Proofs.Update.Certificate
import Mathlib.Data.List.Induction

/-!
# Whose image is applied

Several sessions share a board, and all writing is done by them. One that is complete has given the update
slot back, but keeps its header, and may apply its image at any time. By then the slot may hold the
image of another session: `apply` asks the boot loader whether there is a valid and newer image, not whose
it is.

`Bench.applied_own_or_overwritten` says when this happens. What is applied is the session's own image,
unless another session was told to write the update slot since the image was found sound.
-/

namespace DualSlot

/-- All writing is done by sessions. Reads, fault plans, the lock, and the checks and decisions of the boot
loader are free. -/
def BenchCall.Mediated : BenchCall → Prop
  | .flash call => (Turn.flash call).Quiet
  | .boot call => (Turn.boot call).Quiet
  | _ => True

instance : (call : BenchCall) → Decidable call.Mediated
  | .flash call => inferInstanceAs (Decidable (Turn.flash call).Quiet)
  | .boot call => inferInstanceAs (Decidable (Turn.boot call).Quiet)
  | .session .. | .openSession .. | .closeSession .. | .setVerdict .. => .isTrue trivial

/-- Another session than that of a name is told to write the update slot. -/
def BenchCall.WritesBeside (name : String) : BenchCall → Prop
  | .session other call => other ≠ name ∧ call.Writes
  | _ => False

instance (name : String) : (call : BenchCall) → Decidable (call.WritesBeside name)
  | .session other call => inferInstanceAs (Decidable (other ≠ name ∧ call.Writes))
  | .flash _ | .boot _ | .openSession .. | .closeSession .. | .setVerdict .. => .isFalse id

/-! ## What is taken over -/

/-- What is taken over is what the update slot holds. -/
theorem Board.takeOver_answers {g : Geometry} {board board' : Board g}
    (h : Action.effect Link.takeOver board = (.ok (), board')) :
    board.flash.HoldsImage board.loader.layout.slotB board'.loader.context.activeHeader := by
  have hcheck : board.Unwritten (Action.effect checkUpdate board).2 :=
    inspects_checkUpdate.unwritten board
  unfold Link.takeOver at h
  -- The check writes nothing, so the switch finds the slot as it was before.
  rw [Action.effect_bind] at h
  generalize Action.effect checkUpdate board = r at h hcheck
  obtain ⟨e | offer, checked⟩ := r
  · cases h
  have hswitch := switchToUpdate_outcome checked
  rw [show Action.effect switchToUpdate checked = _ from h] at hswitch
  cases hswitch with
  | switched _ _ holds noted =>
    rw [hcheck.layout_eq] at holds
    rw [noted.context_eq]
    exact holds.of_cells_eq hcheck.cells_eq

namespace Bench

open DualSlot.Action

variable {g : Geometry} {bench : Bench g} {name : String} {header : Header}

/-! ## Sessions after a call -/

/-- A session of another name is not among those that are left out. -/
theorem lookup_without {other : String} (hne : other ≠ name) (clients : List (String × Client)) :
    (without name clients).lookup other = clients.lookup other := by
  induction clients with
  | nil => rfl
  | cons entry rest ih =>
    obtain ⟨key, client⟩ := entry
    by_cases hkey : key = name
    · -- What is left out has another name.
      subst hkey
      rw [without_cons_self, ih, List.lookup_cons, beq_eq_false_iff_ne.mpr hne]
    · have hcons : without name ((key, client) :: rest) = (key, client) :: without name rest := by
        unfold without
        exact List.filter_cons_of_pos (by simpa using hkey)
      rw [hcons, List.lookup_cons, List.lookup_cons, ih]

/-- A call on a session leaves the session of another name as it is. -/
theorem client?_step_of_other {call : BenchCall} {other : String} (hcaller : call.caller? = some other)
    (hne : name ≠ other) (bench : Bench g) :
    (effect (step call) bench).2.client? name = bench.client? name := by
  unfold client?
  rw [← lookup_without hne, others_step hcaller bench, lookup_without hne]

/-- Where the session of a name comes from that is there after a call. -/
inductive Origin (bench : Bench g) (call : BenchCall) (name : String) (client : Client) : Prop
  /-- The call was made on it. -/
  | called {sessionCall : SessionCall} {before : Client} (call_eq : call = .session name sessionCall)
      (there : bench.client? name = some before)
      (link_eq : (effect (sessionCall.run : SessionAction g Answer) ⟨before.session, bench.board⟩).2
        = ⟨client.session, (effect (step call) bench).2.board⟩)
  /-- It was opened by the call. -/
  | opened (idle : client.session.phase = .idle)
  /-- It was there before, and the call was none of its own. -/
  | kept {before : Client} (beside : ∀ sessionCall, call ≠ .session name sessionCall)
      (there : bench.client? name = some before)
      (phase_eq : client.session.phase = before.session.phase)
      (transfer_eq : client.session.transfer = before.session.transfer)
      (header_eq : client.session.header = before.session.header)

/-- Every session that is there after a call has an origin before it. -/
theorem origin_of_client? {call : BenchCall} {client : Client}
    (h : (effect (step call) bench).2.client? name = some client) :
    bench.Origin call name client := by
  -- A call on a session of another name changes nothing about this one.
  by_cases hother : ∃ other, call.caller? = some other ∧ name ≠ other
  · obtain ⟨other, hcaller, hne⟩ := hother
    rw [client?_step_of_other hcaller hne] at h
    refine .kept (fun sessionCall heq => ?_) h rfl rfl rfl
    rw [heq] at hcaller
    exact hne (Option.some.inj hcaller)
  have hname : ∀ other, call.caller? = some other → name = other := fun other hcaller =>
    Decidable.not_not.mp fun hne => hother ⟨other, hcaller, hne⟩
  cases call with
  | flash call => exact .kept (fun _ heq => nomatch heq) h rfl rfl rfl
  | boot call => exact .kept (fun _ heq => nomatch heq) h rfl rfl rfl
  | session other call =>
    obtain rfl := hname other rfl
    unfold step at h
    cases hthere : bench.client? name with
    -- A call on a name without a session makes none.
    | none =>
      rw [effect_onSession_of_none hthere, hthere] at h
      cases h
    | some before =>
      refine .called rfl hthere ?_
      unfold step
      rw [effect_onSession hthere] at h ⊢
      rw [client?, List.lookup_cons_self] at h
      cases h
      rfl
  | openSession other config listens rejects =>
    obtain rfl := hname other rfl
    obtain ⟨answer, closed, hclose⟩ : ∃ answer closed,
        effect (closeSession name false) bench = (.ok answer, closed) := by
      cases hthere : bench.client? name with
      | none => exact ⟨_, _, effect_closeSession_of_none hthere false⟩
      | some before => exact ⟨_, _, effect_closeSession hthere false⟩
    unfold step openSession at h
    rw [effect_answering, effect_bind, hclose, resume_ok, effect_bind, effect_say, resume_ok] at h
    simp only [effect_change, put_eq] at h
    rw [client?, List.lookup_cons_self] at h
    cases h
    exact .opened rfl
  | closeSession other inUse =>
    obtain rfl := hname other rfl
    unfold step at h
    rw [effect_map] at h
    -- It is not there any more.
    cases hthere : bench.client? name with
    | none =>
      rw [effect_closeSession_of_none hthere, hthere] at h
      cases h
    | some before =>
      rw [effect_closeSession hthere] at h
      have hmem := List.mem_map_of_mem (f := Prod.fst) (mem_of_client? h)
      exact absurd hmem (not_mem_without bench.clients)
  | setVerdict other rejects =>
    obtain rfl := hname other rfl
    unfold step setVerdict at h
    rw [effect_answering, effect_bind, effect_look, resume_ok] at h
    cases hthere : bench.client? name with
    | none =>
      rw [hthere] at h
      cases hthere.symm.trans h
    | some before =>
      rw [hthere] at h
      dsimp only at h
      -- Only the answer of the application has changed, and it is no part of what is kept.
      split at h
      · rw [effect_bind, effect_say, resume_ok] at h
        simp only [effect_change, put_eq] at h
        rw [client?, List.lookup_cons_self] at h
        cases h
        exact .kept (fun _ heq => nomatch heq) hthere rfl rfl rfl
      · exact .kept (fun _ heq => nomatch heq) h rfl rfl rfl

/-! ## The board after a call -/

/-- A call that is no write of a session leaves the bytes where they are. -/
theorem unwritten_step {call : BenchCall} (hmediated : call.Mediated)
    (hno : ∀ name sessionCall, call = .session name sessionCall → ¬ sessionCall.Writes)
    (bench : Bench g) : bench.board.Unwritten (effect (step call) bench).2.board := by
  have hrefl := Board.Unwritten.refl bench.board
  cases call with
  | flash call => exact ⟨Record.cells_quiet_flash hmediated bench.board.flash, rfl⟩
  | boot call =>
    obtain ⟨hcells, hlayout⟩ := Record.frame_quiet_boot hmediated bench.board
    exact ⟨hcells, hlayout⟩
  | session name call =>
    exact keeps_onSession name (Link.unwritten_sessionCall (hno name call rfl)) bench hrefl
  | openSession name config listens rejects =>
    exact ((keeps_openSession name config listens rejects Link.unwritten_close).answering _)
      bench hrefl
  | closeSession name inUse =>
    exact ((keeps_closeSession name Link.unwritten_close inUse).map _) bench hrefl
  | setVerdict name rejects => exact ((keeps_setVerdict name rejects).answering _) bench hrefl

/-- No session moves the slots. -/
theorem layout_step {call : BenchCall} (hmediated : call.Mediated) (bench : Bench g) :
    (effect (step call) bench).2.board.loader.layout = bench.board.loader.layout := by
  by_cases hwrites : ∃ name sessionCall, call = .session name sessionCall ∧ sessionCall.Writes
  · obtain ⟨name, sessionCall, rfl, _⟩ := hwrites
    -- A session that writes leaves the slots where they are.
    have hkept := keeps_onSession name (Link.keptBelow_sessionCall sessionCall) bench
      ⟨rfl, Flash.AgreeOn.refl bench.board.flash⟩
    exact hkept.layout_eq
  · refine (unwritten_step hmediated (fun name sessionCall heq hcall => ?_) bench).layout_eq
    exact hwrites ⟨name, sessionCall, heq, hcall⟩

/-! ## Complete sessions -/

/-- The session of a name is complete with a header. -/
def Completes (bench : Bench g) (name : String) (header : Header) : Prop :=
  ∃ client, bench.client? name = some client ∧ client.session.phase = .complete
    ∧ client.session.header = some header

/-- The update slot holds the image of a header. -/
def Holds (bench : Bench g) (header : Header) : Prop :=
  bench.board.flash.HoldsImage bench.board.loader.layout.slotB header

/-- All sessions have certificates, but any image may be lost. -/
def Vetted (bench : Bench g) : Prop :=
  ∀ name client, bench.client? name = some client →
    Link.Certified (fun _ => True) ⟨client.session, bench.board⟩

/-- All sessions stay vetted: the caller by its own calls, the others because nothing of theirs
changed. -/
theorem Vetted.step (h : bench.Vetted) {call : BenchCall} (hmediated : call.Mediated) :
    Vetted (effect (step call) bench).2 := by
  intro name client hclient
  cases origin_of_client? hclient with
  | called _ there link_eq =>
    rw [← link_eq]
    exact Link.certified_sessionCall _ _ (h name _ there)
  | opened idle => exact Link.certified_of_over (.inl idle) _
  | kept _ there phase_eq transfer_eq header_eq =>
    -- The bytes may be lost to the caller, which a vetted session allows for.
    obtain ⟨hsettled, hroom, hholds⟩ := h name _ there
    refine ⟨?_, ?_, ?_⟩
    · rw [phase_eq]
      exact hsettled
    · rw [phase_eq, transfer_eq, layout_step hmediated]
      exact hroom
    · rw [phase_eq, header_eq]
      intro hcomplete
      obtain ⟨header, hheader, _⟩ := hholds hcomplete
      exact ⟨header, hheader, .inl trivial⟩

/-- All sessions of a run are vetted. -/
theorem vetted_steps {board : Board g} {calls : List BenchCall}
    (hmediated : ∀ call ∈ calls, call.Mediated) : ((ofBoard board).steps calls).Vetted := by
  refine steps_keeps (I := Vetted) (fun call hcall _ h => h.step (hmediated call hcall)) ?_
  -- There is no session to begin with.
  intro name client hclient
  cases hclient

/-- A session that is complete over another image was so before the call, with the same header. And if its
image was still there before, then another session was told to write. -/
theorem completes_before (h : bench.Vetted) {call : BenchCall} (hmediated : call.Mediated)
    (hcompletes : Completes (effect (step call) bench).2 name header)
    (hlost : ¬ Holds (effect (step call) bench).2 header) :
    bench.Completes name header ∧ (bench.Holds header → call.WritesBeside name) := by
  obtain ⟨client, hclient, hcomplete, hheader⟩ := hcompletes
  cases origin_of_client? hclient with
  -- A session that was just opened is idle and not complete.
  | opened idle => cases idle.symm.trans hcomplete
  | kept beside there phase_eq _ header_eq =>
    -- The session was complete before, and if its image was there, somebody else wrote over it.
    refine ⟨⟨_, there, phase_eq ▸ hcomplete, header_eq ▸ hheader⟩, fun hholds => ?_⟩
    by_cases hwrites : ∃ other sessionCall, call = .session other sessionCall ∧ sessionCall.Writes
    · obtain ⟨other, sessionCall, rfl, hcall⟩ := hwrites
      refine ⟨fun heq => ?_, hcall⟩
      exact beside sessionCall (by rw [heq])
    · -- Otherwise the image would still be there.
      have hsame := unwritten_step hmediated
        (fun other sessionCall heq hcall => hwrites ⟨other, sessionCall, heq, hcall⟩) bench
      refine absurd ?_ hlost
      unfold Holds
      rw [hsame.layout_eq]
      exact hholds.of_cells_eq hsame.cells_eq.symm
  | called call_eq there link_eq =>
    rename_i sessionCall before
    -- Follow the certificate of the session, with this image lost if it was gone before.
    have hcertified : Link.Certified (fun header => bench.Completes name header ∧ ¬ bench.Holds header)
        ⟨before.session, bench.board⟩ := by
      obtain ⟨hsettled, hroom, hholds⟩ := h name before there
      refine ⟨hsettled, hroom, fun hphase => ?_⟩
      obtain ⟨found, hfound, _⟩ := hholds hphase
      by_cases hstill : bench.Holds found
      · exact ⟨found, hfound, .inr hstill⟩
      · exact ⟨found, hfound, .inl ⟨⟨before, there, hphase, hfound⟩, hstill⟩⟩
    have hafter := Link.certified_sessionCall sessionCall _ hcertified
    rw [link_eq] at hafter
    obtain ⟨found, hfound, hgone | hholds⟩ := hafter.holds hcomplete
    · obtain rfl : found = header := Option.some.inj (hfound.symm.trans hheader)
      exact ⟨hgone.1, fun hholds => absurd hholds hgone.2⟩
    · obtain rfl : found = header := Option.some.inj (hfound.symm.trans hheader)
      exact absurd hholds hlost

/-! ## Runs -/

/-- By the call, another session overwrites the image of a session that is complete. -/
structure Overwrites (bench : Bench g) (name : String) (header : Header) (call : BenchCall) :
    Prop where
  completes : bench.Completes name header
  holds : bench.Holds header
  writes : call.WritesBeside name
  lost : ¬ Holds (effect (step call) bench).2 header

/-- A run with one call more. -/
theorem steps_concat (bench : Bench g) (calls : List BenchCall) (call : BenchCall) :
    bench.steps (calls ++ [call]) = (effect (step call) (bench.steps calls)).2 :=
  steps_append bench calls [call]

/-- The image of a complete session gets lost in one way only. -/
theorem overwritten_of_lost {board : Board g} {calls : List BenchCall}
    (hmediated : ∀ call ∈ calls, call.Mediated)
    (hcompletes : ((ofBoard board).steps calls).Completes name header)
    (hlost : ¬ ((ofBoard board).steps calls).Holds header) :
    ∃ earlier call later, calls = earlier ++ call :: later
      ∧ ((ofBoard board).steps earlier).Overwrites name header call
      ∧ ∀ later', later' <+: later →
        ((ofBoard board).steps (earlier ++ call :: later')).Completes name header := by
  -- From the end of the run back to the call that overwrote the image.
  induction calls using List.reverseRecOn with
  | nil =>
    obtain ⟨client, hclient, _⟩ := hcompletes
    cases hclient
  | append_singleton calls call ih =>
    have hearlier : ∀ call ∈ calls, call.Mediated :=
      fun call hcall => hmediated call (List.mem_append_left _ hcall)
    have hcall : call.Mediated := hmediated call (List.mem_append_right _ List.mem_cons_self)
    have hnow := hcompletes
    rw [steps_concat] at hcompletes hlost
    obtain ⟨hbefore, hwrites⟩ := completes_before (vetted_steps hearlier) hcall hcompletes hlost
    -- Either the last call overwrote the image, or it was overwritten before.
    by_cases hholds : ((ofBoard board).steps calls).Holds header
    · refine ⟨calls, call, [], rfl, ⟨hbefore, hholds, hwrites hholds, hlost⟩, fun later' hprefix => ?_⟩
      rw [List.prefix_nil.mp hprefix]
      exact hnow
    · obtain ⟨earlier, overwriting, later, heq, hover, hsince⟩ := ih hearlier hbefore hholds
      refine ⟨earlier, overwriting, later ++ [call], ?_, hover, fun later' hprefix => ?_⟩
      · rw [heq, List.append_assoc, List.cons_append]
      · rcases List.prefix_concat_iff.mp hprefix with rfl | hshorter
        · rw [← List.cons_append, ← List.append_assoc, ← heq]
          exact hnow
        · exact hsince later' hshorter

/-- In every run in which sessions do all the writing: when a session applies an image, the active one is
its own just if this is still in the update slot. If not, then another session was told to write there,
at a time when this one was complete already. -/
theorem applied_own_or_overwritten {board : Board g} {calls : List BenchCall}
    (hmediated : ∀ call ∈ calls, call.Mediated) {answer : Answer} {after : Bench g}
    (happly : effect (step (.session name .apply)) ((ofBoard board).steps calls)
      = (.ok answer, after)) :
    ∃ header, ((ofBoard board).steps calls).Completes name header
      ∧ (after.board.loader.context.activeHeader = header
        ↔ ((ofBoard board).steps calls).Holds header)
      ∧ (after.board.loader.context.activeHeader ≠ header →
        ∃ earlier call later, calls = earlier ++ call :: later
          ∧ ((ofBoard board).steps earlier).Overwrites name header call
          ∧ ∀ later', later' <+: later →
            ((ofBoard board).steps (earlier ++ call :: later')).Completes name header) := by
  have hvetted : ((ofBoard board).steps calls).Vetted := vetted_steps hmediated
  -- All that is needed of the run: every session is vetted, and how an image gets lost.
  have hlost := fun header (h : ((ofBoard board).steps calls).Completes name header) =>
    overwritten_of_lost hmediated h
  generalize (ofBoard board).steps calls = bench at happly hvetted hlost ⊢
  unfold step at happly
  cases hclient : bench.client? name with
  | none =>
    rw [effect_onSession_of_none hclient] at happly
    cases happly
  | some client =>
    have houtcome := Link.apply_outcome ⟨client.session, bench.board⟩
    rw [effect_onSession hclient, SessionCall.run, effect_answering] at happly
    generalize effect Link.apply ⟨client.session, bench.board⟩ = r at happly houtcome
    -- Only an apply that was taken over answers.
    cases houtcome with
    | refused e _ => cases happly
    | turnedDown _ cause board _ => cases happly
    | takenOver complete taken htaken =>
      obtain ⟨header, hheader, _⟩ := (hvetted name client hclient).holds complete
      have hcompletes : bench.Completes name header := ⟨client, hclient, complete, hheader⟩
      -- What is active now is what the update slot holds.
      have hactive := Board.takeOver_answers htaken
      cases happly
      have hiff : taken.loader.context.activeHeader = header ↔ bench.Holds header :=
        ⟨fun heq => heq ▸ hactive, fun hholds => hactive.unique hholds⟩
      refine ⟨header, hcompletes, hiff, fun hne => hlost header hcompletes fun hholds => ?_⟩
      exact hne (hiff.mpr hholds)

/-- The calls that send an image of a version in the name of a session. -/
def sendingAs (name : String) (version : Version) : List BenchCall :=
  [.openSession name {} false false,
    .session name (.start 84 84),
    .session name (.receive 0 (Factory.image version))]

/-- A session brings its image to an end. Another one is opened next to it, but starts nothing. -/
def besideIdle : List BenchCall :=
  sendingAs "first" ⟨1, 1, 0⟩
    ++ [.session "first" .finalize, .openSession "second" {} false false, .session "second" .abort]

/-- A session that stays idle is no danger: the other one applies its own image. -/
theorem own_applied_besideIdle :
    ∃ header after, ((ofBoard Factory.board).steps besideIdle).Completes "first" header
      ∧ effect (step (.session "first" .apply)) ((ofBoard Factory.board).steps besideIdle)
        = (.ok .done, after)
      ∧ after.board.loader.context.activeHeader = header := by
  have hmediated : ∀ call ∈ besideIdle, call.Mediated := by decide
  have hnone : ∀ call ∈ besideIdle, ¬ call.WritesBeside "first" := by decide
  have hrun : (effect (step (.session "first" .apply))
      ((ofBoard Factory.board).steps besideIdle)).1 = .ok .done := by decide +kernel
  rcases happly : effect (step (.session "first" .apply))
      ((ofBoard Factory.board).steps besideIdle) with ⟨answer, after⟩
  rw [happly] at hrun
  obtain rfl : answer = .ok .done := hrun
  obtain ⟨header, hcompletes, _, hover⟩ := applied_own_or_overwritten hmediated happly
  refine ⟨header, after, hcompletes, rfl, Decidable.not_not.mp fun hne => ?_⟩
  -- Otherwise another session would have been told to write, and none is in this run.
  obtain ⟨earlier, call, later, heq, hoverwrites, _⟩ := hover hne
  refine hnone call ?_ hoverwrites.writes
  rw [heq]
  exact List.mem_append_right _ List.mem_cons_self

/-- The other one sends a newer image instead, and is aborted. -/
def refilling : List BenchCall :=
  sendingAs "first" ⟨1, 1, 0⟩ ++ [.session "first" .finalize]
    ++ sendingAs "second" ⟨1, 2, 0⟩ ++ [.session "second" .abort]

def refilled : Bench .tiny := (ofBoard Factory.board).steps refilling

/-- The first session then applies the image of the second one. -/
theorem foreign_applied_after_refilling :
    ∃ header after, refilled.Completes "first" header
      ∧ effect (step (.session "first" .apply)) refilled = (.ok .done, after)
      ∧ header.version = ⟨1, 1, 0⟩
      ∧ after.board.loader.context.activeHeader.version = ⟨1, 2, 0⟩
      ∧ after.board.loader.context.activeHeader ≠ header := by
  have hrun : (refilled.client? "first").any (fun first => first.session.phase == .complete
        && first.session.header.any (·.version == ⟨1, 1, 0⟩)) = true
      ∧ (effect (step (.session "first" .apply)) refilled).1 = .ok .done
      ∧ (effect (step (.session "first" .apply)) refilled).2.board.loader.context.activeHeader.version
        = ⟨1, 2, 0⟩ := by decide +kernel
  -- What is left does not depend on how the run went.
  generalize refilled = bench at hrun ⊢
  obtain ⟨hfirst, hanswer, hactive⟩ := hrun
  rcases happly : effect (step (.session "first" .apply)) bench with ⟨answer, after⟩
  rw [happly] at hanswer hactive
  obtain rfl : answer = .ok .done := hanswer
  obtain ⟨first, hfirst, hsession⟩ := (Option.any_eq_true _ _).mp hfirst
  simp only [Bool.and_eq_true, beq_iff_eq, Option.any_eq_true] at hsession
  obtain ⟨hcomplete, header, hheader, hown⟩ := hsession
  refine ⟨header, after, ⟨first, hfirst, hcomplete, hheader⟩, rfl, hown, hactive, fun heq => ?_⟩
  rw [heq, hown] at hactive
  exact absurd hactive (by decide)

end Bench

end DualSlot
