import DualSlot.Proofs.Bench.Ownership
import DualSlot.Proofs.TwoRuns
import DualSlot.Proofs.Update.Rejection

/-!
# Runs without their rejected calls

Duplicates, chunks out of order, empty or overlong ones, attempts to finalize too early: a session
rejects such calls, and nothing comes of them. Any number of sessions may share the board, next to calls
on the boot loader and on the flash. Then `Bench.rejected_leave_no_trace` says that

* a rejected call leaves its session and the board as they were, and is not heard of;
* all rejected calls of a run may be left out at once: every other call is answered and reported as
  before, and the run ends in the same state.

A call on a session moves that session to the front of the list, so the states of the two runs are equal
up to the order of their sessions (`Bench.Same`). Nobody can tell such states apart, which is checked
for one call at a time (`blind_step`).
-/

namespace DualSlot.Bench

open DualSlot.Action

variable {g : Geometry} {bench bench' : Bench g} {name : String} {α : Type}

/-! ## States that are the same -/

/-- The same board, and the same session under every name. -/
structure Same (bench bench' : Bench g) : Prop where
  board_eq : bench'.board = bench.board
  client?_eq : ∀ name, bench'.client? name = bench.client? name

/-- Every state is the same as itself. -/
theorem Same.refl (bench : Bench g) : Same bench bench := ⟨rfl, fun _ => rfl⟩

theorem Same.symm (h : Same bench bench') : Same bench' bench :=
  ⟨h.board_eq.symm, fun name => (h.client?_eq name).symm⟩

theorem Same.trans {bench'' : Bench g} (h : Same bench bench') (h' : Same bench' bench'') :
    Same bench bench'' :=
  ⟨h'.board_eq.trans h.board_eq, fun name => (h'.client?_eq name).trans (h.client?_eq name)⟩

/-- Both runs may be told apart by nothing, and none is ever lost. -/
abbrev Blind (x : BenchAction g α) : Prop := Respects Same (fun _ => False) x

/-- After a session is put on the bench, its name finds it and all other names find what they did. -/
theorem client?_put (bench : Bench g) (name other : String) (client : Client) :
    (bench.put name client).client? other
      = if other = name then some client else bench.client? other := by
  unfold client?
  rw [put_eq, List.lookup_cons]
  split
  · rename_i h
    rw [if_pos (beq_iff_eq.mp h)]
  · rename_i h
    have hne : other ≠ name := beq_eq_false_iff_ne.mp h
    rw [if_neg hne, lookup_without hne]

/-- After a session is removed, its name finds nothing and all other names find what they did. -/
theorem client?_remove (bench : Bench g) (name other : String) :
    (bench.remove name).client? other = if other = name then none else bench.client? other := by
  show (without name bench.clients).lookup other = _
  -- The name is filtered out of the list.
  by_cases hname : other = name
  · rw [if_pos hname, hname, List.lookup_eq_none_iff]
    intro entry hentry
    have hne := (List.mem_filter.mp hentry).2
    exact bne_iff_ne.mpr (bne_iff_ne.mp hne).symm
  · rw [if_neg hname, lookup_without hname]
    rfl

/-- Putting the same session on both benches keeps them the same. -/
theorem Same.put (h : Same bench bench') (name : String) (client : Client) :
    Same (bench.put name client) (bench'.put name client) where
  board_eq := h.board_eq
  client?_eq other := by rw [client?_put, client?_put, h.client?_eq]

theorem Same.remove (h : Same bench bench') (name : String) :
    Same (bench.remove name) (bench'.remove name) where
  board_eq := h.board_eq
  client?_eq other := by rw [client?_remove, client?_remove, h.client?_eq]

theorem Same.withBoard (h : Same bench bench') (board : Board g) :
    Same ⟨board, bench.clients⟩ ⟨board, bench'.clients⟩ :=
  ⟨rfl, h.client?_eq⟩

/-! ## Steps from such states -/

/-- A call on the board reads nothing of the sessions. -/
theorem blind_onBoard {ε : Type} (wrap : ε → BenchError) (x : Action BoardEvent (Board g) ε α) :
    Blind (onBoard wrap x) where
  lost_stays _ h := h
  same bench bench' h _ := by
    -- The boards are equal, so the call answers and reports the same.
    obtain ⟨board, clients⟩ := bench
    obtain ⟨board', clients'⟩ := bench'
    obtain rfl : board' = board := h.board_eq
    exact ⟨rfl, rfl, h.withBoard (x board').state⟩

/-- A call on a session reads that session and the board, and these are the same on both benches. -/
theorem blind_onSession (name : String) (x : SessionAction g α) : Blind (onSession name x) where
  lost_stays _ h := h
  same bench bench' h _ := by
    have hclient := h.client?_eq name
    unfold onSession
    rw [hclient]
    cases bench.client? name with
    | none => exact ⟨rfl, rfl, h⟩
    -- The session is moved to the front on both benches, from wherever it was.
    | some client =>
      obtain ⟨board, clients⟩ := bench
      obtain ⟨board', clients'⟩ := bench'
      obtain rfl : board' = board := h.board_eq
      dsimp only
      rcases x ⟨client.session, board'⟩ with ⟨r, ⟨session, after⟩, events⟩
      exact ⟨rfl, rfl, (h.withBoard after).put name { client with session }⟩

theorem blind_client? (name : String) :
    Blind (Action.look fun bench : Bench g => bench.client? name) :=
  respects_look fun _ _ h => h.client?_eq name

theorem blind_put (name : String) (client : Client) :
    Blind (Action.change fun bench : Bench g => bench.put name client) :=
  respects_change (fun _ h => h) fun _ _ h => h.put name client

theorem blind_remove (name : String) :
    Blind (Action.change fun bench : Bench g => bench.remove name) :=
  respects_change (fun _ h => h) fun _ _ h => h.remove name

/-- Closing a session gives nothing away of the order of the list. -/
theorem blind_closeSession (name : String) (inUse : Bool) :
    Blind (closeSession name inUse : BenchAction g Bool) := by
  unfold closeSession
  refine (respects_look fun _ _ h => h.client?_eq name).bind fun found => Respects.ite ?_ ?_
  · exact (blind_onSession name (Link.close inUse)).bind fun _ => (blind_remove name).bind fun _ =>
      respects_pure true
  · exact respects_pure false

/-- No call can tell the two benches apart. -/
theorem blind_step (call : BenchCall) : Blind (step call : BenchAction g Answer) := by
  cases call with
  | flash call => exact blind_onBoard BenchError.flash (Board.onFlash id call.run)
  | boot call => exact blind_onBoard BenchError.boot call.run
  | session name call => exact blind_onSession name _
  | openSession name config listens rejects =>
    exact (((blind_closeSession name false).bind fun _ => (respects_say _).bind fun _ =>
      blind_put name _).bind fun _ => respects_pure _)
  | closeSession name inUse => exact (blind_closeSession name inUse).bind fun _ => respects_pure _
  | setVerdict name rejects =>
    refine Respects.bind ?_ fun _ => respects_pure _
    refine (blind_client? name).bind fun found => ?_
    cases found with
    | none => exact respects_fail _
    | some client =>
      exact Respects.ite ((respects_say _).bind fun _ => blind_put name _) (respects_pure ())

/-! ## Sessions between two calls -/

/-- Something that holds of every session on the bench. -/
def Sessions (I : Session → Prop) (bench : Bench g) : Prop :=
  ∀ entry ∈ bench.clients, I entry.2.session

section Sessions

variable {I : Session → Prop}

/-- What holds of every session holds of the one under a name. -/
theorem Sessions.of_client? (h : bench.Sessions I) {client : Client}
    (hclient : bench.client? name = some client) : I client.session :=
  h _ (mem_of_client? hclient)

/-- What holds of every session holds of those that are left after one is closed. -/
theorem Sessions.without (h : bench.Sessions I) (name : String) (board : Board g) :
    Sessions I ⟨board, without name bench.clients⟩ :=
  fun entry hentry => h entry (List.mem_filter.mp hentry).1

theorem Sessions.put (h : bench.Sessions I) (name : String) {client : Client}
    (hclient : I client.session) (board : Board g) :
    Sessions I ⟨board, (name, client) :: Bench.without name bench.clients⟩ := by
  intro entry hentry
  rcases List.mem_cons.mp hentry with rfl | hentry
  · exact hclient
  · exact h.without name board entry hentry

/-- A session that is closed is gone, and the others are as they were. -/
theorem sessions_closeSession (name : String) (inUse : Bool) :
    Keeps (Sessions (g := g) I) (closeSession name inUse) := by
  intro bench h
  cases hclient : bench.client? name with
  | none =>
    rw [effect_closeSession_of_none hclient]
    exact h
  | some client =>
    rw [effect_closeSession hclient]
    exact h.without name _

/-- What holds of a session before its first transfer, whatever the application thinks of images, and
survives every call, holds of all sessions on a bench. -/
theorem sessions_step (hfresh : ∀ config accepts, I (.fresh config accepts))
    (hverdict : ∀ s accepts, I s → I { s with accepts })
    (hcall : ∀ call : SessionCall,
      Keeps (fun link : Link g => I link.session) (call.run : SessionAction g Answer))
    (call : BenchCall) : Keeps (Sessions (g := g) I) (step call) := by
  cases call with
  -- Calls on the flash and on the boot loader leave the sessions alone.
  | flash call => exact fun bench h => h
  | boot call => exact fun bench h => h
  -- Only the session that is called changes.
  | session name call =>
    intro bench h
    unfold step
    cases hclient : bench.client? name with
    | none =>
      rw [effect_onSession_of_none hclient]
      exact h
    | some client =>
      rw [effect_onSession hclient]
      refine h.put name ?_ _
      exact hcall call ⟨client.session, bench.board⟩ (h.of_client? hclient)
  -- A session that is opened replaces the one of its name, and is fresh.
  | openSession name config listens rejects =>
    refine Keeps.answering ?_ _
    refine (sessions_closeSession name false).bind fun _ => (keeps_say _).bind fun _ => ?_
    exact fun bench h => h.put name (hfresh _ _) bench.board
  | closeSession name inUse => exact (sessions_closeSession name inUse).map _
  -- A new verdict changes nothing else about the session.
  | setVerdict name rejects =>
    refine Keeps.answering (fun bench h => ?_) _
    unfold setVerdict
    rw [effect_bind, effect_look, resume_ok]
    cases hclient : bench.client? name with
    | none => exact h
    | some client =>
      dsimp only
      split
      · have hclient' : I (client.withVerdict rejects).session := hverdict _ _ (h.of_client? hclient)
        exact h.put name hclient' bench.board
      · exact h

/-- In every run, `I` holds of all sessions. -/
theorem sessions_steps (hfresh : ∀ config accepts, I (.fresh config accepts))
    (hverdict : ∀ s accepts, I s → I { s with accepts })
    (hcall : ∀ call : SessionCall,
      Keeps (fun link : Link g => I link.session) (call.run : SessionAction g Answer))
    (board : Board g) (calls : List BenchCall) : ((ofBoard board).steps calls).Sessions I :=
  steps_keeps (fun call _ => sessions_step hfresh hverdict hcall call) fun _ hentry => nomatch hentry

end Sessions

/-- What every session tells of itself fits together. -/
abbrev Consistent (bench : Bench g) : Prop := bench.Sessions Session.Consistent

/-- Every call leaves every session consistent with itself. -/
theorem consistent_step (call : BenchCall) : Keeps (Consistent (g := g)) (step call) :=
  sessions_step Session.consistent_fresh (fun _ _ h => { h with }) Link.consistent_sessionCall call

/-- After every run, each session is consistent with itself. -/
theorem consistent_steps (board : Board g) (calls : List BenchCall) :
    ((ofBoard board).steps calls).Consistent :=
  sessions_steps Session.consistent_fresh (fun _ _ h => { h with }) Link.consistent_sessionCall board
    calls

/-! ## Rejected calls -/

/-- The session that a call is made on rejects it. -/
def Rejects (bench : Bench g) : BenchCall → Prop
  | .session name call =>
    ∃ client ∈ bench.client? name, Link.RejectsCall ⟨client.session, bench.board⟩ call
  | _ => False

instance (bench : Bench g) : (call : BenchCall) → Decidable (bench.Rejects call)
  | .session name call => inferInstanceAs
      (Decidable (∃ client ∈ bench.client? name, Link.RejectsCall ⟨client.session, bench.board⟩ call))
  | .flash _ | .boot _ | .openSession .. | .closeSession .. | .setVerdict .. => .isFalse id

/-- The two benches reject the same calls. -/
theorem Same.rejects_iff (h : Same bench bench') (call : BenchCall) :
    bench'.Rejects call ↔ bench.Rejects call := by
  unfold Rejects
  split
  · rw [h.client?_eq, h.board_eq]
  · exact Iff.rfl

/-- After a rejected call the bench is the same. -/
theorem same_of_rejects (hconsistent : bench.Consistent) {call : BenchCall} (h : bench.Rejects call) :
    Same bench (step call bench).state := by
  unfold Rejects at h
  split at h
  · rename_i name sessionCall
    obtain ⟨client, hclient, hrejects⟩ := h
    -- The session and the board are left alone, so only the order of the list may change.
    have halone :=
      Link.leavesAlone_of_rejectsCall (hconsistent.of_client? hclient).settled hrejects
    have heffect := effect_onSession hclient (sessionCall.run : SessionAction g Answer)
    have hlink : (effect (sessionCall.run : SessionAction g Answer)
        ⟨client.session, bench.board⟩).2 = ⟨client.session, bench.board⟩ := halone.state_eq
    have hstate : (step (.session name sessionCall) bench).state
        = ⟨bench.board, (name, client) :: without name bench.clients⟩ := by
      show (effect (onSession name sessionCall.run) bench).2 = _
      rw [heffect, hlink]
    rw [hstate]
    refine ⟨rfl, fun other => ?_⟩
    show (bench.put name client).client? other = _
    rw [client?_put]
    -- The session that was called is found as it was, and any other one too.
    split
    · rename_i hname
      rw [hname]
      exact hclient.symm
    · rfl
  · exact h.elim

/-! ## Transcripts -/

/-- A call of a run: what it answered and reported, and whether it was rejected. -/
structure Entry where
  call : BenchCall
  result : Except BenchError Answer
  events : List BenchEvent
  rejected : Bool

/-- The calls of a run, one by one. -/
def transcript (bench : Bench g) : List BenchCall → List Entry
  | [] => []
  | call :: rest =>
    { call
      result := (step call bench).result
      events := (step call bench).events
      rejected := decide (bench.Rejects call) } :: transcript (step call bench).state rest

/-- The calls of a run that were not rejected. -/
def heeded (bench : Bench g) (calls : List BenchCall) : List Entry :=
  (bench.transcript calls).filter fun entry => !entry.rejected

/-- A rejected call at the head of a run is dropped from what was heeded. -/
theorem heeded_cons_of_rejects {call : BenchCall} (h : bench.Rejects call) (rest : List BenchCall) :
    bench.heeded (call :: rest) = (step call bench).state.heeded rest := by
  unfold heeded
  rw [transcript, List.filter_cons_of_neg]
  simp [h]

/-- Any other call at the head of a run is heeded, with its answer and its reports. -/
theorem heeded_cons_of_not_rejects {call : BenchCall} (h : ¬ bench.Rejects call)
    (rest : List BenchCall) :
    bench.heeded (call :: rest)
      = { call
          result := (step call bench).result
          events := (step call bench).events
          rejected := false } :: (step call bench).state.heeded rest := by
  unfold heeded
  rw [transcript, List.filter_cons_of_pos, decide_eq_false h]
  simp [h]

/-- Leaving out the rejected calls of a run leaves the other ones as they were, on every bench that is
the same. -/
theorem transcript_heeded (hconsistent : bench.Consistent) (calls : List BenchCall)
    (h : Same bench bench') :
    bench'.transcript ((bench.heeded calls).map Entry.call) = bench.heeded calls
      ∧ Same (bench.steps calls) (bench'.steps ((bench.heeded calls).map Entry.call)) := by
  -- By the calls. The two benches stay the same up to the order of their sessions.
  induction calls generalizing bench bench' with
  | nil => exact ⟨rfl, h⟩
  | cons call rest ih =>
    have hafter : Consistent (step call bench).state := consistent_step call bench hconsistent
    by_cases hrejects : bench.Rejects call
    · -- A rejected call is left out, and was as good as not made.
      rw [heeded_cons_of_rejects hrejects]
      exact ih hafter ((same_of_rejects hconsistent hrejects).symm.trans h)
    · -- Any other call is made in both runs, and does the same in both.
      obtain ⟨hresult, hevents, hsame⟩ := (blind_step call).same bench bench' h id
      have hrejects' : ¬ bench'.Rejects call := fun h' => hrejects ((h.rejects_iff call).mp h')
      obtain ⟨htranscript, hsteps⟩ := ih hafter hsame
      rw [heeded_cons_of_not_rejects hrejects]
      -- The call is not rejected on the other bench either, so it is heeded there as well.
      refine ⟨?_, hsteps⟩
      rw [List.map_cons, transcript, htranscript, hresult, hevents, decide_eq_false hrejects']

/-! ## Every run -/

/-- Whatever was called before: a call that a session rejects changes nothing about the session and the
board, and the application is not told. So the rejected calls of a run may be left out. All others are
answered and reported as before, none of them is rejected now, and in the end the board and every
session are the same. -/
theorem rejected_leave_no_trace (board : Board g) (calls : List BenchCall) :
    (∀ name client call, ((ofBoard board).steps calls).client? name = some client →
        Link.RejectsCall ⟨client.session, ((ofBoard board).steps calls).board⟩ call →
        Link.LeavesAlone (call.run : SessionAction g Answer)
          ⟨client.session, ((ofBoard board).steps calls).board⟩)
      ∧ (let heeded := ((ofBoard board).transcript calls).filter fun entry => !entry.rejected
        (ofBoard board).transcript (heeded.map Entry.call) = heeded
          ∧ Same ((ofBoard board).steps calls) ((ofBoard board).steps (heeded.map Entry.call))) := by
  constructor
  · -- A session in a run is settled, which a rejected call needs to leave it alone.
    intro name client call hclient hrejects
    have hconsistent := (consistent_steps board calls).of_client? hclient
    exact Link.leavesAlone_of_rejectsCall hconsistent.settled hrejects
  · have hconsistent : (ofBoard board).Consistent := consistent_steps board []
    exact transcript_heeded hconsistent calls (Same.refl _)

-- A chunk out of order, a check out of place, a duplicate, and calls that come too late.
example :
    ((ofBoard Factory.board).transcript
      [.openSession "only" {} false false,
        .session "only" (.start 84 84),
        .session "only" (.receive 1 (Factory.image ⟨1, 1, 0⟩)),
        .session "only" .validate,
        .session "only" (.receive 0 (Factory.image ⟨1, 1, 0⟩)),
        .session "only" (.receive 0 (Factory.image ⟨1, 1, 0⟩)),
        .session "only" .finalize,
        .session "only" .finalize,
        .session "only" .abort]).map Entry.rejected
      = [false, false, true, true, false, true, false, true, true] := by
  decide +kernel

end DualSlot.Bench
