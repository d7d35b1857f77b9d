import DualSlot.Proofs.Bench.Step
import DualSlot.Proofs.Boot.Kept
import DualSlot.Proofs.Update.Lock

/-!
# One session at a time

Any number of sessions share a board. They exclude each other by the lock of the update slot:
`Bench.Exclusive` says that at most one session receives data, and that the lock is held just if one
does.

There are two ways to lose it. The lock has no owner, and `apply` gives it back without having taken it:
a session that applies its image intrudes on one that receives data (`Bench.Intrudes`). And a session that is
closed while the board is in use elsewhere cannot give the lock back, and leaves it behind for nobody
(`Bench.Strands`). Exclusion holds in all runs in which neither happens, and fails in all others
(`exclusive_iff_no_breach`).
-/

namespace DualSlot

/-- The call does not touch the lock but through a session. -/
def BenchCall.LeavesLock : BenchCall → Prop
  | .boot .lockUpdateSlot | .boot .unlockUpdateSlot | .boot (.restart _) => False
  | _ => True

instance (call : BenchCall) : Decidable call.LeavesLock := by
  unfold BenchCall.LeavesLock
  split <;> infer_instance

/-- The session that a call is made on. -/
def BenchCall.caller? : BenchCall → Option String
  | .flash _ | .boot _ => none
  | .session name _ | .openSession name .. | .closeSession name _ | .setVerdict name _ => some name

namespace Bench

open DualSlot.Action

variable {g : Geometry} {bench : Bench g} {name : String}

/-! ## Exclusion -/

/-- The number of sessions that receive data. -/
def receivers (clients : List (String × Client)) : Nat :=
  clients.countP fun entry => entry.2.session.phase.receiving

/-- At most one session receives data, and the update slot is locked just if one does. -/
structure Exclusive (bench : Bench g) : Prop where
  at_most_one : receivers bench.clients ≤ 1
  locked_iff : bench.board.loader.updateLocked = true ↔ receivers bench.clients = 1

/-- Exclusion as an equation: the receivers are as many as the lock says. -/
theorem exclusive_iff (bench : Bench g) :
    bench.Exclusive ↔ receivers bench.clients = bench.board.loader.updateLocked.toNat := by
  -- A number that is at most one, and one just if the lock is held, is the lock as a number.
  constructor
  · intro h
    have hmost := h.at_most_one
    cases hlocked : bench.board.loader.updateLocked with
    | true => exact h.locked_iff.mp hlocked
    | false =>
      have hnot : receivers bench.clients ≠ 1 := fun hone => by
        rw [h.locked_iff.mpr hone] at hlocked
        cases hlocked
      simp only [Bool.toNat_false]
      omega
  · intro h
    constructor
    · rw [h]
      exact Bool.toNat_le _
    · rw [h]
      cases bench.board.loader.updateLocked <;> simp

instance (bench : Bench g) : Decidable bench.Exclusive :=
  decidable_of_iff' _ bench.exclusive_iff

/-- The session of a name receives data. -/
def Receives (bench : Bench g) (name : String) : Prop :=
  ∃ client, bench.client? name = some client ∧ client.session.phase.receiving = true

/-- A session applies its image while another one receives data. -/
def Intrudes (bench : Bench g) : BenchCall → Prop
  | .session name .apply =>
    ∃ client, bench.client? name = some client ∧ client.session.phase = .complete
      ∧ bench.board.loader.updateLocked = true
  | _ => False

/-- A session that receives data is closed while the board is in use elsewhere, and leaves its lock
behind. -/
def Strands (bench : Bench g) : BenchCall → Prop
  | .closeSession name inUse => inUse = true ∧ bench.Receives name
  | _ => False

/-- A call after which sessions do not exclude each other any more. -/
def Breaches (bench : Bench g) (call : BenchCall) : Prop := bench.Intrudes call ∨ bench.Strands call

/-! ## Sessions by name -/

/-- Every name stands for one session, and no session is in the middle of a call. -/
structure Tidy (bench : Bench g) : Prop where
  names_nodup : (bench.clients.map (·.1)).Nodup
  settled : ∀ entry ∈ bench.clients, entry.2.session.phase.settled = true

/-- Without a session of the name there is nothing to leave out. -/
theorem without_of_not_mem {clients : List (String × Client)}
    (h : name ∉ clients.map (·.1)) : without name clients = clients := by
  apply List.filter_eq_self.mpr
  intro entry hentry
  have hne : entry.1 ≠ name := fun heq => h (heq ▸ List.mem_map_of_mem hentry)
  simpa using hne

/-- The session in front is left out with all others of its name. -/
@[simp] theorem without_cons_self (client : Client) (clients : List (String × Client)) :
    without name ((name, client) :: clients) = without name clients := by
  unfold without
  rw [List.filter_cons_of_neg]
  simp

/-- What was left out is not left out once more. -/
@[simp] theorem without_without (clients : List (String × Client)) :
    without name (without name clients) = without name clients := by
  unfold without
  rw [List.filter_filter]
  simp

/-- No session of a name that was left out is left. -/
theorem not_mem_without (clients : List (String × Client)) :
    name ∉ (without name clients).map (·.1) := by
  unfold without
  simp

/-- A session of a name stands between sessions of other names. -/
theorem split_of_client? {client : Client} (hnodup : (bench.clients.map (·.1)).Nodup)
    (h : bench.client? name = some client) :
    ∃ before after, bench.clients = before ++ (name, client) :: after
      ∧ without name bench.clients = before ++ after := by
  obtain ⟨before, after, hclients, _⟩ := List.lookup_eq_some_iff.mp h
  rw [hclients, List.map_append, List.map_cons] at hnodup
  obtain ⟨_, htail, hdisjoint⟩ := List.nodup_append.mp hnodup
  -- The names are distinct, so the session that was found is the only one of its name.
  have hbefore : name ∉ before.map (·.1) := fun hmem =>
    hdisjoint name hmem name List.mem_cons_self rfl
  have hafter : name ∉ after.map (·.1) := (List.nodup_cons.mp htail).1
  refine ⟨before, after, hclients, ?_⟩
  rw [hclients]
  unfold without
  rw [List.filter_append]
  -- Neither part has a session of the name.
  have hfirst := without_of_not_mem hbefore
  have hsecond := without_of_not_mem hafter
  unfold without at hfirst hsecond
  rw [hfirst, List.filter_cons_of_neg (by simp), hsecond]

/-- A name without a session is not in the list. -/
theorem not_mem_of_client? (h : bench.client? name = none) :
    name ∉ bench.clients.map (·.1) := by
  intro hmem
  obtain ⟨entry, hentry, heq⟩ := List.mem_map.mp hmem
  have hne := List.lookup_eq_none_iff.mp h entry hentry
  rw [heq] at hne
  simp at hne

/-- A session that is found by its name is in the list. -/
theorem mem_of_client? {client : Client} (h : bench.client? name = some client) :
    (name, client) ∈ bench.clients := by
  obtain ⟨before, after, hclients, _⟩ := List.lookup_eq_some_iff.mp h
  rw [hclients]
  exact List.mem_append_right _ List.mem_cons_self

/-- The receivers are those among the other sessions, and the session of a name if it is one. -/
theorem receivers_eq {client : Client} (htidy : bench.Tidy) (h : bench.client? name = some client) :
    receivers bench.clients
      = receivers (without name bench.clients) + client.session.phase.receiving.toNat := by
  obtain ⟨before, after, hclients, hwithout⟩ := split_of_client? htidy.names_nodup h
  rw [hwithout, hclients]
  unfold receivers
  rw [List.countP_append, List.countP_append, List.countP_cons]
  cases client.session.phase.receiving with
  | true => simp only [if_true, Bool.toNat_true]; omega
  | false => simp only [Bool.false_eq_true, if_false, Bool.toNat_false]; omega

/-! ## One session and the others -/

variable {client : Client}

/-- The sessions that are left are tidy, on whatever board. -/
theorem Tidy.others (h : bench.Tidy) (name : String) (board : Board g) :
    Tidy ⟨board, without name bench.clients⟩ where
  names_nodup := h.names_nodup.sublist (List.filter_sublist.map _)
  settled entry hentry := h.settled entry (List.mem_filter.mp hentry).1

/-- A session that is put in the place of one of its name keeps all names distinct. -/
theorem Tidy.put (h : bench.Tidy) (board : Board g) (hsettled : client.session.phase.settled = true) :
    Tidy ⟨board, (name, client) :: without name bench.clients⟩ where
  names_nodup :=
    List.nodup_cons.mpr ⟨not_mem_without bench.clients, (h.others name board).names_nodup⟩
  settled entry hentry := by
    rcases List.mem_cons.mp hentry with rfl | hentry
    · exact hsettled
    · exact (h.others name board).settled entry hentry

/-- Exclusion is the balance of one session with the others. -/
theorem exclusive_put_iff (board : Board g) (others : List (String × Client))
    (hsettled : client.session.phase.settled = true) :
    Exclusive ⟨board, (name, client) :: others⟩
      ↔ Link.Balanced (receivers others) ⟨client.session, board⟩ := by
  have hcount : receivers ((name, client) :: others)
      = receivers others + client.session.phase.receiving.toNat := by
    unfold receivers
    rw [List.countP_cons]
    cases client.session.phase.receiving <;> rfl
  rw [exclusive_iff, hcount]
  exact ⟨fun h => ⟨hsettled, h⟩, fun h => h.balance⟩

/-- The same equation for a session in the list and the others. -/
theorem exclusive_iff_balanced (htidy : bench.Tidy) (h : bench.client? name = some client) :
    bench.Exclusive
      ↔ Link.Balanced (receivers (without name bench.clients)) ⟨client.session, bench.board⟩ := by
  rw [exclusive_iff, receivers_eq htidy h]
  exact ⟨fun hbalance => ⟨htidy.settled _ (mem_of_client? h), hbalance⟩, fun h => h.balance⟩

/-- A session that is closed is gone, and the board has its lock back unless it was in use. -/
theorem effect_closeSession (h : bench.client? name = some client) (inUse : Bool) :
    effect (closeSession name inUse) bench
      = (.ok true,
          ⟨Link.boardAfter bench.board client.session.phase
              (Link.closedPhase inUse client.session.phase),
            without name bench.clients⟩) := by
  unfold closeSession
  rw [effect_bind, effect_look, resume_ok, h, Option.isSome_some, if_pos rfl, effect_bind,
    effect_onSession_of_ok h (Link.effect_close inUse _)]
  simp only [resume_ok, effect_bind, effect_change, remove, without_cons_self, without_without,
    effect_pure]

/-- Closing a session takes it from the others, and keeps exclusion unless its lock is left behind. -/
theorem closeSession_keeps (htidy : bench.Tidy) (hexclusive : bench.Exclusive) {inUse : Bool}
    (hgives : ¬ (inUse = true ∧ bench.Receives name)) :
    ∃ answer board,
      effect (closeSession name inUse) bench = (.ok answer, ⟨board, without name bench.clients⟩)
        ∧ receivers (without name bench.clients) = board.loader.updateLocked.toNat := by
  cases h : bench.client? name with
  | none =>
    refine ⟨false, bench.board, ?_, ?_⟩
    · rw [effect_closeSession_of_none h, without_of_not_mem (not_mem_of_client? h)]
    · rw [without_of_not_mem (not_mem_of_client? h)]
      exact (exclusive_iff bench).mp hexclusive
  | some client =>
    have hbalanced := (exclusive_iff_balanced htidy h).mp hexclusive
    -- The session that goes gives the lock back as one that stops would, or it holds none.
    have hover : (Link.closedPhase inUse client.session.phase).busy = false := by
      cases inUse with
      | false => rfl
      | true =>
        have hrests : client.session.phase.receiving = false :=
          Bool.eq_false_iff.mpr fun hreceiving => hgives ⟨rfl, client, h, hreceiving⟩
        exact (Phase.busy_eq_receiving hbalanced.settled).trans hrests
    have hclosed : Link.Balanced (receivers (without name bench.clients))
        ⟨.fresh {} fun _ => true,
          Link.boardAfter bench.board client.session.phase
            (Link.closedPhase inUse client.session.phase)⟩ :=
      hbalanced.stopped rfl hover rfl
    exact ⟨true, _, effect_closeSession h inUse, hclosed.balance⟩

/-! ## Steps -/

/-- Exclusion looks at the sessions and the lock, and at nothing else of the board. -/
theorem Exclusive.of_lock_eq (h : bench.Exclusive) {board : Board g}
    (hlock : board.loader.updateLocked = bench.board.loader.updateLocked) :
    Exclusive ⟨board, bench.clients⟩ := by
  rw [exclusive_iff] at h ⊢
  rw [hlock]
  exact h

/-- No call of the boot loader but those on the lock itself changes the lock. -/
theorem lock_bootCall {call : BootCall} (hcall : (BenchCall.boot call).LeavesLock)
    (board : Board g) :
    (effect (call.run : BoardAction g Answer) board).2.loader.updateLocked
      = board.loader.updateLocked := by
  cases call.kind with
  | inspection inspects => exact (inspects.frame board).2.2
  | eraseUpdateSlot length =>
    show (effect ((Board.eraseUpdateSlot length).answering Answer.done) board).2.loader.updateLocked
      = board.loader.updateLocked
    rw [effect_answering]
    rcases Board.eraseUpdateSlot_cases length board with ⟨e, herror⟩ | ⟨hok, _⟩
    · rw [herror]
    · rw [hok]
  | programUpdateSlot offset data =>
    show (effect ((Board.programUpdateSlot offset data).answering Answer.done)
      board).2.loader.updateLocked = board.loader.updateLocked
    rw [effect_answering, Board.loader_programUpdateSlot]
  | lockUpdateSlot => exact hcall.elim
  | unlockUpdateSlot => exact hcall.elim
  | restart layout => exact hcall.elim

/-- A call of a session keeps exclusion, unless it intrudes on another one. -/
theorem exclusive_sessionCall (htidy : bench.Tidy) (hexclusive : bench.Exclusive) (name : String)
    (call : SessionCall) :
    Tidy (effect (step (.session name call)) bench).2
      ∧ (Exclusive (effect (step (.session name call)) bench).2
          ↔ ¬ bench.Intrudes (.session name call)) := by
  unfold step
  cases h : bench.client? name with
  | none =>
    -- There is no session of the name, so nothing happens and nobody intrudes.
    rw [effect_onSession_of_none h]
    refine ⟨htidy, iff_of_true hexclusive fun hintrudes => ?_⟩
    unfold Intrudes at hintrudes
    split at hintrudes
    · rename_i heq
      cases heq
      obtain ⟨client, hclient, _⟩ := hintrudes
      rw [h] at hclient
      cases hclient
    · exact hintrudes
  | some client =>
    rw [effect_onSession h]
    have hbalanced := (exclusive_iff_balanced htidy h).mp hexclusive
    -- All calls but one keep the balance of their own session with the others.
    by_cases hcall : call = .apply
    · -- The only call that may intrude. It does so just if it loses the balance.
      subst hcall
      have hrun : (effect (SessionCall.apply.run : SessionAction g Answer)
          ⟨client.session, bench.board⟩).2
          = (effect Link.apply ⟨client.session, bench.board⟩).2 := by
        unfold SessionCall.run
        rw [effect_answering]
      have hsettled := Link.settled_apply ⟨client.session, bench.board⟩ hbalanced.settled
      rw [hrun]
      refine ⟨htidy.put _ hsettled, ?_⟩
      rw [exclusive_put_iff _ _ hsettled]
      refine (Link.balanced_apply_iff hbalanced).trans (not_congr ?_)
      constructor
      · exact fun hboth => ⟨client, h, hboth.1, hboth.2⟩
      · rintro ⟨client', hclient', hboth⟩
        rw [h] at hclient'
        cases hclient'
        exact hboth
    · have hafter := Link.balanced_sessionCall hcall ⟨client.session, bench.board⟩ hbalanced
      refine ⟨htidy.put _ hafter.settled, iff_of_true ?_ fun hintrudes => ?_⟩
      · exact (exclusive_put_iff _ _ hafter.settled).mpr hafter
      · unfold Intrudes at hintrudes
        split at hintrudes
        · rename_i heq
          cases heq
          exact hcall rfl
        · exact hintrudes

/-- A session that is opened receives nothing yet. -/
theorem exclusive_openSession (htidy : bench.Tidy) (hexclusive : bench.Exclusive) (name : String)
    (config : SessionConfig) (listens rejects : Bool) :
    Tidy (effect (step (.openSession name config listens rejects)) bench).2
      ∧ Exclusive (effect (step (.openSession name config listens rejects)) bench).2 := by
  have hgives : ¬ (false = true ∧ bench.Receives name) := fun hboth => Bool.false_ne_true hboth.1
  obtain ⟨answer, board, hclose, hbalance⟩ := closeSession_keeps htidy hexclusive hgives
  unfold step openSession
  rw [effect_answering, effect_bind, hclose, resume_ok, effect_bind, effect_say, resume_ok]
  simp only [effect_change, put_eq, without_without]
  -- One of the same name is gone, and the new one is idle.
  refine ⟨htidy.put board rfl, ?_⟩
  exact (exclusive_put_iff board _ rfl).mpr ⟨rfl, hbalance⟩

/-- A lock that is left behind is held while nobody receives data. -/
theorem not_exclusive_of_stranded (htidy : bench.Tidy) (hexclusive : bench.Exclusive)
    {client : Client} (h : bench.client? name = some client)
    (hreceiving : client.session.phase.receiving = true) :
    ¬ Exclusive ⟨bench.board, without name bench.clients⟩ := by
  have hbalanced := (exclusive_iff_balanced htidy h).mp hexclusive
  have hbalance := hbalanced.balance
  rw [hbalanced.alone hreceiving, hreceiving] at hbalance
  rw [exclusive_iff, hbalanced.alone hreceiving, ← hbalance]
  exact Nat.zero_ne_one

/-- A session that is closed keeps exclusion, unless it leaves its lock behind. -/
theorem exclusive_closeSession (htidy : bench.Tidy) (hexclusive : bench.Exclusive) (name : String)
    (inUse : Bool) :
    Tidy (effect (step (.closeSession name inUse)) bench).2
      ∧ (Exclusive (effect (step (.closeSession name inUse)) bench).2
          ↔ ¬ bench.Strands (.closeSession name inUse)) := by
  unfold step
  rw [effect_map]
  by_cases hstrands : inUse = true ∧ bench.Receives name
  · -- The lock stays held, and the session that held it is gone.
    obtain ⟨rfl, client, hclient, hreceiving⟩ := id hstrands
    rw [effect_closeSession hclient, Link.closedPhase, if_pos rfl, Link.boardAfter_self]
    refine ⟨htidy.others name bench.board, iff_of_false ?_ fun hnot => hnot hstrands⟩
    exact not_exclusive_of_stranded htidy hexclusive hclient hreceiving
  · obtain ⟨answer, board, hclose, hbalance⟩ := closeSession_keeps htidy hexclusive hstrands
    rw [hclose]
    exact ⟨htidy.others name board, iff_of_true ((exclusive_iff _).mpr hbalance) hstrands⟩

/-- What an application thinks of images has no part in exclusion. -/
theorem exclusive_setVerdict (htidy : bench.Tidy) (hexclusive : bench.Exclusive) (name : String)
    (rejects : Bool) :
    Tidy (effect (step (.setVerdict name rejects)) bench).2
      ∧ Exclusive (effect (step (.setVerdict name rejects)) bench).2 := by
  unfold step setVerdict
  rw [effect_answering, effect_bind, effect_look, resume_ok]
  cases h : bench.client? name with
  | none => exact ⟨htidy, hexclusive⟩
  | some client =>
    dsimp only
    split
    · have hbalanced := (exclusive_iff_balanced htidy h).mp hexclusive
      have hsettled : (client.withVerdict rejects).session.phase.settled = true :=
        htidy.settled _ (mem_of_client? h)
      rw [effect_bind, effect_say, resume_ok]
      simp only [effect_change, put_eq]
      -- A verdict is none of the things that are balanced.
      refine ⟨htidy.put bench.board hsettled, ?_⟩
      exact (exclusive_put_iff bench.board _ hsettled).mpr ⟨hsettled, hbalanced.balance⟩
    · exact ⟨htidy, hexclusive⟩

/-- Exclusion survives a call just if that is no breach. -/
theorem exclusive_step (htidy : bench.Tidy) (hexclusive : bench.Exclusive) {call : BenchCall}
    (hcall : call.LeavesLock) :
    Tidy (effect (step call) bench).2
      ∧ (Exclusive (effect (step call) bench).2 ↔ ¬ bench.Breaches call) := by
  -- Only a session that applies can intrude, and only one that is closed can leave its lock behind.
  cases call with
  | flash call =>
    refine ⟨⟨htidy.names_nodup, htidy.settled⟩, iff_of_true ?_ fun h => h.elim id id⟩
    exact hexclusive.of_lock_eq rfl
  | boot call =>
    refine ⟨⟨htidy.names_nodup, htidy.settled⟩, iff_of_true ?_ fun h => h.elim id id⟩
    exact hexclusive.of_lock_eq (lock_bootCall hcall bench.board)
  | session name call =>
    obtain ⟨htidy', hiff⟩ := exclusive_sessionCall htidy hexclusive name call
    exact ⟨htidy', hiff.trans (not_congr (or_iff_left id).symm)⟩
  | openSession name config listens rejects =>
    obtain ⟨htidy', hexclusive'⟩ :=
      exclusive_openSession htidy hexclusive name config listens rejects
    exact ⟨htidy', iff_of_true hexclusive' fun h => h.elim id id⟩
  | closeSession name inUse =>
    obtain ⟨htidy', hiff⟩ := exclusive_closeSession htidy hexclusive name inUse
    exact ⟨htidy', hiff.trans (not_congr (or_iff_right id).symm)⟩
  | setVerdict name rejects =>
    obtain ⟨htidy', hexclusive'⟩ := exclusive_setVerdict htidy hexclusive name rejects
    exact ⟨htidy', iff_of_true hexclusive' fun h => h.elim id id⟩

/-! ## Locks of others -/

/-- A call on a session leaves the other sessions alone. -/
theorem others_step {call : BenchCall} (hcaller : call.caller? = some name) (bench : Bench g) :
    without name (effect (step call) bench).2.clients = without name bench.clients := by
  -- What closing does to the others, for it is a part of opening as well.
  have hclose : ∀ name : String, ∀ inUse : Bool, ∃ answer board clients,
      effect (closeSession name inUse) bench = (.ok answer, ⟨board, clients⟩)
        ∧ without name clients = without name bench.clients := by
    intro name inUse
    cases h : bench.client? name with
    | none => exact ⟨_, _, _, effect_closeSession_of_none h inUse, rfl⟩
    | some client => exact ⟨_, _, _, effect_closeSession h inUse, without_without _⟩
  cases call with
  | flash call => cases hcaller
  | boot call => cases hcaller
  | session name' call =>
    cases hcaller
    unfold step
    cases h : bench.client? name with
    | none => rw [effect_onSession_of_none h]
    | some client => rw [effect_onSession h, without_cons_self, without_without]
  | openSession name' config listens rejects =>
    cases hcaller
    obtain ⟨answer, board, clients, heq, hothers⟩ := hclose name false
    unfold step openSession
    rw [effect_answering, effect_bind, heq, resume_ok, effect_bind, effect_say, resume_ok]
    simp only [effect_change, put_eq, without_cons_self, without_without]
    exact hothers
  | closeSession name' inUse =>
    cases hcaller
    obtain ⟨answer, board, clients, heq, hothers⟩ := hclose name inUse
    unfold step
    rw [effect_map, heq]
    exact hothers
  | setVerdict name' rejects =>
    cases hcaller
    unfold step setVerdict
    rw [effect_answering, effect_bind, effect_look, resume_ok]
    cases h : bench.client? name with
    | none => rfl
    | some client =>
      dsimp only
      split
      · rw [effect_bind, effect_say, resume_ok]
        simp only [effect_change, put_eq, without_cons_self, without_without]
      · rfl

/-- While exclusion holds, a call on a session that receives nothing leaves a held lock held. -/
theorem lock_step (htidy : bench.Tidy) (hexclusive : bench.Exclusive) {call : BenchCall}
    (hcaller : call.caller? = some name) (hexclusive' : Exclusive (effect (step call) bench).2)
    (hlocked : bench.board.loader.updateLocked = true) (hother : ¬ bench.Receives name) :
    (effect (step call) bench).2.board.loader.updateLocked = true := by
  -- One of the other sessions receives data, before the call and after it.
  have hone : receivers (without name bench.clients) = 1 := by
    have hcount := hexclusive.locked_iff.mp hlocked
    -- The caller is none of the receivers, so the receiver is one of the others.
    cases h : bench.client? name with
    | none => rwa [without_of_not_mem (not_mem_of_client? h)]
    | some client =>
      have hnot : client.session.phase.receiving = false := by
        cases hreceiving : client.session.phase.receiving with
        | true => exact absurd ⟨client, h, hreceiving⟩ hother
        | false => rfl
      rwa [receivers_eq htidy h, hnot, Bool.toNat_false, Nat.add_zero] at hcount
  -- That one is among all receivers, of whom there is one at most.
  have hsome : receivers (without name (effect (step call) bench).2.clients)
      ≤ receivers (effect (step call) bench).2.clients :=
    List.filter_sublist.countP_le
  rw [others_step hcaller bench, hone] at hsome
  exact hexclusive'.locked_iff.mpr (Nat.le_antisymm hexclusive'.at_most_one hsome)

/-! ## Runs -/

/-- Without sessions there is nothing to exclude. -/
theorem tidy_ofBoard (board : Board g) : (ofBoard board).Tidy where
  names_nodup := List.nodup_nil
  settled _ hentry := absurd hentry List.not_mem_nil

/-- A board with a free lock and no sessions is exclusive. -/
theorem exclusive_ofBoard {board : Board g} (hfree : board.loader.updateLocked = false) :
    (ofBoard board).Exclusive := by
  rw [exclusive_iff]
  unfold ofBoard
  rw [hfree]
  rfl

/-- Every state of a run without a breach is tidy and exclusive. -/
theorem exclusive_run {calls : List BenchCall} (htidy : bench.Tidy) (hexclusive : bench.Exclusive)
    (hcalls : ∀ call ∈ calls, call.LeavesLock) (k : Nat)
    (hno : ∀ i < k, ∀ call, calls[i]? = some call →
      ¬ (bench.steps (calls.take i)).Breaches call) :
    (bench.steps (calls.take k)).Tidy ∧ (bench.steps (calls.take k)).Exclusive := by
  -- On the length of the prefix: one call more, and the state after it is the step of the state
  -- before.
  induction k with
  | zero => exact ⟨htidy, hexclusive⟩
  | succ k ih =>
    obtain ⟨htidy', hexclusive'⟩ := ih fun i hi => hno i (Nat.lt_succ_of_lt hi)
    cases h : calls[k]? with
    | none =>
      -- The run is over, and one call more is none.
      have hend := List.getElem?_eq_none_iff.mp h
      rw [List.take_of_length_le (Nat.le_succ_of_le hend)]
      rw [List.take_of_length_le hend] at htidy' hexclusive'
      exact ⟨htidy', hexclusive'⟩
    | some call =>
      have hleaves := hcalls call (List.mem_of_getElem? h)
      obtain ⟨hnext, hiff⟩ := exclusive_step htidy' hexclusive' hleaves
      rw [steps_take_succ bench h]
      exact ⟨hnext, hiff.mpr (hno k (Nat.lt_succ_self k) call h)⟩

/-- Sessions exclude each other throughout a run, and none of them gives back the lock of another,
just if no session applies its image while another one receives data, and none that receives data is
closed while the board is in use elsewhere. -/
theorem exclusive_iff_no_breach {board : Board g} {calls : List BenchCall}
    (hfree : board.loader.updateLocked = false) (hcalls : ∀ call ∈ calls, call.LeavesLock) :
    ((∀ k, ((ofBoard board).steps (calls.take k)).Exclusive)
        ∧ ∀ k call name, calls[k]? = some call → call.caller? = some name →
          ((ofBoard board).steps (calls.take k)).board.loader.updateLocked = true →
          ¬ ((ofBoard board).steps (calls.take k)).Receives name →
          ((ofBoard board).steps (calls.take (k + 1))).board.loader.updateLocked = true)
      ↔ ∀ k call, calls[k]? = some call →
          ¬ ((ofBoard board).steps (calls.take k)).Breaches call := by
  have hrun := exclusive_run (tidy_ofBoard board) (exclusive_ofBoard hfree) hcalls
  constructor
  · rintro ⟨hall, _⟩ k
    -- Up to the first breach the run is tidy, so the call after it would show.
    induction k using Nat.strongRecOn with
    | ind k ih =>
      intro call hcall
      obtain ⟨htidy, hexclusive⟩ := hrun k ih
      have hleaves := hcalls call (List.mem_of_getElem? hcall)
      have hnext := hall (k + 1)
      rw [steps_take_succ _ hcall] at hnext
      exact (exclusive_step htidy hexclusive hleaves).2.mp hnext
  · -- Conversely, every state is exclusive, and then no call takes away the lock of another
    -- session.
    intro hno
    have hgood := fun k => hrun k fun i _ => hno i
    refine ⟨fun k => (hgood k).2, ?_⟩
    intro k call name hcall hcaller hlocked hother
    have hnext := (hgood (k + 1)).2
    rw [steps_take_succ _ hcall] at hnext ⊢
    exact lock_step (hgood k).1 (hgood k).2 hcaller hnext hlocked hother

/-- Two sessions that want the update slot at the same time, and then in turn. -/
def turns : List BenchCall :=
  [.openSession "first" {} false false,
    .openSession "second" {} false false,
    .session "first" (.start 84 84),
    .session "second" (.start 84 84),
    .session "first" .abort,
    .session "second" (.start 84 84)]

/-- Two sessions in turn: the second one is refused until the first one has ended. -/
theorem exclusive_in_turns : ((ofBoard Factory.board).steps turns).Exclusive := by
  have hleaves : ∀ call ∈ turns, call.LeavesLock := by decide
  refine ((exclusive_iff_no_breach rfl hleaves).mpr fun i call hcall hbreaches => ?_).1 turns.length
  have hmem := List.mem_of_getElem? hcall
  -- None of these sessions applies its image, and none is closed.
  rcases hbreaches with hintrudes | hstrands
  · unfold Intrudes at hintrudes
    split at hintrudes
    · simp [turns] at hmem
    · exact hintrudes
  · unfold Strands at hstrands
    split at hstrands
    · simp [turns] at hmem
    · exact hstrands

/-- The first session brings its image to an end, the second one starts, and the first one applies. -/
def intrusion : List BenchCall :=
  [.openSession "first" {} false false,
    .session "first" (.start 84 84),
    .session "first" (.receive 0 (Factory.header.encode ++ Factory.payload)),
    .session "first" .finalize,
    .openSession "second" {} false false,
    .session "second" (.start 84 84),
    .session "first" .apply]

/-- After it the second session receives data into a slot that is not locked. -/
theorem not_exclusive_after_intrusion :
    ¬ ((ofBoard Factory.board).steps intrusion).Exclusive := by
  decide +kernel

/-- The lock of a session that was closed while the board was in use: held, and nobody receives data. -/
example :
    let bench := (ofBoard Factory.board).steps
      [.openSession "only" {} false false, .session "only" (.start 84 84), .closeSession "only" true]
    bench.board.loader.updateLocked = true ∧ receivers bench.clients = 0 := by
  decide +kernel

end Bench

end DualSlot
