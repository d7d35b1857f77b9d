import DualSlot.Bench.Basic
import DualSlot.Proofs.Action

/-!
# The steps of a bench

How a step of a bench changes the board and the sessions, and how an invariant is carried through a run
(`Bench.steps_keeps`).
-/

namespace DualSlot.Bench

open DualSlot.Action

variable {g : Geometry} {α : Type}

/-! ## Effects -/

@[simp] theorem effect_onBoard {ε : Type} (wrap : ε → BenchError)
    (x : Action BoardEvent (Board g) ε α) (bench : Bench g) :
    effect (onBoard wrap x) bench
      = ((effect x bench.board).1.mapError wrap, ⟨(effect x bench.board).2, bench.clients⟩) := rfl

theorem effect_onSession_of_none {name : String} {bench : Bench g}
    (h : bench.client? name = none) (x : SessionAction g α) :
    effect (onSession name x) bench = (.error (.noSession name), bench) := by
  unfold effect onSession
  rw [h]

theorem effect_onSession {name : String} {bench : Bench g} {client : Client}
    (h : bench.client? name = some client) (x : SessionAction g α) :
    effect (onSession name x) bench
      = ((effect x ⟨client.session, bench.board⟩).1.mapError .update,
          ⟨(effect x ⟨client.session, bench.board⟩).2.board,
            (name, { client with session := (effect x ⟨client.session, bench.board⟩).2.session })
              :: without name bench.clients⟩) := by
  unfold effect onSession
  rw [h]

theorem effect_onSession_of_ok {name : String} {bench : Bench g} {client : Client} {a : α}
    {x : SessionAction g α} {link : Link g} (h : bench.client? name = some client)
    (hx : effect x ⟨client.session, bench.board⟩ = (.ok a, link)) :
    effect (onSession name x) bench
      = (.ok a,
          ⟨link.board,
            (name, { client with session := link.session }) :: without name bench.clients⟩) := by
  rw [effect_onSession h, hx]
  rfl

theorem effect_closeSession_of_none {name : String} {bench : Bench g}
    (h : bench.client? name = none) (inUse : Bool) :
    effect (closeSession name inUse) bench = (.ok false, bench) := by
  unfold closeSession
  rw [effect_bind, effect_look, resume_ok, h]
  rfl

theorem put_eq (bench : Bench g) (name : String) (client : Client) :
    bench.put name client = ⟨bench.board, (name, client) :: without name bench.clients⟩ := rfl

/-! ## Runs -/

theorem steps_cons (bench : Bench g) (call : BenchCall) (calls : List BenchCall) :
    steps bench (call :: calls) = steps (effect (step call) bench).2 calls := rfl

theorem steps_append (bench : Bench g) (calls calls' : List BenchCall) :
    steps bench (calls ++ calls') = steps (steps bench calls) calls' :=
  List.foldl_append

/-- The call at some place of a run follows on the calls before it. -/
theorem steps_take_succ (bench : Bench g) {calls : List BenchCall} {k : Nat} {call : BenchCall}
    (h : calls[k]? = some call) :
    bench.steps (calls.take (k + 1)) = (effect (step call) (bench.steps (calls.take k))).2 := by
  rw [List.take_add_one, h, steps_append]
  rfl

/-- What survives every call of a run survives the run. -/
theorem steps_keeps {I : Bench g → Prop} {calls : List BenchCall}
    (h : ∀ call ∈ calls, Keeps I (step call)) {bench : Bench g} (hbench : I bench) :
    I (steps bench calls) := by
  -- From the front, since every call runs on what those before it left.
  induction calls generalizing bench with
  | nil => exact hbench
  | cons call rest ih =>
    rw [steps_cons]
    apply ih
    · exact fun call hcall => h call (List.mem_cons_of_mem _ hcall)
    · exact h call List.mem_cons_self bench hbench

/-! ## Invariants of the board -/

section Board

variable {I : Board g → Prop}

theorem keeps_onBoard {ε : Type} (wrap : ε → BenchError) {x : Action BoardEvent (Board g) ε α}
    (hx : Keeps I x) : Keeps (fun bench => I bench.board) (onBoard wrap x) :=
  fun bench hbench => hx bench.board hbench

theorem keeps_onSession (name : String) {x : SessionAction g α}
    (hx : Keeps (fun link => I link.board) x) :
    Keeps (fun bench => I bench.board) (onSession name x) := by
  intro bench hbench
  -- The session runs on the board of the bench, and hands it back.
  cases hclient : bench.client? name with
  | none =>
    rw [effect_onSession_of_none hclient]
    exact hbench
  | some client =>
    rw [effect_onSession hclient]
    exact hx ⟨client.session, bench.board⟩ hbench

theorem keeps_closeSession (name : String)
    (hclose : ∀ inUse, Keeps (fun link => I link.board) (Link.close inUse)) (inUse : Bool) :
    Keeps (fun bench => I bench.board) (closeSession name inUse) := by
  unfold closeSession
  refine (keeps_look _).bind fun found => Keeps.ite ?_ (keeps_pure _)
  refine (keeps_onSession name (hclose inUse)).bind fun _ => Keeps.bind ?_ fun _ => keeps_pure _
  exact fun bench hbench => hbench

theorem keeps_openSession (name : String) (config : SessionConfig) (listens rejects : Bool)
    (hclose : ∀ inUse, Keeps (fun link => I link.board) (Link.close inUse)) :
    Keeps (fun bench => I bench.board) (openSession name config listens rejects) := by
  unfold openSession
  refine (keeps_closeSession name hclose false).bind fun _ => (keeps_say _).bind fun _ => ?_
  exact fun bench hbench => hbench

theorem keeps_setVerdict (name : String) (rejects : Bool) :
    Keeps (fun bench : Bench g => I bench.board) (setVerdict name rejects) := by
  unfold setVerdict
  refine (keeps_look _).bind fun found => ?_
  cases found with
  | none => exact keeps_fail _
  | some client =>
    refine Keeps.ite ((keeps_say _).bind fun _ => ?_) (keeps_pure ())
    exact fun bench hbench => hbench

end Board

end DualSlot.Bench
