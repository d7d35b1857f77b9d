/-!
# Actions: calls that may fail and still leave something behind

Every operation of the library changes a piece of state, may fail, and reports events on the way.
A failing call keeps what it changed and what it reported up to the failure.

* `Outcome` is what one call leaves behind.
* `Action` is a call, and a lawful monad: a sequence of calls stops at the first failure.
* `Action.fold` and `Action.forEach` run one call per list element, in constant stack.
* `Action.attempt` turns the result of a call into a value.
-/

namespace DualSlot

/-! ## Outcomes -/

/-- What one call leaves behind: its answer, the state after it and the events in order. -/
structure Outcome (ω σ ε α : Type) where
  result : Except ε α
  state : σ
  events : List ω

namespace Outcome

variable {ω σ ε α : Type}

/-- The same outcome with earlier events put in front. -/
@[inline] def after (earlier : List ω) (o : Outcome ω σ ε α) : Outcome ω σ ε α :=
  { o with events := earlier ++ o.events }

@[simp] theorem after_nil (o : Outcome ω σ ε α) : o.after [] = o := rfl

@[simp] theorem after_after (a b : List ω) (o : Outcome ω σ ε α) :
    (o.after b).after a = o.after (a ++ b) := by
  simp [after]

@[simp] theorem result_after (a : List ω) (o : Outcome ω σ ε α) :
    (o.after a).result = o.result := rfl

@[simp] theorem state_after (a : List ω) (o : Outcome ω σ ε α) :
    (o.after a).state = o.state := rfl

@[simp] theorem events_after (a : List ω) (o : Outcome ω σ ε α) :
    (o.after a).events = a ++ o.events := rfl

end Outcome

/-! ## Actions -/

/-- A call on a state `σ` that answers `α` or fails with `ε`, reporting events `ω`. -/
def Action (ω σ ε α : Type) : Type := σ → Outcome ω σ ε α

namespace Action

variable {ω σ ε ε' α β : Type}

/-- Run an action from a state. -/
@[inline] def run (x : Action ω σ ε α) (s : σ) : Outcome ω σ ε α := x s

/-- Answer without touching anything. -/
@[inline] protected def pure (a : α) : Action ω σ ε α := fun s => ⟨.ok a, s, []⟩

/-- Run one action, then the next one from the state that the first left. -/
@[inline] protected def bind (x : Action ω σ ε α) (f : α → Action ω σ ε β) :
    Action ω σ ε β := fun s =>
  match x s with
  | ⟨.ok a, s', earlier⟩ => (f a s').after earlier
  | ⟨.error e, s', earlier⟩ => ⟨.error e, s', earlier⟩

instance : Monad (Action ω σ ε) where
  pure := Action.pure
  bind := Action.bind

/-- Fail, keeping the state. -/
@[inline] def fail (e : ε) : Action ω σ ε α := fun s => ⟨.error e, s, []⟩

/-- Read something off the state. -/
@[inline] def look (f : σ → α) : Action ω σ ε α := fun s => ⟨.ok (f s), s, []⟩

/-- Change the state. -/
@[inline] def change (f : σ → σ) : Action ω σ ε Unit := fun s => ⟨.ok (), f s, []⟩

/-- Report an event. -/
@[inline] def say (event : ω) : Action ω σ ε Unit := fun s => ⟨.ok (), s, [event]⟩

/-- Run an action that may fail and answer its result. -/
@[inline] def attempt (x : Action ω σ ε α) : Action ω σ ε' (Except ε α) := fun s =>
  match x s with
  | ⟨r, s', events⟩ => ⟨.ok r, s', events⟩

/-- Run an action for its effect and answer something else. -/
@[inline] def answering (x : Action ω σ ε α) (b : β) : Action ω σ ε β :=
  Action.bind x fun _ => Action.pure b

/-- The same call, with its events and its error put in other words. -/
@[inline] def relabel {ω' : Type} (event : ω → ω') (wrap : ε → ε') (x : Action ω σ ε α) :
    Action ω' σ ε' α := fun s =>
  match x s with
  | ⟨r, s', events⟩ => ⟨r.mapError wrap, s', events.map event⟩

/-- Continue with a known result. -/
@[inline] def ofExcept (r : Except ε α) : Action ω σ ε α := fun s => ⟨r, s, []⟩

/-- Fail with `e` unless the condition holds. -/
@[inline] def require (condition : Bool) (e : ε) : Action ω σ ε Unit :=
  if condition then Action.pure () else fail e

/-! ## Runs over lists -/

/-- The loop behind `fold`: `seen` holds the events so far, latest first. -/
def foldFrom (f : β → α → Action ω σ ε β) : List α → β → σ → List ω → Outcome ω σ ε β
  | [], b, s, seen => ⟨.ok b, s, seen.reverse⟩
  | a :: rest, b, s, seen =>
    match f b a s with
    | ⟨.ok b', s', events⟩ => foldFrom f rest b' s' (events.reverseAux seen)
    | ⟨.error e, s', events⟩ => ⟨.error e, s', (events.reverseAux seen).reverse⟩

/-- Run `f` for every element from the left, threading an accumulator. -/
def fold (f : β → α → Action ω σ ε β) (b : β) (as : List α) : Action ω σ ε β := fun s =>
  foldFrom f as b s []

/-- Run `f` for every element from the left. -/
def forEach (as : List α) (f : α → Action ω σ ε Unit) : Action ω σ ε Unit :=
  fold (fun _ a => f a) () as

/-! ## Equations -/

@[simp] theorem pure_apply (a : α) (s : σ) :
    (pure a : Action ω σ ε α) s = ⟨.ok a, s, []⟩ := rfl

@[simp] theorem fail_apply (e : ε) (s : σ) :
    (fail e : Action ω σ ε α) s = ⟨.error e, s, []⟩ := rfl

@[simp] theorem look_apply (f : σ → α) (s : σ) :
    (look f : Action ω σ ε α) s = ⟨.ok (f s), s, []⟩ := rfl

@[simp] theorem change_apply (f : σ → σ) (s : σ) :
    (change f : Action ω σ ε Unit) s = ⟨.ok (), f s, []⟩ := rfl

@[simp] theorem say_apply (event : ω) (s : σ) :
    (say event : Action ω σ ε Unit) s = ⟨.ok (), s, [event]⟩ := rfl

@[simp] theorem ofExcept_apply (r : Except ε α) (s : σ) :
    (ofExcept r : Action ω σ ε α) s = ⟨r, s, []⟩ := rfl

@[simp] theorem attempt_apply (x : Action ω σ ε α) (s : σ) :
    (attempt x : Action ω σ ε' (Except ε α)) s = ⟨.ok (x s).result, (x s).state, (x s).events⟩ :=
  rfl

theorem bind_apply (x : Action ω σ ε α) (f : α → Action ω σ ε β) (s : σ) :
    (x >>= f) s = match x s with
      | ⟨.ok a, s', earlier⟩ => (f a s').after earlier
      | ⟨.error e, s', earlier⟩ => ⟨.error e, s', earlier⟩ := rfl

private theorem id_map_action (x : Action ω σ ε α) : id <$> x = x := by
  funext s
  show Action.bind x (fun a => Action.pure (id a)) s = x s
  unfold Action.bind Action.pure
  rcases x s with ⟨r, s', events⟩
  cases r <;> simp [Outcome.after]

private theorem bind_assoc_action {γ : Type} (x : Action ω σ ε α) (f : α → Action ω σ ε β)
    (g : β → Action ω σ ε γ) : x >>= f >>= g = x >>= fun a => f a >>= g := by
  funext s
  show Action.bind (Action.bind x f) g s = Action.bind x (fun a => Action.bind (f a) g) s
  unfold Action.bind
  rcases x s with ⟨r, s', events⟩
  cases r with
  | error e => rfl
  | ok a =>
    simp only [Outcome.after]
    rcases f a s' with ⟨r', s'', events'⟩
    cases r' <;> simp

instance : LawfulMonad (Action ω σ ε) :=
  LawfulMonad.mk' _ id_map_action (fun _ _ => rfl) bind_assoc_action

/-- The events of a loop come after those it was started with. -/
theorem foldFrom_seen (f : β → α → Action ω σ ε β) (as : List α) (b : β) (s : σ)
    (seen : List ω) : foldFrom f as b s seen = (foldFrom f as b s []).after seen.reverse := by
  induction as generalizing b s seen with
  | nil => simp [foldFrom, Outcome.after]
  | cons a rest ih =>
    unfold foldFrom
    rcases f b a s with ⟨r, s', events⟩
    cases r with
    | error e => simp [Outcome.after]
    | ok b' =>
      simp only
      rw [ih b' s' (events.reverseAux seen), ih b' s' (events.reverseAux [])]
      simp

@[simp] theorem fold_nil (f : β → α → Action ω σ ε β) (b : β) :
    fold f b [] = pure b := rfl

/-- A run over a list is the call on its head followed by the run over its tail. -/
theorem fold_cons (f : β → α → Action ω σ ε β) (b : β) (a : α) (rest : List α) :
    fold f b (a :: rest) = f b a >>= fun b' => fold f b' rest := by
  funext s
  rw [bind_apply]
  simp only [fold, foldFrom]
  rcases f b a s with ⟨r, s', events⟩
  cases r with
  | error e => simp
  | ok b' =>
    simp only
    rw [foldFrom_seen]
    simp

@[simp] theorem forEach_nil (f : α → Action ω σ ε Unit) : forEach [] f = pure () := rfl

theorem forEach_cons (a : α) (rest : List α) (f : α → Action ω σ ε Unit) :
    forEach (a :: rest) f = f a >>= fun _ => forEach rest f :=
  fold_cons _ _ _ _

end Action

end DualSlot
