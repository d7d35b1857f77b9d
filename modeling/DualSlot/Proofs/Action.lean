import DualSlot.Action

/-!
# What calls do to the state

Two views of a call, both blind to its events.

* `Action.effect` is the answer of a call together with the state after it. It is computed call by
  call: `effect_bind` runs the second call where the first one stopped.
* `Action.Keeps` says that a property of the state survives a call, however the call ends. It is
  closed under all the ways in which calls are combined, so that an invariant has to be checked on
  the basic calls only.
-/

namespace DualSlot.Action

variable {ω σ ε ε' α β : Type}

/-! ## Effects -/

/-- The answer of a call and the state after it. -/
def effect (x : Action ω σ ε α) (s : σ) : Except ε α × σ := ((x s).result, (x s).state)

theorem result_eq_effect (x : Action ω σ ε α) (s : σ) : (x s).result = (effect x s).1 := rfl

/-- Calls that do the same from a state have the same effect there. -/
theorem effect_congr {x y : Action ω σ ε α} {s : σ} (h : x s = y s) : effect x s = effect y s := by
  unfold effect
  rw [h]

/-- What is left open of a call with a known effect is its events. -/
theorem apply_of_effect {x : Action ω σ ε α} {s s' : σ} {r : Except ε α} (h : effect x s = (r, s')) :
    ∃ events, x s = ⟨r, s', events⟩ := by
  obtain ⟨rfl, rfl⟩ := Prod.mk.inj h
  exact ⟨(x s).events, rfl⟩

/-- Run a call on what an earlier call left; a failure is passed on. -/
def resume (r : Except ε α × σ) (f : α → Action ω σ ε β) : Except ε β × σ :=
  match r with
  | (.ok a, s) => effect (f a) s
  | (.error e, s) => (.error e, s)

@[simp] theorem resume_ok (a : α) (s : σ) (f : α → Action ω σ ε β) :
    Action.resume (.ok a, s) f = effect (f a) s := rfl

@[simp] theorem resume_error (e : ε) (s : σ) (f : α → Action ω σ ε β) :
    Action.resume (.error e, s) f = (.error e, s) := rfl

@[simp] theorem effect_pure (a : α) (s : σ) :
    effect (pure a : Action ω σ ε α) s = (.ok a, s) := rfl

@[simp] theorem effect_fail (e : ε) (s : σ) :
    effect (fail e : Action ω σ ε α) s = (.error e, s) := rfl

@[simp] theorem effect_look (f : σ → α) (s : σ) :
    effect (look f : Action ω σ ε α) s = (.ok (f s), s) := rfl

@[simp] theorem effect_change (f : σ → σ) (s : σ) :
    effect (change f : Action ω σ ε Unit) s = (.ok (), f s) := rfl

@[simp] theorem effect_say (event : ω) (s : σ) :
    effect (say event : Action ω σ ε Unit) s = (.ok (), s) := rfl

@[simp] theorem effect_ofExcept (r : Except ε α) (s : σ) :
    effect (ofExcept r : Action ω σ ε α) s = (r, s) := rfl

@[simp] theorem effect_attempt (x : Action ω σ ε α) (s : σ) :
    effect (attempt x : Action ω σ ε' (Except ε α)) s = (.ok (effect x s).1, (effect x s).2) := rfl

@[simp] theorem effect_bind (x : Action ω σ ε α) (f : α → Action ω σ ε β) (s : σ) :
    effect (x >>= f) s = Action.resume (effect x s) f := by
  unfold effect Action.resume
  rw [bind_apply]
  rcases x s with ⟨r, s', events⟩
  cases r <;> rfl

@[simp] theorem effect_map (f : α → β) (x : Action ω σ ε α) (s : σ) :
    effect (f <$> x) s = ((effect x s).1.map f, (effect x s).2) := by
  rw [show f <$> x = x >>= fun a => pure (f a) from rfl, effect_bind]
  rcases effect x s with ⟨r, s'⟩
  cases r <;> rfl

@[simp] theorem effect_answering (x : Action ω σ ε α) (b : β) (s : σ) :
    effect (x.answering b) s = ((effect x s).1.map fun _ => b, (effect x s).2) :=
  effect_map (fun _ => b) x s

theorem effect_relabel {ω' : Type} (event : ω → ω') (wrap : ε → ε') (x : Action ω σ ε α) (s : σ) :
    effect (x.relabel event wrap) s = ((effect x s).1.mapError wrap, (effect x s).2) := rfl

theorem effect_require_of_true {condition : Bool} (h : condition = true) (e : ε) (s : σ) :
    effect (require condition e : Action ω σ ε Unit) s = (.ok (), s) := by
  rw [h]
  rfl

theorem effect_require_of_false {condition : Bool} (h : condition = false) (e : ε) (s : σ) :
    effect (require condition e : Action ω σ ε Unit) s = (.error e, s) := by
  rw [h]
  rfl

/-- Two calls in a row answer when the first one does and then the second. -/
theorem bind_answers {x : Action ω σ ε α} {f : α → Action ω σ ε β} {s : σ} {b : β}
    (h : (effect (x >>= f) s).1 = .ok b) :
    ∃ a s', effect x s = (.ok a, s') ∧ (effect (f a) s').1 = .ok b := by
  rw [effect_bind] at h
  rcases hr : effect x s with ⟨r, s'⟩
  rw [hr] at h
  cases r with
  | error e => cases h
  | ok a => exact ⟨a, s', rfl, h⟩

/-- Two calls in a row fail when the first one does, or else the second. -/
theorem bind_fails {x : Action ω σ ε α} {f : α → Action ω σ ε β} {s : σ} {e : ε}
    (h : (effect (x >>= f) s).1 = .error e) :
    (effect x s).1 = .error e
      ∨ ∃ a s', effect x s = (.ok a, s') ∧ (effect (f a) s').1 = .error e := by
  rw [effect_bind] at h
  rcases hr : effect x s with ⟨r, s'⟩
  rw [hr] at h
  cases r with
  | error e' =>
    cases h
    exact .inl rfl
  | ok a => exact .inr ⟨a, s', rfl, h⟩

/-- Renaming the answer of a call changes nothing about how it fails. -/
theorem map_fails {f : α → β} {x : Action ω σ ε α} {s s' : σ} {e : ε}
    (h : effect (f <$> x) s = (.error e, s')) : effect x s = (.error e, s') := by
  rw [effect_map] at h
  rcases hr : effect x s with ⟨_ | a, s''⟩
  · rw [hr] at h
    cases h
    rfl
  · rw [hr] at h
    cases h

theorem require_answers {condition : Bool} {e : ε} {s s' : σ} {u : Unit}
    (h : effect (require condition e : Action ω σ ε Unit) s = (.ok u, s')) :
    condition = true ∧ s = s' := by
  cases condition with
  | false => cases h
  | true => exact ⟨rfl, (Prod.mk.inj h).2⟩

/-- Two loops with the same calls on the elements of a list are the same there. -/
theorem forEach_congr {as : List α} {f f' : α → Action ω σ ε Unit} (h : ∀ a ∈ as, f a = f' a) :
    forEach as f = forEach as f' := by
  induction as with
  | nil => rfl
  | cons a rest ih =>
    obtain ⟨hfirst, hrest⟩ := List.forall_mem_cons.mp h
    rw [forEach_cons, forEach_cons, hfirst, ih hrest]

/-! ## Invariants -/

/-- Wherever `I` holds before the call it holds after it, whether the call succeeds or fails. -/
def Keeps (I : σ → Prop) (x : Action ω σ ε α) : Prop := ∀ s, I s → I (effect x s).2

variable {I : σ → Prop}

/-- An invariant survives a call if it survives all the ways in which the call can end. -/
theorem Keeps.of_outcome {x : Action ω σ ε α} {R : σ → Except ε α × σ → Prop}
    (h : ∀ s, R s (effect x s)) (hR : ∀ s r, R s r → I s → I r.2) : Keeps I x :=
  fun s hs => hR s (effect x s) (h s) hs

theorem keeps_pure (a : α) : Keeps I (pure a : Action ω σ ε α) := fun _ hs => hs

theorem keeps_fail (e : ε) : Keeps I (fail e : Action ω σ ε α) := fun _ hs => hs

theorem keeps_look (f : σ → α) : Keeps I (look f : Action ω σ ε α) := fun _ hs => hs

theorem keeps_say (event : ω) : Keeps I (say event : Action ω σ ε Unit) := fun _ hs => hs

theorem keeps_require (condition : Bool) (e : ε) :
    Keeps I (require condition e : Action ω σ ε Unit) := by
  intro s hs
  cases condition <;> exact hs

theorem keeps_change {f : σ → σ} (h : ∀ s, I s → I (f s)) :
    Keeps I (change f : Action ω σ ε Unit) := h

theorem Keeps.bind {x : Action ω σ ε α} {f : α → Action ω σ ε β} (hx : Keeps I x)
    (hf : ∀ a, Keeps I (f a)) : Keeps I (x >>= f) := by
  intro s hs
  have hmid := hx s hs
  rw [effect_bind]
  rcases hr : effect x s with ⟨r, s'⟩
  rw [hr] at hmid
  -- A failure ends the run where the first call left it.
  cases r with
  | error e => exact hmid
  | ok a => exact hf a s' hmid

theorem Keeps.attempt {x : Action ω σ ε α} (hx : Keeps I x) :
    Keeps I (x.attempt : Action ω σ ε' (Except ε α)) := hx

theorem Keeps.answering {x : Action ω σ ε α} (hx : Keeps I x) (b : β) : Keeps I (x.answering b) :=
  hx.bind fun _ => keeps_pure b

theorem Keeps.map {x : Action ω σ ε α} (hx : Keeps I x) (f : α → β) : Keeps I (f <$> x) :=
  hx.bind fun a => keeps_pure (f a)

theorem Keeps.ite {x y : Action ω σ ε α} {p : Prop} [Decidable p] (hx : Keeps I x)
    (hy : Keeps I y) : Keeps I (if p then x else y) := by
  split
  · exact hx
  · exact hy

/-- The induction over a loop, once for all invariants. -/
theorem Keeps.fold {f : β → α → Action ω σ ε β} (hf : ∀ b a, Keeps I (f b a)) (b : β)
    (as : List α) : Keeps I (fold f b as) := by
  induction as generalizing b with
  | nil => exact keeps_pure b
  | cons a rest ih =>
    rw [fold_cons]
    exact (hf b a).bind ih

theorem Keeps.forEach {f : α → Action ω σ ε Unit} (hf : ∀ a, Keeps I (f a)) (as : List α) :
    Keeps I (forEach as f) :=
  Keeps.fold (fun _ a => hf a) () as

end DualSlot.Action
