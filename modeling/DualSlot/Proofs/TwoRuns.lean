import DualSlot.Proofs.Action

/-!
# Two runs side by side

A call is run from two states that look alike. `Action.Respects` says that nobody can tell the two runs
apart: they answer and report the same, events and all, and leave states that look alike again.

The first run may get lost on the way, and then nothing is said of the second. Since a run that is lost
stays so, one that is not lost in the end never was.

Like `Action.Keeps` this is closed under all the ways in which calls are combined, so that it has to be
checked on the basic calls only.
-/

namespace DualSlot

/-- Two outcomes that cannot be told apart, with states that look alike. -/
structure Outcome.Matches {ω σ ε α : Type} (alike : σ → σ → Prop) (o o' : Outcome ω σ ε α) : Prop where
  result_eq : o'.result = o.result
  events_eq : o'.events = o.events
  alike : alike o.state o'.state

namespace Action

variable {ω σ ε ε' α β : Type}

/-- From states that look alike the call does the same, as long as the first run is not lost. -/
structure Respects (alike : σ → σ → Prop) (lost : σ → Prop) (x : Action ω σ ε α) : Prop where
  lost_stays : Keeps lost x
  same : ∀ s s', alike s s' → ¬ lost (x s).state → (x s).Matches alike (x s')

variable {alike : σ → σ → Prop} {lost : σ → Prop}

/-! ## Basic calls -/

theorem respects_pure (a : α) : Respects alike lost (pure a : Action ω σ ε α) where
  lost_stays := keeps_pure a
  same _ _ h _ := ⟨rfl, rfl, h⟩

theorem respects_fail (e : ε) : Respects alike lost (fail e : Action ω σ ε α) where
  lost_stays := keeps_fail e
  same _ _ h _ := ⟨rfl, rfl, h⟩

theorem respects_say (event : ω) : Respects alike lost (say event : Action ω σ ε Unit) where
  lost_stays := keeps_say event
  same _ _ h _ := ⟨rfl, rfl, h⟩

theorem respects_ofExcept (r : Except ε α) : Respects alike lost (ofExcept r : Action ω σ ε α) where
  lost_stays _ h := h
  same _ _ h _ := ⟨rfl, rfl, h⟩

theorem respects_require (condition : Bool) (e : ε) :
    Respects alike lost (require condition e : Action ω σ ε Unit) := by
  cases condition with
  | false => exact respects_fail e
  | true => exact respects_pure ()

/-- What is read off the state must be the same for states that look alike. -/
theorem respects_look {f : σ → α} (h : ∀ s s', alike s s' → f s' = f s) :
    Respects alike lost (look f : Action ω σ ε α) where
  lost_stays := keeps_look f
  same s s' hs _ := ⟨congrArg Except.ok (h s s' hs), rfl, hs⟩

theorem respects_change {f : σ → σ} (hlost : ∀ s, lost s → lost (f s))
    (h : ∀ s s', alike s s' → alike (f s) (f s')) :
    Respects alike lost (change f : Action ω σ ε Unit) where
  lost_stays := keeps_change hlost
  same s s' hs _ := ⟨rfl, rfl, h s s' hs⟩

/-! ## Calls put together -/

theorem Respects.bind {x : Action ω σ ε α} {f : α → Action ω σ ε β} (hx : Respects alike lost x)
    (hf : ∀ a, Respects alike lost (f a)) : Respects alike lost (x >>= f) where
  lost_stays := hx.lost_stays.bind fun a => (hf a).lost_stays
  same s s' hs hend := by
    have hfirst := hx.same s s' hs
    rw [bind_apply] at hend
    rw [bind_apply, bind_apply]
    rcases hr : x s with ⟨r, mid, earlier⟩
    rcases hr' : x s' with ⟨r', mid', earlier'⟩
    rw [hr] at hfirst hend
    rw [hr'] at hfirst
    cases r with
    | error e =>
      -- An error ends both runs at the same place.
      obtain ⟨hresult, hevents, hmid⟩ := hfirst hend
      obtain rfl : r' = .error e := hresult
      exact ⟨rfl, hevents, hmid⟩
    | ok a =>
      -- Had the run been lost before the second call, it would be so after it.
      have hnot : ¬ lost mid := fun h => hend ((hf a).lost_stays mid h)
      obtain ⟨hresult, hevents, hmid⟩ := hfirst hnot
      obtain rfl : r' = .ok a := hresult
      obtain rfl : earlier' = earlier := hevents
      obtain ⟨hresult', hevents', hafter⟩ := (hf a).same mid mid' hmid hend
      exact ⟨hresult', congrArg (earlier' ++ ·) hevents', hafter⟩

theorem Respects.attempt {x : Action ω σ ε α} (hx : Respects alike lost x) :
    Respects alike lost (x.attempt : Action ω σ ε' (Except ε α)) where
  lost_stays := hx.lost_stays.attempt
  same s s' hs hend := by
    obtain ⟨hresult, hevents, hafter⟩ := hx.same s s' hs hend
    exact ⟨congrArg Except.ok hresult, hevents, hafter⟩

theorem Respects.ite {x y : Action ω σ ε α} {p : Prop} [Decidable p] (hx : Respects alike lost x)
    (hy : Respects alike lost y) : Respects alike lost (if p then x else y) := by
  split
  · exact hx
  · exact hy

/-- The induction over a loop, once for all relations. -/
theorem Respects.fold {f : β → α → Action ω σ ε β} (hf : ∀ b a, Respects alike lost (f b a)) (b : β)
    (as : List α) : Respects alike lost (fold f b as) := by
  induction as generalizing b with
  | nil => exact respects_pure b
  | cons a rest ih =>
    rw [fold_cons]
    exact (hf b a).bind ih

theorem Respects.forEach {f : α → Action ω σ ε Unit} (hf : ∀ a, Respects alike lost (f a))
    (as : List α) : Respects alike lost (forEach as f) :=
  Respects.fold (fun _ a => hf a) () as

end Action

end DualSlot
