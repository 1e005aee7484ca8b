import Turnstile.Proofs.Action

/-!
One call in two worlds. A call respects a relation between worlds if, from worlds that are
related, it answers the same and leaves worlds that are related again; so does every sequence
of such calls.
-/

namespace Turnstile.Action

variable {σ α β : Type} {R : World σ → World σ → Prop}

/-- From related worlds the call gives one answer and leads to related worlds. -/
def Respects (R : World σ → World σ → Prop) (a : Action σ α) : Prop :=
  ∀ w v, R w v → (a.runOn w).1 = (a.runOn v).1 ∧ R (a.runOn w).2 (a.runOn v).2

namespace Respects

theorem bind {a : Action σ α} {f : α → Action σ β} (ha : Respects R a)
    (hf : ∀ x, Respects R (f x)) : Respects R (a >>= f) := by
  intro w v h
  obtain ⟨hanswer, hafter⟩ := ha w v h
  rw [runOn_bind, runOn_bind]
  generalize a.runOn w = r at hanswer hafter
  generalize a.runOn v = r' at hanswer hafter
  obtain ⟨answer, w₁⟩ := r
  obtain ⟨answer', v₁⟩ := r'
  obtain rfl : answer = answer' := hanswer
  cases answer with
  | ok x => exact hf x w₁ v₁ hafter
  | error e => exact ⟨rfl, hafter⟩

theorem pure (a : α) : Respects R (Pure.pure a : Action σ α) := fun _ _ h => ⟨rfl, h⟩

theorem fail (e : ServiceError) : Respects R (Action.fail e : Action σ α) :=
  fun _ _ h => ⟨rfl, h⟩

theorem ofExcept (r : Except Failure α) : Respects R (Action.ofExcept r) := by
  intro w v h
  rw [runOn_ofExcept, runOn_ofExcept]
  exact ⟨rfl, h⟩

/-- The clock shows the same where related worlds agree on the time. -/
theorem clock (hnow : ∀ w v, R w v → w.now = v.now) : Respects R Action.clock :=
  fun w v h => ⟨congrArg Except.ok (hnow w v h), h⟩

theorem ite {p : Prop} [Decidable p] {a b : Action σ α} (ha : Respects R a)
    (hb : Respects R b) : Respects R (if p then a else b) := by
  split
  · exact ha
  · exact hb

theorem store {step : StoreStep σ α}
    (h : ∀ w v, R w v → (step w.now w.stores).1 = (step v.now v.stores).1 ∧
      R { w with stores := (step w.now w.stores).2 } { v with stores := (step v.now v.stores).2 }) :
    Respects R (Action.store step) := by
  intro w v hwv
  rw [runOn_store, runOn_store]
  exact h w v hwv

end Respects

end Turnstile.Action
