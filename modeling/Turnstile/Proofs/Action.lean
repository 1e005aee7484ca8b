import Turnstile.Service.App

/-!
How calls run. Each building block of a call has one equation that says what
comes of it and which world it leaves, and sequencing has one more. `Leaves`
is the frame: a part of the world that a call does not touch, whatever comes
of it.
-/

namespace Turnstile

/-- A step with another answer. -/
def StoreStep.map {σ α β : Type} (f : α → β) (step : StoreStep σ α) : StoreStep σ β :=
  fun now s => ((step now s).1.map f, (step now s).2)

end Turnstile

namespace Turnstile.Action

variable {σ α β : Type}

/-! ### Equations -/

@[simp] theorem runOn_pure (a : α) (w : World σ) :
    (pure a : Action σ α).runOn w = (.ok a, w) := rfl

@[simp] theorem runOn_throw (f : Failure) (w : World σ) :
    (throw f : Action σ α).runOn w = (.error f, w) := rfl

@[simp] theorem runOn_fail (e : ServiceError) (w : World σ) :
    (fail e : Action σ α).runOn w = (.error (.error e), w) := rfl

@[simp] theorem runOn_clock (w : World σ) :
    (clock : Action σ Instant).runOn w = (.ok w.now, w) := rfl

@[simp] theorem runOn_draw (w : World σ) :
    (draw : Action σ Nat).runOn w = (.ok w.drawn, { w with drawn := w.drawn + 1 }) := rfl

@[simp] theorem runOn_engine (w : World σ) :
    (engine : Action σ PolicyEngine).runOn w = (.ok w.engine, w) := rfl

@[simp] theorem runOn_setEngine (e : PolicyEngine) (w : World σ) :
    (setEngine e).runOn w = (.ok (), { w with engine := e }) := rfl

@[simp] theorem runOn_ofExcept (r : Except Failure α) (w : World σ) :
    (ofExcept r).runOn w = (r, w) := by
  cases r <;> rfl

@[simp] theorem runOn_check (r : Except ServiceError α) (w : World σ) :
    (check r).runOn w = (r.mapError .error, w) := by
  cases r <;> rfl

@[simp] theorem runOn_token (r : Except TokenError α) (w : World σ) :
    (token r).runOn w = (r.mapError fun e => .error e.toService, w) := by
  cases r <;> rfl

theorem of_runOn_check {r : Except ServiceError α} {w : World σ} {a : α}
    (h : ((check r).runOn w).1 = .ok a) : r = .ok a := by
  rw [runOn_check] at h
  cases r with
  | ok b => exact congrArg Except.ok (Except.ok.inj h)
  | error e => cases h

theorem of_runOn_check_error {r : Except ServiceError α} {w : World σ} {f : Failure}
    (h : ((check r).runOn w).1 = .error f) : ∃ e, r = .error e ∧ f = .error e := by
  rw [runOn_check] at h
  cases r with
  | ok b => cases h
  | error e => exact ⟨e, rfl, (Except.error.inj h).symm⟩

theorem of_runOn_token {r : Except TokenError α} {w : World σ} {a : α}
    (h : ((token r).runOn w).1 = .ok a) : r = .ok a := by
  rw [runOn_token] at h
  cases r with
  | ok b => exact congrArg Except.ok (Except.ok.inj h)
  | error e => cases h

@[simp] theorem runOn_require_some (a : α) (e : ServiceError) (w : World σ) :
    (require (some a) e).runOn w = (.ok a, w) := rfl

@[simp] theorem runOn_require_none (e : ServiceError) (w : World σ) :
    (require (none : Option α) e).runOn w = (.error (.error e), w) := rfl

@[simp] theorem runOn_store (step : StoreStep σ α) (w : World σ) :
    (store step).runOn w =
      ((step w.now w.stores).1, { w with stores := (step w.now w.stores).2 }) := by
  change (ofExcept (step w.now w.stores).1).runOn
    { w with stores := (step w.now w.stores).2 } = _
  rw [runOn_ofExcept]

/-! ### Sequencing -/

theorem runOn_bind (a : Action σ α) (f : α → Action σ β) (w : World σ) :
    (a >>= f).runOn w = match a.runOn w with
      | (.ok x, w₁) => (f x).runOn w₁
      | (.error e, w₁) => (.error e, w₁) := by
  change (ExceptT.bindCont f (a w).1) (a w).2 = match a w with
    | (.ok x, w₁) => f x w₁
    | (.error e, w₁) => (.error e, w₁)
  rcases a w with ⟨_ | _, _⟩ <;> rfl

theorem runOn_bind_ok {a : Action σ α} {f : α → Action σ β} {x : α} {w w₁ : World σ}
    (h : a.runOn w = (.ok x, w₁)) : (a >>= f).runOn w = (f x).runOn w₁ := by
  rw [runOn_bind, h]

theorem runOn_bind_error {a : Action σ α} {f : α → Action σ β} {e : Failure}
    {w w₁ : World σ} (h : a.runOn w = (.error e, w₁)) :
    (a >>= f).runOn w = (.error e, w₁) := by
  rw [runOn_bind, h]

@[simp] theorem runOn_map (f : α → β) (a : Action σ α) (w : World σ) :
    (f <$> a).runOn w = ((a.runOn w).1.map f, (a.runOn w).2) := by
  rw [map_eq_pure_bind, runOn_bind]
  rcases a.runOn w with ⟨_ | _, _⟩ <;> rfl

/-- What was done before a failure stays done. -/
theorem runOn_tryCatch (a : Action σ α) (h : Failure → Action σ α) (w : World σ) :
    (tryCatch a h).runOn w = match a.runOn w with
      | (.ok x, w₁) => (.ok x, w₁)
      | (.error f, w₁) => (h f).runOn w₁ := by
  simp only [runOn, tryCatch, tryCatchThe, MonadExceptOf.tryCatch, ExceptT.tryCatch, ExceptT.run,
    ExceptT.mk, StateT.run, bind, StateT.bind]
  rcases a w with ⟨_ | _, _⟩ <;> rfl

/-! ### Frames -/

/-- The call leaves a part of the world as it is. -/
def Leaves (part : World σ → β) (a : Action σ α) : Prop :=
  ∀ w, part (a.runOn w).2 = part w

variable {γ : Type} {part : World σ → γ}

theorem Leaves.bind {a : Action σ α} {f : α → Action σ β} (ha : Leaves part a)
    (hf : ∀ x, Leaves part (f x)) : Leaves part (a >>= f) := by
  intro w
  have h₁ := ha w
  rw [runOn_bind]
  cases h : a.runOn w with
  | mk r w₁ =>
    rw [h] at h₁
    cases r with
    | ok x => exact (hf x w₁).trans h₁
    | error e => exact h₁

theorem Leaves.pure (a : α) : Leaves part (Pure.pure a : Action σ α) := fun _ => rfl

theorem Leaves.fail (e : ServiceError) :
    Leaves part (Action.fail e : Action σ α) := fun _ => rfl

theorem Leaves.clock : Leaves part (Action.clock : Action σ Instant) := fun _ => rfl

theorem Leaves.engine : Leaves part (Action.engine : Action σ PolicyEngine) := fun _ => rfl

theorem Leaves.check (r : Except ServiceError α) :
    Leaves part (Action.check r : Action σ α) := by
  intro w
  rw [runOn_check]

theorem Leaves.token (r : Except TokenError α) :
    Leaves part (Action.token r : Action σ α) := by
  intro w
  rw [runOn_token]

theorem Leaves.ite {p : Prop} [Decidable p] {a b : Action σ α} (ha : Leaves part a)
    (hb : Leaves part b) : Leaves part (if p then a else b) := by
  split
  · exact ha
  · exact hb

theorem Leaves.store {step : StoreStep σ α}
    (h : ∀ w : World σ, part { w with stores := (step w.now w.stores).2 } = part w) :
    Leaves part (Action.store step) := by
  intro w
  rw [runOn_store]
  exact h w

/-- How a sequence ends, when its first part changes nothing. -/
theorem ends_bind {P : Except Failure β → World σ → Prop} {a : Action σ α}
    {f : α → Action σ β} {w : World σ} (ha : Leaves id a)
    (herror : ∀ e, (a.runOn w).1 = .error e → P (.error e) w)
    (hok : ∀ x, (a.runOn w).1 = .ok x → P ((f x).runOn w).1 ((f x).runOn w).2) :
    P ((a >>= f).runOn w).1 ((a >>= f).runOn w).2 := by
  have hw := ha w
  rw [runOn_bind]
  cases h : a.runOn w with
  | mk r w₁ =>
    rw [h] at hw herror hok
    obtain rfl : w₁ = w := hw
    cases r with
    | ok x => exact hok x rfl
    | error e => exact herror e rfl

end Turnstile.Action
