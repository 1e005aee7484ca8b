import Turnstile.Store.Basic

/-!
What calls of the services see and change: the clock, the random values drawn so far, the rules in
force, and the stores. A call is a step on this world that may fail; what it changed before it failed
stays changed.
-/

namespace Turnstile

structure World (σ : Type) where
  now : Instant
  drawn : Nat
  engine : PolicyEngine
  stores : σ

/-- A call of a service over stores with state `σ`. -/
abbrev Action (σ α : Type) := ExceptT Failure (StateM (World σ)) α

namespace Action

variable {σ α : Type}

/-- Run a call: what comes of it, and the world afterwards. -/
def runOn (a : Action σ α) (w : World σ) : Except Failure α × World σ := (ExceptT.run a).run w

/-- Fail with an error of the service. -/
def fail (e : ServiceError) : Action σ α := throw (.error e)

/-- Succeed or fail as a computation did. -/
def ofExcept (r : Except Failure α) : Action σ α :=
  match r with
  | .ok a => pure a
  | .error f => throw f

/-- Succeed or fail as a check did. -/
def check (r : Except ServiceError α) : Action σ α :=
  match r with
  | .ok a => pure a
  | .error e => fail e

/-- What has to be there. -/
def require (o : Option α) (e : ServiceError) : Action σ α :=
  match o with
  | some a => pure a
  | none => fail e

/-- A step of a store. -/
def store (step : StoreStep σ α) : Action σ α := do
  let w ← get
  let (r, s) := step w.now w.stores
  set { w with stores := s }
  ofExcept r

/-- The time. -/
def clock : Action σ Instant := do
  return (← get).now

/-- The number of the next random value. -/
def draw : Action σ Nat := do
  let w ← get
  set { w with drawn := w.drawn + 1 }
  return w.drawn

/-- The rules in force. -/
def engine : Action σ PolicyEngine := do
  return (← get).engine

/-- Put other rules in force. -/
def setEngine (e : PolicyEngine) : Action σ Unit := modify fun w => { w with engine := e }

end Action

end Turnstile
