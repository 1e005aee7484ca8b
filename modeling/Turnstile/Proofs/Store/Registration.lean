import Turnstile.Proofs.Store.Whole

/-!
What is left of a registration, whatever store call of it fails. Each call is whole, but no
transaction holds them together: the account is created before its role is looked for.
-/

namespace Turnstile

/-! ### Calls of whole steps -/

section Calls

variable {σ α : Type} {view : StoreView σ} {step : StoreStep σ α}

/-- A call of a step that reads. -/
theorem StoreStep.Reads.call {seen : Snapshot → α} (h : StoreStep.Reads view seen step)
    (w : World σ) (hvalid : view.Valid w.stores) :
    ∃ answer s, step w.now w.stores = (answer, s) ∧
      (Action.store step).runOn w = (answer, { w with stores := s }) ∧ view.Valid s ∧
      view.snapshot s = view.snapshot w.stores ∧
      ∀ a, answer = .ok a → a = seen (view.snapshot w.stores) :=
  ⟨_, _, rfl, Action.runOn_store step w, h w.now w.stores hvalid⟩

/-- A call of a step that writes. -/
theorem StoreStep.Writes.call {done : Snapshot → α → Snapshot → Prop}
    (h : StoreStep.Writes view done step) (w : World σ) (hvalid : view.Valid w.stores) :
    ∃ answer s, step w.now w.stores = (answer, s) ∧
      (Action.store step).runOn w = (answer, { w with stores := s }) ∧ view.Valid s ∧
      (∀ f, answer = .error f → view.snapshot s = view.snapshot w.stores) ∧
      ∀ a, answer = .ok a → done (view.snapshot w.stores) a (view.snapshot s) :=
  ⟨_, _, rfl, Action.runOn_store step w, h w.now w.stores hvalid⟩

end Calls

namespace App

variable {σ : Type} (app : App σ)

/-- A new account could not get the default role: the role could not be looked for, or it was
there and could not be given. -/
inductive RoleRefused (now : Instant) (user : User) (f : Failure) : σ → σ → Prop
  | unasked {s t : σ}
      (hfind : app.stores.policies.findRoleByName app.registration.defaultRole now s =
        (.error f, t)) : RoleRefused now user f s t
  | ungiven {s t u : σ} {role : Role}
      (hfind : app.stores.policies.findRoleByName app.registration.defaultRole now s =
        (.ok (some role), t))
      (hassign : app.stores.policies.assignRole user.id role.id now t = (.error f, u)) :
      RoleRefused now user f s u

/-- The default role is given to a user, if it is there. -/
def DefaultRoleGiven (user : User) (before after : Snapshot) : Prop :=
  match before.role? app.registration.defaultRole with
  | some role => before.GainsRole user.id role.id after
  | none => after = before

/-- The account is there, and what came of giving it a role is all that was done after that. -/
structure Created (view : StoreView σ) (request : RegisterRequest) (w : World σ) (user : User)
    (s : σ) : Prop where
  step : ∃ t, view.snapshot t = view.snapshot w.stores ∧
    app.stores.users.create (app.newUser request w.drawn) w.now t = (.ok user, s)
  made : (app.newUser request w.drawn).Makes user
  gains : (view.snapshot w.stores).Gains user (view.snapshot s)

/-- How a registration ends: without any effect, with an account that could not get its role, or
done. -/
inductive RegisterOutcome (view : StoreView σ) (request : RegisterRequest) (w : World σ) :
    Except Failure UserProfile → σ → Prop
  | refused {f : Failure} {s : σ} (hsame : view.snapshot s = view.snapshot w.stores) :
      RegisterOutcome view request w (.error f) s
  | stranded {user : User} {f : Failure} {s t : σ} (hcreated : app.Created view request w user s)
      (hsame : view.snapshot t = view.snapshot s) (hcause : app.RoleRefused w.now user f s t) :
      RegisterOutcome view request w (.error f) t
  | done {user : User} {s t : σ} (hcreated : app.Created view request w user s)
      (hgiven : app.DefaultRoleGiven user (view.snapshot s) (view.snapshot t)) :
      RegisterOutcome view request w (.ok user.profile) t

end App

section Register

variable {σ : Type} {app : App σ} {view : StoreView σ}

/-- Whether somebody registered is asked without any effect that is seen. -/
theorem Stores.Whole.isRegistered (hwhole : app.stores.Whole view) (email phone : String)
    (w : World σ) (hvalid : view.Valid w.stores) :
    ∃ answer s, (app.isRegistered email phone).runOn w = (answer, { w with stores := s }) ∧
      view.Valid s ∧ view.snapshot s = view.snapshot w.stores ∧
      ((view.snapshot w.stores).byEmail? email ≠ none → answer ≠ .ok false) := by
  obtain ⟨byEmail, s, -, hrun, hs, hsame, hemail⟩ := (hwhole.findByEmail email).call w hvalid
  unfold App.isRegistered
  cases byEmail with
  | error f =>
    exact ⟨.error f, s, Action.runOn_bind_error hrun, hs, hsame, fun _ h => nomatch h⟩
  | ok found =>
    rw [Action.runOn_bind_ok hrun]
    cases found with
    | some user => exact ⟨.ok true, s, rfl, hs, hsame, fun _ h => nomatch h⟩
    | none =>
      obtain ⟨byPhone, t, -, hrun, ht, hsame', -⟩ :=
        (hwhole.findByPhone phone).call { w with stores := s } hs
      have hnobody : (view.snapshot w.stores).byEmail? email = none := (hemail none rfl).symm
      refine ⟨byPhone.map (·.isSome), t, ?_, ht, hsame'.trans hsame, fun h => (h hnobody).elim⟩
      cases byPhone with
      | error f => exact Action.runOn_bind_error hrun
      | ok found => exact Action.runOn_bind_ok hrun

/-- What follows the creation of an account: looking for the default role, and giving it. -/
theorem Stores.Whole.giveRole (hwhole : app.stores.Whole view) {request : RegisterRequest}
    {w : World σ} {user : User} {s : σ} (hcreated : app.Created view request w user s)
    (hvalid : view.Valid s) {next : Option Role → Action σ UserProfile}
    (hnone : next none = pure user.profile)
    (hsome : ∀ role, next (some role) =
      Action.store (app.stores.policies.assignRole user.id role.id) >>= fun _ => pure user.profile)
    (drawn : Nat) :
    let find := Action.store (app.stores.policies.findRoleByName app.registration.defaultRole)
    let v := { w with drawn := drawn, stores := s }
    app.RegisterOutcome view request w ((find >>= next).runOn v).1
      ((find >>= next).runOn v).2.stores := by
  intro find v
  obtain ⟨found, t, hfind, hrun, ht, hsame, hseen⟩ :=
    (hwhole.findRoleByName app.registration.defaultRole).call v hvalid
  rw [Action.runOn_bind, hrun]
  cases found with
  | error f => exact .stranded hcreated hsame (.unasked hfind)
  | ok role? =>
  have hrole := hseen role? rfl
  cases role? with
  | none =>
    dsimp only
    rw [hnone]
    refine .done hcreated ?_
    unfold App.DefaultRoleGiven
    rw [← hrole]
    exact hsame
  | some role =>
  obtain ⟨assigned, u, hassign, hrun, -, hfailed, hgiven⟩ :=
    (hwhole.assignRole user.id role.id).call { w with drawn := drawn, stores := t } ht
  dsimp only
  rw [hsome, Action.runOn_bind, hrun]
  cases assigned with
  | error f => exact .stranded hcreated ((hfailed f rfl).trans hsame) (.ungiven hfind hassign)
  | ok _ =>
    refine .done hcreated ?_
    unfold App.DefaultRoleGiven
    rw [← hrole]
    exact hsame ▸ hgiven () rfl

/-- Every registration ends in one of these ways. -/
theorem Stores.Whole.register (hwhole : app.stores.Whole view) (request : RegisterRequest)
    (w : World σ) (hvalid : view.Valid w.stores) :
    app.RegisterOutcome view request w ((app.register request).runOn w).1
      ((app.register request).runOn w).2.stores := by
  unfold App.register
  rw [Action.runOn_bind, Action.runOn_check]
  cases Request.check request with
  | error e => exact .refused rfl
  | ok _ =>
  dsimp only [Except.mapError]
  obtain ⟨known, s, hrun, hs, hsame, -⟩ := hwhole.isRegistered
    (Text.lower (Text.trim request.email)) (Text.trim request.phone) w hvalid
  rw [Action.runOn_bind, hrun]
  cases known with
  | error f => exact .refused hsame
  | ok known =>
  cases known with
  | true => exact .refused hsame
  | false =>
  let create := Action.store (app.stores.users.create (app.newUser request w.drawn))
  obtain ⟨created, t, hcreate, hrun, ht, hfailed, hdone⟩ :=
    (hwhole.createUser (app.newUser request w.drawn)).call
      { w with drawn := w.drawn + 1, stores := s } hs
  change app.RegisterOutcome view request w
    (Action.runOn (create >>= _) { w with drawn := w.drawn + 1, stores := s }).1
    (Action.runOn (create >>= _) { w with drawn := w.drawn + 1, stores := s }).2.stores
  rw [Action.runOn_bind, hrun]
  cases created with
  | error f => exact .refused ((hfailed f rfl).trans hsame)
  | ok user =>
    obtain ⟨hmade, hgains⟩ := hdone user rfl
    have hcreated : app.Created view request w user t :=
      ⟨⟨s, hsame, hcreate⟩, hmade, hsame ▸ hgains⟩
    exact hwhole.giveRole hcreated ht rfl (fun _ => rfl) (w.drawn + 1)

/-- Nobody is registered with an address that is taken. -/
theorem Stores.Whole.register_known (hwhole : app.stores.Whole view) {request : RegisterRequest}
    {w : World σ} (hvalid : view.Valid w.stores)
    (hknown : (view.snapshot w.stores).byEmail? (Text.lower (Text.trim request.email)) ≠ none)
    (profile : UserProfile) : ((app.register request).runOn w).1 ≠ .ok profile := by
  unfold App.register
  rw [Action.runOn_bind, Action.runOn_check]
  cases Request.check request with
  | error e => exact fun h => nomatch h
  | ok _ =>
    dsimp only [Except.mapError]
    obtain ⟨known, s, hrun, -, -, htaken⟩ := hwhole.isRegistered
      (Text.lower (Text.trim request.email)) (Text.trim request.phone) w hvalid
    rw [Action.runOn_bind, hrun]
    cases known with
    | error f => exact fun h => nomatch h
    | ok known =>
      cases known with
      | true => exact fun h => nomatch h
      | false => exact absurd rfl (htaken hknown)

/-- A registration that fails has had no effect, or it has created the account and could not give
it the role after that; then the account stays, and the same request never succeeds from there.
One that succeeds has created the account, and given it the default role if that is there. -/
theorem register_effect (hwhole : app.stores.Whole view) (request : RegisterRequest) {w : World σ}
    (hvalid : view.Valid w.stores) :
    let answer := ((app.register request).runOn w).1
    let v := ((app.register request).runOn w).2
    (∀ f, answer = .error f →
      view.snapshot v.stores = view.snapshot w.stores ∨
        ∃ user s, app.Created view request w user s ∧
          view.snapshot v.stores = view.snapshot s ∧
          app.RoleRefused w.now user f s v.stores ∧
          ∀ u : World σ, view.Valid u.stores → view.snapshot u.stores = view.snapshot v.stores →
            ∀ profile, ((app.register request).runOn u).1 ≠ .ok profile) ∧
    ∀ profile, answer = .ok profile →
      ∃ user s, profile = user.profile ∧ app.Created view request w user s ∧
        app.DefaultRoleGiven user (view.snapshot s) (view.snapshot v.stores) := by
  intro answer v
  have houtcome : app.RegisterOutcome view request w answer v.stores :=
    hwhole.register request w hvalid
  generalize answer = r at houtcome
  generalize v.stores = s at houtcome
  constructor
  · rintro f rfl
    cases houtcome with
    | refused hsame => exact .inl hsame
    | @stranded user _ t _ hcreated hsame hcause =>
      refine .inr ⟨user, t, hcreated, hsame, hcause, fun u hu hseen => ?_⟩
      refine hwhole.register_known hu ?_
      have hemail := hcreated.gains.byEmail?
      rw [hcreated.made.email] at hemail
      rw [hseen, hsame]
      exact ne_of_eq_of_ne hemail (Option.some_ne_none user)
  · rintro profile rfl
    cases houtcome with
    | @done user t _ hcreated hgiven => exact ⟨user, t, rfl, hcreated, hgiven⟩

end Register

/-! ### An account without its role -/

namespace Sample

def newcomer : RegisterRequest := ⟨"Ann", "+10000000001", "ann@example.com", "password"⟩

/-- The service over stores that fail by a plan. -/
def faultyApp : App (Faulty MemoryState) where
  stores := MemoryState.stores.faulty
  keys := service.keys
  passwords := service.passwords
  settings := service.settings
  sessionIdAt := service.sessionIdAt
  saltAt := service.saltAt

def outage : Failure := .error (.database (.reported "57P01" "terminating connection"))

/-- Nobody is registered yet, and the fourth call of a store will fail. -/
def beforeOutage : World (Faulty MemoryState) where
  now := .ofSeconds 0
  drawn := 0
  engine := world.engine
  stores := ⟨{}, [none, none, none, some outage]⟩

/-- The world after the registration during which the database fails. -/
def afterOutage : World (Faulty MemoryState) := ((faultyApp.register newcomer).runOn beforeOutage).2

theorem faultyApp_whole : faultyApp.stores.Whole MemoryState.view.faulty :=
  MemoryState.stores_whole.faulty

theorem beforeOutage_valid : MemoryState.view.faulty.Valid beforeOutage.stores :=
  ⟨fun _ h => (nomatch h), List.Pairwise.nil⟩

theorem register_outage : ((faultyApp.register newcomer).runOn beforeOutage).1 = .error outage := by
  decide +kernel

/-- The registration fails, and yet it has created an account, with which the next attempt is
refused although nothing fails any more. -/
theorem stranded_account :
    faultyApp.stores.Whole MemoryState.view.faulty ∧
      ((faultyApp.register newcomer).runOn beforeOutage).1 = .error outage ∧
      beforeOutage.stores.stores.users.contains 1 = false ∧
      afterOutage.stores.stores.users.contains 1 = true ∧
      afterOutage.stores.plan = [] ∧
      ((faultyApp.register newcomer).runOn afterOutage).1 =
        .error (.error .duplicateRegistration) :=
  ⟨faultyApp_whole, register_outage, by decide, by decide +kernel, by decide +kernel,
    by decide +kernel⟩

/-- All that the failed registration has done. -/
theorem register_effect_outage :
    MemoryState.view.faulty.snapshot afterOutage.stores =
        MemoryState.view.faulty.snapshot beforeOutage.stores ∨
      ∃ user s, faultyApp.Created MemoryState.view.faulty newcomer beforeOutage user s ∧
        MemoryState.view.faulty.snapshot afterOutage.stores =
          MemoryState.view.faulty.snapshot s ∧
        faultyApp.RoleRefused beforeOutage.now user outage s afterOutage.stores ∧
        ∀ u : World (Faulty MemoryState), MemoryState.view.faulty.Valid u.stores →
          MemoryState.view.faulty.snapshot u.stores =
            MemoryState.view.faulty.snapshot afterOutage.stores →
          ∀ profile, ((faultyApp.register newcomer).runOn u).1 ≠ .ok profile :=
  (register_effect faultyApp_whole newcomer beforeOutage_valid).1 outage register_outage

end Sample

end Turnstile
