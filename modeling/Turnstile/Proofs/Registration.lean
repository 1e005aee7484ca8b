import Turnstile.Proofs.Action
import Turnstile.Proofs.MemoryService

/-!
How a registration ends, with the world that is left. An account is created before
its role is looked for, so it stays even where the role cannot be given.
-/

namespace Turnstile

/-- The account is the one that was asked for. -/
structure NewUser.Makes (u : NewUser) (user : User) : Prop where
  name : user.name = u.name
  phone : user.phone = u.phone
  email : user.email = u.email
  passwordHash : user.passwordHash = u.passwordHash
  phoneVerified : user.phoneVerified = u.phoneVerified

namespace MemoryState

variable {u : NewUser} {now : Instant} {s t : MemoryState}

theorem of_createUser {user : User} (h : createUser u now s = (.ok user, t)) :
    user.id = s.nextUserId ∧ user.status = "active" ∧
      t = { s with users := s.users.put user.id user } := by
  unfold createUser at h
  split at h
  · cases h
  · cases h
    exact ⟨rfl, rfl, rfl⟩

/-- An account is only created where nobody has its address or its number. -/
theorem of_createUser_made {user : User} (h : createUser u now s = (.ok user, t)) :
    u.Makes user ∧
      ∀ v ∈ s.users.values, agreesUpToCase v.email u.email = false ∧ v.phone ≠ u.phone := by
  unfold createUser at h
  split at h
  · cases h
  · rename_i hclear
    cases h
    exact ⟨⟨rfl, rfl, rfl, rfl, rfl⟩, by simpa using hclear⟩

theorem of_createUser_error {f : Failure} (h : createUser u now s = (.error f, t)) : t = s := by
  unfold createUser at h
  split at h
  · cases h
    rfl
  · cases h

end MemoryState

/-- The account that a registration asks for, with the salt drawn under a number. -/
def App.newUser {σ : Type} (app : App σ) (request : RegisterRequest) (number : Nat) :
    NewUser where
  name := Text.trim request.name
  phone := Text.trim request.phone
  email := Text.lower (Text.trim request.email)
  passwordHash := app.passwords.hash (app.saltAt number) request.password
  phoneVerified := !app.registration.verifyOnRegister

/-- The role that new accounts get. -/
def MemoryService.defaultRole? (m : MemoryService) (t : PolicyTables) : Option Role :=
  t.roles.values.find? fun r => r.name == m.settings.registration.defaultRole

/-- How a registration ends: refused before anything is drawn, refused by the table of
accounts, or with a new account, which has the default role if there is one. -/
inductive RegisterEnd (m : MemoryService) (request : RegisterRequest) (w : World MemoryState) :
    Except Failure UserProfile → World MemoryState → Prop
  | invalid {e : ServiceError} (hcheck : Request.check request = .error e) :
      RegisterEnd m request w (.error (.error e)) w
  | known (hknown : (w.stores.findByEmail? (Text.lower (Text.trim request.email))).isSome ∨
        (w.stores.findByPhone? (Text.trim request.phone)).isSome) :
      RegisterEnd m request w (.error (.error .duplicateRegistration)) w
  | clashed {f : Failure} {s : MemoryState}
      (hcreate : MemoryState.createUser (m.app.newUser request w.drawn) w.now w.stores =
        (.error f, s)) :
      RegisterEnd m request w (.error f) { w with drawn := w.drawn + 1, stores := s }
  | alone {user : User} {s : MemoryState}
      (hcreate : MemoryState.createUser (m.app.newUser request w.drawn) w.now w.stores =
        (.ok user, s))
      (hrole : m.defaultRole? s.policies = none) :
      RegisterEnd m request w (.ok user.profile) { w with drawn := w.drawn + 1, stores := s }
  | joined {user : User} {s : MemoryState} {role : Role} {policies : PolicyTables}
      (hcreate : MemoryState.createUser (m.app.newUser request w.drawn) w.now w.stores =
        (.ok user, s))
      (hrole : m.defaultRole? s.policies = some role)
      (hassign : PolicyTables.assignRole user.id role.id w.now s.policies = .ok ((), policies)) :
      RegisterEnd m request w (.ok user.profile)
        { w with drawn := w.drawn + 1, stores := { s with policies := policies } }
  | unassigned {user : User} {s : MemoryState} {role : Role} {e : ServiceError}
      (hcreate : MemoryState.createUser (m.app.newUser request w.drawn) w.now w.stores =
        (.ok user, s))
      (hrole : m.defaultRole? s.policies = some role)
      (hassign : PolicyTables.assignRole user.id role.id w.now s.policies = .error e) :
      RegisterEnd m request w (.error (.error e))
        { w with drawn := w.drawn + 1, stores := s }

namespace MemoryService

variable (m : MemoryService)

theorem runOn_isRegistered (w : World MemoryState) (email phone : String) :
    (m.app.isRegistered email phone).runOn w =
      (.ok ((w.stores.findByEmail? email).isSome || (w.stores.findByPhone? phone).isSome), w) := by
  have hemail : (Action.store (m.app.stores.users.findByEmail email)).runOn w =
      (.ok (w.stores.findByEmail? email), w) := Action.runOn_store ..
  have hphone : (Action.store (m.app.stores.users.findByPhone phone)).runOn w =
      (.ok (w.stores.findByPhone? phone), w) := Action.runOn_store ..
  unfold App.isRegistered
  rw [Action.runOn_bind_ok hemail]
  cases w.stores.findByEmail? email with
  | some found => rfl
  | none => exact Action.runOn_bind_ok hphone

end MemoryService

theorem register_ends (m : MemoryService) (request : RegisterRequest) (w : World MemoryState) :
    RegisterEnd m request w ((m.app.register request).runOn w).1
      ((m.app.register request).runOn w).2 := by
  unfold App.register
  refine Action.ends_bind (.check _) (fun f hf => ?_) fun _ _ => ?_
  · obtain ⟨e, hcheck, rfl⟩ := Action.of_runOn_check_error hf
    exact .invalid hcheck
  rw [Action.runOn_bind_ok (m.runOn_isRegistered w _ _)]
  cases hknown : (w.stores.findByEmail? (Text.lower (Text.trim request.email))).isSome ||
      (w.stores.findByPhone? (Text.trim request.phone)).isSome with
  | true => exact .known (Bool.or_eq_true_iff.mp hknown)
  | false =>
    let create := Action.store (m.app.stores.users.create (m.app.newUser request w.drawn))
    change RegisterEnd m request w
      (Action.runOn (create >>= _) { w with drawn := w.drawn + 1 }).1
      (Action.runOn (create >>= _) { w with drawn := w.drawn + 1 }).2
    cases hcreate : MemoryState.createUser (m.app.newUser request w.drawn) w.now w.stores with
    | mk created s =>
    have hrun : create.runOn { w with drawn := w.drawn + 1 } =
        (created, { w with drawn := w.drawn + 1, stores := s }) := by
      rw [Action.runOn_store]
      exact congrArg (fun r => (r.1, { w with drawn := w.drawn + 1, stores := r.2 })) hcreate
    cases created with
    | error f =>
      rw [Action.runOn_bind_error hrun]
      exact .clashed hcreate
    | ok user =>
      rw [Action.runOn_bind_ok hrun]
      have hfind : (Action.store (m.app.stores.policies.findRoleByName
          m.app.registration.defaultRole)).runOn
            { w with drawn := w.drawn + 1, stores := s } =
          (.ok (m.defaultRole? s.policies), { w with drawn := w.drawn + 1, stores := s }) :=
        Action.runOn_store ..
      rw [Action.runOn_bind_ok hfind]
      cases hrole : m.defaultRole? s.policies with
      | none => exact .alone hcreate hrole
      | some role =>
        let assign := Action.store (m.app.stores.policies.assignRole user.id role.id)
        have hstep : m.app.stores.policies.assignRole user.id role.id w.now s =
            MemoryState.policyStep (PolicyTables.assignRole user.id role.id) w.now s := rfl
        unfold MemoryState.policyStep at hstep
        cases hassign : PolicyTables.assignRole user.id role.id w.now s.policies with
        | error e =>
          rw [hassign] at hstep
          have hassigned : assign.runOn { w with drawn := w.drawn + 1, stores := s } =
              (.error (.error e), { w with drawn := w.drawn + 1, stores := s }) := by
            rw [Action.runOn_store, hstep]
            rfl
          dsimp only
          rw [Action.runOn_bind_error hassigned]
          exact .unassigned hcreate hrole hassign
        | ok done =>
          rw [hassign] at hstep
          have hassigned : assign.runOn { w with drawn := w.drawn + 1, stores := s } =
              (.ok (), { w with
                drawn := w.drawn + 1
                stores := { s with policies := done.2 } }) := by
            rw [Action.runOn_store, hstep]
          dsimp only
          rw [Action.runOn_bind_ok hassigned]
          exact .joined hcreate hrole hassign

end Turnstile
