import Turnstile.Proofs.Accounts

/-!
Stores whose steps are done as a whole or not at all. What they hold is seen through a
snapshot, so nothing is said about how they keep it, and every single step may fail. Stores
stay of this kind when their steps fail by a plan.
-/

namespace Turnstile

/-- What stores hold, as far as registrations have to do with it. -/
structure Snapshot where
  account? : Int → Option User
  byEmail? : String → Option User
  byPhone? : String → Option User
  role? : String → Option Role
  holdsRole : Int → Int → Prop

namespace Snapshot

/-- There is one account more, and it is found by its address. -/
structure Gains (before : Snapshot) (user : User) (after : Snapshot) : Prop where
  unknown : before.account? user.id = none
  account? : ∀ id, after.account? id = if user.id = id then some user else before.account? id
  byEmail? : after.byEmail? user.email = some user
  role? : after.role? = before.role?
  holdsRole : after.holdsRole = before.holdsRole

/-- A user holds a role more, or held it before. -/
structure GainsRole (before : Snapshot) (userId roleId : Int) (after : Snapshot) : Prop where
  account? : after.account? = before.account?
  byEmail? : after.byEmail? = before.byEmail?
  byPhone? : after.byPhone? = before.byPhone?
  role? : after.role? = before.role?
  holdsRole : ∀ u r, after.holdsRole u r ↔ before.holdsRole u r ∨ u = userId ∧ r = roleId

end Snapshot

/-- How stores with state `σ` are looked at, and which states they can be in. -/
structure StoreView (σ : Type) where
  snapshot : σ → Snapshot
  Valid : σ → Prop

namespace StoreStep

variable {σ α : Type}

/-- The step changes nothing that is seen, and what it answers is what is seen. -/
def Reads (view : StoreView σ) (seen : Snapshot → α) (step : StoreStep σ α) : Prop :=
  ∀ now s, view.Valid s → view.Valid (step now s).2 ∧
    view.snapshot (step now s).2 = view.snapshot s ∧
    ∀ a, (step now s).1 = .ok a → a = seen (view.snapshot s)

/-- The step does what it is for, or fails and changes nothing that is seen. -/
def Writes (view : StoreView σ) (done : Snapshot → α → Snapshot → Prop) (step : StoreStep σ α) :
    Prop :=
  ∀ now s, view.Valid s → view.Valid (step now s).2 ∧
    (∀ f, (step now s).1 = .error f → view.snapshot (step now s).2 = view.snapshot s) ∧
    ∀ a, (step now s).1 = .ok a → done (view.snapshot s) a (view.snapshot (step now s).2)

end StoreStep

/-- Each step of a registration is done as a whole or not at all. -/
structure Stores.Whole {σ : Type} (stores : Stores σ) (view : StoreView σ) : Prop where
  findByEmail : ∀ email, StoreStep.Reads view (·.byEmail? email) (stores.users.findByEmail email)
  findByPhone : ∀ phone, StoreStep.Reads view (·.byPhone? phone) (stores.users.findByPhone phone)
  findRoleByName : ∀ name,
    StoreStep.Reads view (·.role? name) (stores.policies.findRoleByName name)
  createUser : ∀ u, StoreStep.Writes view
    (fun before user after => u.Makes user ∧ before.Gains user after) (stores.users.create u)
  assignRole : ∀ userId roleId, StoreStep.Writes view
    (fun before _ after => before.GainsRole userId roleId after)
    (stores.policies.assignRole userId roleId)

/-! ### Stores in memory -/

namespace MemoryState

def snapshot (s : MemoryState) : Snapshot where
  account? := s.users.find?
  byEmail? := s.findByEmail?
  byPhone? := s.findByPhone?
  role? name := s.policies.roles.values.find? fun r => r.name == name
  holdsRole userId roleId := (userId, roleId) ∈ s.policies.userRoles

/-- Accounts stand under their own identifiers, in order. -/
def view : StoreView MemoryState := ⟨snapshot, Filed⟩

theorem reads_policyQuery {α : Type} {seen : Snapshot → α} (query : PolicyTables → α)
    (h : ∀ s : MemoryState, query s.policies = seen s.snapshot) :
    StoreStep.Reads view seen (policyQuery query) := by
  intro now s hvalid
  refine ⟨hvalid, rfl, fun a ha => ?_⟩
  exact (Except.ok.inj ha).symm.trans (h s)

theorem snapshot_createUser {u : NewUser} {now : Instant} {s t : MemoryState} {user : User}
    (hfiled : s.Filed) (h : createUser u now s = (.ok user, t)) :
    s.snapshot.Gains user t.snapshot := by
  obtain ⟨hmade, hclear⟩ := of_createUser_made h
  obtain ⟨hid, -, rfl⟩ := of_createUser h
  have hself : agreesUpToCase user.email user.email = true := beq_self_eq_true _
  refine ⟨hid ▸ hfiled.find?_nextUserId, fun id => Table.find?_put .., ?_, rfl, rfl⟩
  refine Table.find?_values_put (fun row hrow => ?_) hself
  have hne := (hclear row.2 (List.mem_map.mpr ⟨row, hrow, rfl⟩)).1
  rwa [← hmade.email] at hne

theorem writes_createUser (u : NewUser) :
    StoreStep.Writes view (fun before user after => u.Makes user ∧ before.Gains user after)
      (createUser u) := by
  intro now s hfiled
  generalize hcreate : createUser u now s = r
  obtain ⟨answer, t⟩ := r
  cases answer with
  | error f =>
    obtain rfl := of_createUser_error hcreate
    exact ⟨hfiled, fun _ _ => rfl, fun _ h => nomatch h⟩
  | ok user =>
    have hgains := snapshot_createUser hfiled hcreate
    have hmade := (of_createUser_made hcreate).1
    obtain ⟨-, -, rfl⟩ := of_createUser hcreate
    refine ⟨hfiled.put user, fun _ h => (nomatch h), fun a ha => ?_⟩
    obtain rfl := Except.ok.inj ha
    exact ⟨hmade, hgains⟩

theorem writes_assignRole (userId roleId : Int) :
    StoreStep.Writes view (fun before _ after => before.GainsRole userId roleId after)
      (policyStep (PolicyTables.assignRole userId roleId)) := by
  intro now s hfiled
  unfold policyStep PolicyTables.assignRole
  cases hrole : s.policies.requireRole roleId with
  | error e => exact ⟨hfiled, fun _ _ => rfl, fun _ h => nomatch h⟩
  | ok _ =>
    refine ⟨hfiled.of_users rfl, fun _ h => (nomatch h), fun _ _ => ⟨rfl, rfl, rfl, rfl, ?_⟩⟩
    intro u r
    refine (Links.mem_add ..).trans ?_
    rw [Prod.mk.injEq, or_comm]
    rfl

theorem stores_whole : stores.Whole view where
  findByEmail _ := fun _ _ hvalid => ⟨hvalid, rfl, fun _ h => (Except.ok.inj h).symm⟩
  findByPhone _ := fun _ _ hvalid => ⟨hvalid, rfl, fun _ h => (Except.ok.inj h).symm⟩
  findRoleByName name :=
    reads_policyQuery (fun t => t.roles.values.find? fun r => r.name == name) fun _ => rfl
  createUser := writes_createUser
  assignRole := writes_assignRole

end MemoryState

/-! ### Steps that fail by a plan -/

/-- Stores of which each step takes the next entry of a plan, and fails where one says so. -/
structure Faulty (σ : Type) where
  stores : σ
  plan : List (Option Failure)

section Faulty

variable {σ α : Type}

def StoreStep.faulty (step : StoreStep σ α) : StoreStep (Faulty σ) α := fun now s =>
  match s.plan with
  | some f :: rest => (.error f, { s with plan := rest })
  | _ => ((step now s.stores).1, ⟨(step now s.stores).2, s.plan.tail⟩)

def StoreView.faulty (view : StoreView σ) : StoreView (Faulty σ) :=
  ⟨fun s => view.snapshot s.stores, fun s => view.Valid s.stores⟩

namespace Stores

def faulty (stores : Stores σ) : Stores (Faulty σ) where
  users := {
    find id := StoreStep.faulty (stores.users.find id)
    findByEmail email := StoreStep.faulty (stores.users.findByEmail email)
    findByPhone phone := StoreStep.faulty (stores.users.findByPhone phone)
    create u := StoreStep.faulty (stores.users.create u)
    setStatus id status := StoreStep.faulty (stores.users.setStatus id status)
    checkHealth := StoreStep.faulty stores.users.checkHealth }
  sessions := {
    create session := StoreStep.faulty (stores.sessions.create session)
    find id := StoreStep.faulty (stores.sessions.find id)
    delete id := StoreStep.faulty (stores.sessions.delete id)
    touch id t := StoreStep.faulty (stores.sessions.touch id t) }
  attempts := {
    find id := StoreStep.faulty (stores.attempts.find id)
    put id attempt seconds := StoreStep.faulty (stores.attempts.put id attempt seconds)
    checkHealth := StoreStep.faulty stores.attempts.checkHealth }
  policies := {
    createRole entry ids := StoreStep.faulty (stores.policies.createRole entry ids)
    updateRole id entry := StoreStep.faulty (stores.policies.updateRole id entry)
    deleteRole id := StoreStep.faulty (stores.policies.deleteRole id)
    findRoleByName name := StoreStep.faulty (stores.policies.findRoleByName name)
    createPermission entry ids := StoreStep.faulty (stores.policies.createPermission entry ids)
    updatePermission id entry := StoreStep.faulty (stores.policies.updatePermission id entry)
    deletePermission id := StoreStep.faulty (stores.policies.deletePermission id)
    createResource r := StoreStep.faulty (stores.policies.createResource r)
    updateResource id r := StoreStep.faulty (stores.policies.updateResource id r)
    deleteResource id := StoreStep.faulty (stores.policies.deleteResource id)
    assignPermissions id ids := StoreStep.faulty (stores.policies.assignPermissions id ids)
    removePermissions id ids := StoreStep.faulty (stores.policies.removePermissions id ids)
    assignResources id ids := StoreStep.faulty (stores.policies.assignResources id ids)
    removeResources id ids := StoreStep.faulty (stores.policies.removeResources id ids)
    assignRole userId roleId := StoreStep.faulty (stores.policies.assignRole userId roleId)
    revokeRole userId roleId := StoreStep.faulty (stores.policies.revokeRole userId roleId)
    grants serviceType := StoreStep.faulty (stores.policies.grants serviceType)
    rolesOf userId := StoreStep.faulty (stores.policies.rolesOf userId)
    permissionsOf userId := StoreStep.faulty (stores.policies.permissionsOf userId)
    allPermissions := StoreStep.faulty stores.policies.allPermissions }

end Stores

/-- A faulty step fails as planned, with the stores as they were, or is the step itself. -/
theorem StoreStep.faulty_ends (step : StoreStep σ α) (now : Instant) (s : Faulty σ) :
    (∃ f, (StoreStep.faulty step now s).1 = .error f ∧
      (StoreStep.faulty step now s).2.stores = s.stores) ∨
    (StoreStep.faulty step now s).1 = (step now s.stores).1 ∧
      (StoreStep.faulty step now s).2.stores = (step now s.stores).2 := by
  obtain ⟨stores, plan⟩ := s
  unfold faulty
  match plan with
  | some f :: rest => exact .inl ⟨f, rfl, rfl⟩
  | none :: rest => exact .inr ⟨rfl, rfl⟩
  | [] => exact .inr ⟨rfl, rfl⟩

variable {view : StoreView σ} {step : StoreStep σ α}

theorem StoreStep.Reads.faulty {seen : Snapshot → α} (h : StoreStep.Reads view seen step) :
    StoreStep.Reads view.faulty seen (StoreStep.faulty step) := by
  intro now s hvalid
  unfold StoreView.faulty at hvalid ⊢
  dsimp only at hvalid ⊢
  rcases StoreStep.faulty_ends step now s with ⟨f, hanswer, hstores⟩ | ⟨hanswer, hstores⟩
  · rw [hanswer, hstores]
    exact ⟨hvalid, rfl, fun _ h => nomatch h⟩
  · rw [hanswer, hstores]
    exact h now s.stores hvalid

theorem StoreStep.Writes.faulty {done : Snapshot → α → Snapshot → Prop}
    (h : StoreStep.Writes view done step) :
    StoreStep.Writes view.faulty done (StoreStep.faulty step) := by
  intro now s hvalid
  unfold StoreView.faulty at hvalid ⊢
  dsimp only at hvalid ⊢
  rcases StoreStep.faulty_ends step now s with ⟨f, hanswer, hstores⟩ | ⟨hanswer, hstores⟩
  · rw [hanswer, hstores]
    exact ⟨hvalid, fun _ _ => rfl, fun _ h => nomatch h⟩
  · rw [hanswer, hstores]
    exact h now s.stores hvalid

theorem Stores.Whole.faulty {stores : Stores σ} (h : stores.Whole view) :
    stores.faulty.Whole view.faulty where
  findByEmail email := (h.findByEmail email).faulty
  findByPhone phone := (h.findByPhone phone).faulty
  findRoleByName name := (h.findRoleByName name).faulty
  createUser u := (h.createUser u).faulty
  assignRole userId roleId := (h.assignRole userId roleId).faulty

end Faulty

end Turnstile
