import Turnstile.Proofs.MemoryService

/-!
Administration as calls of one kind, and their frame: what is not about
policies stays as it is. The frame is the same for all of them, since each is
one change or question of the tables of policies, after which at most the
rules are put in force.
-/

namespace Turnstile

/-- The part of a world that administration has nothing to do with. -/
structure World.Accounts where
  now : Instant
  drawn : Nat
  users : Table Int User
  sessions : Table String Session
  attempts : Table Int (LoginAttempt × Instant)

def World.accounts (w : World MemoryState) : World.Accounts :=
  ⟨w.now, w.drawn, w.stores.users, w.stores.sessions, w.stores.attempts⟩

/-- The calls of the administration of policies. -/
inductive AdminCall where
  | addRole (request : RoleRequest)
  | updateRole (id : Int) (request : RoleRequest)
  | deleteRole (id : Int)
  | addPermission (request : PermissionRequest)
  | updatePermission (id : Int) (request : PermissionRequest)
  | deletePermission (id : Int)
  | addResource (request : ResourceRequest)
  | updateResource (id : Int) (request : ResourceRequest)
  | deleteResource (id : Int)
  | assignPermissions (roleId : Int) (ids : List Int)
  | removePermissions (roleId : Int) (ids : List Int)
  | assignResources (permissionId : Int) (ids : List Int)
  | removeResources (permissionId : Int) (ids : List Int)
  | assignRole (userId roleId : Int)
  | revokeRole (userId roleId : Int)
  | userPermissions (userId : Int)
  | loadPolicy (serviceType : ServiceType)
  | reload

namespace AdminCall

/-- The call itself, without its answer. -/
def action [SizeLimit] (app : App MemoryState) : AdminCall → Action MemoryState Unit
  | addRole request => discard (app.addRole request)
  | updateRole id request => discard (app.updateRole id request)
  | deleteRole id => app.deleteRole id
  | addPermission request => discard (app.addPermission request)
  | updatePermission id request => discard (app.updatePermission id request)
  | deletePermission id => app.deletePermission id
  | addResource request => discard (app.addResource request)
  | updateResource id request => discard (app.updateResource id request)
  | deleteResource id => app.deleteResource id
  | assignPermissions roleId ids => app.assignPermissions roleId ids
  | removePermissions roleId ids => app.removePermissions roleId ids
  | assignResources permissionId ids => app.assignResources permissionId ids
  | removeResources permissionId ids => app.removeResources permissionId ids
  | assignRole userId roleId => app.assignRole userId roleId
  | revokeRole userId roleId => app.revokeRole userId roleId
  | userPermissions userId => discard (app.userPermissions userId)
  | loadPolicy serviceType => discard (app.loadPolicy serviceType)
  | reload => discard app.reload

section Frame

variable {α : Type} (m : MemoryService)

theorem leaves_discard {a : Action MemoryState α} (h : Action.Leaves World.accounts a) :
    Action.Leaves World.accounts (discard a) := by
  intro w
  have hmap : (discard a).runOn w = ((a.runOn w).1.map fun _ => (), (a.runOn w).2) :=
    Action.runOn_map ..
  rw [hmap]
  exact h w

theorem leaves_policyStep (change : PolicyTables.Change α) :
    Action.Leaves World.accounts (Action.store (MemoryState.policyStep change)) := by
  refine .store fun w => ?_
  unfold MemoryState.policyStep
  split <;> rfl

theorem leaves_policyQuery (query : PolicyTables → α) :
    Action.Leaves World.accounts (Action.store (MemoryState.policyQuery query)) :=
  .store fun _ => rfl

theorem leaves_loadPolicy [SizeLimit] (serviceType : ServiceType) :
    Action.Leaves World.accounts (m.app.loadPolicy serviceType) := by
  unfold App.loadPolicy
  refine .bind (leaves_policyQuery fun t => t.grants serviceType) fun grants => ?_
  refine .bind .engine fun engine => .bind (.check _) fun (count, engine) => ?_
  exact .bind (fun _ => rfl) fun _ => .pure count

theorem leaves_change [SizeLimit] (change : PolicyTables.Change α) :
    Action.Leaves World.accounts (m.app.change (MemoryState.policyStep change)) := by
  unfold App.change
  refine .bind (leaves_policyStep change) fun a => ?_
  exact .ite (.bind (leaves_loadPolicy m _) fun _ => .pure a) (.pure a)

theorem leaves_checkedChange [SizeLimit] (r : Except ServiceError Unit)
    (change : PolicyTables.Change α) :
    Action.Leaves World.accounts
      (Action.check r >>= fun _ => m.app.change (MemoryState.policyStep change)) :=
  .bind (.check r) fun _ => leaves_change m change

theorem leaves_changeLinks [SizeLimit] (ids : List Int) (change : PolicyTables.Change Unit) :
    Action.Leaves World.accounts
      (m.app.changeLinks ids (MemoryState.policyStep change)) := by
  unfold App.changeLinks
  exact .ite (.pure ()) (leaves_change m change)

theorem leaves_userPermissions (userId : Int) :
    Action.Leaves World.accounts (m.app.userPermissions userId) := by
  unfold App.userPermissions
  refine .bind (leaves_policyQuery fun t => t.rolesOf userId) fun roles => ?_
  refine .bind .engine fun engine => .ite ?_ ?_
  · exact leaves_policyQuery fun t => t.permissions.values
  · exact leaves_policyQuery fun t => t.permissionsOf userId

/-- Administration leaves the clock, the accounts, the sessions and the
attempts as they are. -/
theorem leaves_accounts [SizeLimit] (call : AdminCall) :
    Action.Leaves World.accounts (call.action m.app) := by
  cases call with
  | addRole request =>
    exact leaves_discard (leaves_checkedChange m _
      (PolicyTables.createRole request.entry request.permissionIds))
  | updateRole id request =>
    exact leaves_discard (leaves_checkedChange m _
      (PolicyTables.updateRole id request.entry))
  | deleteRole id => exact leaves_change m (PolicyTables.deleteRole id)
  | addPermission request =>
    exact leaves_discard (leaves_checkedChange m _
      (PolicyTables.createPermission request.entry request.resourceIds))
  | updatePermission id request =>
    exact leaves_discard (leaves_checkedChange m _
      (PolicyTables.updatePermission id request.entry))
  | deletePermission id => exact leaves_change m (PolicyTables.deletePermission id)
  | addResource request =>
    exact leaves_discard (leaves_checkedChange m _
      (PolicyTables.createResource request.resource))
  | updateResource id request =>
    exact leaves_discard (leaves_checkedChange m _
      (PolicyTables.updateResource id request.resource))
  | deleteResource id => exact leaves_change m (PolicyTables.deleteResource id)
  | assignPermissions roleId ids =>
    exact leaves_changeLinks m ids (PolicyTables.assignPermissions roleId ids)
  | removePermissions roleId ids =>
    exact leaves_changeLinks m ids (PolicyTables.removePermissions roleId ids)
  | assignResources permissionId ids =>
    exact leaves_changeLinks m ids (PolicyTables.assignResources permissionId ids)
  | removeResources permissionId ids =>
    exact leaves_changeLinks m ids (PolicyTables.removeResources permissionId ids)
  | assignRole userId roleId =>
    exact leaves_policyStep (PolicyTables.assignRole userId roleId)
  | revokeRole userId roleId =>
    exact leaves_policyStep (PolicyTables.revokeRole userId roleId)
  | userPermissions userId => exact leaves_discard (leaves_userPermissions m userId)
  | loadPolicy serviceType => exact leaves_discard (leaves_loadPolicy m serviceType)
  | reload => exact leaves_discard (leaves_loadPolicy m _)

end Frame

end AdminCall

end Turnstile
