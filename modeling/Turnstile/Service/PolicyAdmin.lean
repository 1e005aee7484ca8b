import Turnstile.Service.App
import Turnstile.Request.Policy

/-!
Administration of roles, permissions and resources. After every change of what is stored the rules are
put in force again, if the settings say so; rules that cannot be used leave the old ones in force.
-/

namespace Turnstile.App

variable [SizeLimit]

variable {σ : Type} (app : App σ)

/-- Put the stored grants for a service type in force. The answer is the number of rules. -/
def loadPolicy (serviceType : ServiceType) : Action σ Nat := do
  let grants ← Action.store (app.stores.policies.grants serviceType)
  let (count, engine) ← Action.check ((← Action.engine).replace (grants.map Grant.toRule))
  Action.setEngine engine
  return count

/-- Put the stored grants for the service's own type in force. -/
def reload : Action σ Nat := app.loadPolicy app.policy.serviceType

/-- A change of what is stored, after which the rules are put in force again. -/
def change {α : Type} (step : StoreStep σ α) : Action σ α := do
  let a ← Action.store step
  if app.policy.autoReload then
    let _ ← app.reload
  return a

/-! ### Roles -/

def addRole (request : RoleRequest) : Action σ Role := do
  Action.check (Request.check request)
  app.change (app.stores.policies.createRole request.entry request.permissionIds)

def updateRole (id : Int) (request : RoleRequest) : Action σ Role := do
  Action.check (Request.check request)
  app.change (app.stores.policies.updateRole id request.entry)

def deleteRole (id : Int) : Action σ Unit := app.change (app.stores.policies.deleteRole id)

/-! ### Permissions -/

def addPermission (request : PermissionRequest) : Action σ Permission := do
  Action.check (Request.check request)
  app.change (app.stores.policies.createPermission request.entry request.resourceIds)

def updatePermission (id : Int) (request : PermissionRequest) : Action σ Permission := do
  Action.check (Request.check request)
  app.change (app.stores.policies.updatePermission id request.entry)

def deletePermission (id : Int) : Action σ Unit :=
  app.change (app.stores.policies.deletePermission id)

/-! ### Resources -/

def addResource (request : ResourceRequest) : Action σ Resource := do
  Action.check (Request.check request)
  app.change (app.stores.policies.createResource request.resource)

def updateResource (id : Int) (request : ResourceRequest) : Action σ Resource := do
  Action.check (Request.check request)
  app.change (app.stores.policies.updateResource id request.resource)

def deleteResource (id : Int) : Action σ Unit :=
  app.change (app.stores.policies.deleteResource id)

/-! ### Links -/

/-- A change for several identifiers; for none nothing is done. -/
def changeLinks (ids : List Int) (step : StoreStep σ Unit) : Action σ Unit :=
  if ids.isEmpty then pure () else app.change step

def assignPermissions (roleId : Int) (ids : List Int) : Action σ Unit :=
  app.changeLinks ids (app.stores.policies.assignPermissions roleId ids)

def removePermissions (roleId : Int) (ids : List Int) : Action σ Unit :=
  app.changeLinks ids (app.stores.policies.removePermissions roleId ids)

def assignResources (permissionId : Int) (ids : List Int) : Action σ Unit :=
  app.changeLinks ids (app.stores.policies.assignResources permissionId ids)

def removeResources (permissionId : Int) (ids : List Int) : Action σ Unit :=
  app.changeLinks ids (app.stores.policies.removeResources permissionId ids)

/-! ### Users -/

/-- Roles of users are no part of the rules, so nothing is put in force. -/
def assignRole (userId roleId : Int) : Action σ Unit :=
  Action.store (app.stores.policies.assignRole userId roleId)

def revokeRole (userId roleId : Int) : Action σ Unit :=
  Action.store (app.stores.policies.revokeRole userId roleId)

/-- The permissions that a user's roles grant. The role of the superadmin grants all. -/
def userPermissions (userId : Int) : Action σ (List Permission) := do
  let roles ← Action.store (app.stores.policies.rolesOf userId)
  let superadminRole := (← Action.engine).superadminRole
  if roles.any fun r => r.name == superadminRole then
    Action.store app.stores.policies.allPermissions
  else Action.store (app.stores.policies.permissionsOf userId)

end Turnstile.App
