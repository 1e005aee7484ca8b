import Turnstile.Store.Basic
import Turnstile.Store.Table

/-!
Stores in memory. Accounts, sessions and attempts are tables; an attempt stands with the moment it
expires. A failed step leaves the tables as they were. Identifiers are counted up without an end: that
64 bits run out is left aside.
-/

namespace Turnstile

/-- The tables of policies. Identifiers of all three kinds come from one counter. -/
structure PolicyTables where
  lastId : Int := 0
  roles : Table Int Role := {}
  permissions : Table Int Permission := {}
  resources : Table Int Resource := {}
  rolePermissions : Links := []
  permissionResources : Links := []
  userRoles : Links := []

structure MemoryState where
  users : Table Int User := {}
  sessions : Table String Session := {}
  attempts : Table Int (LoginAttempt × Instant) := {}
  policies : PolicyTables := {}

namespace MemoryState

/-! ### Accounts -/

def fail {α : Type} (e : ServiceError) (s : MemoryState) : Except Failure α × MemoryState :=
  (.error (.error e), s)

def findByEmail? (s : MemoryState) (email : String) : Option User :=
  s.users.values.find? fun u => agreesUpToCase u.email email

def findByPhone? (s : MemoryState) (phone : String) : Option User :=
  s.users.values.find? fun u => u.phone == phone

/-- The identifier of the next account: one more than the highest. -/
def nextUserId (s : MemoryState) : Int := s.users.keys.getLast?.getD 0 + 1

def createUser (u : NewUser) (now : Instant) (s : MemoryState) : Except Failure User × MemoryState :=
  if (s.users.values.any fun v => agreesUpToCase v.email u.email || v.phone == u.phone) then
    fail .duplicateRegistration s
  else
    let user : User := {
      id := s.nextUserId, name := u.name, phone := u.phone, email := u.email
      passwordHash := u.passwordHash, avatarUrl := none, phoneVerified := u.phoneVerified
      emailVerified := false, status := UserStatus.active.text, createdAt := now
      updatedAt := now }
    (.ok user, { s with users := s.users.put user.id user })

def setStatus (id : Int) (status : UserStatus) (now : Instant) (s : MemoryState) :
    Except Failure Unit × MemoryState :=
  if s.users.contains id then
    let users := s.users.change id fun u => { u with status := status.text, updatedAt := now }
    (.ok (), { s with users := users })
  else fail (.userNotFound id) s

def userStore : UserStore MemoryState where
  find id _ s := (.ok (s.users.find? id), s)
  findByEmail email _ s := (.ok (s.findByEmail? email), s)
  findByPhone phone _ s := (.ok (s.findByPhone? phone), s)
  create := createUser
  setStatus := setStatus
  checkHealth _ s := (.ok (), s)

/-! ### Sessions -/

def sessionStore : SessionStore MemoryState where
  create session _ s := (.ok (), { s with sessions := s.sessions.put session.id session })
  find id _ s := (.ok (s.sessions.find? id), s)
  delete id _ s := (.ok (), { s with sessions := s.sessions.erase id })
  touch id t _ s :=
    (.ok (), { s with sessions := s.sessions.change id fun x => { x with updatedAt := t } })

/-! ### Attempts -/

/-- A record that has expired is dropped when it is looked for. -/
def findAttempt (id : Int) (now : Instant) (s : MemoryState) :
    Except Failure (Option LoginAttempt) × MemoryState :=
  match s.attempts.find? id with
  | some (attempt, expiry) =>
    if expiry.nanos ≤ now.nanos then (.ok none, { s with attempts := s.attempts.erase id })
    else (.ok (some attempt), s)
  | none => (.ok none, s)

def putAttempt (id : Int) (attempt : LoginAttempt) (seconds : Int) (now : Instant)
    (s : MemoryState) : Except Failure Unit × MemoryState :=
  if seconds ≤ 0 then (.ok (), { s with attempts := s.attempts.erase id })
  else
    match now.addSeconds? seconds with
    | some expiry => (.ok (), { s with attempts := s.attempts.put id (attempt, expiry) })
    | none => (.error (.fault .timeOutOfRange), s)

def attemptStore : AttemptStore MemoryState where
  find := findAttempt
  put := putAttempt
  checkHealth _ s := (.ok (), s)

end MemoryState

/-! ### Policies -/

namespace PolicyTables

/-- What comes of a change of the tables: an error leaves them as they were. -/
abbrev Change (α : Type) := Instant → PolicyTables → Except ServiceError (α × PolicyTables)

def requireRole (t : PolicyTables) (id : Int) : Except ServiceError Unit :=
  if t.roles.contains id then .ok () else .error (.notFound "Role")

def requirePermission (t : PolicyTables) (id : Int) : Except ServiceError Unit :=
  if t.permissions.contains id then .ok () else .error (.notFound "Permission")

/-- The first identifier that is not there is reported. -/
def requireAll (kind : String) (isThere : Int → Bool) (ids : List Int) : Except ServiceError Unit :=
  match ids.find? fun id => !isThere id with
  | some id => .error (.invalidReference (kind ++ " " ++ toString id ++ " does not exist"))
  | none => .ok ()

def requirePermissions (t : PolicyTables) (ids : List Int) : Except ServiceError Unit :=
  requireAll "Permission" t.permissions.contains ids

def requireResources (t : PolicyTables) (ids : List Int) : Except ServiceError Unit :=
  requireAll "Resource" t.resources.contains ids

/-- Link one thing to several others. -/
def linkAll (a : Int) (bs : List Int) (links : Links) : Links :=
  bs.foldl (fun links b => Links.add (a, b) links) links

/-- Remove the links of one thing to several others. -/
def unlinkAll (a : Int) (bs : List Int) (links : Links) : Links :=
  bs.foldl (fun links b => Links.remove (a, b) links) links

def createRole (entry : NamedEntry) (permissionIds : List Int) : Change Role := fun now t => do
  if t.roles.values.any fun r => r.name == entry.name then
    throw (.invalidReference ("Role " ++ entry.name ++ " already exists"))
  t.requirePermissions permissionIds
  let id := t.lastId + 1
  let role : Role := ⟨id, entry.name, entry.description, now, now⟩
  return (role, { t with
    lastId := id
    roles := t.roles.put id role
    rolePermissions := linkAll id permissionIds t.rolePermissions })

def updateRole (id : Int) (entry : NamedEntry) : Change Role := fun now t =>
  match t.roles.find? id with
  | none => .error (.notFound "Role")
  | some role =>
    let role := { role with
      name := entry.name, description := entry.description, updatedAt := now }
    .ok (role, { t with roles := t.roles.put id role })

def deleteRole (id : Int) : Change Unit := fun _ t => do
  t.requireRole id
  return ((), { t with
    roles := t.roles.erase id
    rolePermissions := t.rolePermissions.filter (·.1 ≠ id)
    userRoles := t.userRoles.filter (·.2 ≠ id) })

def createPermission (entry : NamedEntry) (resourceIds : List Int) : Change Permission :=
  fun now t => do
    t.requireResources resourceIds
    let id := t.lastId + 1
    let permission : Permission := ⟨id, entry.name, entry.description, now, now⟩
    return (permission, { t with
      lastId := id
      permissions := t.permissions.put id permission
      permissionResources := linkAll id resourceIds t.permissionResources })

def updatePermission (id : Int) (entry : NamedEntry) : Change Permission := fun now t =>
  match t.permissions.find? id with
  | none => .error (.notFound "Permission")
  | some permission =>
    let permission := { permission with
      name := entry.name, description := entry.description, updatedAt := now }
    .ok (permission, { t with permissions := t.permissions.put id permission })

def deletePermission (id : Int) : Change Unit := fun _ t => do
  t.requirePermission id
  return ((), { t with
    permissions := t.permissions.erase id
    rolePermissions := t.rolePermissions.filter (·.2 ≠ id)
    permissionResources := t.permissionResources.filter (·.1 ≠ id) })

def createResource (r : NewResource) : Change Resource := fun now t =>
  let id := t.lastId + 1
  let resource : Resource :=
    ⟨id, r.name, r.description, r.serviceType.text, r.method, r.path, now, now⟩
  .ok (resource, { t with lastId := id, resources := t.resources.put id resource })

def updateResource (id : Int) (r : NewResource) : Change Resource := fun now t =>
  match t.resources.find? id with
  | none => .error (.notFound "Resource")
  | some resource =>
    let resource := { resource with
      name := r.name, description := r.description, serviceType := r.serviceType.text
      method := r.method, path := r.path, updatedAt := now }
    .ok (resource, { t with resources := t.resources.put id resource })

def deleteResource (id : Int) : Change Unit := fun _ t =>
  if t.resources.contains id then
    .ok ((), { t with
      resources := t.resources.erase id
      permissionResources := t.permissionResources.filter (·.2 ≠ id) })
  else .error (.notFound "Resource")

def assignPermissions (roleId : Int) (ids : List Int) : Change Unit := fun _ t => do
  t.requireRole roleId
  t.requirePermissions ids
  return ((), { t with rolePermissions := linkAll roleId ids t.rolePermissions })

def removePermissions (roleId : Int) (ids : List Int) : Change Unit := fun _ t => do
  t.requireRole roleId
  return ((), { t with rolePermissions := unlinkAll roleId ids t.rolePermissions })

def assignResources (permissionId : Int) (ids : List Int) : Change Unit := fun _ t => do
  t.requirePermission permissionId
  t.requireResources ids
  return ((), { t with permissionResources := linkAll permissionId ids t.permissionResources })

def removeResources (permissionId : Int) (ids : List Int) : Change Unit := fun _ t => do
  t.requirePermission permissionId
  return ((), { t with permissionResources := unlinkAll permissionId ids t.permissionResources })

def assignRole (userId roleId : Int) : Change Unit := fun _ t => do
  t.requireRole roleId
  return ((), { t with userRoles := Links.add (userId, roleId) t.userRoles })

def revokeRole (userId roleId : Int) : Change Unit := fun _ t =>
  .ok ((), { t with userRoles := Links.remove (userId, roleId) t.userRoles })

/-- The grants of one role through one permission. -/
def grantsThrough (t : PolicyTables) (serviceType : ServiceType) (role : Role) (permissionId : Int) :
    List Grant :=
  ((Links.targets t.permissionResources permissionId).filterMap t.resources.find?).filterMap fun r =>
    if r.serviceType == serviceType.text then
      some ⟨role.name, r.serviceType, r.method, r.path⟩
    else none

/-- The grants for resources of a service type, by role, permission and resource. -/
def grants (t : PolicyTables) (serviceType : ServiceType) : List Grant :=
  t.rolePermissions.flatMap fun (roleId, permissionId) =>
    match t.roles.find? roleId with
    | some role => t.grantsThrough serviceType role permissionId
    | none => []

def rolesOf (t : PolicyTables) (userId : Int) : List Role :=
  (Links.targets t.userRoles userId).filterMap t.roles.find?

/-- The permissions that some role of the user is linked to. -/
def permissionsOf (t : PolicyTables) (userId : Int) : List Permission :=
  let roleIds := Links.targets t.userRoles userId
  t.permissions.values.filter fun p =>
    t.rolePermissions.any fun (roleId, permissionId) =>
      roleIds.contains roleId && permissionId == p.id

end PolicyTables

namespace MemoryState

/-- A change of the tables of policies as a step. -/
def policyStep {α : Type} (change : PolicyTables.Change α) : StoreStep MemoryState α := fun now s =>
  match change now s.policies with
  | .ok (a, policies) => (.ok a, { s with policies := policies })
  | .error e => fail e s

/-- A question about the tables of policies as a step. -/
def policyQuery {α : Type} (query : PolicyTables → α) : StoreStep MemoryState α := fun _ s =>
  (.ok (query s.policies), s)

def policyStore : PolicyStore MemoryState where
  createRole entry ids := policyStep (PolicyTables.createRole entry ids)
  updateRole id entry := policyStep (PolicyTables.updateRole id entry)
  deleteRole id := policyStep (PolicyTables.deleteRole id)
  findRoleByName name := policyQuery fun t => t.roles.values.find? fun r => r.name == name
  createPermission entry ids := policyStep (PolicyTables.createPermission entry ids)
  updatePermission id entry := policyStep (PolicyTables.updatePermission id entry)
  deletePermission id := policyStep (PolicyTables.deletePermission id)
  createResource r := policyStep (PolicyTables.createResource r)
  updateResource id r := policyStep (PolicyTables.updateResource id r)
  deleteResource id := policyStep (PolicyTables.deleteResource id)
  assignPermissions id ids := policyStep (PolicyTables.assignPermissions id ids)
  removePermissions id ids := policyStep (PolicyTables.removePermissions id ids)
  assignResources id ids := policyStep (PolicyTables.assignResources id ids)
  removeResources id ids := policyStep (PolicyTables.removeResources id ids)
  assignRole userId roleId := policyStep (PolicyTables.assignRole userId roleId)
  revokeRole userId roleId := policyStep (PolicyTables.revokeRole userId roleId)
  grants serviceType := policyQuery fun t => t.grants serviceType
  rolesOf userId := policyQuery fun t => t.rolesOf userId
  permissionsOf userId := policyQuery fun t => t.permissionsOf userId
  allPermissions := policyQuery fun t => t.permissions.values

/-- All stores in memory. -/
def stores : Stores MemoryState := ⟨userStore, sessionStore, attemptStore, policyStore⟩

end MemoryState

end Turnstile
