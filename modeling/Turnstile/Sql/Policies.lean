import Turnstile.Sql.Accounts

/-!
Roles, permissions, resources and their links in a database. Whatever takes several statements is one
transaction, and links are changed only after the row they start from was found and locked.
-/

namespace Turnstile.SqlWire

variable {σ : Type} (wire : SqlWire σ)

/-- What breaks a constraint is the fault of the caller, all else is internal. -/
def writeError (entity : String) : DatabaseError → ServiceError
  | .reported code message =>
    if code == duplicateCode then .invalidReference (entity ++ " already exists")
    else if code == danglingCode then
      .invalidReference (entity ++ " references a record that does not exist")
    else .database (.reported code message)
  | e => .database e

/-- The first record of what a writing statement returns. -/
def writeFirst {α : Type} (onError : DatabaseError → ServiceError) (read : Row → Option α)
    (text : String) (params : List SqlValue) : SqlCall σ α := do
  readOr onError ((← wire.ask onError text params).first read)

/-- The record that an update returns, if there was one to update. -/
def update {α : Type} (onError : DatabaseError → ServiceError) (entity : String)
    (read : Row → Option α) (text : String) (params : List SqlValue) : SqlCall σ α := do
  match ← readOr onError ((← wire.ask onError text params).first? read) with
  | some a => return a
  | none => throw (.notFound entity)

/-- Find a row and lock it until the end of the transaction. -/
def lockRow (entity column text : String) (id : Int) : SqlCall σ Unit := do
  match ← wire.findFirst (Row.int? · column) text [.int id] with
  | some _ => return ()
  | none => throw (.notFound entity)

def lockRole (id : Int) : SqlCall σ Unit :=
  wire.lockRow "Role" "role_id" "SELECT role_id FROM roles WHERE role_id = $1 FOR UPDATE" id

def lockPermission (id : Int) : SqlCall σ Unit :=
  wire.lockRow "Permission" "permission_id"
    "SELECT permission_id FROM permissions WHERE permission_id = $1 FOR UPDATE" id

def linkPermissions (roleId : Int) (ids : List Int) : SqlCall σ Unit :=
  wire.execute (writeError "Role permission")
    ("INSERT INTO role_permissions (role_id, permission_id) SELECT $1, UNNEST($2::BIGINT[]) " ++
      "ON CONFLICT DO NOTHING")
    [.int roleId, .ints ids]

def linkResources (permissionId : Int) (ids : List Int) : SqlCall σ Unit :=
  wire.execute (writeError "Permission resource")
    ("INSERT INTO permission_resources (permission_id, resource_id) " ++
      "SELECT $1, UNNEST($2::BIGINT[]) ON CONFLICT DO NOTHING")
    [.int permissionId, .ints ids]

def createRole (entry : NamedEntry) (permissionIds : List Int) : SqlCall σ Role :=
  wire.transaction do
    let role ← wire.writeFirst (writeError "Role") Row.role?
      "INSERT INTO roles (name, description) VALUES ($1, $2) RETURNING *"
      [.text entry.name, .text entry.description]
    if !permissionIds.isEmpty then wire.linkPermissions role.id permissionIds
    return role

def createPermission (entry : NamedEntry) (resourceIds : List Int) : SqlCall σ Permission :=
  wire.transaction do
    let permission ← wire.writeFirst (writeError "Permission") Row.permission?
      "INSERT INTO permissions (name, description) VALUES ($1, $2) RETURNING *"
      [.text entry.name, .text entry.description]
    if !resourceIds.isEmpty then wire.linkResources permission.id resourceIds
    return permission

def assignPermissions (roleId : Int) (ids : List Int) : SqlCall σ Unit :=
  wire.transaction do
    wire.lockRole roleId
    wire.linkPermissions roleId ids

def removePermissions (roleId : Int) (ids : List Int) : SqlCall σ Unit :=
  wire.transaction do
    wire.lockRole roleId
    wire.execute .database
      "DELETE FROM role_permissions WHERE role_id = $1 AND permission_id = ANY($2)"
      [.int roleId, .ints ids]

def assignResources (permissionId : Int) (ids : List Int) : SqlCall σ Unit :=
  wire.transaction do
    wire.lockPermission permissionId
    wire.linkResources permissionId ids

def removeResources (permissionId : Int) (ids : List Int) : SqlCall σ Unit :=
  wire.transaction do
    wire.lockPermission permissionId
    wire.execute .database
      "DELETE FROM permission_resources WHERE permission_id = $1 AND resource_id = ANY($2)"
      [.int permissionId, .ints ids]

def updateRole (id : Int) (entry : NamedEntry) : SqlCall σ Role :=
  wire.update (writeError "Role") "Role" Row.role?
    ("UPDATE roles SET name = $2, description = $3, updated_at = NOW() " ++
      "WHERE role_id = $1 RETURNING *")
    [.int id, .text entry.name, .text entry.description]

def updatePermission (id : Int) (entry : NamedEntry) : SqlCall σ Permission :=
  wire.update .database "Permission" Row.permission?
    ("UPDATE permissions SET name = $2, description = $3, updated_at = NOW() " ++
      "WHERE permission_id = $1 RETURNING *")
    [.int id, .text entry.name, .text entry.description]

def createResource (r : NewResource) : SqlCall σ Resource :=
  wire.writeFirst .database Row.resource?
    ("INSERT INTO resources (name, description, service_type, method, path) " ++
      "VALUES ($1, $2, $3, $4, $5) RETURNING *")
    [.text r.name, .text r.description, .text r.serviceType.text, .text r.method, .text r.path]

def updateResource (id : Int) (r : NewResource) : SqlCall σ Resource :=
  wire.update .database "Resource" Row.resource?
    ("UPDATE resources SET name = $2, description = $3, service_type = $4, method = $5, " ++
      "path = $6, updated_at = NOW() WHERE resource_id = $1 RETURNING *")
    [.int id, .text r.name, .text r.description, .text r.serviceType.text, .text r.method,
      .text r.path]

def deleteRole (id : Int) : SqlCall σ Unit :=
  wire.changeOne (.notFound "Role") "DELETE FROM roles WHERE role_id = $1" [.int id]

def deletePermission (id : Int) : SqlCall σ Unit :=
  wire.changeOne (.notFound "Permission") "DELETE FROM permissions WHERE permission_id = $1"
    [.int id]

def deleteResource (id : Int) : SqlCall σ Unit :=
  wire.changeOne (.notFound "Resource") "DELETE FROM resources WHERE resource_id = $1" [.int id]

def assignRole (userId roleId : Int) : SqlCall σ Unit :=
  wire.execute (writeError "User role")
    "INSERT INTO user_roles (user_id, role_id) VALUES ($1, $2) ON CONFLICT DO NOTHING"
    [.int userId, .int roleId]

def revokeRole (userId roleId : Int) : SqlCall σ Unit :=
  wire.execute .database "DELETE FROM user_roles WHERE user_id = $1 AND role_id = $2"
    [.int userId, .int roleId]

def grants (serviceType : ServiceType) : SqlCall σ (List Grant) :=
  wire.findAll Row.grant?
    ("SELECT DISTINCT r.name AS role, res.service_type, res.method, res.path " ++
      "FROM role_permissions rp JOIN roles r ON r.role_id = rp.role_id " ++
      "JOIN permission_resources pr ON pr.permission_id = rp.permission_id " ++
      "JOIN resources res ON res.resource_id = pr.resource_id " ++
      "WHERE res.service_type = $1 ORDER BY r.name, res.path, res.method")
    [.text serviceType.text]

def rolesOf (userId : Int) : SqlCall σ (List Role) :=
  wire.findAll Row.role?
    ("SELECT r.* FROM roles r JOIN user_roles ur ON ur.role_id = r.role_id " ++
      "WHERE ur.user_id = $1 ORDER BY r.role_id")
    [.int userId]

def permissionsOf (userId : Int) : SqlCall σ (List Permission) :=
  wire.findAll Row.permission?
    ("SELECT DISTINCT p.* FROM permissions p " ++
      "JOIN role_permissions rp ON rp.permission_id = p.permission_id " ++
      "JOIN user_roles ur ON ur.role_id = rp.role_id " ++
      "WHERE ur.user_id = $1 ORDER BY p.permission_id")
    [.int userId]

def policyStore : PolicyStore σ where
  createRole entry ids := (wire.createRole entry ids).step
  updateRole id entry := (wire.updateRole id entry).step
  deleteRole id := (wire.deleteRole id).step
  findRoleByName name :=
    (wire.findFirst Row.role? "SELECT * FROM roles WHERE name = $1" [.text name]).step
  createPermission entry ids := (wire.createPermission entry ids).step
  updatePermission id entry := (wire.updatePermission id entry).step
  deletePermission id := (wire.deletePermission id).step
  createResource r := (wire.createResource r).step
  updateResource id r := (wire.updateResource id r).step
  deleteResource id := (wire.deleteResource id).step
  assignPermissions id ids := (wire.assignPermissions id ids).step
  removePermissions id ids := (wire.removePermissions id ids).step
  assignResources id ids := (wire.assignResources id ids).step
  removeResources id ids := (wire.removeResources id ids).step
  assignRole userId roleId := (wire.assignRole userId roleId).step
  revokeRole userId roleId := (wire.revokeRole userId roleId).step
  grants serviceType := (wire.grants serviceType).step
  rolesOf userId := (wire.rolesOf userId).step
  permissionsOf userId := (wire.permissionsOf userId).step
  allPermissions :=
    (wire.findAll Row.permission? "SELECT * FROM permissions ORDER BY permission_id" []).step

end Turnstile.SqlWire
