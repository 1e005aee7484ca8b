import Turnstile.Proofs.Policy.Administration
import Turnstile.Proofs.Policy.Chain
import Turnstile.Proofs.Table

/-!
The operations of a store of policies, and what each of them makes of the tables in memory. `Made`
says it once for all of them, with what the tables must hold for the operation to go through; a run
is a list of operations with the tables that each found and left.
-/

namespace Turnstile

/-- The questions that a store of policies answers. -/
inductive PolicyQuestion where
  | findRoleByName (name : String)
  | grants (serviceType : ServiceType)
  | rolesOf (userId : Int)
  | permissionsOf (userId : Int)
  | allPermissions

/-- The operations of a store of policies. -/
inductive PolicyOperation where
  | createRole (entry : NamedEntry) (permissionIds : List Int)
  | updateRole (id : Int) (entry : NamedEntry)
  | deleteRole (id : Int)
  | createPermission (entry : NamedEntry) (resourceIds : List Int)
  | updatePermission (id : Int) (entry : NamedEntry)
  | deletePermission (id : Int)
  | createResource (asked : NewResource)
  | updateResource (id : Int) (asked : NewResource)
  | deleteResource (id : Int)
  | assignPermissions (roleId : Int) (ids : List Int)
  | removePermissions (roleId : Int) (ids : List Int)
  | assignResources (permissionId : Int) (ids : List Int)
  | removeResources (permissionId : Int) (ids : List Int)
  | assignRole (userId roleId : Int)
  | revokeRole (userId roleId : Int)
  | ask (question : PolicyQuestion)

/-- A change with another answer. -/
def PolicyTables.Change.map {α β : Type} (f : α → β) (change : PolicyTables.Change α) :
    PolicyTables.Change β :=
  fun now t => (change now t).map fun (a, t) => (f a, t)

namespace PolicyOperation

/-- The operation on a store. The answer is the identifier of what was created. -/
def step {σ : Type} (store : PolicyStore σ) : PolicyOperation → StoreStep σ (Option Int)
  | createRole entry ids => (store.createRole entry ids).map fun role => some role.id
  | updateRole id entry => (store.updateRole id entry).map fun _ => none
  | deleteRole id => (store.deleteRole id).map fun _ => none
  | createPermission entry ids => (store.createPermission entry ids).map fun p => some p.id
  | updatePermission id entry => (store.updatePermission id entry).map fun _ => none
  | deletePermission id => (store.deletePermission id).map fun _ => none
  | createResource asked => (store.createResource asked).map fun r => some r.id
  | updateResource id asked => (store.updateResource id asked).map fun _ => none
  | deleteResource id => (store.deleteResource id).map fun _ => none
  | assignPermissions roleId ids => (store.assignPermissions roleId ids).map fun _ => none
  | removePermissions roleId ids => (store.removePermissions roleId ids).map fun _ => none
  | assignResources permissionId ids => (store.assignResources permissionId ids).map fun _ => none
  | removeResources permissionId ids => (store.removeResources permissionId ids).map fun _ => none
  | assignRole userId roleId => (store.assignRole userId roleId).map fun _ => none
  | revokeRole userId roleId => (store.revokeRole userId roleId).map fun _ => none
  | ask (.findRoleByName name) => (store.findRoleByName name).map fun _ => none
  | ask (.grants serviceType) => (store.grants serviceType).map fun _ => none
  | ask (.rolesOf userId) => (store.rolesOf userId).map fun _ => none
  | ask (.permissionsOf userId) => (store.permissionsOf userId).map fun _ => none
  | ask .allPermissions => store.allPermissions.map fun _ => none

/-- What the operation does to the tables in memory. -/
def change : PolicyOperation → PolicyTables.Change (Option Int)
  | createRole entry ids => (PolicyTables.createRole entry ids).map fun role => some role.id
  | updateRole id entry => (PolicyTables.updateRole id entry).map fun _ => none
  | deleteRole id => (PolicyTables.deleteRole id).map fun _ => none
  | createPermission entry ids =>
    (PolicyTables.createPermission entry ids).map fun p => some p.id
  | updatePermission id entry => (PolicyTables.updatePermission id entry).map fun _ => none
  | deletePermission id => (PolicyTables.deletePermission id).map fun _ => none
  | createResource asked => (PolicyTables.createResource asked).map fun r => some r.id
  | updateResource id asked => (PolicyTables.updateResource id asked).map fun _ => none
  | deleteResource id => (PolicyTables.deleteResource id).map fun _ => none
  | assignPermissions roleId ids =>
    (PolicyTables.assignPermissions roleId ids).map fun _ => none
  | removePermissions roleId ids =>
    (PolicyTables.removePermissions roleId ids).map fun _ => none
  | assignResources permissionId ids =>
    (PolicyTables.assignResources permissionId ids).map fun _ => none
  | removeResources permissionId ids =>
    (PolicyTables.removeResources permissionId ids).map fun _ => none
  | assignRole userId roleId => (PolicyTables.assignRole userId roleId).map fun _ => none
  | revokeRole userId roleId => (PolicyTables.revokeRole userId roleId).map fun _ => none
  | ask _ => PolicyTables.unchanged.map fun _ => none

end PolicyOperation

namespace MemoryState

theorem map_policyStep {α β : Type} (f : α → β) (change : PolicyTables.Change α) :
    (policyStep change).map f = policyStep (change.map f) := by
  funext now s
  unfold StoreStep.map policyStep PolicyTables.Change.map
  cases change now s.policies <;> rfl

/-- Every operation on the store in memory is one change of the tables. -/
theorem step_policyStore (op : PolicyOperation) :
    op.step policyStore = policyStep op.change := by
  cases op
  case ask question => cases question <;> rfl
  all_goals exact map_policyStep ..

end MemoryState

namespace PolicyTables

theorem of_requireRole {t : PolicyTables} {id : Int} (h : t.requireRole id = .ok ()) :
    t.roles.contains id = true := by
  unfold requireRole at h
  split at h
  · assumption
  · cases h

theorem of_requirePermission {t : PolicyTables} {id : Int} (h : t.requirePermission id = .ok ()) :
    t.permissions.contains id = true := by
  unfold requirePermission at h
  split at h
  · assumption
  · cases h

theorem of_requireAll {kind : String} {isThere : Int → Bool} {ids : List Int}
    (h : requireAll kind isThere ids = .ok ()) : ∀ id ∈ ids, isThere id = true := by
  unfold requireAll at h
  split at h
  · cases h
  · rename_i hnone
    intro id hid
    simpa using List.find?_eq_none.mp hnone id hid

/-- A change with another answer went through as the change itself did. -/
theorem Change.of_map {α β : Type} {f : α → β} {change : Change α} {now : Instant}
    {t t' : PolicyTables} {b : β} (h : change.map f now t = .ok (b, t')) :
    ∃ a, change now t = .ok (a, t') ∧ f a = b := by
  obtain ⟨p, hchange, hanswer⟩ := of_map_ok h
  cases hanswer
  exact ⟨p.1, hchange, rfl⟩

theorem Change.map_ok {α β : Type} {f : α → β} {change : Change α} {now : Instant}
    {t t' : PolicyTables} {a : α} (h : change now t = .ok (a, t')) :
    change.map f now t = .ok (f a, t') := by
  unfold Change.map
  rw [h]
  rfl

/-- What an operation that goes through makes of the tables, and the identifier it hands out. -/
inductive Made (now : Instant) (t : PolicyTables) :
    PolicyOperation → Option Int → PolicyTables → Prop
  | roleCreated {entry : NamedEntry} {ids : List Int}
      (hname : ∀ role ∈ t.roles.values, role.name ≠ entry.name)
      (hids : ∀ id ∈ ids, t.permissions.contains id = true) :
      Made now t (.createRole entry ids) (some (t.lastId + 1)) { t with
        lastId := t.lastId + 1
        roles := t.roles.put (t.lastId + 1)
          ⟨t.lastId + 1, entry.name, entry.description, now, now⟩
        rolePermissions := linkAll (t.lastId + 1) ids t.rolePermissions }
  | roleUpdated {id : Int} {entry : NamedEntry} {role : Role}
      (hrole : t.roles.find? id = some role) :
      Made now t (.updateRole id entry) none { t with
        roles := t.roles.put id { role with
          name := entry.name, description := entry.description, updatedAt := now } }
  | roleDeleted {id : Int} (hthere : t.roles.contains id = true) :
      Made now t (.deleteRole id) none { t with
        roles := t.roles.erase id
        rolePermissions := t.rolePermissions.filter (·.1 ≠ id)
        userRoles := t.userRoles.filter (·.2 ≠ id) }
  | permissionCreated {entry : NamedEntry} {ids : List Int}
      (hids : ∀ id ∈ ids, t.resources.contains id = true) :
      Made now t (.createPermission entry ids) (some (t.lastId + 1)) { t with
        lastId := t.lastId + 1
        permissions := t.permissions.put (t.lastId + 1)
          ⟨t.lastId + 1, entry.name, entry.description, now, now⟩
        permissionResources := linkAll (t.lastId + 1) ids t.permissionResources }
  | permissionUpdated {id : Int} {entry : NamedEntry} {permission : Permission}
      (hpermission : t.permissions.find? id = some permission) :
      Made now t (.updatePermission id entry) none { t with
        permissions := t.permissions.put id { permission with
          name := entry.name, description := entry.description, updatedAt := now } }
  | permissionDeleted {id : Int} (hthere : t.permissions.contains id = true) :
      Made now t (.deletePermission id) none { t with
        permissions := t.permissions.erase id
        rolePermissions := t.rolePermissions.filter (·.2 ≠ id)
        permissionResources := t.permissionResources.filter (·.1 ≠ id) }
  | resourceCreated {asked : NewResource} :
      Made now t (.createResource asked) (some (t.lastId + 1)) { t with
        lastId := t.lastId + 1
        resources := t.resources.put (t.lastId + 1) ⟨t.lastId + 1, asked.name, asked.description,
          asked.serviceType.text, asked.method, asked.path, now, now⟩ }
  | resourceUpdated {id : Int} {asked : NewResource} {resource : Resource}
      (hresource : t.resources.find? id = some resource) :
      Made now t (.updateResource id asked) none { t with
        resources := t.resources.put id { resource with
          name := asked.name, description := asked.description
          serviceType := asked.serviceType.text, method := asked.method, path := asked.path
          updatedAt := now } }
  | resourceDeleted {id : Int} (hthere : t.resources.contains id = true) :
      Made now t (.deleteResource id) none { t with
        resources := t.resources.erase id
        permissionResources := t.permissionResources.filter (·.2 ≠ id) }
  | permissionsAssigned {roleId : Int} {ids : List Int}
      (hrole : t.roles.contains roleId = true)
      (hids : ∀ id ∈ ids, t.permissions.contains id = true) :
      Made now t (.assignPermissions roleId ids) none
        { t with rolePermissions := linkAll roleId ids t.rolePermissions }
  | permissionsRemoved {roleId : Int} {ids : List Int} (hrole : t.roles.contains roleId = true) :
      Made now t (.removePermissions roleId ids) none
        { t with rolePermissions := unlinkAll roleId ids t.rolePermissions }
  | resourcesAssigned {permissionId : Int} {ids : List Int}
      (hpermission : t.permissions.contains permissionId = true)
      (hids : ∀ id ∈ ids, t.resources.contains id = true) :
      Made now t (.assignResources permissionId ids) none
        { t with permissionResources := linkAll permissionId ids t.permissionResources }
  | resourcesRemoved {permissionId : Int} {ids : List Int}
      (hpermission : t.permissions.contains permissionId = true) :
      Made now t (.removeResources permissionId ids) none
        { t with permissionResources := unlinkAll permissionId ids t.permissionResources }
  | roleAssigned {userId roleId : Int} (hrole : t.roles.contains roleId = true) :
      Made now t (.assignRole userId roleId) none
        { t with userRoles := Links.add (userId, roleId) t.userRoles }
  | roleRevoked {userId roleId : Int} :
      Made now t (.revokeRole userId roleId) none
        { t with userRoles := Links.remove (userId, roleId) t.userRoles }
  | asked {question : PolicyQuestion} : Made now t (.ask question) none t

/-! One lemma for each change of the tables: what it checked, and what it then made. -/

section Changes

variable {now : Instant} {t t' : PolicyTables} {id : Int} {ids : List Int} {entry : NamedEntry}

theorem Made.of_createRole {role : Role} (h : createRole entry ids now t = .ok (role, t')) :
    Made now t (.createRole entry ids) (some role.id) t' := by
  unfold createRole at h
  dsimp only at h
  split at h
  · cases h
  · rename_i hname
    obtain ⟨_, hids, h⟩ := of_bind_ok h
    cases h
    exact .roleCreated (by simpa using hname) (of_requireAll hids)

theorem Made.of_updateRole {role : Role} (h : updateRole id entry now t = .ok (role, t')) :
    Made now t (.updateRole id entry) none t' := by
  unfold updateRole at h
  split at h
  · cases h
  · rename_i hrole
    cases h
    exact .roleUpdated hrole

theorem Made.of_deleteRole (h : deleteRole id now t = .ok ((), t')) :
    Made now t (.deleteRole id) none t' := by
  obtain ⟨_, hthere, h⟩ := of_bind_ok h
  cases h
  exact .roleDeleted (of_requireRole hthere)

theorem Made.of_createPermission {permission : Permission}
    (h : createPermission entry ids now t = .ok (permission, t')) :
    Made now t (.createPermission entry ids) (some permission.id) t' := by
  obtain ⟨_, hids, h⟩ := of_bind_ok h
  cases h
  exact .permissionCreated (of_requireAll hids)

theorem Made.of_updatePermission {permission : Permission}
    (h : updatePermission id entry now t = .ok (permission, t')) :
    Made now t (.updatePermission id entry) none t' := by
  unfold updatePermission at h
  split at h
  · cases h
  · rename_i hpermission
    cases h
    exact .permissionUpdated hpermission

theorem Made.of_deletePermission (h : deletePermission id now t = .ok ((), t')) :
    Made now t (.deletePermission id) none t' := by
  obtain ⟨_, hthere, h⟩ := of_bind_ok h
  cases h
  exact .permissionDeleted (of_requirePermission hthere)

theorem Made.of_createResource {asked : NewResource} {resource : Resource}
    (h : createResource asked now t = .ok (resource, t')) :
    Made now t (.createResource asked) (some resource.id) t' := by
  cases h
  exact .resourceCreated

theorem Made.of_updateResource {asked : NewResource} {resource : Resource}
    (h : updateResource id asked now t = .ok (resource, t')) :
    Made now t (.updateResource id asked) none t' := by
  unfold updateResource at h
  split at h
  · cases h
  · rename_i hresource
    cases h
    exact .resourceUpdated hresource

theorem Made.of_deleteResource (h : deleteResource id now t = .ok ((), t')) :
    Made now t (.deleteResource id) none t' := by
  unfold deleteResource at h
  split at h
  · rename_i hthere
    cases h
    exact .resourceDeleted hthere
  · cases h

theorem Made.of_assignPermissions (h : assignPermissions id ids now t = .ok ((), t')) :
    Made now t (.assignPermissions id ids) none t' := by
  obtain ⟨_, hrole, h⟩ := of_bind_ok h
  obtain ⟨_, hids, h⟩ := of_bind_ok h
  cases h
  exact .permissionsAssigned (of_requireRole hrole) (of_requireAll hids)

theorem Made.of_removePermissions (h : removePermissions id ids now t = .ok ((), t')) :
    Made now t (.removePermissions id ids) none t' := by
  obtain ⟨_, hrole, h⟩ := of_bind_ok h
  cases h
  exact .permissionsRemoved (of_requireRole hrole)

theorem Made.of_assignResources (h : assignResources id ids now t = .ok ((), t')) :
    Made now t (.assignResources id ids) none t' := by
  obtain ⟨_, hpermission, h⟩ := of_bind_ok h
  obtain ⟨_, hids, h⟩ := of_bind_ok h
  cases h
  exact .resourcesAssigned (of_requirePermission hpermission) (of_requireAll hids)

theorem Made.of_removeResources (h : removeResources id ids now t = .ok ((), t')) :
    Made now t (.removeResources id ids) none t' := by
  obtain ⟨_, hpermission, h⟩ := of_bind_ok h
  cases h
  exact .resourcesRemoved (of_requirePermission hpermission)

theorem Made.of_assignRole {userId : Int} (h : assignRole userId id now t = .ok ((), t')) :
    Made now t (.assignRole userId id) none t' := by
  obtain ⟨_, hrole, h⟩ := of_bind_ok h
  cases h
  exact .roleAssigned (of_requireRole hrole)

theorem Made.of_revokeRole {userId : Int} (h : revokeRole userId id now t = .ok ((), t')) :
    Made now t (.revokeRole userId id) none t' := by
  cases h
  exact .roleRevoked

end Changes

/-- An operation that goes through makes of the tables what it is to make of them. -/
theorem of_change {op : PolicyOperation} {now : Instant} {t t' : PolicyTables}
    {issued : Option Int} (hop : op.change now t = .ok (issued, t')) : Made now t op issued t' := by
  cases op <;> rw [PolicyOperation.change] at hop <;> obtain ⟨_, h, rfl⟩ := Change.of_map hop
  case createRole entry ids => exact .of_createRole h
  case updateRole id entry => exact .of_updateRole h
  case deleteRole id => exact .of_deleteRole h
  case createPermission entry ids => exact .of_createPermission h
  case updatePermission id entry => exact .of_updatePermission h
  case deletePermission id => exact .of_deletePermission h
  case createResource asked => exact .of_createResource h
  case updateResource id asked => exact .of_updateResource h
  case deleteResource id => exact .of_deleteResource h
  case assignPermissions roleId ids => exact .of_assignPermissions h
  case removePermissions roleId ids => exact .of_removePermissions h
  case assignResources permissionId ids => exact .of_assignResources h
  case removeResources permissionId ids => exact .of_removeResources h
  case assignRole userId roleId => exact .of_assignRole h
  case revokeRole userId roleId => exact .of_revokeRole h
  case ask question =>
    cases h
    exact .asked

end PolicyTables

/-! ### Calls of the administration -/

namespace AdminCall

open PolicyTables (Change Made)

/-- The operation that a call makes on the store. Without anything to link or to unlink it makes
none. -/
def operation? : AdminCall → Option PolicyOperation
  | addRole request => some (.createRole request.entry request.permissionIds)
  | updateRole id request => some (.updateRole id request.entry)
  | deleteRole id => some (.deleteRole id)
  | addPermission request => some (.createPermission request.entry request.resourceIds)
  | updatePermission id request => some (.updatePermission id request.entry)
  | deletePermission id => some (.deletePermission id)
  | addResource request => some (.createResource request.resource)
  | updateResource id request => some (.updateResource id request.resource)
  | deleteResource id => some (.deleteResource id)
  | assignPermissions roleId ids =>
    if ids.isEmpty then none else some (.assignPermissions roleId ids)
  | removePermissions roleId ids =>
    if ids.isEmpty then none else some (.removePermissions roleId ids)
  | assignResources permissionId ids =>
    if ids.isEmpty then none else some (.assignResources permissionId ids)
  | removeResources permissionId ids =>
    if ids.isEmpty then none else some (.removeResources permissionId ids)
  | assignRole userId roleId => some (.assignRole userId roleId)
  | revokeRole userId roleId => some (.revokeRole userId roleId)
  | userPermissions _ | loadPolicy _ | reload => none

variable {call : AdminCall} {now : Instant} {t t' : PolicyTables}

/-- A change of links is made for some identifiers, or there are none. -/
theorem of_linkChange {ids : List Int} {links : Change Unit}
    (h : (if ids.isEmpty then PolicyTables.unchanged else links) now t = .ok ((), t')) :
    ids = [] ∧ t' = t ∨ ids ≠ [] ∧ links now t = .ok ((), t') := by
  cases ids with
  | nil =>
    cases h
    exact .inl ⟨rfl, rfl⟩
  | cons id rest => exact .inr ⟨List.cons_ne_nil _ _, h⟩

/-- A call whose change is its operation's, with another answer, makes that operation. -/
theorem made_of_map {α : Type} {op : PolicyOperation} {change : Change α} {f : α → Option Int}
    {a : α} (hop : call.operation? = some op) (hchange : op.change = change.map f)
    (h : change now t = .ok (a, t')) :
    ∃ op issued, call.operation? = some op ∧ Made now t op issued t' :=
  ⟨op, f a, hop, PolicyTables.of_change (hchange ▸ Change.map_ok h)⟩

theorem made_of_linkChange {ids : List Int} {links : Change Unit} {op : PolicyOperation}
    (hop : call.operation? = if ids.isEmpty then none else some op)
    (hchange : op.change = links.map fun _ => none)
    (h : (if ids.isEmpty then PolicyTables.unchanged else links) now t = .ok ((), t')) :
    call.operation? = none ∧ t' = t ∨
      ∃ op issued, call.operation? = some op ∧ Made now t op issued t' := by
  obtain ⟨rfl, rfl⟩ | ⟨hids, hlinks⟩ := of_linkChange h
  · exact .inl ⟨hop, rfl⟩
  · rw [if_neg (by simpa using hids)] at hop
    exact .inr (made_of_map hop hchange hlinks)

/-- A call changes the tables by its operation, or not at all. -/
theorem of_change (h : call.change now t = .ok ((), t')) :
    call.operation? = none ∧ t' = t ∨
      ∃ op issued, call.operation? = some op ∧ Made now t op issued t' := by
  cases call with
  | addRole request =>
    obtain ⟨role, hrole⟩ := Change.of_after h
    exact .inr (made_of_map rfl (PolicyOperation.change.eq_def _) hrole)
  | updateRole id request =>
    obtain ⟨role, hrole⟩ := Change.of_after h
    exact .inr (made_of_map rfl (PolicyOperation.change.eq_def _) hrole)
  | deleteRole id => exact .inr (made_of_map rfl (PolicyOperation.change.eq_def _) h)
  | addPermission request =>
    obtain ⟨permission, hpermission⟩ := Change.of_after h
    exact .inr (made_of_map rfl (PolicyOperation.change.eq_def _) hpermission)
  | updatePermission id request =>
    obtain ⟨permission, hpermission⟩ := Change.of_after h
    exact .inr (made_of_map rfl (PolicyOperation.change.eq_def _) hpermission)
  | deletePermission id => exact .inr (made_of_map rfl (PolicyOperation.change.eq_def _) h)
  | addResource request =>
    obtain ⟨resource, hresource⟩ := Change.of_after h
    exact .inr (made_of_map rfl (PolicyOperation.change.eq_def _) hresource)
  | updateResource id request =>
    obtain ⟨resource, hresource⟩ := Change.of_after h
    exact .inr (made_of_map rfl (PolicyOperation.change.eq_def _) hresource)
  | deleteResource id => exact .inr (made_of_map rfl (PolicyOperation.change.eq_def _) h)
  | assignPermissions roleId ids =>
    exact made_of_linkChange rfl (PolicyOperation.change.eq_def _) h
  | removePermissions roleId ids =>
    exact made_of_linkChange rfl (PolicyOperation.change.eq_def _) h
  | assignResources permissionId ids =>
    exact made_of_linkChange rfl (PolicyOperation.change.eq_def _) h
  | removeResources permissionId ids =>
    exact made_of_linkChange rfl (PolicyOperation.change.eq_def _) h
  | assignRole userId roleId => exact .inr (made_of_map rfl (PolicyOperation.change.eq_def _) h)
  | revokeRole userId roleId => exact .inr (made_of_map rfl (PolicyOperation.change.eq_def _) h)
  | userPermissions | loadPolicy | reload =>
    cases h
    exact .inl ⟨rfl, rfl⟩

theorem made_of_change {op : PolicyOperation} (h : call.change now t = .ok ((), t'))
    (hop : call.operation? = some op) : ∃ issued, Made now t op issued t' := by
  obtain ⟨hnone, -⟩ | ⟨op', issued, hop', hmade⟩ := of_change h
  · cases hop.symm.trans hnone
  · cases hop.symm.trans hop'
    exact ⟨issued, hmade⟩

end AdminCall

/-! ### Runs -/

/-- One operation of a run: the tables that it found, its answer, and the tables that it left. -/
structure PolicyEntry where
  operation : PolicyOperation
  before : PolicyTables
  answer : Except Failure (Option Int)
  after : PolicyTables

/-- The operations of a run on the store in memory, each made at a moment of its own. -/
def PolicyOperation.run (s : MemoryState) : List (Instant × PolicyOperation) → List PolicyEntry
  | [] => []
  | (now, op) :: rest =>
    let (answer, s') := op.step MemoryState.policyStore now s
    ⟨op, s.policies, answer, s'.policies⟩ :: run s' rest

/-- An operation is refused, and the tables stay as they are, or it goes through. -/
inductive PolicyEntry.Happens : PolicyEntry → Prop
  | refused {op : PolicyOperation} {now : Instant} {t : PolicyTables} {e : ServiceError}
      (hop : op.change now t = .error e) : Happens ⟨op, t, .error (.error e), t⟩
  | made {op : PolicyOperation} {now : Instant} {t t' : PolicyTables} {issued : Option Int}
      (hmade : PolicyTables.Made now t op issued t') : Happens ⟨op, t, .ok issued, t'⟩

/-- What every operation leads to, a single entry leads to. -/
theorem PolicyEntry.Happens.leads {R : PolicyTables → PolicyTables → Prop} (hrefl : ∀ t, R t t)
    (hmade : ∀ {now t op issued t'}, PolicyTables.Made now t op issued t' → R t t')
    {e : PolicyEntry} (h : e.Happens) : R e.before e.after := by
  cases h with
  | refused => exact hrefl _
  | made h => exact hmade h

theorem PolicyEntry.Happens.keeps {P : PolicyTables → Prop}
    (hmade : ∀ {now t op issued t'}, PolicyTables.Made now t op issued t' → P t → P t')
    {e : PolicyEntry} (h : e.Happens) (hbefore : P e.before) : P e.after :=
  h.leads (R := fun t t' => P t → P t') (fun _ ht => ht) hmade hbefore

namespace PolicyOperation

open PolicyTables (Made)

theorem happens_step (op : PolicyOperation) (now : Instant) (s : MemoryState) :
    PolicyEntry.Happens ⟨op, s.policies, (op.step MemoryState.policyStore now s).1,
      (op.step MemoryState.policyStore now s).2.policies⟩ := by
  rw [MemoryState.step_policyStore]
  unfold MemoryState.policyStep
  cases hop : op.change now s.policies with
  | error e => exact .refused hop
  | ok p => exact .made (PolicyTables.of_change hop)

variable {s : MemoryState} {calls : List (Instant × PolicyOperation)}

theorem happens_of_mem_run : ∀ e ∈ run s calls, e.Happens := by
  induction calls generalizing s with
  | nil => exact List.forall_mem_nil _
  | cons call rest ih => exact List.forall_mem_cons.mpr ⟨happens_step call.2 call.1 s, ih⟩

/-- What every entry of a run keeps is kept by the run. -/
theorem run_keeps {P : PolicyTables → Prop}
    (hkeeps : ∀ e ∈ run s calls, e.Happens → P e.before → P e.after)
    (hs : P s.policies) : ∀ e ∈ run s calls, P e.before ∧ P e.after := by
  induction calls generalizing s with
  | nil => exact List.forall_mem_nil _
  | cons call rest ih =>
    have hafter := hkeeps _ List.mem_cons_self (happens_step call.2 call.1 s) hs
    have hrest := ih (fun e he => hkeeps e (List.mem_cons_of_mem _ he)) hafter
    exact List.forall_mem_cons.mpr ⟨⟨hs, hafter⟩, hrest⟩

/-- What every operation leads to, a run leads to from each entry to all later ones. -/
theorem run_pairwise {R : PolicyTables → PolicyTables → Prop} (hrefl : ∀ t, R t t)
    (htrans : ∀ {a b c}, R a b → R b c → R a c)
    (hmade : ∀ {now t op issued t'}, Made now t op issued t' → R t t') :
    (run s calls).Pairwise fun e e' => R e.after e'.before := by
  induction calls generalizing s with
  | nil => exact .nil
  | cons call rest ih =>
    refine List.pairwise_cons.mpr ⟨fun e he => ?_, ih⟩
    exact (run_keeps (fun d _ hd hr => htrans hr (hd.leads hrefl hmade)) (hrefl _) e he).1

/-- The same at one entry of a run: it comes after all earlier ones, and all later ones come after
it. -/
theorem run_between {R : PolicyTables → PolicyTables → Prop} (hrefl : ∀ t, R t t)
    (htrans : ∀ {a b c}, R a b → R b c → R a c)
    (hmade : ∀ {now t op issued t'}, Made now t op issued t' → R t t')
    {pre post : List PolicyEntry} {e : PolicyEntry} (hrun : run s calls = pre ++ e :: post) :
    (∀ d ∈ pre, R d.after e.before) ∧ ∀ d ∈ post, R e.after d.after := by
  have hpairwise : (run s calls).Pairwise fun d d' => R d.after d'.before :=
    run_pairwise hrefl htrans hmade
  have hhappens : ∀ d ∈ run s calls, d.Happens := happens_of_mem_run
  rw [hrun] at hpairwise hhappens
  obtain ⟨-, hrest, hacross⟩ := List.pairwise_append.mp hpairwise
  refine ⟨fun d hd => hacross d hd e List.mem_cons_self, fun d hd => ?_⟩
  have hlater := hhappens d (List.mem_append_right _ (List.mem_cons_of_mem _ hd))
  exact htrans ((List.pairwise_cons.mp hrest).1 d hd) (hlater.leads hrefl hmade)

end PolicyOperation

end Turnstile
