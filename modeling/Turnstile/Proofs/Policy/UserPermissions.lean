import Turnstile.Proofs.Entitlement
import Turnstile.Proofs.Policy.Integrity

/-!
What users are told of their permissions, whatever was done to the store before. The answer is
joined from two tables of links, where a permission may be met more than once, and it is cut short
for whoever has a role of the superadmin's name. Roles come, go and change their names, and so do
permissions, so both are said of the tables as the operations have left them.
-/

namespace Turnstile

/-! ### What a permission is called -/

def Permission.entry (p : Permission) : NamedEntry := ⟨p.name, p.description⟩

/-- What an operation says of a permission, if it is one that went through and is about this one:
what the permission is called from then on, or that there is none any more. -/
def PolicyEntry.says? (e : PolicyEntry) (id : Int) : Option (Option NamedEntry) :=
  match e.answer, e.operation with
  | .ok issued, .createPermission entry _ => if issued = some id then some (some entry) else none
  | .ok _, .updatePermission changed entry => if changed = id then some (some entry) else none
  | .ok _, .deletePermission deleted => if deleted = id then some none else none
  | _, _ => none

/-- What a permission is called after a run: the last operation that says something of it counts. -/
def Permission.current? (past : List PolicyEntry) (id : Int) : Option NamedEntry :=
  past.foldl (fun known e => (e.says? id).getD known) none

theorem Permission.current?_concat (past : List PolicyEntry) (e : PolicyEntry) (id : Int) :
    current? (past ++ [e]) id = (e.says? id).getD (current? past id) := by
  unfold current?
  rw [List.foldl_append]
  rfl

/-- The entry of the permission changes as the operation says, and stays if it says nothing. -/
theorem PolicyEntry.Happens.entry_eq {e : PolicyEntry} (h : e.Happens) (id : Int) :
    (e.after.permissions.find? id).map Permission.entry =
      (e.says? id).getD ((e.before.permissions.find? id).map Permission.entry) := by
  cases h with
  | refused => rfl
  | made hmade =>
    cases hmade with
    | permissionCreated | permissionUpdated =>
      dsimp only [says?]
      rw [Table.find?_put]
      split <;> simp_all [Permission.entry]
    | permissionDeleted =>
      dsimp only [says?]
      rw [Table.find?_erase]
      split <;> rfl
    | _ => rfl

/-! ### Runs from their ends -/

namespace PolicyOperation

/-- The store in memory after the operations of a run. -/
def after (s : MemoryState) (calls : List (Instant × PolicyOperation)) : MemoryState :=
  calls.foldl (fun s call => (call.2.step MemoryState.policyStore call.1 s).2) s

variable {s : MemoryState}

theorem after_concat (s : MemoryState) (calls : List (Instant × PolicyOperation))
    (call : Instant × PolicyOperation) :
    after s (calls ++ [call]) = (call.2.step MemoryState.policyStore call.1 (after s calls)).2 := by
  unfold after
  rw [List.foldl_append]
  rfl

theorem run_concat (s : MemoryState) (calls : List (Instant × PolicyOperation))
    (call : Instant × PolicyOperation) :
    run s (calls ++ [call]) = run s calls ++ [⟨call.2, (after s calls).policies,
      (call.2.step MemoryState.policyStore call.1 (after s calls)).1,
      (call.2.step MemoryState.policyStore call.1 (after s calls)).2.policies⟩] := by
  induction calls generalizing s with
  | nil => rfl
  | cons first rest ih => exact congrArg (_ :: ·) (ih _)

/-- What holds at the start, and is kept by whatever happens next, holds after a run. -/
theorem after_of_happens {P : List PolicyEntry → PolicyTables → Prop} (hs : P [] s.policies)
    (hnext : ∀ past e, e.Happens → P past e.before → P (past ++ [e]) e.after)
    (calls : List (Instant × PolicyOperation)) : P (run s calls) (after s calls).policies := by
  induction calls using List.reverseRecOn with
  | nil => exact hs
  | append_singleton calls call ih =>
    rw [run_concat, after_concat]
    exact hnext _ _ (happens_step call.2 call.1 (after s calls)) ih

end PolicyOperation

/-! ### Stored permissions -/

namespace PolicyTables

variable {now : Instant} {t t' : PolicyTables} {op : PolicyOperation} {issued : Option Int}

/-- Permissions stand under their own identifiers, in the order of them. -/
structure PermissionsKept (t : PolicyTables) : Prop where
  keyed : ∀ id p, t.permissions.find? id = some p → p.id = id
  ascending : t.permissions.Ascending

namespace PermissionsKept

theorem put (h : t.PermissionsKept) {id : Int} {p : Permission}
    (hpermissions : t'.permissions = t.permissions.put id p) (hid : p.id = id) :
    t'.PermissionsKept where
  keyed := fun k found hfound => by
    rw [hpermissions] at hfound
    exact Table.key_of_find?_put h.keyed hid hfound
  ascending := hpermissions ▸ h.ascending.put _ _

theorem erase (h : t.PermissionsKept) {id : Int}
    (hpermissions : t'.permissions = t.permissions.erase id) : t'.PermissionsKept where
  keyed := fun k found hfound => by
    rw [hpermissions] at hfound
    exact h.keyed k found (Table.find?_of_find?_erase hfound)
  ascending := hpermissions ▸ h.ascending.erase _

theorem made (hmade : Made now t op issued t') (h : t.PermissionsKept) : t'.PermissionsKept := by
  cases hmade with
  | permissionCreated => exact h.put rfl rfl
  | permissionUpdated hpermission =>
    have hid := h.keyed _ _ hpermission
    exact h.put rfl hid
  | permissionDeleted => exact h.erase rfl
  | _ => exact ⟨h.keyed, h.ascending⟩

theorem mem_values (h : t.PermissionsKept) {p : Permission} :
    p ∈ t.permissions.values ↔ t.permissions.find? p.id = some p :=
  h.ascending.mem_values_iff h.keyed

theorem values_ascending (h : t.PermissionsKept) :
    t.permissions.values.Pairwise fun p q => p.id < q.id := by
  refine List.pairwise_map.mpr (h.ascending.imp_of_mem fun {a b} ha hb hlt => ?_)
  rw [h.keyed _ _ (h.ascending.find?_of_mem ha), h.keyed _ _ (h.ascending.find?_of_mem hb)]
  exact hlt

theorem mem_ids (h : t.PermissionsKept) {id : Int} :
    id ∈ t.permissions.values.map (·.id) ↔ t.permissions.contains id = true := by
  rw [List.mem_map]
  constructor
  · rintro ⟨p, hp, rfl⟩
    exact Option.isSome_of_eq_some (h.mem_values.mp hp)
  · intro hthere
    obtain ⟨p, hp⟩ := Option.isSome_iff_exists.mp hthere
    exact ⟨p, Table.mem_values_of_find? hp, h.keyed id p hp⟩

end PermissionsKept

/-! ### Roles of users -/

/-- The user has the role, as it stands now. -/
def HasRole (t : PolicyTables) (userId : Int) (role : Role) : Prop :=
  (userId, role.id) ∈ t.userRoles ∧ t.roles.find? role.id = some role

/-- The permissions of a user are what their roles are linked to: no link leads to nothing. -/
theorem Linked.mem_ids_permissionsOf (h : t.Linked) (hkept : t.PermissionsKept) {userId id : Int} :
    id ∈ (t.permissionsOf userId).map (·.id) ↔
      ∃ role, t.HasRole userId role ∧ (role.id, id) ∈ t.rolePermissions := by
  rw [List.mem_map]
  constructor
  · rintro ⟨p, hp, rfl⟩
    obtain ⟨-, role, hrole, hlink⟩ := h.rolesKept.mem_permissionsOf.mp hp
    exact ⟨role, h.rolesKept.mem_rolesOf.mp hrole, hlink⟩
  · rintro ⟨role, hrole, hlink⟩
    obtain ⟨p, hp⟩ := Option.isSome_iff_exists.mp (h.rolePermissions _ hlink).2
    obtain rfl := hkept.keyed id p hp
    exact ⟨p, h.rolesKept.mem_permissionsOf.mpr
      ⟨Table.mem_values_of_find? hp, role, h.rolesKept.mem_rolesOf.mpr hrole, hlink⟩, rfl⟩

end PolicyTables

/-! ### The answer -/

/-- What a run leaves of the tables as far as the answer goes: permissions are called what they
were called last. -/
structure PolicyTables.Recorded (past : List PolicyEntry) (t : PolicyTables) : Prop where
  linked : t.Linked
  kept : t.PermissionsKept
  current : ∀ id, (t.permissions.find? id).map Permission.entry = Permission.current? past id

theorem PolicyTables.recorded_empty : Recorded [] {} where
  linked := linked_empty
  kept := ⟨fun _ _ h => (nomatch h), .nil⟩
  current := fun _ => rfl

theorem PolicyEntry.Happens.recorded {past : List PolicyEntry} {e : PolicyEntry} (he : e.Happens)
    (h : e.before.Recorded past) : e.after.Recorded (past ++ [e]) where
  linked := he.keeps PolicyTables.Made.linked h.linked
  kept := he.keeps PolicyTables.PermissionsKept.made h.kept
  current := fun id => by rw [Permission.current?_concat, he.entry_eq, h.current]

theorem PolicyOperation.after_recorded (calls : List (Instant × PolicyOperation)) :
    (after {} calls).policies.Recorded (run {} calls) :=
  after_of_happens PolicyTables.recorded_empty (fun _ _ he h => he.recorded h) calls

/-- Whatever was done to the store before, a user is told of exactly the permissions that their
roles are linked to, and of all that are stored if one of the roles has the name of the superadmin.
Each comes once, in the order of the identifiers, as it is stored, and what is stored is called
what it was called last. -/
theorem user_permissions_reachable (m : MemoryService) {w : World MemoryState}
    {calls : List (Instant × PolicyOperation)}
    (hw : w.stores.policies = (PolicyOperation.after {} calls).policies) (userId : Int) :
    let t := w.stores.policies
    let superadmin := ∃ role, t.HasRole userId role ∧ role.name = w.engine.superadminRole
    ∃ permissions, (m.app.userPermissions userId).runOn w = (.ok permissions, w) ∧
      (superadmin → ∀ id, id ∈ permissions.map (·.id) ↔ t.permissions.contains id = true) ∧
      (¬ superadmin → ∀ id, id ∈ permissions.map (·.id) ↔
        ∃ role, t.HasRole userId role ∧ (role.id, id) ∈ t.rolePermissions) ∧
      permissions.Pairwise (fun p q => p.id < q.id) ∧
      (∀ p ∈ permissions, t.permissions.find? p.id = some p) ∧
      ∀ id, (t.permissions.find? id).map Permission.entry =
        Permission.current? (PolicyOperation.run {} calls) id := by
  intro t superadmin
  have hrecorded := PolicyOperation.after_recorded calls
  rw [← hw] at hrecorded
  obtain ⟨hlinked, hkept, hcurrent⟩ := hrecorded
  have hsuper : superadmin ↔
      ∃ role ∈ t.rolesOf userId, role.name = w.engine.superadminRole :=
    exists_congr fun _ => and_congr_left fun _ => hlinked.rolesKept.mem_rolesOf.symm
  have hfilter : (t.permissionsOf userId).Sublist t.permissions.values := List.filter_sublist
  refine ⟨_, m.runOn_userPermissions_eq w userId, fun h => ?_, fun h => ?_, ?_, ?_, hcurrent⟩
  · rw [if_pos (hsuper.mp h)]
    exact fun _ => hkept.mem_ids
  · rw [if_neg (mt hsuper.mpr h)]
    exact fun _ => hlinked.mem_ids_permissionsOf hkept
  · split
    · exact hkept.values_ascending
    · exact hkept.values_ascending.sublist hfilter
  · intro p hp
    refine hkept.mem_values.mp ?_
    split at hp
    · exact hp
    · exact hfilter.subset hp

namespace Sample

/-- Two roles of a user lead to the permission to read. It gets another name, and the permission to
write is deleted. The role of another user gets the name of the superadmin. -/
def joinsAndRenames : List (Instant × PolicyOperation) :=
  List.map (Prod.mk (.ofSeconds 0))
    [.createPermission ⟨"read", ""⟩ [], .createPermission ⟨"write", ""⟩ [],
      .createPermission ⟨"audit", ""⟩ [], .createRole ⟨"member", ""⟩ [1],
      .createRole ⟨"editor", ""⟩ [1, 2], .createRole ⟨"chief", ""⟩ [],
      .assignRole 7 4, .assignRole 7 5, .assignRole 8 6,
      .updatePermission 1 ⟨"view", "files"⟩, .deletePermission 2,
      .updateRole 6 ⟨"superadmin", ""⟩]

def joined : World MemoryState := { blank with stores := PolicyOperation.after {} joinsAndRenames }

/-- One user is told of what is left to them, under its new name, and the other of everything. -/
theorem told_of_renamed :
    (∃ told, (service.app.userPermissions 7).runOn joined = (.ok told, joined) ∧
      (∀ id, id ∈ told.map (·.id) ↔ id = 1) ∧ ∀ p ∈ told, p.entry = ⟨"view", "files"⟩) ∧
    ∃ told, (service.app.userPermissions 8).runOn joined = (.ok told, joined) ∧
      ∀ id, id ∈ told.map (·.id) ↔ joined.stores.policies.permissions.contains id = true := by
  have hjoined : joined.stores.policies = (PolicyOperation.after {} joinsAndRenames).policies := rfl
  have hroles (userId : Int) (role : Role) : joined.stores.policies.HasRole userId role ↔
      role ∈ joined.stores.policies.rolesOf userId :=
    (PolicyOperation.after_recorded joinsAndRenames).linked.rolesKept.mem_rolesOf.symm
  have hname : joined.engine.superadminRole = "superadmin" := rfl
  have hlinks : joined.stores.policies.rolePermissions = [(4, 1), (5, 1)] := by decide
  have hseven : joined.stores.policies.rolesOf 7 =
      [member 4, { member 5 with name := "editor" }] := by decide
  have height : joined.stores.policies.rolesOf 8 = [{ member 6 with name := "superadmin" }] := by
    decide
  obtain ⟨told, hrun, -, hjoin, -, hstored, hcurrent⟩ :=
    user_permissions_reachable service hjoined 7
  obtain ⟨all, hrunAll, hall, -⟩ := user_permissions_reachable service hjoined 8
  simp only [hroles, hlinks, hseven, height] at hjoin hall
  have hids : ∀ id, id ∈ told.map (·.id) ↔ id = 1 := fun id => by
    rw [hjoin (by simp [member, hname]) id]
    simp [member]
  refine ⟨⟨told, hrun, hids, fun p hp => ?_⟩, all, hrunAll, hall ⟨_, .head _, rfl⟩⟩
  have hcalled := hcurrent p.id
  rw [hstored p hp, (hids p.id).mp (List.mem_map_of_mem hp)] at hcalled
  exact Option.some.inj (hcalled.trans (by decide))

end Sample

end Turnstile
