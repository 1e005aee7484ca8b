import Turnstile.Proofs.Policy.Tables

/-!
Links lead to what is stored, and an identifier stands for one thing ever. What is deleted takes
along every access that passes through it, and since the counter only goes up, nothing that is
created later gives such an access back.
-/

namespace Turnstile

/-! ### Things and accesses -/

inductive PolicyKind where
  | role
  | permission
  | resource
  deriving DecidableEq

/-- A thing in the tables of policies, by its kind and its identifier. -/
structure PolicyKey where
  kind : PolicyKind
  id : Int
  deriving DecidableEq

/-- An access that the tables give: a way from a role to a resource, a role that a user has, or a
permission that a user has through a role. -/
inductive Access where
  | grant (chain : Chain)
  | role (userId roleId : Int)
  | permission (userId roleId permissionId : Int)

/-- What an access passes through. -/
def Access.through : Access → List PolicyKey
  | grant c => [⟨.role, c.role⟩, ⟨.permission, c.permission⟩, ⟨.resource, c.resource⟩]
  | role _ roleId => [⟨.role, roleId⟩]
  | permission _ roleId permissionId => [⟨.role, roleId⟩, ⟨.permission, permissionId⟩]

namespace PolicyOperation

def creates? : PolicyOperation → Option PolicyKind
  | createRole .. => some .role
  | createPermission .. => some .permission
  | createResource .. => some .resource
  | _ => none

def deletes? : PolicyOperation → Option PolicyKey
  | deleteRole id => some ⟨.role, id⟩
  | deletePermission id => some ⟨.permission, id⟩
  | deleteResource id => some ⟨.resource, id⟩
  | _ => none

end PolicyOperation

/-- The identifier that an operation has handed out. -/
def PolicyEntry.issued? (e : PolicyEntry) : Option Int :=
  match e.answer with
  | .ok issued => issued
  | .error _ => none

namespace PolicyTables

variable {now : Instant} {t t' : PolicyTables} {op : PolicyOperation} {issued : Option Int}

def Stores (t : PolicyTables) : PolicyKey → Prop
  | ⟨.role, id⟩ => t.roles.contains id = true
  | ⟨.permission, id⟩ => t.permissions.contains id = true
  | ⟨.resource, id⟩ => t.resources.contains id = true

def Has (t : PolicyTables) : Access → Prop
  | .grant c => t.HasChain c
  | .role userId roleId => (userId, roleId) ∈ t.userRoles
  | .permission userId roleId permissionId =>
    (userId, roleId) ∈ t.userRoles ∧ (roleId, permissionId) ∈ t.rolePermissions

instance (t : PolicyTables) : (a : Access) → Decidable (t.Has a)
  | .grant _ => inferInstanceAs (Decidable (_ ∧ _))
  | .role .. => inferInstanceAs (Decidable (_ ∈ _))
  | .permission .. => inferInstanceAs (Decidable (_ ∧ _))

/-- All links lead from rows of one table to rows of another. -/
def Joins {α β : Type} (links : Links) (left : Table Int α) (right : Table Int β) : Prop :=
  ∀ link ∈ links, left.contains link.1 = true ∧ right.contains link.2 = true

namespace Joins

variable {α β : Type} {links : Links} {left : Table Int α} {right : Table Int β} {id : Int}

theorem putLeft (h : Joins links left right) (a : α) : Joins links (left.put id a) right :=
  fun link hlink => ⟨Table.contains_put.mpr (.inr (h link hlink).1), (h link hlink).2⟩

theorem putRight (h : Joins links left right) (b : β) : Joins links left (right.put id b) :=
  fun link hlink => ⟨(h link hlink).1, Table.contains_put.mpr (.inr (h link hlink).2)⟩

theorem linkAll (h : Joins links left right) (hid : left.contains id = true) {ids : List Int}
    (hids : ∀ j ∈ ids, right.contains j = true) :
    Joins (PolicyTables.linkAll id ids links) left right := by
  intro link hlink
  rcases Links.mem_linkAll.mp hlink with ⟨rfl, hmem⟩ | hold
  · exact ⟨hid, hids _ hmem⟩
  · exact h link hold

theorem unlinkAll (h : Joins links left right) (ids : List Int) :
    Joins (PolicyTables.unlinkAll id ids links) left right :=
  fun link hlink => h link (Links.mem_unlinkAll.mp hlink).1

theorem eraseLeft (h : Joins links left right) :
    Joins (links.filter (·.1 ≠ id)) (left.erase id) right := by
  intro link hlink
  obtain ⟨hold, hne⟩ := List.mem_filter.mp hlink
  have hne : link.1 ≠ id := of_decide_eq_true hne
  exact ⟨Table.contains_erase.mpr ⟨hne.symm, (h link hold).1⟩, (h link hold).2⟩

theorem eraseRight (h : Joins links left right) :
    Joins (links.filter (·.2 ≠ id)) left (right.erase id) := by
  intro link hlink
  obtain ⟨hold, hne⟩ := List.mem_filter.mp hlink
  have hne : link.2 ≠ id := of_decide_eq_true hne
  exact ⟨(h link hold).1, Table.contains_erase.mpr ⟨hne.symm, (h link hold).2⟩⟩

end Joins

/-! ### What an operation stores, issues and deletes -/

/-- An identifier comes from the counter, or none does and the counter stays. -/
theorem Made.counts (h : Made now t op issued t') :
    issued = none ∧ t'.lastId = t.lastId ∨
      issued = some (t.lastId + 1) ∧ t'.lastId = t.lastId + 1 := by
  cases h with
  | roleCreated | permissionCreated | resourceCreated => exact .inr ⟨rfl, rfl⟩
  | _ => exact .inl ⟨rfl, rfl⟩

/-- What is stored then was stored before, or is what was created. -/
theorem Made.stores (h : Made now t op issued t') {key : PolicyKey} (hkey : t'.Stores key) :
    t.Stores key ∨ issued = some key.id ∧ op.creates? = some key.kind := by
  obtain ⟨kind, id⟩ := key
  -- Every operation puts or erases a row in the table of one kind; the others are untouched.
  cases h with
  | roleCreated =>
    cases kind with
    | role =>
      rcases Table.contains_put.mp hkey with rfl | hold
      · exact .inr ⟨rfl, rfl⟩
      · exact .inl hold
    | permission | resource => exact .inl hkey
  | permissionCreated =>
    cases kind with
    | permission =>
      rcases Table.contains_put.mp hkey with rfl | hold
      · exact .inr ⟨rfl, rfl⟩
      · exact .inl hold
    | role | resource => exact .inl hkey
  | resourceCreated =>
    cases kind with
    | resource =>
      rcases Table.contains_put.mp hkey with rfl | hold
      · exact .inr ⟨rfl, rfl⟩
      · exact .inl hold
    | role | permission => exact .inl hkey
  | roleUpdated hrole =>
    cases kind with
    | role =>
      rcases Table.contains_put.mp hkey with rfl | hold
      · exact .inl (Option.isSome_of_eq_some hrole)
      · exact .inl hold
    | permission | resource => exact .inl hkey
  | permissionUpdated hpermission =>
    cases kind with
    | permission =>
      rcases Table.contains_put.mp hkey with rfl | hold
      · exact .inl (Option.isSome_of_eq_some hpermission)
      · exact .inl hold
    | role | resource => exact .inl hkey
  | resourceUpdated hresource =>
    cases kind with
    | resource =>
      rcases Table.contains_put.mp hkey with rfl | hold
      · exact .inl (Option.isSome_of_eq_some hresource)
      · exact .inl hold
    | role | permission => exact .inl hkey
  | roleDeleted =>
    cases kind with
    | role => exact .inl (Table.contains_erase.mp hkey).2
    | permission | resource => exact .inl hkey
  | permissionDeleted =>
    cases kind with
    | permission => exact .inl (Table.contains_erase.mp hkey).2
    | role | resource => exact .inl hkey
  | resourceDeleted =>
    cases kind with
    | resource => exact .inl (Table.contains_erase.mp hkey).2
    | role | permission => exact .inl hkey
  | permissionsAssigned | permissionsRemoved | resourcesAssigned | resourcesRemoved
  | roleAssigned | roleRevoked | asked => exact .inl hkey

/-- What is deleted was there, and is there no more. -/
theorem Made.deleted (h : Made now t op issued t') {key : PolicyKey}
    (hdeletes : op.deletes? = some key) : t.Stores key ∧ ¬ t'.Stores key := by
  cases h with
  | roleDeleted hthere | permissionDeleted hthere | resourceDeleted hthere =>
    cases hdeletes
    exact ⟨hthere, fun hstays => (Table.contains_erase.mp hstays).1 rfl⟩
  | _ => cases hdeletes

/-- A deletion takes the accesses through what it deletes, and no others. -/
theorem Made.has_of_deletes (h : Made now t op issued t') {key : PolicyKey}
    (hdeletes : op.deletes? = some key) (a : Access) :
    t'.Has a ↔ t.Has a ∧ key ∉ a.through := by
  cases h with
  | roleDeleted | permissionDeleted | resourceDeleted =>
    cases hdeletes
    -- Both link tables of the thing are filtered, each on the side where the thing stands.
    cases a <;> grind [Has, HasChain, Access.through]
  | _ => cases hdeletes

/-- A creation adds no access but through what it creates. -/
theorem Made.has_of_issued {id : Int} (h : Made now t op (some id) t') {a : Access}
    (ha : t'.Has a) : t.Has a ∨ ∃ kind, ⟨kind, id⟩ ∈ a.through := by
  cases h with
  | roleCreated =>
    cases a with
    | grant c =>
      obtain ⟨role, permission, resource⟩ := c
      rcases Links.mem_linkAll.mp ha.1 with ⟨rfl, -⟩ | hold
      · exact .inr ⟨.role, List.mem_cons_self⟩
      · exact .inl ⟨hold, ha.2⟩
    | role => exact .inl ha
    | permission userId roleId permissionId =>
      rcases Links.mem_linkAll.mp ha.2 with ⟨rfl, -⟩ | hold
      · exact .inr ⟨.role, List.mem_cons_self⟩
      · exact .inl ⟨ha.1, hold⟩
  | permissionCreated =>
    cases a with
    | grant c =>
      obtain ⟨role, permission, resource⟩ := c
      rcases Links.mem_linkAll.mp ha.2 with ⟨rfl, -⟩ | hold
      · exact .inr ⟨.permission, List.mem_cons_of_mem _ List.mem_cons_self⟩
      · exact .inl ⟨ha.1, hold⟩
    | role | permission => exact .inl ha
  | resourceCreated => cases a <;> exact .inl ha

/-! ### Linked tables -/

/-- Links lead to what is stored; identifiers come from the counter, and no two kinds share one. -/
structure Linked (t : PolicyTables) : Prop where
  rolePermissions : Joins t.rolePermissions t.roles t.permissions
  permissionResources : Joins t.permissionResources t.permissions t.resources
  rolesKept : t.RolesKept
  started : 0 ≤ t.lastId
  counted : ∀ key, t.Stores key → 1 ≤ key.id ∧ key.id ≤ t.lastId
  unshared : ∀ kind kind' id, t.Stores ⟨kind, id⟩ → t.Stores ⟨kind', id⟩ → kind = kind'

theorem linked_empty : Linked {} where
  rolePermissions := List.forall_mem_nil _
  permissionResources := List.forall_mem_nil _
  rolesKept := .empty
  started := Int.le_refl 0
  counted := fun ⟨kind, _⟩ h => by cases kind <;> cases h
  unshared := fun kind _ _ h _ => by cases kind <;> cases h

theorem Made.joins_rolePermissions (h : Made now t op issued t')
    (ht : Joins t.rolePermissions t.roles t.permissions) :
    Joins t'.rolePermissions t'.roles t'.permissions := by
  cases h with
  | roleCreated _ hids => exact (ht.putLeft _).linkAll (Table.contains_put.mpr (.inl rfl)) hids
  | roleUpdated => exact ht.putLeft _
  | roleDeleted => exact ht.eraseLeft
  | permissionCreated | permissionUpdated => exact ht.putRight _
  | permissionDeleted => exact ht.eraseRight
  | permissionsAssigned hrole hids => exact ht.linkAll hrole hids
  | permissionsRemoved => exact ht.unlinkAll _
  | _ => exact ht

theorem Made.joins_permissionResources (h : Made now t op issued t')
    (ht : Joins t.permissionResources t.permissions t.resources) :
    Joins t'.permissionResources t'.permissions t'.resources := by
  cases h with
  | permissionCreated hids =>
    exact (ht.putLeft _).linkAll (Table.contains_put.mpr (.inl rfl)) hids
  | permissionUpdated => exact ht.putLeft _
  | permissionDeleted => exact ht.eraseLeft
  | resourceCreated | resourceUpdated => exact ht.putRight _
  | resourceDeleted => exact ht.eraseRight
  | resourcesAssigned hpermission hids => exact ht.linkAll hpermission hids
  | resourcesRemoved => exact ht.unlinkAll _
  | _ => exact ht

/-- Nothing that is stored has an identifier that is still to be handed out. -/
theorem Linked.fresh (ht : t.Linked) {id : Int} (hid : t.lastId < id) (kind : PolicyKind) :
    ¬ t.Stores ⟨kind, id⟩ :=
  fun hstored => Int.not_le.mpr hid (ht.counted _ hstored).2

theorem Made.linked (h : Made now t op issued t') (ht : t.Linked) : t'.Linked where
  rolePermissions := h.joins_rolePermissions ht.rolePermissions
  permissionResources := h.joins_permissionResources ht.permissionResources
  rolesKept := ht.rolesKept.edited h.edited
  started := by
    have := ht.started
    rcases h.counts with ⟨-, hlast⟩ | ⟨-, hlast⟩ <;> omega
  counted := fun key hkey => by
    have hstarted := ht.started
    rcases h.stores hkey with hold | ⟨hissued, -⟩
    · have hkey := ht.counted key hold
      rcases h.counts with ⟨-, hlast⟩ | ⟨-, hlast⟩ <;> omega
    · rcases h.counts with ⟨hnone, -⟩ | ⟨hsome, hlast⟩
      · cases hnone.symm.trans hissued
      · have hid := Option.some.inj (hissued.symm.trans hsome)
        omega
  unshared := fun kind kind' id hkind hkind' => by
    -- What is new has an identifier that nothing old has.
    have hfresh (k : PolicyKind) (hissued : issued = some id) : ¬ t.Stores ⟨k, id⟩ := by
      rcases h.counts with ⟨hnone, -⟩ | ⟨hsome, -⟩
      · cases hnone.symm.trans hissued
      · have hid := Option.some.inj (hissued.symm.trans hsome)
        exact ht.fresh (by omega) k
    rcases h.stores hkind with hold | ⟨hissued, hcreates⟩ <;>
      rcases h.stores hkind' with hold' | ⟨hissued', hcreates'⟩
    · exact ht.unshared kind kind' id hold hold'
    · exact absurd hold (hfresh kind hissued')
    · exact absurd hold' (hfresh kind' hissued)
    · exact Option.some.inj (hcreates.symm.trans hcreates')

/-- Accesses pass through what is stored only. -/
theorem Linked.stores_through (ht : t.Linked) {a : Access} (ha : t.Has a) :
    ∀ key ∈ a.through, t.Stores key := by
  cases a with
  | grant c =>
    obtain ⟨hrole, hpermission⟩ := ht.rolePermissions _ ha.1
    obtain ⟨-, hresource⟩ := ht.permissionResources _ ha.2
    simpa [Access.through, Stores] using ⟨hrole, hpermission, hresource⟩
  | role userId roleId => simpa [Access.through, Stores] using ht.rolesKept.held _ ha
  | permission userId roleId permissionId =>
    simpa [Access.through, Stores] using ht.rolePermissions _ ha.2

/-- What the store tells of the tables is what the accesses are. -/
structure TellsAccesses (t : PolicyTables) : Prop where
  grants : ∀ serviceType rule, rule ∈ (t.grants serviceType).map Grant.toRule ↔
    ∃ c, t.Has (.grant c) ∧ t.ruleOf? serviceType c = some rule
  rolesOf : ∀ userId role, role ∈ t.rolesOf userId ↔
    t.Has (.role userId role.id) ∧ t.roles.find? role.id = some role
  permissionsOf : ∀ userId permission, permission ∈ t.permissionsOf userId ↔
    permission ∈ t.permissions.values ∧ ∃ roleId, t.Has (.permission userId roleId permission.id)

theorem RolesKept.tellsAccesses (h : t.RolesKept) : t.TellsAccesses where
  grants := fun serviceType rule => by
    rw [grants_eq_chains, List.mem_filterMap]
    exact exists_congr fun c => and_congr_left fun _ => mem_chains
  rolesOf := fun _ _ => h.mem_rolesOf
  permissionsOf := fun userId permission => by
    rw [h.mem_permissionsOf]
    refine and_congr_right fun _ => ⟨?_, ?_⟩
    · rintro ⟨role, hrole, hlink⟩
      exact ⟨role.id, (h.mem_rolesOf.mp hrole).1, hlink⟩
    · rintro ⟨roleId, hheld, hlink⟩
      obtain ⟨role, hrole⟩ := Option.isSome_iff_exists.mp (h.held _ hheld)
      obtain rfl := h.keyed _ role hrole
      exact ⟨role, h.mem_rolesOf.mpr ⟨hheld, hrole⟩, hlink⟩

/-! ### What is gone -/

/-- The identifier was handed out, and the thing is not there any more. -/
def Gone (t : PolicyTables) (key : PolicyKey) : Prop := key.id ≤ t.lastId ∧ ¬ t.Stores key

/-- The tables at a later time: the counter never goes back, and what is gone stays gone. -/
structure Follows (t t' : PolicyTables) : Prop where
  lastId : t.lastId ≤ t'.lastId
  gone : ∀ key, t.Gone key → t'.Gone key

namespace Follows

theorem refl (t : PolicyTables) : t.Follows t := ⟨Int.le_refl _, fun _ h => h⟩

theorem trans {a b c : PolicyTables} (hab : a.Follows b) (hbc : b.Follows c) : a.Follows c :=
  ⟨Int.le_trans hab.lastId hbc.lastId, fun key h => hbc.gone key (hab.gone key h)⟩

end Follows

theorem Made.follows (h : Made now t op issued t') : t.Follows t' := by
  have hlast : t.lastId ≤ t'.lastId := by rcases h.counts with ⟨-, hlast⟩ | ⟨-, hlast⟩ <;> omega
  refine ⟨hlast, fun key hgone => ⟨Int.le_trans hgone.1 hlast, fun hkey => ?_⟩⟩
  rcases h.stores hkey with hold | ⟨hissued, -⟩
  · exact hgone.2 hold
  · rcases h.counts with ⟨hnone, -⟩ | ⟨hsome, -⟩
    · cases hnone.symm.trans hissued
    · have hid := Option.some.inj (hissued.symm.trans hsome)
      have hgone := hgone.1
      omega

end PolicyTables

/-! ### Runs -/

namespace PolicyEntry

variable {e : PolicyEntry}

theorem Happens.made_of_ok (h : e.Happens) {issued : Option Int} (hok : e.answer = .ok issued) :
    ∃ now, PolicyTables.Made now e.before e.operation issued e.after := by
  cases h with
  | refused => cases hok
  | made hmade =>
    cases hok
    exact ⟨_, hmade⟩

theorem of_issued? {id : Int} (h : e.issued? = some id) : e.answer = .ok (some id) := by
  unfold issued? at h
  split at h
  · rename_i hok
    rw [hok, h]
  · cases h

theorem Happens.issued_eq (h : e.Happens) {id : Int} (hid : e.issued? = some id) :
    id = e.before.lastId + 1 ∧ id = e.after.lastId := by
  obtain ⟨_, hmade⟩ := h.made_of_ok (of_issued? hid)
  rcases hmade.counts with ⟨hnone, -⟩ | ⟨hsome, hlast⟩
  · cases hnone
  · exact ⟨Option.some.inj hsome, (Option.some.inj hsome).trans hlast.symm⟩

end PolicyEntry

namespace PolicyOperation

open PolicyTables (Made Linked Follows)

variable {s : MemoryState} {calls : List (Instant × PolicyOperation)}

theorem issued_ascending :
    ((run s calls).filterMap PolicyEntry.issued?).Pairwise (· < ·) := by
  refine List.pairwise_filterMap.mpr ?_
  refine (run_pairwise Follows.refl Follows.trans Made.follows).imp_of_mem ?_
  intro d e hd he hfollows i hi j hj
  have hissued := ((happens_of_mem_run d hd).issued_eq hi).2
  have hnext := ((happens_of_mem_run e he).issued_eq hj).1
  have := hfollows.lastId
  omega

/-- Along every run from empty tables links lead to what is stored, and no identifier is handed
out twice. What a creation adds was in no earlier state, and what a deletion takes is exactly what
passed through the thing deleted, in this state and in all later ones. -/
theorem accesses_stay_gone (s : MemoryState) (hs : s.policies = {})
    (calls : List (Instant × PolicyOperation)) :
    ((run s calls).filterMap PolicyEntry.issued?).Pairwise (· < ·) ∧
      ∀ pre e post, run s calls = pre ++ e :: post →
        e.after.Linked ∧ e.after.TellsAccesses ∧
        (∀ id, e.issued? = some id →
          (∀ d ∈ pre, ∀ kind, ¬ d.after.Stores ⟨kind, id⟩) ∧
          ∀ a, e.after.Has a → ¬ e.before.Has a → ∀ d ∈ pre, ¬ d.after.Has a) ∧
        ∀ key, e.operation.deletes? = some key → e.answer = .ok none →
          (∀ a, e.after.Has a ↔ e.before.Has a ∧ key ∉ a.through) ∧
          ∀ d ∈ e :: post, ¬ d.after.Stores key ∧ ∀ a, d.after.Has a → key ∉ a.through := by
  refine ⟨issued_ascending, fun pre e post hrun => ?_⟩
  have hlinked : ∀ d ∈ run s calls, d.before.Linked ∧ d.after.Linked :=
    run_keeps (fun _ _ hd => hd.keeps Made.linked) (hs ▸ PolicyTables.linked_empty)
  obtain ⟨hpre, hpost⟩ := run_between Follows.refl Follows.trans Made.follows hrun
  have hmem {d : PolicyEntry} (hd : d ∈ pre ++ e :: post) : d ∈ run s calls := hrun ▸ hd
  have he := hmem (List.mem_append_right pre List.mem_cons_self)
  have hhappens := happens_of_mem_run e he
  refine ⟨(hlinked e he).2, (hlinked e he).2.rolesKept.tellsAccesses, ?_, ?_⟩
  · -- The identifier is higher than all that were counted before, so nothing had it.
    intro id hid
    have hunused : ∀ d ∈ pre, ∀ kind, ¬ d.after.Stores ⟨kind, id⟩ := fun d hd kind => by
      refine (hlinked d (hmem (List.mem_append_left _ hd))).2.fresh ?_ kind
      have hlast := (hpre d hd).lastId
      have hnext := (hhappens.issued_eq hid).1
      omega
    refine ⟨hunused, fun a hafter hbefore d hd hearlier => ?_⟩
    obtain ⟨_, hmade⟩ := hhappens.made_of_ok (PolicyEntry.of_issued? hid)
    obtain ⟨kind, hthrough⟩ := (hmade.has_of_issued hafter).resolve_left hbefore
    exact hunused d hd kind
      ((hlinked d (hmem (List.mem_append_left _ hd))).2.stores_through hearlier _ hthrough)
  · -- The identifier was counted when the thing was there, and no creation comes back to it.
    intro key hdeletes hok
    obtain ⟨_, hmade⟩ := hhappens.made_of_ok hok
    obtain ⟨hthere, hgone⟩ := hmade.deleted hdeletes
    refine ⟨hmade.has_of_deletes hdeletes, fun d hd => ?_⟩
    have hlater : e.after.Follows d.after := by
      rcases List.mem_cons.mp hd with rfl | hd
      · exact .refl _
      · exact hpost d hd
    have hcounted := ((hlinked e he).1.counted key hthere).2
    have hnone := (hlater.gone key ⟨Int.le_trans hcounted hmade.follows.lastId, hgone⟩).2
    exact ⟨hnone, fun a ha hthrough =>
      hnone ((hlinked d (hmem (List.mem_append_right _ hd))).2.stores_through ha key hthrough)⟩

end PolicyOperation

namespace Sample

/-- A user has a role for a resource, until the permission between them is deleted; another one of
its name is created for the same resource. -/
def comesAndGoes : List (Instant × PolicyOperation) :=
  [(.ofSeconds 0, .createResource ⟨"", "", .http, "GET", "/x"⟩),
    (.ofSeconds 1, .createPermission ⟨"read", ""⟩ [1]),
    (.ofSeconds 2, .createRole ⟨"member", ""⟩ [2]),
    (.ofSeconds 3, .assignRole 7 3),
    (.ofSeconds 4, .deletePermission 2),
    (.ofSeconds 5, .createPermission ⟨"read", ""⟩ [1])]

theorem deleted_permission_stays_gone :
    ∃ pre e d, PolicyOperation.run {} comesAndGoes = pre ++ [e, d] ∧
      e.before.Has (.grant ⟨3, 2, 1⟩) ∧ e.before.Has (.permission 7 3 2) ∧
      ∀ c ∈ [e, d], ¬ c.after.Has (.grant ⟨3, 2, 1⟩) ∧ ¬ c.after.Has (.permission 7 3 2) := by
  let run := PolicyOperation.run {} comesAndGoes
  have hsplit : run = run.take 4 ++ [run.get ⟨4, by decide⟩, run.get ⟨5, by decide⟩] := rfl
  obtain ⟨-, hrun⟩ := PolicyOperation.accesses_stay_gone {} rfl comesAndGoes
  obtain ⟨-, -, -, hdeletes⟩ := hrun _ _ _ hsplit
  obtain ⟨-, hlater⟩ := hdeletes ⟨.permission, 2⟩ rfl rfl
  refine ⟨_, _, _, hsplit, by decide, by decide, fun c hc => ?_⟩
  exact ⟨fun h => (hlater c hc).2 _ h (by decide), fun h => (hlater c hc).2 _ h (by decide)⟩

end Sample

end Turnstile
