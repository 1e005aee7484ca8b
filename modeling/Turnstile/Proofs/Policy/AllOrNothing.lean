import Mathlib.Data.Finset.Dedup
import Mathlib.Data.List.Perm.Basic
import Turnstile.Proofs.Policy.Integrity

/-!
Operations on the tables in memory as rows of single edits. An edit stays made when a later check
fails, so a check in the wrong place would leave part of an operation behind. `runOn_edits` says
that none does: an operation is done as a whole, or the tables and the counter are what they were.
What a bulk assignment adds is the set of its links, whatever their order and however often they
are listed.
-/

namespace Turnstile

/-! ### Links that are added in any order -/

namespace Links

theorem precedes_irrefl (x : Int × Int) : precedes x x = false := by
  rw [Bool.eq_false_iff, Ne, precedes_iff]
  omega

theorem precedes_trans {x y z : Int × Int} (hxy : precedes x y = true)
    (hyz : precedes y z = true) : precedes x z = true := by
  rw [precedes_iff] at hxy hyz ⊢
  omega

/-- Of two links one precedes the other. -/
theorem precedes_of_ne {x y : Int × Int} (hne : x ≠ y) : precedes x y = !precedes y x := by
  have hne' : x.1 ≠ y.1 ∨ x.2 ≠ y.2 := by
    by_contra hsame
    rw [not_or, not_not, not_not] at hsame
    exact hne (Prod.ext hsame.1 hsame.2)
  rw [Bool.eq_iff_iff, Bool.not_eq_true', ← Bool.not_eq_true, precedes_iff, precedes_iff]
  omega

theorem add_add (x : Int × Int) (links : Links) : add x (add x links) = add x links := by
  induction links with
  | nil => simp [add, precedes_irrefl]
  | cons y rest ih => grind [add, precedes_irrefl]

theorem add_comm (x y : Int × Int) (links : Links) : add x (add y links) = add y (add x links) := by
  by_cases hxy : x = y
  · rw [hxy]
  induction links with
  | nil => grind [add, precedes_of_ne]
  | cons z rest ih => grind [add, precedes_trans, precedes_of_ne]

variable {a b : Int} {bs bs' : List Int}

theorem linkAll_cons (links : Links) :
    PolicyTables.linkAll a (b :: bs) links = PolicyTables.linkAll a bs (add (a, b) links) := rfl

/-- A link that is still to be added can be added before. -/
theorem linkAll_add_of_mem (h : b ∈ bs) (links : Links) :
    PolicyTables.linkAll a bs (add (a, b) links) = PolicyTables.linkAll a bs links := by
  induction bs generalizing links with
  | nil => cases h
  | cons c rest ih =>
    rw [linkAll_cons, linkAll_cons]
    rcases List.mem_cons.mp h with rfl | hrest
    · rw [add_add]
    · rw [add_comm, ih hrest]

theorem linkAll_dedup (links : Links) :
    PolicyTables.linkAll a bs.dedup links = PolicyTables.linkAll a bs links := by
  induction bs generalizing links with
  | nil => rfl
  | cons b rest ih =>
    by_cases hb : b ∈ rest
    · rw [List.dedup_cons_of_mem hb, ih, linkAll_cons, linkAll_add_of_mem hb]
    · rw [List.dedup_cons_of_notMem hb, linkAll_cons, linkAll_cons, ih]

/-- Neither order nor doubles matter. -/
theorem linkAll_congr (h : ∀ b, b ∈ bs' ↔ b ∈ bs) (links : Links) :
    PolicyTables.linkAll a bs' links = PolicyTables.linkAll a bs links := by
  have hperm : bs'.dedup.Perm bs.dedup :=
    List.toFinset_eq_iff_perm_dedup.mp (Finset.ext fun b => by simpa using h b)
  have hcomm : RightCommutative fun (links : Links) b => add (a, b) links :=
    ⟨fun links b c => add_comm (a, c) (a, b) links⟩
  calc PolicyTables.linkAll a bs' links
      = PolicyTables.linkAll a bs'.dedup links := (linkAll_dedup links).symm
    _ = PolicyTables.linkAll a bs.dedup links := hperm.foldl_eq links
    _ = PolicyTables.linkAll a bs links := linkAll_dedup links

end Links

/-- Nothing is lost by erasing what is not there. -/
theorem Table.erase_of_not_contains {κ α : Type} [DecidableEq κ] {t : Table κ α} {k : κ}
    (h : t.contains k = false) : t.erase k = t := by
  have hrows : ∀ row ∈ t.rows, row.1 ≠ k := fun row hrow heq => by
    have hthere := contains_of_mem hrow
    rw [heq, h] at hthere
    cases hthere
  unfold erase
  rw [List.filter_eq_self.mpr fun row hrow => decide_eq_true (hrows row hrow)]

namespace PolicyTables

variable {t : PolicyTables} {id : Int}

theorem requireRole_of_contains (h : t.roles.contains id = true) : t.requireRole id = .ok () :=
  if_pos h

theorem requirePermission_of_contains (h : t.permissions.contains id = true) :
    t.requirePermission id = .ok () :=
  if_pos h

theorem requireAll_of_forall {kind : String} {isThere : Int → Bool} {ids : List Int}
    (h : ∀ id ∈ ids, isThere id = true) : requireAll kind isThere ids = .ok () := by
  unfold requireAll
  rw [List.find?_eq_none.mpr (by simpa using h)]

end PolicyTables

/-! ### Single edits -/

/-- The tables of links that are changed for several things at once. -/
inductive BulkLinks where
  /-- From a role to permissions. -/
  | permissions
  /-- From a permission to resources. -/
  | resources

namespace BulkLinks

def source : BulkLinks → PolicyKind
  | permissions => .role
  | resources => .permission

def target : BulkLinks → PolicyKind
  | permissions => .permission
  | resources => .resource

end BulkLinks

namespace PolicyTables

def linksOf (t : PolicyTables) : BulkLinks → Links
  | .permissions => t.rolePermissions
  | .resources => t.permissionResources

def withLinks (t : PolicyTables) (links : Links) : BulkLinks → PolicyTables
  | .permissions => { t with rolePermissions := links }
  | .resources => { t with permissionResources := links }

/-- Both ends of every link are there. -/
def Assignable (t : PolicyTables) (kind : BulkLinks) (a : Int) (ids : List Int) : Prop :=
  t.Stores ⟨kind.source, a⟩ ∧ ∀ id ∈ ids, t.Stores ⟨kind.target, id⟩

/-- The links of one thing to some others were added, and all else is as it was. -/
structure Assigned (t t' : PolicyTables) (kind : BulkLinks) (a : Int) (ids : List Int) : Prop where
  links : ∀ link, link ∈ t'.linksOf kind ↔ link ∈ t.linksOf kind ∨ link.1 = a ∧ link.2 ∈ ids
  rest : t' = t.withLinks (t'.linksOf kind) kind

theorem assigned_linkAll (t : PolicyTables) (kind : BulkLinks) (a : Int) (ids : List Int) :
    t.Assigned (t.withLinks (linkAll a ids (t.linksOf kind)) kind) kind a ids := by
  cases kind <;> exact ⟨fun _ => Links.mem_linkAll.trans or_comm, rfl⟩

end PolicyTables

/-- Edits of the tables, one after the other. A failure stops the rest, and what was done before
it stays done. -/
abbrev TableEdit (α : Type) := ExceptT ServiceError (StateM PolicyTables) α

namespace TableEdit

variable {α β : Type}

/-- What comes of the edits, and the tables afterwards. -/
def runOn (e : TableEdit α) (t : PolicyTables) : Except ServiceError α × PolicyTables :=
  (ExceptT.run e).run t

/-- The tables as they are by now. -/
def tables : TableEdit PolicyTables := get

def edit (f : PolicyTables → PolicyTables) : TableEdit Unit := modify f

/-- Go on where a check passes. -/
def check (r : Except ServiceError Unit) : TableEdit Unit :=
  match r with
  | .ok _ => pure ()
  | .error e => throw e

/-- Count on, and take the number. -/
def nextId : TableEdit Int := do
  edit fun t => { t with lastId := t.lastId + 1 }
  return (← tables).lastId

/-- Add the links from one thing to several others, one after the other. -/
def link (kind : BulkLinks) (a : Int) (bs : List Int) : TableEdit Unit :=
  bs.forM fun b => edit fun t => t.withLinks (Links.add (a, b) (t.linksOf kind)) kind

def unlink (kind : BulkLinks) (a : Int) (bs : List Int) : TableEdit Unit :=
  bs.forM fun b => edit fun t => t.withLinks (Links.remove (a, b) (t.linksOf kind)) kind

end TableEdit

namespace PolicyOperation

open TableEdit (tables edit check nextId link unlink)

def assign : BulkLinks → Int → List Int → PolicyOperation
  | .permissions => assignPermissions
  | .resources => assignResources

/-- The operation, edit by edit. A thing is erased before it is known whether it was there. -/
def edits (now : Instant) : PolicyOperation → TableEdit (Option Int)
  | createRole entry ids => do
    if (← tables).roles.values.any fun r => r.name == entry.name then
      throw (.invalidReference ("Role " ++ entry.name ++ " already exists"))
    check ((← tables).requirePermissions ids)
    let id ← nextId
    edit fun t => { t with
      roles := t.roles.put id ⟨id, entry.name, entry.description, now, now⟩ }
    link .permissions id ids
    return some id
  | updateRole id entry => do
    match (← tables).roles.find? id with
    | none => throw (.notFound "Role")
    | some role =>
      edit fun t => { t with roles := t.roles.put id { role with
        name := entry.name, description := entry.description, updatedAt := now } }
      return none
  | deleteRole id => do
    let found := (← tables).requireRole id
    edit fun t => { t with roles := t.roles.erase id }
    check found
    edit fun t => { t with rolePermissions := t.rolePermissions.filter (·.1 ≠ id) }
    edit fun t => { t with userRoles := t.userRoles.filter (·.2 ≠ id) }
    return none
  | createPermission entry ids => do
    check ((← tables).requireResources ids)
    let id ← nextId
    edit fun t => { t with
      permissions := t.permissions.put id ⟨id, entry.name, entry.description, now, now⟩ }
    link .resources id ids
    return some id
  | updatePermission id entry => do
    match (← tables).permissions.find? id with
    | none => throw (.notFound "Permission")
    | some permission =>
      edit fun t => { t with permissions := t.permissions.put id { permission with
        name := entry.name, description := entry.description, updatedAt := now } }
      return none
  | deletePermission id => do
    let found := (← tables).requirePermission id
    edit fun t => { t with permissions := t.permissions.erase id }
    check found
    edit fun t => { t with rolePermissions := t.rolePermissions.filter (·.2 ≠ id) }
    edit fun t => { t with permissionResources := t.permissionResources.filter (·.1 ≠ id) }
    return none
  | createResource asked => do
    let id ← nextId
    edit fun t => { t with
      resources := t.resources.put id ⟨id, asked.name, asked.description,
        asked.serviceType.text, asked.method, asked.path, now, now⟩ }
    return some id
  | updateResource id asked => do
    match (← tables).resources.find? id with
    | none => throw (.notFound "Resource")
    | some resource =>
      edit fun t => { t with resources := t.resources.put id { resource with
        name := asked.name, description := asked.description
        serviceType := asked.serviceType.text, method := asked.method, path := asked.path
        updatedAt := now } }
      return none
  | deleteResource id => do
    let found := (← tables).resources.contains id
    edit fun t => { t with resources := t.resources.erase id }
    check (if found then .ok () else .error (.notFound "Resource"))
    edit fun t => { t with permissionResources := t.permissionResources.filter (·.2 ≠ id) }
    return none
  | assignPermissions roleId ids => do
    check ((← tables).requireRole roleId)
    check ((← tables).requirePermissions ids)
    link .permissions roleId ids
    return none
  | removePermissions roleId ids => do
    check ((← tables).requireRole roleId)
    unlink .permissions roleId ids
    return none
  | assignResources permissionId ids => do
    check ((← tables).requirePermission permissionId)
    check ((← tables).requireResources ids)
    link .resources permissionId ids
    return none
  | removeResources permissionId ids => do
    check ((← tables).requirePermission permissionId)
    unlink .resources permissionId ids
    return none
  | assignRole userId roleId => do
    check ((← tables).requireRole roleId)
    edit fun t => { t with userRoles := Links.add (userId, roleId) t.userRoles }
    return none
  | revokeRole userId roleId => do
    edit fun t => { t with userRoles := Links.remove (userId, roleId) t.userRoles }
    return none
  | ask _ => return none

end PolicyOperation

namespace TableEdit

variable {α β : Type}

/-! ### What edits come to -/

@[simp] theorem runOn_pure (a : α) (t : PolicyTables) :
    (pure a : TableEdit α).runOn t = (.ok a, t) := rfl

@[simp] theorem runOn_throw (e : ServiceError) (t : PolicyTables) :
    (throw e : TableEdit α).runOn t = (.error e, t) := rfl

@[simp] theorem runOn_tables (t : PolicyTables) : tables.runOn t = (.ok t, t) := rfl

@[simp] theorem runOn_edit (f : PolicyTables → PolicyTables) (t : PolicyTables) :
    (edit f).runOn t = (.ok (), f t) := rfl

@[simp] theorem runOn_check (r : Except ServiceError Unit) (t : PolicyTables) :
    (check r).runOn t = (r, t) := by
  cases r <;> rfl

theorem runOn_bind (e : TableEdit α) (f : α → TableEdit β) (t : PolicyTables) :
    (e >>= f).runOn t = match e.runOn t with
      | (.ok a, t') => (f a).runOn t'
      | (.error err, t') => (.error err, t') := by
  change (ExceptT.bindCont f (e t).1) (e t).2 = match e t with
    | (.ok a, t') => f a t'
    | (.error err, t') => (.error err, t')
  rcases e t with ⟨_ | _, _⟩ <;> rfl

@[simp] theorem runOn_nextId (t : PolicyTables) :
    nextId.runOn t = (.ok (t.lastId + 1), { t with lastId := t.lastId + 1 }) := rfl

@[simp] theorem runOn_link (kind : BulkLinks) (a : Int) (bs : List Int) (t : PolicyTables) :
    (link kind a bs).runOn t =
      (.ok (), t.withLinks (PolicyTables.linkAll a bs (t.linksOf kind)) kind) := by
  induction bs generalizing t with
  | nil => cases kind <;> rfl
  | cons b rest ih =>
    refine (ih (t.withLinks (Links.add (a, b) (t.linksOf kind)) kind)).trans ?_
    cases kind <;> rfl

@[simp] theorem runOn_unlink (kind : BulkLinks) (a : Int) (bs : List Int) (t : PolicyTables) :
    (unlink kind a bs).runOn t =
      (.ok (), t.withLinks (PolicyTables.unlinkAll a bs (t.linksOf kind)) kind) := by
  induction bs generalizing t with
  | nil => cases kind <;> rfl
  | cons b rest ih =>
    refine (ih (t.withLinks (Links.remove (a, b) (t.linksOf kind)) kind)).trans ?_
    cases kind <;> rfl

end TableEdit

namespace PolicyOperation

variable {now : Instant} {t : PolicyTables}

/-- What a change comes to: its answer and its tables, or an error and the tables as they were. -/
def settle {α : Type} (t : PolicyTables) :
    Except ServiceError (α × PolicyTables) → Except ServiceError α × PolicyTables
  | .ok (a, t') => (.ok a, t')
  | .error e => (.error e, t)

/-- The edits of an operation make its change, or leave everything as it was. -/
theorem runOn_edits (op : PolicyOperation) (now : Instant) (t : PolicyTables) :
    (op.edits now).runOn t = settle t (op.change now t) := by
  cases op <;> rw [edits.eq_def, change.eq_def] <;>
    simp only [PolicyTables.Change.map, TableEdit.runOn_bind, TableEdit.runOn_tables,
      TableEdit.runOn_edit, TableEdit.runOn_check, TableEdit.runOn_nextId, TableEdit.runOn_link,
      TableEdit.runOn_unlink]
  case createRole entry ids =>
    unfold PolicyTables.createRole
    cases t.roles.values.any fun r => r.name == entry.name with
    | true => rfl
    | false =>
      simp only [Bool.false_eq_true, if_false, TableEdit.runOn_bind, TableEdit.runOn_tables,
        TableEdit.runOn_check]
      cases t.requirePermissions ids with
      | error => rfl
      | ok =>
        simp only [TableEdit.runOn_nextId, TableEdit.runOn_edit, TableEdit.runOn_link]
        rfl
  case updateRole id entry =>
    unfold PolicyTables.updateRole
    cases t.roles.find? id <;> rfl
  case deleteRole id =>
    unfold PolicyTables.deleteRole PolicyTables.requireRole
    cases hthere : t.roles.contains id with
    | true => rfl
    | false =>
      rw [Table.erase_of_not_contains hthere]
      rfl
  case createPermission entry ids =>
    unfold PolicyTables.createPermission
    cases t.requireResources ids <;> rfl
  case updatePermission id entry =>
    unfold PolicyTables.updatePermission
    cases t.permissions.find? id <;> rfl
  case deletePermission id =>
    unfold PolicyTables.deletePermission PolicyTables.requirePermission
    cases hthere : t.permissions.contains id with
    | true => rfl
    | false =>
      rw [Table.erase_of_not_contains hthere]
      rfl
  case createResource asked => rfl
  case updateResource id asked =>
    unfold PolicyTables.updateResource
    cases t.resources.find? id <;> rfl
  case deleteResource id =>
    unfold PolicyTables.deleteResource
    cases hthere : t.resources.contains id with
    | true => rfl
    | false =>
      rw [Table.erase_of_not_contains hthere]
      rfl
  case assignPermissions roleId ids =>
    unfold PolicyTables.assignPermissions
    cases t.requireRole roleId with
    | error => rfl
    | ok => cases hids : t.requirePermissions ids <;> simp only [hids] <;> rfl
  case removePermissions roleId ids =>
    unfold PolicyTables.removePermissions
    cases t.requireRole roleId <;> rfl
  case assignResources permissionId ids =>
    unfold PolicyTables.assignResources
    cases t.requirePermission permissionId with
    | error => rfl
    | ok => cases hids : t.requireResources ids <;> simp only [hids] <;> rfl
  case removeResources permissionId ids =>
    unfold PolicyTables.removeResources
    cases t.requirePermission permissionId <;> rfl
  case assignRole userId roleId =>
    unfold PolicyTables.assignRole
    cases t.requireRole roleId <;> rfl
  case revokeRole userId roleId => rfl
  case ask question => rfl

variable {s : MemoryState} {kind : BulkLinks} {a : Int} {ids : List Int}

/-- On the store an operation is answered as its edits are, and leaves their tables. -/
theorem step_eq_edits (op : PolicyOperation) (now : Instant) (s : MemoryState) :
    op.step MemoryState.policyStore now s =
      (((op.edits now).runOn s.policies).1.mapError .error,
        { s with policies := ((op.edits now).runOn s.policies).2 }) := by
  rw [MemoryState.step_policyStore, runOn_edits]
  unfold MemoryState.policyStep
  cases op.change now s.policies <;> rfl

/-- Edits that fail have left nothing behind. -/
theorem runOn_edits_of_error {op : PolicyOperation} {e : ServiceError}
    (h : ((op.edits now).runOn t).1 = .error e) : ((op.edits now).runOn t).2 = t := by
  rw [runOn_edits] at h ⊢
  cases hchange : op.change now t with
  | error => rfl
  | ok p =>
    rw [hchange] at h
    cases h

/-- A bulk assignment changes its table of links and nothing else. -/
theorem change_assign (h : t.Assignable kind a ids) :
    (assign kind a ids).change now t =
      .ok (none, t.withLinks (PolicyTables.linkAll a ids (t.linksOf kind)) kind) := by
  obtain ⟨ha, hids⟩ := h
  cases kind with
  | permissions =>
    rw [assign, change.eq_def]
    refine PolicyTables.Change.map_ok (a := ()) ?_
    unfold PolicyTables.assignPermissions PolicyTables.requirePermissions
    rw [PolicyTables.requireRole_of_contains ha, PolicyTables.requireAll_of_forall hids]
    rfl
  | resources =>
    rw [assign, change.eq_def]
    refine PolicyTables.Change.map_ok (a := ()) ?_
    unfold PolicyTables.assignResources PolicyTables.requireResources
    rw [PolicyTables.requirePermission_of_contains ha, PolicyTables.requireAll_of_forall hids]
    rfl

theorem assignable_of_change {issued : Option Int} {t' : PolicyTables}
    (h : (assign kind a ids).change now t = .ok (issued, t')) : t.Assignable kind a ids := by
  have hmade := PolicyTables.of_change h
  cases kind with
  | permissions =>
    cases hmade with
    | permissionsAssigned ha hids => exact ⟨ha, hids⟩
  | resources =>
    cases hmade with
    | resourcesAssigned ha hids => exact ⟨ha, hids⟩

theorem step_assign (h : s.policies.Assignable kind a ids) :
    (assign kind a ids).step MemoryState.policyStore now s =
      (.ok none, { s with
        policies :=
          s.policies.withLinks (PolicyTables.linkAll a ids (s.policies.linksOf kind)) kind }) := by
  rw [MemoryState.step_policyStore]
  unfold MemoryState.policyStep
  rw [change_assign h]

theorem assignable_of_step {answer : Option Int}
    (h : ((assign kind a ids).step MemoryState.policyStore now s).1 = .ok answer) :
    s.policies.Assignable kind a ids := by
  rw [MemoryState.step_policyStore] at h
  unfold MemoryState.policyStep at h
  cases hchange : (assign kind a ids).change now s.policies with
  | error =>
    rw [hchange] at h
    cases h
  | ok p => exact assignable_of_change hchange

/-- An operation is done as a whole or not at all: it comes to what its single edits come to, and
when they fail the tables and the counter are what they were. A bulk assignment goes through if
both ends of every link are there. Then it adds these links and changes nothing else, whatever the
order in which they are listed, and however often. -/
theorem all_or_nothing (op : PolicyOperation) (now : Instant) (s : MemoryState) :
    let answered := op.step MemoryState.policyStore now s
    let edited := (op.edits now).runOn s.policies
    answered = (edited.1.mapError .error, { s with policies := edited.2 }) ∧
      (∀ f, answered.1 = .error f → edited.2 = s.policies ∧ answered.2 = s) ∧
      ∀ kind a ids, op = assign kind a ids →
        ((∃ answer, answered.1 = .ok answer) ↔ s.policies.Assignable kind a ids) ∧
        ∀ answer, answered.1 = .ok answer →
          s.policies.Assigned answered.2.policies kind a ids ∧
          ∀ ids', (∀ id, id ∈ ids' ↔ id ∈ ids) →
            (assign kind a ids').step MemoryState.policyStore now s = answered := by
  intro answered edited
  have hsame : answered = (edited.1.mapError .error, { s with policies := edited.2 }) :=
    step_eq_edits op now s
  refine ⟨hsame, fun f hf => ?_, ?_⟩
  · have hundone : edited.2 = s.policies := by
      cases hedited : edited.1 with
      | error e => exact runOn_edits_of_error hedited
      | ok answer =>
        rw [hsame, hedited] at hf
        cases hf
    exact ⟨hundone, by rw [hsame, hundone]⟩
  · rintro kind a ids rfl
    refine ⟨⟨fun ⟨answer, h⟩ => assignable_of_step h, fun h => ⟨none, ?_⟩⟩, fun answer h => ?_⟩
    · exact congrArg Prod.fst (step_assign h)
    · have hends := assignable_of_step h
      have hanswered : answered = _ := step_assign hends
      refine ⟨?_, fun ids' hids' => ?_⟩
      · rw [hanswered]
        exact PolicyTables.assigned_linkAll ..
      · have hends' : s.policies.Assignable kind a ids' :=
          ⟨hends.1, fun id hid => hends.2 id ((hids' id).mp hid)⟩
        rw [hanswered, step_assign hends', Links.linkAll_congr hids']

end PolicyOperation

namespace Sample

/-- A role and two permissions. -/
def unlinked : MemoryState where
  policies := {
    lastId := 3
    roles := ({} : Table Int Role).put 1 ⟨1, "member", "", .ofSeconds 0, .ofSeconds 0⟩
    permissions := (({} : Table Int Permission).put 2
      ⟨2, "read", "", .ofSeconds 0, .ofSeconds 0⟩).put 3
      ⟨3, "write", "", .ofSeconds 0, .ofSeconds 0⟩ }

theorem late_missing_permission :
    let assignment := fun ids =>
      (PolicyOperation.assignPermissions 1 ids).step MemoryState.policyStore (.ofSeconds 1) unlinked
    ((assignment [2, 3, 9]).1 = .error (.error (.invalidReference "Permission 9 does not exist")) ∧
        (assignment [2, 3, 9]).2 = unlinked) ∧
      (assignment [3, 2, 3]).1 = .ok none ∧
      (assignment [3, 2, 3]).2.policies.rolePermissions = [(1, 2), (1, 3)] ∧
      assignment [2, 3] = assignment [3, 2, 3] := by
  intro assignment
  have hmissing := PolicyOperation.all_or_nothing (.assignPermissions 1 [2, 3, 9]) (.ofSeconds 1)
    unlinked
  have hpresent := PolicyOperation.all_or_nothing (.assignPermissions 1 [3, 2, 3]) (.ofSeconds 1)
    unlinked
  have hfails : (assignment [2, 3, 9]).1 =
      .error (.error (.invalidReference "Permission 9 does not exist")) := by decide +kernel
  have hpasses : (assignment [3, 2, 3]).1 = .ok none := rfl
  have hordered := (hpresent.2.2 .permissions 1 [3, 2, 3] rfl).2 none hpasses
  exact ⟨⟨hfails, (hmissing.2.1 _ hfails).2⟩, hpasses, rfl,
    hordered.2 [2, 3] (by simp [or_comm])⟩

end Sample

end Turnstile
