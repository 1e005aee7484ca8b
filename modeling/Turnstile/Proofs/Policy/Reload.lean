import Turnstile.Proofs.Policy.Operation

/-!
The rules in force and the tables of policies stay in step. Where every change
is followed by a load, a run of the administration that meets no unusable
pattern has, after every call, exactly the rules of the chains that are stored
then. They are those of one service type: the service's own, until a load of
another one is asked for.
-/

namespace Turnstile

namespace PolicyTables

/-- The resource is as it was asked for. -/
def IsAsked (asked : NewResource) (r : Resource) : Prop :=
  r.serviceType = asked.serviceType.text ∧ r.method = asked.method ∧ r.path = asked.path

/-! ### What changes make of the tables -/

/-- What a change can make of the tables: nothing, an entry that is put or erased together with
its links, or links alone. -/
inductive Edited (t : PolicyTables) : PolicyTables → Prop
  | unchanged : Edited t t
  /-- A new role stands under its own identifier, and a changed one keeps its own. -/
  | rolePut {id lastId : Int} {role : Role}
      (hid : role.id = id ∨ (t.roles.find? id).map (·.id) = some role.id) (ids : List Int) :
      Edited t { t with
        lastId := lastId
        roles := t.roles.put id role
        rolePermissions := linkAll id ids t.rolePermissions }
  | roleErased (id : Int) : Edited t { t with
      roles := t.roles.erase id
      rolePermissions := t.rolePermissions.filter (·.1 ≠ id)
      userRoles := t.userRoles.filter (·.2 ≠ id) }
  | permissionPut {id lastId : Int} {permission : Permission} (ids : List Int) : Edited t { t with
      lastId := lastId
      permissions := t.permissions.put id permission
      permissionResources := linkAll id ids t.permissionResources }
  | permissionErased (id : Int) : Edited t { t with
      permissions := t.permissions.erase id
      rolePermissions := t.rolePermissions.filter (·.2 ≠ id)
      permissionResources := t.permissionResources.filter (·.1 ≠ id) }
  | resourcePut {id lastId : Int} {resource : Resource} : Edited t { t with
      lastId := lastId
      resources := t.resources.put id resource }
  | resourceErased (id : Int) : Edited t { t with
      resources := t.resources.erase id
      permissionResources := t.permissionResources.filter (·.2 ≠ id) }
  | permissionsLinked (id : Int) (ids : List Int) :
      Edited t { t with rolePermissions := linkAll id ids t.rolePermissions }
  | permissionsUnlinked (id : Int) (ids : List Int) :
      Edited t { t with rolePermissions := unlinkAll id ids t.rolePermissions }
  | resourcesLinked (id : Int) (ids : List Int) :
      Edited t { t with permissionResources := linkAll id ids t.permissionResources }
  | resourcesUnlinked (id : Int) (ids : List Int) :
      Edited t { t with permissionResources := unlinkAll id ids t.permissionResources }
  | roleGiven {userId roleId : Int} (hthere : t.roles.contains roleId = true) :
      Edited t { t with userRoles := Links.add (userId, roleId) t.userRoles }
  | roleTaken (userId roleId : Int) :
      Edited t { t with userRoles := Links.remove (userId, roleId) t.userRoles }

theorem Made.edited {now : Instant} {t t' : PolicyTables} {op : PolicyOperation}
    {issued : Option Int} (h : Made now t op issued t') : t.Edited t' := by
  cases h with
  | roleCreated =>
    refine .rolePut ?_ _
    exact .inl rfl
  | roleUpdated hrole => exact .rolePut (.inr (by rw [hrole]; rfl)) []
  | roleDeleted => exact .roleErased _
  | permissionCreated => exact .permissionPut _
  | permissionUpdated => exact .permissionPut []
  | permissionDeleted => exact .permissionErased _
  | resourceCreated => exact .resourcePut
  | resourceUpdated => exact .resourcePut
  | resourceDeleted => exact .resourceErased _
  | permissionsAssigned => exact .permissionsLinked _ _
  | permissionsRemoved => exact .permissionsUnlinked _ _
  | resourcesAssigned => exact .resourcesLinked _ _
  | resourcesRemoved => exact .resourcesUnlinked _ _
  | roleAssigned hrole => exact .roleGiven hrole
  | roleRevoked => exact .roleTaken _ _
  | asked => exact .unchanged

theorem of_assignRole {userId roleId : Int} {now : Instant} {t t' : PolicyTables}
    (h : assignRole userId roleId now t = .ok ((), t')) :
    t.roles.contains roleId = true ∧
      t' = { t with userRoles := Links.add (userId, roleId) t.userRoles } := by
  cases Made.of_assignRole h with
  | roleAssigned hrole => exact ⟨hrole, rfl⟩

/-- Links stay in ascending order whatever is changed. -/
theorem Edited.ascending {t t' : PolicyTables} (h : t.Edited t') (ht : t.Ascending) :
    t'.Ascending := by
  obtain ⟨hroles, hpermissions⟩ := ht
  cases h with
  | unchanged => exact ⟨hroles, hpermissions⟩
  | rolePut => exact ⟨hroles.linkAll _ _, hpermissions⟩
  | roleErased => exact ⟨hroles.filter _, hpermissions⟩
  | permissionPut => exact ⟨hroles, hpermissions.linkAll _ _⟩
  | permissionErased => exact ⟨hroles.filter _, hpermissions.filter _⟩
  | resourcePut => exact ⟨hroles, hpermissions⟩
  | resourceErased => exact ⟨hroles, hpermissions.filter _⟩
  | permissionsLinked => exact ⟨hroles.linkAll _ _, hpermissions⟩
  | permissionsUnlinked => exact ⟨hroles.unlinkAll _ _, hpermissions⟩
  | resourcesLinked => exact ⟨hroles, hpermissions.linkAll _ _⟩
  | resourcesUnlinked => exact ⟨hroles, hpermissions.unlinkAll _ _⟩
  | roleGiven => exact ⟨hroles, hpermissions⟩
  | roleTaken => exact ⟨hroles, hpermissions⟩

end PolicyTables

namespace AdminCall

/-- What the tables show of a call that went through. -/
def TookEffect (t : PolicyTables) : AdminCall → Prop
  | addRole request => ∃ role, t.roles.find? role.id = some role ∧
      role.name = request.entry.name ∧
      ∀ permissionId ∈ request.permissionIds, (role.id, permissionId) ∈ t.rolePermissions
  | updateRole id request => ∃ role, t.roles.find? id = some role ∧
      role.name = request.entry.name
  | deleteRole id => ∀ c, t.HasChain c → c.role ≠ id
  | addPermission request => ∃ permission, t.permissions.find? permission.id = some permission ∧
      ∀ resourceId ∈ request.resourceIds, (permission.id, resourceId) ∈ t.permissionResources
  | deletePermission id => ∀ c, t.HasChain c → c.permission ≠ id
  | addResource request => ∃ r, t.resources.find? r.id = some r ∧
      PolicyTables.IsAsked request.resource r
  | updateResource id request => ∃ r, t.resources.find? id = some r ∧
      PolicyTables.IsAsked request.resource r
  | deleteResource id => ∀ c, t.HasChain c → c.resource ≠ id
  | assignPermissions roleId ids => ∀ id ∈ ids, (roleId, id) ∈ t.rolePermissions
  | removePermissions roleId ids => ∀ id ∈ ids, (roleId, id) ∉ t.rolePermissions
  | assignResources permissionId ids => ∀ id ∈ ids, (permissionId, id) ∈ t.permissionResources
  | removeResources permissionId ids => ∀ id ∈ ids, (permissionId, id) ∉ t.permissionResources
  -- These have no part in the rules.
  | updatePermission _ _ | assignRole _ _ | revokeRole _ _ | userPermissions _
  | loadPolicy _ | reload => True

section Change

variable {call : AdminCall} {now : Instant} {t t' : PolicyTables}

theorem tookEffect (h : call.change now t = .ok ((), t')) : call.TookEffect t' := by
  cases call with
  | addRole request =>
    obtain ⟨_, hmade⟩ := made_of_change h rfl
    cases hmade
    refine ⟨⟨t.lastId + 1, request.entry.name, request.entry.description, now, now⟩,
      Table.find?_put_self .., rfl, fun id hid => ?_⟩
    exact Links.mem_linkAll.mpr (.inl ⟨rfl, hid⟩)
  | updateRole id request =>
    obtain ⟨_, hmade⟩ := made_of_change h rfl
    cases hmade
    exact ⟨_, Table.find?_put_self .., rfl⟩
  | deleteRole id =>
    obtain ⟨_, hmade⟩ := made_of_change h rfl
    cases hmade
    exact fun c hc => of_decide_eq_true (List.mem_filter.mp hc.1).2
  | addPermission request =>
    obtain ⟨_, hmade⟩ := made_of_change h rfl
    cases hmade
    refine ⟨⟨t.lastId + 1, request.entry.name, request.entry.description, now, now⟩,
      Table.find?_put_self .., fun id hid => ?_⟩
    exact Links.mem_linkAll.mpr (.inl ⟨rfl, hid⟩)
  | deletePermission id =>
    obtain ⟨_, hmade⟩ := made_of_change h rfl
    cases hmade
    exact fun c hc => of_decide_eq_true (List.mem_filter.mp hc.1).2
  | addResource request =>
    obtain ⟨_, hmade⟩ := made_of_change h rfl
    cases hmade
    refine ⟨⟨t.lastId + 1, _, _, _, _, _, now, now⟩, Table.find?_put_self .., rfl, rfl, rfl⟩
  | updateResource id request =>
    obtain ⟨_, hmade⟩ := made_of_change h rfl
    cases hmade
    exact ⟨_, Table.find?_put_self .., rfl, rfl, rfl⟩
  | deleteResource id =>
    obtain ⟨_, hmade⟩ := made_of_change h rfl
    cases hmade
    exact fun c hc => of_decide_eq_true (List.mem_filter.mp hc.2).2
  | assignPermissions roleId ids =>
    intro id hid
    obtain ⟨_, hmade⟩ := made_of_change h (if_neg (by simpa using List.ne_nil_of_mem hid))
    cases hmade
    exact Links.mem_linkAll.mpr (.inl ⟨rfl, hid⟩)
  | removePermissions roleId ids =>
    intro id hid
    obtain ⟨_, hmade⟩ := made_of_change h (if_neg (by simpa using List.ne_nil_of_mem hid))
    cases hmade
    exact fun hlink => (Links.mem_unlinkAll.mp hlink).2 ⟨rfl, hid⟩
  | assignResources permissionId ids =>
    intro id hid
    obtain ⟨_, hmade⟩ := made_of_change h (if_neg (by simpa using List.ne_nil_of_mem hid))
    cases hmade
    exact Links.mem_linkAll.mpr (.inl ⟨rfl, hid⟩)
  | removeResources permissionId ids =>
    intro id hid
    obtain ⟨_, hmade⟩ := made_of_change h (if_neg (by simpa using List.ne_nil_of_mem hid))
    cases hmade
    exact fun hlink => (Links.mem_unlinkAll.mp hlink).2 ⟨rfl, hid⟩
  | updatePermission id request => exact trivial
  | assignRole userId roleId => exact trivial
  | revokeRole userId roleId => exact trivial
  | userPermissions userId => exact trivial
  | loadPolicy serviceType => exact trivial
  | reload => exact trivial

theorem change_edited (h : call.change now t = .ok ((), t')) : t.Edited t' := by
  obtain ⟨-, rfl⟩ | ⟨op, issued, -, hmade⟩ := of_change h
  · exact .unchanged
  · exact hmade.edited

/-- A call that puts nothing in force, though changes do, changes no more than
the roles of users. -/
theorem change_of_loads_none {p : PolicySettings} (hauto : p.autoReload = true)
    (hloads : call.loads p = none) (h : call.change now t = .ok ((), t')) :
    ∃ userRoles, t' = { t with userRoles := userRoles } := by
  have hreloads : reloads p ≠ none := by simp [reloads, hauto]
  have hlinks {ids : List Int} {links : PolicyTables.Change Unit}
      (hnone : (if ids.isEmpty then none else reloads p) = none)
      (hchange : (if ids.isEmpty then PolicyTables.unchanged else links) now t = .ok ((), t')) :
      ∃ userRoles, t' = { t with userRoles := userRoles } := by
    obtain ⟨-, rfl⟩ | ⟨hsome, -⟩ := of_linkChange hchange
    · exact ⟨t'.userRoles, rfl⟩
    · rw [if_neg (by simpa using hsome)] at hnone
      exact absurd hnone hreloads
  cases call with
  | assignPermissions roleId ids => exact hlinks hloads h
  | removePermissions roleId ids => exact hlinks hloads h
  | assignResources permissionId ids => exact hlinks hloads h
  | removeResources permissionId ids => exact hlinks hloads h
  | assignRole userId roleId =>
    obtain ⟨_, hmade⟩ := made_of_change h rfl
    cases hmade
    exact ⟨_, rfl⟩
  | revokeRole userId roleId =>
    obtain ⟨_, hmade⟩ := made_of_change h rfl
    cases hmade
    exact ⟨_, rfl⟩
  | userPermissions userId =>
    cases h
    exact ⟨t.userRoles, rfl⟩
  | loadPolicy serviceType => cases hloads
  | reload => cases hloads
  | addRole request => exact absurd hloads hreloads
  | updateRole id request => exact absurd hloads hreloads
  | deleteRole id => exact absurd hloads hreloads
  | addPermission request => exact absurd hloads hreloads
  | updatePermission id request => exact absurd hloads hreloads
  | deletePermission id => exact absurd hloads hreloads
  | addResource request => exact absurd hloads hreloads
  | updateResource id request => exact absurd hloads hreloads
  | deleteResource id => exact absurd hloads hreloads

end Change

end AdminCall

/-! ### Worlds in step -/

/-- The rules in force are those of the stored chains of one service type. -/
structure World.RulesInStep (w : World MemoryState) (serviceType : ServiceType) : Prop where
  ascending : w.stores.policies.Ascending
  inStep : w.stores.policies.InStep serviceType w.engine.rules

namespace AdminEntry

/-- The service type whose grants are in force after a call. -/
def inForce (p : PolicySettings) (serviceType : ServiceType) (e : AdminEntry) : ServiceType :=
  match e.answer with
  | .ok _ => (e.call.loads p).getD serviceType
  | .error _ => serviceType

@[simp] theorem inForce_ok (p : PolicySettings) (serviceType : ServiceType) (call : AdminCall)
    (w : World MemoryState) :
    (⟨call, .ok (), w⟩ : AdminEntry).inForce p serviceType =
      (call.loads p).getD serviceType := rfl

end AdminEntry

/-- The service type whose grants are in force after a run: that of the load
that was completed last, and the service's own before any. -/
def inForce (p : PolicySettings) (run : List AdminEntry) : ServiceType :=
  run.foldl (AdminEntry.inForce p) p.serviceType

section Run

variable [SizeLimit] (m : MemoryService)

theorem World.RulesInStep.step {w : World MemoryState} {serviceType : ServiceType}
    (hauto : m.settings.policy.autoReload = true) (h : w.RulesInStep serviceType)
    {call : AdminCall} {e : AdminEntry}
    (he : e = ⟨call, ((call.action m.app).runOn w).1, ((call.action m.app).runOn w).2⟩)
    (hvalid : ∀ f, e.answer = .error f → ¬ f.IsInvalidPolicy) :
    e.world.RulesInStep (e.inForce m.settings.policy serviceType) ∧
      (w.engine.InStep → e.world.engine.InStep) ∧
      (e.answer = .ok () → call.TookEffect e.world.stores.policies) := by
  have hends := AdminCall.action_ends m w call
  generalize (call.action m.app).runOn w = r at hends he
  obtain ⟨answer, v⟩ := r
  subst he
  dsimp only at hvalid hends ⊢
  cases hends with
  | refused hf => exact ⟨h, id, fun hok => nomatch hok⟩
  | changed hchange hloads =>
    refine ⟨?_, id, fun _ => AdminCall.tookEffect hchange⟩
    obtain ⟨userRoles, rfl⟩ := AdminCall.change_of_loads_none hauto hloads hchange
    have hnone : call.loads m.settings.policy = none := hloads
    rw [AdminEntry.inForce_ok, hnone]
    exact ⟨(AdminCall.change_edited hchange).ascending h.ascending, h.inStep⟩
  | loaded hchange hloads husable =>
    refine ⟨?_, fun _ => PolicyEngine.inForce_inStep fun r hr =>
      husable r (List.mem_eraseDups.mp hr), fun _ => AdminCall.tookEffect hchange⟩
    have hascending := (AdminCall.change_edited hchange).ascending h.ascending
    have hsome : call.loads m.settings.policy = some _ := hloads
    rw [AdminEntry.inForce_ok, hsome]
    exact ⟨hascending, hascending.inStep _⟩
  | stale hchange hloads hf => exact absurd hf (hvalid _ rfl)

/-- From a world in step every call of a run leads to another. -/
theorem World.RulesInStep.run {w : World MemoryState} {serviceType : ServiceType}
    (hauto : m.settings.policy.autoReload = true) (h : w.RulesInStep serviceType)
    {calls : List (Instant × AdminCall)}
    (hvalid : ∀ e ∈ m.administer w calls, ∀ f, e.answer = .error f → ¬ f.IsInvalidPolicy)
    {pre post : List AdminEntry} {e : AdminEntry}
    (hrun : m.administer w calls = pre ++ e :: post) :
    e.world.RulesInStep
        ((pre ++ [e]).foldl (AdminEntry.inForce m.settings.policy) serviceType) ∧
      (w.engine.InStep → e.world.engine.InStep) ∧
      (e.answer = .ok () → e.call.TookEffect e.world.stores.policies) := by
  induction calls generalizing w serviceType pre with
  | nil => simp [MemoryService.administer] at hrun
  | cons timed rest ih =>
    obtain ⟨now, call⟩ := timed
    rw [MemoryService.administer] at hrun hvalid
    have hnow : World.RulesInStep { w with now := now } serviceType := ⟨h.ascending, h.inStep⟩
    have hstep := hnow.step m hauto rfl (hvalid _ List.mem_cons_self)
    cases pre with
    | nil =>
      obtain ⟨rfl, -⟩ := List.cons.inj hrun
      exact hstep
    | cons first pre =>
      obtain ⟨rfl, hrest⟩ := List.cons.inj hrun
      obtain ⟨hsame, hengine, heffect⟩ :=
        ih hstep.1 (fun e he => hvalid e (List.mem_cons_of_mem _ he)) hrest
      exact ⟨hsame, fun hw => hengine (hstep.2.1 hw), heffect⟩

/-- After every call of a run from empty tables, the rules in force are those of
the stored chains, each there for the sake of a chain, and they are what the enforcer
decides by, if it was built for its rules at the start. A call that went through shows
in the tables. -/
theorem rules_in_step (w : World MemoryState) (calls : List (Instant × AdminCall))
    (hauto : m.settings.policy.autoReload = true)
    (htables : w.stores.policies = {}) (hrules : w.engine.rules = [])
    (hvalid : ∀ e ∈ m.administer w calls, ∀ f, e.answer = .error f → ¬ f.IsInvalidPolicy)
    (pre post : List AdminEntry) (e : AdminEntry)
    (hrun : m.administer w calls = pre ++ e :: post) :
    let serviceType := inForce m.settings.policy (pre ++ [e])
    let t := e.world.stores.policies
    t.InStep serviceType e.world.engine.rules ∧
      (∀ rule, rule ∈ e.world.engine.rules ↔
        ∃ c, t.HasChain c ∧ t.ruleOf? serviceType c = some rule) ∧
      (w.engine.InStep → e.world.engine.InStep) ∧
      (e.answer = .ok () → e.call.TookEffect t) := by
  have hstart : w.RulesInStep m.settings.policy.serviceType := by
    refine ⟨?_, ?_⟩
    · rw [htables]
      exact ⟨.nil, .nil⟩
    · rw [htables, hrules]
      exact ⟨[], .nil, fun c => by simp [PolicyTables.HasChain], rfl⟩
  obtain ⟨⟨-, hinstep⟩, hengine, heffect⟩ := hstart.run m hauto hvalid hrun
  exact ⟨hinstep, hinstep.mem_iff, hengine, heffect⟩

end Run

namespace Sample

/-- A role comes to use a resource. -/
def grant : List AdminCall :=
  [.addResource ⟨"", "", .http, "GET", "/x"⟩, .addPermission ⟨"read", "", [1]⟩,
    .addRole ⟨"member", "", [2]⟩]

/-- The last entry of a run, by what it shows. -/
theorem exists_last {α β : Type} (shows : α → β) (xs : List α) (b : β)
    (h : (xs.map shows).getLast? = some b) : ∃ pre x, xs = pre ++ [x] ∧ shows x = b := by
  rw [List.getLast?_map, Option.map_eq_some_iff] at h
  obtain ⟨x, hx, rfl⟩ := h
  obtain ⟨pre, hpre⟩ := List.getLast?_eq_some_iff.mp hx
  exact ⟨pre, x, hpre, rfl⟩

theorem grant_in_step :
    ∃ pre e, service.administer blank (atOnce grant) = pre ++ [e] ∧
      e.world.stores.policies.InStep .http [⟨"member", "http:GET", "/x"⟩] ∧
      e.world.engine.InStep := by
  obtain ⟨pre, e, hrun, hrules⟩ := exists_last (fun e => e.world.engine.rules)
    (service.administer blank (atOnce grant)) [⟨"member", "http:GET", "/x"⟩] (by decide +kernel)
  have hvalid : ∀ e ∈ service.administer blank (atOnce grant), ∀ f, e.answer = .error f →
      ¬ f.IsInvalidPolicy := by
    have hall : ((service.administer blank (atOnce grant)).all fun e => e.answer.isOk) = true := by
      decide +kernel
    intro e he f hf
    have hok := List.all_eq_true.mp hall e he
    rw [hf] at hok
    cases hok
  have htype : inForce service.settings.policy (pre ++ [e]) = .http := by
    rw [← hrun]
    decide +kernel
  have hinstep := rules_in_step service blank (atOnce grant) rfl rfl rfl hvalid pre [] e hrun
  rw [htype, hrules] at hinstep
  exact ⟨pre, e, hrun, hinstep.1, hinstep.2.2.1 rfl⟩

/-- A load of another type puts the rules out of step with the service's own. -/
theorem other_type_in_force :
    ∃ pre e, service.administer blank (atOnce (grant ++ [.loadPolicy .rpc])) = pre ++ [e] ∧
      ((pre ++ [e]).all fun e => e.answer.isOk) = true ∧
      ¬ e.world.stores.policies.InStep service.settings.policy.serviceType
        e.world.engine.rules := by
  obtain ⟨pre, e, hrun, hshows⟩ := exists_last
    (fun e => (e.world.engine.rules, e.world.stores.policies.rolePermissions,
      e.world.stores.policies.permissionResources,
      e.world.stores.policies.ruleOf? .http ⟨3, 2, 1⟩))
    (service.administer blank (atOnce (grant ++ [.loadPolicy .rpc])))
    ([], [(3, 2)], [(2, 1)], some ⟨"member", "http:GET", "/x"⟩) (by decide +kernel)
  obtain ⟨hrules, hroles, hpermissions, hrule⟩ :
      e.world.engine.rules = [] ∧ e.world.stores.policies.rolePermissions = [(3, 2)] ∧
        e.world.stores.policies.permissionResources = [(2, 1)] ∧
        e.world.stores.policies.ruleOf? .http ⟨3, 2, 1⟩ =
          some ⟨"member", "http:GET", "/x"⟩ := by
    simpa only [Prod.mk.injEq] using hshows
  refine ⟨pre, e, hrun, ?_, fun hinstep => ?_⟩
  · rw [← hrun]
    decide +kernel
  · have hchain : e.world.stores.policies.HasChain ⟨3, 2, 1⟩ := by
      rw [PolicyTables.HasChain, hroles, hpermissions]
      decide
    have hmem := (hinstep.mem_iff _).mpr ⟨⟨3, 2, 1⟩, hchain, hrule⟩
    rw [hrules] at hmem
    cases hmem

end Sample

end Turnstile
