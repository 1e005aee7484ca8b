import Turnstile.Proofs.Accounts
import Turnstile.Proofs.Policy.Reload

/-!
What a step does to the tables of policies and to the engine. The administration and a
registration change tables, everything else leaves them; the name of the superadmin and the way
to compare paths stay what they were at the start. Roles stand under their own identifiers, and
whoever has a role has one that is there, so the roles of a user come in the order of their
identifiers.
-/

namespace Turnstile

namespace PolicyTables

/-- Roles stand under their own identifiers, and users have only roles that are there. -/
structure RolesKept (t : PolicyTables) : Prop where
  keyed : ∀ id role, t.roles.find? id = some role → role.id = id
  held : ∀ link ∈ t.userRoles, t.roles.contains link.2 = true
  ascending : Links.Ascending t.userRoles

namespace RolesKept

variable {t : PolicyTables}

theorem empty : RolesKept {} := ⟨fun _ _ h => (nomatch h), List.forall_mem_nil _, .nil⟩

theorem of_eq (h : t.RolesKept) {t' : PolicyTables} (hroles : t'.roles = t.roles)
    (hlinks : t'.userRoles = t.userRoles) : t'.RolesKept := by
  refine ⟨?_, ?_, ?_⟩
  · rw [hroles]
    exact h.keyed
  · rw [hroles, hlinks]
    exact h.held
  · rw [hlinks]
    exact h.ascending

/-- A role comes in under its own identifier, or is changed in place. -/
theorem put (h : t.RolesKept) {id : Int} {role : Role} (hid : role.id = id) {t' : PolicyTables}
    (hroles : t'.roles = t.roles.put id role) (hlinks : t'.userRoles = t.userRoles) :
    t'.RolesKept := by
  refine ⟨fun k found hfound => ?_, fun link hlink => ?_, hlinks ▸ h.ascending⟩
  · rw [hroles] at hfound
    exact Table.key_of_find?_put h.keyed hid hfound
  · rw [hlinks] at hlink
    have hthere := h.held link hlink
    unfold Table.contains at hthere ⊢
    rw [hroles, Table.find?_put]
    split
    · rfl
    · exact hthere

/-- A role goes together with the links of its users. -/
theorem erase (h : t.RolesKept) {id : Int} {t' : PolicyTables}
    (hroles : t'.roles = t.roles.erase id)
    (hlinks : t'.userRoles = t.userRoles.filter (·.2 ≠ id)) : t'.RolesKept := by
  refine ⟨fun k found hfound => ?_, fun link hlink => ?_, hlinks ▸ h.ascending.filter _⟩
  · rw [hroles] at hfound
    exact h.keyed k found (Table.find?_of_find?_erase hfound)
  · rw [hlinks] at hlink
    obtain ⟨hold, hne⟩ := List.mem_filter.mp hlink
    have hthere := h.held link hold
    unfold Table.contains at hthere ⊢
    rw [hroles, Table.find?_erase, if_neg (Ne.symm (of_decide_eq_true hne))]
    exact hthere

theorem give (h : t.RolesKept) {userId roleId : Int} (hthere : t.roles.contains roleId = true) :
    RolesKept { t with userRoles := Links.add (userId, roleId) t.userRoles } := by
  refine ⟨h.keyed, fun link hlink => ?_, h.ascending.add _⟩
  rcases (Links.mem_add ..).mp hlink with rfl | hold
  · exact hthere
  · exact h.held link hold

/-- No change takes a role away from under its users. -/
theorem edited (h : t.RolesKept) {t' : PolicyTables} (ht : t.Edited t') : t'.RolesKept := by
  cases ht with
  | unchanged => exact h
  | rolePut hid =>
    refine h.put ?_ rfl rfl
    rcases hid with hid | hid
    · exact hid
    · obtain ⟨old, hfind, hsame⟩ := Option.map_eq_some_iff.mp hid
      exact hsame.symm.trans (h.keyed _ old hfind)
  | roleErased id => exact h.erase rfl rfl
  | roleGiven hthere => exact h.give hthere
  | roleTaken userId roleId =>
    exact ⟨h.keyed, fun link hlink => h.held link ((Links.mem_remove ..).mp hlink).1,
      h.ascending.filter _⟩
  -- The rest is not about roles and their users.
  | permissionPut => exact h.of_eq rfl rfl
  | permissionErased => exact h.of_eq rfl rfl
  | resourcePut => exact h.of_eq rfl rfl
  | resourceErased => exact h.of_eq rfl rfl
  | permissionsLinked => exact h.of_eq rfl rfl
  | permissionsUnlinked => exact h.of_eq rfl rfl
  | resourcesLinked => exact h.of_eq rfl rfl
  | resourcesUnlinked => exact h.of_eq rfl rfl

/-- The roles of a user. -/
theorem mem_rolesOf (h : t.RolesKept) {userId : Int} {role : Role} :
    role ∈ t.rolesOf userId ↔
      (userId, role.id) ∈ t.userRoles ∧ t.roles.find? role.id = some role := by
  unfold rolesOf
  rw [List.mem_filterMap]
  constructor
  · rintro ⟨id, hid, hfind⟩
    obtain rfl := h.keyed id role hfind
    exact ⟨Links.mem_targets.mp hid, hfind⟩
  · rintro ⟨hlink, hfind⟩
    exact ⟨role.id, Links.mem_targets.mpr hlink, hfind⟩

/-- They come in the order of their identifiers. -/
theorem rolesOf_ascending (h : t.RolesKept) (userId : Int) :
    (t.rolesOf userId).Pairwise fun a b => a.id < b.id := by
  unfold rolesOf
  refine List.pairwise_filterMap.mpr ((h.ascending.targets userId).imp fun hlt a ha b hb => ?_)
  rw [h.keyed _ a ha, h.keyed _ b hb]
  exact hlt

/-- What the roles of a user are linked to. -/
theorem mem_permissionsOf (h : t.RolesKept) {userId : Int} {p : Permission} :
    p ∈ t.permissionsOf userId ↔ p ∈ t.permissions.values ∧
      ∃ role ∈ t.rolesOf userId, (role.id, p.id) ∈ t.rolePermissions := by
  unfold permissionsOf
  simp only [List.mem_filter, List.any_eq_true, Bool.and_eq_true, List.contains_iff_mem,
    beq_iff_eq, Links.mem_targets, Prod.exists]
  refine and_congr_right fun _ => ?_
  constructor
  · rintro ⟨roleId, _, hlink, hheld, rfl⟩
    obtain ⟨role, hrole⟩ := Option.isSome_iff_exists.mp (h.held _ hheld)
    obtain rfl := h.keyed _ role hrole
    exact ⟨role, h.mem_rolesOf.mpr ⟨hheld, hrole⟩, hlink⟩
  · rintro ⟨role, hrole, hlink⟩
    exact ⟨role.id, p.id, hlink, (h.mem_rolesOf.mp hrole).1, rfl⟩

end RolesKept

end PolicyTables

/-! ### Steps -/

variable [SizeLimit]

/-- The engines differ in their rules at most, and both enforcers are in step with them. -/
structure PolicyEngine.SameKind (e e' : PolicyEngine) : Prop where
  superadmin : e'.superadmin = e.superadmin
  matcher : e'.matcher = e.matcher
  inStep : e.InStep → e'.InStep

theorem PolicyEngine.SameKind.refl (e : PolicyEngine) : e.SameKind e := ⟨rfl, rfl, id⟩

theorem PolicyEngine.SameKind.trans {e e' e'' : PolicyEngine} (h : e.SameKind e')
    (h' : e'.SameKind e'') : e.SameKind e'' :=
  ⟨h'.superadmin.trans h.superadmin, h'.matcher.trans h.matcher, h'.inStep ∘ h.inStep⟩

/-- What a step does to the tables of policies and to the engine. -/
inductive PolicyStep (m : MemoryService) (c : Call) : PolicyTables → PolicyEngine → Prop
  | kept : PolicyStep m c c.world.stores.policies c.world.engine
  | administered {call : AdminCall} {t : PolicyTables} {e : PolicyEngine}
      (hop : c.operation = .admin call)
      (hchange : call.change c.world.now c.world.stores.policies = .ok ((), t))
      (hengine : c.world.engine.SameKind e) : PolicyStep m c t e
  | joined {request : RegisterRequest} {user : User} {role : Role} {t : PolicyTables}
      (hop : c.operation = .register request)
      (hassign : PolicyTables.assignRole user.id role.id c.world.now c.world.stores.policies =
        .ok ((), t)) : PolicyStep m c t c.world.engine

namespace PolicyStep

variable {m : MemoryService} {w v : World MemoryState}

theorem of_eq {op : Operation} (hpolicies : v.stores.policies = w.stores.policies)
    (hengine : v.engine = w.engine) : PolicyStep m ⟨w, op⟩ v.stores.policies v.engine := by
  rw [hpolicies, hengine]
  exact .kept

theorem of_login {request : LoginRequest} {client : Client}
    {answer : Except Failure LoginResponse} (h : LoginEnd m request client w answer v) :
    PolicyStep m ⟨w, .login request client⟩ v.stores.policies v.engine := by
  cases h with
  | unnamed => exact .kept
  | inactive => exact .kept
  | refused _ _ hrun => exact .of_eq (Lockout.compared_of_runOn hrun).policies rfl
  | unissued _ _ hrun => exact .of_eq (Lockout.compared_of_runOn hrun).policies rfl
  | started _ _ hrun =>
    have hsame := (Lockout.compared_of_runOn hrun).policies
    exact .of_eq hsame rfl

theorem of_refresh {request : RefreshRequest} {client : Client}
    {answer : Except Failure LoginResponse} (h : RefreshEnd m request client w answer v) :
    PolicyStep m ⟨w, .refresh request client⟩ v.stores.policies v.engine := by
  cases h with
  | failed => exact .kept
  | renewed => exact .kept

theorem of_logout {bearer : String} {answer : Except Failure Unit}
    (h : LogoutEnd m bearer w answer v) :
    PolicyStep m ⟨w, .logout bearer⟩ v.stores.policies v.engine := by
  cases h with
  | failed => exact .kept
  | ended => exact .kept

theorem of_register {request : RegisterRequest} {answer : Except Failure UserProfile}
    (h : RegisterEnd m request w answer v) :
    PolicyStep m ⟨w, .register request⟩ v.stores.policies v.engine := by
  cases h with
  | invalid => exact .kept
  | known => exact .kept
  | clashed hcreate =>
    obtain rfl := MemoryState.of_createUser_error hcreate
    exact .kept
  | alone hcreate =>
    obtain ⟨-, -, rfl⟩ := MemoryState.of_createUser hcreate
    exact .kept
  | joined hcreate _ hassign =>
    obtain ⟨-, -, rfl⟩ := MemoryState.of_createUser hcreate
    exact .joined rfl hassign
  | unassigned hcreate =>
    obtain ⟨-, -, rfl⟩ := MemoryState.of_createUser hcreate
    exact .kept

theorem of_admin {call : AdminCall} {answer : Except Failure Unit}
    (h : AdminCall.Ends m w call answer v) :
    PolicyStep m ⟨w, .admin call⟩ v.stores.policies v.engine := by
  cases h with
  | refused => exact .kept
  | changed hchange => exact .administered rfl hchange (.refl _)
  | loaded hchange _ husable =>
    refine .administered rfl hchange ⟨rfl, rfl, fun _ => PolicyEngine.inForce_inStep ?_⟩
    exact fun r hr => husable r (List.mem_eraseDups.mp hr)
  | stale hchange => exact .administered rfl hchange (.refl _)

theorem of_setStatus (userId : Int) (status : UserStatus) :
    let v := ((Action.store (m.app.stores.users.setStatus userId status)).runOn w).2
    PolicyStep m ⟨w, .setStatus userId status⟩ v.stores.policies v.engine := by
  rw [MemoryService.app_stores, Lockout.runOn_setStatus]
  split
  · exact .kept
  · exact .kept

end PolicyStep

/-- Every step does one of these. -/
theorem policy_step (m : MemoryService) (c : Call) :
    PolicyStep m c (c.next m).stores.policies (c.next m).engine := by
  obtain ⟨w, op⟩ := c
  cases op <;> rw [Call.next, MemoryService.step]
  case login request client => exact .of_login (login_ends m request client w)
  case refresh request client => exact .of_refresh (refresh_ends m request client w)
  case logout bearer => exact .of_logout (logout_ends m bearer w)
  case register request => exact .of_register (register_ends m request w)
  case authorize bearer elementId =>
    have hworld := Gate.authorize_world m w bearer elementId
    generalize ((m.app.authorize bearer elementId).runOn w).2 = v at hworld ⊢
    obtain rfl := hworld
    exact .kept
  case admin call => exact .of_admin (AdminCall.action_ends m w call)
  case setStatus userId status => exact .of_setStatus userId status
  case clock now => exact .kept

theorem Call.next_rolesKept {m : MemoryService} {c : Call}
    (h : c.world.stores.policies.RolesKept) : (c.next m).stores.policies.RolesKept := by
  have hstep := policy_step m c
  generalize (c.next m).stores.policies = t, (c.next m).engine = e at hstep ⊢
  cases hstep with
  | kept => exact h
  | administered _ hchange => exact h.edited (AdminCall.change_edited hchange)
  | joined _ hassign =>
    obtain ⟨hthere, rfl⟩ := PolicyTables.of_assignRole hassign
    exact h.give hthere

theorem Call.next_sameKind (m : MemoryService) (c : Call) :
    c.world.engine.SameKind (c.next m).engine := by
  have hstep := policy_step m c
  generalize (c.next m).stores.policies = t, (c.next m).engine = e at hstep ⊢
  cases hstep with
  | kept => exact .refl _
  | administered _ _ hengine => exact hengine
  | joined => exact .refl _

namespace MemoryService

variable {m : MemoryService} {w : World MemoryState}

/-- A call of the administration is the last step of a longer run. -/
theorem after_admin {call : AdminCall} {ops : List Operation} {answer : Except Failure Unit}
    {v : World MemoryState} (h : (call.action m.app).runOn (m.after w ops) = (answer, v)) :
    m.after w (ops ++ [.admin call]) = v := by
  unfold after at h ⊢
  rw [List.foldl_append]
  exact congrArg Prod.snd h

theorem after_rolesKept (h : w.stores.policies.RolesKept) (ops : List Operation) :
    (m.after w ops).stores.policies.RolesKept := by
  induction ops generalizing w with
  | nil => exact h
  | cons op rest ih => exact ih (Call.next_rolesKept (c := ⟨w, op⟩) h)

theorem after_sameKind (ops : List Operation) : w.engine.SameKind (m.after w ops).engine := by
  induction ops generalizing w with
  | nil => exact .refl _
  | cons op rest ih =>
    have hstep : w.engine.SameKind (m.step w op).engine := Call.next_sameKind m ⟨w, op⟩
    exact hstep.trans (ih (w := m.step w op))

/-- Whatever was done, the enforcer is the one for the rules in force. -/
theorem after_inStep (h : w.engine.InStep) (ops : List Operation) :
    (m.after w ops).engine.InStep :=
  (after_sameKind ops).inStep h

end MemoryService

end Turnstile
