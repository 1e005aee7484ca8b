import Turnstile.Proofs.Identities
import Turnstile.Proofs.Policy.RoleNames

/-!
Which user has which role. A role is a user's from the call that gave it, an assignment by the
administration or the registration of the user, up to the call that takes it away. An assignment
looks at the role only, so a role can be given to an identifier that is nobody's yet, and whoever
is registered under it has the role from the start. As long as no role is given like this, new
users have the default role and no other.
-/

namespace Turnstile

/-! ### Giving and taking a role -/

namespace Call

/-- The administration has given the role to the user. -/
def Assigns [SizeLimit] (m : MemoryService) (c : Call) (userId roleId : Int) : Prop :=
  c.operation = .admin (.assignRole userId roleId) ∧
    (((AdminCall.assignRole userId roleId).action m.app).runOn c.world).1 = .ok ()

/-- The user was registered, and the role is the default one. -/
def Enrols (m : MemoryService) (c : Call) (userId roleId : Int) : Prop :=
  ∃ request profile role, c.operation = .register request ∧
    ((m.app.register request).runOn c.world).1 = .ok profile ∧ profile.id = userId ∧
      m.defaultRole? c.world.stores.policies = some role ∧ role.id = roleId

/-- The call has given the role to the user. -/
def Gives [SizeLimit] (m : MemoryService) (c : Call) (userId roleId : Int) : Prop :=
  c.Assigns m userId roleId ∨ c.Enrols m userId roleId

/-- The administration takes the role from the user, or deletes it. A deletion is only refused
where there is no such role, and so nobody has it then either. -/
def Takes (c : Call) (userId roleId : Int) : Prop :=
  c.operation = .admin (.revokeRole userId roleId) ∨ c.operation = .admin (.deleteRole roleId)

end Call

/-- There is such a call in the history, and no later one takes the role from the user. -/
def HeldSince (gives : Call → Prop) (history : List Call) (userId roleId : Int) : Prop :=
  ∃ pre c post, history = pre ++ c :: post ∧ gives c ∧ ∀ d ∈ post, ¬ d.Takes userId roleId

/-- Whoever has a role has an account. -/
def MemoryState.NamesUsers (s : MemoryState) : Prop :=
  ∀ link ∈ s.policies.userRoles, s.users.contains link.1 = true

theorem heldSince_cons {gives : Call → Prop} {c : Call} {history : List Call}
    {userId roleId : Int} :
    HeldSince gives (c :: history) userId roleId ↔ HeldSince gives history userId roleId ∨
      gives c ∧ ∀ d ∈ history, ¬ d.Takes userId roleId := by
  constructor
  · rintro ⟨pre, d, post, hhistory, hgives, hkept⟩
    cases pre with
    | nil =>
      obtain ⟨rfl, rfl⟩ := List.cons.inj hhistory
      exact .inr ⟨hgives, hkept⟩
    | cons e pre =>
      obtain ⟨-, hhistory⟩ := List.cons.inj hhistory
      exact .inl ⟨pre, d, post, hhistory, hgives, hkept⟩
  · rintro (⟨pre, d, post, rfl, hgives, hkept⟩ | ⟨hgives, hkept⟩)
    · exact ⟨c :: pre, d, post, rfl, hgives, hkept⟩
    · exact ⟨[], c, history, rfl, hgives, hkept⟩

theorem heldSince_congr {gives gives' : Call → Prop} {history : List Call} {userId roleId : Int}
    (h : ∀ c ∈ history, gives c ↔ gives' c) :
    HeldSince gives history userId roleId ↔ HeldSince gives' history userId roleId := by
  unfold HeldSince
  refine exists_congr fun pre => exists_congr fun c => exists_congr fun post =>
    and_congr_right fun hhistory => and_congr_left fun _ => h c ?_
  rw [hhistory]
  exact List.mem_append_right pre List.mem_cons_self

/-! ### The roles of one user -/

namespace PolicyTables.RolesKept

variable {t : PolicyTables}

/-- The default role is stored under its identifier. -/
theorem find?_defaultRole (h : t.RolesKept) (hrows : t.roles.Ascending) {m : MemoryService}
    {role : Role} (hdefault : m.defaultRole? t = some role) : t.roles.find? role.id = some role :=
  (h.mem_values hrows).mp (List.mem_of_find?_eq_some hdefault)

/-- A user of at most one role. -/
theorem rolesOf_eq_toList (h : t.RolesKept) {userId : Int} {only : Option Role}
    (hmem : ∀ role, role ∈ t.rolesOf userId ↔ only = some role) :
    t.rolesOf userId = only.toList := by
  have hnodup : (t.rolesOf userId).Nodup :=
    (h.rolesOf_ascending userId).imp fun hlt heq => by
      subst heq
      exact Int.lt_irrefl _ hlt
  cases only with
  | none => exact List.eq_nil_iff_forall_not_mem.mpr fun role hrole => nomatch (hmem role).mp hrole
  | some role =>
    refine List.perm_singleton.mp ((List.perm_ext_iff_of_nodup hnodup
      (List.pairwise_singleton _ role)).mpr fun other => ?_)
    rw [hmem, List.mem_singleton, Option.some.injEq, eq_comm]

end PolicyTables.RolesKept

/-! ### Calls of the administration -/

section Administration

variable {userId roleId : Int} {now : Instant} {t t' : PolicyTables}

theorem PolicyTables.Made.mem_userRoles {op : PolicyOperation} {issued : Option Int}
    (h : Made now t op issued t') :
    (userId, roleId) ∈ t'.userRoles ↔ op = .assignRole userId roleId ∨
      (userId, roleId) ∈ t.userRoles ∧ op ≠ .revokeRole userId roleId ∧
        op ≠ .deleteRole roleId := by
  cases h with
  | roleAssigned => grind [Links.mem_add]
  | roleRevoked => grind [Links.mem_remove]
  | roleDeleted => grind
  | _ => simp

namespace AdminCall

variable {call : AdminCall}

theorem operation?_eq_assignRole :
    call.operation? = some (.assignRole userId roleId) ↔ call = .assignRole userId roleId := by
  cases call <;> simp [operation?]

theorem operation?_eq_revokeRole :
    call.operation? = some (.revokeRole userId roleId) ↔ call = .revokeRole userId roleId := by
  cases call <;> simp [operation?]

theorem operation?_eq_deleteRole :
    call.operation? = some (.deleteRole roleId) ↔ call = .deleteRole roleId := by
  cases call <;> simp [operation?]

/-- A call gives and takes what its name says, and leaves all other roles with their users. -/
theorem mem_userRoles_of_change (h : call.change now t = .ok ((), t')) :
    (userId, roleId) ∈ t'.userRoles ↔ call = .assignRole userId roleId ∨
      (userId, roleId) ∈ t.userRoles ∧ call ≠ .revokeRole userId roleId ∧
        call ≠ .deleteRole roleId := by
  rw [← operation?_eq_assignRole, Ne, ← operation?_eq_revokeRole, Ne, ← operation?_eq_deleteRole]
  rcases of_change h with ⟨hnone, rfl⟩ | ⟨op, issued, hop, hmade⟩
  · simp [hnone]
  · rw [hop, hmade.mem_userRoles]
    simp

/-- A refused call would not have taken a role that somebody has. -/
theorem ne_of_refused {e : ServiceError} (h : call.change now t = .error e) (ht : t.RolesKept)
    (hlink : (userId, roleId) ∈ t.userRoles) :
    call ≠ .revokeRole userId roleId ∧ call ≠ .deleteRole roleId := by
  refine ⟨?_, ?_⟩
  · rintro rfl
    cases h
  · rintro rfl
    have hthere : t.roles.contains roleId = true := ht.held _ hlink
    rw [change] at h
    unfold PolicyTables.deleteRole PolicyTables.requireRole at h
    rw [if_pos hthere] at h
    cases h

end AdminCall

end Administration

/-! ### Steps -/

section Steps

variable {m : MemoryService} {c : Call} {userId roleId : Int}

theorem RegisterEnd.mem_userRoles {request : RegisterRequest} {w v : World MemoryState}
    {answer : Except Failure UserProfile} (h : RegisterEnd m request w answer v) :
    (userId, roleId) ∈ v.stores.policies.userRoles ↔
      (∃ profile role, answer = .ok profile ∧ profile.id = userId ∧
        m.defaultRole? w.stores.policies = some role ∧ role.id = roleId) ∨
      (userId, roleId) ∈ w.stores.policies.userRoles := by
  cases h with
  | invalid => simp
  | known => simp
  | clashed hcreate =>
    obtain rfl := MemoryState.of_createUser_error hcreate
    simp
  | alone hcreate hrole =>
    obtain ⟨-, -, rfl⟩ := MemoryState.of_createUser hcreate
    have hnone : m.defaultRole? w.stores.policies = none := hrole
    simp [hnone]
  | joined hcreate hrole hassign =>
    obtain ⟨-, -, rfl⟩ := MemoryState.of_createUser hcreate
    obtain ⟨-, rfl⟩ := PolicyTables.of_assignRole hassign
    have hsome : m.defaultRole? w.stores.policies = some _ := hrole
    simp [hsome, Links.mem_add, User.profile, eq_comm]
  | unassigned hcreate =>
    obtain ⟨-, -, rfl⟩ := MemoryState.of_createUser hcreate
    simp

/-- A registration that answers with a profile has opened the account, under the next identifier,
and has left the roles themselves alone. -/
theorem RegisterEnd.of_ok {request : RegisterRequest} {w v : World MemoryState}
    {profile : UserProfile} (h : RegisterEnd m request w (.ok profile) v) :
    profile.id = w.stores.nextUserId ∧ v.stores.users.contains profile.id = true ∧
      v.stores.policies.roles = w.stores.policies.roles := by
  cases h with
  | alone hcreate =>
    obtain ⟨hid, -, rfl⟩ := MemoryState.of_createUser hcreate
    exact ⟨hid, Table.contains_put.mpr (.inl rfl), rfl⟩
  | joined hcreate _ hassign =>
    obtain ⟨hid, -, rfl⟩ := MemoryState.of_createUser hcreate
    obtain ⟨-, rfl⟩ := PolicyTables.of_assignRole hassign
    exact ⟨hid, Table.contains_put.mpr (.inl rfl), rfl⟩

/-- Who has been registered has the default role and the stored roles that the tables gave to the
identifier before. -/
theorem RegisterEnd.mem_rolesOf {request : RegisterRequest} {w v : World MemoryState}
    {profile : UserProfile} (h : RegisterEnd m request w (.ok profile) v)
    (hkept : w.stores.policies.RolesKept) (hrows : w.stores.policies.roles.Ascending)
    (hkept' : v.stores.policies.RolesKept) {role : Role} :
    role ∈ v.stores.policies.rolesOf profile.id ↔
      m.defaultRole? w.stores.policies = some role ∨
        w.stores.policies.roles.find? role.id = some role ∧
          (profile.id, role.id) ∈ w.stores.policies.userRoles := by
  rw [hkept'.mem_rolesOf, h.mem_userRoles, h.of_ok.2.2]
  constructor
  · rintro ⟨⟨_, other, -, -, hdefault, hsame⟩ | hlink, hfind⟩
    · have hother := hkept.find?_defaultRole hrows hdefault
      rw [hsame, hfind] at hother
      exact .inl (hother ▸ hdefault)
    · exact .inr ⟨hfind, hlink⟩
  · rintro (hdefault | ⟨hfind, hlink⟩)
    · exact ⟨.inl ⟨profile, role, rfl, rfl, hdefault, rfl⟩,
        hkept.find?_defaultRole hrows hdefault⟩
    · exact ⟨.inr hlink, hfind⟩

variable [SizeLimit]

theorem Call.next_of_admin {call : AdminCall} (hop : c.operation = .admin call) :
    c.next m = ((call.action m.app).runOn c.world).2 := by
  rw [Call.next, hop]
  rfl

theorem Call.mem_userRoles_of_register {request : RegisterRequest}
    (hop : c.operation = .register request) :
    (userId, roleId) ∈ (c.next m).stores.policies.userRoles ↔ c.Gives m userId roleId ∨
      (userId, roleId) ∈ c.world.stores.policies.userRoles ∧ ¬ c.Takes userId roleId := by
  have hkept : ¬ c.Takes userId roleId := by simp [Takes, hop]
  have hassigns : ¬ c.Assigns m userId roleId := by simp [Assigns, hop]
  rw [next_of_register hop, (register_ends m request c.world).mem_userRoles]
  unfold Gives Enrols
  simp [hkept, hassigns, hop]

theorem Call.mem_userRoles_of_admin (h : c.world.stores.policies.RolesKept) {call : AdminCall}
    (hop : c.operation = .admin call) :
    (userId, roleId) ∈ (c.next m).stores.policies.userRoles ↔ c.Gives m userId roleId ∨
      (userId, roleId) ∈ c.world.stores.policies.userRoles ∧ ¬ c.Takes userId roleId := by
  have henrols : ¬ c.Enrols m userId roleId := by simp [Enrols, hop]
  have htakes : ¬ c.Takes userId roleId ↔
      call ≠ .revokeRole userId roleId ∧ call ≠ .deleteRole roleId := by
    simp [Takes, hop]
  rw [next_of_admin hop, htakes]
  cases hchange : call.change c.world.now c.world.stores.policies with
  | error e =>
    have hassigns : ¬ c.Assigns m userId roleId := by
      rintro ⟨hop', hok⟩
      obtain rfl := Operation.admin.inj (hop.symm.trans hop')
      rw [AdminCall.runOn_of_refused hchange] at hok
      cases hok
    rw [AdminCall.runOn_of_refused hchange]
    constructor
    · exact fun hlink => .inr ⟨hlink, AdminCall.ne_of_refused hchange h hlink⟩
    · rintro ((hassigned | henrolled) | ⟨hlink, -⟩)
      · exact absurd hassigned hassigns
      · exact absurd henrolled henrols
      · exact hlink
  | ok done =>
    obtain ⟨_, t⟩ := done
    have hassigns : c.Assigns m userId roleId ↔ call = .assignRole userId roleId := by
      constructor
      · rintro ⟨hop', -⟩
        exact Operation.admin.inj (hop.symm.trans hop')
      · rintro rfl
        exact ⟨hop, congrArg Prod.fst (AdminCall.runOn_assignRole_of_change hchange)⟩
    rw [AdminCall.policies_of_change hchange, AdminCall.mem_userRoles_of_change hchange]
    unfold Gives
    rw [hassigns, or_iff_left henrols]

/-- After a step the users have the roles that it gave, and those they had that it did not take. -/
theorem Call.mem_userRoles_next (h : c.world.stores.policies.RolesKept) :
    (userId, roleId) ∈ (c.next m).stores.policies.userRoles ↔ c.Gives m userId roleId ∨
      (userId, roleId) ∈ c.world.stores.policies.userRoles ∧ ¬ c.Takes userId roleId := by
  by_cases hregister : ∃ request, c.operation = .register request
  · obtain ⟨request, hop⟩ := hregister
    exact mem_userRoles_of_register hop
  by_cases hadmin : ∃ call, c.operation = .admin call
  · obtain ⟨call, hop⟩ := hadmin
    exact mem_userRoles_of_admin h hop
  -- All other steps are not about roles.
  have hgives : ¬ c.Gives m userId roleId := by
    rintro (⟨hop, -⟩ | ⟨request, _, _, hop, -⟩)
    · exact hadmin ⟨_, hop⟩
    · exact hregister ⟨_, hop⟩
  have htakes : ¬ c.Takes userId roleId := by
    rintro (hop | hop) <;> exact hadmin ⟨_, hop⟩
  have hstep := policy_step m c
  generalize (c.next m).stores.policies = t, (c.next m).engine = e at hstep ⊢
  cases hstep with
  | kept => simp [hgives, htakes]
  | administered hop => exact absurd ⟨_, hop⟩ hadmin
  | joined hop => exact absurd ⟨_, hop⟩ hregister

/-- Roles stay in the order of their identifiers. -/
theorem Call.next_rolesAscending (h : c.world.stores.policies.roles.Ascending) :
    (c.next m).stores.policies.roles.Ascending := by
  have hstep := policy_step m c
  generalize (c.next m).stores.policies = t, (c.next m).engine = e at hstep ⊢
  cases hstep with
  | kept => exact h
  | administered _ hchange =>
    rcases AdminCall.of_change hchange with ⟨-, rfl⟩ | ⟨_, _, -, hmade⟩
    · exact h
    · exact hmade.roles_ascending h
  | joined _ hassign =>
    obtain ⟨-, rfl⟩ := PolicyTables.of_assignRole hassign
    exact h

/-- An assignment leaves the accounts alone. -/
theorem Call.Assigns.users (h : c.Assigns m userId roleId) :
    (c.next m).stores.users = c.world.stores.users := by
  rw [next_of_admin h.1]
  exact congrArg World.Accounts.users (AdminCall.leaves_accounts m _ c.world)

theorem Call.Enrols.contains (h : c.Enrols m userId roleId) :
    (c.next m).stores.users.contains userId = true := by
  obtain ⟨request, profile, role, hop, hok, rfl, -, -⟩ := h
  have hends := register_ends m request c.world
  rw [hok] at hends
  rw [next_of_register hop]
  exact hends.of_ok.2.1

/-- Where every role is that of an account, a step keeps it so exactly if it gives no role to
somebody who has none. -/
theorem Call.next_namesUsers_iff (h : c.world.stores.policies.RolesKept)
    (hnames : c.world.stores.NamesUsers) :
    (c.next m).stores.NamesUsers ↔ ∀ userId roleId, c.Assigns m userId roleId →
      c.world.stores.users.contains userId = true := by
  have hgrew := m.step_grew c.world c.operation
  constructor
  · intro hnext userId roleId hassigns
    have hlink := (mem_userRoles_next h).mpr (.inl (.inl hassigns))
    rw [← hassigns.users]
    exact hnext _ hlink
  · rintro hstored ⟨userId, roleId⟩ hlink
    rcases (mem_userRoles_next h).mp hlink with (hassigns | henrols) | ⟨hold, -⟩
    · exact hgrew.kept userId (hstored userId roleId hassigns)
    · exact henrols.contains
    · exact hgrew.kept userId (hnames _ hold)

end Steps

/-! ### Runs -/

section Runs

variable [SizeLimit] {m : MemoryService} {w : World MemoryState} {userId roleId : Int}

/-- After a run the users have the roles that were given to them in its course, and those from
before, as far as they were not taken away later. -/
theorem MemoryService.mem_userRoles_after (h : w.stores.policies.RolesKept)
    (ops : List Operation) :
    (userId, roleId) ∈ (m.after w ops).stores.policies.userRoles ↔
      HeldSince (fun c => c.Gives m userId roleId) (m.calls w ops) userId roleId ∨
        (userId, roleId) ∈ w.stores.policies.userRoles ∧
          ∀ c ∈ m.calls w ops, ¬ c.Takes userId roleId := by
  induction ops generalizing w with
  | nil => simp [MemoryService.after, MemoryService.calls, HeldSince]
  | cons op rest ih =>
    have hstep : (userId, roleId) ∈ (m.step w op).stores.policies.userRoles ↔
        Call.Gives m ⟨w, op⟩ userId roleId ∨
          (userId, roleId) ∈ w.stores.policies.userRoles ∧ ¬ Call.Takes ⟨w, op⟩ userId roleId :=
      Call.mem_userRoles_next (c := ⟨w, op⟩) h
    refine (ih (w := m.step w op) (Call.next_rolesKept (c := ⟨w, op⟩) h)).trans ?_
    rw [MemoryService.calls, heldSince_cons, List.forall_mem_cons, hstep]
    -- What the step gave or left is still there unless the rest of the run takes it.
    tauto

theorem MemoryService.after_rolesAscending (h : w.stores.policies.roles.Ascending)
    (ops : List Operation) : (m.after w ops).stores.policies.roles.Ascending := by
  induction ops generalizing w with
  | nil => exact h
  | cons op rest ih => exact ih (Call.next_rolesAscending (c := ⟨w, op⟩) h)

/-- In all states of a run every role is that of an account, exactly if no call gives a role to
somebody who has none. -/
theorem MemoryService.namesUsers_iff (h : w.stores.policies.RolesKept)
    (hnames : w.stores.NamesUsers) (ops : List Operation) :
    (∀ pre, pre <+: ops → (m.after w pre).stores.NamesUsers) ↔
      ∀ c ∈ m.calls w ops, ∀ userId roleId, c.Assigns m userId roleId →
        c.world.stores.users.contains userId = true := by
  induction ops generalizing w with
  | nil =>
    refine ⟨fun _ => List.forall_mem_nil _, fun _ pre hpre => ?_⟩
    obtain rfl := List.prefix_nil.mp hpre
    exact hnames
  | cons op rest ih =>
    have hstep := Call.next_namesUsers_iff (m := m) (c := ⟨w, op⟩) h hnames
    have hkept : (m.step w op).stores.policies.RolesKept := Call.next_rolesKept (c := ⟨w, op⟩) h
    rw [MemoryService.calls, List.forall_mem_cons, ← hstep]
    constructor
    · intro hall
      have hnext : (m.step w op).stores.NamesUsers := hall [op] (by simp)
      refine ⟨hnext, (ih hkept hnext).mp fun pre hpre => ?_⟩
      exact hall (op :: pre) (List.cons_prefix_cons.mpr ⟨rfl, hpre⟩)
    · rintro ⟨hnext, hrest⟩ pre hpre
      rcases List.prefix_cons_iff.mp hpre with rfl | ⟨pre', rfl, hpre'⟩
      · exact hnames
      · exact (ih hkept hnext).mpr hrest pre' hpre'

/-- Who has no account after a run has the roles that the administration gave them ahead. -/
theorem MemoryService.mem_userRoles_of_unknown (hempty : w.stores.policies = {})
    {ops : List Operation} (hunknown : ¬ (m.after w ops).stores.users.contains userId = true) :
    (userId, roleId) ∈ (m.after w ops).stores.policies.userRoles ↔
      HeldSince (fun c => c.Assigns m userId roleId) (m.calls w ops) userId roleId := by
  have hgives : ∀ c ∈ m.calls w ops, c.Gives m userId roleId ↔ c.Assigns m userId roleId := by
    intro c hc
    refine or_iff_left fun henrols => hunknown ?_
    exact (MemoryService.grew_of_mem_calls hc).kept userId henrols.contains
  rw [MemoryService.mem_userRoles_after (hempty ▸ .empty), heldSince_congr hgives, hempty]
  exact or_iff_left fun h => nomatch h.1

/-- From empty stores on, whatever is done with a service: the roles of a user right after the
registration are the default role, if there is one, and the stored roles that the administration
gave to the identifier before it was anybody's and has not taken back. So where every role is that
of an account, a new user has the default role alone; and that is how it is in all states of a run
exactly if no call gave a role to somebody without an account. -/
theorem registered_roles (m : MemoryService) {w : World MemoryState}
    (hnobody : w.stores.users = {}) (hempty : w.stores.policies = {}) (ops : List Operation) :
    let v := m.after w ops
    (∀ request profile, ((m.app.register request).runOn v).1 = .ok profile →
      let t := ((m.app.register request).runOn v).2.stores.policies
      (∀ role, role ∈ t.rolesOf profile.id ↔ m.defaultRole? v.stores.policies = some role ∨
        v.stores.policies.roles.find? role.id = some role ∧
          HeldSince (fun c => c.Assigns m profile.id role.id) (m.calls w ops)
            profile.id role.id) ∧
      (v.stores.NamesUsers →
        t.rolesOf profile.id = (m.defaultRole? v.stores.policies).toList)) ∧
    ((∀ pre, pre <+: ops → (m.after w pre).stores.NamesUsers) ↔
      ∀ c ∈ m.calls w ops, ∀ userId roleId, c.Assigns m userId roleId →
        c.world.stores.users.contains userId = true) := by
  intro v
  have hkept : v.stores.policies.RolesKept :=
    MemoryService.after_rolesKept (hempty ▸ .empty) ops
  have hrows : v.stores.policies.roles.Ascending :=
    MemoryService.after_rolesAscending (hempty ▸ .nil) ops
  have hfiled : v.stores.Filed := (MemoryService.after_credentials (.of_users hnobody) ops).1.filed
  refine ⟨fun request profile hok => ?_, MemoryService.namesUsers_iff (hempty ▸ .empty) ?_ ops⟩
  · intro t
    have hends := register_ends m request v
    rw [hok] at hends
    have hunknown : ¬ v.stores.users.contains profile.id = true := by
      unfold Table.contains
      rw [hends.of_ok.1, hfiled.find?_nextUserId]
      exact Bool.false_ne_true
    have hkept' : t.RolesKept := Call.next_rolesKept (c := ⟨v, .register request⟩) hkept
    refine ⟨fun role => ?_, fun hnames => hkept'.rolesOf_eq_toList fun role => ?_⟩
    · rw [hends.mem_rolesOf hkept hrows hkept',
        MemoryService.mem_userRoles_of_unknown hempty hunknown]
    · rw [hends.mem_rolesOf hkept hrows hkept']
      exact or_iff_left fun ⟨_, hlink⟩ => hunknown (hnames _ hlink)
  · unfold MemoryState.NamesUsers
    rw [hempty]
    exact List.forall_mem_nil _

end Runs

namespace Sample

def applicant : RegisterRequest := ⟨"Ann", "+10000000001", "ann@example.com", "a-long-password"⟩

def applicantProfile : UserProfile :=
  ⟨1, applicant.name, applicant.phone, applicant.email, none, true, false, "active", .ofSeconds 0⟩

theorem applicant_is_member :
    let v := service.after blank [.admin (.addRole ⟨"member", "", []⟩)]
    ((service.app.register applicant).runOn v).1 = .ok applicantProfile ∧
      (((service.app.register applicant).runOn v).2.stores.policies.rolesOf 1).map (·.name) =
        ["member"] := by
  intro v
  have hok : ((service.app.register applicant).runOn v).1 = .ok applicantProfile := by
    decide +kernel
  obtain ⟨hroles, hnames⟩ :=
    registered_roles service (w := blank) rfl rfl [.admin (.addRole ⟨"member", "", []⟩)]
  have hthroughout := hnames.mpr fun c hc userId roleId hassigns => by
    obtain rfl := List.mem_singleton.mp hc
    cases hassigns.1
  have honly := (hroles applicant applicantProfile hok).2 (hthroughout _ (List.prefix_refl _))
  refine ⟨hok, (congrArg (List.map (·.name)) honly).trans ?_⟩
  decide +kernel

/-- A role is given to the first identifier before it is anybody's, and whoever registers first
has it besides the default role. -/
theorem role_given_ahead :
    let v := service.after blank [.admin (.addRole ⟨"root", "", []⟩),
      .admin (.addRole ⟨"member", "", []⟩), .admin (.assignRole 1 1)]
    v.stores.users = {} ∧
      (service.defaultRole? v.stores.policies).map (·.name) = some "member" ∧
      ((service.app.register applicant).runOn v).1 = .ok applicantProfile ∧
      (((service.app.register applicant).runOn v).2.stores.policies.rolesOf 1).map (·.name) =
        ["root", "member"] := by
  refine ⟨rfl, ?_, ?_, ?_⟩ <;> decide +kernel

end Sample

end Turnstile
