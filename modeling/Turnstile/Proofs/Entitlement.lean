import Turnstile.Proofs.Policy.Plain
import Turnstile.Proofs.Policy.Tables
import Turnstile.Proofs.Token.Bearer

/-!
What a user is told they may do, and what they may do. The permissions of a user are those of all
their roles, but a token names one role only, the first. So after the rules were put in force, a
user who has logged in may do what they are told for the sake of that role.
-/

namespace Turnstile

namespace PolicyTables

/-- The permission is one that users are told of for the sake of the role: the role is linked to
it, or it is the superadmin's. -/
def Tells (t : PolicyTables) (superadminRole : String) (role : Role) (p : Permission) : Prop :=
  p ∈ t.permissions.values ∧ (role.name = superadminRole ∨ (role.id, p.id) ∈ t.rolePermissions)

/-- The permission is linked to the resource, which is one of a service type. -/
def Opens (t : PolicyTables) (serviceType : ServiceType) (p : Permission) (s : Resource) : Prop :=
  ∃ id, t.resources.find? id = some s ∧ s.serviceType = serviceType.text ∧
    (p.id, id) ∈ t.permissionResources

/-- Through a permission that is linked to a role and opens a resource, the rule for the resource
is stored. -/
theorem mem_grants {t : PolicyTables} {serviceType : ServiceType} {role : Role} {p : Permission}
    {s : Resource} (hrole : t.roles.find? role.id = some role)
    (hlink : (role.id, p.id) ∈ t.rolePermissions) (hopens : t.Opens serviceType p s) :
    s.rule serviceType role.name ∈ (t.grants serviceType).map Grant.toRule := by
  obtain ⟨id, hs, htype, hresource⟩ := hopens
  rw [grants_eq_chains, List.mem_filterMap]
  refine ⟨⟨role.id, p.id, id⟩, mem_chains.mpr ⟨hlink, hresource⟩, ?_⟩
  unfold ruleOf?
  dsimp only
  rw [hrole, hs]
  exact if_pos htype

end PolicyTables

section Told

variable {m : MemoryService} {w v : World MemoryState}

/-- The roles of a user decide whose permissions the answer is made of. -/
theorem MemoryService.runOn_userPermissions_eq (m : MemoryService) (w : World MemoryState)
    (userId : Int) :
    (m.app.userPermissions userId).runOn w =
      (.ok (if ∃ role ∈ w.stores.policies.rolesOf userId, role.name = w.engine.superadminRole
        then w.stores.policies.permissions.values else w.stores.policies.permissionsOf userId),
        w) := by
  have hroles : (Action.store (m.app.stores.policies.rolesOf userId)).runOn w =
      (.ok (w.stores.policies.rolesOf userId), w) := Action.runOn_store ..
  unfold App.userPermissions
  rw [Action.runOn_bind_ok hroles, Action.runOn_bind_ok (Action.runOn_engine w)]
  dsimp only
  by_cases hsuper : ∃ role ∈ w.stores.policies.rolesOf userId,
      role.name = w.engine.superadminRole
  · rw [if_pos (by simpa using hsuper), if_pos hsuper]
    exact Action.runOn_store ..
  · rw [if_neg (by simpa using hsuper), if_neg hsuper]
    exact Action.runOn_store ..

/-- The permissions of a user are those that one of their roles makes them told of. -/
theorem MemoryService.runOn_userPermissions (m : MemoryService)
    (h : w.stores.policies.RolesKept) (userId : Int) :
    ∃ permissions, (m.app.userPermissions userId).runOn w = (.ok permissions, w) ∧
      ∀ p, p ∈ permissions ↔ ∃ role ∈ w.stores.policies.rolesOf userId,
        w.stores.policies.Tells w.engine.superadminRole role p := by
  refine ⟨_, m.runOn_userPermissions_eq w userId, fun p => ?_⟩
  unfold PolicyTables.Tells
  split
  · rename_i hsuper
    obtain ⟨role, hrole, hname⟩ := hsuper
    exact ⟨fun hp => ⟨role, hrole, hp, .inl hname⟩, fun ⟨_, _, hp, _⟩ => hp⟩
  · rename_i hsuper
    rw [h.mem_permissionsOf]
    constructor
    · rintro ⟨hp, role, hrole, hlink⟩
      exact ⟨role, hrole, hp, .inr hlink⟩
    · rintro ⟨role, hrole, hp, hname | hlink⟩
      · exact absurd ⟨role, hrole, hname⟩ hsuper
      · exact ⟨hp, role, hrole, hlink⟩

/-! ### Rules in force -/

/-- A call that puts grants in force leaves exactly their rules, and the enforcer for them. -/
theorem AdminCall.of_loads [SizeLimit] {call : AdminCall} {serviceType : ServiceType}
    (hloads : call.loads m.settings.policy = some serviceType)
    (h : (call.action m.app).runOn w = (.ok (), v)) :
    v.engine.InStep ∧
      v.engine.rules = ((v.stores.policies.grants serviceType).map Grant.toRule).eraseDups := by
  have hends := AdminCall.action_ends m w call
  rw [h] at hends
  cases hends with
  | changed _ hnone => cases hnone.symm.trans hloads
  | loaded _ hsome husable =>
    obtain rfl := Option.some.inj (hsome.symm.trans hloads)
    exact ⟨PolicyEngine.inForce_inStep fun r hr => husable r (List.mem_eraseDups.mp hr), rfl⟩

/-- No rule breaks off that is reached before one covers the request. -/
def PolicyEngine.GetsThrough [SizeLimit] (e : PolicyEngine) (role action path : String) : Prop :=
  ∀ pre r post f, e.rules = pre ++ r :: post → (∀ q ∈ pre, q.Passes e.matcher role action path) →
    ¬ r.Breaks e.matcher role action path f

theorem PolicyEngine.InStep.decides_of_getsThrough [SizeLimit] {e : PolicyEngine} (h : e.InStep)
    {role action path : String} (hthrough : e.GetsThrough role action path) :
    ∃ allowed, e.enforce role action path = .ok allowed := by
  cases henforce : e.enforce role action path with
  | ok allowed => exact ⟨allowed, rfl⟩
  | error f =>
    obtain ⟨-, pre, r, post, hrules, hpasses, hbreaks⟩ := h.enforce_error_iff.mp henforce
    exact absurd hbreaks (hthrough pre r post f hrules hpasses)

/-- With the stored grants in force, the role of a user is allowed what it makes the user told
of, if the engine comes to a decision. -/
theorem allowed_of_tells [SizeLimit] {t : PolicyTables} {e : PolicyEngine}
    {serviceType : ServiceType}
    (hinstep : e.InStep) (hrules : e.rules = ((t.grants serviceType).map Grant.toRule).eraseDups)
    {role : Role} {p : Permission} (hrole : t.roles.find? role.id = some role)
    (htells : t.Tells e.superadminRole role p)
    (hname : role.name = e.superadminRole → e.superadminText = e.superadminRole)
    {s : Resource} (hopens : t.Opens serviceType p s) (hs : s.IsPlain) {allowed : Bool}
    (h : e.enforce role.name (serviceType.action s.method) s.path = .ok allowed) :
    allowed = true := by
  rcases htells.2 with hsuper | hlinked
  · rw [hinstep.enforce_eq, if_pos (by rw [hname hsuper, hsuper]; exact beq_self_eq_true _)] at h
    exact (Except.ok.inj h).symm
  · refine hinstep.enforce_of_isPlain hs ?_ h
    rw [hrules, List.mem_eraseDups]
    exact PolicyTables.mem_grants hrole hlinked hopens

/-! ### Users who have logged in -/

/-- What the gate answers to a user in a role, by the route and the rules alone. -/
def Gate.answer [SizeLimit] (m : MemoryService) (e : PolicyEngine) (role : String) (userId : Int)
    (elementId : String) : Except Failure Int :=
  match ElementId.ofText elementId with
  | .error error => .error (.error error)
  | .ok element =>
    match e.enforce role (m.settings.policy.serviceType.action element.method) element.path with
    | .ok true => .ok userId
    | .ok false => .error (.error (.accessDenied userId elementId))
    | .error f => .error (.fault f)

/-- After a login the user is present with the access token, which is issued for the first of their
roles. -/
theorem MemoryService.present_of_login (hkeys : m.keys.Paired)
    (haccess : 0 < m.settings.tokens.accessMinutes) (hfiled : w.stores.Filed)
    (hnow : 0 ≤ w.now.seconds) {request : LoginRequest} {client : Client}
    {response : LoginResponse}
    (hlogin : (m.app.login request client).runOn w = (.ok response, v))
    (huser : Text.minInt64 ≤ response.user.id ∧ response.user.id ≤ Text.maxInt64) :
    v.engine = w.engine ∧ v.stores.policies = w.stores.policies ∧
      ∃ role rest, v.stores.policies.rolesOf response.user.id = role :: rest ∧
        m.app.tokens.issue w.now .access response.sessionId response.user.id role.name =
          .ok response.accessToken ∧
        ∀ bearer, bearer = response.accessToken ∨ bearer = "Bearer " ++ response.accessToken →
          Gate.Present m v bearer (m.app.tokens.issuedClaims w.now .access response.sessionId
            response.user.id role.name) response.user.id := by
  obtain ⟨user, s, role, rest, pair, hnamed, hact, hrun, hroles, hpair, rfl, hv⟩ :=
    MemoryService.of_runOn_login hlogin
  have hcompared := Lockout.compared_of_runOn hrun
  rcases m.app.tokens.issuePair_ends w.now (m.sessionIdAt w.drawn) user.id role.name with
    ⟨accessToken, refreshToken, hissue, -, hissued⟩ | ⟨_, _, -, hissued⟩
  · obtain rfl := Except.ok.inj (hpair.symm.trans hissued)
    have haccepted := TokenIssuer.of_verifyKind
      (TokenIssuer.verifyKind_of_issue hkeys hnow (Int.mul_pos haccess (by decide)) hissue)
    have hsession : v.stores.OwnsSession (m.sessionIdAt w.drawn) user.id := by
      rw [hv]
      exact ⟨_, (Table.find?_put ..).trans (if_pos rfl), rfl⟩
    have hactive : v.stores.HasActive user.id := by
      refine ⟨user, ?_, hact⟩
      rw [← hfiled.find?_of_named hnamed, hv]
      rcases hcompared.users with ⟨-, husers⟩ | ⟨herror, -⟩
      · exact congrArg (·.find? user.id) husers
      · cases herror
    refine ⟨by rw [hv], ?_, role, rest, ?_, hissue, fun bearer hbearer => ?_⟩
    · rw [hv]
      exact hcompared.policies
    · rw [hv]
      exact hroles
    · refine ⟨⟨?_, Text.readInt64_toString huser.1 huser.2⟩, hsession, hactive⟩
      unfold Gate.TokenAccepted
      rw [TokenIssuer.bearerToken_of_issue hissue hbearer, hv]
      exact haccepted
  · rw [hissued] at hpair
    cases hpair

/-- After a login nothing but the route and the rules decides what the user may do, and the rules
are asked for the first role of the user. -/
theorem MemoryService.runOn_authorize_of_login [SizeLimit] (hkeys : m.keys.Paired)
    (haccess : 0 < m.settings.tokens.accessMinutes) (hfiled : w.stores.Filed)
    (hnow : 0 ≤ w.now.seconds) {request : LoginRequest} {client : Client} {response : LoginResponse}
    (hlogin : (m.app.login request client).runOn w = (.ok response, v))
    (huser : Text.minInt64 ≤ response.user.id ∧ response.user.id ≤ Text.maxInt64) :
    v.engine = w.engine ∧ v.stores.policies = w.stores.policies ∧
      ∃ role rest, v.stores.policies.rolesOf response.user.id = role :: rest ∧
        ∀ bearer elementId,
          bearer = response.accessToken ∨ bearer = "Bearer " ++ response.accessToken →
          (m.app.authorize bearer elementId).runOn v =
            (Gate.answer m v.engine role.name response.user.id elementId, v) := by
  obtain ⟨hengine, hpolicies, role, rest, hroles, -, hpresent⟩ :=
    MemoryService.present_of_login hkeys haccess hfiled hnow hlogin huser
  exact ⟨hengine, hpolicies, role, rest, hroles, fun bearer _ hbearer =>
    Gate.runOn_authorize_of_present (hpresent bearer hbearer)⟩

/-- Right after the rules were put in force, a user who logs in is told of permissions, each for
the sake of one of their roles. What they are told of for the sake of the first role, they may
do: with the token of the login the gate lets them to every plain resource of the service that
such a permission is linked to. Paths have to be compared as a whole or up to a star, or else no
rule may break off before one covers the request. The role of the superadmin counts here if it is
compared under its own name. -/
theorem told_is_allowed [SizeLimit] (m : MemoryService) (hkeys : m.keys.Paired)
    (haccess : 0 < m.settings.tokens.accessMinutes) {matcher : PathMatcher} {w : World MemoryState}
    (hnew : PolicyEngine.new m.settings.policy.superadminRole matcher = .ok w.engine)
    (hfiled : w.stores.Filed) (hkept : w.stores.policies.RolesKept) (ops : List Operation)
    {call : AdminCall} (hloads : call.loads m.settings.policy = some m.settings.policy.serviceType)
    {v : World MemoryState} (hcall : (call.action m.app).runOn (m.after w ops) = (.ok (), v))
    {now : Instant} (hnow : 0 ≤ now.seconds) {request : LoginRequest} {client : Client}
    {response : LoginResponse} {u : World MemoryState}
    (hlogin : (m.app.login request client).runOn { v with now := now } = (.ok response, u))
    (huser : Text.minInt64 ≤ response.user.id ∧ response.user.id ≤ Text.maxInt64) :
    ∃ role rest permissions,
      u.stores.policies.rolesOf response.user.id = role :: rest ∧ (∀ r ∈ rest, role.id < r.id) ∧
      (m.app.userPermissions response.user.id).runOn u = (.ok permissions, u) ∧
      (∀ p, p ∈ permissions ↔ ∃ r ∈ role :: rest,
        u.stores.policies.Tells m.settings.policy.superadminRole r p) ∧
      ∀ p s, u.stores.policies.Tells m.settings.policy.superadminRole role p →
        u.stores.policies.Opens m.settings.policy.serviceType p s → s.IsPlain →
        (role.name = m.settings.policy.superadminRole →
          Superadmin.comparedText? m.settings.policy.superadminRole =
            some m.settings.policy.superadminRole) →
        (matcher = .star ∨ matcher = .exact ∨ u.engine.GetsThrough role.name
          (m.settings.policy.serviceType.action s.method) s.path) →
        ∀ bearer, bearer = response.accessToken ∨ bearer = "Bearer " ++ response.accessToken →
          (m.app.authorize bearer s.element.text).runOn u = (.ok response.user.id, u) := by
  -- What every run keeps holds after the call as well.
  have hrun : m.after w (ops ++ [.admin call]) = v := MemoryService.after_admin hcall
  have hfiled' : v.stores.Filed := hrun ▸ MemoryService.after_filed hfiled _
  have hkept' : v.stores.policies.RolesKept := hrun ▸ MemoryService.after_rolesKept hkept _
  have hkind : w.engine.SameKind v.engine := hrun ▸ MemoryService.after_sameKind _
  obtain ⟨hinstep, hrules⟩ := AdminCall.of_loads hloads hcall
  obtain ⟨hengine, hpolicies, role, rest, hroles, hanswers⟩ :=
    MemoryService.runOn_authorize_of_login (w := { v with now := now }) hkeys haccess hfiled' hnow
      hlogin huser
  dsimp only at hengine hpolicies
  rw [← hengine] at hkind hinstep hrules
  rw [← hpolicies] at hkept' hrules
  obtain ⟨s, hname, hbare⟩ := PolicyEngine.of_new hnew
  have hsame : u.engine.superadmin = s := by rw [hkind.superadmin, hbare]; rfl
  have hmatcher : u.engine.matcher = matcher := by rw [hkind.matcher, hbare]; rfl
  have hsuper : u.engine.superadminRole = m.settings.policy.superadminRole :=
    (congrArg Superadmin.role hsame).trans hname
  obtain ⟨permissions, hpermissions, hmem⟩ :=
    MemoryService.runOn_userPermissions m hkept' response.user.id
  have hrole : role ∈ u.stores.policies.rolesOf response.user.id := by
    rw [hroles]
    exact List.mem_cons_self
  have hordered := hkept'.rolesOf_ascending response.user.id
  rw [hroles] at hordered hmem
  rw [hsuper] at hmem
  refine ⟨role, rest, permissions, hroles, (List.pairwise_cons.mp hordered).1, hpermissions,
    hmem, fun p s htells hopens hs hcompared hdecides bearer hbearer => ?_⟩
  obtain ⟨allowed, hallowed⟩ : ∃ allowed, u.engine.enforce role.name
      (m.settings.policy.serviceType.action s.method) s.path = .ok allowed := by
    have hascii : ∀ c ∈ s.path.toList, c.toNat < 128 := fun c hc => (hs.path c hc).lt
    rcases hdecides with rfl | rfl | hdecides
    · exact hinstep.decides (.inr (.inl ⟨hmatcher, hascii⟩))
    · exact hinstep.decides (.inl (hmatcher))
    · exact hinstep.decides_of_getsThrough hdecides
  have hliteral : role.name = u.engine.superadminRole →
      u.engine.superadminText = u.engine.superadminRole := by
    intro heq
    have hown := u.engine.superadmin.compared
    change Superadmin.comparedText? u.engine.superadminRole = some u.engine.superadminText at hown
    rw [hsuper, hcompared (heq.trans hsuper)] at hown
    rw [hsuper, Option.some.inj hown]
  obtain rfl := allowed_of_tells hinstep hrules (hkept'.mem_rolesOf.mp hrole).2 (hsuper ▸ htells)
    hliteral hopens hs hallowed
  rw [hanswers bearer _ hbearer]
  unfold Gate.answer
  rw [ElementId.ofText_of_divides hs.divides]
  dsimp only
  rw [show u.engine.enforce role.name
    (m.settings.policy.serviceType.action s.element.method) s.element.path = .ok true
    from hallowed]

end Told

/-! ### Ann and her roles -/

namespace Sample

def ann : RegisterRequest := ⟨"Ann", "+10000000001", "ann@example.com", "password"⟩

/-- The service is started with nothing stored. After some operations the rules are put in force,
and Ann logs in a minute later. -/
def afterLogin (m : MemoryService) (matcher : PathMatcher) (ops : List Operation) :
    Except Failure (LoginResponse × World MemoryState) :=
  match PolicyEngine.new m.settings.policy.superadminRole matcher with
  | .error e => .error (.error e)
  | .ok engine =>
    match (AdminCall.reload.action m.app).runOn (m.after { blank with engine := engine } ops) with
    | (.error f, _) => .error f
    | (.ok _, v) =>
      match (m.app.login ⟨ann.phone, ann.password⟩ ⟨"127.0.0.1", "agent"⟩).runOn
          { v with now := .ofSeconds 60 } with
      | (.error f, _) => .error f
      | (.ok response, u) => .ok (response, u)

section AfterLogin

variable {m : MemoryService} {matcher : PathMatcher} {ops : List Operation}

theorem of_afterLogin {a : LoginResponse × World MemoryState}
    (h : afterLogin m matcher ops = .ok a) :
    ∃ engine v, PolicyEngine.new m.settings.policy.superadminRole matcher = .ok engine ∧
      (AdminCall.reload.action m.app).runOn (m.after { blank with engine := engine } ops) =
        (.ok (), v) ∧
      (m.app.login ⟨ann.phone, ann.password⟩ ⟨"127.0.0.1", "agent"⟩).runOn
        { v with now := .ofSeconds 60 } = (.ok a.1, a.2) := by
  unfold afterLogin at h
  split at h
  · cases h
  · rename_i engine hnew
    split at h
    · cases h
    · rename_i v hreload
      split at h
      · cases h
      · rename_i response u hlogin
        cases h
        exact ⟨engine, v, hnew, hreload, hlogin⟩

theorem blank_filed : blank.stores.Filed := ⟨fun _ h => absurd h List.not_mem_nil, .nil⟩

theorem blank_rolesKept : blank.stores.policies.RolesKept where
  keyed _ _ h := absurd h (Option.some_ne_none _).symm
  held _ h := absurd h List.not_mem_nil
  ascending := .nil

/-- Ann is present with her access token. -/
theorem present_of_afterLogin (hkeys : m.keys.Paired)
    (haccess : 0 < m.settings.tokens.accessMinutes) {response : LoginResponse}
    {u : World MemoryState} (h : afterLogin m matcher ops = .ok (response, u))
    (huser : response.user.id = 1) :
    ∃ role rest, u.stores.policies.rolesOf 1 = role :: rest ∧
      m.app.tokens.issue (.ofSeconds 60) .access response.sessionId 1 role.name =
        .ok response.accessToken ∧
      ∀ bearer, bearer = response.accessToken ∨ bearer = "Bearer " ++ response.accessToken →
        Gate.Present m u bearer (m.app.tokens.issuedClaims (.ofSeconds 60) .access
          response.sessionId 1 role.name) 1 := by
  obtain ⟨engine, v, -, hreload, hlogin⟩ := of_afterLogin h
  have hfiled : v.stores.Filed := by
    rw [← MemoryService.after_admin hreload]
    exact MemoryService.after_filed (w := { blank with engine := engine }) blank_filed _
  have hnow : 0 ≤ (Instant.ofSeconds 60).seconds := by decide
  obtain ⟨-, -, hpresent⟩ := MemoryService.present_of_login hkeys haccess
    (w := { v with now := .ofSeconds 60 }) hfiled hnow hlogin (by rw [huser]; decide)
  rwa [huser] at hpresent

theorem exists_of_any {α : Type} {x : Except Failure α} {p : α → Bool}
    (h : x.toOption.any p = true) : ∃ a, x = .ok a ∧ p a = true := by
  cases x with
  | error f => cases h
  | ok a => exact ⟨a, rfl, h⟩

end AfterLogin

/-- Ann is registered as a member, and members may read the files. -/
def memberReads : List Operation :=
  [.admin (.addResource ⟨"", "", .http, "GET", "/files"⟩),
    .admin (.addPermission ⟨"read", "", [1]⟩), .admin (.addRole ⟨"member", "", [2]⟩),
    .register ann]

def member (id : Int) : Role := ⟨id, "member", "", .ofSeconds 0, .ofSeconds 0⟩

def read (id : Int) : Permission := ⟨id, "read", "", .ofSeconds 0, .ofSeconds 0⟩

def resource (id : Int) (method path : String) : Resource :=
  ⟨id, "", "", "http", method, path, .ofSeconds 0, .ofSeconds 0⟩

theorem files_isPlain (id : Int) : (resource id "GET" "/files").IsPlain :=
  ⟨by simp [resource], by simp [resource], by simp [resource, PathMatcher.IsPlain],
    by simp [resource]⟩

/-- Ann may read the files, as she is told. -/
theorem member_is_allowed :
    ∃ response u, afterLogin service .exact memberReads = .ok (response, u) ∧
      (service.app.authorize response.accessToken "GET|/files").runOn u = (.ok 1, u) := by
  obtain ⟨⟨response, u⟩, hafter, hseen⟩ := exists_of_any
    (x := afterLogin service .exact memberReads)
    (p := fun a => decide (a.1.user.id = 1 ∧ a.2.stores.policies.rolesOf 1 = [member 3] ∧
      read 2 ∈ a.2.stores.policies.permissions.values ∧
      (3, 2) ∈ a.2.stores.policies.rolePermissions ∧
      a.2.stores.policies.resources.find? 1 = some (resource 1 "GET" "/files") ∧
      (2, 1) ∈ a.2.stores.policies.permissionResources)) (by decide +kernel)
  obtain ⟨huser, hmember, hread, hlinked, hfiles, hopens⟩ := of_decide_eq_true hseen
  obtain ⟨engine, v, hnew, hreload, hlogin⟩ := of_afterLogin hafter
  have hkeys : service.keys.Paired := fun message => ⟨[], rfl, rfl⟩
  dsimp only at huser hmember hread hlinked hfiles hopens hlogin
  obtain ⟨role, rest, permissions, hroles, -, -, -, hallowed⟩ :=
    told_is_allowed service hkeys (by decide) (w := { blank with engine := engine }) hnew
      blank_filed blank_rolesKept memberReads rfl hreload (by decide) hlogin
      (by rw [huser]; decide)
  rw [huser, hmember] at hroles
  obtain ⟨rfl, rfl⟩ := List.cons.inj hroles
  have hanswer := hallowed (read 2) (resource 1 "GET" "/files") ⟨hread, .inr hlinked⟩
    ⟨1, hfiles, rfl, hopens⟩ (files_isPlain 1) (fun h => absurd h (by decide)) (.inr (.inl rfl))
    response.accessToken (.inl rfl)
  rw [huser] at hanswer
  exact ⟨response, u, hafter, hanswer⟩

/-- Ann is told of a permission for a resource of the service whose method and path hold nothing
with a meaning of its own, and is not let to it. -/
def ToldButRefused (m : MemoryService) (matcher : PathMatcher) (ops : List Operation) : Prop :=
  ∃ response u permissions p s f, afterLogin m matcher ops = .ok (response, u) ∧
    ((m.app.userPermissions response.user.id).runOn u).1 = .ok permissions ∧ p ∈ permissions ∧
    u.stores.policies.Opens m.settings.policy.serviceType p s ∧
    (∀ c ∈ s.method.toList, c.isAlphanum = true) ∧ (∀ c ∈ s.path.toList, PathMatcher.IsPlain c) ∧
    (m.app.authorize response.accessToken s.element.text).runOn u = (.error f, u)

/-- What the tables and the rules show after Ann has logged in: the one permission that she is told
of, a resource that it opens, and the answer for her first role. -/
def shows (m : MemoryService) (p : Permission) (s : Resource) (answer : Except Failure Int)
    (a : LoginResponse × World MemoryState) : Bool :=
  let t := a.2.stores.policies
  a.1.user.id = 1 ∧ ((m.app.userPermissions 1).runOn a.2).1 = .ok [p] ∧
    t.resources.find? s.id = some s ∧ s.serviceType = m.settings.policy.serviceType.text ∧
    (p.id, s.id) ∈ t.permissionResources ∧
    (t.rolesOf 1).head?.map (fun role => Gate.answer m a.2.engine role.name 1 s.element.text) =
      some answer

theorem toldButRefused_of_shows {m : MemoryService} {matcher : PathMatcher} {ops : List Operation}
    (hkeys : m.keys.Paired) (haccess : 0 < m.settings.tokens.accessMinutes) {p : Permission}
    {s : Resource} {f : Failure} (hmethod : ∀ c ∈ s.method.toList, c.isAlphanum = true)
    (hpath : ∀ c ∈ s.path.toList, PathMatcher.IsPlain c)
    (h : (afterLogin m matcher ops).toOption.any (shows m p s (.error f)) = true) :
    ToldButRefused m matcher ops := by
  obtain ⟨⟨response, u⟩, hafter, hshows⟩ := exists_of_any h
  obtain ⟨huser, htold, hfind, htype, hlink, hanswer⟩ := of_decide_eq_true hshows
  dsimp only at huser htold hfind hlink hanswer
  obtain ⟨role, rest, hroles, -, hpresent⟩ := present_of_afterLogin hkeys haccess hafter huser
  rw [hroles] at hanswer
  refine ⟨response, u, [p], p, s, f, hafter, by rw [huser]; exact htold, List.mem_singleton_self p,
    ⟨s.id, hfind, htype, hlink⟩, hmethod, hpath, ?_⟩
  rw [Gate.runOn_authorize_of_present (hpresent _ (.inl rfl))]
  exact congrArg (·, u) (Option.some.inj hanswer)

/-- Ann is registered as a member. Then she becomes a reader as well, and readers may read the
files. -/
def readerReads : List Operation :=
  [.admin (.addRole ⟨"member", "", []⟩), .register ann,
    .admin (.addResource ⟨"", "", .http, "GET", "/files"⟩),
    .admin (.addPermission ⟨"read", "", [2]⟩), .admin (.addRole ⟨"reader", "", [3]⟩),
    .admin (.assignRole 1 4)]

/-- The service with another name for the role of the superadmin. -/
def serviceOf (superadminRole : String) : MemoryService :=
  { service with settings := { service.settings with
      policy := { superadminRole := superadminRole } } }

/-- Ann has the role of the superadmin, and nobody is linked to the permission. -/
def rootReads : List Operation :=
  [.admin (.addResource ⟨"", "", .http, "GET", "/files"⟩),
    .admin (.addPermission ⟨"read", "", [1]⟩), .admin (.addRole ⟨"member", "", []⟩),
    .register ann, .admin (.updateRole 3 ⟨"r.root", "", []⟩)]

/-- Members may read the files, and something else whose path takes a parenthesis along. -/
def memberReadsMore : List Operation :=
  [.admin (.addResource ⟨"", "", .http, "GET", "/(:id)"⟩),
    .admin (.addResource ⟨"", "", .http, "GET", "/files"⟩),
    .admin (.addPermission ⟨"read", "", [1, 2]⟩), .admin (.addRole ⟨"member", "", [3]⟩),
    .register ann]

/-- The method is blank when it is asked for, and empty when it is stored. -/
def memberReadsNothing : List Operation :=
  [.admin (.addResource ⟨"", "", .http, " ", "/files"⟩), .admin (.addPermission ⟨"read", "", [1]⟩),
    .admin (.addRole ⟨"member", "", [2]⟩), .register ann]

/-- What users are told of they may not do always: not for the sake of another role than the first,
nor as a superadmin whose name is changed before it is compared, nor behind a rule that breaks
off, nor without a method. -/
theorem told_but_refused :
    ToldButRefused service .exact readerReads ∧
      ToldButRefused (serviceOf "r.root") .exact rootReads ∧
      ToldButRefused service .colon memberReadsMore ∧
      ToldButRefused service .exact memberReadsNothing := by
  have hkeys : service.keys.Paired := fun message => ⟨[], rfl, rfl⟩
  have hfiles (id : Int) := files_isPlain id
  refine ⟨?_, ?_, ?_, ?_⟩
  · exact toldButRefused_of_shows (p := read 3) (f := .error (.accessDenied 1 "GET|/files")) hkeys
      (by decide) (hfiles 2).method (hfiles 2).path (by decide +kernel)
  · exact toldButRefused_of_shows (p := read 2) (f := .error (.accessDenied 1 "GET|/files")) hkeys
      (by decide) (hfiles 1).method (hfiles 1).path (by decide +kernel)
  · exact toldButRefused_of_shows (p := read 3) (f := .fault .patternUnusable) hkeys
      (by decide) (hfiles 2).method (hfiles 2).path (by decide +kernel)
  · exact toldButRefused_of_shows (p := read 2) (s := resource 1 "" "/files")
      (f := .error (.invalidElementId "|/files")) hkeys (by decide)
      (fun _ h => absurd h List.not_mem_nil) (hfiles 1).path (by decide +kernel)

end Sample

end Turnstile
