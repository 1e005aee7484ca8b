import Turnstile.Proofs.Entitlement
import Turnstile.Proofs.FirstLogin
import Turnstile.Proofs.Login.Renewal
import Turnstile.Proofs.Policy.GrantOrder

/-!
Which of the roles of a user the tokens tell. A login and a refresh take the first role that the
tables give, and these keep the roles of a user by their identifiers. So it is the role that was
created first, and the one that was given first only as long as roles are given in the order of
their creation.
-/

namespace Turnstile

/-- The service answers a login or a refresh with the response. -/
def MemoryService.Answers (m : MemoryService) (w : World MemoryState)
    (response : LoginResponse) : Prop :=
  ∃ client v, (∃ request, (m.app.login request client).runOn w = (.ok response, v)) ∨
    ∃ request, (m.app.refresh request client).runOn w = (.ok response, v)

/-- Both tokens tell that the user is in the role. -/
def LoginResponse.Tells (response : LoginResponse) (m : MemoryService) (now : Instant)
    (role : String) : Prop :=
  ∀ kind, CompactToken.content (response.pair.token kind) =
    .ok (m.app.tokens.issuedClaims now kind response.sessionId response.user.id role)

section Answers

variable {m : MemoryService} {w : World MemoryState} {response : LoginResponse}

theorem LoginResponse.tells_of_issuePair {sessionId role : String} {pair : TokenPair} {user : User}
    (h : m.app.tokens.issuePair w.now sessionId user.id role = .ok pair) :
    (m.app.loginResponse pair user).Tells m w.now role := by
  intro kind
  have hid : (m.app.loginResponse pair user).sessionId = sessionId :=
    TokenIssuer.issuePair_sessionId h
  rw [hid]
  exact TokenIssuer.content_of_issuePair h kind

/-- The tokens tell the first of the roles that the user has at that time. -/
theorem MemoryService.Answers.tells (h : m.Answers w response) (hfiled : w.stores.Filed) :
    ∃ role rest, w.stores.policies.rolesOf response.user.id = role :: rest ∧
      response.Tells m w.now role.name := by
  obtain ⟨client, v, ⟨request, hlogin⟩ | ⟨request, hrefresh⟩⟩ := h
  · obtain ⟨user, s, role, rest, pair, -, -, hrun, hroles, hpair, rfl, -⟩ :=
      MemoryService.of_runOn_login hlogin
    -- The comparison of the password does not touch the tables of the policies.
    rw [(Lockout.compared_of_runOn hrun).policies] at hroles
    exact ⟨role, rest, hroles, LoginResponse.tells_of_issuePair hpair⟩
  · obtain ⟨userId, session, user, role, pair, hrenewable, hpair, rfl, -⟩ :=
      MemoryService.of_runOn_refresh hrefresh
    obtain rfl : user.id = userId := hfiled.keyed _ (Table.mem_of_find? hrenewable.found)
    obtain ⟨rest, hroles⟩ := List.head?_eq_some_iff.mp hrenewable.role
    exact ⟨role, rest, hroles, LoginResponse.tells_of_issuePair hpair⟩

end Answers

/-- The first role of a user is the one with the lowest identifier. -/
theorem PolicyTables.RolesKept.head_rolesOf {t : PolicyTables} (h : t.RolesKept) {userId : Int}
    {role : Role} {rest : List Role} (hroles : t.rolesOf userId = role :: rest) :
    t.roles.find? role.id = some role ∧ (userId, role.id) ∈ t.userRoles ∧
      ∀ other, (userId, other) ∈ t.userRoles → role.id ≤ other := by
  have hfirst : role ∈ t.rolesOf userId := by
    rw [hroles]
    exact List.mem_cons_self
  obtain ⟨hlink, hfind⟩ := h.mem_rolesOf.mp hfirst
  refine ⟨hfind, hlink, fun other hother => ?_⟩
  have hordered := h.rolesOf_ascending userId
  obtain ⟨second, hsecond⟩ := Option.isSome_iff_exists.mp (h.held _ hother)
  obtain rfl := h.keyed _ _ hsecond
  have hmem : second ∈ t.rolesOf userId := h.mem_rolesOf.mpr ⟨hother, hsecond⟩
  rw [hroles] at hordered hmem
  rcases List.mem_cons.mp hmem with rfl | hrest
  · exact Int.le_refl _
  · exact Int.le_of_lt ((List.pairwise_cons.mp hordered).1 _ hrest)

/-- From empty stores on, whatever is done with a service: a user has the roles that were given to
them and not taken since, each from one call on. A login or a refresh tells the current name of
the one among them that was created first. It is the one that was given first if the roles of the
user were given in the order of their creation, and so it is throughout a run exactly if every call
that gives the user a role gives one that was created after all that they have. -/
theorem token_role_lowest [SizeLimit] (m : MemoryService) {w : World MemoryState}
    (hnobody : w.stores.users = {}) (hempty : w.stores.policies = {}) (ops : List Operation) :
    let v := m.after w ops
    let history := m.calls w ops
    (∀ userId roleId, (userId, roleId) ∈ v.stores.policies.userRoles ↔
      ∃! place, HeldFrom m history userId roleId place) ∧
    (∀ response, m.Answers v response →
      ∃ role, v.stores.policies.roles.find? role.id = some role ∧
        response.Tells m v.now role.name ∧
        (∃ place, HeldFrom m history response.user.id role.id place) ∧
        (∀ other place, HeldFrom m history response.user.id other place → role.id ≤ other) ∧
        (GrantedInOrder m history response.user.id →
          Earliest m history response.user.id role.id)) ∧
    ∀ userId, (∀ pre, pre <+: ops → GrantedInOrder m (m.calls w pre) userId) ↔
      ∀ c ∈ history, c.GivesUpwards m userId := by
  intro v history
  have hkept : v.stores.policies.RolesKept :=
    MemoryService.after_rolesKept (hempty ▸ .empty) ops
  have hfiled : v.stores.Filed := (MemoryService.after_credentials (.of_users hnobody) ops).1.filed
  have hheld {userId roleId : Int} : (userId, roleId) ∈ v.stores.policies.userRoles ↔
      ∃ place, HeldFrom m history userId roleId place :=
    MemoryService.mem_userRoles_iff_heldFrom hempty ops
  refine ⟨fun userId roleId => ?_, fun response hanswers => ?_,
    MemoryService.grantedInOrder_iff hempty ops⟩
  · rw [hheld]
    refine ⟨fun ⟨place, hplace⟩ => ⟨place, hplace, fun other hother => ?_⟩, ExistsUnique.exists⟩
    exact MemoryService.heldFrom_unique hempty hplace hother
  · obtain ⟨role, rest, hroles, htells⟩ := hanswers.tells hfiled
    obtain ⟨hfind, hlink, hlowest⟩ := hkept.head_rolesOf hroles
    obtain ⟨place, hplace⟩ := hheld.mp hlink
    have hbelow : ∀ other later, HeldFrom m history response.user.id other later →
        role.id ≤ other := fun other later hlater => hlowest other (hheld.mpr ⟨later, hlater⟩)
    refine ⟨role, hfind, htells, ⟨place, hplace⟩, hbelow, fun horder => ?_⟩
    refine ⟨place, hplace, fun other later hlater => ?_⟩
    rcases Int.lt_or_eq_of_le (hbelow other later hlater) with hlt | rfl
    · exact Nat.le_of_lt (horder _ _ _ _ hplace hlater hlt)
    · exact Nat.le_of_eq (MemoryService.heldFrom_unique hempty hlater hplace)

namespace Sample

/-- There are two roles, and Ann who has none yet. -/
def twoRoles : List Operation :=
  [.admin (.addRole ⟨"first", "", []⟩), .admin (.addRole ⟨"second", "", []⟩), .register ann]

/-- Ann is given one role, and then another one. -/
def given (roleId roleId' : Int) : List Operation :=
  twoRoles ++ [.admin (.assignRole 1 roleId)] ++ [.admin (.assignRole 1 roleId')]

/-- Ann has both roles, from the two last calls on. -/
theorem heldFrom_given {a b roleId : Int} {place : Nat} (h : a = 1 ∧ b = 2 ∨ a = 2 ∧ b = 1) :
    HeldFrom service (service.calls blank (given a b)) 1 roleId place ↔
      place = 3 ∧ roleId = a ∨ place = 4 ∧ roleId = b := by
  let v := service.after blank twoRoles
  let u := service.after blank (twoRoles ++ [.admin (.assignRole 1 a)])
  have hnobody : v.stores.policies.userRoles = [] := by decide +kernel
  have hone : u.stores.policies.userRoles = [(1, a)] := by
    rcases h with ⟨rfl, rfl⟩ | ⟨rfl, rfl⟩ <;> decide +kernel
  have hfirst : Call.Assigns service ⟨v, .admin (.assignRole 1 a)⟩ 1 a := by
    refine ⟨rfl, ?_⟩
    rcases h with ⟨rfl, rfl⟩ | ⟨rfl, rfl⟩ <;> decide +kernel
  have hsecond : Call.Assigns service ⟨u, .admin (.assignRole 1 b)⟩ 1 b := by
    refine ⟨rfl, ?_⟩
    rcases h with ⟨rfl, rfl⟩ | ⟨rfl, rfl⟩ <;> decide +kernel
  have hnone : ¬ HeldFrom service (service.calls blank twoRoles) 1 roleId place := fun hheld => by
    have hlink : (1, roleId) ∈ v.stores.policies.userRoles :=
      (MemoryService.mem_userRoles_iff_heldFrom rfl twoRoles).mpr ⟨place, hheld⟩
    rw [hnobody] at hlink
    cases hlink
  unfold given
  rw [MemoryService.calls_concat, hsecond.heldFrom_concat, MemoryService.calls_concat,
    hfirst.heldFrom_concat, hnobody, hone]
  have hthree : (service.calls blank twoRoles).length = 3 := rfl
  rw [List.length_append, hthree]
  constructor
  · rintro ((hold | ⟨hplace, hrole, -⟩) | ⟨hplace, hrole, -⟩)
    · exact absurd hold hnone
    · exact .inl ⟨hplace, hrole⟩
    · exact .inr ⟨hplace, hrole⟩
  · rintro (⟨hplace, rfl⟩ | ⟨hplace, rfl⟩)
    · exact .inl (.inr ⟨hplace, rfl, List.not_mem_nil⟩)
    · refine .inr ⟨hplace, rfl, fun hmem => ?_⟩
      obtain ⟨-, hsame⟩ := Prod.mk.inj (List.mem_singleton.mp hmem)
      omega

/-- Ann logs in after she was given the roles. -/
def loginGiven (a b : Int) : Except Failure LoginResponse :=
  ((service.app.login ⟨ann.phone, ann.password⟩ client).runOn
    (service.after blank (given a b))).1

theorem answers_of_loginGiven {a b : Int} {response : LoginResponse}
    (h : loginGiven a b = .ok response) :
    service.Answers (service.after blank (given a b)) response :=
  ⟨client, _, .inl ⟨_, Prod.ext h rfl⟩⟩

theorem loginGiven_ends {a b : Int} (h : a = 1 ∧ b = 2 ∨ a = 2 ∧ b = 1) :
    ∃ response, loginGiven a b = .ok response ∧ response.user.id = 1 := by
  have hany : (loginGiven a b).toOption.any (fun response => decide (response.user.id = 1)) =
      true := by
    rcases h with ⟨rfl, rfl⟩ | ⟨rfl, rfl⟩ <;> decide +kernel
  obtain ⟨response, hok, huser⟩ := exists_of_any hany
  exact ⟨response, hok, of_decide_eq_true huser⟩

/-- Ann is given the roles in the order in which they were created, and her tokens tell the one
that she was given first. -/
theorem first_role_told :
    ∃ response, loginGiven 1 2 = .ok response ∧
      response.Tells service (.ofSeconds 0) "first" ∧
      Earliest service (service.calls blank (given 1 2)) 1 1 := by
  obtain ⟨response, hok, huser⟩ := loginGiven_ends (a := 1) (b := 2) (by decide)
  have hheld {roleId : Int} {place : Nat} :
      HeldFrom service (service.calls blank (given 1 2)) 1 roleId place ↔
        place = 3 ∧ roleId = 1 ∨ place = 4 ∧ roleId = 2 := heldFrom_given (.inl ⟨rfl, rfl⟩)
  have horder : GrantedInOrder service (service.calls blank (given 1 2)) 1 := by
    intro roleId roleId' place place' h h' hlt
    rw [hheld] at h h'
    omega
  obtain ⟨-, htold, -⟩ := token_role_lowest service (w := blank) rfl rfl (given 1 2)
  obtain ⟨role, hfind, htells, ⟨place, hplace⟩, hlowest, hearliest⟩ :=
    htold response (answers_of_loginGiven hok)
  rw [huser] at hplace hlowest hearliest
  have hid : role.id = 1 := by
    have hle := hlowest 1 3 (hheld.mpr (.inl ⟨rfl, rfl⟩))
    rw [hheld] at hplace
    omega
  rw [hid] at hfind hearliest
  have hname : role.name = "first" := by
    have hfirst : (service.after blank (given 1 2)).stores.policies.roles.find? 1 =
        some ⟨1, "first", "", .ofSeconds 0, .ofSeconds 0⟩ := by decide +kernel
    obtain rfl := Option.some.inj (hfind.symm.trans hfirst)
    rfl
  exact ⟨response, hok, hname ▸ htells, hearliest horder⟩

/-- Ann is given the second role first, and her tokens tell the other one. -/
theorem later_role_told :
    ∃ response, loginGiven 2 1 = .ok response ∧
      response.Tells service (.ofSeconds 0) "first" ∧
      Earliest service (service.calls blank (given 2 1)) 1 2 ∧
      ((service.after blank (given 2 1)).stores.policies.roles.find? 2).map (·.name) =
        some "second" := by
  let v := service.after blank (given 2 1)
  obtain ⟨response, hok, huser⟩ := loginGiven_ends (a := 2) (b := 1) (by decide)
  have hheld {roleId : Int} {place : Nat} :
      HeldFrom service (service.calls blank (given 2 1)) 1 roleId place ↔
        place = 3 ∧ roleId = 2 ∨ place = 4 ∧ roleId = 1 := heldFrom_given (.inr ⟨rfl, rfl⟩)
  have hfiled : v.stores.Filed := MemoryService.after_filed blank_filed _
  obtain ⟨role, rest, hroles, htells⟩ := (answers_of_loginGiven hok).tells hfiled
  have hnames : (v.stores.policies.rolesOf 1).map (·.name) = ["first", "second"] := by
    decide +kernel
  rw [huser] at hroles
  rw [hroles] at hnames
  have hname : role.name = "first" := (List.cons.inj hnames).1
  refine ⟨response, hok, hname ▸ htells, ⟨3, hheld.mpr (.inl ⟨rfl, rfl⟩), ?_⟩, by decide +kernel⟩
  intro other later hlater
  rw [hheld] at hlater
  omega

end Sample

end Turnstile
