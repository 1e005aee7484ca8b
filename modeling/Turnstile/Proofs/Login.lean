import Turnstile.Proofs.Lockout.Comparison
import Turnstile.Proofs.Token.Issuing

/-!
How the calls around a login end. Each has one constructor for every way it
can end, with the world that is left, so nothing that uses these calls has to
run them again.
-/

namespace Turnstile

namespace MemoryService

variable (m : MemoryService)

theorem runOn_issueTokens (w : World MemoryState) (sessionId : String) (userId : Int)
    (role : String) :
    (m.app.issueTokens sessionId userId role).runOn w =
      (m.app.tokens.issuePair w.now sessionId userId role, w) := by
  unfold App.issueTokens
  rw [Action.runOn_bind_ok (Action.runOn_clock w), Action.runOn_ofExcept]

theorem leaves_issueTokens (sessionId : String) (userId : Int) (role : String) :
    Action.Leaves id (m.app.issueTokens sessionId userId role) := by
  intro w
  rw [runOn_issueTokens]

theorem leaves_tokenRole (userId : Int) :
    Action.Leaves id (m.app.tokenRole userId) := by
  intro w
  rw [runOn_tokenRole]

theorem leaves_ownSession (claims : TokenClaims) (userId : Int) :
    Action.Leaves id (m.app.ownSession claims userId) := by
  intro w
  by_cases ho : w.stores.OwnsSession claims.sessionId userId
  · obtain ⟨found, hf, hu⟩ := ho
    rw [runOn_ownSession m hf hu]
  · rw [runOn_ownSession_of_not m ho]

theorem leaves_activeUser (userId : Int) :
    Action.Leaves id (m.app.activeUser userId) := by
  intro w
  cases hf : w.stores.users.find? userId with
  | none => rw [runOn_activeUser_of_none m hf]
  | some found => rw [runOn_activeUser m hf]

/-- The user who was found, and may act. -/
theorem of_runOn_activeUser {w : World MemoryState} {userId : Int} {user : User}
    (h : ((m.app.activeUser userId).runOn w).1 = .ok user) :
    w.stores.users.find? userId = some user ∧ user.MayAct := by
  cases hf : w.stores.users.find? userId with
  | none =>
    rw [runOn_activeUser_of_none m hf] at h
    cases h
  | some found =>
    rw [runOn_activeUser m hf] at h
    cases hstate : found.checkState with
    | ok _ =>
      rw [hstate] at h
      cases h
      exact ⟨rfl, User.checkState_eq_ok_iff.mp hstate⟩
    | error e =>
      rw [hstate] at h
      cases h

theorem hasActive_of_activeUser {w : World MemoryState} {userId : Int} {user : User}
    (h : ((m.app.activeUser userId).runOn w).1 = .ok user) : w.stores.HasActive userId :=
  ⟨user, m.of_runOn_activeUser h⟩

/-- The role is the first of the user's roles. -/
theorem of_runOn_tokenRole {w : World MemoryState} {userId : Int} {name : String}
    (h : ((m.app.tokenRole userId).runOn w).1 = .ok name) :
    ∃ role, (w.stores.policies.rolesOf userId).head? = some role := by
  rw [runOn_tokenRole] at h
  cases hroles : w.stores.policies.rolesOf userId with
  | nil =>
    rw [hroles] at h
    cases h
  | cons role rest => exact ⟨role, rfl⟩

theorem of_tokenRole_error {w : World MemoryState} {userId : Int} {f : Failure}
    (h : ((m.app.tokenRole userId).runOn w).1 = .error f) :
    f = .error (.roleNotAssigned userId) := by
  rw [runOn_tokenRole] at h
  dsimp only at h
  split at h
  · cases h
  · exact (Except.error.inj h).symm

end MemoryService

/-! ### Refreshing -/

/-- How a refresh ends: renewed for the client that started the session, or
without any effect. -/
inductive RefreshEnd (m : MemoryService) (request : RefreshRequest) (client : Client)
    (w : World MemoryState) : Except Failure LoginResponse → World MemoryState → Prop
  | failed {f : Failure} : RefreshEnd m request client w (.error f) w
  | renewed {claims : TokenClaims} {session : Session} {response : LoginResponse}
      (hverify : m.app.tokens.verify w.now (bearerToken request.refreshToken) = .ok claims)
      (hfind : w.stores.sessions.find? claims.sessionId = some session)
      (hclient : session.isOf client = true)
      (hactive : ∃ userId, claims.userId = .ok userId ∧ w.stores.HasActive userId) :
      RefreshEnd m request client w (.ok response) { w with stores := { w.stores with
        sessions := w.stores.sessions.change session.id fun x => { x with updatedAt := w.now } } }

theorem refresh_ends (m : MemoryService) (request : RefreshRequest) (client : Client)
    (w : World MemoryState) :
    RefreshEnd m request client w ((m.app.refresh request client).runOn w).1
      ((m.app.refresh request client).runOn w).2 := by
  unfold App.refresh
  refine Action.ends_bind .clock (fun _ _ => .failed) fun now hnow => ?_
  obtain rfl : w.now = now := Except.ok.inj hnow
  refine Action.ends_bind (.token _) (fun _ _ => .failed) fun claims hclaims => ?_
  refine Action.ends_bind (.token _) (fun _ _ => .failed) fun userId huserId => ?_
  refine Action.ends_bind (m.leaves_ownSession claims userId) (fun _ _ => .failed) ?_
  intro session hsession
  obtain ⟨hverify, -⟩ := TokenIssuer.of_verifyKind (Action.of_runOn_token hclaims)
  obtain ⟨hfind, -, -⟩ := m.of_runOn_ownSession (Prod.ext hsession rfl)
  cases hclient : session.isOf client with
  | false => exact .failed
  | true =>
    refine Action.ends_bind (m.leaves_activeUser userId) (fun _ _ => .failed) ?_
    intro user hactive
    refine Action.ends_bind (m.leaves_tokenRole userId) (fun _ _ => .failed) ?_
    intro role _
    refine Action.ends_bind (m.leaves_issueTokens session.id userId role) ?_ ?_
    · exact fun _ _ => .failed
    intro pair _
    exact .renewed hverify hfind hclient
      ⟨userId, Action.of_runOn_token huserId, m.hasActive_of_activeUser hactive⟩

theorem RefreshEnd.leaves {m : MemoryService} {request : RefreshRequest} {client : Client}
    {w v : World MemoryState} {answer : Except Failure LoginResponse}
    (h : RefreshEnd m request client w answer v) :
    v.now = w.now ∧ v.stores.users = w.stores.users ∧
      v.stores.attempts = w.stores.attempts := by
  cases h <;> exact ⟨rfl, rfl, rfl⟩

/-! ### Logging out -/

/-- How a logout ends: the session that the token names is gone, or nothing
happened. -/
inductive LogoutEnd (m : MemoryService) (bearer : String) (w : World MemoryState) :
    Except Failure Unit → World MemoryState → Prop
  | failed {f : Failure} : LogoutEnd m bearer w (.error f) w
  | ended {sessionId : String}
      (hnamed : m.app.tokens.sessionOf (bearerToken bearer) = .ok sessionId) :
      LogoutEnd m bearer w (.ok ()) { w with stores := { w.stores with
        sessions := w.stores.sessions.erase sessionId } }

theorem logout_ends (m : MemoryService) (bearer : String) (w : World MemoryState) :
    LogoutEnd m bearer w ((m.app.logout bearer).runOn w).1
      ((m.app.logout bearer).runOn w).2 := by
  unfold App.logout
  refine Action.ends_bind (.token _) (fun _ _ => .failed) fun sessionId hnamed => ?_
  exact .ended (Action.of_runOn_token hnamed)

theorem MemoryService.runOn_logout {m : MemoryService} {bearer sessionId : String}
    (h : m.app.tokens.sessionOf (bearerToken bearer) = .ok sessionId) (w : World MemoryState) :
    (m.app.logout bearer).runOn w = (.ok (), { w with stores := { w.stores with
      sessions := w.stores.sessions.erase sessionId } }) := by
  unfold App.logout
  rw [Action.runOn_bind, Action.runOn_token, h]
  rfl

theorem LogoutEnd.leaves {m : MemoryService} {bearer : String} {w v : World MemoryState}
    {answer : Except Failure Unit} (h : LogoutEnd m bearer w answer v) :
    v.now = w.now ∧ v.stores.users = w.stores.users ∧
      v.stores.attempts = w.stores.attempts := by
  cases h <;> exact ⟨rfl, rfl, rfl⟩

/-! ### Logging in -/

/-- How a login ends: no such account, an account that may not act, a refusal
by the lockout or the password, no token for an accepted password, or a
session. -/
inductive LoginEnd (m : MemoryService) (request : LoginRequest) (client : Client)
    (w : World MemoryState) : Except Failure LoginResponse → World MemoryState → Prop
  | unnamed (hnamed : w.stores.named? request.identity = none) :
      LoginEnd m request client w (.error (.error .accountNotFound)) w
  | inactive {user : User} {e : ServiceError}
      (hnamed : w.stores.named? request.identity = some user)
      (hstate : user.checkState = .error e) :
      LoginEnd m request client w (.error (.error e)) w
  | refused {user : User} {f : Failure} {s : MemoryState}
      (hnamed : w.stores.named? request.identity = some user) (hact : user.MayAct)
      (hrun : (m.app.validatePassword user request.password).runOn w =
        (.error f, { w with stores := s })) :
      LoginEnd m request client w (.error f) { w with stores := s }
  | unissued {user : User} {f : Failure} {s : MemoryState} {drawn : Nat}
      (hnamed : w.stores.named? request.identity = some user) (hact : user.MayAct)
      (hrun : (m.app.validatePassword user request.password).runOn w =
        (.ok (), { w with stores := s }))
      (hreason : f = .error (.roleNotAssigned user.id) ∨
        ∃ sessionId role, m.app.tokens.issuePair w.now sessionId user.id role = .error f) :
      LoginEnd m request client w (.error f) { w with drawn := drawn, stores := s }
  | started {user : User} {response : LoginResponse} {s : MemoryState}
      (hnamed : w.stores.named? request.identity = some user) (hact : user.MayAct)
      (hrun : (m.app.validatePassword user request.password).runOn w =
        (.ok (), { w with stores := s }))
      (hid : response.sessionId = m.sessionIdAt w.drawn)
      (huser : response.user = user.profile) :
      LoginEnd m request client w (.ok response) { w with
        drawn := w.drawn + 1
        stores := { s with
          sessions := s.sessions.put response.sessionId
            (Session.start w.now response.sessionId user.id client) } }

theorem login_ends (m : MemoryService) (request : LoginRequest) (client : Client)
    (w : World MemoryState) :
    LoginEnd m request client w ((m.app.login request client).runOn w).1
      ((m.app.login request client).runOn w).2 := by
  unfold App.login
  rw [Action.runOn_bind_ok (m.runOn_findByIdentity w request.identity)]
  cases hnamed : w.stores.named? request.identity with
  | none => exact .unnamed hnamed
  | some user =>
    rw [Action.runOn_bind_ok (Action.runOn_require_some user _ w)]
    refine Action.ends_bind (.check _) (fun f hf => ?_) fun _ hstate => ?_
    · obtain ⟨e, hstate, rfl⟩ := Action.of_runOn_check_error hf
      exact .inactive hnamed hstate
    · have hact : user.MayAct := User.checkState_eq_ok_iff.mp (Action.of_runOn_check hstate)
      obtain ⟨answer, s, hrun, -⟩ :=
        Lockout.validatePassword_compared m user request.password w
      cases answer with
      | error f =>
        rw [Action.runOn_bind_error hrun]
        exact .refused hnamed hact hrun
      | ok _ =>
        rw [Action.runOn_bind_ok hrun]
        refine Action.ends_bind (m.leaves_tokenRole user.id) ?_ fun role _ => ?_
        · exact fun _ hf => .unissued hnamed hact hrun (.inl (m.of_tokenRole_error hf))
        rw [Action.runOn_bind_ok (Action.runOn_draw _)]
        -- An identifier is drawn even where no token can be issued for it.
        refine Action.ends_bind (m.leaves_issueTokens _ user.id role) (fun f hf => ?_) ?_
        · rw [MemoryService.runOn_issueTokens] at hf
          exact .unissued hnamed hact hrun (.inr ⟨_, role, hf⟩)
        intro pair hpair
        rw [MemoryService.runOn_issueTokens] at hpair
        have hid : pair.sessionId = m.sessionIdAt w.drawn :=
          TokenIssuer.issuePair_sessionId hpair
        have hstart : LoginEnd m request client w (.ok (m.app.loginResponse pair user)) _ :=
          .started hnamed hact hrun hid rfl
        rw [show (m.app.loginResponse pair user).sessionId = m.sessionIdAt w.drawn
          from hid] at hstart
        exact hstart

section Equations

variable {m : MemoryService} {request : LoginRequest} {client : Client} {w : World MemoryState}
  {user : User}

theorem MemoryService.runOn_login_of_unnamed (hnamed : w.stores.named? request.identity = none) :
    (m.app.login request client).runOn w = (.error (.error .accountNotFound), w) := by
  unfold App.login
  rw [Action.runOn_bind_ok (m.runOn_findByIdentity w request.identity), hnamed]
  exact Action.runOn_bind_error (Action.runOn_require_none _ w)

theorem MemoryService.runOn_login_of_inactive {e : ServiceError}
    (hnamed : w.stores.named? request.identity = some user) (hstate : user.checkState = .error e) :
    (m.app.login request client).runOn w = (.error (.error e), w) := by
  have hcheck : (Action.check user.checkState).runOn w = (.error (.error e), w) := by
    rw [hstate]
    rfl
  unfold App.login
  rw [Action.runOn_bind_ok (m.runOn_findByIdentity w request.identity), hnamed,
    Action.runOn_bind_ok (Action.runOn_require_some user _ w), Action.runOn_bind_error hcheck]

/-- A refusal of the password is the answer of the login. -/
theorem MemoryService.runOn_login_of_refused {f : Failure} {v : World MemoryState}
    (hnamed : w.stores.named? request.identity = some user) (hact : user.MayAct)
    (hrun : (m.app.validatePassword user request.password).runOn w = (.error f, v)) :
    (m.app.login request client).runOn w = (.error f, v) := by
  have hcheck : (Action.check user.checkState).runOn w = (.ok (), w) := by
    rw [User.checkState_of_mayAct hact]
    rfl
  unfold App.login
  rw [Action.runOn_bind_ok (m.runOn_findByIdentity w request.identity), hnamed,
    Action.runOn_bind_ok (Action.runOn_require_some user _ w), Action.runOn_bind_ok hcheck,
    Action.runOn_bind_error hrun]

/-- From an accepted password on, a login is decided by the first role of the user, and by
whether tokens can be issued for it. -/
theorem MemoryService.runOn_login_of_accepted {s : MemoryState}
    (hnamed : w.stores.named? request.identity = some user) (hact : user.MayAct)
    (hrun : (m.app.validatePassword user request.password).runOn w =
      (.ok (), { w with stores := s })) :
    (m.app.login request client).runOn w =
      match s.policies.rolesOf user.id with
      | [] => (.error (.error (.roleNotAssigned user.id)), { w with stores := s })
      | role :: _ =>
        match m.app.tokens.issuePair w.now (m.sessionIdAt w.drawn) user.id role.name with
        | .error f => (.error f, { w with drawn := w.drawn + 1, stores := s })
        | .ok pair => (.ok (m.app.loginResponse pair user), { w with
            drawn := w.drawn + 1
            stores := { s with
              sessions := s.sessions.put (m.sessionIdAt w.drawn)
                (Session.start w.now (m.sessionIdAt w.drawn) user.id client) } }) := by
  have hstate : (Action.check user.checkState).runOn w = (.ok (), w) := by
    rw [User.checkState_of_mayAct hact]
    rfl
  have hrole := m.runOn_tokenRole { w with stores := s } user.id
  unfold App.login
  rw [Action.runOn_bind_ok (m.runOn_findByIdentity w request.identity), hnamed,
    Action.runOn_bind_ok (Action.runOn_require_some user _ w), Action.runOn_bind_ok hstate,
    Action.runOn_bind_ok hrun]
  cases hroles : s.policies.rolesOf user.id with
  | nil =>
    rw [hroles] at hrole
    exact Action.runOn_bind_error hrole
  | cons role rest =>
    rw [hroles] at hrole
    rw [Action.runOn_bind_ok hrole, Action.runOn_bind_ok (Action.runOn_draw _)]
    have hissue := m.runOn_issueTokens { w with drawn := w.drawn + 1, stores := s }
      (m.sessionIdAt w.drawn) user.id role.name
    dsimp only
    cases hpair : m.app.tokens.issuePair w.now (m.sessionIdAt w.drawn) user.id role.name with
    | error f =>
      rw [hpair] at hissue
      exact Action.runOn_bind_error hissue
    | ok pair =>
      rw [hpair] at hissue
      exact (Action.runOn_bind_ok hissue).trans rfl

/-- A login that succeeds was for an account that may act, with an accepted password, and has
issued tokens for the first role of the user. -/
theorem MemoryService.of_runOn_login {response : LoginResponse} {v : World MemoryState}
    (h : (m.app.login request client).runOn w = (.ok response, v)) :
    ∃ user s role rest pair, w.stores.named? request.identity = some user ∧ user.MayAct ∧
      (m.app.validatePassword user request.password).runOn w = (.ok (), { w with stores := s }) ∧
      s.policies.rolesOf user.id = role :: rest ∧
      m.app.tokens.issuePair w.now (m.sessionIdAt w.drawn) user.id role.name = .ok pair ∧
      response = m.app.loginResponse pair user ∧
      v = { w with
        drawn := w.drawn + 1
        stores := { s with
          sessions := s.sessions.put (m.sessionIdAt w.drawn)
            (Session.start w.now (m.sessionIdAt w.drawn) user.id client) } } := by
  cases hnamed : w.stores.named? request.identity with
  | none =>
    rw [runOn_login_of_unnamed hnamed] at h
    cases h
  | some user =>
  cases hstate : user.checkState with
  | error e =>
    rw [runOn_login_of_inactive hnamed hstate] at h
    cases h
  | ok _ =>
  have hact : user.MayAct := User.checkState_eq_ok_iff.mp hstate
  obtain ⟨answer, s, hrun, -⟩ := Lockout.validatePassword_compared m user request.password w
  cases answer with
  | error f =>
    rw [runOn_login_of_refused hnamed hact hrun] at h
    cases h
  | ok _ =>
  rw [runOn_login_of_accepted hnamed hact hrun] at h
  cases hroles : s.policies.rolesOf user.id with
  | nil =>
    rw [hroles] at h
    cases h
  | cons role rest =>
  rw [hroles] at h
  dsimp only at h
  cases hpair : m.app.tokens.issuePair w.now (m.sessionIdAt w.drawn) user.id role.name with
  | error f =>
    rw [hpair] at h
    cases h
  | ok pair =>
    rw [hpair] at h
    cases h
    exact ⟨user, s, role, rest, pair, rfl, hact, hrun, hroles, hpair, rfl, rfl⟩

end Equations

end Turnstile
