import Turnstile.Proofs.Login
import Turnstile.Proofs.Token.Bearer

/-!
What decides whether tokens are renewed, and what the new ones say. The token
that is sent in only tells who asks for which session. Everything else is read
from the stores at the time of the refresh, so the new tokens hold the role
that the user has now, and not the one of the old token.
-/

namespace Turnstile

/-- The refresh is asked for by an active user, with a refresh token of a
session of this user, from the client that started it, and the user has a
role. -/
structure Renewable (m : MemoryService) (request : RefreshRequest) (client : Client)
    (w : World MemoryState) (userId : Int) (session : Session) (user : User) (role : Role) :
    Prop where
  token : ∃ claims,
    m.app.tokens.verifyKind w.now (bearerToken request.refreshToken) .refresh = .ok claims ∧
      claims.userId = .ok userId ∧ w.stores.sessions.find? claims.sessionId = some session
  owner : session.userId = userId
  ip : session.ip = client.ip
  userAgent : session.userAgent = client.userAgent
  found : w.stores.users.find? userId = some user
  active : user.MayAct
  role : (w.stores.policies.rolesOf userId).head? = some role

namespace Renewable

variable {m : MemoryService} {request : RefreshRequest} {client : Client}
  {w : World MemoryState} {userId : Int} {session : Session} {user : User} {role : Role}

theorem isOf (h : Renewable m request client w userId session user role) :
    session.isOf client = true := by
  unfold Session.isOf
  rw [h.ip, h.userAgent, beq_self_eq_true, beq_self_eq_true]
  rfl

end Renewable

/-- How far a refresh gets: all checks pass, or it is refused and nothing
happens. -/
inductive RefreshChecked (m : MemoryService) (request : RefreshRequest) (client : Client)
    (w : World MemoryState) : Except Failure LoginResponse → World MemoryState → Prop
  | refused {f : Failure} : RefreshChecked m request client w (.error f) w
  | passed {userId : Int} {session : Session} {user : User} {role : Role}
      {answer : Except Failure LoginResponse} {v : World MemoryState}
      (h : Renewable m request client w userId session user role) :
      RefreshChecked m request client w answer v

theorem refresh_checked (m : MemoryService) (request : RefreshRequest) (client : Client)
    (w : World MemoryState) :
    RefreshChecked m request client w ((m.app.refresh request client).runOn w).1
      ((m.app.refresh request client).runOn w).2 := by
  unfold App.refresh
  refine Action.ends_bind .clock (fun _ _ => .refused) fun now hnow => ?_
  obtain rfl : w.now = now := Except.ok.inj hnow
  refine Action.ends_bind (.token _) (fun _ _ => .refused) fun claims hclaims => ?_
  refine Action.ends_bind (.token _) (fun _ _ => .refused) fun userId huserId => ?_
  refine Action.ends_bind (m.leaves_ownSession claims userId) (fun _ _ => .refused) ?_
  intro session hsession
  obtain ⟨hfind, howner, -⟩ := m.of_runOn_ownSession (Prod.ext hsession rfl)
  cases hclient : session.isOf client with
  | false => exact .refused
  | true =>
    refine Action.ends_bind (m.leaves_activeUser userId) (fun _ _ => .refused) ?_
    intro user hactive
    refine Action.ends_bind (m.leaves_tokenRole userId) (fun _ _ => .refused) ?_
    intro name hname
    -- The role is the last thing that is asked for.
    unfold Session.isOf at hclient
    rw [Bool.and_eq_true, beq_iff_eq, beq_iff_eq] at hclient
    obtain ⟨hfound, hact⟩ := m.of_runOn_activeUser hactive
    obtain ⟨role, hrole⟩ := m.of_runOn_tokenRole hname
    exact .passed {
      token := ⟨claims, Action.of_runOn_token hclaims, Action.of_runOn_token huserId, hfind⟩
      owner := howner
      ip := hclient.1
      userAgent := hclient.2
      found := hfound
      active := hact
      role := hrole }

namespace MemoryService

section Refresh

variable {m : MemoryService} {request : RefreshRequest} {client : Client}
  {w : World MemoryState} {userId : Int} {session : Session} {user : User} {role : Role}

/-- Once everything has been checked, a refresh is decided by whether tokens can be issued. -/
theorem runOn_refresh (h : Renewable m request client w userId session user role) :
    (m.app.refresh request client).runOn w =
      match m.app.tokens.issuePair w.now session.id userId role.name with
      | .error f => (.error f, w)
      | .ok pair => (.ok (m.app.loginResponse pair user), { w with stores := { w.stores with
          sessions := w.stores.sessions.change session.id fun x =>
            { x with updatedAt := w.now } } }) := by
  obtain ⟨claims, hclaims, huserId, hsession⟩ := h.token
  have htoken : (Action.token (m.app.tokens.verifyKind w.now (bearerToken request.refreshToken)
      .refresh)).runOn w = (.ok claims, w) := by
    rw [Action.runOn_token, hclaims]
    rfl
  have hsubject : (Action.token claims.userId).runOn w = (.ok userId, w) := by
    rw [Action.runOn_token, huserId]
    rfl
  have hactive : (m.app.activeUser userId).runOn w = (.ok user, w) := by
    rw [m.runOn_activeUser h.found, User.checkState_of_mayAct h.active]
    rfl
  have hrole : (m.app.tokenRole userId).runOn w = (.ok role.name, w) := by
    obtain ⟨rest, hroles⟩ := List.head?_eq_some_iff.mp h.role
    rw [runOn_tokenRole, hroles]
  have hissue := m.runOn_issueTokens w session.id userId role.name
  unfold App.refresh
  rw [Action.runOn_bind_ok (Action.runOn_clock w), Action.runOn_bind_ok htoken,
    Action.runOn_bind_ok hsubject, Action.runOn_bind_ok (m.runOn_ownSession hsession h.owner),
    h.isOf]
  change Action.runOn (m.app.activeUser userId >>= _) w = _
  rw [Action.runOn_bind_ok hactive, Action.runOn_bind_ok hrole]
  cases hpair : m.app.tokens.issuePair w.now session.id userId role.name with
  | error f =>
    rw [hpair] at hissue
    exact Action.runOn_bind_error hissue
  | ok pair =>
    rw [hpair] at hissue
    exact (Action.runOn_bind_ok hissue).trans rfl

/-- A refresh that succeeds has passed all checks and has issued tokens. -/
theorem of_runOn_refresh {response : LoginResponse} {v : World MemoryState}
    (hok : (m.app.refresh request client).runOn w = (.ok response, v)) :
    ∃ userId session user role pair,
      Renewable m request client w userId session user role ∧
      m.app.tokens.issuePair w.now session.id userId role.name = .ok pair ∧
      response = m.app.loginResponse pair user ∧
      v = { w with stores := { w.stores with
        sessions := w.stores.sessions.change session.id fun x =>
          { x with updatedAt := w.now } } } := by
  have hchecked := refresh_checked m request client w
  rw [hok] at hchecked
  dsimp only at hchecked
  cases hchecked with
  | @passed userId session user role _ _ h =>
    have hends := runOn_refresh h
    rw [hok] at hends
    cases hpair : m.app.tokens.issuePair w.now session.id userId role.name with
    | error f =>
      rw [hpair] at hends
      cases hends
    | ok pair =>
      rw [hpair] at hends
      obtain ⟨hanswer, hworld⟩ := Prod.mk.inj hends
      exact ⟨userId, session, user, role, pair, h, hpair, Except.ok.inj hanswer, hworld⟩

/-- A refresh that fails does nothing. -/
theorem of_runOn_refresh_error {f : Failure} {v : World MemoryState}
    (herror : (m.app.refresh request client).runOn w = (.error f, v)) : v = w := by
  have hends := refresh_ends m request client w
  rw [herror] at hends
  dsimp only at hends
  cases hends
  rfl

end Refresh

end MemoryService

/-- A refresh succeeds if an active user who has a role asks for a session of their own with a
refresh token and from the client that started it, as long as new tokens can be dated and
signed, and in no other case. Both new tokens then name this session and the role that the
user has now, and the session is noted as used; where the refresh fails, nothing changes. -/
theorem refresh_renews (m : MemoryService) (request : RefreshRequest) (client : Client)
    (w : World MemoryState) :
    ((∃ response, ((m.app.refresh request client).runOn w).1 = .ok response) ↔
      ∃ userId session user role, Renewable m request client w userId session user role ∧
        m.app.tokens.CanIssue w.now session.id userId role.name) ∧
    (∀ response v, (m.app.refresh request client).runOn w = (.ok response, v) →
      ∃ userId session user role, Renewable m request client w userId session user role ∧
        response.sessionId = session.id ∧ response.user = user.profile ∧
        CompactToken.content response.accessToken =
          .ok (m.app.tokens.issuedClaims w.now .access session.id userId role.name) ∧
        CompactToken.content response.refreshToken =
          .ok (m.app.tokens.issuedClaims w.now .refresh session.id userId role.name) ∧
        v = { w with stores := { w.stores with
          sessions := w.stores.sessions.change session.id fun x =>
            { x with updatedAt := w.now } } }) ∧
    ∀ f v, (m.app.refresh request client).runOn w = (.error f, v) → v = w := by
  -- Nothing is to be run here: what comes of the refresh is known by the lemmas above.
  generalize hends : (m.app.refresh request client).runOn w = ends
  refine ⟨⟨fun ⟨response, hok⟩ => ?_, fun ⟨userId, session, user, role, h, hcan⟩ => ?_⟩,
    fun response v hok => ?_, fun f v herror => ?_⟩
  · obtain ⟨userId, session, user, role, pair, h, hpair, -⟩ :=
      MemoryService.of_runOn_refresh (hends.trans (Prod.ext hok rfl))
    exact ⟨userId, session, user, role, h, TokenIssuer.issuePair_ok_iff.mp ⟨pair, hpair⟩⟩
  · obtain ⟨pair, hpair⟩ := TokenIssuer.issuePair_ok_iff.mpr hcan
    rw [MemoryService.runOn_refresh h, hpair] at hends
    exact ⟨_, by rw [← hends]⟩
  · obtain ⟨userId, session, user, role, pair, h, hpair, rfl, rfl⟩ :=
      MemoryService.of_runOn_refresh (hends.trans hok)
    exact ⟨userId, session, user, role, h, TokenIssuer.issuePair_sessionId hpair, rfl,
      TokenIssuer.content_of_issuePair hpair .access,
      TokenIssuer.content_of_issuePair hpair .refresh, rfl⟩
  · exact MemoryService.of_runOn_refresh_error (hends.trans herror)

/-! ### Close to the end of the calendar -/

namespace Sample

/-- Eight days before the calendar ends, and so a day more than the tokens of a week last. -/
def lateLogin : Instant := .ofSeconds (Instant.last.seconds - 691200)

def lateSession : Session := .start lateLogin "0" 1 ⟨"127.0.0.1", "agent"⟩

/-- Three days before the calendar ends, with the session of that login. -/
def lateWorld : World MemoryState :=
  { world with
    now := .ofSeconds (Instant.last.seconds - 259200)
    stores := { world.stores with
      sessions := ⟨[("0", lateSession)]⟩ } }

/-- The refresh token of that session. -/
def lateToken : String :=
  let claims := service.app.tokens.issuedClaims lateLogin .refresh "0" 1 "member"
  String.ofList (CompactToken.signedPart claims ++ '.' :: Base64.urlSafe.encode [])

/-- Everything speaks for the refresh, but the new refresh token would outlast the calendar. -/
theorem new_pair_undated :
    (∃ session user role, Renewable service ⟨lateToken⟩ ⟨"127.0.0.1", "agent"⟩ lateWorld 1
      session user role) ∧
    (service.app.refresh ⟨lateToken⟩ ⟨"127.0.0.1", "agent"⟩).runOn lateWorld =
      (.error (.fault .timeOutOfRange), lateWorld) := by
  have hkeys : service.app.tokens.keys.Paired := fun message => ⟨[], rfl, rfl⟩
  have hdate : lateLogin.addSeconds? (service.app.tokens.lifetime .refresh) =
      some (lateLogin.later (service.app.tokens.lifetime .refresh)) := by decide
  have hissue : service.app.tokens.issue lateLogin .refresh "0" 1 "member" = .ok lateToken := by
    have hsign : service.app.tokens.keys.sign (utf8 (CompactToken.signedPart
        (service.app.tokens.issuedClaims lateLogin .refresh "0" 1 "member"))) = .ok [] := rfl
    rw [issue_eq hdate, CompactToken.make_of_sign hsign]
    rfl
  have hverify : service.app.tokens.verifyKind lateWorld.now (bearerToken lateToken) .refresh =
      .ok (service.app.tokens.issuedClaims lateLogin .refresh "0" 1 "member") := by
    obtain ⟨token, htoken, hhonours⟩ := issue_honoured hkeys (by decide) (by decide)
      (Option.isSome_of_eq_some hdate)
    obtain rfl := Except.ok.inj (hissue.symm.trans htoken)
    rw [TokenIssuer.bearerToken_of_issue hissue (.inl rfl)]
    exact hhonours.counts lateWorld.now (by decide) (by decide)
  have h : Renewable service ⟨lateToken⟩ ⟨"127.0.0.1", "agent"⟩ lateWorld 1 lateSession user
      ⟨1, "member", "", .ofSeconds 0, .ofSeconds 0⟩ := {
    token := ⟨_, hverify, by decide, rfl⟩
    owner := rfl
    ip := rfl
    userAgent := rfl
    found := rfl
    active := ⟨rfl, rfl⟩
    role := rfl }
  exact ⟨⟨_, _, _, h⟩, (MemoryService.runOn_refresh h).trans rfl⟩

end Sample

end Turnstile
