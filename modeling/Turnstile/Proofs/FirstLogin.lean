import Turnstile.Proofs.Accounts
import Turnstile.Proofs.Lockout.GuessRate
import Turnstile.Proofs.Policy.Reload
import Turnstile.Proofs.Text
import Turnstile.Proofs.Token.RoundTrip

/-!
Whoever has registered can log in, by the address in any case of its letters, and by the phone
number if no login takes it for an address. What a new account finds is that nobody else answers
to its names, that no failures are counted against its identifier, and that it has a role.
-/

namespace Turnstile

/-! ### Attempts -/

namespace MemoryState

/-- Failures are recorded for accounts only. -/
def AttemptsKnown (s : MemoryState) : Prop :=
  ∀ userId, s.attempts.find? userId ≠ none → s.users.contains userId = true

namespace AttemptsKnown

variable {s t : MemoryState}

theorem of_attempts (h : s.AttemptsKnown) (hgrew : s.GrewTo t) (ht : t.attempts = s.attempts) :
    t.AttemptsKnown :=
  fun userId hfind => hgrew.kept userId (h userId (ht ▸ hfind))

theorem of_find? (h : s.AttemptsKnown) (hgrew : s.GrewTo t) {user : User}
    (huser : s.users.contains user.id = true)
    (ht : ∀ userId, user.id ≠ userId → t.attempts.find? userId = s.attempts.find? userId) :
    t.AttemptsKnown := by
  intro userId hfind
  by_cases heq : user.id = userId
  · exact hgrew.kept userId (heq ▸ huser)
  · rw [ht userId heq] at hfind
    exact hgrew.kept userId (h userId hfind)

/-- Nothing counts against an account that is not there yet. -/
theorem failures_eq_zero (h : s.AttemptsKnown) {userId : Int} (hnone : s.users.find? userId = none)
    (now : Instant) : s.failures userId now = 0 := by
  have hattempts : s.attempts.find? userId = none := by
    by_contra hfind
    have hknown := h userId hfind
    unfold Table.contains at hknown
    rw [hnone] at hknown
    cases hknown
  exact failures_of_none hattempts

end AttemptsKnown

end MemoryState

theorem LoginEnd.attemptsKnown {m : MemoryService} {request : LoginRequest} {client : Client}
    {w v : World MemoryState} {answer : Except Failure LoginResponse}
    (h : LoginEnd m request client w answer v) (hkeyed : w.stores.Keyed)
    (hknown : w.stores.AttemptsKnown) : v.stores.AttemptsKnown := by
  have hgrew := h.grew
  have hcompared {user : User} {answer : Except Failure Unit} {s : MemoryState}
      (hnamed : w.stores.named? request.identity = some user)
      (hrun : (m.app.validatePassword user request.password).runOn w =
        (answer, { w with stores := s })) : s.AttemptsKnown :=
    hknown.of_find? (Lockout.compared_of_runOn hrun).grew
      (MemoryState.contains_of_named hkeyed hnamed)
      fun _ hne => (Lockout.compared_of_runOn hrun).find?_of_ne hne
  cases h with
  | unnamed => exact hknown
  | inactive => exact hknown
  | refused hnamed _ hrun => exact hcompared hnamed hrun
  | unissued hnamed _ hrun => exact hcompared hnamed hrun
  | started hnamed _ hrun =>
    have hs := hcompared hnamed hrun
    exact hs

/-- Only logins touch the attempts. -/
theorem MemoryService.step_attempts [SizeLimit] (m : MemoryService) (w : World MemoryState)
    {op : Operation} (hop : ∀ request client, op ≠ .login request client) :
    (m.step w op).stores.attempts = w.stores.attempts := by
  cases op <;> rw [MemoryService.step]
  case login request client => exact absurd rfl (hop request client)
  case refresh request client => exact (refresh_ends m request client w).leaves.2.2
  case logout bearer => exact (logout_ends m bearer w).leaves.2.2
  case register request => exact (m.quiet_register request w).attempts
  case authorize bearer elementId => exact (m.quiet_authorize bearer elementId w).attempts
  case admin call => exact (m.quiet_admin call w).attempts
  case setStatus userId status => exact (Action.Quiet.setStatus userId status w).attempts

theorem Call.next_attemptsKnown [SizeLimit] {m : MemoryService} {c : Call}
    (hkeyed : c.world.stores.Keyed) (h : c.world.stores.AttemptsKnown) :
    (c.next m).stores.AttemptsKnown := by
  obtain ⟨w, op⟩ := c
  rw [Call.next]
  dsimp only at hkeyed h ⊢
  by_cases hop : ∃ request client, op = .login request client
  · obtain ⟨request, client, rfl⟩ := hop
    rw [MemoryService.step]
    exact (login_ends m request client w).attemptsKnown hkeyed h
  · exact h.of_attempts (m.step_grew w op)
      (m.step_attempts w fun request client heq => hop ⟨request, client, heq⟩)

theorem MemoryService.after_attemptsKnown [SizeLimit] {m : MemoryService} {w : World MemoryState}
    (hfiled : w.stores.Filed) (h : w.stores.AttemptsKnown) (ops : List Operation) :
    (m.after w ops).stores.AttemptsKnown := by
  induction ops generalizing w with
  | nil => exact h
  | cons op rest ih =>
    exact ih (Call.next_filed (c := ⟨w, op⟩) hfiled)
      (Call.next_attemptsKnown (c := ⟨w, op⟩) hfiled.keyed h)

/-! ### Names -/

/-- The name is one that the registration gives: the address, whatever the case of its letters in
ASCII, or the number, unless it would be taken for an address. Blanks around it do not count. -/
def RegisterRequest.AnswersTo (request : RegisterRequest) (name : String) : Prop :=
  agreesUpToCase (Text.trim name) (Text.trim request.email) = true ∨
    Text.trim name = Text.trim request.phone ∧ '@' ∉ (Text.trim request.phone).toList

/-- Where a check passes, every rule is kept. -/
theorem FieldRule.isKept_of_checkAll {rules : List FieldRule} (h : checkAll rules = .ok ())
    (rule : FieldRule) (hrule : rule ∈ rules) : rule.isKept = true := by
  unfold checkAll at h
  split at h
  · rename_i hbroken
    simpa using List.filter_eq_nil_iff.mp hbroken rule hrule
  · cases h

/-- A request that is let through has an address with an at sign. -/
theorem RegisterRequest.at_mem_email {request : RegisterRequest}
    (h : Request.check request = .ok ()) : '@' ∈ (Text.trim request.email).toList := by
  have hvalid : EmailAddress.isValid request.email = true :=
    FieldRule.isKept_of_checkAll h (.email "email" "Invalid email format" request.email)
      (by simp [Request.rules])
  unfold EmailAddress.isValid EmailAddress.split? at hvalid
  refine Text.mem_trim ?_ (by decide)
  by_contra hno
  rw [if_neg (by simpa using hno)] at hvalid
  cases hvalid

theorem Identity.ofText_of_at {name : String} (h : '@' ∈ (Text.trim name).toList) :
    Identity.ofText name = .email (Text.trim name) := by
  unfold Identity.ofText
  exact if_pos (List.contains_iff_mem.mpr h)

theorem Identity.ofText_of_no_at {name : String} (h : '@' ∉ (Text.trim name).toList) :
    Identity.ofText name = .phone (Text.trim name) := by
  unfold Identity.ofText
  exact if_neg fun hmem => h (List.contains_iff_mem.mp hmem)

namespace MemoryState

section Created

variable {u : NewUser} {now : Instant} {s t : MemoryState} {user : User}

/-- A new account is found by its address, since nobody else has it. -/
theorem findByEmail?_of_createUser (h : createUser u now s = (.ok user, t)) :
    t.findByEmail? u.email = some user := by
  obtain ⟨hmade, hclear⟩ := of_createUser_made h
  obtain ⟨-, -, rfl⟩ := of_createUser h
  refine Table.find?_values_put (fun row hrow => ?_) ?_
  · exact (hclear row.2 (List.mem_map.mpr ⟨row, hrow, rfl⟩)).1
  · rw [hmade.email]
    exact beq_self_eq_true _

/-- A new account is found by its number, since nobody else has it. -/
theorem findByPhone?_of_createUser (h : createUser u now s = (.ok user, t)) :
    t.findByPhone? u.phone = some user := by
  obtain ⟨hmade, hclear⟩ := of_createUser_made h
  obtain ⟨-, -, rfl⟩ := of_createUser h
  refine Table.find?_values_put (fun row hrow => ?_) ?_
  · exact beq_eq_false_iff_ne.mpr (hclear row.2 (List.mem_map.mpr ⟨row, hrow, rfl⟩)).2
  · rw [hmade.phone]
    exact beq_self_eq_true _

end Created

/-- A new account answers to the names that its registration gives. -/
theorem named?_of_createUser {m : MemoryService} {request : RegisterRequest} {number : Nat}
    {now : Instant} {s t : MemoryState} {user : User}
    (hcheck : Request.check request = .ok ())
    (h : createUser (m.app.newUser request number) now s = (.ok user, t)) {name : String}
    (hname : request.AnswersTo name) : t.named? name = some user := by
  have hbyEmail := findByEmail?_of_createUser h
  have hbyPhone := findByPhone?_of_createUser h
  unfold App.newUser at hbyEmail hbyPhone
  unfold named?
  rcases hname with hemail | ⟨hphone, hno⟩
  · have hat : '@' ∈ (Text.trim name).toList := Text.mem_of_agreesUpToCase hemail
      (by unfold Text.IsLetter; decide) (RegisterRequest.at_mem_email hcheck)
    rw [Identity.ofText_of_at hat]
    dsimp only
    rw [Text.lower_of_agreesUpToCase hemail]
    exact hbyEmail
  · rw [Identity.ofText_of_no_at (hphone ▸ hno), hphone]
    exact hbyPhone

end MemoryState

/-! ### The role -/

/-- Whoever was given a role has one. -/
theorem PolicyTables.rolesOf_ne_nil_of_assignRole {userId roleId : Int} {now : Instant}
    {t t' : PolicyTables} (h : assignRole userId roleId now t = .ok ((), t')) :
    t'.rolesOf userId ≠ [] := by
  obtain ⟨hthere, rfl⟩ := of_assignRole h
  obtain ⟨role, hrole⟩ := Option.isSome_iff_exists.mp hthere
  have htarget : roleId ∈ Links.targets (Links.add (userId, roleId) t.userRoles) userId :=
    Links.mem_targets.mpr ((Links.mem_add ..).mpr (.inl rfl))
  exact List.ne_nil_of_mem (List.mem_filterMap.mpr ⟨roleId, htarget, hrole⟩)

/-! ### The first login -/

/-- The tokens that a login has issued. -/
def LoginResponse.pair (r : LoginResponse) : TokenPair :=
  ⟨r.sessionId, r.accessToken, r.refreshToken⟩

/-- Without failures the right password is accepted. -/
theorem Lockout.runOn_validatePassword_of_right {m : MemoryService} {user : User}
    {password : String} {w : World MemoryState}
    (hnone : w.stores.failures user.id w.now = 0)
    (hverify : m.passwords.verify password user.passwordHash = .ok true) :
    (m.app.validatePassword user password).runOn w =
      (.ok (), { w with stores := w.stores.forget user.id }) := by
  obtain ⟨answer, s, hrun, hcompared⟩ := validatePassword_compared m user password w
  cases hcompared with
  | right => exact hrun
  | wrong _ _ hother => rw [hverify] at hother; cases hother
  | unusable _ _ hother => rw [hverify] at hother; cases hother
  | locked hn => omega
  | blocked hn => omega
  | missing hn => omega
  | undated _ _ hother =>
    rw [hverify] at hother
    cases hother hnone

section Login

variable {m : MemoryService} {user : User}

/-- An active user without failures who has a role logs in with the right password. -/
theorem MemoryService.login_of_right (request : LoginRequest) (client : Client)
    (w : World MemoryState) (hkeys : m.keys.Paired)
    (haccess : 0 < m.settings.tokens.accessMinutes) (hrefresh : 0 < m.settings.tokens.refreshDays)
    (hnow : 0 ≤ w.now.seconds)
    (hdates : ∀ kind, (w.now.addSeconds? (m.app.tokens.lifetime kind)).isSome)
    (hnamed : w.stores.named? request.identity = some user) (hact : user.MayAct)
    (hnone : w.stores.failures user.id w.now = 0)
    (hverify : m.passwords.verify request.password user.passwordHash = .ok true)
    (hroles : w.stores.policies.rolesOf user.id ≠ []) :
    ∃ response v role, (m.app.login request client).runOn w = (.ok response, v) ∧
      response.user = user.profile ∧
      v.stores.sessions.find? response.sessionId =
        some (Session.start w.now response.sessionId user.id client) ∧
      ∀ kind, m.app.tokens.Honours (response.pair.token kind)
        (m.app.tokens.issuedClaims w.now kind response.sessionId user.id role) := by
  obtain ⟨role, rest, hrole⟩ := List.exists_cons_of_ne_nil hroles
  have hrun := Lockout.runOn_validatePassword_of_right hnone hverify
  obtain ⟨pair, hpair, hhonours⟩ := issuePair_honoured hkeys haccess hrefresh hnow
    hdates
  have hid : (m.app.loginResponse pair user).sessionId = m.sessionIdAt w.drawn :=
    TokenIssuer.issuePair_sessionId hpair
  have hlogin : (m.app.login request client).runOn w = _ :=
    runOn_login_of_accepted hnamed hact hrun
  have hstored : (w.stores.forget user.id).policies.rolesOf user.id = role :: rest := hrole
  rw [hstored] at hlogin
  dsimp only at hlogin
  rw [hpair] at hlogin
  refine ⟨_, _, role.name, hlogin, rfl, ?_, fun kind => ?_⟩
  · rw [hid]
    exact (Table.find?_put ..).trans (if_pos rfl)
  · rw [hid]
    exact hhonours kind

end Login

theorem check_of_register {m : MemoryService} {request : RegisterRequest}
    {w : World MemoryState} {profile : UserProfile}
    (h : ((m.app.register request).runOn w).1 = .ok profile) :
    Request.check request = .ok () := by
  unfold App.register at h
  rw [Action.runOn_bind, Action.runOn_check] at h
  cases hcheck : Request.check request with
  | ok _ => rfl
  | error e =>
    rw [hcheck] at h
    cases h

/-- What a registration leaves for the first login, if accounts need no verification and the
default role is there: an active account that answers to its names, has no failures, and holds a
role. -/
theorem account_of_register {m : MemoryService} {request : RegisterRequest}
    {w v : World MemoryState} {profile : UserProfile} (hfiled : w.stores.Filed)
    (hknown : w.stores.AttemptsKnown) (hverify : m.settings.registration.verifyOnRegister = false)
    (hrole : m.defaultRole? w.stores.policies ≠ none)
    (hregister : (m.app.register request).runOn w = (.ok profile, v)) :
    ∃ user number, user.profile = profile ∧ user.MayAct ∧
      user.passwordHash = m.passwords.hash (m.saltAt number) request.password ∧
      (∀ name, request.AnswersTo name → v.stores.named? name = some user) ∧
      (∀ now, v.stores.failures user.id now = 0) ∧ v.stores.policies.rolesOf user.id ≠ [] := by
  have hcheck : Request.check request = .ok () := check_of_register (congrArg Prod.fst hregister)
  have hends := register_ends m request w
  rw [hregister] at hends
  cases hends with
  | alone hcreate hnone =>
    obtain ⟨-, -, rfl⟩ := MemoryState.of_createUser hcreate
    exact absurd hnone hrole
  | @joined user s role policies hcreate _ hassign =>
    obtain ⟨hmade, -⟩ := MemoryState.of_createUser_made hcreate
    obtain ⟨hid, hstatus, hs⟩ := MemoryState.of_createUser hcreate
    refine ⟨user, w.drawn, rfl, ⟨hstatus, ?_⟩, hmade.passwordHash, fun name hname => ?_,
      fun now => ?_, PolicyTables.rolesOf_ne_nil_of_assignRole hassign⟩
    · rw [hmade.phoneVerified]
      exact congrArg (!·) hverify
    · have husers : ({ s with policies := policies } : MemoryState).users = s.users := rfl
      dsimp only
      rw [MemoryState.named?_of_users husers]
      exact MemoryState.named?_of_createUser hcheck hcreate hname
    · have hnew : w.stores.users.find? user.id = none := hid ▸ hfiled.find?_nextUserId
      subst hs
      exact hknown.failures_eq_zero hnew now

/-- After every run, whoever registers while accounts need no verification and the default role
is there can log in from then on: with the address in any case of its letters, or with the
number if it has no at sign, and with the password, the login answers with the profile of the
registration, starts a session under the identifier that it answers, and both tokens stand for
this session. -/
theorem registered_logs_in [SizeLimit] (m : MemoryService) (hkeys : m.keys.Paired)
    (hpasswords : ∀ salt password,
      m.passwords.verify password (m.passwords.hash salt password) = .ok true)
    (haccess : 0 < m.settings.tokens.accessMinutes) (hrefresh : 0 < m.settings.tokens.refreshDays)
    (hverify : m.settings.registration.verifyOnRegister = false)
    {w : World MemoryState} (hfiled : w.stores.Filed) (hknown : w.stores.AttemptsKnown)
    (ops : List Operation) (hrole : m.defaultRole? (m.after w ops).stores.policies ≠ none)
    {request : RegisterRequest} {profile : UserProfile} {v : World MemoryState}
    (hregister : (m.app.register request).runOn (m.after w ops) = (.ok profile, v))
    {name : String} (hname : request.AnswersTo name) {now : Instant} (hnow : 0 ≤ now.seconds)
    (hdates : ∀ kind, (now.addSeconds? (m.app.tokens.lifetime kind)).isSome) (client : Client) :
    ∃ response u role,
      (m.app.login ⟨name, request.password⟩ client).runOn { v with now := now } =
        (.ok response, u) ∧
      response.user = profile ∧
      u.stores.sessions.find? response.sessionId =
        some (Session.start now response.sessionId profile.id client) ∧
      ∀ kind, m.app.tokens.Honours (response.pair.token kind)
        (m.app.tokens.issuedClaims now kind response.sessionId profile.id role) := by
  obtain ⟨user, number, rfl, hact, hhash, hnamed, hnone, hroles⟩ := account_of_register
    (MemoryService.after_filed hfiled ops) (MemoryService.after_attemptsKnown hfiled hknown ops)
    hverify hrole hregister
  have hright : m.passwords.verify request.password user.passwordHash = .ok true := by
    rw [hhash]
    exact hpasswords _ _
  exact MemoryService.login_of_right ⟨name, request.password⟩ client { v with now := now } hkeys
    haccess hrefresh hnow hdates (hnamed name hname) hact (hnone now) hright hroles

/-! ### Two registrations -/

namespace Sample

theorem world_filed : world.stores.Filed := by
  refine ⟨fun row hrow => ?_, List.pairwise_singleton _ _⟩
  obtain rfl := List.mem_singleton.mp hrow
  rfl

def client : Client := ⟨"127.0.0.1", "agent"⟩

/-- An address with capitals is answered to in any case. -/
theorem capitals_log_in :
    let request : RegisterRequest := ⟨"Ben", "+10000000002", "Ben@Example.com", "password"⟩
    let profile : UserProfile :=
      ⟨2, "Ben", "+10000000002", "ben@example.com", none, true, false, "active", .ofSeconds 0⟩
    let v := ((service.app.register request).runOn world).2
    ∃ response u role,
      (service.app.login ⟨" BEN@example.COM ", "password"⟩ client).runOn
          { v with now := .ofSeconds 60 } = (.ok response, u) ∧
      response.user = profile ∧
      u.stores.sessions.find? response.sessionId =
        some (Session.start (.ofSeconds 60) response.sessionId 2 client) ∧
      ∀ kind, service.app.tokens.Honours (response.pair.token kind)
        (service.app.tokens.issuedClaims (.ofSeconds 60) kind response.sessionId 2 role) := by
  intro request profile v
  have hkeys : service.keys.Paired := fun message => ⟨[], rfl, rfl⟩
  have hpasswords : ∀ salt password,
      service.passwords.verify password (service.passwords.hash salt password) = .ok true :=
    fun _ password => congrArg Except.ok (beq_self_eq_true password)
  have hknown : world.stores.AttemptsKnown := fun _ h => absurd rfl h
  have hrole : service.defaultRole? (service.after world []).stores.policies ≠ none := by decide
  have hprofile : ((service.app.register request).runOn world).1 = .ok profile := by
    decide +kernel
  have hname : request.AnswersTo " BEN@example.COM " := .inl (by decide +kernel)
  have hdates : ∀ kind, ((Instant.ofSeconds 60).addSeconds?
      (service.app.tokens.lifetime kind)).isSome := by
    intro kind
    cases kind <;> decide
  exact registered_logs_in service hkeys hpasswords (by decide) (by decide) rfl world_filed hknown
    [] hrole (Prod.ext hprofile rfl) hname (by decide) hdates client

/-- A number with an at sign is taken for an address at the login, and nobody is found. -/
theorem number_not_found :
    let request : RegisterRequest := ⟨"Ben", "ben@home", "ben@example.com", "password"⟩
    let v := ((service.app.register request).runOn world).2
    ((service.app.register request).runOn world).1 = .ok
        ⟨2, "Ben", "ben@home", "ben@example.com", none, true, false, "active", .ofSeconds 0⟩ ∧
      ((service.app.login ⟨request.phone, request.password⟩ client).runOn v).1 =
        .error (.error .accountNotFound) := by
  intro request v
  refine ⟨by decide +kernel, ?_⟩
  have hnobody : v.stores.named? request.phone = none := by decide +kernel
  have hends := login_ends service ⟨request.phone, request.password⟩ client v
  generalize (service.app.login ⟨request.phone, request.password⟩ client).runOn v = r at hends ⊢
  obtain ⟨answer, u⟩ := r
  dsimp only at hends ⊢
  cases hends with
  | unnamed => rfl
  | inactive hnamed => rw [hnobody] at hnamed; cases hnamed
  | refused hnamed => rw [hnobody] at hnamed; cases hnamed
  | unissued hnamed => rw [hnobody] at hnamed; cases hnamed
  | started hnamed => rw [hnobody] at hnamed; cases hnamed

end Sample

end Turnstile
