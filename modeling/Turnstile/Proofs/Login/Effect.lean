import Turnstile.Proofs.Accounts
import Turnstile.Proofs.Lockout.GuessRate

/-!
What a login touches. There are many ways out of it, and each leaves its own
mark: none before the state of the account has been looked at, the record of
failures of the one user while the password is compared, the status of the
account in place of that at the end of all locks, and a session at the very
end only.
-/

namespace Turnstile

/-! ### The record of one user -/

/-- Nothing is other than before but the record of failures of one user. -/
def MemoryState.OnlyRecordOf (s t : MemoryState) (userId : Int) : Prop :=
  t = { s with attempts := t.attempts } ∧
    ∀ id, id ≠ userId → t.attempts.find? id = s.attempts.find? id

namespace MemoryState

theorem onlyRecordOf_of_frame {s t : MemoryState} {userId : Int} (husers : t.users = s.users)
    (hsessions : t.sessions = s.sessions) (hpolicies : t.policies = s.policies)
    (hattempts : ∀ id, id ≠ userId → t.attempts.find? id = s.attempts.find? id) :
    s.OnlyRecordOf t userId := by
  refine ⟨?_, hattempts⟩
  rw [← husers, ← hsessions, ← hpolicies]

theorem onlyRecordOf_forget (s : MemoryState) (userId : Int) :
    s.OnlyRecordOf (s.forget userId) userId :=
  ⟨rfl, fun id hne => (s.find?_forget userId id).trans (if_neg hne.symm)⟩

theorem OnlyRecordOf.sessions {s t : MemoryState} {userId : Int} (h : s.OnlyRecordOf t userId) :
    t.sessions = s.sessions := by
  rw [h.1]

end MemoryState

/-- A comparison that does not block the account touches the record of the user
only. -/
theorem Lockout.Compared.onlyRecordOf {m : MemoryService} {user : User} {password : String}
    {now : Instant} {s t : MemoryState} {answer : Except Failure Unit}
    (h : Lockout.Compared m user password now s answer t)
    (hblocks : ∀ userId, answer ≠ .error (.error (.maxAttemptsReached userId))) :
    s.OnlyRecordOf t user.id := by
  refine MemoryState.onlyRecordOf_of_frame ?_ h.sessions h.policies fun id hne =>
    h.find?_of_ne hne.symm
  rcases h.users with ⟨-, husers⟩ | ⟨hanswer, -⟩
  · exact husers
  · exact absurd hanswer (hblocks user.id)

/-! ### Every way out of a login -/

/-- What a login changes, by its answer. -/
def LoginTouches (m : MemoryService) (request : LoginRequest) (client : Client)
    (w : World MemoryState) : Except Failure LoginResponse → World MemoryState → Prop
  | .ok response, v => ∃ user, w.stores.named? request.identity = some user ∧
      response.user = user.profile ∧ response.sessionId = m.sessionIdAt w.drawn ∧
      (w.stores.sessions.find? response.sessionId = none →
        v.stores.sessions.size = w.stores.sessions.size + 1) ∧
      v = { w with
        drawn := w.drawn + 1
        stores := { w.stores with
          sessions := w.stores.sessions.put response.sessionId {
            id := response.sessionId, userId := user.id, userAgent := client.userAgent
            ip := client.ip, createdAt := w.now, updatedAt := w.now }
          attempts := w.stores.attempts.erase user.id } }
  | .error (.error .accountNotFound), v
  | .error (.error .accountBlocked), v
  | .error (.error .accountNotVerified), v => v = w
  | .error (.error .incorrectPassword), v
  | .error (.error (.loginLocked _)), v =>
    ∃ user s, w.stores.named? request.identity = some user ∧
      v = { w with stores := s } ∧ w.stores.OnlyRecordOf s user.id
  | .error (.error (.maxAttemptsReached userId)), v =>
    ∃ user, w.stores.named? request.identity = some user ∧ user.id = userId ∧
      v = { w with stores := { w.stores with
        users := w.stores.users.change userId fun u =>
          { u with status := UserStatus.blocked.text, updatedAt := w.now } } }
  | .error (.error (.roleNotAssigned userId)), v =>
    ∃ user, w.stores.named? request.identity = some user ∧ user.id = userId ∧
      v = { w with stores := { w.stores with attempts := w.stores.attempts.erase userId } }
  -- A hash that cannot be used, a date beyond the calendar, a token that cannot be signed.
  | .error _, v =>
    ∃ user s drawn, w.stores.named? request.identity = some user ∧
      v = { w with drawn := drawn, stores := s } ∧ w.stores.OnlyRecordOf s user.id

namespace LoginTouches

variable {m : MemoryService} {request : LoginRequest} {client : Client} {w : World MemoryState}
  {user : User}

theorem of_inactive {e : ServiceError} (hstate : user.checkState = .error e) :
    LoginTouches m request client w (.error (.error e)) w := by
  rcases User.of_checkState_error hstate with rfl | rfl <;> exact rfl

/-- A refusal by the lockout or the password. -/
theorem of_refused {f : Failure} {s : MemoryState}
    (hnamed : w.stores.named? request.identity = some user)
    (h : Lockout.Compared m user request.password w.now w.stores (.error f) s) :
    LoginTouches m request client w (.error f) { w with stores := s } := by
  have hrecord := h.onlyRecordOf
  cases h with
  | wrong => exact ⟨user, _, hnamed, rfl, hrecord nofun⟩
  | unusable => exact ⟨user, _, w.drawn, hnamed, rfl, hrecord nofun⟩
  | locked => exact ⟨user, _, hnamed, rfl, hrecord nofun⟩
  | blocked => exact ⟨user, hnamed, rfl, rfl⟩
  | missing => exact ⟨user, _, w.drawn, hnamed, rfl, hrecord nofun⟩
  | undated => exact ⟨user, _, w.drawn, hnamed, rfl, hrecord nofun⟩

/-- No token is issued. -/
theorem of_unissued {sessionId role : String} {f : Failure} {drawn : Nat}
    (hnamed : w.stores.named? request.identity = some user)
    (h : m.app.tokens.issuePair w.now sessionId user.id role = .error f) :
    LoginTouches m request client w (.error f)
      { w with drawn := drawn, stores := w.stores.forget user.id } := by
  rcases TokenIssuer.issuePair_error h with rfl | ⟨reason, rfl⟩ <;>
    exact ⟨user, _, drawn, hnamed, rfl, w.stores.onlyRecordOf_forget user.id⟩

/-- From an accepted password on. -/
theorem of_accepted (hnamed : w.stores.named? request.identity = some user) (hact : user.MayAct)
    {s : MemoryState}
    (hrun : (m.app.validatePassword user request.password).runOn w =
      (.ok (), { w with stores := s }))
    {answer : Except Failure LoginResponse} {v : World MemoryState}
    (hends : (m.app.login request client).runOn w = (answer, v)) :
    LoginTouches m request client w answer v := by
  obtain rfl : s = w.stores.forget user.id := by
    cases Lockout.compared_of_runOn hrun
    rfl
  rw [MemoryService.runOn_login_of_accepted hnamed hact hrun] at hends
  split at hends
  · cases hends
    exact ⟨user, hnamed, rfl, rfl⟩
  · split at hends
    · cases hends
      exact of_unissued hnamed ‹_›
    · rename_i pair hpair
      obtain ⟨rfl, rfl⟩ := Prod.mk.inj hends
      -- The session stands under the identifier that the response tells.
      have hid : (m.app.loginResponse pair user).sessionId = m.sessionIdAt w.drawn :=
        TokenIssuer.issuePair_sessionId hpair
      refine ⟨user, hnamed, rfl, hid, fun hfree => ?_, ?_⟩
      · rw [hid] at hfree
        exact Table.size_put_of_none hfree _
      · rw [hid]
        rfl

/-- Where a login fails, no session comes or goes. -/
theorem sessions_of_error {f : Failure} {v : World MemoryState}
    (h : LoginTouches m request client w (.error f) v) :
    v.stores.sessions = w.stores.sessions := by
  unfold LoginTouches at h
  split at h
  · cases ‹Except.error f = .ok _›
  · rw [h]
  · rw [h]
  · rw [h]
  · obtain ⟨user, s, -, rfl, hs⟩ := h
    exact hs.sessions
  · obtain ⟨user, s, -, rfl, hs⟩ := h
    exact hs.sessions
  · obtain ⟨user, -, -, rfl⟩ := h
    rfl
  · obtain ⟨user, -, -, rfl⟩ := h
    rfl
  · obtain ⟨user, s, drawn, -, rfl, hs⟩ := h
    exact hs.sessions

end LoginTouches

/-- A login touches what its answer says and nothing else, and only one that
succeeds starts a session. -/
theorem login_touches (m : MemoryService) (request : LoginRequest) (client : Client)
    (w : World MemoryState) :
    LoginTouches m request client w ((m.app.login request client).runOn w).1
        ((m.app.login request client).runOn w).2 ∧
      ∀ f, ((m.app.login request client).runOn w).1 = .error f →
        ((m.app.login request client).runOn w).2.stores.sessions = w.stores.sessions := by
  cases hends : (m.app.login request client).runOn w with
  | mk answer v =>
  have htouches : LoginTouches m request client w answer v := by
    cases hnamed : w.stores.named? request.identity with
    | none =>
      rw [MemoryService.runOn_login_of_unnamed hnamed] at hends
      cases hends
      exact rfl
    | some user =>
      cases hstate : user.checkState with
      | error e =>
        rw [MemoryService.runOn_login_of_inactive hnamed hstate] at hends
        cases hends
        exact .of_inactive hstate
      | ok _ =>
        have hact : user.MayAct := User.checkState_eq_ok_iff.mp hstate
        obtain ⟨compared, s, hrun, hcompared⟩ :=
          Lockout.validatePassword_compared m user request.password w
        cases compared with
        | error f =>
          rw [MemoryService.runOn_login_of_refused hnamed hact hrun] at hends
          cases hends
          exact .of_refused hnamed hcompared
        | ok _ => exact .of_accepted hnamed hact hrun hends
  refine ⟨htouches, fun f hf => ?_⟩
  obtain rfl : answer = .error f := hf
  exact htouches.sessions_of_error

end Turnstile
