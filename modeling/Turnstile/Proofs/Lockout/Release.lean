import Turnstile.Proofs.Blocking
import Turnstile.Proofs.Lockout.History
import Turnstile.Proofs.Token.Bearer

/-!
When a user gets in again. As long as two failures or more count, the right password is refused
like any other, and they count until their record expires, which is later than the end of the
lock that the user was told, and does not depend on the status of the account. So neither the
end of a lock nor an operator lets a user in, but only the end of the record.
-/

namespace Turnstile

namespace Lockout

/-- What a login is refused with while so many failures count, from two on: the lock for them,
the block of the account where there is none, or a fault where the lock cannot be dated. -/
def refusal (userId : Int) (count : Nat) (now : Instant) : Failure :=
  match blockSeconds? count with
  | none => .error (.maxAttemptsReached userId)
  | some seconds =>
    if Recordable now seconds (count + 1) then .error (.loginLocked (now.later seconds))
    else .fault .timeOutOfRange

theorem refusal_of_many {userId : Int} {count : Nat} (h : 8 ≤ count) (now : Instant) :
    refusal userId count now = .error (.maxAttemptsReached userId) := by
  unfold refusal
  rw [blockSeconds?_eq_none_iff.mpr h]

section Compared

variable {m : MemoryService} {user : User} {password : String} {now : Instant}
  {s t : MemoryState} {answer : Except Failure Unit}

/-- With two failures or more, the password does not matter. -/
theorem Compared.refused (h : Compared m user password now s answer t)
    (hmany : 2 ≤ s.failures user.id now) (hknown : s.users.contains user.id = true) :
    answer = .error (refusal user.id (s.failures user.id now) now) := by
  cases h with
  | right hn => omega
  | wrong hn => omega
  | unusable hn => omega
  | locked _ hs hdates =>
    unfold refusal
    rw [hs]
    dsimp only
    rw [if_pos hdates]
  | blocked hn => rw [refusal_of_many hn]
  | missing _ huser => rw [hknown] at huser; cases huser
  | undated hs hdates =>
    unfold refusal
    rw [hs]
    dsimp only
    rw [if_neg hdates]

end Compared

end Lockout

/-! ### Refused logins -/

/-- The errors by which the lockout refuses a login. -/
def ServiceError.IsOfLockout : ServiceError → Prop
  | .loginLocked _ | .maxAttemptsReached _ => True
  | _ => False

section Refused

variable {m : MemoryService} {request : LoginRequest} {client : Client} {w : World MemoryState}
  {user : User}

/-- A login that the lockout refuses was for a user who may act, and the comparison of the
password refused it. -/
theorem compared_of_lockout [SizeLimit] {e : ServiceError} (he : e.IsOfLockout)
    (hanswer : ((m.app.login request client).runOn w).1 = .error (.error e)) :
    ∃ user s, w.stores.named? request.identity = some user ∧ user.MayAct ∧
      Lockout.Compared m user request.password w.now w.stores (.error (.error e)) s ∧
      m.step w (.login request client) = { w with stores := s } := by
  have hends := login_ends m request client w
  rw [hanswer] at hends
  rw [MemoryService.step]
  generalize ((m.app.login request client).runOn w).2 = v at hends ⊢
  cases hends with
  | unnamed => exact he.elim
  | inactive _ hstate => rcases User.of_checkState_error hstate with rfl | rfl <;> exact he.elim
  | refused hnamed hact hrun => exact ⟨_, _, hnamed, hact, Lockout.compared_of_runOn hrun, rfl⟩
  | unissued _ _ _ hreason =>
    rcases hreason with hrole | ⟨_, _, hissue⟩
    · cases hrole
      exact he.elim
    · rcases TokenIssuer.issuePair_error hissue with hfault | ⟨_, hinternal⟩
      · cases hfault
      · cases hinternal
        exact he.elim

/-- A login that a lock refuses leaves a record of one failure more, which is kept beyond the
end of the lock. -/
theorem row_of_lock [SizeLimit] {lockEnd : Instant}
    (hnamed : w.stores.named? request.identity = some user)
    (hlocked : ((m.app.login request client).runOn w).1 = .error (.error (.loginLocked lockEnd))) :
    ∃ seconds, 2 ≤ w.stores.failures user.id w.now ∧
      Lockout.blockSeconds? (w.stores.failures user.id w.now) = some seconds ∧
      lockEnd = w.now.later seconds ∧
      (m.step w (.login request client)).stores.attempts.find? user.id =
        some (Lockout.record w.now seconds (w.stores.failures user.id w.now + 1),
          lockEnd.later (Lockout.graceSeconds (w.stores.failures user.id w.now + 1))) := by
  obtain ⟨other, s, hother, -, hcompared, hstep⟩ := compared_of_lockout (by trivial) hlocked
  obtain rfl := Option.some.inj (hnamed.symm.trans hother)
  rw [hstep]
  cases hcompared with
  | locked htwo hs =>
    refine ⟨_, htwo, hs, rfl, ?_⟩
    rw [MemoryState.find?_keep_self, Instant.later_later]
    rfl

/-- As long as two failures or more count, the lockout refuses the login. -/
theorem MemoryService.login_refused (hkeyed : w.stores.Keyed)
    (hnamed : w.stores.named? request.identity = some user) (hact : user.MayAct)
    (hmany : 2 ≤ w.stores.failures user.id w.now) :
    ((m.app.login request client).runOn w).1 =
      .error (Lockout.refusal user.id (w.stores.failures user.id w.now) w.now) := by
  obtain ⟨answer, s, hrun, hcompared⟩ :=
    Lockout.validatePassword_compared m user request.password w
  obtain rfl := hcompared.refused hmany (MemoryState.contains_of_named hkeyed hnamed)
  rw [runOn_login_of_refused hnamed hact hrun]

/-- A login that blocks the account leaves the record that it found. -/
theorem Call.LocksOut.row [SizeLimit] {c : Call} {userId : Int} (h : c.LocksOut m userId) :
    ∃ found expiry, c.world.stores.attempts.find? userId = some (found, expiry) ∧
      8 ≤ found.count ∧ c.world.now.nanos < expiry.nanos ∧
      (c.next m).stores.attempts.find? userId = some (found, expiry) := by
  obtain ⟨w, op⟩ := c
  obtain ⟨request, client, rfl, hanswer⟩ := h
  obtain ⟨user, s, -, -, hcompared, hstep⟩ := compared_of_lockout (by trivial) hanswer
  rw [Call.next, hstep]
  dsimp only at hanswer hcompared ⊢
  cases hcompared with
  | blocked hmany =>
    obtain ⟨found, hlive, hcount⟩ := MemoryState.live_of_failures (Nat.ne_zero_of_lt hmany)
    obtain ⟨expiry, hrow, hlt⟩ := MemoryState.row_of_live hlive
    exact ⟨found, expiry, hrow, hcount ▸ hmany, hlt, hrow⟩

end Refused

/-! ### Rightful logins -/

/-- Nothing but the lockout speaks against the login: it names a user who may act, with the right
password and a role for which tokens can be issued. -/
structure RightfulLogin (m : MemoryService) (request : LoginRequest) (w : World MemoryState)
    (user : User) (role : Role) : Prop where
  named : w.stores.named? request.identity = some user
  active : user.MayAct
  password : m.passwords.verify request.password user.passwordHash = .ok true
  assigned : (w.stores.policies.rolesOf user.id).head? = some role
  tokens : m.app.tokens.CanIssue w.now (m.sessionIdAt w.drawn) user.id role.name

namespace RightfulLogin

variable {m : MemoryService} {request : LoginRequest} {w : World MemoryState} {user : User}
  {role : Role}

/-- Without failures it succeeds, and leaves the accounts as they are. -/
theorem admitted (h : RightfulLogin m request w user role)
    (hnone : w.stores.failures user.id w.now = 0) (client : Client) :
    ∃ response v, (m.app.login request client).runOn w = (.ok response, v) ∧
      v.stores.users = w.stores.users := by
  obtain ⟨pair, hpair⟩ := TokenIssuer.issuePair_ok_iff.mpr h.tokens
  obtain ⟨rest, hroles⟩ := List.head?_eq_some_iff.mp h.assigned
  have hrun := Lockout.runOn_validatePassword_of_right hnone h.password
  have hlogin : (m.app.login request client).runOn w = _ :=
    MemoryService.runOn_login_of_accepted h.named h.active hrun
  have hstored : (w.stores.forget user.id).policies.rolesOf user.id = role :: rest := hroles
  rw [hstored] at hlogin
  dsimp only at hlogin
  rw [hpair] at hlogin
  exact ⟨_, _, hlogin, rfl⟩

variable {found : LoginAttempt} {expiry : Instant}

theorem admitted_of_expired (h : RightfulLogin m request w user role)
    (hrow : w.stores.attempts.find? user.id = some (found, expiry))
    (hexpired : expiry.nanos ≤ w.now.nanos) (client : Client) :
    ∃ response v, (m.app.login request client).runOn w = (.ok response, v) ∧
      v.stores.users = w.stores.users :=
  h.admitted (MemoryState.failures_of_expired hrow hexpired) client

theorem refused_of_live (h : RightfulLogin m request w user role) (hkeyed : w.stores.Keyed)
    (hrow : w.stores.attempts.find? user.id = some (found, expiry)) (hcount : 2 ≤ found.count)
    (hlive : w.now.nanos < expiry.nanos) (client : Client) :
    ((m.app.login request client).runOn w).1 =
      .error (Lockout.refusal user.id found.count w.now) := by
  have hfailures := MemoryState.failures_of_live (MemoryState.live_of_row hrow hlive)
  rw [← hfailures] at hcount ⊢
  exact MemoryService.login_refused hkeyed h.named h.active hcount

/-- Taking away the record takes away the failures. -/
theorem admitted_of_forgotten (h : RightfulLogin m request w user role) (client : Client) :
    ∃ response v, (m.app.login request client).runOn
        { w with stores := w.stores.forget user.id } = (.ok response, v) ∧
      v.stores.users = w.stores.users := by
  have husers : (w.stores.forget user.id).users = w.stores.users := rfl
  have hnamed := (MemoryState.named?_of_users husers request.identity).trans h.named
  have hforgotten :
      RightfulLogin m request { w with stores := w.stores.forget user.id } user role :=
    ⟨hnamed, h.active, h.password, h.assigned, h.tokens⟩
  have hrow : (w.stores.forget user.id).attempts.find? user.id = none := by
    rw [MemoryState.find?_forget, if_pos rfl]
  exact hforgotten.admitted (MemoryState.failures_of_none hrow) client

end RightfulLogin

/-! ### After a lock -/

/-- A login that a lock refuses leaves a record that lasts beyond the end of the lock, five
minutes for each failure and so a quarter of an hour at the least. If the user does not log in in
between, the next login that only the lockout can refuse succeeds from the end of the record on,
and before that it is refused like a login with one failure more. -/
theorem login_after_lock [SizeLimit] (m : MemoryService) {w : World MemoryState}
    (hfiled : w.stores.Filed) {request : LoginRequest} {client : Client} {user : User}
    {lockEnd : Instant} (hnamed : w.stores.named? request.identity = some user)
    (hlocked : ((m.app.login request client).runOn w).1 = .error (.error (.loginLocked lockEnd)))
    {ops : List Operation}
    (hothers : ∀ c ∈ m.calls (m.step w (.login request client)) ops, ¬ c.IsLoginOf user.id)
    {next : LoginRequest} {found : User} {role : Role} (hid : found.id = user.id)
    (hnext : RightfulLogin m next (m.after (m.step w (.login request client)) ops) found role)
    (client' : Client) :
    let count := w.stores.failures user.id w.now
    let recordEnd := lockEnd.later (Lockout.graceSeconds (count + 1))
    let v := m.after (m.step w (.login request client)) ops
    let answer := ((m.app.login next client').runOn v).1
    (2 ≤ count ∧ count ≤ 7) ∧ (lockEnd.later 900).nanos ≤ recordEnd.nanos ∧
      (recordEnd.nanos ≤ v.now.nanos → ∃ response, answer = .ok response) ∧
      (v.now.nanos < recordEnd.nanos →
        answer = .error (Lockout.refusal user.id (count + 1) v.now)) := by
  obtain ⟨seconds, htwo, hs, -, hrow⟩ := row_of_lock hnamed hlocked
  obtain ⟨hseven, -, -, -⟩ := Lockout.blockSeconds?_bounds hs
  have hkeyed : (m.after (m.step w (.login request client)) ops).stores.Keyed :=
    (MemoryService.after_filed (Call.next_filed (c := ⟨w, _⟩) hfiled) ops).keyed
  -- Nobody touches the record in between, so it is the one that the lock has left.
  rw [← Lockout.find?_after hothers, ← hid] at hrow
  generalize m.after (m.step w (.login request client)) ops = v at hnext hrow hkeyed ⊢
  rw [← hid]
  rw [← hid] at htwo hseven
  intro count recordEnd v answer
  refine ⟨⟨htwo, hseven⟩, ?_, fun hexpired => ?_, fun hlive => ?_⟩
  · show (lockEnd.later 900).nanos ≤ (lockEnd.later (Lockout.graceSeconds (count + 1))).nanos
    rw [Instant.later_nanos, Instant.later_nanos, Lockout.graceSeconds]
    omega
  · obtain ⟨response, u, hrun, -⟩ := hnext.admitted_of_expired hrow hexpired client'
    exact ⟨response, congrArg Prod.fst hrun⟩
  · exact hnext.refused_of_live hkeyed hrow (Nat.le_succ_of_le htwo) hlive client'

/-! ### Waiting for the end of a lock -/

namespace Sample

def guess : Operation := .login ⟨"1", "guess"⟩ client

def right : LoginRequest := ⟨"1", "secret"⟩

def memberRole : Role := ⟨1, "member", "", .ofSeconds 0, .ofSeconds 0⟩

/-- A refusal says what an answer is, but an answer with a response in it cannot be compared. -/
theorem refused_of_map {α : Type} {answer : Except Failure α} {f : Failure}
    (h : answer.map (fun _ => ()) = .error f) : answer = .error f := by
  cases answer with
  | ok response => cases h
  | error other => exact congrArg _ (Except.error.inj h)

theorem rightfulLogin {w : World MemoryState} {u : User} (hnamed : w.stores.named? "1" = some u)
    (hact : u.MayAct) (hhash : u.passwordHash = "secret") {role : Role}
    (hassigned : (w.stores.policies.rolesOf u.id).head? = some role) {now : Instant}
    (hnow : w.now = now) (haccess : (now.addSeconds? (service.app.tokens.lifetime .access)).isSome)
    (hrefresh : (now.addSeconds? (service.app.tokens.lifetime .refresh)).isSome) :
    RightfulLogin service right w u role where
  named := hnamed
  active := hact
  password := by rw [hhash]; rfl
  assigned := hassigned
  tokens := by
    refine ⟨fun kind => ?_, fun _ => ⟨[], rfl⟩⟩
    rw [hnow]
    cases kind with
    | access => exact haccess
    | refresh => exact hrefresh

/-- Two guesses lock the user out for thirty seconds, but the record lasts for fifteen minutes
more, and then the right password is accepted. -/
theorem accepted_after_record :
    let w := service.after world [guess, guess]
    let v := service.after (service.step w (.login right client)) [.clock (.ofSeconds 930)]
    ((service.app.login right client).runOn w).1 =
        .error (.error (.loginLocked (.ofSeconds 30))) ∧
      ∃ response, ((service.app.login right client).runOn v).1 = .ok response := by
  intro w v
  have hfiled : w.stores.Filed := MemoryService.after_filed world_filed _
  have hlocked : ((service.app.login right client).runOn w).1 =
      .error (.error (.loginLocked (.ofSeconds 30))) := refused_of_map (by decide +kernel)
  have hothers : ∀ c ∈ service.calls (service.step w (.login right client))
      [.clock (.ofSeconds 930)], ¬ c.IsLoginOf user.id := by
    intro c hc hlogin
    rw [List.mem_singleton.mp hc] at hlogin
    cases hlogin
  refine ⟨hlocked, ?_⟩
  have hright : RightfulLogin service right v user memberRole :=
    rightfulLogin (by decide +kernel) ⟨rfl, rfl⟩ rfl (by decide +kernel)
      (show _ = Instant.ofSeconds 930 by decide +kernel) (by decide) (by decide)
  have hnamed : w.stores.named? right.identity = some user := by decide +kernel
  obtain ⟨-, -, hadmitted, -⟩ :=
    login_after_lock service hfiled hnamed hlocked hothers rfl hright client
  exact hadmitted (by decide +kernel)

/-- At the end of the lock that was told, the right password is refused once more. -/
theorem refused_after_lock :
    let w := service.after world [guess, guess]
    let v := service.after (service.step w (.login right client)) [.clock (.ofSeconds 30)]
    ((service.app.login right client).runOn w).1 =
        .error (.error (.loginLocked (.ofSeconds 30))) ∧
      (∃ role, RightfulLogin service right v user role) ∧
      ((service.app.login right client).runOn v).1 =
        .error (.error (.loginLocked (.ofSeconds 90))) := by
  intro w v
  refine ⟨refused_of_map (by decide +kernel), ⟨memberRole, ?_⟩,
    refused_of_map (by decide +kernel)⟩
  exact rightfulLogin (by decide +kernel) ⟨rfl, rfl⟩ rfl (by decide +kernel)
    (show _ = Instant.ofSeconds 30 by decide +kernel) (by decide) (by decide)

end Sample

/-! ### After a block -/

namespace Lockout

/-- The record expires in a day and forty minutes at the latest. -/
def ExpiresSoon (now : Instant) (row : Option (LoginAttempt × Instant)) : Prop :=
  ∀ found expiry, row = some (found, expiry) → expiry.nanos ≤ (now.later 88800).nanos

theorem expiresSoon_none (now : Instant) : ExpiresSoon now none :=
  fun _ _ h => nomatch h

theorem expiresSoon_keep {prior : Nat} {seconds : Int} (hs : blockSeconds? prior = some seconds)
    (s : MemoryState) (userId : Int) (now : Instant) :
    ExpiresSoon now ((s.keep userId (record now seconds (prior + 1))).attempts.find? userId) := by
  rw [MemoryState.find?_keep_self]
  rintro found expiry ⟨⟩
  have hlife := life_bounds hs
  show (now.later (seconds + graceSeconds (prior + 1))).nanos ≤ (now.later 88800).nanos
  rw [Instant.later_nanos, Instant.later_nanos]
  omega

theorem expiresSoon_dropExpired {s : MemoryState} {userId : Int} {now : Instant}
    (h : ExpiresSoon now (s.attempts.find? userId)) :
    ExpiresSoon now ((s.dropExpired userId now).attempts.find? userId) := by
  cases hlive : s.liveAttempt? userId now with
  | none =>
    rw [MemoryState.find?_dropExpired_of_none hlive]
    exact expiresSoon_none now
  | some found =>
    rw [MemoryState.dropExpired_of_live hlive]
    exact h

/-- No record is ever made to last longer. -/
theorem expiresSoon_invariant (m : MemoryService) (userId : Int) :
    RecordInvariant m userId ExpiresSoon where
  later := fun hle h found expiry hrow => by
    have hsoon := h found expiry hrow
    rw [Instant.later_nanos] at hsoon ⊢
    omega
  compared := fun hid hcompared h => by
    subst hid
    cases hcompared with
    | right =>
      rw [MemoryState.find?_forget, if_pos rfl]
      exact expiresSoon_none _
    | wrong hle => exact expiresSoon_keep (blockSeconds?_of_le hle) _ _ _
    | unusable =>
      unfold checked
      split
      · exact expiresSoon_dropExpired h
      · exact expiresSoon_keep (blockSeconds?_of_le (Nat.le_refl 1)) _ _ _
    | locked _ hs => exact expiresSoon_keep hs _ _ _
    | blocked => exact h
    | missing => exact h
    | undated => exact expiresSoon_dropExpired h

end Lockout

/-- A login that blocks the account leaves the record as it is, and it stays for a day and forty
minutes at the most, whatever an operator does about the status. Once the account is active
again, the next login that only the lockout can refuse blocks it anew as long as the record
stays; after that it succeeds and leaves the account active, as it does at once where the record
is taken away. -/
theorem login_after_block [SizeLimit] (m : MemoryService) {w : World MemoryState}
    (hfiled : w.stores.Filed) {userId : Int} (hfresh : w.stores.attempts.find? userId = none)
    {past : List Operation} (hforward : ∀ c ∈ m.calls w past, c.Forward) {c : Call}
    (hlast : (m.calls w past).getLast? = some c) (hlocks : c.LocksOut m userId) :
    ∃ recordEnd : Instant, c.world.now.nanos < recordEnd.nanos ∧
      recordEnd.nanos ≤ (c.world.now.later 88800).nanos ∧
      ∀ {ops : List Operation} {request : LoginRequest} {user : User} {role : Role},
        (∀ d ∈ m.calls (m.after w past) ops, ¬ d.IsLoginOf userId) → user.id = userId →
        RightfulLogin m request (m.after w (past ++ ops)) user role → ∀ client : Client,
        let v := m.after w (past ++ ops)
        let run := (m.app.login request client).runOn
        (v.now.nanos < recordEnd.nanos →
          (run v).1 = .error (.error (.maxAttemptsReached userId)) ∧
            (run v).2.stores.IsBlocked userId) ∧
        (recordEnd.nanos ≤ v.now.nanos →
          ∃ response u, run v = (.ok response, u) ∧ u.stores.users = v.stores.users) ∧
        ∃ response u, run { v with stores := v.stores.forget userId } = (.ok response, u) ∧
          u.stores.users = v.stores.users := by
  obtain ⟨found, recordEnd, hrow, hmany, hlive, hnext⟩ := hlocks.row
  have hstart : Lockout.ExpiresSoon w.now (w.stores.attempts.find? userId) := by
    rw [hfresh]
    exact Lockout.expiresSoon_none w.now
  -- However the record came about, it does not last longer from the last step on.
  have hsoon := (Lockout.expiresSoon_invariant m userId).at_call hforward hstart
    (List.mem_of_getLast? hlast)
  refine ⟨recordEnd, hlive, hsoon found recordEnd hrow, ?_⟩
  rintro ops request user role hothers rfl hrightful client
  have hkeyed : (m.after w (past ++ ops)).stores.Keyed :=
    (MemoryService.after_filed hfiled _).keyed
  have hstays : (m.after w (past ++ ops)).stores.attempts.find? user.id =
      some (found, recordEnd) := by
    rw [m.after_append, Lockout.find?_after hothers, m.after_of_getLast? hlast, hnext]
  generalize m.after w (past ++ ops) = v at hrightful hkeyed hstays ⊢
  dsimp only
  refine ⟨fun hlive => ?_, fun hexpired => ?_, ?_⟩
  · have hanswer := hrightful.refused_of_live hkeyed hstays (by omega) hlive client
    rw [Lockout.refusal_of_many hmany] at hanswer
    have hagain : Call.LocksOut m ⟨v, .login request client⟩ user.id :=
      ⟨request, client, rfl, hanswer⟩
    have hblocked := hagain.isBlocked
    rw [Call.next, MemoryService.step] at hblocked
    dsimp only at hblocked
    exact ⟨hanswer, hblocked⟩
  · exact hrightful.admitted_of_expired hstays hexpired client
  · exact hrightful.admitted_of_forgotten client

/-! ### Waiting for an operator -/

namespace Sample

theorem guesses_lock_out :
    (service.calls world (List.replicate 9 guess)).getLast? =
        some ⟨service.after world (List.replicate 8 guess), guess⟩ ∧
      Call.LocksOut service ⟨service.after world (List.replicate 8 guess), guess⟩ 1 :=
  ⟨rfl, _, _, rfl, refused_of_map (by decide +kernel)⟩

/-- A day and forty minutes after the ninth guess the record has gone, and with the status that
an operator gives the user is let in. -/
theorem accepted_after_unblock :
    let past := List.replicate 9 guess
    let ops : List Operation := [.clock (.ofSeconds 88800), .setStatus 1 .active]
    (∃ c, (service.calls world past).getLast? = some c ∧ c.LocksOut service 1) ∧
      ∃ response u, (service.app.login right client).runOn (service.after world (past ++ ops)) =
          (.ok response, u) ∧
        u.stores.users = (service.after world (past ++ ops)).stores.users := by
  intro past ops
  obtain ⟨hlast, hlocks⟩ := guesses_lock_out
  have hforward : ∀ c ∈ service.calls world past, c.Forward := by
    decide +kernel
  have hothers : ∀ c ∈ service.calls (service.after world past) ops, ¬ c.IsLoginOf 1 := by
    refine List.forall_mem_cons.mpr ⟨fun hlogin => ?_, ?_⟩
    · cases hlogin
    · refine List.forall_mem_singleton.mpr fun hlogin => ?_
      cases hlogin
  have hright : RightfulLogin service right (service.after world (past ++ ops))
      { user with updatedAt := .ofSeconds 88800 } memberRole :=
    rightfulLogin (by decide +kernel) ⟨rfl, rfl⟩ rfl (by decide +kernel)
      (show _ = Instant.ofSeconds 88800 by decide +kernel) (by decide) (by decide)
  obtain ⟨recordEnd, -, hsoon, hlater⟩ :=
    login_after_block service world_filed rfl hforward hlast hlocks
  have hexpired : recordEnd.nanos ≤ (service.after world (past ++ ops)).now.nanos :=
    Int.le_trans hsoon (by decide +kernel)
  obtain ⟨-, hadmitted, -⟩ := hlater hothers rfl hright client
  exact ⟨⟨_, hlast, hlocks⟩, hadmitted hexpired⟩

/-- Before that, the right password blocks the account again that an operator has made active. -/
theorem blocked_after_unblock :
    let past := List.replicate 9 guess
    let ops : List Operation := [.setStatus 1 .active]
    let v := service.after world (past ++ ops)
    (∃ c, (service.calls world past).getLast? = some c ∧ c.LocksOut service 1) ∧
      (∃ role, RightfulLogin service right v user role) ∧
      ((service.app.login right client).runOn v).1 = .error (.error (.maxAttemptsReached 1)) ∧
      (service.step v (.login right client)).stores.IsBlocked 1 := by
  intro past ops v
  have hright : RightfulLogin service right v user memberRole :=
    rightfulLogin (by decide +kernel) ⟨rfl, rfl⟩ rfl (by decide +kernel)
      (show _ = Instant.ofSeconds 0 by decide +kernel) (by decide) (by decide)
  have hagain : Call.LocksOut service ⟨v, .login right client⟩ 1 :=
    ⟨_, _, rfl, refused_of_map (by decide +kernel)⟩
  have hblocked := hagain.isBlocked
  rw [Call.next] at hblocked
  dsimp only at hblocked
  obtain ⟨hlast, hlocks⟩ := guesses_lock_out
  exact ⟨⟨_, hlast, hlocks⟩, ⟨_, hright⟩, refused_of_map (by decide +kernel), hblocked⟩

end Sample

end Turnstile
