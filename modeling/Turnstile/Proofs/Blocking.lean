import Turnstile.Proofs.Accounts

/-!
A blocked account stays out. Only an operator gives an account the status of an active
one again, and every way in asks for that status when it is used, so neither a password
nor a token from before helps.
-/

namespace Turnstile

namespace MemoryState

/-- There is such a user, who is not active. -/
def IsBlocked (s : MemoryState) (userId : Int) : Prop :=
  ∃ user, s.users.find? userId = some user ∧ user.status ≠ "active"

variable {s : MemoryState} {userId : Int}

theorem IsBlocked.not_hasActive (h : s.IsBlocked userId) : ¬ s.HasActive userId := by
  obtain ⟨user, hfind, hstatus⟩ := h
  rintro ⟨other, hother, hactive, -⟩
  obtain rfl := Option.some.inj (hfind.symm.trans hother)
  exact hstatus hactive

theorem isBlocked_giveStatus_self (h : s.users.contains userId = true) {status : UserStatus}
    (hstatus : status ≠ .active) (now : Instant) :
    (s.giveStatus userId status now).IsBlocked userId := by
  have hgiven := status_giveStatus h status now
  obtain ⟨user, hfind, htext⟩ := Option.map_eq_some_iff.mp hgiven
  refine ⟨user, hfind, ?_⟩
  rw [htext]
  cases status <;> simp [UserStatus.text] at hstatus ⊢

theorem IsBlocked.giveStatus_of_ne (h : s.IsBlocked userId) {id : Int} (hid : id ≠ userId)
    (status : UserStatus) (now : Instant) : (s.giveStatus id status now).IsBlocked userId := by
  obtain ⟨user, hfind, hstatus⟩ := h
  refine ⟨user, ?_, hstatus⟩
  unfold giveStatus
  rw [Table.find?_change, if_neg hid]
  exact hfind

/-- A blocked account changes only with a status that an operator gives it. -/
theorem IsBlocked.giveStatus (h : s.IsBlocked userId) {id : Int} {status : UserStatus}
    (hne : id = userId → status ≠ .active) (now : Instant) :
    (s.giveStatus id status now).IsBlocked userId := by
  by_cases hid : id = userId
  · subst hid
    obtain ⟨user, hfind, -⟩ := h
    exact isBlocked_giveStatus_self (Option.isSome_iff_exists.mpr ⟨user, hfind⟩) (hne rfl) now
  · exact h.giveStatus_of_ne hid status now

/-- A new account is not that of anybody who is there. -/
theorem IsBlocked.put (h : s.IsBlocked userId) (hfiled : s.Filed) {user : User}
    (hid : user.id = s.nextUserId) :
    IsBlocked { s with users := s.users.put user.id user } userId := by
  obtain ⟨blocked, hfind, hstatus⟩ := h
  refine ⟨blocked, ?_, hstatus⟩
  have hne : user.id ≠ userId := by
    rintro rfl
    rw [hid, hfiled.find?_nextUserId] at hfind
    cases hfind
  rw [Table.find?_put, if_neg hne]
  exact hfind

theorem IsBlocked.of_users (h : s.IsBlocked userId) {t : MemoryState} (ht : t.users = s.users) :
    t.IsBlocked userId := by
  unfold IsBlocked
  rw [ht]
  exact h

end MemoryState

/-! ### Ways in -/

/-- A call lets a user in: a login with a name of the user, a refresh or a question to the
gate with a token of the user. -/
inductive Call.LetsIn [SizeLimit] (m : MemoryService) (c : Call) (userId : Int) : Prop
  | login {request : LoginRequest} {client : Client} {user : User} {response : LoginResponse}
      (hop : c.operation = .login request client)
      (hnamed : c.world.stores.named? request.identity = some user) (huser : user.id = userId)
      (hok : ((m.app.login request client).runOn c.world).1 = .ok response)
  | refresh {request : RefreshRequest} {client : Client} {claims : TokenClaims}
      {response : LoginResponse} (hop : c.operation = .refresh request client)
      (htoken : m.app.tokens.verify c.world.now (bearerToken request.refreshToken) = .ok claims)
      (huser : claims.userId = .ok userId)
      (hok : ((m.app.refresh request client).runOn c.world).1 = .ok response)
  | authorize {bearer elementId : String} {claims : TokenClaims} {answer : Int}
      (hop : c.operation = .authorize bearer elementId)
      (htoken : m.app.tokens.verify c.world.now (bearerToken bearer) = .ok claims)
      (huser : claims.userId = .ok userId)
      (hok : ((m.app.authorize bearer elementId).runOn c.world).1 = .ok answer)

/-- Nobody is let in but an active user. -/
theorem Call.LetsIn.hasActive [SizeLimit] {m : MemoryService} {c : Call} {userId : Int}
    (hfiled : c.world.stores.Filed) (h : c.LetsIn m userId) :
    c.world.stores.HasActive userId := by
  cases h with
  | @login request client user response _ hnamed huser hok =>
    have hends := login_ends m request client c.world
    rw [hok] at hends
    generalize ((m.app.login request client).runOn c.world).2 = v at hends
    cases hends with
    | started hfound hact =>
      rw [hnamed] at hfound
      cases hfound
      exact ⟨user, huser ▸ hfiled.find?_of_named hnamed, hact⟩
  | @refresh request client claims response _ htoken huser hok =>
    have hends := refresh_ends m request client c.world
    rw [hok] at hends
    generalize ((m.app.refresh request client).runOn c.world).2 = v at hends
    cases hends with
    | renewed hverify _ _ hactive =>
      rw [htoken] at hverify
      cases hverify
      obtain ⟨found, hfound, hact⟩ := hactive
      rw [huser] at hfound
      cases hfound
      exact hact
  | authorize _ htoken huser hok =>
    obtain ⟨found, element, ⟨⟨⟨hverify, -⟩, hsubject⟩, -, hact⟩, -⟩ :=
      Gate.granted_of_authorize hok
    rw [htoken] at hverify
    cases hverify
    unfold TokenClaims.userId at huser
    rw [hsubject] at huser
    cases huser
    exact hact

/-! ### Runs -/

section Runs

variable {m : MemoryService} {userId : Int}

/-- Who is locked out is blocked. -/
theorem Call.LocksOut.isBlocked [SizeLimit] {c : Call} (h : c.LocksOut m userId) :
    (c.next m).stores.IsBlocked userId := by
  have hstep := account_step m c
  generalize husers : (c.next m).stores.users = users at hstep
  cases hstep with
  | kept hlocks => exact absurd h (hlocks userId)
  | created hop =>
    obtain ⟨request, client, hlogin, -⟩ := h
    rw [hop] at hlogin
    cases hlogin
  | @lockedOut other hother hknown =>
    obtain rfl : other = userId := h.unique hother
    exact (MemoryState.isBlocked_giveStatus_self hknown (by simp) _).of_users husers
  | given hop =>
    obtain ⟨request, client, hlogin, -⟩ := h
    rw [hop] at hlogin
    cases hlogin

/-- No step but that of an operator makes a blocked account active again. -/
theorem Call.next_isBlocked [SizeLimit] {c : Call} (hfiled : c.world.stores.Filed)
    (hop : c.operation ≠ .setStatus userId .active) (h : c.world.stores.IsBlocked userId) :
    (c.next m).stores.IsBlocked userId := by
  have hstep := account_step m c
  generalize husers : (c.next m).stores.users = users at hstep
  cases hstep with
  | kept => exact h.of_users husers
  | created _ hid => exact (h.put hfiled hid).of_users husers
  | lockedOut => exact (h.giveStatus (by simp) _).of_users husers
  | @given id status hgiven =>
    refine (h.giveStatus ?_ _).of_users husers
    rintro rfl rfl
    exact hop hgiven

/-- A blocked account stays blocked over a whole run, and nobody gets in with it. -/
theorem MemoryService.after_isBlocked [SizeLimit] {w : World MemoryState} (hfiled : w.stores.Filed)
    {ops : List Operation} (hops : .setStatus userId .active ∉ ops)
    (h : w.stores.IsBlocked userId) :
    (∀ c ∈ m.calls w ops, c.world.stores.IsBlocked userId ∧ ¬ c.LetsIn m userId) ∧
      (m.after w ops).stores.IsBlocked userId := by
  induction ops generalizing w with
  | nil => exact ⟨fun c hc => (nomatch hc), h⟩
  | cons op rest ih =>
    obtain ⟨hop, hrest⟩ := not_or.mp (fun hmem => hops (List.mem_cons.mpr hmem))
    have hnext := Call.next_isBlocked (m := m) (c := ⟨w, op⟩) hfiled (Ne.symm hop) h
    obtain ⟨hcalls, hafter⟩ := ih (Call.next_filed (c := ⟨w, op⟩) hfiled) hrest hnext
    refine ⟨fun c hc => ?_, hafter⟩
    rcases List.mem_cons.mp hc with rfl | hc
    · exact ⟨h, fun hin => h.not_hasActive (hin.hasActive hfiled)⟩
    · exact hcalls c hc

/-- From the moment an account is blocked, as it is by a login that is answered that there
were too many attempts, it stays blocked, and neither a password nor a token lets the user
in, until an operator makes the account active. -/
theorem blocked_stays_out [SizeLimit] (m : MemoryService) {w : World MemoryState}
    (hfiled : w.stores.Filed)
    {userId : Int} {past ops : List Operation} (hops : .setStatus userId .active ∉ ops)
    (h : (m.after w past).stores.IsBlocked userId ∨
      ∃ c, (m.calls w past).getLast? = some c ∧ c.LocksOut m userId) :
    (∀ c ∈ m.calls (m.after w past) ops,
        c.world.stores.IsBlocked userId ∧ ¬ c.LetsIn m userId) ∧
      (m.after w (past ++ ops)).stores.IsBlocked userId := by
  have hblocked : (m.after w past).stores.IsBlocked userId := by
    rcases h with h | ⟨c, hlast, hlocks⟩
    · exact h
    · rw [m.after_of_getLast? hlast]
      exact hlocks.isBlocked
  obtain ⟨hcalls, hafter⟩ := MemoryService.after_isBlocked (m := m)
    (MemoryService.after_filed hfiled past) hops hblocked
  refine ⟨hcalls, ?_⟩
  unfold MemoryService.after at hafter ⊢
  rwa [List.foldl_append]

/-- The ninth wrong password in a row blocks the account, so a week later the right one lets
nobody in. -/
theorem ninth_guess_stays_out :
    let client : Client := ⟨"127.0.0.1", "agent"⟩
    let past : List Operation := List.replicate 9 (.login ⟨"1", "guess"⟩ client)
    let ops : List Operation := [.clock (.ofSeconds 604800), .login ⟨"1", "secret"⟩ client]
    (∃ c, (Sample.service.calls Sample.world past).getLast? = some c ∧
        c.LocksOut Sample.service 1) ∧
      (∀ c ∈ Sample.service.calls (Sample.service.after Sample.world past) ops,
        c.world.stores.IsBlocked 1 ∧ ¬ c.LetsIn Sample.service 1) ∧
      (Sample.service.after Sample.world (past ++ ops)).stores.IsBlocked 1 := by
  intro client past ops
  have hfiled : Sample.world.stores.Filed := by
    refine ⟨fun row hrow => ?_, List.pairwise_singleton _ _⟩
    obtain rfl := List.mem_singleton.mp hrow
    rfl
  have hlocks : Call.LocksOut Sample.service
      ⟨Sample.service.after Sample.world (past.take 8), .login ⟨"1", "guess"⟩ client⟩ 1 := by
    refine ⟨_, _, rfl, ?_⟩
    dsimp only
    -- An answer with a response in it cannot be compared, but one without it can.
    have hanswer : (((Sample.service.app.login ⟨"1", "guess"⟩ client).runOn
        (Sample.service.after Sample.world (past.take 8))).1.map fun _ => ()) =
          .error (.error (.maxAttemptsReached 1)) := by
      decide +kernel
    generalize ((Sample.service.app.login ⟨"1", "guess"⟩ client).runOn
        (Sample.service.after Sample.world (past.take 8))).1 = answer at hanswer ⊢
    cases answer with
    | ok response => cases hanswer
    | error f => exact congrArg _ (Except.error.inj hanswer)
  have hlast : ∃ c, (Sample.service.calls Sample.world past).getLast? = some c ∧
      c.LocksOut Sample.service 1 := ⟨_, rfl, hlocks⟩
  exact ⟨hlast, blocked_stays_out Sample.service hfiled (by simp [ops]) (.inr hlast)⟩

end Runs

end Turnstile
