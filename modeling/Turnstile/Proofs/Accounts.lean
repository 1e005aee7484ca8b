import Turnstile.Proofs.Registration
import Turnstile.Proofs.Run

/-!
What a step does to the table of accounts: a registration adds one, a login that
fails too often or an operator gives one another status, and nothing else touches it.
Accounts stay in the order of their own identifiers, so a new identifier is one that
nobody has had.
-/

namespace Turnstile

/-! ### Order -/

namespace MemoryState

/-- Every account stands under its own identifier, in ascending order. -/
structure Filed (s : MemoryState) : Prop where
  keyed : s.Keyed
  ascending : s.users.Ascending

namespace Filed

variable {s : MemoryState}

theorem put (h : s.Filed) (user : User) :
    Filed { s with users := s.users.put user.id user } :=
  ⟨(GrewTo.put s user).keyed h.keyed, h.ascending.put user.id user⟩

theorem giveStatus (h : s.Filed) (userId : Int) (status : UserStatus) (now : Instant) :
    (s.giveStatus userId status now).Filed :=
  ⟨(GrewTo.giveStatus s userId status now).keyed h.keyed, h.ascending.change ..⟩

theorem of_users (h : s.Filed) {t : MemoryState} (ht : t.users = s.users) : t.Filed :=
  ⟨(GrewTo.of_users ht).keyed h.keyed, ht ▸ h.ascending⟩

/-- The next identifier is not in use. -/
theorem find?_nextUserId (h : s.Filed) : s.users.find? s.nextUserId = none := by
  cases hfind : s.users.find? s.nextUserId with
  | none => rfl
  | some user =>
    have hle := h.ascending.le_last (Table.mem_of_find? hfind)
    unfold nextUserId at hle
    omega

/-- Who is found by a name is the user with that identifier. -/
theorem find?_of_named (h : s.Filed) {name : String} {user : User}
    (hnamed : s.named? name = some user) : s.users.find? user.id = some user := by
  obtain ⟨row, hrow, rfl⟩ := List.mem_map.mp (mem_of_named hnamed)
  rw [h.keyed row hrow]
  exact h.ascending.find?_of_mem hrow

end Filed

end MemoryState

/-! ### Steps -/

/-- A comparison of a password leaves the accounts as they are, unless it answers that
there were too many attempts: then it blocks the account. -/
theorem Lockout.Compared.users {m : MemoryService} {user : User} {password : String}
    {now : Instant} {s t : MemoryState} {answer : Except Failure Unit}
    (h : Lockout.Compared m user password now s answer t) :
    (∀ userId, answer ≠ .error (.error (.maxAttemptsReached userId))) ∧ t.users = s.users ∨
      answer = .error (.error (.maxAttemptsReached user.id)) ∧
        s.users.contains user.id = true ∧ t = s.giveStatus user.id .blocked now := by
  cases h with
  | right => exact .inl ⟨by simp, rfl⟩
  | wrong => exact .inl ⟨by simp, (Lockout.checked_frame ..).1⟩
  | unusable => exact .inl ⟨by simp, (Lockout.checked_frame ..).1⟩
  | locked => exact .inl ⟨by simp, rfl⟩
  | blocked _ hknown => exact .inr ⟨rfl, hknown, rfl⟩
  | missing => exact .inl ⟨by simp, rfl⟩
  | undated => exact .inl ⟨by simp, (MemoryState.dropExpired_frame ..).1⟩

/-- Policies have no part in the comparison of a password. -/
theorem Lockout.Compared.policies {m : MemoryService} {user : User} {password : String}
    {now : Instant} {s t : MemoryState} {answer : Except Failure Unit}
    (h : Lockout.Compared m user password now s answer t) : t.policies = s.policies := by
  have hdrop : (s.dropExpired user.id now).policies = s.policies := by
    unfold MemoryState.dropExpired
    split
    · split <;> rfl
    · rfl
  have hchecked : (Lockout.checked s user.id now).policies = s.policies := by
    unfold Lockout.checked
    split
    · exact hdrop
    · rfl
  cases h with
  | right => rfl
  | wrong => exact hchecked
  | unusable => exact hchecked
  | locked => rfl
  | blocked => rfl
  | missing => rfl
  | undated => exact hdrop

/-- A login is answered that there were too many attempts for the user. -/
def Call.LocksOut (m : MemoryService) (c : Call) (userId : Int) : Prop :=
  ∃ request client, c.operation = .login request client ∧
    ((m.app.login request client).runOn c.world).1 =
      .error (.error (.maxAttemptsReached userId))

theorem Call.LocksOut.unique {m : MemoryService} {c : Call} {id₁ id₂ : Int}
    (h₁ : c.LocksOut m id₁) (h₂ : c.LocksOut m id₂) : id₂ = id₁ := by
  obtain ⟨_, _, hop₁, hanswer₁⟩ := h₁
  obtain ⟨_, _, hop₂, hanswer₂⟩ := h₂
  rw [hop₁] at hop₂
  cases hop₂
  rw [hanswer₁] at hanswer₂
  cases hanswer₂
  rfl

/-- What a step does to the accounts. -/
inductive AccountStep (m : MemoryService) (c : Call) : Table Int User → Prop
  | kept (hlocks : ∀ userId, ¬ c.LocksOut m userId) : AccountStep m c c.world.stores.users
  | created {user : User} {request : RegisterRequest} (hop : c.operation = .register request)
      (hid : user.id = c.world.stores.nextUserId) (hstatus : user.status = "active") :
      AccountStep m c (c.world.stores.users.put user.id user)
  | lockedOut {userId : Int} (h : c.LocksOut m userId)
      (hknown : c.world.stores.users.contains userId = true) :
      AccountStep m c (c.world.stores.giveStatus userId .blocked c.world.now).users
  | given {userId : Int} {status : UserStatus} (hop : c.operation = .setStatus userId status) :
      AccountStep m c (c.world.stores.giveStatus userId status c.world.now).users

theorem Call.not_locksOut {m : MemoryService} {w : World MemoryState} {op : Operation}
    (hop : ∀ request client, op ≠ .login request client) (userId : Int) :
    ¬ Call.LocksOut m ⟨w, op⟩ userId :=
  fun ⟨request, client, h, _⟩ => hop request client h

namespace AccountStep

variable {m : MemoryService} {w v : World MemoryState}

theorem of_login {request : LoginRequest} {client : Client}
    {answer : Except Failure LoginResponse}
    (hrun : (m.app.login request client).runOn w = (answer, v))
    (h : LoginEnd m request client w answer v) :
    AccountStep m ⟨w, .login request client⟩ v.stores.users := by
  have hkept (hne : ∀ userId, answer ≠ .error (.error (.maxAttemptsReached userId))) :
      AccountStep m ⟨w, .login request client⟩ w.stores.users := by
    refine .kept ?_
    rintro userId ⟨_, _, hop, hanswer⟩
    cases hop
    rw [hrun] at hanswer
    exact hne userId hanswer
  cases h with
  | unnamed => exact hkept (by simp)
  | inactive _ hstate =>
    rcases User.of_checkState_error hstate with rfl | rfl <;> exact hkept (by simp)
  | refused _ _ hvalidated =>
    rcases (Lockout.compared_of_runOn hvalidated).users with ⟨hne, husers⟩ | ⟨he, hknown, rfl⟩
    · dsimp only
      rw [husers]
      exact hkept fun userId he => hne userId (congrArg _ (Except.error.inj he))
    · obtain rfl := Except.error.inj he
      exact .lockedOut ⟨request, client, rfl, by rw [hrun]⟩ hknown
  | unissued _ _ hvalidated hreason =>
    rcases (Lockout.compared_of_runOn hvalidated).users with ⟨-, husers⟩ | ⟨he, -⟩
    · dsimp only
      rw [husers]
      refine hkept fun userId he => ?_
      obtain rfl := Except.error.inj he
      rcases hreason with he | ⟨_, _, hissue⟩
      · cases he
      · rcases TokenIssuer.issuePair_error hissue with he | ⟨_, he⟩ <;> cases he
    · cases he
  | started _ _ hvalidated =>
    rcases (Lockout.compared_of_runOn hvalidated).users with ⟨-, husers⟩ | ⟨he, -⟩
    · dsimp only
      rw [husers]
      exact hkept (by simp)
    · cases he

theorem of_register {request : RegisterRequest} {answer : Except Failure UserProfile}
    (h : RegisterEnd m request w answer v) :
    AccountStep m ⟨w, .register request⟩ v.stores.users := by
  have hlocks : ∀ userId, ¬ Call.LocksOut m ⟨w, .register request⟩ userId :=
    Call.not_locksOut (by simp)
  have hcreated {user : User} {s : MemoryState} (hcreate : MemoryState.createUser
      (m.app.newUser request w.drawn) w.now w.stores = (.ok user, s)) :
      AccountStep m ⟨w, .register request⟩ s.users := by
    obtain ⟨hid, hstatus, rfl⟩ := MemoryState.of_createUser hcreate
    exact .created rfl hid hstatus
  cases h with
  | invalid => exact .kept hlocks
  | known => exact .kept hlocks
  | clashed hcreate =>
    obtain rfl := MemoryState.of_createUser_error hcreate
    exact .kept hlocks
  | alone hcreate => exact hcreated hcreate
  | joined hcreate =>
    dsimp only
    exact hcreated hcreate
  | unassigned hcreate => exact hcreated hcreate

theorem of_setStatus {userId : Int} {status : UserStatus} :
    AccountStep m ⟨w, .setStatus userId status⟩
      ((Action.store (m.app.stores.users.setStatus userId status)).runOn w).2.stores.users := by
  rw [MemoryService.app_stores, Lockout.runOn_setStatus]
  split
  · exact .given rfl
  · exact .kept (Call.not_locksOut (by simp))

theorem of_users {op : Operation} (h : v.stores.users = w.stores.users)
    (hop : ∀ request client, op ≠ .login request client) :
    AccountStep m ⟨w, op⟩ v.stores.users := by
  rw [h]
  exact .kept (Call.not_locksOut hop)

theorem of_refresh {request : RefreshRequest} {client : Client}
    {answer : Except Failure LoginResponse} (h : RefreshEnd m request client w answer v) :
    AccountStep m ⟨w, .refresh request client⟩ v.stores.users :=
  .of_users h.leaves.2.1 (by simp)

theorem of_logout {bearer : String} {answer : Except Failure Unit}
    (h : LogoutEnd m bearer w answer v) : AccountStep m ⟨w, .logout bearer⟩ v.stores.users :=
  .of_users h.leaves.2.1 (by simp)

theorem of_accounts {op : Operation} (h : v.accounts = w.accounts)
    (hop : ∀ request client, op ≠ .login request client) :
    AccountStep m ⟨w, op⟩ v.stores.users :=
  .of_users (congrArg World.Accounts.users h) hop

end AccountStep

variable [SizeLimit]

/-- Every step does one of these. -/
theorem account_step (m : MemoryService) (c : Call) :
    AccountStep m c (c.next m).stores.users := by
  obtain ⟨w, op⟩ := c
  cases op <;> rw [Call.next, MemoryService.step]
  case login request client =>
    have hends := login_ends m request client w
    generalize hrun : (m.app.login request client).runOn w = r at hends
    obtain ⟨answer, v⟩ := r
    exact .of_login hrun hends
  case refresh request client => exact .of_refresh (refresh_ends m request client w)
  case logout bearer => exact .of_logout (logout_ends m bearer w)
  case register request => exact .of_register (register_ends m request w)
  case authorize bearer elementId =>
    exact .of_accounts (congrArg World.accounts (Gate.authorize_world m w bearer elementId))
      (by simp)
  case admin call => exact .of_accounts (AdminCall.leaves_accounts m call w) (by simp)
  case setStatus userId status => exact .of_setStatus
  case clock now => exact .of_users rfl (by simp)

/-- Accounts stay in order. -/
theorem Call.next_filed {m : MemoryService} {c : Call} (h : c.world.stores.Filed) :
    (c.next m).stores.Filed := by
  have hstep := account_step m c
  generalize husers : (c.next m).stores.users = users at hstep
  cases hstep with
  | kept => exact h.of_users husers
  | created => exact (h.put _).of_users husers
  | lockedOut => exact (h.giveStatus ..).of_users husers
  | given => exact (h.giveStatus ..).of_users husers

theorem MemoryService.after_filed {m : MemoryService} {w : World MemoryState} (h : w.stores.Filed)
    (ops : List Operation) : (m.after w ops).stores.Filed := by
  induction ops generalizing w with
  | nil => exact h
  | cons op rest ih => exact ih (Call.next_filed (c := ⟨w, op⟩) h)

end Turnstile
