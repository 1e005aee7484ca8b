import Turnstile.Proofs.FirstLogin
import Turnstile.Proofs.Noninterference

/-!
The record of failures of one user through a run. A step leaves it as it is, or it compares a
password for the user; `RecordStep` says so, and what time and comparisons preserve is then
preserved by every run.
-/

namespace Turnstile

/-- The step is a login with a name of the user. -/
def Call.IsLoginOf (c : Call) (userId : Int) : Prop :=
  c.world.stores.loginOf? c.operation = some userId

theorem Call.isLoginOf_of_named {w : World MemoryState} {request : LoginRequest} {client : Client}
    {user : User} (hnamed : w.stores.named? request.identity = some user) :
    Call.IsLoginOf ⟨w, .login request client⟩ user.id :=
  congrArg (Option.map User.id) hnamed

/-- Before a step of a history there is a shorter run. -/
theorem MemoryService.run_before [SizeLimit] {m : MemoryService} {w : World MemoryState}
    {ops : List Operation} {c : Call} (h : c ∈ m.calls w ops) :
    ∃ past, c.world = m.after w past ∧ ∀ d ∈ m.calls w past, d ∈ m.calls w ops := by
  obtain ⟨pre, post, hsplit⟩ := List.append_of_mem h
  obtain ⟨past, rest, -, hpast, hrest⟩ := m.calls_eq_append hsplit
  refine ⟨past, ?_, fun d hd => ?_⟩
  · cases rest with
    | nil => cases hrest
    | cons op rest => exact congrArg Call.world (List.cons.inj hrest).1
  · rw [hsplit, hpast]
    exact List.mem_append_left _ hd

/-! ### Time -/

theorem LoginEnd.now {m : MemoryService} {request : LoginRequest} {client : Client}
    {w v : World MemoryState} {answer : Except Failure LoginResponse}
    (h : LoginEnd m request client w answer v) : v.now = w.now := by
  cases h <;> rfl

variable [SizeLimit]

/-- Only the clock moves time, and it does not set it back. -/
theorem Call.now_le_next (m : MemoryService) {c : Call} (hforward : c.Forward) :
    c.world.now.nanos ≤ (c.next m).now.nanos := by
  obtain ⟨w, op⟩ := c
  cases op <;> rw [Call.next, MemoryService.step]
  case login request client => rw [(login_ends m request client w).now]
  case refresh request client => rw [(refresh_ends m request client w).leaves.1]
  case logout bearer => rw [(logout_ends m bearer w).leaves.1]
  case register request => rw [(m.quiet_register request w).now]
  case authorize bearer elementId => rw [(m.quiet_authorize bearer elementId w).now]
  case admin call => rw [(m.quiet_admin call w).now]
  case setStatus userId status =>
    rw [MemoryService.app_stores, (Action.Quiet.setStatus userId status w).now]
  case clock now => exact hforward now rfl

instance : (c : Call) → Decidable c.Forward
  | ⟨w, .clock now⟩ =>
    decidable_of_iff (w.now.nanos ≤ now.nanos)
      ⟨fun h _ hop => Operation.clock.inj hop ▸ h, fun h => h now rfl⟩
  | ⟨_, .login _ _⟩ | ⟨_, .refresh _ _⟩ | ⟨_, .logout _⟩ | ⟨_, .register _⟩ | ⟨_, .authorize _ _⟩
  | ⟨_, .admin _⟩ | ⟨_, .setStatus _ _⟩ => isTrue nofun

namespace Lockout

variable {m : MemoryService} {userId : Int}

/-! ### Steps -/

/-- What a step does to the record of a user: nothing, unless it compares a password for the
user. -/
inductive RecordStep (m : MemoryService) (userId : Int) (c : Call) : Prop
  | kept (hrow : (c.next m).stores.attempts.find? userId = c.world.stores.attempts.find? userId)
  | compared {user : User} {password : String} {answer : Except Failure Unit} {s : MemoryState}
      (hlogin : c.IsLoginOf userId) (hid : user.id = userId)
      (h : Compared m user password c.world.now c.world.stores answer s)
      (hattempts : (c.next m).stores.attempts = s.attempts)

theorem RecordStep.of_login {request : LoginRequest} {client : Client} {w v : World MemoryState}
    {answer : Except Failure LoginResponse} (hends : LoginEnd m request client w answer v)
    (hnext : Call.next m ⟨w, .login request client⟩ = v) :
    RecordStep m userId ⟨w, .login request client⟩ := by
  have hcompared {user : User} {answer : Except Failure Unit} {s : MemoryState}
      (hnamed : w.stores.named? request.identity = some user)
      (hrun : (m.app.validatePassword user request.password).runOn w =
        (answer, { w with stores := s })) (hattempts : v.stores.attempts = s.attempts) :
      RecordStep m userId ⟨w, .login request client⟩ := by
    rw [← hnext] at hattempts
    by_cases hid : user.id = userId
    · exact .compared (hid ▸ Call.isLoginOf_of_named hnamed) hid (compared_of_runOn hrun) hattempts
    · refine .kept ?_
      rw [hattempts]
      exact (compared_of_runOn hrun).find?_of_ne hid
  cases hends with
  | unnamed => exact .kept (by rw [hnext])
  | inactive => exact .kept (by rw [hnext])
  | refused hnamed _ hrun => exact hcompared hnamed hrun rfl
  | unissued hnamed _ hrun => exact hcompared hnamed hrun rfl
  | started hnamed _ hrun => exact hcompared hnamed hrun rfl

theorem record_step (m : MemoryService) (userId : Int) (c : Call) : RecordStep m userId c := by
  obtain ⟨w, op⟩ := c
  by_cases hop : ∃ request client, op = .login request client
  · obtain ⟨request, client, rfl⟩ := hop
    exact .of_login (login_ends m request client w) rfl
  · exact .kept (congrArg (·.find? userId)
      (m.step_attempts w fun request client heq => hop ⟨request, client, heq⟩))

/-- As long as the user does not log in, the record stays. -/
theorem find?_after {w : World MemoryState} {ops : List Operation}
    (hothers : ∀ c ∈ m.calls w ops, ¬ c.IsLoginOf userId) :
    (m.after w ops).stores.attempts.find? userId = w.stores.attempts.find? userId := by
  induction ops generalizing w with
  | nil => rfl
  | cons op rest ih =>
    have hrest := ih fun c hc => hothers c (List.mem_cons_of_mem _ hc)
    refine hrest.trans ?_
    cases record_step m userId ⟨w, op⟩ with
    | kept hrow => exact hrow
    | compared hlogin => exact absurd hlogin (hothers _ List.mem_cons_self)

/-! ### Invariants -/

/-- What holds of the time and the record of a user whatever happens: it is not lost when time
goes on, nor when a password is compared for the user. -/
structure RecordInvariant (m : MemoryService) (userId : Int)
    (P : Instant → Option (LoginAttempt × Instant) → Prop) : Prop where
  later : ∀ {now later row}, now.nanos ≤ later.nanos → P now row → P later row
  compared : ∀ {user password now s answer t}, user.id = userId →
    Compared m user password now s answer t →
    P now (s.attempts.find? userId) → P now (t.attempts.find? userId)

namespace RecordInvariant

variable {P : Instant → Option (LoginAttempt × Instant) → Prop}

theorem next (hP : RecordInvariant m userId P) {c : Call} (hforward : c.Forward)
    (h : P c.world.now (c.world.stores.attempts.find? userId)) :
    P (c.next m).now ((c.next m).stores.attempts.find? userId) := by
  refine hP.later (c.now_le_next m hforward) ?_
  cases record_step m userId c with
  | kept hrow =>
    rw [hrow]
    exact h
  | compared _ hid hcompared hattempts =>
    rw [hattempts]
    exact hP.compared hid hcompared h

theorem after (hP : RecordInvariant m userId P) {w : World MemoryState} {ops : List Operation}
    (hforward : ∀ c ∈ m.calls w ops, c.Forward)
    (h : P w.now (w.stores.attempts.find? userId)) :
    P (m.after w ops).now ((m.after w ops).stores.attempts.find? userId) := by
  induction ops generalizing w with
  | nil => exact h
  | cons op rest ih =>
    exact ih (fun c hc => hforward c (List.mem_cons_of_mem _ hc))
      (hP.next (c := ⟨w, op⟩) (hforward _ List.mem_cons_self) h)

theorem at_call (hP : RecordInvariant m userId P) {w : World MemoryState} {ops : List Operation}
    (hforward : ∀ c ∈ m.calls w ops, c.Forward) (h : P w.now (w.stores.attempts.find? userId))
    {c : Call} (hc : c ∈ m.calls w ops) :
    P c.world.now (c.world.stores.attempts.find? userId) := by
  obtain ⟨past, hworld, hpast⟩ := MemoryService.run_before hc
  rw [hworld]
  exact hP.after (fun d hd => hforward d (hpast d hd)) h

end RecordInvariant

end Lockout

end Turnstile
