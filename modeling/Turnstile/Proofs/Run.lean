import Turnstile.Proofs.Admin
import Turnstile.Proofs.Gate
import Turnstile.Proofs.Login

/-!
Runs of the service: the operations that callers and time bring about, one
after the other. `calls` is the history of a run, each operation with the
world in which it was made. What most operations have in common is said once
here: accounts are never lost, and only logins touch the attempts.
-/

namespace Turnstile

/-- What can happen to a service. -/
inductive Operation where
  | login (request : LoginRequest) (client : Client)
  | refresh (request : RefreshRequest) (client : Client)
  | logout (bearer : String)
  | register (request : RegisterRequest)
  | authorize (bearer elementId : String)
  | admin (call : AdminCall)
  | setStatus (userId : Int) (status : UserStatus)
  /-- The clock shows another time. -/
  | clock (now : Instant)

/-- One step of a run: an operation, and the world in which it was made. -/
structure Call where
  world : World MemoryState
  operation : Operation

namespace MemoryService

variable (m : MemoryService)

/-- The world after an operation, whatever came of it. -/
def step [SizeLimit] (w : World MemoryState) : Operation → World MemoryState
  | .login request client => ((m.app.login request client).runOn w).2
  | .refresh request client => ((m.app.refresh request client).runOn w).2
  | .logout bearer => ((m.app.logout bearer).runOn w).2
  | .register request => ((m.app.register request).runOn w).2
  | .authorize bearer elementId => ((m.app.authorize bearer elementId).runOn w).2
  | .admin call => ((call.action m.app).runOn w).2
  | .setStatus userId status =>
    ((Action.store (m.app.stores.users.setStatus userId status)).runOn w).2
  | .clock now => { w with now := now }

end MemoryService

/-- The world after a step. -/
def Call.next [SizeLimit] (m : MemoryService) (c : Call) : World MemoryState :=
  m.step c.world c.operation

namespace MemoryService

variable [SizeLimit] (m : MemoryService)

/-- The world after a run. -/
def after (w : World MemoryState) (ops : List Operation) : World MemoryState :=
  ops.foldl m.step w

/-- The history of a run. -/
def calls (w : World MemoryState) : List Operation → List Call
  | [] => []
  | op :: rest => ⟨w, op⟩ :: calls (m.step w op) rest

theorem after_append (w : World MemoryState) (ops ops' : List Operation) :
    m.after w (ops ++ ops') = m.after (m.after w ops) ops' :=
  List.foldl_append ..

/-- A run goes on from the world that it has led to. -/
theorem calls_append (w : World MemoryState) (ops ops' : List Operation) :
    m.calls w (ops ++ ops') = m.calls w ops ++ m.calls (m.after w ops) ops' := by
  induction ops generalizing w with
  | nil => rfl
  | cons first rest ih =>
    rw [List.cons_append, calls, calls, ih]
    rfl

/-- The last operation of a run is made in the world that the others lead to. -/
theorem calls_concat (w : World MemoryState) (ops : List Operation) (op : Operation) :
    m.calls w (ops ++ [op]) = m.calls w ops ++ [⟨m.after w ops, op⟩] :=
  m.calls_append w ops [op]

theorem operations_calls (w : World MemoryState) (ops : List Operation) :
    (m.calls w ops).map (·.operation) = ops := by
  induction ops generalizing w with
  | nil => rfl
  | cons op rest ih => exact congrArg (op :: ·) (ih (m.step w op))

/-- Whatever comes before a step of a history is the history of a run of its
own. -/
theorem calls_eq_append {w : World MemoryState} {ops : List Operation} {pre post : List Call}
    (h : m.calls w ops = pre ++ post) :
    ∃ ops₁ ops₂, ops = ops₁ ++ ops₂ ∧ pre = m.calls w ops₁ ∧
      post = m.calls (m.after w ops₁) ops₂ := by
  induction pre generalizing w ops with
  | nil => exact ⟨[], ops, rfl, rfl, h.symm⟩
  | cons c pre ih =>
    cases ops with
    | nil => cases h
    | cons op rest =>
      obtain ⟨hc, hrest⟩ := List.cons.inj h
      obtain ⟨ops₁, ops₂, hops, hpre, hpost⟩ := ih hrest
      refine ⟨op :: ops₁, ops₂, congrArg (op :: ·) hops, ?_, hpost⟩
      rw [← hc, hpre]
      rfl

/-- The last step of a history leads to the world after the run. -/
theorem after_of_getLast? {w : World MemoryState} {ops : List Operation} {c : Call}
    (h : (m.calls w ops).getLast? = some c) : m.after w ops = c.next m := by
  induction ops generalizing w with
  | nil => cases h
  | cons op rest ih =>
    cases rest with
    | nil =>
      obtain rfl := Option.some.inj h
      rfl
    | cons next rest =>
      rw [calls, calls, List.getLast?_cons_cons] at h
      exact ih h

end MemoryService

/-! ### Accounts -/

namespace MemoryState

/-- Every account stands under its own identifier. -/
def Keyed (s : MemoryState) : Prop := ∀ row ∈ s.users.rows, row.2.id = row.1

/-- Accounts were only added, or changed in place. -/
structure GrewTo (s t : MemoryState) : Prop where
  keyed : s.Keyed → t.Keyed
  kept : ∀ userId, s.users.contains userId = true → t.users.contains userId = true

namespace GrewTo

variable {s t : MemoryState}

theorem of_users (h : t.users = s.users) : s.GrewTo t := by
  refine ⟨fun hk => ?_, fun userId hc => ?_⟩
  · unfold Keyed
    rw [h]
    exact hk
  · rw [h]
    exact hc

theorem refl (s : MemoryState) : s.GrewTo s := .of_users rfl

theorem trans {u : MemoryState} (h₁ : s.GrewTo t) (h₂ : t.GrewTo u) : s.GrewTo u :=
  ⟨fun hk => h₂.keyed (h₁.keyed hk),
    fun userId hc => h₂.kept userId (h₁.kept userId hc)⟩

theorem giveStatus (s : MemoryState) (userId : Int) (status : UserStatus) (now : Instant) :
    s.GrewTo (s.giveStatus userId status now) := by
  refine ⟨fun hk row hrow => ?_, fun id hc => ?_⟩
  · rcases Table.mem_change hrow with hold | ⟨old, hold, rfl⟩
    · exact hk row hold
    · exact hk old hold
  · rw [MemoryState.contains_giveStatus]
    exact hc

theorem put (s : MemoryState) (user : User) :
    s.GrewTo { s with users := s.users.put user.id user } := by
  refine ⟨fun hk row hrow => ?_, fun id hc => ?_⟩
  · rcases Table.mem_put hrow with rfl | hold
    · rfl
    · exact hk row hold
  · unfold Table.contains at hc ⊢
    rw [Table.find?_put]
    split
    · rfl
    · exact hc

end GrewTo

theorem mem_of_named {s : MemoryState} {name : String} {user : User}
    (h : s.named? name = some user) : user ∈ s.users.values := by
  unfold named? at h
  split at h
  · exact List.mem_of_find?_eq_some h
  · exact List.mem_of_find?_eq_some h

/-- Who is found by a name is stored under the own identifier. -/
theorem contains_of_named {s : MemoryState} (hk : s.Keyed) {name : String} {user : User}
    (h : s.named? name = some user) : s.users.contains user.id = true := by
  obtain ⟨row, hrow, rfl⟩ := List.mem_map.mp (mem_of_named h)
  rw [hk row hrow]
  exact Table.contains_of_mem hrow

end MemoryState

/-! ### Steps that are not about sessions or attempts -/

/-- A step with which no session, no attempt and no clock has anything to do.
-/
structure World.QuietTo (w v : World MemoryState) : Prop where
  now : v.now = w.now
  sessions : v.stores.sessions = w.stores.sessions
  attempts : v.stores.attempts = w.stores.attempts
  grew : w.stores.GrewTo v.stores

namespace World.QuietTo

variable {w v : World MemoryState}

theorem refl (w : World MemoryState) : w.QuietTo w := ⟨rfl, rfl, rfl, .refl w.stores⟩

theorem trans {u : World MemoryState} (h₁ : w.QuietTo v) (h₂ : v.QuietTo u) :
    w.QuietTo u :=
  ⟨h₂.now.trans h₁.now, h₂.sessions.trans h₁.sessions,
    h₂.attempts.trans h₁.attempts, h₁.grew.trans h₂.grew⟩

theorem of_accounts (h : v.accounts = w.accounts) : w.QuietTo v :=
  ⟨congrArg World.Accounts.now h, congrArg World.Accounts.sessions h,
    congrArg World.Accounts.attempts h, .of_users (congrArg World.Accounts.users h)⟩

end World.QuietTo

namespace Action

variable {α β : Type}

/-- Every step of the call is quiet. -/
def Quiet (a : Action MemoryState α) : Prop :=
  ∀ w : World MemoryState, w.QuietTo (a.runOn w).2

namespace Quiet

theorem bind {a : Action MemoryState α} {f : α → Action MemoryState β} (ha : a.Quiet)
    (hf : ∀ x, (f x).Quiet) : (a >>= f).Quiet := by
  intro w
  have h₁ := ha w
  rw [runOn_bind]
  cases h : a.runOn w with
  | mk r v =>
    rw [h] at h₁
    cases r with
    | ok x => exact h₁.trans (hf x v)
    -- The rest is not run any more, and what was done is not undone.
    | error e => exact h₁

theorem of_leaves {a : Action MemoryState α} (h : Leaves id a) : a.Quiet := by
  intro w
  rw [show (a.runOn w).2 = w from h w]
  exact .refl w

theorem of_accounts {a : Action MemoryState α} (h : Leaves World.accounts a) : a.Quiet :=
  fun w => .of_accounts (h w)

theorem draw : (Action.draw : Action MemoryState Nat).Quiet :=
  fun w => ⟨rfl, rfl, rfl, .refl w.stores⟩

theorem createUser (u : NewUser) :
    (Action.store (MemoryState.stores.users.create u)).Quiet := by
  intro w
  rw [runOn_store]
  change w.QuietTo { w with stores := (MemoryState.createUser u w.now w.stores).2 }
  unfold MemoryState.createUser
  split
  · exact .refl w
  · exact ⟨rfl, rfl, rfl, .put ..⟩

theorem setStatus (userId : Int) (status : UserStatus) :
    (Action.store (MemoryState.stores.users.setStatus userId status)).Quiet := by
  intro w
  rw [Lockout.runOn_setStatus]
  split
  · exact ⟨rfl, rfl, rfl, .giveStatus ..⟩
  · exact .refl w

end Quiet

end Action

namespace MemoryService

variable (m : MemoryService)

theorem leaves_isRegistered (email phone : String) :
    Action.Leaves id (m.app.isRegistered email phone) := by
  unfold App.isRegistered
  refine .bind (.store fun _ => rfl) fun found => .ite (.pure true) ?_
  exact .bind (.store fun _ => rfl) fun _ => .pure _

/-- Registering adds an account at most, and gives it a role. -/
theorem quiet_register (request : RegisterRequest) :
    (m.app.register request).Quiet := by
  unfold App.register
  refine .bind (.of_leaves (.check _)) fun _ => ?_
  refine .bind (.of_leaves (m.leaves_isRegistered _ _)) fun registered => ?_
  cases registered with
  | true => exact fun w => .refl w
  | false =>
    refine .bind .draw fun number => .bind (.createUser _) fun user => ?_
    refine .bind (.of_leaves (.store fun _ => rfl)) fun found => ?_
    cases found with
    | none => exact .of_leaves (.pure _)
    | some role =>
      have hassign := AdminCall.leaves_policyStep (PolicyTables.assignRole user.id role.id)
      exact .bind (.of_accounts hassign) fun _ => .of_leaves (.pure _)

/-- Asking the gate changes nothing at all. -/
theorem quiet_authorize [SizeLimit] (bearer elementId : String) :
    (m.app.authorize bearer elementId).Quiet :=
  .of_leaves fun w => Gate.authorize_world m w bearer elementId

theorem quiet_admin [SizeLimit] (call : AdminCall) : (call.action m.app).Quiet :=
  .of_accounts (AdminCall.leaves_accounts m call)

end MemoryService

/-! ### Every step -/

theorem Lockout.Compared.sessions {m : MemoryService} {user : User} {password : String}
    {now : Instant} {s t : MemoryState} {answer : Except Failure Unit}
    (h : Lockout.Compared m user password now s answer t) :
    t.sessions = s.sessions := by
  cases h with
  | right => rfl
  | wrong => exact (Lockout.checked_frame ..).2
  | unusable => exact (Lockout.checked_frame ..).2
  | locked => rfl
  | blocked => rfl
  | missing => rfl
  | undated => exact (MemoryState.dropExpired_frame ..).2

theorem Lockout.Compared.grew {m : MemoryService} {user : User} {password : String}
    {now : Instant} {s t : MemoryState} {answer : Except Failure Unit}
    (h : Lockout.Compared m user password now s answer t) : s.GrewTo t := by
  cases h with
  | right => exact .of_users rfl
  | wrong => exact .of_users (Lockout.checked_frame ..).1
  | unusable => exact .of_users (Lockout.checked_frame ..).1
  | locked => exact .of_users rfl
  | blocked => exact .giveStatus ..
  | missing => exact .refl s
  | undated => exact .of_users (MemoryState.dropExpired_frame ..).1

theorem LoginEnd.grew {m : MemoryService} {request : LoginRequest} {client : Client}
    {w v : World MemoryState} {answer : Except Failure LoginResponse}
    (h : LoginEnd m request client w answer v) : w.stores.GrewTo v.stores := by
  cases h with
  | unnamed => exact .refl w.stores
  | inactive => exact .refl w.stores
  | refused _ _ hrun => exact (Lockout.compared_of_runOn hrun).grew
  | unissued _ _ hrun => exact (Lockout.compared_of_runOn hrun).grew
  | started _ _ hrun => exact (Lockout.compared_of_runOn hrun).grew.trans (.of_users rfl)

variable [SizeLimit]

/-- No step of a run loses an account. -/
theorem MemoryService.step_grew (m : MemoryService) (w : World MemoryState)
    (op : Operation) :
    w.stores.GrewTo (m.step w op).stores := by
  cases op <;> rw [MemoryService.step]
  case login request client => exact (login_ends m request client w).grew
  case refresh request client => exact .of_users (refresh_ends m request client w).leaves.2.1
  case logout bearer => exact .of_users (logout_ends m bearer w).leaves.2.1
  case register request => exact (m.quiet_register request w).grew
  case authorize bearer elementId => exact (m.quiet_authorize bearer elementId w).grew
  case admin call => exact (m.quiet_admin call w).grew
  case setStatus userId status => exact (Action.Quiet.setStatus userId status w).grew
  case clock now => exact .refl w.stores

/-- No run loses an account. -/
theorem MemoryService.after_grew (m : MemoryService) (w : World MemoryState)
    (ops : List Operation) : w.stores.GrewTo (m.after w ops).stores := by
  induction ops generalizing w with
  | nil => exact .refl _
  | cons op rest ih => exact (m.step_grew w op).trans (ih (m.step w op))

/-- Whoever has an account after one step of a run has it at the end. -/
theorem MemoryService.grew_of_mem_calls {m : MemoryService} {w : World MemoryState}
    {ops : List Operation} {c : Call} (h : c ∈ m.calls w ops) :
    (c.next m).stores.GrewTo (m.after w ops).stores := by
  induction ops generalizing w with
  | nil => cases h
  | cons op rest ih =>
    rcases List.mem_cons.mp h with rfl | hrest
    · exact m.after_grew _ rest
    · exact ih hrest

end Turnstile
