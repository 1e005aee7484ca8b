import Mathlib.Logic.Equiv.Basic
import Turnstile.Proofs.Accounts
import Turnstile.Proofs.Lockout.GuessRate
import Turnstile.Proofs.TwoRuns

/-!
Logins of one user do not show in what the others see. Two runs are compared, one with all
logins and one without those of a certain user. At every moment the two worlds are alike in all
that belongs to the others, but for the names of their sessions, since identifiers are drawn
from one supply.
-/

namespace Turnstile

/-! ### What belongs to the others -/

/-- The session of a user under an identifier. -/
def MemoryState.sessionOf? (s : MemoryState) (userId : Int) (id : String) : Option Session :=
  (s.sessions.find? id).filter fun x => x.userId = userId

/-- The worlds are alike in all that does not belong to a certain user, whose account may have
another status in the one than in the other. Sessions of the second world have another name in
the first. -/
structure World.Alike (other : Int) (ρ : Equiv.Perm String) (w v : World MemoryState) : Prop where
  now : w.now = v.now
  accounts : (w.stores.giveStatus other .blocked (.ofSeconds 0)).users =
    (v.stores.giveStatus other .blocked (.ofSeconds 0)).users
  policies : w.stores.policies = v.stores.policies
  attempts : ∀ userId, userId ≠ other →
    w.stores.attempts.find? userId = v.stores.attempts.find? userId
  sessions : ∀ userId, userId ≠ other → ∀ id, w.stores.sessionOf? userId (ρ id) =
    (v.stores.sessionOf? userId id).map fun x => { x with id := ρ id }

namespace MemoryState

variable {s : MemoryState} {userId other : Int}

theorem find?_giveStatus_of_ne (h : userId ≠ other) (status : UserStatus) (now : Instant) :
    (s.giveStatus other status now).users.find? userId = s.users.find? userId :=
  (Table.find?_change ..).trans (if_neg h.symm)

/-- Of two statuses the later one counts. -/
theorem giveStatus_giveStatus (status status' : UserStatus) (now now' : Instant) :
    ((s.giveStatus other status now).giveStatus other status' now').users =
      (s.giveStatus other status' now').users :=
  Table.change_change ..

theorem giveStatus_comm (h : userId ≠ other) (status status' : UserStatus) (now now' : Instant) :
    ((s.giveStatus userId status now).giveStatus other status' now').users =
      ((s.giveStatus other status' now').giveStatus userId status now).users :=
  Table.change_comm _ h ..

/-- Names lead to the same account whatever status it has. -/
theorem Filed.named?_giveStatus (hfiled : s.Filed) (status : UserStatus) (now : Instant)
    (name : String) :
    (s.giveStatus other status now).named? name = (s.named? name).map fun u =>
      if u.id = other then { u with status := status.text, updatedAt := now } else u := by
  have hrows : ∀ row ∈ s.users.rows,
      (if row.2.id = other then { row.2 with status := status.text, updatedAt := now }
        else row.2) =
      if row.1 = other then { row.2 with status := status.text, updatedAt := now }
        else row.2 := by
    intro row hrow
    rw [hfiled.keyed row hrow]
  unfold named? findByEmail? findByPhone? MemoryState.giveStatus
  split
  · refine hfiled.ascending.find?_values_change other hrows fun u => ?_
    split <;> rfl
  · refine hfiled.ascending.find?_values_change other hrows fun u => ?_
    split <;> rfl

end MemoryState

namespace World.Alike

variable {other userId : Int} {ρ : Equiv.Perm String} {w v : World MemoryState}

theorem find?_users (h : Alike other ρ w v) (hne : userId ≠ other) :
    w.stores.users.find? userId = v.stores.users.find? userId := by
  rw [← MemoryState.find?_giveStatus_of_ne hne .blocked (.ofSeconds 0), h.accounts,
    MemoryState.find?_giveStatus_of_ne hne]

/-- Whoever is not the certain user is named alike in both worlds. -/
theorem named?_eq (h : Alike other ρ w v) (hw : w.stores.Filed) (hv : v.stores.Filed)
    {name : String} (hne : (w.stores.named? name).map (·.id) ≠ some other) :
    v.stores.named? name = w.stores.named? name := by
  have hmasked := MemoryState.named?_of_users h.accounts name
  rw [hw.named?_giveStatus, hv.named?_giveStatus] at hmasked
  cases hfound : w.stores.named? name with
  | none =>
    rw [hfound] at hmasked
    exact Option.map_eq_none_iff.mp hmasked.symm
  | some user =>
    have huser : user.id ≠ other := fun heq => hne (by rw [hfound, ← heq]; rfl)
    rw [hfound, Option.map_some, if_neg huser] at hmasked
    obtain ⟨user', hfound', hsame⟩ := Option.map_eq_some_iff.mp hmasked.symm
    have huser' : user'.id ≠ other := by
      intro heq
      rw [if_pos heq] at hsame
      exact huser (by rw [← hsame]; exact heq)
    rw [if_neg huser'] at hsame
    rw [hfound', hsame]

/-- Worlds stay alike under changes of attempts that look the same to the others. -/
theorem of_attempts (h : Alike other ρ w v) {a b : Table Int (LoginAttempt × Instant)}
    (hab : ∀ userId, userId ≠ other → a.find? userId = b.find? userId) :
    Alike other ρ { w with stores := { w.stores with attempts := a } }
      { v with stores := { v.stores with attempts := b } } :=
  ⟨h.now, h.accounts, h.policies, hab, h.sessions⟩

/-! ### Comparing a password -/

theorem respects_findAttempt (hne : userId ≠ other) :
    (Action.store (MemoryState.stores.attempts.find userId)).Respects (Alike other ρ) := by
  intro w v h
  have hrow := h.attempts userId hne
  have hlive : w.stores.liveAttempt? userId w.now = v.stores.liveAttempt? userId v.now := by
    unfold MemoryState.liveAttempt?
    rw [hrow, h.now]
  rw [Lockout.runOn_findAttempt, Lockout.runOn_findAttempt, hlive]
  refine ⟨rfl, ?_⟩
  unfold MemoryState.dropExpired
  rw [hrow, show w.now.nanos = v.now.nanos from congrArg _ h.now]
  cases v.stores.attempts.find? userId with
  | none => exact h
  | some row =>
    dsimp only
    split
    · refine h.of_attempts fun id hid => ?_
      rw [Table.find?_erase, Table.find?_erase, h.attempts id hid]
    · exact h

theorem respects_putAttempt (record : LoginAttempt) (seconds : Int) :
    (Action.store (MemoryState.stores.attempts.put userId record seconds)).Respects
      (Alike other ρ) := by
  refine .store fun w v h => ?_
  have hnow := h.now
  obtain ⟨now, _, _, s⟩ := w
  obtain rfl : now = v.now := hnow
  change (MemoryState.putAttempt userId record seconds v.now s).1 =
      (MemoryState.putAttempt userId record seconds v.now v.stores).1 ∧
    Alike other ρ ⟨_, _, _, (MemoryState.putAttempt userId record seconds v.now s).2⟩
      { v with stores := (MemoryState.putAttempt userId record seconds v.now v.stores).2 }
  unfold MemoryState.putAttempt
  split
  · refine ⟨rfl, h.of_attempts fun id hid => ?_⟩
    rw [Table.find?_erase, Table.find?_erase, h.attempts id hid]
  · cases v.now.addSeconds? seconds with
    | none => exact ⟨rfl, h⟩
    | some expiry =>
      refine ⟨rfl, h.of_attempts fun id hid => ?_⟩
      rw [Table.find?_put, Table.find?_put, h.attempts id hid]

theorem respects_setStatus (hne : userId ≠ other) (status : UserStatus) :
    (Action.store (MemoryState.stores.users.setStatus userId status)).Respects
      (Alike other ρ) := by
  intro w v h
  have hcontains : w.stores.users.contains userId = v.stores.users.contains userId :=
    congrArg Option.isSome (h.find?_users hne)
  rw [Lockout.runOn_setStatus, Lockout.runOn_setStatus, hcontains]
  split
  · refine ⟨rfl, h.now, ?_, h.policies, h.attempts, h.sessions⟩
    have haccounts := h.accounts
    dsimp only
    rw [MemoryState.giveStatus_comm hne, MemoryState.giveStatus_comm hne, h.now]
    unfold MemoryState.giveStatus at haccounts ⊢
    exact congrArg (fun users => Table.change users userId _) haccounts
  · exact ⟨rfl, h⟩

theorem respects_put (record : LoginAttempt) :
    (Lockout.put MemoryState.stores userId record).Respects (Alike other ρ) := by
  unfold Lockout.put
  exact .bind (.clock fun _ _ h => h.now) fun now => respects_putAttempt record _

theorem respects_reset : (Lockout.reset MemoryState.stores userId).Respects (Alike other ρ) := by
  unfold Lockout.reset
  exact .bind (.clock fun _ _ h => h.now) fun now => respects_put _

section User

variable {user : User}

theorem respects_block {α : Type} (hne : user.id ≠ other) :
    (Lockout.block MemoryState.stores user : Action MemoryState α).Respects (Alike other ρ) := by
  unfold Lockout.block
  exact .bind (respects_setStatus hne .blocked) fun _ => .fail _

theorem respects_recordFailure (hne : user.id ≠ other) (prior : Nat) :
    (Lockout.recordFailure MemoryState.stores user prior).Respects (Alike other ρ) := by
  unfold Lockout.recordFailure
  cases Lockout.blockSeconds? prior with
  | none => exact respects_block hne
  | some seconds =>
    exact .bind (.clock fun _ _ h => h.now) fun now => .bind (.ofExcept _) fun next =>
      respects_put next

theorem respects_check (hne : user.id ≠ other) :
    (Lockout.check MemoryState.stores user).Respects (Alike other ρ) := by
  unfold Lockout.check
  refine .bind (respects_findAttempt hne) fun found => ?_
  cases found with
  | none => exact .pure 0
  | some record =>
    refine .ite (.pure 0) ?_
    cases Lockout.blockSeconds? record.count with
    | none => exact respects_block hne
    | some seconds =>
      refine .bind (.clock fun _ _ h => h.now) fun now => .bind (.ofExcept _) fun next => ?_
      exact .bind (respects_put next) fun _ => .ite (.bind (.fail _) fun _ => .pure _) (.pure _)

/-- A comparison for one user comes out the same in worlds that are alike for the others. -/
theorem respects_validatePassword (m : MemoryService) (hne : user.id ≠ other)
    (password : String) : (m.app.validatePassword user password).Respects (Alike other ρ) := by
  unfold App.validatePassword
  refine .bind (respects_check hne) fun prior => ?_
  cases m.app.passwords.verify password user.passwordHash with
  | error reason => exact .fail _
  | ok same =>
    cases same with
    | true => exact respects_reset
    | false => exact .bind (respects_recordFailure hne prior) fun _ => .fail _

end User

/-- The others do not see a comparison for the certain user. -/
theorem of_compared {m : MemoryService} {user : User} {password : String}
    {answer : Except Failure Unit} {s : MemoryState} (h : Alike user.id ρ w v)
    (hcompared : Lockout.Compared m user password w.now w.stores answer s) :
    Alike user.id ρ { w with stores := s } v := by
  refine ⟨h.now, ?_, hcompared.policies.trans h.policies, fun userId hne => ?_,
    fun userId hne id => ?_⟩
  · rw [← h.accounts]
    rcases hcompared.users with ⟨-, husers⟩ | ⟨-, -, rfl⟩
    · unfold MemoryState.giveStatus
      rw [husers]
    · exact MemoryState.giveStatus_giveStatus ..
  · exact (hcompared.find?_of_ne hne.symm).trans (h.attempts userId hne)
  · rw [← h.sessions userId hne]
    unfold MemoryState.sessionOf?
    rw [hcompared.sessions]

end World.Alike

end Turnstile
