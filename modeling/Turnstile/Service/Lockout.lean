import Turnstile.Service.World

/-!
Lockout after failed logins. Every login looks at the count of failures before the password is
compared. A count from two to seven refuses the login for a growing time and goes up by one, so trying
on makes the lock longer; beyond that the account itself is blocked.
-/

namespace Turnstile.Lockout

/-- How long logins are refused after so many failures, in seconds; none where the account has to be
blocked. -/
def blockSeconds? (count : Nat) : Option Int :=
  match count with
  | 0 | 1 => some 0
  | 2 => some 30
  | 3 => some 60
  | 4 => some 900
  | 5 => some 3600
  | 6 => some 21600
  | 7 => some 86400
  | _ => none

/-- How much longer a record is kept: five minutes for every failure. -/
def graceSeconds (count : Nat) : Int := 300 * count

/-- The record after one more failure: refused until the end of the lock, and kept for the grace. -/
def nextRecord (now : Instant) (seconds : Int) (count : Nat) : Except Failure LoginAttempt :=
  match now.addSeconds? seconds with
  | none => .error (.fault .timeOutOfRange)
  | some blockedUntil =>
    match blockedUntil.addSeconds? (graceSeconds count) with
    | none => .error (.fault .timeOutOfRange)
    | some dropAt => .ok ⟨count, blockedUntil, dropAt⟩

variable {σ : Type} (stores : Stores σ)

/-- Keep a record for as long as it says. -/
def put (userId : Int) (record : LoginAttempt) : Action σ Unit := do
  let now ← Action.clock
  Action.store (stores.attempts.put userId record (record.secondsLeft now))

/-- Block the account. The call fails in any case: because of the block, or because it could not be
done. -/
def block {α : Type} (user : User) : Action σ α := do
  Action.store (stores.users.setStatus user.id .blocked)
  Action.fail (.maxAttemptsReached user.id)

/-- The count of failures of a user whose login may go on. -/
def check (user : User) : Action σ Nat := do
  match ← Action.store (stores.attempts.find user.id) with
  | none => return 0
  | some record =>
    if record.count = 0 then return 0
    match blockSeconds? record.count with
    | none => block stores user
    | some seconds =>
      let now ← Action.clock
      let next ← Action.ofExcept (nextRecord now seconds (record.count + 1))
      put stores user.id next
      if now.before next.blockedUntil then Action.fail (.loginLocked next.blockedUntil)
      return record.count

/-- Keep one more failure on top of the count that the check gave. -/
def recordFailure (user : User) (prior : Nat) : Action σ Unit := do
  match blockSeconds? prior with
  | none => block stores user
  | some seconds =>
    let now ← Action.clock
    let next ← Action.ofExcept (nextRecord now seconds (prior + 1))
    put stores user.id next

/-- Forget all failures. -/
def reset (userId : Int) : Action σ Unit := do
  put stores userId (.cleared (← Action.clock))

end Turnstile.Lockout
