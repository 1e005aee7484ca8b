import Turnstile.Cache.Link
import Turnstile.Store.Basic

/-!
Records of failed logins on a key-value server, as JSON text under a key for every user. A record that
is to be dropped now is deleted; every other one is set for the seconds that are left.
-/

namespace Turnstile.CacheLink

variable {σ : Type} (link : CacheLink σ)

def attemptKey (userId : Int) : String := "login_attempt:" ++ toString userId

/-- Send a command as a step of a store. -/
def step (command : CacheCommand) : StoreStep σ CacheReply := fun now s =>
  match link.send command now s with
  | (.ok reply, s) => (.ok reply, s)
  | (.error e, s) => (.error (.error (.cache e)), s)

/-- The record of a user. Text that is no record is not taken for a missing one. -/
def findAttempt (userId : Int) : StoreStep σ (Option LoginAttempt) := fun now s =>
  match link.step (.get (attemptKey userId)) now s with
  | (.ok (.value text), s) =>
    match LoginAttempt.ofText? text with
    | some attempt => (.ok (some attempt), s)
    | none =>
      (.error (.error (.internal ("Corrupt login attempt record for user " ++ toString userId))), s)
  | (.ok _, s) => (.ok none, s)
  | (.error f, s) => (.error f, s)

/-- The command that keeps a record for so many seconds. -/
def putCommand (userId : Int) (attempt : LoginAttempt) (seconds : Int) : CacheCommand :=
  if seconds ≤ 0 then .delete (attemptKey userId)
  else .set (attemptKey userId) attempt.text seconds

/-- Send a command whose answer does not matter. -/
def stepOnly (command : CacheCommand) : StoreStep σ Unit := fun now s =>
  match link.step command now s with
  | (.ok _, s) => (.ok (), s)
  | (.error f, s) => (.error f, s)

def attemptStore : AttemptStore σ where
  find := link.findAttempt
  put userId attempt seconds := link.stepOnly (putCommand userId attempt seconds)
  checkHealth := link.stepOnly .ping

end Turnstile.CacheLink
