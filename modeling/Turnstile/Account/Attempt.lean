import Turnstile.Json.Shape

/-!
Records of failed logins: how many there were, until when logins are refused, and when the record is
dropped. Records are kept as JSON text outside of this program.
-/

namespace Turnstile

structure LoginAttempt where
  count : Nat
  blockedUntil : Instant
  dropAt : Instant
  deriving DecidableEq, Repr

namespace LoginAttempt

/-- The record that stands for no failures. It is dropped at once. -/
def cleared (now : Instant) : LoginAttempt := ⟨0, now, now⟩

/-- Whole seconds until the record is dropped; zero or less if it is to be dropped now. -/
def secondsLeft (a : LoginAttempt) (now : Instant) : Int := a.dropAt.secondsSince now

def toJson (a : LoginAttempt) : Json :=
  .obj [("attempt", .int a.count), ("block_time", .str a.blockedUntil.toText),
    ("refresh_time", .str a.dropAt.toText)]

/-- The text a record is kept as. -/
def text (a : LoginAttempt) : String := a.toJson.text

def shape : Shape :=
  .record [("attempt", .uint32, false), ("block_time", .time, false),
    ("refresh_time", .time, false)]

def ofJson? (j : Json) : Option LoginAttempt := do
  let time := fun name => ((j.get? name).bind Json.asText?).bind Instant.ofText?
  return {
    count := (← (j.get? "attempt").bind Json.asInt?).toNat
    blockedUntil := ← time "block_time"
    dropAt := ← time "refresh_time" }

/-- The record a text stands for. -/
def ofText? (s : String) : Option LoginAttempt :=
  match shape.read s with
  | .ok j => ofJson? j
  | .error _ => none

end LoginAttempt

end Turnstile
