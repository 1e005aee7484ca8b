import Turnstile.Json.Basic
import Turnstile.Time.Instant

/-!
Sessions: one for every login, named by the identifier that both tokens of the login carry, and bound
to the client that logged in.
-/

namespace Turnstile

/-- Where a call comes from. -/
structure Client where
  ip : String
  userAgent : String
  deriving DecidableEq, Repr

structure Session where
  id : String
  userId : Int
  userAgent : String
  ip : String
  createdAt : Instant
  updatedAt : Instant
  deriving DecidableEq, Repr

namespace Session

/-- A session that starts now. -/
def start (now : Instant) (id : String) (userId : Int) (client : Client) : Session :=
  { id := id, userId := userId, userAgent := client.userAgent, ip := client.ip, createdAt := now,
    updatedAt := now }

/-- The client is the one the session was started by. -/
def isOf (s : Session) (client : Client) : Bool :=
  s.ip == client.ip && s.userAgent == client.userAgent

def toJson (s : Session) : Json :=
  .obj [("token_id", .str s.id), ("user_id", .int s.userId), ("user_agent", .str s.userAgent),
    ("ip", .str s.ip), ("created_at", .str s.createdAt.toText),
    ("updated_at", .str s.updatedAt.toText)]

end Session

end Turnstile
