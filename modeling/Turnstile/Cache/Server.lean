import Turnstile.Store.Table
import Turnstile.Time.Instant

/-!
A key-value server: the commands it understands, and what it does with them. A value may be set for a
number of seconds; once they have passed it is gone.
-/

namespace Turnstile

/-- What is asked of a key-value server. -/
inductive CacheCommand where
  | ping
  | get (key : String)
  | set (key value : String) (seconds : Int)
  | delete (key : String)
  deriving DecidableEq, Repr

/-- The words of a command. -/
def CacheCommand.words : CacheCommand → List String
  | .ping => ["PING"]
  | .get key => ["GET", key]
  | .set key value seconds => ["SET", key, value, "EX", toString seconds]
  | .delete key => ["DEL", key]

/-- What a key-value server answers. -/
inductive CacheReply where
  | done
  | value (text : String)
  | missing
  deriving DecidableEq, Repr

structure CacheServer where
  /-- Values, and the moment in nanoseconds when they go. -/
  rows : Table String (String × Option Int) := {}
  /-- A server may also keep values forever. -/
  expires : Bool := true

namespace CacheServer

/-- The value under a key that is still there. -/
def value? (s : CacheServer) (now : Instant) (key : String) : Option String :=
  match s.rows.find? key with
  | some (value, none) => some value
  | some (value, some gone) => if now.nanos < gone then some value else none
  | none => none

/-- Put a value under a key that stays. -/
def keep (s : CacheServer) (key value : String) : CacheServer :=
  { s with rows := s.rows.put key (value, none) }

/-- What a command is answered, and the server afterwards. -/
def answer (s : CacheServer) (now : Instant) (command : CacheCommand) : CacheReply × CacheServer :=
  match command with
  | .ping => (.done, s)
  | .get key =>
    match s.value? now key with
    | some value => (.value value, s)
    | none => (.missing, s)
  | .set key value seconds =>
    if s.expires then
      (.done, { s with rows := s.rows.put key (value, some (now.nanos + seconds * 1000000000)) })
    else (.done, s.keep key value)
  | .delete key => (.done, { s with rows := s.rows.erase key })

end CacheServer

end Turnstile
