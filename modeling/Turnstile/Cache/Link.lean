import Turnstile.Cache.Server
import Turnstile.Error

/-!
Links to a key-value server. A link sends a command and gets an answer or an error line. `CacheTalk` is
a link that remembers what was sent over it, and whose next command can be made to fail.
-/

namespace Turnstile

/-- A way to send commands, with state `σ`. -/
structure CacheLink (σ : Type) where
  send : CacheCommand → Instant → σ → Except CacheError CacheReply × σ

structure CacheTalk where
  server : CacheServer := {}
  /-- The commands sent, in words, the last one first. -/
  sent : List (List String) := []
  /-- The error line for the next command, which then does nothing. -/
  nextFailure : Option String := none

namespace CacheTalk

def send (command : CacheCommand) (now : Instant) (t : CacheTalk) :
    Except CacheError CacheReply × CacheTalk :=
  let t := { t with sent := command.words :: t.sent }
  match t.nextFailure with
  | some line => (.error (.reported line), { t with nextFailure := none })
  | none =>
    let (reply, server) := t.server.answer now command
    (.ok reply, { t with server := server })

def link : CacheLink CacheTalk := ⟨send⟩

end CacheTalk

end Turnstile
