import Turnstile.Sql.Wire

/-!
A wire with scripted replies. It carries out no statement; it remembers what was sent and replies with
what it was given. The statements that start and end transactions always succeed.
-/

namespace Turnstile

structure SqlScript where
  /-- The replies to the next statements with parameters. -/
  replies : List (Except DatabaseError SqlReply) := []
  /-- The statements sent, the last one first. -/
  sent : List Statement := []

namespace SqlScript

def send (statement : Statement) (s : SqlScript) : Except DatabaseError SqlReply × SqlScript :=
  let s := { s with sent := statement :: s.sent }
  match statement, s.replies with
  | .query _ _, reply :: rest => (reply, { s with replies := rest })
  | _, _ => (.ok {}, s)

def wire : SqlWire SqlScript := ⟨send⟩

end SqlScript

end Turnstile
