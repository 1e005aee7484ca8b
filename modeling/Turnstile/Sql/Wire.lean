import Turnstile.Error
import Turnstile.Time.Instant

/-!
Talking to a database: statements with parameters, and replies with rows or a number of changed rows.
`SqlWire` is any way to send statements; `SqlCall` is a sequence of them that stops at the first error.
A transaction is committed if all of it was done, and rolled back otherwise.
-/

namespace Turnstile

/-- Values of columns and parameters. -/
inductive SqlValue where
  | null
  | int (n : Int)
  | text (s : String)
  | bool (b : Bool)
  | time (t : Instant)
  | ints (ns : List Int)
  deriving DecidableEq, Repr

/-- What is sent to a database. -/
inductive Statement where
  | start
  | commit
  | rollback
  | query (text : String) (params : List SqlValue)
  deriving DecidableEq, Repr

/-- The words of a statement. -/
def Statement.text : Statement → String
  | .start => "BEGIN"
  | .commit => "COMMIT"
  | .rollback => "ROLLBACK"
  | .query text _ => text

def Statement.params : Statement → List SqlValue
  | .query _ params => params
  | _ => []

/-- A row, by the names of its columns. -/
abbrev Row := List (String × SqlValue)

/-- What a database replies to a statement that it could carry out. -/
structure SqlReply where
  rows : List Row := []
  affected : Nat := 0
  deriving DecidableEq, Repr

/-- A way to send statements, with state `σ`. -/
structure SqlWire (σ : Type) where
  send : Statement → σ → Except DatabaseError SqlReply × σ

/-- Statements one after the other. What an error is turned into stops the rest. -/
abbrev SqlCall (σ α : Type) := ExceptT ServiceError (StateM σ) α

namespace SqlWire

variable {σ α : Type} (wire : SqlWire σ)

/-- Send one statement. The caller says what becomes of an error. -/
def sendOr (onError : DatabaseError → ServiceError) (s : Statement) : SqlCall σ SqlReply := do
  let (reply, state) := wire.send s (← get)
  set state
  match reply with
  | .ok reply => return reply
  | .error e => throw (onError e)

/-- Send one statement with parameters. -/
def ask (onError : DatabaseError → ServiceError) (text : String) (params : List SqlValue) :
    SqlCall σ SqlReply :=
  wire.sendOr onError (.query text params)

/-- Roll back, whatever comes of it, and fail as before. -/
def rollBack (e : ServiceError) : SqlCall σ α := do
  let (_, state) := wire.send .rollback (← get)
  set state
  throw e

/-- Do several statements together. What could not be started need not be rolled back. -/
def transaction (body : SqlCall σ α) : SqlCall σ α := do
  let _ ← wire.sendOr .database .start
  tryCatch (do
    let a ← body
    let _ ← wire.sendOr .database .commit
    return a) wire.rollBack

end SqlWire

end Turnstile
