import Turnstile.Sql.Row
import Turnstile.Store.Basic

/-!
Accounts and sessions in a database.
-/

namespace Turnstile

/-- A sequence of statements as a step of a store. -/
def SqlCall.step {σ α : Type} (call : SqlCall σ α) : StoreStep σ α := fun _ s =>
  match (ExceptT.run call).run s with
  | (.ok a, s) => (.ok a, s)
  | (.error e, s) => (.error (.error e), s)

namespace SqlWire

variable {σ : Type} (wire : SqlWire σ)

/-- Succeed or fail as reading a reply did. -/
def readOr {α : Type} (onError : DatabaseError → ServiceError) (r : Except DatabaseError α) :
    SqlCall σ α :=
  match r with
  | .ok a => pure a
  | .error e => throw (onError e)

/-- The first record that a query finds. -/
def findFirst {α : Type} (read : Row → Option α) (text : String) (params : List SqlValue) :
    SqlCall σ (Option α) := do
  readOr .database ((← wire.ask .database text params).first? read)

/-- All records that a query finds. -/
def findAll {α : Type} (read : Row → Option α) (text : String) (params : List SqlValue) :
    SqlCall σ (List α) := do
  readOr .database ((← wire.ask .database text params).all read)

/-- A statement that has to change a row. -/
def changeOne (notFound : ServiceError) (text : String) (params : List SqlValue) :
    SqlCall σ Unit := do
  let reply ← wire.ask .database text params
  if reply.affected = 0 then throw notFound

/-- A statement whose reply does not matter. -/
def execute (onError : DatabaseError → ServiceError) (text : String) (params : List SqlValue) :
    SqlCall σ Unit := do
  let _ ← wire.ask onError text params
  return ()

/-- The code for a value that may stand only once. -/
def duplicateCode : String := "23505"

/-- The code for a link to something that does not exist. -/
def danglingCode : String := "23503"

/-- An account that exists already is the fault of the caller. -/
def registrationError : DatabaseError → ServiceError
  | .reported code message =>
    if code == duplicateCode then .duplicateRegistration else .database (.reported code message)
  | e => .database e

def createUser (u : NewUser) : SqlCall σ User := do
  let reply ← wire.ask registrationError
    ("INSERT INTO users (name, phone, email, password_hash, phone_verified, status_code) " ++
      "VALUES ($1, $2, $3, $4, $5, $6) RETURNING *")
    [.text u.name, .text u.phone, .text u.email, .text u.passwordHash, .bool u.phoneVerified,
      .text UserStatus.active.text]
  readOr registrationError (reply.first Row.user?)

def userStore : UserStore σ where
  find id :=
    (wire.findFirst Row.user? "SELECT * FROM users WHERE user_id = $1" [.int id]).step
  findByEmail email :=
    (wire.findFirst Row.user? "SELECT * FROM users WHERE LOWER(email) = LOWER($1)"
      [.text email]).step
  findByPhone phone :=
    (wire.findFirst Row.user? "SELECT * FROM users WHERE phone = $1" [.text phone]).step
  create u := (wire.createUser u).step
  setStatus id status :=
    (wire.changeOne (.userNotFound id)
      "UPDATE users SET status_code = $2, updated_at = NOW() WHERE user_id = $1"
      [.int id, .text status.text]).step
  checkHealth := (wire.execute .database "SELECT 1" []).step

def sessionStore : SessionStore σ where
  create s :=
    (wire.execute .database
      ("INSERT INTO sessions (token_id, user_id, user_agent, ip, created_at, updated_at) " ++
        "VALUES ($1, $2, $3, $4, $5, $6)")
      [.text s.id, .int s.userId, .text s.userAgent, .text s.ip, .time s.createdAt,
        .time s.updatedAt]).step
  find id :=
    (wire.findFirst Row.session? "SELECT * FROM sessions WHERE token_id = $1" [.text id]).step
  delete id := (wire.execute .database "DELETE FROM sessions WHERE token_id = $1" [.text id]).step
  touch id t :=
    (wire.execute .database "UPDATE sessions SET updated_at = $2 WHERE token_id = $1"
      [.text id, .time t]).step

end SqlWire

end Turnstile
