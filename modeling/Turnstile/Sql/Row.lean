import Turnstile.Account.Session
import Turnstile.Account.User
import Turnstile.Policy.Catalog
import Turnstile.Sql.Wire

/-!
Reading records from rows. A column that is missing counts as empty, and only a column whose field may
be empty can be. Columns that a record does not have are ignored.
-/

namespace Turnstile.Row

def value (r : Row) (name : String) : SqlValue :=
  ((r.find? (·.1 == name)).map (·.2)).getD .null

def int? (r : Row) (name : String) : Option Int :=
  match r.value name with
  | .int n => some n
  | _ => none

def text? (r : Row) (name : String) : Option String :=
  match r.value name with
  | .text s => some s
  | _ => none

def bool? (r : Row) (name : String) : Option Bool :=
  match r.value name with
  | .bool b => some b
  | _ => none

def time? (r : Row) (name : String) : Option Instant :=
  match r.value name with
  | .time t => some t
  | _ => none

def user? (r : Row) : Option User := do
  return {
    id := ← r.int? "user_id"
    name := ← r.text? "name"
    phone := ← r.text? "phone"
    email := ← r.text? "email"
    passwordHash := ← r.text? "password_hash"
    avatarUrl := r.text? "avatar_url"
    phoneVerified := ← r.bool? "phone_verified"
    emailVerified := ← r.bool? "email_verified"
    status := ← r.text? "status_code"
    createdAt := ← r.time? "created_at"
    updatedAt := ← r.time? "updated_at" }

def session? (r : Row) : Option Session := do
  return {
    id := ← r.text? "token_id"
    userId := ← r.int? "user_id"
    userAgent := ← r.text? "user_agent"
    ip := ← r.text? "ip"
    createdAt := ← r.time? "created_at"
    updatedAt := ← r.time? "updated_at" }

def role? (r : Row) : Option Role := do
  return ⟨← r.int? "role_id", ← r.text? "name", ← r.text? "description", ← r.time? "created_at",
    ← r.time? "updated_at"⟩

def permission? (r : Row) : Option Permission := do
  return ⟨← r.int? "permission_id", ← r.text? "name", ← r.text? "description",
    ← r.time? "created_at", ← r.time? "updated_at"⟩

def resource? (r : Row) : Option Resource := do
  return ⟨← r.int? "resource_id", ← r.text? "name", ← r.text? "description",
    ← r.text? "service_type", ← r.text? "method", ← r.text? "path", ← r.time? "created_at",
    ← r.time? "updated_at"⟩

def grant? (r : Row) : Option Grant := do
  return ⟨← r.text? "role", ← r.text? "service_type", ← r.text? "method", ← r.text? "path"⟩

end Turnstile.Row

namespace Turnstile.SqlReply

/-- All rows as records. -/
def all {α : Type} (read : Row → Option α) (r : SqlReply) : Except DatabaseError (List α) :=
  match r.rows.mapM read with
  | some as => .ok as
  | none => .error .badColumn

/-- The first row as a record, if there is one. -/
def first? {α : Type} (read : Row → Option α) (r : SqlReply) : Except DatabaseError (Option α) :=
  match r.rows with
  | [] => .ok none
  | row :: _ =>
    match read row with
    | some a => .ok (some a)
    | none => .error .badColumn

/-- The first row as a record. -/
def first {α : Type} (read : Row → Option α) (r : SqlReply) : Except DatabaseError α :=
  match r.first? read with
  | .ok (some a) => .ok a
  | .ok none => .error .noRow
  | .error e => .error e

end Turnstile.SqlReply
