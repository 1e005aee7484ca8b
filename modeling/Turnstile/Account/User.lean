import Turnstile.Json.Basic
import Turnstile.Text.Blank
import Turnstile.Text.Case
import Turnstile.Time.Instant
import Turnstile.Error

/-!
Accounts: who can log in, how a login names an account, and what is shown of one.
-/

namespace Turnstile

/-- The statuses that are given to accounts. -/
inductive UserStatus where
  | active
  | blocked
  deriving DecidableEq, Repr

def UserStatus.text : UserStatus → String
  | .active => "active"
  | .blocked => "blocked"

/-- An account. Its status is kept as text, and every status but `active` blocks it. -/
structure User where
  id : Int
  name : String
  phone : String
  email : String
  passwordHash : String
  avatarUrl : Option String
  phoneVerified : Bool
  emailVerified : Bool
  status : String
  createdAt : Instant
  updatedAt : Instant
  deriving DecidableEq, Repr

/-- What an account is created from. -/
structure NewUser where
  name : String
  phone : String
  email : String
  passwordHash : String
  phoneVerified : Bool
  deriving DecidableEq, Repr

/-- What is shown of an account: all but the password hash. -/
structure UserProfile where
  id : Int
  name : String
  phone : String
  email : String
  avatarUrl : Option String
  phoneVerified : Bool
  emailVerified : Bool
  status : String
  createdAt : Instant
  deriving DecidableEq, Repr

namespace User

def isBlocked (u : User) : Bool := u.status ≠ UserStatus.active.text

def profile (u : User) : UserProfile :=
  { id := u.id, name := u.name, phone := u.phone, email := u.email, avatarUrl := u.avatarUrl,
    phoneVerified := u.phoneVerified, emailVerified := u.emailVerified, status := u.status,
    createdAt := u.createdAt }

/-- Blocked accounts cannot act, and neither can accounts whose phone is not verified. -/
def checkState (u : User) : Except ServiceError Unit :=
  if u.isBlocked then .error .accountBlocked
  else if !u.phoneVerified then .error .accountNotVerified
  else .ok ()

end User

namespace UserProfile

def members (p : UserProfile) : List (String × Json) :=
  [("user_id", .int p.id), ("name", .str p.name), ("phone", .str p.phone), ("email", .str p.email),
    ("avatar_url", p.avatarUrl.elim .null .str), ("phone_verified", .bool p.phoneVerified),
    ("email_verified", .bool p.emailVerified), ("status_code", .str p.status),
    ("created_at", .str p.createdAt.toText)]

def toJson (p : UserProfile) : Json := .obj p.members

end UserProfile

/-- How a login names an account. -/
inductive Identity where
  | email (address : String)
  | phone (number : String)
  deriving DecidableEq, Repr

/-- Anything with an at sign is an e-mail address, everything else a phone number. -/
def Identity.ofText (s : String) : Identity :=
  let name := Text.trim s
  if name.toList.contains '@' then .email name else .phone name

/-- Lower case for the ASCII letters of a text. -/
def asciiLower (s : String) : String := String.ofList (s.toList.map Char.toLower)

/-- Two texts agree up to the case of ASCII letters. -/
def agreesUpToCase (s t : String) : Bool := asciiLower s == asciiLower t

end Turnstile
