import Turnstile.Password.Argon2.Memory
import Turnstile.Password.StoredHash
import Turnstile.Password.Scheme

/-!
Storing passwords as Argon2 hashes. New hashes are made with fixed costs; a stored hash is checked with
the variant, the version and the costs that it names.
-/

namespace Turnstile.Argon2

def Variant.name : Variant → String
  | .d => "argon2d"
  | .i => "argon2i"
  | .id => "argon2id"

def Variant.ofName (name : String) : Except HashError Variant :=
  match name with
  | "argon2d" => .ok .d
  | "argon2i" => .ok .i
  | "argon2id" => .ok .id
  | _ => .error .unknownAlgorithm

def Version.ofNumber (n : Nat) : Except HashError Version :=
  match n with
  | 16 => .ok .v16
  | 19 => .ok .v19
  | _ => .error .unknownVersion

namespace Params

/-- Take one parameter of a stored hash over the ones before it. The name of a key is looked at, but
keys are not used. -/
def withParam (p : Params) (param : String × String) : Except HashError Params :=
  let value := param.2.toList
  match param.1 with
  | "m" => do return { p with memory := ← StoredHash.readDecimal value }
  | "t" => do return { p with passes := ← StoredHash.readDecimal value }
  | "p" => do return { p with lanes := ← StoredHash.readDecimal value }
  | "keyid" => do
    let _ ← StoredHash.decodeBytes 8 value
    return p
  | "data" => do return { p with extra := ← StoredHash.decodeBytes 32 value }
  | _ => .error .badName

/-- The costs can be paid: every lane has at least eight blocks. Eight times the lanes are counted in
32 bits, and the number of lanes has a limit of its own. -/
def check (p : Params) : Except HashError Params :=
  if p.memory < 8 || p.memory < p.lanes * 8 % 4294967296 || p.passes = 0 || p.lanes = 0 then
    .error (.badValue .tooShort)
  else if 16777215 < p.lanes then .error (.badValue .tooLong)
  else .ok p

def ofList (params : List (String × String)) : Except HashError Params := do
  check (← params.foldlM withParam {})

def toList (p : Params) : List (String × String) :=
  [("m", toString p.memory), ("t", toString p.passes), ("p", toString p.lanes)]

end Params

/-- The hash of a password with everything a stored hash names, and the salt and the size it has. -/
def hashLike (stored : StoredHash) (salt : String) (size : Nat) (password : Bytes) :
    Except HashError Bytes := do
  let params ← Params.ofList stored.params
  let variant ← Variant.ofName stored.algorithm
  let version ← (stored.version.map Version.ofNumber).getD (.ok .v19)
  let salt ← StoredHash.decodeBytes 64 salt.toList
  if salt.length < 8 then throw (.badSalt .tooShort)
  return hash variant version params size password salt

/-- The password has the stored hash. Without salt or hash there is nothing it could have. -/
def isHashOf (stored : StoredHash) (password : Bytes) : Except HashError Bool :=
  match stored.salt, stored.hash with
  | some salt, some expected => do
    return (← hashLike stored salt expected.length password) == expected
  | _, _ => .ok false

/-- A new stored hash, of 32 bytes. -/
def store (salt password : Bytes) : StoredHash :=
  let params : Params := {}
  { algorithm := Variant.name .id
    version := some (Version.number .v19)
    params := params.toList
    salt := some (String.ofList (Base64.standard.encode salt))
    hash := some (hash .id .v19 params 32 password salt) }

def scheme : PasswordScheme where
  hash salt password := (store salt (utf8 password.toList)).text
  verify password text :=
    match StoredHash.ofText text with
    | .error e => .error ("Invalid password hash format: " ++ e.message)
    | .ok stored =>
      match isHashOf stored (utf8 password.toList) with
      | .ok b => .ok b
      | .error e => .error ("Password verification failed: " ++ e.message)

end Turnstile.Argon2
