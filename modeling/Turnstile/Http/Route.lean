import Turnstile.Encoding.Base64
import Turnstile.Http.Message
import Turnstile.Text.Integer
import Turnstile.Text.Quoted

/-!
Routes: patterns of paths, what can be done at each, and whether the access gate stands before it. A
segment of a pattern is a fixed text or a parameter that takes any text. Routes with fixed text stand
before those with a parameter at the same place.
-/

namespace Turnstile

/-- What a request can ask for. -/
inductive Endpoint where
  | health
  | login
  | register
  | refresh
  | logout
  | me
  | user
  | reload
  | createRole
  | updateRole
  | deleteRole
  | assignPermissions
  | removePermissions
  | createPermission
  | updatePermission
  | deletePermission
  | assignResources
  | removeResources
  | createResource
  | updateResource
  | deleteResource
  | assignRole
  | revokeRole
  | userPermissions
  deriving DecidableEq, Repr

/-- A segment of a pattern. -/
inductive Segment where
  | fixed (text : String)
  | param (name : String)
  deriving DecidableEq, Repr

structure Route where
  pattern : List Segment
  /-- Requests have to pass the access gate. -/
  gated : Bool
  /-- What can be done, by method. -/
  endpoints : List (String × Endpoint)

/-- The parameters of a path, by name, as they were sent. -/
abbrev PathParams := List (String × String)

namespace Route

def bindSegments : List Segment → List String → Option PathParams
  | [], [] => some []
  | .fixed text :: pattern, s :: path => if s == text then bindSegments pattern path else none
  | .param name :: pattern, s :: path =>
    if s.isEmpty then none else (bindSegments pattern path).map ((name, s) :: ·)
  | _, _ => none

/-- The segments behind the slash that a path starts with. -/
def segments? (path : String) : Option (List String) :=
  match path.toList with
  | '/' :: rest => some ((rest.splitOn '/').map String.ofList)
  | _ => none

/-- The parameters, if the path is one of the pattern. -/
def bind? (r : Route) (path : String) : Option PathParams := do
  bindSegments r.pattern (← segments? path)

/-- The endpoint for a method. What can be got can also be asked for without its body. -/
def endpoint? (r : Route) (method : String) : Option Endpoint :=
  let method := if method == "HEAD" then "GET" else method
  (r.endpoints.find? (·.1 == method)).map (·.2)

/-- The methods that are allowed, as a header shows them. -/
def allow (r : Route) : String :=
  ",".intercalate (r.endpoints.flatMap fun e => if e.1 == "GET" then ["GET", "HEAD"] else [e.1])

/-- A route, with its pattern as text. -/
def ofText (pattern : String) (gated : Bool) (endpoints : List (String × Endpoint)) : Route :=
  { pattern := ((segments? pattern).getD []).map fun s =>
      match s.toList with
      | ':' :: name => .param (String.ofList name)
      | _ => .fixed s
    gated := gated
    endpoints := endpoints }

/-- Routes that everybody may use. -/
def openRoutes : List Route :=
  [ofText "/health" false [("GET", .health)],
    ofText "/auth/login" false [("POST", .login)],
    ofText "/auth/register" false [("POST", .register)],
    ofText "/auth/refresh" false [("POST", .refresh)],
    ofText "/auth/logout" false [("POST", .logout)]]

/-- Routes behind the access gate. -/
def gatedRoutes : List Route :=
  [ofText "/user/me" true [("GET", .me)],
    ofText "/user/:id" true [("GET", .user)],
    ofText "/policy/reload" true [("POST", .reload)],
    ofText "/policy/role" true [("POST", .createRole)],
    ofText "/policy/role/:id" true [("PUT", .updateRole), ("DELETE", .deleteRole)],
    ofText "/policy/role/:id/permissions" true
      [("POST", .assignPermissions), ("DELETE", .removePermissions)],
    ofText "/policy/permission" true [("POST", .createPermission)],
    ofText "/policy/permission/:id" true
      [("PUT", .updatePermission), ("DELETE", .deletePermission)],
    ofText "/policy/permission/:id/resources" true
      [("POST", .assignResources), ("DELETE", .removeResources)],
    ofText "/policy/resource" true [("POST", .createResource)],
    ofText "/policy/resource/:id" true [("PUT", .updateResource), ("DELETE", .deleteResource)],
    ofText "/policy/users/:id/roles" true [("POST", .assignRole)],
    ofText "/policy/users/:id/roles/:role_id" true [("DELETE", .revokeRole)],
    ofText "/policy/users/:id/permissions" true [("GET", .userPermissions)]]

def all : List Route := openRoutes ++ gatedRoutes

/-- The route of a path, and its parameters. -/
def find? (path : String) : Option (Route × PathParams) :=
  all.findSome? fun r => (r.bind? path).map (r, ·)

end Route

/-- Why the parameters of a path cannot be used. -/
inductive PathFault where
  | notText (name : String)
  | notInteger (value : String)
  | notIntegerAt (index : Nat) (value : String)
  deriving DecidableEq, Repr

namespace PathFault

def text : PathFault → String
  | .notText name => "Invalid URL: Invalid UTF-8 in \x60" ++ name ++ "\x60"
  | .notInteger value =>
    "Invalid URL: Cannot parse \x60" ++ Text.quote value ++ "\x60 to a \x60i64\x60"
  | .notIntegerAt index value =>
    "Invalid URL: Cannot parse value at index " ++ toString index ++ " with value \x60" ++
      Text.quote value ++ "\x60 to a \x60i64\x60"

end PathFault

namespace PathParams

def hexValue? (c : Char) : Option Nat :=
  if c.isDigit then some (c.toNat - 48)
  else if 'a' ≤ c ∧ c ≤ 'f' then some (c.toNat - 87)
  else if 'A' ≤ c ∧ c ≤ 'F' then some (c.toNat - 55)
  else none

/-- The bytes of a text, with percent signs and two digits read as the bytes they stand for. -/
def unescape : List Char → Bytes
  | '%' :: c :: d :: rest =>
    match hexValue? c, hexValue? d with
    | some x, some y => UInt8.ofNat (16 * x + y) :: unescape rest
    | _, _ => 37 :: unescape (c :: d :: rest)
  | c :: rest => utf8 [c] ++ unescape rest
  | [] => []

/-- The values of all parameters. -/
def values (params : PathParams) : Except PathFault (List String) :=
  params.mapM fun (name, raw) =>
    match ofUtf8? (unescape raw.toList) with
    | some value => .ok value
    | none => .error (.notText name)

/-- The only parameter, as an integer of 64 bits. -/
def int (params : PathParams) : Except PathFault Int := do
  let value := (← params.values).headD ""
  match Text.readInt64 value with
  | .ok n => return n
  | .error _ => throw (.notInteger value)

/-- One of several parameters, as an integer of 64 bits. -/
def intAt (values : List String) (index : Nat) : Except PathFault Int :=
  let value := values.getD index ""
  match Text.readInt64 value with
  | .ok n => .ok n
  | .error _ => .error (.notIntegerAt index value)

/-- Both parameters, as integers of 64 bits. -/
def twoInts (params : PathParams) : Except PathFault (Int × Int) := do
  let values ← params.values
  return (← intAt values 0, ← intAt values 1)

end PathParams

end Turnstile
