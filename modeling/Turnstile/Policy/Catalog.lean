import Turnstile.Json.Basic
import Turnstile.Text.Case
import Turnstile.Time.Instant
import Turnstile.Policy.Engine

/-!
What policies are made of: roles that users hold, permissions that roles grant, and resources that
permissions open. A grant is one way from a role to a resource, and becomes one rule.
-/

namespace Turnstile

/-- The two kinds of services that resources belong to. -/
inductive ServiceType where
  | http
  | rpc
  deriving DecidableEq, Repr

namespace ServiceType

def text : ServiceType → String
  | .http => "http"
  | .rpc => "rpc"

/-- The service type of a name in any case. -/
def ofText (s : String) : Except String ServiceType :=
  match Text.lower s with
  | "http" => .ok .http
  | "rpc" => .ok .rpc
  | _ => .error ("Invalid service type: " ++ s)

/-- The service type of a name as it is written out. -/
def ofName? : String → Option ServiceType
  | "http" => some .http
  | "rpc" => some .rpc
  | _ => none

end ServiceType

structure Role where
  id : Int
  name : String
  description : String
  createdAt : Instant
  updatedAt : Instant
  deriving DecidableEq, Repr

structure Permission where
  id : Int
  name : String
  description : String
  createdAt : Instant
  updatedAt : Instant
  deriving DecidableEq, Repr

/-- Something that is done by a method at a path. The service type is kept as text. -/
structure Resource where
  id : Int
  name : String
  description : String
  serviceType : String
  method : String
  path : String
  createdAt : Instant
  updatedAt : Instant
  deriving DecidableEq, Repr

/-- What a role or a permission is created from or changed to. -/
structure NamedEntry where
  name : String
  description : String
  deriving DecidableEq, Repr

/-- What a resource is created from or changed to. -/
structure NewResource where
  name : String
  description : String
  serviceType : ServiceType
  method : String
  path : String
  deriving DecidableEq, Repr

/-- A role may use a resource. -/
structure Grant where
  role : String
  serviceType : String
  method : String
  path : String
  deriving DecidableEq, Repr

/-- The rule for a grant. -/
def Grant.toRule (g : Grant) : Rule := ⟨g.role, g.serviceType ++ ":" ++ g.method, g.path⟩

def Role.toJson (r : Role) : Json :=
  .obj [("role_id", .int r.id), ("name", .str r.name), ("description", .str r.description),
    ("created_at", .str r.createdAt.toText), ("updated_at", .str r.updatedAt.toText)]

def Permission.toJson (p : Permission) : Json :=
  .obj [("permission_id", .int p.id), ("name", .str p.name), ("description", .str p.description),
    ("created_at", .str p.createdAt.toText), ("updated_at", .str p.updatedAt.toText)]

def Resource.toJson (r : Resource) : Json :=
  .obj [("resource_id", .int r.id), ("name", .str r.name), ("description", .str r.description),
    ("service_type", .str r.serviceType), ("method", .str r.method), ("path", .str r.path),
    ("created_at", .str r.createdAt.toText), ("updated_at", .str r.updatedAt.toText)]

def Grant.toJson (g : Grant) : Json :=
  .obj [("role", .str g.role), ("service_type", .str g.serviceType), ("method", .str g.method),
    ("path", .str g.path)]

end Turnstile
