import Turnstile.Request.Rules
import Turnstile.Policy.Catalog

/-!
Requests about roles, permissions and resources.
-/

namespace Turnstile

/-- Create or change a role. The permissions matter only for a new role. -/
structure RoleRequest where
  name : String
  description : String
  permissionIds : List Int

/-- Create or change a permission. The resources matter only for a new permission. -/
structure PermissionRequest where
  name : String
  description : String
  resourceIds : List Int

structure ResourceRequest where
  name : String
  description : String
  serviceType : ServiceType
  method : String
  path : String

/-- Identifiers to link or to unlink. -/
structure IdsRequest where
  ids : List Int

/-- Give a role to a user. -/
structure AssignRoleRequest where
  roleId : Int

def RoleRequest.entry (r : RoleRequest) : NamedEntry := ⟨Text.trim r.name, r.description⟩

def PermissionRequest.entry (r : PermissionRequest) : NamedEntry := ⟨Text.trim r.name, r.description⟩

def ResourceRequest.resource (r : ResourceRequest) : NewResource :=
  ⟨Text.trim r.name, r.description, r.serviceType, Text.trim r.method, Text.trim r.path⟩

instance : Request RoleRequest where
  shape := .record [("name", .text, false), ("description", .text, true),
    ("permission_ids", .list .int64, true)]
  ofJson j :=
    ⟨Request.text j "name", Request.text j "description", Request.ints j "permission_ids"⟩
  rules r := [.length "name" "Role name is required" r.name 1 (some 64)]

instance : Request PermissionRequest where
  shape := .record [("name", .text, false), ("description", .text, true),
    ("resource_ids", .list .int64, true)]
  ofJson j := ⟨Request.text j "name", Request.text j "description", Request.ints j "resource_ids"⟩
  rules r := [.length "name" "Permission name is required" r.name 1 (some 64)]

instance : Request ResourceRequest where
  shape := .record [("name", .text, true), ("description", .text, true),
    ("service_type", .choice ["http", "rpc"], false), ("method", .text, false),
    ("path", .text, false)]
  ofJson j :=
    ⟨Request.text j "name", Request.text j "description",
      (ServiceType.ofName? (Request.text j "service_type")).getD .http, Request.text j "method",
      Request.text j "path"⟩
  rules r := [
    .length "name" "Resource name is too long" r.name 0 (some 64),
    .length "method" "Method is required" r.method 1 (some 64),
    .length "path" "Path is required" r.path 1 (some 255)]

instance : Request IdsRequest where
  shape := .record [("ids", .list .int64, false)]
  ofJson j := ⟨Request.ints j "ids"⟩
  rules r := [⟨!r.ids.isEmpty, ⟨"ids", "At least one id is required"⟩⟩]

instance : Request AssignRoleRequest where
  shape := .record [("role_id", .int64, false)]
  ofJson j := ⟨(((j.get? "role_id").bind Json.asInt?).getD 0)⟩
  rules _ := []

end Turnstile
