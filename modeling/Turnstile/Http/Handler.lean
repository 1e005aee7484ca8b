import Turnstile.Http.Caller
import Turnstile.Http.Request
import Turnstile.Http.Route
import Turnstile.Request.Account
import Turnstile.Request.Policy
import Turnstile.Service.Login
import Turnstile.Service.PolicyAdmin

/-!
What every endpoint does with a request: take from it what it needs, the path first and the body last,
call a service, and answer with the result.
-/

namespace Turnstile

variable {σ : Type}

/-- Answer with what a call gives, or with what callers are told of its error. -/
def Action.respond (call : Action σ Response) : Action σ Response :=
  tryCatch call fun f =>
    match f with
    | .error e => pure e.toApi.response
    | .fault f => throw (.fault f)

/-- Go on with a value, or answer that it cannot be had. -/
def ApiError.orElse {α : Type} (r : Except ApiError α) (next : α → Action σ Response) :
    Action σ Response :=
  match r with
  | .ok a => next a
  | .error e => pure e.response

/-- Go on with parameters of the path, or answer that they cannot be used. -/
def PathFault.orElse {α : Type} (r : Except PathFault α) (next : α → Action σ Response) :
    Action σ Response :=
  match r with
  | .ok a => next a
  | .error fault => pure (.ofText 400 fault.text)

/-- Go on with a body, or answer that it cannot be used. -/
def BodyFault.orElse {α : Type} (r : Except BodyFault α) (next : α → Action σ Response) :
    Action σ Response :=
  match r with
  | .ok a => next a
  | .error fault => pure (.ofText fault.status fault.text)

namespace App

variable (app : App σ)

/-- The service is up, and so are its stores. -/
def health : Action σ Response := do
  Action.store app.stores.users.checkHealth
  Action.store app.stores.attempts.checkHealth
  return .ofJson 200 (.obj [("status", .str "healthy"), ("service", .str app.settings.serviceName),
    ("version", .str app.settings.serviceVersion),
    ("environment", .str app.settings.environment.title),
    ("checks", .obj [("database", .str "up"), ("redis", .str "up")])])

/-- Change what the identifier in the path names, by the body. -/
def onPathAndBody {α : Type} [Request α] (params : PathParams) (r : HttpRequest)
    (call : Int → α → Action σ Response) : Action σ Response :=
  PathFault.orElse params.int fun id =>
    ApiError.orElse (r.checkedBody α) fun body => call id body

/-- Link or unlink, and say that it was done. -/
def onIds (params : PathParams) (r : HttpRequest) (said : String)
    (call : Int → List Int → Action σ Unit) : Action σ Response :=
  onPathAndBody params r fun id (body : IdsRequest) => do
    call id body.ids
    return .ofJson 200 (messageBody said)

/-- Delete what the identifier in the path names. -/
def onDelete (params : PathParams) (call : Int → Action σ Unit) : Action σ Response :=
  PathFault.orElse params.int fun id => do
    call id
    return .ofStatus 204

/-- Answer a request for an endpoint. The user is the one the access gate let in. -/
def handle [SizeLimit] (endpoint : Endpoint) (params : PathParams) (letIn : Option Int)
    (r : HttpRequest) : Action σ Response :=
  match endpoint with
  | .health => app.health
  | .login =>
    ApiError.orElse (r.checkedBody LoginRequest) fun body => do
      return .ofJson 200 (← app.login body r.client).toJson
  | .register =>
    ApiError.orElse (r.checkedBody RegisterRequest) fun body => do
      return .ofJson 201 (← app.register body).toJson
  | .refresh =>
    ApiError.orElse (r.checkedBody RefreshRequest) fun body => do
      return .ofJson 200 (← app.refresh body r.client).toJson
  | .logout =>
    ApiError.orElse r.bearer fun bearer => do
      app.logout bearer
      return .ofJson 200 (messageBody "Logged out successfully")
  | .me =>
    ApiError.orElse (callerOf letIn) fun userId => do
      return .ofJson 200 (← app.profile userId).toJson
  | .user =>
    PathFault.orElse params.int fun userId => do
      return .ofJson 200 (← app.profile userId).toJson
  | .reload => do
    return .ofJson 200 (.obj [("rules", .int (← app.reload))])
  | .createRole =>
    ApiError.orElse (callerOf letIn) fun _ =>
      ApiError.orElse (r.checkedBody RoleRequest) fun body => do
        return .ofJson 201 (← app.addRole body).toJson
  | .updateRole =>
    onPathAndBody params r fun id body => do
      return .ofJson 200 (← app.updateRole id body).toJson
  | .deleteRole => onDelete params app.deleteRole
  | .assignPermissions => onIds params r "Permissions assigned" app.assignPermissions
  | .removePermissions => onIds params r "Permissions removed" app.removePermissions
  | .createPermission =>
    ApiError.orElse (r.checkedBody PermissionRequest) fun body => do
      return .ofJson 201 (← app.addPermission body).toJson
  | .updatePermission =>
    onPathAndBody params r fun id body => do
      return .ofJson 200 (← app.updatePermission id body).toJson
  | .deletePermission => onDelete params app.deletePermission
  | .assignResources => onIds params r "Resources assigned" app.assignResources
  | .removeResources => onIds params r "Resources removed" app.removeResources
  | .createResource =>
    ApiError.orElse (r.checkedBody ResourceRequest) fun body => do
      return .ofJson 201 (← app.addResource body).toJson
  | .updateResource =>
    onPathAndBody params r fun id body => do
      return .ofJson 200 (← app.updateResource id body).toJson
  | .deleteResource => onDelete params app.deleteResource
  | .assignRole =>
    PathFault.orElse params.int fun userId =>
      BodyFault.orElse (r.readBody AssignRoleRequest) fun body => do
        app.assignRole userId body.roleId
        return .ofJson 200 (messageBody "Role assigned")
  | .revokeRole =>
    PathFault.orElse params.twoInts fun (userId, roleId) => do
      app.revokeRole userId roleId
      return .ofStatus 204
  | .userPermissions =>
    PathFault.orElse params.int fun userId => do
      let permissions ← app.userPermissions userId
      return .ofJson 200 (.obj [("user_id", .int userId),
        ("permissions", .arr (permissions.map (·.toJson)))])

end App

end Turnstile
