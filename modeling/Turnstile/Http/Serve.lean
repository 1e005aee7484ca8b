import Turnstile.Http.Cors
import Turnstile.Http.Handler
import Turnstile.Policy.Element

/-!
Serving one request. The route is found by the path alone. Behind the access gate nothing of a request
but its header, method and path is looked at before the gate has let it in. What is done at an endpoint
is a parameter here: the gate and the routes are the same whatever stands behind them. A request takes
no time, so none is cut off for taking too long.
-/

namespace Turnstile

variable [SizeLimit]

variable {σ : Type}

/-- What is done at every endpoint, with the parameters of the path and the user that was let in. -/
abbrev Handlers (σ : Type) := Endpoint → PathParams → Option Int → HttpRequest → Action σ Response

/-- Answer at a route, for a user that was let in if the route asks for one. -/
def Handlers.atRoute (handlers : Handlers σ) (route : Route) (params : PathParams)
    (letIn : Option Int) (r : HttpRequest) : Action σ Response :=
  match route.endpoint? r.method with
  | none => return .ofStatus 405
  | some endpoint => Action.respond (handlers endpoint params letIn r)

namespace App

variable (app : App σ)

/-- The user that the access gate lets in for this request. -/
def gate (r : HttpRequest) : Action σ (Except Response Int) :=
  match r.bearer with
  | .error e => return .error e.response
  | .ok bearer =>
    tryCatch (do return .ok (← app.authorize bearer (ElementId.text ⟨r.method, r.path⟩))) fun f =>
      match f with
      | .error e => return .error e.toApi.response
      | .fault f => throw (.fault f)

/-- Answer a request by its route. -/
def answer (handlers : Handlers σ) (r : HttpRequest) : Action σ Response :=
  match Route.find? r.path with
  | none => return .ofStatus 404
  | some (route, params) =>
    if route.gated then do
      match ← app.gate r with
      | .error response => return response
      | .ok userId => handlers.atRoute route params (some userId) r
    else handlers.atRoute route params none r

/-- The identifier of a request: its own, or a new one. -/
def requestId (r : HttpRequest) : Action σ String := do
  match r.header? "x-request-id" with
  | some id => return id
  | none => return app.sessionIdAt (← Action.draw)

/-- The methods that a known path allows, for a request with another method. -/
def allowHeader (r : HttpRequest) : List (String × String) :=
  match Route.find? r.path with
  | some (route, _) =>
    if (route.endpoint? r.method).isNone then [("allow", route.allow)] else []
  | none => []

/-- Answer a request, with all headers that belong to the answer. -/
def serveBy (handlers : Handlers σ) (r : HttpRequest) : Action σ Response := do
  let cors ← match Cors.ofOrigins app.settings.security.allowedOrigins with
    | .ok cors => pure cors
    | .error f => throw (.fault f)
  if r.method == "OPTIONS" then
    let response := cors.preflight r
    return { response with headers := response.headers ++ allowHeader r }
  let id ← app.requestId r
  let response ← app.answer handlers r
  return {
    status := response.status
    headers := response.headers ++ [("x-request-id", id)] ++ cors.headers r ++ allowHeader r
    body := if r.method == "HEAD" then .empty else response.body }

/-- Answer a request by the handlers of the service. -/
def serve (r : HttpRequest) : Action σ Response := app.serveBy app.handle r

end App

end Turnstile
