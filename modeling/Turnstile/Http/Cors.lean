import Turnstile.Error
import Turnstile.Http.Request

/-!
Which web pages may call the service. Every response says on which headers of the request it depends,
and whether the origin of the page is allowed. What a browser asks beforehand is answered without
looking at the route.
-/

namespace Turnstile

/-- The allowed origins. -/
structure Cors where
  origins : List String

namespace Cors

/-- A text that can stand in a header: no control characters but tabs. -/
def isHeaderValue (s : String) : Bool :=
  s.toList.all fun c => c.toNat = 9 || (32 ≤ c.toNat && c.toNat ≠ 127)

/-- Origins that cannot stand in a header are left out. The wildcard has no place in a list. -/
def ofOrigins (origins : List String) : Except Fault Cors :=
  let origins := origins.filter isHeaderValue
  if origins.contains "*" then .error .wildcardOrigin else .ok ⟨origins⟩

/-- The headers that every response gets. -/
def headers (c : Cors) (r : HttpRequest) : List (String × String) :=
  let vary := ("vary", "origin, access-control-request-method, access-control-request-headers")
  match (r.header? "origin").filter c.origins.contains with
  | some origin => [vary, ("access-control-allow-origin", origin)]
  | none => [vary]

/-- The answer to a question beforehand. -/
def preflight (c : Cors) (r : HttpRequest) : Response :=
  { status := 200
    headers := c.headers r ++
      [("access-control-allow-methods", "GET,POST,PUT,DELETE,OPTIONS"),
        ("access-control-allow-headers", "authorization,content-type")]
    body := .empty }

end Cors

end Turnstile
