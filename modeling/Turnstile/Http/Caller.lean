import Turnstile.Error

/-!
The user on whose behalf a request runs, as the access gate left it for what comes after.
-/

namespace Turnstile

/-- The user that the gate let in. Where no gate was passed, the routes are put together wrongly. -/
def callerOf (letIn : Option Int) : Except ApiError Int :=
  match letIn with
  | some userId => .ok userId
  | none => .error (.internal "Authenticated user missing from request extensions")

end Turnstile
