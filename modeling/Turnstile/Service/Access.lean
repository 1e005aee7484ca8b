import Turnstile.Service.App
import Turnstile.Policy.Element

/-!
The access gate. Checks come in a fixed order: the token, its subject, its session, the account, the
identifier of the route, and at last the rules.
-/

namespace Turnstile.App

variable {σ : Type} (app : App σ)

/-- The session a token names, if it belongs to the user. -/
def ownSession (claims : TokenClaims) (userId : Int) : Action σ Session := do
  let found ← Action.store (app.stores.sessions.find claims.sessionId)
  let session ← Action.require found .sessionNotFound
  if session.userId ≠ userId then Action.fail .sessionNotFound
  return session

/-- The account of a session, if it may act. -/
def activeUser (userId : Int) : Action σ User := do
  let found ← Action.store (app.stores.users.find userId)
  let user ← Action.require found (.sessionUserNotFound userId)
  Action.check user.checkState
  return user

/-- The user who may do what the identifier of the route says, by the value of the authorization
header. -/
def authorize [SizeLimit] (bearer elementId : String) : Action σ Int := do
  let now ← Action.clock
  let claims ← Action.token (app.tokens.verifyKind now (bearerToken bearer) .access)
  let userId ← Action.token claims.userId
  let _ ← app.ownSession claims userId
  let _ ← app.activeUser userId
  let element ← Action.check (ElementId.ofText elementId)
  let engine ← Action.engine
  let action := app.policy.serviceType.text ++ ":" ++ element.method
  match engine.enforce claims.role action element.path with
  | .ok true => return userId
  | .ok false => Action.fail (.accessDenied userId elementId)
  | .error f => throw (.fault f)

end Turnstile.App
