import Turnstile.Service.Credential
import Turnstile.Service.Access
import Turnstile.Request.Account

/-!
Logging in and out, refreshing tokens, and registering.
-/

namespace Turnstile

/-- What a login or a refresh answers. -/
structure LoginResponse where
  sessionId : String
  accessToken : String
  refreshToken : String
  expiresIn : Int
  user : UserProfile

def LoginResponse.toJson (r : LoginResponse) : Json :=
  .obj [("token_type", .str "Bearer"), ("session_id", .str r.sessionId),
    ("access_token", .str r.accessToken), ("refresh_token", .str r.refreshToken),
    ("expires_in", .int r.expiresIn), ("user", r.user.toJson)]

namespace App

variable {σ : Type} (app : App σ)

/-- The account a login names. -/
def findByIdentity (name : String) : Action σ (Option User) :=
  match Identity.ofText name with
  | .email address => Action.store (app.stores.users.findByEmail (Text.lower address))
  | .phone number => Action.store (app.stores.users.findByPhone number)

/-- The role that tokens carry: the first of the user's roles. -/
def tokenRole (userId : Int) : Action σ String := do
  match ← Action.store (app.stores.policies.rolesOf userId) with
  | role :: _ => return role.name
  | [] => Action.fail (.roleNotAssigned userId)

/-- Issue the tokens of a session. -/
def issueTokens (sessionId : String) (userId : Int) (role : String) : Action σ TokenPair := do
  Action.ofExcept (app.tokens.issuePair (← Action.clock) sessionId userId role)

def loginResponse (pair : TokenPair) (user : User) : LoginResponse :=
  ⟨pair.sessionId, pair.accessToken, pair.refreshToken, app.tokens.accessSeconds, user.profile⟩

/-- Log in: find the account, look at its state, compare the password, and start a session. -/
def login (request : LoginRequest) (client : Client) : Action σ LoginResponse := do
  let user ← Action.require (← app.findByIdentity request.identity) .accountNotFound
  Action.check user.checkState
  app.validatePassword user request.password
  let role ← app.tokenRole user.id
  let sessionId := app.sessionIdAt (← Action.draw)
  let pair ← app.issueTokens sessionId user.id role
  let session := Session.start (← Action.clock) sessionId user.id client
  Action.store (app.stores.sessions.create session)
  return app.loginResponse pair user

/-- Delete the session that a token names. The token need not count any more, and the session may be
gone already. -/
def logout (bearer : String) : Action σ Unit := do
  let sessionId ← Action.token (app.tokens.sessionOf (bearerToken bearer))
  Action.store (app.stores.sessions.delete sessionId)

/-- New tokens for the same session, for the client that started it. -/
def refresh (request : RefreshRequest) (client : Client) : Action σ LoginResponse := do
  let now ← Action.clock
  let claims ← Action.token (app.tokens.verifyKind now (bearerToken request.refreshToken) .refresh)
  let userId ← Action.token claims.userId
  let session ← app.ownSession claims userId
  if !session.isOf client then Action.fail (.sessionMismatch session.id)
  let user ← app.activeUser userId
  let role ← app.tokenRole userId
  let pair ← app.issueTokens session.id userId role
  Action.store (app.stores.sessions.touch session.id now)
  return app.loginResponse pair user

/-- Somebody registered with this e-mail address or this phone number. The second question is asked
only when the first finds nobody. -/
def isRegistered (email phone : String) : Action σ Bool := do
  if (← Action.store (app.stores.users.findByEmail email)).isSome then return true
  return (← Action.store (app.stores.users.findByPhone phone)).isSome

/-- Create an account and give it the default role, if that role exists. -/
def register (request : RegisterRequest) : Action σ UserProfile := do
  Action.check (Request.check request)
  let email := Text.lower (Text.trim request.email)
  let phone := Text.trim request.phone
  if ← app.isRegistered email phone then Action.fail .duplicateRegistration
  let salt := app.saltAt (← Action.draw)
  let user ← Action.store (app.stores.users.create {
    name := Text.trim request.name
    phone := phone
    email := email
    passwordHash := app.passwords.hash salt request.password
    phoneVerified := !app.registration.verifyOnRegister })
  match ← Action.store (app.stores.policies.findRoleByName app.registration.defaultRole) with
  | some role => Action.store (app.stores.policies.assignRole user.id role.id)
  | none => pure ()
  return user.profile

/-- What is shown of an account. -/
def profile (userId : Int) : Action σ UserProfile := do
  let found ← Action.store (app.stores.users.find userId)
  let user ← Action.require found (.userNotFound userId)
  return user.profile

end App

end Turnstile
