import Turnstile.Config.Settings
import Turnstile.Service.World
import Turnstile.Password.Scheme
import Turnstile.Token.Issuer

/-!
What all services are built from: stores, tokens, passwords, the settings they follow, and where random
values come from.
-/

namespace Turnstile

/-- The services over stores with state `σ`. The random values with one number are a session
identifier and a salt; a call that draws a number uses one of them. -/
structure App (σ : Type) where
  stores : Stores σ
  keys : TokenKeys
  passwords : PasswordScheme
  settings : Settings
  sessionIdAt : Nat → String
  saltAt : Nat → Bytes

namespace App

variable {σ : Type} (app : App σ)

/-- Tokens are signed with the keys, and named and timed as the settings say. -/
def tokens : TokenIssuer :=
  ⟨app.keys, app.settings.tokens.issuer, app.settings.tokens.accessMinutes,
    app.settings.tokens.refreshDays⟩

def policy : PolicySettings := app.settings.policy

def registration : RegistrationSettings := app.settings.registration

end App

/-- Succeed or fail as a token was accepted or refused. -/
def Action.token {σ α : Type} (r : Except TokenError α) : Action σ α :=
  match r with
  | .ok a => pure a
  | .error e => Action.fail e.toService

end Turnstile
