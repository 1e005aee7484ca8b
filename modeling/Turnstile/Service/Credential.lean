import Turnstile.Service.App
import Turnstile.Service.Lockout

/-!
Comparing a password under the lockout: a locked account is refused before anything is compared, a
wrong password is one more failure, and a right one forgets all failures. A stored hash that cannot be
used is no failed login.
-/

namespace Turnstile.App

variable {σ : Type} (app : App σ)

def validatePassword (user : User) (password : String) : Action σ Unit := do
  let prior ← Lockout.check app.stores user
  match app.passwords.verify password user.passwordHash with
  | .error reason => Action.fail (.internal reason)
  | .ok false =>
    Lockout.recordFailure app.stores user prior
    Action.fail .incorrectPassword
  | .ok true => Lockout.reset app.stores user.id

end Turnstile.App
