import Turnstile.Text.Case

/-!
Where a service runs. In production every setting has to be given.
-/

namespace Turnstile

inductive Environment where
  | dev
  | prod
  deriving DecidableEq, Repr

namespace Environment

/-- The name for people. -/
def title : Environment → String
  | .dev => "Dev"
  | .prod => "Prod"

/-- The name in settings. -/
def name : Environment → String
  | .dev => "dev"
  | .prod => "prod"

/-- The environment of a name in any case. -/
def ofText (s : String) : Except String Environment :=
  match Text.lower s with
  | "dev" => .ok .dev
  | "prod" => .ok .prod
  | _ => .error ("Invalid environment: " ++ s)

/-- The environment of a name as it is written in settings. -/
def ofName? : String → Option Environment
  | "dev" => some .dev
  | "prod" => some .prod
  | _ => none

end Environment

end Turnstile
