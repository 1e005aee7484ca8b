import Turnstile.Config.Settings
import Turnstile.Text.Integer

/-!
Settings from environment variables. Outside of production most variables may be missing; where the
service listens is read before all else.
-/

namespace Turnstile

/-- The variables of a process. -/
abbrev Variables := List (String × String)

namespace Variables

def get? (vars : Variables) (name : String) : Option String :=
  (vars.find? (·.1 == name)).map (·.2)

/-- The value of a variable whose name is written in any case. -/
def getAnyCase? (vars : Variables) (name : String) : Option String :=
  (vars.find? fun v => Text.lower v.1 == Text.lower name).map (·.2)

/-- A text, or what stands in for it outside of production. -/
def text (vars : Variables) (environment : Environment) (name : String) (default? : Option String) :
    Except ApiError String :=
  match vars.get? name, environment, default? with
  | some value, _, _ => .ok value
  | none, .prod, _ => .error (.configuration (name ++ " is required in production but not set"))
  | none, .dev, some value => .ok value
  | none, .dev, none => .error (.configuration (name ++ " is required but not set"))

def integer (vars : Variables) (environment : Environment) (name : String) (low high : Int)
    (default : String) : Except ApiError Int := do
  match Text.readInteger low high (← vars.text environment name (some default)) with
  | .ok n => return n
  | .error e => throw (.configuration (name ++ ": " ++ e.message))

def bool (vars : Variables) (environment : Environment) (name : String) (default : String) :
    Except ApiError Bool := do
  match ← vars.text environment name (some default) with
  | "true" => return true
  | "false" => return false
  | _ =>
    throw (.configuration (name ++ ": provided string was not \x60true\x60 or \x60false\x60"))

/-- A port. Words for true and false count as one and zero. -/
def readPort (s : String) : Except ApiError Nat :=
  let number? := match Text.lower s with
    | "true" | "on" | "yes" => some 1
    | "false" | "off" | "no" => some 0
    | _ =>
      match Text.readInteger 0 65535 s with
      | .ok n => some n.toNat
      | .error _ => none
  match number? with
  | some n => .ok n
  | none => .error (.configuration "invalid type: the port is not an integer of 16 bits")

def listen (vars : Variables) : Except ApiError ListenSettings := do
  let standard : ListenSettings := {}
  let port ← (vars.getAnyCase? "APP__PORT").elim (.ok standard.port) readPort
  return ⟨(vars.getAnyCase? "APP__HOST").getD standard.host, port⟩

/-- Texts between commas, without blanks around them and without empty ones. -/
def commaList (s : String) : List String :=
  ((s.toList.splitOn ',').map fun cs => Text.trim (String.ofList cs)).filter (!·.isEmpty)

/-- A name that stands for one of several things. -/
def named {α : Type} (r : Except String α) : Except ApiError α :=
  match r with
  | .ok a => .ok a
  | .error message => .error (.configuration message)

/-- All settings, not yet checked. -/
def settings (vars : Variables) : Except ApiError Settings := do
  let listen ← vars.listen
  let env ← named (Environment.ofText ((vars.get? "ENVIRONMENT").getD "dev"))
  let serviceName ← vars.text env "SERVICE_NAME" (some "access-service")
  let serviceVersion ← vars.text env "SERVICE_VERSION" (some "0.1.0")
  let logLevel ← vars.text env "LOG_LEVEL" (some "info")
  let databaseUrl ← vars.text env "DATABASE_URL" none
  let maxConnections ← vars.integer env "DATABASE_MAX_CONNECTIONS" 0 4294967295 "10"
  let minConnections ← vars.integer env "DATABASE_MIN_CONNECTIONS" 0 4294967295 "1"
  let cacheUrl ← vars.text env "REDIS_URL" none
  let privateKeyPath ← vars.text env "JWT_PRIVATE_KEY_PATH" none
  let publicKeyPath ← vars.text env "JWT_PUBLIC_KEY_PATH" none
  let issuer ← vars.text env "JWT_ISSUER" (some "access-service")
  let accessMinutes ← vars.integer env "JWT_ACCESS_TOKEN_EXPIRY_MINUTES" Text.minInt64 Text.maxInt64
    "15"
  let refreshDays ← vars.integer env "JWT_REFRESH_TOKEN_EXPIRY_DAYS" Text.minInt64 Text.maxInt64 "30"
  let serviceType ← named (ServiceType.ofText (← vars.text env "POLICY_SERVICE_TYPE" (some "http")))
  let superadminRole ← vars.text env "POLICY_SUPERADMIN_ROLE" (some "superadmin")
  let autoReload ← vars.bool env "POLICY_AUTO_RELOAD" "true"
  let defaultRole ← vars.text env "REGISTRATION_DEFAULT_ROLE" (some "member")
  let verifyOnRegister ← vars.bool env "REGISTRATION_VERIFY_ON_REGISTER" "false"
  let origins ← vars.text env "ALLOWED_ORIGINS" (some "http://localhost:3000")
  let timeoutSeconds ← vars.integer env "REQUEST_TIMEOUT_SECONDS" 0 18446744073709551615 "30"
  return {
    listen := listen
    environment := env
    serviceName := serviceName
    serviceVersion := serviceVersion
    logLevel := logLevel
    telemetryUrl := (vars.get? "OTLP_ENDPOINT").filter (!·.isEmpty)
    database := ⟨databaseUrl, maxConnections.toNat, minConnections.toNat⟩
    cacheUrl := cacheUrl
    tokens := ⟨privateKeyPath, publicKeyPath, issuer, accessMinutes, refreshDays⟩
    policy := ⟨serviceType, superadminRole, autoReload⟩
    registration := ⟨defaultRole, verifyOnRegister⟩
    security := ⟨commaList origins, timeoutSeconds.toNat⟩ }

end Variables

/-- The settings that the variables give, if they can be served. -/
def Settings.ofVariables (vars : Variables) : Except ApiError Settings := do
  let settings ← vars.settings
  settings.check
  return settings

end Turnstile
