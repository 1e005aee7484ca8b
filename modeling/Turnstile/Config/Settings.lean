import Turnstile.Config.Environment
import Turnstile.Error
import Turnstile.Policy.Catalog
import Turnstile.Text.Blank

/-!
The settings of the service, and what they have to satisfy. Settings that pass the check can be served:
tokens live for some time, there is a name for the superadmin, and in production no wildcard is among
the web origins.
-/

namespace Turnstile

/-- Where the service listens. -/
structure ListenSettings where
  host : String := "0.0.0.0"
  port : Nat := 8080
  deriving DecidableEq, Repr

structure DatabaseSettings where
  url : String
  maxConnections : Nat
  minConnections : Nat
  deriving DecidableEq, Repr

structure TokenSettings where
  privateKeyPath : String
  publicKeyPath : String
  issuer : String
  accessMinutes : Int
  refreshDays : Int
  deriving DecidableEq, Repr

structure PolicySettings where
  serviceType : ServiceType := .http
  superadminRole : String := "superadmin"
  /-- Put rules in force again after every change. -/
  autoReload : Bool := true
  deriving DecidableEq, Repr

structure RegistrationSettings where
  defaultRole : String := "member"
  /-- New accounts cannot log in until their phone is verified elsewhere. -/
  verifyOnRegister : Bool := false
  deriving DecidableEq, Repr

structure SecuritySettings where
  /-- The web origins whose pages may call the service. -/
  allowedOrigins : List String
  timeoutSeconds : Nat
  deriving DecidableEq, Repr

structure Settings where
  listen : ListenSettings
  environment : Environment
  serviceName : String
  serviceVersion : String
  logLevel : String
  telemetryUrl : Option String
  database : DatabaseSettings
  cacheUrl : String
  tokens : TokenSettings
  policy : PolicySettings
  registration : RegistrationSettings
  security : SecuritySettings
  deriving DecidableEq, Repr

def ListenSettings.address (l : ListenSettings) : String := l.host ++ ":" ++ toString l.port

namespace Settings

/-- What the settings have to satisfy, and what is reported when they do not. The first report wins. -/
def rules (s : Settings) : List (Bool × String) :=
  [(0 < s.listen.port, "PORT must be greater than 0"),
    (0 < s.tokens.accessMinutes, "JWT_ACCESS_TOKEN_EXPIRY_MINUTES must be positive"),
    (0 < s.tokens.refreshDays, "JWT_REFRESH_TOKEN_EXPIRY_DAYS must be positive"),
    (!(Text.trim s.policy.superadminRole).isEmpty, "POLICY_SUPERADMIN_ROLE must not be empty"),
    (0 < s.security.timeoutSeconds, "REQUEST_TIMEOUT_SECONDS must be greater than 0"),
    (!(s.environment == .prod && s.security.allowedOrigins.contains "*"),
      "Wildcard CORS origin not allowed in production")]

def check (s : Settings) : Except ApiError Unit :=
  match s.rules.find? fun rule => !rule.1 with
  | some rule => .error (.configuration rule.2)
  | none => .ok ()

end Settings

end Turnstile
