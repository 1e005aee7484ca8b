import Turnstile.Config.Settings
import Turnstile.Json.Shape

/-!
Settings as a JSON document. Only where the service listens may be left out.
-/

namespace Turnstile

def PolicySettings.toJson (p : PolicySettings) : Json :=
  .obj [("service_type", .str p.serviceType.text), ("superadmin_role", .str p.superadminRole),
    ("auto_reload", .bool p.autoReload)]

def RegistrationSettings.toJson (r : RegistrationSettings) : Json :=
  .obj [("default_role", .str r.defaultRole), ("verify_on_register", .bool r.verifyOnRegister)]

namespace Settings

/-- The document for settings. -/
def toJson (s : Settings) : Json :=
  .obj [("host", .str s.listen.host), ("port", .int s.listen.port),
    ("environment", .str s.environment.name), ("service_name", .str s.serviceName),
    ("service_version", .str s.serviceVersion), ("log_level", .str s.logLevel),
    ("otlp_endpoint", s.telemetryUrl.elim .null .str),
    ("database", .obj [("url", .str s.database.url),
      ("max_connections", .int s.database.maxConnections),
      ("min_connections", .int s.database.minConnections)]),
    ("redis", .obj [("url", .str s.cacheUrl)]),
    ("jwt", .obj [("private_key_path", .str s.tokens.privateKeyPath),
      ("public_key_path", .str s.tokens.publicKeyPath), ("issuer", .str s.tokens.issuer),
      ("access_token_expiry_minutes", .int s.tokens.accessMinutes),
      ("refresh_token_expiry_days", .int s.tokens.refreshDays)]),
    ("policy", s.policy.toJson), ("registration", s.registration.toJson),
    ("security", .obj [("allowed_origins", .arr (s.security.allowedOrigins.map .str)),
      ("request_timeout_seconds", .int s.security.timeoutSeconds)])]

def shape : Shape :=
  .record [
    ("host", .text, true), ("port", .uint16, true), ("environment", .choice ["dev", "prod"], false),
    ("service_name", .text, false), ("service_version", .text, false), ("log_level", .text, false),
    ("otlp_endpoint", .optional .text, false),
    ("database", .record [("url", .text, false), ("max_connections", .uint32, false),
      ("min_connections", .uint32, false)], false),
    ("redis", .record [("url", .text, false)], false),
    ("jwt", .record [("private_key_path", .text, false), ("public_key_path", .text, false),
      ("issuer", .text, false), ("access_token_expiry_minutes", .int64, false),
      ("refresh_token_expiry_days", .int64, false)], false),
    ("policy", .record [("service_type", .choice ["http", "rpc"], false),
      ("superadmin_role", .text, false), ("auto_reload", .bool, false)], false),
    ("registration", .record [("default_role", .text, false),
      ("verify_on_register", .bool, false)], false),
    ("security", .record [("allowed_origins", .list .text, false),
      ("request_timeout_seconds", .uint64, false)], false)]

/-- The settings in a document of this shape. -/
def ofMembers? (j : Json) : Option Settings := do
  let text := fun (j : Json) name => (j.get? name).bind Json.asText?
  let int := fun (j : Json) name => (j.get? name).bind Json.asInt?
  let bool := fun (j : Json) name => (j.get? name).bind Json.asBool?
  let database ← j.get? "database"
  let cache ← j.get? "redis"
  let tokens ← j.get? "jwt"
  let policy ← j.get? "policy"
  let registration ← j.get? "registration"
  let security ← j.get? "security"
  let standard : ListenSettings := {}
  return {
    listen := ⟨(text j "host").getD standard.host,
      ((int j "port").map Int.toNat).getD standard.port⟩
    environment := ← Environment.ofName? (← text j "environment")
    serviceName := ← text j "service_name"
    serviceVersion := ← text j "service_version"
    logLevel := ← text j "log_level"
    telemetryUrl := text j "otlp_endpoint"
    database := ⟨← text database "url", (← int database "max_connections").toNat,
      (← int database "min_connections").toNat⟩
    cacheUrl := ← text cache "url"
    tokens := ⟨← text tokens "private_key_path", ← text tokens "public_key_path",
      ← text tokens "issuer", ← int tokens "access_token_expiry_minutes",
      ← int tokens "refresh_token_expiry_days"⟩
    policy := ⟨← ServiceType.ofName? (← text policy "service_type"),
      ← text policy "superadmin_role", ← bool policy "auto_reload"⟩
    registration := ⟨← text registration "default_role",
      ← bool registration "verify_on_register"⟩
    security := ⟨(← (security.get? "allowed_origins").bind Json.asItems?).filterMap Json.asText?,
      (← int security "request_timeout_seconds").toNat⟩ }

/-- Read a document. It has to be an object; the parts of it may be arrays. -/
def ofText? (s : String) : Option Settings :=
  match Json.skipSpace s.toList, shape.read s with
  | '\x7b' :: _, .ok j => ofMembers? j
  | _, _ => none

end Settings

end Turnstile
