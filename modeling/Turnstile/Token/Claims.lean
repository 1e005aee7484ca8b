import Turnstile.Json.Shape
import Turnstile.Text.Integer
import Turnstile.Text.Quoted
import Turnstile.Error

/-!
What a token says: which session it belongs to, for whom it was issued and with which role, when it
counts, and whether it is the access or the refresh token of its pair.
-/

namespace Turnstile

/-- The two tokens of a pair. -/
inductive TokenKind where
  | access
  | refresh
  deriving DecidableEq, Repr

namespace TokenKind

/-- The name inside a token. -/
def text : TokenKind → String
  | .access => "access"
  | .refresh => "refresh"

/-- The name in messages. -/
def title : TokenKind → String
  | .access => "Access"
  | .refresh => "Refresh"

def ofText? : String → Option TokenKind
  | "access" => some .access
  | "refresh" => some .refresh
  | _ => none

end TokenKind

/-- The claims of a token. Times are seconds since 1970-01-01. -/
structure TokenClaims where
  sessionId : String
  subject : String
  role : String
  issuer : String
  issuedAt : Int
  notBefore : Int
  expiresAt : Int
  kind : TokenKind
  deriving DecidableEq, Repr

/-- Why a token is refused. -/
inductive TokenError where
  | notCompact
  | badJson
  | badBase64
  | wrongAlgorithm
  | wrongSignature
  | missingClaim (name : String)
  | expired
  | immature
  | wrongIssuer
  | unexpectedAudience
  | wrongKind (expected actual : TokenKind)
  | subjectNotUser (subject : String)
  deriving DecidableEq, Repr

namespace TokenError

def reason : TokenError → String
  | .notCompact => "InvalidToken"
  | .badJson => "JSON error:"
  | .badBase64 => "Base64 error:"
  | .wrongAlgorithm => "InvalidAlgorithm"
  | .wrongSignature => "InvalidSignature"
  | .missingClaim name => "Missing required claim: " ++ name
  | .expired => "ExpiredSignature"
  | .immature => "ImmatureSignature"
  | .wrongIssuer => "InvalidIssuer"
  | .unexpectedAudience => "InvalidAudience"
  | .wrongKind expected actual =>
    "expected " ++ expected.title ++ " token, got " ++ actual.title
  | .subjectNotUser subject => "subject " ++ Text.quote subject ++ " is not a user id"

/-- A refused token as an error of the service. -/
def toService (e : TokenError) : ServiceError := .invalidToken e.reason

end TokenError

namespace TokenClaims

/-- The user a token was issued for. -/
def userId (c : TokenClaims) : Except TokenError Int :=
  match Text.readInt64 c.subject with
  | .ok id => .ok id
  | .error _ => .error (.subjectNotUser c.subject)

/-- The claims as they are written into a token. -/
def toJson (c : TokenClaims) : Json :=
  .obj [("jti", .str c.sessionId), ("sub", .str c.subject), ("role", .str c.role),
    ("iss", .str c.issuer), ("iat", .int c.issuedAt), ("nbf", .int c.notBefore),
    ("exp", .int c.expiresAt), ("typ", .str c.kind.text)]

/-- The form of claims. -/
def shape : Shape :=
  .record [("jti", .text, false), ("sub", .text, false), ("role", .text, false),
    ("iss", .text, false), ("iat", .int64, false), ("nbf", .int64, false),
    ("exp", .int64, false), ("typ", .choice ["access", "refresh"], false)]

/-- Claims from JSON of their form. -/
def ofJson? (j : Json) : Option TokenClaims := do
  let text := fun name => (j.get? name).bind Json.asText?
  let int := fun name => (j.get? name).bind Json.asInt?
  return {
    sessionId := ← text "jti"
    subject := ← text "sub"
    role := ← text "role"
    issuer := ← text "iss"
    issuedAt := ← int "iat"
    notBefore := ← int "nbf"
    expiresAt := ← int "exp"
    kind := ← (text "typ").bind TokenKind.ofText? }

/-- Read the claims of a token. -/
def ofText (s : String) : Except TokenError TokenClaims :=
  match shape.read s with
  | .ok j => (ofJson? j).elim (.error .badJson) .ok
  | .error _ => .error .badJson

/-- The form of claims of which only the session is of interest. -/
def sessionShape : Shape := .record [("jti", .text, false)]

/-- Read only the session of a token's claims. -/
def sessionOfText (s : String) : Except TokenError String :=
  match sessionShape.read s with
  | .ok j => ((j.get? "jti").bind Json.asText?).elim (.error .badJson) .ok
  | .error _ => .error .badJson

end TokenClaims

end Turnstile
