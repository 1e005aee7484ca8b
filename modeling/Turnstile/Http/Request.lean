import Turnstile.Account.Session
import Turnstile.Http.MediaType
import Turnstile.Http.Message
import Turnstile.Request.Rules

/-!
Requests as they come over the network, and what is read from them: the path, headers that are plain
text, the client, and a body of JSON.
-/

namespace Turnstile

structure HttpRequest where
  method : String
  /-- What is asked for: a path, and perhaps a query behind it. -/
  target : String
  /-- Names are in lower case. -/
  headers : List (String × String)
  body : String
  /-- The address the request comes from, if it is known. -/
  peer : Option String

/-- Why a body cannot be used. -/
inductive BodyFault where
  | notJson
  | malformed
  | mismatch
  deriving DecidableEq, Repr

namespace BodyFault

def text : BodyFault → String
  | .notJson => "Expected request with \x60Content-Type: application/json\x60"
  | .malformed => "Failed to parse the request body as JSON"
  | .mismatch => "Failed to deserialize the JSON body into the target type"

def status : BodyFault → Nat
  | .notJson => 415
  | .malformed => 400
  | .mismatch => 422

end BodyFault

namespace HttpRequest

/-- The path, as it was sent. -/
def path (r : HttpRequest) : String :=
  String.ofList (r.target.toList.takeWhile fun c => c ≠ '?' && c ≠ '#')

/-- The first value of a header. -/
def header? (r : HttpRequest) (name : String) : Option String :=
  (r.headers.find? (·.1 == name)).map (·.2)

/-- Characters of headers that can be read as text. -/
def isPlainChar (c : Char) : Bool := c.toNat = 9 || (32 ≤ c.toNat && c.toNat < 127)

/-- The value of a header that can be read as text. -/
def plainHeader? (r : HttpRequest) (name : String) : Option String :=
  (r.header? name).filter fun value => value.toList.all isPlainChar

/-- Who sends the request. -/
def client (r : HttpRequest) : Client :=
  ⟨r.peer.getD "unknown", (r.plainHeader? "user-agent").getD ""⟩

/-- The authorization header. -/
def bearer (r : HttpRequest) : Except ApiError String :=
  match r.plainHeader? "authorization" with
  | some value => .ok value
  | none => .error (.unauthorized "MISSING_TOKEN" "Missing or invalid Authorization header")

/-- Read the body. Only its start has to be JSON. -/
def readBody (α : Type) [Request α] (r : HttpRequest) : Except BodyFault α :=
  if (r.plainHeader? "content-type").any MediaType.isJson then
    match Request.ofStart α r.body with
    | .ok a => .ok a
    | .error .malformed => .error .malformed
    | .error .mismatch => .error .mismatch
  else .error .notJson

/-- Read the body and check its rules. -/
def checkedBody (α : Type) [Request α] (r : HttpRequest) : Except ApiError α :=
  match r.readBody α with
  | .error fault => .error (.badRequest "INVALID_BODY" fault.text)
  | .ok a =>
    match Request.check a with
    | .ok _ => .ok a
    | .error e => .error e.toApi

end HttpRequest

end Turnstile
