import Turnstile.Token.Claims

/-!
The checks on registered claims: that those that are asked for are there, that the token counts now,
who issued it, and that it names no audience. These claims are read by themselves, and leniently: a
claim of an unusual form counts as missing.
-/

namespace Turnstile

/-- The claims that are looked at to decide whether a token counts. -/
structure RegisteredClaims where
  expiresAt : Option Nat
  notBefore : Option Nat
  subject : Option String
  issuer : Option String
  hasAudience : Bool

namespace RegisteredClaims

def shape : Shape :=
  .record [("exp", .any, true), ("nbf", .any, true), ("sub", .optional .any, false),
    ("iss", .optional .any, false), ("aud", .optional .any, false)]

/-- Seconds since 1970-01-01. -/
def time? : Json → Option Nat
  | .int n => if 0 ≤ n then some n.toNat else none
  | _ => none

/-- An audience is a name or a list of names. -/
def isAudience : Json → Bool
  | .str _ => true
  | .arr items => items.all fun j => j.asText?.isSome
  | _ => false

/-- No filled list or object stands for a time, and no list or object for the subject. -/
def isReadable (j : Json) : Bool :=
  let isFlat := fun name => match j.get? name with
    | some (.arr items) => items.isEmpty
    | some (.obj members) => members.isEmpty
    | _ => true
  let isPlain := match j.get? "sub" with
    | some (.arr _) | some (.obj _) => false
    | _ => true
  isFlat "exp" && isFlat "nbf" && isPlain

def ofJson (j : Json) : RegisteredClaims where
  expiresAt := (j.get? "exp").bind time?
  notBefore := (j.get? "nbf").bind time?
  subject := (j.get? "sub").bind Json.asText?
  issuer := (j.get? "iss").bind Json.asText?
  hasAudience := (j.get? "aud").any isAudience

/-- Read the registered claims of a token. -/
def ofText (s : String) : Except TokenError RegisteredClaims :=
  match shape.read s with
  | .ok j => if isReadable j then .ok (ofJson j) else .error .badJson
  | .error _ => .error .badJson

end RegisteredClaims

/-- What a token is checked for: the moment it has to count at and its issuer, if they matter. -/
structure Expectation where
  moment : Option Int
  issuer : Option String

namespace Expectation

/-- The first claim that is asked for and missing. -/
def missing? (c : RegisteredClaims) : Option String :=
  if c.expiresAt.isNone then some "exp"
  else if c.notBefore.isNone then some "nbf"
  else if c.issuer.isNone then some "iss"
  else if c.subject.isNone then some "sub"
  else none

/-- The first check that fails. A token counts from its first to its last second, both included. -/
def check (e : Expectation) (c : RegisteredClaims) : Except TokenError Unit := do
  if let some now := e.moment then
    if let some name := missing? c then throw (.missingClaim name)
    if let some t := c.expiresAt then
      if (t : Int) < now then throw .expired
    if let some t := c.notBefore then
      if now < (t : Int) then throw .immature
  if let some expected := e.issuer then
    if let some issuer := c.issuer then
      if issuer ≠ expected then throw .wrongIssuer
  if c.hasAudience then throw .unexpectedAudience

end Expectation

end Turnstile
