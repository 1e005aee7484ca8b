import Turnstile.Token.Compact
import Turnstile.Token.Validity

/-!
Issuing and checking pairs of tokens. Both tokens of a pair name the same session; the access token
counts for minutes and the refresh token for days, from the second in which they are issued to their
last second, both included.
-/

namespace Turnstile

/-- Who issues tokens, with which keys and for how long they count. -/
structure TokenIssuer where
  keys : TokenKeys
  name : String
  accessMinutes : Int
  refreshDays : Int

/-- The tokens of a session. -/
structure TokenPair where
  sessionId : String
  accessToken : String
  refreshToken : String

namespace TokenIssuer

/-- How long a token of the kind counts, in seconds. -/
def lifetime (i : TokenIssuer) : TokenKind → Int
  | .access => i.accessMinutes * 60
  | .refresh => i.refreshDays * 86400

/-- The lifetime of access tokens as callers are told, a number of 64 bits. -/
def accessSeconds (i : TokenIssuer) : Int := (i.lifetime .access).bmod 18446744073709551616

/-- The claims of a token issued now. -/
def claims (i : TokenIssuer) (now : Instant) (kind : TokenKind) (sessionId : String) (userId : Int)
    (role : String) : Except Failure TokenClaims :=
  match now.addSeconds? (i.lifetime kind) with
  | none => .error (.fault .timeOutOfRange)
  | some expiry =>
    .ok {
      sessionId := sessionId
      subject := toString userId
      role := role
      issuer := i.name
      issuedAt := now.seconds
      notBefore := now.seconds
      expiresAt := expiry.seconds
      kind := kind }

/-- Issue one token. -/
def issue (i : TokenIssuer) (now : Instant) (kind : TokenKind) (sessionId : String) (userId : Int)
    (role : String) : Except Failure String := do
  let claims ← i.claims now kind sessionId userId role
  (CompactToken.make i.keys claims).mapError fun reason =>
    .error (.internal ("Failed to encode token: " ++ reason))

/-- Issue both tokens of a session. -/
def issuePair (i : TokenIssuer) (now : Instant) (sessionId : String) (userId : Int) (role : String) :
    Except Failure TokenPair := do
  let accessToken ← i.issue now .access sessionId userId role
  let refreshToken ← i.issue now .refresh sessionId userId role
  return ⟨sessionId, accessToken, refreshToken⟩

/-- The claims of a token that is signed, counts now, and was issued here. -/
def verify (i : TokenIssuer) (now : Instant) (token : String) : Except TokenError TokenClaims := do
  let text ← CompactToken.claimsText i.keys token
  let claims ← TokenClaims.ofText text
  Expectation.check ⟨some now.seconds, some i.name⟩ (← RegisteredClaims.ofText text)
  return claims

/-- Verify a token and that it is of the kind asked for. -/
def verifyKind (i : TokenIssuer) (now : Instant) (token : String) (kind : TokenKind) :
    Except TokenError TokenClaims := do
  let claims ← i.verify now token
  if claims.kind ≠ kind then throw (.wrongKind kind claims.kind)
  return claims

/-- The session of a token that is signed, whether it counts or not. -/
def sessionOf (i : TokenIssuer) (token : String) : Except TokenError String := do
  let text ← CompactToken.claimsText i.keys token
  let sessionId ← TokenClaims.sessionOfText text
  Expectation.check ⟨none, none⟩ (← RegisteredClaims.ofText text)
  return sessionId

end TokenIssuer

/-- The text `s` without the given beginning. -/
def dropStart? (start : List Char) (cs : List Char) : Option (List Char) :=
  if start.isPrefixOf cs then some (cs.drop start.length) else none

/-- The token in the value of an authorization header, with or without the word `Bearer` before it. -/
def bearerToken (value : String) : String :=
  let cs := (Text.trim value).toList
  let token := (dropStart? "Bearer ".toList cs <|> dropStart? "bearer ".toList cs).getD cs
  Text.trim (String.ofList token)

end Turnstile
