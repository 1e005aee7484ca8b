import Turnstile.Token.Claims
import Turnstile.Encoding.Base64

/-!
The compact form of a signed token: header, claims and signature in base 64, with dots between them.
Only one kind of signature is made and accepted. The header is written in one way and read in any way
that its form allows.
-/

namespace Turnstile

/-- How signatures are made and checked. Making one fails where the private key cannot be used. -/
structure TokenKeys where
  sign : Bytes → Except String Bytes
  verify : Bytes → Bytes → Bool

namespace CompactToken

/-- The header of the tokens made here. -/
def header : Json := .obj [("typ", .str "JWT"), ("alg", .str "RS256")]

/-- Names of signature algorithms that a header may hold. -/
def algorithms : List String :=
  ["HS256", "HS384", "HS512", "ES256", "ES384", "RS256", "RS384", "RS512", "PS256", "PS384",
    "PS512", "EdDSA"]

def headerShape : Shape :=
  .record [("typ", .optional .text, false), ("alg", .choice algorithms, false),
    ("cty", .optional .text, false), ("jku", .optional .text, false),
    ("jwk", .optional .any, false), ("kid", .optional .text, false),
    ("x5u", .optional .text, false), ("x5c", .optional (.list .text), false),
    ("x5t", .optional .text, false), ("x5t#S256", .optional .text, false)]

/-- Members that a key inside a header must have, by its type. -/
def keyMembers? : String → Option (List String)
  | "EC" => some ["crv", "x", "y"]
  | "RSA" => some ["n", "e"]
  | "oct" => some ["k"]
  | "OKP" => some ["crv", "x"]
  | _ => none

/-- A key inside a header is an object of a known type with the members of that type. -/
def isKey (j : Json) : Bool :=
  let text := fun name => (j.get? name).bind Json.asText?
  match (text "kty").bind keyMembers? with
  | some names => names.all fun name => (text name).isSome
  | none => false

/-- The text that bytes are the UTF-8 form of. -/
def textOfBytes (bs : Bytes) : Except TokenError String :=
  (ofUtf8? bs).elim (.error .badJson) .ok

/-- The bytes written in base 64. -/
def decode (cs : List Char) : Except TokenError Bytes :=
  (Base64.urlSafe.decode? cs).elim (.error .badBase64) .ok

/-- The algorithm a header names. -/
def algorithmOf (part : List Char) : Except TokenError String := do
  let s ← textOfBytes (← decode part)
  match headerShape.read s with
  | .error _ => throw .badJson
  | .ok j =>
    if ((j.get? "jwk").filter fun k => !k.isNull).any fun k => !isKey k then throw .badJson
    match (j.get? "alg").bind Json.asText? with
    | some name => return name
    | none => throw .badJson

/-- Split at the last dot: what comes before and what comes after. -/
def splitLast? (cs : List Char) : Option (List Char × List Char) :=
  if cs.contains '.' then
    let r := cs.reverse
    some ((r.dropWhile (· ≠ '.')).drop 1 |>.reverse, (r.takeWhile (· ≠ '.')).reverse)
  else none

/-- A text of bytes in base 64. -/
def encodeText (s : List Char) : List Char := Base64.urlSafe.encode (utf8 s)

/-- Sign claims. -/
def make (keys : TokenKeys) (claims : TokenClaims) : Except String String := do
  let message := encodeText header.chars ++ '.' :: encodeText claims.toJson.chars
  let signature ← keys.sign (utf8 message)
  return String.ofList (message ++ '.' :: Base64.urlSafe.encode signature)

/-- The text of the claims of a token that is signed as it has to be. -/
def claimsText (keys : TokenKeys) (token : String) : Except TokenError String := do
  match splitLast? token.toList with
  | none => throw .notCompact
  | some (message, signature) =>
    match splitLast? message with
    | none => throw .notCompact
    | some (header, claims) =>
      let algorithm ← algorithmOf header
      if algorithm ≠ "RS256" then throw .wrongAlgorithm
      let signature ← decode signature
      if !keys.verify (utf8 message) signature then throw .wrongSignature
      textOfBytes (← decode claims)

end CompactToken

end Turnstile
