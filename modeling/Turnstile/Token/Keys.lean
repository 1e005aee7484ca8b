import Turnstile.Token.Compact
import Turnstile.Signature.Rsa

/-!
Keys for tokens from key files. A file that holds no key is refused at once; a private key that is
damaged inside shows only when something is signed, and a damaged public key verifies nothing.
-/

namespace Turnstile

/-- A key file as it was found: its path, and its text or why it cannot be read. -/
structure KeyFile where
  path : String
  content : Except String String

namespace TokenKeys

/-- Keys from the texts of two key files. -/
def ofPem (privatePem publicPem : String) : Except String TokenKeys := do
  let privateBytes ← (Rsa.keyBytes privatePem).mapError ("Failed to parse private key: " ++ ·)
  let publicBytes ← (Rsa.keyBytes publicPem).mapError ("Failed to parse public key: " ++ ·)
  return {
    sign := fun message =>
      match Rsa.PrivateKey.ofDer privateBytes with
      | .ok key => .ok (Rsa.sign key message)
      | .error reason => .error ("RSA key invalid: " ++ reason)
    verify := fun message signature =>
      match Rsa.PublicKey.ofDer? publicBytes with
      | some key => Rsa.verify key message signature
      | none => false }

/-- Keys from two key files. -/
def ofFiles (privateFile publicFile : KeyFile) : Except String TokenKeys := do
  let unreadable := fun kind (f : KeyFile) reason =>
    "Failed to read " ++ kind ++ " key from " ++ f.path ++ ": " ++ reason
  let privatePem ← privateFile.content.mapError (unreadable "private" privateFile)
  let publicPem ← publicFile.content.mapError (unreadable "public" publicFile)
  ofPem privatePem publicPem

end TokenKeys

end Turnstile
