import Turnstile.Encoding.Base64

/-!
What the services ask of a way to store passwords. A hash is made with a salt. Checking a password
against a stored hash tells right from wrong, and fails only where the stored hash cannot be used.
-/

namespace Turnstile

structure PasswordScheme where
  /-- The text to store for a password, made with the given salt. -/
  hash : Bytes → String → String
  /-- The password belongs to the stored hash, or why the hash cannot be used. -/
  verify : String → String → Except String Bool

end Turnstile
