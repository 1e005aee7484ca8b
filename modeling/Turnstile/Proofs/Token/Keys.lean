import Mathlib.NumberTheory.LucasLehmer
import Turnstile.Token.Keys
import Turnstile.Proofs.Signature.Rsa
import Turnstile.Proofs.Token.Compact
import Turnstile.Proofs.Token.Issuing

/-!
Keys from the two files of one key pair are paired: what is signed with them is verified with them.
-/

namespace Turnstile.TokenKeys

/-- The keys made of two RSA keys. -/
def ofRsa (key : Rsa.PrivateKey) (pub : Rsa.PublicKey) : TokenKeys where
  sign message := .ok (Rsa.sign key message)
  verify := Rsa.verify pub

theorem ofRsa_paired {key : Rsa.PrivateKey} {pub : Rsa.PublicKey} (h : Rsa.Matches key pub) :
    (ofRsa key pub).Paired :=
  fun message => ⟨Rsa.sign key message, rfl, Rsa.verify_sign h message⟩

section Files

variable {privatePem publicPem : String} {privateBytes publicBytes : Bytes} {keys : TokenKeys}
  {key : Rsa.PrivateKey} {pub : Rsa.PublicKey}

/-- Key files that hold RSA keys make the keys that are made of these. -/
theorem of_ofPem (h : ofPem privatePem publicPem = .ok keys)
    (hprivate : Rsa.keyBytes privatePem = .ok privateBytes)
    (hpublic : Rsa.keyBytes publicPem = .ok publicBytes)
    (hkey : Rsa.PrivateKey.ofDer privateBytes = .ok key)
    (hpub : Rsa.PublicKey.ofDer? publicBytes = some pub) : keys = ofRsa key pub := by
  unfold ofPem at h
  rw [hprivate, hpublic] at h
  cases h
  simp only [ofRsa, hkey, hpub]

theorem ofPem_paired (h : ofPem privatePem publicPem = .ok keys)
    (hprivate : Rsa.keyBytes privatePem = .ok privateBytes)
    (hpublic : Rsa.keyBytes publicPem = .ok publicBytes)
    (hkey : Rsa.PrivateKey.ofDer privateBytes = .ok key)
    (hpub : Rsa.PublicKey.ofDer? publicBytes = some pub) (hmatches : Rsa.Matches key pub) :
    keys.Paired := by
  rw [of_ofPem h hprivate hpublic hkey hpub]
  exact ofRsa_paired hmatches

/-- Either the file of the private key holds a key that signs everything, or nothing is signed. -/
theorem ofPem_uniform (h : ofPem privatePem publicPem = .ok keys) : keys.Uniform := by
  unfold ofPem at h
  cases hprivate : Rsa.keyBytes privatePem with
  | error reason => rw [hprivate] at h; cases h
  | ok privateBytes =>
    cases hpublic : Rsa.keyBytes publicPem with
    | error reason => rw [hprivate, hpublic] at h; cases h
    | ok publicBytes =>
      rw [hprivate, hpublic] at h
      cases h
      unfold Uniform
      dsimp only
      cases Rsa.PrivateKey.ofDer privateBytes with
      | ok key => exact .inl fun message => ⟨_, rfl⟩
      | error reason => exact .inr ⟨_, fun message => rfl⟩

end Files

/-! ### A pair of keys whose primes are known to be prime -/

/-- The modulus is the product of two Mersenne primes and has 3482 bits. -/
def mersennePublic : Rsa.PublicKey where
  modulus := mersenne 1279 * mersenne 2203
  exponent := 5

def mersennePrivate : Rsa.PrivateKey where
  modulus := mersenne 1279 * mersenne 2203
  publicExponent := 5
  exponent := (4 * ((mersenne 1279 - 1) * (mersenne 2203 - 1)) + 1) / 5

theorem mersenne_matches : Rsa.Matches mersennePrivate mersennePublic where
  modulus := rfl
  primes := by
    refine ⟨mersenne 1279, mersenne 2203, ?_, ?_, by decide +kernel, rfl, by decide +kernel⟩
    · exact lucas_lehmer_sufficiency _ (by decide) (by norm_num)
    · exact lucas_lehmer_sufficiency _ (by decide) (by norm_num)
  room := by decide +kernel

end Turnstile.TokenKeys
