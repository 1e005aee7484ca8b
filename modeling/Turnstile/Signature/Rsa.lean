import Turnstile.Signature.Der
import Turnstile.Digest.Sha256

/-!
RSA signatures with the padding of PKCS #1 version 1.5 over SHA-256 digests, and the keys for them.
-/

namespace Turnstile.Rsa

structure PublicKey where
  modulus : Nat
  exponent : Nat

structure PrivateKey where
  modulus : Nat
  publicExponent : Nat
  exponent : Nat

/-- `base ^ exponent` modulo `m`, by squaring; `fuel` bounds the bits of the exponent. -/
def powMod (m : Nat) : Nat → Nat → Nat → Nat
  | 0, _, _ => 1 % m
  | fuel + 1, base, exponent =>
    if exponent = 0 then 1 % m
    else
      let half := powMod m fuel (base * base % m) (exponent / 2)
      if exponent % 2 = 1 then half * base % m else half

/-- `base ^ exponent` modulo `m`. -/
def modExp (m base exponent : Nat) : Nat := powMod m (exponent.log2 + 1) (base % m) exponent

/-- Bytes that a number below the modulus is written in. -/
def size (modulus : Nat) : Nat := (modulus.log2 + 8) / 8

/-- The name of the hash function in front of a digest. -/
def digestHeader : Bytes :=
  [0x30, 0x31, 0x30, 0x0d, 0x06, 0x09, 0x60, 0x86, 0x48, 0x01, 0x65, 0x03, 0x04, 0x02, 0x01, 0x05,
   0x00, 0x04, 0x20]

/-- The digest of a message with its header, filled up to `count` bytes. -/
def paddedDigest (count : Nat) (message : Bytes) : Bytes :=
  let tail := digestHeader ++ Sha256.hash message
  0x00 :: 0x01 :: (List.replicate (count - tail.length - 3) 0xFF ++ 0x00 :: tail)

def sign (key : PrivateKey) (message : Bytes) : Bytes :=
  let count := size key.modulus
  let n := Der.bigEndianNat (paddedDigest count message)
  Sha256.bigEndian count (modExp key.modulus n key.exponent)

/-- The signature has the length of the modulus, stands for a number below it, and opens to the padded
digest of the message. -/
def verify (key : PublicKey) (message signature : Bytes) : Bool :=
  let count := size key.modulus
  let s := Der.bigEndianNat signature
  signature.length == count && s < key.modulus &&
    Sha256.bigEndian count (modExp key.modulus s key.exponent) == paddedDigest count message

/-- Keys between 2048 and 8192 bits are used. -/
def isUsableSize (modulus : Nat) : Bool := 2048 ≤ modulus.log2 + 1 && modulus.log2 + 1 ≤ 8192

/-- A public key from its two numbers. -/
def PublicKey.ofDer? (bs : Bytes) : Option PublicKey := do
  match ← Der.ofBytes? bs with
  | [.sequence [n, e]] =>
    let n ← n.asNat?
    let e ← e.asNat?
    if isUsableSize n ∧ n % 2 = 1 ∧ e % 2 = 1 ∧ 3 ≤ e ∧ e < 8589934592 then some ⟨n, e⟩ else none
  | _ => none

/-- A private key from its nine numbers, or what is wrong with it. -/
def PrivateKey.ofDer (bs : Bytes) : Except String PrivateKey :=
  match Der.ofBytes? bs with
  | some [.sequence (version :: numbers)] =>
    match version.asNat?, numbers.mapM Der.asNat? with
    | some v, some ns =>
      if 255 < v then .error "InvalidEncoding"
      else if v ≠ 0 then .error "VersionNotSupported"
      else
        match ns with
        | [n, e, d, p, q, _, _, _] =>
          if n.log2 + 1 < 2048 then .error "TooSmall"
          else if 8192 < n.log2 + 1 then .error "TooLarge"
          else if p * q ≠ n then .error "InconsistentComponents"
          else .ok ⟨n, e, d⟩
        | _ => .error "InvalidEncoding"
    | _, _ => .error "InvalidEncoding"
  | _ => .error "InvalidEncoding"

/-! ### Key files -/

/-- Object identifiers of kinds of keys. -/
def rsaId : Bytes := [0x2a, 0x86, 0x48, 0x86, 0xf7, 0x0d, 0x01, 0x01, 0x01]
def ecId : Bytes := [0x2a, 0x86, 0x48, 0xce, 0x3d, 0x02, 0x01]
def ed25519Id : Bytes := [0x2b, 0x65, 0x70]

/-- The bytes of the RSA key in a key file. Whether they are a key shows only when they are used. -/
def keyBytes (pem : String) : Except String Bytes :=
  match PemBlock.ofText? pem with
  | none => .error "InvalidKeyFormat"
  | some block =>
    match Der.ofBytes? block.content with
    | none => .error "InvalidKeyFormat"
    | some values =>
      match block.label with
      | "RSA PRIVATE KEY" | "RSA PUBLIC KEY" => .ok block.content
      | "PRIVATE KEY" | "PUBLIC KEY" | "CERTIFICATE" =>
        if Der.firstKnownIdIn? [rsaId, ecId, ed25519Id] values == some rsaId then
          match Der.firstStringIn? values with
          | some bs => .ok bs
          | none => .error "InvalidEcdsaKey"
        else .error "InvalidKeyFormat"
      | _ => .error "InvalidKeyFormat"

end Turnstile.Rsa
