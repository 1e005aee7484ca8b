import Mathlib.FieldTheory.Finite.Basic
import Turnstile.Signature.Rsa

/-!
What is signed with a private key is verified with the public key that belongs to it.
-/

namespace Turnstile

/-! ### Numbers as bytes -/

namespace Sha256

@[simp] theorem length_bigEndian (count n : Nat) : (bigEndian count n).length = count := by
  induction count with
  | zero => rfl
  | succ count ih => rw [bigEndian, List.length_cons, ih]

theorem bigEndian_succ (count n : Nat) :
    bigEndian (count + 1) n = UInt8.ofNat (n / 256 ^ count % 256) :: bigEndian count n := by
  have hpow : (256 : Nat) ^ count = 2 ^ (8 * count) := by rw [Nat.pow_mul]
  rw [bigEndian, Nat.shiftRight_eq_div_pow, hpow, UInt8.ofNat_mod_size]

theorem length_hash (message : Bytes) : (hash message).length = 32 := by
  unfold hash
  simp

end Sha256

namespace Der

open Sha256 (bigEndian)

theorem foldl_eq (bs : Bytes) (n : Nat) :
    bs.foldl (fun n b => n * 256 + b.toNat) n = n * 256 ^ bs.length + bigEndianNat bs := by
  induction bs generalizing n with
  | nil => simp [bigEndianNat]
  | cons b bs ih =>
    unfold bigEndianNat at ih ⊢
    rw [List.foldl_cons, List.foldl_cons, ih, ih (0 * 256 + b.toNat), List.length_cons]
    ring

theorem bigEndianNat_cons (b : UInt8) (bs : Bytes) :
    bigEndianNat (b :: bs) = b.toNat * 256 ^ bs.length + bigEndianNat bs := by
  rw [← foldl_eq, bigEndianNat, List.foldl_cons, Nat.zero_mul, Nat.zero_add]

theorem bigEndianNat_lt (bs : Bytes) : bigEndianNat bs < 256 ^ bs.length := by
  induction bs with
  | nil => decide
  | cons b bs ih =>
    have hb := b.toNat_lt
    calc bigEndianNat (b :: bs)
      _ = b.toNat * 256 ^ bs.length + bigEndianNat bs := bigEndianNat_cons b bs
      _ < b.toNat * 256 ^ bs.length + 256 ^ bs.length := by omega
      _ = (b.toNat + 1) * 256 ^ bs.length := by ring
      _ ≤ 256 * 256 ^ bs.length := Nat.mul_le_mul_right _ hb
      _ = 256 ^ (b :: bs).length := by rw [List.length_cons, Nat.pow_succ, Nat.mul_comm]

/-- A number is read back from its bytes as far as they reach. -/
theorem bigEndianNat_bigEndian (count n : Nat) :
    bigEndianNat (bigEndian count n) = n % 256 ^ count := by
  induction count with
  | zero => rw [Nat.pow_zero, Nat.mod_one]; rfl
  | succ count ih =>
    have hbyte : (UInt8.ofNat (n / 256 ^ count % 256)).toNat = n / 256 ^ count % 256 := by
      rw [UInt8.toNat_ofNat']
      omega
    rw [Sha256.bigEndian_succ, bigEndianNat_cons, ih, hbyte, Sha256.length_bigEndian, Nat.pow_succ,
      Nat.mod_mul, Nat.add_comm, Nat.mul_comm]

/-- Bytes are written again for the number that they are, whatever stands above it. -/
theorem bigEndian_bigEndianNat (bs : Bytes) (k : Nat) :
    bigEndian bs.length (k * 256 ^ bs.length + bigEndianNat bs) = bs := by
  induction bs generalizing k with
  | nil => rfl
  | cons b bs ih =>
    have hsum : k * 256 ^ (b :: bs).length + bigEndianNat (b :: bs) =
        (k * 256 + b.toNat) * 256 ^ bs.length + bigEndianNat bs := by
      rw [bigEndianNat_cons, List.length_cons]
      ring
    have hdiv : ((k * 256 + b.toNat) * 256 ^ bs.length + bigEndianNat bs) / 256 ^ bs.length =
        k * 256 + b.toNat := by
      rw [Nat.add_comm, Nat.add_mul_div_right _ _ (Nat.pow_pos (by decide)),
        Nat.div_eq_of_lt (bigEndianNat_lt bs), Nat.zero_add]
    have hbyte : (k * 256 + b.toNat) % 256 = b.toNat := by
      have hb := b.toNat_lt
      omega
    rw [hsum, List.length_cons, Sha256.bigEndian_succ, hdiv, hbyte, UInt8.ofNat_toNat, ih]

end Der

namespace Rsa

/-! ### Powers -/

theorem powMod_eq (m : Nat) {fuel exponent : Nat} (h : exponent < 2 ^ fuel) (base : Nat) :
    powMod m fuel base exponent = base ^ exponent % m := by
  induction fuel generalizing base exponent with
  | zero =>
    obtain rfl : exponent = 0 := by simpa using h
    rfl
  | succ fuel ih =>
    by_cases hzero : exponent = 0
    · simp [powMod, hzero]
    · have hhalf : powMod m fuel (base * base % m) (exponent / 2) =
          base ^ (2 * (exponent / 2)) % m := by
        rw [ih (by omega), ← Nat.pow_mod, Nat.pow_mul, Nat.pow_two]
      simp only [powMod, hzero, if_false, hhalf]
      by_cases hodd : exponent % 2 = 1
      · have hsplit : 2 * (exponent / 2) + 1 = exponent := by omega
        rw [if_pos hodd, Nat.mod_mul_mod, ← pow_succ, hsplit]
      · have hsplit : 2 * (exponent / 2) = exponent := by omega
        rw [if_neg hodd, hsplit]

theorem modExp_eq (m base exponent : Nat) : modExp m base exponent = base ^ exponent % m := by
  unfold modExp
  rw [powMod_eq m Nat.lt_log2_self, ← Nat.pow_mod]

/-- A power whose exponent is one more than a multiple of `p - 1` is the base, modulo a
prime `p`. -/
theorem pow_modEq_self {p : Nat} (hp : p.Prime) (x k : Nat) :
    x ^ (k * (p - 1) + 1) ≡ x [MOD p] := by
  by_cases hx : p ∣ x
  · have hpow : x ^ (k * (p - 1) + 1) ≡ 0 [MOD p] :=
      Nat.modEq_zero_iff_dvd.mpr (dvd_pow hx (Nat.succ_ne_zero _))
    exact hpow.trans (Nat.modEq_zero_iff_dvd.mpr hx).symm
  · have hfermat : x ^ (p - 1) ≡ 1 [MOD p] := by
      have hcoprime : x.Coprime p := ((Nat.Prime.coprime_iff_not_dvd hp).mpr hx).symm
      rw [← Nat.totient_prime hp]
      exact Nat.ModEq.pow_totient hcoprime
    calc x ^ (k * (p - 1) + 1)
      _ = (x ^ (p - 1)) ^ k * x := by rw [Nat.pow_succ, Nat.mul_comm k, Nat.pow_mul]
      _ ≡ 1 ^ k * x [MOD p] := (hfermat.pow k).mul_right x
      _ = x := by rw [Nat.one_pow, Nat.one_mul]

/-! ### Keys -/

/-- The keys belong together: they have one modulus, a product of two primes, for which their
exponents cancel each other, and which has room for a padded digest. -/
structure Matches (key : PrivateKey) (pub : PublicKey) : Prop where
  modulus : pub.modulus = key.modulus
  primes : ∃ p q : Nat, p.Prime ∧ q.Prime ∧ p ≠ q ∧ key.modulus = p * q ∧
    key.exponent * pub.exponent ≡ 1 [MOD (p - 1) * (q - 1)]
  room : 54 ≤ size key.modulus

theorem one_lt_totient {p q : Nat} (hp : p.Prime) (hq : q.Prime) (hne : p ≠ q) :
    1 < (p - 1) * (q - 1) := by
  have hp2 := hp.two_le
  have hq2 := hq.two_le
  rcases Nat.lt_or_gt_of_ne hne with hlt | hlt
  · calc 1 < 1 * 2 := by decide
      _ ≤ (p - 1) * (q - 1) := Nat.mul_le_mul (by omega) (by omega)
  · calc 1 < 2 * 1 := by decide
      _ ≤ (p - 1) * (q - 1) := Nat.mul_le_mul (by omega) (by omega)

namespace Matches

variable {key : PrivateKey} {pub : PublicKey}

/-- Raising to both exponents changes nothing. -/
theorem pow_mod_self (h : Matches key pub) {x : Nat} (hx : x < key.modulus) :
    x ^ (key.exponent * pub.exponent) % key.modulus = x := by
  obtain ⟨p, q, hp, hq, hne, hmodulus, hexponents⟩ := h.primes
  have hone : key.exponent * pub.exponent % ((p - 1) * (q - 1)) = 1 :=
    Eq.trans hexponents (Nat.mod_eq_of_lt (one_lt_totient hp hq hne))
  obtain ⟨k, hexponent⟩ : ∃ k, key.exponent * pub.exponent = k * ((p - 1) * (q - 1)) + 1 :=
    ⟨_, ((congrArg _ hone).symm.trans (Nat.div_add_mod' _ _)).symm⟩
  have hmodp : x ^ (key.exponent * pub.exponent) ≡ x [MOD p] := by
    rw [hexponent, show k * ((p - 1) * (q - 1)) = k * (q - 1) * (p - 1) by ring]
    exact pow_modEq_self hp x _
  have hmodq : x ^ (key.exponent * pub.exponent) ≡ x [MOD q] := by
    rw [hexponent, ← Nat.mul_assoc]
    exact pow_modEq_self hq x _
  have hcoprime : p.Coprime q := (Nat.coprime_primes hp hq).mpr hne
  rw [hmodulus] at hx ⊢
  exact Eq.trans ((Nat.modEq_and_modEq_iff_modEq_mul hcoprime).mp ⟨hmodp, hmodq⟩)
    (Nat.mod_eq_of_lt hx)

/-- A number opens to what it was made from. -/
theorem open_close (h : Matches key pub) {x : Nat} (hx : x < key.modulus) :
    modExp key.modulus (modExp key.modulus x key.exponent) pub.exponent = x := by
  rw [modExp_eq, modExp_eq, ← Nat.pow_mod, ← Nat.pow_mul, h.pow_mod_self hx]

end Matches

/-! ### Padded digests -/

theorem length_paddedDigest {count : Nat} (h : 54 ≤ count) (message : Bytes) :
    (paddedDigest count message).length = count := by
  have htail : (digestHeader ++ Sha256.hash message).length = 51 := by
    rw [List.length_append, Sha256.length_hash]
    rfl
  unfold paddedDigest
  simp only [List.length_cons, List.length_append, List.length_replicate, htail]
  omega

theorem modulus_lt (modulus : Nat) : modulus < 256 ^ size modulus := by
  have hbits : modulus.log2 + 1 ≤ 8 * size modulus := by
    unfold size
    omega
  calc modulus < 2 ^ (modulus.log2 + 1) := Nat.lt_log2_self
    _ ≤ 2 ^ (8 * size modulus) := Nat.pow_le_pow_right (by decide) hbits
    _ = 256 ^ size modulus := by rw [Nat.pow_mul]

theorem le_modulus {modulus : Nat} (h : modulus ≠ 0) : 256 ^ (size modulus - 1) ≤ modulus := by
  have hbits : 8 * (size modulus - 1) ≤ modulus.log2 := by
    unfold size
    omega
  calc 256 ^ (size modulus - 1) = 2 ^ (8 * (size modulus - 1)) := by rw [Nat.pow_mul]
    _ ≤ 2 ^ modulus.log2 := Nat.pow_le_pow_right (by decide) hbits
    _ ≤ modulus := Nat.log2_self_le h

/-- A padded digest starts with a zero, so it stands for a number below the modulus. -/
theorem paddedDigest_lt {modulus : Nat} (h : 54 ≤ size modulus) (message : Bytes) :
    Der.bigEndianNat (paddedDigest (size modulus) message) < modulus := by
  have hne : modulus ≠ 0 := by
    rintro rfl
    exact absurd h (by decide)
  obtain ⟨rest, hrest⟩ : ∃ rest, paddedDigest (size modulus) message = 0x00 :: rest := ⟨_, rfl⟩
  have hlength := length_paddedDigest h message
  rw [hrest, List.length_cons] at hlength
  have hrestLength : rest.length = size modulus - 1 := by omega
  calc Der.bigEndianNat (paddedDigest (size modulus) message)
    _ = Der.bigEndianNat rest := by
      rw [hrest, Der.bigEndianNat_cons]
      simp
    _ < 256 ^ (size modulus - 1) := hrestLength ▸ Der.bigEndianNat_lt rest
    _ ≤ modulus := le_modulus hne

/-- What was signed with a private key is verified with its public key. -/
theorem verify_sign {key : PrivateKey} {pub : PublicKey} (h : Matches key pub) (message : Bytes) :
    verify pub message (sign key message) = true := by
  have hlt := paddedDigest_lt h.room message
  have hpositive : 0 < key.modulus := Nat.lt_of_le_of_lt (Nat.zero_le _) hlt
  generalize hn : Der.bigEndianNat (paddedDigest (size key.modulus) message) = n at hlt
  have hclosed : modExp key.modulus n key.exponent < key.modulus := by
    rw [modExp_eq]
    exact Nat.mod_lt _ hpositive
  have hread : Der.bigEndianNat (sign key message) = modExp key.modulus n key.exponent := by
    unfold sign
    dsimp only
    rw [hn, Der.bigEndianNat_bigEndian]
    exact Nat.mod_eq_of_lt (Nat.lt_trans hclosed (modulus_lt key.modulus))
  have hlength : (sign key message).length = size key.modulus := Sha256.length_bigEndian _ _
  have hwritten : Sha256.bigEndian (size key.modulus) n =
      paddedDigest (size key.modulus) message := by
    have hwrite := Der.bigEndian_bigEndianNat (paddedDigest (size key.modulus) message) 0
    rwa [Nat.zero_mul, Nat.zero_add, hn, length_paddedDigest h.room] at hwrite
  unfold verify
  simp only [h.modulus, hread, hlength, h.open_close hlt, hwritten, hclosed, beq_self_eq_true,
    decide_true, Bool.and_self]

end Rsa

end Turnstile
