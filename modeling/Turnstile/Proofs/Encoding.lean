import Turnstile.Encoding.Base64

/-!
What is written in base 64 or as UTF-8 is read back as it was.
-/

namespace Turnstile

namespace Base64

variable {a : Base64}

theorem value?_digit_urlSafe : ∀ n < 64, urlSafe.value? (urlSafe.digit n) = some n := by
  decide +kernel

theorem ofNat_of_eq {x : UInt8} {n : Nat} (h : n = x.toNat) : UInt8.ofNat n = x := by
  rw [h, UInt8.ofNat_toNat]

/-- A number is its groups of six bits, put together. -/
theorem sum_of_groups (n : Nat) :
    n / 262144 * 262144 + n / 4096 % 64 * 4096 + n / 64 % 64 * 64 + n % 64 = n := by
  have hfirst : n / 262144 * 64 + n / 4096 % 64 = n / 4096 := by
    rw [← Nat.div_div_eq_div_mul n 4096 64]
    exact Nat.div_add_mod' (n / 4096) 64
  have hsecond : n / 4096 * 64 + n / 64 % 64 = n / 64 := by
    rw [← Nat.div_div_eq_div_mul n 64 64]
    exact Nat.div_add_mod' (n / 64) 64
  calc n / 262144 * 262144 + n / 4096 % 64 * 4096 + n / 64 % 64 * 64 + n % 64
    _ = ((n / 262144 * 64 + n / 4096 % 64) * 64 + n / 64 % 64) * 64 + n % 64 := by
      simp only [Nat.add_mul, Nat.mul_assoc]
    _ = n := by rw [hfirst, hsecond, Nat.div_add_mod']

theorem decode?_encode (ha : ∀ n < 64, a.value? (a.digit n) = some n) (bs : Bytes) :
    a.decode? (a.encode bs) = some bs := by
  induction bs using encode.induct with
  | case1 => rfl
  | case2 x =>
    have hx := x.toNat_lt
    have hn : x.toNat * 16 / 64 * 64 + x.toNat * 16 % 64 = x.toNat * 16 := by omega
    simp only [encode, decode?]
    rw [ha _ (by omega), ha _ (by omega)]
    simp only [Option.bind_eq_bind, Option.bind_some]
    rw [hn, if_pos (by omega), ofNat_of_eq (x := x) (by omega)]
  | case3 x y =>
    have hx := x.toNat_lt
    have hy := y.toNat_lt
    generalize hn : (x.toNat * 256 + y.toNat) * 4 = n
    have hsum : n / 4096 * 4096 + n / 64 % 64 * 64 + n % 64 = n := by omega
    simp only [encode, decode?, hn]
    rw [ha _ (by omega), ha _ (by omega), ha _ (by omega)]
    simp only [Option.bind_eq_bind, Option.bind_some]
    rw [hsum, if_pos (by omega), ofNat_of_eq (x := x) (by omega), ofNat_of_eq (x := y) (by omega)]
  | case4 x y z rest ih =>
    have hx := x.toNat_lt
    have hy := y.toNat_lt
    have hz := z.toNat_lt
    generalize hn : x.toNat * 65536 + y.toNat * 256 + z.toNat = n
    simp only [encode, decode?, hn]
    rw [ha _ (by omega), ha _ (by omega), ha _ (by omega), ha _ (by omega), ih]
    simp only [Option.bind_eq_bind, Option.bind_some]
    rw [sum_of_groups, ofNat_of_eq (x := x) (by omega), ofNat_of_eq (x := y) (by omega),
      ofNat_of_eq (x := z) (by omega)]
    rfl

/-- The characters of an encoding are digits. -/
theorem exists_digit_of_mem_encode {bs : Bytes} {c : Char} (h : c ∈ a.encode bs) :
    ∃ n < 64, c = a.digit n := by
  induction bs using encode.induct with
  | case1 => cases h
  | case2 x =>
    have hx := x.toNat_lt
    simp only [encode, List.mem_cons, List.not_mem_nil, or_false] at h
    rcases h with rfl | rfl
    all_goals exact ⟨_, by omega, rfl⟩
  | case3 x y =>
    have hx := x.toNat_lt
    have hy := y.toNat_lt
    simp only [encode, List.mem_cons, List.not_mem_nil, or_false] at h
    rcases h with rfl | rfl | rfl
    all_goals exact ⟨_, by omega, rfl⟩
  | case4 x y z rest ih =>
    have hx := x.toNat_lt
    have hy := y.toNat_lt
    have hz := z.toNat_lt
    simp only [encode, List.mem_cons] at h
    rcases h with rfl | rfl | rfl | rfl | h
    · exact ⟨_, by omega, rfl⟩
    · exact ⟨_, by omega, rfl⟩
    · exact ⟨_, by omega, rfl⟩
    · exact ⟨_, by omega, rfl⟩
    · exact ih h

theorem decode?_encode_urlSafe (bs : Bytes) : urlSafe.decode? (urlSafe.encode bs) = some bs :=
  decode?_encode value?_digit_urlSafe bs

/-- Text in base 64 holds no dot. -/
theorem dot_not_mem_encode (bs : Bytes) : '.' ∉ urlSafe.encode bs := by
  have hdigits : ∀ n < 64, urlSafe.digit n ≠ '.' := by decide +kernel
  intro h
  obtain ⟨n, hn, hc⟩ := exists_digit_of_mem_encode h
  exact hdigits n hn hc.symm

end Base64

/-! ### UTF-8 -/

theorem toList_loop (bytes : ByteArray) (i : Nat) (before : List UInt8) :
    ByteArray.toList.loop bytes i before = before.reverse ++ bytes.data.toList.drop i := by
  fun_induction ByteArray.toList.loop bytes i before with
  | case1 i before hlt ih =>
    have hlength : i < bytes.data.toList.length := by simpa using hlt
    have hget : bytes.get! i = bytes.data.toList[i] := by
      cases bytes with
      | mk data => exact getElem!_pos data i hlt
    rw [ih, List.drop_eq_getElem_cons hlength, hget, List.reverse_cons, List.append_assoc]
    rfl
  | case2 i before hlt =>
    rw [List.drop_eq_nil_of_le (by simpa using Nat.le_of_not_lt hlt), List.append_nil]

theorem ofUtf8?_utf8 (cs : List Char) : ofUtf8? (utf8 cs) = some (String.ofList cs) := by
  have hbytes : (⟨(utf8 cs).toArray⟩ : ByteArray) = (String.ofList cs).toByteArray := by
    unfold utf8 ByteArray.toList
    rw [toList_loop]
    rfl
  unfold ofUtf8? String.fromUTF8?
  rw [hbytes, dif_pos (String.ofList cs).isValidUTF8]
  rfl

end Turnstile
