import Turnstile.Text.Integer

/-!
The decimal text of an integer: a minus sign perhaps, then digits, which are read back as
the integer.
-/

namespace Turnstile.Text

/-! ### Digits -/

theorem toNat_of_isDigit {c : Char} (h : c.isDigit = true) : 48 ≤ c.toNat ∧ c.toNat ≤ 57 := by
  obtain ⟨hlow, hhigh⟩ := (Bool.and_eq_true_iff.mp h)
  exact ⟨of_decide_eq_true hlow, of_decide_eq_true hhigh⟩

theorem ofDigitChars_ten_cons (c : Char) (rest : List Char) (n : Nat) :
    Nat.ofDigitChars 10 (c :: rest) n = Nat.ofDigitChars 10 rest (n * 10 + (c.toNat - 48)) := by
  rw [Nat.ofDigitChars_cons, Nat.mul_comm]
  rfl

theorem le_ofDigitChars (ds : List Char) (n : Nat) : n ≤ Nat.ofDigitChars 10 ds n := by
  induction ds generalizing n with
  | nil => exact Nat.le_of_eq Nat.ofDigitChars_nil.symm
  | cons c rest ih =>
    rw [ofDigitChars_ten_cons]
    exact Nat.le_trans (by omega) (ih _)

theorem toDigits_isDigit (n : Nat) : ∀ c ∈ Nat.toDigits 10 n, c.isDigit = true :=
  fun _ hc => Nat.isDigit_of_mem_toDigits (by decide) (by decide) hc

/-- The digits of a number start with a zero for zero only. -/
theorem toDigits_eq_cons (n : Nat) : ∃ c rest, Nat.toDigits 10 n = c :: rest ∧
    c.isDigit = true ∧ (c = '0' → n = 0) := by
  induction n using Nat.strongRecOn with
  | ind n ih =>
    by_cases hn : n < 10
    · refine ⟨n.digitChar, [], Nat.toDigits_of_lt_base hn, ?_, Nat.digitChar_eq_zero.mp⟩
      rw [Nat.isDigit_digitChar, decide_eq_true hn]
    · obtain ⟨c, rest, hdigits, hc, hzero⟩ := ih (n / 10) (by omega)
      refine ⟨c, rest ++ [(n % 10).digitChar], ?_, hc, fun h => ?_⟩
      · rw [Nat.toDigits_of_base_le (by decide) (by omega), hdigits]
        rfl
      · have := hzero h
        omega

/-- The text of an integer, with the sign before the digits. -/
theorem toList_toString (n : Int) : (toString n).toList =
    (if n < 0 then ['-'] else []) ++ Nat.toDigits 10 n.natAbs := by
  cases n with
  | ofNat n =>
    have hn : ¬ Int.ofNat n < 0 := Int.not_lt.mpr (Int.natCast_nonneg n)
    rw [if_neg hn]
    exact Nat.toList_repr
  | negSucc n =>
    rw [if_pos (Int.negSucc_lt_zero n)]
    change ("-" ++ (n + 1).repr).toList = _
    rw [String.toList_append, Nat.toList_repr]
    rfl

/-! ### Reading -/

section Reading

variable {low high : Int} {ds : List Char}

theorem readDigits_of_isDigit (hds : ∀ c ∈ ds, c.isDigit = true) (hlow : low ≤ 0) (n : Nat)
    (hhigh : (Nat.ofDigitChars 10 ds n : Int) ≤ high) :
    readDigits low high false n ds = .ok (Nat.ofDigitChars 10 ds n : Int) := by
  induction ds generalizing n with
  | nil => rfl
  | cons c rest ih =>
    obtain ⟨hc, hrest⟩ := List.forall_mem_cons.mp hds
    have hcode := toNat_of_isDigit hc
    rw [ofDigitChars_ten_cons] at hhigh ⊢
    have hle := le_ofDigitChars rest (n * 10 + (c.toNat - 48))
    have hm : (n : Int) * 10 + ((c.toNat : Int) - 48) = (n * 10 + (c.toNat - 48) : Nat) := by
      omega
    simp only [readDigits, hc, Bool.not_true, Bool.false_eq_true, if_false, hm]
    rw [if_neg (by omega), if_neg (by omega)]
    exact ih hrest _ hhigh

theorem readDigits_of_isDigit_neg (hds : ∀ c ∈ ds, c.isDigit = true) (hhigh : 0 ≤ high) (n : Nat)
    (hlow : low ≤ -(Nat.ofDigitChars 10 ds n : Int)) :
    readDigits low high true (-n) ds = .ok (-(Nat.ofDigitChars 10 ds n : Int)) := by
  induction ds generalizing n with
  | nil => rfl
  | cons c rest ih =>
    obtain ⟨hc, hrest⟩ := List.forall_mem_cons.mp hds
    have hcode := toNat_of_isDigit hc
    rw [ofDigitChars_ten_cons] at hlow ⊢
    have hle := le_ofDigitChars rest (n * 10 + (c.toNat - 48))
    have hm : -(n : Int) * 10 - ((c.toNat : Int) - 48) = -(n * 10 + (c.toNat - 48) : Nat) := by
      omega
    simp only [readDigits, hc, Bool.not_true, Bool.false_eq_true, if_false, if_true, hm]
    rw [if_neg (by omega), if_neg (by omega)]
    exact ih hrest _ hlow

theorem readInteger_of_digit {s : String} {c : Char} {rest : List Char}
    (hs : s.toList = c :: rest) (hc : c.isDigit = true) :
    readInteger low high s = readDigits low high false 0 (c :: rest) := by
  have hplus : c ≠ '+' := by
    rintro rfl
    cases hc
  have hminus : c ≠ '-' := by
    rintro rfl
    cases hc
  unfold readInteger
  rw [hs]
  split
  · rename_i h
    cases h
  · rename_i h
    exact absurd (List.cons.inj h).1 hplus
  · rename_i h
    exact absurd (List.cons.inj h).1 hminus
  · rename_i h
    exact absurd (List.cons.inj h).1 hplus
  · rename_i h
    exact absurd (List.cons.inj h).1 hminus
  · rfl

/-- An integer within bounds is read back from its text. -/
theorem readInteger_toString {n : Int} (hlow : low ≤ n) (hhigh : n ≤ high)
    (hzero : low ≤ 0 ∧ 0 ≤ high) : readInteger low high (toString n) = .ok n := by
  obtain ⟨c, rest, hdigits, hc, -⟩ := toDigits_eq_cons n.natAbs
  have hds := toDigits_isDigit n.natAbs
  have hvalue : Nat.ofDigitChars 10 (Nat.toDigits 10 n.natAbs) 0 = n.natAbs :=
    Nat.ofDigitChars_ten_toDigits
  have htext := toList_toString n
  by_cases hn : n < 0
  · rw [if_pos hn, hdigits] at htext
    unfold readInteger
    rw [htext]
    refine (if_pos (by omega)).trans ?_
    rw [← hdigits]
    refine (readDigits_of_isDigit_neg hds hzero.2 0 (by omega)).trans ?_
    rw [hvalue]
    exact congrArg Except.ok (by omega)
  · rw [if_neg hn, List.nil_append, hdigits] at htext
    rw [readInteger_of_digit htext hc, ← hdigits]
    refine (readDigits_of_isDigit hds hzero.1 0 (by omega)).trans ?_
    rw [hvalue]
    exact congrArg Except.ok (by omega)

/-- Integers that are written alike are the same. -/
theorem toString_injective : Function.Injective (toString : Int → String) := by
  intro a b h
  have hread (n : Int) (hn : n.natAbs ≤ a.natAbs + b.natAbs) :
      readInteger (-(a.natAbs + b.natAbs : Nat)) (a.natAbs + b.natAbs : Nat) (toString n) = .ok n :=
    readInteger_toString (by omega) (by omega) ⟨by omega, by omega⟩
  have ha := hread a (by omega)
  rw [h] at ha
  exact Except.ok.inj (ha.symm.trans (hread b (by omega)))

theorem readInt64_toString {n : Int} (hlow : minInt64 ≤ n) (hhigh : n ≤ maxInt64) :
    readInt64 (toString n) = .ok n :=
  readInteger_toString hlow hhigh ⟨by decide, by decide⟩

end Reading

end Turnstile.Text
