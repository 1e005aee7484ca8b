import Mathlib.Algebra.Ring.Nat
import Turnstile.Json.Reader
import Turnstile.Proofs.Decimal

/-!
Texts and integers that were written as JSON are read back as what they were, whatever
follows them that does not go on with a number.
-/

namespace Turnstile.Json

/-! ### Strings -/

theorem hexValue?_hexDigit : ∀ n < 16, hexValue? (hexDigit n) = some n := by decide +kernel

/-- Four digits of an escape are read as the character that they name. -/
theorem readStringAt_control (skip : Bool) (before : List Char) {c : Char} (h : c.toNat < 32)
    (rest : List Char) :
    readStringAt skip before none (.digits 4 0)
        ('0' :: '0' :: hexDigit (c.toNat / 16) :: hexDigit (c.toNat % 16) :: rest) =
      readStringAt skip (c :: before) none .between rest := by
  have hzero : hexValue? '0' = some 0 := by decide
  have hhigh := hexValue?_hexDigit (c.toNat / 16) (by omega)
  have hlow := hexValue?_hexDigit (c.toNat % 16) (by omega)
  have hvalue : ((0 * 16 + 0) * 16 + c.toNat / 16) * 16 + c.toNat % 16 = c.toNat := by omega
  have hpush : pushUnit skip before none c.toNat = some (c :: before, none) := by
    unfold pushUnit isHighUnit isLowUnit
    rw [Char.ofNat_toNat]
    simp only [decide_eq_false (show ¬ 0xD800 ≤ c.toNat by omega),
      decide_eq_false (show ¬ 0xDC00 ≤ c.toNat by omega), Bool.false_and, Bool.false_eq_true,
      if_false]
  simp only [readStringAt, hzero, hhigh, hlow, Nat.zero_mul, Nat.zero_add]
  simp only [Nat.zero_mul, Nat.zero_add] at hvalue
  simp [hvalue, hpush]

/-- A written character is read as itself. -/
theorem readStringAt_escapeChar (skip : Bool) (before : List Char) (c : Char)
    (rest : List Char) :
    readStringAt skip before none .between (escapeChar c ++ rest) =
      readStringAt skip (c :: before) none .between rest := by
  unfold escapeChar
  split
  · rfl
  · rfl
  · rfl
  · rfl
  · rfl
  · rename_i hquote hbackslash _ _ _
    split
    · rename_i h
      rw [show c = Char.ofNat 8 from h ▸ (Char.ofNat_toNat c).symm]
      rfl
    · split
      · rename_i h
        rw [show c = Char.ofNat 12 from h ▸ (Char.ofNat_toNat c).symm]
        rfl
      · split
        · rename_i hcontrol
          exact readStringAt_control skip before hcontrol rest
        · rename_i hplain
          simp only [List.singleton_append, readStringAt, hplain, Option.isSome_none,
            Bool.false_and, if_false, Bool.false_eq_true]
          rw [if_neg hbackslash, if_neg hquote]

theorem readStringAt_escaped (skip : Bool) (before s rest : List Char) :
    readStringAt skip before none .between (s.flatMap escapeChar ++ '"' :: rest) =
      .ok (String.ofList (before.reverse ++ s), rest) := by
  induction s generalizing before with
  | nil =>
    rw [List.append_nil]
    rfl
  | cons c s ih =>
    rw [List.flatMap_cons, List.append_assoc, readStringAt_escapeChar, ih]
    simp

/-- A written string is read back, whatever follows it. -/
theorem readStringFrom_quoted (skip : Bool) (s : String) (rest : List Char) :
    readStringFrom skip (s.toList.flatMap escapeChar ++ '"' :: rest) = .ok (s, rest) := by
  unfold readStringFrom
  rw [readStringAt_escaped]
  simp

theorem quoted_append (s : String) (rest : List Char) :
    quoted s ++ rest = '"' :: (s.toList.flatMap escapeChar ++ '"' :: rest) := by
  simp [quoted]

/-! ### Numbers -/

/-- What follows a number does not go on with it. -/
def EndsNumber (rest : List Char) : Prop :=
  ∀ c ∈ rest.head?, c.isDigit = false ∧ c ≠ '.' ∧ c ≠ 'e' ∧ c ≠ 'E'

theorem readDigits_append {ds rest : List Char} (hds : ∀ c ∈ ds, c.isDigit = true)
    (hne : ds ≠ []) (hrest : EndsNumber rest) : readDigits (ds ++ rest) = .ok (ds, rest) := by
  have htake : (ds ++ rest).takeWhile Char.isDigit = ds := by
    rw [List.takeWhile_append_of_pos hds]
    cases rest with
    | nil => simp
    | cons c rest =>
      have hc := (hrest c rfl).1
      simp [hc]
  unfold readDigits
  rw [htake]
  simp [hne]

/-- The parts of an integer as it is written. -/
def NumberText.ofInt (n : Int) : NumberText :=
  ⟨decide (n < 0), Nat.toDigits 10 n.natAbs, [], []⟩

theorem readFraction_of_ends {rest : List Char} (h : EndsNumber rest) :
    readFraction rest = .ok ([], rest) := by
  cases rest with
  | nil => rfl
  | cons c rest =>
    obtain ⟨-, hpoint, -⟩ := h c rfl
    unfold readFraction
    split
    · rename_i heq
      exact absurd (List.cons.inj heq).1 hpoint
    · rfl

theorem readExponent_of_ends {rest : List Char} (h : EndsNumber rest) :
    readExponent rest = .ok ([], rest) := by
  cases rest with
  | nil => rfl
  | cons c rest =>
    obtain ⟨-, -, he, hE⟩ := h c rfl
    simp [readExponent, he, hE]

/-- Digits that start with a zero are the digits of zero. -/
theorem leading_zero (n : Nat) : ((Nat.toDigits 10 n).head? == some '0' &&
    decide ((Nat.toDigits 10 n).length > 1)) = false := by
  obtain ⟨c, rest, hdigits, -, hzero⟩ := Text.toDigits_eq_cons n
  by_cases hc : c = '0'
  · rw [hzero hc, Nat.toDigits_zero]
    rfl
  · rw [hdigits]
    simp [hc]

/-- A written integer is read as its parts. -/
theorem readNumber_toString (n : Int) {rest : List Char} (hrest : EndsNumber rest) :
    readNumber ((toString n).toList ++ rest) = .ok (.ofInt n, rest) := by
  have hsign : readSign ((toString n).toList ++ rest) =
      (decide (n < 0), Nat.toDigits 10 n.natAbs ++ rest) := by
    rw [Text.toList_toString]
    by_cases hn : n < 0
    · rw [if_pos hn, decide_eq_true hn]
      rfl
    · obtain ⟨c, more, hdigits, hc, -⟩ := Text.toDigits_eq_cons n.natAbs
      rw [if_neg hn, decide_eq_false hn, List.nil_append, hdigits, List.cons_append]
      unfold readSign
      split
      · rename_i heq
        rw [(List.cons.inj heq).1] at hc
        cases hc
      · rfl
  have hwhole := readDigits_append (Text.toDigits_isDigit n.natAbs) Nat.toDigits_ne_nil hrest
  unfold readNumber
  rw [hsign]
  simp only [bind, Except.bind, hwhole, leading_zero, Bool.false_eq_true, if_false,
    readFraction_of_ends hrest, readExponent_of_ends hrest]
  rfl

namespace NumberText

theorem wholeValue_ofInt (n : Int) : (ofInt n).wholeValue = n.natAbs := by
  have hvalue : (ofInt n).wholeValue = Nat.ofDigitChars 10 (Nat.toDigits 10 n.natAbs) 0 := by
    rw [Nat.ofDigitChars_eq_foldl]
    simp only [Nat.mul_comm]
    rfl
  rw [hvalue, Nat.ofDigitChars_ten_toDigits]

theorem toJson_ofInt (n : Int) : (ofInt n).toJson = .int n := by
  have hparts : ((ofInt n).fraction.isEmpty && (ofInt n).exponent.isEmpty &&
      !((ofInt n).negative && (ofInt n).wholeValue == 0)) = true := by
    rw [wholeValue_ofInt]
    simp only [ofInt, List.isEmpty_nil, Bool.true_and, Bool.not_eq_true',
      Bool.and_eq_false_iff, decide_eq_false_iff_not, beq_eq_false_iff_ne]
    omega
  unfold toJson
  rw [if_pos hparts, wholeValue_ofInt]
  simp only [ofInt, decide_eq_true_eq]
  split <;> exact congrArg Json.int (by omega)

/-- Integers of at most 308 digits are not too large. -/
theorem isTooLarge_ofInt {n : Int} (h : n.natAbs < 10 ^ 308) : (ofInt n).isTooLarge = false := by
  have hlength : (Nat.toDigits 10 n.natAbs).length ≤ 308 :=
    (Nat.length_toDigits_le_iff (by decide) (by decide)).mpr h
  have hmagnitude : (ofInt n).magnitude < 308 := by
    unfold magnitude ofInt
    dsimp only
    have hdrop : ((Nat.toDigits 10 n.natAbs).dropWhile (· = '0')).length ≤ 308 :=
      Nat.le_trans (List.dropWhile_suffix _).length_le hlength
    split
    · split <;> omega
    · omega
  unfold isTooLarge
  rw [if_neg (by omega), if_pos hmagnitude]

end NumberText

/-! ### Values -/

/-- A text, or an integer that is not too large. -/
inductive Plain : Json → Prop
  | str (s : String) : Plain (.str s)
  | int {n : Int} (h : n.natAbs < 10 ^ 308) : Plain (.int n)

@[simp] theorem skipSpace_cons {c : Char} (h : isSpace c = false) (rest : List Char) :
    skipSpace (c :: rest) = c :: rest := by
  rw [skipSpace, List.dropWhile_cons_of_neg (by simp [h])]

theorem chars_str_append (s : String) (rest : List Char) :
    (Json.str s).chars ++ rest = '"' :: (s.toList.flatMap escapeChar ++ '"' :: rest) := by
  rw [chars, quoted_append]

/-- The text of an integer starts with a digit or a minus sign. -/
theorem chars_int_append (n : Int) (rest : List Char) :
    ∃ c more, (Json.int n).chars ++ rest = c :: more ∧ (c = '-' ∨ c.isDigit = true) := by
  rw [chars, Text.toList_toString]
  by_cases hn : n < 0
  · rw [if_pos hn]
    exact ⟨'-', _, rfl, .inl rfl⟩
  · obtain ⟨c, more, hdigits, hc, -⟩ := Text.toDigits_eq_cons n.natAbs
    rw [if_neg hn, hdigits]
    exact ⟨c, _, rfl, .inr hc⟩

theorem isSpace_of_number {c : Char} (h : c = '-' ∨ c.isDigit = true) : isSpace c = false := by
  rcases h with rfl | h
  · rfl
  · have hcode := Text.toNat_of_isDigit h
    unfold isSpace
    simp only [Bool.or_eq_false_iff, decide_eq_false_iff_not]
    refine ⟨⟨⟨?_, ?_⟩, ?_⟩, ?_⟩
    all_goals
      rintro rfl
      cases h

/-- Nothing but a number starts as a number does. -/
theorem readValue_of_number {c : Char} (hc : c = '-' ∨ c.isDigit = true) (skip : Bool)
    (fuel : Nat) (more : List Char) : readValue skip (fuel + 1) (c :: more) = (do
      let (t, rest) ← readNumber (c :: more)
      if t.isTooLarge && !skip then throw .malformed
      return (t.toJson, rest)) := by
  have hne : ∀ d ∈ ['n', 't', 'f', '"', '[', '\x7b'], c ≠ d := by
    intro d hd hcd
    subst hcd
    revert hd
    rcases hc with rfl | hc
    · decide
    · intro hd
      simp only [List.mem_cons, List.not_mem_nil, or_false] at hd
      rcases hd with rfl | rfl | rfl | rfl | rfl | rfl <;> cases hc
  rw [readValue, skipSpace_cons (isSpace_of_number hc)]
  split
  all_goals first
    | rfl
    | rename_i heq
      exact absurd (List.cons.inj heq).1 (hne _ (by simp))

/-- A plain value is read back, where nothing goes on with it. -/
theorem readValue_of_plain {j : Json} (h : j.Plain) (skip : Bool) (fuel : Nat) {rest : List Char}
    (hrest : EndsNumber rest) : readValue skip (fuel + 1) (j.chars ++ rest) = .ok (j, rest) := by
  cases h with
  | str s =>
    rw [chars_str_append, readValue, skipSpace_cons rfl]
    change (readStringFrom skip _).map _ = _
    rw [readStringFrom_quoted]
    rfl
  | @int n h =>
    obtain ⟨c, more, htext, hc⟩ := chars_int_append n rest
    have hnumber := readNumber_toString n hrest
    rw [chars] at htext ⊢
    rw [htext] at hnumber ⊢
    rw [readValue_of_number hc, hnumber]
    simp only [bind, Except.bind, NumberText.isTooLarge_ofInt h, NumberText.toJson_ofInt,
      Bool.false_and, Bool.false_eq_true, if_false]
    rfl

theorem readStart_of_plain {j : Json} (h : j.Plain) {rest : List Char} (hrest : EndsNumber rest) :
    readStart (j.chars ++ rest) = .ok (j, rest) :=
  readValue_of_plain h false _ hrest

theorem skipValue_of_plain {j : Json} (h : j.Plain) {rest : List Char} (hrest : EndsNumber rest) :
    skipValue (j.chars ++ rest) = .ok rest := by
  unfold skipValue
  rw [readValue_of_plain h true _ hrest]
  rfl

end Turnstile.Json
