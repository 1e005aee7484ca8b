import Turnstile.Proofs.Decimal
import Turnstile.Proofs.Time.Calendar
import Turnstile.Time.Reader

/-!
Instants that were written are read back, field by field: numbers filled up with zeros, the date,
the time of day with its fraction, and the mark of universal time. This holds for the years that
are written with four digits.
-/

namespace Turnstile.Instant

open Text (isBlank trimStart)

variable {rest : List Char}

/-! ### Numbers -/

/-- A number as it is written, filled up with zeros. -/
def digits (width n : Nat) : List Char := (padded width n).toList

theorem digits_eq (width n : Nat) : digits width n =
    List.replicate (width - (Nat.toDigits 10 n).length) '0' ++ Nat.toDigits 10 n :=
  String.toList_ofList

theorem digits_isDigit (width n : Nat) : ∀ c ∈ digits width n, c.isDigit = true := by
  intro c hc
  rw [digits_eq] at hc
  rcases List.mem_append.mp hc with hzero | hdigit
  · rw [(List.mem_replicate.mp hzero).2]
    rfl
  · exact Text.toDigits_isDigit n c hdigit

theorem length_digits {width n : Nat} (hwidth : 0 < width) (hn : n < 10 ^ width) :
    (digits width n).length = width := by
  have hlength := (Nat.length_toDigits_le_iff (by decide) hwidth).mpr hn
  rw [digits_eq, List.length_append, List.length_replicate]
  omega

theorem value_digits (width n : Nat) :
    (digits width n).foldl (fun n c => n * 10 + (c.toNat - 48)) 0 = n := by
  have hvalue : Nat.ofDigitChars 10 (digits width n) 0 = n := by
    rw [digits_eq, Nat.ofDigitChars_append, Nat.ofDigitChars_replicate_zero, Nat.mul_zero,
      Nat.ofDigitChars_ten_toDigits]
  simp only [Nat.ofDigitChars_eq_foldl, Nat.mul_comm 10] at hvalue
  exact hvalue

theorem digits_eq_cons {width n : Nat} (hwidth : 0 < width) (hn : n < 10 ^ width) :
    ∃ c more, digits width n = c :: more ∧ c.isDigit = true := by
  have hlength := length_digits hwidth hn
  cases hdigits : digits width n with
  | nil =>
    rw [hdigits] at hlength
    exact absurd hlength.symm (Nat.ne_of_gt hwidth)
  | cons c more =>
    exact ⟨c, more, rfl, digits_isDigit width n c (hdigits ▸ List.mem_cons_self)⟩

/-- Where no digit follows that could be taken for one of the number, the number is read. -/
theorem takeWhile_digits {w width n : Nat} (hw : 0 < w) (hn : n < 10 ^ w) (hwidth : w ≤ width)
    (hrest : (rest.take (width - w)).takeWhile Char.isDigit = []) :
    ((digits w n ++ rest).take width).takeWhile Char.isDigit = digits w n := by
  have hlength := length_digits hw hn
  rw [List.take_append, List.take_of_length_le (Nat.le_trans (Nat.le_of_eq hlength) hwidth),
    hlength, List.takeWhile_append_of_pos (digits_isDigit w n), hrest, List.append_nil]

theorem readNumber_digits {w width n : Nat} (hw : 0 < w) (hn : n < 10 ^ w) (hwidth : w ≤ width)
    (hrest : (rest.take (width - w)).takeWhile Char.isDigit = []) :
    readNumber width (digits w n ++ rest) = some (n, rest) := by
  obtain ⟨c, more, hcons, -⟩ := digits_eq_cons hw hn
  unfold readNumber
  dsimp only
  rw [takeWhile_digits hw hn hwidth hrest, value_digits, List.drop_left, hcons]
  rfl

/-! ### Fields -/

theorem isBlank_of_isDigit {c : Char} (h : c.isDigit = true) : isBlank c = false := by
  have hcode := Text.toNat_of_isDigit h
  simp only [isBlank, Bool.or_eq_false_iff, Bool.and_eq_false_iff, decide_eq_false_iff_not,
    beq_eq_false_iff_ne]
  omega

theorem trimStart_digits {width n : Nat} (hwidth : 0 < width) (hn : n < 10 ^ width)
    (rest : List Char) : trimStart (digits width n ++ rest) = digits width n ++ rest := by
  obtain ⟨c, more, hcons, hc⟩ := digits_eq_cons hwidth hn
  rw [hcons, List.cons_append]
  exact List.dropWhile_cons_of_neg (by rw [isBlank_of_isDigit hc]; exact Bool.false_ne_true)

theorem readField_digits {n : Nat} (hn : n < 100) (rest : List Char) :
    readField (digits 2 n ++ rest) = some (n, rest) := by
  unfold readField
  rw [trimStart_digits (by decide) hn]
  exact readNumber_digits (by decide) hn (Nat.le_refl 2) rfl

theorem readYear_digits {n : Nat} (hn : n < 10000) (rest : List Char) :
    readYear (digits 4 n ++ rest) = some ((n : Int), rest) := by
  have hread : readNumber 4 (digits 4 n ++ rest) = some (n, rest) :=
    readNumber_digits (by decide) hn (Nat.le_refl 4) rfl
  obtain ⟨c, more, hcons, hc⟩ : ∃ c more, digits 4 n = c :: more ∧ c.isDigit = true :=
    digits_eq_cons (by decide) hn
  unfold readYear
  rw [trimStart_digits (by decide) hn]
  rw [hcons, List.cons_append] at hread ⊢
  -- A year with a sign would be read without limit; a digit is no sign.
  split
  · rename_i heq
    rw [(List.cons.inj heq).1] at hc
    cases hc
  · rename_i heq
    rw [(List.cons.inj heq).1] at hc
    cases hc
  · rw [hread]
    rfl

theorem readMark_self {mark : Char} (h : isBlank mark = false) (rest : List Char) :
    readMark mark (mark :: rest) = some rest := by
  have htrim : trimStart (mark :: rest) = mark :: rest :=
    List.dropWhile_cons_of_neg (by rw [h]; exact Bool.false_ne_true)
  unfold readMark
  rw [htrim]
  exact if_pos rfl

/-! ### Dates and times of day -/

/-- The date is written with four digits for the year. -/
structure FourDigits (d : Date) : Prop where
  valid : d.isValid = true
  year : 0 ≤ d.year ∧ d.year ≤ 9999

theorem toList_dateText {d : Date} (h : FourDigits d) :
    (dateText d).toList =
      digits 4 d.year.toNat ++ '-' :: (digits 2 d.month ++ '-' :: digits 2 d.day) := by
  have hyear : yearText d.year = padded 4 d.year.toNat := if_pos h.year
  unfold dateText
  simp only [hyear, String.toList_append, digits, List.append_assoc]
  rfl

theorem readDate_dateText {d : Date} (h : FourDigits d) (rest : List Char) :
    readDate ((dateText d).toList ++ rest) = some (d, rest) := by
  obtain ⟨hvalid, hyear⟩ := h
  have hfields := hvalid
  unfold Date.isValid Date.daysInMonth at hfields
  have hmonth : d.month < 100 := by
    simp only [Bool.and_eq_true, decide_eq_true_eq] at hfields
    omega
  have hday : d.day < 100 := by
    simp only [Bool.and_eq_true, decide_eq_true_eq] at hfields
    have hlast := hfields.2
    split at hlast
    · split at hlast <;> omega
    all_goals omega
  have hdate : Date.mk d.year.toNat d.month d.day = d := by
    cases d
    simp only [Date.mk.injEq, and_true]
    exact Int.toNat_of_nonneg hyear.1
  rw [toList_dateText ⟨hvalid, hyear⟩]
  simp only [List.append_assoc, List.cons_append]
  unfold readDate
  rw [readYear_digits (by omega)]
  simp only [Option.bind_eq_bind, Option.bind_some]
  rw [readMark_self (by decide)]
  simp only [Option.bind_some]
  rw [readField_digits hmonth]
  simp only [Option.bind_some]
  rw [readMark_self (by decide)]
  simp only [Option.bind_some]
  rw [readField_digits hday]
  simp only [Option.bind_some, hdate, hvalid, if_true]

theorem readFraction_digits {w n : Nat} (hw : 0 < w ∧ w ≤ 9) (hn : n < 10 ^ w) (rest : List Char) :
    readFraction ('.' :: (digits w n ++ 'Z' :: rest)) = some (n * 10 ^ (9 - w), 'Z' :: rest) := by
  -- The mark of universal time ends the fraction, however many digits it has.
  have hrest : (('Z' :: rest).take (9 - w)).takeWhile Char.isDigit = [] := by
    cases 9 - w with
    | zero => rfl
    | succ k => rfl
  unfold readFraction
  simp only [takeWhile_digits hw.1 hn hw.2 hrest, readNumber_digits hw.1 hn hw.2 hrest,
    length_digits hw.1 hn, Option.bind_eq_bind, Option.bind_some]
  rfl

theorem readFraction_fractionText {n : Nat} (hn : n < 1000000000) (rest : List Char) :
    readFraction ((fractionText n).toList ++ 'Z' :: rest) = some (n, 'Z' :: rest) := by
  have hpoint (w k : Nat) : ("." ++ padded w k).toList ++ 'Z' :: rest =
      '.' :: (digits w k ++ 'Z' :: rest) := by
    rw [String.toList_append]
    rfl
  unfold fractionText
  split
  · rename_i hzero
    rw [hzero]
    rfl
  · split
    · rw [hpoint, readFraction_digits (by decide) (by omega)]
      congr 2
      omega
    · split
      · rw [hpoint, readFraction_digits (by decide) (by omega)]
        congr 2
        omega
      · rw [hpoint, readFraction_digits (by decide) (by omega)]
        congr 2
        omega

theorem readTime_timeText {s n : Nat} {leap : Bool} (hs : s < 86400) (hn : n < 1000000000)
    (hleap : leap = true → s % 60 = 59) (rest : List Char) :
    readTime ((timeText s leap).toList ++ ((fractionText n).toList ++ 'Z' :: rest)) =
      some ((s, leap, n), 'Z' :: rest) := by
  have htext : (timeText s leap).toList = digits 2 (s / 3600) ++ ':' :: (digits 2 (s / 60 % 60) ++
      ':' :: digits 2 (s % 60 + (if leap then 1 else 0))) := by
    unfold timeText
    simp only [String.toList_append, digits, List.append_assoc]
    rfl
  have hsecond : s % 60 + (if leap then 1 else 0) ≤ 60 := by split <;> omega
  rw [htext]
  simp only [List.append_assoc, List.cons_append]
  unfold readTime
  rw [readField_digits (by omega)]
  simp only [Option.bind_eq_bind, Option.bind_some]
  rw [readMark_self (by decide)]
  simp only [Option.bind_some]
  rw [readField_digits (by omega)]
  simp only [Option.bind_some]
  rw [readMark_self (by decide)]
  simp only [Option.bind_some]
  rw [readField_digits (by omega)]
  simp only [Option.bind_some]
  rw [readFraction_fractionText hn]
  simp only [Option.bind_some]
  rw [if_pos ⟨by omega, by omega, hsecond⟩]
  have htrim : trimStart ('Z' :: rest) = 'Z' :: rest := rfl
  rw [htrim]
  -- Second 60 is read as second 59 with the mark of a leap second.
  cases leap with
  | false =>
    have hlast : (s % 60 + 0 == 60) = false := beq_eq_false_iff_ne.mpr (by omega)
    have hsum : s / 3600 * 3600 + s / 60 % 60 * 60 + min (s % 60 + 0) 59 = s := by omega
    simp only [Bool.false_eq_true, if_false, hlast, hsum]
  | true =>
    have hends := hleap rfl
    have hlast : (s % 60 + 1 == 60) = true := beq_iff_eq.mpr (by omega)
    have hsum : s / 3600 * 3600 + s / 60 % 60 * 60 + min (s % 60 + 1) 59 = s := by omega
    simp only [if_true, hlast, hsum]

/-! ### Instants -/

/-- The instant is written with four digits for the year, and a leap second ends a minute. -/
structure Written (t : Instant) : Prop where
  year : 0 ≤ t.parts.1.year ∧ t.parts.1.year ≤ 9999
  leap : t.leap = true → t.seconds % 60 = 0

/-- The second that the written second of the day belongs to. -/
def writtenSecond (t : Instant) : Int := if t.leap then t.seconds - 1 else t.seconds

theorem parts_eq (t : Instant) : t.parts = (Date.ofDayNumber (t.writtenSecond / 86400),
    (t.writtenSecond % 86400).toNat, (t.nanos % nanosPerSecond).toNat) := rfl

theorem Written.fourDigits {t : Instant} (h : t.Written) : FourDigits t.parts.1 :=
  ⟨Date.isValid_ofDayNumber _, h.year⟩

theorem Written.inCalendar {t : Instant} (h : t.Written) : t.InCalendar := by
  have hdays := Date.bounds_of_year h.year
  have hfirst : first.nanos ≤ -100000000000 * 1000000000 := by decide
  have hlast : 300000000000 * 1000000000 ≤ last.nanos := by decide
  have hseconds : t.writtenSecond ≤ t.seconds ∧ t.seconds ≤ t.writtenSecond + 1 := by
    unfold writtenSecond
    split <;> omega
  have hnanos : t.seconds = t.nanos / 1000000000 := rfl
  exact ⟨by omega, by omega⟩

/-- What is written amounts to the instant. -/
theorem parts_sum (t : Instant) : (t.parts.1.dayNumber * 86400 + t.parts.2.1 +
    (if t.leap then 1 else 0)) * nanosPerSecond + t.parts.2.2 = t.nanos := by
  have hsecond : t.writtenSecond + (if t.leap then 1 else 0) = t.seconds := by
    unfold writtenSecond
    split <;> omega
  have hnanos : t.seconds = t.nanos / 1000000000 := rfl
  have hunit : nanosPerSecond = 1000000000 := rfl
  rw [parts_eq]
  dsimp only
  rw [Date.dayNumber_ofDayNumber, hunit]
  omega

theorem toList_toText (t : Instant) : t.toText.toList = (dateText t.parts.1).toList ++
    'T' :: ((timeText t.parts.2.1 t.leap).toList ++
      ((fractionText t.parts.2.2).toList ++ ['Z'])) := by
  have hT : "T".toList = ['T'] := rfl
  have hZ : "Z".toList = ['Z'] := rfl
  unfold toText
  obtain ⟨d, s, n⟩ := t.parts
  simp only [String.toList_append, hT, hZ, List.append_assoc, List.cons_append, List.nil_append]

/-- An instant that was written is read back. -/
theorem ofText?_toText {t : Instant} (h : t.Written) : ofText? t.toText = some t := by
  have hseconds : t.parts.2.1 < 86400 := by
    rw [parts_eq]
    dsimp only
    omega
  have hfraction : t.parts.2.2 < 1000000000 := by
    have hunit : nanosPerSecond = 1000000000 := rfl
    rw [parts_eq, hunit]
    dsimp only
    omega
  have hleap : t.leap = true → t.parts.2.1 % 60 = 59 := by
    intro hleap
    have hends := h.leap hleap
    rw [parts_eq, writtenSecond, if_pos hleap]
    dsimp only
    omega
  have hsum := t.parts_sum
  obtain ⟨hfirst, hlast⟩ := h.inCalendar
  unfold ofText?
  rw [toList_toText, readDate_dateText h.fourDigits]
  simp only [Option.bind_eq_bind, Option.bind_some]
  rw [readTime_timeText hseconds hfraction hleap]
  simp only [Option.bind_some, readOffset, Int.sub_zero, hsum]
  rw [if_pos ⟨by decide, by decide, hfirst, hlast, hfirst, hlast⟩]

end Turnstile.Instant
