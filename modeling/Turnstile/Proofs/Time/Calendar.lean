import Turnstile.Proofs.Time
import Mathlib.Tactic.IntervalCases

/-!
The calendar counts right: every day has a date, the date exists, and its number is that of the day.
Within an era of 400 years a day is told by century, by four years, and by the days left over. Only
the last day of the era is in none of them.
-/

namespace Turnstile

namespace Date

/-! ### Years of an era -/

/-- The year in an era that a day of the era belongs to, counted from March. -/
def yearOfEra (dayOfEra : Int) : Int :=
  (dayOfEra - dayOfEra / 1460 + dayOfEra / 36524 - dayOfEra / 146096) / 365

theorem exists_parts {dayOfEra : Int} (h : 0 ≤ dayOfEra ∧ dayOfEra < 146096) :
    ∃ c q r : Int, dayOfEra = 36524 * c + 1461 * q + r ∧ (0 ≤ c ∧ c ≤ 3) ∧ (0 ≤ q ∧ q ≤ 24) ∧
      (0 ≤ r ∧ r ≤ 1460) ∧ (q = 24 → r ≤ 1459) :=
  ⟨dayOfEra / 36524, dayOfEra % 36524 / 1461, dayOfEra % 36524 % 1461, by omega, by omega,
    by omega, by omega, by omega⟩

/-- The fourth of four years has one day more, which the quotient by 1460 makes up for. -/
theorem yearOfEra_parts {c q r : Int} (hc : 0 ≤ c ∧ c ≤ 3) (hq : 0 ≤ q ∧ q ≤ 24)
    (hr : 0 ≤ r ∧ r ≤ 1460) (hlast : q = 24 → r ≤ 1459) :
    yearOfEra (36524 * c + 1461 * q + r) = 100 * c + 4 * q + min (r / 365) 3 := by
  have hcentury : (36524 * c + 1461 * q + r) / 36524 = c := by omega
  have hera : (36524 * c + 1461 * q + r) / 146096 = 0 := by omega
  have hfour : (36524 * c + 1461 * q + r) / 1460 = 25 * c + q + (24 * c + q + r) / 1460 := by
    omega
  -- What is left over reaches one more quotient only within the fourth year.
  have hextra : (24 * c + q + r) / 1460 = 0 ∧ r ≤ 1459 ∨
      (24 * c + q + r) / 1460 = 1 ∧ 1364 ≤ r := by omega
  unfold yearOfEra
  rw [hcentury, hera, hfour]
  omega

/-- A year of an era, and a day of that year. Years that end with a leap day have 366. -/
structure InEra (y d : Int) : Prop where
  year : 0 ≤ y ∧ y ≤ 399
  day : 0 ≤ d ∧ d ≤ 365
  leap : d = 365 → y % 4 = 3 ∧ (y % 100 ≠ 99 ∨ y = 399)

theorem inEra_yearOfEra {dayOfEra : Int} (h : 0 ≤ dayOfEra ∧ dayOfEra < 146097) :
    let y := yearOfEra dayOfEra
    InEra y (dayOfEra - (365 * y + y / 4 - y / 100)) := by
  intro y
  -- The last day of the era would be a day of a fifth century.
  by_cases hlast : dayOfEra = 146096
  · subst hlast
    exact ⟨by decide, by decide, by decide⟩
  · obtain ⟨c, q, r, rfl, hc, hq, hr, hshort⟩ := exists_parts ⟨h.1, by omega⟩
    have hy : y = 100 * c + 4 * q + min (r / 365) 3 := yearOfEra_parts hc hq hr hshort
    have hfour : y / 4 = 25 * c + q := by omega
    have hcentury : y / 100 = c := by omega
    have hday : 36524 * c + 1461 * q + r - (365 * y + y / 4 - y / 100) =
        r - 365 * min (r / 365) 3 := by
      rw [hfour, hcentury, hy]
      omega
    rw [hday]
    exact ⟨by omega, by omega, by omega⟩

/-! ### Dates of days -/

/-- The era, the year, the day of the year and the month that the date of a day is made of. -/
theorem ofDayNumber_eq (n : Int) : ∃ era y d m : Int, InEra y d ∧
    n + 719468 = era * 146097 + (365 * y + y / 4 - y / 100 + d) ∧ m = (5 * d + 2) / 153 ∧
    ofDayNumber n = ⟨y + era * 400 + (if m < 10 then 0 else 1),
      (if m < 10 then m + 3 else m - 9).toNat, (d - (153 * m + 2) / 5 + 1).toNat⟩ := by
  let dayOfEra := (n + 719468) % 146097
  let y := yearOfEra dayOfEra
  let d := dayOfEra - (365 * y + y / 4 - y / 100)
  let m := (5 * d + 2) / 153
  have hday : 0 ≤ dayOfEra ∧ dayOfEra < 146097 := by omega
  have hera : InEra y d := inEra_yearOfEra hday
  refine ⟨(n + 719468) / 146097, y, d, m, hera, by omega, rfl, ?_⟩
  have hd := hera.day
  have hmonth : (if m < 10 then m + 3 else m - 9) ≤ 2 ↔ ¬ m < 10 := by omega
  change Date.mk (y + (n + 719468) / 146097 * 400 +
    (if (if m < 10 then m + 3 else m - 9) ≤ 2 then 1 else 0)) _ _ = _
  simp only [hmonth, ite_not]
  rfl

theorem dayNumber_ofDayNumber (n : Int) : (ofDayNumber n).dayNumber = n := by
  obtain ⟨era, y, d, m, ⟨hy, hd, -⟩, hn, hm, hdate⟩ := ofDayNumber_eq n
  have hmonth : 0 ≤ m ∧ m ≤ 11 := by omega
  have hday : 1 ≤ d - (153 * m + 2) / 5 + 1 := by omega
  rw [hdate]
  unfold dayNumber
  by_cases hm10 : m < 10
  · simp only [hm10, if_true]
    rw [if_neg (by omega), if_neg (by omega)]
    have hera : (y + era * 400 + 0) / 400 = era := by omega
    have hyear : (y + era * 400 + 0) % 400 = y := by omega
    rw [hera, hyear]
    omega
  · simp only [hm10, if_false]
    rw [if_pos (by omega), if_pos (by omega)]
    have hera : (y + era * 400 + 1 - 1) / 400 = era := by omega
    have hyear : (y + era * 400 + 1 - 1) % 400 = y := by omega
    rw [hera, hyear]
    omega

theorem isValid_ofDayNumber (n : Int) : (ofDayNumber n).isValid = true := by
  obtain ⟨era, y, d, m, ⟨hy, hd, hleap⟩, -, hm, hdate⟩ := ofDayNumber_eq n
  rw [hdate]
  obtain ⟨hm0, hm11⟩ : 0 ≤ m ∧ m ≤ 11 := by omega
  unfold isValid daysInMonth isLeapYear
  -- Each month has its own length, and February has the leap day.
  interval_cases m <;> simp <;> omega

/-- Days of the years 0 to 9999 are not far from 1970. -/
theorem bounds_of_year {n : Int} (h : 0 ≤ (ofDayNumber n).year ∧ (ofDayNumber n).year ≤ 9999) :
    -1000000 ≤ n ∧ n ≤ 3000000 := by
  obtain ⟨era, y, d, m, ⟨hy, hd, -⟩, hn, -, hdate⟩ := ofDayNumber_eq n
  rw [hdate] at h
  dsimp only at h
  omega

end Date

end Turnstile
