import Turnstile.Time.Instant

/-!
Arithmetic of instants. `later` adds seconds without asking whether the
calendar has such an instant, and `addSeconds?` is `later` wherever it has.
-/

namespace Turnstile.Instant

/-- The instant so many seconds later, be it in the calendar or not. -/
def later (t : Instant) (s : Int) : Instant := { nanos := t.nanos + s * nanosPerSecond }

/-- The instant lies within the calendar. -/
def InCalendar (t : Instant) : Prop := first.nanos ≤ t.nanos ∧ t.nanos ≤ last.nanos

instance (t : Instant) : Decidable t.InCalendar := by
  unfold InCalendar
  infer_instance

@[simp] theorem later_nanos (t : Instant) (s : Int) :
    (t.later s).nanos = t.nanos + s * 1000000000 := rfl

@[simp] theorem later_later (t : Instant) (a b : Int) :
    (t.later a).later b = t.later (a + b) := by
  simp only [later, Instant.mk.injEq, and_true]
  rw [Int.add_mul, Int.add_assoc]

/-- Spans of time that are counted at all. -/
def Countable (s : Int) : Prop := -maxSpanSeconds ≤ s ∧ s ≤ maxSpanSeconds

theorem addSeconds?_of_inCalendar {t : Instant} {s : Int} (hs : Countable s)
    (h : (t.later s).InCalendar) : t.addSeconds? s = some (t.later s) :=
  if_pos ⟨hs.1, hs.2, h.1, h.2⟩

theorem addSeconds?_of_not {t : Instant} {s : Int} (h : ¬ (t.later s).InCalendar) :
    t.addSeconds? s = none :=
  if_neg fun hc => h ⟨hc.2.2.1, hc.2.2.2⟩

theorem of_addSeconds? {t u : Instant} {s : Int} (h : t.addSeconds? s = some u) :
    u = t.later s ∧ u.InCalendar := by
  by_cases hcalendar : (t.later s).InCalendar
  · obtain ⟨-, hu⟩ := Option.ite_none_right_eq_some.mp h
    exact ⟨(Option.some.inj hu).symm, Option.some.inj hu ▸ hcalendar⟩
  · rw [addSeconds?_of_not hcalendar] at h
    cases h

theorem countable_of_addSeconds? {t : Instant} {s : Int} (h : (t.addSeconds? s).isSome) :
    Countable s := by
  obtain ⟨u, hu⟩ := Option.isSome_iff_exists.mp h
  obtain ⟨⟨hlow, hhigh, -⟩, -⟩ := Option.ite_none_right_eq_some.mp hu
  exact ⟨hlow, hhigh⟩

theorem seconds_later (t : Instant) (s : Int) : (t.later s).seconds = t.seconds + s :=
  Int.add_mul_ediv_right t.nanos s (by decide)

theorem InCalendar.seconds_le {t : Instant} (h : t.InCalendar) : t.seconds ≤ last.seconds :=
  Int.ediv_le_ediv (by decide) h.2

theorem InCalendar.le_seconds {t : Instant} (h : t.InCalendar) : first.seconds ≤ t.seconds :=
  Int.ediv_le_ediv (by decide) h.1

/-- Whole seconds that were added are counted back. -/
theorem secondsSince_later (t : Instant) (s : Int) :
    (t.later s).secondsSince t = s := by
  have h : (t.later s).nanos - t.nanos = s * nanosPerSecond := by
    rw [later_nanos, Int.add_comm, Int.add_sub_cancel]
    rfl
  unfold secondsSince
  rw [h]
  exact Int.mul_tdiv_cancel s (by decide)

theorem secondsSince_self (t : Instant) : t.secondsSince t = 0 := by
  unfold secondsSince
  rw [Int.sub_self]
  rfl

theorem before_later_iff (t : Instant) (s : Int) :
    t.before (t.later s) = true ↔ 0 < s := by
  unfold before
  rw [decide_eq_true_iff, later_nanos]
  omega

end Turnstile.Instant
