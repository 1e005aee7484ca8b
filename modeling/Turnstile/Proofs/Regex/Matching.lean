import Turnstile.Regex.Compile
import Mathlib.Data.List.Basic

/-!
What it means that an expression matches a text, and that the search by
residuals finds a match exactly where there is one. Surroundings matter to
assertions, so a text matches between the character before it and the one after
it, either of which may be missing.
-/

namespace Turnstile.Regex

/-- Between two characters, a text of the kind given. -/
abbrev Language := Option Char → List Char → Option Char → Prop

/-- So many texts in a row. -/
def Turns (P : Language) : Nat → Language
  | 0, _, text, _ => text = []
  | n + 1, before, text, after => ∃ u v, text = u ++ v ∧
      P before u (v.head?.or after) ∧ Turns P n (u.getLast?.or before) v after

/-- The expression matches the whole text between the two characters. -/
def Matches : Regex → Language
  | .empty, _, text, _ => text = []
  | .chars s, _, text, _ => ∃ c, text = [c] ∧ s.contains c.toNat = true
  | .look l, before, text, after => text = [] ∧ l.holds before after = true
  | .cat r s, before, text, after => ∃ u v, text = u ++ v ∧
      Matches r before u (v.head?.or after) ∧ Matches s (u.getLast?.or before) v after
  | .alt r s, before, text, after => Matches r before text after ∨ Matches s before text after
  | .loop r min max, before, text, after =>
      ∃ n, min ≤ n ∧ (∀ m, max = some m → n ≤ m) ∧ Turns (Matches r) n before text after

/-- The expression matches some part of the text. -/
def Occurs (r : Regex) (text : List Char) : Prop :=
  ∃ u s v, text = u ++ (s ++ v) ∧ r.Matches u.getLast? s v.head?

/-- Every loop may be left in as many turns as it has to be taken. -/
def Bounded : Regex → Prop
  | .empty | .chars _ | .look _ => True
  | .cat r s | .alt r s => Bounded r ∧ Bounded s
  | .loop r min max => Bounded r ∧ ∀ m, max = some m → min ≤ m

section Surroundings

variable (u : List Char) (c : Char) (before : Option Char)

theorem getLast?_cons_or : (c :: u).getLast?.or before = u.getLast?.or (some c) := by
  cases u with
  | nil => rfl
  | cons d u =>
    rw [List.getLast?_cons_cons]
    cases h : (d :: u).getLast? with
    | none => cases List.getLast?_eq_none_iff.mp h
    | some e => rfl

end Surroundings

/-! ### The empty text -/

theorem turns_nil {P : Language} {n : Nat} {before after : Option Char} :
    Turns P n before [] after ↔ n = 0 ∨ P before [] after := by
  induction n with
  | zero => simp [Turns]
  | succ n ih =>
    constructor
    · rintro ⟨u, v, huv, hp, -⟩
      obtain ⟨rfl, rfl⟩ := List.append_eq_nil_iff.mp huv.symm
      exact .inr hp
    · rintro (h | hp)
      · exact absurd h (Nat.succ_ne_zero n)
      · exact ⟨[], [], rfl, hp, ih.mpr (.inr hp)⟩

/-- `nullable` says whether the empty text matches. -/
theorem nullable_iff {r : Regex} (hr : r.Bounded) (before after : Option Char) :
    r.nullable before after = true ↔ r.Matches before [] after := by
  induction r with
  | empty => simp [nullable, Matches]
  | chars s => simp [nullable, Matches]
  | look l => simp [nullable, Matches]
  | cat r s ihr ihs =>
    simp only [nullable, Bool.and_eq_true, ihr hr.1, ihs hr.2, Matches]
    constructor
    · rintro ⟨h₁, h₂⟩
      exact ⟨[], [], rfl, h₁, h₂⟩
    · rintro ⟨u, v, huv, h₁, h₂⟩
      obtain ⟨rfl, rfl⟩ := List.append_eq_nil_iff.mp huv.symm
      exact ⟨h₁, h₂⟩
  | alt r s ihr ihs => simp only [nullable, Bool.or_eq_true, ihr hr.1, ihs hr.2, Matches]
  | loop r min max ih =>
    simp only [nullable, Bool.or_eq_true, beq_iff_eq, ih hr.1, Matches, turns_nil]
    constructor
    · intro h
      exact ⟨min, Nat.le_refl min, hr.2, h⟩
    · rintro ⟨n, hmin, -, rfl | h⟩
      · exact .inl (Nat.le_zero.mp hmin)
      · exact .inr h

/-! ### A first character -/

/-- Turns over a text that is not empty: some that match nothing, one that takes
the first character, and the others. -/
theorem turns_cons {P : Language} {n : Nat} {before after : Option Char} {c : Char}
    {text : List Char} :
    Turns P n before (c :: text) after ↔ ∃ i k u v, n = i + (k + 1) ∧
      (i ≠ 0 → P before [] (some c)) ∧ text = u ++ v ∧
      P before (c :: u) (v.head?.or after) ∧ Turns P k (u.getLast?.or (some c)) v after := by
  induction n with
  | zero =>
    constructor
    · intro h
      exact absurd h (List.cons_ne_nil c text)
    · rintro ⟨i, k, u, v, hn, -⟩
      omega
  | succ n ih =>
    constructor
    · rintro ⟨u, v, huv, hp, hturns⟩
      cases u with
      | nil =>
        obtain rfl : c :: text = v := huv
        obtain ⟨i, k, u, v, rfl, -, rest⟩ := ih.mp hturns
        exact ⟨i + 1, k, u, v, by omega, fun _ => hp, rest⟩
      | cons d u =>
        obtain ⟨rfl, rfl⟩ := List.cons.inj huv
        rw [getLast?_cons_or] at hturns
        exact ⟨0, n, u, v, by omega, fun h => absurd rfl h, rfl, hp, hturns⟩
    · rintro ⟨i, k, u, v, hn, hempty, rfl, hp, hturns⟩
      cases i with
      | zero =>
        obtain rfl : n = k := by omega
        refine ⟨c :: u, v, rfl, hp, ?_⟩
        rw [getLast?_cons_or]
        exact hturns
      | succ i =>
        refine ⟨[], c :: (u ++ v), rfl, hempty (Nat.succ_ne_zero i), ?_⟩
        exact ih.mpr ⟨i, k, u, v, by omega, fun _ => hempty (Nat.succ_ne_zero i), rfl, hp, hturns⟩

theorem matches_andThen {r s : Regex} {before after : Option Char} {text : List Char} :
    (r.andThen s).Matches before text after ↔ (Regex.cat r s).Matches before text after := by
  unfold andThen
  split
  · simp [Matches]
  · rfl

/-- Between the ends of the text an expression has to match all of it. -/
theorem occurs_anchored {r : Regex} {text : List Char} :
    (Regex.cat (.look .textStart) (r.andThen (.look .textEnd))).Occurs text ↔
      r.Matches none text none := by
  constructor
  · rintro ⟨u, s, v, rfl, s₁, s₂, rfl, ⟨rfl, hstart⟩, hrest⟩
    obtain ⟨w, s₃, rfl, hmatches, rfl, hend⟩ := matches_andThen.mp hrest
    obtain rfl : u = [] := by simpa [Look.holds] using hstart
    obtain rfl : v = [] := by simpa [Look.holds] using hend
    simpa using hmatches
  · intro h
    refine ⟨[], text, [], by simp, [], text, rfl, ⟨rfl, rfl⟩, matches_andThen.mpr ?_⟩
    exact ⟨text, [], by simp, h, rfl, rfl⟩

theorem bounded_andThen {r s : Regex} : (r.andThen s).Bounded ↔ r.Bounded ∧ s.Bounded := by
  unfold andThen
  split
  · simp [Bounded]
  · rfl

theorem bounded_of_mem_residuals {r q : Regex} (hr : r.Bounded) {before : Option Char} {c : Char}
    (hq : q ∈ r.residuals before c) : q.Bounded := by
  induction r generalizing q with
  | empty => cases hq
  | look l => cases hq
  | chars s =>
    rw [residuals] at hq
    split at hq
    · obtain rfl := List.mem_singleton.mp hq
      exact trivial
    · cases hq
  | cat r s ihr ihs =>
    have hfirst {q : Regex} (h : q ∈ (r.residuals before c).map (andThen · s)) : q.Bounded := by
      obtain ⟨p, hp, rfl⟩ := List.mem_map.mp h
      exact bounded_andThen.mpr ⟨ihr hr.1 hp, hr.2⟩
    rw [residuals] at hq
    split at hq
    · rcases List.mem_append.mp hq with h | h
      · exact hfirst h
      · exact ihs hr.2 h
    · exact hfirst hq
  | alt r s ihr ihs =>
    rcases List.mem_append.mp hq with h | h
    · exact ihr hr.1 h
    · exact ihs hr.2 h
  | loop r min max ih =>
    rw [residuals] at hq
    split at hq
    · cases hq
    · obtain ⟨p, hp, rfl⟩ := List.mem_map.mp hq
      refine bounded_andThen.mpr ⟨ih hr.1 hp, hr.1, fun m hm => ?_⟩
      obtain ⟨m', hm', rfl⟩ := Option.map_eq_some_iff.mp hm
      have := hr.2 m' hm'
      split <;> omega

/-- The residuals of an expression match exactly what may follow the first character. -/
def Resumes (r : Regex) (before : Option Char) (c : Char) : Prop :=
  ∀ (text : List Char) (after : Option Char),
    (∃ q ∈ r.residuals before c, q.Matches (some c) text after) ↔ r.Matches before (c :: text) after

section Residuals

variable {r s : Regex} {before after : Option Char} {c : Char} {text : List Char}
  {min : Nat} {max : Option Nat}

/-- The first part takes the character, or it matches nothing and the second takes it. -/
theorem matches_cat_cons : (Regex.cat r s).Matches before (c :: text) after ↔
    (∃ u v, text = u ++ v ∧ r.Matches before (c :: u) (v.head?.or after) ∧
      s.Matches (u.getLast?.or (some c)) v after) ∨
    r.Matches before [] (some c) ∧ s.Matches before (c :: text) after := by
  constructor
  · rintro ⟨u, v, huv, h₁, h₂⟩
    cases u with
    | nil =>
      obtain rfl : c :: text = v := huv
      exact .inr ⟨h₁, h₂⟩
    | cons d u =>
      obtain ⟨rfl, rfl⟩ := List.cons.inj huv
      rw [getLast?_cons_or] at h₂
      exact .inl ⟨u, v, rfl, h₁, h₂⟩
  · rintro (⟨u, v, rfl, h₁, h₂⟩ | ⟨h₁, h₂⟩)
    · refine ⟨c :: u, v, rfl, h₁, ?_⟩
      rw [getLast?_cons_or]
      exact h₂
    · exact ⟨[], c :: text, rfl, h₁, h₂⟩

/-- One turn takes the character, and the loop goes on with one turn fewer. Turns that match
nothing make up for what is then missing to the minimum. -/
theorem matches_loop_cons (hr : (Regex.loop r min max).Bounded) :
    (Regex.loop r min max).Matches before (c :: text) after ↔ max ≠ some 0 ∧
      ∃ u v, text = u ++ v ∧ r.Matches before (c :: u) (v.head?.or after) ∧
        (Regex.loop r (if r.nullable before (some c) then 0 else min - 1)
          (max.map (· - 1))).Matches (u.getLast?.or (some c)) v after := by
  have hnull := nullable_iff hr.1 before (some c)
  simp only [Matches, turns_cons]
  constructor
  · rintro ⟨n, hmin, hle, i, k, u, v, rfl, hempty, rfl, hfirst, hturns⟩
    refine ⟨fun hmax => ?_, u, v, rfl, hfirst, k, ?_, fun m hm => ?_, hturns⟩
    · have := hle 0 hmax
      omega
    · split
      · exact Nat.zero_le k
      · rename_i hnone
        have hi : i = 0 := by
          by_contra hi
          exact hnone (hnull.mpr (hempty hi))
        omega
    · obtain ⟨m', hm', rfl⟩ := Option.map_eq_some_iff.mp hm
      have := hle m' hm'
      omega
  · rintro ⟨hmax, u, v, rfl, hfirst, k, hmin, hle, hturns⟩
    refine ⟨(min - (k + 1)) + (k + 1), by omega, fun m hm => ?_,
      min - (k + 1), k, u, v, rfl, fun hi => ?_, rfl, hfirst, hturns⟩
    · have hm' := hle (m - 1) (by rw [hm]; rfl)
      have hmin' := hr.2 m hm
      have hpos : m ≠ 0 := by
        rintro rfl
        exact hmax hm
      omega
    · by_contra hnone
      rw [if_neg fun h => hnone (hnull.mp h)] at hmin
      omega

/-- The residuals of a first part, each with what is to follow it. -/
theorem Resumes.andThen (hr : r.Resumes before c) :
    (∃ q ∈ (r.residuals before c).map (andThen · s), q.Matches (some c) text after) ↔
      ∃ u v, text = u ++ v ∧ r.Matches before (c :: u) (v.head?.or after) ∧
        s.Matches (u.getLast?.or (some c)) v after := by
  simp only [List.mem_map, exists_exists_and_eq_and, matches_andThen, Matches]
  constructor
  · rintro ⟨q, hq, u, v, rfl, hmatches, hs⟩
    exact ⟨u, v, rfl, (hr u _).mp ⟨q, hq, hmatches⟩, hs⟩
  · rintro ⟨u, v, rfl, hmatches, hs⟩
    obtain ⟨q, hq, hmatches⟩ := (hr u _).mpr hmatches
    exact ⟨q, hq, u, v, rfl, hmatches, hs⟩

theorem Resumes.cat (hbounded : r.Bounded) (hr : r.Resumes before c) (hs : s.Resumes before c) :
    (Regex.cat r s).Resumes before c := by
  intro text after
  rw [matches_cat_cons, ← hr.andThen, ← hs, ← nullable_iff hbounded, residuals]
  by_cases hnull : r.nullable before (some c) = true
  · simp only [hnull, if_true, List.mem_append, or_and_right, exists_or, true_and]
  · simp only [hnull, Bool.false_eq_true, if_false, false_and, or_false]

theorem Resumes.loop (hbounded : (Regex.loop r min max).Bounded) (hr : r.Resumes before c) :
    (Regex.loop r min max).Resumes before c := by
  intro text after
  rw [matches_loop_cons hbounded, ← hr.andThen, residuals]
  by_cases hmax : max = some 0 <;> simp [hmax]

end Residuals

/-- The residuals match what may follow the first character. -/
theorem residuals_iff {r : Regex} (hr : r.Bounded) (before after : Option Char) (c : Char)
    (text : List Char) :
    (∃ q ∈ r.residuals before c, q.Matches (some c) text after) ↔
      r.Matches before (c :: text) after := by
  suffices h : r.Resumes before c from h text after
  induction r with
  | empty => simp [Resumes, residuals, Matches]
  | look l => simp [Resumes, residuals, Matches]
  | chars s =>
    intro text after
    rw [residuals, Matches]
    by_cases hc : s.contains c.toNat = true <;> simp [hc, Matches]
  | alt r s ihr ihs =>
    intro text after
    rw [Matches, ← ihr hr.1, ← ihs hr.2]
    simp only [residuals, List.mem_append, or_and_right, exists_or]
  | cat r s ihr ihs => exact .cat hr.1 (ihr hr.1) (ihs hr.2)
  | loop r min max ih => exact .loop hr (ih hr.1)

/-! ### The search -/

/-- One of the expressions matches the start of a text. -/
def Starts (rs : List Regex) (before : Option Char) (text : List Char) : Prop :=
  ∃ q ∈ rs, ∃ s v, text = s ++ v ∧ q.Matches before s v.head?

theorem starts_nil {rs : List Regex} {before : Option Char} (hrs : ∀ q ∈ rs, q.Bounded) :
    Starts rs before [] ↔ rs.any (nullable before none) = true := by
  rw [List.any_eq_true]
  constructor
  · rintro ⟨q, hq, s, v, hsv, hmatches⟩
    obtain ⟨rfl, rfl⟩ := List.append_eq_nil_iff.mp hsv.symm
    exact ⟨q, hq, (nullable_iff (hrs q hq) _ _).mpr hmatches⟩
  · rintro ⟨q, hq, hnull⟩
    exact ⟨q, hq, [], [], rfl, (nullable_iff (hrs q hq) _ _).mp hnull⟩

theorem starts_cons {rs : List Regex} {before : Option Char} {c : Char} {text : List Char}
    (hrs : ∀ q ∈ rs, q.Bounded) :
    Starts rs before (c :: text) ↔ rs.any (nullable before (some c)) = true ∨
      Starts (rs.flatMap (residuals before c)).eraseDups (some c) text := by
  rw [List.any_eq_true]
  constructor
  · rintro ⟨q, hq, s, v, hsv, hmatches⟩
    cases s with
    | nil =>
      obtain rfl : c :: text = v := hsv
      exact .inl ⟨q, hq, (nullable_iff (hrs q hq) _ _).mpr hmatches⟩
    | cons d s =>
      obtain ⟨rfl, rfl⟩ := List.cons.inj hsv
      obtain ⟨p, hp, hrest⟩ := (residuals_iff (hrs q hq) before v.head? c s).mpr hmatches
      refine .inr ⟨p, ?_, s, v, rfl, hrest⟩
      exact List.mem_eraseDups.mpr (List.mem_flatMap.mpr ⟨q, hq, hp⟩)
  · rintro (⟨q, hq, hnull⟩ | ⟨p, hp, s, v, rfl, hrest⟩)
    · exact ⟨q, hq, [], c :: text, rfl, (nullable_iff (hrs q hq) _ _).mp hnull⟩
    · obtain ⟨q, hq, hp⟩ := List.mem_flatMap.mp (List.mem_eraseDups.mp hp)
      exact ⟨q, hq, c :: s, v, rfl,
        (residuals_iff (hrs q hq) before v.head? c s).mp ⟨p, hp, hrest⟩⟩

/-- The search goes on with what was begun before, and begins anew at every
place. -/
theorem searchFrom_iff {r : Regex} (hr : r.Bounded) {states : List Regex}
    (hstates : ∀ q ∈ states, q.Bounded) (before : Option Char) (text : List Char) :
    searchFrom r before states text = true ↔ Starts states before text ∨
      ∃ u w, text = u ++ w ∧ Starts [r] (u.getLast?.or before) w := by
  have hall {states : List Regex} (hstates : ∀ q ∈ states, q.Bounded) :
      ∀ q ∈ r :: states, q.Bounded := by
    intro q hq
    rcases List.mem_cons.mp hq with rfl | hq
    · exact hr
    · exact hstates q hq
  -- What starts here is one of the states or a fresh start.
  have hcons (states : List Regex) (before : Option Char) (w : List Char) :
      Starts (r :: states) before w ↔ Starts states before w ∨ Starts [r] before w := by
    simp only [Starts, List.mem_cons, or_and_right, exists_or, exists_eq_left, List.not_mem_nil,
      or_false]
    exact Or.comm
  induction text generalizing states before with
  | nil =>
    rw [searchFrom, ← starts_nil (hall hstates), hcons]
    refine or_congr_right ⟨fun h => ⟨[], [], rfl, h⟩, ?_⟩
    rintro ⟨u, w, huw, h⟩
    obtain ⟨rfl, rfl⟩ := List.append_eq_nil_iff.mp huw.symm
    exact h
  | cons c text ih =>
    have hnext : ∀ q ∈ ((r :: states).flatMap (residuals before c)).eraseDups, q.Bounded := by
      intro q hq
      obtain ⟨p, hp, hq⟩ := List.mem_flatMap.mp (List.mem_eraseDups.mp hq)
      exact bounded_of_mem_residuals (hall hstates p hp) hq
    have hsearch : searchFrom r (some c)
          ((r :: states).flatMap (residuals before c)).eraseDups text = true ↔ _ :=
      ih hnext (some c)
    rw [searchFrom, Bool.or_eq_true, hsearch, ← or_assoc, ← starts_cons (hall hstates), hcons,
      or_assoc]
    refine or_congr_right ⟨?_, ?_⟩
    · rintro (h | ⟨u, w, rfl, h⟩)
      · exact ⟨[], c :: text, rfl, h⟩
      · refine ⟨c :: u, w, rfl, ?_⟩
        rw [getLast?_cons_or]
        exact h
    · rintro ⟨u, w, huw, h⟩
      cases u with
      | nil =>
        obtain rfl : c :: text = w := huw
        exact .inl h
      | cons d u =>
        obtain ⟨rfl, rfl⟩ := List.cons.inj huw
        rw [getLast?_cons_or] at h
        exact .inr ⟨u, w, rfl, h⟩

/-- The search finds a match exactly where there is one. -/
theorem isMatch_iff {r : Regex} (hr : r.Bounded) (text : List Char) :
    r.isMatch text = true ↔ r.Occurs text := by
  rw [isMatch, searchFrom_iff hr (List.forall_mem_nil _)]
  constructor
  · rintro (⟨q, hq, -⟩ | ⟨u, w, rfl, q, hq, s, v, rfl, hmatches⟩)
    · cases hq
    · obtain rfl := List.mem_singleton.mp hq
      rw [Option.or_none] at hmatches
      exact ⟨u, s, v, rfl, hmatches⟩
  · rintro ⟨u, s, v, rfl, hmatches⟩
    refine .inr ⟨u, s ++ v, rfl, r, List.mem_singleton_self r, s, v, rfl, ?_⟩
    rw [Option.or_none]
    exact hmatches

end Turnstile.Regex
