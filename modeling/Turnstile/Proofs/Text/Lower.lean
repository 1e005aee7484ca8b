import Mathlib.Data.List.Basic
import Turnstile.Proofs.Text

/-!
A text in lower case stays as it is when it is lowered again, and one that was
trimmed before stays trimmed. Both rest on the table of the letters: no letter
that it leads to is one that it starts from, and none is white space.
-/

namespace Turnstile.Text

/-! ### The table -/

namespace CaseRun

/-- The code points that the run moves. -/
def points (r : CaseRun) : List Nat := (List.range r.count).map fun k => r.first + k * r.step

/-- Where it takes them. -/
def images (r : CaseRun) : List Nat := r.points.map fun (n : Nat) => (n + r.shift).toNat

theorem mem_points_of_covers {r : CaseRun} {n : Nat} (h : r.covers n = true) : n ∈ r.points := by
  unfold covers at h
  rw [Bool.and_eq_true, Bool.and_eq_true, decide_eq_true_iff, decide_eq_true_iff, beq_iff_eq] at h
  obtain ⟨⟨hfirst, hlast⟩, hstep⟩ := h
  have hdiv : (n - r.first) / r.step * r.step = n - r.first :=
    Nat.div_mul_cancel (Nat.dvd_of_mod_eq_zero hstep)
  refine List.mem_map.mpr ⟨(n - r.first) / r.step, List.mem_range.mpr ?_, ?_⟩
  · refine Nat.lt_of_mul_lt_mul_right (a := r.step) ?_
    rw [hdiv]
    omega
  · rw [hdiv]
    omega

theorem mem_images_of_image? {r : CaseRun} {n d : Nat} (h : r.image? n = some d) :
    d ∈ r.images := by
  unfold image? at h
  obtain ⟨hcovers, hd⟩ := Option.ite_none_right_eq_some.mp h
  exact List.mem_map.mpr ⟨n, mem_points_of_covers hcovers, Option.some.inj hd⟩

end CaseRun

/-- The number whose bits are set at the members of a list. -/
def bitsOf (ns : List Nat) : Nat := ns.foldr (fun n bits => 1 <<< n ||| bits) 0

theorem testBit_bitsOf {ns : List Nat} {n : Nat} : (bitsOf ns).testBit n = true ↔ n ∈ ns := by
  induction ns with
  | nil => simp [bitsOf]
  | cons m ns ih =>
    have hcons : bitsOf (m :: ns) = 1 <<< m ||| bitsOf ns := rfl
    rw [hcons, Nat.testBit_or, Bool.or_eq_true, ih, Nat.one_shiftLeft, Nat.testBit_two_pow,
      decide_eq_true_iff, List.mem_cons, eq_comm]

/-- Over a thousand letters on either side are compared at once, as bits of a number. -/
theorem points_images_disjoint :
    bitsOf (lowerRuns.flatMap (·.points)) &&& bitsOf (lowerRuns.flatMap (·.images)) = 0 := by
  decide +kernel

theorem not_mem_points {n : Nat} (h : n ∈ lowerRuns.flatMap (·.images)) :
    n ∉ lowerRuns.flatMap (·.points) := by
  intro hpoint
  have hbit : (bitsOf (lowerRuns.flatMap (·.points)) &&&
      bitsOf (lowerRuns.flatMap (·.images))).testBit n = true := by
    rw [Nat.testBit_and, testBit_bitsOf.mpr hpoint, testBit_bitsOf.mpr h]
    rfl
  rw [points_images_disjoint, Nat.zero_testBit] at hbit
  cases hbit

/-- The code points that are lowered in a way of their own are not led to, nor is white space. -/
theorem images_plain : ∀ n ∈ lowerRuns.flatMap (·.images),
    (Char.ofNat n).toNat = n ∧ isBlank (Char.ofNat n) = false ∧ n ≠ 0x130 ∧ n ≠ 931 ∧
      ¬ (65 ≤ n ∧ n ≤ 90) := by
  decide +kernel

/-! ### Characters -/

/-- The character stays as it is, wherever it stands. -/
def IsLowered (c : Char) : Prop := c ≠ 'Σ' ∧ lowerChar c = [c]

theorem isLowered_of_image {n : Nat} (h : n ∈ lowerRuns.flatMap (·.images)) :
    IsLowered (Char.ofNat n) ∧ isBlank (Char.ofNat n) = false := by
  obtain ⟨hcode, hblank, hdotted, hsigma, hcapital⟩ := images_plain n h
  refine ⟨⟨fun heq => hsigma ?_, ?_⟩, hblank⟩
  · rw [← hcode, heq]
    rfl
  · have hnone : lowerRuns.findSome? (·.image? n) = none := by
      refine List.findSome?_eq_none_iff.mpr fun r hr => if_neg fun hcovers => ?_
      exact not_mem_points h (List.mem_flatMap.mpr ⟨r, hr, CaseRun.mem_points_of_covers hcovers⟩)
    have hlower : (Char.ofNat n).toLower = Char.ofNat n := by
      rw [← Char.toNat_inj, toNat_toLower, hcode, if_neg hcapital]
    unfold lowerChar
    rw [hcode, if_neg hdotted, hnone, hlower, ite_self]

theorem isLowered_of_ascii {c : Char} (h : c.toNat < 128) :
    IsLowered c.toLower ∧ (isBlank c = false → isBlank c.toLower = false) := by
  have hcode := toNat_toLower c
  by_cases hletter : 65 ≤ c.toNat ∧ c.toNat ≤ 90
  · rw [if_pos hletter] at hcode
    have hlower : c.toLower.toLower = c.toLower := by
      rw [← Char.toNat_inj, toNat_toLower, if_neg (by omega)]
    refine ⟨⟨fun heq => ?_, ?_⟩, fun _ => ?_⟩
    · rw [heq] at hcode
      exact absurd hcode (by rw [show 'Σ'.toNat = 931 from rfl]; omega)
    · unfold lowerChar
      rw [if_pos (by omega), hlower]
    · unfold isBlank
      rw [hcode]
      simp
      omega
  · rw [if_neg hletter] at hcode
    obtain hsame : c.toLower = c := Char.toNat_inj.mp hcode
    rw [hsame]
    refine ⟨⟨fun heq => ?_, ?_⟩, id⟩
    · rw [heq] at h
      exact absurd h (by decide)
    · unfold lowerChar
      rw [if_pos h, hsame]

/-- What a character is lowered to stays as it is, and is white space only if the character
is. -/
theorem isLowered_of_mem_lowerChar {c d : Char} (hc : c ≠ 'Σ') (h : d ∈ lowerChar c) :
    IsLowered d ∧ (isBlank c = false → isBlank d = false) := by
  by_cases hascii : c.toNat < 128
  · rw [show lowerChar c = [c.toLower] from if_pos hascii, List.mem_singleton] at h
    subst h
    exact isLowered_of_ascii hascii
  · by_cases hdotted : c.toNat = 0x130
    · rw [show lowerChar c = ['i', Char.ofNat 0x307] from
        (if_neg hascii).trans (if_pos hdotted)] at h
      simp only [List.mem_cons, List.not_mem_nil, or_false] at h
      rcases h with rfl | rfl
      · exact ⟨⟨by decide, rfl⟩, fun _ => by decide⟩
      · exact ⟨⟨by decide, by decide +kernel⟩, fun _ => by decide⟩
    · cases hfind : lowerRuns.findSome? (·.image? c.toNat) with
      | none =>
        have hsame : lowerChar c = [c] := by
          unfold lowerChar
          rw [if_neg hascii, if_neg hdotted, hfind]
        rw [hsame, List.mem_singleton] at h
        subst h
        exact ⟨⟨hc, hsame⟩, id⟩
      | some n =>
        have himage : lowerChar c = [Char.ofNat n] := by
          unfold lowerChar
          rw [if_neg hascii, if_neg hdotted, hfind]
        rw [himage, List.mem_singleton] at h
        subst h
        obtain ⟨r, hr, hn⟩ := List.exists_of_findSome?_eq_some hfind
        obtain ⟨hlowered, hblank⟩ := isLowered_of_image
          (List.mem_flatMap.mpr ⟨r, hr, CaseRun.mem_images_of_image? hn⟩)
        exact ⟨hlowered, fun _ => hblank⟩

theorem lowerChar_ne_nil (c : Char) : lowerChar c ≠ [] := by
  unfold lowerChar
  split
  · exact List.cons_ne_nil _ _
  · split
    · exact List.cons_ne_nil _ _
    · split <;> exact List.cons_ne_nil _ _

/-! ### Texts -/

/-- A character of a text is lowered by itself, but for what it needs to know of a sigma. -/
theorem exists_lowerFrom_cons (before : List Char) (c : Char) (rest : List Char) :
    ∃ image, lowerFrom before (c :: rest) = image ++ lowerFrom (c :: before) rest ∧
      image ≠ [] ∧ ∀ d ∈ image, IsLowered d ∧ (isBlank c = false → isBlank d = false) := by
  rw [lowerFrom]
  by_cases hc : c = 'Σ'
  · rw [if_pos hc]
    have hsigma : IsLowered 'σ' ∧ isBlank 'σ' = false :=
      ⟨⟨by decide, by decide +kernel⟩, by decide⟩
    have hfinal : IsLowered 'ς' ∧ isBlank 'ς' = false :=
      ⟨⟨by decide, by decide +kernel⟩, by decide⟩
    refine ⟨_, rfl, ?_, fun d hd => ?_⟩
    · split <;> exact List.cons_ne_nil _ _
    · split at hd <;> obtain rfl := List.mem_singleton.mp hd
      · exact ⟨hfinal.1, fun _ => hfinal.2⟩
      · exact ⟨hsigma.1, fun _ => hsigma.2⟩
  · rw [if_neg hc]
    exact ⟨_, rfl, lowerChar_ne_nil c, fun d hd => isLowered_of_mem_lowerChar hc hd⟩

theorem isLowered_of_mem_lowerFrom {before cs : List Char} {d : Char}
    (h : d ∈ lowerFrom before cs) : IsLowered d := by
  induction cs generalizing before with
  | nil => cases h
  | cons c rest ih =>
    obtain ⟨image, heq, -, himage⟩ := exists_lowerFrom_cons before c rest
    rw [heq] at h
    rcases List.mem_append.mp h with hd | hd
    · exact (himage d hd).1
    · exact ih hd

theorem lowerFrom_of_isLowered {before cs : List Char} (h : ∀ c ∈ cs, IsLowered c) :
    lowerFrom before cs = cs := by
  induction cs generalizing before with
  | nil => rfl
  | cons c rest ih =>
    obtain ⟨hsigma, hlower⟩ := h c List.mem_cons_self
    rw [lowerFrom, if_neg hsigma, hlower, ih fun d hd => h d (List.mem_cons_of_mem c hd)]
    rfl

/-- A text in lower case has no letters to lower. -/
theorem lower_lower (s : String) : lower (lower s) = lower s := by
  have hlowered : lowerFrom [] (lower s).toList = (lower s).toList := by
    refine lowerFrom_of_isLowered fun c hc => ?_
    unfold lower at hc
    rw [String.toList_ofList] at hc
    exact isLowered_of_mem_lowerFrom hc
  rw [lower, hlowered, String.ofList_toList]

theorem head?_lowerFrom {before cs : List Char} (h : ∀ c ∈ cs.head?, isBlank c = false) :
    ∀ d ∈ (lowerFrom before cs).head?, isBlank d = false := by
  cases cs with
  | nil => exact fun d hd => nomatch hd
  | cons c rest =>
    obtain ⟨image, heq, hne, himage⟩ := exists_lowerFrom_cons before c rest
    intro d hd
    obtain ⟨first, others, rfl⟩ := List.exists_cons_of_ne_nil hne
    rw [heq] at hd
    obtain rfl : first = d := Option.some.inj hd
    exact (himage first List.mem_cons_self).2 (h c rfl)

theorem getLast?_lowerFrom {before cs : List Char} (h : ∀ c ∈ cs.getLast?, isBlank c = false) :
    ∀ d ∈ (lowerFrom before cs).getLast?, isBlank d = false := by
  induction cs generalizing before with
  | nil => exact fun d hd => nomatch hd
  | cons c rest ih =>
    obtain ⟨image, heq, hne, himage⟩ := exists_lowerFrom_cons before c rest
    intro d hd
    rw [heq] at hd
    cases rest with
    | nil =>
      rw [lowerFrom, List.append_nil] at hd
      exact (himage d (List.mem_of_mem_getLast? hd)).2 (h c rfl)
    | cons next rest =>
      -- The last character stems from the last one, which comes later.
      obtain ⟨image', heq', hne', -⟩ := exists_lowerFrom_cons (c :: before) next rest
      have hrest : lowerFrom (c :: before) (next :: rest) ≠ [] := by
        rw [heq']
        exact List.append_ne_nil_of_left_ne_nil hne' _
      rw [List.getLast?_append_of_ne_nil _ hrest] at hd
      rw [List.getLast?_cons_cons] at h
      exact ih h d hd

/-- A text that was trimmed stays trimmed in lower case. -/
theorem trim_lower_trim (s : String) : trim (lower (trim s)) = lower (trim s) := by
  refine trim_of_ends ?_ ?_
  · unfold lower
    rw [String.toList_ofList]
    exact head?_lowerFrom fun c hc => head?_trim hc
  · unfold lower
    rw [String.toList_ofList]
    exact getLast?_lowerFrom fun c hc => getLast?_trim hc

end Turnstile.Text
