import Mathlib.Data.List.TakeWhile
import Turnstile.Account.User

/-!
What trimming and lowering do not tell apart: trimming keeps what is not blank, and texts that
agree up to the case of ASCII letters have the same lower case.
-/

namespace Turnstile.Text

/-! ### Trimming -/

theorem mem_trimStart {c : Char} {cs : List Char} (h : c ∈ cs) (hc : isBlank c = false) :
    c ∈ trimStart cs := by
  rw [← List.takeWhile_append_dropWhile (p := isBlank) (l := cs)] at h
  rcases List.mem_append.mp h with hblank | hrest
  · rw [List.mem_takeWhile_imp hblank] at hc
    cases hc
  · exact hrest

theorem mem_trim {c : Char} {s : String} (h : c ∈ s.toList) (hc : isBlank c = false) :
    c ∈ (trim s).toList := by
  unfold trim trimEnd
  rw [String.toList_ofList, List.mem_reverse]
  exact mem_trimStart (List.mem_reverse.mpr (mem_trimStart h hc)) hc

/-- A text that neither starts nor ends with white space is left as it is. -/
theorem trim_of_ends {s : String} (hfirst : ∀ c ∈ s.toList.head?, isBlank c = false)
    (hlast : ∀ c ∈ s.toList.getLast?, isBlank c = false) : trim s = s := by
  have hstart {cs : List Char} (h : ∀ c ∈ cs.head?, isBlank c = false) : trimStart cs = cs := by
    cases cs with
    | nil => rfl
    | cons c rest =>
      have hc : isBlank c = false := h c rfl
      exact List.dropWhile_cons_of_neg (by rw [hc]; exact Bool.false_ne_true)
  unfold trim trimEnd
  rw [hstart hfirst, hstart (by rwa [List.head?_reverse]), List.reverse_reverse,
    String.ofList_toList]

/-- Where trimming starts, there is no white space any more. -/
theorem head?_trimStart {cs : List Char} {c : Char} (h : c ∈ (trimStart cs).head?) :
    isBlank c = false := by
  have hhead := List.head?_dropWhile_not isBlank cs
  unfold trimStart at h
  rw [h] at hhead
  exact hhead

theorem head?_trim {s : String} {c : Char} (h : c ∈ (trim s).toList.head?) :
    isBlank c = false := by
  unfold trim trimEnd at h
  rw [String.toList_ofList, List.head?_reverse] at h
  -- What is left of the end still has the beginning that it had.
  have hsuffix : trimStart (trimStart s.toList).reverse <:+ (trimStart s.toList).reverse :=
    List.dropWhile_suffix _
  obtain ⟨dropped, hdropped⟩ := hsuffix
  have hlast : c ∈ (trimStart s.toList).reverse.getLast? := by
    rw [← hdropped, List.getLast?_append, h]
    rfl
  rw [List.getLast?_reverse] at hlast
  exact head?_trimStart hlast

theorem getLast?_trim {s : String} {c : Char} (h : c ∈ (trim s).toList.getLast?) :
    isBlank c = false := by
  unfold trim trimEnd at h
  rw [String.toList_ofList, List.getLast?_reverse] at h
  exact head?_trimStart h

theorem trim_trim (s : String) : trim (trim s) = trim s :=
  trim_of_ends (fun _ hc => head?_trim hc) fun _ hc => getLast?_trim hc

theorem length_trim_le (s : String) : (trim s).length ≤ s.length := by
  have hstart (cs : List Char) : (trimStart cs).length ≤ cs.length :=
    (List.dropWhile_sublist _).length_le
  unfold trim trimEnd
  rw [String.length_ofList, List.length_reverse]
  calc (trimStart (trimStart s.toList).reverse).length
      ≤ (trimStart s.toList).reverse.length := hstart _
    _ = (trimStart s.toList).length := List.length_reverse
    _ ≤ s.length := hstart _

/-! ### Letters of ASCII -/

/-- The letters that have another case in ASCII. -/
def IsLetter (c : Char) : Prop := 65 ≤ c.toNat ∧ c.toNat ≤ 90 ∨ 97 ≤ c.toNat ∧ c.toNat ≤ 122

theorem toNat_toLower (c : Char) :
    c.toLower.toNat = if 65 ≤ c.toNat ∧ c.toNat ≤ 90 then c.toNat + 32 else c.toNat := by
  unfold Char.toLower
  by_cases h : 65 ≤ c.toNat ∧ c.toNat ≤ 90
  · have hval : c.val ≥ 'A'.val ∧ c.val ≤ 'Z'.val := h
    rw [dif_pos hval, if_pos h]
    have hsum : (c.val + ('a'.val - 'A'.val)).toNat = c.toNat + 32 := by
      rw [UInt32.toNat_add]
      change (c.toNat + 32) % 2 ^ 32 = c.toNat + 32
      omega
    exact hsum
  · have hval : ¬ (c.val ≥ 'A'.val ∧ c.val ≤ 'Z'.val) := h
    rw [dif_neg hval, if_neg h]

/-- Only letters change with the case. -/
theorem letters_of_toLower_eq {c d : Char} (h : c.toLower = d.toLower) :
    c = d ∨ IsLetter c ∧ IsLetter d := by
  have hcode : c.toLower.toNat = d.toLower.toNat := by rw [h]
  rw [toNat_toLower, toNat_toLower] at hcode
  by_cases heq : c.toNat = d.toNat
  · exact .inl (Char.toNat_inj.mp heq)
  · unfold IsLetter
    split at hcode <;> split at hcode <;> omega

namespace Category

/-- Reading more of the table keeps the runs that are finished. -/
theorem suffix_push (r : Reading) (c : Char) : r.runs <:+ (r.push c).runs := by
  unfold Reading.push Reading.close
  split
  · exact List.suffix_rfl
  · split
    · split
      · exact List.suffix_rfl
      · exact List.suffix_cons _ _
    · exact List.suffix_rfl

theorem suffix_foldl_push (cs : List Char) (r : Reading) :
    r.runs <:+ (cs.foldl Reading.push r).runs := by
  induction cs generalizing r with
  | nil => exact List.suffix_rfl
  | cons c cs ih => exact (suffix_push r c).trans (ih (r.push c))

theorem suffix_foldl_lines (lines : List String) (r : Reading) :
    r.runs <:+ (lines.foldl (fun r (line : String) => line.foldl Reading.push r) r).runs := by
  induction lines generalizing r with
  | nil => exact List.suffix_rfl
  | cons line lines ih =>
    rw [List.foldl_cons, String.foldl_eq_foldl_toList]
    exact (suffix_foldl_push line.toList r).trans (ih _)

theorem suffix_close (r : Reading) : r.runs <:+ r.close.runs := by
  unfold Reading.close
  split
  · exact List.suffix_rfl
  · exact List.suffix_cons _ _

/-- What the table starts with, as far as the letters of ASCII. -/
def tableStart : String := "Cc32ZsPo3ScPo3PsPePoSmPoPdPo2Nd10Po2Sm3Po2Lu26PsPoPeSkPcSkLl26Ps"

theorem prefix_runs :
    (tableStart.toList.foldl Reading.push {}).runs.reverse <+: runs := by
  obtain ⟨line, lines, htable, hline⟩ : ∃ line lines, tableLines = line :: lines ∧
      tableStart.toList <+: line.toList := ⟨_, _, rfl, by decide +kernel⟩
  obtain ⟨rest, hrest⟩ := hline
  unfold runs
  rw [List.reverse_prefix, htable, List.foldl_cons, String.foldl_eq_foldl_toList, ← hrest,
    List.foldl_append]
  exact ((suffix_foldl_push rest _).trans (suffix_foldl_lines lines _)).trans (suffix_close _)

end Category

theorem category_of_isLetter {c : Char} (h : IsLetter c) : category c = .Lu ∨ category c = .Ll := by
  let start := (Category.tableStart.toList.foldl Category.Reading.push {}).runs.reverse
  have hstart : ∀ n < 123, 65 ≤ n ∧ n ≤ 90 ∨ 97 ≤ n ∧ n ≤ 122 →
      (start.find? fun r => r.first ≤ n && n ≤ r.last).any
        (fun r => r.category = .Lu ∨ r.category = .Ll) = true := by
    decide +kernel
  have hany := hstart c.toNat (by unfold IsLetter at h; omega) h
  obtain ⟨r, hfind, hcategory⟩ := (Option.any_eq_true ..).mp hany
  obtain ⟨more, hmore⟩ := Category.prefix_runs
  unfold category
  rw [← hmore, List.find?_append, hfind]
  exact of_decide_eq_true hcategory

theorem isCased_of_isLetter {c : Char} (h : IsLetter c) : isCased c = true := by
  unfold isCased
  rcases category_of_isLetter h with hcategory | hcategory <;> rw [hcategory]

theorem isCaseIgnorable_of_isLetter {c : Char} (h : IsLetter c) : isCaseIgnorable c = false := by
  have hmarks : ∀ n < 123, 65 ≤ n ∧ n ≤ 90 ∨ 97 ≤ n ∧ n ≤ 122 →
      wordPunctuation.contains n = false := by decide
  have hc := hmarks c.toNat (by unfold IsLetter at h; omega) h
  unfold isCaseIgnorable
  rcases category_of_isLetter h with hcategory | hcategory <;> rw [hcategory] <;> exact hc

theorem lowerChar_of_isLetter {c : Char} (h : IsLetter c) : lowerChar c = [c.toLower] :=
  if_pos (by unfold IsLetter at h; omega)

theorem ne_sigma_of_isLetter {c : Char} (h : IsLetter c) : c ≠ 'Σ' := by
  rintro rfl
  exact absurd h (by unfold IsLetter; decide)

/-! ### Lower case -/

theorem continuesWord_cons {c : Char} (h : isCaseIgnorable c = false) (cs : List Char) :
    continuesWord (c :: cs) = isCased c := by
  unfold continuesWord
  rw [List.dropWhile_cons_of_neg (by rw [h]; exact Bool.false_ne_true)]

/-- Whether a word goes on is the same for all cases of letters. -/
theorem continuesWord_congr {cs ds : List Char} (h : cs.map Char.toLower = ds.map Char.toLower) :
    continuesWord cs = continuesWord ds := by
  induction cs generalizing ds with
  | nil =>
    obtain rfl := List.map_eq_nil_iff.mp h.symm
    rfl
  | cons c cs ih =>
    obtain ⟨d, ds, rfl, hd, hds⟩ := List.map_eq_cons_iff.mp h.symm
    rcases letters_of_toLower_eq hd with rfl | ⟨hletter, hletter'⟩
    · cases hskip : isCaseIgnorable d with
      | true =>
        unfold continuesWord at ih ⊢
        rw [List.dropWhile_cons_of_pos hskip, List.dropWhile_cons_of_pos hskip]
        exact ih hds.symm
      | false => rw [continuesWord_cons hskip, continuesWord_cons hskip]
    · rw [continuesWord_cons (isCaseIgnorable_of_isLetter hletter),
        continuesWord_cons (isCaseIgnorable_of_isLetter hletter'), isCased_of_isLetter hletter,
        isCased_of_isLetter hletter']

theorem lowerFrom_congr {before before' cs ds : List Char}
    (hbefore : before.map Char.toLower = before'.map Char.toLower)
    (h : cs.map Char.toLower = ds.map Char.toLower) :
    lowerFrom before cs = lowerFrom before' ds := by
  induction cs generalizing before before' ds with
  | nil =>
    obtain rfl := List.map_eq_nil_iff.mp h.symm
    rfl
  | cons c cs ih =>
    obtain ⟨d, ds, rfl, hd, hds⟩ := List.map_eq_cons_iff.mp h.symm
    have hnext : (c :: before).map Char.toLower = (d :: before').map Char.toLower := by
      rw [List.map_cons, List.map_cons, hbefore, hd]
    rw [lowerFrom, lowerFrom, ih hnext hds.symm]
    rcases letters_of_toLower_eq hd with rfl | ⟨hletter, hletter'⟩
    · rw [continuesWord_congr hbefore, continuesWord_congr hds]
    · rw [if_neg (ne_sigma_of_isLetter hletter'), if_neg (ne_sigma_of_isLetter hletter),
        lowerChar_of_isLetter hletter', lowerChar_of_isLetter hletter, hd]

/-- The lower case forgets the case of ASCII letters. -/
theorem lower_of_agreesUpToCase {s t : String} (h : agreesUpToCase s t = true) :
    lower s = lower t := by
  have hletters : s.toList.map Char.toLower = t.toList.map Char.toLower :=
    String.ofList_injective (eq_of_beq h)
  exact congrArg String.ofList (lowerFrom_congr rfl hletters)

/-- What is not a letter stands in both texts or in none. -/
theorem mem_of_agreesUpToCase {s t : String} (h : agreesUpToCase s t = true) {c : Char}
    (hc : ¬ IsLetter c) (hmem : c ∈ t.toList) : c ∈ s.toList := by
  have hletters : s.toList.map Char.toLower = t.toList.map Char.toLower :=
    String.ofList_injective (eq_of_beq h)
  have hlower : c.toLower ∈ s.toList.map Char.toLower := by
    rw [hletters]
    exact List.mem_map_of_mem hmem
  obtain ⟨d, hd, heq⟩ := List.mem_map.mp hlower
  rcases letters_of_toLower_eq heq with rfl | ⟨-, hletter⟩
  · exact hd
  · exact absurd hletter hc

end Turnstile.Text
