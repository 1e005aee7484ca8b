import Turnstile.Policy.Engine

/-!
What becomes of the superadmin's name in the matching expression. A name of
ASCII letters, digits, hyphens and underscores is compared as it stands: it needs
no escapes, holds no reference and no nested evaluation, and starts no comment.
-/

namespace Turnstile

/-- An ASCII letter or digit, a hyphen or an underscore. -/
def Superadmin.IsPlain (c : Char) : Prop := c.isAlphanum = true ∨ c = '-' ∨ c = '_'

namespace Superadmin

variable {c : Char} {cs : List Char}

/-- Plain characters are shown, and none of them has a meaning of its own. -/
theorem IsPlain.bounds (h : IsPlain c) : 45 ≤ c.toNat ∧ c.toNat ≤ 122 ∧
    c ≠ '"' ∧ c ≠ '\\' ∧ c ≠ '.' ∧ c ≠ '#' ∧ c ≠ '(' := by
  rcases h with h | rfl | rfl
  · delta Char.isAlphanum Char.isAlpha Char.isUpper Char.isLower Char.isDigit at h
    simp only [Bool.or_eq_true, Bool.and_eq_true, decide_eq_true_eq, ge_iff_le,
      UInt32.le_iff_toNat_le] at h
    change ((65 ≤ c.toNat ∧ c.toNat ≤ 90) ∨ (97 ≤ c.toNat ∧ c.toNat ≤ 122)) ∨
      (48 ≤ c.toNat ∧ c.toNat ≤ 57) at h
    have hne (d : Char) (hd : d.toNat < 48 ∨ d.toNat = 92) : c ≠ d := by
      rintro rfl
      omega
    exact ⟨by omega, by omega, hne _ (by decide), hne _ (by decide), hne _ (by decide),
      hne _ (by decide), hne _ (by decide)⟩
  · decide
  · decide

theorem quoteChar_of_isPlain (h : IsPlain c) : Text.quoteChar c = [c] := by
  obtain ⟨hlow, hhigh, hquote, hescape, -⟩ := h.bounds
  have hne {d : Char} (hd : d.toNat < 45) : c ≠ d := by
    rintro rfl
    omega
  have hshown : Text.isShown c = true := by
    unfold Text.isShown
    rw [if_pos (by omega)]
    simp
    omega
  unfold Text.quoteChar
  split
  · exact absurd rfl (hne (by decide))
  · exact absurd rfl (hne (by decide))
  · exact absurd rfl (hne (by decide))
  · exact absurd rfl (hne (by decide))
  · exact absurd rfl hquote
  · exact absurd rfl hescape
  · rw [if_pos hshown]

theorem quoteChars_of_isPlain (h : ∀ c ∈ cs, IsPlain c) :
    Text.quoteChars cs = '"' :: (cs ++ ['"']) := by
  have hflat : cs.flatMap Text.quoteChar = cs := by
    induction cs with
    | nil => rfl
    | cons c rest ih =>
      rw [List.flatMap_cons, quoteChar_of_isPlain (h c List.mem_cons_self),
        ih fun d hd => h d (List.mem_cons_of_mem c hd)]
      rfl
  rw [Text.quoteChars, hflat]

/-- Without dots there are no references to join. -/
theorem joinReferences_of_no_dot (before : Option Char) (h : '.' ∉ cs) :
    joinReferences before false cs = cs := by
  induction cs generalizing before with
  | nil => rfl
  | cons c rest ih =>
    have hrest : '.' ∉ rest := fun hmem => h (List.mem_cons_of_mem c hmem)
    have hreference : isReference rest = false := by
      refine Bool.eq_false_iff.mpr fun htrue => ?_
      have hhead : (rest.dropWhile isDigit).head? = some '.' := by
        simpa [isReference] using htrue
      exact hrest ((List.dropWhile_sublist isDigit).mem (List.mem_of_mem_head? hhead))
    simp [joinReferences, hreference, ih _ hrest]

/-- Without an opening parenthesis there is no nested evaluation to wrap. -/
theorem wrapEvaluations_of_no_parenthesis (before : Option Char) (h : '(' ∉ cs) :
    wrapEvaluations before 0 false cs = some cs := by
  induction cs generalizing before with
  | nil => rfl
  | cons c rest ih =>
    have hrest : '(' ∉ rest := fun hmem => h (List.mem_cons_of_mem c hmem)
    have hopening : "eval(".toList.isPrefixOf (c :: rest) = false := by
      refine Bool.eq_false_iff.mpr fun htrue => ?_
      have hstart : "eval(".toList <+: c :: rest := by
        simpa [List.isPrefixOf_iff_prefix] using htrue
      exact h (hstart.subset (by decide))
    rw [wrapEvaluations, hopening, ih _ hrest]
    simp

theorem unquote_of_isPlain (h : ∀ c ∈ cs, IsPlain c) : unquote (cs ++ ['"']) = some cs := by
  induction cs with
  | nil => rfl
  | cons c rest ih =>
    obtain ⟨-, -, hquote, hescape, -⟩ := (h c List.mem_cons_self).bounds
    have hrest := ih fun d hd => h d (List.mem_cons_of_mem c hd)
    rw [List.cons_append, unquote]
    · rw [hrest]
      rfl
    · exact fun heq => absurd heq hquote
    · exact fun _ _ heq => absurd heq hescape

/-- Roles are compared with a plain name itself. -/
theorem comparedText?_of_isPlain {name : String} (h : ∀ c ∈ name.toList, IsPlain c) :
    comparedText? name = some name := by
  have hnot {d : Char} (hd : d ≠ '"') (hplain : ¬ IsPlain d) :
      d ∉ '"' :: (name.toList ++ ['"']) := by
    intro hmem
    rcases List.mem_cons.mp hmem with rfl | hmem
    · exact hd rfl
    rcases List.mem_append.mp hmem with hmem | hmem
    · exact hplain (h d hmem)
    · exact hd (List.mem_singleton.mp hmem)
  have hcomment : ('"' :: (name.toList ++ ['"'])).contains '#' = false := by
    simpa using hnot (d := '#') (by decide) fun hp => hp.bounds.2.2.2.2.2.1 rfl
  unfold comparedText?
  rw [quoteChars_of_isPlain h, joinReferences_of_no_dot none
    (hnot (by decide) fun hp => hp.bounds.2.2.2.2.1 rfl)]
  dsimp only
  rw [if_neg (by rw [hcomment]; decide), wrapEvaluations_of_no_parenthesis none
    (hnot (by decide) fun hp => hp.bounds.2.2.2.2.2.2 rfl)]
  change (unquote (name.toList ++ ['"'])).map String.ofList = some name
  rw [unquote_of_isPlain h]
  simp

/-- The superadmin of a plain name. -/
def plain (name : String) (h : ∀ c ∈ name.toList, IsPlain c) : Superadmin :=
  ⟨name, name, comparedText?_of_isPlain h⟩

end Superadmin

end Turnstile
