import Turnstile.Config.Settings
import Turnstile.Proofs.Policy.RuleList

/-!
Which names of the superadmin are compared as they stand. The name is quoted, references in the
quoted text are joined, nested evaluations are wrapped, and the result is read back. Joining takes
a dot away and wrapping adds an opening parenthesis, while quoting and reading back leave the
number of both as it is. So a name comes back as it was only if it is left alone on its way.
-/

namespace Turnstile

namespace Superadmin

/-! ### Names that are left alone -/

/-- At some place of the text, with what stands before the text, the character there is as said, for
the character before it and what follows. -/
def Somewhere (p : Option Char → Char → List Char → Prop) (before : Option Char)
    (cs : List Char) : Prop :=
  ∃ u c v, cs = u ++ c :: v ∧ p (u.getLast?.or before) c v

/-- No word goes on here. -/
def Fresh (before : Option Char) : Prop := ∀ b ∈ before, Text.isWordChar b = false

/-- A word starts that names the request or the rule: its letter, digits, and then a dot. -/
def StartsReference (before : Option Char) (c : Char) (rest : List Char) : Prop :=
  (c = 'r' ∨ c = 'p') ∧ Fresh before ∧
    ∃ digits more, rest = digits ++ '.' :: more ∧ ∀ d ∈ digits, isDigit d = true

/-- A word starts that asks for a nested evaluation. -/
def StartsEvaluation (before : Option Char) (c : Char) (rest : List Char) : Prop :=
  Fresh before ∧ "eval(".toList <+: c :: rest

/-- The character is quoted by itself or by an escape that can be read back. -/
def IsReadable (c : Char) : Prop := Text.isShown c = true ∨ c = '\t' ∨ c = '\r' ∨ c = '\n'

instance : DecidablePred IsReadable := fun _ => inferInstanceAs (Decidable (_ ∨ _))

/-- The name starts no comment, can be read back, and holds, once quoted, no reference and no nested
evaluation. -/
structure IsLiteral (name : String) : Prop where
  noComment : '#' ∉ name.toList
  readable : ∀ c ∈ name.toList, IsReadable c
  noReference : ¬ Somewhere StartsReference none (Text.quoteChars name.toList)
  noEvaluation : ¬ Somewhere StartsEvaluation none (Text.quoteChars name.toList)

variable {before : Option Char} {c : Char} {rest cs out : List Char}

theorem not_somewhere_nil {p : Option Char → Char → List Char → Prop} :
    ¬ Somewhere p before [] := by
  rintro ⟨u, c, v, h, -⟩
  exact List.append_ne_nil_of_right_ne_nil u (List.cons_ne_nil c v) h.symm

theorem somewhere_cons {p : Option Char → Char → List Char → Prop} :
    Somewhere p before (c :: rest) ↔ p before c rest ∨ Somewhere p (some c) rest := by
  constructor
  · rintro ⟨u, d, v, h, hp⟩
    cases u with
    | nil =>
      obtain ⟨rfl, rfl⟩ := List.cons.inj h
      exact .inl hp
    | cons b u =>
      obtain ⟨rfl, rfl⟩ := List.cons.inj h
      exact .inr ⟨u, d, v, rfl, by rwa [Regex.getLast?_cons_or] at hp⟩
  · rintro (hp | ⟨u, d, v, rfl, hp⟩)
    · exact ⟨[], c, rest, rfl, hp⟩
    · exact ⟨c :: u, d, v, rfl, by rwa [Regex.getLast?_cons_or]⟩

theorem wordStarts_iff : wordStarts before c = true ↔ Text.isWordChar c = true ∧ Fresh before := by
  cases before with
  | none => simp [wordStarts, Fresh]
  | some b => simp [wordStarts, Fresh]

theorem isReference_iff : isReference rest = true ↔
    ∃ digits more, rest = digits ++ '.' :: more ∧ ∀ d ∈ digits, isDigit d = true := by
  unfold isReference
  rw [beq_iff_eq]
  constructor
  · intro h
    obtain ⟨more, hmore⟩ := List.head?_eq_some_iff.mp h
    refine ⟨rest.takeWhile isDigit, more, ?_, List.all_eq_true.mp List.all_takeWhile⟩
    rw [← hmore, List.takeWhile_append_dropWhile]
  · rintro ⟨digits, more, rfl, hdigits⟩
    rw [List.dropWhile_append_of_pos hdigits, List.dropWhile_cons_of_neg (by decide)]
    rfl

/-! ### Joining references -/

theorem joinReferences_cons_of_starts (h : StartsReference before c rest) :
    joinReferences before false (c :: rest) = c :: joinReferences (some c) true rest := by
  obtain ⟨hc, hfresh, hreference⟩ := h
  have hword : Text.isWordChar c = true := by rcases hc with rfl | rfl <;> decide
  have hstarts : ((c = 'r' || c = 'p') && wordStarts before c && isReference rest) = true := by
    simp [hc, wordStarts_iff.mpr ⟨hword, hfresh⟩, isReference_iff.mpr hreference]
  rw [joinReferences, if_neg (by simp), if_pos (by simpa using hstarts)]

theorem joinReferences_cons_of_not_starts (h : ¬ StartsReference before c rest) :
    joinReferences before false (c :: rest) = c :: joinReferences (some c) false rest := by
  have hstarts : ¬ ((!false && (decide (c = 'r') || decide (c = 'p')) && wordStarts before c &&
      isReference rest) = true) := by
    simp only [Bool.not_false, Bool.true_and, Bool.and_eq_true, Bool.or_eq_true,
      decide_eq_true_eq]
    rintro ⟨⟨hc, hstarts⟩, hreference⟩
    exact h ⟨hc, (wordStarts_iff.mp hstarts).2, isReference_iff.mp hreference⟩
  rw [joinReferences, if_neg (by simp), if_neg hstarts]

/-- Where no reference starts, nothing is joined. -/
theorem joinReferences_eq_self (h : ¬ Somewhere StartsReference before cs) :
    joinReferences before false cs = cs := by
  induction cs generalizing before with
  | nil => rfl
  | cons c rest ih =>
    obtain ⟨hc, hrest⟩ := not_or.mp (mt somewhere_cons.mpr h)
    rw [joinReferences_cons_of_not_starts hc, ih hrest]

theorem joinReferences_pending_dot :
    joinReferences before true ('.' :: rest) = '_' :: joinReferences (some '.') false rest := rfl

theorem joinReferences_pending_of_ne (hc : c ≠ '.') :
    joinReferences before true (c :: rest) = c :: joinReferences (some c) true rest := by
  rw [joinReferences, if_neg (by simpa using hc), if_neg (by simp)]

/-- No dot is added, and where one is awaited the next one is lost. -/
theorem count_joinReferences (pending : Bool) :
    (joinReferences before pending cs).count '.' ≤ cs.count '.' ∧
      (pending = true → '.' ∈ cs →
        (joinReferences before pending cs).count '.' < cs.count '.') := by
  induction cs generalizing before pending with
  | nil => exact ⟨Nat.le_refl 0, fun _ h => absurd h List.not_mem_nil⟩
  | cons c rest ih =>
    have hrest (p : Bool) : (joinReferences (some c) p rest).count '.' ≤ rest.count '.' := (ih p).1
    cases pending with
    | false =>
      refine ⟨?_, nofun⟩
      by_cases hc : StartsReference before c rest
      · rw [joinReferences_cons_of_starts hc, List.count_cons, List.count_cons]
        exact Nat.add_le_add_right (hrest true) _
      · rw [joinReferences_cons_of_not_starts hc, List.count_cons, List.count_cons]
        exact Nat.add_le_add_right (hrest false) _
    | true =>
      by_cases hc : c = '.'
      · subst hc
        have := hrest false
        rw [joinReferences_pending_dot, List.count_cons_of_ne (by decide), List.count_cons_self]
        omega
      · rw [joinReferences_pending_of_ne hc, List.count_cons_of_ne hc, List.count_cons_of_ne hc]
        exact ⟨hrest true,
          fun h hmem => (ih true).2 h ((List.mem_cons.mp hmem).resolve_left (Ne.symm hc))⟩

/-- Where a reference starts, a dot is lost. -/
theorem count_joinReferences_lt (h : Somewhere StartsReference before cs) :
    (joinReferences before false cs).count '.' < cs.count '.' := by
  induction cs generalizing before with
  | nil => exact absurd h not_somewhere_nil
  | cons c rest ih =>
    by_cases hc : StartsReference before c rest
    · obtain ⟨digits, more, hrest, -⟩ := hc.2.2
      have hdot : '.' ∈ rest := by simp [hrest]
      have hlost : (joinReferences (some c) true rest).count '.' < rest.count '.' :=
        (count_joinReferences true).2 rfl hdot
      rw [joinReferences_cons_of_starts hc, List.count_cons, List.count_cons]
      exact Nat.add_lt_add_right hlost _
    · rw [joinReferences_cons_of_not_starts hc, List.count_cons, List.count_cons]
      exact Nat.add_lt_add_right (ih ((somewhere_cons.mp h).resolve_left hc)) _

/-! ### Wrapping evaluations -/

theorem wrapEvaluations_cons_of_starts (h : StartsEvaluation before c rest) :
    wrapEvaluations before 0 false (c :: rest) =
      (wrapEvaluations (some c) 4 true rest).map (c :: ·) := by
  obtain ⟨hfresh, hopening⟩ := h
  obtain rfl : 'e' = c := (List.cons_prefix_cons.mp hopening).1
  have hstarts : (wordStarts before 'e' && "eval(".toList.isPrefixOf ('e' :: rest)) = true :=
    Bool.and_eq_true_iff.mpr ⟨wordStarts_iff.mpr ⟨by decide, hfresh⟩,
      List.isPrefixOf_iff_prefix.mpr hopening⟩
  rw [wrapEvaluations, if_neg Bool.false_ne_true, if_pos hstarts]

theorem wrapEvaluations_cons_of_not_starts (h : ¬ StartsEvaluation before c rest) :
    wrapEvaluations before 0 false (c :: rest) =
      (wrapEvaluations (some c) 0 false rest).map (c :: ·) := by
  have hstarts : ¬ (wordStarts before c && "eval(".toList.isPrefixOf (c :: rest)) = true := by
    intro hstarts
    obtain ⟨hword, hopening⟩ := Bool.and_eq_true_iff.mp hstarts
    exact h ⟨(wordStarts_iff.mp hword).2, List.isPrefixOf_iff_prefix.mp hopening⟩
  rw [wrapEvaluations, if_neg Bool.false_ne_true, if_neg hstarts]

/-- Where no evaluation starts, nothing is wrapped. -/
theorem wrapEvaluations_eq_self (h : ¬ Somewhere StartsEvaluation before cs) :
    wrapEvaluations before 0 false cs = some cs := by
  induction cs generalizing before with
  | nil => rfl
  | cons c rest ih =>
    obtain ⟨hc, hrest⟩ := not_or.mp (mt somewhere_cons.mpr h)
    rw [wrapEvaluations_cons_of_not_starts hc, ih hrest]
    rfl

/-- Wrapping leaves the dots as they are and takes no opening parenthesis away; where it has skipped
an opening it adds one. -/
theorem count_wrapEvaluations {skip : Nat} {inside : Bool}
    (h : wrapEvaluations before skip inside cs = some out) :
    out.count '.' = cs.count '.' ∧ cs.count '(' ≤ out.count '(' ∧
      (skip ≠ 0 → skip ≤ cs.length → cs.count '(' < out.count '(') := by
  induction cs generalizing before skip inside out with
  | nil =>
    have hout : out = [] := by
      unfold wrapEvaluations at h
      split at h
      · cases h
      · exact (Option.some.inj h).symm
    subst hout
    exact ⟨rfl, Nat.le_refl 0, fun hskip hle => absurd (Nat.le_zero.mp hle) hskip⟩
  | cons c rest ih =>
    cases skip with
    | succ k =>
      obtain ⟨more, hmore, rfl⟩ := Option.map_eq_some_iff.mp h
      obtain ⟨hdots, hle, hlt⟩ := ih hmore
      by_cases hk : k = 0
      · have hadded : "escape_assertion(".toList.count '.' = 0 ∧
            "escape_assertion(".toList.count '(' = 1 := by decide
        rw [if_pos hk]
        simp only [List.count_cons, List.count_append, hadded.1, hadded.2, hdots]
        omega
      · rw [if_neg hk]
        simp only [List.count_cons, List.length_cons, hdots]
        refine ⟨trivial, by omega, fun _ hlength => ?_⟩
        exact Nat.add_lt_add_right (hlt hk (Nat.le_of_succ_le_succ hlength)) _
    | zero =>
      -- All that is added here is a closing parenthesis, after one that closes an evaluation.
      have hstep : ∃ more k b, wrapEvaluations (some c) k b rest = some more ∧
          (out = c :: more ∨ c = ')' ∧ out = ')' :: ')' :: more) := by
        unfold wrapEvaluations at h
        dsimp only at h
        split at h
        · obtain ⟨more, hmore, rfl⟩ := Option.map_eq_some_iff.mp h
          refine ⟨more, _, _, hmore, ?_⟩
          split
          · exact .inr ⟨‹_›, rfl⟩
          · exact .inl rfl
        · split at h <;> obtain ⟨more, hmore, rfl⟩ := Option.map_eq_some_iff.mp h <;>
            exact ⟨more, _, _, hmore, .inl rfl⟩
      obtain ⟨more, k, b, hmore, hout⟩ := hstep
      obtain ⟨hdots, hle, -⟩ := ih hmore
      refine ⟨?_, ?_, fun h => absurd rfl h⟩
      · rcases hout with rfl | ⟨rfl, rfl⟩ <;> simp [List.count_cons, hdots]
      · rcases hout with rfl | ⟨rfl, rfl⟩
        · rw [List.count_cons, List.count_cons]
          exact Nat.add_le_add_right hle _
        · simpa using hle

/-- Where an evaluation starts, an opening parenthesis is added. -/
theorem count_wrapEvaluations_lt (h : Somewhere StartsEvaluation before cs)
    (hout : wrapEvaluations before 0 false cs = some out) : cs.count '(' < out.count '(' := by
  induction cs generalizing before out with
  | nil => exact absurd h not_somewhere_nil
  | cons c rest ih =>
    by_cases hc : StartsEvaluation before c rest
    · rw [wrapEvaluations_cons_of_starts hc] at hout
      obtain ⟨more, hmore, rfl⟩ := Option.map_eq_some_iff.mp hout
      have hlength : 4 ≤ rest.length := by
        have := hc.2.length_le
        simpa using this
      rw [List.count_cons, List.count_cons]
      exact Nat.add_lt_add_right ((count_wrapEvaluations hmore).2.2 (by decide) hlength) _
    · rw [wrapEvaluations_cons_of_not_starts hc] at hout
      obtain ⟨more, hmore, rfl⟩ := Option.map_eq_some_iff.mp hout
      rw [List.count_cons, List.count_cons]
      exact Nat.add_lt_add_right (ih ((somewhere_cons.mp h).resolve_left hc) hmore) _

/-! ### Quoting and reading back -/

/-- The characters that are counted. -/
def IsCounted (x : Char) : Prop := x ∈ ['.', '(', '#']

instance : DecidablePred IsCounted := fun _ => inferInstanceAs (Decidable (_ ∈ _))

variable {x : Char}

theorem IsCounted.not_mem_hexText (hx : IsCounted x) (n : Nat) : x ∉ Text.hexText n := by
  have hdigit : ∀ k < 16, Nat.digitChar k ∉ ['.', '(', '#'] := by decide
  unfold Text.hexText
  induction n using Nat.strongRecOn with
  | ind n ih =>
    by_cases hn : n < 16
    · rw [Nat.toDigits_of_lt_base hn, List.mem_singleton]
      exact fun heq => hdigit n hn (heq ▸ hx)
    · rw [Nat.toDigits_of_base_le (by decide) (Nat.le_of_not_lt hn), List.mem_append,
        List.mem_singleton]
      exact not_or.mpr ⟨ih _ (by omega),
        fun heq => hdigit _ (Nat.mod_lt n (by decide)) (heq ▸ hx)⟩

/-- The characters of escapes, apart from digits. -/
def escapeChars : List Char :=
  ['\\', '0', 't', 'r', 'n', '"', 'u', '\x7b', '\x7d', '\x00', '\t', '\r', '\n']

theorem IsCounted.spec (hx : IsCounted x) : Text.isShown x = true ∧ x ∉ escapeChars := by
  simp only [IsCounted, List.mem_cons, List.not_mem_nil, or_false] at hx
  rcases hx with rfl | rfl | rfl <;> decide

theorem IsCounted.count_eq_zero (hx : IsCounted x) (h : cs ⊆ escapeChars) : cs.count x = 0 :=
  List.count_eq_zero_of_not_mem fun hmem => hx.spec.2 (h hmem)

theorem IsCounted.count_escape (hx : IsCounted x) {d : Char} (h : [c, d] ⊆ escapeChars) :
    ['\\', d].count x = [c].count x := by
  obtain ⟨hc, hd⟩ := List.cons_subset.mp h
  rw [hx.count_eq_zero (List.cons_subset.mpr ⟨by decide, hd⟩),
    hx.count_eq_zero (List.cons_subset.mpr ⟨hc, List.nil_subset _⟩)]

/-- No counted character needs an escape, and none is in one. -/
theorem IsCounted.count_quoteChar (hx : IsCounted x) (c : Char) :
    (Text.quoteChar c).count x = [c].count x := by
  unfold Text.quoteChar
  split
  case h_1 | h_2 | h_3 | h_4 | h_5 | h_6 => exact hx.count_escape (by decide)
  case h_7 =>
    split
    · rfl
    · rename_i hhidden
      have hne : c ≠ x := by
        rintro rfl
        exact hhidden hx.spec.1
      have hopening : ['\\', 'u', '\x7b'].count x = 0 := hx.count_eq_zero (by decide)
      have hclosing : ['\x7d'].count x = 0 := hx.count_eq_zero (by decide)
      have hhex := List.count_eq_zero_of_not_mem (hx.not_mem_hexText c.toNat)
      rw [List.count_singleton, if_neg (by simpa using hne)]
      change (['\\', 'u', '\x7b'] ++ (Text.hexText c.toNat ++ ['\x7d'])).count x = 0
      rw [List.count_append, List.count_append, hopening, hclosing, hhex]

theorem IsCounted.count_quoted (hx : IsCounted x) (cs : List Char) :
    (cs.flatMap Text.quoteChar ++ ['"']).count x = cs.count x := by
  have hclosing : ['"'].count x = 0 := hx.count_eq_zero (by decide)
  rw [List.count_append, hclosing, Nat.add_zero]
  induction cs with
  | nil => rfl
  | cons c cs ih =>
    rw [List.flatMap_cons, List.count_append, hx.count_quoteChar, ih, ← List.count_append]
    rfl

/-- Reading back leaves the counted characters as they are. -/
theorem IsCounted.count_unquote (hx : IsCounted x) (h : unquote cs = some out) :
    out.count x = cs.count x := by
  have hescape {c d : Char} {rest out : List Char} (hcd : [c, d] ⊆ escapeChars)
      (hrest : ∀ {more}, unquote rest = some more → more.count x = rest.count x)
      (h : (unquote rest).map (c :: ·) = some out) :
      out.count x = ('\\' :: d :: rest).count x := by
    obtain ⟨more, hmore, rfl⟩ := Option.map_eq_some_iff.mp h
    change ([c] ++ more).count x = (['\\', d] ++ rest).count x
    rw [List.count_append, List.count_append, hx.count_escape hcd, hrest hmore]
  fun_induction unquote cs generalizing out with
  | case1 => cases h
  | case2 =>
    rw [← Option.some.inj h, hx.count_eq_zero (by decide), hx.count_eq_zero (by decide)]
  | case3 | case4 | case5 | case6 | case7 =>
    rename_i ih
    exact hescape (by decide) ih h
  | case8 => cases h
  | case9 c rest _ _ ih =>
    obtain ⟨more, hmore, rfl⟩ := Option.map_eq_some_iff.mp h
    rw [List.count_cons, List.count_cons, ih hmore]

/-- A quoted character is read back if it can be. -/
theorem unquote_quoteChar (hrest : rest ≠ []) : unquote (Text.quoteChar c ++ rest) = some out ↔
    IsReadable c ∧ ∃ more, unquote rest = some more ∧ out = c :: more := by
  have hescape (d : Char) (h : IsReadable d) : (unquote rest).map (d :: ·) = some out ↔
      IsReadable d ∧ ∃ more, unquote rest = some more ∧ out = d :: more := by
    rw [Option.map_eq_some_iff]
    exact ⟨fun ⟨more, hmore, hout⟩ => ⟨h, more, hmore, hout.symm⟩,
      fun ⟨_, more, hmore, hout⟩ => ⟨more, hmore, hout.symm⟩⟩
  have hrefused (h : ¬ IsReadable c) : none = some out ↔
      IsReadable c ∧ ∃ more, unquote rest = some more ∧ out = c :: more := by
    simp [h]
  unfold Text.quoteChar
  split
  · exact hrefused (by decide)
  · exact hescape '\t' (by decide)
  · exact hescape '\r' (by decide)
  · exact hescape '\n' (by decide)
  · exact hescape '"' (by decide)
  · exact hescape '\\' (by decide)
  · split
    · rename_i hslash hshown
      rw [List.singleton_append, unquote]
      · exact hescape c (.inl hshown)
      · exact fun _ hnil => hrest hnil
      · exact fun _ _ hc _ => hslash hc
    · rename_i hhidden
      refine hrefused ?_
      rintro (h | rfl | rfl | rfl) <;> contradiction

/-- What was quoted is read back, if each character can be. -/
theorem unquote_quoted : unquote (cs.flatMap Text.quoteChar ++ ['"']) = some cs ↔
    ∀ c ∈ cs, IsReadable c := by
  induction cs with
  | nil => exact ⟨fun _ => List.forall_mem_nil _, fun _ => rfl⟩
  | cons c cs ih =>
    rw [List.flatMap_cons, List.append_assoc, unquote_quoteChar (by simp), List.forall_mem_cons,
      ← ih]
    simp [eq_comm]

/-! ### What is compared -/

/-- The quoted text after its first quotation mark, which begins no word. -/
def quotedTail (name : String) : List Char := name.toList.flatMap Text.quoteChar ++ ['"']

theorem not_startsReference_quote (rest : List Char) : ¬ StartsReference before '"' rest := by
  rintro ⟨h | h, -⟩ <;> cases h

theorem not_startsEvaluation_quote (rest : List Char) : ¬ StartsEvaluation before '"' rest := by
  rintro ⟨-, h⟩
  cases (List.cons_prefix_cons.mp h).1

theorem comparedText?_eq (name : String) : comparedText? name =
    if '#' ∈ joinReferences (some '"') false (quotedTail name) then none
    else (wrapEvaluations (some '"') 0 false
      (joinReferences (some '"') false (quotedTail name))).bind fun wrapped =>
        (unquote wrapped).map String.ofList := by
  have hjoined : joinReferences none false (Text.quoteChars name.toList) =
      '"' :: joinReferences (some '"') false (quotedTail name) :=
    joinReferences_cons_of_not_starts (not_startsReference_quote _)
  unfold comparedText?
  dsimp only
  rw [hjoined, wrapEvaluations_cons_of_not_starts (not_startsEvaluation_quote _)]
  generalize joinReferences (some '"') false (quotedTail name) = joined
  cases wrapEvaluations (some '"') 0 false joined <;> simp

/-- A name is compared as it stands exactly if nothing on its way has a meaning. -/
theorem comparedText?_eq_self_iff {name : String} :
    comparedText? name = some name ↔ IsLiteral name := by
  have hreference : Somewhere StartsReference none (Text.quoteChars name.toList) ↔
      Somewhere StartsReference (some '"') (quotedTail name) :=
    somewhere_cons.trans (or_iff_right (not_startsReference_quote _))
  have hevaluation : Somewhere StartsEvaluation none (Text.quoteChars name.toList) ↔
      Somewhere StartsEvaluation (some '"') (quotedTail name) :=
    somewhere_cons.trans (or_iff_right (not_startsEvaluation_quote _))
  have hcounts {x : Char} (hx : IsCounted x) : (quotedTail name).count x = name.toList.count x :=
    hx.count_quoted name.toList
  have hcomment : '#' ∈ quotedTail name ↔ '#' ∈ name.toList := by
    have hx : IsCounted '#' := by decide
    rw [← List.count_pos_iff, ← List.count_pos_iff, hcounts hx]
  rw [comparedText?_eq]
  constructor
  · intro h
    split at h
    · cases h
    · rename_i hhash
      obtain ⟨wrapped, hwrapped, h⟩ := Option.bind_eq_some_iff.mp h
      obtain ⟨out, hout, hname⟩ := Option.map_eq_some_iff.mp h
      obtain rfl : out = name.toList := by rw [← hname, String.toList_ofList]
      have hdot : IsCounted '.' := by decide
      have hparenthesis : IsCounted '(' := by decide
      obtain ⟨hdots, -, -⟩ := count_wrapEvaluations hwrapped
      have hkept : ¬ Somewhere StartsReference (some '"') (quotedTail name) := by
        intro hsome
        have hlost := count_joinReferences_lt hsome
        rw [← hdots, ← hdot.count_unquote hout, hcounts hdot] at hlost
        exact Nat.lt_irrefl _ hlost
      rw [joinReferences_eq_self hkept] at hhash hwrapped
      have hunwrapped : ¬ Somewhere StartsEvaluation (some '"') (quotedTail name) := by
        intro hsome
        have hadded := count_wrapEvaluations_lt hsome hwrapped
        rw [← hparenthesis.count_unquote hout, hcounts hparenthesis] at hadded
        exact Nat.lt_irrefl _ hadded
      obtain rfl := Option.some.inj ((wrapEvaluations_eq_self hunwrapped).symm.trans hwrapped)
      exact ⟨mt hcomment.mpr hhash, unquote_quoted.mp hout, mt hreference.mp hkept,
        mt hevaluation.mp hunwrapped⟩
  · intro h
    rw [joinReferences_eq_self (mt hreference.mpr h.noReference),
      if_neg (mt hcomment.mp h.noComment),
      wrapEvaluations_eq_self (mt hevaluation.mpr h.noEvaluation), Option.bind_some, quotedTail,
      unquote_quoted.mpr h.readable, Option.map_some, String.ofList_toList]

end Superadmin

namespace PolicyEngine

/-- Without rules a request for a path is allowed to the superadmin alone. -/
theorem InStep.enforce_of_no_rules [SizeLimit] {e : PolicyEngine} (he : e.InStep) (h : e.rules = [])
    {path : String} (hpath : path ≠ "") (role action : String) :
    e.enforce role action path = .ok (role == e.superadminText) := by
  obtain ⟨allowed, hallowed⟩ := accepts_empty e.matcher path
  have hempty : e.matcher.accepts "" path = .ok false := by
    cases allowed with
    | false => exact hallowed
    | true =>
      have hfits := (PathMatcher.accepts_iff hallowed).mp rfl
      exact absurd (PathMatcher.fits_empty hfits) hpath
  rw [he.enforce_eq]
  cases hrole : role == e.superadminText with
  | true => rfl
  | false =>
    rw [if_neg Bool.false_ne_true, h, hempty, ite_self]
    rfl

/-- An engine without rules takes the configured name as it stands exactly if the name is left
alone when it is written into the expression. Whatever the name, the engine then allows all to one
role and nothing to any other. -/
theorem superadmin_literal_iff [SizeLimit] (name : String) (m : PathMatcher) :
    ((∃ e, PolicyEngine.new name m = .ok e ∧ ∀ role action path : String, path ≠ "" →
      (e.enforce role action path = .ok true ↔ role = name)) ↔ Superadmin.IsLiteral name) ∧
    ∀ e, PolicyEngine.new name m = .ok e → ∀ calls : List EngineCall, (e.run calls).rules = [] →
      ∀ role action path : String, path ≠ "" →
        (e.run calls).enforce role action path = .ok (role == e.superadminText) := by
  have hdecides (s : Superadmin) {path : String} (hpath : path ≠ "") (role action : String) :
      (bare s m).enforce role action path = .ok (role == s.text) :=
    (bare_inStep s m).enforce_of_no_rules rfl hpath role action
  constructor
  · rw [← Superadmin.comparedText?_eq_self_iff]
    constructor
    · rintro ⟨e, hnew, hname⟩
      obtain ⟨s, rfl, rfl⟩ := of_new hnew
      have hpath : "/" ≠ "" := by decide
      have hallowed := hdecides s hpath s.text "http:GET"
      rw [beq_self_eq_true, hname _ _ _ hpath] at hallowed
      rw [s.compared, hallowed]
    · intro htext
      refine ⟨bare ⟨name, name, htext⟩ m, new_role ⟨name, name, htext⟩ m,
        fun role action path hpath => ?_⟩
      rw [hdecides _ hpath, Except.ok.injEq, beq_iff_eq]
  · intro e hnew calls hrules role action path hpath
    obtain ⟨s, -, rfl⟩ := of_new hnew
    rw [((bare_inStep s m).run calls).enforce_of_no_rules hrules hpath, superadminText,
      (run_fixed (bare s m) calls).1]
    rfl

/-- A dot does no harm where no reference starts before it. -/
theorem dotted_name_taken :
    ∃ e, PolicyEngine.new "ops.admin" .colon = .ok e ∧ ∀ role action path : String, path ≠ "" →
      (e.enforce role action path = .ok true ↔ role = "ops.admin") := by
  have hliteral : Superadmin.IsLiteral "ops.admin" :=
    Superadmin.comparedText?_eq_self_iff.mp (by decide +kernel)
  exact (superadmin_literal_iff "ops.admin" .colon).1.mpr hliteral

/-- Settings that pass their check, with the name of the superadmin left open. -/
def settingsFor (name : String) : Settings where
  listen := {}
  environment := .dev
  serviceName := "turnstile"
  serviceVersion := "1"
  logLevel := "info"
  telemetryUrl := none
  database := ⟨"", 1, 1⟩
  cacheUrl := ""
  tokens := ⟨"", "", "turnstile", 15, 7⟩
  policy := ⟨.http, name, true⟩
  registration := {}
  security := ⟨[], 30⟩

/-- A name that begins with a reference passes the check of the settings, and then another role is
the superadmin; with a name that starts a comment there is no engine at all. -/
theorem names_misread :
    (settingsFor "r.admin").check = .ok () ∧
      (PolicyEngine.new "r.admin" .colon).map (fun e =>
        (e.enforce "r.admin" "http:GET" "/x", e.enforce "r_admin" "http:GET" "/x")) =
          .ok (.ok false, .ok true) ∧
    (settingsFor "admin#1").check = .ok () ∧
      PolicyEngine.new "admin#1" .colon = .error (.internal "policy enforcer:") := by
  refine ⟨?_, ?_, ?_, ?_⟩
  · decide +kernel
  · decide +kernel
  · decide +kernel
  · rfl

end PolicyEngine

end Turnstile
