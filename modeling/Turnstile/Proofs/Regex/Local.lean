import Turnstile.Proofs.Regex.Move
import Mathlib.Data.List.Basic

/-!
What is read of a pattern does not depend on what stands after it. Every reader
that succeeds takes a start of the text, and takes the same of a longer text
that goes on with the closing of a group. Only a comment could run on into what
follows, so there must be no hash sign where comments are skipped.
-/

namespace Turnstile.Pattern

/-- What closes the group around a whole pattern, and ends the text. -/
def closing : List Char := [')', '$']

/-- Where comments are skipped, the text has no hash sign that could begin one. -/
def Plain (ignoreSpace : Bool) (cs : List Char) : Prop := ignoreSpace = true → '#' ∉ cs

/-- The reader takes a start of a plain text, and takes the same where the closing
follows. -/
def Local {α : Type} (ignoreSpace : Bool) (read : List Char → Option (α × List Char)) : Prop :=
  ∀ cs a rest, Plain ignoreSpace cs → read cs = some (a, rest) →
    rest <:+ cs ∧ read (cs ++ closing) = some (a, rest ++ closing)

section Lists

variable {cs rest : List Char}

theorem Plain.suffix {ws : Bool} (h : Plain ws cs) (hrest : rest <:+ cs) : Plain ws rest :=
  fun hws hmem => h hws (hrest.subset hmem)

theorem Plain.tail {ws : Bool} {c : Char} (h : Plain ws (c :: cs)) : Plain ws cs :=
  h.suffix (List.suffix_cons c cs)

/-- Where a character is found that ends a run, the run does not see what
follows the text. -/
theorem run_closing {p : Char → Bool} (h : cs.dropWhile p ≠ []) :
    (cs ++ closing).takeWhile p = cs.takeWhile p ∧
      (cs ++ closing).dropWhile p = cs.dropWhile p ++ closing := by
  induction cs with
  | nil => exact absurd rfl h
  | cons c cs ih =>
    cases hc : p c with
    | true =>
      rw [List.dropWhile_cons_of_pos hc] at h
      obtain ⟨htake, hdrop⟩ := ih h
      simp [hc, htake, hdrop]
    | false => simp [hc]

/-- A character that does not close a group is found before the closing. -/
theorem cons_of_append_closing {c : Char} (hc : c ≠ ')') (h : cs ++ closing = c :: rest) :
    ∃ rest', cs = c :: rest' ∧ rest = rest' ++ closing := by
  cases cs with
  | nil => exact absurd (List.cons.inj h).1.symm hc
  | cons d cs =>
    obtain ⟨rfl, rfl⟩ := List.cons.inj h
    exact ⟨cs, rfl, rfl⟩

/-- So is a start that closes no group. -/
theorem start_of_append_closing {start : List Char} (hstart : ')' ∉ start)
    (h : cs ++ closing = start ++ rest) :
    ∃ rest', cs = start ++ rest' ∧ rest = rest' ++ closing := by
  induction start generalizing cs with
  | nil => exact ⟨cs, rfl, h.symm⟩
  | cons c start ih =>
    obtain ⟨cs', rfl, h'⟩ := cons_of_append_closing (List.ne_of_not_mem_cons hstart).symm h
    obtain ⟨rest', rfl, hrest⟩ := ih (List.not_mem_of_not_mem_cons hstart) h'.symm
    exact ⟨rest', rfl, hrest⟩

theorem append_closing_ne_nil (cs : List Char) : cs ++ closing = [] → False :=
  fun h => absurd (List.append_eq_nil_iff.mp h).2 (by decide)

/-- A start that a text does not have, it does not have with the closing either. -/
theorem no_start_closing (start : List Char) (hstart : ')' ∉ start)
    (h : ∀ tail, cs = start ++ tail → False) : ∀ tail, cs ++ closing = start ++ tail → False := by
  intro tail heq
  obtain ⟨rest, hrest, -⟩ := start_of_append_closing hstart heq
  exact h rest hrest

end Lists

/-! ### White space -/

section Space

variable {ws : Bool} {cs : List Char}

theorem skipSpace_suffix (ws : Bool) (cs : List Char) : skipSpace ws cs <:+ cs := by
  have hfrom (inComment : Bool) : skipSpaceFrom inComment cs <:+ cs := by
    induction cs generalizing inComment with
    | nil => exact List.suffix_refl []
    | cons c rest ih =>
      unfold skipSpaceFrom
      split
      · exact (ih _).trans (List.suffix_cons c rest)
      · split
        · exact (ih _).trans (List.suffix_cons c rest)
        · split
          · exact (ih _).trans (List.suffix_cons c rest)
          · exact List.suffix_refl _
  unfold skipSpace
  split
  · exact hfrom false
  · exact List.suffix_refl cs

/-- Space is skipped up to the closing, which is none. -/
theorem skipSpace_closing (h : Plain ws cs) :
    skipSpace ws (cs ++ closing) = skipSpace ws cs ++ closing := by
  have hfrom {cs : List Char} (h : '#' ∉ cs) :
      skipSpaceFrom false (cs ++ closing) = skipSpaceFrom false cs ++ closing := by
    induction cs with
    | nil => rfl
    | cons c rest ih =>
      have hc := List.ne_of_not_mem_cons h
      have hrest := List.not_mem_of_not_mem_cons h
      rw [List.cons_append, skipSpaceFrom, skipSpaceFrom, ih hrest]
      simp only [Bool.false_eq_true, if_false, Ne.symm hc]
      split <;> rfl
  unfold skipSpace
  split
  · exact hfrom (h ‹_›)
  · rfl

end Space

/-! ### Escapes -/

section Escapes

variable (ws : Bool)

theorem local_readHexDigits (count n : Nat) : Local ws (readHexDigits ws count n) := by
  intro cs a rest hplain h
  induction count generalizing n cs with
  | zero =>
    cases h
    exact ⟨List.suffix_refl rest, rfl⟩
  | succ count ih =>
    cases cs with
    | nil => cases h
    | cons c cs =>
      obtain ⟨v, hv, h⟩ := Option.bind_eq_some_iff.mp h
      have hcs := Plain.tail hplain
      have hskip := skipSpace_suffix ws cs
      obtain ⟨hrest, hmore⟩ := ih _ _ (Plain.suffix hcs hskip) h
      refine ⟨hrest.trans (hskip.trans (List.suffix_cons c cs)), ?_⟩
      rw [List.cons_append, readHexDigits, hv]
      change readHexDigits ws count (n * 16 + v) (skipSpace ws (cs ++ closing)) = _
      rw [skipSpace_closing hcs, hmore]

theorem local_readBraced : Local ws (readBraced ws) := by
  intro cs a rest hplain h
  unfold readBraced at h
  dsimp only at h
  split at h
  · rename_i c rest' hdrop
    cases h
    have hfound : cs.dropWhile (· ≠ '\x7d') ≠ [] := by
      rw [hdrop]
      exact List.cons_ne_nil _ _
    obtain ⟨htake, hmore⟩ := run_closing hfound
    refine ⟨?_, ?_⟩
    · have hsuffix := List.dropWhile_suffix (l := cs) (p := fun c => decide (c ≠ '\x7d'))
      rw [hdrop] at hsuffix
      exact (List.suffix_cons c rest).trans hsuffix
    · unfold readBraced
      rw [hmore, htake, hdrop]
      rfl
  · cases h

theorem local_readHex (digits : Nat) : Local ws (readHex ws digits) := by
  intro cs a rest hplain h
  have hskip := skipSpace_suffix ws cs
  have hnext := Plain.suffix hplain hskip
  unfold readHex at h ⊢
  rw [skipSpace_closing hplain]
  generalize skipSpace ws cs = next at h hskip hnext ⊢
  split at h
  · rename_i rest'
    obtain ⟨⟨inner, more⟩, hinner, h⟩ := Option.bind_eq_some_iff.mp h
    have hrest' := Plain.tail hnext
    obtain ⟨hmore, hbraced⟩ := local_readBraced ws _ _ _ hrest' hinner
    dsimp only at h
    split at h
    · cases h
    · rename_i hsome
      rw [List.isEmpty_iff] at hsome
      obtain ⟨c, hc, h⟩ := Option.bind_eq_some_iff.mp h
      cases h
      refine ⟨((skipSpace_suffix ws more).trans hmore).trans
        ((List.suffix_cons _ _).trans hskip), ?_⟩
      simp [hbraced, hsome, hc, skipSpace_closing (Plain.suffix hrest' hmore)]
  · rename_i hne
    obtain ⟨⟨n, more⟩, hn, h⟩ := Option.bind_eq_some_iff.mp h
    obtain ⟨c, hc, h⟩ := Option.bind_eq_some_iff.mp h
    cases h
    obtain ⟨hmore, hdigits⟩ := local_readHexDigits ws _ _ _ _ _ hnext hn
    refine ⟨hmore.trans hskip, ?_⟩
    have hne' : ∀ tail, next ++ closing = '\x7b' :: tail → False :=
      no_start_closing ['\x7b'] (by decide) hne
    simp [*]

theorem local_readProperty (negated : Bool) : Local ws (readProperty ws negated) := by
  intro cs a rest hplain h
  have hskip := skipSpace_suffix ws cs
  have hnext := Plain.suffix hplain hskip
  unfold readProperty at h ⊢
  rw [skipSpace_closing hplain]
  generalize skipSpace ws cs = next at h hskip hnext ⊢
  split at h
  · rename_i rest'
    obtain ⟨⟨inner, more⟩, hinner, h⟩ := Option.bind_eq_some_iff.mp h
    have hrest' := Plain.tail hnext
    obtain ⟨hmore, hbraced⟩ := local_readBraced ws _ _ _ hrest' hinner
    dsimp only at h
    generalize hquery : propertyQuery inner = query at h
    cases h
    refine ⟨hmore.trans ((List.suffix_cons _ _).trans hskip), ?_⟩
    simp [hbraced, hquery]
  · cases h
  · rename_i c rest' hbrace hescape
    cases h
    have hrest' := Plain.tail hnext
    refine ⟨(skipSpace_suffix ws rest').trans ((List.suffix_cons _ _).trans hskip), ?_⟩
    rw [List.cons_append]
    split
    · rename_i heq
      exact (hbrace (List.cons.inj heq).1).elim
    · rename_i heq
      exact (hescape (List.cons.inj heq).1).elim
    · rename_i heq
      obtain ⟨rfl, rfl⟩ := List.cons.inj heq
      rw [skipSpace_closing hrest']
    · rename_i heq
      cases heq
  · cases h

theorem local_readWordLook : Local ws (readWordLook ws) := by
  intro cs a rest hplain h
  unfold readWordLook at h ⊢
  split at h
  · rename_i rest'
    have hrest' := Plain.tail hplain
    have hskip := skipSpace_suffix ws rest'
    cases hnext : skipSpace ws rest' with
    | nil =>
      rw [hnext] at h
      cases h
    | cons c more =>
      rw [hnext] at h hskip
      dsimp only at h
      split at h
      · rename_i hname
        cases h
        refine ⟨List.suffix_refl _, ?_⟩
        simp only [List.cons_append, skipSpace_closing hrest', hnext, if_pos hname]
      · rename_i hname
        obtain ⟨⟨inner, more'⟩, hinner, h⟩ := Option.bind_eq_some_iff.mp h
        obtain ⟨hmore, hbraced⟩ :=
          local_readBraced ws _ _ _ (Plain.suffix hrest' hskip) hinner
        rw [List.cons_append] at hbraced
        have hsuffix := (hmore.trans hskip).trans (List.suffix_cons '\x7b' rest')
        dsimp only at h
        split at h <;> cases h <;> refine ⟨hsuffix, ?_⟩ <;>
          simp [skipSpace_closing hrest', *]
  · rename_i hne
    cases h
    refine ⟨List.suffix_refl cs, ?_⟩
    have hne' : ∀ tail, cs ++ closing = '\x7b' :: tail → False :=
      no_start_closing ['\x7b'] (by decide) hne
    simp only [*]

theorem local_readEscape : Local ws (readEscape ws) := by
  intro cs a rest hplain h
  cases cs with
  | nil => cases h
  | cons c cs =>
    have hcs := Plain.tail hplain
    have hcons := List.suffix_cons c cs
    have hshort {k : ShortClass} {negated : Bool}
        (h : some (Escape.set (.short k negated), skipSpace ws cs) = some (a, rest)) :
        rest <:+ c :: cs ∧ some (Escape.set (.short k negated), skipSpace ws (cs ++ closing)) =
          some (a, rest ++ closing) := by
      cases h
      rw [skipSpace_closing hcs]
      exact ⟨(skipSpace_suffix ws cs).trans hcons, rfl⟩
    have hhere {e : Escape} (h : some (e, cs) = some (a, rest)) :
        rest <:+ c :: cs ∧ some (e, cs ++ closing) = some (a, rest ++ closing) := by
      cases h
      exact ⟨hcons, rfl⟩
    have hread {β : Type} {read : List Char → Option (β × List Char)} {f : β → Escape}
        (hread : Local ws read)
        (h : ((read cs).map fun (b, rest) => (f b, rest)) = some (a, rest)) :
        rest <:+ c :: cs ∧ ((read (cs ++ closing)).map fun (b, rest) => (f b, rest)) =
          some (a, rest ++ closing) := by
      obtain ⟨⟨b, rest'⟩, hb, h⟩ := Option.map_eq_some_iff.mp h
      cases h
      obtain ⟨hrest, hmore⟩ := hread _ _ _ hcs hb
      rw [hmore]
      exact ⟨hrest.trans hcons, rfl⟩
    rw [List.cons_append]
    unfold readEscape at h ⊢
    dsimp only at h ⊢
    split at h
    any_goals exact hhere h
    any_goals exact hshort h
    · exact hread (local_readHex ws 2) h
    · exact hread (local_readHex ws 4) h
    · exact hread (local_readHex ws 8) h
    · exact hread (local_readProperty ws false) h
    · exact hread (local_readProperty ws true) h
    · exact hread (f := fun k => .assertion (.word k)) (local_readWordLook ws) h
    · split at h
      · rename_i hescapable
        cases h
        refine ⟨hcons, ?_⟩
        split <;> first | contradiction | rfl
      · cases h

end Escapes

/-! ### Sets in brackets -/

section Sets

variable (ws : Bool)

/-- A character other than that of the closing stands first or not. -/
theorem head?_closing {d : Char} (hd : d ≠ ')') (cs : List Char) :
    ((cs ++ closing).head? == some d) = (cs.head? == some d) := by
  cases cs with
  | nil => simp [closing, Ne.symm hd]
  | cons c cs => rfl

theorem local_readSetItem : Local ws (readSetItem ws) := by
  intro cs a rest hplain h
  cases cs with
  | nil => cases h
  | cons c cs =>
    have hcons := List.suffix_cons c cs
    rw [List.cons_append]
    unfold readSetItem at h ⊢
    split at h
    · rename_i heq
      cases heq
    · rename_i heq
      obtain ⟨rfl, rfl⟩ := List.cons.inj heq
      obtain ⟨hrest, hmore⟩ :=
        local_readEscape ws _ _ _ (Plain.tail hplain) h
      exact ⟨hrest.trans hcons, hmore⟩
    · rename_i hne heq
      obtain ⟨rfl, rfl⟩ := List.cons.inj heq
      cases h
      refine ⟨hcons, ?_⟩
      split
      · rename_i heq
        cases heq
      · rename_i heq
        exact (hne (List.cons.inj heq).1).elim
      · rename_i heq
        obtain ⟨rfl, rfl⟩ := List.cons.inj heq
        rfl

theorem local_readSetRange : Local ws (readSetRange ws) := by
  intro cs a rest hplain h
  obtain ⟨⟨first, rest₁⟩, hfirst, h⟩ := Option.bind_eq_some_iff.mp h
  obtain ⟨hrest₁, hmore₁⟩ := local_readSetItem ws _ _ _ hplain hfirst
  have hplain₁ := Plain.suffix hplain hrest₁
  have hskip := (skipSpace_suffix ws rest₁).trans hrest₁
  unfold readSetRange
  rw [hmore₁]
  dsimp only [Option.bind_eq_bind, Option.bind_some] at h ⊢
  rw [skipSpace_closing hplain₁]
  generalize skipSpace ws rest₁ = next at h hskip ⊢
  split at h
  · cases h
  · rename_i more
    have hplain₂ := Plain.tail (Plain.suffix hplain hskip)
    have hdash := (List.suffix_cons '-' more).trans hskip
    have hmore := (skipSpace_suffix ws more).trans hdash
    have hbracket := head?_closing (show ']' ≠ ')' by decide) (skipSpace ws more)
    have hhyphen := head?_closing (show '-' ≠ ')' by decide) (skipSpace ws more)
    simp only [List.cons_append, skipSpace_closing hplain₂, hbracket, hhyphen]
    split at h
    · rename_i hhead
      obtain ⟨single, hsingle, h⟩ := Option.bind_eq_some_iff.mp h
      cases h
      refine ⟨hskip, ?_⟩
      rw [if_pos hhead, hsingle]
      rfl
    · rename_i hhead
      obtain ⟨⟨second, rest₂⟩, hsecond, h⟩ := Option.bind_eq_some_iff.mp h
      obtain ⟨hrest₂, hmore₂⟩ :=
        local_readSetItem ws _ _ _ (Plain.suffix hplain hmore) hsecond
      rw [if_neg hhead, hmore₂]
      dsimp only [Option.bind_some] at h ⊢
      split at h
      · split at h
        · rename_i hle
          cases h
          rw [if_pos hle]
          exact ⟨hrest₂.trans hmore, rfl⟩
        · cases h
      · cases h
  · rename_i hne hdash
    obtain ⟨single, hsingle, h⟩ := Option.bind_eq_some_iff.mp h
    cases h
    refine ⟨hskip, ?_⟩
    have hne' : rest ++ closing = [] → False := append_closing_ne_nil rest
    have hdash' : ∀ tail, rest ++ closing = '-' :: tail → False :=
      no_start_closing ['-'] (by decide) hdash
    simp only [*]
    rfl

theorem readLeadingHyphens_of_ne {cs : List Char} (h : cs.head? ≠ some '-') (fuel : Nat)
    (parts : List SetPattern) : readLeadingHyphens ws parts fuel cs = (parts, cs) := by
  unfold readLeadingHyphens
  split
  · exact absurd rfl h
  · rfl

theorem readLeadingHyphens_closing {cs : List Char} (hplain : Plain ws cs) {fuel fuel' : Nat}
    (hfuel : cs.length ≤ fuel) (hfuel' : cs.length ≤ fuel') (parts : List SetPattern) :
    (readLeadingHyphens ws parts fuel cs).2 <:+ cs ∧
      readLeadingHyphens ws parts fuel' (cs ++ closing) =
        ((readLeadingHyphens ws parts fuel cs).1,
          (readLeadingHyphens ws parts fuel cs).2 ++ closing) := by
  induction fuel generalizing fuel' cs parts with
  | zero =>
    obtain rfl := List.length_eq_zero_iff.mp (Nat.le_zero.mp hfuel)
    rw [readLeadingHyphens_of_ne ws (by decide), readLeadingHyphens_of_ne ws (by decide)]
    exact ⟨List.suffix_refl _, rfl⟩
  | succ fuel ih =>
    by_cases hhead : cs.head? = some '-'
    · obtain ⟨rest, rfl⟩ := List.head?_eq_some_iff.mp hhead
      cases fuel' with
      | zero => exact absurd hfuel' (by simp)
      | succ fuel' =>
        have hrest := Plain.tail hplain
        have hskip := skipSpace_suffix ws rest
        have hlength := hskip.length_le
        rw [List.length_cons] at hfuel hfuel'
        have henough : (skipSpace ws rest).length ≤ fuel' := by omega
        obtain ⟨hsuffix, hmore⟩ := ih (Plain.suffix hrest hskip) (by omega) henough
          (.literal ⟨'-', false⟩ :: parts)
        rw [List.cons_append, readLeadingHyphens, readLeadingHyphens, skipSpace_closing hrest]
        exact ⟨hsuffix.trans (hskip.trans (List.suffix_cons _ _)), hmore⟩
    · have hhead' : (cs ++ closing).head? ≠ some '-' := by
        have := head?_closing (show '-' ≠ ')' by decide) cs
        intro heq
        simp [heq, hhead] at this
      rw [readLeadingHyphens_of_ne ws hhead, readLeadingHyphens_of_ne ws hhead']
      exact ⟨List.suffix_refl _, rfl⟩

/-- The opening of a bracket from after its caret, if it has one. -/
def readSetStart (negated : Bool) (cs : List Char) :
    Option (Bool × List SetPattern × List Char) :=
  let (parts, cs) := readLeadingHyphens ws [] cs.length cs
  match cs with
  | [] => none
  | ']' :: rest =>
    if parts.isEmpty then
      match skipSpace ws rest with
      | [] => none
      | rest => some (negated, [.literal ⟨']', false⟩], rest)
    else some (negated, parts, cs)
  | cs => some (negated, parts, cs)

/-- A caret that stands first, and what follows it. -/
def splitCaret (after : List Char → List Char) (cs : List Char) : Bool × List Char :=
  match cs with
  | '^' :: rest => (true, after rest)
  | cs => (false, cs)

theorem readSetOpen_eq (cs : List Char) : readSetOpen ws cs =
    readSetStart ws (splitCaret (skipSpace ws) (skipSpace ws cs)).1
      (splitCaret (skipSpace ws) (skipSpace ws cs)).2 := rfl

theorem splitCaret_closing (after : List Char → List Char) (cs : List Char)
    (hafter : ∀ rest, cs = '^' :: rest → after rest <:+ rest ∧
      after (rest ++ closing) = after rest ++ closing) :
    (splitCaret after cs).2 <:+ cs ∧ splitCaret after (cs ++ closing) =
      ((splitCaret after cs).1, (splitCaret after cs).2 ++ closing) := by
  by_cases hcaret : ∃ rest, cs = '^' :: rest
  · obtain ⟨rest, rfl⟩ := hcaret
    obtain ⟨hsuffix, hmore⟩ := hafter rest rfl
    simp only [splitCaret, List.cons_append, hmore, and_true]
    exact hsuffix.trans (List.suffix_cons _ _)
  · have hmarked {more : List Char} (h : ¬ ∃ rest, more = '^' :: rest) :
        splitCaret after more = (false, more) := by
      unfold splitCaret
      split
      · exact absurd ⟨_, rfl⟩ h
      · rfl
    have hcaret' : ¬ ∃ rest, cs ++ closing = '^' :: rest := by
      rintro ⟨rest, heq⟩
      obtain ⟨rest', rfl, -⟩ := cons_of_append_closing (by decide) heq
      exact hcaret ⟨rest', rfl⟩
    rw [hmarked hcaret, hmarked hcaret']
    exact ⟨List.suffix_refl _, rfl⟩

theorem readSetStart_closing {cs rest : List Char} (hplain : Plain ws cs) {negated negated' : Bool}
    {parts : List SetPattern} (h : readSetStart ws negated cs = some (negated', parts, rest)) :
    rest <:+ cs ∧
      readSetStart ws negated (cs ++ closing) = some (negated', parts, rest ++ closing) := by
  obtain ⟨hlead, hmore⟩ := readLeadingHyphens_closing ws hplain (Nat.le_refl _)
    (by simp : cs.length ≤ (cs ++ closing).length) []
  unfold readSetStart at h ⊢
  rw [hmore]
  generalize readLeadingHyphens ws [] cs.length cs = lead at h hlead ⊢
  obtain ⟨parts₁, cs₁⟩ := lead
  dsimp only at h hlead ⊢
  split at h
  · cases h
  · rename_i rest₁
    have hrest₁ := Plain.tail (Plain.suffix hplain hlead)
    have hcons := (List.suffix_cons _ _).trans hlead
    simp only [List.cons_append, skipSpace_closing hrest₁]
    split at h
    · rename_i hparts
      have hskip := skipSpace_suffix ws rest₁
      cases hnext : skipSpace ws rest₁ with
      | nil =>
        rw [hnext] at h
        cases h
      | cons c more =>
        rw [hnext] at h hskip
        cases h
        rw [if_pos hparts]
        exact ⟨hskip.trans hcons, rfl⟩
    · rename_i hparts
      cases h
      rw [if_neg hparts]
      exact ⟨hlead, rfl⟩
  · rename_i hnil hbracket
    cases h
    refine ⟨hlead, ?_⟩
    have hnil' : rest ++ closing = [] → False := append_closing_ne_nil rest
    have hbracket' : ∀ tail, rest ++ closing = ']' :: tail → False :=
      no_start_closing [']'] (by decide) hbracket
    simp only [*]

theorem readSetOpen_closing {cs rest : List Char} (hplain : Plain ws cs) {negated : Bool}
    {parts : List SetPattern} (h : readSetOpen ws cs = some (negated, parts, rest)) :
    rest <:+ cs ∧ readSetOpen ws (cs ++ closing) = some (negated, parts, rest ++ closing) := by
  have hskip := skipSpace_suffix ws cs
  have hnext := Plain.suffix hplain hskip
  have hafter (rest : List Char) (hcaret : skipSpace ws cs = '^' :: rest) :
      skipSpace ws rest <:+ rest ∧
        skipSpace ws (rest ++ closing) = skipSpace ws rest ++ closing := by
    rw [hcaret] at hnext
    exact ⟨skipSpace_suffix ws rest, skipSpace_closing hnext.tail⟩
  obtain ⟨hcaret, hmore⟩ := splitCaret_closing (skipSpace ws) (skipSpace ws cs) hafter
  have hsuffix := hcaret.trans hskip
  rw [readSetOpen_eq] at h ⊢
  obtain ⟨hrest, hstart⟩ := readSetStart_closing ws (Plain.suffix hplain hsuffix) h
  rw [skipSpace_closing hplain, hmore]
  exact ⟨hrest.trans hsuffix, hstart⟩

/-- A named set from after its caret, if it has one. -/
def readAsciiName? (negated : Bool) (cs : List Char) : Option (SetPattern × List Char) :=
  match cs.dropWhile (· ≠ ':') with
  | ':' :: ']' :: after =>
    (AsciiClass.ofName? (String.ofList (cs.takeWhile (· ≠ ':')))).map fun k =>
      (.ascii k negated, after)
  | _ => none

theorem readAsciiClass?_colon (rest : List Char) : readAsciiClass? (':' :: rest) =
    readAsciiName? (splitCaret id rest).1 (splitCaret id rest).2 := rfl

theorem readAsciiName?_suffix {negated : Bool} {cs rest : List Char} {s : SetPattern}
    (h : readAsciiName? negated cs = some (s, rest)) : rest <:+ cs := by
  have hsuffix := List.dropWhile_suffix (l := cs) (p := fun c => decide (c ≠ ':'))
  unfold readAsciiName? at h
  split at h
  · rename_i after hdrop
    obtain ⟨k, -, h⟩ := Option.map_eq_some_iff.mp h
    cases h
    rw [hdrop] at hsuffix
    exact ((List.suffix_cons _ _).trans (List.suffix_cons _ _)).trans hsuffix
  · cases h

theorem readAsciiName?_closing (negated : Bool) (cs : List Char) :
    readAsciiName? negated (cs ++ closing) =
      (readAsciiName? negated cs).map fun (s, rest) => (s, rest ++ closing) := by
  unfold readAsciiName?
  cases hdrop : cs.dropWhile (· ≠ ':') with
  | nil =>
    have hclosing : (cs ++ closing).dropWhile (· ≠ ':') = [] := by
      rw [List.dropWhile_append, hdrop]
      decide
    rw [hclosing]
    rfl
  | cons c more =>
    have hfound : cs.dropWhile (· ≠ ':') ≠ [] := by
      rw [hdrop]
      exact List.cons_ne_nil _ _
    obtain ⟨htake, hmore⟩ := run_closing hfound
    rw [hmore, htake, hdrop]
    -- What stands after the colon decides, and the closing is no bracket.
    split
    · rename_i after heq
      obtain ⟨rfl, hbracket⟩ := List.cons.inj heq
      obtain ⟨after', rfl, rfl⟩ := cons_of_append_closing (by decide) hbracket
      simp [Option.map_map, Function.comp_def]
    · rename_i hne
      split
      · rename_i after heq
        exact (hne (after ++ closing) (by rw [heq]; rfl)).elim
      · rfl

/-- A named set is found, or not found, whatever follows the text. -/
theorem readAsciiClass?_closing (cs : List Char) :
    readAsciiClass? (cs ++ closing) =
      (readAsciiClass? cs).map fun (s, rest) => (s, rest ++ closing) := by
  by_cases hcolon : ∃ rest, cs = ':' :: rest
  · obtain ⟨rest, rfl⟩ := hcolon
    have hmore := (splitCaret_closing id rest
      fun rest _ => ⟨List.suffix_refl rest, rfl⟩).2
    rw [List.cons_append, readAsciiClass?_colon, readAsciiClass?_colon, hmore]
    exact readAsciiName?_closing ..
  · have hnone {more : List Char} (h : ¬ ∃ rest, more = ':' :: rest) :
        readAsciiClass? more = none := by
      unfold readAsciiClass?
      split
      · exact absurd ⟨_, rfl⟩ h
      · rfl
    rw [hnone hcolon, hnone]
    · rfl
    · rintro ⟨rest, heq⟩
      obtain ⟨rest', rfl, -⟩ := cons_of_append_closing (by decide) heq
      exact hcolon ⟨rest', rfl⟩

theorem readAsciiClass?_suffix {cs rest : List Char} {s : SetPattern}
    (h : readAsciiClass? cs = some (s, rest)) : rest <:+ cs := by
  by_cases hcolon : ∃ rest, cs = ':' :: rest
  · obtain ⟨rest', rfl⟩ := hcolon
    have hcaret := (splitCaret_closing id rest'
      fun rest _ => ⟨List.suffix_refl rest, rfl⟩).1
    exact (readAsciiName?_suffix h).trans (hcaret.trans (List.suffix_cons _ _))
  · unfold readAsciiClass? at h
    split at h
    · exact absurd ⟨_, rfl⟩ hcolon
    · cases h

theorem readSetFrom_closing {fuel fuel' : Nat} (hfuel : fuel ≤ fuel') {stack : List SetFrame}
    {parts : List SetPattern} {cs rest : List Char} (hplain : Plain ws cs) {s : SetPattern}
    (h : readSetFrom ws fuel stack parts cs = some (s, rest)) :
    rest <:+ cs ∧
      readSetFrom ws fuel' stack parts (cs ++ closing) = some (s, rest ++ closing) := by
  induction fuel generalizing fuel' stack parts cs with
  | zero => cases h
  | succ fuel ih =>
    obtain ⟨fuel', rfl⟩ : ∃ k, fuel' = k + 1 := ⟨fuel' - 1, by omega⟩
    have hfuel := Nat.le_of_succ_le_succ hfuel
    have hskip := skipSpace_suffix ws cs
    have hnext := Plain.suffix hplain hskip
    unfold readSetFrom at h ⊢
    dsimp only at h ⊢
    rw [skipSpace_closing hplain]
    generalize skipSpace ws cs = next at h hskip hnext ⊢
    -- Every branch but the end of the set goes on with less of the text.
    have hgo {stack : List SetFrame} {parts : List SetPattern} {left : List Char}
        (hleft : left <:+ next) (h : readSetFrom ws fuel stack parts left = some (s, rest)) :
        rest <:+ cs ∧
          readSetFrom ws fuel' stack parts (left ++ closing) = some (s, rest ++ closing) := by
      obtain ⟨hrest, hmore⟩ := ih hfuel (Plain.suffix hnext hleft) h
      exact ⟨hrest.trans (hleft.trans hskip), hmore⟩
    split at h
    · cases h
    · rename_i rest₁
      have hcons : rest₁ <:+ '[' :: rest₁ := List.suffix_cons _ _
      simp only [List.cons_append, readAsciiClass?_closing rest₁]
      split at h
      · rename_i named rest₂ hnamed
        rw [hnamed]
        exact hgo ((readAsciiClass?_suffix hnamed).trans hcons) h
      · rename_i hnamed
        obtain ⟨⟨negated, inner, rest₂⟩, hopen, h⟩ := Option.bind_eq_some_iff.mp h
        obtain ⟨hrest₂, hmore₂⟩ := readSetOpen_closing ws (Plain.tail hnext) hopen
        rw [hnamed]
        dsimp only [Option.map_none]
        rw [hmore₂]
        exact hgo (hrest₂.trans hcons) h
    · rename_i rest₁
      have hcons : rest₁ <:+ ']' :: rest₁ := List.suffix_cons _ _
      simp only [List.cons_append]
      split at h
      · cases h
        exact ⟨hcons.trans hskip, rfl⟩
      · exact hgo hcons h
      · cases h
    · exact hgo ((List.suffix_cons _ _).trans (List.suffix_cons _ _)) h
    · exact hgo ((List.suffix_cons _ _).trans (List.suffix_cons _ _)) h
    · exact hgo ((List.suffix_cons _ _).trans (List.suffix_cons _ _)) h
    · rename_i hnil hopen hclose hinter hdiff hsymm
      obtain ⟨⟨range, rest₁⟩, hrange, h⟩ := Option.bind_eq_some_iff.mp h
      obtain ⟨hrest₁, hmore₁⟩ := local_readSetRange ws _ _ _ hnext hrange
      obtain ⟨hrest, hmore⟩ := hgo hrest₁ h
      refine ⟨hrest, ?_⟩
      have hnil' : next ++ closing = [] → False := append_closing_ne_nil next
      have hopen' : ∀ tail, next ++ closing = '[' :: tail → False :=
        no_start_closing ['['] (by decide) hopen
      have hclose' : ∀ tail, next ++ closing = ']' :: tail → False :=
        no_start_closing [']'] (by decide) hclose
      have hinter' : ∀ tail, next ++ closing = '&' :: '&' :: tail → False :=
        no_start_closing ['&', '&'] (by decide) hinter
      have hdiff' : ∀ tail, next ++ closing = '-' :: '-' :: tail → False :=
        no_start_closing ['-', '-'] (by decide) hdiff
      have hsymm' : ∀ tail, next ++ closing = '~' :: '~' :: tail → False :=
        no_start_closing ['~', '~'] (by decide) hsymm
      simp only [*]
      exact hmore

theorem local_readSet : Local ws (readSet ws) := by
  intro cs a rest hplain h
  obtain ⟨⟨negated, parts, rest₁⟩, hopen, h⟩ := Option.bind_eq_some_iff.mp h
  obtain ⟨hrest₁, hmore₁⟩ := readSetOpen_closing ws hplain hopen
  have hfuel : cs.length + 1 ≤ (cs ++ closing).length + 1 := by simp
  obtain ⟨hrest, hmore⟩ :=
    readSetFrom_closing ws hfuel (Plain.suffix hplain hrest₁) h
  refine ⟨hrest.trans hrest₁, ?_⟩
  unfold readSet
  rw [hmore₁]
  exact hmore

end Sets

/-! ### Groups and repetitions -/

section Groups

variable (ws : Bool)

theorem local_readFlags (items : List (Flag × Bool)) (cleared justCleared : Bool) :
    Local ws (readFlags items cleared justCleared) := by
  intro cs a rest hplain h
  induction cs generalizing items cleared justCleared with
  | nil => cases h
  | cons c cs ih =>
    have hcs := Plain.tail hplain
    have hcons := List.suffix_cons c cs
    rw [List.cons_append]
    unfold readFlags at h ⊢
    split at h
    · rename_i hend
      split at h
      · cases h
      · rename_i hjust
        cases h
        rw [if_pos hend, if_neg hjust]
        exact ⟨List.suffix_refl _, rfl⟩
    · rename_i hend
      rw [if_neg hend]
      split at h
      · rename_i hhyphen
        split at h
        · cases h
        · rename_i hcleared
          obtain ⟨hrest, hmore⟩ := ih _ _ _ hcs h
          rw [if_pos hhyphen, if_neg hcleared]
          exact ⟨hrest.trans hcons, hmore⟩
      · rename_i hhyphen
        rw [if_neg hhyphen]
        split at h
        · cases h
        · rename_i f hf
          split at h
          · cases h
          · rename_i hnew
            obtain ⟨hrest, hmore⟩ := ih _ _ _ hcs h
            rw [if_neg hnew]
            exact ⟨hrest.trans hcons, hmore⟩

theorem local_readGroupName : Local ws readGroupName := by
  intro cs a rest hplain h
  unfold readGroupName at h ⊢
  dsimp only at h ⊢
  split at h
  · rename_i first more c rest' htake hdrop
    have hfound : cs.dropWhile (· ≠ '>') ≠ [] := by
      rw [hdrop]
      exact List.cons_ne_nil _ _
    obtain ⟨htake', hdrop'⟩ := run_closing hfound
    have hsuffix := List.dropWhile_suffix (l := cs) (p := fun c => decide (c ≠ '>'))
    rw [hdrop] at hsuffix
    split at h
    · rename_i hname
      cases h
      rw [htake', hdrop', htake, hdrop]
      dsimp only [List.cons_append]
      rw [if_pos hname]
      exact ⟨(List.suffix_cons _ _).trans hsuffix, rfl⟩
    · cases h
  · cases h

theorem readDigits_suffix (cs : List Char) : (readDigits ws cs).2 <:+ cs := by
  unfold readDigits
  dsimp only
  exact (List.dropWhile_suffix _).trans
    ((List.dropWhile_suffix _).trans (List.dropWhile_suffix _))

theorem readDigits_closing (cs : List Char) (h : (readDigits ws cs).2 ≠ []) :
    readDigits ws (cs ++ closing) = ((readDigits ws cs).1, (readDigits ws cs).2 ++ closing) := by
  have hnil {p : Char → Bool} {cs : List Char} (h : cs.dropWhile p ≠ []) : cs ≠ [] := by
    rintro rfl
    exact h rfl
  unfold readDigits at h ⊢
  dsimp only at h ⊢
  obtain ⟨-, hlast⟩ := run_closing h
  obtain ⟨htake, hdrop⟩ := run_closing (hnil h)
  obtain ⟨-, hfirst⟩ := run_closing (hnil (hnil h))
  rw [hfirst, htake, hdrop, hlast]

theorem readBounds_closing {cs rest : List Char} (hplain : Plain ws cs) {min : Nat}
    {max : Option Nat} (h : readBounds ws cs = some (min, max, rest)) :
    rest <:+ cs ∧ readBounds ws (cs ++ closing) = some (min, max, rest ++ closing) := by
  have hlow := (readDigits_suffix ws (skipSpace ws cs)).trans (skipSpace_suffix ws cs)
  have hlow' := readDigits_closing ws (skipSpace ws cs)
  unfold readBounds at h ⊢
  rw [skipSpace_closing hplain]
  generalize readDigits ws (skipSpace ws cs) = low at h hlow hlow'
  obtain ⟨low, rest₁⟩ := low
  dsimp only at h hlow hlow'
  split at h
  · rename_i rest₂
    have hrest₂ := (List.suffix_cons _ _).trans hlow
    have hplain₂ := Plain.suffix hplain hrest₂
    have hskip := (skipSpace_suffix ws rest₂).trans hrest₂
    have hhigh := (readDigits_suffix ws (skipSpace ws rest₂)).trans hskip
    have hhigh' := readDigits_closing ws (skipSpace ws rest₂)
    rw [hlow' (List.cons_ne_nil _ _)]
    simp only [List.cons_append, skipSpace_closing hplain₂]
    generalize hnext : skipSpace ws rest₂ = next at h hskip hhigh hhigh'
    split at h
    · obtain ⟨n, hn, h⟩ := Option.bind_eq_some_iff.mp h
      cases h
      refine ⟨(List.suffix_cons _ _).trans hskip, ?_⟩
      simp [hn]
    · rename_i hne
      generalize readDigits ws next = high at h hhigh hhigh'
      obtain ⟨high, rest₃⟩ := high
      dsimp only at h hhigh hhigh'
      split at h
      · rename_i rest₄
        obtain ⟨a, ha, h⟩ := Option.bind_eq_some_iff.mp h
        obtain ⟨b, hb, h⟩ := Option.bind_eq_some_iff.mp h
        split at h
        · rename_i hle
          cases h
          refine ⟨(List.suffix_cons _ _).trans hhigh, ?_⟩
          have hne' : ∀ tail, next ++ closing = '\x7d' :: tail → False :=
            no_start_closing ['\x7d'] (by decide) hne
          have hdigits := hhigh' (List.cons_ne_nil _ _)
          simp [*]
        · cases h
      · cases h
  · obtain ⟨n, hn, h⟩ := Option.bind_eq_some_iff.mp h
    cases h
    refine ⟨(List.suffix_cons _ _).trans hlow, ?_⟩
    rw [hlow' (List.cons_ne_nil _ _)]
    simp [hn]
  · cases h

theorem skipLazy_suffix (cs : List Char) : skipLazy cs <:+ cs := by
  unfold skipLazy
  split
  · exact List.suffix_cons _ _
  · exact List.suffix_refl _

theorem skipLazy_closing (cs : List Char) : skipLazy (cs ++ closing) = skipLazy cs ++ closing := by
  unfold skipLazy
  split
  · rename_i rest heq
    obtain ⟨rest', rfl, rfl⟩ := cons_of_append_closing (by decide) heq
    rfl
  · rename_i hne
    split
    · exact (hne _ rfl).elim
    · rfl

theorem local_readNamed : Local ws readNamed := by
  intro cs a rest hplain h
  obtain ⟨⟨name, rest'⟩, hname, heq⟩ := Option.map_eq_some_iff.mp h
  cases heq
  obtain ⟨hrest, hmore⟩ := local_readGroupName ws _ _ _ hplain hname
  refine ⟨hrest, ?_⟩
  unfold readNamed
  rw [hmore]
  rfl

theorem local_readFlagged : Local ws readFlagged := by
  intro cs a rest hplain h
  obtain ⟨⟨items, rest'⟩, hflags, h⟩ := Option.bind_eq_some_iff.mp h
  obtain ⟨hrest', hmore⟩ := local_readFlags ws [] false false _ _ _ hplain hflags
  unfold readFlagged
  rw [hmore, Option.bind_some]
  dsimp only at h ⊢
  split at h
  · cases h
    exact ⟨(List.suffix_cons _ _).trans hrest', rfl⟩
  · split at h
    · cases h
    · rename_i hitems
      cases h
      refine ⟨(List.suffix_cons _ _).trans hrest', ?_⟩
      simp only [List.cons_append, if_neg hitems]
  · cases h

theorem local_readOpening : Local ws (readOpening ws) := by
  intro cs a rest hplain h
  have hskip := skipSpace_suffix ws cs
  have hnext := Plain.suffix hplain hskip
  unfold readOpening at h ⊢
  rw [skipSpace_closing hplain]
  generalize skipSpace ws cs = next at h hskip hnext ⊢
  split at h
  · cases h
  · cases h
  · cases h
  · cases h
  · rename_i more
    obtain ⟨hrest, hmore⟩ := local_readNamed ws _ _ _ (hnext.suffix ⟨['?', 'P', '<'], rfl⟩) h
    exact ⟨hrest.trans (List.IsSuffix.trans ⟨['?', 'P', '<'], rfl⟩ hskip), hmore⟩
  · rename_i more hbehind hbehindNot
    obtain ⟨hrest, hmore⟩ := local_readNamed ws _ _ _ (hnext.suffix ⟨['?', '<'], rfl⟩) h
    refine ⟨hrest.trans (List.IsSuffix.trans ⟨['?', '<'], rfl⟩ hskip), ?_⟩
    have hbehind' : ∀ tail, more ++ closing = '=' :: tail → False :=
      no_start_closing ['='] (by decide) hbehind
    have hbehindNot' : ∀ tail, more ++ closing = '!' :: tail → False :=
      no_start_closing ['!'] (by decide) hbehindNot
    simp only [List.cons_append, *]
  · rename_i more hahead haheadNot hbehind hbehindNot hnamedP hnamed
    obtain ⟨hrest, hmore⟩ := local_readFlagged ws _ _ _ hnext.tail h
    refine ⟨hrest.trans ((List.suffix_cons _ _).trans hskip), ?_⟩
    have hahead' : ∀ tail, more ++ closing = '=' :: tail → False :=
      no_start_closing ['='] (by decide) hahead
    have haheadNot' : ∀ tail, more ++ closing = '!' :: tail → False :=
      no_start_closing ['!'] (by decide) haheadNot
    have hbehind' : ∀ tail, more ++ closing = '<' :: '=' :: tail → False :=
      no_start_closing ['<', '='] (by decide) hbehind
    have hbehindNot' : ∀ tail, more ++ closing = '<' :: '!' :: tail → False :=
      no_start_closing ['<', '!'] (by decide) hbehindNot
    have hnamedP' : ∀ tail, more ++ closing = 'P' :: '<' :: tail → False :=
      no_start_closing ['P', '<'] (by decide) hnamedP
    have hnamed' : ∀ tail, more ++ closing = '<' :: tail → False :=
      no_start_closing ['<'] (by decide) hnamed
    simp only [List.cons_append, *]
  · rename_i hne
    cases h
    refine ⟨hskip, ?_⟩
    have hne' : ∀ tail, rest ++ closing = '?' :: tail → False :=
      no_start_closing ['?'] (by decide) hne
    split
    all_goals first
      | rfl
      | exact (hne' _ ‹_›).elim

/-- A piece asks for the same move where the closing follows. -/
theorem local_readMove (c : Char) : Local ws (readMove ws c) := by
  intro cs a rest hplain h
  have hcs := List.suffix_refl cs
  unfold readMove at h ⊢
  split at h
  · exact local_readOpening ws cs a rest hplain h
  · cases h
    exact ⟨hcs, rfl⟩
  · cases h
    exact ⟨hcs, rfl⟩
  · obtain ⟨⟨chars, rest'⟩, hset, heq⟩ := Option.map_eq_some_iff.mp h
    cases heq
    obtain ⟨hrest, hmore⟩ := local_readSet ws _ _ _ hplain hset
    exact ⟨hrest, by simp [hmore]⟩
  · cases h
    exact ⟨skipLazy_suffix cs, by rw [skipLazy_closing]⟩
  · cases h
    exact ⟨skipLazy_suffix cs, by rw [skipLazy_closing]⟩
  · cases h
    exact ⟨skipLazy_suffix cs, by rw [skipLazy_closing]⟩
  · obtain ⟨⟨min, max, rest'⟩, hbounds, heq⟩ := Option.map_eq_some_iff.mp h
    cases heq
    obtain ⟨hrest, hmore⟩ := readBounds_closing ws hplain hbounds
    refine ⟨(skipLazy_suffix _).trans ((skipSpace_suffix _ _).trans hrest), ?_⟩
    simp [hmore, skipSpace_closing (Plain.suffix hplain hrest), skipLazy_closing]
  · obtain ⟨⟨e, rest'⟩, hescape, heq⟩ := Option.map_eq_some_iff.mp h
    cases heq
    obtain ⟨hrest, hmore⟩ := local_readEscape ws _ _ _ hplain hescape
    exact ⟨hrest, by simp [hmore]⟩
  all_goals
    cases h
    exact ⟨hcs, rfl⟩

end Groups

end Turnstile.Pattern
