import Turnstile.Proofs.Regex.Bounded
import Turnstile.Proofs.Regex.Enclosed

/-!
The expression of an anchored group, `^(?:` and `)$`, in which some literals
stand before a text that is a pattern by itself. The literals come before what the
first branch of the pattern matches, and before nothing else.
-/

namespace Turnstile

namespace Regex

/-- No assertion of the expression asks for the character before it. -/
def LooksAhead : Regex → Prop
  | .empty | .chars _ => True
  | .look l => l = .textEnd ∨ l = .lineEnd
  | .cat r s | .alt r s => LooksAhead r ∧ LooksAhead s
  | .loop r _ _ => LooksAhead r

/-- What stands before makes no difference to turns where it makes none to one turn. -/
theorem turns_before {P : Language}
    (hP : ∀ before before' text after, P before text after → P before' text after) {n : Nat}
    {before after : Option Char} {text : List Char} (before' : Option Char)
    (h : Turns P n before text after) : Turns P n before' text after := by
  induction n generalizing before before' text with
  | zero => exact h
  | succ n ih =>
    obtain ⟨u, v, rfl, hturn, hrest⟩ := h
    exact ⟨u, v, rfl, hP _ _ _ _ hturn, ih _ hrest⟩

theorem LooksAhead.matches_before {r : Regex} (hr : r.LooksAhead) {before after : Option Char}
    {text : List Char} (before' : Option Char) (h : r.Matches before text after) :
    r.Matches before' text after := by
  induction r generalizing before before' text after with
  | empty => exact h
  | chars s => exact h
  | look l =>
    obtain ⟨htext, hholds⟩ := h
    rcases hr with rfl | rfl <;> exact ⟨htext, hholds⟩
  | cat r s ihr ihs =>
    obtain ⟨u, v, rfl, h₁, h₂⟩ := h
    exact ⟨u, v, rfl, ihr hr.1 _ h₁, ihs hr.2 _ h₂⟩
  | alt r s ihr ihs =>
    rcases h with h | h
    · exact .inl (ihr hr.1 _ h)
    · exact .inr (ihs hr.2 _ h)
  | loop r min max ih =>
    obtain ⟨n, hmin, hmax, hturns⟩ := h
    have hturn : ∀ before before' text after,
        r.Matches before text after → r.Matches before' text after :=
      fun _ before' _ _ h => ih hr before' h
    exact ⟨n, hmin, hmax, turns_before hturn before' hturns⟩

/-- What stands before the text makes no difference to an expression that looks
ahead. -/
theorem LooksAhead.matches_congr {r : Regex} (hr : r.LooksAhead) (before before' : Option Char)
    {text : List Char} {after : Option Char} :
    r.Matches before text after ↔ r.Matches before' text after :=
  ⟨hr.matches_before before', hr.matches_before before⟩

theorem matches_single {c : Char} {before after : Option Char} {text : List Char} :
    (Regex.chars (.single c)).Matches before text after ↔ text = [c] := by
  have hsame (d : Char) : (CharClass.single c).contains d.toNat = true ↔ d = c := by
    simp only [CharClass.single, CharClass.contains, Text.Ranges.contains_cons,
      Text.Ranges.contains_nil, Bool.or_false, Bool.and_eq_true, decide_eq_true_eq]
    rw [← Char.toNat_inj]
    omega
  unfold Matches
  constructor
  · rintro ⟨d, rfl, hd⟩
    rw [(hsame d).mp hd]
  · rintro rfl
    exact ⟨c, rfl, (hsame c).mpr rfl⟩

theorem matches_single_cat {c : Char} {r : Regex} {before after : Option Char} {text : List Char} :
    (Regex.cat (.chars (.single c)) r).Matches before text after ↔
      ∃ v, text = c :: v ∧ r.Matches (some c) v after := by
  constructor
  · rintro ⟨u, v, rfl, hu, hv⟩
    obtain rfl := matches_single.mp hu
    exact ⟨v, rfl, hv⟩
  · rintro ⟨v, rfl, hv⟩
    exact ⟨[c], v, rfl, matches_single.mpr rfl, hv⟩

end Regex

namespace Pattern

/-! ### Literals before a row -/

/-- Characters that stand for themselves, as pieces of a row, the latest first. -/
def literalRow (cs : List Char) : List Pattern := (cs.map fun c => .literal ⟨c, false⟩).reverse

/-- The character is read as itself outside of sets. -/
def IsOrdinary (c : Char) : Prop :=
  c ∉ ['(', ')', '|', '[', '?', '*', '+', '\x7b', '\\', '.', '^', '$']

instance : DecidablePred IsOrdinary := fun _ => inferInstanceAs (Decidable (_ ∉ _))

theorem isOrdinary_of_isMeta {c : Char} (hc : isMeta c = false) : IsOrdinary c := by
  intro hmem
  simp only [List.mem_cons, List.not_mem_nil, or_false] at hmem
  rcases hmem with rfl | rfl | rfl | rfl | rfl | rfl | rfl | rfl | rfl | rfl | rfl | rfl <;>
    exact absurd hc (by decide)

theorem readPiece_of_isOrdinary {c : Char} (hc : IsOrdinary c) (s : Reading) (rest : List Char) :
    readPiece s c rest = some (s.push (.literal ⟨c, false⟩), rest) := by
  unfold readPiece
  dsimp only
  split
  all_goals first
    | exact absurd (by decide) hc
    | rfl

/-- Characters without a meaning of their own are read one by one. -/
theorem reads_literals {lits cs : List Char} (hlits : ∀ c ∈ lits, IsOrdinary c) {p : Pattern}
    {stack : List Frame} {row : List Pattern} {names : List String}
    (h : Reads ⟨stack, literalRow lits ++ row, false, names⟩ cs p) :
    Reads ⟨stack, row, false, names⟩ (lits ++ cs) p := by
  induction lits generalizing row with
  | nil => exact h
  | cons c lits ih =>
    obtain ⟨hc, hlits⟩ := List.forall_mem_cons.mp hlits
    refine .piece rfl (readPiece_of_isOrdinary hc _ _) (ih hlits ?_)
    simpa [literalRow] using h

/-- Literals before a pattern. -/
def afterLiterals (lits : List Char) (p : Pattern) : Pattern :=
  lits.foldr (fun c acc => .cat (.literal ⟨c, false⟩) acc) p

theorem ofRow_literals (p : Pattern) (row : List Pattern) (lits : List Char) :
    ofRow (p :: row ++ literalRow lits) = afterLiterals lits (ofRow (p :: row)) := by
  rw [List.cons_append, ofRow, List.foldl_append, literalRow, List.foldl_reverse, List.foldr_map]
  rfl

/-- Where the row is empty, the last literal is the row that the others stand
before. -/
theorem ofRow_literals_concat (lits : List Char) (c : Char) :
    ofRow ([] ++ literalRow (lits ++ [c])) = afterLiterals lits (.literal ⟨c, false⟩) := by
  have hrow : literalRow (lits ++ [c]) = .literal ⟨c, false⟩ :: [] ++ literalRow lits := by
    simp [literalRow]
  rw [List.nil_append, hrow, ofRow_literals]
  rfl

/-- What `r` matches has the literals before it in what `r'` matches. -/
def Leads (lits : List Char) (r r' : Regex) : Prop :=
  ∀ before text after, r'.Matches before text after ↔
    ∃ v, text = lits ++ v ∧ r.Matches (lits.getLast?.or before) v after

theorem leads_afterLiterals (lits : List Char) {p : Pattern} {r : Regex} {g : Flags}
    (h : p.toRegexWith? {} = some (r, g)) :
    ∃ r', (afterLiterals lits p).toRegexWith? {} = some (r', g) ∧ Leads lits r r' := by
  induction lits with
  | nil => exact ⟨r, h, fun before text after => by simp⟩
  | cons c lits ih =>
    obtain ⟨r', hr', hmatches⟩ := ih
    refine ⟨.cat (.chars (.single c)) r', ?_, fun before text after => ?_⟩
    · rw [afterLiterals, List.foldr_cons, toRegexWith?, toRegexWith?]
      change (Option.bind (toRegexWith? {} (afterLiterals lits p)) _) = _
      rw [hr']
      rfl
    · rw [Regex.matches_single_cat, Regex.getLast?_cons_or]
      constructor
      · rintro ⟨_, rfl, h⟩
        obtain ⟨v, rfl, hv⟩ := (hmatches _ _ _).mp h
        exact ⟨v, rfl, hv⟩
      · rintro ⟨v, rfl, hv⟩
        exact ⟨lits ++ v, rfl, (hmatches _ _ _).mpr ⟨v, rfl, hv⟩⟩

/-- A row matches after the literals what it matches by itself. -/
theorem leads_row (lits : List Char) {row : List Pattern} {r : Regex} {g : Flags}
    (h : (ofRow row).toRegexWith? {} = some (r, g)) :
    ∃ r', (ofRow (row ++ literalRow lits)).toRegexWith? {} = some (r', g) ∧ Leads lits r r' := by
  cases row with
  | cons p row =>
    rw [ofRow_literals]
    exact leads_afterLiterals lits h
  | nil =>
    cases h
    rcases List.eq_nil_or_concat' lits with rfl | ⟨lits, c, rfl⟩
    · exact ⟨.empty, rfl, fun before text after => by simp⟩
    · obtain ⟨r', hr', hmatches⟩ :=
        leads_afterLiterals lits (p := .literal ⟨c, false⟩) (r := .chars (.single c)) rfl
      rw [ofRow_literals_concat]
      refine ⟨r', hr', fun before text after => ?_⟩
      rw [hmatches]
      simp only [Regex.matches_single]
      simp [Regex.Matches]

theorem depth_afterLiterals_le (lits : List Char) (p : Pattern) :
    (afterLiterals lits p).depth ≤ p.depth + 1 := by
  have h : (afterLiterals lits p).depth ≤ p.depth + 1 ∧
      (afterLiterals lits p = p ∨ (afterLiterals lits p).isCat = true) := by
    induction lits with
    | nil => exact ⟨Nat.le_succ _, .inl rfl⟩
    | cons c lits ih =>
      obtain ⟨hdepth, hsame⟩ := ih
      refine ⟨?_, .inr rfl⟩
      change max 1 (if (afterLiterals lits p).isCat then (afterLiterals lits p).depth
        else (afterLiterals lits p).depth + 1) ≤ _
      split
      · omega
      · rename_i hcat
        obtain hp := hsame.resolve_right hcat
        rw [hp]
        omega
  exact h.1

/-- The row gets no deeper than by one row around it. -/
theorem depth_row_le (row : List Pattern) (lits : List Char) :
    (ofRow (row ++ literalRow lits)).depth ≤ (ofRow row).depth + 1 := by
  cases row with
  | cons p row =>
    rw [ofRow_literals]
    exact depth_afterLiterals_le lits _
  | nil =>
    rcases List.eq_nil_or_concat' lits with rfl | ⟨lits, c, rfl⟩
    · exact Nat.le_succ _
    · rw [ofRow_literals_concat]
      exact depth_afterLiterals_le lits _

/-! ### The pattern in its group -/

theorem isAlt_ofRow {row : List Pattern} (hrow : ∀ q ∈ row, q.isAlt = false) :
    (ofRow row).isAlt = false := by
  have hfold {p : Pattern} {rest : List Pattern} (hp : p.isAlt = false) :
      (rest.foldl (fun acc q => .cat q acc) p).isAlt = false := by
    induction rest generalizing p with
    | nil => exact hp
    | cons q rest ih => exact ih rfl
  cases row with
  | nil => rfl
  | cons p rest => exact hfold (hrow p List.mem_cons_self)

/-- What the expression `r'` of a pattern with the literals before it has to do
with the expression `r` of the pattern by itself. -/
structure Means (lits : List Char) (p : Pattern) (r r' : Regex) : Prop where
  row : p.isAlt = false → ∀ text, r'.Matches none text none ↔
    ∃ v, text = lits ++ v ∧ r.Matches lits.getLast? v none
  /-- The literals come before the first branch only. -/
  branches : p.isAlt = true → ∃ r₁ r₂, r = .alt r₁ r₂ ∧ ∀ text, r'.Matches none text none ↔
    (∃ v, text = lits ++ v ∧ r₁.Matches lits.getLast? v none) ∨ r₂.Matches none text none

theorem means_of_led {lits : List Char} {p q : Pattern} (hled : Led (literalRow lits) p q)
    {r : Regex} {g : Flags} (hr : p.toRegexWith? {} = some (r, g)) :
    ∃ r', q.toRegexWith? {} = some (r', g) ∧ q.depth ≤ p.depth + 1 ∧ Means lits p r r' := by
  cases hled with
  | row hrow =>
    obtain ⟨r', hr', hmatches⟩ := leads_row lits hr
    refine ⟨r', hr', depth_row_le _ _, fun _ text => ?_, fun halt => ?_⟩
    · rw [hmatches, Option.or_none]
    · rw [isAlt_ofRow hrow] at halt
      cases halt
  | first hfirst q =>
    rename_i first
    obtain ⟨⟨r₁, f⟩, hr₁, hr⟩ := Option.bind_eq_some_iff.mp hr
    obtain ⟨⟨r₂, f'⟩, hr₂, hr⟩ := Option.bind_eq_some_iff.mp hr
    cases hr
    obtain ⟨r', hr', hmatches⟩ := leads_row lits hr₁
    refine ⟨.alt r' r₂, ?_, ?_, fun halt => (Bool.false_ne_true halt.symm).elim, fun _ => ?_⟩
    · rw [toRegexWith?, hr']
      change (Option.bind (toRegexWith? f q) _) = _
      rw [hr₂]
      rfl
    · have := depth_row_le first lits
      unfold depth
      omega
    · refine ⟨r₁, r₂, rfl, fun text => ?_⟩
      rw [← Option.or_none (o := lits.getLast?), ← hmatches]
      rfl

/-- The text of a group around literals and a pattern, between the ends. -/
def anchored (lits cs : List Char) : List Char := ['^', '(', '?', ':'] ++ (lits ++ (cs ++ closing))

variable {lits cs : List Char} {p : Pattern} {r : Regex}

theorem reads_anchored (hlits : ∀ c ∈ lits, isMeta c = false) (huncommented : Uncommented {} cs p)
    (hp : Reads {} cs p) :
    ∃ q, Led (literalRow lits) p q ∧
      Reads {} (anchored lits cs)
        (ofRow [.assertion .dollar, .group [] q, .assertion .caret]) := by
  have hinside : ({} : Reading).Inside (literalRow lits) [.assertion .caret]
      ⟨[.group [] [.assertion .caret] false], literalRow lits, false, []⟩ :=
    ⟨rfl, rfl, .row (List.forall_mem_nil _)⟩
  obtain ⟨q, hled, hreads⟩ := hp.enclosed huncommented hinside
  have hordinary := fun c hc => isOrdinary_of_isMeta (hlits c hc)
  refine ⟨q, hled, .piece rfl rfl (.piece rfl rfl (reads_literals hordinary ?_))⟩
  rw [List.append_nil]
  exact hreads

theorem keepsSpace_of_led {q : Pattern} (hled : Led (literalRow lits) p q) (hp : p.KeepsSpace) :
    q.KeepsSpace := by
  have hrow {row : List Pattern} (h : (ofRow row).KeepsSpace) :
      (ofRow (row ++ literalRow lits)).KeepsSpace := by
    rw [keepsSpace_ofRow] at h ⊢
    refine List.forall_mem_append.mpr ⟨h, fun l hl => ?_⟩
    obtain ⟨c, -, rfl⟩ := List.mem_map.mp (List.mem_reverse.mp hl)
    exact trivial
  cases hled with
  | row => exact hrow hp
  | first => exact ⟨hrow hp.1, hp.2⟩

theorem uncommented_start (h : '#' ∈ cs → p.KeepsSpace) : Uncommented {} cs p :=
  fun hmem => ⟨h hmem, rfl, List.forall_mem_nil _⟩

theorem uncommented_anchored (hlits : ∀ c ∈ lits, isMeta c = false) {q : Pattern}
    (hled : Led (literalRow lits) p q) (h : '#' ∈ cs → p.KeepsSpace) :
    Uncommented {} (anchored lits cs)
      (ofRow [.assertion .dollar, .group [] q, .assertion .caret]) := by
  refine uncommented_start fun hmem => ?_
  have hlits' : '#' ∉ lits := fun hmem => absurd (hlits '#' hmem) (by decide)
  have hcs : '#' ∈ cs := by simpa [anchored, closing, hlits'] using hmem
  exact ⟨trivial, ⟨List.not_mem_nil, keepsSpace_of_led hled (h hcs)⟩, trivial⟩

variable [SizeLimit]

/-- A text that is a pattern by itself can be used in the group, unless the whole is too deep or too
large, and means there what it means by itself, but for the literals. -/
theorem compile_anchored (hlits : ∀ c ∈ lits, isMeta c = false) (hspace : '#' ∈ cs → p.KeepsSpace)
    (hp : read? cs = some p) (hr : p.toRegex? = some r) :
    (p.depth + 3 ≤ maxDepth → ∃ a, Regex.compile (anchored lits cs) =
      if SizeLimit.fits (anchored lits cs) then .ok a else .error .tooLarge) ∧
    ∀ a, Regex.compile (anchored lits cs) = .ok a → ∃ r', Means lits p r r' ∧
      ∀ text, a.isMatch text = true ↔ r'.Matches none text none := by
  obtain ⟨⟨r₀, g⟩, hwith, hfirst⟩ := Option.map_eq_some_iff.mp hr
  obtain rfl : r₀ = r := hfirst
  obtain ⟨q, hled, hreads⟩ :=
    reads_anchored hlits (uncommented_start hspace) (reads_of_read? hp).1
  obtain ⟨r', hr', hdepth, hmeans⟩ := means_of_led hled hwith
  have hwhole : (ofRow [.assertion .dollar, .group [] q, .assertion .caret]).toRegex? =
      some (.cat (.look .textStart) (r'.andThen (.look .textEnd))) := by
    change Option.map _ (Option.bind (Option.bind (Option.bind (toRegexWith? {} q) _) _) _) = _
    rw [hr']
    rfl
  refine ⟨fun hdeep => ?_, fun a ha => ⟨r', hmeans, fun text => ?_⟩⟩
  · have hread := read?_of_reads hreads (uncommented_anchored hlits hled hspace) ?_
    · exact ⟨_, Regex.compile_of_read? hread hwhole⟩
    · change max 1 (max (q.depth + 1 + 1) 1) ≤ maxDepth
      omega
  · obtain ⟨p', hp', hr'', -⟩ := Regex.of_compile ha
    obtain rfl := reads_unique (reads_of_read? hp').1 hreads
    obtain rfl := Option.some.inj (hr''.symm.trans hwhole)
    rw [Regex.isMatch_iff (Regex.bounded_of_compile ha), Regex.occurs_anchored]

/-- A group around the text, if it can be used, matches the text. -/
theorem isMatch_anchored (hlits : ∀ c ∈ lits, isMeta c = false) {r : Regex}
    (h : Regex.compile (anchored lits []) = .ok r) : r.isMatch lits = true := by
  obtain ⟨-, hmeans⟩ := compile_anchored (p := .empty) (r := .empty) hlits
    (fun hmem => absurd hmem List.not_mem_nil) rfl rfl
  obtain ⟨r', ⟨hrow, -⟩, hmatch⟩ := hmeans r h
  rw [hmatch, hrow rfl]
  exact ⟨[], by simp, rfl⟩

end Pattern

end Turnstile
