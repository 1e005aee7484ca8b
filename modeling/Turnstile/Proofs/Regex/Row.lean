import Mathlib.Algebra.Ring.Nat
import Turnstile.Proofs.Regex.Anchored

/-!
Rows of simple pieces between the ends of a text, as patterns. What a piece stands for does not
hang on what is around it, so a row matches the texts that fall into one part for each of its
pieces, and a row can be used unless it is too large.
-/

namespace Turnstile

namespace Regex

/-- As many turns of a set as the text is long. -/
theorem turns_chars {s : CharClass} {n : Nat} {before after : Option Char} {text : List Char} :
    Turns (Regex.chars s).Matches n before text after ↔
      text.length = n ∧ ∀ c ∈ text, s.contains c.toNat = true := by
  induction n generalizing before text with
  | zero =>
    rw [Turns, List.length_eq_zero_iff]
    exact ⟨fun h => ⟨h, by simp [h]⟩, And.left⟩
  | succ n ih =>
    constructor
    · rintro ⟨u, v, rfl, ⟨c, rfl, hc⟩, hrest⟩
      obtain ⟨rfl, hall⟩ := ih.mp hrest
      exact ⟨by rw [List.singleton_append, List.length_cons], List.forall_mem_cons.mpr ⟨hc, hall⟩⟩
    · rintro ⟨hlength, hall⟩
      obtain ⟨c, rest, rfl⟩ := List.exists_cons_of_length_eq_add_one hlength
      obtain ⟨hc, hrest⟩ := List.forall_mem_cons.mp hall
      exact ⟨[c], rest, rfl, ⟨c, rfl, hc⟩, ih.mpr ⟨Nat.succ.inj hlength, hrest⟩⟩

theorem matches_loop_chars {s : CharClass} {min : Nat} {before after : Option Char}
    {text : List Char} : (Regex.loop (.chars s) min none).Matches before text after ↔
      min ≤ text.length ∧ ∀ c ∈ text, s.contains c.toNat = true := by
  constructor
  · rintro ⟨n, hmin, -, hturns⟩
    obtain ⟨rfl, hall⟩ := turns_chars.mp hturns
    exact ⟨hmin, hall⟩
  · rintro ⟨hmin, hall⟩
    exact ⟨text.length, hmin, nofun, turns_chars.mpr ⟨rfl, hall⟩⟩

end Regex

namespace Pattern

/-- A piece of a row: how it is written and read, and the texts that it stands for. -/
structure Piece where
  text : List Char
  pattern : Pattern
  regex : Regex
  stands : List Char → Prop
  /-- Only a question mark after the piece could still change it. -/
  reads : ∀ stack row names rest p, '?' ∉ rest →
    Reads ⟨stack, pattern :: row, false, names⟩ rest p →
    Reads ⟨stack, row, false, names⟩ (text ++ rest) p
  firm : '?' ∉ text
  toRegexWith?_eq : pattern.toRegexWith? {} = some (regex, {})
  regex_ne_empty : regex ≠ .empty
  depth_le : pattern.depth ≤ 2
  keepsSpace : pattern.KeepsSpace
  matches_iff : ∀ before text after, regex.Matches before text after ↔ stands text

namespace Piece

/-! ### Pieces -/

/-- A character that stands for itself. -/
def literal (c : Char) (hc : IsOrdinary c) : Piece where
  text := [c]
  pattern := .literal ⟨c, false⟩
  regex := .chars (.single c)
  stands := fun text => text = [c]
  reads := fun _ _ _ _ _ _ h => .piece rfl (readPiece_of_isOrdinary hc _ _) h
  firm := by
    rw [List.mem_singleton]
    rintro rfl
    exact hc (by decide)
  toRegexWith?_eq := rfl
  regex_ne_empty := nofun
  depth_le := Nat.zero_le 2
  keepsSpace := trivial
  matches_iff := fun _ _ _ => Regex.matches_single

/-- One character in the complement of another. -/
theorem contains_compl {c d : Char} :
    (CharClass.compl (.ranges [(c.toNat, c.toNat)])).contains d.toNat = true ↔ d ≠ c := by
  simp only [CharClass.contains, Text.Ranges.contains_cons, Text.Ranges.contains_nil,
    Bool.or_false, Bool.not_eq_true', Bool.and_eq_false_iff, decide_eq_false_iff_not, ne_eq,
    ← Char.toNat_inj]
  omega

/-- A dot stands for any character that does not end the line. -/
def dot : Piece where
  text := ['.']
  pattern := .dot
  regex := .chars (dotClass {})
  stands := fun text => ∃ c, text = [c] ∧ c ≠ '\n'
  reads := fun _ _ _ _ _ _ h => .piece rfl rfl h
  firm := by decide
  toRegexWith?_eq := rfl
  regex_ne_empty := nofun
  depth_le := Nat.zero_le 2
  keepsSpace := trivial
  matches_iff := fun _ _ _ =>
    exists_congr fun _ => and_congr_right fun _ => contains_compl (c := '\n')

/-- A repeated piece is read with its sign, if no question mark follows. -/
theorem reads_loop (sign : Char) (p : Pattern) {min : Nat}
    (hsign : ∀ (s : Reading) (rest : List Char), readPiece s sign rest =
      (s.repeatLast? min none).bind fun s => some (s, skipLazy rest))
    (hp : p ≠ .empty) (hflags : ∀ items, p ≠ .flags items) {stack : List Frame}
    {row : List Pattern} {names : List String} {rest : List Char} {q : Pattern}
    (hrest : '?' ∉ rest) (h : Reads ⟨stack, .loop p min none :: row, false, names⟩ rest q) :
    Reads ⟨stack, p :: row, false, names⟩ (sign :: rest) q := by
  have hlast : (Reading.mk stack (p :: row) false names).repeatLast? min none =
      some ⟨stack, .loop p min none :: row, false, names⟩ := by
    unfold Reading.repeatLast?
    split
    · rename_i hrow
      cases hrow
    · rename_i hrow
      exact absurd (List.cons.inj hrow).1 hp
    · rename_i hrow
      exact absurd (List.cons.inj hrow).1 (hflags _)
    · rename_i hrow
      obtain ⟨rfl, rfl⟩ := List.cons.inj hrow
      rfl
  have hlazy : skipLazy rest = rest := by
    unfold skipLazy
    split
    · exact absurd List.mem_cons_self hrest
    · rfl
  refine .piece rfl ?_ h
  rw [hsign, hlast, hlazy]
  rfl

/-- A dot and a star stand for any text on one line. -/
def anything : Piece where
  text := ['.', '*']
  pattern := .loop .dot 0 none
  regex := .loop (.chars (dotClass {})) 0 none
  stands := fun text => '\n' ∉ text
  reads := fun _ _ _ _ _ hrest h =>
    .piece rfl rfl (reads_loop '*' .dot (fun _ _ => rfl) nofun nofun hrest h)
  firm := by decide
  toRegexWith?_eq := rfl
  regex_ne_empty := nofun
  depth_le := Nat.le_succ 1
  keepsSpace := trivial
  matches_iff := fun _ text _ => by
    rw [Regex.matches_loop_chars]
    have hany : (∀ c ∈ text, (dotClass {}).contains c.toNat = true) ↔ ∀ c ∈ text, c ≠ '\n' :=
      forall₂_congr fun _ _ => contains_compl (c := '\n')
    rw [hany]
    exact ⟨fun h hmem => h.2 _ hmem rfl, fun h => ⟨Nat.zero_le _, fun c hc heq => h (heq ▸ hc)⟩⟩

/-- The repeated complement of the slash stands for a segment that is not empty. -/
def segment : Piece where
  text := "[^/]+".toList
  pattern := .loop (.set (.bracketed (.literal ⟨'/', false⟩) true)) 1 none
  regex := .loop (.chars (.compl (.ranges [('/'.toNat, '/'.toNat)]))) 1 none
  stands := fun text => text ≠ [] ∧ '/' ∉ text
  reads := fun _ _ _ _ _ hrest h =>
    .piece rfl rfl (reads_loop '+' (.set (.bracketed (.literal ⟨'/', false⟩) true))
      (fun _ _ => rfl) nofun nofun hrest h)
  firm := by decide
  toRegexWith?_eq := rfl
  regex_ne_empty := nofun
  depth_le := Nat.le_refl 2
  keepsSpace := trivial
  matches_iff := fun _ text _ => by
    rw [Regex.matches_loop_chars]
    have hany : (∀ c ∈ text, (CharClass.compl (.ranges [('/'.toNat, '/'.toNat)])).contains
        c.toNat = true) ↔ ∀ c ∈ text, c ≠ '/' := forall₂_congr fun _ _ => contains_compl
    rw [hany, Nat.one_le_iff_ne_zero, ne_eq, List.length_eq_zero_iff]
    exact and_congr_right fun _ =>
      ⟨fun h hmem => h _ hmem rfl, fun h c hc heq => h (heq ▸ hc)⟩

end Piece

/-! ### Rows -/

section Row

variable {ps qs : List Piece}

/-- How the pieces of a row are written. -/
def rowText (ps : List Piece) : List Char := ps.flatMap (·.text)

/-- The row up to the end of the text. -/
def rowPattern (ps : List Piece) : Pattern :=
  ps.foldr (fun p q => .cat p.pattern q) (.assertion .dollar)

/-- The expression of a row up to the end of the text. -/
def rowRegex (ps : List Piece) : Regex :=
  ps.foldr (fun p r => .cat p.regex r) (.look .textEnd)

/-- The text falls into one part for each piece. -/
def RowStands : List Piece → List Char → Prop
  | [], text => text = []
  | p :: ps, text => ∃ u v, text = u ++ v ∧ p.stands u ∧ RowStands ps v

theorem rowStands_append {text : List Char} :
    RowStands (ps ++ qs) text ↔ ∃ u v, text = u ++ v ∧ RowStands ps u ∧ RowStands qs v := by
  induction ps generalizing text with
  | nil => simp [RowStands]
  | cons p ps ih =>
    simp only [List.cons_append, RowStands, ih]
    constructor
    · rintro ⟨u, _, rfl, hp, v, w, rfl, hps, hqs⟩
      exact ⟨u ++ v, w, (List.append_assoc u v w).symm, ⟨u, v, rfl, hp, hps⟩, hqs⟩
    · rintro ⟨_, w, rfl, ⟨u, v, rfl, hp, hps⟩, hqs⟩
      exact ⟨u, v ++ w, List.append_assoc u v w, hp, v, w, rfl, hps, hqs⟩

theorem not_mem_rowText (ps : List Piece) : '?' ∉ rowText ps := by
  intro hmem
  obtain ⟨p, -, hp⟩ := List.mem_flatMap.mp hmem
  exact p.firm hp

/-- A row is read piece by piece. -/
theorem reads_row {stack : List Frame} {row : List Pattern} {names : List String}
    {rest : List Char} {q : Pattern} (hrest : '?' ∉ rest)
    (h : Reads ⟨stack, (ps.map (·.pattern)).reverse ++ row, false, names⟩ rest q) :
    Reads ⟨stack, row, false, names⟩ (rowText ps ++ rest) q := by
  induction ps generalizing row with
  | nil => exact h
  | cons p ps ih =>
    have hmore : '?' ∉ rowText ps ++ rest :=
      fun hmem => (List.mem_append.mp hmem).elim (not_mem_rowText ps) hrest
    rw [rowText, List.flatMap_cons, List.append_assoc]
    exact p.reads _ _ _ _ _ hmore (ih (by simpa using h))

theorem reads_row_between (ps : List Piece) :
    Reads {} ('^' :: (rowText ps ++ ['$'])) (.cat (.assertion .caret) (rowPattern ps)) := by
  have hrow : ofRow (.assertion .dollar :: ((ps.map (·.pattern)).reverse ++ [.assertion .caret])) =
      .cat (.assertion .caret) (rowPattern ps) := by
    rw [ofRow, List.foldl_append, List.foldl_reverse, List.foldr_map]
    rfl
  refine .piece rfl rfl (reads_row (by decide) (.piece rfl rfl (.done rfl ?_)))
  exact congrArg (·, []) hrow

theorem keepsSpace_rowPattern (ps : List Piece) : (rowPattern ps).KeepsSpace := by
  induction ps with
  | nil => exact trivial
  | cons p ps ih => exact ⟨p.keepsSpace, ih⟩

theorem depth_rowPattern_le (ps : List Piece) : (rowPattern ps).depth ≤ 3 := by
  have h : (rowPattern ps).depth ≤ 3 ∧
      ((rowPattern ps).depth = 0 ∨ (rowPattern ps).isCat = true) := by
    induction ps with
    | nil => exact ⟨Nat.zero_le 3, .inl rfl⟩
    | cons p ps ih =>
      obtain ⟨hdepth, hcat⟩ := ih
      refine ⟨?_, .inr rfl⟩
      have hp := p.depth_le
      change max (p.pattern.depth + 1) (if (rowPattern ps).isCat then (rowPattern ps).depth
        else (rowPattern ps).depth + 1) ≤ 3
      split
      · omega
      · rename_i hnot
        have := hcat.resolve_right hnot
        omega
  exact h.1

theorem toRegexWith?_rowPattern (ps : List Piece) :
    (rowPattern ps).toRegexWith? {} = some (rowRegex ps, {}) := by
  induction ps with
  | nil => rfl
  | cons p ps ih =>
    have hcat : p.regex.andThen (rowRegex ps) = .cat p.regex (rowRegex ps) := by
      unfold Regex.andThen
      split
      · rename_i hempty
        exact absurd hempty p.regex_ne_empty
      · rfl
    change Option.bind (p.pattern.toRegexWith? {}) _ = _
    rw [p.toRegexWith?_eq]
    change Option.bind ((rowPattern ps).toRegexWith? {}) _ = _
    rw [ih]
    exact congrArg (fun r => some (r, ({} : Flags))) hcat

theorem read?_row (ps : List Piece) : read? ('^' :: (rowText ps ++ ['$'])) =
    some (.cat (.assertion .caret) (rowPattern ps)) := by
  refine read?_of_reads (reads_row_between ps)
    (uncommented_start fun _ => ⟨trivial, keepsSpace_rowPattern ps⟩) ?_
  have hdepth := depth_rowPattern_le ps
  change max 1 (if (rowPattern ps).isCat then (rowPattern ps).depth
    else (rowPattern ps).depth + 1) ≤ 250
  split <;> omega

theorem toRegex?_row (ps : List Piece) :
    (Pattern.cat (.assertion .caret) (rowPattern ps)).toRegex? =
      some (.cat (.look .textStart) (rowRegex ps)) := by
  change Option.map _ (Option.bind ((rowPattern ps).toRegexWith? {}) _) = _
  rw [toRegexWith?_rowPattern]
  rfl

/-- Bytes that a row takes: those of its pieces, and a state for the end. -/
theorem byteSize_rowRegex (classSize : CharClass → Nat) (ps : List Piece) :
    (rowRegex ps).byteSize classSize = (ps.map (·.regex.byteSize classSize)).sum + 32 := by
  induction ps with
  | nil => rfl
  | cons p ps ih =>
    change p.regex.byteSize classSize + (rowRegex ps).byteSize classSize = _
    rw [ih, List.map_cons, List.sum_cons, Nat.add_assoc]

/-- By the estimate a row is small enough if in either direction its pieces are. -/
theorem estimated_fits_row (ps : List Piece) :
    SizeLimit.estimated.fits ('^' :: (rowText ps ++ ['$'])) = true ↔
      (ps.map (·.regex.byteSize CharClass.forwardSize)).sum + 64 ≤ Regex.byteLimit ∧
        (ps.map (·.regex.byteSize CharClass.backwardSize)).sum + 64 ≤ Regex.byteLimit := by
  have hbytes (classSize : CharClass → Nat) :
      (Regex.cat (.look .textStart) (rowRegex ps)).byteSize classSize =
        (ps.map (·.regex.byteSize classSize)).sum + 64 := by
    change 32 + (rowRegex ps).byteSize classSize = _
    rw [byteSize_rowRegex]
    omega
  change ((read? _).bind toRegex?).all Regex.isSmall = true ↔ _
  rw [read?_row, Option.bind_some, toRegex?_row, Option.all_some, Regex.isSmall, hbytes, hbytes,
    Bool.and_eq_true, decide_eq_true_iff, decide_eq_true_iff]

theorem rowText_flatten_replicate (k : Nat) (ps : List Piece) :
    rowText (List.replicate k ps).flatten = (List.replicate k (rowText ps)).flatten := by
  induction k with
  | zero => rfl
  | succ k ih =>
    rw [List.replicate_succ, List.replicate_succ, List.flatten_cons, List.flatten_cons, ← ih]
    exact List.flatMap_append

/-- Copies of a row take as many times the bytes. -/
theorem estimated_fits_replicate (k : Nat) (ps : List Piece) :
    SizeLimit.estimated.fits ('^' :: ((List.replicate k (rowText ps)).flatten ++ ['$'])) = true ↔
      k * (ps.map (·.regex.byteSize CharClass.forwardSize)).sum + 64 ≤ Regex.byteLimit ∧
        k * (ps.map (·.regex.byteSize CharClass.backwardSize)).sum + 64 ≤ Regex.byteLimit := by
  have hsum (classSize : CharClass → Nat) :
      ((List.replicate k ps).flatten.map (·.regex.byteSize classSize)).sum =
        k * (ps.map (·.regex.byteSize classSize)).sum := by
    rw [List.map_flatten, List.sum_flatten, List.map_map, List.map_replicate,
      List.sum_replicate_nat]
    rfl
  rw [← rowText_flatten_replicate, estimated_fits_row, hsum, hsum]

/-- A row matches where the text ends after its parts. -/
theorem matches_rowRegex {before after : Option Char} {text : List Char} :
    (rowRegex ps).Matches before text after ↔ RowStands ps text ∧ after = none := by
  induction ps generalizing before text with
  | nil =>
    change text = [] ∧ after.isNone = true ↔ text = [] ∧ after = none
    rw [Option.isNone_iff_eq_none]
  | cons p ps ih =>
    constructor
    · rintro ⟨u, v, rfl, hp, hrest⟩
      obtain ⟨hps, rfl⟩ := ih.mp hrest
      exact ⟨⟨u, v, rfl, (p.matches_iff _ _ _).mp hp, hps⟩, rfl⟩
    · rintro ⟨⟨u, v, rfl, hp, hps⟩, rfl⟩
      exact ⟨u, v, rfl, (p.matches_iff _ _ _).mpr hp, ih.mpr ⟨hps, rfl⟩⟩

variable [SizeLimit]

/-- A row between the ends can be used exactly if it is not too large. -/
theorem compile_row (ps : List Piece) : Regex.compile ('^' :: (rowText ps ++ ['$'])) =
    if SizeLimit.fits ('^' :: (rowText ps ++ ['$'])) then
      .ok (.cat (.look .textStart) (rowRegex ps))
    else .error .tooLarge :=
  Regex.compile_of_read? (read?_row ps) (toRegex?_row ps)

/-- A row in use matches the texts that fall into its parts. -/
theorem isMatch_row {r : Regex} (h : Regex.compile ('^' :: (rowText ps ++ ['$'])) = .ok r)
    (text : List Char) : r.isMatch text = true ↔ RowStands ps text := by
  rw [Regex.isMatch_iff (Regex.bounded_of_compile h)]
  rw [compile_row] at h
  split at h
  · obtain rfl := Except.ok.inj h
    constructor
    · rintro ⟨u, s, v, rfl, s₁, s₂, rfl, ⟨rfl, hstart⟩, hrest⟩
      obtain ⟨hrow, hend⟩ := matches_rowRegex.mp hrest
      obtain rfl : u = [] := by simpa [Look.holds] using hstart
      obtain rfl : v = [] := by simpa using hend
      simpa using hrow
    · intro hrow
      exact ⟨[], text, [], by simp, [], text, rfl, ⟨rfl, rfl⟩, matches_rowRegex.mpr ⟨hrow, rfl⟩⟩
  · cases h

end Row

/-! ### Texts written as rows -/

/-- The text is a row of pieces that stands for certain texts. -/
def IsRow (text : List Char) (stands : List Char → Prop) : Prop :=
  ∃ ps, rowText ps = text ∧ ∀ t, RowStands ps t ↔ stands t

namespace IsRow

variable {cs ds : List Char} {stands stands' : List Char → Prop}

theorem nil : IsRow [] (· = []) := ⟨[], rfl, fun _ => Iff.rfl⟩

theorem piece (p : Piece) : IsRow p.text p.stands :=
  ⟨[p], List.append_nil p.text, fun t => by simp [RowStands]⟩

theorem congr (h : IsRow cs stands) (hiff : ∀ t, stands t ↔ stands' t) : IsRow cs stands' := by
  obtain ⟨ps, htext, hstands⟩ := h
  exact ⟨ps, htext, fun t => (hstands t).trans (hiff t)⟩

theorem append (h : IsRow cs stands) (h' : IsRow ds stands') :
    IsRow (cs ++ ds) (fun t => ∃ u v, t = u ++ v ∧ stands u ∧ stands' v) := by
  obtain ⟨ps, rfl, hps⟩ := h
  obtain ⟨qs, rfl, hqs⟩ := h'
  refine ⟨ps ++ qs, List.flatMap_append, fun t => ?_⟩
  simp only [rowStands_append, hps, hqs]

/-- Characters without a meaning stand for themselves. -/
theorem literals (h : ∀ c ∈ cs, IsOrdinary c) : IsRow cs (· = cs) := by
  induction cs with
  | nil => exact nil
  | cons c cs ih =>
    obtain ⟨hc, hcs⟩ := List.forall_mem_cons.mp h
    refine ((piece (.literal c hc)).append (ih hcs)).congr fun t => ?_
    constructor
    · rintro ⟨_, _, rfl, rfl, rfl⟩
      rfl
    · rintro rfl
      exact ⟨[c], cs, rfl, rfl, rfl⟩

variable [SizeLimit]

theorem isMatch_iff (h : IsRow cs stands) {r : Regex}
    (hr : Regex.compile ('^' :: (cs ++ ['$'])) = .ok r) (t : List Char) :
    r.isMatch t = true ↔ stands t := by
  obtain ⟨ps, rfl, hstands⟩ := h
  rw [isMatch_row hr, hstands]

/-- Between the ends of a text a row that is small enough can be used. -/
theorem compile_of_fits (h : IsRow cs stands)
    (hfits : SizeLimit.fits ('^' :: (cs ++ ['$'])) = true) :
    ∃ r, Regex.compile ('^' :: (cs ++ ['$'])) = .ok r := by
  obtain ⟨ps, rfl, -⟩ := h
  exact ⟨_, (compile_row ps).trans (if_pos hfits)⟩

end IsRow

end Pattern

end Turnstile
