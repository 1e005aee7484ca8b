import Turnstile.Proofs.Regex.Spacing

/-!
What becomes of a pattern that is written after some literals and inside a
group of its own: `^(?:` and the literals before it, `)$` after it. A text that is
a pattern by itself is read there piece by piece in the same way. But the literals
belong to its first branch only, since a bar binds more loosely than a row.
-/

namespace Turnstile.Pattern

theorem isAlt_of_isLeaf {p : Pattern} (hp : p.IsLeaf) : p.isAlt = false := by
  cases p <;> first | rfl | exact hp.elim

/-- Open groups and rows while a text is read by itself, and while it is read
after `lead`, inside a group that is opened after the row `outer`. -/
inductive Inside (lead outer : List Pattern) :
    List Frame → List Pattern → List Frame → List Pattern → Prop
  /-- The first row goes on from the literals. -/
  | row {row : List Pattern} (hrow : ∀ q ∈ row, q.isAlt = false) :
      Inside lead outer [] row [.group [] outer false] (row ++ lead)
  /-- The first row has ended at a bar. -/
  | branches {first : List Pattern} (hfirst : ∀ q ∈ first, q.isAlt = false)
      (more row : List Pattern) :
      Inside lead outer [.alternatives (more ++ [ofRow first])] row
        [.alternatives (more ++ [ofRow (first ++ lead)]), .group [] outer false] row
  /-- A group is open around the row. -/
  | group {stack stack' : List Frame} {before before' : List Pattern}
      (h : Inside lead outer stack before stack' before') (flags : List (Flag × Bool))
      (ignoreSpace : Bool) (row : List Pattern) :
      Inside lead outer (.group flags before ignoreSpace :: stack) row
        (.group flags before' ignoreSpace :: stack') row
  /-- So is one around alternatives. -/
  | alternatives {stack stack' : List Frame} {before before' : List Pattern}
      (h : Inside lead outer stack before stack' before') (flags : List (Flag × Bool))
      (ignoreSpace : Bool) (branches row : List Pattern) :
      Inside lead outer (.alternatives branches :: .group flags before ignoreSpace :: stack) row
        (.alternatives branches :: .group flags before' ignoreSpace :: stack') row

theorem Inside.push {lead outer row row' : List Pattern} {stack stack' : List Frame}
    (h : Inside lead outer stack row stack' row') {p : Pattern} (hp : p.isAlt = false) :
    Inside lead outer stack (p :: row) stack' (p :: row') := by
  cases h with
  | row hrow => exact .row (List.forall_mem_cons.mpr ⟨hp, hrow⟩)
  | branches hfirst more row => exact .branches hfirst more (p :: row)
  | group h flags ignoreSpace row => exact .group h flags ignoreSpace (p :: row)
  | alternatives h flags ignoreSpace branches row =>
    exact .alternatives h flags ignoreSpace branches (p :: row)

/-- What was read last is the same in both. -/
theorem Inside.tail {lead outer row row' : List Pattern} {stack stack' : List Frame} {p : Pattern}
    (h : Inside lead outer stack (p :: row) stack' row') :
    ∃ rest, row' = p :: rest ∧ Inside lead outer stack row stack' rest := by
  cases h with
  | row hrow => exact ⟨row ++ lead, rfl, .row (List.forall_mem_cons.mp hrow).2⟩
  | branches hfirst more => exact ⟨row, rfl, .branches hfirst more row⟩
  | group h flags ignoreSpace => exact ⟨row, rfl, .group h flags ignoreSpace row⟩
  | alternatives h flags ignoreSpace branches =>
    exact ⟨row, rfl, .alternatives h flags ignoreSpace branches row⟩

/-- The pattern of a text by itself, and the one after `lead`. -/
inductive Led (lead : List Pattern) : Pattern → Pattern → Prop
  | row {row : List Pattern} (hrow : ∀ q ∈ row, q.isAlt = false) :
      Led lead (ofRow row) (ofRow (row ++ lead))
  | first {first : List Pattern} (hfirst : ∀ q ∈ first, q.isAlt = false) (q : Pattern) :
      Led lead (.alt (ofRow first) q) (.alt (ofRow (first ++ lead)) q)

theorem ofBranches_concat (p q : Pattern) (more : List Pattern) :
    ofBranches (p :: (more ++ [q])) = .alt q (more.foldl (fun acc q => .alt q acc) p) := by
  rw [ofBranches, List.foldl_append]
  rfl

namespace Reading

/-- The states of reading a text by itself and inside. -/
structure Inside (lead outer : List Pattern) (s t : Reading) : Prop where
  ignoreSpace : t.ignoreSpace = s.ignoreSpace
  names : t.names = s.names
  frames : Pattern.Inside lead outer s.stack s.row t.stack t.row

namespace Inside

variable {lead outer : List Pattern} {s t : Reading}

theorem push (h : s.Inside lead outer t) {p : Pattern} (hp : p.isAlt = false) :
    (s.push p).Inside lead outer (t.push p) :=
  ⟨h.ignoreSpace, h.names, h.frames.push hp⟩

theorem bar (h : s.Inside lead outer t) : s.bar.Inside lead outer t.bar := by
  obtain ⟨hspace, hnames, hframes⟩ := h
  obtain ⟨stack, row, ignoreSpace, names⟩ := s
  obtain ⟨stack', row', ignoreSpace', names'⟩ := t
  dsimp only at hframes
  cases hframes with
  | row hrow => exact ⟨hspace, hnames, .branches hrow [] []⟩
  | branches hfirst more => exact ⟨hspace, hnames, .branches hfirst (ofRow row :: more) []⟩
  | group h flags ignoreSpace => exact ⟨hspace, hnames, .alternatives h flags ignoreSpace _ []⟩
  | alternatives h flags ignoreSpace branches =>
    exact ⟨hspace, hnames, .alternatives h flags ignoreSpace _ []⟩

theorem closeGroup? {s' : Reading} (h : s.Inside lead outer t)
    (hclose : s.closeGroup? = some s') :
    ∃ t', t.closeGroup? = some t' ∧ s'.Inside lead outer t' := by
  obtain ⟨hspace, hnames, hframes⟩ := h
  obtain ⟨stack, row, ignoreSpace, names⟩ := s
  obtain ⟨stack', row', ignoreSpace', names'⟩ := t
  dsimp only at hframes
  cases hframes with
  -- By itself the text has no group open here.
  | row => cases hclose
  | branches => cases hclose
  | group h =>
    cases hclose
    exact ⟨_, rfl, rfl, hnames, h.push rfl⟩
  | alternatives h =>
    cases hclose
    exact ⟨_, rfl, rfl, hnames, h.push rfl⟩

theorem openGroup (h : s.Inside lead outer t) (flags : List (Flag × Bool)) :
    (s.openGroup flags).Inside lead outer (t.openGroup flags) := by
  refine ⟨?_, h.names, ?_⟩
  · unfold Reading.openGroup
    rw [h.ignoreSpace]
  · unfold Reading.openGroup
    rw [h.ignoreSpace]
    exact h.frames.group flags s.ignoreSpace []

theorem repeatLast? {s' : Reading} (h : s.Inside lead outer t) {min : Nat} {max : Option Nat}
    (hlast : s.repeatLast? min max = some s') :
    ∃ t', t.repeatLast? min max = some t' ∧ s'.Inside lead outer t' := by
  obtain ⟨hspace, hnames, hframes⟩ := h
  obtain ⟨stack, row, ignoreSpace, names⟩ := s
  obtain ⟨stack', row', ignoreSpace', names'⟩ := t
  unfold Reading.repeatLast? at hlast
  dsimp only at hframes hlast
  split at hlast
  · cases hlast
  · cases hlast
  · cases hlast
  -- There is a piece to repeat in both rows, and it is the same.
  · rename_i p row hempty hflags
    cases hlast
    obtain ⟨rest, rfl, hrest⟩ := hframes.tail
    refine ⟨⟨stack', .loop p min max :: rest, ignoreSpace', names'⟩, ?_, hspace, hnames,
      hrest.push rfl⟩
    unfold Reading.repeatLast?
    simp only [*]

theorem make? {s' : Reading} (h : s.Inside lead outer t) {m : Move} (hm : m.Sound)
    (hmake : m.make? s = some s') : ∃ t', m.make? t = some t' ∧ s'.Inside lead outer t' := by
  cases m with
  | add p =>
    cases hmake
    exact ⟨_, rfl, h.push (isAlt_of_isLeaf hm)⟩
  | again min max => exact h.repeatLast? hmake
  | bar =>
    cases hmake
    exact ⟨_, rfl, h.bar⟩
  | close => exact h.closeGroup? hmake
  | group items =>
    cases hmake
    exact ⟨_, rfl, h.openGroup items⟩
  | named name =>
    rw [Move.make?] at hmake ⊢
    split at hmake
    · cases hmake
    · rename_i hnew
      cases hmake
      have hwith : ({ s with names := name :: s.names } : Reading).Inside lead outer
          { t with names := name :: t.names } :=
        ⟨h.ignoreSpace, congrArg (name :: ·) h.names, h.frames⟩
      rw [h.names, if_neg hnew]
      rw [h.names] at hwith
      exact ⟨_, rfl, hwith.openGroup []⟩
  | flags items =>
    cases hmake
    refine ⟨_, rfl, ?_, h.names, h.frames.push rfl⟩
    dsimp only
    rw [h.ignoreSpace]

/-- A piece is read inside as it is read by itself. -/
theorem readPiece {s' : Reading} (h : s.Inside lead outer t) {c : Char} {cs rest : List Char}
    (hread : Pattern.readPiece s c cs = some (s', rest)) :
    ∃ t', Pattern.readPiece t c cs = some (t', rest) ∧ s'.Inside lead outer t' := by
  obtain ⟨m, hmove, hmake⟩ := readPiece_eq_some.mp hread
  obtain ⟨t', hmake', hinside⟩ := h.make? (sound_of_readMove hmove) hmake
  rw [← h.ignoreSpace] at hmove
  exact ⟨t', readPiece_eq_some.mpr ⟨m, hmove, hmake'⟩, hinside⟩

/-- At the end of the text the innermost group is the one that was opened before
the literals. -/
theorem inner {p : Pattern} (h : s.Inside lead outer t) (hinner : s.inner = (p, [])) :
    ∃ q, Led lead p q ∧ t.inner = (q, [.group [] outer false]) := by
  obtain ⟨hspace, hnames, hframes⟩ := h
  obtain ⟨stack, row, ignoreSpace, names⟩ := s
  obtain ⟨stack', row', ignoreSpace', names'⟩ := t
  dsimp only at hframes
  cases hframes with
  | row hrow =>
    cases hinner
    exact ⟨_, .row hrow, rfl⟩
  | branches hfirst more =>
    obtain rfl : ofBranches (ofRow row :: (more ++ [ofRow _])) = p := (Prod.mk.inj hinner).1
    refine ⟨_, ?_, rfl⟩
    rw [ofBranches_concat, ofBranches_concat]
    exact .first hfirst _
  | group => cases hinner
  | alternatives => cases hinner

end Inside

end Reading

/-- A text that reads by itself reads inside as well, up to the closing. -/
theorem Reads.enclosed {lead outer : List Pattern} {s t : Reading} {cs : List Char} {p : Pattern}
    (h : Reads s cs p) (huncommented : Uncommented s cs p) (hinside : s.Inside lead outer t) :
    ∃ q, Led lead p q ∧
      Reads t (cs ++ closing) (ofRow (.assertion .dollar :: .group [] q :: outer)) := by
  induction h generalizing t with
  | done hend hinner =>
    rename_i s cs p
    obtain ⟨q, hled, hinner'⟩ := hinside.inner hinner
    have hnext : skipSpace t.ignoreSpace (cs ++ closing) = ')' :: ['$'] := by
      rw [hinside.ignoreSpace, skipSpace_closing huncommented.plain, hend]
      rfl
    have hclose : readPiece t ')' ['$'] =
        some (⟨[], .group [] q :: outer, false, t.names⟩, ['$']) := by
      change (t.closeGroup?.bind fun t' => some (t', ['$'])) = _
      unfold Reading.closeGroup?
      rw [hinner']
      rfl
    exact ⟨q, hled, .piece hnext hclose (.piece rfl rfl (.done rfl rfl))⟩
  | piece hnext hpiece hrest ih =>
    obtain ⟨-, hmore, -, huncommented'⟩ := huncommented.piece hnext hpiece hrest
    obtain ⟨t', hpiece', hinside'⟩ := hinside.readPiece hmore
    obtain ⟨q, hled, hrest'⟩ := ih huncommented' hinside'
    refine ⟨q, hled, .piece ?_ hpiece' hrest'⟩
    rw [hinside.ignoreSpace, skipSpace_closing huncommented.plain, hnext]
    rfl

end Turnstile.Pattern
