import Turnstile.Proofs.Regex.Reading

/-!
A piece of a pattern as a move. Which move it is depends on the text alone; what the
move does depends on the groups and rows that are open. So whatever holds all along
the reading of a pattern is shown for the moves.
-/

namespace Turnstile.Pattern

/-- What a piece asks for. -/
inductive Move where
  | add (p : Pattern)
  | again (min : Nat) (max : Option Nat)
  | bar
  | close
  | group (items : List (Flag × Bool))
  | named (name : String)
  | flags (items : List (Flag × Bool))

/-- The state after a move, if it can be made. -/
def Move.make? (s : Reading) : Move → Option Reading
  | .add p => some (s.push p)
  | .again min max => s.repeatLast? min max
  | .bar => some s.bar
  | .close => s.closeGroup?
  | .group items => some (s.openGroup items)
  | .named name =>
    if s.names.contains name then none
    else some ({ s with names := name :: s.names }.openGroup [])
  | .flags items => some { s.push (.flags items) with
      ignoreSpace := ((items.find? (·.1 == .ignoreSpace)).map (·.2)).getD s.ignoreSpace }

/-! ### The move of a piece -/

/-- An escape outside brackets. -/
def ofEscape : Escape → Pattern
  | .literal l => .literal l
  | .assertion a => .assertion a
  | .set chars => .set chars

/-- A named group from its name on. -/
def readNamed (cs : List Char) : Option (Move × List Char) :=
  (readGroupName cs).map fun found => (.named found.1, found.2)

/-- Flags from after the question mark, for a group or for the rest of the one
around them. -/
def readFlagged (cs : List Char) : Option (Move × List Char) :=
  (readFlags [] false false cs).bind fun found =>
    match found.2 with
    | ':' :: rest => some (.group found.1, rest)
    | ')' :: rest => if found.1.isEmpty then none else some (.flags found.1, rest)
    | _ => none

/-- A group from after its parenthesis. -/
def readOpening (ignoreSpace : Bool) (cs : List Char) : Option (Move × List Char) :=
  match skipSpace ignoreSpace cs with
  | '?' :: '=' :: _ | '?' :: '!' :: _ | '?' :: '<' :: '=' :: _ | '?' :: '<' :: '!' :: _ => none
  | '?' :: 'P' :: '<' :: rest => readNamed rest
  | '?' :: '<' :: rest => readNamed rest
  | '?' :: rest => readFlagged rest
  | cs => some (.group [], cs)

/-- The move of a piece that starts with `c`, and the text after it. -/
def readMove (ignoreSpace : Bool) (c : Char) (cs : List Char) : Option (Move × List Char) :=
  match c with
  | '(' => readOpening ignoreSpace cs
  | ')' => some (.close, cs)
  | '|' => some (.bar, cs)
  | '[' => (readSet ignoreSpace cs).map fun found => (.add (.set found.1), found.2)
  | '?' => some (.again 0 (some 1), skipLazy cs)
  | '*' => some (.again 0 none, skipLazy cs)
  | '+' => some (.again 1 none, skipLazy cs)
  | '\x7b' => (readBounds ignoreSpace cs).map fun found =>
      (.again found.1 found.2.1, skipLazy (skipSpace ignoreSpace found.2.2))
  | '\\' => (readEscape ignoreSpace cs).map fun found => (.add (ofEscape found.1), found.2)
  | '.' => some (.add .dot, cs)
  | '^' => some (.add (.assertion .caret), cs)
  | '$' => some (.add (.assertion .dollar), cs)
  | c => some (.add (.literal ⟨c, false⟩), cs)

/-- Make a move, and go on with the text after it. -/
def Move.onto (s : Reading) (found : Move × List Char) : Option (Reading × List Char) :=
  (found.1.make? s).map fun s' => (s', found.2)

theorem repeatLast?_ignoreSpace {s s' : Reading} {min : Nat} {max : Option Nat}
    (h : s.repeatLast? min max = some s') : s'.ignoreSpace = s.ignoreSpace := by
  unfold Reading.repeatLast? at h
  split at h <;> cases h
  rfl

section Pieces

variable (s : Reading) (cs : List Char)

theorem readNamed_bind : (readNamed cs).bind (Move.onto s) =
    (readGroupName cs).bind fun found =>
      if s.names.contains found.1 then none
      else some ({ s with names := found.1 :: s.names }.openGroup [], found.2) := by
  unfold readNamed
  cases readGroupName cs with
  | none => rfl
  | some found =>
    simp only [Option.map_some, Option.bind_some, Move.onto, Move.make?]
    split <;> rfl

theorem readFlagged_bind : (readFlagged cs).bind (Move.onto s) =
    (readFlags [] false false cs).bind fun found =>
      match found.2 with
      | ':' :: rest => some (s.openGroup found.1, rest)
      | ')' :: rest =>
        if found.1.isEmpty then none
        else some ({ s.push (.flags found.1) with
          ignoreSpace :=
            ((found.1.find? (·.1 == .ignoreSpace)).map (·.2)).getD s.ignoreSpace }, rest)
      | _ => none := by
  unfold readFlagged
  cases readFlags [] false false cs with
  | none => rfl
  | some found =>
    obtain ⟨items, rest⟩ := found
    simp only [Option.bind_some]
    split
    · rfl
    · split <;> rfl
    · rfl

theorem readGroup_eq : readGroup s cs = (readOpening s.ignoreSpace cs).bind (Move.onto s) := by
  unfold readGroup readOpening
  dsimp only
  generalize skipSpace s.ignoreSpace cs = next
  -- Both go by the same starts of the text.
  split <;> try simp only [*]
  · rfl
  · rfl
  · rfl
  · rfl
  · exact (readNamed_bind s _).symm
  · exact (readNamed_bind s _).symm
  · exact (readFlagged_bind s _).symm
  · rfl

theorem readPiece_eq (c : Char) :
    readPiece s c cs = (readMove s.ignoreSpace c cs).bind (Move.onto s) := by
  have hmade (made : Option Reading) (rest : List Char) :
      (made.bind fun s' => some (s', rest)) = made.map fun s' => (s', rest) := by
    cases made <;> rfl
  unfold readPiece readMove
  dsimp only
  split
  · exact readGroup_eq s cs
  · exact hmade s.closeGroup? _
  · rfl
  · cases readSet s.ignoreSpace cs <;> rfl
  · exact hmade (s.repeatLast? 0 (some 1)) _
  · exact hmade (s.repeatLast? 0 none) _
  · exact hmade (s.repeatLast? 1 none) _
  · cases readBounds s.ignoreSpace cs with
    | none => rfl
    | some found =>
      obtain ⟨min, max, rest⟩ := found
      -- Repeating changes nothing for the space before what follows.
      change ((s.repeatLast? min max).bind fun s' =>
        some (s', skipLazy (skipSpace s'.ignoreSpace rest))) =
          (s.repeatLast? min max).map fun s' => (s', skipLazy (skipSpace s.ignoreSpace rest))
      cases hlast : s.repeatLast? min max with
      | none => rfl
      | some s' =>
        rw [Option.bind_some, repeatLast?_ignoreSpace hlast]
        rfl
  · cases readEscape s.ignoreSpace cs with
    | none => rfl
    | some found =>
      obtain ⟨e, rest⟩ := found
      cases e <;> rfl
  · rfl
  · rfl
  · rfl
  · try simp only [*]
    rfl

end Pieces

/-- A piece is read where its move can be made. -/
theorem readPiece_eq_some {s s' : Reading} {c : Char} {cs rest : List Char} :
    readPiece s c cs = some (s', rest) ↔
      ∃ m, readMove s.ignoreSpace c cs = some (m, rest) ∧ m.make? s = some s' := by
  rw [readPiece_eq, Option.bind_eq_some_iff]
  constructor
  · rintro ⟨⟨m, rest'⟩, hm, honto⟩
    obtain ⟨s'', hmake, heq⟩ := Option.map_eq_some_iff.mp honto
    obtain ⟨rfl, rfl⟩ := Prod.mk.inj heq
    exact ⟨m, hm, hmake⟩
  · rintro ⟨m, hm, hmake⟩
    refine ⟨(m, rest), hm, ?_⟩
    unfold Move.onto
    rw [hmake]
    rfl

/-! ### Which moves there are -/

/-- The pattern has no parts that are patterns. -/
def IsLeaf : Pattern → Prop
  | .literal _ | .dot | .assertion _ | .set _ => True
  | _ => False

/-- A move that some text asks for: only leaves are added, and the bounds of a
repetition stand in their order. -/
def Move.Sound : Move → Prop
  | .add p => p.IsLeaf
  | .again min max => ∀ m, max = some m → min ≤ m
  | _ => True

/-- The bounds that are read stand in their order. -/
theorem readBounds_le {ignoreSpace : Bool} {cs rest : List Char} {min : Nat} {max : Option Nat}
    (h : readBounds ignoreSpace cs = some (min, max, rest)) : ∀ m, max = some m → min ≤ m := by
  intro m hm
  unfold readBounds at h
  dsimp only at h
  split at h
  · split at h
    · obtain ⟨low, -, h⟩ := Option.bind_eq_some_iff.mp h
      cases h
      cases hm
    · split at h
      · obtain ⟨low, -, h⟩ := Option.bind_eq_some_iff.mp h
        obtain ⟨high, -, h⟩ := Option.bind_eq_some_iff.mp h
        split at h
        · cases h
          cases hm
          assumption
        · cases h
      · cases h
  · obtain ⟨n, -, h⟩ := Option.bind_eq_some_iff.mp h
    cases h
    cases hm
    exact Nat.le_refl _
  · cases h

theorem sound_of_readOpening {ignoreSpace : Bool} {cs rest : List Char} {m : Move}
    (h : readOpening ignoreSpace cs = some (m, rest)) : m.Sound := by
  have hnamed {cs : List Char} (h : readNamed cs = some (m, rest)) : m.Sound := by
    obtain ⟨found, -, heq⟩ := Option.map_eq_some_iff.mp h
    cases heq
    exact trivial
  unfold readOpening at h
  split at h
  · cases h
  · cases h
  · cases h
  · cases h
  · exact hnamed h
  · exact hnamed h
  · obtain ⟨found, -, h⟩ := Option.bind_eq_some_iff.mp h
    split at h
    · cases h
      exact trivial
    · split at h <;> cases h
      exact trivial
    · cases h
  · cases h
    exact trivial

theorem sound_of_readMove {ignoreSpace : Bool} {c : Char} {cs rest : List Char} {m : Move}
    (h : readMove ignoreSpace c cs = some (m, rest)) : m.Sound := by
  unfold readMove at h
  split at h
  · exact sound_of_readOpening h
  · cases h
    exact trivial
  · cases h
    exact trivial
  · obtain ⟨found, -, heq⟩ := Option.map_eq_some_iff.mp h
    cases heq
    exact trivial
  · cases h
    exact fun m hm => Nat.zero_le m
  · cases h
    exact nofun
  · cases h
    exact nofun
  · obtain ⟨found, hbounds, heq⟩ := Option.map_eq_some_iff.mp h
    cases heq
    exact readBounds_le hbounds
  · obtain ⟨⟨e, rest'⟩, -, heq⟩ := Option.map_eq_some_iff.mp h
    cases heq
    cases e <;> exact trivial
  all_goals
    cases h
    exact trivial

end Turnstile.Pattern
