import Turnstile.Regex.Compile

/-!
Reading a pattern piece by piece, without the fuel that the reader counts down.
-/

namespace Turnstile

namespace Pattern

/-- From the state of reading, the rest of the text makes up the pattern. -/
inductive Reads : Reading → List Char → Pattern → Prop
  /-- Nothing is left, and no group is open. -/
  | done {s : Reading} {cs : List Char} {p : Pattern}
      (hend : skipSpace s.ignoreSpace cs = []) (hinner : s.inner = (p, [])) : Reads s cs p
  /-- A piece is read, and then the rest. -/
  | piece {s s' : Reading} {cs rest rest' : List Char} {c : Char} {p : Pattern}
      (hnext : skipSpace s.ignoreSpace cs = c :: rest)
      (hpiece : readPiece s c rest = some (s', rest')) (hrest : Reads s' rest' p) : Reads s cs p

theorem reads_of_readFrom {fuel : Nat} {s : Reading} {cs : List Char} {p : Pattern}
    (h : readFrom fuel s cs = some p) : Reads s cs p := by
  induction fuel generalizing s cs with
  | zero =>
    unfold readFrom at h
    split at h
    · split at h <;> cases h
      exact .done ‹_› ‹_›
    · cases h
  | succ fuel ih =>
    unfold readFrom at h
    split at h
    · split at h <;> cases h
      exact .done ‹_› ‹_›
    · obtain ⟨⟨s', rest⟩, hpiece, hrest⟩ := Option.bind_eq_some_iff.mp h
      exact .piece ‹_› hpiece (ih hrest)

section Rows

variable {P : Pattern → Prop}

/-- What holds of a row put together in pairs holds of every piece. -/
theorem foldl_iff {f : Pattern → Pattern → Pattern} (hf : ∀ p q, P (f p q) ↔ P p ∧ P q)
    (p : Pattern) (rest : List Pattern) :
    P (rest.foldl (fun acc q => f q acc) p) ↔ P p ∧ ∀ q ∈ rest, P q := by
  induction rest generalizing p with
  | nil => simp
  | cons q rest ih =>
    rw [List.foldl_cons, ih, hf, List.forall_mem_cons]
    exact ⟨fun ⟨⟨hq, hp⟩, hrest⟩ => ⟨hp, hq, hrest⟩, fun ⟨hp, hq, hrest⟩ => ⟨⟨hq, hp⟩, hrest⟩⟩

theorem ofRow_iff (hempty : P .empty) (hcat : ∀ p q, P (.cat p q) ↔ P p ∧ P q)
    (row : List Pattern) : P (ofRow row) ↔ ∀ p ∈ row, P p := by
  cases row with
  | nil => exact ⟨fun _ => List.forall_mem_nil P, fun _ => hempty⟩
  | cons p rest => rw [ofRow, foldl_iff hcat, List.forall_mem_cons]

theorem ofBranches_iff (hempty : P .empty) (halt : ∀ p q, P (.alt p q) ↔ P p ∧ P q)
    (branches : List Pattern) : P (ofBranches branches) ↔ ∀ p ∈ branches, P p := by
  cases branches with
  | nil => exact ⟨fun _ => List.forall_mem_nil P, fun _ => hempty⟩
  | cons p rest => rw [ofBranches, foldl_iff halt, List.forall_mem_cons]

end Rows

/-- A text reads as one pattern only. -/
theorem reads_unique {s : Reading} {cs : List Char} {p q : Pattern} (hp : Reads s cs p)
    (hq : Reads s cs q) : p = q := by
  induction hp with
  | done hend hinner =>
    cases hq with
    | done _ hinner' => exact (Prod.mk.inj (hinner.symm.trans hinner')).1
    | piece hnext => cases hend.symm.trans hnext
  | piece hnext hpiece _ ih =>
    cases hq with
    | done hend => cases hend.symm.trans hnext
    | piece hnext' hpiece' hrest' =>
      obtain ⟨rfl, rfl⟩ := List.cons.inj (hnext.symm.trans hnext')
      obtain ⟨rfl, rfl⟩ := Prod.mk.inj (Option.some.inj (hpiece.symm.trans hpiece'))
      exact ih hrest'

/-- A text that is a pattern reads as it, and the pattern is not too deep. -/
theorem reads_of_read? {cs : List Char} {p : Pattern} (h : read? cs = some p) :
    Reads {} cs p ∧ p.depth ≤ maxDepth := by
  obtain ⟨q, hread, h⟩ := Option.bind_eq_some_iff.mp h
  split at h <;> cases h
  exact ⟨reads_of_readFrom hread, ‹_›⟩

end Pattern

namespace Regex

variable [SizeLimit] {cs : List Char} {r : Regex}

/-- A pattern that is read and stands for an expression can be used as far as it is small enough. -/
theorem compile_of_read? {p : Pattern} (hp : Pattern.read? cs = some p) (hr : p.toRegex? = some r) :
    compile cs = if SizeLimit.fits cs then .ok r else .error .tooLarge := by
  unfold compile
  rw [hp, Option.bind_some, hr]

/-- The pattern of the empty text can be used. -/
theorem compile_ends : compile ['^', '$'] = .ok (.cat (.look .textStart) (.look .textEnd)) :=
  (compile_of_read? rfl rfl).trans (if_pos SizeLimit.fits_ends)

/-- A text that can be used is a pattern that stands for an expression, and small enough. -/
theorem of_compile (h : compile cs = .ok r) :
    ∃ p, Pattern.read? cs = some p ∧ p.toRegex? = some r ∧ SizeLimit.fits cs = true := by
  unfold compile at h
  split at h
  · cases h
  · rename_i r' hr
    obtain ⟨p, hp, hr⟩ := Option.bind_eq_some_iff.mp hr
    split at h <;> cases h
    exact ⟨p, hp, hr, ‹_›⟩

end Regex

end Turnstile
