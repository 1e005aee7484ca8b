import Turnstile.Proofs.Regex.Local

/-!
White space and comments are skipped only where a flag of the pattern asks for it.
So a pattern without that flag may contain hash signs, and no comment of it can run
on into what follows.
-/

namespace Turnstile.Pattern

/-- No flags of the pattern make white space and comments be skipped. -/
def KeepsSpace : Pattern → Prop
  | .flags items => (.ignoreSpace, true) ∉ items
  | .group items p => (.ignoreSpace, true) ∉ items ∧ KeepsSpace p
  | .loop p _ _ => KeepsSpace p
  | .alt p q | .cat p q => KeepsSpace p ∧ KeepsSpace q
  | _ => True

theorem keepsSpace_ofRow {row : List Pattern} :
    (ofRow row).KeepsSpace ↔ ∀ p ∈ row, p.KeepsSpace :=
  ofRow_iff trivial (fun _ _ => Iff.rfl) row

theorem keepsSpace_ofBranches {branches : List Pattern} :
    (ofBranches branches).KeepsSpace ↔ ∀ p ∈ branches, p.KeepsSpace :=
  ofBranches_iff trivial (fun _ _ => Iff.rfl) branches

/-- Nothing that the frame holds sets the flag. -/
def Frame.KeepsSpace : Frame → Prop
  | .group items before _ => (.ignoreSpace, true) ∉ items ∧ ∀ p ∈ before, p.KeepsSpace
  | .alternatives branches => ∀ p ∈ branches, p.KeepsSpace

/-- Space is kept after the group. -/
def Frame.Spaced : Frame → Prop
  | .group _ _ ignoreSpace => ignoreSpace = false
  | .alternatives _ => True

namespace Reading

/-- Nothing that was read so far sets the flag. -/
structure KeepsSpace (s : Reading) : Prop where
  stack : ∀ f ∈ s.stack, f.KeepsSpace
  row : ∀ p ∈ s.row, p.KeepsSpace

/-- Space is kept now, and after every group that is open. -/
structure Spaced (s : Reading) : Prop where
  here : s.ignoreSpace = false
  stack : ∀ f ∈ s.stack, f.Spaced

/-- Nothing that was read is lost on the way from one state to the other, and space
is skipped only for a flag. -/
def Onward (s s' : Reading) : Prop :=
  s'.KeepsSpace → s.KeepsSpace ∧ (s.Spaced → s'.Spaced)

variable {s s' : Reading}

theorem onward_push (s : Reading) (p : Pattern) : s.Onward (s.push p) := by
  rintro ⟨hstack, hrow⟩
  exact ⟨⟨hstack, (List.forall_mem_cons.mp hrow).2⟩, fun hs => ⟨hs.here, hs.stack⟩⟩

theorem onward_bar (s : Reading) : s.Onward s.bar := by
  obtain ⟨stack, row, ignoreSpace, names⟩ := s
  rintro ⟨hstack, -⟩
  unfold bar at hstack ⊢
  dsimp only at hstack ⊢
  split at hstack
  · rename_i branches stack
    obtain ⟨hbranches, hstack⟩ := List.forall_mem_cons.mp hstack
    obtain ⟨hrow, hbranches⟩ := List.forall_mem_cons.mp hbranches
    refine ⟨⟨List.forall_mem_cons.mpr ⟨hbranches, hstack⟩, keepsSpace_ofRow.mp hrow⟩, ?_⟩
    rintro ⟨hhere, hspaced⟩
    exact ⟨hhere, List.forall_mem_cons.mpr ⟨trivial, (List.forall_mem_cons.mp hspaced).2⟩⟩
  · obtain ⟨hbranches, hstack⟩ := List.forall_mem_cons.mp hstack
    refine ⟨⟨hstack, keepsSpace_ofRow.mp (hbranches _ (List.mem_singleton_self _))⟩, ?_⟩
    rintro ⟨hhere, hspaced⟩
    exact ⟨hhere, List.forall_mem_cons.mpr ⟨trivial, hspaced⟩⟩

/-- What is known of the innermost group is known of its parts. -/
theorem keepsSpace_of_inner {p : Pattern} {stack : List Frame} (h : s.inner = (p, stack))
    (hp : p.KeepsSpace) (hstack : ∀ f ∈ stack, f.KeepsSpace) : s.KeepsSpace := by
  obtain ⟨stack', row, ignoreSpace, names⟩ := s
  unfold inner at h
  dsimp only at h
  split at h <;> cases h
  · obtain ⟨hrow, hbranches⟩ := List.forall_mem_cons.mp (keepsSpace_ofBranches.mp hp)
    exact ⟨List.forall_mem_cons.mpr ⟨hbranches, hstack⟩, keepsSpace_ofRow.mp hrow⟩
  · exact ⟨hstack, keepsSpace_ofRow.mp hp⟩

theorem Spaced.inner (hs : s.Spaced) {p : Pattern} {stack : List Frame}
    (h : s.inner = (p, stack)) : ∀ f ∈ stack, f.Spaced := by
  obtain ⟨stack', row, ignoreSpace, names⟩ := s
  obtain ⟨-, hstack⟩ := hs
  unfold Reading.inner at h
  dsimp only at h hstack
  split at h <;> cases h
  · exact (List.forall_mem_cons.mp hstack).2
  · exact hstack

theorem onward_closeGroup? (h : s.closeGroup? = some s') : s.Onward s' := by
  unfold closeGroup? at h
  split at h
  · rename_i p items before ignoreSpace stack hinner
    cases h
    rintro ⟨hstack, hrow⟩
    obtain ⟨⟨hitems, hp⟩, hbefore⟩ := List.forall_mem_cons.mp hrow
    refine ⟨keepsSpace_of_inner hinner hp
      (List.forall_mem_cons.mpr ⟨⟨hitems, hbefore⟩, hstack⟩), fun hs => ?_⟩
    obtain ⟨hhere, hstack⟩ := List.forall_mem_cons.mp (hs.inner hinner)
    exact ⟨hhere, hstack⟩
  · cases h

/-- Without the flag nothing changes for white space. -/
theorem ignoreSpace_of_not_mem {items : List (Flag × Bool)} (h : (.ignoreSpace, true) ∉ items) :
    ((items.find? (·.1 == .ignoreSpace)).map (·.2)).getD false = false := by
  cases hfind : items.find? (·.1 == .ignoreSpace) with
  | none => rfl
  | some item =>
    obtain ⟨flag, on⟩ := item
    obtain rfl : flag = .ignoreSpace := by simpa using List.find?_some hfind
    cases on with
    | false => rfl
    | true => exact absurd (List.mem_of_find?_eq_some hfind) h

theorem onward_openGroup (s : Reading) (flags : List (Flag × Bool)) :
    s.Onward (s.openGroup flags) := by
  rintro ⟨hstack, -⟩
  obtain ⟨⟨hflags, hrow⟩, hstack⟩ := List.forall_mem_cons.mp hstack
  refine ⟨⟨hstack, hrow⟩, fun hs => ⟨?_, List.forall_mem_cons.mpr ⟨hs.here, hs.stack⟩⟩⟩
  unfold openGroup
  rw [hs.here]
  exact ignoreSpace_of_not_mem hflags

theorem onward_flags (s : Reading) (items : List (Flag × Bool)) :
    s.Onward { s.push (.flags items) with
      ignoreSpace := ((items.find? (·.1 == .ignoreSpace)).map (·.2)).getD s.ignoreSpace } := by
  rintro ⟨hstack, hrow⟩
  obtain ⟨hitems, hrow⟩ := List.forall_mem_cons.mp hrow
  refine ⟨⟨hstack, hrow⟩, fun hs => ⟨?_, hs.stack⟩⟩
  dsimp only
  rw [hs.here]
  exact ignoreSpace_of_not_mem hitems

theorem onward_repeatLast? {min : Nat} {max : Option Nat} (h : s.repeatLast? min max = some s') :
    s.Onward s' := by
  obtain ⟨stack, row, ignoreSpace, names⟩ := s
  unfold repeatLast? at h
  dsimp only at h
  split at h <;> cases h
  rintro ⟨hstack, hrow⟩
  obtain ⟨hp, hrow⟩ := List.forall_mem_cons.mp hrow
  exact ⟨⟨hstack, List.forall_mem_cons.mpr ⟨hp, hrow⟩⟩, fun hs => ⟨hs.here, hs.stack⟩⟩

end Reading

theorem onward_move {s s' : Reading} {m : Move} (h : m.make? s = some s') : s.Onward s' := by
  cases m with
  | add p =>
    cases h
    exact s.onward_push p
  | again min max => exact Reading.onward_repeatLast? h
  | bar =>
    cases h
    exact s.onward_bar
  | close => exact Reading.onward_closeGroup? h
  | group items =>
    cases h
    exact s.onward_openGroup items
  | named name =>
    rw [Move.make?] at h
    split at h <;> cases h
    intro hs'
    obtain ⟨hs, hspaced⟩ := Reading.onward_openGroup { s with names := name :: s.names } [] hs'
    exact ⟨⟨hs.stack, hs.row⟩, fun hs => hspaced ⟨hs.here, hs.stack⟩⟩
  | flags items =>
    cases h
    exact s.onward_flags items

theorem onward_readPiece {s s' : Reading} {c : Char} {cs rest : List Char}
    (h : readPiece s c cs = some (s', rest)) : s.Onward s' := by
  obtain ⟨m, -, hmake⟩ := readPiece_eq_some.mp h
  exact onward_move hmake

theorem Reads.keepsSpace {s : Reading} {cs : List Char} {p : Pattern} (h : Reads s cs p)
    (hp : p.KeepsSpace) : s.KeepsSpace := by
  induction h with
  | done _ hinner =>
    exact Reading.keepsSpace_of_inner hinner hp (List.forall_mem_nil _)
  | piece _ hpiece _ ih => exact (onward_readPiece hpiece (ih hp)).1

/-! ### Reading without comments -/

/-- On the way from here to the pattern no comment begins: there is no hash sign, or
no flag for it. -/
def Uncommented (s : Reading) (cs : List Char) (p : Pattern) : Prop :=
  '#' ∈ cs → p.KeepsSpace ∧ s.Spaced

section Uncommented

variable {s s' : Reading} {cs rest rest' : List Char} {c : Char} {p : Pattern}

theorem Uncommented.plain (h : Uncommented s cs p) : Plain s.ignoreSpace cs := by
  intro hskips hmem
  rw [(h hmem).2.here] at hskips
  cases hskips

/-- A piece is followed by the rest of the text, where no comment begins either. -/
theorem Uncommented.piece (h : Uncommented s cs p) (hnext : skipSpace s.ignoreSpace cs = c :: rest)
    (hpiece : readPiece s c rest = some (s', rest')) (hrest : Reads s' rest' p) :
    rest' <:+ rest ∧ readPiece s c (rest ++ closing) = some (s', rest' ++ closing) ∧
      rest.length < cs.length ∧ Uncommented s' rest' p := by
  have hskip := skipSpace_suffix s.ignoreSpace cs
  rw [hnext] at hskip
  obtain ⟨m, hmove, hmake⟩ := readPiece_eq_some.mp hpiece
  obtain ⟨hsuffix, hmore⟩ := local_readMove _ c _ _ _ (h.plain.suffix hskip).tail hmove
  refine ⟨hsuffix, readPiece_eq_some.mpr ⟨m, hmore, hmake⟩, hskip.length_le, fun hmem => ?_⟩
  obtain ⟨hp, hspaced⟩ :=
    h ((hsuffix.trans ((List.suffix_cons c rest).trans hskip)).subset hmem)
  exact ⟨hp, (onward_readPiece hpiece (hrest.keepsSpace hp)).2 hspaced⟩

/-- Every piece takes some of the text, so the reader never runs out of fuel. -/
theorem readFrom_of_reads (h : Reads s cs p) (huncommented : Uncommented s cs p) {fuel : Nat}
    (hfuel : cs.length ≤ fuel) : readFrom fuel s cs = some p := by
  induction h generalizing fuel with
  | done hend hinner =>
    unfold readFrom
    rw [hend]
    dsimp only
    rw [hinner]
  | piece hnext hpiece hrest ih =>
    obtain ⟨hsuffix, -, hlength, huncommented'⟩ := huncommented.piece hnext hpiece hrest
    have hlength' := hsuffix.length_le
    cases fuel with
    | zero => omega
    | succ fuel =>
      unfold readFrom
      rw [hnext]
      dsimp only
      rw [hpiece]
      exact ih huncommented' (by omega)

theorem read?_of_reads (h : Reads {} cs p) (huncommented : Uncommented {} cs p)
    (hdepth : p.depth ≤ maxDepth) : read? cs = some p := by
  unfold read?
  rw [readFrom_of_reads h huncommented (Nat.le_refl _)]
  exact if_pos hdepth

end Uncommented

end Turnstile.Pattern
