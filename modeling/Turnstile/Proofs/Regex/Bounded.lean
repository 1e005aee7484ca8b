import Turnstile.Proofs.Regex.Matching
import Turnstile.Proofs.Regex.Move

/-!
Loops of a pattern that was read may be left in as many turns as they have to be
taken: the reader refuses other bounds. So every compiled expression is searched
for as it is meant.
-/

namespace Turnstile

namespace Pattern

/-- Every loop may be left in as many turns as it has to be taken. -/
def Bounded : Pattern → Prop
  | .loop p min max => Bounded p ∧ ∀ m, max = some m → min ≤ m
  | .group _ p => Bounded p
  | .alt p q | .cat p q => Bounded p ∧ Bounded q
  | _ => True

theorem bounded_of_isLeaf {p : Pattern} (hp : p.IsLeaf) : p.Bounded := by
  cases p <;> first | exact trivial | exact hp.elim

theorem bounded_ofRow {row : List Pattern} (h : ∀ p ∈ row, p.Bounded) : (ofRow row).Bounded :=
  (ofRow_iff trivial (fun _ _ => Iff.rfl) row).mpr h

theorem bounded_ofBranches {branches : List Pattern} (h : ∀ p ∈ branches, p.Bounded) :
    (ofBranches branches).Bounded :=
  (ofBranches_iff trivial (fun _ _ => Iff.rfl) branches).mpr h

/-- Every pattern in the frame is bounded. -/
def Frame.Bounded : Frame → Prop
  | .group _ before _ => ∀ p ∈ before, p.Bounded
  | .alternatives branches => ∀ p ∈ branches, p.Bounded

namespace Reading

/-- Every pattern read so far is bounded. -/
structure Bounded (s : Reading) : Prop where
  stack : ∀ f ∈ s.stack, f.Bounded
  row : ∀ p ∈ s.row, p.Bounded

namespace Bounded

variable {s s' : Reading}

theorem push (h : s.Bounded) {p : Pattern} (hp : p.Bounded) : (s.push p).Bounded :=
  ⟨h.stack, List.forall_mem_cons.mpr ⟨hp, h.row⟩⟩

theorem bar (h : s.Bounded) : s.bar.Bounded := by
  have hrow := bounded_ofRow h.row
  have hstack := h.stack
  unfold Reading.bar
  split
  · rename_i branches stack hs
    rw [hs, List.forall_mem_cons] at hstack
    exact ⟨List.forall_mem_cons.mpr ⟨List.forall_mem_cons.mpr ⟨hrow, hstack.1⟩, hstack.2⟩,
      List.forall_mem_nil _⟩
  · refine ⟨List.forall_mem_cons.mpr ⟨fun p hp => ?_, hstack⟩,
      List.forall_mem_nil _⟩
    rw [List.mem_singleton.mp hp]
    exact hrow

theorem inner (h : s.Bounded) : s.inner.1.Bounded ∧ ∀ f ∈ s.inner.2, f.Bounded := by
  have hrow := bounded_ofRow h.row
  have hstack := h.stack
  unfold Reading.inner
  split
  · rename_i branches stack hs
    rw [hs, List.forall_mem_cons] at hstack
    exact ⟨bounded_ofBranches (List.forall_mem_cons.mpr ⟨hrow, hstack.1⟩), hstack.2⟩
  · exact ⟨hrow, hstack⟩

theorem closeGroup? (h : s.Bounded) (hs : s.closeGroup? = some s') : s'.Bounded := by
  obtain ⟨hp, hstack⟩ := h.inner
  unfold Reading.closeGroup? at hs
  split at hs
  · rename_i p items before ignoreSpace stack hinner
    rw [hinner] at hp hstack
    rw [List.forall_mem_cons] at hstack
    cases hs
    exact ⟨hstack.2, List.forall_mem_cons.mpr ⟨hp, hstack.1⟩⟩
  · cases hs

theorem openGroup (h : s.Bounded) (flags : List (Flag × Bool)) : (s.openGroup flags).Bounded :=
  ⟨List.forall_mem_cons.mpr ⟨h.row, h.stack⟩, List.forall_mem_nil _⟩

theorem repeatLast? (h : s.Bounded) {min : Nat} {max : Option Nat}
    (hbounds : ∀ m, max = some m → min ≤ m) (hs : s.repeatLast? min max = some s') :
    s'.Bounded := by
  have hrow := h.row
  unfold Reading.repeatLast? at hs
  split at hs
  · cases hs
  · cases hs
  · cases hs
  · rename_i p row hne₁ hne₂ heq
    rw [heq, List.forall_mem_cons] at hrow
    cases hs
    exact ⟨h.stack, List.forall_mem_cons.mpr ⟨⟨hrow.1, hbounds⟩, hrow.2⟩⟩

end Bounded

end Reading

theorem bounded_of_move {s s' : Reading} (hs : s.Bounded) {m : Move} (hm : m.Sound)
    (h : m.make? s = some s') : s'.Bounded := by
  cases m with
  | add p =>
    cases h
    exact hs.push (bounded_of_isLeaf hm)
  | again min max => exact hs.repeatLast? hm h
  | bar =>
    cases h
    exact hs.bar
  | close => exact hs.closeGroup? h
  | group items =>
    cases h
    exact hs.openGroup items
  | named name =>
    rw [Move.make?] at h
    split at h <;> cases h
    have hnamed : ({ s with names := name :: s.names } : Reading).Bounded := ⟨hs.stack, hs.row⟩
    exact hnamed.openGroup []
  | flags items =>
    cases h
    have hflags : (s.push (.flags items)).Bounded := hs.push trivial
    exact ⟨hflags.stack, hflags.row⟩

theorem Reads.bounded {s : Reading} {cs : List Char} {p : Pattern} (h : Reads s cs p)
    (hs : s.Bounded) : p.Bounded := by
  induction h with
  | done _ hinner =>
    have hp := hs.inner.1
    rw [hinner] at hp
    exact hp
  | piece _ hpiece _ ih =>
    obtain ⟨m, hmove, hmake⟩ := readPiece_eq_some.mp hpiece
    exact ih (bounded_of_move hs (sound_of_readMove hmove) hmake)

theorem bounded_of_read? {cs : List Char} {p : Pattern} (h : read? cs = some p) : p.Bounded :=
  (reads_of_read? h).1.bounded
    ⟨List.forall_mem_nil _, List.forall_mem_nil _⟩

/-- The loops of a pattern as it is written are those of the expression. -/
theorem bounded_of_toRegexWith? {p : Pattern} (hp : p.Bounded) {f g : Flags} {r : Regex}
    (h : p.toRegexWith? f = some (r, g)) : r.Bounded := by
  induction p generalizing f g r with
  | empty =>
    cases h
    exact trivial
  | flags items =>
    cases h
    exact trivial
  | literal l =>
    obtain ⟨r', hl, h⟩ := Option.bind_eq_some_iff.mp h
    cases h
    unfold literalRegex? at hl
    split at hl <;> cases hl
    exact trivial
  | dot =>
    rw [toRegexWith?] at h
    split at h <;> cases h
    exact trivial
  | assertion a =>
    cases h
    exact trivial
  | set s =>
    obtain ⟨c, -, h⟩ := Option.bind_eq_some_iff.mp h
    cases h
    exact trivial
  | loop p min max ih =>
    obtain ⟨⟨r', f'⟩, hr, h⟩ := Option.bind_eq_some_iff.mp h
    cases h
    exact ⟨ih hp.1 hr, hp.2⟩
  | group items p ih =>
    obtain ⟨⟨r', f'⟩, hr, h⟩ := Option.bind_eq_some_iff.mp h
    cases h
    exact ih hp hr
  | alt p q ihp ihq =>
    obtain ⟨⟨r', f'⟩, hr, h⟩ := Option.bind_eq_some_iff.mp h
    obtain ⟨⟨s', g'⟩, hs, h⟩ := Option.bind_eq_some_iff.mp h
    cases h
    exact ⟨ihp hp.1 hr, ihq hp.2 hs⟩
  | cat p q ihp ihq =>
    obtain ⟨⟨r', f'⟩, hr, h⟩ := Option.bind_eq_some_iff.mp h
    obtain ⟨⟨s', g'⟩, hs, h⟩ := Option.bind_eq_some_iff.mp h
    cases h
    exact Regex.bounded_andThen.mpr ⟨ihp hp.1 hr, ihq hp.2 hs⟩

end Pattern

/-- Every compiled expression is bounded. -/
theorem Regex.bounded_of_compile [SizeLimit] {cs : List Char} {r : Regex} (h : compile cs = .ok r) :
    r.Bounded := by
  obtain ⟨p, hp, hr, -⟩ := of_compile h
  obtain ⟨⟨r', f⟩, hwith, rfl⟩ := Option.map_eq_some_iff.mp hr
  exact Pattern.bounded_of_toRegexWith? (Pattern.bounded_of_read? hp) hwith

end Turnstile
