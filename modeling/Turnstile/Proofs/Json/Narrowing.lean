import Mathlib.Data.List.Basic
import Turnstile.Proofs.Except
import Turnstile.Proofs.Json.Writing
import Turnstile.Json.Shape

/-!
The same text read with fewer members. What a record leaves out is passed over instead of read, and
passing over refuses less than reading does: it takes numbers of any size and strings with half a
pair of escapes. So a text that is read by a shape is read by a shape of some of its members.
-/

namespace Turnstile

namespace Json

/-! ### Passing over -/

/-- A half of a pair that may wait is dealt with in the same way where halves are dropped. -/
theorem pushUnit_skip {before : List Char} {high : Option Nat} {n : Nat}
    {pushed : List Char × Option Nat} (h : pushUnit false before high n = some pushed) :
    pushUnit true before high n = some pushed := by
  unfold pushUnit at h ⊢
  cases high with
  | some first =>
    dsimp only at h ⊢
    split at h
    · rename_i hlow
      rw [if_pos hlow]
      exact h
    · cases h
  | none =>
    dsimp only at h ⊢
    split at h
    · rename_i hhigh
      rw [if_pos hhigh]
      exact h
    · rename_i hhigh
      split at h
      · cases h
      · rename_i hlow
        rw [if_neg hhigh, if_neg hlow]
        exact h

/-- A string that is read is passed over up to the same place. -/
theorem readStringAt_skip {before : List Char} {high : Option Nat} {place : StringPlace}
    {cs : List Char} {r : String × List Char}
    (h : readStringAt false before high place cs = .ok r) :
    readStringAt true before high place cs = .ok r := by
  induction cs generalizing before high place with
  | nil =>
    rw [readStringAt] at h
    cases h
  | cons c rest ih =>
    cases place with
    | between =>
      rw [readStringAt] at h ⊢
      split at h
      · rename_i hescape
        rw [if_pos hescape]
        exact ih h
      · rename_i hescape
        rw [if_neg hescape, if_neg (by simp)]
        split at h
        · cases h
        · split at h
          · rename_i hquote
            rw [if_pos hquote]
            exact h
          · rename_i hquote
            rw [if_neg hquote]
            split at h
            · cases h
            · rename_i hcontrol
              rw [if_neg hcontrol]
              exact ih h
    | escape =>
      rw [readStringAt] at h ⊢
      split at h
      · rename_i hunit
        rw [if_pos hunit]
        exact ih h
      · rename_i hunit
        rw [if_neg hunit]
        cases hplain : plainEscape? c with
        | none =>
          rw [hplain] at h
          cases h
        | some d =>
          rw [hplain] at h
          dsimp only at h ⊢
          rw [if_neg (by simp)]
          split at h
          · cases h
          · exact ih h
    | digits left value =>
      rw [readStringAt] at h ⊢
      cases hvalue : hexValue? c with
      | none =>
        rw [hvalue] at h
        cases h
      | some v =>
        rw [hvalue] at h
        dsimp only at h ⊢
        split at h
        · rename_i hlast
          rw [if_pos hlast]
          cases hpush : pushUnit false before high (value * 16 + v) with
          | none =>
            rw [hpush] at h
            cases h
          | some pushed =>
            rw [hpush] at h
            rw [pushUnit_skip hpush]
            exact ih h
        · rename_i hlast
          rw [if_neg hlast]
          exact ih h

/-- A value that starts with a quotation mark is a string. -/
theorem skipValue_of_quoted {cs rest rest' : List Char} {s : String}
    (hstart : skipSpace cs = '"' :: rest) (h : readStringFrom false rest = .ok (s, rest')) :
    skipValue cs = .ok rest' := by
  have hskip : readStringFrom true rest = .ok (s, rest') := readStringAt_skip h
  unfold skipValue
  rw [readValue, hstart]
  simp only [hskip]
  rfl

theorem readMembers_end {skip first : Bool} {fuel : Nat} {cs rest : List Char}
    (h : skipSpace cs = '\x7d' :: rest) : readMembers skip (fuel + 1) first cs = .ok ([], rest) := by
  rw [readMembers, h]
  rfl

theorem readMembers_first {skip : Bool} {fuel : Nat} {cs quoted colon value more rest : List Char}
    {name : String} {j : Json} {js : List (String × Json)} (hstart : skipSpace cs = '"' :: quoted)
    (hname : readStringFrom skip quoted = .ok (name, colon)) (hcolon : skipSpace colon = ':' :: value)
    (hvalue : readValue skip fuel value = .ok (j, more))
    (hmore : readMembers skip fuel false more = .ok (js, rest)) :
    readMembers skip (fuel + 1) true cs = .ok ((name, j) :: js, rest) := by
  rw [readMembers, hstart]
  change (readStringFrom skip quoted >>= _) = _
  rw [hname]
  simp only [bind, Except.bind, hcolon, hvalue, hmore]
  rfl

end Json

namespace Shape

open Json

/-- What the shape reads can be passed over. -/
def Skips (shape : Shape) : Prop :=
  ∀ (fuel : Nat) (cs : List Char) (j : Json) (rest : List Char),
    readFrom fuel shape cs = .ok (j, rest) → skipValue cs = .ok rest

theorem of_readText {cs rest : List Char} {s : String} (h : readText cs = .ok (s, rest)) :
    ∃ quoted, skipSpace cs = '"' :: quoted ∧ readStringFrom false quoted = .ok (s, rest) := by
  unfold readText at h
  split at h
  · exact ⟨_, ‹_›, h⟩
  · cases h

theorem skips_text : Skips .text := by
  intro fuel cs j rest h
  cases fuel with
  | zero => cases h
  | succ fuel =>
    rw [readFrom] at h
    obtain ⟨r, hread, hr⟩ := of_map_ok h
    cases hr
    obtain ⟨quoted, hstart, hquoted⟩ := of_readText hread
    exact skipValue_of_quoted hstart hquoted

/-- Where a text was read, any value that is read is a text. -/
theorem any_of_text {fuel fuel' : Nat} {cs rest rest' : List Char} {j j' : Json}
    (h : readFrom fuel .text cs = .ok (j, rest)) (h' : readFrom fuel' .any cs = .ok (j', rest')) :
    ∃ s, j' = .str s := by
  cases fuel with
  | zero => cases h
  | succ fuel =>
    cases fuel' with
    | zero => cases h'
    | succ fuel' =>
      rw [readFrom] at h
      obtain ⟨r, hread, -⟩ := of_map_ok h
      obtain ⟨quoted, hstart, -⟩ := of_readText hread
      rw [readFrom, Json.readStart, readValue, hstart] at h'
      obtain ⟨r', -, hr'⟩ := of_map_ok h'
      cases hr'
      exact ⟨r'.1, rfl⟩

theorem of_readInt {low high : Int} {cs rest : List Char} {n : Int}
    (h : readInt low high cs = .ok (n, rest)) :
    ∃ c more t, skipSpace cs = c :: more ∧ (c = '-' ∨ c.isDigit = true) ∧
      readNumber (c :: more) = .ok (t, rest) := by
  unfold readInt at h
  split at h
  · rename_i c more hstart
    split at h
    · rename_i hc
      obtain ⟨⟨t, rest'⟩, hnumber, h⟩ := of_bind_ok h
      refine ⟨c, more, t, hstart, by simpa using hc, hnumber.trans ?_⟩
      dsimp only at h
      split at h
      · cases h
      · split at h
        · split at h
          · cases h
            rfl
          · cases h
        · cases h
    · cases h
  · cases h

theorem skips_int (low high : Int) : Skips (.int low high) := by
  intro fuel cs j rest h
  cases fuel with
  | zero => cases h
  | succ fuel =>
    rw [readFrom] at h
    obtain ⟨r, hread, hr⟩ := of_map_ok h
    cases hr
    obtain ⟨c, more, t, hstart, hc, hnumber⟩ := of_readInt hread
    have hvalue := readValue_of_number hc true (2 * cs.length + 1) more
    rw [hnumber] at hvalue
    have hspace : readValue true (2 * cs.length + 2) cs =
        readValue true (2 * cs.length + 2) (c :: more) := by
      rw [readValue, readValue, hstart, skipSpace_cons (isSpace_of_number hc)]
    unfold skipValue
    rw [hspace, hvalue]
    simp [bind, Except.bind, pure, Except.pure, Except.map]

/-- A name stands by itself or as the only member of an object, which is null. -/
theorem of_readChoice {names : List String} {cs rest : List Char} {s : String}
    (h : readChoice names cs = .ok (s, rest)) :
    (∃ quoted, skipSpace cs = '"' :: quoted ∧ readStringFrom false quoted = .ok (s, rest)) ∨
      ∃ member name colon word word' close, skipSpace cs = '\x7b' :: member ∧
        readText member = .ok (name, colon) ∧ skipSpace colon = ':' :: word ∧
        skipSpace word = 'n' :: word' ∧ readWord "ull".toList word' = .ok ((), close) ∧
        skipSpace close = '\x7d' :: rest := by
  unfold readChoice at h
  split at h
  · rename_i quoted hstart
    obtain ⟨r, hquoted, h⟩ := of_bind_ok h
    refine .inl ⟨quoted, hstart, hquoted.trans ?_⟩
    dsimp only at h
    split at h
    · cases h
      rfl
    · cases h
  · rename_i member hstart
    obtain ⟨⟨name, colon⟩, htext, h⟩ := of_bind_ok h
    dsimp only at h
    split at h
    · cases h
    · split at h
      · rename_i word hcolon
        split at h
        · rename_i word' hword
          obtain ⟨⟨⟨⟩, close⟩, hnull, h⟩ := of_bind_ok h
          dsimp only at h
          split at h
          · rename_i hclose
            cases h
            exact .inr ⟨member, _, colon, word, word', close, hstart, htext, hcolon, hword,
              hnull, hclose⟩
          · cases h
        · cases h
      · cases h
  · cases h

theorem skips_choice (names : List String) : Skips (.choice names) := by
  intro fuel cs j rest h
  cases fuel with
  | zero => cases h
  | succ fuel =>
    rw [readFrom] at h
    obtain ⟨r, hread, hr⟩ := of_map_ok h
    cases hr
    rcases of_readChoice hread with ⟨quoted, hstart, hquoted⟩ |
      ⟨member, name, colon, word, word', close, hstart, htext, hcolon, hword, hnull, hclose⟩
    · exact skipValue_of_quoted hstart hquoted
    · obtain ⟨quoted, hquote, hname⟩ := of_readText htext
      -- There are characters, so there is fuel for the member and for its value.
      obtain ⟨k, hk⟩ : ∃ k, 2 * cs.length + 2 = k + 3 := by
        cases cs with
        | nil => cases hstart
        | cons c cs => exact ⟨2 * cs.length + 1, by simp; omega⟩
      have hvalue : readValue true (k + 1) word = .ok (.null, close) := by
        rw [readValue, hword]
        simp only [hnull]
        rfl
      have hmembers := readMembers_first hquote (readStringAt_skip hname) hcolon hvalue
        (readMembers_end hclose)
      unfold skipValue
      rw [hk, readValue, hstart]
      simp only [hmembers]
      rfl

/-- The shapes of values that are not made of parts. -/
def isScalar : Shape → Bool
  | .text | .int _ _ | .choice _ => true
  | _ => false

theorem skips_of_isScalar {shape : Shape} (h : shape.isScalar = true) : shape.Skips := by
  cases shape with
  | text => exact skips_text
  | int low high => exact skips_int low high
  | choice names => exact skips_choice names
  | any | bool | time | list | optional | record => cases h

/-! ### One member after the other -/

section Step

variable {members : List (String × Shape × Bool)} {found : List (String × Json)} {first : Bool}
  {fuel : Nat} {cs value : List Char} {name : String}

theorem readNamed_stop (h : nextMember first cs = .ok none) :
    readNamed (fuel + 1) members found first cs = .ok (found, (skipSpace cs).drop 1) := by
  rw [readNamed, h]
  rfl

/-- What follows the name of a member that the record names. -/
theorem readNamed_read {named : List Char} (h : nextMember first cs = .ok (some (name, named)))
    (hcolon : readColon named = .ok value) {m : String × Shape × Bool}
    (hm : members.find? (·.1 == name) = some m) (hnew : found.any (·.1 == name) = false) :
    readNamed (fuel + 1) members found first cs = (do
      let (j, rest) ← readFrom fuel m.2.1 value
      readNamed fuel members (found ++ [(name, j)]) false rest) := by
  rw [readNamed, h]
  simp only [bind, Except.bind, hm, hnew, hcolon, Bool.false_eq_true, if_false]

/-- What follows the name of any other member. -/
theorem readNamed_pass {named : List Char} (h : nextMember first cs = .ok (some (name, named)))
    (hcolon : readColon named = .ok value) (hm : members.find? (·.1 == name) = none) :
    readNamed (fuel + 1) members found first cs = (do
      let rest ← skipValue value
      readNamed fuel members found false rest) := by
  rw [readNamed, h]
  simp only [bind, Except.bind, hm, hcolon]

/-- A member that is read has a name and a colon, and does not stand there for a second time. -/
theorem of_readNamed {r : List (String × Json) × List Char}
    (h : readNamed (fuel + 1) members found first cs = .ok r) :
    nextMember first cs = .ok none ∨ ∃ name named value,
      nextMember first cs = .ok (some (name, named)) ∧ readColon named = .ok value ∧
        ((members.find? (·.1 == name)).isSome = true → found.any (·.1 == name) = false) := by
  rw [readNamed] at h
  obtain ⟨next, hnext, h⟩ := of_bind_ok h
  cases next with
  | none => exact .inl hnext
  | some member =>
    obtain ⟨name, named⟩ := member
    dsimp only at h
    cases hm : members.find? (·.1 == name) with
    | none =>
      rw [hm] at h
      obtain ⟨value, hcolon, -⟩ := of_bind_ok h
      exact .inr ⟨name, named, value, hnext, hcolon, fun hsome => by cases hm ▸ hsome⟩
    | some m =>
      rw [hm] at h
      dsimp only at h
      split at h
      · cases h
      · rename_i hnew
        obtain ⟨value, hcolon, -⟩ := of_bind_ok h
        exact .inr ⟨name, named, value, hnext, hcolon, fun _ => eq_false_of_ne_true hnew⟩

end Step

/-! ### Fewer members -/

section Narrowed

variable {members : List (String × Shape × Bool)} {keep : String → Bool}

/-- Members whose names are kept. -/
def narrowed {α : Type} (keep : String → Bool) (xs : List (String × α)) : List (String × α) :=
  xs.filter fun x => keep x.1

theorem find?_narrowed {α : Type} (keep : String → Bool) (xs : List (String × α)) (name : String) :
    (narrowed keep xs).find? (·.1 == name) =
      if keep name = true then xs.find? (·.1 == name) else none := by
  unfold narrowed
  rw [List.find?_filter]
  split
  · rename_i hkeep
    refine congrArg (xs.find? ·) (funext fun x => ?_)
    by_cases hname : x.1 = name
    · simp [hname, hkeep]
    · simp [hname]
  · rename_i hdrop
    refine List.find?_eq_none.mpr fun x _ h => ?_
    simp only [beq_iff_eq, decide_eq_true_eq] at h
    exact hdrop (h.2 ▸ h.1)

theorem narrowed_concat {α : Type} (xs : List (String × α)) (name : String) (a : α) :
    narrowed keep (xs ++ [(name, a)]) =
      if keep name = true then narrowed keep xs ++ [(name, a)] else narrowed keep xs := by
  unfold narrowed
  rw [List.filter_append, List.filter_singleton]
  split <;> simp [*]

theorem any_narrowed {α : Type} {xs : List (String × α)} {name : String}
    (h : xs.any (·.1 == name) = false) : (narrowed keep xs).any (·.1 == name) = false := by
  rw [List.any_eq_false] at h ⊢
  exact fun x hx => h x (List.mem_filter.mp hx).1

/-- Members that are left out are passed over, and the others are read as before. -/
theorem readNamed_narrowed (hskips : ∀ m ∈ members, keep m.1 = false → Skips m.2.1) {fuel : Nat}
    {found found' : List (String × Json)} {first : Bool} {cs rest : List Char}
    (h : readNamed fuel members found first cs = .ok (found', rest)) :
    readNamed fuel (narrowed keep members) (narrowed keep found) first cs =
      .ok (narrowed keep found', rest) := by
  induction fuel generalizing found first cs with
  | zero => cases h
  | succ fuel ih =>
    rcases of_readNamed h with hstop | ⟨name, named, value, hnext, hcolon, hnew⟩
    · rw [readNamed_stop hstop] at h ⊢
      cases h
      rfl
    have hfind := find?_narrowed keep members name
    cases hm : members.find? (·.1 == name) with
    | none =>
      rw [hm, ite_self] at hfind
      rw [readNamed_pass hnext hcolon hm] at h
      rw [readNamed_pass hnext hcolon hfind]
      obtain ⟨after, hskip, h⟩ := of_bind_ok h
      rw [hskip]
      exact ih h
    | some m =>
      have hnew := hnew (hm ▸ rfl)
      rw [readNamed_read hnext hcolon hm hnew] at h
      obtain ⟨⟨j, after⟩, hread, h⟩ := of_bind_ok h
      have hrest := ih h
      rw [hm] at hfind
      rw [narrowed_concat] at hrest
      by_cases hkeep : keep name = true
      · rw [if_pos hkeep] at hfind hrest
        rw [readNamed_read hnext hcolon hfind (any_narrowed hnew), hread]
        exact hrest
      · rw [if_neg hkeep] at hfind hrest
        have hname : m.1 = name := by simpa using List.find?_some hm
        have hskip := hskips m (List.mem_of_find?_eq_some hm) (by simpa [hname] using hkeep)
          fuel value j after hread
        rw [readNamed_pass hnext hcolon hfind, hskip]
        exact hrest

/-- What is there of the members is there of those that are kept. -/
theorem complete_narrowed {found : List (String × Json)} (h : complete members found = true) :
    complete (narrowed keep members) (narrowed keep found) = true := by
  unfold complete at h ⊢
  rw [List.all_eq_true] at h ⊢
  intro m hm
  obtain ⟨hmem, hkeep⟩ := List.mem_filter.mp hm
  have hthere := h m hmem
  simp only [Bool.or_eq_true, List.any_eq_true] at hthere ⊢
  rcases hthere with hmay | ⟨f, hf, hname⟩
  · exact .inl hmay
  · refine .inr ⟨f, List.mem_filter.mpr ⟨hf, ?_⟩, hname⟩
    rw [beq_iff_eq.mp hname]
    exact hkeep

end Narrowed

/-! ### Records -/

section Record

variable {members : List (String × Shape × Bool)} {text : String} {j : Json}

/-- A record is given as an array, from its first member on, or as an object. -/
theorem of_read_record (h : (Shape.record members).read text = .ok j) :
    (∃ fuel items r, skipSpace text.toList = '[' :: items ∧
      readInOrder fuel members true items = .ok r ∧ j = .obj r.1) ∨
    ∃ object found after, skipSpace text.toList = '\x7b' :: object ∧
      readNamed (4 * text.toList.length + 15) members [] true object = .ok (found, after) ∧
      complete members found = true ∧ (skipSpace after).isEmpty = true ∧ j = .obj found := by
  unfold read readStart at h
  obtain ⟨⟨j', after⟩, hread, h⟩ := of_bind_ok h
  dsimp only at h
  split at h
  case isFalse => cases h
  rename_i hend
  cases h
  rw [readFrom] at hread
  split at hread
  · rename_i items hstart
    obtain ⟨r, hitems, hread⟩ := of_bind_ok hread
    obtain ⟨closed, -, hread⟩ := of_bind_ok hread
    cases hread
    exact .inl ⟨_, items, r, hstart, hitems, rfl⟩
  · rename_i object hstart
    obtain ⟨⟨found, rest⟩, hnamed, hread⟩ := of_bind_ok hread
    dsimp only at hread
    split at hread
    · rename_i hcomplete
      cases hread
      exact .inr ⟨object, found, after, hstart, hnamed, hcomplete, hend, rfl⟩
    · cases hread
  · cases hread

/-- An array begins with a value of the first member, unless this one may be missing. -/
theorem of_readInOrder {fuel : Nat} {name : String} {shape : Shape} {mayMiss first : Bool}
    {cs : List Char} {r : List (String × Json) × List Char}
    (h : readInOrder fuel ((name, shape, mayMiss) :: members) first cs = .ok r) :
    (nextElement first cs = .ok none ∧ mayMiss = true) ∨
      ∃ fuel' value j rest found, nextElement first cs = .ok (some value) ∧
        readFrom fuel' shape value = .ok (j, rest) ∧ r.1 = (name, j) :: found := by
  cases fuel with
  | zero => cases h
  | succ fuel =>
    rw [readInOrder] at h
    obtain ⟨next, hnext, h⟩ := of_bind_ok h
    cases next with
    | none =>
      dsimp only at h
      split at h
      · exact .inl ⟨hnext, ‹_›⟩
      · cases h
    | some value =>
      obtain ⟨⟨j, rest⟩, hread, h⟩ := of_bind_ok h
      obtain ⟨⟨found, after⟩, -, h⟩ := of_bind_ok h
      cases h
      exact .inr ⟨fuel, value, j, rest, found, hnext, hread, rfl⟩

theorem read_of_named {object after : List Char} {found : List (String × Json)}
    (hstart : skipSpace text.toList = '\x7b' :: object)
    (hnamed : readNamed (4 * text.toList.length + 15) members [] true object = .ok (found, after))
    (hcomplete : complete members found = true) (hend : (skipSpace after).isEmpty = true) :
    (Shape.record members).read text = .ok (.obj found) := by
  unfold read readStart
  rw [readFrom, hstart]
  change ((readNamed _ _ _ _ _ >>= _) >>= _) = _
  rw [hnamed]
  simp only [bind, Except.bind, hcomplete, if_true]
  exact if_pos hend

/-- An object that is read by a record is read by the record of some of its members, if what is
left out can be passed over. What is read is the same, without these members. -/
theorem read_narrowed (keep : String → Bool) (hskips : ∀ m ∈ members, keep m.1 = false → Skips m.2.1)
    {object : List Char} (hobject : skipSpace text.toList = '\x7b' :: object)
    (h : (Shape.record members).read text = .ok j) :
    ∃ found, j = .obj found ∧
      (Shape.record (narrowed keep members)).read text = .ok (.obj (narrowed keep found)) := by
  rcases of_read_record h with ⟨_, items, _, hstart, -⟩ |
    ⟨object', found, after, hstart, hnamed, hcomplete, hend, rfl⟩
  · cases hobject.symm.trans hstart
  · exact ⟨found, rfl, read_of_named hstart (readNamed_narrowed hskips hnamed)
      (complete_narrowed hcomplete) hend⟩

end Record

end Shape

end Turnstile
