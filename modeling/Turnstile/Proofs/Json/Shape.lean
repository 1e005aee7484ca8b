import Turnstile.Json.Shape
import Turnstile.Proofs.Json.Writing

/-!
Records that were written as JSON are read back by their shape: of the members that were
written, those that the shape names, in the order in which they stand.
-/

namespace Turnstile.Shape

open Json

/-! ### Values -/

theorem readText_quoted (s : String) (rest : List Char) :
    readText ((Json.str s).chars ++ rest) = .ok (s, rest) := by
  rw [chars_str_append]
  unfold readText
  rw [skipSpace_cons rfl]
  exact readStringFrom_quoted false s rest

theorem readInt_toString {low high n : Int} (hlow : low ≤ n) (hhigh : n ≤ high)
    (h : n.natAbs < 10 ^ 308) {rest : List Char} (hrest : EndsNumber rest) :
    readInt low high ((Json.int n).chars ++ rest) = .ok (n, rest) := by
  obtain ⟨c, more, htext, hc⟩ := chars_int_append n rest
  have hnumber := readNumber_toString n hrest
  have hstart : (decide (c = '-') || c.isDigit) = true := by
    rcases hc with rfl | hc
    · rfl
    · rw [hc, Bool.or_true]
  rw [chars] at htext ⊢
  rw [htext] at hnumber ⊢
  unfold readInt
  rw [skipSpace_cons (isSpace_of_number hc)]
  dsimp only
  rw [if_pos hstart, hnumber]
  simp only [bind, Except.bind, NumberText.isTooLarge_ofInt h, NumberText.toJson_ofInt,
    Bool.false_eq_true, if_false]
  rw [if_pos ⟨hlow, hhigh⟩]
  rfl

theorem readChoice_quoted {names : List String} {s : String} (h : s ∈ names)
    (rest : List Char) : readChoice names ((Json.str s).chars ++ rest) = .ok (s, rest) := by
  rw [chars_str_append]
  unfold readChoice
  rw [skipSpace_cons rfl]
  change (readStringFrom false _ >>= _) = _
  rw [readStringFrom_quoted]
  simp [bind, Except.bind, h]
  rfl

/-- The shape takes a value that is not made of parts. -/
inductive Takes : Shape → Json → Prop
  | any {j : Json} (h : j.Plain) : Takes .any j
  | text (s : String) : Takes .text (.str s)
  | int {low high n : Int} (hlow : low ≤ n) (hhigh : n ≤ high) (h : n.natAbs < 10 ^ 308) :
      Takes (.int low high) (.int n)
  | time {s : String} (h : (Instant.ofText? s).isSome = true) : Takes .time (.str s)
  | choice {names : List String} {s : String} (h : s ∈ names) : Takes (.choice names) (.str s)
  | optional {item : Shape} {j : Json} (h : Takes item j) : Takes (.optional item) j

/-- Integers of 64 bits are far below what a number may be. -/
theorem natAbs_of_int64 {n : Int} (h : Text.minInt64 ≤ n ∧ n ≤ Text.maxInt64) :
    n.natAbs < 10 ^ 308 := by
  obtain ⟨hlow, hhigh⟩ := h
  unfold Text.minInt64 at hlow
  unfold Text.maxInt64 at hhigh
  calc n.natAbs < 10 ^ 19 := by omega
    _ ≤ 10 ^ 308 := Nat.pow_le_pow_right (by decide) (by decide)

theorem takes_int64 {n : Int} (h : Text.minInt64 ≤ n ∧ n ≤ Text.maxInt64) :
    Takes .int64 (.int n) :=
  .int h.1 h.2 (natAbs_of_int64 h)

theorem takes_uint32 {n : Nat} (h : n ≤ 4294967295) : Takes .uint32 (.int n) := by
  have hwide : Text.minInt64 ≤ (n : Int) ∧ (n : Int) ≤ Text.maxInt64 := by
    unfold Text.minInt64 Text.maxInt64
    omega
  exact .int (by omega) (by omega) (natAbs_of_int64 hwide)

theorem Takes.plain {shape : Shape} {j : Json} (h : Takes shape j) : j.Plain := by
  induction h with
  | any h => exact h
  | text s => exact .str s
  | int _ _ h => exact .int h
  | time | choice => exact .str _
  | optional _ ih => exact ih

/-- How often the shape says that the value may be missing. -/
def layers : Shape → Nat
  | .optional item => item.layers + 1
  | _ => 0

/-- A value that is not made of parts is not the word for a missing one. -/
theorem chars_of_plain {j : Json} (h : j.Plain) (rest : List Char) :
    ∃ c more, j.chars ++ rest = c :: more ∧ isSpace c = false ∧ c ≠ 'n' := by
  cases h with
  | str s => exact ⟨'"', _, chars_str_append s rest, rfl, by decide⟩
  | @int n h =>
    obtain ⟨c, more, htext, hc⟩ := chars_int_append n rest
    refine ⟨c, more, htext, isSpace_of_number hc, ?_⟩
    rintro rfl
    rcases hc with hc | hc <;> cases hc

/-- A value is read back by a shape that takes it. -/
theorem readFrom_of_takes {shape : Shape} {j : Json} (h : Takes shape j) {fuel : Nat}
    (hfuel : shape.layers ≤ fuel) {rest : List Char} (hrest : EndsNumber rest) :
    readFrom (fuel + 1) shape (j.chars ++ rest) = .ok (j, rest) := by
  induction h generalizing fuel with
  | any h =>
    rw [readFrom]
    exact readStart_of_plain h hrest
  | text s =>
    rw [readFrom, readText_quoted]
    rfl
  | int hlow hhigh h =>
    rw [readFrom, readInt_toString hlow hhigh h hrest]
    rfl
  | time h =>
    rw [readFrom, readText_quoted]
    exact if_pos h
  | choice h =>
    rw [readFrom, readChoice_quoted h]
    rfl
  | @optional item j hitem ih =>
    obtain ⟨fuel, rfl⟩ : ∃ k, fuel = k + 1 := Nat.exists_eq_add_one.mpr (Nat.lt_of_lt_of_le
      (Nat.succ_pos item.layers) hfuel)
    obtain ⟨c, more, htext, hspace, hn⟩ := chars_of_plain hitem.plain rest
    have hitem := ih (Nat.le_of_succ_le_succ hfuel)
    rw [htext] at hitem ⊢
    rw [readFrom, skipSpace_cons hspace]
    split
    · rename_i heq
      exact absurd (List.cons.inj heq).1 hn
    · exact hitem

/-! ### Records -/

/-- A member as it is written. -/
def memberText (f : String × Json) : List Char := quoted f.1 ++ ':' :: f.2.chars

theorem memberChars_cons (f : String × Json) (rest : List (String × Json)) :
    memberChars (f :: rest) = memberText f ++ rest.flatMap fun g => ',' :: memberText g := by
  induction rest generalizing f with
  | nil => simp [memberChars, memberText]
  | cons g rest ih => simp [memberChars, memberText, ih]

/-- What stands before a member. -/
def lead (first : Bool) : List Char := if first then [] else [',']

theorem nextMember_quoted (first : Bool) (name : String) (rest : List Char) :
    nextMember first (lead first ++ (quoted name ++ rest)) = .ok (some (name, rest)) := by
  have hread : readString false ('"' :: (name.toList.flatMap escapeChar ++ '"' :: rest)) =
      .ok (name, rest) := readStringFrom_quoted false name rest
  rw [quoted_append]
  unfold nextMember
  cases first with
  | true =>
    rw [lead, if_pos rfl, List.nil_append, skipSpace_cons rfl]
    change (readString false _).map some = _
    rw [hread]
    rfl
  | false =>
    rw [lead, if_neg Bool.false_ne_true, List.singleton_append, skipSpace_cons rfl]
    change ((readString false (skipSpace _)).map some) = _
    rw [skipSpace_cons rfl, hread]
    rfl

variable {members : List (String × Shape × Bool)}

/-- The fields that a shape names. -/
def named (members : List (String × Shape × Bool)) (fields : List (String × Json)) :
    List (String × Json) :=
  fields.filter fun f => (members.find? (·.1 == f.1)).isSome

/-- What a shape asks of fields that are written for it. -/
structure Fits (members : List (String × Shape × Bool)) (fields : List (String × Json)) :
    Prop where
  distinct : (fields.map (·.1)).Nodup
  plain : ∀ f ∈ fields, f.2.Plain
  takes : ∀ f ∈ fields, ∀ m, members.find? (·.1 == f.1) = some m →
    Takes m.2.1 f.2 ∧ m.2.1.layers ≤ 1

theorem readNamed_end (fuel : Nat) (found : List (String × Json)) (first : Bool)
    (rest : List Char) :
    readNamed (fuel + 1) members found first ('\x7d' :: rest) = .ok (found, rest) := by
  have hend : nextMember first ('\x7d' :: rest) = .ok none := by
    unfold nextMember
    rw [skipSpace_cons rfl]
    rfl
  rw [readNamed, hend]
  change Except.ok (found, (skipSpace ('\x7d' :: rest)).drop 1) = _
  rw [skipSpace_cons rfl, List.drop_one, List.tail_cons]

/-- A member is read or passed over. -/
theorem readNamed_member {f : String × Json} (hplain : f.2.Plain)
    (htakes : ∀ m, members.find? (·.1 == f.1) = some m → Takes m.2.1 f.2 ∧ m.2.1.layers ≤ 1)
    {found : List (String × Json)} (hnew : found.any (·.1 == f.1) = false) (first : Bool)
    (fuel : Nat) {tail : List Char} (htail : EndsNumber tail) :
    readNamed (fuel + 3) members found first (lead first ++ (memberText f ++ tail)) =
      readNamed (fuel + 2) members (found ++ named members [f]) false tail := by
  have hcolon : readColon (':' :: f.2.chars ++ tail) = .ok (f.2.chars ++ tail) := by
    unfold readColon
    rw [List.cons_append, skipSpace_cons rfl]
    rfl
  rw [memberText, List.append_assoc, readNamed, nextMember_quoted]
  simp only [bind, Except.bind]
  cases hfind : members.find? (·.1 == f.1) with
  | none =>
    have hnamed : named members [f] = [] := by simp [named, hfind]
    rw [hnamed, List.append_nil]
    simp only [hcolon, skipValue_of_plain hplain htail]
  | some m =>
    obtain ⟨hm, hlayers⟩ := htakes m hfind
    have hnamed : named members [f] = [f] := by simp [named, hfind]
    have hread := readFrom_of_takes hm (show m.2.1.layers ≤ fuel + 1 by omega) htail
    rw [hnamed]
    simp only [hnew, hcolon, hread, Bool.false_eq_true, if_false]

theorem named_cons (f : String × Json) (fields : List (String × Json)) :
    named members (f :: fields) = named members [f] ++ named members fields :=
  List.filter_append [f] fields

theorem Fits.tail {f : String × Json} {fields : List (String × Json)}
    (h : Fits members (f :: fields)) : Fits members fields where
  distinct := (List.nodup_cons.mp h.distinct).2
  plain g hg := h.plain g (.tail f hg)
  takes g hg := h.takes g (.tail f hg)

theorem Fits.head_ne {f : String × Json} {fields : List (String × Json)}
    (h : Fits members (f :: fields)) {g : String × Json} (hg : g ∈ fields) : f.1 ≠ g.1 := by
  intro hname
  exact (List.nodup_cons.mp h.distinct).1 (List.mem_map.mpr ⟨g, hg, hname.symm⟩)

/-- A field whose name has not been met is new after another one was read. -/
theorem any_append_named {f g : String × Json} {found : List (String × Json)}
    (hfound : found.any (·.1 == g.1) = false) (hne : f.1 ≠ g.1) :
    (found ++ named members [f]).any (·.1 == g.1) = false := by
  rw [List.any_append, hfound, Bool.false_or, List.any_eq_false]
  intro m hm
  rw [List.mem_singleton.mp (List.mem_filter.mp hm).1, beq_iff_eq]
  exact hne

theorem endsNumber_brace (rest : List Char) : EndsNumber ('\x7d' :: rest) := by
  rintro c ⟨⟩
  decide

theorem endsNumber_comma (rest : List Char) : EndsNumber (',' :: rest) := by
  rintro c ⟨⟩
  decide

/-- Fields after the first, with the end of the record. -/
def moreChars (fields : List (String × Json)) (rest : List Char) : List Char :=
  (fields.flatMap fun f => ',' :: memberText f) ++ '\x7d' :: rest

theorem moreChars_cons (f : String × Json) (fields : List (String × Json)) (rest : List Char) :
    moreChars (f :: fields) rest = lead false ++ (memberText f ++ moreChars fields rest) := by
  simp [moreChars, lead]

theorem endsNumber_moreChars (fields : List (String × Json)) (rest : List Char) :
    EndsNumber (moreChars fields rest) := by
  cases fields with
  | nil => exact endsNumber_brace rest
  | cons f fields =>
    rw [moreChars_cons]
    exact endsNumber_comma _

theorem readNamed_moreChars {fields : List (String × Json)} (hfits : Fits members fields)
    {found : List (String × Json)} (hnew : ∀ f ∈ fields, found.any (·.1 == f.1) = false)
    {fuel : Nat} (hfuel : fields.length + 2 ≤ fuel) (rest : List Char) :
    readNamed fuel members found false (moreChars fields rest) =
      .ok (found ++ named members fields, rest) := by
  induction fields generalizing found fuel with
  | nil =>
    obtain ⟨k, rfl⟩ : ∃ k, fuel = k + 1 := ⟨fuel - 1, by omega⟩
    rw [show named members [] = [] from rfl, List.append_nil]
    exact readNamed_end k found false rest
  | cons f fields ih =>
    obtain ⟨k, rfl⟩ : ∃ k, fuel = k + 3 := ⟨fuel - 3, by simp at hfuel; omega⟩
    rw [moreChars_cons, readNamed_member (hfits.plain f (.head _)) (hfits.takes f (.head _))
      (hnew f (.head _)) false k (endsNumber_moreChars fields rest), named_cons f fields,
      ← List.append_assoc]
    refine ih hfits.tail (fun g hg => ?_) (Nat.le_of_succ_le_succ hfuel)
    exact any_append_named (hnew g (.tail f hg)) (hfits.head_ne hg)

/-- All fields of a record are gone through, and those that the shape names are kept. -/
theorem readNamed_memberChars {fields : List (String × Json)} (hfits : Fits members fields)
    {fuel : Nat} (hfuel : fields.length + 2 ≤ fuel) (rest : List Char) :
    readNamed fuel members [] true (memberChars fields ++ '\x7d' :: rest) =
      .ok (named members fields, rest) := by
  cases fields with
  | nil =>
    obtain ⟨k, rfl⟩ : ∃ k, fuel = k + 1 := ⟨fuel - 1, by omega⟩
    exact readNamed_end k [] true rest
  | cons f fields =>
    obtain ⟨k, rfl⟩ : ∃ k, fuel = k + 3 := ⟨fuel - 3, by simp at hfuel; omega⟩
    have htext : memberChars (f :: fields) ++ '\x7d' :: rest =
        lead true ++ (memberText f ++ moreChars fields rest) := by
      rw [memberChars_cons, List.append_assoc]
      rfl
    rw [htext, readNamed_member (hfits.plain f (.head _)) (hfits.takes f (.head _)) rfl true k
      (endsNumber_moreChars fields rest), List.nil_append, named_cons f fields]
    refine readNamed_moreChars hfits.tail (fun g hg => ?_) (Nat.le_of_succ_le_succ hfuel) rest
    exact any_append_named List.any_nil (hfits.head_ne hg)

theorem length_le_memberChars (fields : List (String × Json)) :
    fields.length ≤ (memberChars fields).length := by
  cases fields with
  | nil => exact Nat.zero_le _
  | cons f fields =>
    have hmore : fields.length ≤ (fields.flatMap fun g => ',' :: memberText g).length := by
      induction fields with
      | nil => exact Nat.zero_le _
      | cons g fields ih =>
        rw [List.flatMap_cons, List.length_append, List.length_cons, List.length_cons]
        omega
    rw [memberChars_cons, List.length_append, List.length_cons]
    have hfirst : 0 < (memberText f).length := Nat.succ_pos _
    omega

/-- A record that was written is read back as the fields that the shape names. -/
theorem read_record {fields : List (String × Json)} (hfits : Fits members fields)
    (hcomplete : complete members (named members fields) = true) :
    (Shape.record members).read (String.ofList (Json.obj fields).chars) =
      .ok (.obj (named members fields)) := by
  have hlength := length_le_memberChars fields
  have htext : (Json.obj fields).chars = '\x7b' :: (memberChars fields ++ ['\x7d']) := by
    rw [chars]
  have hfuel : fields.length + 2 ≤ 4 * (Json.obj fields).chars.length + 15 := by
    rw [htext]
    simp
    omega
  have hread := readNamed_memberChars hfits hfuel []
  unfold read readStart
  rw [String.toList_ofList, readFrom, htext, skipSpace_cons rfl]
  rw [htext] at hread
  change ((readNamed _ _ _ _ _ >>= _) >>= _) = _
  rw [hread]
  simp only [bind, Except.bind, hcomplete, if_true]
  rfl

end Turnstile.Shape
