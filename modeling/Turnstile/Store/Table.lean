/-!
Tables in memory: values under keys, kept in the ascending order of the keys. `find?` is the view of a
table, and every operation has a lemma that says what it does to the view.
-/

namespace Turnstile

structure Table (κ α : Type) where
  rows : List (κ × α) := []
  deriving Repr

namespace Table

variable {κ α : Type} [DecidableEq κ]

def findIn (k : κ) : List (κ × α) → Option α
  | [] => none
  | (j, a) :: rest => if j = k then some a else findIn k rest

/-- The value under a key. -/
def find? (t : Table κ α) (k : κ) : Option α := findIn k t.rows

def contains (t : Table κ α) (k : κ) : Bool := (t.find? k).isSome

/-- All values, in the order of their keys. -/
def values (t : Table κ α) : List α := t.rows.map (·.2)

def keys (t : Table κ α) : List κ := t.rows.map (·.1)

def size (t : Table κ α) : Nat := t.rows.length

def putIn [LT κ] [DecidableLT κ] (k : κ) (a : α) : List (κ × α) → List (κ × α)
  | [] => [(k, a)]
  | (j, b) :: rest =>
    if k < j then (k, a) :: (j, b) :: rest
    else if j = k then (k, a) :: rest
    else (j, b) :: putIn k a rest

/-- Put a value under a key, in place of the one that is there. -/
def put [LT κ] [DecidableLT κ] (t : Table κ α) (k : κ) (a : α) : Table κ α := ⟨putIn k a t.rows⟩

/-- Remove what is under a key. -/
def erase (t : Table κ α) (k : κ) : Table κ α := ⟨t.rows.filter fun row => row.1 ≠ k⟩

def changeIn (k : κ) (f : α → α) : List (κ × α) → List (κ × α)
  | [] => []
  | (j, a) :: rest => if j = k then (j, f a) :: rest else (j, a) :: changeIn k f rest

/-- Change what is under a key. -/
def change (t : Table κ α) (k : κ) (f : α → α) : Table κ α := ⟨changeIn k f t.rows⟩

@[simp] theorem find?_empty (k : κ) : (⟨[]⟩ : Table κ α).find? k = none := rfl

theorem findIn_putIn [LT κ] [DecidableLT κ] (k j : κ) (a : α) (rows : List (κ × α)) :
    findIn j (putIn k a rows) = if k = j then some a else findIn j rows := by
  induction rows with
  | nil => simp [putIn, findIn]
  | cons row rest ih =>
    obtain ⟨i, b⟩ := row
    simp only [putIn]
    by_cases hlt : k < i
    · simp [hlt, findIn]
    · by_cases hik : i = k
      · subst hik
        by_cases hj : i = j
        · subst hj
          simp [hlt, findIn]
        · simp [hlt, findIn, hj]
      · by_cases hij : i = j
        · subst hij
          simp [hlt, hik, findIn, Ne.symm hik]
        · simp [hlt, hik, findIn, hij, ih]

/-- What was put under a key is found there, and all else is as before. -/
theorem find?_put [LT κ] [DecidableLT κ] (t : Table κ α) (k j : κ) (a : α) :
    (t.put k a).find? j = if k = j then some a else t.find? j := findIn_putIn k j a t.rows

theorem find?_erase (t : Table κ α) (k j : κ) :
    (t.erase k).find? j = if k = j then none else t.find? j := by
  obtain ⟨rows⟩ := t
  simp only [find?, erase]
  induction rows with
  | nil => simp [findIn]
  | cons row rest ih =>
    obtain ⟨i, b⟩ := row
    by_cases hik : i = k
    · subst hik
      by_cases hj : i = j
      · subst hj
        simpa [findIn] using ih
      · simpa [findIn, hj] using ih
    · by_cases hij : i = j
      · subst hij
        simp [hik, findIn, Ne.symm hik]
      · simpa [hik, findIn, hij] using ih

theorem find?_change (t : Table κ α) (k j : κ) (f : α → α) :
    (t.change k f).find? j = if k = j then (t.find? j).map f else t.find? j := by
  obtain ⟨rows⟩ := t
  simp only [find?, change]
  induction rows with
  | nil => simp [changeIn, findIn]
  | cons row rest ih =>
    obtain ⟨i, b⟩ := row
    by_cases hik : i = k
    · subst hik
      by_cases hj : i = j <;> simp [changeIn, findIn, hj]
    · by_cases hij : i = j
      · subst hij
        simp [changeIn, hik, findIn, Ne.symm hik]
      · simpa [changeIn, hik, findIn, hij] using ih

end Table

/-- Links between two kinds of things, by their identifiers, in ascending order. -/
abbrev Links := List (Int × Int)

namespace Links

/-- The order of links: by what they start from, then by what they lead to. -/
def precedes (a b : Int × Int) : Bool := a.1 < b.1 || (a.1 == b.1 && a.2 < b.2)

/-- Add a link that may be there already. -/
def add (link : Int × Int) : Links → Links
  | [] => [link]
  | x :: rest =>
    if precedes link x then link :: x :: rest
    else if x = link then x :: rest
    else x :: add link rest

/-- Remove a link that may be missing. -/
def remove (link : Int × Int) (links : Links) : Links := links.filter (· ≠ link)

/-- Everything that a thing is linked to. -/
def targets (links : Links) (a : Int) : List Int := (links.filter (·.1 = a)).map (·.2)

theorem mem_add (x link : Int × Int) (links : Links) : x ∈ add link links ↔ x = link ∨ x ∈ links := by
  induction links with
  | nil => simp [add]
  | cons y rest ih =>
    simp only [add]
    by_cases h : precedes link y = true
    · simp [h]
    · by_cases hy : y = link
      · subst hy
        simp [h]
      · simp only [h, hy, if_false, List.mem_cons, ih, Bool.false_eq_true]
        constructor
        · rintro (h | h | h)
          · exact .inr (.inl h)
          · exact .inl h
          · exact .inr (.inr h)
        · rintro (h | h | h)
          · exact .inr (.inl h)
          · exact .inl h
          · exact .inr (.inr h)

theorem mem_remove (x link : Int × Int) (links : Links) :
    x ∈ remove link links ↔ x ∈ links ∧ x ≠ link := by
  simp [remove]

end Links

end Turnstile
