import Turnstile.Store.Table
import Mathlib.Data.List.Pairwise
import Mathlib.Data.List.Basic

/-!
Rows of a table after a step, and steps that undo or repeat each other under
one key. Rows stay in the ascending order of their keys, so nothing stands
beyond the last key.
-/

namespace Turnstile.Table

variable {κ α : Type} [DecidableEq κ]

theorem contains_of_mem {t : Table κ α} {row : κ × α} (h : row ∈ t.rows) :
    t.contains row.1 = true := by
  obtain ⟨rows⟩ := t
  unfold contains find?
  induction rows with
  | nil => cases h
  | cons head rest ih =>
    obtain ⟨j, b⟩ := head
    by_cases hj : j = row.1
    · rw [findIn, if_pos hj]
      rfl
    · rw [findIn, if_neg hj]
      rcases List.mem_cons.mp h with rfl | hrest
      · exact absurd rfl hj
      · exact ih hrest

theorem mem_of_find? {t : Table κ α} {k : κ} {a : α} (h : t.find? k = some a) :
    (k, a) ∈ t.rows := by
  obtain ⟨rows⟩ := t
  unfold find? at h
  induction rows with
  | nil => cases h
  | cons head rest ih =>
    obtain ⟨j, b⟩ := head
    rw [findIn] at h
    split at h
    · rename_i hj
      cases h
      rw [hj]
      exact List.mem_cons_self
    · exact List.mem_cons_of_mem _ (ih h)

theorem mem_values_of_find? {t : Table κ α} {k : κ} {a : α} (h : t.find? k = some a) :
    a ∈ t.values :=
  List.mem_map.mpr ⟨_, mem_of_find? h, rfl⟩

/-- A changed table has the old rows, but for the one under the key. -/
theorem mem_change {t : Table κ α} {k : κ} {f : α → α} {row : κ × α}
    (h : row ∈ (t.change k f).rows) :
    row ∈ t.rows ∨ ∃ old ∈ t.rows, row = (old.1, f old.2) := by
  obtain ⟨rows⟩ := t
  simp only [change] at h ⊢
  induction rows with
  | nil => cases h
  | cons head rest ih =>
    obtain ⟨j, b⟩ := head
    by_cases hj : j = k
    · rw [changeIn, if_pos hj] at h
      rcases List.mem_cons.mp h with rfl | hrest
      · exact .inr ⟨(j, b), List.mem_cons_self, rfl⟩
      · exact .inl (List.mem_cons_of_mem _ hrest)
    · rw [changeIn, if_neg hj] at h
      rcases List.mem_cons.mp h with rfl | hrest
      · exact .inl List.mem_cons_self
      · rcases ih hrest with hold | ⟨old, hold, hrow⟩
        · exact .inl (List.mem_cons_of_mem _ hold)
        · exact .inr ⟨old, List.mem_cons_of_mem _ hold, hrow⟩

theorem mem_values_erase {t : Table κ α} {k : κ} {a : α} (h : a ∈ (t.erase k).values) :
    a ∈ t.values := by
  obtain ⟨row, hrow, rfl⟩ := List.mem_map.mp h
  exact List.mem_map_of_mem (List.mem_of_mem_filter hrow)

theorem erase_erase (t : Table κ α) (k : κ) : (t.erase k).erase k = t.erase k := by
  obtain ⟨rows⟩ := t
  simp only [erase, List.filter_filter, Bool.and_self]

theorem keys_change (t : Table κ α) (k : κ) (f : α → α) : (t.change k f).keys = t.keys := by
  obtain ⟨rows⟩ := t
  unfold keys change
  dsimp only
  induction rows with
  | nil => rfl
  | cons row rest ih =>
    obtain ⟨j, a⟩ := row
    rw [changeIn]
    split
    · rfl
    · rw [List.map_cons, List.map_cons, ih]

/-- What a change does not touch is the same in all values. -/
theorem map_values_change {β : Type} (t : Table κ α) (k : κ) {f : α → α} {g : α → β}
    (h : ∀ a, g (f a) = g a) : (t.change k f).values.map g = t.values.map g := by
  obtain ⟨rows⟩ := t
  unfold values change
  dsimp only
  induction rows with
  | nil => rfl
  | cons row rest ih =>
    obtain ⟨j, a⟩ := row
    rw [changeIn]
    split
    · simp only [List.map_cons, h]
    · simp only [List.map_cons, ih]

/-- The later of two changes under one key sees what the earlier has made. -/
theorem change_change (t : Table κ α) (k : κ) (f g : α → α) :
    (t.change k f).change k g = t.change k (g ∘ f) := by
  obtain ⟨rows⟩ := t
  simp only [change, mk.injEq]
  induction rows with
  | nil => rfl
  | cons row rest ih =>
    obtain ⟨j, a⟩ := row
    by_cases hj : j = k
    · simp only [changeIn, if_pos hj, Function.comp_apply]
    · simp only [changeIn, if_neg hj, ih]

/-- Changes under two keys do not see each other. -/
theorem change_comm (t : Table κ α) {k j : κ} (h : k ≠ j) (f g : α → α) :
    (t.change k f).change j g = (t.change j g).change k f := by
  obtain ⟨rows⟩ := t
  simp only [change, mk.injEq]
  induction rows with
  | nil => rfl
  | cons row rest ih =>
    obtain ⟨i, a⟩ := row
    by_cases hk : i = k
    · subst hk
      simp only [changeIn, if_pos, if_neg h]
    · by_cases hj : i = j
      · simp only [changeIn, if_neg hk, if_pos hj]
      · simp only [changeIn, if_neg hk, if_neg hj, ih]

section Put

variable [LT κ] [DecidableLT κ]

theorem mem_put {t : Table κ α} {k : κ} {a : α} {row : κ × α} (h : row ∈ (t.put k a).rows) :
    row = (k, a) ∨ row ∈ t.rows := by
  obtain ⟨rows⟩ := t
  simp only [put] at h ⊢
  induction rows with
  | nil => exact .inl (List.mem_singleton.mp h)
  | cons head rest ih =>
    obtain ⟨j, b⟩ := head
    by_cases hlt : k < j
    · rw [putIn, if_pos hlt] at h
      exact List.mem_cons.mp h
    · by_cases hj : j = k
      · rw [putIn, if_neg hlt, if_pos hj] at h
        rcases List.mem_cons.mp h with rfl | hrest
        · exact .inl rfl
        · exact .inr (List.mem_cons_of_mem _ hrest)
      · rw [putIn, if_neg hlt, if_neg hj] at h
        rcases List.mem_cons.mp h with rfl | hrest
        · exact .inr List.mem_cons_self
        · rcases ih hrest with hrow | hold
          · exact .inl hrow
          · exact .inr (List.mem_cons_of_mem _ hold)

theorem find?_put_self (t : Table κ α) (k : κ) (a : α) : (t.put k a).find? k = some a :=
  (find?_put ..).trans (if_pos rfl)

/-- A value that is put under its own key leaves every value under its own. -/
theorem key_of_find?_put {t : Table κ α} {key : α → κ}
    (hkey : ∀ k a, t.find? k = some a → key a = k) {k j : κ} {a b : α} (ha : key a = k)
    (h : (t.put k a).find? j = some b) : key b = j := by
  rw [find?_put] at h
  split at h
  · rename_i hk
    cases h
    exact ha.trans hk
  · exact hkey j b h

theorem mem_put_self (t : Table κ α) (k : κ) (a : α) : (k, a) ∈ (t.put k a).rows :=
  mem_of_find? (find?_put_self ..)

theorem mem_values_put {t : Table κ α} {k : κ} {a b : α} (h : b ∈ (t.put k a).values) :
    b = a ∨ b ∈ t.values := by
  obtain ⟨row, hrow, rfl⟩ := List.mem_map.mp h
  rcases mem_put hrow with rfl | hold
  · exact .inl rfl
  · exact .inr (List.mem_map_of_mem hold)

theorem mem_values_put_self (t : Table κ α) (k : κ) (a : α) : a ∈ (t.put k a).values :=
  mem_values_of_find? (find?_put_self ..)

/-- Under a key that was free, a row is added. -/
theorem size_put_of_none {t : Table κ α} {k : κ} (h : t.find? k = none) (a : α) :
    (t.put k a).size = t.size + 1 := by
  obtain ⟨rows⟩ := t
  unfold find? at h
  unfold size put
  dsimp only at h ⊢
  induction rows with
  | nil => rfl
  | cons head rest ih =>
    obtain ⟨j, b⟩ := head
    rw [findIn] at h
    split at h
    · cases h
    · rename_i hj
      by_cases hlt : k < j
      · rw [putIn, if_pos hlt]
        rfl
      · rw [putIn, if_neg hlt, if_neg hj, List.length_cons, ih h, List.length_cons]

theorem contains_put {t : Table κ α} {k j : κ} {a : α} :
    (t.put k a).contains j = true ↔ k = j ∨ t.contains j = true := by
  unfold contains
  rw [find?_put]
  split
  · rename_i hk
    exact ⟨fun _ => .inl hk, fun _ => rfl⟩
  · rename_i hk
    exact ⟨.inr, fun h => h.resolve_left hk⟩

/-- What is put into a table is found there by a test that nothing else passes. -/
theorem find?_values_put {t : Table κ α} {k : κ} {a : α} {p : α → Bool}
    (hclear : ∀ row ∈ t.rows, p row.2 = false) (ha : p a = true) :
    (t.put k a).values.find? p = some a := by
  have hmem : a ∈ (t.put k a).values := List.mem_map.mpr ⟨_, mem_put_self t k a, rfl⟩
  obtain ⟨b, hb⟩ := Option.isSome_iff_exists.mp (List.find?_isSome.mpr ⟨a, hmem, ha⟩)
  obtain ⟨row, hrow, rfl⟩ := List.mem_map.mp (List.mem_of_find?_eq_some hb)
  rcases mem_put hrow with rfl | hold
  · exact hb
  · have hpass := List.find?_some hb
    rw [hclear row hold] at hpass
    cases hpass

theorem filter_putIn (k : κ) (a : α) (rows : List (κ × α)) :
    (putIn k a rows).filter (fun row => decide (row.1 ≠ k)) =
      rows.filter fun row => decide (row.1 ≠ k) := by
  induction rows with
  | nil => simp [putIn]
  | cons row rest ih =>
    obtain ⟨j, c⟩ := row
    by_cases hlt : k < j
    · simp [putIn, hlt]
    · by_cases hjk : j = k
      · subst hjk
        simp [putIn, hlt]
      · simp only [putIn, if_neg hlt, if_neg hjk, List.filter_cons, ih]

theorem erase_put (t : Table κ α) (k : κ) (a : α) :
    (t.put k a).erase k = t.erase k := by
  simp only [put, erase, filter_putIn]

end Put

theorem contains_erase {t : Table κ α} {k j : κ} :
    (t.erase k).contains j = true ↔ k ≠ j ∧ t.contains j = true := by
  unfold contains
  rw [find?_erase]
  split
  · rename_i hk
    exact ⟨fun h => Bool.noConfusion h, fun h => absurd hk h.1⟩
  · rename_i hk
    exact ⟨fun h => ⟨hk, h⟩, And.right⟩

theorem find?_of_find?_erase {t : Table κ α} {k j : κ} {a : α}
    (h : (t.erase k).find? j = some a) : t.find? j = some a := by
  rw [find?_erase] at h
  split at h
  · cases h
  · exact h

/-! ### Order -/

section Order

variable {t : Table Int α}

/-- Rows stand in the ascending order of their keys. -/
def Ascending (t : Table Int α) : Prop := t.rows.Pairwise fun a b => a.1 < b.1

theorem Ascending.put (h : t.Ascending) (k : Int) (a : α) : (t.put k a).Ascending := by
  obtain ⟨rows⟩ := t
  unfold Ascending Table.put at *
  induction rows with
  | nil => exact List.pairwise_singleton _ _
  | cons head rest ih =>
    obtain ⟨j, b⟩ := head
    obtain ⟨hhead, hrest⟩ := List.pairwise_cons.mp h
    dsimp only at hhead ⊢
    rw [putIn]
    split
    · rename_i hlt
      refine List.pairwise_cons.mpr ⟨fun row hrow => ?_, h⟩
      rcases List.mem_cons.mp hrow with rfl | hrow
      · exact hlt
      · exact Int.lt_trans hlt (hhead row hrow)
    · split
      · rename_i heq
        subst heq
        exact List.pairwise_cons.mpr ⟨hhead, hrest⟩
      · refine List.pairwise_cons.mpr ⟨fun row hrow => ?_, ih hrest⟩
        rcases mem_put (t := ⟨rest⟩) hrow with rfl | hrow
        · dsimp only
          omega
        · exact hhead row hrow

/-- Beyond the last key a row is added at the end. -/
theorem rows_put_of_lt {k : Int} (h : ∀ j ∈ t.keys, j < k) (a : α) :
    (t.put k a).rows = t.rows ++ [(k, a)] := by
  obtain ⟨rows⟩ := t
  unfold keys at h
  unfold Table.put
  dsimp only at h ⊢
  induction rows with
  | nil => rfl
  | cons head rest ih =>
    obtain ⟨j, b⟩ := head
    rw [List.map_cons, List.forall_mem_cons] at h
    obtain ⟨hhead, hrest⟩ := h
    dsimp only at hhead
    rw [putIn, if_neg (by omega), if_neg (by omega), ih hrest]
    rfl

theorem Ascending.change (h : t.Ascending) (k : Int) (f : α → α) : (t.change k f).Ascending := by
  obtain ⟨rows⟩ := t
  unfold Ascending Table.change at *
  induction rows with
  | nil => exact h
  | cons head rest ih =>
    obtain ⟨j, b⟩ := head
    obtain ⟨hhead, hrest⟩ := List.pairwise_cons.mp h
    dsimp only at hhead ⊢
    rw [changeIn]
    split
    · exact List.pairwise_cons.mpr ⟨hhead, hrest⟩
    · refine List.pairwise_cons.mpr ⟨fun row hrow => ?_, ih hrest⟩
      rcases mem_change (t := ⟨rest⟩) hrow with hrow | ⟨old, hold, rfl⟩
      · exact hhead row hrow
      · exact hhead old hold

/-- No key stands twice, so every row is found. -/
theorem Ascending.find?_of_mem (h : t.Ascending) {row : Int × α} (hrow : row ∈ t.rows) :
    t.find? row.1 = some row.2 := by
  obtain ⟨rows⟩ := t
  unfold Ascending Table.find? at *
  induction rows with
  | nil => cases hrow
  | cons head rest ih =>
    obtain ⟨j, b⟩ := head
    obtain ⟨hhead, hrest⟩ := List.pairwise_cons.mp h
    rw [findIn]
    rcases List.mem_cons.mp hrow with rfl | hrow
    · exact if_pos rfl
    · rw [if_neg (Int.ne_of_lt (hhead row hrow))]
      exact ih hrest hrow

theorem Ascending.exists_find? (h : t.Ascending) {a : α} (ha : a ∈ t.values) :
    ∃ k, t.find? k = some a := by
  obtain ⟨row, hrow, rfl⟩ := List.mem_map.mp ha
  exact ⟨row.1, h.find?_of_mem hrow⟩

/-- Values that stand under keys of their own are stored as they are found. -/
theorem Ascending.mem_values_iff (h : t.Ascending) {key : α → Int}
    (hkey : ∀ k a, t.find? k = some a → key a = k) {a : α} :
    a ∈ t.values ↔ t.find? (key a) = some a := by
  refine ⟨fun hmem => ?_, mem_values_of_find?⟩
  obtain ⟨k, hstored⟩ := h.exists_find? hmem
  obtain rfl := hkey k a hstored
  exact hstored

theorem Ascending.erase (h : t.Ascending) (k : Int) : (t.erase k).Ascending :=
  List.Pairwise.filter _ h

/-- A change reaches all rows under its key, since there is only one. -/
theorem Ascending.rows_change (h : t.Ascending) (k : Int) (f : α → α) :
    (t.change k f).rows = t.rows.map fun row => (row.1, if row.1 = k then f row.2 else row.2) := by
  obtain ⟨rows⟩ := t
  unfold Ascending at h
  dsimp only [Table.change] at h ⊢
  induction rows with
  | nil => rfl
  | cons head rest ih =>
    obtain ⟨j, b⟩ := head
    obtain ⟨hhead, hrest⟩ := List.pairwise_cons.mp h
    rw [changeIn, List.map_cons]
    by_cases hj : j = k
    · rw [if_pos hj, if_pos hj]
      refine congrArg _ ((List.map_congr_left fun row hrow => ?_).trans rest.map_id).symm
      have hne : row.1 ≠ k := fun heq => Int.lt_irrefl k (by
        have hlt := hhead row hrow
        rwa [heq, hj] at hlt)
      rw [if_neg hne]
      rfl
    · rw [if_neg hj, if_neg hj, ih hrest]

/-- A test that a change does not show in finds the same value, changed or not. -/
theorem Ascending.find?_values_change (h : t.Ascending) (k : Int) {f g : α → α} {p : α → Bool}
    (hg : ∀ row ∈ t.rows, g row.2 = if row.1 = k then f row.2 else row.2)
    (hp : ∀ a, p (g a) = p a) : (t.change k f).values.find? p = (t.values.find? p).map g := by
  have hvalues : (t.change k f).values = t.values.map g := by
    unfold values
    rw [h.rows_change, List.map_map, List.map_map]
    exact List.map_congr_left fun row hrow => (hg row hrow).symm
  rw [hvalues, List.find?_map]
  exact congrArg (fun q => (t.values.find? q).map g) (funext hp)

/-- No key is beyond the last one. -/
theorem Ascending.le_last (h : t.Ascending) {k : Int} {a : α} (hk : (k, a) ∈ t.rows) :
    k ≤ t.keys.getLast?.getD 0 := by
  have hmem : k ∈ t.keys := List.mem_map.mpr ⟨(k, a), hk, rfl⟩
  have hkeys : t.keys.Pairwise (· < ·) := List.pairwise_map.mpr h
  obtain ⟨init, last, hlast⟩ : ∃ init last, t.keys = init ++ [last] :=
    (List.eq_nil_or_concat' t.keys).resolve_left (List.ne_nil_of_mem hmem)
  rw [hlast] at hmem hkeys ⊢
  rw [List.getLast?_concat, Option.getD_some]
  rcases List.mem_append.mp hmem with hinit | hend
  · exact Int.le_of_lt ((List.pairwise_append.mp hkeys).2.2 k hinit last List.mem_cons_self)
  · exact Int.le_of_eq (List.mem_singleton.mp hend)

end Order

end Turnstile.Table
