import Mathlib.Data.List.Nodup
import Mathlib.Data.List.Basic
import Mathlib.Data.List.TakeWhile

/-!
# Tables with a primary key

A table is its rows in the order they were inserted; no two rows have the same key, and the
operations that could break this are checked or keep the key.

* `lookup` is a `SELECT .. WHERE key = k`, `insert` an `INSERT` that a row with the same key
  refuses, `erase` a `DELETE .. WHERE key = k` and `modify` an `UPDATE .. WHERE key = k` of columns
  other than the key.
* Each operation has one lemma on what `lookup` finds afterwards.
* `erase_insert`, `erase_modify` and `erase_erase` say that the operations on one key agree in the
  other rows.
* `before` and `after` are the rows on either side of a key; `rows_insert`, `rows_modify` and
  `rows_erase` say where an operation puts its row.
-/

variable {α κ : Type*} [DecidableEq κ]

/-- Rows with distinct keys. -/
structure KeyedTable (α : Type*) {κ : Type*} (key : α → κ) where
  rows : List α
  nodup : (rows.map key).Nodup

namespace KeyedTable

variable {key : α → κ}

/-- The table without rows. -/
def empty : KeyedTable α key := ⟨[], List.nodup_nil⟩

/-- The row with the key `k`. -/
def lookup (t : KeyedTable α key) (k : κ) : Option α := t.rows.find? fun row => key row = k

/-- A row is found under its key. -/
lemma key_of_lookup {t : KeyedTable α key} {k : κ} {row : α} (h : t.lookup k = some row) :
    key row = k := by
  simpa using List.find?_some h

/-- A key that is not found is not in the table. -/
lemma lookup_eq_none_iff {t : KeyedTable α key} {k : κ} :
    t.lookup k = none ↔ k ∉ t.rows.map key := by
  simp [lookup, List.find?_eq_none]

/-- A row that is found is in the table. -/
lemma mem_of_lookup {t : KeyedTable α key} {k : κ} {row : α} (h : t.lookup k = some row) :
    row ∈ t.rows := List.mem_of_find?_eq_some h

/-- Every row of the table is the one found under its key. -/
lemma lookup_key {t : KeyedTable α key} {row : α} (h : row ∈ t.rows) :
    t.lookup (key row) = some row := by
  cases hfound : t.lookup (key row) with
  | none => exact absurd (List.mem_map_of_mem h) (lookup_eq_none_iff.mp hfound)
  | some found =>
      have hkey := key_of_lookup hfound
      rw [List.inj_on_of_nodup_map t.nodup (mem_of_lookup hfound) h hkey]

/-- Add a row, unless its key is taken. -/
def insert (t : KeyedTable α key) (row : α) : Option (KeyedTable α key) :=
  if h : key row ∈ t.rows.map key then none
  else some
    { rows := t.rows ++ [row]
      nodup := by
        rw [List.map_append, List.map_singleton, List.nodup_append']
        refine ⟨t.nodup, List.nodup_singleton _, ?_⟩
        rwa [List.disjoint_singleton] }

/-- Only a new key is inserted. -/
lemma lookup_of_insert {t t' : KeyedTable α key} {row : α} (h : t.insert row = some t') :
    t.lookup (key row) = none := by
  rw [lookup_eq_none_iff]
  intro hmem
  rw [insert, dif_pos hmem] at h
  cases h

/-- What is found after an insertion. -/
lemma lookup_insert {t t' : KeyedTable α key} {row : α} (h : t.insert row = some t') (k : κ) :
    t'.lookup k = if key row = k then some row else t.lookup k := by
  have hnone := lookup_of_insert h
  rw [lookup_eq_none_iff] at hnone
  rw [insert, dif_neg hnone, Option.some.injEq] at h
  subst h
  rw [lookup, List.find?_append]
  by_cases hk : key row = k
  · subst hk
    have : t.lookup (key row) = none := lookup_eq_none_iff.mpr hnone
    unfold lookup at this
    rw [this, if_pos rfl]
    simp
  · rw [if_neg hk]
    simp [hk, lookup]

/-- Only a taken key refuses a row. -/
lemma insert_eq_none_iff {t : KeyedTable α key} {row : α} :
    t.insert row = none ↔ t.lookup (key row) ≠ none := by
  rw [Ne, lookup_eq_none_iff, not_not, insert]
  split
  · case isTrue h => simpa using h
  · case isFalse h => simpa using h

/-- Remove the row with the key `k`. -/
def erase (t : KeyedTable α key) (k : κ) : KeyedTable α key where
  rows := t.rows.filter fun row => key row ≠ k
  nodup := t.nodup.sublist (List.filter_sublist.map key)

/-- What is found after a removal. -/
lemma lookup_erase (t : KeyedTable α key) (k k' : κ) :
    (t.erase k).lookup k' = if k = k' then none else t.lookup k' := by
  by_cases hk : k = k'
  · subst hk
    rw [if_pos rfl, lookup_eq_none_iff]
    simp [erase]
  · rw [if_neg hk, lookup, lookup, erase, List.find?_filter]
    congr 1
    funext row
    by_cases hrow : key row = k'
    · simp [hrow, Ne.symm hk]
    · simp [hrow]

/-- A modification leaves the keys. -/
lemma key_ite (k : κ) {f : α → α} (hf : ∀ row, key (f row) = key row) (row : α) :
    key (if key row = k then f row else row) = key row := by
  split
  · exact hf row
  · rfl

/-- Change the row with the key `k`; the columns of the key stay. -/
def modify (t : KeyedTable α key) (k : κ) (f : α → α) (hf : ∀ row, key (f row) = key row) :
    KeyedTable α key where
  rows := t.rows.map fun row => if key row = k then f row else row
  nodup := by
    have hkeys : key ∘ (fun row => if key row = k then f row else row) = key :=
      funext (key_ite k hf)
    rw [List.map_map, hkeys]
    exact t.nodup

/-- What is found after a modification. -/
lemma lookup_modify (t : KeyedTable α key) (k : κ) (f : α → α) (hf : ∀ row, key (f row) = key row)
    (k' : κ) :
    (t.modify k f hf).lookup k' = if k = k' then (t.lookup k').map f else t.lookup k' := by
  have hpred : (fun row => decide (key row = k')) ∘
      (fun row => if key row = k then f row else row) = fun row => decide (key row = k') := by
    funext row
    rw [Function.comp_apply, key_ite k hf]
  rw [lookup, modify, List.find?_map, hpred]
  by_cases hk : k = k'
  · subst hk
    rw [if_pos rfl]
    apply Option.map_congr
    intro row hrow
    rw [if_pos (by simpa using List.find?_some hrow)]
  · rw [if_neg hk]
    refine (Option.map_congr ?_).trans Option.map_id'
    intro row hrow
    have : key row = k' := by simpa using List.find?_some hrow
    rw [if_neg fun h => hk (h.symm.trans this)]

/-- Without a row of the key nothing is changed. -/
lemma modify_of_lookup_none {t : KeyedTable α key} {k : κ} (h : t.lookup k = none) (f : α → α)
    (hf : ∀ row, key (f row) = key row) : t.modify k f hf = t := by
  rw [lookup_eq_none_iff] at h
  have hrows : (t.modify k f hf).rows = t.rows := by
    refine (List.map_congr_left ?_).trans (List.map_id _)
    intro row hrow
    refine if_neg ?_
    rintro rfl
    exact h (List.mem_map_of_mem hrow)
  obtain ⟨rows, nodup⟩ := t
  exact (mk.injEq _ _ _ _).mpr hrows

/-! ## The order of the rows -/

/-- The rows before the one with the key `k`, or all of them. -/
def before (t : KeyedTable α key) (k : κ) : List α := t.rows.takeWhile fun row => key row ≠ k

/-- The rows after the one with the key `k`. -/
def after (t : KeyedTable α key) (k : κ) : List α :=
  (t.rows.dropWhile fun row => key row ≠ k).tail

/-- The rows before a key, the row with it, and those after it. -/
lemma rows_split (t : KeyedTable α key) (k : κ) :
    t.rows = t.before k ++ (t.lookup k).toList ++ t.after k := by
  unfold before after lookup
  induction t.rows with
  | nil => rfl
  | cons row rows ih => by_cases hrow : key row = k <;> simp [hrow]; simpa using ih

/-- The rows before a key have other keys. -/
lemma ne_of_mem_before {t : KeyedTable α key} {k : κ} {row : α} (h : row ∈ t.before k) :
    key row ≠ k := by
  have hall : (t.before k).all fun row => key row ≠ k := List.all_takeWhile
  simpa using List.all_eq_true.mp hall row h

/-- The rows after a key have other keys. -/
lemma ne_of_mem_after {t : KeyedTable α key} {k : κ} {row : α} (h : row ∈ t.after k) :
    key row ≠ k := by
  rintro rfl
  have hmem : row ∈ t.rows := by
    rw [rows_split t (key row)]
    exact List.mem_append_right _ h
  have hnodup := t.nodup
  rw [rows_split t (key row), lookup_key hmem, List.map_append] at hnodup
  have hdisjoint := List.disjoint_of_nodup_append hnodup
  exact hdisjoint (by simp) (List.mem_map_of_mem h)

/-- A new row comes last. -/
lemma rows_insert {t t' : KeyedTable α key} {row : α} (h : t.insert row = some t') :
    t'.rows = t.before (key row) ++ [row] ++ t.after (key row) := by
  have hnone := lookup_of_insert h
  have hall : ∀ row' ∈ t.rows, key row' ≠ key row := by
    intro row' hrow' hkey
    exact lookup_eq_none_iff.mp hnone (hkey ▸ List.mem_map_of_mem hrow')
  have hafter : t.after (key row) = [] := by
    have hdrop : (t.rows.dropWhile fun row' => key row' ≠ key row) = [] := by
      rw [List.dropWhile_eq_nil_iff]
      simpa using hall
    rw [after, hdrop]
    rfl
  have hsplit := rows_split t (key row)
  rw [hnone, hafter] at hsplit
  rw [insert, dif_neg (lookup_eq_none_iff.mp hnone), Option.some.injEq] at h
  subst h
  rw [hafter]
  simpa using hsplit

/-- A changed row stays in its place. -/
lemma rows_modify (t : KeyedTable α key) (k : κ) (f : α → α) (hf : ∀ row, key (f row) = key row) :
    (t.modify k f hf).rows = t.before k ++ ((t.lookup k).map f).toList ++ t.after k := by
  have hkeep : ∀ rows : List α, (∀ row ∈ rows, key row ≠ k) →
      rows.map (fun row => if key row = k then f row else row) = rows := by
    intro rows hne
    refine (List.map_congr_left ?_).trans (List.map_id _)
    exact fun row hrow => if_neg (hne row hrow)
  have hrow : (t.lookup k).toList.map (fun row => if key row = k then f row else row) =
      ((t.lookup k).map f).toList := by
    cases hlookup : t.lookup k with
    | none => rfl
    | some row => simp [key_of_lookup hlookup]
  change t.rows.map _ = _
  rw [rows_split t k, List.map_append, List.map_append, hrow, hkeep _ fun _ => ne_of_mem_before,
    hkeep _ fun _ => ne_of_mem_after]

/-- An erased row leaves the others as they are. -/
lemma rows_erase (t : KeyedTable α key) (k : κ) : (t.erase k).rows = t.before k ++ t.after k := by
  have hkeep : ∀ rows : List α, (∀ row ∈ rows, key row ≠ k) →
      rows.filter (fun row => key row ≠ k) = rows := by
    intro rows hne
    rw [List.filter_eq_self]
    simpa using hne
  have hrow : (t.lookup k).toList.filter (fun row => key row ≠ k) = [] := by
    cases hlookup : t.lookup k with
    | none => rfl
    | some row => simp [key_of_lookup hlookup]
  change t.rows.filter _ = _
  rw [rows_split t k, List.filter_append, List.filter_append, hrow, hkeep _ fun _ => ne_of_mem_before,
    hkeep _ fun _ => ne_of_mem_after, List.append_nil]

/-! ## The table without a row -/

omit [DecidableEq κ] in
/-- A table is its rows. -/
lemma ext_rows {t t' : KeyedTable α key} (h : t.rows = t'.rows) : t = t' := by
  cases t
  cases t'
  cases h
  rfl

/-- Removing what is not there. -/
lemma erase_of_lookup_none {t : KeyedTable α key} {k : κ} (h : t.lookup k = none) :
    t.erase k = t := by
  refine ext_rows ?_
  have hrows := rows_split t k
  rw [h, Option.toList_none, List.append_nil] at hrows
  rw [rows_erase, ← hrows]

/-- Removing twice. -/
lemma erase_erase (t : KeyedTable α key) (k : κ) : (t.erase k).erase k = t.erase k :=
  erase_of_lookup_none ((lookup_erase t k k).trans (if_pos rfl))

/-- Removing what was inserted. -/
lemma erase_insert {t t' : KeyedTable α key} {row : α} (h : t.insert row = some t') :
    t'.erase (key row) = t.erase (key row) := by
  have hnone := lookup_eq_none_iff.mp (lookup_of_insert h)
  rw [insert, dif_neg hnone, Option.some.injEq] at h
  subst h
  refine ext_rows ?_
  simp [erase]

/-- Removing what was modified. -/
lemma erase_modify (t : KeyedTable α key) (k : κ) (f : α → α) (hf : ∀ row, key (f row) = key row) :
    (t.modify k f hf).erase k = t.erase k := by
  refine ext_rows ?_
  change (t.rows.map _).filter _ = t.rows.filter _
  induction t.rows with
  | nil => rfl
  | cons row rows ih =>
      rw [List.map_cons, List.filter_cons, List.filter_cons, ih]
      by_cases hrow : key row = k
      · simp [hrow, (hf row).trans hrow]
      · simp [hrow]

/-- The number of rows an `UPDATE .. WHERE key = k` affects. -/
def affected (t : KeyedTable α key) (k : κ) : ℕ := if (t.lookup k).isSome then 1 else 0

end KeyedTable
