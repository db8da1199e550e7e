import Mathlib.Data.List.AList
import Mathlib.Data.Set.Insert
import Threadbook.Fallible

/-!
# Keyed tables and transactions

A `Table κ ρ` holds at most one row under each primary key. These statements
change it: `put` (insert, or replace the row of an equal key), `insertOrIgnore`
(insert unless the key is taken), `delete` and `deleteWhere`, `modify` and `mapRows`
(update one row, or all) and `advance` (replace a row by a later one).
Rows are only read back through `find?`, and each statement has one equation for it.

`Fallible.atomically` runs a computation as a transaction: an error restores the
state it started from.
-/

namespace Threadbook

universe u v

/-- A table with rows `ρ` under primary keys `κ`. -/
abbrev Table (κ : Type u) (ρ : Type v) : Type (max u v) := AList fun _ : κ => ρ

namespace Table

variable {κ : Type u} {ρ : Type v}

def empty : Table κ ρ := (∅ : AList fun _ : κ => ρ)

/-- The rows with their keys, in no particular order. -/
def rows (t : Table κ ρ) : List (κ × ρ) := t.entries.map fun e => (e.1, e.2)

theorem rows_nodup (t : Table κ ρ) : (t.rows.map Prod.fst).Nodup := by
  have hkeys : t.rows.map Prod.fst = t.keys := by
    rw [rows, List.map_map, AList.keys, List.keys]
    rfl
  rw [hkeys]
  exact t.keys_nodup

/-- Delete the rows that satisfy a condition. -/
def deleteWhere (p : ρ → Bool) (t : Table κ ρ) : Table κ ρ where
  entries := t.entries.filter fun e => !p e.2
  nodupKeys := List.NodupKeys.sublist List.filter_sublist t.nodupKeys

def mapRows (f : ρ → ρ) (t : Table κ ρ) : Table κ ρ where
  entries := t.entries.map fun e => ⟨e.1, f e.2⟩
  nodupKeys := by
    rw [List.NodupKeys, List.keys, List.map_map]
    exact t.nodupKeys

variable [DecidableEq κ]

/-- The row under a key. -/
def find? (t : Table κ ρ) (k : κ) : Option ρ := AList.lookup k t

/-- Insert a row, replacing the row of an equal key. -/
def put (t : Table κ ρ) (k : κ) (r : ρ) : Table κ ρ := AList.insert k r t

/-- Insert a row unless its key is taken; says whether it was inserted. -/
def insertOrIgnore (t : Table κ ρ) (k : κ) (r : ρ) : Table κ ρ × Bool :=
  if (t.find? k).isSome then (t, false) else (t.put k r, true)

def delete (t : Table κ ρ) (k : κ) : Table κ ρ := AList.erase k t

@[simp] theorem find?_empty (k : κ) : (empty : Table κ ρ).find? k = none := AList.lookup_empty k

theorem find?_put (t : Table κ ρ) (k : κ) (r : ρ) (i : κ) :
    (t.put k r).find? i = if i = k then some r else t.find? i := by
  by_cases h : i = k
  · subst h
    rw [if_pos rfl]
    exact AList.lookup_insert t
  · rw [if_neg h]
    exact AList.lookup_insert_ne h

theorem put_put (t : Table κ ρ) (k : κ) (r w : ρ) : (t.put k r).put k w = t.put k w :=
  AList.insert_insert ..

theorem find?_delete (t : Table κ ρ) (k i : κ) :
    (t.delete k).find? i = if i = k then none else t.find? i := by
  by_cases h : i = k
  · subst h
    rw [if_pos rfl]
    exact AList.lookup_erase i t
  · rw [if_neg h]
    exact AList.lookup_erase_ne h

variable {t : Table κ ρ} {k : κ} {r : ρ}

theorem mem_rows : (k, r) ∈ t.rows ↔ t.find? k = some r := by
  rw [find?, ← Option.mem_def, AList.mem_lookup_iff, rows, List.mem_map]
  refine ⟨?_, fun h => ⟨⟨k, r⟩, h, rfl⟩⟩
  rintro ⟨⟨j, w⟩, hmem, heq⟩
  cases heq
  exact hmem

theorem find?_deleteWhere (p : ρ → Bool) (t : Table κ ρ) (i : κ) :
    (t.deleteWhere p).find? i = (t.find? i).filter fun r => !p r := by
  ext r
  have hrow : (t.deleteWhere p).find? i = some r ↔ t.find? i = some r ∧ (!p r) = true := by
    simp only [find?, ← Option.mem_def, AList.mem_lookup_iff]
    exact List.mem_filter
  rw [hrow, Option.filter_eq_some_iff]

theorem find?_mapRows (f : ρ → ρ) (t : Table κ ρ) (i : κ) :
    (t.mapRows f).find? i = (t.find? i).map f := by
  ext r
  have hrow : (t.mapRows f).find? i = some r ↔ ∃ w, t.find? i = some w ∧ f w = r := by
    simp only [find?, ← Option.mem_def, AList.mem_lookup_iff]
    refine ⟨?_, ?_⟩
    · intro hmem
      obtain ⟨e, he, heq⟩ := List.mem_map.mp hmem
      obtain ⟨rfl, hr⟩ := Sigma.mk.inj_iff.mp heq
      exact ⟨e.2, he, eq_of_heq hr⟩
    · rintro ⟨w, hmem, rfl⟩
      exact List.mem_map.mpr ⟨⟨i, w⟩, hmem, rfl⟩
  rw [hrow, Option.map_eq_some_iff]

/-- Update the row under a key, if there is one. -/
def modify (f : ρ → ρ) (t : Table κ ρ) (k : κ) : Table κ ρ :=
  match t.find? k with
  | none => t
  | some r => t.put k (f r)

theorem find?_modify (f : ρ → ρ) (t : Table κ ρ) (k i : κ) :
    (t.modify f k).find? i = if i = k then (t.find? i).map f else t.find? i := by
  unfold modify
  by_cases hi : i = k
  · rw [if_pos hi, hi]
    split
    · rename_i hnone
      rw [hnone, Option.map_none]
    · rename_i r hsome
      rw [find?_put, if_pos rfl, hsome, Option.map_some]
  · rw [if_neg hi]
    split
    · rfl
    · rw [find?_put, if_neg hi]

theorem find?_insertOrIgnore (t : Table κ ρ) (k : κ) (r : ρ) (i : κ) :
    (t.insertOrIgnore k r).1.find? i =
      if i = k then some ((t.find? k).getD r) else t.find? i := by
  unfold insertOrIgnore
  rcases h : t.find? k with _ | w
  · simpa using find?_put t k r i
  · by_cases hi : i = k <;> simp [hi, h]

theorem find?_insertOrIgnore_of_some {i : κ} {w : ρ} (h : t.find? i = some w) :
    (t.insertOrIgnore k r).1.find? i = some w := by
  rw [find?_insertOrIgnore]
  split
  · rename_i hi
    rw [← hi, h, Option.getD_some]
  · exact h

theorem insertOrIgnore_of_some {w : ρ} (h : t.find? k = some w) :
    t.insertOrIgnore k r = (t, false) := by
  simp [insertOrIgnore, h]

theorem insertOrIgnore_of_none (h : t.find? k = none) :
    t.insertOrIgnore k r = (t.put k r, true) := by
  simp [insertOrIgnore, h]

/-! ## Heads

A table of heads keeps, under each key, the highest-ranked row of a growing set. -/

variable {ι : Type*} [LinearOrder ι]

/-- Put a row unless the stored one ranks at least as high. -/
def advance (rank : ρ → ι) (t : Table κ ρ) (k : κ) (r : ρ) : Table κ ρ :=
  match t.find? k with
  | none => t.put k r
  | some current => if rank current < rank r then t.put k r else t

def IsLatest (rank : ρ → ι) (s : Set ρ) : Option ρ → Prop
  | none => s = ∅
  | some r => r ∈ s ∧ ∀ w ∈ s, rank w ≤ rank r

theorem find?_advance_of_ne {rank : ρ → ι} {i : κ} (h : i ≠ k) :
    (t.advance rank k r).find? i = t.find? i := by
  unfold advance
  split
  · rw [find?_put, if_neg h]
  · split
    · rw [find?_put, if_neg h]
    · rfl

/-- **Advancing a head** follows a row added to its set. -/
theorem isLatest_advance {rank : ρ → ι} {s : Set ρ} (h : IsLatest rank s (t.find? k)) :
    IsLatest rank (insert r s) ((t.advance rank k r).find? k) := by
  unfold advance
  rcases hk : t.find? k with _ | current <;> rw [hk] at h
  · obtain rfl : s = ∅ := h
    simp [find?_put, IsLatest]
  · obtain ⟨hmem, hmax⟩ := h
    rcases lt_or_ge (rank current) (rank r) with hlt | hge
    · have hput : (t.put k r).find? k = some r := by rw [find?_put, if_pos rfl]
      simp only [if_pos hlt, hput]
      refine ⟨Set.mem_insert .., fun w hw => ?_⟩
      rcases Set.mem_insert_iff.mp hw with rfl | hw
      · exact le_rfl
      · exact le_trans (hmax w hw) hlt.le
    · simp only [if_neg (not_lt.mpr hge), hk]
      refine ⟨Set.mem_insert_of_mem _ hmem, fun w hw => ?_⟩
      rcases Set.mem_insert_iff.mp hw with rfl | hw
      · exact hge
      · exact hmax w hw

end Table

namespace Fallible

variable {S ε α : Type u}

/-- Run a computation as a transaction: an error restores the state it began with. -/
def atomically (x : Fallible S ε α) : Fallible S ε α := fun s =>
  match x s with
  | (.ok a, s') => (.ok a, s')
  | (.error e, _) => (.error e, s)

variable {x : Fallible S ε α}

/-- **Rollback**: a failed transaction changes nothing. -/
theorem atomically_of_error {s s' : S} {e : ε} (h : atomically x s = (.error e, s')) : s' = s := by
  unfold atomically at h
  split at h
  · cases h
  · exact (Prod.mk.inj h).2.symm

@[elab_as_elim] theorem atomically_keeps {s s' : S} {result : Except ε α} {P : S → Prop}
    (hrun : atomically x s = (result, s')) (hs : P s)
    (hok : ∀ a, atomically x s = (.ok a, s') → P s') : P s' := by
  cases result with
  | error e =>
    obtain rfl := atomically_of_error hrun
    exact hs
  | ok a => exact hok a hrun

theorem atomically_of_same {s : S} {r : Except ε α} (h : x s = (r, s)) :
    atomically x s = (r, s) := by
  unfold atomically
  rw [h]
  cases r <;> rfl

theorem atomically_eq_ok {s s' : S} {a : α} : atomically x s = (.ok a, s') ↔ x s = (.ok a, s') := by
  rcases h : x s with ⟨e | b, t⟩ <;> simp [atomically, h]

end Fallible

end Threadbook
