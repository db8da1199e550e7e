import Threadbook.Table

/-!
# Rows in slots

A table keyed by an owner and a number keeps a short list for each owner: the rows in its first
slots. What is put into the slots of an owner that had none is read back as it was put
(**`slots_putSlots`**), and the other owners keep theirs (**`slots_putSlots_of_ne`**).
-/

namespace Threadbook.Table

open List

universe u v

variable {κ : Type u} {ρ : Type v} [DecidableEq κ] {table : Table (κ × ℕ) ρ} {owner other : κ}
  {entries : List (ℕ × ρ)} {n : ℕ}

def slots (table : Table (κ × ℕ) ρ) (owner : κ) (n : ℕ) : List (ℕ × ρ) :=
  (List.range n).filterMap fun slot => (table.find? (owner, slot)).map fun row => (slot, row)

def putSlots (table : Table (κ × ℕ) ρ) (owner : κ) (entries : List (ℕ × ρ)) : Table (κ × ℕ) ρ :=
  entries.foldl (fun table entry => table.put (owner, entry.1) entry.2) table

variable {entry : ℕ × ρ}

theorem putSlots_cons :
    table.putSlots owner (entry :: entries) =
      (table.put (owner, entry.1) entry.2).putSlots owner entries := rfl

theorem find?_putSlots_of_not_mem {key : κ × ℕ}
    (h : key.1 = owner → key.2 ∉ entries.map Prod.fst) :
    (table.putSlots owner entries).find? key = table.find? key := by
  induction entries generalizing table with
  | nil => rfl
  | cons entry rest ih =>
    have hrest : key.1 = owner → key.2 ∉ rest.map Prod.fst := by
      intro howner hmem
      exact h howner (.tail _ hmem)
    rw [putSlots_cons, ih hrest, find?_put, if_neg]
    rintro rfl
    exact h rfl (.head _)

theorem find?_putSlots (hnodup : (entries.map Prod.fst).Nodup) (hentry : entry ∈ entries) :
    (table.putSlots owner entries).find? (owner, entry.1) = some entry.2 := by
  induction entries generalizing table with
  | nil => cases hentry
  | cons first rest ih =>
    obtain ⟨hfirst, hrest⟩ := nodup_cons.mp hnodup
    obtain rfl | hentry := mem_cons.mp hentry
    · rw [putSlots_cons, find?_putSlots_of_not_mem fun _ => hfirst, find?_put, if_pos rfl]
    · exact ih hrest hentry

theorem find?_putSlots_or {key : κ × ℕ} {row : ρ}
    (h : (table.putSlots owner entries).find? key = some row) :
    (key.2, row) ∈ entries ∨ table.find? key = some row := by
  induction entries generalizing table with
  | nil => exact .inr h
  | cons entry rest ih =>
    rw [putSlots_cons] at h
    obtain hrest | hput := ih h
    · exact .inl (.tail _ hrest)
    · rw [find?_put] at hput
      split at hput
      · rename_i hkey
        cases hput
        rw [hkey]
        exact .inl (.head _)
      · exact .inr hput

theorem find?_of_mem_slots (h : entry ∈ table.slots owner n) :
    table.find? (owner, entry.1) = some entry.2 := by
  obtain ⟨slot, -, hslot⟩ := mem_filterMap.mp h
  obtain ⟨row, hrow, rfl⟩ := Option.map_eq_some_iff.mp hslot
  exact hrow

/-- **The slots of another owner** are as they were. -/
theorem slots_putSlots_of_ne (h : other ≠ owner) :
    (table.putSlots owner entries).slots other n = table.slots other n := by
  simp only [slots]
  refine filterMap_congr fun slot _ => ?_
  rw [find?_putSlots_of_not_mem fun heq => absurd heq h]

/-- **What is put into the first slots** of an owner that had none is what they hold. -/
theorem slots_putSlots (hslots : entries.map Prod.fst = range entries.length)
    (hlength : entries.length ≤ n) (hnew : ∀ slot, table.find? (owner, slot) = none) :
    (table.putSlots owner entries).slots owner n = entries := by
  have hnodup : (entries.map Prod.fst).Nodup := hslots ▸ nodup_range
  obtain ⟨others, rfl⟩ := Nat.exists_eq_add_of_le hlength
  rw [slots, range_add, filterMap_append, ← hslots, filterMap_map]
  have hown : entries.filterMap ((fun slot =>
      ((table.putSlots owner entries).find? (owner, slot)).map fun row => (slot, row)) ∘
        Prod.fst) = entries := by
    refine (filterMap_congr fun entry hentry => ?_).trans filterMap_some
    rw [Function.comp_apply, find?_putSlots hnodup hentry]
    rfl
  rw [hown, append_right_eq_self, filterMap_eq_nil_iff]
  intro slot hslot
  obtain ⟨k, -, rfl⟩ := mem_map.mp hslot
  rw [find?_putSlots_of_not_mem, hnew, Option.map_none]
  intro _
  rw [hslots, mem_range]
  omega

end Threadbook.Table
