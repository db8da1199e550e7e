import Mathlib.Order.Defs.LinearOrder
import Mathlib.Order.Bounds.Basic
import Mathlib.Data.Prod.Lex
import Mathlib.Data.List.Sort

/-!
# Ordered maps and sets as sorted lists

`BTreeMap κ ν` is an association list whose keys strictly increase, the order
being part of the value, so iteration order is key order by construction. Its
`insert` replaces, its `get?` looks up, and two maps with the same lookups are
equal (`BTreeMap.ext_get?`). `BTreeSet κ` is the map to `Unit`.

The last section is the *last write wins* rule: inserting a list that is sorted
by key and then by value leaves at each key the greatest value the list holds
there (`get?_insertAll_isGreatest`), so the outcome depends only on which pairs
occur.
-/

namespace Threadbook

open List

universe u v

structure BTreeMap (κ : Type u) (ν : Type v) [LT κ] : Type (max u v) where
  entries : List (κ × ν)
  sorted : entries.Pairwise fun p q => p.1 < q.1

namespace BTreeMap

variable {κ : Type u} {ν : Type v} [LinearOrder κ]

/-! ## Lookup -/

/-- The value stored under `k`, scanning from the front. -/
def lookup (k : κ) : List (κ × ν) → Option ν
  | [] => none
  | (j, v) :: rest => if k = j then some v else lookup k rest

/-- The value stored under `k`. -/
def get? (m : BTreeMap κ ν) (k : κ) : Option ν := lookup k m.entries

def keys (m : BTreeMap κ ν) : List κ := m.entries.map Prod.fst

def length (m : BTreeMap κ ν) : ℕ := m.entries.length

def empty : BTreeMap κ ν := ⟨[], List.Pairwise.nil⟩

variable {m : BTreeMap κ ν} {k : κ} {l : List (κ × ν)}

@[simp] theorem get?_empty (k : κ) : (empty : BTreeMap κ ν).get? k = none := rfl

@[simp] theorem length_keys (m : BTreeMap κ ν) : m.keys.length = m.length := by
  simp [keys, length]

theorem lookup_eq_some_iff {v : ν} :
    ∀ {l : List (κ × ν)}, l.Pairwise (fun p q => p.1 < q.1) →
      (lookup k l = some v ↔ (k, v) ∈ l)
  | [], _ => by simp [lookup]
  | (j, w) :: rest, hl => by
    obtain ⟨hhead, htail⟩ := pairwise_cons.mp hl
    by_cases hk : k = j
    · subst hk
      have hno : (k, v) ∉ rest := fun hmem => lt_irrefl k (hhead _ hmem)
      simp [lookup, hno, eq_comm]
    · simp [lookup, hk, lookup_eq_some_iff htail]

/-- **Lookup is membership**: a map holds `v` under `k` iff `(k, v)` is an entry. -/
theorem get?_eq_some_iff {v : ν} : m.get? k = some v ↔ (k, v) ∈ m.entries :=
  lookup_eq_some_iff m.sorted

theorem get?_eq_none_iff : m.get? k = none ↔ k ∉ m.keys := by
  constructor
  · intro h hk
    obtain ⟨⟨j, v⟩, hmem, rfl⟩ := mem_map.mp hk
    rw [get?_eq_some_iff.mpr hmem] at h
    cases h
  · intro h
    rcases hm : m.get? k with _ | v
    · rfl
    · exact absurd (mem_map_of_mem (f := Prod.fst) (get?_eq_some_iff.mp hm)) h

theorem mem_keys_iff : k ∈ m.keys ↔ ∃ v, m.get? k = some v := by
  rw [← Option.ne_none_iff_exists', Ne, get?_eq_none_iff, not_not]

theorem keys_sorted (m : BTreeMap κ ν) : m.keys.Pairwise (· < ·) := by
  rw [keys, pairwise_map]
  exact m.sorted

theorem keys_nodup (m : BTreeMap κ ν) : m.keys.Nodup :=
  m.keys_sorted.imp fun h => ne_of_lt h

/-- **Extensionality**: maps that answer every lookup alike are equal. -/
theorem ext_get? {n : BTreeMap κ ν} (h : ∀ k, m.get? k = n.get? k) : m = n := by
  have hperm : ∀ p, p ∈ m.entries ↔ p ∈ n.entries := by
    rintro ⟨k, v⟩
    rw [← get?_eq_some_iff, ← get?_eq_some_iff, h]
  have hnd : ∀ o : BTreeMap κ ν, o.entries.Nodup := fun o =>
    List.Pairwise.imp (fun {p q} hpq (heq : p = q) => lt_irrefl q.1 (by rwa [heq] at hpq)) o.sorted
  have hentries : m.entries = n.entries :=
    ((perm_ext_iff_of_nodup (hnd m) (hnd n)).mpr hperm).eq_of_pairwise
      (fun p q _ _ hpq hqp => absurd (lt_trans hpq hqp) (lt_irrefl _)) m.sorted n.sorted
  cases m
  cases n
  simpa using hentries

/-! ## Insertion -/

/-- Insert into a sorted list, replacing the value of an equal key. -/
def insertList (k : κ) (v : ν) : List (κ × ν) → List (κ × ν)
  | [] => [(k, v)]
  | (j, w) :: rest =>
    if k < j then (k, v) :: (j, w) :: rest
    else if k = j then (k, v) :: rest
    else (j, w) :: insertList k v rest

theorem mem_insertList {v : ν} {p : κ × ν} :
    ∀ {l : List (κ × ν)}, p ∈ insertList k v l → p = (k, v) ∨ p ∈ l
  | [], hp => .inl (by simpa [insertList] using hp)
  | (j, w) :: rest, hp => by
    unfold insertList at hp
    split at hp
    · simpa using hp
    · split at hp
      · rcases mem_cons.mp hp with h | h
        · exact .inl h
        · exact .inr (.tail _ h)
      · rcases mem_cons.mp hp with h | h
        · exact .inr (h ▸ .head _)
        · rcases mem_insertList h with h | h
          · exact .inl h
          · exact .inr (.tail _ h)

theorem sorted_insertList {v : ν} :
    ∀ {l : List (κ × ν)}, l.Pairwise (fun p q => p.1 < q.1) →
      (insertList k v l).Pairwise fun p q => p.1 < q.1
  | [], _ => by simp [insertList]
  | (j, w) :: rest, hl => by
    obtain ⟨hhead, htail⟩ := pairwise_cons.mp hl
    unfold insertList
    split
    · rename_i hlt
      refine pairwise_cons.mpr ⟨fun q hq => ?_, hl⟩
      rcases mem_cons.mp hq with rfl | hq
      · exact hlt
      · exact lt_trans hlt (hhead q hq)
    · rename_i hnlt
      split
      · rename_i heq
        subst heq
        exact pairwise_cons.mpr ⟨hhead, htail⟩
      · rename_i hne
        have hgt : j < k := lt_of_le_of_ne (not_lt.mp hnlt) (Ne.symm hne)
        refine pairwise_cons.mpr ⟨fun q hq => ?_, sorted_insertList htail⟩
        rcases mem_insertList hq with rfl | hq
        · exact hgt
        · exact hhead q hq

/-- Insert an entry, replacing the value of an equal key. -/
def insert (m : BTreeMap κ ν) (k : κ) (v : ν) : BTreeMap κ ν :=
  ⟨insertList k v m.entries, sorted_insertList m.sorted⟩

theorem lookup_insertList (k : κ) (v : ν) (i : κ) :
    ∀ l : List (κ × ν), lookup i (insertList k v l) = if i = k then some v else lookup i l
  | [] => by simp [insertList, lookup]
  | (j, w) :: rest => by
    unfold insertList
    split
    · simp [lookup]
    · split
      · rename_i hkj
        subst hkj
        by_cases hi : i = k <;> simp [lookup, hi]
      · rename_i hne
        by_cases hij : i = j
        · subst hij
          simp [lookup, Ne.symm hne]
        · simp [lookup, hij, lookup_insertList k v i rest]

theorem get?_insert (m : BTreeMap κ ν) (k : κ) (v : ν) (i : κ) :
    (m.insert k v).get? i = if i = k then some v else m.get? i :=
  lookup_insertList k v i m.entries

theorem mem_keys_insert {i : κ} {v : ν} : i ∈ (m.insert k v).keys ↔ i = k ∨ i ∈ m.keys := by
  simp only [mem_keys_iff, get?_insert]
  by_cases h : i = k <;> simp [h]

/-! ## Last write wins -/

def insertAll (m : BTreeMap κ ν) (l : List (κ × ν)) : BTreeMap κ ν :=
  l.foldl (fun acc p => acc.insert p.1 p.2) m

@[simp] theorem insertAll_nil (m : BTreeMap κ ν) : m.insertAll [] = m := rfl

@[simp] theorem insertAll_cons (m : BTreeMap κ ν) (p : κ × ν) (l : List (κ × ν)) :
    m.insertAll (p :: l) = (m.insert p.1 p.2).insertAll l := rfl

theorem mem_keys_insertAll {i : κ} : i ∈ (m.insertAll l).keys ↔ i ∈ m.keys ∨ ∃ v, (i, v) ∈ l := by
  induction l generalizing m with
  | nil => simp
  | cons p l ih =>
    obtain ⟨k, v⟩ := p
    rw [insertAll_cons, ih, mem_keys_insert]
    simp only [mem_cons, Prod.mk.injEq]
    constructor
    · rintro ((rfl | h) | ⟨w, h⟩)
      · exact .inr ⟨v, .inl ⟨rfl, rfl⟩⟩
      · exact .inl h
      · exact .inr ⟨w, .inr h⟩
    · rintro (h | ⟨w, ⟨rfl, rfl⟩ | h⟩)
      · exact .inl (.inr h)
      · exact .inl (.inl rfl)
      · exact .inr ⟨w, h⟩

theorem get?_insertAll_of_not_mem {i : κ} (h : ∀ v, (i, v) ∉ l) :
    (m.insertAll l).get? i = m.get? i := by
  induction l generalizing m with
  | nil => rfl
  | cons p l ih =>
    have hne : i ≠ p.1 := fun he => h p.2 (by simp [he])
    rw [insertAll_cons, ih fun v hv => h v (.tail _ hv), get?_insert, if_neg hne]

/-- **Last write wins**: after inserting a list whose values never decrease
under one key, every key that occurs holds the greatest value listed for it. -/
theorem get?_insertAll_isGreatest [LinearOrder ν] (hl : l.Pairwise fun p q => p.1 = q.1 → p.2 ≤ q.2)
    {i : κ} (hi : ∃ v, (i, v) ∈ l) :
    ∃ v, (m.insertAll l).get? i = some v ∧ IsGreatest {w | (i, w) ∈ l} v := by
  induction l generalizing m with
  | nil => simp at hi
  | cons p l ih =>
    obtain ⟨k, w⟩ := p
    obtain ⟨hhead, htail⟩ := pairwise_cons.mp hl
    by_cases hmore : ∃ v, (i, v) ∈ l
    · -- a later write exists: the induction hypothesis names the greatest of them
      obtain ⟨v, hget, hv, hmax⟩ := ih (m := m.insert k w) htail hmore
      refine ⟨v, hget, mem_cons_of_mem _ hv, fun x hx => ?_⟩
      rcases mem_cons.mp hx with hxp | hx
      · obtain ⟨rfl, rfl⟩ := Prod.mk.inj hxp
        exact hhead _ hv rfl
      · exact hmax hx
    · -- this is the last write of its key
      push Not at hmore
      obtain ⟨v, hv⟩ := hi
      have hkey : (i, v) = (k, w) := by
        rcases mem_cons.mp hv with h | h
        · exact h
        · exact absurd h (hmore v)
      obtain ⟨rfl, rfl⟩ := Prod.mk.inj hkey
      refine ⟨v, ?_, mem_cons_self .., fun x hx => ?_⟩
      · rw [insertAll_cons, get?_insertAll_of_not_mem hmore, get?_insert, if_pos rfl]
      · rcases mem_cons.mp hx with h | h
        · exact le_of_eq (Prod.mk.inj h).2
        · exact absurd h (hmore x)

end BTreeMap

/-! ## Sets -/

abbrev BTreeSet (κ : Type u) [LT κ] : Type u := BTreeMap κ Unit

namespace BTreeSet

variable {κ : Type u} [LinearOrder κ]

def add (s : BTreeSet κ) (k : κ) : BTreeSet κ := s.insert k ()

/-- The elements in increasing order. -/
abbrev toList (s : BTreeSet κ) : List κ := s.keys

@[simp] theorem mem_add {s : BTreeSet κ} {k i : κ} : i ∈ (s.add k).toList ↔ i = k ∨ i ∈ s.toList :=
  BTreeMap.mem_keys_insert

end BTreeSet

end Threadbook
