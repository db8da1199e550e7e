import Mathlib

/-!
# Lines

A list is cut into lines after each element that ends one. What is left over is a line of its
own, and has no end.
-/

namespace Threadbook.Lines

open List

variable {α : Type} {p : α → Bool}

/-- Cut after each element that ends a line. -/
def split (p : α → Bool) : List α → List (List α)
  | [] => []
  | a :: rest =>
    if p a then [a] :: split p rest
    else match split p rest with
      | [] => [[a]]
      | line :: lines => (a :: line) :: lines

/-- A line with its end, and no other end before it. -/
inductive IsLine (p : α → Bool) : List α → Prop
  | last {a : α} (h : p a = true) : IsLine p [a]
  | cons {a : α} {line : List α} (h : p a = false) (hline : IsLine p line) : IsLine p (a :: line)

theorem flatten_split (l : List α) : (split p l).flatten = l := by
  induction l with
  | nil => rfl
  | cons a rest ih =>
    rw [split]
    split
    · rw [flatten_cons, ih, singleton_append]
    · split
      · rename_i heq
        rw [heq] at ih
        rw [← ih]
        rfl
      · rename_i heq
        rw [heq, flatten_cons] at ih
        rw [flatten_cons, cons_append, ih]

/-- **A line** in front is cut off. -/
theorem split_line {line : List α} (h : IsLine p line) (rest : List α) :
    split p (line ++ rest) = line :: split p rest := by
  induction h with
  | last h =>
    rw [singleton_append, split, if_pos h]
  | cons h _ ih =>
    rw [cons_append, split, ih]
    simp [h]

/-- **Lines** in front are cut off. -/
theorem split_append {lines : List (List α)} (h : ∀ line ∈ lines, IsLine p line)
    (rest : List α) : split p (lines.flatten ++ rest) = lines ++ split p rest := by
  induction lines with
  | nil => rfl
  | cons line lines ih =>
    rw [forall_mem_cons] at h
    rw [flatten_cons, append_assoc, split_line h.1, ih h.2, cons_append]

/-- **Lines** that are put together are cut apart again. -/
theorem split_flatten {lines : List (List α)} (h : ∀ line ∈ lines, IsLine p line) :
    split p lines.flatten = lines := by
  have happend := split_append h []
  rwa [append_nil, split, append_nil] at happend

theorem isLine_of_mem_split {l : List α} {a : α} (hlast : l.getLast? = some a)
    (ha : p a = true) {line : List α} (h : line ∈ split p l) : IsLine p line := by
  induction l generalizing line with
  | nil => cases h
  | cons b rest ih =>
    rw [split] at h
    split at h
    · rename_i hb
      rcases mem_cons.mp h with rfl | h
      · exact .last hb
      · -- there are lines after this one, so the last element is among them
        have hne : rest ≠ [] := by
          rintro rfl
          cases h
        exact ih (by rwa [getLast?_cons_of_ne_nil hne] at hlast) h
    · rename_i hb
      rw [Bool.not_eq_true] at hb
      split at h
      · rename_i heq
        -- without a rest, this element is the last one
        have hrest : rest = [] := by
          have hflat := flatten_split (p := p) rest
          rw [heq] at hflat
          exact hflat.symm
        subst hrest
        rw [getLast?_singleton] at hlast
        rw [← Option.some.inj hlast, hb] at ha
        cases ha
      · rename_i first others heq
        have hne : rest ≠ [] := by
          rintro rfl
          cases heq
        rw [getLast?_cons_of_ne_nil hne] at hlast
        rcases mem_cons.mp h with rfl | h
        · exact .cons hb (ih hlast (by rw [heq]; exact .head _))
        · exact ih hlast (by rw [heq]; exact .tail _ h)

theorem isLine_concat {l : List α} {a : α} (h : ∀ b ∈ l, p b = false) (ha : p a = true) :
    IsLine p (l ++ [a]) := by
  induction l with
  | nil => exact .last ha
  | cons b l ih =>
    rw [forall_mem_cons] at h
    exact .cons h.1 (ih h.2)

end Threadbook.Lines
