import Mathlib.Data.Nat.Digits.Lemmas
import Mathlib.Data.List.Lex

/-!
# Positional numerals: short-lex order is numeric order

A numeral is a list of digits, most significant digit first, over a base `b`.
Two numerals without leading zeros compare as numbers exactly when they compare
first by length and then digit by digit (`value_lt_iff`). Nothing here knows about
any particular encoding of digits.
-/

namespace Threadbook

namespace Numeral

variable {b : ℕ}

def value (b : ℕ) (ds : List ℕ) : ℕ := Nat.ofDigits b ds.reverse

/-- No leading zero: the list is nonempty, and a zero in front stands alone. -/
def Trimmed (ds : List ℕ) : Prop := ds ≠ [] ∧ (ds.head? = some 0 → ds = [0])

@[simp] theorem value_nil : value b [] = 0 := by
  simp [value]

@[simp] theorem value_cons (d : ℕ) (ds : List ℕ) :
    value b (d :: ds) = d * b ^ ds.length + value b ds := by
  simp [value, Nat.ofDigits_append]
  ring

/-- A numeral of `n` digits is below `b ^ n`. -/
theorem value_lt_pow (hb : 1 < b) {ds : List ℕ} (hds : ∀ d ∈ ds, d < b) :
    value b ds < b ^ ds.length := by
  have h := Nat.ofDigits_lt_base_pow_length hb
    (l := ds.reverse) fun d hd => hds d (List.mem_reverse.mp hd)
  simpa [value] using h

theorem pow_le_value {d : ℕ} {ds : List ℕ} (hd : d ≠ 0) :
    b ^ ds.length ≤ value b (d :: ds) := by
  rw [value_cons]
  calc b ^ ds.length = 1 * b ^ ds.length := (one_mul _).symm
    _ ≤ d * b ^ ds.length := Nat.mul_le_mul_right _ (Nat.one_le_iff_ne_zero.mpr hd)
    _ ≤ d * b ^ ds.length + value b ds := Nat.le_add_right _ _

theorem value_lt_of_length_lt (hb : 1 < b) {xs ys : List ℕ} (hx : ∀ d ∈ xs, d < b)
    (hxt : Trimmed xs) (hyt : Trimmed ys) (hlen : xs.length < ys.length) :
    value b xs < value b ys := by
  rcases ys with _ | ⟨y, ys⟩
  · exact absurd rfl hyt.1
  · have hy : y ≠ 0 := by
      rintro rfl
      have hzero : ys = [] := by simpa using hyt.2 rfl
      have hxs : 0 < xs.length := List.length_pos_iff.mpr hxt.1
      simp [hzero] at hlen
      exact hxt.1 hlen
    calc value b xs < b ^ xs.length := value_lt_pow hb hx
      _ ≤ b ^ ys.length := Nat.pow_le_pow_right (by omega) (by simpa using Nat.le_of_lt_succ hlen)
      _ ≤ value b (y :: ys) := pow_le_value hy

theorem value_lt_of_lex (hb : 1 < b) {xs ys : List ℕ} (hx : ∀ d ∈ xs, d < b)
    (hlen : xs.length = ys.length) (hlt : xs < ys) : value b xs < value b ys := by
  induction xs generalizing ys with
  | nil =>
    rcases ys with _ | ⟨y, ys⟩
    · exact absurd hlt (lt_irrefl _)
    · simp at hlen
  | cons x xs ih =>
    rcases ys with _ | ⟨y, ys⟩
    · simp at hlen
    · have hlen' : xs.length = ys.length := by simpa using hlen
      have hxs : ∀ d ∈ xs, d < b := fun d hd => hx d (.tail _ hd)
      rw [value_cons, value_cons, hlen']
      rcases List.cons_lt_cons_iff.mp hlt with hxy | ⟨rfl, htail⟩
      · have hbound : value b xs < b ^ ys.length := hlen' ▸ value_lt_pow hb hxs
        calc x * b ^ ys.length + value b xs < x * b ^ ys.length + b ^ ys.length := by omega
          _ = (x + 1) * b ^ ys.length := by ring
          _ ≤ y * b ^ ys.length := Nat.mul_le_mul_right _ hxy
          _ ≤ y * b ^ ys.length + value b ys := Nat.le_add_right _ _
      · exact Nat.add_lt_add_left (ih hxs hlen' htail) _

/-- **Short-lex is numeric**: trimmed numerals compare as numbers exactly when
they compare by length first and digit by digit at equal length. -/
theorem value_lt_iff (hb : 1 < b) {xs ys : List ℕ} (hx : ∀ d ∈ xs, d < b)
    (hy : ∀ d ∈ ys, d < b) (hxt : Trimmed xs) (hyt : Trimmed ys) :
    value b xs < value b ys ↔
      xs.length < ys.length ∨ xs.length = ys.length ∧ xs < ys := by
  constructor
  · intro hlt
    rcases lt_trichotomy xs.length ys.length with h | h | h
    · exact Or.inl h
    · refine Or.inr ⟨h, ?_⟩
      rcases lt_trichotomy xs ys with hxy | hxy | hxy
      · exact hxy
      · exact absurd (hxy ▸ hlt) (lt_irrefl _)
      · exact absurd (value_lt_of_lex hb hy h.symm hxy) (by omega)
    · exact absurd (value_lt_of_length_lt hb hy hyt hxt h) (by omega)
  · rintro (h | ⟨h, hlt⟩)
    · exact value_lt_of_length_lt hb hx hxt hyt h
    · exact value_lt_of_lex hb hx h hlt

end Numeral

end Threadbook
