import Threadbook.Table

/-!
# What computations keep

A computation keeps a condition on the state if the condition holds after every run that succeeds
from a state it holds in. A frame is a condition of this kind too: that a part of the state is
what it was. What the steps of a computation keep, the computation keeps.
-/

namespace Threadbook.Fallible

open Fallible

universe u

variable {S ε α β : Type u} {P Q : S → Prop}

/-- The condition holds after each successful run from a state it holds in. -/
def Keeps (P : S → Prop) (x : Fallible S ε α) : Prop :=
  ∀ s s' a, P s → x s = (.ok a, s') → P s'

namespace Keeps

theorem pure (a : α) : Keeps P (pure a : Fallible S ε α) := by
  intro s s' b hP h
  cases h
  exact hP

theorem fail (e : ε) : Keeps P (fail e : Fallible S ε α) := by
  intro s s' b _ h
  cases h

theorem check (r : Except ε α) : Keeps P (check r : Fallible S ε α) := by
  intro s s' b hP h
  cases h
  exact hP

theorem state : Keeps P (state : Fallible S ε S) := by
  intro s s' b hP h
  cases h
  exact hP

theorem update {f : S → S} (hf : ∀ s, P s → P (f s)) :
    Keeps P (update f : Fallible S ε PUnit) := by
  intro s s' b hP h
  cases h
  exact hf s hP

theorem rejectIf (e : ε) (p : Prop) [Decidable p] :
    Keeps P (rejectIf e p : Fallible S ε PUnit) := by
  intro s s' b hP h
  obtain ⟨-, rfl⟩ := rejectIf_eq_ok.mp h
  exact hP

variable {f : α → Fallible S ε β}

theorem bind {x : Fallible S ε α} (hx : Keeps P x) (hf : ∀ a, Keeps P (f a)) :
    Keeps P (x >>= f) := by
  intro s s'' b hP h
  obtain ⟨a, s', hfirst, hrest⟩ := bind_eq_ok.mp h
  exact hf a s' s'' b (hx s s' a hP hfirst) hrest

theorem check_bind {r : Except ε α} (hf : ∀ a, r = .ok a → Keeps P (f a)) :
    Keeps P (Fallible.check r >>= f) := by
  intro s s' b hP h
  obtain ⟨a, ha, hrest⟩ := check_bind_eq_ok.mp h
  exact hf a ha s s' b hP hrest

theorem rejectIf_bind {e : ε} {p : Prop} [Decidable p] {f : PUnit → Fallible S ε β}
    (hf : ¬ p → Keeps P (f ⟨⟩)) : Keeps P (Fallible.rejectIf e p >>= f) := by
  intro s s' b hP h
  obtain ⟨hp, hrest⟩ := rejectIf_bind_eq_ok.mp h
  exact hf hp s s' b hP hrest

theorem atomically {x : Fallible S ε α} (hx : Keeps P x) : Keeps P (atomically x) :=
  fun s s' a hP h => hx s s' a hP (atomically_eq_ok.mp h)

theorem forEach (hf : ∀ a, Keeps P (f a)) :
    ∀ l : List α, Keeps P (forEach f l)
  | [] => pure []
  | a :: rest => bind (hf a) fun _ => bind (forEach hf rest) fun _ => pure _

end Keeps

variable {x : Fallible S ε α}

theorem Steps.atomically_of_ok {R : S → S → Prop} (hrefl : ∀ s, R s s)
    (hx : ∀ s s' a, x s = (.ok a, s') → R s s') : Steps R (atomically x) := by
  intro s
  rcases hrun : atomically x s with ⟨e | a, s'⟩
  · rw [atomically_of_error hrun]
    exact hrefl s
  · exact hx s s' a (atomically_eq_ok.mp hrun)

theorem Steps.atomically {R : S → S → Prop} (hrefl : ∀ s, R s s) (hx : Steps R x) :
    Steps R (atomically x) := by
  refine Steps.atomically_of_ok hrefl fun s s' a hrun => ?_
  have hs := hx s
  rwa [hrun] at hs

theorem Keeps.steps_atomically (hx : Keeps P x) :
    Steps (fun s s' => P s → P s') (Fallible.atomically x) :=
  Steps.atomically_of_ok (fun _ => id) fun s s' a hrun hP => hx s s' a hP hrun

end Threadbook.Fallible
