import Mathlib.Data.List.Forall2

/-!
# Stateful computations that may fail

`Fallible S ε α` threads a state through a computation that ends in a value or
an error. An error does not undo the state: what was consumed before it stays
consumed, which is how a mutable budget or a stateful peer behaves under an
early return. `attempt` turns an error into a value, `mapError` renames it.

Two rules serve every client: the inversion of a successful bind (`bind_eq_ok`)
and the frame rule `Steps`, which says that a preorder on states holds between
the state before and after whatever the outcome.
-/

namespace Threadbook

universe u

/-- A computation over the state `S` that ends in an `α` or an error `ε`. -/
def Fallible (S ε α : Type u) : Type u := S → Except ε α × S

/-! ## Pure checks -/

section Checks

variable {ε ε' α β : Type u}

variable {a : α} {f : α → Except ε β} {x : Except ε α}

theorem check_bind_eq_ok {b : β} : (x >>= f) = .ok b ↔ ∃ a, x = .ok a ∧ f a = .ok b := by
  cases x <;> simp [bind, Except.bind]

theorem check_then_eq_ok {x : Except ε PUnit} {f : PUnit → Except ε β} {b : β} :
    (x >>= f) = .ok b ↔ x = .ok ⟨⟩ ∧ f ⟨⟩ = .ok b := by
  cases x <;> simp [bind, Except.bind]

theorem check_unless_eq_ok {p : Prop} [Decidable p] {e : ε} :
    (if p then .error e else x) = .ok a ↔ ¬ p ∧ x = .ok a := by
  by_cases h : p <;> simp [h]

theorem check_when_eq_ok {p : Prop} [Decidable p] {e : ε} {b : α} :
    (if p then .ok a else .error e : Except ε α) = .ok b ↔ p ∧ a = b := by
  by_cases h : p <;> simp [h]

theorem check_mapError_eq_ok {g : ε → ε'} : x.mapError g = .ok a ↔ x = .ok a := by
  cases x <;> simp [Except.mapError]

theorem check_foldlM_cons_eq_ok {f : α → β → Except ε α} {c : α} {b : β} {rest : List β} :
    (b :: rest).foldlM f a = .ok c ↔ ∃ a', f a b = .ok a' ∧ rest.foldlM f a' = .ok c := by
  rw [List.foldlM_cons, check_bind_eq_ok]

theorem check_foldlM_nil_eq_ok {f : α → β → Except ε α} {c : α} :
    [].foldlM f a = .ok c ↔ a = c := by
  simp [pure, Except.pure]

theorem check_foldlM_singleton {f : α → β → Except ε α} {c : α} {b : β} :
    [b].foldlM f a = .ok c ↔ f a b = .ok c := by
  rw [check_foldlM_cons_eq_ok]
  constructor
  · rintro ⟨a', hstep, hnil⟩
    rwa [← check_foldlM_nil_eq_ok.mp hnil]
  · intro hstep
    exact ⟨c, hstep, check_foldlM_nil_eq_ok.mpr rfl⟩

theorem check_mapM_eq_ok {l : List α} {bs : List β} :
    l.mapM f = .ok bs ↔ List.Forall₂ (fun a b => f a = .ok b) l bs := by
  induction l generalizing bs with
  | nil => simp [pure, Except.pure, eq_comm]
  | cons a rest ih =>
    rw [List.mapM_cons, check_bind_eq_ok, List.forall₂_cons_left_iff]
    constructor
    · rintro ⟨b, hb, hrest⟩
      obtain ⟨cs, hcs, hbs⟩ := check_bind_eq_ok.mp hrest
      exact ⟨b, cs, hb, ih.mp hcs, (Except.ok.inj hbs).symm⟩
    · rintro ⟨b, cs, hb, hcs, rfl⟩
      exact ⟨b, hb, check_bind_eq_ok.mpr ⟨cs, ih.mpr hcs, rfl⟩⟩

theorem check_mapM_total {l : List α} : (∃ bs, l.mapM f = .ok bs) ↔ ∀ a ∈ l, ∃ b, f a = .ok b := by
  induction l with
  | nil => simp [pure, Except.pure]
  | cons a rest ih =>
    rw [List.forall_mem_cons, ← ih]
    simp only [check_mapM_eq_ok, List.forall₂_cons_left_iff]
    constructor
    · rintro ⟨bs, b, cs, hb, hcs, -⟩
      exact ⟨⟨b, hb⟩, cs, hcs⟩
    · rintro ⟨⟨b, hb⟩, cs, hcs⟩
      exact ⟨b :: cs, b, cs, hb, hcs, rfl⟩

theorem check_mapM_eq_error {l : List α} {e : ε} (h : l.mapM f = .error e) :
    ∃ a ∈ l, f a = .error e := by
  induction l with
  | nil => cases h
  | cons a rest ih =>
    rw [List.mapM_cons] at h
    cases hfirst : f a with
    | error e' =>
      rw [hfirst] at h
      obtain rfl := Except.error.inj h
      exact ⟨a, .head _, hfirst⟩
    | ok b =>
      rw [hfirst] at h
      cases hrest : rest.mapM f with
      | error e' =>
        simp only [bind, Except.bind, hrest] at h
        obtain rfl := Except.error.inj h
        obtain ⟨c, hc, herror⟩ := ih hrest
        exact ⟨c, .tail _ hc, herror⟩
      | ok cs => simp [bind, Except.bind, hrest, pure, Except.pure] at h

end Checks

namespace Fallible

variable {S ε ε' α β : Type u}

/-- Succeed without touching the state. -/
protected def pure (a : α) : Fallible S ε α := fun s => (.ok a, s)

def fail (e : ε) : Fallible S ε α := fun s => (.error e, s)

/-- Sequencing; an error of the first computation is the error of the whole. -/
protected def bind (x : Fallible S ε α) (f : α → Fallible S ε β) : Fallible S ε β := fun s =>
  match x s with
  | (.ok a, s') => f a s'
  | (.error e, s') => (.error e, s')

instance : Monad (Fallible S ε) where
  pure := Fallible.pure
  bind := Fallible.bind

def check (r : Except ε α) : Fallible S ε α := fun s => (r, s)

def state : Fallible S ε S := fun s => (.ok s, s)

/-- Change the state. -/
def update (f : S → S) : Fallible S ε PUnit := fun s => (.ok ⟨⟩, f s)

/-- Fail with `e` when the condition holds. -/
def rejectIf (e : ε) (p : Prop) [Decidable p] : Fallible S ε PUnit :=
  if p then fail e else pure ⟨⟩

def mapError (g : ε → ε') (x : Fallible S ε α) : Fallible S ε' α := fun s =>
  match x s with
  | (.ok a, s') => (.ok a, s')
  | (.error e, s') => (.error (g e), s')

/-- Return the error as a value. -/
def attempt (x : Fallible S ε α) : Fallible S ε' (Except ε α) := fun s =>
  (.ok (x s).1, (x s).2)

/-- Run `f` on each element in order and list the results; stop at the first error. -/
def forEach (f : α → Fallible S ε β) : List α → Fallible S ε (List β)
  | [] => pure []
  | a :: rest => do
    let b ← f a
    let bs ← forEach f rest
    pure (b :: bs)

/-! ## Running -/

variable {s s' : S} {f : α → Fallible S ε β} {x : Fallible S ε α} {a : α} {bs : List β}

@[simp] theorem pure_run (a : α) (s : S) : (pure a : Fallible S ε α) s = (.ok a, s) := rfl

@[simp] theorem fail_run (e : ε) (s : S) : (fail e : Fallible S ε α) s = (.error e, s) := rfl

@[simp] theorem check_run (r : Except ε α) (s : S) : check r s = (r, s) := rfl

@[simp] theorem state_run (s : S) : (state : Fallible S ε S) s = (.ok s, s) := rfl

@[simp] theorem update_run (f : S → S) (s : S) : (update f : Fallible S ε PUnit) s = (.ok ⟨⟩, f s) :=
  rfl

theorem rejectIf_eq_ok {e : ε} {p : Prop} [Decidable p] {u : PUnit} :
    (rejectIf e p : Fallible S ε PUnit) s = (.ok u, s') ↔ ¬ p ∧ s = s' := by
  by_cases h : p <;> simp [rejectIf, h]

@[simp] theorem attempt_run (x : Fallible S ε α) (s : S) :
    (attempt x : Fallible S ε' (Except ε α)) s = (.ok (x s).1, (x s).2) := rfl

theorem bind_of_ok (h : x s = (.ok a, s')) : (x >>= f) s = f a s' := by
  change Fallible.bind x f s = _
  simp only [Fallible.bind, h]

theorem bind_of_error {e : ε} (h : x s = (.error e, s')) : (x >>= f) s = (.error e, s') := by
  change Fallible.bind x f s = _
  simp only [Fallible.bind, h]

/-- **Inversion**: a bind succeeds exactly when both halves do. -/
theorem bind_eq_ok {s'' : S} {b : β} :
    (x >>= f) s = (.ok b, s'') ↔ ∃ a s', x s = (.ok a, s') ∧ f a s' = (.ok b, s'') := by
  rcases h : x s with ⟨e | a, s'⟩
  · simp [bind_of_error h]
  · rw [bind_of_ok h]
    constructor
    · intro hf
      exact ⟨a, s', rfl, hf⟩
    · rintro ⟨a', t, hat, hf⟩
      obtain ⟨ha, rfl⟩ := Prod.mk.inj hat
      cases ha
      exact hf

@[simp] theorem state_bind (f : S → Fallible S ε α) (s : S) : (state >>= f) s = f s s := rfl

@[simp] theorem update_bind (g : S → S) (f : PUnit → Fallible S ε α) (s : S) :
    (update g >>= f) s = f ⟨⟩ (g s) := rfl

theorem rejectIf_bind_eq_ok {e : ε} {p : Prop} [Decidable p] {f : PUnit → Fallible S ε α} :
    (rejectIf e p >>= f) s = (.ok a, s') ↔ ¬ p ∧ f ⟨⟩ s = (.ok a, s') := by
  by_cases h : p
  · have hfail : (rejectIf e p : Fallible S ε PUnit) s = (.error e, s) := by rw [rejectIf, if_pos h]; rfl
    simp [bind_of_error hfail, h]
  · have hpass : (rejectIf e p : Fallible S ε PUnit) s = (.ok ⟨⟩, s) := by rw [rejectIf, if_neg h]; rfl
    simp [bind_of_ok hpass, h]

theorem mapError_eq_ok {g : ε → ε'} : mapError g x s = (.ok a, s') ↔ x s = (.ok a, s') := by
  rcases h : x s with ⟨e | b, t⟩ <;> simp [mapError, h]

theorem check_eq_ok {r : Except ε α} : check r s = (.ok a, s') ↔ r = .ok a ∧ s = s' := by
  simp

theorem check_bind (r : Except ε α) (f : α → Fallible S ε β) (s : S) :
    (check r >>= f) s = match r with
      | .ok a => f a s
      | .error e => (.error e, s) := by
  rcases r with e | a <;> rfl

theorem check_bind_eq_ok {r : Except ε α} {b : β} :
    (check r >>= f) s = (.ok b, s') ↔ ∃ a, r = .ok a ∧ f a s = (.ok b, s') := by
  rw [check_bind]
  rcases r with e | a <;> simp

theorem require_bind_eq_ok {r : Except ε PUnit} {f : PUnit → Fallible S ε β} {b : β} :
    (check r >>= f) s = (.ok b, s') ↔ r = .ok ⟨⟩ ∧ f ⟨⟩ s = (.ok b, s') := by
  rw [check_bind]
  rcases r with e | a <;> simp

theorem mapError_of_ok {g : ε → ε'} (h : x s = (.ok a, s')) : mapError g x s = (.ok a, s') :=
  mapError_eq_ok.mpr h

theorem mapError_of_error {g : ε → ε'} {e : ε} (h : x s = (.error e, s')) :
    mapError g x s = (.error (g e), s') := by
  simp [mapError, h]

theorem forEach_cons_eq_ok {rest : List α} {s'' : S} :
    forEach f (a :: rest) s = (.ok bs, s'') ↔
      ∃ b s' cs, f a s = (.ok b, s') ∧ forEach f rest s' = (.ok cs, s'') ∧ bs = b :: cs := by
  simp only [forEach, bind_eq_ok, pure_run]
  constructor
  · rintro ⟨b, s', hb, cs, t, hcs, heq⟩
    obtain ⟨hbs, rfl⟩ := Prod.mk.inj heq
    exact ⟨b, s', cs, hb, hcs, (Except.ok.inj hbs).symm⟩
  · rintro ⟨b, s', cs, hb, hcs, rfl⟩
    exact ⟨b, s', hb, cs, s'', hcs, rfl⟩

theorem forEach_forall₂ {l : List α} (h : forEach f l s = (.ok bs, s')) :
    List.Forall₂ (fun a b => ∃ t t', f a t = (.ok b, t')) l bs := by
  induction l generalizing s bs with
  | nil =>
    obtain ⟨hbs, -⟩ := Prod.mk.inj h
    cases hbs
    exact List.Forall₂.nil
  | cons a rest ih =>
    obtain ⟨b, t, cs, hstep, hrest, rfl⟩ := forEach_cons_eq_ok.mp h
    exact List.Forall₂.cons ⟨s, t, hstep⟩ (ih hrest)

theorem exists_of_forall₂ {R : α → β → Prop} {l : List α} (h : List.Forall₂ R l bs) :
    ∀ b ∈ bs, ∃ a ∈ l, R a b := by
  induction h with
  | nil => simp
  | cons hab _ ih =>
    intro b hb
    rcases List.mem_cons.mp hb with rfl | hb
    · exact ⟨_, .head _, hab⟩
    · obtain ⟨a, ha, hR⟩ := ih b hb
      exact ⟨a, .tail _ ha, hR⟩

/-- **Loop frame**: along a preorder that every successful step respects, a loop that
succeeds goes from its start to its end, by way of each of its steps. -/
theorem forEach_visits {R : S → S → Prop} (hrefl : ∀ s, R s s)
    (htrans : ∀ a b c, R a b → R b c → R a c) {l : List α}
    (hf : ∀ a ∈ l, ∀ b s s', f a s = (.ok b, s') → R s s') (h : forEach f l s = (.ok bs, s')) :
    R s s' ∧ ∀ a ∈ l, ∃ b s₁ s₂, R s s₁ ∧ f a s₁ = (.ok b, s₂) ∧ R s₂ s' := by
  induction l generalizing s bs with
  | nil =>
    obtain ⟨-, rfl⟩ := Prod.mk.inj h
    exact ⟨hrefl s, by simp⟩
  | cons a rest ih =>
    obtain ⟨b, t, cs, hstep, hrest, rfl⟩ := forEach_cons_eq_ok.mp h
    have hfirst := hf a (List.mem_cons_self ..) b s t hstep
    obtain ⟨hrun, hvisits⟩ := ih (fun x hx => hf x (List.mem_cons_of_mem _ hx)) hrest
    refine ⟨htrans _ _ _ hfirst hrun, fun x hx => ?_⟩
    rcases List.mem_cons.mp hx with rfl | hx
    · exact ⟨b, s, t, hrefl s, hstep, hrun⟩
    · obtain ⟨c, s₁, s₂, hbefore, hx, hafter⟩ := hvisits x hx
      exact ⟨c, s₁, s₂, htrans _ _ _ hfirst hbefore, hx, hafter⟩

/-! ## Simulation -/

/-- **Loop simulation**: if each step of one loop either fails with an excused
error or answers like the step of another loop, keeping the states related, then
so do the loops. The relation may depend on how many steps are still to come. -/
theorem forEach_sim {T : Type u} (Rel : ℕ → S → T → Prop) (Excused : ε → Prop)
    {g : α → Fallible T ε β}
    (hstep : ∀ a n s t, Rel (n + 1) s t → (∃ e, Excused e ∧ (f a s).1 = .error e) ∨
      ((f a s).1 = (g a t).1 ∧ Rel n (f a s).2 (g a t).2)) :
    ∀ (l : List α) (s : S) (t : T), Rel l.length s t →
      (∃ e, Excused e ∧ (forEach f l s).1 = .error e) ∨
        (forEach f l s).1 = (forEach g l t).1 := by
  intro l
  induction l with
  | nil => exact fun s t _ => Or.inr rfl
  | cons a rest ih =>
    intro s t hrel
    rcases hstep a rest.length s t hrel with ⟨e, he, hf⟩ | ⟨hval, hnext⟩
    · refine Or.inl ⟨e, he, ?_⟩
      rw [forEach, bind_of_error (Prod.ext hf rfl)]
    · rcases hg : g a t with ⟨e | b, t'⟩ <;> rw [hg] at hval hnext
      · right
        rw [forEach, forEach, bind_of_error (Prod.ext hval rfl), bind_of_error hg]
      · -- both steps succeed with the same value: compare the remaining loops
        rw [forEach, forEach, bind_of_ok (Prod.ext hval rfl), bind_of_ok hg]
        rcases ih (f a s).2 t' hnext with ⟨e, he, hrest⟩ | hrest
        · exact Or.inl ⟨e, he, by rw [bind_of_error (Prod.ext hrest rfl)]⟩
        · right
          rcases hr : forEach g rest t' with ⟨e | bs, t''⟩ <;> rw [hr] at hrest
          · rw [bind_of_error (Prod.ext hrest rfl), bind_of_error hr]
          · rw [bind_of_ok (Prod.ext hrest rfl), bind_of_ok hr]
            rfl

/-! ## Frames -/

/-- Whatever the outcome, the state moves along `R`. -/
def Steps (R : S → S → Prop) (x : Fallible S ε α) : Prop := ∀ s, R s (x s).2

section Steps

variable {R : S → S → Prop}

theorem Steps.pure (hrefl : ∀ s, R s s) (a : α) : Steps R (pure a : Fallible S ε α) := hrefl

theorem Steps.fail (hrefl : ∀ s, R s s) (e : ε) : Steps R (fail e : Fallible S ε α) := hrefl

theorem Steps.check (hrefl : ∀ s, R s s) (r : Except ε α) :
    Steps R (check r : Fallible S ε α) := hrefl

theorem Steps.state (hrefl : ∀ s, R s s) : Steps R (state : Fallible S ε S) := hrefl

theorem Steps.update {f : S → S} (hf : ∀ s, R s (f s)) :
    Steps R (update f : Fallible S ε PUnit) := hf

theorem Steps.rejectIf (hrefl : ∀ s, R s s) (e : ε) (p : Prop) [Decidable p] :
    Steps R (rejectIf e p : Fallible S ε PUnit) := by
  unfold Fallible.rejectIf
  split
  · exact Steps.fail hrefl e
  · exact Steps.pure hrefl _

variable {x : Fallible S ε α}

theorem Steps.bind (htrans : ∀ a b c, R a b → R b c → R a c) {f : α → Fallible S ε β}
    (hx : Steps R x) (hf : ∀ a, Steps R (f a)) : Steps R (x >>= f) := by
  intro s
  have hs := hx s
  rcases h : x s with ⟨e | a, s'⟩
  · rw [bind_of_error h]
    simpa [h] using hs
  · rw [bind_of_ok h]
    rw [h] at hs
    exact htrans _ _ _ hs (hf a s')

theorem Steps.mapError (g : ε → ε') (hx : Steps R x) : Steps R (mapError g x) := by
  intro s
  have h := hx s
  rcases hs : x s with ⟨e | a, s'⟩ <;> simpa [Fallible.mapError, hs] using h

theorem Steps.attempt (hx : Steps R x) :
    Steps R (attempt x : Fallible S ε' (Except ε α)) := hx

theorem Steps.forEach (hrefl : ∀ s, R s s) (htrans : ∀ a b c, R a b → R b c → R a c)
    {f : α → Fallible S ε β} (hf : ∀ a, Steps R (f a)) :
    ∀ l : List α, Steps R (forEach f l)
  | [] => Steps.pure hrefl []
  | a :: rest =>
    Steps.bind htrans (hf a) fun _ =>
      Steps.bind htrans (Steps.forEach hrefl htrans hf rest) fun _ => Steps.pure hrefl _

end Steps

end Fallible

end Threadbook
