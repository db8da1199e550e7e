import Mathlib
import Threadbook.Interleaving

/-!
# Reads by separate statements

A `Query` reads a state several times; `answer` is what it returns when all its reads see one
state. Where others write between the reads, `Observes` says what it may return. The rule is
`Observes.answer_eq`: if every write after the first read leaves what the query reads alone,
the query returns what it would have returned at the state its first read saw.

A `Traversal` repeats a paged query, following the cursors it returns, until there is none.
-/

namespace Threadbook

variable {σ ε α β κ ρ : Type}

abbrev Query (σ ε α : Type) : Type 1 := Program (fun β => σ → β) ε α

namespace Query

def ask (read : σ → β) : Query σ ε β := Program.perform (A := fun β => σ → β) read

def answer : Query σ ε α → σ → Except ε α
  | .done result, _ => result
  | .act read next, s => answer (next (read s)) s

def SameReads : Query σ ε α → σ → σ → Prop
  | .done _, _, _ => True
  | .act read next, s, s' => read s' = read s ∧ SameReads (next (read s)) s s'

def forAll (f : κ → Query σ ε ρ) : List κ → Query σ ε (List ρ)
  | [] => pure []
  | key :: keys => do
    let row ← f key
    let rows ← forAll f keys
    pure (row :: rows)

@[simp] theorem answer_done (r : Except ε α) (s : σ) :
    answer (.done r : Query σ ε α) s = r := rfl

@[simp] theorem answer_pure (a : α) (s : σ) : (pure a : Query σ ε α).answer s = .ok a := rfl

@[simp] theorem answer_check (r : Except ε α) (s : σ) :
    answer (Program.check r : Query σ ε α) s = r := rfl

@[simp] theorem answer_ask (read : σ → β) (s : σ) :
    (ask read : Query σ ε β).answer s = .ok (read s) := rfl

@[simp] theorem answer_bind (q : Query σ ε α) (f : α → Query σ ε β) (s : σ) :
    (q >>= f).answer s = q.answer s >>= fun a => (f a).answer s := by
  induction q with
  | done r =>
    cases r with
    | error e => rfl
    | ok a => rfl
  | act read next ih => exact ih (read s)

theorem answer_ask_bind (read : σ → β) (f : β → Query σ ε α) (s : σ) :
    (ask read >>= f).answer s = (f (read s)).answer s := rfl

@[simp] theorem answer_forAll (f : κ → Query σ ε ρ) (keys : List κ) (s : σ) :
    (forAll f keys).answer s = keys.mapM fun key => (f key).answer s := by
  induction keys with
  | nil => rfl
  | cons key keys ih =>
    simp only [forAll, answer_bind, ih, answer_pure, List.mapM_cons]
    rfl

theorem SameReads.refl (q : Query σ ε α) (s : σ) : q.SameReads s s := by
  induction q with
  | done r => trivial
  | act read next ih => exact ⟨rfl, ih (read s)⟩

variable {s' : σ} {q : Query σ ε α}

theorem SameReads.trans {s s₁ : σ} (hfirst : q.SameReads s s₁) (hsecond : q.SameReads s₁ s') :
    q.SameReads s s' := by
  induction q with
  | done r => trivial
  | act read next ih =>
    obtain ⟨hread, hfirst⟩ := hfirst
    obtain ⟨hread', hsecond⟩ := hsecond
    rw [hread] at hsecond
    exact ⟨hread'.trans hread, ih _ hfirst hsecond⟩

theorem SameReads.ask {read : σ → β} {s : σ} (h : read s' = read s) :
    (ask read : Query σ ε β).SameReads s s' := ⟨h, trivial⟩

theorem SameReads.answer {s : σ} (h : q.SameReads s s') : q.answer s' = q.answer s := by
  induction q with
  | done r => rfl
  | act read next ih =>
    obtain ⟨hread, hnext⟩ := h
    rw [Query.answer, Query.answer, hread]
    exact ih _ hnext

theorem SameReads.bind {f : α → Query σ ε β} {s : σ} (hq : q.SameReads s s')
    (hf : ∀ a, q.answer s = .ok a → (f a).SameReads s s') : (q >>= f).SameReads s s' := by
  induction q with
  | done r =>
    cases r with
    | error e => trivial
    | ok a => exact hf a rfl
  | act read next ih => exact ⟨hq.1, ih _ hq.2 hf⟩

theorem SameReads.forAll {f : κ → Query σ ε ρ} {keys : List κ} {s : σ}
    (h : ∀ key ∈ keys, (f key).SameReads s s') : (forAll f keys).SameReads s s' := by
  induction keys with
  | nil => trivial
  | cons key keys ih =>
    obtain ⟨hkey, hkeys⟩ := List.forall_mem_cons.mp h
    exact hkey.bind fun _ _ => (ih hkeys).bind fun _ _ => trivial

end Query

open Query

/-! ## Reads among writes -/

/-- What a query returns among writes: `early` ones before its first read, `late` ones after. -/
inductive Observes (late : σ → σ → Prop) :
    (σ → σ → Prop) → Query σ ε α → σ → Except ε α → σ → Prop
  | done {early : σ → σ → Prop} (r : Except ε α) (s : σ) : Observes late early (.done r) s r s
  | write {early : σ → σ → Prop} {q : Query σ ε α} {s s₁ s' : σ} {r : Except ε α}
      (wrote : early s s₁) (rest : Observes late early q s₁ r s') : Observes late early q s r s'
  | read {early : σ → σ → Prop} {β : Type} {s s' : σ} {r : Except ε α} (read : σ → β)
      (next : β → Query σ ε α) (rest : Observes late late (next (read s)) s r s') :
      Observes late early (.act read next) s r s'

variable {early late : σ → σ → Prop} {q : Query σ ε α} {r : Except ε α} {s s' : σ}

theorem Observes.undisturbed (q : Query σ ε α) (s : σ) : Observes late early q s (q.answer s) s := by
  induction q generalizing early with
  | done r => exact .done r s
  | act read next ih => exact .read read next (ih (read s))

theorem Observes.first {next : β → Query σ ε α} {read : σ → β}
    (h : Observes late early (.act read next) s r s') :
    ∃ s₁, Relation.ReflTransGen early s s₁ ∧ Observes late late (next (read s₁)) s₁ r s' := by
  generalize hq : (Program.act read next : Query σ ε α) = q at h
  induction h with
  | done => cases hq
  | write wrote rest ih =>
    obtain ⟨s₁, hwrites, hrest⟩ := ih hq
    exact ⟨s₁, Relation.ReflTransGen.head wrote hwrites, hrest⟩
  | read read next rest =>
    cases hq
    exact ⟨_, Relation.ReflTransGen.refl, rest⟩

/-- **Reads of one snapshot.** Where no write changes what the query reads, the query returns
its answer at the state it began with. -/
theorem Observes.answer_eq {R : σ → Prop} {s₀ : σ} (h : Observes late early q s r s')
    (hstart : R s) (hearly : ∀ s s₁, R s → early s s₁ → R s₁)
    (hlate : ∀ s s₁, R s → late s s₁ → R s₁) (hreads : ∀ s, R s → q.SameReads s₀ s) :
    r = q.answer s₀ ∧ R s' := by
  induction h with
  | done r s => exact ⟨rfl, hstart⟩
  | write wrote rest ih => exact ih (hearly _ _ hstart wrote) hearly hreads
  | @read early β s s' r read next rest ih =>
    have hread : read s = read s₀ := (hreads s hstart).1
    rw [hread] at ih
    exact ih hstart hlate fun s₁ hs₁ => (hreads s₁ hs₁).2

/-! ## Pages -/

inductive Traversal {χ π Q : Type} (late early : σ → σ → Prop) (page : Q → Query σ ε π)
    (cursorOf : Q → Option χ) (nextCursor : π → Option χ) : Option χ → σ → List π → σ → Prop
  | last {cursor : Option χ} {s s' : σ} {p : π} (request : Q) (asks : cursorOf request = cursor)
      (reads : Observes late early (page request) s (.ok p) s') (ends : nextCursor p = none) :
      Traversal late early page cursorOf nextCursor cursor s [p] s'
  | more {cursor : Option χ} {s s₁ s' : σ} {p : π} {pages : List π} (request : Q) (next : χ)
      (asks : cursorOf request = cursor)
      (reads : Observes late early (page request) s (.ok p) s₁) (continues : nextCursor p = some next)
      (rest : Traversal late early page cursorOf nextCursor (some next) s₁ pages s') :
      Traversal late early page cursorOf nextCursor cursor s (p :: pages) s'

theorem take_append_drop_length (rows : List α) (offset limit : ℕ) :
    (rows.drop offset).take limit ++
      rows.drop (offset + ((rows.drop offset).take limit).length) = rows.drop offset := by
  conv_rhs => rw [← List.take_append_drop limit (rows.drop offset)]
  congr 1
  rw [List.drop_drop, List.length_take, List.length_drop]
  by_cases hle : limit ≤ rows.length - offset
  · rw [min_eq_left hle]
  · rw [min_eq_right (by omega), List.drop_eq_nil_of_le (by omega),
      List.drop_eq_nil_of_le (by omega)]

end Threadbook
