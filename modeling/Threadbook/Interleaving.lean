import Mathlib.Data.List.Count
import Mathlib.Logic.Relation

/-!
# Interleaved programs

A `Program A ε α` performs atomic actions, each of which is answered, and ends in a
value or an error. A `World` is a shared state with any number of programs on their
way; in a `Step` one of them performs its next action, a new one starts, one or all of
them are dropped, or something else happens to the state.

Two rules serve every client. `Step.state` carries over to all interleavings what each
action preserves of the state. `Steps.spent` is about licences: an action may need one,
the answer to another may grant it; where a licence is granted once at most, whatever
needs it happens once at most, although the programs know nothing of each other.
-/

namespace Threadbook

open List

universe u

/-- A program: atomic actions, each of which is answered, and in the end a value or an
error. -/
inductive Program (A : Type → Type u) (ε α : Type) : Type (max 1 u)
  | done (result : Except ε α)
  | act {β : Type} (action : A β) (next : β → Program A ε α)

namespace Program

variable {A : Type → Type u} {ε α β : Type}

protected def bind : Program A ε α → (α → Program A ε β) → Program A ε β
  | .done (.ok a), f => f a
  | .done (.error e), _ => .done (.error e)
  | .act action next, f => .act action fun b => (next b).bind f

instance : Monad (Program A ε) where
  pure := fun a => .done (.ok a)
  bind := Program.bind

def check (r : Except ε α) : Program A ε α := .done r

def perform (action : A α) : Program A ε α := .act action fun a => .done (.ok a)

def call (action : A (Except ε α)) : Program A ε α := .act action .done

@[simp] theorem bind_check_ok (a : α) (f : α → Program A ε β) : (check (.ok a) >>= f) = f a := rfl

@[simp] theorem bind_check_error (e : ε) (f : α → Program A ε β) :
    (check (.error e) >>= f) = .done (.error e) := rfl

@[simp] theorem bind_done_ok (a : α) (f : α → Program A ε β) :
    ((.done (.ok a) : Program A ε α) >>= f) = f a := rfl

@[simp] theorem bind_done_error (e : ε) (f : α → Program A ε β) :
    ((.done (.error e) : Program A ε α) >>= f) = .done (.error e) := rfl

@[simp] theorem bind_perform (action : A α) (f : α → Program A ε β) :
    (perform action >>= f) = .act action f := rfl

@[simp] theorem bind_call (action : A (Except ε α)) (f : α → Program A ε β) :
    (call action >>= f) = .act action fun r => .done r >>= f := rfl

end Program

/-! ## Licences -/

structure Licence (A : Type → Type u) (T : Type) where
  spends : {β : Type} → A β → Option T
  grants : {β : Type} → A β → β → Option T

def Disciplined {A : Type → Type u} {T ε α : Type} (l : Licence A T) :
    Option T → Program A ε α → Prop
  | _, .done _ => True
  | held, .act action next =>
    match l.spends action with
    | some t => held = some t ∧ ∀ b, Disciplined l none (next b)
    | none => ∀ b, Disciplined l ((l.grants action b).or held) (next b)

def Plain {A : Type → Type u} {T ε α : Type} (l : Licence A T) : Program A ε α → Prop
  | .done _ => True
  | .act action next => l.spends action = none ∧ ∀ b, l.grants action b = none ∧ Plain l (next b)

section Discipline

variable {A : Type → Type u} {T ε α β : Type} {l : Licence A T} {held : Option T}

@[simp] theorem disciplined_done {r : Except ε α} :
    Disciplined l held (.done r : Program A ε α) := trivial

theorem Plain.check (r : Except ε α) : Plain l (Program.check r : Program A ε α) := trivial

theorem Plain.pure (a : α) : Plain l (pure a : Program A ε α) := trivial

theorem Plain.perform {action : A α} (hspends : l.spends action = none)
    (hgrants : ∀ a, l.grants action a = none) :
    Plain l (Program.perform action : Program A ε α) :=
  ⟨hspends, fun a => ⟨hgrants a, trivial⟩⟩

theorem Plain.call {action : A (Except ε α)} (hspends : l.spends action = none)
    (hgrants : ∀ a, l.grants action a = none) : Plain l (Program.call action : Program A ε α) :=
  ⟨hspends, fun a => ⟨hgrants a, trivial⟩⟩

variable {p : Program A ε α} {f : α → Program A ε β}

theorem Plain.disciplined_bind (hp : Plain l p) (hf : ∀ a, Disciplined l held (f a)) :
    Disciplined l held (p >>= f) := by
  induction p with
  | done r =>
    rcases r with e | a
    · exact disciplined_done
    · exact hf a
  | act action next ih =>
    obtain ⟨hspends, hnext⟩ := hp
    change Disciplined l held (.act action fun b => next b >>= f)
    rw [Disciplined, hspends]
    intro b
    rw [(hnext b).1]
    exact ih b (hnext b).2

theorem Plain.bind (hp : Plain l p) (hf : ∀ a, Plain l (f a)) : Plain l (p >>= f) := by
  induction p with
  | done r =>
    rcases r with e | a
    · exact trivial
    · exact hf a
  | act action next ih =>
    exact ⟨hp.1, fun b => ⟨(hp.2 b).1, ih b (hp.2 b).2⟩⟩

theorem Plain.disciplined (hp : Plain l p) : Disciplined l held p := by
  induction p with
  | done r => exact trivial
  | act action next ih =>
    rw [Disciplined, hp.1]
    intro b
    rw [(hp.2 b).1]
    exact ih b (hp.2 b).2

theorem Disciplined.bind (hp : Disciplined l held p) (hf : ∀ held' a, Disciplined l held' (f a)) :
    Disciplined l held (p >>= f) := by
  induction p generalizing held with
  | done r =>
    rcases r with e | a
    · exact disciplined_done
    · exact hf held a
  | act action next ih =>
    change Disciplined l held (.act action fun b => next b >>= f)
    rw [Disciplined] at hp ⊢
    split at hp
    · exact ⟨hp.1, fun b => ih b (hp.2 b)⟩
    · exact fun b => ih b (hp b)

theorem Disciplined.map {f : α → β} (h : Disciplined l held p) : Disciplined l held (f <$> p) :=
  h.bind fun _ _ => disciplined_done

end Discipline

/-! ## Worlds -/

/-- How actions change a state and are answered; the second argument is what the outside
contributes. -/
structure Machine (S : Type) (A : Type → Type u) (O : Type) where
  perform : {β : Type} → A β → O → S → β × S

structure World (S : Type) (A : Type → Type u) (T ε α : Type) : Type (max 1 u) where
  state : S
  threads : List (Program A ε α)
  spent : List T

section Worlds

variable {S : Type} {A : Type → Type u} {O T ε α : Type} (m : Machine S A O) (l : Licence A T)
  (starts : Program A ε α → Prop) (others : S → S → Prop)

inductive Step : World S A T ε α → World S A T ε α → Prop
  | start {s : S} {threads : List (Program A ε α)} {spent : List T} (p : Program A ε α)
      (h : starts p) : Step ⟨s, threads, spent⟩ ⟨s, p :: threads, spent⟩
  | act {s : S} {spent : List T} {before after : List (Program A ε α)} {β : Type} (action : A β)
      (next : β → Program A ε α) (o : O) :
      Step ⟨s, before ++ .act action next :: after, spent⟩
        ⟨(m.perform action o s).2, before ++ next (m.perform action o s).1 :: after,
          (l.spends action).toList ++ spent⟩
  | drop {s : S} {spent : List T} {before after : List (Program A ε α)} (p : Program A ε α) :
      Step ⟨s, before ++ p :: after, spent⟩ ⟨s, before ++ after, spent⟩
  | crash {s : S} {threads : List (Program A ε α)} {spent : List T} :
      Step ⟨s, threads, spent⟩ ⟨s, [], spent⟩
  | other {s : S} {threads : List (Program A ε α)} {spent : List T} (s' : S) (h : others s s') :
      Step ⟨s, threads, spent⟩ ⟨s', threads, spent⟩

/-- Any number of things happen. -/
abbrev Steps : World S A T ε α → World S A T ε α → Prop :=
  Relation.ReflTransGen (Step m l starts others)

inductive GuardedStep (may : {β : Type} → A β → O → S → Prop) :
    World S A T ε α → World S A T ε α → Prop
  | act {s : S} {spent : List T} {before after : List (Program A ε α)} {β : Type} (action : A β)
      (next : β → Program A ε α) (o : O) (h : may action o s) :
      GuardedStep may ⟨s, before ++ .act action next :: after, spent⟩
        ⟨(m.perform action o s).2, before ++ next (m.perform action o s).1 :: after,
          (l.spends action).toList ++ spent⟩
  | idle {w w' : World S A T ε α} (h : Step m l starts others w w')
      (hstate : w'.state = w.state ∨ others w.state w'.state) : GuardedStep may w w'

variable {m l starts others} {w w' : World S A T ε α}

/-- **What every action preserves of the state, every interleaving preserves.** -/
theorem Step.state {R : S → S → Prop} (hrefl : ∀ s, R s s)
    (hact : ∀ {β : Type} (action : A β) o s, R s (m.perform action o s).2)
    (hother : ∀ s s', others s s' → R s s') (h : Step m l starts others w w') :
    R w.state w'.state := by
  cases h with
  | start p h => exact hrefl _
  | act action next o => exact hact action o _
  | drop p => exact hrefl _
  | crash => exact hrefl _
  | other s' h => exact hother _ s' h

theorem Steps.state {I : S → Prop}
    (hact : ∀ {β : Type} (action : A β) o s, I s → I (m.perform action o s).2)
    (hother : ∀ s s', others s s' → I s → I s') (h : Steps m l starts others w w')
    (hI : I w.state) : I w'.state := by
  induction h with
  | refl => exact hI
  | tail _ hstep ih =>
    exact hstep.state (fun _ h => h) (fun action o s h => hact action o s h)
      (fun s s' hs h => hother s s' hs h) ih

variable {may : {β : Type} → A β → O → S → Prop}

/-- **An invariant of the state** where actions are guarded. -/
theorem GuardedSteps.state {I : S → Prop}
    (hact : ∀ {β : Type} (action : A β) o s, may action o s → I s → I (m.perform action o s).2)
    (hother : ∀ s s', others s s' → I s → I s')
    (h : Relation.ReflTransGen (GuardedStep m l starts others may) w w') (hI : I w.state) :
    I w'.state := by
  induction h with
  | refl => exact hI
  | tail _ hstep ih =>
    cases hstep with
    | act action next o h => exact hact action o _ h ih
    | idle _ hstate =>
      obtain hstate | hstate := hstate
      · rwa [hstate]
      · exact hother _ _ hstate ih

def World.advance (m : Machine S A O) (l : Licence A T) (w : World S A T ε α) (o : O) :
    World S A T ε α :=
  match w.threads with
  | .act action next :: rest =>
    ⟨(m.perform action o w.state).2, next (m.perform action o w.state).1 :: rest,
      (l.spends action).toList ++ w.spent⟩
  | _ => w

theorem Steps.advance (os : List O) :
    Steps m l starts others w (os.foldl (World.advance m l) w) := by
  induction os generalizing w with
  | nil => exact .refl
  | cons o rest ih =>
    have hstep : Steps m l starts others w (w.advance m l o) := by
      rw [World.advance]
      split
      · rename_i action next threads hthreads
        obtain ⟨s, threads, spent⟩ := w
        subst hthreads
        have hact : Step m l starts others ⟨s, [] ++ .act action next :: threads, spent⟩ _ :=
          Step.act action next o
        exact .single hact
      · exact .refl
    exact hstep.trans ih

def World.passes (m : Machine S A O) (l : Licence A T) (check : {β : Type} → A β → O → S → Bool) :
    World S A T ε α → List O → Bool
  | _, [] => true
  | w, o :: rest =>
    (match w.threads with
      | .act action _ :: _ => check action o w.state
      | _ => true) && World.passes m l check (w.advance m l o) rest

theorem GuardedSteps.advance {check : {β : Type} → A β → O → S → Bool}
    (hcheck : ∀ {β : Type} (action : A β) o s, check action o s → may action o s) {os : List O}
    (h : w.passes m l check os) :
    Relation.ReflTransGen (GuardedStep m l starts others may) w
      (os.foldl (World.advance m l) w) := by
  induction os generalizing w with
  | nil => exact .refl
  | cons o rest ih =>
    rw [World.passes, Bool.and_eq_true] at h
    obtain ⟨hfirst, hrest⟩ := h
    refine .trans ?_ (ih hrest)
    rw [World.advance]
    split
    · rename_i action next threads hthreads
      obtain ⟨s, threads, spent⟩ := w
      subst hthreads
      have hact : GuardedStep m l starts others may
          ⟨s, [] ++ .act action next :: threads, spent⟩ _ :=
        GuardedStep.act action next o (hcheck action o s hfirst)
      exact .single hact
    · exact .refl

/-! ## Licences granted once -/

variable [DecidableEq T]

/-- Each licence is held or was spent once at most, and only one that was granted. -/
def Exclusive (l : Licence A T) (licensed : S → T → Prop) (w : World S A T ε α) : Prop :=
  ∃ holders : List (Option T × Program A ε α), holders.map Prod.snd = w.threads ∧
    (∀ holder ∈ holders, Disciplined l holder.1 holder.2) ∧
    ∀ t, (holders.map Prod.fst).count (some t) + w.spent.count t ≤ 1 ∧
      (0 < (holders.map Prod.fst).count (some t) + w.spent.count t → licensed w.state t)

/-- **One step** keeps licences exclusive. -/
theorem Step.exclusive {licensed : S → T → Prop}
    (hgrant : ∀ {β : Type} (action : A β) o s t,
      l.grants action (m.perform action o s).1 = some t →
        ¬ licensed s t ∧ licensed (m.perform action o s).2 t)
    (hkeep : ∀ {β : Type} (action : A β) o s t, licensed s t → licensed (m.perform action o s).2 t)
    (hother : ∀ s s', others s s' → ∀ t, licensed s t → licensed s' t)
    (hstart : ∀ p, starts p → Disciplined l none p) (h : Step m l starts others w w')
    (hw : Exclusive l licensed w) : Exclusive l licensed w' := by
  obtain ⟨holders, hthreads, hdisciplined, hcount⟩ := hw
  cases h with
  | start p h =>
    refine ⟨(none, p) :: holders, by rw [map_cons, hthreads], ?_, fun t => ?_⟩
    · exact forall_mem_cons.mpr ⟨hstart p h, hdisciplined⟩
    · simpa using hcount t
  | drop p =>
    obtain ⟨front, back, rfl, rfl, hback⟩ := map_eq_append_iff.mp hthreads
    obtain ⟨⟨held, q⟩, rest, rfl, -, rfl⟩ := map_eq_cons_iff.mp hback
    refine ⟨front ++ rest, by simp, fun holder hmem => hdisciplined holder ?_, fun t => ?_⟩
    · simp only [mem_append, mem_cons] at hmem ⊢
      exact hmem.imp_right Or.inr
    · obtain ⟨hle, hpos⟩ := hcount t
      simp only [map_append, map_cons, count_append, count_cons] at hle hpos ⊢
      exact ⟨by omega, fun h => hpos (by omega)⟩
  | crash =>
    refine ⟨[], rfl, by simp, fun t => ?_⟩
    obtain ⟨hle, hpos⟩ := hcount t
    simp only [map_nil, count_nil, Nat.zero_add] at hle hpos ⊢
    exact ⟨by omega, fun h => hpos (by omega)⟩
  | other s' h =>
    exact ⟨holders, hthreads, hdisciplined, fun t =>
      ⟨(hcount t).1, fun hpos => hother _ _ h t ((hcount t).2 hpos)⟩⟩
  | @act s spent before after β action next o =>
    obtain ⟨front, back, rfl, rfl, hback⟩ := map_eq_append_iff.mp hthreads
    obtain ⟨⟨held, q⟩, rest, rfl, hq, rfl⟩ := map_eq_cons_iff.mp hback
    obtain rfl : q = .act action next := hq
    have hown := hdisciplined (held, .act action next) (by simp)
    have hrest : ∀ held' p, Disciplined l held' p → ∀ holder ∈ front ++ (held', p) :: rest,
        Disciplined l holder.1 holder.2 := by
      intro held' p hp holder hmem
      simp only [mem_append, mem_cons] at hmem
      rcases hmem with hmem | rfl | hmem
      · exact hdisciplined holder (by simp [hmem])
      · exact hp
      · exact hdisciplined holder (by simp [hmem])
    rw [Disciplined] at hown
    rcases hspends : l.spends action with _ | t₀
    · -- an action without a licence: its answer may grant one
      rw [hspends] at hown
      refine ⟨front ++ (_, next (m.perform action o s).1) :: rest, by simp,
        hrest _ _ (hown (m.perform action o s).1), fun t => ?_⟩
      obtain ⟨hle, hpos⟩ := hcount t
      simp only [map_append, map_cons, count_append, count_cons,
        Option.toList_none, nil_append] at hle hpos ⊢
      rcases hgrants : l.grants action (m.perform action o s).1 with _ | t₁
      · rw [Option.none_or]
        exact ⟨hle, fun h => hkeep action o s t (hpos h)⟩
      · obtain ⟨hnot, hlicensed⟩ := hgrant action o s t₁ hgrants
        rw [Option.some_or]
        by_cases ht : t₁ = t
        · subst ht
          have hzero : ¬ 0 < _ := fun h => hnot (hpos h)
          simp only [beq_self_eq_true, if_true]
          exact ⟨by omega, fun _ => hlicensed⟩
        · have hne : (some t₁ == some t) = false := by simp [ht]
          rw [hne]
          simp only [Bool.false_eq_true, if_false]
          exact ⟨by omega, fun h => hkeep action o s t (hpos (by omega))⟩
    · -- the licence held is spent
      rw [hspends] at hown
      obtain ⟨rfl, hnext⟩ := hown
      refine ⟨front ++ (none, next (m.perform action o s).1) :: rest, by simp,
        hrest _ _ (hnext _), fun t => ?_⟩
      obtain ⟨hle, hpos⟩ := hcount t
      simp only [map_append, map_cons, count_append, count_cons,
        Option.toList_some, nil_append, cons_append] at hle hpos ⊢
      have hsame : (some t₀ == some t) = (t₀ == t) := by by_cases ht : t₀ = t <;> simp [ht]
      have hnone : ((none : Option T) == some t) = false := rfl
      rw [hsame] at hle hpos
      rw [hnone]
      simp only [Bool.false_eq_true, if_false]
      exact ⟨by omega, fun h => hkeep action o s t (hpos (by omega))⟩

/-- **What needs a licence that is granted once at most happens once at most.** -/
theorem Steps.spent {licensed : S → T → Prop}
    (hgrant : ∀ {β : Type} (action : A β) o s t,
      l.grants action (m.perform action o s).1 = some t →
        ¬ licensed s t ∧ licensed (m.perform action o s).2 t)
    (hkeep : ∀ {β : Type} (action : A β) o s t, licensed s t → licensed (m.perform action o s).2 t)
    (hother : ∀ s s', others s s' → ∀ t, licensed s t → licensed s' t)
    (hstart : ∀ p, starts p → Disciplined l none p) (h : Steps m l starts others w w')
    (hthreads : w.threads = []) (hspent : w.spent = []) (t : T) :
    w'.spent.count t ≤ 1 ∧ (0 < w'.spent.count t → licensed w'.state t) := by
  have hexclusive : Exclusive l licensed w' := by
    induction h with
    | refl => exact ⟨[], by simp [hthreads], by simp, by simp [hspent]⟩
    | tail _ hstep ih => exact hstep.exclusive hgrant hkeep hother hstart ih
  obtain ⟨holders, -, -, hcount⟩ := hexclusive
  obtain ⟨hle, hpos⟩ := hcount t
  exact ⟨by omega, fun h => hpos (by omega)⟩

end Worlds

end Threadbook
