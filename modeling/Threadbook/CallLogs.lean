import Threadbook.Interleaving

/-!
# What a call has done

A `LoggedWorld` is a shared state with calls on their way, each with a log of its deeds: the
actions it performed, their answers, and the states around them.

`Follows` is the logic of one call among others. Between two of its actions the others may do what
they like, as long as they keep an invariant and move along a relation. **logs_follow** carries it
over to all interleavings: whatever was to hold of a deed, given what its call did before, holds of
every deed in every log.
-/

namespace Threadbook

universe u

structure Deed (S : Type) (A : Type → Type u) : Type (max 1 u) where
  {β : Type}
  before : S
  action : A β
  answer : β
  after : S

structure LoggedCall (C S : Type) (A : Type → Type u) (ε α : Type) : Type (max 1 u) where
  call : C
  log : List (Deed S A)
  rest : Program A ε α

structure LoggedWorld (C S : Type) (A : Type → Type u) (ε α : Type) : Type (max 1 u) where
  state : S
  calls : List (LoggedCall C S A ε α)

variable {C S O ε α β : Type} {A : Type → Type u}

/-- What an action does in a state, given what the outside contributes. -/
def Machine.deed (m : Machine S A O) (action : A β) (o : O) (s : S) : Deed S A :=
  ⟨s, action, (m.perform action o s).1, (m.perform action o s).2⟩

variable {m : Machine S A O}

theorem Machine.deed_of_answer {action : A β} {o : O} {s : S} {answer : β}
    (h : (m.perform action o s).1 = answer) :
    m.deed action o s = ⟨s, action, answer, (m.perform action o s).2⟩ := by
  rw [Machine.deed, h]

section Worlds

variable (m : Machine S A O) (program : C → Program A ε α) (others : S → S → Prop)

inductive LoggedStep : LoggedWorld C S A ε α → LoggedWorld C S A ε α → Prop
  | start {s : S} {calls : List (LoggedCall C S A ε α)} (c : C) :
      LoggedStep ⟨s, calls⟩ ⟨s, ⟨c, [], program c⟩ :: calls⟩
  | act {s : S} {before after : List (LoggedCall C S A ε α)} {c : C} {log : List (Deed S A)}
      {β : Type} (action : A β) (next : β → Program A ε α) (o : O) :
      LoggedStep ⟨s, before ++ ⟨c, log, .act action next⟩ :: after⟩
        ⟨(m.perform action o s).2,
          before ++ ⟨c, log ++ [m.deed action o s], next (m.perform action o s).1⟩ :: after⟩
  | drop {s : S} {before after : List (LoggedCall C S A ε α)} (call : LoggedCall C S A ε α) :
      LoggedStep ⟨s, before ++ call :: after⟩ ⟨s, before ++ after⟩
  | crash {s : S} {calls : List (LoggedCall C S A ε α)} : LoggedStep ⟨s, calls⟩ ⟨s, []⟩
  | other {s : S} {calls : List (LoggedCall C S A ε α)} (s' : S) (h : others s s') :
      LoggedStep ⟨s, calls⟩ ⟨s', calls⟩

/-- Any number of things happen. -/
abbrev LoggedSteps : LoggedWorld C S A ε α → LoggedWorld C S A ε α → Prop :=
  Relation.ReflTransGen (LoggedStep m program others)

end Worlds

/-! ## One call among others -/

/-- The rules that calls keep to: an invariant of the state, what others may do to it, the actions
a call may perform, and what holds of a deed after what was done before. -/
structure LogRules (S : Type) (A : Type → Type u) : Type (max 1 u) where
  kept : S → Prop
  moves : S → S → Prop
  lawful : {β : Type} → A β → Prop
  demands : List (Deed S A) → Deed S A → Prop

def LogRules.Meets (rules : LogRules S A) (log : List (Deed S A)) : Prop :=
  ∀ before deed after, log = before ++ deed :: after → rules.demands before deed

theorem LogRules.Meets.nil (rules : LogRules S A) : rules.Meets [] := by
  intro before deed after h
  cases before <;> cases h

theorem LogRules.Meets.append {rules : LogRules S A} {log : List (Deed S A)} {deed : Deed S A}
    (h : rules.Meets log) (hdeed : rules.demands log deed) : rules.Meets (log ++ [deed]) := by
  intro before last after heq
  rcases List.eq_nil_or_concat after with rfl | ⟨front, final, rfl⟩
  · obtain ⟨rfl, hlast⟩ := List.append_inj' heq rfl
    obtain ⟨rfl, -⟩ := List.cons.inj hlast
    exact hdeed
  · have hlog : log ++ [deed] = (before ++ last :: front) ++ [final] := by simpa using heq
    exact h _ _ _ (List.append_inj' hlog rfl).1

/-- **A call follows the rules** from here on, and what it ends in, with its log and the state it
saw last, is as it should be. -/
def Follows (m : Machine S A O) (rules : LogRules S A)
    (ends : Except ε α → List (Deed S A) → S → Prop) :
    Program A ε α → List (Deed S A) → S → Prop
  | .done result, log, s => ends result log s
  | .act action next, log, s => rules.lawful action ∧ ∀ s' o, rules.kept s' → rules.moves s s' →
      rules.demands log (m.deed action o s') ∧
        Follows m rules ends (next (m.perform action o s').1) (log ++ [m.deed action o s'])
          (m.perform action o s').2

def Program.Only (kind : {β : Type} → A β → Prop) : Program A ε α → Prop
  | .done _ => True
  | .act action next => kind action ∧ ∀ answer, Program.Only kind (next answer)

section Rules

variable {m : Machine S A O} {rules : LogRules S A} {log : List (Deed S A)} {s : S}
  {ends : Except ε α → List (Deed S A) → S → Prop}

variable {f : β → Program A ε α} {p : Program A ε α}

theorem Follows.bind {p : Program A ε β}
    (h : Follows m rules (fun result log s =>
      match result with
      | .ok b => Follows m rules ends (f b) log s
      | .error e => ends (.error e) log s) p log s) : Follows m rules ends (p >>= f) log s := by
  induction p generalizing log s with
  | done result => rcases result with e | b <;> exact h
  | act action next ih =>
    refine ⟨h.1, fun s' o hkept hmoves => ?_⟩
    obtain ⟨hdemands, hnext⟩ := h.2 s' o hkept hmoves
    exact ⟨hdemands, ih _ hnext⟩

theorem Follows.mono {ends' : Except ε α → List (Deed S A) → S → Prop}
    (hends : ∀ result log s, ends result log s → ends' result log s)
    (h : Follows m rules ends p log s) : Follows m rules ends' p log s := by
  induction p generalizing log s with
  | done result => exact hends _ _ _ h
  | act action next ih =>
    refine ⟨h.1, fun s' o hkept hmoves => ?_⟩
    obtain ⟨hdemands, hnext⟩ := h.2 s' o hkept hmoves
    exact ⟨hdemands, ih _ hnext⟩

theorem Follows.later (htrans : ∀ a b c, rules.moves a b → rules.moves b c → rules.moves a c)
    {s' : S} (hmoves : rules.moves s s')
    (hends : ∀ result log s s', rules.moves s s' → ends result log s → ends result log s')
    (h : Follows m rules ends p log s) : Follows m rules ends p log s' := by
  cases p with
  | done result => exact hends _ _ _ _ hmoves h
  | act action next =>
    exact ⟨h.1, fun s'' o hkept hmoves' => h.2 s'' o hkept (htrans _ _ _ hmoves hmoves')⟩

theorem Program.Only.follows {kind : {β : Type} → A β → Prop}
    (hlawful : ∀ {β : Type} (action : A β), kind action → rules.lawful action)
    (hfree : ∀ {β : Type} (action : A β), kind action → ∀ log s answer s',
      rules.demands log ⟨s, action, answer, s'⟩) (h : p.Only kind) (log : List (Deed S A)) (s : S) :
    Follows m rules (fun _ _ _ => True) p log s := by
  induction p generalizing log s with
  | done result => trivial
  | act action next ih =>
    exact ⟨hlawful action h.1, fun s' o _ _ => ⟨hfree action h.1 _ _ _ _, ih _ (h.2 _) _ _⟩⟩

theorem Program.Only.bind {kind : {β : Type} → A β → Prop} {p : Program A ε β} (hp : p.Only kind)
    (hf : ∀ b, (f b).Only kind) : (p >>= f).Only kind := by
  induction p with
  | done result =>
    rcases result with e | b
    · trivial
    · exact hf b
  | act action next ih => exact ⟨hp.1, fun answer => ih answer (hp.2 answer)⟩

/-- **A check** that passes is followed by the rest. -/
theorem Follows.check_bind (herror : ∀ e log s, ends (.error e) log s) {r : Except ε β}
    (h : ∀ b, r = .ok b → Follows m rules ends (f b) log s) :
    Follows m rules ends (Program.check r >>= f) log s := by
  rcases r with e | b
  · exact herror e log s
  · exact h b rfl

/-- **An action** is followed by what is made of its answer. -/
theorem Follows.perform_bind {action : A β} (hlawful : rules.lawful action)
    (h : ∀ s' o, rules.kept s' → rules.moves s s' → rules.demands log (m.deed action o s') ∧
      ∀ b, (m.perform action o s').1 = b →
        Follows m rules ends (f b) (log ++ [m.deed action o s']) (m.perform action o s').2) :
    Follows m rules ends (Program.perform action >>= f) log s :=
  ⟨hlawful, fun s' o hkept hmoves =>
    ⟨(h s' o hkept hmoves).1, (h s' o hkept hmoves).2 _ rfl⟩⟩

/-- **A call** of which something is known where it succeeds is followed by the rest. -/
theorem Follows.call_bind (herror : ∀ e log s, ends (.error e) log s) {action : A (Except ε β)}
    (hlawful : rules.lawful action)
    (h : ∀ s' o, rules.kept s' → rules.moves s s' → rules.demands log (m.deed action o s') ∧
      ∀ b, (m.perform action o s').1 = .ok b →
        Follows m rules ends (f b) (log ++ [m.deed action o s']) (m.perform action o s').2) :
    Follows m rules ends (Program.call action >>= f) log s := by
  refine ⟨hlawful, fun s' o hkept hmoves => ?_⟩
  obtain ⟨hdemands, hnext⟩ := h s' o hkept hmoves
  refine ⟨hdemands, ?_⟩
  rcases hanswer : (m.perform action o s').1 with e | b
  · exact herror e _ _
  · exact hnext b hanswer

end Rules

/-! ## All interleavings -/

/-- **Calls that follow the rules do so in all interleavings**: the invariant is kept, and what is
demanded holds of every deed in every log. -/
theorem logs_follow {program : C → Program A ε α} {others : S → S → Prop} {kept : S → Prop}
    {moves : S → S → Prop} {lawful : {β : Type} → A β → Prop}
    {demands : C → List (Deed S A) → Deed S A → Prop} (hrefl : ∀ s, moves s s)
    (htrans : ∀ a b c, moves a b → moves b c → moves a c)
    (hact : ∀ {β : Type} (action : A β) o s, lawful action → kept s →
      kept (m.perform action o s).2 ∧ moves s (m.perform action o s).2)
    (hother : ∀ s s', others s s' → kept s → kept s' ∧ moves s s')
    (hcalls : ∀ c s, kept s → Follows m ⟨kept, moves, lawful, demands c⟩ (fun _ _ _ => True)
      (program c) [] s) {w w' : LoggedWorld C S A ε α} (h : LoggedSteps m program others w w')
    (hkept : kept w.state) (hnone : w.calls = []) :
    kept w'.state ∧ ∀ call ∈ w'.calls, LogRules.Meets ⟨kept, moves, lawful, demands call.call⟩
      call.log := by
  -- each call has met the demands so far, and follows the rules from the state as it is
  let Good (s : S) (call : LoggedCall C S A ε α) : Prop :=
    LogRules.Meets ⟨kept, moves, lawful, demands call.call⟩ call.log ∧
      Follows m ⟨kept, moves, lawful, demands call.call⟩ (fun _ _ _ => True) call.rest call.log s
  have hlater : ∀ {s s' : S} {call : LoggedCall C S A ε α}, moves s s' → Good s call →
      Good s' call := fun hmoves hgood =>
    ⟨hgood.1, Follows.later htrans hmoves (fun _ _ _ _ _ _ => trivial) hgood.2⟩
  have hall : kept w'.state ∧ ∀ call ∈ w'.calls, Good w'.state call := by
    induction h with
    | refl => exact ⟨hkept, by simp [hnone]⟩
    | tail _ hstep ih =>
      obtain ⟨hkept, hgood⟩ := ih
      cases hstep with
      | start c =>
        refine ⟨hkept, List.forall_mem_cons.mpr ⟨⟨.nil _, hcalls c _ hkept⟩, hgood⟩⟩
      | @act s before after c log β action next o =>
        obtain ⟨hmeets, hlawful, hnext⟩ := hgood ⟨c, log, .act action next⟩ (by simp)
        obtain ⟨hdemands, hfollows⟩ := hnext s o hkept (hrefl s)
        obtain ⟨hkept', hmoves⟩ := hact action o s hlawful hkept
        refine ⟨hkept', fun call hcall => ?_⟩
        simp only [List.mem_append, List.mem_cons] at hcall
        rcases hcall with hcall | rfl | hcall
        · exact hlater hmoves (hgood call (by simp [hcall]))
        · exact ⟨hmeets.append hdemands, hfollows⟩
        · exact hlater hmoves (hgood call (by simp [hcall]))
      | drop call =>
        refine ⟨hkept, fun other hother => hgood other ?_⟩
        simp only [List.mem_append, List.mem_cons] at hother ⊢
        exact hother.imp_right Or.inr
      | crash => exact ⟨hkept, by simp⟩
      | other s' h =>
        obtain ⟨hkept', hmoves⟩ := hother _ _ h hkept
        exact ⟨hkept', fun call hcall => hlater hmoves (hgood call hcall)⟩
  exact ⟨hall.1, fun call hcall => (hall.2 call hcall).1⟩

/-! ## Running a call -/

def LoggedWorld.advance (m : Machine S A O) (w : LoggedWorld C S A ε α) (o : O) :
    LoggedWorld C S A ε α :=
  match w.calls with
  | ⟨c, log, .act action next⟩ :: calls =>
    ⟨(m.perform action o w.state).2,
      ⟨c, log ++ [m.deed action o w.state], next (m.perform action o w.state).1⟩ :: calls⟩
  | _ => w

theorem LoggedSteps.advance {program : C → Program A ε α} {others : S → S → Prop}
    (outsides : List O) (w : LoggedWorld C S A ε α) :
    LoggedSteps m program others w (outsides.foldl (LoggedWorld.advance m) w) := by
  induction outsides generalizing w with
  | nil => exact .refl
  | cons o outsides ih =>
    refine .trans ?_ (ih _)
    obtain ⟨s, calls⟩ := w
    match calls with
    | [] => exact .refl
    | ⟨c, log, .done result⟩ :: calls => exact .refl
    | ⟨c, log, .act action next⟩ :: calls =>
      have hstep : LoggedStep m program others ⟨s, [] ++ ⟨c, log, .act action next⟩ :: calls⟩ _ :=
        .act action next o
      exact .single hstep

end Threadbook
