import Mathlib
import Threadbook.Fallible
import Threadbook.Interleaving

/-!
# Programs that may be interrupted

A `Task` changes a state by statements, each of which may fail, and a crash may end it between
any two of them. What a task needs of the outside (a clock, the answer of another program) and
whether a statement fails is contributed when the statement runs; `Rules` say what may be
contributed where, and where a crash may strike.

`Guarded` is the logic of such tasks: before every statement an invariant holds, every statement
makes a move that is allowed, and what the task ends with satisfies a postcondition. It has a
rule for every construct, and `Happens.sound` carries it over to whole runs, in which tasks
start, fail, crash and start again. With rules under which nothing fails, the same proof says
that the task succeeds.
-/

namespace Threadbook

variable {S O ε α β : Type}

/-- A program that changes a state by statements. -/
abbrev Task (S O ε α : Type) : Type 1 := Program (fun β => O → S → β × S) ε α

namespace Task

/-- One statement, in one piece. It fails if the outside says so. -/
def statement (effect : O → Fallible S ε β) : Task S (Option ε × O) ε β :=
  Program.call (A := fun β => Option ε × O → S → β × S) fun o s =>
    match o.1 with
    | some e => (.error e, s)
    | none => effect o.2 s

def check (result : Except ε α) : Task S O ε α := Program.check result

/-- Run a task to its end, with what the outside contributes to its statements in turn. -/
def exec : Task S O ε α → (ℕ → O) → S → Except ε α × S
  | .done result, _, s => (result, s)
  | .act action next, os, s =>
    exec (next (action (os 0) s).1) (fun n => os (n + 1)) (action (os 0) s).2

end Task

/-! ## Rules -/

/-- What a task must keep, and what may happen to it. -/
structure Rules (S O : Type) where
  kept : S → Prop
  moves : S → S → Prop
  allows : S → O → Prop

/-- The task keeps the rules from a state on, and ends as the postcondition says. -/
def Guarded (rules : Rules S O) : Task S O ε α → (Except ε α → S → Prop) → S → Prop
  | .done result, Q, s => Q result s
  | .act action next, Q, s => rules.kept s ∧ ∀ o, rules.allows s o →
      rules.moves s (action o s).2 ∧ Guarded rules (next (action o s).1) Q (action o s).2

/-- What holds in the end: of a value and its state, or of the state after an error. -/
def Ends (Q : α → S → Prop) (failed : S → Prop) : Except ε α → S → Prop
  | .ok a, s => Q a s
  | .error _, s => failed s

namespace Guarded

variable {rules : Rules S O} {task : Task S O ε α} {s : S} {failed : S → Prop}

variable {Q : Except ε α → S → Prop}

theorem pure {a : α} (h : Q (.ok a) s) :
    Guarded rules (Pure.pure a : Task S O ε α) Q s := h

theorem check {result : Except ε α} (h : Q result s) :
    Guarded rules (Task.check result) Q s := h

theorem mono {P : Except ε α → S → Prop} (h : Guarded rules task P s)
    (himp : ∀ r s, P r s → Q r s) :
    Guarded rules task Q s := by
  induction task generalizing s with
  | done result => exact himp _ _ h
  | act action next ih =>
    obtain ⟨hkept, hnext⟩ := h
    refine ⟨hkept, ?_⟩
    intro o ho
    obtain ⟨hmoves, hrest⟩ := hnext o ho
    exact ⟨hmoves, ih _ hrest⟩

theorem weaken {rules' : Rules S O} (h : Guarded rules task Q s)
    (hkept : ∀ s, rules.kept s → rules'.kept s)
    (hmoves : ∀ s s', rules.kept s → rules.moves s s' → rules'.moves s s')
    (hallows : ∀ s o, rules'.allows s o → rules.allows s o) : Guarded rules' task Q s := by
  induction task generalizing s with
  | done result => exact h
  | act action next ih =>
    obtain ⟨hs, hnext⟩ := h
    refine ⟨hkept s hs, ?_⟩
    intro o ho
    obtain ⟨hmove, hrest⟩ := hnext o (hallows s o ho)
    exact ⟨hmoves _ _ hs hmove, ih _ hrest⟩

theorem keep {kept I : S → Prop} {moves : S → S → Prop} {allows : S → O → Prop}
    (h : Guarded ⟨kept, moves, allows⟩ task Q s) (hI : ∀ s s', I s → moves s s' → I s') (hs : I s) :
    Guarded ⟨fun s => kept s ∧ I s, moves, allows⟩ task (fun r s => Q r s ∧ I s) s := by
  induction task generalizing s with
  | done result => exact ⟨h, hs⟩
  | act action next ih =>
    obtain ⟨hkept, hnext⟩ := h
    refine ⟨⟨hkept, hs⟩, ?_⟩
    intro o ho
    obtain ⟨hmove, hrest⟩ := hnext o ho
    exact ⟨hmove, ih _ hrest (hI _ _ hs hmove)⟩

theorem bind {f : α → Task S O ε β} {P : Except ε α → S → Prop} {Q : Except ε β → S → Prop}
    (h : Guarded rules task P s) (hok : ∀ a s, P (.ok a) s → Guarded rules (f a) Q s)
    (herror : ∀ e s, P (.error e) s → Q (.error e) s) : Guarded rules (task >>= f) Q s := by
  induction task generalizing s with
  | done result =>
    cases result with
    | error e => exact herror e s h
    | ok a => exact hok a s h
  | act action next ih =>
    obtain ⟨hkept, hnext⟩ := h
    refine ⟨hkept, ?_⟩
    intro o ho
    obtain ⟨hmoves, hrest⟩ := hnext o ho
    exact ⟨hmoves, ih _ hrest⟩

theorem step {f : α → Task S O ε β} {P : α → S → Prop} {Q : β → S → Prop}
    (h : Guarded rules task (Ends P failed) s)
    (hnext : ∀ a s, P a s → Guarded rules (f a) (Ends Q failed) s) :
    Guarded rules (task >>= f) (Ends Q failed) s :=
  h.bind hnext fun _ _ hfailed => hfailed

end Guarded

/-! ## Statements -/

/-- The rules for tasks made of statements: where a statement may fail, and what the outside may
contribute to one that does not. -/
structure Surroundings (S O : Type) where
  mayFail : S → Prop
  weather : O → Prop

def Surroundings.allows {ε : Type} (outside : Surroundings S O) (s : S) (o : Option ε × O) : Prop :=
  (o.1.isSome → outside.mayFail s) ∧ outside.weather o.2

section Statements

variable {outside : Surroundings S O} {kept : S → Prop} {moves : S → S → Prop}
  {effect : O → Fallible S ε β} {Q : Except ε β → S → Prop} {s : S}

/-- **The rule of statements.** -/
theorem Guarded.statement (hkept : kept s) (hstill : moves s s)
    (hmoves : ∀ o, outside.weather o → moves s (effect o s).2)
    (hresult : ∀ o, outside.weather o → Q (effect o s).1 (effect o s).2)
    (hfailure : ∀ e, outside.mayFail s → Q (.error e) s) :
    Guarded ⟨kept, moves, outside.allows⟩ (Task.statement effect) Q s := by
  refine ⟨hkept, ?_⟩
  rintro ⟨fault, o⟩ ⟨hfault, hweather⟩
  cases fault with
  | some e => exact ⟨hstill, hfailure e (hfault rfl)⟩
  | none => exact ⟨hmoves o hweather, hresult o hweather⟩

end Statements

/-! ## Runs -/

inductive Happens (allows : S → O → Prop) (mayCrash : S → Prop)
    (starts : S → S → Task S O ε α → Prop) (others : S → S → Prop) :
    S × Option (Task S O ε α) → S × Option (Task S O ε α) → Prop
  | start {s s' : S} {task : Task S O ε α} (h : starts s s' task) :
      Happens allows mayCrash starts others (s, none) (s', some task)
  | act {s : S} {γ : Type} (action : O → S → γ × S) (next : γ → Task S O ε α) (o : O)
      (h : allows s o) :
      Happens allows mayCrash starts others (s, some (.act action next))
        ((action o s).2, some (next (action o s).1))
  | finish {s : S} (result : Except ε α) :
      Happens allows mayCrash starts others (s, some (.done result)) (s, none)
  | crash {s : S} (task : Task S O ε α) (h : mayCrash s) :
      Happens allows mayCrash starts others (s, some task) (s, none)
  | other {s s' : S} (h : others s s') :
      Happens allows mayCrash starts others (s, none) (s', none)

variable {rules : Rules S O} {mayCrash : S → Prop} {starts : S → S → Task S O ε α → Prop}
  {others : S → S → Prop} {idle : S → Prop} {w w' : S × Option (Task S O ε α)}

def Sound (rules : Rules S O) (idle : S → Prop) (w : S × Option (Task S O ε α)) : Prop :=
  match w.2 with
  | none => idle w.1
  | some task => rules.kept w.1 ∧ Guarded rules task (fun _ s => idle s) w.1

/-- **One thing happens.** -/
theorem Happens.sound
    (hmoves : ∀ s s', rules.kept s → rules.moves s s' → rules.kept s')
    (hcrash : ∀ s, rules.kept s → mayCrash s → idle s)
    (hstarts : ∀ s s' task, idle s → starts s s' task →
      rules.kept s' ∧ Guarded rules task (fun _ s => idle s) s')
    (hothers : ∀ s s', idle s → others s s' → idle s')
    (h : Happens rules.allows mayCrash starts others w w') (hsound : Sound rules idle w) :
    Sound rules idle w' := by
  cases h with
  | start h => exact hstarts _ _ _ hsound h
  | act action next o h =>
    obtain ⟨hkept, -, hnext⟩ := hsound
    obtain ⟨hmove, hrest⟩ := hnext o h
    exact ⟨hmoves _ _ hkept hmove, hrest⟩
  | finish result => exact hsound.2
  | crash task h => exact hcrash _ hsound.1 h
  | other h => exact hothers _ _ hsound h

variable {os : ℕ → O} {task : Task S O ε α} {Q : Except ε α → S → Prop}

theorem Happens.exec {allows : S → O → Prop} (ho : ∀ n s, allows s (os n)) (task : Task S O ε α)
    (s : S) :
    Relation.ReflTransGen (Happens allows mayCrash starts others) (s, some task)
      ((task.exec os s).2, none) := by
  induction task generalizing s os with
  | done result => exact Relation.ReflTransGen.single (.finish result)
  | act action next ih =>
    exact Relation.ReflTransGen.head (.act action next (os 0) (ho 0 s))
      (ih _ (fun n => ho (n + 1)) _)

theorem Guarded.exec (ho : ∀ n s, rules.allows s (os n)) {s : S} (h : Guarded rules task Q s) :
    Q (task.exec os s).1 (task.exec os s).2 := by
  induction task generalizing s os with
  | done result => exact h
  | act action next ih => exact ih _ (fun n => ho (n + 1)) (h.2 (os 0) (ho 0 s)).2

theorem Guarded.exec_moves (ho : ∀ n s, rules.allows s (os n)) (hrefl : ∀ s, rules.moves s s)
    (htrans : ∀ s s' s'', rules.moves s s' → rules.moves s' s'' → rules.moves s s'') {s : S}
    (h : Guarded rules task Q s) : rules.moves s (task.exec os s).2 := by
  induction task generalizing s os with
  | done result => exact hrefl s
  | act action next ih =>
    obtain ⟨hmove, hrest⟩ := h.2 (os 0) (ho 0 s)
    exact htrans _ _ _ hmove (ih _ (fun n => ho (n + 1)) hrest)

/-- **What is known of a task and its state** while it runs, if nothing interrupts it. -/
theorem Guarded.exec_run {I : S × Option (Task S O ε α) → Prop} (ho : ∀ n s, rules.allows s (os n))
    (hact : ∀ (γ : Type) (action : O → S → γ × S) (next : γ → Task S O ε α) (o : O) (s : S),
      rules.allows s o → rules.moves s (action o s).2 → I (s, some (.act action next)) →
      I ((action o s).2, some (next (action o s).1)))
    (hfinish : ∀ (result : Except ε α) (s : S), I (s, some (.done result)) → I (s, none)) {s : S}
    (h : Guarded rules task Q s) (hI : I (s, some task)) : I ((task.exec os s).2, none) := by
  induction task generalizing s os with
  | done result => exact hfinish result s hI
  | act action next ih =>
    obtain ⟨hmove, hrest⟩ := h.2 (os 0) (ho 0 s)
    exact ih _ (fun n => ho (n + 1)) hrest (hact _ action next (os 0) s (ho 0 s) hmove hI)

end Threadbook
