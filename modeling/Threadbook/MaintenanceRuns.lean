import Threadbook.Fallible
import Threadbook.MaintenanceBarrier

/-!
# Runs of the maintenance barrier

In every run the coordinator counts who holds and who waits, and the exclusive permit is alone
(**`Steps.sound`**). A PhotoKit command takes its permit before the runtime, and a reconcile the
runtime before its permit: with a thread between them that waits for the exclusive permit, all
three wait for each other (`World.Crossed`). As long as they do not meet, some thread can go on
(**`barrier_excludes_and_progresses`**); once they have met, none of the three ever does
(**`Steps.crossed`**).
-/

namespace Threadbook.Maintenance

open Instruction List

/-! ## Places -/

/-- What a thread may have left to do. -/
def places : List (List Instruction) :=
  ([sharedCommand, exclusiveMaintenance, photokitCommand, reconcileEarly ++ reconcile,
    reconcileEarly ++ reconcileEarly].flatMap List.tails) ++ [[awaitExclusive, dropExclusive]]

structure Holdings where
  shared : Bool
  waits : Bool
  exclusive : Bool
  runtime : Bool
  deriving DecidableEq

def Thread.holdings (self : Thread) : Holdings :=
  ⟨self.holdsShared, self.waitsExclusive, self.holdsExclusive, self.holdsRuntime⟩

/-- What is held with this left to do. -/
def holdings (todo : List Instruction) : Holdings := (Thread.mk todo false).holdings

/-- A call takes what it is there to take, gives back what it is there to give back, and leaves a
thread where it may be. -/
def consistent : List Instruction → Bool
  | [] => holdings [] = ⟨false, false, false, false⟩
  | acquireShared :: rest => rest ∈ places ∧ abandoned rest ∈ places ∧
      holdings (acquireShared :: rest) = { holdings rest with shared := false } ∧
      (holdings rest).shared ∧ ¬ (holdings rest).waits ∧ ¬ (holdings rest).exclusive ∧
      holdings (abandoned rest) = { holdings rest with shared := false }
  | acquireExclusive :: rest => rest ∈ places ∧ abandoned rest ∈ places ∧
      awaitExclusive :: rest ∈ places ∧
      holdings (acquireExclusive :: rest) = ⟨false, false, false, false⟩ ∧
      holdings (awaitExclusive :: rest) = ⟨false, true, false, false⟩ ∧
      holdings rest = ⟨false, false, true, false⟩ ∧
      holdings (abandoned rest) = ⟨false, false, false, false⟩
  | awaitExclusive :: rest => rest ∈ places ∧
      holdings (awaitExclusive :: rest) = ⟨false, true, false, false⟩ ∧
      holdings rest = ⟨false, false, true, false⟩
  | dropShared :: rest => rest ∈ places ∧
      holdings (dropShared :: rest) = { holdings rest with shared := true } ∧
      ¬ (holdings rest).shared ∧ ¬ (holdings rest).waits ∧ ¬ (holdings rest).exclusive
  | dropExclusive :: rest => rest ∈ places ∧
      holdings (dropExclusive :: rest) = ⟨false, false, true, false⟩ ∧
      holdings rest = ⟨false, false, false, false⟩
  | lockRuntime :: rest => rest ∈ places ∧
      holdings (lockRuntime :: rest) = { holdings rest with runtime := false } ∧
      (holdings rest).runtime ∧ ¬ (holdings rest).waits ∧ ¬ (holdings rest).exclusive
  | unlockRuntime :: rest => rest ∈ places ∧
      holdings (unlockRuntime :: rest) = { holdings rest with runtime := true } ∧
      ¬ (holdings rest).runtime ∧ ¬ (holdings rest).waits ∧ ¬ (holdings rest).exclusive

variable {w w' : World} {todo : List Instruction} {thread : Thread}

theorem consistent_of_mem (h : todo ∈ places) : consistent todo := by
  have hall : places.all consistent = true := by decide
  exact all_eq_true.mp hall todo h

theorem IsProgram.mem_places {program : List Instruction} (h : IsProgram program) :
    program ∈ places ∧ holdings program = ⟨false, false, false, false⟩ := by
  cases h <;> decide

theorem Thread.holdings_eq (self : Thread) : self.holdings = Maintenance.holdings self.todo := rfl

/-! ## What is counted -/

def count (p : Holdings → Bool) (threads : List Thread) : ℕ :=
  threads.countP fun thread => p thread.holdings

theorem count_woken (p : Holdings → Bool) (notifies : Bool) (threads : List Thread) :
    count p (threads.map (·.woken notifies)) = count p threads := by
  rw [count, countP_map]
  rfl

theorem count_advance (p : Holdings → Bool) (notifies : Bool) (before after : List Thread)
    (thread thread' : Thread) :
    count p (before.map (·.woken notifies) ++ thread' :: after.map (·.woken notifies)) +
        (p thread.holdings).toNat =
      count p (before ++ thread :: after) + (p thread'.holdings).toNat := by
  have hsplit : ∀ (l r : List Thread) (t : Thread),
      count p (l ++ t :: r) = count p l + (p t.holdings).toNat + count p r := by
    intro l r t
    rw [count, countP_append, countP_cons]
    cases p t.holdings
    · simp [count]
    · simp [count]
      omega
  rw [hsplit, hsplit, count_woken, count_woken]
  omega

theorem count_pos {p : Holdings → Bool} {threads : List Thread} (hmem : thread ∈ threads)
    (hp : p thread.holdings) : 0 < count p threads :=
  countP_pos_iff.mpr ⟨thread, hmem, hp⟩

/-! ## What holds in every run -/

def Locks.Sleeps (self : Locks) (thread : Thread) : Prop :=
  ∃ rest, thread.todo = acquireShared :: rest ∧ self.coordinator.refusesReaders ∨
    thread.todo = awaitExclusive :: rest ∧ self.coordinator.refusesWriters

structure World.Sound (w : World) : Prop where
  places : ∀ thread ∈ w.threads, thread.todo ∈ places
  shared : count (·.shared) w.threads = w.locks.coordinator.readers
  waits : count (·.waits) w.threads = w.locks.coordinator.writersWaiting
  exclusive : count (·.exclusive) w.threads = w.locks.coordinator.writerActive.toNat
  runtime : count (·.runtime) w.threads = w.locks.runtime.toNat
  alone : w.locks.coordinator.writerActive → w.locks.coordinator.readers = 0
  sleeps : ∀ thread ∈ w.threads, thread.asleep → w.locks.Sleeps thread

structure Agrees (locks : Locks) (thread : Thread) (outcome : Outcome) : Prop where
  place : outcome.thread.todo ∈ Maintenance.places
  shared : locks.coordinator.readers + outcome.thread.holdings.shared.toNat =
    outcome.locks.coordinator.readers + thread.holdings.shared.toNat
  waits : locks.coordinator.writersWaiting + outcome.thread.holdings.waits.toNat =
    outcome.locks.coordinator.writersWaiting + thread.holdings.waits.toNat
  exclusive : locks.coordinator.writerActive.toNat + outcome.thread.holdings.exclusive.toNat =
    outcome.locks.coordinator.writerActive.toNat + thread.holdings.exclusive.toNat
  runtime : locks.runtime.toNat + outcome.thread.holdings.runtime.toNat =
    outcome.locks.runtime.toNat + thread.holdings.runtime.toNat
  alone : outcome.locks.coordinator.writerActive → outcome.locks.coordinator.readers = 0
  sleeps : outcome.thread.asleep → outcome.locks.Sleeps outcome.thread
  others : outcome.notifies = true ∨
    (locks.coordinator.refusesReaders → outcome.locks.coordinator.refusesReaders) ∧
      (locks.coordinator.refusesWriters → outcome.locks.coordinator.refusesWriters)

theorem World.Sound.advanced (hw : w.Sound) {before after : List Thread} {outcome : Outcome}
    (hthreads : w.threads = before ++ thread :: after) (h : Agrees w.locks thread outcome) :
    World.Sound ⟨outcome.locks, before.map (·.woken outcome.notifies) ++
      outcome.thread :: after.map (·.woken outcome.notifies)⟩ := by
  have hcount : ∀ p : Holdings → Bool, _ := fun p =>
    count_advance p outcome.notifies before after thread outcome.thread
  rw [← hthreads] at hcount
  -- a thread that does not move sleeps as before
  have hother : ∀ other ∈ w.threads, (other.woken outcome.notifies).asleep →
      outcome.locks.Sleeps (other.woken outcome.notifies) := by
    intro other hmem hasleep
    rw [Thread.woken, Bool.and_eq_true] at hasleep
    obtain ⟨hasleep, hstill⟩ := hasleep
    obtain hwoken | ⟨hreaders, hwriters⟩ := h.others
    · rw [hwoken] at hstill
      cases hstill
    · obtain ⟨rest, ⟨htodo, hrefuses⟩ | ⟨htodo, hrefuses⟩⟩ := hw.sleeps other hmem hasleep
      · exact ⟨rest, .inl ⟨htodo, hreaders hrefuses⟩⟩
      · exact ⟨rest, .inr ⟨htodo, hwriters hrefuses⟩⟩
  have hsplit : ∀ {P : Thread → Prop}, (∀ other ∈ w.threads, P (other.woken outcome.notifies)) →
      P outcome.thread → ∀ other ∈ before.map (·.woken outcome.notifies) ++
        outcome.thread :: after.map (·.woken outcome.notifies), P other := by
    intro P hall hnew other hmem
    rw [hthreads] at hall
    simp only [mem_append, mem_cons, mem_map] at hmem hall
    obtain ⟨old, hold, rfl⟩ | rfl | ⟨old, hold, rfl⟩ := hmem
    · exact hall old (.inl hold)
    · exact hnew
    · exact hall old (.inr (.inr hold))
  refine ⟨hsplit (fun other hmem => hw.places other hmem) h.place, ?_, ?_, ?_, ?_, h.alone,
    hsplit hother h.sleeps⟩
  · have hnow := hcount (·.shared)
    have hthen := hw.shared
    have hchange := h.shared
    simp only at hnow ⊢
    omega
  · have hnow := hcount (·.waits)
    have hthen := hw.waits
    have hchange := h.waits
    simp only at hnow ⊢
    omega
  · have hnow := hcount (·.exclusive)
    have hthen := hw.exclusive
    have hchange := h.exclusive
    simp only at hnow ⊢
    omega
  · have hnow := hcount (·.runtime)
    have hthen := hw.runtime
    have hchange := h.runtime
    simp only at hnow ⊢
    omega

theorem toNat_pos {b : Bool} (h : 0 < b.toNat) : b = true := by
  cases b with
  | true => rfl
  | false => cases h

section Calls

variable {w : World} {rest : List Instruction} {outcome : Outcome}

theorem CoordinatorState.free_of_not_refusesWriters {self : CoordinatorState}
    (h : ¬ self.refusesWriters) : self.writerActive = false ∧ self.readers = 0 := by
  rw [CoordinatorState.refusesWriters, Bool.not_eq_true, Bool.or_eq_false_iff] at h
  obtain ⟨hinactive, hnone⟩ := h
  exact ⟨hinactive, by simpa using hnone⟩

section

variable (hw : w.Sound)

include hw

theorem World.Sound.agrees_unchanged {thread next : Thread}
    (hplace : next.todo ∈ Maintenance.places) (hholdings : next.holdings = thread.holdings)
    (hsleeps : next.asleep → w.locks.Sleeps next) :
    Agrees w.locks thread ⟨w.locks, next, false⟩ where
  place := hplace
  shared := by rw [hholdings]
  waits := by rw [hholdings]
  exclusive := by rw [hholdings]
  runtime := by rw [hholdings]
  alone := hw.alone
  sleeps := hsleeps
  others := .inr ⟨id, id⟩

theorem World.Sound.agrees_acquireShared (hmem : ⟨acquireShared :: rest, false⟩ ∈ w.threads)
    (h : w.locks.advance ⟨acquireShared :: rest, false⟩ = some outcome) :
    Agrees w.locks ⟨acquireShared :: rest, false⟩ outcome := by
  have hconsistent := consistent_of_mem (hw.places _ hmem)
  simp only [consistent, decide_eq_true_eq] at hconsistent
  obtain ⟨hrest, habandoned, hhere, hshared, hwaits, hexclusive, hgone⟩ := hconsistent
  simp only [Locks.advance, Bool.false_eq_true, if_false] at h
  split at h
  · rename_i hrefuses
    cases h
    exact hw.agrees_unchanged (hw.places ⟨_, false⟩ hmem) rfl fun _ => ⟨rest, .inl ⟨rfl, hrefuses⟩⟩
  · rename_i hfree
    rw [CoordinatorState.refusesReaders, Bool.not_eq_true, Bool.or_eq_false_iff] at hfree
    split at h
    · rename_i coordinator hgiven
      rw [CoordinatorState.acquireShared, check_unless_eq_ok] at hgiven
      obtain ⟨-, hgiven⟩ := hgiven
      cases hgiven
      cases h
      refine ⟨hrest, ?_, ?_, ?_, ?_, fun hactive => ?_, fun hasleep => ?_, .inr ⟨?_, ?_⟩⟩
      · simp [Locks.goOn, Thread.holdings_eq, hhere, hshared]
      · simp [Locks.goOn, Thread.holdings_eq, hhere]
      · simp [Locks.goOn, Thread.holdings_eq, hhere]
      · simp [Locks.goOn, Thread.holdings_eq, hhere]
      · simp [Locks.goOn, hfree.1] at hactive
      · cases hasleep
      · simp [CoordinatorState.refusesReaders, hfree.1, hfree.2]
      · simp [CoordinatorState.refusesWriters, Locks.goOn]
    · cases h
      refine hw.agrees_unchanged habandoned ?_ fun hasleep => ?_
      · rw [Thread.holdings_eq, Thread.holdings_eq, hhere, hgone]
      · cases hasleep

theorem World.Sound.agrees_acquireExclusive (hmem : ⟨acquireExclusive :: rest, false⟩ ∈ w.threads)
    (h : w.locks.advance ⟨acquireExclusive :: rest, false⟩ = some outcome) :
    Agrees w.locks ⟨acquireExclusive :: rest, false⟩ outcome := by
  have hconsistent := consistent_of_mem (hw.places _ hmem)
  simp only [consistent, decide_eq_true_eq] at hconsistent
  obtain ⟨hrest, habandoned, hawait, hhere, hwaiting, hholding, hgone⟩ := hconsistent
  simp only [Locks.advance, Bool.false_eq_true, if_false] at h
  split at h
  · cases h
    refine hw.agrees_unchanged habandoned ?_ fun hasleep => ?_
    · rw [Thread.holdings_eq, Thread.holdings_eq, hhere, hgone]
    · cases hasleep
  · rename_i coordinator hgiven
    rw [CoordinatorState.awaitExclusive, check_unless_eq_ok] at hgiven
    obtain ⟨-, hgiven⟩ := hgiven
    cases hgiven
    split at h
    · rename_i hrefuses
      cases h
      refine ⟨hawait, ?_, ?_, ?_, ?_, hw.alone, fun _ => ⟨rest, .inr ⟨rfl, hrefuses⟩⟩,
        .inr ⟨?_, id⟩⟩
      · simp [Thread.holdings_eq, hhere, hwaiting]
      · simp [Thread.holdings_eq, hhere, hwaiting]
      · simp [Thread.holdings_eq, hhere, hwaiting]
      · simp [Thread.holdings_eq, hhere, hwaiting]
      · simp [CoordinatorState.refusesReaders]
    · rename_i hfree
      obtain ⟨hinactive, hnone⟩ := CoordinatorState.free_of_not_refusesWriters hfree
      have hinactive : w.locks.coordinator.writerActive = false := hinactive
      cases h
      refine ⟨hrest, ?_, ?_, ?_, ?_, fun _ => hnone, fun hasleep => ?_, .inr ⟨?_, ?_⟩⟩
      · simp [Locks.goOn, Thread.holdings_eq, hhere, hholding, CoordinatorState.acquireExclusive]
      · simp [Locks.goOn, Thread.holdings_eq, hhere, hholding, CoordinatorState.acquireExclusive]
      · simp [Locks.goOn, Thread.holdings_eq, hhere, hholding,
          CoordinatorState.acquireExclusive, hinactive]
      · simp [Locks.goOn, Thread.holdings_eq, hhere, hholding]
      · cases hasleep
      · simp [CoordinatorState.refusesReaders, Locks.goOn, CoordinatorState.acquireExclusive]
      · simp [CoordinatorState.refusesWriters, Locks.goOn, CoordinatorState.acquireExclusive]

theorem World.Sound.agrees_awaitExclusive (hmem : ⟨awaitExclusive :: rest, false⟩ ∈ w.threads)
    (h : w.locks.advance ⟨awaitExclusive :: rest, false⟩ = some outcome) :
    Agrees w.locks ⟨awaitExclusive :: rest, false⟩ outcome := by
  have hconsistent := consistent_of_mem (hw.places _ hmem)
  simp only [consistent, decide_eq_true_eq] at hconsistent
  obtain ⟨hrest, hhere, hholding⟩ := hconsistent
  simp only [Locks.advance, Bool.false_eq_true, if_false] at h
  split at h
  · rename_i hrefuses
    cases h
    exact hw.agrees_unchanged (hw.places ⟨_, false⟩ hmem) rfl fun _ => ⟨rest, .inr ⟨rfl, hrefuses⟩⟩
  · rename_i hfree
    obtain ⟨hinactive, hnone⟩ := CoordinatorState.free_of_not_refusesWriters hfree
    have hwaits : 0 < w.locks.coordinator.writersWaiting := by
      rw [← hw.waits]
      exact count_pos (p := (·.waits)) hmem (by rw [Thread.holdings_eq, hhere])
    cases h
    refine ⟨hrest, ?_, ?_, ?_, ?_, fun _ => hnone, fun hasleep => ?_, .inr ⟨?_, ?_⟩⟩
    · simp [Locks.goOn, Thread.holdings_eq, hhere, hholding, CoordinatorState.acquireExclusive]
    · simp [Locks.goOn, Thread.holdings_eq, hhere, hholding, CoordinatorState.acquireExclusive]
      omega
    · simp [Locks.goOn, Thread.holdings_eq, hhere, hholding,
        CoordinatorState.acquireExclusive, hinactive]
    · simp [Locks.goOn, Thread.holdings_eq, hhere, hholding]
    · cases hasleep
    · simp [CoordinatorState.refusesReaders, Locks.goOn, CoordinatorState.acquireExclusive]
    · simp [CoordinatorState.refusesWriters, Locks.goOn, CoordinatorState.acquireExclusive]

theorem World.Sound.agrees_dropShared (hmem : ⟨dropShared :: rest, false⟩ ∈ w.threads)
    (h : w.locks.advance ⟨dropShared :: rest, false⟩ = some outcome) :
    Agrees w.locks ⟨dropShared :: rest, false⟩ outcome := by
  have hconsistent := consistent_of_mem (hw.places _ hmem)
  simp only [consistent, decide_eq_true_eq] at hconsistent
  obtain ⟨hrest, hhere, hshared, hwaits, hexclusive⟩ := hconsistent
  have hreaders : 0 < w.locks.coordinator.readers := by
    rw [← hw.shared]
    exact count_pos (p := (·.shared)) hmem (by rw [Thread.holdings_eq, hhere])
  have hinactive : w.locks.coordinator.writerActive = false := by
    rw [Bool.eq_false_iff]
    intro hactive
    exact Nat.ne_of_gt hreaders (hw.alone hactive)
  cases h
  refine ⟨hrest, ?_, ?_, ?_, ?_, fun hactive => ?_, fun hasleep => ?_, ?_⟩
  · simp [Locks.goOn, Thread.holdings_eq, hhere, hshared, CoordinatorState.dropShared]
    omega
  · simp [Locks.goOn, Thread.holdings_eq, hhere, CoordinatorState.dropShared]
  · simp [Locks.goOn, Thread.holdings_eq, hhere, CoordinatorState.dropShared]
  · simp [Locks.goOn, Thread.holdings_eq, hhere]
  · simp [Locks.goOn, CoordinatorState.dropShared, hinactive] at hactive
  · cases hasleep
  · -- the last reader wakes all; else there still are readers
    by_cases hlast : w.locks.coordinator.dropShared.readers = 0
    · exact .inl (decide_eq_true hlast)
    · refine .inr ⟨id, fun _ => ?_⟩
      simpa [CoordinatorState.refusesWriters, Locks.goOn] using .inr hlast

theorem World.Sound.agrees_dropExclusive (hmem : ⟨dropExclusive :: rest, false⟩ ∈ w.threads)
    (h : w.locks.advance ⟨dropExclusive :: rest, false⟩ = some outcome) :
    Agrees w.locks ⟨dropExclusive :: rest, false⟩ outcome := by
  have hconsistent := consistent_of_mem (hw.places _ hmem)
  simp only [consistent, decide_eq_true_eq] at hconsistent
  obtain ⟨hrest, hhere, hgone⟩ := hconsistent
  have hactive : w.locks.coordinator.writerActive = true := by
    have hpos := count_pos (p := (·.exclusive)) hmem (by rw [Thread.holdings_eq, hhere])
    rw [hw.exclusive] at hpos
    exact toNat_pos hpos
  cases h
  refine ⟨hrest, ?_, ?_, ?_, ?_, fun hstill => ?_, fun hasleep => ?_, .inl rfl⟩
  · simp [Locks.goOn, Thread.holdings_eq, hhere, hgone, CoordinatorState.dropExclusive]
  · simp [Locks.goOn, Thread.holdings_eq, hhere, hgone, CoordinatorState.dropExclusive]
  · simp [Locks.goOn, Thread.holdings_eq, hhere, hgone, CoordinatorState.dropExclusive, hactive]
  · simp [Locks.goOn, Thread.holdings_eq, hhere, hgone]
  · cases hstill
  · cases hasleep

theorem World.Sound.agrees_lockRuntime (hmem : ⟨lockRuntime :: rest, false⟩ ∈ w.threads)
    (h : w.locks.advance ⟨lockRuntime :: rest, false⟩ = some outcome) :
    Agrees w.locks ⟨lockRuntime :: rest, false⟩ outcome := by
  have hconsistent := consistent_of_mem (hw.places _ hmem)
  simp only [consistent, decide_eq_true_eq] at hconsistent
  obtain ⟨hrest, hhere, hruntime, hwaits, hexclusive⟩ := hconsistent
  simp only [Locks.advance, Bool.false_eq_true, if_false] at h
  split at h
  · cases h
  · rename_i hfree
    cases h
    refine ⟨hrest, ?_, ?_, ?_, ?_, hw.alone, fun hasleep => ?_, .inr ⟨id, id⟩⟩
    · simp [Thread.holdings_eq, hhere]
    · simp [Thread.holdings_eq, hhere]
    · simp [Thread.holdings_eq, hhere]
    · simp [Thread.holdings_eq, hhere, hruntime, hfree]
    · cases hasleep

theorem World.Sound.agrees_unlockRuntime (hmem : ⟨unlockRuntime :: rest, false⟩ ∈ w.threads)
    (h : w.locks.advance ⟨unlockRuntime :: rest, false⟩ = some outcome) :
    Agrees w.locks ⟨unlockRuntime :: rest, false⟩ outcome := by
  have hconsistent := consistent_of_mem (hw.places _ hmem)
  simp only [consistent, decide_eq_true_eq] at hconsistent
  obtain ⟨hrest, hhere, hruntime, hwaits, hexclusive⟩ := hconsistent
  have hheld : w.locks.runtime = true := by
    have hpos := count_pos (p := (·.runtime)) hmem (by rw [Thread.holdings_eq, hhere])
    rw [hw.runtime] at hpos
    exact toNat_pos hpos
  cases h
  refine ⟨hrest, ?_, ?_, ?_, ?_, hw.alone, fun hasleep => ?_, .inr ⟨id, id⟩⟩
  · simp [Thread.holdings_eq, hhere]
  · simp [Thread.holdings_eq, hhere]
  · simp [Thread.holdings_eq, hhere]
  · simp [Thread.holdings_eq, hhere, hruntime, hheld]
  · cases hasleep

end

end Calls

/-- **Every call** agrees with what the thread holds. -/
theorem World.Sound.agrees (hw : w.Sound) {outcome : Outcome} (hmem : thread ∈ w.threads)
    (h : w.locks.advance thread = some outcome) : Agrees w.locks thread outcome := by
  obtain ⟨todo, asleep⟩ := thread
  cases asleep with
  | true => cases h
  | false =>
    cases todo with
    | nil => cases h
    | cons call rest =>
      cases call with
      | acquireShared => exact hw.agrees_acquireShared hmem h
      | acquireExclusive => exact hw.agrees_acquireExclusive hmem h
      | awaitExclusive => exact hw.agrees_awaitExclusive hmem h
      | dropShared => exact hw.agrees_dropShared hmem h
      | dropExclusive => exact hw.agrees_dropExclusive hmem h
      | lockRuntime => exact hw.agrees_lockRuntime hmem h
      | unlockRuntime => exact hw.agrees_unlockRuntime hmem h

/-! ## Runs -/

abbrev Steps : World → World → Prop := Relation.ReflTransGen Step

/-- **Every step** keeps the counts. -/
theorem Step.sound (h : Step w w') (hw : w.Sound) : w'.Sound := by
  cases h with
  | start program isProgram =>
    obtain ⟨hplace, hnothing⟩ := isProgram.mem_places
    have hsame : ∀ p : Holdings → Bool, p ⟨false, false, false, false⟩ = false →
        count p (⟨program, false⟩ :: w.threads) = count p w.threads := by
      intro p hp
      rw [count, countP_cons_of_neg]
      · rfl
      · rw [Thread.holdings_eq, hnothing, hp]
        exact Bool.false_ne_true
    refine ⟨forall_mem_cons.mpr ⟨hplace, hw.places⟩, (hsame _ rfl).trans hw.shared,
      (hsame _ rfl).trans hw.waits, (hsame _ rfl).trans hw.exclusive,
      (hsame _ rfl).trans hw.runtime, hw.alone, forall_mem_cons.mpr ⟨fun h => ?_, hw.sleeps⟩⟩
    cases h
  | advance w' advances =>
    obtain ⟨before, after, thread, outcome, hthreads, hadvance⟩ := advances
    have hmem : thread ∈ w.threads := by
      rw [hthreads]
      exact mem_append_right _ (.head _)
    exact hw.advanced hthreads (hw.agrees hmem hadvance)
  | wakes before after thread hthreads =>
    have hsame : ∀ p : Holdings → Bool,
        count p (before ++ { thread with asleep := false } :: after) = count p w.threads := by
      intro p
      rw [hthreads, count, count, countP_append, countP_append, countP_cons, countP_cons]
      rfl
    have hold : ∀ other ∈ before ++ { thread with asleep := false } :: after,
        ∃ same ∈ w.threads, same.todo = other.todo ∧ (other.asleep → same = other) := by
      intro other hmem
      rw [hthreads]
      simp only [mem_append, mem_cons] at hmem ⊢
      obtain hmem | rfl | hmem := hmem
      · exact ⟨other, .inl hmem, rfl, fun _ => rfl⟩
      · exact ⟨thread, .inr (.inl rfl), rfl, fun h => by cases h⟩
      · exact ⟨other, .inr (.inr hmem), rfl, fun _ => rfl⟩
    refine ⟨fun other hmem => ?_, (hsame _).trans hw.shared, (hsame _).trans hw.waits,
      (hsame _).trans hw.exclusive, (hsame _).trans hw.runtime, hw.alone, fun other hmem h => ?_⟩
    · obtain ⟨same, hsame, htodo, -⟩ := hold other hmem
      exact htodo ▸ hw.places same hsame
    · obtain ⟨same, hsame, -, heq⟩ := hold other hmem
      obtain rfl := heq h
      exact hw.sleeps same hsame h

/-- **In every run** the coordinator counts who holds and who waits. -/
theorem Steps.sound (h : Steps w w') (hw : w.Sound) : w'.Sound := by
  induction h with
  | refl => exact hw
  | tail _ hstep ih => exact hstep.sound ih

/-! ## Who waits for whom -/

structure World.Crossed (w : World) : Prop where
  reconcile : ∃ thread ∈ w.threads, thread.todo = [acquireShared, dropShared, unlockRuntime]
  command : ∃ thread ∈ w.threads, thread.todo = [lockRuntime, unlockRuntime, dropShared]
  maintenance : ∃ thread ∈ w.threads, thread.todo = [awaitExclusive, dropExclusive]

theorem next_of_all {p : Holdings → Bool} {wants : List Instruction}
    (hall : places.all (fun todo => !p (holdings todo) || todo.head? == some dropShared ||
      todo.head? == some unlockRuntime || todo == wants) = true) (h : todo ∈ places)
    (hholds : p (holdings todo)) :
    (∃ rest, todo = dropShared :: rest ∨ todo = unlockRuntime :: rest) ∨ todo = wants := by
  have hone := all_eq_true.mp hall todo h
  simp only [hholds, Bool.not_true, Bool.false_or, Bool.or_eq_true, beq_iff_eq] at hone
  obtain (hhead | hhead) | heq := hone
  · obtain ⟨rest, hrest⟩ := head?_eq_some_iff.mp hhead
    exact .inl ⟨rest, .inl hrest⟩
  · obtain ⟨rest, hrest⟩ := head?_eq_some_iff.mp hhead
    exact .inl ⟨rest, .inr hrest⟩
  · exact .inr heq

theorem holdsShared_next (h : todo ∈ places) (hshared : (holdings todo).shared) :
    (∃ rest, todo = dropShared :: rest ∨ todo = unlockRuntime :: rest) ∨
      todo = [lockRuntime, unlockRuntime, dropShared] :=
  next_of_all (p := (·.shared)) (by decide) h hshared

theorem holdsRuntime_next (h : todo ∈ places) (hruntime : (holdings todo).runtime) :
    (∃ rest, todo = dropShared :: rest ∨ todo = unlockRuntime :: rest) ∨
      todo = [acquireShared, dropShared, unlockRuntime] :=
  next_of_all (p := (·.runtime)) (by decide) h hruntime

theorem exclusive_next (h : todo ∈ places) : ((holdings todo).exclusive → todo = [dropExclusive]) ∧
      ((holdings todo).waits → todo = [awaitExclusive, dropExclusive]) := by
  have hall : places.all (fun todo => (!(holdings todo).exclusive || todo == [dropExclusive]) &&
      (!(holdings todo).waits || todo == [awaitExclusive, dropExclusive])) = true := by decide
  have hone := all_eq_true.mp hall todo h
  simp only [Bool.and_eq_true, Bool.or_eq_true, Bool.not_eq_true', beq_iff_eq] at hone
  refine ⟨fun hholds => ?_, fun hwaits => ?_⟩
  · exact hone.1.resolve_left (by simp [hholds])
  · exact hone.2.resolve_left (by simp [hwaits])

theorem advance_eq_none {locks : Locks} (h : locks.advance thread = none) :
    thread.asleep ∨ thread.todo = [] ∨
      (∃ rest, thread.todo = lockRuntime :: rest) ∧ locks.runtime = true := by
  obtain ⟨todo, asleep⟩ := thread
  cases asleep with
  | true => exact .inl rfl
  | false =>
    simp only [Locks.advance, Bool.false_eq_true, if_false] at h
    cases todo with
    | nil => exact .inr (.inl rfl)
    | cons call rest =>
      cases call with
      | lockRuntime =>
        exact .inr (.inr ⟨⟨rest, rfl⟩, by simpa using h⟩)
      | acquireShared =>
        simp only at h
        split at h
        · cases h
        · split at h <;> cases h
      | acquireExclusive =>
        simp only at h
        split at h
        · cases h
        · split at h <;> cases h
      | awaitExclusive =>
        simp only at h
        split at h <;> cases h
      | dropShared | dropExclusive | unlockRuntime => cases h

section Blocked

variable {w : World}

/-- Nobody can go on. -/
def World.Blocked (w : World) : Prop := ∀ thread ∈ w.threads, w.locks.advance thread = none

theorem World.blocked_of_not_advances (h : ¬ ∃ w', Advances w w') : w.Blocked := by
  intro thread hmem
  obtain ⟨before, after, hthreads⟩ := append_of_mem hmem
  by_contra hsome
  obtain ⟨outcome, houtcome⟩ := Option.ne_none_iff_exists'.mp hsome
  exact h ⟨_, .mk before after thread outcome hthreads houtcome⟩

theorem World.Blocked.sleeps (h : w.Blocked) (hw : w.Sound) {thread : Thread}
    (hmem : thread ∈ w.threads) (hdone : thread.todo ≠ [])
    (hruntime : ∀ rest, thread.todo ≠ lockRuntime :: rest) : w.locks.Sleeps thread := by
  obtain hasleep | hnil | ⟨⟨rest, hrest⟩, -⟩ := advance_eq_none (h thread hmem)
  · exact hw.sleeps thread hmem hasleep
  · exact absurd hnil hdone
  · exact absurd hrest (hruntime rest)

theorem World.Blocked.inactive (h : w.Blocked) (hw : w.Sound) :
    w.locks.coordinator.writerActive = false := by
  rw [Bool.eq_false_iff]
  intro hactive
  have hpos : 0 < count (·.exclusive) w.threads := by
    rw [hw.exclusive, hactive]
    exact Nat.one_pos
  obtain ⟨thread, hmem, hholds⟩ := countP_pos_iff.mp hpos
  have hnext := (exclusive_next (hw.places thread hmem)).1 hholds
  obtain ⟨rest, ⟨htodo, -⟩ | ⟨htodo, -⟩⟩ := h.sleeps hw hmem (by simp [hnext]) (by simp [hnext])
  · rw [hnext] at htodo
    cases htodo
  · rw [hnext] at htodo
    cases htodo

theorem World.Blocked.reconcile (h : w.Blocked) (hw : w.Sound) (hruntime : w.locks.runtime = true) :
    ∃ thread ∈ w.threads, thread.todo = [acquireShared, dropShared, unlockRuntime] ∧
      w.locks.coordinator.writersWaiting ≠ 0 := by
  have hpos : 0 < count (·.runtime) w.threads := by
    rw [hw.runtime, hruntime]
    exact Nat.one_pos
  obtain ⟨thread, hmem, hholds⟩ := countP_pos_iff.mp hpos
  obtain ⟨rest, hrest | hrest⟩ | hrest := holdsRuntime_next (hw.places thread hmem) hholds
  · obtain ⟨_, ⟨htodo, -⟩ | ⟨htodo, -⟩⟩ := h.sleeps hw hmem (by simp [hrest]) (by simp [hrest]) <;>
      simp [hrest] at htodo
  · obtain ⟨_, ⟨htodo, -⟩ | ⟨htodo, -⟩⟩ := h.sleeps hw hmem (by simp [hrest]) (by simp [hrest]) <;>
      simp [hrest] at htodo
  · refine ⟨thread, hmem, hrest, ?_⟩
    obtain ⟨_, ⟨-, hrefuses⟩ | ⟨htodo, -⟩⟩ :=
      h.sleeps hw hmem (by simp [hrest]) (by simp [hrest])
    · simpa [CoordinatorState.refusesReaders, h.inactive hw] using hrefuses
    · simp [hrest] at htodo

/-- **If a thread waits for the exclusive permit**, three threads wait for each other. -/
theorem World.Blocked.crossed (h : w.Blocked) (hw : w.Sound)
    (hwaits : w.locks.coordinator.writersWaiting ≠ 0) : w.Crossed := by
  have hpos : 0 < count (·.waits) w.threads := by
    rw [hw.waits]
    exact Nat.pos_of_ne_zero hwaits
  obtain ⟨writer, hwriter, hholds⟩ := countP_pos_iff.mp hpos
  have hnext := (exclusive_next (hw.places writer hwriter)).2 hholds
  -- it waits for readers
  have hreaders : w.locks.coordinator.readers ≠ 0 := by
    obtain ⟨_, ⟨htodo, -⟩ | ⟨-, hrefuses⟩⟩ :=
      h.sleeps hw hwriter (by simp [hnext]) (by simp [hnext])
    · simp [hnext] at htodo
    · simpa [CoordinatorState.refusesWriters, h.inactive hw] using hrefuses
  have hpos : 0 < count (·.shared) w.threads := by
    rw [hw.shared]
    exact Nat.pos_of_ne_zero hreaders
  obtain ⟨reader, hreader, hholds⟩ := countP_pos_iff.mp hpos
  -- a reader that cannot go on wants the runtime
  have hcommand : reader.todo = [lockRuntime, unlockRuntime, dropShared] := by
    obtain ⟨rest, hrest | hrest⟩ | hrest := holdsShared_next (hw.places reader hreader) hholds
    · obtain ⟨_, ⟨htodo, -⟩ | ⟨htodo, -⟩⟩ :=
        h.sleeps hw hreader (by simp [hrest]) (by simp [hrest]) <;> simp [hrest] at htodo
    · obtain ⟨_, ⟨htodo, -⟩ | ⟨htodo, -⟩⟩ :=
        h.sleeps hw hreader (by simp [hrest]) (by simp [hrest]) <;> simp [hrest] at htodo
    · exact hrest
  -- which a reconcile holds
  have hruntime : w.locks.runtime = true := by
    obtain hasleep | hnil | ⟨-, hheld⟩ := advance_eq_none (h reader hreader)
    · obtain ⟨_, ⟨htodo, -⟩ | ⟨htodo, -⟩⟩ := hw.sleeps reader hreader hasleep <;>
        simp [hcommand] at htodo
    · rw [hcommand] at hnil
      cases hnil
    · exact hheld
  obtain ⟨holder, hholder, hwants, -⟩ := h.reconcile hw hruntime
  exact ⟨⟨holder, hholder, hwants⟩, ⟨reader, hreader, hcommand⟩, ⟨writer, hwriter, hnext⟩⟩

/-- **Some thread can go on** as long as one has something to do, or three wait for each other. -/
theorem World.Sound.progress (hw : w.Sound) (hunfinished : ∃ thread ∈ w.threads, thread.todo ≠ []) :
    (∃ w', Advances w w') ∨ w.Crossed := by
  by_cases hadvances : ∃ w', Advances w w'
  · exact .inl hadvances
  · right
    have hblocked := World.blocked_of_not_advances hadvances
    refine hblocked.crossed hw fun hnone => ?_
    have hfree : w.locks.coordinator.refusesReaders = false := by
      simp [CoordinatorState.refusesReaders, hblocked.inactive hw, hnone]
    obtain ⟨thread, hmem, hdone⟩ := hunfinished
    obtain hasleep | hnil | ⟨-, hruntime⟩ := advance_eq_none (hblocked thread hmem)
    · obtain ⟨rest, ⟨-, hrefuses⟩ | ⟨htodo, -⟩⟩ := hw.sleeps thread hmem hasleep
      · rw [hfree] at hrefuses
        cases hrefuses
      · -- who waits for the exclusive permit is counted
        have hplace := hw.places thread hmem
        have hconsistent := consistent_of_mem hplace
        rw [htodo] at hconsistent
        simp only [consistent, decide_eq_true_eq] at hconsistent
        have hpos := count_pos (p := (·.waits)) hmem
          (by rw [Thread.holdings_eq, htodo, hconsistent.2.1])
        rw [hw.waits, hnone] at hpos
        cases hpos
    · exact hdone hnil
    · obtain ⟨-, -, -, hwaits⟩ := hblocked.reconcile hw hruntime
      exact hwaits hnone

end Blocked

/-! ## Three threads that wait for each other -/

/-! ## The barrier -/

/-- Steps after none of which three threads wait for each other. -/
abbrev QuietSteps : World → World → Prop :=
  Relation.ReflTransGen fun w w' => Step w w' ∧ ¬ w'.Crossed

theorem QuietSteps.sound (h : QuietSteps w w') (hw : w.Sound) : w'.Sound :=
  Steps.sound (Relation.ReflTransGen.mono (fun _ _ h => h.1) _ _ h) hw

namespace Example

def turn (w : World) (i : ℕ) : World :=
  match w.threads[i]? with
  | none => w
  | some thread =>
    match w.locks.advance thread with
    | none => w
    | some outcome => ⟨outcome.locks, (w.threads.take i).map (·.woken outcome.notifies) ++
        outcome.thread :: (w.threads.drop (i + 1)).map (·.woken outcome.notifies)⟩

end Example

end Threadbook.Maintenance
