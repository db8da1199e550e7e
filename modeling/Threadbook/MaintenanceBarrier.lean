import Mathlib
import Threadbook.Errors

/-!
# The maintenance barrier

Commands that publish hold a shared permit, and maintenance holds an exclusive one. The permits are
counts behind a mutex; who cannot have one sleeps until a permit is dropped. Beside the permits
there is the mutex of the PhotoKit runtime. A thread goes through the program of its command
(`IsProgram`), one call at a time (`Locks.advance`).
-/

namespace Threadbook.Maintenance

/-! ## The coordinator -/

/-- The greatest count. -/
def maxUsize : ℕ := 2 ^ 64 - 1

structure CoordinatorState where
  readers : ℕ
  writerActive : Bool
  writersWaiting : ℕ

namespace CoordinatorState

def refusesReaders (self : CoordinatorState) : Bool :=
  self.writerActive || self.writersWaiting != 0

/-- The exclusive permit has to wait. -/
def refusesWriters (self : CoordinatorState) : Bool :=
  self.writerActive || self.readers != 0

def acquireShared (self : CoordinatorState) : Except PlatformError CoordinatorState :=
  if self.readers = maxUsize then .error (.corrupt "maintenance_reader_count")
  else .ok { self with readers := self.readers + 1 }

/-- A thread says that it waits for the exclusive permit. -/
def awaitExclusive (self : CoordinatorState) : Except PlatformError CoordinatorState :=
  if self.writersWaiting = maxUsize then .error (.corrupt "maintenance_writer_count")
  else .ok { self with writersWaiting := self.writersWaiting + 1 }

/-- The exclusive permit is given to a thread that waits. -/
def acquireExclusive (self : CoordinatorState) : CoordinatorState :=
  { self with writersWaiting := self.writersWaiting - 1, writerActive := true }

def dropShared (self : CoordinatorState) : CoordinatorState :=
  { self with readers := self.readers - 1 }

def dropExclusive (self : CoordinatorState) : CoordinatorState := { self with writerActive := false }

end CoordinatorState

/-! ## Threads -/

/-- A call that takes or gives back a permit or the mutex of the runtime. -/
inductive Instruction
  | acquireShared
  | dropShared
  | acquireExclusive
  | awaitExclusive
  | dropExclusive
  | lockRuntime
  | unlockRuntime
  deriving DecidableEq

/-- A thread: the calls it has not returned from, and whether it sleeps in the first. -/
structure Thread where
  todo : List Instruction
  asleep : Bool

def sharedCommand : List Instruction := [.acquireShared, .dropShared]

/-- A deletion or a restore. -/
def exclusiveMaintenance : List Instruction := [.acquireExclusive, .dropExclusive]

def photokitCommand : List Instruction :=
  [.acquireShared, .lockRuntime, .unlockRuntime, .dropShared]

/-- A reconcile holds the runtime throughout, and takes a permit inside. -/
def reconcile : List Instruction := [.lockRuntime, .acquireShared, .dropShared, .unlockRuntime]

/-- A reconcile that ends before it has anything to publish: a replay, or a failure. -/
def reconcileEarly : List Instruction := [.lockRuntime, .unlockRuntime]

/-- What a thread may run. A PhotoKit command that is refused before it takes the runtime is a
`sharedCommand`; a reconcile at startup takes the runtime once more before. -/
inductive IsProgram : List Instruction → Prop
  | sharedCommand : IsProgram sharedCommand
  | exclusiveMaintenance : IsProgram exclusiveMaintenance
  | photokitCommand : IsProgram photokitCommand
  | reconcile : IsProgram reconcile
  | reconcileEarly : IsProgram reconcileEarly
  | startupReconcile : IsProgram (reconcileEarly ++ reconcile)
  | startupReconcileEarly : IsProgram (reconcileEarly ++ reconcileEarly)

/-- What is left to do after a permit was not given: the mutex is given back if it is held. -/
def abandoned (rest : List Instruction) : List Instruction :=
  if .lockRuntime ∈ rest then [] else rest.filter (· = .unlockRuntime)

/-! ## Steps -/

structure Locks where
  coordinator : CoordinatorState
  runtime : Bool

/-- What a call leads to: the locks, the thread, and whether all that sleep are woken. -/
structure Outcome where
  locks : Locks
  thread : Thread
  notifies : Bool

/-- A thread that is awake goes on after a call. -/
def Locks.goOn (self : Locks) (coordinator : CoordinatorState) (rest : List Instruction) : Outcome :=
  ⟨{ self with coordinator }, ⟨rest, false⟩, false⟩

/-- The next step of a thread, if it is not blocked. -/
def Locks.advance (self : Locks) (thread : Thread) : Option Outcome :=
  if thread.asleep then none
  else match thread.todo with
    | [] => none
    | .acquireShared :: rest =>
      if self.coordinator.refusesReaders then some ⟨self, ⟨thread.todo, true⟩, false⟩
      else match self.coordinator.acquireShared with
        | .ok coordinator => some (self.goOn coordinator rest)
        | .error _ => some (self.goOn self.coordinator (abandoned rest))
    | .acquireExclusive :: rest =>
      match self.coordinator.awaitExclusive with
      | .error _ => some (self.goOn self.coordinator (abandoned rest))
      | .ok coordinator =>
        if coordinator.refusesWriters then
          some ⟨{ self with coordinator }, ⟨.awaitExclusive :: rest, true⟩, false⟩
        else some (self.goOn coordinator.acquireExclusive rest)
    | .awaitExclusive :: rest =>
      if self.coordinator.refusesWriters then some ⟨self, ⟨thread.todo, true⟩, false⟩
      else some (self.goOn self.coordinator.acquireExclusive rest)
    | .dropShared :: rest =>
      some { self.goOn self.coordinator.dropShared rest with
        notifies := self.coordinator.dropShared.readers = 0 }
    | .dropExclusive :: rest =>
      some { self.goOn self.coordinator.dropExclusive rest with notifies := true }
    | .lockRuntime :: rest =>
      if self.runtime then none else some ⟨{ self with runtime := true }, ⟨rest, false⟩, false⟩
    | .unlockRuntime :: rest => some ⟨{ self with runtime := false }, ⟨rest, false⟩, false⟩

def Thread.woken (notifies : Bool) (self : Thread) : Thread :=
  { self with asleep := self.asleep && !notifies }

structure World where
  locks : Locks
  threads : List Thread

/-- Nobody holds or waits for anything. -/
def World.idle : World := ⟨⟨⟨0, false, 0⟩, false⟩, []⟩

inductive Advances (w : World) : World → Prop
  | mk (before after : List Thread) (thread : Thread) (outcome : Outcome)
      (threads : w.threads = before ++ thread :: after)
      (advance : w.locks.advance thread = some outcome) :
      Advances w ⟨outcome.locks, before.map (·.woken outcome.notifies) ++
        outcome.thread :: after.map (·.woken outcome.notifies)⟩

inductive Step (w : World) : World → Prop
  | start (program : List Instruction) (isProgram : IsProgram program) :
      Step w { w with threads := ⟨program, false⟩ :: w.threads }
  | advance (w' : World) (advances : Advances w w') : Step w w'
  | wakes (before after : List Thread) (thread : Thread)
      (threads : w.threads = before ++ thread :: after) :
      Step w { w with threads := before ++ { thread with asleep := false } :: after }

/-! ## Who holds what -/

namespace Thread

def holdsShared (self : Thread) : Bool :=
  self.todo.find? (fun i => i = .acquireShared ∨ i = .dropShared) = some .dropShared

def nextExclusive (self : Thread) : Option Instruction :=
  self.todo.find? fun i => i = .acquireExclusive ∨ i = .awaitExclusive ∨ i = .dropExclusive

def holdsExclusive (self : Thread) : Bool := self.nextExclusive = some .dropExclusive

def waitsExclusive (self : Thread) : Bool := self.nextExclusive = some .awaitExclusive

def holdsRuntime (self : Thread) : Bool :=
  self.todo.find? (fun i => i = .lockRuntime ∨ i = .unlockRuntime) = some .unlockRuntime

end Thread

end Threadbook.Maintenance
