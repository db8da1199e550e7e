import Mathlib.Data.List.Pairwise
import Threadbook.JobLeases

/-!
# Runs of the job queue

Workers claim jobs and settle them, each transaction at its own moment of a clock that does
not go back; a worker may be gone for any time, and use a lease it was given once whenever
it is back. A lease that was overtaken settles nothing, and what is settled stays
(**`job_leases`**). The attempts are bounded exactly as long as nobody takes over a job
whose last attempt ran out of time: `claim` does not look at the attempts.
-/

namespace Threadbook.Jobs

open Table List Fallible

variable {jobId : String} {nowMs : ℤ}

/-! ## A job on its own -/

/-- A lease that was given out, and until when. -/
structure Grant where
  lease : LeasedJob
  expiresAtMs : ℤ
  deriving DecidableEq

/-- Everything there is about one job; what was given out of it, the latest first. -/
structure JobView where
  row : Option JobRow
  result : Option JobResultRow
  failure : Option JobFailureRow
  grants : List Grant

inductive Move (jobId : String) (nowMs : ℤ) : JobView → JobView → Prop
  | enqueue {result : Option JobResultRow} {failure : Option JobFailureRow}
      {grants : List Grant} (idempotencyKey blobSha256 : String) :
      Move jobId nowMs ⟨none, result, failure, grants⟩
        ⟨some (queuedJob idempotencyKey blobSha256 nowMs), result, failure, grants⟩
  | claim {row : JobRow} {result : Option JobResultRow} {failure : Option JobFailureRow}
      {grants : List Grant} (owner : String) (expiresAtMs : ℤ)
      (hready : row.waiting nowMs ∨ row.expired nowMs) :
      Move jobId nowMs ⟨some row, result, failure, grants⟩
        ⟨some (row.leased owner expiresAtMs nowMs), result, failure,
          ⟨(row.leased owner expiresAtMs nowMs).lease jobId owner, expiresAtMs⟩ :: grants⟩
  | complete {row : JobRow} {result : Option JobResultRow} {failure : Option JobFailureRow}
      {grants : List Grant} (grant : Grant) (byteLength : ℕ) (hmem : grant ∈ grants)
      (hrunning : row.state = .running) (hfence : row.fence = grant.lease.fence) :
      Move jobId nowMs ⟨some row, result, failure, grants⟩
        ⟨some (row.released .succeeded row.availableAtMs nowMs),
          some (result.getD ⟨grant.lease.blobSha256, byteLength, grant.lease.owner,
            grant.lease.fence, nowMs⟩), failure, grants⟩
  | failPermanently {row : JobRow} {result : Option JobResultRow}
      {failure : Option JobFailureRow} {grants : List Grant} (failureCode userActionKey : String)
      (hrunning : row.state = .running) :
      Move jobId nowMs ⟨some row, result, failure, grants⟩
        ⟨some (row.released .failed row.availableAtMs nowMs), result,
          some ⟨failureCode, userActionKey, nowMs⟩, grants⟩
  | retry {row : JobRow} {result : Option JobResultRow} {failure : Option JobFailureRow}
      {grants : List Grant} (availableAtMs : ℤ) (hrunning : row.state = .running) :
      Move jobId nowMs ⟨some row, result, failure, grants⟩
        ⟨some (row.released .queued availableAtMs nowMs), result, failure, grants⟩

structure JobRow.Sound (row : JobRow) (v : JobView) : Prop where
  fence : row.fence = row.attempt
  attempt : v.grants.length = row.attempt
  retryLimit : row.retryLimit = verifyRetryLimit
  grants : ∀ grant ∈ v.grants, grant.lease.fence ≤ row.fence
  running : row.state = .running → ∃ latest ∈ v.grants.head?, row.leaseOwner = some latest.lease.owner ∧
    row.fence = latest.lease.fence ∧ row.leaseExpiresAtMs = some latest.expiresAtMs
  result : ∀ result ∈ v.result, row.state = .succeeded ∧ result.winningFence = row.fence ∧
    ∃ grant ∈ v.grants, grant.lease.owner = result.winningOwner ∧
      grant.lease.fence = result.winningFence
  failure : v.failure.isSome → row.state = .failed

structure JobView.Sound (v : JobView) : Prop where
  ordered : v.grants.Pairwise fun later earlier => earlier.lease.fence < later.lease.fence
  stored : ∀ row ∈ v.row, row.Sound v
  absent : v.row = none → v.result = none ∧ v.failure = none ∧ v.grants = []

variable {v : JobView} {grant : Grant}

theorem JobRow.Sound.unsettled {row : JobRow} (h : row.Sound v)
    (hlive : row.state = .queued ∨ row.state = .running) : v.result = none ∧ v.failure = none := by
  refine ⟨Option.eq_none_iff_forall_not_mem.mpr fun result hmem => ?_, ?_⟩
  · have hsucceeded := (h.result result hmem).1
    rcases hlive with hlive | hlive <;> simp [hlive] at hsucceeded
  · by_contra hsome
    have hfailed := h.failure (Option.isSome_iff_ne_none.mpr hsome)
    rcases hlive with hlive | hlive <;> simp [hlive] at hfailed

/-- **One move** keeps a job sound. -/
theorem JobView.Sound.move {v' : JobView} (h : v.Sound) (hmove : Move jobId nowMs v v') :
    v'.Sound := by
  obtain ⟨hordered, hstored, habsent⟩ := h
  cases hmove with
  | enqueue idempotencyKey blobSha256 =>
    obtain ⟨hresult, hfailure, hgrants⟩ := habsent rfl
    simp only at hresult hfailure hgrants
    subst hresult hfailure hgrants
    refine ⟨List.Pairwise.nil, ?_, by simp⟩
    rintro row ⟨rfl⟩
    constructor <;> simp [queuedJob]
  | claim owner expiresAtMs hready =>
    rename_i row result failure grants
    have hrow := hstored row rfl
    -- a job that may be claimed is not settled yet
    obtain ⟨hresult, hfailure⟩ := hrow.unsettled (hready.imp (·.1) (·.1))
    simp only at hresult hfailure
    subst hresult hfailure
    refine ⟨pairwise_cons.mpr ⟨fun earlier hmem => ?_, hordered⟩, ?_, by simp⟩
    · exact Nat.lt_succ_of_le (hrow.grants earlier hmem)
    · rintro row' ⟨rfl⟩
      refine ⟨?_, ?_, hrow.retryLimit, ?_, fun _ => ⟨_, rfl, rfl, rfl, rfl⟩, by simp, by simp⟩
      · simp [JobRow.leased, hrow.fence]
      · simp [JobRow.leased, hrow.attempt]
      · intro grant hmem
        rcases mem_cons.mp hmem with rfl | hmem
        · rfl
        · exact Nat.le_succ_of_le (hrow.grants grant hmem)
  | complete grant byteLength hmem hrunning hfence =>
    rename_i row result failure grants
    have hrow := hstored row rfl
    obtain ⟨hresult, hfailure⟩ := hrow.unsettled (.inr hrunning)
    simp only at hresult hfailure
    subst hresult hfailure
    refine ⟨hordered, ?_, by simp⟩
    rintro row' ⟨rfl⟩
    refine ⟨hrow.fence, hrow.attempt, hrow.retryLimit, hrow.grants, by simp [JobRow.released], ?_,
      by simp⟩
    rintro stored ⟨rfl⟩
    exact ⟨rfl, hfence.symm, grant, hmem, rfl, rfl⟩
  | failPermanently failureCode userActionKey hrunning =>
    rename_i row result failure grants
    have hrow := hstored row rfl
    obtain ⟨hresult, -⟩ := hrow.unsettled (.inr hrunning)
    simp only at hresult
    subst hresult
    refine ⟨hordered, ?_, by simp⟩
    rintro row' ⟨rfl⟩
    exact ⟨hrow.fence, hrow.attempt, hrow.retryLimit, hrow.grants, by simp [JobRow.released],
      by simp, fun _ => rfl⟩
  | retry availableAtMs hrunning =>
    rename_i row result failure grants
    have hrow := hstored row rfl
    obtain ⟨hresult, hfailure⟩ := hrow.unsettled (.inr hrunning)
    simp only at hresult hfailure
    subst hresult hfailure
    refine ⟨hordered, ?_, by simp⟩
    rintro row' ⟨rfl⟩
    exact ⟨hrow.fence, hrow.attempt, hrow.retryLimit, hrow.grants, by simp [JobRow.released],
      by simp, by simp⟩

def JobView.Settled (v : JobView) : Prop := ∃ row ∈ v.row, row.state.isTerminal = true

/-- **Nothing happens to a settled job.** -/
theorem Move.not_settled {v' : JobView} (h : Move jobId nowMs v v') : ¬ v.Settled := by
  rintro ⟨row, hmem, hterminal⟩
  cases h with
  | enqueue => cases hmem
  | claim owner expiresAtMs hready =>
    cases hmem
    rcases hready with hready | hready <;> simp [hready.1, JobState.isTerminal] at hterminal
  | complete _ _ _ hrunning _ | failPermanently _ _ hrunning | retry _ hrunning =>
    cases hmem
    simp [hrunning, JobState.isTerminal] at hterminal

/-! ## Commands -/

/-- The queue, the time, and every lease that was given out, the latest first. -/
structure World where
  tables : JobTables
  clock : ℤ
  issued : List Grant

def World.view (w : World) (jobId : String) : JobView :=
  ⟨w.tables.jobs.find? jobId, w.tables.results.find? jobId, w.tables.failures.find? jobId,
    w.issued.filter fun grant => grant.lease.jobId = jobId⟩

/-- What is called on the queue. -/
inductive Command
  | enqueue (jobId idempotencyKey blobSha256 : String)
  | claim (owner : String) (leaseMs : ℤ)
  | complete (leased : LeasedJob) (byteLength : ℕ)
  | failPermanently (leased : LeasedJob) (failureCode userActionKey : String)
  | retry (leased : LeasedJob)

def Command.lease? : Command → Option LeasedJob
  | .enqueue _ _ _ | .claim _ _ => none
  | .complete leased _ | .failPermanently leased _ _ | .retry leased => some leased

def Command.perform (w : World) (nowMs : ℤ) : Command → World
  | .enqueue jobId idempotencyKey blobSha256 =>
    ⟨(insertVerifyJob jobId idempotencyKey blobSha256 nowMs w.tables).2, nowMs, w.issued⟩
  | .claim owner leaseMs =>
    match Jobs.claim owner nowMs leaseMs w.tables with
    | (.ok (some leased), tables) => ⟨tables, nowMs, ⟨leased, nowMs + leaseMs⟩ :: w.issued⟩
    | (_, tables) => ⟨tables, nowMs, w.issued⟩
  | .complete leased byteLength =>
    ⟨(Jobs.complete leased byteLength nowMs w.tables).2, nowMs, w.issued⟩
  | .failPermanently leased failureCode userActionKey =>
    ⟨(Jobs.failPermanently leased failureCode userActionKey nowMs w.tables).2, nowMs, w.issued⟩
  | .retry leased => ⟨(Jobs.retry leased nowMs w.tables).2, nowMs, w.issued⟩

section Commands

variable {w : World}

theorem view_same (w : World) (nowMs : ℤ) (jobId : String) :
    (World.mk w.tables nowMs w.issued).view jobId = w.view jobId := rfl

/-- **A lease that holds** settles its own job and no other. -/
theorem view_settle {row : JobRow} (hmem : grant ∈ w.issued)
    (hholds : Holds w.tables grant.lease nowMs row) {tables : JobTables}
    (hother : ∀ jobId, jobId ≠ grant.lease.jobId →
      tables.jobs.find? jobId = w.tables.jobs.find? jobId ∧
      tables.results.find? jobId = w.tables.results.find? jobId ∧
      tables.failures.find? jobId = w.tables.failures.find? jobId)
    (hmove : ∀ result failure grants, grant ∈ grants →
      result = w.tables.results.find? grant.lease.jobId →
      failure = w.tables.failures.find? grant.lease.jobId →
      Move grant.lease.jobId nowMs ⟨some row, result, failure, grants⟩
        ⟨tables.jobs.find? grant.lease.jobId, tables.results.find? grant.lease.jobId,
          tables.failures.find? grant.lease.jobId, grants⟩) :
    (World.mk tables nowMs w.issued).view jobId = w.view jobId ∨
      Move jobId nowMs (w.view jobId) ((World.mk tables nowMs w.issued).view jobId) := by
  by_cases hid : jobId = grant.lease.jobId
  · subst hid
    right
    rw [World.view, World.view, hholds.stored]
    exact hmove _ _ _ (mem_filter.mpr ⟨hmem, by simp⟩) rfl rfl
  · left
    obtain ⟨hjob, hresult, hfailure⟩ := hother jobId hid
    simp only [World.view, hjob, hresult, hfailure]

/-- **One command** leaves a job alone, or is one of its moves. -/
theorem view_perform (command : Command)
    (hlease : ∀ leased ∈ command.lease?, ∃ grant ∈ w.issued, grant.lease = leased) :
    (command.perform w nowMs).view jobId = w.view jobId ∨
      Move jobId nowMs (w.view jobId) ((command.perform w nowMs).view jobId) := by
  cases command with
  | enqueue newId idempotencyKey blobSha256 =>
    rw [Command.perform]
    have hcases : (insertVerifyJob newId idempotencyKey blobSha256 nowMs w.tables).2 = w.tables ∨ _ :=
      insertVerifyJob_cases newId idempotencyKey blobSha256
    rcases hcases with hsame | ⟨hnew, hadded⟩
    · rw [hsame]
      exact .inl (view_same w nowMs jobId)
    · rw [hadded]
      by_cases hid : jobId = newId
      · subst hid
        right
        simp only [World.view, hnew, find?_put, if_true]
        exact Move.enqueue idempotencyKey blobSha256
      · left
        simp only [World.view, find?_put, if_neg hid]
  | claim owner leaseMs =>
    rcases hrun : Jobs.claim owner nowMs leaseMs w.tables with ⟨e | _ | leased, tables⟩
    · have hsame : tables = w.tables := atomically_of_error hrun
      simp only [Command.perform, hrun, hsame]
      exact .inl (view_same w nowMs jobId)
    · have hsame : tables = w.tables := by
        have h : (Jobs.claim owner nowMs leaseMs w.tables).2 = w.tables :=
          claim_none (by rw [hrun]; simp)
        rwa [hrun] at h
      simp only [Command.perform, hrun, hsame]
      exact .inl (view_same w nowMs jobId)
    · obtain ⟨-, claimed, row, hnext, -, -, rfl, rfl⟩ := claim_eq_ok.mp hrun
      obtain ⟨hstored, hclaimable⟩ := mem_of_nextInLine hnext
      simp only [Command.perform, hrun]
      by_cases hid : jobId = claimed
      · subst hid
        right
        simp only [World.view, hstored, find?_put, if_true, JobRow.lease, decide_true,
          filter_cons_of_pos]
        exact Move.claim owner (nowMs + leaseMs) hclaimable.1
      · left
        have hne : claimed ≠ jobId := Ne.symm hid
        simp [World.view, find?_put, if_neg hid, JobRow.lease, hne]
  | complete leased byteLength =>
    obtain ⟨grant, hmem, rfl⟩ := hlease leased rfl
    rw [Command.perform]
    rcases hrun : Jobs.complete grant.lease byteLength nowMs w.tables with ⟨e | u, tables⟩
    · obtain rfl : tables = w.tables := atomically_of_error hrun
      exact .inl (view_same w nowMs jobId)
    · obtain ⟨row, hholds, rfl⟩ := complete_eq_ok hrun
      refine view_settle hmem hholds (fun other hother => ?_) ?_
      · simp [find?_put, find?_insertOrIgnore, hother]
      · rintro result failure grants hgrant rfl rfl
        simp only [find?_put, find?_insertOrIgnore, if_true]
        exact Move.complete grant byteLength hgrant hholds.running hholds.fence
  | failPermanently leased failureCode userActionKey =>
    obtain ⟨grant, hmem, rfl⟩ := hlease leased rfl
    rw [Command.perform]
    rcases hrun : Jobs.failPermanently grant.lease failureCode userActionKey nowMs w.tables
      with ⟨e | u, tables⟩
    · obtain rfl : tables = w.tables := atomically_of_error hrun
      exact .inl (view_same w nowMs jobId)
    · obtain ⟨row, hholds, rfl⟩ := failPermanently_eq_ok hrun
      refine view_settle hmem hholds (fun other hother => ?_) ?_
      · simp [find?_put, hother]
      · rintro result failure grants - rfl rfl
        simp only [find?_put, if_true]
        exact Move.failPermanently failureCode userActionKey hholds.running
  | retry leased =>
    obtain ⟨grant, hmem, rfl⟩ := hlease leased rfl
    rw [Command.perform]
    rcases hrun : Jobs.retry grant.lease nowMs w.tables with ⟨e | requeued, tables⟩
    · obtain rfl : tables = w.tables := atomically_of_error hrun
      exact .inl (view_same w nowMs jobId)
    · obtain ⟨row, hholds, ⟨-, rfl⟩ | ⟨-, -, rfl⟩⟩ := retry_eq_ok hrun
      · exact .inl (view_same w nowMs jobId)
      · refine view_settle hmem hholds (fun other hother => ?_) ?_
        · simp [find?_put, hother]
        · rintro result failure grants - rfl rfl
          simp only [find?_put, if_true]
          exact Move.retry _ hholds.running

end Commands


/-! ## Runs -/

structure Moment where
  before : World
  nowMs : ℤ
  command : Command

def Moment.after (self : Moment) : World := self.command.perform self.before self.nowMs

structure Fresh (w : World) : Prop where
  jobs : w.tables.jobs = .empty
  results : w.tables.results = .empty
  failures : w.tables.failures = .empty
  issued : w.issued = []

/-- The queue after a run, and the moments of the run, the latest first. Workers use leases
they were given, in any order and as often as they like. -/
inductive Reachable : List Moment → World → Prop
  | fresh {w : World} (h : Fresh w) : Reachable [] w
  | command {log : List Moment} {w : World} (h : Reachable log w) (nowMs : ℤ)
      (hclock : w.clock ≤ nowMs) (command : Command)
      (hlease : ∀ leased ∈ command.lease?, ∃ grant ∈ w.issued, grant.lease = leased) :
      Reachable (⟨w, nowMs, command⟩ :: log) (command.perform w nowMs)

section Runs

variable {log : List Moment} {w : World}

/-- **Every job is sound** at any time. -/
theorem Reachable.sound (h : Reachable log w) (jobId : String) : (w.view jobId).Sound := by
  induction h with
  | fresh hfresh =>
    obtain ⟨hjobs, hresults, hfailures, hissued⟩ := hfresh
    simp only [World.view, hjobs, hresults, hfailures, hissued, find?_empty, filter_nil]
    exact ⟨List.Pairwise.nil, by simp, by simp⟩
  | @command log w h nowMs _ command hlease ih =>
    have hcases : (command.perform w nowMs).view jobId = w.view jobId ∨ _ :=
      view_perform command hlease
    rcases hcases with hsame | hmove
    · rwa [hsame]
    · exact ih.move hmove

def Given (w w' : World) : Prop := w.issued <:+ w'.issued

theorem given_perform (w : World) (nowMs : ℤ) (command : Command) :
    Given w (command.perform w nowMs) := by
  cases command with
  | claim owner leaseMs =>
    rcases hrun : Jobs.claim owner nowMs leaseMs w.tables with ⟨e | _ | leased, tables⟩ <;>
      simp [Given, Command.perform, hrun]
  | _ => exact suffix_refl _

def Kept (w w' : World) : Prop :=
  ∀ jobId, (w.view jobId).Settled → w'.view jobId = w.view jobId

/-- **What is settled stays**, from any moment of a run to its end. -/
theorem Reachable.kept (h : Reachable log w) :
    ∀ moment ∈ log, Given moment.after w ∧ Kept moment.before w := by
  induction h with
  | fresh => simp
  | @command log w h nowMs _ command hlease ih =>
    have hkept : Kept w (command.perform w nowMs) := fun jobId hsettled =>
      (view_perform command hlease).resolve_right fun hmove => hmove.not_settled hsettled
    intro moment hmem
    rcases mem_cons.mp hmem with rfl | hmem
    · exact ⟨suffix_refl _, hkept⟩
    · obtain ⟨hgiven, hbefore⟩ := ih moment hmem
      refine ⟨hgiven.trans (given_perform w nowMs command), fun jobId hsettled => ?_⟩
      have hsame := hbefore jobId hsettled
      rw [hkept jobId (by rwa [hsame]), hsame]

theorem Reachable.before (h : Reachable log w) :
    ∀ moment ∈ log, ∃ earlier, Reachable earlier moment.before := by
  induction h with
  | fresh => simp
  | @command log w h nowMs _ command hlease ih =>
    intro moment hmem
    rcases mem_cons.mp hmem with rfl | hmem
    · exact ⟨log, h⟩
    · exact ih moment hmem

/-! ## What leases are good for -/

/-- The lease is the last one given out of its job, and its time is not over. -/
def Current (w : World) (grant : Grant) (nowMs : ℤ) : Prop :=
  nowMs < grant.expiresAtMs ∧
    ∀ other ∈ w.issued, other.lease.jobId = grant.lease.jobId →
      other.lease.fence ≤ grant.lease.fence

theorem JobView.Sound.fence_injective (h : v.Sound) {a b : Grant} (ha : a ∈ v.grants)
    (hb : b ∈ v.grants) (hfence : a.lease.fence = b.lease.fence) : a = b := by
  have hdistinct : v.grants.Pairwise fun a b => a.lease.fence ≠ b.lease.fence :=
    h.ordered.imp fun hlt => hlt.ne'
  have : Std.Symm fun a b : Grant => a.lease.fence ≠ b.lease.fence := ⟨fun _ _ hne => hne.symm⟩
  by_contra hne
  exact hdistinct.forall ha hb hne hfence

theorem mem_view (hmem : grant ∈ w.issued) : grant ∈ (w.view grant.lease.jobId).grants :=
  mem_filter.mpr ⟨hmem, by simp⟩

/-- **A lease that holds** is current. -/
theorem Reachable.current_of_holds (h : Reachable log w) {row : JobRow} (hmem : grant ∈ w.issued)
    (hholds : Holds w.tables grant.lease nowMs row) : Current w grant nowMs := by
  have hsound := h.sound grant.lease.jobId
  have hrow := hsound.stored row hholds.stored
  obtain ⟨latest, hlatest, -, hfence, hexpires⟩ := hrow.running hholds.running
  have hsame : grant = latest := hsound.fence_injective (mem_view hmem)
    (mem_of_mem_head? hlatest) (hholds.fence.symm.trans hfence)
  obtain ⟨expiresAt, hexpiresAt, hlt⟩ := hholds.unexpired
  refine ⟨?_, fun other hother hjob => ?_⟩
  · rw [hexpires, Option.mem_some_iff, ← hsame] at hexpiresAt
    rwa [hexpiresAt]
  · rw [← hholds.fence]
    exact hrow.grants other (by rw [← hjob]; exact mem_view hother)

/-- **A stale lease** is refused. -/
theorem Reachable.refused (h : Reachable log w) (hmem : grant ∈ w.issued)
    (hstale : ¬ Current w grant nowMs) :
    ensureLease w.tables grant.lease nowMs = .error .leaseLost := by
  rcases hlease : ensureLease w.tables grant.lease nowMs with e | u
  · rw [ensureLease] at hlease
    split at hlease
    · cases hlease
    · exact hlease.symm
  · obtain ⟨row, hholds⟩ := holds_iff.mp hlease
    exact absurd (h.current_of_holds hmem hholds) hstale

theorem settle_of_refused {α : Type} {t : JobTables} {leased : LeasedJob}
    (hrefused : ensureLease t leased nowMs = .error .leaseLost) (rest : JobTransaction α) :
    (Fallible.atomically do
      let t ← Fallible.state
      Fallible.check (ensureLease t leased nowMs)
      rest) t = (.error .leaseLost, t) := by
  refine atomically_of_same ?_
  rw [state_bind, check_bind, hrefused]

/-- What is true of the leases of a run, however often jobs are claimed. -/
structure LeasesHold (log : List Moment) (w : World) : Prop where
  result : ∀ jobId, ∀ result ∈ w.tables.results.find? jobId,
    ∃ grant ∈ w.issued, grant.lease.jobId = jobId ∧ grant.lease.owner = result.winningOwner ∧
      grant.lease.fence = result.winningFence ∧
      ∀ other ∈ w.issued, other.lease.jobId = jobId → other.lease.fence ≤ result.winningFence
  once : ∀ moment ∈ log, ∀ jobId, ∀ result ∈ moment.before.tables.results.find? jobId,
    w.tables.results.find? jobId = some result
  stale : ∀ grant ∈ w.issued, ∀ nowMs, ¬ Current w grant nowMs →
    (∀ byteLength, complete grant.lease byteLength nowMs w.tables = (.error .leaseLost, w.tables)) ∧
    (∀ failureCode userActionKey, failPermanently grant.lease failureCode userActionKey nowMs
      w.tables = (.error .leaseLost, w.tables)) ∧
    retry grant.lease nowMs w.tables = (.error .leaseLost, w.tables)
  exclusive : ∀ a ∈ w.issued, ∀ b ∈ w.issued, ∀ nowMs, a.lease.jobId = b.lease.jobId →
    Current w a nowMs → Current w b nowMs → a = b
  settled : ∀ moment ∈ log, Kept moment.before w
  fences : ∀ jobId, (w.view jobId).grants.Pairwise fun later earlier =>
    earlier.lease.fence < later.lease.fence

/-- **Leases hold** in every run. -/
theorem Reachable.leasesHold (h : Reachable log w) : LeasesHold log w where
  result := by
    intro jobId result hresult
    have hsound := h.sound jobId
    rcases hrow : (w.view jobId).row with _ | row
    · have hnone := (hsound.absent hrow).1
      simp only [World.view] at hnone
      simp [hnone] at hresult
    · have hstored := hsound.stored row hrow
      obtain ⟨-, hfence, grant, hgrant, howner, hwinning⟩ := hstored.result result hresult
      obtain ⟨hmem, hjob⟩ := mem_filter.mp hgrant
      refine ⟨grant, hmem, of_decide_eq_true hjob, howner, hwinning, fun other hother hjob => ?_⟩
      rw [hfence]
      exact hstored.grants other (by rw [← hjob]; exact mem_view hother)
  once := by
    intro moment hmoment jobId result hresult
    obtain ⟨earlier, hbefore⟩ := h.before moment hmoment
    have hsound := hbefore.sound jobId
    rcases hrow : (moment.before.view jobId).row with _ | row
    · have hnone := (hsound.absent hrow).1
      simp only [World.view] at hnone
      simp [hnone] at hresult
    · have hsucceeded := ((hsound.stored row hrow).result result hresult).1
      have hkept := (h.kept moment hmoment).2 jobId ⟨row, hrow, by rw [hsucceeded]; rfl⟩
      have hresults : (w.view jobId).result = (moment.before.view jobId).result := by rw [hkept]
      exact hresults.trans hresult
  stale := by
    intro grant hmem nowMs hstale
    have hrefused := h.refused hmem hstale
    exact ⟨fun byteLength => settle_of_refused hrefused _,
      fun failureCode userActionKey => settle_of_refused hrefused _, settle_of_refused hrefused _⟩
  exclusive := by
    intro a ha b hb nowMs hjob hcurrentA hcurrentB
    have hfence : a.lease.fence = b.lease.fence :=
      le_antisymm (hcurrentB.2 a ha hjob) (hcurrentA.2 b hb hjob.symm)
    exact (h.sound b.lease.jobId).fence_injective (by rw [← hjob]; exact mem_view ha) (mem_view hb)
      hfence
  settled := fun moment hmoment => (h.kept moment hmoment).2
  fences := fun jobId => (h.sound jobId).ordered

/-! ## The bound on attempts -/

/-- No job was leased more often than it may be. -/
def AttemptsBounded (w : World) : Prop :=
  ∀ jobId, ∀ row ∈ w.tables.jobs.find? jobId,
    (w.view jobId).grants.length ≤ row.retryLimit + 1

/-- A claim takes over no job whose attempts are used up. -/
def Moment.Within (self : Moment) : Prop :=
  ∀ owner leaseMs, self.command = .claim owner leaseMs → Accepts owner self.nowMs leaseMs →
    ∀ entry ∈ nextInLine self.before.tables self.nowMs, entry.2.attempt ≤ entry.2.retryLimit

theorem Reachable.attemptsBounded_iff (h : Reachable log w) :
    AttemptsBounded w ↔ ∀ jobId, (w.view jobId).grants.length ≤ verifyRetryLimit + 1 := by
  refine forall_congr' fun jobId => ?_
  have hsound := h.sound jobId
  rcases hrow : w.tables.jobs.find? jobId with _ | row
  · simp [(hsound.absent hrow).2.2]
  · simp [(hsound.stored row hrow).retryLimit]

theorem issued_perform (w : World) (nowMs : ℤ) (command : Command) :
    (command.perform w nowMs).issued = w.issued ∨ ∃ owner leaseMs jobId row grant,
      command = .claim owner leaseMs ∧ Accepts owner nowMs leaseMs ∧
      nextInLine w.tables nowMs = some (jobId, row) ∧ grant.lease.jobId = jobId ∧
      (command.perform w nowMs).issued = grant :: w.issued := by
  cases command with
  | claim owner leaseMs =>
    rcases hrun : Jobs.claim owner nowMs leaseMs w.tables with ⟨e | _ | leased, tables⟩
    · exact .inl (by simp [Command.perform, hrun])
    · exact .inl (by simp [Command.perform, hrun])
    · obtain ⟨haccepts, jobId, row, hnext, -, -, rfl, rfl⟩ := claim_eq_ok.mp hrun
      exact .inr ⟨owner, leaseMs, jobId, row,
        ⟨(row.leased owner (nowMs + leaseMs) nowMs).lease jobId owner, nowMs + leaseMs⟩, rfl,
        haccepts, hnext, rfl, by simp only [Command.perform, hrun]⟩
  | _ => exact .inl rfl

/-- **Within the limit**, every job is leased as often as it may be at most. -/
theorem Reachable.bounded_of_within (h : Reachable log w)
    (hwithin : ∀ moment ∈ log, moment.Within) :
    ∀ jobId, (w.view jobId).grants.length ≤ verifyRetryLimit + 1 := by
  induction h with
  | fresh hfresh => simp [World.view, hfresh.issued]
  | @command log w h nowMs _ command hlease ih =>
    have hbefore := ih fun moment hmem => hwithin moment (.tail _ hmem)
    intro jobId
    rcases issued_perform w nowMs command with hsame |
        ⟨owner, leaseMs, claimed, row, grant, rfl, haccepts, hnext, hgrant, hissued⟩
    · simpa [World.view, hsame] using hbefore jobId
    · by_cases hid : claimed = jobId
      · -- the job that is leased had attempts left
        subst hid
        have hattempt := hwithin _ (.head _) owner leaseMs rfl haccepts _ hnext
        have hrow := (h.sound claimed).stored row (mem_of_nextInLine hnext).1
        have hlength := hrow.attempt
        rw [hrow.retryLimit] at hattempt
        simp only [World.view] at hlength ⊢
        rw [hissued, filter_cons_of_pos (by simp [hgrant]), length_cons, hlength]
        exact Nat.succ_le_succ hattempt
      · have hother := hbefore jobId
        simp only [World.view] at hother ⊢
        rwa [hissued, filter_cons_of_neg (by simp [hgrant, hid])]

theorem Given.length_le {w' : World} (h : Given w w') (jobId : String) :
    (w.view jobId).grants.length ≤ (w'.view jobId).grants.length :=
  (h.sublist.filter _).length_le

/-- **Beyond the limit**, some job was leased too often. -/
theorem Reachable.within_of_bounded (h : Reachable log w)
    (hbounded : ∀ jobId, (w.view jobId).grants.length ≤ verifyRetryLimit + 1) :
    ∀ moment ∈ log, moment.Within := by
  rintro ⟨before, nowMs, command⟩ hmem owner leaseMs rfl haccepts ⟨jobId, row⟩ hnext
  obtain ⟨earlier, hbefore⟩ := h.before _ hmem
  have hrow := (hbefore.sound jobId).stored row (mem_of_nextInLine hnext).1
  have hgiven := (h.kept _ hmem).1
  have hlength := hrow.attempt
  by_contra hover
  rw [hrow.retryLimit, not_le] at hover
  simp only at hover
  by_cases hfits : row.attempt < i64Max
  · -- the claim succeeds, and is one attempt too many
    have hrun := claim_eq_ok.mpr ⟨haccepts, jobId, row, hnext, hfits,
      by rw [hrow.fence]; exact hfits, rfl, rfl⟩
    have hafter := (hgiven.length_le jobId).trans (hbounded jobId)
    simp only [Moment.after, Command.perform, hrun, World.view] at hafter hlength
    rw [filter_cons_of_pos (by simp [JobRow.lease]), length_cons, hlength] at hafter
    exact absurd hover (not_lt.mpr (Nat.le_of_succ_le_succ hafter))
  · have hsome := ((given_perform before nowMs (.claim owner leaseMs)).length_le jobId).trans
      ((hgiven.length_le jobId).trans (hbounded jobId))
    rw [hlength] at hsome
    simp only [i64Max, verifyRetryLimit] at hfits hsome
    omega

/-- **Job leases**: in every run they are exclusive, are taken in the order of their fences,
and leave what is settled alone. No job is attempted more often than it may be if and only if
no claim takes over a job whose attempts are used up. -/
theorem job_leases (h : Reachable log w) :
    LeasesHold log w ∧ (AttemptsBounded w ↔ ∀ moment ∈ log, moment.Within) := by
  refine ⟨h.leasesHold, ?_⟩
  rw [h.attemptsBounded_iff]
  exact ⟨h.within_of_bounded, h.bounded_of_within⟩

end Runs

/-! ## Two runs -/

def blobHash : String := "0123456789abcdef0123456789abcdef0123456789abcdef0123456789abcdef"

def noJobs : World := ⟨⟨.empty, [], .empty, .empty⟩, 0, []⟩

def oneJob : World := (Command.enqueue "job" "key" blobHash).perform noJobs 0

def claimedNext (w : World) : World := (Command.claim "worker" 1).perform w (w.clock + 1)

theorem oneJob_reachable : ∃ log, Reachable log oneJob :=
  ⟨_, (Reachable.fresh ⟨rfl, rfl, rfl, rfl⟩).command 0 le_rfl _ (by simp [Command.lease?])⟩

theorem claimedNext_reachable {w : World} (h : ∃ log, Reachable log w) :
    ∃ log, Reachable log (claimedNext w) := by
  obtain ⟨log, h⟩ := h
  exact ⟨_, h.command (w.clock + 1) (by simp) _ (by simp [Command.lease?])⟩

def takenOver : World :=
  (Command.complete ⟨"job", blobHash, "worker", 2, 2, 2, 1000⟩ 5).perform
    (claimedNext (claimedNext oneJob)) 2

theorem takenOver_leases : ∃ log, Reachable log takenOver ∧ LeasesHold log takenOver ∧
    AttemptsBounded takenOver ∧ (∀ moment ∈ log, moment.Within) ∧
    (takenOver.tables.results.find? "job").map (·.winningFence) = some 2 := by
  obtain ⟨log, h⟩ := claimedNext_reachable (claimedNext_reachable oneJob_reachable)
  have hdone : Reachable _ takenOver :=
    h.command 2 (by decide) (.complete ⟨"job", blobHash, "worker", 2, 2, 2, 1000⟩ 5) (by
      rintro leased ⟨rfl⟩
      exact ⟨⟨⟨"job", blobHash, "worker", 2, 2, 2, 1000⟩, 3⟩, by decide, rfl⟩)
  have hbounded : AttemptsBounded takenOver := by
    rw [hdone.attemptsBounded_iff]
    intro jobId
    calc (takenOver.view jobId).grants.length ≤ takenOver.issued.length := List.length_filter_le ..
      _ ≤ verifyRetryLimit + 1 := by decide
  obtain ⟨hholds, hiff⟩ := job_leases hdone
  exact ⟨_, hdone, hholds, hbounded, hiff.mp hbounded, by decide⟩

/-- **Four workers crash**, one after the other, while they hold the lease of the same job. -/
theorem four_crashes : ¬ ∀ log w, Reachable log w → LeasesHold log w ∧ AttemptsBounded w := by
  intro hall
  obtain ⟨log, h⟩ := claimedNext_reachable (claimedNext_reachable
    (claimedNext_reachable (claimedNext_reachable oneJob_reachable)))
  have hbounded := h.attemptsBounded_iff.mp (hall log _ h).2 "job"
  exact absurd hbounded (by decide)

end Threadbook.Jobs
