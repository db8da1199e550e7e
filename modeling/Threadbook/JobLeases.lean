import Threadbook.JobQueue

/-!
# What leases let through

What each transaction of the job queue does when it succeeds. A claim leases the job that is
next in line (**`claim_eq_ok`**); whatever settles a job asks for a lease that holds
(`Holds`), that is, one that is stored as it was given out and has not run out.
-/

namespace Threadbook.Jobs

open Fallible

variable {t t' : JobTables} {leased : LeasedJob} {nowMs : ℤ}

/-! ## What each transaction does -/

theorem ensureLease_eq_ok :
    ensureLease t leased nowMs = .ok ⟨⟩ ↔ ∃ row, t.jobs.find? leased.jobId = some row ∧
      row.state = .running ∧ row.leaseOwner = some leased.owner ∧ row.fence = leased.fence ∧
      ∃ expiresAt ∈ row.leaseExpiresAtMs, nowMs < expiresAt := by
  rw [ensureLease, check_when_eq_ok]
  simp

/-- **Storing a job** adds one that waits, or changes nothing. -/
theorem insertVerifyJob_cases (jobId idempotencyKey blobSha256 : String) :
    (insertVerifyJob jobId idempotencyKey blobSha256 nowMs t).2 = t ∨
      t.jobs.find? jobId = none ∧
        (insertVerifyJob jobId idempotencyKey blobSha256 nowMs t).2 =
          { t with jobs := t.jobs.put jobId (queuedJob idempotencyKey blobSha256 nowMs) } := by
  rcases h : insertVerifyJob jobId idempotencyKey blobSha256 nowMs t with ⟨e | u, t'⟩
  · exact Or.inl (atomically_of_error h)
  rw [insertVerifyJob, atomically_eq_ok, rejectIf_bind_eq_ok, state_bind] at h
  obtain ⟨-, h⟩ := h
  by_cases hnew : (t.jobs.find? jobId).isSome ∨ (jobOfKey t idempotencyKey).isSome
  · left
    rw [if_pos hnew] at h
    rcases hkey : jobOfKey t idempotencyKey with _ | existing
    · simp [hkey] at h
    · simp only [hkey] at h
      exact (rejectIf_eq_ok.mp h).2.symm
  · rw [if_neg hnew] at h
    rw [not_or, Bool.not_eq_true, Option.isSome_eq_false_iff, Option.isNone_iff_eq_none] at hnew
    exact Or.inr ⟨hnew.1, (Prod.mk.inj h).2.symm⟩

theorem mem_of_nextInLine {entry : String × JobRow} (h : nextInLine t nowMs = some entry) :
    t.jobs.find? entry.1 = some entry.2 ∧ claimable t nowMs entry.1 entry.2 := by
  have hmem := List.mem_of_mem_head? (by rw [nextInLine] at h; exact h)
  rw [List.mem_insertionSort, List.mem_filter, decide_eq_true_eq] at hmem
  exact ⟨Table.mem_rows.mp hmem.1, hmem.2⟩

/-- What a claim asks of its arguments. -/
def Accepts (owner : String) (nowMs leaseMs : ℤ) : Prop :=
  owner ≠ "" ∧ 0 < leaseMs ∧ nowMs + leaseMs ≤ i64Max

/-- **A claim** that gets a lease leases the job that is next in line. -/
theorem claim_eq_ok {owner : String} {leaseMs : ℤ} :
    claim owner nowMs leaseMs t = (.ok (some leased), t') ↔
      Accepts owner nowMs leaseMs ∧ ∃ jobId row, nextInLine t nowMs = some (jobId, row) ∧
        row.attempt < i64Max ∧ row.fence < i64Max ∧
        leased = (row.leased owner (nowMs + leaseMs) nowMs).lease jobId owner ∧
        t' = { t with jobs := t.jobs.put jobId (row.leased owner (nowMs + leaseMs) nowMs) } := by
  rw [claim, atomically_eq_ok, rejectIf_bind_eq_ok, rejectIf_bind_eq_ok, state_bind, Accepts]
  rcases hnext : nextInLine t nowMs with _ | ⟨jobId, row⟩
  · simp
  · simp only [rejectIf_bind_eq_ok, update_bind, pure_run, Prod.mk.injEq, Except.ok.injEq,
      Option.some.injEq, not_or, not_le, not_lt, ne_eq]
    constructor
    · rintro ⟨⟨howner, hlease⟩, hexpires, ⟨hattempt, hfence⟩, hleased, htables⟩
      exact ⟨⟨howner, hlease, hexpires⟩, jobId, row, ⟨rfl, rfl⟩, hattempt, hfence,
        hleased.symm, htables.symm⟩
    · rintro ⟨⟨howner, hlease, hexpires⟩, _, _, ⟨rfl, rfl⟩, hattempt, hfence, hleased, htables⟩
      exact ⟨⟨howner, hlease⟩, hexpires, ⟨hattempt, hfence⟩, hleased.symm, htables.symm⟩

theorem claim_none {owner : String} {leaseMs : ℤ}
    (h : ∀ leased, (claim owner nowMs leaseMs t).1 ≠ .ok (some leased)) :
    (claim owner nowMs leaseMs t).2 = t := by
  rcases hrun : claim owner nowMs leaseMs t with ⟨e | _ | leased, t'⟩
  · exact atomically_of_error hrun
  · rw [claim, atomically_eq_ok, rejectIf_bind_eq_ok, rejectIf_bind_eq_ok, state_bind] at hrun
    obtain ⟨-, -, hrun⟩ := hrun
    rcases hnext : nextInLine t nowMs with _ | entry <;> simp only [hnext] at hrun
    · exact (Prod.mk.inj hrun).2.symm
    · simp [rejectIf_bind_eq_ok] at hrun
  · exact absurd (by rw [hrun]) (h leased)

theorem releaseLease_eq_ok {release : JobRow → JobRow} {u : Unit} :
    releaseLease leased release t = (.ok u, t') ↔
      ∃ row, t.jobs.find? leased.jobId = some row ∧ (row.leaseOwner = some leased.owner ∧
        row.fence = leased.fence ∧ row.state = .running) ∧
        t' = { t with
          jobs := t.jobs.put leased.jobId
            { release row with leaseOwner := none, leaseExpiresAtMs := none } } := by
  rw [releaseLease, state_bind]
  rcases hrow : t.jobs.find? leased.jobId with _ | row
  · simp
  · simp only [rejectIf_bind_eq_ok, update_run, not_not, Prod.mk.injEq, true_and,
      Option.some.injEq, exists_eq_left']
    exact and_congr_right fun _ => eq_comm

structure Holds (t : JobTables) (leased : LeasedJob) (nowMs : ℤ) (row : JobRow) : Prop where
  stored : t.jobs.find? leased.jobId = some row
  running : row.state = .running
  owner : row.leaseOwner = some leased.owner
  fence : row.fence = leased.fence
  unexpired : ∃ expiresAt ∈ row.leaseExpiresAtMs, nowMs < expiresAt

theorem holds_iff :
    ensureLease t leased nowMs = .ok ⟨⟩ ↔ ∃ row, Holds t leased nowMs row := by
  rw [ensureLease_eq_ok]
  constructor
  · rintro ⟨row, hstored, hrunning, howner, hfence, hunexpired⟩
    exact ⟨row, hstored, hrunning, howner, hfence, hunexpired⟩
  · rintro ⟨row, hstored, hrunning, howner, hfence, hunexpired⟩
    exact ⟨row, hstored, hrunning, howner, hfence, hunexpired⟩

def JobRow.released (self : JobRow) (state : JobState) (availableAtMs nowMs : ℤ) : JobRow :=
  { self with
    state := state
    availableAtMs := availableAtMs
    leaseOwner := none
    leaseExpiresAtMs := none
    updatedAtMs := nowMs }

/-- **Completing a job** takes a lease that holds, and keeps the first result. -/
theorem complete_eq_ok {byteLength : ℕ} {u : Unit}
    (h : complete leased byteLength nowMs t = (.ok u, t')) :
    ∃ row, Holds t leased nowMs row ∧ t' = { t with
      jobs := t.jobs.put leased.jobId (row.released .succeeded row.availableAtMs nowMs)
      results := (t.results.insertOrIgnore leased.jobId
        ⟨leased.blobSha256, byteLength, leased.owner, leased.fence, nowMs⟩).1 } := by
  rw [complete, atomically_eq_ok, state_bind, require_bind_eq_ok, update_bind,
    releaseLease_eq_ok] at h
  obtain ⟨hlease, row, hrow, -, rfl⟩ := h
  obtain ⟨row', hholds⟩ := holds_iff.mp hlease
  obtain rfl : row' = row := Option.some.inj (hholds.stored.symm.trans hrow)
  exact ⟨row', hholds, rfl⟩

/-- **Failing a job** takes a lease that holds. -/
theorem failPermanently_eq_ok {failureCode userActionKey : String} {u : Unit}
    (h : failPermanently leased failureCode userActionKey nowMs t = (.ok u, t')) :
    ∃ row, Holds t leased nowMs row ∧ t' = { t with
      jobs := t.jobs.put leased.jobId (row.released .failed row.availableAtMs nowMs)
      failures := t.failures.put leased.jobId ⟨failureCode, userActionKey, nowMs⟩ } := by
  rw [failPermanently, atomically_eq_ok, state_bind, require_bind_eq_ok, update_bind,
    releaseLease_eq_ok] at h
  obtain ⟨hlease, row, hrow, -, rfl⟩ := h
  obtain ⟨row', hholds⟩ := holds_iff.mp hlease
  obtain rfl : row' = row := Option.some.inj (hholds.stored.symm.trans hrow)
  exact ⟨row', hholds, rfl⟩

/-- **Giving a job back** takes a lease that holds, and attempts that are not used up. -/
theorem retry_eq_ok {requeued : Bool} (h : retry leased nowMs t = (.ok requeued, t')) :
    ∃ row, Holds t leased nowMs row ∧
      (requeued = false ∧ t' = t ∨ requeued = true ∧ leased.attempt ≤ leased.retryLimit ∧
        t' = { t with
          jobs := t.jobs.put leased.jobId
            (row.released .queued (saturatingAdd nowMs leased.backoffMs) nowMs) }) := by
  rw [retry, atomically_eq_ok, state_bind, require_bind_eq_ok] at h
  obtain ⟨hlease, h⟩ := h
  obtain ⟨row, hholds⟩ := holds_iff.mp hlease
  refine ⟨row, hholds, ?_⟩
  split at h
  · obtain ⟨hvalue, rfl⟩ := Prod.mk.inj h
    exact Or.inl ⟨(Except.ok.inj hvalue).symm, rfl⟩
  · rename_i hattempt
    obtain ⟨⟨⟩, t₁, hrelease, h⟩ := bind_eq_ok.mp h
    obtain ⟨row', hrow', -, rfl⟩ := releaseLease_eq_ok.mp hrelease
    obtain ⟨hvalue, rfl⟩ := Prod.mk.inj h
    obtain rfl : row = row' := Option.some.inj (hholds.stored.symm.trans hrow')
    exact Or.inr ⟨(Except.ok.inj hvalue).symm, not_lt.mp hattempt, rfl⟩

end Threadbook.Jobs
