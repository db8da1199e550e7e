import Mathlib.Data.Prod.Lex
import Mathlib.Data.List.Sort
import Mathlib.Algebra.Order.Group.Int
import Threadbook.Errors
import Threadbook.Table
import Threadbook.Text

/-!
# The job queue

Jobs are leased to workers: a worker claims a job for some time, and completes it, gives
it back or fails it as long as its lease holds. Each of these is a transaction of its
own; nothing but the stored lease tells one worker from another, and a worker that is gone
just lets its lease run out.
-/

namespace Threadbook.Jobs

open Fallible

/-! ## Rows -/

inductive JobState
  | queued
  | running
  | succeeded
  | failed
  deriving DecidableEq

def JobState.isTerminal : JobState → Bool
  | .queued | .running => false
  | .succeeded | .failed => true

/-- A row of `jobs`; its payload is the hash of the blob to verify. -/
structure JobRow where
  idempotencyKey : String
  blobSha256 : String
  state : JobState
  availableAtMs : ℤ
  attempt : ℕ
  retryLimit : ℕ
  backoffMs : ℕ
  fence : ℕ
  leaseOwner : Option String
  leaseExpiresAtMs : Option ℤ
  createdAtMs : ℤ
  updatedAtMs : ℤ

/-- A row of `job_results`: that a blob of some length was verified, and by whom. -/
structure JobResultRow where
  blobSha256 : String
  byteLength : ℕ
  winningOwner : String
  winningFence : ℕ
  committedAtMs : ℤ

/-- A row of `job_failures`; no such failure is retried. -/
structure JobFailureRow where
  failureCode : String
  userActionKey : String
  failedAtMs : ℤ

structure LeasedJob where
  jobId : String
  blobSha256 : String
  owner : String
  fence : ℕ
  attempt : ℕ
  retryLimit : ℕ
  backoffMs : ℕ
  deriving DecidableEq

structure JobTables where
  jobs : Table String JobRow
  /-- `job_dependencies`: a job, and one that has to succeed before it -/
  dependencies : List (String × String)
  results : Table String JobResultRow
  failures : Table String JobFailureRow

abbrev JobTransaction (α : Type) : Type := Fallible JobTables PlatformError α

/-! ## Integers -/

/-- The greatest integer that a column holds. -/
def i64Max : ℤ := 2 ^ 63 - 1

/-- The least integer that a column holds. -/
def i64Min : ℤ := -2 ^ 63

/-- Addition that stays within the integers that a column holds. -/
def saturatingAdd (a b : ℤ) : ℤ := max i64Min (min i64Max (a + b))

/-! ## Enqueueing -/

/-- How often a job is retried. -/
def verifyRetryLimit : ℕ := 2

/-- How long a job that is given back waits. -/
def verifyBackoffMs : ℕ := 1000

def queuedJob (idempotencyKey blobSha256 : String) (nowMs : ℤ) : JobRow where
  idempotencyKey := idempotencyKey
  blobSha256 := blobSha256
  state := .queued
  availableAtMs := nowMs
  attempt := 0
  retryLimit := verifyRetryLimit
  backoffMs := verifyBackoffMs
  fence := 0
  leaseOwner := none
  leaseExpiresAtMs := none
  createdAtMs := nowMs
  updatedAtMs := nowMs

def jobOfKey (t : JobTables) (idempotencyKey : String) : Option (String × JobRow) :=
  t.jobs.rows.find? fun row => row.2.idempotencyKey = idempotencyKey

/-- Store a job, unless it is stored already. -/
def insertVerifyJob (jobId idempotencyKey blobSha256 : String) (nowMs : ℤ) :
    JobTransaction PUnit :=
  atomically do
    rejectIf (.invalidInput "sha256") ¬ isHash blobSha256
    let t ← state
    if (t.jobs.find? jobId).isSome ∨ (jobOfKey t idempotencyKey).isSome then
      match jobOfKey t idempotencyKey with
      | none => fail .sqlite
      | some existing =>
        rejectIf (.conflict "job_envelope_changed")
          (existing.1 ≠ jobId ∨ existing.2.blobSha256 ≠ blobSha256)
    else
      update fun t =>
        { t with jobs := t.jobs.put jobId (queuedJob idempotencyKey blobSha256 nowMs) }

/-! ## Claiming -/

/-- The job waits for a worker and may start. -/
def JobRow.waiting (self : JobRow) (nowMs : ℤ) : Prop :=
  self.state = .queued ∧ self.availableAtMs ≤ nowMs

def JobRow.expired (self : JobRow) (nowMs : ℤ) : Prop :=
  self.state = .running ∧ ∃ expiresAt ∈ self.leaseExpiresAtMs, expiresAt ≤ nowMs

instance (row : JobRow) (nowMs : ℤ) : Decidable (row.waiting nowMs) := by
  unfold JobRow.waiting
  infer_instance

instance (row : JobRow) (nowMs : ℤ) : Decidable (row.expired nowMs) := by
  unfold JobRow.expired
  infer_instance

def blocked (t : JobTables) (jobId : String) : Bool :=
  t.dependencies.any fun dependency => dependency.1 = jobId &&
    (t.jobs.find? dependency.2).any fun prerequisite => prerequisite.state ≠ .succeeded

def claimable (t : JobTables) (nowMs : ℤ) (jobId : String) (row : JobRow) : Prop :=
  (row.waiting nowMs ∨ row.expired nowMs) ∧ blocked t jobId = false

instance (t : JobTables) (nowMs : ℤ) (jobId : String) (row : JobRow) :
    Decidable (claimable t nowMs jobId row) := by
  unfold claimable
  infer_instance

def placeInLine (entry : String × JobRow) : ℤ ×ₗ ℤ ×ₗ String :=
  toLex (entry.2.leaseExpiresAtMs.getD entry.2.availableAtMs, toLex (entry.2.createdAtMs, entry.1))

def nextInLine (t : JobTables) (nowMs : ℤ) : Option (String × JobRow) :=
  ((t.jobs.rows.filter fun entry => claimable t nowMs entry.1 entry.2).insertionSort
    fun left right => placeInLine left ≤ placeInLine right).head?

def JobRow.leased (self : JobRow) (owner : String) (expiresAtMs nowMs : ℤ) : JobRow :=
  { self with
    state := .running
    attempt := self.attempt + 1
    fence := self.fence + 1
    leaseOwner := some owner
    leaseExpiresAtMs := some expiresAtMs
    updatedAtMs := nowMs }

def JobRow.lease (self : JobRow) (jobId owner : String) : LeasedJob :=
  ⟨jobId, self.blobSha256, owner, self.fence, self.attempt, self.retryLimit, self.backoffMs⟩

def claim (owner : String) (nowMs leaseMs : ℤ) : JobTransaction (Option LeasedJob) :=
  atomically do
    rejectIf (.invalidInput "worker_lease") (owner = "" ∨ leaseMs ≤ 0)
    rejectIf (.invalidInput "worker_lease") (i64Max < nowMs + leaseMs)
    let t ← state
    match nextInLine t nowMs with
    | none => pure none
    | some (jobId, row) => do
      -- a sum beyond the integers becomes a real number, which the column refuses
      rejectIf .sqlite (i64Max ≤ row.attempt ∨ i64Max ≤ row.fence)
      let leased := row.leased owner (nowMs + leaseMs) nowMs
      update fun t => { t with jobs := t.jobs.put jobId leased }
      pure (some (leased.lease jobId owner))

/-! ## Settling -/

def ensureLease (t : JobTables) (leased : LeasedJob) (nowMs : ℤ) : Except PlatformError Unit :=
  if ∃ row ∈ t.jobs.find? leased.jobId, row.state = .running ∧
      row.leaseOwner = some leased.owner ∧ row.fence = leased.fence ∧
      ∃ expiresAt ∈ row.leaseExpiresAtMs, nowMs < expiresAt then .ok ⟨⟩
  else .error .leaseLost

def releaseLease (leased : LeasedJob) (release : JobRow → JobRow) : JobTransaction PUnit := do
  let t ← state
  match t.jobs.find? leased.jobId with
  | none => fail .leaseLost
  | some row => do
    rejectIf .leaseLost ¬ (row.leaseOwner = some leased.owner ∧
      row.fence = leased.fence ∧ row.state = .running)
    let released := { release row with leaseOwner := none, leaseExpiresAtMs := none }
    update fun t => { t with jobs := t.jobs.put leased.jobId released }

def complete (leased : LeasedJob) (byteLength : ℕ) (nowMs : ℤ) : JobTransaction PUnit :=
  atomically do
    let t ← state
    check (ensureLease t leased nowMs)
    let result := ⟨leased.blobSha256, byteLength, leased.owner, leased.fence, nowMs⟩
    update fun t =>
      { t with results := (t.results.insertOrIgnore leased.jobId result).1 }
    releaseLease leased fun row => { row with state := .succeeded, updatedAtMs := nowMs }

def failPermanently (leased : LeasedJob) (failureCode userActionKey : String) (nowMs : ℤ) :
    JobTransaction PUnit :=
  atomically do
    let t ← state
    check (ensureLease t leased nowMs)
    let failure := ⟨failureCode, userActionKey, nowMs⟩
    update fun t => { t with failures := t.failures.put leased.jobId failure }
    releaseLease leased fun row => { row with state := .failed, updatedAtMs := nowMs }

def retry (leased : LeasedJob) (nowMs : ℤ) : JobTransaction Bool :=
  atomically do
    let t ← state
    check (ensureLease t leased nowMs)
    if leased.retryLimit < leased.attempt then pure false
    else do
      releaseLease leased fun row => { row with
        state := .queued
        availableAtMs := saturatingAdd nowMs leased.backoffMs
        updatedAtMs := nowMs }
      pure true

end Threadbook.Jobs
