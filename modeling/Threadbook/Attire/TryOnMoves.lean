import Threadbook.Attire.TryOnApproval

/-!
# How a try-on job moves

A job is queued, runs under a fence, and ends. What the tables say of one job is a
`TryOnView`: its row, its attempt and its output. A call that succeeds moves views (`Moved`), and a
move keeps a view sound (**`Move.sound`**): a job that succeeded has an output, one that failed has
none, and a running one has an open attempt under its own fence. A job that ended does not move
(**`Move.ended`**), and one whose attempt was let out is never taken again (**`Move.past`**).
-/

namespace Threadbook.TryOn

open Table Option Fallible
open Catalog (CommandReceiptRow)
open Promotion (RequestId ReplayStatusV1)

/-! ## One job -/

structure TryOnView where
  job : Option TryOnJobRow
  attempt : Option TryOnAttemptRow
  output : Option TryOnOutputRow

def TryOnTables.view (t : TryOnTables) (jobId : TryOnJobId) : TryOnView where
  job := t.jobs.find? jobId
  attempt := t.attempts.find? ⟨jobId⟩
  output := t.outputs.find? ⟨jobId⟩

def TryOnJobStateV1.hasEnded : TryOnJobStateV1 → Bool
  | .succeeded | .failed => true
  | .queued | .running => false

def TryOnJobRow.requeued (self : TryOnJobRow) (nowMs : ℤ) : TryOnJobRow :=
  { self with
    state := .queued, attemptCount := 0, leaseOwner := none, leaseExpiresAtMs := none
    updatedAtMs := nowMs }

def TryOnJobRow.finished (self : TryOnJobRow) (jobId : TryOnJobId) (nowMs : ℤ) : TryOnJobRow :=
  { self with
    state := .succeeded, terminalAttemptId := some ⟨jobId⟩, leaseOwner := none
    leaseExpiresAtMs := none, updatedAtMs := nowMs }

def TryOnJobRow.failedWith (self : TryOnJobRow) (jobId : TryOnJobId) (code : TryOnFailureCodeV1)
    (nowMs : ℤ) : TryOnJobRow :=
  { self with
    state := .failed, terminalAttemptId := some ⟨jobId⟩, failure := some (failureContract code)
    leaseOwner := none, leaseExpiresAtMs := none, updatedAtMs := nowMs }

def TryOnAttemptRow.finished (self : TryOnAttemptRow) (nowMs : ℤ) : TryOnAttemptRow :=
  { self with state := .succeeded, updatedAtMs := nowMs }

def TryOnAttemptRow.failedWith (self : TryOnAttemptRow) (code : TryOnFailureCodeV1) (nowMs : ℤ) :
    TryOnAttemptRow :=
  { self with state := .failed, failure := some (failureContract code), updatedAtMs := nowMs }

def finishedOutput (output : Option TryOnOutputRow) (row : TryOnOutputRow) :
    Option TryOnOutputRow :=
  if row.allowed ∧ output = none then some row else output

inductive Move : TryOnView → TryOnView → Prop
  | submit {job : TryOnJobRow} {attempt : Option TryOnAttemptRow}
      {output : Option TryOnOutputRow} (allowed : job.allowed) (state : job.state = .queued)
      (fence : job.fence = 0) : Move ⟨none, attempt, output⟩ ⟨some job, attempt, output⟩
  | take {job : TryOnJobRow} {before : Option TryOnAttemptRow} {output : Option TryOnOutputRow}
      (owner : String) (leaseExpiresAtMs nowMs : ℤ) (state : job.state = .queued)
      (allowed : (job.taken owner leaseExpiresAtMs nowMs).allowed)
      (fits : (preparedAttempt before (job.fence + 1) nowMs).allowed) :
      Move ⟨some job, before, output⟩ ⟨some (job.taken owner leaseExpiresAtMs nowMs),
        some (preparedAttempt before (job.fence + 1) nowMs), output⟩
  | authorize {job : TryOnJobRow} {attempt attempt' : TryOnAttemptRow}
      {output : Option TryOnOutputRow} (running : job.state = .running)
      (fence : attempt.fence = job.fence) (prepared : attempt.state = .prepared)
      (same : attempt'.fence = attempt.fence) (dispatched : attempt'.state = .dispatched)
      (allowed : attempt'.allowed) :
      Move ⟨some job, some attempt, output⟩ ⟨some job, some attempt', output⟩
  | report {job : Option TryOnJobRow} {attempt attempt' : TryOnAttemptRow}
      {output : Option TryOnOutputRow} (dispatched : attempt.state = .dispatched)
      (same : attempt'.fence = attempt.fence)
      (state : attempt'.state = .dispatched ∨ attempt'.state = .materializing)
      (allowed : attempt'.allowed) :
      Move ⟨job, some attempt, output⟩ ⟨job, some attempt', output⟩
  | finish {jobId : TryOnJobId} {job : TryOnJobRow} {attempt : TryOnAttemptRow}
      {output : Option TryOnOutputRow} {intent : TryOnOutputIntent} {snapshot : String}
      {nowMs : ℤ} (running : job.state = .running) (fence : attempt.fence = job.fence)
      (materializing : attempt.state = .materializing) (announced : attempt.output = some intent)
      (allowed : (job.finished jobId nowMs).allowed) (fits : (attempt.finished nowMs).allowed) :
      Move ⟨some job, some attempt, output⟩ ⟨some (job.finished jobId nowMs),
        some (attempt.finished nowMs),
        finishedOutput output ⟨intent.sha256, intent.byteLength, snapshot, nowMs⟩⟩
  | fail {jobId : TryOnJobId} {job : TryOnJobRow} {attempt : TryOnAttemptRow}
      {output : Option TryOnOutputRow} {code : TryOnFailureCodeV1} {nowMs : ℤ}
      (state : job.state = .queued ∨ job.state = .running) (fence : attempt.fence = job.fence)
      (isOpen : attempt.state.isOpen) (allowed : (job.failedWith jobId code nowMs).allowed)
      (fits : (attempt.failedWith code nowMs).allowed) :
      Move ⟨some job, some attempt, output⟩
        ⟨some (job.failedWith jobId code nowMs), some (attempt.failedWith code nowMs), output⟩
  | requeue {job : TryOnJobRow} {attempt : TryOnAttemptRow} {output : Option TryOnOutputRow}
      {nowMs : ℤ} (running : job.state = .running) (fence : attempt.fence = job.fence)
      (prepared : attempt.state = .prepared) (allowed : (job.requeued nowMs).allowed) :
      Move ⟨some job, some attempt, output⟩ ⟨some (job.requeued nowMs), some attempt, output⟩

abbrev Moves : TryOnView → TryOnView → Prop := Relation.ReflTransGen Move

/-! ## Sound views -/

structure TryOnView.Sound (v : TryOnView) : Prop where
  unborn : v.job = none → v.attempt = none ∧ v.output = none
  allowed : ∀ job, v.job = some job → job.allowed
  fits : ∀ attempt, v.attempt = some attempt → attempt.allowed
  queued : ∀ job, v.job = some job → job.state = .queued →
    v.output = none ∧ ∀ attempt, v.attempt = some attempt →
      attempt.state = .prepared ∧ attempt.fence = job.fence
  running : ∀ job, v.job = some job → job.state = .running →
    v.output = none ∧ ∃ attempt, v.attempt = some attempt ∧ attempt.state.isOpen ∧
      attempt.fence = job.fence
  succeeded : ∀ job, v.job = some job → job.state = .succeeded →
    ∃ attempt output, v.attempt = some attempt ∧ attempt.state = .succeeded ∧
      v.output = some output ∧ attempt.output = some ⟨output.blobSha256, output.byteLength⟩
  failed : ∀ job, v.job = some job → job.state = .failed →
    v.output = none ∧ ∃ attempt, v.attempt = some attempt ∧ attempt.state = .failed

theorem TryOnView.sound_none : (TryOnView.mk none none none).Sound where
  unborn _ := ⟨rfl, rfl⟩
  allowed _ h := by cases h
  fits _ h := by cases h
  queued _ h := by cases h
  running _ h := by cases h
  succeeded _ h := by cases h
  failed _ h := by cases h

variable {intent : TryOnOutputIntent}

section Moves

variable {v v' : TryOnView}

theorem finishedOutput_none {attempt : TryOnAttemptRow} {snapshot : String} {nowMs : ℤ}
    (hannounced : attempt.output = some intent) (hfits : (attempt.finished nowMs).allowed) :
    finishedOutput none ⟨intent.sha256, intent.byteLength, snapshot, nowMs⟩ =
      some ⟨intent.sha256, intent.byteLength, snapshot, nowMs⟩ := by
  refine if_pos ⟨?_, rfl⟩
  simp only [TryOnAttemptRow.allowed, TryOnAttemptRow.finished, hannounced,
    decide_eq_true_eq] at hfits
  obtain ⟨-, hintent, hcreated, hupdated, -⟩ := hfits
  obtain ⟨-, hpos, hmax⟩ := hintent intent rfl
  simp only [TryOnOutputRow.allowed, decide_eq_true_eq]
  exact ⟨⟨hpos, hmax⟩, by omega⟩

def Suits (job : TryOnJobRow) (attempt : Option TryOnAttemptRow)
    (output : Option TryOnOutputRow) : Prop :=
  match job.state with
  | .queued => output = none ∧ ∀ row, attempt = some row →
      row.state = .prepared ∧ row.fence = job.fence
  | .running => output = none ∧ ∃ row, attempt = some row ∧ row.state.isOpen ∧
      row.fence = job.fence
  | .succeeded => ∃ row made, attempt = some row ∧ row.state = .succeeded ∧ output = some made ∧
      row.output = some ⟨made.blobSha256, made.byteLength⟩
  | .failed => output = none ∧ ∃ row, attempt = some row ∧ row.state = .failed

theorem TryOnView.sound_of_job {job : TryOnJobRow} {attempt : Option TryOnAttemptRow}
    {output : Option TryOnOutputRow} (allowed : job.allowed)
    (fits : ∀ row, attempt = some row → row.allowed) (suits : Suits job attempt output) :
    (TryOnView.mk (some job) attempt output).Sound where
  unborn h := by cases h
  allowed _ h := some.inj h ▸ allowed
  fits := fits
  queued _ h hstate := by
    cases h
    simpa only [Suits, hstate] using suits
  running _ h hstate := by
    cases h
    simpa only [Suits, hstate] using suits
  succeeded _ h hstate := by
    cases h
    simpa only [Suits, hstate] using suits
  failed _ h hstate := by
    cases h
    simpa only [Suits, hstate] using suits

/-- **A move keeps the rows of a job fitting.** -/
theorem Move.sound (h : Move v v') (hv : v.Sound) : v'.Sound := by
  cases h with
  | submit allowed state fence =>
    obtain ⟨rfl, rfl⟩ := hv.unborn rfl
    refine TryOnView.sound_of_job allowed (by rintro _ ⟨⟩) ?_
    rw [Suits, state]
    exact ⟨rfl, by rintro _ ⟨⟩⟩
  | take owner leaseExpiresAtMs nowMs state allowed fits =>
    obtain ⟨rfl, -⟩ := hv.queued _ rfl state
    refine TryOnView.sound_of_job allowed (by rintro _ ⟨⟩; exact fits) ?_
    exact show _ ∧ _ from ⟨rfl, _, rfl, rfl, rfl⟩
  | authorize running fence prepared same dispatched allowed =>
    obtain ⟨rfl, -⟩ := hv.running _ rfl running
    refine TryOnView.sound_of_job (hv.allowed _ rfl) (by rintro _ ⟨⟩; exact allowed) ?_
    rw [Suits, running]
    exact ⟨rfl, _, rfl, by rw [dispatched]; rfl, same.trans fence⟩
  | @report job attempt attempt' output dispatched same state allowed =>
    exact {
      unborn := fun h => by
        obtain ⟨hattempt, -⟩ := hv.unborn h
        cases hattempt
      allowed := hv.allowed
      fits := fun _ h => some.inj h ▸ allowed
      queued := fun job h hstate => by
        obtain ⟨-, hprepared⟩ := hv.queued job h hstate
        simp [dispatched] at hprepared
      running := fun job h hstate => by
        obtain ⟨houtput, _, hattempt, -, hfence⟩ := hv.running job h hstate
        cases hattempt
        refine ⟨houtput, _, rfl, ?_, same.trans hfence⟩
        obtain state | state := state <;> rw [state] <;> rfl
      succeeded := fun job h hstate => by
        obtain ⟨_, _, hattempt, hsucceeded, -⟩ := hv.succeeded job h hstate
        simp [← some.inj hattempt, dispatched] at hsucceeded
      failed := fun job h hstate => by
        obtain ⟨-, _, hattempt, hfailed⟩ := hv.failed job h hstate
        simp [← some.inj hattempt, dispatched] at hfailed }
  | @finish jobId job attempt output intent snapshot nowMs running fence materializing announced
      allowed fits =>
    obtain ⟨houtput, -⟩ := hv.running _ rfl running
    obtain rfl : output = none := houtput
    rw [finishedOutput_none announced fits]
    refine TryOnView.sound_of_job allowed (by rintro _ ⟨⟩; exact fits) ?_
    exact show ∃ _ _, _ from ⟨_, _, rfl, rfl, rfl, announced⟩
  | @fail jobId job attempt output code nowMs state fence isOpen allowed fits =>
    have houtput : output = none := by
      obtain state | state := state
      · exact (hv.queued _ rfl state).1
      · exact (hv.running _ rfl state).1
    refine TryOnView.sound_of_job allowed (by rintro _ ⟨⟩; exact fits) ?_
    exact show _ ∧ _ from ⟨houtput, _, rfl, rfl⟩
  | requeue running fence prepared allowed =>
    obtain ⟨rfl, -⟩ := hv.running _ rfl running
    refine TryOnView.sound_of_job allowed hv.fits ?_
    exact show _ ∧ _ from ⟨rfl, by rintro _ ⟨⟩; exact ⟨prepared, fence⟩⟩

theorem Moves.sound (h : Moves v v') (hv : v.Sound) : v'.Sound := by
  induction h with
  | refl => exact hv
  | tail _ hmove ih => exact hmove.sound ih

/-- **A job that ended** does not move. -/
theorem Move.ended (h : Move v v') (hv : v.Sound) {job : TryOnJobRow} (hjob : v.job = some job)
    (hended : job.state.hasEnded) : False := by
  have hstate : job.state = .succeeded ∨ job.state = .failed := by
    cases hcase : job.state <;> simp [hcase, TryOnJobStateV1.hasEnded] at hended ⊢
  have hclosed : ∃ attempt, v.attempt = some attempt ∧ attempt.state.isOpen = false := by
    obtain hstate | hstate := hstate
    · obtain ⟨attempt, -, hattempt, hsucceeded, -⟩ := hv.succeeded job hjob hstate
      exact ⟨attempt, hattempt, by rw [hsucceeded]; rfl⟩
    · obtain ⟨-, attempt, hattempt, hfailed⟩ := hv.failed job hjob hstate
      exact ⟨attempt, hattempt, by rw [hfailed]; rfl⟩
  obtain ⟨attempt, hattempt, hclosed⟩ := hclosed
  cases h with
  | submit => cases hjob
  | take owner leaseExpiresAtMs nowMs state =>
    cases hjob
    simp [state] at hstate
  | authorize running | finish running | requeue running =>
    cases hjob
    simp [running] at hstate
  | report dispatched =>
    cases hattempt
    simp [dispatched, TryOnAttemptState.isOpen] at hclosed
  | fail state fence isOpen =>
    cases hattempt
    rw [hclosed] at isOpen
    cases isOpen

theorem Moves.ended (h : Moves v v') (hv : v.Sound) {job : TryOnJobRow} (hjob : v.job = some job)
    (hended : job.state.hasEnded) : v' = v := by
  obtain rfl | ⟨w, hmove, -⟩ := Relation.ReflTransGen.cases_head h
  · rfl
  · exact (hmove.ended hv hjob hended).elim

def TryOnView.Past (v : TryOnView) : Prop :=
  ∃ job attempt, v.job = some job ∧ job.state ≠ .queued ∧ v.attempt = some attempt ∧
    attempt.state ≠ .prepared

/-- **What was let out** stays out. -/
theorem Move.past (h : Move v v') (hv : v.Past) : v'.Past := by
  obtain ⟨job, attempt, hjob, hqueued, hattempt, hprepared⟩ := hv
  cases h with
  | submit => cases hjob
  | take owner leaseExpiresAtMs nowMs state =>
    cases hjob
    exact absurd state hqueued
  | authorize running fence prepared =>
    cases hattempt
    exact absurd prepared hprepared
  | report dispatched same state =>
    exact ⟨job, _, hjob, hqueued, rfl, by obtain state | state := state <;> simp [state]⟩
  | finish | fail =>
    exact ⟨_, _, rfl, by simp [TryOnJobRow.finished, TryOnJobRow.failedWith], rfl,
      by simp [TryOnAttemptRow.finished, TryOnAttemptRow.failedWith]⟩
  | requeue running fence prepared =>
    cases hattempt
    exact absurd prepared hprepared

theorem Moves.past (h : Moves v v') (hv : v.Past) : v'.Past := by
  induction h with
  | refl => exact hv
  | tail _ hmove ih => exact hmove.past ih

theorem Move.job (h : Move v v') {job : TryOnJobRow} (hjob : v.job = some job) :
    ∃ job', v'.job = some job' ∧ job'.requestId = job.requestId ∧
      job'.approvalId = job.approvalId := by
  cases h with
  | submit => cases hjob
  | take | finish | fail | requeue =>
    cases hjob
    exact ⟨_, rfl, rfl, rfl⟩
  | authorize | report => exact ⟨job, hjob, rfl, rfl⟩

theorem Move.output (h : Move v v') {output : TryOnOutputRow} (houtput : v.output = some output) :
    v'.output = some output := by
  cases h with
  | finish =>
    refine (if_neg fun hnew => ?_).trans houtput
    exact some_ne_none _ (houtput.symm.trans hnew.2)
  | submit | take | authorize | report | fail | requeue => exact houtput

theorem Moves.output (h : Moves v v') {output : TryOnOutputRow}
    (houtput : v.output = some output) : v'.output = some output := by
  induction h with
  | refl => exact houtput
  | tail _ hmove ih => exact hmove.output ih

end Moves

/-! ## The tables -/

variable {services : TryOnServices} {files : BlobFiles} {t t₁ t' : TryOnTables}

structure Moved (t t' : TryOnTables) : Prop where
  views : ∀ jobId, Moves (t.view jobId) (t'.view jobId)
  approvals : ∀ approvalId row, t.approvals.find? approvalId = some row →
    ∃ row', t'.approvals.find? approvalId = some row' ∧
      ∀ requestId, row.consumedRequestId = some requestId → row'.consumedRequestId = some requestId
  born : ∀ jobId job, (t.view jobId).job = none → (t'.view jobId).job = some job →
    jobId = ⟨job.requestId⟩ ∧ ∃ row, t'.approvals.find? job.approvalId = some row ∧
      row.consumedRequestId = some job.requestId
  blobs : ∀ sha256, (t.outfits.blobs.find? sha256).isSome →
    (t'.outfits.blobs.find? sha256).isSome
  recorded : ∀ jobId output, (t'.view jobId).output = some output →
    (t.view jobId).output = some output ∨ (t'.outfits.blobs.find? output.blobSha256).isSome

theorem Moved.refl (t : TryOnTables) : Moved t t where
  views _ := .refl
  approvals _ row h := ⟨row, h, fun _ h => h⟩
  born _ _ hnone hsome := by
    rw [hnone] at hsome
    cases hsome
  blobs _ h := h
  recorded _ _ h := .inl h

theorem Moves.job {v v' : TryOnView} (h : Moves v v') {job : TryOnJobRow}
    (hjob : v.job = some job) :
    ∃ job', v'.job = some job' ∧ job'.requestId = job.requestId ∧
      job'.approvalId = job.approvalId := by
  induction h with
  | refl => exact ⟨job, hjob, rfl, rfl⟩
  | tail _ hmove ih =>
    obtain ⟨job₁, hjob₁, hrequest₁, happroval₁⟩ := ih
    obtain ⟨job', hjob', hrequest', happroval'⟩ := hmove.job hjob₁
    exact ⟨job', hjob', hrequest'.trans hrequest₁, happroval'.trans happroval₁⟩

theorem Moved.trans (t t₁ t' : TryOnTables) (hfirst : Moved t t₁) (hsecond : Moved t₁ t') :
    Moved t t' where
  views jobId := (hfirst.views jobId).trans (hsecond.views jobId)
  approvals approvalId row hrow := by
    obtain ⟨row₁, hrow₁, hspent₁⟩ := hfirst.approvals approvalId row hrow
    obtain ⟨row', hrow', hspent'⟩ := hsecond.approvals approvalId row₁ hrow₁
    exact ⟨row', hrow', fun requestId h => hspent' requestId (hspent₁ requestId h)⟩
  born jobId job hnone hsome := by
    cases hjob₁ : (t₁.view jobId).job with
    | none => exact hsecond.born jobId job hjob₁ hsome
    | some job₁ =>
      obtain ⟨hid, row₁, hrow₁, hspent₁⟩ := hfirst.born jobId job₁ hnone hjob₁
      obtain ⟨job', hjob', hrequest, happroval⟩ := (hsecond.views jobId).job hjob₁
      obtain rfl := mem_unique hsome hjob'
      obtain ⟨row', hrow', hspent'⟩ := hsecond.approvals _ row₁ hrow₁
      rw [hrequest, happroval]
      exact ⟨hid, row', hrow', hspent' _ hspent₁⟩
  blobs sha256 h := hsecond.blobs sha256 (hfirst.blobs sha256 h)
  recorded jobId output houtput := by
    obtain houtput₁ | hblob := hsecond.recorded jobId output houtput
    · obtain houtput₀ | hblob := hfirst.recorded jobId output houtput₁
      · exact .inl houtput₀
      · exact .inr (hsecond.blobs _ hblob)
    · exact .inr hblob

/-- What is said of jobs and approvals, over all rows. -/
structure Consistent (t : TryOnTables) : Prop where
  sound : ∀ jobId, (t.view jobId).Sound
  spent : ∀ jobId job, (t.view jobId).job = some job →
    jobId = ⟨job.requestId⟩ ∧ ∃ row, t.approvals.find? job.approvalId = some row ∧
      row.consumedRequestId = some job.requestId
  recorded : ∀ jobId output, (t.view jobId).output = some output →
    (t.outfits.blobs.find? output.blobSha256).isSome

/-- **What moves** stays consistent. -/
theorem Moved.consistent (h : Moved t t') (ht : Consistent t) : Consistent t' where
  sound jobId := (h.views jobId).sound (ht.sound jobId)
  spent jobId job' hjob' := by
    cases hjob : (t.view jobId).job with
    | none => exact h.born jobId job' hjob hjob'
    | some job =>
      obtain ⟨hid, row, hrow, hspent⟩ := ht.spent jobId job hjob
      obtain ⟨other, hother, hrequest, happroval⟩ := (h.views jobId).job hjob
      obtain rfl := mem_unique hjob' hother
      obtain ⟨row', hrow', hspent'⟩ := h.approvals _ row hrow
      rw [hrequest, happroval]
      exact ⟨hid, row', hrow', hspent' _ hspent⟩
  recorded jobId output houtput := by
    obtain hbefore | hblob := h.recorded jobId output houtput
    · exact h.blobs _ (ht.recorded jobId output hbefore)
    · exact hblob

variable {u : PUnit} {jobId other : TryOnJobId} {nowMs : ℤ} {fence : ℕ}
  {cond : TryOnAttemptRow → Bool} {f : TryOnAttemptRow → TryOnAttemptRow}
  {code : TryOnFailureCodeV1}

/-- **An approval is spent on one job.** -/
theorem Consistent.one_job (h : Consistent t) {job otherJob : TryOnJobRow}
    (hjob : (t.view jobId).job = some job) (hother : (t.view other).job = some otherJob)
    (hsame : otherJob.approvalId = job.approvalId) : other = jobId := by
  obtain ⟨rfl, row, hrow, hspent⟩ := h.spent jobId job hjob
  obtain ⟨rfl, row', hrow', hspent'⟩ := h.spent other otherJob hother
  rw [hsame, hrow] at hrow'
  cases hrow'
  rw [hspent] at hspent'
  rw [some.inj hspent']

theorem Moved.of_moves (jobId : TryOnJobId) (hmove : Moves (t.view jobId) (t'.view jobId))
    (hjob : (t.view jobId).job = none → (t'.view jobId).job = none)
    (hothers : ∀ other, other ≠ jobId → t'.view other = t.view other)
    (happrovals : t'.approvals = t.approvals)
    (hblobs : ∀ sha256, (t.outfits.blobs.find? sha256).isSome →
      (t'.outfits.blobs.find? sha256).isSome)
    (hrecorded : ∀ output, (t'.view jobId).output = some output →
      (t.view jobId).output = some output ∨ (t'.outfits.blobs.find? output.blobSha256).isSome) :
    Moved t t' where
  views other := by
    by_cases hother : other = jobId
    · rw [hother]
      exact hmove
    · rw [hothers other hother]
  approvals approvalId row hrow := ⟨row, by rw [happrovals, hrow], fun _ h => h⟩
  born other job hnone hsome := by
    by_cases hother : other = jobId
    · rw [hother] at hnone hsome
      rw [hjob hnone] at hsome
      cases hsome
    · rw [hothers other hother, hnone] at hsome
      cases hsome
  blobs := hblobs
  recorded other output houtput := by
    by_cases hother : other = jobId
    · rw [hother] at houtput ⊢
      exact hrecorded output houtput
    · rw [hothers other hother] at houtput
      exact .inl houtput

theorem view_put (t t' : TryOnTables) {job : TryOnJobRow} {attempt : TryOnAttemptRow}
    (hjobs : t'.jobs = t.jobs.put jobId job)
    (hattempts : t'.attempts = t.attempts.put ⟨jobId⟩ attempt) (houtputs : t'.outputs = t.outputs) :
    t'.view jobId = ⟨some job, some attempt, (t.view jobId).output⟩ ∧
      ∀ other, other ≠ jobId → t'.view other = t.view other := by
  refine ⟨?_, fun other hother => ?_⟩
  · simp only [TryOnTables.view, hjobs, hattempts, houtputs, find?_put, if_pos]
  · have hne : TryOnAttemptId.mk other ≠ ⟨jobId⟩ := fun h => hother (TryOnAttemptId.mk.inj h)
    simp only [TryOnTables.view, hjobs, hattempts, houtputs, find?_put, if_neg hother,
      if_neg hne]

/-! ## Statements -/

theorem updateJob_eq_ok {cond : TryOnJobRow → Bool} {f : TryOnJobRow → TryOnJobRow} :
    updateJob jobId cond f t = (.ok u, t') ↔ ∃ job, t.jobs.find? jobId = some job ∧ cond job ∧
      (f job).allowed ∧ t' = { t with jobs := t.jobs.put jobId (f job) } := by
  rw [updateJob, state_bind]
  cases hjob : t.jobs.find? jobId with
  | none => simp
  | some job =>
    simp only [some.injEq, exists_eq_left']
    by_cases hcond : cond job = true
    · rw [if_pos hcond, putJob, rejectIf_bind_eq_ok, update_run, Prod.mk.injEq]
      simp only [hcond, true_and, Bool.not_eq_false]
      exact and_congr_right fun _ => eq_comm
    · rw [if_neg hcond]
      simp [hcond]

theorem updateAttempt_eq_ok {attemptId : TryOnAttemptId} :
    updateAttempt attemptId cond f t = (.ok u, t') ↔
      ∃ attempt, t.attempts.find? attemptId = some attempt ∧ cond attempt ∧
        (f attempt).allowed ∧ t' = { t with attempts := t.attempts.put attemptId (f attempt) } := by
  rw [updateAttempt, state_bind]
  cases hattempt : t.attempts.find? attemptId with
  | none => simp
  | some attempt =>
    simp only [some.injEq, exists_eq_left']
    by_cases hcond : cond attempt = true
    · rw [if_pos hcond, putAttempt, rejectIf_bind_eq_ok, update_run, Prod.mk.injEq]
      simp only [hcond, true_and, Bool.not_eq_false]
      exact and_congr_right fun _ => eq_comm
    · rw [if_neg hcond]
      simp [hcond]

/-- **Failing a job** finds it waiting or running, with an open attempt under the same fence. -/
theorem failJob_eq_ok : failJob jobId fence code nowMs t = (.ok u, t') ↔
      ∃ attempt job, t.attempts.find? ⟨jobId⟩ = some attempt ∧ t.jobs.find? jobId = some job ∧
        (attempt.state.isOpen ∧ attempt.fence = fence) ∧
        ((job.state = .queued ∨ job.state = .running) ∧ job.fence = fence) ∧
        (attempt.failedWith code nowMs).allowed ∧ (job.failedWith jobId code nowMs).allowed ∧
        t.tryOnRevision + 1 ≤ Outfits.maxStoredRevision ∧
        t' = { t with
          attempts := t.attempts.put ⟨jobId⟩ (attempt.failedWith code nowMs)
          jobs := t.jobs.put jobId (job.failedWith jobId code nowMs)
          tryOnRevision := t.tryOnRevision + 1 } := by
  rw [failJob]
  constructor
  · intro h
    obtain ⟨_, t₁, hattempt, h⟩ := bind_eq_ok.mp h
    obtain ⟨_, t₂, hjob, h⟩ := bind_eq_ok.mp h
    obtain ⟨attempt, hfound, hcond, hfits, rfl⟩ := updateAttempt_eq_ok.mp hattempt
    obtain ⟨job, hjobFound, hjobCond, hallowed, rfl⟩ := updateJob_eq_ok.mp hjob
    obtain ⟨hroom, rfl⟩ := advanceTryOnRevision_eq_ok.mp h
    simp only [Bool.and_eq_true, beq_iff_eq, Bool.or_eq_true] at hcond hjobCond
    exact ⟨attempt, job, hfound, hjobFound, hcond, hjobCond, hfits, hallowed, hroom, rfl⟩
  · rintro ⟨attempt, job, hfound, hjobFound, ⟨hopen, hfence⟩, ⟨hstate, hjobFence⟩, hfits, hallowed,
      hroom, rfl⟩
    refine bind_eq_ok.mpr ⟨⟨⟩, _, updateAttempt_eq_ok.mpr ⟨attempt, hfound, ?_, hfits, rfl⟩, ?_⟩
    · simp [hopen, hfence]
    refine bind_eq_ok.mpr ⟨⟨⟩, _, updateJob_eq_ok.mpr ⟨job, hjobFound, ?_, hallowed, rfl⟩, ?_⟩
    · simpa [hjobFence] using hstate
    exact advanceTryOnRevision_eq_ok.mpr ⟨hroom, rfl⟩

theorem failJob_others (h : failJob jobId fence code nowMs t = (.ok u, t'))
    (hother : other ≠ jobId) :
    t'.view other = t.view other := by
  obtain ⟨attempt, job, -, -, -, -, -, -, -, rfl⟩ := failJob_eq_ok.mp h
  obtain ⟨-, hothers⟩ := view_put t ({ t with
    attempts := t.attempts.put ⟨jobId⟩ (attempt.failedWith code nowMs)
    jobs := t.jobs.put jobId (job.failedWith jobId code nowMs)
    tryOnRevision := t.tryOnRevision + 1 }) rfl rfl rfl
  exact hothers other hother

theorem takeJob_others {owner : String} {leaseMs : ℤ} {entry : TryOnJobId × TryOnJobRow}
    (h : takeJob owner nowMs leaseMs entry t = (.ok fence, t')) (hother : other ≠ entry.1) :
    t'.view other = t.view other := by
  obtain ⟨-, leaseExpiresAtMs, attempt, rfl, -⟩ := takeJob_eq_ok h
  obtain ⟨-, hothers⟩ := view_put t ({ t with
    jobs := t.jobs.put entry.1 (entry.2.taken owner leaseExpiresAtMs nowMs)
    attempts := t.attempts.put ⟨entry.1⟩ attempt }) rfl rfl rfl
  exact hothers other hother

theorem Moved.failed (h : failJob jobId fence code nowMs t = (.ok u, t')) : Moved t t' := by
  obtain ⟨attempt, job, hattempt, hjob, ⟨hopen, hfence⟩, ⟨hstate, hjobFence⟩, hfits, hallowed, -,
    rfl⟩ := failJob_eq_ok.mp h
  obtain ⟨hview, -⟩ := view_put t ({ t with
    attempts := t.attempts.put ⟨jobId⟩ (attempt.failedWith code nowMs)
    jobs := t.jobs.put jobId (job.failedWith jobId code nowMs)
    tryOnRevision := t.tryOnRevision + 1 }) rfl rfl rfl
  have hbefore : t.view jobId = ⟨some job, some attempt, (t.view jobId).output⟩ := by
    rw [TryOnTables.view, hjob, hattempt]
  refine .of_moves jobId ?_ (fun hnone => by rw [hbefore] at hnone; cases hnone)
    (fun _ => failJob_others h) rfl
    (fun _ h => h) fun output houtput => .inl ?_
  · rw [hview, hbefore]
    exact .single (.fail hstate (hfence.trans hjobFence.symm) hopen hallowed hfits)
  · rw [hview] at houtput
    exact houtput

theorem insertOutput_eq_ok {outputId : TryOnOutputId} {row : TryOnOutputRow}
    (h : insertOutput outputId row t = (.ok u, t')) :
    (∀ output, finishedOutput (t.outputs.find? outputId) row = some output →
      t.outputs.find? outputId = some output ∨
        (t.outfits.blobs.find? output.blobSha256).isSome) ∧
      ∃ outputs, t' = { t with outputs := outputs } ∧
        ∀ other, outputs.find? other = if other = outputId then
          finishedOutput (t.outputs.find? outputId) row else t.outputs.find? other := by
  rw [insertOutput, state_bind] at h
  by_cases hnew : row.allowed ∧ t.outputs.find? outputId = none
  · rw [if_pos hnew, rejectIf_bind_eq_ok] at h
    obtain ⟨hblob, h⟩ := h
    cases h
    rw [finishedOutput, if_pos hnew]
    refine ⟨fun output houtput => .inr ?_, _, rfl, fun other => find?_put ..⟩
    cases houtput
    exact isSome_iff_ne_none.mpr (by simpa using hblob)
  · rw [if_neg hnew] at h
    cases h
    rw [finishedOutput, if_neg hnew]
    refine ⟨fun output houtput => .inl houtput, _, rfl, fun other => ?_⟩
    split
    · rename_i heq
      rw [heq]
    · rfl

/-- **Recording an output** finds the job running, with a materializing attempt under the same
fence that announced this output. -/
theorem finalizePromotedOutput_eq_ok
    (h : finalizePromotedOutput jobId fence intent nowMs t = (.ok u, t')) :
    ∃ attempt job snapshot, t.view jobId = ⟨some job, some attempt, (t.view jobId).output⟩ ∧
      (attempt.state = .materializing ∧ attempt.fence = fence ∧ attempt.output = some intent) ∧
      (job.state = .running ∧ job.fence = fence) ∧ (attempt.finished nowMs).allowed ∧
      (job.finished jobId nowMs).allowed ∧ t'.view jobId = ⟨some (job.finished jobId nowMs),
        some (attempt.finished nowMs), finishedOutput (t.view jobId).output
          ⟨intent.sha256, intent.byteLength, snapshot, nowMs⟩⟩ ∧
      (∀ other, other ≠ jobId → t'.view other = t.view other) ∧ t'.approvals = t.approvals ∧
      t'.outfits = t.outfits ∧ ∀ output, (t'.view jobId).output = some output →
        (t.view jobId).output = some output ∨
          (t.outfits.blobs.find? output.blobSha256).isSome := by
  rw [finalizePromotedOutput, state_bind] at h
  obtain ⟨snapshot, -, h⟩ := Fallible.check_bind_eq_ok.mp h
  obtain ⟨_, t₁, hinsert, h⟩ := bind_eq_ok.mp h
  obtain ⟨hrecorded, outputs, rfl, houtputs⟩ := insertOutput_eq_ok hinsert
  obtain ⟨_, t₂, hattempt, h⟩ := bind_eq_ok.mp h
  obtain ⟨_, t₃, hjob, h⟩ := bind_eq_ok.mp h
  obtain ⟨attempt, hfound, hcond, hfits, rfl⟩ := updateAttempt_eq_ok.mp hattempt
  obtain ⟨job, hjobFound, hjobCond, hallowed, rfl⟩ := updateJob_eq_ok.mp hjob
  obtain ⟨-, rfl⟩ := advanceTryOnRevision_eq_ok.mp h
  simp only [Bool.and_eq_true, beq_iff_eq] at hcond hjobCond
  have hview : t.view jobId = ⟨some job, some attempt, (t.view jobId).output⟩ := by
    rw [TryOnTables.view]
    exact congrArg₂ (fun job attempt => TryOnView.mk job attempt _) hjobFound hfound
  refine ⟨attempt, job, snapshot, hview, ⟨hcond.1.1, hcond.1.2, hcond.2⟩, hjobCond, hfits, hallowed,
    ?_, fun other hother => ?_, rfl, rfl, fun output houtput => ?_⟩
  · simp only [TryOnTables.view, Table.find?_put, houtputs, if_pos]
    rfl
  · have hattempt : TryOnAttemptId.mk other ≠ ⟨jobId⟩ :=
      fun heq => hother (TryOnAttemptId.mk.inj heq)
    have houtput : TryOnOutputId.mk other ≠ ⟨jobId⟩ := fun heq => hother (TryOnOutputId.mk.inj heq)
    simp only [TryOnTables.view, Table.find?_put, houtputs, if_neg hother, if_neg hattempt,
      if_neg houtput]
  · refine hrecorded output ?_
    simpa only [TryOnTables.view, houtputs, if_pos] using houtput

theorem Moved.finished (h : finalizePromotedOutput jobId fence intent nowMs t = (.ok u, t')) :
    Moved t t' := by
  obtain ⟨attempt, job, snapshot, hbefore, ⟨hstate, hfence, hannounced⟩, ⟨hrunning, hjobFence⟩,
    hfits, hallowed, hview, hothers, happrovals, houtfits, hrecorded⟩ :=
    finalizePromotedOutput_eq_ok h
  refine .of_moves jobId ?_ (fun hnone => by rw [hbefore] at hnone; cases hnone) hothers happrovals
    (by rw [houtfits]; exact fun _ h => h) (by rw [houtfits]; exact hrecorded)
  rw [hview]
  nth_rewrite 1 [hbefore]
  exact .single (.finish hrunning (hfence.trans hjobFence.symm) hstate hannounced hallowed hfits)

/-! ## Calls -/

theorem moved_atomically {α : Type} {x : TryOnTransaction α}
    (h : ∀ t t' a, x t = (.ok a, t') → Moved t t') : Fallible.Steps Moved (atomically x) :=
  Fallible.Steps.atomically_of_ok .refl h

/-- **A preview** leaves jobs alone, and adds an approval that is not spent. -/
theorem Previews.moved {request : PreviewTryOnV1Request} {preview : TryOnPreview}
    (h : Previews services files request nowMs t t' preview) : Moved t t' := by
  obtain ⟨hjobs, hattempts, houtputs, hblobs⟩ := h.work
  have hviews : ∀ jobId, t'.view jobId = t.view jobId := by
    intro jobId
    rw [TryOnTables.view, hjobs, hattempts, houtputs]
    rfl
  exact {
    views := fun jobId => by rw [hviews]
    approvals := fun approvalId row hrow => by
      have hold : approvalId ≠ ⟨request.requestId⟩ := by
        rintro rfl
        rw [h.new] at hrow
        cases hrow
      rw [h.approvals, find?_put, if_neg hold]
      exact ⟨row, hrow, fun _ h => h⟩
    born := fun jobId job hnone hsome => by
      rw [hviews, hnone] at hsome
      cases hsome
    blobs := fun sha256 hblob => by rwa [hblobs]
    recorded := fun jobId output houtput => .inl (by rwa [hviews] at houtput) }

theorem consumeApproval_eq_ok {approvalId : TryOnApprovalId} {requestId : RequestId}
    {row : TryOnApprovalRow} (hrow : t.approvals.find? approvalId = some row)
    (hunspent : row.consumedRequestId = none)
    (h : consumeApproval approvalId requestId t = (.ok u, t')) :
    t' = { t with
      approvals := t.approvals.put approvalId { row with consumedRequestId := some requestId } } := by
  rw [consumeApproval, state_bind, hrow] at h
  dsimp only at h
  rw [hunspent, if_neg (by simp), rejectIf_bind_eq_ok] at h
  exact (Prod.mk.inj h.2).2.symm

structure Submits (services : TryOnServices) (request : SubmitTryOnV1Request) (nowMs : ℤ)
    (t t' : TryOnTables) : Prop where
  spendable : ∃ approval, t.approvals.find? request.approvalId = some approval ∧
    approval.consumedRequestId = none ∧ t'.approvals = t.approvals.put request.approvalId
      { approval with consumedRequestId := some request.requestId }
  new : t.jobs.find? ⟨request.requestId⟩ = none
  allowed : (queuedJob services request nowMs).allowed
  jobs : t'.jobs = t.jobs.put ⟨request.requestId⟩ (queuedJob services request nowMs)
  work : t'.attempts = t.attempts ∧ t'.outputs = t.outputs ∧
    t'.outfits.blobs = t.outfits.blobs

/-- **A submission** is carried out, or answered from its receipt. -/
theorem submitTryOn_eq_ok {request : SubmitTryOnV1Request} {response : SubmitTryOnV1Response}
    (h : submitTryOn services request nowMs t = (.ok response, t')) :
    Submits services request nowMs t t' ∨ t' = t := by
  rw [submitTryOn, atomically_eq_ok, require_bind_eq_ok, state_bind,
    Fallible.check_bind_eq_ok] at h
  obtain ⟨-, stored | stored, -, h⟩ := h
  · refine .inl ?_
    dsimp only at h
    rw [performSubmit, state_bind, Fallible.check_bind_eq_ok] at h
    obtain ⟨approval, hspendable, h⟩ := h
    obtain ⟨_, t₀, hcredential, h⟩ := bind_eq_ok.mp h
    rw [requireActiveCredential, state_bind, rejectIf_eq_ok] at hcredential
    obtain ⟨-, rfl⟩ := hcredential
    obtain ⟨createdAt, -, h⟩ := Fallible.check_bind_eq_ok.mp h
    rw [require_bind_eq_ok] at h
    obtain ⟨-, h⟩ := h
    -- the approval is there, and was not spent
    obtain ⟨hrow, hunspent⟩ : t.approvals.find? request.approvalId = some approval ∧
        approval.consumedRequestId = none := by
      rw [spendableApproval] at hspendable
      cases hrow : t.approvals.find? request.approvalId with
      | none => simp [hrow] at hspendable
      | some row =>
        simp only [hrow, check_unless_eq_ok] at hspendable
        obtain ⟨hunspent, -, -, hrow⟩ := hspendable
        obtain rfl := Except.ok.inj hrow
        exact ⟨rfl, by simpa using hunspent⟩
    obtain ⟨_, t₁, hconsume, h⟩ := bind_eq_ok.mp h
    obtain rfl := consumeApproval_eq_ok hrow hunspent hconsume
    obtain ⟨_, t₂, hinsert, h⟩ := bind_eq_ok.mp h
    rw [insertJob, state_bind, rejectIf_bind_eq_ok, rejectIf_bind_eq_ok, rejectIf_bind_eq_ok,
      rejectIf_bind_eq_ok] at hinsert
    obtain ⟨hallowed, hnew, -, -, hput⟩ := hinsert
    obtain ⟨-, rfl⟩ := Prod.mk.inj hput
    obtain ⟨_, t₃, hreceipt, h⟩ := bind_eq_ok.mp h
    rw [insertReceipt, state_bind, rejectIf_bind_eq_ok] at hreceipt
    obtain ⟨-, rfl⟩ := Prod.mk.inj hreceipt.2
    rw [update_bind] at h
    obtain ⟨_, t₄, hadvance, h⟩ := bind_eq_ok.mp h
    obtain ⟨-, rfl⟩ := advanceTryOnRevision_eq_ok.mp hadvance
    obtain ⟨-, rfl⟩ := Prod.mk.inj h
    exact ⟨⟨approval, hrow, hunspent, rfl⟩, by simpa using hnew, by simpa using hallowed, rfl, rfl,
      rfl, rfl⟩
  · exact .inr (Prod.mk.inj h).2.symm

theorem Submits.moved {request : SubmitTryOnV1Request} (h : Submits services request nowMs t t') :
    Moved t t' := by
  obtain ⟨approval, hrow, hunspent, happrovals⟩ := h.spendable
  obtain ⟨hattempts, houtputs, hblobs⟩ := h.work
  have hspent : t'.approvals.find? request.approvalId =
      some { approval with consumedRequestId := some request.requestId } := by
    rw [happrovals, find?_put, if_pos rfl]
  have hview : ∀ jobId, t'.view jobId = if jobId = ⟨request.requestId⟩ then
      ⟨some (queuedJob services request nowMs), (t.view jobId).attempt, (t.view jobId).output⟩
      else t.view jobId := by
    intro jobId
    rw [TryOnTables.view, h.jobs, hattempts, houtputs, find?_put]
    split <;> rfl
  have hbefore : t.view ⟨request.requestId⟩ = ⟨none, (t.view ⟨request.requestId⟩).attempt,
      (t.view ⟨request.requestId⟩).output⟩ := by
    rw [TryOnTables.view, h.new]
  refine {
    views := fun jobId => ?_
    approvals := fun approvalId row hfound => ?_
    born := fun jobId job hnone hsome => ?_
    blobs := fun sha256 hblob => by rwa [hblobs]
    recorded := fun jobId output houtput => .inl ?_ }
  · rw [hview]
    split
    · rename_i heq
      subst heq
      rw [hbefore]
      exact .single (.submit h.allowed rfl rfl)
    · exact .refl
  · by_cases heq : approvalId = request.approvalId
    · subst heq
      obtain rfl := mem_unique hfound hrow
      refine ⟨_, hspent, fun requestId hconsumed => ?_⟩
      rw [hunspent] at hconsumed
      cases hconsumed
    · rw [happrovals, find?_put, if_neg heq]
      exact ⟨row, hfound, fun _ h => h⟩
  · rw [hview] at hsome
    split at hsome
    · rename_i heq
      cases hsome
      exact ⟨heq, _, hspent, rfl⟩
    · rw [hnone] at hsome
      cases hsome
  · rw [hview] at houtput
    split at houtput <;> exact houtput

theorem view_putAttempt (t : TryOnTables) (jobId : TryOnJobId) (attempt : TryOnAttemptRow) :
    ({ t with attempts := t.attempts.put ⟨jobId⟩ attempt } : TryOnTables).view jobId =
        ⟨(t.view jobId).job, some attempt, (t.view jobId).output⟩ ∧
      ∀ other, other ≠ jobId →
        ({ t with attempts := t.attempts.put ⟨jobId⟩ attempt } : TryOnTables).view other =
          t.view other := by
  refine ⟨by simp only [TryOnTables.view, find?_put, if_pos], fun other hother => ?_⟩
  have hne : TryOnAttemptId.mk other ≠ ⟨jobId⟩ := fun h => hother (TryOnAttemptId.mk.inj h)
  simp only [TryOnTables.view, find?_put, if_neg hne]

theorem Moved.reported (h : updateAttempt ⟨jobId⟩ cond f t = (.ok u, t'))
    (hmove : ∀ attempt, (t.view jobId).attempt = some attempt → cond attempt →
      (f attempt).allowed →
      Move (t.view jobId) ⟨(t.view jobId).job, some (f attempt), (t.view jobId).output⟩) :
    Moved t t' := by
  obtain ⟨attempt, hfound, hcond, hfits, rfl⟩ := updateAttempt_eq_ok.mp h
  obtain ⟨hview, hothers⟩ := view_putAttempt t jobId (f attempt)
  refine .of_moves jobId ?_ (fun h => h) hothers rfl (fun _ h => h)
    fun output houtput => .inl houtput
  rw [hview]
  exact .single (hmove attempt hfound hcond hfits)

theorem Moved.of_dispatched (h : updateAttempt ⟨jobId⟩ cond f t = (.ok u, t'))
    (hcond : ∀ attempt, cond attempt → attempt.state = .dispatched)
    (hf : ∀ attempt, attempt.state = .dispatched → (f attempt).fence = attempt.fence ∧
      ((f attempt).state = .dispatched ∨ (f attempt).state = .materializing)) : Moved t t' := by
  refine .reported h fun attempt hattempt hmeets hfits => ?_
  have hstate := hcond attempt hmeets
  obtain ⟨hfence, hstate'⟩ := hf attempt hstate
  have hview : t.view jobId = ⟨(t.view jobId).job, some attempt, (t.view jobId).output⟩ := by
    rw [← hattempt]
  rw [hview]
  exact .report hstate hfence hstate' hfits

theorem moved_claimRound (owner : String) (nowMs leaseMs : ℤ) :
    Fallible.Steps Moved (claimRound services files owner nowMs leaseMs) := by
  intro t
  rcases hround : claimRound services files owner nowMs leaseMs t with ⟨e | round, t'⟩
  · rw [atomically_of_error hround]
    exact .refl t
  obtain ⟨-, -, rfl⟩ | ⟨entry, fence, t₁, hnext, htake, hend⟩ := claimRound_eq_ok hround
  · exact .refl t'
  have htaken : Moved t t₁ := by
    obtain ⟨rfl, leaseExpiresAtMs, attempt, rfl, hallowed, hfits, rfl⟩ := takeJob_eq_ok htake
    obtain ⟨hview, hothers⟩ := view_put t ({ t with
      jobs := t.jobs.put entry.1 (entry.2.taken owner leaseExpiresAtMs nowMs)
      attempts := t.attempts.put ⟨entry.1⟩
        (preparedAttempt (t.attempts.find? ⟨entry.1⟩) (entry.2.fence + 1) nowMs) }) rfl rfl rfl
    obtain ⟨hjob, hqueued⟩ : t.jobs.find? entry.1 = some entry.2 ∧ entry.2.state = .queued := by
      have hmem := List.mem_of_head? hnext
      rw [List.mem_mergeSort, List.mem_filter, decide_eq_true_eq] at hmem
      exact ⟨mem_rows.mp hmem.1, hmem.2.1⟩
    have hbefore : t.view entry.1 =
        ⟨some entry.2, t.attempts.find? ⟨entry.1⟩, (t.view entry.1).output⟩ := by
      rw [TryOnTables.view, hjob]
    refine .of_moves entry.1 ?_ (fun hnone => by rw [hbefore] at hnone; cases hnone) hothers
      rfl (fun _ h => h) fun output houtput => .inl ?_
    · rw [hview, hbefore]
      exact .single (.take owner leaseExpiresAtMs nowMs hqueued hallowed hfits)
    · rw [hview] at houtput
      exact houtput
  obtain ⟨assets, -, -, rfl⟩ | ⟨e, -, -, u, hfail⟩ := hend
  · exact htaken
  · exact htaken.trans _ _ _ (.failed hfail)

/-- **Letting a claim out** finds its job running under its fence, with a prepared attempt. -/
theorem authorize_cases {claim : ClaimedTryOnJob} {result : Except PlatformError String}
    (h : authorizeTryOnTransport services claim nowMs t = (result, t')) :
    (t' = t ∧ result.isOk = false) ∨ ∃ job attempt attempt',
      t.view claim.jobId = ⟨some job, some attempt, (t.view claim.jobId).output⟩ ∧
      (job.state = .running ∧ job.fence = claim.fence) ∧
      (attempt.state = .prepared ∧ attempt.fence = claim.fence) ∧
      attempt' = { attempt with state := .dispatched, updatedAtMs := nowMs } ∧
      attempt'.allowed ∧
      t' = { t with attempts := t.attempts.put ⟨claim.jobId⟩ attempt' } := by
  rw [authorizeTryOnTransport] at h
  rcases hbody : (atomically (do
    let t ← Fallible.state
    let locator ← Fallible.check (transportAuthority t claim)
    updateAttempt claim.attemptId
      (fun row => row.state == .prepared && row.fence == claim.fence)
      fun row => { row with state := .dispatched, updatedAtMs := nowMs }
    pure locator) : TryOnTransaction String) t with ⟨e | locator, t₁⟩
  · obtain rfl := atomically_of_error hbody
    rw [bind_of_error hbody] at h
    obtain ⟨rfl, rfl⟩ := Prod.mk.inj h
    exact .inl ⟨rfl, rfl⟩
  · rw [bind_of_ok hbody, check_run] at h
    obtain ⟨-, rfl⟩ := Prod.mk.inj h
    rw [atomically_eq_ok, state_bind, Fallible.check_bind_eq_ok] at hbody
    obtain ⟨found, hauthority, hbody⟩ := hbody
    obtain ⟨_, t₂, hupdate, hdone⟩ := bind_eq_ok.mp hbody
    obtain ⟨-, rfl⟩ := Prod.mk.inj hdone
    obtain ⟨attempt, hattempt, hcond, hfits, rfl⟩ := updateAttempt_eq_ok.mp hupdate
    simp only [Bool.and_eq_true, beq_iff_eq] at hcond
    have hfound : t.attempts.find? ⟨claim.jobId⟩ = some attempt := hattempt
    rw [transportAuthority, hattempt] at hauthority
    cases hjob : t.jobs.find? claim.jobId with
    | none => simp [hjob] at hauthority
    | some job =>
      simp only [hjob] at hauthority
      split at hauthority
      · rename_i hrunning
        refine .inr ⟨job, attempt, _, ?_, ⟨hrunning.1, hrunning.2.1⟩, hcond, rfl, hfits, rfl⟩
        rw [TryOnTables.view, hjob, hfound]
      · cases hauthority

end Threadbook.TryOn
