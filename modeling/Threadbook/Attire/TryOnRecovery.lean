import Threadbook.Attire.TryOnMoves

/-!
# Startup recovery of try-on jobs

When the application starts, what was running is settled: a job that was not let out waits again, one
that was let out fails with an unknown outcome, and one that was storing its output succeeds if the
file of the output is whole (**`recoverTryOnJobs_eq_ok`**). Recovery succeeds if its clock is not
behind the rows (**`recoverTryOnJobs_total`**). With it, every call of the repository moves jobs
(**`operation_moved`**), and a call under a fence that is not the attempt's writes nothing
(**`stale_fence`**).
-/

namespace Threadbook.TryOn

open Table List Option Fallible

variable {services : TryOnServices} {files : BlobFiles} {t t₁ t' : TryOnTables} {nowMs : ℤ}

/-! ## One job -/

def Recovered (services : TryOnServices) (files : BlobFiles) (nowMs : ℤ) (jobId : TryOnJobId)
    (attempt : TryOnAttemptRow) (v v' : TryOnView) : Prop :=
  ∃ job, v.job = some job ∧
    match attempt.state with
    | .prepared => v' = ⟨some (job.requeued nowMs), v.attempt, v.output⟩
    | .dispatched => v' = ⟨some (job.failedWith jobId .outcomeUnknown nowMs),
        some (attempt.failedWith .outcomeUnknown nowMs), v.output⟩
    | .materializing =>
      match promotedOutput services files attempt.output with
      | some intent => ∃ snapshot, v' = ⟨some (job.finished jobId nowMs),
          some (attempt.finished nowMs),
          finishedOutput v.output ⟨intent.sha256, intent.byteLength, snapshot, nowMs⟩⟩
      | none => v' = ⟨some (job.failedWith jobId .outputMaterializationInterrupted nowMs),
          some (attempt.failedWith .outputMaterializationInterrupted nowMs), v.output⟩
    | .succeeded | .failed => False

theorem failJob_view {jobId : TryOnJobId} {fence : ℕ} {code : TryOnFailureCodeV1} {u : PUnit}
    {attempt : TryOnAttemptRow} (hattempt : (t.view jobId).attempt = some attempt)
    (h : failJob jobId fence code nowMs t = (.ok u, t')) :
    (∃ job, (t.view jobId).job = some job ∧ t'.view jobId = ⟨some (job.failedWith jobId code nowMs),
      some (attempt.failedWith code nowMs), (t.view jobId).output⟩) ∧
      ∀ other, other ≠ jobId → t'.view other = t.view other := by
  obtain ⟨found, job, hfound, hjob, -, -, -, -, -, rfl⟩ := failJob_eq_ok.mp h
  obtain rfl := mem_unique hattempt hfound
  obtain ⟨hview, hothers⟩ := view_put t ({ t with
    attempts := t.attempts.put ⟨jobId⟩ (attempt.failedWith code nowMs)
    jobs := t.jobs.put jobId (job.failedWith jobId code nowMs)
    tryOnRevision := t.tryOnRevision + 1 }) rfl rfl rfl
  exact ⟨⟨job, hjob, hview⟩, hothers⟩

theorem recordBlob_eq_ok {sha256 : String} {byteLength : ℕ} {u : PUnit}
    (h : recordBlob sha256 byteLength t = (.ok u, t')) :
    Moved t t' ∧ t'.view = t.view ∧ (t'.outfits.blobs.find? sha256).isSome := by
  cases h
  have hblobs : ∀ other, (t.outfits.blobs.find? other).isSome →
      ((t.outfits.blobs.insertOrIgnore sha256 byteLength).1.find? other).isSome := by
    intro other hother
    obtain ⟨row, hrow⟩ := isSome_iff_exists.mp hother
    rw [find?_insertOrIgnore_of_some hrow]
    rfl
  refine ⟨?_, rfl, ?_⟩
  · exact {
      views := fun _ => .refl
      approvals := fun _ row hrow => ⟨row, hrow, fun _ h => h⟩
      born := fun jobId job hnone hsome => by
        rw [show (t.view jobId).job = some job from hsome] at hnone
        cases hnone
      blobs := hblobs
      recorded := fun _ _ h => .inl h }
  · change ((t.outfits.blobs.insertOrIgnore sha256 byteLength).1.find? sha256).isSome
    rw [find?_insertOrIgnore, if_pos rfl]
    rfl

variable {entry : TryOnJobId × TryOnAttemptRow}

/-- **Settling one job** moves it, and leaves the others. -/
theorem recoverJob_eq_ok {u : PUnit} (hattempt : (t.view entry.1).attempt = some entry.2)
    (h : recoverJob services files nowMs entry t = (.ok u, t')) :
    Moved t t' ∧ Recovered services files nowMs entry.1 entry.2 (t.view entry.1)
      (t'.view entry.1) ∧ ∀ other, other ≠ entry.1 → t'.view other = t.view other := by
  rw [recoverJob] at h
  cases hstate : entry.2.state with
  | prepared =>
    rw [hstate] at h
    obtain ⟨job, hjob, hcond, hallowed, rfl⟩ := updateJob_eq_ok.mp h
    simp only [Bool.and_eq_true, beq_iff_eq] at hcond
    have hbefore : t.view entry.1 = ⟨some job, some entry.2, (t.view entry.1).output⟩ := by
      rw [← hattempt, TryOnTables.view, hjob]
    have hview : ({ t with jobs := t.jobs.put entry.1 (job.requeued nowMs) } : TryOnTables).view
        entry.1 = ⟨some (job.requeued nowMs), (t.view entry.1).attempt, (t.view entry.1).output⟩ := by
      simp only [TryOnTables.view, find?_put, if_pos]
    have hothers : ∀ other, other ≠ entry.1 →
        ({ t with jobs := t.jobs.put entry.1 (job.requeued nowMs) } : TryOnTables).view other =
          t.view other := by
      intro other hother
      simp only [TryOnTables.view, find?_put, if_neg hother]
    refine ⟨.of_moves entry.1 ?_ ?_ hothers rfl (fun _ h => h) fun output houtput =>
      .inl ?_, ⟨job, hjob, ?_⟩, hothers⟩
    · refine .single ?_
      have hmove : Move ⟨some job, some entry.2, (t.view entry.1).output⟩
          ⟨some (job.requeued nowMs), some entry.2, (t.view entry.1).output⟩ :=
        .requeue hcond.1 hcond.2.symm hstate hallowed
      rw [← hbefore] at hmove
      rw [← hattempt] at hmove
      exact hview ▸ hmove
    · intro hnone
      rw [hbefore] at hnone
      cases hnone
    · exact houtput
    · rw [hstate]
      exact hview
  | dispatched =>
    rw [hstate] at h
    obtain ⟨⟨job, hjob, hview⟩, hothers⟩ := failJob_view hattempt h
    refine ⟨.failed h, ⟨job, hjob, ?_⟩, hothers⟩
    rw [hstate]
    exact hview
  | materializing =>
    rw [hstate] at h
    dsimp only at h
    cases hpromoted : promotedOutput services files entry.2.output with
    | none =>
      rw [hpromoted] at h
      obtain ⟨⟨job, hjob, hview⟩, hothers⟩ := failJob_view hattempt h
      refine ⟨.failed h, ⟨job, hjob, ?_⟩, hothers⟩
      rw [hstate]
      dsimp only
      rw [hpromoted]
      exact hview
    | some intent =>
      rw [hpromoted] at h
      obtain ⟨_, t₁, hrecord, h⟩ := bind_eq_ok.mp h
      obtain ⟨hmoved, hsame, -⟩ := recordBlob_eq_ok hrecord
      obtain ⟨attempt, job, snapshot, hbefore, -, -, -, -, hview, hothers, -, -, -⟩ :=
        finalizePromotedOutput_eq_ok h
      rw [hsame] at hbefore hview hothers
      rw [hbefore] at hattempt
      cases hattempt
      refine ⟨hmoved.trans _ _ _ (.finished h), ⟨job, by rw [hbefore], ?_⟩, hothers⟩
      rw [hstate]
      dsimp only
      rw [hpromoted]
      exact ⟨snapshot, hview⟩
  | succeeded | failed =>
    rw [hstate] at h
    cases h

/-! ## All jobs -/

theorem mem_runningJobs {jobId : TryOnJobId} {attempt : TryOnAttemptRow} :
    (jobId, attempt) ∈ runningJobs t ↔ ∃ job, (t.view jobId).job = some job ∧
      job.state = .running ∧ (t.view jobId).attempt = some attempt := by
  rw [runningJobs, mem_filterMap]
  constructor
  · rintro ⟨⟨id, job⟩, hmem, hentry⟩
    split at hentry
    · rename_i hrunning
      obtain ⟨found, hfound, hentry⟩ := map_eq_some_iff.mp hentry
      cases hentry
      exact ⟨job, mem_rows.mp hmem, hrunning, hfound⟩
    · cases hentry
  · rintro ⟨job, hjob, hrunning, hattempt⟩
    refine ⟨(jobId, job), mem_rows.mpr hjob, ?_⟩
    rw [if_pos hrunning, map_eq_some_iff]
    exact ⟨attempt, hattempt, rfl⟩

theorem runningJobs_nodup (t : TryOnTables) : ((runningJobs t).map Prod.fst).Nodup := by
  refine t.jobs.rows_nodup.sublist ?_
  rw [runningJobs]
  induction t.jobs.rows with
  | nil => exact .slnil
  | cons entry rest ih =>
    rw [filterMap_cons]
    split
    · exact ih.cons _
    · rename_i settled hsettled
      split at hsettled
      · obtain ⟨attempt, -, rfl⟩ := map_eq_some_iff.mp hsettled
        exact ih.cons_cons entry.1
      · cases hsettled

variable {entries : List (TryOnJobId × TryOnAttemptRow)}

theorem recoverJobs_eq_ok {us : List PUnit} (hnodup : (entries.map Prod.fst).Nodup)
    (hattempts : ∀ entry ∈ entries, (t.view entry.1).attempt = some entry.2)
    (h : forEach (recoverJob services files nowMs) entries t = (.ok us, t')) :
    Moved t t' ∧ (∀ entry ∈ entries, Recovered services files nowMs entry.1 entry.2
        (t.view entry.1) (t'.view entry.1)) ∧
      ∀ other, other ∉ entries.map Prod.fst → t'.view other = t.view other := by
  induction entries generalizing t us with
  | nil =>
    cases h
    exact ⟨.refl _, by simp, fun other _ => rfl⟩
  | cons entry rest ih =>
    obtain ⟨u, t₁, vs, hfirst, hrest, -⟩ := forEach_cons_eq_ok.mp h
    obtain ⟨hnew, hnodup⟩ := nodup_cons.mp hnodup
    obtain ⟨hattempt, hattempts⟩ := forall_mem_cons.mp hattempts
    obtain ⟨hmoved, hrecovered, hothers⟩ := recoverJob_eq_ok hattempt hfirst
    have hkept : ∀ other ∈ rest, t₁.view other.1 = t.view other.1 := by
      intro other hother
      refine hothers other.1 ?_
      rintro heq
      exact hnew (heq ▸ mem_map_of_mem hother)
    obtain ⟨hmoved', hrecovered', hothers'⟩ :=
      ih hnodup (fun other hother => by rw [hkept other hother]; exact hattempts other hother) hrest
    refine ⟨hmoved.trans _ _ _ hmoved', forall_mem_cons.mpr ⟨?_, fun other hother => ?_⟩,
      fun other hother => ?_⟩
    · rw [hothers' entry.1 hnew]
      exact hrecovered
    · rw [← hkept other hother]
      exact hrecovered' other hother
    · rw [map_cons, mem_cons, not_or] at hother
      rw [hothers' other hother.2, hothers other hother.1]

/-- **Recovery** settles every running job, and leaves the others. -/
theorem recoverTryOnJobs_eq_ok {u : PUnit}
    (h : recoverTryOnJobs services files nowMs t = (.ok u, t')) :
    Moved t t' ∧ (∀ jobId job attempt, (t.view jobId).job = some job → job.state = .running →
        (t.view jobId).attempt = some attempt →
        Recovered services files nowMs jobId attempt (t.view jobId) (t'.view jobId)) ∧
      ∀ jobId, (∀ job, (t.view jobId).job = some job → job.state ≠ .running) →
        t'.view jobId = t.view jobId := by
  rw [recoverTryOnJobs, atomically_eq_ok, state_bind] at h
  obtain ⟨us, t₁, hloop, h⟩ := bind_eq_ok.mp h
  cases h
  obtain ⟨hmoved, hrecovered, hothers⟩ := recoverJobs_eq_ok (runningJobs_nodup t)
    (fun entry hentry => (mem_runningJobs.mp hentry).choose_spec.2.2) hloop
  refine ⟨hmoved, fun jobId job attempt hjob hrunning hattempt =>
    hrecovered (jobId, attempt) (mem_runningJobs.mpr ⟨job, hjob, hrunning, hattempt⟩),
    fun jobId hidle => hothers jobId ?_⟩
  intro hmem
  obtain ⟨⟨id, attempt⟩, hentry, rfl⟩ := mem_map.mp hmem
  obtain ⟨job, hjob, hrunning, -⟩ := mem_runningJobs.mp hentry
  exact hidle job hjob hrunning

/-! ## Recovery succeeds -/

section Allowed

variable {job : TryOnJobRow} {attempt : TryOnAttemptRow} {code : TryOnFailureCodeV1}

theorem allowed_running (jobId : TryOnJobId) (code : TryOnFailureCodeV1) (hallowed : job.allowed) (hrunning : job.state = .running)
    (hclock : job.createdAtMs ≤ nowMs) : (job.requeued nowMs).allowed ∧
      (job.failedWith jobId code nowMs).allowed ∧ (job.finished jobId nowMs).allowed := by
  simp only [TryOnJobRow.allowed, TryOnJobRow.fitsState, TryOnJobRow.requeued,
    TryOnJobRow.failedWith, TryOnJobRow.finished, hrunning, decide_eq_true_eq] at hallowed ⊢
  simp only [Bool.and_eq_true, isNone_iff_eq_none] at hallowed
  obtain ⟨hhash, havailable, hcount, hcreated, -, ⟨-, hterminal⟩, hfailure⟩ := hallowed
  simp [hhash, havailable, hcount, hcreated, hclock, hterminal, hfailure]

theorem allowed_failedWith (hallowed : attempt.allowed) (hclock : attempt.createdAtMs ≤ nowMs) :
    (attempt.failedWith code nowMs).allowed := by
  rw [TryOnAttemptRow.allowed, decide_eq_true_eq] at hallowed ⊢
  obtain ⟨hfence, hintent, hcreated, -, -⟩ := hallowed
  exact ⟨hfence, hintent, hcreated, hclock, rfl⟩

theorem allowed_finished (hallowed : attempt.allowed) (hstate : attempt.state = .materializing)
    (hclock : attempt.createdAtMs ≤ nowMs) : (attempt.finished nowMs).allowed := by
  rw [TryOnAttemptRow.allowed, decide_eq_true_eq] at hallowed ⊢
  obtain ⟨hfence, hintent, hcreated, -, hfits⟩ := hallowed
  rw [TryOnAttemptRow.fitsState, hstate] at hfits
  exact ⟨hfence, hintent, hcreated, hclock, hfits⟩

end Allowed

structure Settleable (nowMs : ℤ) (t : TryOnTables) (entry : TryOnJobId × TryOnAttemptRow) :
    Prop where
  sound : (t.view entry.1).Sound
  job : ∃ job, (t.view entry.1).job = some job ∧ job.state = .running ∧ job.createdAtMs ≤ nowMs ∧
    (t.approvals.find? job.approvalId).isSome
  attempt : (t.view entry.1).attempt = some entry.2
  clock : entry.2.createdAtMs ≤ nowMs

theorem failJob_total {code : TryOnFailureCodeV1} (h : Settleable nowMs t entry)
    (hroom : t.tryOnRevision + 1 ≤ Outfits.maxStoredRevision) :
    ∃ t', failJob entry.1 entry.2.fence code nowMs t = (.ok ⟨⟩, t') ∧
      t'.approvals = t.approvals ∧ t'.tryOnRevision ≤ t.tryOnRevision + 1 := by
  obtain ⟨job, hjob, hrunning, hclock, -⟩ := h.job
  obtain ⟨-, attempt, hattempt, hopen, hfence⟩ := h.sound.running job hjob hrunning
  obtain rfl := some.inj (h.attempt.symm.trans hattempt)
  refine ⟨_, failJob_eq_ok.mpr ⟨entry.2, job, hattempt, hjob, ⟨hopen, rfl⟩,
    ⟨.inr hrunning, hfence.symm⟩, allowed_failedWith (h.sound.fits _ hattempt) h.clock,
    (allowed_running entry.1 code (h.sound.allowed job hjob) hrunning hclock).2.1, hroom, rfl⟩, rfl, le_rfl⟩

theorem insertOutput_total (outputId : TryOnOutputId) (row : TryOnOutputRow)
    (hblob : (t.outfits.blobs.find? row.blobSha256).isSome) :
    ∃ t', insertOutput outputId row t = (.ok ⟨⟩, t') ∧ t'.approvals = t.approvals ∧
      t'.jobs = t.jobs ∧ t'.attempts = t.attempts ∧ t'.tryOnRevision = t.tryOnRevision := by
  rw [insertOutput, state_bind]
  split
  · have hblob' : ¬ (t.outfits.blobs.find? row.blobSha256).isNone = true := by
      rw [isNone_iff_eq_none]
      exact isSome_iff_ne_none.mp hblob
    rw [rejectIf, if_neg hblob']
    exact ⟨_, rfl, rfl, rfl, rfl, rfl⟩
  · exact ⟨t, rfl, rfl, rfl, rfl, rfl⟩

theorem finalizePromotedOutput_total {intent : TryOnOutputIntent} (h : Settleable nowMs t entry)
    (hstate : entry.2.state = .materializing) (hannounced : entry.2.output = some intent)
    (hblob : (t.outfits.blobs.find? intent.sha256).isSome)
    (hroom : t.tryOnRevision + 1 ≤ Outfits.maxStoredRevision) :
    ∃ t', finalizePromotedOutput entry.1 entry.2.fence intent nowMs t = (.ok ⟨⟩, t') ∧
      t'.approvals = t.approvals ∧ t'.tryOnRevision ≤ t.tryOnRevision + 1 := by
  obtain ⟨job, hjob, hrunning, hclock, happroval⟩ := h.job
  obtain ⟨approval, happroval⟩ := isSome_iff_exists.mp happroval
  obtain ⟨-, attempt, hattempt, hopen, hfence⟩ := h.sound.running job hjob hrunning
  obtain rfl := some.inj (h.attempt.symm.trans hattempt)
  have hsnapshot : jobSnapshot t entry.1 = .ok approval.assetSnapshotSha256 := by
    have hfound : t.jobs.find? entry.1 = some job := hjob
    rw [jobSnapshot, hfound]
    dsimp only
    rw [happroval]
  obtain ⟨t₁, hinsert, happrovals, hjobs, hattempts, hrevision⟩ :=
    insertOutput_total ⟨entry.1⟩
      ⟨intent.sha256, intent.byteLength, approval.assetSnapshotSha256, nowMs⟩ hblob
  rw [finalizePromotedOutput, state_bind, hsnapshot]
  refine ⟨_, bind_eq_ok.mpr ⟨_, t, rfl, bind_eq_ok.mpr ⟨⟨⟩, t₁, hinsert, bind_eq_ok.mpr ⟨⟨⟩, _,
    updateAttempt_eq_ok.mpr ⟨entry.2, hattempts ▸ hattempt, by simp [hstate, hannounced],
      allowed_finished (h.sound.fits _ hattempt) hstate h.clock, rfl⟩,
    bind_eq_ok.mpr ⟨⟨⟩, _, updateJob_eq_ok.mpr ⟨job, ?_, by simp [hrunning, hfence],
      (allowed_running entry.1 .outcomeUnknown (h.sound.allowed job hjob) hrunning hclock).2.2,
      rfl⟩,
      advanceTryOnRevision_eq_ok.mpr ⟨?_, rfl⟩⟩⟩⟩⟩, happrovals, ?_⟩
  · exact hjobs ▸ hjob
  · exact hrevision ▸ hroom
  · exact hrevision ▸ le_rfl

theorem recoverJob_total (services : TryOnServices) (files : BlobFiles)
    (h : Settleable nowMs t entry) (hroom : t.tryOnRevision + 1 ≤ Outfits.maxStoredRevision) :
    ∃ t', recoverJob services files nowMs entry t = (.ok ⟨⟩, t') ∧ t'.approvals = t.approvals ∧
      t'.tryOnRevision ≤ t.tryOnRevision + 1 := by
  obtain ⟨job, hjob, hrunning, hclock, -⟩ := h.job
  obtain ⟨-, attempt, hattempt, hopen, hfence⟩ := h.sound.running job hjob hrunning
  obtain rfl := some.inj (h.attempt.symm.trans hattempt)
  rw [recoverJob]
  cases hstate : entry.2.state with
  | prepared =>
    exact ⟨_, updateJob_eq_ok.mpr ⟨job, hjob, by simp [hrunning, hfence],
      (allowed_running entry.1 .outcomeUnknown (h.sound.allowed job hjob) hrunning hclock).1, rfl⟩, rfl, Nat.le_succ _⟩
  | dispatched => exact failJob_total h hroom
  | materializing =>
    dsimp only
    cases hpromoted : promotedOutput services files entry.2.output with
    | none => exact failJob_total h hroom
    | some intent =>
      have hannounced : entry.2.output = some intent :=
        (filter_eq_some_iff.mp hpromoted).1
      have hrecord : recordBlob intent.sha256 intent.byteLength t =
          (.ok ⟨⟩, (recordBlob intent.sha256 intent.byteLength t).2) := rfl
      obtain ⟨-, -, hblob⟩ := recordBlob_eq_ok hrecord
      -- recording the blob leaves what makes the job settleable
      have hsettleable : Settleable nowMs
          (recordBlob intent.sha256 intent.byteLength t).2 entry :=
        ⟨h.sound, h.job, h.attempt, h.clock⟩
      obtain ⟨t', hfinish, happrovals, hrevision⟩ :=
        finalizePromotedOutput_total hsettleable hstate hannounced hblob hroom
      exact ⟨t', bind_eq_ok.mpr ⟨⟨⟩, _, rfl, hfinish⟩, happrovals, hrevision⟩
  | succeeded | failed =>
    rw [hstate] at hopen
    cases hopen

theorem recoverJobs_total (services : TryOnServices) (files : BlobFiles)
    (hnodup : (entries.map Prod.fst).Nodup) (h : ∀ entry ∈ entries, Settleable nowMs t entry)
    (hroom : t.tryOnRevision + entries.length ≤ Outfits.maxStoredRevision) :
    ∃ us t', forEach (recoverJob services files nowMs) entries t = (.ok us, t') := by
  induction entries generalizing t with
  | nil => exact ⟨[], t, rfl⟩
  | cons entry rest ih =>
    obtain ⟨hnew, hnodup⟩ := nodup_cons.mp hnodup
    obtain ⟨hfirst, hrest⟩ := forall_mem_cons.mp h
    rw [length_cons] at hroom
    obtain ⟨t₁, hrun, happrovals, hrevision⟩ :=
      recoverJob_total services files hfirst (by omega)
    obtain ⟨-, -, hothers⟩ := recoverJob_eq_ok hfirst.attempt hrun
    have hkept : ∀ other ∈ rest, Settleable nowMs t₁ other := by
      intro other hother
      have hview : t₁.view other.1 = t.view other.1 := by
        refine hothers other.1 ?_
        rintro heq
        exact hnew (heq ▸ mem_map_of_mem hother)
      obtain ⟨hsound, hjob, hattempt, hclock⟩ := hrest other hother
      rw [← hview] at hsound hjob hattempt
      rw [← happrovals] at hjob
      exact ⟨hsound, hjob, hattempt, hclock⟩
    obtain ⟨us, t', hrun'⟩ := ih hnodup hkept (by omega)
    exact ⟨_, t', forEach_cons_eq_ok.mpr ⟨⟨⟩, t₁, us, hrun, hrun', rfl⟩⟩

/-- **Recovery succeeds** where its clock is not behind the rows of what is running, and the
revision has room. -/
theorem recoverTryOnJobs_total (h : Consistent t)
    (hclock : ∀ jobId job attempt, (t.view jobId).job = some job → job.state = .running →
      (t.view jobId).attempt = some attempt →
      job.createdAtMs ≤ nowMs ∧ attempt.createdAtMs ≤ nowMs)
    (hroom : t.tryOnRevision + (runningJobs t).length ≤ Outfits.maxStoredRevision) :
    ∃ t', recoverTryOnJobs services files nowMs t = (.ok ⟨⟩, t') := by
  have hsettleable : ∀ entry ∈ runningJobs t, Settleable nowMs t entry := by
    intro entry hentry
    obtain ⟨job, hjob, hrunning, hattempt⟩ := mem_runningJobs.mp hentry
    obtain ⟨hjobClock, hattemptClock⟩ := hclock entry.1 job entry.2 hjob hrunning hattempt
    obtain ⟨-, row, hrow, -⟩ := h.spent entry.1 job hjob
    exact ⟨h.sound entry.1, ⟨job, hjob, hrunning, hjobClock, by rw [hrow]; rfl⟩, hattempt,
      hattemptClock⟩
  obtain ⟨us, t', hrun⟩ :=
    recoverJobs_total services files (runningJobs_nodup t) hsettleable hroom
  refine ⟨t', ?_⟩
  rw [recoverTryOnJobs, atomically_eq_ok, state_bind]
  exact bind_eq_ok.mpr ⟨us, t', hrun, rfl⟩

/-! ## Every call -/

/-- **Every call moves jobs**, however it ends. -/
theorem operation_moved {β : Type} {operation : TryOnOperation β}
    {result : Except PlatformError β}
    (h : operation.run services files t = (result, t')) : Moved t t' := by
  -- a transaction that moves jobs where it succeeds
  have hmoved : ∀ {α : Type} {x : TryOnTransaction α} {r : Except PlatformError α},
      Fallible.Steps Moved x → x t = (r, t') → Moved t t' := by
    intro α x r hx hrun
    have hstep := hx t
    rwa [hrun] at hstep
  cases operation with
  | preview request nowMs =>
    refine atomically_keeps h (.refl t) fun response h => ?_
    obtain ⟨preview, hpreview, -⟩ | ⟨stored, -, -, rfl⟩ := previewTryOn_eq_ok h
    · exact hpreview.moved
    · exact .refl _
  | submit request nowMs =>
    refine atomically_keeps h (.refl t) fun response h => ?_
    obtain hsubmit | rfl := submitTryOn_eq_ok h
    · exact hsubmit.moved
    · exact .refl _
  | recover nowMs =>
    exact atomically_keeps h (.refl t) fun u h => (recoverTryOnJobs_eq_ok h).1
  | claimRound owner nowMs leaseMs => exact hmoved (moved_claimRound owner nowMs leaseMs) h
  | authorize claim nowMs =>
    obtain ⟨rfl, -⟩ | ⟨job, attempt, attempt', hview, hjob, hattempt, rfl, hfits, rfl⟩ :=
      authorize_cases h
    · exact .refl _
    · obtain ⟨hafter, hothers⟩ := view_putAttempt t claim.jobId
        { attempt with state := .dispatched, updatedAtMs := nowMs }
      refine .of_moves claim.jobId ?_ (fun h => h) hothers rfl (fun _ h => h)
        fun output houtput => .inl houtput
      rw [hafter, hview]
      exact .single (.authorize hjob.1 (hattempt.2.trans hjob.2.symm) hattempt.1 rfl rfl hfits)
  | markStarted claim nowMs =>
    refine hmoved (moved_atomically fun t t' a h => .of_dispatched h ?_ ?_) h
    · intro attempt hcond
      simp only [Bool.and_eq_true, beq_iff_eq] at hcond
      exact hcond.1.2
    · exact fun attempt hstate => ⟨rfl, .inl hstate⟩
  | clearStarted claim nowMs =>
    refine hmoved (moved_atomically fun t t' a h => .of_dispatched h ?_ ?_) h
    · intro attempt hcond
      simp only [Bool.and_eq_true, beq_iff_eq] at hcond
      exact hcond.1.2
    · exact fun attempt hstate => ⟨rfl, .inl hstate⟩
  | beginOutput claim pngBytes audit nowMs =>
    change beginTryOnOutput services claim pngBytes audit nowMs t = (result, t') at h
    refine hmoved ?_ h
    refine .bind Moved.trans (moved_atomically fun t t' a h => .of_dispatched h ?_ ?_) fun _ =>
      .pure Moved.refl _
    · simp
    · exact fun attempt hstate => ⟨rfl, .inr rfl⟩
  | finalizeOutput claim record nowMs =>
    refine hmoved (moved_atomically fun t t' a h => ?_) h
    obtain ⟨_, t₁, hrecord, h⟩ := bind_eq_ok.mp h
    exact (recordBlob_eq_ok hrecord).1.trans _ _ _ (.finished h)
  | fail claim code nowMs => exact hmoved (moved_atomically fun t t' a h => .failed h) h

def TryOnOperation.claim? {β : Type} : TryOnOperation β → Option ClaimedTryOnJob
  | authorize claim _ | markStarted claim _ | clearStarted claim _ | beginOutput claim _ _ _
  | finalizeOutput claim _ _ | fail claim _ _ => some claim
  | preview _ _ | submit _ _ | recover _ | claimRound _ _ _ => none

/-- **A call under a stale fence** fails, and writes nothing. -/
theorem stale_fence {β : Type} {operation : TryOnOperation β} {claim : ClaimedTryOnJob}
    (hclaim : operation.claim? = some claim)
    (hstale : ∀ attempt, (t.view claim.jobId).attempt = some attempt → attempt.fence ≠ claim.fence)
    {result : Except PlatformError β} (h : operation.run services files t = (result, t')) :
    t' = t ∧ result.isOk = false := by
  have hupdate : ∀ {cond : TryOnAttemptRow → Bool} {f : TryOnAttemptRow → TryOnAttemptRow}
      {u : PUnit}, (∀ attempt, cond attempt → attempt.fence = claim.fence) →
      updateAttempt ⟨claim.jobId⟩ cond f t ≠ (.ok u, t') := by
    intro cond f u hcond hrun
    obtain ⟨attempt, hattempt, hmeets, -⟩ := updateAttempt_eq_ok.mp hrun
    exact hstale attempt hattempt (hcond attempt hmeets)
  -- a transaction that cannot succeed
  have hrefused : ∀ {α : Type} {x : TryOnTransaction α} {r : Except PlatformError α},
      (∀ a, x t ≠ (.ok a, t')) → atomically x t = (r, t') → t' = t ∧ r.isOk = false := by
    intro α x r hx hrun
    cases r with
    | error e => exact ⟨atomically_of_error hrun, rfl⟩
    | ok a => exact absurd (atomically_eq_ok.mp hrun) (hx a)
  cases operation with
  | preview | submit | recover | claimRound => cases hclaim
  | authorize claim' nowMs =>
    obtain rfl := some.inj hclaim
    obtain ⟨rfl, hresult⟩ | ⟨job, attempt, attempt', hview, -, hattempt, -⟩ := authorize_cases h
    · exact ⟨rfl, hresult⟩
    · exact absurd hattempt.2 (hstale attempt (by rw [hview]))
  | markStarted claim' nowMs | clearStarted claim' nowMs =>
    obtain rfl := some.inj hclaim
    refine hrefused (fun u hrun => hupdate (fun attempt hcond => ?_) hrun) h
    simp only [Bool.and_eq_true, beq_iff_eq] at hcond
    exact hcond.1.1
  | beginOutput claim' pngBytes audit nowMs =>
    obtain rfl := some.inj hclaim
    change (atomically (updateAttempt ⟨claim'.jobId⟩ _ _) >>= _) t = (result, t') at h
    rcases hbody : (atomically (updateAttempt ⟨claim'.jobId⟩
      (fun row => row.fence == claim'.fence && row.state == .dispatched)
      fun row => { row with
        state := .materializing, audit := some audit
        output := some (outputIntent services pngBytes)
        updatedAtMs := nowMs }) : TryOnTransaction PUnit) t with ⟨e | u, t₁⟩
    · rw [bind_of_error hbody] at h
      obtain ⟨rfl, rfl⟩ := Prod.mk.inj h
      exact ⟨atomically_of_error hbody, rfl⟩
    · rw [bind_of_ok hbody, pure_run] at h
      obtain ⟨-, rfl⟩ := Prod.mk.inj h
      refine absurd (atomically_eq_ok.mp hbody) (hupdate fun attempt hcond => ?_)
      simp only [Bool.and_eq_true, beq_iff_eq] at hcond
      exact hcond.1
  | finalizeOutput claim' record nowMs =>
    obtain rfl := some.inj hclaim
    refine hrefused (fun u hrun => ?_) h
    obtain ⟨_, t₁, hrecord, hrun⟩ := bind_eq_ok.mp hrun
    obtain ⟨-, hsame, -⟩ := recordBlob_eq_ok hrecord
    obtain ⟨attempt, job, snapshot, hbefore, hattempt, -⟩ := finalizePromotedOutput_eq_ok hrun
    rw [hsame] at hbefore
    exact hstale attempt (by rw [hbefore]) hattempt.2.1
  | fail claim' code nowMs =>
    obtain rfl := some.inj hclaim
    refine hrefused (fun u hrun => ?_) h
    obtain ⟨attempt, job, hattempt, -, hopen, -⟩ := failJob_eq_ok.mp hrun
    exact hstale attempt hattempt hopen.2

end Threadbook.TryOn
