import Threadbook.Attire.TryOnRenderer

/-!
# Runs of the try-on renderer

Any number of previews, submissions, workers and recoveries, interleaved action by action, dropped
or crashed at any point. What the tables say of jobs stays consistent (**`TryOnSteps.consistent`**),
and the provider is called once at most for an approval. A file that is put into the blob store is
on the books as long as it is put for a job that still waits for it, and no recovery gives up a job
whose file is there (**`OrderlySteps.accounted`**); a crash between linking the file and unlinking
what was written breaks that (**`interrupted_output_left_behind`**).
-/

namespace Threadbook.TryOn

open Table Option Fallible

variable {services : TryOnServices} {s s' : TryOnDisk}

/-! ## Actions move jobs -/

variable {β : Type} {nowMs : ℤ}

/-- **Every action moves jobs**, however it ends. -/
theorem perform_moved (action : TryOnAction β) (outside : TryOnOutside) (s : TryOnDisk) :
    Moved s.tables ((tryOnMachine services).perform action outside s).2.tables := by
  cases action with
  | database operation =>
    simp only [tryOnMachine]
    rcases outside.fault with _ | e
    · exact operation_moved rfl
    · exact .refl _
  | secret | generate => exact .refl _
  | link pngBytes =>
    simp only [tryOnMachine, linkOutput]
    rcases outside.fault with _ | e
    · cases s.files (services.digest pngBytes) <;> exact .refl _
    · exact .refl _
  | settle pngBytes reused =>
    simp only [tryOnMachine]
    rcases outside.fault with _ | e
    · exact .refl _
    · cases outside.unlinked <;> exact .refl _

/-- Whatever else happens leaves what the tables say of jobs, and records no blob less; the files
may change in any way. -/
structure TryOnElsewhere (s s' : TryOnDisk) : Prop where
  view : ∀ jobId, s'.tables.view jobId = s.tables.view jobId
  approvals : s'.tables.approvals = s.tables.approvals
  blobs : ∀ sha256, (s.tables.outfits.blobs.find? sha256).isSome →
    (s'.tables.outfits.blobs.find? sha256).isSome
  published : s'.published = s.published

theorem TryOnElsewhere.moved (h : TryOnElsewhere s s') : Moved s.tables s'.tables where
  views jobId := by rw [h.view]
  approvals approvalId row hrow := ⟨row, by rw [h.approvals, hrow], fun _ h => h⟩
  born jobId job hnone hsome := by
    rw [h.view, hnone] at hsome
    cases hsome
  blobs := h.blobs
  recorded jobId output houtput := .inl (by rwa [h.view] at houtput)

/-! ## The licence to send -/

def TryOnOperation.letsOut {β : Type} : TryOnOperation β → Option TryOnJobId
  | .authorize claim _ => some claim.jobId
  | _ => none

def TryOnAction.letsOut {β : Type} : TryOnAction β → β → Option TryOnJobId
  | .database operation, answer => if answer.isOk then operation.letsOut else none
  | _, _ => none

def TryOnAction.sends {β : Type} : TryOnAction β → Option TryOnJobId
  | .generate jobId _ _ _ => some jobId
  | _ => none

/-- Letting an attempt out is the licence to hand its images to the provider. -/
def tryOnLicence : Licence TryOnAction TryOnJobId where
  spends := TryOnAction.sends
  grants := TryOnAction.letsOut

def LetOut (s : TryOnDisk) (jobId : TryOnJobId) : Prop := (s.tables.view jobId).Past

/-- **The licence is granted once**: to an attempt that was not let out, and now is. -/
theorem letOut_of_grants {action : TryOnAction β} {outside : TryOnOutside} {jobId : TryOnJobId}
    (h : tryOnLicence.grants action ((tryOnMachine services).perform action outside s).1 =
      some jobId) :
    ¬ LetOut s jobId ∧ LetOut ((tryOnMachine services).perform action outside s).2 jobId := by
  obtain ⟨fault, unlinked, secret, answer⟩ := outside
  cases action with
  | secret | generate | link | settle => exact nomatch h
  | database operation =>
    rcases fault with _ | e
    · change (if (operation.run services s.files s.tables).1.isOk then operation.letsOut
        else none) = _ at h
      change _ ∧ ((operation.run services s.files s.tables).2.view jobId).Past
      split at h
      · rename_i hok
        cases operation with
        | authorize claim nowMs =>
          cases h
          rcases hrun : authorizeTryOnTransport services claim nowMs s.tables with ⟨result, t'⟩
          rw [TryOnOperation.run, hrun] at hok ⊢
          obtain ⟨-, herror⟩ | ⟨job, attempt, attempt', hview, hjob, hattempt, rfl, -, rfl⟩ :=
            authorize_cases hrun
          · rw [herror] at hok
            cases hok
          · refine ⟨?_, ?_⟩
            · rintro ⟨-, found, -, -, hfound, hprepared⟩
              rw [hview] at hfound
              cases hfound
              exact hprepared hattempt.1
            · rw [(view_putAttempt _ _ _).1]
              exact ⟨job, _, by rw [hview], by simp [hjob.1], rfl, by simp⟩
        | _ => simp [TryOnOperation.letsOut] at h
      · cases h
    · cases h

/-! ## Workers are disciplined -/

section Discipline

variable {α : Type} {claim : ClaimedTryOnJob}

theorem plain_database {operation : TryOnOperation α} (h : operation.letsOut = none) :
    Plain tryOnLicence (Program.call (.database operation) : Renderer α) := by
  refine Plain.call rfl fun answer => ?_
  change (if answer.isOk then operation.letsOut else none) = none
  rw [h, ite_self]

theorem plain_claimRounds (owner : String) (nowMs leaseMs : ℤ) (rounds : ℕ) :
    Plain tryOnLicence (claimRounds owner nowMs leaseMs rounds) := by
  induction rounds with
  | zero => exact .pure none
  | succ rounds ih =>
    refine (plain_database rfl).bind fun round => ?_
    cases round with
    | idle => exact .pure none
    | claimed claim => exact .pure (some claim)
    | again => exact ih

theorem plain_finalizeOutput (pngBytes : List UInt8) (expectedSha256 : String) (nowMs : ℤ) :
    Plain tryOnLicence (finalizeOutput services claim pngBytes expectedSha256 nowMs) := by
  refine Plain.bind ?_ fun record => ?_
  · exact (Plain.check _).bind fun _ => (Plain.check _).bind fun _ =>
      (Plain.call rfl fun _ => rfl).bind fun _ => .call rfl fun _ => rfl
  · exact plain_database rfl

theorem plain_deliver (nowMs : ℤ)
    (answer : Except OpenAiImageEditsError OpenAiImageEditsOutput) :
    Plain tryOnLicence (deliver services claim nowMs answer) := by
  cases answer with
  | ok output => exact (plain_database rfl).bind fun _ => plain_finalizeOutput _ _ _
  | error e =>
    rw [deliver]
    split
    · refine (plain_database rfl).bind fun _ => ?_
      exact plain_database rfl
    · exact plain_database rfl

/-- **A claim that was let out** is handed to the provider once at most. -/
theorem disciplined_renderClaim (locator : String) (nowMs : ℤ) :
    Disciplined tryOnLicence (some claim.jobId) (renderClaim services claim locator nowMs) := by
  refine Plain.disciplined_bind (Plain.perform rfl fun _ => rfl) fun secret => ?_
  split
  · exact (plain_database rfl).disciplined
  · refine (Plain.check _).disciplined_bind fun images => ?_
    refine (plain_database rfl).disciplined_bind fun _ => ?_
    exact ⟨rfl, fun answer => (plain_deliver nowMs answer).disciplined⟩

/-- **A worker** hands images to the provider only after it let their attempt out. -/
theorem disciplined_runOnce (rounds : ℕ) (owner : String) (nowMs : ℤ) :
    Disciplined tryOnLicence none (runOnce services rounds owner nowMs) := by
  refine Plain.disciplined_bind ((Plain.check _).bind fun _ => plain_claimRounds _ _ _ _)
    fun claimed => ?_
  split
  · exact trivial
  · rename_i claim
    intro authorized
    rcases authorized with e | locator
    · exact ((plain_database rfl).bind fun _ => .pure true).disciplined
    · have hrender : Disciplined tryOnLicence (some claim.jobId)
          (renderClaim services claim locator nowMs) := disciplined_renderClaim locator nowMs
      exact hrender.bind fun _ _ => trivial

theorem disciplined_call {p : Renderer PUnit} (h : TryOnCall services p) :
    Disciplined tryOnLicence none p := by
  cases h with
  | runOnce rounds owner nowMs => exact (disciplined_runOnce rounds owner nowMs).map
  | operation operation =>
    refine Disciplined.map fun answer => ?_
    trivial
  | finalize claim pngBytes expectedSha256 nowMs => exact (plain_finalizeOutput _ _ _).disciplined

end Discipline

/-! ## All interleavings -/

/-- The tables and files, and whatever calls are on their way. -/
abbrev TryOnWorld : Type 1 := World TryOnDisk TryOnAction TryOnJobId PlatformError PUnit

/-- Any number of calls in any interleaving, dropped and crashed at any point. -/
abbrev TryOnSteps (services : TryOnServices) : TryOnWorld → TryOnWorld → Prop :=
  Steps (tryOnMachine services) tryOnLicence (TryOnCall services) TryOnElsewhere

/-- No job was submitted, and no call is on its way. -/
structure TryOnWorld.Fresh (w : TryOnWorld) : Prop where
  view : ∀ jobId, w.state.tables.view jobId = ⟨none, none, none⟩
  published : w.state.published = []
  threads : w.threads = []
  spent : w.spent = []

theorem TryOnWorld.Fresh.consistent {w : TryOnWorld} (h : w.Fresh) :
    Consistent w.state.tables where
  sound jobId := h.view jobId ▸ TryOnView.sound_none
  spent jobId job hjob := by
    rw [h.view] at hjob
    cases hjob
  recorded jobId output houtput := by
    rw [h.view] at houtput
    cases houtput

section Runs

variable {w w' : TryOnWorld}

/-- **What the tables say of jobs** stays consistent. -/
theorem TryOnSteps.consistent (h : TryOnSteps services w w') (hw : Consistent w.state.tables) :
    Consistent w'.state.tables := by
  refine Steps.state (I := fun s => Consistent s.tables) ?_ ?_ h hw
  · exact fun action outside s hs => (perform_moved action outside s).consistent hs
  · exact fun s s' helse hs => helse.moved.consistent hs

/-- **A job that ended** stays as it is. -/
theorem TryOnSteps.ended (h : TryOnSteps services w w') (hw : Consistent w.state.tables)
    {jobId : TryOnJobId} {job : TryOnJobRow} (hjob : (w.state.tables.view jobId).job = some job)
    (hended : job.state.hasEnded) :
    w'.state.tables.view jobId = w.state.tables.view jobId := by
  have hboth : Consistent w'.state.tables ∧
      w'.state.tables.view jobId = w.state.tables.view jobId := by
    refine Steps.state (I := fun s => Consistent s.tables ∧
      s.tables.view jobId = w.state.tables.view jobId) ?_ ?_ h ⟨hw, rfl⟩
    · intro β action outside s ⟨hs, hview⟩
      have hmoved : Moved s.tables ((tryOnMachine services).perform action outside s).2.tables :=
        perform_moved action outside s
      refine ⟨hmoved.consistent hs, ?_⟩
      rw [(hmoved.views jobId).ended (hs.sound jobId) (hview ▸ hjob) hended, hview]
    · intro s s' helse ⟨hs, hview⟩
      exact ⟨helse.moved.consistent hs, (helse.view jobId).trans hview⟩
  exact hboth.2

/-- **The provider is called once at most** for a job, and only for one that was let out. -/
theorem TryOnSteps.sent (h : TryOnSteps services w w') (hw : w.Fresh) (jobId : TryOnJobId) :
    w'.spent.count jobId ≤ 1 ∧ (0 < w'.spent.count jobId → LetOut w'.state jobId) :=
  Steps.spent (fun _ _ _ _ => letOut_of_grants)
    (fun action outside s jobId => ((perform_moved action outside s).views jobId).past)
    (fun _ _ helse jobId => (helse.moved.views jobId).past) (fun _ => disciplined_call) h
    hw.threads hw.spent jobId

def TryOnTables.approves (t : TryOnTables) (approvalId : TryOnApprovalId) (jobId : TryOnJobId) :
    Bool :=
  (t.jobs.find? jobId).any fun job => job.approvalId = approvalId

/-- **The provider is called once at most** for an approval. -/
theorem TryOnSteps.sent_approval (h : TryOnSteps services w w') (hw : w.Fresh)
    (approvalId : TryOnApprovalId) :
    (w'.spent.filter (w'.state.tables.approves approvalId)).length ≤ 1 := by
  have hconsistent : Consistent w'.state.tables := h.consistent hw.consistent
  cases hsent : w'.spent.filter (w'.state.tables.approves approvalId) with
  | nil => exact Nat.zero_le 1
  | cons first rest =>
    have happroved : ∀ jobId ∈ first :: rest, ∃ job,
        (w'.state.tables.view jobId).job = some job ∧ job.approvalId = approvalId := by
      intro jobId hmem
      rw [← hsent, List.mem_filter] at hmem
      obtain ⟨job, hjob, hsame⟩ := (any_eq_true ..).mp hmem.2
      exact ⟨job, hjob, by simpa using hsame⟩
    obtain ⟨job, hjob, hfirst⟩ := happroved first (.head _)
    -- all calls for the approval are for the same job
    have hsame : ∀ jobId ∈ first :: rest, jobId = first := by
      intro jobId hmem
      obtain ⟨other, hother, hid⟩ := happroved jobId hmem
      exact hconsistent.one_job hjob hother (hid.trans hfirst.symm)
    have hcount : (first :: rest).count first = (first :: rest).length :=
      List.count_eq_length.mpr fun jobId hmem => (hsame jobId hmem).symm
    rw [← hcount, ← hsent]
    refine le_trans ?_ (h.sent hw first).1
    exact List.Sublist.count_le first List.filter_sublist

end Runs

/-! ## Files on the books -/

def Announces (t : TryOnTables) (sha256 : String) (jobId : TryOnJobId) : Prop :=
  ∃ job attempt intent, (t.view jobId).job = some job ∧ job.state = .running ∧
    (t.view jobId).attempt = some attempt ∧ attempt.state = .materializing ∧
    attempt.output = some intent ∧ intent.sha256 = sha256

def Referenced (t : TryOnTables) (sha256 : String) : Prop :=
  ∃ jobId output, (t.view jobId).output = some output ∧ output.blobSha256 = sha256 ∧
    (t.outfits.blobs.find? sha256).isSome

/-- The output is recorded, or a running job will record it. -/
def OnTheBooks (t : TryOnTables) (sha256 : String) : Prop :=
  Referenced t sha256 ∨ ∃ jobId, Announces t sha256 jobId

section Books

variable {t t' : TryOnTables} {files : BlobFiles} {sha256 : String} {jobId : TryOnJobId}

theorem Moved.referenced (h : Moved t t') (href : Referenced t sha256) : Referenced t' sha256 := by
  obtain ⟨jobId, output, houtput, hsha, hblob⟩ := href
  exact ⟨jobId, output, (h.views jobId).output houtput, hsha, h.blobs _ hblob⟩

theorem Announces.of_view (h : Announces t sha256 jobId) (hview : t'.view jobId = t.view jobId) :
    Announces t' sha256 jobId := by
  rw [Announces, hview]
  exact h

theorem Announces.reported (h : Announces t sha256 jobId) {other : TryOnJobId}
    {cond : TryOnAttemptRow → Bool} {f : TryOnAttemptRow → TryOnAttemptRow}
    {result : Except PlatformError PUnit}
    (hcond : ∀ attempt, cond attempt → attempt.state = .dispatched)
    (hrun : atomically (updateAttempt ⟨other⟩ cond f) t = (result, t')) :
    Announces t' sha256 jobId := by
  refine atomically_keeps hrun h fun u hrun => ?_
  obtain ⟨attempt, hattempt, hmeets, -, rfl⟩ :=
    updateAttempt_eq_ok.mp (atomically_eq_ok.mp hrun)
  have hother : jobId ≠ other := by
    rintro rfl
    obtain ⟨-, found, -, -, -, hfound, hmaterializing, -⟩ := h
    obtain rfl := mem_unique hattempt hfound
    rw [hcond attempt hmeets] at hmaterializing
    cases hmaterializing
  exact h.of_view ((view_putAttempt _ _ _).2 jobId hother)

theorem finalize_referenced {fence : ℕ} {intent : TryOnOutputIntent} {u : PUnit}
    (hsound : (t.view jobId).Sound) (hblob : (t.outfits.blobs.find? intent.sha256).isSome)
    (h : finalizePromotedOutput jobId fence intent nowMs t = (.ok u, t')) :
    Referenced t' intent.sha256 := by
  obtain ⟨attempt, job, snapshot, hbefore, ⟨-, -, hannounced⟩, ⟨hrunning, -⟩, hfits, -, hview, -, -,
    houtfits, -⟩ := finalizePromotedOutput_eq_ok h
  obtain ⟨hnone, -⟩ := hsound.running job (by rw [hbefore]) hrunning
  rw [hnone, finishedOutput_none hannounced hfits] at hview
  exact ⟨jobId, _, by rw [hview], rfl, by rw [houtfits]; exact hblob⟩

def TryOnOperation.givesUp {β : Type} : TryOnOperation β → Option ClaimedTryOnJob
  | .fail claim _ _ => some claim
  | _ => none

def TryOnOperation.recovers {β : Type} : TryOnOperation β → Bool
  | .recover _ => true
  | _ => false

section

variable (h : Announces t sha256 jobId)

include h

theorem Announces.submits {request : SubmitTryOnV1Request}
    (hsubmit : Submits services request nowMs t t') : Announces t' sha256 jobId := by
  have hother : jobId ≠ ⟨request.requestId⟩ := by
    rintro rfl
    obtain ⟨job, -, -, hjob, -⟩ := h
    rw [show (t.view ⟨request.requestId⟩).job = none from hsubmit.new] at hjob
    cases hjob
  obtain ⟨hattempts, houtputs, -⟩ := hsubmit.work
  refine h.of_view ?_
  rw [TryOnTables.view, hsubmit.jobs, hattempts, houtputs, find?_put, if_neg hother]
  rfl

theorem Announces.claimRound {owner : String} {leaseMs : ℤ} {round : ClaimRound}
    (hrun : TryOn.claimRound services files owner nowMs leaseMs t = (.ok round, t')) :
    Announces t' sha256 jobId := by
  obtain ⟨-, -, rfl⟩ | ⟨entry, fence, t₁, hnext, htake, hend⟩ := claimRound_eq_ok hrun
  · exact h
  have hother : jobId ≠ entry.1 := by
    rintro rfl
    obtain ⟨job, -, -, hjob, hrunning, -⟩ := h
    have hmem := List.mem_of_head? hnext
    rw [List.mem_mergeSort, List.mem_filter, decide_eq_true_eq] at hmem
    obtain rfl := some.inj (hjob.symm.trans (mem_rows.mp hmem.1))
    rw [hrunning] at hmem
    cases hmem.2.1
  have htaken : t₁.view jobId = t.view jobId := takeJob_others htake hother
  obtain ⟨assets, -, -, rfl⟩ | ⟨e, -, -, u, hfail⟩ := hend
  · exact h.of_view htaken
  · exact h.of_view ((failJob_others hfail hother).trans htaken)

theorem Announces.beginOutput {claim : ClaimedTryOnJob} {pngBytes : List UInt8} {audit : TryOnAudit}
    {result : Except PlatformError String}
    (hrun : beginTryOnOutput services claim pngBytes audit nowMs t = (result, t')) :
    Announces t' sha256 jobId := by
  rcases hbody : (atomically (updateAttempt ⟨claim.jobId⟩
    (fun row => row.fence == claim.fence && row.state == .dispatched)
    fun row => { row with
      state := .materializing, audit := some audit
      output := some (outputIntent services pngBytes)
      updatedAtMs := nowMs }) : TryOnTransaction PUnit) t with ⟨e | u, t₁⟩
  all_goals
    have hkept : Announces t₁ sha256 jobId := by
      refine h.reported (fun attempt hcond => ?_) hbody
      simp only [Bool.and_eq_true, beq_iff_eq] at hcond
      exact hcond.2
    change (atomically (updateAttempt ⟨claim.jobId⟩ _ _) >>= _) t = (result, t') at hrun
  · rw [bind_of_error hbody] at hrun
    cases hrun
    exact hkept
  · rw [bind_of_ok hbody] at hrun
    cases hrun
    exact hkept

theorem Announces.finalizeOutput {claim : ClaimedTryOnJob} {record : TryOnOutputIntent} {u : PUnit}
    (ht : Consistent t) (hrun : finalizeTryOnOutput claim record nowMs t = (.ok u, t')) :
    Referenced t' sha256 ∨ Announces t' sha256 jobId := by
  obtain ⟨_, t₁, hrecord, hfinalize⟩ := bind_eq_ok.mp (atomically_eq_ok.mp hrun)
  obtain ⟨hmoved, hsame, hblob⟩ := recordBlob_eq_ok hrecord
  obtain ⟨found, job', snapshot, hbefore, ⟨-, -, hfound⟩, -, -, -, -, hothers, -⟩ :=
    finalizePromotedOutput_eq_ok hfinalize
  by_cases hother : jobId = claim.jobId
  · subst hother
    obtain ⟨-, attempt, intent, -, -, hattempt, -, hintent, hsha⟩ := h
    rw [hsame] at hbefore
    rw [hbefore] at hattempt
    cases hattempt
    obtain rfl := mem_unique hintent hfound
    rw [← hsha]
    exact .inl (finalize_referenced (hsame ▸ ht.sound claim.jobId) hblob hfinalize)
  · exact .inr (h.of_view ((hothers jobId hother).trans (by rw [hsame])))

/-- **An announced output** stays on the books of its job in every call but a recovery, and one
that fails the job. -/
theorem Announces.operation {operation : TryOnOperation β} {result : Except PlatformError β}
    (ht : Consistent t) (hrecovers : operation.recovers = false)
    (hgivesUp : ∀ claim, operation.givesUp = some claim → claim.jobId ≠ jobId ∨
      ∀ attempt, (t.view jobId).attempt = some attempt → attempt.fence ≠ claim.fence)
    (hrun : operation.run services files t = (result, t')) :
    Referenced t' sha256 ∨ Announces t' sha256 jobId := by
  cases operation with
  | recover => cases hrecovers
  | preview request nowMs =>
    refine .inr (atomically_keeps hrun h fun response hrun => ?_)
    obtain ⟨preview, hpreview, -⟩ | ⟨stored, -, -, rfl⟩ := previewTryOn_eq_ok hrun
    · obtain ⟨hjobs, hattempts, houtputs, -⟩ := hpreview.work
      refine h.of_view ?_
      rw [TryOnTables.view, hjobs, hattempts, houtputs]
      rfl
    · exact h
  | submit request nowMs =>
    refine .inr (atomically_keeps hrun h fun response hrun => ?_)
    obtain hsubmit | rfl := submitTryOn_eq_ok hrun
    · exact h.submits hsubmit
    · exact h
  | claimRound owner nowMs leaseMs =>
    exact .inr (atomically_keeps hrun h fun round hrun => h.claimRound hrun)
  | authorize claim nowMs =>
    refine .inr ?_
    obtain ⟨rfl, -⟩ | ⟨job, prepared, attempt, hview, -, hprepared, -, -, rfl⟩ :=
      authorize_cases hrun
    · exact h
    · refine h.of_view ((view_putAttempt _ _ _).2 jobId ?_)
      rintro rfl
      obtain ⟨-, attempt, -, -, -, hattempt, hmaterializing, -⟩ := h
      rw [hview] at hattempt
      cases hattempt
      rw [hmaterializing] at hprepared
      cases hprepared.1
  | markStarted claim nowMs | clearStarted claim nowMs =>
    refine .inr (h.reported (fun attempt hcond => ?_) hrun)
    simp only [Bool.and_eq_true, beq_iff_eq] at hcond
    exact hcond.1.2
  | beginOutput claim pngBytes audit nowMs => exact .inr (h.beginOutput hrun)
  | finalizeOutput claim record nowMs =>
    exact atomically_keeps hrun (.inr h) fun u hrun => h.finalizeOutput ht hrun
  | fail claim code nowMs =>
    refine .inr (atomically_keeps hrun h fun u hrun => ?_)
    have hfail := atomically_eq_ok.mp hrun
    refine h.of_view (failJob_others hfail ?_)
    rintro rfl
    obtain ⟨failing, job, hfailing, -, hopen, -⟩ := failJob_eq_ok.mp hfail
    obtain hother | hfence := hgivesUp claim rfl
    · exact hother rfl
    · exact hfence failing hfailing hopen.2

end

def Abandons {β : Type} (services : TryOnServices) (files : BlobFiles) (t : TryOnTables)
    (operation : TryOnOperation β) (jobId : TryOnJobId) : Prop :=
  ∃ attempt, (t.view jobId).attempt = some attempt ∧
    ((operation.recovers = true ∧ promotedOutput services files attempt.output = none) ∨
      ∃ claim, operation.givesUp = some claim ∧ claim.jobId = jobId ∧ attempt.fence = claim.fence)

theorem recover_referenced {u : PUnit} (ht : Consistent t) (hannounced : Announces t sha256 jobId)
    (hwhole : ∀ attempt, (t.view jobId).attempt = some attempt →
      promotedOutput services files attempt.output ≠ none)
    (h : recoverTryOnJobs services files nowMs t = (.ok u, t')) : Referenced t' sha256 := by
  obtain ⟨job, attempt, intent, hjob, hrunning, hattempt, hmaterializing, hintent, hsha⟩ :=
    hannounced
  obtain ⟨hmoved, hrecovered, -⟩ := recoverTryOnJobs_eq_ok h
  obtain ⟨job', -, hend⟩ := hrecovered jobId job attempt hjob hrunning hattempt
  have ht' := hmoved.consistent ht
  obtain ⟨hnone, -⟩ := (ht.sound jobId).running job hjob hrunning
  rw [hmaterializing] at hend
  dsimp only at hend
  cases hpromoted : promotedOutput services files attempt.output with
  | none => exact absurd hpromoted (hwhole attempt hattempt)
  | some found =>
    rw [hpromoted] at hend
    obtain ⟨snapshot, hview⟩ := hend
    have hannounced : attempt.output = some found := (filter_eq_some_iff.mp hpromoted).1
    obtain rfl := mem_unique hintent hannounced
    have hfits := (ht'.sound jobId).fits (attempt.finished nowMs) (by rw [hview])
    rw [hnone, finishedOutput_none hannounced hfits] at hview
    rw [← hsha]
    exact ⟨jobId, _, by rw [hview], rfl, ht'.recorded jobId _ (by rw [hview])⟩

/-- **A call that abandons no job** leaves the files of announced outputs on the books. -/
theorem OnTheBooks.operation {operation : TryOnOperation β} {result : Except PlatformError β}
    (h : OnTheBooks t sha256) (ht : Consistent t)
    (horderly : (∃ jobId, Announces t sha256 jobId) → Referenced t sha256 ∨
      ∃ jobId, Announces t sha256 jobId ∧ ¬ Abandons services files t operation jobId)
    (hrun : operation.run services files t = (result, t')) : OnTheBooks t' sha256 := by
  have hkept : Referenced t sha256 ∨ ∃ jobId, Announces t sha256 jobId ∧
      ¬ Abandons services files t operation jobId := h.elim .inl horderly
  obtain href | ⟨jobId, hannounced, hkeeps⟩ := hkept
  · exact .inl ((operation_moved hrun).referenced href)
  cases hrecovers : operation.recovers with
  | true =>
    cases operation with
    | recover nowMs =>
      refine atomically_keeps hrun (.inr ⟨jobId, hannounced⟩) fun u hrun => ?_
      refine .inl (recover_referenced ht hannounced (fun attempt hattempt hlost => ?_) hrun)
      exact hkeeps ⟨attempt, hattempt, .inl ⟨rfl, hlost⟩⟩
    | _ => cases hrecovers
  | false =>
    have hsame := hannounced.operation ht hrecovers (fun claim hclaim => ?_) hrun
    · exact hsame.imp_right fun hannounced => ⟨jobId, hannounced⟩
    by_cases hother : claim.jobId = jobId
    · refine .inr fun attempt hattempt hfence => hkeeps ⟨attempt, hattempt, .inr ?_⟩
      exact ⟨claim, hclaim, hother, hfence⟩
    · exact .inl hother

end Books

/-! ## Orderly runs -/

def Orderly (services : TryOnServices) {β : Type} (action : TryOnAction β)
    (outside : TryOnOutside) (s : TryOnDisk) : Prop :=
  outside.fault = none →
    match action with
    | .link pngBytes => s.files (services.digest pngBytes) = none →
        OnTheBooks s.tables (services.digest pngBytes)
    | .database operation => ∀ sha256 ∈ s.published, (∃ jobId, Announces s.tables sha256 jobId) →
        Referenced s.tables sha256 ∨ ∃ jobId, Announces s.tables sha256 jobId ∧
          ¬ Abandons services s.files s.tables operation jobId
    | .secret _ | .generate _ _ _ _ | .settle _ _ => True

abbrev OrderlySteps (services : TryOnServices) : TryOnWorld → TryOnWorld → Prop :=
  Relation.ReflTransGen (GuardedStep (tryOnMachine services) tryOnLicence (TryOnCall services)
    TryOnElsewhere (Orderly services))

/-- A file the finalizer put into the blob store is gone, or recorded, or a running job will record
it. -/
def Accounted (s : TryOnDisk) (sha256 : String) : Prop :=
  s.files sha256 = none ∨ OnTheBooks s.tables sha256

theorem TryOnElsewhere.onTheBooks (h : TryOnElsewhere s s') {sha256 : String}
    (hbooks : OnTheBooks s.tables sha256) : OnTheBooks s'.tables sha256 := by
  obtain href | ⟨jobId, hannounced⟩ := hbooks
  · exact .inl (h.moved.referenced href)
  · exact .inr ⟨jobId, hannounced.of_view (h.view jobId)⟩

/-- **An orderly action** keeps every file it put on the books. -/
theorem onTheBooks_perform {action : TryOnAction β} {outside : TryOnOutside}
    (horderly : Orderly services action outside s) (ht : Consistent s.tables)
    (hbooks : ∀ sha256 ∈ s.published, OnTheBooks s.tables sha256) :
    ∀ sha256 ∈ ((tryOnMachine services).perform action outside s).2.published,
      OnTheBooks ((tryOnMachine services).perform action outside s).2.tables sha256 := by
  obtain ⟨fault, unlinked, secret, answer⟩ := outside
  cases action with
  | secret | generate => exact hbooks
  | database operation =>
    rcases fault with _ | e
    · intro sha256 hmem
      exact (hbooks sha256 hmem).operation ht (horderly rfl sha256 hmem) rfl
    · exact hbooks
  | link pngBytes =>
    rcases fault with _ | e
    · simp only [tryOnMachine, linkOutput]
      cases hfile : s.files (services.digest pngBytes) with
      | some file => exact hbooks
      | none => exact List.forall_mem_cons.mpr ⟨horderly rfl hfile, hbooks⟩
    · exact hbooks
  | settle pngBytes reused =>
    rcases fault with _ | e
    · exact hbooks
    · cases unlinked <;> exact hbooks

/-- **In an orderly run** every file that was put into the blob store is accounted for. -/
theorem OrderlySteps.accounted {w w' : TryOnWorld} (h : OrderlySteps services w w')
    (hw : w.Fresh) : ∀ sha256 ∈ w'.state.published, Accounted w'.state sha256 := by
  have hboth : Consistent w'.state.tables ∧
      ∀ sha256 ∈ w'.state.published, OnTheBooks w'.state.tables sha256 := by
    refine GuardedSteps.state (I := fun s => Consistent s.tables ∧
      ∀ sha256 ∈ s.published, OnTheBooks s.tables sha256) ?_ ?_ h ⟨hw.consistent, ?_⟩
    · intro β action outside s horderly ⟨ht, hbooks⟩
      exact ⟨(perform_moved action outside s).consistent ht,
        onTheBooks_perform horderly ht hbooks⟩
    · intro s s' helse ⟨ht, hbooks⟩
      refine ⟨helse.moved.consistent ht, fun sha256 hmem => ?_⟩
      rw [helse.published] at hmem
      exact helse.onTheBooks (hbooks sha256 hmem)
    · simp [hw.published]
  exact fun sha256 hmem => .inr (hboth.2 sha256 hmem)

/-! ## Jobs in all runs -/

section Jobs

variable {t t' : TryOnTables} {files : BlobFiles} {jobId : TryOnJobId} {job : TryOnJobRow}

theorem Consistent.succeeded_iff (h : Consistent t) (hjob : t.jobs.find? jobId = some job) :
    job.state = .succeeded ↔ ∃ output, t.outputs.find? ⟨jobId⟩ = some output ∧
      (t.outfits.blobs.find? output.blobSha256).isSome := by
  constructor
  · intro hsucceeded
    obtain ⟨-, output, -, -, houtput, -⟩ := (h.sound jobId).succeeded job hjob hsucceeded
    exact ⟨output, houtput, h.recorded jobId output houtput⟩
  · rintro ⟨output, houtput, -⟩
    have hnot : (t.view jobId).output ≠ none := by
      rw [TryOnTables.view, houtput]
      simp
    cases hstate : job.state with
    | succeeded => rfl
    | queued => exact absurd ((h.sound jobId).queued job hjob hstate).1 hnot
    | running => exact absurd ((h.sound jobId).running job hjob hstate).1 hnot
    | failed => exact absurd ((h.sound jobId).failed job hjob hstate).1 hnot

theorem Consistent.failed_iff (h : Consistent t) (hjob : t.jobs.find? jobId = some job) :
    job.state = .failed ↔ job.failure.isSome := by
  have hfits := (h.sound jobId).allowed job hjob
  simp only [TryOnJobRow.allowed, TryOnJobRow.fitsState] at hfits
  cases hstate : job.state <;> simp [hstate] at hfits ⊢ <;> simp [hfits]

structure SettledAs (services : TryOnServices) (files : BlobFiles) (nowMs : ℤ)
    (jobId : TryOnJobId) (job : TryOnJobRow) (attempt : TryOnAttemptRow) (job' : TryOnJobRow) :
    Prop where
  prepared : attempt.state = .prepared → job' = job.requeued nowMs
  dispatched : attempt.state = .dispatched → job' = job.failedWith jobId .outcomeUnknown nowMs
  stored : attempt.state = .materializing → (job'.state = .succeeded ↔
    (promotedOutput services files attempt.output).isSome)
  lost : attempt.state = .materializing → job'.state ≠ .succeeded →
    job' = job.failedWith jobId .outputMaterializationInterrupted nowMs

theorem recover_settles {u : PUnit} {attempt : TryOnAttemptRow}
    (hjob : t.jobs.find? jobId = some job) (hrunning : job.state = .running)
    (hattempt : t.attempts.find? ⟨jobId⟩ = some attempt)
    (h : recoverTryOnJobs services files nowMs t = (.ok u, t')) :
    ∃ job', t'.jobs.find? jobId = some job' ∧
      SettledAs services files nowMs jobId job attempt job' := by
  obtain ⟨-, hrecovered, -⟩ := recoverTryOnJobs_eq_ok h
  obtain ⟨found, hfound, hend⟩ := hrecovered jobId job attempt hjob hrunning hattempt
  obtain rfl := mem_unique hjob hfound
  have hafter : ∀ {v : TryOnView}, t'.view jobId = v → t'.jobs.find? jobId = v.job := by
    rintro v rfl
    rfl
  cases hstate : attempt.state with
  | prepared =>
    rw [hstate] at hend
    exact ⟨_, hafter hend, fun _ => rfl, by simp [hstate], by simp [hstate], by simp [hstate]⟩
  | dispatched =>
    rw [hstate] at hend
    exact ⟨_, hafter hend, by simp [hstate], fun _ => rfl, by simp [hstate], by simp [hstate]⟩
  | materializing =>
    rw [hstate] at hend
    dsimp only at hend
    cases hpromoted : promotedOutput services files attempt.output with
    | none =>
      rw [hpromoted] at hend
      exact ⟨_, hafter hend, by simp [hstate], by simp [hstate],
        fun _ => by simp [TryOnJobRow.failedWith, hpromoted], fun _ _ => rfl⟩
    | some intent =>
      rw [hpromoted] at hend
      obtain ⟨snapshot, hend⟩ := hend
      exact ⟨_, hafter hend, by simp [hstate], by simp [hstate],
        fun _ => by simp [TryOnJobRow.finished, hpromoted],
        fun _ hlost => absurd rfl hlost⟩
  | succeeded | failed =>
    rw [hstate] at hend
    exact hend.elim

end Jobs

/-- **Try-on jobs**, over all interleavings of previews, submissions, workers with any claims,
recoveries and crashes: an approval is spent on one job; the provider is called once at most for an
approval, and for none without a job; a job that ended stays as it is; it succeeded exactly if its
output and the blob of it are recorded, and failed exactly if it has a failure; a recovery settles
each running job by its attempt, and succeeds if its clock is not behind the rows; a call under a
stale fence fails and writes nothing. And in an orderly run every file that was put into the blob
store is accounted for. -/
theorem try_on_jobs {w₀ w : TryOnWorld} (hfresh : w₀.Fresh) (h : TryOnSteps services w₀ w) :
    (∀ jobId job, w.state.tables.jobs.find? jobId = some job →
      (∃ row, w.state.tables.approvals.find? job.approvalId = some row ∧
        row.consumedRequestId = some job.requestId) ∧
      (∀ other otherJob, w.state.tables.jobs.find? other = some otherJob →
        otherJob.approvalId = job.approvalId → other = jobId) ∧
      (job.state = .succeeded ↔ ∃ output, w.state.tables.outputs.find? ⟨jobId⟩ = some output ∧
        (w.state.tables.outfits.blobs.find? output.blobSha256).isSome) ∧
      (job.state = .failed ↔ job.failure.isSome) ∧
      (job.state.hasEnded → ∀ w', TryOnSteps services w w' →
        w'.state.tables.jobs.find? jobId = some job)) ∧
    (∀ approvalId, (w.spent.filter (w.state.tables.approves approvalId)).length ≤ 1) ∧
    (∀ jobId ∈ w.spent, (w.state.tables.jobs.find? jobId).isSome) ∧
    (∀ nowMs t', recoverTryOnJobs services w.state.files nowMs w.state.tables = (.ok ⟨⟩, t') →
      ∀ jobId job attempt, w.state.tables.jobs.find? jobId = some job → job.state = .running →
        w.state.tables.attempts.find? ⟨jobId⟩ = some attempt →
        ∃ job', t'.jobs.find? jobId = some job' ∧
          SettledAs services w.state.files nowMs jobId job attempt job') ∧
    (∀ nowMs, (∀ jobId job attempt, w.state.tables.jobs.find? jobId = some job →
        job.state = .running → w.state.tables.attempts.find? ⟨jobId⟩ = some attempt →
          job.createdAtMs ≤ nowMs ∧ attempt.createdAtMs ≤ nowMs) →
      w.state.tables.tryOnRevision + (runningJobs w.state.tables).length ≤
        Outfits.maxStoredRevision →
      ∃ t', recoverTryOnJobs services w.state.files nowMs w.state.tables = (.ok ⟨⟩, t')) ∧
    (∀ {β : Type} (operation : TryOnOperation β) claim, operation.claim? = some claim →
      (∀ attempt, w.state.tables.attempts.find? ⟨claim.jobId⟩ = some attempt →
        attempt.fence ≠ claim.fence) →
      (operation.run services w.state.files w.state.tables).2 = w.state.tables ∧
        (operation.run services w.state.files w.state.tables).1.isOk = false) ∧
    (OrderlySteps services w₀ w → ∀ sha256 ∈ w.state.published, Accounted w.state sha256) := by
  have ht : Consistent w.state.tables := h.consistent hfresh.consistent
  refine ⟨fun jobId job hjob => ⟨?_, fun other otherJob hother hsame => ?_, ht.succeeded_iff hjob,
    ht.failed_iff hjob, fun hended w' h' => ?_⟩, h.sent_approval hfresh, fun jobId hmem => ?_,
    fun nowMs t' hrecover jobId job attempt hjob hrunning hattempt => ?_,
    fun nowMs hclock hroom => recoverTryOnJobs_total ht hclock hroom,
    fun operation claim hclaim hstale => stale_fence hclaim hstale rfl,
    fun horderly => horderly.accounted hfresh⟩
  · exact (ht.spent jobId job hjob).2
  · exact ht.one_job hjob hother hsame
  · exact (congrArg TryOnView.job (h'.ended ht hjob hended)).trans hjob
  · obtain ⟨job, -, hjob, -⟩ := (h.sent hfresh jobId).2 (List.count_pos_iff.mpr hmem)
    exact Option.isSome_iff_exists.mpr ⟨job, hjob⟩
  · exact recover_settles hjob hrunning hattempt hrecover

/-! ## Two runs

The outfit of two garments is previewed, submitted and rendered.
-/

namespace Example

def answering : TryOnOutside := ⟨none, false, some "secret", .ok ⟨[1, 1, 1, 1], none, 200, 1, 4⟩⟩

/-- A program starts, and performs its first actions. -/
def launch (p : Renderer PUnit) (actions : ℕ) (w : TryOnWorld) : TryOnWorld :=
  (List.replicate actions answering).foldl
    (World.advance (tryOnMachine countServices) tryOnLicence) { w with threads := p :: w.threads }

theorem launch_steps {p : Renderer PUnit} (h : TryOnCall countServices p) (actions : ℕ)
    (w : TryOnWorld) : TryOnSteps countServices w (launch p actions w) :=
  .trans (.single (.start p h)) (Steps.advance _)

def submitRequest : SubmitTryOnV1Request := ⟨1, .above 6, ⟨.above 5⟩⟩

/-- Nothing is submitted, and no call is on its way. -/
def freshWorld : TryOnWorld := ⟨⟨tables, threeFiles, []⟩, [], []⟩

theorem freshWorld_fresh : freshWorld.Fresh := ⟨fun _ => rfl, rfl, rfl, rfl⟩

def submitted : TryOnWorld :=
  launch ((fun _ => ⟨⟩) <$> (Program.call (.database (.submit submitRequest 0)) :
      Renderer SubmitTryOnV1Response)) 1
    (launch ((fun _ => ⟨⟩) <$> (Program.call (.database (.preview previewRequest 0)) :
      Renderer PreviewTryOnV1Response)) 1 freshWorld)

theorem submitted_steps : TryOnSteps countServices freshWorld submitted :=
  (launch_steps (.operation _) 1 freshWorld).trans (launch_steps (.operation _) 1 _)

def rendered (actions : ℕ) : TryOnWorld :=
  launch ((fun _ => ⟨⟩) <$> runOnce countServices 1 "worker" 1) actions submitted

/-- The worker crashes between linking its file and unlinking what it wrote, and the application
starts again. -/
def interrupted : TryOnWorld :=
  launch ((fun _ => ⟨⟩) <$> (Program.call (.database (.recover 2)) : Renderer PUnit)) 1
    { rendered 7 with threads := [] }

theorem rendered_steps (actions : ℕ) : TryOnSteps countServices freshWorld (rendered actions) :=
  submitted_steps.trans (launch_steps (.runOnce 1 "worker" 1) actions _)

theorem crashed_steps {w₀ w : TryOnWorld} (h : TryOnSteps countServices w₀ w) :
    TryOnSteps countServices w₀ { w with threads := [] } := by
  obtain ⟨s, threads, spent⟩ := w
  exact h.tail .crash

theorem interrupted_steps : TryOnSteps countServices freshWorld interrupted := by
  rw [interrupted]
  exact (crashed_steps (rendered_steps 7)).trans (launch_steps (.operation _) 1 _)

def isAnnounced (t : TryOnTables) (sha256 : String) : Bool :=
  t.jobs.rows.any fun entry => entry.2.state == .running &&
    (t.attempts.find? ⟨entry.1⟩).any fun attempt => attempt.state == .materializing &&
      attempt.output.any fun intent => intent.sha256 == sha256

theorem announces_of_isAnnounced {t : TryOnTables} {sha256 : String}
    (h : isAnnounced t sha256 = true) : ∃ jobId, Announces t sha256 jobId := by
  obtain ⟨⟨jobId, job⟩, hmem, hentry⟩ := List.any_eq_true.mp h
  rw [Bool.and_eq_true, beq_iff_eq, any_eq_true] at hentry
  obtain ⟨hrunning, attempt, hattempt, hentry⟩ := hentry
  rw [Bool.and_eq_true, beq_iff_eq, any_eq_true] at hentry
  obtain ⟨hmaterializing, intent, hintent, hsha⟩ := hentry
  exact ⟨jobId, job, attempt, intent, mem_rows.mp hmem, hrunning, hattempt, hmaterializing,
    hintent, beq_iff_eq.mp hsha⟩

def isOrderly {β : Type} (action : TryOnAction β) (_ : TryOnOutside) (s : TryOnDisk) : Bool :=
  match action with
  | .link pngBytes => isAnnounced s.tables (countServices.digest pngBytes)
  | .database operation => !operation.recovers && operation.givesUp.isNone
  | .secret _ | .generate _ _ _ _ | .settle _ _ => true

theorem orderly_of_isOrderly {β : Type} (action : TryOnAction β) (outside : TryOnOutside)
    (s : TryOnDisk) (h : isOrderly action outside s = true) :
    Orderly countServices action outside s := by
  intro _
  cases action with
  | secret | generate | settle => exact trivial
  | link pngBytes => exact fun _ => .inr (announces_of_isAnnounced h)
  | database operation =>
    rw [isOrderly, Bool.and_eq_true, Bool.not_eq_true', isNone_iff_eq_none] at h
    rintro sha256 - ⟨jobId, hannounced⟩
    refine .inr ⟨jobId, hannounced, ?_⟩
    rintro ⟨attempt, -, ⟨hrecovers, -⟩ | ⟨claim, hclaim, -⟩⟩
    · rw [h.1] at hrecovers
      cases hrecovers
    · rw [h.2] at hclaim
      cases hclaim

def startsOrderly (p : Renderer PUnit) (actions : ℕ) (w : TryOnWorld) : Bool :=
  World.passes (tryOnMachine countServices) tryOnLicence isOrderly
    { w with threads := p :: w.threads } (List.replicate actions answering)

theorem launch_orderly {p : Renderer PUnit} (hcall : TryOnCall countServices p) {actions : ℕ}
    {w : TryOnWorld} (h : startsOrderly p actions w = true) :
    OrderlySteps countServices w (launch p actions w) :=
  .head (.idle (.start p hcall) (.inl rfl)) (GuardedSteps.advance orderly_of_isOrderly h)

theorem run_facts :
    ((startsOrderly ((fun _ => ⟨⟩) <$> (Program.call (.database (.preview previewRequest 0)) :
          Renderer PreviewTryOnV1Response)) 1 freshWorld = true ∧
        startsOrderly ((fun _ => ⟨⟩) <$> (Program.call (.database (.submit submitRequest 0)) :
          Renderer SubmitTryOnV1Response)) 1
          (launch ((fun _ => ⟨⟩) <$> (Program.call (.database (.preview previewRequest 0)) :
            Renderer PreviewTryOnV1Response)) 1 freshWorld) = true ∧
        startsOrderly ((fun _ => ⟨⟩) <$> runOnce countServices 1 "worker" 1) 9 submitted = true) ∧
      0 < ((rendered 9).spent.filter ((rendered 9).state.tables.approves ⟨.above 5⟩)).length ∧
      ((rendered 9).state.tables.jobs.find? ⟨.above 6⟩).any
        (fun job => job.state == .succeeded) = true ∧
      (rendered 9).state.published.isEmpty = false) ∧
    (countBytes [1, 1, 1, 1] ∈ interrupted.state.published ∧
      (interrupted.state.files (countBytes [1, 1, 1, 1])).isSome = true ∧
      interrupted.state.tables.jobs.rows.all (fun entry => entry.2.state != .running) = true ∧
      interrupted.state.tables.outputs.rows.isEmpty = true) := by
  decide +kernel

theorem rendered_orderly : OrderlySteps countServices freshWorld (rendered 9) := by
  obtain ⟨⟨⟨hpreview, hsubmit, hrender⟩, -⟩, -⟩ := run_facts
  exact .trans (.trans (launch_orderly (.operation _) hpreview)
    (launch_orderly (.operation _) hsubmit)) (launch_orderly (.runOnce 1 "worker" 1) hrender)

end Example

/-- A job that is rendered in an orderly run succeeds with an output, after one call of the
provider, and the file that was put is accounted for. -/
theorem rendered_job_accounted : (∃ jobId job output,
      (Example.rendered 9).state.tables.jobs.find? jobId = some job ∧ job.state = .succeeded ∧
      (Example.rendered 9).state.tables.outputs.find? ⟨jobId⟩ = some output) ∧
    ((Example.rendered 9).spent.filter
      ((Example.rendered 9).state.tables.approves ⟨.above 5⟩)).length = 1 ∧
    ∃ sha256 ∈ (Example.rendered 9).state.published, Accounted (Example.rendered 9).state sha256 := by
  obtain ⟨hjobs, hsent, -, -, -, -, haccounted⟩ :=
    try_on_jobs Example.freshWorld_fresh (Example.rendered_steps 9)
  obtain ⟨⟨-, hone, hjob, hpublished⟩, -⟩ := Example.run_facts
  obtain ⟨job, hfound, hstate⟩ := (Option.any_eq_true ..).mp hjob
  have hsucceeded := beq_iff_eq.mp hstate
  obtain ⟨-, -, houtput, -⟩ := hjobs ⟨.above 6⟩ job hfound
  obtain ⟨output, houtput, -⟩ := houtput.mp hsucceeded
  obtain ⟨sha256, hmem⟩ := List.exists_mem_of_ne_nil _ (List.isEmpty_eq_false_iff.mp hpublished)
  exact ⟨⟨⟨.above 6⟩, job, output, hfound, hsucceeded, houtput⟩,
    le_antisymm (hsent ⟨.above 5⟩) hone, sha256, hmem,
    haccounted Example.rendered_orderly sha256 hmem⟩

/-- **An interrupted output is left behind**: the worker put its file into the blob store and
crashed before it unlinked what it wrote; recovery does not find the file whole, fails the job, and
leaves the file, which no output refers to. -/
theorem interrupted_output_left_behind : ¬ ∀ w₀ w : TryOnWorld, w₀.Fresh →
    TryOnSteps Example.countServices w₀ w →
      ∀ sha256 ∈ w.state.published, Accounted w.state sha256 := by
  intro h
  obtain ⟨-, hpublished, hfile, hjobs, houtputs⟩ := Example.run_facts
  obtain hgone | ⟨jobId, output, houtput, -⟩ | ⟨jobId, job, -, -, hjob, hrunning, -⟩ :=
    h _ _ Example.freshWorld_fresh Example.interrupted_steps (Example.countBytes [1, 1, 1, 1])
      hpublished
  · rw [hgone] at hfile
    cases hfile
  · have hmem := Table.mem_rows.mpr houtput
    rw [List.isEmpty_iff.mp houtputs] at hmem
    cases hmem
  · have hother := List.all_eq_true.mp hjobs _ (Table.mem_rows.mpr hjob)
    simp [hrunning] at hother

end Threadbook.TryOn
