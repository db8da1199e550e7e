import Threadbook.Attire.OutfitRows
import Threadbook.Attire.TryOnPage
import Threadbook.Attire.TryOnRecovery

/-!
# Histories of try-ons

A history is the database with the files of the blob store, and the jobs in the order they were
submitted in. It goes on by calls of the repository, by whatever is done to outfits, by deletions
and by edits of anything else. What the page of an outfit relies on holds in every history
(**`HistorySteps.sound`**): approvals keep their garments with columns that can be shown, rows of
jobs count their attempts, and every job that is there was submitted.
-/

namespace Threadbook.TryOn

open Table Fallible
open Catalog (CatalogServices)
open Outfits (OutfitId OutfitRow OutfitTables OutfitStep maxStoredRevision)
open Promotion (RequestId)

variable {services : TryOnServices} {catalogServices : CatalogServices} {files : BlobFiles}
  {t t' : TryOnTables}

/-! ## What calls leave behind -/

structure Onward (t t' : TryOnTables) : Prop where
  outfits : t'.outfits.outfits = t.outfits.outfits
  members : t'.outfits.members = t.outfits.members
  approvals : ∀ approvalId row, t.approvals.find? approvalId = some row →
    ∃ row', t'.approvals.find? approvalId = some row' ∧ row'.outfitId = row.outfitId
  revision : t.tryOnRevision ≤ t'.tryOnRevision
  bounded : t.tryOnRevision ≤ maxStoredRevision → t'.tryOnRevision ≤ maxStoredRevision

theorem Onward.of_eq (houtfits : t'.outfits.outfits = t.outfits.outfits)
    (hmembers : t'.outfits.members = t.outfits.members) (happrovals : t'.approvals = t.approvals)
    (hrevision : t'.tryOnRevision = t.tryOnRevision) : Onward t t' where
  outfits := houtfits
  members := hmembers
  approvals _ row hrow := ⟨row, by rw [happrovals, hrow], rfl⟩
  revision := hrevision.ge
  bounded h := hrevision ▸ h

theorem Onward.refl (t : TryOnTables) : Onward t t := .of_eq rfl rfl rfl rfl

theorem Onward.trans (t t₁ t' : TryOnTables) (hfirst : Onward t t₁) (hsecond : Onward t₁ t') :
    Onward t t' where
  outfits := hsecond.outfits.trans hfirst.outfits
  members := hsecond.members.trans hfirst.members
  approvals approvalId row hrow := by
    obtain ⟨row₁, hrow₁, hfirst⟩ := hfirst.approvals approvalId row hrow
    obtain ⟨row', hrow', hsecond⟩ := hsecond.approvals approvalId row₁ hrow₁
    exact ⟨row', hrow', hsecond.trans hfirst⟩
  revision := hfirst.revision.trans hsecond.revision
  bounded h := hsecond.bounded (hfirst.bounded h)

theorem onward_frame : PreviewFrame Onward where
  refl := .refl
  trans := .trans
  jobs _ _ := .of_eq rfl rfl rfl rfl
  attempts _ _ := .of_eq rfl rfl rfl rfl
  outputs _ _ := .of_eq rfl rfl rfl rfl
  submissions _ _ := .of_eq rfl rfl rfl rfl
  blobs _ _ := .of_eq rfl rfl rfl rfl
  receipts _ _ _ := .of_eq rfl rfl rfl rfl
  assets _ _ := .of_eq rfl rfl rfl rfl
  previews _ _ := .of_eq rfl rfl rfl rfl
  revision t hroom := ⟨rfl, rfl, fun _ row hrow => ⟨row, hrow, rfl⟩, Nat.le_succ _, fun _ => hroom⟩
  consumed t approvalId row requestId hrow := by
    refine ⟨rfl, rfl, fun other found hfound => ?_, le_rfl, id⟩
    rw [find?_put]
    split
    · rename_i heq
      rw [heq, hrow] at hfound
      cases hfound
      exact ⟨_, rfl, rfl⟩
    · exact ⟨found, hfound, rfl⟩
  approvals t approvalId row hnew := by
    refine ⟨rfl, rfl, fun other found hfound => ?_, le_rfl, id⟩
    rw [find?_put, if_neg]
    · exact ⟨found, hfound, rfl⟩
    · rintro rfl
      rw [hnew] at hfound
      cases hfound

theorem operation_onward {β : Type} {operation : TryOnOperation β} {result : Except PlatformError β}
    (h : operation.run services files t = (result, t')) : Onward t t' := by
  have hsteps : Fallible.Steps Onward (operation.run services files) :=
    onward_frame.steps_call operation
  have hstep := hsteps t
  rwa [h] at hstep

/-! ## Rows of jobs -/

def AllJobs (P : TryOnJobId → TryOnJobRow → Prop) (t : TryOnTables) : Prop :=
  ∀ jobId job, t.jobs.find? jobId = some job → P jobId job

structure KeptByWork (P : TryOnJobId → TryOnJobRow → Prop) : Prop where
  taken : ∀ jobId job owner leaseExpiresAtMs nowMs, P jobId job →
    P jobId (job.taken owner leaseExpiresAtMs nowMs)
  requeued : ∀ jobId job nowMs, P jobId job → P jobId (job.requeued nowMs)
  finished : ∀ jobId job nowMs, P jobId job → job.state = .running → P jobId (job.finished jobId nowMs)
  failed : ∀ jobId job code nowMs, P jobId job → P jobId (job.failedWith jobId code nowMs)

section Jobs

variable {P : TryOnJobId → TryOnJobRow → Prop}

theorem AllJobs.put (h : AllJobs P t) {jobId : TryOnJobId} {job : TryOnJobRow} (hjob : P jobId job)
    (hjobs : t'.jobs = t.jobs.put jobId job) : AllJobs P t' := by
  intro other found hfound
  rw [hjobs, find?_put] at hfound
  split at hfound
  · rename_i heq
    cases hfound
    rw [heq]
    exact hjob
  · exact h other found hfound

theorem AllJobs.of_eq (h : AllJobs P t) (hjobs : t'.jobs = t.jobs) : AllJobs P t' := by
  intro jobId job hjob
  rw [hjobs] at hjob
  exact h jobId job hjob

theorem keeps_failJob (hP : KeptByWork P) (jobId : TryOnJobId) (fence : ℕ)
    (code : TryOnFailureCodeV1) (nowMs : ℤ) :
    Keeps (AllJobs P) (failJob jobId fence code nowMs) := by
  intro t t' u ht h
  obtain ⟨attempt, job, -, hjob, -, -, -, -, -, rfl⟩ := failJob_eq_ok.mp h
  exact ht.put (hP.failed jobId job code nowMs (ht jobId job hjob)) rfl

theorem keeps_finalizePromotedOutput (hP : KeptByWork P) (jobId : TryOnJobId) (fence : ℕ)
    (intent : TryOnOutputIntent) (nowMs : ℤ) :
    Keeps (AllJobs P) (finalizePromotedOutput jobId fence intent nowMs) := by
  intro t t' u ht h
  obtain ⟨attempt, job, snapshot, hview, -, ⟨hrunning, -⟩, -, -, hview', hothers, -⟩ :=
    finalizePromotedOutput_eq_ok h
  intro other found hfound
  by_cases hother : other = jobId
  · subst hother
    have hjob : t'.jobs.find? other = some (job.finished other nowMs) :=
      congrArg TryOnView.job hview'
    obtain rfl := Option.mem_unique hjob hfound
    exact hP.finished other job nowMs (ht other job (congrArg TryOnView.job hview)) hrunning
  · refine ht other found ?_
    rw [← hfound]
    exact (congrArg TryOnView.job (hothers other hother)).symm

theorem keeps_recoverJob (hP : KeptByWork P) (nowMs : ℤ) (entry : TryOnJobId × TryOnAttemptRow) :
    Keeps (AllJobs P) (recoverJob services files nowMs entry) := by
  rw [recoverJob]
  split
  · intro t t' u ht h
    obtain ⟨job, hjob, -, -, rfl⟩ := updateJob_eq_ok.mp h
    exact ht.put (hP.requeued entry.1 job nowMs (ht entry.1 job hjob)) rfl
  · exact keeps_failJob hP _ _ _ _
  · split
    · exact .bind (.update fun t ht => ht.of_eq rfl) fun _ =>
        keeps_finalizePromotedOutput hP _ _ _ _
    · exact keeps_failJob hP _ _ _ _
  · exact .fail _
  · exact .fail _

theorem keeps_claimRound (hP : KeptByWork P) (owner : String) (nowMs leaseMs : ℤ) :
    Keeps (AllJobs P) (claimRound services files owner nowMs leaseMs) := by
  intro t t' round ht h
  obtain ⟨-, -, rfl⟩ | ⟨entry, fence, t₁, hnext, htake, hend⟩ := claimRound_eq_ok h
  · exact ht
  · have htaken : AllJobs P t₁ := by
      have hmem := List.mem_of_head? hnext
      rw [List.mem_mergeSort, List.mem_filter] at hmem
      obtain ⟨-, leaseExpiresAtMs, attempt, rfl, -⟩ := takeJob_eq_ok htake
      exact ht.put (hP.taken _ _ owner leaseExpiresAtMs nowMs (ht _ _ (mem_rows.mp hmem.1))) rfl
    obtain ⟨-, -, -, rfl⟩ | ⟨e, -, -, u, hfail⟩ := hend
    · exact htaken
    · exact keeps_failJob hP _ _ _ _ _ _ u htaken hfail

theorem keeps_updateAttempt (attemptId : TryOnAttemptId) (cond : TryOnAttemptRow → Bool)
    (f : TryOnAttemptRow → TryOnAttemptRow) :
    Keeps (AllJobs P) (updateAttempt attemptId cond f) := by
  intro t t' u ht h
  obtain ⟨attempt, -, -, -, rfl⟩ := updateAttempt_eq_ok.mp h
  exact ht.of_eq rfl

def TryOnOperation.submits {β : Type} (t t' : TryOnTables) : TryOnOperation β → List TryOnJobId
  | .submit request _ =>
    if (t.jobs.find? ⟨request.requestId⟩).isNone ∧ (t'.jobs.find? ⟨request.requestId⟩).isSome then
      [⟨request.requestId⟩]
    else []
  | _ => []

/-- **A property of jobs** that work keeps holds after a call if it does of the job it submits. -/
theorem operation_jobs {β : Type} {operation : TryOnOperation β}
    {result : Except PlatformError β} (hP : KeptByWork P)
    (hsubmits : ∀ request nowMs, operation.submits t t' = [⟨request.requestId⟩] →
      P ⟨request.requestId⟩ (queuedJob services request nowMs)) (ht : AllJobs P t)
    (h : operation.run services files t = (result, t')) : AllJobs P t' := by
  have hsteps : ∀ {α : Type} {x : TryOnTransaction α} {r : Except PlatformError α},
      Fallible.Steps (fun t t' => AllJobs P t → AllJobs P t') x → x t = (r, t') → AllJobs P t' := by
    intro α x r hx hrun
    have hstep := hx t ht
    rwa [hrun] at hstep
  cases operation with
  | preview request nowMs =>
    cases result with
    | error e => exact atomically_of_error h ▸ ht
    | ok response =>
      obtain ⟨preview, hpreview, -⟩ | ⟨stored, -, -, rfl⟩ := previewTryOn_eq_ok h
      · exact ht.of_eq hpreview.work.1
      · exact ht
  | submit request nowMs =>
    cases result with
    | error e => exact atomically_of_error h ▸ ht
    | ok response =>
      obtain hsubmit | rfl := submitTryOn_eq_ok h
      · refine ht.put (hsubmits request nowMs (if_pos ⟨?_, ?_⟩)) hsubmit.jobs
        · rw [hsubmit.new]
          rfl
        · rw [hsubmit.jobs, find?_put, if_pos rfl]
          rfl
      · exact ht
  | recover nowMs =>
    exact hsteps (Keeps.steps_atomically (.bind .state fun t =>
      .bind (.forEach (keeps_recoverJob hP nowMs) _) fun _ => .pure _)) h
  | claimRound owner nowMs leaseMs =>
    cases result with
    | error e => exact atomically_of_error h ▸ ht
    | ok round => exact keeps_claimRound hP owner nowMs leaseMs t t' round ht h
  | authorize claim nowMs =>
    obtain ⟨rfl, -⟩ | ⟨job, attempt, attempt', -, -, -, -, -, rfl⟩ := authorize_cases h
    · exact ht
    · exact ht.of_eq rfl
  | markStarted | clearStarted =>
    exact hsteps (Keeps.steps_atomically (keeps_updateAttempt _ _ _)) h
  | beginOutput claim pngBytes audit nowMs =>
    refine hsteps (Fallible.Steps.bind (R := fun t t' => AllJobs P t → AllJobs P t')
      (fun _ _ _ hfirst hsecond => hsecond ∘ hfirst)
      (Keeps.steps_atomically (keeps_updateAttempt _ _ _)) fun _ => ?_) h
    exact .pure (fun _ => id) _
  | finalizeOutput claim record nowMs =>
    have hrecord : Keeps (AllJobs P) (recordBlob record.sha256 record.byteLength) :=
      .update fun t ht => ht.of_eq rfl
    exact hsteps (Keeps.steps_atomically (.bind hrecord fun _ =>
      keeps_finalizePromotedOutput hP _ _ _ _)) h
  | fail claim code nowMs => exact hsteps (Keeps.steps_atomically (keeps_failJob hP _ _ _ _)) h

end Jobs

/-! ## Garments -/

def Showable (entry : ℕ × TryOnAssetRow) : Prop :=
  ∃ columns, garmentColumns entry = .ok (entry, columns) ∧ columns.attributes.validate = .ok () ∧
    0 < columns.itemUpdatedRevision ∧ columns.itemUpdatedRevision < maxSafeIntegerV1

def AllShowable (t : TryOnTables) : Prop :=
  ∀ key row, t.assets.find? key = some row → row.role = "garment" → Showable (key.2, row)

theorem garmentParent_showable {entry : ℕ × Outfits.OutfitMemberRow} {parent : ParentAsset}
    {asset : SnapshotAsset} (hparent : garmentParent entry = .ok parent)
    (hasset : snapshotAsset services files parent = .ok asset) (hallowed : entry.2.allowed entry.1)
    (hvalid : entry.2.attributes.validate = .ok ()) : Showable asset.slot := by
  have hrevision : 0 < entry.2.itemUpdatedRevision ∧
      entry.2.itemUpdatedRevision < maxSafeIntegerV1 := by
    rw [Outfits.OutfitMemberRow.allowed, decide_eq_true_eq] at hallowed
    obtain ⟨-, hpos, hmax, -⟩ := hallowed
    rw [maxStoredRevision] at hmax
    rw [maxSafeIntegerV1]
    omega
  rw [garmentParent] at hparent
  split at hparent
  · cases hparent
    obtain ⟨canonical, -, hasset⟩ := Threadbook.check_bind_eq_ok.mp hasset
    cases hasset
    exact ⟨_, rfl, hvalid, hrevision⟩
  · cases hparent

theorem snapshotAsset_role {parent : ParentAsset} {asset : SnapshotAsset}
    (h : snapshotAsset services files parent = .ok asset) : asset.role = parent.role := by
  obtain ⟨canonical, -, hasset⟩ := Threadbook.check_bind_eq_ok.mp h
  cases hasset
  rfl

theorem loadAssets_showable {request : PreviewTryOnV1Request} {assets : List SnapshotAsset}
    (ht : t.outfits.Kept) (h : loadAssets services files t request = .ok assets) :
    ∀ asset ∈ assets, asset.row.role = "garment" → Showable asset.slot := by
  obtain ⟨portrait, hportrait, h⟩ := Threadbook.check_bind_eq_ok.mp h
  obtain ⟨garments, hgarments, h⟩ := Threadbook.check_bind_eq_ok.mp h
  cases h
  intro asset hasset hrole
  obtain rfl | hasset := List.mem_cons.mp hasset
  · -- the portrait is none
    obtain ⟨parent, hparent, hsnapshot⟩ := Threadbook.check_bind_eq_ok.mp hportrait
    have hkind : parent.role = .portrait := by
      simp only [portraitParent] at hparent
      split at hparent
      · split at hparent
        · split at hparent
          · cases hparent
          · split at hparent
            · cases hparent
              rfl
            · cases hparent
        · cases hparent
      · cases hparent
    simp [SnapshotAsset.row, snapshotAsset_role hsnapshot, hkind, roleDb] at hrole
  · obtain ⟨parents, hparents, hgarments⟩ := Threadbook.check_bind_eq_ok.mp hgarments
    rw [rejectWhen_bind_eq_ok, check_mapM_eq_ok] at hgarments
    obtain ⟨parent, hparent, hsnapshot⟩ := exists_of_forall₂ hgarments.2 asset hasset
    obtain ⟨entry, hentry, hparent⟩ :=
      exists_of_forall₂ (check_mapM_eq_ok.mp hparents) parent hparent
    obtain ⟨ordinal, -, hfound⟩ := List.mem_filterMap.mp (List.mem_filter.mp hentry).1
    obtain ⟨row, hrow, rfl⟩ := Option.map_eq_some_iff.mp hfound
    obtain ⟨hallowed, hvalid⟩ := ht.members _ row hrow
    exact garmentParent_showable hparent hsnapshot hallowed hvalid

theorem AllShowable.operation {β : Type} {operation : TryOnOperation β}
    {result : Except PlatformError β} (h : AllShowable t) (ht : t.outfits.Kept)
    (hrun : operation.run services files t = (result, t')) : AllShowable t' := by
  obtain hsame | ⟨request, nowMs, preview, hpreview⟩ := operation_cases hrun
  · have hassets : t'.assets = t.assets := congrArg ApprovalView.assets hsame
    intro key row hrow hrole
    exact h key row (hassets ▸ hrow) hrole
  · intro key row hrow hrole
    rw [hpreview.assets] at hrow
    obtain hmem | hold := find?_putSlots_or hrow
    · obtain ⟨asset, hasset, heq⟩ := List.mem_map.mp hmem
      obtain ⟨hassets, -⟩ := describePreview_eq_ok hpreview.described
      rw [← heq]
      refine loadAssets_showable ht hassets asset hasset ?_
      rw [← hrole, ← (Prod.mk.inj heq).2]
    · exact h key row hold hrole

/-! ## Steps -/

/-- The database and the files, and the jobs in the order they were submitted in. -/
structure TryOnHistory extends TryOnStore where
  submitted : List TryOnJobId

/-- What may happen while a page is read: a call of the repository, or a change of files. -/
inductive WorkStep (services : TryOnServices) (h : TryOnHistory) : TryOnHistory → Prop
  | operation {β : Type} (operation : TryOnOperation β) (result : Except PlatformError β)
      (tables : TryOnTables) (run : operation.run services h.files h.tables = (result, tables)) :
      WorkStep services h ⟨⟨tables, h.files⟩, h.submitted ++ operation.submits h.tables tables⟩
  | files (files : BlobFiles) : WorkStep services h { h with files := files }

/-- Any number of calls in any order. -/
abbrev WorkSteps (services : TryOnServices) : TryOnHistory → TryOnHistory → Prop :=
  Relation.ReflTransGen (WorkStep services)

/-- What a deletion does: all that belongs to some approvals vanishes. -/
structure ErasesApprovals (gone : TryOnApprovalId → Bool) (t t' : TryOnTables) : Prop where
  outfits : t'.outfits.outfits = t.outfits.outfits
  members : t'.outfits.members = t.outfits.members
  approvals : ∀ approvalId, t'.approvals.find? approvalId =
    if gone approvalId then none else t.approvals.find? approvalId
  assets : ∀ key, t'.assets.find? key = if gone key.1 then none else t.assets.find? key
  previews : ∀ requestId, t'.previews.find? requestId =
    if gone ⟨requestId⟩ then none else t.previews.find? requestId
  views : ∀ jobId, t'.view jobId =
    if (t.jobs.find? jobId).any fun job => gone job.approvalId then ⟨none, none, none⟩
    else t.view jobId
  bounded : t'.tryOnRevision ≤ maxStoredRevision

/-- What may happen at any time. -/
inductive HistoryStep (services : TryOnServices) (catalogServices : CatalogServices)
    (h : TryOnHistory) : TryOnHistory → Prop
  | work (h' : TryOnHistory) (step : WorkStep services h h') :
      HistoryStep services catalogServices h h'
  | outfits (outfits : OutfitTables)
      (step : OutfitStep services.toOutfitServices catalogServices h.tables.outfits outfits) :
      HistoryStep services catalogServices h { h with tables := { h.tables with outfits } }
  | erased (gone : TryOnApprovalId → Bool) (tables : TryOnTables)
      (erases : ErasesApprovals gone h.tables tables) :
      HistoryStep services catalogServices h { h with tables := tables }
  | edited (photoRevisions : Table PhotoSourceRevisionId PhotoSourceRevisionRow)
      (photoArtifacts : Table PhotoArtifactId PhotoSourceRevisionId)
      (credentials : Table CredentialId CredentialReferenceRow) :
      HistoryStep services catalogServices h
        { h with tables := { h.tables with photoRevisions, photoArtifacts, credentials } }

abbrev HistorySteps (services : TryOnServices) (catalogServices : CatalogServices) :
    TryOnHistory → TryOnHistory → Prop :=
  Relation.ReflTransGen (HistoryStep services catalogServices)

structure TryOnHistory.Fresh (h : TryOnHistory) : Prop where
  kept : h.tables.outfits.Kept
  store : h.toTryOnStore.Fresh
  views : ∀ jobId, h.tables.view jobId = ⟨none, none, none⟩
  revision : h.tables.tryOnRevision ≤ maxStoredRevision
  submitted : h.submitted = []

/-! ## What holds in every history -/

def TryOnJobRow.Counted (self : TryOnJobRow) : Prop :=
  match self.state with
  | .queued => self.attemptCount = 0
  | .running | .succeeded => self.attemptCount = 1
  | .failed => True

theorem counted_keptByWork : KeptByWork fun _ job => job.Counted where
  taken _ _ _ _ _ _ := rfl
  requeued _ _ _ _ := rfl
  failed _ _ _ _ _ := trivial
  finished _ job _ hcounted hrunning := by
    rw [TryOnJobRow.Counted, hrunning] at hcounted
    exact hcounted

/-- What the page relies on. -/
structure HistorySound (services : TryOnServices) (h : TryOnHistory) : Prop where
  kept : h.tables.outfits.Kept
  bound : AllBound services h.tables
  showable : AllShowable h.tables
  views : ∀ jobId, (h.tables.view jobId).Sound
  counted : AllJobs (fun _ job => job.Counted) h.tables
  revision : h.tables.tryOnRevision ≤ maxStoredRevision
  submitted : AllJobs (fun jobId _ => jobId ∈ h.submitted) h.tables

variable {h h' : TryOnHistory}

theorem TryOnHistory.Fresh.sound (hfresh : h.Fresh) : HistorySound services h where
  kept := hfresh.kept
  bound := hfresh.store.allBound
  showable key row hrow := by
    rw [hfresh.store.assets] at hrow
    cases hrow
  views jobId := hfresh.views jobId ▸ TryOnView.sound_none
  counted jobId job hjob := by
    have hnone : h.tables.jobs.find? jobId = none := congrArg TryOnView.job (hfresh.views jobId)
    rw [hnone] at hjob
    cases hjob
  revision := hfresh.revision
  submitted jobId job hjob := by
    have hnone : h.tables.jobs.find? jobId = none := congrArg TryOnView.job (hfresh.views jobId)
    rw [hnone] at hjob
    cases hjob

theorem WorkStep.sound (hstep : WorkStep services h h') (hsound : HistorySound services h) :
    HistorySound services h' := by
  cases hstep with
  | files files => exact ⟨hsound.kept, hsound.bound, hsound.showable, hsound.views, hsound.counted,
      hsound.revision, hsound.submitted⟩
  | operation operation result tables run =>
    have honward := operation_onward run
    have hchange : TryOnChange services h.toTryOnStore ⟨tables, h.files⟩ := .operation _ _ _ run
    exact {
      kept := ⟨by rw [honward.outfits]; exact hsound.kept.outfits,
        by rw [honward.members]; exact hsound.kept.members⟩
      bound := hchange.allBound hsound.bound
      showable := hsound.showable.operation hsound.kept run
      views := fun jobId => ((operation_moved run).views jobId).sound (hsound.views jobId)
      counted := operation_jobs counted_keptByWork (fun _ _ _ => rfl) hsound.counted run
      revision := honward.bounded hsound.revision
      submitted := by
        refine operation_jobs ⟨fun _ _ _ _ _ => id, fun _ _ _ => id, fun _ _ _ hmem _ => hmem,
          fun _ _ _ _ => id⟩ (fun request nowMs hsubmits => ?_) (fun jobId job hjob => ?_) run
        · rw [hsubmits]
          exact List.mem_append_right _ (List.mem_singleton_self _)
        · exact List.mem_append_left _ (hsound.submitted jobId job hjob) }

theorem ErasesApprovals.bound {gone : TryOnApprovalId → Bool}
    (herases : ErasesApprovals gone t t') (ht : AllBound services t) : AllBound services t' := by
  have hsnapshot : ∀ approvalId, t'.approvalView.snapshot approvalId =
      if gone approvalId then none else t.approvalView.snapshot approvalId := by
    intro approvalId
    change (t'.approvals.find? approvalId).map _ = _
    rw [herases.approvals]
    split
    · rfl
    · rfl
  refine ⟨fun approvalId hsome => ?_, fun key row hrow => ?_, fun requestId response hanswer => ?_⟩
  · rw [hsnapshot] at hsome
    split at hsome
    · cases hsome
    · rename_i hstays
      obtain ⟨assets, response, hbound⟩ := ht.bound approvalId hsome
      refine ⟨assets, response, ?_, ?_, ?_, hbound.disclosed, hbound.valid, hbound.approvalId,
        hbound.hash⟩
      · rw [hsnapshot, if_neg hstays]
        exact hbound.snapshot
      · rw [← hbound.rows, assetRows, assetRows, slots, slots]
        refine List.filterMap_congr fun slot _ => ?_
        rw [herases.assets, if_neg hstays]
      · rw [herases.previews, if_neg hstays]
        exact hbound.answer
  · rw [herases.assets] at hrow
    split at hrow
    · cases hrow
    · rename_i hstays
      rw [hsnapshot, if_neg hstays]
      exact ht.owned key row hrow
  · rw [herases.previews] at hanswer
    split at hanswer
    · cases hanswer
    · rename_i hstays
      rw [hsnapshot, if_neg hstays]
      exact ht.answered requestId response hanswer

theorem ErasesApprovals.jobs {gone : TryOnApprovalId → Bool} {P : TryOnJobId → TryOnJobRow → Prop}
    (herases : ErasesApprovals gone t t') (ht : AllJobs P t) : AllJobs P t' := by
  intro jobId job hjob
  have hview : (t'.view jobId).job = some job := hjob
  rw [herases.views] at hview
  split at hview
  · cases hview
  · exact ht jobId job hview

/-- **Every step** keeps what the page relies on. -/
theorem HistoryStep.sound (hstep : HistoryStep services catalogServices h h')
    (hsound : HistorySound services h) : HistorySound services h' := by
  cases hstep with
  | work h' step => exact step.sound hsound
  | outfits outfits step =>
    exact ⟨step.kept hsound.kept, hsound.bound.same rfl, hsound.showable, hsound.views,
      hsound.counted, hsound.revision, hsound.submitted⟩
  | erased gone tables erases =>
    refine ⟨⟨?_, ?_⟩, erases.bound hsound.bound, fun key row hrow hrole => ?_, fun jobId => ?_,
      erases.jobs hsound.counted, erases.bounded, erases.jobs hsound.submitted⟩
    · rw [erases.outfits]
      exact hsound.kept.outfits
    · rw [erases.members]
      exact hsound.kept.members
    · rw [erases.assets] at hrow
      split at hrow
      · cases hrow
      · exact hsound.showable key row hrow hrole
    · rw [erases.views]
      split
      · exact TryOnView.sound_none
      · exact hsound.views jobId
  | edited =>
    exact ⟨hsound.kept, hsound.bound.same rfl, hsound.showable, hsound.views, hsound.counted,
      hsound.revision, hsound.submitted⟩

/-- **Every history** has what the page relies on. -/
theorem HistorySteps.sound (hsteps : HistorySteps services catalogServices h h')
    (hsound : HistorySound services h) : HistorySound services h' := by
  induction hsteps with
  | refl => exact hsound
  | tail _ hstep ih => exact hstep.sound ih

theorem WorkSteps.sound (hsteps : WorkSteps services h h') (hsound : HistorySound services h) :
    HistorySound services h' := by
  induction hsteps with
  | refl => exact hsound
  | tail _ hstep ih => exact hstep.sound ih

end Threadbook.TryOn
