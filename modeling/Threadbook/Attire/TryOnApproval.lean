import Threadbook.Attire.OutfitCreation
import Threadbook.Attire.TryOnRepository

/-!
# What is sent is what was approved

A preview binds the images it discloses to an approval by one hash. Every other call of the
repository leaves the approval's images and its hash alone, so from then on, whatever is edited
around them, the hash of the rows is the hash of the preview (**`Bound.keep`**), and what a worker
is handed are the images that were disclosed (**`Bound.prepared`**). The theorem about every run is
**`try_on_sends_what_was_approved`**.
-/

namespace Threadbook.TryOn

open Table List Fallible
open Catalog (CommandReceiptRow)
open Promotion (RequestId ReplayStatusV1)

variable {services : TryOnServices} {files : BlobFiles} {t t' : TryOnTables}

/-! ## Calls -/

/-- A call of the repository that changes tables. -/
inductive TryOnOperation : Type → Type
  | preview (request : PreviewTryOnV1Request) (nowMs : ℤ) : TryOnOperation PreviewTryOnV1Response
  | submit (request : SubmitTryOnV1Request) (nowMs : ℤ) : TryOnOperation SubmitTryOnV1Response
  | recover (nowMs : ℤ) : TryOnOperation PUnit
  | claimRound (owner : String) (nowMs leaseMs : ℤ) : TryOnOperation ClaimRound
  | authorize (claim : ClaimedTryOnJob) (nowMs : ℤ) : TryOnOperation String
  | markStarted (claim : ClaimedTryOnJob) (nowMs : ℤ) : TryOnOperation PUnit
  | clearStarted (claim : ClaimedTryOnJob) (nowMs : ℤ) : TryOnOperation PUnit
  | beginOutput (claim : ClaimedTryOnJob) (pngBytes : List UInt8) (audit : TryOnAudit)
      (nowMs : ℤ) : TryOnOperation String
  | finalizeOutput (claim : ClaimedTryOnJob) (record : TryOnOutputIntent) (nowMs : ℤ) :
      TryOnOperation PUnit
  | fail (claim : ClaimedTryOnJob) (code : TryOnFailureCodeV1) (nowMs : ℤ) : TryOnOperation PUnit

def TryOnOperation.run (services : TryOnServices) (files : BlobFiles) {β : Type} :
    TryOnOperation β → TryOnTransaction β
  | preview request nowMs => previewTryOn services files request nowMs
  | submit request nowMs => submitTryOn services request nowMs
  | recover nowMs => recoverTryOnJobs services files nowMs
  | claimRound owner nowMs leaseMs => TryOn.claimRound services files owner nowMs leaseMs
  | authorize claim nowMs => authorizeTryOnTransport services claim nowMs
  | markStarted claim nowMs => markTryOnTransportStarted claim nowMs
  | clearStarted claim nowMs => clearTryOnTransportStarted claim nowMs
  | beginOutput claim pngBytes audit nowMs =>
    beginTryOnOutput services claim pngBytes audit nowMs
  | finalizeOutput claim record nowMs => finalizeTryOnOutput claim record nowMs
  | fail claim code nowMs => failTryOnJob claim code nowMs

def TryOnOperation.isPreview {β : Type} : TryOnOperation β → Bool
  | preview _ _ => true
  | _ => false

/-! ## What leaves approvals alone -/

/-- What is bound by approvals: their hashes, their images, and what the user was told. -/
structure ApprovalView where
  snapshot : TryOnApprovalId → Option String
  assets : Table (TryOnApprovalId × ℕ) TryOnAssetRow
  previews : Table RequestId PreviewTryOnV1Response

def TryOnTables.approvalView (t : TryOnTables) : ApprovalView where
  snapshot approvalId := (t.approvals.find? approvalId).map (·.assetSnapshotSha256)
  assets := t.assets
  previews := t.previews

def SameApprovals (t t' : TryOnTables) : Prop := t'.approvalView = t.approvalView

theorem SameApprovals.refl (t : TryOnTables) : SameApprovals t t := rfl

theorem SameApprovals.trans (t t₁ t' : TryOnTables) (hfirst : SameApprovals t t₁)
    (hsecond : SameApprovals t₁ t') : SameApprovals t t' :=
  Eq.trans hsecond hfirst

/-! ### Frames

A call changes rows of jobs, attempts, outputs, receipts and submissions, records blobs, spends
approvals and raises the revision; a relation between tables that each of these respects, every
call but a preview respects.
-/

/-- A preorder on tables that every statement but those of a preview respects. -/
structure Frame (R : TryOnTables → TryOnTables → Prop) : Prop where
  refl : ∀ t, R t t
  trans : ∀ t t₁ t', R t t₁ → R t₁ t' → R t t'
  jobs : ∀ t jobs, R t { t with jobs := jobs }
  attempts : ∀ t attempts, R t { t with attempts := attempts }
  outputs : ∀ t outputs, R t { t with outputs := outputs }
  submissions : ∀ t submissions, R t { t with submissions := submissions }
  blobs : ∀ t blobs, R t { t with outfits := { t.outfits with blobs := blobs } }
  receipts : ∀ t requestId row,
    let catalog := { t.outfits.catalog with commandReceipts := t.receipts.put requestId row }
    R t { t with outfits := { t.outfits with catalog } }
  consumed : ∀ t approvalId row requestId, t.approvals.find? approvalId = some row →
    let approval := { row with consumedRequestId := some requestId }
    R t { t with approvals := t.approvals.put approvalId approval }
  revision : ∀ t, t.tryOnRevision + 1 ≤ Outfits.maxStoredRevision →
    R t { t with tryOnRevision := t.tryOnRevision + 1 }

section Frame

variable {α β : Type} {R : TryOnTables → TryOnTables → Prop}

theorem Frame.steps_bind (hR : Frame R) {x : TryOnTransaction α} {f : α → TryOnTransaction β}
    (hx : Fallible.Steps R x) (hf : ∀ a, Fallible.Steps R (f a)) :
    Fallible.Steps R (x >>= f) :=
  .bind hR.trans hx hf

theorem Frame.steps_state (hR : Frame R) : Fallible.Steps R (state : TryOnTransaction TryOnTables) :=
  .state hR.refl

theorem Frame.steps_check (hR : Frame R) (r : Except PlatformError α) :
    Fallible.Steps R (check r : TryOnTransaction α) :=
  .check hR.refl r

theorem Frame.steps_pure (hR : Frame R) (a : α) : Fallible.Steps R (pure a : TryOnTransaction α) :=
  .pure hR.refl a

theorem Frame.steps_fail (hR : Frame R) (e : PlatformError) : Fallible.Steps R (fail e : TryOnTransaction α) :=
  .fail hR.refl e

theorem Frame.steps_rejectIf (hR : Frame R) (e : PlatformError) (p : Prop) [Decidable p] :
    Fallible.Steps R (rejectIf e p : TryOnTransaction PUnit) :=
  .rejectIf hR.refl e p

theorem Frame.steps_update (_ : Frame R) {f : TryOnTables → TryOnTables} (h : ∀ t, R t (f t)) :
    Fallible.Steps R (update f : TryOnTransaction PUnit) :=
  .update h

section

variable (hR : Frame R)

include hR

theorem Frame.steps_atomically {x : TryOnTransaction α} (hx : Fallible.Steps R x) :
    Fallible.Steps R (atomically x) :=
  .atomically hR.refl hx

theorem Frame.steps_forEach {f : α → TryOnTransaction β} (hf : ∀ a, Fallible.Steps R (f a))
    (l : List α) : Fallible.Steps R (forEach f l) :=
  .forEach hR.refl hR.trans hf l

/-! ### Statements -/

theorem Frame.steps_putJob (jobId : TryOnJobId) (row : TryOnJobRow) :
    Fallible.Steps R (putJob jobId row) :=
  hR.steps_bind (hR.steps_rejectIf _ _) fun _ => hR.steps_update fun _ => hR.jobs _ _

theorem Frame.steps_putAttempt (attemptId : TryOnAttemptId) (row : TryOnAttemptRow) :
    Fallible.Steps R (putAttempt attemptId row) :=
  hR.steps_bind (hR.steps_rejectIf _ _) fun _ => hR.steps_update fun _ => hR.attempts _ _

theorem Frame.steps_updateJob (jobId : TryOnJobId) (cond : TryOnJobRow → Bool)
    (f : TryOnJobRow → TryOnJobRow) : Fallible.Steps R (updateJob jobId cond f) := by
  refine hR.steps_bind hR.steps_state fun t => ?_
  split
  · exact hR.steps_fail _
  · split
    · exact hR.steps_putJob _ _
    · exact hR.steps_fail _

theorem Frame.steps_updateAttempt (attemptId : TryOnAttemptId) (cond : TryOnAttemptRow → Bool)
    (f : TryOnAttemptRow → TryOnAttemptRow) :
    Fallible.Steps R (updateAttempt attemptId cond f) := by
  refine hR.steps_bind hR.steps_state fun t => ?_
  split
  · exact hR.steps_fail _
  · split
    · exact hR.steps_putAttempt _ _
    · exact hR.steps_fail _

theorem Frame.steps_advanceTryOnRevision : Fallible.Steps R advanceTryOnRevision := by
  intro t
  rw [advanceTryOnRevision, state_bind]
  by_cases hroom : Outfits.maxStoredRevision < t.tryOnRevision + 1
  · rw [rejectIf, if_pos hroom]
    exact hR.refl t
  · rw [rejectIf, if_neg hroom]
    exact hR.revision t (not_lt.mp hroom)

theorem Frame.steps_recordBlob (sha256 : String) (byteLength : ℕ) :
    Fallible.Steps R (recordBlob sha256 byteLength) :=
  hR.steps_update fun _ => hR.blobs _ _

theorem Frame.steps_insertOutput (outputId : TryOnOutputId) (row : TryOnOutputRow) :
    Fallible.Steps R (insertOutput outputId row) := by
  refine hR.steps_bind hR.steps_state fun t => ?_
  split
  · exact hR.steps_bind (hR.steps_rejectIf _ _) fun _ => hR.steps_update fun _ => hR.outputs _ _
  · exact hR.steps_pure _

theorem Frame.steps_insertReceipt (requestId : RequestId) (row : CommandReceiptRow) :
    Fallible.Steps R (insertReceipt requestId row) :=
  hR.steps_bind hR.steps_state fun _ => hR.steps_bind (hR.steps_rejectIf _ _) fun _ => hR.steps_update fun _ => hR.receipts _ _ _

theorem Frame.steps_insertJob (jobId : TryOnJobId) (row : TryOnJobRow) :
    Fallible.Steps R (insertJob jobId row) :=
  hR.steps_bind hR.steps_state fun _ => hR.steps_bind (hR.steps_rejectIf _ _) fun _ =>
    hR.steps_bind (hR.steps_rejectIf _ _) fun _ => hR.steps_bind (hR.steps_rejectIf _ _) fun _ =>
      hR.steps_bind (hR.steps_rejectIf _ _) fun _ => hR.steps_update fun _ => hR.jobs _ _

theorem Frame.steps_consumeApproval (approvalId : TryOnApprovalId) (requestId : RequestId) :
    Fallible.Steps R (consumeApproval approvalId requestId) := by
  intro t
  rw [consumeApproval, state_bind]
  cases hrow : t.approvals.find? approvalId with
  | none => exact hR.refl t
  | some row =>
    dsimp only
    split
    · exact hR.refl t
    · by_cases hclash : (t.approvals.rows.any fun other =>
          decide (other.2.consumedRequestId = some requestId)) = true
      · rw [rejectIf, if_pos hclash]
        exact hR.refl t
      · rw [rejectIf, if_neg hclash]
        exact hR.consumed t approvalId row requestId hrow

theorem Frame.steps_requireActiveCredential (credentialId : CredentialId) :
    Fallible.Steps R (requireActiveCredential credentialId) :=
  hR.steps_bind hR.steps_state fun _ => hR.steps_rejectIf _ _

/-! ### Transactions -/

theorem Frame.steps_failJob (jobId : TryOnJobId) (fence : ℕ) (code : TryOnFailureCodeV1)
    (nowMs : ℤ) : Fallible.Steps R (failJob jobId fence code nowMs) :=
  hR.steps_bind (hR.steps_updateAttempt _ _ _) fun _ => hR.steps_bind (hR.steps_updateJob _ _ _) fun _ =>
    hR.steps_advanceTryOnRevision

theorem Frame.steps_finalizePromotedOutput (jobId : TryOnJobId) (fence : ℕ)
    (intent : TryOnOutputIntent) (nowMs : ℤ) :
    Fallible.Steps R (finalizePromotedOutput jobId fence intent nowMs) :=
  hR.steps_bind hR.steps_state fun _ => hR.steps_bind (hR.steps_check _) fun _ =>
    hR.steps_bind (hR.steps_insertOutput _ _) fun _ => hR.steps_bind (hR.steps_updateAttempt _ _ _) fun _ =>
      hR.steps_bind (hR.steps_updateJob _ _ _) fun _ => hR.steps_advanceTryOnRevision

theorem Frame.steps_recoverJob (nowMs : ℤ) (entry : TryOnJobId × TryOnAttemptRow) :
    Fallible.Steps R (recoverJob services files nowMs entry) := by
  rw [recoverJob]
  split
  · exact hR.steps_updateJob _ _ _
  · exact hR.steps_failJob _ _ _ _
  · split
    · exact hR.steps_bind (hR.steps_recordBlob _ _) fun _ => hR.steps_finalizePromotedOutput _ _ _ _
    · exact hR.steps_failJob _ _ _ _
  · exact hR.steps_fail _
  · exact hR.steps_fail _

theorem Frame.steps_submitTryOn (request : SubmitTryOnV1Request) (nowMs : ℤ) :
    Fallible.Steps R (submitTryOn services request nowMs) := by
  refine hR.steps_atomically (hR.steps_bind (hR.steps_check _) fun _ => hR.steps_bind hR.steps_state fun t =>
    hR.steps_bind (hR.steps_check _) fun stored => ?_)
  split
  · exact hR.steps_pure _
  · refine hR.steps_bind hR.steps_state fun _ => hR.steps_bind (hR.steps_check _) fun approval =>
      hR.steps_bind (hR.steps_requireActiveCredential _) fun _ => hR.steps_bind (hR.steps_check _) fun createdAt =>
        hR.steps_bind (hR.steps_check _) fun _ => hR.steps_bind (hR.steps_consumeApproval _ _) fun _ => ?_
    exact hR.steps_bind (hR.steps_insertJob _ _) fun _ => hR.steps_bind (hR.steps_insertReceipt _ _) fun _ =>
      hR.steps_bind (hR.steps_update fun _ => hR.submissions _ _) fun _ => hR.steps_bind hR.steps_advanceTryOnRevision fun _ =>
        hR.steps_pure _

theorem Frame.steps_takeJob (owner : String) (nowMs leaseMs : ℤ)
    (entry : TryOnJobId × TryOnJobRow) : Fallible.Steps R (takeJob owner nowMs leaseMs entry) :=
  hR.steps_bind (hR.steps_check _) fun _ => hR.steps_bind (hR.steps_check _) fun _ =>
    hR.steps_bind (hR.steps_putJob _ _) fun _ => hR.steps_bind hR.steps_state fun _ =>
      hR.steps_bind (hR.steps_putAttempt _ _) fun _ => hR.steps_pure _

theorem Frame.steps_claimRound (owner : String) (nowMs leaseMs : ℤ) :
    Fallible.Steps R (claimRound services files owner nowMs leaseMs) := by
  refine hR.steps_atomically (hR.steps_bind hR.steps_state fun t => ?_)
  split
  · exact hR.steps_pure _
  · refine hR.steps_bind (hR.steps_takeJob _ _ _ _) fun fence =>
      hR.steps_bind hR.steps_state fun t => ?_
    split
    · exact hR.steps_pure _
    · exact hR.steps_bind (hR.steps_failJob _ _ _ _) fun _ => hR.steps_pure _

/-- **Every call but a preview** moves tables along a frame, however it ends. -/
theorem Frame.steps_operation {β : Type} (operation : TryOnOperation β)
    (h : operation.isPreview = false) : Fallible.Steps R (operation.run services files) := by
  cases operation with
  | preview => cases h
  | submit => exact hR.steps_submitTryOn _ _
  | recover => exact hR.steps_atomically (hR.steps_bind hR.steps_state fun _ =>
      hR.steps_bind (hR.steps_forEach (hR.steps_recoverJob _) _) fun _ => hR.steps_pure _)
  | claimRound => exact hR.steps_claimRound _ _ _
  | authorize =>
    exact hR.steps_bind (hR.steps_atomically (hR.steps_bind hR.steps_state fun _ =>
      hR.steps_bind (hR.steps_check _) fun _ => hR.steps_bind (hR.steps_updateAttempt _ _ _) fun _ =>
        hR.steps_pure _)) fun _ => hR.steps_check _
  | markStarted | clearStarted => exact hR.steps_atomically (hR.steps_updateAttempt _ _ _)
  | beginOutput =>
    exact hR.steps_bind (hR.steps_atomically (hR.steps_updateAttempt _ _ _)) fun _ => hR.steps_pure _
  | finalizeOutput =>
    exact hR.steps_atomically (hR.steps_bind (hR.steps_recordBlob _ _) fun _ =>
      hR.steps_finalizePromotedOutput _ _ _ _)
  | fail => exact hR.steps_atomically (hR.steps_failJob _ _ _ _)

end

structure PreviewFrame (R : TryOnTables → TryOnTables → Prop) : Prop extends Frame R where
  approvals : ∀ t approvalId row, t.approvals.find? approvalId = none →
    R t { t with approvals := t.approvals.put approvalId row }
  assets : ∀ t assets, R t { t with assets := assets }
  previews : ∀ t previews, R t { t with previews := previews }

theorem PreviewFrame.steps_insertApproval (hR : PreviewFrame R) (approvalId : TryOnApprovalId)
    (row : TryOnApprovalRow) : Fallible.Steps R (insertApproval approvalId row) := by
  intro t
  rw [insertApproval, state_bind, rejectIf, rejectIf]
  split
  · exact hR.refl t
  · split
    · exact hR.refl t
    · rename_i hnew
      exact hR.approvals t approvalId row (by simpa using hnew)

theorem PreviewFrame.steps_insertAsset (hR : PreviewFrame R) (approvalId : TryOnApprovalId)
    (asset : SnapshotAsset) : Fallible.Steps R (insertAsset approvalId asset) :=
  hR.steps_bind hR.steps_state fun _ => hR.steps_bind (hR.steps_rejectIf _ _) fun _ =>
    hR.steps_bind (hR.steps_rejectIf _ _) fun _ => hR.steps_bind (hR.steps_rejectIf _ _) fun _ =>
      hR.steps_bind (hR.steps_rejectIf _ _) fun _ => hR.steps_update fun _ => hR.assets _ _

theorem PreviewFrame.steps_previewTryOn (hR : PreviewFrame R) (request : PreviewTryOnV1Request)
    (nowMs : ℤ) : Fallible.Steps R (previewTryOn services files request nowMs) := by
  refine hR.steps_atomically (hR.steps_bind (hR.steps_check _) fun _ =>
    hR.steps_bind hR.steps_state fun t => hR.steps_bind (hR.steps_check _) fun stored => ?_)
  split
  · exact hR.steps_pure _
  · refine hR.steps_bind hR.steps_state fun _ => hR.steps_bind (hR.steps_rejectIf _ _) fun _ =>
      hR.steps_bind (hR.steps_requireActiveCredential _) fun _ =>
        hR.steps_bind (hR.steps_check _) fun preview => hR.steps_bind ?_ fun _ => hR.steps_pure _
    exact hR.steps_bind hR.steps_state fun _ =>
      hR.steps_bind (hR.steps_insertApproval _ _) fun _ =>
        hR.steps_bind (hR.steps_forEach (hR.steps_insertAsset _) _) fun _ =>
          hR.steps_bind (hR.steps_insertReceipt _ _) fun _ =>
            hR.steps_bind (hR.steps_update fun _ => hR.previews _ _) fun _ =>
              hR.steps_advanceTryOnRevision

/-- **Every call** moves tables along such a frame. -/
theorem PreviewFrame.steps_call (hR : PreviewFrame R) {β : Type} (operation : TryOnOperation β) :
    Fallible.Steps R (operation.run services files) := by
  cases hkind : operation.isPreview with
  | false => exact hR.steps_operation operation hkind
  | true =>
    cases operation with
    | preview request nowMs => exact hR.steps_previewTryOn request nowMs
    | _ => cases hkind

end Frame

theorem sameApprovals_frame : Frame SameApprovals where
  refl := .refl
  trans := .trans
  jobs _ _ := rfl
  attempts _ _ := rfl
  outputs _ _ := rfl
  submissions _ _ := rfl
  blobs _ _ := rfl
  receipts _ _ _ := rfl
  revision _ _ := rfl
  consumed t approvalId row requestId hrow := by
    have hsnapshot : ∀ id, ((t.approvals.put approvalId
        { row with consumedRequestId := some requestId }).find? id).map
          (·.assetSnapshotSha256) = (t.approvals.find? id).map (·.assetSnapshotSha256) := by
      intro id
      rw [find?_put]
      split
      · rename_i heq
        rw [heq, hrow]
        rfl
      · rfl
    exact congrArg (fun f => ApprovalView.mk f t.assets t.previews) (funext hsnapshot)

/-! ## A preview -/

def SnapshotAsset.slot (self : SnapshotAsset) : ℕ × TryOnAssetRow := (self.ordinal, self.row)

structure Previews (services : TryOnServices) (files : BlobFiles)
    (request : PreviewTryOnV1Request) (nowMs : ℤ) (t t' : TryOnTables) (preview : TryOnPreview) :
    Prop where
  described : describePreview services files t request nowMs = .ok preview
  new : t.approvals.find? ⟨request.requestId⟩ = none
  unused : t.receipts.find? request.requestId = none
  approvals : t'.approvals = t.approvals.put ⟨request.requestId⟩
    (approvalRow services request preview t.outfits.outfitRevision nowMs)
  assets : t'.assets = t.assets.putSlots ⟨request.requestId⟩ (preview.assets.map (·.slot))
  previews : t'.previews = t.previews.put request.requestId preview.response
  work : t'.jobs = t.jobs ∧ t'.attempts = t.attempts ∧ t'.outputs = t.outputs ∧
    t'.outfits.blobs = t.outfits.blobs

variable {asset : SnapshotAsset} {nowMs : ℤ} {request : PreviewTryOnV1Request}

theorem insertAsset_eq_ok {approvalId : TryOnApprovalId} {u : PUnit}
    (h : insertAsset approvalId asset t = (.ok u, t')) :
    t' = { t with assets := t.assets.put (approvalId, asset.ordinal) asset.row } := by
  rw [insertAsset, state_bind, rejectIf_bind_eq_ok, rejectIf_bind_eq_ok, rejectIf_bind_eq_ok,
    rejectIf_bind_eq_ok] at h
  exact (Prod.mk.inj h.2.2.2.2).2.symm

theorem insertAssets_eq_ok {approvalId : TryOnApprovalId} {assets : List SnapshotAsset}
    {us : List PUnit} (h : forEach (insertAsset approvalId) assets t = (.ok us, t')) :
    t' = { t with assets := t.assets.putSlots approvalId (assets.map (·.slot)) } := by
  induction assets generalizing t us with
  | nil =>
    cases h
    rfl
  | cons asset rest ih =>
    obtain ⟨u, t₁, vs, hfirst, hrest, -⟩ := forEach_cons_eq_ok.mp h
    rw [ih hrest, insertAsset_eq_ok hfirst]
    rfl

theorem advanceTryOnRevision_eq_ok {u : PUnit} :
    advanceTryOnRevision t = (.ok u, t') ↔ t.tryOnRevision + 1 ≤ Outfits.maxStoredRevision ∧
      { t with tryOnRevision := t.tryOnRevision + 1 } = t' := by
  rw [advanceTryOnRevision, state_bind, rejectIf_bind_eq_ok, not_lt, update_run, Prod.mk.injEq]
  simp

theorem replay_eq_none {β : Type} {answers : Table RequestId β} {command envelope : String}
    {requestId : RequestId} (h : replay t answers command requestId envelope = .ok none) :
    t.receipts.find? requestId = none := by
  rw [replay] at h
  cases hreceipt : t.receipts.find? requestId with
  | none => rfl
  | some row =>
    rw [hreceipt] at h
    dsimp only at h
    split at h
    · cases hanswer : answers.find? requestId <;> simp [hanswer] at h
    · cases h

theorem replay_eq_some {β : Type} {answers : Table RequestId β} {command envelope : String}
    {requestId : RequestId} {stored : β}
    (h : replay t answers command requestId envelope = .ok (some stored)) :
    answers.find? requestId = some stored := by
  rw [replay] at h
  cases hreceipt : t.receipts.find? requestId with
  | none => simp [hreceipt] at h
  | some row =>
    rw [hreceipt] at h
    dsimp only at h
    split at h
    · cases hanswer : answers.find? requestId with
      | none => simp [hanswer] at h
      | some answer =>
        rw [hanswer] at h
        exact Except.ok.inj h
    · cases h

/-- **A preview** is carried out, or answered from its receipt. -/
theorem previewTryOn_eq_ok {response : PreviewTryOnV1Response}
    (h : previewTryOn services files request nowMs t = (.ok response, t')) :
    (∃ preview, Previews services files request nowMs t t' preview ∧
      response = preview.response) ∨
    (∃ stored, t.previews.find? request.requestId = some stored ∧
      response = { stored with replayStatus := .replayed } ∧ t' = t) := by
  rw [previewTryOn, atomically_eq_ok, require_bind_eq_ok, state_bind,
    Fallible.check_bind_eq_ok] at h
  obtain ⟨-, stored | stored, hreplay, hrun⟩ := h
  · have hunused := replay_eq_none hreplay
    refine .inl ?_
    dsimp only at hrun
    rw [performPreview, state_bind, rejectIf_bind_eq_ok] at hrun
    obtain ⟨-, hrun⟩ := hrun
    obtain ⟨_, t₀, hcredential, hrun⟩ := bind_eq_ok.mp hrun
    rw [requireActiveCredential, state_bind, rejectIf_eq_ok] at hcredential
    obtain ⟨-, rfl⟩ := hcredential
    obtain ⟨preview, hdescribed, hrun⟩ := Fallible.check_bind_eq_ok.mp hrun
    obtain ⟨_, t₁, hstore, hdone⟩ := bind_eq_ok.mp hrun
    obtain ⟨hresponse, rfl⟩ := Prod.mk.inj hdone
    rw [storePreview, state_bind] at hstore
    obtain ⟨_, t₂, happroval, hstore⟩ := bind_eq_ok.mp hstore
    rw [insertApproval, state_bind, rejectIf_bind_eq_ok, rejectIf_bind_eq_ok] at happroval
    obtain ⟨-, hnew, hput⟩ := happroval
    obtain ⟨-, rfl⟩ := Prod.mk.inj hput
    obtain ⟨_, t₃, hassets, hstore⟩ := bind_eq_ok.mp hstore
    obtain rfl := insertAssets_eq_ok hassets
    obtain ⟨_, t₄, hreceipt, hstore⟩ := bind_eq_ok.mp hstore
    rw [insertReceipt, state_bind, rejectIf_bind_eq_ok] at hreceipt
    obtain ⟨-, hput⟩ := hreceipt
    obtain ⟨-, rfl⟩ := Prod.mk.inj hput
    rw [update_bind] at hstore
    obtain ⟨-, rfl⟩ := advanceTryOnRevision_eq_ok.mp hstore
    exact ⟨preview, ⟨hdescribed, by simpa using hnew, hunused, rfl, rfl, rfl, rfl, rfl, rfl, rfl⟩,
      (Except.ok.inj hresponse).symm⟩
  · obtain ⟨hresponse, rfl⟩ := Prod.mk.inj hrun
    exact .inr ⟨stored, replay_eq_some hreplay, (Except.ok.inj hresponse).symm, rfl⟩

/-! ## What a preview discloses -/

theorem describePreview_eq_ok {preview : TryOnPreview}
    (h : describePreview services files t request nowMs = .ok preview) :
    loadAssets services files t request = .ok preview.assets ∧
      preview.snapshot = snapshotHash services (preview.assets.map (·.approvalBinding)) ∧
      preview.assets.mapM (·.disclosure) = .ok preview.response.disclosure.assets ∧
      preview.response.validate = .ok () ∧
      preview.response.approval.approvalId = ⟨request.requestId⟩ ∧
      preview.response.approval.assetSnapshotSha256 = preview.snapshot ∧
      preview.response.replayStatus = .created := by
  rw [describePreview] at h
  cases houtfit : t.outfits.outfits.find? request.outfitId with
  | none => simp [houtfit] at h
  | some outfit =>
    simp only [houtfit] at h
    obtain ⟨assets, hassets, h⟩ := Threadbook.check_bind_eq_ok.mp h
    obtain ⟨-, h⟩ := rejectWhen_bind_eq_ok.mp h
    obtain ⟨disclosed, hdisclosed, h⟩ := Threadbook.check_bind_eq_ok.mp h
    obtain ⟨expiresAtMs, -, h⟩ := Threadbook.check_bind_eq_ok.mp h
    obtain ⟨expiresAt, -, h⟩ := Threadbook.check_bind_eq_ok.mp h
    obtain ⟨-, h⟩ := rejectWhen_bind_eq_ok.mp h
    rw [check_then_eq_ok, check_mapError_eq_ok] at h
    obtain ⟨hvalid, h⟩ := h
    cases h
    exact ⟨hassets, rfl, hdisclosed, hvalid, rfl, rfl, rfl⟩

theorem validateDisclosureAssets_eq_ok {index aggregate total : ℕ} {itemIds : List ItemId}
    {assets : List TryOnDisclosureAssetV1}
    (h : validateDisclosureAssets index itemIds aggregate assets = .ok total) :
    assets.map (·.ordinal) = range' index assets.length ∧
      ∀ asset ∈ assets, asset.ordinal = 0 ↔ asset.role = .portrait := by
  induction assets generalizing index itemIds aggregate with
  | nil => exact ⟨rfl, fun asset hasset => by cases hasset⟩
  | cons asset rest ih =>
    obtain ⟨-, h⟩ := check_then_eq_ok.mp h
    rw [rejectWhen_bind_eq_ok, rejectWhen_bind_eq_ok, not_or, not_not, not_not] at h
    obtain ⟨hown, -, h⟩ := h
    obtain ⟨hordinals, hroles⟩ := ih h
    refine ⟨?_, fun other hother => ?_⟩
    · rw [map_cons, hordinals, hown.1, length_cons, range'_succ]
    · obtain rfl | hother := mem_cons.mp hother
      · rw [hown.1]
        exact hown.2
      · exact hroles other hother

theorem disclosure_assets {response : PreviewTryOnV1Response} (h : response.validate = .ok ()) :
    tryOnMinGarments + 1 ≤ response.disclosure.assets.length ∧
      response.disclosure.assets.length ≤ tryOnMaxGarments + 1 ∧
      ∃ total, validateDisclosureAssets 0 [] 0 response.disclosure.assets = .ok total := by
  rw [PreviewTryOnV1Response.validate, check_then_eq_ok, check_then_eq_ok] at h
  obtain ⟨-, hdisclosure, -⟩ := h
  rw [TryOnDisclosureV1.validate, check_then_eq_ok, check_unless_eq_ok] at hdisclosure
  obtain ⟨-, hconstants, hassets⟩ := hdisclosure
  simp only [not_or, not_not] at hconstants
  obtain ⟨total, hassets, -⟩ := Threadbook.check_bind_eq_ok.mp hassets
  exact ⟨hconstants.2.2.2.2.1, hconstants.2.2.2.2.2, total, hassets⟩

theorem disclosure_ordinals {response : PreviewTryOnV1Response}
    (h : response.validate = .ok ()) :
    tryOnMinGarments + 1 ≤ response.disclosure.assets.length ∧
      response.disclosure.assets.length ≤ tryOnMaxGarments + 1 ∧
      response.disclosure.assets.map (·.ordinal) =
        range response.disclosure.assets.length ∧
      ∀ asset ∈ response.disclosure.assets, asset.ordinal = 0 ↔ asset.role = .portrait := by
  obtain ⟨hmin, hmax, total, hassets⟩ := disclosure_assets h
  obtain ⟨hordinals, hroles⟩ := validateDisclosureAssets_eq_ok hassets
  refine ⟨hmin, hmax, ?_, hroles⟩
  rw [hordinals, range_eq_range']

theorem disclosure_eq_ok {shown : TryOnDisclosureAssetV1} (h : asset.disclosure = .ok shown) :
    shown.ordinal = asset.ordinal ∧ shown.role = asset.role ∧
      shown.canonicalSha256 = asset.canonicalSha256 ∧
      shown.byteLength = asset.canonicalByteLength := by
  rw [SnapshotAsset.disclosure, check_when_eq_ok] at h
  obtain ⟨-, rfl⟩ := h
  exact ⟨rfl, rfl, rfl, rfl⟩

/-! ## What an approval binds -/

structure Bound (services : TryOnServices) (t : TryOnTables) (approvalId : TryOnApprovalId)
    (assets : List SnapshotAsset) (response : PreviewTryOnV1Response) : Prop where
  snapshot : t.approvalView.snapshot approvalId =
    some (snapshotHash services (assets.map (·.approvalBinding)))
  rows : assetRows t approvalId = assets.map (·.slot)
  answer : t.previews.find? approvalId.previewRequestId = some response
  disclosed : List.Forall₂ (fun asset shown => asset.disclosure = .ok shown) assets
    response.disclosure.assets
  valid : response.validate = .ok ()
  approvalId : response.approval.approvalId = approvalId
  hash : response.approval.assetSnapshotSha256 =
    snapshotHash services (assets.map (·.approvalBinding))

/-- Every approval binds images, and every image and every answer is an approval's. -/
structure AllBound (services : TryOnServices) (t : TryOnTables) : Prop where
  bound : ∀ approvalId, (t.approvalView.snapshot approvalId).isSome →
    ∃ assets response, Bound services t approvalId assets response
  owned : ∀ key row, t.assets.find? key = some row →
    (t.approvalView.snapshot key.1).isSome
  answered : ∀ requestId response, t.previews.find? requestId = some response →
    (t.approvalView.snapshot ⟨requestId⟩).isSome

variable {approvalId : TryOnApprovalId} {assets : List SnapshotAsset}
  {response : PreviewTryOnV1Response}

theorem Bound.same (h : Bound services t approvalId assets response) (hsame : SameApprovals t t') :
    Bound services t' approvalId assets response where
  snapshot := (congrFun (congrArg ApprovalView.snapshot hsame) approvalId).trans h.snapshot
  rows := by
    have hassets : t'.assets = t.assets := congrArg ApprovalView.assets hsame
    rw [assetRows, hassets]
    exact h.rows
  answer := by
    have hpreviews : t'.previews = t.previews := congrArg ApprovalView.previews hsame
    rw [hpreviews]
    exact h.answer
  disclosed := h.disclosed
  valid := h.valid
  approvalId := h.approvalId
  hash := h.hash

section Previewed

variable {request : PreviewTryOnV1Request} {nowMs : ℤ} {preview : TryOnPreview}

theorem Previews.snapshot (h : Previews services files request nowMs t t' preview)
    (other : TryOnApprovalId) : t'.approvalView.snapshot other =
      if other = ⟨request.requestId⟩ then some preview.snapshot
      else t.approvalView.snapshot other := by
  change (t'.approvals.find? other).map _ = _
  rw [h.approvals, find?_put]
  split
  · rfl
  · rfl

/-- **A preview** keeps what other approvals bind. -/
theorem Bound.previewed (h : Bound services t approvalId assets response)
    (hpreview : Previews services files request nowMs t t' preview) :
    Bound services t' approvalId assets response := by
  have hother : approvalId ≠ ⟨request.requestId⟩ := by
    rintro rfl
    have hsnapshot := h.snapshot
    simp only [TryOnTables.approvalView, hpreview.new, Option.map_none] at hsnapshot
    cases hsnapshot
  refine ⟨?_, ?_, ?_, h.disclosed, h.valid, h.approvalId, h.hash⟩
  · rw [hpreview.snapshot, if_neg hother, h.snapshot]
  · rw [assetRows, hpreview.assets, slots_putSlots_of_ne hother]
    exact h.rows
  · rw [hpreview.previews, find?_put, if_neg, h.answer]
    intro heq
    exact hother (congrArg TryOnApprovalId.mk heq)

/-- **A preview** binds what it discloses. -/
theorem Previews.bound (h : Previews services files request nowMs t t' preview)
    (hall : AllBound services t) :
    Bound services t' ⟨request.requestId⟩ preview.assets preview.response := by
  obtain ⟨-, hsnapshot, hdisclosed, hvalid, hid, hhash, -⟩ := describePreview_eq_ok h.described
  have hshown := check_mapM_eq_ok.mp hdisclosed
  obtain ⟨-, hmax, hordinals, -⟩ := disclosure_ordinals hvalid
  have hlength : preview.assets.length = preview.response.disclosure.assets.length :=
    hshown.length_eq
  have hsame : preview.response.disclosure.assets.map (·.ordinal) =
      preview.assets.map (·.ordinal) :=
    Outfits.map_eq_of_forall₂ (fun _ _ h => (disclosure_eq_ok h).1) hshown
  have hslots : (preview.assets.map (·.slot)).map Prod.fst = range preview.assets.length := by
    rw [map_map, hlength, ← hordinals, hsame]
    rfl
  have hnew : ∀ ordinal, t.assets.find? (⟨request.requestId⟩, ordinal) = none := by
    intro ordinal
    by_contra hsome
    obtain ⟨row, hrow⟩ := Option.ne_none_iff_exists'.mp hsome
    have howned := hall.owned _ row hrow
    simp only [TryOnTables.approvalView, h.new, Option.map_none] at howned
    cases howned
  refine ⟨?_, ?_, ?_, hshown, hvalid, hid, hhash.trans hsnapshot⟩
  · rw [h.snapshot, if_pos rfl, hsnapshot]
  · rw [assetRows, h.assets, slots_putSlots _ _ hnew]
    · rw [length_map, hslots]
    · rw [length_map, hlength]
      exact hmax
  · rw [h.previews, find?_put, if_pos rfl]

theorem AllBound.same (h : AllBound services t) (hsame : SameApprovals t t') :
    AllBound services t' where
  bound approvalId hsome := by
    rw [show t'.approvalView = t.approvalView from hsame] at hsome
    obtain ⟨assets, response, hbound⟩ := h.bound approvalId hsome
    exact ⟨assets, response, hbound.same hsame⟩
  owned key row hrow := by
    rw [show t'.approvalView = t.approvalView from hsame]
    have hassets : t'.assets = t.assets := congrArg ApprovalView.assets hsame
    exact h.owned key row (hassets ▸ hrow)
  answered requestId response hanswer := by
    rw [show t'.approvalView = t.approvalView from hsame]
    have hpreviews : t'.previews = t.previews := congrArg ApprovalView.previews hsame
    exact h.answered requestId response (hpreviews ▸ hanswer)

theorem AllBound.previewed (h : AllBound services t)
    (hpreview : Previews services files request nowMs t t' preview) : AllBound services t' where
  bound approvalId hsome := by
    rw [hpreview.snapshot] at hsome
    by_cases heq : approvalId = ⟨request.requestId⟩
    · exact ⟨_, _, heq ▸ hpreview.bound h⟩
    · rw [if_neg heq] at hsome
      obtain ⟨assets, response, hbound⟩ := h.bound approvalId hsome
      exact ⟨assets, response, hbound.previewed hpreview⟩
  owned key row hrow := by
    rw [hpreview.snapshot]
    split
    · rfl
    · rename_i hne
      rw [hpreview.assets, find?_putSlots_of_not_mem fun heq => absurd heq hne] at hrow
      exact h.owned key row hrow
  answered requestId response hanswer := by
    rw [hpreview.snapshot]
    split
    · rfl
    · rename_i hne
      rw [hpreview.previews, find?_put, if_neg fun heq => hne (by rw [heq])] at hanswer
      exact h.answered requestId response hanswer

end Previewed

/-! ## What is handed to the transport -/

/-- An image that is sent is the one that was disclosed. -/
structure Sends (services : TryOnServices) (shown : TryOnDisclosureAssetV1)
    (prepared : PreparedTryOnAsset) : Prop where
  ordinal : prepared.ordinal = shown.ordinal
  role : prepared.role = shown.role
  canonicalSha256 : prepared.canonicalSha256 = shown.canonicalSha256
  digest : services.digest prepared.pngBytes = shown.canonicalSha256
  byteLength : prepared.pngBytes.length = shown.byteLength

def transportImages (assets : List PreparedTryOnAsset) :
    Except PlatformError (List UInt8 × List (List UInt8)) :=
  match assets with
  | [] => .error (.corrupt "try_on_portrait_order")
  | portrait :: rest => do
    rejectWhen (.corrupt "try_on_portrait_order")
      (¬ (portrait.ordinal = 0 ∧ portrait.role = .portrait))
    let garments ← rest.mapM fun asset =>
      if asset.role ≠ .garment then .error (.corrupt "try_on_garment_order")
      else .ok asset.pngBytes
    .ok (portrait.pngBytes, garments)

theorem prepareAsset_slot {prepared : PreparedTryOnAsset} :
    prepareAsset services files asset.slot = .ok prepared ↔
      ∃ canonical, canonicalTryOnPng services.toImageServices files asset.parentBlobSha256
          asset.parentByteLength = .ok canonical ∧
        (canonical.sha256 = asset.canonicalSha256 ∧
          canonical.bytes.length = asset.canonicalByteLength ∧
          canonical.width = asset.canonicalWidth ∧ canonical.height = asset.canonicalHeight) ∧
        prepared = ⟨asset.ordinal, asset.role, canonical.bytes, canonical.sha256⟩ := by
  rw [prepareAsset, Threadbook.check_bind_eq_ok]
  refine exists_congr fun canonical => and_congr_right fun _ => ?_
  rw [rejectWhen_bind_eq_ok, Threadbook.check_bind_eq_ok]
  simp only [SnapshotAsset.slot, SnapshotAsset.row, parseRole_roleDb, not_or, not_not, ne_eq,
    Except.ok.injEq, exists_eq_left']
  exact and_congr_right fun _ => eq_comm

section

variable (h : Bound services t approvalId assets response)

include h

theorem Bound.bindings :
    loadApprovalAssetBindings t approvalId = .ok (assets.map (·.approvalBinding)) := by
  rw [loadApprovalAssetBindings, h.rows, check_mapM_eq_ok, forall₂_map_left_iff,
    forall₂_map_right_iff]
  exact forall₂_same.mpr fun asset _ => binding_row asset

/-- **The images of an approval** are prepared exactly when each is still the one that was
previewed: the two computations of the hash agree. -/
theorem Bound.prepareAssets_eq_ok {prepared : List PreparedTryOnAsset} :
    prepareAssets services files t approvalId = .ok prepared ↔
      List.Forall₂ (fun asset image => prepareAsset services files asset.slot = .ok image) assets
        prepared := by
  obtain ⟨row, hrow, hhash⟩ := Option.map_eq_some_iff.mp h.snapshot
  rw [prepareAssets, hrow]
  dsimp only
  rw [h.bindings, Threadbook.check_bind_eq_ok]
  simp only [Except.ok.injEq, exists_eq_left', rejectWhen_bind_eq_ok, hhash, not_true_eq_false,
    not_false_eq_true, true_and, ne_eq]
  rw [h.rows, check_mapM_eq_ok, forall₂_map_left_iff]

/-- **What a worker is given** are the images that were disclosed, in their order. -/
theorem Bound.prepared {prepared : List PreparedTryOnAsset}
    (hprepared : prepareAssets services files t approvalId = .ok prepared) :
    List.Forall₂ (Sends services) response.disclosure.assets prepared := by
  have hassets := h.prepareAssets_eq_ok.mp hprepared
  have hshown := h.disclosed
  generalize response.disclosure.assets = disclosed at hshown
  clear h hprepared
  induction hassets generalizing disclosed with
  | nil =>
    cases hshown
    exact .nil
  | cons hfirst _ ih =>
    cases hshown with
    | cons hdisclosed hrest =>
      refine .cons ?_ (ih _ hrest)
      obtain ⟨hordinal, hrole, hsha, hlength⟩ := disclosure_eq_ok hdisclosed
      obtain ⟨canonical, hcanonical, hsame, rfl⟩ := prepareAsset_slot.mp hfirst
      obtain ⟨hdigest, -⟩ := canonicalTryOnPng_bounds hcanonical
      exact ⟨hordinal.symm, hrole.symm, hsame.1.trans hsha.symm,
        (hdigest.symm.trans hsame.1).trans hsha.symm, hsame.2.1.trans hlength.symm⟩

end

/-- **The worker's own checks** pass: what it hands over are the bytes of all its images. -/
theorem transportImages_of_sends {response : PreviewTryOnV1Response}
    {prepared : List PreparedTryOnAsset} (hvalid : response.validate = .ok ())
    (h : List.Forall₂ (Sends services) response.disclosure.assets prepared) :
    ∃ images, transportImages prepared = .ok images ∧
      images.1 :: images.2 = prepared.map (·.pngBytes) := by
  obtain ⟨hmin, -, hordinals, hroles⟩ := disclosure_ordinals hvalid
  generalize response.disclosure.assets = disclosed at h hmin hordinals hroles
  cases h with
  | nil => simp at hmin
  | @cons shown portrait rest prepared hfirst hrest =>
    have hzero : shown.ordinal = 0 ∧ rest.map (·.ordinal) = range' 1 rest.length := by
      rw [map_cons, range_eq_range', length_cons, range'_succ,
        cons.injEq] at hordinals
      exact hordinals
    have hgarments : prepared.mapM (fun asset =>
        if asset.role ≠ .garment then Except.error (PlatformError.corrupt "try_on_garment_order")
        else .ok asset.pngBytes) = .ok (prepared.map (·.pngBytes)) := by
      rw [check_mapM_eq_ok, forall₂_map_right_iff, forall₂_same]
      intro asset hasset
      obtain ⟨other, hother, hsends⟩ := exists_of_forall₂ hrest asset hasset
      -- a disclosed image behind the first place is a garment
      have hplace : other.ordinal ∈ range' 1 rest.length :=
        hzero.2 ▸ mem_map_of_mem hother
      have hrole := hroles other (.tail _ hother)
      have hgarment : asset.role = .garment := by
        rw [hsends.role]
        cases hcase : other.role with
        | garment => rfl
        | portrait =>
          rw [mem_range'_1, hrole.mpr hcase] at hplace
          omega
      rw [if_neg (not_not.mpr hgarment)]
    refine ⟨(portrait.pngBytes, prepared.map (·.pngBytes)), ?_, rfl⟩
    rw [transportImages, rejectWhen_bind_eq_ok, not_not, hgarments]
    refine ⟨⟨hfirst.ordinal.trans hzero.1, hfirst.role.trans ?_⟩, rfl⟩
    exact (hroles shown (.head _)).mp hzero.1

theorem canonicalTryOnPng_congr {files' : BlobFiles} {sha256 : String} {length : ℕ}
    (h : files' sha256 = files sha256) :
    canonicalTryOnPng services.toImageServices files' sha256 length =
      canonicalTryOnPng services.toImageServices files sha256 length := by
  simp only [canonicalTryOnPng, verifySourceImage, sourceBytes, verifyBlob, h]

/-! ## Claims -/

theorem claimRound_eq_ok {owner : String} {leaseMs : ℤ} {round : ClaimRound}
    (h : claimRound services files owner nowMs leaseMs t = (.ok round, t')) :
    (nextQueued services t nowMs = none ∧ round = .idle ∧ t' = t) ∨
    ∃ entry fence t₁, nextQueued services t nowMs = some entry ∧
      takeJob owner nowMs leaseMs entry t = (.ok fence, t₁) ∧
      ((∃ assets, prepareAssets services files t₁ entry.2.approvalId = .ok assets ∧
          round = .claimed ⟨entry.1, fence, assets⟩ ∧ t' = t₁) ∨
        ∃ e, prepareAssets services files t₁ entry.2.approvalId = .error e ∧
          round = .again ∧
          ∃ u, failJob entry.1 fence (assetFailureCode e) nowMs t₁ = (.ok u, t')) := by
  rw [claimRound, atomically_eq_ok, state_bind] at h
  cases hnext : nextQueued services t nowMs with
  | none =>
    rw [hnext] at h
    obtain ⟨hround, rfl⟩ := Prod.mk.inj h
    exact .inl ⟨rfl, (Except.ok.inj hround).symm, rfl⟩
  | some entry =>
    rw [hnext] at h
    obtain ⟨fence, t₁, htake, h⟩ := bind_eq_ok.mp h
    refine .inr ⟨entry, fence, t₁, rfl, htake, ?_⟩
    rw [state_bind] at h
    cases hprepared : prepareAssets services files t₁ entry.2.approvalId with
    | ok assets =>
      rw [hprepared] at h
      obtain ⟨hround, rfl⟩ := Prod.mk.inj h
      exact .inl ⟨assets, rfl, (Except.ok.inj hround).symm, rfl⟩
    | error e =>
      rw [hprepared] at h
      obtain ⟨u, t₂, hfail, hdone⟩ := bind_eq_ok.mp h
      obtain ⟨hround, rfl⟩ := Prod.mk.inj hdone
      exact .inr ⟨e, rfl, (Except.ok.inj hround).symm, u, hfail⟩

def TryOnJobRow.taken (self : TryOnJobRow) (owner : String) (leaseExpiresAtMs nowMs : ℤ) :
    TryOnJobRow :=
  { self with
    state := .running, attemptCount := 1, fence := self.fence + 1, leaseOwner := some owner
    leaseExpiresAtMs := some leaseExpiresAtMs, updatedAtMs := nowMs }

theorem takeJob_eq_ok {owner : String} {leaseMs : ℤ} {entry : TryOnJobId × TryOnJobRow} {fence : ℕ}
    (h : takeJob owner nowMs leaseMs entry t = (.ok fence, t')) :
    fence = entry.2.fence + 1 ∧ ∃ leaseExpiresAtMs attempt,
      t' = { t with
        jobs := t.jobs.put entry.1 (entry.2.taken owner leaseExpiresAtMs nowMs)
        attempts := t.attempts.put ⟨entry.1⟩ attempt } ∧
      (entry.2.taken owner leaseExpiresAtMs nowMs).allowed ∧ attempt.allowed ∧
      attempt = preparedAttempt (t.attempts.find? ⟨entry.1⟩) fence nowMs := by
  rw [takeJob, Fallible.check_bind_eq_ok] at h
  obtain ⟨next, hnext, h⟩ := h
  obtain ⟨leaseExpires, -, h⟩ := Fallible.check_bind_eq_ok.mp h
  rw [checkedAdd, check_when_eq_ok] at hnext
  obtain ⟨-, rfl⟩ := hnext
  have hnext : (entry.2.fence + 1 : ℤ).toNat = entry.2.fence + 1 := by omega
  rw [hnext] at h
  obtain ⟨_, t₁, hjob, h⟩ := bind_eq_ok.mp h
  rw [putJob, rejectIf_bind_eq_ok] at hjob
  obtain ⟨hallowed, hjob⟩ := hjob
  obtain ⟨-, rfl⟩ := Prod.mk.inj hjob
  rw [state_bind] at h
  obtain ⟨_, t₂, hattempt, h⟩ := bind_eq_ok.mp h
  rw [putAttempt, rejectIf_bind_eq_ok] at hattempt
  obtain ⟨hfits, hattempt⟩ := hattempt
  obtain ⟨-, rfl⟩ := Prod.mk.inj hattempt
  obtain ⟨hfence, rfl⟩ := Prod.mk.inj h
  obtain rfl := Except.ok.inj hfence
  exact ⟨rfl, leaseExpires, _, rfl, by simpa [TryOnJobRow.taken] using hallowed,
    by simpa using hfits, rfl⟩

/-! ## Runs -/

structure TryOnStore where
  tables : TryOnTables
  files : BlobFiles

/-- A call of the repository, or an edit of anything but approvals and their images: outfits,
items, portraits, credentials, blobs and their files. -/
inductive TryOnChange (services : TryOnServices) (s : TryOnStore) : TryOnStore → Prop
  | operation {β : Type} (operation : TryOnOperation β) (result : Except PlatformError β)
      (tables : TryOnTables) (run : operation.run services s.files s.tables = (result, tables)) :
      TryOnChange services s ⟨tables, s.files⟩
  | edited (s' : TryOnStore) (same : SameApprovals s.tables s'.tables) : TryOnChange services s s'

/-- Any number of calls and edits in any order. -/
abbrev TryOnChanges (services : TryOnServices) : TryOnStore → TryOnStore → Prop :=
  Relation.ReflTransGen (TryOnChange services)

structure TryOnStore.Fresh (s : TryOnStore) : Prop where
  approvals : ∀ approvalId, s.tables.approvals.find? approvalId = none
  assets : ∀ key, s.tables.assets.find? key = none
  previews : ∀ requestId, s.tables.previews.find? requestId = none

theorem TryOnStore.Fresh.allBound {s : TryOnStore} (h : s.Fresh) : AllBound services s.tables where
  bound approvalId hsome := by
    simp only [TryOnTables.approvalView, h.approvals, Option.map_none] at hsome
    cases hsome
  owned key row hrow := by
    rw [h.assets] at hrow
    cases hrow
  answered requestId response hanswer := by
    rw [h.previews] at hanswer
    cases hanswer

theorem operation_cases {β : Type} {operation : TryOnOperation β}
    {result : Except PlatformError β}
    (h : operation.run services files t = (result, t')) :
    SameApprovals t t' ∨
      ∃ request nowMs preview, Previews services files request nowMs t t' preview := by
  cases hkind : operation.isPreview with
  | false =>
    have hsteps : Fallible.Steps SameApprovals (operation.run services files) :=
      sameApprovals_frame.steps_operation operation hkind
    have hsame := hsteps t
    rw [h] at hsame
    exact .inl hsame
  | true =>
    cases operation with
    | preview request nowMs =>
      cases result with
      | error e =>
        obtain rfl : t' = t := atomically_of_error h
        exact .inl (.refl t')
      | ok response =>
        obtain ⟨preview, hpreview, -⟩ | ⟨stored, -, -, rfl⟩ := previewTryOn_eq_ok h
        · exact .inr ⟨request, nowMs, preview, hpreview⟩
        · exact .inl (.refl t')
    | _ => cases hkind

section Runs

variable {s u : TryOnStore} {approvalId : TryOnApprovalId} {assets : List SnapshotAsset}
  {response : PreviewTryOnV1Response}

theorem TryOnChange.allBound (h : TryOnChange services s u) (hall : AllBound services s.tables) :
    AllBound services u.tables := by
  cases h with
  | operation operation result tables run =>
    obtain hsame | ⟨request, nowMs, preview, hpreview⟩ := operation_cases run
    · exact hall.same hsame
    · exact hall.previewed hpreview
  | edited _ same => exact hall.same same

theorem TryOnChanges.allBound (h : TryOnChanges services s u)
    (hall : AllBound services s.tables) : AllBound services u.tables := by
  induction h with
  | refl => exact hall
  | tail _ hstep ih => exact hstep.allBound ih

/-- **Whatever happens around it**, an approval binds what it bound. -/
theorem Bound.keep (h : Bound services s.tables approvalId assets response)
    (hsteps : TryOnChanges services s u) :
    Bound services u.tables approvalId assets response := by
  induction hsteps with
  | refl => exact h
  | tail _ hstep ih =>
    cases hstep with
    | operation operation result tables run =>
      obtain hsame | ⟨request, nowMs, preview, hpreview⟩ := operation_cases run
      · exact ih.same hsame
      · exact ih.previewed hpreview
    | edited _ same => exact ih.same same

end Runs

theorem Bound.prepares {files' : BlobFiles} {approvalId : TryOnApprovalId}
    {assets : List SnapshotAsset} {response : PreviewTryOnV1Response}
    (h : Bound services t approvalId assets response)
    (hmade : ∀ asset ∈ assets, ∃ canonical, canonicalTryOnPng services.toImageServices files
      asset.parentBlobSha256 asset.parentByteLength = .ok canonical ∧
        canonical.sha256 = asset.canonicalSha256 ∧
        canonical.bytes.length = asset.canonicalByteLength ∧
        canonical.width = asset.canonicalWidth ∧ canonical.height = asset.canonicalHeight)
    (hfiles : ∀ asset ∈ assets, files' asset.parentBlobSha256 = files asset.parentBlobSha256) :
    ∃ prepared, prepareAssets services files' t approvalId = .ok prepared := by
  have htotal : ∃ prepared, assets.mapM (fun asset => prepareAsset services files' asset.slot) =
      .ok prepared := by
    refine check_mapM_total.mpr fun asset hasset => ?_
    obtain ⟨canonical, hcanonical, hsame⟩ := hmade asset hasset
    rw [← canonicalTryOnPng_congr (hfiles asset hasset)] at hcanonical
    exact ⟨_, prepareAsset_slot.mpr ⟨canonical, hcanonical, hsame, rfl⟩⟩
  obtain ⟨prepared, hprepared⟩ := htotal
  exact ⟨prepared, h.prepareAssets_eq_ok.mpr (check_mapM_eq_ok.mp hprepared)⟩

theorem snapshotAsset_eq_ok {parent : ParentAsset}
    (h : snapshotAsset services files parent = .ok asset) :
    ∃ canonical, canonicalTryOnPng services.toImageServices files asset.parentBlobSha256
        asset.parentByteLength = .ok canonical ∧
      canonical.sha256 = asset.canonicalSha256 ∧
      canonical.bytes.length = asset.canonicalByteLength ∧
      canonical.width = asset.canonicalWidth ∧ canonical.height = asset.canonicalHeight := by
  obtain ⟨canonical, hcanonical, hasset⟩ := Threadbook.check_bind_eq_ok.mp h
  cases hasset
  exact ⟨canonical, hcanonical, rfl, rfl, rfl, rfl⟩

theorem loadAssets_made {assets : List SnapshotAsset}
    (h : loadAssets services files t request = .ok assets) :
    ∀ asset ∈ assets, ∃ canonical, canonicalTryOnPng services.toImageServices files
      asset.parentBlobSha256 asset.parentByteLength = .ok canonical ∧
        canonical.sha256 = asset.canonicalSha256 ∧
        canonical.bytes.length = asset.canonicalByteLength ∧
        canonical.width = asset.canonicalWidth ∧ canonical.height = asset.canonicalHeight := by
  obtain ⟨portrait, hportrait, h⟩ := Threadbook.check_bind_eq_ok.mp h
  obtain ⟨garments, hgarments, h⟩ := Threadbook.check_bind_eq_ok.mp h
  cases h
  obtain ⟨parent, -, hportrait⟩ := Threadbook.check_bind_eq_ok.mp hportrait
  obtain ⟨parents, -, hgarments⟩ := Threadbook.check_bind_eq_ok.mp hgarments
  rw [rejectWhen_bind_eq_ok, check_mapM_eq_ok] at hgarments
  intro asset hasset
  obtain rfl | hasset := mem_cons.mp hasset
  · exact snapshotAsset_eq_ok hportrait
  · obtain ⟨parent, -, hgarment⟩ := exists_of_forall₂ hgarments.2 asset hasset
    exact snapshotAsset_eq_ok hgarment

/-- **What is sent is what was approved.** A preview that succeeds hashes what it binds of its
images. From then on, whatever calls and edits come in between, the rows of the approval load as
exactly that; what a claim of a job under the approval hands to the transport are the images the
preview disclosed, in the same order; and as long as their blobs are as they were, no claim
refuses them. -/
theorem try_on_sends_what_was_approved {s₀ s : TryOnStore} (hfresh : s₀.Fresh)
    (hreached : TryOnChanges services s₀ s) {request : PreviewTryOnV1Request} {nowMs : ℤ}
    {response : PreviewTryOnV1Response}
    (hpreview : previewTryOn services s.files request nowMs s.tables = (.ok response, t')) :
    ∃ bindings, response.approval.assetSnapshotSha256 = snapshotHash services bindings ∧
      (response.replayStatus = .created → ∃ assets,
        loadAssets services s.files s.tables request = .ok assets ∧
          assets.map (·.approvalBinding) = bindings) ∧
      ∀ u, TryOnChanges services ⟨t', s.files⟩ u →
        loadApprovalAssetBindings u.tables response.approval.approvalId = .ok bindings ∧
        (∀ owner nowMs leaseMs claim u', claimRound services u.files owner nowMs leaseMs u.tables =
            (.ok (.claimed claim), u') →
          (∃ job, u'.jobs.find? claim.jobId = some job ∧
            job.approvalId = response.approval.approvalId) →
          List.Forall₂ (Sends services) response.disclosure.assets claim.assets ∧
            ∃ images, transportImages claim.assets = .ok images ∧
              images.1 :: images.2 = claim.assets.map (·.pngBytes)) ∧
        (response.replayStatus = .created →
          (∀ entry ∈ assetRows t' response.approval.approvalId,
            u.files entry.2.parentBlobSha256 = s.files entry.2.parentBlobSha256) →
          ∀ owner nowMs leaseMs round u', claimRound services u.files owner nowMs leaseMs u.tables =
              (.ok round, u') →
            ∀ entry, nextQueued services u.tables nowMs = some entry →
              entry.2.approvalId = response.approval.approvalId →
              ∃ claim, round = .claimed claim) := by
  have hall : AllBound services s.tables := hreached.allBound hfresh.allBound
  -- what the preview bound, and whether it was carried out now
  obtain ⟨assets, stored, hbound, hdisclosure, happroval, hcreated⟩ : ∃ assets stored,
      Bound services t' response.approval.approvalId assets stored ∧
      response.disclosure = stored.disclosure ∧ response.approval = stored.approval ∧
      (response.replayStatus = .created →
        loadAssets services s.files s.tables request = .ok assets) := by
    obtain ⟨preview, hnow, rfl⟩ | ⟨stored, hstored, rfl, rfl⟩ := previewTryOn_eq_ok hpreview
    · obtain ⟨hassets, -, -, -, hid, -, -⟩ := describePreview_eq_ok hnow.described
      exact ⟨preview.assets, preview.response, hid ▸ hnow.bound hall, rfl, rfl, fun _ => hassets⟩
    · obtain ⟨assets, answer, hbound⟩ := hall.bound _ (hall.answered _ _ hstored)
      obtain rfl : stored = answer := Option.some.inj (hstored.symm.trans hbound.answer)
      exact ⟨assets, stored, hbound.approvalId ▸ hbound, rfl, rfl, fun h => by cases h⟩
  have hhash : response.approval.assetSnapshotSha256 =
      snapshotHash services (assets.map (·.approvalBinding)) := by
    rw [happroval]
    exact hbound.hash
  refine ⟨assets.map (·.approvalBinding), hhash, fun h => ⟨assets, hcreated h, rfl⟩,
    fun u hsteps => ?_⟩
  have hkept : Bound services u.tables response.approval.approvalId assets stored :=
    Bound.keep hbound hsteps
  refine ⟨hkept.bindings, fun owner nowMs leaseMs claim u' hround hjob => ?_,
    fun hnow hfiles owner nowMs leaseMs round u' hround entry hnext hid => ?_⟩
  · obtain ⟨-, hidle, -⟩ | ⟨entry, fence, t₁, hnext, htake, hend⟩ := claimRound_eq_ok hround
    · cases hidle
    · obtain ⟨prepared, hprepared, hclaim, rfl⟩ | ⟨e, -, hagain, -⟩ := hend
      · obtain rfl := ClaimRound.claimed.inj hclaim
        have htaken : Bound services u' response.approval.approvalId assets stored := by
          have hsame := sameApprovals_frame.steps_takeJob owner nowMs leaseMs entry u.tables
          rw [htake] at hsame
          exact hkept.same hsame
        obtain ⟨-, leaseExpiresAtMs, attempt, rfl, -, -, -⟩ := takeJob_eq_ok htake
        obtain ⟨found, hfound, hfoundId⟩ := hjob
        rw [Table.find?_put, if_pos rfl] at hfound
        obtain rfl := Option.some.inj hfound
        have happroval : entry.2.approvalId = response.approval.approvalId := hfoundId
        rw [happroval] at hprepared
        have hsends := htaken.prepared hprepared
        rw [hdisclosure]
        exact ⟨hsends, transportImages_of_sends hbound.valid hsends⟩
      · cases hagain
  · obtain ⟨hnone, -⟩ | ⟨entry', fence, t₁, hnext', htake, hend⟩ := claimRound_eq_ok hround
    · rw [hnone] at hnext
      cases hnext
    · obtain rfl : entry' = entry := Option.some.inj (hnext'.symm.trans hnext)
      have htaken : Bound services t₁ response.approval.approvalId assets stored := by
        have hsame := sameApprovals_frame.steps_takeJob owner nowMs leaseMs entry' u.tables
        rw [htake] at hsame
        exact hkept.same hsame
      have hblobs : ∀ asset ∈ assets, u.files asset.parentBlobSha256 =
          s.files asset.parentBlobSha256 := by
        intro asset hasset
        refine hfiles asset.slot ?_
        rw [hbound.rows]
        exact List.mem_map_of_mem hasset
      obtain ⟨prepared, hprepared⟩ := htaken.prepares (loadAssets_made (hcreated hnow)) hblobs
      rw [← hid] at hprepared
      obtain ⟨images, -, hround, -⟩ | ⟨e, herror, -⟩ := hend
      · exact ⟨_, hround⟩
      · rw [hprepared] at herror
        cases herror

/-! ## A run

An outfit of two garments is previewed with a portrait.
-/

namespace Example

/-- A digest for short runs: the number of bytes. -/
def countBytes (bytes : List UInt8) : String :=
  String.ofList ((Nat.toDigits 16 bytes.length).leftpad 64 '0')

def countServices : TryOnServices where
  digest := countBytes
  guessFormat := fun _ => some "jpeg"
  isAnimated := fun _ => none
  dimensions := fun _ => some (10, 10)
  encodePng := fun bytes => some (0 :: bytes)
  serialize := fun _ => []
  serializePreview := fun _ => []
  serializeSubmit := fun _ => []
  serializeBindings := fun bindings => bindings.map fun binding => binding.ordinal.toUInt8
  formatTimestamp := fun _ => some "2026-07-16T00:10:00Z"
  jobIdText := fun jobId => jobId.requestId.text
  isCredentialLocator := fun _ => true

def threeFiles : BlobFiles := fun sha256 =>
  ([[1], [1, 1], [1, 1, 1]].find? fun bytes => countBytes bytes = sha256).map fun bytes =>
    ⟨bytes, true, true⟩

def jacket : Promotion.ItemAttributesV1 := ⟨"Jacket", .top, none, none, none, none, none, []⟩

def member (itemId : ItemId) (bytes : List UInt8) : Outfits.OutfitMemberRow where
  itemId
  itemUpdatedRevision := 1
  attributes := jacket
  assetState := "available"
  evidenceId := some itemId
  sourceId := some itemId
  blobSha256 := some (countBytes bytes)
  mediaType := some "image/jpeg"
  byteLength := some bytes.length
  width := some 10
  height := some 10

def twoGarments : Outfits.OutfitTables where
  catalog := ⟨0, 0, .empty, .empty, .empty, .empty, .empty, .empty, .empty, .empty⟩
  byteLengths := .empty
  blobs := ((empty.put (countBytes [1]) 1).put (countBytes [1, 1]) 2).put
    (countBytes [1, 1, 1]) 3
  outfitRevision := 1
  outfits := empty.put (.above 1) ⟨.above 1, "Summer", 1, 0⟩
  members := (empty.put (.above 1, 0) (member (.above 21) [1, 1])).put (.above 1, 1)
    (member (.above 31) [1, 1, 1])
  responses := .empty

def tables : TryOnTables where
  outfits := twoGarments
  photoRevisions := empty.put (.above 2)
    ⟨true, some (countBytes [1]), some 1, some "image/jpeg", some 10, some 10⟩
  photoArtifacts := empty.put (.above 3) (.above 2)
  credentials := empty.put (.above 4) ⟨"open_ai", "active", "locator"⟩
  tryOnRevision := 0
  approvals := .empty
  assets := .empty
  jobs := .empty
  attempts := .empty
  outputs := .empty
  previews := .empty
  submissions := .empty

def store : TryOnStore := ⟨tables, threeFiles⟩

def previewRequest : PreviewTryOnV1Request :=
  ⟨1, .above 5, .above 1, .above 2, .above 4, ⟨.unknown, "settings"⟩, 1⟩

theorem store_fresh : store.Fresh := ⟨fun _ => rfl, fun _ => rfl, fun _ => rfl⟩

end Example

theorem portrait_with_two_garments : ∃ response t' bindings,
    previewTryOn Example.countServices Example.threeFiles Example.previewRequest 0 Example.tables =
      (.ok response, t') ∧
    response.approval.assetSnapshotSha256 = snapshotHash Example.countServices bindings ∧
    loadApprovalAssetBindings t' response.approval.approvalId = .ok bindings := by
  rcases hrun : previewTryOn Example.countServices Example.threeFiles Example.previewRequest 0
    Example.tables with ⟨result, t'⟩
  have hok : (previewTryOn Example.countServices Example.threeFiles Example.previewRequest 0
      Example.tables).1.isOk = true := by
    decide +kernel
  rw [hrun] at hok
  cases result with
  | error e => cases hok
  | ok response =>
    obtain ⟨bindings, hhash, -, hruns⟩ :=
      try_on_sends_what_was_approved Example.store_fresh .refl hrun
    exact ⟨response, t', bindings, rfl, hhash, (hruns _ .refl).1⟩

end Threadbook.TryOn
