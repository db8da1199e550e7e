import Threadbook.Attire.TryOnTables

/-!
# The try-on repository

A preview binds images to an approval, a submission spends it on a job, a worker claims the job
under a new fence, and every later call of the worker names its fence. Startup recovery settles
what was running. Each is one transaction, except that an output's file is put into the blob store
before the transaction that records it.
-/

namespace Threadbook.TryOn

open Fallible

open Catalog (EvidenceId CommandReceiptRow)
open Outfits (OutfitId OutfitRow OutfitMemberRow OutfitServices memberRows maxStoredRevision)
open Promotion (ItemAttributesV1 RequestId ReplayStatusV1)

structure TryOnServices extends OutfitServices where
  serializePreview : PreviewTryOnV1Request → List UInt8
  serializeSubmit : SubmitTryOnV1Request → List UInt8
  serializeBindings : List ApprovalAssetBinding → List UInt8
  formatTimestamp : ℤ → Option String
  jobIdText : TryOnJobId → String
  isCredentialLocator : String → Bool

variable (services : TryOnServices) (files : BlobFiles)

def previewCommand : String := "preview_try_on_v1"

def submitCommand : String := "submit_try_on_v1"

/-- How long an approval may be spent: ten minutes. -/
def approvalLifetimeMs : ℤ := 600000

def snapshotHash (bindings : List ApprovalAssetBinding) : String :=
  services.digest (services.serializeBindings bindings)

def timestamp (milliseconds : ℤ) : Except PlatformError String :=
  match services.formatTimestamp milliseconds with
  | some text => .ok text
  | none => .error (.corrupt "try_on_timestamp")

/-- The sum of two integers, if a column holds it. -/
def checkedAdd (a b : ℤ) (code : String) : Except PlatformError ℤ :=
  if a + b ≤ maxInt64 then .ok (a + b) else .error (.corrupt code)

/-! ## Images -/

/-- What an image is, before its canonical PNG is made. -/
structure ParentAsset where
  ordinal : ℕ
  role : TryOnAssetRoleV1
  sourceRevisionId : Option PhotoSourceRevisionId
  artifactId : Option PhotoArtifactId
  itemId : Option ItemId
  evidenceId : Option EvidenceId
  sourceId : Option SourceId
  itemUpdatedRevision : Option ℕ
  attributes : Option ItemAttributesV1
  blobSha256 : String
  byteLength : ℕ
  mediaType : String
  width : ℕ
  height : ℕ

def snapshotAsset (parent : ParentAsset) : Except PlatformError SnapshotAsset := do
  let canonical ← canonicalTryOnPng services.toImageServices files parent.blobSha256
    parent.byteLength
  .ok {
    ordinal := parent.ordinal
    role := parent.role
    sourceRevisionId := parent.sourceRevisionId
    artifactId := parent.artifactId
    itemId := parent.itemId
    evidenceId := parent.evidenceId
    sourceId := parent.sourceId
    itemUpdatedRevision := parent.itemUpdatedRevision
    attributes := parent.attributes
    parentBlobSha256 := parent.blobSha256
    parentMediaType := parent.mediaType
    parentByteLength := parent.byteLength
    parentWidth := parent.width
    parentHeight := parent.height
    canonicalSha256 := canonical.sha256
    canonicalByteLength := canonical.bytes.length
    canonicalWidth := canonical.width
    canonicalHeight := canonical.height }

def firstArtifact (t : TryOnTables) (sourceRevisionId : PhotoSourceRevisionId) :
    Option PhotoArtifactId :=
  (((t.photoArtifacts.rows.filter fun entry => entry.2 = sourceRevisionId).map
    Prod.fst).insertionSort (· ≤ ·)).head?

def portraitParent (t : TryOnTables) (sourceRevisionId : PhotoSourceRevisionId) :
    Except PlatformError ParentAsset :=
  match t.photoRevisions.find? sourceRevisionId, firstArtifact t sourceRevisionId with
  | some row, some artifactId =>
    match row.blobSha256 with
    | some blobSha256 =>
      if ¬ row.eligible then .error (.conflict "try_on_portrait_unavailable")
      else match row.byteLength, row.mediaType, row.width, row.height with
        | some byteLength, some mediaType, some width, some height =>
          .ok ⟨0, .portrait, some sourceRevisionId, some artifactId, none, none, none, none, none,
            blobSha256, byteLength, mediaType, width, height⟩
        | _, _, _, _ => .error .sqlite
    | none => .error (.conflict "try_on_portrait_unavailable")
  | _, _ => .error (.conflict "try_on_portrait_unavailable")

def loadPortraitAsset (t : TryOnTables) (sourceRevisionId : PhotoSourceRevisionId) :
    Except PlatformError SnapshotAsset := do
  let parent ← portraitParent t sourceRevisionId
  snapshotAsset services files parent

/-- The image of a member; a column that is empty cannot be read. -/
def garmentParent (entry : ℕ × OutfitMemberRow) : Except PlatformError ParentAsset :=
  match entry.2.evidenceId, entry.2.sourceId, entry.2.blobSha256, entry.2.mediaType,
      entry.2.byteLength, entry.2.width, entry.2.height with
  | some evidenceId, some sourceId, some blobSha256, some mediaType, some byteLength, some width,
      some height =>
    .ok ⟨entry.1 + 1, .garment, none, none, some entry.2.itemId, some evidenceId, some sourceId,
      some entry.2.itemUpdatedRevision, some entry.2.attributes, blobSha256, byteLength, mediaType,
      width, height⟩
  | _, _, _, _, _, _, _ => .error .sqlite

def availableMembers (t : TryOnTables) (outfitId : OutfitId) : List (ℕ × OutfitMemberRow) :=
  (memberRows t.outfits outfitId).filter fun entry => entry.2.assetState = "available"

def loadGarmentAssets (t : TryOnTables) (outfitId : OutfitId) :
    Except PlatformError (List SnapshotAsset) := do
  let parents ← (availableMembers t outfitId).mapM garmentParent
  rejectWhen (.conflict "try_on_garment_unavailable")
    (parents.length ≠ (memberRows t.outfits outfitId).length ∨
      ¬ (2 ≤ parents.length ∧ parents.length ≤ 8))
  parents.mapM (snapshotAsset services files)

def loadAssets (t : TryOnTables) (request : PreviewTryOnV1Request) :
    Except PlatformError (List SnapshotAsset) := do
  let portrait ← loadPortraitAsset services files t request.portraitSourceRevisionId
  let garments ← loadGarmentAssets services files t request.outfitId
  .ok (portrait :: garments)

def assetRows (t : TryOnTables) (approvalId : TryOnApprovalId) : List (ℕ × TryOnAssetRow) :=
  t.assets.slots approvalId (maxAssetOrdinal + 1)

def loadApprovalAssetBindings (t : TryOnTables) (approvalId : TryOnApprovalId) :
    Except PlatformError (List ApprovalAssetBinding) :=
  (assetRows t approvalId).mapM fun entry => entry.2.binding entry.1

/-- An image that is ready to be sent. -/
structure PreparedTryOnAsset where
  ordinal : ℕ
  role : TryOnAssetRoleV1
  pngBytes : List UInt8
  canonicalSha256 : String

def prepareAsset (entry : ℕ × TryOnAssetRow) : Except PlatformError PreparedTryOnAsset := do
  let canonical ← canonicalTryOnPng services.toImageServices files entry.2.parentBlobSha256
    entry.2.parentByteLength
  rejectWhen (.conflict "try_on_snapshot_stale")
    (canonical.sha256 ≠ entry.2.canonicalPngSha256 ∨
      canonical.bytes.length ≠ entry.2.canonicalByteLength ∨
      canonical.width ≠ entry.2.canonicalWidth ∨ canonical.height ≠ entry.2.canonicalHeight)
  let role ← parseRole entry.2.role
  .ok ⟨entry.1, role, canonical.bytes, canonical.sha256⟩

/-- Prepare the images of an approval; what is bound of them is still what was previewed. -/
def prepareAssets (t : TryOnTables) (approvalId : TryOnApprovalId) :
    Except PlatformError (List PreparedTryOnAsset) :=
  match t.approvals.find? approvalId with
  | none => .error .sqlite
  | some approval => do
    let bindings ← loadApprovalAssetBindings t approvalId
    rejectWhen (.conflict "try_on_snapshot_stale")
      (snapshotHash services bindings ≠ approval.assetSnapshotSha256)
    (assetRows t approvalId).mapM (prepareAsset services files)

/-! ## Statements -/

def requireActiveCredential (credentialId : CredentialId) : TryOnTransaction PUnit := do
  let t ← state
  rejectIf (.conflict "try_on_credential_unavailable")
    (((t.credentials.find? credentialId).any fun row =>
      row.provider == "open_ai" && row.status == "active") = false)

def advanceTryOnRevision : TryOnTransaction PUnit := do
  let t ← state
  rejectIf .sqlite (maxStoredRevision < t.tryOnRevision + 1)
  update fun t => { t with tryOnRevision := t.tryOnRevision + 1 }

def insertReceipt (requestId : RequestId) (row : CommandReceiptRow) : TryOnTransaction PUnit := do
  let t ← state
  rejectIf .sqlite (t.receipts.find? requestId).isSome
  update fun t =>
    let catalog := { t.outfits.catalog with commandReceipts := t.receipts.put requestId row }
    { t with outfits := { t.outfits with catalog } }

def insertApproval (approvalId : TryOnApprovalId) (row : TryOnApprovalRow) :
    TryOnTransaction PUnit := do
  let t ← state
  rejectIf .sqlite (row.allowed = false)
  rejectIf .sqlite (t.approvals.find? approvalId).isSome
  update fun t => { t with approvals := t.approvals.put approvalId row }

def insertAsset (approvalId : TryOnApprovalId) (asset : SnapshotAsset) :
    TryOnTransaction PUnit := do
  let t ← state
  rejectIf .sqlite (asset.row.allowed asset.ordinal = false)
  rejectIf .sqlite (t.assets.find? (approvalId, asset.ordinal)).isSome
  rejectIf .sqlite (t.approvals.find? approvalId).isNone
  rejectIf .sqlite (t.outfits.blobs.find? asset.parentBlobSha256).isNone
  update fun t =>
    { t with assets := t.assets.put (approvalId, asset.ordinal) asset.row }

def consumeApproval (approvalId : TryOnApprovalId) (requestId : RequestId) :
    TryOnTransaction PUnit := do
  let t ← state
  match t.approvals.find? approvalId with
  | none => pure ⟨⟩
  | some row =>
    if row.consumedRequestId.isSome then pure ⟨⟩
    else do
      rejectIf .sqlite (t.approvals.rows.any fun other =>
        other.2.consumedRequestId = some requestId)
      update fun t =>
        let approval := { row with consumedRequestId := some requestId }
        { t with approvals := t.approvals.put approvalId approval }

def insertJob (jobId : TryOnJobId) (row : TryOnJobRow) : TryOnTransaction PUnit := do
  let t ← state
  rejectIf .sqlite (row.allowed = false)
  rejectIf .sqlite (t.jobs.find? jobId).isSome
  rejectIf .sqlite (t.jobs.rows.any fun other => other.2.approvalId = row.approvalId)
  rejectIf .sqlite (t.approvals.find? row.approvalId).isNone
  update fun t => { t with jobs := t.jobs.put jobId row }

def putJob (jobId : TryOnJobId) (row : TryOnJobRow) : TryOnTransaction PUnit := do
  rejectIf .sqlite (row.allowed = false)
  update fun t => { t with jobs := t.jobs.put jobId row }

def putAttempt (attemptId : TryOnAttemptId) (row : TryOnAttemptRow) : TryOnTransaction PUnit := do
  rejectIf .sqlite (row.allowed = false)
  update fun t => { t with attempts := t.attempts.put attemptId row }

def updateJob (jobId : TryOnJobId) (cond : TryOnJobRow → Bool)
    (f : TryOnJobRow → TryOnJobRow) : TryOnTransaction PUnit := do
  let t ← state
  match t.jobs.find? jobId with
  | none => fail .leaseLost
  | some row => if cond row then putJob jobId (f row) else fail .leaseLost

def updateAttempt (attemptId : TryOnAttemptId) (cond : TryOnAttemptRow → Bool)
    (f : TryOnAttemptRow → TryOnAttemptRow) : TryOnTransaction PUnit := do
  let t ← state
  match t.attempts.find? attemptId with
  | none => fail .leaseLost
  | some row => if cond row then putAttempt attemptId (f row) else fail .leaseLost

def recordBlob (sha256 : String) (byteLength : ℕ) : TryOnTransaction PUnit :=
  update fun t =>
    let blobs := (t.outfits.blobs.insertOrIgnore sha256 byteLength).1
    { t with outfits := { t.outfits with blobs } }

def insertOutput (outputId : TryOnOutputId) (row : TryOnOutputRow) : TryOnTransaction PUnit := do
  let t ← state
  if row.allowed ∧ t.outputs.find? outputId = none then do
    rejectIf .sqlite (t.outfits.blobs.find? row.blobSha256).isNone
    update fun t => { t with outputs := t.outputs.put outputId row }
  else pure ⟨⟩

/-! ## Preview -/

def replay {β : Type} (t : TryOnTables) (answers : Table RequestId β) (command : String)
    (requestId : RequestId) (envelope : String) : Except PlatformError (Option β) :=
  match t.receipts.find? requestId with
  | none => .ok none
  | some row =>
    if row.commandName = command ∧ row.envelopeHash = envelope then
      match answers.find? requestId with
      | none => .error .json
      | some response => .ok (some response)
    else .error (.conflict "try_on_request_reuse")

def previewEnvelope (request : PreviewTryOnV1Request) : String :=
  services.digest (services.serializePreview request)

def previewResponse (request : PreviewTryOnV1Request) (assets : List TryOnDisclosureAssetV1)
    (expiresAt snapshot : String) (outfitRevision : ℕ) : PreviewTryOnV1Response where
  schemaVersion := schemaVersionV1
  requestId := request.requestId
  disclosure := {
    provider := tryOnProvider
    model := tryOnModel
    purpose := tryOnPurpose
    promptRevision := tryOnPromptRevision
    assets
    retention := {
      revision := tryOnDisclosureRevision
      declaration := request.retention
      imagesApiHasApplicationStateRetention := false
      defaultAbuseMonitoringMaxDays := 30
      modelIsZdrCompatible := true
      compatibilityIsNotProjectEnrollment := true
      csamInputScanningApplies := true
      flaggedInputsMayBeRetainedForReview := true } }
  approval := {
    approvalId := ⟨request.requestId⟩
    outfitId := request.outfitId
    expiresAt
    singleUse := true
    garmentCount := assets.length - 1
    assetSnapshotSha256 := snapshot
    outfitRevision }
  replayStatus := .created

/-- What is known of a preview before anything is written. -/
structure TryOnPreview where
  outfit : OutfitRow
  assets : List SnapshotAsset
  snapshot : String
  expiresAtMs : ℤ
  response : PreviewTryOnV1Response

def describePreview (t : TryOnTables) (request : PreviewTryOnV1Request) (nowMs : ℤ) :
    Except PlatformError TryOnPreview :=
  match t.outfits.outfits.find? request.outfitId with
  | none => .error (.invalidInput "try_on_outfit")
  | some outfit => do
    let assets ← loadAssets services files t request
    rejectWhen (.invalidInput "try_on_aggregate_size")
      (maxTryOnAggregateInputBytes < (assets.map (·.canonicalByteLength)).sum)
    let snapshot := snapshotHash services (assets.map (·.approvalBinding))
    let disclosed ← assets.mapM (·.disclosure)
    let expiresAtMs ← checkedAdd nowMs approvalLifetimeMs "try_on_expiry"
    let expiresAt ← timestamp services expiresAtMs
    rejectWhen (.corrupt "try_on_snapshot_hash") (¬ isHash snapshot)
    let response := previewResponse request disclosed expiresAt snapshot t.outfits.outfitRevision
    response.validate.mapError fun _ => .corrupt "try_on_preview_response"
    .ok ⟨outfit, assets, snapshot, expiresAtMs, response⟩

def approvalRow (request : PreviewTryOnV1Request) (preview : TryOnPreview) (outfitRevision : ℕ)
    (nowMs : ℤ) : TryOnApprovalRow where
  previewRequestId := request.requestId
  envelopeHash := previewEnvelope services request
  outfitId := request.outfitId
  outfitName := preview.outfit.name
  outfitCreatedRevision := preview.outfit.createdOutfitRevision
  expectedOutfitRevision := outfitRevision
  credentialId := request.credentialId
  retention := request.retention
  assetSnapshotSha256 := preview.snapshot
  garmentCount := preview.assets.length - 1
  expiresAtMs := preview.expiresAtMs
  consumedRequestId := none
  createdAtMs := nowMs

/-- Write an approval with its images, and keep the answer. -/
def storePreview (request : PreviewTryOnV1Request) (preview : TryOnPreview) (nowMs : ℤ) :
    TryOnTransaction PUnit := do
  let t ← state
  let approvalId : TryOnApprovalId := ⟨request.requestId⟩
  insertApproval approvalId
    (approvalRow services request preview t.outfits.outfitRevision nowMs)
  let _ ← forEach (insertAsset approvalId) preview.assets
  insertReceipt request.requestId ⟨previewCommand, previewEnvelope services request, .other⟩
  update fun t =>
    { t with previews := t.previews.put request.requestId preview.response }
  advanceTryOnRevision

def performPreview (request : PreviewTryOnV1Request) (nowMs : ℤ) :
    TryOnTransaction PreviewTryOnV1Response := do
  let t ← state
  rejectIf (.conflict "try_on_outfit_revision")
    (t.outfits.outfitRevision ≠ request.expectedOutfitRevision)
  requireActiveCredential request.credentialId
  let preview ← check (describePreview services files t request nowMs)
  storePreview services request preview nowMs
  pure preview.response

def previewTryOn (request : PreviewTryOnV1Request) (nowMs : ℤ) :
    TryOnTransaction PreviewTryOnV1Response :=
  atomically do
    check (request.validate.mapError fun _ => .invalidInput "try_on_preview")
    let t ← state
    let stored ← check
      (replay t t.previews previewCommand request.requestId (previewEnvelope services request))
    match stored with
    | some response => pure { response with replayStatus := .replayed }
    | none => performPreview services files request nowMs

/-! ## Submit -/

def submitEnvelope (request : SubmitTryOnV1Request) : String :=
  services.digest (services.serializeSubmit request)

def submitResponse (request : SubmitTryOnV1Request) (outfitId : OutfitId) (createdAt : String) :
    SubmitTryOnV1Response where
  schemaVersion := schemaVersionV1
  requestId := request.requestId
  job := {
    jobId := ⟨request.requestId⟩
    approvalId := request.approvalId
    outfitId
    state := .queued
    attemptCount := 0
    createdAt
    updatedAt := createdAt
    completedAt := none
    failure := none }
  replayStatus := .created

def spendableApproval (t : TryOnTables) (request : SubmitTryOnV1Request) (nowMs : ℤ) :
    Except PlatformError TryOnApprovalRow :=
  match t.approvals.find? request.approvalId with
  | none => .error (.conflict "try_on_approval_missing")
  | some approval =>
    if approval.consumedRequestId.isSome then .error (.conflict "try_on_approval_consumed")
    else if approval.expiresAtMs < nowMs then .error (.conflict "try_on_approval_expired")
    else if t.outfits.outfitRevision ≠ approval.expectedOutfitRevision then
      .error (.conflict "try_on_outfit_revision")
    else .ok approval

def queuedJob (request : SubmitTryOnV1Request) (nowMs : ℤ) : TryOnJobRow where
  requestId := request.requestId
  approvalId := request.approvalId
  envelopeHash := submitEnvelope services request
  state := .queued
  availableAtMs := nowMs
  attemptCount := 0
  fence := 0
  leaseOwner := none
  leaseExpiresAtMs := none
  terminalAttemptId := none
  failure := none
  createdAtMs := nowMs
  updatedAtMs := nowMs

def performSubmit (request : SubmitTryOnV1Request) (nowMs : ℤ) :
    TryOnTransaction SubmitTryOnV1Response := do
  let t ← state
  let approval ← check (spendableApproval t request nowMs)
  requireActiveCredential approval.credentialId
  let createdAt ← check (timestamp services nowMs)
  let response := submitResponse request approval.outfitId createdAt
  check (response.validate.mapError fun _ => .corrupt "try_on_submit_response")
  consumeApproval request.approvalId request.requestId
  insertJob ⟨request.requestId⟩ (queuedJob services request nowMs)
  insertReceipt request.requestId ⟨submitCommand, submitEnvelope services request, .other⟩
  update fun t => { t with submissions := t.submissions.put request.requestId response }
  advanceTryOnRevision
  pure response

/-- Spend an approval on a job. -/
def submitTryOn (request : SubmitTryOnV1Request) (nowMs : ℤ) :
    TryOnTransaction SubmitTryOnV1Response :=
  atomically do
    check (request.validate.mapError fun _ => .invalidInput "try_on_submit")
    let t ← state
    let stored ← check
      (replay t t.submissions submitCommand request.requestId (submitEnvelope services request))
    match stored with
    | some response => pure { response with replayStatus := .replayed }
    | none => performSubmit services request nowMs

/-! ## Ends of a job -/

def failureContract (code : TryOnFailureCodeV1) : TryOnFailureV1 :=
  ⟨code, code.contract.1, code.contract.2⟩

theorem failureContract_validate (code : TryOnFailureCodeV1) :
    (failureContract code).validate = .ok () :=
  if_pos rfl

def TryOnAttemptState.isOpen : TryOnAttemptState → Bool
  | .prepared | .dispatched | .materializing => true
  | .succeeded | .failed => false

def failJob (jobId : TryOnJobId) (fence : ℕ) (code : TryOnFailureCodeV1) (nowMs : ℤ) :
    TryOnTransaction PUnit := do
  updateAttempt ⟨jobId⟩ (fun row => row.state.isOpen && row.fence == fence)
    fun row => { row with
      state := .failed, failure := some (failureContract code), updatedAtMs := nowMs }
  updateJob jobId
    (fun row => (row.state == .queued || row.state == .running) && row.fence == fence)
    fun row => { row with
      state := .failed, terminalAttemptId := some ⟨jobId⟩, failure := some (failureContract code)
      leaseOwner := none, leaseExpiresAtMs := none, updatedAtMs := nowMs }
  advanceTryOnRevision

def jobSnapshot (t : TryOnTables) (jobId : TryOnJobId) : Except PlatformError String :=
  match t.jobs.find? jobId with
  | none => .error .sqlite
  | some job =>
    match t.approvals.find? job.approvalId with
    | none => .error .sqlite
    | some approval => .ok approval.assetSnapshotSha256

def finalizePromotedOutput (jobId : TryOnJobId) (fence : ℕ) (intent : TryOnOutputIntent)
    (nowMs : ℤ) : TryOnTransaction PUnit := do
  let t ← state
  let snapshot ← check (jobSnapshot t jobId)
  insertOutput ⟨jobId⟩ ⟨intent.sha256, intent.byteLength, snapshot, nowMs⟩
  updateAttempt ⟨jobId⟩
    (fun row => row.state == .materializing && row.fence == fence && row.output == some intent)
    fun row => { row with state := .succeeded, updatedAtMs := nowMs }
  updateJob jobId (fun row => row.state == .running && row.fence == fence)
    fun row => { row with
      state := .succeeded, terminalAttemptId := some ⟨jobId⟩, leaseOwner := none
      leaseExpiresAtMs := none, updatedAtMs := nowMs }
  advanceTryOnRevision

/-! ## Startup recovery -/

def runningJobs (t : TryOnTables) : List (TryOnJobId × TryOnAttemptRow) :=
  t.jobs.rows.filterMap fun entry =>
    if entry.2.state = .running then
      (t.attempts.find? ⟨entry.1⟩).map fun attempt => (entry.1, attempt)
    else none

def promotedOutput (output : Option TryOnOutputIntent) : Option TryOnOutputIntent :=
  output.filter fun intent =>
    match verifyBlob services.toImageServices files intent.sha256 with
    | .ok byteLength => byteLength == intent.byteLength
    | .error _ => false

def recoverJob (nowMs : ℤ) (entry : TryOnJobId × TryOnAttemptRow) : TryOnTransaction PUnit :=
  match entry.2.state with
  | .prepared =>
    updateJob entry.1 (fun row => row.state == .running && row.fence == entry.2.fence)
      fun row => { row with
        state := .queued, attemptCount := 0, leaseOwner := none, leaseExpiresAtMs := none
        updatedAtMs := nowMs }
  | .dispatched => failJob entry.1 entry.2.fence .outcomeUnknown nowMs
  | .materializing =>
    match promotedOutput services files entry.2.output with
    | some intent => do
      recordBlob intent.sha256 intent.byteLength
      finalizePromotedOutput entry.1 entry.2.fence intent nowMs
    | none => failJob entry.1 entry.2.fence .outputMaterializationInterrupted nowMs
  | .succeeded | .failed => fail (.corrupt "try_on_attempt_state")

def recoverTryOnJobs (nowMs : ℤ) : TryOnTransaction PUnit :=
  atomically do
    let t ← state
    let _ ← forEach (recoverJob services files nowMs) (runningJobs t)
    pure ⟨⟩

/-! ## Claims -/

structure ClaimedTryOnJob where
  jobId : TryOnJobId
  fence : ℕ
  assets : List PreparedTryOnAsset

def ClaimedTryOnJob.attemptId (self : ClaimedTryOnJob) : TryOnAttemptId := ⟨self.jobId⟩

def claimsBefore (a b : TryOnJobId × TryOnJobRow) : Bool :=
  a.2.availableAtMs < b.2.availableAtMs || (a.2.availableAtMs == b.2.availableAtMs &&
    (a.2.createdAtMs < b.2.createdAtMs || (a.2.createdAtMs == b.2.createdAtMs &&
      services.jobIdText a.1 ≤ services.jobIdText b.1)))

def nextQueued (t : TryOnTables) (nowMs : ℤ) : Option (TryOnJobId × TryOnJobRow) :=
  ((t.jobs.rows.filter fun entry => entry.2.state = .queued ∧ entry.2.availableAtMs ≤ nowMs).mergeSort
    (claimsBefore services)).head?

/-- The row of an attempt that begins; it keeps the time it was first made at. -/
def preparedAttempt (before : Option TryOnAttemptRow) (fence : ℕ) (nowMs : ℤ) :
    TryOnAttemptRow where
  fence
  state := .prepared
  audit := none
  output := none
  failure := none
  createdAtMs := (before.map (·.createdAtMs)).getD nowMs
  updatedAtMs := nowMs

/-- How a job fails whose images cannot be prepared. -/
def assetFailureCode : PlatformError → TryOnFailureCodeV1
  | .conflict "try_on_snapshot_stale" => .snapshotStale
  | .io _ => .assetUnavailable
  | _ => .assetIntegrity

inductive ClaimRound
  | idle
  | claimed (claim : ClaimedTryOnJob)
  | again

def takeJob (owner : String) (nowMs leaseMs : ℤ) (entry : TryOnJobId × TryOnJobRow) :
    TryOnTransaction ℕ := do
  let fence ← check (checkedAdd entry.2.fence 1 "try_on_fence")
  let leaseExpires ← check (checkedAdd nowMs leaseMs "try_on_lease")
  putJob entry.1 { entry.2 with
    state := .running, attemptCount := 1, fence := fence.toNat, leaseOwner := some owner
    leaseExpiresAtMs := some leaseExpires, updatedAtMs := nowMs }
  let t ← state
  putAttempt ⟨entry.1⟩ (preparedAttempt (t.attempts.find? ⟨entry.1⟩) fence.toNat nowMs)
  pure fence.toNat

def claimRound (owner : String) (nowMs leaseMs : ℤ) : TryOnTransaction ClaimRound :=
  atomically do
    let t ← state
    match nextQueued services t nowMs with
    | none => pure .idle
    | some entry => do
      let fence ← takeJob owner nowMs leaseMs entry
      let t ← state
      match prepareAssets services files t entry.2.approvalId with
      | .ok assets => pure (.claimed ⟨entry.1, fence, assets⟩)
      | .error e => do
        failJob entry.1 fence (assetFailureCode e) nowMs
        pure .again

/-! ## Calls of the worker -/

def transportAuthority (t : TryOnTables) (claim : ClaimedTryOnJob) : Except PlatformError String :=
  match t.jobs.find? claim.jobId, t.attempts.find? claim.attemptId with
  | some job, some attempt =>
    if job.state = .running ∧ job.fence = claim.fence ∧ attempt.fence = claim.fence ∧
        attempt.state = .prepared then
      match (t.approvals.find? job.approvalId).bind fun row =>
          t.credentials.find? row.credentialId with
      | some credential =>
        if credential.provider = "open_ai" ∧ credential.status = "active" then
          .ok credential.locator
        else .error (.conflict "try_on_transport_authority")
      | none => .error (.conflict "try_on_transport_authority")
    else .error (.conflict "try_on_transport_authority")
  | _, _ => .error (.conflict "try_on_transport_authority")

def authorizeTryOnTransport (claim : ClaimedTryOnJob) (nowMs : ℤ) : TryOnTransaction String := do
  let locator ← atomically do
    let t ← state
    let locator ← check (transportAuthority t claim)
    updateAttempt claim.attemptId
      (fun row => row.state == .prepared && row.fence == claim.fence)
      fun row => { row with state := .dispatched, updatedAtMs := nowMs }
    pure locator
  check (if services.isCredentialLocator locator then .ok locator
    else .error (.corrupt "try_on_credential_locator"))

def markTryOnTransportStarted (claim : ClaimedTryOnJob) (nowMs : ℤ) : TryOnTransaction PUnit :=
  atomically <| updateAttempt claim.attemptId
    (fun row => row.fence == claim.fence && row.state == .dispatched && row.audit.isNone)
    fun row => { row with audit := some ⟨nowMs, none⟩, updatedAtMs := nowMs }

/-- Mark that the claim was not sent after all. -/
def clearTryOnTransportStarted (claim : ClaimedTryOnJob) (nowMs : ℤ) : TryOnTransaction PUnit :=
  atomically <| updateAttempt claim.attemptId
    (fun row => row.fence == claim.fence && row.state == .dispatched && row.audit.isSome)
    fun row => { row with audit := none, updatedAtMs := nowMs }

def outputIntent (pngBytes : List UInt8) : TryOnOutputIntent :=
  ⟨services.digest pngBytes, pngBytes.length⟩

def beginTryOnOutput (claim : ClaimedTryOnJob) (pngBytes : List UInt8) (audit : TryOnAudit)
    (nowMs : ℤ) : TryOnTransaction String := do
  atomically <| updateAttempt claim.attemptId
    (fun row => row.fence == claim.fence && row.state == .dispatched)
    fun row => { row with
      state := .materializing, audit := some audit, output := some (outputIntent services pngBytes)
      updatedAtMs := nowMs }
  pure (services.digest pngBytes)

def finalizeTryOnOutput (claim : ClaimedTryOnJob) (record : TryOnOutputIntent) (nowMs : ℤ) :
    TryOnTransaction PUnit :=
  atomically do
    recordBlob record.sha256 record.byteLength
    finalizePromotedOutput claim.jobId claim.fence record nowMs

def failTryOnJob (claim : ClaimedTryOnJob) (code : TryOnFailureCodeV1) (nowMs : ℤ) :
    TryOnTransaction PUnit :=
  atomically (failJob claim.jobId claim.fence code nowMs)

end Threadbook.TryOn
