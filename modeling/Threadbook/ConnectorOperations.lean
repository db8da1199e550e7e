import Threadbook.ConnectorRepository

/-!
# The operations of the connector

Enrolling an album and following it no more, and what the coordinator does with one operation on
its assets: begin, record what is observed, materialize, and end with a publication. At startup
what was interrupted is given up.
-/

namespace Threadbook.PhotoKit

open Promotion (RequestId ReplayStatusV1)
open Fallible (atomically check fail rejectIf state update)

variable (services : ConnectorServices)

/-! ## Enrollments -/

structure PhotoKitEnrollment where
  enrollmentEpoch : String
  keyReference : String
  allowIcloudDownloads : Bool
  operationFence : ℕ
  membershipGeneration : Option ℕ

def reserveEnrollment (enrollmentEpoch keyReference : String) (allowIcloudDownloads : Bool)
    (nowMs : ℤ) : Transaction PhotoKitEnrollment := atomically do
  check (validateAscii keyReference 128 "photokit_key_reference")
  rejectIf .sqlite (¬ services.isUuid enrollmentEpoch)
  insertEnrollment enrollmentEpoch
    ⟨keyReference, .pending, allowIcloudDownloads, 0, none, nowMs, none, none⟩
  pure ⟨enrollmentEpoch, keyReference, allowIcloudDownloads, 0, none⟩

def removePendingEnrollment (enrollmentEpoch cleanupReason : String) : Transaction Unit :=
  atomically do
    check (validateUuid services enrollmentEpoch "photokit_enrollment_epoch")
    rejectIf (.invalidInput "photokit_cleanup_reason")
      (cleanupReason ∉ ["pending_enrollment_recovery", "incomplete_enrollment_restore"])
    let t ← state
    match (t.enrollments.find? enrollmentEpoch).filter fun row => row.state = .pending with
    | none => pure ()
    | some _ =>
      update fun t => { t with
        locators := t.locators.filter fun row =>
          ¬ (row.enrollmentEpoch = enrollmentEpoch ∧ row.finalized = false)
        enrollments := t.enrollments.delete enrollmentEpoch }

def activeGenerationAssets (t : ConnectorTables) (enrollmentEpoch : String) : List String :=
  match (t.enrollments.find? enrollmentEpoch).bind EnrollmentRow.activeMembershipGeneration with
  | none => t.headAssets enrollmentEpoch
  | some generation =>
    ((t.membersOf enrollmentEpoch generation).insertionSort fun a b => a.ordinal ≤ b.ordinal).map
      MemberRow.assetId

/-- The identifiers of an operation that is made up to end an enrollment. -/
structure ClosingIds where
  operationId : String
  requestId : String
  revisionIds : String → String

def inactivateEnrollment (ids : ClosingIds) (enrollmentEpoch : String) (nowMs : ℤ) :
    Transaction Unit := do
  let t ← state
  match (t.enrollments.find? enrollmentEpoch).filter fun row => row.state = .active with
  | none => fail .sqlite
  | some row => do
    let operation ← openOperation ids.operationId ids.requestId enrollmentEpoch
      row.operationFence .user nowMs
    let t ← state
    let transitions ← transitionUnavailable ids.revisionIds enrollmentEpoch ids.operationId none
      .scopeUnavailable nowMs 0 (activeGenerationAssets t enrollmentEpoch)
    incrementIf (transitions > 0)
    let t ← state
    rejectIf .sqlite (t.connector.activeEnrollmentEpoch ≠ some enrollmentEpoch)
    let (observed, available, unavailable) := enrollmentCounts t enrollmentEpoch
    updateConnector fun connector =>
      { connector with
        observedCount := observed
        availableCount := available
        unavailableCount := unavailable
        updatedAtMs := nowMs }
    let t ← state
    let snapshot ← check (snapshotOf services t t.connector.authorization)
    publishOperation services operation (· = .enumerating) .failed (some "scope_unavailable") none
      ⟨ids.operationId, operation.reconciliationFence, snapshot.membershipGeneration, transitions,
        false, snapshot⟩ nowMs
    updateEnrollment enrollmentEpoch .active fun row =>
      { row with state := .inactive, inactivatedAtMs := some nowMs }

/-- Follow the enrollment before another one no more. -/
def inactivatePrevious (ids : ClosingIds) (previous : Option String) (enrollmentEpoch : String)
    (nowMs : ℤ) : Transaction Unit :=
  match previous with
  | some previous =>
    if previous ≠ enrollmentEpoch then inactivateEnrollment services ids previous nowMs
    else pure ()
  | none => pure ()

/-- Follow an enrollment, and the one before it no more. -/
def activateEnrollmentInTransaction (ids : ClosingIds) (enrollmentEpoch locatorId : String)
    (locator : ProtectedPhotoKitLocator) (nowMs : ℤ) : Transaction PhotoKitEnrollment := do
  let t ← state
  match t.enrollments.find? enrollmentEpoch with
  | none => fail (.conflict "photokit_enrollment_missing")
  | some enrollment => do
    rejectIf (.conflict "photokit_enrollment_state") (enrollment.state ≠ .pending)
    inactivatePrevious services ids t.connector.activeEnrollmentEpoch enrollmentEpoch nowMs
    insertLocator ⟨locatorId, enrollmentEpoch, none, .album, enrollmentEpoch, locator, true, nowMs⟩
    updateEnrollment enrollmentEpoch .pending fun row =>
      { row with state := .active, activatedAtMs := some nowMs }
    updateConnector fun _ =>
      ⟨.ready, .authorized, some enrollmentEpoch, none, 0, 0, 0, none, nowMs⟩
    pure ⟨enrollmentEpoch, enrollment.keyReference, enrollment.allowIcloudDownloads, 0, none⟩

/-- The arguments of an activation that are random, or kept secret. -/
structure ActivationInput where
  rootKey : Bytes
  albumLocator : String
  nonce : Option Bytes
  locatorId : String
  ids : ClosingIds

def activateEnrollment (input : ActivationInput) (enrollmentEpoch : String) (nowMs : ℤ) :
    Transaction PhotoKitEnrollment := atomically do
  check (validateUuid services enrollmentEpoch "photokit_enrollment_epoch")
  let locator ← check (protectLocator services input.rootKey enrollmentEpoch .album
    enrollmentEpoch input.albumLocator input.nonce)
  activateEnrollmentInTransaction services input.ids enrollmentEpoch input.locatorId locator nowMs

def activateEnrollmentCommand (input : ActivationInput) (enrollmentEpoch : String)
    (requestId : RequestId) (envelopeHash : String) (nowMs : ℤ) :
    Transaction ConfigurePhotoKitScopeV1Response := atomically do
  check (validateUuid services enrollmentEpoch "photokit_enrollment_epoch")
  check (validateEnvelopeHash envelopeHash)
  let locator ← check (protectLocator services input.rootKey enrollmentEpoch .album
    enrollmentEpoch input.albumLocator input.nonce)
  let enrollment ← activateEnrollmentInTransaction services input.ids enrollmentEpoch
    input.locatorId locator nowMs
  let t ← state
  let snapshot ← check (snapshotOf services t .authorized)
  let response : ConfigurePhotoKitScopeV1Response := ⟨1, requestId, snapshot, .created⟩
  rejectIf (.corrupt "photokit_configure_response")
    (response.validate services.isTimestamp ≠ .ok ())
  insertCommandReceipt services requestId
    ⟨.configurePhotokitScope, envelopeHash, some enrollment.enrollmentEpoch, none,
      .configure response, nowMs⟩
  pure response

structure DisablePhotoKitV1Request where
  requestId : RequestId
  expectedPhotokitRevision : ℕ

def replayDisable (t : ConnectorTables) (requestId : RequestId) (envelopeHash : String) :
    Except PlatformError (Option DisablePhotoKitV1Response) :=
  match t.receipts.find? requestId with
  | none => .ok none
  | some row =>
    if row.commandName = .disablePhotokit ∧ row.envelopeHash = envelopeHash then
      match row.response with
      | .disable response => .ok (some response)
      | .configure _ => .error .json
    else .error (.conflict "photokit_request_reused")

def disableCommand (ids : ClosingIds) (request : DisablePhotoKitV1Request) (envelopeHash : String)
    (nowMs : ℤ) : Transaction DisablePhotoKitV1Response := atomically do
  check (validateEnvelopeHash envelopeHash)
  let t ← state
  match ← check (replayDisable t request.requestId envelopeHash) with
  | some response => pure { response with replayStatus := .replayed }
  | none => do
    rejectIf (.conflict "photokit_revision_changed")
      (t.photokitRevision ≠ request.expectedPhotokitRevision)
    match t.connector.activeEnrollmentEpoch with
    | none => fail (.conflict "photokit_not_configured")
    | some enrollmentEpoch => do
      inactivateEnrollment services ids enrollmentEpoch nowMs
      let after ← state
      incrementIf (after.photokitRevision = t.photokitRevision)
      updateConnector fun connector =>
        ⟨.unconfigured, connector.authorization, none, none, 0, 0, 0, none, nowMs⟩
      let final ← state
      let epoch ← check (enrollmentEpochId services enrollmentEpoch)
      let generation ← check (transposed (numberId false "photokit_generation")
        t.connector.activeMembershipGeneration)
      let revision ← check (numberId true "photokit_revision" final.photokitRevision)
      let response : DisablePhotoKitV1Response := ⟨1, request.requestId, .unconfigured, epoch,
        generation, revision, ⟨asU16 t.connector.observedCount, asU16 t.connector.availableCount,
          asU16 t.connector.unavailableCount⟩, .created⟩
      rejectIf (.corrupt "photokit_disable_response") (response.validate ≠ .ok ())
      insertCommandReceipt services request.requestId
        ⟨.disablePhotokit, envelopeHash, some enrollmentEpoch, none, .disable response, nowMs⟩
      pure response

/-! ## Operations on the assets -/

def beginOperation (operationId requestId : String) (trigger : PhotoKitReconcileTriggerV1)
    (authorization : PhotoKitAuthorizationV1) (nowMs : ℤ) :
    Transaction (PhotoKitOperation × Bool) := atomically do
  check (validateUuid services requestId "photokit_request_id")
  let t ← state
  match t.operationByRequest requestId with
  | some row =>
    if row.operation.trigger ≠ trigger then fail (.conflict "photokit_request_reused")
    else pure (row.operation, true)
  | none =>
    match t.activeEnrollment with
    | none => fail (.conflict "photokit_not_configured")
    | some (enrollmentEpoch, enrollment) => do
      let operation ← openOperation operationId requestId enrollmentEpoch
        enrollment.operationFence trigger nowMs
      updateConnector fun connector =>
        { connector with
          state := .reconciling
          authorization := authorization
          updatedAtMs := nowMs }
      pure (operation, false)

structure PhotoKitRecordedObservation where
  ordinal : ℕ
  assetId : String
  locatorId : String
  resourceUti : Option String
  supported : Bool

structure ObservationIds where
  assetId : String
  locatorId : String
  nonce : Option Bytes

def knownAsset (t : ConnectorTables) (enrollmentEpoch : String) (lookup : Bytes) :
    Option (String × String) :=
  t.locators.findSome? fun row =>
    if row.enrollmentEpoch = enrollmentEpoch ∧ row.recordKind = .asset ∧
        row.locator.lookupHmac = lookup ∧ row.finalized then
      (t.assets.rows.find? fun asset => asset.2.locatorId = row.locatorId).map fun asset =>
        (asset.1, row.locatorId)
    else none

def observedAsset (ids : ObservationIds) (operation : PhotoKitOperation) (rootKey : Bytes)
    (assetLocator : String) (known : Option (String × String)) (nowMs : ℤ) :
    Transaction (String × String) :=
  match known with
  | some known => pure known
  | none => do
    let locator ← check (protectLocator services rootKey operation.enrollmentEpoch .asset
      ids.assetId assetLocator ids.nonce)
    insertLocator ⟨ids.locatorId, operation.enrollmentEpoch, some operation.operationId, .asset,
      ids.assetId, locator, false, nowMs⟩
    pure (ids.assetId, ids.locatorId)

def validateResourceUti : Option String → Except PlatformError Unit
  | some uti => validateAscii uti 128 "photokit_resource_uti"
  | none => .ok ()

def recordObservation (ids : ObservationIds) (operation : PhotoKitOperation) (rootKey : Bytes)
    (ordinal : ℕ) (assetLocator : String) (resourceUti : Option String) (supported : Bool)
    (nowMs : ℤ) : Transaction PhotoKitRecordedObservation := atomically do
  rejectIf (.invalidInput "photokit_observation_ordinal") (500 ≤ ordinal)
  check (validateResourceUti resourceUti)
  ensureCurrentOperation operation .enumerating
  let t ← state
  let lookup := services.locatorLookup rootKey operation.enrollmentEpoch .asset assetLocator
  let (assetId, locatorId) ← observedAsset services ids operation rootKey assetLocator
    (knownAsset t operation.enrollmentEpoch lookup) nowMs
  insertObservation ⟨operation.operationId, ordinal, assetId, locatorId, resourceUti, supported⟩
  let _ ← updateOperation operation.operationId (fun _ => true) fun row =>
    { row with observedCount := row.observedCount + 1 }
  pure ⟨ordinal, assetId, locatorId, resourceUti, supported⟩

def markMaterializing (operation : PhotoKitOperation) : Transaction Unit := atomically do
  ensureCurrentOperation operation .enumerating
  let t ← state
  match t.operations.find? operation.operationId with
  | none => fail .sqlite
  | some row => do
    rejectIf (.corrupt "photokit_observation_count")
      (row.observedCount ≠ (t.observationsOf operation.operationId).length)
    let _ ← updateOperation operation.operationId (· = .enumerating) fun row =>
      { row with state := .materializing }
    pure ()

def recordAttempt (attemptId : String) (operation : PhotoKitOperation)
    (ordinal attemptOrdinal : ℕ) (networkAccessAllowed : Bool) (acceptedBytes : ℕ)
    (result : String) (nowMs : ℤ) : Transaction Unit := atomically do
  rejectIf (.invalidInput "photokit_attempt") (attemptOrdinal > 1 ∨
    acceptedBytes > PHOTOKIT_MAX_RESOURCE_BYTES ∨ result ∉ attemptResults)
  ensureCurrentOperation operation .materializing
  insertAttempt ⟨attemptId, operation.operationId, ordinal, attemptOrdinal, networkAccessAllowed,
    acceptedBytes, result, nowMs⟩

def updateConnectorOf (operation : PhotoKitOperation) (f : ConnectorRow → ConnectorRow) :
    Transaction Unit := do
  let t ← state
  if t.connector.activeEnrollmentEpoch = some operation.enrollmentEpoch then updateConnector f
  else pure ()

def withholdAssets (revisionIds : String → String) (operation : PhotoKitOperation)
    (authorization : PhotoKitAuthorizationV1) (reason : Option PhotoKitAvailabilityReasonV1)
    (nowMs : ℤ) : Transaction ℕ :=
  match reason with
  | some reason => do
    let t ← state
    let transitions ← transitionUnavailable revisionIds operation.enrollmentEpoch
      operation.operationId none reason nowMs 0 (t.headAssets operation.enrollmentEpoch)
    incrementIf (transitions > 0)
    let t ← state
    let (observed, available, unavailable) := enrollmentCounts t operation.enrollmentEpoch
    updateConnectorOf operation fun connector =>
      { connector with
        state := .needsAttention
        authorization := authorization
        observedCount := observed
        availableCount := available
        unavailableCount := unavailable
        updatedAtMs := nowMs }
    pure transitions
  | none => do
    updateConnectorOf operation fun connector =>
      { connector with
        state := .ready
        authorization := authorization
        updatedAtMs := nowMs }
    pure 0

def finalizeGlobalUnavailable (revisionIds : String → String) (operation : PhotoKitOperation)
    (authorization : PhotoKitAuthorizationV1) (reason : Option PhotoKitAvailabilityReasonV1)
    (terminalReason : String) (nowMs : ℤ) : Transaction PhotoKitPublication := atomically do
  check (validateTerminalReason terminalReason)
  let current ← operationState operation.operationId
  if current = .complete ∨ current = .failed then do
    let t ← state
    check (terminalPublication services t operation)
  else do
    rejectIf (.conflict "photokit_operation_not_replayable")
      (current = .interrupted ∨ current = .stale)
    ensureCurrentOperationAny operation
    let transitions ← withholdAssets revisionIds operation authorization reason nowMs
    let t ← state
    let snapshot ← check (snapshotOf services t authorization)
    let publication : PhotoKitPublication := ⟨operation.operationId,
      operation.reconciliationFence, snapshot.membershipGeneration, transitions, false, snapshot⟩
    publishOperation services operation OperationState.isLive .failed (some terminalReason) none
      publication nowMs
    cleanupProvisionalOperation operation.operationId
    pure publication

/-! ## Completing an operation -/

structure BlobRecord where
  sha256 : String
  byteLength : ℕ

structure PhotoKitMaterializationRecord where
  resourceFingerprint : String
  blob : BlobRecord
  resourceUti : String
  pixelWidth : ℕ
  pixelHeight : ℕ

structure PhotoKitFinalizedObservation where
  ordinal : ℕ
  availability : PhotoKitAvailabilityV1
  reason : PhotoKitAvailabilityReasonV1
  materialization : Option PhotoKitMaterializationRecord

def validateAvailabilityResult (value : PhotoKitFinalizedObservation) :
    Except PlatformError Unit :=
  if ¬ value.availability.fits value.reason ∨
      decide (value.reason = .materialized) ≠ value.materialization.isSome then
    .error (.invalidInput "photokit_availability_result")
  else .ok ()

def validateMaterialization (value : PhotoKitMaterializationRecord) : Except PlatformError Unit :=
  if value.blob.byteLength = 0 ∨ value.blob.byteLength > PHOTOKIT_MAX_RESOURCE_BYTES ∨
      value.pixelWidth = 0 ∨ value.pixelWidth > 16384 ∨ value.pixelHeight = 0 ∨
      value.pixelHeight > 16384 ∨ value.pixelWidth * value.pixelHeight > 64000000 ∨
      ¬ supportedUti value.resourceUti then .error (.invalidInput "photokit_materialization")
  else .ok ()

/-- The random identifiers of what completing an operation inserts, by the assets. -/
structure CompletionIds where
  materializationIds : String → String
  revisionIds : String → String

def MaterializationRow.agrees (stored : MaterializationRow)
    (value : PhotoKitMaterializationRecord) : Bool :=
  stored.blobSha256 = value.blob.sha256 ∧ stored.byteLength = value.blob.byteLength ∧
    stored.resourceUti = value.resourceUti ∧ stored.pixelWidth = value.pixelWidth ∧
    stored.pixelHeight = value.pixelHeight

def insertMaterialization (ids : CompletionIds) (assetId operationId : String)
    (value : PhotoKitMaterializationRecord) (nowMs : ℤ) : Transaction String := do
  check (validateSha256 value.resourceFingerprint)
  check (validateSha256 value.blob.sha256)
  check (validateMaterialization value)
  insertBlobOrIgnore value.blob.sha256 value.blob.byteLength
  let t ← state
  rejectIf (.conflict "blob_length_changed")
    (t.blobs.find? value.blob.sha256 ≠ some value.blob.byteLength)
  insertMaterializationOrIgnore ⟨ids.materializationIds assetId, assetId, operationId,
    value.resourceFingerprint, value.blob.sha256, value.blob.byteLength, value.resourceUti,
    value.pixelWidth, value.pixelHeight, nowMs⟩
  let t ← state
  match t.materializations.find? fun row =>
      row.assetId = assetId ∧ row.resourceFingerprint = value.resourceFingerprint with
  | none => fail .sqlite
  | some stored => do
    rejectIf (.conflict "photokit_materialization_collision") (¬ stored.agrees value)
    pure stored.materializationId

def insertMaterializationOf (ids : CompletionIds) (assetId operationId : String)
    (materialization : Option PhotoKitMaterializationRecord) (nowMs : ℤ) :
    Transaction (Option String) :=
  match materialization with
  | some value => do
    let materializationId ← insertMaterialization ids assetId operationId value nowMs
    pure (some materializationId)
  | none => pure none

def verifyAssetIdentity (assetId enrollmentEpoch locatorId : String) : Transaction Unit := do
  let t ← state
  match t.assets.find? assetId with
  | none => fail .sqlite
  | some row =>
    rejectIf (.conflict "photokit_asset_identity")
      (row.enrollmentEpoch ≠ enrollmentEpoch ∨ row.locatorId ≠ locatorId)

def finalizeLocator (locatorId : String) : Transaction Unit :=
  update fun t => { t with
    locators := t.locators.map fun row =>
      if row.locatorId = locatorId then { row with finalized := true } else row }

def finalizeObservation (ids : CompletionIds) (operation : PhotoKitOperation) (nowMs : ℤ)
    (stored : ObservationRow) (result : PhotoKitFinalizedObservation) : Transaction Bool := do
  check (validateAvailabilityResult result)
  finalizeLocator stored.locatorId
  insertAssetOrIgnore stored.assetId ⟨operation.enrollmentEpoch, stored.locatorId, nowMs⟩
  verifyAssetIdentity stored.assetId operation.enrollmentEpoch stored.locatorId
  let materializationId ← insertMaterializationOf ids stored.assetId operation.operationId
    result.materialization nowMs
  let (revisionId, changed) ← transitionHead ids.revisionIds stored.assetId
    operation.enrollmentEpoch operation.operationId (some operation.proposedMembershipGeneration)
    result.availability result.reason materializationId nowMs
  insertMember ⟨operation.enrollmentEpoch, operation.proposedMembershipGeneration, result.ordinal,
    stored.assetId, revisionId⟩
  pure changed

def finalizeObservations (ids : CompletionIds) (operation : PhotoKitOperation) (nowMs : ℤ) :
    ℕ → List (ObservationRow × PhotoKitFinalizedObservation) → Transaction ℕ
  | transitions, [] => pure transitions
  | transitions, (stored, result) :: rest => do
    let changed ← finalizeObservation ids operation nowMs stored result
    let transitions ← check (countTransition transitions changed)
    finalizeObservations ids operation nowMs transitions rest

def priorActiveAssetsNotObserved (t : ConnectorTables) (enrollmentEpoch : String)
    (observed : List String) : List String :=
  let prior := match (t.enrollments.find? enrollmentEpoch).bind
      EnrollmentRow.activeMembershipGeneration with
    | none => t.headAssets enrollmentEpoch
    | some generation =>
      ((t.membersOf enrollmentEpoch generation).map MemberRow.assetId).insertionSort (· ≤ ·)
  prior.filter fun assetId => assetId ∉ observed

def sumAcceptedBytes (observations : List PhotoKitFinalizedObservation) : Except PlatformError ℕ :=
  observations.foldlM (fun total item => do
    let bytes ← asI64 ((item.materialization.map fun value => value.blob.byteLength).getD 0)
      "photokit_accepted_bytes"
    asI64 (total + bytes) "photokit_accepted_bytes") 0

def finalizeComplete (ids : CompletionIds) (operation : PhotoKitOperation)
    (authorization : PhotoKitAuthorizationV1) (observations : List PhotoKitFinalizedObservation)
    (nowMs : ℤ) : Transaction PhotoKitPublication := atomically do
  rejectIf (.invalidInput "photokit_observations") (observations.length > 500)
  let current ← operationState operation.operationId
  if current = .complete then do
    let t ← state
    check (terminalPublication services t operation)
  else do
    rejectIf (.conflict "photokit_operation_not_replayable")
      (current = .failed ∨ current = .interrupted ∨ current = .stale)
    ensureCurrentOperation operation .materializing
    let t ← state
    let rows := t.observationsOf operation.operationId
    rejectIf (.conflict "photokit_enumeration_incomplete")
      (rows.map ObservationRow.ordinal ≠ observations.map PhotoKitFinalizedObservation.ordinal)
    let availableCount := observations.countP fun item => item.availability = .available
    let generation ← check (asI64 operation.proposedMembershipGeneration "photokit_generation")
    insertGeneration operation.enrollmentEpoch generation ⟨operation.operationId,
      observations.length, availableCount, observations.length - availableCount, nowMs⟩
    let transitions ← finalizeObservations ids operation nowMs 0 (rows.zip observations)
    let t ← state
    let transitions ← transitionUnavailable ids.revisionIds operation.enrollmentEpoch
      operation.operationId (some operation.proposedMembershipGeneration) .assetNotInScope nowMs
      transitions (priorActiveAssetsNotObserved t operation.enrollmentEpoch
        (rows.map ObservationRow.assetId))
    incrementPhotokitRevision
    let t ← state
    let (observed, available, unavailable) := t.headCounts operation.enrollmentEpoch
    updateEnrollment operation.enrollmentEpoch .active fun row =>
      { row with activeMembershipGeneration := some generation }
    updateConnectorOf operation fun connector =>
      { connector with
        state := .ready
        authorization := authorization
        activeMembershipGeneration := some generation
        observedCount := observed
        availableCount := available
        unavailableCount := unavailable
        lastCompleteAtMs := some nowMs
        updatedAtMs := nowMs }
    let t ← state
    let snapshot ← check (snapshotOf services t authorization)
    let publication : PhotoKitPublication := ⟨operation.operationId,
      operation.reconciliationFence, some operation.proposedMembershipGeneration, transitions,
      false, snapshot⟩
    let accepted ← check (sumAcceptedBytes observations)
    publishOperation services operation (· = .materializing) .complete none (some accepted)
      publication nowMs
    pure publication

/-! ## Recovery -/

def interruptOperation (nowMs : ℤ) (operationId : String) : Transaction Unit := do
  let _ ← updateOperation operationId OperationState.isLive fun row =>
    { row with
      state := .interrupted
      terminalReason := some "restore_interrupted"
      finishedAtMs := some nowMs }
  cleanupProvisionalOperation operationId

/-- The operations that have not ended, the ones that began first in front. -/
def liveOperations (t : ConnectorTables) : List String :=
  ((t.operations.rows.filter fun row => row.2.state.isLive).insertionSort fun a b =>
    a.2.startedAtMs < b.2.startedAtMs ∨ (a.2.startedAtMs = b.2.startedAtMs ∧ a.1 ≤ b.1)).map
    Prod.fst

def settleConnector (nowMs : ℤ) : Transaction Unit := do
  let t ← state
  if t.connector.state = .reconciling then
    updateConnector fun connector =>
      { connector with
        state := if connector.activeEnrollmentEpoch = none then .unconfigured else .ready
        updatedAtMs := nowMs }
  else pure ()

def recoverOperations (nowMs : ℤ) : Transaction ℕ := atomically do
  let t ← state
  let interrupted ← Fallible.forEach (interruptOperation nowMs) (liveOperations t)
  settleConnector nowMs
  pure interrupted.length

end Threadbook.PhotoKit
