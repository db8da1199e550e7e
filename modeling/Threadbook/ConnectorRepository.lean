import Threadbook.ConnectorTables

/-!
# The repository of the connector

Each operation of the repository is one transaction. An operation on the album is current as long
as it holds the fence of the enrollment that is followed, and it publishes when it ends.
-/

namespace Threadbook.PhotoKit

open Fallible (atomically check fail rejectIf state update)

variable (services : ConnectorServices)

def validateUuid (value field : String) : Except PlatformError Unit :=
  if services.isUuid value then .ok () else .error (.invalidInput field)

def validateAscii (value : String) (maximum : ℕ) (field : String) : Except PlatformError Unit :=
  if value.isEmpty ∨ byteLength value > maximum ∨
      (value.toList.any fun c => 128 ≤ c.toNat || isControl c) then .error (.invalidInput field)
  else .ok ()

def validateEnvelopeHash (value : String) : Except PlatformError Unit :=
  if isHash value then .ok () else .error (.invalidInput "photokit_envelope_hash")

def validateSha256 (value : String) : Except PlatformError Unit :=
  if isHash value then .ok () else .error (.invalidInput "sha256")

/-- An unsigned integer as the tables take it. -/
def asI64 (value : ℕ) (code : String) : Except PlatformError ℕ :=
  if value < 2 ^ 63 then .ok value else .error (.corrupt code)

def attemptResults : List String :=
  ["materialized", "network_access_required", "icloud_unavailable", "unsupported_resource",
    "transfer_failed", "blob_integrity_failed"]

def validateTerminalReason (value : String) : Except PlatformError Unit :=
  if value ∈ ["enumeration_incomplete", "authorization_not_determined", "authorization_restricted",
      "authorization_denied", "limited_access", "scope_unavailable", "locator_key_unavailable",
      "internal"] then .ok ()
  else .error (.invalidInput "photokit_terminal_reason")

/-! ## Locators -/

def protectLocator (rootKey : Bytes) (enrollmentEpoch : String) (recordKind : RecordKind)
    (stableRowId plaintext : String) (nonce : Option Bytes) :
    Except PlatformError ProtectedPhotoKitLocator :=
  if plaintext.isEmpty ∨ byteLength plaintext > 1024 then .error (.invalidInput "photokit_locator")
  else
    match nonce with
    | none => .error (.keychain "random_unavailable")
    | some nonce =>
      .ok ⟨services.locatorLookup rootKey enrollmentEpoch recordKind plaintext, nonce,
        services.encryptLocator rootKey nonce enrollmentEpoch recordKind stableRowId plaintext⟩

def decryptAlbumLocator (t : ConnectorTables) (enrollmentEpoch : String) (rootKey : Bytes) :
    Except PlatformError String :=
  match t.locators.find? fun row => row.enrollmentEpoch = enrollmentEpoch ∧
      row.recordKind = .album ∧ row.finalized with
  | none => .error (.corrupt "photokit_album_locator_missing")
  | some row =>
    match services.decryptLocator rootKey row.locator.nonce enrollmentEpoch .album row.stableRowId
        row.locator.ciphertext with
    | none => .error (.corrupt "photokit_locator_decrypt")
    | some plaintext =>
      match services.decodeUtf8 plaintext with
      | none => .error (.corrupt "photokit_album_locator_encoding")
      | some locator =>
        if services.locatorLookup rootKey enrollmentEpoch .album locator = row.locator.lookupHmac
        then .ok locator else .error (.corrupt "photokit_locator_lookup")

/-! ## Snapshots and publications -/

def availabilityKinds : List (PhotoKitAvailabilityV1 × PhotoKitAvailabilityReasonV1) :=
  [.available, .unavailable].flatMap fun availability =>
    [.accessible, .assetNotInScope, .authorizationDenied, .authorizationNotDetermined,
      .authorizationRestricted, .blobIntegrityFailed, .icloudUnavailable, .limitedAccess,
      .materialized, .scopeUnavailable, .transferFailed, .unsupportedResource].map
      fun reason => (availability, reason)

def availabilityCounts (t : ConnectorTables) (enrollmentEpoch : String) :
    List PhotoKitAvailabilityCountV1 :=
  availabilityKinds.filterMap fun kind =>
    let count := (t.headRevisions enrollmentEpoch).countP fun head =>
      head.availability = kind.1 ∧ head.reason = kind.2
    if count = 0 then none else some ⟨kind.1, kind.2, asU16 count⟩

def numberId (allowZero : Bool) (code : String) (value : ℕ) : Except PlatformError ℕ :=
  if value > MAX_STORED_INTEGER ∨ (¬ allowZero ∧ value = 0) then .error (.corrupt code)
  else .ok value

/-- A value that may be missing, converted. -/
def transposed {A B : Type} (f : A → Except PlatformError B) :
    Option A → Except PlatformError (Option B)
  | none => .ok none
  | some a => (f a).map some

def enrollmentEpochId (value : String) : Except PlatformError String :=
  if services.isUuid value then .ok value else .error (.corrupt "photokit_enrollment_epoch")

def snapshotOf (t : ConnectorTables) (authorization : PhotoKitAuthorizationV1) :
    Except PlatformError PhotoKitConnectorSnapshotV1 := do
  let row := t.connector
  let allowIcloud := ((row.activeEnrollmentEpoch.bind t.enrollments.find?).map
    EnrollmentRow.allowIcloudDownloads).getD false
  let counts := match row.activeEnrollmentEpoch, row.activeMembershipGeneration with
    | some enrollmentEpoch, some _ => availabilityCounts t enrollmentEpoch
    | _, _ => []
  let enrollmentEpoch ← transposed (enrollmentEpochId services) row.activeEnrollmentEpoch
  let generation ← transposed (numberId false "photokit_generation") row.activeMembershipGeneration
  let revision ← numberId true "photokit_revision" t.photokitRevision
  let lastComplete ← transposed services.formatTimestamp row.lastCompleteAtMs
  .ok ⟨row.state, authorization, enrollmentEpoch, generation, revision, allowIcloud, lastComplete,
    ⟨asU16 row.observedCount, asU16 row.availableCount, asU16 row.unavailableCount⟩, counts⟩

def validateTerminalPublication (publication : PhotoKitPublication) (operation : PhotoKitOperation)
    (terminalState : OperationState) : Except PlatformError Unit :=
  if publication.operationId ≠ operation.operationId ∨
      publication.reconciliationFence ≠ operation.reconciliationFence ∨ publication.replayed ∨
      publication.transitions > 500 ∨
      publication.snapshot.enrollmentEpoch ≠ some operation.enrollmentEpoch ∨
      publication.membershipGeneration ≠ publication.snapshot.membershipGeneration ∨
      (terminalState = .complete ∧
        publication.membershipGeneration ≠ some operation.proposedMembershipGeneration) ∨
      ¬ (terminalState = .complete ∨ terminalState = .failed) then
    .error (.corrupt "photokit_terminal_publication_identity")
  else
    match publication.snapshot.validate services.isTimestamp with
    | .error _ => .error (.corrupt "photokit_terminal_publication_snapshot")
    | .ok () => .ok ()

def serializeTerminalPublication (publication : PhotoKitPublication)
    (operation : PhotoKitOperation) (terminalState : OperationState) :
    Except PlatformError PhotoKitPublication := do
  validateTerminalPublication services publication operation terminalState
  if services.publicationLength publication > 16384 then
    .error (.corrupt "photokit_terminal_publication_size")
  else .ok publication

def terminalPublication (t : ConnectorTables) (operation : PhotoKitOperation) :
    Except PlatformError PhotoKitPublication :=
  match t.operations.find? operation.operationId with
  | none => .error .sqlite
  | some row =>
    if row.state = .complete ∨ row.state = .failed then
      match row.terminalPublication with
      | none => .error (.corrupt "photokit_terminal_publication_missing")
      | some publication => do
        validateTerminalPublication services publication operation row.state
        .ok { publication with replayed := true }
    else .error .sqlite

/-! ## Steps that operations share -/

def ensureCurrentOperation (operation : PhotoKitOperation) (expected : OperationState) :
    Transaction Unit := do
  let t ← state
  let _ ← check (asI64 operation.reconciliationFence "photokit_fence")
  if t.isCurrent operation expected then pure () else fail (.conflict "photokit_stale_fence")

def operationState (operationId : String) : Transaction OperationState := do
  let t ← state
  match t.operations.find? operationId with
  | none => fail .sqlite
  | some row => pure row.state

def ensureCurrentOperationAny (operation : PhotoKitOperation) : Transaction Unit := do
  let current ← operationState operation.operationId
  rejectIf (.conflict "photokit_operation_state") (¬ current.isLive)
  ensureCurrentOperation operation current

def nextMembershipGeneration (t : ConnectorTables) (enrollmentEpoch : String) :
    Except PlatformError ℕ :=
  let generation := t.latestGeneration enrollmentEpoch + 1
  if generation ≤ MAX_STORED_INTEGER then .ok generation else .error (.corrupt "photokit_generation")

def openOperation (operationId requestId enrollmentEpoch : String) (currentFence : ℕ)
    (trigger : PhotoKitReconcileTriggerV1) (nowMs : ℤ) : Transaction PhotoKitOperation := do
  let t ← state
  let proposedGeneration ← check (nextMembershipGeneration t enrollmentEpoch)
  let operation : PhotoKitOperation := ⟨operationId, requestId, enrollmentEpoch,
    t.storeAuthorityEpoch, currentFence + 1, proposedGeneration, trigger⟩
  updateEnrollment enrollmentEpoch .active fun row =>
    { row with operationFence := currentFence + 1 }
  insertOperation operation nowMs
  pure operation

def incrementPhotokitRevision : Transaction Unit := do
  let t ← state
  rejectIf (.corrupt "photokit_revision") (¬ t.photokitRevision < MAX_STORED_INTEGER)
  update fun t => { t with photokitRevision := t.photokitRevision + 1 }

def incrementIf (changed : Bool) : Transaction Unit :=
  if changed then incrementPhotokitRevision else pure ()

def RevisionRow.agrees (head : RevisionRow) (enrollmentEpoch : String)
    (availability : PhotoKitAvailabilityV1) (reason : PhotoKitAvailabilityReasonV1)
    (materializationId : Option String) : Bool :=
  head.availability = availability ∧ head.reason = reason ∧
    head.materializationId = materializationId ∧ head.enrollmentEpoch = enrollmentEpoch

def ConnectorTables.agreeingHead (t : ConnectorTables) (assetId enrollmentEpoch : String)
    (availability : PhotoKitAvailabilityV1) (reason : PhotoKitAvailabilityReasonV1)
    (materializationId : Option String) : Option RevisionRow :=
  (t.headRevision assetId).filter fun head =>
    head.agrees enrollmentEpoch availability reason materializationId

/-- Say what is the case with an asset, in a new revision unless its head says so. `revisionIds`
are the random identifiers of new revisions, by their assets. -/
def transitionHead (revisionIds : String → String) (assetId enrollmentEpoch operationId : String)
    (membershipGeneration : Option ℕ) (availability : PhotoKitAvailabilityV1)
    (reason : PhotoKitAvailabilityReasonV1) (materializationId : Option String) (nowMs : ℤ) :
    Transaction (String × Bool) := do
  let t ← state
  match t.agreeingHead assetId enrollmentEpoch availability reason materializationId with
  | some head => pure (head.revisionId, false)
  | none => do
    let generation ← check (transposed (asI64 · "photokit_generation") membershipGeneration)
    insertRevision ⟨revisionIds assetId, assetId, enrollmentEpoch, operationId, generation,
      availability, reason, materializationId, nowMs⟩
    putHead assetId (revisionIds assetId)
    pure (revisionIds assetId, true)

def countTransition (transitions : ℕ) (changed : Bool) : Except PlatformError ℕ :=
  if transitions + changed.toNat < 65536 then .ok (transitions + changed.toNat)
  else .error (.corrupt "photokit_transition_count")

def transitionUnavailable (revisionIds : String → String) (enrollmentEpoch operationId : String)
    (membershipGeneration : Option ℕ) (reason : PhotoKitAvailabilityReasonV1) (nowMs : ℤ) :
    ℕ → List String → Transaction ℕ
  | transitions, [] => pure transitions
  | transitions, assetId :: rest => do
    let (_, changed) ← transitionHead revisionIds assetId enrollmentEpoch operationId
      membershipGeneration .unavailable reason none nowMs
    let transitions ← check (countTransition transitions changed)
    transitionUnavailable revisionIds enrollmentEpoch operationId membershipGeneration reason nowMs
      transitions rest

def enrollmentCounts (t : ConnectorTables) (enrollmentEpoch : String) : ℕ × ℕ × ℕ :=
  if ((t.enrollments.find? enrollmentEpoch).bind
      EnrollmentRow.activeMembershipGeneration).isSome then t.headCounts enrollmentEpoch
  else (0, 0, 0)

def ConnectorTables.cleaned (t : ConnectorTables) (operationId : String) : ConnectorTables :=
  { t with
    attempts := t.attempts.filter fun row => row.operationId ≠ operationId
    observations := t.observations.filter fun row => row.operationId ≠ operationId
    locators := t.locators.filter fun row =>
      ¬ (row.operationId = some operationId ∧ row.finalized = false) }

/-- Forget what an operation has recorded that ended without a generation. -/
def cleanupProvisionalOperation (operationId : String) : Transaction Unit :=
  update fun t => t.cleaned operationId

def publishOperation (operation : PhotoKitOperation) (inState : OperationState → Bool)
    (terminalState : OperationState) (terminalReason : Option String) (acceptedBytes : Option ℕ)
    (publication : PhotoKitPublication) (nowMs : ℤ) : Transaction Unit := do
  let stored ← check (serializeTerminalPublication services publication operation terminalState)
  let changed ← updateOperation operation.operationId inState fun row =>
    { row with
      state := terminalState
      terminalReason := terminalReason
      acceptedBytes := acceptedBytes.getD row.acceptedBytes
      finishedAtMs := some nowMs
      terminalPublication := some stored }
  rejectIf (.conflict "photokit_terminal_publication_exists") (changed = false)

end Threadbook.PhotoKit
