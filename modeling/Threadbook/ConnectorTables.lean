import Mathlib.Data.List.Sort
import Threadbook.ConnectorContract
import Threadbook.Table

/-!
# The tables of the connector

An enrollment is an album that is followed. An operation observes its assets once, under a fence;
what it has observed becomes a membership generation when it completes. The availability of an
asset is a chain of revisions, and its head says which one counts. Keys, unique indices,
references and checks of the tables are what makes a statement fail.

Identifiers are random and come from outside; they have the form the tables ask for.
-/

namespace Threadbook.PhotoKit

open Promotion (RequestId ReplayStatusV1)

/-- The largest fence, generation and revision the tables hold. -/
def MAX_STORED_INTEGER : ℕ := 9007199254740990

/-! ## Rows -/

inductive EnrollmentState
  | pending
  | active
  | inactive
  deriving DecidableEq

/-- A row of `photokit_enrollments`. -/
structure EnrollmentRow where
  keyReference : String
  state : EnrollmentState
  allowIcloudDownloads : Bool
  operationFence : ℕ
  activeMembershipGeneration : Option ℕ
  createdAtMs : ℤ
  activatedAtMs : Option ℤ
  inactivatedAtMs : Option ℤ

/-- The only row of `photokit_connector_state`. -/
structure ConnectorRow where
  state : PhotoKitConnectorStateV1
  authorization : PhotoKitAuthorizationV1
  activeEnrollmentEpoch : Option String
  activeMembershipGeneration : Option ℕ
  observedCount : ℕ
  availableCount : ℕ
  unavailableCount : ℕ
  lastCompleteAtMs : Option ℤ
  updatedAtMs : ℤ

def ConnectorRow.counts (row : ConnectorRow) : ℕ × ℕ × ℕ :=
  (row.observedCount, row.availableCount, row.unavailableCount)

inductive RecordKind
  | album
  | asset
  deriving DecidableEq

/-- A locator as it is stored: it can be found and decrypted with the key of its enrollment. -/
structure ProtectedPhotoKitLocator where
  lookupHmac : Bytes
  nonce : Bytes
  ciphertext : Bytes

/-- A row of `photokit_locator_records`. -/
structure LocatorRow where
  locatorId : String
  enrollmentEpoch : String
  operationId : Option String
  recordKind : RecordKind
  stableRowId : String
  locator : ProtectedPhotoKitLocator
  finalized : Bool
  createdAtMs : ℤ

/-- A row of `photokit_assets`. -/
structure AssetRow where
  enrollmentEpoch : String
  locatorId : String
  createdAtMs : ℤ

inductive OperationState
  | enumerating
  | materializing
  | complete
  | failed
  | interrupted
  | stale
  deriving DecidableEq

def OperationState.isLive (state : OperationState) : Bool :=
  state = .enumerating ∨ state = .materializing

structure PhotoKitPublication where
  operationId : String
  reconciliationFence : ℕ
  membershipGeneration : Option ℕ
  transitions : ℕ
  replayed : Bool
  snapshot : PhotoKitConnectorSnapshotV1

structure PhotoKitOperation where
  operationId : String
  requestId : String
  enrollmentEpoch : String
  storeAuthorityEpoch : String
  reconciliationFence : ℕ
  proposedMembershipGeneration : ℕ
  trigger : PhotoKitReconcileTriggerV1
  deriving DecidableEq

/-- A row of `photokit_operations`; the publication is kept as JSON. -/
structure OperationRow where
  operation : PhotoKitOperation
  state : OperationState
  terminalReason : Option String
  observedCount : ℕ
  acceptedBytes : ℕ
  startedAtMs : ℤ
  finishedAtMs : Option ℤ
  terminalPublication : Option PhotoKitPublication

def OperationRow.begun (operation : PhotoKitOperation) (nowMs : ℤ) : OperationRow :=
  ⟨operation, .enumerating, none, 0, 0, nowMs, none, none⟩

/-- A row of `photokit_operation_observations`. -/
structure ObservationRow where
  operationId : String
  ordinal : ℕ
  assetId : String
  locatorId : String
  resourceUti : Option String
  supported : Bool

/-- A row of `photokit_materialization_attempts`. -/
structure MaterializationAttemptRow where
  attemptId : String
  operationId : String
  observationOrdinal : ℕ
  attemptOrdinal : ℕ
  networkAccessAllowed : Bool
  acceptedBytes : ℕ
  result : String
  createdAtMs : ℤ

/-- A row of `photokit_membership_generations`. -/
structure GenerationRow where
  operationId : String
  observedCount : ℕ
  availableCount : ℕ
  unavailableCount : ℕ
  completedAtMs : ℤ

/-- A row of `photokit_materializations`. -/
structure MaterializationRow where
  materializationId : String
  assetId : String
  operationId : String
  resourceFingerprint : String
  blobSha256 : String
  byteLength : ℕ
  resourceUti : String
  pixelWidth : ℕ
  pixelHeight : ℕ
  createdAtMs : ℤ

/-- A row of `photokit_availability_revisions`. -/
structure RevisionRow where
  revisionId : String
  assetId : String
  enrollmentEpoch : String
  operationId : String
  membershipGeneration : Option ℕ
  availability : PhotoKitAvailabilityV1
  reason : PhotoKitAvailabilityReasonV1
  materializationId : Option String
  createdAtMs : ℤ

/-- A row of `photokit_generation_members`. -/
structure MemberRow where
  enrollmentEpoch : String
  membershipGeneration : ℕ
  ordinal : ℕ
  assetId : String
  revisionId : String

inductive CommandName
  | configurePhotokitScope
  | syncPhotokit
  | disablePhotokit
  deriving DecidableEq

inductive CommandResponse
  | configure (response : ConfigurePhotoKitScopeV1Response)
  | disable (response : DisablePhotoKitV1Response)

/-- A row of `photokit_command_receipts`; the response is kept as JSON. -/
structure CommandReceiptRow where
  commandName : CommandName
  envelopeHash : String
  enrollmentEpoch : Option String
  operationId : Option String
  response : CommandResponse
  createdAtMs : ℤ

/-- The tables. Rows that are only ever searched are in the order they were inserted in. -/
structure ConnectorTables where
  storeAuthorityEpoch : String
  photokitRevision : ℕ
  connector : ConnectorRow
  enrollments : Table String EnrollmentRow
  locators : List LocatorRow
  assets : Table String AssetRow
  operations : Table String OperationRow
  observations : List ObservationRow
  attempts : List MaterializationAttemptRow
  generations : Table (String × ℕ) GenerationRow
  materializations : List MaterializationRow
  blobs : Table String ℕ
  revisions : List RevisionRow
  heads : Table String String
  members : List MemberRow
  receipts : Table RequestId CommandReceiptRow

/-- What the repository relies on. -/
structure ConnectorServices where
  isUuid : String → Bool
  isTimestamp : String → Bool
  formatTimestamp : ℤ → Except PlatformError String
  publicationLength : PhotoKitPublication → ℕ
  responseLength : CommandResponse → ℕ
  locatorLookup : Bytes → String → RecordKind → String → Bytes
  encryptLocator : Bytes → Bytes → String → RecordKind → String → String → Bytes
  decryptLocator : Bytes → Bytes → String → RecordKind → String → Bytes → Option Bytes
  decodeUtf8 : Bytes → Option String

abbrev Transaction (α : Type) : Type := Fallible ConnectorTables PlatformError α

open Fallible (check fail rejectIf state update)

/-! ## Checks of the tables -/

def EnrollmentRow.allowed (row : EnrollmentRow) : Bool :=
  row.operationFence ≤ MAX_STORED_INTEGER ∧
    (∀ generation ∈ row.activeMembershipGeneration,
      1 ≤ generation ∧ generation ≤ MAX_STORED_INTEGER) ∧
    0 ≤ row.createdAtMs ∧ (∀ activated ∈ row.activatedAtMs, row.createdAtMs ≤ activated) ∧
    ∀ inactivated ∈ row.inactivatedAtMs, row.createdAtMs ≤ inactivated

def ConnectorRow.allowed (row : ConnectorRow) : Bool :=
  row.observedCount ≤ MAX_PHOTOKIT_ASSETS ∧ row.availableCount ≤ MAX_PHOTOKIT_ASSETS ∧
    row.unavailableCount ≤ MAX_PHOTOKIT_ASSETS ∧
    (∀ generation ∈ row.activeMembershipGeneration,
      1 ≤ generation ∧ generation ≤ MAX_STORED_INTEGER) ∧
    (∀ completed ∈ row.lastCompleteAtMs, 0 ≤ completed) ∧ 0 ≤ row.updatedAtMs ∧
    row.availableCount + row.unavailableCount = row.observedCount ∧
    (if row.state = .unconfigured then row.activeEnrollmentEpoch = none ∧
        row.activeMembershipGeneration = none ∧ row.observedCount = 0 ∧
        row.lastCompleteAtMs = none
      else row.activeEnrollmentEpoch.isSome) ∧
    (if row.activeMembershipGeneration = none then
        row.lastCompleteAtMs = none ∧ row.observedCount = 0
      else row.lastCompleteAtMs.isSome)

def OperationRow.allowed (row : OperationRow) : Bool :=
  1 ≤ row.operation.reconciliationFence ∧
    row.operation.reconciliationFence ≤ MAX_STORED_INTEGER ∧
    1 ≤ row.operation.proposedMembershipGeneration ∧
    row.operation.proposedMembershipGeneration ≤ MAX_STORED_INTEGER ∧
    row.observedCount ≤ MAX_PHOTOKIT_ASSETS ∧ row.acceptedBytes ≤ 536870912 ∧
    0 ≤ row.startedAtMs ∧ ∀ finished ∈ row.finishedAtMs, row.startedAtMs ≤ finished

def updateConnector (f : ConnectorRow → ConnectorRow) : Transaction Unit := do
  let t ← state
  rejectIf .sqlite (¬ (f t.connector).allowed)
  update fun t => { t with connector := f t.connector }

def updateEnrollment (enrollmentEpoch : String) (inState : EnrollmentState)
    (f : EnrollmentRow → EnrollmentRow) : Transaction Unit := do
  let t ← state
  match t.enrollments.find? enrollmentEpoch with
  | none => pure ()
  | some row =>
    if row.state = inState then do
      rejectIf .sqlite (¬ (f row).allowed)
      update fun t => { t with enrollments := t.enrollments.put enrollmentEpoch (f row) }
    else pure ()

def updateOperation (operationId : String) (inState : OperationState → Bool)
    (f : OperationRow → OperationRow) : Transaction Bool := do
  let t ← state
  match t.operations.find? operationId with
  | none => pure false
  | some row =>
    if inState row.state then do
      rejectIf .sqlite (¬ (f row).allowed)
      update fun t => { t with operations := t.operations.put operationId (f row) }
      pure true
    else pure false

/-! ## Insertions

Each insertion fails when the new row clashes with a key, a unique index, a reference or a check. -/

namespace ConnectorTables

def enrollmentClashes (t : ConnectorTables) (enrollmentEpoch : String) (row : EnrollmentRow) :
    Bool :=
  (t.enrollments.find? enrollmentEpoch).isSome ∨
    (∃ other ∈ t.enrollments.rows, other.2.keyReference = row.keyReference) ∨ ¬ row.allowed

def operationClashes (t : ConnectorTables) (row : OperationRow) : Bool :=
  (t.operations.find? row.operation.operationId).isSome ∨
    (∃ other ∈ t.operations.rows, other.2.operation.requestId = row.operation.requestId ∨
      (other.2.operation.enrollmentEpoch = row.operation.enrollmentEpoch ∧
        other.2.operation.reconciliationFence = row.operation.reconciliationFence)) ∨
    (t.enrollments.find? row.operation.enrollmentEpoch).isNone ∨ ¬ row.allowed

def locatorClashes (t : ConnectorTables) (row : LocatorRow) : Bool :=
  (∃ other ∈ t.locators, other.locatorId = row.locatorId ∨
      other.locator.nonce = row.locator.nonce ∨
      (other.enrollmentEpoch = row.enrollmentEpoch ∧ other.recordKind = row.recordKind ∧
        (other.locator.lookupHmac = row.locator.lookupHmac ∨
          other.stableRowId = row.stableRowId))) ∨
    (t.enrollments.find? row.enrollmentEpoch).isNone ∨ row.createdAtMs < 0

def hasLocator (t : ConnectorTables) (locatorId : String) : Bool :=
  t.locators.any fun row => row.locatorId = locatorId

def observationClashes (t : ConnectorTables) (row : ObservationRow) : Bool :=
  500 ≤ row.ordinal ∨
    (∃ other ∈ t.observations, other.operationId = row.operationId ∧
      (other.ordinal = row.ordinal ∨ other.assetId = row.assetId ∨
        other.locatorId = row.locatorId)) ∨
    (t.operations.find? row.operationId).isNone ∨ ¬ t.hasLocator row.locatorId

def attemptClashes (t : ConnectorTables) (row : MaterializationAttemptRow) : Bool :=
  (∃ other ∈ t.attempts, other.attemptId = row.attemptId ∨
      (other.operationId = row.operationId ∧
        other.observationOrdinal = row.observationOrdinal ∧
        other.attemptOrdinal = row.attemptOrdinal)) ∨
    (¬ ∃ observation ∈ t.observations, observation.operationId = row.operationId ∧
      observation.ordinal = row.observationOrdinal) ∨ row.createdAtMs < 0

def generationClashes (t : ConnectorTables) (enrollmentEpoch : String) (generation : ℕ)
    (row : GenerationRow) : Bool :=
  (t.generations.find? (enrollmentEpoch, generation)).isSome ∨
    (∃ other ∈ t.generations.rows, other.2.operationId = row.operationId) ∨
    ¬ (1 ≤ generation ∧ generation ≤ MAX_STORED_INTEGER) ∨
    row.observedCount > MAX_PHOTOKIT_ASSETS ∨ row.availableCount > MAX_PHOTOKIT_ASSETS ∨
    row.unavailableCount > MAX_PHOTOKIT_ASSETS ∨
    row.availableCount + row.unavailableCount ≠ row.observedCount ∨ row.completedAtMs < 0 ∨
    (t.enrollments.find? enrollmentEpoch).isNone ∨ (t.operations.find? row.operationId).isNone

def hasMaterialization (t : ConnectorTables) (materializationId : String) : Bool :=
  t.materializations.any fun row => row.materializationId = materializationId

def hasRevision (t : ConnectorTables) (revisionId : String) : Bool :=
  t.revisions.any fun row => row.revisionId = revisionId

def revisionClashes (t : ConnectorTables) (row : RevisionRow) : Bool :=
  t.hasRevision row.revisionId ∨ ¬ row.availability.fits row.reason ∨
    (row.reason = .materialized ∧ row.materializationId = none) ∨ row.createdAtMs < 0 ∨
    (t.assets.find? row.assetId).isNone ∨ (t.enrollments.find? row.enrollmentEpoch).isNone ∨
    (t.operations.find? row.operationId).isNone ∨
    (row.membershipGeneration.any fun generation =>
      (t.generations.find? (row.enrollmentEpoch, generation)).isNone) ∨
    row.materializationId.any fun materializationId => !t.hasMaterialization materializationId

def headClashes (t : ConnectorTables) (assetId revisionId : String) : Bool :=
  (∃ other ∈ t.heads.rows, other.1 ≠ assetId ∧ other.2 = revisionId) ∨
    (t.assets.find? assetId).isNone ∨ ¬ t.hasRevision revisionId

def memberClashes (t : ConnectorTables) (row : MemberRow) : Bool :=
  500 ≤ row.ordinal ∨
    (∃ other ∈ t.members, other.enrollmentEpoch = row.enrollmentEpoch ∧
      other.membershipGeneration = row.membershipGeneration ∧
      (other.ordinal = row.ordinal ∨ other.assetId = row.assetId)) ∨
    (t.assets.find? row.assetId).isNone ∨ ¬ t.hasRevision row.revisionId ∨
    (t.generations.find? (row.enrollmentEpoch, row.membershipGeneration)).isNone

end ConnectorTables

def insertEnrollment (enrollmentEpoch : String) (row : EnrollmentRow) : Transaction Unit := do
  let t ← state
  rejectIf .sqlite (t.enrollmentClashes enrollmentEpoch row)
  update fun t => { t with enrollments := t.enrollments.put enrollmentEpoch row }

def insertOperation (operation : PhotoKitOperation) (nowMs : ℤ) : Transaction Unit := do
  let t ← state
  rejectIf .sqlite (t.operationClashes (.begun operation nowMs))
  update fun t => { t with
    operations := t.operations.put operation.operationId (.begun operation nowMs) }

def insertLocator (row : LocatorRow) : Transaction Unit := do
  let t ← state
  rejectIf .sqlite (t.locatorClashes row)
  update fun t => { t with locators := t.locators ++ [row] }

def insertObservation (row : ObservationRow) : Transaction Unit := do
  let t ← state
  rejectIf .sqlite (t.observationClashes row)
  update fun t => { t with observations := t.observations ++ [row] }

def insertAttempt (row : MaterializationAttemptRow) : Transaction Unit := do
  let t ← state
  rejectIf .sqlite (t.attemptClashes row)
  update fun t => { t with attempts := t.attempts ++ [row] }

def insertGeneration (enrollmentEpoch : String) (generation : ℕ) (row : GenerationRow) :
    Transaction Unit := do
  let t ← state
  rejectIf .sqlite (t.generationClashes enrollmentEpoch generation row)
  update fun t => { t with generations := t.generations.put (enrollmentEpoch, generation) row }

def insertAssetOrIgnore (assetId : String) (row : AssetRow) : Transaction Unit := do
  let t ← state
  if (t.assets.find? assetId).isSome ∨
      (∃ other ∈ t.assets.rows, other.2.locatorId = row.locatorId) ∨ row.createdAtMs < 0 then
    pure ()
  else do
    rejectIf .sqlite ((t.enrollments.find? row.enrollmentEpoch).isNone ∨
      ¬ t.hasLocator row.locatorId)
    update fun t => { t with assets := t.assets.put assetId row }

def insertBlobOrIgnore (sha256 : String) (byteLength : ℕ) : Transaction Unit :=
  update fun t => { t with blobs := (t.blobs.insertOrIgnore sha256 byteLength).1 }

def insertMaterializationOrIgnore (row : MaterializationRow) : Transaction Unit := do
  let t ← state
  if t.hasMaterialization row.materializationId ∨
      (∃ other ∈ t.materializations, other.assetId = row.assetId ∧
        other.resourceFingerprint = row.resourceFingerprint) ∨ row.createdAtMs < 0 then pure ()
  else do
    rejectIf .sqlite ((t.assets.find? row.assetId).isNone ∨
      (t.operations.find? row.operationId).isNone ∨ (t.blobs.find? row.blobSha256).isNone)
    update fun t => { t with materializations := t.materializations ++ [row] }

def insertRevision (row : RevisionRow) : Transaction Unit := do
  let t ← state
  rejectIf .sqlite (t.revisionClashes row)
  update fun t => { t with revisions := t.revisions ++ [row] }

def putHead (assetId revisionId : String) : Transaction Unit := do
  let t ← state
  rejectIf .sqlite (t.headClashes assetId revisionId)
  update fun t => { t with heads := t.heads.put assetId revisionId }

def insertMember (row : MemberRow) : Transaction Unit := do
  let t ← state
  rejectIf .sqlite (t.memberClashes row)
  update fun t => { t with members := t.members ++ [row] }

def insertCommandReceipt (services : ConnectorServices) (requestId : RequestId)
    (row : CommandReceiptRow) : Transaction Unit := do
  let t ← state
  rejectIf (.conflict "photokit_request_reused") (t.receipts.find? requestId).isSome
  rejectIf (.corrupt "photokit_receipt_response") (services.responseLength row.response > 8192)
  rejectIf .sqlite (row.createdAtMs < 0)
  update fun t => { t with receipts := t.receipts.put requestId row }

/-! ## Queries -/

namespace ConnectorTables

def activeEnrollment (t : ConnectorTables) : Option (String × EnrollmentRow) :=
  match t.connector.activeEnrollmentEpoch with
  | none => none
  | some epoch =>
    match t.enrollments.find? epoch with
    | none => none
    | some row => if row.state = .active then some (epoch, row) else none

def operationByRequest (t : ConnectorTables) (requestId : String) : Option OperationRow :=
  (t.operations.rows.find? fun row => row.2.operation.requestId = requestId).map Prod.snd

def isCurrent (t : ConnectorTables) (operation : PhotoKitOperation) (expected : OperationState) :
    Bool :=
  match t.operations.find? operation.operationId with
  | none => false
  | some row =>
    match t.enrollments.find? row.operation.enrollmentEpoch with
    | none => false
    | some enrollment =>
      t.connector.activeEnrollmentEpoch = some row.operation.enrollmentEpoch ∧
        t.storeAuthorityEpoch = row.operation.storeAuthorityEpoch ∧ row.state = expected ∧
        row.operation.reconciliationFence = operation.reconciliationFence ∧
        enrollment.operationFence = operation.reconciliationFence ∧ enrollment.state = .active

def latestGeneration (t : ConnectorTables) (enrollmentEpoch : String) : ℕ :=
  ((t.generations.rows.filter fun row => row.1.1 = enrollmentEpoch).map fun row =>
    row.1.2).foldr max 0

def observationsOf (t : ConnectorTables) (operationId : String) : List ObservationRow :=
  (t.observations.filter fun row => row.operationId = operationId).insertionSort
    fun a b => a.ordinal ≤ b.ordinal

def revision? (t : ConnectorTables) (revisionId : String) : Option RevisionRow :=
  t.revisions.find? fun row => row.revisionId = revisionId

def headRevision (t : ConnectorTables) (assetId : String) : Option RevisionRow :=
  (t.heads.find? assetId).bind t.revision?

def isAssetOf (t : ConnectorTables) (enrollmentEpoch assetId : String) : Bool :=
  (t.assets.find? assetId).any fun row => row.enrollmentEpoch = enrollmentEpoch

def headAssets (t : ConnectorTables) (enrollmentEpoch : String) : List String :=
  ((t.heads.rows.map Prod.fst).filter (t.isAssetOf enrollmentEpoch)).insertionSort (· ≤ ·)

def headRevisions (t : ConnectorTables) (enrollmentEpoch : String) : List RevisionRow :=
  t.heads.rows.filterMap fun head =>
    if t.isAssetOf enrollmentEpoch head.1 then t.revision? head.2 else none

/-- How many heads there are, and how many say that their asset is available or unavailable. -/
def headCounts (t : ConnectorTables) (enrollmentEpoch : String) : ℕ × ℕ × ℕ :=
  let heads := t.headRevisions enrollmentEpoch
  (heads.length, heads.countP fun head => head.availability = .available,
    heads.countP fun head => head.availability = .unavailable)

def membersOf (t : ConnectorTables) (enrollmentEpoch : String) (generation : ℕ) :
    List MemberRow :=
  t.members.filter fun row =>
    row.enrollmentEpoch = enrollmentEpoch ∧ row.membershipGeneration = generation

end ConnectorTables

end Threadbook.PhotoKit
