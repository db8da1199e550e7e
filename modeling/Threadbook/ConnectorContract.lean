import Threadbook.PhotoKitProtocol
import Threadbook.ReceiptReview

/-!
# The contract of the connector

What the connector tells about an enrolled album: how many of its assets were observed, how many
of them are available, and why. A snapshot that breaks its contract is not published.
-/

namespace Threadbook.PhotoKit

open Promotion (RequestId ReplayStatusV1)

def MAX_PHOTOKIT_ASSETS : ℕ := 500
def MAX_PHOTOKIT_AVAILABILITY_COUNTS : ℕ := 12

def asU16 (count : ℕ) : ℕ := count % 65536

inductive PhotoKitConnectorStateV1
  | unconfigured
  | setupRequired
  | ready
  | reconciling
  | needsAttention
  deriving DecidableEq

inductive PhotoKitAvailabilityV1
  | available
  | unavailable
  deriving DecidableEq

inductive PhotoKitAvailabilityReasonV1
  | materialized
  | accessible
  | authorizationNotDetermined
  | authorizationRestricted
  | authorizationDenied
  | limitedAccess
  | scopeUnavailable
  | assetNotInScope
  | icloudUnavailable
  | unsupportedResource
  | transferFailed
  | blobIntegrityFailed
  deriving DecidableEq

inductive PhotoKitReconcileTriggerV1
  | startup
  | user
  | libraryChange
  deriving DecidableEq

def PhotoKitAvailabilityReasonV1.explainsAvailable (reason : PhotoKitAvailabilityReasonV1) : Bool :=
  reason = .materialized ∨ reason = .accessible

def PhotoKitAvailabilityV1.fits (availability : PhotoKitAvailabilityV1)
    (reason : PhotoKitAvailabilityReasonV1) : Bool :=
  match availability with
  | .available => reason.explainsAvailable
  | .unavailable => !reason.explainsAvailable

/-! ## Counts -/

structure PhotoKitAssetCountsV1 where
  observed : ℕ
  available : ℕ
  unavailable : ℕ
  deriving DecidableEq

def PhotoKitAssetCountsV1.validate (counts : PhotoKitAssetCountsV1) : Except ValidationError Unit :=
  if counts.observed > MAX_PHOTOKIT_ASSETS ∨ counts.available > MAX_PHOTOKIT_ASSETS ∨
      counts.unavailable > MAX_PHOTOKIT_ASSETS ∨
      counts.available + counts.unavailable ≠ counts.observed then .error ⟨.photoKitCounts⟩
  else .ok ()

structure PhotoKitAvailabilityCountV1 where
  availability : PhotoKitAvailabilityV1
  reason : PhotoKitAvailabilityReasonV1
  count : ℕ
  deriving DecidableEq

def PhotoKitAvailabilityCountV1.validate (entry : PhotoKitAvailabilityCountV1) :
    Except ValidationError Unit :=
  if entry.count = 0 ∨ entry.count > MAX_PHOTOKIT_ASSETS ∨
      ¬ entry.availability.fits entry.reason then .error ⟨.photoKitAvailability⟩
  else .ok ()

def countedUnder (availability : PhotoKitAvailabilityV1)
    (entries : List PhotoKitAvailabilityCountV1) : ℕ :=
  ((entries.filter fun entry => entry.availability = availability).map
    PhotoKitAvailabilityCountV1.count).sum

def validateEntries : List PhotoKitAvailabilityCountV1 → List PhotoKitAvailabilityCountV1 →
    Except ValidationError Unit
  | _, [] => .ok ()
  | prior, entry :: rest => do
    entry.validate
    if prior.any fun other =>
        other.availability = entry.availability ∧ other.reason = entry.reason then
      .error ⟨.photoKitAvailability⟩
    else validateEntries (prior ++ [entry]) rest

def validateAvailabilityCounts (counts : PhotoKitAssetCountsV1)
    (availabilityCounts : List PhotoKitAvailabilityCountV1) : Except ValidationError Unit :=
  if availabilityCounts.length > MAX_PHOTOKIT_AVAILABILITY_COUNTS then
    .error ⟨.photoKitAvailability⟩
  else do
    validateEntries [] availabilityCounts
    if countedUnder .available availabilityCounts ≠ counts.available ∨
        countedUnder .unavailable availabilityCounts ≠ counts.unavailable then
      .error ⟨.photoKitAvailability⟩
    else .ok ()

/-! ## Snapshots -/

structure PhotoKitConnectorSnapshotV1 where
  state : PhotoKitConnectorStateV1
  authorization : PhotoKitAuthorizationV1
  enrollmentEpoch : Option String
  membershipGeneration : Option ℕ
  photokitRevision : ℕ
  allowIcloudDownloads : Bool
  lastCompleteAt : Option String
  counts : PhotoKitAssetCountsV1
  availabilityCounts : List PhotoKitAvailabilityCountV1
  deriving DecidableEq

def PhotoKitConnectorStateV1.isConfigured (state : PhotoKitConnectorStateV1) : Bool :=
  state = .ready ∨ state = .reconciling ∨ state = .needsAttention

/-- The contract of a snapshot; `isTimestamp` says which texts are timestamps. -/
def PhotoKitConnectorSnapshotV1.validate (isTimestamp : String → Bool)
    (snapshot : PhotoKitConnectorSnapshotV1) : Except ValidationError Unit := do
  snapshot.counts.validate
  validateAvailabilityCounts snapshot.counts snapshot.availabilityCounts
  if snapshot.lastCompleteAt.any (!isTimestamp ·) then .error ⟨.timestamp⟩
  else
    let hasEnrollment := snapshot.enrollmentEpoch.isSome
    let hasGeneration := snapshot.membershipGeneration.isSome
    if snapshot.state.isConfigured ≠ hasEnrollment ∨
        (¬ hasGeneration ∧ (snapshot.lastCompleteAt.isSome ∨ snapshot.counts.observed ≠ 0 ∨
          snapshot.availabilityCounts ≠ [])) ∨
        (hasGeneration ∧ snapshot.lastCompleteAt.isNone) ∨
        (¬ hasEnrollment ∧ snapshot.allowIcloudDownloads) then .error ⟨.photoKitStatus⟩
    else .ok ()

/-! ## Responses -/

structure ConfigurePhotoKitScopeV1Response where
  schemaVersion : ℕ
  requestId : RequestId
  snapshot : PhotoKitConnectorSnapshotV1
  replayStatus : ReplayStatusV1
  deriving DecidableEq

def ConfigurePhotoKitScopeV1Response.validate (isTimestamp : String → Bool)
    (response : ConfigurePhotoKitScopeV1Response) : Except ValidationError Unit := do
  requireSchemaV1 response.schemaVersion
  response.snapshot.validate isTimestamp
  if response.snapshot.enrollmentEpoch.isNone ∨
      ¬ (response.snapshot.state = .ready ∨ response.snapshot.state = .reconciling) then
    .error ⟨.photoKitStatus⟩
  else .ok ()

structure DisablePhotoKitV1Response where
  schemaVersion : ℕ
  requestId : RequestId
  state : PhotoKitConnectorStateV1
  disabledEnrollmentEpoch : String
  preservedMembershipGeneration : Option ℕ
  photokitRevision : ℕ
  preservedCounts : PhotoKitAssetCountsV1
  replayStatus : ReplayStatusV1
  deriving DecidableEq

def DisablePhotoKitV1Response.validate (response : DisablePhotoKitV1Response) :
    Except ValidationError Unit := do
  requireSchemaV1 response.schemaVersion
  response.preservedCounts.validate
  if response.state ≠ .unconfigured ∨
      (response.preservedMembershipGeneration.isNone ∧ response.preservedCounts.observed ≠ 0) then
    .error ⟨.photoKitStatus⟩
  else .ok ()

end Threadbook.PhotoKit
