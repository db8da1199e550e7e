import Threadbook.ConnectorFrames

/-!
# Calls on the connector

The calls of the repository with all their arguments. A call is one transaction: **one that
returns an error leaves every table as it was** (`run_of_error`).
-/

namespace Threadbook.PhotoKit

open Fallible

open Promotion (RequestId)
open Fallible (Keeps)

/-- A call, with the values that are random. -/
inductive Command
  | reserveEnrollment (enrollmentEpoch keyReference : String) (allowIcloudDownloads : Bool)
      (nowMs : ℤ)
  | removePendingEnrollment (enrollmentEpoch cleanupReason : String)
  | activateEnrollment (input : ActivationInput) (enrollmentEpoch : String) (nowMs : ℤ)
  | activateEnrollmentCommand (input : ActivationInput) (enrollmentEpoch : String)
      (requestId : RequestId) (envelopeHash : String) (nowMs : ℤ)
  | disableCommand (ids : ClosingIds) (request : DisablePhotoKitV1Request) (envelopeHash : String)
      (nowMs : ℤ)
  | beginOperation (operationId requestId : String) (trigger : PhotoKitReconcileTriggerV1)
      (authorization : PhotoKitAuthorizationV1) (nowMs : ℤ)
  | recordObservation (ids : ObservationIds) (operation : PhotoKitOperation) (rootKey : Bytes)
      (ordinal : ℕ) (assetLocator : String) (resourceUti : Option String) (supported : Bool)
      (nowMs : ℤ)
  | markMaterializing (operation : PhotoKitOperation)
  | recordAttempt (attemptId : String) (operation : PhotoKitOperation)
      (ordinal attemptOrdinal : ℕ) (networkAccessAllowed : Bool) (acceptedBytes : ℕ)
      (result : String) (nowMs : ℤ)
  | finalizeGlobalUnavailable (revisionIds : String → String) (operation : PhotoKitOperation)
      (authorization : PhotoKitAuthorizationV1) (reason : Option PhotoKitAvailabilityReasonV1)
      (terminalReason : String) (nowMs : ℤ)
  | finalizeComplete (ids : CompletionIds) (operation : PhotoKitOperation)
      (authorization : PhotoKitAuthorizationV1)
      (observations : List PhotoKitFinalizedObservation) (nowMs : ℤ)
  | recoverOperations (nowMs : ℤ)

/-- What a call returns. -/
inductive CommandAnswer
  | enrollment (enrollment : PhotoKitEnrollment)
  | done
  | configured (response : ConfigurePhotoKitScopeV1Response)
  | disabled (response : DisablePhotoKitV1Response)
  | operation (operation : PhotoKitOperation) (replayed : Bool)
  | observation (observation : PhotoKitRecordedObservation)
  | publication (publication : PhotoKitPublication)
  | recovered (operations : ℕ)

def Command.handle : Command → Option PhotoKitOperation
  | .recordObservation _ operation _ _ _ _ _ _ => some operation
  | .markMaterializing operation => some operation
  | .recordAttempt _ operation _ _ _ _ _ _ => some operation
  | .finalizeGlobalUnavailable _ operation _ _ _ _ => some operation
  | .finalizeComplete _ operation _ _ _ => some operation
  | _ => none

variable (services : ConnectorServices)

/-- Carry out a call. -/
def Command.run : Command → Transaction CommandAnswer
  | .reserveEnrollment enrollmentEpoch keyReference allowIcloudDownloads nowMs => do
    let enrollment ← PhotoKit.reserveEnrollment services enrollmentEpoch keyReference
      allowIcloudDownloads nowMs
    pure (.enrollment enrollment)
  | .removePendingEnrollment enrollmentEpoch cleanupReason => do
    PhotoKit.removePendingEnrollment services enrollmentEpoch cleanupReason
    pure .done
  | .activateEnrollment input enrollmentEpoch nowMs => do
    let enrollment ← PhotoKit.activateEnrollment services input enrollmentEpoch nowMs
    pure (.enrollment enrollment)
  | .activateEnrollmentCommand input enrollmentEpoch requestId envelopeHash nowMs => do
    let response ← PhotoKit.activateEnrollmentCommand services input enrollmentEpoch requestId
      envelopeHash nowMs
    pure (.configured response)
  | .disableCommand ids request envelopeHash nowMs => do
    let response ← PhotoKit.disableCommand services ids request envelopeHash nowMs
    pure (.disabled response)
  | .beginOperation operationId requestId trigger authorization nowMs => do
    let (operation, replayed) ← PhotoKit.beginOperation services operationId requestId trigger
      authorization nowMs
    pure (.operation operation replayed)
  | .recordObservation ids operation rootKey ordinal assetLocator resourceUti supported nowMs => do
    let observation ← PhotoKit.recordObservation services ids operation rootKey ordinal
      assetLocator resourceUti supported nowMs
    pure (.observation observation)
  | .markMaterializing operation => do
    PhotoKit.markMaterializing operation
    pure .done
  | .recordAttempt attemptId operation ordinal attemptOrdinal networkAccessAllowed acceptedBytes
      result nowMs => do
    PhotoKit.recordAttempt attemptId operation ordinal attemptOrdinal networkAccessAllowed
      acceptedBytes result nowMs
    pure .done
  | .finalizeGlobalUnavailable revisionIds operation authorization reason terminalReason nowMs => do
    let publication ← PhotoKit.finalizeGlobalUnavailable services revisionIds operation
      authorization reason terminalReason nowMs
    pure (.publication publication)
  | .finalizeComplete ids operation authorization observations nowMs => do
    let publication ← PhotoKit.finalizeComplete services ids operation authorization observations
      nowMs
    pure (.publication publication)
  | .recoverOperations nowMs => do
    let operations ← PhotoKit.recoverOperations nowMs
    pure (.recovered operations)

theorem wrapped_of_error {α β : Type} {x : Transaction α} {f : α → β} {t t' : ConnectorTables}
    {e : PlatformError}
    (h : (do let a ← atomically x; pure (f a) : Transaction β) t = (.error e, t')) :
    t' = t := by
  rcases hx : atomically x t with ⟨e' | a, s⟩
  · rw [bind_of_error hx] at h
    cases h
    exact atomically_of_error hx
  · rw [bind_of_ok hx] at h
    cases h

/-- **A call that returns an error** leaves every table as it was. -/
theorem Command.run_of_error {command : Command} {t t' : ConnectorTables} {e : PlatformError}
    (h : command.run services t = (.error e, t')) : t' = t := by
  cases command <;> exact wrapped_of_error h

end Threadbook.PhotoKit
