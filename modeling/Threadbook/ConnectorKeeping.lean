import Threadbook.ConnectorCommands

/-!
# What all calls keep

A condition on the tables that withstands each change a call makes, every call keeps
(`Lasting.run`). The changes are described once, and invariants need not follow the calls.
-/

namespace Threadbook.PhotoKit

open Fallible.Keeps

open Promotion (RequestId)
open Fallible (Keeps)

/-- What a condition has to withstand. `made` says which observations operations are completed
with. -/
structure Lasting (services : ConnectorServices) (made : PhotoKitFinalizedObservation → Prop)
    (P : ConnectorTables → Prop) : Prop where
  photokitRevision : ∀ t revision, P t → P { t with photokitRevision := revision }
  connector : ∀ t row, ConnectorRow.allowed row → P t → P { t with connector := row }
  enrollment : ∀ t epoch row row', t.enrollments.find? epoch = some row →
    EnrollmentRow.allowed row' → P t → P { t with enrollments := t.enrollments.put epoch row' }
  reserved : ∀ t epoch row, services.isUuid epoch → t.enrollmentClashes epoch row = false → P t →
    P { t with enrollments := t.enrollments.put epoch row }
  removed : ∀ t epoch, P t → P { t with
    locators := t.locators.filter fun row =>
      ¬ (row.enrollmentEpoch = epoch ∧ row.finalized = false)
    enrollments := t.enrollments.delete epoch }
  operation : ∀ t id row, P t → P { t with operations := t.operations.put id row }
  locator : ∀ t row, t.locatorClashes row = false →
    row.finalized = false ∨ row.recordKind = .album → P t →
    P { t with locators := t.locators ++ [row] }
  observation : ∀ t row, t.observationClashes row = false → P t →
    P { t with observations := t.observations ++ [row] }
  attempt : ∀ t row, t.attemptClashes row = false → P t →
    P { t with attempts := t.attempts ++ [row] }
  generation : ∀ t epoch number row, t.generationClashes epoch number row = false → P t →
    P { t with generations := t.generations.put (epoch, number) row }
  finalized : ∀ ids operation nowMs stored result, made result →
    Keeps P (finalizeObservation ids operation nowMs stored result)
  revised : ∀ t row, t.revisionClashes row = false → P t → P (t.revised row)
  cleaned : ∀ t id, P t → P (t.cleaned id)
  receipts : ∀ t receipts, P t → P { t with receipts := receipts }

def Command.Made (made : PhotoKitFinalizedObservation → Prop) : Command → Prop
  | .finalizeComplete _ _ _ observations _ => ∀ observation ∈ observations, made observation
  | _ => True

namespace Lasting

variable {services : ConnectorServices} {made : PhotoKitFinalizedObservation → Prop}
  {P : ConnectorTables → Prop}

theorem updateConnector (hP : Lasting services made P) {f : ConnectorRow → ConnectorRow} :
    Keeps P (updateConnector f) :=
  updateConnector_keeps fun t hallowed => hP.connector t _ hallowed

variable {nowMs : ℤ} {operation : PhotoKitOperation} {epoch : String} {ids : ClosingIds}
  {authorization : PhotoKitAuthorizationV1}

theorem updateEnrollment (hP : Lasting services made P) {inState : EnrollmentState}
    {f : EnrollmentRow → EnrollmentRow} : Keeps P (updateEnrollment epoch inState f) :=
  updateEnrollment_keeps fun t row hrow _ hallowed => hP.enrollment t epoch row _ hrow hallowed

theorem updateOperation (hP : Lasting services made P) {id : String}
    {inState : OperationState → Bool} {f : OperationRow → OperationRow} :
    Keeps P (updateOperation id inState f) :=
  updateOperation_keeps fun t _ _ _ => hP.operation t _ _

theorem incrementIf (hP : Lasting services made P) {changed : Bool} :
    Keeps P (incrementIf changed) := by
  cases changed with
  | false => exact pure _
  | true => exact incrementPhotokitRevision_keeps fun t => hP.photokitRevision t _

variable {operationId : String} {trigger : PhotoKitReconcileTriggerV1}

section

variable (hP : Lasting services made P)

include hP

theorem openOperation {requestId : String} {currentFence : ℕ} :
    Keeps P (openOperation operationId requestId epoch currentFence trigger nowMs) := by
  refine bind state fun _ => bind (check _) fun _ => ?_
  refine bind hP.updateEnrollment fun _ => ?_
  exact bind (insertOperation_keeps fun t _ => hP.operation t _ _) fun _ => pure _

theorem publishOperation {inState : OperationState → Bool} {terminalState : OperationState}
    {terminalReason : Option String} {acceptedBytes : Option ℕ}
    {publication : PhotoKitPublication} :
    Keeps P (publishOperation services operation inState terminalState terminalReason
      acceptedBytes publication nowMs) :=
  publishOperation_keeps fun t _ _ _ => hP.operation t _ _

theorem updateConnectorOf {f : ConnectorRow → ConnectorRow} :
    Keeps P (updateConnectorOf operation f) := by
  refine bind state fun t => ?_
  split
  · exact hP.updateConnector
  · exact pure _

theorem inactivateEnrollment : Keeps P (inactivateEnrollment services ids epoch nowMs) := by
  refine bind state fun t => ?_
  cases (t.enrollments.find? epoch).filter fun row => row.state = .active with
  | none => exact fail _
  | some row =>
    refine bind hP.openOperation fun _ => bind state fun _ => ?_
    refine bind (transitionUnavailable_keeps hP.revised) fun _ => ?_
    refine bind hP.incrementIf fun _ => bind state fun _ => ?_
    refine bind (rejectIf _ _) fun _ => bind hP.updateConnector fun _ => ?_
    refine bind state fun _ => bind (check _) fun _ => ?_
    exact bind hP.publishOperation fun _ => hP.updateEnrollment

theorem activateEnrollmentInTransaction {locatorId : String} {locator : ProtectedPhotoKitLocator} :
    Keeps P (activateEnrollmentInTransaction services ids epoch locatorId locator nowMs) := by
  refine bind state fun t => ?_
  cases t.enrollments.find? epoch with
  | none => exact fail _
  | some enrollment =>
    refine bind (rejectIf _ _) fun _ => bind ?_ fun _ => ?_
    · unfold inactivatePrevious
      cases t.connector.activeEnrollmentEpoch with
      | none => exact pure _
      | some previous =>
        dsimp only
        split
        · exact hP.inactivateEnrollment
        · exact pure _
    · refine bind (insertLocator_keeps fun t hfresh => ?_) fun _ => ?_
      · exact hP.locator t _ hfresh (.inr rfl)
      · refine bind hP.updateEnrollment fun _ => bind hP.updateConnector fun _ => ?_
        exact pure _

theorem disableCommand {request : DisablePhotoKitV1Request} {envelopeHash : String} :
    Keeps P (disableCommand services ids request envelopeHash nowMs) := by
  refine atomically (bind (check _) fun _ => bind state fun t => ?_)
  refine bind (check _) fun replay => ?_
  cases replay with
  | some response => exact pure _
  | none =>
    refine bind (rejectIf _ _) fun _ => ?_
    cases t.connector.activeEnrollmentEpoch with
    | none => exact fail _
    | some epoch =>
      refine bind hP.inactivateEnrollment fun _ => bind state fun _ => ?_
      refine bind hP.incrementIf fun _ => bind hP.updateConnector fun _ => ?_
      refine bind state fun _ => bind (check _) fun _ => ?_
      refine bind (check _) fun _ => bind (check _) fun _ => ?_
      refine bind (rejectIf _ _) fun _ => ?_
      exact bind (insertCommandReceipt_keeps fun t => hP.receipts t _) fun _ => pure _

theorem beginOperation {requestId : String} :
    Keeps P (beginOperation services operationId requestId trigger authorization nowMs) := by
  refine atomically (bind (check _) fun _ => bind state fun t => ?_)
  cases t.operationByRequest requestId with
  | some row =>
    dsimp only
    split
    · exact fail _
    · exact pure _
  | none =>
    cases t.activeEnrollment with
    | none => exact fail _
    | some active =>
      refine bind hP.openOperation fun _ => bind hP.updateConnector fun _ => ?_
      exact pure _

theorem recordObservation {ids : ObservationIds} {rootKey : Bytes} {ordinal : ℕ}
    {assetLocator : String} {resourceUti : Option String} {supported : Bool} :
    Keeps P (recordObservation services ids operation rootKey ordinal assetLocator resourceUti
      supported nowMs) := by
  refine atomically (bind (rejectIf _ _) fun _ => ?_)
  refine bind (check _) fun _ => bind ensureCurrentOperation_keeps fun _ => ?_
  refine bind state fun t => bind ?_ fun _ => ?_
  · unfold observedAsset
    split
    · exact pure _
    · refine bind (check _) fun _ => ?_
      refine bind (insertLocator_keeps fun t hfresh => ?_) fun _ => pure _
      exact hP.locator t _ hfresh (.inl rfl)
  · refine bind (insertObservation_keeps fun t => hP.observation t _) fun _ => ?_
    exact bind hP.updateOperation fun _ => pure _

theorem markMaterializing : Keeps P (markMaterializing operation) := by
  refine atomically (bind ensureCurrentOperation_keeps fun _ => ?_)
  refine bind state fun t => ?_
  cases t.operations.find? operation.operationId with
  | none => exact fail _
  | some row =>
    refine bind (rejectIf _ _) fun _ => ?_
    exact bind hP.updateOperation fun _ => pure _

theorem recordAttempt {attemptId : String} {ordinal attemptOrdinal : ℕ}
    {networkAccessAllowed : Bool} {acceptedBytes : ℕ} {result : String} :
    Keeps P (recordAttempt attemptId operation ordinal attemptOrdinal networkAccessAllowed
      acceptedBytes result nowMs) := by
  refine atomically (bind (rejectIf _ _) fun _ => ?_)
  refine bind ensureCurrentOperation_keeps fun _ => ?_
  exact insertAttempt_keeps fun t => hP.attempt t _

theorem finalizeGlobalUnavailable {revisionIds : String → String}
    {reason : Option PhotoKitAvailabilityReasonV1} {terminalReason : String} :
    Keeps P (finalizeGlobalUnavailable services revisionIds operation authorization reason
      terminalReason nowMs) := by
  refine atomically (bind (check _) fun _ => ?_)
  refine bind operationState_keeps fun current => ?_
  split
  · exact bind state fun _ => check _
  · refine bind (rejectIf _ _) fun _ => ?_
    refine bind ensureCurrentOperationAny_keeps fun _ => bind ?_ fun _ => ?_
    · cases reason with
      | none => exact bind hP.updateConnectorOf fun _ => pure _
      | some reason =>
        refine bind state fun _ => ?_
        refine bind (transitionUnavailable_keeps hP.revised) fun _ => ?_
        refine bind hP.incrementIf fun _ => bind state fun _ => ?_
        exact bind hP.updateConnectorOf fun _ => pure _
    · refine bind state fun _ => bind (check _) fun _ => ?_
      refine bind hP.publishOperation fun _ => ?_
      exact bind (cleanupProvisionalOperation_keeps fun t => hP.cleaned t _) fun _ =>
        pure _

theorem finalizeObservations {ids : CompletionIds}
    {observations : List (ObservationRow × PhotoKitFinalizedObservation)}
    (hmade : ∀ observation ∈ observations, made observation.2) {transitions : ℕ} :
    Keeps P (finalizeObservations ids operation nowMs transitions observations) := by
  induction observations generalizing transitions with
  | nil => exact pure _
  | cons observation rest ih =>
    obtain ⟨hfirst, hrest⟩ := List.forall_mem_cons.mp hmade
    refine bind (hP.finalized ids operation nowMs _ _ hfirst) fun _ => ?_
    exact bind (check _) fun _ => ih hrest

theorem finalizeComplete {ids : CompletionIds} {observations : List PhotoKitFinalizedObservation}
    (hmade : ∀ observation ∈ observations, made observation) :
    Keeps P (finalizeComplete services ids operation authorization observations nowMs) := by
  refine atomically (bind (rejectIf _ _) fun _ => ?_)
  refine bind operationState_keeps fun current => ?_
  split
  · exact bind state fun _ => check _
  · refine bind (rejectIf _ _) fun _ => ?_
    refine bind ensureCurrentOperation_keeps fun _ => bind state fun t => ?_
    refine bind (rejectIf _ _) fun _ => bind (check _) fun _ => ?_
    refine bind (insertGeneration_keeps fun t => hP.generation t _ _ _) fun _ => ?_
    refine bind (hP.finalizeObservations fun observation hmem => ?_) fun _ => ?_
    · exact hmade _ (List.of_mem_zip hmem).2
    · refine bind state fun _ => ?_
      refine bind (transitionUnavailable_keeps hP.revised) fun _ => ?_
      refine bind (incrementPhotokitRevision_keeps fun t => hP.photokitRevision t _) fun _ => ?_
      refine bind state fun _ => bind hP.updateEnrollment fun _ => ?_
      refine bind hP.updateConnectorOf fun _ => bind state fun _ => ?_
      refine bind (check _) fun _ => bind (check _) fun _ => ?_
      exact bind hP.publishOperation fun _ => pure _

theorem recoverOperations : Keeps P (recoverOperations nowMs) := by
  refine atomically (bind state fun _ => ?_)
  refine bind (forEach (fun operationId => ?_) _) fun _ => ?_
  · refine bind hP.updateOperation fun _ => ?_
    exact cleanupProvisionalOperation_keeps fun t => hP.cleaned t _
  · refine bind (bind state fun t => ?_) fun _ => pure _
    split
    · exact hP.updateConnector
    · exact pure _

/-- **What withstands each change**, every call keeps. -/
theorem run {command : Command} (hmade : command.Made made) : Keeps P (command.run services) := by
  cases command with
  | reserveEnrollment =>
    refine bind (atomically (bind (check _) fun _ => ?_)) fun _ =>
      pure _
    refine rejectIf_bind fun huuid => bind (insertEnrollment_keeps fun t hfresh => ?_)
      fun _ => pure _
    exact hP.reserved t _ _ (not_not.mp huuid) hfresh
  | removePendingEnrollment epoch =>
    refine bind (atomically (bind (check _) fun _ => ?_)) fun _ =>
      pure _
    refine bind (rejectIf _ _) fun _ => bind state fun t => ?_
    cases (t.enrollments.find? epoch).filter fun row => row.state = .pending with
    | none => exact pure _
    | some _ => exact update fun t => hP.removed t epoch
  | activateEnrollment =>
    refine bind (atomically (bind (check _) fun _ => ?_)) fun _ =>
      pure _
    exact bind (check _) fun _ => hP.activateEnrollmentInTransaction
  | activateEnrollmentCommand =>
    refine bind (atomically (bind (check _) fun _ => ?_)) fun _ =>
      pure _
    refine bind (check _) fun _ => bind (check _) fun _ => ?_
    refine bind hP.activateEnrollmentInTransaction fun _ => bind state fun _ => ?_
    refine bind (check _) fun _ => bind (rejectIf _ _) fun _ => ?_
    exact bind (insertCommandReceipt_keeps fun t => hP.receipts t _) fun _ => pure _
  | disableCommand => exact bind hP.disableCommand fun _ => pure _
  | beginOperation => exact bind hP.beginOperation fun _ => pure _
  | recordObservation => exact bind hP.recordObservation fun _ => pure _
  | markMaterializing => exact bind hP.markMaterializing fun _ => pure _
  | recordAttempt => exact bind hP.recordAttempt fun _ => pure _
  | finalizeGlobalUnavailable => exact bind hP.finalizeGlobalUnavailable fun _ => pure _
  | finalizeComplete => exact bind (hP.finalizeComplete hmade) fun _ => pure _
  | recoverOperations => exact bind hP.recoverOperations fun _ => pure _

end

end Lasting

end Threadbook.PhotoKit
