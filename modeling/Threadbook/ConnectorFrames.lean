import Threadbook.ConnectorEffects
import Threadbook.Invariance

/-!
# What the statements of the connector leave alone

A statement keeps every condition that does not depend on the table it changes. Transitions only
change revisions and heads, and making observations members of a generation changes nothing in the
books of the connector.
-/

namespace Threadbook.PhotoKit

open Fallible Fallible.Keeps

open Promotion (RequestId)
open Fallible (Keeps)

variable {P : ConnectorTables → Prop}

variable {assetId : String} {revisionIds : String → String} {membershipGeneration : Option ℕ}

section Statements

theorem updateConnector_keeps {f : ConnectorRow → ConnectorRow}
    (hP : ∀ t, (f t.connector).allowed → P t → P { t with connector := f t.connector }) :
    Keeps P (updateConnector f) := by
  intro t t' u h hok
  obtain ⟨hallowed, rfl⟩ := updateConnector_eq_ok.mp hok
  exact hP t hallowed h

variable {enrollmentEpoch operationId : String} {operation : PhotoKitOperation} {nowMs : ℤ}

theorem updateEnrollment_keeps {inState : EnrollmentState} {f : EnrollmentRow → EnrollmentRow}
    (hP : ∀ t row, t.enrollments.find? enrollmentEpoch = some row → row.state = inState →
      (f row).allowed → P t →
      P { t with enrollments := t.enrollments.put enrollmentEpoch (f row) }) :
    Keeps P (updateEnrollment enrollmentEpoch inState f) := by
  intro t t' u h hok
  cases hrow : t.enrollments.find? enrollmentEpoch with
  | none =>
    simp only [updateEnrollment, state_bind, hrow, pure_run, Prod.mk.injEq,
      true_and] at hok
    exact hok ▸ h
  | some row =>
    by_cases hstate : row.state = inState
    · obtain ⟨hallowed, rfl⟩ := (updateEnrollment_eq_ok hrow hstate).mp hok
      exact hP t row hrow hstate hallowed h
    · simp only [updateEnrollment, state_bind, hrow, if_neg hstate, pure_run,
        Prod.mk.injEq, true_and] at hok
      exact hok ▸ h

theorem updateOperation_keeps {inState : OperationState → Bool} {f : OperationRow → OperationRow}
    (hP : ∀ t row, t.operations.find? operationId = some row → inState row.state → P t →
      P { t with operations := t.operations.put operationId (f row) }) :
    Keeps P (updateOperation operationId inState f) := by
  intro t t' changed h hok
  cases hrow : t.operations.find? operationId with
  | none =>
    rw [updateOperation_of_not (by simp [hrow])] at hok
    cases hok
    exact h
  | some row =>
    by_cases hstate : inState row.state
    · obtain ⟨-, -, rfl⟩ := (updateOperation_eq_ok hrow hstate).mp hok
      exact hP t row hrow hstate h
    · rw [updateOperation_of_not (by simpa [hrow] using hstate)] at hok
      cases hok
      exact h

theorem insertEnrollment_keeps {row : EnrollmentRow}
    (hP : ∀ t, t.enrollmentClashes enrollmentEpoch row = false → P t →
      P { t with enrollments := t.enrollments.put enrollmentEpoch row }) :
    Keeps P (insertEnrollment enrollmentEpoch row) := by
  intro t t' u h hok
  obtain ⟨hclash, rfl⟩ := insertEnrollment_eq_ok.mp hok
  exact hP t hclash h

theorem insertOperation_keeps
    (hP : ∀ t, t.operationClashes (.begun operation nowMs) = false → P t →
      P { t with
        operations := t.operations.put operation.operationId (.begun operation nowMs) }) :
    Keeps P (insertOperation operation nowMs) := by
  intro t t' u h hok
  obtain ⟨hclash, rfl⟩ := insertOperation_eq_ok.mp hok
  exact hP t hclash h

theorem insertLocator_keeps {row : LocatorRow}
    (hP : ∀ t, t.locatorClashes row = false → P t → P { t with locators := t.locators ++ [row] }) :
    Keeps P (insertLocator row) := by
  intro t t' u h hok
  obtain ⟨hclash, rfl⟩ := insertLocator_eq_ok.mp hok
  exact hP t hclash h

theorem insertObservation_keeps {row : ObservationRow}
    (hP : ∀ t, t.observationClashes row = false → P t →
      P { t with observations := t.observations ++ [row] }) :
    Keeps P (insertObservation row) := by
  intro t t' u h hok
  obtain ⟨hclash, rfl⟩ := insertObservation_eq_ok.mp hok
  exact hP t hclash h

theorem insertAttempt_keeps {row : MaterializationAttemptRow}
    (hP : ∀ t, t.attemptClashes row = false → P t →
      P { t with attempts := t.attempts ++ [row] }) :
    Keeps P (insertAttempt row) := by
  intro t t' u h hok
  obtain ⟨hclash, rfl⟩ := insertAttempt_eq_ok.mp hok
  exact hP t hclash h

theorem insertGeneration_keeps {generation : ℕ} {row : GenerationRow}
    (hP : ∀ t, t.generationClashes enrollmentEpoch generation row = false → P t →
      P { t with generations := t.generations.put (enrollmentEpoch, generation) row }) :
    Keeps P (insertGeneration enrollmentEpoch generation row) := by
  intro t t' u h hok
  obtain ⟨hclash, rfl⟩ := insertGeneration_eq_ok.mp hok
  exact hP t hclash h

theorem insertAssetOrIgnore_keeps {row : AssetRow}
    (hP : ∀ t, t.assets.find? assetId = none → t.hasLocator row.locatorId → P t →
      P { t with assets := t.assets.put assetId row }) :
    Keeps P (insertAssetOrIgnore assetId row) := by
  intro t t' u h hok
  unfold insertAssetOrIgnore at hok
  rw [state_bind] at hok
  split at hok
  · cases hok
    exact h
  · rename_i hfresh
    obtain ⟨hreferences, hok⟩ := rejectIf_bind_eq_ok.mp hok
    cases hok
    simp only [not_or, not_not] at hreferences
    refine hP t ?_ hreferences.2 h
    simpa using (not_or.mp hfresh).1

theorem insertBlobOrIgnore_keeps {sha256 : String} {byteLength : ℕ}
    (hP : ∀ t, P t → P { t with blobs := (t.blobs.insertOrIgnore sha256 byteLength).1 }) :
    Keeps P (insertBlobOrIgnore sha256 byteLength) :=
  update hP

theorem insertMaterializationOrIgnore_keeps {row : MaterializationRow}
    (hP : ∀ t, P t → P { t with materializations := t.materializations ++ [row] }) :
    Keeps P (insertMaterializationOrIgnore row) := by
  intro t t' u h hok
  unfold insertMaterializationOrIgnore at hok
  rw [state_bind] at hok
  split at hok
  · cases hok
    exact h
  · obtain ⟨-, hok⟩ := rejectIf_bind_eq_ok.mp hok
    cases hok
    exact hP t h

theorem insertMember_keeps {row : MemberRow}
    (hP : ∀ t, t.memberClashes row = false → P t → P { t with members := t.members ++ [row] }) :
    Keeps P (insertMember row) := by
  intro t t' u h hok
  obtain ⟨hclash, rfl⟩ := insertMember_eq_ok.mp hok
  exact hP t hclash h

theorem insertCommandReceipt_keeps {services : ConnectorServices} {requestId : RequestId}
    {row : CommandReceiptRow}
    (hP : ∀ t, P t → P { t with receipts := t.receipts.put requestId row }) :
    Keeps P (insertCommandReceipt services requestId row) :=
  bind state fun _ => bind (rejectIf _ _) fun _ =>
    bind (rejectIf _ _) fun _ => bind (rejectIf _ _) fun _ =>
      update hP

theorem incrementPhotokitRevision_keeps
    (hP : ∀ t, P t → P { t with photokitRevision := t.photokitRevision + 1 }) :
    Keeps P incrementPhotokitRevision := by
  intro t t' u h hok
  obtain ⟨-, rfl⟩ := incrementPhotokitRevision_eq_ok.mp hok
  exact hP t h

theorem transitionHead_keeps {availability : PhotoKitAvailabilityV1}
    {reason : PhotoKitAvailabilityReasonV1} {materializationId : Option String}

    (hP : ∀ t row, row.assetId = assetId → t.revisionClashes row = false → P t → P (t.revised row)) :
    Keeps P (transitionHead revisionIds assetId enrollmentEpoch operationId membershipGeneration
      availability reason materializationId nowMs) := by
  intro t t' result h hok
  obtain ⟨head, -, -, -, rfl⟩ | ⟨row, hasset, -, -, -, hclash, -, rfl⟩ := transitionHead_ok hok
  · exact h
  · exact hP t row hasset hclash h

theorem transitionUnavailable_keeps {reason : PhotoKitAvailabilityReasonV1}
    (hP : ∀ t row, t.revisionClashes row = false → P t → P (t.revised row)) {transitions : ℕ}
    {assets : List String} :
    Keeps P (transitionUnavailable revisionIds enrollmentEpoch operationId membershipGeneration
      reason nowMs transitions assets) := by
  induction assets generalizing transitions with
  | nil => exact pure transitions
  | cons assetId rest ih =>
    refine bind (transitionHead_keeps fun t row _ => hP t row) fun _ => ?_
    exact bind (check _) fun _ => ih

theorem ensureCurrentOperation_keeps {expected : OperationState} :
    Keeps P (ensureCurrentOperation operation expected) := by
  intro t t' u h hok
  obtain ⟨-, -, rfl⟩ := ensureCurrentOperation_eq_ok.mp hok
  exact h

theorem operationState_keeps : Keeps P (operationState operationId) := by
  intro t t' current h hok
  obtain ⟨rfl, -⟩ := operationState_eq_ok.mp hok
  exact h

theorem ensureCurrentOperationAny_keeps : Keeps P (ensureCurrentOperationAny operation) := by
  intro t t' u h hok
  obtain ⟨-, rfl, -⟩ := ensureCurrentOperationAny_eq_ok.mp hok
  exact h

theorem cleanupProvisionalOperation_keeps (hP : ∀ t, P t → P (t.cleaned operationId)) :
    Keeps P (cleanupProvisionalOperation operationId) :=
  update hP

theorem publishOperation_keeps {services : ConnectorServices} {inState : OperationState → Bool}
    {terminalState : OperationState} {terminalReason : Option String} {acceptedBytes : Option ℕ}
    {publication : PhotoKitPublication}
    (hP : ∀ t row, t.operations.find? operation.operationId = some row → inState row.state → P t →
      P (t.withOperation operation.operationId
        (row.published terminalState terminalReason acceptedBytes publication nowMs))) :
    Keeps P (publishOperation services operation inState terminalState terminalReason
      acceptedBytes publication nowMs) := by
  intro t t' u h hok
  obtain ⟨stored, hstored, hupdate⟩ := Fallible.check_bind_eq_ok.mp hok
  obtain ⟨rfl, -, -⟩ := serializeTerminalPublication_eq_ok.mp hstored
  exact Keeps.bind (updateOperation_keeps hP) (fun _ => Keeps.rejectIf _ _) t t' u h hupdate

end Statements

/-! ## The books of the connector -/

structure ConnectorBooks where
  storeAuthorityEpoch : String
  photokitRevision : ℕ
  connector : ConnectorRow
  enrollments : Table String EnrollmentRow
  operations : Table String OperationRow
  observations : List ObservationRow
  attempts : List MaterializationAttemptRow
  generations : Table (String × ℕ) GenerationRow
  receipts : Table RequestId CommandReceiptRow

def ConnectorTables.books (t : ConnectorTables) : ConnectorBooks :=
  ⟨t.storeAuthorityEpoch, t.photokitRevision, t.connector, t.enrollments, t.operations,
    t.observations, t.attempts, t.generations, t.receipts⟩

section Assets

variable {ids : CompletionIds} {operation : PhotoKitOperation} {nowMs : ℤ}

theorem insertMaterialization_keeps {operationId : String} {value : PhotoKitMaterializationRecord}
    (hblobs : ∀ t blobs, P t → P { t with blobs := blobs })
    (hmaterializations : ∀ t row, P t →
      P { t with materializations := t.materializations ++ [row] }) :
    Keeps P (insertMaterialization ids assetId operationId value nowMs) := by
  refine bind (check _) fun _ => bind (check _) fun _ => ?_
  refine bind (check _) fun _ => ?_
  refine bind (insertBlobOrIgnore_keeps fun t => hblobs t _) fun _ => ?_
  refine bind state fun _ => bind (rejectIf _ _) fun _ => ?_
  refine bind (insertMaterializationOrIgnore_keeps fun t => hmaterializations t _) fun _ => ?_
  refine bind state fun t => ?_
  cases t.materializations.find? fun row =>
      row.assetId = assetId ∧ row.resourceFingerprint = value.resourceFingerprint with
  | none => exact fail _
  | some stored => exact bind (rejectIf _ _) fun _ => pure _

theorem verifyAssetIdentity_keeps {enrollmentEpoch locatorId : String} :
    Keeps P (verifyAssetIdentity assetId enrollmentEpoch locatorId) := by
  refine bind state fun t => ?_
  cases t.assets.find? assetId with
  | none => exact fail _
  | some row => exact rejectIf _ _

/-- What a condition must not depend on, for a member of a generation to keep it. -/
structure Unaffected (P : ConnectorTables → Prop) : Prop where
  locators : ∀ t locators, P t → P { t with locators := locators }
  assets : ∀ t assetId row, t.assets.find? assetId = none → P t →
    P { t with assets := t.assets.put assetId row }
  blobs : ∀ t blobs, P t → P { t with blobs := blobs }
  materializations : ∀ t row, P t → P { t with materializations := t.materializations ++ [row] }
  revised : ∀ t row, t.revisionClashes row = false → P t → P (t.revised row)
  members : ∀ t row, t.memberClashes row = false → P t →
    P { t with members := t.members ++ [row] }

theorem finalizeObservation_keeps (hP : Unaffected P) {stored : ObservationRow}
    {result : PhotoKitFinalizedObservation} :
    Keeps P (finalizeObservation ids operation nowMs stored result) := by
  refine bind (check _) fun _ => ?_
  refine bind (update fun t h => hP.locators t _ h) fun _ => ?_
  refine bind (insertAssetOrIgnore_keeps fun t hfresh _ => hP.assets t _ _ hfresh) fun _ => ?_
  refine bind verifyAssetIdentity_keeps fun _ => ?_
  refine bind ?_ fun materializationId => ?_
  · cases result.materialization with
    | none => exact pure _
    | some value =>
      exact bind (insertMaterialization_keeps hP.blobs hP.materializations) fun _ =>
        pure _
  · refine bind (transitionHead_keeps fun t row _ => hP.revised t row) fun _ => ?_
    exact bind (insertMember_keeps fun t => hP.members t _) fun _ => pure _

theorem finalizeObservations_keeps (hP : Unaffected P) {transitions : ℕ}
    {observations : List (ObservationRow × PhotoKitFinalizedObservation)} :
    Keeps P (finalizeObservations ids operation nowMs transitions observations) := by
  induction observations generalizing transitions with
  | nil => exact pure _
  | cons observation rest ih =>
    refine bind (finalizeObservation_keeps hP) fun _ => ?_
    exact bind (check _) fun _ => ih

theorem books_unaffected (books : ConnectorBooks) : Unaffected fun t => t.books = books where
  locators _ _ h := h
  assets _ _ _ _ h := h
  blobs _ _ h := h
  materializations _ _ h := h
  revised _ _ _ h := h
  members _ _ _ h := h

end Assets

end Threadbook.PhotoKit
