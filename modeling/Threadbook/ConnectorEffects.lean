import Threadbook.ConnectorOperations

/-!
# What the statements of the connector do

Each statement succeeds exactly when its checks pass, and then changes one table.
-/

namespace Threadbook.PhotoKit

open Promotion (RequestId ReplayStatusV1)
open Fallible (atomically check fail rejectIf state update state_bind bind_eq_ok
  rejectIf_bind_eq_ok pure_run update_bind rejectIf_eq_ok)

variable {t t' : ConnectorTables} {u : Unit}

theorem guarded_eq_ok {p : ConnectorTables → Prop} [∀ t, Decidable (p t)] {e : PlatformError}
    {f : ConnectorTables → ConnectorTables} :
    (do let t ← state; rejectIf e (p t); update f : Transaction Unit) t = (.ok u, t') ↔
      ¬ p t ∧ t' = f t := by
  rw [state_bind, rejectIf_bind_eq_ok]
  simp [eq_comm]

theorem updateConnector_eq_ok {f : ConnectorRow → ConnectorRow} :
    updateConnector f t = (.ok u, t') ↔
      (f t.connector).allowed ∧ t' = { t with connector := f t.connector } := by
  unfold updateConnector
  rw [guarded_eq_ok, not_not]

variable {enrollmentEpoch operationId : String} {row : EnrollmentRow}
  {inState : OperationState → Bool} {f : OperationRow → OperationRow}

theorem insertEnrollment_eq_ok :
    insertEnrollment enrollmentEpoch row t = (.ok u, t') ↔
      t.enrollmentClashes enrollmentEpoch row = false ∧
        t' = { t with enrollments := t.enrollments.put enrollmentEpoch row } := by
  unfold insertEnrollment
  rw [guarded_eq_ok, Bool.not_eq_true]

theorem insertOperation_eq_ok {operation : PhotoKitOperation} {nowMs : ℤ} :
    insertOperation operation nowMs t = (.ok u, t') ↔
      t.operationClashes (.begun operation nowMs) = false ∧
        t' = { t with
          operations := t.operations.put operation.operationId (.begun operation nowMs) } := by
  unfold insertOperation
  rw [guarded_eq_ok, Bool.not_eq_true]

theorem insertLocator_eq_ok {row : LocatorRow} :
    insertLocator row t = (.ok u, t') ↔
      t.locatorClashes row = false ∧ t' = { t with locators := t.locators ++ [row] } := by
  unfold insertLocator
  rw [guarded_eq_ok, Bool.not_eq_true]

theorem insertObservation_eq_ok {row : ObservationRow} :
    insertObservation row t = (.ok u, t') ↔
      t.observationClashes row = false ∧ t' = { t with observations := t.observations ++ [row] } := by
  unfold insertObservation
  rw [guarded_eq_ok, Bool.not_eq_true]

theorem insertAttempt_eq_ok {row : MaterializationAttemptRow} :
    insertAttempt row t = (.ok u, t') ↔
      t.attemptClashes row = false ∧ t' = { t with attempts := t.attempts ++ [row] } := by
  unfold insertAttempt
  rw [guarded_eq_ok, Bool.not_eq_true]

theorem insertGeneration_eq_ok {generation : ℕ} {row : GenerationRow} :
    insertGeneration enrollmentEpoch generation row t = (.ok u, t') ↔
      t.generationClashes enrollmentEpoch generation row = false ∧
        t' = { t with generations := t.generations.put (enrollmentEpoch, generation) row } := by
  unfold insertGeneration
  rw [guarded_eq_ok, Bool.not_eq_true]

theorem insertRevision_eq_ok {row : RevisionRow} :
    insertRevision row t = (.ok u, t') ↔
      t.revisionClashes row = false ∧ t' = { t with revisions := t.revisions ++ [row] } := by
  unfold insertRevision
  rw [guarded_eq_ok, Bool.not_eq_true]

theorem putHead_eq_ok {assetId revisionId : String} :
    putHead assetId revisionId t = (.ok u, t') ↔
      t.headClashes assetId revisionId = false ∧
        t' = { t with heads := t.heads.put assetId revisionId } := by
  unfold putHead
  rw [guarded_eq_ok, Bool.not_eq_true]

theorem insertMember_eq_ok {row : MemberRow} :
    insertMember row t = (.ok u, t') ↔
      t.memberClashes row = false ∧ t' = { t with members := t.members ++ [row] } := by
  unfold insertMember
  rw [guarded_eq_ok, Bool.not_eq_true]

theorem incrementPhotokitRevision_eq_ok :
    incrementPhotokitRevision t = (.ok u, t') ↔ t.photokitRevision < MAX_STORED_INTEGER ∧
      t' = { t with photokitRevision := t.photokitRevision + 1 } := by
  unfold incrementPhotokitRevision
  rw [guarded_eq_ok, not_not]

theorem updateEnrollment_eq_ok {inState : EnrollmentState} {f : EnrollmentRow → EnrollmentRow}
    (hrow : t.enrollments.find? enrollmentEpoch = some row) (hstate : row.state = inState) :
    updateEnrollment enrollmentEpoch inState f t = (.ok u, t') ↔
      (f row).allowed ∧ t' = { t with enrollments := t.enrollments.put enrollmentEpoch (f row) } := by
  simp only [updateEnrollment, state_bind, hrow, if_pos hstate,
    rejectIf_bind_eq_ok, Fallible.update_run, not_not, Prod.mk.injEq, true_and]
  rw [eq_comm (a := t')]

theorem updateOperation_eq_ok {row : OperationRow} {changed : Bool}
    (hrow : t.operations.find? operationId = some row) (hstate : inState row.state) :
    updateOperation operationId inState f t = (.ok changed, t') ↔
      changed = true ∧ (f row).allowed ∧
        t' = { t with operations := t.operations.put operationId (f row) } := by
  simp only [updateOperation, state_bind, hrow, if_pos hstate,
    rejectIf_bind_eq_ok, update_bind, pure_run, not_not, Prod.mk.injEq,
    Except.ok.injEq]
  constructor
  · rintro ⟨hallowed, hchanged, ht⟩
    exact ⟨hchanged.symm, hallowed, ht.symm⟩
  · rintro ⟨hchanged, hallowed, ht⟩
    exact ⟨hallowed, hchanged.symm, ht.symm⟩

theorem updateEnrollment_ok {inState : EnrollmentState} {f : EnrollmentRow → EnrollmentRow}
    (h : updateEnrollment enrollmentEpoch inState f t = (.ok u, t'))
    (hrow : t.enrollments.find? enrollmentEpoch = some row) (hstate : row.state = inState) :
    (f row).allowed ∧ t' = { t with enrollments := t.enrollments.put enrollmentEpoch (f row) } :=
  (updateEnrollment_eq_ok hrow hstate).mp h

theorem updateOperation_ok {row : OperationRow} {changed : Bool}
    (h : updateOperation operationId inState f t = (.ok changed, t'))
    (hrow : t.operations.find? operationId = some row) (hstate : inState row.state) :
    (f row).allowed ∧ t' = { t with operations := t.operations.put operationId (f row) } :=
  ((updateOperation_eq_ok hrow hstate).mp h).2

theorem updateOperation_of_not
    (hnot : ∀ row, t.operations.find? operationId = some row → ¬ inState row.state) :
    updateOperation operationId inState f t = (.ok false, t) := by
  simp only [updateOperation, state_bind]
  cases hrow : t.operations.find? operationId with
  | none => rfl
  | some row => simp [hnot row hrow]

def ConnectorTables.withOperation (t : ConnectorTables) (operationId : String)
    (row : OperationRow) : ConnectorTables :=
  { t with operations := t.operations.put operationId row }

/-! ## The steps of operations -/

variable {terminalReason : Option String} {acceptedBytes : Option ℕ}

section Steps

variable {operation : PhotoKitOperation} {expected : OperationState}

theorem isCurrent_iff :
    t.isCurrent operation expected ↔ ∃ row enrollment,
      t.operations.find? operation.operationId = some row ∧
        t.enrollments.find? row.operation.enrollmentEpoch = some enrollment ∧
        t.connector.activeEnrollmentEpoch = some row.operation.enrollmentEpoch ∧
        t.storeAuthorityEpoch = row.operation.storeAuthorityEpoch ∧ row.state = expected ∧
        row.operation.reconciliationFence = operation.reconciliationFence ∧
        enrollment.operationFence = operation.reconciliationFence ∧ enrollment.state = .active := by
  unfold ConnectorTables.isCurrent
  cases hrow : t.operations.find? operation.operationId with
  | none => simp
  | some row =>
    cases henrollment : t.enrollments.find? row.operation.enrollmentEpoch with
    | none => simp [henrollment]
    | some enrollment => simp [henrollment]

theorem ensureCurrentOperation_eq_ok :
    ensureCurrentOperation operation expected t = (.ok u, t') ↔
      operation.reconciliationFence < 2 ^ 63 ∧ t.isCurrent operation expected ∧ t' = t := by
  have hasI64 : ∀ fence, asI64 operation.reconciliationFence "photokit_fence" = .ok fence ↔
      operation.reconciliationFence < 2 ^ 63 ∧ operation.reconciliationFence = fence := by
    intro fence
    unfold asI64
    exact check_when_eq_ok
  unfold ensureCurrentOperation
  rw [state_bind, Fallible.check_bind_eq_ok]
  constructor
  · rintro ⟨fence, hfence, h⟩
    split at h
    · rename_i hcurrent
      exact ⟨((hasI64 fence).mp hfence).1, hcurrent, (Prod.mk.inj h).2.symm⟩
    · cases h
  · rintro ⟨hfence, hcurrent, rfl⟩
    exact ⟨_, (hasI64 _).mpr ⟨hfence, rfl⟩, by rw [if_pos hcurrent]; rfl⟩

theorem operationState_eq_ok {operationId : String} {current : OperationState} :
    operationState operationId t = (.ok current, t') ↔
      t' = t ∧ ∃ row, t.operations.find? operationId = some row ∧ row.state = current := by
  unfold operationState
  rw [state_bind]
  cases t.operations.find? operationId with
  | none => simp
  | some row => simp [eq_comm, and_comm]

theorem ensureCurrentOperationAny_eq_ok :
    ensureCurrentOperationAny operation t = (.ok u, t') ↔
      operation.reconciliationFence < 2 ^ 63 ∧ t' = t ∧
        ∃ current, current.isLive ∧ t.isCurrent operation current := by
  unfold ensureCurrentOperationAny
  simp only [bind_eq_ok, operationState_eq_ok]
  constructor
  · rintro ⟨current, s, ⟨rfl, row, hrow, hstate⟩, h⟩
    obtain ⟨⟨⟩, s', hlive, h⟩ := h
    obtain ⟨hlive', rfl⟩ := rejectIf_eq_ok.mp hlive
    obtain ⟨hfence, hcurrent, rfl⟩ := ensureCurrentOperation_eq_ok.mp h
    exact ⟨hfence, rfl, current, not_not.mp hlive', hcurrent⟩
  · rintro ⟨hfence, rfl, current, hlive, hcurrent⟩
    obtain ⟨row, enrollment, hrow, -, -, -, hstate, -⟩ := isCurrent_iff.mp hcurrent
    refine ⟨current, t', ⟨rfl, row, hrow, hstate⟩, ⟨⟩, t', ?_, ?_⟩
    · exact rejectIf_eq_ok.mpr ⟨not_not.mpr hlive, rfl⟩
    · exact ensureCurrentOperation_eq_ok.mpr ⟨hfence, hcurrent, rfl⟩

variable {α : Type} {a : α}

theorem ensureCurrentOperation_bind_eq_ok {f : Unit → Transaction α} :
    (ensureCurrentOperation operation expected >>= f) t = (.ok a, t') ↔
      operation.reconciliationFence < 2 ^ 63 ∧ t.isCurrent operation expected ∧
        f () t = (.ok a, t') := by
  simp only [bind_eq_ok, ensureCurrentOperation_eq_ok]
  constructor
  · rintro ⟨⟨⟩, s, ⟨hfence, hcurrent, rfl⟩, h⟩
    exact ⟨hfence, hcurrent, h⟩
  · rintro ⟨hfence, hcurrent, h⟩
    exact ⟨⟨⟩, t, ⟨hfence, hcurrent, rfl⟩, h⟩

theorem ensureCurrentOperationAny_bind_eq_ok {f : Unit → Transaction α} :
    (ensureCurrentOperationAny operation >>= f) t = (.ok a, t') ↔
      operation.reconciliationFence < 2 ^ 63 ∧
        (∃ current, current.isLive ∧ t.isCurrent operation current) ∧ f () t = (.ok a, t') := by
  simp only [bind_eq_ok, ensureCurrentOperationAny_eq_ok]
  constructor
  · rintro ⟨⟨⟩, s, ⟨hfence, rfl, hcurrent⟩, h⟩
    exact ⟨hfence, hcurrent, h⟩
  · rintro ⟨hfence, hcurrent, h⟩
    exact ⟨⟨⟩, t, ⟨hfence, rfl, hcurrent⟩, h⟩

theorem operationState_bind_eq_ok {operationId : String} {f : OperationState → Transaction α} :
    (operationState operationId >>= f) t = (.ok a, t') ↔
      ∃ row, t.operations.find? operationId = some row ∧ f row.state t = (.ok a, t') := by
  simp only [bind_eq_ok, operationState_eq_ok]
  constructor
  · rintro ⟨_, s, ⟨rfl, row, hrow, rfl⟩, h⟩
    exact ⟨row, hrow, h⟩
  · rintro ⟨row, hrow, h⟩
    exact ⟨_, t, ⟨rfl, row, hrow, rfl⟩, h⟩

def ConnectorTables.raised (t : ConnectorTables) (enrollmentEpoch : String)
    (enrollment : EnrollmentRow) (fence : ℕ) : ConnectorTables :=
  { t with
    enrollments := t.enrollments.put enrollmentEpoch { enrollment with operationFence := fence } }

def ConnectorTables.opened (t : ConnectorTables) (enrollment : EnrollmentRow)
    (operation : PhotoKitOperation) (nowMs : ℤ) : ConnectorTables :=
  { t.raised operation.enrollmentEpoch enrollment operation.reconciliationFence with
    operations := t.operations.put operation.operationId (.begun operation nowMs) }

theorem nextMembershipGeneration_eq_ok {enrollmentEpoch : String} {generation : ℕ} :
    nextMembershipGeneration t enrollmentEpoch = .ok generation ↔
      generation = t.latestGeneration enrollmentEpoch + 1 ∧ generation ≤ MAX_STORED_INTEGER := by
  unfold nextMembershipGeneration
  rw [check_when_eq_ok]
  constructor
  · rintro ⟨hmax, rfl⟩
    exact ⟨rfl, hmax⟩
  · rintro ⟨rfl, hmax⟩
    exact ⟨hmax, rfl⟩

theorem openOperation_eq_ok {operationId requestId enrollmentEpoch : String} {currentFence : ℕ}
    {trigger : PhotoKitReconcileTriggerV1} {nowMs : ℤ} {enrollment : EnrollmentRow}
    (hrow : t.enrollments.find? enrollmentEpoch = some enrollment)
    (hactive : enrollment.state = .active) :
    openOperation operationId requestId enrollmentEpoch currentFence trigger nowMs t =
        (.ok operation, t') ↔
      operation = ⟨operationId, requestId, enrollmentEpoch, t.storeAuthorityEpoch,
          currentFence + 1, t.latestGeneration enrollmentEpoch + 1, trigger⟩ ∧
        t.latestGeneration enrollmentEpoch + 1 ≤ MAX_STORED_INTEGER ∧
        ({ enrollment with operationFence := currentFence + 1 } : EnrollmentRow).allowed ∧
        (t.raised enrollmentEpoch enrollment (currentFence + 1)).operationClashes
          (.begun operation nowMs) = false ∧
        t' = t.opened enrollment operation nowMs := by
  unfold openOperation
  rw [state_bind, Fallible.check_bind_eq_ok]
  simp only [nextMembershipGeneration_eq_ok, bind_eq_ok,
    updateEnrollment_eq_ok hrow hactive, insertOperation_eq_ok]
  constructor
  · rintro ⟨_, ⟨rfl, hmax⟩, ⟨⟩, _, ⟨hallowed, rfl⟩, ⟨⟩, _, ⟨hclash, rfl⟩, h⟩
    obtain ⟨hoperation, rfl⟩ := Prod.mk.inj h
    obtain rfl := Except.ok.inj hoperation
    exact ⟨rfl, hmax, hallowed, hclash, rfl⟩
  · rintro ⟨rfl, hmax, hallowed, hclash, rfl⟩
    exact ⟨_, ⟨rfl, hmax⟩, ⟨⟩, _, ⟨hallowed, rfl⟩, ⟨⟩, _, ⟨hclash, rfl⟩, rfl⟩

def OperationRow.published (row : OperationRow) (terminalState : OperationState)
    (terminalReason : Option String) (acceptedBytes : Option ℕ)
    (publication : PhotoKitPublication) (nowMs : ℤ) : OperationRow :=
  { row with
    state := terminalState
    terminalReason := terminalReason
    acceptedBytes := acceptedBytes.getD row.acceptedBytes
    finishedAtMs := some nowMs
    terminalPublication := some publication }

variable {services : ConnectorServices} {publication : PhotoKitPublication}
  {terminalState : OperationState}

theorem serializeTerminalPublication_eq_ok {stored : PhotoKitPublication} :
    serializeTerminalPublication services publication operation terminalState = .ok stored ↔
      stored = publication ∧ services.publicationLength publication ≤ 16384 ∧
        validateTerminalPublication services publication operation terminalState = .ok () := by
  unfold serializeTerminalPublication
  rw [check_then_eq_ok, check_unless_eq_ok]
  constructor
  · rintro ⟨hvalid, hlength, hstored⟩
    exact ⟨(Except.ok.inj hstored).symm, not_lt.mp hlength, hvalid⟩
  · rintro ⟨rfl, hlength, hvalid⟩
    exact ⟨hvalid, not_lt.mpr hlength, rfl⟩

theorem publishOperation_eq_ok {inState : OperationState → Bool} {nowMs : ℤ} {row : OperationRow}
    (hrow : t.operations.find? operation.operationId = some row) (hstate : inState row.state) :
    publishOperation services operation inState terminalState terminalReason acceptedBytes
        publication nowMs t = (.ok u, t') ↔
      services.publicationLength publication ≤ 16384 ∧
        validateTerminalPublication services publication operation terminalState = .ok () ∧
        (row.published terminalState terminalReason acceptedBytes publication nowMs).allowed ∧
        t' = t.withOperation operation.operationId
          (row.published terminalState terminalReason acceptedBytes publication nowMs) := by
  unfold publishOperation
  rw [Fallible.check_bind_eq_ok]
  simp only [serializeTerminalPublication_eq_ok, bind_eq_ok,
    updateOperation_eq_ok hrow hstate, rejectIf_eq_ok]
  constructor
  · rintro ⟨_, ⟨rfl, hlength, hvalid⟩, _, _, ⟨rfl, hallowed, rfl⟩, -, rfl⟩
    exact ⟨hlength, hvalid, hallowed, rfl⟩
  · rintro ⟨hlength, hvalid, hallowed, rfl⟩
    exact ⟨_, ⟨rfl, hlength, hvalid⟩, _, _, ⟨rfl, hallowed, rfl⟩, by simp, rfl⟩

theorem publishOperation_ok {inState : OperationState → Bool} {nowMs : ℤ} {row : OperationRow}
    (h : publishOperation services operation inState terminalState terminalReason acceptedBytes
      publication nowMs t = (.ok u, t'))
    (hrow : t.operations.find? operation.operationId = some row) (hstate : inState row.state) :
    validateTerminalPublication services publication operation terminalState = .ok () ∧
      t' = t.withOperation operation.operationId
        (row.published terminalState terminalReason acceptedBytes publication nowMs) := by
  obtain ⟨-, hvalid, -, hmoved⟩ := (publishOperation_eq_ok hrow hstate).mp h
  exact ⟨hvalid, hmoved⟩

/-! ## Transitions -/

def ConnectorTables.revised (t : ConnectorTables) (row : RevisionRow) : ConnectorTables :=
  { t with
    revisions := t.revisions ++ [row]
    heads := t.heads.put row.assetId row.revisionId }

theorem asI64_eq_ok {value result : ℕ} {code : String} :
    asI64 value code = .ok result ↔ value < 2 ^ 63 ∧ result = value := by
  unfold asI64
  rw [check_when_eq_ok, eq_comm (a := value)]

variable {revisionIds : String → String} {assetId enrollmentEpoch operationId : String}
  {membershipGeneration : Option ℕ} {availability : PhotoKitAvailabilityV1}
  {reason : PhotoKitAvailabilityReasonV1} {materializationId : Option String} {nowMs : ℤ}

/-- **A transition** leaves a head that says what is to be said, or makes a new revision the
head. -/
theorem transitionHead_ok {result : String × Bool}
    (h : transitionHead revisionIds assetId enrollmentEpoch operationId membershipGeneration
      availability reason materializationId nowMs t = (.ok result, t')) :
    (∃ head, t.headRevision assetId = some head ∧
        head.agrees enrollmentEpoch availability reason materializationId ∧
        result = (head.revisionId, false) ∧ t' = t) ∨
      ∃ row : RevisionRow, row.assetId = assetId ∧ row.revisionId = revisionIds assetId ∧
        row.agrees enrollmentEpoch availability reason materializationId ∧
        row.operationId = operationId ∧
        t.revisionClashes row = false ∧ result = (row.revisionId, true) ∧ t' = t.revised row := by
  unfold transitionHead at h
  rw [state_bind] at h
  cases hhead : t.agreeingHead assetId enrollmentEpoch availability reason materializationId with
  | some head =>
    rw [hhead] at h
    obtain ⟨hhead, hagrees⟩ := Option.filter_eq_some_iff.mp hhead
    obtain ⟨hresult, rfl⟩ := Prod.mk.inj h
    exact Or.inl ⟨head, hhead, hagrees, (Except.ok.inj hresult).symm, rfl⟩
  | none =>
    rw [hhead] at h
    obtain ⟨generation, hgeneration, h⟩ := Fallible.check_bind_eq_ok.mp h
    obtain ⟨⟨⟩, t₁, hinsert, h⟩ := bind_eq_ok.mp h
    obtain ⟨⟨⟩, t₂, hput, h⟩ := bind_eq_ok.mp h
    obtain ⟨hclash, rfl⟩ := insertRevision_eq_ok.mp hinsert
    obtain ⟨-, rfl⟩ := putHead_eq_ok.mp hput
    obtain ⟨hresult, rfl⟩ := Prod.mk.inj h
    refine Or.inr ⟨_, rfl, rfl, ?_, rfl, hclash, (Except.ok.inj hresult).symm, rfl⟩
    simp [RevisionRow.agrees]

end Steps

end Threadbook.PhotoKit
