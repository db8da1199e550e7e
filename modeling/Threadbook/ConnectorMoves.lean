import Threadbook.ConnectorHeads

/-!
# What the calls of the connector do

Each call that succeeds either replays what is stored or makes one move, which is described here
table by table. Which revisions transitions have added is left open.
-/

namespace Threadbook.PhotoKit

open Fallible List

open Promotion (RequestId ReplayStatusV1)
open Fallible (Keeps atomically_eq_ok require_bind_eq_ok state_bind bind_eq_ok
  rejectIf_bind_eq_ok rejectIf_eq_ok)

variable {services : ConnectorServices} {t t' : ConnectorTables} {operation : PhotoKitOperation}
  {nowMs : ℤ}

variable {u : Unit} {authorization : PhotoKitAuthorizationV1} {ids : CompletionIds}
  {enrollmentEpoch operationId assetId : String} {revisionIds : String → String} {transitions : ℕ}

theorem activeEnrollment_eq_some {enrollment : EnrollmentRow} :
    t.activeEnrollment = some (enrollmentEpoch, enrollment) ↔
      t.connector.activeEnrollmentEpoch = some enrollmentEpoch ∧
        t.enrollments.find? enrollmentEpoch = some enrollment ∧ enrollment.state = .active := by
  unfold ConnectorTables.activeEnrollment
  cases t.connector.activeEnrollmentEpoch with
  | none => simp
  | some epoch =>
    cases hrow : t.enrollments.find? epoch with
    | none =>
      simp only [hrow, reduceCtorEq, false_iff]
      rintro ⟨hepoch, hsome, -⟩
      cases hepoch
      rw [hrow] at hsome
      cases hsome
    | some row =>
      simp only [hrow]
      split
      · rename_i hactive
        constructor
        · intro h
          obtain ⟨rfl, rfl⟩ := Prod.mk.inj (Option.some.inj h)
          exact ⟨rfl, hrow, hactive⟩
        · rintro ⟨hepoch, hsome, -⟩
          cases hepoch
          rw [Option.mem_unique hrow hsome]
      · rename_i hinactive
        simp only [reduceCtorEq, false_iff]
        rintro ⟨hepoch, hsome, hactive⟩
        cases hepoch
        obtain rfl := Option.mem_unique hrow hsome
        exact hinactive hactive

/-! ## Beginning -/

structure Begun (t t' : ConnectorTables) (operation : PhotoKitOperation) (nowMs : ℤ)
    (enrollment : EnrollmentRow) : Prop where
  enrollment_eq : t.enrollments.find? operation.enrollmentEpoch = some enrollment
  active : enrollment.state = .active
  followed : t.connector.activeEnrollmentEpoch = some operation.enrollmentEpoch
  epoch : operation.storeAuthorityEpoch = t.storeAuthorityEpoch
  fence : operation.reconciliationFence = enrollment.operationFence + 1
  generation : operation.proposedMembershipGeneration =
    t.latestGeneration operation.enrollmentEpoch + 1
  fresh : (t.raised operation.enrollmentEpoch enrollment operation.reconciliationFence).operationClashes
    (.begun operation nowMs) = false
  unrequested : t.operationByRequest operation.requestId = none
  moved : ∃ authorization, t' = { t.opened enrollment operation nowMs with
    connector := { t.connector with
      state := .reconciling, authorization := authorization, updatedAtMs := nowMs } }

/-- **Beginning** replays the operation of a request, or begins a new one. -/
theorem beginOperation_ok {requestId : String} {trigger : PhotoKitReconcileTriggerV1}
    {replayed : Bool}
    (h : beginOperation services operationId requestId trigger authorization nowMs t =
      (.ok (operation, replayed), t')) :
    (replayed = true ∧ t' = t ∧
        ∃ row, t.operationByRequest requestId = some row ∧ operation = row.operation) ∨
      (replayed = false ∧ operation.requestId = requestId ∧ operation.operationId = operationId ∧
        ∃ enrollment, Begun t t' operation nowMs enrollment) := by
  rw [beginOperation, atomically_eq_ok, require_bind_eq_ok, state_bind] at h
  obtain ⟨-, h⟩ := h
  cases hrequest : t.operationByRequest requestId with
  | some row =>
    simp only [hrequest] at h
    split at h
    · cases h
    · obtain ⟨hresult, rfl⟩ := Prod.mk.inj h
      obtain ⟨rfl, rfl⟩ := Prod.mk.inj (Except.ok.inj hresult)
      exact .inl ⟨rfl, rfl, row, rfl, rfl⟩
  | none =>
    simp only [hrequest] at h
    cases hactive : t.activeEnrollment with
    | none =>
      rw [hactive] at h
      cases h
    | some active =>
      obtain ⟨enrollmentEpoch, enrollment⟩ := active
      simp only [hactive] at h
      obtain ⟨hfollowed, hrow, hstate⟩ := activeEnrollment_eq_some.mp hactive
      obtain ⟨opened, t₁, hopen, h⟩ := bind_eq_ok.mp h
      obtain ⟨rfl, -, -, hclash, rfl⟩ := (openOperation_eq_ok hrow hstate).mp hopen
      obtain ⟨⟨⟩, t₂, hconnector, h⟩ := bind_eq_ok.mp h
      obtain ⟨-, rfl⟩ := updateConnector_eq_ok.mp hconnector
      obtain ⟨hresult, rfl⟩ := Prod.mk.inj h
      obtain ⟨rfl, rfl⟩ := Prod.mk.inj (Except.ok.inj hresult)
      exact .inr ⟨rfl, rfl, rfl, enrollment,
        ⟨hrow, hstate, hfollowed, rfl, rfl, rfl, hclash, hrequest, authorization, rfl⟩⟩

/-! ## Recording -/

structure Recorded (t t' : ConnectorTables) (operation : PhotoKitOperation)
    (observation : ObservationRow) : Prop where
  current : t.isCurrent operation .enumerating
  own : observation.operationId = operation.operationId
  moved : ∃ row locators, t.operations.find? operation.operationId = some row ∧
    (locators = t.locators ∧ (∃ lookup, knownAsset t operation.enrollmentEpoch lookup =
        some (observation.assetId, observation.locatorId)) ∨
      ∃ locator, t.locatorClashes locator = false ∧ locator.finalized = false ∧
        locator.recordKind = .asset ∧ locator.operationId = some operation.operationId ∧
        locator.enrollmentEpoch = operation.enrollmentEpoch ∧
        locator.locatorId = observation.locatorId ∧ locator.stableRowId = observation.assetId ∧
        locators = t.locators ++ [locator]) ∧
    { t with locators := locators }.observationClashes observation = false ∧
    t' = { t with
      locators := locators
      observations := t.observations ++ [observation]
      operations := t.operations.put operation.operationId
        { row with observedCount := row.observedCount + 1 } }

theorem recordObservation_ok {ids : ObservationIds} {rootKey : Bytes} {ordinal : ℕ}
    {assetLocator : String} {resourceUti : Option String} {supported : Bool}
    {result : PhotoKitRecordedObservation}
    (h : recordObservation services ids operation rootKey ordinal assetLocator resourceUti
      supported nowMs t = (.ok result, t')) :
    Recorded t t' operation ⟨operation.operationId, ordinal, result.assetId, result.locatorId,
      resourceUti, supported⟩ := by
  rw [recordObservation, atomically_eq_ok, rejectIf_bind_eq_ok,
    require_bind_eq_ok, ensureCurrentOperation_bind_eq_ok, state_bind] at h
  obtain ⟨-, -, -, hcurrent, h⟩ := h
  obtain ⟨⟨assetId, locatorId⟩, t₂, hobserved, h⟩ := bind_eq_ok.mp h
  obtain ⟨⟨⟩, t₃, hinsert, h⟩ := bind_eq_ok.mp h
  obtain ⟨hclash, rfl⟩ := insertObservation_eq_ok.mp hinsert
  obtain ⟨row, enrollment, hrow, -⟩ := isCurrent_iff.mp hcurrent
  have hlocators : ∃ locators, (locators = t.locators ∧
        (∃ lookup, knownAsset t operation.enrollmentEpoch lookup = some (assetId, locatorId)) ∨
      ∃ locator, t.locatorClashes locator = false ∧ locator.finalized = false ∧
        locator.recordKind = .asset ∧ locator.operationId = some operation.operationId ∧
        locator.enrollmentEpoch = operation.enrollmentEpoch ∧ locator.locatorId = locatorId ∧
        locator.stableRowId = assetId ∧ locators = t.locators ++ [locator]) ∧
      t₂ = { t with locators := locators } := by
    unfold observedAsset at hobserved
    cases hknown : knownAsset t operation.enrollmentEpoch (services.locatorLookup rootKey
        operation.enrollmentEpoch .asset assetLocator) with
    | some known =>
      rw [hknown] at hobserved
      obtain ⟨hsame, rfl⟩ := Prod.mk.inj hobserved
      exact ⟨_, .inl ⟨rfl, _, hknown.trans (congrArg some (Except.ok.inj hsame))⟩, rfl⟩
    | none =>
      rw [hknown] at hobserved
      obtain ⟨locator, -, hobserved⟩ := Fallible.check_bind_eq_ok.mp hobserved
      obtain ⟨⟨⟩, t₄, hlocator, hobserved⟩ := bind_eq_ok.mp hobserved
      obtain ⟨hfresh, rfl⟩ := insertLocator_eq_ok.mp hlocator
      obtain ⟨hsame, rfl⟩ := Prod.mk.inj hobserved
      obtain ⟨hasset, hlocatorId⟩ := Prod.mk.inj (Except.ok.inj hsame)
      exact ⟨_, .inr ⟨_, hfresh, rfl, rfl, rfl, rfl, hlocatorId, hasset, rfl⟩, rfl⟩
  obtain ⟨locators, hlocators, rfl⟩ := hlocators
  obtain ⟨changed, t₅, hupdate, h⟩ := bind_eq_ok.mp h
  obtain ⟨-, rfl⟩ := updateOperation_ok hupdate hrow rfl
  obtain ⟨hresult, rfl⟩ := Prod.mk.inj h
  obtain rfl := Except.ok.inj hresult
  exact ⟨hcurrent, rfl, row, locators, hrow, hlocators, hclash, rfl⟩

structure Marked (t t' : ConnectorTables) (operation : PhotoKitOperation) : Prop where
  current : t.isCurrent operation .enumerating
  moved : ∃ row, t.operations.find? operation.operationId = some row ∧ row.state = .enumerating ∧
    row.observedCount = (t.observationsOf operation.operationId).length ∧
    t' = t.withOperation operation.operationId { row with state := .materializing }

theorem markMaterializing_ok (h : markMaterializing operation t = (.ok u, t')) :
    Marked t t' operation := by
  rw [markMaterializing, atomically_eq_ok, ensureCurrentOperation_bind_eq_ok] at h
  obtain ⟨-, hcurrent, h⟩ := h
  obtain ⟨row, enrollment, hrow, -, -, -, hstate, -⟩ := isCurrent_iff.mp hcurrent
  simp only [state_bind, hrow, rejectIf_bind_eq_ok, not_not] at h
  obtain ⟨hcount, h⟩ := h
  obtain ⟨changed, t₂, hupdate, h⟩ := bind_eq_ok.mp h
  obtain ⟨-, rfl⟩ := updateOperation_ok hupdate hrow (by simp [hstate])
  cases h
  exact ⟨hcurrent, row, hrow, hstate, hcount, rfl⟩

structure Attempted (t t' : ConnectorTables) (operation : PhotoKitOperation) : Prop where
  current : t.isCurrent operation .materializing
  moved : ∃ attempt, t' = { t with attempts := t.attempts ++ [attempt] }

theorem recordAttempt_ok {attemptId : String} {ordinal attemptOrdinal acceptedBytes : ℕ}
    {networkAccessAllowed : Bool} {result : String}
    (h : recordAttempt attemptId operation ordinal attemptOrdinal networkAccessAllowed
      acceptedBytes result nowMs t = (.ok u, t')) : Attempted t t' operation := by
  rw [recordAttempt, atomically_eq_ok, rejectIf_bind_eq_ok, ensureCurrentOperation_bind_eq_ok] at h
  obtain ⟨-, -, hcurrent, h⟩ := h
  obtain ⟨-, rfl⟩ := insertAttempt_eq_ok.mp h
  exact ⟨hcurrent, _, rfl⟩

/-! ## Publishing -/

theorem transitionUnavailable_ok {membershipGeneration : Option ℕ}
    {reason : PhotoKitAvailabilityReasonV1} {result : ℕ} {assets : List String}
    (h : transitionUnavailable revisionIds enrollmentEpoch operationId membershipGeneration
      reason nowMs transitions assets t = (.ok result, t')) :
    ∃ revisions heads, t' = { t with revisions := revisions, heads := heads } := by
  have hkeeps : Keeps (fun s => ∃ revisions heads,
      s = { t with revisions := revisions, heads := heads })
      (transitionUnavailable revisionIds enrollmentEpoch operationId membershipGeneration reason
        nowMs transitions assets) := by
    refine transitionUnavailable_keeps fun s row _ hs => ?_
    obtain ⟨revisions, heads, rfl⟩ := hs
    exact ⟨_, _, rfl⟩
  exact hkeeps t t' result ⟨_, _, rfl⟩ h

theorem incrementIf_ok {changed : Bool} (h : incrementIf changed t = (.ok u, t')) :
    ∃ revision, t' = { t with photokitRevision := revision } := by
  cases changed with
  | false =>
    cases h
    exact ⟨_, rfl⟩
  | true =>
    obtain ⟨-, rfl⟩ := incrementPhotokitRevision_eq_ok.mp h
    exact ⟨_, rfl⟩

theorem updateConnectorOf_ok {f : ConnectorRow → ConnectorRow}
    (h : updateConnectorOf operation f t = (.ok u, t'))
    (hfollowed : t.connector.activeEnrollmentEpoch = some operation.enrollmentEpoch) :
    (f t.connector).allowed ∧ t' = { t with connector := f t.connector } := by
  unfold updateConnectorOf at h
  rw [state_bind, if_pos hfollowed] at h
  exact updateConnector_eq_ok.mp h

structure Recounted (t : ConnectorTables) (enrollmentEpoch : String) (connector : ConnectorRow)
    (revisions : List RevisionRow) (heads : Table String String) : Prop where
  enrollment : connector.activeEnrollmentEpoch = t.connector.activeEnrollmentEpoch
  generation : connector.activeMembershipGeneration = t.connector.activeMembershipGeneration
  counts : (revisions = t.revisions ∧ heads = t.heads ∧ connector.counts = t.connector.counts) ∨
    connector.counts =
      enrollmentCounts { t with revisions := revisions, heads := heads } enrollmentEpoch

variable {reason : Option PhotoKitAvailabilityReasonV1} {publication : PhotoKitPublication}

theorem withholdAssets_ok
    (h : withholdAssets revisionIds operation authorization reason nowMs t = (.ok transitions, t'))
    (hfollowed : t.connector.activeEnrollmentEpoch = some operation.enrollmentEpoch) :
    ∃ connector revisions heads revision,
      Recounted t operation.enrollmentEpoch connector revisions heads ∧ t' = { t with
          connector := connector
          revisions := revisions
          heads := heads
          photokitRevision := revision } := by
  cases reason with
  | none =>
    obtain ⟨⟨⟩, t₁, hconnector, h⟩ := bind_eq_ok.mp h
    obtain ⟨-, rfl⟩ := updateConnectorOf_ok hconnector hfollowed
    cases h
    refine ⟨_, t.revisions, t.heads, t.photokitRevision, ?_, rfl⟩
    exact ⟨rfl, rfl, .inl ⟨rfl, rfl, rfl⟩⟩
  | some reason =>
    simp only [withholdAssets, state_bind] at h
    obtain ⟨_, t₁, htransitions, h⟩ := bind_eq_ok.mp h
    obtain ⟨revisions, heads, rfl⟩ := transitionUnavailable_ok htransitions
    obtain ⟨⟨⟩, t₂, hrevision, h⟩ := bind_eq_ok.mp h
    obtain ⟨revision, rfl⟩ := incrementIf_ok hrevision
    simp only [state_bind] at h
    obtain ⟨⟨⟩, t₃, hconnector, h⟩ := bind_eq_ok.mp h
    obtain ⟨-, rfl⟩ := updateConnectorOf_ok hconnector hfollowed
    cases h
    refine ⟨_, revisions, heads, revision, ?_, rfl⟩
    exact ⟨rfl, rfl, .inr rfl⟩

structure Withheld (services : ConnectorServices) (t t' : ConnectorTables)
    (operation : PhotoKitOperation) (publication : PhotoKitPublication) : Prop where
  current : ∃ current, current.isLive ∧ t.isCurrent operation current
  valid : validateTerminalPublication services publication operation .failed = .ok ()
  moved : ∃ row connector revisions heads revision terminalReason nowMs,
    t.operations.find? operation.operationId = some row ∧ row.state.isLive ∧
      Recounted t operation.enrollmentEpoch connector revisions heads ∧
      t' = ({ t with
        connector := connector
        revisions := revisions
        heads := heads
        photokitRevision := revision
        operations := t.operations.put operation.operationId
          (row.published .failed terminalReason none publication nowMs) } :
        ConnectorTables).cleaned operation.operationId

def ConnectorTables.Genuine (t : ConnectorTables) (operation : PhotoKitOperation) : Prop :=
  ∃ row, t.operations.find? operation.operationId = some row ∧ row.operation = operation

theorem ConnectorTables.Genuine.current {expected : OperationState} (hgenuine : t.Genuine operation)
    (hcurrent : t.isCurrent operation expected) :
    ∃ row enrollment, t.operations.find? operation.operationId = some row ∧
      row.operation = operation ∧ row.state = expected ∧
      t.enrollments.find? operation.enrollmentEpoch = some enrollment ∧
      t.connector.activeEnrollmentEpoch = some operation.enrollmentEpoch ∧
      enrollment.operationFence = operation.reconciliationFence ∧ enrollment.state = .active := by
  obtain ⟨row, hrow, rfl⟩ := hgenuine
  obtain ⟨row', enrollment, hrow', henrollment, hfollowed, -, hstate, -, hfence, hactive⟩ :=
    isCurrent_iff.mp hcurrent
  obtain rfl := Option.mem_unique hrow hrow'
  exact ⟨row, enrollment, hrow, rfl, hstate, henrollment, hfollowed, hfence, hactive⟩

/-- **Ending an operation without a generation** publishes that, or replays what the operation
has published. -/
theorem finalizeGlobalUnavailable_ok {terminalReason : String} (hgenuine : t.Genuine operation)
    (h : finalizeGlobalUnavailable services revisionIds operation authorization reason
      terminalReason nowMs t = (.ok publication, t')) :
    (t' = t ∧ terminalPublication services t operation = .ok publication) ∨
      Withheld services t t' operation publication := by
  rw [finalizeGlobalUnavailable, atomically_eq_ok, require_bind_eq_ok,
    operationState_bind_eq_ok] at h
  obtain ⟨-, row, hrow, h⟩ := h
  split at h
  · obtain ⟨hpublication, rfl⟩ := Fallible.check_eq_ok.mp h
    exact .inl ⟨rfl, hpublication⟩
  · rw [rejectIf_bind_eq_ok, ensureCurrentOperationAny_bind_eq_ok] at h
    obtain ⟨-, -, ⟨current, hlive, hcurrent⟩, h⟩ := h
    obtain ⟨row', enrollment, hrow', -, hstate, -, hfollowed, -⟩ := hgenuine.current hcurrent
    obtain rfl := Option.mem_unique hrow hrow'
    obtain ⟨transitions, t₁, hwithheld, h⟩ := bind_eq_ok.mp h
    obtain ⟨connector, revisions, heads, revision, hcounted, rfl⟩ :=
      withholdAssets_ok hwithheld hfollowed
    rw [state_bind] at h
    obtain ⟨snapshot, -, h⟩ := Fallible.check_bind_eq_ok.mp h
    obtain ⟨⟨⟩, t₂, hpublish, h⟩ := bind_eq_ok.mp h
    obtain ⟨hvalid, rfl⟩ := publishOperation_ok hpublish hrow (hstate ▸ hlive)
    obtain ⟨⟨⟩, t₃, hclean, h⟩ := bind_eq_ok.mp h
    obtain ⟨-, rfl⟩ := Prod.mk.inj hclean
    obtain ⟨hresult, rfl⟩ := Prod.mk.inj h
    obtain rfl := Except.ok.inj hresult
    exact .inr ⟨⟨current, hlive, hcurrent⟩, hvalid, row, connector, revisions, heads, revision,
      _, _, hrow, hstate ▸ hlive, hcounted, rfl⟩

/-! ## Completing -/

def finalizeLocators (locatorIds : List String) (locators : List LocatorRow) : List LocatorRow :=
  locators.map fun row => if row.locatorId ∈ locatorIds then { row with finalized := true } else row

structure Enlisted (t t' : ConnectorTables) (operation : PhotoKitOperation)
    (observations : List (ObservationRow × PhotoKitFinalizedObservation)) : Prop where
  locators : t'.locators =
    finalizeLocators (observations.map fun observation => observation.1.locatorId) t.locators
  kept : ∀ assetId row, t.assets.find? assetId = some row → t'.assets.find? assetId = some row
  added : ∀ assetId row, t'.assets.find? assetId = some row →
    t.assets.find? assetId = some row ∨ ∃ observation ∈ observations,
      assetId = observation.1.assetId ∧ row.locatorId = observation.1.locatorId ∧
        row.enrollmentEpoch = operation.enrollmentEpoch
  identified : ∀ observation ∈ observations, ∃ row,
    t'.assets.find? observation.1.assetId = some row ∧
      row.enrollmentEpoch = operation.enrollmentEpoch ∧ row.locatorId = observation.1.locatorId
  members : ∃ members, t'.members = t.members ++ members ∧
    List.Forall₂ (fun member observation =>
      member.enrollmentEpoch = operation.enrollmentEpoch ∧
        member.membershipGeneration = operation.proposedMembershipGeneration ∧
        member.ordinal = observation.2.ordinal ∧ member.assetId = observation.1.assetId)
      members observations

theorem finalizeLocators_append (first rest : List String) (locators : List LocatorRow) :
    finalizeLocators rest (finalizeLocators first locators) =
      finalizeLocators (first ++ rest) locators := by
  unfold finalizeLocators
  rw [map_map]
  refine map_congr_left fun row _ => ?_
  by_cases hfirst : row.locatorId ∈ first <;> by_cases hrest : row.locatorId ∈ rest <;>
    simp [hfirst, hrest]

theorem Enlisted.none (t : ConnectorTables) (operation : PhotoKitOperation) :
    Enlisted t t operation [] where
  locators := by simp [finalizeLocators]
  kept _ _ h := h
  added _ _ h := .inl h
  identified := by simp
  members := ⟨[], (append_nil _).symm, .nil⟩

theorem Enlisted.append {t₁ t₂ : ConnectorTables}
    {first rest : List (ObservationRow × PhotoKitFinalizedObservation)}
    (hfirst : Enlisted t t₁ operation first) (hrest : Enlisted t₁ t₂ operation rest) :
    Enlisted t t₂ operation (first ++ rest) where
  locators := by
    rw [hrest.locators, hfirst.locators, finalizeLocators_append, map_append]
  kept assetId row h := hrest.kept assetId row (hfirst.kept assetId row h)
  added assetId row h := by
    obtain h | ⟨observation, hmem, hasset⟩ := hrest.added assetId row h
    · obtain h | ⟨observation, hmem, hasset⟩ := hfirst.added assetId row h
      · exact .inl h
      · exact .inr ⟨observation, mem_append_left _ hmem, hasset⟩
    · exact .inr ⟨observation, mem_append_right _ hmem, hasset⟩
  identified observation hmem := by
    obtain hmem | hmem := mem_append.mp hmem
    · obtain ⟨row, hrow, hsame⟩ := hfirst.identified observation hmem
      exact ⟨row, hrest.kept _ _ hrow, hsame⟩
    · exact hrest.identified observation hmem
  members := by
    obtain ⟨members₁, hmembers₁, hall₁⟩ := hfirst.members
    obtain ⟨members₂, hmembers₂, hall₂⟩ := hrest.members
    refine ⟨members₁ ++ members₂, ?_, rel_append hall₁ hall₂⟩
    rw [hmembers₂, hmembers₁, append_assoc]

theorem insertAssetOrIgnore_ok {row : AssetRow}
    (h : insertAssetOrIgnore assetId row t = (.ok u, t')) :
    t' = t ∨ t.assets.find? assetId = none ∧ t' = { t with assets := t.assets.put assetId row } := by
  unfold insertAssetOrIgnore at h
  rw [state_bind] at h
  split at h
  · exact .inl (Prod.mk.inj h).2.symm
  · rename_i hfresh
    obtain ⟨-, h⟩ := rejectIf_bind_eq_ok.mp h
    refine .inr ⟨?_, (Prod.mk.inj h).2.symm⟩
    simpa using (not_or.mp hfresh).1

theorem insertMaterializationOf_ok {materialization : Option PhotoKitMaterializationRecord}
    {result : Option String}

    (h : insertMaterializationOf ids assetId operationId materialization nowMs t = (.ok result, t')) :
    ∃ blobs materializations,
      t' = { t with blobs := blobs, materializations := materializations } := by
  have hkeeps : Keeps (fun s => ∃ blobs materializations,
      s = { t with blobs := blobs, materializations := materializations })
      (insertMaterializationOf ids assetId operationId materialization nowMs) := by
    cases materialization with
    | none => exact Keeps.pure _
    | some value =>
      refine Keeps.bind (insertMaterialization_keeps ?_ ?_) fun _ => Keeps.pure _
      · rintro s blobs ⟨_, materializations, rfl⟩
        exact ⟨blobs, materializations, rfl⟩
      · rintro s row ⟨blobs, materializations, rfl⟩
        exact ⟨blobs, materializations ++ [row], rfl⟩
  exact hkeeps t t' result ⟨t.blobs, t.materializations, rfl⟩ h

theorem verifyAssetIdentity_eq_ok {locatorId : String} :
    verifyAssetIdentity assetId enrollmentEpoch locatorId t = (.ok u, t') ↔
      t' = t ∧ ∃ row, t.assets.find? assetId = some row ∧ row.enrollmentEpoch = enrollmentEpoch ∧
        row.locatorId = locatorId := by
  unfold verifyAssetIdentity
  rw [state_bind]
  cases t.assets.find? assetId with
  | none => simp
  | some row =>
    simp only [rejectIf_eq_ok, not_or, not_not, Option.some.injEq, exists_eq_left']
    rw [and_comm, eq_comm (a := t)]

theorem finalizeObservation_ok {stored : ObservationRow} {result : PhotoKitFinalizedObservation}
    {changed : Bool}
    (h : finalizeObservation ids operation nowMs stored result t = (.ok changed, t')) :
    Enlisted t t' operation [(stored, result)] := by
  simp only [finalizeObservation, require_bind_eq_ok] at h
  obtain ⟨-, h⟩ := h
  obtain ⟨⟨⟩, t₁, hlocator, h⟩ := bind_eq_ok.mp h
  cases hlocator
  obtain ⟨⟨⟩, t₂, hasset, h⟩ := bind_eq_ok.mp h
  obtain ⟨⟨⟩, t₃, hidentity, hrest⟩ := bind_eq_ok.mp h
  clear h
  obtain ⟨rfl, identity, hidentified, hsameEpoch, hsameLocator⟩ :=
    verifyAssetIdentity_eq_ok.mp hidentity
  obtain ⟨materializationId, t₄, hmaterialized, h⟩ := bind_eq_ok.mp hrest
  obtain ⟨blobs, materializations, rfl⟩ := insertMaterializationOf_ok hmaterialized
  obtain ⟨⟨revisionId, changed'⟩, t₅, htransition, h⟩ := bind_eq_ok.mp h
  obtain ⟨⟨⟩, t₆, hmember, h⟩ := bind_eq_ok.mp h
  obtain ⟨-, rfl⟩ := insertMember_eq_ok.mp hmember
  cases h
  have hheads : t₅.assets = t₃.assets ∧ t₅.members = t₃.members ∧ t₅.locators = t₃.locators := by
    obtain ⟨_, -, -, -, rfl⟩ | ⟨row, -, -, -, -, -, -, rfl⟩ := transitionHead_ok htransition
    · exact ⟨rfl, rfl, rfl⟩
    · exact ⟨rfl, rfl, rfl⟩
  have hassets : (t₃.assets = t.assets ∨ t.assets.find? stored.assetId = none ∧
      t₃.assets = t.assets.put stored.assetId
        ⟨operation.enrollmentEpoch, stored.locatorId, nowMs⟩) ∧ t₃.members = t.members ∧
      t₃.locators = finalizeLocators [stored.locatorId] t.locators := by
    have hlocators : ∀ locators : List LocatorRow, (locators.map fun row =>
        if row.locatorId = stored.locatorId then { row with finalized := true } else row) =
          finalizeLocators [stored.locatorId] locators := by
      intro locators
      simp only [finalizeLocators, mem_singleton]
    obtain rfl | ⟨hfresh, rfl⟩ := insertAssetOrIgnore_ok hasset
    · exact ⟨.inl rfl, rfl, hlocators _⟩
    · exact ⟨.inr ⟨hfresh, rfl⟩, rfl, hlocators _⟩
  refine ⟨?_, fun assetId row hrow => ?_, fun assetId row hrow => ?_, ?_, ?_⟩
  · show t₅.locators = _
    rw [hheads.2.2, hassets.2.2]
    rfl
  · show t₅.assets.find? assetId = some row
    rw [hheads.1]
    obtain ⟨hsame | ⟨hfresh, hput⟩, -⟩ := hassets
    · rw [hsame, hrow]
    · rw [hput, Table.find?_put, if_neg, hrow]
      rintro rfl
      rw [hfresh] at hrow
      cases hrow
  · change t₅.assets.find? assetId = some row at hrow
    rw [hheads.1] at hrow
    obtain ⟨hsame | ⟨-, hput⟩, -⟩ := hassets
    · exact .inl (hsame ▸ hrow)
    · rw [hput, Table.find?_put] at hrow
      split at hrow
      · rename_i hsameAsset
        cases hrow
        exact .inr ⟨_, mem_singleton_self _, hsameAsset, rfl, rfl⟩
      · exact .inl hrow
  · intro observation hobservation
    obtain rfl := mem_singleton.mp hobservation
    refine ⟨identity, ?_, hsameEpoch, hsameLocator⟩
    show t₅.assets.find? stored.assetId = some identity
    rw [hheads.1, hidentified]
  · refine ⟨[⟨operation.enrollmentEpoch, operation.proposedMembershipGeneration, result.ordinal,
      stored.assetId, revisionId⟩], ?_, .cons ⟨rfl, rfl, rfl, rfl⟩ .nil⟩
    show t₅.members ++ _ = _
    rw [hheads.2.1, hassets.2.1]

theorem finalizeObservations_ok {result : ℕ}
    {observations : List (ObservationRow × PhotoKitFinalizedObservation)}
    (h : finalizeObservations ids operation nowMs transitions observations t = (.ok result, t')) :
    Enlisted t t' operation observations := by
  induction observations generalizing t transitions with
  | nil =>
    obtain ⟨-, rfl⟩ := Prod.mk.inj h
    exact .none _ _
  | cons observation rest ih =>
    obtain ⟨changed, t₁, hfirst, h⟩ := bind_eq_ok.mp h
    obtain ⟨_, -, h⟩ := Fallible.check_bind_eq_ok.mp h
    exact (finalizeObservation_ok hfirst).append (ih h)

structure Completed (services : ConnectorServices) (t t' : ConnectorTables)
    (operation : PhotoKitOperation) (observations : List PhotoKitFinalizedObservation)
    (publication : PhotoKitPublication) (row : OperationRow) (enrollment : EnrollmentRow)
    (generation : GenerationRow) : Prop where
  current : t.isCurrent operation .materializing
  valid : validateTerminalPublication services publication operation .complete = .ok ()
  aligned : (t.observationsOf operation.operationId).map ObservationRow.ordinal =
    observations.map PhotoKitFinalizedObservation.ordinal
  row_eq : t.operations.find? operation.operationId = some row
  materializing : row.state = .materializing
  enrollment_eq : t.enrollments.find? operation.enrollmentEpoch = some enrollment
  fresh : t.generationClashes operation.enrollmentEpoch operation.proposedMembershipGeneration
    generation = false
  own : generation.operationId = operation.operationId
  enlisted : Enlisted t t' operation ((t.observationsOf operation.operationId).zip observations)
  observations_eq : t'.observations = t.observations
  generations_eq : t'.generations = t.generations.put
    (operation.enrollmentEpoch, operation.proposedMembershipGeneration) generation
  enrollments_eq : t'.enrollments = t.enrollments.put operation.enrollmentEpoch
    { enrollment with activeMembershipGeneration := some operation.proposedMembershipGeneration }
  operations_eq : ∃ acceptedBytes nowMs, t'.operations = t.operations.put operation.operationId
    (row.published .complete none acceptedBytes publication nowMs)
  follows : t'.connector.activeEnrollmentEpoch = t.connector.activeEnrollmentEpoch
  follows_generation : t'.connector.activeMembershipGeneration =
    some operation.proposedMembershipGeneration
  counts : t'.connector.counts = t'.headCounts operation.enrollmentEpoch

/-- **Completing an operation** publishes a generation, or replays what the operation has
published. -/
theorem finalizeComplete_ok {observations : List PhotoKitFinalizedObservation}
    (hgenuine : t.Genuine operation)
    (h : finalizeComplete services ids operation authorization observations nowMs t =
      (.ok publication, t')) :
    (t' = t ∧ terminalPublication services t operation = .ok publication ∧
        ∃ row, t.operations.find? operation.operationId = some row ∧ row.state = .complete) ∨
      ∃ row enrollment generation, Completed services t t' operation observations publication row
        enrollment generation := by
  rw [finalizeComplete, atomically_eq_ok, rejectIf_bind_eq_ok, operationState_bind_eq_ok] at h
  obtain ⟨-, row, hrow, h⟩ := h
  split at h
  · rename_i hcomplete
    obtain ⟨hpublication, rfl⟩ := Fallible.check_eq_ok.mp h
    exact .inl ⟨rfl, hpublication, row, hrow, hcomplete⟩
  · rw [rejectIf_bind_eq_ok, ensureCurrentOperation_bind_eq_ok, state_bind] at h
    obtain ⟨-, -, hcurrent, h⟩ := h
    obtain ⟨row', enrollment, hrow', -, hstate, henrollment, hfollowed, -, hactive⟩ :=
      hgenuine.current hcurrent
    obtain rfl := Option.mem_unique hrow hrow'
    rw [rejectIf_bind_eq_ok, not_not] at h
    obtain ⟨haligned, h⟩ := h
    obtain ⟨generation, hgeneration, h⟩ := Fallible.check_bind_eq_ok.mp h
    obtain ⟨-, rfl⟩ := asI64_eq_ok.mp hgeneration
    obtain ⟨⟨⟩, t₁, hinsert, h⟩ := bind_eq_ok.mp h
    obtain ⟨hclash, rfl⟩ := insertGeneration_eq_ok.mp hinsert
    obtain ⟨transitions, u, hfinalized, h⟩ := bind_eq_ok.mp h
    have henlisted := finalizeObservations_ok hfinalized
    -- the books are as they were when the generation was inserted
    have hsame := finalizeObservations_keeps (books_unaffected _) _ _ _ rfl hfinalized
    have henrollments : u.enrollments = t.enrollments := congrArg ConnectorBooks.enrollments hsame
    have hoperations : u.operations = t.operations := congrArg ConnectorBooks.operations hsame
    have hconnector : u.connector = t.connector := congrArg ConnectorBooks.connector hsame
    rw [state_bind] at h
    obtain ⟨transitions', t₂, htransitions, h⟩ := bind_eq_ok.mp h
    obtain ⟨revisions, heads, rfl⟩ := transitionUnavailable_ok htransitions
    obtain ⟨⟨⟩, t₃, hrevision, h⟩ := bind_eq_ok.mp h
    obtain ⟨-, rfl⟩ := incrementPhotokitRevision_eq_ok.mp hrevision
    rw [state_bind] at h
    obtain ⟨⟨⟩, t₄, hupdate, h⟩ := bind_eq_ok.mp h
    obtain ⟨-, rfl⟩ := updateEnrollment_ok hupdate (henrollments.symm ▸ henrollment) hactive
    obtain ⟨⟨⟩, t₅, hconnected, h⟩ := bind_eq_ok.mp h
    obtain ⟨-, rfl⟩ := updateConnectorOf_ok hconnected (hconnector.symm ▸ hfollowed)
    rw [state_bind] at h
    obtain ⟨snapshot, -, h⟩ := Fallible.check_bind_eq_ok.mp h
    obtain ⟨accepted, -, h⟩ := Fallible.check_bind_eq_ok.mp h
    obtain ⟨⟨⟩, t₆, hpublish, h⟩ := bind_eq_ok.mp h
    obtain ⟨hvalid, rfl⟩ := publishOperation_ok hpublish (hoperations.symm ▸ hrow)
      (by simp [hstate])
    obtain ⟨hresult, rfl⟩ := Prod.mk.inj h
    obtain rfl := Except.ok.inj hresult
    exact .inr ⟨row, enrollment, _, {
      current := hcurrent
      valid := hvalid
      aligned := haligned
      row_eq := hrow
      materializing := hstate
      enrollment_eq := henrollment
      fresh := hclash
      own := rfl
      enlisted := ⟨henlisted.locators, henlisted.kept, henlisted.added, henlisted.identified,
        henlisted.members⟩
      observations_eq := congrArg ConnectorBooks.observations hsame
      generations_eq := congrArg ConnectorBooks.generations hsame
      enrollments_eq := by rw [← henrollments]; rfl
      operations_eq := ⟨some accepted, nowMs, by rw [← hoperations]; rfl⟩
      follows := by
        show u.connector.activeEnrollmentEpoch = _
        rw [hconnector]
      follows_generation := rfl
      counts := rfl }⟩

end Threadbook.PhotoKit
