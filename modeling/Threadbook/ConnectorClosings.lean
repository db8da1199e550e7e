import Threadbook.ConnectorMoves

/-!
# Following albums

An enrollment is reserved, then followed, and at last followed no more, which an operation of its
own publishes. At startup operations that have not ended are given up.
-/

namespace Threadbook.PhotoKit

open Fallible Table

open Fallible (atomically_eq_ok require_bind_eq_ok state_bind bind_eq_ok rejectIf_bind_eq_ok)

open Promotion (RequestId ReplayStatusV1)

variable {services : ConnectorServices} {t t' : ConnectorTables} {nowMs : ℤ}

/-! ## Reserving -/

def EnrollmentRow.reserved (keyReference : String) (allowIcloudDownloads : Bool) (nowMs : ℤ) :
    EnrollmentRow :=
  ⟨keyReference, .pending, allowIcloudDownloads, 0, none, nowMs, none, none⟩

variable {enrollmentEpoch envelopeHash : String} {u : Unit} {ids : ClosingIds}
  {enrollment : PhotoKitEnrollment}

theorem reserveEnrollment_ok {keyReference : String} {allowIcloudDownloads : Bool}
    (h : reserveEnrollment services enrollmentEpoch keyReference allowIcloudDownloads nowMs t =
      (.ok enrollment, t')) :
    t.enrollments.find? enrollmentEpoch = none ∧ t' = { t with
        enrollments := t.enrollments.put enrollmentEpoch
          (.reserved keyReference allowIcloudDownloads nowMs) } := by
  rw [reserveEnrollment, atomically_eq_ok, require_bind_eq_ok, rejectIf_bind_eq_ok] at h
  obtain ⟨-, -, h⟩ := h
  obtain ⟨⟨⟩, t₁, hinsert, h⟩ := bind_eq_ok.mp h
  obtain ⟨hclash, rfl⟩ := insertEnrollment_eq_ok.mp hinsert
  cases h
  refine ⟨?_, rfl⟩
  simp only [ConnectorTables.enrollmentClashes, decide_eq_false_iff_not, not_or,
    Bool.not_eq_true, Option.isSome_eq_false_iff, Option.isNone_iff_eq_none] at hclash
  exact hclash.1

theorem removePendingEnrollment_ok {cleanupReason : String}
    (h : removePendingEnrollment services enrollmentEpoch cleanupReason t = (.ok u, t')) :
    t' = t ∨ ∃ row, t.enrollments.find? enrollmentEpoch = some row ∧ row.state = .pending ∧
      t' = { t with
        locators := t.locators.filter fun row =>
          ¬ (row.enrollmentEpoch = enrollmentEpoch ∧ row.finalized = false)
        enrollments := t.enrollments.delete enrollmentEpoch } := by
  rw [removePendingEnrollment, atomically_eq_ok, require_bind_eq_ok,
    rejectIf_bind_eq_ok, state_bind] at h
  obtain ⟨-, -, h⟩ := h
  cases hrow : (t.enrollments.find? enrollmentEpoch).filter fun row => row.state = .pending with
  | none =>
    rw [hrow] at h
    exact .inl (Prod.mk.inj h).2.symm
  | some row =>
    rw [hrow] at h
    obtain ⟨hrow, hpending⟩ := Option.filter_eq_some_iff.mp hrow
    exact .inr ⟨row, hrow, by simpa using hpending, (Prod.mk.inj h).2.symm⟩

/-! ## Following no more -/

theorem enrollmentCounts_congr {s : ConnectorTables}
    (hgeneration : (s.enrollments.find? enrollmentEpoch).bind
        EnrollmentRow.activeMembershipGeneration =
      (t.enrollments.find? enrollmentEpoch).bind EnrollmentRow.activeMembershipGeneration)
    (hassets : s.assets = t.assets) (hrevisions : s.revisions = t.revisions)
    (hheads : s.heads = t.heads) :
    enrollmentCounts s enrollmentEpoch = enrollmentCounts t enrollmentEpoch := by
  unfold enrollmentCounts ConnectorTables.headCounts ConnectorTables.headRevisions
    ConnectorTables.isAssetOf ConnectorTables.revision?
  rw [hgeneration, hassets, hrevisions, hheads]

def EnrollmentRow.closed (row : EnrollmentRow) (nowMs : ℤ) : EnrollmentRow :=
  { row with
    operationFence := row.operationFence + 1
    state := .inactive
    inactivatedAtMs := some nowMs }

structure Closed (services : ConnectorServices) (t t' : ConnectorTables) (nowMs : ℤ)
    (enrollment : EnrollmentRow) (operation : PhotoKitOperation)
    (publication : PhotoKitPublication) : Prop where
  enrollment_eq : t.enrollments.find? operation.enrollmentEpoch = some enrollment
  active : enrollment.state = .active
  followed : t.connector.activeEnrollmentEpoch = some operation.enrollmentEpoch
  fence : operation.reconciliationFence = enrollment.operationFence + 1
  generation : operation.proposedMembershipGeneration =
    t.latestGeneration operation.enrollmentEpoch + 1
  fresh : (t.raised operation.enrollmentEpoch enrollment operation.reconciliationFence).operationClashes
    (.begun operation nowMs) = false
  valid : validateTerminalPublication services publication operation .failed = .ok ()
  moved : ∃ connector revisions heads revision,
    Recounted t operation.enrollmentEpoch connector revisions heads ∧
      t' = { t with
        connector := connector
        enrollments := t.enrollments.put operation.enrollmentEpoch (enrollment.closed nowMs)
        operations := t.operations.put operation.operationId
          ((OperationRow.begun operation nowMs).published .failed (some "scope_unavailable") none
            publication nowMs)
        revisions := revisions
        heads := heads
        photokitRevision := revision }

theorem inactivateEnrollment_ok
    (h : inactivateEnrollment services ids enrollmentEpoch nowMs t = (.ok u, t')) :
    ∃ enrollment operation publication, operation.enrollmentEpoch = enrollmentEpoch ∧
      Closed services t t' nowMs enrollment operation publication := by
  rw [inactivateEnrollment, state_bind] at h
  cases hrow : (t.enrollments.find? enrollmentEpoch).filter fun row => row.state = .active with
  | none =>
    rw [hrow] at h
    cases h
  | some row =>
    rw [hrow] at h
    obtain ⟨hrow, hactive⟩ := Option.filter_eq_some_iff.mp hrow
    replace hactive : row.state = .active := by simpa using hactive
    obtain ⟨operation, t₁, hopen, h⟩ := bind_eq_ok.mp h
    obtain ⟨hoperation, -, -, hclash, rfl⟩ := (openOperation_eq_ok hrow hactive).mp hopen
    rw [state_bind] at h
    obtain ⟨transitions, t₂, htransitions, h⟩ := bind_eq_ok.mp h
    obtain ⟨revisions, heads, rfl⟩ := transitionUnavailable_ok htransitions
    obtain ⟨⟨⟩, t₃, hrevision, h⟩ := bind_eq_ok.mp h
    obtain ⟨revision, rfl⟩ := incrementIf_ok hrevision
    rw [state_bind, rejectIf_bind_eq_ok, not_not] at h
    obtain ⟨hfollowed, h⟩ := h
    obtain ⟨⟨⟩, t₄, hconnector, h⟩ := bind_eq_ok.mp h
    obtain ⟨-, hmoved⟩ := updateConnector_eq_ok.mp hconnector
    obtain rfl : operation.enrollmentEpoch = enrollmentEpoch := by rw [hoperation]
    have hcounted : Recounted t operation.enrollmentEpoch t₄.connector revisions heads := by
      have hcounts : enrollmentCounts { t.opened row operation nowMs with
            revisions := revisions
            heads := heads
            photokitRevision := revision } operation.enrollmentEpoch =
          enrollmentCounts { t with revisions := revisions, heads := heads }
            operation.enrollmentEpoch := by
        refine enrollmentCounts_congr ?_ rfl rfl rfl
        show ((t.enrollments.put _ _).find? _).bind _ = _
        rw [Table.find?_put, if_pos rfl, hrow]
        rfl
      rw [hmoved]
      exact ⟨rfl, rfl, .inr hcounts⟩
    obtain ⟨connector, rfl⟩ : ∃ connector, t₄ = { t.opened row operation nowMs with
        connector := connector
        revisions := revisions
        heads := heads
        photokitRevision := revision } := ⟨_, hmoved⟩
    rw [state_bind] at h
    obtain ⟨snapshot, -, h⟩ := Fallible.check_bind_eq_ok.mp h
    obtain ⟨⟨⟩, t₅, hpublish, h⟩ := bind_eq_ok.mp h
    obtain ⟨hvalid, rfl⟩ := publishOperation_ok hpublish
      ((Table.find?_put _ _ _ _).trans (if_pos rfl)) rfl
    obtain ⟨-, rfl⟩ := updateEnrollment_ok h ((Table.find?_put _ _ _ _).trans (if_pos rfl)) hactive
    have hfence : operation.reconciliationFence = row.operationFence + 1 := by rw [hoperation]
    refine ⟨row, operation, _, rfl, hrow, hactive, hfollowed, hfence, by rw [hoperation], ?_,
      hvalid, connector, revisions, heads, revision, hcounted, ?_⟩
    · rw [hfence]
      exact hclash
    · simp only [ConnectorTables.withOperation, ConnectorTables.opened, ConnectorTables.raised,
        Table.put_put, EnrollmentRow.closed, hfence]

/-! ## Following -/

def EnrollmentRow.followed (row : EnrollmentRow) (nowMs : ℤ) : EnrollmentRow :=
  { row with
    state := .active
    activatedAtMs := some nowMs }

structure Followed (t t' : ConnectorTables) (enrollmentEpoch : String) : Prop where
  moved : ∃ row locator connector nowMs, t.enrollments.find? enrollmentEpoch = some row ∧
    row.state = .pending ∧ locator.recordKind = .album ∧ t.locatorClashes locator = false ∧
    connector.activeEnrollmentEpoch = some enrollmentEpoch ∧
    connector.activeMembershipGeneration = none ∧ connector.counts = (0, 0, 0) ∧
    t' = { t with
      connector := connector
      locators := t.locators ++ [locator]
      enrollments := t.enrollments.put enrollmentEpoch (row.followed nowMs) }

theorem activateEnrollmentInTransaction_ok {locatorId : String} {locator : ProtectedPhotoKitLocator}
    (h : activateEnrollmentInTransaction services ids enrollmentEpoch locatorId locator nowMs t =
      (.ok enrollment, t')) :
    ∃ t₁, (t₁ = t ∨ ∃ row operation publication,
        Closed services t t₁ nowMs row operation publication) ∧
      Followed t₁ t' enrollmentEpoch := by
  rw [activateEnrollmentInTransaction, state_bind] at h
  cases hrow : t.enrollments.find? enrollmentEpoch with
  | none =>
    rw [hrow] at h
    cases h
  | some row =>
    simp only [hrow, rejectIf_bind_eq_ok, not_not] at h
    obtain ⟨hpending, h⟩ := h
    obtain ⟨⟨⟩, t₁, hprevious, h⟩ := bind_eq_ok.mp h
    have hclosed : (t₁ = t ∨ ∃ row operation publication,
        Closed services t t₁ nowMs row operation publication) ∧
        t₁.enrollments.find? enrollmentEpoch = some row := by
      generalize t.connector.activeEnrollmentEpoch = previous at hprevious
      cases previous with
      | none =>
        cases hprevious
        exact ⟨.inl rfl, hrow⟩
      | some previous =>
        rw [inactivatePrevious] at hprevious
        by_cases hother : previous = enrollmentEpoch
        · rw [if_neg (not_not.mpr hother)] at hprevious
          cases hprevious
          exact ⟨.inl rfl, hrow⟩
        · rw [if_pos hother] at hprevious
          obtain ⟨closing, operation, publication, rfl, hclosed⟩ :=
            inactivateEnrollment_ok hprevious
          refine ⟨.inr ⟨closing, operation, publication, hclosed⟩, ?_⟩
          obtain ⟨connector, revisions, heads, revision, -, rfl⟩ := hclosed.moved
          show (t.enrollments.put _ _).find? _ = _
          rw [find?_put, if_neg (Ne.symm hother), hrow]
    obtain ⟨hclosed, hrow₁⟩ := hclosed
    obtain ⟨⟨⟩, t₂, hlocator, h⟩ := bind_eq_ok.mp h
    obtain ⟨hfresh, rfl⟩ := insertLocator_eq_ok.mp hlocator
    obtain ⟨⟨⟩, t₃, hactivated, h⟩ := bind_eq_ok.mp h
    obtain ⟨-, rfl⟩ := updateEnrollment_ok hactivated hrow₁ hpending
    obtain ⟨⟨⟩, t₄, hconnector, h⟩ := bind_eq_ok.mp h
    obtain ⟨-, rfl⟩ := updateConnector_eq_ok.mp hconnector
    cases h
    exact ⟨t₁, hclosed, row, _, _, nowMs, hrow₁, hpending, rfl, hfresh, rfl, rfl, rfl, rfl⟩

theorem insertCommandReceipt_ok {requestId : RequestId} {row : CommandReceiptRow}
    (h : insertCommandReceipt services requestId row t = (.ok u, t')) :
    ∃ receipts, t' = { t with receipts := receipts } := by
  rw [insertCommandReceipt, state_bind, rejectIf_bind_eq_ok,
    rejectIf_bind_eq_ok, rejectIf_bind_eq_ok] at h
  obtain ⟨-, -, -, h⟩ := h
  exact ⟨_, (Prod.mk.inj h).2.symm⟩

structure Unfollowed (t t' : ConnectorTables) : Prop where
  moved : ∃ connector revision receipts, connector.activeEnrollmentEpoch = none ∧
    connector.activeMembershipGeneration = none ∧ connector.counts = (0, 0, 0) ∧
    t' = { t with
      connector := connector
      photokitRevision := revision
      receipts := receipts }

variable {response : DisablePhotoKitV1Response} {operationId : String}

theorem disableCommand_ok {request : DisablePhotoKitV1Request}
    (h : disableCommand services ids request envelopeHash nowMs t = (.ok response, t')) :
    t' = t ∨ ∃ t₁ row operation publication,
      Closed services t t₁ nowMs row operation publication ∧ Unfollowed t₁ t' := by
  rw [disableCommand, atomically_eq_ok, require_bind_eq_ok, state_bind] at h
  obtain ⟨-, h⟩ := h
  obtain ⟨replay, -, h⟩ := Fallible.check_bind_eq_ok.mp h
  cases replay with
  | some response => exact .inl (Prod.mk.inj h).2.symm
  | none =>
    obtain ⟨-, h⟩ := rejectIf_bind_eq_ok.mp h
    cases hfollowed : t.connector.activeEnrollmentEpoch with
    | none =>
      rw [hfollowed] at h
      cases h
    | some enrollmentEpoch =>
      rw [hfollowed] at h
      obtain ⟨⟨⟩, t₁, hclosing, h⟩ := bind_eq_ok.mp h
      obtain ⟨row, operation, publication, -, hclosed⟩ := inactivateEnrollment_ok hclosing
      rw [state_bind] at h
      obtain ⟨⟨⟩, t₂, hrevision, h⟩ := bind_eq_ok.mp h
      obtain ⟨revision, rfl⟩ := incrementIf_ok hrevision
      obtain ⟨⟨⟩, t₃, hconnector, h⟩ := bind_eq_ok.mp h
      obtain ⟨-, rfl⟩ := updateConnector_eq_ok.mp hconnector
      rw [state_bind] at h
      obtain ⟨_, -, h⟩ := Fallible.check_bind_eq_ok.mp h
      obtain ⟨_, -, h⟩ := Fallible.check_bind_eq_ok.mp h
      obtain ⟨_, -, h⟩ := Fallible.check_bind_eq_ok.mp h
      obtain ⟨-, h⟩ := rejectIf_bind_eq_ok.mp h
      obtain ⟨⟨⟩, t₄, hreceipt, h⟩ := bind_eq_ok.mp h
      obtain ⟨receipts, rfl⟩ := insertCommandReceipt_ok hreceipt
      obtain ⟨-, rfl⟩ := Prod.mk.inj h
      exact .inr ⟨t₁, row, operation, publication, hclosed, _, revision, receipts, rfl, rfl, rfl,
        rfl⟩

/-! ## Giving up -/

def OperationRow.interrupted (row : OperationRow) (nowMs : ℤ) : OperationRow :=
  { row with
    state := .interrupted
    terminalReason := some "restore_interrupted"
    finishedAtMs := some nowMs }

/-- An operation that had not ended is given up. -/
structure Interrupted (t t' : ConnectorTables) (operationId : String) : Prop where
  moved : ∃ row nowMs, t.operations.find? operationId = some row ∧ row.state.isLive ∧
    t' = (t.withOperation operationId (row.interrupted nowMs)).cleaned operationId

theorem interruptOperation_ok {row : OperationRow}
    (h : interruptOperation nowMs operationId t = (.ok u, t'))
    (hrow : t.operations.find? operationId = some row) (hlive : row.state.isLive) :
    t' = (t.withOperation operationId (row.interrupted nowMs)).cleaned operationId := by
  obtain ⟨changed, t₁, hupdate, h⟩ := bind_eq_ok.mp h
  obtain ⟨-, rfl⟩ := updateOperation_ok hupdate hrow hlive
  exact (Prod.mk.inj h).2.symm

structure Settled (t t' : ConnectorTables) : Prop where
  moved : ∃ state updatedAtMs, t' = { t with
    connector := { t.connector with state := state, updatedAtMs := updatedAtMs } }

theorem settleConnector_ok (h : settleConnector nowMs t = (.ok u, t')) : Settled t t' := by
  rw [settleConnector, state_bind] at h
  split at h
  · obtain ⟨-, rfl⟩ := updateConnector_eq_ok.mp h
    exact ⟨_, nowMs, rfl⟩
  · cases h
    exact ⟨t.connector.state, t.connector.updatedAtMs, rfl⟩

theorem mem_liveOperations : operationId ∈ liveOperations t ↔
      ∃ row, t.operations.find? operationId = some row ∧ row.state.isLive := by
  unfold liveOperations
  simp only [List.mem_map, List.mem_insertionSort, List.mem_filter, Prod.exists]
  constructor
  · rintro ⟨_, row, ⟨hmem, hlive⟩, rfl⟩
    exact ⟨row, mem_rows.mp hmem, hlive⟩
  · rintro ⟨row, hrow, hlive⟩
    exact ⟨operationId, row, ⟨mem_rows.mpr hrow, hlive⟩, rfl⟩

theorem liveOperations_nodup : (liveOperations t).Nodup := by
  unfold liveOperations
  refine ((List.perm_insertionSort _ _).map Prod.fst).nodup_iff.mpr ?_
  exact (List.Sublist.map Prod.fst List.filter_sublist).nodup t.operations.rows_nodup

/-! ## Moves -/

inductive Move (services : ConnectorServices) : ConnectorTables → ConnectorTables → Prop
  | reserved {t : ConnectorTables} {enrollmentEpoch : String} (keyReference : String)
      (allowIcloudDownloads : Bool) (nowMs : ℤ) (h : t.enrollments.find? enrollmentEpoch = none) :
      Move services t { t with
        enrollments := t.enrollments.put enrollmentEpoch
          (.reserved keyReference allowIcloudDownloads nowMs) }
  | removed {t : ConnectorTables} {enrollmentEpoch : String} {row : EnrollmentRow}
      (hrow : t.enrollments.find? enrollmentEpoch = some row) (hpending : row.state = .pending) :
      Move services t { t with
        locators := t.locators.filter fun row =>
          ¬ (row.enrollmentEpoch = enrollmentEpoch ∧ row.finalized = false)
        enrollments := t.enrollments.delete enrollmentEpoch }
  | closed {t t' : ConnectorTables} {nowMs : ℤ} {enrollment : EnrollmentRow}
      {operation : PhotoKitOperation} {publication : PhotoKitPublication}
      (h : Closed services t t' nowMs enrollment operation publication) : Move services t t'
  | followed {t t' : ConnectorTables} {enrollmentEpoch : String}
      (h : Followed t t' enrollmentEpoch) : Move services t t'
  | unfollowed {t t' : ConnectorTables} (h : Unfollowed t t') : Move services t t'
  | noted {t : ConnectorTables} (receipts : Table RequestId CommandReceiptRow) :
      Move services t { t with receipts := receipts }
  | begun {t t' : ConnectorTables} {operation : PhotoKitOperation} {nowMs : ℤ}
      {enrollment : EnrollmentRow} (h : Begun t t' operation nowMs enrollment) : Move services t t'
  | recorded {t t' : ConnectorTables} {operation : PhotoKitOperation}
      {observation : ObservationRow} (hgenuine : t.Genuine operation)
      (h : Recorded t t' operation observation) : Move services t t'
  | marked {t t' : ConnectorTables} {operation : PhotoKitOperation}
      (hgenuine : t.Genuine operation) (h : Marked t t' operation) : Move services t t'
  | attempted {t t' : ConnectorTables} {operation : PhotoKitOperation}
      (hgenuine : t.Genuine operation) (h : Attempted t t' operation) : Move services t t'
  | withheld {t t' : ConnectorTables} {operation : PhotoKitOperation}
      {publication : PhotoKitPublication} (hgenuine : t.Genuine operation)
      (h : Withheld services t t' operation publication) : Move services t t'
  | completed {t t' : ConnectorTables} {operation : PhotoKitOperation}
      {observations : List PhotoKitFinalizedObservation} {publication : PhotoKitPublication}
      {row : OperationRow} {enrollment : EnrollmentRow} {generation : GenerationRow}
      (hgenuine : t.Genuine operation)
      (h : Completed services t t' operation observations publication row enrollment generation) :
      Move services t t'
  | interrupted {t t' : ConnectorTables} {operationId : String}
      (h : Interrupted t t' operationId) : Move services t t'
  | settled {t t' : ConnectorTables} (h : Settled t t') : Move services t t'

abbrev Moves (services : ConnectorServices) : ConnectorTables → ConnectorTables → Prop :=
  Relation.ReflTransGen (Move services)

theorem interruptOperations_moves {operations : List String} {results : List Unit}
    (hnodup : operations.Nodup)
    (hlive : ∀ operationId ∈ operations,
      ∃ row, t.operations.find? operationId = some row ∧ row.state.isLive)
    (h : forEach (interruptOperation nowMs) operations t = (.ok results, t')) :
    Moves services t t' := by
  induction operations generalizing t results with
  | nil =>
    cases h
    exact .refl
  | cons operationId rest ih =>
    obtain ⟨hnot, hnodup⟩ := List.nodup_cons.mp hnodup
    obtain ⟨row, hrow, hlive₀⟩ := hlive operationId (.head _)
    obtain ⟨⟨⟩, t₁, hfirst, h⟩ := bind_eq_ok.mp h
    obtain ⟨results', t₂, hrest, h⟩ := bind_eq_ok.mp h
    cases h
    obtain rfl := interruptOperation_ok hfirst hrow hlive₀
    refine .head (.interrupted ⟨row, nowMs, hrow, hlive₀, rfl⟩) (ih hnodup ?_ hrest)
    intro other hother
    obtain ⟨row', hrow', hlive'⟩ := hlive other (.tail _ hother)
    refine ⟨row', ?_, hlive'⟩
    show (t.operations.put _ _).find? _ = _
    rw [find?_put, if_neg, hrow']
    rintro rfl
    exact hnot hother

theorem recoverOperations_moves {recovered : ℕ}
    (h : recoverOperations nowMs t = (.ok recovered, t')) : Moves services t t' := by
  rw [recoverOperations, atomically_eq_ok, state_bind] at h
  obtain ⟨interrupted, t₁, hinterrupted, h⟩ := bind_eq_ok.mp h
  obtain ⟨⟨⟩, t₂, hsettled, h⟩ := bind_eq_ok.mp h
  cases h
  refine .tail (interruptOperations_moves liveOperations_nodup ?_ hinterrupted)
    (.settled (settleConnector_ok hsettled))
  exact fun operationId hmem => mem_liveOperations.mp hmem

theorem activateEnrollmentInTransaction_moves {locatorId : String}
    {locator : ProtectedPhotoKitLocator}
    (h : activateEnrollmentInTransaction services ids enrollmentEpoch locatorId locator nowMs t =
      (.ok enrollment, t')) : Moves services t t' := by
  obtain ⟨t₁, hclosed, hfollowed⟩ := activateEnrollmentInTransaction_ok h
  obtain rfl | ⟨row, operation, publication, hclosed⟩ := hclosed
  · exact .single (.followed hfollowed)
  · exact .tail (.single (.closed hclosed)) (.followed hfollowed)

theorem activateEnrollment_moves {input : ActivationInput}
    (h : activateEnrollment services input enrollmentEpoch nowMs t = (.ok enrollment, t')) :
    Moves services t t' := by
  rw [activateEnrollment, atomically_eq_ok, require_bind_eq_ok] at h
  obtain ⟨-, h⟩ := h
  obtain ⟨locator, -, h⟩ := Fallible.check_bind_eq_ok.mp h
  exact activateEnrollmentInTransaction_moves h

theorem activateEnrollmentCommand_moves {input : ActivationInput} {requestId : RequestId}
    {response : ConfigurePhotoKitScopeV1Response}
    (h : activateEnrollmentCommand services input enrollmentEpoch requestId envelopeHash nowMs t =
      (.ok response, t')) : Moves services t t' := by
  rw [activateEnrollmentCommand, atomically_eq_ok, require_bind_eq_ok, require_bind_eq_ok] at h
  obtain ⟨-, -, h⟩ := h
  obtain ⟨locator, -, h⟩ := Fallible.check_bind_eq_ok.mp h
  obtain ⟨enrollment, t₁, hactivated, h⟩ := bind_eq_ok.mp h
  rw [state_bind] at h
  obtain ⟨snapshot, -, h⟩ := Fallible.check_bind_eq_ok.mp h
  obtain ⟨-, h⟩ := rejectIf_bind_eq_ok.mp h
  obtain ⟨⟨⟩, t₂, hreceipt, h⟩ := bind_eq_ok.mp h
  obtain ⟨receipts, rfl⟩ := insertCommandReceipt_ok hreceipt
  obtain ⟨-, rfl⟩ := Prod.mk.inj h
  exact .tail (activateEnrollmentInTransaction_moves hactivated) (.noted receipts)

theorem disableCommand_moves {request : DisablePhotoKitV1Request}
    (h : disableCommand services ids request envelopeHash nowMs t = (.ok response, t')) :
    Moves services t t' := by
  obtain rfl | ⟨t₁, row, operation, publication, hclosed, hunfollowed⟩ := disableCommand_ok h
  · exact .refl
  · exact .tail (.single (.closed hclosed)) (.unfollowed hunfollowed)

theorem wrapped_eq_ok {α β : Type} {x : Transaction α} {f : α → β} {b : β} :
    (do let a ← x; pure (f a) : Transaction β) t = (.ok b, t') ↔
      ∃ a, x t = (.ok a, t') ∧ b = f a := by
  rw [bind_eq_ok]
  constructor
  · rintro ⟨a, s, hx, h⟩
    obtain ⟨hresult, rfl⟩ := Prod.mk.inj h
    exact ⟨a, hx, (Except.ok.inj hresult).symm⟩
  · rintro ⟨a, hx, rfl⟩
    exact ⟨a, t', hx, rfl⟩

/-- **A call that succeeds** makes some moves, if the operation it is made for was handed out. -/
theorem Command.run_moves {command : Command} {answer : CommandAnswer}
    (hgenuine : ∀ operation ∈ command.handle, t.Genuine operation)
    (h : command.run services t = (.ok answer, t')) : Moves services t t' := by
  cases command with
  | reserveEnrollment enrollmentEpoch keyReference allowIcloudDownloads nowMs =>
    obtain ⟨enrollment, h, -⟩ := wrapped_eq_ok.mp h
    obtain ⟨hfresh, rfl⟩ := reserveEnrollment_ok h
    exact .single (.reserved _ _ _ hfresh)
  | removePendingEnrollment enrollmentEpoch cleanupReason =>
    obtain ⟨u, h, -⟩ := wrapped_eq_ok (f := fun _ => CommandAnswer.done).mp h
    obtain rfl | ⟨row, hrow, hpending, rfl⟩ := removePendingEnrollment_ok h
    · exact .refl
    · exact .single (.removed hrow hpending)
  | activateEnrollment input enrollmentEpoch nowMs =>
    obtain ⟨enrollment, h, -⟩ := wrapped_eq_ok.mp h
    exact activateEnrollment_moves h
  | activateEnrollmentCommand input enrollmentEpoch requestId envelopeHash nowMs =>
    obtain ⟨response, h, -⟩ := wrapped_eq_ok.mp h
    exact activateEnrollmentCommand_moves h
  | disableCommand ids request envelopeHash nowMs =>
    obtain ⟨response, h, -⟩ := wrapped_eq_ok.mp h
    exact disableCommand_moves h
  | beginOperation operationId requestId trigger authorization nowMs =>
    obtain ⟨⟨operation, replayed⟩, h, -⟩ :=
      wrapped_eq_ok (f := fun (result : PhotoKitOperation × Bool) =>
        CommandAnswer.operation result.1 result.2).mp h
    obtain ⟨-, rfl, -⟩ | ⟨-, -, -, enrollment, hbegun⟩ := beginOperation_ok h
    · exact .refl
    · exact .single (.begun hbegun)
  | recordObservation ids operation rootKey ordinal assetLocator resourceUti supported nowMs =>
    obtain ⟨observation, h, -⟩ := wrapped_eq_ok.mp h
    exact .single (.recorded (hgenuine operation rfl) (recordObservation_ok h))
  | markMaterializing operation =>
    obtain ⟨u, h, -⟩ := wrapped_eq_ok (f := fun _ => CommandAnswer.done).mp h
    exact .single (.marked (hgenuine operation rfl) (markMaterializing_ok h))
  | recordAttempt attemptId operation ordinal attemptOrdinal networkAccessAllowed acceptedBytes
      result nowMs =>
    obtain ⟨u, h, -⟩ := wrapped_eq_ok (f := fun _ => CommandAnswer.done).mp h
    exact .single (.attempted (hgenuine operation rfl) (recordAttempt_ok h))
  | finalizeGlobalUnavailable revisionIds operation authorization reason terminalReason nowMs =>
    obtain ⟨publication, h, -⟩ := wrapped_eq_ok.mp h
    have hoperation := hgenuine operation rfl
    obtain ⟨rfl, -⟩ | hwithheld := finalizeGlobalUnavailable_ok hoperation h
    · exact .refl
    · exact .single (.withheld hoperation hwithheld)
  | finalizeComplete ids operation authorization observations nowMs =>
    obtain ⟨publication, h, -⟩ := wrapped_eq_ok.mp h
    have hoperation := hgenuine operation rfl
    obtain ⟨rfl, -⟩ | ⟨row, enrollment, generation, hcompleted⟩ := finalizeComplete_ok hoperation h
    · exact .refl
    · exact .single (.completed hoperation hcompleted)
  | recoverOperations nowMs =>
    obtain ⟨recovered, h, -⟩ := wrapped_eq_ok.mp h
    exact recoverOperations_moves h

end Threadbook.PhotoKit
