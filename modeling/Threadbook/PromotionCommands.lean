import Threadbook.PromotionRepository

/-!
# Commands around promotion

What else writes the tables of receipt promotion: storing an order, reviewing it, and
deleting a purchase unit together with its item.
-/

namespace Threadbook.Promotion

open Fallible

/-! ## Store -/

def linesTaken (t : PromotionTables) (row : OrderRow) : Bool :=
  t.orders.rows.any fun other => other.2.lineIds.any fun taken =>
    row.lineIds.any fun ids => ids.1 = taken.1 || ids.2 = taken.2

def storeOrder (services : PromotionServices) (orderId : ReceiptOrderEvidenceId)
    (row : OrderRow) : PromotionTransaction PUnit :=
  atomically do
    rejectIf (.corrupt "receipt_order_contract")
      (row.lineIds.length ≠ row.output.lineItems.length)
    check (((row.order orderId none).validate services.toContractServices).mapError
      fun _ => .corrupt "receipt_order_contract")
    let t ← state
    rejectIf .sqlite (linesTaken t row)
    insertRow PromotionTables.orders (fun table t => { t with orders := table }) orderId row
    update fun t => { t with evidenceGeneration := t.evidenceGeneration + 1 }

/-! ## Review -/

def reviewCommand : String := "review_receipt_v1"

def reviewEnvelope (services : PromotionServices) (request : ReviewReceiptV1Request) : String :=
  services.digest (services.serializeReview request)

/-- The answer of a review that was carried out before. -/
def replayedReview : CommandResponse → Except PlatformError ReviewReceiptV1Response
  | .review response => .ok { response with replayStatus := .replayed }
  | .promote _ | .other => .error .json

def reviewDecisionRow (request : ReviewReceiptV1Request) (receiptRevision : ℕ) (nowMs : ℤ) :
    ReviewDecisionRow :=
  ⟨request.orderEvidenceId, request.action, request.correctedOrder, receiptRevision, nowMs⟩

def nextAuthorityHead (t : PromotionTables) (source : SourceId)
    (request : ReviewReceiptV1Request) : AuthorityHeadRow where
  authorityId := ⟨request.requestId⟩
  orderEvidenceId := request.orderEvidenceId
  reviewDecisionId := ⟨request.requestId⟩
  receiptRevision := t.receiptRevision
  authorityRevision :=
    ((t.authorityHeads.find? source).map fun existing => existing.authorityRevision + 1).getD 1

def storeDecision (request : ReviewReceiptV1Request) (source : SourceId) (nowMs : ℤ) :
    PromotionTransaction PUnit := do
  let t ← state
  insertRow PromotionTables.reviewDecisions (fun table t => { t with reviewDecisions := table })
    ⟨request.requestId⟩ (reviewDecisionRow request t.receiptRevision nowMs)
  update fun t => { t with
    reviewHeads := t.reviewHeads.put request.orderEvidenceId ⟨request.requestId⟩
    authorityHeads := t.authorityHeads.put source (nextAuthorityHead t source request) }

def reviewResponse (services : PromotionServices) (t : PromotionTables)
    (request : ReviewReceiptV1Request) : Except PlatformError ReviewReceiptV1Response := do
  let order ← loadOrder services t request.orderEvidenceId
  let decision ← loadReviewDecision services t ⟨request.requestId⟩
  let response : ReviewReceiptV1Response := ⟨schemaVersionV1, request.requestId, order, decision,
    t.receiptRevision, t.evidenceGeneration, .created⟩
  (response.validate services.toContractServices).mapError fun _ =>
    .corrupt "receipt_review_response"
  .ok response

def reviewCurrent (services : PromotionServices) (request : ReviewReceiptV1Request) (nowMs : ℤ) :
    PromotionTransaction ReviewReceiptV1Response := do
  let t ← state
  let current ← check (loadOrder services t request.orderEvidenceId)
  check (validateCorrectedSnapshot request.correctedOrder current)
  rejectIf (.conflict "receipt_revision")
    (t.receiptRevision ≠ request.expectedReceiptRevision)
  update fun t => { t with receiptRevision := t.receiptRevision + 1 }
  storeDecision request current.sourceId nowMs
  let t ← state
  let response ← check (reviewResponse services t request)
  storeReceipt reviewCommand request.requestId (reviewEnvelope services request) (.review response)
  pure response

def reviewReceipt (services : PromotionServices) (request : ReviewReceiptV1Request) (nowMs : ℤ) :
    PromotionTransaction ReviewReceiptV1Response :=
  atomically do
    check (request.validate.mapError fun _ => .invalidInput "receipt_review")
    let t ← state
    let stored ← check
      (replay t reviewCommand request.requestId (reviewEnvelope services request))
    match stored with
    | some response => check (replayedReview response)
    | none => reviewCurrent services request nowMs

/-! ## Delete -/

inductive DeletionTargetV1
  | item (id : PromotedItemId)
  | purchaseUnit (id : ReceiptPurchaseUnitId)
  | receiptPurchaseUnitEvidence (id : EvidenceId)

/-- The promotion behind a unit that is deleted. -/
structure P12PromotionBranch where
  authoritySnapshotId : ReceiptAuthoritySnapshotId
  itemId : PromotedItemId
  evidenceId : EvidenceId
  decisionId : DecisionId
  requestId : RequestId

structure P12DeletionTarget where
  purchaseUnitId : ReceiptPurchaseUnitId
  localSourceId : SourceId
  authorityId : ReceiptSourceAuthorityId
  authorityRevision : ℕ
  orderEvidenceId : ReceiptOrderEvidenceId
  orderLineId : ReceiptOrderLineId
  unitOrdinal : ℕ
  branch : Option P12PromotionBranch

def DeletionTargetV1.names (self : DeletionTargetV1) (row : PromotionRow) : Bool :=
  match self with
  | .item id => row.itemId = id
  | .purchaseUnit id => row.purchaseUnitId = id
  | .receiptPurchaseUnitEvidence id => row.evidenceId = id

def promotedTarget (t : PromotionTables) (target : DeletionTargetV1) : Option P12DeletionTarget :=
  t.promotions.rows.findSome? fun row =>
    if target.names row.2 then
      (t.snapshots.find? row.2.authoritySnapshotId).map fun snapshot =>
        { purchaseUnitId := row.2.purchaseUnitId
          localSourceId := snapshot.localSourceId
          authorityId := snapshot.authorityId
          authorityRevision := snapshot.authorityRevision
          orderEvidenceId := snapshot.orderEvidenceId
          orderLineId := row.1.1
          unitOrdinal := row.1.2
          branch := some ⟨row.2.authoritySnapshotId, row.2.itemId, row.2.evidenceId,
            row.2.decisionId, row.2.requestId⟩ }
    else none

def deletedTarget (t : PromotionTables) (id : ReceiptPurchaseUnitId) : Option P12DeletionTarget :=
  (t.deletions.find? id).map fun deletion =>
    ⟨id, deletion.localSourceId, deletion.authorityId, deletion.authorityRevision,
      deletion.orderEvidenceId, deletion.orderLineId, deletion.unitOrdinal, none⟩

def offeredOrdinal (services : ContractServices) (orderLineId : ReceiptOrderLineId)
    (quantity : ℕ) (id : ReceiptPurchaseUnitId) : Except PlatformError (Option ℕ) :=
  if 2 ^ 32 ≤ quantity then .error (.corrupt "receipt_quantity")
  else (List.range quantity).findSomeM? fun ordinal =>
    match ReceiptPurchaseUnitId.deriveV1 services orderLineId ordinal with
    | .error _ => .error (.corrupt "receipt_purchase_unit_id")
    | .ok derived => .ok (if derived = id then some ordinal else none)

def offeredLine (services : ContractServices) (corrected : Option CorrectedReceiptOrderV1)
    (id : ReceiptPurchaseUnitId) (entry : ReceiptOrderLineV1 × ℕ) :
    Except PlatformError (Option (ReceiptOrderLineId × ℕ)) :=
  if ((corrected.bind fun order => order.lineItems[entry.2]?).any fun correctedLine =>
      correctedLine.orderLineId ≠ entry.1.orderLineId) then
    .error (.corrupt "receipt_corrected_line")
  else if effectiveEvent corrected entry.2 entry.1 ≠ some .purchase then .ok none
  else
    match effectiveQuantity corrected entry.2 entry.1 with
    | none => .ok none
    | some quantity => do
      let ordinal ← offeredOrdinal services entry.1.orderLineId quantity id
      .ok (ordinal.map fun ordinal => (entry.1.orderLineId, ordinal))

def offeredTarget (services : PromotionServices) (t : PromotionTables)
    (id : ReceiptPurchaseUnitId) (entry : SourceId × AuthorityHeadRow) :
    Except PlatformError (Option P12DeletionTarget) := do
  let order ← loadOrder services t entry.2.orderEvidenceId
  match order.reviewHead with
  | none => .error (.corrupt "receipt_authority_review")
  | some review =>
    if review.decision.decisionId ≠ entry.2.reviewDecisionId ∨
        ¬ (review.decision.action = .confirm ∨ review.decision.action = .correct) then .ok none
    else if sourceHasPriorAuthorityState t entry.1 entry.2.authorityId entry.2.orderEvidenceId then
      .ok none
    else do
      let offered ← order.lineItems.zipIdx.findSomeM?
        (offeredLine services.toContractServices review.decision.correctedOrder id)
      .ok (offered.map fun unit => ⟨id, entry.1, entry.2.authorityId, entry.2.authorityRevision,
        entry.2.orderEvidenceId, unit.1, unit.2, none⟩)

def resolveP12DeletionTarget (services : PromotionServices) (t : PromotionTables)
    (target : DeletionTargetV1) : Except PlatformError P12DeletionTarget :=
  match promotedTarget t target with
  | some promoted => .ok promoted
  | none =>
    match target with
    | .item _ | .receiptPurchaseUnitEvidence _ => .error (.invalidInput "deletion_target")
    | .purchaseUnit id =>
      match deletedTarget t id with
      | some deleted => .ok deleted
      | none => do
        let offered ← (selectedHeads t none).findSomeM? (offeredTarget services t id)
        match offered with
        | some found => .ok found
        | none => .error (.invalidInput "deletion_target")

def P12DeletionTarget.row (self : P12DeletionTarget) (deletionRequestId : RequestId)
    (nowMs : ℤ) : DeletionRow :=
  ⟨self.localSourceId, self.authorityId, self.authorityRevision, self.orderEvidenceId,
    self.orderLineId, self.unitOrdinal, deletionRequestId, nowMs⟩

def DeletionRow.sameUnit (self other : DeletionRow) : Prop :=
  self.localSourceId = other.localSourceId ∧ self.authorityId = other.authorityId ∧
    self.authorityRevision = other.authorityRevision ∧
    self.orderEvidenceId = other.orderEvidenceId ∧ self.orderLineId = other.orderLineId ∧
    self.unitOrdinal = other.unitOrdinal

instance (row other : DeletionRow) : Decidable (row.sameUnit other) := by
  unfold DeletionRow.sameUnit
  infer_instance

def ensurePurchaseUnitDeletionAuthority (target : P12DeletionTarget)
    (deletionRequestId : RequestId) (nowMs : ℤ) : PromotionTransaction PUnit := do
  let t ← state
  let row := target.row deletionRequestId nowMs
  match t.deletions.find? target.purchaseUnitId with
  | some existing =>
    rejectIf (.corrupt "receipt_purchase_unit_deletion_identity") ¬ existing.sameUnit row
  | none => do
    rejectIf .sqlite (t.deletions.rows.any fun other =>
      other.2.deletionRequestId = deletionRequestId ||
        (other.2.orderLineId = row.orderLineId && other.2.unitOrdinal = row.unitOrdinal))
    update fun t => { t with deletions := t.deletions.put target.purchaseUnitId row }

def deleteBranch (t : PromotionTables) (key : ReceiptOrderLineId × ℕ)
    (branch : P12PromotionBranch) : PromotionTables :=
  { t with
    snapshots :=
      if ∃ row ∈ t.promotions.rows, row.1 ≠ key ∧
          row.2.authoritySnapshotId = branch.authoritySnapshotId then t.snapshots
      else t.snapshots.delete branch.authoritySnapshotId
    promotions := t.promotions.delete key
    commandReceipts := t.commandReceipts.delete branch.requestId
    catalogItems := t.catalogItems.delete branch.itemId
    evidence := t.evidence.delete branch.evidenceId
    catalogDecisions := t.catalogDecisions.delete branch.decisionId }

def deletePurchaseUnit (services : PromotionServices) (target : DeletionTargetV1)
    (deletionRequestId : RequestId) (nowMs : ℤ) : PromotionTransaction PUnit :=
  atomically do
    let t ← state
    let target ← check (resolveP12DeletionTarget services t target)
    ensurePurchaseUnitDeletionAuthority target deletionRequestId nowMs
    match target.branch with
    | none => pure ⟨⟩
    | some branch =>
      update fun t => deleteBranch t (target.orderLineId, target.unitOrdinal) branch
    update fun t => { t with
      catalogRevision := t.catalogRevision + 1
      evidenceGeneration := t.evidenceGeneration + 1
      receiptRevision := t.receiptRevision + 1 }

end Threadbook.Promotion
