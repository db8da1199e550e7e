import Threadbook.PurchaseUnit
import Threadbook.Table

/-!
# The tables of receipt promotion

Orders, decisions about them, the authority of each source, and what became of its
units: snapshots, promotions and deletions. Rows are keyed by their primary keys; a
stable id is the data it is hashed from.
-/

namespace Threadbook.Promotion

/-! ## Rows -/

/-- A row of `receipt_orders` joined with its succeeded run, its parse and its lines. -/
structure OrderRow where
  runId : ReceiptExtractionRunId
  runCreatedAtMs : ℤ
  parseId : ReceiptParseId
  sourceId : SourceId
  output : ReceiptExtractionV1
  lineIds : List (ReceiptOrderLineId × ReceiptVariantEvidenceId)

/-- A row of `receipt_review_decisions`. -/
structure ReviewDecisionRow where
  orderEvidenceId : ReceiptOrderEvidenceId
  action : ReceiptReviewActionV1
  reviewedOrder : Option CorrectedReceiptOrderV1
  receiptRevision : ℕ
  createdAtMs : ℤ

/-- A row of `receipt_source_authority_heads`. -/
structure AuthorityHeadRow where
  authorityId : ReceiptSourceAuthorityId
  orderEvidenceId : ReceiptOrderEvidenceId
  reviewDecisionId : ReceiptReviewDecisionId
  receiptRevision : ℕ
  authorityRevision : ℕ

/-- A row of `receipt_authority_snapshots`. -/
structure AuthoritySnapshotRow where
  authorityId : ReceiptSourceAuthorityId
  localSourceId : SourceId
  orderEvidenceId : ReceiptOrderEvidenceId
  orderLineId : ReceiptOrderLineId
  reviewDecisionId : ReceiptReviewDecisionId
  reviewAction : ReceiptReviewActionV1
  receiptRevision : ℕ
  authorityRevision : ℕ
  values : ReceiptPurchaseUnitValuesV1
  provenance : ReceiptPurchaseUnitProvenanceV1
  snapshotSha256 : String
  createdAtMs : ℤ

/-- A row of `receipt_purchase_unit_promotions`, under a line and an ordinal. -/
structure PromotionRow where
  promotionId : ReceiptPromotionId
  purchaseUnitId : ReceiptPurchaseUnitId
  authoritativeQuantity : ℕ
  purchaseUnitRevision : ℕ
  unitSnapshotSha256 : String
  authoritySnapshotId : ReceiptAuthoritySnapshotId
  itemId : PromotedItemId
  evidenceId : EvidenceId
  decisionId : DecisionId
  requestId : RequestId
  catalogRevision : ℕ
  evidenceGeneration : ℕ
  createdAtMs : ℤ

/-- A row of `receipt_purchase_unit_deletions`. -/
structure DeletionRow where
  localSourceId : SourceId
  authorityId : ReceiptSourceAuthorityId
  authorityRevision : ℕ
  orderEvidenceId : ReceiptOrderEvidenceId
  orderLineId : ReceiptOrderLineId
  unitOrdinal : ℕ
  deletionRequestId : RequestId
  createdAtMs : ℤ

inductive CommandResponse
  | review (response : ReviewReceiptV1Response)
  | promote (response : PromoteReceiptPurchaseUnitV1Response)
  | other

/-- A row of `command_receipts`. -/
structure CommandReceiptRow where
  commandName : String
  envelopeHash : String
  response : CommandResponse

/-! ## Tables -/

structure PromotionTables where
  receiptRevision : ℕ
  evidenceGeneration : ℕ
  catalogRevision : ℕ
  orders : Table ReceiptOrderEvidenceId OrderRow
  reviewDecisions : Table ReceiptReviewDecisionId ReviewDecisionRow
  /-- `receipt_review_heads`: the decision in force -/
  reviewHeads : Table ReceiptOrderEvidenceId ReceiptReviewDecisionId
  authorityHeads : Table SourceId AuthorityHeadRow
  snapshots : Table ReceiptAuthoritySnapshotId AuthoritySnapshotRow
  promotions : Table (ReceiptOrderLineId × ℕ) PromotionRow
  deletions : Table ReceiptPurchaseUnitId DeletionRow
  commandReceipts : Table RequestId CommandReceiptRow
  /-- `catalog_items` made by promotions -/
  catalogItems : Table PromotedItemId ItemAttributesV1
  /-- `evidence` made by promotions, with its source -/
  evidence : Table EvidenceId SourceId
  /-- `catalog_decisions` made by promotions, with the request -/
  catalogDecisions : Table DecisionId RequestId

abbrev PromotionTransaction (α : Type) : Type := Fallible PromotionTables PlatformError α

/-- What the repository relies on besides the contract: the serializers whose outputs are
hashed, and the text of a time. -/
structure PromotionServices extends ContractServices where
  timestampFromMs : ℤ → Except PlatformError String
  serializeUnit : ReceiptOrderLineId → ReceiptPurchaseUnitValuesV1 →
    ReceiptPurchaseUnitProvenanceV1 → ReceiptPurchaseUnitAuthorityV1 → List UInt8
  serializePromotion : PromoteReceiptPurchaseUnitV1Request → List UInt8
  serializeReview : ReviewReceiptV1Request → List UInt8

section Statements

variable {κ ρ : Type} [DecidableEq κ]

def insertRow (table : PromotionTables → Table κ ρ)
    (store : Table κ ρ → PromotionTables → PromotionTables) (key : κ) (row : ρ) :
    PromotionTransaction PUnit := do
  let t ← Fallible.state
  Fallible.rejectIf .sqlite ((table t).find? key).isSome
  Fallible.update (store ((table t).put key row))

end Statements

/-! ## Reading orders -/

def loadReviewDecision (services : PromotionServices) (t : PromotionTables)
    (decisionId : ReceiptReviewDecisionId) : Except PlatformError ReceiptReviewDecisionV1 :=
  match t.reviewDecisions.find? decisionId with
  | none => .error (.corrupt "receipt_review_missing")
  | some row => do
    let createdAt ← services.timestampFromMs row.createdAtMs
    .ok ⟨decisionId, row.orderEvidenceId, row.action, row.reviewedOrder, row.receiptRevision,
      createdAt⟩

def loadReviewHead (services : PromotionServices) (t : PromotionTables)
    (orderId : ReceiptOrderEvidenceId) : Except PlatformError (Option ReceiptReviewHeadV1) :=
  match t.reviewHeads.find? orderId with
  | none => .ok none
  | some decisionId => do
    let decision ← loadReviewDecision services t decisionId
    .ok (some ⟨decision.action.state, decision⟩)

def loadedLine (entry : (ReceiptLineItemExtractionV1 × ReceiptOrderLineId ×
    ReceiptVariantEvidenceId) × ℕ) : ReceiptOrderLineV1 :=
  let ((line, lineId, variantId), index) := entry
  ⟨lineId, index + 1, line.description, line.eventKind, line.quantity, line.unitPriceMinor,
    ⟨line.variant, variantId⟩⟩

def OrderRow.order (self : OrderRow) (orderId : ReceiptOrderEvidenceId)
    (reviewHead : Option ReceiptReviewHeadV1) : ReceiptOrderEvidenceV1 where
  orderEvidenceId := orderId
  extractionRunId := self.runId
  sourceId := self.sourceId
  parseId := self.parseId
  merchant := self.output.merchant
  orderIdentifier := self.output.orderIdentifier
  purchaseDate := self.output.purchaseDate
  currency := self.output.currency
  lineItems := (self.output.lineItems.zip self.lineIds).zipIdx.map loadedLine
  reviewHead := reviewHead

def loadOrder (services : PromotionServices) (t : PromotionTables)
    (orderId : ReceiptOrderEvidenceId) : Except PlatformError ReceiptOrderEvidenceV1 :=
  match t.orders.find? orderId with
  | none => .error (.invalidInput "order_evidence_id")
  | some row =>
    if row.lineIds.length ≠ row.output.lineItems.length then
      .error (.corrupt "receipt_order_line_count")
    else do
      let reviewHead ← loadReviewHead services t orderId
      .ok (row.order orderId reviewHead)

def validateCorrectedSnapshot (corrected : Option CorrectedReceiptOrderV1)
    (order : ReceiptOrderEvidenceV1) : Except PlatformError Unit :=
  match corrected with
  | none => .ok ()
  | some corrected =>
    if corrected.orderEvidenceId ≠ order.orderEvidenceId ∨
        corrected.lineItems.length ≠ order.lineItems.length ∨
        (corrected.lineItems.zip order.lineItems).any (fun entry =>
          entry.1.orderLineId ≠ entry.2.orderLineId ||
            entry.1.variant.variantEvidenceId ≠ entry.2.variant.variantEvidenceId) then
      .error (.invalidInput "receipt_corrected_snapshot")
    else .ok ()

/-! ## Replay -/

def replay (t : PromotionTables) (command : String) (requestId : RequestId)
    (envelopeHash : String) : Except PlatformError (Option CommandResponse) :=
  match t.commandReceipts.find? requestId with
  | none => .ok none
  | some row =>
    if row.commandName = command ∧ row.envelopeHash = envelopeHash then .ok (some row.response)
    else .error (.conflict "command_envelope_changed")

def storeReceipt (command : String) (requestId : RequestId) (envelopeHash : String)
    (response : CommandResponse) : PromotionTransaction PUnit :=
  insertRow PromotionTables.commandReceipts (fun table t => { t with commandReceipts := table })
    requestId ⟨command, envelopeHash, response⟩

end Threadbook.Promotion
