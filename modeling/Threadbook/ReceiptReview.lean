import Threadbook.ReceiptExtraction

/-!
# Receipt reviews

The contract of stored orders and of the user's decisions about them: an order as it was
read off a receipt, a decision to confirm, correct, reject or defer it, and the corrected
order that comes with a correction.
-/

namespace Threadbook.Promotion

/-! ## Identifiers -/

abbrev ReceiptOrderEvidenceId := ReceiptUuidId

abbrev ReceiptOrderLineId := ReceiptUuidId

abbrev ReceiptVariantEvidenceId := ReceiptUuidId

abbrev ReceiptExtractionRunId := ReceiptUuidId

abbrev RequestId := ReceiptUuidId

structure ReceiptReviewDecisionId where
  requestId : RequestId
  deriving DecidableEq

/-! ## Decisions -/

inductive ReceiptReviewActionV1
  | confirm
  | correct
  | reject
  | defer
  deriving DecidableEq

inductive ReceiptStateV1
  | unanalyzed
  | needsReview
  | confirmed
  | corrected
  | rejected
  | deferred
  | failed
  deriving DecidableEq

def ReceiptReviewActionV1.state : ReceiptReviewActionV1 → ReceiptStateV1
  | .confirm => .confirmed
  | .correct => .corrected
  | .reject => .rejected
  | .defer => .deferred

structure CorrectedReceiptVariantV1 where
  variantEvidenceId : ReceiptVariantEvidenceId
  brand : Option String
  sku : Option String
  size : Option String
  color : Option String
  deriving DecidableEq

def CorrectedReceiptVariantV1.validate (self : CorrectedReceiptVariantV1) :
    Except ValidationError Unit :=
  tryForEach (fun value => validateText value 1 maxReceiptAttributeChars .receiptEvidence)
    [self.brand, self.sku, self.size, self.color].reduceOption

structure CorrectedReceiptOrderLineV1 where
  orderLineId : ReceiptOrderLineId
  description : Option String
  eventKind : Option ReceiptEventKindV1
  quantity : Option ℕ
  unitPriceMinor : Option ℕ
  variant : CorrectedReceiptVariantV1
  deriving DecidableEq

def CorrectedReceiptOrderLineV1.validate (self : CorrectedReceiptOrderLineV1) :
    Except ValidationError Unit := do
  validateWhenSome
    (fun description => validateText description 1 maxReceiptTextChars .receiptEvidence)
    self.description
  if (∃ quantity ∈ self.quantity, quantity = 0 ∨ maxReceiptQuantity < quantity) ∨
      ∃ price ∈ self.unitPriceMinor, maxSafeIntegerV1 < price then .error ⟨.receiptEvidence⟩
  else self.variant.validate

structure CorrectedReceiptOrderV1 where
  orderEvidenceId : ReceiptOrderEvidenceId
  merchant : Option String
  orderIdentifier : Option String
  purchaseDate : Option String
  currency : Option String
  lineItems : List CorrectedReceiptOrderLineV1
  deriving DecidableEq

def validateDistinct (lineIds : List ReceiptOrderLineId)
    (variantIds : List ReceiptVariantEvidenceId) : Except ValidationError Unit :=
  if lineIds.dedup.length ≠ lineIds.length ∨ variantIds.dedup.length ≠ variantIds.length then
    .error ⟨.receiptEvidence⟩
  else .ok ()

def CorrectedReceiptOrderV1.validate (self : CorrectedReceiptOrderV1) :
    Except ValidationError Unit := do
  tryForEach (fun value => validateText value 1 maxReceiptAttributeChars .receiptEvidence)
    [self.merchant, self.orderIdentifier].reduceOption
  validateWhenSome validateIsoDate self.purchaseDate
  validateWhenSome validateCurrency self.currency
  if self.lineItems = [] ∨ maxReceiptLineItems < self.lineItems.length then
    .error ⟨.receiptEvidence⟩
  else do
    tryForEach CorrectedReceiptOrderLineV1.validate self.lineItems
    validateDistinct (self.lineItems.map (·.orderLineId))
      (self.lineItems.map (·.variant.variantEvidenceId))

def validateAction (orderEvidenceId : ReceiptOrderEvidenceId) :
    ReceiptReviewActionV1 → Option CorrectedReceiptOrderV1 → Except ValidationError Unit
  | .correct, some corrected => do
    corrected.validate
    if corrected.orderEvidenceId ≠ orderEvidenceId then .error ⟨.receiptReviewAction⟩ else .ok ()
  | .correct, none => .error ⟨.receiptReviewAction⟩
  | _, some _ => .error ⟨.receiptReviewAction⟩
  | _, none => .ok ()

structure ReceiptReviewDecisionV1 where
  decisionId : ReceiptReviewDecisionId
  orderEvidenceId : ReceiptOrderEvidenceId
  action : ReceiptReviewActionV1
  correctedOrder : Option CorrectedReceiptOrderV1
  receiptRevision : ℕ
  createdAt : String
  deriving DecidableEq

def validateTimestamp (services : ContractServices) (value : String) : Except ValidationError Unit :=
  if services.parsesTimestamp value then .ok () else .error ⟨.timestamp⟩

def ReceiptReviewDecisionV1.validate (services : ContractServices)
    (self : ReceiptReviewDecisionV1) : Except ValidationError Unit := do
  validateTimestamp services self.createdAt
  if self.receiptRevision = 0 ∨ maxSafeIntegerV1 < self.receiptRevision then
    .error ⟨.expectedReceiptRevision⟩
  else validateAction self.orderEvidenceId self.action self.correctedOrder

structure ReceiptReviewHeadV1 where
  state : ReceiptStateV1
  decision : ReceiptReviewDecisionV1

def ReceiptReviewHeadV1.validate (services : ContractServices) (self : ReceiptReviewHeadV1) :
    Except ValidationError Unit := do
  self.decision.validate services
  if self.state ≠ self.decision.action.state then .error ⟨.receiptReviewAction⟩ else .ok ()

/-! ## Orders -/

structure ReceiptVariantEvidenceV1 extends ReceiptVariantExtractionV1 where
  variantEvidenceId : ReceiptVariantEvidenceId

structure ReceiptOrderLineV1 where
  orderLineId : ReceiptOrderLineId
  lineNumber : ℕ
  description : EvidenceStringV1
  eventKind : EvidenceEventKindV1
  quantity : EvidenceU64V1
  unitPriceMinor : EvidenceU64V1
  variant : ReceiptVariantEvidenceV1

def ReceiptOrderLineV1.validate (self : ReceiptOrderLineV1) : Except ValidationError Unit := do
  EvidenceStringV1.validateWithLimit self.description maxReceiptTextChars
  EvidenceEventKindV1.validate self.eventKind
  EvidenceU64V1.validateQuantity self.quantity
  EvidenceU64V1.validateWithMax self.unitPriceMinor maxSafeIntegerV1
  self.variant.validate

structure ReceiptOrderEvidenceV1 where
  orderEvidenceId : ReceiptOrderEvidenceId
  extractionRunId : ReceiptExtractionRunId
  sourceId : SourceId
  parseId : ReceiptParseId
  merchant : EvidenceStringV1
  orderIdentifier : EvidenceStringV1
  purchaseDate : EvidenceStringV1
  currency : EvidenceStringV1
  lineItems : List ReceiptOrderLineV1
  reviewHead : Option ReceiptReviewHeadV1

def validateLines : ℕ → List ReceiptOrderLineV1 → Except ValidationError Unit
  | _, [] => .ok ()
  | number, line :: rest => do
    line.validate
    if line.lineNumber ≠ number then .error ⟨.receiptEvidence⟩ else validateLines (number + 1) rest

def ReceiptOrderEvidenceV1.validate (services : ContractServices) (self : ReceiptOrderEvidenceV1) :
    Except ValidationError Unit := do
  EvidenceStringV1.validateWithLimit self.merchant maxReceiptAttributeChars
  EvidenceStringV1.validateWithLimit self.orderIdentifier maxReceiptAttributeChars
  EvidenceStringV1.validateWithLimit self.purchaseDate maxReceiptAttributeChars
  EvidenceStringV1.validateWithLimit self.currency maxReceiptAttributeChars
  validateWhenSome validateIsoDate self.purchaseDate.value
  validateWhenSome validateCurrency self.currency.value
  if self.lineItems = [] ∨ maxReceiptLineItems < self.lineItems.length then
    .error ⟨.receiptEvidence⟩
  else do
    validateLines 1 self.lineItems
    validateDistinct (self.lineItems.map (·.orderLineId))
      (self.lineItems.map (·.variant.variantEvidenceId))
    match self.reviewHead with
    | none => .ok ()
    | some head => do
      head.validate services
      if head.decision.orderEvidenceId ≠ self.orderEvidenceId then .error ⟨.receiptReviewAction⟩
      else .ok ()

/-! ## Requests and responses -/

structure ReviewReceiptV1Request where
  schemaVersion : ℕ
  requestId : RequestId
  orderEvidenceId : ReceiptOrderEvidenceId
  action : ReceiptReviewActionV1
  correctedOrder : Option CorrectedReceiptOrderV1
  expectedReceiptRevision : ℕ

def ReviewReceiptV1Request.validate (self : ReviewReceiptV1Request) :
    Except ValidationError Unit := do
  requireSchemaV1 self.schemaVersion
  if maxSafeIntegerV1 ≤ self.expectedReceiptRevision then .error ⟨.expectedReceiptRevision⟩
  else validateAction self.orderEvidenceId self.action self.correctedOrder

/-- Whether a command was carried out now or before. -/
inductive ReplayStatusV1
  | created
  | replayed
  deriving DecidableEq

structure ReviewReceiptV1Response where
  schemaVersion : ℕ
  requestId : RequestId
  order : ReceiptOrderEvidenceV1
  decision : ReceiptReviewDecisionV1
  newReceiptRevision : ℕ
  evidenceGeneration : ℕ
  replayStatus : ReplayStatusV1

def validateRevision (revision : ℕ) : Except ValidationError Unit :=
  if revision ≤ maxSafeIntegerV1 then .ok () else .error ⟨.expectedReceiptRevision⟩

def ReviewReceiptV1Response.validate (services : ContractServices)
    (self : ReviewReceiptV1Response) : Except ValidationError Unit := do
  requireSchemaV1 self.schemaVersion
  self.order.validate services
  self.decision.validate services
  validateRevision self.newReceiptRevision
  validateRevision self.evidenceGeneration
  if self.order.orderEvidenceId ≠ self.decision.orderEvidenceId ∨
      ¬ (∃ head ∈ self.order.reviewHead, head.decision = self.decision) then
    .error ⟨.receiptReviewAction⟩
  else .ok ()

end Threadbook.Promotion
