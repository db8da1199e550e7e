import Threadbook.ReceiptReview

/-!
# Purchase units

The contract of receipt promotion: the units an order's lines stand for, with the values
in force, where each comes from and the decision behind them; the exclusions that take
their place; and the request and answer of a promotion to a wardrobe item.
-/

namespace Threadbook.Promotion

/-! ## Identifiers and bounds -/

def receiptPurchaseUnitIdentityVersionV1 : String := "receipt-purchase-unit-v1"

/-- The greatest number of entries on a page. -/
def maxPageSize : ℕ := 100

@[inherit_doc maxPageSize]
def maxReceiptPurchaseUnitExclusionsV1 : ℕ := maxPageSize

abbrev ReceiptPurchaseUnitId := ReceiptUuidId

def uuidBytes (id : ReceiptUuidId) : List UInt8 :=
  (List.range 16).map fun i => UInt8.ofNat (id.1.val / 2 ^ (8 * (15 - i)) % 2 ^ 8)

/-- The four bytes of an ordinal, most significant first. -/
def bigEndian32 (n : ℕ) : List UInt8 :=
  (List.range 4).map fun i => UInt8.ofNat (n / 2 ^ (8 * (3 - i)) % 2 ^ 8)

def ReceiptPurchaseUnitId.deriveV1 (services : ContractServices) (orderLineId : ReceiptOrderLineId)
    (unitOrdinal : ℕ) : Except String ReceiptPurchaseUnitId :=
  if maxReceiptQuantity ≤ unitOrdinal then .error "purchase unit ordinal is out of range"
  else .ok (digestUuid 8 (services.digest (utf8Bytes receiptPurchaseUnitIdentityVersionV1 ++ [0] ++
    uuidBytes orderLineId ++ bigEndian32 unitOrdinal)))

abbrev ReceiptSourceAuthorityId := ReceiptReviewDecisionId

/-- The identifier of a promotion: a stable hash of the request that asks for it. -/
structure ReceiptPromotionId where
  requestId : RequestId
  deriving DecidableEq

/-- The identifier of a piece of evidence made by a promotion. -/
structure EvidenceId where
  requestId : RequestId
  deriving DecidableEq

/-- The identifier of a catalog decision made by a promotion. -/
structure DecisionId where
  requestId : RequestId
  deriving DecidableEq

structure PromotedItemId where
  requestId : RequestId
  deriving DecidableEq

structure ReceiptAuthoritySnapshotId where
  authorityId : ReceiptSourceAuthorityId
  orderLineId : ReceiptOrderLineId
  deriving DecidableEq

/-! ## Dates and currencies -/

def validateUnitDate (value : String) : Except ValidationError Unit :=
  let bytes := utf8Bytes value
  if bytes.length ≠ 10 ∨ bytes[4]? ≠ some '-'.toUInt8 ∨ bytes[7]? ≠ some '-'.toUInt8 ∨
      bytes.zipIdx.any (fun entry => entry.2 ≠ 4 && entry.2 ≠ 7 && !Byte.isAsciiDigit entry.1) then
    .error ⟨.receiptPurchaseUnit⟩
  else
    let year := labelValue (bytesBetween bytes 0 4)
    let month := labelValue (bytesBetween bytes 5 7)
    let day := labelValue (bytesBetween bytes 8 10)
    if month = 0 ∨ 12 < month then .error ⟨.receiptPurchaseUnit⟩
    else if year = 0 ∨ day = 0 ∨ maxDay year month < day then .error ⟨.receiptPurchaseUnit⟩
    else .ok ()

/-- Accept three capital letters. -/
def validateUnitCurrency (value : String) : Except ValidationError Unit :=
  if byteLength value = 3 ∧ (utf8Bytes value).all Byte.isAsciiUppercase then .ok ()
  else .error ⟨.receiptPurchaseUnit⟩

/-! ## Values and where they come from -/

structure ReceiptPurchaseUnitValuesV1 where
  merchant : Option String
  orderIdentifier : Option String
  purchaseDate : Option String
  currency : Option String
  description : Option String
  eventKind : ReceiptEventKindV1
  quantity : ℕ
  unitPriceMinor : Option ℕ
  brand : Option String
  sku : Option String
  size : Option String
  color : Option String
  deriving DecidableEq

def ReceiptPurchaseUnitValuesV1.validate (self : ReceiptPurchaseUnitValuesV1) :
    Except ValidationError Unit :=
  if self.eventKind ≠ .purchase ∨ self.quantity = 0 ∨ maxReceiptQuantity < self.quantity ∨
      ∃ price ∈ self.unitPriceMinor, maxSafeIntegerV1 ≤ price then
    .error ⟨.receiptPurchaseUnit⟩
  else do
    tryForEach (fun value => validateText value 1 maxReceiptAttributeChars .receiptPurchaseUnit)
      [self.merchant, self.orderIdentifier].reduceOption
    validateWhenSome validateUnitDate self.purchaseDate
    validateWhenSome validateUnitCurrency self.currency
    validateWhenSome
      (fun description => validateText description 1 maxReceiptTextChars .receiptPurchaseUnit)
      self.description
    tryForEach (fun value => validateText value 1 maxReceiptAttributeChars .receiptPurchaseUnit)
      [self.brand, self.sku, self.size, self.color].reduceOption

/-- Where a value comes from. -/
inductive ReceiptPurchaseUnitFieldProvenanceV1
  | receiptCitations (citations : List FragmentCitationV1)
  | userCorrection (reviewDecisionId : ReceiptReviewDecisionId)
  | unknownReceiptField
  deriving DecidableEq

def ReceiptPurchaseUnitFieldProvenanceV1.validate :
    ReceiptPurchaseUnitFieldProvenanceV1 → Except ValidationError Unit
  | .receiptCitations citations =>
    if citations = [] ∨ maxReceiptCitations < citations.length then
      .error ⟨.receiptPurchaseUnitProvenance⟩
    else if citations.dedup.length ≠ citations.length then .error ⟨.receiptPurchaseUnitProvenance⟩
    else .ok ()
  | .userCorrection _ | .unknownReceiptField => .ok ()

structure ReceiptPurchaseUnitProvenanceV1 where
  merchant : ReceiptPurchaseUnitFieldProvenanceV1
  orderIdentifier : ReceiptPurchaseUnitFieldProvenanceV1
  purchaseDate : ReceiptPurchaseUnitFieldProvenanceV1
  currency : ReceiptPurchaseUnitFieldProvenanceV1
  description : ReceiptPurchaseUnitFieldProvenanceV1
  eventKind : ReceiptPurchaseUnitFieldProvenanceV1
  quantity : ReceiptPurchaseUnitFieldProvenanceV1
  unitPriceMinor : ReceiptPurchaseUnitFieldProvenanceV1
  brand : ReceiptPurchaseUnitFieldProvenanceV1
  sku : ReceiptPurchaseUnitFieldProvenanceV1
  size : ReceiptPurchaseUnitFieldProvenanceV1
  color : ReceiptPurchaseUnitFieldProvenanceV1
  deriving DecidableEq

def validateField (valueIsKnown : Bool) (provenance : ReceiptPurchaseUnitFieldProvenanceV1) :
    Except ValidationError Unit := do
  provenance.validate
  match valueIsKnown, provenance with
  | true, .unknownReceiptField | false, .receiptCitations _ =>
    .error ⟨.receiptPurchaseUnitProvenance⟩
  | _, _ => .ok ()

def validateCorrection (reviewDecisionId : ReceiptReviewDecisionId)
    (reviewAction : ReceiptReviewActionV1) :
    ReceiptPurchaseUnitFieldProvenanceV1 → Except ValidationError Unit
  | .userCorrection fieldDecisionId =>
    if fieldDecisionId ≠ reviewDecisionId ∨ reviewAction = .confirm then
      .error ⟨.receiptPurchaseUnitProvenance⟩
    else .ok ()
  | _ => .ok ()

/-- Each value's being known and where it comes from. -/
def ReceiptPurchaseUnitProvenanceV1.fields (self : ReceiptPurchaseUnitProvenanceV1)
    (values : ReceiptPurchaseUnitValuesV1) : List (Bool × ReceiptPurchaseUnitFieldProvenanceV1) :=
  [(values.merchant.isSome, self.merchant), (values.orderIdentifier.isSome, self.orderIdentifier),
    (values.purchaseDate.isSome, self.purchaseDate), (values.currency.isSome, self.currency),
    (values.description.isSome, self.description), (true, self.eventKind), (true, self.quantity),
    (values.unitPriceMinor.isSome, self.unitPriceMinor), (values.brand.isSome, self.brand),
    (values.sku.isSome, self.sku), (values.size.isSome, self.size), (values.color.isSome, self.color)]

def ReceiptPurchaseUnitProvenanceV1.validateAgainst (self : ReceiptPurchaseUnitProvenanceV1)
    (values : ReceiptPurchaseUnitValuesV1) (reviewDecisionId : ReceiptReviewDecisionId)
    (reviewAction : ReceiptReviewActionV1) : Except ValidationError Unit :=
  tryForEach (fun field => do
    validateField field.1 field.2
    validateCorrection reviewDecisionId reviewAction field.2) (self.fields values)

/-! ## Units and exclusions -/

structure ReceiptPurchaseUnitAuthorityV1 where
  authorityId : ReceiptSourceAuthorityId
  sourceId : SourceId
  orderEvidenceId : ReceiptOrderEvidenceId
  reviewDecisionId : ReceiptReviewDecisionId
  reviewAction : ReceiptReviewActionV1
  authorityRevision : ℕ
  receiptRevision : ℕ
  deriving DecidableEq

def ReceiptPurchaseUnitAuthorityV1.validate (self : ReceiptPurchaseUnitAuthorityV1) :
    Except ValidationError Unit :=
  if ¬ (self.reviewAction = .confirm ∨ self.reviewAction = .correct) ∨
      self.authorityRevision = 0 ∨ maxSafeIntegerV1 ≤ self.authorityRevision ∨
      self.receiptRevision = 0 ∨ maxSafeIntegerV1 ≤ self.receiptRevision then
    .error ⟨.receiptPurchaseUnitAuthority⟩
  else .ok ()

inductive ReceiptPurchaseUnitStatusFilterV1
  | available
  | promoted
  deriving DecidableEq

inductive ReceiptPurchaseUnitStatusV1
  | available
  | promoted (promotionId : ReceiptPromotionId) (itemId : PromotedItemId) (evidenceId : EvidenceId)
      (decisionId : DecisionId)
  deriving DecidableEq

def ReceiptPurchaseUnitStatusV1.filter :
    ReceiptPurchaseUnitStatusV1 → ReceiptPurchaseUnitStatusFilterV1
  | .available => .available
  | .promoted .. => .promoted

structure ReceiptPurchaseUnitV1 where
  purchaseUnitId : ReceiptPurchaseUnitId
  orderLineId : ReceiptOrderLineId
  unitOrdinal : ℕ
  authoritativeQuantity : ℕ
  values : ReceiptPurchaseUnitValuesV1
  provenance : ReceiptPurchaseUnitProvenanceV1
  authority : ReceiptPurchaseUnitAuthorityV1
  purchaseUnitRevision : ℕ
  unitSnapshotSha256 : String
  catalogRevision : ℕ
  evidenceGeneration : ℕ
  status : ReceiptPurchaseUnitStatusV1
  deriving DecidableEq

def ReceiptPurchaseUnitV1.validate (services : ContractServices) (self : ReceiptPurchaseUnitV1) :
    Except ValidationError Unit := do
  self.values.validate
  self.authority.validate
  self.provenance.validateAgainst self.values self.authority.reviewDecisionId
    self.authority.reviewAction
  match ReceiptPurchaseUnitId.deriveV1 services self.orderLineId self.unitOrdinal with
  | .error _ => .error ⟨.receiptPurchaseUnit⟩
  | .ok expectedId =>
    if self.purchaseUnitId ≠ expectedId ∨ self.authoritativeQuantity ≠ self.values.quantity ∨
        self.authoritativeQuantity ≤ self.unitOrdinal ∨ self.purchaseUnitRevision = 0 ∨
        maxSafeIntegerV1 ≤ self.purchaseUnitRevision ∨ maxSafeIntegerV1 ≤ self.catalogRevision ∨
        maxSafeIntegerV1 ≤ self.evidenceGeneration then .error ⟨.receiptPurchaseUnit⟩
    else .ok ()

inductive ReceiptPurchaseUnitExclusionReasonV1
  | reviewRequired
  | rejected
  | deferred
  | nonPurchase
  | unknownEventKind
  | unknownQuantity
  | supersededAuthority
  | userDeleted
  | authorityChangedResolutionRequired
  deriving DecidableEq

structure ReceiptPurchaseUnitExclusionV1 where
  sourceId : SourceId
  orderEvidenceId : Option ReceiptOrderEvidenceId
  orderLineId : Option ReceiptOrderLineId
  unitOrdinal : Option ℕ
  reason : ReceiptPurchaseUnitExclusionReasonV1
  deriving DecidableEq

structure ReceiptPurchaseUnitSnapshotV1 where
  receiptRevision : ℕ
  evidenceGeneration : ℕ
  catalogRevision : ℕ
  deriving DecidableEq

/-! ## Promotion -/

structure ItemAttributesV1 where
  displayName : String
  category : ItemCategoryV1
  subcategory : Option String
  brand : Option String
  primaryColor : Option String
  size : Option String
  notes : Option String
  tags : List String
  deriving DecidableEq

def ItemAttributesV1.validate (self : ItemAttributesV1) : Except ValidationError Unit := do
  validateText self.displayName 1 80 .attributes
  tryForEach (fun value => validateText value 1 80 .attributes)
    [self.subcategory, self.brand, self.primaryColor, self.size].reduceOption
  validateWhenSome (fun notes => validateText notes 1 1000 .attributes) self.notes
  if 32 < self.tags.length then .error ⟨.collection⟩
  else do
    tryForEach (fun tag => validateText tag 1 80 .collection) self.tags
    if self.tags.dedup.length ≠ self.tags.length then .error ⟨.collection⟩ else .ok ()

/-- A request to promote a unit. Its two confirmations have one value each. -/
structure PromoteReceiptPurchaseUnitV1Request where
  schemaVersion : ℕ
  requestId : RequestId
  purchaseUnitId : ReceiptPurchaseUnitId
  expectedPurchaseUnitRevision : ℕ
  expectedUnitSnapshotSha256 : String
  expectedAuthorityId : ReceiptSourceAuthorityId
  expectedAuthorityRevision : ℕ
  expectedReceiptRevision : ℕ
  expectedReviewDecisionId : ReceiptReviewDecisionId
  expectedCatalogRevision : ℕ
  attributes : ItemAttributesV1
  deriving DecidableEq

def PromoteReceiptPurchaseUnitV1Request.validate (self : PromoteReceiptPurchaseUnitV1Request) :
    Except ValidationError Unit := do
  requireSchemaV1 self.schemaVersion
  self.attributes.validate
  if self.expectedPurchaseUnitRevision = 0 ∨
      maxSafeIntegerV1 ≤ self.expectedPurchaseUnitRevision ∨
      self.expectedAuthorityRevision = 0 ∨ maxSafeIntegerV1 ≤ self.expectedAuthorityRevision ∨
      self.expectedReceiptRevision = 0 ∨ maxSafeIntegerV1 ≤ self.expectedReceiptRevision ∨
      maxSafeIntegerV1 ≤ self.expectedCatalogRevision then
    .error ⟨.receiptPurchaseUnitSnapshot⟩
  else .ok ()

/-- What a promotion rests on. -/
structure ReceiptAuthoritySnapshotV1 where
  authoritySnapshotId : ReceiptAuthoritySnapshotId
  authority : ReceiptPurchaseUnitAuthorityV1
  orderLineId : ReceiptOrderLineId
  values : ReceiptPurchaseUnitValuesV1
  provenance : ReceiptPurchaseUnitProvenanceV1
  snapshotSha256 : String
  createdAt : String

def ReceiptAuthoritySnapshotV1.validate (services : ContractServices)
    (self : ReceiptAuthoritySnapshotV1) : Except ValidationError Unit := do
  self.authority.validate
  self.values.validate
  self.provenance.validateAgainst self.values self.authority.reviewDecisionId
    self.authority.reviewAction
  validateTimestamp services self.createdAt

structure ReceiptPromotionV1 where
  promotionId : ReceiptPromotionId
  purchaseUnitId : ReceiptPurchaseUnitId
  orderLineId : ReceiptOrderLineId
  unitOrdinal : ℕ
  itemId : PromotedItemId
  evidenceId : EvidenceId
  decisionId : DecisionId
  authoritySnapshotId : ReceiptAuthoritySnapshotId
  requestId : RequestId
  promotedAt : String

def ReceiptPromotionV1.validate (services : ContractServices) (self : ReceiptPromotionV1) :
    Except ValidationError Unit :=
  match ReceiptPurchaseUnitId.deriveV1 services self.orderLineId self.unitOrdinal with
  | .error _ => .error ⟨.receiptPromotion⟩
  | .ok expectedId =>
    if self.purchaseUnitId ≠ expectedId then .error ⟨.receiptPromotion⟩
    else validateTimestamp services self.promotedAt

structure CatalogItemV1 where
  itemId : PromotedItemId
  attributes : ItemAttributesV1
  evidenceIds : List EvidenceId
  lastDecisionId : DecisionId

/-- The answer to a promotion. Its decision is the irreversible one of the item and the
evidence, and has no fields of its own here. -/
structure PromoteReceiptPurchaseUnitV1Response where
  schemaVersion : ℕ
  requestId : RequestId
  unit : ReceiptPurchaseUnitV1
  item : CatalogItemV1
  authoritySnapshot : ReceiptAuthoritySnapshotV1
  promotion : ReceiptPromotionV1
  newCatalogRevision : ℕ
  newEvidenceGeneration : ℕ
  replayStatus : ReplayStatusV1

def PromoteReceiptPurchaseUnitV1Response.validate (services : ContractServices)
    (self : PromoteReceiptPurchaseUnitV1Response) : Except ValidationError Unit := do
  requireSchemaV1 self.schemaVersion
  self.unit.validate services
  self.item.attributes.validate
  self.authoritySnapshot.validate services
  self.promotion.validate services
  if self.unit.status ≠ .promoted self.promotion.promotionId self.item.itemId
        self.promotion.evidenceId self.promotion.decisionId ∨
      self.promotion.purchaseUnitId ≠ self.unit.purchaseUnitId ∨
      self.promotion.orderLineId ≠ self.unit.orderLineId ∨
      self.promotion.unitOrdinal ≠ self.unit.unitOrdinal ∨
      self.promotion.itemId ≠ self.item.itemId ∨
      self.promotion.authoritySnapshotId ≠ self.authoritySnapshot.authoritySnapshotId ∨
      self.promotion.requestId ≠ self.requestId ∨
      self.authoritySnapshot.authority ≠ self.unit.authority ∨
      self.authoritySnapshot.orderLineId ≠ self.unit.orderLineId ∨
      self.authoritySnapshot.values ≠ self.unit.values ∨
      self.authoritySnapshot.provenance ≠ self.unit.provenance ∨
      self.item.lastDecisionId ≠ self.promotion.decisionId ∨
      self.item.evidenceIds ≠ [self.promotion.evidenceId] ∨
      self.newCatalogRevision = 0 ∨ maxSafeIntegerV1 ≤ self.newCatalogRevision ∨
      self.newEvidenceGeneration = 0 ∨ maxSafeIntegerV1 ≤ self.newEvidenceGeneration ∨
      self.unit.catalogRevision ≠ self.newCatalogRevision ∨
      self.unit.evidenceGeneration ≠ self.newEvidenceGeneration then .error ⟨.receiptPromotion⟩
  else .ok ()

end Threadbook.Promotion
