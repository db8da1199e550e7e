import Threadbook.PromotionTables

/-!
# The receipt promotion repository

What is offered of each source, line by line and unit by unit, and the commands: list,
promote, review, and delete a unit. Each command that writes is `atomically` a body in the
source's order.
-/

namespace Threadbook.Promotion

open Fallible

/-! ## Projection -/

inductive ProjectionEntry
  | unit (unit : ReceiptPurchaseUnitV1)
  | exclusion (exclusion : ReceiptPurchaseUnitExclusionV1)

def ProjectionEntry.unit? : ProjectionEntry → Option ReceiptPurchaseUnitV1
  | .unit offered => some offered
  | .exclusion _ => none

def ProjectionEntry.exclusion? : ProjectionEntry → Option ReceiptPurchaseUnitExclusionV1
  | .unit _ => none
  | .exclusion excluded => some excluded

/-- All that is offered, and all that is not. -/
structure Projection where
  units : List ReceiptPurchaseUnitV1
  exclusions : List ReceiptPurchaseUnitExclusionV1
  deriving DecidableEq

def purchaseUnitSnapshot (t : PromotionTables) : ReceiptPurchaseUnitSnapshotV1 :=
  ⟨t.receiptRevision, t.evidenceGeneration, t.catalogRevision⟩

def selects (sourceFilter : Option SourceId) (source : SourceId) : Bool :=
  sourceFilter.all fun wanted => wanted = source

def lineExclusion (source : SourceId) (orderEvidenceId : ReceiptOrderEvidenceId)
    (reason : ReceiptPurchaseUnitExclusionReasonV1) (line : ReceiptOrderLineV1) :
    ReceiptPurchaseUnitExclusionV1 :=
  ⟨source, some orderEvidenceId, some line.orderLineId, none, reason⟩

def isLatestRun (t : PromotionTables) (row : OrderRow) : Bool :=
  t.orders.rows.all fun other => other.2.sourceId ≠ row.sourceId ||
    other.2.runCreatedAtMs < row.runCreatedAtMs ||
    (other.2.runCreatedAtMs = row.runCreatedAtMs && other.2.runId ≤ row.runId)

def appendReviewRequiredExclusions (services : PromotionServices) (t : PromotionTables)
    (sourceFilter : Option SourceId) : Except PlatformError (List ReceiptPurchaseUnitExclusionV1) := do
  let rows := (t.orders.rows.filter fun row => selects sourceFilter row.2.sourceId &&
    (t.authorityHeads.find? row.2.sourceId).isNone && isLatestRun t row.2).insertionSort
      fun left right => left.2.sourceId ≤ right.2.sourceId
  let exclusions ← rows.mapM fun row => do
    let order ← loadOrder services t row.1
    Except.ok (order.lineItems.map
      (lineExclusion row.2.sourceId order.orderEvidenceId .reviewRequired))
  .ok exclusions.flatten

def sourceHasPriorAuthorityState (t : PromotionTables) (source : SourceId)
    (authorityId : ReceiptSourceAuthorityId) (orderId : ReceiptOrderEvidenceId) : Bool :=
  (t.promotions.rows.any fun row =>
    (t.snapshots.find? row.2.authoritySnapshotId).any fun snapshot =>
      snapshot.localSourceId = source &&
        (snapshot.authorityId ≠ authorityId || snapshot.orderEvidenceId ≠ orderId)) ||
  t.deletions.rows.any fun row =>
    row.2.localSourceId = source &&
      (row.2.authorityId ≠ authorityId || row.2.orderEvidenceId ≠ orderId)

def citationProvenance {α : Type} (evidence : EvidenceV1 α) :
    ReceiptPurchaseUnitFieldProvenanceV1 :=
  if evidence.value.isSome then .receiptCitations evidence.citations else .unknownReceiptField

def effectiveEvent (corrected : Option CorrectedReceiptOrderV1) (index : ℕ)
    (line : ReceiptOrderLineV1) : Option ReceiptEventKindV1 :=
  match corrected.bind fun order => order.lineItems[index]? with
  | some correctedLine => correctedLine.eventKind
  | none => line.eventKind.value

def effectiveQuantity (corrected : Option CorrectedReceiptOrderV1) (index : ℕ)
    (line : ReceiptOrderLineV1) : Option ℕ :=
  match corrected.bind fun order => order.lineItems[index]? with
  | some correctedLine => correctedLine.quantity
  | none => line.quantity.value

def effectivePrice (corrected : Option CorrectedReceiptOrderV1) (index : ℕ)
    (line : ReceiptOrderLineV1) : Option ℕ :=
  match corrected.bind fun order => order.lineItems[index]? with
  | some correctedLine => correctedLine.unitPriceMinor
  | none => line.unitPriceMinor.value

def correctionProvenance (reviewDecisionId : ReceiptReviewDecisionId) :
    ReceiptPurchaseUnitProvenanceV1 :=
  let correction := .userCorrection reviewDecisionId
  ⟨correction, correction, correction, correction, correction, correction, correction, correction,
    correction, correction, correction, correction⟩

def effectiveValues (order : ReceiptOrderEvidenceV1) (line : ReceiptOrderLineV1)
    (corrected : Option CorrectedReceiptOrderV1) (index : ℕ)
    (reviewDecisionId : ReceiptReviewDecisionId) :
    Except PlatformError (ReceiptPurchaseUnitValuesV1 × ReceiptPurchaseUnitProvenanceV1) :=
  match corrected with
  | some corrected =>
    match (corrected.lineItems[index]?).filter (fun candidate =>
      candidate.orderLineId = line.orderLineId) with
    | none => .error (.corrupt "receipt_corrected_line")
    | some correctedLine =>
      match correctedLine.eventKind, correctedLine.quantity with
      | none, _ => .error (.invalidInput "receipt_event_kind")
      | _, none => .error (.invalidInput "receipt_quantity")
      | some eventKind, some quantity =>
        .ok (⟨corrected.merchant, corrected.orderIdentifier, corrected.purchaseDate,
          corrected.currency, correctedLine.description, eventKind, quantity,
          correctedLine.unitPriceMinor, correctedLine.variant.brand, correctedLine.variant.sku,
          correctedLine.variant.size, correctedLine.variant.color⟩,
          correctionProvenance reviewDecisionId)
  | none =>
    match line.eventKind.value, line.quantity.value with
    | none, _ => .error (.invalidInput "receipt_event_kind")
    | _, none => .error (.invalidInput "receipt_quantity")
    | some eventKind, some quantity =>
      .ok (⟨order.merchant.value, order.orderIdentifier.value, order.purchaseDate.value,
        order.currency.value, line.description.value, eventKind, quantity,
        line.unitPriceMinor.value, line.variant.brand.value, line.variant.sku.value,
        line.variant.size.value, line.variant.color.value⟩,
        ⟨citationProvenance order.merchant, citationProvenance order.orderIdentifier,
          citationProvenance order.purchaseDate, citationProvenance order.currency,
          citationProvenance line.description, citationProvenance line.eventKind,
          citationProvenance line.quantity, citationProvenance line.unitPriceMinor,
          citationProvenance line.variant.brand, citationProvenance line.variant.sku,
          citationProvenance line.variant.size, citationProvenance line.variant.color⟩)

def unitSnapshotDigest (services : PromotionServices) (orderLineId : ReceiptOrderLineId)
    (values : ReceiptPurchaseUnitValuesV1) (provenance : ReceiptPurchaseUnitProvenanceV1)
    (authority : ReceiptPurchaseUnitAuthorityV1) : String :=
  services.digest (services.serializeUnit orderLineId values provenance authority)

def PromotionRow.status (self : PromotionRow) : ReceiptPurchaseUnitStatusV1 :=
  .promoted self.promotionId self.itemId self.evidenceId self.decisionId

def currentUnit (services : PromotionServices) (t : PromotionTables)
    (authority : ReceiptPurchaseUnitAuthorityV1) (orderLineId : ReceiptOrderLineId)
    (values : ReceiptPurchaseUnitValuesV1) (provenance : ReceiptPurchaseUnitProvenanceV1)
    (unitOrdinal : ℕ) (purchaseUnitId : ReceiptPurchaseUnitId) : ReceiptPurchaseUnitV1 where
  purchaseUnitId := purchaseUnitId
  orderLineId := orderLineId
  unitOrdinal := unitOrdinal
  authoritativeQuantity := values.quantity
  values := values
  provenance := provenance
  authority := authority
  purchaseUnitRevision := ((t.promotions.find? (orderLineId, unitOrdinal)).map
    (·.purchaseUnitRevision)).getD authority.authorityRevision
  unitSnapshotSha256 := unitSnapshotDigest services orderLineId values provenance authority
  catalogRevision := t.catalogRevision
  evidenceGeneration := t.evidenceGeneration
  status := ((t.promotions.find? (orderLineId, unitOrdinal)).map PromotionRow.status).getD .available

def projectUnit (services : PromotionServices) (t : PromotionTables)
    (authority : ReceiptPurchaseUnitAuthorityV1) (orderLineId : ReceiptOrderLineId)
    (values : ReceiptPurchaseUnitValuesV1) (provenance : ReceiptPurchaseUnitProvenanceV1)
    (unitOrdinal : ℕ) : Except PlatformError ProjectionEntry :=
  match ReceiptPurchaseUnitId.deriveV1 services.toContractServices orderLineId unitOrdinal with
  | .error _ => .error (.corrupt "receipt_purchase_unit_id")
  | .ok purchaseUnitId =>
    if (t.deletions.find? purchaseUnitId).isSome then
      .ok (.exclusion ⟨authority.sourceId, some authority.orderEvidenceId, some orderLineId,
        some unitOrdinal, .userDeleted⟩)
    else
      let unit := currentUnit services t authority orderLineId values provenance unitOrdinal
        purchaseUnitId
      match unit.validate services.toContractServices with
      | .error _ => .error (.corrupt "receipt_purchase_unit")
      | .ok _ => .ok (.unit unit)

def excludeLine (authority : ReceiptPurchaseUnitAuthorityV1)
    (reason : ReceiptPurchaseUnitExclusionReasonV1) (line : ReceiptOrderLineV1) :
    List ProjectionEntry :=
  [.exclusion (lineExclusion authority.sourceId authority.orderEvidenceId reason line)]

def projectLineUnits (services : PromotionServices) (t : PromotionTables)
    (authority : ReceiptPurchaseUnitAuthorityV1) (authorityChanged : Bool)
    (line : ReceiptOrderLineV1) (values : ReceiptPurchaseUnitValuesV1)
    (provenance : ReceiptPurchaseUnitProvenanceV1) : Except PlatformError (List ProjectionEntry) :=
  if authorityChanged then .ok (excludeLine authority .authorityChangedResolutionRequired line)
  else if values.eventKind ≠ .purchase then .ok (excludeLine authority .nonPurchase line)
  else if 2 ^ 32 ≤ values.quantity then .error (.corrupt "receipt_quantity")
  else (List.range values.quantity).mapM
    (projectUnit services t authority line.orderLineId values provenance)

def projectLine (services : PromotionServices) (t : PromotionTables)
    (authority : ReceiptPurchaseUnitAuthorityV1) (authorityChanged : Bool)
    (order : ReceiptOrderEvidenceV1) (corrected : Option CorrectedReceiptOrderV1)
    (line : ReceiptOrderLineV1) (index : ℕ) : Except PlatformError (List ProjectionEntry) :=
  if effectiveEvent corrected index line = none then
    .ok (excludeLine authority .unknownEventKind line)
  else if effectiveQuantity corrected index line = none then
    .ok (excludeLine authority .unknownQuantity line)
  else do
    let effective ← effectiveValues order line corrected index authority.reviewDecisionId
    projectLineUnits services t authority authorityChanged line effective.1 effective.2

def projectSource (services : PromotionServices) (t : PromotionTables)
    (entry : SourceId × AuthorityHeadRow) : Except PlatformError (List ProjectionEntry) := do
  let (source, head) := entry
  let order ← loadOrder services t head.orderEvidenceId
  match order.reviewHead with
  | none => .error (.corrupt "receipt_authority_review")
  | some reviewHead =>
    if reviewHead.decision.decisionId ≠ head.reviewDecisionId then
      .error (.corrupt "receipt_authority_review")
    else
      let authority : ReceiptPurchaseUnitAuthorityV1 :=
        { authorityId := head.authorityId
          sourceId := source
          orderEvidenceId := order.orderEvidenceId
          reviewDecisionId := reviewHead.decision.decisionId
          reviewAction := reviewHead.decision.action
          authorityRevision := head.authorityRevision
          receiptRevision := head.receiptRevision }
      match authority.reviewAction with
      | .reject => .ok (order.lineItems.map fun line =>
          .exclusion (lineExclusion source order.orderEvidenceId .rejected line))
      | .defer => .ok (order.lineItems.map fun line =>
          .exclusion (lineExclusion source order.orderEvidenceId .deferred line))
      | .confirm | .correct => do
        let authorityChanged :=
          sourceHasPriorAuthorityState t source head.authorityId head.orderEvidenceId
        let lines ← order.lineItems.zipIdx.mapM fun entry =>
          projectLine services t authority authorityChanged order
            reviewHead.decision.correctedOrder entry.1 entry.2
        .ok lines.flatten

def selectedHeads (t : PromotionTables) (sourceFilter : Option SourceId) :
    List (SourceId × AuthorityHeadRow) :=
  (t.authorityHeads.rows.filter fun row => selects sourceFilter row.1).insertionSort
    fun left right => left.1 ≤ right.1

structure JoinedPromotion where
  orderLineId : ReceiptOrderLineId
  unitOrdinal : ℕ
  promotion : PromotionRow
  snapshot : AuthoritySnapshotRow

def joinedPromotions (t : PromotionTables) (sourceFilter : Option SourceId) :
    List JoinedPromotion :=
  (t.promotions.rows.filterMap fun row =>
    ((t.snapshots.find? row.2.authoritySnapshotId).filter fun snapshot =>
      selects sourceFilter snapshot.localSourceId).map fun snapshot =>
        ⟨row.1.1, row.1.2, row.2, snapshot⟩).insertionSort fun left right =>
          toLex (left.snapshot.localSourceId, toLex (left.orderLineId, left.unitOrdinal)) ≤
            toLex (right.snapshot.localSourceId, toLex (right.orderLineId, right.unitOrdinal))

def JoinedPromotion.unit (snapshot : ReceiptPurchaseUnitSnapshotV1) (self : JoinedPromotion) :
    ReceiptPurchaseUnitV1 where
  purchaseUnitId := self.promotion.purchaseUnitId
  orderLineId := self.orderLineId
  unitOrdinal := self.unitOrdinal
  authoritativeQuantity := self.promotion.authoritativeQuantity
  values := self.snapshot.values
  provenance := self.snapshot.provenance
  authority :=
    { authorityId := self.snapshot.authorityId
      sourceId := self.snapshot.localSourceId
      orderEvidenceId := self.snapshot.orderEvidenceId
      reviewDecisionId := self.snapshot.reviewDecisionId
      reviewAction := self.snapshot.reviewAction
      authorityRevision := self.snapshot.authorityRevision
      receiptRevision := self.snapshot.receiptRevision }
  purchaseUnitRevision := self.promotion.purchaseUnitRevision
  unitSnapshotSha256 := self.promotion.unitSnapshotSha256
  catalogRevision := snapshot.catalogRevision
  evidenceGeneration := snapshot.evidenceGeneration
  status := self.promotion.status

def loadHistoricalPromotions (services : PromotionServices) (t : PromotionTables)
    (sourceFilter : Option SourceId) (visible : List ReceiptPurchaseUnitId) :
    Except PlatformError (List ReceiptPurchaseUnitV1) :=
  ((joinedPromotions t sourceFilter).filter fun row =>
    !visible.contains row.promotion.purchaseUnitId).mapM
    fun row =>
      let unit := row.unit (purchaseUnitSnapshot t)
      match unit.validate services.toContractServices with
      | .error _ => .error (.corrupt "historical_receipt_purchase_unit")
      | .ok _ => .ok unit

def projectPurchaseUnits (services : PromotionServices) (t : PromotionTables)
    (sourceFilter : Option SourceId) : Except PlatformError Projection := do
  let reviewRequired ← appendReviewRequiredExclusions services t sourceFilter
  let sources ← (selectedHeads t sourceFilter).mapM (projectSource services t)
  let units := sources.flatten.filterMap ProjectionEntry.unit?
  let historical ← loadHistoricalPromotions services t sourceFilter (units.map (·.purchaseUnitId))
  .ok ⟨units ++ historical, reviewRequired ++ sources.flatten.filterMap ProjectionEntry.exclusion?⟩

/-! ## List -/

structure ListCursor where
  snapshot : ReceiptPurchaseUnitSnapshotV1
  sourceId : Option SourceId
  status : Option ReceiptPurchaseUnitStatusFilterV1
  offset : ℕ
  deriving DecidableEq

structure ListReceiptPurchaseUnitsV1Request where
  schemaVersion : ℕ
  requestId : RequestId
  sourceId : Option SourceId
  status : Option ReceiptPurchaseUnitStatusFilterV1
  cursor : Option ListCursor
  limit : ℕ

def ListReceiptPurchaseUnitsV1Request.validate (self : ListReceiptPurchaseUnitsV1Request) :
    Except ValidationError Unit := do
  requireSchemaV1 self.schemaVersion
  if 1 ≤ self.limit ∧ self.limit ≤ maxPageSize then .ok () else .error ⟨.limit⟩

/-- A page. -/
structure ListReceiptPurchaseUnitsV1Response where
  schemaVersion : ℕ
  requestId : RequestId
  units : List ReceiptPurchaseUnitV1
  exclusions : List ReceiptPurchaseUnitExclusionV1
  totalCount : ℕ
  totalExclusionCount : ℕ
  snapshot : ReceiptPurchaseUnitSnapshotV1
  nextCursor : Option ListCursor
  deriving DecidableEq

def ReceiptPurchaseUnitSnapshotV1.validate (self : ReceiptPurchaseUnitSnapshotV1) :
    Except ValidationError Unit :=
  if self.receiptRevision < maxSafeIntegerV1 ∧ self.evidenceGeneration < maxSafeIntegerV1 ∧
      self.catalogRevision < maxSafeIntegerV1 then .ok ()
  else .error ⟨.receiptPurchaseUnitSnapshot⟩

def ReceiptPurchaseUnitExclusionV1.validate (self : ReceiptPurchaseUnitExclusionV1) :
    Except ValidationError Unit :=
  if self.unitOrdinal.isSome ∧ self.orderLineId.isNone then .error ⟨.receiptPurchaseUnit⟩
  else if ∃ ordinal ∈ self.unitOrdinal, maxReceiptQuantity ≤ ordinal then
    .error ⟨.receiptPurchaseUnit⟩
  else .ok ()

def ListReceiptPurchaseUnitsV1Response.validate (services : ContractServices)
    (self : ListReceiptPurchaseUnitsV1Response) : Except ValidationError Unit := do
  requireSchemaV1 self.schemaVersion
  self.snapshot.validate
  if maxPageSize < self.units.length ∨
      maxReceiptPurchaseUnitExclusionsV1 < self.exclusions.length ∨
      self.totalCount < self.units.length ∨ self.totalExclusionCount < self.exclusions.length ∨
      maxSafeIntegerV1 ≤ self.totalCount ∨ maxSafeIntegerV1 ≤ self.totalExclusionCount then
    .error ⟨.receiptPurchaseUnit⟩
  else do
    tryForEach (fun unit => unit.validate services) self.units
    tryForEach ReceiptPurchaseUnitExclusionV1.validate self.exclusions

/-- The key entries are sorted by: a hexadecimal text is ordered like its number, and no id is
zero. -/
def entryKey : ProjectionEntry → List ℕ
  | .unit offered =>
    [offered.authority.sourceId.1.val, offered.orderLineId.1.val, offered.unitOrdinal, 0]
  | .exclusion excluded =>
    [excluded.sourceId.1.val, (excluded.orderLineId.map (·.1.val)).getD 0,
      excluded.unitOrdinal.getD 0, 1]

def pageEntries (projection : Projection) (status : Option ReceiptPurchaseUnitStatusFilterV1) :
    List ProjectionEntry :=
  let units := projection.units.filter fun offered =>
    status.all fun wanted => offered.status.filter = wanted
  let exclusions := if status = some .promoted then [] else projection.exclusions
  (units.map ProjectionEntry.unit ++ exclusions.map ProjectionEntry.exclusion).insertionSort
    fun left right => entryKey left ≤ entryKey right

/-- Where a page starts. -/
def parseListCursor (cursor : Option ListCursor) (snapshot : ReceiptPurchaseUnitSnapshotV1)
    (sourceId : Option SourceId) (status : Option ReceiptPurchaseUnitStatusFilterV1) :
    Except PlatformError ℕ :=
  match cursor with
  | none => .ok 0
  | some cursor =>
    if cursor.snapshot ≠ snapshot ∨ cursor.sourceId ≠ sourceId ∨ cursor.status ≠ status then
      .error (.conflict "snapshot_expired")
    else .ok cursor.offset

def listResponse (request : ListReceiptPurchaseUnitsV1Request) (projection : Projection)
    (snapshot : ReceiptPurchaseUnitSnapshotV1) (offset : ℕ) :
    ListReceiptPurchaseUnitsV1Response :=
  let entries := pageEntries projection request.status
  let pageEnd := min (offset + request.limit) entries.length
  let page := (entries.take pageEnd).drop offset
  { schemaVersion := schemaVersionV1
    requestId := request.requestId
    units := page.filterMap ProjectionEntry.unit?
    exclusions := page.filterMap ProjectionEntry.exclusion?
    totalCount := (projection.units.filter fun offered =>
      request.status.all fun wanted => offered.status.filter = wanted).length
    totalExclusionCount :=
      if request.status = some .promoted then 0 else projection.exclusions.length
    snapshot := snapshot
    nextCursor := if pageEnd < entries.length then
      some ⟨snapshot, request.sourceId, request.status, pageEnd⟩ else none }

def listReceiptPurchaseUnits (services : PromotionServices) (t : PromotionTables)
    (request : ListReceiptPurchaseUnitsV1Request) :
    Except PlatformError ListReceiptPurchaseUnitsV1Response := do
  request.validate.mapError fun _ => .invalidInput "receipt_purchase_unit_list"
  let projection ← projectPurchaseUnits services t request.sourceId
  let snapshot := purchaseUnitSnapshot t
  let offset ← parseListCursor request.cursor snapshot request.sourceId request.status
  if (pageEntries projection request.status).length < offset then
    .error (.invalidInput "receipt_purchase_unit_cursor")
  else do
    let response := listResponse request projection snapshot offset
    (response.validate services.toContractServices).mapError fun _ =>
      .corrupt "receipt_purchase_unit_list_response"
    .ok response

/-! ## Promote -/

def promoteCommand : String := "promote_receipt_purchase_unit_v1"

def promotionEnvelope (services : PromotionServices)
    (request : PromoteReceiptPurchaseUnitV1Request) : String :=
  services.digest (services.serializePromotion request)

/-- The answer of a promotion that was carried out before. -/
def replayedPromotion (services : PromotionServices) :
    CommandResponse → Except PlatformError PromoteReceiptPurchaseUnitV1Response
  | .promote response => do
    (response.validate services.toContractServices).mapError fun _ =>
      .corrupt "receipt_purchase_unit_replay"
    .ok { response with replayStatus := .replayed }
  | .review _ | .other => .error .json

def ReceiptPurchaseUnitExclusionV1.standsFor (services : ContractServices)
    (self : ReceiptPurchaseUnitExclusionV1) (purchaseUnitId : ReceiptPurchaseUnitId) : Bool :=
  match self.orderLineId, self.unitOrdinal with
  | some orderLineId, some unitOrdinal =>
    match ReceiptPurchaseUnitId.deriveV1 services orderLineId unitOrdinal with
    | .ok id => id = purchaseUnitId
    | .error _ => false
  | _, _ => false

def Projection.findUnit (services : ContractServices) (self : Projection)
    (purchaseUnitId : ReceiptPurchaseUnitId) : Except PlatformError ReceiptPurchaseUnitV1 :=
  match self.units.find? fun offered => offered.purchaseUnitId = purchaseUnitId with
  | some current => .ok current
  | none =>
    if self.exclusions.any fun exclusion => exclusion.standsFor services purchaseUnitId then
      .error (.conflict "receipt_purchase_unit_ineligible")
    else .error (.invalidInput "receipt_purchase_unit")

def PromoteReceiptPurchaseUnitV1Request.Expects (self : PromoteReceiptPurchaseUnitV1Request)
    (current : ReceiptPurchaseUnitV1) : Prop :=
  current.status = .available ∧
    current.purchaseUnitRevision = self.expectedPurchaseUnitRevision ∧
    current.unitSnapshotSha256 = self.expectedUnitSnapshotSha256 ∧
    current.authority.authorityId = self.expectedAuthorityId ∧
    current.authority.authorityRevision = self.expectedAuthorityRevision ∧
    current.authority.receiptRevision = self.expectedReceiptRevision ∧
    current.authority.reviewDecisionId = self.expectedReviewDecisionId

instance (request : PromoteReceiptPurchaseUnitV1Request) (current : ReceiptPurchaseUnitV1) :
    Decidable (request.Expects current) := by
  unfold PromoteReceiptPurchaseUnitV1Request.Expects
  infer_instance

def authoritySnapshotId (current : ReceiptPurchaseUnitV1) : ReceiptAuthoritySnapshotId :=
  ⟨current.authority.authorityId, current.orderLineId⟩

def authoritySnapshotRow (current : ReceiptPurchaseUnitV1) (nowMs : ℤ) : AuthoritySnapshotRow where
  authorityId := current.authority.authorityId
  localSourceId := current.authority.sourceId
  orderEvidenceId := current.authority.orderEvidenceId
  orderLineId := current.orderLineId
  reviewDecisionId := current.authority.reviewDecisionId
  reviewAction := current.authority.reviewAction
  receiptRevision := current.authority.receiptRevision
  authorityRevision := current.authority.authorityRevision
  values := current.values
  provenance := current.provenance
  snapshotSha256 := current.unitSnapshotSha256
  createdAtMs := nowMs

def supportsSnapshot (t : PromotionTables) (row : AuthoritySnapshotRow) : Bool :=
  (t.reviewDecisions.find? row.reviewDecisionId).any fun decision =>
    decision.orderEvidenceId = row.orderEvidenceId && decision.action = row.reviewAction &&
      decision.receiptRevision = row.receiptRevision &&
      (t.orders.find? row.orderEvidenceId).any fun order =>
        order.sourceId = row.localSourceId && order.lineIds.any fun ids => ids.1 = row.orderLineId

def insertSnapshot (current : ReceiptPurchaseUnitV1) (nowMs : ℤ) : PromotionTransaction PUnit := do
  let t ← state
  let row := authoritySnapshotRow current nowMs
  rejectIf .sqlite ¬ supportsSnapshot t row
  let snapshots := (t.snapshots.insertOrIgnore (authoritySnapshotId current) row).1
  update fun t => { t with snapshots := snapshots }
  rejectIf (.conflict "receipt_authority_snapshot")
    ((snapshots.find? (authoritySnapshotId current)).any fun stored =>
      stored.snapshotSha256 ≠ current.unitSnapshotSha256)

def promotionRow (request : PromoteReceiptPurchaseUnitV1Request) (current : ReceiptPurchaseUnitV1)
    (catalogRevision evidenceGeneration : ℕ) (nowMs : ℤ) : PromotionRow where
  promotionId := ⟨request.requestId⟩
  purchaseUnitId := request.purchaseUnitId
  authoritativeQuantity := current.authoritativeQuantity
  purchaseUnitRevision := current.purchaseUnitRevision + 1
  unitSnapshotSha256 := current.unitSnapshotSha256
  authoritySnapshotId := authoritySnapshotId current
  itemId := ⟨request.requestId⟩
  evidenceId := ⟨request.requestId⟩
  decisionId := ⟨request.requestId⟩
  requestId := request.requestId
  catalogRevision := catalogRevision
  evidenceGeneration := evidenceGeneration
  createdAtMs := nowMs

def promotedUnit (current : ReceiptPurchaseUnitV1) (row : PromotionRow) :
    ReceiptPurchaseUnitV1 :=
  { current with
    purchaseUnitRevision := row.purchaseUnitRevision
    catalogRevision := row.catalogRevision
    evidenceGeneration := row.evidenceGeneration
    status := row.status }

def promotionResponse (request : PromoteReceiptPurchaseUnitV1Request)
    (current : ReceiptPurchaseUnitV1) (row : PromotionRow) (promotedAt : String) :
    PromoteReceiptPurchaseUnitV1Response where
  schemaVersion := schemaVersionV1
  requestId := request.requestId
  unit := promotedUnit current row
  item := ⟨row.itemId, request.attributes, [row.evidenceId], row.decisionId⟩
  authoritySnapshot := ⟨row.authoritySnapshotId, current.authority, current.orderLineId,
    current.values, current.provenance, current.unitSnapshotSha256, promotedAt⟩
  promotion := ⟨row.promotionId, current.purchaseUnitId, current.orderLineId, current.unitOrdinal,
    row.itemId, row.evidenceId, row.decisionId, row.authoritySnapshotId, request.requestId,
    promotedAt⟩
  newCatalogRevision := row.catalogRevision
  newEvidenceGeneration := row.evidenceGeneration
  replayStatus := .created

def insertPromotion (current : ReceiptPurchaseUnitV1) (row : PromotionRow) :
    PromotionTransaction PUnit := do
  let t ← state
  rejectIf .sqlite (t.promotions.rows.any fun other =>
    other.2.purchaseUnitId = row.purchaseUnitId || other.2.requestId = row.requestId)
  insertRow PromotionTables.promotions (fun table t => { t with promotions := table })
    (current.orderLineId, current.unitOrdinal) row

def promoteUnit (services : PromotionServices) (request : PromoteReceiptPurchaseUnitV1Request)
    (current : ReceiptPurchaseUnitV1) (nowMs : ℤ) :
    PromotionTransaction PromoteReceiptPurchaseUnitV1Response := do
  update fun t => { t with
    catalogRevision := t.catalogRevision + 1
    evidenceGeneration := t.evidenceGeneration + 1 }
  let t ← state
  let row := promotionRow request current t.catalogRevision t.evidenceGeneration nowMs
  insertSnapshot current nowMs
  insertRow PromotionTables.catalogItems (fun table t => { t with catalogItems := table })
    row.itemId request.attributes
  insertRow PromotionTables.evidence (fun table t => { t with evidence := table })
    row.evidenceId current.authority.sourceId
  insertRow PromotionTables.catalogDecisions (fun table t => { t with catalogDecisions := table })
    row.decisionId request.requestId
  let promotedAt ← check (services.timestampFromMs nowMs)
  let response := promotionResponse request current row promotedAt
  check ((response.validate services.toContractServices).mapError fun _ =>
    .corrupt "receipt_purchase_unit_response")
  storeReceipt promoteCommand request.requestId (promotionEnvelope services request)
    (.promote response)
  insertPromotion current row
  pure response

def promoteCurrent (services : PromotionServices) (request : PromoteReceiptPurchaseUnitV1Request)
    (nowMs : ℤ) : PromotionTransaction PromoteReceiptPurchaseUnitV1Response := do
  let t ← state
  rejectIf (.conflict "catalog_revision")
    (t.catalogRevision ≠ request.expectedCatalogRevision)
  let projection ← check (projectPurchaseUnits services t none)
  let current ← check
    (projection.findUnit services.toContractServices request.purchaseUnitId)
  rejectIf (.conflict "receipt_purchase_unit_changed") ¬ request.Expects current
  rejectIf (.conflict "receipt_purchase_unit_deleted")
    (t.deletions.find? request.purchaseUnitId).isSome
  rejectIf (.conflict "receipt_purchase_unit_promoted")
    (t.promotions.find? (current.orderLineId, current.unitOrdinal)).isSome
  promoteUnit services request current nowMs

def promoteReceiptPurchaseUnit (services : PromotionServices)
    (request : PromoteReceiptPurchaseUnitV1Request) (nowMs : ℤ) :
    PromotionTransaction PromoteReceiptPurchaseUnitV1Response :=
  atomically do
    check (request.validate.mapError fun _ =>
      .invalidInput "receipt_purchase_unit_promotion")
    let t ← state
    let stored ← check
      (replay t promoteCommand request.requestId (promotionEnvelope services request))
    match stored with
    | some response => check (replayedPromotion services response)
    | none => promoteCurrent services request nowMs

end Threadbook.Promotion
