import Threadbook.CatalogTables

/-!
# The catalog repository

The five commands, each one transaction: it answers from its receipt if the request was
carried out before, and otherwise advances the revision the caller has seen, changes items,
links and evidence, and appends a decision with what undoing it restores. Imports and
promotions write the same tables.
-/

namespace Threadbook.Catalog

open Fallible

open Promotion (ItemAttributesV1 RequestId ReplayStatusV1)

/-- What a command did. -/
structure MutationOutcome where
  content : MutationContent
  decision : DecisionSnapshotV1
  newCatalogRevision : ℕ

/-! ## Save -/

def savedItemId (services : CatalogServices) (request : SaveItemV1Request) : ItemId :=
  request.itemId.getD (stableId services "item" request.requestId.text)

def saveEvidenceIds (services : CatalogServices) (t : CatalogTables)
    (request : SaveItemV1Request) : List EvidenceId :=
  sortedDedup (request.evidenceIds ++ itemEvidenceIds t (savedItemId services request))

def saveItem (services : CatalogServices) (request : SaveItemV1Request) :
    CatalogTransaction MutationOutcome := do
  let itemId := savedItemId services request
  let t ← state
  let inverse := captureProjection t [itemId] (saveEvidenceIds services t request)
  check (ensureAssignable t request.evidenceIds itemId)
  let revision ← advanceRevision request.expectedCatalogRevision
  update (CatalogTables.upsertItem itemId request.attributes revision)
  setItemEvidence itemId request.evidenceIds revision
  let decision ← appendDecision services request.requestId .save revision inverse none [itemId]
    request.evidenceIds
  let t ← state
  let item ← check (loadCatalogItem t itemId)
  pure ⟨.item item, decision, revision⟩

/-! ## Decide -/

def EvidenceDecisionActionV1.state : EvidenceDecisionActionV1 → EvidenceStateV1
  | assign => .assigned
  | reject => .rejected
  | defer => .deferred

def EvidenceDecisionActionV1.kind : EvidenceDecisionActionV1 → StoredKind
  | assign => .assign
  | reject => .reject
  | defer => .defer

def decideItemIds (t : CatalogTables) (request : DecideEvidenceV1Request) : List ItemId :=
  sortedDedup ((t.linkOf request.evidenceId).toList ++ request.itemId.toList)

def assignEvidence (request : DecideEvidenceV1Request) (revision : ℕ) :
    CatalogTransaction PUnit :=
  match request.action, request.itemId with
  | .assign, none => fail (.invalidInput "item_id")
  | .assign, some itemId => do
    let t ← state
    check (requireActiveItem t itemId)
    insertItemEvidence itemId revision request.evidenceId
  | .reject, _ | .defer, _ => pure ⟨⟩

def decideEvidence (services : CatalogServices) (request : DecideEvidenceV1Request) :
    CatalogTransaction MutationOutcome := do
  let t ← state
  let itemIds := decideItemIds t request
  let inverse := captureProjection t itemIds [request.evidenceId]
  let revision ← advanceRevision request.expectedCatalogRevision
  update (CatalogTables.deleteItemEvidenceByEvidence request.evidenceId)
  assignEvidence request revision
  let t ← state
  rejectIf (.invalidInput "evidence_id") (t.evidence.find? request.evidenceId).isNone
  update (CatalogTables.setEvidenceState request.action.state request.evidenceId)
  let decision ← appendDecision services request.requestId request.action.kind revision inverse
    none itemIds [request.evidenceId]
  let t ← state
  let evidence ← check (loadEvidence t request.evidenceId)
  pure ⟨.evidence evidence, decision, revision⟩

/-! ## Merge -/

def mergeItems (services : CatalogServices) (request : MergeItemsV1Request) :
    CatalogTransaction MutationOutcome := do
  let t ← state
  let _ ← check (request.itemIds.mapM (requireActiveItem t))
  let evidenceIds := evidenceForItems t request.itemIds
  let inverse := captureProjection t request.itemIds evidenceIds
  let revision ← advanceRevision request.expectedCatalogRevision
  let target := request.itemIds.head request.itemIds_ne_nil
  update (CatalogTables.upsertItem target request.targetAttributes revision)
  update fun t =>
    request.itemIds.tail.foldl (fun t source => t.deactivateItem source revision) t
  update fun t =>
    request.itemIds.foldl (fun t source => t.moveItemEvidence target source revision) t
  let decision ← appendDecision services request.requestId .merge revision inverse none
    request.itemIds evidenceIds
  let t ← state
  let item ← check (loadCatalogItem t target)
  pure ⟨.item item, decision, revision⟩

/-! ## Split -/

def splitItemIds (services : CatalogServices) (request : SplitItemV1Request) : List ItemId :=
  request.itemId :: (List.range' 1 (request.groups.length - 1)).map fun index =>
    stableId services "split-item" (request.requestId.text ++ ":" ++ toString index)

def splitEvidenceIds (request : SplitItemV1Request) : List EvidenceId :=
  sortedDedup (request.groups.flatMap (·.evidenceIds))

def splitGroup (revision : ℕ) (entry : ItemId × SplitGroupV1) : CatalogTransaction PUnit := do
  update (CatalogTables.upsertItem entry.1 entry.2.attributes revision)
  let _ ← forEach (insertItemEvidence entry.1 revision) entry.2.evidenceIds
  pure ⟨⟩

def splitItem (services : CatalogServices) (request : SplitItemV1Request) :
    CatalogTransaction MutationOutcome := do
  let t ← state
  check (requireActiveItem t request.itemId)
  let requested := splitEvidenceIds request
  rejectIf (.invalidInput "split_evidence_partition")
    (itemEvidenceIds t request.itemId ≠ requested)
  let itemIds := splitItemIds services request
  let inverse := captureProjection t itemIds requested
  let revision ← advanceRevision request.expectedCatalogRevision
  update (CatalogTables.deleteItemEvidenceByItem request.itemId)
  let _ ← forEach (splitGroup revision) (itemIds.zip request.groups)
  let decision ← appendDecision services request.requestId .split revision inverse none itemIds
    requested
  let t ← state
  let items ← check (itemIds.mapM (loadCatalogItem t))
  pure ⟨.items items, decision, revision⟩

/-! ## Undo -/

def restoredItems (t : CatalogTables) (itemIds : List ItemId) :
    Except PlatformError (List CatalogItemV1) :=
  (itemIds.filter fun itemId => (t.items.find? itemId).any (·.active)).mapM (loadCatalogItem t)

def undoRow (services : CatalogServices) (request : UndoDecisionV1Request) (row : DecisionRow) :
    CatalogTransaction MutationOutcome := do
  let t ← state
  rejectIf (.conflict "decision_not_reversible")
    (row.kind = .promoteReceiptPurchaseUnit)
  rejectIf (.conflict "undo_non_head")
    (row.catalogRevision ≠ request.expectedCatalogRevision)
  rejectIf (.conflict "decision_already_compensated")
    (t.decisions.rows.any fun other =>
      other.2.compensatesDecisionId = some request.decisionId)
  match row.inverse with
  | none => fail .json
  | some snapshot => do
    let evidenceIds := snapshot.evidence.map (·.evidenceId)
    let current := captureProjection t snapshot.affectedItemIds evidenceIds
    let revision ← advanceRevision request.expectedCatalogRevision
    restoreProjection snapshot revision
    let decision ← appendDecision services request.requestId .undo revision current
      (some request.decisionId) snapshot.affectedItemIds evidenceIds
    let t ← state
    let items ← check (restoredItems t snapshot.affectedItemIds)
    pure ⟨.items items, decision, revision⟩

def undoDecision (services : CatalogServices) (request : UndoDecisionV1Request) :
    CatalogTransaction MutationOutcome := do
  let t ← state
  match t.decisions.find? request.decisionId with
  | none => fail (.invalidInput "decision_id")
  | some row => undoRow services request row

/-! ## Commands -/

def replay (t : CatalogTables) (command : String) (requestId : RequestId)
    (envelope : String) : Except PlatformError (Option CommandResponse) :=
  match t.commandReceipts.find? requestId with
  | none => .ok none
  | some row =>
    if row.commandName = command ∧ row.envelopeHash = envelope then .ok (some row.response)
    else .error (.conflict "command_envelope_changed")

def storeReceipt (command : String) (requestId : RequestId) (envelope : String)
    (response : CommandResponse) : CatalogTransaction PUnit :=
  insertRow CatalogTables.commandReceipts (fun table t => { t with commandReceipts := table })
    requestId ⟨command, envelope, response⟩

/-- The answer of a command that was carried out before. -/
def replayed : CommandResponse → Except PlatformError MutationResponse
  | .catalog response => .ok { response with replayStatus := .replayed }
  | .other => .error .json

def CatalogCommand.mutate (services : CatalogServices) :
    CatalogCommand → CatalogTransaction MutationOutcome
  | .save request => saveItem services request
  | .decide request => decideEvidence services request
  | .merge request => mergeItems services request
  | .split request => splitItem services request
  | .undo request => undoDecision services request

/-- The answer to a command that was carried out now. -/
def MutationOutcome.response (requestId : RequestId) (self : MutationOutcome) :
    MutationResponse :=
  ⟨schemaVersionV1, requestId, self.content, self.decision, self.newCatalogRevision, .created⟩

def CatalogCommand.perform (services : CatalogServices) (command : CatalogCommand) :
    CatalogTransaction MutationResponse := do
  let outcome ← command.mutate services
  let response := outcome.response command.requestId
  storeReceipt command.name command.requestId (envelopeHash services command) (.catalog response)
  pure response

def CatalogCommand.execute (services : CatalogServices) (command : CatalogCommand) :
    CatalogTransaction MutationResponse :=
  atomically do
    let t ← state
    let stored ← check
      (replay t command.name command.requestId (envelopeHash services command))
    match stored with
    | some response => check (replayed response)
    | none => command.perform services

/-! ## Other writers -/

inductive ImportStatement
  | recordSource (sourceId : SourceId) (row : SourceRow)
  | recordQuarantine (quarantineId : QuarantineId) (row : QuarantineRow)
  | ensureEvidence (evidenceId : EvidenceId) (sourceId : SourceId) (kind : EvidenceKindV1)
      (createdAtMs : ℤ)
  | bumpEvidenceGeneration
  | storeResponse (requestId : RequestId) (command envelope : String)

def ImportStatement.run : ImportStatement → CatalogTransaction PUnit
  | recordSource sourceId row =>
    update fun t => { t with sources := t.sources.put sourceId row }
  | recordQuarantine quarantineId row => do
    let t ← state
    rejectIf .sqlite (t.sources.find? row.sourceId).isNone
    update fun t => { t with quarantines := t.quarantines.put quarantineId row }
  | ensureEvidence evidenceId sourceId kind createdAtMs => do
    let t ← state
    rejectIf .sqlite (t.sources.find? sourceId).isNone
    update fun t => { t with evidence :=
      (t.evidence.insertOrIgnore evidenceId ⟨sourceId, kind, .unresolved, createdAtMs⟩).1 }
  | bumpEvidenceGeneration =>
    update fun t => { t with evidenceGeneration := t.evidenceGeneration + 1 }
  | storeResponse requestId command envelope => storeReceipt command requestId envelope .other

def importTransaction (statements : List ImportStatement) : CatalogTransaction PUnit :=
  atomically do
    let _ ← forEach ImportStatement.run statements
    pure ⟨⟩

structure CatalogPromotion where
  requestId : RequestId
  envelope : String
  expectedCatalogRevision : ℕ
  itemId : ItemId
  attributes : ItemAttributesV1
  evidenceId : EvidenceId
  sourceId : SourceId
  decisionId : DecisionId
  nowMs : ℤ

def promoteReceiptPurchaseUnit (promotion : CatalogPromotion) : CatalogTransaction PUnit :=
  atomically do
    let revision ← advanceRevision promotion.expectedCatalogRevision
    update fun t => { t with evidenceGeneration := t.evidenceGeneration + 1 }
    insertRow CatalogTables.items (fun table t => { t with items := table }) promotion.itemId
      ⟨promotion.attributes, true, revision, revision⟩
    let t ← state
    rejectIf .sqlite (t.sources.find? promotion.sourceId).isNone
    insertRow CatalogTables.evidence (fun table t => { t with evidence := table })
      promotion.evidenceId
      ⟨promotion.sourceId, .receiptPurchaseUnit, .assigned, promotion.nowMs⟩
    insertItemEvidence promotion.itemId revision promotion.evidenceId
    insertDecision promotion.decisionId
      ⟨promotion.requestId, .promoteReceiptPurchaseUnit, revision, none, none⟩
    insertEntity promotion.decisionId (.item promotion.itemId)
    insertEntity promotion.decisionId (.evidence promotion.evidenceId)
    storeReceipt "promote_receipt_purchase_unit_v1" promotion.requestId promotion.envelope .other

end Threadbook.Catalog
