import Threadbook.CatalogContract
import Threadbook.Table

/-!
# The tables of the catalog

Items, evidence and the links between them, with the decisions that changed them. A link is
a row of `item_evidence`; a piece of evidence is in at most one (`UNIQUE`), so links are kept
under their evidence. Statements that violate a key are errors; the others are functions.
-/

namespace Threadbook.Catalog

open Fallible

open Promotion (ItemAttributesV1 RequestId)

/-! ## Rows -/

/-- A row of `catalog_items`. -/
structure ItemRow where
  attributes : ItemAttributesV1
  active : Bool
  createdRevision : ℕ
  updatedRevision : ℕ

/-- A row of `evidence`. -/
structure EvidenceRow where
  sourceId : SourceId
  kind : EvidenceKindV1
  state : EvidenceStateV1
  createdAtMs : ℤ

/-- A row of `item_evidence`, under its evidence. -/
structure LinkRow where
  itemId : ItemId
  assignedRevision : ℕ

/-- A row of `local_sources`. -/
structure SourceRow where
  rootId : Option ImportRootId
  parentSourceId : Option SourceId
  kind : ImportSourceKindV1
  status : SourceAvailabilityV1
  canonicalLocator : String
  rawSha256 : Option String
  blobSha256 : Option String
  noBlobReason : Option String

/-- A row of `quarantine_records`. -/
structure QuarantineRow where
  sourceId : SourceId
  reasonCode : String
  createdAtMs : ℤ

structure StoredItem where
  itemId : ItemId
  attributes : ItemAttributesV1
  active : Bool
  createdRevision : ℕ
  updatedRevision : ℕ

/-- A piece of evidence as it was before a decision. -/
structure StoredEvidence where
  evidenceId : EvidenceId
  state : EvidenceStateV1
  assignedItemId : Option ItemId

/-- What undoing a decision restores. -/
structure ProjectionSnapshot where
  affectedItemIds : List ItemId
  items : List StoredItem
  evidence : List StoredEvidence

inductive StoredKind
  | save
  | assign
  | reject
  | defer
  | merge
  | split
  | undo
  | promoteReceiptPurchaseUnit
  deriving DecidableEq

def StoredKind.snapshot : StoredKind → DecisionKindV1
  | save => .saveItem
  | assign | reject | defer => .decideEvidence
  | merge => .mergeItems
  | split => .splitItem
  | promoteReceiptPurchaseUnit => .promoteReceiptPurchaseUnit
  | undo => .undo

/-- A row of `catalog_decisions`. A promotion's has no inverse. -/
structure DecisionRow where
  requestId : RequestId
  kind : StoredKind
  catalogRevision : ℕ
  inverse : Option ProjectionSnapshot
  compensatesDecisionId : Option DecisionId

/-- What a row of `decision_entities` names. -/
inductive DecisionEntity
  | item (id : ItemId)
  | evidence (id : EvidenceId)
  deriving DecidableEq

/-- What a command answered; `other` stands for the commands of other components. -/
inductive CommandResponse
  | catalog (response : MutationResponse)
  | other

/-- A row of `command_receipts`. -/
structure CommandReceiptRow where
  commandName : String
  envelopeHash : String
  response : CommandResponse

/-! ## Tables -/

structure CatalogTables where
  catalogRevision : ℕ
  evidenceGeneration : ℕ
  items : Table ItemId ItemRow
  evidence : Table EvidenceId EvidenceRow
  itemEvidence : Table EvidenceId LinkRow
  sources : Table SourceId SourceRow
  quarantines : Table QuarantineId QuarantineRow
  decisions : Table DecisionId DecisionRow
  decisionEntities : Table (DecisionId × DecisionEntity) PUnit
  commandReceipts : Table RequestId CommandReceiptRow

abbrev CatalogTransaction (α : Type) : Type := Fallible CatalogTables PlatformError α

/-! ## Reads -/

def itemEvidenceIds (t : CatalogTables) (itemId : ItemId) : List EvidenceId :=
  ((t.itemEvidence.rows.filter fun row => row.2.itemId = itemId).map Prod.fst).insertionSort
    (· ≤ ·)

def sortedDedup (ids : List ReceiptUuidId) : List ReceiptUuidId :=
  (ids.insertionSort (· ≤ ·)).dedup

def evidenceForItems (t : CatalogTables) (itemIds : List ItemId) : List EvidenceId :=
  sortedDedup (itemIds.flatMap (itemEvidenceIds t))

def CatalogTables.linkOf (t : CatalogTables) (evidenceId : EvidenceId) : Option ItemId :=
  (t.itemEvidence.find? evidenceId).map (·.itemId)

def requireActiveItem (t : CatalogTables) (itemId : ItemId) : Except PlatformError Unit :=
  match t.items.find? itemId with
  | none => .error (.invalidInput "item_id")
  | some row => if row.active then .ok () else .error (.invalidInput "item_id")

def ensureAssignable (t : CatalogTables) (evidenceIds : List EvidenceId) (targetItem : ItemId) :
    Except PlatformError Unit := do
  let _ ← evidenceIds.mapM fun evidenceId =>
    if (t.evidence.find? evidenceId).isNone then .error (.invalidInput "evidence_id")
    else match t.linkOf evidenceId with
      | none => .ok ()
      | some item =>
        if item ≠ targetItem then .error (.conflict "evidence_already_assigned")
        else .ok ()
  .ok ()

/-- Read what undoing a decision about these items and this evidence restores. -/
def captureProjection (t : CatalogTables) (itemIds : List ItemId)
    (evidenceIds : List EvidenceId) : ProjectionSnapshot where
  affectedItemIds := itemIds
  items := itemIds.filterMap fun itemId => (t.items.find? itemId).map fun row =>
    ⟨itemId, row.attributes, row.active, row.createdRevision, row.updatedRevision⟩
  evidence := evidenceIds.filterMap fun evidenceId => (t.evidence.find? evidenceId).map fun row =>
    ⟨evidenceId, row.state, t.linkOf evidenceId⟩

def decisionsOf (t : CatalogTables) (itemId : ItemId) : List (DecisionId × DecisionRow) :=
  t.decisions.rows.filter fun row => (t.decisionEntities.find? (row.1, .item itemId)).isSome

def lastDecision (t : CatalogTables) (itemId : ItemId) : Option DecisionId :=
  ((decisionsOf t itemId).argmax fun row => row.2.catalogRevision).map Prod.fst

def loadCatalogItem (t : CatalogTables) (itemId : ItemId) : Except PlatformError CatalogItemV1 :=
  match t.items.find? itemId with
  | none => .error (.invalidInput "item_id")
  | some row =>
    if !row.active then .error (.invalidInput "item_id")
    else match lastDecision t itemId with
      | none => .error (.corrupt "item_decision_missing")
      | some decisionId => .ok ⟨itemId, row.attributes, itemEvidenceIds t itemId, decisionId⟩

/-- The first characters of a locator, or a text that stands in for none. -/
def locatorLabel (fallback locator : String) : String :=
  if (locator.toList.take 240).isEmpty then fallback else String.ofList (locator.toList.take 240)

def loadSource (t : CatalogTables) (sourceId : SourceId) :
    Except PlatformError SourceSnapshotV1 :=
  match t.sources.find? sourceId with
  | none => .error (.invalidInput "source_id")
  | some row => .ok ⟨sourceId, row.rootId, row.parentSourceId, row.kind, row.status,
      locatorLabel "Imported source" row.canonicalLocator, row.rawSha256⟩

def loadEvidence (t : CatalogTables) (evidenceId : EvidenceId) :
    Except PlatformError EvidenceSnapshotV1 :=
  match t.evidence.find? evidenceId with
  | none => .error (.invalidInput "evidence_id")
  | some row =>
    match t.sources.find? row.sourceId with
    | none => .error (.invalidInput "evidence_id")
    | some joined => do
      let source ← loadSource t row.sourceId
      .ok ⟨evidenceId, source, row.kind, row.state, t.linkOf evidenceId,
        locatorLabel "Imported evidence" joined.canonicalLocator⟩

/-! ## Statements -/

def insertRow {κ ρ : Type} [DecidableEq κ] (table : CatalogTables → Table κ ρ)
    (store : Table κ ρ → CatalogTables → CatalogTables) (key : κ) (row : ρ) :
    CatalogTransaction PUnit := do
  let t ← state
  rejectIf .sqlite ((table t).find? key).isSome
  update (store ((table t).put key row))

def advanceRevision (expected : ℕ) : CatalogTransaction ℕ := do
  let t ← state
  rejectIf (.conflict "catalog_revision") (t.catalogRevision ≠ expected)
  update fun t => { t with catalogRevision := t.catalogRevision + 1 }
  pure (expected + 1)

def ItemRow.deactivated (revision : ℕ) (self : ItemRow) : ItemRow :=
  { self with active := false, updatedRevision := revision }

def LinkRow.moved (target source : ItemId) (revision : ℕ) (self : LinkRow) : LinkRow :=
  if self.itemId = source then ⟨target, revision⟩ else self

namespace CatalogTables

def upsertItem (itemId : ItemId) (attributes : ItemAttributesV1) (revision : ℕ)
    (t : CatalogTables) : CatalogTables :=
  let created := ((t.items.find? itemId).map (·.createdRevision)).getD revision
  { t with items := t.items.put itemId ⟨attributes, true, created, revision⟩ }

def restoreItem (item : StoredItem) (revision : ℕ) (t : CatalogTables) : CatalogTables :=
  let created := ((t.items.find? item.itemId).map (·.createdRevision)).getD item.createdRevision
  { t with items := t.items.put item.itemId ⟨item.attributes, item.active, created, revision⟩ }

def deactivateItem (itemId : ItemId) (revision : ℕ) (t : CatalogTables) : CatalogTables :=
  { t with items := t.items.modify (ItemRow.deactivated revision) itemId }

def deleteItemEvidenceByItem (itemId : ItemId) (t : CatalogTables) : CatalogTables :=
  { t with itemEvidence := t.itemEvidence.deleteWhere fun link => link.itemId = itemId }

def deleteItemEvidenceByEvidence (evidenceId : EvidenceId) (t : CatalogTables) :
    CatalogTables :=
  { t with itemEvidence := t.itemEvidence.delete evidenceId }

def moveItemEvidence (target source : ItemId) (revision : ℕ) (t : CatalogTables) :
    CatalogTables :=
  { t with itemEvidence := t.itemEvidence.mapRows (LinkRow.moved target source revision) }

def setEvidenceState (state : EvidenceStateV1) (evidenceId : EvidenceId) (t : CatalogTables) :
    CatalogTables :=
  { t with evidence := t.evidence.modify (fun row => { row with state }) evidenceId }

end CatalogTables

def insertItemEvidence (itemId : ItemId) (revision : ℕ) (evidenceId : EvidenceId) :
    CatalogTransaction PUnit := do
  let t ← state
  rejectIf .sqlite
    ((t.items.find? itemId).isNone ∨ (t.evidence.find? evidenceId).isNone)
  insertRow CatalogTables.itemEvidence (fun table t => { t with itemEvidence := table })
    evidenceId ⟨itemId, revision⟩

/-- Make these the links of an item. What was linked to it before is unresolved again. -/
def setItemEvidence (itemId : ItemId) (evidenceIds : List EvidenceId) (revision : ℕ) :
    CatalogTransaction PUnit := do
  let t ← state
  let previous := itemEvidenceIds t itemId
  update (CatalogTables.deleteItemEvidenceByItem itemId)
  update fun t =>
    previous.foldl (fun t evidenceId => t.setEvidenceState .unresolved evidenceId) t
  let _ ← forEach (fun evidenceId => do
    insertItemEvidence itemId revision evidenceId
    update (CatalogTables.setEvidenceState .assigned evidenceId)) evidenceIds
  pure ⟨⟩

def restoreProjection (snapshot : ProjectionSnapshot) (revision : ℕ) :
    CatalogTransaction PUnit := do
  update fun t => snapshot.affectedItemIds.foldl (fun t itemId =>
    let t := t.deleteItemEvidenceByItem itemId
    if snapshot.items.any fun item => item.itemId = itemId then t
    else t.deactivateItem itemId revision) t
  update fun t => snapshot.items.foldl (fun t item => t.restoreItem item revision) t
  let _ ← forEach (fun stored : StoredEvidence => do
    update (CatalogTables.deleteItemEvidenceByEvidence stored.evidenceId)
    update (CatalogTables.setEvidenceState stored.state stored.evidenceId)
    match stored.assignedItemId with
    | none => pure ⟨⟩
    | some itemId => insertItemEvidence itemId revision stored.evidenceId) snapshot.evidence
  pure ⟨⟩

/-- Name an item or a piece of evidence in a decision. -/
def insertEntity (decisionId : DecisionId) (entity : DecisionEntity) : CatalogTransaction PUnit :=
  insertRow CatalogTables.decisionEntities (fun table t => { t with decisionEntities := table })
    (decisionId, entity) ⟨⟩

def insertDecision (decisionId : DecisionId) (row : DecisionRow) : CatalogTransaction PUnit := do
  let t ← state
  rejectIf .sqlite (t.decisions.rows.any fun other =>
    other.2.requestId = row.requestId || other.2.catalogRevision = row.catalogRevision)
  rejectIf .sqlite (row.compensatesDecisionId.any fun compensated =>
    (t.decisions.find? compensated).isNone)
  insertRow CatalogTables.decisions (fun table t => { t with decisions := table }) decisionId row

def appendDecision (services : CatalogServices) (requestId : RequestId) (kind : StoredKind)
    (revision : ℕ) (inverse : ProjectionSnapshot) (compensates : Option DecisionId)
    (itemIds : List ItemId) (evidenceIds : List EvidenceId) :
    CatalogTransaction DecisionSnapshotV1 := do
  let decisionId := decisionIdOf services requestId
  insertDecision decisionId ⟨requestId, kind, revision, some inverse, compensates⟩
  let _ ← forEach (fun itemId => insertEntity decisionId (.item itemId)) itemIds
  let _ ← forEach (fun evidenceId => insertEntity decisionId (.evidence evidenceId))
    evidenceIds
  pure ⟨decisionId, kind.snapshot, itemIds, evidenceIds, compensates, true⟩

end Threadbook.Catalog
