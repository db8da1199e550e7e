import Threadbook.PurchaseUnit

/-!
# The catalog contract

What callers ask of the catalog and what they are answered: items, pieces of evidence and
their sources; the five commands that change the catalog; and the pages of the catalog and
of the inbox.
-/

namespace Threadbook.Catalog

open Promotion (ItemAttributesV1 ReplayStatusV1 RequestId)

/-! ## Identifiers -/

abbrev EvidenceId := ReceiptUuidId

abbrev DecisionId := ReceiptUuidId

abbrev QuarantineId := ReceiptUuidId

abbrev ImportRootId := ReceiptUuidId

/-! ## Snapshots -/

inductive ImportSourceKindV1
  | imageFile
  | emlFile
  | mboxFile
  | mboxMessage
  deriving DecidableEq

inductive SourceAvailabilityV1
  | present
  | missing
  | unavailable
  | quarantined
  deriving DecidableEq

inductive EvidenceKindV1
  | image
  | messageAttachment
  | receiptPurchaseUnit
  deriving DecidableEq

inductive EvidenceStateV1
  | unresolved
  | deferred
  | assigned
  | rejected
  deriving DecidableEq

structure SourceSnapshotV1 where
  sourceId : SourceId
  importRootId : Option ImportRootId
  parentSourceId : Option SourceId
  kind : ImportSourceKindV1
  availability : SourceAvailabilityV1
  provenanceLabel : String
  rawBlobSha256 : Option String
  deriving DecidableEq

structure EvidenceSnapshotV1 where
  evidenceId : EvidenceId
  source : SourceSnapshotV1
  kind : EvidenceKindV1
  state : EvidenceStateV1
  assignedItemId : Option ItemId
  reviewLabel : String
  deriving DecidableEq

structure QuarantineSnapshotV1 where
  quarantineId : QuarantineId
  source : SourceSnapshotV1
  code : String
  rawBlobPreserved : Bool
  noBlobReason : Option String
  deriving DecidableEq

structure CatalogItemV1 where
  itemId : ItemId
  attributes : ItemAttributesV1
  evidenceIds : List EvidenceId
  lastDecisionId : DecisionId

inductive DecisionKindV1
  | saveItem
  | decideEvidence
  | mergeItems
  | splitItem
  | promoteReceiptPurchaseUnit
  | undo
  deriving DecidableEq

structure DecisionSnapshotV1 where
  decisionId : DecisionId
  kind : DecisionKindV1
  affectedItemIds : List ItemId
  affectedEvidenceIds : List EvidenceId
  compensatesDecisionId : Option DecisionId
  reversible : Bool

/-! ## Commands -/

structure SaveItemV1Request where
  schemaVersion : ℕ
  requestId : RequestId
  itemId : Option ItemId
  attributes : ItemAttributesV1
  evidenceIds : List EvidenceId
  expectedCatalogRevision : ℕ

inductive EvidenceDecisionActionV1
  | assign
  | reject
  | defer
  deriving DecidableEq

structure DecideEvidenceV1Request where
  schemaVersion : ℕ
  requestId : RequestId
  evidenceId : EvidenceId
  action : EvidenceDecisionActionV1
  itemId : Option ItemId
  expectedCatalogRevision : ℕ

/-- A request to merge items into the first of them. Requests are only carried out once they
are validated, and a valid one names items. -/
structure MergeItemsV1Request where
  schemaVersion : ℕ
  requestId : RequestId
  itemIds : List ItemId
  targetAttributes : ItemAttributesV1
  expectedCatalogRevision : ℕ
  itemIds_ne_nil : itemIds ≠ []

structure SplitGroupV1 where
  attributes : ItemAttributesV1
  evidenceIds : List EvidenceId

structure SplitItemV1Request where
  schemaVersion : ℕ
  requestId : RequestId
  itemId : ItemId
  groups : List SplitGroupV1
  expectedCatalogRevision : ℕ

structure UndoDecisionV1Request where
  schemaVersion : ℕ
  requestId : RequestId
  decisionId : DecisionId
  expectedCatalogRevision : ℕ

inductive CatalogCommand
  | save (request : SaveItemV1Request)
  | decide (request : DecideEvidenceV1Request)
  | merge (request : MergeItemsV1Request)
  | split (request : SplitItemV1Request)
  | undo (request : UndoDecisionV1Request)

namespace CatalogCommand

def requestId : CatalogCommand → RequestId
  | save request => request.requestId
  | decide request => request.requestId
  | merge request => request.requestId
  | split request => request.requestId
  | undo request => request.requestId

def expectedCatalogRevision : CatalogCommand → ℕ
  | save request => request.expectedCatalogRevision
  | decide request => request.expectedCatalogRevision
  | merge request => request.expectedCatalogRevision
  | split request => request.expectedCatalogRevision
  | undo request => request.expectedCatalogRevision

def name : CatalogCommand → String
  | save _ => "save_item_v1"
  | decide _ => "decide_evidence_v1"
  | merge _ => "merge_items_v1"
  | split _ => "split_item_v1"
  | undo _ => "undo_decision_v1"

end CatalogCommand

inductive MutationContent
  | item (item : CatalogItemV1)
  | evidence (evidence : EvidenceSnapshotV1)
  | items (items : List CatalogItemV1)

/-- The answer to a command. The five answers differ in their content only. -/
structure MutationResponse where
  schemaVersion : ℕ
  requestId : RequestId
  content : MutationContent
  decision : DecisionSnapshotV1
  newCatalogRevision : ℕ
  replayStatus : ReplayStatusV1

/-- What the catalog relies on: the digest of bytes, and the bytes a request is stored as. -/
structure CatalogServices where
  digest : List UInt8 → String
  serialize : CatalogCommand → List UInt8

def envelopeHash (services : CatalogServices) (command : CatalogCommand) : String :=
  services.digest (services.serialize command)

/-- The identifier made of a text. -/
def stableId (services : CatalogServices) (kind input : String) : ReceiptUuidId :=
  digestUuid 4 (services.digest (utf8Bytes (kind ++ ":" ++ input)))

def decisionIdOf (services : CatalogServices) (requestId : RequestId) : DecisionId :=
  stableId services "decision" requestId.text

end Threadbook.Catalog
