import Threadbook.CatalogAttributes
import Threadbook.CatalogInvariant
import Threadbook.CatalogListing

/-!
# The catalog service

The five commands as the application offers them: the request is validated, the repository
carries it out, and the answer is validated once more before it is handed on. The second check
comes after the transaction is committed.
-/

namespace Threadbook.Catalog

open Promotion (ItemAttributesV1 RequestId)

/-! ## Limits -/

def maxEvidencePerMutation : ℕ := 32

def maxItemsPerMutation : ℕ := 32

def maxDecisionAffectedItems : ℕ := maxItemsPerMutation + 1

def maxProvenanceLabelChars : ℕ := 240

/-! ## Requests -/

def validateExpectedRevision (revision : ℕ) : Except ValidationError Unit :=
  if revision < maxSafeIntegerV1 then .ok () else .error ⟨.expectedCatalogRevision⟩

def SaveItemV1Request.validate (self : SaveItemV1Request) : Except ValidationError Unit := do
  requireSchemaV1 self.schemaVersion
  self.attributes.validate
  validateUniqueIds self.evidenceIds 0 maxEvidencePerMutation SafeFieldV1.evidenceId
  validateExpectedRevision self.expectedCatalogRevision

def DecideEvidenceV1Request.validate (self : DecideEvidenceV1Request) :
    Except ValidationError Unit := do
  requireSchemaV1 self.schemaVersion
  let assignmentIsValid := match self.action with
    | .assign => self.itemId.isSome
    | .reject | .defer => self.itemId.isNone
  if assignmentIsValid then validateExpectedRevision self.expectedCatalogRevision
  else .error ⟨SafeFieldV1.itemId⟩

def MergeItemsV1Request.validate (self : MergeItemsV1Request) : Except ValidationError Unit := do
  requireSchemaV1 self.schemaVersion
  self.targetAttributes.validate
  validateUniqueIds self.itemIds 2 maxItemsPerMutation SafeFieldV1.itemId
  validateExpectedRevision self.expectedCatalogRevision

def SplitGroupV1.validate (self : SplitGroupV1) : Except ValidationError Unit := do
  self.attributes.validate
  validateUniqueIds self.evidenceIds 1 maxEvidencePerMutation SafeFieldV1.evidenceId

def SplitItemV1Request.validate (self : SplitItemV1Request) : Except ValidationError Unit := do
  requireSchemaV1 self.schemaVersion
  if self.groups.length < 2 ∨ maxItemsPerMutation < self.groups.length then .error ⟨.collection⟩
  else do
    tryForEach SplitGroupV1.validate self.groups
    validateUniqueIds (self.groups.flatMap (·.evidenceIds)) 2 maxEvidencePerMutation
      SafeFieldV1.evidenceId
    validateExpectedRevision self.expectedCatalogRevision

def UndoDecisionV1Request.validate (self : UndoDecisionV1Request) :
    Except ValidationError Unit := do
  requireSchemaV1 self.schemaVersion
  validateExpectedRevision self.expectedCatalogRevision

def CatalogCommand.validate : CatalogCommand → Except ValidationError Unit
  | .save request => request.validate
  | .decide request => request.validate
  | .merge request => request.validate
  | .split request => request.validate
  | .undo request => request.validate

/-! ## Snapshots -/

def DecisionSnapshotV1.validate (self : DecisionSnapshotV1) : Except ValidationError Unit := do
  validateUniqueIds self.affectedItemIds 0 maxDecisionAffectedItems SafeFieldV1.itemId
  validateUniqueIds self.affectedEvidenceIds 0 maxEvidencePerMutation SafeFieldV1.evidenceId
  if decide (self.kind = .undo) ≠ self.compensatesDecisionId.isSome then .error ⟨.decisionId⟩
  else if self.kind = .promoteReceiptPurchaseUnit ∧ self.reversible = true then
    .error ⟨.decisionId⟩
  else .ok ()

def SourceSnapshotV1.validate (self : SourceSnapshotV1) : Except ValidationError Unit := do
  validateText self.provenanceLabel 1 maxProvenanceLabelChars .path
  validateWhenSome (fun digest => if ¬ isHash digest then .error ⟨.attributes⟩ else .ok ())
    self.rawBlobSha256

def assignmentIsValid (state : EvidenceStateV1) (assignedItemId : Option ItemId) : Bool :=
  match state with
  | .assigned => assignedItemId.isSome
  | .unresolved | .deferred | .rejected => assignedItemId.isNone

def EvidenceSnapshotV1.validate (self : EvidenceSnapshotV1) : Except ValidationError Unit := do
  self.source.validate
  validateText self.reviewLabel 1 maxProvenanceLabelChars .attributes
  if assignmentIsValid self.state self.assignedItemId then .ok ()
  else .error ⟨SafeFieldV1.itemId⟩

def CatalogItemV1.validate (self : CatalogItemV1) : Except ValidationError Unit := do
  self.attributes.validate
  validateUniqueIds self.evidenceIds 0 maxEvidencePerMutation SafeFieldV1.evidenceId

/-! ## Errors -/

/-- What went wrong, as callers are told. -/
inductive ErrorCodeV1
  | unsupportedSchemaVersion
  | invalidRequest
  | requestConflict
  | snapshotExpired
  | invalidState
  | storageUnavailable
  | permissionDenied
  | dataIntegrity
  | notFound
  | internal

inductive UserActionKeyV1
  | correctRequest
  | refreshCatalog
  | restartPaging
  | reviewInbox
  | retry
  | reviewStorage
  | restartApplication

structure CommandErrorV1 where
  schemaVersion : ℕ
  code : ErrorCodeV1
  retryable : Bool
  userAction : UserActionKeyV1
  field : Option SafeFieldV1

def CommandErrorV1.from (error : ValidationError) : CommandErrorV1 where
  schemaVersion := schemaVersionV1
  code := if error.field = .schemaVersion then .unsupportedSchemaVersion else .invalidRequest
  retryable := false
  userAction := .correctRequest
  field := some error.field

def internalDataError : CommandErrorV1 where
  schemaVersion := schemaVersionV1
  code := .dataIntegrity
  retryable := false
  userAction := .reviewStorage
  field := none

/-- The kinds of failures the repository reports. -/
inductive CatalogPortErrorKind
  | conflict
  | snapshotExpired
  | invalidState
  | unavailable
  | permissionDenied
  | dataIntegrity
  | notFound
  | internal

/-- The kind a failure of the repository is reported as. -/
def portError : PlatformError → CatalogPortErrorKind
  | .conflict "snapshot_expired" => .snapshotExpired
  | .conflict _ | .leaseLost => .conflict
  | .invalidInput "split_evidence_partition" | .invalidInput "evidence_id" => .invalidState
  | .invalidInput _ => .notFound
  | .corrupt _ => .dataIntegrity
  | .io .permissionDenied => .permissionDenied
  | .io _ | .sqlite => .unavailable
  | .json | .keychain _ | .unsupported _ => .internal

def mapCatalogError (kind : CatalogPortErrorKind) : CommandErrorV1 :=
  let (code, retryable, userAction) : ErrorCodeV1 × Bool × UserActionKeyV1 := match kind with
    | .conflict => (.requestConflict, true, .refreshCatalog)
    | .snapshotExpired => (.snapshotExpired, true, .restartPaging)
    | .invalidState => (.invalidState, false, .reviewInbox)
    | .unavailable => (.storageUnavailable, true, .retry)
    | .permissionDenied => (.permissionDenied, false, .reviewStorage)
    | .dataIntegrity => (.dataIntegrity, false, .reviewStorage)
    | .notFound => (.notFound, false, .correctRequest)
    | .internal => (.internal, true, .restartApplication)
  ⟨schemaVersionV1, code, retryable, userAction, none⟩

/-! ## Answers -/

abbrev CommandResult (α : Type) : Type := Except CommandErrorV1 α

def fails (check : Except ValidationError Unit) : Bool := !check.isOk

def validateResponseHeader (schemaVersion : ℕ) (responseRequestId expectedRequestId : RequestId) :
    CommandResult Unit :=
  if schemaVersion = schemaVersionV1 ∧ responseRequestId = expectedRequestId then .ok ()
  else .error internalDataError

/-- The revision after this one, if a number of 64 bits holds it. -/
def checkedNext (revision : ℕ) : Option ℕ :=
  if revision + 1 < u64Bound then some (revision + 1) else none

def validateMutation (response : MutationResponse) (expectedRequestId : RequestId)
    (expectedRevision : ℕ) (expectedKind : DecisionKindV1) : CommandResult Unit := do
  validateResponseHeader response.schemaVersion response.requestId expectedRequestId
  if checkedNext expectedRevision ≠ some response.newCatalogRevision ∨
      response.decision.kind ≠ expectedKind ∨ fails response.decision.validate then
    .error internalDataError
  else .ok ()

def SaveItemV1Request.accepts (self : SaveItemV1Request) (item : CatalogItemV1) : Bool :=
  !(fails item.validate || self.itemId.any (fun itemId => itemId ≠ item.itemId) ||
    item.evidenceIds ≠ self.evidenceIds)

def DecideEvidenceV1Request.accepts (self : DecideEvidenceV1Request)
    (decision : DecisionSnapshotV1) (evidence : EvidenceSnapshotV1) : Bool :=
  !(fails evidence.validate || evidence.evidenceId ≠ self.evidenceId ||
    evidence.state ≠ self.action.state || evidence.assignedItemId ≠ self.itemId ||
    !decision.affectedEvidenceIds.contains self.evidenceId)

def MergeItemsV1Request.accepts (self : MergeItemsV1Request) (decision : DecisionSnapshotV1)
    (item : CatalogItemV1) : Bool :=
  !(fails item.validate || !self.itemIds.contains item.itemId ||
    !self.itemIds.all fun id => decision.affectedItemIds.contains id)

def SplitItemV1Request.accepts (self : SplitItemV1Request) (decision : DecisionSnapshotV1)
    (items : List CatalogItemV1) : Bool :=
  let expectedEvidence := (self.groups.flatMap (·.evidenceIds)).insertionSort (· ≤ ·)
  let actualEvidence := (items.flatMap (·.evidenceIds)).insertionSort (· ≤ ·)
  !(items.length ≠ self.groups.length || items.any (fun item => fails item.validate) ||
    expectedEvidence ≠ actualEvidence || !decision.affectedItemIds.contains self.itemId)

def UndoDecisionV1Request.accepts (self : UndoDecisionV1Request) (decision : DecisionSnapshotV1)
    (restoredItems : List CatalogItemV1) : Bool :=
  !(decision.compensatesDecisionId ≠ some self.decisionId ||
    restoredItems.any fun item => fails item.validate)

def CatalogCommand.kind : CatalogCommand → DecisionKindV1
  | .save _ => .saveItem
  | .decide _ => .decideEvidence
  | .merge _ => .mergeItems
  | .split _ => .splitItem
  | .undo _ => .undo

def MutationContent.item? : MutationContent → Option CatalogItemV1
  | item snapshot => some snapshot
  | evidence _ | items _ => none

def MutationContent.evidence? : MutationContent → Option EvidenceSnapshotV1
  | evidence snapshot => some snapshot
  | item _ | items _ => none

def MutationContent.items? : MutationContent → Option (List CatalogItemV1)
  | items snapshots => some snapshots
  | item _ | evidence _ => none

def CatalogCommand.accepts (command : CatalogCommand) (response : MutationResponse) : Bool :=
  match command with
  | .save request => response.content.item?.any request.accepts
  | .decide request => response.content.evidence?.any (request.accepts response.decision)
  | .merge request => response.content.item?.any (request.accepts response.decision)
  | .split request => response.content.items?.any (request.accepts response.decision)
  | .undo request => response.content.items?.any (request.accepts response.decision)

def CatalogCommand.handOn (command : CatalogCommand) (response : MutationResponse) :
    CommandResult MutationResponse := do
  validateMutation response command.requestId command.expectedCatalogRevision command.kind
  if command.accepts response then .ok response else .error internalDataError

def CatalogCommand.serve (services : CatalogServices) (command : CatalogCommand)
    (t : CatalogTables) : CommandResult MutationResponse × CatalogTables :=
  match command.validate with
  | .error error => (.error (.from error), t)
  | .ok () =>
    match command.execute services t with
    | (.error error, t') => (.error (mapCatalogError (portError error)), t')
    | (.ok response, t') => (command.handOn response, t')

end Threadbook.Catalog
