import Threadbook.GmailSync
import Threadbook.Table

/-!
# The Gmail repository: tables and `commitBatch`

The tables a Gmail commit reads and writes, each under its primary key, and the
one transaction that writes them. Identifiers the source derives by hashing are
modelled by the data they hash: a provider source is its account and message, an
available revision is its provider source and history id, and the local source,
its provenance and its parts belong to the revision they were made for. A history
id column holds the text of a `HistoryId`, so its type is `HistoryId`.

What lies outside the repository comes in through `Materializer`: the MIME parser,
the digest and the serializers.
-/

namespace Threadbook

open Fallible

/-! ## Rows -/

inductive Availability
  | available
  | unavailable
  deriving DecidableEq

structure ProviderSourceId where
  accountKey : String
  gmailMessageId : String
  deriving DecidableEq

structure RevisionId where
  providerSource : ProviderSourceId
  historyId : HistoryId
  deriving DecidableEq

structure LocalSourceId where
  revision : RevisionId
  deriving DecidableEq

structure ProvenanceId where
  revision : RevisionId
  deriving DecidableEq

/-- How a MIME part's body was read. -/
inductive BodyKind
  | text
  | html
  | binary
  | multipart
  | message
  | empty

structure PreparedMimePart where
  ordinal : ℕ
  parentOrdinal : Option ℕ
  contentType : String
  disposition : Option String
  contentId : Option String
  bodyKind : BodyKind
  decodedBytes : ℕ
  isImage : Bool

/-- A row of `gmail_scopes`. -/
structure ScopeRow where
  accountKey : String
  scopeFingerprint : String
  labelId : String
  parserRevision : String
  materializationRevision : String
  discoveryKind : String
  discoveryValue : String

/-- A row of `gmail_source_revisions`. -/
structure RevisionRow where
  availability : Availability
  reason : String
  graphSha256 : String

/-- A row of `local_sources`. -/
structure LocalSourceRow where
  blobSha256 : Option String
  byteLength : Option ℕ
  status : String
  noBlobReason : Option String

/-- A row of `gmail_revision_materializations`. -/
structure MaterializationRow where
  localSource : LocalSourceId
  provenance : ProvenanceId
  blobSha256 : Option String
  mimeManifestSha256 : String
  evidenceManifestSha256 : String

/-- A row of `gmail_source_heads`. -/
structure SourceHeadRow where
  headRevision : RevisionId
  availability : Availability

/-- The key of `gmail_scope_availability_observations`. -/
structure ObservationKey where
  scopeId : String
  providerSource : ProviderSourceId
  historyId : HistoryId
  deriving DecidableEq

/-- A row of `gmail_scope_availability_observations`. -/
structure ObservationRow where
  accountKey : String
  availableRevision : Option RevisionId
  availability : Availability
  reason : String
  deriving DecidableEq

/-- A row of `gmail_scope_availability_heads`. -/
structure ScopeHeadRow where
  accountKey : String
  headHistoryId : HistoryId
  availability : Availability

/-- A row of `gmail_operations`. -/
structure OperationRow where
  stage : String
  responseJson : Option String

/-- The row of `gmail_connector_state`. -/
structure ConnectorStateRow where
  status : String
  accountKey : Option String
  scopeId : Option String
  revocationState : Option String

/-- A row of `command_receipts`. -/
structure ReceiptRow where
  commandName : String
  envelopeHash : String
  responseJson : String

structure GmailTables where
  /-- `gmail_accounts`: the credential locator of each account -/
  accounts : Table String (Option String)
  /-- `gmail_scopes` by scope id -/
  scopes : Table String ScopeRow
  /-- `gmail_checkpoints` by scope id -/
  checkpoints : Table String HistoryId
  /-- `gmail_provider_sources`: account and message -/
  providerSources : Table ProviderSourceId (String × String)
  /-- `gmail_scope_sources`: the account of each (scope, provider source) -/
  scopeSources : Table (String × ProviderSourceId) String
  /-- `gmail_source_revisions` -/
  sourceRevisions : Table RevisionId RevisionRow
  /-- `gmail_revision_materializations` -/
  materializations : Table RevisionId MaterializationRow
  /-- `local_sources` of Gmail revisions -/
  localSources : Table LocalSourceId LocalSourceRow
  /-- `source_provenance` of Gmail revisions: the blob observed -/
  provenance : Table ProvenanceId (Option String)
  /-- `mime_parts` and `evidence` of a local source, in ordinal order -/
  mimeParts : Table LocalSourceId (List PreparedMimePart)
  /-- `blobs`: the length of each blob -/
  blobs : Table String ℕ
  /-- `gmail_source_heads` -/
  sourceHeads : Table ProviderSourceId SourceHeadRow
  /-- `gmail_scope_availability_observations` -/
  observations : Table ObservationKey ObservationRow
  /-- `gmail_scope_availability_heads` -/
  scopeHeads : Table (String × ProviderSourceId) ScopeHeadRow
  /-- `revision_state.evidence_generation` -/
  evidenceGeneration : ℕ
  /-- `gmail_operation_revisions` -/
  operationRevisions : Table (String × RevisionId) Unit
  /-- `gmail_operations` by request id -/
  operations : Table String OperationRow
  /-- `gmail_connector_state` -/
  connectorState : ConnectorStateRow
  /-- `command_receipts` by request id -/
  commandReceipts : Table String ReceiptRow

/-! ## What the repository relies on -/

inductive GmailSyncCommandKind
  | connect
  | sync

structure GmailSyncSummaryV1 where
  pagesScanned : ℕ
  uniqueMessages : ℕ
  messagesImported : ℕ
  messagesUpdated : ℕ
  messagesUnavailable : ℕ
  rawBytesRead : ℕ

structure Materializer where
  prepareMessageParts : List UInt8 → Option (List PreparedMimePart)
  digest : List UInt8 → String
  mimeJson : List PreparedMimePart → List UInt8
  ordinalsJson : List ℕ → List UInt8
  responseJson : GmailSyncCommandKind → String → GmailSyncSummaryV1 → String
  isUuid : String → Bool

/-- The manifest digest of an effect without parts. -/
def emptyManifestSha256 : String :=
  "e3b0c44298fc1c149afbf4c8996fb92427ae41e4649b934ca495991b7852b855"

/-! ## Preparing the effects -/

structure PreparedBlobMetadata where
  sha256 : String
  byteLength : ℕ

/-- An effect with everything the transaction stores for it. -/
structure PreparedEffect where
  messageId : String
  historyId : HistoryId
  availability : Availability
  reason : String
  graphSha256 : String
  blob : Option PreparedBlobMetadata
  mimeManifestSha256 : String
  evidenceManifestSha256 : String
  parts : List PreparedMimePart

def imageOrdinals (parts : List PreparedMimePart) : List ℕ :=
  (parts.filter PreparedMimePart.isImage).map PreparedMimePart.ordinal

def prepareEffect (m : Materializer) : RevisionEffect → Except SyncError PreparedEffect
  | .available messageId revision raw =>
    match m.prepareMessageParts raw with
    | none => .error .malformedResponse
    | some parts =>
      if gmailRawMessageLimit < raw.length then .error .store
      else
        let blob : PreparedBlobMetadata := ⟨m.digest raw, raw.length⟩
        let mimeManifest := m.digest (m.mimeJson parts)
        let evidenceManifest := m.digest (m.ordinalsJson (imageOrdinals parts))
        .ok {
          messageId
          historyId := revision
          availability := .available
          reason := "materialized"
          graphSha256 := m.digest (utf8Bytes ("available\x00" ++ blob.sha256 ++ "\x00" ++
            mimeManifest ++ "\x00" ++ evidenceManifest))
          blob := some blob
          mimeManifestSha256 := mimeManifest
          evidenceManifestSha256 := evidenceManifest
          parts }
  | .unavailable messageId revision reason =>
    .ok {
      messageId
      historyId := revision
      availability := .unavailable
      reason := reason.asDb
      graphSha256 := m.digest (utf8Bytes ("unavailable\x00" ++ reason.asDb ++ "\x00" ++
        emptyManifestSha256))
      blob := none
      mimeManifestSha256 := emptyManifestSha256
      evidenceManifestSha256 := emptyManifestSha256
      parts := [] }

def prepareEffects (m : Materializer) (seen : Finset (String × HistoryId)) :
    List RevisionEffect → Except SyncError (List PreparedEffect)
  | [] => .ok []
  | effect :: rest =>
    if (effect.messageId, effect.revision) ∈ seen then .error .revisionCollision
    else do
      let prepared ← prepareEffect m effect
      let others ← prepareEffects m (insert (effect.messageId, effect.revision) seen) rest
      .ok (prepared :: others)

/-! ## Scopes -/

structure GmailScopeInitialization where
  accountKey : String
  credentialLocator : String
  scopeId : String
  scopeFingerprint : String
  storageScopeKey : String
  discoveryKind : String
  discoveryValue : String
  parserRevision : String
  materializationRevision : String
  createdAtMs : ℤ

def isRevisionName (value : String) : Bool :=
  ¬ value.isEmpty ∧ byteLength value ≤ 128 ∧ value.toList.all isProviderChar

def isDiscovery (kind value : String) : Bool :=
  let validValue := ¬ value.isEmpty ∧ byteLength value ≤ 2048 ∧ ¬ value.toList.any isControl
  if kind = "search" then validValue
  else if kind = "label" then validValue ∧ value.toList.length ≤ 256
  else false

def validateScopeInitialization (isUuid : String → Bool) (i : GmailScopeInitialization) :
    Except SyncError Unit :=
  if isHash i.accountKey ∧ isHash i.scopeFingerprint ∧
      (validateProviderValue i.storageScopeKey).toOption.isSome ∧
      isDiscovery i.discoveryKind i.discoveryValue ∧ isRevisionName i.parserRevision ∧
      isRevisionName i.materializationRevision ∧ isUuid i.scopeId ∧
      ¬ i.credentialLocator.isEmpty ∧ 0 ≤ i.createdAtMs then .ok ()
  else .error .invalidConfiguration

/-- Changes and checks inside one transaction. -/
abbrev Transaction (α : Type) : Type := Fallible GmailTables SyncError α

def initializeAccount (i : GmailScopeInitialization) : Transaction Unit := do
  let t ← state
  match t.accounts.find? i.accountKey with
  | some (some _) => pure ()
  | _ =>
    rejectIf .store (∃ row ∈ t.accounts.rows, row.2 = some i.credentialLocator)
    update fun t =>
      { t with accounts := t.accounts.put i.accountKey (some i.credentialLocator) }

def findScope (t : GmailTables) (accountKey scopeFingerprint : String) :
    Option (String × ScopeRow) :=
  t.scopes.rows.find? fun row =>
    row.2.accountKey = accountKey ∧ row.2.scopeFingerprint = scopeFingerprint

def initializeScope (i : GmailScopeInitialization) : Transaction Unit := do
  let t ← state
  match findScope t i.accountKey i.scopeFingerprint with
  | some _ => pure ()
  | none =>
    rejectIf .store ((t.scopes.find? i.scopeId).isSome)
    update fun t => { t with
      scopes := t.scopes.put i.scopeId ⟨i.accountKey, i.scopeFingerprint, i.storageScopeKey,
        i.parserRevision, i.materializationRevision, i.discoveryKind, i.discoveryValue⟩ }

def initializeGmailScope (i : GmailScopeInitialization) : Transaction Unit := do
  initializeAccount i
  let t ← state
  rejectIf .store (t.accounts.find? i.accountKey ≠ some (some i.credentialLocator))
  initializeScope i
  let t ← state
  rejectIf .store
    ((findScope t i.accountKey i.scopeFingerprint).map (fun row =>
      (row.1, row.2.labelId, row.2.discoveryKind, row.2.discoveryValue)) ≠
      some (i.scopeId, i.storageScopeKey, i.discoveryKind, i.discoveryValue))

def ensureScopeKey (key : SyncKey) (t : GmailTables) : Except SyncError Unit :=
  if (t.scopes.find? key.scopeId).map (fun row => (row.accountKey, row.labelId)) ≠
      some (key.accountKey, key.labelId) then .error .invalidConfiguration
  else .ok ()

/-! ## The steps of the transaction -/

def compareCheckpoint (key : SyncKey) (expected : Option String) (t : GmailTables) :
    Except SyncError Unit :=
  if (t.checkpoints.find? key.scopeId).map HistoryId.text ≠ expected then .error .compareAndSwap
  else .ok ()

def providerSourceId (key : SyncKey) (messageId : String) : ProviderSourceId :=
  ⟨key.accountKey, messageId⟩

/-- Record the message; says whether it is new. -/
def ensureProviderSource (key : SyncKey) (messageId : String) : Transaction Bool := do
  check (validateProviderValue messageId)
  let id := providerSourceId key messageId
  let t ← state
  let (providerSources, inserted) := t.providerSources.insertOrIgnore id (key.accountKey, messageId)
  update fun t => { t with providerSources }
  rejectIf .revisionCollision
    (providerSources.find? id ≠ some (key.accountKey, messageId))
  pure inserted

/-- Record that the scope has seen the message. -/
def ensureScopeMembership (key : SyncKey) (source : ProviderSourceId) : Transaction Unit :=
  update fun t => { t with
    scopeSources := (t.scopeSources.insertOrIgnore (key.scopeId, source) key.accountKey).1 }

def advanceAvailableHead (source : ProviderSourceId) (revision : RevisionId)
    (historyId : HistoryId) (availability : Availability) : Transaction Unit :=
  update fun t =>
    let shouldAdvance := match t.sourceHeads.find? source with
      | none => true
      | some head => decide (head.headRevision.historyId < historyId)
    if shouldAdvance then
      { t with sourceHeads := t.sourceHeads.put source ⟨revision, availability⟩ }
    else t

def actualMaterializationManifests (m : Materializer) (t : GmailTables) (source : LocalSourceId)
    (expectedPartCount : ℕ) : Except SyncError (String × String) :=
  let parts := (t.mimeParts.find? source).getD []
  if parts.length ≠ expectedPartCount then .error .revisionCollision
  else .ok (m.digest (m.mimeJson parts), m.digest (m.ordinalsJson (imageOrdinals parts)))

def materializationMatches (m : Materializer) (t : GmailTables) (revision : RevisionId)
    (effect : PreparedEffect) : Except SyncError Bool := do
  let expectedBlob := effect.blob.map PreparedBlobMetadata.sha256
  match t.materializations.find? revision with
  | none => .ok false
  | some row =>
    match t.localSources.find? row.localSource, t.provenance.find? row.provenance with
    | some source, some provenanceBlob => do
      let (actualMime, actualEvidence) ←
        actualMaterializationManifests m t row.localSource effect.parts.length
      .ok (decide (row.blobSha256 = expectedBlob ∧
        row.mimeManifestSha256 = effect.mimeManifestSha256 ∧
        row.evidenceManifestSha256 = effect.evidenceManifestSha256 ∧
        actualMime = row.mimeManifestSha256 ∧ actualEvidence = row.evidenceManifestSha256 ∧
        source.status = (if effect.blob.isSome then "imported" else "unavailable") ∧
        source.noBlobReason = (if effect.blob.isSome then none else some effect.reason) ∧
        source.blobSha256 = expectedBlob ∧ provenanceBlob = expectedBlob))
    | _, _ => .ok false

def insertBlob (blob : PreparedBlobMetadata) : Transaction Unit := do
  let t ← state
  let (blobs, _) := t.blobs.insertOrIgnore blob.sha256 blob.byteLength
  update fun t => { t with blobs }
  rejectIf .revisionCollision (blobs.find? blob.sha256 ≠ some blob.byteLength)

def insertRevision (revision : RevisionId) (effect : PreparedEffect) : Transaction Unit := do
  let t ← state
  let localSource : LocalSourceId := ⟨revision⟩
  let provenanceId : ProvenanceId := ⟨revision⟩
  let blobSha256 := effect.blob.map PreparedBlobMetadata.sha256
  rejectIf .store ((t.sourceRevisions.find? revision).isSome)
  update fun t => { t with
    sourceRevisions := t.sourceRevisions.put revision
      ⟨effect.availability, effect.reason, effect.graphSha256⟩ }
  match effect.blob with
  | some blob => insertBlob blob
  | none => pure ()
  rejectIf .store ((t.localSources.find? localSource).isSome ∨
    (t.provenance.find? provenanceId).isSome ∨ (t.materializations.find? revision).isSome)
  update fun t => { t with
    localSources := t.localSources.put localSource ⟨blobSha256,
      effect.blob.map PreparedBlobMetadata.byteLength,
      if effect.blob.isSome then "imported" else "unavailable",
      if effect.blob.isSome then none else some effect.reason⟩
    provenance := t.provenance.put provenanceId blobSha256
    mimeParts := t.mimeParts.put localSource effect.parts
    materializations := t.materializations.put revision ⟨localSource, provenanceId, blobSha256,
      effect.mimeManifestSha256, effect.evidenceManifestSha256⟩ }

/-- Store an available revision, or recognise the one already stored; says whether
it is new. -/
def insertOrReplayAvailableRevision (m : Materializer) (source : ProviderSourceId)
    (effect : PreparedEffect) : Transaction (RevisionId × Bool) := do
  rejectIf .revisionCollision
    (effect.availability ≠ .available ∨ effect.blob.isNone)
  let revision : RevisionId := ⟨source, effect.historyId⟩
  let t ← state
  match (t.sourceRevisions.find? revision).filter fun row => row.availability = .available with
  | some row =>
    rejectIf .revisionCollision
      (row.reason ≠ effect.reason ∨ row.graphSha256 ≠ effect.graphSha256)
    let same ← check (materializationMatches m t revision effect)
    rejectIf .revisionCollision (¬ same)
    advanceAvailableHead source revision effect.historyId effect.availability
    pure (revision, false)
  | none =>
    insertRevision revision effect
    advanceAvailableHead source revision effect.historyId effect.availability
    pure (revision, true)

def observationKey (key : SyncKey) (effect : PreparedEffect) : ObservationKey :=
  ⟨key.scopeId, providerSourceId key effect.messageId, effect.historyId⟩

def observationRow (key : SyncKey) (effect : PreparedEffect)
    (availableRevision : Option RevisionId) : ObservationRow :=
  ⟨key.accountKey, availableRevision, effect.availability, effect.reason⟩

/-- Record the observation, or recognise the one already recorded; says whether it
is new. -/
def insertOrReplayScopeObservation (key : SyncKey) (effect : PreparedEffect)
    (availableRevision : Option RevisionId) : Transaction Bool := do
  let t ← state
  let row := observationRow key effect availableRevision
  let (observations, inserted) := t.observations.insertOrIgnore (observationKey key effect) row
  update fun t => { t with observations }
  rejectIf .revisionCollision
    (observations.find? (observationKey key effect) ≠ some row)
  pure inserted

def advanceScopeHead (key : SyncKey) (source : ProviderSourceId) (historyId : HistoryId)
    (availability : Availability) : Transaction Unit :=
  update fun t =>
    let shouldAdvance := match t.scopeHeads.find? (key.scopeId, source) with
      | none => true
      | some head => decide (head.headHistoryId < historyId)
    if shouldAdvance then
      { t with
        scopeHeads := t.scopeHeads.put (key.scopeId, source)
          ⟨key.accountKey, historyId, availability⟩ }
    else t

structure GmailOperationContext where
  requestId : String
  envelope : String
  command : GmailSyncCommandKind
  accountKey : String
  scopeId : String

def recordOperationRevision (operation : Option GmailOperationContext)
    (revision : Option RevisionId) : Transaction Unit :=
  match operation, revision with
  | some operation, some revision => do
    let t ← state
    rejectIf .store ((t.operations.find? operation.requestId).isNone)
    update fun t => { t with
      operationRevisions :=
        (t.operationRevisions.insertOrIgnore (operation.requestId, revision) ()).1 }
  | _, _ => pure ()

def commitDiscovered (key : SyncKey) (messageId : String) : Transaction Bool := do
  let inserted ← ensureProviderSource key messageId
  ensureScopeMembership key (providerSourceId key messageId)
  pure inserted

def commitEffect (m : Materializer) (key : SyncKey) (operation : Option GmailOperationContext)
    (effect : PreparedEffect) : Transaction (Bool × Bool) := do
  let source := providerSourceId key effect.messageId
  let sourceInserted ← commitDiscovered key effect.messageId
  let availableRevision ←
    if effect.availability = .available then do
      let (revision, _) ← insertOrReplayAvailableRevision m source effect
      pure (some revision)
    else pure none
  let observationInserted ← insertOrReplayScopeObservation key effect availableRevision
  advanceScopeHead key source effect.historyId effect.availability
  recordOperationRevision operation availableRevision
  pure (sourceInserted, observationInserted)

/-! ## The commit -/

structure SyncCommit where
  sourcesInserted : ℕ
  revisionsInserted : ℕ
  revisionsReplayed : ℕ
  evidenceGeneration : ℕ

def syncSummary (batch : SyncBatch) (commit : SyncCommit) : Except SyncError GmailSyncSummaryV1 :=
  let unavailable := (batch.effects.filter fun effect => match effect with
    | .unavailable .. => true
    | .available .. => false).length
  let available := batch.effects.length - unavailable
  let imported := min commit.sourcesInserted available
  if 2 ^ 8 ≤ batch.pages ∨ 2 ^ 16 ≤ batch.effects.length ∨ 2 ^ 16 ≤ imported ∨
      2 ^ 16 ≤ available - imported ∨ 2 ^ 16 ≤ unavailable then .error .scopeTooLarge
  else .ok ⟨batch.pages, batch.effects.length, imported, available - imported, unavailable,
    batch.rawBytes⟩

def GmailSyncCommandKind.commandName : GmailSyncCommandKind → String
  | connect => "connect_gmail_v1"
  | sync => "sync_gmail_v1"

def finishSyncOperation (m : Materializer) (operation : GmailOperationContext)
    (summary : GmailSyncSummaryV1) : Transaction Unit := do
  let responseJson := m.responseJson operation.command operation.requestId summary
  update fun t => { t with
    connectorState := ⟨"connected", some operation.accountKey, some operation.scopeId, none⟩ }
  update fun t => { t with
    operations := if (t.operations.find? operation.requestId).isSome then
      t.operations.put operation.requestId ⟨"terminal", some responseJson⟩
    else t.operations }
  let t ← state
  rejectIf .store ((t.commandReceipts.find? operation.requestId).isSome)
  update fun t => { t with
    commandReceipts := t.commandReceipts.put operation.requestId
      ⟨operation.command.commandName, operation.envelope, responseJson⟩ }

structure GmailOperationCommit where
  summary : GmailSyncSummaryV1
  commit : SyncCommit

/-- Write the checkpoint, raise the generation when something new was observed. -/
def commitCheckpoint (key : SyncKey) (nextCheckpoint : HistoryId) (revisionsInserted : ℕ) :
    Transaction ℕ := do
  update fun t => { t with
    checkpoints := t.checkpoints.put key.scopeId nextCheckpoint
    evidenceGeneration :=
      if 0 < revisionsInserted then t.evidenceGeneration + 1 else t.evidenceGeneration }
  let t ← state
  pure t.evidenceGeneration

def placeScope (initialization : Option GmailScopeInitialization) : Transaction Unit :=
  match initialization with
  | some initialization => initializeGmailScope initialization
  | none => pure ()

/-- Finish the command, if the commit belongs to one. -/
def finishOperation (m : Materializer) (operation : Option GmailOperationContext)
    (summary : GmailSyncSummaryV1) : Transaction Unit :=
  match operation with
  | some operation => finishSyncOperation m operation summary
  | none => pure ()

def commitPrepared (m : Materializer) (key : SyncKey) (batch : SyncBatch)
    (operation : Option GmailOperationContext) (initialization : Option GmailScopeInitialization)
    (prepared : List PreparedEffect) : Transaction GmailOperationCommit := do
  placeScope initialization
  let t ← state
  check (ensureScopeKey key t)
  check (compareCheckpoint key batch.expectedCheckpoint t)
  let discovered ← forEach (commitDiscovered key) batch.discoveredMessageIds
  let effects ← forEach (commitEffect m key operation) prepared
  let sourcesInserted := discovered.count true + (effects.map Prod.fst).count true
  let revisionsInserted := (effects.map Prod.snd).count true
  let generation ← commitCheckpoint key batch.nextCheckpoint revisionsInserted
  let commit : SyncCommit :=
    ⟨sourcesInserted, revisionsInserted, (effects.map Prod.snd).count false, generation⟩
  let summary ← check (syncSummary batch commit)
  finishOperation m operation summary
  pure ⟨summary, commit⟩

def checkScope (m : Materializer) (key : SyncKey)
    (initialization : Option GmailScopeInitialization) (t : GmailTables) : Except SyncError Unit :=
  match initialization with
  | some i => do
    validateScopeInitialization m.isUuid i
    if key.accountKey ≠ i.accountKey ∨ key.scopeId ≠ i.scopeId ∨ key.labelId ≠ i.storageScopeKey then
      .error .invalidConfiguration
  | none => ensureScopeKey key t

def commitBatch (m : Materializer) (key : SyncKey) (batch : SyncBatch)
    (operation : Option GmailOperationContext) (initialization : Option GmailScopeInitialization) :
    Transaction GmailOperationCommit := do
  let t ← state
  check (checkScope m key initialization t)
  let prepared ← check (prepareEffects m ∅ batch.effects)
  (commitPrepared m key batch operation initialization prepared).atomically

/-! ## The store the coordinators see -/

def knownMessageIds (key : SyncKey) (t : GmailTables) : Except SyncError (List String) := do
  ensureScopeKey key t
  .ok (((t.scopeSources.rows.filter fun row => row.1.1 = key.scopeId).filterMap fun row =>
    (t.providerSources.find? row.1.2).map Prod.snd).insertionSort (· ≤ ·))

def GmailTables.store (t : GmailTables) : GmailSyncStore where
  checkpoint key := do
    ensureScopeKey key t
    .ok ((t.checkpoints.find? key.scopeId).map HistoryId.text)
  knownMessageIds key := knownMessageIds key t

def commit (m : Materializer) (key : SyncKey) (batch : SyncBatch) : Transaction SyncCommit := do
  let value ← commitBatch m key batch none none
  pure value.commit

end Threadbook
