import Threadbook.ImportTables
import Threadbook.MboxFormat

/-!
# Import requests

A request goes through its paths or roots, and through the files of each folder, one
transaction after another. What it finds outside is given to it: the metadata of the files,
what opening them gives, and what scanning a folder finds, which may differ each time.
-/

namespace Threadbook.Imports

open Threadbook.Task (statement check)

/-! ## Files -/

def batchLimit : ℕ := 512 * 1024 * 1024

structure FileMetadata where
  device : ℕ
  file : ℕ
  length : ℕ
  isSymlink : Bool
  isFile : Bool
  isDir : Bool

structure OpenedFile where
  insideRoot : Bool
  metadata : FileMetadata
  bytes : List UInt8
  after : FileMetadata

structure Candidate where
  metadata : FileMetadata
  kind : CandidateKind
  opened : Option OpenedFile

structure Materialized where
  record : BlobRecord
  bytes : List UInt8

def sameFile (opened found : FileMetadata) : Bool :=
  opened.device = found.device ∧ opened.file = found.file ∧ opened.length = found.length

def openCandidate (candidate : Candidate) (inRoot : Bool) : Except PlatformError OpenedFile :=
  match candidate.opened with
  | none => .error (.io .other)
  | some opened =>
    if inRoot ∧ ¬ opened.insideRoot then .error (.invalidInput "import_traversal")
    else if ¬ opened.metadata.isFile ∨ ¬ sameFile opened.metadata candidate.metadata then
      .error (.conflict "import_file_changed")
    else if opened.bytes.length ≠ opened.metadata.length then
      .error (.invalidInput "blob_stream_length")
    else .ok opened

def materialize (services : ImportServices) (candidate : Candidate) (inRoot : Bool)
    (t : ImportTables) : Except PlatformError Materialized × ImportTables :=
  match openCandidate candidate inRoot with
  | .error e => (.error e, t)
  | .ok opened =>
    match putBlob services opened.bytes candidate.kind.limit t with
    | (.error e, t) => (.error e, t)
    | (.ok record, t) =>
      if ¬ sameFile opened.after opened.metadata then (.error (.conflict "import_file_changed"), t)
      else
        let bytes := (t.blobFiles.find? record.sha256).getD []
        if bytes.length ≠ record.byteLength then (.error (.corrupt "import_blob_length"), t)
        else (.ok ⟨record, bytes⟩, t)

/-! ## Mailboxes -/

def emlLimit : ℕ := CandidateKind.eml.limit

def sliceOf (bytes : List UInt8) (slice : ℕ × ℕ) : List UInt8 :=
  (bytes.drop slice.1).take (slice.2 - slice.1)

def importSlices (services : ImportServices) (parent : SourceId) (bytes : List UInt8) :
    List (ℕ × ℕ) → List String → ImportCounts → ImportTask ImportCounts
  | [], _, counts => pure counts
  | slice :: slices, occurrences, counts => do
    let raw := sliceOf bytes slice
    let hash := services.digest raw
    let ordinal := occurrences.count hash
    let sourceId := SourceId.mboxMessage parent hash ordinal
    let existed ← query fun t => (t.localSources.find? sourceId).isSome
    let blob ← statement fun _ t => putBlob services raw emlLimit t
    transaction (recordMboxChild parent blob slice ordinal)
    match prepareMessageParts services.parse (unescapeMboxrd raw) with
    | .ok parts =>
      transaction (recordMessageParts sourceId parts)
      importSlices services parent bytes slices (hash :: occurrences)
        (if existed ∨ blob.reused then counts.add { reused := 1 } else counts.add { imported := 1 })
    | .error reason =>
      transaction (markSourceQuarantined sourceId reason)
      importSlices services parent bytes slices (hash :: occurrences)
        (counts.add { quarantined := 1 })

def importMboxChildren (services : ImportServices) (parent : SourceId) (bytes : List UInt8) :
    ImportTask ImportCounts := do
  let slices ← check (splitMboxrd bytes)
  importSlices services parent bytes slices [] {}

/-! ## One file -/

def sourceIdOf (requestId : RequestId) (index : ℕ) (candidate : Candidate)
    (root : Option (ImportRootId × ℕ)) : SourceId :=
  match root with
  | some (root, _) =>
    .inRoot candidate.kind root candidate.metadata.device candidate.metadata.file
  | none => .named candidate.kind requestId index

/-- What the source is known by. -/
def identityOf (requestId : RequestId) (index : ℕ) (candidate : Candidate)
    (root : Option (ImportRootId × ℕ)) : IdentityKey :=
  match root with
  | some (root, _) => .inRoot root candidate.metadata.device candidate.metadata.file
  | none => .named requestId index

def noBlobReason (candidate : Candidate) (batchBytes : ℕ) : Option Reason :=
  if candidate.metadata.isSymlink ∨ ¬ candidate.metadata.isFile then some "not_regular"
  else if candidate.kind.limit < candidate.metadata.length then some "size_limit"
  else if batchLimit < batchBytes + candidate.metadata.length then some "batch_size_limit"
  else none

def parseResult (services : ImportServices) (kind : CandidateKind) (bytes : List UInt8) :
    Except Reason (List PreparedMimePart) :=
  match kind with
  | .image => (validateImage services.decoder bytes).map fun _ => []
  | .eml => prepareMessageParts services.parse bytes
  | .mbox => .ok []

def reasonOf {α : Type} : Except Reason α → Option Reason
  | .error reason => some reason
  | .ok _ => none

structure Imported where
  counts : ImportCounts
  sourceId : SourceId
  batchBytes : ℕ

/-- Put a file that is not read into quarantine. -/
def quarantineCandidate (entry : SourceEntry) (reason : Reason) (batchBytes : ℕ) :
    ImportTask Imported := do
  transaction (upsertQuarantineSource entry reason)
  pure ⟨{ quarantined := 1 }, entry.sourceId, batchBytes⟩

def recordContents (sourceId : SourceId) (kind : CandidateKind)
    (parsed : Except Reason (List PreparedMimePart)) : ImportTask Unit :=
  match parsed, kind with
  | .ok _, .image => transaction fun t => .ok (ensureEvidence sourceId none .image t)
  | .ok parts, .eml => transaction (recordMessageParts sourceId parts)
  | _, _ => pure ()

def importMaterialized (services : ImportServices) (entry : SourceEntry) (kind : CandidateKind)
    (materialized : Materialized) (batchBytes : ℕ) : ImportTask Imported := do
  let parsed := parseResult services kind materialized.bytes
  let wasPresent ← query fun t => (t.localSources.find? entry.sourceId).isSome
  transaction (recordMaterializedSource entry materialized.record (reasonOf parsed))
  recordContents entry.sourceId kind parsed
  let counts : ImportCounts :=
    if (reasonOf parsed).isSome then { quarantined := 1 }
    else if wasPresent ∨ materialized.record.reused then { reused := 1 }
    else { imported := 1 }
  if kind = .mbox ∧ (reasonOf parsed).isNone then do
    let childCounts ← importMboxChildren services entry.sourceId materialized.bytes
    pure ⟨counts.add { childCounts with skipped := 0, unavailable := 0 }, entry.sourceId,
      batchBytes⟩
  else pure ⟨counts, entry.sourceId, batchBytes⟩

def importCandidate (services : ImportServices) (requestId : RequestId) (index : ℕ)
    (candidate : Candidate) (root : Option (ImportRootId × ℕ)) (batchBytes : ℕ) :
    ImportTask Imported :=
  let sourceId := sourceIdOf requestId index candidate root
  let entry : SourceEntry := ⟨sourceId, candidate.kind.sourceKind,
    identityOf requestId index candidate root, root⟩
  match noBlobReason candidate batchBytes with
  | some reason => quarantineCandidate entry reason batchBytes
  | none => do
    let result ← answer (materialize services candidate root.isSome)
    match result with
    | .error _ => quarantineCandidate entry "open_or_identity_failed" batchBytes
    | .ok materialized =>
      -- a file that is named is known by its bytes
      let persisted := if root.isSome then entry.identityKey
        else .content sourceId materialized.record.sha256
      importMaterialized services { entry with identityKey := persisted } candidate.kind
        materialized (batchBytes + materialized.record.byteLength)

/-! ## Folders -/

/-- How far a request has come. -/
structure Progress where
  batchBytes : ℕ
  counts : ImportCounts
  changed : Bool

def importCandidates (services : ImportServices) (requestId : RequestId)
    (root : ImportRootId × ℕ) : List Candidate → ℕ → Progress → ImportTask Progress
  | [], _, progress => pure progress
  | candidate :: candidates, index, progress => do
    let next ← importCandidate services requestId index candidate (some root) progress.batchBytes
    importCandidates services requestId root candidates (index + 1)
      ⟨next.batchBytes, progress.counts.add next.counts, true⟩

structure FolderFound where
  root : ImportRootId
  scan : Option (List Candidate)

def importFolder (services : ImportServices) (requestId : RequestId) (found : FolderFound)
    (batchBytes : ℕ) : ImportTask Progress := do
  let existing ← query fun t => existingGeneration t found.root
  match found.scan with
  | none =>
    if 0 < existing then
      transaction fun t => .ok (setRootStatus found.root .incomplete t)
    pure ⟨batchBytes, { unavailable := 1 }, false⟩
  | some candidates => do
    transaction (beginScan requestId found.root existing)
    let progress ← importCandidates services requestId (found.root, existing + 1) candidates 0
      ⟨batchBytes, {}, false⟩
    transaction fun t => .ok (completeScan found.root (existing + 1) progress.counts t)
    pure progress

/-! ## Requests -/

structure PathFound where
  metadata : Option FileMetadata
  kind : Option CandidateKind
  opened : Option OpenedFile
  scan : Option (List Candidate)

/-- Where a loop over paths or roots stands. -/
structure Batch where
  summaries : List ImportSummaryV1
  batchBytes : ℕ
  changed : Bool

def Batch.next (self : Batch) (summary : ImportSummaryV1) (batchBytes : ℕ) (changed : Bool) :
    Batch :=
  ⟨self.summaries ++ [summary], batchBytes, self.changed || changed⟩

def importPath (services : ImportServices) (requestId : RequestId) (index : ℕ) (found : PathFound)
    (batch : Batch) : ImportTask Batch :=
  match found.metadata with
  | none => pure (batch.next ⟨none, none, { unavailable := 1 }⟩ batch.batchBytes false)
  | some metadata =>
    if metadata.isSymlink ∨ (¬ metadata.isDir ∧ ¬ metadata.isFile) then do
      let sourceId := SourceId.quarantinedFile requestId index metadata.device metadata.file
      transaction (upsertQuarantineSource ⟨sourceId, .folderImage,
        .quarantinedFile requestId index metadata.device metadata.file, none⟩ "not_regular")
      pure (batch.next ⟨none, some sourceId, { quarantined := 1 }⟩ batch.batchBytes true)
    else if metadata.isDir then do
      let root : ImportRootId := ⟨metadata.device, metadata.file⟩
      let progress ← importFolder services requestId ⟨root, found.scan⟩ batch.batchBytes
      pure (batch.next ⟨some root, none, progress.counts⟩ progress.batchBytes progress.changed)
    else match found.kind with
      | none => check (.error (.unsupported "import_file_type"))
      | some kind => do
        let imported ← importCandidate services requestId index ⟨metadata, kind, found.opened⟩ none
          batch.batchBytes
        pure (batch.next ⟨none, some imported.sourceId, imported.counts⟩ imported.batchBytes true)

def importPaths (services : ImportServices) (requestId : RequestId) :
    List PathFound → ℕ → Batch → ImportTask Batch
  | [], _, batch => pure batch
  | found :: rest, index, batch => do
    let batch ← importPath services requestId index found batch
    importPaths services requestId rest (index + 1) batch

def envelopeHash (services : ImportServices) (requestId : RequestId) (command : ImportCommand) :
    String :=
  services.digest (services.serialize requestId command)

def ImportCommand.name : ImportCommand → String
  | .importLocalSources _ => "import_local_sources_v1"
  | .refreshImportRoots _ => "refresh_import_roots_v1"

def replayResponse (services : ImportServices) (requestId : RequestId) (command : ImportCommand)
    (t : ImportTables) : Except PlatformError (Option ImportResponseV1) :=
  match t.commandReceipts.find? requestId with
  | none => .ok none
  | some receipt =>
    if receipt.commandName = command.name ∧
        receipt.envelopeHash = envelopeHash services requestId command then
      .ok (some receipt.response)
    else .error (.conflict "command_envelope_changed")

def bumpEvidenceGeneration (t : ImportTables) : ImportTables :=
  { t with evidenceGeneration := t.evidenceGeneration + 1 }

def storeResponse (services : ImportServices) (requestId : RequestId) (command : ImportCommand)
    (response : ImportResponseV1) (t : ImportTables) : Except PlatformError ImportTables :=
  let receipt : CommandReceipt := ⟨command.name, envelopeHash services requestId command, response⟩
  if (t.commandReceipts.find? requestId).isSome then .error .sqlite
  else .ok { t with commandReceipts := t.commandReceipts.put requestId receipt }

def respondWith (services : ImportServices) (requestId : RequestId) (command : ImportCommand)
    (summaries : List ImportSummaryV1) : ImportTask ImportResponseV1 := do
  let evidenceGeneration ← query fun t => t.evidenceGeneration
  let response : ImportResponseV1 := ⟨requestId, summaries, evidenceGeneration, false⟩
  transaction (storeResponse services requestId command response)
  pure response

/-- Answer a request whose paths or roots were gone through. -/
def respond (services : ImportServices) (requestId : RequestId) (command : ImportCommand)
    (batch : Batch) : ImportTask ImportResponseV1 :=
  if batch.changed then do
    transaction fun t => .ok (bumpEvidenceGeneration t)
    respondWith services requestId command batch.summaries
  else respondWith services requestId command batch.summaries

/-- Answer a request again, or carry it out. -/
def replayOr (services : ImportServices) (requestId : RequestId) (command : ImportCommand)
    (body : ImportTask Batch) : ImportTask ImportResponseV1 := do
  let stored ← statement fun _ t => (replayResponse services requestId command t, t)
  match stored with
  | some response => pure { response with replayed := true }
  | none => do
    let batch ← body
    respond services requestId command batch

def importLocal (services : ImportServices) (requestId : RequestId) (paths : List String)
    (found : String → PathFound) : ImportTask ImportResponseV1 :=
  replayOr services requestId (.importLocalSources paths)
    (importPaths services requestId (paths.map found) 0 ⟨[], 0, false⟩)

def refreshRoot (services : ImportServices) (requestId : RequestId) (root : ImportRootId)
    (found : Option FolderFound) (batch : Batch) : ImportTask Batch := do
  let known ← query fun t => (t.importRoots.find? root).isSome
  if ¬ known then check (.error (.invalidInput "import_root_id"))
  else match found.filter fun folder => folder.root = root with
    | none => do
      transaction fun t => .ok (setRootStatus root .unavailable t)
      pure (batch.next ⟨some root, none, { unavailable := 1 }⟩ batch.batchBytes false)
    | some folder => do
      let progress ← importFolder services requestId folder batch.batchBytes
      pure (batch.next ⟨some root, none, progress.counts⟩ progress.batchBytes progress.changed)

def refreshEach (services : ImportServices) (requestId : RequestId)
    (found : ImportRootId → Option FolderFound) : List ImportRootId → Batch → ImportTask Batch
  | [], batch => pure batch
  | root :: roots, batch => do
    let batch ← refreshRoot services requestId root (found root) batch
    refreshEach services requestId found roots batch

def refreshRoots (services : ImportServices) (requestId : RequestId) (roots : List ImportRootId)
    (found : ImportRootId → Option FolderFound) : ImportTask ImportResponseV1 :=
  replayOr services requestId (.refreshImportRoots roots)
    (refreshEach services requestId found roots ⟨[], 0, false⟩)

end Threadbook.Imports
