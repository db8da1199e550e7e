import Threadbook.CrashSafety
import Threadbook.MessageParts
import Threadbook.PurchaseUnit

/-!
# The tables of the import

Local sources, what was found wrong with them, the parts of mails, the evidence in them, and
the roots and scans they come from; and each of the transactions that an import is made of.
An identifier that the source derives by hashing is modelled by the data it hashes. Columns
that only other parts of the program read are left out, and so are times.
-/

namespace Threadbook.Imports

/-! ## Identifiers -/

/-- The kind of a file that can be imported, by its extension. -/
inductive CandidateKind
  | image
  | eml
  | mbox
  deriving DecidableEq

inductive SourceKind
  | folderImage
  | eml
  | mbox
  | mboxMessage
  deriving DecidableEq

def CandidateKind.sourceKind : CandidateKind → SourceKind
  | .image => .folderImage
  | .eml => .eml
  | .mbox => .mbox

def CandidateKind.limit : CandidateKind → ℕ
  | .image => 40 * 1024 * 1024
  | .eml => 25 * 1024 * 1024
  | .mbox => 256 * 1024 * 1024

structure ImportRootId where
  device : ℕ
  file : ℕ
  deriving DecidableEq

abbrev RequestId := ReceiptUuidId

inductive SourceId
  | inRoot (kind : CandidateKind) (root : ImportRootId) (device file : ℕ)
  | named (kind : CandidateKind) (requestId : RequestId) (index : ℕ)
  | quarantinedFile (requestId : RequestId) (index device file : ℕ)
  | mboxMessage (parent : SourceId) (sha256 : String) (ordinal : ℕ)
  deriving DecidableEq

/-- What a source is known by, apart from its kind. -/
inductive IdentityKey
  | inRoot (root : ImportRootId) (device file : ℕ)
  | named (requestId : RequestId) (index : ℕ)
  | content (source : SourceId) (sha256 : String)
  | quarantinedFile (requestId : RequestId) (index device file : ℕ)
  | mboxMessage (parent : SourceId) (sha256 : String) (ordinal : ℕ)
  deriving DecidableEq

/-! ## Rows -/

inductive SourceStatus
  | imported
  | quarantined
  | missing
  | unavailable
  deriving DecidableEq

/-- The bytes of a source, or why there are none: one of them stands in every row. -/
inductive SourceBlob
  | blob (sha256 : String) (byteLength : ℕ)
  | noBlob (reason : Reason)

/-- A row of `local_sources`. -/
structure LocalSourceRow where
  rootId : Option ImportRootId
  parentSourceId : Option SourceId
  sourceKind : SourceKind
  identityKey : IdentityKey
  blob : SourceBlob
  byteRange : Option (ℕ × ℕ)
  occurrenceOrdinal : Option ℕ
  status : SourceStatus
  manifestGeneration : Option ℕ

inductive RootStatus
  | available
  | unavailable
  | incomplete

/-- A row of `import_roots`. -/
structure ImportRootRow where
  status : RootStatus
  manifestGeneration : ℕ

structure ImportCounts where
  imported : ℕ := 0
  reused : ℕ := 0
  quarantined : ℕ := 0
  skipped : ℕ := 0
  unavailable : ℕ := 0

def ImportCounts.add (self other : ImportCounts) : ImportCounts where
  imported := self.imported + other.imported
  reused := self.reused + other.reused
  quarantined := self.quarantined + other.quarantined
  skipped := self.skipped + other.skipped
  unavailable := self.unavailable + other.unavailable

inductive ScanStatus
  | running
  | completed

/-- A row of `import_scans`, under its root and generation. -/
structure ImportScanRow where
  requestId : RequestId
  status : ScanStatus
  counts : ImportCounts

/-- A row of `mime_parts`, under its source and ordinal. -/
structure MimePartRow where
  parentOrdinal : Option ℕ
  contentType : String
  contentDisposition : Option String
  contentId : Option String
  bodyKind : BodyKind
  decodedBytes : ℕ

inductive EvidenceKind
  | image
  | messageAttachment

inductive EvidenceState
  | unresolved
  | assigned
  | rejected
  | deferred

/-- A row of `evidence`, under its source and part. -/
structure EvidenceRow where
  kind : EvidenceKind
  state : EvidenceState

/-- What a request asks for. -/
inductive ImportCommand
  | importLocalSources (paths : List String)
  | refreshImportRoots (importRootIds : List ImportRootId)

structure ImportSummaryV1 where
  importRootId : Option ImportRootId
  sourceId : Option SourceId
  counts : ImportCounts

structure ImportResponseV1 where
  requestId : RequestId
  summaries : List ImportSummaryV1
  evidenceGeneration : ℕ
  replayed : Bool

/-- A row of `command_receipts`. -/
structure CommandReceipt where
  commandName : String
  envelopeHash : String
  response : ImportResponseV1

structure ImportTables where
  blobFiles : Table String (List UInt8)
  blobs : Table String ℕ
  importRoots : Table ImportRootId ImportRootRow
  importScans : Table (ImportRootId × ℕ) ImportScanRow
  localSources : Table SourceId LocalSourceRow
  quarantineRecords : Table SourceId Reason
  mimeParts : Table (SourceId × ℕ) MimePartRow
  evidence : Table (SourceId × Option ℕ) EvidenceRow
  evidenceGeneration : ℕ
  commandReceipts : Table RequestId CommandReceipt

def ImportTables.initial : ImportTables :=
  ⟨.empty, .empty, .empty, .empty, .empty, .empty, .empty, .empty, 0, .empty⟩

structure ImportServices where
  digest : List UInt8 → String
  parse : List UInt8 → Option (List MessagePart)
  decoder : ImageDecoder
  serialize : RequestId → ImportCommand → List UInt8

abbrev ImportTask := Task ImportTables (Option PlatformError × Unit) PlatformError

def transaction (effect : ImportTables → Except PlatformError ImportTables) : ImportTask Unit :=
  Task.statement fun _ t => match effect t with
    | .ok t' => (.ok (), t')
    | .error e => (.error e, t)

def query {α : Type} (read : ImportTables → α) : ImportTask α :=
  Task.statement fun _ t => (.ok (read t), t)

/-- A step whose answer says whether it failed. -/
def answer {α : Type} (effect : ImportTables → α × ImportTables) : ImportTask α :=
  Program.perform fun _ t => effect t

/-! ## Blobs -/

structure BlobRecord where
  sha256 : String
  byteLength : ℕ
  reused : Bool

def putBlob (services : ImportServices) (bytes : List UInt8) (maxBytes : ℕ) (t : ImportTables) :
    Except PlatformError BlobRecord × ImportTables :=
  let sha256 := services.digest bytes
  if maxBytes < bytes.length then (.error (.invalidInput "blob_too_large"), t)
  else match t.blobFiles.find? sha256 with
    | some stored =>
      if stored.length = bytes.length then (.ok ⟨sha256, bytes.length, true⟩, t)
      else (.error (.corrupt "blob_final_length"), t)
    | none =>
      (.ok ⟨sha256, bytes.length, false⟩, { t with blobFiles := t.blobFiles.put sha256 bytes })

def insertBlobRecord (blob : BlobRecord) (t : ImportTables) : Except PlatformError ImportTables :=
  match t.blobs.find? blob.sha256 with
  | some length =>
    if length = blob.byteLength then .ok t else .error (.conflict "blob_length_changed")
  | none => .ok { t with blobs := t.blobs.put blob.sha256 blob.byteLength }

/-! ## Sources -/

def sourceWith (t : ImportTables) (kind : SourceKind) (identity : IdentityKey) :
    Option (SourceId × LocalSourceRow) :=
  t.localSources.rows.find? fun entry =>
    entry.2.sourceKind = kind ∧ entry.2.identityKey = identity

def upsertSource (sourceId : SourceId) (row : LocalSourceRow)
    (update : LocalSourceRow → Except PlatformError LocalSourceRow) (t : ImportTables) :
    Except PlatformError ImportTables :=
  match sourceWith t row.sourceKind row.identityKey with
  | some (storedId, stored) => do
    let updated ← update stored
    .ok { t with localSources := t.localSources.put storedId updated }
  | none =>
    -- an identifier that is taken by another identity
    if (t.localSources.find? sourceId).isSome then .error .sqlite
    else .ok { t with localSources := t.localSources.put sourceId row }

def insertQuarantine (sourceId : SourceId) (reason : Reason) (t : ImportTables) : ImportTables :=
  { t with quarantineRecords := t.quarantineRecords.put sourceId reason }

structure SourceEntry where
  sourceId : SourceId
  sourceKind : SourceKind
  identityKey : IdentityKey
  root : Option (ImportRootId × ℕ)

def statusOf (quarantineReason : Option Reason) : SourceStatus :=
  if quarantineReason.isSome then .quarantined else .imported

def recordMaterializedSource (entry : SourceEntry) (blob : BlobRecord)
    (quarantineReason : Option Reason) (t : ImportTables) : Except PlatformError ImportTables := do
  let t ← insertBlobRecord blob t
  let t ← upsertSource entry.sourceId
    { rootId := entry.root.map Prod.fst
      parentSourceId := none
      sourceKind := entry.sourceKind
      identityKey := entry.identityKey
      blob := .blob blob.sha256 blob.byteLength
      byteRange := none
      occurrenceOrdinal := none
      status := statusOf quarantineReason
      manifestGeneration := entry.root.map Prod.snd }
    (fun stored => .ok { stored with
      blob := .blob blob.sha256 blob.byteLength
      status := statusOf quarantineReason
      manifestGeneration := entry.root.map Prod.snd }) t
  match quarantineReason with
  | some reason => .ok (insertQuarantine entry.sourceId reason t)
  | none => .ok t

def upsertQuarantineSource (entry : SourceEntry) (reason : Reason) (t : ImportTables) :
    Except PlatformError ImportTables := do
  let t ← upsertSource entry.sourceId
    { rootId := entry.root.map Prod.fst
      parentSourceId := none
      sourceKind := entry.sourceKind
      identityKey := entry.identityKey
      blob := .noBlob reason
      byteRange := none
      occurrenceOrdinal := none
      status := .quarantined
      manifestGeneration := entry.root.map Prod.snd }
    (fun stored => match stored.blob with
      -- the bytes stay, and a reason for having none beside them breaks the check of the table
      | .blob _ _ => .error .sqlite
      | .noBlob _ => .ok { stored with
          blob := .noBlob reason
          status := .quarantined
          manifestGeneration := entry.root.map Prod.snd }) t
  .ok (insertQuarantine entry.sourceId reason t)

def recordMboxChild (parent : SourceId) (blob : BlobRecord) (byteRange : ℕ × ℕ) (ordinal : ℕ)
    (t : ImportTables) : Except PlatformError ImportTables := do
  let t ← insertBlobRecord blob t
  upsertSource (.mboxMessage parent blob.sha256 ordinal)
    { rootId := none
      parentSourceId := some parent
      sourceKind := .mboxMessage
      identityKey := .mboxMessage parent blob.sha256 ordinal
      blob := .blob blob.sha256 blob.byteLength
      byteRange := some byteRange
      occurrenceOrdinal := some ordinal
      status := .imported
      manifestGeneration := none }
    (fun stored => .ok { stored with byteRange := some byteRange }) t

def markSourceQuarantined (sourceId : SourceId) (reason : Reason) (t : ImportTables) :
    Except PlatformError ImportTables :=
  match t.localSources.find? sourceId with
  | none => .error .sqlite
  | some stored => match stored.blob with
    | .noBlob _ => .error .sqlite
    | .blob _ _ => .ok (insertQuarantine sourceId reason
        { t with localSources := t.localSources.put sourceId { stored with status := .quarantined } })

/-! ## Parts and evidence -/

def ensureEvidence (sourceId : SourceId) (part : Option ℕ) (kind : EvidenceKind)
    (t : ImportTables) : ImportTables :=
  { t with evidence := (t.evidence.insertOrIgnore (sourceId, part) ⟨kind, .unresolved⟩).1 }

def mimePartRow (part : PreparedMimePart) : MimePartRow where
  parentOrdinal := part.parentOrdinal
  contentType := part.contentType
  contentDisposition := part.disposition
  contentId := part.contentId
  bodyKind := part.bodyKind
  decodedBytes := part.decodedBytes

def recordMessagePart (sourceId : SourceId) (t : ImportTables) (part : PreparedMimePart) :
    Except PlatformError ImportTables :=
  let recorded := { t with
    mimeParts := (t.mimeParts.insertOrIgnore (sourceId, part.ordinal) (mimePartRow part)).1 }
  if (t.mimeParts.find? (sourceId, part.ordinal)).isNone ∧
      ∃ parent ∈ part.parentOrdinal, (recorded.mimeParts.find? (sourceId, parent)).isNone then
    .error .sqlite
  else if part.isImage then
    .ok (ensureEvidence sourceId (some part.ordinal) .messageAttachment recorded)
  else .ok recorded

def recordMessageParts (sourceId : SourceId) (parts : List PreparedMimePart) (t : ImportTables) :
    Except PlatformError ImportTables :=
  parts.foldlM (recordMessagePart sourceId) t

/-! ## Roots and scans -/

def existingGeneration (t : ImportTables) (root : ImportRootId) : ℕ :=
  ((t.importRoots.find? root).map (·.manifestGeneration)).getD 0

def setRootStatus (root : ImportRootId) (status : RootStatus) (t : ImportTables) : ImportTables :=
  { t with importRoots := t.importRoots.modify (fun row => { row with status := status }) root }

def beginScan (requestId : RequestId) (root : ImportRootId) (existing : ℕ) (t : ImportTables) :
    Except PlatformError ImportTables :=
  let row : ImportRootRow := ⟨.incomplete, ((t.importRoots.find? root).map
    (·.manifestGeneration)).getD existing⟩
  if (t.importScans.find? (root, existing + 1)).isSome then .error .sqlite
  else .ok { t with
    importRoots := t.importRoots.put root row
    importScans := t.importScans.put (root, existing + 1) ⟨requestId, .running, {}⟩ }

def isStale (root : ImportRootId) (generation : ℕ) (row : LocalSourceRow) : Bool :=
  row.rootId = some root ∧ ∃ seen ∈ row.manifestGeneration, seen < generation

def completeScan (root : ImportRootId) (generation : ℕ) (counts : ImportCounts)
    (t : ImportTables) : ImportTables :=
  { t with
    localSources := t.localSources.mapRows fun row =>
      if isStale root generation row then { row with status := .missing } else row
    importRoots := t.importRoots.modify (fun _ => ⟨.available, generation⟩) root
    importScans := t.importScans.modify
      (fun row => { row with status := .completed, counts := counts }) (root, generation) }

end Threadbook.Imports
