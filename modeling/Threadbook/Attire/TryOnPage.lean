import Threadbook.Attire.TryOnApproval

/-!
# The try-on page

The page of an outfit shows its latest job, the output of that job and the garments of its
approval. It is put together from six statements that are no transaction: each reads the database
as it is when it runs (`TryOnPageReads`).
-/

namespace Threadbook.TryOn

open Catalog (EvidenceId)
open Outfits (OutfitId)
open Promotion (ItemAttributesV1 RequestId)

/-! ## The contract -/

structure BoundedBytes (limit : ℕ) where
  bytes : List UInt8
  bounded : bytes ≠ [] ∧ bytes.length ≤ limit

def BoundedBytes.new (limit : ℕ) (bytes : List UInt8) :
    Except ValidationError (BoundedBytes limit) :=
  if h : bytes ≠ [] ∧ bytes.length ≤ limit then .ok ⟨bytes, h⟩ else .error ⟨.attributes⟩

theorem BoundedBytes.new_eq_ok {limit : ℕ} {bytes : List UInt8} (h : bytes ≠ [])
    (hlimit : bytes.length ≤ limit) : BoundedBytes.new limit bytes = .ok ⟨bytes, h, hlimit⟩ :=
  dif_pos ⟨h, hlimit⟩

abbrev BoundedTryOnOutputBytesV1 : Type := BoundedBytes maxTryOnOutputBytes

abbrev BoundedPhotoArtifactBytesV1 : Type := BoundedBytes maxPhotoArtifactBytes

inductive TryOnOutputUseClassV1
  | presentationOnly
  deriving DecidableEq

structure TryOnOutputV1 where
  jobId : TryOnJobId
  outfitId : OutfitId
  mediaType : String
  width : ℕ
  height : ℕ
  bytesSha256 : String
  bytes : BoundedTryOnOutputBytesV1
  useClass : TryOnOutputUseClassV1
  eligibleAsEvidence : Bool
  label : String
  createdAt : String

/-- A garment as it is shown beside the output. -/
structure TryOnGarmentSourceV1 where
  ordinal : ℕ
  itemId : ItemId
  itemUpdatedRevision : ℕ
  attributes : ItemAttributesV1
  evidenceId : EvidenceId
  sourceId : SourceId
  mediaType : PhotoMediaTypeV1
  width : ℕ
  height : ℕ
  bytesSha256 : String
  bytes : BoundedPhotoArtifactBytesV1

structure GetOutfitTryOnV1Response where
  schemaVersion : ℕ
  requestId : RequestId
  outfitId : OutfitId
  outfitName : String
  latestJob : Option TryOnJobV1
  output : Option TryOnOutputV1
  garmentSources : List TryOnGarmentSourceV1
  tryOnRevision : ℕ

/-- What the page relies on besides: the width and height of bytes that decode as a PNG. -/
structure TryOnPageServices extends TryOnServices where
  pngSize : List UInt8 → Option (ℕ × ℕ)

variable (services : TryOnPageServices)

def TryOnOutputV1.validate (self : TryOnOutputV1) : Except ValidationError Unit :=
  if self.mediaType = tryOnOutputMediaType ∧ self.width = tryOnOutputWidth ∧
      self.height = tryOnOutputHeight ∧ services.digest self.bytes.bytes = self.bytesSha256 ∧
      self.useClass = .presentationOnly ∧ ¬ self.eligibleAsEvidence ∧
      self.label = tryOnPresentationLabel ∧ isBoundedTimestamp self.createdAt then .ok ()
  else .error ⟨.attributes⟩

def validDimensions (width height : ℕ) : Bool :=
  0 < width ∧ 0 < height ∧ width ≤ maxPhotoAxis ∧ height ≤ maxPhotoAxis ∧
    width * height ≤ maxPhotoPixels

def TryOnGarmentSourceV1.validate (self : TryOnGarmentSourceV1) :
    Except ValidationError Unit := do
  self.attributes.validate
  if tryOnMaxGarments < self.ordinal ∨ self.ordinal = 0 ∨ self.itemUpdatedRevision = 0 ∨
      maxSafeIntegerV1 ≤ self.itemUpdatedRevision ∨ ¬ validDimensions self.width self.height ∨
      services.digest self.bytes.bytes ≠ self.bytesSha256 then .error ⟨.attributes⟩
  else .ok ()

def validateGarmentSources : ℕ → List ItemId → List TryOnGarmentSourceV1 →
    Except ValidationError Unit
  | _, _, [] => .ok ()
  | index, items, source :: rest => do
    source.validate services
    if source.ordinal ≠ index + 1 ∨ source.itemId ∈ items then .error ⟨.attributes⟩
    else validateGarmentSources (index + 1) (source.itemId :: items) rest

def validateJobOutput (outfitId : OutfitId) (job : TryOnJobV1) :
    Option TryOnOutputV1 → Except ValidationError Unit
  | some output =>
    if job.state = .succeeded then do
      output.validate services
      if output.jobId = job.jobId ∧ output.outfitId = outfitId then .ok ()
      else .error ⟨.attributes⟩
    else .error ⟨.attributes⟩
  | none => if job.state = .succeeded then .error ⟨.attributes⟩ else .ok ()

def GetOutfitTryOnV1Response.validate (self : GetOutfitTryOnV1Response) :
    Except ValidationError Unit := do
  requireSchemaV1 self.schemaVersion
  if ¬ isBoundedDisplayName self.outfitName ∨ maxSafeIntegerV1 ≤ self.tryOnRevision then
    .error ⟨.attributes⟩
  else match self.latestJob with
    | none =>
      if self.output.isNone ∧ self.garmentSources.isEmpty then .ok () else .error ⟨.attributes⟩
    | some job => do
      job.validate
      if job.outfitId ≠ self.outfitId ∨ ¬ (tryOnMinGarments ≤ self.garmentSources.length ∧
          self.garmentSources.length ≤ tryOnMaxGarments) then .error ⟨.attributes⟩
      else do
        validateGarmentSources services 0 [] self.garmentSources
        validateJobOutput services self.outfitId job self.output

/-! ## Statements -/

def outfitJobs (t : TryOnTables) (outfitId : OutfitId) : List (TryOnJobId × TryOnJobRow) :=
  t.jobs.rows.filter fun entry =>
    (t.approvals.find? entry.2.approvalId).any fun approval => approval.outfitId = outfitId

/-- The order jobs are shown in: the newest first. -/
def shownBefore (a b : TryOnJobId × TryOnJobRow) : Bool :=
  b.2.createdAtMs < a.2.createdAtMs || (b.2.createdAtMs == a.2.createdAtMs &&
    services.jobIdText b.1 ≤ services.jobIdText a.1)

def latestJobId (t : TryOnTables) (outfitId : OutfitId) : Option TryOnJobId :=
  (((outfitJobs t outfitId).mergeSort (shownBefore services)).head?).map Prod.fst

def completedAt (job : TryOnJobRow) : Except PlatformError (Option String) :=
  match job.state with
  | .succeeded | .failed => some <$> timestamp services.toTryOnServices job.updatedAtMs
  | .queued | .running => .ok none

def loadJob (t : TryOnTables) (jobId : TryOnJobId) : Except PlatformError TryOnJobV1 :=
  match t.jobs.find? jobId with
  | none => .error .sqlite
  | some job =>
    match t.approvals.find? job.approvalId with
    | none => .error .sqlite
    | some approval => do
      let createdAt ← timestamp services.toTryOnServices job.createdAtMs
      let updatedAt ← timestamp services.toTryOnServices job.updatedAtMs
      let completedAt ← completedAt services job
      let shown : TryOnJobV1 := {
        jobId
        approvalId := job.approvalId
        outfitId := approval.outfitId
        state := job.state
        attemptCount := job.attemptCount
        createdAt
        updatedAt
        completedAt
        failure := job.failure.map fun failure => failureContract failure.code }
      shown.validate.mapError fun _ => .corrupt "try_on_job_contract"
      .ok shown

def readBlob (files : BlobFiles) (sha256 : String) : Except PlatformError (List UInt8) :=
  match files sha256 with
  | none => .error (.io .other)
  | some file => .ok file.bytes

def showOutput (files : BlobFiles) (jobId : TryOnJobId) (outfitId : OutfitId)
    (row : TryOnOutputRow) : Except PlatformError TryOnOutputV1 := do
  let length ← (verifyBlob services.toImageServices files row.blobSha256).mapError
    BlobError.toPlatform
  rejectWhen (.corrupt "try_on_output_length") (length ≠ row.byteLength)
  let bytes ← readBlob files row.blobSha256
  match services.pngSize bytes with
  | none => .error (.corrupt "try_on_output_png")
  | some size => do
    rejectWhen (.corrupt "try_on_output_dimensions")
      (size ≠ (tryOnOutputWidth, tryOnOutputHeight))
    rejectWhen (.corrupt "try_on_output_hash") (¬ isHash row.blobSha256)
    let bounded ← (BoundedBytes.new maxTryOnOutputBytes bytes).mapError fun _ =>
      .corrupt "try_on_output_bytes"
    let createdAt ← timestamp services.toTryOnServices row.createdAtMs
    .ok {
      jobId
      outfitId
      mediaType := tryOnOutputMediaType
      width := tryOnOutputWidth
      height := tryOnOutputHeight
      bytesSha256 := row.blobSha256
      bytes := bounded
      useClass := .presentationOnly
      eligibleAsEvidence := false
      label := tryOnPresentationLabel
      createdAt }

def loadOutput (files : BlobFiles) (t : TryOnTables) (jobId : TryOnJobId) :
    Except PlatformError (Option TryOnOutputV1) :=
  match t.outputs.find? ⟨jobId⟩, (t.jobs.find? jobId).bind fun job =>
      t.approvals.find? job.approvalId with
  | some row, some approval => some <$> showOutput services files jobId approval.outfitId row
  | _, _ => .ok none

def garmentRows (t : TryOnTables) (approvalId : TryOnApprovalId) : List (ℕ × TryOnAssetRow) :=
  (assetRows t approvalId).filter fun entry => entry.2.role = "garment"

structure GarmentColumns where
  itemId : ItemId
  itemUpdatedRevision : ℕ
  attributes : ItemAttributesV1
  evidenceId : EvidenceId
  sourceId : SourceId

def garmentColumns (entry : ℕ × TryOnAssetRow) :
    Except PlatformError ((ℕ × TryOnAssetRow) × GarmentColumns) :=
  match entry.2.itemId, entry.2.itemUpdatedRevision, entry.2.attributes, entry.2.evidenceId,
      entry.2.sourceId with
  | some itemId, some itemUpdatedRevision, some attributes, some evidenceId, some sourceId =>
    .ok (entry, ⟨itemId, itemUpdatedRevision, attributes, evidenceId, sourceId⟩)
  | _, _, _, _, _ => .error .sqlite

def garmentSource (files : BlobFiles) (read : (ℕ × TryOnAssetRow) × GarmentColumns) :
    Except PlatformError TryOnGarmentSourceV1 :=
  let row := read.1.2
  match verifySourceImage services.toImageServices files row.parentBlobSha256
      row.parentByteLength with
  | .error _ => .error (.corrupt "try_on_garment_source")
  | .ok source => do
    rejectWhen (.corrupt "try_on_garment_changed") (source.mediaType.text ≠ row.parentMediaType ∨
      source.width ≠ row.parentWidth ∨ source.height ≠ row.parentHeight)
    let bytes ← (BoundedBytes.new maxPhotoArtifactBytes source.bytes).mapError fun _ =>
      .corrupt "try_on_garment_bytes"
    .ok {
      ordinal := read.1.1
      itemId := read.2.itemId
      itemUpdatedRevision := read.2.itemUpdatedRevision
      attributes := read.2.attributes
      evidenceId := read.2.evidenceId
      sourceId := read.2.sourceId
      mediaType := source.mediaType
      width := source.width
      height := source.height
      bytesSha256 := services.digest source.bytes
      bytes }

def loadGarmentSources (files : BlobFiles) (t : TryOnTables) (jobId : TryOnJobId) :
    Except PlatformError (List TryOnGarmentSourceV1) :=
  match t.jobs.find? jobId with
  | none => .ok []
  | some job => do
    let rows ← (garmentRows t job.approvalId).mapM garmentColumns
    rows.mapM (garmentSource services files)

/-! ## The page -/

/-- The database as each statement finds it. -/
structure TryOnPageReads where
  named : TryOnStore
  revised : TryOnStore
  found : TryOnStore
  shown : TryOnStore
  stored : TryOnStore
  worn : TryOnStore

structure TryOnLatest where
  job : Option TryOnJobV1
  output : Option TryOnOutputV1
  garmentSources : List TryOnGarmentSourceV1

def loadLatest (outfitId : OutfitId) (reads : TryOnPageReads) : Except PlatformError TryOnLatest :=
  match latestJobId services reads.found.tables outfitId with
  | none => .ok ⟨none, none, []⟩
  | some jobId => do
    let job ← loadJob services reads.shown.tables jobId
    let output ← loadOutput services reads.stored.files reads.stored.tables jobId
    let garmentSources ← loadGarmentSources services reads.worn.files reads.worn.tables jobId
    .ok ⟨some job, output, garmentSources⟩

def getOutfitTryOn (request : GetOutfitTryOnV1Request) (reads : TryOnPageReads) :
    Except PlatformError GetOutfitTryOnV1Response := do
  request.validate.mapError fun _ => .invalidInput "try_on_get"
  match reads.named.tables.outfits.outfits.find? request.outfitId with
  | none => .error (.invalidInput "try_on_outfit")
  | some outfit => do
    let latest ← loadLatest services request.outfitId reads
    let response : GetOutfitTryOnV1Response := {
      schemaVersion := schemaVersionV1
      requestId := request.requestId
      outfitId := request.outfitId
      outfitName := outfit.name
      latestJob := latest.job
      output := latest.output
      garmentSources := latest.garmentSources
      tryOnRevision := reads.revised.tables.tryOnRevision }
    (response.validate services).mapError fun _ => .corrupt "try_on_get_response"
    .ok response

end Threadbook.TryOn
