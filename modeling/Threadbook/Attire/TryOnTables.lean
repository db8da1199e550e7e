import Threadbook.Attire.OutfitRepository
import Threadbook.TableSlots
import Threadbook.Attire.TryOnContract

/-!
# The try-on tables

An approval with its images, the job that spends it, the job's attempt and the output: one row
each, with the checks of the tables. The images of an approval are bound to it by one hash, over
what is computed when it is previewed (`SnapshotAsset.approvalBinding`) and over what the rows
hold later (`TryOnAssetRow.binding`).
-/

namespace Threadbook.TryOn

open Catalog (EvidenceId)
open Outfits (OutfitId OutfitTables maxStoredRevision sqlTrim isPrintableAscii)
open Promotion (ItemAttributesV1 RequestId ReplayStatusV1)

/-- The greatest integer a column holds. -/
def maxInt64 : ℤ := 2 ^ 63 - 1

/-! ## Images -/

/-- An image as it is when it is previewed. -/
structure SnapshotAsset where
  ordinal : ℕ
  role : TryOnAssetRoleV1
  sourceRevisionId : Option PhotoSourceRevisionId
  artifactId : Option PhotoArtifactId
  itemId : Option ItemId
  evidenceId : Option EvidenceId
  sourceId : Option SourceId
  itemUpdatedRevision : Option ℕ
  attributes : Option ItemAttributesV1
  parentBlobSha256 : String
  parentMediaType : String
  parentByteLength : ℕ
  parentWidth : ℕ
  parentHeight : ℕ
  canonicalSha256 : String
  canonicalByteLength : ℕ
  canonicalWidth : ℕ
  canonicalHeight : ℕ

structure ApprovalAssetBinding where
  ordinal : ℕ
  role : TryOnAssetRoleV1
  sourceRevisionId : Option PhotoSourceRevisionId
  itemId : Option ItemId
  evidenceId : Option EvidenceId
  sourceId : Option SourceId
  itemUpdatedRevision : Option ℕ
  attributes : Option ItemAttributesV1
  parentBlobSha256 : String
  parentMediaType : String
  parentByteLength : ℕ
  parentWidth : ℕ
  parentHeight : ℕ
  canonicalSha256 : String
  canonicalByteLength : ℕ
  canonicalWidth : ℕ
  canonicalHeight : ℕ

/-- What is bound of an image, from memory. -/
def SnapshotAsset.approvalBinding (self : SnapshotAsset) : ApprovalAssetBinding where
  ordinal := self.ordinal
  role := self.role
  sourceRevisionId := self.sourceRevisionId
  itemId := self.itemId
  evidenceId := self.evidenceId
  sourceId := self.sourceId
  itemUpdatedRevision := self.itemUpdatedRevision
  attributes := self.attributes
  parentBlobSha256 := self.parentBlobSha256
  parentMediaType := self.parentMediaType
  parentByteLength := self.parentByteLength
  parentWidth := self.parentWidth
  parentHeight := self.parentHeight
  canonicalSha256 := self.canonicalSha256
  canonicalByteLength := self.canonicalByteLength
  canonicalWidth := self.canonicalWidth
  canonicalHeight := self.canonicalHeight

/-- What the user is told of an image. -/
def SnapshotAsset.disclosure (self : SnapshotAsset) :
    Except PlatformError TryOnDisclosureAssetV1 :=
  if isHash self.canonicalSha256 then
    .ok {
      ordinal := self.ordinal
      role := self.role
      transmittedFilename := referenceFilename self.ordinal
      portraitSourceRevisionId := self.sourceRevisionId
      portraitArtifactId := self.artifactId
      itemId := self.itemId
      evidenceId := self.evidenceId
      sourceId := self.sourceId
      canonicalSha256 := self.canonicalSha256
      mediaType := tryOnOutputMediaType
      byteLength := self.canonicalByteLength
      width := self.canonicalWidth
      height := self.canonicalHeight }
  else .error (.corrupt "try_on_canonical_hash")

/-! ## Rows -/

def roleDb : TryOnAssetRoleV1 → String
  | .portrait => "portrait"
  | .garment => "garment"

def parseRole : String → Except PlatformError TryOnAssetRoleV1
  | "portrait" => .ok .portrait
  | "garment" => .ok .garment
  | _ => .error (.corrupt "try_on_asset_role")

theorem parseRole_roleDb (role : TryOnAssetRoleV1) : parseRole (roleDb role) = .ok role := by
  cases role <;> rfl

/-- A row of `try_on_assets`, under its approval and its ordinal. -/
structure TryOnAssetRow where
  role : String
  sourceRevisionId : Option PhotoSourceRevisionId
  itemId : Option ItemId
  evidenceId : Option EvidenceId
  sourceId : Option SourceId
  itemUpdatedRevision : Option ℕ
  attributes : Option ItemAttributesV1
  parentBlobSha256 : String
  parentMediaType : String
  parentByteLength : ℕ
  parentWidth : ℕ
  parentHeight : ℕ
  canonicalPngSha256 : String
  canonicalByteLength : ℕ
  canonicalWidth : ℕ
  canonicalHeight : ℕ

def maxAssetOrdinal : ℕ := 8

namespace TryOnAssetRow

def fitsRole (ordinal : ℕ) (self : TryOnAssetRow) : Bool :=
  (self.role == "portrait" && ordinal == 0 && self.sourceRevisionId.isSome &&
      self.itemId.isNone && self.evidenceId.isNone && self.sourceId.isNone &&
      self.itemUpdatedRevision.isNone && self.attributes.isNone) ||
    (self.role == "garment" && 1 ≤ ordinal && ordinal ≤ 8 && self.sourceRevisionId.isNone &&
      self.itemId.isSome && self.evidenceId.isSome && self.sourceId.isSome &&
      self.itemUpdatedRevision.any (fun value => 1 ≤ value && value ≤ maxStoredRevision) &&
      self.attributes.isSome)

/-- The checks of `try_on_assets`. -/
def allowed (ordinal : ℕ) (self : TryOnAssetRow) : Bool :=
  ordinal ≤ maxAssetOrdinal ∧ (self.parentMediaType = "image/jpeg" ∨
      self.parentMediaType = "image/png" ∨ self.parentMediaType = "image/webp") ∧
    (1 ≤ self.parentByteLength ∧ self.parentByteLength ≤ 41943040) ∧
    (1 ≤ self.parentWidth ∧ self.parentWidth ≤ 16384) ∧
    (1 ≤ self.parentHeight ∧ self.parentHeight ≤ 16384) ∧
    self.canonicalPngSha256.length = 64 ∧
    (1 ≤ self.canonicalByteLength ∧ self.canonicalByteLength ≤ 8388608) ∧
    (1 ≤ self.canonicalWidth ∧ self.canonicalWidth ≤ 4096) ∧
    (1 ≤ self.canonicalHeight ∧ self.canonicalHeight ≤ 4096) ∧ self.fitsRole ordinal

def binding (ordinal : ℕ) (self : TryOnAssetRow) : Except PlatformError ApprovalAssetBinding := do
  let role ← parseRole self.role
  .ok {
    ordinal
    role
    sourceRevisionId := self.sourceRevisionId
    itemId := self.itemId
    evidenceId := self.evidenceId
    sourceId := self.sourceId
    itemUpdatedRevision := self.itemUpdatedRevision
    attributes := self.attributes
    parentBlobSha256 := self.parentBlobSha256
    parentMediaType := self.parentMediaType
    parentByteLength := self.parentByteLength
    parentWidth := self.parentWidth
    parentHeight := self.parentHeight
    canonicalSha256 := self.canonicalPngSha256
    canonicalByteLength := self.canonicalByteLength
    canonicalWidth := self.canonicalWidth
    canonicalHeight := self.canonicalHeight }

end TryOnAssetRow

def SnapshotAsset.row (self : SnapshotAsset) : TryOnAssetRow where
  role := roleDb self.role
  sourceRevisionId := self.sourceRevisionId
  itemId := self.itemId
  evidenceId := self.evidenceId
  sourceId := self.sourceId
  itemUpdatedRevision := self.itemUpdatedRevision
  attributes := self.attributes
  parentBlobSha256 := self.parentBlobSha256
  parentMediaType := self.parentMediaType
  parentByteLength := self.parentByteLength
  parentWidth := self.parentWidth
  parentHeight := self.parentHeight
  canonicalPngSha256 := self.canonicalSha256
  canonicalByteLength := self.canonicalByteLength
  canonicalWidth := self.canonicalWidth
  canonicalHeight := self.canonicalHeight

/-- **What is bound of an image** is the same from memory and from its row. -/
theorem binding_row (asset : SnapshotAsset) :
    asset.row.binding asset.ordinal = .ok asset.approvalBinding := by
  simp only [TryOnAssetRow.binding, SnapshotAsset.row, parseRole_roleDb]
  rfl

/-- A row of `try_on_approvals`; the columns that are the same for all are left out. -/
structure TryOnApprovalRow where
  previewRequestId : RequestId
  envelopeHash : String
  outfitId : OutfitId
  outfitName : String
  outfitCreatedRevision : ℕ
  expectedOutfitRevision : ℕ
  credentialId : CredentialId
  retention : OpenAiRetentionDeclarationV1
  assetSnapshotSha256 : String
  garmentCount : ℕ
  expiresAtMs : ℤ
  consumedRequestId : Option RequestId
  createdAtMs : ℤ

/-- A character of the texts that name revisions. -/
def isIdentifierChar (c : Char) : Bool :=
  ('A' ≤ c ∧ c ≤ 'Z') ∨ ('a' ≤ c ∧ c ≤ 'z') ∨ ('0' ≤ c ∧ c ≤ '9') ∨ c = '.' ∨ c = '_' ∨ c = ':' ∨
    c = '-'

/-- The checks of `try_on_approvals`. -/
def TryOnApprovalRow.allowed (self : TryOnApprovalRow) : Bool :=
  self.envelopeHash.length = 64 ∧
    (1 ≤ self.outfitName.length ∧ self.outfitName.length ≤ 80) ∧
    self.outfitName.toList = sqlTrim self.outfitName ∧
    (1 ≤ self.outfitCreatedRevision ∧ self.outfitCreatedRevision ≤ maxStoredRevision) ∧
    self.expectedOutfitRevision ≤ maxStoredRevision ∧
    (1 ≤ self.retention.provenance.length ∧ self.retention.provenance.length ≤ 128) ∧
    self.retention.provenance.toList.all isIdentifierChar ∧
    self.assetSnapshotSha256.length = 64 ∧
    (2 ≤ self.garmentCount ∧ self.garmentCount ≤ 8) ∧ 0 ≤ self.expiresAtMs ∧
    0 ≤ self.createdAtMs ∧ self.createdAtMs ≤ self.expiresAtMs

/-- A row of `try_on_jobs`. -/
structure TryOnJobRow where
  requestId : RequestId
  approvalId : TryOnApprovalId
  envelopeHash : String
  state : TryOnJobStateV1
  availableAtMs : ℤ
  attemptCount : ℕ
  fence : ℕ
  leaseOwner : Option String
  leaseExpiresAtMs : Option ℤ
  terminalAttemptId : Option TryOnAttemptId
  failure : Option TryOnFailureV1
  createdAtMs : ℤ
  updatedAtMs : ℤ

def TryOnJobRow.fitsState (self : TryOnJobRow) : Bool :=
  match self.state with
  | .running => self.leaseOwner.isSome && self.leaseExpiresAtMs.isSome &&
      self.terminalAttemptId.isNone && self.failure.isNone
  | .queued => self.leaseOwner.isNone && self.leaseExpiresAtMs.isNone &&
      self.terminalAttemptId.isNone && self.failure.isNone
  | .succeeded => self.leaseOwner.isNone && self.leaseExpiresAtMs.isNone &&
      self.terminalAttemptId.isSome && self.failure.isNone
  | .failed => self.leaseOwner.isNone && self.leaseExpiresAtMs.isNone &&
      self.terminalAttemptId.isSome && self.failure.isSome

/-- The checks of `try_on_jobs`. -/
def TryOnJobRow.allowed (self : TryOnJobRow) : Bool :=
  self.envelopeHash.length = 64 ∧ 0 ≤ self.availableAtMs ∧ self.attemptCount ≤ 1 ∧
    0 ≤ self.createdAtMs ∧ self.createdAtMs ≤ self.updatedAtMs ∧ self.fitsState

inductive TryOnAttemptState
  | prepared
  | dispatched
  | materializing
  | succeeded
  | failed
  deriving DecidableEq

/-- What the transport reports about an answer. -/
structure TryOnAnswerMetadata where
  requestId : Option String
  status : ℕ
  latencyMs : ℕ
  responseBytes : ℕ

/-- What is kept about a call: that it was started, and how it was answered. -/
structure TryOnAudit where
  transportStartedAtMs : ℤ
  answer : Option TryOnAnswerMetadata

/-- What an attempt is about to store. -/
structure TryOnOutputIntent where
  sha256 : String
  byteLength : ℕ
  deriving DecidableEq

/-- A row of `try_on_attempts`, under its id; the width and height of an output are constants. -/
structure TryOnAttemptRow where
  fence : ℕ
  state : TryOnAttemptState
  audit : Option TryOnAudit
  output : Option TryOnOutputIntent
  failure : Option TryOnFailureV1
  createdAtMs : ℤ
  updatedAtMs : ℤ

def TryOnAttemptRow.fitsState (self : TryOnAttemptRow) : Bool :=
  match self.state with
  | .materializing | .succeeded => self.output.isSome && self.failure.isNone
  | .failed => self.failure.isSome
  | .prepared | .dispatched => self.output.isNone && self.failure.isNone

/-- The checks of `try_on_attempts`. -/
def TryOnAttemptRow.allowed (self : TryOnAttemptRow) : Bool :=
  0 < self.fence ∧ (∀ intent ∈ self.output, intent.sha256.length = 64 ∧
      1 ≤ intent.byteLength ∧ intent.byteLength ≤ maxTryOnOutputBytes) ∧
    0 ≤ self.createdAtMs ∧ self.createdAtMs ≤ self.updatedAtMs ∧ self.fitsState

/-- A row of `try_on_outputs`, under its id. -/
structure TryOnOutputRow where
  blobSha256 : String
  byteLength : ℕ
  assetSnapshotSha256 : String
  createdAtMs : ℤ

/-- The checks of `try_on_outputs`. -/
def TryOnOutputRow.allowed (self : TryOnOutputRow) : Bool :=
  (1 ≤ self.byteLength ∧ self.byteLength ≤ maxTryOnOutputBytes) ∧ 0 ≤ self.createdAtMs

/-- A row of `photo_source_revisions`. -/
structure PhotoSourceRevisionRow where
  eligible : Bool
  blobSha256 : Option String
  byteLength : Option ℕ
  mediaType : Option String
  width : Option ℕ
  height : Option ℕ

/-- A row of `credential_references`. -/
structure CredentialReferenceRow where
  provider : String
  status : String
  locator : String

/-! ## Tables -/

structure TryOnTables where
  outfits : OutfitTables
  photoRevisions : Table PhotoSourceRevisionId PhotoSourceRevisionRow
  /-- `photo_artifacts.source_revision_id` -/
  photoArtifacts : Table PhotoArtifactId PhotoSourceRevisionId
  credentials : Table CredentialId CredentialReferenceRow
  tryOnRevision : ℕ
  approvals : Table TryOnApprovalId TryOnApprovalRow
  assets : Table (TryOnApprovalId × ℕ) TryOnAssetRow
  jobs : Table TryOnJobId TryOnJobRow
  attempts : Table TryOnAttemptId TryOnAttemptRow
  outputs : Table TryOnOutputId TryOnOutputRow
  previews : Table RequestId PreviewTryOnV1Response
  submissions : Table RequestId SubmitTryOnV1Response

abbrev TryOnTransaction (α : Type) : Type := Fallible TryOnTables PlatformError α

def TryOnTables.receipts (t : TryOnTables) : Table RequestId Catalog.CommandReceiptRow :=
  t.outfits.catalog.commandReceipts

end Threadbook.TryOn
