import Threadbook.Attire.OutfitTables

/-!
# The try-on contract

A picture of a person wearing an outfit is asked for in two steps: a preview says which images
would be sent and is approved, and a submission spends the approval on one job. Here are the
requests, the disclosure, the approval, the job with its failure and its output, and the page
that shows an outfit's latest job, each with its `validate`.
-/

namespace Threadbook.TryOn

open Catalog (EvidenceId)
open Outfits (OutfitId)
open Promotion (ItemAttributesV1 RequestId ReplayStatusV1)

/-! ## Checks -/

/-- Stop with an error if the condition holds. -/
def rejectWhen {ε : Type} (e : ε) (p : Prop) [Decidable p] : Except ε Unit :=
  if p then .error e else .ok ()

theorem rejectWhen_bind_eq_ok {ε β : Type} {e : ε} {p : Prop} [Decidable p]
    {f : Unit → Except ε β} {b : β} :
    (rejectWhen e p >>= f) = .ok b ↔ ¬ p ∧ f () = .ok b := by
  rw [check_then_eq_ok, rejectWhen, check_unless_eq_ok, and_iff_left rfl]

/-! ## Identifiers and bounds -/

structure TryOnApprovalId where
  previewRequestId : RequestId
  deriving DecidableEq

structure TryOnJobId where
  requestId : RequestId
  deriving DecidableEq

structure TryOnAttemptId where
  jobId : TryOnJobId
  deriving DecidableEq

structure TryOnOutputId where
  jobId : TryOnJobId
  deriving DecidableEq

abbrev PhotoSourceRevisionId := ReceiptUuidId

abbrev PhotoArtifactId := ReceiptUuidId

abbrev CredentialId := ReceiptUuidId

def tryOnProvider : String := "openai"

def tryOnModel : String := "gpt-image-2"

def tryOnPurpose : String := "outfit_try_on_visualization"

def tryOnPromptRevision : String := "p08-try-on-prompt-v1"

def tryOnDisclosureRevision : String := "p08-openai-image-edits-disclosure-v1"

def tryOnPresentationLabel : String :=
  "AI visualization. Not an accurate representation of fit or garment construction."

def tryOnOutputMediaType : String := "image/png"

def tryOnOutputWidth : ℕ := 1024

def tryOnOutputHeight : ℕ := 1536

def tryOnMinGarments : ℕ := 2

def tryOnMaxGarments : ℕ := Outfits.maxOutfitMembers

/-- The most bytes all images of a request may have together. -/
def maxTryOnAggregateInputBytes : ℕ := 41943040

def maxTryOnOutputBytes : ℕ := 12582912

def tryOnMaxAttempts : ℕ := 1

/-! ## Timestamps -/

def isDigitAt (bytes : List UInt8) (index : ℕ) : Bool :=
  bytes[index]?.any fun b => 48 ≤ b.toNat && b.toNat ≤ 57

def isCharAt (bytes : List UInt8) (index : ℕ) (c : Char) : Bool :=
  bytes[index]?.any fun b => b.toNat == c.toNat

def parseTwoDigits (bytes : List UInt8) (offset : ℕ) : Option ℕ := do
  let high ← bytes[offset]?
  let low ← bytes[offset + 1]?
  if isDigitAt bytes offset && isDigitAt bytes (offset + 1) then
    some ((high.toNat - 48) * 10 + (low.toNat - 48))
  else none

def timestampDigits : List ℕ := [0, 1, 2, 3, 5, 6, 8, 9, 11, 12, 14, 15, 17, 18]

/-- A timestamp in UTC with at most nine digits of a second's fraction. -/
def isBoundedTimestamp (value : String) : Bool :=
  let bytes := utf8Bytes value
  let shapeValid := (bytes.length == 20 || (22 ≤ bytes.length && bytes.length ≤ 30)) &&
    isCharAt bytes 4 '-' && isCharAt bytes 7 '-' && isCharAt bytes 10 'T' &&
    isCharAt bytes 13 ':' && isCharAt bytes 16 ':' && isCharAt bytes (bytes.length - 1) 'Z' &&
    timestampDigits.all (isDigitAt bytes) &&
    (bytes.length == 20 || (isCharAt bytes 19 '.' &&
      ((bytes.drop 20).dropLast).all fun b => 48 ≤ b.toNat && b.toNat ≤ 57))
  shapeValid &&
    (parseTwoDigits bytes 5).any (fun value => 1 ≤ value && value ≤ 12) &&
    (parseTwoDigits bytes 8).any (fun value => 1 ≤ value && value ≤ 31) &&
    (parseTwoDigits bytes 11).any (fun value => value ≤ 23) &&
    (parseTwoDigits bytes 14).any (fun value => value ≤ 59) &&
    (parseTwoDigits bytes 17).any (fun value => value ≤ 59)

def isBoundedDisplayName (value : String) : Bool :=
  trim value ≠ [] ∧ trim value = value.toList ∧ value.length ≤ 80 ∧ ¬ value.toList.any isControl

/-! ## Requests -/

structure PreviewTryOnV1Request where
  schemaVersion : ℕ
  requestId : RequestId
  outfitId : OutfitId
  portraitSourceRevisionId : PhotoSourceRevisionId
  credentialId : CredentialId
  retention : OpenAiRetentionDeclarationV1
  expectedOutfitRevision : ℕ

def PreviewTryOnV1Request.validate (self : PreviewTryOnV1Request) :
    Except ValidationError Unit := do
  requireSchemaV1 self.schemaVersion
  self.retention.validate
  if 0 < self.expectedOutfitRevision ∧ self.expectedOutfitRevision < maxSafeIntegerV1 then .ok ()
  else .error ⟨.attributes⟩

structure SubmitTryOnV1Request where
  schemaVersion : ℕ
  requestId : RequestId
  approvalId : TryOnApprovalId

def SubmitTryOnV1Request.validate (self : SubmitTryOnV1Request) : Except ValidationError Unit :=
  requireSchemaV1 self.schemaVersion

structure GetOutfitTryOnV1Request where
  schemaVersion : ℕ
  requestId : RequestId
  outfitId : OutfitId

def GetOutfitTryOnV1Request.validate (self : GetOutfitTryOnV1Request) :
    Except ValidationError Unit :=
  requireSchemaV1 self.schemaVersion

/-! ## The disclosure -/

/-- What an image shows. -/
inductive TryOnAssetRoleV1
  | portrait
  | garment
  deriving DecidableEq

/-- An image that would be sent. -/
structure TryOnDisclosureAssetV1 where
  ordinal : ℕ
  role : TryOnAssetRoleV1
  transmittedFilename : String
  portraitSourceRevisionId : Option PhotoSourceRevisionId
  portraitArtifactId : Option PhotoArtifactId
  itemId : Option ItemId
  evidenceId : Option EvidenceId
  sourceId : Option SourceId
  canonicalSha256 : String
  mediaType : String
  byteLength : ℕ
  width : ℕ
  height : ℕ

def referenceFilename (ordinal : ℕ) : String :=
  "reference-" ++ String.ofList ((Nat.toDigits 10 ordinal).leftpad 2 '0') ++ ".png"

namespace TryOnDisclosureAssetV1

def identityValid (self : TryOnDisclosureAssetV1) : Bool :=
  match self.role with
  | .portrait => self.portraitSourceRevisionId.isSome && self.portraitArtifactId.isSome &&
      self.itemId.isNone && self.evidenceId.isNone && self.sourceId.isNone
  | .garment => self.portraitSourceRevisionId.isNone && self.portraitArtifactId.isNone &&
      self.itemId.isSome && self.evidenceId.isSome && self.sourceId.isSome

def validate (self : TryOnDisclosureAssetV1) : Except ValidationError Unit :=
  if self.identityValid ∧ self.transmittedFilename = referenceFilename self.ordinal ∧
      self.mediaType = tryOnOutputMediaType ∧
      (1 ≤ self.byteLength ∧ self.byteLength ≤ maxTryOnInputBytes) ∧
      (0 < self.width ∧ 0 < self.height ∧ self.width ≤ maxTryOnInputAxis ∧
        self.height ≤ maxTryOnInputAxis ∧ self.width * self.height ≤ maxTryOnInputPixels) then
    .ok ()
  else .error ⟨.attributes⟩

end TryOnDisclosureAssetV1

/-- How long what is sent is kept. -/
structure TryOnRetentionDisclosureV1 where
  revision : String
  declaration : OpenAiRetentionDeclarationV1
  imagesApiHasApplicationStateRetention : Bool
  defaultAbuseMonitoringMaxDays : ℕ
  modelIsZdrCompatible : Bool
  compatibilityIsNotProjectEnrollment : Bool
  csamInputScanningApplies : Bool
  flaggedInputsMayBeRetainedForReview : Bool

def TryOnRetentionDisclosureV1.validate (self : TryOnRetentionDisclosureV1) :
    Except ValidationError Unit := do
  self.declaration.validate
  if self.revision = tryOnDisclosureRevision ∧ ¬ self.imagesApiHasApplicationStateRetention ∧
      self.defaultAbuseMonitoringMaxDays = 30 ∧ self.modelIsZdrCompatible ∧
      self.compatibilityIsNotProjectEnrollment ∧ self.csamInputScanningApplies ∧
      self.flaggedInputsMayBeRetainedForReview then .ok ()
  else .error ⟨.attributes⟩

/-- What the user is told before anything is sent. -/
structure TryOnDisclosureV1 where
  provider : String
  model : String
  purpose : String
  promptRevision : String
  assets : List TryOnDisclosureAssetV1
  retention : TryOnRetentionDisclosureV1

/-- Accept images in the order of their ordinals: the portrait first, then the garments, no item
twice; what is left of the bytes they may have together. -/
def validateDisclosureAssets : ℕ → List ItemId → ℕ → List TryOnDisclosureAssetV1 →
    Except ValidationError ℕ
  | _, _, aggregate, [] => .ok aggregate
  | index, itemIds, aggregate, asset :: rest => do
    asset.validate
    rejectWhen ⟨.attributes⟩ (asset.ordinal ≠ index ∨ ¬ (index = 0 ↔ asset.role = .portrait))
    rejectWhen ⟨.attributes⟩ (asset.itemId.any (· ∈ itemIds))
    validateDisclosureAssets (index + 1) (asset.itemId.toList ++ itemIds)
      (aggregate + asset.byteLength) rest

def TryOnDisclosureV1.validate (self : TryOnDisclosureV1) : Except ValidationError Unit := do
  self.retention.validate
  if self.provider ≠ tryOnProvider ∨ self.model ≠ tryOnModel ∨ self.purpose ≠ tryOnPurpose ∨
      self.promptRevision ≠ tryOnPromptRevision ∨
      ¬ (tryOnMinGarments + 1 ≤ self.assets.length ∧
        self.assets.length ≤ tryOnMaxGarments + 1) then .error ⟨.attributes⟩
  else do
    let aggregate ← validateDisclosureAssets 0 [] 0 self.assets
    if aggregate ≤ maxTryOnAggregateInputBytes then .ok () else .error ⟨.attributes⟩

structure TryOnApprovalV1 where
  approvalId : TryOnApprovalId
  outfitId : OutfitId
  expiresAt : String
  singleUse : Bool
  garmentCount : ℕ
  assetSnapshotSha256 : String
  outfitRevision : ℕ

def TryOnApprovalV1.validate (self : TryOnApprovalV1) : Except ValidationError Unit :=
  if self.singleUse ∧ isBoundedTimestamp self.expiresAt ∧
      (tryOnMinGarments ≤ self.garmentCount ∧ self.garmentCount ≤ tryOnMaxGarments) ∧
      0 < self.outfitRevision ∧ self.outfitRevision < maxSafeIntegerV1 then .ok ()
  else .error ⟨.attributes⟩

structure PreviewTryOnV1Response where
  schemaVersion : ℕ
  requestId : RequestId
  disclosure : TryOnDisclosureV1
  approval : TryOnApprovalV1
  replayStatus : ReplayStatusV1

def PreviewTryOnV1Response.validate (self : PreviewTryOnV1Response) :
    Except ValidationError Unit := do
  requireSchemaV1 self.schemaVersion
  self.disclosure.validate
  self.approval.validate
  if self.approval.garmentCount + 1 = self.disclosure.assets.length then .ok ()
  else .error ⟨.attributes⟩

/-! ## Jobs -/

inductive TryOnJobStateV1
  | queued
  | running
  | succeeded
  | failed
  deriving DecidableEq

/-- Why a job failed. -/
inductive TryOnFailureCodeV1
  | moderationBlocked
  | rateLimited
  | providerFailure
  | providerUnavailable
  | outcomeUnknown
  | authentication
  | permissionDenied
  | requestRejected
  | providerProtocol
  | credentialUnavailable
  | approvalExpired
  | approvalConsumed
  | snapshotStale
  | assetUnavailable
  | assetIntegrity
  | outputMaterializationInterrupted
  | cancelled

inductive TryOnUserActionV1
  | none
  | startNewPreview
  | retryWhenAvailable
  | checkOpenAiCredential
  | reviewSourceAssets
  | reviewProviderStatus
  deriving DecidableEq

/-- Whether a failure may pass, and what to do about it. -/
def TryOnFailureCodeV1.contract : TryOnFailureCodeV1 → Bool × TryOnUserActionV1
  | .moderationBlocked => (false, .reviewSourceAssets)
  | .cancelled => (false, .none)
  | .rateLimited | .providerFailure => (true, .startNewPreview)
  | .providerUnavailable => (true, .retryWhenAvailable)
  | .outcomeUnknown => (false, .reviewProviderStatus)
  | .authentication | .permissionDenied | .credentialUnavailable => (true, .checkOpenAiCredential)
  | .requestRejected | .snapshotStale | .assetUnavailable | .assetIntegrity =>
    (true, .reviewSourceAssets)
  | .providerProtocol | .approvalExpired | .approvalConsumed
  | .outputMaterializationInterrupted => (true, .startNewPreview)

structure TryOnFailureV1 where
  code : TryOnFailureCodeV1
  retryable : Bool
  userAction : TryOnUserActionV1

def TryOnFailureV1.validate (self : TryOnFailureV1) : Except ValidationError Unit :=
  if (self.retryable, self.userAction) = self.code.contract then .ok () else .error ⟨.attributes⟩

structure TryOnJobV1 where
  jobId : TryOnJobId
  approvalId : TryOnApprovalId
  outfitId : OutfitId
  state : TryOnJobStateV1
  attemptCount : ℕ
  createdAt : String
  updatedAt : String
  completedAt : Option String
  failure : Option TryOnFailureV1

def TryOnJobV1.stateValid (self : TryOnJobV1) : Bool :=
  match self.state with
  | .queued => self.attemptCount == 0 && self.completedAt.isNone && self.failure.isNone
  | .running => self.attemptCount == 1 && self.completedAt.isNone && self.failure.isNone
  | .succeeded => self.attemptCount == 1 && self.completedAt.isSome && self.failure.isNone
  | .failed => self.attemptCount ≤ 1 && self.completedAt.isSome && self.failure.isSome

def TryOnJobV1.validate (self : TryOnJobV1) : Except ValidationError Unit :=
  if tryOnMaxAttempts < self.attemptCount ∨ ¬ isBoundedTimestamp self.createdAt ∨
      ¬ isBoundedTimestamp self.updatedAt ∨
      self.completedAt.any (fun value => !isBoundedTimestamp value) then .error ⟨.attributes⟩
  else do
    match self.failure with
    | some failure => failure.validate
    | none => .ok ()
    if self.stateValid then .ok () else .error ⟨.attributes⟩

structure SubmitTryOnV1Response where
  schemaVersion : ℕ
  requestId : RequestId
  job : TryOnJobV1
  replayStatus : ReplayStatusV1

def SubmitTryOnV1Response.validate (self : SubmitTryOnV1Response) :
    Except ValidationError Unit := do
  requireSchemaV1 self.schemaVersion
  self.job.validate

end Threadbook.TryOn
