import Mathlib.Data.List.Sort
import Mathlib.Data.Prod.Lex
import Threadbook.LinkRedaction
import Threadbook.Table

/-!
# The receipt preview: the repository's gate and the contract's

`readPreview` collects the visible fragments of a stored receipt and lets them pass
by its own tests, among them a search for three sentinels; `previewResponse` is what
the coordinator builds from them and checks against the contract. The two gates agree
on everything but addresses: `preview_accepted_iff`.
-/

namespace Threadbook

open List

/-! ## What is stored -/

structure ReceiptRevisionRow where
  available : Bool
  graphSha256 : String

structure ReceiptMaterializationRow where
  localSourceId : String
  blobSha256 : Option String

structure ReceiptParseRow where
  parseId : String
  sourceId : String
  createdAtMs : ℤ

structure ReceiptFragmentRow where
  fragmentId : String
  parseId : String
  fragmentKind : String
  ordinal : ℤ
  contentText : String
  contentSha256 : String
  byteLength : ℤ

structure ReceiptTables where
  /-- `gmail_source_revisions` by revision id -/
  revisions : Table String ReceiptRevisionRow
  /-- `gmail_revision_materializations` by revision id -/
  materializations : Table String ReceiptMaterializationRow
  /-- `local_sources`: the status of each local source -/
  localSources : Table String String
  /-- `receipt_parses` -/
  parses : List ReceiptParseRow
  /-- `receipt_fragments` -/
  fragments : List ReceiptFragmentRow

/-! ## The repository's preview -/

structure ReceiptIntelligenceBounds where
  maxFragmentCount : ℕ
  maxFragmentBytes : ℕ
  maxAggregateTextBytes : ℕ
  maxSerializedRequestBytes : ℕ
  maxRequestBytes : ℕ
  maxResponseBytes : ℕ
  maxOutputTokens : ℕ
  timeoutMs : ℕ
  maxAttempts : ℕ

def repositoryBounds (preparation : ReceiptIntelligencePreparationBoundsV1)
    (execution : ReceiptIntelligenceExecutionBoundsV1) : ReceiptIntelligenceBounds :=
  ⟨preparation.maxFragmentCount, preparation.maxFragmentBytes, preparation.maxAggregateTextBytes,
    preparation.maxSerializedRequestBytes, execution.maxRequestBytes, execution.maxResponseBytes,
    execution.maxOutputTokens, execution.timeoutMillis, execution.maxAttempts⟩

structure ReceiptIntelligencePreviewFragment where
  handle : String
  visibleText : String
  byteLength : ℕ
  contentSha256 : String
  deriving DecidableEq

/-- A preview as the repository gives it out. -/
structure ReceiptIntelligencePreview where
  sourceRevisionId : String
  localSourceId : String
  parseId : String
  sourceRevisionSha256 : String
  fragments : List ReceiptIntelligencePreviewFragment
  aggregateTextBytes : ℕ
  serializedProjectionBytes : ℕ
  fragmentSetSha256 : String
  projectionSha256 : String
  previewBindingSha256 : String
  deriving DecidableEq

structure PreviewBinding where
  requestId : String
  sourceRevisionId : String
  localSourceId : String
  parseId : String
  sourceRevisionSha256 : String
  fragmentSetSha256 : String
  projectionSha256 : String
  fragments : List ReceiptIntelligencePreviewFragment
  bounds : ReceiptIntelligenceBounds

structure PreviewServices extends ContractServices where
  projectionJson : List ReceiptIntelligencePreviewFragment → List UInt8
  fragmentSetJson : List ReceiptIntelligencePreviewFragment → List UInt8
  bindingJson : PreviewBinding → List UInt8

/-- Accept a SHA-256 digest in hexadecimal. -/
def validateHash (value code : String) : Except PlatformError Unit :=
  if isHash value then .ok () else .error (.invalidInput code)

/-- The links the repository looks for. -/
def sentinels : List String := ["http://", "https://", "www."]

/-- One of the sentinels occurs, in any ASCII letter case. -/
def containsSentinel (text : String) : Bool :=
  sentinels.any fun sentinel =>
    decide ((sentinel.toList : List Char) <:+: text.toList.map Char.toLower)

def findSourceRevision (t : ReceiptTables) (sourceRevisionId : String) :
    Option (String × String) := do
  let revision ← t.revisions.find? sourceRevisionId
  let materialization ← t.materializations.find? sourceRevisionId
  let status ← t.localSources.find? materialization.localSourceId
  if revision.available ∧ materialization.blobSha256.isSome ∧ status = "imported" then
    some (materialization.localSourceId, revision.graphSha256)
  else none

def latestParse (t : ReceiptTables) (localSourceId : String) : Option String :=
  let parses := t.parses.filter fun parse => parse.sourceId = localSourceId
  let ordered := parses.insertionSort fun left right =>
    (toLex (right.createdAtMs, right.parseId) : ℤ ×ₗ String) ≤
      toLex (left.createdAtMs, left.parseId)
  ordered.head?.map ReceiptParseRow.parseId

def visibleFragments (t : ReceiptTables) (parseId : String) : List ReceiptFragmentRow :=
  (t.fragments.filter fun fragment => fragment.parseId = parseId ∧
    (fragment.fragmentKind = "plain_text" ∨ fragment.fragmentKind = "sanitized_html")).insertionSort
    fun left right => (toLex (left.ordinal, left.fragmentId) : ℤ ×ₗ String) ≤
      toLex (right.ordinal, right.fragmentId)

def readFragments (services : PreviewServices) (bounds : ReceiptIntelligenceBounds) :
    ℕ → ℕ → List ReceiptFragmentRow →
      Except PlatformError (List ReceiptIntelligencePreviewFragment × ℕ)
  | _, aggregate, [] => .ok ([], aggregate)
  | ordinal, aggregate, row :: rest => do
    validateHash row.contentSha256 "receipt_intelligence_fragment_sha256"
    let actualLength := byteLength row.contentText
    if services.digest (utf8Bytes row.contentText) ≠ row.contentSha256 then
      .error (.corrupt "receipt_intelligence_fragment_sha256")
    else if 2 ^ 63 ≤ actualLength ∨ (actualLength : ℤ) ≠ row.byteLength then
      .error (.corrupt "receipt_intelligence_fragment_length")
    else if bounds.maxFragmentBytes < actualLength then
      .error (.invalidInput "receipt_intelligence_fragment_bytes")
    else if isBlank row.contentText ∨ row.contentText.toList.any isForbiddenControl ∨
        containsSentinel row.contentText then
      .error (.invalidInput "receipt_intelligence_visible_text")
    else if 2 ^ 64 ≤ aggregate + actualLength ∨
        bounds.maxAggregateTextBytes < aggregate + actualLength then
      .error (.invalidInput "receipt_intelligence_aggregate_text_bytes")
    else if 2 ^ 32 ≤ actualLength then
      .error (.invalidInput "receipt_intelligence_fragment_bytes")
    else
      let (fragments, total) ← readFragments services bounds (ordinal + 1) (aggregate + actualLength) rest
      .ok (⟨fragmentHandle ordinal, row.contentText, actualLength, row.contentSha256⟩ :: fragments,
        total)

def hashProjection (services : PreviewServices)
    (fragments : List ReceiptIntelligencePreviewFragment) : String :=
  services.digest (hashPart (utf8Bytes "receipt-intelligence-projection-v1") ++
    hashPart (bigEndian64 fragments.length) ++ fragments.flatMap fun fragment =>
      hashPart (utf8Bytes fragment.handle) ++ hashPart (utf8Bytes fragment.visibleText))

def readPreview (services : PreviewServices) (t : ReceiptTables) (requestId sourceRevisionId : String)
    (bounds : ReceiptIntelligenceBounds) : Except PlatformError ReceiptIntelligencePreview :=
  match findSourceRevision t sourceRevisionId with
  | none => .error (.conflict "receipt_intelligence_source_unavailable")
  | some (localSourceId, sourceRevisionSha256) => do
    validateHash sourceRevisionSha256 "receipt_intelligence_source_revision_sha256"
    match latestParse t localSourceId with
    | none => .error (.conflict "receipt_intelligence_parse_unavailable")
    | some parseId => do
      let rows := visibleFragments t parseId
      if rows = [] then .error (.conflict "receipt_intelligence_visible_text_unavailable")
      else if bounds.maxFragmentCount < rows.length then
        .error (.invalidInput "receipt_intelligence_fragment_count")
      else
        let (fragments, aggregate) ← readFragments services bounds 0 0 rows
        let serializedProjectionBytes := (services.projectionJson fragments).length
        if bounds.maxSerializedRequestBytes < serializedProjectionBytes then
          .error (.invalidInput "receipt_intelligence_serialized_request_bytes")
        else if 2 ^ 32 ≤ aggregate then
          .error (.invalidInput "receipt_intelligence_aggregate_text_bytes")
        else if 2 ^ 32 ≤ serializedProjectionBytes then
          .error (.invalidInput "receipt_intelligence_request_bytes")
        else
          let fragmentSetSha256 := services.digest (services.fragmentSetJson fragments)
          let projectionSha256 := hashProjection services fragments
          let binding := services.bindingJson ⟨requestId, sourceRevisionId, localSourceId, parseId,
            sourceRevisionSha256, fragmentSetSha256, projectionSha256, fragments, bounds⟩
          .ok ⟨sourceRevisionId, localSourceId, parseId, sourceRevisionSha256, fragments,
            aggregate, serializedProjectionBytes, fragmentSetSha256, projectionSha256,
            services.digest binding⟩

/-! ## The coordinator's preview -/

structure PreviewReceiptIntelligenceV1Request where
  schemaVersion : ℕ
  requestId : String
  sourceId : String

structure ReceiptIntelligencePreviewContext where
  sourceRevisionId : String
  sourceRevisionSha256 : String
  credentialId : String

structure CoordinatorServices extends PreviewServices where
  providerRequest : String → ReceiptIntelligenceProjectionV1 → Except PlatformError (List UInt8)
  timestamp : ℤ → Except PlatformError String

def ReceiptIntelligencePreview.projection (stored : ReceiptIntelligencePreview) :
    ReceiptIntelligenceProjectionV1 :=
  ⟨receiptIntelligenceProjectionRevisionV1,
    stored.fragments.map fun fragment => ⟨fragment.handle, fragment.visibleText⟩⟩

def retentionDeclaration : OpenAiRetentionDeclarationV1 :=
  ⟨.default, "openai-api-data-controls-2026-07-16"⟩

def approvalLifetimeMs : ℤ := 10 * 60 * 1000

def previewDisclosure (projection : ReceiptIntelligenceProjectionV1) :
    ReceiptIntelligenceDisclosureV1 where
  provider := receiptIntelligenceProviderV1
  model := receiptIntelligenceModelV1
  purpose := receiptIntelligencePurposeV1
  projection
  aggregateTextBytes := projection.aggregateTextBytes
  rawMimeDisclosed := false
  headersDisclosed := false
  urlsDisclosed := false
  filenamesDisclosed := false
  attachmentMetadataDisclosed := false
  cidMetadataDisclosed := false
  internalIdentifiersDisclosed := false
  hashesDisclosed := false
  credentialsDisclosed := false
  imageBytesDisclosed := false
  retention := .forDeclaration retentionDeclaration
  preparationBounds := .production
  executionBounds := .production

def previewEnvelope (services : ContractServices) (sourceId : String)
    (context : ReceiptIntelligencePreviewContext) (projection : ReceiptIntelligenceProjectionV1)
    (serialized : List UInt8) (expiresAt : String) : ReceiptIntelligenceConsentEnvelopeV1 where
  sourceId
  sourceRevisionId := context.sourceRevisionId
  sourceRevisionSha256 := context.sourceRevisionSha256
  disclosedFragmentSha256 := projection.fragmentSha256 services
  projectionSha256 := projection.sha256 services
  serializedRequestSha256 := services.digest serialized
  serializedRequestBytes := serialized.length
  credentialId := context.credentialId
  provider := receiptIntelligenceProviderV1
  model := receiptIntelligenceModelV1
  promptRevision := receiptIntelligencePromptRevisionV1
  schemaRevision := receiptIntelligenceSchemaRevisionV1
  projectionRevision := receiptIntelligenceProjectionRevisionV1
  parameterRevision := receiptIntelligenceParameterRevisionV1
  retention := .forDeclaration retentionDeclaration
  preparationBounds := .production
  executionBounds := .production
  expiresAt

/-- The answer the coordinator builds. -/
def previewResponse (services : ContractServices) (request : PreviewReceiptIntelligenceV1Request)
    (context : ReceiptIntelligencePreviewContext) (projection : ReceiptIntelligenceProjectionV1)
    (serialized : List UInt8) (expiresAt : String) : PreviewReceiptIntelligenceV1Response :=
  ⟨schemaVersionV1, request.requestId, previewDisclosure projection,
    previewEnvelope services request.sourceId context projection serialized expiresAt⟩

/-- Build the answer to a preview request from what the repository gave out, and check
it against the contract. -/
def preview (services : CoordinatorServices) (request : PreviewReceiptIntelligenceV1Request)
    (context : ReceiptIntelligencePreviewContext) (stored : ReceiptIntelligencePreview)
    (nowMs : ℤ) : Except PlatformError PreviewReceiptIntelligenceV1Response :=
  if stored.localSourceId ≠ request.sourceId ∨
      stored.sourceRevisionSha256 ≠ context.sourceRevisionSha256 then
    .error (.conflict "receipt_intelligence_source_revision_changed")
  else do
    let serialized ← services.providerRequest context.sourceRevisionId stored.projection
    if ReceiptIntelligencePreparationBoundsV1.production.maxSerializedRequestBytes <
          serialized.length ∨
        ReceiptIntelligenceExecutionBoundsV1.production.maxRequestBytes < serialized.length then
      .error (.invalidInput "receipt_intelligence_serialized_request_bytes")
    else if 2 ^ 63 ≤ nowMs + approvalLifetimeMs then
      .error (.corrupt "receipt_intelligence_expiry")
    else
      let expiresAt ← services.timestamp (nowMs + approvalLifetimeMs)
      let response := previewResponse services.toContractServices request context
        stored.projection serialized expiresAt
      match response.validate services.toContractServices with
      | .error _ => .error (.corrupt "receipt_intelligence_preview")
      | .ok () => .ok response

/-! ## The two gates -/

/-- A text contains an address: a reported scheme in front of a colon, or a reported
host name. -/
def HasAddress (text : String) : Prop :=
  (∃ before scheme after, utf8Bytes text = before ++ scheme ++ ':'.toUInt8 :: after ∧
    UriAt before scheme after) ∨
  ∃ before run after, utf8Bytes text = before ++ run ++ after ∧ WebAddressAt before run after

theorem containsUrlOrUri_eq_true_iff {text : String} :
    containsUrlOrUri text = true ↔ HasAddress text := by
  rw [containsUrlOrUri, Bool.or_eq_true, containsUriScheme_iff, containsBareWebAddress_iff,
    HasAddress]

section Gates

variable {services : PreviewServices} {bounds : ReceiptIntelligenceBounds}

/-- **The fragments passed** are well shaped, one for each place, and their length is
what was added up. -/
theorem readFragments_eq_ok {rows : List ReceiptFragmentRow} {ordinal aggregate total : ℕ}
    {fragments : List ReceiptIntelligencePreviewFragment}
    (h : readFragments services bounds ordinal aggregate rows = .ok (fragments, total)) :
    fragments.length = rows.length ∧
      total = aggregate + (fragments.map fun fragment => byteLength fragment.visibleText).sum ∧
      (aggregate ≤ bounds.maxAggregateTextBytes → total ≤ bounds.maxAggregateTextBytes) ∧
      ∀ entry ∈ fragments.zipIdx ordinal, entry.1.handle = fragmentHandle entry.2 ∧
        ¬ isBlank entry.1.visibleText ∧ ¬ entry.1.visibleText.toList.any isForbiddenControl ∧
        byteLength entry.1.visibleText ≤ bounds.maxFragmentBytes := by
  induction rows generalizing ordinal aggregate fragments total with
  | nil =>
    obtain ⟨rfl, rfl⟩ := Prod.mk.inj (Except.ok.inj h)
    simp
  | cons row rest ih =>
    rw [readFragments, check_bind_eq_ok] at h
    obtain ⟨-, -, h⟩ := h
    simp only [check_unless_eq_ok] at h
    obtain ⟨-, -, hlen, htext, haggregate, -, h⟩ := h
    obtain ⟨⟨others, sum⟩, hrest, h⟩ := check_bind_eq_ok.mp h
    obtain ⟨rfl, rfl⟩ := Prod.mk.inj (Except.ok.inj h)
    obtain ⟨hcount, hsum, hbound, hall⟩ := ih hrest
    simp only [not_or, not_lt] at htext hlen haggregate
    refine ⟨by simp [hcount], ?_, fun _ => hbound haggregate.2, ?_⟩
    · rw [hsum, map_cons, sum_cons, Nat.add_assoc]
    · rw [zipIdx_cons, forall_mem_cons]
      exact ⟨⟨rfl, htext.1, htext.2.1, hlen⟩, hall⟩

theorem readPreview_eq_ok {t : ReceiptTables} {requestId sourceRevisionId : String}
    {stored : ReceiptIntelligencePreview}
    (h : readPreview services t requestId sourceRevisionId bounds = .ok stored) :
    ∃ rows aggregate, rows ≠ [] ∧ rows.length ≤ bounds.maxFragmentCount ∧
      readFragments services bounds 0 0 rows = .ok (stored.fragments, aggregate) := by
  rw [readPreview] at h
  split at h
  · cases h
  · obtain ⟨-, -, h⟩ := check_bind_eq_ok.mp h
    split at h
    · cases h
    · simp only [check_unless_eq_ok] at h
      obtain ⟨hne, hcount, h⟩ := h
      obtain ⟨⟨fragments, aggregate⟩, hread, h⟩ := check_bind_eq_ok.mp h
      simp only [check_unless_eq_ok] at h
      obtain ⟨-, -, -, h⟩ := h
      cases h
      exact ⟨_, aggregate, hne, not_lt.mp hcount, hread⟩

/-- **What the repository lets pass is well shaped** for the contract. -/
theorem projection_wellShaped {t : ReceiptTables} {requestId sourceRevisionId : String}
    {stored : ReceiptIntelligencePreview}
    (h : readPreview services t requestId sourceRevisionId
      (repositoryBounds .production .production) = .ok stored) :
    stored.projection.WellShaped := by
  obtain ⟨rows, aggregate, hne, hcount, hread⟩ := readPreview_eq_ok h
  obtain ⟨hlen, hsum, hbound, hall⟩ := readFragments_eq_ok hread
  refine ⟨rfl, ?_, ?_, ?_, ?_⟩
  · intro hnil
    have hfragments : stored.fragments = [] := map_eq_nil_iff.mp hnil
    rw [hfragments] at hlen
    exact hne (length_eq_zero_iff.mp hlen.symm)
  · change (stored.fragments.map _).length ≤ 64
    rw [length_map, hlen]
    exact hcount
  · have htotal : aggregate ≤ 128 * 1024 := hbound (Nat.zero_le _)
    have hle : ∀ l : List ReceiptIntelligencePreviewFragment,
        (l.map fun fragment => byteLength fragment.visibleText % 2 ^ 32).sum ≤
          (l.map fun fragment => byteLength fragment.visibleText).sum := by
      intro l
      induction l with
      | nil => rfl
      | cons fragment rest ih =>
        rw [map_cons, map_cons, sum_cons, sum_cons]
        exact Nat.add_le_add (Nat.mod_le _ _) ih
    have hmap := hle stored.fragments
    rw [ReceiptIntelligenceProjectionV1.aggregateTextBytes]
    refine le_trans (Nat.mod_le _ _) ?_
    change ((stored.fragments.map _).map _).sum ≤ _
    rw [map_map]
    refine le_trans hmap ?_
    omega
  · intro entry he
    have hmap : stored.projection.fragments.zipIdx = stored.fragments.zipIdx.map fun entry =>
        (⟨entry.1.handle, entry.1.visibleText⟩, entry.2) := by
      rw [ReceiptIntelligencePreview.projection, zipIdx_map]
      rfl
    rw [hmap] at he
    obtain ⟨⟨fragment, ordinal⟩, hmem, rfl⟩ := mem_map.mp he
    obtain ⟨hhandle, hblank, hcontrol, hbytes⟩ := hall _ hmem
    refine ⟨hhandle, fun hempty => hblank ?_, hblank, hbytes, hcontrol⟩
    have htext : fragment.visibleText = "" := by simpa using hempty
    change isBlank fragment.visibleText = true
    rw [htext]
    decide

end Gates

structure ReachesContract (services : CoordinatorServices)
    (request : PreviewReceiptIntelligenceV1Request) (context : ReceiptIntelligencePreviewContext)
    (stored : ReceiptIntelligencePreview) (nowMs : ℤ) (serialized : List UInt8)
    (expiresAt : String) : Prop where
  source : stored.localSourceId = request.sourceId
  revision : stored.sourceRevisionSha256 = context.sourceRevisionSha256
  requests : services.providerRequest context.sourceRevisionId stored.projection = .ok serialized
  nonempty : serialized ≠ []
  fits : serialized.length ≤ 256 * 1024
  clock : nowMs + approvalLifetimeMs < 2 ^ 63
  formats : services.timestamp (nowMs + approvalLifetimeMs) = .ok expiresAt
  parses : validateTimestamp services.toContractServices expiresAt = .ok ()

theorem previewDisclosure_validate_eq_ok {projection : ReceiptIntelligenceProjectionV1} :
    (previewDisclosure projection).validate = .ok () ↔ projection.validate = .ok () := by
  rw [ReceiptIntelligenceDisclosureV1.validate]
  constructor
  · intro h
    obtain ⟨-, -, h⟩ := check_bind_eq_ok.mp h
    obtain ⟨-, -, h⟩ := check_bind_eq_ok.mp h
    obtain ⟨⟨⟩, hprojection, -⟩ := check_bind_eq_ok.mp h
    exact hprojection
  · intro hprojection
    have hretention : (ReceiptIntelligenceRetentionDisclosureV1.forDeclaration
        retentionDeclaration).validate = .ok () := by decide
    refine check_bind_eq_ok.mpr ⟨(), rfl, check_bind_eq_ok.mpr ⟨(), rfl,
      check_bind_eq_ok.mpr ⟨(), hprojection, check_bind_eq_ok.mpr ⟨(), hretention, if_pos ?_⟩⟩⟩⟩
    simp [previewDisclosure]

variable {request : PreviewReceiptIntelligenceV1Request}
  {context : ReceiptIntelligencePreviewContext} {nowMs : ℤ} {serialized : List UInt8}
  {expiresAt : String}

theorem previewEnvelope_validate_eq_ok {services : CoordinatorServices}
    {stored : ReceiptIntelligencePreview}
    (h : ReachesContract services request context stored nowMs serialized expiresAt)
    (hshape : stored.projection.WellShaped) :
    (previewEnvelope services.toContractServices request.sourceId context stored.projection
      serialized expiresAt).validate services.toContractServices = .ok () := by
  have htext : stored.projection.fragmentSha256 services.toContractServices ≠ [] := by
    rw [ReceiptIntelligenceProjectionV1.fragmentSha256, Ne, map_eq_nil_iff]
    exact hshape.nonempty
  have hcount : (stored.projection.fragmentSha256 services.toContractServices).length ≤ 64 := by
    rw [ReceiptIntelligenceProjectionV1.fragmentSha256, length_map]
    exact hshape.count
  have hserialized : serialized.length ≠ 0 := fun hzero =>
    h.nonempty (length_eq_zero_iff.mp hzero)
  have hretention : (ReceiptIntelligenceRetentionDisclosureV1.forDeclaration
      retentionDeclaration).validate = .ok () := by decide
  rw [ReceiptIntelligenceConsentEnvelopeV1.validate]
  refine check_bind_eq_ok.mpr ⟨(), hretention, check_bind_eq_ok.mpr ⟨(), rfl,
    check_bind_eq_ok.mpr ⟨(), rfl, check_bind_eq_ok.mpr ⟨(), h.parses, if_neg ?_⟩⟩⟩⟩
  simp only [previewEnvelope, not_or, not_lt, not_not, and_true]
  exact ⟨htext, hcount, hserialized, h.fits, h.fits⟩

theorem previewResponse_validate_eq_ok {services : CoordinatorServices}
    {stored : ReceiptIntelligencePreview}
    (h : ReachesContract services request context stored nowMs serialized expiresAt)
    (hshape : stored.projection.WellShaped) :
    (previewResponse services.toContractServices request context stored.projection serialized
        expiresAt).validate services.toContractServices = .ok () ↔
      stored.projection.validate = .ok () := by
  rw [PreviewReceiptIntelligenceV1Response.validate, check_bind_eq_ok,
    ← previewDisclosure_validate_eq_ok]
  have henvelope := previewEnvelope_validate_eq_ok h hshape
  constructor
  · rintro ⟨u, -, hpreview⟩
    obtain ⟨-, -, hagainst⟩ := check_bind_eq_ok.mp hpreview
    obtain ⟨⟨⟩, hdisclosure, -⟩ := check_bind_eq_ok.mp hagainst
    exact hdisclosure
  · intro hdisclosure
    refine ⟨(), rfl, check_bind_eq_ok.mpr ⟨(), henvelope, check_bind_eq_ok.mpr
      ⟨(), hdisclosure, if_pos ?_⟩⟩⟩
    exact ⟨rfl, rfl, hshape.revision.symm, rfl, rfl, rfl, rfl, rfl⟩

theorem preview_of_reachesContract {services : CoordinatorServices}
    {stored : ReceiptIntelligencePreview}
    (h : ReachesContract services request context stored nowMs serialized expiresAt) :
    preview services request context stored nowMs =
      let response := previewResponse services.toContractServices request context
        stored.projection serialized expiresAt
      match response.validate services.toContractServices with
      | .error _ => .error (.corrupt "receipt_intelligence_preview")
      | .ok () => .ok response := by
  have hsame : ¬ (stored.localSourceId ≠ request.sourceId ∨
      stored.sourceRevisionSha256 ≠ context.sourceRevisionSha256) := by
    rintro (hne | hne)
    · exact hne h.source
    · exact hne h.revision
  have hfits : ¬ (ReceiptIntelligencePreparationBoundsV1.production.maxSerializedRequestBytes <
      serialized.length ∨
      ReceiptIntelligenceExecutionBoundsV1.production.maxRequestBytes < serialized.length) := by
    rintro (hlt | hlt)
    · exact absurd h.fits (not_le.mpr hlt)
    · exact absurd h.fits (not_le.mpr hlt)
  rw [preview, if_neg hsame, h.requests]
  change (if _ then _ else _) = _
  rw [if_neg hfits, if_neg (not_le.mpr h.clock), h.formats]
  rfl

/-- **The two gates** agree on everything but addresses: the contract accepts what the
repository let pass exactly when no visible text contains an address, and then, and
only then, the coordinator's answer is not a corrupt preview. -/
theorem preview_accepted_iff {services : CoordinatorServices} {t : ReceiptTables}
    {requestId sourceRevisionId : String} {stored : ReceiptIntelligencePreview}
    (hread : readPreview services.toPreviewServices t requestId sourceRevisionId
      (repositoryBounds .production .production) = .ok stored) :
    (stored.projection.validate = .ok () ↔
      ∀ fragment ∈ stored.fragments, ¬ HasAddress fragment.visibleText) ∧
    ∀ request context nowMs serialized expiresAt,
      ReachesContract services request context stored nowMs serialized expiresAt →
      (preview services request context stored nowMs ≠
          .error (.corrupt "receipt_intelligence_preview") ↔
        ∀ fragment ∈ stored.fragments, ¬ HasAddress fragment.visibleText) := by
  have hshape := projection_wellShaped hread
  have hprojection : stored.projection.validate = .ok () ↔
      ∀ fragment ∈ stored.fragments, ¬ HasAddress fragment.visibleText := by
    rw [ReceiptIntelligenceProjectionV1.validate_eq_ok, and_iff_right hshape]
    simp only [ReceiptIntelligencePreview.projection, List.forall_mem_map,
      ← containsUrlOrUri_eq_true_iff, Bool.not_eq_true]
  refine ⟨hprojection, fun request context nowMs serialized expiresAt h => ?_⟩
  rw [← hprojection, ← previewResponse_validate_eq_ok h hshape, preview_of_reachesContract h]
  rcases hvalidate : (previewResponse services.toContractServices request context
    stored.projection serialized expiresAt).validate services.toContractServices with e | u
  · simp [hvalidate]
  · simp [hvalidate]

namespace PreviewExample

/-- Sixty-four zeros for every text. -/
def services : CoordinatorServices where
  digest := fun _ => "0000000000000000000000000000000000000000000000000000000000000000"
  parsesTimestamp := fun _ => true
  projectionJson := fun _ => utf8Bytes "\x7b\x7d"
  fragmentSetJson := fun _ => utf8Bytes "[]"
  bindingJson := fun _ => utf8Bytes "[]"
  providerRequest := fun _ _ => .ok (utf8Bytes "\x7b\x7d")
  timestamp := fun _ => .ok "2026-07-16T00:00:00Z"

def tables (text : String) : ReceiptTables where
  revisions := Table.empty.put "revision" ⟨true, services.digest []⟩
  materializations := Table.empty.put "revision" ⟨"source", some (services.digest [])⟩
  localSources := Table.empty.put "source" "imported"
  parses := [⟨"parse", "source", 0⟩]
  fragments := [⟨"fragment", "parse", "plain_text", 0, text, services.digest [], byteLength text⟩]

def stored (text : String) : ReceiptIntelligencePreview :=
  ⟨"revision", "source", "parse", services.digest [],
    [⟨"fragment-0000", text, byteLength text, services.digest []⟩],
    byteLength text, 2, services.digest [], services.digest [], services.digest []⟩

theorem reachesContract (text : String) : ReachesContract services ⟨1, "request", "source"⟩
    ⟨"revision", services.digest [], "credential"⟩ (stored text) 0 (utf8Bytes "\x7b\x7d")
    "2026-07-16T00:00:00Z" where
  source := rfl
  revision := rfl
  requests := rfl
  nonempty := by decide
  fits := by decide
  clock := by decide
  formats := rfl
  parses := by decide

/-- A text without an address passes both gates, and a preview of it is given out. -/
theorem preview_of_shirt :
    ((stored "Blue shirt").projection.validate = .ok () ↔
      ∀ fragment ∈ (stored "Blue shirt").fragments, ¬ HasAddress fragment.visibleText) ∧
    (preview services ⟨1, "request", "source"⟩ ⟨"revision", services.digest [], "credential"⟩
        (stored "Blue shirt") 0 ≠ .error (.corrupt "receipt_intelligence_preview") ↔
      ∀ fragment ∈ (stored "Blue shirt").fragments, ¬ HasAddress fragment.visibleText) :=
  have hread : readPreview services.toPreviewServices (tables "Blue shirt") "request" "revision"
      (repositoryBounds .production .production) = .ok (stored "Blue shirt") := by decide +kernel
  ⟨(preview_accepted_iff hread).1,
    (preview_accepted_iff hread).2 _ _ _ _ _ (reachesContract "Blue shirt")⟩

theorem preview_of_host : ¬ ∀ (services : CoordinatorServices) (t : ReceiptTables)
    (requestId sourceRevisionId : String) (stored : ReceiptIntelligencePreview),
    readPreview services.toPreviewServices t requestId sourceRevisionId
        (repositoryBounds .production .production) = .ok stored →
      stored.projection.validate = .ok () ∧
        ∀ request context nowMs, preview services request context stored nowMs ≠
          .error (.corrupt "receipt_intelligence_preview") := by
  intro h
  have hread : readPreview services.toPreviewServices (tables "Returns: example.com") "request"
      "revision" (repositoryBounds .production .production) =
        .ok (stored "Returns: example.com") := by decide +kernel
  have hrejected : (stored "Returns: example.com").projection.validate ≠ .ok () := by decide +kernel
  exact hrejected (h _ _ _ _ _ hread).1

end PreviewExample

end Threadbook
