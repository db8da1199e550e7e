import Threadbook.OutfitContract
import Threadbook.UrlScanner

/-!
# The receipt intelligence contract

What may be shown to a provider, and the user's consent to it: a projection of text
fragments, the disclosure around it and the consent envelope bound to it, each with
its `validate`. The digest and the timestamp parser are parameters.
-/

namespace Threadbook

/-! ## Bounds -/

structure ReceiptIntelligencePreparationBoundsV1 where
  maxFragmentCount : ℕ
  maxFragmentBytes : ℕ
  maxAggregateTextBytes : ℕ
  maxSerializedRequestBytes : ℕ
  deriving DecidableEq

structure ReceiptIntelligenceExecutionBoundsV1 where
  maxRequestBytes : ℕ
  maxResponseBytes : ℕ
  maxOutputTokens : ℕ
  timeoutMillis : ℕ
  maxAttempts : ℕ
  deriving DecidableEq

def invalid : ValidationError := ⟨.receiptProviderOutput⟩

def ReceiptIntelligencePreparationBoundsV1.production : ReceiptIntelligencePreparationBoundsV1 :=
  ⟨64, 16 * 1024, 128 * 1024, 256 * 1024⟩

def ReceiptIntelligencePreparationBoundsV1.validate
    (bounds : ReceiptIntelligencePreparationBoundsV1) : Except ValidationError Unit :=
  if bounds = .production then .ok () else .error invalid

def ReceiptIntelligenceExecutionBoundsV1.production : ReceiptIntelligenceExecutionBoundsV1 :=
  ⟨256 * 1024, 2 * 1024 * 1024, 4000, 60000, 1⟩

def ReceiptIntelligenceExecutionBoundsV1.validate
    (bounds : ReceiptIntelligenceExecutionBoundsV1) : Except ValidationError Unit :=
  if bounds = .production then .ok () else .error invalid

/-! ## The projection -/

def receiptIntelligenceProjectionRevisionV1 : String := "receipt-intelligence-projection-v1"

def fragmentHandle (ordinal : ℕ) : String :=
  "fragment-" ++ String.ofList ((Nat.toDigits 10 ordinal).leftpad 4 '0')

structure ReceiptIntelligenceProjectionFragmentV1 where
  fragmentRef : String
  text : String
  deriving DecidableEq

def isForbiddenControl (c : Char) : Bool := isControl c && c != '\n' && c != '\t'

def ReceiptIntelligenceProjectionFragmentV1.validateAt
    (self : ReceiptIntelligenceProjectionFragmentV1) (ordinal : ℕ)
    (bounds : ReceiptIntelligencePreparationBoundsV1) : Except ValidationError Unit :=
  if self.fragmentRef ≠ fragmentHandle ordinal ∨ self.text.isEmpty ∨ isBlank self.text ∨
      bounds.maxFragmentBytes < byteLength self.text ∨ self.text.toList.any isForbiddenControl ∨
      containsUrlOrUri self.text then .error invalid
  else .ok ()

structure ReceiptIntelligenceProjectionV1 where
  revision : String
  fragments : List ReceiptIntelligenceProjectionFragmentV1
  deriving DecidableEq

def ReceiptIntelligenceProjectionV1.aggregateTextBytes (self : ReceiptIntelligenceProjectionV1) :
    ℕ :=
  (self.fragments.map fun fragment => byteLength fragment.text % 2 ^ 32).sum % 2 ^ 32

def validateFragments (bounds : ReceiptIntelligencePreparationBoundsV1) :
    ℕ → List ReceiptIntelligenceProjectionFragmentV1 → Except ValidationError Unit
  | _, [] => .ok ()
  | ordinal, fragment :: rest => do
    fragment.validateAt ordinal bounds
    validateFragments bounds (ordinal + 1) rest

def ReceiptIntelligenceProjectionV1.validateWith (self : ReceiptIntelligenceProjectionV1)
    (bounds : ReceiptIntelligencePreparationBoundsV1) : Except ValidationError Unit := do
  bounds.validate
  if self.revision ≠ receiptIntelligenceProjectionRevisionV1 ∨ self.fragments = [] ∨
      bounds.maxFragmentCount < self.fragments.length ∨
      bounds.maxAggregateTextBytes < self.aggregateTextBytes then .error invalid
  else validateFragments bounds 0 self.fragments

def ReceiptIntelligenceProjectionV1.validate (self : ReceiptIntelligenceProjectionV1) :
    Except ValidationError Unit :=
  self.validateWith .production

/-! ## What a valid projection is -/

def ReceiptIntelligenceProjectionFragmentV1.WellShaped
    (self : ReceiptIntelligenceProjectionFragmentV1) (ordinal : ℕ)
    (bounds : ReceiptIntelligencePreparationBoundsV1) : Prop :=
  self.fragmentRef = fragmentHandle ordinal ∧ ¬ self.text.isEmpty ∧ ¬ isBlank self.text ∧
    byteLength self.text ≤ bounds.maxFragmentBytes ∧ ¬ self.text.toList.any isForbiddenControl

variable {bounds : ReceiptIntelligencePreparationBoundsV1}

theorem ReceiptIntelligenceProjectionFragmentV1.validateAt_eq_ok
    {self : ReceiptIntelligenceProjectionFragmentV1} {ordinal : ℕ} :
    self.validateAt ordinal bounds = .ok () ↔
      self.WellShaped ordinal bounds ∧ containsUrlOrUri self.text = false := by
  rw [validateAt, WellShaped]
  split
  · rename_i h
    refine ⟨fun hok => (nomatch hok), fun ⟨⟨hhandle, hempty, hblank, hlen, hcontrol⟩, hurl⟩ => ?_⟩
    rcases h with h | h | h | h | h | h
    · exact absurd hhandle h
    · exact absurd h hempty
    · exact absurd h hblank
    · exact absurd hlen (not_le.mpr h)
    · exact absurd h hcontrol
    · exact absurd h (by simp [hurl])
  · rename_i h
    simp only [not_or, not_lt, not_not] at h
    obtain ⟨hhandle, hempty, hblank, hlen, hcontrol, hurl⟩ := h
    exact ⟨fun _ => ⟨⟨hhandle, hempty, hblank, hlen, hcontrol⟩, by simpa using hurl⟩, fun _ => rfl⟩

theorem validateFragments_eq_ok {fragments : List ReceiptIntelligenceProjectionFragmentV1}
    {ordinal : ℕ} :
    validateFragments bounds ordinal fragments = .ok () ↔
      ∀ entry ∈ fragments.zipIdx ordinal, entry.1.WellShaped entry.2 bounds ∧
        containsUrlOrUri entry.1.text = false := by
  induction fragments generalizing ordinal with
  | nil => simp [validateFragments]
  | cons fragment rest ih =>
    rw [validateFragments, List.zipIdx_cons, List.forall_mem_cons, ← ih]
    rw [← ReceiptIntelligenceProjectionFragmentV1.validateAt_eq_ok]
    rcases fragment.validateAt ordinal bounds with e | u
    · simp [bind, Except.bind]
    · simp [bind, Except.bind]

/-- A projection's shape is right: everything but the search for addresses. -/
structure ReceiptIntelligenceProjectionV1.WellShaped (projection : ReceiptIntelligenceProjectionV1) :
    Prop where
  revision : projection.revision = receiptIntelligenceProjectionRevisionV1
  nonempty : projection.fragments ≠ []
  count : projection.fragments.length ≤ 64
  aggregate : projection.aggregateTextBytes ≤ 128 * 1024
  fragments : ∀ entry ∈ projection.fragments.zipIdx, entry.1.WellShaped entry.2 .production

/-- **A projection is valid** exactly when its shape is right and no text contains an
address. -/
theorem ReceiptIntelligenceProjectionV1.validate_eq_ok {self : ReceiptIntelligenceProjectionV1} :
    self.validate = .ok () ↔
      self.WellShaped ∧ ∀ fragment ∈ self.fragments, containsUrlOrUri fragment.text = false := by
  have hmem : (∀ fragment ∈ self.fragments, containsUrlOrUri fragment.text = false) ↔
      ∀ entry ∈ self.fragments.zipIdx, containsUrlOrUri entry.1.text = false := by
    refine ⟨fun h entry hentry => h _ (List.fst_mem_of_mem_zipIdx hentry), fun h fragment hf => ?_⟩
    obtain ⟨i, hi, rfl⟩ := List.mem_iff_getElem.mp hf
    exact h (self.fragments[i], i) (by simp [List.mem_zipIdx_iff_getElem?])
  have hbounds : ReceiptIntelligencePreparationBoundsV1.production.validate = .ok () := rfl
  rw [validate, validateWith, hbounds]
  change (if _ then _ else _) = _ ↔ _
  split
  · rename_i h
    refine ⟨fun hok => (nomatch hok), fun ⟨hshape, _⟩ => ?_⟩
    rcases h with h | h | h | h
    · exact absurd hshape.revision h
    · exact absurd h hshape.nonempty
    · exact absurd hshape.count (not_le.mpr h)
    · exact absurd hshape.aggregate (not_le.mpr h)
  · rename_i h
    simp only [not_or, not_lt, not_not] at h
    rw [validateFragments_eq_ok, hmem]
    refine ⟨fun hall => ⟨⟨h.1, h.2.1, h.2.2.1, h.2.2.2, fun entry he => (hall entry he).1⟩,
      fun entry he => (hall entry he).2⟩, fun ⟨hshape, hurl⟩ entry he => ?_⟩
    exact ⟨hshape.fragments entry he, hurl entry he⟩

/-! ## Disclosure and consent -/

structure ContractServices where
  digest : List UInt8 → String
  parsesTimestamp : String → Bool

/-- The eight bytes of a length, most significant first. -/
def bigEndian64 (n : ℕ) : List UInt8 :=
  (List.range 8).map fun i => UInt8.ofNat (n / 2 ^ (8 * (7 - i)) % 2 ^ 8)

def hashPart (value : List UInt8) : List UInt8 := bigEndian64 value.length ++ value

def ReceiptIntelligenceProjectionV1.hashed (self : ReceiptIntelligenceProjectionV1) : List UInt8 :=
  hashPart (utf8Bytes self.revision) ++ hashPart (bigEndian64 self.fragments.length) ++
    self.fragments.flatMap fun fragment =>
      hashPart (utf8Bytes fragment.fragmentRef) ++ hashPart (utf8Bytes fragment.text)

def ReceiptIntelligenceProjectionV1.sha256 (services : ContractServices)
    (self : ReceiptIntelligenceProjectionV1) : String := services.digest self.hashed

def ReceiptIntelligenceProjectionV1.fragmentSha256 (services : ContractServices)
    (self : ReceiptIntelligenceProjectionV1) : List String :=
  self.fragments.map fun fragment => services.digest (utf8Bytes fragment.text)

def validateTimestamp (services : ContractServices) (value : String) :
    Except ValidationError Unit :=
  if value.isEmpty ∨ 40 < byteLength value ∨
      ¬ value.toList.all (fun c => isAsciiDigit c || "-:.+TZ".toList.contains c) then
    .error ⟨.timestamp⟩
  else if services.parsesTimestamp value then .ok () else .error ⟨.timestamp⟩

structure ReceiptIntelligenceRetentionDisclosureV1 where
  revision : String
  declaration : OpenAiRetentionDeclarationV1
  localProviderPayloadRetained : Bool
  store : Bool
  storeFalseIsNotOrganizationZdr : Bool
  defaultAbuseMonitoringMaxDays : ℕ
  safetyReviewExceptionsApply : Bool
  deriving DecidableEq

def receiptIntelligenceRetentionRevisionV1 : String := "p11-openai-responses-retention-v1"

def ReceiptIntelligenceRetentionDisclosureV1.forDeclaration
    (declaration : OpenAiRetentionDeclarationV1) : ReceiptIntelligenceRetentionDisclosureV1 :=
  ⟨receiptIntelligenceRetentionRevisionV1, declaration, false, false, true, 30, true⟩

def ReceiptIntelligenceRetentionDisclosureV1.validate
    (self : ReceiptIntelligenceRetentionDisclosureV1) : Except ValidationError Unit := do
  self.declaration.validate
  if self.revision = receiptIntelligenceRetentionRevisionV1 ∧
      self.declaration.mode ≠ .unknown ∧ ¬ self.localProviderPayloadRetained ∧ ¬ self.store ∧
      self.storeFalseIsNotOrganizationZdr ∧ self.defaultAbuseMonitoringMaxDays = 30 ∧
      self.safetyReviewExceptionsApply then .ok ()
  else .error invalid

def receiptIntelligenceProviderV1 : String := "openai"

def receiptIntelligenceModelV1 : String := "gpt-5.6-sol"

def receiptIntelligencePurposeV1 : String := "receipt_intelligence"

structure ReceiptIntelligenceDisclosureV1 where
  provider : String
  model : String
  purpose : String
  projection : ReceiptIntelligenceProjectionV1
  aggregateTextBytes : ℕ
  rawMimeDisclosed : Bool
  headersDisclosed : Bool
  urlsDisclosed : Bool
  filenamesDisclosed : Bool
  attachmentMetadataDisclosed : Bool
  cidMetadataDisclosed : Bool
  internalIdentifiersDisclosed : Bool
  hashesDisclosed : Bool
  credentialsDisclosed : Bool
  imageBytesDisclosed : Bool
  retention : ReceiptIntelligenceRetentionDisclosureV1
  preparationBounds : ReceiptIntelligencePreparationBoundsV1
  executionBounds : ReceiptIntelligenceExecutionBoundsV1
  deriving DecidableEq

def ReceiptIntelligenceDisclosureV1.validate (self : ReceiptIntelligenceDisclosureV1) :
    Except ValidationError Unit := do
  self.preparationBounds.validate
  self.executionBounds.validate
  self.projection.validateWith self.preparationBounds
  self.retention.validate
  if self.provider = receiptIntelligenceProviderV1 ∧ self.model = receiptIntelligenceModelV1 ∧
      self.purpose = receiptIntelligencePurposeV1 ∧
      self.aggregateTextBytes = self.projection.aggregateTextBytes ∧ ¬ self.rawMimeDisclosed ∧
      ¬ self.headersDisclosed ∧ ¬ self.urlsDisclosed ∧ ¬ self.filenamesDisclosed ∧
      ¬ self.attachmentMetadataDisclosed ∧ ¬ self.cidMetadataDisclosed ∧
      ¬ self.internalIdentifiersDisclosed ∧ ¬ self.hashesDisclosed ∧
      ¬ self.credentialsDisclosed ∧ ¬ self.imageBytesDisclosed then .ok ()
  else .error invalid

structure ReceiptIntelligenceConsentEnvelopeV1 where
  sourceId : String
  sourceRevisionId : String
  sourceRevisionSha256 : String
  disclosedFragmentSha256 : List String
  projectionSha256 : String
  serializedRequestSha256 : String
  serializedRequestBytes : ℕ
  credentialId : String
  provider : String
  model : String
  promptRevision : String
  schemaRevision : String
  projectionRevision : String
  parameterRevision : String
  retention : ReceiptIntelligenceRetentionDisclosureV1
  preparationBounds : ReceiptIntelligencePreparationBoundsV1
  executionBounds : ReceiptIntelligenceExecutionBoundsV1
  expiresAt : String
  deriving DecidableEq

def receiptIntelligencePromptRevisionV1 : String := "receipt-intelligence-prompt-v1"

def receiptIntelligenceSchemaRevisionV1 : String := "receipt-intelligence-v1"

def receiptIntelligenceParameterRevisionV1 : String := "receipt-intelligence-parameters-v1"

def ReceiptIntelligenceConsentEnvelopeV1.validate (services : ContractServices)
    (self : ReceiptIntelligenceConsentEnvelopeV1) : Except ValidationError Unit := do
  self.retention.validate
  self.preparationBounds.validate
  self.executionBounds.validate
  validateTimestamp services self.expiresAt
  if self.disclosedFragmentSha256 = [] ∨
      self.preparationBounds.maxFragmentCount < self.disclosedFragmentSha256.length ∨
      self.serializedRequestBytes = 0 ∨
      self.preparationBounds.maxSerializedRequestBytes < self.serializedRequestBytes ∨
      self.executionBounds.maxRequestBytes < self.serializedRequestBytes ∨
      self.provider ≠ receiptIntelligenceProviderV1 ∨ self.model ≠ receiptIntelligenceModelV1 ∨
      self.promptRevision ≠ receiptIntelligencePromptRevisionV1 ∨
      self.schemaRevision ≠ receiptIntelligenceSchemaRevisionV1 ∨
      self.projectionRevision ≠ receiptIntelligenceProjectionRevisionV1 ∨
      self.parameterRevision ≠ receiptIntelligenceParameterRevisionV1 then .error invalid
  else .ok ()

def ReceiptIntelligenceConsentEnvelopeV1.validateAgainst (services : ContractServices)
    (self : ReceiptIntelligenceConsentEnvelopeV1) (disclosure : ReceiptIntelligenceDisclosureV1) :
    Except ValidationError Unit := do
  self.validate services
  disclosure.validate
  if self.provider = disclosure.provider ∧ self.model = disclosure.model ∧
      self.projectionRevision = disclosure.projection.revision ∧
      self.projectionSha256 = disclosure.projection.sha256 services ∧
      self.disclosedFragmentSha256 = disclosure.projection.fragmentSha256 services ∧
      self.retention = disclosure.retention ∧
      self.preparationBounds = disclosure.preparationBounds ∧
      self.executionBounds = disclosure.executionBounds then .ok ()
  else .error invalid

structure ReceiptIntelligencePreviewV1 where
  disclosure : ReceiptIntelligenceDisclosureV1
  consentEnvelope : ReceiptIntelligenceConsentEnvelopeV1
  deriving DecidableEq

def ReceiptIntelligencePreviewV1.validate (services : ContractServices)
    (self : ReceiptIntelligencePreviewV1) : Except ValidationError Unit :=
  self.consentEnvelope.validateAgainst services self.disclosure

structure PreviewReceiptIntelligenceV1Response where
  schemaVersion : ℕ
  requestId : String
  preview : ReceiptIntelligencePreviewV1

def PreviewReceiptIntelligenceV1Response.validate (services : ContractServices)
    (self : PreviewReceiptIntelligenceV1Response) : Except ValidationError Unit := do
  requireSchemaV1 self.schemaVersion
  self.preview.validate services

end Threadbook
