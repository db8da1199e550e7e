import Threadbook.IntelligenceAttempt

/-!
# The receipt intelligence repository

The tables receipt intelligence works on and its transactions. Each transaction is
`atomically` a body in the source's order, so an error anywhere in it undoes all of it.
The constraints and triggers of the attempts and audits tables are part of `updateAttempt`
and `insertAudit`.
-/

namespace Threadbook

open Fallible

/-! ## Tables -/

/-- A row of `credential_references`. -/
structure CredentialRow where
  provider : String
  locator : String
  status : String

/-- A row of `receipt_source_authority_heads`. -/
structure AuthorityHeadRow where
  authorityId : String
  orderEvidenceId : ReceiptOrderEvidenceId
  reviewDecisionId : String
  receiptRevision : ℤ
  authorityRevision : ℤ
  deriving DecidableEq

structure IntelligenceTables where
  receipts : ReceiptTables
  approvals : Table ReceiptIntelligenceApprovalId ApprovalRow
  attempts : Table ReceiptIntelligenceAttemptId AttemptRow
  audits : Table ReceiptIntelligenceAttemptId AuditRow
  classifications : Table ReceiptIntelligenceAttemptId ClassificationRow
  runs : Table ReceiptRunId ExtractionRunRow
  orders : Table ReceiptOrderEvidenceId OrderRow
  orderLines : Table (ReceiptOrderEvidenceId × ℕ) OrderLineRow
  credentials : Table String CredentialRow
  authorityHeads : Table String AuthorityHeadRow
  /-- `receipt_review_decisions`: the order each is about -/
  reviewDecisions : List ReceiptOrderEvidenceId
  catalogRevision : ℤ
  evidenceGeneration : ℤ
  receiptIntelligenceRevision : ℕ

def IntelligenceTables.view (t : IntelligenceTables) (attempt : ReceiptIntelligenceAttemptId) :
    AttemptView where
  attempt := t.attempts.find? attempt
  audit := t.audits.find? attempt
  classification := t.classifications.find? attempt
  run := t.runs.find? (.intelligence attempt)
  order := t.orders.find? attempt.order
  line := fun i => t.orderLines.find? (attempt.order, i)

abbrev IntelligenceTransaction (α : Type) : Type := Fallible IntelligenceTables PlatformError α

/-! ## What the provider says -/

structure ReceiptIntelligenceCitation where
  fragmentRef : String
  quote : String

structure ReceiptIntelligenceEvidence (α : Type) where
  value : Option α
  citations : List ReceiptIntelligenceCitation

structure ReceiptIntelligenceLineItem where
  description : ReceiptIntelligenceEvidence String
  eventKind : ReceiptIntelligenceEvidence ReceiptEventKindV1
  quantity : ReceiptIntelligenceEvidence ℕ
  unitPriceMinor : ReceiptIntelligenceEvidence ℕ
  brand : ReceiptIntelligenceEvidence String
  sku : ReceiptIntelligenceEvidence String
  size : ReceiptIntelligenceEvidence String
  color : ReceiptIntelligenceEvidence String

structure ReceiptIntelligenceExtraction where
  merchant : ReceiptIntelligenceEvidence String
  orderIdentifier : ReceiptIntelligenceEvidence String
  purchaseDate : ReceiptIntelligenceEvidence String
  currency : ReceiptIntelligenceEvidence String
  lineItems : List ReceiptIntelligenceLineItem

structure ReceiptIntelligenceOutput where
  classification : ReceiptIntelligenceClassification
  extraction : Option ReceiptIntelligenceExtraction

/-! ## Services -/

structure RepositoryServices extends CoordinatorServices where
  isUuid : String → Bool
  attemptText : ReceiptIntelligenceAttemptId → String
  orderLines : ReceiptTables → String → String → ReceiptIntelligenceExtraction →
    Except PlatformError (List (Option ReceiptEventKindV1))

inductive ReceiptIntelligenceFailureCode
  | approvalExpired
  | approvalConsumed
  | consentMismatch
  | boundExceeded
  | localOnly
  | releaseEvidenceUnavailable
  | outboundAuthorityUnavailable
  | credentialUnavailable
  | retentionDeclarationStale
  | sourceUnavailable
  | sourceRevisionChanged
  | providerAuthentication
  | providerRateLimited
  | providerUnavailable
  | providerProtocol
  | providerOutputInvalid
  | citationInvalid
  | persistenceFailed
  | cancelled

def ReceiptIntelligenceFailureCode.asDb : ReceiptIntelligenceFailureCode → String
  | .approvalExpired => "approval_expired"
  | .approvalConsumed => "approval_consumed"
  | .consentMismatch => "consent_mismatch"
  | .boundExceeded => "bound_exceeded"
  | .localOnly => "local_only"
  | .releaseEvidenceUnavailable => "release_evidence_unavailable"
  | .outboundAuthorityUnavailable => "outbound_authority_unavailable"
  | .credentialUnavailable => "credential_unavailable"
  | .retentionDeclarationStale => "retention_declaration_stale"
  | .sourceUnavailable => "source_unavailable"
  | .sourceRevisionChanged => "source_revision_changed"
  | .providerAuthentication => "provider_authentication"
  | .providerRateLimited => "provider_rate_limited"
  | .providerUnavailable => "provider_unavailable"
  | .providerProtocol => "provider_protocol"
  | .providerOutputInvalid => "provider_output_invalid"
  | .citationInvalid => "citation_invalid"
  | .persistenceFailed => "persistence_failed"
  | .cancelled => "cancelled"

/-! ## Checks -/

def validateUuid (services : RepositoryServices) (value code : String) : Except PlatformError Unit :=
  if services.isUuid value then .ok () else .error (.invalidInput code)

def validateAsciiRevision (value code : String) : Except PlatformError Unit :=
  if value.isEmpty ∨ 128 < byteLength value ∨
      ¬ value.toList.all (fun c => 0x20 ≤ c.toNat && c.toNat ≤ 0x7e) then
    .error (.invalidInput code)
  else .ok ()

/-- ASCII letters, digits and `-_.:`, between 1 and 128 of them. -/
def isProviderIdentifier (value : String) : Bool :=
  !value.isEmpty && byteLength value ≤ 128 &&
    value.toList.all fun c => c.isAlphanum || "-_.:".toList.contains c

def validateBounds (bounds : ReceiptIntelligenceBounds) : Except PlatformError Unit :=
  if bounds.maxFragmentCount = 0 ∨ 200 < bounds.maxFragmentCount ∨
      bounds.maxFragmentBytes = 0 ∨ 32768 < bounds.maxFragmentBytes ∨
      bounds.maxAggregateTextBytes = 0 ∨ 1048576 < bounds.maxAggregateTextBytes ∨
      bounds.maxSerializedRequestBytes = 0 ∨ 2097152 < bounds.maxSerializedRequestBytes ∨
      bounds.maxRequestBytes = 0 ∨ 2097152 < bounds.maxRequestBytes ∨
      bounds.maxResponseBytes = 0 ∨ 2097152 < bounds.maxResponseBytes ∨
      bounds.maxOutputTokens = 0 ∨ 65536 < bounds.maxOutputTokens ∨
      bounds.timeoutMs = 0 ∨ 300000 < bounds.timeoutMs ∨ bounds.maxAttempts ≠ 1 then
    .error (.invalidInput "receipt_intelligence_bounds")
  else .ok ()

def validateReservation (services : RepositoryServices)
    (reservation : ReceiptIntelligenceConsentReservation) (nowMs : ℤ) :
    Except PlatformError Unit := do
  validateUuid services reservation.requestId "receipt_intelligence_request_id"
  validateUuid services reservation.sourceRevisionId "receipt_intelligence_source_revision_id"
  validateUuid services reservation.credentialId "receipt_intelligence_credential_id"
  validateHash reservation.commandSha256 "receipt_intelligence_command_sha256"
  validateHash reservation.previewBindingSha256 "receipt_intelligence_preview_binding_sha256"
  validateHash reservation.fragmentSetSha256 "receipt_intelligence_fragment_set_sha256"
  validateHash reservation.parametersSha256 "receipt_intelligence_parameters_sha256"
  validateHash reservation.sourceRevisionSha256 "receipt_intelligence_source_revision_sha256"
  validateHash reservation.projectionSha256 "receipt_intelligence_projection_sha256"
  validateHash reservation.serializedRequestSha256 "receipt_intelligence_serialized_request_sha256"
  if reservation.provider ≠ "openai" then .error (.invalidInput "receipt_intelligence_provider")
  else do
    validateAsciiRevision reservation.model "receipt_intelligence_model"
    validateAsciiRevision reservation.promptRevision "receipt_intelligence_prompt_revision"
    validateAsciiRevision reservation.schemaRevision "receipt_intelligence_schema_revision"
    validateAsciiRevision reservation.projectionRevision "receipt_intelligence_projection_revision"
    if reservation.retentionMode ∉ ["unknown", "default", "MAM", "ZDR"] then
      .error (.invalidInput "receipt_intelligence_retention_mode")
    else if ¬ isProviderIdentifier reservation.retentionProvenance then
      .error (.invalidInput "receipt_intelligence_retention_provenance")
    else do
      validateBounds reservation.bounds
      if reservation.serializedRequestBytes = 0 ∨
          reservation.bounds.maxSerializedRequestBytes < reservation.serializedRequestBytes ∨
          reservation.bounds.maxRequestBytes < reservation.serializedRequestBytes then
        .error (.invalidInput "receipt_intelligence_serialized_request_bytes")
      else if 2 ^ 63 ≤ nowMs + approvalLifetimeMs ∨ nowMs < 0 ∨ reservation.expiresAtMs < nowMs ∨
          nowMs + approvalLifetimeMs < reservation.expiresAtMs then
        .error (.invalidInput "receipt_intelligence_approval_expiry")
      else .ok ()

def validateAuditMetadata (audit : ReceiptIntelligenceAuditMetadata) (nowMs : ℤ) :
    Except PlatformError Unit := do
  match audit.responseSha256 with
  | some hash => validateHash hash "receipt_intelligence_response_sha256"
  | none => .ok ()
  if ¬ (audit.providerRequestId.all isProviderIdentifier &&
      audit.responseId.all isProviderIdentifier) then
    .error (.invalidInput "receipt_intelligence_provider_identifier")
  else if audit.requestBytes = 0 ∨
      audit.totalTokens ≠ min (audit.inputTokens + audit.outputTokens) (2 ^ 32 - 1) ∨
      audit.outputTokens < audit.reasoningTokens ∨ audit.inputTokens < audit.cachedInputTokens ∨
      audit.attemptCount ≠ 1 ∨ audit.dispatchedAtMs < 0 ∨ nowMs < audit.dispatchedAtMs then
    .error (.invalidInput "receipt_intelligence_audit")
  else .ok ()

/-! ## Statements -/

section Statements

variable {κ ρ : Type} [DecidableEq κ]

/-- `INSERT`: a taken key is an error. -/
def insertRow (table : IntelligenceTables → Table κ ρ)
    (store : Table κ ρ → IntelligenceTables → IntelligenceTables) (key : κ) (row : ρ) :
    IntelligenceTransaction PUnit := do
  let t ← state
  rejectIf .sqlite ((table t).find? key).isSome
  update (store ((table t).put key row))

end Statements

/-- The transitions the attempts table admits. -/
def ReceiptIntelligenceAttemptState.mayBecome :
    ReceiptIntelligenceAttemptState → ReceiptIntelligenceAttemptState → Bool
  | .notSent, state => state = .dispatched || state = .failed
  | .dispatched, state =>
    state = .completed || state = .refused || state = .failed || state = .outcomeUnknown
  | _, _ => false

def AttemptRow.fitsState (row : AttemptRow) : Bool :=
  match row.state with
  | .notSent => row.failureCode.isNone && row.dispatchedAtMs.isNone && row.finalizedAtMs.isNone
  | .dispatched => row.failureCode.isNone && row.dispatchedAtMs.isSome && row.finalizedAtMs.isNone
  | .completed => row.failureCode.isNone && row.dispatchedAtMs.isSome && row.finalizedAtMs.isSome
  | .refused =>
    row.failureCode = some "refused" && row.dispatchedAtMs.isSome && row.finalizedAtMs.isSome
  | .failed =>
    row.failureCode.isSome && row.failureCode ≠ some "refused" &&
      row.failureCode ≠ some "outcome_unknown" && row.finalizedAtMs.isSome
  | .outcomeUnknown =>
    row.failureCode = some "outcome_unknown" && row.dispatchedAtMs.isSome &&
      row.finalizedAtMs.isSome

def AttemptRow.wellFormed (row : AttemptRow) : Bool :=
  0 ≤ row.createdAtMs && row.dispatchedAtMs.all (fun ms => row.createdAtMs ≤ ms) &&
    row.finalizedAtMs.all (fun ms => row.createdAtMs ≤ ms) && row.fitsState &&
    (row.state = .completed || row.state = .refused ||
      (row.inputTokens.isNone && row.outputTokens.isNone))

def IntelligenceTables.allowsUpdate (t : IntelligenceTables)
    (attempt : ReceiptIntelligenceAttemptId) (row row' : AttemptRow) : Bool :=
  row.state.mayBecome row'.state && row'.wellFormed &&
    (row'.state ≠ .completed ||
      ((t.classifications.find? attempt).isSome && (t.audits.find? attempt).isSome)) &&
    (row'.state ≠ .refused || (t.audits.find? attempt).isSome)

/-- `UPDATE receipt_intelligence_attempts` of one attempt, if it is in one of these
states: how many rows changed. -/
def updateAttempt (attempt : ReceiptIntelligenceAttemptId)
    (states : List ReceiptIntelligenceAttemptState) (change : AttemptRow → AttemptRow) :
    IntelligenceTransaction ℕ := do
  let t ← state
  match t.attempts.find? attempt with
  | none => pure 0
  | some row =>
    if row.state ∈ states then do
      rejectIf .sqlite (¬ t.allowsUpdate attempt row (change row))
      update fun t => { t with attempts := t.attempts.put attempt (change row) }
      pure 1
    else pure 0

def advanceReceiptIntelligenceRevision : IntelligenceTransaction PUnit := do
  let t ← state
  rejectIf (.corrupt "receipt_intelligence_revision_exhausted")
    (9007199254740990 ≤ t.receiptIntelligenceRevision)
  update fun t =>
    { t with receiptIntelligenceRevision := t.receiptIntelligenceRevision + 1 }

def replaceAttempt (attempt : ReceiptIntelligenceAttemptId)
    (states : List ReceiptIntelligenceAttemptState) (change : AttemptRow → AttemptRow)
    (code : String) : IntelligenceTransaction PUnit := do
  let changed ← updateAttempt attempt states change
  rejectIf (.conflict code) (changed ≠ 1)
  advanceReceiptIntelligenceRevision

/-! ## Reserving -/

structure ReservedReceiptIntelligenceAttempt where
  approvalId : ReceiptIntelligenceApprovalId
  attemptId : ReceiptIntelligenceAttemptId
  state : ReceiptIntelligenceAttemptState
  replayed : Bool

def replayReservation (requestId commandSha256 : String) :
    IntelligenceTransaction (Option ReservedReceiptIntelligenceAttempt) := do
  let t ← state
  match t.attempts.find? ⟨requestId⟩ with
  | none => pure none
  | some row => do
    rejectIf (.conflict "receipt_intelligence_command_changed")
      (row.envelopeSha256 ≠ commandSha256)
    pure (some ⟨⟨requestId⟩, ⟨requestId⟩, row.state, true⟩)

def IntelligenceTables.credentialActive (t : IntelligenceTables) (credentialId : String) : Bool :=
  (t.credentials.find? credentialId).any fun row =>
    row.provider = "open_ai" && row.status = "active"

def requireActiveCredential (credentialId : String) : IntelligenceTransaction PUnit := do
  let t ← state
  rejectIf (.conflict "receipt_intelligence_credential_unavailable")
    (¬ t.credentialActive credentialId)

def insertApproval (approval : ReceiptIntelligenceApprovalId) (row : ApprovalRow) :
    IntelligenceTransaction PUnit :=
  insertRow IntelligenceTables.approvals (fun table t => { t with approvals := table }) approval row

def insertAttempt (attempt : ReceiptIntelligenceAttemptId) (row : AttemptRow) :
    IntelligenceTransaction PUnit :=
  insertRow IntelligenceTables.attempts (fun table t => { t with attempts := table }) attempt row

def reserveReceiptIntelligence (services : RepositoryServices)
    (reservation : ReceiptIntelligenceConsentReservation) (nowMs : ℤ) :
    IntelligenceTransaction ReservedReceiptIntelligenceAttempt :=
  atomically do
    match ← replayReservation reservation.requestId reservation.commandSha256 with
    | some existing => pure existing
    | none => do
      check (validateReservation services reservation nowMs)
      let t ← state
      let preview ← check (readPreview services.toPreviewServices t.receipts
        reservation.requestId reservation.sourceRevisionId reservation.bounds)
      rejectIf (.conflict "receipt_intelligence_preview_changed")
        (preview.previewBindingSha256 ≠ reservation.previewBindingSha256 ∨
          preview.fragmentSetSha256 ≠ reservation.fragmentSetSha256 ∨
          preview.sourceRevisionSha256 ≠ reservation.sourceRevisionSha256 ∨
          preview.projectionSha256 ≠ reservation.projectionSha256)
      requireActiveCredential reservation.credentialId
      insertApproval ⟨reservation.requestId⟩ ⟨reservation, preview.localSourceId, nowMs⟩
      insertAttempt ⟨reservation.requestId⟩
        { envelopeSha256 := reservation.commandSha256
          sourceRevisionId := reservation.sourceRevisionId
          localSourceId := preview.localSourceId
          state := .notSent
          failureCode := none
          inputTokens := none
          outputTokens := none
          createdAtMs := nowMs
          dispatchedAtMs := none
          finalizedAtMs := none }
      advanceReceiptIntelligenceRevision
      pure ⟨⟨reservation.requestId⟩, ⟨reservation.requestId⟩, .notSent, false⟩

def preflightReceiptIntelligenceReplay (services : RepositoryServices)
    (requestId commandSha256 : String) :
    IntelligenceTransaction (Option ReservedReceiptIntelligenceAttempt) := do
  check (validateUuid services requestId "receipt_intelligence_request_id")
  check (validateHash commandSha256 "receipt_intelligence_command_sha256")
  replayReservation requestId commandSha256

def previewReceiptIntelligence (services : RepositoryServices) (requestId sourceRevisionId : String)
    (bounds : ReceiptIntelligenceBounds) : IntelligenceTransaction ReceiptIntelligencePreview := do
  check (validateUuid services requestId "receipt_intelligence_request_id")
  check (validateUuid services sourceRevisionId "receipt_intelligence_source_revision_id")
  check (validateBounds bounds)
  let t ← state
  check (readPreview services.toPreviewServices t.receipts requestId sourceRevisionId bounds)

/-! ## Sending -/

def IntelligenceTables.approved (t : IntelligenceTables) (attempt : ReceiptIntelligenceAttemptId) :
    Option (AttemptRow × ApprovalRow) := do
  let row ← t.attempts.find? attempt
  let approval ← t.approvals.find? ⟨attempt.requestId⟩
  some (row, approval)

def receiptIntelligenceCredentialLocator (attempt : ReceiptIntelligenceAttemptId) (nowMs : ℤ) :
    IntelligenceTransaction String := do
  let t ← state
  match t.approved attempt with
  | none => fail (.conflict "receipt_intelligence_credential_unavailable")
  | some (row, approval) => do
    rejectIf (.conflict "receipt_intelligence_attempt_already_authorized")
      (row.state ≠ .notSent)
    rejectIf (.conflict "receipt_intelligence_approval_expired")
      (approval.reservation.expiresAtMs < nowMs)
    match t.credentials.find? approval.reservation.credentialId with
    | some credential =>
      if credential.provider = "open_ai" ∧ credential.status = "active" then
        pure credential.locator
      else fail (.conflict "receipt_intelligence_credential_unavailable")
    | none => fail (.conflict "receipt_intelligence_credential_unavailable")

def AttemptRow.dispatch (nowMs : ℤ) (row : AttemptRow) : AttemptRow :=
  { row with state := .dispatched, dispatchedAtMs := some nowMs }

def markReceiptIntelligenceDispatched (attempt : ReceiptIntelligenceAttemptId) (nowMs : ℤ) :
    IntelligenceTransaction PUnit :=
  atomically do
    let t ← state
    match t.approved attempt with
    | none => fail (.invalidInput "receipt_intelligence_attempt_id")
    | some (row, approval) => do
      rejectIf (.conflict "receipt_intelligence_attempt_already_authorized")
        (row.state ≠ .notSent)
      rejectIf (.conflict "receipt_intelligence_approval_expired")
        (approval.reservation.expiresAtMs < nowMs)
      rejectIf (.conflict "receipt_intelligence_credential_unavailable")
        (¬ t.credentialActive approval.reservation.credentialId)
      replaceAttempt attempt [.notSent] (AttemptRow.dispatch nowMs)
        "receipt_intelligence_attempt_already_authorized"

/-! ## Closing without a result -/

def AttemptRow.fail (code : ReceiptIntelligenceFailureCode) (nowMs : ℤ) (row : AttemptRow) :
    AttemptRow :=
  { row with state := .failed, failureCode := some code.asDb, finalizedAtMs := some nowMs }

def failReceiptIntelligence (attempt : ReceiptIntelligenceAttemptId)
    (code : ReceiptIntelligenceFailureCode) (nowMs : ℤ) : IntelligenceTransaction PUnit :=
  atomically <| replaceAttempt attempt [.notSent, .dispatched] (AttemptRow.fail code nowMs)
    "receipt_intelligence_attempt_terminal"

def AttemptRow.giveUp (nowMs : ℤ) (row : AttemptRow) : AttemptRow :=
  { row with
    state := .outcomeUnknown, failureCode := some "outcome_unknown", finalizedAtMs := some nowMs }

def markReceiptIntelligenceOutcomeUnknown (attempt : ReceiptIntelligenceAttemptId) (nowMs : ℤ) :
    IntelligenceTransaction PUnit :=
  atomically <| replaceAttempt attempt [.dispatched] (AttemptRow.giveUp nowMs)
    "receipt_intelligence_attempt_not_dispatched"

def recoverReceiptIntelligenceAttempts (services : RepositoryServices) (nowMs : ℤ) :
    IntelligenceTransaction (List ReceiptIntelligenceAttemptId) :=
  atomically do
    let before ← state
    let recovered ← forEach
      (fun attempt => updateAttempt attempt [.dispatched] (AttemptRow.giveUp nowMs))
      (before.attempts.rows.map Prod.fst)
    let t ← state
    let resumable := (t.attempts.rows.filter fun entry => entry.2.state = .notSent).insertionSort
      fun left right => (toLex (left.2.createdAtMs, services.attemptText left.1) : ℤ ×ₗ String) ≤
        toLex (right.2.createdAtMs, services.attemptText right.1)
    if 0 < recovered.sum then advanceReceiptIntelligenceRevision else pure ⟨⟩
    pure (resumable.map Prod.fst)

/-! ## Closing with a result -/

/-- The constraints and the trigger of the audits table. -/
def AuditRow.fits (row : AuditRow) (bounds : ReceiptIntelligenceBounds) : Bool :=
  0 < row.metadata.requestBytes && row.metadata.requestBytes ≤ 2097152 &&
    row.metadata.responseBytes ≤ 2097152 &&
    row.metadata.totalTokens = row.metadata.inputTokens + row.metadata.outputTokens &&
    row.metadata.reasoningTokens ≤ row.metadata.outputTokens &&
    row.metadata.cachedInputTokens ≤ row.metadata.inputTokens && row.metadata.attemptCount = 1 &&
    0 ≤ row.metadata.dispatchedAtMs && row.metadata.dispatchedAtMs ≤ row.finishedAtMs &&
    row.metadata.requestBytes ≤ bounds.maxRequestBytes &&
    row.metadata.responseBytes ≤ bounds.maxResponseBytes &&
    row.metadata.outputTokens ≤ bounds.maxOutputTokens &&
    row.metadata.attemptCount ≤ bounds.maxAttempts

def auditRow (row : AttemptRow) (reservation : ReceiptIntelligenceConsentReservation)
    (audit : ReceiptIntelligenceAuditMetadata) (nowMs : ℤ) : AuditRow where
  sourceRevisionId := row.sourceRevisionId
  localSourceId := row.localSourceId
  sourceRevisionSha256 := reservation.sourceRevisionSha256
  projectionSha256 := reservation.projectionSha256
  serializedRequestSha256 := reservation.serializedRequestSha256
  provider := reservation.provider
  model := reservation.model
  promptRevision := reservation.promptRevision
  schemaRevision := reservation.schemaRevision
  projectionRevision := reservation.projectionRevision
  retentionProvenance := reservation.retentionProvenance
  parametersSha256 := reservation.parametersSha256
  metadata := audit
  finishedAtMs := nowMs

def insertAudit (attempt : ReceiptIntelligenceAttemptId) (audit : ReceiptIntelligenceAuditMetadata)
    (nowMs : ℤ) : IntelligenceTransaction PUnit := do
  let t ← state
  match t.approved attempt with
  | none => fail (.conflict "receipt_intelligence_audit_attempt_changed")
  | some (row, approval) => do
    rejectIf (.conflict "receipt_intelligence_audit_attempt_changed")
      (row.state ≠ .dispatched ∨ row.dispatchedAtMs ≠ some audit.dispatchedAtMs)
    rejectIf .sqlite
      (¬ (auditRow row approval.reservation audit nowMs).fits approval.reservation.bounds)
    insertRow IntelligenceTables.audits (fun table t => { t with audits := table }) attempt
      (auditRow row approval.reservation audit nowMs)

def AttemptRow.refuse (audit : ReceiptIntelligenceAuditMetadata) (nowMs : ℤ) (row : AttemptRow) :
    AttemptRow :=
  { row with
    state := .refused
    failureCode := some "refused"
    inputTokens := some audit.inputTokens
    outputTokens := some audit.outputTokens
    finalizedAtMs := some nowMs }

def refuseReceiptIntelligence (attempt : ReceiptIntelligenceAttemptId)
    (audit : ReceiptIntelligenceAuditMetadata) (nowMs : ℤ) : IntelligenceTransaction PUnit := do
  check (validateAuditMetadata audit nowMs)
  atomically do
    insertAudit attempt audit nowMs
    replaceAttempt attempt [.dispatched] (AttemptRow.refuse audit nowMs)
      "receipt_intelligence_attempt_not_dispatched"

def ensureApprovedPreviewIsCurrent (services : RepositoryServices)
    (attempt : ReceiptIntelligenceAttemptId) : IntelligenceTransaction PUnit := do
  let t ← state
  match t.approved attempt with
  | none => fail (.invalidInput "receipt_intelligence_attempt_id")
  | some (_, approval) => do
    let current ← check (readPreview services.toPreviewServices t.receipts
      attempt.requestId approval.reservation.sourceRevisionId approval.reservation.bounds)
    rejectIf (.conflict "receipt_intelligence_source_revision_changed")
      (current.previewBindingSha256 ≠ approval.reservation.previewBindingSha256)

def IntelligenceTables.orderSource (t : IntelligenceTables) (order : ReceiptOrderEvidenceId) :
    Option String := do
  let _ ← t.orders.find? order
  let run ← t.runs.find? order.run
  let parse ← t.receipts.parses.find? fun parse => parse.parseId = run.parseId
  some parse.sourceId

def IntelligenceTables.sourceReviewCount (t : IntelligenceTables) (localSourceId : String) : ℕ :=
  t.reviewDecisions.countP fun order => t.orderSource order = some localSourceId

/-- What publication must leave alone. -/
def IntelligenceTables.authority (t : IntelligenceTables) (localSourceId : String) :
    Option AuthorityHeadRow × ℕ × ℤ :=
  (t.authorityHeads.find? localSourceId, t.sourceReviewCount localSourceId, t.catalogRevision)

def insertClassification (attempt : ReceiptIntelligenceAttemptId) (row : ClassificationRow) :
    IntelligenceTransaction PUnit := do
  let t ← state
  rejectIf .sqlite
    (row.classification.publishesOrder ≠ row.orderEvidenceId.isSome ∨
      ∃ order ∈ row.orderEvidenceId, t.orderSource order ≠ some row.localSourceId)
  insertRow IntelligenceTables.classifications (fun table t => { t with classifications := table })
    attempt row

def AttemptRow.complete (audit : ReceiptIntelligenceAuditMetadata) (nowMs : ℤ) (row : AttemptRow) :
    AttemptRow :=
  { row with
    state := .completed
    inputTokens := some audit.inputTokens
    outputTokens := some audit.outputTokens
    finalizedAtMs := some nowMs }

/-- Complete an attempt with a classification and what `publish` makes of it. -/
def completeReceiptIntelligenceWithPublication (services : RepositoryServices)
    (attempt : ReceiptIntelligenceAttemptId) (classification : ReceiptIntelligenceClassification)
    (audit : ReceiptIntelligenceAuditMetadata) (nowMs : ℤ)
    (publish : IntelligenceTransaction (Option ReceiptOrderEvidenceId)) :
    IntelligenceTransaction PUnit := do
  check (validateAuditMetadata audit nowMs)
  atomically do
    let before ← state
    match before.attempts.find? attempt with
    | none => fail (.invalidInput "receipt_intelligence_attempt_id")
    | some row => do
      rejectIf (.conflict "receipt_intelligence_attempt_not_dispatched")
        (row.state ≠ .dispatched)
      ensureApprovedPreviewIsCurrent services attempt
      let orderEvidenceId ← publish
      rejectIf (.invalidInput "receipt_intelligence_publication")
        (classification.publishesOrder ≠ orderEvidenceId.isSome)
      let after ← state
      rejectIf (.conflict "receipt_intelligence_order_source_changed")
        (∃ order ∈ orderEvidenceId, after.orderSource order ≠ some row.localSourceId)
      rejectIf (.conflict "receipt_intelligence_publication_authority")
        (after.authority row.localSourceId ≠ before.authority row.localSourceId)
      insertAudit attempt audit nowMs
      insertClassification attempt
        ⟨row.sourceRevisionId, row.localSourceId, classification, orderEvidenceId, nowMs⟩
      replaceAttempt attempt [.dispatched] (AttemptRow.complete audit nowMs)
        "receipt_intelligence_attempt_not_dispatched"

def completeReceiptIntelligenceWithoutOrder (services : RepositoryServices)
    (attempt : ReceiptIntelligenceAttemptId) (classification : ReceiptIntelligenceClassification)
    (audit : ReceiptIntelligenceAuditMetadata) (nowMs : ℤ) : IntelligenceTransaction PUnit :=
  if classification.publishesOrder then
    fail (.invalidInput "receipt_intelligence_classification")
  else completeReceiptIntelligenceWithPublication services attempt classification audit nowMs
    (pure none)

/-! ## Publishing an order -/

def persistOrderGraph (order : ReceiptOrderEvidenceId) (lines : List (Option ReceiptEventKindV1))
    (nowMs : ℤ) : IntelligenceTransaction PUnit := do
  insertRow IntelligenceTables.orders (fun table t => { t with orders := table }) order
    ⟨lines.length, nowMs⟩
  let _ ← forEach (fun line => insertRow IntelligenceTables.orderLines
    (fun table t => { t with orderLines := table }) (order, line.2) ⟨line.1, nowMs⟩) lines.zipIdx
  pure ⟨⟩

def publishReceiptIntelligenceOrder (services : RepositoryServices)
    (attempt : ReceiptIntelligenceAttemptId) (extraction : ReceiptIntelligenceExtraction)
    (nowMs : ℤ) : IntelligenceTransaction ReceiptOrderEvidenceId := do
  let t ← state
  match t.attempts.find? attempt with
  | none => fail .sqlite
  | some row => do
    rejectIf .sqlite (row.state ≠ .dispatched)
    match latestParse t.receipts row.localSourceId with
    | none => fail (.conflict "receipt_intelligence_parse_unavailable")
    | some parseId => do
      let lines ← check
        (services.orderLines t.receipts row.localSourceId parseId extraction)
      match t.runs.find? (.intelligence attempt) with
      | some run => do
        rejectIf (.conflict "receipt_intelligence_run_changed") (run.status ≠ "succeeded")
        rejectIf (.corrupt "receipt_order_missing") (t.orders.find? attempt.order).isNone
        pure attempt.order
      | none => do
        insertRow IntelligenceTables.runs (fun table t => { t with runs := table })
          (.intelligence attempt) ⟨parseId, "pending", nowMs, none⟩
        persistOrderGraph attempt.order lines nowMs
        update fun t => { t with
          runs := t.runs.put (.intelligence attempt) ⟨parseId, "succeeded", nowMs, some nowMs⟩
          evidenceGeneration := t.evidenceGeneration + 1 }
        pure attempt.order

def completeReceiptIntelligenceWithOrder (services : RepositoryServices)
    (attempt : ReceiptIntelligenceAttemptId) (classification : ReceiptIntelligenceClassification)
    (output : ReceiptIntelligenceOutput) (audit : ReceiptIntelligenceAuditMetadata) (nowMs : ℤ) :
    IntelligenceTransaction PUnit :=
  if ¬ classification.publishesOrder then
    fail (.invalidInput "receipt_intelligence_classification")
  else
    match output.extraction with
    | none => fail (.invalidInput "receipt_intelligence_extraction")
    | some extraction =>
      completeReceiptIntelligenceWithPublication services attempt classification audit nowMs
        (some <$> publishReceiptIntelligenceOrder services attempt extraction nowMs)

end Threadbook
