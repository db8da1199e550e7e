import Threadbook.IntelligenceRepository
import Threadbook.Interleaving

/-!
# The receipt intelligence coordinator

`request` sends a receipt the user agreed to send: it reserves an attempt, marks it as
sent, hands it to the provider and stores the outcome. It is a `Program` whose actions
are the repository's transactions, the clock, the keychain and the provider, since other
calls, a crash or the recovery at startup may come between any two of them.
-/

namespace Threadbook

open Fallible

/-! ## The answer -/

inductive ReceiptIntelligenceUserActionV1
  | startNewPreview
  | reviewSource
  | retryWhenAvailable
  | checkOpenAiCredential
  | reviewRetentionSettings
  | reviewProviderStatus
  | nothing

def ReceiptIntelligenceFailureCode.userAction :
    ReceiptIntelligenceFailureCode → ReceiptIntelligenceUserActionV1
  | .approvalExpired | .approvalConsumed | .consentMismatch => .startNewPreview
  | .boundExceeded => .reviewSource
  | .localOnly | .releaseEvidenceUnavailable | .outboundAuthorityUnavailable =>
    .retryWhenAvailable
  | .credentialUnavailable => .checkOpenAiCredential
  | .retentionDeclarationStale => .reviewRetentionSettings
  | .sourceUnavailable => .reviewSource
  | .sourceRevisionChanged => .startNewPreview
  | .providerAuthentication => .checkOpenAiCredential
  | .providerRateLimited | .providerUnavailable => .retryWhenAvailable
  | .providerProtocol | .providerOutputInvalid | .citationInvalid => .reviewProviderStatus
  | .persistenceFailed => .retryWhenAvailable
  | .cancelled => .nothing

def ReceiptIntelligenceFailureCode.all : List ReceiptIntelligenceFailureCode :=
  [.approvalExpired, .approvalConsumed, .consentMismatch, .boundExceeded, .localOnly,
    .releaseEvidenceUnavailable, .outboundAuthorityUnavailable, .credentialUnavailable,
    .retentionDeclarationStale, .sourceUnavailable, .sourceRevisionChanged,
    .providerAuthentication, .providerRateLimited, .providerUnavailable, .providerProtocol,
    .providerOutputInvalid, .citationInvalid, .persistenceFailed, .cancelled]

structure ReceiptIntelligenceFailureV1 where
  code : ReceiptIntelligenceFailureCode
  retryable : Bool
  userAction : ReceiptIntelligenceUserActionV1

def coreFailure (value : String) : Except PlatformError ReceiptIntelligenceFailureV1 :=
  match ReceiptIntelligenceFailureCode.all.find? fun code => code.asDb = value with
  | some code => .ok ⟨code, false, code.userAction⟩
  | none => .error (.corrupt "receipt_intelligence_failure_code")

structure ReceiptIntelligenceAuditV1 where
  audit : AuditRow
  executionBounds : ReceiptIntelligenceBounds
  dispatchedAt : String
  finishedAt : String

inductive ReceiptIntelligenceOutcomeV1
  | reserved (approval : ReceiptIntelligenceApprovalId) (attempt : ReceiptIntelligenceAttemptId)
      (sourceId sourceRevisionId approvalCreatedAt approvalConsumedAt expiresAt : String)
  | dispatched (attempt : ReceiptIntelligenceAttemptId) (dispatchedAt : String)
  | completed (attempt : ReceiptIntelligenceAttemptId) (classification : ClassificationRow)
      (createdAt : String) (audit : ReceiptIntelligenceAuditV1)
  | refused (attempt : ReceiptIntelligenceAttemptId) (audit : ReceiptIntelligenceAuditV1)
  | failed (attempt : ReceiptIntelligenceAttemptId) (failure : ReceiptIntelligenceFailureV1)
      (audit : Option ReceiptIntelligenceAuditV1)
  | outcomeUnknown (attempt : ReceiptIntelligenceAttemptId)
      (audit : Option ReceiptIntelligenceAuditV1)

structure RequestReceiptIntelligenceV1Response where
  schemaVersion : ℕ
  requestId : String
  outcome : ReceiptIntelligenceOutcomeV1
  replayed : Bool

structure ReceiptIntelligenceConsentV1 where
  affirmative : Bool
  preview : ReceiptIntelligencePreviewV1
  deriving DecidableEq

structure RequestReceiptIntelligenceV1Request where
  schemaVersion : ℕ
  requestId : String
  consent : ReceiptIntelligenceConsentV1
  deriving DecidableEq

def RequestReceiptIntelligenceV1Request.validate (services : ContractServices)
    (request : RequestReceiptIntelligenceV1Request) : Except ValidationError Unit := do
  requireSchemaV1 request.schemaVersion
  if ¬ request.consent.affirmative then .error invalid
  else request.consent.preview.validate services

structure RequestServices extends RepositoryServices where
  requestJson : RequestReceiptIntelligenceV1Request → List UInt8
  parametersJson : String × ReceiptIntelligenceExecutionBoundsV1 → List UInt8
  retentionCurrent : String → ℤ → Except PlatformError Unit
  parseTimestamp : String → Except PlatformError ℤ
  isCredentialLocator : String → Bool
  validResponse : RequestReceiptIntelligenceV1Response → Bool

def loadCoreAudit (services : RequestServices) (t : IntelligenceTables)
    (attempt : ReceiptIntelligenceAttemptId) (bounds : ReceiptIntelligenceBounds) :
    Except PlatformError (Option ReceiptIntelligenceAuditV1) :=
  match t.audits.find? attempt with
  | none => .ok none
  | some audit => do
    let dispatchedAt ← services.timestamp audit.metadata.dispatchedAtMs
    let finishedAt ← services.timestamp audit.finishedAtMs
    .ok (some ⟨audit, bounds, dispatchedAt, finishedAt⟩)

def required {α : Type} (value : Option α) (code : String) : Except PlatformError α :=
  match value with
  | some a => .ok a
  | none => .error (.corrupt code)

def attemptOutcome (services : RequestServices) (t : IntelligenceTables)
    (attempt : ReceiptIntelligenceAttemptId) (row : AttemptRow) (approval : ApprovalRow)
    (audit : Option ReceiptIntelligenceAuditV1) :
    Except PlatformError ReceiptIntelligenceOutcomeV1 :=
  match row.state with
  | .notSent => do
    let createdAt ← services.timestamp approval.createdAtMs
    let expiresAt ← services.timestamp approval.reservation.expiresAtMs
    .ok (.reserved ⟨attempt.requestId⟩ attempt row.localSourceId row.sourceRevisionId createdAt
      createdAt expiresAt)
  | .dispatched => do
    let dispatchedAtMs ← required row.dispatchedAtMs "receipt_intelligence_dispatched_at"
    let dispatchedAt ← services.timestamp dispatchedAtMs
    .ok (.dispatched attempt dispatchedAt)
  | .completed => do
    let classification ← required (t.classifications.find? attempt)
      "receipt_intelligence_classification_id"
    let createdAt ← services.timestamp classification.createdAtMs
    let audit ← required audit "receipt_intelligence_audit_missing"
    .ok (.completed attempt classification createdAt audit)
  | .refused => do
    let audit ← required audit "receipt_intelligence_audit_missing"
    .ok (.refused attempt audit)
  | .failed => do
    let code ← required row.failureCode "receipt_intelligence_failure_code"
    let failure ← coreFailure code
    .ok (.failed attempt failure audit)
  | .outcomeUnknown => .ok (.outcomeUnknown attempt audit)

def receiptIntelligenceResponse (services : RequestServices) (requestId : String)
    (attempt : ReceiptIntelligenceAttemptId) (replayed : Bool) :
    IntelligenceTransaction RequestReceiptIntelligenceV1Response := do
  let t ← state
  match t.approved attempt with
  | none => fail (.invalidInput "receipt_intelligence_attempt_id")
  | some (row, approval) => do
    let audit ← check (loadCoreAudit services t attempt approval.reservation.bounds)
    let outcome ← check (attemptOutcome services t attempt row approval audit)
    let response : RequestReceiptIntelligenceV1Response :=
      ⟨schemaVersionV1, requestId, outcome, replayed⟩
    rejectIf (.corrupt "receipt_intelligence_response") (¬ services.validResponse response)
    pure response

/-! ## The provider -/

/-- The status a provider rejects a call with. -/
inductive OpenAiHttpStatusKind
  | authentication
  | permission
  | rateLimited
  | other

/-- How a call to the provider fails on the way. -/
inductive OpenAiResponsesHttpError
  | timeout (outcomeUnknown : Bool)
  | outcomeUnknown
  | httpStatus (kind : OpenAiHttpStatusKind)
  | other

/-- The provider may have acted on the call. -/
def OpenAiResponsesHttpError.outcomeIsUnknown : OpenAiResponsesHttpError → Bool
  | .outcomeUnknown | .timeout true => true
  | _ => false

inductive ReceiptIntelligenceProviderError
  | invalidRequest
  | requestTooLarge
  | transport (error : OpenAiResponsesHttpError)
  | protocol
  | malformedOutput
  | outputTooLarge
  | outputTokenLimit
  | invalidUsage
  | invalidCitation
  | invalidOutput

structure ReceiptIntelligenceAudit where
  providerRequestId : Option String
  responseId : String
  requestBytes : ℕ
  responseBytes : ℕ
  inputTokens : ℕ
  outputTokens : ℕ
  totalTokens : ℕ
  reasoningTokens : ℕ
  cachedInputTokens : ℕ
  attempts : ℕ

inductive ProviderOutcome
  | completed (output : ReceiptIntelligenceOutput) (audit : ReceiptIntelligenceAudit)
  | refused (audit : ReceiptIntelligenceAudit)
  | incomplete

def auditMetadata (audit : ReceiptIntelligenceAudit) (dispatchedAtMs : ℤ) :
    ReceiptIntelligenceAuditMetadata where
  responseSha256 := none
  providerRequestId := audit.providerRequestId
  responseId := some audit.responseId
  requestBytes := audit.requestBytes
  responseBytes := audit.responseBytes
  inputTokens := audit.inputTokens
  outputTokens := audit.outputTokens
  totalTokens := audit.totalTokens
  reasoningTokens := audit.reasoningTokens
  cachedInputTokens := audit.cachedInputTokens
  attemptCount := audit.attempts
  dispatchedAtMs

def providerFailureCode : ReceiptIntelligenceProviderError → ReceiptIntelligenceFailureCode
  | .transport (.httpStatus .authentication) | .transport (.httpStatus .permission) =>
    .providerAuthentication
  | .transport (.httpStatus .rateLimited) => .providerRateLimited
  | .transport _ => .providerUnavailable
  | .invalidCitation => .citationInvalid
  | .protocol => .providerProtocol
  | _ => .providerOutputInvalid

/-- The failure stored when a result could not be. -/
def publicationFailureCode (error : PlatformError) : ReceiptIntelligenceFailureCode :=
  if error = .invalidInput "receipt_intelligence_citation" then .citationInvalid
  else if error ∈ [.invalidInput "receipt_intelligence_provider_output",
      .invalidInput "receipt_intelligence_order",
      .conflict "receipt_intelligence_source_revision_changed",
      .conflict "receipt_intelligence_parse_changed"] then .providerOutputInvalid
  else .persistenceFailed

/-! ## Actions -/

/-- The repository's transactions. -/
inductive IntelligenceOperation : Type → Type
  | preflightReplay (requestId commandSha256 : String) :
      IntelligenceOperation (Option ReservedReceiptIntelligenceAttempt)
  | preview (requestId sourceRevisionId : String) (bounds : ReceiptIntelligenceBounds) :
      IntelligenceOperation ReceiptIntelligencePreview
  | reserve (reservation : ReceiptIntelligenceConsentReservation) (nowMs : ℤ) :
      IntelligenceOperation ReservedReceiptIntelligenceAttempt
  | credentialLocator (attempt : ReceiptIntelligenceAttemptId) (nowMs : ℤ) :
      IntelligenceOperation String
  | markDispatched (attempt : ReceiptIntelligenceAttemptId) (nowMs : ℤ) :
      IntelligenceOperation PUnit
  | fail (attempt : ReceiptIntelligenceAttemptId) (code : ReceiptIntelligenceFailureCode)
      (nowMs : ℤ) : IntelligenceOperation PUnit
  | markOutcomeUnknown (attempt : ReceiptIntelligenceAttemptId) (nowMs : ℤ) :
      IntelligenceOperation PUnit
  | refuse (attempt : ReceiptIntelligenceAttemptId) (audit : ReceiptIntelligenceAuditMetadata)
      (nowMs : ℤ) : IntelligenceOperation PUnit
  | completeWithoutOrder (attempt : ReceiptIntelligenceAttemptId)
      (classification : ReceiptIntelligenceClassification)
      (audit : ReceiptIntelligenceAuditMetadata) (nowMs : ℤ) : IntelligenceOperation PUnit
  | completeWithOrder (attempt : ReceiptIntelligenceAttemptId)
      (classification : ReceiptIntelligenceClassification) (output : ReceiptIntelligenceOutput)
      (audit : ReceiptIntelligenceAuditMetadata) (nowMs : ℤ) : IntelligenceOperation PUnit
  | recover (nowMs : ℤ) : IntelligenceOperation (List ReceiptIntelligenceAttemptId)
  | response (requestId : String) (attempt : ReceiptIntelligenceAttemptId) (replayed : Bool) :
      IntelligenceOperation RequestReceiptIntelligenceV1Response

def IntelligenceOperation.run (services : RequestServices) {β : Type} :
    IntelligenceOperation β → IntelligenceTransaction β
  | .preflightReplay requestId commandSha256 =>
    preflightReceiptIntelligenceReplay services.toRepositoryServices requestId commandSha256
  | .preview requestId sourceRevisionId bounds =>
    previewReceiptIntelligence services.toRepositoryServices requestId sourceRevisionId bounds
  | .reserve reservation nowMs =>
    reserveReceiptIntelligence services.toRepositoryServices reservation nowMs
  | .credentialLocator attempt nowMs => receiptIntelligenceCredentialLocator attempt nowMs
  | .markDispatched attempt nowMs => markReceiptIntelligenceDispatched attempt nowMs
  | .fail attempt code nowMs => failReceiptIntelligence attempt code nowMs
  | .markOutcomeUnknown attempt nowMs => markReceiptIntelligenceOutcomeUnknown attempt nowMs
  | .refuse attempt audit nowMs => refuseReceiptIntelligence attempt audit nowMs
  | .completeWithoutOrder attempt classification audit nowMs =>
    completeReceiptIntelligenceWithoutOrder services.toRepositoryServices attempt classification
      audit nowMs
  | .completeWithOrder attempt classification output audit nowMs =>
    completeReceiptIntelligenceWithOrder services.toRepositoryServices attempt classification output
      audit nowMs
  | .recover nowMs => recoverReceiptIntelligenceAttempts services.toRepositoryServices nowMs
  | .response requestId attempt replayed =>
    receiptIntelligenceResponse services requestId attempt replayed

/-- What the coordinator does in one go. -/
inductive IntelligenceAction : Type → Type 1
  | unixNowMs : IntelligenceAction (Except PlatformError ℤ)
  | secret (locator : String) : IntelligenceAction (Except PlatformError PUnit)
  | analyze (attempt : ReceiptIntelligenceAttemptId) (parentSourceRevision : String)
      (projection : ReceiptIntelligenceProjectionV1) :
      IntelligenceAction (Except ReceiptIntelligenceProviderError ProviderOutcome)
  | database {β : Type} (operation : IntelligenceOperation β) :
      IntelligenceAction (Except PlatformError β)

abbrev Coordinator (α : Type) : Type 1 := Program IntelligenceAction PlatformError α

/-! ## The request -/

def terminalReplay (services : RequestServices) (request : RequestReceiptIntelligenceV1Request) :
    Coordinator (Option RequestReceiptIntelligenceV1Response) := do
  Program.check ((request.validate services.toContractServices).mapError fun _ =>
    .invalidInput "receipt_intelligence_request")
  let commandSha256 := services.digest (services.requestJson request)
  match ← Program.call (.database (.preflightReplay request.requestId commandSha256)) with
  | none => pure none
  | some replayed =>
    if replayed.state = .notSent then pure none
    else do
      let response ← Program.call
        (.database (.response request.requestId replayed.attemptId true))
      pure (some response)

def ensurePreviewUnchanged (services : ContractServices) (preview : ReceiptIntelligencePreviewV1)
    (stored : ReceiptIntelligencePreview) : Except PlatformError Unit := do
  (preview.validate services).mapError fun _ => .invalidInput "receipt_intelligence_preview"
  if stored.localSourceId ≠ preview.consentEnvelope.sourceId ∨
      stored.sourceRevisionSha256 ≠ preview.consentEnvelope.sourceRevisionSha256 ∨
      stored.projectionSha256 ≠ preview.consentEnvelope.projectionSha256 ∨
      stored.fragments.length ≠ preview.disclosure.projection.fragments.length then
    .error (.conflict "receipt_intelligence_preview_changed")
  else .ok ()

def retentionMode : OpenAiRetentionModeV1 → String
  | .unknown => "unknown"
  | .default => "default"
  | .mam => "MAM"
  | .zdr => "ZDR"

def requestReservation (services : RequestServices) (request : RequestReceiptIntelligenceV1Request)
    (stored : ReceiptIntelligencePreview) (expiresAtMs : ℤ) :
    ReceiptIntelligenceConsentReservation :=
  let envelope := request.consent.preview.consentEnvelope
  { requestId := request.requestId
    commandSha256 := services.digest (services.requestJson request)
    sourceRevisionId := envelope.sourceRevisionId
    sourceRevisionSha256 := envelope.sourceRevisionSha256
    previewBindingSha256 := stored.previewBindingSha256
    fragmentSetSha256 := stored.fragmentSetSha256
    projectionSha256 := envelope.projectionSha256
    serializedRequestSha256 := envelope.serializedRequestSha256
    serializedRequestBytes := envelope.serializedRequestBytes
    credentialId := envelope.credentialId
    provider := envelope.provider
    model := envelope.model
    retentionMode := retentionMode envelope.retention.declaration.mode
    retentionProvenance := envelope.retention.declaration.provenance
    promptRevision := envelope.promptRevision
    schemaRevision := envelope.schemaRevision
    projectionRevision := envelope.projectionRevision
    parametersSha256 := services.digest
      (services.parametersJson (receiptIntelligenceParameterRevisionV1, envelope.executionBounds))
    bounds := repositoryBounds envelope.preparationBounds envelope.executionBounds
    expiresAtMs }

def failNow (attempt : ReceiptIntelligenceAttemptId) (code : ReceiptIntelligenceFailureCode) :
    Coordinator PUnit := do
  let nowMs ← Program.call .unixNowMs
  Program.call (.database (.fail attempt code nowMs))

def completion (attempt : ReceiptIntelligenceAttemptId) (dispatchedAtMs finishedAtMs : ℤ) :
    Except ReceiptIntelligenceProviderError ProviderOutcome → IntelligenceOperation PUnit
  | .ok (.completed output audit) =>
    if output.classification = .unrelated ∨ output.classification = .ambiguous then
      .completeWithoutOrder attempt output.classification (auditMetadata audit dispatchedAtMs)
        finishedAtMs
    else .completeWithOrder attempt output.classification output
      (auditMetadata audit dispatchedAtMs) finishedAtMs
  | .ok (.refused audit) => .refuse attempt (auditMetadata audit dispatchedAtMs) finishedAtMs
  | .ok .incomplete => .fail attempt .providerOutputInvalid finishedAtMs
  | .error (.transport error) =>
    if error.outcomeIsUnknown then .markOutcomeUnknown attempt finishedAtMs
    else .fail attempt (providerFailureCode (.transport error)) finishedAtMs
  | .error error => .fail attempt (providerFailureCode error) finishedAtMs

def dispatch (request : RequestReceiptIntelligenceV1Request)
    (attempt : ReceiptIntelligenceAttemptId) :
    Coordinator RequestReceiptIntelligenceV1Response := do
  let dispatchedAtMs ← Program.call .unixNowMs
  Program.call (.database (.markDispatched attempt dispatchedAtMs))
  let outcome ← Program.perform (.analyze attempt
    request.consent.preview.consentEnvelope.sourceRevisionId
    request.consent.preview.disclosure.projection)
  let finishedAtMs ← Program.call .unixNowMs
  match ← Program.perform
      (.database (completion attempt dispatchedAtMs finishedAtMs outcome)) with
  | .ok _ => pure ⟨⟩
  | .error error =>
    Program.call (.database (.fail attempt (publicationFailureCode error) finishedAtMs))
  Program.call (.database (.response request.requestId attempt false))

def authorize (services : RequestServices) (request : RequestReceiptIntelligenceV1Request)
    (reserved : ReservedReceiptIntelligenceAttempt) (nowMs : ℤ) :
    Coordinator RequestReceiptIntelligenceV1Response := do
  match ← Program.perform (.database (.credentialLocator reserved.attemptId nowMs)) with
  | .error error => do
    failNow reserved.attemptId
      (if error = .conflict "receipt_intelligence_approval_expired" then .approvalExpired
        else .credentialUnavailable)
    Program.call (.database (.response request.requestId reserved.attemptId reserved.replayed))
  | .ok locator =>
    if ¬ services.isCredentialLocator locator then
      Program.check (.error (.corrupt "receipt_intelligence_credential_locator"))
    else do
      match ← Program.perform (.secret locator) with
      | .error error => do
        failNow reserved.attemptId .credentialUnavailable
        Program.check (.error error)
      | .ok _ => dispatch request reserved.attemptId

def request (services : RequestServices) (request : RequestReceiptIntelligenceV1Request) :
    Coordinator RequestReceiptIntelligenceV1Response := do
  Program.check ((request.validate services.toContractServices).mapError fun _ =>
    .invalidInput "receipt_intelligence_request")
  match ← terminalReplay services request with
  | some response => pure response
  | none => do
    let nowMs ← Program.call .unixNowMs
    let preview := request.consent.preview
    let envelope := preview.consentEnvelope
    Program.check (services.retentionCurrent envelope.retention.declaration.provenance nowMs)
    let stored ← Program.call (.database (.preview request.requestId envelope.sourceRevisionId
      (repositoryBounds envelope.preparationBounds envelope.executionBounds)))
    Program.check (ensurePreviewUnchanged services.toContractServices preview stored)
    let expiresAtMs ← Program.check (services.parseTimestamp envelope.expiresAt)
    let reserved ← Program.call
      (.database (.reserve (requestReservation services request stored expiresAtMs) nowMs))
    if reserved.replayed ∧ reserved.state ≠ .notSent then
      Program.call (.database (.response request.requestId reserved.attemptId true))
    else do
      let serialized ← Program.check
        (services.providerRequest envelope.sourceRevisionId preview.disclosure.projection)
      if services.digest serialized ≠ envelope.serializedRequestSha256 ∨
          serialized.length % 2 ^ 32 ≠ envelope.serializedRequestBytes then do
        failNow reserved.attemptId .consentMismatch
        Program.check (.error (.conflict "receipt_intelligence_request_changed"))
      else authorize services request reserved nowMs

def recover : Coordinator (List ReceiptIntelligenceAttemptId) := do
  let nowMs ← Program.call .unixNowMs
  Program.call (.database (.recover nowMs))

/-! ## The world of the coordinator -/

/-- What the outside contributes to an action: the time, the keychain's answer, the
provider's, and a fault that keeps the database from doing anything. -/
structure Outside where
  clock : Except PlatformError ℤ
  secret : Except PlatformError PUnit
  outcome : Except ReceiptIntelligenceProviderError ProviderOutcome
  fault : Option PlatformError

def intelligenceMachine (services : RequestServices) :
    Machine IntelligenceTables IntelligenceAction Outside where
  perform {_} action outside t :=
    match action with
    | .unixNowMs => (outside.clock, t)
    | .secret _ => (outside.secret, t)
    | .analyze _ _ _ => (outside.outcome, t)
    | .database operation =>
      match outside.fault with
      | some e => (.error e, t)
      | none => operation.run services t

def IntelligenceOperation.marks {β : Type} :
    IntelligenceOperation β → Option ReceiptIntelligenceAttemptId
  | .markDispatched attempt _ => some attempt
  | _ => none

def IntelligenceAction.marked {β : Type} :
    IntelligenceAction β → β → Option ReceiptIntelligenceAttemptId
  | .database operation, answer => if answer.isOk then operation.marks else none
  | _, _ => none

def IntelligenceAction.sends {β : Type} :
    IntelligenceAction β → Option ReceiptIntelligenceAttemptId
  | .analyze attempt _ _ => some attempt
  | _ => none

def sendLicence : Licence IntelligenceAction ReceiptIntelligenceAttemptId where
  spends := IntelligenceAction.sends
  grants := IntelligenceAction.marked

/-- What a call returns. -/
inductive CoordinatorReply
  | response (response : RequestReceiptIntelligenceV1Response)
  | replay (response : Option RequestReceiptIntelligenceV1Response)
  | resumable (attempts : List ReceiptIntelligenceAttemptId)

inductive CoordinatorCall (services : RequestServices) : Coordinator CoordinatorReply → Prop
  | request (r : RequestReceiptIntelligenceV1Request) :
      CoordinatorCall services (.response <$> request services r)
  | terminalReplay (r : RequestReceiptIntelligenceV1Request) :
      CoordinatorCall services (.replay <$> terminalReplay services r)
  | recover : CoordinatorCall services (.resumable <$> recover)

/-- Whatever else happens to the database leaves what is stored about attempts. -/
def Elsewhere (t t' : IntelligenceTables) : Prop := ∀ attempt, t'.view attempt = t.view attempt

end Threadbook
