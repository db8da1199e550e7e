import Threadbook.ReceiptEvidence

/-!
# The store of the local-only mode

The mode is kept in three files, each with one record: the intent of a transition, the mode that is
active, and an acknowledgment of the two. `load` says a mode only where the three fit together;
`set` replaces them one after another. A file is modelled by the record that it is the one JSON
form of; all other contents, and no file, are `none`. Records are far below the greatest size.
-/

namespace Threadbook.LocalOnly

open Fallible

/-! ## Contract -/

abbrev RequestId := ReceiptUuidId

inductive LocalOnlyAuthorityHealthV1
  | persisted
  | failClosedDefault
  | failClosedUncertain
  deriving DecidableEq

inductive ReplayStatusV1
  | created
  | replayed

inductive LocalOnlyField
  | schemaVersion
  | expectedLocalOnlyRevision
  | localOnlyAuthority
  deriving DecidableEq

structure SetLocalOnlyV1Request where
  schemaVersion : ℕ
  requestId : RequestId
  enabled : Bool
  expectedRevision : ℕ

structure SetLocalOnlyV1Response where
  schemaVersion : ℕ
  requestId : RequestId
  localOnly : Bool
  revision : ℕ
  authorityHealth : LocalOnlyAuthorityHealthV1
  replayStatus : ReplayStatusV1

def SetLocalOnlyV1Request.validate (self : SetLocalOnlyV1Request) : Except LocalOnlyField Unit :=
  if self.schemaVersion ≠ schemaVersionV1 then .error .schemaVersion
  else if self.expectedRevision < maxSafeIntegerV1 then .ok ()
  else .error .expectedLocalOnlyRevision

def SetLocalOnlyV1Response.validate (self : SetLocalOnlyV1Response) : Except LocalOnlyField Unit :=
  if self.schemaVersion ≠ schemaVersionV1 then .error .schemaVersion
  else if self.revision = 0 ∨ maxSafeIntegerV1 < self.revision then
    .error .expectedLocalOnlyRevision
  else if self.authorityHealth ≠ .persisted then .error .localOnlyAuthority
  else .ok ()

/-! ## Records -/

structure TransitionIntentBodyV1 where
  schemaVersion : ℕ
  priorRevision : ℕ
  targetRevision : ℕ
  localOnly : Bool
  requestId : RequestId
  requestSha256 : String
  transitionNonce : String
  deriving DecidableEq

structure TransitionIntentV1 extends TransitionIntentBodyV1 where
  checksumSha256 : String
  deriving DecidableEq

structure ActiveModeBodyV1 where
  schemaVersion : ℕ
  revision : ℕ
  localOnly : Bool
  requestId : RequestId
  requestSha256 : String
  deriving DecidableEq

structure ActiveModeV1 extends ActiveModeBodyV1 where
  checksumSha256 : String
  deriving DecidableEq

/-- That the other two records have been written. -/
structure TransitionAcknowledgmentBodyV1 where
  schemaVersion : ℕ
  revision : ℕ
  transitionNonce : String
  intentSha256 : String
  activeSha256 : String
  deriving DecidableEq

structure TransitionAcknowledgmentV1 extends TransitionAcknowledgmentBodyV1 where
  checksumSha256 : String
  deriving DecidableEq

/-- The hashes of requests, bodies and records: SHA-256 of the JSON of each. -/
structure LocalOnlyServices where
  requestHash : SetLocalOnlyV1Request → String
  intentHash : TransitionIntentBodyV1 → String
  activeHash : ActiveModeBodyV1 → String
  acknowledgmentHash : TransitionAcknowledgmentBodyV1 → String
  intentDigest : TransitionIntentV1 → String
  activeDigest : ActiveModeV1 → String

structure Records where
  intent : TransitionIntentV1
  active : ActiveModeV1
  acknowledgment : TransitionAcknowledgmentV1

variable (services : LocalOnlyServices)

def TransitionIntentV1.validate (self : TransitionIntentV1) : Except PlatformError Unit :=
  if self.schemaVersion ≠ schemaVersionV1 ∨ self.targetRevision = 0 ∨
      maxSafeIntegerV1 < self.targetRevision ∨ self.targetRevision ≤ self.priorRevision ∨
      ¬ isHash self.requestSha256 ∨ ¬ isHash self.transitionNonce ∨
      ¬ isHash self.checksumSha256 then .error (.corrupt "local_only_intent")
  else if services.intentHash self.toTransitionIntentBodyV1 ≠ self.checksumSha256 then
    .error (.corrupt "local_only_intent_checksum")
  else .ok ()

def ActiveModeV1.validate (self : ActiveModeV1) : Except PlatformError Unit :=
  if self.schemaVersion ≠ schemaVersionV1 ∨ self.revision = 0 ∨
      maxSafeIntegerV1 < self.revision ∨ ¬ isHash self.requestSha256 ∨
      ¬ isHash self.checksumSha256 then .error (.corrupt "local_only_active")
  else if services.activeHash self.toActiveModeBodyV1 ≠ self.checksumSha256 then
    .error (.corrupt "local_only_active_checksum")
  else .ok ()

def TransitionAcknowledgmentV1.validate (self : TransitionAcknowledgmentV1) :
    Except PlatformError Unit :=
  if self.schemaVersion ≠ schemaVersionV1 ∨ self.revision = 0 ∨
      maxSafeIntegerV1 < self.revision ∨ ¬ isHash self.transitionNonce ∨
      ¬ isHash self.intentSha256 ∨ ¬ isHash self.activeSha256 ∨
      ¬ isHash self.checksumSha256 then .error (.corrupt "local_only_acknowledgment")
  else if services.acknowledgmentHash self.toTransitionAcknowledgmentBodyV1 ≠
      self.checksumSha256 then .error (.corrupt "local_only_acknowledgment_checksum")
  else .ok ()

def Records.fit (self : Records) : Bool :=
  self.intent.targetRevision == self.active.revision &&
    self.intent.localOnly == self.active.localOnly &&
    self.intent.requestId == self.active.requestId &&
    self.intent.requestSha256 == self.active.requestSha256 &&
    self.acknowledgment.revision == self.active.revision &&
    self.acknowledgment.transitionNonce == self.intent.transitionNonce &&
    self.acknowledgment.intentSha256 == services.intentDigest self.intent &&
    self.acknowledgment.activeSha256 == services.activeDigest self.active

def targetRecords (request : SetLocalOnlyV1Request) (currentRevision : ℕ)
    (transitionNonce : String) : Records :=
  let envelopeSha256 := services.requestHash request
  let intentBody : TransitionIntentBodyV1 :=
    ⟨schemaVersionV1, currentRevision, currentRevision + 1, request.enabled, request.requestId,
      envelopeSha256, transitionNonce⟩
  let intent : TransitionIntentV1 := ⟨intentBody, services.intentHash intentBody⟩
  let activeBody : ActiveModeBodyV1 :=
    ⟨schemaVersionV1, currentRevision + 1, request.enabled, request.requestId, envelopeSha256⟩
  let active : ActiveModeV1 := ⟨activeBody, services.activeHash activeBody⟩
  let acknowledgmentBody : TransitionAcknowledgmentBodyV1 :=
    ⟨schemaVersionV1, currentRevision + 1, transitionNonce, services.intentDigest intent,
      services.activeDigest active⟩
  ⟨intent, active, acknowledgmentBody, services.acknowledgmentHash acknowledgmentBody⟩

/-! ## Loading -/

structure RecordFiles where
  intent : Option TransitionIntentV1
  active : Option ActiveModeV1
  acknowledgment : Option TransitionAcknowledgmentV1

def readRecord {α : Type} (file : Option α) : Except PlatformError α :=
  match file with
  | none => .error (.io .other)
  | some record => .ok record

def RecordFiles.loadChain (self : RecordFiles) : Except PlatformError Records := do
  let intent ← readRecord self.intent
  let active ← readRecord self.active
  let acknowledgment ← readRecord self.acknowledgment
  intent.validate services
  active.validate services
  acknowledgment.validate services
  let chain : Records := ⟨intent, active, acknowledgment⟩
  if ¬ chain.fit services then .error (.corrupt "local_only_transition_mismatch")
  else if intent.priorRevision + 1 ≠ intent.targetRevision then
    .error (.corrupt "local_only_transition_revision")
  else .ok chain

structure LocalOnlyModeSnapshot where
  localOnly : Bool
  revision : ℕ
  authorityHealth : LocalOnlyAuthorityHealthV1

def LocalOnlyModeSnapshot.failClosed : LocalOnlyModeSnapshot := ⟨true, 0, .failClosedDefault⟩

/-- A transition of which it is not known how far it went. -/
structure UncertainPublication where
  priorRevision : ℕ
  priorRecords : Records
  targetRecords : Records
  requestId : RequestId
  requestSha256 : String

structure LocalOnlyModeStore where
  files : RecordFiles
  uncertain : Option UncertainPublication

def LocalOnlyModeStore.load (self : LocalOnlyModeStore) : LocalOnlyModeSnapshot :=
  match self.files.loadChain services with
  | .ok chain => ⟨chain.active.localOnly, chain.active.revision, .persisted⟩
  | .error _ => .failClosed

def LocalOnlyModeStore.readChain (self : LocalOnlyModeStore) (readable : Bool) : Option Records :=
  if readable then (self.files.loadChain services).toOption else none

def UncertainPublication.recognizedRecords (self : UncertainPublication) (files : RecordFiles) :
    Option Records := do
  let records : Records := ⟨← files.intent, ← files.active, ← files.acknowledgment⟩
  guard (records.intent = self.priorRecords.intent ∨ records.intent = self.targetRecords.intent)
  guard (records.active = self.priorRecords.active ∨ records.active = self.targetRecords.active)
  guard (records.acknowledgment = self.priorRecords.acknowledgment ∨
    records.acknowledgment = self.targetRecords.acknowledgment)
  return records

/-! ## Setting -/

inductive LocalOnlyStoreError
  | platform (error : PlatformError)
  | publicationOutcomeUnknown

inductive PublishOutcome
  | published
  | before (error : PlatformError)
  | unknown (renamed : Bool)

/-- What goes wrong around a call: whether files can be read, whether there is a nonce, how the
new files are prepared, and how each replacement ends. -/
structure StoreFaults where
  readable : Bool
  recognizable : Bool
  nonce : Except PlatformError String
  prepared : Except PlatformError Unit
  publishes : ℕ → PublishOutcome
  verifiable : Bool

abbrev StoreCall (α : Type) : Type := Fallible LocalOnlyModeStore LocalOnlyStoreError α

def validateRequest (request : SetLocalOnlyV1Request) : Except LocalOnlyStoreError Unit :=
  if request.schemaVersion ≠ schemaVersionV1 then
    .error (.platform (.invalidInput "schema_version"))
  else if maxSafeIntegerV1 ≤ request.expectedRevision then
    .error (.platform (.invalidInput "expected_revision"))
  else .ok ()

def response (requestId : RequestId) (localOnly : Bool) (revision : ℕ)
    (replayStatus : ReplayStatusV1) : SetLocalOnlyV1Response :=
  ⟨schemaVersionV1, requestId, localOnly, revision, .persisted, replayStatus⟩

def RecordFiles.renamed (self : RecordFiles) (target : Records) (index : ℕ) : RecordFiles :=
  match index with
  | 0 => { self with intent := some target.intent }
  | 1 => { self with active := some target.active }
  | _ => { self with acknowledgment := some target.acknowledgment }

def outcomeUnknown {α : Type} (uncertain : Option UncertainPublication) : StoreCall α := do
  update fun store => { store with uncertain }
  fail .publicationOutcomeUnknown

def publishRecords (faults : StoreFaults) (target : Records)
    (uncertain : Option UncertainPublication) : List ℕ → Bool → StoreCall Unit
  | [], _ => pure ()
  | index :: rest, publicationStarted =>
    match faults.publishes index with
    | .published => do
      update fun store => { store with files := store.files.renamed target index }
      publishRecords faults target uncertain rest true
    | .before error =>
      if publicationStarted then outcomeUnknown uncertain else fail (.platform error)
    | .unknown renamed => do
      update fun store =>
        if renamed then { store with files := store.files.renamed target index } else store
      outcomeUnknown uncertain

def publishTransition (faults : StoreFaults) (request : SetLocalOnlyV1Request) (target : Records)
    (uncertain : Option UncertainPublication) : StoreCall SetLocalOnlyV1Response := do
  publishRecords faults target uncertain [0, 1, 2] false
  let store ← state
  match store.readChain services faults.verifiable with
  | none => outcomeUnknown uncertain
  | some loaded =>
    if loaded.active.revision ≠ target.active.revision ∨
        loaded.active.requestId ≠ request.requestId ∨
        loaded.active.localOnly ≠ request.enabled then outcomeUnknown uncertain
    else do
      update fun store => { store with uncertain := none }
      pure (response request.requestId request.enabled target.active.revision .created)

def LocalOnlyModeStore.recognized (self : LocalOnlyModeStore) (current : Option Records)
    (recognizable : Bool) : Option Records :=
  if current.isNone ∧ recognizable then
    self.uncertain.bind fun uncertain => uncertain.recognizedRecords self.files
  else none

def LocalOnlyModeStore.currentRevision (self : LocalOnlyModeStore) (current : Option Records)
    (recognized : Option Records) : ℕ :=
  match current, recognized, self.uncertain with
  | some chain, _, _ => chain.active.revision
  | none, some _, some uncertain => uncertain.priorRevision
  | none, _, _ => 0

def setNew (faults : StoreFaults) (request : SetLocalOnlyV1Request) (current : Option Records) :
    StoreCall SetLocalOnlyV1Response := do
  let store ← state
  let recognized := store.recognized current faults.recognizable
  let currentRevision := store.currentRevision current recognized
  rejectIf (.platform (.conflict "local_only_stale_revision"))
    (request.expectedRevision ≠ currentRevision)
  rejectIf (.platform (.conflict "local_only_revision_exhausted"))
    (maxSafeIntegerV1 < currentRevision + 1)
  let transitionNonce ← check (faults.nonce.mapError .platform)
  let target := targetRecords services request currentRevision transitionNonce
  let uncertain := (current.or recognized).map fun priorRecords : Records =>
    ⟨currentRevision, priorRecords, target, request.requestId, services.requestHash request⟩
  check (faults.prepared.mapError .platform)
  publishTransition services faults request target uncertain

def set (faults : StoreFaults) (request : SetLocalOnlyV1Request) :
    StoreCall SetLocalOnlyV1Response := do
  check (validateRequest request)
  let store ← state
  let current := store.readChain services faults.readable
  rejectIf (.platform (.conflict "local_only_request_id_reused"))
    (store.uncertain.any fun uncertain => uncertain.requestId == request.requestId &&
      uncertain.requestSha256 != services.requestHash request)
  match current.filter fun chain => chain.active.requestId = request.requestId with
  | some chain => do
    rejectIf (.platform (.conflict "local_only_request_id_reused"))
      (chain.active.requestSha256 ≠ services.requestHash request)
    update fun store => { store with uncertain := none }
    pure (response request.requestId chain.active.localOnly chain.active.revision .replayed)
  | none => setNew services faults request current

def LocalOnlyModeStore.acknowledgedResponse (self : LocalOnlyModeStore) (readable : Bool)
    (request : SetLocalOnlyV1Request) : Option SetLocalOnlyV1Response := do
  let chain ← self.readChain services readable
  guard (chain.active.requestId = request.requestId)
  guard (chain.active.requestSha256 = services.requestHash request)
  guard (chain.active.localOnly = request.enabled)
  guard (chain.active.revision = request.expectedRevision + 1)
  return response request.requestId chain.active.localOnly chain.active.revision .created

def LocalOnlyModeStore.loadAcknowledgedResponse (self : LocalOnlyModeStore) (readable : Bool)
    (request : SetLocalOnlyV1Request) : Option SetLocalOnlyV1Response × LocalOnlyModeStore :=
  match self.acknowledgedResponse services readable request with
  | none => (none, self)
  | some response => (some response, { self with uncertain := none })

end Threadbook.LocalOnly
