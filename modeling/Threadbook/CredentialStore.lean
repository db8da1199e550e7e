import Mathlib.Data.List.Sort
import Mathlib.Data.Prod.Lex
import Mathlib.Data.String.Basic
import Threadbook.CallLogs
import Threadbook.Errors
import Threadbook.Table

/-!
# Credentials in two stores

The database has a row for each credential, the keychain its secret. Saving reserves a row, writes
the secret and activates the row; deleting marks the row, deletes the secret and then the row; at
startup what is pending is settled. Each of these is a `Program`: the other calls, a failure or a
crash may come between any two of its steps.

Besides what is stored, a `Vault` has a history of the locators that were issued, of the rows that
were deleted and of the deletions that were finished. No step reads it.
-/

namespace Threadbook.Credentials

open Fallible

/-! ## Contracts -/

inductive CredentialProviderV1
  | gmail
  | openAi
  deriving DecidableEq

/-- The status of a row; `saveFailed` is reported as one that needs attention. -/
inductive CredentialStatusV1
  | pendingSave
  | active
  | pendingDelete
  | saveFailed
  deriving DecidableEq

structure CredentialId where
  saveRequestId : String
  deriving DecidableEq

structure SaveCredentialV1Request where
  schemaVersion : ℕ
  requestId : String
  provider : CredentialProviderV1
  displayLabel : String
  secret : String

structure DeleteCredentialV1Request where
  schemaVersion : ℕ
  requestId : String
  credentialId : CredentialId

structure CredentialReferenceV1 where
  credentialId : CredentialId
  provider : CredentialProviderV1
  displayLabel : String
  status : CredentialStatusV1
  updatedAtMs : ℤ

inductive ReplayStatusV1
  | created
  | replayed

structure SaveCredentialV1Response where
  requestId : String
  credential : CredentialReferenceV1
  replayStatus : ReplayStatusV1

structure DeleteCredentialV1Response where
  requestId : String
  credentialId : CredentialId
  deleted : Bool
  replayStatus : ReplayStatusV1

inductive SaveCredentialPlanV1
  | replay (reference : CredentialReferenceV1)
  | writeSecret (locator : String) (pendingReference : CredentialReferenceV1)

inductive DeleteCredentialPlanV1
  | replay (credentialId : CredentialId) (deleted : Bool)
  | deleteSecret (locator : String) (credentialId : CredentialId)

/-- Why a command fails; `failed` is a failure of the database or the keychain. -/
inductive CommandError
  | invalidRequest
  | platform (error : PlatformError)
  | internalData
  | failed
  deriving DecidableEq

/-- What requests are checked with: a label has visible text of at most 80 characters. -/
structure CredentialServices where
  validLabel : String → Bool

def SaveCredentialV1Request.validate (services : CredentialServices)
    (request : SaveCredentialV1Request) : Except CommandError Unit :=
  if request.schemaVersion ≠ schemaVersionV1 ∨ request.provider = .gmail ∨
      ¬ services.validLabel request.displayLabel ∨ request.secret.isEmpty ∨
      8 * 1024 < request.secret.utf8ByteSize then .error .invalidRequest
  else .ok ()

def DeleteCredentialV1Request.validate (request : DeleteCredentialV1Request) :
    Except CommandError Unit :=
  if request.schemaVersion ≠ schemaVersionV1 then .error .invalidRequest else .ok ()

/-! ## What is stored -/

/-- A row of `credential_references`; its key is the credential's id. -/
structure CredentialRow where
  locator : String
  saveRequestId : String
  deleteRequestId : Option String
  provider : CredentialProviderV1
  displayLabel : String
  status : CredentialStatusV1
  createdAtMs : ℤ
  updatedAtMs : ℤ

/-- What the envelope of a row of `command_receipts` is the digest of. -/
inductive CommandEnvelope
  | save (provider : CredentialProviderV1) (displayLabel : String)
  | delete (credentialId : CredentialId)
  | other (commandName : String)
  deriving DecidableEq

structure Vault where
  rows : Table CredentialId CredentialRow
  receipts : Table String CommandEnvelope
  keychain : Table String String
  issued : List (String × String)
  deletions : List CredentialId
  finished : List String

def CredentialRow.reference (credentialId : CredentialId) (row : CredentialRow) :
    CredentialReferenceV1 :=
  ⟨credentialId, row.provider, row.displayLabel, row.status, row.updatedAtMs⟩

abbrev VaultTransaction (α : Type) : Type := Fallible Vault PlatformError α

/-! ## The database -/

def Vault.bySaveRequest (v : Vault) (requestId : String) : Option (CredentialId × CredentialRow) :=
  v.rows.rows.find? fun entry => entry.2.saveRequestId = requestId

def reserveCoreCredential (requestId : String) (provider : CredentialProviderV1)
    (displayLabel locator : String) (nowMs : ℤ) : VaultTransaction SaveCredentialPlanV1 :=
  atomically do
    let v ← state
    match v.receipts.find? requestId with
    | some envelope => do
      rejectIf (.conflict "command_envelope_changed")
        (envelope ≠ .save provider displayLabel)
      match v.bySaveRequest requestId with
      | none => fail (.corrupt "credential_receipt_without_reference")
      | some (credentialId, row) =>
        if row.status = .active then pure (.replay (row.reference credentialId))
        else pure (.writeSecret row.locator (row.reference credentialId))
    | none => do
      let credentialId : CredentialId := ⟨requestId⟩
      let row : CredentialRow :=
        ⟨locator, requestId, none, provider, displayLabel, .pendingSave, nowMs, nowMs⟩
      rejectIf .sqlite ((v.rows.find? credentialId).isSome ∨
        ∃ entry ∈ v.rows.rows, entry.2.locator = locator ∨ entry.2.saveRequestId = requestId)
      update fun v => { v with
        rows := v.rows.put credentialId row
        receipts := v.receipts.put requestId (.save provider displayLabel)
        issued := (requestId, locator) :: v.issued }
      let v ← state
      match v.bySaveRequest requestId with
      | none => fail (.corrupt "credential_insert_missing")
      | some (credentialId, row) => pure (.writeSecret row.locator (row.reference credentialId))

def activateCoreCredential (requestId : String) (credentialId : CredentialId) (nowMs : ℤ) :
    VaultTransaction CredentialReferenceV1 := do
  let v ← state
  match v.rows.find? credentialId with
  | none => fail (.conflict "credential_activation_mismatch")
  | some row => do
    rejectIf (.conflict "credential_activation_mismatch")
      (row.saveRequestId ≠ requestId ∨ (row.status ≠ .pendingSave ∧ row.status ≠ .active))
    let activated : CredentialRow := { row with status := .active, updatedAtMs := nowMs }
    update fun v => { v with rows := v.rows.put credentialId activated }
    let v ← state
    match v.rows.find? credentialId with
    | none => fail (.corrupt "credential_activation_missing")
    | some row => pure (row.reference credentialId)

def prepareCoreCredentialDelete (requestId : String) (credentialId : CredentialId) (nowMs : ℤ) :
    VaultTransaction DeleteCredentialPlanV1 :=
  atomically do
    let v ← state
    match v.receipts.find? requestId with
    | some envelope => do
      rejectIf (.conflict "command_envelope_changed") (envelope ≠ .delete credentialId)
      match v.rows.find? credentialId with
      | some row => pure (.deleteSecret row.locator credentialId)
      | none => pure (.replay credentialId true)
    | none =>
      match v.rows.find? credentialId with
      | none => fail (.invalidInput "credential_id")
      | some row => do
        rejectIf .sqlite (∃ entry ∈ v.rows.rows, entry.1 ≠ credentialId ∧
          entry.2.deleteRequestId = some requestId)
        update fun v => { v with
          rows := v.rows.put credentialId { row with
            status := .pendingDelete, deleteRequestId := some requestId, updatedAtMs := nowMs }
          receipts := v.receipts.put requestId (.delete credentialId) }
        pure (.deleteSecret row.locator credentialId)

def finishCoreCredentialDelete (requestId : String) (credentialId : CredentialId) :
    VaultTransaction PUnit := do
  let v ← state
  let marked := (v.rows.find? credentialId).any fun row =>
    row.deleteRequestId = some requestId ∧ row.status = .pendingDelete
  update fun v => { v with finished := requestId :: v.finished }
  if marked then
    update fun v => { v with
      rows := v.rows.delete credentialId, deletions := credentialId :: v.deletions }
  else pure ⟨⟩

def pendingCredentials : VaultTransaction (List (String × CredentialStatusV1)) := do
  let v ← state
  let pending := (v.rows.rows.filter fun entry =>
    entry.2.status = .pendingSave ∨ entry.2.status = .pendingDelete).insertionSort
    fun left right => (toLex (left.2.createdAtMs, left.2.locator) : ℤ ×ₗ String) ≤
      toLex (right.2.createdAtMs, right.2.locator)
  pure (pending.map fun entry => (entry.2.locator, entry.2.status))

def settleSave (locator : String) (next : CredentialStatusV1) (nowMs : ℤ) :
    VaultTransaction PUnit :=
  update fun v => { v with rows := v.rows.mapRows fun row =>
    if row.locator = locator ∧ row.status = .pendingSave then
      { row with status := next, updatedAtMs := nowMs }
    else row }

def CredentialRow.markedAt (locator : String) (row : CredentialRow) : Bool :=
  row.locator = locator ∧ row.status = .pendingDelete

def settleDelete (locator : String) : VaultTransaction PUnit :=
  update fun v => { v with
    rows := v.rows.deleteWhere (CredentialRow.markedAt locator)
    deletions := (v.rows.rows.filter fun entry => entry.2.markedAt locator).map Prod.fst ++
      v.deletions }

/-! ## Actions -/

/-- The transactions. -/
inductive VaultOperation : Type → Type
  | reserve (requestId : String) (provider : CredentialProviderV1) (displayLabel : String) :
      VaultOperation SaveCredentialPlanV1
  | activate (requestId : String) (credentialId : CredentialId) :
      VaultOperation CredentialReferenceV1
  | prepare (requestId : String) (credentialId : CredentialId) :
      VaultOperation DeleteCredentialPlanV1
  | finish (requestId : String) (credentialId : CredentialId) : VaultOperation PUnit
  | pending : VaultOperation (List (String × CredentialStatusV1))
  | settleSave (locator : String) (next : CredentialStatusV1) : VaultOperation PUnit
  | settleDelete (locator : String) : VaultOperation PUnit

/-- What is done in one go. -/
inductive VaultAction : Type → Type 1
  | database {β : Type} (operation : VaultOperation β) : VaultAction (Except CommandError β)
  | put (locator secret : String) : VaultAction (Except CommandError PUnit)
  | contains (locator : String) : VaultAction (Except CommandError Bool)
  | delete (locator : String) : VaultAction (Except CommandError PUnit)
  | ready : VaultAction PUnit

structure VaultOutside where
  nowMs : ℤ
  locator : String
  fails : Bool
  effect : Bool

def VaultOperation.run (outside : VaultOutside) {β : Type} :
    VaultOperation β → VaultTransaction β
  | .reserve requestId provider displayLabel =>
    reserveCoreCredential requestId provider displayLabel outside.locator outside.nowMs
  | .activate requestId credentialId =>
    activateCoreCredential requestId credentialId outside.nowMs
  | .prepare requestId credentialId =>
    prepareCoreCredentialDelete requestId credentialId outside.nowMs
  | .finish requestId credentialId => finishCoreCredentialDelete requestId credentialId
  | .pending => pendingCredentials
  | .settleSave locator next => Credentials.settleSave locator next outside.nowMs
  | .settleDelete locator => Credentials.settleDelete locator

def vaultMachine : Machine Vault VaultAction VaultOutside where
  perform {_} action outside v :=
    match action with
    | .database operation =>
      if outside.fails then (.error .failed, v)
      else (((operation.run outside v).1.mapError .platform), (operation.run outside v).2)
    | .put locator secret =>
      (if outside.fails then .error .failed else .ok ⟨⟩,
        if outside.fails ∧ ¬ outside.effect then v
        else { v with keychain := v.keychain.put locator secret })
    | .contains locator =>
      (if outside.fails then .error .failed else .ok (v.keychain.find? locator).isSome, v)
    | .delete locator =>
      (if outside.fails then .error .failed else .ok ⟨⟩,
        if outside.fails ∧ ¬ outside.effect then v
        else { v with keychain := v.keychain.delete locator })
    | .ready => (⟨⟩, v)

/-! ## Commands -/

abbrev VaultProgram (α : Type) : Type 1 := Program VaultAction CommandError α

def writeSecret (requestId secret locator : String) (pendingReference : CredentialReferenceV1) :
    VaultProgram CredentialReferenceV1 := do
  Program.call (.put locator secret)
  Program.call (.database (.activate requestId pendingReference.credentialId))

def saveResponse (services : CredentialServices) (requestId : String)
    (credential : CredentialReferenceV1) (replayStatus : ReplayStatusV1) :
    Except CommandError SaveCredentialV1Response :=
  if ¬ services.validLabel credential.displayLabel ∨ credential.status ≠ .active then
    .error .internalData
  else .ok ⟨requestId, credential, replayStatus⟩

def carryOutSave (services : CredentialServices) (request : SaveCredentialV1Request) :
    SaveCredentialPlanV1 → VaultProgram SaveCredentialV1Response
  | .replay reference =>
    Program.check (saveResponse services request.requestId reference .replayed)
  | .writeSecret locator pendingReference => do
    let reference ← writeSecret request.requestId request.secret locator pendingReference
    Program.check (saveResponse services request.requestId reference .created)

def saveCredentialV1 (services : CredentialServices) (request : SaveCredentialV1Request) :
    VaultProgram SaveCredentialV1Response := do
  Program.check (request.validate services)
  let plan ← Program.call
    (.database (.reserve request.requestId request.provider request.displayLabel))
  carryOutSave services request plan

def carryOutDelete (request : DeleteCredentialV1Request) :
    DeleteCredentialPlanV1 → VaultProgram DeleteCredentialV1Response
  | .replay credentialId deleted => pure ⟨request.requestId, credentialId, deleted, .replayed⟩
  | .deleteSecret locator credentialId => do
    Program.call (.delete locator)
    Program.call (.database (.finish request.requestId credentialId))
    pure ⟨request.requestId, credentialId, true, .created⟩

def deleteCredentialV1 (request : DeleteCredentialV1Request) :
    VaultProgram DeleteCredentialV1Response := do
  Program.check request.validate
  let plan ← Program.call (.database (.prepare request.requestId request.credentialId))
  carryOutDelete request plan

/-! ## The start -/

def reconcileCredential : String × CredentialStatusV1 → VaultProgram PUnit
  | (locator, .pendingSave) => do
    let found ← Program.call (.contains locator)
    Program.call (.database (.settleSave locator (if found then .active else .saveFailed)))
  | (locator, .pendingDelete) => do
    Program.call (.delete locator)
    Program.call (.database (.settleDelete locator))
  | _ => Program.check (.error (.platform (.corrupt "credential_status")))

/-- Settle pending credentials, one after another. -/
def reconcileEach : List (String × CredentialStatusV1) → VaultProgram PUnit
  | [] => pure ⟨⟩
  | entry :: rest => do
    reconcileCredential entry
    reconcileEach rest

/-- Settle what is pending; then the application takes commands. -/
def reconcileCredentials : VaultProgram PUnit := do
  let pending ← Program.call (.database .pending)
  reconcileEach pending
  Program.perform .ready

/-! ## The world -/

inductive VaultCall
  | startup
  | save (request : SaveCredentialV1Request)
  | delete (request : DeleteCredentialV1Request)

inductive VaultReply
  | ready
  | saved (response : SaveCredentialV1Response)
  | deleted (response : DeleteCredentialV1Response)

def VaultCall.program (services : CredentialServices) : VaultCall → VaultProgram VaultReply
  | .startup => (fun _ => .ready) <$> reconcileCredentials
  | .save request => .saved <$> saveCredentialV1 services request
  | .delete request => .deleted <$> deleteCredentialV1 request

abbrev VaultWorld : Type 1 := LoggedWorld VaultCall Vault VaultAction CommandError VaultReply

abbrev OngoingCall : Type 1 := LoggedCall VaultCall Vault VaultAction CommandError VaultReply

def OngoingCall.underway (call : OngoingCall) : Prop :=
  call.log ≠ [] ∧ ∀ result, call.rest ≠ .done result

/-- The start has come to its end, and the application takes commands. -/
def Started (calls : List OngoingCall) : Prop :=
  ∃ log, (⟨.startup, log, .done (.ok .ready)⟩ : OngoingCall) ∈ calls

/-- One thing happens, if it is `allowed` beside the other calls. -/
inductive VaultStep (services : CredentialServices)
    (allowed : {β : Type} → Vault → List OngoingCall → VaultAction β → Prop) :
    VaultWorld → VaultWorld → Prop
  | boot {v : Vault} {calls : List OngoingCall} :
      VaultStep services allowed ⟨v, calls⟩
        ⟨v, [⟨.startup, [], VaultCall.startup.program services⟩]⟩
  | start {v : Vault} {calls : List OngoingCall} (c : VaultCall) (hc : c ≠ .startup)
      (hstarted : Started calls) :
      VaultStep services allowed ⟨v, calls⟩ ⟨v, ⟨c, [], c.program services⟩ :: calls⟩
  | other {v : Vault} {calls : List OngoingCall} (requestId commandName : String)
      (hstarted : Started calls) (hnew : v.receipts.find? requestId = none) :
      VaultStep services allowed ⟨v, calls⟩
        ⟨{ v with receipts := v.receipts.put requestId (.other commandName) }, calls⟩
  | act {v : Vault} {before after : List OngoingCall} {c : VaultCall}
      {log : List (Deed Vault VaultAction)} {β : Type} (action : VaultAction β)
      (next : β → VaultProgram VaultReply) (o : VaultOutside)
      (hallowed : allowed v (before ++ after) action)
      (hfresh : ∀ entry ∈ v.issued, entry.2 ≠ o.locator) :
      VaultStep services allowed ⟨v, before ++ ⟨c, log, .act action next⟩ :: after⟩
        ⟨(vaultMachine.perform action o v).2, before ++
          ⟨c, log ++ [vaultMachine.deed action o v], next (vaultMachine.perform action o v).1⟩ ::
            after⟩

/-- Any number of things happen. -/
abbrev VaultSteps (services : CredentialServices)
    (allowed : {β : Type} → Vault → List OngoingCall → VaultAction β → Prop) :
    VaultWorld → VaultWorld → Prop :=
  Relation.ReflTransGen (VaultStep services allowed)

end Threadbook.Credentials
