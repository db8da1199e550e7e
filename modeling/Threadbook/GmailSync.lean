import Mathlib.Data.Finset.Insert
import Mathlib.Data.Finset.Union
import Threadbook.Fallible
import Threadbook.HistoryId
import Threadbook.Ordered

/-!
# Gmail synchronization: the search and history coordinators

A coordinator turns a conversation with the provider into one `SyncBatch`. The
provider is a `GmailGateway` over its own state `σ`: each call may answer
anything and move that state. What the coordinator itself carries is the
`Budget` of calls and raw bytes, which an error does not give back.

Three conversations are modelled: the label **reconcile** (profile, listing, one
fetch per listed or known message), the **incremental** scan (history pages, then
one fetch per message whose last event added it), and the **search**. The page
loops recurse on the number of pages still allowed after the one being read.
-/

namespace Threadbook

open Fallible

def gmailRawMessageLimit : ℕ := 25 * 1024 * 1024

/-! ## The provider's side -/

inductive HistoryEventKind
  | messageAdded
  | scopedLabelAdded
  | scopedLabelRemoved
  | messageDeleted
  deriving DecidableEq

namespace HistoryEventKind

/-- Declaration order. -/
def rank : HistoryEventKind → ℕ
  | messageAdded => 0
  | scopedLabelAdded => 1
  | scopedLabelRemoved => 2
  | messageDeleted => 3

theorem rank_injective : Function.Injective rank := by
  intro a b h
  cases a <;> cases b <;> simp_all [rank]

instance : LinearOrder HistoryEventKind := LinearOrder.lift' rank rank_injective

end HistoryEventKind

structure HistoryEvent where
  historyId : String
  messageId : String
  kind : HistoryEventKind

structure MessagePage where
  messageIds : List String
  nextPageToken : Option String

structure HistoryPage where
  events : List HistoryEvent
  nextPageToken : Option String
  mailboxHistoryId : String

structure RawGmailMessage where
  id : String
  historyId : String
  labelIds : List String
  raw : List UInt8

inductive GatewayError
  | historyNotFound
  | messageNotFound
  | authentication
  | permission
  | rateLimited
  | quota
  | transport
  | server
  | timeout
  | malformedRequest
  | malformedResponse
  | cancelled

/-- The provider as the coordinators see it: five calls over a state. A call that
runs past the deadline answers `timeout`. -/
structure GmailGateway (σ : Type) where
  profileHistoryId : Fallible σ GatewayError String
  listMessages (labelId : String) (pageToken : Option String) (pageSize : ℕ) :
    Fallible σ GatewayError MessagePage
  listSearchMessages (query : String) (pageToken : Option String) (pageSize : ℕ) :
    Fallible σ GatewayError MessagePage
  getMessage (messageId : String) : Fallible σ GatewayError RawGmailMessage
  listHistory (startHistoryId labelId : String) (pageToken : Option String) (pageSize : ℕ) :
    Fallible σ GatewayError HistoryPage

/-! ## The store's side -/

structure SyncKey where
  accountKey : String
  scopeId : String
  labelId : String

/-- Why a message is not available in a scope. -/
inductive UnavailableReason
  | labelRemoved
  | messageDeleted
  | messageNotFound
  | labelAbsentAfterFetch
  deriving DecidableEq

def UnavailableReason.asDb : UnavailableReason → String
  | labelRemoved => "label_removed"
  | messageDeleted => "message_deleted"
  | messageNotFound => "message_not_found"
  | labelAbsentAfterFetch => "label_absent_after_fetch"

/-- What a synchronization found out about one message. -/
inductive RevisionEffect
  | available (messageId : String) (revision : HistoryId) (raw : List UInt8)
  | unavailable (messageId : String) (revision : HistoryId) (reason : UnavailableReason)
  deriving DecidableEq

namespace RevisionEffect

def messageId : RevisionEffect → String
  | available messageId _ _ | unavailable messageId _ _ => messageId

def revision : RevisionEffect → HistoryId
  | available _ revision _ | unavailable _ revision _ => revision

end RevisionEffect

/-- How a batch was collected. -/
inductive SyncMode
  | incremental
  | reconciled

/-- What a coordinator hands to the store. -/
structure SyncBatch where
  mode : SyncMode
  expectedCheckpoint : Option String
  nextCheckpoint : HistoryId
  discoveredMessageIds : List String
  effects : List RevisionEffect
  pages : ℕ
  gatewayCalls : ℕ
  rawBytes : ℕ

/-- What the coordinators ask of the store before they commit. -/
structure GmailSyncStore where
  checkpoint : SyncKey → Except SyncError (Option String)
  knownMessageIds : SyncKey → Except SyncError (List String)

/-! ## Limits and budget -/

structure SyncLimits where
  pageSize : ℕ
  maxPages : ℕ
  maxUniqueMessages : ℕ
  maxTotalRawBytes : ℕ
  maxGatewayCalls : ℕ
  maxScanAttempts : ℕ
  operationTimeout : ℕ
  deriving DecidableEq

def SyncLimits.validate (limits : SyncLimits) : Except SyncError SyncLimits :=
  if ¬ (1 ≤ limits.pageSize ∧ limits.pageSize ≤ 100) ∨
      ¬ (1 ≤ limits.maxPages ∧ limits.maxPages ≤ 10) ∨
      ¬ (1 ≤ limits.maxUniqueMessages ∧ limits.maxUniqueMessages ≤ 200) ∨
      ¬ (1 ≤ limits.maxTotalRawBytes ∧ limits.maxTotalRawBytes ≤ 100 * 1024 * 1024) ∨
      limits.maxGatewayCalls = 0 ∨ limits.maxScanAttempts = 0 ∨
      limits.operationTimeout = 0 ∨ 60 * 1000000000 < limits.operationTimeout then
    .error .invalidConfiguration
  else .ok limits

/-- What one synchronization has used up. -/
structure Budget where
  calls : ℕ
  rawBytes : ℕ

/-- Nothing used yet. -/
def Budget.default : Budget := ⟨0, 0⟩

def Budget.consumeRaw (limits : SyncLimits) (length : ℕ) (budget : Budget) :
    Except SyncError Unit × Budget :=
  if gmailRawMessageLimit < length then (.error .malformedResponse, budget)
  else if 2 ^ 64 ≤ budget.rawBytes + length then (.error .scopeTooLarge, budget)
  else
    let consumed := { budget with rawBytes := budget.rawBytes + length }
    if limits.maxTotalRawBytes < consumed.rawBytes then (.error .scopeTooLarge, consumed)
    else (.ok (), consumed)

/-- A synchronization in progress: the provider's state and the budget used. -/
structure Session (σ : Type) where
  gateway : σ
  budget : Budget

/-- An incremental scan's own failures: the history expired, the scan must start
over, or an error ends the synchronization. -/
inductive SyncFailure
  | historyNotFound
  | restart
  | fatal (error : SyncError)

/-! ## Validation -/

/-- Printable ASCII, blanks included. -/
def isProviderChar (c : Char) : Bool := ' ' ≤ c && c ≤ '~'

/-- Accept an identifier or token the provider sent. -/
def validateProviderValue (value : String) : Except SyncError Unit :=
  if value.isEmpty ∨ 256 < byteLength value ∨ ¬ value.toList.all isProviderChar then
    .error .malformedResponse
  else .ok ()

/-- Accept a synchronization key; `isUuid` is the UUID parser's verdict. -/
def validateKey (isUuid : String → Bool) (key : SyncKey) : Except SyncError Unit :=
  if byteLength key.accountKey ≠ 64 ∨ ¬ key.accountKey.toList.all isLowerHexDigit ∨
      ¬ isUuid key.scopeId then
    .error .invalidConfiguration
  else validateProviderValue key.labelId

def validateSearchQuery (value : String) : Except SyncError Unit :=
  if value.isEmpty ∨ 2048 < byteLength value ∨ value.toList.any isControl then
    .error .invalidConfiguration
  else .ok ()

/-- Accept a fetched message as the answer to a request for `requestedId`. -/
def validateMessage (message : RawGmailMessage) (requestedId : String) :
    Except SyncError Unit := do
  if message.id ≠ requestedId then .error .malformedResponse
  validateProviderValue message.id
  message.labelIds.forM validateProviderValue
  if gmailRawMessageLimit < message.raw.length then .error .malformedResponse

def validateNextToken (token : Option String) (seen : Finset String) :
    Except SyncError (Option String × Finset String) :=
  match token with
  | none => .ok (none, seen)
  | some token => do
    validateProviderValue token
    if token ∈ seen then .error .malformedResponse
    else .ok (some token, insert token seen)

def mapGateway : GatewayError → SyncError
  | .authentication => .authentication
  | .permission => .permission
  | .rateLimited => .rateLimited
  | .quota => .quota
  | .transport => .transport
  | .server => .server
  | .timeout => .timeout
  | .malformedRequest => .malformedRequest
  | .malformedResponse | .historyNotFound | .messageNotFound => .malformedResponse
  | .cancelled => .cancelled

/-! ## Calls -/

section Coordinator

variable {σ : Type} (limits : SyncLimits)

def call {α : Type} (answer : Fallible σ GatewayError α) :
    Fallible (Session σ) GatewayError α := fun s =>
  if limits.maxGatewayCalls ≤ s.budget.calls then (.error .cancelled, s)
  else ((answer s.gateway).1,
    ⟨(answer s.gateway).2, { s.budget with calls := s.budget.calls + 1 }⟩)

/-- Account for one fetched message in the session. -/
def consumeRaw (length : ℕ) : Fallible (Session σ) SyncError Unit := fun s =>
  ((s.budget.consumeRaw limits length).1, ⟨s.gateway, (s.budget.consumeRaw limits length).2⟩)

def profileAnchor (gateway : GmailGateway σ) : Fallible (Session σ) SyncError HistoryId := do
  let profile ← (call limits gateway.profileHistoryId).mapError mapGateway
  check (HistoryId.parse profile)

def addIds (listed : BTreeSet String) : List String → Except SyncError (BTreeSet String)
  | [] => .ok listed
  | messageId :: rest => do
    validateProviderValue messageId
    if limits.maxUniqueMessages < (listed.add messageId).length then .error .scopeTooLarge
    else addIds (listed.add messageId) rest

structure PageCursor (α : Type) where
  collected : α
  token : Option String
  seen : Finset String
  pages : ℕ

/-- The first page is asked for without a token. -/
def PageCursor.start {α : Type} (collected : α) : PageCursor α := ⟨collected, none, ∅, 0⟩

def readPage {ε π α : Type} (fault : GatewayError → ε) (wrap : SyncError → ε)
    (ask : Option String → Fallible σ GatewayError π) (nextToken : π → Option String)
    (absorb : α → π → Except ε α) (place : PageCursor α) :
    Fallible (Session σ) ε (PageCursor α) := do
  let page ← (call limits (ask place.token)).mapError fault
  let collected ← check (absorb place.collected page)
  let (token, seen) ←
    check ((validateNextToken (nextToken page) place.seen).mapError wrap)
  pure ⟨collected, token, seen, place.pages + 1⟩

/-- Read pages until one names no next token. `remaining` pages may still follow
the next one; a token left over after that is the error `tooMany`. -/
def readPages {ε α : Type} (tooMany : ε)
    (readPage : PageCursor α → Fallible (Session σ) ε (PageCursor α)) :
    ℕ → PageCursor α → Fallible (Session σ) ε (PageCursor α)
  | 0, place => do
    let next ← readPage place
    if next.token.isNone then pure next else fail tooMany
  | remaining + 1, place => do
    let next ← readPage place
    if next.token.isNone then pure next else readPages tooMany readPage remaining next

def listIds (listPage : Option String → Fallible σ GatewayError MessagePage) :
    Fallible (Session σ) SyncError (BTreeSet String × ℕ) := do
  let last ← readPages .scopeTooLarge
    (readPage limits mapGateway id listPage MessagePage.nextPageToken
      fun listed page => addIds limits listed page.messageIds)
    (limits.maxPages - 1) (.start BTreeMap.empty)
  pure (last.collected, last.pages)

/-! ## Reconcile -/

def reconcileMessage (gateway : GmailGateway σ) (key : SyncKey) (anchor : HistoryId)
    (messageId : String) : Fallible (Session σ) SyncError RevisionEffect := do
  match ← (call limits (gateway.getMessage messageId)).attempt with
  | .ok message =>
    check (validateMessage message messageId)
    consumeRaw limits message.raw.length
    let messageHistory ← check (HistoryId.parse message.historyId)
    let revision := anchor.max messageHistory
    if key.labelId ∈ message.labelIds then pure (.available messageId revision message.raw)
    else pure (.unavailable messageId revision .labelAbsentAfterFetch)
  | .error .messageNotFound => pure (.unavailable messageId anchor .messageNotFound)
  | .error error => fail (mapGateway error)

def reconcile (gateway : GmailGateway σ) (store : GmailSyncStore) (key : SyncKey)
    (expectedCheckpoint : Option String) : Fallible (Session σ) SyncError SyncBatch := do
  let anchor ← profileAnchor limits gateway
  let (listed, pages) ← listIds limits
    fun token => gateway.listMessages key.labelId token limits.pageSize
  let known ← check (store.knownMessageIds key)
  let union ← check (addIds limits listed known)
  let effects ← forEach (reconcileMessage limits gateway key anchor) union.toList
  let session ← state
  pure {
    mode := .reconciled
    expectedCheckpoint
    nextCheckpoint := anchor
    discoveredMessageIds := union.toList
    effects
    pages
    gatewayCalls := session.budget.calls
    rawBytes := session.budget.rawBytes }

/-! ## Incremental -/

abbrev ScopedEvent : Type := HistoryId × String × HistoryEventKind

def eventIdentity (event : ScopedEvent) : String ×ₗ String ×ₗ HistoryEventKind :=
  toLex (event.1.text, toLex (event.2.1, event.2.2))

/-- The scan's event buffer: the events kept, in order of arrival, and the
identities seen. -/
structure EventBuffer where
  events : List ScopedEvent
  exactEvents : BTreeSet (String ×ₗ String ×ₗ HistoryEventKind)

def parseEvent (cursor terminal : HistoryId) (event : HistoryEvent) :
    Except SyncFailure ScopedEvent := do
  (validateProviderValue event.messageId).mapError .fatal
  let history ← (HistoryId.parse event.historyId).mapError .fatal
  if history ≤ cursor ∨ terminal < history then .error (.fatal .malformedResponse)
  else .ok (history, event.messageId, event.kind)

/-- Keep an event unless it was seen before. -/
def EventBuffer.push (buffer : EventBuffer) (event : ScopedEvent) : EventBuffer :=
  if (buffer.exactEvents.get? (eventIdentity event)).isSome then buffer
  else ⟨buffer.events ++ [event], buffer.exactEvents.add (eventIdentity event)⟩

def addEvents (cursor terminal : HistoryId) (buffer : EventBuffer) :
    List HistoryEvent → Except SyncFailure EventBuffer
  | [] => .ok buffer
  | event :: rest => do
    let event ← parseEvent cursor terminal event
    addEvents cursor terminal (buffer.push event) rest

def pageTerminal (terminal : HistoryId) (page : HistoryPage) : Except SyncFailure HistoryId := do
  let pageCursor ← (HistoryId.parse page.mailboxHistoryId).mapError .fatal
  if pageCursor < terminal then .error (.fatal .malformedResponse) else .ok pageCursor

def historyFailure : GatewayError → SyncFailure
  | .historyNotFound => .historyNotFound
  | error => .fatal (mapGateway error)

def absorbHistory (cursor : HistoryId) (scan : EventBuffer × HistoryId) (page : HistoryPage) :
    Except SyncFailure (EventBuffer × HistoryId) := do
  let terminal ← pageTerminal scan.2 page
  let buffer ← addEvents cursor terminal scan.1 page.events
  .ok (buffer, terminal)

/-- Read the history after `cursor` to its last page: the events, the mailbox
history id reached and the number of pages. -/
def scanHistory (gateway : GmailGateway σ) (key : SyncKey) (cursor : HistoryId) :
    Fallible (Session σ) SyncFailure (List ScopedEvent × HistoryId × ℕ) := do
  let last ← readPages (.fatal .scopeTooLarge)
    (readPage limits historyFailure .fatal
      (fun token => gateway.listHistory cursor.text key.labelId token limits.pageSize)
      HistoryPage.nextPageToken (absorbHistory cursor))
    (limits.maxPages - 1) (.start (⟨[], BTreeMap.empty⟩, cursor))
  pure (last.collected.1.events, last.collected.2, last.pages)

def eventOrder (event : ScopedEvent) : String ×ₗ HistoryId ×ₗ HistoryEventKind :=
  toLex (event.2.1, toLex (event.1, event.2.2))

def sortEvents (events : List ScopedEvent) : List ScopedEvent :=
  events.insertionSort fun left right => eventOrder left ≤ eventOrder right

def finalEvents (events : List ScopedEvent) : BTreeMap String (HistoryId ×ₗ HistoryEventKind) :=
  BTreeMap.empty.insertAll
    ((sortEvents events).map fun event => (event.2.1, toLex (event.1, event.2.2)))

def incrementalMessage (gateway : GmailGateway σ) (key : SyncKey) (terminal : HistoryId)
    (entry : String × HistoryId ×ₗ HistoryEventKind) :
    Fallible (Session σ) SyncFailure RevisionEffect :=
  let messageId := entry.1
  let selected := (ofLex entry.2).1
  match (ofLex entry.2).2 with
  | .messageAdded | .scopedLabelAdded => do
    match ← (call limits (gateway.getMessage messageId)).attempt with
    | .ok message =>
      check ((validateMessage message messageId).mapError .fatal)
      (consumeRaw limits message.raw.length).mapError .fatal
      let fetched ← check ((HistoryId.parse message.historyId).mapError .fatal)
      if terminal < fetched then fail .restart
      else
        let revision := selected.max fetched
        if key.labelId ∈ message.labelIds then pure (.available messageId revision message.raw)
        else pure (.unavailable messageId revision .labelAbsentAfterFetch)
    | .error .messageNotFound => pure (.unavailable messageId selected .messageNotFound)
    | .error error => fail (.fatal (mapGateway error))
  | .scopedLabelRemoved => pure (.unavailable messageId selected .labelRemoved)
  | .messageDeleted => pure (.unavailable messageId selected .messageDeleted)

def incrementalOnce (gateway : GmailGateway σ) (key : SyncKey) (expectedCheckpoint : String)
    (cursor : HistoryId) : Fallible (Session σ) SyncFailure SyncBatch := do
  let (events, terminal, pages) ← scanHistory limits gateway key cursor
  let final := finalEvents events
  if limits.maxUniqueMessages < final.length then fail (.fatal .scopeTooLarge)
  else
    let effects ← forEach (incrementalMessage limits gateway key terminal) final.entries
    let session ← state
    pure {
      mode := .incremental
      expectedCheckpoint := some expectedCheckpoint
      nextCheckpoint := terminal
      discoveredMessageIds := final.keys
      effects
      pages
      gatewayCalls := session.budget.calls
      rawBytes := session.budget.rawBytes }

/-- The incremental scan, started over while attempts remain. -/
def incremental (gateway : GmailGateway σ) (key : SyncKey) (expectedCheckpoint : String)
    (cursor : HistoryId) : ℕ → Fallible (Session σ) SyncFailure SyncBatch
  | 0 => fail (.fatal .scopeTooLarge)
  | 1 => incrementalOnce limits gateway key expectedCheckpoint cursor
  | attempts + 2 => do
    match ← (incrementalOnce limits gateway key expectedCheckpoint cursor).attempt with
    | .error .restart => incremental gateway key expectedCheckpoint cursor (attempts + 1)
    | result => check result

end Coordinator

/-! ## The coordinators -/

structure GmailHistoryCoordinator where
  limits : SyncLimits
  valid : limits.validate = .ok limits

structure GmailSearchCoordinator where
  limits : SyncLimits
  valid : limits.validate = .ok limits

variable {σ : Type} (isUuid : String → Bool)

def Session.start (s : σ) : Session σ := ⟨s, Budget.default⟩

def GmailHistoryCoordinator.collect (self : GmailHistoryCoordinator) (gateway : GmailGateway σ)
    (store : GmailSyncStore) (key : SyncKey) : Fallible (Session σ) SyncError SyncBatch := do
  check (validateKey isUuid key)
  let checkpoint ← check (store.checkpoint key)
  match checkpoint with
  | none => reconcile self.limits gateway store key checkpoint
  | some expected =>
    match HistoryId.parse expected with
    | .error _ => reconcile self.limits gateway store key checkpoint
    | .ok cursor =>
      match ← (incremental self.limits gateway key expected cursor
          self.limits.maxScanAttempts).attempt with
      | .ok batch => pure batch
      | .error .historyNotFound => reconcile self.limits gateway store key checkpoint
      | .error (.fatal error) => fail error
      | .error .restart => fail .scopeTooLarge

def searchMessage (limits : SyncLimits) (gateway : GmailGateway σ) (messageId : String) :
    Fallible (Session σ) SyncError RevisionEffect := do
  let message ← (call limits (gateway.getMessage messageId)).mapError mapGateway
  check (validateMessage message messageId)
  consumeRaw limits message.raw.length
  let revision ← check (HistoryId.parse message.historyId)
  pure (.available messageId revision message.raw)

def GmailSearchCoordinator.collect (self : GmailSearchCoordinator) (gateway : GmailGateway σ)
    (store : GmailSyncStore) (key : SyncKey) (query : String) :
    Fallible (Session σ) SyncError SyncBatch := do
  check (validateKey isUuid key)
  check (validateSearchQuery query)
  let expectedCheckpoint ← check (store.checkpoint key)
  let anchor ← profileAnchor self.limits gateway
  let (listed, pages) ← listIds self.limits
    fun token => gateway.listSearchMessages query token self.limits.pageSize
  let effects ← forEach (searchMessage self.limits gateway) listed.toList
  let session ← state
  pure {
    mode := .reconciled
    expectedCheckpoint
    nextCheckpoint := anchor
    discoveredMessageIds := listed.toList
    effects
    pages
    gatewayCalls := session.budget.calls
    rawBytes := session.budget.rawBytes }

end Threadbook
