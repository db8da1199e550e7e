import Threadbook.ConnectorContract
import Threadbook.Table

/-!
# The memory of a setup

Between the listing of the albums and the choice of one, the connector remembers in memory which
token it issued for which album. A session holds the tokens of one listing, a replay answers a
repeated request, and both are bounded: the oldest make room for the next. A call that fails
leaves what it changed. `setup_memory_sound` says that making room always ends, and that a token
configures a scope at most once, while its session lives.
-/

namespace Threadbook

open Fallible Table List

/-! ## Making room -/

namespace Table

universe u v

variable {κ : Type u} {ρ : Type v} [DecidableEq κ] {t t' : Table κ ρ} {order order' : List κ}

def len (t : Table κ ρ) : ℕ := t.entries.length

/-- While there are `limit` rows, take the oldest key off the queue and delete its row. With the
queue empty and the rows too many, the loop goes on for ever: `none`. -/
def evict (limit : ℕ) : Table κ ρ → List κ → Option (Table κ ρ × List κ)
  | t, [] => if t.len < limit then some (t, []) else none
  | t, oldest :: order =>
    if t.len < limit then some (t, oldest :: order) else evict limit (t.delete oldest) order

def Queued (t : Table κ ρ) (order : List κ) : Prop := ∀ k r, t.find? k = some r → k ∈ order

theorem len_put_le (t : Table κ ρ) (k : κ) (r : ρ) : (t.put k r).len ≤ t.len + 1 :=
  Nat.succ_le_succ (kerase_sublist k t.entries).length_le

omit [DecidableEq κ] in
theorem len_deleteWhere_le (p : ρ → Bool) (t : Table κ ρ) : (t.deleteWhere p).len ≤ t.len :=
  length_filter_le _ _

theorem len_delete_le (t : Table κ ρ) (k : κ) : (t.delete k).len ≤ t.len :=
  (kerase_sublist k t.entries).length_le

theorem len_eq_zero (h : ∀ k, t.find? k = none) : t.len = 0 := by
  rcases hentries : t.entries with _ | ⟨⟨k, r⟩, rest⟩
  · simp [len, hentries]
  · have hrow : (k, r) ∈ t.rows := by simp [rows, hentries]
    rw [mem_rows, h k] at hrow
    cases hrow

/-- **Making room ends**: with every key in the queue, and then it leaves fewer rows than the
limit, all of them rows there were, in the queue still. -/
theorem evict_of_queued (limit : ℕ) (hlimit : 0 < limit) (h : t.Queued order) :
    ∃ t' order', evict limit t order = some (t', order') ∧ t'.len < limit ∧ t'.Queued order' ∧
      ∀ k r, t'.find? k = some r → t.find? k = some r := by
  induction order generalizing t with
  | nil =>
    have hnone : ∀ k, t.find? k = none := fun k => by
      rcases hk : t.find? k with _ | r
      · rfl
      · exact absurd (h k r hk) not_mem_nil
    have hlen : t.len < limit := by rwa [len_eq_zero hnone]
    exact ⟨t, [], if_pos hlen, hlen, h, fun _ _ => id⟩
  | cons oldest order ih =>
    by_cases hlen : t.len < limit
    · exact ⟨t, oldest :: order, if_pos hlen, hlen, h, fun _ _ => id⟩
    · have hold (k : κ) (r : ρ) (hk : (t.delete oldest).find? k = some r) :
          k ≠ oldest ∧ t.find? k = some r := by
        rw [find?_delete] at hk
        by_cases hko : k = oldest
        · rw [if_pos hko] at hk
          cases hk
        · exact ⟨hko, by rwa [if_neg hko] at hk⟩
      have hqueued : (t.delete oldest).Queued order := fun k r hk =>
        (mem_cons.mp (h k r (hold k r hk).2)).resolve_left (hold k r hk).1
      obtain ⟨t', order', hevict, hroom, hleft, hkept⟩ := ih hqueued
      refine ⟨t', order', ?_, hroom, hleft, fun k r hk => (hold k r (hkept k r hk)).2⟩
      rw [evict, if_neg hlen, hevict]

end Table

namespace PhotoKit

open Promotion (RequestId ReplayStatusV1)

def SETUP_SESSION_MILLIS : ℤ := 10 * 60 * 1000
def MAX_SETUP_SESSIONS : ℕ := 16
def MAX_BEGIN_REPLAYS : ℕ := 64
def MAX_PHOTOKIT_ALBUM_CANDIDATES : ℕ := 100
def MAX_PHOTOKIT_ALBUM_LABEL_CHARS : ℕ := 80
def MAX_PHOTOKIT_SELECTION_TOKEN_BYTES : ℕ := 128
def i64Max : ℤ := 2 ^ 63 - 1

inductive PhotoKitConnectorPortErrorKind
  | unavailable
  | conflict
  | busy
  | invalidState
  | permissionDenied
  | credentialUnavailable
  | scopeTooLarge
  | sessionExpired
  | selectionTokenConsumed
  | dataIntegrity
  | notFound
  | internal

/-! ## The contract of a setup -/

structure PhotoKitAlbumCandidateV1 where
  selectionToken : String
  displayLabel : String

/-- `validate_bounded_text` of a label: its characters counted, no blank at an end, no control
character. -/
def PhotoKitAlbumCandidateV1.isValid (candidate : PhotoKitAlbumCandidateV1) : Bool :=
  let label := candidate.displayLabel.toList
  1 ≤ label.length && label.length ≤ MAX_PHOTOKIT_ALBUM_LABEL_CHARS &&
    label.head?.all (!isWhitespace ·) && label.getLast?.all (!isWhitespace ·) &&
    label.all (!isControl ·)

/-- `PhotoKitSelectionTokenV1::new`: bounded, and printable ASCII throughout. -/
def isSelectionToken (value : String) : Bool :=
  value ≠ "" && byteLength value ≤ MAX_PHOTOKIT_SELECTION_TOKEN_BYTES &&
    value.toList.all fun c => '!' ≤ c && c ≤ '~'

structure BeginPhotoKitSetupV1Response where
  schemaVersion : ℕ
  requestId : RequestId
  snapshot : PhotoKitConnectorSnapshotV1
  setupSessionId : Option String
  expiresAt : Option String
  albumCandidates : List PhotoKitAlbumCandidateV1
  replayStatus : ReplayStatusV1

/-- The contract of the answer; the callers do not look at which part of it is broken. -/
def BeginPhotoKitSetupV1Response.isValid (isTimestamp : String → Bool)
    (response : BeginPhotoKitSetupV1Response) : Bool :=
  let hasSession := response.setupSessionId.isSome
  response.schemaVersion = schemaVersionV1 && (response.snapshot.validate isTimestamp).isOk &&
    response.albumCandidates.length ≤ MAX_PHOTOKIT_ALBUM_CANDIDATES &&
    response.albumCandidates.all (·.isValid) &&
    decide (response.albumCandidates.map (·.selectionToken)).Nodup &&
    response.expiresAt.all isTimestamp && hasSession == response.expiresAt.isSome &&
    hasSession == decide (response.snapshot.authorization = .authorized) &&
    (hasSession || response.albumCandidates.isEmpty)

/-! ## The memory -/

structure SetupSession where
  expiresAtMs : ℤ
  albumsByToken : Table String String

structure BeginReplay where
  envelopeHash : String
  expiresAtMs : ℤ
  response : BeginPhotoKitSetupV1Response

structure SetupMemory where
  sessions : Table String SetupSession
  sessionOrder : List String
  beginReplays : Table String BeginReplay
  beginOrder : List String
  consumedTokens : Table String ℤ

namespace SetupMemory

def empty : SetupMemory where
  sessions := Table.empty
  sessionOrder := []
  beginReplays := Table.empty
  beginOrder := []
  consumedTokens := Table.empty

def expire (nowMs : ℤ) (m : SetupMemory) : SetupMemory :=
  let sessions := m.sessions.deleteWhere (·.expiresAtMs ≤ nowMs)
  let beginReplays := m.beginReplays.deleteWhere (·.expiresAtMs ≤ nowMs)
  { sessions, beginReplays
    consumedTokens := m.consumedTokens.deleteWhere (· ≤ nowMs)
    sessionOrder := m.sessionOrder.filter fun id => (sessions.find? id).isSome
    beginOrder := m.beginOrder.filter fun id => (beginReplays.find? id).isSome }

def invalidateSessions (m : SetupMemory) : SetupMemory :=
  { m with sessions := Table.empty, sessionOrder := [] }

/-- `none`: the loop that makes room does not end. -/
def insertSession (id : String) (session : SetupSession) (m : SetupMemory) : Option SetupMemory :=
  (m.sessions.evict MAX_SETUP_SESSIONS m.sessionOrder).map fun (sessions, order) =>
    { m with sessionOrder := order ++ [id], sessions := sessions.put id session }

def insertBeginReplay (requestId : String) (replay : BeginReplay) (m : SetupMemory) :
    Option SetupMemory :=
  (m.beginReplays.evict MAX_BEGIN_REPLAYS m.beginOrder).map fun (beginReplays, order) =>
    { m with beginOrder := order ++ [requestId], beginReplays := beginReplays.put requestId replay }

/-- The session leaves the map; its id stays in the queue. -/
def removeSession (id : String) (m : SetupMemory) : SetupMemory :=
  { m with sessions := m.sessions.delete id }

def consume (token : String) (expiresAtMs : ℤ) (m : SetupMemory) : SetupMemory :=
  { m with consumedTokens := m.consumedTokens.put token expiresAtMs }

/-- Every key waits in its queue, and neither map is above its maximum. -/
structure Bounded (m : SetupMemory) : Prop where
  sessions_queued : m.sessions.Queued m.sessionOrder
  replays_queued : m.beginReplays.Queued m.beginOrder
  sessions_le : m.sessions.len ≤ MAX_SETUP_SESSIONS
  replays_le : m.beginReplays.len ≤ MAX_BEGIN_REPLAYS

end SetupMemory

/-! ## The calls -/

structure ScopeCommand where
  setupSessionId : String
  selectionToken : String
  albumLocator : String
  nowMs : ℤ

/-- The memory, how many UUIDs were drawn, and the commands given so far. -/
structure SetupRuntime where
  setup : SetupMemory
  drawn : ℕ
  commands : List ScopeCommand

def SetupRuntime.new : SetupRuntime := ⟨SetupMemory.empty, 0, []⟩

/-- How a call stops: a loop of it does not end, or it returns an error. -/
inductive Halt
  | hangs
  | fails (kind : PhotoKitConnectorPortErrorKind)

abbrev Setup (α : Type) : Type := Fallible SetupRuntime Halt α

namespace Setup

def ask {α : Type} (answer : Except PhotoKitConnectorPortErrorKind α) : Setup α :=
  check (answer.mapError .fails)

def refuse (kind : PhotoKitConnectorPortErrorKind) (p : Prop) [Decidable p] : Setup Unit :=
  rejectIf (.fails kind) p

def change (f : SetupMemory → SetupMemory) : Setup Unit :=
  update fun r => { r with setup := f r.setup }

def loop (f : SetupMemory → Option SetupMemory) : Setup Unit := fun r =>
  match f r.setup with
  | some setup => (.ok (), { r with setup })
  | none => (.error .hangs, r)

theorem refuse_bind {α : Type} {kind : PhotoKitConnectorPortErrorKind} {p : Prop} [Decidable p]
    {f : Unit → Setup α} {r : SetupRuntime} :
    (refuse kind p >>= f) r = if p then (.error (.fails kind), r) else f () r := by
  unfold refuse rejectIf
  split <;> rfl

end Setup

open Setup

structure SetupServices where
  uuids : ℕ → String
  isTimestamp : String → Bool
  formatTimestamp : ℤ → Except PhotoKitConnectorPortErrorKind String

/-- What a call finds before it touches the memory. -/
structure SetupEntry where
  contract : Except PhotoKitConnectorPortErrorKind Unit
  envelopeHash : Except PhotoKitConnectorPortErrorKind String
  nowMs : Except PhotoKitConnectorPortErrorKind ℤ
  lock : Except PhotoKitConnectorPortErrorKind Unit

def SetupEntry.enter (entry : SetupEntry) : Setup (String × ℤ) := do
  ask entry.contract
  let envelopeHash ← ask entry.envelopeHash
  let nowMs ← ask entry.nowMs
  ask entry.lock
  pure (envelopeHash, nowMs)

structure BeginSetupCall where
  entry : SetupEntry
  requestId : RequestId
  authorization : Except PhotoKitConnectorPortErrorKind PhotoKitAuthorizationV1
  snapshot : Except PhotoKitConnectorPortErrorKind PhotoKitConnectorSnapshotV1
  albums : Except PhotoKitConnectorPortErrorKind (List PhotoKitNativeAlbum)
  laterMs : Except PhotoKitConnectorPortErrorKind ℤ

structure ConfigureScopeCall where
  entry : SetupEntry
  setupSessionId : String
  selectionToken : String
  receipt : Except PhotoKitConnectorPortErrorKind (Option ConfigurePhotoKitScopeV1Response)
  authorization : Except PhotoKitConnectorPortErrorKind PhotoKitAuthorizationV1
  response : Except PhotoKitConnectorPortErrorKind ConfigurePhotoKitScopeV1Response
  stored : Except PhotoKitConnectorPortErrorKind (Option ConfigurePhotoKitScopeV1Response)

structure DisableCall where
  entry : SetupEntry
  receipt : Except PhotoKitConnectorPortErrorKind (Option DisablePhotoKitV1Response)
  response : Except PhotoKitConnectorPortErrorKind DisablePhotoKitV1Response
  stored : Except PhotoKitConnectorPortErrorKind (Option DisablePhotoKitV1Response)

structure SnapshotCall where
  contract : Except PhotoKitConnectorPortErrorKind Unit
  lock : Except PhotoKitConnectorPortErrorKind Unit
  authorization : Except PhotoKitConnectorPortErrorKind PhotoKitAuthorizationV1
  snapshot : Except PhotoKitConnectorPortErrorKind PhotoKitConnectorSnapshotV1

section Calls

variable (services : SetupServices)

def drawUuid : Setup String := fun r =>
  (.ok (services.uuids r.drawn), { r with drawn := r.drawn + 1 })

/-- Draw until a token is not taken; `fuel` bounds the draws, of which only a generator that
repeats itself needs more than one. -/
def drawToken (taken : Table String String) : ℕ → Setup String
  | 0 => fail .hangs
  | fuel + 1 => do
    let candidate ← drawUuid services
    refuse .internal (¬ isSelectionToken candidate)
    if (taken.find? candidate).isSome then drawToken taken fuel else pure candidate

def issueTokens : List PhotoKitNativeAlbum → Table String String → List PhotoKitAlbumCandidateV1 →
    Setup (Table String String × List PhotoKitAlbumCandidateV1)
  | [], albumsByToken, candidates => pure (albumsByToken, candidates)
  | album :: rest, albumsByToken, candidates => do
    refuse .dataIntegrity (album.albumLocator = "" ∨ byteLength album.albumLocator > 1024)
    let token ← drawToken services albumsByToken (albumsByToken.len + 1)
    let candidate : PhotoKitAlbumCandidateV1 := ⟨token, album.label⟩
    refuse .dataIntegrity (candidate.displayLabel.length > MAX_PHOTOKIT_ALBUM_LABEL_CHARS ∨
      ¬ candidate.isValid)
    issueTokens rest (albumsByToken.put token album.albumLocator) (candidates ++ [candidate])

def sessionEnd (nowMs : ℤ) : Except PhotoKitConnectorPortErrorKind ℤ :=
  if nowMs + SETUP_SESSION_MILLIS > i64Max then .error .internal
  else .ok (nowMs + SETUP_SESSION_MILLIS)

def openSession (call : BeginSetupCall) :
    Setup (Option String × Option String × List PhotoKitAlbumCandidateV1 × ℤ) := do
  let albums ← ask call.albums
  refuse .dataIntegrity (albums.length > MAX_PHOTOKIT_ALBUM_CANDIDATES)
  let expiresAtMs ← ask (call.laterMs >>= sessionEnd)
  let sessionId ← drawUuid services
  let (albumsByToken, candidates) ← issueTokens services albums empty []
  loop (SetupMemory.insertSession sessionId ⟨expiresAtMs, albumsByToken⟩)
  let expiresAt ← ask (services.formatTimestamp expiresAtMs)
  pure (some sessionId, some expiresAt, candidates, expiresAtMs)

def invalidateUnless (authorization : PhotoKitAuthorizationV1) : Setup Unit :=
  if authorization = .authorized then pure () else change SetupMemory.invalidateSessions

def offer (call : BeginSetupCall) (authorization : PhotoKitAuthorizationV1) :
    Setup (Option String × Option String × List PhotoKitAlbumCandidateV1 × ℤ) :=
  if authorization = .authorized then openSession services call
  else do
    let replayExpiresAtMs ← ask (call.laterMs >>= sessionEnd)
    pure (none, none, [], replayExpiresAtMs)

def beginSetup (call : BeginSetupCall) : Setup BeginPhotoKitSetupV1Response := do
  let (envelopeHash, nowMs) ← call.entry.enter
  change (SetupMemory.expire nowMs)
  let r ← state
  match r.setup.beginReplays.find? call.requestId.text with
  | some replay => do
    refuse .conflict (replay.envelopeHash ≠ envelopeHash)
    pure { replay.response with replayStatus := .replayed }
  | none => do
    let authorization ← ask call.authorization
    invalidateUnless authorization
    let snapshot ← ask call.snapshot
    let (setupSessionId, expiresAt, albumCandidates, replayExpiresAtMs) ←
      offer services call authorization
    let response : BeginPhotoKitSetupV1Response :=
      { schemaVersion := schemaVersionV1, requestId := call.requestId, snapshot, setupSessionId
        expiresAt, albumCandidates, replayStatus := .created }
    refuse .dataIntegrity (¬ response.isValid services.isTimestamp)
    loop (SetupMemory.insertBeginReplay call.requestId.text
      ⟨envelopeHash, replayExpiresAtMs, response⟩)
    pure response

def configureScopeCommand (call : ConfigureScopeCall) (albumLocator : String) (nowMs : ℤ) :
    Setup ConfigurePhotoKitScopeV1Response := do
  update fun r => { r with commands := r.commands ++
    [⟨call.setupSessionId, call.selectionToken, albumLocator, nowMs⟩] }
  ask call.response

/-- A response that is not what the receipt holds is not returned. -/
def storedResponse {α : Type} [DecidableEq α] (valid : Bool) (response : α)
    (stored : Except PhotoKitConnectorPortErrorKind (Option α)) : Setup α := do
  refuse .dataIntegrity (¬ valid)
  let stored ← ask stored
  refuse .dataIntegrity (stored ≠ some response)
  pure response

def takeSession (call : ConfigureScopeCall) (nowMs : ℤ) :
    Setup ConfigurePhotoKitScopeV1Response := do
  let r ← state
  match r.setup.sessions.find? call.setupSessionId with
  | none => fail (.fails .sessionExpired)
  | some session => do
    change (SetupMemory.removeSession call.setupSessionId)
    match session.albumsByToken.find? call.selectionToken with
    | none => fail (.fails .notFound)
    | some albumLocator => do
      change (SetupMemory.consume call.selectionToken session.expiresAtMs)
      let response ← configureScopeCommand call albumLocator nowMs
      storedResponse (response.validate services.isTimestamp).isOk response call.stored

def chooseAlbum (call : ConfigureScopeCall) (nowMs : ℤ) :
    Setup ConfigurePhotoKitScopeV1Response := do
  let r ← state
  refuse .selectionTokenConsumed (r.setup.consumedTokens.find? call.selectionToken).isSome
  match r.setup.sessions.find? call.setupSessionId with
  | none => fail (.fails .sessionExpired)
  | some session =>
    if session.expiresAtMs ≤ nowMs then do
      change (SetupMemory.removeSession call.setupSessionId)
      fail (.fails .sessionExpired)
    else do
      refuse .notFound (session.albumsByToken.find? call.selectionToken).isNone
      let authorization ← ask call.authorization
      if authorization ≠ .authorized then do
        change SetupMemory.invalidateSessions
        fail (.fails .permissionDenied)
      else takeSession services call nowMs

def configureScope (call : ConfigureScopeCall) : Setup ConfigurePhotoKitScopeV1Response := do
  let (_, nowMs) ← call.entry.enter
  match ← ask call.receipt with
  | some response => do
    let response := { response with replayStatus := .replayed }
    refuse .dataIntegrity (¬ (response.validate services.isTimestamp).isOk)
    pure response
  | none => do
    change (SetupMemory.expire nowMs)
    chooseAlbum services call nowMs

def disable (call : DisableCall) : Setup DisablePhotoKitV1Response := do
  let _ ← call.entry.enter
  match ← ask call.receipt with
  | some response => do
    change SetupMemory.invalidateSessions
    let response := { response with replayStatus := .replayed }
    refuse .dataIntegrity (¬ response.validate.isOk)
    pure response
  | none => do
    let response ← ask call.response
    change SetupMemory.invalidateSessions
    storedResponse response.validate.isOk response call.stored

def snapshot (call : SnapshotCall) : Setup PhotoKitConnectorSnapshotV1 := do
  ask call.contract
  ask call.lock
  let authorization ← ask call.authorization
  invalidateUnless authorization
  ask call.snapshot

inductive SetupCall
  | beginSetup (call : BeginSetupCall)
  | configureScope (call : ConfigureScopeCall)
  | disable (call : DisableCall)
  | snapshot (call : SnapshotCall)

/-- Make the call; only what it does counts, not what it returns. -/
def SetupCall.perform : SetupCall → Setup Unit
  | beginSetup call => do let _ ← PhotoKit.beginSetup services call; pure ()
  | configureScope call => do let _ ← PhotoKit.configureScope services call; pure ()
  | disable call => do let _ ← PhotoKit.disable call; pure ()
  | snapshot call => do let _ ← PhotoKit.snapshot call; pure ()

def runCalls (calls : List SetupCall) (r : SetupRuntime) : SetupRuntime :=
  calls.foldl (fun r call => (call.perform services r).2) r

end Calls

/-! ## What the memory keeps -/

namespace SetupMemory

variable {m : SetupMemory} {id : String}

theorem bounded_empty : empty.Bounded where
  sessions_queued _ _ h := by simp [empty] at h
  replays_queued _ _ h := by simp [empty] at h
  sessions_le := Nat.zero_le _
  replays_le := Nat.zero_le _

theorem find?_of_deleteWhere {κ ρ : Type} [DecidableEq κ] {t : Table κ ρ} {p : ρ → Bool} {k : κ}
    {r : ρ} (h : (t.deleteWhere p).find? k = some r) : t.find? k = some r := by
  rw [find?_deleteWhere, Option.filter_eq_some_iff] at h
  exact h.1

theorem find?_of_delete {κ ρ : Type} [DecidableEq κ] {t : Table κ ρ} {i k : κ} {r : ρ}
    (h : (t.delete i).find? k = some r) : t.find? k = some r ∧ k ≠ i := by
  rw [find?_delete] at h
  by_cases hk : k = i
  · rw [if_pos hk] at h
    cases h
  · exact ⟨by rwa [if_neg hk] at h, hk⟩

theorem queued_filter {ρ : Type} {t t' : Table String ρ} {order : List String}
    (h : t.Queued order) (hsub : ∀ k r, t'.find? k = some r → t.find? k = some r) :
    t'.Queued (order.filter fun k => (t'.find? k).isSome) := fun k r hk =>
  mem_filter.mpr ⟨h k r (hsub k r hk), by rw [hk]; rfl⟩

theorem Bounded.expire (h : m.Bounded) (nowMs : ℤ) : (m.expire nowMs).Bounded where
  sessions_queued := queued_filter h.sessions_queued fun _ _ => find?_of_deleteWhere
  replays_queued := queued_filter h.replays_queued fun _ _ => find?_of_deleteWhere
  sessions_le := (len_deleteWhere_le _ _).trans h.sessions_le
  replays_le := (len_deleteWhere_le _ _).trans h.replays_le

theorem Bounded.invalidateSessions (h : m.Bounded) : m.invalidateSessions.Bounded :=
  { h with
    sessions_queued := bounded_empty.sessions_queued
    sessions_le := bounded_empty.sessions_le }

theorem Bounded.removeSession (h : m.Bounded) (id : String) : (m.removeSession id).Bounded :=
  { h with
    sessions_queued := fun k r hk => h.sessions_queued k r (find?_of_delete hk).1
    sessions_le := (len_delete_le _ _).trans h.sessions_le }

theorem queued_put {ρ : Type} {t : Table String ρ} {order : List String} (h : t.Queued order)
    (k : String) (r : ρ) : (t.put k r).Queued (order ++ [k]) := by
  intro i w hi
  rw [find?_put] at hi
  by_cases hik : i = k
  · simp [hik]
  · rw [if_neg hik] at hi
    exact mem_append_left _ (h i w hi)

theorem Bounded.insertSession (h : m.Bounded) (id : String) (session : SetupSession) :
    ∃ m', m.insertSession id session = some m' ∧ m'.Bounded ∧
      m'.sessions.find? id = some session ∧ m'.consumedTokens = m.consumedTokens ∧
      m'.beginReplays = m.beginReplays ∧ ∀ k s, m'.sessions.find? k = some s →
        k = id ∧ s = session ∨ m.sessions.find? k = some s := by
  obtain ⟨sessions, order, hevict, hroom, hqueued, hkept⟩ :=
    evict_of_queued MAX_SETUP_SESSIONS (by decide) h.sessions_queued
  refine ⟨{ m with sessionOrder := order ++ [id], sessions := sessions.put id session },
    by rw [SetupMemory.insertSession, hevict]; rfl,
    ⟨queued_put hqueued id session, h.replays_queued, (len_put_le _ _ _).trans hroom,
      h.replays_le⟩, by rw [find?_put, if_pos rfl], rfl, rfl, fun k s hk => ?_⟩
  rw [find?_put] at hk
  by_cases hkid : k = id
  · rw [if_pos hkid] at hk
    exact .inl ⟨hkid, (Option.some.inj hk).symm⟩
  · rw [if_neg hkid] at hk
    exact .inr (hkept k s hk)

theorem Bounded.insertBeginReplay (h : m.Bounded) (requestId : String) (replay : BeginReplay) :
    ∃ m', m.insertBeginReplay requestId replay = some m' ∧ m'.Bounded ∧
      m'.sessions = m.sessions ∧ m'.consumedTokens = m.consumedTokens := by
  obtain ⟨replays, order, hevict, hroom, hqueued, -⟩ :=
    evict_of_queued MAX_BEGIN_REPLAYS (by decide) h.replays_queued
  exact ⟨{ m with
      beginOrder := order ++ [requestId], beginReplays := replays.put requestId replay },
    by rw [SetupMemory.insertBeginReplay, hevict]; rfl,
    ⟨h.sessions_queued, queued_put hqueued requestId replay, h.sessions_le,
      (len_put_le _ _ _).trans hroom⟩, rfl, rfl⟩

end SetupMemory

/-! ## What a call does -/

section Effects

variable (services : SetupServices) {r r' : SetupRuntime} {token : String}

def SetupRuntime.Holds (r : SetupRuntime) (id token albumLocator : String) (expiresAtMs : ℤ) : Prop :=
  ∃ s, r.setup.sessions.find? id = some s ∧
    s.albumsByToken.find? token = some albumLocator ∧ s.expiresAtMs = expiresAtMs

/-- The memory is bounded, its tokens were drawn, each is in one session, and those consumed were
drawn too. -/
structure SetupRuntime.Sound (r : SetupRuntime) : Prop where
  bounded : r.setup.Bounded
  drawn {id token l e} : r.Holds id token l e → ∃ i < r.drawn, token = services.uuids i
  owner {id id' token l l' e e'} : r.Holds id token l e → r.Holds id' token l' e' → id = id'
  spent {token e} : r.setup.consumedTokens.find? token = some e →
    ∃ i < r.drawn, token = services.uuids i

structure Shrinks (r r' : SetupRuntime) : Prop where
  drawn : r'.drawn = r.drawn
  commands : r'.commands = r.commands
  sessions {id s} : r'.setup.sessions.find? id = some s → r.setup.sessions.find? id = some s

structure Issues (r r' : SetupRuntime) : Prop where
  drawn : r.drawn ≤ r'.drawn
  holds {id token l e} : r'.Holds id token l e →
    r.Holds id token l e ∨ ∃ i, r.drawn ≤ i ∧ token = services.uuids i

def Quiet (r r' : SetupRuntime) : Prop := Issues services r r' ∧ r'.commands = r.commands

structure Commanded (c : ScopeCommand) (r r' : SetupRuntime) : Prop where
  commands : r'.commands = r.commands ++ [c]
  drawn : r'.drawn = r.drawn
  holds {id token l e} : r'.Holds id token l e → r.Holds id token l e ∧ id ≠ c.setupSessionId
  live : ∃ e, r.Holds c.setupSessionId c.selectionToken c.albumLocator e ∧ c.nowMs < e

instance : Std.Refl Shrinks := ⟨fun _ => ⟨rfl, rfl, id⟩⟩

instance : IsTrans SetupRuntime Shrinks :=
  ⟨fun _ _ _ h h' => ⟨h'.drawn.trans h.drawn, h'.commands.trans h.commands,
    fun hs => h.sessions (h'.sessions hs)⟩⟩

theorem Issues.trans {a b c : SetupRuntime} (h : Issues services a b) (h' : Issues services b c) :
    Issues services a c where
  drawn := h.drawn.trans h'.drawn
  holds hc := by
    rcases h'.holds hc with hb | ⟨i, hi, htoken⟩
    · exact h.holds hb
    · exact .inr ⟨i, h.drawn.trans hi, htoken⟩

instance : IsTrans SetupRuntime (Quiet services) :=
  ⟨fun _ _ _ h h' => ⟨h.1.trans _ h'.1, h'.2.trans h.2⟩⟩

theorem Shrinks.holds (h : Shrinks r r') {id l : String} {e : ℤ} :
    r'.Holds id token l e → r.Holds id token l e :=
  fun ⟨s, hs, hrow⟩ => ⟨s, h.sessions hs, hrow⟩

theorem Shrinks.quiet (h : Shrinks r r') : Quiet services r r' :=
  ⟨⟨h.drawn.ge, fun hc => .inl (h.holds hc)⟩, h.commands⟩

instance : Std.Refl (Quiet services) := ⟨fun r => (Std.Refl.refl (r := Shrinks) r).quiet _⟩

variable {services}

theorem SetupRuntime.Sound.shrink (h : r.Sound services) (hdrawn : r'.drawn = r.drawn)
    (hholds : ∀ {id token l e}, r'.Holds id token l e → r.Holds id token l e)
    (hbounded : r'.setup.Bounded)
    (hspent : ∀ {token e}, r'.setup.consumedTokens.find? token = some e →
      r.setup.consumedTokens.find? token = some e ∨ ∃ id l e, r.Holds id token l e) :
    r'.Sound services where
  bounded := hbounded
  drawn hc := hdrawn ▸ h.drawn (hholds hc)
  owner hc hc' := h.owner (hholds hc) (hholds hc')
  spent hc := by
    rw [hdrawn]
    rcases hspent hc with hc | ⟨_, _, _, hc⟩
    · exact h.spent hc
    · exact h.drawn hc

variable (services) in
/-- From a sound state the computation moves along the relation to a sound one, and no loop of it
goes on for ever. -/
def Sure {α : Type} (R : SetupRuntime → SetupRuntime → Prop) (x : Setup α) : Prop :=
  ∀ r, r.Sound services → R r (x r).2 ∧ (x r).2.Sound services ∧ (x r).1 ≠ .error .hangs

namespace Sure

variable {R : SetupRuntime → SetupRuntime → Prop} {α β : Type}

theorem mono {R' : SetupRuntime → SetupRuntime → Prop} {x : Setup α} (hx : Sure services R x)
    (h : ∀ r r', R r r' → R' r r') : Sure services R' x := fun r hr =>
  ⟨h _ _ (hx r hr).1, (hx r hr).2⟩

theorem comp {R₁ R₂ : SetupRuntime → SetupRuntime → Prop} {x : Setup α} {f : α → Setup β}
    (hx : Sure services R₁ x) (hf : ∀ a, Sure services R₂ (f a))
    (hend : ∀ r r', R₁ r r' → R r r') (hcomp : ∀ a b c, R₁ a b → R₂ b c → R a c) :
    Sure services R (x >>= f) := by
  intro r hr
  obtain ⟨hR, hsound, hends⟩ := hx r hr
  rcases h : x r with ⟨e | a, t⟩ <;> rw [h] at hR hsound hends
  · rw [bind_of_error h]
    refine ⟨hend _ _ hR, hsound, ?_⟩
    rintro ⟨rfl⟩
    exact hends rfl
  · rw [bind_of_ok h]
    obtain ⟨hR', hrest⟩ := hf a t hsound
    exact ⟨hcomp _ _ _ hR hR', hrest⟩

theorem bind [IsTrans SetupRuntime R] {x : Setup α} {f : α → Setup β} (hx : Sure services R x)
    (hf : ∀ a, Sure services R (f a)) : Sure services R (x >>= f) :=
  comp hx hf (fun _ _ => id) IsTrans.trans

variable [Std.Refl R]

theorem pure (a : α) : Sure services R (pure a : Setup α) := fun r hr => ⟨refl r, hr, by simp⟩

theorem fail (kind : PhotoKitConnectorPortErrorKind) :
    Sure services R (fail (.fails kind) : Setup α) := fun r hr => ⟨refl r, hr, by simp⟩

theorem state : Sure services R (state : Setup SetupRuntime) := fun r hr =>
  ⟨refl r, hr, by simp⟩

theorem ask (answer : Except PhotoKitConnectorPortErrorKind α) : Sure services R (ask answer) := by
  refine fun r hr => ⟨refl r, hr, ?_⟩
  cases answer <;> simp [Setup.ask, Except.mapError]

theorem refuse (kind : PhotoKitConnectorPortErrorKind) (p : Prop) [Decidable p] :
    Sure services R (refuse kind p) := by
  unfold Setup.refuse rejectIf
  split
  · exact fail kind
  · exact pure _

theorem change {f : SetupMemory → SetupMemory} (hf : ∀ m, m.Bounded → (f m).Bounded)
    (hsessions : ∀ m id s, (f m).sessions.find? id = some s → m.sessions.find? id = some s)
    (hspent : ∀ m k e, (f m).consumedTokens.find? k = some e → m.consumedTokens.find? k = some e) :
    Sure services Shrinks (change f) := by
  intro r hr
  have hstep : Shrinks r (Setup.change f r).2 := ⟨rfl, rfl, fun hs => hsessions _ _ _ hs⟩
  exact ⟨hstep, hr.shrink rfl hstep.holds (hf _ hr.bounded) fun h => .inl (hspent _ _ _ h),
    by simp [Setup.change]⟩

theorem expire (nowMs : ℤ) : Sure services Shrinks (Setup.change (SetupMemory.expire nowMs)) :=
  change (fun _ h => h.expire nowMs) (fun _ _ _ => SetupMemory.find?_of_deleteWhere)
    fun _ _ _ => SetupMemory.find?_of_deleteWhere

theorem invalidate : Sure services Shrinks (Setup.change SetupMemory.invalidateSessions) :=
  change (fun _ h => h.invalidateSessions)
    (fun _ _ _ h => by simp [SetupMemory.invalidateSessions] at h) fun _ _ _ => id

theorem invalidateUnless (authorization : PhotoKitAuthorizationV1) :
    Sure services Shrinks (invalidateUnless authorization) := by
  unfold PhotoKit.invalidateUnless
  split
  · exact pure _
  · exact invalidate

theorem remove (id : String) : Sure services Shrinks (Setup.change (SetupMemory.removeSession id)) :=
  change (fun _ h => h.removeSession id) (fun _ _ _ h => (SetupMemory.find?_of_delete h).1)
    fun _ _ _ h => h

theorem insertBeginReplay (requestId : String) (replay : BeginReplay) :
    Sure services Shrinks (loop (SetupMemory.insertBeginReplay requestId replay)) := by
  intro r hr
  obtain ⟨m, hinsert, hbounded, hsessions, hspent⟩ :=
    hr.bounded.insertBeginReplay requestId replay
  have hrun : loop (SetupMemory.insertBeginReplay requestId replay) r =
      (.ok (), { r with setup := m }) := by
    rw [loop, hinsert]
  rw [hrun]
  have hstep : Shrinks r { r with setup := m } := ⟨rfl, rfl, fun hs => by rwa [← hsessions]⟩
  exact ⟨hstep, hr.shrink rfl hstep.holds hbounded fun h => .inl (hspent ▸ h), by simp⟩

theorem enter (entry : SetupEntry) : Sure services Shrinks entry.enter :=
  bind (ask _) fun _ => bind (ask _) fun _ => bind (ask _) fun _ => bind (ask _) fun _ => pure _

theorem storedResponse [DecidableEq α] (valid : Bool) (response : α)
    (stored : Except PhotoKitConnectorPortErrorKind (Option α)) :
    Sure services Shrinks (storedResponse valid response stored) :=
  bind (refuse _ _) fun _ => bind (ask _) fun _ => bind (refuse _ _) fun _ => pure _

end Sure

/-! ## Opening a session -/

section Opening

variable {albumsByToken : Table String String} {r : SetupRuntime} {start : ℕ}

/-- The tokens of a table were drawn since `start`. -/
def DrawnSince (services : SetupServices) (start now : ℕ) (albumsByToken : Table String String) :
    Prop :=
  ∀ token l, albumsByToken.find? token = some l →
    ∃ i, start ≤ i ∧ i < now ∧ token = services.uuids i

theorem DrawnSince.put {now : ℕ} (h : DrawnSince services start now albumsByToken)
    (hstart : start ≤ now) (albumLocator : String) :
    DrawnSince services start (now + 1) (albumsByToken.put (services.uuids now) albumLocator) := by
  intro token l hfind
  rw [find?_put] at hfind
  split at hfind
  · rename_i htoken
    exact ⟨now, hstart, by omega, htoken⟩
  · obtain ⟨i, hi, hlt, htoken⟩ := h token l hfind
    exact ⟨i, hi, by omega, htoken⟩

theorem drawToken_run (hinj : Function.Injective services.uuids)
    (h : DrawnSince services start r.drawn albumsByToken) (fuel : ℕ) :
    drawToken services albumsByToken (fuel + 1) r =
      (if isSelectionToken (services.uuids r.drawn) then .ok (services.uuids r.drawn)
        else .error (.fails .internal), { r with drawn := r.drawn + 1 }) := by
  have hnew : albumsByToken.find? (services.uuids r.drawn) = none := by
    rcases hfind : albumsByToken.find? (services.uuids r.drawn) with _ | l
    · rfl
    · obtain ⟨i, -, hi, htoken⟩ := h _ l hfind
      exact absurd (hinj htoken) (by omega)
  have hdraw : drawUuid services r = (.ok (services.uuids r.drawn), { r with drawn := r.drawn + 1 }) :=
    rfl
  rw [drawToken, bind_of_ok hdraw]
  rw [refuse_bind]
  by_cases hvalid : isSelectionToken (services.uuids r.drawn)
  · rw [if_neg (not_not_intro hvalid), if_pos hvalid, hnew]
    rfl
  · rw [if_pos hvalid, if_neg hvalid]

theorem issueTokens_spec (hinj : Function.Injective services.uuids)
    (albums : List PhotoKitNativeAlbum) (candidates : List PhotoKitAlbumCandidateV1)
    (hstart : start ≤ r.drawn) (h : DrawnSince services start r.drawn albumsByToken) :
    ∃ out now, issueTokens services albums albumsByToken candidates r =
        (out, { r with drawn := now }) ∧ r.drawn ≤ now ∧ out ≠ .error .hangs ∧
      ∀ b c, out = .ok (b, c) → DrawnSince services start now b := by
  induction albums generalizing albumsByToken candidates r with
  | nil =>
    refine ⟨_, r.drawn, rfl, le_rfl, by simp, fun b c hout => ?_⟩
    obtain ⟨rfl, -⟩ := Prod.mk.inj (Except.ok.inj hout)
    exact h
  | cons album rest ih =>
    rw [issueTokens, refuse_bind]
    split
    · exact ⟨_, r.drawn, rfl, le_rfl, by simp, by simp⟩
    have hdraw := drawToken_run hinj h albumsByToken.len
    split at hdraw
    · rw [bind_of_ok hdraw, refuse_bind]
      split
      · exact ⟨_, r.drawn + 1, rfl, by omega, by simp, by simp⟩
      · -- the token is drawn, the album accepted: the others follow
        obtain ⟨out, now, hrun, hle, hrest⟩ := ih (r := { r with drawn := r.drawn + 1 })
          (candidates ++ [⟨services.uuids r.drawn, album.label⟩]) (by dsimp only; omega)
          (h.put hstart album.albumLocator)
        exact ⟨out, now, hrun, by dsimp only at hle; omega, hrest⟩
    · rw [bind_of_error hdraw]
      exact ⟨_, r.drawn + 1, rfl, by omega, by simp, by simp⟩

theorem SetupRuntime.Sound.draw {now : ℕ} (h : r.Sound services) (hle : r.drawn ≤ now) :
    ({ r with drawn := now } : SetupRuntime).Sound services where
  bounded := h.bounded
  drawn hc := by
    obtain ⟨i, hi, htoken⟩ := h.drawn hc
    exact ⟨i, hi.trans_le hle, htoken⟩
  owner := h.owner
  spent hc := by
    obtain ⟨i, hi, htoken⟩ := h.spent hc
    exact ⟨i, hi.trans_le hle, htoken⟩

/-- A session is inserted whose tokens were all drawn since the state `r`. -/
theorem insertSession_spec (hinj : Function.Injective services.uuids) (h : r.Sound services)
    {now : ℕ} (hle : r.drawn ≤ now) (session : SetupSession)
    (hnew : DrawnSince services r.drawn now session.albumsByToken) (id : String) :
    ∃ m, loop (SetupMemory.insertSession id session) { r with drawn := now } =
        (.ok (), { r with drawn := now, setup := m }) ∧
      Quiet services r { r with drawn := now, setup := m } ∧
      ({ r with drawn := now, setup := m } : SetupRuntime).Sound services := by
  obtain ⟨m, hinsert, hbounded, -, hspent, -, hsessions⟩ := h.bounded.insertSession id session
  -- what is held is held by the new session or was held before
  have hholds {k token l e}
      (hc : ({ r with drawn := now, setup := m } : SetupRuntime).Holds k token l e) :
      (k = id ∧ ∃ i, r.drawn ≤ i ∧ i < now ∧ token = services.uuids i) ∨ r.Holds k token l e := by
    obtain ⟨s, hs, htoken, he⟩ := hc
    rcases hsessions k s hs with ⟨rfl, rfl⟩ | hs
    · exact .inl ⟨rfl, hnew _ _ htoken⟩
    · exact .inr ⟨s, hs, htoken, he⟩
  have hfresh {k token l e i} (hc : r.Holds k token l e) (hi : r.drawn ≤ i)
      (htoken : token = services.uuids i) : False := by
    obtain ⟨j, hj, htoken'⟩ := h.drawn hc
    exact absurd (hinj (htoken.symm.trans htoken')) (by omega)
  refine ⟨m, by rw [loop, hinsert], ⟨⟨hle, fun hc => ?_⟩, rfl⟩, hbounded, fun hc => ?_,
    fun hc hc' => ?_, fun hc => (h.draw hle).spent (hspent ▸ hc)⟩
  · rcases hholds hc with ⟨-, i, hi, -, htoken⟩ | hc
    · exact .inr ⟨i, hi, htoken⟩
    · exact .inl hc
  · rcases hholds hc with ⟨-, i, -, hi, htoken⟩ | hc
    · exact ⟨i, hi, htoken⟩
    · exact (h.draw hle).drawn hc
  · rcases hholds hc with ⟨hid, i, hi, -, htoken⟩ | hc <;>
      rcases hholds hc' with ⟨hid', i', hi', -, htoken'⟩ | hc'
    · exact hid.trans hid'.symm
    · exact (hfresh hc' hi htoken).elim
    · exact (hfresh hc hi' htoken').elim
    · exact h.owner hc hc'

end Opening

/-! ## Each call -/

variable {r r' : SetupRuntime}

theorem Sure.quiet {α : Type} {x : Setup α} (hx : Sure services Shrinks x) :
    Sure services (Quiet services) x :=
  hx.mono fun _ _ h => h.quiet services

theorem sure_openSession (hinj : Function.Injective services.uuids) (call : BeginSetupCall) :
    Sure services (Quiet services) (openSession services call) := by
  refine .bind (.ask _) fun albums => .bind (.refuse _ _) fun _ => .bind (.ask _) fun e => ?_
  intro r hr
  have hdraw : drawUuid services r = (.ok (services.uuids r.drawn), { r with drawn := r.drawn + 1 }) :=
    rfl
  rw [bind_of_ok hdraw]
  have hempty : DrawnSince services r.drawn (r.drawn + 1) empty := fun _ _ h => by simp at h
  obtain ⟨out, now, hissue, hle, hends, hnew⟩ :=
    issueTokens_spec (r := { r with drawn := r.drawn + 1 }) hinj albums [] (Nat.le_succ _) hempty
  have hle : r.drawn ≤ now := by dsimp only at hle; omega
  rcases out with e' | ⟨albumsByToken, candidates⟩
  · rw [bind_of_error hissue]
    exact ⟨⟨⟨hle, .inl⟩, rfl⟩, hr.draw hle, by simpa using hends⟩
  · obtain ⟨m, hinsert, hquiet, hsound⟩ := insertSession_spec hinj hr hle ⟨e, albumsByToken⟩
      (hnew _ _ rfl) (services.uuids r.drawn)
    rw [bind_of_ok hissue]
    dsimp only
    rw [bind_of_ok hinsert]
    have hrest : Sure services Shrinks (do
        let expiresAt ← ask (services.formatTimestamp e)
        pure (some (services.uuids r.drawn), some expiresAt, candidates, e) : Setup _) :=
      .bind (.ask _) fun _ => .pure _
    obtain ⟨hR, hsound', hends'⟩ := hrest _ hsound
    exact ⟨IsTrans.trans _ _ _ hquiet (hR.quiet services), hsound', hends'⟩

theorem sure_beginSetup (hinj : Function.Injective services.uuids) (call : BeginSetupCall) :
    Sure services (Quiet services) (beginSetup services call) := by
  refine .bind (Sure.enter _).quiet fun ⟨envelopeHash, nowMs⟩ =>
    .bind (Sure.expire nowMs).quiet fun _ => .bind .state fun r => ?_
  split
  · exact .bind (.refuse _ _) fun _ => .pure _
  · refine .bind (.ask _) fun authorization => .bind (Sure.invalidateUnless _).quiet fun _ =>
      .bind (.ask _) fun snapshot => .bind ?_ fun _ => .bind (.refuse _ _) fun _ =>
        .bind (Sure.insertBeginReplay _ _).quiet fun _ => .pure _
    unfold offer
    split
    · exact sure_openSession hinj call
    · exact .bind (.ask _) fun _ => .pure _

theorem sure_disable (call : DisableCall) : Sure services Shrinks (disable call) := by
  refine .bind (.enter _) fun _ => .bind (.ask _) fun receipt => ?_
  split
  · exact .bind .invalidate fun _ => .bind (.refuse _ _) fun _ => .pure _
  · exact .bind (.ask _) fun _ => .bind .invalidate fun _ => .storedResponse _ _ _

theorem sure_snapshot (call : SnapshotCall) : Sure services Shrinks (snapshot call) := by
  exact .bind (.ask _) fun _ => .bind (.ask _) fun _ => .bind (.ask _) fun _ =>
    .bind (.invalidateUnless _) fun _ => .ask _

def Chooses (r r' : SetupRuntime) : Prop := Shrinks r r' ∨ ∃ c, Commanded c r r'

theorem Commanded.shrinks {c : ScopeCommand} {r'' : SetupRuntime} (h : Commanded c r r')
    (h' : Shrinks r' r'') : Commanded c r r'' where
  commands := h'.commands.trans h.commands
  drawn := h'.drawn.trans h.drawn
  holds hc := h.holds (h'.holds hc)
  live := h.live

theorem Shrinks.commanded {c : ScopeCommand} {r'' : SetupRuntime} (h : Shrinks r r')
    (h' : Commanded c r' r'') : Commanded c r r'' where
  commands := by rw [h'.commands, h.commands]
  drawn := h'.drawn.trans h.drawn
  holds hc := ⟨h.holds (h'.holds hc).1, (h'.holds hc).2⟩
  live := by
    obtain ⟨e, hc, htimely⟩ := h'.live
    exact ⟨e, h.holds hc, htimely⟩

theorem Shrinks.chooses {r'' : SetupRuntime} (h : Shrinks r r') (h' : Chooses r' r'') :
    Chooses r r'' := by
  rcases h' with h' | ⟨c, h'⟩
  · exact .inl (IsTrans.trans _ _ _ h h')
  · exact .inr ⟨c, h.commanded h'⟩

theorem takeSession_spec (call : ConfigureScopeCall) {nowMs : ℤ} {session : SetupSession}
    (hr : r.Sound services) (hsession : r.setup.sessions.find? call.setupSessionId = some session)
    (htimely : nowMs < session.expiresAtMs) :
    Chooses r (takeSession services call nowMs r).2 ∧
      (takeSession services call nowMs r).2.Sound services ∧
      (takeSession services call nowMs r).1 ≠ .error .hangs := by
  have hgone : Sure services Shrinks (change (SetupMemory.removeSession call.setupSessionId)) :=
    .remove _
  obtain ⟨hremove, hremoved, -⟩ := hgone r hr
  rw [takeSession, state_bind, hsession]
  dsimp only
  unfold change at hremove hremoved ⊢
  rw [update_bind]
  rcases hfind : session.albumsByToken.find? call.selectionToken with _ | albumLocator
  · exact ⟨.inl hremove, hremoved, by simp⟩
  · -- the state the coordinator answers in: the session gone, the token consumed
    let c : ScopeCommand := ⟨call.setupSessionId, call.selectionToken, albumLocator, nowMs⟩
    let given : SetupRuntime :=
      { r with
        setup := (r.setup.removeSession call.setupSessionId).consume call.selectionToken
          session.expiresAtMs
        commands := r.commands ++ [c] }
    have hgiven : Commanded c r given :=
      { commands := rfl
        drawn := rfl
        holds := fun ⟨s, hs, hrow⟩ =>
          ⟨⟨s, (SetupMemory.find?_of_delete hs).1, hrow⟩, (SetupMemory.find?_of_delete hs).2⟩
        live := ⟨_, ⟨session, hsession, hfind, rfl⟩, htimely⟩ }
    have hsound : given.Sound services :=
      hr.shrink rfl (fun hc => (hgiven.holds hc).1) ⟨hremoved.bounded.sessions_queued,
        hremoved.bounded.replays_queued, hremoved.bounded.sessions_le, hremoved.bounded.replays_le⟩
        fun {token e} hc => by
          have hc := (find?_put _ _ _ _).symm.trans hc
          split at hc
          · rename_i htoken
            exact .inr ⟨_, _, _, session, hsession, htoken ▸ hfind, rfl⟩
          · exact .inl hc
    have hrest : Sure services Shrinks (do
        let response ← ask call.response
        storedResponse (response.validate services.isTimestamp).isOk response call.stored) :=
      .bind (.ask _) fun _ => .storedResponse _ _ _
    obtain ⟨hR, hsound', hends⟩ := hrest given hsound
    exact ⟨.inr ⟨c, hgiven.shrinks hR⟩, hsound', hends⟩

theorem sure_chooseAlbum (call : ConfigureScopeCall) (nowMs : ℤ) :
    Sure services Chooses (chooseAlbum services call nowMs) := by
  intro r hr
  have hstay : Chooses r r := .inl (Std.Refl.refl r)
  rw [chooseAlbum, state_bind, refuse_bind]
  split
  · exact ⟨hstay, hr, by simp⟩
  rcases hsession : r.setup.sessions.find? call.setupSessionId with _ | session
  · exact ⟨hstay, hr, by simp⟩
  dsimp only
  split
  · have hexpired : Sure services Shrinks (do
        change (SetupMemory.removeSession call.setupSessionId)
        fail (.fails .sessionExpired) : Setup ConfigurePhotoKitScopeV1Response) :=
      .bind (.remove _) fun _ => .fail _
    exact hexpired.mono (fun _ _ => .inl) r hr
  rename_i htimely
  rw [refuse_bind]
  split
  · exact ⟨hstay, hr, by simp⟩
  rcases hanswer : call.authorization with e | authorization
  · exact ⟨hstay, hr, by simp [ask, Except.mapError, check_bind]⟩
  have hask : ask (.ok authorization : Except PhotoKitConnectorPortErrorKind _) r =
      (.ok authorization, r) := rfl
  rw [bind_of_ok hask]
  split
  · have hdenied : Sure services Shrinks (do
        change SetupMemory.invalidateSessions
        fail (.fails .permissionDenied) : Setup ConfigurePhotoKitScopeV1Response) :=
      .bind .invalidate fun _ => .fail _
    exact hdenied.mono (fun _ _ => .inl) r hr
  · exact takeSession_spec call hr hsession (not_le.mp htimely)

theorem Sure.chooses {α β : Type} {x : Setup α} {f : α → Setup β} (hx : Sure services Shrinks x)
    (hf : ∀ a, Sure services Chooses (f a)) : Sure services Chooses (x >>= f) :=
  comp hx hf (fun _ _ => .inl) fun _ _ _ => Shrinks.chooses

theorem sure_configureScope (call : ConfigureScopeCall) :
    Sure services Chooses (configureScope services call) := by
  refine .chooses (.enter _) fun ⟨_, nowMs⟩ => .chooses (.ask call.receipt) fun receipt => ?_
  split
  · exact Sure.mono (.bind (.refuse _ _) fun _ => .pure _) fun _ _ => .inl
  · exact .chooses (.expire _) fun _ => sure_chooseAlbum call nowMs

/-- **What a call does**: it ends, what it leaves is sound, and it gives no command or one, of a
session that is alive. -/
theorem perform_spec (hinj : Function.Injective services.uuids) (call : SetupCall) :
    Sure services (fun r r' => Quiet services r r' ∨ ∃ c, Commanded c r r')
      (call.perform services) := by
  have hignore {α : Type} {R : SetupRuntime → SetupRuntime → Prop} {x : Setup α}
      (hx : Sure services R x) : Sure services R (do let _ ← x; pure ()) :=
    have hunit (_ : α) : Sure services Eq (pure () : Setup Unit) := .pure ()
    .comp hx hunit (fun _ _ => id) fun _ _ _ h heq => heq ▸ h
  cases call with
  | beginSetup call => exact (hignore (sure_beginSetup hinj call)).mono fun _ _ => .inl
  | configureScope call =>
    refine (hignore (sure_configureScope call)).mono fun _ _ h => ?_
    exact h.imp (fun h => h.quiet services) id
  | disable call => exact (hignore (sure_disable call)).quiet.mono fun _ _ => .inl
  | snapshot call => exact (hignore (sure_snapshot call)).quiet.mono fun _ _ => .inl

/-! ## Runs -/

theorem sound_new : SetupRuntime.new.Sound services where
  bounded := SetupMemory.bounded_empty
  drawn := fun ⟨s, hs, _⟩ => by simp [SetupRuntime.new, SetupMemory.empty] at hs
  owner := fun ⟨s, hs, _⟩ => by simp [SetupRuntime.new, SetupMemory.empty] at hs
  spent hs := by simp [SetupRuntime.new, SetupMemory.empty] at hs

theorem runCalls_append (calls later : List SetupCall) (r : SetupRuntime) :
    runCalls services (calls ++ later) r = runCalls services later (runCalls services calls r) :=
  foldl_append

def Spent (services : SetupServices) (r : SetupRuntime) (token : String) : Prop :=
  (∃ i < r.drawn, token = services.uuids i) ∧ ∀ id l e, ¬ r.Holds id token l e

theorem Issues.held (hinj : Function.Injective services.uuids) (h : Issues services r r') {i : ℕ}
    (hi : i < r.drawn) {id l : String} {e : ℤ} (hc : r'.Holds id (services.uuids i) l e) :
    r.Holds id (services.uuids i) l e := by
  rcases h.holds hc with hc | ⟨j, hj, htoken⟩
  · exact hc
  · exact absurd (hinj htoken) (by omega)

theorem Issues.spent (hinj : Function.Injective services.uuids) (h : Issues services r r')
    {token : String} (hspent : Spent services r token) : Spent services r' token := by
  obtain ⟨⟨i, hi, rfl⟩, hnone⟩ := hspent
  exact ⟨⟨i, hi.trans_le h.drawn, rfl⟩, fun id l e hc => hnone id l e (h.held hinj hi hc)⟩

theorem Commanded.issues {c : ScopeCommand} (h : Commanded c r r') : Issues services r r' where
  drawn := h.drawn.ge
  holds hc := .inl (h.holds hc).1

theorem Commanded.spent {c : ScopeCommand} (hr : r.Sound services) (h : Commanded c r r') :
    Spent services r' c.selectionToken := by
  obtain ⟨e, hlive, -⟩ := h.live
  obtain ⟨i, hi, htoken⟩ := hr.drawn hlive
  refine ⟨⟨i, h.drawn ▸ hi, htoken⟩, fun id l e hc => ?_⟩
  obtain ⟨hc, hne⟩ := h.holds hc
  exact hne (hr.owner hc hlive)

section Runs

variable (hinj : Function.Injective services.uuids)

include hinj

theorem runCalls_sound (calls : List SetupCall) (hr : r.Sound services) :
    (runCalls services calls r).Sound services ∧ Issues services r (runCalls services calls r) := by
  induction calls generalizing r with
  | nil => exact ⟨hr, (Std.Refl.refl (r := Quiet services) r).1⟩
  | cons call rest ih =>
    obtain ⟨heffect, hsound, -⟩ := perform_spec hinj call r hr
    obtain ⟨hend, hmoves⟩ := ih hsound
    refine ⟨hend, Issues.trans _ ?_ hmoves⟩
    rcases heffect with hquiet | ⟨c, hc⟩
    · exact hquiet.1
    · exact hc.issues

theorem runCalls_commands (calls : List SetupCall) :
    (∀ c ∈ (runCalls services calls .new).commands,
      Spent services (runCalls services calls .new) c.selectionToken ∧
        ∃ before call after, calls = before ++ call :: after ∧
          Commanded c (runCalls services before .new) (runCalls services (before ++ [call]) .new)) ∧
      ((runCalls services calls .new).commands.map (·.selectionToken)).Nodup := by
  induction calls using reverseRecOn with
  | nil => simp [runCalls, SetupRuntime.new]
  | append_singleton calls call ih =>
    obtain ⟨hgiven, hnodup⟩ := ih
    have hr := (runCalls_sound hinj calls sound_new).1
    obtain ⟨heffect, -, -⟩ := perform_spec hinj call _ hr
    have hrun : runCalls services (calls ++ [call]) .new =
        (call.perform services (runCalls services calls .new)).2 := runCalls_append ..
    rw [← hrun] at heffect
    -- an earlier command stays as it was
    have hold (hmoves : Issues services (runCalls services calls .new)
        (runCalls services (calls ++ [call]) .new)) : ∀ c ∈ (runCalls services calls .new).commands,
        Spent services (runCalls services (calls ++ [call]) .new) c.selectionToken ∧
        ∃ before call' after, calls ++ [call] = before ++ call' :: after ∧
          Commanded c (runCalls services before .new) (runCalls services (before ++ [call']) .new) := by
      intro c hc
      obtain ⟨hspent, before, call', after, rfl, hcommand⟩ := hgiven c hc
      exact ⟨hmoves.spent hinj hspent, before, call', after ++ [call], by simp, hcommand⟩
    rcases heffect with ⟨hmoves, hcommands⟩ | ⟨c, hc⟩
    · rw [hcommands]
      exact ⟨hold hmoves, hnodup⟩
    · rw [hc.commands, map_append, nodup_append]
      refine ⟨fun d hd => ?_, hnodup, nodup_singleton _, ?_⟩
      · rcases mem_append.mp hd with hd | hd
        · exact hold hc.issues d hd
        · rw [mem_singleton.mp hd]
          exact ⟨hc.spent hr, calls, call, [], rfl, hc⟩
      · -- the token is held before the command, so no earlier command spent it
        intro token htoken token' htoken' heq
        obtain ⟨d, hd, rfl⟩ := mem_map.mp htoken
        obtain ⟨e, hlive, -⟩ := hc.live
        have htoken' : token' = c.selectionToken := by simpa using htoken'
        exact (hgiven d hd).1.2 _ _ _ (heq.trans htoken' ▸ hlive)

end Runs

/-- **The memory of a setup is bounded and its evictions end.** After any calls, with any answers
of the clock, the library and the repository: every key waits in its queue and neither map is above
its maximum; every further call ends; no two commands have the same token; and each command was
given by a call before its session expired, the session alive from the first state that holds its
token to the call. UUIDs do not repeat themselves. -/
theorem setup_memory_sound (services : SetupServices)
    (uuids_injective : Function.Injective services.uuids) (calls : List SetupCall) :
    (runCalls services calls .new).setup.Bounded ∧
      (∀ call : SetupCall,
        (call.perform services (runCalls services calls .new)).1 ≠ .error .hangs) ∧
      ((runCalls services calls .new).commands.map (·.selectionToken)).Nodup ∧
      ∀ c ∈ (runCalls services calls .new).commands, ∃ before call after,
        calls = before ++ call :: after ∧
        (runCalls services (before ++ [call]) .new).commands =
          (runCalls services before .new).commands ++ [c] ∧
        ∃ e, c.nowMs < e ∧ ∀ issued between later, before = issued ++ between ++ later →
          (∃ id l e', (runCalls services issued .new).Holds id c.selectionToken l e') →
          (runCalls services (issued ++ between) .new).Holds c.setupSessionId c.selectionToken
            c.albumLocator e := by
  have hsound (calls : List SetupCall) := (runCalls_sound uuids_injective calls sound_new).1
  obtain ⟨hgiven, hnodup⟩ := runCalls_commands uuids_injective calls
  refine ⟨(hsound calls).bounded, fun call => (perform_spec uuids_injective call _ (hsound calls)).2.2,
    hnodup, fun c hc => ?_⟩
  obtain ⟨-, before, call, after, hcalls, hcommand⟩ := hgiven c hc
  obtain ⟨e, hlive, htimely⟩ := hcommand.live
  refine ⟨before, call, after, hcalls, hcommand.commands, e, htimely, ?_⟩
  rintro issued between later rfl ⟨id, l, e', hissued⟩
  -- the token was drawn by then, so what holds it at the end held it in between
  obtain ⟨i, hi, htoken⟩ := (hsound issued).drawn hissued
  have hbetween := (runCalls_sound uuids_injective between (hsound issued)).2
  have hlater := (runCalls_sound uuids_injective later (hsound (issued ++ between))).2
  rw [runCalls_append] at hlive
  rw [htoken] at hlive ⊢
  exact hlater.held uuids_injective (by rw [runCalls_append]; exact hi.trans_le hbetween.drawn) hlive

end Effects

/-! ## A setup -/

section Example

def wornServices : SetupServices where
  uuids i := String.ofList (List.replicate (i + 1) 'u')
  isTimestamp _ := true
  formatTimestamp _ := .ok "2026-07-15T01:15:00Z"

def emptySnapshot : PhotoKitConnectorSnapshotV1 where
  state := .setupRequired
  authorization := .authorized
  enrollmentEpoch := none
  membershipGeneration := none
  photokitRevision := 0
  allowIcloudDownloads := false
  lastCompleteAt := none
  counts := ⟨0, 0, 0⟩
  availabilityCounts := []

def enteredAt (nowMs : ℤ) : SetupEntry := ⟨.ok (), .ok "hash", .ok nowMs, .ok ()⟩

def chooseTwice : List SetupCall :=
  let choose : ConfigureScopeCall :=
    { entry := enteredAt 1000, setupSessionId := "u", selectionToken := "uuu", receipt := .ok none
      authorization := .ok .authorized, response := .error .unavailable, stored := .ok none }
  [.beginSetup { entry := enteredAt 0, requestId := ReceiptUuidId.above 1
                 authorization := .ok .authorized, snapshot := .ok emptySnapshot
                 albums := .ok [⟨"album-1", "Coats"⟩, ⟨"album-2", "Shoes"⟩], laterMs := .ok 5 },
   .configureScope choose, .configureScope choose]

theorem wornServices_injective : Function.Injective wornServices.uuids := by
  intro i j h
  have hlists := congrArg length (String.ofList_injective h)
  simpa using hlists

theorem setup_memory_sound_twice :
    (runCalls wornServices chooseTwice .new).commands.map (·.albumLocator) = ["album-2"] ∧
      (runCalls wornServices chooseTwice .new).setup.Bounded :=
  ⟨by decide +kernel, (setup_memory_sound wornServices wornServices_injective chooseTwice).1⟩

end Example

end PhotoKit

end Threadbook
