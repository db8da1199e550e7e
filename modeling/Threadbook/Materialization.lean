import Threadbook.ConnectorContract
import Threadbook.NativeLoss

/-!
# Transfers of a reconciliation

The assets of a selection are transferred one after another, each into a sink of its own that
counts against the budget of the run. What becomes of an asset depends on its own transfers
(**`transfers_are_local`**), as long as the port stays usable.
-/

namespace Threadbook.PhotoKit

open Threadbook

/-! ## The budget of a run -/

structure UnknownLengthBlobLimits where
  maxBlobBytes : ℕ
  maxRunBytes : ℕ
  maxActiveStagingBytes : ℕ
  maxChunkBytes : ℕ
  reserveFreeBytes : ℕ

def PHOTOKIT_V1 : UnknownLengthBlobLimits where
  maxBlobBytes := 40 * 1024 * 1024
  maxRunBytes := 512 * 1024 * 1024
  maxActiveStagingBytes := 80 * 1024 * 1024
  maxChunkBytes := 1024 * 1024
  reserveFreeBytes := 2 * 1024 * 1024 * 1024

/-- A session, and how often its file system was asked so far. -/
structure UnknownLengthBlobSession where
  limits : UnknownLengthBlobLimits
  acceptedRunBytes : ℕ
  activeHardAllowance : ℕ
  activeStagingBytes : ℕ
  questions : ℕ
  writes : ℕ

def UnknownLengthBlobSession.new (limits : UnknownLengthBlobLimits) : UnknownLengthBlobSession :=
  ⟨limits, 0, 0, 0, 0, 0⟩

structure NativeSink where
  session : UnknownLengthBlobSession
  stagedBytes : ℕ
  hardAllowance : ℕ

structure Attempt where
  ordinal : ℕ
  attemptOrdinal : ℕ
  networkAccessAllowed : Bool
  acceptedBytes : ℕ
  terminal : String

structure PhotoKitValidatedImage where
  pixelWidth : ℕ
  pixelHeight : ℕ
  frameCount : ℕ
  deriving DecidableEq

structure Outside where
  availableBytes : ℕ → Except PlatformError ℕ
  createNew : ℕ → Except PlatformError Unit
  writeAll : ℕ → Except PlatformError Unit
  finish : ℕ → ℕ → Except PlatformError Unit
  validateImage : ℕ → String → Except PhotoKitNativeError PhotoKitValidatedImage
  recordAttempt : Attempt → Except PlatformError Unit

def requireSpace (outside : Outside) (session : UnknownLengthBlobSession) :
    Except PlatformError Unit :=
  if session.activeHardAllowance < session.activeStagingBytes then
    .error (.corrupt "blob_stream_budget")
  else
    match outside.availableBytes session.questions with
    | .error e => .error e
    | .ok available =>
      if available < session.limits.reserveFreeBytes +
          (session.activeHardAllowance - session.activeStagingBytes) then
        .error (.invalidInput "blob_free_space")
      else .ok ()

def UnknownLengthBlobSession.asked (session : UnknownLengthBlobSession) :
    UnknownLengthBlobSession :=
  { session with questions := session.questions + 1 }

def beginUnknownLength (outside : Outside) (session : UnknownLengthBlobSession) :
    Except PlatformError NativeSink × UnknownLengthBlobSession :=
  let active := session.activeHardAllowance + session.limits.maxBlobBytes
  if active > session.limits.maxActiveStagingBytes then
    (.error (.invalidInput "blob_active_staging_limit"), session)
  else
    match requireSpace outside { session with activeHardAllowance := active } with
    | .error e => (.error e, session.asked)
    | .ok () =>
      match outside.createNew session.questions with
      | .error e => (.error e, session.asked)
      | .ok () =>
        (.ok ⟨{ session.asked with activeHardAllowance := active }, 0, session.limits.maxBlobBytes⟩,
          session.asked)

def NativeSink.accept (outside : Outside) (bytes : ℕ) (sink : NativeSink) :
    Except PlatformError Unit × NativeSink :=
  let session := sink.session
  if bytes > session.limits.maxChunkBytes then (.error (.invalidInput "blob_chunk_too_large"), sink)
  else if session.acceptedRunBytes + bytes > session.limits.maxRunBytes then
    (.error (.invalidInput "blob_run_too_large"), sink)
  else if sink.stagedBytes + bytes > session.limits.maxBlobBytes then
    (.error (.invalidInput "blob_too_large"), sink)
  else if session.activeStagingBytes + bytes > session.limits.maxActiveStagingBytes then
    (.error (.invalidInput "blob_active_staging_limit"), sink)
  else
    match requireSpace outside session with
    | .error e => (.error e, { sink with session := session.asked })
    | .ok () =>
      (.ok (), { sink with
        session := { session.asked with
          acceptedRunBytes := session.acceptedRunBytes + bytes
          activeStagingBytes := session.activeStagingBytes + bytes }
        stagedBytes := sink.stagedBytes + bytes })

/-- A chunk that cannot be written does not count. -/
def NativeSink.writeChunk (outside : Outside) (bytes : Bytes) (sink : NativeSink) :
    Except PlatformError Unit × NativeSink :=
  match sink.accept outside bytes.length with
  | (.error e, sink) => (.error e, sink)
  | (.ok (), accepted) =>
    let session := { accepted.session with writes := accepted.session.writes + 1 }
    match outside.writeAll accepted.session.writes with
    | .ok () => (.ok (), { accepted with session := session })
    | .error e =>
      (.error e, { accepted with
        session := { session with
          acceptedRunBytes := session.acceptedRunBytes - bytes.length
          activeStagingBytes := session.activeStagingBytes - bytes.length }
        stagedBytes := accepted.stagedBytes - bytes.length })

def NativeSink.drop (sink : NativeSink) : UnknownLengthBlobSession :=
  { sink.session with
    activeHardAllowance := sink.session.activeHardAllowance - sink.hardAllowance
    activeStagingBytes := sink.session.activeStagingBytes - sink.stagedBytes }

def NativeSink.release (sink : NativeSink) : NativeSink :=
  { sink with
    session := { sink.session with
      activeHardAllowance :=
        sink.session.activeHardAllowance - (sink.hardAllowance - sink.stagedBytes) }
    hardAllowance := sink.stagedBytes }

/-- The sinks of a reconciliation; `observe` records the assets of its selection. -/
def nativeSinks (outside : Outside)
    (observe : PhotoKitNativeAsset → NativeSink → Except PlatformError Unit × NativeSink) :
    Sinks NativeSink where
  observe := observe
  writeChunk := NativeSink.writeChunk outside
  acceptedBytes := NativeSink.stagedBytes

/-! ## One asset -/

structure EnumeratedAsset where
  ordinal : ℕ
  resource : Option PhotoKitNativeResource

inductive PreparedObservation
  | materialized (ordinal : ℕ) (resourceUti : String) (validated : PhotoKitValidatedImage)
      (bytes : ℕ)
  | unavailable (ordinal : ℕ) (reason : PhotoKitAvailabilityReasonV1)
  deriving DecidableEq

def PHOTOKIT_MAX_PIXELS : ℕ := 64000000
def PHOTOKIT_MAX_DIMENSION : ℕ := 16384

def PhotoKitValidatedImage.isAcceptable (image : PhotoKitValidatedImage) : Bool :=
  image.frameCount = 1 ∧ image.pixelWidth > 0 ∧ image.pixelWidth ≤ PHOTOKIT_MAX_DIMENSION ∧
    image.pixelHeight > 0 ∧ image.pixelHeight ≤ PHOTOKIT_MAX_DIMENSION ∧
    image.pixelWidth * image.pixelHeight ≤ PHOTOKIT_MAX_PIXELS

/-- What becomes of an asset, and the session after it. -/
abbrev Prepared : Type := Except PlatformError PreparedObservation × UnknownLengthBlobSession

def recordUnavailable (outside : Outside) (session : UnknownLengthBlobSession) (attempt : Attempt)
    (reason : PhotoKitAvailabilityReasonV1) : Prepared :=
  match outside.recordAttempt attempt with
  | .error e => (.error e, session)
  | .ok () => (.ok (.unavailable attempt.ordinal reason), session)

def validatePrepared (outside : Outside) (ordinal : ℕ) (resourceUti : String) (sink : NativeSink)
    (attemptOrdinal : ℕ) : Prepared :=
  let bytes := sink.stagedBytes
  if bytes = 0 then (.error (.invalidInput "blob_stream_empty"), sink.drop)
  else
    match outside.finish ordinal attemptOrdinal with
    | .error e => (.error e, sink.drop)
    | .ok () =>
      let attempt := fun terminal : String =>
        (⟨ordinal, attemptOrdinal, attemptOrdinal == 1, bytes, terminal⟩ : Attempt)
      match outside.validateImage ordinal resourceUti with
      | .ok validated =>
        if validated.isAcceptable then
          match outside.recordAttempt (attempt "materialized") with
          | .error e => (.error e, sink.drop)
          | .ok () =>
            (.ok (.materialized ordinal resourceUti validated bytes), sink.release.session)
        else recordUnavailable outside sink.drop (attempt "blob_integrity_failed")
          .blobIntegrityFailed
      | .error _ =>
        recordUnavailable outside sink.drop (attempt "blob_integrity_failed") .blobIntegrityFailed

def transferTerminal :
    Except PhotoKitNativeError Answer → Except PhotoKitNativeError PhotoKitTransferTerminal
  | .ok (.transfer terminal) => .ok terminal
  | .ok _ => .error .invalidResponse
  | .error e => .error e

def retryWithNetwork (outside : Outside) (operation : OperationScope) (ordinal : ℕ)
    (resource : PhotoKitNativeResource) (session : UnknownLengthBlobSession) :
    Program NativeSink Prepared :=
  match beginUnknownLength outside session with
  | (.error e, session) => .finished (.error e, session)
  | (.ok retry, _) =>
    .call (.transferResource operation resource.operationResourceToken true) retry
      fun result retry =>
        match transferTerminal result with
        | .ok .complete =>
          if retry.stagedBytes = 0 then
            .finished (recordUnavailable outside retry.drop
              ⟨ordinal, 1, true, retry.stagedBytes, "transfer_failed"⟩ .transferFailed)
          else .finished (validatePrepared outside ordinal resource.resourceUti retry 1)
        | _ =>
          .finished (recordUnavailable outside retry.drop
            ⟨ordinal, 1, true, retry.stagedBytes, "transfer_failed"⟩ .transferFailed)

def transferFirst (outside : Outside) (operation : OperationScope) (allowIcloudDownloads : Bool)
    (ordinal : ℕ) (resource : PhotoKitNativeResource) (session : UnknownLengthBlobSession) :
    Program NativeSink Prepared :=
  match beginUnknownLength outside session with
  | (.error e, session) => .finished (.error e, session)
  | (.ok first, _) =>
    .call (.transferResource operation resource.operationResourceToken false) first
      fun result first =>
        match transferTerminal result with
        | .ok .networkAccessRequired =>
          if first.stagedBytes = 0 then
            match outside.recordAttempt ⟨ordinal, 0, false, 0, "network_access_required"⟩ with
            | .error e => .finished (.error e, first.drop)
            | .ok () =>
              if allowIcloudDownloads then
                retryWithNetwork outside operation ordinal resource first.drop
              else .finished (.ok (.unavailable ordinal .icloudUnavailable), first.drop)
          else
            .finished (recordUnavailable outside first.drop
              ⟨ordinal, 0, false, first.stagedBytes, "transfer_failed"⟩ .transferFailed)
        | .ok .complete =>
          if first.stagedBytes = 0 then
            .finished (recordUnavailable outside first.drop
              ⟨ordinal, 0, false, first.stagedBytes, "transfer_failed"⟩ .transferFailed)
          else .finished (validatePrepared outside ordinal resource.resourceUti first 0)
        | _ =>
          .finished (recordUnavailable outside first.drop
            ⟨ordinal, 0, false, first.stagedBytes, "transfer_failed"⟩ .transferFailed)

def materializeAsset (outside : Outside) (operation : OperationScope)
    (allowIcloudDownloads : Bool) (asset : EnumeratedAsset) (session : UnknownLengthBlobSession) :
    Program NativeSink Prepared :=
  let unsupported := recordUnavailable outside session
    ⟨asset.ordinal, 0, false, 0, "unsupported_resource"⟩ .unsupportedResource
  match asset.resource with
  | none => .finished unsupported
  | some resource =>
    if supportedUti resource.resourceUti then
      transferFirst outside operation allowIcloudDownloads asset.ordinal resource session
    else .finished unsupported

/-! ## All assets -/

def Program.bind {S A B : Type} (first : Program S A) (rest : A → Program S B) : Program S B :=
  match first with
  | .finished value => rest value
  | .call c sink next => .call c sink fun result sink => (next result sink).bind rest

/-- The assets one after another, up to one that ends the reconciliation. -/
def materializeAssets (outside : Outside) (operation : OperationScope)
    (allowIcloudDownloads : Bool) : List EnumeratedAsset → UnknownLengthBlobSession →
    Program NativeSink (Except PlatformError (List PreparedObservation))
  | [], _ => .finished (.ok [])
  | asset :: rest, session =>
    (materializeAsset outside operation allowIcloudDownloads asset session).bind fun
      | (.error e, _) => .finished (.error e)
      | (.ok observation, session) =>
        (materializeAssets outside operation allowIcloudDownloads rest session).bind fun
          | .error e => .finished (.error e)
          | .ok observations => .finished (.ok (observation :: observations))

/-! ## Calls of a program, from the first -/

section Programs

variable {S A B : Type} {program program' : Program S A} {records : List (CallRecord S)}

theorem Led.cons {record : CallRecord S}
    {next : Except PhotoKitNativeError Answer → S → Program S A}
    (h : Led (next record.result record.sinkAfter) records program') :
    Led (.call record.call record.sink next) (record :: records) program' := by
  induction h with
  | none => exact .more record .none
  | more record' _ ih => exact .more record' ih

theorem Led.head (h : Led program records program') :
    records = [] ∧ program' = program ∨
      ∃ record rest next, records = record :: rest ∧
        program = .call record.call record.sink next ∧
        Led (next record.result record.sinkAfter) rest program' := by
  induction h with
  | none => exact .inl ⟨rfl, rfl⟩
  | @more records record next before ih =>
    obtain ⟨rfl, rfl⟩ | ⟨first, rest, next', rfl, hprogram, hrest⟩ := ih
    · exact .inr ⟨record, [], next, rfl, rfl, .none⟩
    · exact .inr ⟨first, rest ++ [record], next', rfl, hprogram, .more record hrest⟩

theorem Led.finished_inv {value : A} (h : Led (.finished value) records program') :
    records = [] ∧ program' = .finished value := by
  obtain h | ⟨_, _, _, _, hcall, -⟩ := h.head
  · exact h
  · cases hcall

theorem Led.call_inv {c : Call} {sink : S} {value : A}
    {next : Except PhotoKitNativeError Answer → S → Program S A}
    (h : Led (.call c sink next) records (.finished value)) :
    ∃ record rest, records = record :: rest ∧ record.call = c ∧ record.sink = sink ∧
      Led (next record.result record.sinkAfter) rest (.finished value) := by
  obtain ⟨-, hfinished⟩ | ⟨record, rest, next', rfl, hcall, hrest⟩ := h.head
  · cases hfinished
  · obtain ⟨rfl, rfl, rfl⟩ := Program.call.inj hcall
    exact ⟨record, rest, rfl, rfl, rfl, hrest⟩

theorem Led.bind_inv {rest : A → Program S B} {value : B}
    (h : Led (program.bind rest) records (.finished value)) :
    ∃ own others a, records = own ++ others ∧ Led program own (.finished a) ∧
      Led (rest a) others (.finished value) := by
  induction program generalizing records with
  | finished a => exact ⟨[], records, a, rfl, .none, h⟩
  | call c sink next ih =>
    obtain ⟨record, more, rfl, rfl, rfl, hmore⟩ := h.call_inv
    obtain ⟨own, others, a, rfl, hown, hothers⟩ := ih _ _ hmore
    exact ⟨record :: own, others, a, rfl, .cons hown, hothers⟩

end Programs

/-! ## What becomes of an asset -/

variable {attemptOrdinal : ℕ} {assets : List EnumeratedAsset} {resourceUti : String}
  {settled : Except PlatformError (List PreparedObservation)}

section Outcomes

variable {outside : Outside} {operation : OperationScope} {allowIcloudDownloads : Bool}
  {session session' : UnknownLengthBlobSession} {observation : PreparedObservation}
  {own : List (CallRecord NativeSink)} {e : PlatformError}

/-- A transfer that came to its end, and brought something. -/
def CallRecord.Complete (record : CallRecord NativeSink) : Prop :=
  record.result = .ok (.transfer .complete) ∧ record.sinkAfter.stagedBytes ≠ 0

def Outcome (outside : Outside) (operation : OperationScope) (asset : EnumeratedAsset)
    (own : List (CallRecord NativeSink)) (observation : PreparedObservation) : Prop :=
  ∀ record ∈ own, ∃ resource networkAccessAllowed, asset.resource = some resource ∧
    record.call = .transferResource operation resource.operationResourceToken
      networkAccessAllowed ∧
    (record.Complete → ∀ image,
      outside.validateImage asset.ordinal resource.resourceUti = .ok image →
      image.isAcceptable →
      observation = .materialized asset.ordinal resource.resourceUti image
        record.sinkAfter.stagedBytes)

/-- The file system or the repository refused something. -/
def Outside.Refuses (outside : Outside) (e : PlatformError) : Prop :=
  (∃ session, (beginUnknownLength outside session).1 = .error e) ∨
    (∃ attempt, outside.recordAttempt attempt = .error e) ∨
    ∃ ordinal attemptOrdinal, outside.finish ordinal attemptOrdinal = .error e

def Settles (outside : Outside) (operation : OperationScope) (asset : EnumeratedAsset)
    (own : List (CallRecord NativeSink)) : Except PlatformError PreparedObservation → Prop
  | .ok observation => Outcome outside operation asset own observation
  | .error e => outside.Refuses e

variable {asset : EnumeratedAsset} {resource : PhotoKitNativeResource}
  {result : Except PlatformError PreparedObservation}

theorem recordUnavailable_settles {attempt : Attempt} {reason : PhotoKitAvailabilityReasonV1}
    (hown : ∀ observation, Outcome outside operation asset own observation)
    (h : recordUnavailable outside session attempt reason = (result, session')) :
    Settles outside operation asset own result := by
  unfold recordUnavailable at h
  split at h
  · rename_i hrecord
    obtain rfl := (Prod.mk.inj h).1
    exact .inr (.inl ⟨_, hrecord⟩)
  · obtain rfl := (Prod.mk.inj h).1
    exact hown _

theorem validatePrepared_ok {ordinal : ℕ} {sink : NativeSink} {image : PhotoKitValidatedImage}
    (hstaged : sink.stagedBytes ≠ 0)
    (himage : outside.validateImage ordinal resourceUti = .ok image)
    (hacceptable : image.isAcceptable)
    (h : validatePrepared outside ordinal resourceUti sink attemptOrdinal =
      (.ok observation, session')) :
    observation = .materialized ordinal resourceUti image sink.stagedBytes := by
  simp only [validatePrepared, if_neg hstaged, himage, hacceptable, if_true] at h
  split at h
  · cases h
  · split at h
    · cases h
    · exact (Except.ok.inj (Prod.mk.inj h).1).symm

theorem validatePrepared_error {ordinal : ℕ} {sink : NativeSink} (hstaged : sink.stagedBytes ≠ 0)
    (h : validatePrepared outside ordinal resourceUti sink attemptOrdinal = (.error e, session')) :
    outside.Refuses e := by
  have hrecord : ∀ session attempt reason,
      recordUnavailable outside session attempt reason = (.error e, session') →
      outside.Refuses e := by
    intro session attempt reason hrecord
    have hsettles : Settles outside ⟨"", "", 0, 0⟩ ⟨0, none⟩ [] (.error e) :=
      recordUnavailable_settles (by simp [Outcome]) hrecord
    exact hsettles
  simp only [validatePrepared, if_neg hstaged] at h
  split at h
  · rename_i hfinish
    obtain rfl := Except.error.inj (Prod.mk.inj h).1
    exact .inr (.inr ⟨_, _, hfinish⟩)
  · split at h
    · split at h
      · split at h
        · rename_i hattempt
          obtain rfl := Except.error.inj (Prod.mk.inj h).1
          exact .inr (.inl ⟨_, hattempt⟩)
        · cases h
      · exact hrecord _ _ _ h
    · exact hrecord _ _ _ h

variable {record : CallRecord NativeSink} {networkAccessAllowed : Bool}

section

variable (hresource : asset.resource = some resource)

include hresource

theorem Settles.cons
    (hcall : record.call = .transferResource operation resource.operationResourceToken
      networkAccessAllowed) (hincomplete : ¬ record.Complete)
    (h : Settles outside operation asset own result) :
    Settles outside operation asset (record :: own) result := by
  cases result with
  | error e => exact h
  | ok observation =>
    intro other hother
    obtain rfl | hother := List.mem_cons.mp hother
    · exact ⟨resource, networkAccessAllowed, hresource, hcall, fun h => absurd h hincomplete⟩
    · exact h other hother

theorem failed_settles
    (hcall : record.call = .transferResource operation resource.operationResourceToken
      networkAccessAllowed) (hincomplete : ¬ record.Complete) {attempt : Attempt}
    {reason : PhotoKitAvailabilityReasonV1}
    (h : recordUnavailable outside session attempt reason = (result, session')) :
    Settles outside operation asset [record] result :=
  (recordUnavailable_settles (by simp [Outcome]) h).cons hresource hcall hincomplete

theorem transferred_settles
    (hcall : record.call = .transferResource operation resource.operationResourceToken
      networkAccessAllowed) (hstaged : record.sinkAfter.stagedBytes ≠ 0)
    (h : validatePrepared outside asset.ordinal resource.resourceUti record.sinkAfter
      attemptOrdinal = (result, session')) : Settles outside operation asset [record] result := by
  cases result with
  | error e => exact validatePrepared_error hstaged h
  | ok observation =>
    intro other hother
    obtain rfl := List.mem_singleton.mp hother
    exact ⟨resource, networkAccessAllowed, hresource, hcall, fun _ image himage hacceptable =>
      validatePrepared_ok hstaged himage hacceptable h⟩

end

theorem begin_settles (h : beginUnknownLength outside session = (.error e, session')) :
    Settles outside operation asset [] (.error e) :=
  .inl ⟨session, by rw [h]⟩

theorem retryWithNetwork_settles (hresource : asset.resource = some resource)
    (h : Led (retryWithNetwork outside operation asset.ordinal resource session) own
      (.finished (result, session'))) :
    Settles outside operation asset own result := by
  unfold retryWithNetwork at h
  split at h
  · rename_i hbegin
    obtain ⟨rfl, hvalue⟩ := h.finished_inv
    obtain ⟨rfl, -⟩ := Prod.mk.inj (Program.finished.inj hvalue)
    exact begin_settles hbegin
  · obtain ⟨record, rest, rfl, hcall, -, h⟩ := h.call_inv
    split at h
    · split at h
      · rename_i hstaged
        obtain ⟨rfl, hvalue⟩ := h.finished_inv
        exact failed_settles hresource hcall (fun h => h.2 hstaged)
          (Program.finished.inj hvalue).symm
      · rename_i hstaged
        obtain ⟨rfl, hvalue⟩ := h.finished_inv
        exact transferred_settles hresource hcall hstaged (Program.finished.inj hvalue).symm
    · rename_i hterminal
      obtain ⟨rfl, hvalue⟩ := h.finished_inv
      refine failed_settles hresource hcall (fun hcomplete => ?_) (Program.finished.inj hvalue).symm
      exact hterminal (by rw [hcomplete.1]; rfl)

theorem transferFirst_settles (hresource : asset.resource = some resource)
    (h : Led (transferFirst outside operation allowIcloudDownloads asset.ordinal resource session)
      own (.finished (result, session'))) :
    Settles outside operation asset own result := by
  unfold transferFirst at h
  split at h
  · rename_i hbegin
    obtain ⟨rfl, hvalue⟩ := h.finished_inv
    obtain ⟨rfl, -⟩ := Prod.mk.inj (Program.finished.inj hvalue)
    exact begin_settles hbegin
  · obtain ⟨record, rest, rfl, hcall, -, h⟩ := h.call_inv
    split at h
    · -- the resource is in the cloud only
      rename_i hterminal
      have hincomplete : ¬ record.Complete := by
        intro hcomplete
        rw [hcomplete.1] at hterminal
        cases hterminal
      split at h
      · split at h
        · rename_i hattempt
          obtain ⟨rfl, hvalue⟩ := h.finished_inv
          obtain ⟨rfl, -⟩ := Prod.mk.inj (Program.finished.inj hvalue)
          exact .inr (.inl ⟨_, hattempt⟩)
        · split at h
          · exact (retryWithNetwork_settles hresource h).cons hresource hcall hincomplete
          · obtain ⟨rfl, hvalue⟩ := h.finished_inv
            obtain ⟨rfl, -⟩ := Prod.mk.inj (Program.finished.inj hvalue)
            refine Settles.cons hresource hcall hincomplete ?_
            simp [Settles, Outcome]
      · obtain ⟨rfl, hvalue⟩ := h.finished_inv
        exact failed_settles hresource hcall hincomplete (Program.finished.inj hvalue).symm
    · split at h
      · rename_i hstaged
        obtain ⟨rfl, hvalue⟩ := h.finished_inv
        exact failed_settles hresource hcall (fun h => h.2 hstaged)
          (Program.finished.inj hvalue).symm
      · rename_i hstaged
        obtain ⟨rfl, hvalue⟩ := h.finished_inv
        exact transferred_settles hresource hcall hstaged (Program.finished.inj hvalue).symm
    · rename_i _ hterminal
      obtain ⟨rfl, hvalue⟩ := h.finished_inv
      refine failed_settles hresource hcall (fun hcomplete => ?_) (Program.finished.inj hvalue).symm
      exact hterminal (by rw [hcomplete.1]; rfl)

/-- **What becomes of an asset** is decided by its own transfers, or something is refused. -/
theorem materializeAsset_settles
    (h : Led (materializeAsset outside operation allowIcloudDownloads asset session) own
      (.finished (result, session'))) :
    Settles outside operation asset own result := by
  have hunsupported : ∀ attempt reason,
      Led (.finished (recordUnavailable outside session attempt reason)) own
        (.finished (result, session')) → Settles outside operation asset own result := by
    intro attempt reason h
    obtain ⟨rfl, hvalue⟩ := h.finished_inv
    exact recordUnavailable_settles (by simp [Outcome]) (Program.finished.inj hvalue).symm
  unfold materializeAsset at h
  dsimp only at h
  split at h
  · exact hunsupported _ _ h
  · rename_i resource hresource
    split at h
    · exact transferFirst_settles hresource h
    · exact hunsupported _ _ h

inductive Outcomes
    (P : EnumeratedAsset → List (CallRecord NativeSink) → PreparedObservation → Prop) :
    List EnumeratedAsset → List (CallRecord NativeSink) → List PreparedObservation → Prop
  | none : Outcomes P [] [] []
  | more {asset : EnumeratedAsset} {assets : List EnumeratedAsset}
      {own others : List (CallRecord NativeSink)} {observation : PreparedObservation}
      {observations : List PreparedObservation}
      (first : P asset own observation) (rest : Outcomes P assets others observations) :
      Outcomes P (asset :: assets) (own ++ others) (observation :: observations)

def AllSettle (outside : Outside) (operation : OperationScope) (assets : List EnumeratedAsset)
    (records : List (CallRecord NativeSink)) :
    Except PlatformError (List PreparedObservation) → Prop
  | .ok observations => Outcomes (Outcome outside operation) assets records observations
  | .error e => outside.Refuses e

theorem materializeAssets_settles {records : List (CallRecord NativeSink)}
    (h : Led (materializeAssets outside operation allowIcloudDownloads assets session) records
      (.finished settled)) : AllSettle outside operation assets records settled := by
  induction assets generalizing session records settled with
  | nil =>
    obtain ⟨rfl, hvalue⟩ := h.finished_inv
    obtain rfl := Program.finished.inj hvalue
    exact .none
  | cons asset assets ih =>
    obtain ⟨own, others, ⟨first, session₁⟩, rfl, hown, h⟩ := Led.bind_inv h
    have hfirst := materializeAsset_settles hown
    cases first with
    | error e =>
      obtain ⟨rfl, hvalue⟩ := h.finished_inv
      obtain rfl := Program.finished.inj hvalue
      exact hfirst
    | ok observation =>
      obtain ⟨others', last, rest, rfl, hothers, h⟩ := Led.bind_inv h
      have hrest := ih hothers
      cases rest with
      | error e =>
        obtain ⟨rfl, hvalue⟩ := h.finished_inv
        obtain rfl := Program.finished.inj hvalue
        exact hrest
      | ok observations =>
        obtain ⟨rfl, hvalue⟩ := h.finished_inv
        obtain rfl := Program.finished.inj hvalue
        show Outcomes _ _ (own ++ (others' ++ [])) _
        rw [List.append_nil]
        exact .more hfirst hrest

theorem Outcomes.imp
    {P Q : EnumeratedAsset → List (CallRecord NativeSink) → PreparedObservation → Prop}
    {records : List (CallRecord NativeSink)} {observations : List PreparedObservation}
    (h : Outcomes P assets records observations)
    (himp : ∀ asset own observation, (∀ record ∈ own, record ∈ records) →
      P asset own observation → Q asset own observation) :
    Outcomes Q assets records observations := by
  induction h with
  | none => exact .none
  | more first rest ih =>
    refine .more (himp _ _ _ (fun _ => List.mem_append_left _) first) (ih ?_)
    intro asset own observation hown
    exact himp asset own observation fun record hrecord =>
      List.mem_append_right _ (hown record hrecord)

end Outcomes

/-! ## Assets on a usable port -/

section Local

variable {A : Type} {codec : Codec} {outside : Outside}
  {observe : PhotoKitNativeAsset → NativeSink → Except PlatformError Unit × NativeSink}

/-- The frames of a transfer's own request bring the whole resource into its own sink. -/
def Port.Delivers (outside : Outside)
    (observe : PhotoKitNativeAsset → NativeSink → Except PlatformError Unit × NativeSink)
    (port : Port NativeSink A) (record : CallRecord NativeSink) (bytes : ℕ) : Prop :=
  ∃ request sinkAfter, record.request = .ok request ∧
    record.call.answer (nativeSinks outside observe) (port.events request) record.sink =
      (.ok (.transfer .complete), sinkAfter) ∧
    sinkAfter.stagedBytes = bytes ∧ bytes ≠ 0

def LocalOutcome (outside : Outside)
    (observe : PhotoKitNativeAsset → NativeSink → Except PlatformError Unit × NativeSink)
    (operation : OperationScope) (port : Port NativeSink A) (asset : EnumeratedAsset)
    (own : List (CallRecord NativeSink)) (observation : PreparedObservation) : Prop :=
  ∀ record ∈ own, ∃ resource networkAccessAllowed, asset.resource = some resource ∧
    record.call = .transferResource operation resource.operationResourceToken
      networkAccessAllowed ∧
    ∀ bytes, port.Delivers outside observe record bytes → ∀ image,
      outside.validateImage asset.ordinal resource.resourceUti = .ok image →
      image.isAcceptable →
      observation = .materialized asset.ordinal resource.resourceUti image bytes

def LocalOutcomes (outside : Outside)
    (observe : PhotoKitNativeAsset → NativeSink → Except PlatformError Unit × NativeSink)
    (operation : OperationScope) (port : Port NativeSink A) (assets : List EnumeratedAsset)
    (records : List (CallRecord NativeSink)) :
    Except PlatformError (List PreparedObservation) → Prop
  | .ok observations =>
    Outcomes (LocalOutcome outside observe operation port) assets records observations
  | .error e => outside.Refuses e

/-- **Transfers are local**: on a usable port, the calls of a reconciliation among all others
decide on its assets one by one. -/
theorem transfers_are_local {program : Program NativeSink A} {port : Port NativeSink A}
    (husable : port.Usable codec (nativeSinks outside observe) program) {operation : OperationScope}
    {allowIcloudDownloads : Bool} {session : UnknownLengthBlobSession}
    {part : List (CallRecord NativeSink)} (hpart : part <:+: port.history)
    (hled : Led (materializeAssets outside operation allowIcloudDownloads assets session) part
      (.finished settled)) : LocalOutcomes outside observe operation port assets part settled := by
  have hsettled := materializeAssets_settles hled
  cases settled with
  | error e => exact hsettled
  | ok observations =>
    refine Outcomes.imp hsettled fun asset own observation hown houtcome record hrecord => ?_
    obtain ⟨resource, networkAccessAllowed, hresource, hcall, himage⟩ := houtcome record hrecord
    refine ⟨resource, networkAccessAllowed, hresource, hcall, ?_⟩
    rintro _ ⟨request, sinkAfter, hrequest, hanswer, rfl, hbytes⟩ image hvalid hacceptable
    have hfair := (husable.fair record (hpart.subset (hown record hrecord))).2
    simp only [hrequest] at hfair
    obtain ⟨hresult, hsink⟩ := Prod.mk.inj (hanswer.symm.trans hfair.2.2)
    rw [himage ⟨hresult.symm, by rwa [← hsink]⟩ image hvalid hacceptable, hsink]

end Local

end Threadbook.PhotoKit
