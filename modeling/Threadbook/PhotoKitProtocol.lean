import Mathlib
import Threadbook.Fallible

/-!
# The frames of the photo library

The native bridge takes commands and hands out frames. A frame names the request it belongs to,
and is decoded only under the identity of that request (**`decodeFrame_own`**): a frame of another
request is an invalid response, never an event.
-/

namespace Threadbook.PhotoKit

open Threadbook

abbrev Bytes := List UInt8

abbrev Uuid := Fin (2 ^ 128)

scoped instance neZeroUuid : NeZero (2 ^ 128) := ⟨pow_ne_zero _ two_ne_zero⟩

/-- `u64::MAX` and one. -/
def u64Limit : ℕ := 2 ^ 64

def MAX_CONTROL_BYTES : ℕ := 65536
def MAX_BINARY_BYTES : ℕ := 1048576
def BINARY_HEADER_BYTES : ℕ := 80
def ABI_VERSION : ℕ := 1

def PHOTOKIT_MAX_ALBUMS : ℕ := 100
def PHOTOKIT_MAX_ASSETS : ℕ := 500
def PHOTOKIT_MAX_RESOURCE_BYTES : ℕ := 40 * 1024 * 1024
def PHOTOKIT_MAX_CALLBACK_CHUNK_BYTES : ℕ := 1024 * 1024
def PHOTOKIT_SELECTION_POLICY_REVISION : String := "original-primary-v1"

def STATUS_OK : ℤ := 0
def STATUS_TIMEOUT : ℤ := 1
def STATUS_CLOSED : ℤ := 2
def STATUS_INVALID : ℤ := 3
def STATUS_BUSY : ℤ := 4

def FRAME_CONTROL : ℕ := 1
def FRAME_BINARY : ℕ := 2

/-- Why a call on the native port fails. -/
inductive PhotoKitNativeError
  | unavailable
  | invalidResponse
  | cancelled
  | sinkRejected
  | imageValidation

inductive PhotoKitAuthorizationV1
  | notDetermined
  | restricted
  | denied
  | limited
  | authorized
  deriving DecidableEq

structure PhotoKitNativeResource where
  operationResourceToken : String
  resourceUti : String

structure PhotoKitNativeAlbum where
  albumLocator : String
  label : String

structure PhotoKitNativeAsset where
  assetLocator : String
  primaryResource : Option PhotoKitNativeResource

inductive PhotoKitEnumerationTerminal
  | complete
  | incomplete
  | albumUnavailable

inductive PhotoKitTransferTerminal
  | complete
  | networkAccessRequired
  | failed

/-! ## Values -/

/-- A field of a control frame, as far as the decoder tells fields apart. -/
inductive JsonValue
  | string (value : String)
  | bool (value : Bool)
  | unsigned (value : ℕ)
  | other

namespace JsonValue

def asStr : JsonValue → Option String
  | string value => some value
  | _ => none

def asBool : JsonValue → Option Bool
  | bool value => some value
  | _ => none

def asU64 : JsonValue → Option ℕ
  | unsigned value => some value
  | _ => none

end JsonValue

abbrev JsonObject := List (String × JsonValue)

namespace JsonObject

def get (object : JsonObject) (key : String) : Option JsonValue := object.lookup key

def keys (object : JsonObject) : List String := object.map Prod.fst

end JsonObject

/-- What the bridge's client takes from the packages for JSON and for UUIDs. -/
structure Codec where
  toVec : JsonObject → Option Bytes
  /-- read an object; `none` for other values, and for what is no JSON -/
  fromSlice : Bytes → Option JsonObject
  parseStr : String → Option Uuid

def Uuid.digits (uuid : Uuid) : List Char :=
  (List.range 32).map fun i => Nat.digitChar (uuid.val / 16 ^ (31 - i) % 16)

def Uuid.hyphenated (uuid : Uuid) : String :=
  let digits := Uuid.digits uuid
  String.ofList (digits.take 8 ++ '-' :: (digits.drop 8).take 4 ++ '-' :: (digits.drop 12).take 4 ++
    '-' :: (digits.drop 16).take 4 ++ '-' :: digits.drop 20)

def Uuid.asBytes (uuid : Uuid) : Bytes :=
  (List.range 16).map fun i => UInt8.ofNat (uuid.val / 256 ^ (15 - i) % 256)

def invalidIf (p : Prop) [Decidable p] : Except PhotoKitNativeError Unit :=
  if p then .error .invalidResponse else .ok ()

def validateBoundedText (value : String) (maximum : ℕ) : Except PhotoKitNativeError Unit :=
  if value.isEmpty ∨ value.utf8ByteSize > maximum ∨ Char.ofNat 0 ∈ value.toList then
    .error .invalidResponse
  else .ok ()

def validateResourceToken (value : String) : Except PhotoKitNativeError Unit := do
  validateBoundedText value 128
  if value.toList.all fun c => (97 ≤ c.toNat ∧ c.toNat ≤ 122) ∨ c.isDigit ∨ c = '-' then .ok ()
  else .error .invalidResponse

def reasons : List String :=
  ["authorization_unavailable", "scope_unavailable", "scope_too_large", "invalid", "invalid_album",
    "invalid_asset", "internal", "resource_limit", "resource_unavailable",
    "network_access_required", "partial_transfer", "transfer_failed", "empty_resource",
    "cancelled", "queue_limit", "invalid_progress", "not_still_image", "live_photo", "burst",
    "empty_resource_set", "ambiguous_resource_set", "unsupported_resource", "unsupported_type"]

def validateReason (value : String) : Except PhotoKitNativeError Unit :=
  if value ∈ reasons then .ok () else .error .invalidResponse

def supportedUti (value : String) : Bool :=
  value ∈ ["public.jpeg", "public.png", "public.heic", "public.heif"]

def parseCanonicalUuid (codec : Codec) (value : String) : Except PhotoKitNativeError Uuid :=
  match codec.parseStr value with
  | some parsed =>
    if parsed = 0 ∨ Uuid.hyphenated parsed ≠ value then .error .invalidResponse else .ok parsed
  | none => .error .invalidResponse

def statusError (status : ℤ) : PhotoKitNativeError :=
  if status = STATUS_CLOSED then .unavailable
  else if status = STATUS_INVALID ∨ status = STATUS_BUSY then .invalidResponse
  else .unavailable

/-! ## Commands -/

inductive CommandKind
  | inspectAuthorization
  | requestAuthorization
  | listAlbums
  | enumerateAlbum
  | streamResource
  deriving DecidableEq

def CommandKind.wireName : CommandKind → String
  | inspectAuthorization => "inspect_authorization"
  | requestAuthorization => "request_authorization"
  | listAlbums => "list_albums"
  | enumerateAlbum => "enumerate_album"
  | streamResource => "stream_resource"

structure RequestIdentity where
  operationId : Uuid
  enrollmentEpoch : Uuid
  reconciliationFence : ℕ
  generation : ℕ
  requestSequence : ℕ
  deriving DecidableEq

def RequestIdentity.synthetic (operationId enrollmentEpoch : Uuid) (requestSequence : ℕ) :
    RequestIdentity where
  operationId := operationId
  enrollmentEpoch := enrollmentEpoch
  reconciliationFence := 1
  generation := 1
  requestSequence := requestSequence

/-- An operation, as far as its requests name it. -/
structure OperationScope where
  operationId : String
  enrollmentEpoch : String
  reconciliationFence : ℕ
  proposedMembershipGeneration : ℕ

def RequestIdentity.forOperation (codec : Codec) (operation : OperationScope)
    (requestSequence : ℕ) : Except PhotoKitNativeError RequestIdentity := do
  let operationId ← parseCanonicalUuid codec operation.operationId
  let enrollmentEpoch ← parseCanonicalUuid codec operation.enrollmentEpoch
  if operation.reconciliationFence = 0 ∨ operation.proposedMembershipGeneration = 0 then
    .error .invalidResponse
  else
    .ok ⟨operationId, enrollmentEpoch, operation.reconciliationFence,
      operation.proposedMembershipGeneration, requestSequence⟩

def commandFields (command : String) (identity : RequestIdentity) : JsonObject :=
  [("protocol_version", .unsigned ABI_VERSION), ("command", .string command),
    ("operation_id", .string (Uuid.hyphenated identity.operationId)),
    ("enrollment_epoch", .string (Uuid.hyphenated identity.enrollmentEpoch)),
    ("reconciliation_fence", .unsigned identity.reconciliationFence),
    ("generation", .unsigned identity.generation),
    ("sequence", .unsigned identity.requestSequence)]

def insertField (object : JsonObject) (field : String × JsonValue) :
    Except PhotoKitNativeError JsonObject :=
  if (object.get field.1).isSome then .error .invalidResponse else .ok (object ++ [field])

def encodeCommand (codec : Codec) (command : String) (identity : RequestIdentity)
    (fields : JsonObject) : Except PhotoKitNativeError Bytes := do
  let object ← fields.foldlM insertField (commandFields command identity)
  match codec.toVec object with
  | none => .error .invalidResponse
  | some bytes =>
    if bytes.isEmpty ∨ bytes.length > MAX_CONTROL_BYTES then .error .invalidResponse
    else .ok bytes

/-! ## Events -/

inductive TerminalEvent
  | completed
  | albums (count : ℕ) (truncated : Bool)
  | assets (count : ℕ)
  | resource (bytes : ℕ) (resourceToken : String)
  | failed (reason : String)

inductive NativeEvent
  | authorization (value : PhotoKitAuthorizationV1)
  | album (album : PhotoKitNativeAlbum)
  | asset (asset : PhotoKitNativeAsset)
  | binary (payload : Bytes)
  | progress
  | terminal (event : TerminalEvent)

def NativeEvent.isTerminal : NativeEvent → Bool
  | terminal _ => true
  | _ => false

def boundedString (object : JsonObject) (key : String) (maximum : ℕ) :
    Except PhotoKitNativeError String :=
  match (object.get key).bind JsonValue.asStr with
  | none => .error .invalidResponse
  | some value => do
    validateBoundedText value maximum
    .ok value

def exactUsize (object : JsonObject) (key : String) (maximum : ℕ) :
    Except PhotoKitNativeError ℕ :=
  match (object.get key).bind JsonValue.asU64 with
  | none => .error .invalidResponse
  | some value => if value ≤ maximum then .ok value else .error .invalidResponse

def eventKeys : List String :=
  ["protocol_version", "event", "operation_id", "enrollment_epoch", "reconciliation_fence",
    "generation", "sequence"]

def exactKeys (object : JsonObject) (eventFields : List String) :
    Except PhotoKitNativeError Unit :=
  if object.keys.all (· ∈ eventKeys ++ eventFields) ∧
      (eventKeys ++ eventFields).all (· ∈ object.keys) then .ok ()
  else .error .invalidResponse

/-- The fields of a control frame that name a request. -/
def CarriesIdentity (object : JsonObject) (identity : RequestIdentity) : Prop :=
  object.get "operation_id" = some (.string (Uuid.hyphenated identity.operationId)) ∧
    object.get "enrollment_epoch" = some (.string (Uuid.hyphenated identity.enrollmentEpoch)) ∧
    object.get "reconciliation_fence" = some (.unsigned identity.reconciliationFence) ∧
    object.get "generation" = some (.unsigned identity.generation) ∧
    object.get "sequence" = some (.unsigned identity.requestSequence)

def validateControlIdentity (object : JsonObject) (identity : RequestIdentity) :
    Except PhotoKitNativeError Unit := do
  invalidIf ((object.get "protocol_version").bind JsonValue.asU64 ≠ some 1)
  let operationId ← boundedString object "operation_id" 36
  invalidIf (operationId ≠ Uuid.hyphenated identity.operationId)
  let enrollmentEpoch ← boundedString object "enrollment_epoch" 36
  invalidIf (enrollmentEpoch ≠ Uuid.hyphenated identity.enrollmentEpoch)
  invalidIf ((object.get "reconciliation_fence").bind JsonValue.asU64 ≠
      some identity.reconciliationFence)
  invalidIf ((object.get "generation").bind JsonValue.asU64 ≠ some identity.generation)
  invalidIf ((object.get "sequence").bind JsonValue.asU64 ≠ some identity.requestSequence)

def decodeAuthorization : String → Except PhotoKitNativeError PhotoKitAuthorizationV1
  | "not_determined" => .ok .notDetermined
  | "restricted" => .ok .restricted
  | "denied" => .ok .denied
  | "limited" => .ok .limited
  | "authorized" => .ok .authorized
  | _ => .error .invalidResponse

def decodeCompleted (object : JsonObject) : CommandKind → Except PhotoKitNativeError TerminalEvent
  | .inspectAuthorization | .requestAuthorization => do
    exactKeys object ["status"]
    .ok .completed
  | .listAlbums => do
    exactKeys object ["status", "album_count", "truncated"]
    let count ← exactUsize object "album_count" PHOTOKIT_MAX_ALBUMS
    match (object.get "truncated").bind JsonValue.asBool with
    | none => .error .invalidResponse
    | some truncated => .ok (.albums count truncated)
  | .enumerateAlbum => do
    exactKeys object ["status", "asset_count"]
    let count ← exactUsize object "asset_count" PHOTOKIT_MAX_ASSETS
    .ok (.assets count)
  | .streamResource => do
    exactKeys object ["status", "bytes", "materialization", "resource_token"]
    let bytes ← exactUsize object "bytes" PHOTOKIT_MAX_RESOURCE_BYTES
    invalidIf (bytes = 0)
    let materialization ← boundedString object "materialization" 16
    invalidIf (materialization ≠ "local" ∧ materialization ≠ "cloud")
    let resourceToken ← boundedString object "resource_token" 128
    validateResourceToken resourceToken
    .ok (.resource bytes resourceToken)

def decodeTerminal (object : JsonObject) (kind : CommandKind) :
    Except PhotoKitNativeError NativeEvent := do
  let status ← boundedString object "status" 16
  if status = "failed" then
    exactKeys object ["status", "reason"]
    let reason ← boundedString object "reason" 64
    validateReason reason
    .ok (.terminal (.failed reason))
  else if status ≠ "completed" then .error .invalidResponse
  else
    let terminal ← decodeCompleted object kind
    .ok (.terminal terminal)

def decodeResource (object : JsonObject) :
    Except PhotoKitNativeError (Option PhotoKitNativeResource) :=
  match (object.get "supported").bind JsonValue.asBool with
  | none => .error .invalidResponse
  | some true => do
    exactKeys object ["asset_identifier", "selection_policy", "supported", "resource_token", "uti"]
    let token ← boundedString object "resource_token" 128
    validateResourceToken token
    let uti ← boundedString object "uti" 128
    if supportedUti uti then .ok (some ⟨token, uti⟩) else .error .invalidResponse
  | some false => do
    exactKeys object ["asset_identifier", "selection_policy", "supported", "reason"]
    let reason ← boundedString object "reason" 64
    validateReason reason
    .ok none

def decodeAsset (object : JsonObject) : Except PhotoKitNativeError NativeEvent := do
  let assetLocator ← boundedString object "asset_identifier" 512
  let policy ← boundedString object "selection_policy" 64
  invalidIf (policy ≠ PHOTOKIT_SELECTION_POLICY_REVISION)
  let primaryResource ← decodeResource object
  .ok (.asset ⟨assetLocator, primaryResource⟩)

def decodeEvent (object : JsonObject) (kind : CommandKind) :
    String → Except PhotoKitNativeError NativeEvent
  | "authorization" => do
    exactKeys object ["status"]
    invalidIf (kind ≠ .inspectAuthorization ∧ kind ≠ .requestAuthorization)
    let status ← boundedString object "status" 32
    let authorization ← decodeAuthorization status
    .ok (.authorization authorization)
  | "album" => do
    exactKeys object ["album_identifier", "label"]
    invalidIf (kind ≠ .listAlbums)
    let albumLocator ← boundedString object "album_identifier" 512
    let label ← boundedString object "label" 512
    .ok (.album ⟨albumLocator, label⟩)
  | "asset" => do
    invalidIf (kind ≠ .enumerateAlbum)
    decodeAsset object
  | "resource_progress" => do
    exactKeys object ["percent"]
    invalidIf (kind ≠ .streamResource ∨
        ((object.get "percent").bind JsonValue.asU64).getD 101 > 100)
    .ok .progress
  | "operation_terminal" => decodeTerminal object kind
  | _ => .error .invalidResponse

def decodeControl (codec : Codec) (bytes : Bytes) (kind : CommandKind)
    (identity : RequestIdentity) : Except PhotoKitNativeError NativeEvent :=
  match codec.fromSlice bytes with
  | none => .error .invalidResponse
  | some object => do
    validateControlIdentity object identity
    let event ← boundedString object "event" 64
    decodeEvent object kind event

/-- A number of `count` bytes at an offset, the least significant first. -/
def readLe (bytes : Bytes) (offset count : ℕ) : ℕ :=
  ((bytes.drop offset).take count).foldr (fun byte rest => byte.toNat + 256 * rest) 0

def BinaryHeader (bytes : Bytes) (identity : RequestIdentity) (chunkIndex : ℕ) : Prop :=
  bytes.take 4 = [0x57, 0x4b, 0x50, 0x42] ∧ readLe bytes 4 4 = ABI_VERSION ∧
    readLe bytes 8 4 = BINARY_HEADER_BYTES ∧ readLe bytes 12 4 = 0 ∧
    readLe bytes 16 8 = identity.requestSequence ∧
    readLe bytes 24 8 = identity.reconciliationFence ∧ readLe bytes 32 8 = identity.generation ∧
    readLe bytes 40 8 = chunkIndex ∧
    (bytes.drop 48).take 16 = Uuid.asBytes identity.operationId ∧
    (bytes.drop 64).take 16 = Uuid.asBytes identity.enrollmentEpoch

instance (bytes : Bytes) (identity : RequestIdentity) (chunkIndex : ℕ) :
    Decidable (BinaryHeader bytes identity chunkIndex) :=
  inferInstanceAs (Decidable (_ ∧ _))

def decodeBinary (bytes : Bytes) (identity : RequestIdentity) (expectedChunkIndex : ℕ) :
    Except PhotoKitNativeError Bytes :=
  if bytes.length ≤ BINARY_HEADER_BYTES ∨ bytes.length > MAX_BINARY_BYTES ∨
      ¬ BinaryHeader bytes identity expectedChunkIndex then .error .invalidResponse
  else
    let payload := bytes.drop BINARY_HEADER_BYTES
    if payload.isEmpty ∨ payload.length > PHOTOKIT_MAX_CALLBACK_CHUNK_BYTES then
      .error .invalidResponse
    else .ok payload

def decodeFrame (codec : Codec) (frameKind : ℕ) (bytes : Bytes) (kind : CommandKind)
    (identity : RequestIdentity) (nextChunkIndex : ℕ) : Except PhotoKitNativeError NativeEvent :=
  if frameKind = FRAME_CONTROL then decodeControl codec bytes kind identity
  else if frameKind = FRAME_BINARY then
    if kind ≠ .streamResource then .error .invalidResponse
    else do
      let payload ← decodeBinary bytes identity nextChunkIndex
      .ok (.binary payload)
  else .error .invalidResponse

def OwnFrame (codec : Codec) (frameKind : ℕ) (bytes : Bytes) (identity : RequestIdentity) : Prop :=
  (frameKind = FRAME_CONTROL ∧
    ∃ object, codec.fromSlice bytes = some object ∧ CarriesIdentity object identity) ∨
  (frameKind = FRAME_BINARY ∧ ∃ chunkIndex, BinaryHeader bytes identity chunkIndex)

/-! ## Whose frames are decoded -/

section

variable {codec : Codec} {object : JsonObject} {identity : RequestIdentity}

theorem invalidIf_ok {p : Prop} [Decidable p] : invalidIf p = .ok () ↔ ¬ p := by
  unfold invalidIf
  split <;> simp_all

theorem JsonValue.eq_of_asStr {value : Option JsonValue} {text : String}
    (h : value.bind asStr = some text) : value = some (.string text) := by
  rcases value with _ | _ | _ | _ | _ <;> simp_all [asStr]

theorem JsonValue.eq_of_asU64 {value : Option JsonValue} {n : ℕ}
    (h : value.bind asU64 = some n) : value = some (.unsigned n) := by
  rcases value with _ | _ | _ | _ | _ <;> simp_all [asU64]

theorem boundedString_ok {key text : String} {maximum : ℕ}
    (h : boundedString object key maximum = .ok text) : object.get key = some (.string text) := by
  unfold boundedString at h
  split at h
  · cases h
  · rename_i value hvalue
    obtain ⟨-, htext⟩ := check_then_eq_ok.mp h
    cases htext
    exact JsonValue.eq_of_asStr hvalue

theorem validateControlIdentity_ok (h : validateControlIdentity object identity = .ok ()) :
    CarriesIdentity object identity := by
  obtain ⟨-, h⟩ := check_then_eq_ok.mp h
  obtain ⟨operationId, hoperationId, h⟩ := check_bind_eq_ok.mp h
  obtain ⟨hoperation, h⟩ := check_then_eq_ok.mp h
  obtain ⟨enrollmentEpoch, henrollmentEpoch, h⟩ := check_bind_eq_ok.mp h
  obtain ⟨hepoch, h⟩ := check_then_eq_ok.mp h
  obtain ⟨hfence, h⟩ := check_then_eq_ok.mp h
  obtain ⟨hgeneration, h⟩ := check_then_eq_ok.mp h
  have hoperation := not_ne_iff.mp (invalidIf_ok.mp hoperation)
  have hepoch := not_ne_iff.mp (invalidIf_ok.mp hepoch)
  refine ⟨hoperation ▸ boundedString_ok hoperationId, hepoch ▸ boundedString_ok henrollmentEpoch,
    ?_, ?_, ?_⟩
  · exact JsonValue.eq_of_asU64 (not_ne_iff.mp (invalidIf_ok.mp hfence))
  · exact JsonValue.eq_of_asU64 (not_ne_iff.mp (invalidIf_ok.mp hgeneration))
  · exact JsonValue.eq_of_asU64 (not_ne_iff.mp (invalidIf_ok.mp h))

theorem decodeFrame_own {frameKind nextChunkIndex : ℕ} {bytes : Bytes} {kind : CommandKind}
    {event : NativeEvent}
    (h : decodeFrame codec frameKind bytes kind identity nextChunkIndex = .ok event) :
    OwnFrame codec frameKind bytes identity := by
  unfold decodeFrame at h
  split at h
  · rename_i hcontrol
    refine Or.inl ⟨hcontrol, ?_⟩
    unfold decodeControl at h
    split at h
    · cases h
    · rename_i object hobject
      obtain ⟨hidentity, -⟩ := check_then_eq_ok.mp h
      exact ⟨object, hobject, validateControlIdentity_ok hidentity⟩
  · split at h
    · rename_i hbinary
      refine Or.inr ⟨hbinary, nextChunkIndex, ?_⟩
      split at h
      · cases h
      · obtain ⟨payload, hpayload, -⟩ := check_bind_eq_ok.mp h
        unfold decodeBinary at hpayload
        split at hpayload
        · cases hpayload
        · rename_i hheader
          push Not at hheader
          exact hheader.2.2
    · cases h

end

end Threadbook.PhotoKit
