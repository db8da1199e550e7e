import Threadbook.Materialization

/-!
# Requests that fail

A request may fail without harm to those after it, as long as the worker has done with it before
its call gives it up (**`failed_requests_stay_local`**). A call that gives it up earlier, or a
request that ends badly at the worker, is the last one that the bridge is sent.
-/

namespace Threadbook.PhotoKit

open Threadbook

namespace Port

variable {S A : Type}

def run (codec : Codec) (sinks : Sinks S) (moves : List Move) (port : Port S A) :
    Option (Port S A) :=
  moves.foldlM (fun port move => port.step codec sinks move) port

def runOrderly (codec : Codec) (sinks : Sinks S) (moves : List Move) (port : Port S A) :
    Option (Port S A) :=
  moves.foldlM (fun port move =>
    if port.isOrderly codec sinks move then port.step codec sinks move else none) port

theorem moves_of_runOrderly {codec : Codec} {sinks : Sinks S} {moves : List Move}
    {port port' : Port S A} (h : port.runOrderly codec sinks moves = some port') :
    Relation.ReflTransGen (Moves codec sinks) port port' := by
  induction moves generalizing port with
  | nil =>
    cases h
    exact .refl
  | cons move moves ih =>
    rw [runOrderly, List.foldlM_cons] at h
    obtain ⟨next, hnext, h⟩ := Option.bind_eq_some_iff.mp h
    split at hnext
    · rename_i horderly
      exact .head ⟨move, horderly, hnext⟩ (ih h)
    · cases hnext

end Port

/-- **Failed requests stay local.** In every run of orderly moves the port stays usable: each call
that has returned was refused by its own checks, or sent to the bridge and answered by its own
frames. So each asset of a reconciliation whose own frames bring it is materialized, whatever
became of the transfers before it. The first move that is not orderly is followed by no other
request. -/
theorem failed_requests_stay_local {codec : Codec} :
    (∀ (S A : Type) (sinks : Sinks S) (program : Program S A) (port : Port S A),
      Relation.ReflTransGen (Port.Moves codec sinks) (.new program) port →
      port.Usable codec sinks program ∧
      ∀ move port' port'', (∀ a b, move ≠ .start a b) →
        port.isOrderly codec sinks move = false → port.step codec sinks move = some port' →
        Relation.ReflTransGen (fun before after : Port S A =>
          ∃ move, before.step codec sinks move = some after) port' port'' →
        port''.sent = port'.sent) ∧
    (∀ (A : Type) (outside : Outside)
      (observe : PhotoKitNativeAsset → NativeSink → Except PlatformError Unit × NativeSink)
      (program : Program NativeSink A) (port : Port NativeSink A) (operation : OperationScope)
      (allowIcloudDownloads : Bool) (assets : List EnumeratedAsset)
      (session : UnknownLengthBlobSession) (part : List (CallRecord NativeSink))
      (settled : Except PlatformError (List PreparedObservation)),
      Relation.ReflTransGen (Port.Moves codec (nativeSinks outside observe)) (.new program) port →
      part <:+: port.history →
      Led (materializeAssets outside operation allowIcloudDownloads assets session) part
        (.finished settled) →
      LocalOutcomes outside observe operation port assets part settled) := by
  refine ⟨?_, ?_⟩
  · intro S A sinks program port hrun
    refine ⟨usable_of_run hrun, ?_⟩
    intro move port' port'' hstarts hdisorder hstep hafter
    exact (((served_of_run hrun).lost hstarts hdisorder hstep).run hafter).2
  · intro A outside observe program port operation allowIcloudDownloads assets session part settled
      hrun hpart hled
    exact transfers_are_local (usable_of_run hrun) hpart hled

/-! ## Two assets -/

namespace TwoAssetsExample

def writeText (text : String) : List Char := '\x22' :: text.toList ++ ['\x22']

def writeValue : JsonValue → List Char
  | .string value => writeText value
  | .bool value => (if value then "true" else "false").toList
  | .unsigned value => Nat.toDigits 10 value
  | .other => "null".toList

def writeObject (object : JsonObject) : Bytes :=
  encode ('\x7b' :: List.intercalate [','] (object.map fun field =>
    writeText field.1 ++ ':' :: writeValue field.2) ++ ['\x7d'])

def operationId : Uuid := 0x1111111111114111811111111111111
def enrollmentEpoch : Uuid := 0x2222222222224222822222222222222

def operation : OperationScope where
  operationId := Uuid.hyphenated operationId
  enrollmentEpoch := Uuid.hyphenated enrollmentEpoch
  reconciliationFence := 7
  proposedMembershipGeneration := 9

def completed (requestSequence : ℕ) (token : String) : JsonObject :=
  [("protocol_version", .unsigned 1), ("event", .string "operation_terminal"),
    ("operation_id", .string (Uuid.hyphenated operationId)),
    ("enrollment_epoch", .string (Uuid.hyphenated enrollmentEpoch)),
    ("reconciliation_fence", .unsigned 7), ("generation", .unsigned 9),
    ("sequence", .unsigned requestSequence), ("status", .string "completed"),
    ("bytes", .unsigned 2), ("materialization", .string "local"),
    ("resource_token", .string token)]

def codec : Codec where
  toVec object := some (writeObject object)
  fromSlice bytes :=
    [completed 1 "token-1", completed 2 "token-2"].find? fun object => writeObject object = bytes
  parseStr text := [operationId, enrollmentEpoch].find? fun uuid => Uuid.hyphenated uuid = text

def leBytes (count value : ℕ) : Bytes :=
  (List.range count).map fun i => UInt8.ofNat (value / 256 ^ i % 256)

def chunk (frameSequence requestSequence chunkIndex : ℕ) : NextAnswer where
  status := STATUS_OK
  frame := some
    { abiVersion := ABI_VERSION
      kind := FRAME_BINARY
      sequence := frameSequence
      bytes := [0x57, 0x4b, 0x50, 0x42] ++ leBytes 4 1 ++ leBytes 4 80 ++ leBytes 4 0 ++
        leBytes 8 requestSequence ++ leBytes 8 7 ++ leBytes 8 9 ++ leBytes 8 chunkIndex ++
        Uuid.asBytes operationId ++ Uuid.asBytes enrollmentEpoch ++ [1, 2] }

def terminal (frameSequence requestSequence : ℕ) (token : String) : NextAnswer where
  status := STATUS_OK
  frame := some ⟨ABI_VERSION, FRAME_CONTROL, frameSequence,
    writeObject (completed requestSequence token)⟩

def assets : List EnumeratedAsset :=
  [⟨0, some ⟨"token-1", "public.jpeg"⟩⟩, ⟨1, some ⟨"token-2", "public.jpeg"⟩⟩]

def outside (full : Option ℕ) : Outside where
  availableBytes question := .ok (if full = some question then 0 else 2 ^ 40)
  createNew _ := .ok ()
  writeAll _ := .ok ()
  finish _ _ := .ok ()
  validateImage _ _ := .ok ⟨640, 480, 1⟩
  recordAttempt _ := .ok ()

def program (full : Option ℕ) :
    Program NativeSink (Except PlatformError (List PreparedObservation)) :=
  materializeAssets (outside full) operation false assets (.new PHOTOKIT_V1)

def sinks (full : Option ℕ) : Sinks NativeSink := nativeSinks (outside full) fun _ s => (.ok (), s)

def wholeTransfer (frameSequence requestSequence : ℕ) (token : String) : List Port.Move :=
  [.start 0 0, .take STATUS_OK, .turn false (chunk frameSequence requestSequence 0), .deliver,
    .receive, .turn false (terminal (frameSequence + 1) requestSequence token), .deliver, .receive,
    .finish, .receive]

def refusedTransfer : List Port.Move :=
  [.start 0 0, .take STATUS_OK, .turn false (chunk 1 1 0), .deliver,
    .turn false (chunk 2 1 1), .receive, .deliver, .finish, .leave]

def valueOf {S A : Type} : Program S A → Option A
  | .finished value => some value
  | .call _ _ _ => none

theorem eq_of_valueOf {S A : Type} {program : Program S A} {value : A}
    (h : valueOf program = some value) : program = .finished value := by
  cases program with
  | finished found => rw [Option.some.inj h]
  | call _ _ _ => cases h

def unsent {S A : Type} (port : Port S A) (record : CallRecord S) : Bool :=
  match record.request, record.result with
  | .ok request, .error .unavailable => !port.sent.contains request
  | _, _ => false

theorem both_transferred : ∃ port : Port NativeSink (Except PlatformError (List _)),
    port.Usable codec (sinks none) (program none) ∧
    LocalOutcomes (outside none) (fun _ s => (.ok (), s)) operation port assets port.history
      (.ok [.materialized 0 "public.jpeg" ⟨640, 480, 1⟩ 2,
        .materialized 1 "public.jpeg" ⟨640, 480, 1⟩ 2]) := by
  have hvalue : ((Port.new (program none)).runOrderly codec (sinks none)
      (wholeTransfer 1 1 "token-1" ++ wholeTransfer 3 2 "token-2")).bind
        (fun port => valueOf port.program) =
      some (.ok [.materialized 0 "public.jpeg" ⟨640, 480, 1⟩ 2,
        .materialized 1 "public.jpeg" ⟨640, 480, 1⟩ 2]) := by
    decide +kernel
  obtain ⟨port, hport, hvalue⟩ := Option.bind_eq_some_iff.mp hvalue
  have hrun := Port.moves_of_runOrderly hport
  have husable := (failed_requests_stay_local.1 _ _ _ _ _ hrun).1
  have hled := husable.led
  rw [eq_of_valueOf hvalue] at hled
  exact ⟨port, husable, failed_requests_stay_local.2 _ _ _ _ _ _ _ _ _ _ _ hrun
    (List.infix_refl _) hled⟩

/-- One refused chunk, and the second asset is not even asked for. -/
theorem refused_chunk_disables_port :
    ∃ port, (Port.new (program (some 1))).run codec (sinks (some 1))
        (refusedTransfer ++ [.start 0 0]) = some port ∧
      (∃ record ∈ port.history, ∃ request, record.request = .ok request ∧ request ∉ port.sent ∧
        record.result = .error .unavailable) ∧
      port.program =
        .finished (.ok [.unavailable 0 .transferFailed, .unavailable 1 .transferFailed]) := by
  have hvalue : ((Port.new (program (some 1))).run codec (sinks (some 1))
      (refusedTransfer ++ [.start 0 0])).bind
        (fun port => if port.history.any (unsent port) then valueOf port.program else none) =
      some (.ok [.unavailable 0 .transferFailed, .unavailable 1 .transferFailed]) := by
    decide +kernel
  obtain ⟨port, hport, hvalue⟩ := Option.bind_eq_some_iff.mp hvalue
  split at hvalue
  · rename_i hany
    refine ⟨port, hport, ?_, eq_of_valueOf hvalue⟩
    obtain ⟨record, hrecord, hunsent⟩ := List.any_eq_true.mp hany
    refine ⟨record, hrecord, ?_⟩
    unfold unsent at hunsent
    split at hunsent
    · rename_i request hrequest hresult
      exact ⟨request, hrequest, by simpa using hunsent, hresult⟩
    · cases hunsent
  · cases hvalue

end TwoAssetsExample

end Threadbook.PhotoKit
