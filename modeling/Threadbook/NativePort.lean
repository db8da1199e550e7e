import Threadbook.Channel
import Threadbook.Errors
import Threadbook.PhotoKitProtocol

/-!
# The native port

Calls on the port are made by one thread and carried out by another. A call queues a request and
then receives what the worker makes of the frames that the bridge hands out; the worker takes one
request after another. `step` is one move of either of them, or of both with the bridge.

The worker goes on to the next request only if the one before it ended well and somebody was there
to be told so.
-/

namespace Threadbook.PhotoKit

open Threadbook

/-! ## Calls -/

structure Sinks (S : Type) where
  observe : PhotoKitNativeAsset → S → Except PlatformError Unit × S
  writeChunk : Bytes → S → Except PlatformError Unit × S
  acceptedBytes : S → ℕ

inductive Call
  | authorization (requestAuthorization : Bool)
  | listRegularAlbums
  | enumerateRegularAlbum (albumLocator : String) (operation : OperationScope)
  | transferResource (operation : OperationScope) (operationResourceToken : String)
      (networkAccessAllowed : Bool)

inductive Answer
  | authorization (value : PhotoKitAuthorizationV1)
  | albums (albums : List PhotoKitNativeAlbum)
  | enumeration (terminal : PhotoKitEnumerationTerminal)
  | transfer (terminal : PhotoKitTransferTerminal)

namespace Call

def kind : Call → CommandKind
  | authorization true => .requestAuthorization
  | authorization false => .inspectAuthorization
  | listRegularAlbums => .listAlbums
  | enumerateRegularAlbum _ _ => .enumerateAlbum
  | transferResource _ _ _ => .streamResource

/-- The fields that a command has besides those of every command. -/
def fields : Call → JsonObject
  | authorization _ | listRegularAlbums => []
  | enumerateRegularAlbum albumLocator _ => [("album_identifier", .string albumLocator)]
  | transferResource _ token networkAccessAllowed =>
    [("resource_token", .string token), ("allow_network", .bool networkAccessAllowed)]

/-- What is checked before a request gets its number. -/
def validate : Call → Except PhotoKitNativeError Unit
  | authorization _ | listRegularAlbums => .ok ()
  | enumerateRegularAlbum albumLocator _ => validateBoundedText albumLocator 512
  | transferResource _ token _ => validateResourceToken token

def identity (codec : Codec) (operationId enrollmentEpoch : Uuid) (requestSequence : ℕ) :
    Call → Except PhotoKitNativeError RequestIdentity
  | authorization _ | listRegularAlbums =>
    .ok (.synthetic operationId enrollmentEpoch requestSequence)
  | enumerateRegularAlbum _ operation | transferResource operation _ _ =>
    RequestIdentity.forOperation codec operation requestSequence

end Call

structure WorkerRequest where
  bytes : Bytes
  kind : CommandKind
  identity : RequestIdentity
  deriving DecidableEq

/-- The number of the next request, if there is one left. -/
def nextSequence (current : ℕ) : Except PhotoKitNativeError ℕ × ℕ :=
  if current + 1 < u64Limit then (.ok current, current + 1) else (.error .invalidResponse, current)

def Call.request (codec : Codec) (operationId enrollmentEpoch : Uuid) (requestSequence : ℕ)
    (call : Call) : Except PhotoKitNativeError WorkerRequest := do
  let identity ← call.identity codec operationId enrollmentEpoch requestSequence
  let bytes ← encodeCommand codec call.kind.wireName identity call.fields
  .ok ⟨bytes, call.kind, identity⟩

def Call.prepare (codec : Codec) (operationId enrollmentEpoch : Uuid) (nextRequestSequence : ℕ)
    (call : Call) : Except PhotoKitNativeError WorkerRequest × ℕ :=
  match call.validate with
  | .error e => (.error e, nextRequestSequence)
  | .ok () =>
    match nextSequence nextRequestSequence with
    | (.error e, next) => (.error e, next)
    | (.ok requestSequence, next) =>
      (call.request codec operationId enrollmentEpoch requestSequence, next)

/-! ## What a call makes of its events -/

/-- What a call has received so far. -/
inductive Consumer
  | authorization (authorization : Option PhotoKitAuthorizationV1) (terminal : Bool)
  | albums (albums : List PhotoKitNativeAlbum) (terminal : Option (ℕ × Bool))
  | enumeration (observed : ℕ) (terminal : Option PhotoKitEnumerationTerminal)
      (assetLocators resourceTokens : List String)
  | transfer (operationResourceToken : String) (networkAccessAllowed : Bool)
      (terminal : Option PhotoKitTransferTerminal)

def Call.consumer : Call → Consumer
  | .authorization _ => .authorization none false
  | .listRegularAlbums => .albums [] none
  | .enumerateRegularAlbum _ _ => .enumeration 0 none [] []
  | .transferResource _ token networkAccessAllowed => .transfer token networkAccessAllowed none

namespace Consumer

variable {S : Type}

def consumeAuthorization (authorization : Option PhotoKitAuthorizationV1) (terminal : Bool) :
    NativeEvent → Except PhotoKitNativeError Consumer
  | .authorization value =>
    if authorization.isNone then .ok (.authorization (some value) terminal)
    else .error .invalidResponse
  | .terminal .completed =>
    if terminal then .error .invalidResponse else .ok (.authorization authorization true)
  | .terminal (.failed _) => .error .unavailable
  | _ => .error .invalidResponse

def consumeAlbum (albums : List PhotoKitNativeAlbum) (terminal : Option (ℕ × Bool)) :
    NativeEvent → Except PhotoKitNativeError Consumer
  | .album album =>
    if terminal.isSome ∨ albums.length ≥ PHOTOKIT_MAX_ALBUMS then .error .invalidResponse
    else .ok (.albums (albums ++ [album]) terminal)
  | .terminal (.albums count truncated) =>
    if terminal.isSome then .error .invalidResponse
    else .ok (.albums albums (some (count, truncated)))
  | .terminal (.failed _) => .error .unavailable
  | _ => .error .invalidResponse

def tokens (asset : PhotoKitNativeAsset) : List String :=
  (asset.primaryResource.map PhotoKitNativeResource.operationResourceToken).toList

def consumeAsset (sinks : Sinks S) (observed : ℕ)
    (terminal : Option PhotoKitEnumerationTerminal) (assetLocators resourceTokens : List String) :
    NativeEvent → S → Except PhotoKitNativeError Consumer × S
  | .asset asset, s =>
    if terminal.isSome ∨ observed ≥ PHOTOKIT_MAX_ASSETS ∨ asset.assetLocator ∈ assetLocators ∨
        ∃ token ∈ tokens asset, token ∈ resourceTokens then (.error .invalidResponse, s)
    else
      match sinks.observe asset s with
      | (.error _, s') => (.error .sinkRejected, s')
      | (.ok (), s') =>
        (.ok (.enumeration (observed + 1) terminal (asset.assetLocator :: assetLocators)
          (tokens asset ++ resourceTokens)), s')
  | .terminal (.assets count), s =>
    if terminal.isSome then (.error .invalidResponse, s)
    else
      (.ok (.enumeration observed (some (if count = observed then .complete else .incomplete))
        assetLocators resourceTokens), s)
  | .terminal (.failed reason), s =>
    (.ok (.enumeration observed
      (some (if reason = "scope_unavailable" then .albumUnavailable else .incomplete))
      assetLocators resourceTokens), s)
  | _, s => (.error .invalidResponse, s)

def writeChunk (sinks : Sinks S) (bytes : Bytes) (s : S) : Except PhotoKitNativeError Unit × S :=
  match sinks.writeChunk bytes s with
  | (.error _, s') => (.error .sinkRejected, s')
  | (.ok (), s') =>
    if sinks.acceptedBytes s + bytes.length ≠ sinks.acceptedBytes s' ∨
        sinks.acceptedBytes s' > PHOTOKIT_MAX_RESOURCE_BYTES then (.error .sinkRejected, s')
    else (.ok (), s')

def consumeChunk (sinks : Sinks S) (operationResourceToken : String)
    (networkAccessAllowed : Bool) (terminal : Option PhotoKitTransferTerminal) :
    NativeEvent → S → Except PhotoKitNativeError Consumer × S
  | .binary bytes, s =>
    if terminal.isSome then (.error .invalidResponse, s)
    else
      match writeChunk sinks bytes s with
      | (.error e, s') => (.error e, s')
      | (.ok (), s') => (.ok (.transfer operationResourceToken networkAccessAllowed terminal), s')
  | .progress, s =>
    if networkAccessAllowed ∧ terminal.isNone then
      (.ok (.transfer operationResourceToken networkAccessAllowed terminal), s)
    else (.error .invalidResponse, s)
  | .terminal (.resource bytes resourceToken), s =>
    if terminal.isSome ∨ bytes ≠ sinks.acceptedBytes s ∨
        resourceToken ≠ operationResourceToken then (.error .invalidResponse, s)
    else (.ok (.transfer operationResourceToken networkAccessAllowed (some .complete)), s)
  | .terminal (.failed reason), s =>
    if terminal.isSome then (.error .invalidResponse, s)
    else
      (.ok (.transfer operationResourceToken networkAccessAllowed
        (some (if reason = "network_access_required" ∧ sinks.acceptedBytes s = 0 then
          .networkAccessRequired else .failed))), s)
  | _, s => (.error .invalidResponse, s)

def consume (sinks : Sinks S) : Consumer → NativeEvent → S → Except PhotoKitNativeError Consumer × S
  | .authorization value terminal, event, s => (consumeAuthorization value terminal event, s)
  | .albums listed terminal, event, s => (consumeAlbum listed terminal event, s)
  | .enumeration observed terminal assetLocators resourceTokens, event, s =>
    consumeAsset sinks observed terminal assetLocators resourceTokens event s
  | .transfer token networkAccessAllowed terminal, event, s =>
    consumeChunk sinks token networkAccessAllowed terminal event s

/-- What a call returns when its request has ended. -/
def conclude : Consumer → Except PhotoKitNativeError Answer
  | .authorization (some value) true => .ok (.authorization value)
  | .authorization _ _ => .error .invalidResponse
  | .albums listed (some (count, _)) =>
    if count ≠ listed.length then .error .invalidResponse else .ok (.albums listed)
  | .albums _ none => .error .invalidResponse
  | .enumeration _ (some terminal) _ _ => .ok (.enumeration terminal)
  | .enumeration _ none _ _ => .error .invalidResponse
  | .transfer _ _ (some terminal) => .ok (.transfer terminal)
  | .transfer _ _ none => .error .invalidResponse

/-- Take one event after another, up to one that is refused. -/
def receiveAll (sinks : Sinks S) : List NativeEvent → Consumer → S →
    Except PhotoKitNativeError Consumer × S
  | [], consumer, s => (.ok consumer, s)
  | event :: rest, consumer, s =>
    match consumer.consume sinks event s with
    | (.error e, s') => (.error e, s')
    | (.ok consumer', s') => receiveAll sinks rest consumer' s'

end Consumer

def Call.answer {S : Type} (sinks : Sinks S) (call : Call) (events : List NativeEvent) (s : S) :
    Except PhotoKitNativeError Answer × S :=
  match Consumer.receiveAll sinks events call.consumer s with
  | (.error e, s') => (.error e, s')
  | (.ok consumer, s') => (consumer.conclude, s')

/-- Calls one after another, each of which may depend on what those before it returned. -/
inductive Program (S A : Type)
  | finished (value : A)
  | call (call : Call) (sink : S)
      (next : Except PhotoKitNativeError Answer → S → Program S A)

/-! ## The worker -/

structure NativeFrame where
  abiVersion : ℕ
  kind : ℕ
  sequence : ℕ
  bytes : Bytes

/-- What `wk_photokit_next_v1` returns. -/
structure NextAnswer where
  status : ℤ
  frame : Option NativeFrame

def OwnedHandle.next (nextFrameSequence : ℕ) (answer : NextAnswer) :
    Except PhotoKitNativeError (Option NativeFrame) × ℕ :=
  if answer.status = STATUS_TIMEOUT then
    (if answer.frame.isSome then .error .invalidResponse else .ok none, nextFrameSequence)
  else if answer.status = STATUS_OK then
    match answer.frame with
    | none => (.error .invalidResponse, nextFrameSequence)
    | some frame =>
      if frame.abiVersion ≠ ABI_VERSION ∨ frame.sequence ≠ nextFrameSequence ∨
          (frame.kind ≠ FRAME_CONTROL ∧ frame.kind ≠ FRAME_BINARY) ∨ frame.bytes.isEmpty ∨
          frame.bytes.length >
            (if frame.kind = FRAME_CONTROL then MAX_CONTROL_BYTES else MAX_BINARY_BYTES) ∨
          nextFrameSequence + 1 ≥ u64Limit then (.error .invalidResponse, nextFrameSequence)
      else (.ok (some frame), nextFrameSequence + 1)
  else
    (.error (if answer.frame.isSome then .invalidResponse else statusError answer.status),
      nextFrameSequence)

inductive WorkerCommand
  | request (request : WorkerRequest)
  | shutdown

def WorkerCommand.asksFor (sequence : ℕ) : WorkerCommand → Bool
  | .request r => r.identity.requestSequence == sequence
  | .shutdown => false

inductive WorkerMessage
  | event (event : NativeEvent)
  | finished (result : Except PhotoKitNativeError Unit)

inductive Worker
  | waiting
  | pumping (request : WorkerRequest) (nextChunkIndex : ℕ)
  | delivering (request : WorkerRequest) (nextChunkIndex : ℕ) (event : NativeEvent)
  | finishing (request : WorkerRequest) (result : Except PhotoKitNativeError Unit)
  | leaving
  | gone

def OwnedHandle.pump (codec : Codec) (request : WorkerRequest) (nextChunkIndex : ℕ) (late : Bool)
    (nextFrameSequence : ℕ) (answer : NextAnswer) :
    Except PhotoKitNativeError (Option (NativeFrame × NativeEvent)) × ℕ :=
  if late then (.error .cancelled, nextFrameSequence)
  else
    match OwnedHandle.next nextFrameSequence answer with
    | (.error e, sequence) => (.error e, sequence)
    | (.ok none, sequence) => (.ok none, sequence)
    | (.ok (some frame), sequence) =>
      match decodeFrame codec frame.kind frame.bytes request.kind request.identity
        nextChunkIndex with
      | .error e => (.error e, sequence)
      | .ok event =>
        if frame.kind = FRAME_BINARY ∧ nextChunkIndex + 1 ≥ u64Limit then
          (.error .invalidResponse, sequence)
        else (.ok (some (frame, event)), sequence)

/-! ## The port -/

structure CallRecord (S : Type) where
  call : Call
  sink : S
  request : Except PhotoKitNativeError WorkerRequest
  result : Except PhotoKitNativeError Answer
  sinkAfter : S

inductive Caller (S A : Type)
  | ready (program : Program S A)
  | receiving (call : Call) (sink : S) (request : WorkerRequest) (consumer : Consumer)
      (sinkNow : S) (next : Except PhotoKitNativeError Answer → S → Program S A)
  | dropped (value : A)

/-- The port with both its threads, and what happened on it. -/
structure Port (S A : Type) where
  nextRequestSequence : ℕ
  caller : Caller S A
  commands : List WorkerCommand
  worker : Worker
  nextFrameSequence : ℕ
  channels : ℕ → Channel WorkerMessage
  sent : List WorkerRequest
  pumped : ℕ → List (NativeFrame × NativeEvent)
  history : List (CallRecord S)

/-- The most messages that a channel holds. -/
def EVENT_CAPACITY : ℕ := 2

namespace Port

variable {S A : Type}

/-- A port on which nothing has happened yet. -/
def new (program : Program S A) : Port S A where
  nextRequestSequence := 1
  caller := .ready program
  commands := []
  worker := .waiting
  nextFrameSequence := 1
  channels _ := .opened
  sent := []
  pumped _ := []
  history := []

inductive Move
  | start (operationId enrollmentEpoch : Uuid)
  | receive
  | take (status : ℤ)
  | turn (late : Bool) (answer : NextAnswer)
  | deliver
  | finish
  | leave
  | drop

def answered (record : CallRecord S)
    (next : Except PhotoKitNativeError Answer → S → Program S A) (port : Port S A) : Port S A :=
  { port with
    caller := .ready (next record.result record.sinkAfter)
    history := port.history ++ [record] }

def setChannel (request : WorkerRequest) (channel : Channel WorkerMessage) (port : Port S A) :
    Port S A :=
  { port with
    channels := Function.update port.channels request.identity.requestSequence channel }

def channel (request : WorkerRequest) (port : Port S A) : Channel WorkerMessage :=
  port.channels request.identity.requestSequence

def start (codec : Codec) (operationId enrollmentEpoch : Uuid) (port : Port S A) :
    Option (Port S A) :=
  match port.caller with
  | .ready (.call call sink next) =>
    match call.prepare codec operationId enrollmentEpoch port.nextRequestSequence with
    | (.error e, sequence) =>
      some (({ port with nextRequestSequence := sequence }).answered
        ⟨call, sink, .error e, .error e, sink⟩ next)
    | (.ok request, sequence) =>
      match port.worker with
      | .gone =>
        some (({ port with nextRequestSequence := sequence }).answered
          ⟨call, sink, .ok request, .error .unavailable, sink⟩ next)
      | _ =>
        some (({ port with
          nextRequestSequence := sequence
          commands := port.commands ++ [WorkerCommand.request request]
          caller := .receiving call sink request call.consumer sink next }).setChannel request
            .opened)
  | _ => none

def receive (sinks : Sinks S) (port : Port S A) : Option (Port S A) :=
  match port.caller with
  | .receiving call sink request consumer sinkNow next =>
    match (port.channel request).recv with
    | none => none
    | some (none, channel) =>
      some ((port.setChannel request channel.dropReceiver).answered
        ⟨call, sink, .ok request, .error .unavailable, sinkNow⟩ next)
    | some (some (.finished result), channel) =>
      some ((port.setChannel request channel.dropReceiver).answered
        ⟨call, sink, .ok request, result.bind fun _ => consumer.conclude, sinkNow⟩ next)
    | some (some (.event event), channel) =>
      match consumer.consume sinks event sinkNow with
      | (.error e, sinkAfter) =>
        some ((port.setChannel request channel.dropReceiver).answered
          ⟨call, sink, .ok request, .error e, sinkAfter⟩ next)
      | (.ok consumer', sinkAfter) =>
        some ({ port with
          caller := .receiving call sink request consumer' sinkAfter next }.setChannel request
            channel)
  | _ => none

def take (status : ℤ) (port : Port S A) : Option (Port S A) :=
  match port.worker, port.commands with
  | .waiting, .shutdown :: rest => some { port with worker := .leaving, commands := rest }
  | .waiting, .request request :: rest =>
    if request.bytes.isEmpty ∨ request.bytes.length > MAX_CONTROL_BYTES then
      some { port with worker := .finishing request (.error .invalidResponse), commands := rest }
    else
      some { port with
        worker :=
          if status = STATUS_OK then .pumping request 0
          else .finishing request (.error (statusError status))
        commands := rest
        sent := port.sent ++ [request] }
  | _, _ => none

def turn (codec : Codec) (late : Bool) (answer : NextAnswer) (port : Port S A) :
    Option (Port S A) :=
  match port.worker with
  | .pumping request nextChunkIndex =>
    match OwnedHandle.pump codec request nextChunkIndex late port.nextFrameSequence answer with
    | (.error e, sequence) =>
      some { port with worker := .finishing request (.error e), nextFrameSequence := sequence }
    | (.ok none, sequence) => some { port with nextFrameSequence := sequence }
    | (.ok (some (frame, event)), sequence) =>
      some { port with
        worker := .delivering request
          (if frame.kind = FRAME_BINARY then nextChunkIndex + 1 else nextChunkIndex) event
        nextFrameSequence := sequence
        pumped := Function.update port.pumped request.identity.requestSequence
          (port.pumped request.identity.requestSequence ++ [(frame, event)]) }
  | _ => none

def deliver (port : Port S A) : Option (Port S A) :=
  match port.worker with
  | .delivering request nextChunkIndex event =>
    match (port.channel request).send EVENT_CAPACITY (.event event) with
    | none => none
    | some (false, _) => some { port with worker := .finishing request (.error .cancelled) }
    | some (true, channel) =>
      some ({ port with
        worker :=
          if event.isTerminal then .finishing request (.ok ())
          else .pumping request nextChunkIndex }.setChannel request channel)
  | _ => none

def finish (port : Port S A) : Option (Port S A) :=
  match port.worker with
  | .finishing request result =>
    match (port.channel request).send EVENT_CAPACITY (.finished result) with
    | none => none
    | some (delivered, channel) =>
      some ({ port with
        worker :=
          if result.isOk && delivered then .waiting else .leaving }.setChannel request
            channel.dropSender)
  | _ => none

/-- The requests that still wait are lost. -/
def leave (port : Port S A) : Option (Port S A) :=
  match port.worker with
  | .leaving =>
    some { port with
      worker := .gone
      commands := []
      channels := fun sequence =>
        if port.commands.any (·.asksFor sequence) then (port.channels sequence).dropSender
        else port.channels sequence }
  | _ => none

def drop (port : Port S A) : Option (Port S A) :=
  match port.caller, port.worker with
  | .ready (.finished value), .gone => some { port with caller := .dropped value }
  | .ready (.finished value), _ =>
    some { port with caller := .dropped value, commands := port.commands ++ [.shutdown] }
  | _, _ => none

def step (codec : Codec) (sinks : Sinks S) (move : Move) (port : Port S A) : Option (Port S A) :=
  match move with
  | .start operationId enrollmentEpoch => port.start codec operationId enrollmentEpoch
  | .receive => port.receive sinks
  | .take status => port.take status
  | .turn late answer => port.turn codec late answer
  | .deliver => port.deliver
  | .finish => port.finish
  | .leave => port.leave
  | .drop => port.drop

end Port

end Threadbook.PhotoKit
