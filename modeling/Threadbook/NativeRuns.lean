import Threadbook.NativePort

/-!
# Runs of the native port

If each move of a run is `Orderly`, the port stays usable (**`usable_of_run`**): the worker is
there for the next call, and each call that has returned was either refused by its own checks, or
was sent to the bridge and returned what its own frames say. A move is not orderly if a request
ends badly at the worker, or if a call gives up its request before the worker is done with it.
-/

namespace Threadbook.PhotoKit

open Threadbook List

variable {S A : Type}

/-! ## What a run is held to -/

inductive Led : Program S A → List (CallRecord S) → Program S A → Prop
  | none {program : Program S A} : Led program [] program
  | more {program : Program S A} {records : List (CallRecord S)} (record : CallRecord S)
      {next : Except PhotoKitNativeError Answer → S → Program S A}
      (before : Led program records (.call record.call record.sink next)) :
      Led program (records ++ [record]) (next record.result record.sinkAfter)

namespace Port

def program (port : Port S A) : Program S A :=
  match port.caller with
  | .ready program => program
  | .receiving call sink _ _ _ next => .call call sink next
  | .dropped value => .finished value

def awaited (port : Port S A) : Option WorkerRequest :=
  match port.caller with
  | .receiving _ _ request _ _ _ => some request
  | _ => none

def isDropped (port : Port S A) : Bool :=
  match port.caller with
  | .dropped _ => true
  | _ => false

def events (request : WorkerRequest) (port : Port S A) : List NativeEvent :=
  (port.pumped request.identity.requestSequence).map Prod.snd

def isAttentive (sinks : Sinks S) (port : Port S A) : Bool :=
  match port.caller with
  | .receiving _ _ request consumer sinkNow _ =>
    match (port.channel request).buffer with
    | .event event :: _ =>
      (consumer.consume sinks event sinkNow).1.isOk || !(port.channel request).sender
    | _ => true
  | _ => true

def isAnswered (codec : Codec) (late : Bool) (answer : NextAnswer) (port : Port S A) : Bool :=
  match port.worker with
  | .pumping request nextChunkIndex =>
    (OwnedHandle.pump codec request nextChunkIndex late port.nextFrameSequence answer).1.isOk
  | _ => true

def isOrderly (codec : Codec) (sinks : Sinks S) (port : Port S A) : Move → Bool
  | .start _ _ => port.nextRequestSequence + 1 < u64Limit
  | .receive => port.isAttentive sinks
  | .take status => status = STATUS_OK
  | .turn late answer => port.isAnswered codec late answer
  | .deliver | .finish | .leave | .drop => true

def Moves (codec : Codec) (sinks : Sinks S) (port port' : Port S A) : Prop :=
  ∃ move, port.isOrderly codec sinks move ∧ port.step codec sinks move = some port'

end Port

def Call.Requests (codec : Codec) (call : Call)
    (request : Except PhotoKitNativeError WorkerRequest) : Prop :=
  ∃ operationId enrollmentEpoch requestSequence, requestSequence + 1 < u64Limit ∧
    (call.prepare codec operationId enrollmentEpoch requestSequence).1 = request

/-- **An answered call**: its own checks refused it, or the bridge was sent its request, and it
returned what frames of its own say. -/
def CallRecord.Fair (codec : Codec) (sinks : Sinks S) (port : Port S A)
    (record : CallRecord S) : Prop :=
  record.call.Requests codec record.request ∧
  match record.request with
  | .error e => record.result = .error e ∧ record.sinkAfter = record.sink
  | .ok request =>
    request ∈ port.sent ∧
    (∀ pumped ∈ port.pumped request.identity.requestSequence,
      OwnFrame codec pumped.1.kind pumped.1.bytes request.identity) ∧
    record.call.answer sinks (port.events request) record.sink = (record.result, record.sinkAfter)

/-- **A usable port**: the worker is there until the port is given up, a request that is waited for
is with it or the next it takes, and every call so far was answered. -/
structure Port.Usable (codec : Codec) (sinks : Sinks S) (program : Program S A)
    (port : Port S A) : Prop where
  alive : port.isDropped = false → port.worker ≠ .leaving ∧ port.worker ≠ .gone
  awaited : ∀ request, port.awaited = some request →
    request ∈ port.sent ∨ port.worker = .waiting ∧ port.commands = [.request request]
  led : Led program port.history port.program
  fair : ∀ record ∈ port.history, record.Fair codec sinks port

/-! ## The invariant -/

section Prepare

variable {codec : Codec} {call : Call} {operationId enrollmentEpoch : Uuid} {sequence next : ℕ}
  {request : WorkerRequest}

theorem Call.identity_sequence {identity : RequestIdentity}
    (h : call.identity codec operationId enrollmentEpoch sequence = .ok identity) :
    identity.requestSequence = sequence := by
  have hoperation : ∀ operation : OperationScope,
      RequestIdentity.forOperation codec operation sequence = .ok identity →
      identity.requestSequence = sequence := by
    intro operation hidentity
    obtain ⟨operationId, -, hidentity⟩ := check_bind_eq_ok.mp hidentity
    obtain ⟨enrollmentEpoch, -, hidentity⟩ := check_bind_eq_ok.mp hidentity
    rw [check_unless_eq_ok] at hidentity
    obtain rfl := Except.ok.inj hidentity.2
    rfl
  cases call with
  | authorization _ | listRegularAlbums =>
    cases h
    rfl
  | enumerateRegularAlbum _ operation | transferResource operation _ _ => exact hoperation _ h

theorem Call.prepare_ok
    (h : call.prepare codec operationId enrollmentEpoch sequence = (.ok request, next)) :
    request.identity.requestSequence = sequence ∧ next = sequence + 1 := by
  unfold Call.prepare nextSequence at h
  split at h
  · cases h
  · by_cases hroom : sequence + 1 < u64Limit
    · simp only [hroom, if_true, Prod.mk.injEq] at h
      obtain ⟨hrequest, rfl⟩ := h
      obtain ⟨identity, hidentity, hrequest⟩ := check_bind_eq_ok.mp hrequest
      obtain ⟨bytes, -, hrequest⟩ := check_bind_eq_ok.mp hrequest
      cases hrequest
      exact ⟨Call.identity_sequence hidentity, rfl⟩
    · simp [hroom] at h

theorem Call.prepare_le {prepared : Except PhotoKitNativeError WorkerRequest}
    (h : call.prepare codec operationId enrollmentEpoch sequence = (prepared, next)) :
    sequence ≤ next := by
  unfold Call.prepare nextSequence at h
  split at h
  · exact (Prod.mk.inj h).2.le
  · by_cases hroom : sequence + 1 < u64Limit
    · simp only [hroom, if_true, Prod.mk.injEq] at h
      omega
    · simp only [hroom, if_false, Prod.mk.injEq] at h
      exact h.2.le

theorem Call.Requests.bytes (h : call.Requests codec (.ok request)) :
    ¬ (request.bytes.isEmpty ∨ request.bytes.length > MAX_CONTROL_BYTES) := by
  obtain ⟨operationId, enrollmentEpoch, sequence, hroom, hprepare⟩ := h
  unfold Call.prepare nextSequence at hprepare
  split at hprepare
  · cases hprepare
  · simp only [hroom, if_true] at hprepare
    obtain ⟨identity, -, hprepare⟩ := check_bind_eq_ok.mp hprepare
    obtain ⟨bytes, hbytes, hprepare⟩ := check_bind_eq_ok.mp hprepare
    cases hprepare
    obtain ⟨object, -, hbytes⟩ := check_bind_eq_ok.mp hbytes
    split at hbytes
    · cases hbytes
    · rw [check_unless_eq_ok] at hbytes
      obtain ⟨hlength, hbytes⟩ := hbytes
      cases hbytes
      exact hlength

end Prepare

/-- What of its events a request has still to hand over to the caller, and where they are. -/
inductive Stage (request : WorkerRequest) (port : Port S A) : List NativeEvent → Prop
  | queued (hworker : port.worker = .waiting) (hcommands : port.commands = [.request request])
      (hchannel : port.channel request = .opened)
      (hevents : port.events request = []) : Stage request port []
  | pumping {nextChunkIndex : ℕ} {remaining : List NativeEvent}
      (hworker : port.worker = .pumping request nextChunkIndex) (hcommands : port.commands = [])
      (hsent : request ∈ port.sent)
      (hchannel : port.channel request = ⟨remaining.map .event, true, true⟩) :
      Stage request port remaining
  | delivering {nextChunkIndex : ℕ} {before : List NativeEvent} {event : NativeEvent}
      (hworker : port.worker = .delivering request nextChunkIndex event)
      (hcommands : port.commands = []) (hsent : request ∈ port.sent)
      (hchannel : port.channel request = ⟨before.map .event, true, true⟩) :
      Stage request port (before ++ [event])
  | finishing {remaining : List NativeEvent}
      (hworker : port.worker = .finishing request (.ok ())) (hcommands : port.commands = [])
      (hsent : request ∈ port.sent)
      (hchannel : port.channel request = ⟨remaining.map .event, true, true⟩) :
      Stage request port remaining
  | ended {remaining : List NativeEvent} (hworker : port.worker = .waiting)
      (hcommands : port.commands = []) (hsent : request ∈ port.sent)
      (hchannel : port.channel request =
        ⟨remaining.map .event ++ [.finished (.ok ())], false, true⟩) :
      Stage request port remaining

structure Underway (codec : Codec) (sinks : Sinks S) (call : Call) (sink : S)
    (request : WorkerRequest) (consumer : Consumer) (sinkNow : S) (port : Port S A) : Prop where
  requests : call.Requests codec (.ok request)
  own : ∀ pumped ∈ port.pumped request.identity.requestSequence,
    OwnFrame codec pumped.1.kind pumped.1.bytes request.identity
  received : ∃ consumed remaining, port.events request = consumed ++ remaining ∧
    Consumer.receiveAll sinks consumed call.consumer sink = (.ok consumer, sinkNow) ∧
    Stage request port remaining

/-- Where the two threads are. -/
def Phase (codec : Codec) (sinks : Sinks S) (port : Port S A) : Prop :=
  match port.caller with
  | .ready _ => port.worker = .waiting ∧ port.commands = []
  | .receiving call sink request consumer sinkNow _ =>
    Underway codec sinks call sink request consumer sinkNow port
  | .dropped _ =>
    port.worker = .waiting ∧ port.commands = [.shutdown] ∨ port.worker = .leaving ∨
      port.worker = .gone

/-- The numbers below this one belong to requests that have ended. -/
def Port.bound (port : Port S A) : ℕ :=
  match port.awaited with
  | some request => request.identity.requestSequence
  | none => port.nextRequestSequence

/-- What holds in every state of an orderly run. -/
structure Served (codec : Codec) (sinks : Sinks S) (program : Program S A) (port : Port S A) :
    Prop where
  led : Led program port.history port.program
  fair : ∀ record ∈ port.history, record.Fair codec sinks port
  past : ∀ record ∈ port.history, ∀ request, record.request = .ok request →
    request.identity.requestSequence < port.bound
  numbered : ∀ request, port.awaited = some request →
    request.identity.requestSequence < port.nextRequestSequence
  fresh : ∀ sequence, port.nextRequestSequence ≤ sequence → port.pumped sequence = []
  phase : Phase codec sinks port

/-! ## Moves -/

@[simp] theorem Port.channel_setChannel (request : WorkerRequest) (channel : Channel WorkerMessage)
    (port : Port S A) : (port.setChannel request channel).channel request = channel := by
  simp [Port.channel, Port.setChannel]

theorem Consumer.receiveAll_append {sinks : Sinks S} {consumed rest : List NativeEvent}
    {consumer consumer' : Consumer} {s s' : S}
    (h : Consumer.receiveAll sinks consumed consumer s = (.ok consumer', s')) :
    Consumer.receiveAll sinks (consumed ++ rest) consumer s =
      Consumer.receiveAll sinks rest consumer' s' := by
  induction consumed generalizing consumer s with
  | nil =>
    obtain ⟨hconsumer, rfl⟩ := Prod.mk.inj h
    cases hconsumer
    rfl
  | cons event consumed ih =>
    simp only [Consumer.receiveAll, cons_append] at h ⊢
    split at h
    · cases h
    · exact ih h

variable {codec : Codec} {sinks : Sinks S} {program : Program S A} {port port' : Port S A}

theorem CallRecord.Fair.keep {record : CallRecord S} (h : record.Fair codec sinks port)
    (hsent : ∀ request ∈ port.sent, request ∈ port'.sent)
    (hpumped : ∀ request, record.request = .ok request →
      port'.pumped request.identity.requestSequence =
        port.pumped request.identity.requestSequence) :
    record.Fair codec sinks port' := by
  obtain ⟨hrequests, h⟩ := h
  refine ⟨hrequests, ?_⟩
  cases hrequest : record.request with
  | error e => simpa only [hrequest] using h
  | ok request =>
    simp only [hrequest] at h ⊢
    obtain ⟨hmem, hown, hanswer⟩ := h
    rw [Port.events, hpumped request hrequest]
    exact ⟨hsent request hmem, hown, hanswer⟩

theorem Served.keep (h : Served codec sinks program port) (hcaller : port'.caller = port.caller)
    (hhistory : port'.history = port.history)
    (hnext : port'.nextRequestSequence = port.nextRequestSequence)
    (hpumped : ∀ sequence, sequence < port.bound ∨ port.nextRequestSequence ≤ sequence →
      port'.pumped sequence = port.pumped sequence)
    (hsent : ∀ request ∈ port.sent, request ∈ port'.sent)
    (hphase : Phase codec sinks port') : Served codec sinks program port' := by
  have hawaited : port'.awaited = port.awaited := by rw [Port.awaited, Port.awaited, hcaller]
  have hbound : port'.bound = port.bound := by rw [Port.bound, Port.bound, hawaited, hnext]
  refine ⟨?_, ?_, ?_, ?_, ?_, hphase⟩
  · rw [hhistory, Port.program, hcaller]
    exact h.led
  · intro record hrecord
    rw [hhistory] at hrecord
    refine (h.fair record hrecord).keep hsent fun request hrequest => hpumped _ (.inl ?_)
    exact h.past record hrecord request hrequest
  · rw [hhistory, hbound]
    exact h.past
  · rw [hawaited, hnext]
    exact h.numbered
  · intro sequence hsequence
    rw [hnext] at hsequence
    rw [hpumped sequence (.inr hsequence)]
    exact h.fresh sequence hsequence

variable {request : WorkerRequest} {remaining : List NativeEvent} {channel : Channel WorkerMessage}
  {event : NativeEvent}

theorem Stage.done (h : Stage request port remaining)
    (hsender : (port.channel request).sender = false) :
    port.worker = .waiting ∧ port.commands = [] ∧ request ∈ port.sent := by
  cases h with
  | queued _ _ hchannel | pumping _ _ _ hchannel | delivering _ _ _ hchannel
  | finishing _ _ _ hchannel =>
    rw [hchannel] at hsender
    cases hsender
  | ended hworker hcommands hsent _ => exact ⟨hworker, hcommands, hsent⟩

theorem Channel.recv_event {channel' : Channel WorkerMessage}
    (h : channel.recv = some (some (.event event), channel')) (events : List NativeEvent)
    (ending : List WorkerMessage) (hending : ∀ event, .event event ∉ ending)
    (hbuffer : channel.buffer = events.map .event ++ ending) :
    ∃ rest, events = event :: rest ∧
      channel' = { channel with buffer := rest.map .event ++ ending } := by
  simp only [Channel.recv, hbuffer] at h
  cases events with
  | nil =>
    cases ending with
    | nil => simp at h
    | cons message ending =>
      simp only [map_nil, nil_append, Option.some.injEq, Prod.mk.injEq] at h
      obtain ⟨rfl, -⟩ := h
      exact absurd (.head _) (hending event)
  | cons next rest =>
    simp only [map_cons, cons_append, Option.some.injEq, Prod.mk.injEq,
      WorkerMessage.event.injEq] at h
    obtain ⟨rfl, rfl⟩ := h
    exact ⟨rest, rfl, rfl⟩

theorem Stage.recv_event (h : Stage request port remaining)
    (hrecv : (port.channel request).recv = some (some (.event event), channel)) :
    ∃ rest, remaining = event :: rest ∧
      ∀ port' : Port S A, port'.worker = port.worker → port'.commands = port.commands →
        port'.sent = port.sent → port'.channel request = channel → Stage request port' rest := by
  cases h with
  | queued _ _ hchannel _ =>
    rw [hchannel] at hrecv
    simp [Channel.recv] at hrecv
  | pumping hworker hcommands hsent hchannel =>
    obtain ⟨rest, rfl, rfl⟩ := Channel.recv_event hrecv remaining [] (by simp) (by simp [hchannel])
    exact ⟨rest, rfl, fun port' hw hc hs hchannel' =>
      .pumping (hw ▸ hworker) (hc ▸ hcommands) (hs ▸ hsent) (by simp [hchannel', hchannel])⟩
  | @delivering _ before last hworker hcommands hsent hchannel =>
    obtain ⟨rest, rfl, rfl⟩ := Channel.recv_event hrecv before [] (by simp) (by simp [hchannel])
    exact ⟨rest ++ [last], rfl, fun port' hw hc hs hchannel' =>
      .delivering (hw ▸ hworker) (hc ▸ hcommands) (hs ▸ hsent) (by simp [hchannel', hchannel])⟩
  | finishing hworker hcommands hsent hchannel =>
    obtain ⟨rest, rfl, rfl⟩ := Channel.recv_event hrecv remaining [] (by simp) (by simp [hchannel])
    exact ⟨rest, rfl, fun port' hw hc hs hchannel' =>
      .finishing (hw ▸ hworker) (hc ▸ hcommands) (hs ▸ hsent) (by simp [hchannel', hchannel])⟩
  | ended hworker hcommands hsent hchannel =>
    obtain ⟨rest, rfl, rfl⟩ := Channel.recv_event hrecv remaining [.finished (.ok ())] (by simp)
      (by simp [hchannel])
    exact ⟨rest, rfl, fun port' hw hc hs hchannel' =>
      .ended (hw ▸ hworker) (hc ▸ hcommands) (hs ▸ hsent) (by simp [hchannel', hchannel])⟩

variable {nextChunkIndex : ℕ} {result : Except PhotoKitNativeError Unit}

theorem Stage.recv_finished (h : Stage request port remaining)
    (hrecv : (port.channel request).recv = some (some (.finished result), channel)) :
    result = .ok () ∧ remaining = [] ∧ (port.channel request).sender = false := by
  cases h with
  | queued _ _ hchannel _ =>
    rw [hchannel] at hrecv
    simp [Channel.recv] at hrecv
  | pumping _ _ _ hchannel | finishing _ _ _ hchannel =>
    rw [hchannel] at hrecv
    rcases remaining with _ | ⟨next, rest⟩ <;> simp [Channel.recv] at hrecv
  | @delivering _ before last _ _ _ hchannel =>
    rw [hchannel] at hrecv
    rcases before with _ | ⟨next, rest⟩ <;> simp [Channel.recv] at hrecv
  | ended _ _ _ hchannel =>
    rw [hchannel] at hrecv ⊢
    rcases remaining with _ | ⟨next, rest⟩
    · simp only [Channel.recv, map_nil, nil_append, Option.some.injEq, Prod.mk.injEq,
        WorkerMessage.finished.injEq] at hrecv
      exact ⟨hrecv.1.symm, rfl, rfl⟩
    · simp [Channel.recv] at hrecv

theorem Stage.recv_some (h : Stage request port remaining) :
    (port.channel request).recv ≠ some (none, channel) := by
  intro hrecv
  obtain ⟨_, hmessage, -⟩ | ⟨-, hbuffer, hsender, -⟩ := Channel.recv_eq_some hrecv
  · cases hmessage
  · cases h with
    | queued _ _ hchannel | pumping _ _ _ hchannel | delivering _ _ _ hchannel
    | finishing _ _ _ hchannel =>
      rw [hchannel] at hsender
      cases hsender
    | ended _ _ _ hchannel =>
      rw [hchannel] at hbuffer
      simp at hbuffer

section

variable (h : Served codec sinks program port)

include h

theorem Served.answered {call : Call} {sink sinkNow : S} {consumer : Consumer}
    {next : Except PhotoKitNativeError Answer → S → Program S A}
    (hcaller : port.caller = .receiving call sink request consumer sinkNow next)
    (channel : Channel WorkerMessage) {result : Except PhotoKitNativeError Answer} {sinkAfter : S}
    (hdone : (port.channel request).sender = false)
    (hanswer : call.answer sinks (port.events request) sink = (result, sinkAfter)) :
    Served codec sinks program ((port.setChannel request channel).answered
      ⟨call, sink, .ok request, result, sinkAfter⟩ next) := by
  have hphase := h.phase
  simp only [Phase, hcaller] at hphase
  obtain ⟨hrequests, hown, consumed, remaining, -, -, hstage⟩ := hphase
  obtain ⟨hworker, hcommands, hsent⟩ := hstage.done hdone
  have hawaited : port.awaited = some request := by rw [Port.awaited, hcaller]
  have hbound : port.bound = request.identity.requestSequence := by rw [Port.bound, hawaited]
  have hnumbered := h.numbered request hawaited
  have hled := h.led
  rw [Port.program, hcaller] at hled
  refine ⟨.more _ hled, ?_, ?_, ?_, h.fresh, ⟨hworker, hcommands⟩⟩
  · intro record hrecord
    obtain hrecord | hrecord := mem_append.mp hrecord
    · exact h.fair record hrecord
    · obtain rfl := mem_singleton.mp hrecord
      exact ⟨hrequests, hsent, hown, hanswer⟩
  · intro record hrecord request' hrequest'
    show _ < port.nextRequestSequence
    obtain hrecord | hrecord := mem_append.mp hrecord
    · have := h.past record hrecord request' hrequest'
      omega
    · obtain rfl := mem_singleton.mp hrecord
      cases hrequest'
      exact hnumbered
  · intro request' hrequest'
    cases hrequest'

theorem Served.start {operationId enrollmentEpoch : Uuid}
    (hroom : port.nextRequestSequence + 1 < u64Limit)
    (hstep : port.start codec operationId enrollmentEpoch = some port') :
    Served codec sinks program port' := by
  unfold Port.start at hstep
  split at hstep
  case h_2 => cases hstep
  rename_i call sink next hcaller
  have hphase := h.phase
  simp only [Phase, hcaller] at hphase
  have hled := h.led
  rw [Port.program, hcaller] at hled
  have hbound : port.bound = port.nextRequestSequence := by
    rw [Port.bound, Port.awaited, hcaller]
  split at hstep
  · rename_i e sequence hprepare
    have hle := Call.prepare_le hprepare
    cases hstep
    refine ⟨.more ⟨call, sink, .error e, .error e, sink⟩ hled, ?_, ?_, ?_, ?_, hphase⟩
    · intro record hrecord
      obtain hrecord | hrecord := mem_append.mp hrecord
      · exact h.fair record hrecord
      · obtain rfl := mem_singleton.mp hrecord
        exact ⟨⟨_, _, _, hroom, congrArg Prod.fst hprepare⟩, rfl, rfl⟩
    · intro record hrecord request hrequest
      show _ < sequence
      obtain hrecord | hrecord := mem_append.mp hrecord
      · have := h.past record hrecord request hrequest
        omega
      · obtain rfl := mem_singleton.mp hrecord
        cases hrequest
    · intro request hrequest
      cases hrequest
    · intro n hn
      exact h.fresh n (hle.trans hn)
  · rename_i request sequence hprepare
    obtain ⟨hsequence, rfl⟩ := Call.prepare_ok hprepare
    rw [hphase.1] at hstep
    cases hstep
    have hfresh : port.pumped request.identity.requestSequence = [] :=
      h.fresh _ hsequence.ge
    refine ⟨hled, h.fair, ?_, ?_, ?_, ?_, ?_, [], [], ?_, rfl, ?_⟩
    · intro record hrecord request' hrequest'
      have := h.past record hrecord request' hrequest'
      show _ < request.identity.requestSequence
      omega
    · intro request' hrequest'
      cases hrequest'
      show _ < port.nextRequestSequence + 1
      omega
    · intro n hn
      exact h.fresh n (by simp only [Port.setChannel] at hn; omega)
    · exact ⟨_, _, _, hroom, congrArg Prod.fst hprepare⟩
    · intro pumped hpumped
      simp only [Port.setChannel, hfresh, not_mem_nil] at hpumped
    · simp [Port.events, Port.setChannel, hfresh]
    · refine .queued rfl ?_ (Port.channel_setChannel ..) ?_
      · simp [Port.setChannel, hphase.2]
      · simp [Port.events, Port.setChannel, hfresh]

theorem Served.receive (hattentive : port.isAttentive sinks)
    (hstep : port.receive sinks = some port') : Served codec sinks program port' := by
  unfold Port.receive at hstep
  split at hstep
  case h_2 => cases hstep
  rename_i call sink request consumer sinkNow next hcaller
  have hphase := h.phase
  simp only [Phase, hcaller] at hphase
  simp only [Port.isAttentive, hcaller] at hattentive
  obtain ⟨hrequests, hown, consumed, remaining, hevents, hreceived, hstage⟩ := hphase
  split at hstep
  · cases hstep
  · rename_i channel hrecv
    exact absurd hrecv hstage.recv_some
  · -- the request has ended, and its events are all consumed
    rename_i result channel hrecv
    obtain ⟨rfl, rfl, hdone⟩ := hstage.recv_finished hrecv
    cases hstep
    refine h.answered hcaller _ hdone ?_
    rw [hevents, append_nil, Call.answer, hreceived]
    rfl
  · rename_i event channel hrecv
    obtain ⟨rest, rfl, hkeep⟩ := hstage.recv_event hrecv
    split at hstep
    · -- the event is refused; the worker must be done with the request
      rename_i e sinkAfter hconsume
      cases hstep
      obtain ⟨message, hmessage, hbuffer, -⟩ | ⟨hnone, -⟩ := Channel.recv_eq_some hrecv
      · cases hmessage
        rw [hbuffer] at hattentive
        obtain hok | hdone := Bool.or_eq_true_iff.mp hattentive
        · rw [hconsume] at hok
          cases hok
        · rw [Bool.not_eq_true'] at hdone
          refine h.answered hcaller _ hdone ?_
          rw [hevents, Call.answer, Consumer.receiveAll_append hreceived, Consumer.receiveAll,
            hconsume]
      · cases hnone
    · rename_i consumer' sinkAfter hconsume
      cases hstep
      refine ⟨?_, h.fair, ?_, ?_, h.fresh, hrequests, hown, consumed ++ [event], rest, ?_, ?_, ?_⟩
      · have hled := h.led
        rw [Port.program, hcaller] at hled
        exact hled
      · have hpast := h.past
        rw [Port.bound, Port.awaited, hcaller] at hpast
        exact hpast
      · have hnumbered := h.numbered
        rw [Port.awaited, hcaller] at hnumbered
        exact hnumbered
      · rw [append_assoc]
        exact hevents
      · rw [Consumer.receiveAll_append hreceived, Consumer.receiveAll, hconsume]
        rfl
      · exact hkeep _ rfl rfl rfl (Port.channel_setChannel ..)

theorem Served.worker_cases :
    (port.worker = .waiting ∧ port.commands = [] ∧ ∃ program, port.caller = .ready program) ∨
    (∃ call sink request consumer sinkNow next consumed remaining,
      port.caller = .receiving call sink request consumer sinkNow next ∧
      port.awaited = some request ∧ port.events request = consumed ++ remaining ∧
      Stage request port remaining) ∨
    (∃ value, port.caller = .dropped value ∧
      (port.worker = .waiting ∧ port.commands = [.shutdown] ∨ port.worker = .leaving ∨
        port.worker = .gone)) := by
  have hphase := h.phase
  unfold Phase at hphase
  split at hphase
  · rename_i program hcaller
    exact .inl ⟨hphase.1, hphase.2, program, hcaller⟩
  · rename_i call sink request consumer sinkNow next hcaller
    obtain ⟨-, -, consumed, remaining, hevents, -, hstage⟩ := hphase
    refine .inr (.inl ⟨call, sink, request, consumer, sinkNow, next, consumed, remaining,
      hcaller, ?_, hevents, hstage⟩)
    rw [Port.awaited, hcaller]
  · rename_i value hcaller
    exact .inr (.inr ⟨value, hcaller, hphase⟩)

end

section Busy

variable {request awaited : WorkerRequest} {remaining : List NativeEvent}

theorem Served.busy (h : Served codec sinks program port) (hwaiting : port.worker ≠ .waiting)
    (hleaving : port.worker ≠ .leaving) (hgone : port.worker ≠ .gone) :
    ∃ request remaining, port.awaited = some request ∧ Stage request port remaining := by
  obtain ⟨hworker, -⟩ |
    ⟨call, sink, request, consumer, sinkNow, next, consumed, remaining, -, hawaited, -,
      hstage⟩ | ⟨value, -, ⟨hworker, -⟩ | hworker | hworker⟩ := h.worker_cases
  · exact absurd hworker hwaiting
  · exact ⟨request, remaining, hawaited, hstage⟩
  · exact absurd hworker hwaiting
  · exact absurd hworker hleaving
  · exact absurd hworker hgone

section

variable (h : Stage awaited port remaining)

include h

theorem Stage.of_pumping (hpumping : port.worker = .pumping request nextChunkIndex) :
    request = awaited ∧ port.commands = [] ∧ awaited ∈ port.sent ∧
      port.channel awaited = ⟨remaining.map .event, true, true⟩ := by
  cases h with
  | pumping hworker hcommands hsent hchannel =>
    obtain ⟨rfl, -⟩ := Worker.pumping.inj (hworker.symm.trans hpumping)
    exact ⟨rfl, hcommands, hsent, hchannel⟩
  | queued hworker | delivering hworker | finishing hworker | ended hworker =>
    cases hworker.symm.trans hpumping

theorem Stage.of_delivering {event : NativeEvent}
    (hdelivering : port.worker = .delivering request nextChunkIndex event) :
    request = awaited ∧ port.commands = [] ∧ awaited ∈ port.sent ∧
      ∃ before, remaining = before ++ [event] ∧
        port.channel awaited = ⟨before.map .event, true, true⟩ := by
  cases h with
  | delivering hworker hcommands hsent hchannel =>
    obtain ⟨rfl, -, rfl⟩ := Worker.delivering.inj (hworker.symm.trans hdelivering)
    exact ⟨rfl, hcommands, hsent, _, rfl, hchannel⟩
  | queued hworker | pumping hworker | finishing hworker | ended hworker =>
    cases hworker.symm.trans hdelivering

theorem Stage.of_finishing (hfinishing : port.worker = .finishing request result) :
    request = awaited ∧ result = .ok () ∧ port.commands = [] ∧ awaited ∈ port.sent ∧
      port.channel awaited = ⟨remaining.map .event, true, true⟩ := by
  cases h with
  | finishing hworker hcommands hsent hchannel =>
    obtain ⟨rfl, rfl⟩ := Worker.finishing.inj (hworker.symm.trans hfinishing)
    exact ⟨rfl, rfl, hcommands, hsent, hchannel⟩
  | queued hworker | pumping hworker | delivering hworker | ended hworker =>
    cases hworker.symm.trans hfinishing

theorem Stage.stays : port.worker ≠ .leaving ∧ port.worker ≠ .gone := by
  cases h with
  | queued hworker | pumping hworker | delivering hworker | finishing hworker | ended hworker =>
    simp [hworker]

end

end Busy

theorem Served.goOn (h : Served codec sinks program port) (hawaited : port.awaited = some request)
    (hcaller : port'.caller = port.caller) (hhistory : port'.history = port.history)
    (hnext : port'.nextRequestSequence = port.nextRequestSequence)
    (hsent : ∀ request ∈ port.sent, request ∈ port'.sent) (more : List (NativeFrame × NativeEvent))
    (hpumped : port'.pumped = Function.update port.pumped request.identity.requestSequence
      (port.pumped request.identity.requestSequence ++ more))
    (hown : ∀ pumped ∈ more, OwnFrame codec pumped.1.kind pumped.1.bytes request.identity)
    (hstage : ∀ remaining, Stage request port remaining →
      Stage request port' (remaining ++ more.map Prod.snd)) : Served codec sinks program port' := by
  have hself : port'.pumped request.identity.requestSequence =
      port.pumped request.identity.requestSequence ++ more := by rw [hpumped, Function.update_self]
  have hbound : port.bound = request.identity.requestSequence := by rw [Port.bound, hawaited]
  have hnumbered := h.numbered request hawaited
  refine h.keep hcaller hhistory hnext ?_ hsent ?_
  · intro sequence hsequence
    rw [hpumped, Function.update_of_ne (by omega)]
  · have hphase := h.phase
    unfold Phase at hphase ⊢
    rw [hcaller]
    split at hphase
    · rename_i hready
      rw [Port.awaited, hready] at hawaited
      cases hawaited
    · rename_i call sink request' consumer sinkNow next hreceiving
      rw [Port.awaited, hreceiving] at hawaited
      cases hawaited
      obtain ⟨hrequests, hold, consumed, remaining, hevents, hreceived, hin⟩ := hphase
      refine ⟨hrequests, ?_, consumed, remaining ++ more.map Prod.snd, ?_, hreceived,
        hstage remaining hin⟩
      · intro pumped hpumped
        rw [hself] at hpumped
        exact (mem_append.mp hpumped).elim (hold pumped) (hown pumped)
      · rw [Port.events, hself, map_append, ← append_assoc, ← hevents]
        rfl
    · rename_i hdropped
      rw [Port.awaited, hdropped] at hawaited
      cases hawaited

theorem Served.take (h : Served codec sinks program port)
    (hstep : port.take STATUS_OK = some port') : Served codec sinks program port' := by
  obtain ⟨hworker, hcommands, -⟩ |
    ⟨call, sink, request, consumer, sinkNow, next, consumed, remaining, hcaller, hawaited, -,
      hstage⟩ | ⟨value, hcaller, hgivenUp⟩ := h.worker_cases
  · simp [Port.take, hworker, hcommands] at hstep
  · have hrequests : call.Requests codec (.ok request) := by
      have hphase := h.phase
      simp only [Phase, hcaller] at hphase
      exact hphase.requests
    cases hstage with
    | queued hworker hcommands hchannel hevents =>
      simp only [Port.take, hworker, hcommands, if_neg hrequests.bytes, if_true] at hstep
      cases hstep
      refine h.goOn hawaited rfl rfl rfl (fun _ => mem_append_left _) [] ?_ (by simp) ?_
      · simp
      · intro remaining hin
        cases hin with
        | queued _ _ hchannel' _ =>
          exact .pumping rfl rfl (mem_append_right _ (mem_singleton_self _)) hchannel'
        | pumping hworker' | delivering hworker' | finishing hworker' =>
          rw [hworker] at hworker'
          cases hworker'
        | ended _ hcommands' =>
          rw [hcommands] at hcommands'
          cases hcommands'
    | pumping hworker | delivering hworker | finishing hworker =>
      simp [Port.take, hworker] at hstep
    | ended hworker hcommands => simp [Port.take, hworker, hcommands] at hstep
  · obtain ⟨hworker, hcommands⟩ | hworker | hworker := hgivenUp
    · simp only [Port.take, hworker, hcommands] at hstep
      cases hstep
      refine h.keep rfl rfl rfl (fun _ _ => rfl) (fun _ => id) ?_
      simp [Phase, hcaller]
    · simp [Port.take, hworker] at hstep
    · simp [Port.take, hworker] at hstep

theorem OwnedHandle.pump_own {sequence sequence' : ℕ} {late : Bool} {answer : NextAnswer}
    {frame : NativeFrame}
    (h : OwnedHandle.pump codec request nextChunkIndex late sequence answer =
      (.ok (some (frame, event)), sequence')) :
    OwnFrame codec frame.kind frame.bytes request.identity := by
  unfold OwnedHandle.pump at h
  split at h
  · cases h
  · split at h
    · cases h
    · cases h
    · split at h
      · cases h
      · rename_i hdecode
        split at h
        · cases h
        · obtain ⟨hpair, -⟩ := Prod.mk.inj h
          obtain ⟨rfl, rfl⟩ := Prod.mk.inj (Option.some.inj (Except.ok.inj hpair))
          exact decodeFrame_own hdecode

section

variable (h : Served codec sinks program port)

include h

theorem Served.turn {late : Bool} {answer : NextAnswer}
    (hanswers : port.isAnswered codec late answer)
    (hstep : port.turn codec late answer = some port') : Served codec sinks program port' := by
  unfold Port.turn at hstep
  split at hstep
  case h_2 => cases hstep
  rename_i request nextChunkIndex hpumping
  simp only [Port.isAnswered, hpumping] at hanswers
  obtain ⟨awaited, remaining, hawaited, hstage⟩ :=
    h.busy (by simp [hpumping]) (by simp [hpumping]) (by simp [hpumping])
  obtain ⟨rfl, -⟩ := hstage.of_pumping hpumping
  split at hstep
  · rename_i hpump
    rw [hpump] at hanswers
    cases hanswers
  · -- nothing has come yet
    cases hstep
    refine h.goOn hawaited rfl rfl rfl (fun _ => id) [] (by simp) (by simp) ?_
    intro remaining hin
    obtain ⟨-, hcommands, hsent, hchannel⟩ := hin.of_pumping hpumping
    rw [map_nil, append_nil]
    exact .pumping hpumping hcommands hsent hchannel
  · rename_i frame event sequence hpump
    cases hstep
    refine h.goOn hawaited rfl rfl rfl (fun _ => id) [(frame, event)] rfl ?_ ?_
    · intro pumped hmem
      obtain rfl := mem_singleton.mp hmem
      exact OwnedHandle.pump_own hpump
    · intro remaining hin
      obtain ⟨-, hcommands, hsent, hchannel⟩ := hin.of_pumping hpumping
      exact .delivering rfl hcommands hsent hchannel

theorem Served.deliver (hstep : port.deliver = some port') : Served codec sinks program port' := by
  unfold Port.deliver at hstep
  split at hstep
  case h_2 => cases hstep
  rename_i request nextChunkIndex event hdelivering
  obtain ⟨awaited, remaining, hawaited, hstage⟩ :=
    h.busy (by simp [hdelivering]) (by simp [hdelivering]) (by simp [hdelivering])
  obtain ⟨rfl, hcommands, hsent, before, -, hchannel⟩ := hstage.of_delivering hdelivering
  have hreceiver : (port.channel request).receiver = true := by rw [hchannel]
  split at hstep
  · cases hstep
  · rename_i channel hsend
    cases (Channel.send_eq_some hreceiver hsend).1
  · rename_i channel hsend
    obtain ⟨-, -, rfl⟩ := Channel.send_eq_some hreceiver hsend
    cases hstep
    refine h.goOn hawaited rfl rfl rfl (fun _ => id) [] (by simp [Port.setChannel]) (by simp) ?_
    intro remaining hin
    obtain ⟨-, -, -, before, rfl, hchannel⟩ := hin.of_delivering hdelivering
    rw [map_nil, append_nil]
    -- the last event goes with the end of the request behind it
    by_cases hterminal : event.isTerminal
    · refine .finishing (by simp [Port.setChannel, hterminal]) hcommands hsent ?_
      rw [Port.channel_setChannel, hchannel, map_append]
      rfl
    · refine .pumping (show _ = Worker.pumping request nextChunkIndex from if_neg hterminal)
        hcommands hsent ?_
      rw [Port.channel_setChannel, hchannel, map_append]
      rfl

theorem Served.finish (hstep : port.finish = some port') : Served codec sinks program port' := by
  unfold Port.finish at hstep
  split at hstep
  case h_2 => cases hstep
  rename_i request result hfinishing
  obtain ⟨awaited, remaining, hawaited, hstage⟩ :=
    h.busy (by simp [hfinishing]) (by simp [hfinishing]) (by simp [hfinishing])
  obtain ⟨rfl, rfl, hcommands, hsent, hchannel⟩ := hstage.of_finishing hfinishing
  have hreceiver : (port.channel request).receiver = true := by rw [hchannel]
  split at hstep
  · cases hstep
  · rename_i delivered channel hsend
    obtain ⟨rfl, -, rfl⟩ := Channel.send_eq_some hreceiver hsend
    cases hstep
    refine h.goOn hawaited rfl rfl rfl (fun _ => id) [] (by simp [Port.setChannel]) (by simp) ?_
    intro remaining hin
    obtain ⟨-, -, -, -, hchannel⟩ := hin.of_finishing hfinishing
    rw [map_nil, append_nil]
    refine .ended rfl hcommands hsent ?_
    rw [Port.channel_setChannel, hchannel]
    rfl

theorem Served.leave (hstep : port.leave = some port') : Served codec sinks program port' := by
  unfold Port.leave at hstep
  split at hstep
  case h_2 => cases hstep
  rename_i hleaving
  obtain ⟨hworker, -⟩ |
    ⟨call, sink, request, consumer, sinkNow, next, consumed, remaining, hcaller, hawaited, -,
      hstage⟩ | ⟨value, hcaller, -⟩ := h.worker_cases
  · rw [hleaving] at hworker
    cases hworker
  · exact absurd hleaving hstage.stays.1
  · cases hstep
    refine h.keep rfl rfl rfl (fun _ _ => rfl) (fun _ => id) ?_
    simp [Phase, hcaller]

theorem Served.drop (hstep : port.drop = some port') : Served codec sinks program port' := by
  unfold Port.drop at hstep
  obtain ⟨hworker, hcommands, program', hready⟩ |
    ⟨call, sink, request, consumer, sinkNow, next, consumed, remaining, hcaller, -⟩ |
    ⟨value, hcaller, -⟩ := h.worker_cases
  · rw [hready] at hstep
    cases program' with
    | call call sink next => simp at hstep
    | finished value =>
      simp only [hworker, hcommands] at hstep
      cases hstep
      have hled := h.led
      have hpast := h.past
      rw [Port.program, hready] at hled
      rw [Port.bound, Port.awaited, hready] at hpast
      exact ⟨hled, h.fair, hpast, fun _ hnone => (nomatch hnone), h.fresh, .inl ⟨rfl, rfl⟩⟩
  · rw [hcaller] at hstep
    simp at hstep
  · rw [hcaller] at hstep
    simp at hstep

/-- **Orderly moves** keep to the invariant. -/
theorem Served.step (hmoves : Port.Moves codec sinks port port') :
    Served codec sinks program port' := by
  obtain ⟨move, horderly, hstep⟩ := hmoves
  cases move with
  | start => exact h.start (of_decide_eq_true horderly) hstep
  | receive => exact h.receive horderly hstep
  | take status =>
    obtain rfl := of_decide_eq_true horderly
    exact h.take hstep
  | turn => exact h.turn horderly hstep
  | deliver => exact h.deliver hstep
  | finish => exact h.finish hstep
  | leave => exact h.leave hstep
  | drop => exact h.drop hstep

end

theorem served_new : Served codec sinks program (.new program) := by
  refine ⟨.none, ?_, ?_, ?_, fun _ _ => rfl, rfl, rfl⟩
  · simp [Port.new]
  · simp [Port.new]
  · intro request hrequest
    cases hrequest

theorem Served.usable (h : Served codec sinks program port) : port.Usable codec sinks program := by
  refine ⟨?_, ?_, h.led, h.fair⟩
  · intro hdropped
    obtain ⟨hworker, -⟩ |
      ⟨call, sink, request, consumer, sinkNow, next, consumed, remaining, hcaller, hawaited, -,
        hstage⟩ | ⟨value, hcaller, -⟩ := h.worker_cases
    · simp [hworker]
    · exact hstage.stays
    · rw [Port.isDropped, hcaller] at hdropped
      cases hdropped
  · intro request hrequest
    obtain ⟨-, -, program', hready⟩ |
      ⟨call, sink, request', consumer, sinkNow, next, consumed, remaining, -, hawaited, -,
        hstage⟩ | ⟨value, hdropped, -⟩ := h.worker_cases
    · rw [Port.awaited, hready] at hrequest
      cases hrequest
    · obtain rfl := Option.mem_unique hawaited hrequest
      cases hstage with
      | queued hworker hcommands => exact .inr ⟨hworker, hcommands⟩
      | pumping _ _ hsent | delivering _ _ hsent | finishing _ _ hsent | ended _ _ hsent =>
        exact .inl hsent
    · rw [Port.awaited, hdropped] at hrequest
      cases hrequest

theorem served_of_run (hrun : Relation.ReflTransGen (Port.Moves codec sinks) (.new program) port) :
    Served codec sinks program port := by
  induction hrun with
  | refl => exact served_new
  | tail _ hmoves ih => exact ih.step hmoves

/-- **A port on which each move is orderly stays usable.** -/
theorem usable_of_run (hrun : Relation.ReflTransGen (Port.Moves codec sinks) (.new program) port) :
    port.Usable codec sinks program :=
  (served_of_run hrun).usable

end Threadbook.PhotoKit
