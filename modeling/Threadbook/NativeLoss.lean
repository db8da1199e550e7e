import Threadbook.NativeRuns

/-!
# How the native port is lost

After a move that is not orderly the worker takes no other request (**`Served.lost`**), and nothing
is sent to the bridge any more (**`Port.Lost.run`**).
-/

namespace Threadbook.PhotoKit

open Threadbook

variable {S : Type}

def Port.Lost (port : Port S A) : Prop :=
  match port.worker with
  | .waiting => False
  | .leaving | .gone | .finishing _ (.error _) => True
  | .pumping request _ | .delivering request _ _ | .finishing request (.ok _) =>
    (port.channel request).receiver = false ∧
      request.identity.requestSequence < port.nextRequestSequence

section Lost

variable {A : Type} {codec : Codec} {sinks : Sinks S} {port port' : Port S A}

theorem Port.Lost.of_finishing {request : WorkerRequest} {e : PhotoKitNativeError}
    (h : port.worker = .finishing request (.error e)) : port.Lost := by
  simp [Port.Lost, h]

section

variable (h : port.Lost)

include h

theorem Port.Lost.keep (hworker : port'.worker = port.worker)
    (hnext : port.nextRequestSequence ≤ port'.nextRequestSequence)
    (hchannels : ∀ sequence < port.nextRequestSequence,
      (port.channels sequence).receiver = false → (port'.channels sequence).receiver = false) :
    port'.Lost := by
  unfold Port.Lost at h ⊢
  rw [hworker]
  split at h
  · exact h
  · trivial
  · trivial
  · trivial
  all_goals exact ⟨hchannels _ h.2 h.1, h.2.trans_le hnext⟩

theorem Port.Lost.setChannel (request : WorkerRequest) (channel : Channel WorkerMessage)
    (hchannel : (port.channel request).receiver = false → channel.receiver = false) :
    (port.setChannel request channel).Lost := by
  refine h.keep rfl le_rfl fun sequence _ hreceiver => ?_
  by_cases hsame : sequence = request.identity.requestSequence
  · subst hsame
    simpa only [Port.setChannel, Function.update_self] using hchannel hreceiver
  · simpa only [Port.setChannel, Function.update_of_ne hsame] using hreceiver

theorem Port.Lost.start {operationId enrollmentEpoch : Uuid}
    (hstep : port.start codec operationId enrollmentEpoch = some port') : port'.Lost := by
  unfold Port.start at hstep
  split at hstep
  case h_2 => cases hstep
  split at hstep
  · rename_i hprepare
    cases hstep
    exact h.keep rfl (Call.prepare_le hprepare) fun _ _ hreceiver => hreceiver
  · rename_i request sequence hprepare
    obtain ⟨hsequence, rfl⟩ := Call.prepare_ok hprepare
    split at hstep
    · cases hstep
      exact h.keep rfl (Nat.le_succ _) fun _ _ hreceiver => hreceiver
    · -- the channel of the new request is another than that of the request at hand
      cases hstep
      refine h.keep rfl (Nat.le_succ _) fun n hn hreceiver => ?_
      simpa only [Port.setChannel, Function.update_of_ne (show n ≠ request.identity.requestSequence by omega)] using hreceiver

theorem Port.Lost.receive (hstep : port.receive sinks = some port') : port'.Lost := by
  unfold Port.receive at hstep
  split at hstep
  case h_2 => cases hstep
  split at hstep
  · cases hstep
  · cases hstep
    exact h.setChannel _ _ fun _ => rfl
  · cases hstep
    exact h.setChannel _ _ fun _ => rfl
  · rename_i hrecv
    split at hstep
    · cases hstep
      exact h.setChannel _ _ fun _ => rfl
    · cases hstep
      have hlost : Port.Lost { port with caller := _ } := h
      refine hlost.setChannel _ _ fun hreceiver => ?_
      obtain ⟨_, -, -, -, hsame⟩ | ⟨hnone, -⟩ := Channel.recv_eq_some hrecv
      · exact hsame.trans hreceiver
      · cases hnone

theorem Port.Lost.turn {late : Bool} {answer : NextAnswer}
    (hstep : port.turn codec late answer = some port') : port'.Lost := by
  unfold Port.turn at hstep
  split at hstep
  case h_2 => cases hstep
  rename_i hpumping
  split at hstep
  · cases hstep
    exact .of_finishing rfl
  · cases hstep
    exact h.keep rfl le_rfl fun _ _ hreceiver => hreceiver
  · cases hstep
    simp only [Port.Lost, hpumping] at h
    exact h

theorem Port.Lost.deliver (hstep : port.deliver = some port') : port'.Lost := by
  unfold Port.deliver at hstep
  split at hstep
  case h_2 => cases hstep
  rename_i hdelivering
  simp only [Port.Lost, hdelivering] at h
  rw [Channel.send_dropped h.1] at hstep
  cases hstep
  exact .of_finishing rfl

theorem Port.Lost.finish (hstep : port.finish = some port') : port'.Lost := by
  unfold Port.finish at hstep
  split at hstep
  case h_2 => cases hstep
  rename_i request result hfinishing
  split at hstep
  · cases hstep
  · rename_i delivered channel hsend
    cases hstep
    have hleaving : (result.isOk && delivered) = false := by
      cases result with
      | error e => rfl
      | ok _ =>
        simp only [Port.Lost, hfinishing] at h
        rw [Channel.send_dropped h.1] at hsend
        obtain ⟨rfl, -⟩ := Prod.mk.inj (Option.some.inj hsend)
        rfl
    simp [Port.Lost, Port.setChannel, hleaving]

end

theorem Port.Lost.leave (hstep : port.leave = some port') : port'.Lost := by
  unfold Port.leave at hstep
  split at hstep
  case h_2 => cases hstep
  cases hstep
  trivial

theorem Port.Lost.drop (h : port.Lost) (hstep : port.drop = some port') : port'.Lost := by
  unfold Port.drop at hstep
  split at hstep
  · cases hstep
    exact h.keep rfl le_rfl fun _ _ hreceiver => hreceiver
  · cases hstep
    exact h.keep rfl le_rfl fun _ _ hreceiver => hreceiver
  · cases hstep

theorem Port.Lost.step (h : port.Lost) {move : Port.Move}
    (hstep : port.step codec sinks move = some port') :
    port'.Lost ∧ port'.sent = port.sent := by
  have hsent : ∀ more : Port S A, some more = some port' → more.sent = port.sent →
      port'.sent = port.sent := fun more hmore hsame => Option.some.inj hmore ▸ hsame
  cases move with
  | start =>
    refine ⟨h.start hstep, ?_⟩
    simp only [Port.step, Port.start] at hstep
    split at hstep
    · split at hstep
      · exact hsent _ hstep rfl
      · split at hstep <;> exact hsent _ hstep rfl
    · cases hstep
  | receive =>
    refine ⟨h.receive hstep, ?_⟩
    simp only [Port.step, Port.receive] at hstep
    split at hstep
    · split at hstep
      · cases hstep
      · exact hsent _ hstep rfl
      · exact hsent _ hstep rfl
      · split at hstep <;> exact hsent _ hstep rfl
    · cases hstep
  | take status =>
    -- the worker of a lost port takes nothing
    simp only [Port.step, Port.take] at hstep
    split at hstep
    · rename_i hworker _
      simp [Port.Lost, hworker] at h
    · rename_i hworker _
      simp [Port.Lost, hworker] at h
    · cases hstep
  | turn =>
    refine ⟨h.turn hstep, ?_⟩
    simp only [Port.step, Port.turn] at hstep
    split at hstep
    · split at hstep <;> exact hsent _ hstep rfl
    · cases hstep
  | deliver =>
    refine ⟨h.deliver hstep, ?_⟩
    simp only [Port.step, Port.deliver] at hstep
    split at hstep
    · split at hstep
      · cases hstep
      · exact hsent _ hstep rfl
      · exact hsent _ hstep rfl
    · cases hstep
  | finish =>
    refine ⟨h.finish hstep, ?_⟩
    simp only [Port.step, Port.finish] at hstep
    split at hstep
    · split at hstep
      · cases hstep
      · exact hsent _ hstep rfl
    · cases hstep
  | leave =>
    refine ⟨Port.Lost.leave hstep, ?_⟩
    simp only [Port.step, Port.leave] at hstep
    split at hstep
    · exact hsent _ hstep rfl
    · cases hstep
  | drop =>
    refine ⟨h.drop hstep, ?_⟩
    simp only [Port.step, Port.drop] at hstep
    split at hstep
    · exact hsent _ hstep rfl
    · exact hsent _ hstep rfl
    · cases hstep

/-- **A lost port** sends nothing to the bridge any more, whatever happens on it. -/
theorem Port.Lost.run (h : port.Lost)
    (hrun : Relation.ReflTransGen
      (fun before after : Port S A => ∃ move, before.step codec sinks move = some after) port
      port') : port'.Lost ∧ port'.sent = port.sent := by
  induction hrun with
  | refl => exact ⟨h, rfl⟩
  | tail _ hstep ih =>
    obtain ⟨move, hstep⟩ := hstep
    obtain ⟨hlost, hsent⟩ := ih.1.step hstep
    exact ⟨hlost, hsent.trans ih.2⟩

theorem Served.lost_of_receive {program : Program S A} (h : Served codec sinks program port)
    (hdisorder : port.isAttentive sinks = false) (hstep : port.receive sinks = some port') :
    port'.Lost := by
  unfold Port.isAttentive at hdisorder
  split at hdisorder
  case h_2 => cases hdisorder
  rename_i call sink request consumer sinkNow next hcaller
  split at hdisorder
  case h_2 => cases hdisorder
  rename_i event rest hbuffer
  obtain ⟨hrefused, hsender⟩ := Bool.or_eq_false_iff.mp hdisorder
  have hphase := h.phase
  simp only [Phase, hcaller] at hphase
  obtain ⟨-, -, consumed, remaining, -, -, hstage⟩ := hphase
  have hnumbered := h.numbered request (by rw [Port.awaited, hcaller])
  simp only [Port.receive, hcaller, Channel.recv, hbuffer] at hstep
  split at hstep
  · cases hstep
    have hlost : ((port.setChannel request (Channel.dropReceiver
        { port.channel request with buffer := rest })).channel request).receiver = false ∧
        request.identity.requestSequence < port.nextRequestSequence := by
      rw [Port.channel_setChannel]
      exact ⟨rfl, hnumbered⟩
    cases hstage with
    | queued _ _ hchannel =>
      rw [hchannel] at hbuffer
      cases hbuffer
    | pumping hworker | delivering hworker | finishing hworker =>
      simp only [Port.Lost, Port.answered, Port.setChannel, hworker]
      exact hlost
    | ended _ _ _ hchannel =>
      rw [hchannel] at hsender
      cases hsender
  · rename_i hconsume
    rw [hconsume] at hrefused
    cases hrefused

/-- **A move that is not orderly** loses the port, unless the numbers of the requests run out. -/
theorem Served.lost {program : Program S A} (h : Served codec sinks program port)
    {move : Port.Move} (hstarts : ∀ a b, move ≠ .start a b)
    (hdisorder : port.isOrderly codec sinks move = false)
    (hstep : port.step codec sinks move = some port') : port'.Lost := by
  cases move with
  | start a b => exact absurd rfl (hstarts a b)
  | deliver | finish | leave | drop => cases hdisorder
  | receive => exact h.lost_of_receive hdisorder hstep
  | take status =>
    -- the bridge refuses the request
    have hstatus := of_decide_eq_false hdisorder
    simp only [Port.step, Port.take] at hstep
    split at hstep
    · cases hstep
      trivial
    · split at hstep
      · cases hstep
        exact .of_finishing rfl
      · cases hstep
        exact .of_finishing rfl
    · cases hstep
  | turn late answer =>
    -- the request at hand fails
    simp only [Port.step, Port.turn] at hstep
    simp only [Port.isOrderly, Port.isAnswered] at hdisorder
    split at hdisorder
    · rename_i hpumping
      rw [hpumping] at hstep
      dsimp only at hstep
      split at hstep
      · cases hstep
        exact .of_finishing rfl
      · rename_i hpump
        rw [hpump] at hdisorder
        cases hdisorder
      · rename_i hpump
        rw [hpump] at hdisorder
        cases hdisorder
    · cases hdisorder

end Lost

end Threadbook.PhotoKit
