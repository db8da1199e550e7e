import Mathlib
import Threadbook.Paging

/-!
# The incremental fold: the last event of each message decides

The scan's duplicate buffer, its three-key sort and its last-write-wins map
compose to a maximum: `finalEvents` holds, for each message that occurs, the
greatest of its events under numeric history id and then kind
(`finalEvents_isGreatest`). That is a statement about *which* events were
reported, so the order of events, their repetition and their split into pages
drop out.

A `Delivery` is one way the provider can hand out a given set of events: a chain
of pages with fresh tokens, all reporting one terminal history id.
`incremental_fold_delivery_independent` compares any two of them.
-/

namespace Threadbook

open Fallible List

open Fallible (bind_eq_ok bind_of_ok bind_of_error pure_run)

/-! ## The duplicate buffer -/

theorem eventIdentity_injective : Function.Injective eventIdentity := by
  rintro ⟨h, m, k⟩ ⟨h', m', k'⟩ heq
  have hpair := congrArg ofLex heq
  obtain ⟨htext, hrest⟩ := Prod.mk.inj hpair
  obtain ⟨hm, hk⟩ := Prod.mk.inj (congrArg ofLex hrest)
  exact Prod.ext (HistoryId.ext htext) (Prod.ext hm hk)

namespace EventBuffer

def Coherent (buffer : EventBuffer) : Prop :=
  ∀ event, eventIdentity event ∈ buffer.exactEvents.toList ↔ event ∈ buffer.events

theorem coherent_empty : Coherent ⟨[], BTreeMap.empty⟩ := by
  intro event
  simp [BTreeMap.keys, BTreeMap.empty]

variable {buffer : EventBuffer}

theorem isSome_iff_mem (hb : buffer.Coherent) (event : ScopedEvent) :
    (buffer.exactEvents.get? (eventIdentity event)).isSome ↔ event ∈ buffer.events := by
  rw [← hb event, Option.isSome_iff_exists]
  exact BTreeMap.mem_keys_iff.symm

theorem mem_push (hb : buffer.Coherent) {event x : ScopedEvent} :
    x ∈ (buffer.push event).events ↔ x = event ∨ x ∈ buffer.events := by
  unfold push
  split
  · rename_i hseen
    have hmem := (isSome_iff_mem hb event).mp hseen
    constructor
    · exact .inr
    · rintro (rfl | hx)
      · exact hmem
      · exact hx
  · simp [or_comm]

theorem coherent_push (hb : buffer.Coherent) (event : ScopedEvent) :
    (buffer.push event).Coherent := by
  intro x
  rw [mem_push hb]
  unfold push
  split
  · rename_i hseen
    have hmem := (isSome_iff_mem hb event).mp hseen
    rw [hb x]
    constructor
    · exact .inr
    · rintro (rfl | hx)
      · exact hmem
      · exact hx
  · rw [BTreeSet.mem_add, hb x, eventIdentity_injective.eq_iff]

end EventBuffer

/-! ## The last event of each message -/

def eventsOf (events : Set ScopedEvent) (messageId : String) :
    Set (HistoryId ×ₗ HistoryEventKind) :=
  {e | ((ofLex e).1, messageId, (ofLex e).2) ∈ events}

theorem mem_sortEvents {events : List ScopedEvent} {event : ScopedEvent} :
    event ∈ sortEvents events ↔ event ∈ events :=
  mem_insertionSort _

theorem sortEvents_pairwise (events : List ScopedEvent) : ((sortEvents events).map fun event =>
      ((event.2.1, toLex (event.1, event.2.2)) : String × HistoryId ×ₗ HistoryEventKind)).Pairwise
      fun p q => p.1 = q.1 → p.2 ≤ q.2 := by
  rw [pairwise_map]
  have hsorted : (sortEvents events).Pairwise fun a b => eventOrder a ≤ eventOrder b :=
    pairwise_insertionSort _ _
  refine hsorted.imp fun {a b} hab hmsg => ?_
  rcases Prod.Lex.le_iff.mp hab with hlt | ⟨-, hle⟩
  · exact absurd (hmsg ▸ hlt) (lt_irrefl _)
  · exact hle

/-- **Last event wins**: a message that occurs is mapped to its greatest event. -/
theorem finalEvents_isGreatest {events : List ScopedEvent} {messageId : String}
    {e : HistoryId ×ₗ HistoryEventKind} :
    (finalEvents events).get? messageId = some e ↔
      IsGreatest (eventsOf {x | x ∈ events} messageId) e := by
  have hset : ∀ w : HistoryId ×ₗ HistoryEventKind,
      (messageId, w) ∈ (sortEvents events).map (fun event =>
        ((event.2.1, toLex (event.1, event.2.2)) : String × HistoryId ×ₗ HistoryEventKind)) ↔
      w ∈ eventsOf {x | x ∈ events} messageId := by
    intro w
    simp only [mem_map, mem_sortEvents, Prod.mk.injEq]
    constructor
    · rintro ⟨⟨h, m, k⟩, hx, rfl, rfl⟩
      exact hx
    · intro hw
      exact ⟨_, hw, rfl, rfl⟩
  have hgreatest : ∀ {w}, w ∈ eventsOf {x | x ∈ events} messageId →
      ∃ v, (finalEvents events).get? messageId = some v ∧
        IsGreatest (eventsOf {x | x ∈ events} messageId) v := by
    intro w hw
    obtain ⟨v, hv, hmem, hmax⟩ := BTreeMap.get?_insertAll_isGreatest (m := BTreeMap.empty)
      (sortEvents_pairwise events) ⟨w, (hset w).mpr hw⟩
    exact ⟨v, hv, (hset v).mp hmem, fun x hx => hmax ((hset x).mpr hx)⟩
  constructor
  · intro hget
    have hkey := BTreeMap.mem_keys_iff.mpr ⟨e, hget⟩
    rcases BTreeMap.mem_keys_insertAll.mp hkey with hempty | ⟨w, hw⟩
    · simp [BTreeMap.keys, BTreeMap.empty] at hempty
    · obtain ⟨v, hv, hv'⟩ := hgreatest ((hset w).mp hw)
      rwa [← Option.mem_unique hv hget]
  · intro he
    obtain ⟨v, hv, hv'⟩ := hgreatest he.1
    rw [hv, hv'.unique he]

theorem mem_keys_finalEvents {events : List ScopedEvent} {messageId : String} :
    messageId ∈ (finalEvents events).keys ↔ ∃ h k, (h, messageId, k) ∈ events := by
  rw [finalEvents, BTreeMap.mem_keys_insertAll]
  simp only [mem_map, mem_sortEvents]
  constructor
  · rintro (hempty | ⟨v, ⟨h, m, k⟩, hx, heq⟩)
    · simp [BTreeMap.keys, BTreeMap.empty] at hempty
    · obtain ⟨rfl, -⟩ := Prod.mk.inj heq
      exact ⟨h, k, hx⟩
  · rintro ⟨h, k, hx⟩
    exact .inr ⟨toLex (h, k), (h, messageId, k), hx, rfl⟩

/-! ## Deliveries -/

/-- A set of history events inside `(cursor, terminal]`. -/
structure HistoryWindow where
  cursor : HistoryId
  terminal : HistoryId
  events : Set ScopedEvent
  inside : ∀ x ∈ events, cursor < x.1 ∧ x.1 ≤ terminal
  valid : ∀ x ∈ events, validateProviderValue x.2.1 = .ok ()

def Reports (event : HistoryEvent) (x : ScopedEvent) : Prop :=
  HistoryId.parse event.historyId = .ok x.1 ∧ event.messageId = x.2.1 ∧ event.kind = x.2.2

instance (event : HistoryEvent) (x : ScopedEvent) : Decidable (Reports event x) := by
  unfold Reports
  infer_instance

abbrev HistoryChain {σ : Type} (limits : SyncLimits) (key : SyncKey) (gateway : GmailGateway σ)
    (cursor : HistoryId) : Option String → σ → List HistoryPage → σ → Prop :=
  PageChain (fun token => gateway.listHistory cursor.text key.labelId token limits.pageSize)
    HistoryPage.nextPageToken

structure Delivery {σ : Type} (limits : SyncLimits) (key : SyncKey) (window : HistoryWindow)
    (gateway : GmailGateway σ) (start : σ) where
  pages : List HistoryPage
  final : σ
  chain : HistoryChain limits key gateway window.cursor none start pages final
  count : pages.length ≤ limits.maxPages
  tokens_valid : ∀ token ∈ pageTokens HistoryPage.nextPageToken pages,
    validateProviderValue token = .ok ()
  tokens_fresh : (pageTokens HistoryPage.nextPageToken pages).Nodup
  terminal : ∀ page ∈ pages, HistoryId.parse page.mailboxHistoryId = .ok window.terminal
  sound : ∀ page ∈ pages, ∀ event ∈ page.events, ∃ x ∈ window.events, Reports event x
  complete : ∀ x ∈ window.events, ∃ page ∈ pages, ∃ event ∈ page.events, Reports event x

/-! ## Reading the pages -/

variable {terminal cursor : HistoryId}

theorem parseEvent_eq_ok {event : HistoryEvent} {x : ScopedEvent} :
    parseEvent cursor terminal event = .ok x ↔ validateProviderValue event.messageId = .ok () ∧
      Reports event x ∧ cursor < x.1 ∧ x.1 ≤ terminal := by
  obtain ⟨h, m, k⟩ := x
  rw [parseEvent, check_bind_eq_ok]
  simp only [check_mapError_eq_ok, check_bind_eq_ok, Reports]
  constructor
  · rintro ⟨⟨⟩, hvalid, h', hparse, hrun⟩
    split at hrun
    · cases hrun
    · rename_i hin
      obtain ⟨rfl, hrest⟩ := Prod.mk.inj (Except.ok.inj hrun)
      obtain ⟨hm, hk⟩ := Prod.mk.inj hrest
      rw [not_or, not_le, not_lt] at hin
      exact ⟨hvalid, ⟨hparse, hm, hk⟩, hin⟩
  · rintro ⟨hvalid, ⟨hparse, hm, hk⟩, hlo, hhi⟩
    refine ⟨(), hvalid, h, hparse, ?_⟩
    rw [if_neg (not_or.mpr ⟨not_le.mpr hlo, not_lt.mpr hhi⟩)]
    exact congrArg Except.ok (Prod.ext rfl (Prod.ext hm hk))

theorem addEvents_of_parse :
    ∀ {events : List HistoryEvent} {buffer : EventBuffer}, buffer.Coherent →
      (∀ event ∈ events, ∃ x, parseEvent cursor terminal event = .ok x) →
      ∃ buffer', addEvents cursor terminal buffer events = .ok buffer' ∧ buffer'.Coherent ∧
        ∀ x, x ∈ buffer'.events ↔
          x ∈ buffer.events ∨ ∃ event ∈ events, parseEvent cursor terminal event = .ok x
  | [], buffer, hb, _ => ⟨buffer, rfl, hb, by simp⟩
  | event :: rest, buffer, hb, hparse => by
    obtain ⟨y, hy⟩ := hparse event (.head _)
    obtain ⟨buffer', hrun, hb', hmem⟩ := addEvents_of_parse (EventBuffer.coherent_push hb y)
      fun e he => hparse e (.tail _ he)
    refine ⟨buffer', check_bind_eq_ok.mpr ⟨y, hy, hrun⟩, hb', fun x => ?_⟩
    rw [hmem, EventBuffer.mem_push hb, or_comm (a := x = y), or_assoc]
    simp only [mem_cons, exists_eq_or_imp, hy, Except.ok.injEq, eq_comm (a := x)]

theorem pageTerminal_eq_ok {reached : HistoryId} {page : HistoryPage} :
    pageTerminal reached page = .ok terminal ↔
      HistoryId.parse page.mailboxHistoryId = .ok terminal ∧ reached ≤ terminal := by
  rw [pageTerminal, check_bind_eq_ok]
  simp only [check_mapError_eq_ok]
  constructor
  · rintro ⟨pageCursor, hparse, hrun⟩
    split at hrun
    · cases hrun
    · rename_i hge
      cases hrun
      exact ⟨hparse, not_lt.mp hge⟩
  · rintro ⟨hparse, hle⟩
    exact ⟨terminal, hparse, by rw [if_neg (not_lt.mpr hle)]⟩

/-- **Absorbing the pages**: pages that all name `terminal` and whose events parse
are absorbed, and the buffer ends with exactly the events they report. -/
theorem absorbHistory_of_pages :
    ∀ {pages : List HistoryPage} {buffer : EventBuffer} {reached : HistoryId},
      pages ≠ [] → buffer.Coherent → reached ≤ terminal →
      (∀ page ∈ pages, HistoryId.parse page.mailboxHistoryId = .ok terminal) →
      (∀ page ∈ pages, ∀ event ∈ page.events, ∃ x, parseEvent cursor terminal event = .ok x) →
      ∃ buffer', pages.foldlM (absorbHistory cursor) (buffer, reached) = .ok (buffer', terminal) ∧
        ∀ x, x ∈ buffer'.events ↔ x ∈ buffer.events ∨
          ∃ page ∈ pages, ∃ event ∈ page.events, parseEvent cursor terminal event = .ok x := by
  intro pages
  induction pages with
  | nil => exact fun h => absurd rfl h
  | cons page rest ih =>
    intro buffer reached _ hb hle hterm hparse
    obtain ⟨buffer₁, hadd, hb₁, hmem₁⟩ := addEvents_of_parse hb (hparse page (.head _))
    have habsorb : absorbHistory cursor (buffer, reached) page = .ok (buffer₁, terminal) := by
      rw [absorbHistory, check_bind_eq_ok]
      refine ⟨terminal, pageTerminal_eq_ok.mpr ⟨hterm page (.head _), hle⟩, ?_⟩
      exact check_bind_eq_ok.mpr ⟨buffer₁, hadd, rfl⟩
    rcases rest with _ | ⟨page', rest'⟩
    · exact ⟨buffer₁, check_foldlM_singleton.mpr habsorb, by simpa using hmem₁⟩
    · obtain ⟨buffer', hrun, hmem⟩ := ih (by simp) hb₁ le_rfl (fun p hp => hterm p (.tail _ hp))
        fun p hp => hparse p (.tail _ hp)
      refine ⟨buffer', check_foldlM_cons_eq_ok.mpr ⟨_, habsorb, hrun⟩, fun x => ?_⟩
      rw [hmem, hmem₁, or_assoc, exists_mem_cons_iff (a := page)]

/-- The call budget is used up: the scan's refusal. -/
def outOfCalls : SyncFailure := .fatal .cancelled

section Delivery

variable {σ : Type} {limits : SyncLimits} {key : SyncKey} {window : HistoryWindow}
  {gateway : GmailGateway σ} {start : Session σ}

/-- **The scan of a delivery** ends with exactly the window's events, unless the
call budget runs out on the way. -/
theorem scanHistory_of_delivery (d : Delivery limits key window gateway start.gateway)
    (hle : window.cursor ≤ window.terminal) :
    ∃ events, (∀ x, x ∈ events ↔ x ∈ window.events) ∧
      (((scanHistory limits gateway key window.cursor start).1 = .error outOfCalls ∧
          limits.maxGatewayCalls < start.budget.calls + d.pages.length) ∨
        scanHistory limits gateway key window.cursor start =
          (.ok (events, window.terminal, d.pages.length),
            ⟨d.final, { start.budget with calls := start.budget.calls + d.pages.length }⟩)) := by
  have hparses : ∀ event x, x ∈ window.events → Reports event x →
      parseEvent window.cursor window.terminal event = .ok x := fun event x hx hr =>
    parseEvent_eq_ok.mpr ⟨hr.2.1 ▸ window.valid x hx, hr, window.inside x hx⟩
  have hpos := d.chain.length_pos
  obtain ⟨buffer, hfold, hmem⟩ := absorbHistory_of_pages (length_pos_iff.mp hpos)
    EventBuffer.coherent_empty hle d.terminal fun page hp event he => by
      obtain ⟨x, hx, hr⟩ := d.sound page hp event he
      exact ⟨x, hparses event x hx hr⟩
  have hevents : ∀ x, x ∈ buffer.events ↔ x ∈ window.events := by
    intro x
    rw [hmem]
    constructor
    · rintro (hx | ⟨page, hp, event, he, hx⟩)
      · simp at hx
      · obtain ⟨y, hy, hr⟩ := d.sound page hp event he
        rw [hparses event y hy hr] at hx
        exact Except.ok.inj hx ▸ hy
    · intro hx
      obtain ⟨page, hp, event, he, hr⟩ := d.complete x hx
      exact .inr ⟨page, hp, event, he, hparses event x hx hr⟩
  have hlen : d.pages.length ≤ limits.maxPages - 1 + 1 := by
    have hcount := d.count
    omega
  have hloop := readPages_of_chain limits historyFailure .fatal (.fatal .scopeTooLarge) d.chain
    (limits.maxPages - 1) (.start (⟨[], BTreeMap.empty⟩, window.cursor)) (buffer, window.terminal)
    start.budget rfl hlen hfold d.tokens_valid d.tokens_fresh (by simp [PageCursor.start])
  refine ⟨buffer.events, hevents, ?_⟩
  rcases hloop with ⟨hout, hbudget⟩ | ⟨last, hcollected, hpages, hrun⟩
  · left
    refine ⟨?_, hbudget⟩
    rw [scanHistory, bind_of_error (Prod.ext hout rfl)]
    rfl
  · right
    rw [scanHistory, bind_of_ok hrun]
    simp [hcollected, hpages, PageCursor.start]

/-! ## Settling the messages -/

def settleRaw (limits : SyncLimits) (length : ℕ) : Fallible ℕ SyncFailure Unit := fun rawBytes =>
  ((Budget.consumeRaw limits length ⟨0, rawBytes⟩).1.mapError .fatal,
    (Budget.consumeRaw limits length ⟨0, rawBytes⟩).2.rawBytes)

/-- What the last event of a message amounts to when the provider's answer to a
fetch is `fetch messageId`; the state is the number of raw bytes read. -/
def settle (limits : SyncLimits) (key : SyncKey) (terminal : HistoryId)
    (fetch : String → Except GatewayError RawGmailMessage)
    (entry : String × HistoryId ×ₗ HistoryEventKind) : Fallible ℕ SyncFailure RevisionEffect :=
  let messageId := entry.1
  let selected := (ofLex entry.2).1
  match (ofLex entry.2).2 with
  | .messageAdded | .scopedLabelAdded =>
    match fetch messageId with
    | .ok message => do
      check ((validateMessage message messageId).mapError .fatal)
      settleRaw limits message.raw.length
      let fetched ← check ((HistoryId.parse message.historyId).mapError .fatal)
      if terminal < fetched then fail .restart
      else if key.labelId ∈ message.labelIds then
        pure (.available messageId (selected.max fetched) message.raw)
      else pure (.unavailable messageId (selected.max fetched) .labelAbsentAfterFetch)
    | .error .messageNotFound => pure (.unavailable messageId selected .messageNotFound)
    | .error error => fail (.fatal (mapGateway error))
  | .scopedLabelRemoved => pure (.unavailable messageId selected .labelRemoved)
  | .messageDeleted => pure (.unavailable messageId selected .messageDeleted)

theorem consumeRaw_calls (length : ℕ) (budget : Budget) : budget.consumeRaw limits length =
      (((⟨0, budget.rawBytes⟩ : Budget).consumeRaw limits length).1, { budget with
          rawBytes := ((⟨0, budget.rawBytes⟩ : Budget).consumeRaw limits length).2.rawBytes }) := by
  unfold Budget.consumeRaw
  split
  · rfl
  · split
    · rfl
    · dsimp only
      split <;> rfl

theorem consumeRaw_run {length : ℕ} {s : Session σ} {r : Except SyncError Unit} {b : Budget}
    (h : (⟨0, s.budget.rawBytes⟩ : Budget).consumeRaw limits length = (r, b)) :
    consumeRaw limits length s = (r, ⟨s.gateway, { s.budget with rawBytes := b.rawBytes }⟩) := by
  rw [consumeRaw, consumeRaw_calls, h]

/-- **One message**: settling a message in the session is `settle` on the raw
bytes, unless its fetch finds the call budget used up. -/
theorem incrementalMessage_eq_settle {fetch : String → Except GatewayError RawGmailMessage}
    (hfetch : ∀ messageId s, (gateway.getMessage messageId s).1 = fetch messageId)
    (terminal : HistoryId) (entry : String × HistoryId ×ₗ HistoryEventKind) (s : Session σ) :
    ((incrementalMessage limits gateway key terminal entry s).1 = .error outOfCalls ∧
        limits.maxGatewayCalls ≤ s.budget.calls) ∨
      (incrementalMessage limits gateway key terminal entry s).1 =
          (settle limits key terminal fetch entry s.budget.rawBytes).1 ∧
        (incrementalMessage limits gateway key terminal entry s).2.budget.rawBytes =
          (settle limits key terminal fetch entry s.budget.rawBytes).2 ∧
        (incrementalMessage limits gateway key terminal entry s).2.budget.calls ≤
          s.budget.calls + 1 := by
  obtain ⟨messageId, e⟩ := entry
  rcases hkind : (ofLex e).2 with _ | _ | _ | _
  case scopedLabelRemoved => right; simp [incrementalMessage, settle, hkind]
  case messageDeleted => right; simp [incrementalMessage, settle, hkind]
  all_goals
    simp only [incrementalMessage, settle, hkind]
    rw [bind_of_ok (attempt_run _ _)]
    rcases lt_or_ge s.budget.calls limits.maxGatewayCalls with hcalls | hcalls
    · right
      rw [call_of_lt hcalls, hfetch]
      rcases fetch messageId with error | message
      · cases error <;> simp
      · -- the fetched message passes the same checks on both sides
        simp only [check_bind]
        rcases (validateMessage message messageId).mapError SyncFailure.fatal with e₁ | u
        · simp
        · dsimp only
          rcases hc : (⟨0, s.budget.rawBytes⟩ : Budget).consumeRaw limits message.raw.length with
            ⟨e₁ | u, consumed⟩
          · have hrun := consumeRaw_run (s := ⟨(gateway.getMessage messageId s.gateway).2,
              { s.budget with calls := s.budget.calls + 1 }⟩) hc
            have hraw : settleRaw limits message.raw.length s.budget.rawBytes =
                (.error (.fatal e₁), consumed.rawBytes) := by
              rw [settleRaw, hc]
              rfl
            rw [bind_of_error (mapError_of_error hrun), bind_of_error hraw]
            simp
          · have hrun := consumeRaw_run (s := ⟨(gateway.getMessage messageId s.gateway).2,
              { s.budget with calls := s.budget.calls + 1 }⟩) hc
            have hraw : settleRaw limits message.raw.length s.budget.rawBytes =
                (.ok u, consumed.rawBytes) := by
              rw [settleRaw, hc]
              rfl
            rw [bind_of_ok (mapError_of_ok hrun), bind_of_ok hraw]
            simp only [check_bind]
            rcases (HistoryId.parse message.historyId).mapError SyncFailure.fatal with e₂ | fetched
            · simp
            · dsimp only
              by_cases hrestart : terminal < fetched
              · simp [hrestart]
              · by_cases hlabel : key.labelId ∈ message.labelIds <;>
                  simp [hrestart, hlabel, HistoryId.max_eq]
    · left
      refine ⟨?_, hcalls⟩
      rw [call_of_ge hcalls]
      rfl

def effectOf (key : SyncKey) (fetch : String → Except GatewayError RawGmailMessage)
    (messageId : String) (last : HistoryId ×ₗ HistoryEventKind) : Option RevisionEffect :=
  let selected := (ofLex last).1
  match (ofLex last).2 with
  | .messageAdded | .scopedLabelAdded =>
    match fetch messageId with
    | .ok message =>
      (HistoryId.parse message.historyId).toOption.map fun fetched =>
        if key.labelId ∈ message.labelIds then
          .available messageId (max selected fetched) message.raw
        else .unavailable messageId (max selected fetched) .labelAbsentAfterFetch
    | .error .messageNotFound => some (.unavailable messageId selected .messageNotFound)
    | .error _ => none
  | .scopedLabelRemoved => some (.unavailable messageId selected .labelRemoved)
  | .messageDeleted => some (.unavailable messageId selected .messageDeleted)

/-- **The decision**: a settled message has the effect its last event calls for,
stored between that event and the terminal id. -/
theorem settle_eq_ok {terminal : HistoryId} {fetch : String → Except GatewayError RawGmailMessage}
    {entry : String × HistoryId ×ₗ HistoryEventKind} {rawBytes rawBytes' : ℕ}
    {effect : RevisionEffect} (hle : (ofLex entry.2).1 ≤ terminal)
    (h : settle limits key terminal fetch entry rawBytes = (.ok effect, rawBytes')) :
    effectOf key fetch entry.1 entry.2 = some effect ∧ effect.messageId = entry.1 ∧
      (ofLex entry.2).1 ≤ effect.revision ∧ effect.revision ≤ terminal := by
  obtain ⟨messageId, e⟩ := entry
  dsimp only at hle ⊢
  rcases hkind : (ofLex e).2 with _ | _ | _ | _
  case scopedLabelRemoved | messageDeleted =>
    simp only [settle, hkind, pure_run, Prod.mk.injEq, Except.ok.injEq] at h
    obtain ⟨rfl, -⟩ := h
    simp [effectOf, hkind, RevisionEffect.messageId, RevisionEffect.revision, hle]
  all_goals
    simp only [settle, hkind] at h
    rcases hf : fetch messageId with error | message <;> simp only [hf] at h
    · cases error <;> simp only [pure_run, fail_run, Prod.mk.injEq,
        reduceCtorEq, Except.ok.injEq, false_and] at h
      obtain ⟨rfl, -⟩ := h
      simp [effectOf, hkind, hf, RevisionEffect.messageId, RevisionEffect.revision, hle]
    · simp only [bind_eq_ok, check_eq_ok] at h
      obtain ⟨_, _, -, _, _, -, fetched, _, ⟨hparse, -⟩, h⟩ := h
      rw [check_mapError_eq_ok] at hparse
      split at h
      · simp at h
      · rename_i hrestart
        have hmax : max (ofLex e).1 fetched ≤ terminal := max_le hle (not_lt.mp hrestart)
        split at h <;> rename_i hlabel <;>
          simp only [pure_run, Prod.mk.injEq, Except.ok.injEq] at h <;>
          obtain ⟨rfl, -⟩ := h <;>
          simp [effectOf, hkind, hf, hparse, Except.toOption, hlabel, RevisionEffect.messageId,
            RevisionEffect.revision, HistoryId.max_eq] <;>
          simpa using hmax

/-! ## The fold of a delivery -/

def HistoryWindow.messages (window : HistoryWindow) : Set String :=
  {messageId | ∃ h k, (h, messageId, k) ∈ window.events}

/-- The part of an outcome that the store acts on. -/
def foldOutcome (r : Except SyncFailure SyncBatch) :
    Except SyncFailure (List RevisionEffect × List String × HistoryId) :=
  r.map fun batch => (batch.effects, batch.discoveredMessageIds, batch.nextCheckpoint)

def IsFinal (window : HistoryWindow) (final : BTreeMap String (HistoryId ×ₗ HistoryEventKind)) :
    Prop :=
  ∀ messageId e, final.get? messageId = some e ↔ IsGreatest (eventsOf window.events messageId) e

theorem IsFinal.unique {window : HistoryWindow}
    {final final' : BTreeMap String (HistoryId ×ₗ HistoryEventKind)} (h : IsFinal window final)
    (h' : IsFinal window final') : final = final' :=
  BTreeMap.ext_get? fun m => Option.ext fun e => (h m e).trans (h' m e).symm

def expectedFold (limits : SyncLimits) (key : SyncKey) (window : HistoryWindow)
    (fetch : String → Except GatewayError RawGmailMessage)
    (final : BTreeMap String (HistoryId ×ₗ HistoryEventKind)) (rawBytes : ℕ) :
    Except SyncFailure (List RevisionEffect × List String × HistoryId) :=
  if limits.maxUniqueMessages < final.length then .error (.fatal .scopeTooLarge)
  else (forEach (settle limits key window.terminal fetch) final.entries rawBytes).1.map
    fun effects => (effects, final.keys, window.terminal)

def Delivery.Affordable (d : Delivery limits key window gateway start.gateway) : Prop :=
  start.budget.calls + d.pages.length + window.messages.ncard ≤ limits.maxGatewayCalls

theorem isFinal_finalEvents {events : List ScopedEvent}
    (h : ∀ x, x ∈ events ↔ x ∈ window.events) : IsFinal window (finalEvents events) := by
  intro messageId e
  have hset : {x | x ∈ events} = window.events := Set.ext h
  rw [finalEvents_isGreatest, hset]

theorem length_finalEvents {events : List ScopedEvent} (h : ∀ x, x ∈ events ↔ x ∈ window.events) :
    (finalEvents events).length = window.messages.ncard := by
  have hset : window.messages = ((finalEvents events).keys.toFinset : Set String) := by
    ext messageId
    rw [coe_toFinset, Set.mem_ofPred_eq, mem_keys_finalEvents]
    simp only [HistoryWindow.messages, Set.mem_ofPred_eq, h]
  rw [hset, Set.ncard_coe_finset, toFinset_card_of_nodup (BTreeMap.keys_nodup _),
    BTreeMap.length_keys]

/-- **The fold of a delivery** is the one its window determines, unless the call
budget runs out on the way. -/
theorem incrementalOnce_of_delivery {fetch : String → Except GatewayError RawGmailMessage}
    (hfetch : ∀ messageId s, (gateway.getMessage messageId s).1 = fetch messageId)
    (d : Delivery limits key window gateway start.gateway) (expected : String)
    (hle : window.cursor ≤ window.terminal) :
    ∃ final, IsFinal window final ∧ (∀ messageId ∈ window.messages, messageId ∈ final.keys) ∧
      (((incrementalOnce limits gateway key expected window.cursor start).1 = .error outOfCalls ∧
          ¬ d.Affordable) ∨
        foldOutcome (incrementalOnce limits gateway key expected window.cursor start).1 =
          expectedFold limits key window fetch final start.budget.rawBytes) := by
  obtain ⟨events, hevents, hscan⟩ := scanHistory_of_delivery d hle
  refine ⟨finalEvents events, isFinal_finalEvents hevents, fun messageId ⟨h, k, hx⟩ =>
    mem_keys_finalEvents.mpr ⟨h, k, (hevents _).mpr hx⟩, ?_⟩
  rcases hscan with ⟨hout, hbudget⟩ | hrun
  · left
    refine ⟨?_, fun haff => ?_⟩
    · rw [incrementalOnce, bind_of_error (Prod.ext hout rfl)]
    · have hcalls : start.budget.calls + d.pages.length + _ ≤ limits.maxGatewayCalls := haff
      omega
  · rw [incrementalOnce, bind_of_ok hrun, expectedFold]
    dsimp only
    by_cases hmany : limits.maxUniqueMessages < (finalEvents events).length
    · right
      rw [if_pos hmany, if_pos hmany]
      rfl
    · rw [if_neg hmany, if_neg hmany]
      -- the loop over the messages: as long as the delivery is affordable, a call is left for each
      have hloop := forEach_sim (fun n (s : Session σ) rawBytes => s.budget.rawBytes = rawBytes ∧
          (d.Affordable → s.budget.calls + n ≤ limits.maxGatewayCalls))
        (fun e => e = outOfCalls ∧ ¬ d.Affordable)
        (f := incrementalMessage limits gateway key window.terminal)
        (g := settle limits key window.terminal fetch) (by
          rintro entry n s rawBytes ⟨rfl, hcalls⟩
          rcases incrementalMessage_eq_settle hfetch window.terminal entry s with
            ⟨hout, hge⟩ | ⟨hval, hraw, hcalls'⟩
          · exact .inl ⟨_, ⟨rfl, fun haff => by have := hcalls haff; omega⟩, hout⟩
          · exact .inr ⟨hval, hraw, fun haff => by have := hcalls haff; omega⟩)
        (finalEvents events).entries
        ⟨d.final, { start.budget with calls := start.budget.calls + d.pages.length }⟩
        start.budget.rawBytes ⟨rfl, fun haff => by
          have hcard := length_finalEvents hevents
          have hcalls : start.budget.calls + d.pages.length + window.messages.ncard ≤
            limits.maxGatewayCalls := haff
          rw [← hcard] at hcalls
          exact hcalls⟩
      rcases hloop with ⟨e, ⟨rfl, hnot⟩, hout⟩ | hval
      · left
        refine ⟨?_, hnot⟩
        rw [bind_of_error (Prod.ext hout rfl)]
      · right
        rw [← hval]
        rcases hr : forEach (incrementalMessage limits gateway key window.terminal)
            (finalEvents events).entries
            ⟨d.final, { start.budget with calls := start.budget.calls + d.pages.length }⟩ with
          ⟨e | effects, s'⟩
        · rw [bind_of_error hr]
          rfl
        · rw [bind_of_ok hr]
          rfl

theorem incrementalOnce_of_backward (d : Delivery limits key window gateway start.gateway)
    (expected : String) (hlt : window.terminal < window.cursor) :
    ((incrementalOnce limits gateway key expected window.cursor start).1 = .error outOfCalls ∧
        ¬ d.Affordable) ∨
      (incrementalOnce limits gateway key expected window.cursor start).1 =
        .error (.fatal .malformedResponse) := by
  obtain ⟨page, g', hpage, hask⟩ : ∃ page g', page ∈ d.pages ∧
      gateway.listHistory window.cursor.text key.labelId none limits.pageSize start.gateway =
        (.ok page, g') := by
    have hchain := d.chain
    generalize d.pages = pages at hchain
    rcases hchain with ⟨answer, -⟩ | ⟨answer, -, -⟩
    · exact ⟨_, _, .head _, answer⟩
    · exact ⟨_, _, .head _, answer⟩
  have habsorb : absorbHistory window.cursor (⟨[], BTreeMap.empty⟩, window.cursor) page =
      .error (.fatal .malformedResponse) := by
    rw [absorbHistory, pageTerminal, d.terminal page hpage]
    change ((if window.terminal < window.cursor then _ else _) >>= _) = _
    rw [if_pos hlt]
    rfl
  have hread : ∀ (e : SyncFailure) (s' : Session σ), readPage limits historyFailure .fatal
        (fun token => gateway.listHistory window.cursor.text key.labelId token limits.pageSize)
        HistoryPage.nextPageToken (absorbHistory window.cursor)
        (.start (⟨[], BTreeMap.empty⟩, window.cursor)) start = (.error e, s') →
      (incrementalOnce limits gateway key expected window.cursor start).1 = .error e := by
    intro e s' h
    rw [incrementalOnce, bind_of_error]
    rw [scanHistory, bind_of_error (readPages_of_error h)]
  rcases lt_or_ge start.budget.calls limits.maxGatewayCalls with hcalls | hcalls
  · right
    refine hread (.fatal .malformedResponse)
      ⟨g', { start.budget with calls := start.budget.calls + 1 }⟩ ?_
    have hcall : call limits (gateway.listHistory window.cursor.text key.labelId none
        limits.pageSize) start = (.ok page, ⟨g', { start.budget with
          calls := start.budget.calls + 1 }⟩) :=
      call_eq_ok.mpr ⟨hcalls, hask, rfl⟩
    rw [readPage, PageCursor.start, bind_of_ok (mapError_of_ok hcall), check_bind, habsorb]
  · left
    refine ⟨hread _ _ (readPage_outOfCalls hcalls), fun haff => ?_⟩
    have hpos := d.chain.length_pos
    have hbudget : start.budget.calls + d.pages.length + _ ≤ limits.maxGatewayCalls := haff
    omega

structure DecidedByLast (key : SyncKey) (window : HistoryWindow)
    (fetch : String → Except GatewayError RawGmailMessage) (batch : SyncBatch) : Prop where
  one_each : batch.effects.map RevisionEffect.messageId = batch.discoveredMessageIds
  distinct : batch.discoveredMessageIds.Pairwise (· < ·)
  covers : ∀ messageId, messageId ∈ batch.discoveredMessageIds ↔ messageId ∈ window.messages
  decided : ∀ effect ∈ batch.effects, ∃ last,
    IsGreatest (eventsOf window.events effect.messageId) last ∧
      effectOf key fetch effect.messageId last = some effect
  within : ∀ effect ∈ batch.effects,
    window.cursor < effect.revision ∧ effect.revision ≤ batch.nextCheckpoint

theorem decidedByLast_of_expectedFold {fetch : String → Except GatewayError RawGmailMessage}
    {final : BTreeMap String (HistoryId ×ₗ HistoryEventKind)} {rawBytes : ℕ} {batch : SyncBatch}
    (hfinal : IsFinal window final)
    (hoccurs : ∀ messageId ∈ window.messages, messageId ∈ final.keys)
    (h : foldOutcome (.ok batch) = expectedFold limits key window fetch final rawBytes) :
    DecidedByLast key window fetch batch := by
  rw [expectedFold] at h
  split at h
  · cases h
  · rcases hr : forEach (settle limits key window.terminal fetch) final.entries rawBytes
      with ⟨e | effects, rawBytes'⟩ <;> rw [hr] at h
    · cases h
    · obtain ⟨heffects, hrest⟩ := Prod.mk.inj (Except.ok.inj h)
      obtain ⟨hkeys, hterminal⟩ := Prod.mk.inj hrest
      have hkeys : batch.discoveredMessageIds = final.keys := hkeys
      have hterminal : batch.nextCheckpoint = window.terminal := hterminal
      have heffects : batch.effects = effects := heffects
      -- each effect next to the map entry it was settled from
      have hsettled : List.Forall₂ (fun entry effect =>
          IsGreatest (eventsOf window.events entry.1) entry.2 ∧
            effectOf key fetch entry.1 entry.2 = some effect ∧ effect.messageId = entry.1 ∧
            window.cursor < effect.revision ∧ effect.revision ≤ window.terminal)
          final.entries effects := by
        refine List.Forall₂.imp ?_ ((forall₂_and_left _ _).mpr
          ⟨fun entry hentry => hentry, forEach_forall₂ hr⟩)
        rintro ⟨messageId, last⟩ effect ⟨hentry, t, t', hrun⟩
        have hlast := (hfinal messageId last).mp (BTreeMap.get?_eq_some_iff.mpr hentry)
        obtain ⟨hlo, hhi⟩ := window.inside _ hlast.1
        obtain ⟨heffect, hid, hge, hle⟩ := settle_eq_ok hhi hrun
        exact ⟨hlast, heffect, hid, lt_of_lt_of_le hlo hge, hle⟩
      refine ⟨?_, ?_, fun messageId => ?_, fun effect he => ?_, fun effect he => ?_⟩
      · have hmap : List.Forall₂ Eq final.keys (effects.map RevisionEffect.messageId) := by
          rw [BTreeMap.keys, forall₂_map_left_iff, forall₂_map_right_iff]
          exact hsettled.imp fun _ _ h => h.2.2.1.symm
        rw [forall₂_eq_eq_eq] at hmap
        rw [heffects, hkeys, hmap]
      · rw [hkeys]
        exact final.keys_sorted
      · rw [hkeys]
        constructor
        · intro hkey
          obtain ⟨last, hlast⟩ := BTreeMap.mem_keys_iff.mp hkey
          exact ⟨_, _, ((hfinal messageId last).mp hlast).1⟩
        · intro hoccurrence
          obtain ⟨h, k, hx⟩ := hoccurrence
          exact hoccurs messageId ⟨h, k, hx⟩
      · obtain ⟨entry, -, hlast, heffect, hid, -⟩ :=
          exists_of_forall₂ hsettled effect (heffects ▸ he)
        exact ⟨entry.2, hid ▸ hlast, hid ▸ heffect⟩
      · obtain ⟨entry, -, -, -, -, hlo, hhi⟩ :=
          exists_of_forall₂ hsettled effect (heffects ▸ he)
        exact ⟨hlo, hterminal ▸ hhi⟩

end Delivery

/-- **The fold is independent of delivery shape**: any two ways to hand out the
events of one window, with the same answers to fetches and the same budget at the
start, lead to the same effects and discovered messages (and, when the call budget
pays for both, to the same outcome whatever it is); the effects are one per message
that occurs, decided by its greatest event, and stored inside the window. -/
theorem incremental_fold_delivery_independent {σ₁ σ₂ : Type} {limits : SyncLimits} {key : SyncKey}
    {window : HistoryWindow} {fetch : String → Except GatewayError RawGmailMessage}
    {gateway₁ : GmailGateway σ₁} {gateway₂ : GmailGateway σ₂} {start₁ : Session σ₁}
    {start₂ : Session σ₂}
    (hfetch₁ : ∀ messageId s, (gateway₁.getMessage messageId s).1 = fetch messageId)
    (hfetch₂ : ∀ messageId s, (gateway₂.getMessage messageId s).1 = fetch messageId)
    (hbudget : start₁.budget = start₂.budget)
    (d₁ : Delivery limits key window gateway₁ start₁.gateway)
    (d₂ : Delivery limits key window gateway₂ start₂.gateway) (expected : String) :
    (∀ batch₁ batch₂,
        (incrementalOnce limits gateway₁ key expected window.cursor start₁).1 = .ok batch₁ →
        (incrementalOnce limits gateway₂ key expected window.cursor start₂).1 = .ok batch₂ →
        batch₁.effects = batch₂.effects ∧
          batch₁.discoveredMessageIds = batch₂.discoveredMessageIds) ∧
      (d₁.Affordable → d₂.Affordable →
        foldOutcome (incrementalOnce limits gateway₁ key expected window.cursor start₁).1 =
          foldOutcome (incrementalOnce limits gateway₂ key expected window.cursor start₂).1) ∧
      ∀ batch, (incrementalOnce limits gateway₁ key expected window.cursor start₁).1 = .ok batch →
        DecidedByLast key window fetch batch := by
  rcases le_or_gt window.cursor window.terminal with hle | hlt
  · obtain ⟨final, hfinal, hoccurs, h₁⟩ := incrementalOnce_of_delivery hfetch₁ d₁ expected hle
    obtain ⟨final', hfinal', -, h₂⟩ := incrementalOnce_of_delivery hfetch₂ d₂ expected hle
    obtain rfl := hfinal.unique hfinal'
    rw [← hbudget] at h₂
    refine ⟨fun batch₁ batch₂ hb₁ hb₂ => ?_, fun haff₁ haff₂ => ?_, fun batch hb => ?_⟩
    · rw [hb₁] at h₁
      rw [hb₂] at h₂
      rcases h₁ with ⟨hout, -⟩ | h₁
      · cases hout
      · rcases h₂ with ⟨hout, -⟩ | h₂
        · cases hout
        · obtain ⟨heffects, hrest⟩ := Prod.mk.inj (Except.ok.inj (h₁.trans h₂.symm))
          exact ⟨heffects, (Prod.mk.inj hrest).1⟩
    · rcases h₁ with ⟨-, hnot⟩ | h₁
      · exact absurd haff₁ hnot
      · rcases h₂ with ⟨-, hnot⟩ | h₂
        · exact absurd haff₂ hnot
        · exact h₁.trans h₂.symm
    · rw [hb] at h₁
      rcases h₁ with ⟨hout, -⟩ | h₁
      · cases hout
      · exact decidedByLast_of_expectedFold hfinal hoccurs h₁
  · -- a terminal id before the cursor: both scans are refused at their first page
    have h₁ := incrementalOnce_of_backward d₁ expected hlt
    have h₂ := incrementalOnce_of_backward d₂ expected hlt
    have hnone : ∀ batch, (incrementalOnce limits gateway₁ key expected window.cursor start₁).1 ≠
        .ok batch := by
      intro batch hb
      rw [hb] at h₁
      rcases h₁ with ⟨hout, -⟩ | hbad
      · cases hout
      · cases hbad
    refine ⟨fun batch₁ _ hb₁ _ => absurd hb₁ (hnone batch₁), fun haff₁ haff₂ => ?_,
      fun batch hb => absurd hb (hnone batch)⟩
    rcases h₁ with ⟨-, hnot⟩ | h₁
    · exact absurd haff₁ hnot
    · rcases h₂ with ⟨-, hnot⟩ | h₂
      · exact absurd haff₂ hnot
      · rw [h₁, h₂]

/-- A provider that hands out the history pages it holds, one a call, and answers
every fetch alike. -/
def pageScript (fetch : String → Except GatewayError RawGmailMessage) :
    GmailGateway (List HistoryPage) where
  profileHistoryId := fail .transport
  listMessages _ _ _ := fail .transport
  listSearchMessages _ _ _ := fail .transport
  getMessage messageId := check (fetch messageId)
  listHistory _ _ _ _ := fun pages =>
    match pages with
    | [] => (.error .transport, [])
    | page :: rest => (.ok page, rest)

namespace FoldExample

def limits : SyncLimits := ⟨10, 3, 10, 1000, 20, 2, 1⟩

def key : SyncKey := ⟨"account", "scope", "Label_1"⟩

def fetch (messageId : String) : Except GatewayError RawGmailMessage :=
  .ok ⟨messageId, "11", ["Label_1"], [1, 2]⟩

theorem canonical_9 : CanonicalDigits "9".toList := by decide

theorem canonical_11 : CanonicalDigits "11".toList := by decide

theorem canonical_12 : CanonicalDigits "12".toList := by decide

/-- `m1` is labelled at 11, `m2` loses the label at 12. -/
def events : List ScopedEvent :=
  [(⟨"11", canonical_11⟩, "m1", .scopedLabelAdded),
    (⟨"12", canonical_12⟩, "m2", .scopedLabelRemoved)]

def window : HistoryWindow where
  cursor := ⟨"9", canonical_9⟩
  terminal := ⟨"12", canonical_12⟩
  events := {x | x ∈ events}
  inside := by
    change ∀ x ∈ events, (⟨"9", canonical_9⟩ : HistoryId) < x.1 ∧ x.1 ≤ ⟨"12", canonical_12⟩
    decide
  valid := by
    change ∀ x ∈ events, validateProviderValue x.2.1 = .ok ()
    decide

def onePage : List HistoryPage :=
  [⟨[⟨"11", "m1", .scopedLabelAdded⟩, ⟨"12", "m2", .scopedLabelRemoved⟩], none, "12"⟩]

/-- The later event first and repeated, on two pages. -/
def twoPages : List HistoryPage :=
  [⟨[⟨"12", "m2", .scopedLabelRemoved⟩], some "next", "12"⟩,
    ⟨[⟨"011", "m1", .scopedLabelAdded⟩, ⟨"12", "m2", .scopedLabelRemoved⟩], none, "12"⟩]

def oneDelivery : Delivery limits key window (pageScript fetch) (Session.start onePage).gateway where
  pages := onePage
  final := []
  chain := .last rfl rfl
  count := by decide
  tokens_valid := by decide
  tokens_fresh := by decide
  terminal := by decide
  sound := by
    change ∀ page ∈ onePage, ∀ event ∈ page.events, ∃ x ∈ events, Reports event x
    decide
  complete := by
    change ∀ x ∈ events, ∃ page ∈ onePage, ∃ event ∈ page.events, Reports event x
    decide

def twoDelivery : Delivery limits key window (pageScript fetch) (Session.start twoPages).gateway where
  pages := twoPages
  final := []
  chain := .more rfl rfl (.last rfl rfl)
  count := by decide
  tokens_valid := by decide
  tokens_fresh := by decide
  terminal := by decide
  sound := by
    change ∀ page ∈ twoPages, ∀ event ∈ page.events, ∃ x ∈ events, Reports event x
    decide
  complete := by
    change ∀ x ∈ events, ∃ page ∈ twoPages, ∃ event ∈ page.events, Reports event x
    decide

theorem deliveries_agree :
    (∃ batch, (incrementalOnce limits (pageScript fetch) key "9" window.cursor
        (.start onePage)).1 = .ok batch ∧ DecidedByLast key window fetch batch ∧
      batch.effects = [.available "m1" ⟨"11", canonical_11⟩ [1, 2],
        .unavailable "m2" ⟨"12", canonical_12⟩ .labelRemoved]) ∧
      ∀ batch₁ batch₂,
        (incrementalOnce limits (pageScript fetch) key "9" window.cursor (.start onePage)).1 =
          .ok batch₁ →
        (incrementalOnce limits (pageScript fetch) key "9" window.cursor (.start twoPages)).1 =
          .ok batch₂ →
        batch₁.effects = batch₂.effects ∧
          batch₁.discoveredMessageIds = batch₂.discoveredMessageIds :=
  have hbudget : (Session.start onePage).budget = (Session.start twoPages).budget := rfl
  have h := incremental_fold_delivery_independent (fun _ _ => rfl) (fun _ _ => rfl) hbudget
    oneDelivery twoDelivery "9"
  ⟨⟨_, rfl, h.2.2 _ rfl, by decide⟩, h.1⟩

end FoldExample

end Threadbook
