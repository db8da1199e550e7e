import Threadbook.IntelligenceMoves
import Threadbook.IntelligenceRequest

/-!
# Runs of the receipt intelligence coordinator

Any number of requests, replays and recoveries, interleaved action by action, dropped or
crashed at any point. Every action moves attempts, so what is stored about each stays
sound; and a request hands a receipt to the transport only after it marked the attempt as
sent, which succeeds once.
-/

namespace Threadbook

open Table

/-! ## Actions move attempts -/

theorem reads_receiptIntelligenceResponse (services : RequestServices) (requestId : String)
    (attempt : ReceiptIntelligenceAttemptId) (replayed : Bool) :
    Reads (receiptIntelligenceResponse services requestId attempt replayed) := by
  refine Reads.state.bind fun t => ?_
  split
  · exact .fail _
  · exact (Reads.check _).bind fun _ => (Reads.check _).bind fun _ =>
      (Reads.rejectIf _ _).bind fun _ => .pure _

/-- **Every transaction moves attempts**, however it ends. -/
theorem attempts_operation (services : RequestServices) {β : Type}
    (operation : IntelligenceOperation β) : Fallible.Steps Attempts (operation.run services) := by
  cases operation with
  | preflightReplay => exact (reads_preflightReceiptIntelligenceReplay _ _ _).attempts
  | preview => exact (reads_previewReceiptIntelligence _ _ _ _).attempts
  | reserve => exact attempts_reserveReceiptIntelligence _ _
  | credentialLocator => exact (reads_receiptIntelligenceCredentialLocator _ _).attempts
  | markDispatched => exact attempts_markReceiptIntelligenceDispatched _
  | fail => exact attempts_failReceiptIntelligence _ _
  | markOutcomeUnknown => exact attempts_markReceiptIntelligenceOutcomeUnknown _
  | refuse => exact attempts_refuseReceiptIntelligence _ _
  | completeWithoutOrder => exact attempts_completeReceiptIntelligenceWithoutOrder
  | completeWithOrder => exact attempts_completeReceiptIntelligenceWithOrder
  | recover => exact attempts_recoverReceiptIntelligenceAttempts _
  | response => exact (reads_receiptIntelligenceResponse _ _ _ _).attempts

theorem attempts_perform (services : RequestServices) {β : Type} (action : IntelligenceAction β)
    (outside : Outside) (t : IntelligenceTables) :
    Attempts t ((intelligenceMachine services).perform action outside t).2 := by
  cases action with
  | unixNowMs | secret | analyze => exact .refl t
  | database operation =>
    simp only [intelligenceMachine]
    rcases outside.fault with _ | e
    · exact attempts_operation services operation t
    · exact .refl t

variable {t t' : IntelligenceTables}

theorem Elsewhere.attempts (h : Elsewhere t t') : Attempts t t' := by
  intro attempt
  rw [h attempt]

/-! ## The licence to send -/

def Sent (t : IntelligenceTables) (attempt : ReceiptIntelligenceAttemptId) : Prop :=
  ∃ row, t.attempts.find? attempt = some row ∧ row.state ≠ .notSent

theorem Attempts.sent (h : Attempts t t') {attempt : ReceiptIntelligenceAttemptId}
    (hsent : Sent t attempt) : Sent t' attempt := by
  obtain ⟨row, hrow, hstate⟩ := hsent
  exact (h attempt).sent hrow hstate

/-- **The licence is granted once**: to an attempt that was not sent, which then is. -/
theorem sent_of_grants {services : RequestServices} {β : Type} {action : IntelligenceAction β}
    {outside : Outside} {attempt : ReceiptIntelligenceAttemptId}
    (h : sendLicence.grants action ((intelligenceMachine services).perform action outside t).1 =
      some attempt) :
    ¬ Sent t attempt ∧
      Sent ((intelligenceMachine services).perform action outside t).2 attempt := by
  obtain ⟨clock, secret, outcome, fault⟩ := outside
  cases action with
  | unixNowMs | secret | analyze => exact nomatch h
  | database operation =>
    rcases fault with _ | e
    · change (if (operation.run services t).1.isOk then operation.marks else none) = _ at h
      change _ ∧ Sent (operation.run services t).2 attempt
      split at h
      · rename_i hok
        cases operation with
        | markDispatched marked nowMs =>
          obtain rfl := Option.some.inj h
          rw [IntelligenceOperation.run] at hok ⊢
          rcases hmark : markReceiptIntelligenceDispatched marked nowMs t with ⟨e | u, t'⟩
          · rw [hmark] at hok
            cases hok
          · obtain ⟨row, hrow, hstate, rfl⟩ := markReceiptIntelligenceDispatched_eq_ok hmark
            refine ⟨?_, row.dispatch nowMs, by simp [Table.find?_put], by simp [AttemptRow.dispatch]⟩
            rintro ⟨row', hrow', hsent⟩
            obtain rfl := Option.mem_unique hrow hrow'
            exact hsent hstate
        | _ => simp [IntelligenceOperation.marks] at h
      · cases h
    · cases h

/-! ## Requests are disciplined -/

section Discipline

variable {α : Type} {services : RequestServices} {attempt : ReceiptIntelligenceAttemptId}

theorem plain_database {operation : IntelligenceOperation α} (h : operation.marks = none) :
    Plain sendLicence (Program.call (.database operation) : Coordinator α) := by
  refine Plain.call rfl fun answer => ?_
  change (if answer.isOk then operation.marks else none) = none
  rw [h, ite_self]

theorem plain_unixNowMs : Plain sendLicence (Program.call .unixNowMs : Coordinator ℤ) :=
  Plain.call rfl fun _ => rfl

theorem plain_failNow (code : ReceiptIntelligenceFailureCode) :
    Plain sendLicence (failNow attempt code) :=
  plain_unixNowMs.bind fun _ => plain_database rfl

theorem plain_terminalReplay (r : RequestReceiptIntelligenceV1Request) :
    Plain sendLicence (terminalReplay services r) := by
  refine (Plain.check _).bind fun _ => (plain_database rfl).bind fun replayed => ?_
  split
  · exact .pure none
  · split
    · exact .pure none
    · exact (plain_database rfl).bind fun _ => .pure _

theorem marks_completion {dispatchedAtMs finishedAtMs : ℤ}
    {outcome : Except ReceiptIntelligenceProviderError ProviderOutcome} :
    (completion attempt dispatchedAtMs finishedAtMs outcome).marks = none := by
  rcases outcome with (_ | _ | _ | _ | _) | (_ | _ | _)
  all_goals first | rfl | (rw [completion]; split <;> rfl)

/-- **Sending** marks the attempt first, and hands it over only if that succeeds. -/
theorem disciplined_dispatch (r : RequestReceiptIntelligenceV1Request) :
    Disciplined sendLicence none (dispatch r attempt) := by
  refine plain_unixNowMs.disciplined_bind fun dispatchedAtMs => ?_
  refine fun marked => ?_
  rcases marked with e | u
  · exact trivial
  · -- the licence is granted, and spent at once
    refine ⟨rfl, fun outcome => Plain.disciplined ?_⟩
    refine plain_unixNowMs.bind fun finishedAtMs => ?_
    refine Plain.bind (Plain.perform rfl fun answer => ?_) fun answer => ?_
    · change (if answer.isOk then _ else none) = none
      rw [marks_completion, ite_self]
    · split
      · exact plain_database rfl
      · exact (plain_database rfl).bind fun _ => plain_database rfl

theorem disciplined_authorize (r : RequestReceiptIntelligenceV1Request)
    (reserved : ReservedReceiptIntelligenceAttempt) (nowMs : ℤ) :
    Disciplined sendLicence none (authorize services r reserved nowMs) := by
  refine Plain.disciplined_bind (Plain.perform rfl fun answer => ?_) fun answer => ?_
  · exact ite_self none
  · split
    · exact ((plain_failNow _).bind fun _ => plain_database rfl).disciplined
    · split
      · exact trivial
      · refine Plain.disciplined_bind (Plain.perform rfl fun _ => rfl) fun secret => ?_
        split
        · exact ((plain_failNow _).bind fun _ => .check _).disciplined
        · exact disciplined_dispatch r

/-- **A request** hands a receipt to the transport only after it marked its attempt. -/
theorem disciplined_request (r : RequestReceiptIntelligenceV1Request) :
    Disciplined sendLicence none (request services r) := by
  refine (Plain.check _).disciplined_bind fun _ => ?_
  refine (plain_terminalReplay r).disciplined_bind fun replayed => ?_
  split
  · exact trivial
  · refine plain_unixNowMs.disciplined_bind fun nowMs => ?_
    refine (Plain.check _).disciplined_bind fun _ => ?_
    refine (plain_database rfl).disciplined_bind fun stored => ?_
    refine (Plain.check _).disciplined_bind fun _ => ?_
    refine (Plain.check _).disciplined_bind fun expiresAtMs => ?_
    refine (plain_database rfl).disciplined_bind fun reserved => ?_
    split
    · exact (plain_database rfl).disciplined
    · refine (Plain.check _).disciplined_bind fun serialized => ?_
      split
      · exact ((plain_failNow _).bind fun _ => .check _).disciplined
      · exact disciplined_authorize r reserved nowMs

theorem disciplined_coordinatorCall {p : Coordinator CoordinatorReply}
    (h : CoordinatorCall services p) : Disciplined sendLicence none p := by
  cases h with
  | request r => exact (disciplined_request r).map
  | terminalReplay r => exact (plain_terminalReplay r).disciplined.map
  | recover => exact (plain_unixNowMs.bind fun _ => plain_database rfl).disciplined.map

end Discipline

/-! ## All interleavings -/

/-- The transaction stores a result. -/
def IntelligenceOperation.Completes {β : Type} : IntelligenceOperation β → Prop
  | .refuse _ _ _ | .completeWithoutOrder _ _ _ _ | .completeWithOrder _ _ _ _ _ => True
  | _ => False

theorem eq_of_completes_of_error {services : RequestServices} {β : Type}
    {operation : IntelligenceOperation β} (hcompletes : operation.Completes) {e : PlatformError}
    (h : operation.run services t = (.error e, t')) : t' = t := by
  cases operation with
  | refuse => exact refuseReceiptIntelligence_of_error h
  | completeWithoutOrder =>
    rw [IntelligenceOperation.run, completeReceiptIntelligenceWithoutOrder] at h
    split at h
    · exact (Prod.mk.inj h).2.symm
    · exact completeReceiptIntelligenceWithPublication_of_error h
  | completeWithOrder attempt classification output audit nowMs =>
    rw [IntelligenceOperation.run, completeReceiptIntelligenceWithOrder] at h
    split at h
    · exact (Prod.mk.inj h).2.symm
    · rcases hextraction : output.extraction with _ | extraction <;> simp only [hextraction] at h
      · exact (Prod.mk.inj h).2.symm
      · exact completeReceiptIntelligenceWithPublication_of_error h
  | _ => exact hcompletes.elim

/-- The coordinator with its database, and whatever calls are on their way. -/
abbrev CoordinatorWorld : Type 1 :=
  World IntelligenceTables IntelligenceAction ReceiptIntelligenceAttemptId PlatformError
    CoordinatorReply

/-- Any number of calls in any interleaving, dropped and crashed at any point. -/
abbrev CoordinatorSteps (services : RequestServices) : CoordinatorWorld → CoordinatorWorld → Prop :=
  Steps (intelligenceMachine services) sendLicence (CoordinatorCall services) Elsewhere

/-- Nothing is stored about attempts, and no call is on its way. -/
structure CoordinatorWorld.Fresh (w : CoordinatorWorld) : Prop where
  view : ∀ attempt, w.state.view attempt = .none
  threads : w.threads = []
  spent : w.spent = []

section Runs

variable {services : RequestServices} {w w' : CoordinatorWorld}

/-- **What is stored about an attempt** stays sound. -/
theorem CoordinatorSteps.sound (h : CoordinatorSteps services w w')
    (hw : ∀ attempt, (w.state.view attempt).Sound) (attempt : ReceiptIntelligenceAttemptId) :
    (w'.state.view attempt).Sound := by
  refine Steps.state (I := fun t => ∀ attempt, (t.view attempt).Sound) ?_ ?_ h hw attempt
  · intro β action outside t ht attempt
    exact (attempts_perform services action outside t attempt).sound (ht attempt)
  · intro t t' helse ht attempt
    exact (helse.attempts attempt).sound (ht attempt)

/-- **A terminal attempt** stays as it is. -/
theorem CoordinatorSteps.terminal (h : CoordinatorSteps services w w')
    {attempt : ReceiptIntelligenceAttemptId} {row : AttemptRow}
    (hrow : w.state.attempts.find? attempt = some row) (hterminal : row.state.isTerminal) :
    w'.state.attempts.find? attempt = some row := by
  refine Steps.state (I := fun t => t.attempts.find? attempt = some row) ?_ ?_ h hrow
  · intro β action outside t ht
    have heq := (attempts_perform services action outside t attempt).eq_of_isTerminal ht hterminal
    exact (congrArg AttemptView.attempt heq).trans ht
  · intro t t' helse ht
    exact (congrArg AttemptView.attempt (helse attempt)).trans ht

end Runs

/-- **The attempt state machine**, over all interleavings of requests, replays, recoveries
and crashes: each attempt is handed to the transport at most once; a terminal attempt never
changes; exactly the completed attempts are classified, and exactly those of an apparel
class have an order; and a completion that fails leaves nothing behind. -/
theorem attempt_state_machine {services : RequestServices} {w₀ w : CoordinatorWorld}
    (hfresh : w₀.Fresh) (h : CoordinatorSteps services w₀ w) :
    (∀ attempt, w.spent.count attempt ≤ 1) ∧
    (∀ w', CoordinatorSteps services w w' → ∀ attempt row,
      w.state.attempts.find? attempt = some row → row.state.isTerminal →
        w'.state.attempts.find? attempt = some row) ∧
    (∀ attempt, (w.state.classifications.find? attempt).isSome ↔
      ∃ row, w.state.attempts.find? attempt = some row ∧ row.state = .completed) ∧
    (∀ attempt, (w.state.orders.find? attempt.order).isSome ↔
      ∃ row classified, w.state.attempts.find? attempt = some row ∧ row.state = .completed ∧
        w.state.classifications.find? attempt = some classified ∧
        classified.classification.publishesOrder = true) ∧
    (∀ {β : Type} (operation : IntelligenceOperation β) outside e, operation.Completes →
      ((intelligenceMachine services).perform (.database operation) outside w.state).1 =
          .error e →
        ((intelligenceMachine services).perform (.database operation) outside w.state).2 =
          w.state) ∧
    (∀ attempt row, w.state.attempts.find? attempt = some row → row.state ≠ .completed →
      w.state.classifications.find? attempt = none ∧ w.state.orders.find? attempt.order = none ∧
        (∀ i, w.state.orderLines.find? (attempt.order, i) = none) ∧
        (row.state ≠ .refused → w.state.audits.find? attempt = none)) := by
  have hsound : ∀ attempt, (w.state.view attempt).Sound :=
    h.sound fun attempt => by rw [hfresh.view attempt]; exact AttemptView.sound_none
  have hstate : ∀ attempt state, (w.state.view attempt).state = some state ↔
      ∃ row, w.state.attempts.find? attempt = some row ∧ row.state = state :=
    fun attempt state => Option.map_eq_some_iff
  refine ⟨fun attempt => ?_, fun w' h' attempt row hrow hterminal => h'.terminal hrow hterminal,
    fun attempt => ?_, fun attempt => ?_, fun operation outside e hcompletes herror => ?_,
    fun attempt row hrow hne => ?_⟩
  · have hspent : w.spent.count attempt ≤ 1 ∧ (0 < w.spent.count attempt → Sent w.state attempt) :=
      Steps.spent (fun _ _ _ _ => sent_of_grants)
        (fun action outside t _ => (attempts_perform services action outside t).sent)
        (fun _ _ helse _ => helse.attempts.sent) (fun _ => disciplined_coordinatorCall) h
        hfresh.threads hfresh.spent attempt
    exact hspent.1
  · rw [← hstate]
    exact (hsound attempt).classification
  · refine (hsound attempt).order.trans ⟨?_, ?_⟩
    · rintro ⟨classified, hclassified, hclass⟩
      have hsome : (w.state.view attempt).classification.isSome :=
        Option.isSome_iff_exists.mpr ⟨classified, hclassified⟩
      obtain ⟨row, hrow, hcompleted⟩ :=
        (hstate _ _).mp ((hsound attempt).classification.mp hsome)
      exact ⟨row, classified, hrow, hcompleted, hclassified, hclass⟩
    · rintro ⟨row, classified, -, -, hclassified, hclass⟩
      exact ⟨classified, hclassified, hclass⟩
  · obtain ⟨clock, secret, outcome, fault⟩ := outside
    rcases fault with _ | fault
    · exact eq_of_completes_of_error hcompletes (Prod.ext herror rfl)
    · rfl
  · have hcompleted : (w.state.view attempt).state ≠ some .completed := by
      rw [Ne, hstate]
      rintro ⟨row', hrow', hcompleted⟩
      obtain rfl := Option.some.inj (hrow.symm.trans hrow')
      exact hne hcompleted
    have hclass : (w.state.view attempt).classification = none := by
      rw [← Option.not_isSome_iff_eq_none, (hsound attempt).classification]
      exact hcompleted
    have horder : ¬ (w.state.view attempt).order.isSome := by
      rw [(hsound attempt).order]
      rintro ⟨classified, hclassified, -⟩
      rw [hclass] at hclassified
      cases hclassified
    refine ⟨hclass, Option.not_isSome_iff_eq_none.mp horder, fun i => ?_, fun hrefused => ?_⟩
    · exact Option.not_isSome_iff_eq_none.mp fun hline => horder ((hsound attempt).line i hline)
    · refine Option.not_isSome_iff_eq_none.mp fun haudit => ?_
      rcases (hsound attempt).audit.mp haudit with hstate' | hstate'
      · exact hcompleted hstate'
      · obtain ⟨row', hrow', hstate'⟩ := (hstate _ _).mp hstate'
        obtain rfl := Option.some.inj (hrow.symm.trans hrow')
        exact hrefused hstate'

namespace AttemptExample

def services : RequestServices where
  toCoordinatorServices := PreviewExample.services
  isUuid := fun _ => true
  attemptText := ReceiptIntelligenceAttemptId.requestId
  orderLines := fun _ _ _ extraction =>
    .ok (extraction.lineItems.map fun line => line.eventKind.value)
  requestJson := fun _ => utf8Bytes "\x7b\x7d"
  parametersJson := fun _ => utf8Bytes "[]"
  retentionCurrent := fun _ _ => .ok ()
  parseTimestamp := fun _ => .ok 600000
  isCredentialLocator := fun _ => true
  validResponse := fun _ => true

def tables : IntelligenceTables where
  receipts := PreviewExample.tables "Blue shirt"
  approvals := empty
  attempts := empty
  audits := empty
  classifications := empty
  runs := empty
  orders := empty
  orderLines := empty
  credentials := empty.put "credential" ⟨"open_ai", "locator", "active"⟩
  authorityHeads := empty
  reviewDecisions := []
  catalogRevision := 0
  evidenceGeneration := 0
  receiptIntelligenceRevision := 0

def shirtRequest : RequestReceiptIntelligenceV1Request :=
  ⟨1, "request", true, previewDisclosure (PreviewExample.stored "Blue shirt").projection,
    previewEnvelope services.toContractServices "source"
      ⟨"revision", services.digest [], "credential"⟩
      (PreviewExample.stored "Blue shirt").projection (utf8Bytes "\x7b\x7d")
      "2026-07-16T00:10:00Z"⟩

/-- The provider finds an order with one line. -/
def outside : Outside where
  clock := .ok 0
  secret := .ok ⟨⟩
  outcome := .ok (.completed
    ⟨.apparelOrder, some ⟨⟨none, []⟩, ⟨none, []⟩, ⟨none, []⟩, ⟨none, []⟩,
      [⟨⟨some "Blue shirt", [⟨"fragment-0000", "Blue shirt"⟩]⟩, ⟨some .purchase, []⟩, ⟨none, []⟩,
        ⟨none, []⟩, ⟨none, []⟩, ⟨none, []⟩, ⟨none, []⟩, ⟨none, []⟩⟩]⟩⟩
    ⟨none, "response", 2, 2, 1, 1, 2, 0, 0, 1⟩)
  fault := none

def world : CoordinatorWorld :=
  (List.replicate 12 outside).foldl (World.advance (intelligenceMachine services) sendLicence)
    ⟨tables, [.response <$> request services shirtRequest], []⟩

theorem shirt_sent_once : world.spent = [⟨"request"⟩] ∧ world.spent.count ⟨"request"⟩ ≤ 1 ∧
    ∃ row classified, world.state.attempts.find? ⟨"request"⟩ = some row ∧
      row.state = .completed ∧ world.state.classifications.find? ⟨"request"⟩ = some classified ∧
      classified.classification.publishesOrder = true :=
  have hfresh : CoordinatorWorld.Fresh ⟨tables, [], []⟩ := ⟨fun _ => rfl, rfl, rfl⟩
  have hsteps : CoordinatorSteps services ⟨tables, [], []⟩ world :=
    .head (Step.start _ (.request shirtRequest)) (Steps.advance _)
  have hrun : world.spent = [⟨"request"⟩] ∧
      (world.state.orders.find? (ReceiptIntelligenceAttemptId.order ⟨"request"⟩)).isSome := by
    decide +kernel
  have ⟨honce, _, _, horder, _⟩ := attempt_state_machine hfresh hsteps
  ⟨hrun.1, honce _, (horder _).mp hrun.2⟩

end AttemptExample

end Threadbook
