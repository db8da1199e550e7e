import Mathlib.Tactic.DeriveCountable
import Threadbook.CallLogs
import Threadbook.DisclosedText
import Threadbook.IntelligenceRuns

/-!
# Only disclosed text is sent

Requests, replays and recoveries, interleaved action by action with anything that leaves attempts
and their approvals alone. **disclosure_kept** says of each call what it did before it sent a
receipt or read the credential: it sends the texts of the parse that it read itself, under an
approval of this very request. What was disclosed about them is what would be disclosed now, except
that nobody compares the retention declaration.
-/

namespace Threadbook

open Fallible Table Fallible.Keeps List Option

open Fallible (Keeps)

/-! ## Commands and approvals -/

def IntelligenceTables.command (t : IntelligenceTables) (attempt : ReceiptIntelligenceAttemptId) :
    Option String :=
  (t.attempts.find? attempt).map AttemptRow.envelopeSha256

def IntelligenceTables.commands (t : IntelligenceTables) :
    Table ReceiptIntelligenceApprovalId ApprovalRow ×
      (ReceiptIntelligenceAttemptId → Option String) :=
  (t.approvals, t.command)

def IntelligenceOperation.reserves {β : Type} :
    IntelligenceOperation β → Option ReceiptIntelligenceConsentReservation
  | .reserve reservation _ => some reservation
  | _ => none

variable {β α : Type} {nowMs : ℤ} {reservation : ReceiptIntelligenceConsentReservation}
  {reserved : ReservedReceiptIntelligenceAttempt}

section Commands

variable {c : Table ReceiptIntelligenceApprovalId ApprovalRow ×
  (ReceiptIntelligenceAttemptId → Option String)} {services : RequestServices}
  {attempt : ReceiptIntelligenceAttemptId} {t t' : IntelligenceTables}

theorem commands_putAttempt {row : AttemptRow} (row' : AttemptRow)
    (hrow : t.attempts.find? attempt = some row)
    (hsame : row'.envelopeSha256 = row.envelopeSha256)
    (ht' : t' = { t with
      attempts := t.attempts.put attempt row'
      receiptIntelligenceRevision := t'.receiptIntelligenceRevision }) :
    t'.commands = t.commands := by
  rw [ht']
  refine congrArg (Prod.mk t.approvals) (funext fun other => ?_)
  by_cases hother : other = attempt
  · simp [IntelligenceTables.command, find?_put, hother, hrow, hsame]
  · simp [IntelligenceTables.command, find?_put, hother]

theorem keeps_commands_of_reads {x : IntelligenceTransaction α} (h : Reads x) :
    Keeps (fun t => t.commands = c) x := by
  intro t t' a ht hx
  rw [h.eq_ok hx]
  exact ht

theorem keeps_commands_replaceAttempt {states : List ReceiptIntelligenceAttemptState}
    (change : AttemptRow → AttemptRow) {code : String}
    (hchange : ∀ row, (change row).envelopeSha256 = row.envelopeSha256) :
    Keeps (fun t => t.commands = c) (replaceAttempt attempt states change code) := by
  intro t t' u ht hx
  obtain ⟨row, hrow, -, rfl⟩ := replaceAttempt_eq_ok hx
  exact (commands_putAttempt (change row) hrow (hchange row) rfl).trans ht

theorem keeps_commands_insertAudit_bind {audit : ReceiptIntelligenceAuditMetadata}
    {f : PUnit → IntelligenceTransaction β} (hf : Keeps (fun t => t.commands = c) (f ⟨⟩)) :
    Keeps (fun t => t.commands = c) (insertAudit attempt audit nowMs >>= f) := by
  intro t t' u ht hx
  obtain ⟨row, hx⟩ := insertAudit_bind_eq_ok hx
  exact hf { t with audits := t.audits.put attempt row } t' u ht hx

theorem keeps_commands_recover : Fallible.Steps (fun t t' => t.commands = c → t'.commands = c)
      (recoverReceiptIntelligenceAttempts services.toRepositoryServices nowMs) := by
  refine steps_atomically (bind .state fun before => ?_)
  refine bind (forEach (fun other => ?_) _) fun recovered => ?_
  · intro t t' n ht hx
    rcases updateAttempt_eq_ok hx with ⟨-, rfl⟩ | ⟨-, row, hrow, -, rfl⟩
    · exact ht
    · exact (commands_putAttempt (row.giveUp nowMs) hrow rfl rfl).trans ht
  · refine bind .state fun t => ?_
    split
    · refine bind (fun t t' u ht hx => ?_) fun _ => .pure _
      rw [advanceReceiptIntelligenceRevision_eq_ok hx]
      exact ht
    · exact .pure _

theorem keeps_commands_checked {r : Except PlatformError PUnit} {x : IntelligenceTransaction α}
    (hx : Keeps (fun t => t.commands = c) x) :
    Fallible.Steps (fun t t' => t.commands = c → t'.commands = c)
      (check r >>= fun _ => atomically x) :=
  Fallible.Steps.bind (fun _ _ _ h h' ht => h' (h ht)) (Fallible.Steps.check (fun _ => id) r)
    fun _ => steps_atomically hx

theorem keeps_commands_complete {classification : ReceiptIntelligenceClassification}
    {audit : ReceiptIntelligenceAuditMetadata}
    {publish : IntelligenceTransaction (Option ReceiptOrderEvidenceId)}
    (hpublish : Keeps (fun t => t.commands = c) publish) :
    Fallible.Steps (fun t t' => t.commands = c → t'.commands = c)
      (completeReceiptIntelligenceWithPublication services.toRepositoryServices attempt
        classification audit nowMs publish) := by
  refine keeps_commands_checked (bind .state fun before => ?_)
  split
  · exact .fail _
  · refine rejectIf_bind fun _ => ?_
    refine bind (keeps_commands_of_reads (reads_ensureApprovedPreviewIsCurrent _ _))
      fun _ => bind hpublish fun order => ?_
    refine rejectIf_bind fun _ => bind .state fun after => ?_
    refine rejectIf_bind fun _ => rejectIf_bind fun _ => ?_
    refine keeps_commands_insertAudit_bind ?_
    refine bind ?_ fun _ => keeps_commands_replaceAttempt _ fun _ => rfl
    refine bind .state fun _ => rejectIf_bind fun _ => ?_
    intro t t' u ht hx
    obtain ⟨-, rfl⟩ := insertRow_eq_ok.mp hx
    exact ht

/-- **Only a reservation** adds an attempt or an approval. -/
theorem commands_operation (operation : IntelligenceOperation β) (h : operation.reserves = none)
    (t : IntelligenceTables) : (operation.run services t).2.commands = t.commands := by
  have hreads {α : Type} {x : IntelligenceTransaction α} (hx : Reads x) :
      (x t).2.commands = t.commands := congrArg IntelligenceTables.commands (hx t).symm
  cases operation with
  | preflightReplay => exact hreads (reads_preflightReceiptIntelligenceReplay _ _ _)
  | preview => exact hreads (reads_previewReceiptIntelligence _ _ _ _)
  | credentialLocator => exact hreads (reads_receiptIntelligenceCredentialLocator _ _)
  | response => exact hreads (reads_receiptIntelligenceResponse _ _ _ _)
  | reserve => cases h
  | markDispatched attempt nowMs =>
    rw [IntelligenceOperation.run]
    rcases hrun : markReceiptIntelligenceDispatched attempt nowMs t with ⟨e | u, t'⟩
    · rw [atomically_of_error hrun]
    · obtain ⟨row, hrow, -, rfl⟩ := markReceiptIntelligenceDispatched_eq_ok hrun
      exact commands_putAttempt (row.dispatch nowMs) hrow rfl rfl
  | fail attempt code nowMs =>
    exact steps_atomically (keeps_commands_replaceAttempt (AttemptRow.fail code nowMs)
      fun _ => rfl) t rfl
  | markOutcomeUnknown attempt nowMs =>
    exact steps_atomically (keeps_commands_replaceAttempt (AttemptRow.giveUp nowMs)
      fun _ => rfl) t rfl
  | refuse attempt audit nowMs =>
    exact keeps_commands_checked (keeps_commands_insertAudit_bind
      (keeps_commands_replaceAttempt (AttemptRow.refuse audit nowMs) fun _ => rfl)) t rfl
  | completeWithoutOrder =>
    rw [IntelligenceOperation.run, completeReceiptIntelligenceWithoutOrder]
    split
    · rfl
    · exact keeps_commands_complete (.pure none) t rfl
  | completeWithOrder attempt classification output audit nowMs =>
    obtain ⟨_, extraction⟩ := output
    rw [IntelligenceOperation.run, completeReceiptIntelligenceWithOrder]
    split
    · rfl
    rcases extraction with _ | extraction
    · rfl
    · refine keeps_commands_complete (fun t t' order ht hx => ?_) t rfl
      obtain ⟨published, t₁, hpublish, hx⟩ := bind_eq_ok.mp hx
      cases hx
      obtain ⟨hpublishes, -⟩ := publishReceiptIntelligenceOrder_eq_ok hpublish
      rw [← ht, IntelligenceTables.commands, IntelligenceTables.commands, hpublishes.approvals]
      refine congrArg (Prod.mk t.approvals) (funext fun other => ?_)
      rw [IntelligenceTables.command, IntelligenceTables.command, hpublishes.attempts]
  | recover => exact keeps_commands_recover t rfl

end Commands

/-! ## What the transactions tell -/

section Transactions

variable {services : RequestServices} {t t' : IntelligenceTables}

def Reserved (reservation : ReceiptIntelligenceConsentReservation) (t t' : IntelligenceTables) :
    Prop :=
  let attempt : ReceiptIntelligenceAttemptId := ⟨reservation.requestId⟩
  t.command attempt = some reservation.commandSha256 ∧ t' = t ∨
    t.command attempt = none ∧
      ∃ localSourceId nowMs, t'.approvals =
          t.approvals.put ⟨attempt.requestId⟩ ⟨reservation, localSourceId, nowMs⟩ ∧
        ∀ other, t'.command other =
          if other = attempt then some reservation.commandSha256 else t.command other

theorem reserveReceiptIntelligence_eq_ok
    (h : reserveReceiptIntelligence services.toRepositoryServices reservation nowMs t =
      (.ok reserved, t')) :
    reserved.attemptId = ⟨reservation.requestId⟩ ∧ Reserved reservation t t' := by
  have h := Fallible.atomically_eq_ok.mp h
  obtain ⟨replayed, hreplay, h⟩ := (reads_replayReservation _ _).bind_eq_ok h
  rw [replayReservation, Fallible.state_bind] at hreplay
  rcases hrow : t.attempts.find? ⟨reservation.requestId⟩ with _ | row <;>
    simp only [hrow] at hreplay
  · -- the attempt is new
    obtain rfl := Except.ok.inj (Prod.mk.inj hreplay).1
    obtain ⟨-, h⟩ := Fallible.require_bind_eq_ok.mp h
    rw [Fallible.state_bind] at h
    obtain ⟨preview, -, h⟩ := Fallible.check_bind_eq_ok.mp h
    obtain ⟨-, h⟩ := Fallible.rejectIf_bind_eq_ok.mp h
    obtain ⟨⟨⟩, -, h⟩ := (reads_requireActiveCredential _).bind_eq_ok h
    obtain ⟨-, h⟩ := insertRow_bind_eq_ok.mp h
    obtain ⟨-, h⟩ := insertRow_bind_eq_ok.mp h
    obtain ⟨⟨⟩, t₁, hadvance, h⟩ := Fallible.bind_eq_ok.mp h
    obtain ⟨hreserved, rfl⟩ := Prod.mk.inj h
    rw [← Except.ok.inj hreserved, advanceReceiptIntelligenceRevision_eq_ok hadvance]
    refine ⟨rfl, Or.inr ⟨by simp [IntelligenceTables.command, hrow], preview.localSourceId, nowMs,
      rfl, fun other => ?_⟩⟩
    rw [IntelligenceTables.command, IntelligenceTables.command, Table.find?_put]
    split
    · rfl
    · rfl
  · -- the attempt is there, and was made for the same command
    obtain ⟨hsame, hreplay⟩ := Fallible.rejectIf_bind_eq_ok.mp hreplay
    obtain rfl := Except.ok.inj (Prod.mk.inj hreplay).1
    obtain ⟨hreserved, rfl⟩ := Prod.mk.inj h
    rw [← Except.ok.inj hreserved]
    exact ⟨rfl, Or.inl ⟨by simp [IntelligenceTables.command, hrow, not_not.mp hsame], rfl⟩⟩

theorem reserveReceiptIntelligence_of_error {e : PlatformError}
    (h : reserveReceiptIntelligence services.toRepositoryServices reservation nowMs t =
      (.error e, t')) : t' = t :=
  atomically_of_error h

theorem previewReceiptIntelligence_eq_ok {requestId sourceRevisionId : String}
    {bounds : ReceiptIntelligenceBounds} {stored : ReceiptIntelligencePreview}
    (h : previewReceiptIntelligence services.toRepositoryServices requestId sourceRevisionId bounds
      t = (.ok stored, t')) :
    t' = t ∧ readPreview services.toPreviewServices t.receipts requestId sourceRevisionId bounds =
      .ok stored := by
  obtain ⟨-, h⟩ := require_bind_eq_ok.mp h
  obtain ⟨-, h⟩ := require_bind_eq_ok.mp h
  obtain ⟨-, h⟩ := require_bind_eq_ok.mp h
  rw [state_bind] at h
  obtain ⟨hread, rfl⟩ := check_eq_ok.mp h
  exact ⟨rfl, hread⟩

/-- **An attempt that was marked** has an approval that had not expired. -/
theorem markReceiptIntelligenceDispatched_approved {attempt : ReceiptIntelligenceAttemptId}
    {u : PUnit} (h : markReceiptIntelligenceDispatched attempt nowMs t = (.ok u, t')) :
    ∃ row approval, t.approved attempt = some (row, approval) ∧ row.state = .notSent ∧
      nowMs ≤ approval.reservation.expiresAtMs ∧
      t'.attempts.find? attempt = some (row.dispatch nowMs) := by
  obtain ⟨row, hrow, hstate, rfl⟩ := markReceiptIntelligenceDispatched_eq_ok h
  have h := atomically_eq_ok.mp h
  rw [state_bind] at h
  rcases happroved : t.approved attempt with _ | ⟨row', approval⟩ <;> simp only [happroved] at h
  · cases h
  · obtain ⟨-, h⟩ := rejectIf_bind_eq_ok.mp h
    obtain ⟨hexpires, -⟩ := rejectIf_bind_eq_ok.mp h
    have hsame : row' = row := by
      rw [IntelligenceTables.approved, hrow, bind_eq_bind, bind_some,
        bind_eq_bind, bind_eq_some_iff] at happroved
      obtain ⟨approval', -, heq⟩ := happroved
      exact (Prod.mk.inj (some.inj heq)).1.symm
    rw [hsame]
    exact ⟨row, approval, rfl, hstate, not_lt.mp hexpires, by simp [find?_put]⟩

theorem perform_database_eq_ok {operation : IntelligenceOperation β} {outside : Outside} {b : β}
    (h : ((intelligenceMachine services).perform (.database operation) outside t).1 = .ok b) :
    operation.run services t =
      (.ok b, ((intelligenceMachine services).perform (.database operation) outside t).2) := by
  obtain ⟨clock, secret, outcome, fault⟩ := outside
  rcases fault with _ | e
  · exact Prod.ext h rfl
  · cases h

end Transactions

/-! ## What is demanded of a call -/

structure Faithful (services : RequestServices) : Prop where
  digest : Function.Injective services.digest
  requestJson : Function.Injective services.requestJson
  providerRequest : ∃ toVec, services.providerRequest = serializedProviderRequest toVec

inductive DisclosureCall
  | request (r : RequestReceiptIntelligenceV1Request)
  | terminalReplay (r : RequestReceiptIntelligenceV1Request)
  | recover

def DisclosureCall.program (services : RequestServices) :
    DisclosureCall → Coordinator CoordinatorReply
  | .request r => .response <$> Threadbook.request services r
  | .terminalReplay r => .replay <$> Threadbook.terminalReplay services r
  | .recover => .resumable <$> Threadbook.recover

/-- Whatever leaves attempts and approvals alone: parses, credentials, reviews and all else. -/
def ElsewhereInTables (t t' : IntelligenceTables) : Prop :=
  t'.attempts = t.attempts ∧ t'.approvals = t.approvals

/-- What a call did. -/
abbrev IntelligenceLog : Type 1 := List (Deed IntelligenceTables IntelligenceAction)

/-- What an action hands to the provider port. -/
def IntelligenceAction.sent {β : Type} : IntelligenceAction β →
    Option (ReceiptIntelligenceAttemptId × String × ReceiptIntelligenceProjectionV1)
  | .analyze attempt parentSourceRevision projection =>
    some (attempt, parentSourceRevision, projection)
  | _ => none

def IntelligenceAction.readsCredential {β : Type} : IntelligenceAction β → Bool
  | .secret _ | .database (.credentialLocator _ _) => true
  | _ => false

def Previewed (r : RequestReceiptIntelligenceV1Request) (log : IntelligenceLog)
    (t : IntelligenceTables) (stored : ReceiptIntelligencePreview) : Prop :=
  let envelope := r.consent.preview.consentEnvelope
  (⟨t, .database (.preview r.requestId envelope.sourceRevisionId
    (repositoryBounds envelope.preparationBounds envelope.executionBounds)), .ok stored, t⟩ :
      Deed IntelligenceTables IntelligenceAction) ∈ log

def Dispatched (r : RequestReceiptIntelligenceV1Request) (log : IntelligenceLog) : Prop :=
  let envelope := r.consent.preview.consentEnvelope
  ∃ t t' nowMs row approval,
    (⟨t, .database (.markDispatched ⟨r.requestId⟩ nowMs), .ok ⟨⟩, t'⟩ :
      Deed IntelligenceTables IntelligenceAction) ∈ log ∧
    t.approved ⟨r.requestId⟩ = some (row, approval) ∧ row.state = .notSent ∧
    nowMs ≤ approval.reservation.expiresAtMs ∧
    t'.attempts.find? ⟨r.requestId⟩ = some (row.dispatch nowMs) ∧
    approval.reservation.sourceRevisionSha256 = envelope.sourceRevisionSha256 ∧
    approval.reservation.projectionSha256 = envelope.projectionSha256 ∧
    approval.reservation.serializedRequestSha256 = envelope.serializedRequestSha256 ∧
    approval.reservation.serializedRequestBytes = envelope.serializedRequestBytes

def Serialized (services : RequestServices) (envelope : ReceiptIntelligenceConsentEnvelopeV1)
    (projection : ReceiptIntelligenceProjectionV1) : Prop :=
  ∃ serialized, services.providerRequest envelope.sourceRevisionId projection = .ok serialized ∧
    services.digest serialized = envelope.serializedRequestSha256 ∧
    serialized.length = envelope.serializedRequestBytes

/-- **Only disclosed text is sent**: the texts of the parse that this call read a preview of, which
pass the contract, in a request as the envelope states it, after the attempt was marked. -/
structure SendsDisclosed (services : RequestServices) (r : RequestReceiptIntelligenceV1Request)
    (log : IntelligenceLog) (attempt : ReceiptIntelligenceAttemptId)
    (parentSourceRevision : String) (projection : ReceiptIntelligenceProjectionV1) : Prop where
  attempt : attempt = ⟨r.requestId⟩
  revision : parentSourceRevision = r.consent.preview.consentEnvelope.sourceRevisionId
  previewed : ∃ t stored, Previewed r log t stored ∧ projection = stored.projection ∧
    TextsOfParse t.receipts r.consent.preview.consentEnvelope projection
  valid : projection.validate = .ok ()
  serialized : Serialized services r.consent.preview.consentEnvelope projection
  dispatched : Dispatched r log

def SendsOnlyDisclosed (services : RequestServices) (call : DisclosureCall) (log : IntelligenceLog)
    (deed : Deed IntelligenceTables IntelligenceAction) : Prop :=
  ∀ attempt parentSourceRevision projection,
    deed.action.sent = some (attempt, parentSourceRevision, projection) →
      ∃ r, call = .request r ∧
        SendsDisclosed services r log attempt parentSourceRevision projection

def ReadsCredentialAfter
    (holds : RequestReceiptIntelligenceV1Request → ReceiptIntelligencePreview → Prop)
    (call : DisclosureCall) (log : IntelligenceLog)
    (deed : Deed IntelligenceTables IntelligenceAction) : Prop :=
  deed.action.readsCredential = true →
    ∃ r t stored, call = .request r ∧ Previewed r log t stored ∧ holds r stored

def DisclosedAs (r : RequestReceiptIntelligenceV1Request) (stored : ReceiptIntelligencePreview) :
    Prop :=
  r.consent.preview.disclosure = previewDisclosure stored.projection

def RequestReceiptIntelligenceV1Request.DeclaresRetention
    (r : RequestReceiptIntelligenceV1Request) : Prop :=
  r.consent.preview.disclosure.retention.declaration = retentionDeclaration

/-! ## The rules -/

section Rules

variable {services : RequestServices} {t t' : IntelligenceTables}

/-- **Every attempt has an approval** of the request whose command it was made for. -/
def Approved (services : RequestServices) (t : IntelligenceTables) : Prop :=
  ∀ attempt command, t.command attempt = some command →
    ∃ approval, t.approvals.find? ⟨attempt.requestId⟩ = some approval ∧
      approval.reservation.commandSha256 = command ∧
      ∃ r stored expiresAtMs,
        approval.reservation = requestReservation services r stored expiresAtMs

def KeepCommands (t t' : IntelligenceTables) : Prop :=
  ∀ attempt command, t.command attempt = some command → t'.command attempt = some command

theorem KeepCommands.refl (t : IntelligenceTables) : KeepCommands t t := fun _ _ h => h

theorem KeepCommands.trans (a b c : IntelligenceTables) (h : KeepCommands a b)
    (h' : KeepCommands b c) : KeepCommands a c :=
  fun attempt command hcommand => h' attempt command (h attempt command hcommand)

theorem approved_of_commands (h : t'.commands = t.commands) (happroved : Approved services t) :
    Approved services t' ∧ KeepCommands t t' := by
  obtain ⟨hsame, hcommands⟩ := Prod.mk.inj h
  refine ⟨fun attempt command hcommand => ?_, fun attempt command hcommand => ?_⟩
  · rw [hcommands] at hcommand
    rw [hsame]
    exact happroved attempt command hcommand
  · rw [hcommands]
    exact hcommand

def Lawful (services : RequestServices) {β : Type} : IntelligenceAction β → Prop
  | .database operation => ∀ reservation, operation.reserves = some reservation →
      ∃ r stored expiresAtMs, reservation = requestReservation services r stored expiresAtMs
  | _ => True

theorem approved_of_reserved {r : RequestReceiptIntelligenceV1Request}
    {stored : ReceiptIntelligencePreview} {expiresAtMs : ℤ}
    (h : Reserved (requestReservation services r stored expiresAtMs) t t')
    (happroved : Approved services t) : Approved services t' ∧ KeepCommands t t' := by
  rcases h with ⟨-, rfl⟩ | ⟨hnone, localSourceId, nowMs, happrovals, hcommand⟩
  · exact ⟨happroved, .refl t'⟩
  refine ⟨fun attempt command h => ?_, fun attempt command h => ?_⟩
  · rw [hcommand] at h
    rw [happrovals, find?_put]
    split at h
    · rename_i heq
      subst heq
      refine ⟨⟨requestReservation services r stored expiresAtMs, localSourceId, nowMs⟩, if_pos rfl,
        some.inj h, r, stored, expiresAtMs, rfl⟩
    · rename_i hne
      have hother : (⟨attempt.requestId⟩ : ReceiptIntelligenceApprovalId) ≠
          ⟨(requestReservation services r stored expiresAtMs).requestId⟩ :=
        fun heq => hne (congrArg ReceiptIntelligenceAttemptId.mk
          (ReceiptIntelligenceApprovalId.mk.inj heq))
      rw [if_neg hother]
      exact happroved attempt command h
  · rw [hcommand, if_neg]
    · exact h
    · rintro rfl
      rw [hnone] at h
      cases h

theorem approved_perform (action : IntelligenceAction β) (outside : Outside)
    (t : IntelligenceTables) (hlawful : Lawful services action) (happroved : Approved services t) :
    Approved services ((intelligenceMachine services).perform action outside t).2 ∧
      KeepCommands t ((intelligenceMachine services).perform action outside t).2 := by
  obtain ⟨clock, secret, outcome, fault⟩ := outside
  cases action with
  | unixNowMs | secret | analyze => exact ⟨happroved, .refl t⟩
  | database operation =>
    rcases fault with _ | e
    · change Approved services (operation.run services t).2 ∧
        KeepCommands t (operation.run services t).2
      rcases hreserves : operation.reserves with _ | reservation
      · exact approved_of_commands (commands_operation operation hreserves t) happroved
      · obtain ⟨r, stored, expiresAtMs, rfl⟩ := hlawful reservation hreserves
        cases operation with
        | reserve reservation nowMs =>
          cases hreserves
          rw [IntelligenceOperation.run]
          rcases hrun : reserveReceiptIntelligence services.toRepositoryServices
            (requestReservation services r stored expiresAtMs) nowMs t with ⟨e | reserved, t'⟩
          · rw [reserveReceiptIntelligence_of_error hrun]
            exact ⟨happroved, .refl t⟩
          · exact approved_of_reserved (reserveReceiptIntelligence_eq_ok hrun).2 happroved
        | _ => cases hreserves
    · exact ⟨happroved, .refl t⟩

end Rules

/-! ## Each call keeps to the rules -/

section Calls

variable (services : RequestServices)

def Disclosed (call : DisclosureCall) (log : IntelligenceLog)
    (deed : Deed IntelligenceTables IntelligenceAction) : Prop :=
  SendsOnlyDisclosed services call log deed ∧
    ReadsCredentialAfter (fun r stored => DisclosedAs r stored ↔ r.DeclaresRetention) call log deed

abbrev disclosureRules (call : DisclosureCall) :
    LogRules IntelligenceTables IntelligenceAction where
  kept := Approved services
  moves := KeepCommands
  lawful := Lawful services
  demands := Disclosed services call

def Quiet {β : Type} (action : IntelligenceAction β) : Prop :=
  action.sent = none ∧ action.readsCredential = false ∧
    match action with
    | .database operation => operation.reserves = none
    | _ => True

variable {services} {call : DisclosureCall} {log : IntelligenceLog} {s : IntelligenceTables}

theorem Quiet.lawful {action : IntelligenceAction β} (h : Quiet action) :
    Lawful services action := by
  cases action with
  | unixNowMs | secret | analyze => trivial
  | database operation =>
    intro reservation hreserves
    rw [h.2.2] at hreserves
    cases hreserves

theorem Quiet.disclosed {action : IntelligenceAction β} (h : Quiet action)
    (t t' : IntelligenceTables) (answer : β) :
    Disclosed services call log ⟨t, action, answer, t'⟩ := by
  refine ⟨fun attempt parent projection hsent => ?_, fun hreads => ?_⟩
  · exact nomatch h.1.symm.trans hsent
  · exact nomatch h.2.1.symm.trans hreads

theorem quiet_unixNowMs : Quiet .unixNowMs := ⟨rfl, rfl, trivial⟩

theorem quiet_completion (attempt : ReceiptIntelligenceAttemptId) (dispatchedAtMs finishedAtMs : ℤ)
    (outcome : Except ReceiptIntelligenceProviderError ProviderOutcome) :
    Quiet (.database (completion attempt dispatchedAtMs finishedAtMs outcome)) := by
  rcases outcome with (_ | _ | _ | _ | _) | (_ | _ | _)
  all_goals first | exact ⟨rfl, rfl, rfl⟩ | (rw [completion]; split <;> exact ⟨rfl, rfl, rfl⟩)

theorem only_quiet_call {action : IntelligenceAction (Except PlatformError α)} (h : Quiet action) :
    (Program.call action : Coordinator α).Only Quiet :=
  ⟨h, fun _ => trivial⟩

theorem only_quiet_map (g : α → β) {p : Coordinator α} (h : p.Only Quiet) : (g <$> p).Only Quiet :=
  h.bind (f := fun a => pure (g a)) fun _ => trivial

theorem only_quiet_failNow (attempt : ReceiptIntelligenceAttemptId)
    (code : ReceiptIntelligenceFailureCode) : (failNow attempt code).Only Quiet :=
  (only_quiet_call quiet_unixNowMs).bind fun _ => only_quiet_call ⟨rfl, rfl, rfl⟩

theorem only_quiet_failNow_check (attempt : ReceiptIntelligenceAttemptId)
    (code : ReceiptIntelligenceFailureCode) (result : Except PlatformError α) :
    (failNow attempt code >>= fun _ => Program.check result).Only Quiet :=
  (only_quiet_failNow attempt code).bind (f := fun _ => Program.check result) fun _ => trivial

theorem only_quiet_terminalReplay (r : RequestReceiptIntelligenceV1Request) :
    (terminalReplay services r).Only Quiet := by
  refine Program.Only.bind (f := fun _ => _) (p := Program.check _) trivial fun _ => ?_
  refine (only_quiet_call ⟨rfl, rfl, rfl⟩).bind fun replayed => ?_
  split
  · exact trivial
  · split
    · exact trivial
    · exact (only_quiet_call ⟨rfl, rfl, rfl⟩).bind fun _ => trivial

theorem follows_of_only_quiet {p : Coordinator α} (h : p.Only Quiet) (log : IntelligenceLog)
    (s : IntelligenceTables) :
    Follows (intelligenceMachine services) (disclosureRules services call) (fun _ _ _ => True) p log
      s :=
  h.follows (fun _ => Quiet.lawful) (fun _ haction _ t answer t' =>
    haction.disclosed t t' answer) log s

theorem follows_quiet_bind {action : IntelligenceAction (Except PlatformError β)} (h : Quiet action)
    {f : β → Coordinator α}
    (hf : ∀ b s' o, KeepCommands s s' →
      ((intelligenceMachine services).perform action o s').1 = .ok b →
        Follows (intelligenceMachine services) (disclosureRules services call) (fun _ _ _ => True)
          (f b) (log ++ [(intelligenceMachine services).deed action o s'])
          ((intelligenceMachine services).perform action o s').2) :
    Follows (intelligenceMachine services) (disclosureRules services call) (fun _ _ _ => True)
      (Program.call action >>= f) log s :=
  Follows.call_bind (fun _ _ _ => trivial) h.lawful fun s' o _ hmoves =>
    ⟨h.disclosed _ _ _, fun b hanswer => hf b s' o hmoves hanswer⟩

/-! ### A request -/

variable {r : RequestReceiptIntelligenceV1Request}

/-- **What a request knows** once it has read its preview: what the user agreed to is of the texts
that were read, and the attempt was made for this command. -/
structure Agreed (services : RequestServices) (r : RequestReceiptIntelligenceV1Request)
    (log : IntelligenceLog) (s : IntelligenceTables) : Prop where
  previewed : ∃ t stored, Previewed r log t stored ∧
    r.consent.preview.disclosure.projection = stored.projection ∧
    TextsOfParse t.receipts r.consent.preview.consentEnvelope
      r.consent.preview.disclosure.projection
  bound : r.consent.preview.Bound services.toContractServices
  command : s.command ⟨r.requestId⟩ = some (services.digest (services.requestJson r))

theorem Agreed.later (h : Agreed services r log s) (log' : IntelligenceLog)
    {s' : IntelligenceTables} (hmoves : KeepCommands s s') :
    Agreed services r (log ++ log') s' := by
  obtain ⟨t, stored, hpreviewed, hprojection⟩ := h.previewed
  exact ⟨⟨t, stored, mem_append_left _ hpreviewed, hprojection⟩, h.bound, hmoves _ _ h.command⟩

theorem Agreed.readsCredentialAfter (h : Agreed services r log s)
    (deed : Deed IntelligenceTables IntelligenceAction) :
    ReadsCredentialAfter (fun r stored => DisclosedAs r stored ↔ r.DeclaresRetention) (.request r)
      log deed := by
  intro _
  obtain ⟨t, stored, hpreviewed, hprojection, -⟩ := h.previewed
  exact ⟨r, t, stored, rfl, hpreviewed, disclosure_eq_previewDisclosure h.bound hprojection⟩

section

variable (hservices : Faithful services)

include hservices

/-- **The approval of a request's attempt** is an approval of that request. -/
theorem Agreed.approval (h : Agreed services r log s) (happroved : Approved services s)
    {row : AttemptRow} {approval : ApprovalRow}
    (hfound : s.approved ⟨r.requestId⟩ = some (row, approval)) :
    ∃ stored expiresAtMs,
      approval.reservation = requestReservation services r stored expiresAtMs := by
  obtain ⟨approval', happroval, hcommand, r', stored, expiresAtMs, hreservation⟩ :=
    happroved _ _ h.command
  have hsame : approval' = approval := by
    rw [IntelligenceTables.approved, bind_eq_bind, bind_eq_some_iff] at hfound
    obtain ⟨row', -, hfound⟩ := hfound
    rw [happroval] at hfound
    exact (Prod.mk.inj (some.inj hfound)).2
  rw [hreservation] at hcommand
  have hr : r' = r := hservices.requestJson (hservices.digest hcommand)
  rw [← hsame, hreservation, hr]
  exact ⟨stored, expiresAtMs, rfl⟩

theorem follows_dispatch (h : Agreed services r log s)
    (hserialized : Serialized services r.consent.preview.consentEnvelope
      r.consent.preview.disclosure.projection) :
    Follows (intelligenceMachine services) (disclosureRules services (.request r))
      (fun _ _ _ => True) (dispatch r ⟨r.requestId⟩) log s := by
  refine follows_quiet_bind quiet_unixNowMs fun dispatchedAtMs s₁ o₁ hmoves₁ _ => ?_
  have h₁ := h.later [(intelligenceMachine services).deed .unixNowMs o₁ s₁] hmoves₁
  have hquiet : Quiet (.database (.markDispatched ⟨r.requestId⟩ dispatchedAtMs)) := ⟨rfl, rfl, rfl⟩
  refine Follows.call_bind (fun _ _ _ => trivial) hquiet.lawful
    fun s₂ o₂ hkept hmoves₂ => ⟨hquiet.disclosed _ _ _, fun u hmark => ?_⟩
  -- the attempt is marked, under an approval of this request
  have h₂ := h₁.later [] hmoves₂
  have hrun := perform_database_eq_ok hmark
  obtain ⟨row, approval, hfound, hstate, hexpires, hrow⟩ :=
    markReceiptIntelligenceDispatched_approved hrun
  obtain ⟨stored, expiresAtMs, hreservation⟩ := h₂.approval hservices hkept hfound
  have hdeed := Machine.deed_of_answer hmark
  refine ⟨trivial, fun s₃ o₃ _ hmoves₃ => ⟨⟨?_, ?_⟩, follows_of_only_quiet ?_ _ _⟩⟩
  · intro attempt parent projection hsent
    obtain ⟨rfl, rfl, rfl⟩ := Prod.mk.inj (some.inj hsent)
    obtain ⟨t, stored', hpreviewed, hprojection, htexts⟩ := h₁.previewed
    refine ⟨r, rfl, rfl, rfl, ⟨t, stored', mem_append_left _ hpreviewed, hprojection, htexts⟩,
      h.bound.projection, hserialized, s₂, _, dispatchedAtMs, row, approval,
      mem_append_right _ (mem_singleton.mpr hdeed.symm), hfound, hstate, hexpires, hrow,
      ?_⟩
    rw [hreservation]
    exact ⟨rfl, rfl, rfl, rfl⟩
  · exact nofun
  · refine (only_quiet_call quiet_unixNowMs).bind fun finishedAtMs => ?_
    refine ⟨quiet_completion _ _ _ _, fun answer => ?_⟩
    rcases answer with e | u
    · exact (only_quiet_call ⟨rfl, rfl, rfl⟩).bind fun _ => only_quiet_call ⟨rfl, rfl, rfl⟩
    · exact only_quiet_call ⟨rfl, rfl, rfl⟩

theorem follows_authorize (h : Agreed services r log s)
    (hserialized : Serialized services r.consent.preview.consentEnvelope
      r.consent.preview.disclosure.projection) (hattempt : reserved.attemptId = ⟨r.requestId⟩)
    (nowMs : ℤ) :
    Follows (intelligenceMachine services) (disclosureRules services (.request r))
      (fun _ _ _ => True) (authorize services r reserved nowMs) log s := by
  obtain ⟨approvalId, attemptId, state, replayed⟩ := reserved
  obtain rfl : attemptId = ⟨r.requestId⟩ := hattempt
  have hlocator : Lawful services (.database (.credentialLocator ⟨r.requestId⟩ nowMs)) := by
    intro reservation hreserves
    cases hreserves
  refine Follows.perform_bind hlocator fun s₁ o₁ hkept₁ hmoves₁ =>
    ⟨⟨nofun, h.readsCredentialAfter _⟩, fun answer _ => ?_⟩
  have h₁ := h.later [(intelligenceMachine services).deed
    (.database (.credentialLocator ⟨r.requestId⟩ nowMs)) o₁ s₁]
    (hmoves₁.trans _ _ _ (approved_perform _ o₁ s₁ hlocator hkept₁).2)
  rcases answer with e | locator
  · refine follows_of_only_quiet ?_ _ _
    exact (only_quiet_failNow _ _).bind fun _ => only_quiet_call ⟨rfl, rfl, rfl⟩
  · dsimp only
    split
    · trivial
    refine Follows.perform_bind trivial fun s₂ o₂ _ hmoves₂ =>
      ⟨⟨nofun, h₁.readsCredentialAfter _⟩, fun answer _ => ?_⟩
    rcases answer with e | u
    · exact follows_of_only_quiet (only_quiet_failNow_check _ _ _) _ _
    · exact follows_dispatch hservices (h₁.later _ hmoves₂) hserialized

theorem follows_request (r : RequestReceiptIntelligenceV1Request) (log : IntelligenceLog)
    (s : IntelligenceTables) :
    Follows (intelligenceMachine services) (disclosureRules services (.request r))
      (fun _ _ _ => True) (request services r) log s := by
  have hfail : ∀ (e : PlatformError) (log : IntelligenceLog) (s : IntelligenceTables), True :=
    fun _ _ _ => trivial
  refine Follows.check_bind hfail fun _ _ => Follows.bind ?_
  refine Follows.mono (fun replayed log s _ => ?_)
    (follows_of_only_quiet (only_quiet_terminalReplay r) log s)
  rcases replayed with e | _ | response
  · trivial
  · refine follows_quiet_bind quiet_unixNowMs fun nowMs s₁ o₁ _ _ => ?_
    refine Follows.check_bind hfail fun _ _ => ?_
    refine follows_quiet_bind ⟨rfl, rfl, rfl⟩ fun stored s₂ o₂ _ hanswer => ?_
    refine Follows.check_bind hfail fun _ hunchanged => Follows.check_bind hfail
      fun expiresAtMs _ => ?_
    -- the preview is read, and is the one the user agreed to
    obtain ⟨hsame, hread⟩ := previewReceiptIntelligence_eq_ok (perform_database_eq_ok hanswer)
    obtain ⟨hbound, hprojection, htexts⟩ :=
      ensurePreviewUnchanged_eq_ok hservices.digest hread hunchanged
    have hpreview := Machine.deed_of_answer hanswer
    rw [hsame] at hpreview ⊢
    refine Follows.call_bind hfail (fun reservation hreserves => ?_) fun s₃ o₃ _ _ =>
      ⟨⟨nofun, nofun⟩, fun reserved hreserve => ?_⟩
    · exact ⟨r, stored, expiresAtMs, (some.inj hreserves).symm⟩
    -- the attempt is reserved, or was before
    obtain ⟨hattempt, hreserved⟩ :=
      reserveReceiptIntelligence_eq_ok (perform_database_eq_ok hreserve)
    have hcommand : ((intelligenceMachine services).perform (.database (.reserve
        (requestReservation services r stored expiresAtMs) nowMs)) o₃ s₃).2.command ⟨r.requestId⟩ =
        some (services.digest (services.requestJson r)) := by
      rcases hreserved with ⟨hcommand, hsame⟩ | ⟨-, localSourceId, createdAtMs, -, hcommand⟩
      · rw [hsame]
        exact hcommand
      · exact (hcommand _).trans (if_pos rfl)
    split
    · exact follows_of_only_quiet (only_quiet_call ⟨rfl, rfl, rfl⟩) _ _
    refine Follows.check_bind hfail fun serialized hrequest => ?_
    split
    · exact follows_of_only_quiet (only_quiet_failNow_check _ _ _) _ _
    · rename_i hstated
      simp only [not_or, not_not] at hstated
      refine follows_authorize hservices ⟨⟨s₂, stored, mem_append_left _ (mem_append_right _
          (mem_singleton.mpr hpreview.symm)), hprojection, htexts⟩, hbound, hcommand⟩
        ⟨serialized, hrequest, hstated.1, ?_⟩ hattempt nowMs
      obtain ⟨toVec, hbuilt⟩ := hservices.providerRequest
      rw [hbuilt] at hrequest
      have hlength := length_serializedProviderRequest hrequest
      rw [← hstated.2, Nat.mod_eq_of_lt (hlength.trans_lt (by decide))]
  · trivial

theorem follows_program (call : DisclosureCall) (s : IntelligenceTables) :
    Follows (intelligenceMachine services) (disclosureRules services call) (fun _ _ _ => True)
      (call.program services) [] s := by
  cases call with
  | request r =>
    refine Follows.bind (Follows.mono (fun result log s _ => ?_) (follows_request hservices r [] s))
    rcases result with e | response
    · trivial
    · trivial
  | terminalReplay r =>
    exact follows_of_only_quiet (only_quiet_map _ (only_quiet_terminalReplay r)) [] s
  | recover =>
    exact follows_of_only_quiet (only_quiet_map _ ((only_quiet_call quiet_unixNowMs).bind fun _ =>
      only_quiet_call ⟨rfl, rfl, rfl⟩)) [] s

end

end Calls

/-! ## All interleavings -/

abbrev DisclosureWorld : Type 1 :=
  LoggedWorld DisclosureCall IntelligenceTables IntelligenceAction PlatformError CoordinatorReply

/-- Any number of calls in any interleaving, dropped and crashed at any point, and anything that
leaves attempts and approvals alone. -/
abbrev DisclosureSteps (services : RequestServices) : DisclosureWorld → DisclosureWorld → Prop :=
  LoggedSteps (intelligenceMachine services) (DisclosureCall.program services) ElsewhereInTables

/-- There is no attempt yet, and no call is on its way; whatever else is stored is arbitrary. -/
structure DisclosureWorld.Unattempted (w : DisclosureWorld) : Prop where
  attempts : ∀ attempt, w.state.attempts.find? attempt = none
  calls : w.calls = []

/-- **Whatever a call does is disclosed**, over all interleavings: it sends the texts of the parse
that it read a preview of itself, which pass the contract, as the envelope states, after it marked
the attempt under an approval of all this that had not expired; and before it reads the credential
it has read a preview of which what the user agreed to is the disclosure, if, and only if, the user
agreed to the retention declaration in force. -/
theorem disclosure_kept {services : RequestServices} (hservices : Faithful services)
    {w₀ w : DisclosureWorld} (hnone : w₀.Unattempted) (h : DisclosureSteps services w₀ w) :
    ∀ call ∈ w.calls, ∀ before deed after, call.log = before ++ deed :: after →
      SendsOnlyDisclosed services call.call before deed ∧
      ReadsCredentialAfter (fun r stored => DisclosedAs r stored ↔ r.DeclaresRetention) call.call
        before deed := by
  have happroved : Approved services w₀.state := by
    intro attempt command hcommand
    rw [IntelligenceTables.command, hnone.attempts] at hcommand
    cases hcommand
  have hother : ∀ t t', ElsewhereInTables t t' → Approved services t →
      Approved services t' ∧ KeepCommands t t' := by
    rintro t t' ⟨hattempts, happrovals⟩
    refine approved_of_commands ?_
    rw [IntelligenceTables.commands, IntelligenceTables.commands, happrovals]
    refine congrArg (Prod.mk t.approvals) (funext fun attempt => ?_)
    rw [IntelligenceTables.command, IntelligenceTables.command, hattempts]
  have hlogs : Approved services w.state ∧ ∀ call ∈ w.calls,
      (disclosureRules services call.call).Meets call.log := logs_follow KeepCommands.refl
    KeepCommands.trans (fun action outside t => approved_perform action outside t) hother
    (fun call s _ => follows_program hservices call s) h happroved hnone.calls
  exact hlogs.2

namespace DisclosureExample

open AttemptExample (tables)

instance countableChar : Countable Char :=
  Function.Injective.countable (f := Char.toNat) fun _ _ h => Char.toNat_inj.mp h

instance countableString : Countable String :=
  Function.Injective.countable (f := String.toList) fun _ _ h => String.toList_inj.mp h

instance countableUInt8 : Countable UInt8 :=
  Function.Injective.countable (f := UInt8.toNat) fun _ _ h => UInt8.toNat_inj.mp h

deriving instance Countable for OpenAiRetentionModeV1, OpenAiRetentionDeclarationV1,
  ReceiptIntelligencePreparationBoundsV1, ReceiptIntelligenceExecutionBoundsV1,
  ReceiptIntelligenceRetentionDisclosureV1, ReceiptIntelligenceProjectionFragmentV1,
  ReceiptIntelligenceProjectionV1, ReceiptIntelligenceDisclosureV1,
  ReceiptIntelligenceConsentEnvelopeV1, ReceiptIntelligencePreviewV1, ReceiptIntelligenceConsentV1,
  RequestReceiptIntelligenceV1Request

/-- Runs of zeros that are longer than a digest, and tell all values apart. -/
noncomputable def zeros {α : Type} [Countable α] (a : α) : List UInt8 :=
  List.replicate (Classical.choose (exists_injective_nat α) a + 65) 0

theorem zeros_injective {α : Type} [Countable α] {a b : α}
    (h : (zeros a).length = (zeros b).length) : a = b := by
  simp only [zeros, length_replicate] at h
  exact Classical.choose_spec (exists_injective_nat α) (Nat.add_right_cancel h)

theorem length_zeros {α : Type} [Countable α] (a : α) : 64 < (zeros a).length := by
  simp [zeros]

def projection : ReceiptIntelligenceProjectionV1 :=
  (PreviewExample.stored "Blue shirt").projection

def inputs : List (List UInt8) :=
  [utf8Bytes "Blue shirt", projection.hashed, utf8Bytes "\x7b\x7d", utf8Bytes "[]"]

noncomputable def digest (bytes : List UInt8) : String :=
  if inputs.idxOf bytes < 4 then String.ofList (List.replicate 64 (inputs.idxOf bytes).digitChar)
  else String.ofList ((zeros bytes).map fun _ => '0')

theorem digest_injective : Function.Injective digest := by
  intro a b h
  have hdigits : ∀ i < 4, ∀ j < 4, i.digitChar = j.digitChar → i = j := by decide
  rw [digest, digest] at h
  split at h <;> rename_i ha <;> split at h <;> rename_i hb
  all_goals have h := String.ofList_injective h
  · -- both are among the few
    have hdigit := hdigits _ ha _ hb ((replicate_inj.mp h).2.resolve_left (by decide))
    exact (idxOf_inj (idxOf_lt_length_iff.mp ha)).mp hdigit
  · have hlength := congrArg length h
    simp only [length_replicate, length_map] at hlength
    exact absurd (length_zeros b) (by omega)
  · have hlength := congrArg length h
    simp only [length_replicate, length_map] at hlength
    exact absurd (length_zeros a) (by omega)
  · have hlength := congrArg length h
    simp only [length_map] at hlength
    exact zeros_injective hlength

noncomputable def contract : ContractServices := ⟨digest, fun _ => true⟩

/-- Another mode than the one in force. -/
def zdr : OpenAiRetentionDeclarationV1 := ⟨.zdr, retentionDeclaration.provenance⟩

noncomputable def zdrRequest : RequestReceiptIntelligenceV1Request :=
  ⟨1, "request", true, declaredDisclosure projection zdr,
    { previewEnvelope contract "source"
        ⟨"revision", PreviewExample.services.digest [], "credential"⟩ projection
        (utf8Bytes "Blue shirt") "2026-07-16T00:10:00Z" with
      retention := .forDeclaration zdr }⟩

noncomputable def services : RequestServices :=
  { AttemptExample.services with
    digest := digest
    requestJson := fun r => if r = zdrRequest then utf8Bytes "\x7b\x7d" else zeros r
    providerRequest := serializedProviderRequest fun fragments =>
      fragments.flatMap fun fragment => utf8Bytes fragment.text
    parseTimestamp := fun _ => .ok 1784160600000 }

theorem faithful : Faithful services where
  digest := digest_injective
  providerRequest := ⟨_, rfl⟩
  requestJson := by
    intro r r' h
    have hshort : (utf8Bytes "\x7b\x7d").length ≤ 64 := by decide
    change (if r = zdrRequest then utf8Bytes "\x7b\x7d" else zeros r) =
      (if r' = zdrRequest then utf8Bytes "\x7b\x7d" else zeros r') at h
    split at h <;> rename_i hr <;> split at h <;> rename_i hr'
    · rw [hr, hr']
    · exact absurd (length_zeros r') (not_lt.mpr (congrArg length h ▸ hshort))
    · exact absurd (length_zeros r) (not_lt.mpr (congrArg length h ▸ hshort))
    · exact zeros_injective (congrArg length h)

/-- The provider refuses to say anything about the receipt. -/
def outside : Outside where
  clock := .ok 1784160000000
  secret := .ok ⟨⟩
  outcome := .ok (.refused ⟨none, "response", 2, 2, 1, 1, 2, 0, 0, 1⟩)
  fault := none

noncomputable def world : DisclosureWorld :=
  (List.replicate 12 outside).foldl (LoggedWorld.advance (intelligenceMachine services))
    ⟨tables, [⟨.request zdrRequest, [], DisclosureCall.program services (.request zdrRequest)⟩]⟩

def undeclared : DisclosureCall → Bool
  | .request r => r.consent.preview.disclosure.retention.declaration ≠ retentionDeclaration
  | _ => false

theorem world_sends : (world.calls.any fun call => undeclared call.call &&
    call.log.any fun deed => deed.action.readsCredential) = true ∧
    (world.calls.any fun call => call.log.any fun deed => deed.action.sent.isSome) = true := by
  decide +kernel

theorem world_steps : DisclosureSteps services ⟨tables, []⟩ world :=
  .head (LoggedStep.start (.request zdrRequest)) (LoggedSteps.advance _ _)

theorem tables_unattempted : DisclosureWorld.Unattempted ⟨tables, []⟩ := ⟨fun _ => rfl, rfl⟩

/-- In this run a receipt is sent, and whatever is done is disclosed. -/
theorem shirt_disclosed :
    (world.calls.any fun call => call.log.any fun deed => deed.action.sent.isSome) = true ∧
    ∀ call ∈ world.calls, ∀ before deed after, call.log = before ++ deed :: after →
      SendsOnlyDisclosed services call.call before deed ∧
      ReadsCredentialAfter (fun r stored => DisclosedAs r stored ↔ r.DeclaresRetention) call.call
        before deed :=
  ⟨world_sends.2, disclosure_kept faithful tables_unattempted world_steps⟩

/-- The retention declaration is not compared with the one in force: the credential is read, though
what the user agreed to is not what would be disclosed. -/
theorem retention_unchecked : ¬ ∀ (services : RequestServices) (w₀ w : DisclosureWorld),
    Faithful services → w₀.Unattempted → DisclosureSteps services w₀ w →
      ∀ call ∈ w.calls, ∀ before deed after, call.log = before ++ deed :: after →
        SendsOnlyDisclosed services call.call before deed ∧
        ReadsCredentialAfter DisclosedAs call.call before deed := by
  intro h
  obtain ⟨call, hcall, hreads⟩ := List.any_eq_true.mp world_sends.1
  obtain ⟨hundeclared, hreads⟩ := Bool.and_eq_true_iff.mp hreads
  obtain ⟨deed, hdeed, hreads⟩ := List.any_eq_true.mp hreads
  obtain ⟨before, after, hlog⟩ := List.append_of_mem hdeed
  obtain ⟨r, t, stored, hr, -, hdisclosed⟩ :=
    (h services _ world faithful tables_unattempted world_steps call hcall before deed after hlog).2
      hreads
  rw [hr, undeclared, decide_eq_true_iff] at hundeclared
  exact hundeclared (congrArg (fun disclosure => disclosure.retention.declaration) hdisclosed)

end DisclosureExample

end Threadbook
