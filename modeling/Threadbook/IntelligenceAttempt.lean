import Mathlib.Logic.Relation
import Threadbook.ReceiptEvidence
import Threadbook.ReceiptPreview

/-!
# A receipt intelligence attempt

The rows kept for an attempt to have a receipt read by a provider, and the attempt as a
state machine of its own: an `AttemptView` is everything stored about one attempt, a
`Move` is one thing that may happen to it. Two facts about moves are all that the runs
of the repository need: they keep a view `Sound`, and they leave a terminal one alone.
-/

namespace Threadbook

/-! ## Identifiers -/

structure ReceiptIntelligenceApprovalId where
  requestId : String
  deriving DecidableEq

structure ReceiptIntelligenceAttemptId where
  requestId : String
  deriving DecidableEq

inductive ReceiptRunId
  | intelligence (attempt : ReceiptIntelligenceAttemptId)
  | other (id : String)
  deriving DecidableEq

structure ReceiptOrderEvidenceId where
  run : ReceiptRunId
  deriving DecidableEq

def ReceiptIntelligenceAttemptId.order (attempt : ReceiptIntelligenceAttemptId) :
    ReceiptOrderEvidenceId :=
  ⟨.intelligence attempt⟩

/-! ## Rows -/

inductive ReceiptIntelligenceAttemptState
  | notSent
  | dispatched
  | completed
  | refused
  | failed
  | outcomeUnknown
  deriving DecidableEq

def ReceiptIntelligenceAttemptState.isTerminal : ReceiptIntelligenceAttemptState → Bool
  | .notSent | .dispatched => false
  | .completed | .refused | .failed | .outcomeUnknown => true

inductive ReceiptIntelligenceClassification
  | apparelOrder
  | apparelLifecycle
  | unrelated
  | ambiguous
  deriving DecidableEq

def ReceiptIntelligenceClassification.publishesOrder : ReceiptIntelligenceClassification → Bool
  | .apparelOrder | .apparelLifecycle => true
  | .unrelated | .ambiguous => false

/-- What a user agreed to send. -/
structure ReceiptIntelligenceConsentReservation where
  requestId : String
  commandSha256 : String
  sourceRevisionId : String
  sourceRevisionSha256 : String
  previewBindingSha256 : String
  fragmentSetSha256 : String
  projectionSha256 : String
  serializedRequestSha256 : String
  serializedRequestBytes : ℕ
  credentialId : String
  provider : String
  model : String
  retentionMode : String
  retentionProvenance : String
  promptRevision : String
  schemaRevision : String
  projectionRevision : String
  parametersSha256 : String
  bounds : ReceiptIntelligenceBounds
  expiresAtMs : ℤ

/-- A row of `receipt_intelligence_approvals`; the approval is consumed when it is made. -/
structure ApprovalRow where
  reservation : ReceiptIntelligenceConsentReservation
  localSourceId : String
  createdAtMs : ℤ

/-- A row of `receipt_intelligence_attempts`. -/
structure AttemptRow where
  envelopeSha256 : String
  sourceRevisionId : String
  localSourceId : String
  state : ReceiptIntelligenceAttemptState
  failureCode : Option String
  inputTokens : Option ℕ
  outputTokens : Option ℕ
  createdAtMs : ℤ
  dispatchedAtMs : Option ℤ
  finalizedAtMs : Option ℤ

structure ReceiptIntelligenceAuditMetadata where
  responseSha256 : Option String
  providerRequestId : Option String
  responseId : Option String
  requestBytes : ℕ
  responseBytes : ℕ
  inputTokens : ℕ
  outputTokens : ℕ
  totalTokens : ℕ
  reasoningTokens : ℕ
  cachedInputTokens : ℕ
  attemptCount : ℕ
  dispatchedAtMs : ℤ

/-- A row of `receipt_intelligence_audits`: the report next to what was approved. -/
structure AuditRow where
  sourceRevisionId : String
  localSourceId : String
  sourceRevisionSha256 : String
  projectionSha256 : String
  serializedRequestSha256 : String
  provider : String
  model : String
  promptRevision : String
  schemaRevision : String
  projectionRevision : String
  retentionProvenance : String
  parametersSha256 : String
  metadata : ReceiptIntelligenceAuditMetadata
  finishedAtMs : ℤ

/-- A row of `receipt_intelligence_classifications`. -/
structure ClassificationRow where
  sourceRevisionId : String
  localSourceId : String
  classification : ReceiptIntelligenceClassification
  orderEvidenceId : Option ReceiptOrderEvidenceId
  createdAtMs : ℤ

/-- A row of `receipt_extraction_runs`. -/
structure ExtractionRunRow where
  parseId : String
  status : String
  createdAtMs : ℤ
  completedAtMs : Option ℤ

/-- A row of `receipt_orders`. -/
structure OrderRow where
  lineCount : ℕ
  createdAtMs : ℤ

/-- A row of `receipt_order_lines`. -/
structure OrderLineRow where
  eventKind : Option ReceiptEventKindV1
  createdAtMs : ℤ

/-! ## The attempt as a state machine -/

structure AttemptView where
  attempt : Option AttemptRow
  audit : Option AuditRow
  classification : Option ClassificationRow
  run : Option ExtractionRunRow
  order : Option OrderRow
  line : ℕ → Option OrderLineRow

def AttemptView.state (v : AttemptView) : Option ReceiptIntelligenceAttemptState :=
  v.attempt.map AttemptRow.state

def AttemptView.Apparel (v : AttemptView) : Prop :=
  ∃ row ∈ v.classification, row.classification.publishesOrder = true

inductive Move : AttemptView → AttemptView → Prop
  | stay (v : AttemptView) : Move v v
  | reserve {v : AttemptView} {row : AttemptRow} (hnew : v.attempt = none)
      (hto : row.state = .notSent) : Move v { v with attempt := some row }
  | dispatch {v : AttemptView} {row row' : AttemptRow} (hrow : v.attempt = some row)
      (hfrom : row.state = .notSent) (hto : row'.state = .dispatched) :
      Move v { v with attempt := some row' }
  | close {v : AttemptView} {row row' : AttemptRow} (hrow : v.attempt = some row)
      (hfrom : row.state = .notSent ∨ row.state = .dispatched)
      (hto : row'.state = .failed ∨ row'.state = .outcomeUnknown) :
      Move v { v with attempt := some row' }
  | refuse {v : AttemptView} {row row' : AttemptRow} (audit : AuditRow)
      (hrow : v.attempt = some row) (hfrom : row.state = .dispatched)
      (hto : row'.state = .refused) :
      Move v { v with attempt := some row', audit := some audit }
  | complete {v : AttemptView} {row row' : AttemptRow} (audit : AuditRow)
      (classification : ClassificationRow) (hrow : v.attempt = some row)
      (hfrom : row.state = .dispatched) (hto : row'.state = .completed)
      (hclass : classification.classification.publishesOrder = false)
      (hnone : classification.orderEvidenceId = none) :
      Move v { v with attempt := some row', audit := some audit, classification := some classification }
  | publish {v : AttemptView} {row row' : AttemptRow} (audit : AuditRow)
      (classification : ClassificationRow) (run : ExtractionRunRow) (order : OrderRow)
      (line : ℕ → Option OrderLineRow) (hrow : v.attempt = some row)
      (hfrom : row.state = .dispatched) (hto : row'.state = .completed)
      (hclass : classification.classification.publishesOrder = true)
      (hsome : classification.orderEvidenceId.isSome) :
      Move v ⟨some row', some audit, some classification, some run, some order, line⟩

/-- Any number of things happen. -/
abbrev Moves : AttemptView → AttemptView → Prop := Relation.ReflTransGen Move

structure AttemptView.Sound (v : AttemptView) : Prop where
  classification : v.classification.isSome ↔ v.state = some .completed
  evidence : ∀ row ∈ v.classification,
    row.orderEvidenceId.isSome ↔ row.classification.publishesOrder = true
  order : v.order.isSome ↔ v.Apparel
  run : v.run.isSome ↔ v.order.isSome
  line : ∀ i, (v.line i).isSome → v.order.isSome
  audit : v.audit.isSome ↔ v.state = some .completed ∨ v.state = some .refused

def AttemptView.none : AttemptView := ⟨.none, .none, .none, .none, .none, fun _ => .none⟩

theorem AttemptView.sound_none : AttemptView.none.Sound := by
  refine ⟨by simp [none, state], by simp [none], by simp [none, Apparel], by simp [none],
    by simp [none], by simp [none, state]⟩

variable {row : AttemptRow}

section Moves

variable {v v' : AttemptView}

theorem AttemptView.Sound.withAttempt (h : v.Sound)
    (hfrom : v.state ≠ some .completed ∧ v.state ≠ some .refused)
    (hto : row.state ≠ .completed ∧ row.state ≠ .refused) :
    AttemptView.Sound { v with attempt := some row } := by
  have hclass : ¬ v.classification.isSome := fun hsome => hfrom.1 (h.classification.mp hsome)
  have haudit : ¬ v.audit.isSome := fun hsome =>
    (h.audit.mp hsome).elim hfrom.1 hfrom.2
  refine ⟨?_, h.evidence, h.order, h.run, h.line, ?_⟩
  · simpa [state, hto.1] using hclass
  · simpa [state, hto.1, hto.2] using haudit

/-- **One move** keeps a view sound. -/
theorem Move.sound (hmove : Move v v') (h : v.Sound) : v'.Sound := by
  cases hmove with
  | stay => exact h
  | reserve hnew hto =>
    exact h.withAttempt (by simp [AttemptView.state, hnew]) (by simp [hto])
  | dispatch hrow hfrom hto =>
    exact h.withAttempt (by simp [AttemptView.state, hrow, hfrom]) (by simp [hto])
  | close hrow hfrom hto =>
    refine h.withAttempt ?_ ?_
    · rcases hfrom with hfrom | hfrom <;> simp [AttemptView.state, hrow, hfrom]
    · rcases hto with hto | hto <;> simp [hto]
  | refuse audit hrow hfrom hto =>
    have hclass : ¬ v.classification.isSome := by
      rw [h.classification]
      simp [AttemptView.state, hrow, hfrom]
    refine ⟨?_, h.evidence, h.order, h.run, h.line, ?_⟩
    · simpa [AttemptView.state, hto] using hclass
    · simp [AttemptView.state, hto]
  | complete audit classification hrow hfrom hto hclass hnone =>
    have hbefore : v.classification = none := by
      rw [← Option.not_isSome_iff_eq_none, h.classification]
      simp [AttemptView.state, hrow, hfrom]
    have horder : ¬ v.order.isSome := by
      rw [h.order]
      simp [AttemptView.Apparel, hbefore]
    refine ⟨?_, ?_, ?_, h.run, h.line, ?_⟩
    · simp [AttemptView.state, hto]
    · simp [hnone, hclass]
    · simpa [AttemptView.Apparel, hclass] using horder
    · simp [AttemptView.state, hto]
  | publish audit classification run order line hrow hfrom hto hclass hsome =>
    refine ⟨?_, ?_, ?_, ?_, ?_, ?_⟩
    · simp [AttemptView.state, hto]
    · simp [hsome, hclass]
    · simp [AttemptView.Apparel, hclass]
    · simp
    · simp
    · simp [AttemptView.state, hto]

/-- **A terminal attempt does not move.** -/
theorem Move.eq_of_isTerminal (hmove : Move v v') (hrow : v.attempt = some row)
    (hterminal : row.state.isTerminal) : v' = v := by
  cases hmove with
  | stay => rfl
  | reserve hnew => simp [hnew] at hrow
  | dispatch hrow' hfrom =>
    obtain rfl := Option.mem_unique hrow' hrow
    simp [hfrom, ReceiptIntelligenceAttemptState.isTerminal] at hterminal
  | close hrow' hfrom =>
    obtain rfl := Option.mem_unique hrow' hrow
    rcases hfrom with hfrom | hfrom <;>
      simp [hfrom, ReceiptIntelligenceAttemptState.isTerminal] at hterminal
  | refuse _ hrow' hfrom | complete _ _ hrow' hfrom | publish _ _ _ _ _ hrow' hfrom =>
    obtain rfl := Option.mem_unique hrow' hrow
    simp [hfrom, ReceiptIntelligenceAttemptState.isTerminal] at hterminal

theorem Moves.sound (hmoves : Moves v v') (h : v.Sound) : v'.Sound := by
  induction hmoves with
  | refl => exact h
  | tail _ hmove ih => exact hmove.sound ih

theorem Moves.eq_of_isTerminal (hmoves : Moves v v') (hrow : v.attempt = some row)
    (hterminal : row.state.isTerminal) : v' = v := by
  induction hmoves with
  | refl => rfl
  | tail _ hmove ih =>
    subst ih
    exact hmove.eq_of_isTerminal hrow hterminal

theorem Moves.sent (hmoves : Moves v v') (hrow : v.attempt = some row)
    (hsent : row.state ≠ .notSent) : ∃ row', v'.attempt = some row' ∧ row'.state ≠ .notSent := by
  induction hmoves with
  | refl => exact ⟨row, hrow, hsent⟩
  | tail _ hmove ih =>
    obtain ⟨row₁, hrow₁, hsent₁⟩ := ih
    cases hmove with
    | stay => exact ⟨row₁, hrow₁, hsent₁⟩
    | reserve hnew => simp [hnew] at hrow₁
    | dispatch hrow' hfrom =>
      obtain rfl := Option.mem_unique hrow' hrow₁
      exact absurd hfrom hsent₁
    | close _ _ hto => exact ⟨_, rfl, by rcases hto with hto | hto <;> simp [hto]⟩
    | refuse _ _ _ hto | complete _ _ _ _ hto | publish _ _ _ _ _ _ _ hto =>
      exact ⟨_, rfl, by simp [hto]⟩

end Moves

end Threadbook
