import Threadbook.IntelligenceRepository
import Threadbook.Invariance

/-!
# What a transaction does to an attempt

One inversion lemma for each statement, and from them: whatever transaction is run, and
however it ends, each attempt makes moves (`Attempts`). A completion that fails changes
nothing, and an attempt is marked as sent at most once.
-/

namespace Threadbook

open Table Fallible

def Attempts (t t' : IntelligenceTables) : Prop := ∀ attempt, Moves (t.view attempt) (t'.view attempt)

theorem Attempts.refl (t : IntelligenceTables) : Attempts t t := fun _ => .refl

theorem Attempts.trans (t t' t'' : IntelligenceTables) (h : Attempts t t') (h' : Attempts t' t'') :
    Attempts t t'' :=
  fun attempt => (h attempt).trans (h' attempt)

/-! ## Statements -/

variable {u : PUnit} {publish : IntelligenceTransaction (Option ReceiptOrderEvidenceId)}

section Statements

variable {t t' : IntelligenceTables} {attempt : ReceiptIntelligenceAttemptId}

theorem insertRow_eq_ok {κ ρ : Type} [DecidableEq κ] {table : IntelligenceTables → Table κ ρ}
    {store : Table κ ρ → IntelligenceTables → IntelligenceTables} {key : κ} {row : ρ} :
    insertRow table store key row t = (.ok u, t') ↔
      (table t).find? key = none ∧ store ((table t).put key row) t = t' := by
  rw [insertRow, state_bind, rejectIf_bind_eq_ok, update_run]
  simp

theorem insertRow_bind_eq_ok {κ ρ β : Type} [DecidableEq κ] {table : IntelligenceTables → Table κ ρ}
    {store : Table κ ρ → IntelligenceTables → IntelligenceTables} {key : κ} {row : ρ}
    {f : PUnit → IntelligenceTransaction β} {b : β} :
    (insertRow table store key row >>= f) t = (.ok b, t') ↔
      (table t).find? key = none ∧ f ⟨⟩ (store ((table t).put key row) t) = (.ok b, t') := by
  rw [bind_eq_ok]
  refine ⟨?_, fun ⟨hnew, h⟩ => ⟨⟨⟩, _, insertRow_eq_ok.mpr ⟨hnew, rfl⟩, h⟩⟩
  rintro ⟨⟨⟩, t₁, hinsert, h⟩
  obtain ⟨hnew, rfl⟩ := insertRow_eq_ok.mp hinsert
  exact ⟨hnew, h⟩

theorem advanceReceiptIntelligenceRevision_eq_ok :
    advanceReceiptIntelligenceRevision t = (.ok u, t') →
      t' = { t with receiptIntelligenceRevision := t.receiptIntelligenceRevision + 1 } := by
  rw [advanceReceiptIntelligenceRevision, state_bind, rejectIf_bind_eq_ok, update_run]
  rintro ⟨-, h⟩
  exact (Prod.mk.inj h).2.symm

variable {states : List ReceiptIntelligenceAttemptState} {change : AttemptRow → AttemptRow}

/-- **An update changes nothing** or replaces the row of an attempt in one of the states. -/
theorem updateAttempt_eq_ok {n : ℕ} (h : updateAttempt attempt states change t = (.ok n, t')) :
    (n = 0 ∧ t' = t) ∨ (n = 1 ∧ ∃ row, t.attempts.find? attempt = some row ∧ row.state ∈ states ∧
      t' = { t with attempts := t.attempts.put attempt (change row) }) := by
  rw [updateAttempt, state_bind] at h
  rcases hrow : t.attempts.find? attempt with _ | row <;> simp only [hrow] at h
  · obtain ⟨hn, rfl⟩ := Prod.mk.inj h
    exact .inl ⟨(Except.ok.inj hn).symm, rfl⟩
  · split at h
    · rename_i hstate
      obtain ⟨-, h⟩ := rejectIf_bind_eq_ok.mp h
      rw [update_bind] at h
      obtain ⟨hn, rfl⟩ := Prod.mk.inj h
      exact .inr ⟨(Except.ok.inj hn).symm, row, rfl, hstate, rfl⟩
    · obtain ⟨hn, rfl⟩ := Prod.mk.inj h
      exact .inl ⟨(Except.ok.inj hn).symm, rfl⟩

/-- **A replacement** found the attempt in one of the states. -/
theorem replaceAttempt_eq_ok {code : String}
    (h : replaceAttempt attempt states change code t = (.ok u, t')) :
    ∃ row, t.attempts.find? attempt = some row ∧ row.state ∈ states ∧
      t' = { t with
        attempts := t.attempts.put attempt (change row)
        receiptIntelligenceRevision := t.receiptIntelligenceRevision + 1 } := by
  rw [replaceAttempt] at h
  obtain ⟨n, t₁, hupdate, h⟩ := bind_eq_ok.mp h
  obtain ⟨hchanged, h⟩ := rejectIf_bind_eq_ok.mp h
  have hadvance := advanceReceiptIntelligenceRevision_eq_ok h
  rcases updateAttempt_eq_ok hupdate with ⟨rfl, -⟩ | ⟨-, row, hrow, hstate, rfl⟩
  · exact absurd Nat.zero_ne_one hchanged
  · exact ⟨row, hrow, hstate, hadvance⟩

theorem view_putAttempt (t : IntelligenceTables) (attempt : ReceiptIntelligenceAttemptId)
    (row : AttemptRow) (n : ℕ) (other : ReceiptIntelligenceAttemptId) :
    IntelligenceTables.view { t with
      attempts := t.attempts.put attempt row, receiptIntelligenceRevision := n } other =
      if other = attempt then { t.view attempt with attempt := some row } else t.view other := by
  by_cases h : other = attempt
  · subst h
    simp [IntelligenceTables.view, find?_put]
  · simp [IntelligenceTables.view, find?_put, h]

theorem Attempts.of_move {v : AttemptView} (hmove : Move (t.view attempt) v)
    (hview : ∀ other, t'.view other = if other = attempt then v else t.view other) :
    Attempts t t' := by
  intro other
  rw [hview other]
  split
  · rename_i h
    subst h
    exact .single hmove
  · exact .refl

theorem Attempts.replaceAttempt {code : String}
    (h : replaceAttempt attempt states change code t = (.ok u, t'))
    (hmove : ∀ row, t.attempts.find? attempt = some row → row.state ∈ states →
      Move (t.view attempt) { t.view attempt with attempt := some (change row) }) :
    Attempts t t' := by
  obtain ⟨row, hrow, hstate, rfl⟩ := replaceAttempt_eq_ok h
  exact Attempts.of_move (hmove row hrow hstate) (view_putAttempt t attempt (change row) _)

end Statements

/-! ## Transactions -/

variable {α : Type} {x : IntelligenceTransaction α}

theorem Attempts.atomically (h : ∀ t t' a, x t = (.ok a, t') → Attempts t t') :
    Fallible.Steps Attempts (atomically x) :=
  Fallible.Steps.atomically_of_ok .refl h

/-- A computation that changes nothing. -/
def Reads {α : Type} (x : IntelligenceTransaction α) : Prop := Fallible.Steps Eq x

theorem Reads.attempts (h : Reads x) : Fallible.Steps Attempts x := by
  intro t
  rw [← h t]
  exact .refl t

theorem Reads.eq_ok (h : Reads x) {t t' : IntelligenceTables} {a : α} (hx : x t = (.ok a, t')) :
    t' = t := by
  have := h t
  rw [hx] at this
  exact this.symm

theorem Reads.bind {β : Type} {f : α → IntelligenceTransaction β} (hx : Reads x)
    (hf : ∀ a, Reads (f a)) : Reads (x >>= f) :=
  Fallible.Steps.bind (fun _ _ _ h h' => h.trans h') hx hf

theorem Reads.bind_eq_ok {β : Type} {f : α → IntelligenceTransaction β} (hx : Reads x)
    {t t' : IntelligenceTables} {b : β} (h : (x >>= f) t = (.ok b, t')) :
    ∃ a, x t = (.ok a, t) ∧ f a t = (.ok b, t') := by
  obtain ⟨a, t₁, hfirst, hrest⟩ := Fallible.bind_eq_ok.mp h
  have := hx.eq_ok hfirst
  subst this
  exact ⟨a, hfirst, hrest⟩

theorem Reads.check (r : Except PlatformError α) : Reads (check r) :=
  Fallible.Steps.check (fun _ => rfl) r

theorem Reads.state : Reads state := Fallible.Steps.state fun _ => rfl

theorem Reads.pure (a : α) : Reads (pure a) := Fallible.Steps.pure (fun _ => rfl) a

theorem Reads.fail (e : PlatformError) : Reads (fail e : IntelligenceTransaction α) :=
  Fallible.Steps.fail (fun _ => rfl) e

theorem Reads.rejectIf (e : PlatformError) (p : Prop) [Decidable p] :
    Reads (rejectIf e p) :=
  Fallible.Steps.rejectIf (fun _ => rfl) e p

theorem reads_replayReservation (requestId commandSha256 : String) :
    Reads (replayReservation requestId commandSha256) := by
  refine Reads.state.bind fun t => ?_
  split
  · exact .pure none
  · exact (Reads.rejectIf _ _).bind fun _ => .pure _

theorem reads_requireActiveCredential (credentialId : String) :
    Reads (requireActiveCredential credentialId) :=
  Reads.state.bind fun _ => .rejectIf _ _

theorem reads_preflightReceiptIntelligenceReplay (services : RepositoryServices)
    (requestId commandSha256 : String) :
    Reads (preflightReceiptIntelligenceReplay services requestId commandSha256) :=
  (Reads.check _).bind fun _ => (Reads.check _).bind fun _ =>
    reads_replayReservation requestId commandSha256

theorem reads_previewReceiptIntelligence (services : RepositoryServices)
    (requestId sourceRevisionId : String) (bounds : ReceiptIntelligenceBounds) :
    Reads (previewReceiptIntelligence services requestId sourceRevisionId bounds) :=
  (Reads.check _).bind fun _ => (Reads.check _).bind fun _ => (Reads.check _).bind fun _ =>
    Reads.state.bind fun _ => .check _

theorem reads_receiptIntelligenceCredentialLocator (attempt : ReceiptIntelligenceAttemptId)
    (nowMs : ℤ) : Reads (receiptIntelligenceCredentialLocator attempt nowMs) := by
  refine Reads.state.bind fun t => ?_
  split
  · exact .fail _
  · refine (Reads.rejectIf _ _).bind fun _ => (Reads.rejectIf _ _).bind fun _ => ?_
    split
    · split
      · exact .pure _
      · exact .fail _
    · exact .fail _

theorem reads_ensureApprovedPreviewIsCurrent (services : RepositoryServices)
    (attempt : ReceiptIntelligenceAttemptId) :
    Reads (ensureApprovedPreviewIsCurrent services attempt) := by
  refine Reads.state.bind fun t => ?_
  split
  · exact .fail _
  · exact (Reads.check _).bind fun _ => .rejectIf _ _

section Transactions

variable {services : RepositoryServices} {attempt : ReceiptIntelligenceAttemptId}

/-- **Reserving** adds an attempt that was not sent. -/
theorem attempts_reserveReceiptIntelligence
    (reservation : ReceiptIntelligenceConsentReservation) (nowMs : ℤ) :
    Fallible.Steps Attempts (reserveReceiptIntelligence services reservation nowMs) := by
  refine Attempts.atomically fun t t' reserved h => ?_
  obtain ⟨replayed, -, h⟩ := (reads_replayReservation _ _).bind_eq_ok h
  rcases replayed with _ | existing
  · obtain ⟨-, h⟩ := require_bind_eq_ok.mp h
    rw [state_bind] at h
    obtain ⟨preview, -, h⟩ := Fallible.check_bind_eq_ok.mp h
    obtain ⟨-, h⟩ := rejectIf_bind_eq_ok.mp h
    obtain ⟨⟨⟩, -, h⟩ := (reads_requireActiveCredential _).bind_eq_ok h
    obtain ⟨-, h⟩ := insertRow_bind_eq_ok.mp h
    obtain ⟨hnew, h⟩ := insertRow_bind_eq_ok.mp h
    obtain ⟨⟨⟩, t₁, hadvance, h⟩ := bind_eq_ok.mp h
    obtain ⟨-, rfl⟩ := Prod.mk.inj h
    rw [advanceReceiptIntelligenceRevision_eq_ok hadvance]
    exact Attempts.of_move (t := t) (Move.reserve hnew rfl) fun other => view_putAttempt
      { t with approvals := t.approvals.put ⟨reservation.requestId⟩ _ } ⟨reservation.requestId⟩ _
      (t.receiptIntelligenceRevision + 1) other
  · obtain ⟨-, rfl⟩ := Prod.mk.inj h
    exact .refl t

variable {nowMs : ℤ} {t t' : IntelligenceTables} {audit : ReceiptIntelligenceAuditMetadata}
  {classification : ReceiptIntelligenceClassification}

/-- **Marking** finds an attempt that was not sent, and sends it. -/
theorem markReceiptIntelligenceDispatched_eq_ok
    (h : markReceiptIntelligenceDispatched attempt nowMs t = (.ok u, t')) :
    ∃ row, t.attempts.find? attempt = some row ∧ row.state = .notSent ∧
      t' = { t with
        attempts := t.attempts.put attempt (row.dispatch nowMs)
        receiptIntelligenceRevision := t.receiptIntelligenceRevision + 1 } := by
  have h := atomically_eq_ok.mp h
  rw [state_bind] at h
  rcases happroved : t.approved attempt with _ | ⟨row, approval⟩ <;> simp only [happroved] at h
  · cases h
  · obtain ⟨-, h⟩ := rejectIf_bind_eq_ok.mp h
    obtain ⟨-, h⟩ := rejectIf_bind_eq_ok.mp h
    obtain ⟨-, h⟩ := rejectIf_bind_eq_ok.mp h
    obtain ⟨row', hrow, hstate, rfl⟩ := replaceAttempt_eq_ok h
    exact ⟨row', hrow, by simpa using hstate, rfl⟩

theorem attempts_markReceiptIntelligenceDispatched (nowMs : ℤ) :
    Fallible.Steps Attempts (markReceiptIntelligenceDispatched attempt nowMs) := by
  intro t
  rcases h : markReceiptIntelligenceDispatched attempt nowMs t with ⟨e | u, t'⟩
  · rw [atomically_of_error h]
    exact .refl t
  · obtain ⟨row, hrow, hstate, rfl⟩ := markReceiptIntelligenceDispatched_eq_ok h
    exact Attempts.of_move (Move.dispatch hrow hstate rfl) (view_putAttempt t attempt _ _)

theorem attempts_failReceiptIntelligence (code : ReceiptIntelligenceFailureCode) (nowMs : ℤ) :
    Fallible.Steps Attempts (failReceiptIntelligence attempt code nowMs) := by
  refine Attempts.atomically fun t t' u h => Attempts.replaceAttempt h fun row hrow hstate => ?_
  exact Move.close hrow (by simpa using hstate) (.inl rfl)

theorem move_giveUp {row : AttemptRow} (nowMs : ℤ) (hrow : t.attempts.find? attempt = some row)
    (hstate : row.state ∈ [ReceiptIntelligenceAttemptState.dispatched]) :
    Move (t.view attempt) { t.view attempt with attempt := some (row.giveUp nowMs) } :=
  Move.close hrow (.inr (by simpa using hstate)) (.inr rfl)

theorem attempts_markReceiptIntelligenceOutcomeUnknown (nowMs : ℤ) :
    Fallible.Steps Attempts (markReceiptIntelligenceOutcomeUnknown attempt nowMs) :=
  Attempts.atomically fun _ _ _ h => Attempts.replaceAttempt h fun _ hrow hstate =>
    move_giveUp nowMs hrow hstate

/-- **Recovery** closes what was sent, attempt by attempt. -/
theorem attempts_recoverReceiptIntelligenceAttempts (nowMs : ℤ) :
    Fallible.Steps Attempts (recoverReceiptIntelligenceAttempts services nowMs) := by
  refine Attempts.atomically fun t t' ids h => ?_
  rw [state_bind] at h
  obtain ⟨recovered, t₁, hloop, h⟩ := bind_eq_ok.mp h
  rw [state_bind] at h
  have hclosed : Attempts t t₁ := by
    refine (forEach_visits Attempts.refl Attempts.trans (fun other _ n s s' hupdate => ?_) hloop).1
    rcases updateAttempt_eq_ok hupdate with ⟨-, rfl⟩ | ⟨-, row, hrow, hstate, rfl⟩
    · exact .refl s'
    · exact Attempts.of_move (move_giveUp nowMs hrow hstate) (view_putAttempt s other _ _)
  refine hclosed.trans _ _ _ ?_
  split at h
  · obtain ⟨⟨⟩, t₂, hadvance, h⟩ := bind_eq_ok.mp h
    obtain ⟨-, rfl⟩ := Prod.mk.inj h
    rw [advanceReceiptIntelligenceRevision_eq_ok hadvance]
    exact .refl t₁
  · obtain ⟨-, rfl⟩ := Prod.mk.inj h
    exact .refl t₁

/-! ## Closing with a result -/

/-- **An audit** is stored for an attempt that was sent. -/
theorem insertAudit_bind_eq_ok {β : Type} {f : PUnit → IntelligenceTransaction β} {b : β}
    (h : (insertAudit attempt audit nowMs >>= f) t = (.ok b, t')) :
    ∃ row, f ⟨⟩ { t with audits := t.audits.put attempt row } = (.ok b, t') := by
  obtain ⟨⟨⟩, t₁, hinsert, h⟩ := bind_eq_ok.mp h
  rw [insertAudit, state_bind] at hinsert
  rcases happroved : t.approved attempt with _ | ⟨row, approval⟩ <;>
    simp only [happroved] at hinsert
  · cases hinsert
  · obtain ⟨-, hinsert⟩ := rejectIf_bind_eq_ok.mp hinsert
    obtain ⟨-, hinsert⟩ := rejectIf_bind_eq_ok.mp hinsert
    obtain ⟨-, rfl⟩ := insertRow_eq_ok.mp hinsert
    exact ⟨_, h⟩

/-- **A refusal** is stored with its audit. -/
theorem attempts_refuseReceiptIntelligence (audit : ReceiptIntelligenceAuditMetadata) (nowMs : ℤ) :
    Fallible.Steps Attempts (refuseReceiptIntelligence attempt audit nowMs) := by
  refine Fallible.Steps.bind Attempts.trans (Fallible.Steps.check Attempts.refl _) fun _ => ?_
  refine Attempts.atomically fun t t' u h => ?_
  obtain ⟨auditRow, h⟩ := insertAudit_bind_eq_ok h
  obtain ⟨row, hrow, hstate, rfl⟩ := replaceAttempt_eq_ok h
  have hmove : Move (t.view attempt) { t.view attempt with
      attempt := some (row.refuse audit nowMs), audit := some auditRow } :=
    Move.refuse auditRow hrow (by simpa using hstate) rfl
  refine Attempts.of_move hmove fun other => ?_
  rw [view_putAttempt]
  by_cases hother : other = attempt
  · simp [IntelligenceTables.view, find?_put, hother]
  · simp [IntelligenceTables.view, find?_put, hother]

structure Publishes (attempt : ReceiptIntelligenceAttemptId) (t t' : IntelligenceTables) : Prop where
  attempts : t'.attempts = t.attempts
  approvals : t'.approvals = t.approvals
  audits : t'.audits = t.audits
  classifications : t'.classifications = t.classifications
  runs : ∀ run, run ≠ .intelligence attempt → t'.runs.find? run = t.runs.find? run
  orders : ∀ order, order ≠ attempt.order → t'.orders.find? order = t.orders.find? order
  orderLines : ∀ order i, order ≠ attempt.order →
    t'.orderLines.find? (order, i) = t.orderLines.find? (order, i)

theorem Publishes.refl (t : IntelligenceTables) : Publishes attempt t t :=
  ⟨rfl, rfl, rfl, rfl, fun _ _ => rfl, fun _ _ => rfl, fun _ _ _ => rfl⟩

theorem Publishes.trans (t t' t'' : IntelligenceTables) (h : Publishes attempt t t')
    (h' : Publishes attempt t' t'') : Publishes attempt t t'' where
  attempts := h'.attempts.trans h.attempts
  approvals := h'.approvals.trans h.approvals
  audits := h'.audits.trans h.audits
  classifications := h'.classifications.trans h.classifications
  runs := fun run hne => (h'.runs run hne).trans (h.runs run hne)
  orders := fun order hne => (h'.orders order hne).trans (h.orders order hne)
  orderLines := fun order i hne => (h'.orderLines order i hne).trans (h.orderLines order i hne)

theorem Publishes.view (h : Publishes attempt t t') {other : ReceiptIntelligenceAttemptId}
    (hother : other ≠ attempt) : t'.view other = t.view other := by
  have hrun : ReceiptRunId.intelligence other ≠ .intelligence attempt := by simpa using hother
  have horder : other.order ≠ attempt.order := by
    simpa [ReceiptIntelligenceAttemptId.order] using hother
  simp only [IntelligenceTables.view, h.attempts, h.audits, h.classifications, h.runs _ hrun,
    h.orders _ horder, h.orderLines _ _ horder]

/-- **Storing an order** leaves everything else, and the order is there. -/
theorem persistOrderGraph_eq_ok {lines : List (Option ReceiptEventKindV1)}
    (h : persistOrderGraph attempt.order lines nowMs t = (.ok u, t')) :
    Publishes attempt t t' ∧ t'.orders.find? attempt.order = some ⟨lines.length, nowMs⟩ ∧
      t'.runs = t.runs := by
  obtain ⟨-, h⟩ := insertRow_bind_eq_ok.mp h
  obtain ⟨lineIds, t₁, hloop, h⟩ := bind_eq_ok.mp h
  cases h
  let frame : IntelligenceTables → IntelligenceTables → Prop := fun s s' =>
    Publishes attempt s s' ∧ s'.orders = s.orders ∧ s'.runs = s.runs
  have hlines := (forEach_visits (R := frame) (fun s => ⟨.refl s, rfl, rfl⟩)
    (fun a b c hab hbc => ⟨hab.1.trans _ _ _ hbc.1, hbc.2.1.trans hab.2.1, hbc.2.2.trans hab.2.2⟩)
    (fun line _ _ s s' hinsert => ?_) hloop).1
  · refine ⟨Publishes.trans _ _ _ ?_ hlines.1, ?_, hlines.2.2⟩
    · exact ⟨rfl, rfl, rfl, rfl, fun _ _ => rfl,
        fun order hne => by simp [find?_put, hne], fun _ _ _ => rfl⟩
    · rw [hlines.2.1]
      simp [find?_put]
  · obtain ⟨-, rfl⟩ := insertRow_eq_ok.mp hinsert
    refine ⟨⟨rfl, rfl, rfl, rfl, fun _ _ => rfl, fun _ _ => rfl, fun order i hne => ?_⟩, rfl, rfl⟩
    simp [find?_put, hne]

/-- **Publishing** leaves everything but the attempt's order, which is there with its run. -/
theorem publishReceiptIntelligenceOrder_eq_ok {extraction : ReceiptIntelligenceExtraction}
    {order : ReceiptOrderEvidenceId}
    (h : publishReceiptIntelligenceOrder services attempt extraction nowMs t = (.ok order, t')) :
    Publishes attempt t t' ∧ order = attempt.order ∧
      (t'.runs.find? (.intelligence attempt)).isSome ∧ (t'.orders.find? attempt.order).isSome := by
  rw [publishReceiptIntelligenceOrder, state_bind] at h
  rcases hattempt : t.attempts.find? attempt with _ | row <;> simp only [hattempt] at h
  · cases h
  obtain ⟨-, h⟩ := rejectIf_bind_eq_ok.mp h
  rcases hparse : latestParse t.receipts row.localSourceId with _ | parseId <;>
    simp only [hparse] at h
  · cases h
  obtain ⟨lines, -, h⟩ := Fallible.check_bind_eq_ok.mp h
  rcases hrun : t.runs.find? (.intelligence attempt) with _ | run <;> simp only [hrun] at h
  · -- the run is new, and so is the order
    obtain ⟨-, h⟩ := insertRow_bind_eq_ok.mp h
    obtain ⟨⟨⟩, t₁, hpersist, h⟩ := bind_eq_ok.mp h
    rw [update_bind] at h
    obtain ⟨horder, rfl⟩ := Prod.mk.inj h
    obtain ⟨hpublishes, hfound, -⟩ := persistOrderGraph_eq_ok hpersist
    refine ⟨Publishes.trans _ _ _ ?_ (hpublishes.trans _ _ _ ?_), (Except.ok.inj horder).symm, ?_, ?_⟩
    · exact ⟨rfl, rfl, rfl, rfl, fun run hne => by simp [Table.find?_put, hne], fun _ _ => rfl,
        fun _ _ _ => rfl⟩
    · exact ⟨rfl, rfl, rfl, rfl, fun run hne => by simp [Table.find?_put, hne], fun _ _ => rfl,
        fun _ _ _ => rfl⟩
    · simp [Table.find?_put]
    · simp [hfound]
  · -- the run was there, and the order is
    obtain ⟨-, h⟩ := rejectIf_bind_eq_ok.mp h
    obtain ⟨hfound, h⟩ := rejectIf_bind_eq_ok.mp h
    obtain ⟨horder, rfl⟩ := Prod.mk.inj h
    exact ⟨.refl t, (Except.ok.inj horder).symm, by simp [hrun],
      by simpa [Option.isNone_iff_eq_none, Option.isSome_iff_ne_none] using hfound⟩

def Publication (attempt : ReceiptIntelligenceAttemptId)
    (publish : IntelligenceTransaction (Option ReceiptOrderEvidenceId)) : Prop :=
  ∀ t t' order, publish t = (.ok order, t') → (order = none ∧ t' = t) ∨
    (order.isSome ∧ Publishes attempt t t' ∧ (t'.runs.find? (.intelligence attempt)).isSome ∧
      (t'.orders.find? attempt.order).isSome)

/-- **A completion** stores the audit, the classification and what was published. -/
theorem attempts_completeReceiptIntelligenceWithPublication
    (hpublish : Publication attempt publish) :
    Fallible.Steps Attempts (completeReceiptIntelligenceWithPublication services attempt classification audit
      nowMs publish) := by
  refine Fallible.Steps.bind Attempts.trans (Fallible.Steps.check Attempts.refl _) fun _ => ?_
  refine Attempts.atomically fun t t' u h => ?_
  rw [state_bind] at h
  rcases hattempt : t.attempts.find? attempt with _ | row <;> simp only [hattempt] at h
  · cases h
  obtain ⟨hdispatched, h⟩ := rejectIf_bind_eq_ok.mp h
  obtain ⟨⟨⟩, -, h⟩ := (reads_ensureApprovedPreviewIsCurrent services attempt).bind_eq_ok h
  obtain ⟨order, t₁, hpublished, h⟩ := bind_eq_ok.mp h
  obtain ⟨hclass, h⟩ := rejectIf_bind_eq_ok.mp h
  rw [state_bind] at h
  obtain ⟨-, h⟩ := rejectIf_bind_eq_ok.mp h
  obtain ⟨-, h⟩ := rejectIf_bind_eq_ok.mp h
  obtain ⟨auditRow, h⟩ := insertAudit_bind_eq_ok h
  obtain ⟨⟨⟩, t₂, hinsert, h⟩ := bind_eq_ok.mp h
  rw [insertClassification, state_bind] at hinsert
  obtain ⟨-, hinsert⟩ := rejectIf_bind_eq_ok.mp hinsert
  obtain ⟨-, rfl⟩ := insertRow_eq_ok.mp hinsert
  obtain ⟨row', hrow, hstate, rfl⟩ := replaceAttempt_eq_ok h
  have hstate : row'.state = .dispatched := by simpa using hstate
  rcases hpublish t t₁ order hpublished with ⟨rfl, rfl⟩ | ⟨hsome, hpublishes, hrun, horder⟩
  · -- a class without an order
    have hmove : Move (t₁.view attempt) { t₁.view attempt with
        attempt := some (row'.complete audit nowMs), audit := some auditRow
        classification := some ⟨row.sourceRevisionId, row.localSourceId, classification, none, nowMs⟩ } :=
      Move.complete auditRow _ hrow hstate rfl (by simpa using hclass) rfl
    refine Attempts.of_move hmove fun other => ?_
    rw [view_putAttempt]
    by_cases hother : other = attempt
    · simp [IntelligenceTables.view, find?_put, hother]
    · simp [IntelligenceTables.view, find?_put, hother]
  · -- a class with an order, which was published
    obtain ⟨run, hrun⟩ := Option.isSome_iff_exists.mp hrun
    obtain ⟨orderRow, horder⟩ := Option.isSome_iff_exists.mp horder
    have hbefore : t.attempts.find? attempt = some row' := by rw [← hpublishes.attempts]; exact hrow
    have hmove : Move (t.view attempt) ⟨some (row'.complete audit nowMs), some auditRow,
        some ⟨row.sourceRevisionId, row.localSourceId, classification, order, nowMs⟩, some run,
        some orderRow, fun i => t₁.orderLines.find? (attempt.order, i)⟩ :=
      Move.publish auditRow _ run orderRow _ hbefore hstate rfl (by simpa [hsome] using hclass) hsome
    refine Attempts.of_move hmove fun other => ?_
    rw [view_putAttempt]
    by_cases hother : other = attempt
    · simp [IntelligenceTables.view, find?_put, hother, hrun, horder]
    · have hview := hpublishes.view hother
      simp only [IntelligenceTables.view, AttemptView.mk.injEq] at hview
      simp [IntelligenceTables.view, find?_put, hother, hview]

theorem attempts_completeReceiptIntelligenceWithoutOrder : Fallible.Steps Attempts
      (completeReceiptIntelligenceWithoutOrder services attempt classification audit nowMs) := by
  rw [completeReceiptIntelligenceWithoutOrder]
  split
  · exact Fallible.Steps.fail Attempts.refl _
  · refine attempts_completeReceiptIntelligenceWithPublication fun t t' order h => ?_
    obtain ⟨horder, rfl⟩ := Prod.mk.inj h
    exact .inl ⟨(Except.ok.inj horder).symm, rfl⟩

theorem attempts_completeReceiptIntelligenceWithOrder {output : ReceiptIntelligenceOutput} :
    Fallible.Steps Attempts
      (completeReceiptIntelligenceWithOrder services attempt classification output audit nowMs) := by
  rw [completeReceiptIntelligenceWithOrder]
  split
  · exact Fallible.Steps.fail Attempts.refl _
  · split
    · exact Fallible.Steps.fail Attempts.refl _
    · refine attempts_completeReceiptIntelligenceWithPublication fun t t' order h => ?_
      obtain ⟨published, t₁, hpublish, h⟩ := bind_eq_ok.mp h
      obtain ⟨horder, rfl⟩ := Prod.mk.inj h
      cases horder
      obtain ⟨hpublishes, -, hrun, hfound⟩ := publishReceiptIntelligenceOrder_eq_ok hpublish
      exact .inr ⟨rfl, hpublishes, hrun, hfound⟩

/-! ## Completions that fail -/

/-- **A completion that fails** changes nothing. -/
theorem completeReceiptIntelligenceWithPublication_of_error {e : PlatformError}
    (h : completeReceiptIntelligenceWithPublication services attempt classification audit nowMs
      publish t = (.error e, t')) : t' = t := by
  rw [completeReceiptIntelligenceWithPublication, check_bind] at h
  split at h
  · exact atomically_of_error h
  · exact (Prod.mk.inj h).2.symm

theorem refuseReceiptIntelligence_of_error {e : PlatformError}
    (h : refuseReceiptIntelligence attempt audit nowMs t = (.error e, t')) : t' = t := by
  rw [refuseReceiptIntelligence, check_bind] at h
  split at h
  · exact atomically_of_error h
  · exact (Prod.mk.inj h).2.symm

end Transactions

end Threadbook
