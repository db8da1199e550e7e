import Threadbook.CatalogUndo

/-!
# Runs of the catalog

Every command is one transaction that holds the write lock from its first statement, so the
interleavings of any number of callers are the sequences of their transactions. A step is a
command, whatever its outcome, a transaction of an import, or a promotion.
-/

namespace Threadbook.Catalog

open Table Fallible
open Promotion (ItemAttributesV1 RequestId ReplayStatusV1)

variable {services : CatalogServices} {t t' : CatalogTables} {command : CatalogCommand}

/-! ## Commands -/

structure Creates (services : CatalogServices) (command : CatalogCommand) (t : CatalogTables)
    (response : MutationResponse) (t' : CatalogTables) : Prop where
  new : t.commandReceipts.find? command.requestId = none
  run : command.execute services t = (.ok response, t')

def receiptRow (services : CatalogServices) (command : CatalogCommand)
    (response : MutationResponse) : CommandReceiptRow :=
  ⟨command.name, envelopeHash services command, .catalog response⟩

theorem execute_of_error {e : PlatformError}
    (h : command.execute services t = (.error e, t')) : t' = t := atomically_of_error h

/-- **Replay**: a command that was carried out is answered from its receipt. -/
theorem execute_of_receipt {row : CommandReceiptRow}
    (hrow : t.commandReceipts.find? command.requestId = some row) :
    command.execute services t =
      ((if row.commandName = command.name ∧ row.envelopeHash = envelopeHash services command then
        replayed row.response else .error (.conflict "command_envelope_changed")), t) := by
  have hreplay : replay t command.name command.requestId (envelopeHash services command) =
      if row.commandName = command.name ∧ row.envelopeHash = envelopeHash services command then
        .ok (some row.response) else .error (.conflict "command_envelope_changed") := by
    rw [replay, hrow]
  apply atomically_of_same
  rw [state_bind, hreplay]
  by_cases hsame : row.commandName = command.name ∧
      row.envelopeHash = envelopeHash services command
  · rw [if_pos hsame, if_pos hsame, bind_of_ok (check_run _ _)]
    rfl
  · rw [if_neg hsame, if_neg hsame, bind_of_error (check_run _ _)]

variable {response : MutationResponse}

theorem Creates.mutation (h : Creates services command t response t') :
    ∃ outcome t₁, command.mutate services t = (.ok outcome, t₁) ∧
      response = outcome.response command.requestId ∧
      t' = { t₁ with commandReceipts :=
        t₁.commandReceipts.put command.requestId (receiptRow services command response) } := by
  have hrun := h.run
  rw [CatalogCommand.execute, atomically_eq_ok, state_bind, Fallible.check_bind_eq_ok] at hrun
  obtain ⟨stored, hreplay, hrun⟩ := hrun
  rw [replay, h.new] at hreplay
  cases hreplay
  simp only [CatalogCommand.perform] at hrun
  obtain ⟨outcome, t₁, hmutate, hrun⟩ := bind_eq_ok.mp hrun
  rw [storeReceipt, insertRow_bind_eq_ok, pure_run] at hrun
  obtain ⟨-, hrun⟩ := hrun
  obtain ⟨hresponse, rfl⟩ := Prod.mk.inj hrun
  cases hresponse
  exact ⟨outcome, t₁, hmutate, rfl, rfl⟩

theorem execute_eq_ok (h : command.execute services t = (.ok response, t')) :
    t' = t ∨ Creates services command t response t' := by
  cases hrow : t.commandReceipts.find? command.requestId with
  | none => exact .inr ⟨hrow, h⟩
  | some row =>
    rw [execute_of_receipt hrow] at h
    exact .inl (Prod.mk.inj h).2.symm

theorem mutate_records {outcome : MutationOutcome}
    (h : command.mutate services t = (.ok outcome, t')) :
    Records services command t t' outcome := by
  cases command with
  | save request => exact (saveItem_eq_ok h).1
  | decide request => exact (decideEvidence_eq_ok h).1
  | merge request => exact (mergeItems_eq_ok h).1
  | split request => exact (splitItem_eq_ok h).1
  | undo request => exact (undoDecision_eq_ok h).1

/-- **A first success** advances the revision the caller has seen by one, and appends one
decision at it. -/
structure Appended (services : CatalogServices) (command : CatalogCommand) (t : CatalogTables)
    (response : MutationResponse) (t' : CatalogTables) (row : DecisionRow) : Prop where
  expected : t.catalogRevision = command.expectedCatalogRevision
  revision : t'.catalogRevision = t.catalogRevision + 1
  answered : response.newCatalogRevision = t'.catalogRevision ∧
    response.decision.decisionId = decisionIdOf services command.requestId ∧
    response.replayStatus = .created
  row_revision : row.catalogRevision = t'.catalogRevision
  row_request : row.requestId = command.requestId
  row_kind : row.kind ≠ .promoteReceiptPurchaseUnit
  row_inverse : row.inverse = some (captureProjection t (command.listedItems services t)
    (command.listedEvidence services t))
  new : t.decisions.find? (decisionIdOf services command.requestId) = none
  decisions : t'.decisions = t.decisions.put (decisionIdOf services command.requestId) row
  receipts : t'.commandReceipts =
    t.commandReceipts.put command.requestId (receiptRow services command response)
  generation : t'.evidenceGeneration = t.evidenceGeneration
  sources : t'.sources = t.sources ∧ t'.quarantines = t.quarantines
  named : ∀ x ∈ command.listedItems services t, (t'.decisionEntities.find?
    (decisionIdOf services command.requestId, .item x)).isSome
  entities_kept : ∀ key, (t.decisionEntities.find? key).isSome →
    (t'.decisionEntities.find? key).isSome
  entities_new : ∀ key, (t'.decisionEntities.find? key).isSome →
    (t.decisionEntities.find? key).isSome ∨
      key.1 = decisionIdOf services command.requestId

theorem Creates.appended (h : Creates services command t response t') :
    ∃ row, Appended services command t response t' row := by
  obtain ⟨outcome, t₁, hmutate, rfl, rfl⟩ := h.mutation
  have hrecords := mutate_records hmutate
  obtain ⟨kind, compensates, named, hkind, happends⟩ := hrecords.appends
  have hrevision : t₁.catalogRevision = t.catalogRevision + 1 := happends.catalogRevision
  refine ⟨_, hrecords.expected, hrevision, ⟨?_, hrecords.decision_id, rfl⟩, hrevision.symm, rfl,
    hkind, rfl, happends.decision_new, happends.decisions, ?_, happends.evidenceGeneration,
    ⟨happends.sources, happends.quarantines⟩, ?_, happends.entities_kept, ?_⟩
  · exact hrecords.revision.trans hrevision.symm
  · have hreceipts : t₁.commandReceipts = t.commandReceipts := happends.commandReceipts
    simp only [hreceipts]
  · intro x hx
    exact happends.named _ (List.mem_append_left _ (List.mem_map_of_mem hx))
  · intro key hkey
    cases happends.entities_new key hkey with
    | inl hkept => exact .inl hkept
    | inr hnew =>
      obtain ⟨entity, -, rfl⟩ := hnew
      exact .inr rfl

/-! ## Imports -/

structure Imports (t t' : CatalogTables) : Prop where
  catalogRevision : t'.catalogRevision = t.catalogRevision
  evidenceGeneration : t.evidenceGeneration ≤ t'.evidenceGeneration
  extends_placement : Placement.Extends .unresolved t.placement t'.placement
  decisions : t'.decisions = t.decisions
  decisionEntities : t'.decisionEntities = t.decisionEntities
  receipts : ∀ id row, t.commandReceipts.find? id = some row →
    t'.commandReceipts.find? id = some row

theorem Imports.refl (t : CatalogTables) : Imports t t :=
  ⟨rfl, le_rfl, Placement.Extends.refl _, rfl, rfl, fun _ _ h => h⟩

theorem Imports.trans (t t₁ t' : CatalogTables) (hfirst : Imports t t₁)
    (hsecond : Imports t₁ t') : Imports t t' where
  catalogRevision := hsecond.catalogRevision.trans hfirst.catalogRevision
  evidenceGeneration := hfirst.evidenceGeneration.trans hsecond.evidenceGeneration
  extends_placement := hfirst.extends_placement.trans hsecond.extends_placement
  decisions := hsecond.decisions.trans hfirst.decisions
  decisionEntities := hsecond.decisionEntities.trans hfirst.decisionEntities
  receipts id row h := hsecond.receipts id row (hfirst.receipts id row h)

theorem receipts_kept {requestId : RequestId} {receipt : CommandReceiptRow}
    (hnew : t.commandReceipts.find? requestId = none) {id : RequestId} {row : CommandReceiptRow}
    (h : t.commandReceipts.find? id = some row) :
    (t.commandReceipts.put requestId receipt).find? id = some row := by
  rw [find?_put]
  split
  · rename_i heq
    rw [heq, hnew] at h
    cases h
  · exact h

theorem imports_statement {statement : ImportStatement} {u : PUnit}
    (h : statement.run t = (.ok u, t')) : Imports t t' := by
  cases statement with
  | recordSource sourceId row =>
    obtain rfl := (Prod.mk.inj h).2
    exact ⟨rfl, le_rfl, Placement.Extends.refl _, rfl, rfl, fun _ _ h => h⟩
  | recordQuarantine quarantineId row =>
    simp only [ImportStatement.run, state_bind, rejectIf_bind_eq_ok, update_run] at h
    obtain ⟨-, h⟩ := h
    obtain rfl := (Prod.mk.inj h).2
    exact ⟨rfl, le_rfl, Placement.Extends.refl _, rfl, rfl, fun _ _ h => h⟩
  | ensureEvidence evidenceId sourceId kind createdAtMs =>
    simp only [ImportStatement.run, state_bind, rejectIf_bind_eq_ok, update_run] at h
    obtain ⟨-, h⟩ := h
    obtain rfl := (Prod.mk.inj h).2
    refine ⟨rfl, le_rfl, ⟨fun _ => rfl, fun _ => rfl, ?_, ?_⟩, rfl, rfl, fun _ _ h => h⟩
    · intro e s hs
      obtain ⟨row, hrow, hstate⟩ := Option.map_eq_some_iff.mp hs
      simp only [CatalogTables.placement, find?_insertOrIgnore_of_some hrow,
        Option.map_some, hstate]
    · intro e hnone
      have hmissing : t.evidence.find? e = none := Option.map_eq_none_iff.mp hnone
      simp only [CatalogTables.placement, find?_insertOrIgnore]
      split
      · rename_i heq
        rw [← heq, hmissing]
        exact .inr rfl
      · rw [hmissing]
        exact .inl rfl
  | bumpEvidenceGeneration =>
    obtain rfl := (Prod.mk.inj h).2
    exact ⟨rfl, Nat.le_succ _, Placement.Extends.refl _, rfl, rfl, fun _ _ h => h⟩
  | storeResponse requestId name envelope =>
    rw [ImportStatement.run, storeReceipt, insertRow_eq_ok] at h
    obtain ⟨hnew, rfl⟩ := h
    exact ⟨rfl, le_rfl, Placement.Extends.refl _, rfl, rfl, fun _ _ h => receipts_kept hnew h⟩

/-- **An import**, whatever its outcome. -/
theorem imports_of_import {statements : List ImportStatement} {r : Except PlatformError PUnit}
    (h : importTransaction statements t = (r, t')) : Imports t t' := by
  cases r with
  | error e => exact atomically_of_error h ▸ Imports.refl t
  | ok u =>
    rw [importTransaction, atomically_eq_ok] at h
    obtain ⟨us, t₁, hloop, h⟩ := bind_eq_ok.mp h
    obtain rfl := (Prod.mk.inj h).2
    exact (forEach_visits Imports.refl Imports.trans
      (fun statement _ u s s' hstep => imports_statement hstep) hloop).1

/-! ## Promotions -/

structure Promotes (promotion : CatalogPromotion) (t t' : CatalogTables) : Prop where
  catalogRevision : t'.catalogRevision = t.catalogRevision + 1
  evidenceGeneration : t'.evidenceGeneration = t.evidenceGeneration + 1
  item_new : t.placement.item promotion.itemId = none
  evidence_new : t.placement.state promotion.evidenceId = none
  item : ∀ x, t'.placement.item x = if x = promotion.itemId then
    some (promotion.attributes, true) else t.placement.item x
  state : ∀ e, t'.placement.state e = if e = promotion.evidenceId then some .assigned
    else t.placement.state e
  link : ∀ e, t'.placement.link e = if e = promotion.evidenceId then some promotion.itemId
    else t.placement.link e
  decision_new : t.decisions.find? promotion.decisionId = none
  decisions : ∃ row, row.kind = .promoteReceiptPurchaseUnit ∧
    row.catalogRevision = t.catalogRevision + 1 ∧
    t'.decisions = t.decisions.put promotion.decisionId row
  named : (t'.decisionEntities.find? (promotion.decisionId, .item promotion.itemId)).isSome
  entities_kept : ∀ key, (t.decisionEntities.find? key).isSome →
    (t'.decisionEntities.find? key).isSome
  receipts : ∀ id row, t.commandReceipts.find? id = some row →
    t'.commandReceipts.find? id = some row
  restores : ∀ row, t'.decisions.find? promotion.decisionId = some row → row.inverse = none

theorem promoteReceiptPurchaseUnit_eq_ok {promotion : CatalogPromotion} {u : PUnit}
    (h : promoteReceiptPurchaseUnit promotion t = (.ok u, t')) : Promotes promotion t t' := by
  rw [promoteReceiptPurchaseUnit, atomically_eq_ok, advanceRevision_bind_eq_ok] at h
  simp only [update_bind, state_bind, insertRow_bind_eq_ok, rejectIf_bind_eq_ok] at h
  obtain ⟨hexpected, hitem, -, hevidence, h⟩ := h
  obtain ⟨⟨⟩, t₁, hlink, h⟩ := bind_eq_ok.mp h
  obtain ⟨⟨⟩, t₂, hdecision, h⟩ := bind_eq_ok.mp h
  obtain ⟨⟨⟩, t₃, hnamedItem, h⟩ := bind_eq_ok.mp h
  obtain ⟨⟨⟩, t₄, hnamedEvidence, h⟩ := bind_eq_ok.mp h
  rw [storeReceipt, insertRow_eq_ok] at h
  obtain ⟨hreceipt, rfl⟩ := h
  obtain ⟨-, -, hunlinked, hplacement, hledger⟩ := insertItemEvidence_eq_ok hlink
  obtain ⟨hdecisionNew, -, rfl⟩ := insertDecision_eq_ok hdecision
  have hnames := (names_insertEntity hnamedItem).trans (names_insertEntity hnamedEvidence)
  have hdecisions : t₁.decisions = t.decisions := congrArg Ledger.decisions hledger
  have hentities : t₁.decisionEntities = t.decisionEntities :=
    congrArg Ledger.decisionEntities hledger
  have hreceipts : t₁.commandReceipts = t.commandReceipts :=
    congrArg Ledger.commandReceipts hledger
  have hrevision : t₁.catalogRevision = t.catalogRevision + 1 :=
    congrArg Ledger.catalogRevision hledger
  have hgeneration : t₁.evidenceGeneration = t.evidenceGeneration + 1 :=
    congrArg Ledger.evidenceGeneration hledger
  have hkept := hnames.kept
  have hrest := hnames.rest
  simp only [hentities] at hkept
  have hsame : t₄.placement = t₁.placement := by
    rw [hrest]
    rfl
  have hitemRow : t.placement.item promotion.itemId = none := by
    simp only [CatalogTables.placement, hitem, Option.map_none]
  have hevidenceRow : t.placement.state promotion.evidenceId = none := by
    simp only [CatalogTables.placement, hevidence, Option.map_none]
  refine ⟨?_, ?_, hitemRow, hevidenceRow, ?_, ?_, ?_, ?_, ?_, ?_, hkept, ?_, ?_⟩
  · rw [hrest]
    exact hrevision
  · rw [hrest]
    exact hgeneration
  · intro x
    refine (congrArg (fun p => p.item x) (hsame.trans hplacement)).trans ?_
    simp only [CatalogTables.placement, Placement.place, find?_put]
    split <;> rfl
  · intro e
    refine (congrArg (fun p => p.state e) (hsame.trans hplacement)).trans ?_
    simp only [CatalogTables.placement, Placement.place, find?_put]
    split <;> rfl
  · intro e
    exact congrArg (fun p => p.link e) (hsame.trans hplacement)
  · rw [← hdecisions]
    exact hdecisionNew
  · refine ⟨⟨promotion.requestId, .promoteReceiptPurchaseUnit,
      promotion.expectedCatalogRevision + 1, none, none⟩, rfl, by rw [hexpected], ?_⟩
    rw [hrest, ← hdecisions]
  · exact hnames.named _ (by simp)
  · intro id row hrow
    apply receipts_kept hreceipt
    rw [hrest]
    rw [← hreceipts] at hrow
    exact hrow
  · intro row hrow
    rw [hrest, find?_put, if_pos rfl] at hrow
    exact Option.some.inj hrow ▸ rfl

/-! ## Steps -/

inductive Step (services : CatalogServices) (t t' : CatalogTables) : Prop
  | command (command : CatalogCommand) (result : Except PlatformError MutationResponse)
      (run : command.execute services t = (result, t'))
  | imported (statements : List ImportStatement) (result : Except PlatformError PUnit)
      (run : importTransaction statements t = (result, t'))
  | promoted (promotion : CatalogPromotion) (result : Except PlatformError PUnit)
      (run : promoteReceiptPurchaseUnit promotion t = (result, t'))

abbrev Steps (services : CatalogServices) : CatalogTables → CatalogTables → Prop :=
  Relation.ReflTransGen (Step services)

theorem Step.cases (h : Step services t t') :
    t' = t ∨ (∃ command response, Creates services command t response t') ∨ Imports t t' ∨
      ∃ promotion, Promotes promotion t t' := by
  cases h with
  | command command result run =>
    cases result with
    | error e => exact .inl (execute_of_error run)
    | ok response =>
      cases execute_eq_ok run with
      | inl hsame => exact .inl hsame
      | inr hcreates => exact .inr (.inl ⟨command, response, hcreates⟩)
  | imported statements result run => exact .inr (.inr (.inl (imports_of_import run)))
  | promoted promotion result run =>
    cases result with
    | error e => exact .inl (atomically_of_error run)
    | ok u => exact .inr (.inr (.inr ⟨promotion, promoteReceiptPurchaseUnit_eq_ok run⟩))

structure Progress (t t' : CatalogTables) : Prop where
  catalogRevision : t.catalogRevision ≤ t'.catalogRevision
  evidenceGeneration : t.evidenceGeneration ≤ t'.evidenceGeneration
  still : t'.catalogRevision = t.catalogRevision →
    Placement.Extends .unresolved t.placement t'.placement
  decisions : ∀ id row, t.decisions.find? id = some row → t'.decisions.find? id = some row
  entities : ∀ key, (t.decisionEntities.find? key).isSome → (t'.decisionEntities.find? key).isSome
  receipts : ∀ id row, t.commandReceipts.find? id = some row →
    t'.commandReceipts.find? id = some row

theorem Progress.refl (t : CatalogTables) : Progress t t :=
  ⟨le_rfl, le_rfl, fun _ => Placement.Extends.refl _, fun _ _ h => h, fun _ h => h, fun _ _ h => h⟩

theorem Progress.trans {t₁ : CatalogTables} (hfirst : Progress t t₁)
    (hsecond : Progress t₁ t') : Progress t t' where
  catalogRevision := hfirst.catalogRevision.trans hsecond.catalogRevision
  evidenceGeneration := hfirst.evidenceGeneration.trans hsecond.evidenceGeneration
  still hrevision := by
    have hfirstLe := hfirst.catalogRevision
    have hsecondLe := hsecond.catalogRevision
    exact (hfirst.still (by omega)).trans (hsecond.still (by omega))
  decisions id row h := hsecond.decisions id row (hfirst.decisions id row h)
  entities key h := hsecond.entities key (hfirst.entities key h)
  receipts id row h := hsecond.receipts id row (hfirst.receipts id row h)

theorem decisions_kept {decisionId : DecisionId} {decision : DecisionRow}
    (hnew : t.decisions.find? decisionId = none) {id : DecisionId} {row : DecisionRow}
    (h : t.decisions.find? id = some row) :
    (t.decisions.put decisionId decision).find? id = some row := by
  rw [find?_put]
  split
  · rename_i heq
    rw [heq, hnew] at h
    cases h
  · exact h

theorem Creates.progress (h : Creates services command t response t') : Progress t t' := by
  obtain ⟨row, happended⟩ := h.appended
  refine ⟨?_, happended.generation.ge, ?_, ?_, happended.entities_kept, ?_⟩
  · rw [happended.revision]
    exact Nat.le_succ _
  · intro hsame
    rw [happended.revision] at hsame
    omega
  · intro id other hother
    rw [happended.decisions]
    exact decisions_kept happended.new hother
  · intro id other hother
    rw [happended.receipts]
    exact receipts_kept h.new hother

theorem Step.progress (h : Step services t t') : Progress t t' := by
  rcases h.cases with rfl | ⟨command, response, hcreates⟩ | himports | ⟨promotion, hpromotes⟩
  · exact Progress.refl _
  · exact hcreates.progress
  · refine ⟨himports.catalogRevision.ge, himports.evidenceGeneration, fun _ => himports.extends_placement, ?_, ?_,
      himports.receipts⟩
    · intro id row hrow
      rwa [himports.decisions]
    · intro key hkey
      rwa [himports.decisionEntities]
  · obtain ⟨row, -, -, hdecisions⟩ := hpromotes.decisions
    refine ⟨?_, ?_, ?_, ?_, hpromotes.entities_kept, hpromotes.receipts⟩
    · rw [hpromotes.catalogRevision]
      exact Nat.le_succ _
    · rw [hpromotes.evidenceGeneration]
      exact Nat.le_succ _
    · intro hsame
      rw [hpromotes.catalogRevision] at hsame
      omega
    · intro id other hother
      rw [hdecisions]
      exact decisions_kept hpromotes.decision_new hother

/-- **Progress over any number of steps.** -/
theorem Steps.progress (h : Steps services t t') : Progress t t' := by
  induction h with
  | refl => exact Progress.refl t
  | tail _ hstep ih => exact ih.trans hstep.progress

/-! ## Compare and swap -/

theorem Creates.receipt {u : CatalogTables} (h : Creates services command t response t')
    (hsteps : Steps services t' u) :
    u.commandReceipts.find? command.requestId = some (receiptRow services command response) := by
  obtain ⟨row, happended⟩ := h.appended
  apply hsteps.progress.receipts
  rw [happended.receipts, find?_put, if_pos rfl]

theorem execute_of_stale (hnew : t.commandReceipts.find? command.requestId = none)
    (hstale : t.catalogRevision ≠ command.expectedCatalogRevision) :
    ∃ e, command.execute services t = (.error e, t) := by
  rcases h : command.execute services t with ⟨e | response, t'⟩
  · exact ⟨e, by rw [execute_of_error h]⟩
  · obtain ⟨row, happended⟩ := (Creates.mk hnew h).appended
    exact absurd happended.expected hstale

/-- **Catalog commands are compare-and-swap with exact replay.** A command that fails leaves
every table alone, and it fails where it is not the first of its id and the caller has not seen
the current revision. A first success advances the revision by one and appends one decision
at it. From then on, whatever steps other callers take, the same id and envelope are answered
with the first response, the same id otherwise conflicts, and neither writes anything. -/
theorem commands_compare_and_swap (services : CatalogServices) (command : CatalogCommand)
    (t : CatalogTables) :
    (∀ e t', command.execute services t = (.error e, t') → t' = t) ∧
      (t.commandReceipts.find? command.requestId = none →
        t.catalogRevision ≠ command.expectedCatalogRevision →
        ∃ e, command.execute services t = (.error e, t)) ∧
      (∀ response t', command.execute services t = (.ok response, t') →
        t' = t ∨ Creates services command t response t') ∧
      ∀ response t', Creates services command t response t' →
        t.catalogRevision = command.expectedCatalogRevision ∧
        t'.catalogRevision = t.catalogRevision + 1 ∧
        response.replayStatus = .created ∧
        (∃ row, row.catalogRevision = t'.catalogRevision ∧
          t.decisions.find? response.decision.decisionId = none ∧
          t'.decisions = t.decisions.put response.decision.decisionId row) ∧
        ∀ u, Steps services t' u → ∀ again : CatalogCommand,
          again.requestId = command.requestId →
          again.execute services u =
            ((if again.name = command.name ∧
                envelopeHash services again = envelopeHash services command then
              .ok { response with replayStatus := .replayed }
            else .error (.conflict "command_envelope_changed")), u) := by
  refine ⟨fun e t' h => execute_of_error h, execute_of_stale, fun response t' => execute_eq_ok, ?_⟩
  intro response t' hcreates
  obtain ⟨row, happended⟩ := hcreates.appended
  obtain ⟨-, hdecision, hcreated⟩ := happended.answered
  refine ⟨happended.expected, happended.revision, hcreated, ⟨row, happended.row_revision, ?_, ?_⟩,
    ?_⟩
  · rw [hdecision]
    exact happended.new
  · rw [hdecision]
    exact happended.decisions
  · intro u hsteps again hid
    have hreceipt := hcreates.receipt hsteps
    rw [← hid] at hreceipt
    rw [execute_of_receipt hreceipt]
    -- the stored name and envelope are those of the first command
    have hcondition : ((receiptRow services command response).commandName = again.name ∧
        (receiptRow services command response).envelopeHash = envelopeHash services again) ↔
          again.name = command.name ∧
            envelopeHash services again = envelopeHash services command :=
      and_congr eq_comm eq_comm
    by_cases hsame : again.name = command.name ∧
        envelopeHash services again = envelopeHash services command
    · rw [if_pos hsame, if_pos (hcondition.mpr hsame)]
      rfl
    · rw [if_neg hsame, if_neg (fun h => hsame (hcondition.mp h))]

end Threadbook.Catalog
