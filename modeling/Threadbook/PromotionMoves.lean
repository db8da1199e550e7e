import Mathlib
import Threadbook.UnitValidity

/-!
# What each command does to the tables

One inversion lemma for each command: what held of the tables where it succeeds, and the
tables it leaves. Where a command fails, it leaves the tables alone.
-/

namespace Threadbook.Promotion

open Fallible

variable {services : PromotionServices} {t t' : PromotionTables}

/-! ## Statements -/

section Statements

variable {κ ρ : Type} [DecidableEq κ] {table : PromotionTables → Table κ ρ}
  {store : Table κ ρ → PromotionTables → PromotionTables} {key : κ} {row : ρ}

theorem insertRow_eq_ok {u : PUnit} :
    insertRow table store key row t = (.ok u, t') ↔
      (table t).find? key = none ∧ store ((table t).put key row) t = t' := by
  rw [insertRow, state_bind, rejectIf_bind_eq_ok, update_run]
  simp

theorem insertRow_bind_eq_ok {β : Type} {f : PUnit → PromotionTransaction β} {b : β} :
    (insertRow table store key row >>= f) t = (.ok b, t') ↔
      (table t).find? key = none ∧ f ⟨⟩ (store ((table t).put key row) t) = (.ok b, t') := by
  rw [bind_eq_ok]
  refine ⟨?_, fun ⟨hnew, h⟩ => ⟨⟨⟩, _, insertRow_eq_ok.mpr ⟨hnew, rfl⟩, h⟩⟩
  rintro ⟨⟨⟩, t₁, hinsert, h⟩
  obtain ⟨hnew, rfl⟩ := insertRow_eq_ok.mp hinsert
  exact ⟨hnew, h⟩

end Statements

/-! ## Store -/

/-- **Storing an order** adds a valid order whose lines are new. -/
theorem storeOrder_eq_ok {orderId : ReceiptOrderEvidenceId} {row : OrderRow} {u : PUnit}
    (h : storeOrder services orderId row t = (.ok u, t')) :
    row.lineIds.length = row.output.lineItems.length ∧
      (row.order orderId none).validate services.toContractServices = .ok () ∧
      linesTaken t row = false ∧ t.orders.find? orderId = none ∧
      t' = { t with
        orders := t.orders.put orderId row
        evidenceGeneration := t.evidenceGeneration + 1 } := by
  rw [storeOrder, atomically_eq_ok, rejectIf_bind_eq_ok, require_bind_eq_ok,
    check_mapError_eq_ok, state_bind, rejectIf_bind_eq_ok, insertRow_bind_eq_ok, update_run] at h
  obtain ⟨hlength, hvalid, htaken, hnew, h⟩ := h
  exact ⟨not_not.mp hlength, hvalid, Bool.not_eq_true _ |>.mp htaken, hnew,
    (Prod.mk.inj h).2.symm⟩

/-! ## Review -/

def afterReview (services : PromotionServices) (t : PromotionTables)
    (request : ReviewReceiptV1Request) (source : SourceId) (nowMs : ℤ)
    (response : ReviewReceiptV1Response) : PromotionTables :=
  { t with
    receiptRevision := t.receiptRevision + 1
    reviewDecisions := t.reviewDecisions.put ⟨request.requestId⟩
      (reviewDecisionRow request (t.receiptRevision + 1) nowMs)
    reviewHeads := t.reviewHeads.put request.orderEvidenceId ⟨request.requestId⟩
    authorityHeads := t.authorityHeads.put source
      { nextAuthorityHead t source request with receiptRevision := t.receiptRevision + 1 }
    commandReceipts := t.commandReceipts.put request.requestId
      ⟨reviewCommand, reviewEnvelope services request, .review response⟩ }

variable {nowMs : ℤ} {request : PromoteReceiptPurchaseUnitV1Request}
  {response : PromoteReceiptPurchaseUnitV1Response}

/-- **A review** is a replay that changes nothing, or makes a new decision the one in force. -/
theorem reviewReceipt_eq_ok {request : ReviewReceiptV1Request} {response : ReviewReceiptV1Response}
    (h : reviewReceipt services request nowMs t = (.ok response, t')) :
    ((t.commandReceipts.find? request.requestId).isSome ∧ t' = t) ∨
      ∃ order, t.commandReceipts.find? request.requestId = none ∧
        request.validate = .ok () ∧
        loadOrder services t request.orderEvidenceId = .ok order ∧
        validateCorrectedSnapshot request.correctedOrder order = .ok () ∧
        t.receiptRevision = request.expectedReceiptRevision ∧
        t.reviewDecisions.find? ⟨request.requestId⟩ = none ∧
        t' = afterReview services t request order.sourceId nowMs response ∧
        reviewResponse services t' request = .ok response := by
  rw [reviewReceipt, atomically_eq_ok, require_bind_eq_ok, check_mapError_eq_ok, state_bind,
    Fallible.check_bind_eq_ok] at h
  obtain ⟨hrequest, stored, hreplay, h⟩ := h
  rw [replay] at hreplay
  cases hreceipt : t.commandReceipts.find? request.requestId with
  | some row =>
    left
    rw [hreceipt] at hreplay
    simp only at hreplay
    split at hreplay
    · obtain rfl := Except.ok.inj hreplay
      exact ⟨rfl, (Prod.mk.inj h).2.symm⟩
    · cases hreplay
  | none =>
    right
    rw [hreceipt] at hreplay
    obtain rfl := Except.ok.inj hreplay
    simp only [reviewCurrent, state_bind, Fallible.check_bind_eq_ok, rejectIf_bind_eq_ok,
      update_bind, storeReceipt] at h
    obtain ⟨order, hload, ⟨⟩, hsnapshot, hrevision, h⟩ := h
    obtain ⟨⟨⟩, t₁, hstore, h⟩ := bind_eq_ok.mp h
    rw [storeDecision, state_bind, insertRow_bind_eq_ok, update_run] at hstore
    obtain ⟨hnew, hstore⟩ := hstore
    obtain rfl := (Prod.mk.inj hstore).2
    simp only [state_bind, Fallible.check_bind_eq_ok, insertRow_bind_eq_ok] at h
    obtain ⟨answer, hanswer, -, h⟩ := h
    obtain ⟨hresponse, rfl⟩ := Prod.mk.inj h
    obtain rfl := Except.ok.inj hresponse
    exact ⟨order, rfl, hrequest, hload, hsnapshot, not_not.mp hrevision, hnew, rfl, hanswer⟩

/-! ## Promote -/

def afterPromotion (services : PromotionServices) (t : PromotionTables)
    (request : PromoteReceiptPurchaseUnitV1Request) (current : ReceiptPurchaseUnitV1) (nowMs : ℤ)
    (response : PromoteReceiptPurchaseUnitV1Response) : PromotionTables :=
  let row := promotionRow request current (t.catalogRevision + 1) (t.evidenceGeneration + 1) nowMs
  { t with
    catalogRevision := t.catalogRevision + 1
    evidenceGeneration := t.evidenceGeneration + 1
    snapshots := (t.snapshots.insertOrIgnore (authoritySnapshotId current)
      (authoritySnapshotRow current nowMs)).1
    catalogItems := t.catalogItems.put row.itemId request.attributes
    evidence := t.evidence.put row.evidenceId current.authority.sourceId
    catalogDecisions := t.catalogDecisions.put row.decisionId request.requestId
    commandReceipts := t.commandReceipts.put request.requestId
      ⟨promoteCommand, promotionEnvelope services request, .promote response⟩
    promotions := t.promotions.put (current.orderLineId, current.unitOrdinal) row }

structure Promotes (services : PromotionServices) (t : PromotionTables)
    (request : PromoteReceiptPurchaseUnitV1Request) (nowMs : ℤ) (current : ReceiptPurchaseUnitV1)
    (response : PromoteReceiptPurchaseUnitV1Response) : Prop where
  accepted : request.validate = .ok ()
  unanswered : t.commandReceipts.find? request.requestId = none
  catalogRevision : t.catalogRevision = request.expectedCatalogRevision
  projected : ∃ projection, projectPurchaseUnits services t none = .ok projection ∧
    projection.findUnit services.toContractServices request.purchaseUnitId = .ok current
  expected : request.Expects current
  undeleted : t.deletions.find? request.purchaseUnitId = none
  unpromoted : t.promotions.find? (current.orderLineId, current.unitOrdinal) = none
  unique : ∀ key row, t.promotions.find? key = some row →
    row.purchaseUnitId ≠ request.purchaseUnitId ∧ row.requestId ≠ request.requestId
  answer : ∃ promotedAt, response = promotionResponse request current
    (promotionRow request current (t.catalogRevision + 1) (t.evidenceGeneration + 1) nowMs)
    promotedAt
  valid : response.validate services.toContractServices = .ok ()

/-- **Promoting the unit that was found** writes each table once. -/
theorem promoteUnit_eq_ok {current : ReceiptPurchaseUnitV1}
    (h : promoteUnit services request current nowMs t = (.ok response, t')) :
    t.commandReceipts.find? request.requestId = none ∧
      (∃ promotedAt, response = promotionResponse request current
        (promotionRow request current (t.catalogRevision + 1) (t.evidenceGeneration + 1) nowMs)
        promotedAt) ∧
      response.validate services.toContractServices = .ok () ∧
      (∀ key row, t.promotions.find? key = some row →
        row.purchaseUnitId ≠ request.purchaseUnitId ∧ row.requestId ≠ request.requestId) ∧
      t' = afterPromotion services t request current nowMs response := by
  rw [promoteUnit, update_bind, state_bind] at h
  obtain ⟨⟨⟩, t₁, hinsert, h⟩ := bind_eq_ok.mp h
  rw [insertSnapshot, state_bind, rejectIf_bind_eq_ok, update_bind, rejectIf_eq_ok] at hinsert
  obtain ⟨-, -, rfl⟩ := hinsert
  simp only [insertRow_bind_eq_ok, Fallible.check_bind_eq_ok, check_mapError_eq_ok, storeReceipt,
    insertPromotion] at h
  obtain ⟨-, -, -, promotedAt, -, ⟨⟩, hvalid, hreceipt, h⟩ := h
  obtain ⟨⟨⟩, t₂, hpromotion, h⟩ := bind_eq_ok.mp h
  rw [state_bind, rejectIf_bind_eq_ok, insertRow_eq_ok] at hpromotion
  obtain ⟨hunique, -, rfl⟩ := hpromotion
  obtain ⟨hresponse, rfl⟩ := Prod.mk.inj h
  obtain rfl := Except.ok.inj hresponse
  refine ⟨hreceipt, ⟨promotedAt, rfl⟩, hvalid, ?_, rfl⟩
  intro key row hrow
  rw [Bool.not_eq_true, List.any_eq_false] at hunique
  have hother := hunique (key, row) (Table.mem_rows.mpr hrow)
  simp only [Bool.not_eq_true, Bool.or_eq_false_iff, decide_eq_false_iff_not] at hother
  exact hother

/-- **A promotion** is a replay that changes nothing, or promotes a unit as it was expected. -/
theorem promoteReceiptPurchaseUnit_eq_ok
    (h : promoteReceiptPurchaseUnit services request nowMs t = (.ok response, t')) :
    (t' = t ∧ ∃ row, t.commandReceipts.find? request.requestId = some row ∧
        row.commandName = promoteCommand ∧
        row.envelopeHash = promotionEnvelope services request ∧
        replayedPromotion services row.response = .ok response) ∨
      ∃ current, Promotes services t request nowMs current response ∧
        t' = afterPromotion services t request current nowMs response := by
  rw [promoteReceiptPurchaseUnit, atomically_eq_ok, require_bind_eq_ok, check_mapError_eq_ok,
    state_bind, Fallible.check_bind_eq_ok] at h
  obtain ⟨haccepted, stored, hreplay, h⟩ := h
  rw [replay] at hreplay
  cases hreceipt : t.commandReceipts.find? request.requestId with
  | some row =>
    left
    rw [hreceipt] at hreplay
    simp only at hreplay
    split at hreplay
    · rename_i hsame
      obtain rfl := Except.ok.inj hreplay
      obtain ⟨hresponse, rfl⟩ := Prod.mk.inj h
      exact ⟨rfl, row, rfl, hsame.1, hsame.2, hresponse⟩
    · cases hreplay
  | none =>
    right
    rw [hreceipt] at hreplay
    obtain rfl := Except.ok.inj hreplay
    simp only [promoteCurrent, state_bind, Fallible.check_bind_eq_ok, rejectIf_bind_eq_ok,
      not_not, Option.isSome_iff_ne_none, ne_eq] at h
    obtain ⟨hcatalog, projection, hproject, current, hfind, hexpects, hundeleted, hunpromoted, h⟩ :=
      h
    obtain ⟨hnew, hanswer, hvalid, hunique, rfl⟩ := promoteUnit_eq_ok h
    exact ⟨current, ⟨haccepted, hreceipt, hcatalog, ⟨projection, hproject, hfind⟩, hexpects, hundeleted,
      hunpromoted, hunique, hanswer, hvalid⟩, rfl⟩

/-! ## Delete -/

def afterDeletion (t : PromotionTables) (target : P12DeletionTarget) (deletionRequestId : RequestId)
    (nowMs : ℤ) : PromotionTables :=
  let kept : PromotionTables := { t with
    deletions := (t.deletions.insertOrIgnore target.purchaseUnitId
      (target.row deletionRequestId nowMs)).1 }
  let erased := match target.branch with
    | none => kept
    | some branch => deleteBranch kept (target.orderLineId, target.unitOrdinal) branch
  { erased with
    catalogRevision := erased.catalogRevision + 1
    evidenceGeneration := erased.evidenceGeneration + 1
    receiptRevision := erased.receiptRevision + 1 }

/-- **Deleting a unit** keeps that it was deleted, and takes away its promotion. -/
theorem deletePurchaseUnit_eq_ok {asked : DeletionTargetV1} {deletionRequestId : RequestId}
    {u : PUnit} (h : deletePurchaseUnit services asked deletionRequestId nowMs t = (.ok u, t')) :
    ∃ target, resolveP12DeletionTarget services t asked = .ok target ∧
      t' = afterDeletion t target deletionRequestId nowMs := by
  rw [deletePurchaseUnit, atomically_eq_ok, state_bind, Fallible.check_bind_eq_ok] at h
  obtain ⟨target, hresolve, h⟩ := h
  obtain ⟨⟨⟩, t₁, hensure, h⟩ := bind_eq_ok.mp h
  refine ⟨target, hresolve, ?_⟩
  have hkept : t₁ = { t with
      deletions := (t.deletions.insertOrIgnore target.purchaseUnitId
        (target.row deletionRequestId nowMs)).1 } := by
    rw [ensurePurchaseUnitDeletionAuthority, state_bind] at hensure
    cases hfound : t.deletions.find? target.purchaseUnitId with
    | some existing =>
      simp only [hfound, rejectIf_eq_ok] at hensure
      rw [Table.insertOrIgnore_of_some hfound, ← hensure.2]
    | none =>
      simp only [hfound, rejectIf_bind_eq_ok, update_run] at hensure
      rw [Table.insertOrIgnore_of_none hfound]
      exact (Prod.mk.inj hensure.2).2.symm
  subst hkept
  rw [afterDeletion]
  cases hbranch : target.branch with
  | none =>
    simp only [hbranch] at h ⊢
    exact (Prod.mk.inj h).2.symm
  | some branch =>
    simp only [hbranch] at h ⊢
    exact (Prod.mk.inj h).2.symm

end Threadbook.Promotion
