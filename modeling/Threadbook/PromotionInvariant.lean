import Mathlib
import Threadbook.PromotionProjection

/-!
# Consistent tables

What the tables of receipt promotion keep to: orders are valid and do not share lines,
decisions are about stored orders, each authority is the decision in force for its source's
order, snapshots hold the values in force under their decision, and promotions are of units
that were not deleted. Each command preserves it.
-/

namespace Threadbook.Promotion

open Table List

variable {services : PromotionServices} {t t' : PromotionTables}

/-! ## Rows -/

structure OrderRow.Valid (services : PromotionServices) (orderId : ReceiptOrderEvidenceId)
    (row : OrderRow) : Prop where
  length : row.lineIds.length = row.output.lineItems.length
  valid : (row.order orderId none).validate services.toContractServices = .ok ()

def OrderRow.orderLineIds (row : OrderRow) : List ReceiptOrderLineId := row.lineIds.map Prod.fst

structure ReviewDecisionRow.Valid (services : PromotionServices) (t : PromotionTables)
    (row : ReviewDecisionRow) : Prop where
  order : ∃ order, t.orders.find? row.orderEvidenceId = some order ∧
    validateCorrectedSnapshot row.reviewedOrder (order.order row.orderEvidenceId none) = .ok ()
  action : validateAction row.orderEvidenceId row.action row.reviewedOrder = .ok ()
  receiptRevision : 0 < row.receiptRevision
  createdAt : ∃ createdAt, services.timestampFromMs row.createdAtMs = .ok createdAt

structure AuthorityHeadRow.Valid (t : PromotionTables) (source : SourceId)
    (row : AuthorityHeadRow) : Prop where
  authorityId : row.authorityId = row.reviewDecisionId
  authorityRevision : 0 < row.authorityRevision
  order : ∃ order, t.orders.find? row.orderEvidenceId = some order ∧ order.sourceId = source
  decision : ∃ decision, t.reviewDecisions.find? row.reviewDecisionId = some decision ∧
    decision.orderEvidenceId = row.orderEvidenceId ∧
    decision.receiptRevision = row.receiptRevision
  inForce : t.reviewHeads.find? row.orderEvidenceId = some row.reviewDecisionId

structure ValuesUnder (t : PromotionTables) (source : SourceId)
    (orderEvidenceId : ReceiptOrderEvidenceId) (orderLineId : ReceiptOrderLineId)
    (decisionId : ReceiptReviewDecisionId) (action : ReceiptReviewActionV1)
    (values : ReceiptPurchaseUnitValuesV1) (provenance : ReceiptPurchaseUnitProvenanceV1) :
    Prop where
  ofLine : ∃ order decision index line, t.orders.find? orderEvidenceId = some order ∧
    order.sourceId = source ∧ t.reviewDecisions.find? decisionId = some decision ∧
    decision.orderEvidenceId = orderEvidenceId ∧ decision.action = action ∧
    (order.order orderEvidenceId none).lineItems[index]? = some line ∧
    line.orderLineId = orderLineId ∧
    effectiveValues (order.order orderEvidenceId none) line decision.reviewedOrder index decisionId =
      .ok (values, provenance)

structure AuthoritySnapshotRow.Valid (t : PromotionTables) (id : ReceiptAuthoritySnapshotId)
    (row : AuthoritySnapshotRow) : Prop where
  id : id = ⟨row.authorityId, row.orderLineId⟩
  authorityId : row.authorityId = row.reviewDecisionId
  under : ValuesUnder t row.localSourceId row.orderEvidenceId row.orderLineId row.reviewDecisionId
    row.reviewAction row.values row.provenance
  values : row.values.validate = .ok ()
  action : row.reviewAction = .confirm ∨ row.reviewAction = .correct
  provenance :
    row.provenance.validateAgainst row.values row.reviewDecisionId row.reviewAction = .ok ()
  authorityRevision : 0 < row.authorityRevision ∧ row.authorityRevision < maxSafeIntegerV1
  receiptRevision : 0 < row.receiptRevision ∧ row.receiptRevision < maxSafeIntegerV1

structure PromotionRow.Valid (services : PromotionServices) (t : PromotionTables)
    (key : ReceiptOrderLineId × ℕ) (row : PromotionRow) : Prop where
  snapshot : ∃ snapshot, t.snapshots.find? row.authoritySnapshotId = some snapshot ∧
    snapshot.orderLineId = key.1 ∧ row.authoritativeQuantity = snapshot.values.quantity
  purchaseUnitId : ReceiptPurchaseUnitId.deriveV1 services.toContractServices key.1 key.2 =
    .ok row.purchaseUnitId
  ordinal : key.2 < row.authoritativeQuantity
  revision : 0 < row.purchaseUnitRevision ∧ row.purchaseUnitRevision < maxSafeIntegerV1
  undeleted : t.deletions.find? row.purchaseUnitId = none

def CommandReceiptRow.Valid (services : PromotionServices) (row : CommandReceiptRow) : Prop :=
  row.commandName = promoteCommand → ∃ response, row.response = .promote response ∧
    response.validate services.toContractServices = .ok ()

structure Consistent (services : PromotionServices) (t : PromotionTables) : Prop where
  orders : ∀ id row, t.orders.find? id = some row → row.Valid services id
  lineOwner : ∀ id row id' row' line, t.orders.find? id = some row →
    t.orders.find? id' = some row' → line ∈ row.orderLineIds → line ∈ row'.orderLineIds → id = id'
  decisions : ∀ id row, t.reviewDecisions.find? id = some row → row.Valid services t
  reviewHeads : ∀ orderId id, t.reviewHeads.find? orderId = some id →
    ∃ row, t.reviewDecisions.find? id = some row ∧ row.orderEvidenceId = orderId
  authorityHeads : ∀ source row, t.authorityHeads.find? source = some row → row.Valid t source
  snapshots : ∀ id row, t.snapshots.find? id = some row → row.Valid t id
  promotions : ∀ key row, t.promotions.find? key = some row → row.Valid services t key
  unitOwner : ∀ key row key' row', t.promotions.find? key = some row →
    t.promotions.find? key' = some row' →
    row.purchaseUnitId = row'.purchaseUnitId ∨ row.requestId = row'.requestId → key = key'
  receipts : ∀ id row, t.commandReceipts.find? id = some row → row.Valid services

structure Fresh (t : PromotionTables) : Prop where
  orders : t.orders = .empty
  reviewDecisions : t.reviewDecisions = .empty
  reviewHeads : t.reviewHeads = .empty
  authorityHeads : t.authorityHeads = .empty
  snapshots : t.snapshots = .empty
  promotions : t.promotions = .empty
  commandReceipts : t.commandReceipts = .empty

theorem Fresh.consistent (h : Fresh t) : Consistent services t := by
  obtain ⟨horders, hdecisions, hreviews, hheads, hsnapshots, hpromotions, hreceipts⟩ := h
  refine ⟨?_, ?_, ?_, ?_, ?_, ?_, ?_, ?_, ?_⟩ <;>
    simp [horders, hdecisions, hreviews, hheads, hsnapshots, hpromotions, hreceipts]

/-! ## Growing tables -/

structure Keeps (t t' : PromotionTables) : Prop where
  orders : ∀ id row, t.orders.find? id = some row → t'.orders.find? id = some row
  decisions : ∀ id row, t.reviewDecisions.find? id = some row →
    t'.reviewDecisions.find? id = some row

theorem Keeps.of_eq (horders : t'.orders = t.orders)
    (hdecisions : t'.reviewDecisions = t.reviewDecisions) : Keeps t t' :=
  ⟨fun _ _ h => by rw [horders]; exact h, fun _ _ h => by rw [hdecisions]; exact h⟩

theorem ReviewDecisionRow.Valid.mono {row : ReviewDecisionRow} (h : row.Valid services t)
    (hkeeps : Keeps t t') : row.Valid services t' := by
  obtain ⟨⟨order, horder, hsnapshot⟩, haction, hrevision, hcreated⟩ := h
  exact ⟨⟨order, hkeeps.orders _ _ horder, hsnapshot⟩, haction, hrevision, hcreated⟩

variable {orderId : ReceiptOrderEvidenceId} {row : OrderRow} {nowMs : ℤ} {source : SourceId}
  {values : ReceiptPurchaseUnitValuesV1} {provenance : ReceiptPurchaseUnitProvenanceV1}
  {sourceFilter : Option SourceId} {offered : OfferedLine} {asked : DeletionTargetV1}
  {target : P12DeletionTarget}

theorem AuthorityHeadRow.Valid.mono {row : AuthorityHeadRow} (h : row.Valid t source)
    (hkeeps : Keeps t t')
    (hforce : t'.reviewHeads.find? row.orderEvidenceId = t.reviewHeads.find? row.orderEvidenceId) :
    row.Valid t' source := by
  obtain ⟨hid, hrevision, ⟨order, horder, hsource⟩, ⟨decision, hdecision, hof⟩, hinForce⟩ := h
  exact ⟨hid, hrevision, ⟨order, hkeeps.orders _ _ horder, hsource⟩,
    ⟨decision, hkeeps.decisions _ _ hdecision, hof⟩, hforce.trans hinForce⟩

variable {decisionId : ReceiptReviewDecisionId} {reviewHead : Option ReceiptReviewHeadV1}
  {response : ReviewReceiptV1Response} {request : PromoteReceiptPurchaseUnitV1Request}

theorem ValuesUnder.mono {orderEvidenceId : ReceiptOrderEvidenceId}
    {orderLineId : ReceiptOrderLineId} {action : ReceiptReviewActionV1}
    (h : ValuesUnder t source orderEvidenceId orderLineId decisionId action values provenance)
    (hkeeps : Keeps t t') :
    ValuesUnder t' source orderEvidenceId orderLineId decisionId action values provenance := by
  obtain ⟨order, decision, index, line, horder, hsource, hdecision, hrest⟩ := h
  exact ⟨order, decision, index, line, hkeeps.orders _ _ horder, hsource,
    hkeeps.decisions _ _ hdecision, hrest⟩

theorem AuthoritySnapshotRow.Valid.mono {id : ReceiptAuthoritySnapshotId}
    {row : AuthoritySnapshotRow} (h : row.Valid t id) (hkeeps : Keeps t t') : row.Valid t' id :=
  { h with under := h.under.mono hkeeps }

theorem PromotionRow.Valid.mono {key : ReceiptOrderLineId × ℕ} {row : PromotionRow}
    (h : row.Valid services t key) (hsnapshots : t'.snapshots = t.snapshots)
    (hdeletions : t'.deletions = t.deletions) : row.Valid services t' key := by
  obtain ⟨hsnapshot, hid, hordinal, hrevision, hundeleted⟩ := h
  exact ⟨by rw [hsnapshots]; exact hsnapshot, hid, hordinal, hrevision,
    by rw [hdeletions]; exact hundeleted⟩

/-! ## Lines -/

theorem orderLineIds_order (h : row.lineIds.length = row.output.lineItems.length) :
    (row.order orderId reviewHead).lineItems.map (·.orderLineId) = row.orderLineIds := by
  have hloaded : (fun line : ReceiptOrderLineV1 => line.orderLineId) ∘ loadedLine =
      (fun ids : ReceiptOrderLineId × ReceiptVariantEvidenceId => ids.1) ∘ Prod.snd ∘ Prod.fst := by
    funext entry
    rfl
  rw [OrderRow.order, OrderRow.orderLineIds, map_map, hloaded, ← map_map, ← map_map,
    zipIdx_map_fst, map_snd_zip h.le]

theorem Consistent.mem_orderLineIds (hc : Consistent services t)
    (hrow : t.orders.find? orderId = some row) {line : ReceiptOrderLineV1}
    (hline : line ∈ (row.order orderId reviewHead).lineItems) :
    line.orderLineId ∈ row.orderLineIds := by
  rw [← orderLineIds_order (hc.orders orderId row hrow).length]
  exact mem_map_of_mem hline

theorem OrderRow.Valid.sound (h : row.Valid services orderId)
    (reviewHead : Option ReceiptReviewHeadV1) : Sound (row.order orderId reviewHead) := by
  obtain ⟨hnames, hdate, hcurrency, hlines, hids⟩ := Sound.of_validate h.valid
  exact ⟨hnames, hdate, hcurrency, hlines, hids⟩

theorem Sound.line_unique {order : ReceiptOrderEvidenceV1} (h : Sound order) {i j : ℕ}
    {line line' : ReceiptOrderLineV1} (hi : order.lineItems[i]? = some line)
    (hj : order.lineItems[j]? = some line') (hid : line.orderLineId = line'.orderLineId) :
    i = j ∧ line = line' := by
  have hlt : i < (order.lineItems.map (·.orderLineId)).length := by
    rw [List.length_map]
    exact (List.getElem?_eq_some_iff.mp hi).1
  have heq : i = j := by
    refine (List.getElem?_inj hlt h.lineIds).mp ?_
    rw [List.getElem?_map, List.getElem?_map, hi, hj, Option.map_some, Option.map_some, hid]
  subst heq
  exact ⟨rfl, Option.some.inj (hi.symm.trans hj)⟩

/-! ## Storing an order -/

theorem Consistent.store (hc : Consistent services t) {u : PUnit}
    (h : storeOrder services orderId row t = (.ok u, t')) : Consistent services t' := by
  obtain ⟨hlength, hvalid, htaken, hnew, rfl⟩ := storeOrder_eq_ok h
  have hkeeps : Keeps t { t with
      orders := t.orders.put orderId row
      evidenceGeneration := t.evidenceGeneration + 1 } := by
    refine ⟨fun id other hother => ?_, fun _ _ hother => hother⟩
    rw [find?_put, if_neg]
    · exact hother
    · rintro rfl
      rw [hnew] at hother
      cases hother
  -- a line of the new order is in no other one
  have hfree : ∀ id other line, t.orders.find? id = some other → line ∈ other.orderLineIds →
      line ∉ row.orderLineIds := by
    intro id other line hother hline hin
    obtain ⟨taken, htakenIn, rfl⟩ := mem_map.mp hline
    obtain ⟨ids, hids, heq⟩ := mem_map.mp hin
    rw [linesTaken, any_eq_false] at htaken
    refine htaken (id, other) (mem_rows.mpr hother) (any_eq_true.mpr ?_)
    exact ⟨taken, htakenIn, any_eq_true.mpr ⟨ids, hids, by simp [heq]⟩⟩
  refine ⟨?_, ?_, fun id other hother => (hc.decisions id other hother).mono hkeeps,
    hc.reviewHeads, fun source other hother => (hc.authorityHeads source other hother).mono hkeeps rfl,
    fun id other hother => (hc.snapshots id other hother).mono hkeeps,
    fun key other hother => (hc.promotions key other hother).mono rfl rfl, hc.unitOwner,
    hc.receipts⟩
  · intro id other hother
    rw [find?_put] at hother
    split at hother
    · rename_i hid
      cases hother
      rw [hid]
      exact ⟨hlength, hvalid⟩
    · exact hc.orders id other hother
  · intro id other id' other' line hother hother' hline hline'
    rw [find?_put] at hother hother'
    split at hother <;> split at hother'
    · rename_i hid hid'
      rw [hid, hid']
    · cases hother
      exact absurd hline (hfree id' other' line hother' hline')
    · cases hother'
      exact absurd hline' (hfree id other line hother hline)
    · exact hc.lineOwner id other id' other' line hother hother' hline hline'

/-! ## Reviewing an order -/

theorem receipts_put {id : RequestId} {row : CommandReceiptRow}
    (hreceipts : ∀ id row, t.commandReceipts.find? id = some row → row.Valid services)
    (hrow : row.Valid services) :
    ∀ other stored, (t.commandReceipts.put id row).find? other = some stored →
      stored.Valid services := by
  intro other stored h
  rw [find?_put] at h
  split at h
  · cases h
    exact hrow
  · exact hreceipts other stored h

theorem reviewCommand_ne : reviewCommand ≠ promoteCommand := by decide

/-- **A decision that was answered** is valid. -/
theorem decision_valid_of_response {request : ReviewReceiptV1Request} {row : ReviewDecisionRow}
    {order : OrderRow} (hresponse : reviewResponse services t request = .ok response)
    (hrow : t.reviewDecisions.find? ⟨request.requestId⟩ = some row)
    (horder : t.orders.find? row.orderEvidenceId = some order)
    (hsnapshot : validateCorrectedSnapshot row.reviewedOrder
      (order.order row.orderEvidenceId none) = .ok ()) : row.Valid services t := by
  simp only [reviewResponse, check_bind_eq_ok, check_mapError_eq_ok] at hresponse
  obtain ⟨loaded, _, decision, hdecision, ⟨⟩, hvalid, _⟩ := hresponse
  unfold loadReviewDecision at hdecision
  simp only [hrow, check_bind_eq_ok] at hdecision
  obtain ⟨createdAt, hcreated, hdecision⟩ := hdecision
  cases hdecision
  simp only [ReviewReceiptV1Response.validate, check_then_eq_ok, ReceiptReviewDecisionV1.validate,
    check_unless_eq_ok, not_or] at hvalid
  obtain ⟨-, -, ⟨-, ⟨hpositive, -⟩, haction⟩, -⟩ := hvalid
  exact ⟨⟨order, horder, hsnapshot⟩, haction, Nat.pos_of_ne_zero hpositive, ⟨createdAt, hcreated⟩⟩

section

variable (hc : Consistent services t)

include hc

theorem Consistent.review {request : ReviewReceiptV1Request}
    (h : reviewReceipt services request nowMs t = (.ok response, t')) : Consistent services t' := by
  obtain ⟨-, rfl⟩ | ⟨loaded, -, -, hload, hsnapshot, -, hnew, ht', hresponse⟩ :=
    reviewReceipt_eq_ok h
  · exact hc
  obtain ⟨order, reviewHead, horder, -, -, rfl⟩ := loadOrder_eq_ok hload
  have hkeeps : Keeps t t' := by
    rw [ht']
    refine ⟨fun _ _ hother => hother, fun id other hother => ?_⟩
    rw [afterReview, find?_put, if_neg]
    · exact hother
    · rintro rfl
      rw [hnew] at hother
      cases hother
  have hdecision : t'.reviewDecisions.find? ⟨request.requestId⟩ =
      some (reviewDecisionRow request (t.receiptRevision + 1) nowMs) := by
    rw [ht', afterReview, find?_put, if_pos rfl]
  have horder' : t'.orders.find? request.orderEvidenceId = some order := hkeeps.orders _ _ horder
  have hreviewHeads : t'.reviewHeads =
      t.reviewHeads.put request.orderEvidenceId ⟨request.requestId⟩ := by rw [ht', afterReview]
  refine ⟨?_, ?_, ?_, ?_, ?_, ?_, ?_, ?_, ?_⟩
  · rw [ht']
    exact hc.orders
  · rw [ht']
    exact hc.lineOwner
  · intro id row hrow
    rw [ht', afterReview, find?_put] at hrow
    split at hrow
    · cases hrow
      exact decision_valid_of_response hresponse hdecision horder' hsnapshot
    · exact (hc.decisions id row hrow).mono hkeeps
  · intro orderId id hid
    rw [hreviewHeads, find?_put] at hid
    split at hid
    · rename_i heq
      cases hid
      exact ⟨_, hdecision, heq.symm⟩
    · obtain ⟨row, hrow, hof⟩ := hc.reviewHeads orderId id hid
      exact ⟨row, hkeeps.decisions _ _ hrow, hof⟩
  · intro source row hrow
    have hhead := hrow
    rw [ht', afterReview, find?_put] at hrow
    split at hrow
    · rename_i hsource
      cases hrow
      refine ⟨rfl, ?_, ⟨order, horder', hsource.symm⟩, ⟨_, hdecision, rfl, rfl⟩, ?_⟩
      · simp only [nextAuthorityHead]
        cases t.authorityHeads.find? (order.order request.orderEvidenceId reviewHead).sourceId <;>
          simp
      · rw [hreviewHeads, find?_put]
        exact if_pos rfl
    · rename_i hsource
      -- another source's order is another order
      refine (hc.authorityHeads source row hrow).mono hkeeps ?_
      rw [hreviewHeads, find?_put, if_neg]
      intro heq
      obtain ⟨other, hother, hof⟩ := (hc.authorityHeads source row hrow).order
      rw [heq, horder] at hother
      cases hother
      exact hsource hof.symm
  · intro id row hrow
    rw [ht'] at hrow
    exact (hc.snapshots id row hrow).mono hkeeps
  · intro key row hrow
    rw [ht'] at hrow
    exact (hc.promotions key row hrow).mono (by rw [ht', afterReview]) (by rw [ht', afterReview])
  · rw [ht']
    exact hc.unitOwner
  · rw [ht', afterReview]
    exact receipts_put hc.receipts fun hname => absurd hname reviewCommand_ne

/-! ## Promoting a unit -/

/-- **Values under a decision** are determined by the decision and the line. -/
theorem ValuesUnder.unique {source' : SourceId} {orderId' : ReceiptOrderEvidenceId}
    {lineId : ReceiptOrderLineId} {action action' : ReceiptReviewActionV1}
    {values' : ReceiptPurchaseUnitValuesV1} {provenance' : ReceiptPurchaseUnitProvenanceV1}
    (h : ValuesUnder t source orderId lineId decisionId action values provenance)
    (h' : ValuesUnder t source' orderId' lineId decisionId action' values' provenance') :
    source = source' ∧ orderId = orderId' ∧ action = action' ∧ values = values' ∧
      provenance = provenance' := by
  obtain ⟨order, decision, index, line, horder, rfl, hdecision, rfl, rfl, hline, hid, hvalues⟩ := h
  obtain ⟨order', decision', index', line', horder', rfl, hdecision', rfl, rfl, hline', hid',
    hvalues'⟩ := h'
  rw [hdecision] at hdecision'
  cases hdecision'
  rw [horder] at horder'
  cases horder'
  obtain ⟨rfl, rfl⟩ := ((hc.orders _ _ horder).sound none).line_unique hline hline'
    (hid.trans hid'.symm)
  rw [hvalues] at hvalues'
  obtain ⟨rfl, rfl⟩ := Prod.mk.inj (Except.ok.inj hvalues')
  exact ⟨rfl, rfl, rfl, rfl, rfl⟩

theorem Offers.under (hoffered : offered ∈ offeredLines services t sourceFilter)
    {decision : ReceiptReviewDecisionV1}

    (h : Offers t offered.source offered.head offered.order decision offered.line values provenance) :
    offered.head.authorityId = decision.decisionId ∧
      offered.order.orderEvidenceId = offered.head.orderEvidenceId ∧
      ValuesUnder t offered.source offered.head.orderEvidenceId offered.line.orderLineId
        decision.decisionId decision.action values provenance := by
  obtain ⟨⟨hhead, -⟩, hload, -⟩ := mem_offeredLines.mp hoffered
  obtain ⟨⟨state, hdecided⟩, hforce, haccepts, -, ⟨index, hline, hvalues⟩, -⟩ := h
  have hvalid := hc.authorityHeads _ _ hhead
  obtain ⟨row, reviewHead, hrow, -, hreview, horder⟩ := loadOrder_eq_ok hload
  obtain ⟨source, hsource, hof⟩ := hvalid.order
  rw [hrow] at hsource
  obtain rfl := Option.some.inj hsource
  have hhead : reviewHead = some ⟨state, decision⟩ := by
    rw [horder] at hdecided
    exact hdecided
  rw [hhead] at hreview
  obtain ⟨hinForce, -, decisionRow, hdecisionRow, -, haction, hcorrected, -⟩ :=
    loadReviewHead_eq_some hreview
  obtain ⟨other, hother, hotherOrder, -⟩ := hvalid.decision
  have hsame := hdecisionRow
  simp only [hforce] at hsame
  rw [hother] at hsame
  obtain rfl := Option.some.inj hsame
  refine ⟨hvalid.authorityId.trans hforce.symm, by rw [horder]; rfl, row, other, index, offered.line,
    hrow, hof, hdecisionRow, hotherOrder, haction.symm, ?_, rfl, ?_⟩
  · rw [horder] at hline
    exact hline
  · rw [horder, hcorrected] at hvalues
    exact hvalues

theorem UnitOf.under (hoffered : offered ∈ offeredLines services t sourceFilter)
    {unit : ReceiptPurchaseUnitV1} (h : UnitOf services t offered unit) :
    unit.authority.authorityId = unit.authority.reviewDecisionId ∧
      ValuesUnder t unit.authority.sourceId unit.authority.orderEvidenceId unit.orderLineId
        unit.authority.reviewDecisionId unit.authority.reviewAction unit.values unit.provenance := by
  obtain ⟨decision, values, provenance, hoffers, -, hunit⟩ := h.offers
  obtain ⟨hauthority, horder, hunder⟩ := hoffers.under hc hoffered
  rw [hunit]
  refine ⟨hauthority, ?_⟩
  simp only [currentUnit, sourceAuthority, horder]
  exact hunder

end

theorem Promotes.unitOf {current : ReceiptPurchaseUnitV1}
    {response : PromoteReceiptPurchaseUnitV1Response}
    (h : Promotes services t request nowMs current response) :
    current.purchaseUnitId = request.purchaseUnitId ∧
      ∃ offered ∈ offeredLines services t none, UnitOf services t offered current := by
  obtain ⟨projection, hproject, hfind⟩ := h.projected
  unfold Projection.findUnit at hfind
  cases hfound : projection.units.find? fun offered =>
    offered.purchaseUnitId = request.purchaseUnitId with
  | none =>
    simp only [hfound] at hfind
    split at hfind <;> cases hfind
  | some found =>
    simp only [hfound] at hfind
    cases hfind
    refine ⟨by simpa using find?_some hfound, ?_⟩
    rcases unit_of_projection hproject (mem_of_find?_eq_some hfound) with hline |
      ⟨joined, -, hjoined⟩
    · exact hline
    · -- a promoted unit is not available
      have hstatus := h.expected.1
      rw [hjoined] at hstatus
      cases hstatus

theorem UnitOf.snapshot (hc : Consistent services t)
    (hoffered : offered ∈ offeredLines services t sourceFilter) {unit : ReceiptPurchaseUnitV1}
    (h : UnitOf services t offered unit) (nowMs : ℤ) :
    (authoritySnapshotRow unit nowMs).Valid t (authoritySnapshotId unit) ∧
      ∀ stored, t.snapshots.find? (authoritySnapshotId unit) = some stored →
        stored.orderLineId = unit.orderLineId ∧ stored.values = unit.values := by
  obtain ⟨hid, hunder⟩ := h.under hc hoffered
  obtain ⟨hvalues, haction, hprovenance, -, -, -, hnumbered⟩ := unit_validate_eq_ok.mp h.valid
  refine ⟨⟨rfl, hid, hunder, hvalues, haction, hprovenance, hnumbered.authorityRevision,
    hnumbered.receiptRevision⟩, fun stored hstored => ?_⟩
  have hvalid := hc.snapshots _ _ hstored
  obtain ⟨hauthority, hline⟩ := ReceiptAuthoritySnapshotId.mk.inj hvalid.id
  have hstoredUnder := hvalid.under
  rw [← hvalid.authorityId, ← hauthority, ← hline, hid] at hstoredUnder
  exact ⟨hline.symm, ((hunder.unique hc hstoredUnder).2.2.2.1).symm⟩

theorem Consistent.promote (hc : Consistent services t)
    {response : PromoteReceiptPurchaseUnitV1Response}
    (h : promoteReceiptPurchaseUnit services request nowMs t = (.ok response, t')) :
    Consistent services t' := by
  obtain ⟨rfl, -⟩ | ⟨current, hpromotes, rfl⟩ := promoteReceiptPurchaseUnit_eq_ok h
  · exact hc
  obtain ⟨hsame, offered, hoffered, hunit⟩ := hpromotes.unitOf
  obtain ⟨hsnapshot, hstored⟩ := hunit.snapshot hc hoffered nowMs
  have hkeeps : Keeps t (afterPromotion services t request current nowMs response) :=
    Keeps.of_eq rfl rfl
  have hsnapshots : ∀ id row, t.snapshots.find? id = some row →
      (afterPromotion services t request current nowMs response).snapshots.find? id = some row :=
    fun id row hrow => find?_insertOrIgnore_of_some hrow
  refine ⟨hc.orders, hc.lineOwner, fun id row hrow => (hc.decisions id row hrow).mono hkeeps,
    hc.reviewHeads, fun source row hrow => (hc.authorityHeads source row hrow).mono hkeeps rfl,
    ?_, ?_, ?_, receipts_put hc.receipts fun _ => ⟨response, rfl, hpromotes.valid⟩⟩
  · intro id row hrow
    simp only [afterPromotion, find?_insertOrIgnore] at hrow
    split at hrow
    · rename_i heq
      cases hrow
      rw [heq]
      cases hfound : t.snapshots.find? (authoritySnapshotId current) with
      | none => exact hsnapshot.mono hkeeps
      | some stored => exact (hc.snapshots _ _ hfound).mono hkeeps
    · exact (hc.snapshots id row hrow).mono hkeeps
  · intro key row hrow
    simp only [afterPromotion, find?_put] at hrow
    split at hrow
    · rename_i heq
      cases hrow
      rw [heq]
      obtain ⟨-, -, -, hderived, hquantity, hordinal, hnumbered⟩ :=
        unit_validate_eq_ok.mp hunit.valid
      refine ⟨⟨(t.snapshots.find? (authoritySnapshotId current)).getD
        (authoritySnapshotRow current nowMs), ?_, ?_, ?_⟩, ?_, hordinal, ⟨Nat.succ_pos _, ?_⟩,
        hpromotes.undeleted⟩
      · simp only [afterPromotion, promotionRow, find?_insertOrIgnore, if_pos]
      · cases hfound : t.snapshots.find? (authoritySnapshotId current) with
        | none => rfl
        | some stored => exact (hstored stored hfound).1
      · refine hquantity.trans ?_
        cases hfound : t.snapshots.find? (authoritySnapshotId current) with
        | none => rfl
        | some stored => exact congrArg (·.quantity) (hstored stored hfound).2.symm
      · rw [hderived, hsame]
        rfl
      · obtain ⟨promotedAt, rfl⟩ := hpromotes.answer
        have hvalid := hpromotes.valid
        rw [PromoteReceiptPurchaseUnitV1Response.validate, check_then_eq_ok,
          check_then_eq_ok] at hvalid
        exact (unit_validate_eq_ok.mp hvalid.2.1).2.2.2.2.2.2.purchaseUnitRevision.2
    · obtain ⟨⟨snapshot, hfound, hof⟩, hid, hordinal, hrevision, hundeleted⟩ :=
        hc.promotions key row hrow
      exact ⟨⟨snapshot, hsnapshots _ _ hfound, hof⟩, hid, hordinal, hrevision, hundeleted⟩
  · intro key row key' row' hrow hrow' heq
    simp only [afterPromotion, find?_put] at hrow hrow'
    split at hrow <;> split at hrow'
    · rename_i hkey hkey'
      rw [hkey, hkey']
    · cases hrow
      obtain ⟨hunit', hrequest'⟩ := hpromotes.unique key' row' hrow'
      exact heq.elim (fun h => absurd h.symm hunit') (fun h => absurd h.symm hrequest')
    · cases hrow'
      obtain ⟨hunit', hrequest'⟩ := hpromotes.unique key row hrow
      exact heq.elim (fun h => absurd h hunit') (fun h => absurd h hrequest')
    · exact hc.unitOwner key row key' row' hrow hrow' heq

/-! ## Deleting a unit -/

theorem check_findSomeM_eq_some {ε α β : Type} {f : α → Except ε (Option β)} {l : List α} {b : β}
    (h : l.findSomeM? f = .ok (some b)) : ∃ a ∈ l, f a = .ok (some b) := by
  induction l with
  | nil => cases h
  | cons a rest ih =>
    rw [findSomeM?, check_bind_eq_ok] at h
    obtain ⟨found, hfound, h⟩ := h
    cases found with
    | some c =>
      obtain rfl := Option.some.inj (Except.ok.inj h)
      exact ⟨a, .head _, hfound⟩
    | none =>
      obtain ⟨c, hc, hfound⟩ := ih h
      exact ⟨c, .tail _ hc, hfound⟩

theorem promotedTarget_eq_some (h : promotedTarget t asked = some target) :
    ∃ key row, t.promotions.find? key = some row ∧ key = (target.orderLineId, target.unitOrdinal) ∧
      row.purchaseUnitId = target.purchaseUnitId ∧
      target.branch = some ⟨row.authoritySnapshotId, row.itemId, row.evidenceId, row.decisionId,
        row.requestId⟩ := by
  obtain ⟨⟨key, row⟩, hrow, h⟩ := exists_of_findSome?_eq_some h
  simp only at h
  split at h
  · obtain ⟨snapshot, -, rfl⟩ := Option.map_eq_some_iff.mp h
    exact ⟨key, row, mem_rows.mp hrow, rfl, rfl, rfl⟩
  · cases h

theorem Consistent.promotedTarget_ne_none (hc : Consistent services t)
    {key : ReceiptOrderLineId × ℕ} {row : PromotionRow} (hrow : t.promotions.find? key = some row) :
    promotedTarget t (.purchaseUnit row.purchaseUnitId) ≠ none := by
  intro hnone
  obtain ⟨snapshot, hsnapshot, -⟩ := (hc.promotions key row hrow).snapshot
  have hrowNone := findSome?_eq_none_iff.mp hnone (key, row) (mem_rows.mpr hrow)
  simp [DeletionTargetV1.names, hsnapshot] at hrowNone

theorem offeredTarget_eq_some {id : ReceiptPurchaseUnitId} {entry : SourceId × AuthorityHeadRow}
    (h : offeredTarget services t id entry = .ok (some target)) :
    target.purchaseUnitId = id ∧ target.branch = none := by
  unfold offeredTarget at h
  obtain ⟨order, -, h⟩ := check_bind_eq_ok.mp h
  cases hreview : order.reviewHead with
  | none => simp [hreview] at h
  | some review =>
    simp only [hreview] at h
    split at h
    · cases h
    split at h
    · cases h
    obtain ⟨offered, -, h⟩ := check_bind_eq_ok.mp h
    obtain ⟨unit, -, rfl⟩ := Option.map_eq_some_iff.mp (Except.ok.inj h)
    exact ⟨rfl, rfl⟩

/-- **What a deletion is about**: a promotion, or a unit that nobody promoted. -/
theorem Consistent.resolve_cases (hc : Consistent services t)
    (h : resolveP12DeletionTarget services t asked = .ok target) :
    (∃ key row, t.promotions.find? key = some row ∧
        key = (target.orderLineId, target.unitOrdinal) ∧
        row.purchaseUnitId = target.purchaseUnitId ∧
        target.branch = some ⟨row.authoritySnapshotId, row.itemId, row.evidenceId, row.decisionId,
          row.requestId⟩) ∨
      target.branch = none ∧
        ∀ key row, t.promotions.find? key = some row → row.purchaseUnitId ≠ target.purchaseUnitId := by
  unfold resolveP12DeletionTarget at h
  cases hpromoted : promotedTarget t asked with
  | some promoted =>
    simp only [hpromoted] at h
    cases h
    exact Or.inl (promotedTarget_eq_some hpromoted)
  | none =>
    right
    simp only [hpromoted] at h
    cases asked with
    | item _ => cases h
    | receiptPurchaseUnitEvidence _ => cases h
    | purchaseUnit id =>
      have hfree : ∀ key row, t.promotions.find? key = some row → row.purchaseUnitId ≠ id := by
        rintro key row hrow rfl
        exact hc.promotedTarget_ne_none hrow hpromoted
      simp only at h
      cases hdeleted : deletedTarget t id with
      | some deleted =>
        simp only [hdeleted] at h
        cases h
        obtain ⟨row, -, rfl⟩ := Option.map_eq_some_iff.mp hdeleted
        exact ⟨rfl, hfree⟩
      | none =>
        simp only [hdeleted] at h
        obtain ⟨offered, hoffered, h⟩ := check_bind_eq_ok.mp h
        cases offered with
        | none => cases h
        | some found =>
          cases h
          obtain ⟨entry, -, hentry⟩ := check_findSomeM_eq_some hoffered
          obtain ⟨hid, hbranch⟩ := offeredTarget_eq_some hentry
          rw [hid]
          exact ⟨hbranch, hfree⟩

structure Deletes (t t' : PromotionTables) (id : ReceiptPurchaseUnitId) : Prop where
  orders : t'.orders = t.orders
  reviewDecisions : t'.reviewDecisions = t.reviewDecisions
  reviewHeads : t'.reviewHeads = t.reviewHeads
  authorityHeads : t'.authorityHeads = t.authorityHeads
  snapshots : ∀ id row, t'.snapshots.find? id = some row → t.snapshots.find? id = some row
  promotions : ∀ key row, t'.promotions.find? key = some row ↔
    t.promotions.find? key = some row ∧ row.purchaseUnitId ≠ id
  referenced : ∀ key row, t'.promotions.find? key = some row →
    t'.snapshots.find? row.authoritySnapshotId = t.snapshots.find? row.authoritySnapshotId
  deleted : (t'.deletions.find? id).isSome
  deletions : ∀ other, other ≠ id → t'.deletions.find? other = t.deletions.find? other
  receipts : ∀ id row, t'.commandReceipts.find? id = some row → t.commandReceipts.find? id = some row
  kept : ∀ request row, t.commandReceipts.find? request = some row →
    t'.commandReceipts.find? request = some row ∨
      ∃ key promotion, t.promotions.find? key = some promotion ∧
        promotion.purchaseUnitId = id ∧ promotion.requestId = request

theorem Consistent.deletes (hc : Consistent services t) {deletionRequestId : RequestId} {u : PUnit}
    (h : deletePurchaseUnit services asked deletionRequestId nowMs t = (.ok u, t')) :
    ∃ id, Deletes t t' id := by
  obtain ⟨target, hresolve, rfl⟩ := deletePurchaseUnit_eq_ok h
  refine ⟨target.purchaseUnitId, ?_⟩
  obtain ⟨key, row, hrow, hkey, hid, hbranch⟩ | ⟨hbranch, hfree⟩ := hc.resolve_cases hresolve
  · rw [afterDeletion, hbranch]
    -- another promotion is of another unit
    have hothers : ∀ other promotion, t.promotions.find? other = some promotion →
        (other ≠ (target.orderLineId, target.unitOrdinal) ↔
          promotion.purchaseUnitId ≠ target.purchaseUnitId) := by
      intro other promotion hother
      rw [← hkey, not_iff_not, ← hid]
      constructor
      · rintro rfl
        rw [hrow] at hother
        rw [Option.some.inj hother]
      · exact fun heq => hc.unitOwner _ _ _ _ hother hrow (.inl heq)
    have hpromotions : ∀ other promotion,
        (t.promotions.delete (target.orderLineId, target.unitOrdinal)).find? other =
            some promotion ↔ t.promotions.find? other = some promotion ∧
          promotion.purchaseUnitId ≠ target.purchaseUnitId := by
      intro other promotion
      rw [find?_delete]
      split
      · rename_i heq
        refine ⟨fun hnone => (by cases hnone), fun hother => ?_⟩
        exact absurd heq ((hothers other promotion hother.1).mpr hother.2)
      · rename_i hne
        exact ⟨fun hother => ⟨hother, (hothers other promotion hother).mp hne⟩, And.left⟩
    refine ⟨rfl, rfl, rfl, rfl, ?_, hpromotions, ?_, ?_, ?_, ?_, ?_⟩
    · intro id snapshot hsnapshot
      simp only [deleteBranch] at hsnapshot
      split at hsnapshot
      · exact hsnapshot
      · rw [find?_delete] at hsnapshot
        split at hsnapshot
        · cases hsnapshot
        · exact hsnapshot
    · intro other promotion hother
      obtain ⟨hother, hne⟩ := (hpromotions other promotion).mp hother
      simp only [deleteBranch]
      split
      · rfl
      · rename_i hlast
        rw [find?_delete, if_neg]
        intro heq
        exact hlast ⟨(other, promotion), mem_rows.mpr hother,
          (hothers other promotion hother).mpr hne, heq⟩
    · simp [deleteBranch, find?_insertOrIgnore]
    · intro other hother
      simp [deleteBranch, find?_insertOrIgnore, hother]
    · intro id receipt hreceipt
      simp only [deleteBranch, find?_delete] at hreceipt
      split at hreceipt
      · cases hreceipt
      · exact hreceipt
    · intro request receipt hreceipt
      simp only [deleteBranch, find?_delete]
      split
      · rename_i heq
        exact Or.inr ⟨key, row, hrow, hid, heq.symm⟩
      · exact Or.inl hreceipt
  · rw [afterDeletion, hbranch]
    refine ⟨rfl, rfl, rfl, rfl, fun _ _ hother => hother, ?_, fun _ _ _ => rfl, ?_, ?_,
      fun _ _ hother => hother, fun _ _ hreceipt => Or.inl hreceipt⟩
    · exact fun key row => ⟨fun hrow => ⟨hrow, hfree key row hrow⟩, And.left⟩
    · simp [find?_insertOrIgnore]
    · intro other hother
      simp [find?_insertOrIgnore, hother]

theorem Consistent.of_deletes (hc : Consistent services t) {id : ReceiptPurchaseUnitId}
    (h : Deletes t t' id) : Consistent services t' := by
  have hkeeps : Keeps t t' := Keeps.of_eq h.orders h.reviewDecisions
  refine ⟨by rw [h.orders]; exact hc.orders, by rw [h.orders]; exact hc.lineOwner, ?_, ?_, ?_, ?_,
    ?_, ?_, fun other row hrow => hc.receipts other row (h.receipts other row hrow)⟩
  · intro other row hrow
    rw [h.reviewDecisions] at hrow
    exact (hc.decisions other row hrow).mono hkeeps
  · rw [h.reviewHeads, h.reviewDecisions]
    exact hc.reviewHeads
  · intro source row hrow
    rw [h.authorityHeads] at hrow
    exact (hc.authorityHeads source row hrow).mono hkeeps (by rw [h.reviewHeads])
  · intro other row hrow
    exact (hc.snapshots other row (h.snapshots other row hrow)).mono hkeeps
  · intro key row hrow
    obtain ⟨hold, hne⟩ := (h.promotions key row).mp hrow
    obtain ⟨⟨snapshot, hfound, hof⟩, hid, hordinal, hrevision, hundeleted⟩ :=
      hc.promotions key row hold
    refine ⟨⟨snapshot, ?_, hof⟩, hid, hordinal, hrevision, ?_⟩
    · rw [h.referenced key row hrow]
      exact hfound
    · rw [h.deletions _ hne]
      exact hundeleted
  · intro key row key' row' hrow hrow'
    exact hc.unitOwner key row key' row' ((h.promotions key row).mp hrow).1
      ((h.promotions key' row').mp hrow').1

end Threadbook.Promotion
