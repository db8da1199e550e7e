import Mathlib
import Threadbook.PromotionRuns

/-!
# Where accepted receipts project

A review takes a price and a revision up to the greatest safe integer; a purchase unit takes
them only below it. `accepted_projects_iff` says when the projection of consistent tables
succeeds: when every unit on offer stays below.
-/

namespace Threadbook.Promotion

open Fallible Table List Option

variable {services : PromotionServices} {t : PromotionTables} {sourceFilter : Option SourceId}

/-! ## Units on offer -/

structure OnOffer (services : PromotionServices) (t : PromotionTables)
    (sourceFilter : Option SourceId) (head : AuthorityHeadRow) (price : Option ℕ) : Prop where
  exists_unit : ∃ source order decision index line quantity unitOrdinal id,
    t.authorityHeads.find? source = some head ∧ selects sourceFilter source = true ∧
    t.orders.find? head.orderEvidenceId = some order ∧
    t.reviewDecisions.find? head.reviewDecisionId = some decision ∧
    (decision.action = .confirm ∨ decision.action = .correct) ∧
    sourceHasPriorAuthorityState t source head.authorityId head.orderEvidenceId = false ∧
    (order.order head.orderEvidenceId none).lineItems[index]? = some line ∧
    effectiveEvent decision.reviewedOrder index line = some .purchase ∧
    effectiveQuantity decision.reviewedOrder index line = some quantity ∧
    effectivePrice decision.reviewedOrder index line = price ∧ unitOrdinal < quantity ∧
    ReceiptPurchaseUnitId.deriveV1 services.toContractServices line.orderLineId unitOrdinal =
      .ok id ∧ t.deletions.find? id = none

def HasPromotion (t : PromotionTables) (sourceFilter : Option SourceId) : Prop :=
  ∃ key row snapshot, t.promotions.find? key = some row ∧
    t.snapshots.find? row.authoritySnapshotId = some snapshot ∧
    selects sourceFilter snapshot.localSourceId = true

def BelowLimits (t : PromotionTables) (authorityRevision receiptRevision : ℕ)
    (price : Option ℕ) : Prop :=
  (∀ amount ∈ price, amount < maxSafeIntegerV1) ∧ authorityRevision < maxSafeIntegerV1 ∧
    receiptRevision < maxSafeIntegerV1 ∧ t.catalogRevision < maxSafeIntegerV1 ∧
    t.evidenceGeneration < maxSafeIntegerV1

structure WithinLimits (services : PromotionServices) (t : PromotionTables)
    (sourceFilter : Option SourceId) : Prop where
  units : ∀ head price, OnOffer services t sourceFilter head price →
    BelowLimits t head.authorityRevision head.receiptRevision price
  promotions : HasPromotion t sourceFilter →
    t.catalogRevision < maxSafeIntegerV1 ∧ t.evidenceGeneration < maxSafeIntegerV1

/-! ## Consistent tables load -/

theorem Consistent.loadOrder_total (hc : Consistent services t) {orderId : ReceiptOrderEvidenceId}
    {row : OrderRow} (hrow : t.orders.find? orderId = some row) :
    ∃ reviewHead, loadReviewHead services t orderId = .ok reviewHead ∧
      loadOrder services t orderId = .ok (row.order orderId reviewHead) := by
  have hreview : ∃ reviewHead, loadReviewHead services t orderId = .ok reviewHead := by
    unfold loadReviewHead
    cases hid : t.reviewHeads.find? orderId with
    | none => exact ⟨none, rfl⟩
    | some decisionId =>
      obtain ⟨decision, hdecision, -⟩ := hc.reviewHeads _ _ hid
      obtain ⟨createdAt, hcreated⟩ := (hc.decisions _ _ hdecision).createdAt
      simp [loadReviewDecision, hdecision, hcreated, bind, Except.bind]
  obtain ⟨reviewHead, hreview⟩ := hreview
  refine ⟨reviewHead, hreview, ?_⟩
  simp [loadOrder, hrow, (hc.orders _ _ hrow).length, hreview, bind, Except.bind]

structure InForce (services : PromotionServices) (t : PromotionTables) (source : SourceId)
    (head : AuthorityHeadRow) (row : OrderRow) (decisionRow : ReviewDecisionRow)
    (state : ReceiptStateV1) (decision : ReceiptReviewDecisionV1) : Prop where
  stored : t.orders.find? head.orderEvidenceId = some row
  ofSource : row.sourceId = source
  decided : t.reviewDecisions.find? head.reviewDecisionId = some decisionRow
  loaded : loadOrder services t head.orderEvidenceId =
    .ok (row.order head.orderEvidenceId (some ⟨state, decision⟩))
  decisionId : decision.decisionId = head.reviewDecisionId
  action : decision.action = decisionRow.action
  corrected : decision.correctedOrder = decisionRow.reviewedOrder
  receiptRevision : decisionRow.receiptRevision = head.receiptRevision
  stands : decisionRow.action = .confirm ∨ decisionRow.action = .correct →
    Stands (row.order head.orderEvidenceId (some ⟨state, decision⟩)) decisionRow.action
      decisionRow.reviewedOrder

/-- **Each authority of consistent tables** stands for a decision that loads. -/
theorem Consistent.inForce (hc : Consistent services t) {source : SourceId}
    {head : AuthorityHeadRow} (hhead : t.authorityHeads.find? source = some head) :
    ∃ row decisionRow state decision,
      InForce services t source head row decisionRow state decision := by
  have hvalid := hc.authorityHeads _ _ hhead
  obtain ⟨row, hrow, hsource⟩ := hvalid.order
  obtain ⟨decisionRow, hdecision, hof, hrevision⟩ := hvalid.decision
  obtain ⟨reviewHead, hreview, hload⟩ := hc.loadOrder_total hrow
  -- the order's decision is the authority's
  have hsome : ∃ review, reviewHead = some review := by
    obtain ⟨createdAt, hcreated⟩ := (hc.decisions _ _ hdecision).createdAt
    simp only [loadReviewHead, hvalid.inForce, loadReviewDecision, hdecision, hcreated,
      check_bind_eq_ok] at hreview
    obtain ⟨decision, -, hreview⟩ := hreview
    exact ⟨_, (Except.ok.inj hreview).symm⟩
  obtain ⟨⟨state, decision⟩, rfl⟩ := hsome
  obtain ⟨hinForce, -, other, hother, -, haction, hcorrected, -⟩ := loadReviewHead_eq_some hreview
  rw [hvalid.inForce] at hinForce
  have hid : decision.decisionId = head.reviewDecisionId := (some.inj hinForce).symm
  simp only [hid] at hother
  rw [hdecision] at hother
  cases hother
  refine ⟨row, decisionRow, state, decision, hrow, hsource, hdecision, hload, hid, haction,
    hcorrected, hrevision, fun haccepts => ?_⟩
  have hdecisionValid := hc.decisions _ _ hdecision
  obtain ⟨order, horder, hsnapshot⟩ := hdecisionValid.order
  rw [hof, hrow] at horder
  cases horder
  have hcheck := hdecisionValid.action
  cases hcorrection : decisionRow.reviewedOrder with
  | none =>
    rw [hcorrection] at hcheck
    rcases haccepts with hconfirm | hcorrect
    · rw [hconfirm]
      exact .confirm
    · rw [hcorrect] at hcheck
      cases hcheck
  | some corrected =>
    rw [hcorrection] at hcheck hsnapshot
    rcases haccepts with hconfirm | hcorrect
    · rw [hconfirm] at hcheck
      cases hcheck
    · rw [hcorrect] at hcheck ⊢
      simp only [validateAction, check_then_eq_ok] at hcheck
      rw [hof] at hsnapshot
      exact .correct hcheck.1 hsnapshot

/-! ## Units -/

variable {orderLineId : ReceiptOrderLineId} {unitOrdinal : ℕ} {projection : Projection}

variable {e : PlatformError} {authority : ReceiptPurchaseUnitAuthorityV1}
  {provenance : ReceiptPurchaseUnitProvenanceV1} {exclusion : ReceiptPurchaseUnitExclusionV1}
  {request : ListReceiptPurchaseUnitsV1Request}

/-- **A unit of a purchase** is valid exactly when its numbers are below the limits. -/
theorem Consistent.currentUnit_validate_iff (hc : Consistent services t)
    {values : ReceiptPurchaseUnitValuesV1} {id : ReceiptPurchaseUnitId} (hvalues : Reviewed values)
    (hpurchase : values.eventKind = .purchase)
    (hprovenance : provenance.validateAgainst values authority.reviewDecisionId
      authority.reviewAction = .ok ())
    (haccepts : authority.reviewAction = .confirm ∨ authority.reviewAction = .correct)
    (hauthority : 0 < authority.authorityRevision) (hreceipt : 0 < authority.receiptRevision)
    (hid : ReceiptPurchaseUnitId.deriveV1 services.toContractServices orderLineId unitOrdinal =
      .ok id) (hordinal : unitOrdinal < values.quantity) :
    (currentUnit services t authority orderLineId values provenance unitOrdinal id).validate
        services.toContractServices = .ok () ↔
      BelowLimits t authority.authorityRevision authority.receiptRevision values.unitPriceMinor := by
  rw [unit_validate_eq_ok]
  simp only [currentUnit, hvalues.validate_iff]
  constructor
  · rintro ⟨⟨-, hprice⟩, -, -, -, -, -, hnumbered⟩
    exact ⟨hprice, hnumbered.authorityRevision.2, hnumbered.receiptRevision.2,
      hnumbered.catalogRevision, hnumbered.evidenceGeneration⟩
  · rintro ⟨hprice, hauthority', hreceipt', hcatalog, hevidence⟩
    refine ⟨⟨hpurchase, hprice⟩, haccepts, hprovenance, hid, trivial, hordinal,
      ⟨hauthority, hauthority'⟩, ⟨hreceipt, hreceipt'⟩, ?_, hcatalog, hevidence⟩
    cases hpromotion : t.promotions.find? (orderLineId, unitOrdinal) with
    | none => exact ⟨hauthority, hauthority'⟩
    | some row => exact (hc.promotions _ _ hpromotion).revision

theorem deriveV1_of_lt (h : unitOrdinal < maxReceiptQuantity) :
    ∃ id, ReceiptPurchaseUnitId.deriveV1 services.toContractServices orderLineId unitOrdinal =
      .ok id := by
  rw [ReceiptPurchaseUnitId.deriveV1, if_neg (by omega)]
  exact ⟨_, rfl⟩

theorem projectUnit_error {values : ReceiptPurchaseUnitValuesV1}
    (h : projectUnit services t authority orderLineId values provenance unitOrdinal = .error e) :
    ∃ code, e = .corrupt code := by
  unfold projectUnit at h
  split at h
  · exact ⟨_, (Except.error.inj h).symm⟩
  · split at h
    · cases h
    · simp only at h
      split at h
      · exact ⟨_, (Except.error.inj h).symm⟩
      · cases h

/-! ## Lines -/

section Lines

variable {source : SourceId} {head : AuthorityHeadRow} {row : OrderRow}
  {decisionRow : ReviewDecisionRow} {state : ReceiptStateV1} {decision : ReceiptReviewDecisionV1}

def InForce.projected (services : PromotionServices) (t : PromotionTables) (source : SourceId)
    (head : AuthorityHeadRow) (row : OrderRow) (state : ReceiptStateV1)
    (decision : ReceiptReviewDecisionV1) (entry : ReceiptOrderLineV1 × ℕ) :
    Except PlatformError (List ProjectionEntry) :=
  let order := row.order head.orderEvidenceId (some ⟨state, decision⟩)
  projectLine services t (sourceAuthority source head decision order)
    (sourceHasPriorAuthorityState t source head.authorityId head.orderEvidenceId) order
    decision.correctedOrder entry.1 entry.2

/-- **A line projects** exactly when each of its units on offer is below the limits. -/
theorem InForce.projected_total (hc : Consistent services t)
    (hhead : t.authorityHeads.find? source = some head)
    (h : InForce services t source head row decisionRow state decision)
    (haccepts : decisionRow.action = .confirm ∨ decisionRow.action = .correct)
    {line : ReceiptOrderLineV1} {index : ℕ}
    (hline : (row.order head.orderEvidenceId (some ⟨state, decision⟩)).lineItems[index]? =
      some line) :
    (∃ entries, InForce.projected services t source head row state decision (line, index) =
        .ok entries) ↔
      ∀ quantity unitOrdinal id,
        sourceHasPriorAuthorityState t source head.authorityId head.orderEvidenceId = false →
        effectiveEvent decisionRow.reviewedOrder index line = some .purchase →
        effectiveQuantity decisionRow.reviewedOrder index line = some quantity →
        unitOrdinal < quantity →
        ReceiptPurchaseUnitId.deriveV1 services.toContractServices line.orderLineId unitOrdinal =
          .ok id → t.deletions.find? id = none →
        BelowLimits t head.authorityRevision head.receiptRevision
          (effectivePrice decisionRow.reviewedOrder index line) := by
  unfold InForce.projected projectLine
  simp only [h.corrected]
  cases hevent : effectiveEvent decisionRow.reviewedOrder index line with
  | none => simp
  | some eventKind =>
    cases hquantity : effectiveQuantity decisionRow.reviewedOrder index line with
    | none => simp
    | some quantity =>
      have hsound := (hc.orders _ _ h.stored).sound (some ⟨state, decision⟩)
      obtain ⟨values, provenance, hvalues, rfl, rfl, hprice, hreviewed, hprovenance⟩ :=
        (h.stands haccepts).effectiveValues hsound hline hevent hquantity decision.decisionId
      have hhead := hc.authorityHeads _ _ hhead
      obtain ⟨other, hother, -, hrevision⟩ := hhead.decision
      have hreceipt : 0 < head.receiptRevision := by
        rw [← hrevision]
        exact (hc.decisions _ _ hother).receiptRevision
      have hbound := hreviewed.quantity.2
      rw [if_neg (by simp), if_neg (by simp)]
      simp only [sourceAuthority, hvalues, check_bind_eq_ok, Except.ok.injEq, exists_eq_left',
        projectLineUnits, some.injEq]
      cases hprior : sourceHasPriorAuthorityState t source head.authorityId head.orderEvidenceId with
      | true => simp
      | false =>
        simp only [Bool.false_eq_true, if_false, true_imp_iff]
        by_cases hpurchase : values.eventKind = .purchase
        · rw [if_neg (not_not.mpr hpurchase), if_neg (by
            simp only [maxReceiptQuantity] at hbound
            omega), check_mapM_total]
          rw [← hprice]
          constructor
          · rintro htotal quantity unitOrdinal id - rfl hordinal hid hundeleted
            obtain ⟨entry, hentry⟩ := htotal unitOrdinal (mem_range.mpr hordinal)
            obtain ⟨id', hid', hcase⟩ := projectUnit_eq_ok.mp hentry
            rw [hid] at hid'
            cases hid'
            rcases hcase with ⟨⟨deletion, hdeleted⟩, -⟩ | ⟨-, hvalid, -⟩
            · rw [hundeleted] at hdeleted
              cases hdeleted
            · exact (hc.currentUnit_validate_iff hreviewed hpurchase
                (by rw [h.action]; exact hprovenance) (by rw [h.action]; exact haccepts)
                hhead.authorityRevision hreceipt hid hordinal).mp hvalid
          · intro hbelow unitOrdinal hordinal
            rw [mem_range] at hordinal
            obtain ⟨id, hid⟩ : ∃ id, ReceiptPurchaseUnitId.deriveV1 services.toContractServices
              line.orderLineId unitOrdinal = .ok id := deriveV1_of_lt (by omega)
            cases hdeleted : t.deletions.find? id with
            | some deletion =>
              exact ⟨_, projectUnit_eq_ok.mpr ⟨id, hid, Or.inl ⟨⟨deletion, hdeleted⟩, rfl⟩⟩⟩
            | none =>
              have hlimits := hbelow values.quantity unitOrdinal id hpurchase rfl hordinal hid hdeleted
              refine ⟨_, projectUnit_eq_ok.mpr ⟨id, hid, Or.inr ⟨hdeleted, ?_, rfl⟩⟩⟩
              exact (hc.currentUnit_validate_iff hreviewed hpurchase
                (by rw [h.action]; exact hprovenance) (by rw [h.action]; exact haccepts)
                hhead.authorityRevision hreceipt hid hordinal).mpr hlimits
        · rw [if_pos hpurchase]
          simp [hpurchase]

/-- **A source whose order is accepted** projects line by line. -/
theorem InForce.projectSource_eq
    (h : InForce services t source head row decisionRow state decision)
    (haccepts : decisionRow.action = .confirm ∨ decisionRow.action = .correct) :
    projectSource services t (source, head) =
      ((row.order head.orderEvidenceId (some ⟨state, decision⟩)).lineItems.zipIdx.mapM
        (InForce.projected services t source head row state decision)).map flatten := by
  have hreview : (row.order head.orderEvidenceId (some ⟨state, decision⟩)).reviewHead =
      some ⟨state, decision⟩ := rfl
  have hforce : ¬ decision.decisionId ≠ head.reviewDecisionId := not_not.mpr h.decisionId
  rw [← h.action] at haccepts
  unfold projectSource InForce.projected sourceAuthority
  simp only [h.loaded, bind, Except.bind, hreview, if_neg hforce]
  rcases haccepts with haction | haction
  all_goals
    simp only [haction]
    split <;> rename_i hlines <;> rw [hlines] <;> rfl

theorem InForce.projectSource_of_not_accepted
    (h : InForce services t source head row decisionRow state decision)
    (hrefuses : ¬ (decisionRow.action = .confirm ∨ decisionRow.action = .correct)) :
    ∃ entries, projectSource services t (source, head) = .ok entries := by
  have hreview : (row.order head.orderEvidenceId (some ⟨state, decision⟩)).reviewHead =
      some ⟨state, decision⟩ := rfl
  have hforce : ¬ decision.decisionId ≠ head.reviewDecisionId := not_not.mpr h.decisionId
  rw [← h.action] at hrefuses
  unfold projectSource
  simp only [h.loaded, bind, Except.bind, hreview, if_neg hforce]
  cases haction : decision.action with
  | confirm => exact absurd (.inl haction) hrefuses
  | correct => exact absurd (.inr haction) hrefuses
  | reject => exact ⟨_, rfl⟩
  | defer => exact ⟨_, rfl⟩

theorem check_map_total {ε α β : Type} {x : Except ε α} {f : α → β} :
    (∃ b, x.map f = .ok b) ↔ ∃ a, x = .ok a := by
  cases x <;> simp [Except.map]

theorem InForce.projectSource_total
    (h : InForce services t source head row decisionRow state decision) :
    (∃ entries, projectSource services t (source, head) = .ok entries) ↔
      (decisionRow.action = .confirm ∨ decisionRow.action = .correct →
        ∀ entry ∈ (row.order head.orderEvidenceId (some ⟨state, decision⟩)).lineItems.zipIdx,
          ∃ entries, InForce.projected services t source head row state decision entry =
            .ok entries) := by
  by_cases haccepts : decisionRow.action = .confirm ∨ decisionRow.action = .correct
  · rw [h.projectSource_eq haccepts, check_map_total, check_mapM_total]
    exact ⟨fun htotal _ => htotal, fun htotal => htotal haccepts⟩
  · exact iff_of_true (h.projectSource_of_not_accepted haccepts) fun h => absurd h haccepts

theorem InForce.projectLine_error (hc : Consistent services t)
    (h : InForce services t source head row decisionRow state decision)
    (haccepts : decisionRow.action = .confirm ∨ decisionRow.action = .correct)
    {line : ReceiptOrderLineV1} {index : ℕ}
    (hline : (row.order head.orderEvidenceId (some ⟨state, decision⟩)).lineItems[index]? =
      some line)

    (herror : InForce.projected services t source head row state decision (line, index) = .error e) :
    ∃ code, e = .corrupt code := by
  unfold InForce.projected projectLine at herror
  simp only [h.corrected] at herror
  cases hevent : effectiveEvent decisionRow.reviewedOrder index line with
  | none => simp [hevent] at herror
  | some eventKind =>
    cases hquantity : effectiveQuantity decisionRow.reviewedOrder index line with
    | none => simp [hevent, hquantity] at herror
    | some quantity =>
      have hsound := (hc.orders _ _ h.stored).sound (some ⟨state, decision⟩)
      obtain ⟨values, provenance, hvalues, -⟩ :=
        (h.stands haccepts).effectiveValues hsound hline hevent hquantity decision.decisionId
      simp only [hevent, hquantity, reduceCtorEq, if_false, sourceAuthority, hvalues, bind,
        Except.bind, projectLineUnits] at herror
      split at herror
      · cases herror
      split at herror
      · cases herror
      split at herror
      · exact ⟨_, (Except.error.inj herror).symm⟩
      obtain ⟨ordinal, -, hunit⟩ := check_mapM_eq_error herror
      exact projectUnit_error hunit

theorem InForce.projectSource_error (hc : Consistent services t)
    (h : InForce services t source head row decisionRow state decision)
    (herror : projectSource services t (source, head) = .error e) : ∃ code, e = .corrupt code := by
  by_cases haccepts : decisionRow.action = .confirm ∨ decisionRow.action = .correct
  · rw [h.projectSource_eq haccepts] at herror
    cases hlines : (row.order head.orderEvidenceId (some ⟨state, decision⟩)).lineItems.zipIdx.mapM
      (InForce.projected services t source head row state decision) with
    | ok lines => simp [hlines, Except.map] at herror
    | error e' =>
      rw [hlines] at herror
      obtain rfl := Except.error.inj herror
      obtain ⟨⟨line, index⟩, hentry, hline⟩ := check_mapM_eq_error hlines
      exact h.projectLine_error hc haccepts (mem_zipIdx_iff_getElem?.mp hentry) hline
  · obtain ⟨entries, hok⟩ := h.projectSource_of_not_accepted haccepts
    rw [herror] at hok
    cases hok

end Lines

/-! ## Promotions -/

theorem mem_joinedPromotions {joined : JoinedPromotion} :
    joined ∈ joinedPromotions t sourceFilter ↔
      t.promotions.find? (joined.orderLineId, joined.unitOrdinal) = some joined.promotion ∧
        t.snapshots.find? joined.promotion.authoritySnapshotId = some joined.snapshot ∧
        selects sourceFilter joined.snapshot.localSourceId = true := by
  rw [joinedPromotions, mem_insertionSort, mem_filterMap]
  constructor
  · rintro ⟨⟨key, row⟩, hrow, h⟩
    obtain ⟨snapshot, hsnapshot, rfl⟩ := map_eq_some_iff.mp h
    obtain ⟨hfound, hselects⟩ := filter_eq_some_iff.mp hsnapshot
    exact ⟨mem_rows.mp hrow, hfound, hselects⟩
  · rintro ⟨hrow, hfound, hselects⟩
    refine ⟨((joined.orderLineId, joined.unitOrdinal), joined.promotion), mem_rows.mpr hrow, ?_⟩
    rw [map_eq_some_iff]
    exact ⟨joined.snapshot, filter_eq_some_iff.mpr ⟨hfound, hselects⟩, rfl⟩

/-- **A stored promotion** is valid exactly when the revisions are below the limits. -/
theorem Consistent.joined_validate_iff (hc : Consistent services t) {joined : JoinedPromotion}
    (h : joined ∈ joinedPromotions t sourceFilter) :
    (joined.unit (purchaseUnitSnapshot t)).validate services.toContractServices = .ok () ↔
      t.catalogRevision < maxSafeIntegerV1 ∧ t.evidenceGeneration < maxSafeIntegerV1 := by
  obtain ⟨hrow, hfound, -⟩ := mem_joinedPromotions.mp h
  have hvalid := hc.promotions _ _ hrow
  have hsnapshot := hc.snapshots _ _ hfound
  obtain ⟨snapshot, hother, hline, hquantity⟩ := hvalid.snapshot
  rw [hfound] at hother
  cases hother
  rw [unit_validate_eq_ok]
  constructor
  · rintro ⟨-, -, -, -, -, -, hnumbered⟩
    exact ⟨hnumbered.catalogRevision, hnumbered.evidenceGeneration⟩
  · rintro ⟨hcatalog, hevidence⟩
    exact ⟨hsnapshot.values, hsnapshot.action, hsnapshot.provenance, hvalid.purchaseUnitId,
      hquantity, hvalid.ordinal, hsnapshot.authorityRevision, hsnapshot.receiptRevision,
      hvalid.revision, hcatalog, hevidence⟩

/-! ## The whole -/

theorem Consistent.reviewRequired_total (hc : Consistent services t)
    (sourceFilter : Option SourceId) :
    ∃ exclusions, appendReviewRequiredExclusions services t sourceFilter = .ok exclusions := by
  unfold appendReviewRequiredExclusions
  simp only [check_bind_eq_ok]
  have hrows := check_mapM_total.mpr fun (entry : ReceiptOrderEvidenceId × OrderRow)
      (hentry : entry ∈ (t.orders.rows.filter fun row => selects sourceFilter row.2.sourceId &&
        (t.authorityHeads.find? row.2.sourceId).isNone && isLatestRun t row.2).insertionSort
          fun left right => left.2.sourceId ≤ right.2.sourceId) =>
    show ∃ exclusions, (do
        let order ← loadOrder services t entry.1
        Except.ok (order.lineItems.map
          (lineExclusion entry.2.sourceId order.orderEvidenceId .reviewRequired))) =
      .ok exclusions by
    rw [mem_insertionSort, mem_filter] at hentry
    obtain ⟨reviewHead, -, hload⟩ := hc.loadOrder_total (mem_rows.mp hentry.1)
    rw [hload]
    exact ⟨_, rfl⟩
  obtain ⟨exclusions, hexclusions⟩ := hrows
  exact ⟨_, exclusions, hexclusions, rfl⟩

theorem Consistent.sources_total_iff (hc : Consistent services t) :
    (∀ entry ∈ selectedHeads t sourceFilter, ∃ entries, projectSource services t entry =
        .ok entries) ↔
      ∀ head price, OnOffer services t sourceFilter head price →
        BelowLimits t head.authorityRevision head.receiptRevision price := by
  constructor
  · rintro htotal head price ⟨source, order, decisionRow, index, line, quantity, unitOrdinal, id,
      hhead, hselects, horder, hdecision, haccepts, hprior, hline, hevent, hquantity, rfl, hordinal,
      hid, hundeleted⟩
    obtain ⟨row, other, state, decision, h⟩ := hc.inForce hhead
    obtain rfl := some.inj (h.stored.symm.trans horder)
    obtain rfl := some.inj (h.decided.symm.trans hdecision)
    have hsource := h.projectSource_total.mp
      (htotal (source, head) (mem_selectedHeads.mpr ⟨hhead, hselects⟩)) haccepts (line, index)
      (mem_zipIdx_iff_getElem?.mpr hline)
    exact (h.projected_total hc hhead haccepts hline).mp hsource quantity unitOrdinal id hprior
      hevent hquantity hordinal hid hundeleted
  · rintro hbelow ⟨source, head⟩ hentry
    obtain ⟨hhead, hselects⟩ := mem_selectedHeads.mp hentry
    obtain ⟨row, decisionRow, state, decision, h⟩ := hc.inForce hhead
    rw [h.projectSource_total]
    rintro haccepts ⟨line, index⟩ hline
    rw [mem_zipIdx_iff_getElem?] at hline
    rw [h.projected_total hc hhead haccepts hline]
    intro quantity unitOrdinal id hprior hevent hquantity hordinal hid hundeleted
    exact hbelow head _ ⟨source, row, decisionRow, index, line, quantity, unitOrdinal, id, hhead,
      hselects, h.stored, h.decided, haccepts, hprior, hline, hevent, hquantity, rfl, hordinal, hid,
      hundeleted⟩

theorem revisions_of_projection (h : projectPurchaseUnits services t sourceFilter = .ok projection)
    (hpromotion : HasPromotion t sourceFilter) :
    t.catalogRevision < maxSafeIntegerV1 ∧ t.evidenceGeneration < maxSafeIntegerV1 := by
  obtain ⟨key, row, snapshot, hrow, hsnapshot, hselects⟩ := hpromotion
  have hjoined : (⟨key.1, key.2, row, snapshot⟩ : JoinedPromotion) ∈
      joinedPromotions t sourceFilter := mem_joinedPromotions.mpr ⟨hrow, hsnapshot, hselects⟩
  obtain ⟨-, contributions, historical, -, hcontributions, hhistorical, -, -⟩ :=
    projectPurchaseUnits_eq_ok h
  by_cases hvisible : row.purchaseUnitId ∈
      (contributions.flatten.filterMap ProjectionEntry.unit?).map (·.purchaseUnitId)
  · -- a line shows it
    obtain ⟨unit, hunit, -⟩ := mem_map.mp hvisible
    obtain ⟨entry, hentry, heq⟩ := mem_filterMap.mp hunit
    obtain ⟨entries, hentries, hentry⟩ := mem_flatten.mp hentry
    obtain ⟨offered, -, hcontributes⟩ :=
      exists_of_forall₂ hcontributions entries hentries
    cases entry with
    | exclusion _ => cases heq
    | unit found =>
      cases heq
      have hof := UnitOf.of_mem hcontributes hentry
      obtain ⟨decision, values, provenance, -, -, hcurrent⟩ := hof.offers
      obtain ⟨-, -, -, -, -, -, hnumbered⟩ := unit_validate_eq_ok.mp hof.valid
      rw [hcurrent] at hnumbered
      exact ⟨hnumbered.catalogRevision, hnumbered.evidenceGeneration⟩
  · obtain ⟨unit, hunit⟩ := check_mapM_total.mp ⟨historical, hhistorical⟩ _
      (mem_filter.mpr ⟨hjoined, by simpa using hvisible⟩)
    simp only at hunit
    split at hunit
    · cases hunit
    · rename_i hvalid
      obtain ⟨-, -, -, -, -, -, hnumbered⟩ := unit_validate_eq_ok.mp hvalid
      exact ⟨hnumbered.catalogRevision, hnumbered.evidenceGeneration⟩

theorem Consistent.historical_total (hc : Consistent services t)
    (h : HasPromotion t sourceFilter →
      t.catalogRevision < maxSafeIntegerV1 ∧ t.evidenceGeneration < maxSafeIntegerV1)
    (visible : List ReceiptPurchaseUnitId) :
    ∃ historical, loadHistoricalPromotions services t sourceFilter visible = .ok historical := by
  rw [loadHistoricalPromotions, check_mapM_total]
  intro joined hjoined
  obtain ⟨hmem, -⟩ := mem_filter.mp hjoined
  obtain ⟨hrow, hfound, hselects⟩ := mem_joinedPromotions.mp hmem
  have hvalid := (hc.joined_validate_iff hmem).mpr (h ⟨_, _, _, hrow, hfound, hselects⟩)
  simp only [hvalid]
  exact ⟨_, rfl⟩

/-- **Consistent tables project** exactly when they are within the limits. -/
theorem Consistent.projects_iff (hc : Consistent services t) :
    (∃ projection, projectPurchaseUnits services t sourceFilter = .ok projection) ↔
      WithinLimits services t sourceFilter := by
  constructor
  · rintro ⟨projection, h⟩
    refine ⟨hc.sources_total_iff.mp ?_, revisions_of_projection h⟩
    unfold projectPurchaseUnits at h
    simp only [check_bind_eq_ok] at h
    obtain ⟨-, -, sources, hsources, -⟩ := h
    exact check_mapM_total.mp ⟨sources, hsources⟩
  · rintro ⟨hunits, hpromotions⟩
    obtain ⟨exclusions, hexclusions⟩ := hc.reviewRequired_total sourceFilter
    obtain ⟨sources, hsources⟩ := check_mapM_total.mpr (hc.sources_total_iff.mpr hunits)
    obtain ⟨historical, hhistorical⟩ := hc.historical_total hpromotions
      ((sources.flatten.filterMap ProjectionEntry.unit?).map (·.purchaseUnitId))
    unfold projectPurchaseUnits
    simp only [check_bind_eq_ok]
    exact ⟨_, exclusions, hexclusions, sources, hsources, historical, hhistorical, rfl⟩

theorem Consistent.projection_error (hc : Consistent services t)
    (h : projectPurchaseUnits services t sourceFilter = .error e) : ∃ code, e = .corrupt code := by
  obtain ⟨exclusions, hexclusions⟩ := hc.reviewRequired_total sourceFilter
  unfold projectPurchaseUnits at h
  cases hsources : (selectedHeads t sourceFilter).mapM (projectSource services t) with
  | error e' =>
    simp only [bind, Except.bind, hexclusions, hsources] at h
    obtain rfl := Except.error.inj h
    obtain ⟨⟨source, head⟩, hentry, hsource⟩ := check_mapM_eq_error hsources
    obtain ⟨row, decisionRow, state, decision, hforce⟩ :=
      hc.inForce (mem_selectedHeads.mp hentry).1
    exact hforce.projectSource_error hc hsource
  | ok sources =>
    cases hhistorical : loadHistoricalPromotions services t sourceFilter
      ((sources.flatten.filterMap ProjectionEntry.unit?).map (·.purchaseUnitId)) with
    | error e' =>
      simp only [bind, Except.bind, hexclusions, hsources, hhistorical] at h
      obtain rfl := Except.error.inj h
      obtain ⟨joined, -, hjoined⟩ := check_mapM_eq_error hhistorical
      simp only at hjoined
      split at hjoined
      · exact ⟨_, (Except.error.inj hjoined).symm⟩
      · cases hjoined
    | ok historical =>
      simp only [bind, Except.bind, hexclusions, hsources, hhistorical] at h
      cases h

/-! ## Listing -/

theorem mem_reviewRequired {exclusions : List ReceiptPurchaseUnitExclusionV1}
    (h : appendReviewRequiredExclusions services t sourceFilter = .ok exclusions)
    (hmem : exclusion ∈ exclusions) :
    ∃ orderId row order line, t.orders.find? orderId = some row ∧
      t.authorityHeads.find? row.sourceId = none ∧ loadOrder services t orderId = .ok order ∧
      line ∈ order.lineItems ∧
      exclusion = lineExclusion row.sourceId order.orderEvidenceId .reviewRequired line := by
  unfold appendReviewRequiredExclusions at h
  obtain ⟨lists, hlists, h⟩ := check_bind_eq_ok.mp h
  cases h
  obtain ⟨list, hlist, hmem⟩ := mem_flatten.mp hmem
  obtain ⟨⟨orderId, row⟩, hrow, hok⟩ :=
    exists_of_forall₂ (check_mapM_eq_ok.mp hlists) list hlist
  rw [mem_insertionSort, mem_filter] at hrow
  obtain ⟨hrow, hfilter⟩ := hrow
  simp only [Bool.and_eq_true, isNone_iff_eq_none] at hfilter
  obtain ⟨order, hload, hok⟩ := check_bind_eq_ok.mp hok
  cases hok
  obtain ⟨line, hline, rfl⟩ := mem_map.mp hmem
  exact ⟨orderId, row, order, line, mem_rows.mp hrow, hfilter.1.2, hload, hline, rfl⟩

theorem lineExclusion_validate (source : SourceId) (orderId : ReceiptOrderEvidenceId)
    (reason : ReceiptPurchaseUnitExclusionReasonV1) (line : ReceiptOrderLineV1) :
    (lineExclusion source orderId reason line).validate = .ok () := by
  simp [lineExclusion, ReceiptPurchaseUnitExclusionV1.validate]

theorem deriveV1_lt {id : ReceiptPurchaseUnitId}
    (h : ReceiptPurchaseUnitId.deriveV1 services.toContractServices orderLineId unitOrdinal =
      .ok id) : unitOrdinal < maxReceiptQuantity := by
  rw [ReceiptPurchaseUnitId.deriveV1, check_unless_eq_ok] at h
  exact not_le.mp h.1

theorem exclusion_of_contributes {offered : OfferedLine} {entries : List ProjectionEntry}
    (h : offered.Contributes services t entries) (hmem : .exclusion exclusion ∈ entries) :
    exclusion.orderLineId = some offered.line.orderLineId ∧
      ∀ unitOrdinal ∈ exclusion.unitOrdinal, unitOrdinal < maxReceiptQuantity := by
  cases h with
  | excluded reason =>
    obtain rfl := ProjectionEntry.exclusion.inj (mem_singleton.mp hmem)
    exact ⟨rfl, by simp [lineExclusion]⟩
  | @units decision values provenance entries hoffers hprojected =>
    obtain ⟨ordinal, -, hok⟩ := exists_of_forall₂ hprojected _ hmem
    obtain ⟨id, hid, ⟨-, hentry⟩ | ⟨-, -, hentry⟩⟩ := projectUnit_eq_ok.mp hok
    · obtain rfl := ProjectionEntry.exclusion.inj hentry
      refine ⟨rfl, fun unitOrdinal hunit => ?_⟩
      cases hunit
      exact deriveV1_lt hid
    · cases hentry

/-- **What a projection of consistent tables holds** is valid. -/
theorem Consistent.projection_valid (hc : Consistent services t)
    (h : projectPurchaseUnits services t sourceFilter = .ok projection) :
    (∀ unit ∈ projection.units, unit.validate services.toContractServices = .ok ()) ∧
      ∀ exclusion ∈ projection.exclusions, exclusion.validate = .ok () := by
  refine ⟨fun unit hunit => ?_, fun exclusion hexclusion => ?_⟩
  · rcases unit_of_projection h hunit with ⟨offered, -, hof⟩ | ⟨joined, hjoined, rfl⟩
    · exact hof.valid
    · obtain ⟨hrow, hfound, hselects⟩ := mem_joinedPromotions.mp hjoined
      exact (hc.joined_validate_iff hjoined).mpr
        (revisions_of_projection h ⟨_, _, _, hrow, hfound, hselects⟩)
  · obtain ⟨reviewRequired, contributions, -, hrequired, hcontributions, -, -, hexclusions⟩ :=
      projectPurchaseUnits_eq_ok h
    rw [hexclusions, mem_append] at hexclusion
    rcases hexclusion with hmem | hmem
    · obtain ⟨orderId, row, order, line, -, -, -, -, rfl⟩ := mem_reviewRequired hrequired hmem
      exact lineExclusion_validate _ _ _ _
    · obtain ⟨entry, hentry, heq⟩ := mem_filterMap.mp hmem
      obtain ⟨entries, hentries, hentry⟩ := mem_flatten.mp hentry
      obtain ⟨offered, -, hcontributes⟩ :=
        exists_of_forall₂ hcontributions entries hentries
      cases entry with
      | unit _ => cases heq
      | exclusion found =>
        cases heq
        obtain ⟨hline, hordinal⟩ := exclusion_of_contributes hcontributes hentry
        rw [ReceiptPurchaseUnitExclusionV1.validate, check_unless_eq_ok, check_unless_eq_ok]
        refine ⟨by simp [hline], ?_, rfl⟩
        rintro ⟨unitOrdinal, hunit, hle⟩
        exact absurd (hordinal unitOrdinal hunit) (not_lt.mpr hle)

theorem filterMap_unit_entries (units : List ReceiptPurchaseUnitV1)
    (exclusions : List ReceiptPurchaseUnitExclusionV1) :
    (units.map ProjectionEntry.unit ++ exclusions.map ProjectionEntry.exclusion).filterMap
      ProjectionEntry.unit? = units := by
  rw [filterMap_append, filterMap_map, filterMap_map]
  have hunit : ProjectionEntry.unit? ∘ ProjectionEntry.unit = some := rfl
  have hexclusion : ProjectionEntry.unit? ∘ ProjectionEntry.exclusion = fun _ => none := rfl
  rw [hunit, hexclusion, filterMap_some, filterMap_none, append_nil]

theorem filterMap_exclusion_entries (units : List ReceiptPurchaseUnitV1)
    (exclusions : List ReceiptPurchaseUnitExclusionV1) :
    (units.map ProjectionEntry.unit ++ exclusions.map ProjectionEntry.exclusion).filterMap
      ProjectionEntry.exclusion? = exclusions := by
  rw [filterMap_append, filterMap_map, filterMap_map]
  have hunit : ProjectionEntry.exclusion? ∘ ProjectionEntry.unit = fun _ => none := rfl
  have hexclusion : ProjectionEntry.exclusion? ∘ ProjectionEntry.exclusion = some := rfl
  rw [hunit, hexclusion, filterMap_some, filterMap_none, nil_append]

/-- **A page of a projection** within the limits is valid. -/
theorem listResponse_validate (hrequest : request.validate = .ok ())
    {snapshot : ReceiptPurchaseUnitSnapshotV1}
    (hunits : ∀ unit ∈ projection.units, unit.validate services.toContractServices = .ok ())
    (hexclusions : ∀ exclusion ∈ projection.exclusions, exclusion.validate = .ok ())
    (hsnapshot : snapshot.validate = .ok ())
    (hunitCount : projection.units.length < maxSafeIntegerV1)
    (hexclusionCount : projection.exclusions.length < maxSafeIntegerV1) (offset : ℕ) :
    (listResponse request projection snapshot offset).validate services.toContractServices =
      .ok () := by
  obtain ⟨-, hlimit⟩ := check_then_eq_ok.mp hrequest
  rw [check_when_eq_ok] at hlimit
  -- the page is a part of the entries, which are the units and the exclusions let through
  let units := projection.units.filter fun offered =>
    request.status.all fun wanted => offered.status.filter = wanted
  let exclusions := if request.status = some .promoted then [] else projection.exclusions
  let page := ((pageEntries projection request.status).take
    (min (offset + request.limit) (pageEntries projection request.status).length)).drop offset
  have hpageLength : page.length ≤ maxPageSize := by
    simp only [page, length_drop, length_take]
    omega
  have hperm : (pageEntries projection request.status).Perm
      (units.map ProjectionEntry.unit ++ exclusions.map ProjectionEntry.exclusion) :=
    perm_insertionSort _ _
  have hpage : page.Sublist (pageEntries projection request.status) :=
    (drop_sublist _ _).trans (take_sublist _ _)
  have hpageUnits : (page.filterMap ProjectionEntry.unit?).Subperm units := by
    have hsub := (hpage.filterMap ProjectionEntry.unit?).subperm
    exact hsub.trans (by rw [← filterMap_unit_entries units exclusions]
                         exact (hperm.filterMap _).subperm)
  have hpageExclusions : (page.filterMap ProjectionEntry.exclusion?).Subperm exclusions := by
    have hsub := (hpage.filterMap ProjectionEntry.exclusion?).subperm
    exact hsub.trans (by rw [← filterMap_exclusion_entries units exclusions]
                         exact (hperm.filterMap _).subperm)
  have hunitsLength : units.length ≤ projection.units.length := length_filter_le _ _
  have hexclusionsEq : exclusions.length =
      if request.status = some .promoted then 0 else projection.exclusions.length := by
    simp only [exclusions]
    split <;> rfl
  have hexclusionsLength : exclusions.length ≤ projection.exclusions.length := by
    rw [hexclusionsEq]
    split <;> omega
  have hexclusionsMem : ∀ exclusion ∈ exclusions, exclusion ∈ projection.exclusions := by
    intro exclusion hmem
    simp only [exclusions] at hmem
    split at hmem
    · cases hmem
    · exact hmem
  rw [ListReceiptPurchaseUnitsV1Response.validate, check_then_eq_ok, check_then_eq_ok,
    check_unless_eq_ok, check_then_eq_ok, tryForEach_eq_ok, tryForEach_eq_ok]
  refine ⟨rfl, hsnapshot, ?_, ?_, ?_⟩
  · have hunitsPage : (page.filterMap ProjectionEntry.unit?).length ≤ page.length :=
      length_filterMap_le _ _
    have hexclusionsPage : (page.filterMap ProjectionEntry.exclusion?).length ≤ page.length :=
      length_filterMap_le _ _
    have hunitsTotal := hpageUnits.length_le
    have hexclusionsTotal := hpageExclusions.length_le
    simp only [listResponse, not_or, not_lt, not_le, maxReceiptPurchaseUnitExclusionsV1]
    rw [← hexclusionsEq]
    exact ⟨hunitsPage.trans hpageLength, hexclusionsPage.trans hpageLength, hunitsTotal,
      hexclusionsTotal, lt_of_le_of_lt hunitsLength hunitCount,
      lt_of_le_of_lt hexclusionsLength hexclusionCount⟩
  · intro unit hunit
    exact hunits unit (mem_filter.mp (hpageUnits.subset hunit)).1
  · intro exclusion hexclusion
    exact hexclusions exclusion (hexclusionsMem exclusion (hpageExclusions.subset hexclusion))

theorem Consistent.list_not_corrupt (hc : Consistent services t)
    (h : projectPurchaseUnits services t request.sourceId = .ok projection)
    (hsnapshot : (purchaseUnitSnapshot t).validate = .ok ())
    (hunitCount : projection.units.length < maxSafeIntegerV1)
    (hexclusionCount : projection.exclusions.length < maxSafeIntegerV1) (code : String) :
    listReceiptPurchaseUnits services t request ≠ .error (.corrupt code) := by
  obtain ⟨hunits, hexclusions⟩ := hc.projection_valid h
  intro herror
  unfold listReceiptPurchaseUnits at herror
  cases hrequest : request.validate with
  | error e => simp [hrequest, Except.mapError, bind, Except.bind] at herror
  | ok u =>
    simp only [hrequest, Except.mapError, bind, Except.bind, h] at herror
    cases hcursor : parseListCursor request.cursor (purchaseUnitSnapshot t) request.sourceId
      request.status with
    | error e =>
      simp only [hcursor] at herror
      unfold parseListCursor at hcursor
      split at hcursor
      · cases hcursor
      · split at hcursor
        · obtain rfl := Except.error.inj hcursor
          cases herror
        · cases hcursor
    | ok offset =>
      simp only [hcursor, listResponse_validate hrequest hunits hexclusions hsnapshot hunitCount
        hexclusionCount] at herror
      split at herror <;> cases herror

/-- **Accepted receipts project**, over every run, exactly while what is on offer stays within the
limits: then the projection succeeds, each of its units is valid, and listing it is not corrupt
as long as the revisions, and the numbers of units and exclusions, are below the limit too.
Otherwise the projection, and with it every listing, is corrupt. -/
theorem accepted_projects_iff {log : List CarriedOut} (h : Reachable services log t)
    (sourceFilter : Option SourceId) :
    ((∃ projection, projectPurchaseUnits services t sourceFilter = .ok projection ∧
        ∀ unit ∈ projection.units, unit.validate services.toContractServices = .ok ()) ↔
      WithinLimits services t sourceFilter) ∧
    (∀ projection request code, request.sourceId = sourceFilter →
      projectPurchaseUnits services t sourceFilter = .ok projection →
      (purchaseUnitSnapshot t).validate = .ok () →
      projection.units.length < maxSafeIntegerV1 →
      projection.exclusions.length < maxSafeIntegerV1 →
      listReceiptPurchaseUnits services t request ≠ .error (.corrupt code)) ∧
    (¬ WithinLimits services t sourceFilter →
      ∃ code, projectPurchaseUnits services t sourceFilter = .error (.corrupt code) ∧
        ∀ request, request.validate = .ok () → request.sourceId = sourceFilter →
          listReceiptPurchaseUnits services t request = .error (.corrupt code)) := by
  have hc := h.consistent
  refine ⟨⟨?_, fun hlimits => ?_⟩, ?_, fun hlimits => ?_⟩
  · rintro ⟨projection, hproject, -⟩
    exact hc.projects_iff.mp ⟨projection, hproject⟩
  · obtain ⟨projection, hproject⟩ := hc.projects_iff.mpr hlimits
    exact ⟨projection, hproject, (hc.projection_valid hproject).1⟩
  · rintro projection request code rfl hproject hsnapshot hunitCount hexclusionCount
    exact hc.list_not_corrupt hproject hsnapshot hunitCount hexclusionCount code
  · cases hproject : projectPurchaseUnits services t sourceFilter with
    | ok projection => exact absurd (hc.projects_iff.mp ⟨projection, hproject⟩) hlimits
    | error e =>
      obtain ⟨code, rfl⟩ := hc.projection_error hproject
      refine ⟨code, rfl, ?_⟩
      rintro request hrequest rfl
      simp only [listReceiptPurchaseUnits, hrequest, Except.mapError, bind, Except.bind, hproject]

namespace PromotionExample

theorem run_projects : ((projectPurchaseUnits exampleServices run.2 none).map fun projection =>
      decide (projection.units.length < maxSafeIntegerV1 ∧
        projection.exclusions.length < maxSafeIntegerV1)) = .ok true ∧
    (purchaseUnitSnapshot run.2).validate = .ok () := by
  decide +kernel

theorem run_withinLimits : WithinLimits exampleServices run.2 none := by
  have hproject := run_projects.1
  refine (accepted_projects_iff run_reachable none).1.mp ?_
  cases h : projectPurchaseUnits exampleServices run.2 none with
  | error e =>
    rw [h] at hproject
    cases hproject
  | ok projection => exact ⟨projection, rfl, (run_reachable.consistent.projection_valid h).1⟩

def dearest : PromotionTables :=
  (runAll exampleServices noTables
    [.store (.above 1) (orderRow 2 maxSafeIntegerV1), .review (confirmation 0) 0]).2

def firstPage : ListReceiptPurchaseUnitsV1Request := ⟨1, .above 10, none, none, none, 100⟩

/-- The order is accepted and its confirmation answered, and no listing succeeds. -/
theorem dearest_corrupt :
    (dearest.commandReceipts.find? (.above 7)).isSome ∧
      listReceiptPurchaseUnits exampleServices dearest firstPage =
        .error (.corrupt "receipt_purchase_unit") := by
  refine ⟨?_, ?_⟩ <;> decide +kernel

end PromotionExample

end Threadbook.Promotion
