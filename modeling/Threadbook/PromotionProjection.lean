import Mathlib
import Threadbook.PromotionMoves

/-!
# What a projection is made of

A projection that succeeds, taken apart: each line of each source's order contributes one
exclusion of the line, or one entry for each of its units; promotions that no unit shows
follow.
-/

namespace Threadbook.Promotion

open List

variable {services : PromotionServices} {t : PromotionTables}

/-! ## Orders -/

/-- **Loading an order** finds its row, with a line's ids for each line, and its decision. -/
theorem loadOrder_eq_ok {orderId : ReceiptOrderEvidenceId} {order : ReceiptOrderEvidenceV1}
    (h : loadOrder services t orderId = .ok order) :
    ∃ row reviewHead, t.orders.find? orderId = some row ∧
      row.lineIds.length = row.output.lineItems.length ∧
      loadReviewHead services t orderId = .ok reviewHead ∧ order = row.order orderId reviewHead := by
  unfold loadOrder at h
  cases hrow : t.orders.find? orderId with
  | none => simp [hrow] at h
  | some row =>
    simp only [hrow, check_unless_eq_ok, check_bind_eq_ok] at h
    obtain ⟨hlength, reviewHead, hreview, horder⟩ := h
    exact ⟨row, reviewHead, rfl, not_not.mp hlength, hreview, (Except.ok.inj horder).symm⟩

theorem loadReviewHead_eq_some {orderId : ReceiptOrderEvidenceId} {head : ReceiptReviewHeadV1}
    (h : loadReviewHead services t orderId = .ok (some head)) :
    t.reviewHeads.find? orderId = some head.decision.decisionId ∧
      head.state = head.decision.action.state ∧
      ∃ row, t.reviewDecisions.find? head.decision.decisionId = some row ∧
        head.decision.orderEvidenceId = row.orderEvidenceId ∧
        head.decision.action = row.action ∧ head.decision.correctedOrder = row.reviewedOrder ∧
        head.decision.receiptRevision = row.receiptRevision := by
  unfold loadReviewHead at h
  cases hid : t.reviewHeads.find? orderId with
  | none => simp [hid] at h
  | some decisionId =>
    simp only [hid, check_bind_eq_ok] at h
    obtain ⟨decision, hdecision, heq⟩ := h
    obtain rfl := Option.some.inj (Except.ok.inj heq)
    unfold loadReviewDecision at hdecision
    cases hrow : t.reviewDecisions.find? decisionId with
    | none => simp [hrow] at hdecision
    | some row =>
      simp only [hrow, check_bind_eq_ok] at hdecision
      obtain ⟨createdAt, -, heq⟩ := hdecision
      cases heq
      exact ⟨rfl, rfl, row, hrow, rfl, rfl, rfl, rfl⟩

/-! ## Units -/

/-- **A unit of a line** is excluded where it was deleted, and offered where it is valid. -/
theorem projectUnit_eq_ok {authority : ReceiptPurchaseUnitAuthorityV1}
    {orderLineId : ReceiptOrderLineId} {values : ReceiptPurchaseUnitValuesV1}
    {provenance : ReceiptPurchaseUnitProvenanceV1} {unitOrdinal : ℕ} {entry : ProjectionEntry} :
    projectUnit services t authority orderLineId values provenance unitOrdinal = .ok entry ↔
      ∃ id, ReceiptPurchaseUnitId.deriveV1 services.toContractServices orderLineId unitOrdinal =
          .ok id ∧
        ((∃ deletion, t.deletions.find? id = some deletion) ∧
            entry = .exclusion ⟨authority.sourceId, some authority.orderEvidenceId,
              some orderLineId, some unitOrdinal, .userDeleted⟩ ∨
          t.deletions.find? id = none ∧
            (currentUnit services t authority orderLineId values provenance unitOrdinal
              id).validate services.toContractServices = .ok () ∧
            entry = .unit (currentUnit services t authority orderLineId values provenance
              unitOrdinal id)) := by
  unfold projectUnit
  cases hid : ReceiptPurchaseUnitId.deriveV1 services.toContractServices orderLineId
    unitOrdinal with
  | error message => simp
  | ok id =>
    cases hdeleted : t.deletions.find? id with
    | some deletion => simp [hdeleted, eq_comm]
    | none =>
      cases hvalid : (currentUnit services t authority orderLineId values provenance unitOrdinal
        id).validate services.toContractServices <;> simp [hdeleted, hvalid, eq_comm]

/-! ## Lines -/

def sourceAuthority (source : SourceId) (head : AuthorityHeadRow)
    (decision : ReceiptReviewDecisionV1) (order : ReceiptOrderEvidenceV1) :
    ReceiptPurchaseUnitAuthorityV1 where
  authorityId := head.authorityId
  sourceId := source
  orderEvidenceId := order.orderEvidenceId
  reviewDecisionId := decision.decisionId
  reviewAction := decision.action
  authorityRevision := head.authorityRevision
  receiptRevision := head.receiptRevision

structure Offers (t : PromotionTables) (source : SourceId) (head : AuthorityHeadRow)
    (order : ReceiptOrderEvidenceV1) (decision : ReceiptReviewDecisionV1)
    (line : ReceiptOrderLineV1) (values : ReceiptPurchaseUnitValuesV1)
    (provenance : ReceiptPurchaseUnitProvenanceV1) : Prop where
  decided : ∃ state, order.reviewHead = some ⟨state, decision⟩
  inForce : decision.decisionId = head.reviewDecisionId
  accepts : decision.action = .confirm ∨ decision.action = .correct
  unchanged : sourceHasPriorAuthorityState t source head.authorityId head.orderEvidenceId = false
  ofLine : ∃ index, order.lineItems[index]? = some line ∧
    effectiveValues order line decision.correctedOrder index decision.decisionId =
      .ok (values, provenance)
  purchase : values.eventKind = .purchase

inductive Contributes (services : PromotionServices) (t : PromotionTables) (source : SourceId)
    (head : AuthorityHeadRow) (order : ReceiptOrderEvidenceV1) (line : ReceiptOrderLineV1) :
    List ProjectionEntry → Prop
  | excluded (reason : ReceiptPurchaseUnitExclusionReasonV1) :
      Contributes services t source head order line
        [.exclusion (lineExclusion source order.orderEvidenceId reason line)]
  | units {decision : ReceiptReviewDecisionV1} {values : ReceiptPurchaseUnitValuesV1}
      {provenance : ReceiptPurchaseUnitProvenanceV1} {entries : List ProjectionEntry}
      (offers : Offers t source head order decision line values provenance)
      (projected : List.Forall₂ (fun unitOrdinal entry =>
        projectUnit services t (sourceAuthority source head decision order) line.orderLineId values
          provenance unitOrdinal = .ok entry) (List.range values.quantity) entries) :
      Contributes services t source head order line entries

variable {sourceFilter : Option SourceId} {entries : List ProjectionEntry}
  {unit : ReceiptPurchaseUnitV1}

theorem Contributes.of_projectLine {source : SourceId} {head : AuthorityHeadRow}
    {order : ReceiptOrderEvidenceV1} {state : ReceiptStateV1} {decision : ReceiptReviewDecisionV1}
    {line : ReceiptOrderLineV1} {index : ℕ} (hreview : order.reviewHead = some ⟨state, decision⟩)
    (hforce : decision.decisionId = head.reviewDecisionId)
    (haccepts : decision.action = .confirm ∨ decision.action = .correct)
    (hline : order.lineItems[index]? = some line)
    (h : projectLine services t (sourceAuthority source head decision order)
      (sourceHasPriorAuthorityState t source head.authorityId head.orderEvidenceId) order
      decision.correctedOrder line index = .ok entries) :
    Contributes services t source head order line entries := by
  unfold projectLine at h
  split at h
  · cases h
    exact .excluded _
  split at h
  · cases h
    exact .excluded _
  obtain ⟨⟨values, provenance⟩, hvalues, h⟩ := check_bind_eq_ok.mp h
  unfold projectLineUnits at h
  split at h
  · cases h
    exact .excluded _
  rename_i hunchanged
  split at h
  · cases h
    exact .excluded _
  rename_i hpurchase
  rw [check_unless_eq_ok, check_mapM_eq_ok] at h
  exact .units ⟨⟨state, hreview⟩, hforce, haccepts, Bool.not_eq_true _ |>.mp hunchanged,
    ⟨index, hline, hvalues⟩, not_not.mp hpurchase⟩ h.2

/-! ## Sources -/

structure SourceContributes (services : PromotionServices) (t : PromotionTables)
    (entry : SourceId × AuthorityHeadRow) (order : ReceiptOrderEvidenceV1)
    (contributions : List (List ProjectionEntry)) : Prop where
  loaded : loadOrder services t entry.2.orderEvidenceId = .ok order
  lines : List.Forall₂ (Contributes services t entry.1 entry.2 order) order.lineItems contributions

theorem forall₂_zipIdx {α β : Type} {R : α → β → Prop} {l : List α} {bs : List β}
    (h : List.Forall₂ (fun entry b => l[entry.2]? = some entry.1 → R entry.1 b) l.zipIdx bs) :
    List.Forall₂ R l bs := by
  have hmap : l.zipIdx.map Prod.fst = l := zipIdx_map_fst 0 l
  rw [← hmap, forall₂_map_left_iff]
  rw [forall₂_iff_get] at h ⊢
  refine ⟨h.1, fun i hi hi' => h.2 i hi hi' ?_⟩
  simp only [get_eq_getElem, getElem_zipIdx, zero_add]
  exact getElem?_eq_getElem _

theorem SourceContributes.of_projectSource {entry : SourceId × AuthorityHeadRow}
    (h : projectSource services t entry = .ok entries) :
    ∃ order contributions, SourceContributes services t entry order contributions ∧
      entries = contributions.flatten := by
  obtain ⟨source, head⟩ := entry
  unfold projectSource at h
  obtain ⟨order, hload, h⟩ := check_bind_eq_ok.mp h
  -- a line of an order that was not accepted is excluded
  have hexcluded : ∀ reason : ReceiptPurchaseUnitExclusionReasonV1, List.Forall₂
      (Contributes services t source head order) order.lineItems
      (order.lineItems.map fun line =>
        [.exclusion (lineExclusion source order.orderEvidenceId reason line)]) := by
    intro reason
    rw [forall₂_map_right_iff, forall₂_same]
    exact fun line _ => .excluded reason
  have hflat : ∀ reason : ReceiptPurchaseUnitExclusionReasonV1,
      (order.lineItems.map fun line =>
        ProjectionEntry.exclusion (lineExclusion source order.orderEvidenceId reason line)) =
      (order.lineItems.map fun line =>
        [ProjectionEntry.exclusion (lineExclusion source order.orderEvidenceId reason
          line)]).flatten := by
    intro reason
    exact map_eq_flatMap.trans flatMap_def
  cases hreview : order.reviewHead with
  | none => simp [hreview] at h
  | some review =>
    obtain ⟨state, decision⟩ := review
    simp only [hreview, check_unless_eq_ok] at h
    obtain ⟨hforce, h⟩ := h
    cases haction : decision.action with
    | reject =>
      simp only [haction] at h
      cases h
      exact ⟨order, _, ⟨hload, hexcluded .rejected⟩, hflat .rejected⟩
    | defer =>
      simp only [haction] at h
      cases h
      exact ⟨order, _, ⟨hload, hexcluded .deferred⟩, hflat .deferred⟩
    | confirm | correct =>
      simp only [haction] at h
      obtain ⟨contributions, hlines, heq⟩ := check_bind_eq_ok.mp h
      cases heq
      refine ⟨order, contributions, ⟨hload, forall₂_zipIdx ?_⟩, rfl⟩
      refine (check_mapM_eq_ok.mp hlines).imp fun entry entries hentry hline => ?_
      refine Contributes.of_projectLine hreview (not_not.mp hforce) (by simp [haction]) hline ?_
      rw [sourceAuthority, haction]
      exact hentry

/-! ## The whole -/

structure OfferedLine where
  source : SourceId
  head : AuthorityHeadRow
  order : ReceiptOrderEvidenceV1
  line : ReceiptOrderLineV1

def headLines (services : PromotionServices) (t : PromotionTables)
    (entry : SourceId × AuthorityHeadRow) : List OfferedLine :=
  match loadOrder services t entry.2.orderEvidenceId with
  | .ok order => order.lineItems.map fun line => ⟨entry.1, entry.2, order, line⟩
  | .error _ => []

def offeredLines (services : PromotionServices) (t : PromotionTables)
    (sourceFilter : Option SourceId) : List OfferedLine :=
  (selectedHeads t sourceFilter).flatMap (headLines services t)

theorem mem_selectedHeads {source : SourceId} {head : AuthorityHeadRow} :
    (source, head) ∈ selectedHeads t sourceFilter ↔
      t.authorityHeads.find? source = some head ∧ selects sourceFilter source = true := by
  rw [selectedHeads, mem_insertionSort, mem_filter, Table.mem_rows]

theorem mem_offeredLines {offered : OfferedLine} :
    offered ∈ offeredLines services t sourceFilter ↔
      (t.authorityHeads.find? offered.source = some offered.head ∧
          selects sourceFilter offered.source = true) ∧
        loadOrder services t offered.head.orderEvidenceId = .ok offered.order ∧
        offered.line ∈ offered.order.lineItems := by
  simp only [offeredLines, mem_flatMap, Prod.exists, mem_selectedHeads, headLines]
  constructor
  · rintro ⟨source, head, hhead, h⟩
    cases hload : loadOrder services t head.orderEvidenceId with
    | error e => simp [hload] at h
    | ok order =>
      simp only [hload, mem_map] at h
      obtain ⟨line, hline, rfl⟩ := h
      exact ⟨hhead, hload, hline⟩
  · rintro ⟨hhead, hload, hline⟩
    refine ⟨offered.source, offered.head, hhead, ?_⟩
    rw [hload]
    exact mem_map.mpr ⟨offered.line, hline, rfl⟩

def OfferedLine.Contributes (services : PromotionServices) (t : PromotionTables)
    (offered : OfferedLine) (entries : List ProjectionEntry) : Prop :=
  Promotion.Contributes services t offered.source offered.head offered.order offered.line entries

theorem contributions_of_sources {heads : List (SourceId × AuthorityHeadRow)}
    {sources : List (List ProjectionEntry)}
    (h : List.Forall₂ (fun entry entries => projectSource services t entry = .ok entries) heads
      sources) :
    ∃ contributions, List.Forall₂ (OfferedLine.Contributes services t)
        (heads.flatMap (headLines services t)) contributions ∧
      sources.flatten = contributions.flatten := by
  induction h with
  | nil => exact ⟨[], .nil, rfl⟩
  | @cons entry entries heads sources hentry _ ih =>
    obtain ⟨order, first, hfirst, rfl⟩ := SourceContributes.of_projectSource hentry
    obtain ⟨others, hothers, heq⟩ := ih
    refine ⟨first ++ others, ?_, by rw [flatten_cons, heq, flatten_append]⟩
    rw [flatMap_cons]
    refine rel_append ?_ hothers
    rw [headLines, hfirst.loaded, forall₂_map_left_iff]
    exact hfirst.lines

/-- **A projection that succeeds**: the exclusions of sources without a decision, what each line
contributes, and the promotions that no unit shows. -/
theorem projectPurchaseUnits_eq_ok {projection : Projection}
    (h : projectPurchaseUnits services t sourceFilter = .ok projection) :
    ∃ reviewRequired contributions historical,
      appendReviewRequiredExclusions services t sourceFilter = .ok reviewRequired ∧
      List.Forall₂ (OfferedLine.Contributes services t) (offeredLines services t sourceFilter)
        contributions ∧
      loadHistoricalPromotions services t sourceFilter
        ((contributions.flatten.filterMap ProjectionEntry.unit?).map (·.purchaseUnitId)) =
          .ok historical ∧
      projection.units = contributions.flatten.filterMap ProjectionEntry.unit? ++ historical ∧
      projection.exclusions =
        reviewRequired ++ contributions.flatten.filterMap ProjectionEntry.exclusion? := by
  unfold projectPurchaseUnits at h
  simp only [check_bind_eq_ok, check_mapM_eq_ok] at h
  obtain ⟨reviewRequired, hrequired, sources, hsources, historical, hhistorical, h⟩ := h
  cases h
  obtain ⟨contributions, hcontributions, heq⟩ := contributions_of_sources hsources
  rw [heq] at hhistorical
  exact ⟨reviewRequired, contributions, historical, hrequired, hcontributions, hhistorical,
    by rw [heq], by rw [heq]⟩

theorem mem_historical {visible : List ReceiptPurchaseUnitId}
    {historical : List ReceiptPurchaseUnitV1}
    (h : loadHistoricalPromotions services t sourceFilter visible = .ok historical)
    (hunit : unit ∈ historical) :
    ∃ joined ∈ joinedPromotions t sourceFilter, joined.promotion.purchaseUnitId ∉ visible ∧
      unit = joined.unit (purchaseUnitSnapshot t) ∧
      unit.validate services.toContractServices = .ok () := by
  obtain ⟨joined, hjoined, hok⟩ :=
    Fallible.exists_of_forall₂ (check_mapM_eq_ok.mp h) unit hunit
  obtain ⟨hmem, hvisible⟩ := mem_filter.mp hjoined
  refine ⟨joined, hmem, by simpa using hvisible, ?_⟩
  simp only at hok
  split at hok
  · cases hok
  · rename_i hvalid
    cases hok
    exact ⟨rfl, hvalid⟩

structure UnitOf (services : PromotionServices) (t : PromotionTables) (offered : OfferedLine)
    (unit : ReceiptPurchaseUnitV1) : Prop where
  offers : ∃ decision values provenance,
    Offers t offered.source offered.head offered.order decision offered.line values provenance ∧
      unit.unitOrdinal < values.quantity ∧
      unit = currentUnit services t
        (sourceAuthority offered.source offered.head decision offered.order)
        offered.line.orderLineId values provenance unit.unitOrdinal unit.purchaseUnitId
  derived : ReceiptPurchaseUnitId.deriveV1 services.toContractServices offered.line.orderLineId
    unit.unitOrdinal = .ok unit.purchaseUnitId
  undeleted : t.deletions.find? unit.purchaseUnitId = none
  valid : unit.validate services.toContractServices = .ok ()

theorem UnitOf.of_mem {offered : OfferedLine} (h : offered.Contributes services t entries)
    (hunit : .unit unit ∈ entries) : UnitOf services t offered unit := by
  cases h with
  | excluded reason => simp at hunit
  | @units decision values provenance entries hoffers hprojected =>
    obtain ⟨ordinal, hordinal, hok⟩ := Fallible.exists_of_forall₂ hprojected _ hunit
    obtain ⟨id, hid, ⟨-, hentry⟩ | ⟨hundeleted, hvalid, hentry⟩⟩ := projectUnit_eq_ok.mp hok
    · cases hentry
    · obtain rfl := ProjectionEntry.unit.inj hentry
      exact ⟨⟨decision, values, provenance, hoffers, mem_range.mp hordinal, rfl⟩, hid,
        hundeleted, hvalid⟩

/-- **Each unit of a projection** is a unit of a line, or a promotion. -/
theorem unit_of_projection {projection : Projection}
    (h : projectPurchaseUnits services t sourceFilter = .ok projection)
    (hunit : unit ∈ projection.units) :
    (∃ offered ∈ offeredLines services t sourceFilter, UnitOf services t offered unit) ∨
      ∃ joined ∈ joinedPromotions t sourceFilter, unit = joined.unit (purchaseUnitSnapshot t) := by
  obtain ⟨-, contributions, historical, -, hcontributions, hhistorical, hunits, -⟩ :=
    projectPurchaseUnits_eq_ok h
  rw [hunits, mem_append] at hunit
  rcases hunit with hunit | hunit
  · left
    obtain ⟨entry, hentry, heq⟩ := mem_filterMap.mp hunit
    obtain ⟨entries, hentries, hentry⟩ := mem_flatten.mp hentry
    obtain ⟨offered, hoffered, hcontributes⟩ :=
      Fallible.exists_of_forall₂ hcontributions entries hentries
    cases entry with
    | exclusion _ => cases heq
    | unit offeredUnit =>
      cases heq
      exact ⟨offered, hoffered, UnitOf.of_mem hcontributes hentry⟩
  · right
    obtain ⟨joined, hjoined, -, heq, -⟩ := mem_historical hhistorical hunit
    exact ⟨joined, hjoined, heq⟩

end Threadbook.Promotion
