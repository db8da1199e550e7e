import Threadbook.CatalogService
import Threadbook.LocalExtraction

/-!
# What the service reports of committed commands

The repository commits a command, and the service checks the answer afterwards. The check has
limits and an order of its own: a save that lists its evidence out of order, a merge of items
with more evidence than a request may name, an undo that restores that much, and a decision
about evidence whose path makes no label are committed, and reported as internal errors. **A
committed command is reported as a success, now and by every replay, exactly where its request
and the catalog before it fit these checks** (`committed_reported_iff`).
-/

namespace Threadbook.Catalog

open Table Fallible.Keeps List Fallible
open Promotion (ItemAttributesV1 RequestId ReplayStatusV1)

variable {services : CatalogServices} {t t' : CatalogTables} {command : CatalogCommand}
  {response : MutationResponse}

/-! ## Checks -/

theorem fails_eq_false {check : Except ValidationError Unit} :
    fails check = false ↔ check = .ok () := by
  cases check with
  | error e => simp [fails, Except.isOk, Except.toBool]
  | ok u => simp [fails, Except.isOk, Except.toBool]

theorem DecisionSnapshotV1.validate_eq_ok {decision : DecisionSnapshotV1} :
    decision.validate = .ok () ↔ (decision.affectedItemIds.length ≤ maxDecisionAffectedItems ∧
        decision.affectedItemIds.Nodup) ∧
      (decision.affectedEvidenceIds.length ≤ maxEvidencePerMutation ∧
        decision.affectedEvidenceIds.Nodup) ∧
      (decision.kind = .undo ↔ decision.compensatesDecisionId.isSome) ∧
      ¬ (decision.kind = .promoteReceiptPurchaseUnit ∧ decision.reversible = true) := by
  rw [DecisionSnapshotV1.validate, check_then_eq_ok, check_then_eq_ok, check_unless_eq_ok,
    check_unless_eq_ok, validateUniqueIds_eq_ok, validateUniqueIds_eq_ok]
  rw [not_not, Bool.eq_iff_iff, decide_eq_true_eq]
  simp only [Nat.zero_le, true_and, and_true]

variable {item : CatalogItemV1} {ids : List ItemId}

theorem CatalogItemV1.validate_eq_ok : item.validate = .ok () ↔ item.attributes.validate = .ok () ∧
      item.evidenceIds.length ≤ maxEvidencePerMutation ∧ item.evidenceIds.Nodup := by
  rw [CatalogItemV1.validate, check_then_eq_ok, validateUniqueIds_eq_ok]
  simp only [Nat.zero_le, true_and]

/-! ## Items -/

theorem accepted_of_validate (h : command.validate = .ok ()) : command.Accepted := by
  cases command with
  | save request =>
    rw [CatalogCommand.validate, SaveItemV1Request.validate, check_then_eq_ok,
      check_then_eq_ok] at h
    exact h.2.1
  | decide request => trivial
  | merge request =>
    rw [CatalogCommand.validate, MergeItemsV1Request.validate, check_then_eq_ok,
      check_then_eq_ok] at h
    exact h.2.1
  | split request =>
    rw [CatalogCommand.validate, SplitItemV1Request.validate, check_then_eq_ok,
      check_unless_eq_ok, check_then_eq_ok, tryForEach_eq_ok] at h
    intro group hgroup
    have hvalid := h.2.2.1 group hgroup
    rw [SplitGroupV1.validate, check_then_eq_ok] at hvalid
    exact hvalid.1
  | undo request => trivial

theorem assigned_of_validate {request : DecideEvidenceV1Request} (h : request.validate = .ok ()) :
    assignedItem request = request.itemId ∧ (request.action = .assign ↔ request.itemId.isSome) ∧
      validateExpectedRevision request.expectedCatalogRevision = .ok () := by
  rw [DecideEvidenceV1Request.validate, check_then_eq_ok] at h
  obtain ⟨-, h⟩ := h
  cases haction : request.action with
  | assign =>
    cases hitem : request.itemId with
    | none => simp [haction, hitem] at h
    | some x => simpa [assignedItem, haction, hitem] using h
  | reject =>
    cases hitem : request.itemId with
    | none => simpa [assignedItem, haction, hitem] using h
    | some x => simp [haction, hitem] at h
  | defer =>
    cases hitem : request.itemId with
    | none => simpa [assignedItem, haction, hitem] using h
    | some x => simp [haction, hitem] at h

theorem checkedNext_of_validate (h : command.validate = .ok ()) :
    checkedNext command.expectedCatalogRevision = some (command.expectedCatalogRevision + 1) := by
  have hnext : ∀ revision, validateExpectedRevision revision = .ok () →
      checkedNext revision = some (revision + 1) := by
    intro revision hrevision
    rw [validateExpectedRevision, check_when_eq_ok] at hrevision
    have hlt := hrevision.1
    rw [maxSafeIntegerV1] at hlt
    exact if_pos (by rw [u64Bound]; omega)
  cases command with
  | save request =>
    simp only [CatalogCommand.validate, SaveItemV1Request.validate, check_then_eq_ok] at h
    exact hnext _ h.2.2.2
  | decide request =>
    exact hnext _ (assigned_of_validate h).2.2
  | merge request =>
    simp only [CatalogCommand.validate, MergeItemsV1Request.validate, check_then_eq_ok] at h
    exact hnext _ h.2.2.2
  | split request =>
    simp only [CatalogCommand.validate, SplitItemV1Request.validate, check_then_eq_ok,
      check_unless_eq_ok] at h
    exact hnext _ h.2.2.2.2
  | undo request =>
    simp only [CatalogCommand.validate, UndoDecisionV1Request.validate, check_then_eq_ok] at h
    exact hnext _ h.2

theorem itemEvidenceIds_nodup (t : CatalogTables) (x : ItemId) : (itemEvidenceIds t x).Nodup := by
  rw [itemEvidenceIds, (perm_insertionSort _ _).nodup_iff]
  exact (rows_nodup t.itemEvidence).sublist (filter_sublist.map _)

theorem itemEvidenceIds_sorted (t : CatalogTables) (x : ItemId) :
    (itemEvidenceIds t x).Pairwise (· ≤ ·) := pairwise_insertionSort _ _

theorem sortedDedup_nodup (ids : List ReceiptUuidId) : (sortedDedup ids).Nodup :=
  nodup_dedup _

theorem loadCatalogItem_eq_ok {x : ItemId} (h : loadCatalogItem t x = .ok item) :
    ∃ row, t.items.find? x = some row ∧ item.itemId = x ∧ item.attributes = row.attributes ∧
      item.evidenceIds = itemEvidenceIds t x := by
  rw [loadCatalogItem] at h
  cases hrow : t.items.find? x with
  | none =>
    rw [hrow] at h
    cases h
  | some row =>
    simp only [hrow] at h
    split at h
    · cases h
    · split at h
      · cases h
      · cases h
        exact ⟨row, rfl, rfl, rfl, rfl⟩

/-- **A loaded item** is accepted exactly when it does not hold too much evidence. -/
theorem loaded_validate_eq_ok (hcurated : Curated t) {x : ItemId}
    (h : loadCatalogItem t x = .ok item) :
    item.validate = .ok () ↔ (itemEvidenceIds t x).length ≤ maxEvidencePerMutation := by
  obtain ⟨row, hrow, -, hattributes, hevidence⟩ := loadCatalogItem_eq_ok h
  rw [CatalogItemV1.validate_eq_ok, hattributes, hevidence]
  have haccepted := (hcurated.items x row hrow).1
  have hnodup := itemEvidenceIds_nodup t x
  exact ⟨fun hvalid => hvalid.2.1, fun hlength => ⟨haccepted, hlength, hnodup⟩⟩

/-! ## Runs of the service -/

inductive ServedStep (services : CatalogServices) (t t' : CatalogTables) : Prop
  | served (command : CatalogCommand) (result : CommandResult MutationResponse)
      (run : command.serve services t = (result, t'))
  | imported (statements : List ImportStatement) (result : Except PlatformError PUnit)
      (run : importTransaction statements t = (result, t'))
  | promoted (promotion : CatalogPromotion) (accepted : promotion.attributes.validate = .ok ())
      (result : Except PlatformError PUnit)
      (run : promoteReceiptPurchaseUnit promotion t = (result, t'))

inductive Served (services : CatalogServices) : CatalogTables → Prop
  | empty {t : CatalogTables} (fresh : t.Fresh) : Served services t
  | step {t t' : CatalogTables} (reached : Served services t) (step : ServedStep services t t') :
      Served services t'

theorem serve_eq {result : CommandResult MutationResponse}
    (h : command.serve services t = (result, t')) :
    t' = t ∨ command.validate = .ok () ∧ ∃ carried, command.execute services t = (carried, t') := by
  rw [CatalogCommand.serve] at h
  cases hvalid : command.validate with
  | error e =>
    rw [hvalid] at h
    exact .inl (Prod.mk.inj h).2.symm
  | ok u =>
    rw [hvalid] at h
    refine .inr ⟨rfl, ?_⟩
    rcases hrun : command.execute services t with ⟨e | response, t₁⟩
    · rw [hrun] at h
      exact ⟨_, by rw [(Prod.mk.inj h).2]⟩
    · rw [hrun] at h
      exact ⟨_, by rw [(Prod.mk.inj h).2]⟩

theorem ServedStep.cases (h : ServedStep services t t') :
    t' = t ∨ AcceptedStep services t t' ∧ ((∃ command response, command.validate = .ok () ∧
      Creates services command t response t') ∨ t'.decisions = t.decisions ∨
        ∃ promotion, Promotes promotion t t') := by
  cases h with
  | served command result run =>
    rcases serve_eq run with hsame | ⟨hvalid, carried, hrun⟩
    · exact .inl hsame
    · cases hcarried : carried with
      | error e =>
        rw [hcarried] at hrun
        exact .inl (execute_of_error hrun)
      | ok response =>
        rw [hcarried] at hrun
        cases execute_eq_ok hrun with
        | inl hsame => exact .inl hsame
        | inr hcreates =>
          exact .inr ⟨.command command (accepted_of_validate hvalid) _ hrun,
            .inl ⟨command, response, hvalid, hcreates⟩⟩
  | imported statements result run =>
    exact .inr ⟨.imported statements result run, .inr (.inl (imports_of_import run).decisions)⟩
  | promoted promotion accepted result run =>
    cases result with
    | error e => exact .inl (atomically_of_error run)
    | ok u =>
      exact .inr ⟨.promoted promotion accepted _ run,
        .inr (.inr ⟨promotion, promoteReceiptPurchaseUnit_eq_ok run⟩)⟩

/-- What undoing a decision restores names a bounded number of items, and everything once. -/
structure ProjectionSnapshot.Bounded (snapshot : ProjectionSnapshot) : Prop where
  length_le : snapshot.affectedItemIds.length ≤ maxDecisionAffectedItems
  evidence_nodup : (snapshot.evidence.map (·.evidenceId)).Nodup

structure Sound (services : CatalogServices) (t : CatalogTables) : Prop where
  curated : Curated t
  traced : Traced services (fun _ => True) t
  bounded : ∀ id row snapshot, t.decisions.find? id = some row → row.inverse = some snapshot →
    snapshot.Bounded

theorem captured_evidence_sublist (t : CatalogTables) (itemIds : List ItemId)
    (evidenceIds : List EvidenceId) :
    ((captureProjection t itemIds evidenceIds).evidence.map (·.evidenceId)).Sublist
      evidenceIds := by
  rw [captureProjection]
  dsimp only
  induction evidenceIds with
  | nil => exact List.Sublist.refl _
  | cons e rest ih =>
    cases hrow : t.evidence.find? e with
    | none =>
      rw [filterMap_cons_none (by rw [hrow]; rfl)]
      exact ih.cons _
    | some row =>
      rw [filterMap_cons_some (by rw [hrow]; rfl), map_cons]
      exact ih.cons_cons _

theorem inverseOf_bounded (h : Sound services t) {id : DecisionId} {snapshot : ProjectionSnapshot}
    (hsnapshot : inverseOf t id = some snapshot) : snapshot.Bounded := by
  obtain ⟨row, hrow, hinverse⟩ := Option.bind_eq_some_iff.mp hsnapshot
  exact h.bounded id row snapshot hrow hinverse

theorem splitItemIds_length {request : SplitItemV1Request} (h : 2 ≤ request.groups.length) :
    (splitItemIds services request).length = request.groups.length := by
  rw [splitItemIds, length_cons, length_map, length_range']
  omega

theorem decideItemIds_length (t : CatalogTables) (request : DecideEvidenceV1Request) :
    (decideItemIds t request).length ≤ 2 := by
  have hoption : ∀ o : Option ItemId, o.toList.length ≤ 1 := by
    intro o
    cases o <;> simp
  have hsublist := (dedup_sublist
    (((t.linkOf request.evidenceId).toList ++ request.itemId.toList).insertionSort
      (· ≤ ·))).length_le
  rw [length_insertionSort, length_append] at hsublist
  have hlink := hoption (t.linkOf request.evidenceId)
  have hitem := hoption request.itemId
  exact hsublist.trans (by omega)

theorem listed_bounded (h : Sound services t) (hvalid : command.validate = .ok ()) :
    (command.listedItems services t).length ≤ maxDecisionAffectedItems ∧
      (command.listedEvidence services t).Nodup := by
  cases command with
  | save request =>
    exact ⟨by simp [CatalogCommand.listedItems, maxDecisionAffectedItems], sortedDedup_nodup _⟩
  | decide request =>
    refine ⟨(decideItemIds_length t request).trans ?_, nodup_singleton _⟩
    simp [maxDecisionAffectedItems, maxItemsPerMutation]
  | merge request =>
    simp only [CatalogCommand.validate, MergeItemsV1Request.validate, check_then_eq_ok,
      validateUniqueIds_eq_ok] at hvalid
    exact ⟨hvalid.2.2.1.2.1.trans (Nat.le_succ _), sortedDedup_nodup _⟩
  | split request =>
    simp only [CatalogCommand.validate, SplitItemV1Request.validate, check_then_eq_ok,
      check_unless_eq_ok, not_or, not_lt] at hvalid
    refine ⟨?_, sortedDedup_nodup _⟩
    exact (splitItemIds_length hvalid.2.1.1).le.trans (hvalid.2.1.2.trans (Nat.le_succ _))
  | undo request =>
    simp only [CatalogCommand.listedItems, CatalogCommand.listedEvidence]
    cases hinverse : inverseOf t request.decisionId with
    | none => simp
    | some snapshot =>
      have hbounded := inverseOf_bounded h hinverse
      exact ⟨hbounded.length_le, hbounded.evidence_nodup⟩

/-- **A step of the service keeps what its checks rest on.** -/
theorem Sound.step (h : Sound services t) (hstep : ServedStep services t t') :
    Sound services t' := by
  rcases hstep.cases with rfl | ⟨haccepted, hcases⟩
  · exact h
  refine ⟨haccepted.curated h.curated, h.traced.step trivial haccepted.step, ?_⟩
  rcases hcases with ⟨command, response, hvalid, hcreates⟩ | hdecisions | ⟨promotion, hpromotes⟩
  · obtain ⟨made, happended⟩ := hcreates.appended
    intro id row snapshot hrow hinverse
    rw [happended.decisions, find?_put] at hrow
    split at hrow
    · cases hrow
      rw [happended.row_inverse] at hinverse
      cases hinverse
      obtain ⟨hlength, hnodup⟩ := listed_bounded h hvalid
      exact ⟨hlength, hnodup.sublist (captured_evidence_sublist _ _ _)⟩
    · exact h.bounded id row snapshot hrow hinverse
  · rw [hdecisions]
    exact h.bounded
  · obtain ⟨made, -, -, hdecisions⟩ := hpromotes.decisions
    intro id row snapshot hrow hinverse
    by_cases hid : id = promotion.decisionId
    · -- a promotion's decision restores nothing
      rw [hid] at hrow
      rw [hpromotes.restores row hrow] at hinverse
      cases hinverse
    · rw [hdecisions, find?_put, if_neg hid] at hrow
      exact h.bounded id row snapshot hrow hinverse

theorem CatalogTables.Fresh.sound (hfresh : t.Fresh) : Sound services t := by
  refine ⟨⟨?_, ?_⟩, hfresh.traced, ?_⟩
  · intro x row hrow
    rw [hfresh.items] at hrow
    cases hrow
  · intro id row snapshot hrow
    rw [hfresh.decisions] at hrow
    cases hrow
  · intro id row snapshot hrow
    rw [hfresh.decisions] at hrow
    cases hrow

/-- **Over runs of the service.** -/
theorem Served.sound (h : Served services t) : Sound services t := by
  induction h with
  | empty fresh => exact fresh.sound
  | step _ step ih => exact ih.step step

/-! ## Answers -/

structure CatalogCommand.Demands (command : CatalogCommand) (response : MutationResponse) :
    Prop where
  header : response.schemaVersion = schemaVersionV1 ∧ response.requestId = command.requestId
  revision : checkedNext command.expectedCatalogRevision = some response.newCatalogRevision
  kind : response.decision.kind = command.kind
  decision : response.decision.validate = .ok ()
  content : command.accepts response = true

theorem handOn_cases (command : CatalogCommand) (response : MutationResponse) :
    command.Demands response ∧ command.handOn response = .ok response ∨
      ¬ command.Demands response ∧ command.handOn response = .error internalDataError := by
  have hok : command.handOn response = .ok response ↔ command.Demands response := by
    rw [CatalogCommand.handOn, check_then_eq_ok, validateMutation, check_then_eq_ok,
      validateResponseHeader, check_when_eq_ok, check_unless_eq_ok, check_when_eq_ok]
    simp only [not_or, not_not, Bool.not_eq_true, fails_eq_false, and_true]
    exact ⟨fun ⟨⟨hheader, hrevision, hkind, hdecision⟩, hcontent⟩ =>
      ⟨hheader, hrevision, hkind, hdecision, hcontent⟩, fun h =>
      ⟨⟨h.header, h.revision, h.kind, h.decision⟩, h.content⟩⟩
  by_cases hdemands : command.Demands response
  · exact .inl ⟨hdemands, hok.mpr hdemands⟩
  · refine .inr ⟨hdemands, ?_⟩
    -- every check that fails has the same error
    have hnot : command.handOn response ≠ .ok response := fun h => hdemands (hok.mp h)
    rw [CatalogCommand.handOn, validateMutation, validateResponseHeader] at hnot ⊢
    split_ifs at hnot ⊢ <;> first | rfl | exact absurd rfl hnot

theorem demands_replayed {status : ReplayStatusV1} :
    command.Demands { response with replayStatus := status } ↔ command.Demands response :=
  ⟨fun h => ⟨h.header, h.revision, h.kind, h.decision, h.content⟩,
    fun h => ⟨h.header, h.revision, h.kind, h.decision, h.content⟩⟩

section Outcomes

variable {outcome : MutationOutcome} {kind : StoredKind} {compensates : Option DecisionId}
  {named : List EvidenceId}

theorem Decides.validate_eq_ok (h : Decides services command kind compensates named t t' outcome)
    (hsound : Sound services t) (hvalid : command.validate = .ok ())
    (hkind : kind ≠ .promoteReceiptPurchaseUnit)
    (hundo : kind = .undo ↔ compensates.isSome) (hnamed : named.Nodup) :
    outcome.decision.validate = .ok () ↔ named.length ≤ maxEvidencePerMutation := by
  rw [DecisionSnapshotV1.validate_eq_ok, h.decision]
  have hlength : (command.listedItems services t).length ≤ maxDecisionAffectedItems :=
    (listed_bounded hsound hvalid).1
  have hshown : kind.snapshot = .undo ↔ kind = .undo := by
    cases kind <;> simp [StoredKind.snapshot]
  have hpromotes : kind.snapshot ≠ .promoteReceiptPurchaseUnit := by
    cases kind <;> simp_all [StoredKind.snapshot]
  refine ⟨fun hchecks => hchecks.2.1.1, fun hle => ?_⟩
  exact ⟨⟨hlength, h.nodup⟩, ⟨hle, hnamed⟩, hshown.trans hundo, fun hboth => hpromotes hboth.1⟩

theorem Decides.demands_iff (h : Decides services command kind compensates named t t' outcome)
    (hvalid : command.validate = .ok ()) (hkind : kind.snapshot = command.kind) :
    command.Demands (outcome.response command.requestId) ↔ outcome.decision.validate = .ok () ∧
        command.accepts (outcome.response command.requestId) = true := by
  refine ⟨fun hdemands => ⟨hdemands.decision, hdemands.content⟩, ?_⟩
  rintro ⟨hdecision, hcontent⟩
  refine ⟨⟨rfl, rfl⟩, ?_, ?_, hdecision, hcontent⟩
  · rw [checkedNext_of_validate hvalid, ← h.expected, ← h.revision]
    rfl
  · rw [← hkind]
    exact congrArg DecisionSnapshotV1.kind h.decision

end Outcomes

/-! ## Saves -/

section Save

variable {request : SaveItemV1Request} {outcome : MutationOutcome}

theorem eq_iff_sorted {held ids : List ReceiptUuidId} (hheld : held.Pairwise (· ≤ ·))
    (hnodup : held.Nodup) (hids : ids.Nodup) (hsame : ∀ e, e ∈ held ↔ e ∈ ids) :
    held = ids ↔ ids.Pairwise (· ≤ ·) := by
  refine ⟨fun heq => heq ▸ hheld, fun hsorted => ?_⟩
  have hperm : held.Perm ids := (perm_ext_iff_of_nodup hnodup hids).mpr hsame
  exact hperm.eq_of_pairwise (fun _ _ _ _ hle hge => le_antisymm hle hge) hheld hsorted

theorem mem_held_of_save (h : saveItem services request t = (.ok outcome, t')) (e : EvidenceId) :
    e ∈ itemEvidenceIds t' (savedItemId services request) ↔ e ∈ request.evidenceIds := by
  obtain ⟨-, -, hafter, -⟩ := saveItem_run h
  rw [mem_itemEvidenceIds, hafter, afterSave_link]
  by_cases he : e ∈ request.evidenceIds
  · simp [he]
  · simp [he, Option.filter_eq_some_iff]

/-- **The answer to a save** is accepted exactly when the request lists its evidence in order. -/
theorem demands_save_iff (hsound : Sound services t) (hcurated : Curated t')
    (hvalid : (CatalogCommand.save request).validate = .ok ())
    (h : saveItem services request t = (.ok outcome, t')) :
    (CatalogCommand.save request).Demands
        (outcome.response (CatalogCommand.save request).requestId) ↔
      request.evidenceIds.Pairwise (· ≤ ·) := by
  obtain ⟨hdecides, -, -, item, hitem, hcontent⟩ := saveItem_run h
  have hids := hvalid
  simp only [CatalogCommand.validate, SaveItemV1Request.validate, check_then_eq_ok,
    validateUniqueIds_eq_ok] at hids
  obtain ⟨-, -, ⟨-, hlength, hnodup⟩, -⟩ := hids
  have hdecision := (hdecides.validate_eq_ok hsound hvalid (by simp) (by simp) hnodup).mpr hlength
  obtain ⟨-, -, hid, -, hevidence⟩ := loadCatalogItem_eq_ok hitem
  have hsorted := eq_iff_sorted (itemEvidenceIds_sorted t' _)
    (itemEvidenceIds_nodup t' (savedItemId services request)) hnodup (mem_held_of_save h)
  have hperm := (perm_ext_iff_of_nodup
    (itemEvidenceIds_nodup t' (savedItemId services request)) hnodup).mpr (mem_held_of_save h)
  have hitemValid : fails item.validate = false :=
    fails_eq_false.mpr ((loaded_validate_eq_ok hcurated hitem).mpr
      (hperm.length_eq.le.trans hlength))
  have hnamed : (request.itemId.any fun itemId => !decide (itemId = item.itemId)) = false := by
    rw [hid, savedItemId]
    cases request.itemId <;> simp
  have haccepts : (CatalogCommand.save request).accepts
      (outcome.response (CatalogCommand.save request).requestId) = request.accepts item :=
    congrArg (fun content => content.item?.any request.accepts) hcontent
  have haccepted : request.accepts item = true ↔ itemEvidenceIds t' (savedItemId services request) =
      request.evidenceIds := by
    simp [SaveItemV1Request.accepts, hitemValid, hnamed, hevidence]
  rw [hdecides.demands_iff hvalid rfl, haccepts, haccepted, hsorted]
  exact and_iff_right hdecision

end Save

/-! ## Merges -/

section Merge

variable {request : MergeItemsV1Request} {outcome : MutationOutcome}

theorem held_of_merge_perm (h : mergeItems services request t = (.ok outcome, t')) :
    (itemEvidenceIds t' (request.itemIds.head request.itemIds_ne_nil)).Perm
      (evidenceForItems t request.itemIds) := by
  obtain ⟨-, hafter, -⟩ := mergeItems_run h
  have htarget := head_mem request.itemIds_ne_nil
  have hnodup : (evidenceForItems t request.itemIds).Nodup := sortedDedup_nodup _
  apply (perm_ext_iff_of_nodup (itemEvidenceIds_nodup t' _) hnodup).mpr
  intro e
  rw [mem_itemEvidenceIds, mem_evidenceForItems, hafter, afterMerge_link, Option.map_eq_some_iff]
  refine ⟨?_, ?_⟩
  · rintro ⟨x, hlink, heq⟩
    split at heq
    · rename_i hx
      exact ⟨x, hx, hlink⟩
    · exact ⟨x, heq ▸ htarget, hlink⟩
  · rintro ⟨x, hx, hlink⟩
    exact ⟨x, hlink, if_pos hx⟩

/-- **The answer to a merge** is accepted exactly when the items do not hold too much evidence
together. -/
theorem demands_merge_iff (hsound : Sound services t) (hcurated : Curated t')
    (hvalid : (CatalogCommand.merge request).validate = .ok ())
    (h : mergeItems services request t = (.ok outcome, t')) :
    (CatalogCommand.merge request).Demands
        (outcome.response (CatalogCommand.merge request).requestId) ↔
      (evidenceForItems t request.itemIds).length ≤ maxEvidencePerMutation := by
  obtain ⟨hdecides, -, item, hitem, hcontent⟩ := mergeItems_run h
  have hdecision := hdecides.validate_eq_ok hsound hvalid (by simp) (by simp) (sortedDedup_nodup _)
  obtain ⟨-, -, hid, -, -⟩ := loadCatalogItem_eq_ok hitem
  have hitemValid := loaded_validate_eq_ok hcurated hitem
  rw [(held_of_merge_perm h).length_eq] at hitemValid
  have hmember : item.itemId ∈ request.itemIds := hid ▸ head_mem request.itemIds_ne_nil
  have hnamed : outcome.decision.affectedItemIds = request.itemIds :=
    congrArg DecisionSnapshotV1.affectedItemIds hdecides.decision
  have haccepts : (CatalogCommand.merge request).accepts
      (outcome.response (CatalogCommand.merge request).requestId) =
        request.accepts outcome.decision item :=
    congrArg (fun content => content.item?.any (request.accepts outcome.decision)) hcontent
  have haccepted : request.accepts outcome.decision item = true ↔
      (evidenceForItems t request.itemIds).length ≤ maxEvidencePerMutation := by
    rw [← hitemValid, ← fails_eq_false]
    simp [MergeItemsV1Request.accepts, hmember, hnamed]
  rw [hdecides.demands_iff hvalid rfl, haccepts, haccepted, hdecision, and_self_iff]

end Merge

/-! ## Decisions about evidence -/

/-- What is shown of a source is accepted: the first characters of its path have no white space at
their ends and no control characters, and its digest is one. -/
def SourceRow.Presentable (self : SourceRow) : Prop :=
  let label := self.canonicalLocator.toList.take maxProvenanceLabelChars
  ((label.dropWhile isWhitespace).rdropWhile isWhitespace = label ∧
    label.any isControl = false) ∧ ∀ digest ∈ self.rawSha256, isHash digest = true

theorem label_validate_eq_ok {fallback locator : String} {field : SafeFieldV1}
    (hfallback : validateText fallback 1 maxProvenanceLabelChars field = .ok ()) :
    validateText (locatorLabel fallback locator) 1 maxProvenanceLabelChars field = .ok () ↔
      ((locator.toList.take maxProvenanceLabelChars).dropWhile isWhitespace).rdropWhile
          isWhitespace = locator.toList.take maxProvenanceLabelChars ∧
        (locator.toList.take maxProvenanceLabelChars).any isControl = false := by
  rw [locatorLabel]
  by_cases hempty : (locator.toList.take 240).isEmpty = true
  · have hnil : locator.toList.take maxProvenanceLabelChars = [] := isEmpty_iff.mp hempty
    rw [if_pos hempty, hnil]
    exact ⟨fun _ => by simp, fun _ => hfallback⟩
  · have hpos : 1 ≤ (locator.toList.take maxProvenanceLabelChars).length :=
      length_pos_iff.mpr fun hnil => hempty (isEmpty_iff.mpr hnil)
    have hle : (locator.toList.take maxProvenanceLabelChars).length ≤ maxProvenanceLabelChars :=
      length_take_le _ _
    rw [if_neg hempty, validateText_eq_ok, trim, String.length_ofList, String.toList_ofList]
    exact ⟨fun h => h.2.2, fun h => ⟨hpos, hle, h⟩⟩

theorem loadEvidence_eq_ok {e : EvidenceId} {evidence : EvidenceSnapshotV1}
    (h : loadEvidence t e = .ok evidence) :
    ∃ row source, t.evidence.find? e = some row ∧ t.sources.find? row.sourceId = some source ∧
      evidence = ⟨e, ⟨row.sourceId, source.rootId, source.parentSourceId, source.kind,
        source.status, locatorLabel "Imported source" source.canonicalLocator,
        source.rawSha256⟩, row.kind, row.state, t.linkOf e,
        locatorLabel "Imported evidence" source.canonicalLocator⟩ := by
  rw [loadEvidence] at h
  cases hrow : t.evidence.find? e with
  | none =>
    rw [hrow] at h
    cases h
  | some row =>
    cases hsource : t.sources.find? row.sourceId with
    | none =>
      simp only [hrow, hsource] at h
      cases h
    | some source =>
      simp only [hrow, hsource, loadSource] at h
      exact ⟨row, source, rfl, hsource, (Except.ok.inj h).symm⟩

def SameSources (saved t : CatalogTables) : Prop :=
  ∀ e, (t.evidence.find? e).map (·.sourceId) = (saved.evidence.find? e).map (·.sourceId)

section Decide

variable {saved : CatalogTables} {request : DecideEvidenceV1Request} {outcome : MutationOutcome}

theorem keeps_sources_insertRow {κ ρ : Type} [DecidableEq κ] {table : CatalogTables → Table κ ρ}
    {store : Table κ ρ → CatalogTables → CatalogTables} {key : κ} {row : ρ}
    (hstore : ∀ rows t, (store rows t).evidence = t.evidence) :
    Keeps (SameSources saved) (insertRow table store key row) := by
  refine Keeps.state.bind fun t => (Keeps.rejectIf _ _).bind fun _ => Keeps.update ?_
  intro s hs e
  rw [hstore]
  exact hs e

theorem keeps_sources_insertItemEvidence {itemId : ItemId} {revision : ℕ} {e : EvidenceId} :
    Keeps (SameSources saved) (insertItemEvidence itemId revision e) :=
  Keeps.state.bind fun _ => (Keeps.rejectIf _ _).bind fun _ =>
    keeps_sources_insertRow fun _ _ => rfl

theorem keeps_sources_decideEvidence :
    Keeps (SameSources saved) (decideEvidence services request) := by
  have hentity : ∀ id entity, Keeps (SameSources saved) (insertEntity id entity) :=
    fun _ _ => keeps_sources_insertRow fun _ _ => rfl
  refine Keeps.state.bind fun _ => Keeps.bind ?_ fun revision => ?_
  · refine Keeps.state.bind fun _ => (Keeps.rejectIf _ _).bind fun _ =>
      (Keeps.update ?_).bind fun _ => .pure _
    exact fun _ hs => hs
  refine (Keeps.update ?_).bind fun _ => Keeps.bind ?_ fun _ => ?_
  · exact fun _ hs => hs
  · rw [assignEvidence]
    split
    · exact .fail _
    · exact Keeps.state.bind fun _ => (Keeps.check _).bind fun _ =>
        keeps_sources_insertItemEvidence
    · exact .pure _
    · exact .pure _
  refine Keeps.state.bind fun _ => (Keeps.rejectIf _ _).bind fun _ => Keeps.bind ?_ fun _ => ?_
  · refine Keeps.update fun s hs e => ?_
    rw [← hs e, CatalogTables.setEvidenceState, Table.find?_modify]
    split
    · rename_i heq
      rw [heq, Option.map_map]
      rfl
    · rfl
  · refine Keeps.bind ?_ fun _ => Keeps.state.bind fun _ => (Keeps.check _).bind fun _ => .pure _
    refine Keeps.bind ?_ fun _ => (Keeps.forEach (fun _ => hentity _ _) _).bind fun _ =>
      (Keeps.forEach (fun _ => hentity _ _) _).bind fun _ => .pure _
    exact Keeps.state.bind fun _ => (Keeps.rejectIf _ _).bind fun _ =>
      (Keeps.rejectIf _ _).bind fun _ => keeps_sources_insertRow fun _ _ => rfl

theorem evidence_validate_eq_ok {row : EvidenceRow} {source : SourceRow} {link : Option ItemId}
    (hstate : row.state = request.action.state) (hlink : link = request.itemId)
    (haction : request.action = .assign ↔ request.itemId.isSome) :
    EvidenceSnapshotV1.validate ⟨request.evidenceId, ⟨row.sourceId, source.rootId,
      source.parentSourceId, source.kind, source.status,
      locatorLabel "Imported source" source.canonicalLocator, source.rawSha256⟩, row.kind,
      row.state, link, locatorLabel "Imported evidence" source.canonicalLocator⟩ = .ok () ↔
      source.Presentable := by
  have hsource := @label_validate_eq_ok "Imported source" source.canonicalLocator .path
    (by decide +kernel)
  have hreview := @label_validate_eq_ok "Imported evidence" source.canonicalLocator .attributes
    (by decide +kernel)
  rw [EvidenceSnapshotV1.validate, check_then_eq_ok, check_then_eq_ok, SourceSnapshotV1.validate,
    check_then_eq_ok, hsource, hreview, validateWhenSome_eq_ok, SourceRow.Presentable]
  have hassignment : assignmentIsValid row.state link = true := by
    rw [hstate, hlink]
    cases haction' : request.action with
    | assign => exact haction.mp haction'
    | reject =>
      have hnone : request.itemId = none := by simpa [haction'] using haction
      rw [hnone]
      rfl
    | defer =>
      have hnone : request.itemId = none := by simpa [haction'] using haction
      rw [hnone]
      rfl
  simp only [hassignment, check_unless_eq_ok, not_not, and_true, if_true]
  exact ⟨fun h => ⟨h.1.1, h.1.2⟩, fun h => ⟨⟨h.1, h.2⟩, h.1⟩⟩

/-- **The answer to a decision about evidence** is accepted exactly when what is shown of its
source is. -/
theorem demands_decide_iff (hsound : Sound services t)
    (hvalid : (CatalogCommand.decide request).validate = .ok ())
    (h : decideEvidence services request t = (.ok outcome, t')) :
    (CatalogCommand.decide request).Demands
        (outcome.response (CatalogCommand.decide request).requestId) ↔
      ∀ row source, t.evidence.find? request.evidenceId = some row →
        t.sources.find? row.sourceId = some source → source.Presentable := by
  obtain ⟨hdecides, -, -, hstored, hafter, evidence, hevidence, hcontent⟩ := decideEvidence_run h
  obtain ⟨hassigned, haction, -⟩ := assigned_of_validate hvalid
  have hkind : request.action.kind.snapshot = .decideEvidence := by
    cases request.action <;> rfl
  have hdecision := (hdecides.validate_eq_ok hsound hvalid (by cases request.action <;> simp [
    EvidenceDecisionActionV1.kind]) (by cases request.action <;> simp [
    EvidenceDecisionActionV1.kind]) (nodup_singleton _)).mpr (by
      simp [maxEvidencePerMutation])
  obtain ⟨row, source, hrow, hsource, rfl⟩ := loadEvidence_eq_ok hevidence
  -- the evidence is of the source it was of before, and the sources are as they were
  have hsources : t'.sources = t.sources := hdecides.appends.sources
  obtain ⟨before, hbefore, hsame⟩ : ∃ before, t.evidence.find? request.evidenceId = some before ∧
      before.sourceId = row.sourceId := by
    have hkept := keeps_sources_decideEvidence t t' outcome (fun _ => rfl) h request.evidenceId
    rw [hrow, Option.map_some, eq_comm, Option.map_eq_some_iff] at hkept
    exact hkept
  have hcondition : (∀ row source, t.evidence.find? request.evidenceId = some row →
      t.sources.find? row.sourceId = some source → source.Presentable) ↔ source.Presentable := by
    refine ⟨fun hall => hall before source hbefore ?_, fun hpresentable other held hother hheld => ?_⟩
    · rw [hsame, ← hsources]
      exact hsource
    · obtain rfl := Option.mem_unique hother hbefore
      rw [hsame, ← hsources, hsource] at hheld
      exact Option.some.inj hheld ▸ hpresentable
  have hstate : row.state = request.action.state := by
    obtain ⟨s, hs⟩ := Option.isSome_iff_exists.mp hstored
    have hplaced : t'.placement.state request.evidenceId = some request.action.state := by
      rw [hafter, afterDecide_state, if_pos rfl, hs, Option.map_some]
    simp only [CatalogTables.placement, hrow, Option.map_some] at hplaced
    exact Option.some.inj hplaced
  have hlink : t'.linkOf request.evidenceId = request.itemId := by
    have hplaced : t'.placement.link request.evidenceId = assignedItem request := by
      rw [hafter, afterDecide_link, if_pos rfl]
    exact hplaced.trans hassigned
  have hnamed : outcome.decision.affectedEvidenceIds = [request.evidenceId] :=
    congrArg DecisionSnapshotV1.affectedEvidenceIds hdecides.decision
  have haccepts : (CatalogCommand.decide request).accepts
      (outcome.response (CatalogCommand.decide request).requestId) =
        request.accepts outcome.decision _ :=
    congrArg (fun content => content.evidence?.any (request.accepts outcome.decision)) hcontent
  have haccepted := @evidence_validate_eq_ok request row source _ hstate hlink haction
  rw [hdecides.demands_iff hvalid hkind, haccepts, hcondition, and_iff_right hdecision,
    ← haccepted, ← fails_eq_false]
  simp [DecideEvidenceV1Request.accepts, hstate, hlink, hnamed]

end Decide

/-! ## Splits -/

theorem loaded_evidence {items : List CatalogItemV1}
    (h : ids.mapM (loadCatalogItem t) = .ok items) :
    items.flatMap (·.evidenceIds) = ids.flatMap (itemEvidenceIds t) := by
  rw [check_mapM_eq_ok] at h
  induction h with
  | nil => rfl
  | cons hitem _ ih =>
    obtain ⟨-, -, -, -, hevidence⟩ := loadCatalogItem_eq_ok hitem
    rw [flatMap_cons, flatMap_cons, hevidence, ih]

theorem loaded_of_mem {items : List CatalogItemV1} (h : ids.mapM (loadCatalogItem t) = .ok items)
    (hitem : item ∈ items) : ∃ x ∈ ids, loadCatalogItem t x = .ok item := by
  rw [check_mapM_eq_ok] at h
  obtain ⟨i, hi, rfl⟩ := getElem_of_mem hitem
  have hlength := h.length_eq
  exact ⟨ids[i], getElem_mem _, (forall₂_iff_get.mp h).2 i (hlength ▸ hi) hi⟩

theorem held_nodup (h : ids.Nodup) : (ids.flatMap (itemEvidenceIds t)).Nodup := by
  rw [nodup_flatMap]
  refine ⟨fun x _ => itemEvidenceIds_nodup t x, h.imp ?_⟩
  intro x y hne
  refine disjoint_left.mpr fun e hx hy => ?_
  rw [mem_itemEvidenceIds] at hx hy
  exact hne (Option.mem_unique hx hy)

theorem insertionSort_eq_iff_perm {left right : List ReceiptUuidId} :
    left.insertionSort (· ≤ ·) = right.insertionSort (· ≤ ·) ↔ left.Perm right := by
  have hleft := perm_insertionSort (· ≤ ·) left
  have hright := perm_insertionSort (· ≤ ·) right
  refine ⟨fun heq => hleft.symm.trans (heq ▸ hright), fun hperm => ?_⟩
  exact (hleft.trans (hperm.trans hright.symm)).eq_of_pairwise
    (fun _ _ _ _ hle hge => le_antisymm hle hge) (pairwise_insertionSort _ _)
    (pairwise_insertionSort _ _)

section Split

variable {request : SplitItemV1Request} {outcome : MutationOutcome}

theorem held_of_split_iff (hnodup : (splitItemIds services request).Nodup)
    (h : splitItem services request t = (.ok outcome, t')) :
    (∀ e, e ∈ request.groups.flatMap (·.evidenceIds) ↔
        e ∈ (splitItemIds services request).flatMap (itemEvidenceIds t')) ↔
      ∀ x ∈ (splitItemIds services request).tail, itemEvidenceIds t x = [] := by
  obtain ⟨-, hrequested, hsplit, -⟩ := splitItem_run h
  have hlisted : ∀ e, e ∈ request.groups.flatMap (·.evidenceIds) ↔
      t.placement.link e = some request.itemId :=
    fun e => mem_splitEvidenceIds.symm.trans (hrequested e)
  have hmade : ∀ e ∈ request.groups.flatMap (·.evidenceIds),
      e ∈ (splitItemIds services request).flatMap (itemEvidenceIds t') := by
    intro e he
    obtain ⟨x, hx, hlink⟩ := hsplit.link_new e he
    obtain ⟨entry, hentry, rfl⟩ := mem_map.mp hx
    exact mem_flatMap.mpr ⟨entry.1, (of_mem_zip hentry).1, mem_itemEvidenceIds.mpr hlink⟩
  have hframe : ∀ e, e ∉ request.groups.flatMap (·.evidenceIds) →
      t'.placement.link e = t.placement.link e := by
    intro e he
    rw [hsplit.link_frame e he, clear_link_of_ne fun hlink => he ((hlisted e).mpr hlink)]
  have htail : ∀ x ∈ (splitItemIds services request).tail, x ≠ request.itemId := by
    intro x hx heq
    exact (nodup_cons.mp hnodup).1 (heq ▸ hx)
  refine ⟨fun hsame x hx => ?_, fun hempty e => ⟨hmade e, fun he => ?_⟩⟩
  · -- what a made item held would be among the evidence of the item that is split
    refine eq_nil_iff_forall_not_mem.mpr fun e he => ?_
    rw [mem_itemEvidenceIds] at he
    have hother : e ∉ request.groups.flatMap (·.evidenceIds) := by
      rw [hlisted, he]
      exact fun heq => htail x hx (Option.some.inj heq)
    refine hother ((hsame e).mpr (mem_flatMap.mpr ⟨x, mem_of_mem_tail hx, ?_⟩))
    rw [mem_itemEvidenceIds, hframe e hother, he]
  · obtain ⟨x, hx, hlink⟩ := mem_flatMap.mp he
    rw [mem_itemEvidenceIds] at hlink
    by_contra hnot
    rw [hframe e hnot] at hlink
    rcases mem_cons.mp hx with rfl | hmem
    · exact hnot ((hlisted e).mpr hlink)
    · have hheld := mem_itemEvidenceIds.mpr hlink
      rw [hempty x hmem] at hheld
      cases hheld

/-- **The answer to a split** is accepted exactly when the items it makes are new to
evidence. -/
theorem demands_split_iff (hsound : Sound services t) (hcurated : Curated t')
    (hvalid : (CatalogCommand.split request).validate = .ok ())
    (h : splitItem services request t = (.ok outcome, t')) :
    (CatalogCommand.split request).Demands
        (outcome.response (CatalogCommand.split request).requestId) ↔
      ∀ x ∈ (splitItemIds services request).tail, itemEvidenceIds t x = [] := by
  obtain ⟨hdecides, -, -, items, hitems, hcontent⟩ := splitItem_run h
  have hchecks := hvalid
  simp only [CatalogCommand.validate, SplitItemV1Request.validate, check_then_eq_ok,
    check_unless_eq_ok, not_or, not_lt, validateUniqueIds_eq_ok] at hchecks
  obtain ⟨-, ⟨htwo, -⟩, -, ⟨-, hlength, hevidence⟩, -⟩ := hchecks
  have hids : (splitItemIds services request).Nodup := hdecides.nodup
  have hlisted : (splitEvidenceIds request).length ≤ maxEvidencePerMutation := by
    refine le_trans ?_ hlength
    exact (dedup_sublist _).length_le.trans (length_insertionSort _ _).le
  have hdecision := (hdecides.validate_eq_ok hsound hvalid (by simp) (by simp)
    (sortedDedup_nodup _)).mpr hlisted
  have hnamed : outcome.decision.affectedItemIds = splitItemIds services request :=
    congrArg DecisionSnapshotV1.affectedItemIds hdecides.decision
  have hcount : items.length = request.groups.length :=
    (check_mapM_eq_ok.mp hitems).length_eq.symm.trans (splitItemIds_length htwo)
  have haccepts : (CatalogCommand.split request).accepts
      (outcome.response (CatalogCommand.split request).requestId) =
        request.accepts outcome.decision items :=
    congrArg (fun content => content.items?.any (request.accepts outcome.decision)) hcontent
  have hperm : (request.groups.flatMap (·.evidenceIds)).Perm (items.flatMap (·.evidenceIds)) ↔
      ∀ x ∈ (splitItemIds services request).tail, itemEvidenceIds t x = [] := by
    rw [loaded_evidence hitems, perm_ext_iff_of_nodup hevidence (held_nodup hids)]
    exact held_of_split_iff hids h
  -- an item that holds some of the evidence does not hold too much
  have hitemsValid : (request.groups.flatMap (·.evidenceIds)).Perm
      (items.flatMap (·.evidenceIds)) → ∀ item ∈ items, fails item.validate = false := by
    intro hsame item hmem
    obtain ⟨x, hx, hload⟩ := loaded_of_mem hitems hmem
    rw [fails_eq_false, loaded_validate_eq_ok hcurated hload]
    refine le_trans ?_ hlength
    rw [loaded_evidence hitems] at hsame
    have hsubset : itemEvidenceIds t' x ⊆ request.groups.flatMap (·.evidenceIds) :=
      fun e he => hsame.mem_iff.mpr (mem_flatMap.mpr ⟨x, hx, he⟩)
    exact (subperm_of_subset (itemEvidenceIds_nodup t' x) hsubset).length_le
  have haccepted : request.accepts outcome.decision items = true ↔
      (request.groups.flatMap (·.evidenceIds)).Perm (items.flatMap (·.evidenceIds)) := by
    have hmember : request.itemId ∈ splitItemIds services request := .head _
    rw [← insertionSort_eq_iff_perm] at hitemsValid ⊢
    simp only [SplitItemV1Request.accepts, hcount, hnamed, hmember, contains_eq_mem,
      decide_true, Bool.not_true, Bool.or_false, ne_eq, not_true_eq_false, decide_false,
      Bool.false_or, Bool.not_eq_true', Bool.or_eq_false_iff, decide_eq_false_iff_not, not_not,
      any_eq_false, Bool.not_eq_true]
    exact and_iff_right_of_imp hitemsValid
  rw [hdecides.demands_iff hvalid rfl, haccepts, haccepted, hperm]
  exact and_iff_right hdecision

end Split

/-! ## Undos -/

section Undo

variable {request : UndoDecisionV1Request} {outcome : MutationOutcome}

/-- **The answer to an undo** is accepted exactly when the undone decision does not name too much
evidence. -/
theorem demands_undo_iff (hsound : Sound services t) (hcurated : Curated t')
    (hvalid : (CatalogCommand.undo request).validate = .ok ())
    (hrestored : ∀ x ∈ (CatalogCommand.undo request).listedItems services t,
      ∀ e ∈ itemEvidenceIds t' x, e ∈ (CatalogCommand.undo request).listedEvidence services t)
    (h : undoDecision services request t = (.ok outcome, t')) :
    (CatalogCommand.undo request).Demands
        (outcome.response (CatalogCommand.undo request).requestId) ↔
      ((CatalogCommand.undo request).listedEvidence services t).length ≤
        maxEvidencePerMutation := by
  obtain ⟨row, snapshot, t₁, hrow, -, -, hinverse, hdecides, -, -, items, hitems, hcontent⟩ :=
    undoDecision_run h
  have hlisted : inverseOf t request.decisionId = some snapshot := by
    rw [inverseOf, hrow, Option.bind_some, hinverse]
  have hevidenceIds : (CatalogCommand.undo request).listedEvidence services t =
      snapshot.evidence.map (·.evidenceId) := by
    rw [CatalogCommand.listedEvidence, hlisted, Option.map_some, Option.getD_some]
  have hitemIds : (CatalogCommand.undo request).listedItems services t =
      snapshot.affectedItemIds := by
    rw [CatalogCommand.listedItems, hlisted, Option.map_some, Option.getD_some]
  have hnodup := (inverseOf_bounded hsound hlisted).evidence_nodup
  have hdecision := hdecides.validate_eq_ok hsound hvalid (by simp) (by simp) hnodup
  have hcompensates : outcome.decision.compensatesDecisionId = some request.decisionId :=
    congrArg DecisionSnapshotV1.compensatesDecisionId hdecides.decision
  have haccepts : (CatalogCommand.undo request).accepts
      (outcome.response (CatalogCommand.undo request).requestId) =
        request.accepts outcome.decision items :=
    congrArg (fun content => content.items?.any (request.accepts outcome.decision)) hcontent
  rw [hdecides.demands_iff hvalid rfl, haccepts, hdecision, hevidenceIds]
  refine and_iff_left_of_imp fun hlength => ?_
  have hitemsValid : ∀ item ∈ items, fails item.validate = false := by
    intro item hmem
    obtain ⟨x, hx, hload⟩ := loaded_of_mem hitems hmem
    have hnamed := (mem_filter.mp hx).1
    rw [← hitemIds] at hnamed
    rw [fails_eq_false, loaded_validate_eq_ok hcurated hload]
    refine le_trans ?_ hlength
    rw [← hevidenceIds]
    exact (subperm_of_subset (itemEvidenceIds_nodup t' x) (hrestored x hnamed)).length_le
  simp only [UndoDecisionV1Request.accepts, hcompensates, ne_eq, not_true_eq_false, decide_false,
    Bool.false_or, Bool.not_eq_true', any_eq_false, Bool.not_eq_true]
  exact hitemsValid

end Undo

/-! ## Committed commands -/

def CatalogCommand.Reportable (services : CatalogServices) (t : CatalogTables) :
    CatalogCommand → Prop
  | .save request => request.evidenceIds.Pairwise (· ≤ ·)
  | .decide request => ∀ row source, t.evidence.find? request.evidenceId = some row →
      t.sources.find? row.sourceId = some source → source.Presentable
  | .merge request => (evidenceForItems t request.itemIds).length ≤ maxEvidencePerMutation
  | .split request => ∀ x ∈ (splitItemIds services request).tail, itemEvidenceIds t x = []
  | .undo request => ∀ snapshot, inverseOf t request.decisionId = some snapshot →
      snapshot.evidence.length ≤ maxEvidencePerMutation

/-- A command that was committed is reported as a success, and so is every replay of it. -/
def Reported (services : CatalogServices) (command : CatalogCommand) (t t' : CatalogTables) :
    Prop :=
  (∃ answer, command.serve services t = (.ok answer, t')) ∧
    ∀ u, Steps services t' u → ∃ answer, command.serve services u = (.ok answer, u)

theorem restored_evidence {request : UndoDecisionV1Request} (hsound : Sound services t)
    (h : Creates services (.undo request) t response t') :
    ∀ x ∈ (CatalogCommand.undo request).listedItems services t, ∀ e ∈ itemEvidenceIds t' x,
      e ∈ (CatalogCommand.undo request).listedEvidence services t := by
  obtain ⟨saved, after, command, origin, horigin⟩ := h.undo_origin hsound.traced
  obtain ⟨-, hrestored, hitems, hevidence, -⟩ := horigin.undo h
  intro x hx e he
  rw [hitems] at hx
  rw [hevidence]
  rw [mem_itemEvidenceIds, hrestored] at he
  by_contra hnot
  rw [Placement.restore_link_of_not_mem hnot, Option.filter_eq_some_iff] at he
  have hother : x ∉ command.listedItems services saved := by simpa using he.2
  exact hother hx

theorem Creates.demands_iff (hsound : Sound services t) (hvalid : command.validate = .ok ())
    (h : Creates services command t response t') :
    command.Demands response ↔ command.Reportable services t := by
  obtain ⟨outcome, t₁, hmutate, rfl, hafter⟩ := h.mutation
  have hcurated : Curated t₁ :=
    curated_mutate (accepted_of_validate hvalid) t t₁ outcome hsound.curated hmutate
  cases command with
  | save request => exact demands_save_iff hsound hcurated hvalid hmutate
  | decide request => exact demands_decide_iff hsound hvalid hmutate
  | merge request => exact demands_merge_iff hsound hcurated hvalid hmutate
  | split request => exact demands_split_iff hsound hcurated hvalid hmutate
  | undo request =>
    have hrestored := restored_evidence hsound h
    rw [hafter] at hrestored
    refine (demands_undo_iff hsound hcurated hvalid hrestored hmutate).trans ?_
    rw [CatalogCommand.Reportable, CatalogCommand.listedEvidence]
    cases inverseOf t request.decisionId with
    | none => simp
    | some snapshot => simp

theorem Creates.replay {u : CatalogTables} (h : Creates services command t response t')
    (hsteps : Steps services t' u) :
    command.execute services u = (.ok { response with replayStatus := .replayed }, u) := by
  rw [execute_of_receipt (h.receipt hsteps), if_pos ⟨rfl, rfl⟩]
  rfl

theorem serve_of_execute (hvalid : command.validate = .ok ())
    (h : command.execute services t = (.ok response, t')) :
    command.serve services t = (command.handOn response, t') := by
  rw [CatalogCommand.serve, hvalid, h]

theorem committed_misreported (hserved : Served services t) (hvalid : command.validate = .ok ())
    (hcommits : Creates services command t response t')
    (hnot : ¬ command.Reportable services t) :
    command.serve services t = (.error internalDataError, t') ∧
      ∀ u, Steps services t' u → command.serve services u = (.error internalDataError, u) := by
  rw [← hcommits.demands_iff hserved.sound hvalid] at hnot
  refine ⟨?_, fun u hsteps => ?_⟩
  · rw [serve_of_execute hvalid hcommits.run]
    rcases handOn_cases command response with ⟨hdemands, -⟩ | ⟨-, herror⟩
    · exact absurd hdemands hnot
    · rw [herror]
  · rw [serve_of_execute hvalid (hcommits.replay hsteps)]
    rcases handOn_cases command { response with replayStatus := .replayed } with
      ⟨hdemands, -⟩ | ⟨-, herror⟩
    · exact absurd (demands_replayed.mp hdemands) hnot
    · rw [herror]

/-- **A committed command is reported as a success**, now and by every replay, exactly where its
request and the catalog before it fit the checks of the service. -/
theorem committed_reported_iff (hserved : Served services t) (hvalid : command.validate = .ok ())
    (hcommits : Creates services command t response t') :
    Reported services command t t' ↔ command.Reportable services t := by
  refine ⟨fun ⟨⟨answer, hanswer⟩, _⟩ => ?_, fun hreportable => ?_⟩
  · by_contra hnot
    rw [(committed_misreported hserved hvalid hcommits hnot).1] at hanswer
    cases (Prod.mk.inj hanswer).1
  rw [← hcommits.demands_iff hserved.sound hvalid] at hreportable
  refine ⟨?_, fun u hsteps => ?_⟩
  · rw [serve_of_execute hvalid hcommits.run]
    rcases handOn_cases command response with ⟨-, hok⟩ | ⟨hnot, -⟩
    · exact ⟨response, by rw [hok]⟩
    · exact absurd hreportable hnot
  · rw [serve_of_execute hvalid (hcommits.replay hsteps)]
    rcases handOn_cases command { response with replayStatus := .replayed } with
      ⟨-, hok⟩ | ⟨hnot, -⟩
    · exact ⟨_, by rw [hok]⟩
    · exact absurd (demands_replayed.mpr hreportable) hnot

/-! ## Two saves

Two pieces of evidence were imported. A save that names one of them is reported as a success; a
save that names both, the later one first, is committed and reported as an internal error.
-/

namespace Example

/-- A save of both pieces of evidence, the later one first. -/
def saveUnordered : SaveItemV1Request := ⟨1, .above 0, none, shirt, [.above 21, .above 20], 0⟩

theorem saves_facts : importedTables.commandReceipts.find? (.above 0) = none ∧
    ((CatalogCommand.save save).validate = .ok () ∧
      ((CatalogCommand.save save).execute lastDigitServices importedTables).1.isOk = true) ∧
    ((CatalogCommand.save saveUnordered).validate = .ok () ∧
      ((CatalogCommand.save saveUnordered).execute lastDigitServices importedTables).1.isOk =
        true) := by decide +kernel

theorem imported_served : Served lastDigitServices importedTables :=
  .step (.empty noTables_fresh) (.imported [.recordSource (.above 9) source,
    .ensureEvidence (.above 20) (.above 9) .image 0,
    .ensureEvidence (.above 21) (.above 9) .image 1] _ Prod.mk.eta.symm)

/-- The save of one piece of evidence is reported as a success. -/
theorem save_reported : Reported lastDigitServices (.save save) importedTables savedTables := by
  obtain ⟨hnew, ⟨hvalid, hok⟩, -⟩ := saves_facts
  obtain ⟨response, hrun⟩ := succeeds savedTables.eq_1 hok
  exact (committed_reported_iff imported_served hvalid ⟨hnew, hrun⟩).mpr
    (List.pairwise_singleton _ _)

/-- The save of both is committed, and it and every retry are reported as internal errors. -/
theorem save_misreported : ∃ response t', Served lastDigitServices importedTables ∧
    (CatalogCommand.save saveUnordered).validate = .ok () ∧
    Creates lastDigitServices (.save saveUnordered) importedTables response t' ∧
    (CatalogCommand.save saveUnordered).serve lastDigitServices importedTables =
      (.error internalDataError, t') ∧
    ∀ u, Steps lastDigitServices t' u → (CatalogCommand.save saveUnordered).serve
      lastDigitServices u = (.error internalDataError, u) := by
  obtain ⟨hnew, -, hvalid, hok⟩ := saves_facts
  obtain ⟨response, hrun⟩ := succeeds rfl hok
  have hcommits : Creates lastDigitServices (.save saveUnordered) importedTables response _ :=
    ⟨hnew, hrun⟩
  have hunordered : ¬ (CatalogCommand.save saveUnordered).Reportable lastDigitServices
      importedTables := by
    intro hsorted
    exact absurd (List.rel_of_pairwise_cons hsorted (List.mem_cons_self ..)) (by decide)
  exact ⟨response, _, imported_served, hvalid, hcommits,
    committed_misreported imported_served hvalid hcommits hunordered⟩

end Example

end Threadbook.Catalog
