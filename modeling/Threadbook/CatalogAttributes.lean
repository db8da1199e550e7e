import Threadbook.CatalogRuns
import Threadbook.Invariance

/-!
# What items carry

The attributes of every item are accepted, and so are those a decision would restore; an item
was changed at a revision the catalog has had. Each statement keeps this at the revision of the
command it is part of, so **every step of the catalog keeps it**, as long as the commands bring
accepted attributes.
-/

namespace Threadbook.Catalog

open Fallible.Keeps Fallible
open Promotion (ItemAttributesV1 RequestId)

def ProjectionSnapshot.Accepted (self : ProjectionSnapshot) : Prop :=
  ∀ item ∈ self.items, item.attributes.validate = .ok ()

def CatalogCommand.Accepted : CatalogCommand → Prop
  | .save request => request.attributes.validate = .ok ()
  | .decide _ | .undo _ => True
  | .merge request => request.targetAttributes.validate = .ok ()
  | .split request => ∀ group ∈ request.groups, group.attributes.validate = .ok ()

def ItemRow.Curated (catalogRevision : ℕ) (self : ItemRow) : Prop :=
  self.attributes.validate = .ok () ∧ 0 < self.updatedRevision ∧
    self.updatedRevision ≤ catalogRevision

structure Curated (t : CatalogTables) : Prop where
  items : ∀ itemId row, t.items.find? itemId = some row → row.Curated t.catalogRevision
  stored : ∀ decisionId row snapshot, t.decisions.find? decisionId = some row →
    row.inverse = some snapshot → snapshot.Accepted

/-- They hold it while a command writes at a revision. -/
structure CuratedAt (revision : ℕ) (t : CatalogTables) : Prop where
  curated : Curated t
  pos : 0 < revision
  le : revision ≤ t.catalogRevision

variable {services : CatalogServices} {t t' : CatalogTables} {revision : ℕ}
  {attributes : ItemAttributesV1} {itemId : ItemId}

/-! ## Statements -/

section

variable (h : CuratedAt revision t)

include h

theorem CuratedAt.congr (hitems : t'.items = t.items) (hdecisions : t'.decisions = t.decisions)
    (hrevision : t'.catalogRevision = t.catalogRevision) :
    CuratedAt revision t' where
  curated := ⟨by rw [hitems, hrevision]; exact h.curated.items,
    by rw [hdecisions]; exact h.curated.stored⟩
  pos := h.pos
  le := hrevision ▸ h.le

theorem CuratedAt.put {row : ItemRow} (haccepted : row.attributes.validate = .ok ())
    (hrow : row.updatedRevision = revision) :
    CuratedAt revision { t with items := t.items.put itemId row } where
  curated := by
    refine ⟨fun x other hother => ?_, h.curated.stored⟩
    rw [Table.find?_put] at hother
    split at hother
    · cases hother
      exact ⟨haccepted, hrow ▸ h.pos, hrow ▸ h.le⟩
    · exact h.curated.items x other hother
  pos := h.pos
  le := h.le

theorem CuratedAt.upsertItem (haccepted : attributes.validate = .ok ()) :
    CuratedAt revision (t.upsertItem itemId attributes revision) := h.put haccepted rfl

theorem CuratedAt.restoreItem {item : StoredItem} (haccepted : item.attributes.validate = .ok ()) :
    CuratedAt revision (t.restoreItem item revision) := h.put haccepted rfl

theorem CuratedAt.deactivateItem :
    CuratedAt revision (t.deactivateItem itemId revision) where
  curated := by
    refine ⟨fun x other hother => ?_, h.curated.stored⟩
    rw [CatalogTables.deactivateItem, Table.find?_modify] at hother
    split at hother
    · obtain ⟨row, hrow, rfl⟩ := Option.map_eq_some_iff.mp hother
      exact ⟨(h.curated.items x row hrow).1, h.pos, h.le⟩
    · exact h.curated.items x other hother
  pos := h.pos
  le := h.le

end

theorem curatedAt_foldl {β : Type} {f : CatalogTables → β → CatalogTables} {l : List β}
    (hf : ∀ t, ∀ b ∈ l, CuratedAt revision t → CuratedAt revision (f t b))
    (h : CuratedAt revision t) : CuratedAt revision (l.foldl f t) := by
  induction l generalizing t with
  | nil => exact h
  | cons b rest ih =>
    refine ih (fun t c hc => hf t c (.tail _ hc)) ?_
    exact hf t b (.head _) h

theorem keeps_insertRow {κ ρ : Type} [DecidableEq κ] {table : CatalogTables → Table κ ρ}
    {store : Table κ ρ → CatalogTables → CatalogTables} {key : κ} {row : ρ}
    (hstore : ∀ t, CuratedAt revision t → CuratedAt revision (store ((table t).put key row) t)) :
    Keeps (CuratedAt revision) (insertRow table store key row) := by
  intro t t' u h hrun
  obtain ⟨-, rfl⟩ := insertRow_eq_ok.mp hrun
  exact hstore t h

theorem keeps_insertItemEvidence {evidenceId : EvidenceId} :
    Keeps (CuratedAt revision) (insertItemEvidence itemId revision evidenceId) := by
  refine Keeps.state.bind fun t => (Keeps.rejectIf _ _).bind fun _ => keeps_insertRow ?_
  exact fun t h => h.congr rfl rfl rfl

variable {evidenceIds : List EvidenceId} {promotion : CatalogPromotion}

theorem keeps_setItemEvidence :
    Keeps (CuratedAt revision) (setItemEvidence itemId evidenceIds revision) := by
  refine Keeps.state.bind fun t => ?_
  refine (Keeps.update fun t h => h.congr rfl rfl rfl).bind fun _ => ?_
  refine (Keeps.update fun t h => ?_).bind fun _ => ?_
  · exact curatedAt_foldl (fun t _ _ h => h.congr rfl rfl rfl) h
  · refine (Keeps.forEach (fun evidenceId => ?_) _).bind fun _ => .pure _
    exact keeps_insertItemEvidence.bind fun _ => .update fun t h => h.congr rfl rfl rfl

theorem keeps_insertDecision {decisionId : DecisionId} {row : DecisionRow}
    (hinverse : ∀ snapshot, row.inverse = some snapshot → snapshot.Accepted) :
    Keeps (CuratedAt revision) (insertDecision decisionId row) := by
  refine Keeps.state.bind fun t => (Keeps.rejectIf _ _).bind fun _ =>
    (Keeps.rejectIf _ _).bind fun _ => keeps_insertRow fun t h => ?_
  refine ⟨⟨h.curated.items, fun id other snapshot hother hsnapshot => ?_⟩, h.pos, h.le⟩
  rw [Table.find?_put] at hother
  split at hother
  · obtain rfl := Option.some.inj hother
    exact hinverse snapshot hsnapshot
  · exact h.curated.stored id other snapshot hother hsnapshot

theorem keeps_insertEntity {decisionId : DecisionId} {entity : DecisionEntity} :
    Keeps (CuratedAt revision) (insertEntity decisionId entity) :=
  keeps_insertRow fun _ h => h.congr rfl rfl rfl

theorem keeps_storeReceipt {command : String} {requestId : RequestId} {envelope : String}
    {response : CommandResponse} :
    Keeps (CuratedAt revision) (storeReceipt command requestId envelope response) :=
  keeps_insertRow fun _ h => h.congr rfl rfl rfl

theorem keeps_appendDecision {requestId : RequestId} {kind : StoredKind}
    {inverse : ProjectionSnapshot} {compensates : Option DecisionId} {itemIds : List ItemId}
    (hinverse : inverse.Accepted) :
    Keeps (CuratedAt revision) (appendDecision services requestId kind revision inverse compensates
      itemIds evidenceIds) := by
  refine (keeps_insertDecision fun snapshot hsnapshot => ?_).bind fun _ =>
    (forEach (fun _ => keeps_insertEntity) _).bind fun _ =>
      (forEach (fun _ => keeps_insertEntity) _).bind fun _ => .pure _
  exact Option.some.inj hsnapshot ▸ hinverse

theorem Curated.captured (h : Curated t) (itemIds : List ItemId) (evidenceIds : List EvidenceId) :
    (captureProjection t itemIds evidenceIds).Accepted := by
  intro item hitem
  obtain ⟨x, -, hx⟩ := List.mem_filterMap.mp hitem
  obtain ⟨row, hrow, rfl⟩ := Option.map_eq_some_iff.mp hx
  exact (h.items x row hrow).1

theorem keeps_restoreProjection {snapshot : ProjectionSnapshot} (haccepted : snapshot.Accepted) :
    Keeps (CuratedAt revision) (restoreProjection snapshot revision) := by
  refine (Keeps.update fun t h => ?_).bind fun _ => (Keeps.update fun t h => ?_).bind fun _ =>
    (Keeps.forEach (fun stored => ?_) _).bind fun _ => .pure _
  · refine curatedAt_foldl (fun t itemId _ h => ?_) h
    dsimp only
    split
    · exact h.congr rfl rfl rfl
    · exact (h.congr rfl rfl rfl : CuratedAt revision (t.deleteItemEvidenceByItem _)).deactivateItem
  · exact curatedAt_foldl (fun t item hitem h => h.restoreItem (haccepted item hitem)) h
  · refine (Keeps.update fun t h => h.congr rfl rfl rfl).bind fun _ =>
      (Keeps.update fun t h => h.congr rfl rfl rfl).bind fun _ => ?_
    cases stored.assignedItemId with
    | none => exact .pure _
    | some itemId => exact keeps_insertItemEvidence

/-! ## Commands -/

theorem curated_of_advance {β : Type} {expected : ℕ} {f : ℕ → CatalogTransaction β} {b : β}
    (hf : ∀ revision, Keeps (CuratedAt revision) (f revision)) (h : Curated t)
    (hrun : (advanceRevision expected >>= f) t = (.ok b, t')) : Curated t' := by
  rw [advanceRevision_bind_eq_ok] at hrun
  obtain ⟨rfl, hrun⟩ := hrun
  have hadvanced : Curated { t with catalogRevision := t.catalogRevision + 1 } := by
    refine ⟨fun x row hrow => ?_, h.stored⟩
    obtain ⟨haccepted, hpos, hle⟩ := h.items x row hrow
    exact ⟨haccepted, hpos, hle.trans (Nat.le_succ _)⟩
  exact (hf _ _ _ b ⟨hadvanced, Nat.succ_pos _, le_rfl⟩ hrun).curated

theorem curated_saveItem {request : SaveItemV1Request}
    (haccepted : request.attributes.validate = .ok ()) :
    Keeps Curated (saveItem services request) := by
  intro t t' outcome h hrun
  rw [saveItem, state_bind, require_bind_eq_ok] at hrun
  obtain ⟨-, hrun⟩ := hrun
  refine curated_of_advance (fun revision => ?_) h hrun
  refine (Keeps.update fun s hs => hs.upsertItem haccepted).bind fun _ => ?_
  refine keeps_setItemEvidence.bind fun _ => ?_
  exact (keeps_appendDecision (h.captured _ _)).bind fun _ => Keeps.state.bind fun _ =>
    (Keeps.check _).bind fun _ => .pure _

theorem keeps_assignEvidence {request : DecideEvidenceV1Request} :
    Keeps (CuratedAt revision) (assignEvidence request revision) := by
  rw [assignEvidence]
  split
  · exact .fail _
  · exact Keeps.state.bind fun _ => (Keeps.check _).bind fun _ => keeps_insertItemEvidence
  · exact .pure _
  · exact .pure _

theorem curated_decideEvidence {request : DecideEvidenceV1Request} :
    Keeps Curated (decideEvidence services request) := by
  intro t t' outcome h hrun
  rw [decideEvidence, state_bind] at hrun
  refine curated_of_advance (fun revision => ?_) h hrun
  refine (Keeps.update fun s hs => hs.congr rfl rfl rfl).bind fun _ => ?_
  refine keeps_assignEvidence.bind fun _ => Keeps.state.bind fun _ =>
    (Keeps.rejectIf _ _).bind fun _ => ?_
  · refine (Keeps.update fun s hs => hs.congr rfl rfl rfl).bind fun _ => ?_
    exact (keeps_appendDecision (h.captured _ _)).bind fun _ => Keeps.state.bind fun _ =>
      (Keeps.check _).bind fun _ => .pure _

theorem curated_mergeItems {request : MergeItemsV1Request}
    (haccepted : request.targetAttributes.validate = .ok ()) :
    Keeps Curated (mergeItems services request) := by
  intro t t' outcome h hrun
  rw [mergeItems, state_bind, Fallible.check_bind_eq_ok] at hrun
  obtain ⟨_, -, hrun⟩ := hrun
  refine curated_of_advance (fun revision => ?_) h hrun
  refine (Keeps.update fun s hs => hs.upsertItem haccepted).bind fun _ => ?_
  refine (Keeps.update fun s hs => ?_).bind fun _ => (Keeps.update fun s hs => ?_).bind fun _ => ?_
  · exact curatedAt_foldl (fun _ _ _ h => h.deactivateItem) hs
  · exact curatedAt_foldl (fun _ _ _ h => h.congr rfl rfl rfl) hs
  · exact (keeps_appendDecision (h.captured _ _)).bind fun _ => Keeps.state.bind fun _ =>
      (Keeps.check _).bind fun _ => .pure _

theorem keeps_splitGroups {entries : List (ItemId × SplitGroupV1)}
    (haccepted : ∀ entry ∈ entries, entry.2.attributes.validate = .ok ()) :
    Keeps (CuratedAt revision) (forEach (splitGroup revision) entries) := by
  induction entries with
  | nil => exact .pure []
  | cons entry rest ih =>
    obtain ⟨hfirst, hrest⟩ := List.forall_mem_cons.mp haccepted
    refine bind ?_ fun _ => (ih hrest).bind fun _ => .pure _
    refine (update fun s hs => hs.upsertItem hfirst).bind fun _ => ?_
    exact (forEach (fun _ => keeps_insertItemEvidence) _).bind fun _ => .pure _

theorem curated_splitItem {request : SplitItemV1Request}
    (haccepted : ∀ group ∈ request.groups, group.attributes.validate = .ok ()) :
    Keeps Curated (splitItem services request) := by
  intro t t' outcome h hrun
  rw [splitItem, state_bind, require_bind_eq_ok] at hrun
  obtain ⟨-, hrun⟩ := hrun
  simp only [rejectIf_bind_eq_ok] at hrun
  refine curated_of_advance (fun revision => ?_) h hrun.2
  refine (Keeps.update fun s hs => hs.congr rfl rfl rfl).bind fun _ => ?_
  refine (keeps_splitGroups fun entry hentry => ?_).bind fun _ => ?_
  · exact haccepted _ (List.of_mem_zip hentry).2
  · exact (keeps_appendDecision (h.captured _ _)).bind fun _ => Keeps.state.bind fun _ =>
      (Keeps.check _).bind fun _ => .pure _

theorem curated_undoDecision {request : UndoDecisionV1Request} :
    Keeps Curated (undoDecision services request) := by
  intro t t' outcome h hrun
  rw [undoDecision, state_bind] at hrun
  cases hrow : t.decisions.find? request.decisionId with
  | none =>
    rw [hrow] at hrun
    cases hrun
  | some row =>
    rw [hrow] at hrun
    simp only [undoRow, state_bind, rejectIf_bind_eq_ok] at hrun
    obtain ⟨-, -, -, hrun⟩ := hrun
    cases hsnapshot : row.inverse with
    | none =>
      rw [hsnapshot] at hrun
      cases hrun
    | some snapshot =>
      rw [hsnapshot] at hrun
      refine curated_of_advance (fun revision => ?_) h hrun
      refine (keeps_restoreProjection (h.stored _ _ _ hrow hsnapshot)).bind fun _ => ?_
      exact (keeps_appendDecision (h.captured _ _)).bind fun _ => Keeps.state.bind fun _ =>
        (Keeps.check _).bind fun _ => .pure _

theorem curated_mutate {command : CatalogCommand} (haccepted : command.Accepted) :
    Keeps Curated (command.mutate services) := by
  cases command with
  | save request => exact curated_saveItem haccepted
  | decide request => exact curated_decideEvidence
  | merge request => exact curated_mergeItems haccepted
  | split request => exact curated_splitItem haccepted
  | undo request => exact curated_undoDecision

/-! ## Steps -/

theorem keeps_promotion (haccepted : promotion.attributes.validate = .ok ()) :
    Keeps (CuratedAt revision) (do
      insertRow CatalogTables.items (fun table t => { t with items := table }) promotion.itemId
        ⟨promotion.attributes, true, revision, revision⟩
      let t ← Fallible.state
      Fallible.rejectIf .sqlite (t.sources.find? promotion.sourceId).isNone
      insertRow CatalogTables.evidence (fun table t => { t with evidence := table })
        promotion.evidenceId
        ⟨promotion.sourceId, .receiptPurchaseUnit, .assigned, promotion.nowMs⟩
      insertItemEvidence promotion.itemId revision promotion.evidenceId
      insertDecision promotion.decisionId
        ⟨promotion.requestId, .promoteReceiptPurchaseUnit, revision, none, none⟩
      insertEntity promotion.decisionId (.item promotion.itemId)
      insertEntity promotion.decisionId (.evidence promotion.evidenceId)
      storeReceipt "promote_receipt_purchase_unit_v1" promotion.requestId promotion.envelope
        .other) := by
  refine Keeps.bind ?_ fun _ => Keeps.state.bind fun t => (Keeps.rejectIf _ _).bind fun _ => ?_
  · exact keeps_insertRow fun s hs => hs.put haccepted rfl
  refine Keeps.bind ?_ fun _ => keeps_insertItemEvidence.bind fun _ => Keeps.bind ?_ fun _ =>
    keeps_insertEntity.bind fun _ => keeps_insertEntity.bind fun _ => keeps_storeReceipt
  · exact keeps_insertRow fun s hs => hs.congr rfl rfl rfl
  · -- a promotion's decision restores nothing
    exact keeps_insertDecision fun snapshot hsnapshot => nomatch hsnapshot

theorem curated_promote (haccepted : promotion.attributes.validate = .ok ()) :
    Keeps Curated (promoteReceiptPurchaseUnit promotion) := by
  intro t t' u h hrun
  rw [promoteReceiptPurchaseUnit, atomically_eq_ok] at hrun
  refine curated_of_advance (fun revision => ?_) h hrun
  exact (update fun s hs => hs.congr rfl rfl rfl).bind fun _ => keeps_promotion haccepted

theorem curated_statement {statement : ImportStatement} : Keeps Curated statement.run := by
  have hsame : ∀ s s' : CatalogTables, Curated s → s'.items = s.items →
      s'.decisions = s.decisions → s'.catalogRevision = s.catalogRevision → Curated s' := by
    intro s s' hs hitems hdecisions hrevision
    exact ⟨by rw [hitems, hrevision]; exact hs.items, by rw [hdecisions]; exact hs.stored⟩
  cases statement with
  | recordSource sourceId row => exact .update fun s hs => hsame _ _ hs rfl rfl rfl
  | recordQuarantine quarantineId row =>
    exact Keeps.state.bind fun _ => (Keeps.rejectIf _ _).bind fun _ =>
      .update fun s hs => hsame _ _ hs rfl rfl rfl
  | ensureEvidence evidenceId sourceId kind createdAtMs =>
    exact Keeps.state.bind fun _ => (Keeps.rejectIf _ _).bind fun _ =>
      .update fun s hs => hsame _ _ hs rfl rfl rfl
  | bumpEvidenceGeneration => exact .update fun s hs => hsame _ _ hs rfl rfl rfl
  | storeResponse requestId name envelope =>
    intro s s' u hs hrun
    rw [ImportStatement.run, storeReceipt, insertRow_eq_ok] at hrun
    obtain ⟨-, rfl⟩ := hrun
    exact hsame _ _ hs rfl rfl rfl

inductive AcceptedStep (services : CatalogServices) (t t' : CatalogTables) : Prop
  | command (command : CatalogCommand) (accepted : command.Accepted)
      (result : Except PlatformError MutationResponse)
      (run : command.execute services t = (result, t'))
  | imported (statements : List ImportStatement) (result : Except PlatformError PUnit)
      (run : importTransaction statements t = (result, t'))
  | promoted (promotion : CatalogPromotion) (accepted : promotion.attributes.validate = .ok ())
      (result : Except PlatformError PUnit)
      (run : promoteReceiptPurchaseUnit promotion t = (result, t'))

theorem AcceptedStep.step (h : AcceptedStep services t t') : Step services t t' := by
  cases h with
  | command command _ result run => exact .command command result run
  | imported statements result run => exact .imported statements result run
  | promoted promotion _ result run => exact .promoted promotion result run

/-- **Every step keeps what items carry.** -/
theorem AcceptedStep.curated (h : AcceptedStep services t t') (hcurated : Curated t) :
    Curated t' := by
  cases h with
  | command command accepted result run =>
    cases result with
    | error e => exact execute_of_error run ▸ hcurated
    | ok response =>
      obtain rfl | hcreates := execute_eq_ok run
      · exact hcurated
      · obtain ⟨outcome, t₁, hmutate, rfl, rfl⟩ := hcreates.mutation
        have hmutated := curated_mutate accepted _ _ _ hcurated hmutate
        exact ⟨hmutated.items, hmutated.stored⟩
  | imported statements result run =>
    cases result with
    | error e => exact atomically_of_error run ▸ hcurated
    | ok u =>
      have hkeeps : Keeps Curated (importTransaction statements) :=
        atomically ((forEach (fun _ => curated_statement) _).bind fun _ => .pure _)
      exact hkeeps _ _ _ hcurated run
  | promoted promotion accepted result run =>
    cases result with
    | error e => exact atomically_of_error run ▸ hcurated
    | ok u => exact curated_promote accepted _ _ _ hcurated run

end Threadbook.Catalog
