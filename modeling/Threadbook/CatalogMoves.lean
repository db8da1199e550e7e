import Threadbook.CatalogRepository
import Threadbook.PartialUndo

/-!
# What each command does to the catalog

The items, evidence states and links are a `Placement`, everything else is the `Ledger`. A
statement edits one of the two, and a command that succeeds changes the placement within the
items and the evidence it lists, and adds one decision to the ledger.
-/

namespace Threadbook.Catalog

open Table List Option Fallible
open Promotion (ItemAttributesV1 RequestId ReplayStatusV1)

abbrev CatalogPlacement := Placement ItemId EvidenceId ItemAttributesV1 EvidenceStateV1

def CatalogTables.placement (t : CatalogTables) : CatalogPlacement where
  item x := (t.items.find? x).map fun row => (row.attributes, row.active)
  state e := (t.evidence.find? e).map (·.state)
  link e := t.linkOf e

structure Ledger where
  catalogRevision : ℕ
  evidenceGeneration : ℕ
  sources : Table SourceId SourceRow
  quarantines : Table QuarantineId QuarantineRow
  decisions : Table DecisionId DecisionRow
  decisionEntities : Table (DecisionId × DecisionEntity) PUnit
  commandReceipts : Table RequestId CommandReceiptRow

def CatalogTables.ledger (t : CatalogTables) : Ledger :=
  ⟨t.catalogRevision, t.evidenceGeneration, t.sources, t.quarantines, t.decisions,
    t.decisionEntities, t.commandReceipts⟩

variable {services : CatalogServices} {t t' : CatalogTables}

/-! ## Statements -/

section Statements

variable {itemId target source : ItemId} {evidenceId : EvidenceId} {revision : ℕ}
  {attributes : ItemAttributesV1} {state : EvidenceStateV1}

theorem placement_upsertItem : (t.upsertItem itemId attributes revision).placement =
    t.placement.put itemId (attributes, true) := by
  refine Placement.ext (fun x => ?_) (fun _ => rfl) (fun _ => rfl)
  simp only [CatalogTables.placement, CatalogTables.upsertItem, Placement.put, find?_put]
  split <;> rfl

theorem placement_restoreItem {item : StoredItem} : (t.restoreItem item revision).placement =
    t.placement.put item.itemId (item.attributes, item.active) := by
  refine Placement.ext (fun x => ?_) (fun _ => rfl) (fun _ => rfl)
  simp only [CatalogTables.placement, CatalogTables.restoreItem, Placement.put, find?_put]
  split <;> rfl

theorem placement_deactivateItem : (t.deactivateItem itemId revision).placement =
    t.placement.deactivate itemId := by
  refine Placement.ext (fun x => ?_) (fun _ => rfl) (fun _ => rfl)
  simp only [CatalogTables.placement, CatalogTables.deactivateItem, Placement.deactivate,
    find?_modify]
  split
  · rw [Option.map_map, Option.map_map]
    rfl
  · rfl

theorem placement_deleteItemEvidenceByItem : (t.deleteItemEvidenceByItem itemId).placement =
    t.placement.clear itemId := by
  refine Placement.ext (fun _ => rfl) (fun _ => rfl) (fun e => ?_)
  simp only [CatalogTables.placement, CatalogTables.deleteItemEvidenceByItem,
    Placement.clear, CatalogTables.linkOf, find?_deleteWhere]
  cases t.itemEvidence.find? e with
  | none => rfl
  | some link => by_cases h : link.itemId = itemId <;> simp [h, filter_some]

theorem placement_deleteItemEvidenceByEvidence :
    (t.deleteItemEvidenceByEvidence evidenceId).placement = t.placement.unlink evidenceId := by
  refine Placement.ext (fun _ => rfl) (fun _ => rfl) (fun e => ?_)
  simp only [CatalogTables.placement, CatalogTables.deleteItemEvidenceByEvidence,
    Placement.unlink, CatalogTables.linkOf, find?_delete]
  split <;> rfl

theorem placement_moveItemEvidence : (t.moveItemEvidence target source revision).placement =
    t.placement.moveAll target source := by
  refine Placement.ext (fun _ => rfl) (fun _ => rfl) (fun e => ?_)
  simp only [CatalogTables.placement, CatalogTables.moveItemEvidence, Placement.moveAll,
    CatalogTables.linkOf, find?_mapRows]
  cases t.itemEvidence.find? e with
  | none => rfl
  | some link => by_cases h : link.itemId = source <;> simp [LinkRow.moved, h]

theorem placement_setEvidenceState : (t.setEvidenceState state evidenceId).placement =
    t.placement.mark state evidenceId := by
  refine Placement.ext (fun _ => rfl) (fun e => ?_) (fun _ => rfl)
  simp only [CatalogTables.placement, CatalogTables.setEvidenceState, Placement.mark,
    find?_modify]
  split
  · rw [Option.map_map, Option.map_map]
    rfl
  · rfl

theorem placement_foldl {β : Type} {f : CatalogTables → β → CatalogTables}
    {g : CatalogPlacement → β → CatalogPlacement}
    (hf : ∀ t b, (f t b).placement = g t.placement b) (l : List β) (t : CatalogTables) :
    (l.foldl f t).placement = l.foldl g t.placement := by
  induction l generalizing t with
  | nil => rfl
  | cons b rest ih => rw [foldl_cons, foldl_cons, ih, hf]

theorem ledger_foldl {β : Type} {f : CatalogTables → β → CatalogTables}
    (hf : ∀ t b, (f t b).ledger = t.ledger) (l : List β) (t : CatalogTables) :
    (l.foldl f t).ledger = t.ledger := by
  induction l generalizing t with
  | nil => rfl
  | cons b rest ih => rw [foldl_cons, ih, hf]

section Insert

variable {κ ρ : Type} [DecidableEq κ] {table : CatalogTables → Table κ ρ}
  {store : Table κ ρ → CatalogTables → CatalogTables} {key : κ} {row : ρ}

theorem insertRow_eq_ok {u : PUnit} :
    insertRow table store key row t = (.ok u, t') ↔
      (table t).find? key = none ∧ store ((table t).put key row) t = t' := by
  rw [insertRow, state_bind, rejectIf_bind_eq_ok, update_run]
  simp

theorem insertRow_bind_eq_ok {β : Type} {f : PUnit → CatalogTransaction β} {b : β} :
    (insertRow table store key row >>= f) t = (.ok b, t') ↔
      (table t).find? key = none ∧ f ⟨⟩ (store ((table t).put key row) t) = (.ok b, t') := by
  rw [bind_eq_ok]
  refine ⟨?_, fun ⟨hnew, h⟩ => ⟨⟨⟩, _, insertRow_eq_ok.mpr ⟨hnew, rfl⟩, h⟩⟩
  rintro ⟨⟨⟩, t₁, hinsert, h⟩
  obtain ⟨hnew, rfl⟩ := insertRow_eq_ok.mp hinsert
  exact ⟨hnew, h⟩

end Insert

theorem insertItemEvidence_eq_ok {u : PUnit}
    (h : insertItemEvidence itemId revision evidenceId t = (.ok u, t')) :
    (t.placement.item itemId).isSome ∧ (t.placement.state evidenceId).isSome ∧
      t.placement.link evidenceId = none ∧
      t'.placement = t.placement.place evidenceId itemId ∧ t'.ledger = t.ledger := by
  rw [insertItemEvidence, state_bind, rejectIf_bind_eq_ok, insertRow_eq_ok, not_or] at h
  obtain ⟨⟨hitem, hevidence⟩, hnew, rfl⟩ := h
  refine ⟨?_, ?_, ?_, ?_, rfl⟩
  · rw [CatalogTables.placement, isSome_map]
    exact isSome_iff_ne_none.mpr fun hnone => hitem (isNone_iff_eq_none.mpr hnone)
  · rw [CatalogTables.placement, isSome_map]
    exact isSome_iff_ne_none.mpr fun hnone =>
      hevidence (isNone_iff_eq_none.mpr hnone)
  · simp only [CatalogTables.placement, CatalogTables.linkOf, hnew, map_none]
  · refine Placement.ext (fun _ => rfl) (fun _ => rfl) (fun e => ?_)
    simp only [CatalogTables.placement, Placement.place, CatalogTables.linkOf, find?_put]
    split <;> rfl

theorem advanceRevision_bind_eq_ok {β : Type} {expected : ℕ} {f : ℕ → CatalogTransaction β}
    {b : β} :
    (advanceRevision expected >>= f) t = (.ok b, t') ↔ t.catalogRevision = expected ∧
      f (expected + 1) { t with catalogRevision := t.catalogRevision + 1 } = (.ok b, t') := by
  have hadvance : ∀ r t₁, advanceRevision expected t = (.ok r, t₁) ↔
      t.catalogRevision = expected ∧ expected + 1 = r ∧
        { t with catalogRevision := t.catalogRevision + 1 } = t₁ := by
    intro r t₁
    rw [advanceRevision, state_bind, rejectIf_bind_eq_ok, update_bind, pure_run, not_not]
    simp
  rw [bind_eq_ok]
  refine ⟨?_, fun ⟨hrevision, h⟩ => ⟨_, _, (hadvance _ _).mpr ⟨hrevision, rfl, rfl⟩, h⟩⟩
  rintro ⟨r, t₁, hr, h⟩
  obtain ⟨hrevision, rfl, rfl⟩ := (hadvance r t₁).mp hr
  exact ⟨hrevision, h⟩

end Statements

/-! ## Decisions -/

variable {decisionId : DecisionId} {entity : ReceiptUuidId → DecisionEntity}
  {compensates : Option DecisionId} {evidenceIds : List EvidenceId}

theorem insertDecision_eq_ok {row : DecisionRow} {u : PUnit}
    (h : insertDecision decisionId row t = (.ok u, t')) :
    t.decisions.find? decisionId = none ∧
      (∀ id other, t.decisions.find? id = some other →
        other.requestId ≠ row.requestId ∧ other.catalogRevision ≠ row.catalogRevision) ∧
      t' = { t with decisions := t.decisions.put decisionId row } := by
  rw [insertDecision, state_bind, rejectIf_bind_eq_ok, rejectIf_bind_eq_ok, insertRow_eq_ok] at h
  obtain ⟨htaken, -, hnew, rfl⟩ := h
  refine ⟨hnew, ?_, rfl⟩
  intro id other hother
  refine ⟨?_, ?_⟩
  · intro heq
    exact htaken (any_eq_true.mpr ⟨(id, other), mem_rows.mpr hother, by simp [heq]⟩)
  · intro heq
    exact htaken (any_eq_true.mpr ⟨(id, other), mem_rows.mpr hother, by simp [heq]⟩)

structure Names (decisionId : DecisionId) (entities : List DecisionEntity)
    (t t' : CatalogTables) : Prop where
  rest : t' = { t with decisionEntities := t'.decisionEntities }
  named : ∀ entity ∈ entities, (t'.decisionEntities.find? (decisionId, entity)).isSome
  kept : ∀ key, (t.decisionEntities.find? key).isSome → (t'.decisionEntities.find? key).isSome
  new : ∀ key, (t'.decisionEntities.find? key).isSome →
    (t.decisionEntities.find? key).isSome ∨ ∃ entity ∈ entities, key = (decisionId, entity)

theorem Names.trans {first second : List DecisionEntity} {t t₁ t' : CatalogTables}
    (hfirst : Names decisionId first t t₁) (hsecond : Names decisionId second t₁ t') :
    Names decisionId (first ++ second) t t' where
  rest := by
    rw [hsecond.rest, hfirst.rest]
  named entity hmem := by
    cases mem_append.mp hmem with
    | inl hmem => exact hsecond.kept _ (hfirst.named entity hmem)
    | inr hmem => exact hsecond.named entity hmem
  kept key hkey := hsecond.kept key (hfirst.kept key hkey)
  new key hkey := by
    cases hsecond.new key hkey with
    | inl hkey =>
      cases hfirst.new key hkey with
      | inl hkey => exact .inl hkey
      | inr hnew =>
        obtain ⟨entity, hmem, heq⟩ := hnew
        exact .inr ⟨entity, mem_append_left _ hmem, heq⟩
    | inr hnew =>
      obtain ⟨entity, hmem, heq⟩ := hnew
      exact .inr ⟨entity, mem_append_right _ hmem, heq⟩

theorem names_insertEntity {entity : DecisionEntity} {u : PUnit}
    (h : insertEntity decisionId entity t = (.ok u, t')) : Names decisionId [entity] t t' := by
  rw [insertEntity, insertRow_eq_ok] at h
  obtain ⟨-, rfl⟩ := h
  refine ⟨rfl, ?_, ?_, ?_⟩
  · intro other hmem
    rw [mem_singleton.mp hmem, find?_put, if_pos rfl]
    rfl
  · intro key hkey
    rw [find?_put]
    split
    · rfl
    · exact hkey
  · intro key hkey
    rw [find?_put] at hkey
    split at hkey
    · rename_i heq
      exact .inr ⟨entity, mem_singleton.mpr rfl, heq⟩
    · exact .inl hkey

theorem names_forEach {ids : List ReceiptUuidId} {us : List PUnit}
    (h : forEach (fun id => insertEntity decisionId (entity id)) ids t = (.ok us, t')) :
    Names decisionId (ids.map entity) t t' := by
  induction ids generalizing t us with
  | nil =>
    obtain rfl := (Prod.mk.inj h).2
    exact ⟨rfl, by simp, fun _ hkey => hkey, fun _ hkey => .inl hkey⟩
  | cons id rest ih =>
    obtain ⟨u, t₁, vs, hfirst, hrest, rfl⟩ := forEach_cons_eq_ok.mp h
    exact (names_insertEntity hfirst).trans (ih hrest)

theorem forEach_insertEntity_nodup {ids : List ReceiptUuidId} {us : List PUnit}
    (h : forEach (fun id => insertEntity decisionId (entity id)) ids t = (.ok us, t')) :
    ids.Nodup ∧ ∀ id ∈ ids, t.decisionEntities.find? (decisionId, entity id) = none := by
  induction ids generalizing t us with
  | nil => exact ⟨nodup_nil, by simp⟩
  | cons id rest ih =>
    obtain ⟨u, t₁, vs, hfirst, hrest, rfl⟩ := forEach_cons_eq_ok.mp h
    rw [insertEntity, insertRow_eq_ok] at hfirst
    obtain ⟨hnew, rfl⟩ := hfirst
    obtain ⟨hnodup, hothers⟩ := ih hrest
    have hother : ∀ other ∈ rest, other ≠ id ∧
        t.decisionEntities.find? (decisionId, entity other) = none := by
      intro other hmem
      have hnone := hothers other hmem
      rw [find?_put] at hnone
      split at hnone
      · cases hnone
      · rename_i hne
        exact ⟨fun heq => hne (by rw [heq]), hnone⟩
    refine ⟨nodup_cons.mpr ⟨fun hmem => (hother id hmem).1 rfl, hnodup⟩, ?_⟩
    rw [forall_mem_cons]
    exact ⟨hnew, fun other hmem => (hother other hmem).2⟩

structure Appends (decisionId : DecisionId) (row : DecisionRow) (entities : List DecisionEntity)
    (before after : Ledger) : Prop where
  catalogRevision : after.catalogRevision = before.catalogRevision + 1
  evidenceGeneration : after.evidenceGeneration = before.evidenceGeneration
  sources : after.sources = before.sources
  quarantines : after.quarantines = before.quarantines
  commandReceipts : after.commandReceipts = before.commandReceipts
  decision_new : before.decisions.find? decisionId = none
  request_new : ∀ id other, before.decisions.find? id = some other →
    other.requestId ≠ row.requestId
  decisions : after.decisions = before.decisions.put decisionId row
  row_revision : row.catalogRevision = before.catalogRevision + 1
  named : ∀ entity ∈ entities, (after.decisionEntities.find? (decisionId, entity)).isSome
  entities_kept : ∀ key, (before.decisionEntities.find? key).isSome →
    (after.decisionEntities.find? key).isSome
  entities_new : ∀ key, (after.decisionEntities.find? key).isSome →
    (before.decisionEntities.find? key).isSome ∨ ∃ entity ∈ entities, key = (decisionId, entity)

def decisionRow (requestId : RequestId) (kind : StoredKind) (revision : ℕ)
    (inverse : ProjectionSnapshot) (compensates : Option DecisionId) : DecisionRow :=
  ⟨requestId, kind, revision, some inverse, compensates⟩

def entitiesOf (itemIds : List ItemId) (evidenceIds : List EvidenceId) : List DecisionEntity :=
  itemIds.map DecisionEntity.item ++ evidenceIds.map DecisionEntity.evidence

/-- **Appending a decision** leaves items and evidence alone. `t₀` is the state before the
revision was advanced. -/
theorem appendDecision_eq_ok {t₀ : CatalogTables} {requestId : RequestId} {kind : StoredKind}
    {expected : ℕ} {inverse : ProjectionSnapshot} {itemIds : List ItemId}
    {decision : DecisionSnapshotV1} (hexpected : t₀.catalogRevision = expected)
    (hledger : t.ledger = { t₀.ledger with catalogRevision := t₀.catalogRevision + 1 })
    (h : appendDecision services requestId kind (expected + 1) inverse compensates itemIds
      evidenceIds t = (.ok decision, t')) :
    decision = ⟨decisionIdOf services requestId, kind.snapshot, itemIds, evidenceIds, compensates,
        true⟩ ∧
      t'.placement = t.placement ∧
      Appends (decisionIdOf services requestId)
        (decisionRow requestId kind (t₀.catalogRevision + 1) inverse compensates)
        (entitiesOf itemIds evidenceIds) t₀.ledger t'.ledger := by
  simp only [appendDecision, bind_eq_ok, pure_run] at h
  obtain ⟨⟨⟩, t₁, hinsert, us, t₂, hitems, vs, t₃, hevidence, h⟩ := h
  obtain ⟨hdecision, rfl⟩ := Prod.mk.inj h
  obtain ⟨hnew, hother, rfl⟩ := insertDecision_eq_ok hinsert
  have hnames := (names_forEach hitems).trans (names_forEach hevidence)
  subst hexpected
  have hrevision : t.catalogRevision = t₀.catalogRevision + 1 :=
    congrArg Ledger.catalogRevision hledger
  have hgeneration : t.evidenceGeneration = t₀.evidenceGeneration :=
    congrArg Ledger.evidenceGeneration hledger
  have hsources : t.sources = t₀.sources := congrArg Ledger.sources hledger
  have hquarantines : t.quarantines = t₀.quarantines := congrArg Ledger.quarantines hledger
  have hdecisions : t.decisions = t₀.decisions := congrArg Ledger.decisions hledger
  have hentities : t.decisionEntities = t₀.decisionEntities :=
    congrArg Ledger.decisionEntities hledger
  have hreceipts : t.commandReceipts = t₀.commandReceipts :=
    congrArg Ledger.commandReceipts hledger
  refine ⟨(Except.ok.inj hdecision).symm, ?_, ?_⟩
  · rw [hnames.rest]
    rfl
  · have hkept := hnames.kept
    have hentries := hnames.new
    simp only [hentities] at hkept hentries
    refine ⟨?_, ?_, ?_, ?_, ?_, ?_, ?_, ?_, rfl, hnames.named, hkept, hentries⟩
    · rw [hnames.rest]
      exact hrevision
    · rw [hnames.rest]
      exact hgeneration
    · rw [hnames.rest]
      exact hsources
    · rw [hnames.rest]
      exact hquarantines
    · rw [hnames.rest]
      exact hreceipts
    · rw [CatalogTables.ledger, ← hdecisions]
      exact hnew
    · intro id other hfind
      rw [CatalogTables.ledger, ← hdecisions] at hfind
      exact (hother id other hfind).1
    · rw [hnames.rest, CatalogTables.ledger, CatalogTables.ledger, ← hdecisions]
      rfl

theorem appendDecision_nodup {requestId : RequestId} {kind : StoredKind} {revision : ℕ}
    {inverse : ProjectionSnapshot} {itemIds : List ItemId} {decision : DecisionSnapshotV1}
    (h : appendDecision services requestId kind revision inverse compensates itemIds evidenceIds t =
      (.ok decision, t')) : itemIds.Nodup := by
  simp only [appendDecision, bind_eq_ok, pure_run] at h
  obtain ⟨⟨⟩, t₁, -, us, t₂, hitems, -⟩ := h
  exact (forEach_insertEntity_nodup hitems).1

end Threadbook.Catalog
