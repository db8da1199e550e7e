import Threadbook.CatalogEffects

/-!
# What an undo changes

An undo puts back what the decision's inverse captured. Where the inverse was captured from
earlier tables, what it leaves is the placement restored from theirs.
-/

namespace Threadbook.Catalog

open Fallible Option
open Promotion (ItemAttributesV1 RequestId ReplayStatusV1)

variable {services : CatalogServices} {t t' : CatalogTables}

/-! ## Captured rows -/

section Captured

variable {saved : CatalogTables} {itemIds : List ItemId} {evidenceIds : List EvidenceId}

theorem captured_item {item : StoredItem}
    (hmem : item ∈ (captureProjection saved itemIds evidenceIds).items) :
    item.itemId ∈ itemIds ∧
      saved.placement.item item.itemId = some (item.attributes, item.active) := by
  obtain ⟨x, hx, hrow⟩ := List.mem_filterMap.mp hmem
  obtain ⟨row, hfind, rfl⟩ := map_eq_some_iff.mp hrow
  refine ⟨hx, ?_⟩
  simp only [CatalogTables.placement, hfind, map_some]

theorem captured_any {x : ItemId} :
    ((captureProjection saved itemIds evidenceIds).items.any fun item => item.itemId = x) = true ↔
      x ∈ itemIds ∧ (saved.placement.item x).isSome := by
  rw [List.any_eq_true]
  refine ⟨?_, ?_⟩
  · rintro ⟨item, hmem, heq⟩
    obtain ⟨hnamed, hitem⟩ := captured_item hmem
    rw [of_decide_eq_true heq] at hnamed hitem
    rw [hitem]
    exact ⟨hnamed, rfl⟩
  · rintro ⟨hnamed, hitem⟩
    rw [CatalogTables.placement, isSome_map] at hitem
    obtain ⟨row, hrow⟩ := isSome_iff_exists.mp hitem
    refine ⟨⟨x, row.attributes, row.active, row.createdRevision, row.updatedRevision⟩,
      List.mem_filterMap.mpr ⟨x, hnamed, ?_⟩, decide_eq_true rfl⟩
    rw [hrow]
    rfl

theorem captured_evidence (hstored : ∀ e ∈ evidenceIds, (saved.placement.state e).isSome) :
    (captureProjection saved itemIds evidenceIds).evidence.map (·.evidenceId) = evidenceIds := by
  have hrows : ∀ l : List EvidenceId, (∀ e ∈ l, (saved.placement.state e).isSome) →
      (l.filterMap fun e => (saved.evidence.find? e).map fun row =>
        (⟨e, row.state, saved.linkOf e⟩ : StoredEvidence)).map (·.evidenceId) = l := by
    intro l hl
    induction l with
    | nil => rfl
    | cons e rest ih =>
      have he := hl e (.head _)
      rw [CatalogTables.placement, isSome_map] at he
      obtain ⟨row, hrow⟩ := isSome_iff_exists.mp he
      rw [List.filterMap_cons_some (by rw [hrow]; rfl), List.map_cons,
        ih fun f hf => hl f (.tail _ hf)]
  exact hrows evidenceIds hstored

theorem captured_state {stored : StoredEvidence}
    (hmem : stored ∈ (captureProjection saved itemIds evidenceIds).evidence) :
    saved.placement.state stored.evidenceId = some stored.state ∧
      saved.placement.link stored.evidenceId = stored.assignedItemId := by
  obtain ⟨e, -, hrow⟩ := List.mem_filterMap.mp hmem
  obtain ⟨row, hfind, rfl⟩ := map_eq_some_iff.mp hrow
  refine ⟨?_, rfl⟩
  simp only [CatalogTables.placement, hfind, map_some]

end Captured

/-! ## Restoring -/

section Loops

variable {saved : CatalogPlacement} {revision : ℕ}

def clearedItems (wasThere : ItemId → Bool) (revision : ℕ) (itemIds : List ItemId)
    (t : CatalogTables) : CatalogTables :=
  itemIds.foldl (fun t itemId =>
    if wasThere itemId then t.deleteItemEvidenceByItem itemId
    else (t.deleteItemEvidenceByItem itemId).deactivateItem itemId revision) t

theorem clearedItems_spec (wasThere : ItemId → Bool) (revision : ℕ) (itemIds : List ItemId)
    (t : CatalogTables) :
    (∀ x, (clearedItems wasThere revision itemIds t).placement.item x =
      if x ∈ itemIds ∧ wasThere x = false then
        (t.placement.item x).map fun i => (i.1, false) else t.placement.item x) ∧
      (clearedItems wasThere revision itemIds t).placement.state = t.placement.state ∧
      ∀ e, (clearedItems wasThere revision itemIds t).placement.link e =
        (t.placement.link e).filter fun x => x ∉ itemIds := by
  induction itemIds generalizing t with
  | nil =>
    refine ⟨fun x => (if_neg (by simp)).symm, rfl, fun e => ?_⟩
    cases hlink : t.placement.link e with
    | none => exact hlink
    | some x =>
      rw [filter_some, if_pos (by simp)]
      exact hlink
  | cons y rest ih =>
    obtain ⟨hitem, hstate, hlink⟩ := ih
      (if wasThere y then t.deleteItemEvidenceByItem y
        else (t.deleteItemEvidenceByItem y).deactivateItem y revision)
    have hfirst : (if wasThere y then t.deleteItemEvidenceByItem y
        else (t.deleteItemEvidenceByItem y).deactivateItem y revision).placement =
          if wasThere y then t.placement.clear y else (t.placement.clear y).deactivate y := by
      split
      · exact placement_deleteItemEvidenceByItem
      · rw [placement_deactivateItem, placement_deleteItemEvidenceByItem]
    rw [hfirst] at hitem hstate hlink
    rw [clearedItems, List.foldl_cons]
    refine ⟨?_, ?_, ?_⟩
    · intro x
      refine (hitem x).trans ?_
      cases hy : wasThere y with
      | true =>
        by_cases hx : x = y
        · simp [hx, hy]
        · simp [hx]
      | false =>
        by_cases hx : x = y
        · simp [hx, hy, Function.comp_def]
        · simp [hx]
    · refine hstate.trans ?_
      split <;> rfl
    · intro e
      refine (hlink e).trans ?_
      have hclear : (if wasThere y then t.placement.clear y
          else (t.placement.clear y).deactivate y).link e = (t.placement.clear y).link e := by
        split <;> rfl
      rw [hclear, Placement.clear_link, filter_filter]
      cases t.placement.link e with
      | none => rfl
      | some x => simp

def putItems (revision : ℕ) (items : List StoredItem) (t : CatalogTables) : CatalogTables :=
  items.foldl (fun t item => t.restoreItem item revision) t

theorem putItems_spec (revision : ℕ) (items : List StoredItem)
    (hitems : ∀ item ∈ items, saved.item item.itemId = some (item.attributes, item.active))
    (t : CatalogTables) :
    (∀ x, (putItems revision items t).placement.item x =
        if x ∈ items.map (·.itemId) then saved.item x else t.placement.item x) ∧
      (putItems revision items t).placement.state = t.placement.state ∧
      (putItems revision items t).placement.link = t.placement.link := by
  induction items generalizing t with
  | nil => exact ⟨fun x => (if_neg (by simp)).symm, rfl, rfl⟩
  | cons item rest ih =>
    obtain ⟨hitem, hstate, hlink⟩ := ih
      (fun other hmem => hitems other (.tail _ hmem))
      (t.restoreItem item revision)
    rw [placement_restoreItem] at hitem hstate hlink
    rw [putItems, List.foldl_cons]
    refine ⟨?_, hstate, hlink⟩
    intro x
    refine (hitem x).trans ?_
    rw [Placement.put_item]
    by_cases hx : x = item.itemId
    · simp [hx, hitems item (.head _)]
    · simp [hx]

/-- Put a captured piece of evidence back. -/
def restoreEvidence (revision : ℕ) (stored : StoredEvidence) : CatalogTransaction PUnit := do
  Fallible.update (CatalogTables.deleteItemEvidenceByEvidence stored.evidenceId)
  Fallible.update (CatalogTables.setEvidenceState stored.state stored.evidenceId)
  match stored.assignedItemId with
  | none => pure ⟨⟩
  | some itemId => insertItemEvidence itemId revision stored.evidenceId

theorem restoreEvidence_eq_ok {stored : StoredEvidence} {u : PUnit}
    (h : restoreEvidence revision stored t = (.ok u, t')) :
    t'.placement.item = t.placement.item ∧
      t'.placement.state = (t.placement.mark stored.state stored.evidenceId).state ∧
      (∀ e, t'.placement.link e =
        if e = stored.evidenceId then stored.assignedItemId else t.placement.link e) ∧
      t'.ledger = t.ledger := by
  rw [restoreEvidence, update_bind, update_bind] at h
  cases hassigned : stored.assignedItemId with
  | none =>
    rw [hassigned] at h
    obtain rfl := (Prod.mk.inj h).2
    rw [placement_setEvidenceState, placement_deleteItemEvidenceByEvidence]
    exact ⟨rfl, rfl, fun _ => rfl, rfl⟩
  | some itemId =>
    rw [hassigned] at h
    obtain ⟨-, -, -, hplacement, hledger⟩ := insertItemEvidence_eq_ok h
    rw [placement_setEvidenceState, placement_deleteItemEvidenceByEvidence] at hplacement
    rw [hplacement]
    refine ⟨rfl, rfl, ?_, hledger⟩
    intro e
    by_cases he : e = stored.evidenceId
    · simp [he]
    · simp [he]

theorem restoreEvidence_loop (evidence : List StoredEvidence)
    (hevidence : ∀ stored ∈ evidence, saved.state stored.evidenceId = some stored.state ∧
      saved.link stored.evidenceId = stored.assignedItemId)
    (hstored : ∀ stored ∈ evidence, (t.placement.state stored.evidenceId).isSome)
    {us : List PUnit}
    (h : forEach (restoreEvidence revision) evidence t = (.ok us, t')) :
    t'.placement.item = t.placement.item ∧
      (∀ e, t'.placement.state e =
        if e ∈ evidence.map (·.evidenceId) then saved.state e else t.placement.state e) ∧
      ∀ e, t'.placement.link e =
        if e ∈ evidence.map (·.evidenceId) then saved.link e else t.placement.link e := by
  induction evidence generalizing t us with
  | nil =>
    obtain rfl := (Prod.mk.inj h).2
    exact ⟨rfl, fun _ => rfl, fun _ => rfl⟩
  | cons stored rest ih =>
    obtain ⟨u, t₁, vs, hstep, hrest, rfl⟩ := forEach_cons_eq_ok.mp h
    obtain ⟨hsavedState, hsavedLink⟩ := hevidence stored (.head _)
    obtain ⟨hitem₁, hstate₁, hlink₁, -⟩ := restoreEvidence_eq_ok hstep
    have hmarked : ∀ e, t₁.placement.state e =
        if e = stored.evidenceId then saved.state e else t.placement.state e := by
      intro e
      obtain ⟨s, hs⟩ := isSome_iff_exists.mp (hstored stored (.head _))
      rw [hstate₁]
      by_cases he : e = stored.evidenceId
      · simp [he, hs, hsavedState]
      · simp [he]
    have hrestStored : ∀ other ∈ rest, (t₁.placement.state other.evidenceId).isSome := by
      intro other hmem
      rw [hmarked]
      split
      · rename_i heq
        rw [heq, hsavedState]
        rfl
      · exact hstored other (.tail _ hmem)
    obtain ⟨hitem, hstate, hlink⟩ := ih
      (fun other hmem => hevidence other (.tail _ hmem)) hrestStored hrest
    refine ⟨hitem.trans hitem₁, ?_, ?_⟩
    · intro e
      rw [hstate, hmarked]
      by_cases he : e = stored.evidenceId
      · simp [he]
      · simp [he]
    · intro e
      rw [hlink, hlink₁]
      by_cases he : e = stored.evidenceId
      · simp [he, hsavedLink]
      · simp [he]

end Loops

theorem restoreProjection_loops {snapshot : ProjectionSnapshot} {revision : ℕ} {u : PUnit}
    (h : restoreProjection snapshot revision t = (.ok u, t')) :
    ∃ us, forEach (restoreEvidence revision) snapshot.evidence
      (putItems revision snapshot.items (clearedItems
        (fun x => snapshot.items.any fun item => item.itemId = x) revision
          snapshot.affectedItemIds t)) = (.ok us, t') := by
  simp only [restoreProjection, update_bind, bind_eq_ok, pure_run] at h
  obtain ⟨us, t₁, hloop, h⟩ := h
  obtain rfl := (Prod.mk.inj h).2
  exact ⟨us, hloop⟩

theorem restoreProjection_ledger {snapshot : ProjectionSnapshot} {revision : ℕ} {u : PUnit}
    (h : restoreProjection snapshot revision t = (.ok u, t')) : t'.ledger = t.ledger := by
  obtain ⟨us, hloop⟩ := restoreProjection_loops h
  let Same : CatalogTables → CatalogTables → Prop := fun s s' => s'.ledger = s.ledger
  have htrans : ∀ a b c, Same a b → Same b c → Same a c := by
    intro a b c hab hbc
    exact Eq.trans hbc hab
  have hevidence := (forEach_visits (R := Same) (fun _ => rfl) htrans
    (fun stored _ u s s' hstep => (restoreEvidence_eq_ok hstep).2.2.2) hloop).1
  rw [hevidence, putItems, ledger_foldl (f := fun t item => t.restoreItem item revision)
    (fun _ _ => rfl)]
  apply ledger_foldl
  intro t x
  split <;> rfl

/-- **Restoring** an inverse that was captured from earlier tables puts their placement
back. -/
theorem restoreProjection_eq_ok {saved : CatalogTables} {itemIds : List ItemId}
    {evidenceIds : List EvidenceId} {revision : ℕ} {u : PUnit}
    (hsaved : ∀ e ∈ evidenceIds, (saved.placement.state e).isSome)
    (hstored : ∀ e ∈ evidenceIds, (t.placement.state e).isSome)
    (h : restoreProjection (captureProjection saved itemIds evidenceIds) revision t =
      (.ok u, t')) :
    t'.placement = Placement.restore saved.placement t.placement itemIds evidenceIds := by
  obtain ⟨us, hloop⟩ := restoreProjection_loops h
  let inverse := captureProjection saved itemIds evidenceIds
  let wasThere : ItemId → Bool := fun x => inverse.items.any fun item => item.itemId = x
  let cleared := clearedItems wasThere revision itemIds t
  obtain ⟨hitem₁, hstate₁, hlink₁⟩ := clearedItems_spec wasThere revision itemIds t
  obtain ⟨hitem₂, hstate₂, hlink₂⟩ := putItems_spec revision inverse.items
    (fun item hmem => (captured_item hmem).2) cleared
  have hids : inverse.evidence.map (·.evidenceId) = evidenceIds := captured_evidence hsaved
  have hput : ∀ stored ∈ inverse.evidence,
      ((putItems revision inverse.items cleared).placement.state stored.evidenceId).isSome := by
    intro stored hmem
    rw [hstate₂, hstate₁]
    apply hstored
    rw [← hids]
    exact List.mem_map_of_mem hmem
  obtain ⟨hitem₃, hstate₃, hlink₃⟩ := restoreEvidence_loop inverse.evidence
    (fun stored hmem => captured_state hmem) hput hloop
  rw [hids] at hstate₃ hlink₃
  refine Placement.ext ?_ ?_ ?_
  · intro x
    rw [hitem₃, hitem₂, hitem₁]
    have hany : x ∈ inverse.items.map (·.itemId) ↔ wasThere x = true := by
      simp [wasThere, List.any_eq_true]
    have hcaptured : wasThere x = true ↔ x ∈ itemIds ∧ (saved.placement.item x).isSome :=
      captured_any
    by_cases hx : x ∈ itemIds
    · rw [Placement.restore_item_of_mem hx]
      cases hsome : saved.placement.item x with
      | some i => rw [if_pos (hany.mpr (hcaptured.mpr ⟨hx, by rw [hsome]; rfl⟩))]
      | none =>
        have hnot : ¬ wasThere x = true := by
          intro hwas
          have hthere := (hcaptured.mp hwas).2
          rw [hsome] at hthere
          cases hthere
        rw [if_neg (fun hmem => hnot (hany.mp hmem)),
          if_pos ⟨hx, Bool.not_eq_true _ |>.mp hnot⟩]
    · rw [Placement.restore_item_of_not_mem hx,
        if_neg (fun hmem => hx (hcaptured.mp (hany.mp hmem)).1), if_neg (fun h => hx h.1)]
  · intro e
    rw [hstate₃, hstate₂, hstate₁]
    by_cases he : e ∈ evidenceIds
    · rw [if_pos he, Placement.restore_state_of_mem he]
    · rw [if_neg he, Placement.restore_state_of_not_mem he]
  · intro e
    rw [hlink₃, hlink₂, hlink₁]
    by_cases he : e ∈ evidenceIds
    · rw [if_pos he, Placement.restore_link_of_mem he]
    · rw [if_neg he, Placement.restore_link_of_not_mem he]
      cases t.placement.link e with
      | none => rfl
      | some x => simp

variable {outcome : MutationOutcome}

/-- **What an undo leaves**: the items and the evidence of the decision's inverse are restored.
It is of the decision at the caller's revision, which is reversible. -/
theorem undoDecision_run {request : UndoDecisionV1Request}
    (h : undoDecision services request t = (.ok outcome, t')) :
    ∃ row snapshot t₁, t.decisions.find? request.decisionId = some row ∧
      row.kind ≠ .promoteReceiptPurchaseUnit ∧ row.catalogRevision = t.catalogRevision ∧
      row.inverse = some snapshot ∧
      Decides services (.undo request) .undo (some request.decisionId)
        (snapshot.evidence.map (·.evidenceId)) t t' outcome ∧
      restoreProjection snapshot (t.catalogRevision + 1)
        { t with catalogRevision := t.catalogRevision + 1 } = (.ok ⟨⟩, t₁) ∧
      t'.placement = t₁.placement ∧
      ∃ items, restoredItems t' snapshot.affectedItemIds = .ok items ∧
        outcome.content = .items items := by
  rw [undoDecision, state_bind] at h
  cases hrow : t.decisions.find? request.decisionId with
  | none =>
    rw [hrow] at h
    cases h
  | some row =>
    rw [hrow] at h
    simp only [undoRow, state_bind, rejectIf_bind_eq_ok] at h
    obtain ⟨hkind, hhead, -, h⟩ := h
    cases hinverse : row.inverse with
    | none =>
      rw [hinverse] at h
      cases h
    | some snapshot =>
      simp only [hinverse, advanceRevision_bind_eq_ok] at h
      obtain ⟨hexpected, h⟩ := h
      obtain ⟨⟨⟩, t₁, hrestore, h⟩ := bind_eq_ok.mp h
      obtain ⟨decision, t₂, happend, h⟩ := bind_eq_ok.mp h
      simp only [state_bind, Fallible.check_bind_eq_ok, pure_run] at h
      obtain ⟨items, hitems, h⟩ := h
      obtain ⟨houtcome, rfl⟩ := Prod.mk.inj h
      cases houtcome
      have hnodup := appendDecision_nodup happend
      obtain ⟨rfl, hplacement, happends⟩ := appendDecision_eq_ok hexpected
        (restoreProjection_ledger hrestore) happend
      have hlisted : inverseOf t request.decisionId = some snapshot := by
        rw [inverseOf, hrow, bind_some, hinverse]
      have hitemIds : (CatalogCommand.undo request).listedItems services t =
          snapshot.affectedItemIds := by
        rw [CatalogCommand.listedItems, hlisted, map_some, getD_some]
      have hevidenceIds : (CatalogCommand.undo request).listedEvidence services t =
          snapshot.evidence.map (·.evidenceId) := by
        rw [CatalogCommand.listedEvidence, hlisted, map_some, getD_some]
      refine ⟨row, snapshot, t₁, rfl, hkind, ?_, hinverse, ⟨hexpected, ?_, ?_, ?_, ?_⟩, ?_,
        hplacement, items, hitems, rfl⟩
      · rw [not_not.mp hhead, hexpected]
      · rw [hitemIds]
        rfl
      · rw [hexpected]
      · rwa [hitemIds]
      · rw [hitemIds, hevidenceIds]
        exact happends
      · rw [hexpected] at hrestore ⊢
        exact hrestore

theorem undoDecision_eq_ok {request : UndoDecisionV1Request}
    (h : undoDecision services request t = (.ok outcome, t')) :
    Records services (.undo request) t t' outcome ∧
      ∃ row snapshot t₁, t.decisions.find? request.decisionId = some row ∧
        row.kind ≠ .promoteReceiptPurchaseUnit ∧ row.catalogRevision = t.catalogRevision ∧
        row.inverse = some snapshot ∧
        restoreProjection snapshot (t.catalogRevision + 1)
          { t with catalogRevision := t.catalogRevision + 1 } = (.ok ⟨⟩, t₁) ∧
        t'.placement = t₁.placement := by
  obtain ⟨row, snapshot, t₁, hrow, hkind, hhead, hinverse, hdecides, hrestore, hplacement, -⟩ :=
    undoDecision_run h
  exact ⟨hdecides.records (fun hundo => nomatch hundo), row, snapshot, t₁, hrow, hkind, hhead,
    hinverse, hrestore, hplacement⟩

section Placements

variable {saved after : CatalogTables} {itemIds : List ItemId} {evidenceIds : List EvidenceId}
  {request : UndoDecisionV1Request}

theorem listed_undo (services : CatalogServices)
    (hsaved : ∀ e ∈ evidenceIds, (saved.placement.state e).isSome)
    (hinverse : inverseOf t request.decisionId =
      some (captureProjection saved itemIds evidenceIds)) :
    (CatalogCommand.undo request).listedItems services t = itemIds ∧
      (CatalogCommand.undo request).listedEvidence services t = evidenceIds := by
  simp only [CatalogCommand.listedItems, CatalogCommand.listedEvidence, hinverse,
    map_some, getD_some, captured_evidence hsaved]
  exact ⟨rfl, trivial⟩

/-- **What an undo leaves**: where nothing but new evidence came after the undone decision, the
placement before that decision is restored, and nothing that the decision did not list
changes but for links to the items it listed. -/
theorem undoDecision_placement (hlinked : saved.placement.Linked)
    (hchange : saved.placement.Change after.placement itemIds evidenceIds)
    (hextends : Placement.Extends .unresolved after.placement t.placement)
    (hinverse : inverseOf t request.decisionId = some (captureProjection saved itemIds evidenceIds))
    (h : undoDecision services request t = (.ok outcome, t')) :
    t'.placement = Placement.restore saved.placement t.placement itemIds evidenceIds ∧
      ChangesListed services (.undo request) t t' := by
  obtain ⟨-, row, snapshot, t₁, hrow, -, -, hsnapshot, hrestore, hplacement⟩ :=
    undoDecision_eq_ok h
  have heq : snapshot = captureProjection saved itemIds evidenceIds := by
    rw [inverseOf, hrow, bind_some, hsnapshot] at hinverse
    exact some.inj hinverse
  subst heq
  have hstored : ∀ e ∈ evidenceIds, (t.placement.state e).isSome := by
    intro e he
    obtain ⟨s, hs⟩ := isSome_iff_exists.mp
      (hchange.state_kept e (hchange.stored e he))
    rw [hextends.state_kept e s hs]
    rfl
  have hrestored : t'.placement =
      Placement.restore saved.placement t.placement itemIds evidenceIds :=
    hplacement.trans (restoreProjection_eq_ok
      (t := { t with catalogRevision := t.catalogRevision + 1 }) hchange.stored hstored hrestore)
  refine ⟨hrestored, ?_⟩
  obtain ⟨hitems, hevidence⟩ := listed_undo services hchange.stored hinverse
  rw [ChangesListed, hitems, hevidence, hrestored]
  exact Placement.change_restore hlinked hchange hextends

end Placements

end Threadbook.Catalog
