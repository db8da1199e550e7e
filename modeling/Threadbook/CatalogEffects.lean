import Threadbook.CatalogMoves

/-!
# What each command changes

Each command lists items and evidence: what its decision's inverse captures. A command that
succeeds changes nothing else, except that an undo may drop links of the items it lists.
-/

namespace Threadbook.Catalog

open Fallible List
open Promotion (ItemAttributesV1 RequestId ReplayStatusV1)

variable {services : CatalogServices} {t t' : CatalogTables}

/-! ## Lists -/

def inverseOf (t : CatalogTables) (decisionId : DecisionId) : Option ProjectionSnapshot :=
  (t.decisions.find? decisionId).bind (·.inverse)

namespace CatalogCommand

def listedItems (services : CatalogServices) (t : CatalogTables) :
    CatalogCommand → List ItemId
  | save request => [savedItemId services request]
  | decide request => decideItemIds t request
  | merge request => request.itemIds
  | split request => splitItemIds services request
  | undo request =>
    ((inverseOf t request.decisionId).map (·.affectedItemIds)).getD []

def listedEvidence (services : CatalogServices) (t : CatalogTables) :
    CatalogCommand → List EvidenceId
  | save request => saveEvidenceIds services t request
  | decide request => [request.evidenceId]
  | merge request => evidenceForItems t request.itemIds
  | split request => splitEvidenceIds request
  | undo request =>
    ((inverseOf t request.decisionId).map fun snapshot =>
      snapshot.evidence.map (·.evidenceId)).getD []

end CatalogCommand

theorem mem_sortedDedup {ids : List ReceiptUuidId} {id : ReceiptUuidId} :
    id ∈ sortedDedup ids ↔ id ∈ ids := by
  rw [sortedDedup, mem_dedup, mem_insertionSort]

variable {itemId : ItemId} {outcome : MutationOutcome} {revision : ℕ}
  {request : DecideEvidenceV1Request} {evidenceIds : List EvidenceId} {evidenceId : EvidenceId}
  {us : List PUnit}

theorem mem_itemEvidenceIds :
    evidenceId ∈ itemEvidenceIds t itemId ↔ t.placement.link evidenceId = some itemId := by
  simp only [itemEvidenceIds, mem_insertionSort, mem_map, mem_filter,
    CatalogTables.placement, CatalogTables.linkOf, Option.map_eq_some_iff, decide_eq_true_eq]
  refine ⟨?_, ?_⟩
  · rintro ⟨⟨id, link⟩, ⟨hrow, hitem⟩, rfl⟩
    exact ⟨link, Table.mem_rows.mp hrow, hitem⟩
  · rintro ⟨link, hfind, hitem⟩
    exact ⟨(evidenceId, link), ⟨Table.mem_rows.mpr hfind, hitem⟩, rfl⟩

theorem mem_evidenceForItems {itemIds : List ItemId} :
    evidenceId ∈ evidenceForItems t itemIds ↔
      ∃ itemId ∈ itemIds, t.placement.link evidenceId = some itemId := by
  rw [evidenceForItems, mem_sortedDedup, mem_flatMap]
  simp only [mem_itemEvidenceIds]

theorem mem_decideItemIds :
    itemId ∈ decideItemIds t request ↔
      t.placement.link request.evidenceId = some itemId ∨ request.itemId = some itemId := by
  rw [decideItemIds, mem_sortedDedup, mem_append, Option.mem_toList, Option.mem_toList]
  rfl

theorem mem_saveEvidenceIds {request : SaveItemV1Request} :
    evidenceId ∈ saveEvidenceIds services t request ↔ evidenceId ∈ request.evidenceIds ∨
      t.placement.link evidenceId = some (savedItemId services request) := by
  rw [saveEvidenceIds, mem_sortedDedup, mem_append, mem_itemEvidenceIds]

/-! ## Checks -/

theorem active_iff : t.placement.Active itemId ↔
    ∃ row, t.items.find? itemId = some row ∧ row.active = true := by
  simp only [Placement.Active, CatalogTables.placement, Option.map_eq_some_iff, Prod.mk.injEq]
  refine ⟨?_, ?_⟩
  · rintro ⟨a, row, hrow, -, hactive⟩
    exact ⟨row, hrow, hactive⟩
  · rintro ⟨row, hrow, hactive⟩
    exact ⟨row.attributes, row, hrow, rfl, hactive⟩

theorem requireActiveItem_eq_ok {u : Unit} :
    requireActiveItem t itemId = .ok u ↔ t.placement.Active itemId := by
  rw [active_iff, requireActiveItem]
  cases t.items.find? itemId with
  | none => simp
  | some row =>
    cases hactive : row.active with
    | true => simp [hactive]
    | false => simp [hactive]

theorem loadCatalogItem_active {item : CatalogItemV1} (h : loadCatalogItem t itemId = .ok item) :
    t.placement.Active itemId := by
  rw [active_iff]
  rw [loadCatalogItem] at h
  cases hrow : t.items.find? itemId with
  | none =>
    rw [hrow] at h
    cases h
  | some row =>
    refine ⟨row, rfl, ?_⟩
    rw [hrow] at h
    cases hactive : row.active with
    | true => rfl
    | false => simp [hactive] at h

theorem ensureAssignable_eq_ok {u : Unit} (h : ensureAssignable t evidenceIds itemId = .ok u) :
    ∀ e ∈ evidenceIds, (t.placement.state e).isSome ∧
      ∀ x, t.placement.link e = some x → x = itemId := by
  obtain ⟨us, hchecks, -⟩ := Threadbook.check_bind_eq_ok.mp h
  intro e he
  obtain ⟨v, hv⟩ := check_mapM_total.mp ⟨us, hchecks⟩ e he
  rw [CatalogTables.placement, Option.isSome_map]
  cases hrow : t.evidence.find? e with
  | none => simp [hrow] at hv
  | some row =>
    refine ⟨rfl, ?_⟩
    intro x hx
    have hlink : t.linkOf e = some x := hx
    simp only [hrow, hlink, Option.isNone_some, Bool.false_eq_true, if_false] at hv
    split at hv
    · cases hv
    · rename_i hne
      exact not_not.mp hne

/-! ## Effects -/

structure Records (services : CatalogServices) (command : CatalogCommand)
    (t t' : CatalogTables) (outcome : MutationOutcome) : Prop where
  expected : t.catalogRevision = command.expectedCatalogRevision
  decision_id : outcome.decision.decisionId = decisionIdOf services command.requestId
  revision : outcome.newCatalogRevision = t.catalogRevision + 1
  appends : ∃ kind compensates named, kind ≠ StoredKind.promoteReceiptPurchaseUnit ∧
    Appends (decisionIdOf services command.requestId)
      (decisionRow command.requestId kind (t.catalogRevision + 1)
        (captureProjection t (command.listedItems services t)
          (command.listedEvidence services t)) compensates)
      (entitiesOf (command.listedItems services t) named) t.ledger t'.ledger

structure Decides (services : CatalogServices) (command : CatalogCommand) (kind : StoredKind)
    (compensates : Option DecisionId) (named : List EvidenceId) (t t' : CatalogTables)
    (outcome : MutationOutcome) : Prop where
  expected : t.catalogRevision = command.expectedCatalogRevision
  decision : outcome.decision = ⟨decisionIdOf services command.requestId, kind.snapshot,
    command.listedItems services t, named, compensates, true⟩
  revision : outcome.newCatalogRevision = t.catalogRevision + 1
  nodup : (command.listedItems services t).Nodup
  appends : Appends (decisionIdOf services command.requestId)
    (decisionRow command.requestId kind (t.catalogRevision + 1)
      (captureProjection t (command.listedItems services t)
        (command.listedEvidence services t)) compensates)
    (entitiesOf (command.listedItems services t) named) t.ledger t'.ledger

theorem Decides.records {command : CatalogCommand} {kind : StoredKind}
    {compensates : Option DecisionId} {named : List EvidenceId}
    (h : Decides services command kind compensates named t t' outcome)
    (hkind : kind ≠ .promoteReceiptPurchaseUnit) : Records services command t t' outcome where
  expected := h.expected
  decision_id := by rw [h.decision]
  revision := h.revision
  appends := ⟨kind, compensates, named, hkind, h.appends⟩

abbrev ChangesListed (services : CatalogServices) (command : CatalogCommand)
    (t t' : CatalogTables) : Prop :=
  t.placement.Change t'.placement (command.listedItems services t)
    (command.listedEvidence services t)

/-- Evidence is assigned exactly when it is linked, to an active item. -/
abbrev CatalogTables.Consistent (t : CatalogTables) : Prop :=
  t.placement.Consistent .assigned

/-! ## Save -/

theorem setItemEvidence_loop
    (h : forEach (fun evidenceId => do
      insertItemEvidence itemId revision evidenceId
      update (CatalogTables.setEvidenceState .assigned evidenceId)) evidenceIds t =
        (.ok us, t')) :
    t'.placement = evidenceIds.foldl (Placement.assign .assigned itemId) t.placement ∧
      t'.ledger = t.ledger := by
  induction evidenceIds generalizing t us with
  | nil =>
    obtain rfl := (Prod.mk.inj h).2
    exact ⟨rfl, rfl⟩
  | cons e rest ih =>
    obtain ⟨u, t₁, vs, hstep, hrest, rfl⟩ := forEach_cons_eq_ok.mp h
    obtain ⟨⟨⟩, t₂, hinsert, hstate⟩ := bind_eq_ok.mp hstep
    obtain rfl := (Prod.mk.inj hstate).2
    obtain ⟨-, -, -, hplacement, hledger⟩ := insertItemEvidence_eq_ok hinsert
    obtain ⟨hrest, hrestLedger⟩ := ih hrest
    refine ⟨?_, ?_⟩
    · rw [hrest, placement_setEvidenceState, hplacement, foldl_cons, Placement.assign]
    · rw [hrestLedger]
      exact hledger

def afterSave (p : CatalogPlacement) (itemId : ItemId) (attributes : ItemAttributesV1)
    (evidenceIds previous : List EvidenceId) : CatalogPlacement :=
  evidenceIds.foldl (Placement.assign .assigned itemId)
    (previous.foldl (fun p e => p.mark .unresolved e) ((p.put itemId (attributes, true)).clear
      itemId))

theorem setItemEvidence_eq_ok {u : PUnit}
    (h : setItemEvidence itemId evidenceIds revision t = (.ok u, t')) :
    t'.placement = evidenceIds.foldl (Placement.assign .assigned itemId)
        ((itemEvidenceIds t itemId).foldl (fun p e => p.mark .unresolved e)
          (t.placement.clear itemId)) ∧
      t'.ledger = t.ledger := by
  simp only [setItemEvidence, state_bind, update_bind, bind_eq_ok, pure_run] at h
  obtain ⟨us, t₁, hloop, h⟩ := h
  obtain rfl := (Prod.mk.inj h).2
  obtain ⟨hplacement, hledger⟩ := setItemEvidence_loop hloop
  refine ⟨?_, ?_⟩
  · have hmarked := placement_foldl
      (f := fun t evidenceId => CatalogTables.setEvidenceState .unresolved evidenceId t)
      (g := fun p evidenceId => p.mark .unresolved evidenceId)
      (fun _ _ => placement_setEvidenceState)
    rw [hplacement, hmarked, placement_deleteItemEvidenceByItem]
  · have hkept := ledger_foldl
      (f := fun t evidenceId => CatalogTables.setEvidenceState .unresolved evidenceId t)
      (fun _ _ => rfl)
    rw [hledger, hkept]
    rfl

section AfterSave

variable {p : CatalogPlacement} {itemId : ItemId} {attributes : ItemAttributesV1}
  {evidenceIds previous : List EvidenceId}

theorem afterSave_item (x : ItemId) :
    (afterSave p itemId attributes evidenceIds previous).item x =
      if x = itemId then some (attributes, true) else p.item x := by
  have hassigned := Placement.foldl_same (f := Placement.assign .assigned itemId)
    (g := fun p : CatalogPlacement => p.item) (fun _ _ => rfl) evidenceIds
  have hmarked := Placement.foldl_same (f := fun p e => p.mark .unresolved e)
    (g := fun p : CatalogPlacement => p.item) (fun _ _ => rfl) previous
  rw [afterSave, hassigned, hmarked]
  rfl

theorem afterSave_link (e : EvidenceId) :
    (afterSave p itemId attributes evidenceIds previous).link e =
      if e ∈ evidenceIds then some itemId else (p.link e).filter fun x => x ≠ itemId := by
  have hmarked := Placement.foldl_same (f := fun p e => p.mark .unresolved e)
    (g := fun p : CatalogPlacement => p.link) (fun _ _ => rfl) previous
  rw [afterSave, Placement.foldl_assign_link, hmarked]
  by_cases he : e ∈ evidenceIds
  · rw [if_pos he, if_pos he]
  · rw [if_neg he, if_neg he]
    rfl

theorem afterSave_state (e : EvidenceId) :
    (afterSave p itemId attributes evidenceIds previous).state e =
      if e ∈ evidenceIds then (p.state e).map fun _ => .assigned
      else if e ∈ previous then (p.state e).map fun _ => .unresolved else p.state e := by
  rw [afterSave, Placement.foldl_assign_state, Placement.foldl_mark_state]
  by_cases hprevious : e ∈ previous
  · simp [hprevious, Function.comp_def]
  · simp [hprevious]

variable {listed : List EvidenceId}

theorem afterSave_change (hlinked : p.Linked)
    (hassignable : ∀ e ∈ evidenceIds, (p.state e).isSome ∧ ∀ x, p.link e = some x → x = itemId)
    (hprevious : ∀ e, e ∈ previous ↔ p.link e = some itemId)
    (hlisted : ∀ e, e ∈ listed ↔ e ∈ evidenceIds ∨ p.link e = some itemId) :
    p.Change (afterSave p itemId attributes evidenceIds previous) [itemId] listed := by
  refine ⟨?_, ?_, ?_, ?_, ?_, ?_, ?_, ?_⟩
  · intro x hx
    rw [afterSave_item, if_neg (fun heq => hx (mem_singleton.mpr heq))]
  · intro x hx
    rw [afterSave_item]
    split
    · rfl
    · exact hx
  · intro e he
    rw [hlisted, not_or] at he
    rw [afterSave_state, if_neg he.1, if_neg (fun hmem => he.2 ((hprevious e).mp hmem))]
  · intro e he
    rw [afterSave_state]
    split
    · rwa [Option.isSome_map]
    · split
      · rwa [Option.isSome_map]
      · exact he
  · intro e he
    cases (hlisted e).mp he with
    | inl hmem => exact (hassignable e hmem).1
    | inr hlink => exact (hlinked e itemId hlink).2
  · intro e he
    left
    rw [hlisted, not_or] at he
    rw [afterSave_link, if_neg he.1]
    cases hlink : p.link e with
    | none => rfl
    | some x =>
      have hne : x ≠ itemId := fun heq => he.2 (hlink.trans (congrArg some heq))
      rw [Option.filter_some, if_pos (decide_eq_true hne)]
  · intro e he x hlink
    rw [mem_singleton]
    cases (hlisted e).mp he with
    | inl hmem => exact (hassignable e hmem).2 x hlink
    | inr hitem => exact Option.mem_unique hlink hitem
  · intro e he x hlink
    have hx : x = itemId := by
      rw [afterSave_link] at hlink
      split at hlink
      · exact (Option.some.inj hlink).symm
      · rename_i hmem
        obtain ⟨hlink, hne⟩ := Option.filter_eq_some_iff.mp hlink
        cases (hlisted e).mp he with
        | inl hin => exact absurd hin hmem
        | inr hitem => exact Option.mem_unique hlink hitem
    rw [afterSave_item, if_pos hx]
    exact ⟨mem_singleton.mpr hx, rfl⟩

theorem afterSave_consistent (hp : p.Consistent .assigned)
    (hassignable : ∀ e ∈ evidenceIds, (p.state e).isSome)
    (hprevious : ∀ e, e ∈ previous ↔ p.link e = some itemId) :
    (afterSave p itemId attributes evidenceIds previous).Consistent .assigned := by
  refine ⟨?_, ?_⟩
  · intro e
    rw [afterSave_state, afterSave_link]
    by_cases he : e ∈ evidenceIds
    · obtain ⟨s, hs⟩ := Option.isSome_iff_exists.mp (hassignable e he)
      simp [he, hs]
    · rw [if_neg he, if_neg he]
      by_cases hitem : p.link e = some itemId
      · -- what the item had and was not named again is unresolved, and not linked
        rw [if_pos ((hprevious e).mpr hitem), hitem]
        simp [Option.filter_some]
      · rw [if_neg (fun hmem => hitem ((hprevious e).mp hmem)), hp.assigned_iff]
        cases hlink : p.link e with
        | none => rfl
        | some x =>
          have hne : x ≠ itemId := fun heq => hitem (hlink.trans (congrArg some heq))
          rw [Option.filter_some, if_pos (decide_eq_true hne)]
  · intro e x hlink
    rw [Placement.Active, afterSave_item]
    by_cases hx : x = itemId
    · exact ⟨attributes, if_pos hx⟩
    · rw [if_neg hx]
      rw [afterSave_link] at hlink
      split at hlink
      · exact absurd (Option.some.inj hlink).symm hx
      · exact hp.active e x (Option.filter_eq_some_iff.mp hlink).1

end AfterSave

/-- **What a save leaves**: the item holds exactly the evidence the request names. -/
theorem saveItem_run {request : SaveItemV1Request}
    (h : saveItem services request t = (.ok outcome, t')) :
    Decides services (.save request) .save none request.evidenceIds t t' outcome ∧
      (∀ e ∈ request.evidenceIds, (t.placement.state e).isSome ∧
        ∀ x, t.placement.link e = some x → x = savedItemId services request) ∧
      t'.placement = afterSave t.placement (savedItemId services request) request.attributes
        request.evidenceIds (itemEvidenceIds t (savedItemId services request)) ∧
      ∃ item, loadCatalogItem t' (savedItemId services request) = .ok item ∧
        outcome.content = .item item := by
  simp only [saveItem, state_bind, Fallible.check_bind_eq_ok, advanceRevision_bind_eq_ok,
    update_bind] at h
  obtain ⟨⟨⟩, hassignable, hexpected, h⟩ := h
  obtain ⟨⟨⟩, t₁, hset, h⟩ := bind_eq_ok.mp h
  obtain ⟨decision, t₂, happend, h⟩ := bind_eq_ok.mp h
  simp only [state_bind, Fallible.check_bind_eq_ok, pure_run] at h
  obtain ⟨item, hitem, h⟩ := h
  obtain ⟨houtcome, rfl⟩ := Prod.mk.inj h
  obtain rfl := Except.ok.inj houtcome
  obtain ⟨hplacement, hledger⟩ := setItemEvidence_eq_ok hset
  have hnodup := appendDecision_nodup happend
  obtain ⟨rfl, hsame, happends⟩ := appendDecision_eq_ok hexpected hledger happend
  refine ⟨⟨hexpected, rfl, by rw [hexpected], hnodup, happends⟩,
    ensureAssignable_eq_ok hassignable, ?_, item, hitem, rfl⟩
  rw [hsame, hplacement, placement_upsertItem]
  rfl

theorem saveItem_eq_ok {request : SaveItemV1Request}
    (h : saveItem services request t = (.ok outcome, t')) :
    Records services (.save request) t t' outcome ∧
      (t.placement.Linked → ChangesListed services (.save request) t t') ∧
      (t.Consistent → t'.Consistent) := by
  obtain ⟨hdecides, hchecked, hafter, -⟩ := saveItem_run h
  refine ⟨hdecides.records (fun hkind => nomatch hkind), ?_, ?_⟩
  · intro hlinked
    rw [ChangesListed, hafter]
    exact afterSave_change hlinked hchecked (fun _ => mem_itemEvidenceIds)
      (fun _ => mem_saveEvidenceIds)
  · intro hconsistent
    rw [CatalogTables.Consistent, hafter]
    exact afterSave_consistent hconsistent (fun e he => (hchecked e he).1)
      (fun _ => mem_itemEvidenceIds)

/-! ## Decide -/

@[simps] def afterDecide (p : CatalogPlacement) (evidenceId : EvidenceId) (assigned : Option ItemId)
    (state : EvidenceStateV1) : CatalogPlacement where
  item := p.item
  state e := if e = evidenceId then (p.state e).map fun _ => state else p.state e
  link e := if e = evidenceId then assigned else p.link e

def assignedItem (request : DecideEvidenceV1Request) : Option ItemId :=
  if request.action = .assign then request.itemId else none

theorem assignEvidence_eq_ok {u : PUnit} (h : assignEvidence request revision t = (.ok u, t')) :
    (∀ x ∈ assignedItem request, t.placement.Active x) ∧
      (request.action = .assign → (assignedItem request).isSome) ∧
      t'.placement = (assignedItem request).elim t.placement
        (fun x => t.placement.place request.evidenceId x) ∧
      t'.ledger = t.ledger := by
  rw [assignedItem]
  cases haction : request.action with
  | assign =>
    cases hitem : request.itemId with
    | none =>
      simp only [assignEvidence, haction, hitem] at h
      cases h
    | some itemId =>
      simp only [assignEvidence, haction, hitem, state_bind, Fallible.check_bind_eq_ok] at h
      obtain ⟨⟨⟩, hactive, hinsert⟩ := h
      obtain ⟨-, -, -, hplacement, hledger⟩ := insertItemEvidence_eq_ok hinsert
      refine ⟨?_, fun _ => rfl, hplacement, hledger⟩
      intro x hx
      obtain rfl := Option.mem_some_iff.mp hx
      exact requireActiveItem_eq_ok.mp hactive
  | reject =>
    simp only [assignEvidence, haction] at h
    obtain rfl := (Prod.mk.inj h).2
    simp
  | defer =>
    simp only [assignEvidence, haction] at h
    obtain rfl := (Prod.mk.inj h).2
    simp

section AfterDecide

variable {p : CatalogPlacement} {evidenceId : EvidenceId} {assigned : Option ItemId}
  {state : EvidenceStateV1} {listed : List ItemId}

theorem afterDecide_change (hstored : (p.state evidenceId).isSome)
    (hassigned : ∀ x ∈ assigned, p.Active x ∧ x ∈ listed)
    (hlisted : ∀ x, p.link evidenceId = some x → x ∈ listed) :
    p.Change (afterDecide p evidenceId assigned state) listed [evidenceId] := by
  refine ⟨fun _ _ => rfl, fun _ hx => hx, ?_, ?_, ?_, ?_, ?_, ?_⟩
  · intro e he
    exact if_neg fun heq => he (mem_singleton.mpr heq)
  · intro e he
    rw [afterDecide_state]
    split
    · rwa [Option.isSome_map]
    · exact he
  · intro e he
    rwa [mem_singleton.mp he]
  · intro e he
    exact Or.inl (if_neg fun heq => he (mem_singleton.mpr heq))
  · intro e he x hlink
    rw [mem_singleton.mp he] at hlink
    exact hlisted x hlink
  · intro e he x hlink
    rw [afterDecide_link, if_pos (mem_singleton.mp he)] at hlink
    obtain ⟨⟨a, ha⟩, hmem⟩ := hassigned x hlink
    refine ⟨hmem, ?_⟩
    rw [afterDecide_item, ha]
    rfl

theorem afterDecide_consistent (hp : p.Consistent .assigned)
    (hstored : (p.state evidenceId).isSome) (hactive : ∀ x ∈ assigned, p.Active x)
    (hstate : state = .assigned ↔ assigned.isSome) :
    (afterDecide p evidenceId assigned state).Consistent .assigned := by
  refine ⟨?_, ?_⟩
  · intro e
    rw [afterDecide_state, afterDecide_link]
    by_cases he : e = evidenceId
    · obtain ⟨s, hs⟩ := Option.isSome_iff_exists.mp hstored
      simp [he, hs, hstate]
    · rw [if_neg he, if_neg he]
      exact hp.assigned_iff e
  · intro e x hlink
    rw [afterDecide_link] at hlink
    split at hlink
    · exact hactive x hlink
    · exact hp.active e x hlink

end AfterDecide

/-- **What a decision about evidence leaves**: that piece is where the request puts it, in the
state the request says. -/
theorem decideEvidence_run (h : decideEvidence services request t = (.ok outcome, t')) :
    Decides services (.decide request) request.action.kind none [request.evidenceId] t t'
        outcome ∧
      (∀ x ∈ assignedItem request, t.placement.Active x) ∧
      (request.action = .assign → (assignedItem request).isSome) ∧
      (t.placement.state request.evidenceId).isSome ∧
      t'.placement = afterDecide t.placement request.evidenceId (assignedItem request)
        request.action.state ∧
      ∃ evidence, loadEvidence t' request.evidenceId = .ok evidence ∧
        outcome.content = .evidence evidence := by
  simp only [decideEvidence, state_bind, advanceRevision_bind_eq_ok, update_bind] at h
  obtain ⟨hexpected, h⟩ := h
  obtain ⟨⟨⟩, t₁, hassign, h⟩ := bind_eq_ok.mp h
  rw [state_bind, rejectIf_bind_eq_ok, update_bind] at h
  obtain ⟨hrow, h⟩ := h
  obtain ⟨decision, t₂, happend, h⟩ := bind_eq_ok.mp h
  simp only [state_bind, Fallible.check_bind_eq_ok, pure_run] at h
  obtain ⟨evidence, hevidence, h⟩ := h
  obtain ⟨houtcome, rfl⟩ := Prod.mk.inj h
  obtain rfl := Except.ok.inj houtcome
  obtain ⟨hactive, hassigned, hplacement, hledger⟩ := assignEvidence_eq_ok hassign
  rw [placement_deleteItemEvidenceByEvidence] at hactive hplacement
  have hmarked : (CatalogTables.setEvidenceState request.action.state request.evidenceId
      t₁).ledger = { t.ledger with catalogRevision := t.catalogRevision + 1 } := hledger
  have hnodup := appendDecision_nodup happend
  obtain ⟨rfl, hsame, happends⟩ := appendDecision_eq_ok hexpected hmarked happend
  have hstate : t₁.placement.state = t.placement.state := by
    rw [hplacement]
    cases assignedItem request <;> rfl
  have hstored : (t.placement.state request.evidenceId).isSome := by
    rw [← hstate, CatalogTables.placement, Option.isSome_map]
    exact Option.isSome_iff_ne_none.mpr fun hnone => hrow (Option.isNone_iff_eq_none.mpr hnone)
  refine ⟨⟨hexpected, rfl, by rw [hexpected], hnodup, happends⟩, hactive, hassigned, hstored, ?_,
    evidence, hevidence, rfl⟩
  rw [hsame, placement_setEvidenceState, hplacement]
  cases assignedItem request with
  | none => rfl
  | some x =>
    refine Placement.ext (fun _ => rfl) (fun _ => rfl) (fun e => ?_)
    by_cases he : e = request.evidenceId
    · simp [afterDecide, he]
    · simp only [afterDecide, Option.elim_some, Placement.mark, Placement.place_link,
        Placement.unlink_link, if_neg he]
      rfl

theorem decideEvidence_eq_ok (h : decideEvidence services request t = (.ok outcome, t')) :
    Records services (.decide request) t t' outcome ∧
      ChangesListed services (.decide request) t t' ∧ (t.Consistent → t'.Consistent) := by
  obtain ⟨hdecides, hactive, hassigned, hstored, hafter, -⟩ := decideEvidence_run h
  refine ⟨hdecides.records ?_, ?_, ?_⟩
  · intro hkind
    cases haction : request.action <;> simp [haction, EvidenceDecisionActionV1.kind] at hkind
  · rw [ChangesListed, hafter]
    apply afterDecide_change hstored
    · intro x hx
      refine ⟨hactive x hx, mem_decideItemIds.mpr (.inr ?_)⟩
      rw [assignedItem] at hx
      split at hx
      · exact hx
      · cases hx
    · intro x hlink
      exact mem_decideItemIds.mpr (.inl hlink)
  · intro hconsistent
    rw [CatalogTables.Consistent, hafter]
    apply afterDecide_consistent hconsistent hstored hactive
    cases haction : request.action with
    | assign => simp [EvidenceDecisionActionV1.state, hassigned haction]
    | reject => simp [EvidenceDecisionActionV1.state, assignedItem, haction]
    | defer => simp [EvidenceDecisionActionV1.state, assignedItem, haction]

/-! ## Merge -/

def afterMerge (p : CatalogPlacement) (target : ItemId) (itemIds : List ItemId)
    (attributes : ItemAttributesV1) : CatalogPlacement :=
  itemIds.foldl (fun p source => p.moveAll target source)
    (itemIds.tail.foldl (fun p source => p.deactivate source) (p.put target (attributes, true)))

section AfterMerge

variable {p : CatalogPlacement} {target : ItemId} {itemIds : List ItemId}
  {attributes : ItemAttributesV1} {listed : List EvidenceId}

theorem afterMerge_item (x : ItemId) :
    (afterMerge p target itemIds attributes).item x =
      if x ∈ itemIds.tail then ((p.put target (attributes, true)).item x).map fun i => (i.1, false)
      else (p.put target (attributes, true)).item x := by
  have hmoved := Placement.foldl_same (f := fun p source => p.moveAll target source)
    (g := fun p : CatalogPlacement => p.item) (fun _ _ => rfl) itemIds
  rw [afterMerge, hmoved, Placement.foldl_deactivate_item]
  by_cases hx : x ∈ itemIds.tail
  · rw [if_pos hx, if_pos hx]
  · rw [if_neg hx, if_neg hx]

theorem afterMerge_state (e : EvidenceId) :
    (afterMerge p target itemIds attributes).state e = p.state e := by
  have hmoved := Placement.foldl_same (f := fun p source => p.moveAll target source)
    (g := fun p : CatalogPlacement => p.state) (fun _ _ => rfl) itemIds
  have hdeactivated := Placement.foldl_same (f := fun p source => p.deactivate source)
    (g := fun p : CatalogPlacement => p.state) (fun _ _ => rfl) itemIds.tail
  rw [afterMerge, hmoved, hdeactivated]
  rfl

theorem afterMerge_link (e : EvidenceId) :
    (afterMerge p target itemIds attributes).link e =
      (p.link e).map fun x => if x ∈ itemIds then target else x := by
  have hdeactivated := Placement.foldl_same (f := fun p source => p.deactivate source)
    (g := fun p : CatalogPlacement => p.link) (fun _ _ => rfl) itemIds.tail
  rw [afterMerge, Placement.foldl_moveAll_link, hdeactivated, Placement.put_link]
  refine Option.map_congr fun x _ => ?_
  by_cases hx : x ∈ itemIds
  · rw [if_pos hx, if_pos hx]
  · rw [if_neg hx, if_neg hx]

theorem afterMerge_item_of_not_mem (htarget : target ∈ itemIds) {x : ItemId}
    (hx : x ∉ itemIds) : (afterMerge p target itemIds attributes).item x = p.item x := by
  have hne : x ≠ target := fun heq => hx (heq ▸ htarget)
  rw [afterMerge_item, if_neg (fun hmem => hx (mem_of_mem_tail hmem)), Placement.put_item,
    if_neg hne]

theorem afterMerge_change (hlinked : p.Linked) (htarget : target ∈ itemIds)
    (hlisted : ∀ e, e ∈ listed ↔ ∃ x ∈ itemIds, p.link e = some x) :
    p.Change (afterMerge p target itemIds attributes) itemIds listed := by
  have hkept : ∀ x, (p.item x).isSome ∨ x = target →
      ((afterMerge p target itemIds attributes).item x).isSome := by
    intro x hx
    have hput : ((p.put target (attributes, true)).item x).isSome := by
      rw [Placement.put_item]
      split
      · rfl
      · rename_i hne
        exact hx.resolve_right hne
    rw [afterMerge_item]
    split
    · rwa [Option.isSome_map]
    · exact hput
  refine ⟨fun x => afterMerge_item_of_not_mem htarget, fun x hx => hkept x (.inl hx),
    fun e _ => afterMerge_state e, ?_, ?_, ?_, ?_, ?_⟩
  · intro e he
    rwa [afterMerge_state]
  · intro e he
    obtain ⟨x, -, hlink⟩ := (hlisted e).mp he
    exact (hlinked e x hlink).2
  · intro e he
    left
    rw [afterMerge_link]
    cases hlink : p.link e with
    | none => rfl
    | some x =>
      have hx : x ∉ itemIds := fun hx => he ((hlisted e).mpr ⟨x, hx, hlink⟩)
      rw [Option.map_some, if_neg hx]
  · intro e he x hlink
    obtain ⟨y, hy, hlink'⟩ := (hlisted e).mp he
    rwa [Option.mem_unique hlink hlink']
  · intro e he x hlink
    obtain ⟨y, hy, hlink'⟩ := (hlisted e).mp he
    rw [afterMerge_link, hlink', Option.map_some, if_pos hy] at hlink
    cases hlink
    exact ⟨htarget, hkept _ (.inr rfl)⟩

theorem afterMerge_consistent (hp : p.Consistent .assigned) (htarget : target ∈ itemIds)
    (hactive : (afterMerge p target itemIds attributes).Active target) :
    (afterMerge p target itemIds attributes).Consistent .assigned := by
  refine ⟨?_, ?_⟩
  · intro e
    rw [afterMerge_state, afterMerge_link, Option.isSome_map]
    exact hp.assigned_iff e
  · intro e x hlink
    rw [afterMerge_link, Option.map_eq_some_iff] at hlink
    obtain ⟨y, hlink, heq⟩ := hlink
    split at heq
    · rwa [← heq]
    · rename_i hy
      obtain ⟨a, ha⟩ := hp.active e y hlink
      exact ⟨a, by rw [← heq, afterMerge_item_of_not_mem htarget hy, ha]⟩

end AfterMerge

/-- **What a merge leaves**: the first item holds the evidence of them all. -/
theorem mergeItems_run {request : MergeItemsV1Request}
    (h : mergeItems services request t = (.ok outcome, t')) :
    Decides services (.merge request) .merge none (evidenceForItems t request.itemIds) t t'
        outcome ∧
      t'.placement = afterMerge t.placement (request.itemIds.head request.itemIds_ne_nil)
        request.itemIds request.targetAttributes ∧
      ∃ item, loadCatalogItem t' (request.itemIds.head request.itemIds_ne_nil) = .ok item ∧
        outcome.content = .item item := by
  simp only [mergeItems, state_bind, Fallible.check_bind_eq_ok, advanceRevision_bind_eq_ok,
    update_bind] at h
  obtain ⟨us, -, hexpected, h⟩ := h
  obtain ⟨decision, t₁, happend, h⟩ := bind_eq_ok.mp h
  simp only [state_bind, Fallible.check_bind_eq_ok, pure_run] at h
  obtain ⟨item, hitem, h⟩ := h
  obtain ⟨houtcome, rfl⟩ := Prod.mk.inj h
  obtain rfl := Except.ok.inj houtcome
  -- neither loop touches the ledger, and each step edits the placement
  have hmovedLedger := ledger_foldl
    (f := fun t source => t.moveItemEvidence (request.itemIds.head request.itemIds_ne_nil) source
      (request.expectedCatalogRevision + 1)) (fun _ _ => rfl) request.itemIds
  have hdeactivatedLedger := ledger_foldl
    (f := fun t source => t.deactivateItem source (request.expectedCatalogRevision + 1))
    (fun _ _ => rfl) request.itemIds.tail
  have hnodup := appendDecision_nodup happend
  obtain ⟨rfl, hsame, happends⟩ := appendDecision_eq_ok hexpected
    ((hmovedLedger _).trans (hdeactivatedLedger _)) happend
  have hmoved := placement_foldl
    (f := fun t source => t.moveItemEvidence (request.itemIds.head request.itemIds_ne_nil) source
      (request.expectedCatalogRevision + 1))
    (g := fun p source => p.moveAll (request.itemIds.head request.itemIds_ne_nil) source)
    (fun _ _ => placement_moveItemEvidence)
  have hdeactivated := placement_foldl
    (f := fun t source => t.deactivateItem source (request.expectedCatalogRevision + 1))
    (g := fun p source => p.deactivate source) (fun _ _ => placement_deactivateItem)
  refine ⟨⟨hexpected, rfl, by rw [hexpected], hnodup, happends⟩, ?_, item, hitem, rfl⟩
  rw [hsame, hmoved, hdeactivated, placement_upsertItem]
  rfl

theorem mergeItems_eq_ok {request : MergeItemsV1Request}
    (h : mergeItems services request t = (.ok outcome, t')) :
    Records services (.merge request) t t' outcome ∧
      (t.placement.Linked → ChangesListed services (.merge request) t t') ∧
      (t.Consistent → t'.Consistent) := by
  obtain ⟨hdecides, hafter, item, hitem, -⟩ := mergeItems_run h
  have htarget := head_mem request.itemIds_ne_nil
  have hactive := loadCatalogItem_active hitem
  rw [hafter] at hactive
  refine ⟨hdecides.records (fun hkind => nomatch hkind), ?_, ?_⟩
  · intro hlinked
    rw [ChangesListed, hafter]
    exact afterMerge_change hlinked htarget (fun _ => mem_evidenceForItems)
  · intro hconsistent
    rw [CatalogTables.Consistent, hafter]
    exact afterMerge_consistent hconsistent htarget hactive

/-! ## Split -/

structure Distributes (itemIds : List ItemId) (evidenceIds : List EvidenceId)
    (p q : CatalogPlacement) : Prop where
  item_active : ∀ x ∈ itemIds, q.Active x
  item_frame : ∀ x, x ∉ itemIds → q.item x = p.item x
  state : ∀ e, q.state e = p.state e
  link_new : ∀ e ∈ evidenceIds, ∃ x ∈ itemIds, q.link e = some x
  link_frame : ∀ e, e ∉ evidenceIds → q.link e = p.link e

theorem Distributes.trans {first second : List ItemId} {held more : List EvidenceId}
    {p q r : CatalogPlacement} (hpq : Distributes first held p q)
    (hqr : Distributes second more q r) :
    Distributes (first ++ second) (held ++ more) p r where
  item_active x hx := by
    by_cases hsecond : x ∈ second
    · exact hqr.item_active x hsecond
    · obtain ⟨a, ha⟩ := hpq.item_active x ((mem_append.mp hx).resolve_right hsecond)
      exact ⟨a, by rw [hqr.item_frame x hsecond, ha]⟩
  item_frame x hx := by
    rw [mem_append, not_or] at hx
    rw [hqr.item_frame x hx.2, hpq.item_frame x hx.1]
  state e := by rw [hqr.state, hpq.state]
  link_new e he := by
    by_cases hmore : e ∈ more
    · obtain ⟨x, hx, hlink⟩ := hqr.link_new e hmore
      exact ⟨x, mem_append_right _ hx, hlink⟩
    · obtain ⟨x, hx, hlink⟩ := hpq.link_new e ((mem_append.mp he).resolve_right hmore)
      exact ⟨x, mem_append_left _ hx, by rw [hqr.link_frame e hmore, hlink]⟩
  link_frame e he := by
    rw [mem_append, not_or] at he
    rw [hqr.link_frame e he.2, hpq.link_frame e he.1]

theorem insertItemEvidence_loop
    (h : forEach (insertItemEvidence itemId revision) evidenceIds t = (.ok us, t')) :
    t'.placement.item = t.placement.item ∧ t'.placement.state = t.placement.state ∧
      (∀ e, t'.placement.link e =
        if e ∈ evidenceIds then some itemId else t.placement.link e) ∧
      t'.ledger = t.ledger := by
  induction evidenceIds generalizing t us with
  | nil =>
    obtain rfl := (Prod.mk.inj h).2
    exact ⟨rfl, rfl, fun e => (if_neg not_mem_nil).symm, rfl⟩
  | cons e rest ih =>
    obtain ⟨u, t₁, vs, hinsert, hrest, rfl⟩ := forEach_cons_eq_ok.mp h
    obtain ⟨-, -, -, hplacement, hledger⟩ := insertItemEvidence_eq_ok hinsert
    obtain ⟨hitem, hstate, hlink, hrestLedger⟩ := ih hrest
    refine ⟨?_, ?_, ?_, hrestLedger.trans hledger⟩
    · rw [hitem, hplacement]
      rfl
    · rw [hstate, hplacement]
      rfl
    · intro f
      rw [hlink, hplacement, Placement.place_link]
      by_cases hf : f = e
      · simp [hf]
      · simp [hf]

theorem splitGroup_eq_ok {entry : ItemId × SplitGroupV1} {u : PUnit}
    (h : splitGroup revision entry t = (.ok u, t')) :
    Distributes [entry.1] entry.2.evidenceIds t.placement t'.placement ∧
      t'.ledger = t.ledger := by
  simp only [splitGroup, update_bind, bind_eq_ok, pure_run] at h
  obtain ⟨us, t₁, hloop, h⟩ := h
  obtain rfl := (Prod.mk.inj h).2
  obtain ⟨hitem, hstate, hlink, hledger⟩ := insertItemEvidence_loop hloop
  rw [placement_upsertItem] at hitem hstate hlink
  refine ⟨⟨?_, ?_, ?_, ?_, ?_⟩, hledger⟩
  · intro x hx
    refine ⟨entry.2.attributes, ?_⟩
    rw [hitem, Placement.put_item, if_pos (mem_singleton.mp hx)]
  · intro x hx
    rw [hitem, Placement.put_item, if_neg (fun heq => hx (mem_singleton.mpr heq))]
  · intro e
    rw [hstate]
    rfl
  · intro e he
    exact ⟨entry.1, mem_singleton.mpr rfl, by rw [hlink, if_pos he]⟩
  · intro e he
    rw [hlink, if_neg he]
    rfl

theorem splitGroups_eq_ok {entries : List (ItemId × SplitGroupV1)}
    (h : forEach (splitGroup revision) entries t = (.ok us, t')) :
    Distributes (entries.map Prod.fst) (entries.flatMap fun entry => entry.2.evidenceIds)
      t.placement t'.placement ∧ t'.ledger = t.ledger := by
  induction entries generalizing t us with
  | nil =>
    obtain rfl := (Prod.mk.inj h).2
    exact ⟨⟨by simp, fun _ _ => rfl, fun _ => rfl, by simp, fun _ _ => rfl⟩, rfl⟩
  | cons entry rest ih =>
    obtain ⟨u, t₁, vs, hgroup, hrest, rfl⟩ := forEach_cons_eq_ok.mp h
    obtain ⟨hfirst, hfirstLedger⟩ := splitGroup_eq_ok hgroup
    obtain ⟨hothers, hledger⟩ := ih hrest
    exact ⟨hfirst.trans hothers, hledger.trans hfirstLedger⟩

theorem evidence_of_groups (request : SplitItemV1Request) :
    ((splitItemIds services request).zip request.groups).flatMap
        (fun entry => entry.2.evidenceIds) =
      request.groups.flatMap (·.evidenceIds) := by
  have hlength : request.groups.length ≤ (splitItemIds services request).length := by
    rw [splitItemIds, length_cons, length_map, length_range']
    omega
  calc ((splitItemIds services request).zip request.groups).flatMap
        (fun entry => entry.2.evidenceIds)
      = (((splitItemIds services request).zip request.groups).map Prod.snd).flatMap
          (·.evidenceIds) := by rw [flatMap_map]
    _ = request.groups.flatMap (·.evidenceIds) := by rw [map_snd_zip hlength]

section AfterSplit

variable {p q : CatalogPlacement} {source : ItemId} {made itemIds : List ItemId}
  {evidenceIds listed : List EvidenceId}

theorem clear_link_of_ne {e : EvidenceId} (hlink : p.link e ≠ some source) :
    (p.clear source).link e = p.link e := by
  rw [Placement.clear_link]
  cases hx : p.link e with
  | none => rfl
  | some x =>
    have hne : x ≠ source := fun heq => hlink (hx.trans (congrArg some heq))
    rw [Option.filter_some, if_pos (decide_eq_true hne)]

theorem afterSplit_change (hlinked : p.Linked) (hmade : ∀ x ∈ made, x ∈ itemIds)
    (hsource : source ∈ itemIds) (hlisted : ∀ e, e ∈ listed ↔ p.link e = some source)
    (hevidence : ∀ e, e ∈ listed ↔ e ∈ evidenceIds)
    (hsplit : Distributes made evidenceIds (p.clear source) q) :
    p.Change q itemIds listed := by
  have hitem : ∀ x, (p.item x).isSome → (q.item x).isSome := by
    intro x hx
    by_cases hmem : x ∈ made
    · obtain ⟨a, ha⟩ := hsplit.item_active x hmem
      rw [ha]
      rfl
    · rwa [hsplit.item_frame x hmem]
  have hframe : ∀ e, e ∉ listed → q.link e = p.link e := by
    intro e he
    rw [hsplit.link_frame e (fun hmem => he ((hevidence e).mpr hmem)),
      clear_link_of_ne (fun hlink => he ((hlisted e).mpr hlink))]
  refine ⟨?_, hitem, fun e _ => hsplit.state e, ?_, ?_, fun e he => Or.inl (hframe e he), ?_, ?_⟩
  · intro x hx
    exact hsplit.item_frame x fun hmem => hx (hmade x hmem)
  · intro e he
    rwa [hsplit.state]
  · intro e he
    exact (hlinked e source ((hlisted e).mp he)).2
  · intro e he x hlink
    rw [(hlisted e).mp he] at hlink
    rwa [← Option.some.inj hlink]
  · intro e he x hlink
    obtain ⟨y, hy, hnew⟩ := hsplit.link_new e ((hevidence e).mp he)
    obtain rfl := Option.mem_unique hnew hlink
    obtain ⟨a, ha⟩ := hsplit.item_active y hy
    exact ⟨hmade y hy, by rw [ha]; rfl⟩

theorem afterSplit_consistent (hp : p.Consistent .assigned)
    (hlisted : ∀ e, e ∈ evidenceIds ↔ p.link e = some source)
    (hsplit : Distributes made evidenceIds (p.clear source) q) :
    q.Consistent .assigned := by
  have hframe : ∀ e, e ∉ evidenceIds → q.link e = p.link e := by
    intro e he
    rw [hsplit.link_frame e he, clear_link_of_ne (fun hlink => he ((hlisted e).mpr hlink))]
  refine ⟨?_, ?_⟩
  · intro e
    rw [hsplit.state]
    refine (hp.assigned_iff e).trans ?_
    by_cases he : e ∈ evidenceIds
    · obtain ⟨x, -, hlink⟩ := hsplit.link_new e he
      rw [hlink, (hlisted e).mp he]
      rfl
    · rw [hframe e he]
  · intro e x hlink
    by_cases he : e ∈ evidenceIds
    · obtain ⟨y, hy, hnew⟩ := hsplit.link_new e he
      obtain rfl := Option.mem_unique hnew hlink
      exact hsplit.item_active y hy
    · rw [hframe e he] at hlink
      by_cases hx : x ∈ made
      · exact hsplit.item_active x hx
      · obtain ⟨a, ha⟩ := hp.active e x hlink
        exact ⟨a, by rw [hsplit.item_frame x hx]; exact ha⟩

end AfterSplit

theorem mem_splitEvidenceIds {request : SplitItemV1Request} {e : EvidenceId} :
    e ∈ splitEvidenceIds request ↔ e ∈ request.groups.flatMap (·.evidenceIds) := mem_sortedDedup

/-- **What a split leaves**: the evidence of the item is distributed over the items the split
makes. -/
theorem splitItem_run {request : SplitItemV1Request}
    (h : splitItem services request t = (.ok outcome, t')) :
    Decides services (.split request) .split none (splitEvidenceIds request) t t' outcome ∧
      (∀ e, e ∈ splitEvidenceIds request ↔ t.placement.link e = some request.itemId) ∧
      Distributes (((splitItemIds services request).zip request.groups).map Prod.fst)
        (request.groups.flatMap (·.evidenceIds)) (t.placement.clear request.itemId)
        t'.placement ∧
      ∃ items, (splitItemIds services request).mapM (loadCatalogItem t') = .ok items ∧
        outcome.content = .items items := by
  simp only [splitItem, state_bind, Fallible.check_bind_eq_ok, rejectIf_bind_eq_ok,
    advanceRevision_bind_eq_ok, update_bind] at h
  obtain ⟨⟨⟩, -, hpartition, hexpected, h⟩ := h
  obtain ⟨us, t₁, hgroups, h⟩ := bind_eq_ok.mp h
  obtain ⟨decision, t₂, happend, h⟩ := bind_eq_ok.mp h
  simp only [state_bind, Fallible.check_bind_eq_ok, pure_run] at h
  obtain ⟨items, hitems, h⟩ := h
  obtain ⟨houtcome, rfl⟩ := Prod.mk.inj h
  obtain rfl := Except.ok.inj houtcome
  obtain ⟨hsplit, hledger⟩ := splitGroups_eq_ok hgroups
  have hnodup := appendDecision_nodup happend
  obtain ⟨rfl, hsame, happends⟩ := appendDecision_eq_ok hexpected hledger happend
  rw [placement_deleteItemEvidenceByItem, evidence_of_groups, ← hsame] at hsplit
  refine ⟨⟨hexpected, rfl, by rw [hexpected], hnodup, happends⟩, ?_, hsplit, items, hitems, rfl⟩
  intro e
  rw [← not_not.mp hpartition]
  exact mem_itemEvidenceIds

theorem splitItem_eq_ok {request : SplitItemV1Request}
    (h : splitItem services request t = (.ok outcome, t')) :
    Records services (.split request) t t' outcome ∧
      (t.placement.Linked → ChangesListed services (.split request) t t') ∧
      (t.Consistent → t'.Consistent) := by
  obtain ⟨hdecides, hrequested, hsplit, -⟩ := splitItem_run h
  refine ⟨hdecides.records (fun hkind => nomatch hkind), ?_, ?_⟩
  · intro hlinked
    refine afterSplit_change hlinked ?_ (.head _) hrequested
      (fun _ => mem_splitEvidenceIds) hsplit
    intro x hx
    obtain ⟨entry, hentry, rfl⟩ := mem_map.mp hx
    exact (of_mem_zip hentry).1
  · intro hconsistent
    exact afterSplit_consistent hconsistent
      (fun e => mem_splitEvidenceIds.symm.trans (hrequested e)) hsplit

end Threadbook.Catalog
