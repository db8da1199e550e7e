import Threadbook.OutfitSearch

/-!
# Accepted proposals

What `validateOutfitProposalV1` promises of an accepted answer (`ProposalSound`), and
that its verdict depends neither on the order of the snapshot's items nor on the order
of the exclusions: `validateOutfitProposalV1_sound`.
-/

namespace Threadbook

open List

/-! ## Lookup -/

section Lookup

variable {items items' : List OutfitRecommendationSnapshotItemV1} {exclusions exclusions' : List ItemId}

theorem find?_itemById (hnodup : (items.map (·.itemId)).Nodup) {itemId : ItemId}
    {item : OutfitRecommendationSnapshotItemV1} :
    (itemById items).find? itemId = some item ↔ item ∈ items ∧ item.itemId = itemId := by
  have hfold : ∀ (items : List OutfitRecommendationSnapshotItemV1),
      (items.map (·.itemId)).Nodup → ∀ t : Table ItemId OutfitRecommendationSnapshotItemV1,
      (items.foldl (fun t item => t.put item.itemId item) t).find? itemId = some item ↔
        (item ∈ items ∧ item.itemId = itemId) ∨
          (itemId ∉ items.map (·.itemId) ∧ t.find? itemId = some item) := by
    intro items
    induction items with
    | nil => simp
    | cons first rest ih =>
      intro hnodup t
      obtain ⟨hfirst, hrest⟩ := nodup_cons.mp hnodup
      rw [foldl_cons, ih hrest, Table.find?_put]
      by_cases heq : itemId = first.itemId
      · subst heq
        rw [if_pos rfl, Option.some.injEq]
        refine ⟨?_, ?_⟩
        · rintro (⟨hmem, hid⟩ | ⟨-, rfl⟩)
          · exact absurd (mem_map.mpr ⟨item, hmem, hid⟩) hfirst
          · exact .inl ⟨mem_cons_self, rfl⟩
        · rintro (⟨hmem, hid⟩ | ⟨hnot, -⟩)
          · cases mem_cons.mp hmem with
            | inl heq => exact .inr ⟨hfirst, heq.symm⟩
            | inr hmem => exact .inl ⟨hmem, hid⟩
          · exact absurd (by simp) hnot
      · rw [if_neg heq]
        have hother : ∀ x : OutfitRecommendationSnapshotItemV1, x.itemId = itemId → x ≠ first := by
          rintro x hid rfl
          exact heq hid.symm
        simp only [mem_cons, map_cons, not_or, heq, not_false_eq_true, true_and]
        refine or_congr_left (and_congr_left fun hid => ?_)
        exact (or_iff_right (hother item hid)).symm
  rw [itemById, hfold items hnodup]
  simp

theorem find?_itemById_perm (hnodup : (items.map (·.itemId)).Nodup) (h : items.Perm items')
    (itemId : ItemId) : (itemById items).find? itemId = (itemById items').find? itemId := by
  refine Option.ext fun item => ?_
  rw [find?_itemById hnodup, find?_itemById ((h.map _).nodup_iff.mp hnodup), h.mem_iff]

/-- **The selected items** are known, active, not excluded and different. -/
theorem selectItems_eq_ok {t : Table ItemId OutfitRecommendationSnapshotItemV1}
    {seen itemIds : List ItemId} {selected : List OutfitRecommendationSnapshotItemV1}
    (hkey : ∀ itemId item, t.find? itemId = some item → item.itemId = itemId)
    (h : selectItems t exclusions seen itemIds = .ok selected) :
    selected.map (·.itemId) = itemIds ∧ itemIds.Nodup ∧ (∀ itemId ∈ itemIds, itemId ∉ seen) ∧
      ∀ item ∈ selected, t.find? item.itemId = some item ∧ item.active = true ∧
        item.itemId ∉ exclusions := by
  induction itemIds generalizing seen selected with
  | nil =>
    cases h
    simp
  | cons itemId rest ih =>
    rw [selectItems, check_unless_eq_ok] at h
    obtain ⟨hseen, h⟩ := h
    split at h
    · cases h
    · rename_i item hfind
      simp only [check_unless_eq_ok, not_not] at h
      obtain ⟨hactive, hexcluded, h⟩ := h
      obtain ⟨others, hothers, h⟩ := check_bind_eq_ok.mp h
      cases h
      obtain ⟨hmap, hnodup, hunseen, hall⟩ := ih hothers
      have hid := hkey itemId item hfind
      refine ⟨by rw [map_cons, hmap, hid], ?_, ?_, ?_⟩
      · exact nodup_cons.mpr ⟨fun hmem => hunseen itemId hmem mem_cons_self, hnodup⟩
      · intro other hother
        cases mem_cons.mp hother with
        | inl heq => exact heq ▸ hseen
        | inr hmem => exact fun hin => hunseen other hmem (.tail _ hin)
      · rw [forall_mem_cons, hid]
        exact ⟨⟨hfind, hactive, hexcluded⟩, hall⟩

theorem selectItems_congr {t t' : Table ItemId OutfitRecommendationSnapshotItemV1}
    (hfind : ∀ itemId, t.find? itemId = t'.find? itemId)
    (hexclusions : ∀ itemId, itemId ∈ exclusions ↔ itemId ∈ exclusions') (seen itemIds : List ItemId) :
    selectItems t exclusions seen itemIds = selectItems t' exclusions' seen itemIds := by
  induction itemIds generalizing seen with
  | nil => rfl
  | cons itemId rest ih => simp only [selectItems, hfind, hexclusions, ih]

end Lookup

/-! ## Assessments -/

section Assessments

variable {constraints : OutfitRecommendationConstraintsV1}
  {eligible eligible' selected : List OutfitRecommendationSnapshotItemV1}

/-- **An assessment** says of each kind whether it is met, and where it is not the search
found nothing. -/
theorem assessConstraints_eq_ok {kinds : List OutfitConstraintKindV1}
    {assessments : List OutfitConstraintAssessmentV1}
    (h : assessConstraints constraints eligible selected kinds = .ok assessments) :
    ∀ kind ∈ kinds, constraintMet kind constraints selected = true ∨
      constraintSatisfiable kind constraints eligible = false ∧
        unresolvedAssessment kind ∈ assessments := by
  induction kinds generalizing assessments with
  | nil => simp
  | cons kind rest ih =>
    rw [assessConstraints] at h
    split at h
    · rename_i hmet
      obtain ⟨others, hothers, h⟩ := check_bind_eq_ok.mp h
      cases h
      rw [forall_mem_cons]
      refine ⟨.inl hmet, fun other hother => ?_⟩
      exact (ih hothers other hother).imp_right fun ⟨hnone, hmem⟩ =>
        ⟨hnone, .tail _ hmem⟩
    · rw [check_unless_eq_ok] at h
      obtain ⟨hnone, h⟩ := h
      obtain ⟨others, hothers, h⟩ := check_bind_eq_ok.mp h
      cases h
      rw [forall_mem_cons]
      refine ⟨.inr ⟨by simpa using hnone, mem_cons_self⟩, fun other hother => ?_⟩
      exact (ih hothers other hother).imp_right fun ⟨hnone, hmem⟩ =>
        ⟨hnone, .tail _ hmem⟩

theorem assessConstraints_congr (h : ∀ item, item ∈ eligible ↔ item ∈ eligible')
    (kinds : List OutfitConstraintKindV1) :
    assessConstraints constraints eligible selected kinds =
      assessConstraints constraints eligible' selected kinds := by
  induction kinds with
  | nil => rfl
  | cons kind rest ih => simp only [assessConstraints, constraintSatisfiable_congr h, ih]

end Assessments

/-! ## Soundness -/

def ProposalSound (envelope : OutfitRecommendationEnvelopeV1)
    (snapshot : OutfitRecommendationSnapshotV1) (proposal : OutfitProposalV1) : Prop :=
  ∃ selected : List OutfitRecommendationSnapshotItemV1,
    selected.map (·.itemId) = proposal.itemIds ∧ proposal.itemIds.Nodup ∧
    (∀ item ∈ selected, item ∈ snapshot.items ∧ item.active = true ∧
      item.itemId ∉ envelope.excludedItemIds) ∧
    coherentBase selected = true ∧
    ∀ kind ∈ explicitConstraintKinds envelope.constraints,
      constraintMet kind envelope.constraints selected = true ∨
        unresolvedAssessment kind ∈ proposal.unresolvedConstraints ∧
          ∀ outfit, Satisfies envelope.constraints snapshot envelope.excludedItemIds outfit →
            ∀ item ∈ outfit, IsOnePiece item ∨ item.category = .accessory

section Soundness

variable {envelope : OutfitRecommendationEnvelopeV1} {snapshot : OutfitRecommendationSnapshotV1}
  {result : StructuredOutfitRecommendationV1}

theorem Satisfies.onePiece_of_not_found {constraints : OutfitRecommendationConstraintsV1}
    {exclusions : List ItemId} {outfit : List OutfitRecommendationSnapshotItemV1}
    {kind : OutfitConstraintKindV1} (h : Satisfies constraints snapshot exclusions outfit)
    (hnone : constraintSatisfiable kind constraints (eligibleItems snapshot.items exclusions) =
      false) :
    ∀ item ∈ outfit, IsOnePiece item ∨ item.category = .accessory := by
  rcases h.found_or_onePiece kind with hfound | ⟨piece, accessories, hpiece, -, haccessories, hperm⟩
  · rw [hnone] at hfound
    cases hfound
  · intro item hitem
    cases mem_cons.mp (hperm.mem_iff.mp hitem) with
    | inl heq => exact .inl (heq ▸ hpiece)
    | inr hmem => exact .inr (haccessories item hmem)

theorem validateProposal_sound (hvalid : snapshot.validate = .ok ()) {proposal validated : OutfitProposalV1}
    (h : validateProposal envelope (itemById snapshot.items)
      (eligibleItems snapshot.items envelope.excludedItemIds) proposal = .ok validated) :
    validated = proposal ∧ ProposalSound envelope snapshot proposal := by
  have hfind := @find?_itemById snapshot.items (OutfitRecommendationSnapshotV1.nodup_itemIds hvalid)
  obtain ⟨selected, hselected, h⟩ := check_bind_eq_ok.mp h
  rw [check_unless_eq_ok, not_not] at h
  obtain ⟨hcoherent, h⟩ := h
  obtain ⟨recomputed, hrecomputed, h⟩ := check_bind_eq_ok.mp h
  simp only [check_unless_eq_ok, not_not] at h
  obtain ⟨-, hunresolved, -, h⟩ := h
  obtain ⟨hmap, hnodup, -, hall⟩ :=
    selectItems_eq_ok (fun itemId item hitem => (hfind.mp hitem).2) hselected
  refine ⟨(Except.ok.inj h).symm, selected, hmap, hnodup, fun item hitem => ?_, hcoherent,
    fun kind hkind => ?_⟩
  · obtain ⟨hknown, hactive, hexcluded⟩ := hall item hitem
    exact ⟨(hfind.mp hknown).1, hactive, hexcluded⟩
  · refine (assessConstraints_eq_ok hrecomputed kind hkind).imp_right fun ⟨hnone, hmem⟩ => ?_
    refine ⟨?_, fun outfit houtfit => houtfit.onePiece_of_not_found hnone⟩
    rw [hunresolved, mem_filter]
    exact ⟨hmem, rfl⟩

theorem validateProposals_sound (hvalid : snapshot.validate = .ok ())
    {proposals validated : List OutfitProposalV1}
    (h : validateProposals envelope (itemById snapshot.items)
      (eligibleItems snapshot.items envelope.excludedItemIds) proposals = .ok validated) :
    validated = proposals ∧ ∀ proposal ∈ proposals, ProposalSound envelope snapshot proposal := by
  induction proposals generalizing validated with
  | nil =>
    cases h
    simp
  | cons proposal rest ih =>
    obtain ⟨first, hfirst, h⟩ := check_bind_eq_ok.mp h
    obtain ⟨others, hothers, h⟩ := check_bind_eq_ok.mp h
    cases h
    obtain ⟨rfl, hsound⟩ := validateProposal_sound hvalid hfirst
    obtain ⟨rfl, hall⟩ := ih hothers
    exact ⟨rfl, forall_mem_cons.mpr ⟨hsound, hall⟩⟩

theorem validateOutfitProposalV1_eq_ok {validated : ValidatedOutfitRecommendationV1}
    (h : validateOutfitProposalV1 envelope snapshot result = .ok validated) :
    (result.catalogRevision = snapshot.catalogRevision ∧
        result.outfitRevision = snapshot.outfitRevision ∧
        envelope.expectedCatalogRevision = snapshot.catalogRevision ∧
        envelope.expectedOutfitRevision = snapshot.outfitRevision) ∧
      validated = ⟨result.schemaRevision, result.compatibilityRevision, result.capabilityRevision,
        snapshot.catalogRevision, snapshot.outfitRevision, result.proposals⟩ ∧
      ∀ proposal ∈ result.proposals, ProposalSound envelope snapshot proposal := by
  obtain ⟨-, -, h⟩ := check_bind_eq_ok.mp h
  obtain ⟨⟨⟩, hvalid, h⟩ := check_bind_eq_ok.mp h
  obtain ⟨-, -, h⟩ := check_bind_eq_ok.mp h
  simp only [check_unless_eq_ok, not_or, not_not] at h
  obtain ⟨⟨hcatalog, hcatalog'⟩, ⟨houtfit, houtfit'⟩, -, h⟩ := h
  obtain ⟨proposals, hproposals, h⟩ := check_bind_eq_ok.mp h
  obtain ⟨rfl, hsound⟩ := validateProposals_sound (check_mapError_eq_ok.mp hvalid) hproposals
  refine ⟨⟨hcatalog', houtfit', hcatalog, houtfit⟩, ?_, hsound⟩
  rw [← Except.ok.inj h, hcatalog', houtfit']

end Soundness

/-! ## Order does not matter -/

section Order

variable {envelope : OutfitRecommendationEnvelopeV1} {snapshot : OutfitRecommendationSnapshotV1}
  {items : List OutfitRecommendationSnapshotItemV1} {exclusions : List ItemId}

theorem validateUniqueIds_perm {α : Type} [LinearOrder α] {left right : List α}
    (h : left.Perm right) (min max : ℕ) (field : SafeFieldV1) :
    validateUniqueIds left min max field = validateUniqueIds right min max field := by
  have hleft := @length_destutter_eq_iff α _ left
  rw [h.length_eq] at hleft
  simp only [validateUniqueIds, hleft, length_destutter_eq_iff, h.length_eq, h.nodup_iff]

theorem OutfitRecommendationEnvelopeV1.validate_perm (h : exclusions.Perm envelope.excludedItemIds) :
    ({ envelope with excludedItemIds := exclusions } : OutfitRecommendationEnvelopeV1).validate =
      envelope.validate := by
  simp only [OutfitRecommendationEnvelopeV1.validate, validateUniqueIds_perm h]

theorem OutfitRecommendationSnapshotV1.validate_perm (h : items.Perm snapshot.items) :
    ({ snapshot with items := items } : OutfitRecommendationSnapshotV1).validate = .ok () ↔
      snapshot.validate = .ok () := by
  simp only [OutfitRecommendationSnapshotV1.validate, check_unless_eq_ok, h.length_eq,
    validateUniqueIds_perm (h.map (·.itemId)), check_bind_eq_ok, tryForEach_eq_ok, h.mem_iff]

theorem mapError_congr {ε ε' : Type} {e : ε'} {left right : Except ε Unit}
    (h : left = .ok () ↔ right = .ok ()) :
    (left.mapError fun _ => e) = right.mapError fun _ => e := by
  rcases left with _ | ⟨⟩
  · rcases right with _ | ⟨⟩
    · rfl
    · exact absurd (h.mpr rfl) (by simp)
  · rw [h.mp rfl]

theorem validateProposals_congr {t t' : Table ItemId OutfitRecommendationSnapshotItemV1}
    {eligible eligible' : List OutfitRecommendationSnapshotItemV1}
    (hfind : ∀ itemId, t.find? itemId = t'.find? itemId)
    (hexclusions : ∀ itemId, itemId ∈ exclusions ↔ itemId ∈ envelope.excludedItemIds)
    (heligible : ∀ item, item ∈ eligible ↔ item ∈ eligible') (proposals : List OutfitProposalV1) :
    validateProposals { envelope with excludedItemIds := exclusions } t eligible proposals =
      validateProposals envelope t' eligible' proposals := by
  induction proposals with
  | nil => rfl
  | cons proposal rest ih =>
    rw [validateProposals, validateProposals, ih]
    simp only [validateProposal, selectItems_congr hfind hexclusions,
      recomputeConstraintAssessment, assessConstraints_congr heligible]

theorem validateOutfitProposalV1_perm (result : StructuredOutfitRecommendationV1)
    (hitems : items.Perm snapshot.items) (hexclusions : exclusions.Perm envelope.excludedItemIds) :
    validateOutfitProposalV1 { envelope with excludedItemIds := exclusions }
        { snapshot with items := items } result =
      validateOutfitProposalV1 envelope snapshot result := by
  have hvalidate : ({ snapshot with items := items } : OutfitRecommendationSnapshotV1).validate =
      .ok () ↔ snapshot.validate = .ok () := OutfitRecommendationSnapshotV1.validate_perm hitems
  have hsnapshot := mapError_congr (e := OutfitProposalValidationErrorV1.invalidContract) hvalidate
  by_cases hvalid : snapshot.validate = .ok ()
  · have hnodup := OutfitRecommendationSnapshotV1.nodup_itemIds hvalid
    have hnodup' := (hitems.map (·.itemId)).nodup_iff.mpr hnodup
    have heligible : ∀ item, item ∈ eligibleItems items exclusions ↔
        item ∈ eligibleItems snapshot.items envelope.excludedItemIds := fun item => by
      rw [mem_eligibleItems, mem_eligibleItems, hitems.mem_iff, hexclusions.mem_iff]
    simp only [validateOutfitProposalV1, OutfitRecommendationEnvelopeV1.validate_perm hexclusions,
      hsnapshot, validateProposals_congr (find?_itemById_perm hnodup' hitems)
        (fun _ => hexclusions.mem_iff) heligible]
  · -- an invalid snapshot is rejected whatever comes after
    have hrejected : (snapshot.validate.mapError fun _ =>
        OutfitProposalValidationErrorV1.invalidContract) = .error .invalidContract := by
      rcases hverdict : snapshot.validate with e | ⟨⟩
      · rfl
      · exact absurd hverdict hvalid
    simp only [validateOutfitProposalV1, OutfitRecommendationEnvelopeV1.validate_perm hexclusions,
      hsnapshot, hrejected]
    rfl

end Order

/-- **The validator is sound**, and its verdict does not depend on how the snapshot and
the exclusions are ordered. -/
theorem validateOutfitProposalV1_sound (envelope : OutfitRecommendationEnvelopeV1)
    (snapshot : OutfitRecommendationSnapshotV1) (result : StructuredOutfitRecommendationV1) :
    (∀ validated, validateOutfitProposalV1 envelope snapshot result = .ok validated →
      (result.catalogRevision = snapshot.catalogRevision ∧
        result.outfitRevision = snapshot.outfitRevision ∧
        envelope.expectedCatalogRevision = snapshot.catalogRevision ∧
        envelope.expectedOutfitRevision = snapshot.outfitRevision) ∧
      validated = ⟨result.schemaRevision, result.compatibilityRevision, result.capabilityRevision,
        snapshot.catalogRevision, snapshot.outfitRevision, result.proposals⟩ ∧
      ∀ proposal ∈ result.proposals, ProposalSound envelope snapshot proposal) ∧
    ∀ items exclusions, items.Perm snapshot.items → exclusions.Perm envelope.excludedItemIds →
      validateOutfitProposalV1 { envelope with excludedItemIds := exclusions }
          { snapshot with items := items } result =
        validateOutfitProposalV1 envelope snapshot result :=
  ⟨fun _ h => validateOutfitProposalV1_eq_ok h,
    fun _ _ hitems hexclusions => validateOutfitProposalV1_perm result hitems hexclusions⟩

namespace OutfitExample

/-- Separates for the heat, and an outer layer and shoes for snow. -/
def top : OutfitRecommendationSnapshotItemV1 := item 1 .top

@[inherit_doc top]
def bottom : OutfitRecommendationSnapshotItemV1 := item 2 .bottom

@[inherit_doc top]
def snowCoat : OutfitRecommendationSnapshotItemV1 :=
  { item 3 .outerwear with capabilityTags := [.weatherSnow] }

@[inherit_doc top]
def snowBoots : OutfitRecommendationSnapshotItemV1 :=
  { item 4 .shoes with capabilityTags := [.weatherSnow] }

def hotSnow : OutfitRecommendationConstraintsV1 := ⟨none, some 30, some .snow⟩

def envelope : OutfitRecommendationEnvelopeV1 := ⟨"outfit", hotSnow, [], 1, 0, 0, ⟨.default, "p"⟩⟩

/-- The coat left at home. -/
def proposal : OutfitProposalV1 where
  name := "name"
  itemIds := [top.itemId, bottom.itemId, snowBoots.itemId]
  rationale := "why"
  caveats := [outfitUnsatisfiableCaveatV1]
  unresolvedConstraints := [unresolvedAssessment .precipitation]
  constraintAssessment := [satisfiedAssessment .temperature, unresolvedAssessment .precipitation]

def result : StructuredOutfitRecommendationV1 :=
  ⟨"outfit-recommendation-schema-v1", "outfit-compatibility-v1", "outfit-capability-v1", 0, 0,
    [proposal]⟩

def wardrobe : OutfitRecommendationSnapshotV1 := snapshot [top, bottom, snowCoat, snowBoots]

/-- The answer as it is accepted. -/
def validated : ValidatedOutfitRecommendationV1 :=
  ⟨"outfit-recommendation-schema-v1", "outfit-compatibility-v1", "outfit-capability-v1", 0, 0,
    [proposal]⟩

theorem sound_without_coat : ProposalSound envelope wardrobe proposal ∧
    validateOutfitProposalV1 envelope (snapshot [snowBoots, snowCoat, bottom, top]) result =
      .ok validated := by
  have haccepted : validateOutfitProposalV1 envelope wardrobe result = .ok validated := by
    decide +kernel
  obtain ⟨hsound, horder⟩ := validateOutfitProposalV1_sound envelope wardrobe result
  refine ⟨(hsound validated haccepted).2.2 proposal List.mem_cons_self, ?_⟩
  have hperm : [snowBoots, snowCoat, bottom, top].Perm wardrobe.items :=
    List.reverse_perm [top, bottom, snowCoat, snowBoots]
  exact (horder _ [] hperm (List.Perm.refl _)).trans haccepted

/-- Snow is reported unresolved although the coat and the boots meet it: not at thirty
degrees. -/
theorem snow_unresolved : ¬ ∀ (envelope : OutfitRecommendationEnvelopeV1)
    (snapshot : OutfitRecommendationSnapshotV1) (result : StructuredOutfitRecommendationV1)
    (validated : ValidatedOutfitRecommendationV1),
    validateOutfitProposalV1 envelope snapshot result = .ok validated →
    ∀ proposal ∈ result.proposals, ∀ kind ∈ explicitConstraintKinds envelope.constraints,
      (∀ selected : List OutfitRecommendationSnapshotItemV1,
        selected.map (·.itemId) = proposal.itemIds → (∀ item ∈ selected, item ∈ snapshot.items) →
          constraintMet kind envelope.constraints selected = true) ∨
        ¬ ∃ outfit : List OutfitRecommendationSnapshotItemV1,
          (∀ item ∈ outfit, item ∈ eligibleItems snapshot.items envelope.excludedItemIds) ∧
            (outfit.map (·.itemId)).Nodup ∧ coherentBase outfit = true ∧
            constraintMet kind envelope.constraints outfit = true := by
  intro h
  have haccepted : validateOutfitProposalV1 envelope wardrobe result = .ok validated := by
    decide +kernel
  rcases h _ _ _ _ haccepted proposal List.mem_cons_self .precipitation (by decide) with
    hmet | hnone
  · have hunmet := hmet [top, bottom, snowBoots] rfl (by decide)
    exact absurd hunmet (by decide)
  · exact hnone ⟨[top, bottom, snowCoat, snowBoots], by decide, by decide, by decide, by decide⟩

end OutfitExample

end Threadbook
