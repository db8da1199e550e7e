import Threadbook.OutfitLayers

/-!
# The search for an outfit

The search finds layers (`constraintSatisfiable_iff`), never accessories, so it misses
an outfit only when a one-piece reaches two items by its accessories alone.
`constraintSatisfiable_exact_iff` says when that matters.
-/

namespace Threadbook

open List

variable {constraints : OutfitRecommendationConstraintsV1}
  {selected base : List OutfitRecommendationSnapshotItemV1}
  {outer shoe : Option OutfitRecommendationSnapshotItemV1}

/-! ## What the search finds -/

section Search

variable {eligible : List OutfitRecommendationSnapshotItemV1} {target : OutfitConstraintKindV1}

theorem mem_signaturesOf {signature : ItemSignature} :
    signature ∈ signaturesOf eligible ↔
      ∃ item ∈ eligible, ItemSignature.fromItem item = signature := by
  have hfold : ∀ (items : List OutfitRecommendationSnapshotItemV1) (seen : List ItemSignature),
      signature ∈ items.foldl (fun signatures item =>
        if ItemSignature.fromItem item ∈ signatures then signatures
        else signatures ++ [ItemSignature.fromItem item]) seen ↔
        signature ∈ seen ∨ ∃ item ∈ items, ItemSignature.fromItem item = signature := by
    intro items
    induction items with
    | nil => simp
    | cons item rest ih =>
      intro seen
      rw [foldl_cons, ih]
      split
      · rename_i hmem
        refine ⟨?_, ?_⟩
        · rintro (hseen | ⟨other, hother, rfl⟩)
          · exact .inl hseen
          · exact .inr ⟨other, .tail _ hother, rfl⟩
        · rintro (hseen | ⟨other, hother, rfl⟩)
          · exact .inl hseen
          · cases mem_cons.mp hother with
            | inl heq => exact .inl (heq ▸ hmem)
            | inr hrest => exact .inr ⟨other, hrest, rfl⟩
      · rw [mem_append, mem_singleton, or_assoc]
        simp [eq_comm]
  rw [signaturesOf, mem_insertionSort, hfold]
  simp

theorem mem_requiredSignatures {signature : ItemSignature} {category : ItemCategoryV1} :
    signature ∈ requiredSignatures (signaturesOf eligible) category ↔
      ∃ item ∈ eligible, item.category = category ∧ ItemSignature.fromItem item = signature := by
  rw [requiredSignatures, mem_filter, mem_signaturesOf, decide_eq_true_eq]
  refine ⟨?_, ?_⟩
  · rintro ⟨⟨item, hitem, rfl⟩, hcategory⟩
    exact ⟨item, hitem, hcategory, rfl⟩
  · rintro ⟨item, hitem, hcategory, rfl⟩
    exact ⟨⟨item, hitem, rfl⟩, hcategory⟩

theorem mem_optionalSignatures {signature? : Option ItemSignature} {category : ItemCategoryV1} :
    signature? ∈ optionalSignatures (signaturesOf eligible) category ↔
      ∃ item? : Option OutfitRecommendationSnapshotItemV1,
        (∀ item ∈ item?, item ∈ eligible ∧ item.category = category) ∧
          item?.map ItemSignature.fromItem = signature? := by
  rw [optionalSignatures, mem_cons, mem_map]
  refine ⟨?_, ?_⟩
  · rintro (rfl | ⟨signature, hsignature, rfl⟩)
    · exact ⟨none, by simp, rfl⟩
    · obtain ⟨item, hitem, hcategory, rfl⟩ := mem_requiredSignatures.mp hsignature
      exact ⟨some item, by simp [hitem, hcategory], rfl⟩
  · rintro ⟨_ | item, hitem, rfl⟩
    · exact .inl rfl
    · obtain ⟨hmem, hcategory⟩ := hitem item rfl
      exact .inr ⟨_, mem_requiredSignatures.mpr ⟨item, hmem, hcategory, rfl⟩, rfl⟩

theorem mem_outfitBases {signatures : List ItemSignature} :
    signatures ∈ outfitBases (signaturesOf eligible) ↔
      ∃ base, IsBase base ∧ (∀ item ∈ base, item ∈ eligible) ∧
        base.map ItemSignature.fromItem = signatures := by
  simp only [outfitBases, mem_append, mem_map, mem_flatMap, mem_requiredSignatures]
  refine ⟨?_, ?_⟩
  · rintro ((⟨_, ⟨item, hitem, hcategory, rfl⟩, rfl⟩ |
      ⟨_, ⟨top, htop, htopCategory, rfl⟩, _, ⟨bottom, hbottom, hbottomCategory, rfl⟩, rfl⟩) |
      ⟨_, ⟨item, hitem, hcategory, rfl⟩, rfl⟩)
    · exact ⟨[item], .inl ⟨item, rfl, .inl hcategory⟩, by simp [hitem], rfl⟩
    · exact ⟨[top, bottom], .inr ⟨top, bottom, rfl, htopCategory, hbottomCategory⟩,
        by simp [htop, hbottom], rfl⟩
    · exact ⟨[item], .inl ⟨item, rfl, .inr hcategory⟩, by simp [hitem], rfl⟩
  · rintro ⟨base, ⟨item, rfl, hcategory | hcategory⟩ | ⟨top, bottom, rfl, htop, hbottom⟩, hmem, rfl⟩
    · exact .inl (.inl ⟨_, ⟨item, hmem item (by simp), hcategory, rfl⟩, rfl⟩)
    · exact .inr ⟨_, ⟨item, hmem item (by simp), hcategory, rfl⟩, rfl⟩
    · exact .inl (.inr ⟨_, ⟨top, hmem top (by simp), htop, rfl⟩, _,
        ⟨bottom, hmem bottom (by simp), hbottom, rfl⟩, rfl⟩)

theorem signatureConstraintMet_fromItem (kind : OutfitConstraintKindV1) :
    signatureConstraintMet kind constraints (selected.map ItemSignature.fromItem) =
      constraintMet kind constraints selected := by
  cases kind with
  | occasion => simp only [signatureConstraintMet, constraintMet, map_map]; rfl
  | temperature => simp only [signatureConstraintMet, constraintMet, map_map]; rfl
  | precipitation => simp only [signatureConstraintMet, constraintMet, map_map]; rfl

theorem signatureConstraintsMet_fromItem :
    signatureConstraintsMet target constraints (selected.map ItemSignature.fromItem) = true ↔
      MeetsAll constraints selected := by
  simp only [signatureConstraintsMet, signatureConstraintMet_fromItem, Bool.and_eq_true,
    all_eq_true, Bool.or_eq_true, decide_eq_true_eq]
  rw [meetsAll_iff]
  refine ⟨fun ⟨hothers, htarget⟩ kind hkind => ?_, fun h => ⟨fun kind hkind => .inr (h kind hkind),
    meetsAll_iff.mpr h target⟩⟩
  rcases hothers kind hkind with rfl | hmet
  · exact htarget
  · exact hmet

/-- **What the search finds**: layers of eligible items, at least two, that meet every
constraint. -/
theorem constraintSatisfiable_iff :
    constraintSatisfiable target constraints eligible = true ↔
      ∃ base outer shoe, Layers base outer shoe ∧
        (∀ item ∈ layered base outer shoe, item ∈ eligible) ∧
        2 ≤ (layered base outer shoe).length ∧ MeetsAll constraints (layered base outer shoe) := by
  have hmap : ∀ (base : List OutfitRecommendationSnapshotItemV1)
      (outer shoe : Option OutfitRecommendationSnapshotItemV1),
      base.map ItemSignature.fromItem ++ (outer.map ItemSignature.fromItem).toList ++
        (shoe.map ItemSignature.fromItem).toList =
      (layered base outer shoe).map ItemSignature.fromItem := by
    intro base outer shoe
    cases outer <;> cases shoe <;> simp
  simp only [constraintSatisfiable, any_eq_true, Bool.and_eq_true, decide_eq_true_eq,
    mem_outfitBases, mem_optionalSignatures]
  refine ⟨?_, ?_⟩
  · rintro ⟨_, ⟨base, hbase, hbaseMem, rfl⟩, _, ⟨outer, houter, rfl⟩, _, ⟨shoe, hshoe, rfl⟩,
      hlength, hmet⟩
    rw [hmap, length_map] at hlength
    rw [hmap, signatureConstraintsMet_fromItem] at hmet
    refine ⟨base, outer, shoe, ⟨hbase, fun item hitem => (houter item hitem).2,
      fun item hitem => (hshoe item hitem).2⟩, fun item hitem => ?_, hlength, hmet⟩
    simp only [layered, mem_append, Option.mem_toList] at hitem
    rcases hitem with (hitem | hitem) | hitem
    · exact hbaseMem item hitem
    · exact (houter item hitem).1
    · exact (hshoe item hitem).1
  · rintro ⟨base, outer, shoe, hlayers, hmem, hlength, hmet⟩
    simp only [layered, mem_append, Option.mem_toList] at hmem
    refine ⟨_, ⟨base, hlayers.base, fun item hitem => hmem item (.inl (.inl hitem)), rfl⟩,
      _, ⟨outer, fun item hitem => ⟨hmem item (.inl (.inr hitem)), hlayers.outer item hitem⟩,
        rfl⟩,
      _, ⟨shoe, fun item hitem => ⟨hmem item (.inr hitem), hlayers.shoe item hitem⟩, rfl⟩, ?_, ?_⟩
    · rw [hmap, length_map]
      exact hlength
    · rw [hmap, signatureConstraintsMet_fromItem]
      exact hmet

theorem constraintSatisfiable_congr {eligible' : List OutfitRecommendationSnapshotItemV1}
    (h : ∀ item, item ∈ eligible ↔ item ∈ eligible') :
    constraintSatisfiable target constraints eligible =
      constraintSatisfiable target constraints eligible' := by
  rw [Bool.eq_iff_iff, constraintSatisfiable_iff, constraintSatisfiable_iff]
  simp only [h]

end Search

/-! ## Exactness -/

section Exactness

variable {snapshot : OutfitRecommendationSnapshotV1} {exclusions : List ItemId}
  {target : OutfitConstraintKindV1}

theorem OutfitRecommendationSnapshotV1.nodup_itemIds (h : snapshot.validate = .ok ()) :
    (snapshot.items.map (·.itemId)).Nodup := by
  rw [OutfitRecommendationSnapshotV1.validate, check_unless_eq_ok] at h
  obtain ⟨-, h⟩ := h
  obtain ⟨⟨⟩, hids, -⟩ := check_bind_eq_ok.mp h
  exact (validateUniqueIds_eq_ok.mp hids).2.2

theorem mem_eligibleItems {items : List OutfitRecommendationSnapshotItemV1}
    {item : OutfitRecommendationSnapshotItemV1} :
    item ∈ eligibleItems items exclusions ↔
      item ∈ items ∧ item.active = true ∧ item.itemId ∉ exclusions := by
  rw [eligibleItems, mem_filter, Bool.and_eq_true, decide_eq_true_eq]

structure Satisfies (constraints : OutfitRecommendationConstraintsV1)
    (snapshot : OutfitRecommendationSnapshotV1) (exclusions : List ItemId)
    (selected : List OutfitRecommendationSnapshotItemV1) : Prop where
  known : ∀ item ∈ selected, item ∈ snapshot.items
  active : ∀ item ∈ selected, item.active = true
  notExcluded : ∀ item ∈ selected, item.itemId ∉ exclusions
  distinct : (selected.map (·.itemId)).Nodup
  least : minRecommendationItems ≤ selected.length
  most : selected.length ≤ maxRecommendationItems
  coherent : coherentBase selected = true
  meets : ∀ kind ∈ explicitConstraintKinds constraints, constraintMet kind constraints selected = true

namespace Satisfies

theorem meetsAll (h : Satisfies constraints snapshot exclusions selected) :
    MeetsAll constraints selected := meetsAll_iff.mpr h.meets

theorem eligible (h : Satisfies constraints snapshot exclusions selected)
    {item : OutfitRecommendationSnapshotItemV1} (hitem : item ∈ selected) :
    item ∈ eligibleItems snapshot.items exclusions :=
  mem_eligibleItems.mpr ⟨h.known item hitem, h.active item hitem, h.notExcluded item hitem⟩

theorem of_eligible (hvalid : snapshot.validate = .ok ())
    (heligible : ∀ item ∈ selected, item ∈ eligibleItems snapshot.items exclusions)
    (hnodup : selected.Nodup) (hleast : 2 ≤ selected.length) (hmost : selected.length ≤ 8)
    (hcoherent : coherentBase selected = true) (hmeets : MeetsAll constraints selected) :
    Satisfies constraints snapshot exclusions selected where
  known := fun item hitem => (mem_eligibleItems.mp (heligible item hitem)).1
  active := fun item hitem => (mem_eligibleItems.mp (heligible item hitem)).2.1
  notExcluded := fun item hitem => (mem_eligibleItems.mp (heligible item hitem)).2.2
  distinct := hnodup.map_on fun _ hx _ hy heq =>
    inj_on_of_nodup_map (OutfitRecommendationSnapshotV1.nodup_itemIds hvalid)
      (mem_eligibleItems.mp (heligible _ hx)).1 (mem_eligibleItems.mp (heligible _ hy)).1 heq
  least := hleast
  most := hmost
  coherent := hcoherent
  meets := fun kind _ => hmeets kind

end Satisfies

theorem exists_satisfies_of_found (hvalid : snapshot.validate = .ok ())
    (h : constraintSatisfiable target constraints (eligibleItems snapshot.items exclusions) = true) :
    ∃ selected, Satisfies constraints snapshot exclusions selected := by
  obtain ⟨base, outer, shoe, hlayers, hmem, hlength, hmeets⟩ := constraintSatisfiable_iff.mp h
  obtain ⟨hcoherent, hnodup⟩ := hlayers.coherent
  exact ⟨_, Satisfies.of_eligible hvalid hmem hnodup.of_map hlength
    (hlayers.length_le.trans (by decide)) hcoherent hmeets⟩

def IsOnePiece (item : OutfitRecommendationSnapshotItemV1) : Prop :=
  item.category = .dress ∨ item.category = .activewear

theorem Satisfies.found_or_onePiece (h : Satisfies constraints snapshot exclusions selected)
    (target : OutfitConstraintKindV1) :
    constraintSatisfiable target constraints (eligibleItems snapshot.items exclusions) = true ∨
      ∃ item accessories, IsOnePiece item ∧ accessories ≠ [] ∧
        (∀ accessory ∈ accessories, accessory.category = ItemCategoryV1.accessory) ∧
        selected.Perm (item :: accessories) := by
  obtain ⟨base, outer, shoe, accessories, hlayers, haccessories, hperm⟩ := exists_layers h.coherent
  by_cases hlength : 2 ≤ (layered base outer shoe).length
  · refine .inl (constraintSatisfiable_iff.mpr ⟨base, outer, shoe, hlayers, ?_, hlength, ?_⟩)
    · exact fun item hitem => h.eligible (hperm.mem_iff.mpr (mem_append_left _ hitem))
    · exact (h.meetsAll.perm hperm).of_append haccessories
  · obtain ⟨item, rfl, hitem, rfl, rfl⟩ := hlayers.eq_of_length_lt (not_le.mp hlength)
    have hperm' : selected.Perm (item :: accessories) := hperm
    refine .inr ⟨item, accessories, hitem, ?_, haccessories, hperm'⟩
    rintro rfl
    have hleast : 2 ≤ selected.length := h.least
    rw [hperm'.length_eq] at hleast
    simp at hleast

def SearchCovers (constraints : OutfitRecommendationConstraintsV1)
    (eligible : List OutfitRecommendationSnapshotItemV1) : Prop :=
  let wearable := fun item => item ∈ eligible ∧ Usable constraints item
  DemandsMore constraints ∨ (∀ item, wearable item → ¬ IsOnePiece item) ∨
    (∀ item, wearable item → item.category ≠ .accessory) ∨
    (∃ item, wearable item ∧ (item.category = .shoes ∨ item.category = .outerwear)) ∨
    (∃ item, wearable item ∧ item.category = .top) ∧ ∃ item, wearable item ∧ item.category = .bottom

theorem coherentBase_pair {item accessory : OutfitRecommendationSnapshotItemV1}
    (hitem : IsOnePiece item) (haccessory : accessory.category = .accessory) :
    coherentBase [item, accessory] = true := by
  rw [coherentBase, map_cons, map_cons, map_nil, haccessory]
  rcases hitem with hitem | hitem <;> rw [hitem] <;> decide

theorem found_of_usable {eligible : List OutfitRecommendationSnapshotItemV1}
    (hdemand : ¬ DemandsMore constraints) (hlayers : Layers base outer shoe)
    (hlength : 2 ≤ (layered base outer shoe).length)
    (hmem : ∀ item ∈ layered base outer shoe, item ∈ eligible ∧ Usable constraints item) :
    constraintSatisfiable target constraints eligible = true :=
  constraintSatisfiable_iff.mpr ⟨base, outer, shoe, hlayers, fun item hitem => (hmem item hitem).1,
    hlength, (meetsAll_iff_usable hdemand hlayers.coherent.1).mpr fun item hitem =>
      (hmem item hitem).2⟩

theorem Satisfies.found (h : Satisfies constraints snapshot exclusions selected)
    (hcovers : SearchCovers constraints (eligibleItems snapshot.items exclusions)) :
    constraintSatisfiable target constraints (eligibleItems snapshot.items exclusions) = true := by
  rcases h.found_or_onePiece target with hfound | ⟨item, accessories, hitem, hne,
    haccessories, hperm⟩
  · exact hfound
  · have hbare : ∀ x ∈ selected, x.category ≠ .shoes ∧ x.category ≠ .outerwear := by
      intro x hx
      cases mem_cons.mp (hperm.mem_iff.mp hx) with
      | inl heq => rcases hitem with hitem | hitem <;> rw [heq, hitem] <;> decide
      | inr hx => rw [haccessories x hx]; decide
    have hdemand := h.meetsAll.not_demandsMore hbare
    have husable := (meetsAll_iff_usable hdemand h.coherent).mp h.meetsAll
    have hwearable : ∀ x ∈ selected, x ∈ eligibleItems snapshot.items exclusions ∧
        Usable constraints x := fun x hx => ⟨h.eligible hx, husable x hx⟩
    have hin := hwearable item (hperm.mem_iff.mpr mem_cons_self)
    obtain ⟨accessory, haccessory⟩ := exists_mem_of_ne_nil _ hne
    rcases hcovers with hmore | hnone | hnone | ⟨x, hx, hcategory⟩ |
      ⟨⟨top, htop, htopCategory⟩, bottom, hbottom, hbottomCategory⟩
    · exact absurd hmore hdemand
    · exact absurd hitem (hnone item hin)
    · exact absurd (haccessories _ haccessory)
        (hnone _ (hwearable _ (hperm.mem_iff.mpr (.tail _ haccessory))))
    · rcases hcategory with hcategory | hcategory
      · have hlayers : Layers [item] none (some x) :=
          ⟨.inl ⟨item, rfl, hitem⟩, by simp, by simp [hcategory]⟩
        exact found_of_usable hdemand hlayers (by simp) (by simp [hin, hx])
      · have hlayers : Layers [item] (some x) none :=
          ⟨.inl ⟨item, rfl, hitem⟩, by simp [hcategory], by simp⟩
        exact found_of_usable hdemand hlayers (by simp) (by simp [hin, hx])
    · have hlayers : Layers [top, bottom] none none :=
        ⟨.inr ⟨top, bottom, rfl, htopCategory, hbottomCategory⟩, by simp, by simp⟩
      exact found_of_usable hdemand hlayers (by simp) (by simp [htop, hbottom])

/-- **The search is exact** exactly when it covers the constraints: then it succeeds if
and only if some outfit satisfies them. -/
theorem constraintSatisfiable_exact_iff (hvalid : snapshot.validate = .ok ())
    (target : OutfitConstraintKindV1) (constraints : OutfitRecommendationConstraintsV1)
    (exclusions : List ItemId) :
    (constraintSatisfiable target constraints (eligibleItems snapshot.items exclusions) = true ↔
      ∃ selected, Satisfies constraints snapshot exclusions selected) ↔
      SearchCovers constraints (eligibleItems snapshot.items exclusions) := by
  refine ⟨fun hexact => ?_, fun hcovers => ⟨exists_satisfies_of_found hvalid,
    fun ⟨_, h⟩ => h.found hcovers⟩⟩
  by_contra hmiss
  simp only [SearchCovers, not_or, not_forall, not_not, not_exists, not_and] at hmiss
  obtain ⟨hdemand, ⟨item, hin, hitem⟩, ⟨accessory, hworn, haccessory⟩, hbare, hseparates⟩ := hmiss
  -- the one-piece and the accessory satisfy the constraints
  have hcoherent := coherentBase_pair hitem haccessory
  have hne : item ≠ accessory := by
    rintro rfl
    rcases hitem with hitem | hitem <;> rw [hitem] at haccessory <;> cases haccessory
  have hpair : Satisfies constraints snapshot exclusions [item, accessory] := by
    refine Satisfies.of_eligible hvalid ?_ (by simp [hne]) (by simp) (by simp) hcoherent
      ((meetsAll_iff_usable hdemand hcoherent).mpr ?_)
    · simp [hin.1, hworn.1]
    · simp [hin.2, hworn.2]
  -- so the search finds something, and what it finds has shoes, an outer layer or separates
  obtain ⟨base, outer, shoe, hlayers, hmem, hlength, hmeets⟩ :=
    constraintSatisfiable_iff.mp (hexact.mpr ⟨_, hpair⟩)
  have husable := (meetsAll_iff_usable hdemand hlayers.coherent.1).mp hmeets
  have hwearable : ∀ x ∈ layered base outer shoe,
      x ∈ eligibleItems snapshot.items exclusions ∧ Usable constraints x :=
    fun x hx => ⟨hmem x hx, husable x hx⟩
  have houter : outer = none := by
    rcases outer with _ | x
    · rfl
    · exact absurd (hlayers.outer x rfl) (hbare x (hwearable x (by simp))).2
  have hshoe : shoe = none := by
    rcases shoe with _ | x
    · rfl
    · exact absurd (hlayers.shoe x rfl) (hbare x (hwearable x (by simp))).1
  subst houter hshoe
  rcases hlayers.base with ⟨x, rfl, -⟩ | ⟨top, bottom, rfl, htop, hbottom⟩
  · simp at hlength
  · exact hseparates ⟨top, hwearable top (by simp), htop⟩ bottom (hwearable bottom (by simp)) hbottom

/-- **A larger choice loses nothing**: what can be met stays so with more items in any order, with
fewer exclusions, and for every target. -/
theorem constraintSatisfiable_of_subset
    {items items' : List OutfitRecommendationSnapshotItemV1} {exclusions exclusions' : List ItemId}
    (hitems : items ⊆ items') (hexclusions : exclusions' ⊆ exclusions)
    (h : constraintSatisfiable target constraints (eligibleItems items exclusions) = true)
    (target' : OutfitConstraintKindV1) :
    constraintSatisfiable target' constraints (eligibleItems items' exclusions') = true := by
  obtain ⟨base, outer, shoe, hlayers, hmem, hmeets⟩ := constraintSatisfiable_iff.mp h
  refine constraintSatisfiable_iff.mpr ⟨base, outer, shoe, hlayers, fun item hitem => ?_, hmeets⟩
  obtain ⟨hin, hallowed⟩ := mem_filter.mp (hmem item hitem)
  simp only [Bool.and_eq_true, decide_eq_true_eq] at hallowed
  apply mem_filter.mpr ⟨hitems hin, _⟩
  simpa [hallowed.1] using mt (hexclusions ·) hallowed.2

end Exactness

namespace OutfitExample

def item (n : UInt8) (category : ItemCategoryV1) : OutfitRecommendationSnapshotItemV1 :=
  ⟨.above n, 1, true, category, []⟩

def dress : OutfitRecommendationSnapshotItemV1 := item 1 .dress

def accessory : OutfitRecommendationSnapshotItemV1 := item 2 .accessory

def shoes : OutfitRecommendationSnapshotItemV1 := item 3 .shoes

/-- A wardrobe. -/
def snapshot (items : List OutfitRecommendationSnapshotItemV1) : OutfitRecommendationSnapshotV1 :=
  ⟨0, 0, "outfit-capability-v1", items⟩

def casual : OutfitRecommendationConstraintsV1 := ⟨some .casual, none, none⟩

theorem exact_with_shoes :
    (constraintSatisfiable .occasion casual
        (eligibleItems (snapshot [dress, accessory, shoes]).items []) = true ↔
      ∃ selected, Satisfies casual (snapshot [dress, accessory, shoes]) [] selected) ↔
      SearchCovers casual (eligibleItems (snapshot [dress, accessory, shoes]).items []) :=
  constraintSatisfiable_exact_iff (by decide +kernel) .occasion casual []

theorem misses_dress_with_accessory :
    ¬ ∀ (target : OutfitConstraintKindV1) (constraints : OutfitRecommendationConstraintsV1)
      (snapshot : OutfitRecommendationSnapshotV1) (exclusions : List ItemId),
      snapshot.validate = .ok () →
      (constraintSatisfiable target constraints (eligibleItems snapshot.items exclusions) = true ↔
        ∃ selected, Satisfies constraints snapshot exclusions selected) := by
  intro h
  have hvalid : (snapshot [dress, accessory]).validate = .ok () := by decide +kernel
  have hfound : constraintSatisfiable .occasion casual
      (eligibleItems (snapshot [dress, accessory]).items []) = false := by decide +kernel
  have hsatisfies : Satisfies casual (snapshot [dress, accessory]) [] [dress, accessory] :=
    ⟨by decide, by decide, by decide, by decide, by decide, by decide, by decide, by decide⟩
  have hmissed := (h .occasion casual _ [] hvalid).mpr ⟨_, hsatisfies⟩
  rw [hfound] at hmissed
  cases hmissed

theorem met_by_more :
    constraintSatisfiable .precipitation casual (eligibleItems [accessory, shoes, dress] []) = true :=
  @constraintSatisfiable_of_subset casual .occasion [dress, shoes] _ [accessory.itemId] _ (by simp)
    (by simp) rfl .precipitation

end OutfitExample

end Threadbook
