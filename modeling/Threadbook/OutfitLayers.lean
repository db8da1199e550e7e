import Threadbook.OutfitValidation

/-!
# Layers of an outfit

A coherent outfit is layers and accessories (`exists_layers`): a base, at most one outer
layer, at most one pair of shoes. Accessories help to meet no constraint
(`MeetsAll.of_append`), and where the constraints demand neither shoes nor an outer
layer, an outfit meets them exactly when each item may be worn (`meetsAll_iff_usable`).
-/

namespace Threadbook

open List

def MeetsAll (constraints : OutfitRecommendationConstraintsV1)
    (selected : List OutfitRecommendationSnapshotItemV1) : Prop :=
  ∀ kind, constraintMet kind constraints selected = true

variable {constraints : OutfitRecommendationConstraintsV1}
  {selected selected' base : List OutfitRecommendationSnapshotItemV1}
  {outer shoe : Option OutfitRecommendationSnapshotItemV1}

theorem meetsAll_iff : MeetsAll constraints selected ↔
    ∀ kind ∈ explicitConstraintKinds constraints, constraintMet kind constraints selected = true := by
  refine ⟨fun h kind _ => h kind, fun h kind => ?_⟩
  cases kind with
  | occasion =>
    rcases ho : constraints.occasion with _ | occasion
    · simp [constraintMet, ho]
    · exact h _ (by simp [explicitConstraintKinds, ho])
  | temperature =>
    rcases ht : constraints.temperatureC with _ | temperature
    · simp [constraintMet, ht]
    · exact h _ (by simp [explicitConstraintKinds, ht])
  | precipitation =>
    rcases hp : constraints.precipitation with _ | precipitation
    · simp [constraintMet, hp]
    · exact h _ (by simp [explicitConstraintKinds, hp])

/-! ## Order does not matter -/

section Order

theorem coherentCategories_perm {left right : List ItemCategoryV1} (h : left.Perm right) :
    coherentCategories left = coherentCategories right := by
  simp only [coherentCategories, h.count_eq]

theorem constraintMet_perm (h : selected.Perm selected') (kind : OutfitConstraintKindV1) :
    constraintMet kind constraints selected = constraintMet kind constraints selected' := by
  cases kind with
  | occasion =>
    have hcategories := h.map fun item => item.category
    simp only [constraintMet, occasionMet, coherentCategories_perm hcategories,
      hcategories.contains_eq]
  | temperature =>
    have hitems := h.map fun item => (item.category, item.hasTag .insulationCold)
    simp only [constraintMet, temperatureMet, hitems.any_eq]
  | precipitation =>
    have hitems := h.map fun item =>
      (item.category, item.hasTag .weatherRain, item.hasTag .weatherSnow)
    simp only [constraintMet, precipitationMet, hitems.any_eq]

theorem MeetsAll.perm (hmeets : MeetsAll constraints selected) (h : selected.Perm selected') :
    MeetsAll constraints selected' := fun kind => by
  rw [← constraintMet_perm h]
  exact hmeets kind

end Order

/-! ## Layers -/

def IsBase (base : List OutfitRecommendationSnapshotItemV1) : Prop :=
  (∃ item, base = [item] ∧ (item.category = .dress ∨ item.category = .activewear)) ∨
    ∃ top bottom, base = [top, bottom] ∧ top.category = .top ∧ bottom.category = .bottom

structure Layers (base : List OutfitRecommendationSnapshotItemV1)
    (outer shoe : Option OutfitRecommendationSnapshotItemV1) : Prop where
  base : IsBase base
  outer : ∀ item ∈ outer, item.category = .outerwear
  shoe : ∀ item ∈ shoe, item.category = .shoes

abbrev layered (base : List OutfitRecommendationSnapshotItemV1)
    (outer shoe : Option OutfitRecommendationSnapshotItemV1) :
    List OutfitRecommendationSnapshotItemV1 := base ++ outer.toList ++ shoe.toList

namespace Layers

theorem coherent (h : Layers base outer shoe) :
    coherentBase (layered base outer shoe) = true ∧
      ((layered base outer shoe).map (·.category)).Nodup := by
  have houter : outer.toList.map (·.category) = [] ∨
      outer.toList.map (·.category) = [.outerwear] := by
    rcases outer with _ | item
    · exact .inl rfl
    · exact .inr (by simp [h.outer item rfl])
  have hshoe : shoe.toList.map (·.category) = [] ∨ shoe.toList.map (·.category) = [.shoes] := by
    rcases shoe with _ | item
    · exact .inl rfl
    · exact .inr (by simp [h.shoe item rfl])
  have hbase : base.map (·.category) = [.dress] ∨ base.map (·.category) = [.activewear] ∨
      base.map (·.category) = [.top, .bottom] := by
    rcases h.base with ⟨item, rfl, hitem | hitem⟩ | ⟨top, bottom, rfl, htop, hbottom⟩
    · exact .inl (by simp [hitem])
    · exact .inr (.inl (by simp [hitem]))
    · exact .inr (.inr (by simp [htop, hbottom]))
  rw [coherentBase, layered, map_append, map_append]
  rcases hbase with hbase | hbase | hbase <;> rcases houter with houter | houter <;>
    rcases hshoe with hshoe | hshoe <;> rw [hbase, houter, hshoe] <;> decide

theorem length_le (h : Layers base outer shoe) : (layered base outer shoe).length ≤ 4 := by
  have hbase : base.length ≤ 2 := by
    rcases h.base with ⟨item, rfl, -⟩ | ⟨top, bottom, rfl, -⟩ <;> simp
  have houter : outer.toList.length ≤ 1 := by cases outer <;> simp
  have hshoe : shoe.toList.length ≤ 1 := by cases shoe <;> simp
  rw [layered, length_append, length_append]
  omega

theorem eq_of_length_lt (h : Layers base outer shoe)
    (hlt : (layered base outer shoe).length < 2) :
    ∃ item, base = [item] ∧ (item.category = .dress ∨ item.category = .activewear) ∧
      outer = none ∧ shoe = none := by
  rw [layered, length_append, length_append] at hlt
  rcases h.base with ⟨item, rfl, hitem⟩ | ⟨top, bottom, rfl, -⟩
  · refine ⟨item, rfl, hitem, ?_, ?_⟩
    · rcases outer with _ | x
      · rfl
      · simp only [length_singleton, Option.toList_some] at hlt
        omega
    · rcases shoe with _ | x
      · rfl
      · simp only [length_singleton, Option.toList_some] at hlt
        omega
  · simp only [length_cons, length_nil] at hlt
    omega

end Layers

abbrev ofCategory (selected : List OutfitRecommendationSnapshotItemV1)
    (category : ItemCategoryV1) : List OutfitRecommendationSnapshotItemV1 :=
  selected.filter fun item => item.category = category

theorem length_ofCategory (selected : List OutfitRecommendationSnapshotItemV1)
    (category : ItemCategoryV1) :
    (ofCategory selected category).length = (selected.map (·.category)).count category := by
  rw [count_eq_countP, countP_map, countP_eq_length_filter]
  congr

theorem perm_ofCategory (selected : List OutfitRecommendationSnapshotItemV1) :
    selected.Perm (ofCategory selected .dress ++ ofCategory selected .top ++
      ofCategory selected .bottom ++ ofCategory selected .activewear ++
      ofCategory selected .outerwear ++ ofCategory selected .shoes ++
      ofCategory selected .accessory ++ ofCategory selected .underwear ++
      ofCategory selected .other) := by
  refine perm_iff_count.mpr fun item => ?_
  have hcount : ∀ category, (ofCategory selected category).count item =
      if item.category = category then selected.count item else 0 := by
    intro category
    split
    · rename_i h
      exact count_filter (by simpa using h)
    · rename_i h
      exact count_eq_zero.mpr fun hmem => h (by simpa using (mem_filter.mp hmem).2)
  simp only [count_append, hcount]
  cases item.category <;> simp

/-- **A coherent outfit is layers and accessories.** -/
theorem exists_layers (h : coherentBase selected = true) :
    ∃ base outer shoe accessories, Layers base outer shoe ∧
      (∀ item ∈ accessories, item.category = ItemCategoryV1.accessory) ∧
      selected.Perm (layered base outer shoe ++ accessories) := by
  have hof : ∀ category, ∀ item ∈ ofCategory selected category, item.category = category :=
    fun category item hitem => by simpa using (mem_filter.mp hitem).2
  have hoption : ∀ category, (ofCategory selected category).length ≤ 1 →
      ∃ item? : Option OutfitRecommendationSnapshotItemV1,
        ofCategory selected category = item?.toList := by
    intro category hle
    rcases hcat : ofCategory selected category with _ | ⟨item, _ | ⟨other, rest⟩⟩
    · exact ⟨none, rfl⟩
    · exact ⟨some item, rfl⟩
    · rw [hcat] at hle
      simp at hle
  have hone : ∀ category, (ofCategory selected category).length = 1 →
      ∃ item, ofCategory selected category = [item] ∧ item.category = category := by
    intro category heq
    obtain ⟨item, hitem⟩ := length_eq_one_iff.mp heq
    exact ⟨item, hitem, hof category item (by rw [hitem]; exact mem_singleton_self item)⟩
  have hnone : ∀ category, (ofCategory selected category).length = 0 →
      ofCategory selected category = [] := fun _ => length_eq_zero_iff.mp
  simp only [coherentBase, coherentCategories, ← length_ofCategory] at h
  split at h
  · cases h
  · rename_i hbounds
    simp only [not_or, not_lt, Nat.le_zero] at hbounds
    obtain ⟨-, -, -, -, houter, hshoe, -, hunderwear, hother⟩ := hbounds
    obtain ⟨outer, houter⟩ := hoption _ houter
    obtain ⟨shoe, hshoe⟩ := hoption _ hshoe
    have hperm := perm_ofCategory selected
    rw [hnone _ hunderwear, hnone _ hother, houter, hshoe, append_nil, append_nil] at hperm
    have houters : ∀ item ∈ outer, item.category = .outerwear := fun item hitem =>
      hof _ item (by rw [houter]; exact Option.mem_toList.mpr hitem)
    have hshoes : ∀ item ∈ shoe, item.category = .shoes := fun item hitem =>
      hof _ item (by rw [hshoe]; exact Option.mem_toList.mpr hitem)
    simp only [decide_eq_true_eq] at h
    rcases h with ⟨hdress, htop, hbottom, hactive⟩ | ⟨hdress, htop, hbottom, hactive⟩ |
      ⟨hdress, htop, hbottom, hactive⟩
    · obtain ⟨dress, hdress, hcategory⟩ := hone _ hdress
      rw [hdress, hnone _ htop, hnone _ hbottom, hnone _ hactive] at hperm
      exact ⟨[dress], outer, shoe, _, ⟨.inl ⟨dress, rfl, .inl hcategory⟩, houters, hshoes⟩,
        hof _, hperm⟩
    · obtain ⟨top, htop, htopCategory⟩ := hone _ htop
      obtain ⟨bottom, hbottom, hbottomCategory⟩ := hone _ hbottom
      rw [hnone _ hdress, htop, hbottom, hnone _ hactive] at hperm
      exact ⟨[top, bottom], outer, shoe, _, ⟨.inr ⟨top, bottom, rfl, htopCategory,
        hbottomCategory⟩, houters, hshoes⟩, hof _, hperm⟩
    · obtain ⟨active, hactive, hcategory⟩ := hone _ hactive
      rw [hnone _ hdress, hnone _ htop, hnone _ hbottom, hactive] at hperm
      exact ⟨[active], outer, shoe, _, ⟨.inl ⟨active, rfl, .inr hcategory⟩, houters, hshoes⟩,
        hof _, hperm⟩

/-! ## Accessories -/

section Accessories

variable {accessories : List OutfitRecommendationSnapshotItemV1}

theorem any_append_accessories {p : OutfitRecommendationSnapshotItemV1 → Bool}
    (h : ∀ item ∈ accessories, p item = false) :
    (selected ++ accessories).any p = selected.any p := by
  have hnone : accessories.any p = false :=
    any_eq_false.mpr fun item hitem => by simp [h item hitem]
  rw [any_append, hnone, Bool.or_false]

theorem coherentBase_of_append (haccessories : ∀ item ∈ accessories, item.category = .accessory)
    (h : coherentBase (selected ++ accessories) = true) : coherentBase selected = true := by
  have hcount : ∀ category, category ≠ .accessory →
      (accessories.map (·.category)).count category = 0 := by
    intro category hne
    refine count_eq_zero.mpr fun hmem => ?_
    obtain ⟨item, hitem, rfl⟩ := mem_map.mp hmem
    exact hne (haccessories item hitem)
  have hless : (selected.map (·.category)).count .accessory ≤
      ((selected ++ accessories).map (·.category)).count .accessory := by
    rw [map_append, count_append]
    exact Nat.le_add_right _ _
  have hsame : ∀ category, category ≠ .accessory →
      ((selected ++ accessories).map (·.category)).count category =
        (selected.map (·.category)).count category := by
    intro category hne
    rw [map_append, count_append, hcount category hne, Nat.add_zero]
  simp (disch := decide) only [coherentBase, coherentCategories, hsame] at h ⊢
  split at h
  · cases h
  · rename_i hbounds
    rw [if_neg fun hsome => hbounds ?_]
    · exact h
    · omega

/-- **Accessories help to meet no constraint.** -/
theorem MeetsAll.of_append (h : MeetsAll constraints (selected ++ accessories))
    (haccessories : ∀ item ∈ accessories, item.category = .accessory) :
    MeetsAll constraints selected := by
  have hany : ∀ p : OutfitRecommendationSnapshotItemV1 → Bool,
      (∀ item, item.category = .accessory → p item = false) →
        (selected ++ accessories).any p = selected.any p :=
    fun p hp => any_append_accessories fun item hitem => hp item (haccessories item hitem)
  intro kind
  have hkind := h kind
  cases kind with
  | occasion =>
    have hcontains : ∀ category, category ≠ .accessory →
        ((selected ++ accessories).map (·.category)).contains category =
          (selected.map (·.category)).contains category := by
      intro category hne
      rw [contains_eq_any_beq, contains_eq_any_beq, any_map, any_map]
      exact hany _ fun item hitem => by simp [hitem, hne]
    rcases ho : constraints.occasion with _ | occasion
    · simp [constraintMet, ho]
    · simp (disch := decide) only [constraintMet, ho, Option.all_some, occasionMet,
        hcontains] at hkind ⊢
      have hcoherent : coherentCategories ((selected ++ accessories).map (·.category)) = true →
          coherentCategories (selected.map (·.category)) = true :=
        coherentBase_of_append haccessories
      cases occasion with
      | formal => exact hkind
      | _ =>
        simp only [Bool.and_eq_true] at hkind ⊢
        simp only [hkind, hcoherent, and_self]
  | temperature =>
    rcases ht : constraints.temperatureC with _ | temperature
    · simp [constraintMet, ht]
    · simp only [constraintMet, ht, Option.all_some, temperatureMet, any_map] at hkind ⊢
      rw [hany _ fun item hitem => by simp [hitem], hany _ fun item hitem => by simp [hitem],
        hany _ fun item hitem => by simp [hitem], any_append, Bool.not_or] at hkind
      split_ifs at hkind ⊢
      · exact hkind
      · exact hkind
      · rfl
      · simp only [Bool.and_eq_true] at hkind ⊢
        exact ⟨hkind.1, hkind.2.1⟩
  | precipitation =>
    rcases hp : constraints.precipitation with _ | precipitation
    · simp [constraintMet, hp]
    · simp only [constraintMet, hp, Option.all_some, precipitationMet, any_map] at hkind ⊢
      rw [hany _ fun item hitem => by simp [hitem], hany _ fun item hitem => by simp [hitem],
        hany _ fun item hitem => by simp [hitem], hany _ fun item hitem => by simp [hitem]] at hkind
      exact hkind

end Accessories

/-! ## What the constraints demand -/

def DemandsMore (constraints : OutfitRecommendationConstraintsV1) : Prop :=
  (∃ occasion ∈ constraints.occasion, occasion ≠ .casual ∧ occasion ≠ .date) ∨
    (∃ temperature ∈ constraints.temperatureC, temperature ≤ 10) ∨
    ∃ precipitation ∈ constraints.precipitation, precipitation ≠ .none

def Usable (constraints : OutfitRecommendationConstraintsV1)
    (item : OutfitRecommendationSnapshotItemV1) : Prop :=
  (∃ temperature ∈ constraints.temperatureC, 27 < temperature) →
    item.category ≠ .outerwear ∧ item.hasTag .insulationCold = false

theorem meetsAll_iff_usable (hdemand : ¬ DemandsMore constraints)
    (hcoherent : coherentBase selected = true) :
    MeetsAll constraints selected ↔ ∀ item ∈ selected, Usable constraints item := by
  simp only [DemandsMore, not_or, not_exists, not_and, not_le, not_not] at hdemand
  obtain ⟨hoccasion, htemperature, hprecipitation⟩ := hdemand
  have hfirst : constraintMet .occasion constraints selected = true := by
    rcases ho : constraints.occasion with _ | occasion
    · simp [constraintMet, ho]
    · have hcasual := hoccasion occasion ho
      simp only [constraintMet, ho, Option.all_some]
      cases occasion with
      | casual => exact hcoherent
      | date => exact hcoherent
      | _ => exact absurd (hcasual (by decide)) (by decide)
  have hlast : constraintMet .precipitation constraints selected = true := by
    rcases hp : constraints.precipitation with _ | precipitation
    · simp [constraintMet, hp]
    · simp [constraintMet, hp, hprecipitation precipitation hp, precipitationMet]
  have hmiddle : constraintMet .temperature constraints selected = true ↔
      ∀ item ∈ selected, Usable constraints item := by
    rcases ht : constraints.temperatureC with _ | temperature
    · simp [constraintMet, Usable, ht]
    · have hcool := htemperature temperature ht
      by_cases hhot : 27 < temperature
      · simp only [constraintMet, Usable, ht, Option.all_some, temperatureMet,
          if_neg (show ¬ temperature ≤ 0 by omega), if_neg (show ¬ temperature ≤ 10 by omega),
          if_neg (show ¬ temperature ≤ 27 by omega)]
        simp [hhot, forall_and]
      · simp only [constraintMet, Usable, ht, Option.all_some, temperatureMet,
          if_neg (show ¬ temperature ≤ 0 by omega), if_neg (show ¬ temperature ≤ 10 by omega),
          if_pos (show temperature ≤ 27 by omega)]
        simp [hhot]
  rw [← hmiddle]
  refine ⟨fun h => h .temperature, fun h kind => ?_⟩
  cases kind with
  | occasion => exact hfirst
  | temperature => exact h
  | precipitation => exact hlast

theorem MeetsAll.not_demandsMore (h : MeetsAll constraints selected)
    (hbare : ∀ item ∈ selected, item.category ≠ .shoes ∧ item.category ≠ .outerwear) :
    ¬ DemandsMore constraints := by
  have hshoes : (selected.map (·.category)).contains .shoes = false := by
    rw [contains_eq_any_beq, any_map]
    exact any_eq_false.mpr fun item hitem => by simp [(hbare item hitem).1.symm]
  have houter : (selected.any fun item => item.category = .outerwear) = false :=
    any_eq_false.mpr fun item hitem => by simp [(hbare item hitem).2]
  have hshoe : (selected.any fun item => item.category = .shoes) = false :=
    any_eq_false.mpr fun item hitem => by simp [(hbare item hitem).1]
  rintro (⟨occasion, ho, hnot⟩ | ⟨temperature, ht, hle⟩ | ⟨precipitation, hp, hnot⟩)
  · have hmet := h .occasion
    rw [Option.mem_def] at ho
    simp only [constraintMet, ho, Option.all_some, occasionMet, hshoes] at hmet
    cases occasion with
    | casual => exact hnot.1 rfl
    | date => exact hnot.2 rfl
    | _ => simp at hmet
  · have hmet := h .temperature
    rw [Option.mem_def] at ht
    simp only [constraintMet, ht, Option.all_some, temperatureMet, any_map,
      Function.comp_def, hshoe, houter] at hmet
    split_ifs at hmet
    simp at hmet
  · have hmet := h .precipitation
    rw [Option.mem_def] at hp
    have hsnow : (selected.any fun item => decide (item.category = .outerwear) &&
        item.hasTag .weatherSnow) = false :=
      any_eq_false.mpr fun item hitem => by simp [(hbare item hitem).2]
    simp only [constraintMet, hp, Option.all_some, precipitationMet, any_map,
      Function.comp_def, hshoe, hsnow] at hmet
    cases precipitation with
    | none => exact hnot rfl
    | _ => simp at hmet

end Threadbook
