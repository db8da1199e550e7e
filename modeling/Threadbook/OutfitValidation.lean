import Mathlib.Data.List.Perm.Basic
import Mathlib.Data.Prod.Lex
import Threadbook.OutfitContract
import Threadbook.Table

/-!
# The outfit validator

Which categories go together, when an outfit meets a constraint, the search for an
outfit that meets them all, and `validateOutfitProposalV1` that judges a provider's
answer by them.
-/

namespace Threadbook

/-! ## Coherence and constraints -/

def coherentCategories (categories : List ItemCategoryV1) : Bool :=
  let count := fun target => categories.count target
  if 1 < count .dress ∨ 1 < count .top ∨ 1 < count .bottom ∨ 1 < count .activewear ∨
      1 < count .outerwear ∨ 1 < count .shoes ∨ 4 < count .accessory ∨ 0 < count .underwear ∨
      0 < count .other then false
  else
    let dress := count .dress
    let top := count .top
    let bottom := count .bottom
    let active := count .activewear
    (dress = 1 ∧ top = 0 ∧ bottom = 0 ∧ active = 0) ∨
      (dress = 0 ∧ top = 1 ∧ bottom = 1 ∧ active = 0) ∨
      (dress = 0 ∧ top = 0 ∧ bottom = 0 ∧ active = 1)

def coherentBase (selected : List OutfitRecommendationSnapshotItemV1) : Bool :=
  coherentCategories (selected.map (·.category))

def occasionMet (occasion : OutfitOccasionV1) (categories : List ItemCategoryV1) : Bool :=
  let coherent := coherentCategories categories
  let active := categories.contains .activewear
  let shoes := categories.contains .shoes
  let dress := categories.contains .dress
  let separates := categories.contains .top && categories.contains .bottom
  match occasion with
  | .casual | .date => coherent
  | .work => coherent && !active && shoes
  | .formal => (dress || separates) && shoes && !active
  | .active => active && coherent && shoes
  | .travel => coherent && shoes

def temperatureMet (temperature : ℤ) (items : List (ItemCategoryV1 × Bool)) : Bool :=
  let hasOuterwear := items.any fun item => item.1 = .outerwear
  let hasShoes := items.any fun item => item.1 = .shoes
  let hasCold := items.any fun item => item.2
  if temperature ≤ 0 then hasShoes && items.any fun item => item.1 = .outerwear && item.2
  else if temperature ≤ 10 then hasOuterwear
  else if temperature ≤ 27 then true
  else !hasOuterwear && !hasCold

def precipitationMet (precipitation : OutfitPrecipitationV1)
    (items : List (ItemCategoryV1 × Bool × Bool)) : Bool :=
  let hasShoes := items.any fun item => item.1 = .shoes
  match precipitation with
  | .none => true
  | .rain => hasShoes && items.any fun item => (item.1 = .outerwear || item.1 = .shoes) && item.2.1
  | .snow => (items.any fun item => item.1 = .outerwear && item.2.2) &&
      items.any fun item => item.1 = .shoes && item.2.2

def OutfitRecommendationSnapshotItemV1.hasTag (item : OutfitRecommendationSnapshotItemV1)
    (tag : OutfitCapabilityTagV1) : Bool := item.capabilityTags.contains tag

def constraintMet (kind : OutfitConstraintKindV1) (constraints : OutfitRecommendationConstraintsV1)
    (selected : List OutfitRecommendationSnapshotItemV1) : Bool :=
  match kind with
  | .occasion => constraints.occasion.all fun occasion =>
      occasionMet occasion (selected.map (·.category))
  | .temperature => constraints.temperatureC.all fun temperature =>
      temperatureMet temperature (selected.map fun item => (item.category, item.hasTag .insulationCold))
  | .precipitation => constraints.precipitation.all fun precipitation =>
      precipitationMet precipitation (selected.map fun item =>
        (item.category, item.hasTag .weatherRain, item.hasTag .weatherSnow))

def explicitConstraintKinds (constraints : OutfitRecommendationConstraintsV1) :
    List OutfitConstraintKindV1 :=
  (if constraints.occasion.isSome then [.occasion] else []) ++
    (if constraints.temperatureC.isSome then [.temperature] else []) ++
    if constraints.precipitation.isSome then [.precipitation] else []

/-! ## The search -/

structure ItemSignature where
  category : ItemCategoryV1
  rain : Bool
  snow : Bool
  cold : Bool
  deriving DecidableEq

def ItemSignature.fromItem (item : OutfitRecommendationSnapshotItemV1) : ItemSignature :=
  ⟨item.category, item.hasTag .weatherRain, item.hasTag .weatherSnow, item.hasTag .insulationCold⟩

/-- The place of a category in the order of signatures. -/
def categoryCode : ItemCategoryV1 → ℕ
  | .top => 0
  | .bottom => 1
  | .dress => 2
  | .outerwear => 3
  | .shoes => 4
  | .accessory => 5
  | .underwear => 6
  | .activewear => 7
  | .other => 8

def ItemSignature.key (signature : ItemSignature) : ℕ ×ₗ Bool ×ₗ Bool ×ₗ Bool :=
  toLex (categoryCode signature.category,
    toLex (signature.rain, toLex (signature.snow, signature.cold)))

def signaturesOf (eligible : List OutfitRecommendationSnapshotItemV1) : List ItemSignature :=
  (eligible.foldl (fun signatures item =>
    if ItemSignature.fromItem item ∈ signatures then signatures
    else signatures ++ [ItemSignature.fromItem item]) []).insertionSort
      fun left right => left.key ≤ right.key

def signatureConstraintMet (kind : OutfitConstraintKindV1)
    (constraints : OutfitRecommendationConstraintsV1) (selected : List ItemSignature) : Bool :=
  match kind with
  | .occasion => constraints.occasion.all fun occasion =>
      occasionMet occasion (selected.map (·.category))
  | .temperature => constraints.temperatureC.all fun temperature =>
      temperatureMet temperature (selected.map fun item => (item.category, item.cold))
  | .precipitation => constraints.precipitation.all fun precipitation =>
      precipitationMet precipitation (selected.map fun item => (item.category, item.rain, item.snow))

def signatureConstraintsMet (target : OutfitConstraintKindV1)
    (constraints : OutfitRecommendationConstraintsV1) (selected : List ItemSignature) : Bool :=
  ((explicitConstraintKinds constraints).all fun kind =>
    kind = target || signatureConstraintMet kind constraints selected) &&
    signatureConstraintMet target constraints selected

def requiredSignatures (signatures : List ItemSignature) (category : ItemCategoryV1) :
    List ItemSignature :=
  signatures.filter fun value => value.category = category

def optionalSignatures (signatures : List ItemSignature) (category : ItemCategoryV1) :
    List (Option ItemSignature) :=
  none :: (requiredSignatures signatures category).map some

def outfitBases (signatures : List ItemSignature) : List (List ItemSignature) :=
  (requiredSignatures signatures .dress).map (fun value => [value]) ++
    (requiredSignatures signatures .top).flatMap (fun top =>
      (requiredSignatures signatures .bottom).map fun bottom => [top, bottom]) ++
    (requiredSignatures signatures .activewear).map fun value => [value]

def constraintSatisfiable (target : OutfitConstraintKindV1)
    (constraints : OutfitRecommendationConstraintsV1)
    (eligible : List OutfitRecommendationSnapshotItemV1) : Bool :=
  let signatures := signaturesOf eligible
  (outfitBases signatures).any fun base =>
    (optionalSignatures signatures .outerwear).any fun outer =>
      (optionalSignatures signatures .shoes).any fun shoe =>
        let candidate := base ++ outer.toList ++ shoe.toList
        minRecommendationItems ≤ candidate.length &&
          signatureConstraintsMet target constraints candidate

/-! ## The validator -/

/-- Why an answer is rejected. -/
inductive OutfitProposalValidationErrorV1
  | invalidContract
  | staleCatalogRevision
  | staleOutfitRevision
  | unknownItem
  | inactiveItem
  | duplicateItem
  | excludedItem
  | incompatibleItems
  | satisfiableConstraintUnmet
  | invalidUnresolvedConstraint
  | constraintAssessmentMismatch
  deriving DecidableEq

/-- An answer that was accepted. -/
structure ValidatedOutfitRecommendationV1 where
  schemaRevision : String
  compatibilityRevision : String
  capabilityRevision : String
  catalogRevision : ℕ
  outfitRevision : ℕ
  proposals : List OutfitProposalV1
  deriving DecidableEq

def itemById (items : List OutfitRecommendationSnapshotItemV1) :
    Table ItemId OutfitRecommendationSnapshotItemV1 :=
  items.foldl (fun t item => t.put item.itemId item) Table.empty

def eligibleItems (items : List OutfitRecommendationSnapshotItemV1) (exclusions : List ItemId) :
    List OutfitRecommendationSnapshotItemV1 :=
  items.filter fun item => item.active && item.itemId ∉ exclusions

def selectItems (items : Table ItemId OutfitRecommendationSnapshotItemV1)
    (exclusions : List ItemId) :
    List ItemId → List ItemId →
      Except OutfitProposalValidationErrorV1 (List OutfitRecommendationSnapshotItemV1)
  | _, [] => .ok []
  | seen, itemId :: rest =>
    if itemId ∈ seen then .error .duplicateItem
    else match items.find? itemId with
      | none => .error .unknownItem
      | some item =>
        if ¬ item.active then .error .inactiveItem
        else if itemId ∈ exclusions then .error .excludedItem
        else do
          let selected ← selectItems items exclusions (itemId :: seen) rest
          .ok (item :: selected)

def assessConstraints (constraints : OutfitRecommendationConstraintsV1)
    (eligible selected : List OutfitRecommendationSnapshotItemV1) :
    List OutfitConstraintKindV1 →
      Except OutfitProposalValidationErrorV1 (List OutfitConstraintAssessmentV1)
  | [] => .ok []
  | kind :: rest =>
    if constraintMet kind constraints selected then do
      let assessments ← assessConstraints constraints eligible selected rest
      .ok (satisfiedAssessment kind :: assessments)
    else if constraintSatisfiable kind constraints eligible then
      .error .satisfiableConstraintUnmet
    else do
      let assessments ← assessConstraints constraints eligible selected rest
      .ok (unresolvedAssessment kind :: assessments)

def recomputeConstraintAssessment (constraints : OutfitRecommendationConstraintsV1)
    (eligible selected : List OutfitRecommendationSnapshotItemV1) :
    Except OutfitProposalValidationErrorV1 (List OutfitConstraintAssessmentV1) :=
  assessConstraints constraints eligible selected (explicitConstraintKinds constraints)

def validateProposal (envelope : OutfitRecommendationEnvelopeV1)
    (items : Table ItemId OutfitRecommendationSnapshotItemV1)
    (eligible : List OutfitRecommendationSnapshotItemV1) (proposal : OutfitProposalV1) :
    Except OutfitProposalValidationErrorV1 OutfitProposalV1 := do
  let selected ← selectItems items envelope.excludedItemIds [] proposal.itemIds
  if ¬ coherentBase selected then .error .incompatibleItems
  else
    let recomputed ← recomputeConstraintAssessment envelope.constraints eligible selected
    if proposal.constraintAssessment ≠ recomputed then .error .constraintAssessmentMismatch
    else
      let unresolved := recomputed.filter fun assessment => assessment.status = .unresolved
      if proposal.unresolvedConstraints ≠ unresolved then .error .invalidUnresolvedConstraint
      else if unresolved.any fun assessment =>
          assessment.caveat.any fun caveat => !proposal.caveats.contains caveat then
        .error .invalidUnresolvedConstraint
      else .ok proposal

def validateProposals (envelope : OutfitRecommendationEnvelopeV1)
    (items : Table ItemId OutfitRecommendationSnapshotItemV1)
    (eligible : List OutfitRecommendationSnapshotItemV1) :
    List OutfitProposalV1 → Except OutfitProposalValidationErrorV1 (List OutfitProposalV1)
  | [] => .ok []
  | proposal :: rest => do
    let validated ← validateProposal envelope items eligible proposal
    let others ← validateProposals envelope items eligible rest
    .ok (validated :: others)

/-- Judge a provider's answer. -/
def validateOutfitProposalV1 (envelope : OutfitRecommendationEnvelopeV1)
    (snapshot : OutfitRecommendationSnapshotV1) (result : StructuredOutfitRecommendationV1) :
    Except OutfitProposalValidationErrorV1 ValidatedOutfitRecommendationV1 := do
  envelope.validate.mapError fun _ => .invalidContract
  snapshot.validate.mapError fun _ => .invalidContract
  result.validate.mapError fun _ => .invalidContract
  if envelope.expectedCatalogRevision ≠ snapshot.catalogRevision ∨
      result.catalogRevision ≠ snapshot.catalogRevision then .error .staleCatalogRevision
  else if envelope.expectedOutfitRevision ≠ snapshot.outfitRevision ∨
      result.outfitRevision ≠ snapshot.outfitRevision then .error .staleOutfitRevision
  else if result.proposals.length ≠ envelope.requestedProposalCount then .error .invalidContract
  else
    let proposals ← validateProposals envelope (itemById snapshot.items)
      (eligibleItems snapshot.items envelope.excludedItemIds) result.proposals
    .ok ⟨result.schemaRevision, result.compatibilityRevision, result.capabilityRevision,
      result.catalogRevision, result.outfitRevision, proposals⟩

end Threadbook
