import Mathlib
import Threadbook.Errors
import Threadbook.Fallible
import Threadbook.Text

/-!
# The outfit recommendation contract

The wardrobe snapshot a recommendation is made from, the envelope that asks for it and
the proposals that answer it, each with its `validate`. What a later proof needs of a
check is its characterisation: `validateUniqueIds_eq_ok`, `snapshot_validate_eq_ok`.
-/

namespace Threadbook

/-! ## Checks -/

/-- The largest integer a JavaScript number holds exactly. -/
def maxSafeIntegerV1 : ℕ := 9007199254740991

/-- A short identifier of letters, digits, dots, underscores, hyphens and colons. -/
def isBoundedIdentifier (value : String) (maxChars : ℕ) : Bool :=
  !value.isEmpty && byteLength value ≤ maxChars && (utf8Bytes value).all fun b =>
    Byte.isAsciiAlphanumeric b || b == '.'.toUInt8 || b == '_'.toUInt8 || b == '-'.toUInt8 ||
      b == ':'.toUInt8

def trim (value : String) : List Char :=
  (value.toList.dropWhile isWhitespace).rdropWhile isWhitespace

def validateText (value : String) (minChars maxChars : ℕ) (field : SafeFieldV1) :
    Except ValidationError Unit :=
  if minChars ≤ value.length ∧ value.length ≤ maxChars ∧ trim value = value.toList ∧
      ¬ value.toList.any isControl then .ok ()
  else .error ⟨field⟩

/-- Accept values without repetition, of a number in the range. -/
def validateUniqueValues {α : Type} [DecidableEq α] (values : List α) (min max : ℕ) :
    Except ValidationError Unit :=
  if values.length < min ∨ max < values.length then .error ⟨.recommendationTool⟩
  else if ∃ entry ∈ values.zipIdx, entry.1 ∈ values.take entry.2 then
    .error ⟨.recommendationTool⟩
  else .ok ()

/-- Accept identifiers without repetition, of a number in the range. -/
def validateUniqueIds {α : Type} [LinearOrder α] (values : List α) (min max : ℕ)
    (field : SafeFieldV1) : Except ValidationError Unit :=
  if values.length < min ∨ max < values.length then .error ⟨field⟩
  else if ((values.insertionSort (· ≤ ·)).destutter (· ≠ ·)).length = values.length then .ok ()
  else .error ⟨field⟩

/-- Accept texts none of which is among those seen. -/
def validateUnseenText (maxChars : ℕ) : List String → List String → Except ValidationError Unit
  | _, [] => .ok ()
  | unique, value :: rest => do
    validateText value 1 maxChars .recommendationProposal
    if value ∈ unique then .error ⟨.recommendationProposal⟩
    else validateUnseenText maxChars (value :: unique) rest

/-- Accept texts without repetition, at most so many. -/
def validateUniqueText (values : List String) (maxValues maxChars : ℕ) :
    Except ValidationError Unit :=
  if maxValues < values.length then .error ⟨.recommendationProposal⟩
  else validateUnseenText maxChars [] values

def tryForEach {α : Type} (validate : α → Except ValidationError Unit) :
    List α → Except ValidationError Unit
  | [] => .ok ()
  | value :: rest => do
    validate value
    tryForEach validate rest

section Checks

variable {α : Type}

theorem validateText_eq_ok {value : String} {min max : ℕ} {field : SafeFieldV1} :
    validateText value min max field = .ok () ↔
      min ≤ value.length ∧ value.length ≤ max ∧ trim value = value.toList ∧
        value.toList.any isControl = false := by
  rw [validateText, check_when_eq_ok, Bool.not_eq_true, and_iff_left rfl]

theorem length_destutter_eq_iff [LinearOrder α] {values : List α} :
    ((values.insertionSort (· ≤ ·)).destutter (· ≠ ·)).length = values.length ↔ values.Nodup := by
  have hperm : (values.insertionSort (· ≤ ·)).Perm values := List.perm_insertionSort _ _
  have hsorted : (values.insertionSort (· ≤ ·)).Pairwise (· ≤ ·) :=
    List.pairwise_insertionSort _ _
  rw [← hperm.length_eq, ← hperm.nodup_iff]
  constructor
  · intro hlen
    have heq := (List.destutter_sublist (· ≠ ·) (values.insertionSort (· ≤ ·))).eq_of_length hlen
    have hchain := List.isChain_destutter (· ≠ ·) (values.insertionSort (· ≤ ·))
    rw [heq] at hchain
    have hlt : (values.insertionSort (· ≤ ·)).IsChain (· < ·) :=
      List.isChain_iff_getElem.mpr fun i hi => lt_of_le_of_ne
        (List.isChain_iff_getElem.mp hsorted.isChain i hi)
        (List.isChain_iff_getElem.mp hchain i hi)
    exact hlt.pairwise.imp fun h => ne_of_lt h
  · intro hnodup
    rw [(List.destutter_eq_self_iff (· ≠ ·) _).mpr]
    exact hnodup.isChain

theorem validateUniqueIds_eq_ok [LinearOrder α] {values : List α} {min max : ℕ}
    {field : SafeFieldV1} :
    validateUniqueIds values min max field = .ok () ↔
      min ≤ values.length ∧ values.length ≤ max ∧ values.Nodup := by
  rw [validateUniqueIds, check_unless_eq_ok, check_when_eq_ok, length_destutter_eq_iff, not_or,
    not_lt, not_lt, and_assoc, and_iff_left rfl]

theorem tryForEach_eq_ok {validate : α → Except ValidationError Unit} {values : List α} :
    tryForEach validate values = .ok () ↔ ∀ value ∈ values, validate value = .ok () := by
  induction values with
  | nil => simp [tryForEach]
  | cons value rest ih =>
    rw [tryForEach, check_bind_eq_ok, List.forall_mem_cons, ← ih]
    exact ⟨fun ⟨_, hvalue, hrest⟩ => ⟨hvalue, hrest⟩, fun ⟨hvalue, hrest⟩ => ⟨(), hvalue, hrest⟩⟩

end Checks

/-! ## Retention -/

/-- How long the provider keeps what it is sent. -/
inductive OpenAiRetentionModeV1
  | unknown
  | default
  | mam
  | zdr
  deriving DecidableEq

structure OpenAiRetentionDeclarationV1 where
  mode : OpenAiRetentionModeV1
  provenance : String
  deriving DecidableEq

def OpenAiRetentionDeclarationV1.validate (self : OpenAiRetentionDeclarationV1) :
    Except ValidationError Unit :=
  if isBoundedIdentifier self.provenance 128 then .ok () else .error ⟨.recommendationRetention⟩

/-! ## The wardrobe -/

inductive ItemCategoryV1
  | top
  | bottom
  | dress
  | outerwear
  | shoes
  | accessory
  | underwear
  | activewear
  | other
  deriving DecidableEq

/-- What a piece of clothing is good for. -/
inductive OutfitCapabilityTagV1
  | weatherRain
  | weatherSnow
  | insulationCold
  deriving DecidableEq

abbrev ItemId := { uuid : Fin (2 ^ 128) // uuid ≠ 0 }

def ItemId.above (n : UInt8) : ItemId :=
  ⟨⟨n.toNat + 1, by have h := n.toNat_lt; omega⟩, by simp [Fin.ext_iff]⟩

structure OutfitRecommendationSnapshotItemV1 where
  itemId : ItemId
  itemRevision : ℕ
  active : Bool
  category : ItemCategoryV1
  capabilityTags : List OutfitCapabilityTagV1
  deriving DecidableEq

def OutfitRecommendationSnapshotItemV1.validate (self : OutfitRecommendationSnapshotItemV1) :
    Except ValidationError Unit :=
  if self.itemRevision = 0 ∨ maxSafeIntegerV1 ≤ self.itemRevision then
    .error ⟨.recommendationSnapshot⟩
  else validateUniqueValues self.capabilityTags 0 3

structure OutfitRecommendationSnapshotV1 where
  catalogRevision : ℕ
  outfitRevision : ℕ
  capabilityRevision : String
  items : List OutfitRecommendationSnapshotItemV1

def outfitRecommendationSchemaRevisionV1 : String := "outfit-recommendation-schema-v1"

def outfitCompatibilityRevisionV1 : String := "outfit-compatibility-v1"

def outfitCapabilityRevisionV1 : String := "outfit-capability-v1"

def minRecommendationItems : ℕ := 2

def maxRecommendationItems : ℕ := 8

def maxRecommendationProposals : ℕ := 3

def maxRecommendationExclusions : ℕ := 64

def maxRecommendationSnapshotItems : ℕ := 1024

def OutfitRecommendationSnapshotV1.validate (self : OutfitRecommendationSnapshotV1) :
    Except ValidationError Unit :=
  if maxSafeIntegerV1 ≤ self.catalogRevision ∨ maxSafeIntegerV1 ≤ self.outfitRevision ∨
      self.capabilityRevision ≠ outfitCapabilityRevisionV1 ∨
      maxRecommendationSnapshotItems < self.items.length then
    .error ⟨.recommendationSnapshot⟩
  else do
    validateUniqueIds (self.items.map (·.itemId)) 0 maxRecommendationSnapshotItems
      .recommendationSnapshot
    tryForEach OutfitRecommendationSnapshotItemV1.validate self.items

/-! ## The request -/

inductive OutfitOccasionV1
  | casual
  | date
  | work
  | formal
  | active
  | travel
  deriving DecidableEq

/-- What falls from the sky. -/
inductive OutfitPrecipitationV1
  | none
  | rain
  | snow

/-- What the user asks of an outfit; what is not given is not asked. -/
structure OutfitRecommendationConstraintsV1 where
  occasion : Option OutfitOccasionV1
  temperatureC : Option ℤ
  precipitation : Option OutfitPrecipitationV1

def OutfitRecommendationConstraintsV1.validate (self : OutfitRecommendationConstraintsV1) :
    Except ValidationError Unit :=
  if ∃ value ∈ self.temperatureC, ¬ (-50 ≤ value ∧ value ≤ 60) then
    .error ⟨.recommendationConstraints⟩
  else .ok ()

structure OutfitRecommendationEnvelopeV1 where
  prompt : String
  constraints : OutfitRecommendationConstraintsV1
  excludedItemIds : List ItemId
  requestedProposalCount : ℕ
  expectedCatalogRevision : ℕ
  expectedOutfitRevision : ℕ
  retention : OpenAiRetentionDeclarationV1

def OutfitRecommendationEnvelopeV1.validate (self : OutfitRecommendationEnvelopeV1) :
    Except ValidationError Unit := do
  validateText self.prompt 1 2000 .recommendationPrompt
  self.constraints.validate
  validateUniqueIds self.excludedItemIds 0 maxRecommendationExclusions .recommendationExclusions
  if ¬ (1 ≤ self.requestedProposalCount ∧ self.requestedProposalCount ≤ maxRecommendationProposals) ∨
      maxSafeIntegerV1 ≤ self.expectedCatalogRevision ∨
      maxSafeIntegerV1 ≤ self.expectedOutfitRevision then
    .error ⟨.recommendationConstraints⟩
  else self.retention.validate

/-! ## The answer -/

inductive OutfitConstraintKindV1
  | occasion
  | temperature
  | precipitation
  deriving DecidableEq

inductive OutfitConstraintStatusV1
  | satisfied
  | unresolved
  deriving DecidableEq

/-- Why a constraint is not met. -/
inductive OutfitUnresolvedReasonV1
  | wardrobeCannotSatisfy
  deriving DecidableEq

structure OutfitConstraintAssessmentV1 where
  kind : OutfitConstraintKindV1
  status : OutfitConstraintStatusV1
  reason : Option OutfitUnresolvedReasonV1
  caveat : Option String
  deriving DecidableEq

def outfitUnsatisfiableCaveatV1 : String :=
  "Your confirmed wardrobe cannot satisfy this constraint."

def satisfiedAssessment (kind : OutfitConstraintKindV1) : OutfitConstraintAssessmentV1 :=
  ⟨kind, .satisfied, none, none⟩

def unresolvedAssessment (kind : OutfitConstraintKindV1) : OutfitConstraintAssessmentV1 :=
  ⟨kind, .unresolved, some .wardrobeCannotSatisfy, some outfitUnsatisfiableCaveatV1⟩

def OutfitConstraintAssessmentV1.validate (self : OutfitConstraintAssessmentV1) :
    Except ValidationError Unit :=
  match self.status, self.reason, self.caveat with
  | .satisfied, none, none => .ok ()
  | .unresolved, some .wardrobeCannotSatisfy, some caveat =>
    if caveat = outfitUnsatisfiableCaveatV1 then .ok () else .error ⟨.recommendationAssessment⟩
  | _, _, _ => .error ⟨.recommendationAssessment⟩

def validateUnseenKinds (unresolvedOnly : Bool) :
    List OutfitConstraintKindV1 → List OutfitConstraintAssessmentV1 → Except ValidationError Unit
  | _, [] => .ok ()
  | kinds, value :: rest => do
    value.validate
    if value.kind ∈ kinds ∨ (unresolvedOnly ∧ value.status ≠ .unresolved) then
      .error ⟨.recommendationAssessment⟩
    else validateUnseenKinds unresolvedOnly (value.kind :: kinds) rest

def validateAssessmentShape (values : List OutfitConstraintAssessmentV1) (unresolvedOnly : Bool) :
    Except ValidationError Unit :=
  if 3 < values.length then .error ⟨.recommendationAssessment⟩
  else validateUnseenKinds unresolvedOnly [] values

structure OutfitProposalV1 where
  name : String
  itemIds : List ItemId
  rationale : String
  caveats : List String
  unresolvedConstraints : List OutfitConstraintAssessmentV1
  constraintAssessment : List OutfitConstraintAssessmentV1
  deriving DecidableEq

def OutfitProposalV1.validate (self : OutfitProposalV1) : Except ValidationError Unit := do
  validateText self.name 1 80 .recommendationProposal
  validateText self.rationale 1 600 .recommendationProposal
  validateUniqueIds self.itemIds minRecommendationItems maxRecommendationItems
    .recommendationProposal
  validateUniqueText self.caveats 8 240
  validateAssessmentShape self.unresolvedConstraints true
  validateAssessmentShape self.constraintAssessment false

/-- The provider's answer. -/
structure StructuredOutfitRecommendationV1 where
  schemaRevision : String
  compatibilityRevision : String
  capabilityRevision : String
  catalogRevision : ℕ
  outfitRevision : ℕ
  proposals : List OutfitProposalV1

def StructuredOutfitRecommendationV1.validate (self : StructuredOutfitRecommendationV1) :
    Except ValidationError Unit :=
  if self.schemaRevision ≠ outfitRecommendationSchemaRevisionV1 ∨
      self.compatibilityRevision ≠ outfitCompatibilityRevisionV1 ∨
      self.capabilityRevision ≠ outfitCapabilityRevisionV1 ∨
      maxSafeIntegerV1 ≤ self.catalogRevision ∨ maxSafeIntegerV1 ≤ self.outfitRevision ∨
      self.proposals = [] ∨ maxRecommendationProposals < self.proposals.length then
    .error ⟨.recommendationProposal⟩
  else tryForEach OutfitProposalV1.validate self.proposals

end Threadbook
