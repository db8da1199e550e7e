import Threadbook.CatalogRuns
import Threadbook.SourceImage

/-!
# Outfits and their tables

An outfit is a name and a few items, each pinned with the revision and the image it had when
the outfit was made. The contract says what a request may ask for and what an answer looks
like; the tables say once more, in their checks, what a row may hold.
-/

namespace Threadbook.Outfits

open Catalog (CatalogTables EvidenceId)
open Promotion (ItemAttributesV1 RequestId ReplayStatusV1)

abbrev OutfitId := ReceiptUuidId

def maxOutfitNameChars : ℕ := 80

def minOutfitMembers : ℕ := 2

def maxOutfitMembers : ℕ := 8

/-! ## The contract -/

/-- What a member's image is. -/
inductive OutfitAssetStateV1
  | available
  | metadataOnly
  | unavailable
  deriving DecidableEq

/-- The image a member is pinned with. -/
structure OutfitAssetBindingV1 where
  state : OutfitAssetStateV1
  evidenceId : Option EvidenceId
  sourceId : Option SourceId
  blobSha256 : Option String
  mediaType : Option String
  byteLength : Option ℕ
  width : Option ℕ
  height : Option ℕ
  deriving DecidableEq

namespace OutfitAssetBindingV1

def complete (self : OutfitAssetBindingV1) : Bool :=
  self.evidenceId.isSome && self.sourceId.isSome && self.blobSha256.isSome &&
    self.mediaType.any (fun value => value == "image/jpeg" || value == "image/png" ||
      value == "image/webp") &&
    self.byteLength.any (fun value => 0 < value) && self.width.any (fun value => 0 < value) &&
    self.height.any (fun value => 0 < value)

/-- Nothing of the image is there. -/
def empty (self : OutfitAssetBindingV1) : Bool :=
  self.evidenceId.isNone && self.sourceId.isNone && self.blobSha256.isNone &&
    self.mediaType.isNone && self.byteLength.isNone && self.width.isNone && self.height.isNone

def validate (self : OutfitAssetBindingV1) : Except ValidationError Unit :=
  if (self.state = .available ∧ self.complete) ∨
      (self.state ≠ .available ∧ (self.complete ∨ self.empty)) then .ok ()
  else .error ⟨.attributes⟩

end OutfitAssetBindingV1

structure OutfitMemberV1 where
  ordinal : ℕ
  itemId : ItemId
  itemUpdatedRevision : ℕ
  attributes : ItemAttributesV1
  asset : OutfitAssetBindingV1
  deriving DecidableEq

def OutfitMemberV1.validate (self : OutfitMemberV1) : Except ValidationError Unit :=
  if maxOutfitMembers ≤ self.ordinal ∨ self.itemUpdatedRevision = 0 ∨
      maxSafeIntegerV1 ≤ self.itemUpdatedRevision then .error ⟨.collection⟩
  else do
    self.attributes.validate
    self.asset.validate

/-- Accept a name: trimmed, not empty, not too long and without control characters. -/
def validateName (value : String) : Except ValidationError Unit :=
  if trim value = value.toList ∧ value.toList ≠ [] ∧ value.length ≤ maxOutfitNameChars ∧
      ¬ value.toList.any isControl then .ok ()
  else .error ⟨.attributes⟩

def validateMembers : ℕ → List OutfitMemberV1 → Except ValidationError Unit
  | _, [] => .ok ()
  | ordinal, member :: rest => do
    member.validate
    if member.ordinal ≠ ordinal then .error ⟨.collection⟩ else validateMembers (ordinal + 1) rest

structure OutfitV1 where
  outfitId : OutfitId
  name : String
  members : List OutfitMemberV1
  createdOutfitRevision : ℕ
  deriving DecidableEq

def OutfitV1.validate (self : OutfitV1) : Except ValidationError Unit := do
  validateName self.name
  if ¬ (minOutfitMembers ≤ self.members.length ∧ self.members.length ≤ maxOutfitMembers) ∨
      self.createdOutfitRevision = 0 ∨ maxSafeIntegerV1 ≤ self.createdOutfitRevision then
    .error ⟨.collection⟩
  else if (self.members.map (·.itemId)).dedup.length ≠ self.members.length then
    .error ⟨.collection⟩
  else validateMembers 0 self.members

structure CreateManualOutfitV1Request where
  schemaVersion : ℕ
  requestId : RequestId
  name : String
  itemIds : List ItemId
  expectedCatalogRevision : ℕ
  expectedOutfitRevision : ℕ

def CreateManualOutfitV1Request.validate (self : CreateManualOutfitV1Request) :
    Except ValidationError Unit := do
  requireSchemaV1 self.schemaVersion
  validateName self.name
  if ¬ (minOutfitMembers ≤ self.itemIds.length ∧ self.itemIds.length ≤ maxOutfitMembers) ∨
      maxSafeIntegerV1 ≤ self.expectedCatalogRevision ∨
      maxSafeIntegerV1 ≤ self.expectedOutfitRevision then .error ⟨.collection⟩
  else if self.itemIds.dedup.length = self.itemIds.length then .ok ()
  else .error ⟨.collection⟩

structure CreateManualOutfitV1Response where
  schemaVersion : ℕ
  requestId : RequestId
  outfit : OutfitV1
  outfitRevision : ℕ
  replayStatus : ReplayStatusV1
  deriving DecidableEq

def CreateManualOutfitV1Response.validate (self : CreateManualOutfitV1Response) :
    Except ValidationError Unit := do
  requireSchemaV1 self.schemaVersion
  self.outfit.validate
  if self.outfit.createdOutfitRevision = self.outfitRevision then .ok ()
  else .error ⟨.collection⟩

/-! ## Rows -/

/-- A row of `outfits`. -/
structure OutfitRow where
  requestId : RequestId
  name : String
  createdOutfitRevision : ℕ
  createdAtMs : ℤ

/-- A row of `outfit_members`, under its outfit and its ordinal. -/
structure OutfitMemberRow where
  itemId : ItemId
  itemUpdatedRevision : ℕ
  attributes : ItemAttributesV1
  assetState : String
  evidenceId : Option EvidenceId
  sourceId : Option SourceId
  blobSha256 : Option String
  mediaType : Option String
  byteLength : Option ℕ
  width : Option ℕ
  height : Option ℕ

def maxStoredRevision : ℕ := 9007199254740990

/-- A character between the blank and the tilde. -/
def isPrintableAscii (c : Char) : Bool := 0x20 ≤ c.toNat && c.toNat ≤ 0x7e

/-- SQLite's `trim`: a text without blanks at its ends. -/
def sqlTrim (value : String) : List Char :=
  (value.toList.dropWhile (· = ' ')).rdropWhile (· = ' ')

/-- The checks of `outfits`. -/
def OutfitRow.allowed (self : OutfitRow) : Bool :=
  1 ≤ self.name.length ∧ self.name.length ≤ 80 ∧ self.name.toList = sqlTrim self.name ∧
    self.name.toList.all isPrintableAscii ∧ 1 ≤ self.createdOutfitRevision ∧
    self.createdOutfitRevision ≤ maxStoredRevision ∧ 0 ≤ self.createdAtMs

namespace OutfitMemberRow

/-- The columns of an image are all there. -/
def bound (self : OutfitMemberRow) : Bool :=
  self.evidenceId.isSome && self.sourceId.isSome && self.blobSha256.isSome &&
    self.mediaType.isSome && self.byteLength.isSome && self.width.isSome && self.height.isSome

/-- The columns of an image are all empty. -/
def unbound (self : OutfitMemberRow) : Bool :=
  self.evidenceId.isNone && self.sourceId.isNone && self.blobSha256.isNone &&
    self.mediaType.isNone && self.byteLength.isNone && self.width.isNone && self.height.isNone

/-- The checks of `outfit_members`. -/
def allowed (ordinal : ℕ) (self : OutfitMemberRow) : Bool :=
  ordinal ≤ 7 ∧ 1 ≤ self.itemUpdatedRevision ∧ self.itemUpdatedRevision ≤ maxStoredRevision ∧
    (self.assetState = "available" ∨ self.assetState = "metadata_only") ∧
    (∀ value ∈ self.mediaType, value = "image/jpeg" ∨ value = "image/png" ∨
      value = "image/webp") ∧
    (∀ value ∈ self.byteLength, 1 ≤ value ∧ value ≤ 41943040) ∧
    (∀ value ∈ self.width, 1 ≤ value ∧ value ≤ 16384) ∧
    (∀ value ∈ self.height, 1 ≤ value ∧ value ≤ 16384) ∧
    ((self.assetState = "available" ∧ self.bound) ∨
      (self.assetState = "metadata_only" ∧ self.unbound))

end OutfitMemberRow

/-! ## Tables -/

structure OutfitTables where
  catalog : CatalogTables
  /-- `local_sources.byte_length` -/
  byteLengths : Table SourceId ℕ
  /-- `blobs`: the length of each -/
  blobs : Table String ℕ
  outfitRevision : ℕ
  outfits : Table OutfitId OutfitRow
  members : Table (OutfitId × ℕ) OutfitMemberRow
  responses : Table RequestId CreateManualOutfitV1Response

abbrev OutfitTransaction (α : Type) : Type := Fallible OutfitTables PlatformError α

end Threadbook.Outfits
