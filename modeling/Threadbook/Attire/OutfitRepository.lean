import Threadbook.Attire.OutfitTables

/-!
# The outfit repository

Making an outfit is one transaction: it answers from its receipt if the request was carried out
before; otherwise it compares the revisions the caller has seen, pins each item with its revision
and its first image, and inserts the outfit, its members and the receipt. What the tables refuse
is an error of the transaction.
-/

namespace Threadbook.Outfits

open Fallible

open Catalog (CatalogTables EvidenceId EvidenceRow SourceRow CommandReceiptRow)
open Promotion (ItemAttributesV1 RequestId ReplayStatusV1)

structure OutfitServices extends ImageServices where
  serialize : CreateManualOutfitV1Request → List UInt8

variable (services : OutfitServices) (files : BlobFiles)

def createCommand : String := "create_manual_outfit_v1"

def envelopeHash (request : CreateManualOutfitV1Request) : String :=
  services.digest (services.serialize request)

def outfitIdOf (requestId : RequestId) : OutfitId :=
  digestUuid 4 (services.digest (utf8Bytes ("outfit" ++ ":" ++ requestId.text)))

def maxStoredTime : ℤ := 2 ^ 63 - 1

/-- The milliseconds since the epoch. -/
def unixNowMs (clock : ℤ) : Except PlatformError ℤ :=
  if clock < 0 ∨ maxStoredTime < clock then .error (.corrupt "system_clock") else .ok clock

/-! ## Pins -/

/-- An image of an item, as the joined tables have it. -/
structure ShownImage where
  evidenceId : EvidenceId
  sourceId : SourceId
  blobSha256 : String
  byteLength : ℕ

def imageOf (t : OutfitTables) (evidenceId : EvidenceId) : Option ShownImage := do
  let evidence ← t.catalog.evidence.find? evidenceId
  let source ← t.catalog.sources.find? evidence.sourceId
  let blobSha256 ← source.blobSha256
  let byteLength ← t.byteLengths.find? evidence.sourceId
  if evidence.kind = .image ∧ evidence.state = .assigned ∧ source.status = .present then
    some ⟨evidenceId, evidence.sourceId, blobSha256, byteLength⟩
  else none

def shownImage (t : OutfitTables) (itemId : ItemId) : Option ShownImage :=
  (Catalog.itemEvidenceIds t.catalog itemId).findSome? (imageOf t)

/-- No image. -/
def metadataOnlyAsset : OutfitAssetBindingV1 :=
  ⟨.metadataOnly, none, none, none, none, none, none, none⟩

def ShownImage.binding (self : ShownImage) (image : VerifiedSourceImage) : OutfitAssetBindingV1 where
  state := .available
  evidenceId := some self.evidenceId
  sourceId := some self.sourceId
  blobSha256 := some self.blobSha256
  mediaType := some image.mediaType.text
  byteLength := some self.byteLength
  width := some image.width
  height := some image.height

def pinItemAsset (t : OutfitTables) (itemId : ItemId) :
    Except PlatformError OutfitAssetBindingV1 :=
  match shownImage t itemId with
  | none => .ok metadataOnlyAsset
  | some shown =>
    match verifySourceImage services.toImageServices files shown.blobSha256 shown.byteLength with
    | .error _ => .error (.corrupt "outfit_asset_verification")
    | .ok image => .ok (shown.binding image)

def pinMember (t : OutfitTables) (entry : ItemId × ℕ) : Except PlatformError OutfitMemberV1 :=
  match t.catalog.items.find? entry.1 with
  | none => .error (.conflict "outfit_item_unavailable")
  | some row =>
    if ¬ row.active then .error (.conflict "outfit_item_unavailable")
    else do
      row.attributes.validate.mapError fun _ => .corrupt "outfit_item_attributes"
      let asset ← pinItemAsset services files t entry.1
      .ok ⟨entry.2, entry.1, row.updatedRevision, row.attributes, asset⟩

/-! ## Statements -/

/-- Insert a row of `outfits`: its checks hold, and its id, request and revision are new. -/
def insertOutfit (outfitId : OutfitId) (row : OutfitRow) : OutfitTransaction PUnit := do
  let t ← state
  rejectIf .sqlite (row.allowed = false)
  rejectIf .sqlite (t.outfits.find? outfitId).isSome
  rejectIf .sqlite (t.outfits.rows.any fun other => other.2.requestId = row.requestId ||
    other.2.createdOutfitRevision = row.createdOutfitRevision)
  update fun t => { t with outfits := t.outfits.put outfitId row }

/-- What a row of `outfit_members` refers to is there. -/
def OutfitTables.refers (t : OutfitTables) (outfitId : OutfitId) (row : OutfitMemberRow) : Bool :=
  (t.outfits.find? outfitId).isSome && (t.catalog.items.find? row.itemId).isSome &&
    row.evidenceId.all (fun value => (t.catalog.evidence.find? value).isSome) &&
    row.sourceId.all (fun value => (t.catalog.sources.find? value).isSome) &&
    row.blobSha256.all (fun value => (t.blobs.find? value).isSome)

/-- Insert a row of `outfit_members`: its checks hold, its ordinal and item are new in its
outfit, and what it refers to is there. -/
def insertMemberRow (outfitId : OutfitId) (ordinal : ℕ) (row : OutfitMemberRow) :
    OutfitTransaction PUnit := do
  let t ← state
  rejectIf .sqlite (row.allowed ordinal = false)
  rejectIf .sqlite (t.members.find? (outfitId, ordinal)).isSome
  rejectIf .sqlite (t.members.rows.any fun other =>
    other.1.1 = outfitId && other.2.itemId = row.itemId)
  rejectIf .sqlite (t.refers outfitId row = false)
  update fun t => { t with members := t.members.put (outfitId, ordinal) row }

def OutfitMemberV1.row (self : OutfitMemberV1) (assetState : String) : OutfitMemberRow where
  itemId := self.itemId
  itemUpdatedRevision := self.itemUpdatedRevision
  attributes := self.attributes
  assetState
  evidenceId := self.asset.evidenceId
  sourceId := self.asset.sourceId
  blobSha256 := self.asset.blobSha256
  mediaType := self.asset.mediaType
  byteLength := self.asset.byteLength
  width := self.asset.width
  height := self.asset.height

def insertMember (outfitId : OutfitId) (member : OutfitMemberV1) : OutfitTransaction PUnit :=
  match member.asset.state with
  | .available => insertMemberRow outfitId member.ordinal (member.row "available")
  | .metadataOnly => insertMemberRow outfitId member.ordinal (member.row "metadata_only")
  | .unavailable => fail (.invalidInput "outfit_asset_state")

def setOutfitRevision (revision : ℕ) : OutfitTransaction PUnit := do
  rejectIf .sqlite (maxStoredRevision < revision)
  update fun t => { t with outfitRevision := revision }

def storeReceipt (requestId : RequestId) (envelope : String)
    (response : CreateManualOutfitV1Response) : OutfitTransaction PUnit := do
  let t ← state
  rejectIf .sqlite (t.catalog.commandReceipts.find? requestId).isSome
  update fun t => { t with
    catalog := { t.catalog with
      commandReceipts := t.catalog.commandReceipts.put requestId
        ⟨createCommand, envelope, .other⟩ }
    responses := t.responses.put requestId response }

/-! ## The command -/

def replay (t : OutfitTables) (requestId : RequestId) (envelope : String) :
    Except PlatformError (Option CreateManualOutfitV1Response) :=
  match t.catalog.commandReceipts.find? requestId with
  | none => .ok none
  | some row =>
    if row.commandName = createCommand ∧ row.envelopeHash = envelope then
      match t.responses.find? requestId with
      | none => .error .json
      | some response => .ok (some response)
    else .error (.conflict "outfit_request_reused")

def madeOutfit (request : CreateManualOutfitV1Request) (members : List OutfitMemberV1)
    (revision : ℕ) : OutfitV1 :=
  ⟨outfitIdOf services request.requestId, request.name, members, revision⟩

def createdResponse (request : CreateManualOutfitV1Request) (outfit : OutfitV1) (revision : ℕ) :
    CreateManualOutfitV1Response :=
  ⟨schemaVersionV1, request.requestId, outfit, revision, .created⟩

def storeOutfit (request : CreateManualOutfitV1Request) (members : List OutfitMemberV1)
    (revision : ℕ) (nowMs : ℤ) : OutfitTransaction CreateManualOutfitV1Response := do
  let outfitId := outfitIdOf services request.requestId
  insertOutfit outfitId ⟨request.requestId, request.name, revision, nowMs⟩
  let _ ← forEach (insertMember outfitId) members
  setOutfitRevision revision
  let response := createdResponse request (madeOutfit services request members revision) revision
  check (response.validate.mapError fun _ => .corrupt "outfit_response")
  storeReceipt request.requestId (envelopeHash services request) response
  pure response

def performCreate (request : CreateManualOutfitV1Request) (clock : ℤ) :
    OutfitTransaction CreateManualOutfitV1Response := do
  let t ← state
  rejectIf (.conflict "outfit_revision_changed")
    (t.catalog.catalogRevision ≠ request.expectedCatalogRevision ∨
      t.outfitRevision ≠ request.expectedOutfitRevision)
  let members ← check (request.itemIds.zipIdx.mapM (pinMember services files t))
  let nowMs ← check (unixNowMs clock)
  storeOutfit services request members (t.outfitRevision + 1) nowMs

def createManualOutfit (request : CreateManualOutfitV1Request) (clock : ℤ) :
    OutfitTransaction CreateManualOutfitV1Response :=
  atomically do
    check (request.validate.mapError fun _ => .invalidInput "outfit_request")
    let t ← state
    let stored ← check (replay t request.requestId (envelopeHash services request))
    match stored with
    | some response => pure { response with replayStatus := .replayed }
    | none => performCreate services files request clock

/-! ## Reading an outfit -/

def parseAssetState : String → Except PlatformError OutfitAssetStateV1
  | "available" => .ok .available
  | "metadata_only" => .ok .metadataOnly
  | _ => .error (.corrupt "outfit_asset_state")

def OutfitMemberRow.member (ordinal : ℕ) (self : OutfitMemberRow) :
    Except PlatformError OutfitMemberV1 := do
  let state ← parseAssetState self.assetState
  .ok ⟨ordinal, self.itemId, self.itemUpdatedRevision, self.attributes,
    ⟨state, self.evidenceId, self.sourceId, self.blobSha256, self.mediaType, self.byteLength,
      self.width, self.height⟩⟩

def memberRows (t : OutfitTables) (outfitId : OutfitId) : List (ℕ × OutfitMemberRow) :=
  (List.range maxOutfitMembers).filterMap fun ordinal =>
    (t.members.find? (outfitId, ordinal)).map fun row => (ordinal, row)

def loadOutfit (t : OutfitTables) (outfitId : OutfitId) : Except PlatformError OutfitV1 :=
  match t.outfits.find? outfitId with
  | none => .error (.invalidInput "outfit_id")
  | some row => do
    let members ← (memberRows t outfitId).mapM fun entry => entry.2.member entry.1
    let outfit : OutfitV1 := ⟨outfitId, row.name, members, row.createdOutfitRevision⟩
    outfit.validate.mapError fun _ => .corrupt "outfit_contract"
    .ok outfit

end Threadbook.Outfits
