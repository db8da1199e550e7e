import Threadbook.CatalogTables
import Threadbook.SnapshotReads

/-!
# Lists of the catalog and of the inbox

A page is read by separate statements outside of a transaction: the revisions, the number of
rows, the keys of the page, and then each row by statements of its own. A cursor carries the
revisions a page was read under and the offset of the next one.
-/

namespace Threadbook.Catalog

open Promotion (ItemAttributesV1 RequestId)
open Query (ask forAll)

/-! ## Cursors -/

def maxCursorChars : ℕ := 512

def maxPageSize : ℕ := 100

/-- The largest `u64`, and one. -/
def u64Bound : ℕ := 2 ^ 64

/-- The largest `i64`, and one. -/
def i64Bound : ℕ := 2 ^ 63

/-- An opaque text: not empty, not too long, printable ASCII. -/
def isOpaque (value : String) (maxChars : ℕ) : Bool :=
  !value.toList.isEmpty && value.toList.length ≤ maxChars &&
    value.toList.all fun c => c.toNat < 128 && !isControl c

structure PageCursorV1 where
  text : String
  valid : isOpaque text maxCursorChars = true
  deriving DecidableEq

def PageCursorV1.new (value : String) : Option PageCursorV1 :=
  if h : isOpaque value maxCursorChars = true then some ⟨value, h⟩ else none

/-- A number without the sign that may be in front. -/
def unsigned (text : List Char) : List Char := if text.head? = some '+' then text.tail else text

/-- Read a `u64` in decimal digits. -/
def parseU64 (text : List Char) : Option ℕ :=
  if (unsigned text).isEmpty || !(unsigned text).all isAsciiDigit then none
  else if Nat.ofDigitChars 10 (unsigned text) 0 < u64Bound then
    some (Nat.ofDigitChars 10 (unsigned text) 0)
  else none

def cursorPieces (kind : String) (catalog evidence offset : ℕ) : List (List Char) :=
  [kind.toList, Nat.toDigits 10 catalog, Nat.toDigits 10 evidence, Nat.toDigits 10 offset]

def makeCursor (kind : String) (catalog evidence offset : ℕ) :
    Except PlatformError PageCursorV1 :=
  match PageCursorV1.new
      (String.ofList (['.'].intercalate (cursorPieces kind catalog evidence offset))) with
  | none => .error (.corrupt "cursor")
  | some cursor => .ok cursor

def parseCursor (cursor : Option PageCursorV1) (kind : String) (catalog evidence : ℕ) :
    Except PlatformError ℕ :=
  match cursor with
  | none => .ok 0
  | some cursor =>
    match cursor.text.toList.splitOn '.' with
    | [kindPiece, catalogPiece, evidencePiece, offsetPiece] =>
      if kindPiece ≠ kind.toList ∨ parseU64 catalogPiece ≠ some catalog ∨
          parseU64 evidencePiece ≠ some evidence then
        .error (.conflict "snapshot_expired")
      else match parseU64 offsetPiece with
        | none => .error (.invalidInput "cursor")
        | some offset => .ok offset
    | _ => .error (.conflict "snapshot_expired")

/-! ## Requests and responses -/

/-- A request for a page; a valid one asks for some rows and not too many. The state an inbox
request also carries is a parameter of the list. -/
structure ListV1Request where
  schemaVersion : ℕ
  requestId : RequestId
  cursor : Option PageCursorV1
  limit : ℕ
  limit_pos : 0 < limit
  limit_le : limit ≤ maxPageSize

/-- A page of a list of `ρ`s. -/
structure ListV1Response (ρ : Type) where
  schemaVersion : ℕ
  requestId : RequestId
  rows : List ρ
  totalCount : ℕ
  catalogRevision : ℕ
  evidenceGeneration : ℕ
  nextCursor : Option PageCursorV1
  deriving DecidableEq

/-- Why a page is not returned: an error, or a sum that is no `u64`. -/
inductive ListFailure
  | failed (e : PlatformError)
  | overflowed
  deriving DecidableEq

abbrev CatalogQuery (α : Type) : Type 1 := Query CatalogTables ListFailure α

def checked {α : Type} (result : Except PlatformError α) : CatalogQuery α :=
  Program.check (result.mapError .failed)

/-! ## Rows -/

def activeAttributes (itemId : ItemId) (t : CatalogTables) : Option ItemAttributesV1 :=
  ((t.items.find? itemId).filter (·.active)).map (·.attributes)

def queryCatalogItem (itemId : ItemId) : CatalogQuery CatalogItemV1 := do
  match ← ask (activeAttributes itemId) with
  | none => checked (.error (.invalidInput "item_id"))
  | some attributes =>
    let evidenceIds ← ask fun t => itemEvidenceIds t itemId
    match ← ask fun t => lastDecision t itemId with
    | none => checked (.error (.corrupt "item_decision_missing"))
    | some decisionId => checked (.ok ⟨itemId, attributes, evidenceIds, decisionId⟩)

def joinedEvidence (evidenceId : EvidenceId) (t : CatalogTables) :
    Option (EvidenceRow × Option ItemId × String) :=
  (t.evidence.find? evidenceId).bind fun row =>
    (t.sources.find? row.sourceId).map fun source =>
      (row, t.linkOf evidenceId, source.canonicalLocator)

def querySource (sourceId : SourceId) : CatalogQuery SourceSnapshotV1 := do
  checked (← ask fun t => loadSource t sourceId)

def queryEvidence (evidenceId : EvidenceId) : CatalogQuery EvidenceSnapshotV1 := do
  match ← ask (joinedEvidence evidenceId) with
  | none => checked (.error (.invalidInput "evidence_id"))
  | some (row, itemId, locator) =>
    let source ← querySource row.sourceId
    checked (.ok ⟨evidenceId, source, row.kind, row.state, itemId,
      locatorLabel "Imported evidence" locator⟩)

inductive InboxRow
  | evidence (snapshot : EvidenceSnapshotV1)
  | quarantine (snapshot : QuarantineSnapshotV1)
  deriving DecidableEq

inductive InboxKey
  | evidence (evidenceId : EvidenceId)
  | quarantine (quarantineId : QuarantineId) (sourceId : SourceId) (code : String)
      (blobSha256 noBlobReason : Option String)

def queryInboxRow : InboxKey → CatalogQuery InboxRow
  | .evidence evidenceId => InboxRow.evidence <$> queryEvidence evidenceId
  | .quarantine quarantineId sourceId code blobSha256 noBlobReason => do
    let source ← querySource sourceId
    pure (.quarantine ⟨quarantineId, source, code, blobSha256.isSome, noBlobReason⟩)

/-! ## Lists -/

def NameOrder (a b : ItemId × ItemRow) : Prop :=
  let name (row : ItemRow) := String.ofList (row.attributes.displayName.toList.map Char.toLower)
  name a.2 < name b.2 ∨ name a.2 = name b.2 ∧ a.1 ≤ b.1

instance : DecidableRel NameOrder := fun a b => by
  unfold NameOrder
  infer_instance

def TimeOrder {ρ : Type} (createdAtMs : ρ → ℤ) (a b : ReceiptUuidId × ρ) : Prop :=
  createdAtMs a.2 < createdAtMs b.2 ∨ createdAtMs a.2 = createdAtMs b.2 ∧ a.1 ≤ b.1

instance {ρ : Type} (createdAtMs : ρ → ℤ) : DecidableRel (TimeOrder createdAtMs) := fun a b => by
  unfold TimeOrder
  infer_instance

def activeItemIds (t : CatalogTables) : List ItemId :=
  ((t.items.rows.filter fun row => row.2.active).insertionSort NameOrder).map Prod.fst

def evidenceInState (state : EvidenceStateV1) (t : CatalogTables) : List EvidenceId :=
  ((t.evidence.rows.filter fun row => row.2.state = state).insertionSort
    (TimeOrder EvidenceRow.createdAtMs)).map Prod.fst

def joinedQuarantines (t : CatalogTables) : List InboxKey :=
  (t.quarantines.rows.insertionSort (TimeOrder QuarantineRow.createdAtMs)).filterMap fun row =>
    (t.sources.find? row.2.sourceId).map fun source =>
      .quarantine row.1 row.2.sourceId row.2.reasonCode source.blobSha256 source.noBlobReason

inductive InboxStateV1
  | unresolved
  | deferred
  | quarantine

structure Listing (κ ρ : Type) where
  cursorKind : String
  count : CatalogTables → ℕ
  keys : CatalogTables → List κ
  load : κ → CatalogQuery ρ

def catalogListing : Listing ItemId CatalogItemV1 where
  cursorKind := "catalog"
  count t := (t.items.rows.filter fun row => row.2.active).length
  keys := activeItemIds
  load := queryCatalogItem

def inboxListing : InboxStateV1 → Listing InboxKey InboxRow
  | .unresolved =>
    ⟨"inbox-unresolved",
      fun t => (t.evidence.rows.filter fun row => row.2.state = .unresolved).length,
      fun t => (evidenceInState .unresolved t).map .evidence, queryInboxRow⟩
  | .deferred =>
    ⟨"inbox-deferred",
      fun t => (t.evidence.rows.filter fun row => row.2.state = .deferred).length,
      fun t => (evidenceInState .deferred t).map .evidence, queryInboxRow⟩
  | .quarantine =>
    ⟨"inbox-quarantine", fun t => t.quarantines.rows.length, joinedQuarantines, queryInboxRow⟩

/-! ## Pages -/

def revisions (t : CatalogTables) : ℕ × ℕ := (t.catalogRevision, t.evidenceGeneration)

/-- `LIMIT` and `OFFSET`. The offset is bound as an `i64`, and one that is negative then is
read as 0. -/
def limitOffset {κ : Type} (limit offset : ℕ) (keys : List κ) : List κ :=
  (keys.drop (if offset < i64Bound then offset else 0)).take limit

/-- Add two `u64`s. -/
def addU64 (a b : ℕ) : CatalogQuery ℕ :=
  Program.check (if a + b < u64Bound then .ok (a + b) else .error .overflowed)

def nextCursor (kind : String) (under : ℕ × ℕ) (nextOffset total : ℕ) :
    Except PlatformError (Option PageCursorV1) :=
  if nextOffset < total then (makeCursor kind under.1 under.2 nextOffset).map some else .ok none

namespace Listing

variable {κ ρ : Type}

/-- The statements of a page after the one that reads the revisions. -/
def rest (list : Listing κ ρ) (request : ListV1Request) (under : ℕ × ℕ) :
    CatalogQuery (ListV1Response ρ) := do
  let offset ← checked (parseCursor request.cursor list.cursorKind under.1 under.2)
  let total ← ask list.count
  let keys ← ask fun t => limitOffset request.limit offset (list.keys t)
  let rows ← forAll list.load keys
  let nextOffset ← addU64 offset rows.length
  let next ← checked (nextCursor list.cursorKind under nextOffset total)
  pure ⟨schemaVersionV1, request.requestId, rows, total, under.1, under.2, next⟩

def page (list : Listing κ ρ) (request : ListV1Request) : CatalogQuery (ListV1Response ρ) := do
  let under ← ask revisions
  list.rest request under

end Listing

def listCatalog (request : ListV1Request) : CatalogQuery (ListV1Response CatalogItemV1) :=
  catalogListing.page request

def listInbox (state : InboxStateV1) (request : ListV1Request) :
    CatalogQuery (ListV1Response InboxRow) :=
  (inboxListing state).page request

end Threadbook.Catalog
