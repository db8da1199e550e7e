import Threadbook.ListingConsistency
import Threadbook.Attire.TryOnApproval

/-!
# The list of portraits

A page reads the photos that may be shown and makes the PNG of each, as a preview does of the one it
names. Where one of them cannot be sent, the page fails and with it every list that comes to it
(**`lost_photo_hides_portraits`**). The list is what previews accept exactly if all of them can be
sent (**`portraits_agree_iff`**), where the offset of a cursor is an `i64`.
-/

namespace Threadbook.TryOn

open Table List

open Catalog (ListFailure PageCursorV1 Pages i64Bound limitOffset parseU64_toDigits u64Bound)
open Promotion (RequestId)

/-! ## The list -/

structure PortraitRow where
  sourceRevisionId : PhotoSourceRevisionId
  artifactId : PhotoArtifactId
  blobSha256 : String
  byteLength : ℕ

def portraitRow (t : TryOnTables) (entry : PhotoSourceRevisionId × PhotoSourceRevisionRow) :
    Option PortraitRow :=
  match entry.2.blobSha256, entry.2.byteLength, firstArtifact t entry.1 with
  | some blobSha256, some byteLength, some artifactId =>
    if entry.2.eligible then some ⟨entry.1, artifactId, blobSha256, byteLength⟩ else none
  | _, _, _ => none

def portraitRows (t : TryOnTables) : List PortraitRow :=
  (t.photoRevisions.rows.filterMap (portraitRow t)).insertionSort fun a b =>
    a.sourceRevisionId ≤ b.sourceRevisionId

/-- `COUNT(DISTINCT artifact.source_revision_id)` -/
def portraitCount (t : TryOnTables) : ℕ :=
  ((t.photoArtifacts.rows.map Prod.snd).filter fun id => (t.photoRevisions.find? id).any fun row =>
    row.eligible && row.blobSha256.isSome && row.byteLength.isSome).dedup.length

structure TryOnPortraitCandidateV1 where
  sourceRevisionId : PhotoSourceRevisionId
  artifactId : PhotoArtifactId
  mediaType : PhotoMediaTypeV1
  width : ℕ
  height : ℕ
  bytesSha256 : String
  thumbnailBytes : List UInt8
  deriving DecidableEq

structure ListTryOnPortraitCandidatesV1Request where
  schemaVersion : ℕ
  requestId : RequestId
  cursor : Option PageCursorV1
  limit : ℕ

structure ListTryOnPortraitCandidatesV1Response where
  schemaVersion : ℕ
  requestId : RequestId
  candidates : List TryOnPortraitCandidateV1
  totalCount : ℕ
  photoRevision : ℕ
  nextCursor : Option PageCursorV1
  deriving DecidableEq

def maxPhotoPageSize : ℕ := 100

def ListTryOnPortraitCandidatesV1Request.validate (self : ListTryOnPortraitCandidatesV1Request) :
    Except ValidationError Unit := do
  requireSchemaV1 self.schemaVersion
  if 1 ≤ self.limit ∧ self.limit ≤ maxPhotoPageSize then .ok () else .error ⟨.attributes⟩

section

variable (services : TryOnServices) (files : BlobFiles)

def TryOnPortraitCandidateV1.validate (self : TryOnPortraitCandidateV1) :
    Except ValidationError Unit :=
  if self.width = 0 ∨ self.height = 0 ∨ maxPhotoAxis < self.width ∨ maxPhotoAxis < self.height ∨
      maxPhotoPixels < self.width * self.height ∨
      services.digest self.thumbnailBytes ≠ self.bytesSha256 then .error ⟨.attributes⟩
  else .ok ()

def ListTryOnPortraitCandidatesV1Response.validate
    (self : ListTryOnPortraitCandidatesV1Response) : Except ValidationError Unit := do
  requireSchemaV1 self.schemaVersion
  if maxPhotoPageSize < self.candidates.length ∨ self.totalCount < self.candidates.length ∨
      maxSafeIntegerV1 ≤ self.totalCount ∨ maxSafeIntegerV1 ≤ self.photoRevision then
    .error ⟨.attributes⟩
  else do
    tryForEach (·.validate services) self.candidates
    if ¬ ((self.candidates.map (·.sourceRevisionId)).Nodup ∧
        (self.candidates.map (·.artifactId)).Nodup) then .error ⟨.attributes⟩
    else .ok ()

def portraitCandidate (row : PortraitRow) : Except PlatformError TryOnPortraitCandidateV1 :=
  match verifySourceImage services.toImageServices files row.blobSha256 row.byteLength with
  | .error _ => .error (.corrupt "try_on_portrait_source")
  | .ok source => do
    let _ ← canonicalTryOnPng services.toImageServices files row.blobSha256 row.byteLength
    if source.bytes = [] ∨ maxPhotoArtifactBytes < source.bytes.length then
      .error (.corrupt "try_on_portrait_bytes")
    else .ok ⟨row.sourceRevisionId, row.artifactId, source.mediaType, source.width, source.height,
      services.digest source.bytes, source.bytes⟩

def makeCursor (revision offset : ℕ) : Except PlatformError PageCursorV1 :=
  match PageCursorV1.new
      (String.ofList (Nat.toDigits 10 revision ++ ':' :: Nat.toDigits 10 offset)) with
  | none => .error (.corrupt "try_on_cursor")
  | some cursor => .ok cursor

def parseCursor (cursor : Option PageCursorV1) (revision : ℕ) : Except PlatformError ℕ :=
  match cursor with
  | none => .ok 0
  | some cursor =>
    match cursor.text.toList.span (· ≠ ':') with
    | (_, []) => .error (.invalidInput "try_on_cursor")
    | (stored, _ :: offset) =>
      if Catalog.parseU64 stored ≠ some revision then .error (.conflict "try_on_cursor_expired")
      else match Catalog.parseU64 offset with
        | none => .error (.invalidInput "try_on_cursor")
        | some offset => .ok offset

/-- A page; the sum of the offset and the number of candidates must be a `u64`. -/
def listTryOnPortraitCandidates (t : TryOnTables) (photoRevision : ℕ)
    (request : ListTryOnPortraitCandidatesV1Request) :
    Except ListFailure ListTryOnPortraitCandidatesV1Response := do
  request.validate.mapError fun _ => .failed (.invalidInput "try_on_portrait_list")
  let offset ← (parseCursor request.cursor photoRevision).mapError .failed
  let candidates ← ((limitOffset request.limit offset (portraitRows t)).mapM
    (portraitCandidate services files)).mapError .failed
  if u64Bound ≤ offset + candidates.length then .error .overflowed
  else do
    let nextCursor ← if offset + candidates.length < portraitCount t then
        ((makeCursor photoRevision (offset + candidates.length)).map some).mapError .failed
      else .ok none
    let response : ListTryOnPortraitCandidatesV1Response :=
      ⟨schemaVersionV1, request.requestId, candidates, portraitCount t, photoRevision, nextCursor⟩
    (response.validate services).mapError fun _ => .failed (.corrupt "try_on_portrait_response")
    .ok response

end

/-! ## Rows -/

variable {services : TryOnServices} {files : BlobFiles} {t : TryOnTables}
  {id : PhotoSourceRevisionId}

/-- The check of `photo_source_revisions`: of a photo that may be shown nothing is missing. -/
def PhotoSourceRevisionRow.allowed (self : PhotoSourceRevisionRow) : Bool :=
  !self.eligible || self.blobSha256.isSome && self.byteLength.isSome && self.mediaType.isSome &&
    self.width.isSome && self.height.isSome

def PortraitRow.CanBeSent (services : TryOnServices) (files : BlobFiles) (row : PortraitRow) :
    Prop :=
  ∃ png, canonicalTryOnPng services.toImageServices files row.blobSha256 row.byteLength = .ok png

theorem firstArtifact_eq_some {artifactId : PhotoArtifactId}
    (h : firstArtifact t id = some artifactId) : t.photoArtifacts.find? artifactId = some id := by
  have hmem := mem_of_mem_head? h
  rw [(perm_insertionSort _ _).mem_iff, mem_map] at hmem
  obtain ⟨entry, hentry, rfl⟩ := hmem
  obtain ⟨hrow, hid⟩ := mem_filter.mp hentry
  obtain rfl := of_decide_eq_true hid
  exact mem_rows.mp hrow

theorem firstArtifact_isSome : (firstArtifact t id).isSome = true ↔
    id ∈ t.photoArtifacts.rows.map Prod.snd := by
  rw [firstArtifact, isSome_head?, ← length_pos_iff, length_insertionSort,
    length_map, length_pos_iff_exists_mem]
  simp [mem_filter]

theorem portraitRow_eq_some {entry : PhotoSourceRevisionId × PhotoSourceRevisionRow}
    {row : PortraitRow} : portraitRow t entry = some row ↔
      row.sourceRevisionId = entry.1 ∧ firstArtifact t entry.1 = some row.artifactId ∧
        entry.2.blobSha256 = some row.blobSha256 ∧ entry.2.byteLength = some row.byteLength ∧
        entry.2.eligible = true := by
  obtain ⟨sourceRevisionId, artifactId, blobSha256, byteLength⟩ := row
  unfold portraitRow
  cases entry.2.blobSha256 <;> cases entry.2.byteLength <;> cases firstArtifact t entry.1 <;>
    simp
  constructor
  · rintro ⟨heligible, rfl, rfl, rfl, rfl⟩
    exact ⟨rfl, rfl, rfl, rfl, heligible⟩
  · rintro ⟨rfl, rfl, rfl, rfl, heligible⟩
    exact ⟨heligible, rfl, rfl, rfl, rfl⟩

theorem mem_portraitRows {row : PortraitRow} : row ∈ portraitRows t ↔
    ∃ entry ∈ t.photoRevisions.rows, portraitRow t entry = some row := by
  rw [portraitRows, (perm_insertionSort _ _).mem_iff, mem_filterMap]

theorem portraitRows_nodup : ((portraitRows t).map (·.sourceRevisionId)).Nodup := by
  refine ((perm_insertionSort _ _).map _).nodup_iff.mpr ?_
  exact (Catalog.map_filterMap_sublist (fun _ _ h => (portraitRow_eq_some.mp h).1) _).nodup
    t.photoRevisions.rows_nodup

theorem portraitRows_sorted : ((portraitRows t).map (·.sourceRevisionId)).Pairwise (· < ·) := by
  have hsorted : ((portraitRows t).map (·.sourceRevisionId)).Pairwise (· ≤ ·) :=
    pairwise_map.mpr (pairwise_insertionSort _ _)
  exact hsorted.imp₂ (fun _ _ => lt_of_le_of_ne) portraitRows_nodup

theorem portraitCount_eq : portraitCount t = (portraitRows t).length := by
  rw [portraitCount, ← length_map PortraitRow.sourceRevisionId]
  refine ((perm_ext_iff_of_nodup (nodup_dedup _) portraitRows_nodup).mpr
    fun id => ?_).length_eq
  rw [mem_dedup, mem_filter, ← firstArtifact_isSome, mem_map]
  constructor
  · rintro ⟨hartifact, hrow⟩
    obtain ⟨artifactId, hartifact⟩ := Option.isSome_iff_exists.mp hartifact
    obtain ⟨row, hfound, hrow⟩ := (Option.any_eq_true _ _).mp hrow
    simp only [Bool.and_eq_true, Option.isSome_iff_exists] at hrow
    obtain ⟨⟨heligible, blobSha256, hblob⟩, byteLength, hlength⟩ := hrow
    exact ⟨⟨id, artifactId, blobSha256, byteLength⟩, mem_portraitRows.mpr ⟨(id, row),
      mem_rows.mpr hfound, portraitRow_eq_some.mpr
        ⟨rfl, hartifact, hblob, hlength, heligible⟩⟩, rfl⟩
  · rintro ⟨row, hrow, rfl⟩
    obtain ⟨⟨id, revision⟩, hentry, hrow⟩ := mem_portraitRows.mp hrow
    obtain ⟨hid, hartifact, hblob, hlength, heligible⟩ := portraitRow_eq_some.mp hrow
    dsimp only at hid hartifact hblob hlength heligible
    simp [hid, hartifact, mem_rows.mp hentry, hblob, hlength, heligible]

theorem accepted_iff
    (hchecked : ∀ entry ∈ t.photoRevisions.rows, entry.2.allowed = true) :
    (∃ asset, loadPortraitAsset services files t id = .ok asset) ↔
      ∃ row ∈ portraitRows t, row.sourceRevisionId = id ∧ row.CanBeSent services files := by
  constructor
  · rintro ⟨asset, hasset⟩
    obtain ⟨parent, hparent, hasset⟩ := check_bind_eq_ok.mp hasset
    obtain ⟨png, hpng, -⟩ := check_bind_eq_ok.mp hasset
    revert hparent
    unfold portraitParent
    intro hparent
    split at hparent
    · rename_i row artifactId hrow hartifact
      split at hparent
      · rename_i blobSha256 hblob
        obtain ⟨heligible, hparent⟩ := check_unless_eq_ok.mp hparent
        split at hparent
        · rename_i byteLength _ _ _ hlength _ _ _
          cases hparent
          refine ⟨⟨id, artifactId, blobSha256, byteLength⟩, mem_portraitRows.mpr
            ⟨(id, row), mem_rows.mpr hrow, portraitRow_eq_some.mpr
              ⟨rfl, hartifact, hblob, hlength, not_not.mp heligible⟩⟩, rfl, png, hpng⟩
        · cases hparent
      · cases hparent
    · cases hparent
  · rintro ⟨row, hrow, rfl, png, hpng⟩
    obtain ⟨⟨id, revision⟩, hentry, hrow⟩ := mem_portraitRows.mp hrow
    have hallowed := hchecked _ hentry
    obtain ⟨hid, hartifact, hblob, hlength, heligible⟩ := portraitRow_eq_some.mp hrow
    dsimp only at hid hartifact hblob hlength heligible hallowed
    simp only [PhotoSourceRevisionRow.allowed, heligible, Bool.not_true, Bool.false_or,
      Bool.and_eq_true, Option.isSome_iff_exists] at hallowed
    obtain ⟨⟨⟨-, mediaType, htype⟩, width, hwidth⟩, height, hheight⟩ := hallowed
    refine ⟨_, check_bind_eq_ok.mpr ⟨⟨0, .portrait, some id, some row.artifactId, none, none, none,
      none, none, row.blobSha256, row.byteLength, mediaType, width, height⟩, ?_,
        check_bind_eq_ok.mpr ⟨png, hpng, rfl⟩⟩⟩
    simp [portraitParent, hid, mem_rows.mp hentry, hartifact, hblob, hlength, heligible,
      htype, hwidth, hheight]

/-! ## Candidates -/

theorem portraitCandidate_eq_ok {row : PortraitRow} {candidate : TryOnPortraitCandidateV1} :
    portraitCandidate services files row = .ok candidate ↔
      ∃ source png, verifySourceImage services.toImageServices files row.blobSha256
          row.byteLength = .ok source ∧
        canonicalTryOnPng services.toImageServices files row.blobSha256 row.byteLength = .ok png ∧
        candidate = ⟨row.sourceRevisionId, row.artifactId, source.mediaType, source.width,
          source.height, services.digest source.bytes, source.bytes⟩ := by
  cases hsource : verifySourceImage services.toImageServices files row.blobSha256
      row.byteLength with
  | error e => simp [portraitCandidate, hsource]
  | ok source =>
    obtain ⟨-, hlength, hlong, hfits, -⟩ := verifySourceImage_bounds hsource
    have hbytes : ¬ (source.bytes = [] ∨ maxPhotoArtifactBytes < source.bytes.length) := by
      rw [← length_eq_zero_iff, hlength]
      omega
    simp only [portraitCandidate, hsource, if_neg hbytes]
    rw [check_bind_eq_ok]
    simp [eq_comm]

theorem portraitCandidate_total {row : PortraitRow} :
    (∃ candidate, portraitCandidate services files row = .ok candidate) ↔
      row.CanBeSent services files := by
  constructor
  · rintro ⟨candidate, hcandidate⟩
    obtain ⟨-, png, -, hpng, -⟩ := portraitCandidate_eq_ok.mp hcandidate
    exact ⟨png, hpng⟩
  · rintro ⟨png, hpng⟩
    cases hsource : verifySourceImage services.toImageServices files row.blobSha256
        row.byteLength with
    | error e => simp [canonicalTryOnPng, hsource] at hpng
    | ok source => exact ⟨_, portraitCandidate_eq_ok.mpr ⟨source, png, hsource, hpng, rfl⟩⟩

theorem not_sent_of_error {row : PortraitRow} {e : PlatformError}
    (h : portraitCandidate services files row = .error e) :
    ¬ row.CanBeSent services files := by
  rw [← portraitCandidate_total, h]
  rintro ⟨_, ⟨⟩⟩

theorem TryOnPortraitCandidateV1.validate_of_shown {row : PortraitRow}
    {candidate : TryOnPortraitCandidateV1}
    (h : portraitCandidate services files row = .ok candidate) :
    candidate.validate services = .ok () := by
  obtain ⟨source, -, hsource, -, rfl⟩ := portraitCandidate_eq_ok.mp h
  obtain ⟨-, -, -, -, hwidth, hwide, hheight, hhigh, hpixels⟩ := verifySourceImage_bounds hsource
  rw [TryOnPortraitCandidateV1.validate, check_unless_eq_ok]
  simp only [not_or, not_lt]
  exact ⟨⟨hwidth.ne', hheight.ne', hwide, hhigh, hpixels, not_not.mpr rfl⟩, trivial⟩

theorem artifacts_nodup : ((portraitRows t).map (·.artifactId)).Nodup := by
  refine portraitRows_nodup.of_map.map_on fun row hrow other hother hsame => ?_
  have hphoto {row : PortraitRow} (hrow : row ∈ portraitRows t) :
      t.photoArtifacts.find? row.artifactId = some row.sourceRevisionId := by
    obtain ⟨entry, -, hrow⟩ := mem_portraitRows.mp hrow
    obtain ⟨hid, hartifact, -⟩ := portraitRow_eq_some.mp hrow
    rw [hid]
    exact firstArtifact_eq_some hartifact
  refine inj_on_of_nodup_map portraitRows_nodup hrow hother ?_
  rw [← Option.some_inj, ← hphoto hrow, ← hphoto hother, hsame]

/-! ## Cursors -/

theorem cursor_round_trip {revision offset : ℕ} (hrevision : revision < u64Bound)
    (hoffset : offset < u64Bound) : ∃ cursor, makeCursor revision offset = .ok cursor ∧
      parseCursor (some cursor) revision = .ok offset := by
  have hdigit {n : ℕ} {c : Char} (h : c ∈ Nat.toDigits 10 n) :
      (c.toNat < 128 && !isControl c) = true ∧ c ≠ ':' := by
    have hdigit := Nat.isDigit_of_mem_toDigits (by decide) (by decide) h
    simp only [Char.isDigit, Bool.and_eq_true, decide_eq_true_eq, ge_iff_le,
      UInt32.le_iff_toNat_le] at hdigit
    have hlow : 48 ≤ c.toNat := hdigit.1
    have hhigh : c.toNat ≤ 57 := hdigit.2
    have hcolon : ':'.toNat = 58 := rfl
    refine ⟨by simp [isControl]; omega, fun heq => ?_⟩
    rw [heq, hcolon] at hhigh
    omega
  have hlong {n : ℕ} (h : n < u64Bound) : (Nat.toDigits 10 n).length ≤ 20 :=
    (Nat.length_toDigits_le_iff (by decide) (by decide)).mpr (h.trans (by decide))
  have hspan : (Nat.toDigits 10 revision ++ ':' :: Nat.toDigits 10 offset).span (· ≠ ':') =
      (Nat.toDigits 10 revision, ':' :: Nat.toDigits 10 offset) := by
    have hplain : ∀ c ∈ Nat.toDigits 10 revision, decide (c ≠ ':') = true := fun c hc =>
      decide_eq_true (hdigit hc).2
    rw [span_eq_takeWhile_dropWhile, takeWhile_append_of_pos hplain,
      dropWhile_append_of_pos hplain]
    simp
  have hopaque : Catalog.isOpaque (String.ofList (Nat.toDigits 10 revision ++
      ':' :: Nat.toDigits 10 offset)) Catalog.maxCursorChars = true := by
    have := hlong hrevision
    have := hlong hoffset
    have hchars : ∀ c ∈ Nat.toDigits 10 revision ++ ':' :: Nat.toDigits 10 offset,
        (c.toNat < 128 && !isControl c) = true := by
      intro c hc
      rw [mem_append, mem_cons] at hc
      obtain hc | rfl | hc := hc
      · exact (hdigit hc).1
      · decide
      · exact (hdigit hc).1
    rw [Catalog.isOpaque, String.toList_ofList, Bool.and_eq_true, Bool.and_eq_true]
    refine ⟨⟨by simp, decide_eq_true ?_⟩, all_eq_true.mpr hchars⟩
    rw [Catalog.maxCursorChars, length_append, length_cons]
    omega
  have hnew : PageCursorV1.new _ = some ⟨_, hopaque⟩ := dif_pos hopaque
  refine ⟨⟨_, hopaque⟩, by unfold makeCursor; rw [hnew], ?_⟩
  simp only [parseCursor, String.toList_ofList, hspan, parseU64_toDigits, if_pos hrevision,
    if_pos hoffset, ne_eq, not_true_eq_false, if_false]

theorem parseCursor_lt {cursor : Option PageCursorV1} {revision offset : ℕ}
    (h : parseCursor cursor revision = .ok offset) : offset < u64Bound := by
  cases cursor with
  | none =>
    rw [← Except.ok.inj h]
    decide
  | some cursor =>
    simp only [parseCursor] at h
    split at h
    · cases h
    · obtain ⟨-, h⟩ := check_unless_eq_ok.mp h
      split at h
      · cases h
      · rename_i hoffset
        rw [← Except.ok.inj h]
        exact Catalog.parseU64_lt hoffset

/-! ## Pages -/

section Pages

variable {photoRevision : ℕ} {request : ListTryOnPortraitCandidatesV1Request}

/-- The identifiers of the photos that a page shows. -/
def ListTryOnPortraitCandidatesV1Response.ids (self : ListTryOnPortraitCandidatesV1Response) :
    List PhotoSourceRevisionId :=
  self.candidates.map (·.sourceRevisionId)

theorem shown_of_rows {rows : List PortraitRow} {candidates : List TryOnPortraitCandidateV1}
    (h : rows.mapM (portraitCandidate services files) = .ok candidates) :
    candidates.map (·.sourceRevisionId) = rows.map (·.sourceRevisionId) ∧
      candidates.map (·.artifactId) = rows.map (·.artifactId) ∧
      ∀ candidate ∈ candidates, candidate.validate services = .ok () := by
  have hall := check_mapM_eq_ok.mp h
  clear h
  induction hall with
  | nil => exact ⟨rfl, rfl, forall_mem_nil _⟩
  | cons hshown _ ih =>
    have hvalid := TryOnPortraitCandidateV1.validate_of_shown hshown
    obtain ⟨source, png, -, -, rfl⟩ := portraitCandidate_eq_ok.mp hshown
    exact ⟨congrArg _ ih.1, congrArg _ ih.2.1, forall_mem_cons.mpr ⟨hvalid, ih.2.2⟩⟩

theorem limitOffset_sublist {limit offset : ℕ} {rows : List PortraitRow} :
    (limitOffset limit offset rows).Sublist rows :=
  (take_sublist ..).trans (drop_sublist ..)

def portraitPage (services : TryOnServices) (files : BlobFiles) (t : TryOnTables)
    (photoRevision : ℕ) (request : ListTryOnPortraitCandidatesV1Request)
    (cursor : Option PageCursorV1) :
    Except ListFailure (ListTryOnPortraitCandidatesV1Response × Option PageCursorV1) :=
  (listTryOnPortraitCandidates services files t photoRevision { request with cursor }).map
    fun response => (response, response.nextCursor)

theorem totals_of_pages {cursor : Option PageCursorV1}
    {pages : List ListTryOnPortraitCandidatesV1Response}
    (h : Pages (portraitPage services files t photoRevision request) cursor pages) :
    ∀ page ∈ pages, page.totalCount = portraitCount t := by
  have htotal {cursor page next}
      (h : portraitPage services files t photoRevision request cursor = .ok (page, next)) :
      page.totalCount = portraitCount t := by
    cases hlist : listTryOnPortraitCandidates services files t photoRevision
        { request with cursor } with
    | error e => simp [portraitPage, hlist, Except.map] at h
    | ok response =>
      rw [portraitPage, hlist] at h
      obtain ⟨rfl, -⟩ := Prod.mk.inj (Except.ok.inj h)
      obtain ⟨-, -, hlist⟩ := check_bind_eq_ok.mp hlist
      obtain ⟨offset, -, hlist⟩ := check_bind_eq_ok.mp hlist
      obtain ⟨candidates, -, hlist⟩ := check_bind_eq_ok.mp hlist
      obtain ⟨-, hlist⟩ := check_unless_eq_ok.mp hlist
      dsimp only at hlist
      split at hlist
      all_goals
        obtain ⟨next, -, hlist⟩ := check_bind_eq_ok.mp hlist
        obtain ⟨-, -, hlist⟩ := check_bind_eq_ok.mp hlist
        cases hlist
        rfl
  induction h with
  | last answer => exact forall_mem_singleton.mpr (htotal answer)
  | more answer _ ih => exact forall_mem_cons.mpr ⟨htotal answer, ih⟩

variable (hrequest : request.validate = .ok ()) (hrevision : photoRevision < maxSafeIntegerV1)
  (hcount : portraitCount t < maxSafeIntegerV1)

include hrequest hrevision hcount

theorem list_of_offset (services : TryOnServices) (files : BlobFiles) {offset : ℕ}
    (hcursor : parseCursor request.cursor photoRevision = .ok offset) :
    (∃ e, (limitOffset request.limit offset (portraitRows t)).mapM
        (portraitCandidate services files) = .error e ∧
      listTryOnPortraitCandidates services files t photoRevision request = .error (.failed e)) ∨
    ∃ candidates, (limitOffset request.limit offset (portraitRows t)).mapM
        (portraitCandidate services files) = .ok candidates ∧
      (u64Bound ≤ offset + candidates.length ∧
        listTryOnPortraitCandidates services files t photoRevision request = .error .overflowed ∨
      offset + candidates.length < u64Bound ∧ ∃ next,
        listTryOnPortraitCandidates services files t photoRevision request = .ok ⟨schemaVersionV1,
          request.requestId, candidates, portraitCount t, photoRevision, next⟩ ∧
        (next = none ∧ portraitCount t ≤ offset + candidates.length ∨
          ∃ cursor, next = some cursor ∧ offset + candidates.length < portraitCount t ∧
            parseCursor (some cursor) photoRevision = .ok (offset + candidates.length))) := by
  have hlimit := check_when_eq_ok.mp (check_then_eq_ok.mp hrequest).2
  cases hshown : (limitOffset request.limit offset (portraitRows t)).mapM
      (portraitCandidate services files) with
  | error e =>
    refine .inl ⟨e, rfl, ?_⟩
    simp [listTryOnPortraitCandidates, hrequest, hcursor, hshown, Except.mapError, bind,
      Except.bind]
  | ok candidates =>
    refine .inr ⟨candidates, rfl, ?_⟩
    obtain ⟨hids, hartifacts, hshows⟩ := shown_of_rows hshown
    have hlength : candidates.length =
        (limitOffset request.limit offset (portraitRows t)).length := by
      simpa using congrArg length hids
    have hvalid (next) : ListTryOnPortraitCandidatesV1Response.validate services ⟨schemaVersionV1,
        request.requestId, candidates, portraitCount t, photoRevision, next⟩ = .ok () := by
      have hfew : candidates.length ≤ maxPhotoPageSize :=
        hlength.trans_le ((length_take_le ..).trans hlimit.1.2)
      have hmost : candidates.length ≤ portraitCount t :=
        (hlength.trans_le limitOffset_sublist.length_le).trans_eq portraitCount_eq.symm
      refine check_then_eq_ok.mpr ⟨rfl, check_unless_eq_ok.mpr ⟨?_, ?_⟩⟩
      · simp only [not_or, not_lt, not_le]
        exact ⟨hfew, hmost, hcount, hrevision⟩
      · refine check_then_eq_ok.mpr ⟨tryForEach_eq_ok.mpr hshows, check_unless_eq_ok.mpr ⟨?_, rfl⟩⟩
        dsimp only
        rw [hids, hartifacts, not_not]
        exact ⟨(limitOffset_sublist.map _).nodup portraitRows_nodup,
          (limitOffset_sublist.map _).nodup artifacts_nodup⟩
    rcases le_or_gt u64Bound (offset + candidates.length) with hover | hfits
    · refine .inl ⟨hover, ?_⟩
      simp [listTryOnPortraitCandidates, hrequest, hcursor, hshown, hover, Except.mapError, bind,
        Except.bind]
    · refine .inr ⟨hfits, ?_⟩
      rcases lt_or_ge (offset + candidates.length) (portraitCount t) with hmore | hlast
      · obtain ⟨cursor, hmade, hread⟩ := cursor_round_trip (hrevision.trans (by decide)) hfits
        refine ⟨some cursor, ?_, .inr ⟨cursor, rfl, hmore, hread⟩⟩
        simp [listTryOnPortraitCandidates, hrequest, hcursor, hshown, hfits.not_ge, hmore, hmade,
          hvalid, Except.mapError, Except.map, bind, Except.bind]
      · refine ⟨none, ?_, .inl ⟨rfl, hlast⟩⟩
        simp [listTryOnPortraitCandidates, hrequest, hcursor, hshown, hfits.not_ge, hlast.not_gt,
          hvalid, Except.mapError, bind, Except.bind]

theorem pages_from (hall : ∀ row ∈ portraitRows t, row.CanBeSent services files)
    {cursor : Option PageCursorV1} {offset : ℕ}
    (hcursor : parseCursor cursor photoRevision = .ok offset)
    (hoffset : offset ≤ (portraitRows t).length) :
    ∃ pages, Pages (portraitPage services files t photoRevision request) cursor pages ∧
      pages.flatMap (·.ids) = ((portraitRows t).drop offset).map (·.sourceRevisionId) := by
  have hlimit := check_when_eq_ok.mp (check_then_eq_ok.mp hrequest).2
  -- by induction on how many photos are left
  induction hleft : (portraitRows t).length - offset using Nat.strongRecOn
    generalizing cursor offset with
  | ind left ih =>
    have hsmall : offset < i64Bound :=
      (hoffset.trans_lt (portraitCount_eq.symm.trans_lt hcount)).trans (by decide)
    have hasked : ({ request with cursor } : ListTryOnPortraitCandidatesV1Request).validate =
        .ok () := hrequest
    obtain ⟨e, herror, -⟩ | ⟨candidates, hshown, hanswer⟩ :=
      list_of_offset hasked hrevision hcount services files hcursor
    · obtain ⟨row, hrow, hfails⟩ := check_mapM_eq_error herror
      exact absurd (hall row (limitOffset_sublist.mem hrow)) (not_sent_of_error hfails)
    · have hids := (shown_of_rows hshown).1
      rw [limitOffset, if_pos hsmall] at hids
      dsimp only at hids
      have hlength : candidates.length = min request.limit ((portraitRows t).length - offset) := by
        simpa using congrArg length hids
      have hbound : i64Bound + maxPhotoPageSize < u64Bound := by decide
      obtain ⟨hover, -⟩ | ⟨-, next, hlist, hnext⟩ := hanswer
      · omega
      · have hpage := congrArg (Except.map fun response => (response, response.nextCursor)) hlist
        rw [portraitCount_eq] at hnext
        obtain ⟨rfl, hlast⟩ | ⟨following, rfl, hmore, hread⟩ := hnext
        · refine ⟨[_], .last hpage, ?_⟩
          rw [flatMap_singleton]
          refine hids.trans (congrArg _ (take_of_length_le ?_))
          rw [length_drop]
          omega
        · obtain ⟨pages, hpages, hrest⟩ := ih _ (by omega) hread hmore.le rfl
          refine ⟨_ :: pages, .more hpage hpages, ?_⟩
          have hfull : candidates.length = request.limit := by omega
          rw [flatMap_cons, hrest, hfull, ← drop_drop]
          refine (congrArg (· ++ _) hids).trans ?_
          rw [← map_append, take_append_drop]

/-- A listing agrees with the preview: its pages show each photo once that a preview accepts, in the
order of their identifiers, and each says how many these are. -/
def Agrees (services : TryOnServices) (files : BlobFiles) (t : TryOnTables) (photoRevision : ℕ)
    (request : ListTryOnPortraitCandidatesV1Request) : Prop :=
  ∃ pages, Pages (portraitPage services files t photoRevision request) none pages ∧
    (pages.flatMap (·.ids)).Pairwise (· < ·) ∧
    (∀ id, id ∈ pages.flatMap (·.ids) ↔
      ∃ asset, loadPortraitAsset services files t id = .ok asset) ∧
    ∀ page ∈ pages, page.totalCount = (pages.flatMap (·.ids)).length

theorem agrees_iff (hchecked : ∀ entry ∈ t.photoRevisions.rows, entry.2.allowed = true) :
    Agrees services files t photoRevision request ↔
      ∀ row ∈ portraitRows t, row.CanBeSent services files := by
  constructor
  · rintro ⟨pages, hpages, hsorted, haccepted, htotals⟩ row hrow
    have hcounted : (portraitRows t).length = (pages.flatMap (·.ids)).length := by
      obtain ⟨page, hpage⟩ : ∃ page, page ∈ pages := by
        cases hpages <;> exact ⟨_, .head _⟩
      rw [← htotals page hpage, totals_of_pages hpages page hpage, portraitCount_eq]
    have hnodup : (pages.flatMap (·.ids)).Nodup := hsorted.imp ne_of_lt
    have hperm : (pages.flatMap (·.ids)).Perm ((portraitRows t).map (·.sourceRevisionId)) := by
      refine (hnodup.subperm fun id hid => ?_).perm_of_length_le ?_
      · obtain ⟨row, hrow, hid, -⟩ := (accepted_iff hchecked).mp ((haccepted id).mp hid)
        exact mem_map.mpr ⟨row, hrow, hid⟩
      · rw [length_map, hcounted]
    have hid := (haccepted _).mp (hperm.mem_iff.mpr (mem_map_of_mem hrow))
    obtain ⟨other, hother, hsame, hpng⟩ := (accepted_iff hchecked).mp hid
    rwa [inj_on_of_nodup_map portraitRows_nodup hother hrow hsame] at hpng
  · intro hall
    obtain ⟨pages, hpages, hids⟩ := pages_from hrequest hrevision hcount hall
      (rfl : parseCursor none photoRevision = .ok 0) (Nat.zero_le _)
    rw [drop_zero] at hids
    refine ⟨pages, hpages, hids ▸ portraitRows_sorted, fun id => ?_, fun page hpage => ?_⟩
    · rw [hids, mem_map, accepted_iff hchecked]
      exact exists_congr fun row => and_congr_right fun hrow => (and_iff_left (hall row hrow)).symm
    · rw [hids, length_map, ← portraitCount_eq, totals_of_pages hpages page hpage]

/-- **The list is what previews accept** exactly if all the photos that may be shown can be sent. A
cursor gives the rows at the offset that it names exactly if the offset is an `i64`, or none of the
rows at the start is shown in their place. -/
theorem portraits_agree_iff (hchecked : ∀ entry ∈ t.photoRevisions.rows, entry.2.allowed = true) :
    (Agrees services files t photoRevision request ↔
      ∀ row ∈ portraitRows t, row.CanBeSent services files) ∧
    ∀ offset, parseCursor request.cursor photoRevision = .ok offset →
      ((listTryOnPortraitCandidates services files t photoRevision request ≠ .error .overflowed ∧
          ∀ response, listTryOnPortraitCandidates services files t photoRevision request =
            .ok response → response.ids = (((portraitRows t).drop offset).take request.limit).map
              (·.sourceRevisionId)) ↔
        offset < i64Bound ∨ portraitRows t = [] ∨ ∃ row ∈ (portraitRows t).take request.limit,
          ¬ row.CanBeSent services files) := by
  refine ⟨agrees_iff hrequest hrevision hcount hchecked, fun offset hcursor => ?_⟩
  have hlimit := check_when_eq_ok.mp (check_then_eq_ok.mp hrequest).2
  obtain ⟨e, herror, hlist⟩ | ⟨candidates, hshown, hanswer⟩ :=
    list_of_offset hrequest hrevision hcount services files hcursor
  · rw [hlist]
    refine iff_of_true ⟨by simp, fun response h => by cases h⟩ ?_
    rw [or_iff_not_imp_left]
    intro hlarge
    obtain ⟨row, hrow, hfails⟩ := check_mapM_eq_error herror
    rw [limitOffset, if_neg hlarge, List.drop_zero] at hrow
    exact .inr ⟨row, hrow, not_sent_of_error hfails⟩
  · have hids := (shown_of_rows hshown).1
    have hlength : candidates.length =
        (limitOffset request.limit offset (portraitRows t)).length := by
      simpa using congrArg List.length hids
    have hread := parseCursor_lt hcursor
    by_cases hsmall : offset < i64Bound
    · have hfew : candidates.length ≤ maxPhotoPageSize :=
        hlength.trans_le ((List.length_take_le ..).trans hlimit.1.2)
      have hbound : i64Bound + maxPhotoPageSize < u64Bound := by decide
      rw [limitOffset, if_pos hsmall] at hids
      refine iff_of_true ?_ (.inl hsmall)
      obtain ⟨hover, -⟩ | ⟨-, next, hlist, -⟩ := hanswer
      · omega
      · rw [hlist]
        exact ⟨by simp, fun response h => Except.ok.inj h ▸ hids⟩
    · rw [limitOffset, if_neg hsmall, List.drop_zero] at hids hlength
      have hbeyond : (portraitRows t).drop offset = [] := by
        rw [portraitCount_eq] at hcount
        have hbound : maxSafeIntegerV1 < i64Bound := by decide
        exact List.drop_eq_nil_of_le (by omega)
      have hall : ¬ ∃ row ∈ (portraitRows t).take request.limit,
          ¬ row.CanBeSent services files := by
        rintro ⟨row, hrow, hfails⟩
        rw [limitOffset, if_neg hsmall, List.drop_zero] at hshown
        exact hfails (portraitCandidate_total.mp (check_mapM_total.mp ⟨_, hshown⟩ row hrow))
      rw [or_iff_right hsmall, or_iff_left hall, hbeyond]
      constructor
      · rintro ⟨hfits, hsame⟩
        obtain ⟨-, hlist⟩ | ⟨-, next, hlist, -⟩ := hanswer
        · exact absurd hlist hfits
        · have hnone := hids.symm.trans (hsame _ hlist)
          rw [List.take_nil, List.map_nil, List.map_eq_nil_iff, List.take_eq_nil_iff] at hnone
          exact hnone.resolve_left (by omega)
      · intro hnone
        rw [hnone] at hids hlength
        obtain ⟨hover, -⟩ | ⟨-, next, hlist, -⟩ := hanswer
        · rw [hlength] at hover
          simp at hover
          omega
        · rw [hlist]
          exact ⟨by simp, fun response h => Except.ok.inj h ▸ hids⟩

end Pages

namespace Example

/-- A second photo may be shown, whose blob is lost. -/
def lostPhoto : TryOnTables :=
  { tables with
    photoRevisions := tables.photoRevisions.put (.above 8)
      ⟨true, some (countBytes [1, 1, 1, 1]), some 4, some "image/jpeg", some 10, some 10⟩
    photoArtifacts := tables.photoArtifacts.put (.above 9) (.above 8) }

def portraitsRequest : ListTryOnPortraitCandidatesV1Request := ⟨1, .above 7, none, 100⟩

/-- The first photo can be sent, and no page shows it. -/
theorem lost_photo_hides_portraits :
    ¬ Agrees countServices threeFiles lostPhoto 0 portraitsRequest := by
  have hfails : listTryOnPortraitCandidates countServices threeFiles lostPhoto 0 portraitsRequest =
      .error (.failed (.corrupt "try_on_portrait_source")) := by
    decide +kernel
  have hpage : portraitPage countServices threeFiles lostPhoto 0 portraitsRequest none =
      .error (.failed (.corrupt "try_on_portrait_source")) := congrArg (Except.map _) hfails
  rintro ⟨pages, hpages, -⟩
  cases hpages with
  | last answer | more answer =>
    rw [hpage] at answer
    cases answer

theorem portrait_listed : Agrees countServices threeFiles tables 0 portraitsRequest := by
  have hsent : (portraitRows tables).all (fun row => (canonicalTryOnPng
      countServices.toImageServices threeFiles row.blobSha256 row.byteLength).isOk) = true := by
    decide +kernel
  refine (portraits_agree_iff (by decide) (by decide) (by decide +kernel)
    (by decide +kernel)).1.mpr fun row hrow => ?_
  have hrow := List.all_eq_true.mp hsent row hrow
  cases h : canonicalTryOnPng countServices.toImageServices threeFiles row.blobSha256
      row.byteLength with
  | error e =>
    rw [h] at hrow
    cases hrow
  | ok png => exact ⟨png, h⟩

end Example

end Threadbook.TryOn
