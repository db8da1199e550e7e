import Threadbook.Attire.TryOnHistory

/-!
# What the page shows

Each part of the page can be read from rows as they are in every history, if the files they name
are intact (`Intact`), and passes the checks of the page: the garments of an approval
(**`loadGarmentSources_shows`**), a job (**`loadJob_shows`**) and its output
(**`loadOutput_shows`**).
-/

namespace Threadbook.TryOn

open Fallible List
open Outfits (OutfitRow sqlTrim isPrintableAscii maxStoredRevision)
open Promotion (ItemAttributesV1)

variable {services : TryOnPageServices} {files : BlobFiles} {t : TryOnTables}

/-! ## Names -/

theorem isWhitespace_of_printable {c : Char} (h : isPrintableAscii c) :
    isWhitespace c = decide (c = ' ') := by
  have hspace : c = ' ' ↔ c.toNat = 0x20 := Char.toNat_inj.symm
  rw [isPrintableAscii, Bool.and_eq_true, decide_eq_true_eq, decide_eq_true_eq] at h
  rw [Bool.eq_iff_iff, decide_eq_true_eq, hspace]
  simp only [isWhitespace, Bool.or_eq_true, Bool.and_eq_true, decide_eq_true_eq, beq_iff_eq]
  omega

/-- **A name of an outfit** can be shown: among printable ASCII only the space is trimmed. -/
theorem isBoundedDisplayName_of_allowed {row : OutfitRow} (h : row.allowed) :
    isBoundedDisplayName row.name := by
  rw [OutfitRow.allowed, decide_eq_true_eq] at h
  obtain ⟨hpos, hlength, htrim, hascii, -⟩ := h
  have hprintable : ∀ c ∈ row.name.toList, isPrintableAscii c := all_eq_true.mp hascii
  have hsame : trim row.name = row.name.toList := by
    obtain ⟨hfirst, hlast⟩ := Outfits.trimmed_iff.mp htrim.symm
    refine Outfits.trimmed_iff.mpr ⟨fun hne => ?_, fun hne => ?_⟩
    · rw [isWhitespace_of_printable (hprintable _ (head_mem hne))]
      exact hfirst hne
    · rw [isWhitespace_of_printable (hprintable _ (getLast_mem hne))]
      exact hlast hne
  have hcontrol : row.name.toList.any isControl = false := by
    rw [any_eq_false]
    intro c hc
    have hc := hprintable c hc
    simp only [isPrintableAscii, Bool.and_eq_true, decide_eq_true_eq] at hc
    simp only [isControl, Bool.or_eq_true, Bool.and_eq_true, decide_eq_true_eq]
    omega
  rw [isBoundedDisplayName, decide_eq_true_eq]
  refine ⟨fun hnil => ?_, hsame, hlength, by simp [hcontrol]⟩
  rw [hsame] at hnil
  rw [← String.length_toList, hnil] at hpos
  cases hpos

/-! ## Garments -/

structure Intact (services : TryOnPageServices) (s : TryOnStore) : Prop where
  garments : ∀ key row, s.tables.assets.find? key = some row → row.role = "garment" →
    ∃ image, verifySourceImage services.toImageServices s.files row.parentBlobSha256
        row.parentByteLength = .ok image ∧ image.mediaType.text = row.parentMediaType ∧
      image.width = row.parentWidth ∧ image.height = row.parentHeight
  outputs : ∀ outputId row, s.tables.outputs.find? outputId = some row →
    ∃ file, s.files row.blobSha256 = some file ∧
      verifyBlob services.toImageServices s.files row.blobSha256 = .ok row.byteLength ∧
      services.pngSize file.bytes = some (tryOnOutputWidth, tryOnOutputHeight)

structure ShowsGarment (services : TryOnPageServices) (entry : ℕ × TryOnAssetRow)
    (source : TryOnGarmentSourceV1) : Prop where
  ordinal : source.ordinal = entry.1
  itemId : entry.2.itemId = some source.itemId
  itemUpdatedRevision : entry.2.itemUpdatedRevision = some source.itemUpdatedRevision
  attributes : entry.2.attributes = some source.attributes
  evidenceId : entry.2.evidenceId = some source.evidenceId
  sourceId : entry.2.sourceId = some source.sourceId
  mediaType : source.mediaType.text = entry.2.parentMediaType
  width : source.width = entry.2.parentWidth
  height : source.height = entry.2.parentHeight
  hash : source.bytesSha256 = entry.2.parentBlobSha256
  bytes : services.digest source.bytes.bytes = entry.2.parentBlobSha256

theorem garmentColumns_eq_ok {entry : ℕ × TryOnAssetRow}
    {read : (ℕ × TryOnAssetRow) × GarmentColumns} (h : garmentColumns entry = .ok read) :
    read.1 = entry ∧ entry.2.itemId = some read.2.itemId ∧
      entry.2.itemUpdatedRevision = some read.2.itemUpdatedRevision ∧
      entry.2.attributes = some read.2.attributes ∧ entry.2.evidenceId = some read.2.evidenceId ∧
      entry.2.sourceId = some read.2.sourceId := by
  rw [garmentColumns] at h
  split at h
  · rename_i hitem hrevision hattributes hevidence hsource
    cases h
    exact ⟨rfl, hitem, hrevision, hattributes, hevidence, hsource⟩
  · cases h

/-- **A garment** is shown if its file is intact, and passes the checks. -/
theorem garmentSource_shows {entry : ℕ × TryOnAssetRow} {image : VerifiedSourceImage}
    (hshowable : Showable entry) (hpos : 0 < entry.1) (hmax : entry.1 ≤ tryOnMaxGarments)
    (himage : verifySourceImage services.toImageServices files entry.2.parentBlobSha256
      entry.2.parentByteLength = .ok image)
    (htype : image.mediaType.text = entry.2.parentMediaType)
    (hwidth : image.width = entry.2.parentWidth) (hheight : image.height = entry.2.parentHeight) :
    ∃ columns source, garmentColumns entry = .ok (entry, columns) ∧
      garmentSource services files (entry, columns) = .ok source ∧
      ShowsGarment services entry source ∧ source.validate services = .ok () := by
  obtain ⟨columns, hcolumns, hattributes, hrevision, hbounded⟩ := hshowable
  obtain ⟨-, hitemId, hitemRevision, hitemAttributes, hevidence, hsource⟩ :=
    garmentColumns_eq_ok hcolumns
  obtain ⟨-, hlength, hlong, hfits, hwide, hwidest, hhigh, hhighest, hpixels⟩ :=
    verifySourceImage_bounds himage
  have hdigest := verifySourceImage_digest himage
  have hnonempty : image.bytes ≠ [] := by
    intro hnil
    rw [hnil] at hlength
    exact hlong.ne hlength
  have hbytes : BoundedBytes.new maxPhotoArtifactBytes image.bytes =
      .ok ⟨image.bytes, hnonempty, hlength.le.trans hfits⟩ :=
    BoundedBytes.new_eq_ok hnonempty (hlength.le.trans hfits)
  refine ⟨columns, {
    ordinal := entry.1, itemId := columns.itemId, evidenceId := columns.evidenceId
    itemUpdatedRevision := columns.itemUpdatedRevision, attributes := columns.attributes
    sourceId := columns.sourceId, mediaType := image.mediaType, width := image.width
    height := image.height, bytesSha256 := services.digest image.bytes
    bytes := ⟨image.bytes, hnonempty, hlength.le.trans hfits⟩ }, hcolumns, ?_, ?_, ?_⟩
  · simp only [garmentSource, himage]
    rw [rejectWhen_bind_eq_ok]
    refine ⟨by simp [htype, hwidth, hheight], ?_⟩
    rw [hbytes]
    rfl
  · exact ⟨rfl, hitemId, hitemRevision, hitemAttributes, hevidence, hsource, htype, hwidth,
      hheight, hdigest, hdigest⟩
  · rw [TryOnGarmentSourceV1.validate, check_then_eq_ok, check_unless_eq_ok]
    refine ⟨hattributes, ?_, rfl⟩
    have hdimensions : validDimensions image.width image.height := by
      rw [validDimensions, decide_eq_true_eq]
      exact ⟨hwide, hhigh, hwidest, hhighest, hpixels⟩
    rintro (hlate | hzero | hzero | hlate | hbad | hbad)
    · exact absurd hmax (not_le.mpr hlate)
    · exact hpos.ne' hzero
    · exact hrevision.ne' hzero
    · exact absurd hbounded (not_lt.mpr hlate)
    · exact hbad hdimensions
    · exact hbad rfl

theorem validateGarmentSources_eq_ok {index : ℕ} {items : List ItemId}
    {sources : List TryOnGarmentSourceV1}
    (hvalid : ∀ source ∈ sources, source.validate services = .ok ())
    (hordinals : sources.map (·.ordinal) = range' (index + 1) sources.length)
    (hitems : (sources.map (·.itemId)).Nodup) (hnew : ∀ source ∈ sources, source.itemId ∉ items) :
    validateGarmentSources services index items sources = .ok () := by
  induction sources generalizing index items with
  | nil => rfl
  | cons source rest ih =>
    obtain ⟨hfirst, hrest⟩ := forall_mem_cons.mp hvalid
    obtain ⟨hnewFirst, hnewRest⟩ := forall_mem_cons.mp hnew
    rw [map_cons, length_cons, range'_succ, cons.injEq] at hordinals
    rw [map_cons, nodup_cons] at hitems
    apply check_then_eq_ok.mpr
    rw [check_unless_eq_ok, not_or, not_not]
    refine ⟨hfirst, ⟨hordinals.1, hnewFirst⟩, ih hrest hordinals.2 hitems.2 fun other hother => ?_⟩
    rw [mem_cons, not_or]
    refine ⟨fun hsame => hitems.1 ?_, hnewRest other hother⟩
    rw [← hsame]
    exact mem_map_of_mem hother

theorem validateDisclosureAssets_items {index aggregate total : ℕ} {itemIds : List ItemId}
    {assets : List TryOnDisclosureAssetV1}
    (h : validateDisclosureAssets index itemIds aggregate assets = .ok total) :
    (assets.filterMap (·.itemId)).Nodup ∧ ∀ itemId ∈ assets.filterMap (·.itemId),
      itemId ∉ itemIds := by
  induction assets generalizing index itemIds aggregate with
  | nil => exact ⟨nodup_nil, fun itemId hitem => by cases hitem⟩
  | cons asset rest ih =>
    obtain ⟨-, h⟩ := check_then_eq_ok.mp h
    rw [rejectWhen_bind_eq_ok, rejectWhen_bind_eq_ok] at h
    obtain ⟨-, hown, h⟩ := h
    obtain ⟨hnodup, hnew⟩ := ih h
    cases hitem : asset.itemId with
    | none =>
      rw [filterMap_cons_none hitem]
      simpa [hitem] using And.intro hnodup hnew
    | some itemId =>
      rw [filterMap_cons_some hitem]
      simp only [hitem, Option.toList_some, singleton_append, mem_cons, not_or] at hnew
      have hfirst : itemId ∉ itemIds := by simpa [hitem] using hown
      refine ⟨nodup_cons.mpr ⟨fun hmem => (hnew itemId hmem).1 rfl, hnodup⟩, ?_⟩
      rw [forall_mem_cons]
      exact ⟨hfirst, fun other hother => (hnew other hother).2⟩

structure GarmentsOf (garments : List (ℕ × TryOnAssetRow)) : Prop where
  atLeast : tryOnMinGarments ≤ garments.length
  atMost : garments.length ≤ tryOnMaxGarments
  ordinals : garments.map Prod.fst = List.range' 1 garments.length
  items : (garments.filterMap fun entry => entry.2.itemId).Nodup
  roles : ∀ entry ∈ garments, entry.2.role = "garment"

variable {jobId : TryOnJobId} {job : TryOnJobRow} {approvalId : TryOnApprovalId}
  {response : PreviewTryOnV1Response}

theorem Bound.portrait {assets : List SnapshotAsset}
    (h : Bound services.toTryOnServices t approvalId assets response) :
    ∃ portrait garments, assets = portrait :: garments ∧
      tryOnMinGarments ≤ garments.length ∧ garments.length ≤ tryOnMaxGarments ∧
      garments.map (·.ordinal) = range' 1 garments.length ∧
      (garments.filterMap (·.itemId)).Nodup ∧ portrait.role = .portrait ∧
      ∀ asset ∈ garments, asset.role = .garment := by
  obtain ⟨hmin, hmax, total, hassets⟩ := disclosure_assets h.valid
  obtain ⟨-, -, hordinals, hroles⟩ := disclosure_ordinals h.valid
  obtain ⟨hnodup, -⟩ := validateDisclosureAssets_items hassets
  have hlength := h.disclosed.length_eq
  -- what the answer says of the images holds of the images
  have hsame : ∀ {β : Type} (f : SnapshotAsset → β) (g : TryOnDisclosureAssetV1 → β),
      (∀ asset shown, asset.disclosure = .ok shown → g shown = f asset) →
        response.disclosure.assets.map g = assets.map f :=
    fun f g hfg => Outfits.map_eq_of_forall₂ hfg h.disclosed
  rw [← hlength, hsame (·.ordinal) (·.ordinal) fun _ _ h => (disclosure_eq_ok h).1] at hordinals
  have hitems : response.disclosure.assets.map (·.itemId) = assets.map (·.itemId) := by
    refine hsame (·.itemId) (·.itemId) fun asset shown hshown => ?_
    rw [SnapshotAsset.disclosure, check_when_eq_ok] at hshown
    rw [← hshown.2]
  have hrole : ∀ asset ∈ assets, asset.ordinal = 0 ↔ asset.role = .portrait := by
    intro asset hasset
    obtain ⟨shown, hshown, hdisclosed⟩ := exists_of_forall₂ h.disclosed.flip asset hasset
    obtain ⟨hordinal, hrole, -⟩ := disclosure_eq_ok hdisclosed
    rw [← hordinal, ← hrole]
    exact hroles shown hshown
  have hfilter : (assets.filterMap (·.itemId)).Nodup := by
    have hfiltered := congrArg (filterMap id) hitems
    rw [filterMap_map, filterMap_map, Function.id_comp, Function.id_comp] at hfiltered
    exact hfiltered ▸ hnodup
  rw [← hlength] at hmin hmax
  cases assets with
  | nil => cases hmin
  | cons portrait garments =>
    rw [map_cons, length_cons, range_succ_eq_map, cons.injEq] at hordinals
    obtain ⟨hfirst, hrest⟩ := hordinals
    have hnumbered : garments.map (·.ordinal) = range' 1 garments.length := by
      rw [hrest, range'_eq_map_range]
      exact map_congr_left fun i _ => by rw [Nat.succ_eq_add_one, Nat.add_comm]
    refine ⟨portrait, garments, rfl, Nat.le_of_succ_le_succ hmin, Nat.le_of_succ_le_succ hmax,
      hnumbered, ?_, (hrole portrait (.head _)).mp hfirst, fun asset hasset => ?_⟩
    · exact hfilter.sublist ((sublist_cons_self _ _).filterMap _)
    · have hpos : asset.ordinal ∈ range' 1 garments.length := by
        rw [← hnumbered]
        exact mem_map_of_mem hasset
      have hnot : asset.role ≠ .portrait := fun hportrait => by
        rw [← hrole asset (.tail _ hasset)] at hportrait
        rw [hportrait, mem_range'_1] at hpos
        omega
      cases hcase : asset.role with
      | portrait => exact absurd hcase hnot
      | garment => rfl

/-- **The garments of an approval** are numbered from one, two to eight, no item twice. -/
theorem Bound.garments {assets : List SnapshotAsset}
    (h : Bound services.toTryOnServices t approvalId assets response) :
    GarmentsOf (garmentRows t approvalId) := by
  obtain ⟨portrait, garments, rfl, hmin, hmax, hordinals, hitems, hportrait, hroles⟩ := h.portrait
  have hrole : ∀ asset ∈ garments, asset.slot.2.role = "garment" := by
    intro asset hasset
    change roleDb asset.role = _
    rw [hroles asset hasset]
    rfl
  have hrows : garmentRows t approvalId = garments.map (·.slot) := by
    have hout : portrait.slot.2.role ≠ "garment" := by
      change roleDb portrait.role ≠ _
      rw [hportrait]
      decide
    rw [garmentRows, h.rows, map_cons, filter_cons_of_neg (by simpa using hout), filter_eq_self]
    intro entry hentry
    obtain ⟨asset, hasset, rfl⟩ := mem_map.mp hentry
    exact decide_eq_true (hrole asset hasset)
  rw [hrows]
  refine ⟨by rwa [length_map], by rwa [length_map], ?_, ?_, fun entry hentry => ?_⟩
  · rw [map_map, length_map]
    exact hordinals
  · rw [filterMap_map]
    exact hitems
  · obtain ⟨asset, hasset, rfl⟩ := mem_map.mp hentry
    exact hrole asset hasset

theorem garmentSources_shows {rows : List (ℕ × TryOnAssetRow)}
    (h : ∀ entry ∈ rows, ∃ columns source, garmentColumns entry = .ok (entry, columns) ∧
      garmentSource services files (entry, columns) = .ok source ∧
      ShowsGarment services entry source ∧ source.validate services = .ok ()) :
    ∃ reads sources, rows.mapM garmentColumns = .ok reads ∧
      reads.mapM (garmentSource services files) = .ok sources ∧
      List.Forall₂ (fun entry source => ShowsGarment services entry source ∧
        source.validate services = .ok ()) rows sources := by
  simp only [check_mapM_eq_ok]
  induction rows with
  | nil => exact ⟨[], [], .nil, .nil, .nil⟩
  | cons entry rest ih =>
    obtain ⟨hfirst, hrest⟩ := forall_mem_cons.mp h
    obtain ⟨columns, source, hcolumns, hsource, hshows⟩ := hfirst
    obtain ⟨reads, sources, hreads, hsources, hall⟩ := ih hrest
    exact ⟨(entry, columns) :: reads, source :: sources, .cons hcolumns hreads,
      .cons hsource hsources, .cons hshows hall⟩

/-- **The garments of a job's approval** are shown in order, and pass the checks. -/
theorem loadGarmentSources_shows {s : TryOnStore} (hintact : Intact services s)
    (hshowable : AllShowable s.tables) (hall : AllBound services.toTryOnServices s.tables)
    (hjob : s.tables.jobs.find? jobId = some job)
    (happroval : (s.tables.approvals.find? job.approvalId).isSome) :
    ∃ sources, loadGarmentSources services s.files s.tables jobId = .ok sources ∧
      List.Forall₂ (ShowsGarment services) (garmentRows s.tables job.approvalId) sources ∧
      tryOnMinGarments ≤ sources.length ∧ sources.length ≤ tryOnMaxGarments ∧
      validateGarmentSources services 0 [] sources = .ok () := by
  obtain ⟨assets, response, hbound⟩ : ∃ assets response,
      Bound services.toTryOnServices s.tables job.approvalId assets response := by
    refine hall.bound job.approvalId ?_
    rwa [TryOnTables.approvalView, Option.isSome_map]
  have hgarments := hbound.garments
  have hshow : ∀ entry ∈ garmentRows s.tables job.approvalId, ∃ columns source,
      garmentColumns entry = .ok (entry, columns) ∧
      garmentSource services s.files (entry, columns) = .ok source ∧
      ShowsGarment services entry source ∧ source.validate services = .ok () := by
    intro entry hentry
    have hrow : s.tables.assets.find? (job.approvalId, entry.1) = some entry.2 :=
      Table.find?_of_mem_slots (mem_filter.mp hentry).1
    have hrole := hgarments.roles entry hentry
    obtain ⟨image, himage, htype, hwidth, hheight⟩ := hintact.garments _ _ hrow hrole
    have hordinal : entry.1 ∈ range' 1 (garmentRows s.tables job.approvalId).length := by
      rw [← hgarments.ordinals]
      exact mem_map_of_mem hentry
    obtain ⟨hpos, hlast⟩ := mem_range'_1.mp hordinal
    have hmax := hgarments.atMost
    exact garmentSource_shows (hshowable _ _ hrow hrole) hpos (by omega) himage htype hwidth hheight
  obtain ⟨reads, sources, hreads, hsources, hshown⟩ := garmentSources_shows hshow
  have hlength := hshown.length_eq
  refine ⟨sources, ?_, hshown.imp fun _ _ h => h.1, hlength ▸ hgarments.atLeast,
    hlength ▸ hgarments.atMost, validateGarmentSources_eq_ok ?_ ?_ ?_ (by simp)⟩
  · simp only [loadGarmentSources, hjob, hreads]
    exact hsources
  · intro source hsource
    obtain ⟨entry, -, -, hvalid⟩ := exists_of_forall₂ hshown source hsource
    exact hvalid
  · have hsame : sources.map (·.ordinal) = (garmentRows s.tables job.approvalId).map Prod.fst :=
      Outfits.map_eq_of_forall₂ (fun _ _ h => h.1.ordinal) hshown
    rw [hsame, hgarments.ordinals, hlength]
  · have hsame : sources.map (fun source => some source.itemId) =
        (garmentRows s.tables job.approvalId).map fun entry => entry.2.itemId :=
      Outfits.map_eq_of_forall₂ (fun _ _ h => h.1.itemId.symm) hshown
    have hfiltered := congrArg (filterMap id) hsame
    rw [filterMap_map, filterMap_map, Function.id_comp, Function.id_comp] at hfiltered
    rw [← filterMap_eq_map]
    exact hfiltered ▸ hgarments.items

/-! ## Jobs -/

def Shown (services : TryOnPageServices) (milliseconds : ℤ) : Prop :=
  ∃ text, services.formatTimestamp milliseconds = some text ∧ isBoundedTimestamp text

structure ShowsJob (services : TryOnPageServices) (jobId : TryOnJobId) (row : TryOnJobRow)
    (job : TryOnJobV1) : Prop where
  jobId : job.jobId = jobId
  approvalId : job.approvalId = row.approvalId
  state : job.state = row.state
  attemptCount : job.attemptCount = row.attemptCount
  createdAt : services.formatTimestamp row.createdAtMs = some job.createdAt
  updatedAt : services.formatTimestamp row.updatedAtMs = some job.updatedAt
  completedAt : job.completedAt = if row.state.hasEnded then some job.updatedAt else none
  failure : job.failure = row.failure.map fun failure => failureContract failure.code

theorem timestamp_of_shown {milliseconds : ℤ} {text : String}
    (h : services.formatTimestamp milliseconds = some text) :
    timestamp services.toTryOnServices milliseconds = .ok text := by
  rw [timestamp, h]

theorem job_validate {job : TryOnJobV1} (hattempts : job.attemptCount ≤ tryOnMaxAttempts)
    (hcreated : isBoundedTimestamp job.createdAt) (hupdated : isBoundedTimestamp job.updatedAt)
    (hcompleted : ∀ value, job.completedAt = some value → isBoundedTimestamp value)
    (hfailure : ∀ failure, job.failure = some failure → failure.validate = .ok ())
    (hstate : job.stateValid) : job.validate = .ok () := by
  rw [TryOnJobV1.validate, check_unless_eq_ok]
  refine ⟨?_, ?_⟩
  · rintro (hmany | hbad | hbad | hbad)
    · exact absurd hattempts (not_le.mpr hmany)
    · exact hbad hcreated
    · exact hbad hupdated
    · rw [Option.any_eq_true] at hbad
      obtain ⟨value, hvalue, hbad⟩ := hbad
      rw [hcompleted value hvalue] at hbad
      cases hbad
  · cases hcase : job.failure with
    | none => exact if_pos hstate
    | some failure =>
      simp only [hfailure failure hcase]
      exact if_pos hstate

theorem stateValid_of_counted {row : TryOnJobRow} {job : TryOnJobV1} (hallowed : row.allowed)
    (hcounted : row.Counted) (hshows : ShowsJob services jobId row job) :
    job.attemptCount ≤ tryOnMaxAttempts ∧ job.stateValid := by
  rw [TryOnJobRow.allowed, decide_eq_true_eq] at hallowed
  obtain ⟨-, -, hattempts, -, -, hfits⟩ := hallowed
  have hfailure : job.failure.isSome = row.failure.isSome := by
    rw [hshows.failure, Option.isSome_map]
  have hnone : job.failure.isNone = row.failure.isNone := by
    rw [hshows.failure, Option.isNone_map]
  refine ⟨hshows.attemptCount ▸ hattempts, ?_⟩
  cases hstate : row.state <;>
    simp [TryOnJobRow.fitsState, TryOnJobRow.Counted, hstate] at hfits hcounted <;>
    simp [TryOnJobV1.stateValid, hshows.state, hshows.attemptCount, hshows.completedAt, hfailure,
      hnone, hstate, TryOnJobStateV1.hasEnded, hfits, hcounted, hattempts]

/-- **A job** is shown as its row says, and passes the checks. -/
theorem loadJob_shows {row : TryOnJobRow} {approval : TryOnApprovalRow}
    (hjob : t.jobs.find? jobId = some row)
    (happroval : t.approvals.find? row.approvalId = some approval) (hallowed : row.allowed)
    (hcounted : row.Counted) (hcreated : Shown services row.createdAtMs)
    (hupdated : Shown services row.updatedAtMs) :
    ∃ job, loadJob services t jobId = .ok job ∧ ShowsJob services jobId row job ∧
      job.outfitId = approval.outfitId ∧ job.validate = .ok () := by
  obtain ⟨createdAt, hcreatedAt, hcreated⟩ := hcreated
  obtain ⟨updatedAt, hupdatedAt, hupdated⟩ := hupdated
  have hcompleted : completedAt services row =
      .ok (if row.state.hasEnded then some updatedAt else none) := by
    rw [completedAt]
    cases row.state with
    | queued | running => rfl
    | succeeded | failed => exact congrArg (some <$> ·) (timestamp_of_shown hupdatedAt)
  let shown : TryOnJobV1 := {
    jobId, approvalId := row.approvalId, outfitId := approval.outfitId, state := row.state
    attemptCount := row.attemptCount, createdAt, updatedAt
    completedAt := if row.state.hasEnded then some updatedAt else none
    failure := row.failure.map fun failure => failureContract failure.code }
  have hshows : ShowsJob services jobId row shown :=
    ⟨rfl, rfl, rfl, rfl, hcreatedAt, hupdatedAt, rfl, rfl⟩
  obtain ⟨hattempts, hstate⟩ := stateValid_of_counted hallowed hcounted hshows
  have hvalid : shown.validate = .ok () := by
    refine job_validate hattempts hcreated hupdated (fun value hvalue => ?_)
      (fun failure hfailure => ?_) hstate
    · obtain ⟨-, hvalue⟩ := Option.ite_none_right_eq_some.mp hvalue
      exact Option.some.inj hvalue ▸ hupdated
    · obtain ⟨stored, -, rfl⟩ := Option.map_eq_some_iff.mp hfailure
      exact failureContract_validate stored.code
  refine ⟨shown, ?_, hshows, rfl, hvalid⟩
  simp only [loadJob, hjob, happroval, timestamp_of_shown hcreatedAt,
    timestamp_of_shown hupdatedAt, hcompleted]
  change (do shown.validate.mapError _; Except.ok shown) = _
  rw [hvalid]
  rfl

/-! ## Outputs -/

structure ShowsOutput (services : TryOnPageServices) (jobId : TryOnJobId) (row : TryOnOutputRow)
    (output : TryOnOutputV1) : Prop where
  jobId : output.jobId = jobId
  hash : output.bytesSha256 = row.blobSha256
  bytes : services.digest output.bytes.bytes = row.blobSha256
  length : output.bytes.bytes.length = row.byteLength
  createdAt : services.formatTimestamp row.createdAtMs = some output.createdAt

theorem TryOnView.Sound.outputLength {v : TryOnView} (hv : v.Sound) (hjob : v.job = some job)
    (hstate : job.state = .succeeded) :
    ∃ output, v.output = some output ∧ 0 < output.byteLength ∧
      output.byteLength ≤ maxTryOnOutputBytes := by
  obtain ⟨attempt, output, hattempt, -, houtput, hannounced⟩ := hv.succeeded job hjob hstate
  have hfits := hv.fits attempt hattempt
  rw [TryOnAttemptRow.allowed, decide_eq_true_eq] at hfits
  obtain ⟨-, hpos, hmax⟩ := hfits.2.1 _ hannounced
  exact ⟨output, houtput, hpos, hmax⟩

/-- **The output of a job** is shown as its row says, and passes the checks. -/
theorem loadOutput_shows {s : TryOnStore} {approval : TryOnApprovalRow} {row : TryOnOutputRow}
    (hintact : Intact services s) (hjob : s.tables.jobs.find? jobId = some job)
    (happroval : s.tables.approvals.find? job.approvalId = some approval)
    (hrow : s.tables.outputs.find? ⟨jobId⟩ = some row) (hpos : 0 < row.byteLength)
    (hmax : row.byteLength ≤ maxTryOnOutputBytes) (hcreated : Shown services row.createdAtMs) :
    ∃ output, loadOutput services s.files s.tables jobId = .ok (some output) ∧
      ShowsOutput services jobId row output ∧ output.outfitId = approval.outfitId ∧
      output.validate services = .ok () := by
  obtain ⟨file, hfile, hverified, hsize⟩ := hintact.outputs _ row hrow
  obtain ⟨hhash, found, hfound, -, -, hdigest, hlength⟩ := verifyBlob_eq_ok.mp hverified
  obtain rfl : found = file := Option.mem_unique hfound hfile
  obtain ⟨createdAt, hcreatedAt, hbounded⟩ := hcreated
  have hnonempty : found.bytes ≠ [] := by
    intro hnil
    rw [hnil] at hlength
    exact hpos.ne hlength
  have hbytes := BoundedBytes.new_eq_ok hnonempty (hlength.le.trans hmax)
  let output : TryOnOutputV1 := {
    jobId, outfitId := approval.outfitId, mediaType := tryOnOutputMediaType
    width := tryOnOutputWidth, height := tryOnOutputHeight, bytesSha256 := row.blobSha256
    bytes := ⟨found.bytes, hnonempty, hlength.le.trans hmax⟩, useClass := .presentationOnly
    eligibleAsEvidence := false, label := tryOnPresentationLabel, createdAt }
  refine ⟨output, ?_, ⟨rfl, rfl, hdigest, hlength, hcreatedAt⟩, rfl, ?_⟩
  · have hshow : showOutput services s.files jobId approval.outfitId row = .ok output := by
      rw [showOutput, hverified]
      refine rejectWhen_bind_eq_ok.mpr ⟨not_not.mpr rfl, ?_⟩
      simp only [readBlob, hfile]
      refine check_bind_eq_ok.mpr ⟨found.bytes, rfl, ?_⟩
      simp only [hsize]
      refine rejectWhen_bind_eq_ok.mpr ⟨not_not.mpr rfl, rejectWhen_bind_eq_ok.mpr
        ⟨not_not.mpr hhash, ?_⟩⟩
      rw [hbytes, timestamp_of_shown hcreatedAt]
      rfl
    simp only [loadOutput, hrow, hjob, Option.bind_some, happroval, hshow]
    rfl
  · exact if_pos ⟨rfl, rfl, rfl, hdigest, rfl, Bool.false_ne_true, rfl, hbounded⟩

end Threadbook.TryOn
