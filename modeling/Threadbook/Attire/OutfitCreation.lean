import Threadbook.CatalogAttributes
import Threadbook.Attire.OutfitRepository

/-!
# What it takes to make an outfit

What each check and each statement of the command asks for: the request's own check
(**`request_validate_eq_ok`**), the pins (**`Pinned`**) and the tables. An outfit that is stored
reads back as it was made (**`loadOutfit_stored`**).
-/

namespace Threadbook.Outfits

open Table List Fallible
open Catalog (CatalogTables EvidenceId Curated)
open Promotion (ItemAttributesV1 RequestId ReplayStatusV1)

variable {services : OutfitServices} {files : BlobFiles} {t t' : OutfitTables}
  {request : CreateManualOutfitV1Request}

/-! ## Names -/

theorem validateName_eq_ok {value : String} : validateName value = .ok () ↔
    trim value = value.toList ∧ value.toList ≠ [] ∧ value.length ≤ maxOutfitNameChars ∧
      value.toList.any isControl = false := by
  rw [validateName, check_when_eq_ok, Bool.not_eq_true, and_iff_left rfl]

theorem trimmed_iff {p : Char → Bool} {cs : List Char} :
    (cs.dropWhile p).rdropWhile p = cs ↔
      (∀ h : cs ≠ [], ¬ p (cs.head h)) ∧ ∀ h : cs ≠ [], ¬ p (cs.getLast h) := by
  constructor
  · intro h
    have hfront : cs.dropWhile p = cs := by
      refine (List.dropWhile_suffix _).eq_of_length (le_antisymm ?_ ?_)
      · exact (List.dropWhile_suffix _).length_le
      · have hback := (List.rdropWhile_prefix p (l := cs.dropWhile p)).length_le
        rwa [h] at hback
    rw [hfront, rdropWhile_eq_self_iff] at h
    rw [dropWhile_eq_self_iff] at hfront
    refine ⟨fun hne => ?_, h⟩
    have hhead := hfront (length_pos_iff.mpr hne)
    rwa [head_eq_getElem]
  · rintro ⟨hfront, hback⟩
    have hfront' : cs.dropWhile p = cs := by
      rw [dropWhile_eq_self_iff]
      intro hpos
      rw [← head_eq_getElem (length_pos_iff.mp hpos)]
      exact hfront _
    rw [hfront', rdropWhile_eq_self_iff]
    exact hback

theorem sqlTrim_of_trim {value : String} (h : trim value = value.toList) :
    value.toList = sqlTrim value := by
  have hblank : ∀ c : Char, decide (c = ' ') = true → isWhitespace c = true := by
    intro c hc
    rw [of_decide_eq_true hc]
    decide
  obtain ⟨hfirst, hlast⟩ := trimmed_iff.mp h
  exact (trimmed_iff.mpr ⟨fun hne hc => hfirst hne (hblank _ hc),
    fun hne hc => hlast hne (hblank _ hc)⟩).symm

/-- **The two name checks** differ in the characters they let through. -/
theorem outfitRow_allowed {requestId : RequestId} {name : String} {revision : ℕ} {nowMs : ℤ}
    (hname : validateName name = .ok ()) (hpos : 1 ≤ revision) (hnow : 0 ≤ nowMs) :
    (⟨requestId, name, revision, nowMs⟩ : OutfitRow).allowed ↔
      name.toList.all isPrintableAscii ∧ revision ≤ maxStoredRevision := by
  obtain ⟨htrim, hne, hlength, -⟩ := validateName_eq_ok.mp hname
  have hlong : 1 ≤ name.length := by
    rw [← String.length_toList]
    exact length_pos_iff.mpr hne
  simp only [OutfitRow.allowed, decide_eq_true_eq]
  constructor
  · rintro ⟨-, -, -, hascii, -, hrevision, -⟩
    exact ⟨hascii, hrevision⟩
  · rintro ⟨hascii, hrevision⟩
    exact ⟨hlong, hlength, sqlTrim_of_trim htrim, hascii, hpos, hrevision, hnow⟩

theorem request_validate_eq_ok : request.validate = .ok () ↔
    request.schemaVersion = schemaVersionV1 ∧ validateName request.name = .ok () ∧
      minOutfitMembers ≤ request.itemIds.length ∧ request.itemIds.length ≤ maxOutfitMembers ∧
      request.expectedCatalogRevision < maxSafeIntegerV1 ∧
      request.expectedOutfitRevision < maxSafeIntegerV1 ∧ request.itemIds.Nodup := by
  have hnodup : request.itemIds.dedup.length = request.itemIds.length ↔ request.itemIds.Nodup := by
    refine ⟨fun h => ?_, fun h => by rw [h.dedup]⟩
    rw [← (dedup_sublist request.itemIds).eq_of_length h]
    exact nodup_dedup _
  simp only [CreateManualOutfitV1Request.validate, check_then_eq_ok, check_unless_eq_ok,
    check_when_eq_ok, hnodup, requireSchemaV1, not_or, not_not, not_le, and_assoc, and_true]

/-! ## Pins -/

structure Pinned (services : OutfitServices) (files : BlobFiles) (t : OutfitTables)
    (entry : ItemId × ℕ) (member : OutfitMemberV1) : Prop where
  ordinal : member.ordinal = entry.2
  itemId : member.itemId = entry.1
  row : ∃ row, t.catalog.items.find? entry.1 = some row ∧ row.active ∧
    member.itemUpdatedRevision = row.updatedRevision ∧ member.attributes = row.attributes ∧
    row.attributes.validate = .ok ()
  asset : (shownImage t entry.1 = none ∧ member.asset = metadataOnlyAsset) ∨
    ∃ shown image, shownImage t entry.1 = some shown ∧
      verifySourceImage services.toImageServices files shown.blobSha256 shown.byteLength =
        .ok image ∧ member.asset = shown.binding image

theorem pinItemAsset_eq_ok {itemId : ItemId} {asset : OutfitAssetBindingV1} :
    pinItemAsset services files t itemId = .ok asset ↔
      (shownImage t itemId = none ∧ asset = metadataOnlyAsset) ∨
        ∃ shown image, shownImage t itemId = some shown ∧
          verifySourceImage services.toImageServices files shown.blobSha256 shown.byteLength =
            .ok image ∧ asset = shown.binding image := by
  rw [pinItemAsset]
  cases hshown : shownImage t itemId with
  | none => simp [eq_comm]
  | some shown =>
    cases himage : verifySourceImage services.toImageServices files shown.blobSha256
        shown.byteLength with
    | error e => simp [himage]
    | ok image => simp [himage, eq_comm]

variable {member : OutfitMemberV1} {entry : ItemId × ℕ} {outfitId : OutfitId}
  {members : List OutfitMemberV1}

/-- **Pinning** yields exactly the members that show their items. -/
theorem pinMember_eq_ok :
    pinMember services files t entry = .ok member ↔ Pinned services files t entry member := by
  rw [pinMember]
  cases hrow : t.catalog.items.find? entry.1 with
  | none =>
    refine iff_of_false nofun fun h => ?_
    obtain ⟨row, hfound, -⟩ := h.row
    rw [hrow] at hfound
    cases hfound
  | some row =>
    simp only [check_unless_eq_ok, not_not, check_mapError_eq_ok, check_bind_eq_ok,
      pinItemAsset_eq_ok, Except.ok.injEq]
    constructor
    · rintro ⟨hactive, ⟨⟩, haccepted, asset, hasset, rfl⟩
      exact ⟨rfl, rfl, ⟨row, hrow, hactive, rfl, rfl, haccepted⟩, hasset⟩
    · rintro ⟨hordinal, hitem, ⟨found, hfound, hactive, hrevision, hattributes, haccepted⟩, hasset⟩
      rw [hrow] at hfound
      cases hfound
      obtain ⟨ordinal, itemId, updated, attributes, asset⟩ := member
      obtain rfl : ordinal = entry.2 := hordinal
      obtain rfl : itemId = entry.1 := hitem
      obtain rfl : updated = row.updatedRevision := hrevision
      obtain rfl : attributes = row.attributes := hattributes
      exact ⟨hactive, ⟨⟩, haccepted, asset, hasset, rfl⟩

theorem shownImage_found {itemId : ItemId} {shown : ShownImage}
    (h : shownImage t itemId = some shown) :
    (t.catalog.evidence.find? shown.evidenceId).isSome ∧
      ∃ source, t.catalog.sources.find? shown.sourceId = some source ∧
        source.blobSha256 = some shown.blobSha256 := by
  obtain ⟨evidenceId, -, hid⟩ := exists_of_findSome?_eq_some h
  simp only [imageOf, Option.bind_eq_bind, Option.bind_eq_some_iff] at hid
  obtain ⟨evidence, hevidence, source, hsource, blob, hblob, length, -, hsame⟩ := hid
  split at hsame
  · cases hsame
    exact ⟨Option.isSome_iff_exists.mpr ⟨evidence, hevidence⟩, source, hsource, hblob⟩
  · cases hsame

/-! ## Members -/

def OutfitMemberV1.stored (self : OutfitMemberV1) : OutfitMemberRow :=
  self.row (if self.asset.state = .available then "available" else "metadata_only")

structure Storable (t : OutfitTables) (outfitId : OutfitId) (member : OutfitMemberV1) : Prop where
  state : member.asset.state ≠ .unavailable
  allowed : member.stored.allowed member.ordinal
  refers : t.refers outfitId member.stored

structure OutfitTables.ForeignKeys (t : OutfitTables) : Prop where
  outfits : ∀ outfitId row, t.outfits.find? outfitId = some row →
    (t.catalog.commandReceipts.find? row.requestId).isSome
  members : ∀ key row, t.members.find? key = some row → (t.outfits.find? key.1).isSome
  sources : ∀ sourceId row sha256, t.catalog.sources.find? sourceId = some row →
    row.blobSha256 = some sha256 → (t.blobs.find? sha256).isSome

theorem PhotoMediaTypeV1.text_allowed (self : PhotoMediaTypeV1) :
    self.text = "image/jpeg" ∨ self.text = "image/png" ∨ self.text = "image/webp" := by
  cases self <;> simp [PhotoMediaTypeV1.text]

/-- **A pinned item can be stored**: what was verified is within the checks of the table. -/
theorem Pinned.storable (h : Pinned services files t entry member) (hcurated : Curated t.catalog)
    (hsources : ∀ sourceId row sha256, t.catalog.sources.find? sourceId = some row →
      row.blobSha256 = some sha256 → (t.blobs.find? sha256).isSome)
    (hrevision : t.catalog.catalogRevision < maxSafeIntegerV1)
    (hordinal : entry.2 < maxOutfitMembers) (houtfit : (t.outfits.find? outfitId).isSome) :
    Storable t outfitId member := by
  obtain ⟨hord, hitem, ⟨row, hrow, -, hupdated, -, -⟩, hasset⟩ := h
  obtain ⟨-, hpos, hle⟩ := hcurated.items _ row hrow
  have hitems : (t.catalog.items.find? member.itemId).isSome := by rw [hitem, hrow]; rfl
  have hnumbers : member.ordinal ≤ 7 ∧ 1 ≤ member.itemUpdatedRevision ∧
      member.itemUpdatedRevision ≤ maxStoredRevision := by
    rw [hord, hupdated]
    rw [maxOutfitMembers] at hordinal
    rw [maxSafeIntegerV1] at hrevision
    rw [maxStoredRevision]
    omega
  obtain ⟨-, hmetadata⟩ | ⟨shown, image, hshown, himage, hbinding⟩ := hasset
  · refine ⟨by simp [hmetadata, metadataOnlyAsset], ?_, ?_⟩
    · simp [OutfitMemberRow.allowed, OutfitMemberV1.stored, OutfitMemberV1.row, hmetadata,
        metadataOnlyAsset, OutfitMemberRow.unbound, hnumbers]
    · simp [OutfitTables.refers, OutfitMemberV1.stored, OutfitMemberV1.row, hmetadata,
        metadataOnlyAsset, hitems, houtfit]
  · obtain ⟨hevidence, source, hsource, hblob⟩ := shownImage_found hshown
    have hblobs := hsources _ _ _ hsource hblob
    obtain ⟨-, -, hlength, hlong, hwidth, hwide, hheight, hhigh, -⟩ :=
      verifySourceImage_bounds himage
    rw [maxPhotoArtifactBytes] at hlong
    rw [maxPhotoAxis] at hwide hhigh
    refine ⟨by simp [hbinding, ShownImage.binding], ?_, ?_⟩
    · have htype := PhotoMediaTypeV1.text_allowed image.mediaType
      simp [OutfitMemberRow.allowed, OutfitMemberV1.stored, OutfitMemberV1.row, hbinding,
        ShownImage.binding, OutfitMemberRow.bound, hnumbers, htype, Nat.one_le_iff_ne_zero,
        hlength.ne', hwidth.ne', hheight.ne', hlong, hwide, hhigh]
    · simp [OutfitTables.refers, OutfitMemberV1.stored, OutfitMemberV1.row, hbinding,
        ShownImage.binding, hitems, houtfit, hevidence, hsource, hblobs]

theorem insertMember_eq (h : member.asset.state ≠ .unavailable) :
    insertMember outfitId member = insertMemberRow outfitId member.ordinal member.stored := by
  rw [insertMember, OutfitMemberV1.stored]
  cases hstate : member.asset.state with
  | available => simp
  | metadataOnly => simp
  | unavailable => exact absurd hstate h

def OutfitTables.putMembers (t : OutfitTables) (outfitId : OutfitId) (members : List OutfitMemberV1) :
    OutfitTables :=
  let table := members.foldl
    (fun table member => table.put (outfitId, member.ordinal) member.stored) t.members
  { t with members := table }

/-- **Members are inserted** in an outfit that has none of them, one after the other. -/
theorem insertMembers_succeeds (hstorable : ∀ member ∈ members, Storable t outfitId member)
    (hordinals : (members.map (·.ordinal)).Nodup) (hitems : (members.map (·.itemId)).Nodup)
    (hnew : ∀ ordinal row, t.members.find? (outfitId, ordinal) = some row →
      ∀ member ∈ members, ordinal ≠ member.ordinal ∧ row.itemId ≠ member.itemId) :
    ∃ us, Fallible.forEach (insertMember outfitId) members t =
      (.ok us, t.putMembers outfitId members) := by
  induction members generalizing t with
  | nil => exact ⟨[], rfl⟩
  | cons member rest ih =>
    obtain ⟨hfirst, hrest⟩ := forall_mem_cons.mp hstorable
    obtain ⟨hordinal, hordinals⟩ := nodup_cons.mp hordinals
    obtain ⟨hitem, hitems⟩ := nodup_cons.mp hitems
    have hinsert : insertMember outfitId member t = (.ok ⟨⟩,
        { t with members := t.members.put (outfitId, member.ordinal) member.stored }) := by
      rw [insertMember_eq hfirst.state, insertMemberRow, state_bind, rejectIf_bind_eq_ok,
        rejectIf_bind_eq_ok, rejectIf_bind_eq_ok, rejectIf_bind_eq_ok]
      refine ⟨by simp [hfirst.allowed], ?_, ?_, by simp [hfirst.refers], rfl⟩
      · rw [Bool.not_eq_true, Option.isSome_eq_false_iff, Option.isNone_iff_eq_none]
        by_contra hsome
        obtain ⟨row, hrow⟩ := Option.ne_none_iff_exists'.mp hsome
        exact (hnew _ _ hrow member (.head _)).1 rfl
      · rw [any_eq_true]
        rintro ⟨⟨⟨id, ordinal⟩, row⟩, hmem, hclash⟩
        rw [Bool.and_eq_true, decide_eq_true_eq, decide_eq_true_eq] at hclash
        obtain ⟨rfl, hsame⟩ := hclash
        exact (hnew _ _ (mem_rows.mp hmem) member (.head _)).2 hsame
    obtain ⟨us, hus⟩ := ih (t := { t with
        members := t.members.put (outfitId, member.ordinal) member.stored })
      (fun other hother => ⟨(hrest other hother).state, (hrest other hother).allowed,
        (hrest other hother).refers⟩) hordinals hitems (fun ordinal row hrow other hother => by
        rw [find?_put] at hrow
        split at hrow
        · rename_i hkey
          cases hkey
          cases hrow
          exact ⟨fun hsame => hordinal (mem_map.mpr ⟨other, hother, hsame.symm⟩),
            fun hsame => hitem (mem_map.mpr ⟨other, hother, hsame.symm⟩)⟩
        · exact hnew ordinal row hrow other (.tail _ hother))
    exact ⟨⟨⟩ :: us, bind_eq_ok.mpr ⟨_, _, hinsert, bind_eq_ok.mpr ⟨_, _, hus, rfl⟩⟩⟩

/-! ## Reading back -/

section Stored

variable {outfitId : OutfitId} {members : List OutfitMemberV1}

theorem find?_putMembers_of_not_mem {ordinal : ℕ} (h : ordinal ∉ members.map (·.ordinal)) :
    (t.putMembers outfitId members).members.find? (outfitId, ordinal) =
      t.members.find? (outfitId, ordinal) := by
  induction members generalizing t with
  | nil => rfl
  | cons member rest ih =>
    rw [map_cons, mem_cons, not_or] at h
    obtain ⟨hne, hrest⟩ := h
    refine (ih (t := { t with
      members := t.members.put (outfitId, member.ordinal) member.stored }) hrest).trans ?_
    rw [find?_put, if_neg fun hkey => hne (Prod.mk.inj hkey).2]

theorem find?_putMembers (hordinals : (members.map (·.ordinal)).Nodup) {member : OutfitMemberV1}
    (hmember : member ∈ members) :
    (t.putMembers outfitId members).members.find? (outfitId, member.ordinal) =
      some member.stored := by
  induction members generalizing t with
  | nil => cases hmember
  | cons first rest ih =>
    obtain ⟨hfirst, hrest⟩ := nodup_cons.mp hordinals
    obtain rfl | hmember := mem_cons.mp hmember
    · refine (find?_putMembers_of_not_mem (t := { t with
        members := t.members.put (outfitId, member.ordinal) member.stored }) hfirst).trans ?_
      rw [find?_put, if_pos rfl]
    · exact ih (t := { t with
        members := t.members.put (outfitId, first.ordinal) first.stored }) hrest hmember

/-- **The rows of a new outfit** are those of its members, in their order. -/
theorem memberRows_putMembers (hordinals : members.map (·.ordinal) = range members.length)
    (hlength : members.length ≤ maxOutfitMembers)
    (hnew : ∀ ordinal, t.members.find? (outfitId, ordinal) = none) :
    memberRows (t.putMembers outfitId members) outfitId =
      members.map fun member => (member.ordinal, member.stored) := by
  have hnodup : (members.map (·.ordinal)).Nodup := hordinals ▸ nodup_range
  obtain ⟨others, hothers⟩ := Nat.exists_eq_add_of_le hlength
  rw [memberRows, hothers, range_add, filterMap_append, ← hordinals,
    filterMap_map]
  have hown : members.filterMap ((fun ordinal =>
      ((t.putMembers outfitId members).members.find? (outfitId, ordinal)).map fun row =>
        (ordinal, row)) ∘ fun member => member.ordinal) =
      members.map fun member => (member.ordinal, member.stored) := by
    rw [← filterMap_eq_map]
    refine filterMap_congr fun member hmember => ?_
    simp only [Function.comp_apply, find?_putMembers hnodup hmember, Option.map_some]
  rw [hown, append_right_eq_self, filterMap_eq_nil_iff]
  intro ordinal hordinal
  obtain ⟨k, -, rfl⟩ := mem_map.mp hordinal
  rw [find?_putMembers_of_not_mem, hnew, Option.map_none]
  rw [hordinals, mem_range]
  omega

theorem stored_member {member : OutfitMemberV1} (h : member.asset.state ≠ .unavailable) :
    member.stored.member member.ordinal = .ok member := by
  obtain ⟨ordinal, itemId, updated, attributes, asset⟩ := member
  obtain ⟨state, evidenceId, sourceId, blob, mediaType, length, width, height⟩ := asset
  cases state with
  | available => rfl
  | metadataOnly => rfl
  | unavailable => exact absurd rfl h

/-- **An outfit that is stored reads back** as it was made. -/
theorem loadOutfit_stored {row : OutfitRow} {revision : ℕ}
    (hrow : t.outfits.find? outfitId = some row)
    (hrows : memberRows t outfitId = members.map fun member => (member.ordinal, member.stored))
    (hstates : ∀ member ∈ members, member.asset.state ≠ .unavailable)
    (hrevision : row.createdOutfitRevision = revision)
    (hvalid : (⟨outfitId, row.name, members, revision⟩ : OutfitV1).validate = .ok ()) :
    loadOutfit t outfitId = .ok ⟨outfitId, row.name, members, revision⟩ := by
  have hmembers : (memberRows t outfitId).mapM (fun entry => entry.2.member entry.1) =
      .ok members := by
    rw [hrows, check_mapM_eq_ok, forall₂_map_left_iff, forall₂_same]
    exact fun member hmember => stored_member (hstates member hmember)
  subst hrevision
  rw [loadOutfit]
  simp only [hrow, check_bind_eq_ok, check_mapError_eq_ok, Except.ok.injEq]
  exact ⟨members, hmembers, ⟨⟩, hvalid, rfl⟩

end Stored

/-! ## The contract of an answer -/

theorem validateMembers_eq_ok {ordinal : ℕ} (hvalid : ∀ member ∈ members, member.validate = .ok ())
    (hordinals : members.map (·.ordinal) = range' ordinal members.length) :
    validateMembers ordinal members = .ok () := by
  induction members generalizing ordinal with
  | nil => rfl
  | cons member rest ih =>
    obtain ⟨hfirst, hrest⟩ := forall_mem_cons.mp hvalid
    rw [map_cons, length_cons, range'_succ, cons.injEq] at hordinals
    rw [validateMembers, check_then_eq_ok, check_unless_eq_ok, not_not]
    exact ⟨hfirst, hordinals.1, ih hrest hordinals.2⟩

theorem Pinned.validate (h : Pinned services files t entry member) (hcurated : Curated t.catalog)
    (hrevision : t.catalog.catalogRevision < maxSafeIntegerV1)
    (hordinal : entry.2 < maxOutfitMembers) : member.validate = .ok () := by
  obtain ⟨hord, -, ⟨row, hrow, -, hupdated, hattributes, haccepted⟩, hasset⟩ := h
  obtain ⟨-, hpos, hle⟩ := hcurated.items _ row hrow
  rw [OutfitMemberV1.validate, check_unless_eq_ok, check_then_eq_ok]
  refine ⟨by rw [hord, hupdated]; omega, by rw [hattributes]; exact haccepted, ?_⟩
  obtain ⟨-, hmetadata⟩ | ⟨shown, image, -, himage, hbinding⟩ := hasset
  · rw [hmetadata]
    rfl
  · obtain ⟨-, -, hlength, -, hwidth, -, hheight, -, -⟩ := verifySourceImage_bounds himage
    have htype := PhotoMediaTypeV1.text_allowed image.mediaType
    rw [hbinding, OutfitAssetBindingV1.validate, if_pos]
    refine Or.inl ⟨rfl, ?_⟩
    simp [OutfitAssetBindingV1.complete, ShownImage.binding, hlength, hwidth, hheight, htype,
      or_assoc]

theorem map_eq_of_forall₂ {α β γ : Type} {R : α → β → Prop} {f : α → γ} {g : β → γ} {as : List α}
    {bs : List β} (hR : ∀ a b, R a b → g b = f a) (h : List.Forall₂ R as bs) :
    bs.map g = as.map f := by
  induction h with
  | nil => rfl
  | cons hfirst _ ih => rw [map_cons, map_cons, ih, hR _ _ hfirst]

theorem pinned_ordinals {itemIds : List ItemId}
    (h : List.Forall₂ (Pinned services files t) itemIds.zipIdx members) :
    members.length = itemIds.length ∧ members.map (·.ordinal) = range members.length ∧
      members.map (·.itemId) = itemIds := by
  have hlength : members.length = itemIds.length := by
    rw [← h.length_eq, length_zipIdx]
  have hordinals : members.map (·.ordinal) = itemIds.zipIdx.map Prod.snd :=
    map_eq_of_forall₂ (fun _ _ hpinned => hpinned.ordinal) h
  have hitems : members.map (·.itemId) = itemIds.zipIdx.map Prod.fst :=
    map_eq_of_forall₂ (fun _ _ hpinned => hpinned.itemId) h
  refine ⟨hlength, ?_, ?_⟩
  · rw [hordinals, zipIdx_map_snd, hlength, range_eq_range']
  · rw [hitems, zipIdx_map_fst]

end Threadbook.Outfits
