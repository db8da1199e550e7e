import Threadbook.BigEndian
import Threadbook.IntelligenceRequest
import Threadbook.JsonText

/-!
# The text that is disclosed

A projection is hashed part by part, each with its length in front, so well-shaped projections of
one digest are equal (`projection_eq_of_sha256`). What the repository reads for a preview are the
texts of the parse (`readPreview_reads`); what the user agreed to is compared with that by its
digest, and so **is** that (`Unchanged.projection`).
-/

namespace Threadbook

open List

/-! ## Hashes -/

theorem bigEndian64_eq_write (n : ℕ) : bigEndian64 n = BigEndian.write 8 n := by
  have hmod (m : ℕ) : UInt8.ofNat (m % 256) = UInt8.ofNat m := by
    apply UInt8.toNat_inj.mp
    simp
  simp [bigEndian64, BigEndian.write, range, range.loop, Nat.div_div_eq_div_mul, hmod]

theorem bigEndian64_injective {n m : ℕ} (hn : n < 2 ^ 64) (hm : m < 2 ^ 64)
    (h : bigEndian64 n = bigEndian64 m) : n = m := by
  rw [bigEndian64_eq_write, bigEndian64_eq_write] at h
  calc n = BigEndian.read (BigEndian.write 8 n) := (BigEndian.read_write hn).symm
    _ = BigEndian.read (BigEndian.write 8 m) := by rw [h]
    _ = m := BigEndian.read_write hm

theorem length_bigEndian64 (n : ℕ) : (bigEndian64 n).length = 8 := by simp [bigEndian64]

theorem hashPart_append_inj {a b x y : List UInt8} (ha : a.length < 2 ^ 64)
    (hb : b.length < 2 ^ 64) (h : hashPart a ++ x = hashPart b ++ y) : a = b ∧ x = y := by
  rw [hashPart, hashPart, append_assoc, append_assoc] at h
  obtain ⟨hlength, hrest⟩ := append_inj h
    ((length_bigEndian64 _).trans (length_bigEndian64 _).symm)
  exact append_inj hrest (bigEndian64_injective ha hb hlength)

def ReceiptIntelligenceProjectionFragmentV1.hashed
    (fragment : ReceiptIntelligenceProjectionFragmentV1) : List UInt8 :=
  hashPart (utf8Bytes fragment.fragmentRef) ++ hashPart (utf8Bytes fragment.text)

def ReceiptIntelligenceProjectionFragmentV1.Hashable
    (fragment : ReceiptIntelligenceProjectionFragmentV1) : Prop :=
  byteLength fragment.fragmentRef < 2 ^ 64 ∧ byteLength fragment.text < 2 ^ 64

theorem fragments_eq_of_hashed {fragments fragments' : List ReceiptIntelligenceProjectionFragmentV1}
    (h : ∀ fragment ∈ fragments, fragment.Hashable)
    (h' : ∀ fragment ∈ fragments', fragment.Hashable)
    (hcount : fragments.length = fragments'.length)
    (heq : fragments.flatMap ReceiptIntelligenceProjectionFragmentV1.hashed =
      fragments'.flatMap ReceiptIntelligenceProjectionFragmentV1.hashed) :
    fragments = fragments' := by
  induction fragments generalizing fragments' with
  | nil => exact (length_eq_zero_iff.mp hcount.symm).symm
  | cons fragment rest ih =>
    obtain ⟨fragment', rest', rfl⟩ := exists_cons_of_length_eq_add_one hcount.symm
    rw [forall_mem_cons] at h h'
    rw [flatMap_cons, flatMap_cons, ReceiptIntelligenceProjectionFragmentV1.hashed,
      ReceiptIntelligenceProjectionFragmentV1.hashed, append_assoc, append_assoc] at heq
    have hlength (text : String) (hshort : byteLength text < 2 ^ 64) :
        (utf8Bytes text).length < 2 ^ 64 := by rwa [length_utf8Bytes]
    obtain ⟨href, heq⟩ := hashPart_append_inj (hlength _ h.1.1) (hlength _ h'.1.1) heq
    obtain ⟨htext, heq⟩ := hashPart_append_inj (hlength _ h.1.2) (hlength _ h'.1.2) heq
    have hfragment : fragment = fragment' := by
      obtain ⟨ref, text⟩ := fragment
      obtain ⟨ref', text'⟩ := fragment'
      exact congrArg₂ _ (utf8Bytes_injective href) (utf8Bytes_injective htext)
    rw [hfragment, ih h.2 h'.2 (Nat.succ.inj hcount) heq]

variable {projection : ReceiptIntelligenceProjectionV1} {services : ContractServices}
  {preview : ReceiptIntelligencePreviewV1}

theorem ReceiptIntelligenceProjectionV1.WellShaped.hashable (h : projection.WellShaped) :
    ∀ fragment ∈ projection.fragments, fragment.Hashable := by
  intro fragment hfragment
  obtain ⟨i, hi, rfl⟩ := mem_iff_getElem.mp hfragment
  obtain ⟨href, -, -, hlength, -⟩ := h.fragments (projection.fragments[i], i)
    (by simp [mem_zipIdx_iff_getElem?])
  have hplaces : ∀ i < 64, byteLength (fragmentHandle i) < 2 ^ 64 := by decide +kernel
  refine ⟨?_, lt_of_le_of_lt hlength (by decide)⟩
  rw [href]
  exact hplaces i (hi.trans_le h.count)

/-- **Well-shaped projections of one digest are equal.** -/
theorem projection_eq_of_sha256 (hdigest : Function.Injective services.digest)
    {projection' : ReceiptIntelligenceProjectionV1} (h : projection.WellShaped)
    (h' : projection'.WellShaped) (heq : projection.sha256 services = projection'.sha256 services) :
    projection = projection' := by
  have hhashed : projection.hashed = projection'.hashed := hdigest heq
  rw [ReceiptIntelligenceProjectionV1.hashed, ReceiptIntelligenceProjectionV1.hashed, h.revision,
    h'.revision, append_assoc, append_assoc] at hhashed
  have hcounted (projection : ReceiptIntelligenceProjectionV1) :
      (bigEndian64 projection.fragments.length).length < 2 ^ 64 := by
    rw [length_bigEndian64]
    decide
  obtain ⟨hcount, hfragments⟩ :=
    hashPart_append_inj (hcounted _) (hcounted _) (append_cancel_left hhashed)
  have hlength := bigEndian64_injective (h.count.trans_lt (by decide))
    (h'.count.trans_lt (by decide)) hcount
  have hsame := fragments_eq_of_hashed h.hashable h'.hashable hlength hfragments
  obtain ⟨revision, fragments⟩ := projection
  obtain ⟨revision', fragments'⟩ := projection'
  rw [show fragments = fragments' from hsame, show revision = revision' from
    h.revision.trans h'.revision.symm]

/-! ## What the repository reads -/

theorem readFragments_texts {services : PreviewServices} {bounds : ReceiptIntelligenceBounds}
    {rows : List ReceiptFragmentRow} {ordinal aggregate total : ℕ}
    {fragments : List ReceiptIntelligencePreviewFragment}
    (h : readFragments services bounds ordinal aggregate rows = .ok (fragments, total)) :
    fragments.map ReceiptIntelligencePreviewFragment.visibleText =
      rows.map ReceiptFragmentRow.contentText := by
  induction rows generalizing ordinal aggregate fragments total with
  | nil =>
    obtain ⟨rfl, rfl⟩ := Prod.mk.inj (Except.ok.inj h)
    rfl
  | cons row rest ih =>
    rw [readFragments, check_bind_eq_ok] at h
    obtain ⟨-, -, h⟩ := h
    simp only [check_unless_eq_ok] at h
    obtain ⟨-, -, -, -, -, -, h⟩ := h
    obtain ⟨⟨others, sum⟩, hrest, h⟩ := check_bind_eq_ok.mp h
    obtain ⟨rfl, rfl⟩ := Prod.mk.inj (Except.ok.inj h)
    rw [map_cons, map_cons, ih hrest]

/-- **The texts of the parse**: those of the visible fragments of the latest parse of the source
that the revision was imported as. -/
structure TextsOfParse (t : ReceiptTables) (envelope : ReceiptIntelligenceConsentEnvelopeV1)
    (projection : ReceiptIntelligenceProjectionV1) : Prop where
  revision : findSourceRevision t envelope.sourceRevisionId =
    some (envelope.sourceId, envelope.sourceRevisionSha256)
  texts : ∃ parseId, latestParse t envelope.sourceId = some parseId ∧
    projection.fragments.map ReceiptIntelligenceProjectionFragmentV1.text =
      (visibleFragments t parseId).map ReceiptFragmentRow.contentText

theorem readPreview_reads {services : PreviewServices} {bounds : ReceiptIntelligenceBounds}
    {t : ReceiptTables} {requestId sourceRevisionId : String} {stored : ReceiptIntelligencePreview}
    (h : readPreview services t requestId sourceRevisionId bounds = .ok stored) :
    findSourceRevision t sourceRevisionId =
        some (stored.localSourceId, stored.sourceRevisionSha256) ∧
      (∃ parseId, latestParse t stored.localSourceId = some parseId ∧
        stored.projection.fragments.map ReceiptIntelligenceProjectionFragmentV1.text =
          (visibleFragments t parseId).map ReceiptFragmentRow.contentText) ∧
      stored.projectionSha256 = stored.projection.sha256 services.toContractServices := by
  rw [readPreview] at h
  split at h
  · cases h
  · rename_i localSourceId sourceRevisionSha256 hrevision
    obtain ⟨-, -, h⟩ := check_bind_eq_ok.mp h
    split at h
    · cases h
    · rename_i parseId hparse
      simp only [check_unless_eq_ok] at h
      obtain ⟨-, -, h⟩ := h
      obtain ⟨⟨fragments, aggregate⟩, hread, h⟩ := check_bind_eq_ok.mp h
      simp only [check_unless_eq_ok] at h
      obtain ⟨-, -, -, h⟩ := h
      cases h
      refine ⟨hrevision, ⟨parseId, hparse, ?_⟩, ?_⟩
      · rw [← readFragments_texts hread, ReceiptIntelligencePreview.projection, map_map]
        rfl
      · simp only [hashProjection, ReceiptIntelligenceProjectionV1.sha256,
          ReceiptIntelligenceProjectionV1.hashed, ReceiptIntelligencePreview.projection,
          length_map, flatMap_map, receiptIntelligenceProjectionRevisionV1]

/-! ## What the user agreed to -/

def declaredDisclosure (projection : ReceiptIntelligenceProjectionV1)
    (declaration : OpenAiRetentionDeclarationV1) : ReceiptIntelligenceDisclosureV1 :=
  { previewDisclosure projection with retention := .forDeclaration declaration }

structure ReceiptIntelligencePreviewV1.Bound (services : ContractServices)
    (preview : ReceiptIntelligencePreviewV1) : Prop where
  disclosure : preview.disclosure =
    declaredDisclosure preview.disclosure.projection preview.disclosure.retention.declaration
  projection : preview.disclosure.projection.validate = .ok ()
  projectionSha256 : preview.consentEnvelope.projectionSha256 =
    preview.disclosure.projection.sha256 services
  preparationBounds : preview.consentEnvelope.preparationBounds = .production
  executionBounds : preview.consentEnvelope.executionBounds = .production

theorem ReceiptIntelligenceRetentionDisclosureV1.validate_eq_ok
    {retention : ReceiptIntelligenceRetentionDisclosureV1} (h : retention.validate = .ok ()) :
    retention = .forDeclaration retention.declaration := by
  obtain ⟨-, -, h⟩ := check_bind_eq_ok.mp h
  split at h
  · rename_i hfields
    obtain ⟨revision, declaration, retained, store, zdr, days, safety⟩ := retention
    simp_all [forDeclaration]
  · cases h

theorem ReceiptIntelligencePreviewV1.validate_eq_ok (h : preview.validate services = .ok ()) :
    preview.Bound services := by
  obtain ⟨disclosure, envelope⟩ := preview
  obtain ⟨-, -, h⟩ := check_bind_eq_ok.mp h
  obtain ⟨⟨⟩, hdisclosure, h⟩ := check_bind_eq_ok.mp h
  obtain ⟨⟨⟩, hpreparation, hdisclosure⟩ := check_bind_eq_ok.mp hdisclosure
  obtain ⟨⟨⟩, hexecution, hdisclosure⟩ := check_bind_eq_ok.mp hdisclosure
  obtain ⟨⟨⟩, hprojection, hdisclosure⟩ := check_bind_eq_ok.mp hdisclosure
  obtain ⟨⟨⟩, hretention, hdisclosure⟩ := check_bind_eq_ok.mp hdisclosure
  obtain ⟨⟨-, -, -, hsha256, -, -, hpreparation', hexecution'⟩, -⟩ :=
    check_when_eq_ok.mp h
  obtain ⟨hfields, -⟩ := check_when_eq_ok.mp hdisclosure
  obtain ⟨hpreparation, -⟩ := check_when_eq_ok.mp hpreparation
  obtain ⟨hexecution, -⟩ := check_when_eq_ok.mp hexecution
  have hretention := ReceiptIntelligenceRetentionDisclosureV1.validate_eq_ok hretention
  rw [hpreparation] at hprojection
  refine ⟨?_, hprojection, hsha256, hpreparation'.trans hpreparation,
    hexecution'.trans hexecution⟩
  obtain ⟨provider, model, purpose, projection, length, _, _, _, _, _, _, _, _, _, _, retention,
    preparation, execution⟩ := disclosure
  obtain ⟨hprovider, hmodel, hpurpose, hlength, hflags⟩ := hfields
  simp only [Bool.not_eq_true] at hflags
  obtain ⟨hmime, hheaders, hurls, hnames, hattachments, hcids, hids, hhashes, hcredentials,
    himages⟩ := hflags
  rw [declaredDisclosure, previewDisclosure, ReceiptIntelligenceDisclosureV1.mk.injEq]
  exact ⟨hprovider, hmodel, hpurpose, rfl, hlength, hmime, hheaders, hurls, hnames, hattachments,
    hcids, hids, hhashes, hcredentials, himages, hretention, hpreparation, hexecution⟩

/-- **What was disclosed is what the coordinator would disclose** of a text just if the text and
the retention declaration are. -/
theorem disclosure_eq_previewDisclosure (h : preview.Bound services)
    (hprojection : preview.disclosure.projection = projection) :
    preview.disclosure = previewDisclosure projection ↔
      preview.disclosure.retention.declaration = retentionDeclaration := by
  refine ⟨fun heq => ?_, fun heq => ?_⟩
  · rw [heq]
    rfl
  · rw [h.disclosure, heq, hprojection]
    rfl

/-- **A preview that was found unchanged** is of the text that the repository read. -/
theorem ensurePreviewUnchanged_eq_ok {services : PreviewServices}
    (hdigest : Function.Injective services.digest) {t : ReceiptTables} {requestId : String}
    {stored : ReceiptIntelligencePreview}
    (hread : readPreview services t requestId preview.consentEnvelope.sourceRevisionId
      (repositoryBounds preview.consentEnvelope.preparationBounds
        preview.consentEnvelope.executionBounds) = .ok stored)
    (h : ensurePreviewUnchanged services.toContractServices preview stored = .ok ()) :
    preview.Bound services.toContractServices ∧
      preview.disclosure.projection = stored.projection ∧
      TextsOfParse t preview.consentEnvelope preview.disclosure.projection := by
  obtain ⟨⟨⟩, hvalid, h⟩ := check_bind_eq_ok.mp h
  have hbound := ReceiptIntelligencePreviewV1.validate_eq_ok (check_mapError_eq_ok.mp hvalid)
  obtain ⟨hsame, -⟩ := check_unless_eq_ok.mp h
  simp only [not_or, not_not] at hsame
  obtain ⟨hsource, hrevision, hprojection, -⟩ := hsame
  obtain ⟨hfound, ⟨parseId, hparse, htexts⟩, hsha256⟩ := readPreview_reads hread
  rw [hbound.preparationBounds, hbound.executionBounds] at hread
  have hshape := (ReceiptIntelligenceProjectionV1.validate_eq_ok.mp hbound.projection).1
  have heq : preview.disclosure.projection = stored.projection :=
    projection_eq_of_sha256 hdigest hshape (projection_wellShaped hread)
      (hbound.projectionSha256.symm.trans (hprojection.symm.trans hsha256))
  refine ⟨hbound, heq, ⟨?_, parseId, ?_, ?_⟩⟩
  · rw [hfound, hsource, hrevision]
  · rw [← hsource, hparse]
  · rw [heq, htexts]

/-! ## The provider's request -/

/-- A request as the provider's adapter takes it. -/
structure ReceiptIntelligenceRequest where
  parentSourceRevision : String
  fragments : List ReceiptIntelligenceProjectionFragmentV1

/-- Visible ASCII other than quotes and backslashes, and not too much of it. -/
def isBoundedVisibleIdentifier (value : String) (limit : ℕ) : Bool :=
  !value.isEmpty && byteLength value ≤ limit &&
    value.toList.all fun c => 0x21 ≤ c.toNat && c.toNat ≤ 0x7e && c != '"' && c != '\\'

def ReceiptIntelligenceRequest.validate (request : ReceiptIntelligenceRequest) :
    Except ReceiptIntelligenceProviderError Unit :=
  if ¬ isBoundedVisibleIdentifier request.parentSourceRevision 256 ∨ request.fragments = [] ∨
      64 < request.fragments.length ∨
      ¬ request.fragments.all (fun fragment =>
        isBoundedVisibleIdentifier fragment.fragmentRef 80 && !fragment.text.isEmpty &&
          byteLength fragment.text ≤ 16 * 1024 && !fragment.text.toList.contains '\x00') ∨
      ¬ (request.fragments.map ReceiptIntelligenceProjectionFragmentV1.fragmentRef).Nodup ∨
      128 * 1024 < (request.fragments.map fun fragment => byteLength fragment.text).sum then
    .error .invalidRequest
  else .ok ()

def buildReceiptIntelligenceRequest
    (toVec : List ReceiptIntelligenceProjectionFragmentV1 → List UInt8)
    (request : ReceiptIntelligenceRequest) :
    Except ReceiptIntelligenceProviderError (List UInt8) := do
  request.validate
  if 256 * 1024 < (toVec request.fragments).length then .error .requestTooLarge
  else .ok (toVec request.fragments)

def serializedProviderRequest
    (toVec : List ReceiptIntelligenceProjectionFragmentV1 → List UInt8) (sourceRevisionId : String)
    (projection : ReceiptIntelligenceProjectionV1) : Except PlatformError (List UInt8) :=
  (buildReceiptIntelligenceRequest toVec ⟨sourceRevisionId, projection.fragments⟩).mapError fun _ =>
    .invalidInput "receipt_intelligence_provider_request"

theorem length_serializedProviderRequest
    {toVec : List ReceiptIntelligenceProjectionFragmentV1 → List UInt8} {sourceRevisionId : String}
    {serialized : List UInt8}
    (h : serializedProviderRequest toVec sourceRevisionId projection = .ok serialized) :
    serialized.length ≤ 256 * 1024 := by
  obtain ⟨-, -, h⟩ := check_bind_eq_ok.mp (check_mapError_eq_ok.mp h)
  obtain ⟨hfits, h⟩ := check_unless_eq_ok.mp h
  cases h
  exact not_lt.mp hfits

end Threadbook
