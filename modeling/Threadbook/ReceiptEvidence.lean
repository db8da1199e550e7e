import Threadbook.Numeral
import Threadbook.ReceiptContract
import Threadbook.Slices

/-!
# Parsed receipt evidence

What the parser of receipts gives out and what the contract demands of it: fragments
of text with their metadata, bound to a source by hashes, and citations of spans of
bytes in them. The digest is a parameter.
-/

namespace Threadbook

/-! ## Bounds -/

def maxReceiptFragments : ℕ := 200

def maxReceiptFragmentBytes : ℕ := 32 * 1024

def maxReceiptTextBytes : ℕ := 128 * 1024

def maxReceiptCitations : ℕ := 8

def maxReceiptCitationBytes : ℕ := 512

def maxReceiptLineItems : ℕ := 100

def maxReceiptQuantity : ℕ := 10000

def maxReceiptTextChars : ℕ := 512

def maxReceiptAttributeChars : ℕ := 160

def maxReceiptProviderValueChars : ℕ := 128

def maxReceiptMetadataChars : ℕ := 512

/-! ## Identifiers -/

abbrev ReceiptUuidId := ItemId

def ReceiptUuidId.above (n : UInt8) : ReceiptUuidId := ItemId.above n

def ReceiptUuidId.text (id : ReceiptUuidId) : String :=
  let digits := (Nat.toDigits 16 id.1.val).leftpad 32 '0'
  String.ofList (['-'].intercalate
    [digits.take 8, (digits.drop 8).take 4, (digits.drop 12).take 4, (digits.drop 16).take 4,
      digits.drop 20])

def hexValue (c : Char) : ℕ :=
  if isAsciiDigit c then c.toNat - '0'.toNat
  else if 'a' ≤ c ∧ c ≤ 'f' then c.toNat - 'a'.toNat + 10
  else 0

def uuidDigits (version : ℕ) (digest : String) : List ℕ :=
  let digits := ((digest.toList.map hexValue) ++ List.replicate 32 0).take 32
  digits.take 12 ++
    version :: ((digits.drop 13).take 3 ++ (8 + (digits[16]?.getD 0) % 4) :: digits.drop 17)

/-- A UUID made of a digest. Its version digit is not zero. -/
def digestUuid (version : ℕ) (digest : String) : ReceiptUuidId :=
  let value := Numeral.value 16 (uuidDigits version digest)
  if h : 0 < value ∧ value < 2 ^ 128 then ⟨⟨value, h.2⟩, by
    intro heq
    have hzero := congrArg Fin.val heq
    exact absurd hzero (Nat.pos_iff_ne_zero.mp h.1)⟩
  else .above 0

abbrev SourceId := ReceiptUuidId

abbrev ReceiptParseId := ReceiptUuidId

abbrev ReceiptFragmentId := ReceiptUuidId

/-! ## Fragments -/

inductive ReceiptFragmentKindV1
  | plainText
  | sanitizedHtml
  | attachmentMetadata
  | cidMetadata
  deriving DecidableEq

def ReceiptFragmentKindV1.canonicalName : ReceiptFragmentKindV1 → String
  | .plainText => "plain_text"
  | .sanitizedHtml => "sanitized_html"
  | .attachmentMetadata => "attachment_metadata"
  | .cidMetadata => "cid_metadata"

/-- What an order line is about. -/
inductive ReceiptEventKindV1
  | purchase
  | returned
  | exchange
  deriving DecidableEq

/-- What is known of an attachment or of a referenced part. -/
structure ReceiptFragmentMetadataV1 where
  contentType : String
  disposition : Option String
  safeFilename : Option String
  contentId : Option String
  decodedLength : Option ℕ
  contentSha256 : Option String

def ReceiptFragmentMetadataV1.validate (self : ReceiptFragmentMetadataV1) :
    Except ValidationError Unit := do
  validateText self.contentType 1 maxReceiptAttributeChars .receiptFragment
  tryForEach (fun value => validateText value 1 maxReceiptMetadataChars .receiptFragment)
    [self.disposition, self.safeFilename, self.contentId].reduceOption
  if ∃ length ∈ self.decodedLength, maxSafeIntegerV1 < length then .error ⟨.receiptFragment⟩
  else .ok ()

structure ReceiptFragmentV1 where
  fragmentId : ReceiptFragmentId
  ordinal : ℕ
  kind : ReceiptFragmentKindV1
  text : String
  contentSha256 : String
  metadata : Option ReceiptFragmentMetadataV1

def ReceiptFragmentV1.metadataShapeIsValid (self : ReceiptFragmentV1) : Bool :=
  match self.kind with
  | .plainText | .sanitizedHtml => self.metadata.isNone
  | .attachmentMetadata => self.metadata.isSome
  | .cidMetadata => self.metadata.any fun metadata => metadata.contentId.isSome

def ReceiptFragmentV1.validate (services : ContractServices) (self : ReceiptFragmentV1) :
    Except ValidationError Unit :=
  if self.text.isEmpty ∨ maxReceiptFragmentBytes < byteLength self.text ∨
      '\x00' ∈ self.text.toList ∨ self.contentSha256 ≠ services.digest (utf8Bytes self.text) then
    .error ⟨.receiptFragment⟩
  else if ¬ self.metadataShapeIsValid then .error ⟨.receiptFragment⟩
  else match self.metadata with
    | some metadata => metadata.validate
    | none => .ok ()

/-! ## The parse -/

structure ParsedReceiptEvidenceV1 where
  parseId : ReceiptParseId
  sourceId : SourceId
  rawBlobSha256 : String
  parserRevision : String
  sanitizerRevision : String
  canonicalInputSha256 : String
  fragments : List ReceiptFragmentV1

def ReceiptFragmentV1.hashed (self : ReceiptFragmentV1) : List UInt8 :=
  [UInt8.ofNat (self.ordinal / 256), UInt8.ofNat self.ordinal] ++
    utf8Bytes self.kind.canonicalName ++ [0] ++ utf8Bytes self.fragmentId.text ++ [0] ++
    utf8Bytes self.contentSha256 ++ [0] ++ bigEndian64 (byteLength self.text) ++
    utf8Bytes self.text ++ [0]

/-- The hash of everything a provider is to read. -/
def ParsedReceiptEvidenceV1.computeCanonicalInputSha256 (services : ContractServices)
    (self : ParsedReceiptEvidenceV1) : String :=
  services.digest (utf8Bytes "parsed-receipt-evidence-v1" ++ [0] ++ utf8Bytes self.sourceId.text ++
    [0] ++ utf8Bytes self.rawBlobSha256 ++ [0] ++ utf8Bytes self.parserRevision ++ [0] ++
    utf8Bytes self.sanitizerRevision ++ [0] ++ self.fragments.flatMap ReceiptFragmentV1.hashed)

def ParsedReceiptEvidenceV1.fragment (self : ParsedReceiptEvidenceV1)
    (fragmentId : ReceiptFragmentId) : Option ReceiptFragmentV1 :=
  self.fragments.find? fun fragment => fragment.fragmentId = fragmentId

def validateFragmentsFrom (services : ContractServices) :
    ℕ → List ReceiptFragmentV1 → Except ValidationError Unit
  | _, [] => .ok ()
  | expectedOrdinal, fragment :: rest => do
    fragment.validate services
    if fragment.ordinal ≠ expectedOrdinal then .error ⟨.receiptFragment⟩
    else validateFragmentsFrom services (expectedOrdinal + 1) rest

/-- Accept a parse. Sorted ids lose every repetition to the source's `dedup`. -/
def ParsedReceiptEvidenceV1.validate (services : ContractServices)
    (self : ParsedReceiptEvidenceV1) : Except ValidationError Unit := do
  validateText self.parserRevision 1 maxReceiptProviderValueChars .receiptFragment
  validateText self.sanitizerRevision 1 maxReceiptProviderValueChars .receiptFragment
  if self.fragments = [] ∨ maxReceiptFragments < self.fragments.length then
    .error ⟨.receiptFragment⟩
  else do
    validateFragmentsFrom services 0 self.fragments
    if (self.fragments.map (·.fragmentId)).dedup.length ≠ self.fragments.length ∨
        maxReceiptTextBytes < (self.fragments.map fun fragment => byteLength fragment.text).sum ∨
        self.canonicalInputSha256 ≠ self.computeCanonicalInputSha256 services then
      .error ⟨.receiptFragment⟩
    else .ok ()

/-! ## Citations -/

structure FragmentCitationV1 where
  fragmentId : ReceiptFragmentId
  byteStart : ℕ
  byteEnd : ℕ
  quoteSha256 : String
  deriving DecidableEq

def ParsedReceiptEvidenceV1.validateCitation (services : ContractServices)
    (self : ParsedReceiptEvidenceV1) (citation : FragmentCitationV1) :
    Except ValidationError Unit :=
  match self.fragment citation.fragmentId with
  | none => .error ⟨.receiptCitation⟩
  | some fragment =>
    let start := citation.byteStart
    let stop := citation.byteEnd
    if stop ≤ start ∨ byteLength fragment.text < stop ∨ maxReceiptCitationBytes < stop - start ∨
        ¬ isCharBoundary (utf8Bytes fragment.text) start ∨
        ¬ isCharBoundary (utf8Bytes fragment.text) stop then .error ⟨.receiptCitation⟩
    else if citation.quoteSha256 ≠
        services.digest (bytesBetween (utf8Bytes fragment.text) start stop) then
      .error ⟨.receiptCitation⟩
    else .ok ()

/-! ## What a valid parse is -/

theorem length_dedup_eq_iff {α : Type} [DecidableEq α] {values : List α} :
    values.dedup.length = values.length ↔ values.Nodup := by
  refine ⟨fun h => ?_, fun h => by rw [h.dedup]⟩
  rw [← (List.dedup_sublist values).eq_of_length h]
  exact List.nodup_dedup values

theorem ReceiptFragmentMetadataV1.validate_eq_ok {self : ReceiptFragmentMetadataV1} :
    self.validate = .ok () ↔
      validateText self.contentType 1 maxReceiptAttributeChars .receiptFragment = .ok () ∧
      (∀ value, self.disposition = some value ∨ self.safeFilename = some value ∨
        self.contentId = some value →
          validateText value 1 maxReceiptMetadataChars .receiptFragment = .ok ()) ∧
      ∀ length ∈ self.decodedLength, length ≤ maxSafeIntegerV1 := by
  have hmem (value : String) :
      value ∈ [self.disposition, self.safeFilename, self.contentId].reduceOption ↔
        self.disposition = some value ∨ self.safeFilename = some value ∨
          self.contentId = some value := by
    rw [List.reduceOption_mem_iff]
    simp [eq_comm]
  simp only [validate, check_then_eq_ok, check_unless_eq_ok, tryForEach_eq_ok, hmem, and_true,
    not_exists, not_and, not_lt]

theorem validateFragmentsFrom_eq_ok {services : ContractServices}
    {fragments : List ReceiptFragmentV1} {ordinal : ℕ} :
    validateFragmentsFrom services ordinal fragments = .ok () ↔
      (∀ fragment ∈ fragments, fragment.validate services = .ok ()) ∧
        ∀ entry ∈ fragments.zipIdx ordinal, entry.1.ordinal = entry.2 := by
  induction fragments generalizing ordinal with
  | nil => simp [validateFragmentsFrom]
  | cons fragment rest ih =>
    rw [validateFragmentsFrom, check_then_eq_ok, List.zipIdx_cons, List.forall_mem_cons,
      List.forall_mem_cons, check_unless_eq_ok, not_not, ih]
    refine ⟨fun ⟨hvalid, hordinal, hrest, hordinals⟩ => ⟨⟨hvalid, hrest⟩, hordinal, hordinals⟩,
      fun ⟨⟨hvalid, hrest⟩, hordinal, hordinals⟩ => ⟨hvalid, hordinal, hrest, hordinals⟩⟩

structure ParsedReceiptEvidenceV1.Valid (services : ContractServices)
    (parsed : ParsedReceiptEvidenceV1) : Prop where
  parser : validateText parsed.parserRevision 1 maxReceiptProviderValueChars .receiptFragment = .ok ()
  sanitizer :
    validateText parsed.sanitizerRevision 1 maxReceiptProviderValueChars .receiptFragment = .ok ()
  nonempty : parsed.fragments ≠ []
  count : parsed.fragments.length ≤ maxReceiptFragments
  fragments : ∀ fragment ∈ parsed.fragments, fragment.validate services = .ok ()
  ordinals : ∀ entry ∈ parsed.fragments.zipIdx, entry.1.ordinal = entry.2
  nodup : (parsed.fragments.map (·.fragmentId)).Nodup
  bytes : (parsed.fragments.map fun fragment => byteLength fragment.text).sum ≤ maxReceiptTextBytes
  canonical : parsed.canonicalInputSha256 = parsed.computeCanonicalInputSha256 services

theorem ParsedReceiptEvidenceV1.validate_eq_ok {services : ContractServices}
    {self : ParsedReceiptEvidenceV1} : self.validate services = .ok () ↔ self.Valid services := by
  simp only [validate, check_then_eq_ok, check_unless_eq_ok, validateFragmentsFrom_eq_ok, not_or,
    not_lt, not_not, and_true]
  have hnodup : (self.fragments.map (·.fragmentId)).dedup.length = self.fragments.length ↔
      (self.fragments.map (·.fragmentId)).Nodup := by
    rw [← length_dedup_eq_iff, List.length_map]
  rw [hnodup]
  refine ⟨?_, fun h => ⟨h.parser, h.sanitizer, ⟨h.nonempty, h.count⟩, ⟨h.fragments, h.ordinals⟩,
    h.nodup, h.bytes, h.canonical⟩⟩
  rintro ⟨hparser, hsanitizer, ⟨hnonempty, hcount⟩, ⟨hfragments, hordinals⟩, hnodup, hbytes,
    hcanonical⟩
  exact ⟨hparser, hsanitizer, hnonempty, hcount, hfragments, hordinals, hnodup, hbytes, hcanonical⟩

theorem ParsedReceiptEvidenceV1.fragment_eq_some {parsed : ParsedReceiptEvidenceV1}
    (hnodup : (parsed.fragments.map (·.fragmentId)).Nodup) {fragment : ReceiptFragmentV1}
    (hmem : fragment ∈ parsed.fragments) : parsed.fragment fragment.fragmentId = some fragment := by
  rcases hfind : parsed.fragment fragment.fragmentId with _ | found
  · have hnone := List.find?_eq_none.mp hfind fragment hmem
    simp at hnone
  · have hfound : found ∈ parsed.fragments := List.mem_of_find?_eq_some hfind
    have hid : found.fragmentId = fragment.fragmentId := by
      simpa using List.find?_some hfind
    rw [List.inj_on_of_nodup_map hnodup hfound hmem hid]

end Threadbook
