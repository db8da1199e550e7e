import Threadbook.ReceiptCitation

/-!
# The receipt extraction contract

What a provider may say about a receipt: an order with its lines, each value with the
citations that support it, in an envelope bound to the parse. Dates have to be days of
the calendar, currencies codes of ISO 4217.
-/

namespace Threadbook

/-! ## Dates and currencies -/

def iso4217Codes : List String :=
  ["AED", "AFN", "ALL", "AMD", "ANG", "AOA", "ARS", "AUD", "AWG", "AZN", "BAM", "BBD", "BDT",
    "BGN", "BHD", "BIF", "BMD", "BND", "BOB", "BOV", "BRL", "BSD", "BTN", "BWP", "BYN", "BZD",
    "CAD", "CDF", "CHE", "CHF", "CHW", "CLF", "CLP", "CNY", "COP", "COU", "CRC", "CUC", "CUP",
    "CVE", "CZK", "DJF", "DKK", "DOP", "DZD", "EGP", "ERN", "ETB", "EUR", "FJD", "FKP", "GBP",
    "GEL", "GHS", "GIP", "GMD", "GNF", "GTQ", "GYD", "HKD", "HNL", "HRK", "HTG", "HUF", "IDR",
    "ILS", "INR", "IQD", "IRR", "ISK", "JMD", "JOD", "JPY", "KES", "KGS", "KHR", "KMF", "KPW",
    "KRW", "KWD", "KYD", "KZT", "LAK", "LBP", "LKR", "LRD", "LSL", "LYD", "MAD", "MDL", "MGA",
    "MKD", "MMK", "MNT", "MOP", "MRU", "MUR", "MVR", "MWK", "MXN", "MXV", "MYR", "MZN", "NAD",
    "NGN", "NIO", "NOK", "NPR", "NZD", "OMR", "PAB", "PEN", "PGK", "PHP", "PKR", "PLN", "PYG",
    "QAR", "RON", "RSD", "RUB", "RWF", "SAR", "SBD", "SCR", "SDG", "SEK", "SGD", "SHP", "SLE",
    "SOS", "SRD", "SSP", "STN", "SVC", "SYP", "SZL", "THB", "TJS", "TMT", "TND", "TOP", "TRY",
    "TTD", "TWD", "TZS", "UAH", "UGX", "USD", "USN", "UYI", "UYU", "UYW", "UZS", "VED", "VES",
    "VND", "VUV", "WST", "XAF", "XAG", "XAU", "XBA", "XBB", "XBC", "XBD", "XCD", "XDR", "XOF",
    "XPD", "XPF", "XPT", "XSU", "XTS", "XUA", "XXX", "YER", "ZAR", "ZMW", "ZWG"]

def validateCurrency (value : String) : Except ValidationError Unit :=
  if byteLength value = 3 ∧ (utf8Bytes value).all Byte.isAsciiUppercase ∧ value ∈ iso4217Codes then
    .ok ()
  else .error ⟨.receiptEvidence⟩

def maxDay (year month : ℕ) : ℕ :=
  let leap := year % 4 = 0 ∧ (year % 100 ≠ 0 ∨ year % 400 = 0)
  if month ∈ [1, 3, 5, 7, 8, 10, 12] then 31
  else if month ∈ [4, 6, 9, 11] then 30
  else if month = 2 then if leap then 29 else 28
  else 0

/-- Accept a date in ISO form. Digits always parse as the source's small integers. -/
def validateIsoDate (value : String) : Except ValidationError Unit :=
  let bytes := utf8Bytes value
  if bytes.length ≠ 10 ∨ bytes[4]? ≠ some '-'.toUInt8 ∨ bytes[7]? ≠ some '-'.toUInt8 ∨
      bytes.zipIdx.any (fun entry => entry.2 ≠ 4 && entry.2 ≠ 7 && !Byte.isAsciiDigit entry.1) then
    .error ⟨.receiptEvidence⟩
  else
    let year := labelValue (bytesBetween bytes 0 4)
    let month := labelValue (bytesBetween bytes 5 7)
    let day := labelValue (bytesBetween bytes 8 10)
    if year = 0 ∨ day = 0 ∨ maxDay year month < day then .error ⟨.receiptEvidence⟩ else .ok ()

/-! ## Values with evidence -/

structure EvidenceV1 (α : Type) where
  value : Option α
  citations : List FragmentCitationV1

abbrev EvidenceStringV1 := EvidenceV1 String

abbrev EvidenceU64V1 := EvidenceV1 ℕ

abbrev EvidenceEventKindV1 := EvidenceV1 ReceiptEventKindV1

def validateEvidenceShape {α : Type} (value : Option α) (citations : List FragmentCitationV1) :
    Except ValidationError Unit :=
  if (value.isSome ∧ ¬ (1 ≤ citations.length ∧ citations.length ≤ maxReceiptCitations)) ∨
      (value.isNone ∧ citations ≠ []) then .error ⟨.receiptCitation⟩
  else if citations.dedup.length ≠ citations.length then .error ⟨.receiptCitation⟩
  else .ok ()

def validateCitations (services : ContractServices) (parsed : ParsedReceiptEvidenceV1)
    (citations : List FragmentCitationV1) : Except ValidationError Unit :=
  tryForEach (parsed.validateCitation services) citations

/-- Accept a text of at most so many characters. -/
def EvidenceStringV1.validateWithLimit (self : EvidenceStringV1) (maxChars : ℕ) :
    Except ValidationError Unit := do
  validateEvidenceShape self.value self.citations
  match self.value with
  | some value => validateText value 1 maxChars .receiptEvidence
  | none => .ok ()

def EvidenceStringV1.validateAgainst (services : ContractServices) (self : EvidenceStringV1)
    (parsed : ParsedReceiptEvidenceV1) (maxChars : ℕ) : Except ValidationError Unit := do
  self.validateWithLimit maxChars
  validateCitations services parsed self.citations

/-- Accept a number up to a greatest one. -/
def EvidenceU64V1.validateWithMax (self : EvidenceU64V1) (max : ℕ) :
    Except ValidationError Unit := do
  validateEvidenceShape self.value self.citations
  if ∃ value ∈ self.value, max < value then .error ⟨.receiptEvidence⟩ else .ok ()

def EvidenceU64V1.validateAgainstMax (services : ContractServices) (self : EvidenceU64V1)
    (parsed : ParsedReceiptEvidenceV1) (max : ℕ) : Except ValidationError Unit := do
  self.validateWithMax max
  validateCitations services parsed self.citations

def EvidenceU64V1.validateQuantityAgainst (services : ContractServices) (self : EvidenceU64V1)
    (parsed : ParsedReceiptEvidenceV1) : Except ValidationError Unit :=
  if self.value = some 0 then .error ⟨.receiptEvidence⟩
  else self.validateAgainstMax services parsed maxReceiptQuantity

def EvidenceU64V1.validateQuantity (self : EvidenceU64V1) : Except ValidationError Unit :=
  if self.value = some 0 then .error ⟨.receiptEvidence⟩
  else self.validateWithMax maxReceiptQuantity

def EvidenceEventKindV1.validate (self : EvidenceEventKindV1) : Except ValidationError Unit :=
  validateEvidenceShape self.value self.citations

def EvidenceEventKindV1.validateAgainst (services : ContractServices) (self : EvidenceEventKindV1)
    (parsed : ParsedReceiptEvidenceV1) : Except ValidationError Unit := do
  EvidenceEventKindV1.validate self
  validateCitations services parsed self.citations

/-! ## The order -/

/-- What tells one variant of a piece from another. -/
structure ReceiptVariantExtractionV1 where
  brand : EvidenceStringV1
  sku : EvidenceStringV1
  size : EvidenceStringV1
  color : EvidenceStringV1

def ReceiptVariantExtractionV1.validateAgainst (services : ContractServices)
    (self : ReceiptVariantExtractionV1) (parsed : ParsedReceiptEvidenceV1) :
    Except ValidationError Unit :=
  tryForEach (fun field => EvidenceStringV1.validateAgainst services field parsed
    maxReceiptAttributeChars) [self.brand, self.sku, self.size, self.color]

def ReceiptVariantExtractionV1.validate (self : ReceiptVariantExtractionV1) :
    Except ValidationError Unit :=
  tryForEach (fun field => EvidenceStringV1.validateWithLimit field maxReceiptAttributeChars)
    [self.brand, self.sku, self.size, self.color]

structure ReceiptLineItemExtractionV1 where
  description : EvidenceStringV1
  eventKind : EvidenceEventKindV1
  quantity : EvidenceU64V1
  unitPriceMinor : EvidenceU64V1
  variant : ReceiptVariantExtractionV1

def ReceiptLineItemExtractionV1.validateAgainst (services : ContractServices)
    (self : ReceiptLineItemExtractionV1) (parsed : ParsedReceiptEvidenceV1) :
    Except ValidationError Unit := do
  EvidenceStringV1.validateAgainst services self.description parsed maxReceiptTextChars
  EvidenceEventKindV1.validateAgainst services self.eventKind parsed
  EvidenceU64V1.validateQuantityAgainst services self.quantity parsed
  EvidenceU64V1.validateAgainstMax services self.unitPriceMinor parsed maxSafeIntegerV1
  self.variant.validateAgainst services parsed

def ReceiptLineItemExtractionV1.validate (self : ReceiptLineItemExtractionV1) :
    Except ValidationError Unit := do
  EvidenceStringV1.validateWithLimit self.description maxReceiptTextChars
  EvidenceEventKindV1.validate self.eventKind
  EvidenceU64V1.validateQuantity self.quantity
  EvidenceU64V1.validateWithMax self.unitPriceMinor maxSafeIntegerV1
  self.variant.validate

structure ReceiptExtractionV1 where
  merchant : EvidenceStringV1
  orderIdentifier : EvidenceStringV1
  purchaseDate : EvidenceStringV1
  currency : EvidenceStringV1
  lineItems : List ReceiptLineItemExtractionV1

def validateWhenSome {α : Type} (validate : α → Except ValidationError Unit) :
    Option α → Except ValidationError Unit
  | some value => validate value
  | none => .ok ()

def ReceiptExtractionV1.validate (self : ReceiptExtractionV1) : Except ValidationError Unit := do
  EvidenceStringV1.validateWithLimit self.merchant maxReceiptAttributeChars
  EvidenceStringV1.validateWithLimit self.orderIdentifier maxReceiptAttributeChars
  EvidenceStringV1.validateWithLimit self.purchaseDate maxReceiptAttributeChars
  EvidenceStringV1.validateWithLimit self.currency maxReceiptAttributeChars
  validateWhenSome validateIsoDate self.purchaseDate.value
  validateWhenSome validateCurrency self.currency.value
  if self.lineItems = [] ∨ maxReceiptLineItems < self.lineItems.length then
    .error ⟨.receiptEvidence⟩
  else tryForEach ReceiptLineItemExtractionV1.validate self.lineItems

def ReceiptExtractionV1.validateAgainst (services : ContractServices) (self : ReceiptExtractionV1)
    (parsed : ParsedReceiptEvidenceV1) : Except ValidationError Unit := do
  self.validate
  EvidenceStringV1.validateAgainst services self.merchant parsed maxReceiptAttributeChars
  EvidenceStringV1.validateAgainst services self.orderIdentifier parsed maxReceiptAttributeChars
  EvidenceStringV1.validateAgainst services self.purchaseDate parsed maxReceiptAttributeChars
  EvidenceStringV1.validateAgainst services self.currency parsed maxReceiptAttributeChars
  tryForEach (fun line => line.validateAgainst services parsed) self.lineItems

/-! ## The envelope -/

def receiptExtractionSchemaV1 : String := "receipt-extraction-v1"

def receiptExtractionSchemaSha256V1 : String :=
  "ae4ed0f35de10510c963262954537a970eb4bdfa4d0c2c812a82e26f26a5450f"

structure ReceiptProviderParametersV1 where
  deterministic : Bool
  temperatureMilli : ℕ
  locale : Option String

def ReceiptProviderParametersV1.validate (self : ReceiptProviderParametersV1) :
    Except ValidationError Unit :=
  if ¬ self.deterministic ∨ self.temperatureMilli ≠ 0 then .error ⟨.receiptProviderOutput⟩
  else validateWhenSome
    (fun locale => validateText locale 1 maxReceiptProviderValueChars .receiptProviderOutput)
    self.locale

structure ReceiptProcessingMetadataV1 where
  providerId : String
  providerRevision : String
  extractionSchema : String
  extractionSchemaSha256 : String
  rulesetRevision : String
  rulesetSha256 : String
  parameters : ReceiptProviderParametersV1
  canonicalInputSha256 : String
  parentSourceId : SourceId
  parentSourceSha256 : String
  fragmentSha256 : List String

/-- Accept an origin. -/
def ReceiptProcessingMetadataV1.validate (self : ReceiptProcessingMetadataV1) :
    Except ValidationError Unit := do
  tryForEach (fun value => validateText value 1 maxReceiptProviderValueChars .receiptProviderOutput)
    [self.providerId, self.providerRevision, self.extractionSchema, self.rulesetRevision]
  self.parameters.validate
  if self.fragmentSha256 = [] ∨ maxReceiptFragments < self.fragmentSha256.length then
    .error ⟨.receiptProviderOutput⟩
  else .ok ()

def ReceiptProcessingMetadataV1.validateAgainst (self : ReceiptProcessingMetadataV1)
    (parsed : ParsedReceiptEvidenceV1) : Except ValidationError Unit := do
  self.validate
  if self.extractionSchema ≠ receiptExtractionSchemaV1 ∨
      self.extractionSchemaSha256 ≠ receiptExtractionSchemaSha256V1 ∨
      self.canonicalInputSha256 ≠ parsed.canonicalInputSha256 ∨
      self.parentSourceId ≠ parsed.sourceId ∨ self.parentSourceSha256 ≠ parsed.rawBlobSha256 ∨
      self.fragmentSha256 ≠ parsed.fragments.map (·.contentSha256) then
    .error ⟨.receiptProviderOutput⟩
  else .ok ()

structure ReceiptExtractionEnvelopeV1 where
  processing : ReceiptProcessingMetadataV1
  output : ReceiptExtractionV1

def ReceiptExtractionEnvelopeV1.validateAgainst (services : ContractServices)
    (self : ReceiptExtractionEnvelopeV1) (parsed : ParsedReceiptEvidenceV1) :
    Except ValidationError Unit := do
  parsed.validate services
  self.processing.validateAgainst parsed
  self.output.validateAgainst services parsed

end Threadbook
