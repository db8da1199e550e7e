import Threadbook.ReceiptExtraction

/-!
# The local receipt provider

The provider that reads a receipt by fixed rules, without a network: it goes through
the lines of the receipt's texts, takes a line of fields between bars for an item and
any field for a fact about the order where it looks like one. Texts are slices of the
fragments, that is lists of characters.
-/

namespace Threadbook

inductive ReceiptProviderErrorKind
  | unavailable
  | malformedOutput
  | internal

/-! ## Recognisers -/

def stripLabel (segment : List Char) (label : String) : Option (List Char) :=
  let segment := trimChars segment
  let suffix := segment.drop label.length
  if toAsciiLowercase (segment.take label.length) ≠ toAsciiLowercase label.toList then none
  else if ¬ suffix.head?.any (fun c => c == ':' || isWhitespace c) then none
  else
    let rest := match trimStart suffix with
      | ':' :: rest => trimChars rest
      | rest => rest
    if rest = [] then none else some rest

/-- Digits grouped like a date, in a year, a month and a day that may exist. -/
def isIsoDate (value : List Char) : Bool :=
  let bytes := encode value
  bytes.length == 10 && bytes[4]? == some '-'.toUInt8 && bytes[7]? == some '-'.toUInt8 &&
    bytes.zipIdx.all (fun entry => entry.2 == 4 || entry.2 == 7 || Byte.isAsciiDigit entry.1) &&
    0 < labelValue (bytesBetween bytes 0 4) &&
    (1 ≤ labelValue (bytesBetween bytes 5 7) && labelValue (bytesBetween bytes 5 7) ≤ 12) &&
    (1 ≤ labelValue (bytesBetween bytes 8 10) && labelValue (bytesBetween bytes 8 10) ≤ 31)

def isIsoCurrency (value : List Char) : Bool :=
  (encode value).length == 3 && (encode value).all Byte.isAsciiUppercase

/-- A text without white space at its ends, if it is bounded and free of control
characters. -/
def boundedValue (value : List Char) (maxChars : ℕ) : Option String :=
  let value := trimChars value
  if value ≠ [] ∧ value.length ≤ maxChars ∧ ¬ value.any isControl then some (String.ofList value)
  else none

/-- The fields between bars that are not blank. -/
def barFields (line : List Char) : List (List Char) :=
  ((line.splitOn '|').map trimChars).filter fun value => value ≠ []

/-! ## Facts about the order -/

structure OrderEvidence where
  merchant : Option EvidenceStringV1
  orderIdentifier : Option EvidenceStringV1
  purchaseDate : Option EvidenceStringV1
  currency : Option EvidenceStringV1
  standaloneMerchant : Option EvidenceStringV1

/-- Nothing is known. -/
def OrderEvidence.unknown : OrderEvidence := ⟨none, none, none, none, none⟩

def citedString (services : ContractServices) (fragment : ReceiptFragmentV1)
    (quote value : List Char) : Option EvidenceStringV1 := do
  let value ← boundedValue value maxReceiptAttributeChars
  let citation ← (citationForQuoteV1 services fragment quote).toOption
  some ⟨some value, [citation]⟩

def datedValue (segment : List Char) : Option (List Char) :=
  match (stripLabel segment "date").filter isIsoDate with
  | some value => some value
  | none => if isIsoDate segment then some segment else none

def currencyValue (segment : List Char) : Option (List Char) :=
  match (stripLabel segment "currency").filter isIsoCurrency with
  | some value => some value
  | none => if isIsoCurrency segment then some segment else none

def unlessKnown {α β : Type} (known : Option α) (found : Option β) : Option β :=
  if known.isNone then found else none

def collectSegment (services : ContractServices) (fragment : ReceiptFragmentV1)
    (order : OrderEvidence) (segment : List Char) : OrderEvidence :=
  match unlessKnown order.merchant (stripLabel segment "merchant") with
  | some value => { order with merchant := citedString services fragment segment value }
  | none =>
    match unlessKnown order.orderIdentifier (stripLabel segment "order") with
    | some value => { order with orderIdentifier := citedString services fragment segment value }
    | none =>
      match unlessKnown order.purchaseDate (datedValue segment) with
      | some value => { order with purchaseDate := citedString services fragment segment value }
      | none =>
        match unlessKnown order.currency (currencyValue segment) with
        | some value => { order with currency := citedString services fragment segment value }
        | none => order

def isStandaloneMerchantCandidate (line : List Char) : Bool :=
  let lower := toAsciiLowercase line
  (encode line).length ≤ 120 && !line.contains '|' && !line.contains '/' && !line.contains ':' &&
    !line.contains '$' && (findText "://".toList line).isNone &&
    !"order ".toList.isPrefixOf lower && !"purchase ".toList.isPrefixOf lower &&
    !"exchange ".toList.isPrefixOf lower && !"return ".toList.isPrefixOf lower &&
    !isIsoDate line && !isIsoCurrency line

def collectOrderEvidence (services : ContractServices) (fragment : ReceiptFragmentV1)
    (line : List Char) (order : OrderEvidence) : OrderEvidence :=
  let order := (barFields line).foldl (collectSegment services fragment) order
  if order.standaloneMerchant.isNone ∧ isStandaloneMerchantCandidate line then
    { order with standaloneMerchant := citedString services fragment line line }
  else order

/-! ## Items -/

def parseEventKind (value : List Char) : Option ReceiptEventKindV1 :=
  let value := toAsciiLowercase (trimChars value)
  if value = "purchase".toList then some .purchase
  else if value = "exchange".toList then some .exchange
  else if value = "return".toList then some .returned
  else none

def eventName : ReceiptEventKindV1 → String
  | .purchase => "purchase"
  | .exchange => "exchange"
  | .returned => "return"

def parseU64 (digits : List Char) : Option ℕ :=
  let value := labelValue (encode digits)
  if value < 2 ^ 64 then some value else none

def parseQuantity (value : List Char) : Option ℕ :=
  let value := trimChars value
  if value = [] ∨ ¬ (encode value).all Byte.isAsciiDigit then none
  else (parseU64 value).filter fun quantity => 1 ≤ quantity && quantity ≤ maxReceiptQuantity

/-- What a price consists of after a dollar sign or a currency's code. -/
def priceNumber (value : List Char) : Option (List Char) :=
  match value with
  | '$' :: rest => some rest
  | _ =>
    if 4 < (encode value).length ∧ ((encode value).take 3).all Byte.isAsciiUppercase ∧
        (encode value)[3]?.any Byte.isAsciiWhitespace then some (trimChars (value.drop 4))
    else none

def parsePriceMinor (value : List Char) : Option ℕ := do
  let numeric ← priceNumber (trimChars value)
  let major := numeric.takeWhile (· ≠ '.')
  let minor ← (numeric.dropWhile (· ≠ '.')).tail?
  if major = [] ∨ (encode minor).length ≠ 2 ∨ ¬ (encode major).all Byte.isAsciiDigit ∨
      ¬ (encode minor).all Byte.isAsciiDigit then none
  else
    let units ← parseU64 major
    let hundredths ← parseU64 minor
    let minorUnits := units * 100 + hundredths
    if minorUnits < 2 ^ 64 ∧ 0 < minorUnits ∧ minorUnits ≤ maxSafeIntegerV1 then some minorUnits
    else none

structure ParsedLine where
  sourceCitation : FragmentCitationV1
  eventKind : ReceiptEventKindV1
  description : String
  quantity : Option ℕ
  unitPriceMinor : Option ℕ
  brand : Option String
  sku : Option String
  size : Option String
  color : Option String

def debugNumber : Option ℕ → List Char
  | some n => "Some(".toList ++ Nat.toDigits 10 n ++ [')']
  | none => "None".toList

def lowerOption (value : Option String) : List Char :=
  toAsciiLowercase ((value.getD "").toList)

/-- What makes two items the same. -/
def ParsedLine.signature (self : ParsedLine) : List Char :=
  ['\x00'].intercalate
    [(eventName self.eventKind).toList, toAsciiLowercase self.description.toList,
      debugNumber self.quantity, debugNumber self.unitPriceMinor, lowerOption self.brand,
      lowerOption self.sku, lowerOption self.size, lowerOption self.color]

def attributeValue (value : List Char) : Option String := boundedValue value maxReceiptAttributeChars

def applyLabel (parsed : ParsedLine) (field : List Char) : ParsedLine :=
  match stripLabel field "qty" with
  | some value => { parsed with quantity := parseQuantity value }
  | none =>
    match stripLabel field "brand" with
    | some value => { parsed with brand := attributeValue value }
    | none =>
      match stripLabel field "sku" with
      | some value => { parsed with sku := attributeValue value }
      | none =>
        match stripLabel field "size" with
        | some value => { parsed with size := attributeValue value }
        | none =>
          match stripLabel field "color" with
          | some value => { parsed with color := attributeValue value }
          | none =>
            if parsed.unitPriceMinor.isNone then
              { parsed with unitPriceMinor := parsePriceMinor field }
            else parsed

def applyPlaces (parsed : ParsedLine) (details : List (List Char)) : ParsedLine :=
  { parsed with
    quantity := details[0]?.bind parseQuantity
    unitPriceMinor := details[1]?.bind parsePriceMinor
    brand := details[2]?.bind attributeValue
    sku := details[3]?.bind attributeValue
    size := details[4]?.bind attributeValue
    color := details[5]?.bind attributeValue }

def usesLabels (details : List (List Char)) : Bool :=
  details.any fun field =>
    ["qty", "brand", "sku", "size", "color"].any fun label => (stripLabel field label).isSome

def parseLineItem (services : ContractServices) (fragment : ReceiptFragmentV1) (line : List Char) :
    Option ParsedLine :=
  match barFields line with
  | kind :: name :: details => do
    let eventKind ← parseEventKind kind
    let description ← boundedValue name maxReceiptTextChars
    let citation ← (citationForQuoteV1 services fragment line).toOption
    let parsed : ParsedLine :=
      ⟨citation, eventKind, description, none, none, none, none, none, none⟩
    if usesLabels details then some (details.foldl applyLabel parsed)
    else some (applyPlaces parsed details)
  | _ => none

def known {α : Type} (value : Option α) (citation : FragmentCitationV1) : EvidenceV1 α :=
  match value with
  | some value => ⟨some value, [citation]⟩
  | none => ⟨none, []⟩

def ParsedLine.intoExtraction (self : ParsedLine) : ReceiptLineItemExtractionV1 :=
  let citation := self.sourceCitation
  { description := known (some self.description) citation
    eventKind := known (some self.eventKind) citation
    quantity := known self.quantity citation
    unitPriceMinor := known self.unitPriceMinor citation
    variant := ⟨known self.brand citation, known self.sku citation, known self.size citation,
      known self.color citation⟩ }

/-! ## The extraction -/

def localReceiptProviderIdV1 : String := "local-deterministic-receipt-provider"

def localReceiptProviderRevisionV1 : String := "local-deterministic-receipt-provider-v1"

def localReceiptRulesetRevisionV1 : String := "explicit-receipt-evidence-rules-v1"

def rulesetDefinitionV1 : String :=
  "fixed-local-rules-v1;" ++ "explicit-labels-only;" ++ "event-records=purchase|exchange|return;" ++
    "no-header-identity-inference;" ++ "no-name-to-variant-inference;" ++
    "unknown=null+zero-citations;" ++ "multipart-exact-value-deduplication;" ++
    "no-tools-network-filesystem-callbacks"

def isTextFragment (fragment : ReceiptFragmentV1) : Bool :=
  fragment.kind = .plainText || fragment.kind = .sanitizedHtml

def receiptLines (parsed : ParsedReceiptEvidenceV1) : List (ReceiptFragmentV1 × List Char) :=
  (parsed.fragments.filter isTextFragment).flatMap fun fragment =>
    (((lines fragment.text.toList).map fun rawLine =>
      trimChars (trimListMarks (trimChars rawLine))).filter fun line => line ≠ []).map
        fun line => (fragment, line)

/-- What has been read so far. -/
structure ScanState where
  order : OrderEvidence
  lines : List ParsedLine
  seenLines : List (List Char)

def scanLine (services : ContractServices) (state : ScanState)
    (entry : ReceiptFragmentV1 × List Char) : Except ReceiptProviderErrorKind ScanState :=
  let order := collectOrderEvidence services entry.1 entry.2 state.order
  match parseLineItem services entry.1 entry.2 with
  | none => .ok { state with order := order }
  | some parsedLine =>
    if parsedLine.signature ∈ state.seenLines then .ok { state with order := order }
    else if maxReceiptLineItems < state.lines.length + 1 then .error .malformedOutput
    else .ok ⟨order, state.lines ++ [parsedLine], parsedLine.signature :: state.seenLines⟩

def unknownString : EvidenceStringV1 := ⟨none, []⟩

def ScanState.output (state : ScanState) : ReceiptExtractionV1 :=
  { merchant := (state.order.merchant.or state.order.standaloneMerchant).getD unknownString
    orderIdentifier := state.order.orderIdentifier.getD unknownString
    purchaseDate := state.order.purchaseDate.getD unknownString
    currency := state.order.currency.getD unknownString
    lineItems := state.lines.map ParsedLine.intoExtraction }

def localProcessing (services : ContractServices) (parsed : ParsedReceiptEvidenceV1) :
    ReceiptProcessingMetadataV1 :=
  { providerId := localReceiptProviderIdV1
    providerRevision := localReceiptProviderRevisionV1
    extractionSchema := receiptExtractionSchemaV1
    extractionSchemaSha256 := receiptExtractionSchemaSha256V1
    rulesetRevision := localReceiptRulesetRevisionV1
    rulesetSha256 := services.digest (utf8Bytes rulesetDefinitionV1)
    parameters := ⟨true, 0, none⟩
    canonicalInputSha256 := parsed.canonicalInputSha256
    parentSourceId := parsed.sourceId
    parentSourceSha256 := parsed.rawBlobSha256
    fragmentSha256 := parsed.fragments.map (·.contentSha256) }

def orMalformed {α : Type} (x : Except ValidationError α) : Except ReceiptProviderErrorKind α :=
  x.mapError fun _ => .malformedOutput

def extract (services : ContractServices) (parsed : ParsedReceiptEvidenceV1) :
    Except ReceiptProviderErrorKind ReceiptExtractionEnvelopeV1 := do
  orMalformed (parsed.validate services)
  let state ← (receiptLines parsed).foldlM (scanLine services) ⟨.unknown, [], []⟩
  if state.lines = [] then .error .malformedOutput
  else do
    let envelope : ReceiptExtractionEnvelopeV1 := ⟨localProcessing services parsed, state.output⟩
    orMalformed (envelope.validateAgainst services parsed)
    .ok envelope

end Threadbook
