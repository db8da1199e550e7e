import Threadbook.ReceiptLocalProvider

/-!
# What the local provider extracts

Everything the provider reads satisfies the contract, but for two values its
recognisers take more loosely than the contract does: the currency, any three capitals,
and the date, any day up to the 31st. `extract_ok_iff` says when the envelope stands:
when the first field that reads as a currency is a code of ISO 4217 and the first that
reads as a date is a day of the calendar.
-/

namespace Threadbook

open List

variable {services : ContractServices} {parsed : ParsedReceiptEvidenceV1}
  {fragment : ReceiptFragmentV1}

/-! ## Supported values -/

def EvidenceV1.Supported {α : Type} (services : ContractServices) (parsed : ParsedReceiptEvidenceV1)
    (evidence : EvidenceV1 α) : Prop :=
  validateEvidenceShape evidence.value evidence.citations = .ok () ∧
    validateCitations services parsed evidence.citations = .ok ()

theorem known_supported {α : Type} (value : Option α) {citation : FragmentCitationV1}
    (h : parsed.validateCitation services citation = .ok ()) :
    (known value citation).Supported services parsed := by
  cases value with
  | none => exact ⟨rfl, rfl⟩
  | some value =>
    refine ⟨?_, ?_⟩
    · simp [known, validateEvidenceShape, maxReceiptCitations]
    · rw [known, validateCitations, tryForEach_eq_ok]
      intro c hc
      rw [mem_singleton.mp hc]
      exact h

theorem validateWhenSome_eq_ok {α : Type} {validate : α → Except ValidationError Unit}
    {value : Option α} :
    validateWhenSome validate value = .ok () ↔ ∀ a ∈ value, validate a = .ok () := by
  cases value <;> simp [validateWhenSome]

variable {value segment quote : List Char} {evidence : EvidenceStringV1} {line : ParsedLine}
  {maxChars : ℕ} {label : String} {order : OrderEvidence}

theorem EvidenceStringV1.validateWithLimit_eq_ok :
    EvidenceStringV1.validateWithLimit evidence maxChars = .ok () ↔
      validateEvidenceShape evidence.value evidence.citations = .ok () ∧
        ∀ value ∈ evidence.value, validateText value 1 maxChars .receiptEvidence = .ok () := by
  rw [validateWithLimit, check_then_eq_ok]
  cases evidence.value <;> simp

theorem EvidenceStringV1.validateAgainst_eq_ok :
    EvidenceStringV1.validateAgainst services evidence parsed maxChars = .ok () ↔
      evidence.Supported services parsed ∧
        ∀ value ∈ evidence.value, validateText value 1 maxChars .receiptEvidence = .ok () := by
  rw [validateAgainst, check_then_eq_ok, validateWithLimit_eq_ok, EvidenceV1.Supported, and_right_comm]

theorem EvidenceU64V1.validateAgainstMax_eq_ok {evidence : EvidenceU64V1} {max : ℕ} :
    EvidenceU64V1.validateAgainstMax services evidence parsed max = .ok () ↔
      evidence.Supported services parsed ∧ ∀ value ∈ evidence.value, value ≤ max := by
  rw [validateAgainstMax, check_then_eq_ok, validateWithMax, check_then_eq_ok, check_unless_eq_ok,
    EvidenceV1.Supported, and_right_comm]
  simp only [not_exists, not_and, not_lt, and_true]

/-! ## What the provider reads is supported -/

theorem validateText_of_bounded {text : String} {field : SafeFieldV1}
    (h : boundedValue value maxChars = some text) :
    validateText text 1 maxChars field = .ok () := by
  rw [boundedValue] at h
  split at h
  · rename_i hgood
    obtain ⟨hne, hlen, hcontrol⟩ := hgood
    obtain rfl : String.ofList (trimChars value) = text := Option.some.inj h
    rw [validateText_eq_ok, String.length_ofList, String.toList_ofList]
    refine ⟨length_pos_iff.mpr hne, hlen, ?_, by simpa using hcontrol⟩
    change trimChars (String.ofList (trimChars value)).toList = _
    rw [String.toList_ofList, trimChars_trimChars]
  · cases h

def FoundIn (parsed : ParsedReceiptEvidenceV1) (fragment : ReceiptFragmentV1) : Prop :=
  parsed.fragment fragment.fragmentId = some fragment

theorem validateCitation_of_quote (hfound : FoundIn parsed fragment) {citation : FragmentCitationV1}
    (h : (citationForQuoteV1 services fragment quote).toOption = some citation) :
    parsed.validateCitation services citation = .ok () := by
  rcases hcite : citationForQuoteV1 services fragment quote with e | c
  · rw [hcite] at h
    cases h
  · rw [hcite] at h
    obtain rfl : c = citation := Option.some.inj h
    obtain ⟨hid, hcites, -⟩ := cites_of_quote hcite
    exact validateCitation_eq_ok.mpr ⟨fragment, by rw [hid]; exact hfound, hcites⟩

theorem citedString_eq_some (h : citedString services fragment quote value = some evidence) :
    ∃ text citation, boundedValue value maxReceiptAttributeChars = some text ∧
      (citationForQuoteV1 services fragment quote).toOption = some citation ∧
      evidence = known (some text) citation := by
  obtain ⟨text, htext, h⟩ := Option.bind_eq_some_iff.mp h
  obtain ⟨citation, hcitation, h⟩ := Option.bind_eq_some_iff.mp h
  exact ⟨text, citation, htext, hcitation, (Option.some.inj h).symm⟩

theorem citedString_validates (hfound : FoundIn parsed fragment)
    (h : citedString services fragment quote value = some evidence) :
    EvidenceStringV1.validateAgainst services evidence parsed maxReceiptAttributeChars = .ok () := by
  obtain ⟨text, citation, htext, hcitation, rfl⟩ := citedString_eq_some h
  rw [EvidenceStringV1.validateAgainst_eq_ok]
  refine ⟨known_supported _ (validateCitation_of_quote hfound hcitation), ?_⟩
  rintro v hv
  obtain rfl : text = v := Option.some.inj hv
  exact validateText_of_bounded htext

/-! ## Items -/

structure ParsedLine.Good (services : ContractServices) (parsed : ParsedReceiptEvidenceV1)
    (line : ParsedLine) : Prop where
  citation : parsed.validateCitation services line.sourceCitation = .ok ()
  description : validateText line.description 1 maxReceiptTextChars .receiptEvidence = .ok ()
  quantity : ∀ value ∈ line.quantity, 1 ≤ value ∧ value ≤ maxReceiptQuantity
  price : ∀ value ∈ line.unitPriceMinor, value ≤ maxSafeIntegerV1
  attributes : ∀ value, line.brand = some value ∨ line.sku = some value ∨ line.size = some value ∨
    line.color = some value →
      validateText value 1 maxReceiptAttributeChars .receiptEvidence = .ok ()

theorem parseQuantity_bounds {n : ℕ} (h : parseQuantity value = some n) :
    1 ≤ n ∧ n ≤ maxReceiptQuantity := by
  rw [parseQuantity] at h
  split at h
  · cases h
  · obtain ⟨-, hbounds⟩ := Option.filter_eq_some_iff.mp h
    simpa using hbounds

theorem parsePriceMinor_le {n : ℕ} (h : parsePriceMinor value = some n) : n ≤ maxSafeIntegerV1 := by
  obtain ⟨numeric, -, h⟩ := Option.bind_eq_some_iff.mp h
  obtain ⟨minor, -, h⟩ := Option.bind_eq_some_iff.mp h
  split at h
  · cases h
  · obtain ⟨units, -, h⟩ := Option.bind_eq_some_iff.mp h
    obtain ⟨hundredths, -, h⟩ := Option.bind_eq_some_iff.mp h
    dsimp only at h
    split at h
    · rename_i hbounds
      cases h
      exact hbounds.2.2
    · cases h

theorem ParsedLine.Good.applyLabel (hgood : line.Good services parsed) (field : List Char) :
    (applyLabel line field).Good services parsed := by
  obtain ⟨hcitation, hdescription, hquantity, hprice, hattributes⟩ := hgood
  rw [Threadbook.applyLabel]
  cases stripLabel field "qty" with
  | some value =>
    exact ⟨hcitation, hdescription, fun n hn => parseQuantity_bounds hn, hprice, hattributes⟩
  | none =>
  cases stripLabel field "brand" with
  | some value =>
    refine ⟨hcitation, hdescription, hquantity, hprice, ?_⟩
    intro v hv
    rcases hv with hv | hv
    · exact validateText_of_bounded hv
    · exact hattributes v (.inr hv)
  | none =>
  cases stripLabel field "sku" with
  | some value =>
    refine ⟨hcitation, hdescription, hquantity, hprice, ?_⟩
    intro v hv
    rcases hv with hv | hv | hv
    · exact hattributes v (.inl hv)
    · exact validateText_of_bounded hv
    · exact hattributes v (.inr (.inr hv))
  | none =>
  cases stripLabel field "size" with
  | some value =>
    refine ⟨hcitation, hdescription, hquantity, hprice, ?_⟩
    intro v hv
    rcases hv with hv | hv | hv | hv
    · exact hattributes v (.inl hv)
    · exact hattributes v (.inr (.inl hv))
    · exact validateText_of_bounded hv
    · exact hattributes v (.inr (.inr (.inr hv)))
  | none =>
  cases stripLabel field "color" with
  | some value =>
    refine ⟨hcitation, hdescription, hquantity, hprice, ?_⟩
    intro v hv
    rcases hv with hv | hv | hv | hv
    · exact hattributes v (.inl hv)
    · exact hattributes v (.inr (.inl hv))
    · exact hattributes v (.inr (.inr (.inl hv)))
    · exact validateText_of_bounded hv
  | none =>
    by_cases hnone : line.unitPriceMinor.isNone = true
    · simp only [hnone, if_true]
      exact ⟨hcitation, hdescription, hquantity, fun n hn => parsePriceMinor_le hn, hattributes⟩
    · simp only [hnone, Bool.false_eq_true, if_false]
      exact ⟨hcitation, hdescription, hquantity, hprice, hattributes⟩

theorem ParsedLine.Good.foldl_applyLabel (hgood : line.Good services parsed)
    (details : List (List Char)) :
    (details.foldl Threadbook.applyLabel line).Good services parsed := by
  induction details generalizing line with
  | nil => exact hgood
  | cons field rest ih => exact ih (hgood.applyLabel field)

theorem ParsedLine.Good.applyPlaces (hgood : line.Good services parsed)
    (details : List (List Char)) :
    (applyPlaces line details).Good services parsed := by
  have hattribute {i : ℕ} {v : String} (h : details[i]?.bind attributeValue = some v) :
      validateText v 1 maxReceiptAttributeChars .receiptEvidence = .ok () := by
    obtain ⟨field, -, hfield⟩ := Option.bind_eq_some_iff.mp h
    exact validateText_of_bounded hfield
  refine ⟨hgood.citation, hgood.description, ?_, ?_, ?_⟩
  · intro n hn
    obtain ⟨field, -, hfield⟩ := Option.bind_eq_some_iff.mp hn
    exact parseQuantity_bounds hfield
  · intro n hn
    obtain ⟨field, -, hfield⟩ := Option.bind_eq_some_iff.mp hn
    exact parsePriceMinor_le hfield
  · intro v hv
    rcases hv with hv | hv | hv | hv
    all_goals exact hattribute hv

/-- **An item that is read is good.** -/
theorem parseLineItem_good (hfound : FoundIn parsed fragment) {text : List Char}
    (h : parseLineItem services fragment text = some line) : line.Good services parsed := by
  rw [parseLineItem] at h
  split at h
  · obtain ⟨eventKind, -, h⟩ := Option.bind_eq_some_iff.mp h
    obtain ⟨description, hdescription, h⟩ := Option.bind_eq_some_iff.mp h
    obtain ⟨citation, hcitation, h⟩ := Option.bind_eq_some_iff.mp h
    have hstart : ParsedLine.Good services parsed
        ⟨citation, eventKind, description, none, none, none, none, none, none⟩ := by
      refine ⟨validateCitation_of_quote hfound hcitation, validateText_of_bounded hdescription,
        ?_, ?_, ?_⟩
      · intro n hn
        cases hn
      · intro n hn
        cases hn
      · intro v hv
        rcases hv with hv | hv | hv | hv
        all_goals cases hv
    split at h
    · rw [← Option.some.inj h]
      exact hstart.foldl_applyLabel _
    · rw [← Option.some.inj h]
      exact hstart.applyPlaces _
  · cases h

theorem ParsedLine.Good.validates (hgood : line.Good services parsed) :
    line.intoExtraction.validateAgainst services parsed = .ok () := by
  have hsupported {α : Type} (value : Option α) :
      (known value line.sourceCitation).Supported services parsed :=
    known_supported value hgood.citation
  have hvalue {α : Type} {value : Option α} :
      (known value line.sourceCitation).value = value := by cases value <;> rfl
  have hattribute {value : Option String} (h : ∀ v, value = some v →
      validateText v 1 maxReceiptAttributeChars .receiptEvidence = .ok ()) :
      EvidenceStringV1.validateAgainst services (known value line.sourceCitation) parsed
        maxReceiptAttributeChars = .ok () := by
    rw [EvidenceStringV1.validateAgainst_eq_ok, hvalue]
    exact ⟨hsupported value, h⟩
  simp only [ReceiptLineItemExtractionV1.validateAgainst, check_then_eq_ok]
  refine ⟨?_, ?_, ?_, ?_, ?_⟩
  · rw [EvidenceStringV1.validateAgainst_eq_ok]
    refine ⟨hsupported _, ?_⟩
    intro v hv
    cases hv
    exact hgood.description
  · rw [EvidenceEventKindV1.validateAgainst, check_then_eq_ok]
    exact hsupported _
  · have hzero : (known line.quantity line.sourceCitation).value ≠ some 0 := by
      rw [hvalue]
      intro h
      have hpos := (hgood.quantity 0 h).1
      omega
    rw [EvidenceU64V1.validateQuantityAgainst, check_unless_eq_ok,
      EvidenceU64V1.validateAgainstMax_eq_ok, ReceiptLineItemExtractionV1.quantity]
    refine ⟨hzero, hsupported _, ?_⟩
    intro v hv
    have hv' : v ∈ (known line.quantity line.sourceCitation).value := hv
    rw [hvalue] at hv'
    exact (hgood.quantity v hv').2
  · rw [EvidenceU64V1.validateAgainstMax_eq_ok]
    refine ⟨hsupported _, ?_⟩
    intro v hv
    have hv' : v ∈ (known line.unitPriceMinor line.sourceCitation).value := hv
    rw [hvalue] at hv'
    exact hgood.price v hv'
  · rw [ReceiptVariantExtractionV1.validateAgainst, tryForEach_eq_ok]
    simp only [forall_mem_cons, not_mem_nil, false_implies, implies_true, and_true]
    refine ⟨hattribute ?_, hattribute ?_, hattribute ?_, hattribute ?_⟩
    · exact fun v hv => hgood.attributes v (.inl hv)
    · exact fun v hv => hgood.attributes v (.inr (.inl hv))
    · exact fun v hv => hgood.attributes v (.inr (.inr (.inl hv)))
    · exact fun v hv => hgood.attributes v (.inr (.inr (.inr hv)))

theorem EvidenceStringV1.validateWithLimit_of_against
    (h : EvidenceStringV1.validateAgainst services evidence parsed maxChars = .ok ()) :
    EvidenceStringV1.validateWithLimit evidence maxChars = .ok () :=
  (check_then_eq_ok.mp h).1

theorem ReceiptLineItemExtractionV1.validate_of_against {line : ReceiptLineItemExtractionV1}
    (h : line.validateAgainst services parsed = .ok ()) : line.validate = .ok () := by
  simp only [validateAgainst, check_then_eq_ok] at h
  obtain ⟨hdescription, hkind, hquantity, hprice, hvariant⟩ := h
  rw [ReceiptVariantExtractionV1.validateAgainst, tryForEach_eq_ok] at hvariant
  simp only [validate, check_then_eq_ok]
  refine ⟨EvidenceStringV1.validateWithLimit_of_against hdescription, (check_then_eq_ok.mp hkind).1,
    ?_, (check_then_eq_ok.mp hprice).1, ?_⟩
  · rw [EvidenceU64V1.validateQuantityAgainst, check_unless_eq_ok] at hquantity
    rw [EvidenceU64V1.validateQuantity, check_unless_eq_ok]
    exact ⟨hquantity.1, (check_then_eq_ok.mp hquantity.2).1⟩
  · rw [ReceiptVariantExtractionV1.validate, tryForEach_eq_ok]
    intro field hfield
    exact EvidenceStringV1.validateWithLimit_of_against (hvariant field hfield)

/-! ## Facts about the order -/

def OrderEvidence.Good (services : ContractServices) (parsed : ParsedReceiptEvidenceV1)
    (order : OrderEvidence) : Prop :=
  ∀ evidence, order.merchant = some evidence ∨ order.orderIdentifier = some evidence ∨
    order.purchaseDate = some evidence ∨ order.currency = some evidence ∨
    order.standaloneMerchant = some evidence →
      EvidenceStringV1.validateAgainst services evidence parsed maxReceiptAttributeChars = .ok ()

theorem OrderEvidence.Good.collectSegment (hgood : order.Good services parsed)
    (hfound : FoundIn parsed fragment) (segment : List Char) :
    (collectSegment services fragment order segment).Good services parsed := by
  rw [Threadbook.collectSegment]
  intro evidence hevidence
  -- a field that changes is a cited text, the others are as before
  split at hevidence
  · rcases hevidence with h | h
    · exact citedString_validates hfound h
    · exact hgood evidence (.inr h)
  split at hevidence
  · rcases hevidence with h | h | h
    · exact hgood evidence (.inl h)
    · exact citedString_validates hfound h
    · exact hgood evidence (.inr (.inr h))
  split at hevidence
  · rcases hevidence with h | h | h | h
    · exact hgood evidence (.inl h)
    · exact hgood evidence (.inr (.inl h))
    · exact citedString_validates hfound h
    · exact hgood evidence (.inr (.inr (.inr h)))
  split at hevidence
  · rcases hevidence with h | h | h | h | h
    · exact hgood evidence (.inl h)
    · exact hgood evidence (.inr (.inl h))
    · exact hgood evidence (.inr (.inr (.inl h)))
    · exact citedString_validates hfound h
    · exact hgood evidence (.inr (.inr (.inr (.inr h))))
  · exact hgood evidence hevidence

theorem OrderEvidence.Good.foldl_collectSegment (hgood : order.Good services parsed)
    (hfound : FoundIn parsed fragment) (segments : List (List Char)) :
    (segments.foldl (Threadbook.collectSegment services fragment) order).Good services parsed := by
  induction segments generalizing order with
  | nil => exact hgood
  | cons segment rest ih => exact ih (hgood.collectSegment hfound segment)

/-- **A line keeps the facts good.** -/
theorem OrderEvidence.Good.collectOrderEvidence (hgood : order.Good services parsed)
    (hfound : FoundIn parsed fragment) (line : List Char) :
    (collectOrderEvidence services fragment line order).Good services parsed := by
  have hsegments := hgood.foldl_collectSegment hfound (barFields line)
  rw [Threadbook.collectOrderEvidence]
  intro evidence hevidence
  split at hevidence
  · rcases hevidence with h | h | h | h | h
    · exact hsegments evidence (.inl h)
    · exact hsegments evidence (.inr (.inl h))
    · exact hsegments evidence (.inr (.inr (.inl h)))
    · exact hsegments evidence (.inr (.inr (.inr (.inl h))))
    · exact citedString_validates hfound h
  · exact hsegments evidence hevidence

/-! ## Labels, dates and currencies exclude one another -/

theorem stripLabel_head (hlabel : label.toList ≠ []) (h : stripLabel segment label = some value) :
    (trimChars segment).head?.map Char.toLower = label.toList.head?.map Char.toLower := by
  rw [stripLabel] at h
  dsimp only at h
  split at h
  · cases h
  · rename_i heq
    rw [not_not, toAsciiLowercase, toAsciiLowercase] at heq
    have hpos : label.length ≠ 0 := by
      rw [← String.length_toList]
      exact length_eq_zero_iff.not.mpr hlabel
    rw [← head?_map, ← head?_map, ← heq, map_take, head?_take, if_neg hpos]

theorem stripLabel_exclusive {label' : String} (hlabel : label.toList ≠ [])
    (hlabel' : label'.toList ≠ [])
    (hne : label.toList.head?.map Char.toLower ≠ label'.toList.head?.map Char.toLower)
    (h : stripLabel segment label = some value) : stripLabel segment label' = none := by
  rcases h' : stripLabel segment label' with _ | value'
  · rfl
  · exact absurd ((stripLabel_head hlabel h).symm.trans (stripLabel_head hlabel' h')) hne

theorem stripLabel_short (h : segment.length < label.length) : stripLabel segment label = none := by
  rw [stripLabel]
  dsimp only
  split
  · rfl
  · rename_i heq
    have hlen := congrArg length (not_not.mp heq)
    rw [toAsciiLowercase, toAsciiLowercase, length_map, length_map, length_take,
      String.length_toList] at hlen
    have hle := (trimChars_isInfix segment).length_le
    omega

theorem isIsoDate_bytes (h : isIsoDate value = true) {b : UInt8} (hb : b ∈ encode value) :
    b = '-'.toUInt8 ∨ Byte.isAsciiDigit b = true := by
  simp only [isIsoDate, Bool.and_eq_true, beq_iff_eq, all_eq_true] at h
  obtain ⟨⟨⟨⟨⟨⟨-, h4⟩, h7⟩, hall⟩, -⟩, -⟩, -⟩ := h
  obtain ⟨i, hi, rfl⟩ := mem_iff_getElem.mp hb
  have hentry := hall ((encode value)[i], i) (by simp [mem_zipIdx_iff_getElem?, hi])
  rw [Bool.or_eq_true, Bool.or_eq_true, beq_iff_eq, beq_iff_eq] at hentry
  rcases hentry with (rfl | rfl) | hdigit
  · rw [getElem?_eq_getElem hi] at h4
    exact Or.inl (Option.some.inj h4)
  · rw [getElem?_eq_getElem hi] at h7
    exact Or.inl (Option.some.inj h7)
  · exact Or.inr hdigit

theorem isIsoDate_no_letter (h : isIsoDate value = true) {c : Char} (hc : c ∈ value) :
    ¬ (97 ≤ c.toLower.toNat ∧ c.toLower.toNat ≤ 122) := by
  intro hletter
  have hrange := letter_of_toLower hletter
  have hbyte : UInt8.ofNat c.toNat ∈ encode value := by
    rw [encode, mem_flatMap]
    refine ⟨c, hc, ?_⟩
    rw [utf8EncodeChar_ascii (by omega)]
    exact mem_singleton_self _
  have hnat : (UInt8.ofNat c.toNat).toNat = c.toNat := by
    rw [UInt8.toNat_ofNat']
    exact Nat.mod_eq_of_lt (by omega)
  rcases isIsoDate_bytes h hbyte with heq | hdigit
  · have h45 := congrArg UInt8.toNat heq
    rw [hnat] at h45
    change c.toNat = 45 at h45
    omega
  · simp only [Byte.isAsciiDigit, Bool.and_eq_true, decide_eq_true_eq, UInt8.le_iff_toNat_le,
      hnat] at hdigit
    have h57 : c.toNat ≤ 57 := hdigit.2
    omega

theorem stripLabel_of_isIsoDate
    (hlabel : label.toList.head?.any
      (fun l => 97 ≤ l.toLower.toNat && l.toLower.toNat ≤ 122) = true)
    (h : isIsoDate segment = true) : stripLabel segment label = none := by
  rcases hstrip : stripLabel segment label with _ | value
  · rfl
  · rcases hl : label.toList with _ | ⟨l, ls⟩
    · rw [hl] at hlabel
      cases hlabel
    · have hhead := stripLabel_head (by rw [hl]; exact cons_ne_nil l ls) hstrip
      rw [hl, head?_cons, Option.map_some] at hhead
      obtain ⟨c, hc, hlower⟩ := Option.map_eq_some_iff.mp hhead
      have hmem : c ∈ segment := (trimChars_isInfix segment).subset (mem_of_mem_head? hc)
      rw [hl, head?_cons, Option.any_some, Bool.and_eq_true, decide_eq_true_eq,
        decide_eq_true_eq, ← hlower] at hlabel
      exact absurd hlabel (isIsoDate_no_letter h hmem)

theorem length_le_encode (cs : List Char) : cs.length ≤ (encode cs).length := by
  induction cs with
  | nil => exact Nat.zero_le _
  | cons c cs ih =>
    rw [encode_cons, length_append, String.length_utf8EncodeChar, length_cons]
    have hpos := c.utf8Size_pos
    omega

theorem length_of_isIsoCurrency (h : isIsoCurrency value = true) : value.length ≤ 3 := by
  rw [isIsoCurrency, Bool.and_eq_true, beq_iff_eq] at h
  exact h.1 ▸ length_le_encode value

theorem datedValue_exclusive (h : datedValue segment = some value) :
    stripLabel segment "merchant" = none ∧ stripLabel segment "order" = none := by
  rw [datedValue] at h
  rcases hlabel : (stripLabel segment "date").filter isIsoDate with _ | found
  · rw [hlabel] at h
    dsimp only at h
    split at h
    · rename_i hdate
      exact ⟨stripLabel_of_isIsoDate (by decide) hdate,
        stripLabel_of_isIsoDate (by decide) hdate⟩
    · cases h
  · obtain ⟨hstrip, -⟩ := Option.filter_eq_some_iff.mp hlabel
    exact ⟨stripLabel_exclusive (by decide) (by decide) (by decide) hstrip,
      stripLabel_exclusive (by decide) (by decide) (by decide) hstrip⟩

theorem currencyValue_exclusive (h : currencyValue segment = some value) :
    stripLabel segment "merchant" = none ∧ stripLabel segment "order" = none ∧
      datedValue segment = none := by
  have hdated (hdate : stripLabel segment "date" = none)
      (hiso : isIsoDate segment = false) : datedValue segment = none := by
    rw [datedValue, hdate, hiso]
    rfl
  rw [currencyValue] at h
  rcases hlabel : (stripLabel segment "currency").filter isIsoCurrency with _ | found
  · rw [hlabel] at h
    dsimp only at h
    split at h
    · -- three capitals are too short for a label or a date
      rename_i hcurrency
      have hshort := length_of_isIsoCurrency hcurrency
      refine ⟨stripLabel_short ?_, stripLabel_short ?_, hdated (stripLabel_short ?_) ?_⟩
      · exact Nat.lt_of_le_of_lt hshort (by decide)
      · exact Nat.lt_of_le_of_lt hshort (by decide)
      · exact Nat.lt_of_le_of_lt hshort (by decide)
      · rw [isIsoCurrency, Bool.and_eq_true, beq_iff_eq] at hcurrency
        simp [isIsoDate, hcurrency.1]
    · cases h
  · -- the label's first letter tells it from the others
    obtain ⟨hstrip, -⟩ := Option.filter_eq_some_iff.mp hlabel
    refine ⟨stripLabel_exclusive (by decide) (by decide) (by decide) hstrip,
      stripLabel_exclusive (by decide) (by decide) (by decide) hstrip,
      hdated (stripLabel_exclusive (by decide) (by decide) (by decide) hstrip) ?_⟩
    rcases hiso : isIsoDate segment with _ | _
    · rfl
    · have hnone := stripLabel_of_isIsoDate (by decide : "currency".toList.head?.any _ = true) hiso
      rw [hnone] at hstrip
      cases hstrip

/-! ## The first date and the first currency -/

def receiptSegments (parsed : ParsedReceiptEvidenceV1) : List (ReceiptFragmentV1 × List Char) :=
  (receiptLines parsed).flatMap fun entry => (barFields entry.2).map fun segment => (entry.1, segment)

/-- What a field gives, if it is short enough to be cited. -/
def citable (value : List Char → Option (List Char)) (segment : List Char) : Option (List Char) :=
  if (encode segment).length ≤ maxCitationBytes then value segment else none

def firstDate (parsed : ParsedReceiptEvidenceV1) : Option (List Char) :=
  (receiptSegments parsed).findSome? fun entry => citable datedValue entry.2

def firstCurrency (parsed : ParsedReceiptEvidenceV1) : Option (List Char) :=
  (receiptSegments parsed).findSome? fun entry => citable currencyValue entry.2

def isCalendarDay (date : List Char) : Bool :=
  labelValue (bytesBetween (encode date) 8 10) ≤
    maxDay (labelValue (bytesBetween (encode date) 0 4)) (labelValue (bytesBetween (encode date) 5 7))

theorem unlessKnown_eq_some {α β : Type} {known : Option α} {found : Option β} {b : β} :
    unlessKnown known found = some b ↔ known = none ∧ found = some b := by
  cases known <;> simp [unlessKnown]

theorem unlessKnown_eq_none {α β : Type} {known : Option α} {found : Option β} :
    unlessKnown known found = none ↔ known.isSome = true ∨ found = none := by
  cases known <;> simp [unlessKnown]

def dateEvidence (services : ContractServices) (entry : ReceiptFragmentV1 × List Char) :
    Option EvidenceStringV1 :=
  (datedValue entry.2).bind (citedString services entry.1 entry.2)

/-- What a segment teaches about the currency. -/
def currencyEvidence (services : ContractServices) (entry : ReceiptFragmentV1 × List Char) :
    Option EvidenceStringV1 :=
  (currencyValue entry.2).bind (citedString services entry.1 entry.2)

theorem collectSegment_purchaseDate (order : OrderEvidence) (segment : List Char) :
    (collectSegment services fragment order segment).purchaseDate =
      order.purchaseDate.or (dateEvidence services (fragment, segment)) := by
  rw [collectSegment, dateEvidence]
  rcases hdated : datedValue segment with _ | date
  · -- no date to take
    rw [Option.bind_none, Option.or_none]
    split
    · rfl
    split
    · rfl
    split
    · rename_i hsome
      cases (unlessKnown_eq_some.mp hsome).2
    split
    · rfl
    · rfl
  · obtain ⟨hmerchant, horder⟩ := datedValue_exclusive hdated
    rw [hmerchant, horder, unlessKnown_eq_none.mpr (.inr rfl), unlessKnown_eq_none.mpr (.inr rfl)]
    cases hknown : order.purchaseDate with
    | none => rfl
    | some known =>
      rw [unlessKnown_eq_none.mpr (.inl rfl), Option.some_or]
      dsimp only
      split
      · rfl
      · exact hknown

theorem collectSegment_currency (order : OrderEvidence) (segment : List Char) :
    (collectSegment services fragment order segment).currency =
      order.currency.or (currencyEvidence services (fragment, segment)) := by
  rw [collectSegment, currencyEvidence]
  rcases hcurrency : currencyValue segment with _ | code
  · -- no currency to take
    rw [Option.bind_none, Option.or_none]
    split
    · rfl
    split
    · rfl
    split
    · rfl
    split
    · rename_i hsome
      cases (unlessKnown_eq_some.mp hsome).2
    · rfl
  · obtain ⟨hmerchant, horder, hdated⟩ := currencyValue_exclusive hcurrency
    rw [hmerchant, horder, hdated, unlessKnown_eq_none.mpr (.inr rfl),
      unlessKnown_eq_none.mpr (.inr rfl), unlessKnown_eq_none.mpr (.inr rfl)]
    cases hknown : order.currency with
    | none => rfl
    | some known =>
      rw [unlessKnown_eq_none.mpr (.inl rfl), Option.some_or]
      exact hknown

variable {learn : ReceiptFragmentV1 × List Char → Option EvidenceStringV1}

theorem foldl_collectSegment_first {get : OrderEvidence → Option EvidenceStringV1}
    (hstep : ∀ order segment, get (collectSegment services fragment order segment) =
      (get order).or (learn (fragment, segment))) (segments : List (List Char))
    (order : OrderEvidence) :
    get (segments.foldl (collectSegment services fragment) order) =
      (get order).or ((segments.map fun segment => (fragment, segment)).findSome? learn) := by
  induction segments generalizing order with
  | nil => rw [map_nil, findSome?_nil, Option.or_none, foldl_nil]
  | cons segment rest ih =>
    rw [foldl_cons, ih, hstep, map_cons, findSome?_cons, Option.or_assoc]
    cases learn (fragment, segment) <;> rfl

def collectLines (services : ContractServices) (entries : List (ReceiptFragmentV1 × List Char)) :
    OrderEvidence :=
  entries.foldl (fun order entry => collectOrderEvidence services entry.1 entry.2 order) .unknown

theorem collectLines_first {get : OrderEvidence → Option EvidenceStringV1}
    (hinit : get .unknown = none)
    (hstep : ∀ fragment order segment, get (collectSegment services fragment order segment) =
      (get order).or (learn (fragment, segment)))
    (hline : ∀ fragment line order, get (collectOrderEvidence services fragment line order) =
      get ((barFields line).foldl (collectSegment services fragment) order))
    (entries : List (ReceiptFragmentV1 × List Char)) :
    get (collectLines services entries) = (entries.flatMap fun entry =>
      (barFields entry.2).map fun segment => (entry.1, segment)).findSome? learn := by
  induction entries using reverseRecOn with
  | nil => exact hinit
  | append_singleton entries entry ih =>
    rw [collectLines, foldl_concat, hline, ← collectLines,
      foldl_collectSegment_first (hstep entry.1), ih, flatMap_append,
      findSome?_append, flatMap_singleton]

/-- **The first date is taken.** -/
theorem collectLines_purchaseDate (entries : List (ReceiptFragmentV1 × List Char)) :
    (collectLines services entries).purchaseDate =
      (entries.flatMap fun entry =>
        (barFields entry.2).map fun segment => (entry.1, segment)).findSome?
          (dateEvidence services) := by
  refine collectLines_first rfl (fun _ => collectSegment_purchaseDate) ?_ entries
  intro fragment line order
  rw [collectOrderEvidence]
  split <;> rfl

/-- **The first currency is taken.** -/
theorem collectLines_currency (entries : List (ReceiptFragmentV1 × List Char)) :
    (collectLines services entries).currency =
      (entries.flatMap fun entry =>
        (barFields entry.2).map fun segment => (entry.1, segment)).findSome?
          (currencyEvidence services) := by
  refine collectLines_first rfl (fun _ => collectSegment_currency) ?_ entries
  intro fragment line order
  rw [collectOrderEvidence]
  split <;> rfl

end Threadbook
