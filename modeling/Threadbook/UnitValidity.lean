import Mathlib
import Threadbook.LocalExtraction
import Threadbook.PromotionCommands

/-!
# What review admits, promotion accepts

The contract of orders and corrections and the contract of purchase units, compared value
by value. They agree on texts, dates, currencies, quantities and where each value comes from;
they differ at the greatest price, which a review takes and a unit does not
(`Reviewed.validate_iff`).
-/

namespace Threadbook.Promotion

open List

variable {services : PromotionServices} {t : PromotionTables}

/-! ## Single values -/

variable {order : ReceiptOrderEvidenceV1} {reviewDecisionId : ReceiptReviewDecisionId}
  {index quantity : ℕ} {line : ReceiptOrderLineV1} {value : String} {eventKind : ReceiptEventKindV1}

theorem validateText_under {min max : ℕ} {field : SafeFieldV1} (other : SafeFieldV1)
    (h : validateText value min max field = .ok ()) : validateText value min max other = .ok () :=
  validateText_eq_ok.mpr (validateText_eq_ok.mp h)

theorem validateUnitDate_of_isoDate (h : validateIsoDate value = .ok ()) :
    validateUnitDate value = .ok () := by
  rw [validateIsoDate, check_unless_eq_ok, check_unless_eq_ok] at h
  obtain ⟨hshape, hday, -⟩ := h
  rw [validateUnitDate, check_unless_eq_ok, check_unless_eq_ok, check_unless_eq_ok]
  refine ⟨hshape, ?_, hday, rfl⟩
  -- a month outside the year has no days
  intro hmonth
  apply hday
  right
  generalize labelValue (bytesBetween (utf8Bytes value) 0 4) = year at *
  generalize labelValue (bytesBetween (utf8Bytes value) 5 7) = month at *
  generalize labelValue (bytesBetween (utf8Bytes value) 8 10) = day at *
  rcases Nat.eq_zero_or_pos day with hzero | hpos
  · exact Or.inl hzero
  · have hnone : maxDay year month = 0 := by
      simp only [maxDay, mem_cons, not_mem_nil, or_false]
      rw [if_neg (by omega), if_neg (by omega), if_neg (by omega)]
    exact Or.inr (by omega)

theorem validateUnitCurrency_of_currency (h : validateCurrency value = .ok ()) :
    validateUnitCurrency value = .ok () := by
  rw [validateCurrency, check_when_eq_ok] at h
  rw [validateUnitCurrency, check_when_eq_ok]
  exact ⟨⟨h.1.1, h.1.2.1⟩, rfl⟩

/-! ## Values -/

structure Reviewed (values : ReceiptPurchaseUnitValuesV1) : Prop where
  names : ∀ name ∈ [values.merchant, values.orderIdentifier].reduceOption,
    validateText name 1 maxReceiptAttributeChars .receiptEvidence = .ok ()
  purchaseDate : ∀ date ∈ values.purchaseDate, validateIsoDate date = .ok ()
  currency : ∀ code ∈ values.currency, validateCurrency code = .ok ()
  description : ∀ text ∈ values.description,
    validateText text 1 maxReceiptTextChars .receiptEvidence = .ok ()
  quantity : 0 < values.quantity ∧ values.quantity ≤ maxReceiptQuantity
  variant : ∀ name ∈ [values.brand, values.sku, values.size, values.color].reduceOption,
    validateText name 1 maxReceiptAttributeChars .receiptEvidence = .ok ()

/-- **The two contracts**: of what a review takes, a unit refuses the greatest price. -/
theorem Reviewed.validate_iff {values : ReceiptPurchaseUnitValuesV1} (h : Reviewed values) :
    values.validate = .ok () ↔ values.eventKind = .purchase ∧
      ∀ price ∈ values.unitPriceMinor, price < maxSafeIntegerV1 := by
  have htexts : (do
      tryForEach (fun value => validateText value 1 maxReceiptAttributeChars .receiptPurchaseUnit)
        [values.merchant, values.orderIdentifier].reduceOption
      validateWhenSome validateUnitDate values.purchaseDate
      validateWhenSome validateUnitCurrency values.currency
      validateWhenSome
        (fun description => validateText description 1 maxReceiptTextChars .receiptPurchaseUnit)
        values.description
      tryForEach (fun value => validateText value 1 maxReceiptAttributeChars .receiptPurchaseUnit)
        [values.brand, values.sku, values.size, values.color].reduceOption :
      Except ValidationError Unit) = .ok () := by
    simp only [check_then_eq_ok, tryForEach_eq_ok, validateWhenSome_eq_ok]
    exact ⟨fun name hname => validateText_under _ (h.names name hname),
      fun date hdate => validateUnitDate_of_isoDate (h.purchaseDate date hdate),
      fun code hcode => validateUnitCurrency_of_currency (h.currency code hcode),
      fun text htext => validateText_under _ (h.description text htext),
      fun name hname => validateText_under _ (h.variant name hname)⟩
  obtain ⟨hpos, hmax⟩ := h.quantity
  rw [ReceiptPurchaseUnitValuesV1.validate, check_unless_eq_ok, and_iff_left htexts]
  simp only [not_or, not_not, not_exists, not_and, not_lt, not_le]
  exact ⟨fun hall => ⟨hall.1, hall.2.2.2⟩, fun hall => ⟨hall.1, by omega, hmax, hall.2⟩⟩

/-! ## Where values come from -/

def Sourced (reviewDecisionId : ReceiptReviewDecisionId) (reviewAction : ReceiptReviewActionV1)
    (valueIsKnown : Bool) (provenance : ReceiptPurchaseUnitFieldProvenanceV1) : Prop :=
  validateField valueIsKnown provenance = .ok () ∧
    validateCorrection reviewDecisionId reviewAction provenance = .ok ()

variable {reviewAction : ReceiptReviewActionV1} {corrected : CorrectedReceiptOrderV1}

theorem validateAgainst_eq_ok {provenance : ReceiptPurchaseUnitProvenanceV1}
    {values : ReceiptPurchaseUnitValuesV1} :
    provenance.validateAgainst values reviewDecisionId reviewAction = .ok () ↔
      ∀ field ∈ provenance.fields values,
        Sourced reviewDecisionId reviewAction field.1 field.2 := by
  rw [ReceiptPurchaseUnitProvenanceV1.validateAgainst, tryForEach_eq_ok]
  simp only [check_then_eq_ok, Sourced]

theorem sourced_of_evidence {α : Type} {evidence : EvidenceV1 α}
    (h : validateEvidenceShape evidence.value evidence.citations = .ok ()) :
    Sourced reviewDecisionId reviewAction evidence.value.isSome (citationProvenance evidence) := by
  rw [validateEvidenceShape, check_unless_eq_ok, check_unless_eq_ok] at h
  obtain ⟨hcount, hdistinct, -⟩ := h
  rw [citationProvenance]
  cases hvalue : evidence.value with
  | none => exact ⟨rfl, rfl⟩
  | some value =>
    simp only [hvalue, Option.isSome_some, Option.isNone_some, true_and, Bool.false_eq_true,
      false_and, or_false, not_not] at hcount
    refine ⟨?_, rfl⟩
    have hne : ¬ (evidence.citations = [] ∨ maxReceiptCitations < evidence.citations.length) := by
      rintro (hnil | hlong)
      · simp [hnil] at hcount
      · omega
    simp [validateField, ReceiptPurchaseUnitFieldProvenanceV1.validate, hne, hdistinct, bind,
      Except.bind]

theorem sourced_of_correction (reviewDecisionId : ReceiptReviewDecisionId) (valueIsKnown : Bool) :
    Sourced reviewDecisionId .correct valueIsKnown (.userCorrection reviewDecisionId) := by
  cases valueIsKnown <;> simp [Sourced, validateField, validateCorrection,
    ReceiptPurchaseUnitFieldProvenanceV1.validate, bind, Except.bind]

/-! ## Orders and corrections -/

/-- What the contract asks of an order, apart from its review. -/
structure Sound (order : ReceiptOrderEvidenceV1) : Prop where
  names : ∀ name ∈ [order.merchant, order.orderIdentifier, order.purchaseDate, order.currency],
    EvidenceStringV1.validateWithLimit name maxReceiptAttributeChars = .ok ()
  purchaseDate : ∀ date ∈ order.purchaseDate.value, validateIsoDate date = .ok ()
  currency : ∀ code ∈ order.currency.value, validateCurrency code = .ok ()
  lines : ∀ line ∈ order.lineItems, line.validate = .ok ()
  lineIds : (order.lineItems.map (·.orderLineId)).Nodup

theorem validateDistinct_eq_ok {lineIds : List ReceiptOrderLineId}
    {variantIds : List ReceiptVariantEvidenceId} :
    validateDistinct lineIds variantIds = .ok () ↔ lineIds.Nodup ∧ variantIds.Nodup := by
  rw [validateDistinct, check_unless_eq_ok, not_or, not_not, not_not, and_iff_left rfl,
    ← dedup_eq_self, ← dedup_eq_self]
  exact and_congr
    ⟨fun h => (dedup_sublist lineIds).eq_of_length h, fun h => congrArg length h⟩
    ⟨fun h => (dedup_sublist variantIds).eq_of_length h, fun h => congrArg length h⟩

theorem line_validate_of_validateLines {number : ℕ} {lines : List ReceiptOrderLineV1}
    (h : validateLines number lines = .ok ()) : ∀ line ∈ lines, line.validate = .ok () := by
  induction lines generalizing number with
  | nil => simp
  | cons first rest ih =>
    rw [validateLines, check_then_eq_ok, check_unless_eq_ok] at h
    exact forall_mem_cons.mpr ⟨h.1, ih h.2.2⟩

theorem Sound.of_validate (h : order.validate services.toContractServices = .ok ()) :
    Sound order := by
  simp only [ReceiptOrderEvidenceV1.validate, check_then_eq_ok, validateWhenSome_eq_ok,
    check_unless_eq_ok] at h
  obtain ⟨hmerchant, hidentifier, hdate, hcurrency, hiso, hcode, -, hlines, hdistinct, -⟩ := h
  refine ⟨?_, hiso, hcode, line_validate_of_validateLines hlines,
    (validateDistinct_eq_ok.mp hdistinct).1⟩
  simp only [forall_mem_cons]
  exact ⟨hmerchant, hidentifier, hdate, hcurrency, by simp⟩

inductive Stands (order : ReceiptOrderEvidenceV1) :
    ReceiptReviewActionV1 → Option CorrectedReceiptOrderV1 → Prop
  | confirm : Stands order .confirm none
  | correct {corrected : CorrectedReceiptOrderV1} (valid : corrected.validate = .ok ())
      (matching : validateCorrectedSnapshot (some corrected) order = .ok ()) :
      Stands order .correct (some corrected)

theorem correctedLine_of_snapshot (h : validateCorrectedSnapshot (some corrected) order = .ok ())
    (hline : order.lineItems[index]? = some line) :
    ∃ correctedLine, corrected.lineItems[index]? = some correctedLine ∧
      correctedLine.orderLineId = line.orderLineId := by
  rw [validateCorrectedSnapshot, check_unless_eq_ok] at h
  obtain ⟨hall, -⟩ := h
  simp only [not_or, not_not, Bool.not_eq_true, List.any_eq_false] at hall
  obtain ⟨-, hlen, hids⟩ := hall
  obtain ⟨hlt, heq⟩ := List.getElem?_eq_some_iff.mp hline
  rw [← hlen] at hlt
  refine ⟨corrected.lineItems[index], List.getElem?_eq_getElem hlt, ?_⟩
  have hmem : (corrected.lineItems[index], line) ∈ corrected.lineItems.zip order.lineItems := by
    rw [List.mem_iff_getElem]
    refine ⟨index, by rw [List.length_zip, ← hlen]; omega, ?_⟩
    rw [List.getElem_zip, heq]
  have hpair := hids _ hmem
  simp only [Bool.or_eq_false_iff, decide_eq_false_iff_not, not_not] at hpair
  exact hpair.1

theorem validateWithLimit_shape {evidence : EvidenceStringV1} {maxChars : ℕ}
    (h : EvidenceStringV1.validateWithLimit evidence maxChars = .ok ()) :
    validateEvidenceShape evidence.value evidence.citations = .ok () :=
  (EvidenceStringV1.validateWithLimit_eq_ok.mp h).1

theorem validateWithMax_eq_ok {evidence : EvidenceU64V1} {max : ℕ} :
    EvidenceU64V1.validateWithMax evidence max = .ok () ↔
      validateEvidenceShape evidence.value evidence.citations = .ok () ∧
        ∀ value ∈ evidence.value, value ≤ max := by
  rw [EvidenceU64V1.validateWithMax, check_then_eq_ok, check_unless_eq_ok]
  simp only [not_exists, not_and, not_lt, and_true]

theorem effectiveValues_confirm {action : ReceiptReviewActionV1} (hsound : Sound order)
    (hline : line ∈ order.lineItems) (hevent : line.eventKind.value = some eventKind)
    (hquantity : line.quantity.value = some quantity) :
    ∃ values provenance,
      effectiveValues order line none index reviewDecisionId = .ok (values, provenance) ∧
        values.eventKind = eventKind ∧ values.quantity = quantity ∧
        values.unitPriceMinor = line.unitPriceMinor.value ∧ Reviewed values ∧
        provenance.validateAgainst values reviewDecisionId action = .ok () := by
  have hvalid := hsound.lines line hline
  simp only [ReceiptOrderLineV1.validate, check_then_eq_ok, EvidenceU64V1.validateQuantity,
    check_unless_eq_ok, validateWithMax_eq_ok, ReceiptVariantExtractionV1.validate,
    tryForEach_eq_ok] at hvalid
  obtain ⟨hdescription, hkind, ⟨hzero, hqshape, hqmax⟩, ⟨hpshape, -⟩, hvariant⟩ := hvalid
  have hnames := hsound.names
  simp only [forall_mem_cons, not_mem_nil, false_imp_iff, implies_true, and_true]
    at hnames hvariant
  obtain ⟨hmerchant, hidentifier, hdate, hcurrency⟩ := hnames
  obtain ⟨hbrand, hsku, hsize, hcolor⟩ := hvariant
  refine ⟨_, _, by rw [effectiveValues, hevent, hquantity], rfl, rfl, rfl, ?_, ?_⟩
  · have htext : ∀ {evidence : EvidenceStringV1} {maxChars : ℕ},
        EvidenceStringV1.validateWithLimit evidence maxChars = .ok () →
        ∀ value ∈ evidence.value, validateText value 1 maxChars .receiptEvidence = .ok () :=
      fun h => (EvidenceStringV1.validateWithLimit_eq_ok.mp h).2
    refine ⟨?_, hsound.purchaseDate, hsound.currency, htext hdescription, ?_, ?_⟩
    · intro name hname
      simp only [reduceOption_mem_iff, mem_cons, not_mem_nil, or_false] at hname
      rcases hname with h | h
      · exact htext hmerchant name h.symm
      · exact htext hidentifier name h.symm
    · refine ⟨Nat.pos_of_ne_zero ?_, hqmax quantity (by rw [hquantity]; rfl)⟩
      rintro rfl
      exact hzero hquantity
    · intro name hname
      simp only [reduceOption_mem_iff, mem_cons, not_mem_nil, or_false] at hname
      rcases hname with h | h | h | h
      · exact htext hbrand name h.symm
      · exact htext hsku name h.symm
      · exact htext hsize name h.symm
      · exact htext hcolor name h.symm
  · rw [validateAgainst_eq_ok]
    have hevented : Sourced reviewDecisionId action true (citationProvenance line.eventKind) := by
      have hsourced : Sourced reviewDecisionId action line.eventKind.value.isSome
        (citationProvenance line.eventKind) := sourced_of_evidence hkind
      rwa [hevent] at hsourced
    have hcounted : Sourced reviewDecisionId action true (citationProvenance line.quantity) := by
      have hsourced : Sourced reviewDecisionId action line.quantity.value.isSome
        (citationProvenance line.quantity) := sourced_of_evidence hqshape
      rwa [hquantity] at hsourced
    simp only [ReceiptPurchaseUnitProvenanceV1.fields, forall_mem_cons, not_mem_nil,
      false_imp_iff, implies_true, and_true]
    exact ⟨sourced_of_evidence (validateWithLimit_shape hmerchant),
      sourced_of_evidence (validateWithLimit_shape hidentifier),
      sourced_of_evidence (validateWithLimit_shape hdate),
      sourced_of_evidence (validateWithLimit_shape hcurrency),
      sourced_of_evidence (validateWithLimit_shape hdescription),
      hevented, hcounted,
      sourced_of_evidence hpshape,
      sourced_of_evidence (validateWithLimit_shape hbrand),
      sourced_of_evidence (validateWithLimit_shape hsku),
      sourced_of_evidence (validateWithLimit_shape hsize),
      sourced_of_evidence (validateWithLimit_shape hcolor)⟩

theorem effectiveValues_correct {correctedLine : CorrectedReceiptOrderLineV1}
    (hvalid : corrected.validate = .ok ())
    (hline : corrected.lineItems[index]? = some correctedLine)
    (hid : correctedLine.orderLineId = line.orderLineId)
    (hevent : correctedLine.eventKind = some eventKind)
    (hquantity : correctedLine.quantity = some quantity) :
    ∃ values provenance,
      effectiveValues order line (some corrected) index reviewDecisionId =
          .ok (values, provenance) ∧
        values.eventKind = eventKind ∧ values.quantity = quantity ∧
        values.unitPriceMinor = correctedLine.unitPriceMinor ∧ Reviewed values ∧
        provenance.validateAgainst values reviewDecisionId .correct = .ok () := by
  simp only [CorrectedReceiptOrderV1.validate, check_then_eq_ok, tryForEach_eq_ok,
    validateWhenSome_eq_ok, check_unless_eq_ok] at hvalid
  obtain ⟨hnames, hdate, hcurrency, -, hlines, -⟩ := hvalid
  have hcorrected := hlines correctedLine (mem_of_getElem? hline)
  rw [CorrectedReceiptOrderLineV1.validate, check_then_eq_ok, check_unless_eq_ok,
    validateWhenSome_eq_ok, CorrectedReceiptVariantV1.validate, tryForEach_eq_ok] at hcorrected
  obtain ⟨hdescription, hbounds, hvariant⟩ := hcorrected
  have hfound : (corrected.lineItems[index]?).filter (fun candidate =>
      candidate.orderLineId = line.orderLineId) = some correctedLine := by
    rw [hline]
    simp [hid]
  refine ⟨_, _, by rw [effectiveValues, hfound]; simp only [hevent, hquantity]; rfl, rfl, rfl,
    rfl, ⟨hnames, hdate, hcurrency, hdescription, ?_, hvariant⟩, ?_⟩
  · simp only [hquantity, Option.mem_def, Option.some.injEq, exists_eq_left', not_or, not_lt]
      at hbounds
    exact ⟨Nat.pos_of_ne_zero hbounds.1.1, hbounds.1.2⟩
  · rw [validateAgainst_eq_ok]
    intro field hfield
    have hcorrection : field.2 = .userCorrection reviewDecisionId := by
      simp only [ReceiptPurchaseUnitProvenanceV1.fields, correctionProvenance, mem_cons,
        not_mem_nil, or_false] at hfield
      rcases hfield with rfl | rfl | rfl | rfl | rfl | rfl | rfl | rfl | rfl | rfl | rfl | rfl <;>
        rfl
    rw [hcorrection]
    exact sourced_of_correction reviewDecisionId field.1

/-- **Values in force**: what a standing decision says of a line makes values that the two
contracts share. -/
theorem Stands.effectiveValues {action : ReceiptReviewActionV1}
    {corrected : Option CorrectedReceiptOrderV1} (hstands : Stands order action corrected)
    (hsound : Sound order) (hline : order.lineItems[index]? = some line)
    (hevent : effectiveEvent corrected index line = some eventKind)
    (hquantity : effectiveQuantity corrected index line = some quantity)
    (reviewDecisionId : ReceiptReviewDecisionId) :
    ∃ values provenance,
      Promotion.effectiveValues order line corrected index reviewDecisionId =
          .ok (values, provenance) ∧
        values.eventKind = eventKind ∧ values.quantity = quantity ∧
        values.unitPriceMinor = effectivePrice corrected index line ∧ Reviewed values ∧
        provenance.validateAgainst values reviewDecisionId action = .ok () := by
  cases hstands with
  | confirm =>
    exact effectiveValues_confirm hsound (mem_of_getElem? hline) hevent hquantity
  | @correct corrected hvalid hmatching =>
    obtain ⟨correctedLine, hfound, hid⟩ := correctedLine_of_snapshot hmatching hline
    simp only [effectiveEvent, effectiveQuantity, Option.bind_some, hfound] at hevent hquantity
    have hprice : effectivePrice (some corrected) index line = correctedLine.unitPriceMinor := by
      simp only [effectivePrice, Option.bind_some, hfound]
    rw [hprice]
    exact effectiveValues_correct hvalid hfound hid hevent hquantity

/-! ## Units -/

structure Numbered (authority : ReceiptPurchaseUnitAuthorityV1) (purchaseUnitRevision : ℕ)
    (snapshot : ReceiptPurchaseUnitSnapshotV1) : Prop where
  authorityRevision : 0 < authority.authorityRevision ∧
    authority.authorityRevision < maxSafeIntegerV1
  receiptRevision : 0 < authority.receiptRevision ∧ authority.receiptRevision < maxSafeIntegerV1
  purchaseUnitRevision : 0 < purchaseUnitRevision ∧ purchaseUnitRevision < maxSafeIntegerV1
  catalogRevision : snapshot.catalogRevision < maxSafeIntegerV1
  evidenceGeneration : snapshot.evidenceGeneration < maxSafeIntegerV1

theorem unit_validate_eq_ok {unit : ReceiptPurchaseUnitV1} :
    unit.validate services.toContractServices = .ok () ↔
      unit.values.validate = .ok () ∧
        (unit.authority.reviewAction = .confirm ∨ unit.authority.reviewAction = .correct) ∧
        unit.provenance.validateAgainst unit.values unit.authority.reviewDecisionId
          unit.authority.reviewAction = .ok () ∧
        ReceiptPurchaseUnitId.deriveV1 services.toContractServices unit.orderLineId
          unit.unitOrdinal = .ok unit.purchaseUnitId ∧
        unit.authoritativeQuantity = unit.values.quantity ∧
        unit.unitOrdinal < unit.authoritativeQuantity ∧
        Numbered unit.authority unit.purchaseUnitRevision
          ⟨0, unit.evidenceGeneration, unit.catalogRevision⟩ := by
  rw [ReceiptPurchaseUnitV1.validate, check_then_eq_ok, check_then_eq_ok, check_then_eq_ok,
    ReceiptPurchaseUnitAuthorityV1.validate, check_unless_eq_ok]
  cases hid : ReceiptPurchaseUnitId.deriveV1 services.toContractServices unit.orderLineId
    unit.unitOrdinal with
  | error message => simp
  | ok expected =>
    simp only [check_unless_eq_ok, Except.ok.injEq, not_or, not_and_or, not_not, and_true]
    constructor
    · rintro ⟨hvalues, ⟨haction, ha, ha', hr, hr'⟩, hprovenance, hexpected, hquantity, hordinal,
        hu, hu', hc, he⟩
      exact ⟨hvalues, haction, hprovenance, hexpected.symm, hquantity, by omega,
        ⟨by omega, by omega, by omega, by simpa using hc, by simpa using he⟩⟩
    · rintro ⟨hvalues, haction, hprovenance, hexpected, hquantity, hordinal, hnumbered⟩
      obtain ⟨⟨ha, ha'⟩, ⟨hr, hr'⟩, ⟨hu, hu'⟩, hc, he⟩ := hnumbered
      simp only at hc he
      exact ⟨hvalues, ⟨haction, by omega, by omega, by omega, by omega⟩, hprovenance,
        hexpected.symm, hquantity, by omega, by omega, by omega, by omega, by omega⟩

end Threadbook.Promotion
