import Threadbook.LocalTotality

/-!
# Repeated lines

A line's signature is told by its fields, up to the case of ASCII letters
(**`ParsedLine.Read.signature_eq_iff`**): no field has the null character that stands between
them, and no text that was read is empty. So the provider keeps exactly the lines that have no
earlier line with the same fields (**`extracted_lines_exact`**).
-/

namespace Threadbook

open List

/-! ## What comes first -/

section KeepFirst

variable {α : Type} {same same' : α → α → Bool}

def keepFirst (same : α → α → Bool) (earlier : List α) : List α → List α
  | [] => []
  | a :: rest =>
    if earlier.any (same · a) then keepFirst same (earlier ++ [a]) rest
    else a :: keepFirst same (earlier ++ [a]) rest

theorem keepFirst_concat (earlier l : List α) (a : α) :
    keepFirst same earlier (l ++ [a]) =
      keepFirst same earlier l ++ if (earlier ++ l).any (same · a) then [] else [a] := by
  induction l generalizing earlier with
  | nil => simp [keepFirst]
  | cons b rest ih =>
    rw [cons_append, keepFirst, keepFirst, ih, append_assoc, singleton_append]
    split
    · rfl
    · rw [cons_append]

theorem keepFirst_congr {earlier l : List α}
    (h : ∀ a ∈ earlier ++ l, ∀ b ∈ earlier ++ l, same a b = same' a b) :
    keepFirst same earlier l = keepFirst same' earlier l := by
  induction l generalizing earlier with
  | nil => rfl
  | cons b rest ih =>
    have hany : earlier.any (same · b) = earlier.any (same' · b) := by
      rw [Bool.eq_iff_iff, any_eq_true, any_eq_true]
      refine exists_congr fun a => and_congr_right fun ha => ?_
      rw [h a (mem_append_left _ ha) b (by simp)]
    have hrest : keepFirst same (earlier ++ [b]) rest = keepFirst same' (earlier ++ [b]) rest := by
      apply ih
      simpa using h
    rw [keepFirst, keepFirst, hany, hrest]

end KeepFirst

/-! ## Signatures -/

def SameText (a b : Option String) : Prop :=
  a.map (fun value => toAsciiLowercase value.toList) =
    b.map fun value => toAsciiLowercase value.toList

instance (a b : Option String) : Decidable (SameText a b) :=
  inferInstanceAs (Decidable (_ = _))

structure ParsedLine.SameFields (a b : ParsedLine) : Prop where
  eventKind : a.eventKind = b.eventKind
  description : toAsciiLowercase a.description.toList = toAsciiLowercase b.description.toList
  quantity : a.quantity = b.quantity
  unitPriceMinor : a.unitPriceMinor = b.unitPriceMinor
  brand : SameText a.brand b.brand
  sku : SameText a.sku b.sku
  size : SameText a.size b.size
  color : SameText a.color b.color

instance (a b : ParsedLine) : Decidable (a.SameFields b) :=
  decidable_of_iff (a.eventKind = b.eventKind ∧
    toAsciiLowercase a.description.toList = toAsciiLowercase b.description.toList ∧
    a.quantity = b.quantity ∧ a.unitPriceMinor = b.unitPriceMinor ∧ SameText a.brand b.brand ∧
    SameText a.sku b.sku ∧ SameText a.size b.size ∧ SameText a.color b.color)
    ⟨fun ⟨h₁, h₂, h₃, h₄, h₅, h₆, h₇, h₈⟩ => ⟨h₁, h₂, h₃, h₄, h₅, h₆, h₇, h₈⟩,
      fun ⟨h₁, h₂, h₃, h₄, h₅, h₆, h₇, h₈⟩ => ⟨h₁, h₂, h₃, h₄, h₅, h₆, h₇, h₈⟩⟩

def IsReadText (value : String) : Prop := value.toList ≠ [] ∧ value.toList.any isControl = false

structure ParsedLine.Read (line : ParsedLine) : Prop where
  description : IsReadText line.description
  brand : ∀ value ∈ line.brand, IsReadText value
  sku : ∀ value ∈ line.sku, IsReadText value
  size : ∀ value ∈ line.size, IsReadText value
  color : ∀ value ∈ line.color, IsReadText value

theorem isReadText_of_validate {value : String} {maxChars : ℕ} {field : SafeFieldV1}
    (h : validateText value 1 maxChars field = .ok ()) : IsReadText value := by
  obtain ⟨hlength, -, -, hcontrol⟩ := validateText_eq_ok.mp h
  refine ⟨fun hnil => ?_, hcontrol⟩
  rw [← String.length_toList, hnil] at hlength
  exact absurd hlength (by decide)

variable {line : ParsedLine}

theorem ParsedLine.Good.read {services : ContractServices} {parsed : ParsedReceiptEvidenceV1}
    (h : line.Good services parsed) : line.Read where
  description := isReadText_of_validate h.description
  brand value hvalue := isReadText_of_validate (h.attributes value (.inl hvalue))
  sku value hvalue := isReadText_of_validate (h.attributes value (.inr (.inl hvalue)))
  size value hvalue := isReadText_of_validate (h.attributes value (.inr (.inr (.inl hvalue))))
  color value hvalue := isReadText_of_validate (h.attributes value (.inr (.inr (.inr hvalue))))

theorem nul_of_toLower {c : Char} (h : c.toLower = '\x00') : c = '\x00' := by
  rw [Char.toLower] at h
  split at h
  · rename_i hletter
    have hval := congrArg (fun c : Char => c.val.toNat) h
    simp only [UInt32.le_iff_toNat_le, ge_iff_le] at hletter
    have hsum : (c.val + 32).toNat = c.val.toNat + 32 := by
      rw [UInt32.toNat_add]
      have hz : c.val.toNat ≤ 90 := hletter.2
      have : (32 : UInt32).toNat = 32 := rfl
      omega
    have hzero : (c.val + 32).toNat = 0 := hval
    omega
  · exact h

theorem nul_not_mem_lower {value : List Char} (h : value.any isControl = false) :
    '\x00' ∉ toAsciiLowercase value := by
  intro hmem
  obtain ⟨c, hc, hlower⟩ := mem_map.mp hmem
  obtain rfl := nul_of_toLower hlower
  exact absurd (any_eq_false.mp h _ hc) (by decide)

theorem nul_not_mem_lowerOption {value : Option String} (h : ∀ v ∈ value, IsReadText v) :
    '\x00' ∉ lowerOption value := by
  cases value with
  | none => exact not_mem_nil
  | some v => exact nul_not_mem_lower (h v rfl).2

theorem lowerOption_eq_iff {a b : Option String} (ha : ∀ v ∈ a, IsReadText v)
    (hb : ∀ v ∈ b, IsReadText v) : lowerOption a = lowerOption b ↔ SameText a b := by
  have hne {v : String} (h : IsReadText v) : lowerOption (some v) ≠ lowerOption none := by
    intro heq
    exact h.1 (map_eq_nil_iff.mp heq)
  cases a with
  | none =>
    cases b with
    | none => exact iff_of_true rfl rfl
    | some v => exact iff_of_false (hne (hb v rfl)).symm nofun
  | some v =>
    cases b with
    | none => exact iff_of_false (hne (ha v rfl)) nofun
    | some w => rw [SameText, Option.map_some, Option.map_some, Option.some.injEq]; rfl

theorem debugNumber_some (n : ℕ) :
    debugNumber (some n) = "Some(".toList ++ Nat.toDigits 10 n ++ [')'] := rfl

theorem nul_not_mem_debugNumber (n : Option ℕ) : '\x00' ∉ debugNumber n := by
  cases n with
  | none => decide
  | some n =>
    rw [debugNumber_some, mem_append, mem_append]
    rintro ((hmem | hmem) | hmem)
    · exact absurd hmem (by decide)
    · exact absurd (Nat.isDigit_of_mem_toDigits (by decide) (by decide) hmem) (by decide)
    · exact absurd hmem (by decide)

theorem debugNumber_injective {n m : Option ℕ} (h : debugNumber n = debugNumber m) : n = m := by
  have hnone {k : ℕ} : debugNumber (some k) ≠ debugNumber none := by
    intro heq
    cases congrArg head? heq
  cases n with
  | none =>
    cases m with
    | none => rfl
    | some m => exact absurd h.symm hnone
  | some n =>
    cases m with
    | none => exact absurd h hnone
    | some m =>
      rw [debugNumber_some, debugNumber_some, append_assoc, append_assoc] at h
      have hdigits := append_cancel_right (append_cancel_left h)
      have hvalue (k : ℕ) : Nat.ofDigitChars 10 (Nat.toDigits 10 k) 0 = k :=
        Nat.ofDigitChars_toDigits (by decide) (by decide)
      rw [← hvalue n, hdigits, hvalue m]

theorem eventName_injective {a b : ReceiptEventKindV1}
    (h : (eventName a).toList = (eventName b).toList) : a = b := by
  cases a <;> cases b <;> first | rfl | exact absurd h (by decide)

theorem nul_not_mem_eventName (kind : ReceiptEventKindV1) : '\x00' ∉ (eventName kind).toList := by
  cases kind <;> decide

def ParsedLine.signatureParts (self : ParsedLine) : List (List Char) :=
  [(eventName self.eventKind).toList, toAsciiLowercase self.description.toList,
    debugNumber self.quantity, debugNumber self.unitPriceMinor, lowerOption self.brand,
    lowerOption self.sku, lowerOption self.size, lowerOption self.color]

theorem ParsedLine.Read.splitOn_signature (h : line.Read) :
    line.signature.splitOn '\x00' = line.signatureParts := by
  apply splitOn_intercalate
  · simp only [forall_mem_cons, not_mem_nil, false_implies, implies_true, and_true]
    exact ⟨nul_not_mem_eventName _, nul_not_mem_lower h.description.2, nul_not_mem_debugNumber _,
      nul_not_mem_debugNumber _, nul_not_mem_lowerOption h.brand, nul_not_mem_lowerOption h.sku,
      nul_not_mem_lowerOption h.size, nul_not_mem_lowerOption h.color⟩
  · exact cons_ne_nil _ _

/-- **The signature is told by the fields**, and tells them. -/
theorem ParsedLine.Read.signature_eq_iff {a b : ParsedLine} (ha : a.Read) (hb : b.Read) :
    a.signature = b.signature ↔ a.SameFields b := by
  constructor
  · intro h
    have hparts : a.signatureParts = b.signatureParts := by
      rw [← ha.splitOn_signature, h, hb.splitOn_signature]
    simp only [signatureParts, cons.injEq, and_true] at hparts
    obtain ⟨hkind, hdescription, hquantity, hprice, hbrand, hsku, hsize, hcolor⟩ := hparts
    exact ⟨eventName_injective hkind, hdescription, debugNumber_injective hquantity,
      debugNumber_injective hprice, (lowerOption_eq_iff ha.brand hb.brand).mp hbrand,
      (lowerOption_eq_iff ha.sku hb.sku).mp hsku, (lowerOption_eq_iff ha.size hb.size).mp hsize,
      (lowerOption_eq_iff ha.color hb.color).mp hcolor⟩
  · rintro ⟨hkind, hdescription, hquantity, hprice, hbrand, hsku, hsize, hcolor⟩
    rw [signature, signature, hkind, hdescription, hquantity, hprice,
      (lowerOption_eq_iff ha.brand hb.brand).mpr hbrand,
      (lowerOption_eq_iff ha.sku hb.sku).mpr hsku, (lowerOption_eq_iff ha.size hb.size).mpr hsize,
      (lowerOption_eq_iff ha.color hb.color).mpr hcolor]

/-! ## The run over the lines -/

section Scan

variable {services : ContractServices} {entries : List (ReceiptFragmentV1 × List Char)}

def ParsedLine.sameSignature (a b : ParsedLine) : Bool := a.signature == b.signature

/-- **The scan keeps what comes first**: the lines whose signature no line before them has. -/
theorem scan_keepsFirst {state : ScanState}
    (h : entries.foldlM (scanLine services) ⟨.unknown, [], []⟩ = .ok state) :
    state.lines = keepFirst ParsedLine.sameSignature [] (lineItems services entries) ∧
      ∀ signature, signature ∈ state.seenLines ↔
        signature ∈ (lineItems services entries).map ParsedLine.signature := by
  induction entries using reverseRecOn generalizing state with
  | nil =>
    cases h
    exact ⟨rfl, fun signature => iff_of_false not_mem_nil not_mem_nil⟩
  | append_singleton entries entry ih =>
    rw [foldlM_append] at h
    obtain ⟨before, hbefore, hstep⟩ := check_bind_eq_ok.mp h
    rw [check_foldlM_singleton, scanLine] at hstep
    obtain ⟨hlines, hseen⟩ := ih hbefore
    rw [lineItems_concat]
    rcases hitem : parseLineItem services entry.1 entry.2 with _ | line
    · -- no line to keep
      rw [hitem] at hstep
      cases hstep
      rw [Option.toList_none, append_nil]
      exact ⟨hlines, hseen⟩
    · rw [hitem] at hstep
      dsimp only at hstep
      have hany : ([] ++ lineItems services entries).any (ParsedLine.sameSignature · line) = true ↔
          line.signature ∈ before.seenLines := by
        rw [nil_append, any_eq_true, hseen, mem_map]
        exact exists_congr fun a => and_congr_right fun _ => beq_iff_eq
      rw [Option.toList_some, keepFirst_concat, map_append, map_singleton]
      by_cases hold : line.signature ∈ before.seenLines
      · -- a line that was seen is dropped
        rw [if_pos hold] at hstep
        cases hstep
        rw [if_pos (hany.mpr hold), append_nil]
        refine ⟨hlines, fun signature => ?_⟩
        rw [mem_append, mem_singleton, ← hseen]
        refine ⟨Or.inl, ?_⟩
        rintro (hmem | rfl)
        · exact hmem
        · exact hold
      · -- a new line is kept
        rw [if_neg hold, check_unless_eq_ok] at hstep
        obtain rfl := Except.ok.inj hstep.2
        rw [if_neg (mt hany.mp hold), ← hlines]
        refine ⟨rfl, fun signature => ?_⟩
        rw [mem_cons, hseen, mem_append, mem_singleton, or_comm]

theorem lineItems_read {parsed : ParsedReceiptEvidenceV1} (hvalid : parsed.Valid services)
    (h : line ∈ lineItems services (receiptLines parsed)) : line.Read := by
  obtain ⟨entry, hentry, hitem⟩ := mem_filterMap.mp h
  exact (parseLineItem_good (foundIn_of_valid hvalid (mem_receiptLines hentry).1) hitem).read

/-- **Repeated lines are dropped exactly**: what is extracted are the lines read, in their order,
but for those whose fields all equal those of an earlier line up to the case of ASCII letters; and
lines have the same signature only if they have the same fields. -/
theorem extracted_lines_exact (services : ContractServices) (parsed : ParsedReceiptEvidenceV1)
    (envelope : ReceiptExtractionEnvelopeV1) (h : extract services parsed = .ok envelope) :
    envelope.output.lineItems =
      (keepFirst (fun a b => decide (a.SameFields b)) []
        (lineItems services (receiptLines parsed))).map ParsedLine.intoExtraction ∧
    ∀ a ∈ lineItems services (receiptLines parsed), ∀ b ∈ lineItems services (receiptLines parsed),
      a.signature = b.signature ↔ a.SameFields b := by
  rw [extract, check_then_eq_ok] at h
  obtain ⟨hvalid, h⟩ := h
  have hvalid' := ParsedReceiptEvidenceV1.validate_eq_ok.mp (orMalformed_eq_ok.mp hvalid)
  obtain ⟨state, hscan, h⟩ := check_bind_eq_ok.mp h
  rw [check_unless_eq_ok, check_then_eq_ok] at h
  obtain rfl := Except.ok.inj h.2.2
  have hsame : ∀ a ∈ lineItems services (receiptLines parsed),
      ∀ b ∈ lineItems services (receiptLines parsed), a.signature = b.signature ↔ a.SameFields b :=
    fun a ha b hb => (lineItems_read hvalid' ha).signature_eq_iff (lineItems_read hvalid' hb)
  refine ⟨?_, hsame⟩
  have hkept : keepFirst ParsedLine.sameSignature [] (lineItems services (receiptLines parsed)) =
      keepFirst (fun a b => decide (a.SameFields b)) []
        (lineItems services (receiptLines parsed)) := by
    apply keepFirst_congr
    intro a ha b hb
    rw [ParsedLine.sameSignature, Bool.eq_iff_iff, beq_iff_eq, decide_eq_true_eq]
    exact hsame a ha b hb
  rw [← hkept, ← (scan_keepsFirst hscan).1]
  rfl

end Scan

namespace LocalExample

/-- A line, the same line in other letters, and one of another kind. -/
def repeatedReceipt : ParsedReceiptEvidenceV1 :=
  receipt "Purchase | Tee | 2 | $10.00\nPURCHASE | tee | 2 | $10.00\nReturn | Tee | 2 | $10.00"

theorem repeatedReceipt_lines : ∃ envelope, extract services repeatedReceipt = .ok envelope ∧
    envelope.output.lineItems.length = 2 ∧
    ∀ a ∈ lineItems services (receiptLines repeatedReceipt),
      ∀ b ∈ lineItems services (receiptLines repeatedReceipt),
        a.signature = b.signature ↔ a.SameFields b := by
  have hvalid : repeatedReceipt.validate services = .ok () := by decide +kernel
  obtain ⟨envelope, hextract, hiff⟩ := extract_eq hvalid (by decide +kernel) (by decide +kernel)
  have haccepted := hiff.mpr ⟨by decide +kernel, by decide +kernel⟩
  rw [haccepted] at hextract
  obtain ⟨hlines, hsame⟩ := extracted_lines_exact services repeatedReceipt envelope hextract
  refine ⟨envelope, hextract, ?_, hsame⟩
  rw [hlines, List.length_map]
  decide +kernel

end LocalExample

end Threadbook
