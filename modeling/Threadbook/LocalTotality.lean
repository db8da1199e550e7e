import Threadbook.LocalExtraction

/-!
# When the local provider succeeds

The provider's run over the lines of a receipt, what it has read at the end, and the
main result: on a valid parse with one to a hundred different items, `extract` gives an
envelope the contract accepts exactly when the first date and the first currency of the
receipt are a date and a currency.
-/

namespace Threadbook

open List

variable {entries : List (ReceiptFragmentV1 × List Char)}

section Totality

variable {services : ContractServices} {parsed : ParsedReceiptEvidenceV1}
  {fragment : ReceiptFragmentV1}

/-! ## Plain values -/

def IsPlain (value : List Char) : Prop := ∀ c ∈ value, 33 ≤ c.toNat ∧ c.toNat ≤ 126

theorem exists_large_byte {c : Char} (h : 127 < c.toNat) :
    ∃ b ∈ String.utf8EncodeChar c, 128 ≤ b.toNat := by
  refine ⟨UInt8.ofNat (c.toNat % 64) + 128, ?_, ?_⟩
  · simp only [String.utf8EncodeChar, Char.toNat_val]
    rw [if_neg (by omega)]
    split
    · simp
    · split
      · simp
      · simp
  · rw [UInt8.toNat_add, UInt8.toNat_ofNat']
    change 128 ≤ (c.toNat % 64 % 2 ^ 8 + 128) % 2 ^ 8
    omega

variable {value segment : List Char} {state : ScanState}

theorem isPlain_of_bytes (h : ∀ b ∈ encode value, 33 ≤ b.toNat ∧ b.toNat ≤ 126) :
    IsPlain value := by
  intro c hc
  have hbytes {b : UInt8} (hb : b ∈ String.utf8EncodeChar c) : 33 ≤ b.toNat ∧ b.toNat ≤ 126 :=
    h b (mem_flatMap.mpr ⟨c, hc, hb⟩)
  by_cases hascii : c.toNat ≤ 127
  · have hb := hbytes (utf8EncodeChar_ascii hascii ▸ mem_singleton_self _)
    rw [UInt8.toNat_ofNat', Nat.mod_eq_of_lt (by omega)] at hb
    exact hb
  · obtain ⟨b, hb, hlarge⟩ := exists_large_byte (not_le.mp hascii)
    have hsmall := (hbytes hb).2
    omega

theorem isPlain_of_isIsoCurrency (h : isIsoCurrency value = true) : IsPlain value := by
  rw [isIsoCurrency, Bool.and_eq_true, all_eq_true] at h
  apply isPlain_of_bytes
  intro b hb
  have hupper := h.2 b hb
  simp only [Byte.isAsciiUppercase, Bool.and_eq_true, decide_eq_true_eq, UInt8.le_iff_toNat_le]
    at hupper
  have h65 : 65 ≤ b.toNat := hupper.1
  have h90 : b.toNat ≤ 90 := hupper.2
  omega

theorem isPlain_of_isIsoDate (h : isIsoDate value = true) : IsPlain value := by
  apply isPlain_of_bytes
  intro b hb
  rcases isIsoDate_bytes h hb with rfl | hdigit
  · decide
  · simp only [Byte.isAsciiDigit, Bool.and_eq_true, decide_eq_true_eq, UInt8.le_iff_toNat_le]
      at hdigit
    have h48 : 48 ≤ b.toNat := hdigit.1
    have h57 : b.toNat ≤ 57 := hdigit.2
    omega

theorem IsPlain.not_isWhitespace (h : IsPlain value) {c : Char} (hc : c ∈ value) :
    isWhitespace c = false := by
  have hrange := h c hc
  simp only [isWhitespace, Bool.or_eq_false_iff, Bool.and_eq_false_iff, decide_eq_false_iff_not,
    beq_eq_false_iff_ne]
  omega

theorem IsPlain.not_isControl (h : IsPlain value) {c : Char} (hc : c ∈ value) :
    isControl c = false := by
  have hrange := h c hc
  simp only [isControl, Bool.or_eq_false_iff, Bool.and_eq_false_iff, decide_eq_false_iff_not]
  omega

theorem IsPlain.boundedValue (h : IsPlain value) (hne : value ≠ []) {maxChars : ℕ}
    (hlen : value.length ≤ maxChars) :
    boundedValue value maxChars = some (String.ofList value) := by
  have htrim : trimChars value = value := by
    rw [trimChars_eq_self_iff]
    refine ⟨fun c hc => ?_, fun c hc => ?_⟩
    · exact h.not_isWhitespace (mem_of_mem_head? hc)
    · exact h.not_isWhitespace (mem_of_getLast? hc)
  have hcontrol : value.any isControl = false := by
    rw [any_eq_false]
    intro c hc
    rw [h.not_isControl hc]
    exact Bool.false_ne_true
  rw [Threadbook.boundedValue, htrim, if_pos ⟨hne, hlen, by rw [hcontrol]; exact Bool.false_ne_true⟩]

def GivesPlain (get : List Char → Option (List Char)) : Prop :=
  ∀ segment value, get segment = some value →
    IsPlain value ∧ value ≠ [] ∧ value.length ≤ maxReceiptAttributeChars

theorem currencyValue_iso (h : currencyValue segment = some value) :
    isIsoCurrency value = true := by
  rw [currencyValue] at h
  split at h
  · rename_i found hfound
    rw [← Option.some.inj h]
    exact (Option.filter_eq_some_iff.mp hfound).2
  · split at h
    · rename_i hiso
      rw [← Option.some.inj h]
      exact hiso
    · cases h

theorem datedValue_iso (h : datedValue segment = some value) : isIsoDate value = true := by
  rw [datedValue] at h
  split at h
  · rename_i found hfound
    rw [← Option.some.inj h]
    exact (Option.filter_eq_some_iff.mp hfound).2
  · split at h
    · rename_i hiso
      rw [← Option.some.inj h]
      exact hiso
    · cases h

theorem currencyValue_givesPlain : GivesPlain currencyValue := by
  intro segment value h
  have hiso := currencyValue_iso h
  have hshort := length_of_isIsoCurrency hiso
  refine ⟨isPlain_of_isIsoCurrency hiso, ?_, hshort.trans (by decide)⟩
  rintro rfl
  cases hiso

theorem datedValue_givesPlain : GivesPlain datedValue := by
  intro segment value h
  have hiso := datedValue_iso h
  have hten : (encode value).length = 10 := by
    simp only [isIsoDate, Bool.and_eq_true, beq_iff_eq] at hiso
    exact hiso.1.1.1.1.1.1
  refine ⟨isPlain_of_isIsoDate hiso, ?_, ?_⟩
  · rintro rfl
    cases hiso
  · calc value.length ≤ (encode value).length := length_le_encode value
      _ = 10 := hten
      _ ≤ maxReceiptAttributeChars := by decide

theorem citationForQuoteV1_isSome_iff {quote : List Char} (hne : quote ≠ [])
    (hpart : quote <:+: fragment.text.toList)
    (hbytes : byteLength fragment.text ≤ maxReceiptFragmentBytes) :
    (citationForQuoteV1 services fragment quote).toOption.isSome = true ↔
      (encode quote).length ≤ maxCitationBytes := by
  obtain ⟨byteStart, hfind⟩ := Option.isSome_iff_exists.mp (findText_isSome hpart)
  have hrange : byteStart + (encode quote).length ≤ byteLength fragment.text := by
    obtain ⟨before, after, htext, rfl⟩ := findText_eq_some hfind
    rw [← length_utf8Bytes, utf8Bytes, htext, encode_append, encode_append, length_append,
      length_append]
    exact Nat.le_add_right _ _
  have hmax : maxReceiptFragmentBytes < 2 ^ 32 := by decide
  rw [citationForQuoteV1, if_neg hne]
  by_cases hlen : (encode quote).length ≤ maxCitationBytes
  · rw [if_neg (not_lt.mpr hlen), hfind]
    dsimp only
    rw [if_neg (by omega)]
    exact iff_of_true rfl hlen
  · rw [if_pos (not_le.mp hlen)]
    exact iff_of_false Bool.false_ne_true hlen

theorem evidence_value {get : List Char → Option (List Char)} (hget : GivesPlain get)
    (hne : segment ≠ []) (hpart : segment <:+: fragment.text.toList)
    (hbytes : byteLength fragment.text ≤ maxReceiptFragmentBytes) :
    ((get segment).bind (citedString services fragment segment)).map (·.value) =
      (citable get segment).map fun value => some (String.ofList value) := by
  have hcite : (citationForQuoteV1 services fragment segment).toOption.isSome = true ↔ _ :=
    citationForQuoteV1_isSome_iff hne hpart hbytes
  rw [citable]
  rcases hsome : get segment with _ | value
  · split <;> rfl
  · obtain ⟨hplain, hvalue, hlen⟩ := hget segment value hsome
    rw [Option.bind_some, citedString, hplain.boundedValue hvalue hlen]
    by_cases hshort : (encode segment).length ≤ maxCitationBytes
    · obtain ⟨citation, hcitation⟩ := Option.isSome_iff_exists.mp (hcite.mpr hshort)
      rw [if_pos hshort, hcitation]
      rfl
    · have hnone : (citationForQuoteV1 services fragment segment).toOption = none := by
        rw [← Option.not_isSome_iff_eq_none, hcite]
        exact hshort
      rw [if_neg hshort, hnone]
      rfl

/-! ## Lines and segments -/

theorem mem_receiptLines {entry : ReceiptFragmentV1 × List Char} (h : entry ∈ receiptLines parsed) :
    entry.1 ∈ parsed.fragments ∧ entry.2 <:+: entry.1.text.toList := by
  obtain ⟨fragment, hfragment, hentry⟩ := mem_flatMap.mp h
  obtain ⟨line, hline, rfl⟩ := mem_map.mp hentry
  obtain ⟨rawLine, hraw, rfl⟩ := mem_map.mp (mem_filter.mp hline).1
  refine ⟨(mem_filter.mp hfragment).1, ?_⟩
  calc trimChars (trimListMarks (trimChars rawLine)) <:+: trimListMarks (trimChars rawLine) :=
        trimChars_isInfix _
    _ <:+: trimChars rawLine := (trimListMarks_suffix _).isInfix
    _ <:+: rawLine := trimChars_isInfix _
    _ <:+: fragment.text.toList := infix_of_mem_lines hraw

theorem mem_barFields {line : List Char} (h : segment ∈ barFields line) :
    segment ≠ [] ∧ segment <:+: line := by
  obtain ⟨hmem, hne⟩ := mem_filter.mp h
  obtain ⟨piece, hpiece, rfl⟩ := mem_map.mp hmem
  exact ⟨by simpa using hne, (trimChars_isInfix _).trans (infix_of_mem_splitOn hpiece)⟩

theorem mem_receiptSegments {entry : ReceiptFragmentV1 × List Char}
    (h : entry ∈ receiptSegments parsed) :
    entry.1 ∈ parsed.fragments ∧ entry.2 ≠ [] ∧ entry.2 <:+: entry.1.text.toList := by
  obtain ⟨line, hline, hentry⟩ := mem_flatMap.mp h
  obtain ⟨segment, hsegment, rfl⟩ := mem_map.mp hentry
  obtain ⟨hfragment, hline⟩ := mem_receiptLines hline
  obtain ⟨hne, hpart⟩ := mem_barFields hsegment
  exact ⟨hfragment, hne, hpart.trans hline⟩

theorem findSome?_map_congr {α β γ δ : Type} {f : α → Option β} {g : α → Option γ} {p : β → δ}
    {q : γ → δ} {l : List α} (h : ∀ a ∈ l, (f a).map p = (g a).map q) :
    (l.findSome? f).map p = (l.findSome? g).map q := by
  induction l with
  | nil => rfl
  | cons a rest ih =>
    have hhead := h a mem_cons_self
    have hrest := ih fun b hb => h b (mem_cons_of_mem a hb)
    rw [findSome?_cons, findSome?_cons]
    cases hf : f a with
    | none =>
      rw [hf, Option.map_none] at hhead
      rw [Option.map_eq_none_iff.mp hhead.symm]
      exact hrest
    | some b =>
      rw [hf, Option.map_some] at hhead
      obtain ⟨c, hc, hq⟩ := Option.map_eq_some_iff.mp hhead.symm
      rw [hc, Option.map_some, Option.map_some, hq]

theorem byteLength_le (hvalid : parsed.Valid services) (h : fragment ∈ parsed.fragments) :
    byteLength fragment.text ≤ maxReceiptFragmentBytes := by
  have hfragment := hvalid.fragments fragment h
  rw [ReceiptFragmentV1.validate, check_unless_eq_ok] at hfragment
  have hbounds := hfragment.1
  push Not at hbounds
  exact hbounds.2.1

/-- **The date read is the first one.** -/
theorem collectLines_date_value (hvalid : parsed.Valid services) :
    (collectLines services (receiptLines parsed)).purchaseDate.map (·.value) =
      (firstDate parsed).map fun value => some (String.ofList value) := by
  rw [collectLines_purchaseDate]
  apply findSome?_map_congr
  intro entry hentry
  obtain ⟨hfragment, hne, hpart⟩ := mem_receiptSegments hentry
  exact evidence_value datedValue_givesPlain hne hpart (byteLength_le hvalid hfragment)

/-- **The currency read is the first one.** -/
theorem collectLines_currency_value (hvalid : parsed.Valid services) :
    (collectLines services (receiptLines parsed)).currency.map (·.value) =
      (firstCurrency parsed).map fun value => some (String.ofList value) := by
  rw [collectLines_currency]
  apply findSome?_map_congr
  intro entry hentry
  obtain ⟨hfragment, hne, hpart⟩ := mem_receiptSegments hentry
  exact evidence_value currencyValue_givesPlain hne hpart (byteLength_le hvalid hfragment)

/-! ## The run over the lines -/

def lineItems (services : ContractServices) (entries : List (ReceiptFragmentV1 × List Char)) :
    List ParsedLine :=
  entries.filterMap fun entry => parseLineItem services entry.1 entry.2

theorem lineItems_concat (entries : List (ReceiptFragmentV1 × List Char))
    (entry : ReceiptFragmentV1 × List Char) :
    lineItems services (entries ++ [entry]) =
      lineItems services entries ++ (parseLineItem services entry.1 entry.2).toList := by
  rw [lineItems, filterMap_append, ← lineItems, filterMap_cons, filterMap_nil]
  cases parseLineItem services entry.1 entry.2 <;> rfl

def distinctItems (services : ContractServices) (parsed : ParsedReceiptEvidenceV1) : ℕ :=
  ((lineItems services (receiptLines parsed)).map ParsedLine.signature).dedup.length

structure Scanned (services : ContractServices) (entries : List (ReceiptFragmentV1 × List Char))
    (state : ScanState) : Prop where
  order : state.order = collectLines services entries
  seen : ∀ signature, signature ∈ state.seenLines ↔
    signature ∈ state.lines.map ParsedLine.signature
  nodup : (state.lines.map ParsedLine.signature).Nodup
  covers : ∀ signature, signature ∈ state.lines.map ParsedLine.signature ↔
    signature ∈ (lineItems services entries).map ParsedLine.signature
  kept : ∀ line ∈ state.lines, line ∈ lineItems services entries

theorem Scanned.length_lines (h : Scanned services entries state) :
    state.lines.length = ((lineItems services entries).map ParsedLine.signature).dedup.length := by
  have hperm : (state.lines.map ParsedLine.signature).Perm
      ((lineItems services entries).map ParsedLine.signature).dedup := by
    rw [perm_ext_iff_of_nodup h.nodup (nodup_dedup _)]
    intro signature
    rw [mem_dedup]
    exact h.covers signature
  rw [← hperm.length_eq, length_map]

theorem Scanned.scanLine (h : Scanned services entries state)
    (entry : ReceiptFragmentV1 × List Char)
    (hcount : ((lineItems services (entries ++ [entry])).map ParsedLine.signature).dedup.length ≤
      maxReceiptLineItems) :
    ∃ next, scanLine services state entry = .ok next ∧ Scanned services (entries ++ [entry]) next := by
  have horder : collectOrderEvidence services entry.1 entry.2 state.order =
      collectLines services (entries ++ [entry]) := by
    rw [h.order, collectLines, collectLines, foldl_concat]
  rw [Threadbook.scanLine]
  rcases hitem : parseLineItem services entry.1 entry.2 with _ | line
  · -- no item: only the facts may change
    have hitems : lineItems services (entries ++ [entry]) = lineItems services entries := by
      rw [lineItems_concat, hitem, Option.toList_none, append_nil]
    refine ⟨_, rfl, horder, h.seen, h.nodup, ?_, ?_⟩
    · rw [hitems]
      exact h.covers
    · rw [hitems]
      exact h.kept
  · have hitems : lineItems services (entries ++ [entry]) = lineItems services entries ++ [line] := by
      rw [lineItems_concat, hitem, Option.toList_some]
    have hkept : ∀ l ∈ state.lines, l ∈ lineItems services (entries ++ [entry]) := by
      intro l hl
      rw [hitems]
      exact mem_append_left _ (h.kept l hl)
    by_cases hseen : line.signature ∈ state.seenLines
    · -- an item that was seen is skipped
      dsimp only
      rw [if_pos hseen]
      refine ⟨_, rfl, horder, h.seen, h.nodup, ?_, hkept⟩
      intro signature
      have hold : line.signature ∈ (lineItems services entries).map ParsedLine.signature :=
        (h.covers _).mp ((h.seen _).mp hseen)
      rw [hitems, map_append, mem_append, map_singleton, mem_singleton, h.covers signature]
      refine ⟨Or.inl, ?_⟩
      rintro (hmem | rfl)
      · exact hmem
      · exact hold
    · -- a new item is kept, and there is room for it
      have hnew : line.signature ∉ state.lines.map ParsedLine.signature := by
        rw [← h.seen]
        exact hseen
      have hnext : Scanned services (entries ++ [entry])
          ⟨collectOrderEvidence services entry.1 entry.2 state.order, state.lines ++ [line],
            line.signature :: state.seenLines⟩ := by
        refine ⟨horder, ?_, ?_, ?_, ?_⟩
        · intro signature
          rw [mem_cons, h.seen, map_append, mem_append, map_singleton, mem_singleton, or_comm]
        · rw [map_append, map_singleton]
          exact concat_eq_append ▸ h.nodup.concat hnew
        · intro signature
          rw [hitems, map_append, map_append, mem_append, mem_append, h.covers signature]
        · intro l hl
          rcases mem_append.mp hl with hl | hl
          · exact hkept l hl
          · rw [hitems]
            exact mem_append_right _ hl
      have hroom : ¬ maxReceiptLineItems < state.lines.length + 1 := by
        have hlen := hnext.length_lines
        rw [length_append, length_singleton] at hlen
        omega
      dsimp only
      rw [if_neg hseen, if_neg hroom]
      exact ⟨_, rfl, hnext⟩

/-- **Every receipt of at most a hundred different items is read to its end.** -/
theorem scan_lines (services : ContractServices) (entries : List (ReceiptFragmentV1 × List Char))
    (hcount : ((lineItems services entries).map ParsedLine.signature).dedup.length ≤
      maxReceiptLineItems) :
    ∃ state, entries.foldlM (scanLine services) ⟨.unknown, [], []⟩ = .ok state ∧
      Scanned services entries state := by
  induction entries using reverseRecOn with
  | nil =>
    refine ⟨_, rfl, rfl, ?_, nodup_nil, ?_, ?_⟩
    · intro signature
      simp
    · intro signature
      simp [lineItems]
    · intro line hline
      cases hline
  | append_singleton entries entry ih =>
    -- the lines before have no more items
    have hsub : ((lineItems services entries).map ParsedLine.signature).dedup.length ≤
        ((lineItems services (entries ++ [entry])).map ParsedLine.signature).dedup.length := by
      rw [← card_toFinset, ← card_toFinset]
      apply Finset.card_le_card
      intro signature hsignature
      rw [mem_toFinset] at hsignature ⊢
      rw [lineItems_concat, map_append]
      exact mem_append_left _ hsignature
    obtain ⟨state, hfold, hscanned⟩ := ih (hsub.trans hcount)
    obtain ⟨next, hstep, hnext⟩ := hscanned.scanLine entry hcount
    refine ⟨next, ?_, hnext⟩
    rw [foldlM_append, hfold]
    change ([entry].foldlM (scanLine services) state) = _
    rw [check_foldlM_singleton]
    exact hstep

/-! ## The envelope -/

theorem foundIn_of_valid (hvalid : parsed.Valid services) (h : fragment ∈ parsed.fragments) :
    FoundIn parsed fragment :=
  ParsedReceiptEvidenceV1.fragment_eq_some hvalid.nodup h

theorem collectLines_good (hvalid : parsed.Valid services)
    (entries : List (ReceiptFragmentV1 × List Char))
    (hentries : ∀ entry ∈ entries, entry.1 ∈ parsed.fragments) :
    (collectLines services entries).Good services parsed := by
  induction entries using reverseRecOn with
  | nil =>
    intro evidence h
    rcases h with h | h | h | h | h
    all_goals cases h
  | append_singleton entries entry ih =>
    rw [collectLines, foldl_concat]
    refine OrderEvidence.Good.collectOrderEvidence (ih ?_) (foundIn_of_valid hvalid ?_) _
    · intro e he
      exact hentries e (mem_append_left _ he)
    · exact hentries entry (mem_append_right _ (mem_singleton_self _))

theorem localProcessing_validates (hvalid : parsed.Valid services) :
    (localProcessing services parsed).validateAgainst parsed = .ok () := by
  have hnonempty : (localProcessing services parsed).fragmentSha256 ≠ [] := by
    rw [localProcessing, ne_eq, map_eq_nil_iff]
    exact hvalid.nonempty
  have hcount : ¬ maxReceiptFragments < (localProcessing services parsed).fragmentSha256.length := by
    rw [localProcessing, length_map]
    exact not_lt.mpr hvalid.count
  have htexts : tryForEach
      (fun value => validateText value 1 maxReceiptProviderValueChars .receiptProviderOutput)
      [localReceiptProviderIdV1, localReceiptProviderRevisionV1, receiptExtractionSchemaV1,
        localReceiptRulesetRevisionV1] = .ok () := by decide
  have hparameters : ReceiptProviderParametersV1.validate ⟨true, 0, none⟩ = .ok () := by decide
  have hvalidate : (localProcessing services parsed).validate = .ok () := by
    rw [ReceiptProcessingMetadataV1.validate, check_then_eq_ok, check_then_eq_ok, check_unless_eq_ok]
    refine ⟨htexts, hparameters, ?_, rfl⟩
    rintro (h | h)
    · exact hnonempty h
    · exact hcount h
  rw [ReceiptProcessingMetadataV1.validateAgainst, check_then_eq_ok, check_unless_eq_ok]
  refine ⟨hvalidate, ?_, rfl⟩
  simp [localProcessing]

theorem validateCurrency_of_iso (h : isIsoCurrency value = true) :
    validateCurrency (String.ofList value) = .ok () ↔ String.ofList value ∈ iso4217Codes := by
  rw [isIsoCurrency, Bool.and_eq_true, beq_iff_eq] at h
  rw [validateCurrency, check_when_eq_ok, and_iff_left rfl, ← length_utf8Bytes, utf8Bytes,
    String.toList_ofList]
  exact ⟨fun hok => hok.2.2, fun hmem => ⟨h.1, h.2, hmem⟩⟩

theorem validateIsoDate_of_iso (h : isIsoDate value = true) :
    validateIsoDate (String.ofList value) = .ok () ↔ isCalendarDay value = true := by
  simp only [isIsoDate, Bool.and_eq_true, beq_iff_eq, decide_eq_true_eq] at h
  obtain ⟨⟨⟨⟨⟨⟨hten, h4⟩, h7⟩, hall⟩, hyear⟩, hmonth⟩, hday⟩ := h
  have hdigits : ((encode value).zipIdx.any
      (fun entry => entry.2 ≠ 4 && entry.2 ≠ 7 && !Byte.isAsciiDigit entry.1)) = false := by
    rw [any_eq_false]
    intro entry hentry
    have hgood := all_eq_true.mp hall entry hentry
    simp only [Bool.or_eq_true, beq_iff_eq] at hgood
    simp only [Bool.and_eq_true, decide_eq_true_eq, Bool.not_eq_true', not_and, and_imp]
    intro hne4 hne7
    rcases hgood with (h4' | h7') | hdigit
    · exact absurd h4' hne4
    · exact absurd h7' hne7
    · rw [hdigit]
      exact Bool.noConfusion
  rw [validateIsoDate, utf8Bytes, String.toList_ofList]
  dsimp only
  rw [if_neg, check_unless_eq_ok, and_iff_left rfl, isCalendarDay, decide_eq_true_eq]
  · push Not
    exact ⟨fun hok => hok.2.2, fun hok => ⟨by omega, by omega, hok⟩⟩
  · rw [hdigits, h4, h7, hten]
    simp

theorem getD_unknownString_value (evidence : Option EvidenceStringV1) :
    (evidence.getD unknownString).value = (evidence.map (·.value)).getD none := by
  cases evidence <;> rfl

theorem getD_unknownString_validates {evidence : Option EvidenceStringV1}
    (h : ∀ e, evidence = some e → EvidenceStringV1.validateAgainst services e parsed
      maxReceiptAttributeChars = .ok ()) :
    EvidenceStringV1.validateAgainst services (evidence.getD unknownString) parsed
      maxReceiptAttributeChars = .ok () := by
  cases evidence with
  | none => rfl
  | some e => exact h e rfl

theorem output_validates_iff (hvalid : parsed.Valid services)
    (hscanned : Scanned services (receiptLines parsed) state) (hsome : state.lines ≠ [])
    (hcount : distinctItems services parsed ≤ maxReceiptLineItems) :
    state.output.validateAgainst services parsed = .ok () ↔
      (∀ date ∈ firstDate parsed, isCalendarDay date = true) ∧
        ∀ code ∈ firstCurrency parsed, String.ofList code ∈ iso4217Codes := by
  have hfragment : ∀ entry ∈ receiptLines parsed, entry.1 ∈ parsed.fragments :=
    fun entry hentry => (mem_receiptLines hentry).1
  have hgood : state.order.Good services parsed := by
    rw [hscanned.order]
    exact collectLines_good hvalid _ hfragment
  have hmerchant : EvidenceStringV1.validateAgainst services state.output.merchant parsed
      maxReceiptAttributeChars = .ok () := by
    apply getD_unknownString_validates
    intro e he
    rcases Option.or_eq_some_iff.mp he with he | ⟨-, he⟩
    · exact hgood e (.inl he)
    · exact hgood e (.inr (.inr (.inr (.inr he))))
  have horder : EvidenceStringV1.validateAgainst services state.output.orderIdentifier parsed
      maxReceiptAttributeChars = .ok () :=
    getD_unknownString_validates fun e he => hgood e (.inr (.inl he))
  have hdate : EvidenceStringV1.validateAgainst services state.output.purchaseDate parsed
      maxReceiptAttributeChars = .ok () :=
    getD_unknownString_validates fun e he => hgood e (.inr (.inr (.inl he)))
  have hcurrency : EvidenceStringV1.validateAgainst services state.output.currency parsed
      maxReceiptAttributeChars = .ok () :=
    getD_unknownString_validates fun e he => hgood e (.inr (.inr (.inr (.inl he))))
  have hlines : ∀ line ∈ state.output.lineItems, line.validateAgainst services parsed = .ok () := by
    intro line hline
    obtain ⟨item, hitem, rfl⟩ := mem_map.mp hline
    obtain ⟨entry, hentry, hparse⟩ := mem_filterMap.mp (hscanned.kept item hitem)
    have hfound := foundIn_of_valid hvalid (hfragment entry hentry)
    exact (parseLineItem_good hfound hparse).validates
  have hnumber : ¬ (state.output.lineItems = [] ∨
      maxReceiptLineItems < state.output.lineItems.length) := by
    rw [ScanState.output, map_eq_nil_iff, length_map, hscanned.length_lines]
    rintro (h | h)
    · exact hsome h
    · exact absurd h (not_lt.mpr hcount)
  -- what is left are the two values read more loosely than the contract has them
  have hdateValue : state.output.purchaseDate.value = (firstDate parsed).map String.ofList := by
    rw [ScanState.output, getD_unknownString_value, hscanned.order, collectLines_date_value hvalid]
    cases firstDate parsed <;> rfl
  have hcurrencyValue : state.output.currency.value = (firstCurrency parsed).map String.ofList := by
    rw [ScanState.output, getD_unknownString_value, hscanned.order,
      collectLines_currency_value hvalid]
    cases firstCurrency parsed <;> rfl
  have hdates : validateWhenSome validateIsoDate state.output.purchaseDate.value = .ok () ↔
      ∀ date ∈ firstDate parsed, isCalendarDay date = true := by
    rw [hdateValue, validateWhenSome_eq_ok]
    rcases hfirst : firstDate parsed with _ | date
    · simp
    · obtain ⟨entry, -, hcitable⟩ := exists_of_findSome?_eq_some hfirst
      have hiso : isIsoDate date = true := by
        rw [citable] at hcitable
        split at hcitable
        · exact datedValue_iso hcitable
        · cases hcitable
      simp [validateIsoDate_of_iso hiso]
  have hcurrencies : validateWhenSome validateCurrency state.output.currency.value = .ok () ↔
      ∀ code ∈ firstCurrency parsed, String.ofList code ∈ iso4217Codes := by
    rw [hcurrencyValue, validateWhenSome_eq_ok]
    rcases hfirst : firstCurrency parsed with _ | code
    · simp
    · obtain ⟨entry, -, hcitable⟩ := exists_of_findSome?_eq_some hfirst
      have hiso : isIsoCurrency code = true := by
        rw [citable] at hcitable
        split at hcitable
        · exact currencyValue_iso hcitable
        · cases hcitable
      simp [validateCurrency_of_iso hiso]
  rw [← hdates, ← hcurrencies]
  simp only [ReceiptExtractionV1.validateAgainst, ReceiptExtractionV1.validate, check_then_eq_ok,
    check_unless_eq_ok, tryForEach_eq_ok]
  refine ⟨fun h => ⟨h.1.2.2.2.2.1, h.1.2.2.2.2.2.1⟩, ?_⟩
  rintro ⟨hokDate, hokCurrency⟩
  refine ⟨⟨?_, ?_, ?_, ?_, hokDate, hokCurrency, hnumber, ?_⟩, hmerchant, horder, hdate, hcurrency,
    hlines⟩
  · exact EvidenceStringV1.validateWithLimit_of_against hmerchant
  · exact EvidenceStringV1.validateWithLimit_of_against horder
  · exact EvidenceStringV1.validateWithLimit_of_against hdate
  · exact EvidenceStringV1.validateWithLimit_of_against hcurrency
  · intro line hline
    exact ReceiptLineItemExtractionV1.validate_of_against (hlines line hline)

theorem orMalformed_eq_ok {α : Type} {x : Except ValidationError α} {a : α} :
    orMalformed x = .ok a ↔ x = .ok a :=
  check_mapError_eq_ok

theorem extract_eq (hvalid : parsed.validate services = .ok ())
    (hsome : 1 ≤ distinctItems services parsed)
    (hcount : distinctItems services parsed ≤ maxReceiptLineItems) :
    ∃ envelope : ReceiptExtractionEnvelopeV1, extract services parsed =
        (orMalformed (envelope.validateAgainst services parsed)).map (fun _ => envelope) ∧
      (envelope.validateAgainst services parsed = .ok () ↔
        (∀ date ∈ firstDate parsed, isCalendarDay date = true) ∧
          ∀ code ∈ firstCurrency parsed, String.ofList code ∈ iso4217Codes) := by
  have hvalid' := ParsedReceiptEvidenceV1.validate_eq_ok.mp hvalid
  obtain ⟨state, hscan, hscanned⟩ := scan_lines services (receiptLines parsed) hcount
  have hlines : state.lines ≠ [] := by
    intro h
    have hlen := hscanned.length_lines
    rw [h, length_nil] at hlen
    have hzero : distinctItems services parsed = 0 := hlen.symm
    omega
  refine ⟨⟨localProcessing services parsed, state.output⟩, ?_, ?_⟩
  · rw [extract, hvalid, hscan]
    change (if state.lines = [] then _ else _) = _
    rw [if_neg hlines]
    cases ReceiptExtractionEnvelopeV1.validateAgainst services
      ⟨localProcessing services parsed, state.output⟩ parsed <;> rfl
  · rw [← output_validates_iff hvalid' hscanned hlines hcount,
      ReceiptExtractionEnvelopeV1.validateAgainst, check_then_eq_ok, check_then_eq_ok]
    exact ⟨fun h => h.2.2, fun h => ⟨hvalid, localProcessing_validates hvalid', h⟩⟩

/-- **Extraction succeeds** on a valid parse with one to a hundred different items exactly
when the first date among its fields is a day of the calendar and the first currency
a code of ISO 4217; and then the envelope is accepted. -/
theorem extract_ok_iff (services : ContractServices) (parsed : ParsedReceiptEvidenceV1)
    (hvalid : parsed.validate services = .ok ()) (hsome : 1 ≤ distinctItems services parsed)
    (hcount : distinctItems services parsed ≤ maxReceiptLineItems) :
    (∃ envelope, extract services parsed = .ok envelope ∧
      envelope.validateAgainst services parsed = .ok ()) ↔
      (∀ date ∈ firstDate parsed, isCalendarDay date = true) ∧
        ∀ code ∈ firstCurrency parsed, String.ofList code ∈ iso4217Codes := by
  obtain ⟨envelope, hextract, hiff⟩ := extract_eq hvalid hsome hcount
  rw [← hiff, hextract]
  refine ⟨?_, fun h => ⟨envelope, by rw [h]; rfl, h⟩⟩
  rintro ⟨other, hok, -⟩
  rcases hcheck : envelope.validateAgainst services parsed with e | u
  · rw [hcheck] at hok
    cases hok
  · rfl

end Totality

namespace LocalExample

/-- Sixty-four zeros for every text. -/
def services : ContractServices where
  digest := fun _ => "0000000000000000000000000000000000000000000000000000000000000000"
  parsesTimestamp := fun _ => true

def receipt (text : String) : ParsedReceiptEvidenceV1 :=
  let parsed : ParsedReceiptEvidenceV1 :=
    ⟨.above 0, .above 1, services.digest [], "parser", "sanitizer", "",
      [⟨.above 2, 0, .plainText, text, services.digest (utf8Bytes text), none⟩]⟩
  { parsed with canonicalInputSha256 := parsed.computeCanonicalInputSha256 services }

/-- An item and, before it, a line of three capitals that is no currency. -/
def taxReceipt : ParsedReceiptEvidenceV1 := receipt "TAX\nPurchase | Tee"

def teeReceipt : ParsedReceiptEvidenceV1 :=
  receipt "2026-02-28 | currency: USD\n- Purchase | Tee | 2 | $10.00"

theorem taxReceipt_valid : taxReceipt.validate services = .ok () := by decide +kernel

theorem taxReceipt_items : distinctItems services taxReceipt = 1 := by decide +kernel

/-- The receipt with `TAX` is lost: the word is taken for a currency. -/
theorem taxReceipt_malformed : taxReceipt.validate services = .ok () ∧
    distinctItems services taxReceipt = 1 ∧
    extract services taxReceipt = .error .malformedOutput := by
  refine ⟨taxReceipt_valid, taxReceipt_items, ?_⟩
  obtain ⟨envelope, hextract, hiff⟩ :=
    extract_eq taxReceipt_valid taxReceipt_items.ge (taxReceipt_items.le.trans (by decide))
  have hfirst : firstCurrency taxReceipt = some "TAX".toList := by decide +kernel
  have hlisted : String.ofList "TAX".toList ∉ iso4217Codes := by decide +kernel
  rcases hcheck : envelope.validateAgainst services taxReceipt with e | u
  · rw [hextract, hcheck]
    rfl
  · exact absurd ((hiff.mp hcheck).2 _ hfirst) hlisted

theorem teeReceipt_extracted : ∃ envelope, extract services teeReceipt = .ok envelope ∧
    envelope.validateAgainst services teeReceipt = .ok () :=
  (extract_ok_iff services teeReceipt (by decide +kernel) (by decide +kernel)
    (by decide +kernel)).mpr ⟨by decide +kernel, by decide +kernel⟩

end LocalExample

end Threadbook
