import Threadbook.ReceiptEvidence

/-!
# Citing a receipt

The parser's side of citations: `citationForQuoteV1` makes one, `verifyCitationV1`
checks one. `citation_layers_agree` compares them with the contract's own check.
-/

namespace Threadbook

inductive ReceiptParseError
  | rawMessageTooLarge
  | missingHeaderBoundary
  | headerLimit
  | mailParseFailed
  | mimePartLimit
  | mimeDepthLimit
  | decodedPartLimit
  | decodedTotalLimit
  | fragmentLimit
  | fragmentTotalLimit
  | htmlTokenizeFailed
  | citationNotFound
  | citationEmpty
  | citationTooLong
  | citationOutOfRange
  | citationUtf8Boundary
  | citationHashMismatch
  | foreignCitation
  | contractInvalid
  deriving DecidableEq

/-- The parser's bound on what is cited, in bytes. -/
def maxCitationBytes : ℕ := 512

def citationForQuoteV1 (services : ContractServices) (fragment : ReceiptFragmentV1)
    (quote : List Char) : Except ReceiptParseError FragmentCitationV1 :=
  if quote = [] then .error .citationEmpty
  else if maxCitationBytes < (encode quote).length then .error .citationTooLong
  else match findText quote fragment.text.toList with
    | none => .error .citationNotFound
    | some byteStart =>
      let byteEnd := byteStart + (encode quote).length
      if 2 ^ 32 ≤ byteStart ∨ 2 ^ 32 ≤ byteEnd then .error .citationOutOfRange
      else .ok ⟨fragment.fragmentId, byteStart, byteEnd, services.digest (encode quote)⟩

def verifyCitationV1 (services : ContractServices) (parse : ParsedReceiptEvidenceV1)
    (citation : FragmentCitationV1) : Except ReceiptParseError Unit :=
  match parse.fragments.find? fun fragment => fragment.fragmentId = citation.fragmentId with
  | none => .error .foreignCitation
  | some fragment =>
    let start := citation.byteStart
    let stop := citation.byteEnd
    if start = stop then .error .citationEmpty
    else if stop < start ∨ byteLength fragment.text < stop then .error .citationOutOfRange
    else if maxCitationBytes < stop - start then .error .citationTooLong
    else if ¬ isCharBoundary (utf8Bytes fragment.text) start ∨
        ¬ isCharBoundary (utf8Bytes fragment.text) stop then .error .citationUtf8Boundary
    else if citation.quoteSha256 ≠
        services.digest (bytesBetween (utf8Bytes fragment.text) start stop) then
      .error .citationHashMismatch
    else .ok ()

/-! ## What a good citation is -/

structure FragmentCitationV1.Cites (services : ContractServices) (citation : FragmentCitationV1)
    (fragment : ReceiptFragmentV1) : Prop where
  nonempty : citation.byteStart < citation.byteEnd
  inside : citation.byteEnd ≤ byteLength fragment.text
  bounded : citation.byteEnd - citation.byteStart ≤ 512
  start : isCharBoundary (utf8Bytes fragment.text) citation.byteStart = true
  stop : isCharBoundary (utf8Bytes fragment.text) citation.byteEnd = true
  hash : citation.quoteSha256 =
    services.digest (bytesBetween (utf8Bytes fragment.text) citation.byteStart citation.byteEnd)

variable {services : ContractServices} {parse : ParsedReceiptEvidenceV1}
  {citation : FragmentCitationV1} {fragment : ReceiptFragmentV1}

theorem validateCitation_eq_ok : parse.validateCitation services citation = .ok () ↔
    ∃ fragment, parse.fragment citation.fragmentId = some fragment ∧
      citation.Cites services fragment := by
  rw [ParsedReceiptEvidenceV1.validateCitation]
  rcases parse.fragment citation.fragmentId with _ | fragment
  · simp
  · simp only [check_unless_eq_ok, not_or, not_le, not_lt, not_not, and_true, Option.some.injEq,
      exists_eq_left']
    refine ⟨fun h => ?_, fun h => ⟨⟨h.nonempty, h.inside, h.bounded, h.start, h.stop⟩, h.hash⟩⟩
    obtain ⟨⟨hnonempty, hinside, hbounded, hstart, hstop⟩, hhash⟩ := h
    exact ⟨hnonempty, hinside, hbounded, hstart, hstop, hhash⟩

theorem verifyCitationV1_eq_ok : verifyCitationV1 services parse citation = .ok () ↔
    ∃ fragment, parse.fragment citation.fragmentId = some fragment ∧
      citation.Cites services fragment := by
  rw [verifyCitationV1, ← ParsedReceiptEvidenceV1.fragment]
  rcases parse.fragment citation.fragmentId with _ | fragment
  · simp
  · simp only [check_unless_eq_ok, not_or, not_lt, not_not, and_true, Option.some.injEq,
      exists_eq_left']
    refine ⟨fun h => ?_, fun h => ?_⟩
    · obtain ⟨hne, ⟨hle, hinside⟩, hbounded, ⟨hstart, hstop⟩, hhash⟩ := h
      exact ⟨lt_of_le_of_ne hle hne, hinside, hbounded, hstart, hstop, hhash⟩
    · exact ⟨h.nonempty.ne, ⟨h.nonempty.le, h.inside⟩, h.bounded, ⟨h.start, h.stop⟩, h.hash⟩

theorem citationForQuoteV1_eq_ok {quote : List Char}
    (h : citationForQuoteV1 services fragment quote = .ok citation) :
    quote ≠ [] ∧ (encode quote).length ≤ 512 ∧
      ∃ byteStart, findText quote fragment.text.toList = some byteStart ∧
        citation = ⟨fragment.fragmentId, byteStart, byteStart + (encode quote).length,
          services.digest (encode quote)⟩ := by
  rw [citationForQuoteV1, check_unless_eq_ok, check_unless_eq_ok, not_lt] at h
  obtain ⟨hne, hlen, h⟩ := h
  rcases hfind : findText quote fragment.text.toList with _ | byteStart
  · rw [hfind] at h
    cases h
  · rw [hfind] at h
    obtain ⟨-, hok⟩ := check_unless_eq_ok.mp h
    exact ⟨hne, hlen, byteStart, rfl, (Except.ok.inj hok).symm⟩

theorem length_encode_pos {cs : List Char} (h : cs ≠ []) : 0 < (encode cs).length := by
  rcases cs with _ | ⟨c, rest⟩
  · exact absurd rfl h
  · rw [encode_cons, List.length_append, String.length_utf8EncodeChar]
    exact Nat.add_pos_left c.utf8Size_pos _

theorem cites_of_quote {quote : List Char}
    (h : citationForQuoteV1 services fragment quote = .ok citation) :
    citation.fragmentId = fragment.fragmentId ∧ citation.Cites services fragment ∧
      bytesBetween (utf8Bytes fragment.text) citation.byteStart citation.byteEnd =
        encode quote := by
  obtain ⟨hne, hlen, byteStart, hfind, rfl⟩ := citationForQuoteV1_eq_ok h
  obtain ⟨before, after, htext, rfl⟩ := findText_eq_some hfind
  have hbytes : utf8Bytes fragment.text = encode (before ++ quote ++ after) := by
    rw [utf8Bytes, htext]
  have hspan : bytesBetween (utf8Bytes fragment.text) (encode before).length
      ((encode before).length + (encode quote).length) = encode quote := by
    rw [hbytes, bytesBetween_encode]
  refine ⟨rfl, ⟨?_, ?_, ?_, ?_, ?_, ?_⟩, hspan⟩
  · exact Nat.lt_add_of_pos_right (length_encode_pos hne)
  · rw [← length_utf8Bytes, hbytes, encode_append, encode_append, List.length_append,
      List.length_append]
    exact Nat.le_add_right _ _
  · rw [Nat.add_sub_cancel_left]
    exact hlen
  · -- the quote starts where the text before it ends
    rw [hbytes, List.append_assoc]
    exact isCharBoundary_encode before (quote ++ after)
  · -- and ends where the text after it starts
    have hboundary := isCharBoundary_encode (before ++ quote) after
    rw [encode_append before quote, List.length_append] at hboundary
    rw [hbytes]
    exact hboundary
  · rw [hspan]

/-- **Citations agree across layers**: what is cited from the fragment an id names (in a
valid parse, from any of its fragments) passes both checks and spans exactly the
quote; and the two checks accept the same citations. -/
theorem citation_layers_agree (services : ContractServices) (parse : ParsedReceiptEvidenceV1) :
    (parse.validate services = .ok () →
      ∀ fragment ∈ parse.fragments, parse.fragment fragment.fragmentId = some fragment) ∧
    (∀ fragment quote citation, parse.fragment fragment.fragmentId = some fragment →
      citationForQuoteV1 services fragment quote = .ok citation →
        verifyCitationV1 services parse citation = .ok () ∧
        parse.validateCitation services citation = .ok () ∧
        bytesBetween (utf8Bytes fragment.text) citation.byteStart citation.byteEnd =
          encode quote) ∧
    ∀ citation, verifyCitationV1 services parse citation = .ok () ↔
      parse.validateCitation services citation = .ok () := by
  refine ⟨fun hvalid fragment hmem => ?_, fun fragment quote citation hfragment hcite => ?_,
    fun citation => ?_⟩
  · have hnodup := (ParsedReceiptEvidenceV1.validate_eq_ok.mp hvalid).nodup
    exact ParsedReceiptEvidenceV1.fragment_eq_some hnodup hmem
  · obtain ⟨hid, hcites, hspan⟩ := cites_of_quote hcite
    have hexists : ∃ fragment, parse.fragment citation.fragmentId = some fragment ∧
        citation.Cites services fragment := ⟨fragment, by rw [hid]; exact hfragment, hcites⟩
    exact ⟨verifyCitationV1_eq_ok.mpr hexists, validateCitation_eq_ok.mpr hexists, hspan⟩
  · rw [verifyCitationV1_eq_ok, validateCitation_eq_ok]

end Threadbook
