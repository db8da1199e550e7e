import Threadbook.ReceiptSanitizer

/-!
# The receipt parser

From a raw mail to a parse: the limits on its parts, the fragments made of texts, of
sanitized HTML, of attachments and of referenced parts, their stable ids and the check
of the result against the contract. The mail parser, the HTML tokenizer and the address
parser are parameters.
-/

namespace Threadbook

/-! ## What the parser relies on -/

/-- The body of a part of a mail. Binary parts, attached messages and the like are
`binary`. -/
inductive PartType
  | text (text : List Char)
  | html (html : List Char)
  | multipart (children : List ℕ)
  | binary

/-- A part of a mail as the mail parser gives it. -/
structure MessagePart where
  offsetHeader : ℕ
  offsetBody : ℕ
  contentType : Option (List Char × Option (List Char))
  contentDisposition : Option (List Char)
  attachmentName : Option (List Char)
  contentId : Option (List Char)
  contents : List UInt8
  body : PartType

/-- What the parser relies on: the mail parser, the tokens the HTML tokenizer delivers
(none when input is left over) and whether an address is one of the web. -/
structure ParserServices extends ContractServices where
  parseMail : List UInt8 → Option (List MessagePart)
  tokenize : List Char → Option (List Token)
  isRemoteHttpSource : List Char → Bool

/-- The parser's bounds. -/
def maxRawMessageBytes : ℕ := 25 * 1024 * 1024

@[inherit_doc maxRawMessageBytes]
def maxMimeParts : ℕ := 200

@[inherit_doc maxRawMessageBytes]
def maxFragmentBytes : ℕ := 32 * 1024

/-! ## Headers and parts -/

def offsetBehind (mark : List UInt8) : List UInt8 → Option ℕ
  | [] => none
  | b :: rest =>
    if mark.isPrefixOf (b :: rest) then some mark.length
    else (offsetBehind mark rest).map (1 + ·)

def headerEnd (bytes : List UInt8) : Option ℕ :=
  match offsetBehind [13, 10, 13, 10] bytes with
  | some offset => some offset
  | none => offsetBehind [10, 10] bytes

def normalizedContentType (part : MessagePart) : List Char :=
  let contentType := match part.contentType with
    | some (type, subtype) =>
      toAsciiLowercase type ++ '/' :: toAsciiLowercase (subtype.getD "octet-stream".toList)
    | none =>
      match part.body with
      | .text _ => "text/plain".toList
      | .html _ => "text/html".toList
      | .multipart _ => "multipart/mixed".toList
      | .binary => "application/octet-stream".toList
  if isBoundedMetadata contentType maxReceiptAttributeChars then contentType
  else "application/octet-stream".toList

def safeFilename (value : List Char) : Option String :=
  let basename := trimChars (value.rtakeWhile fun c => c != '/' && c != '\\')
  let sanitized := (basename.filter fun c => !isControl c).take 255
  if sanitized ≠ [] ∧ sanitized ≠ ['.'] ∧ sanitized ≠ ['.', '.'] then
    some (String.ofList sanitized)
  else none

def keptDisposition (part : MessagePart) : Option String := do
  let disposition := toAsciiLowercase (← part.contentDisposition)
  if isBoundedMetadata disposition maxReceiptMetadataChars then some (String.ofList disposition)
  else none

structure KeptHeaders where
  contentType : String
  disposition : Option String
  filename : Option String
  contentId : Option String

def keptHeaders (part : MessagePart) : KeptHeaders where
  contentType := String.ofList (normalizedContentType part)
  disposition := keptDisposition part
  filename := part.attachmentName.bind safeFilename
  contentId := part.contentId.bind safeContentId

def KeptHeaders.isAttachment (headers : KeptHeaders) : Bool :=
  headers.disposition == some "attachment" || headers.filename.isSome

/-! ## Texts -/

def stableUuid (services : ContractServices) (space input : String) : ReceiptUuidId :=
  digestUuid 4 (services.digest (utf8Bytes (space ++ ":" ++ input)))

structure FragmentAssembly where
  fragmentId : ReceiptFragmentId
  kind : ReceiptFragmentKindV1
  text : String
  metadata : Option ReceiptFragmentMetadataV1

structure Push where
  partOrdinal : ℕ
  chunkOrdinal : ℕ
  kind : ReceiptFragmentKindV1
  content : List Char
  metadata : Option ReceiptFragmentMetadataV1

def Push.fragmentId (services : ContractServices) (sourceId : SourceId) (rawBlobSha256 : String)
    (push : Push) : ReceiptFragmentId :=
  stableUuid services "receipt-fragment"
    (":".intercalate [sourceId.text, rawBlobSha256, toString push.partOrdinal,
      toString push.chunkOrdinal, push.kind.canonicalName, services.digest (encode push.content)])

structure AssemblyState where
  decodedTotal : ℕ
  fragments : List FragmentAssembly
  fragmentTotal : ℕ

def pushFragment (services : ContractServices) (sourceId : SourceId) (rawBlobSha256 : String)
    (state : AssemblyState) (push : Push) : Except ReceiptParseError AssemblyState :=
  if push.content = [] then .ok state
  else if maxFragmentBytes < (encode push.content).length then .error .fragmentLimit
  else if maxMimeParts ≤ state.fragments.length then .error .fragmentLimit
  else
    let fragmentTotal := state.fragmentTotal + (encode push.content).length
    if maxFragmentTotalBytes < fragmentTotal then .error .fragmentTotalLimit
    else .ok { state with
      fragmentTotal := fragmentTotal
      fragments := state.fragments ++
        [⟨push.fragmentId services sourceId rawBlobSha256, push.kind, String.ofList push.content,
          push.metadata⟩] }

def describedFields (services : ContractServices) (headers : KeptHeaders)
    (contents : List UInt8) : List (List Char) :=
  ["content_type=" ++ headers.contentType,
    "disposition=" ++ headers.disposition.getD "unspecified"].map String.toList ++
    (headers.filename.toList.map fun filename => ("filename=" ++ filename).toList) ++
    (headers.contentId.toList.map fun contentId => ("content_id=" ++ contentId).toList) ++
    ["decoded_length=" ++ toString contents.length,
      "content_sha256=" ++ services.digest contents].map String.toList

def describedMetadata (services : ContractServices) (headers : KeptHeaders)
    (contents : List UInt8) : ReceiptFragmentMetadataV1 :=
  ⟨headers.contentType, headers.disposition, headers.filename, headers.contentId,
    some contents.length, some (services.digest contents)⟩

def attachmentMetadata (services : ContractServices) (headers : KeptHeaders)
    (part : MessagePart) (partOrdinal : ℕ) : Push :=
  ⟨partOrdinal, 0, .attachmentMetadata,
    ['\n'].intercalate (describedFields services headers part.contents),
    some (describedMetadata services headers part.contents)⟩

def cidMetadata (services : ContractServices) (headers : KeptHeaders) (part : MessagePart)
    (partOrdinal : ℕ) : Push :=
  ⟨partOrdinal, 0, .cidMetadata, ['\n'].intercalate (describedFields services headers part.contents),
    some (describedMetadata services headers part.contents)⟩

def sanitizeHtmlV1 (services : ParserServices) (html : List Char) :
    Except ReceiptParseError SanitizedHtmlV1 :=
  match services.tokenize html with
  | none => .error .htmlTokenizeFailed
  | some tokens => (processTokens services.isRemoteHttpSource tokens).finish

def aggregateHeaders : List MessagePart → Option ℕ
  | [] => some 0
  | part :: rest =>
    if part.offsetBody < part.offsetHeader then none
    else (aggregateHeaders rest).map (part.offsetBody - part.offsetHeader + ·)

end Threadbook
