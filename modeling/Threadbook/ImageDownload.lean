import Mathlib.Data.List.Destutter
import Mathlib.Data.List.Sort
import Threadbook.AddressPolicy
import Threadbook.Fallible

/-!
# Downloading a receipt image

One download: a request for the approved address, and one for each redirection that stays
on the approved host, at most three of them. Every request gets a client of its own that
knows the host's addresses beforehand; they were resolved and examined for this request.
-/

namespace Threadbook.ReceiptImage

open Fallible

/-! ## Addresses of resources -/

inductive Host
  | domain (name : String)
  | ipv4 (bits : BitVec 32)
  | ipv6 (bits : BitVec 128)
  deriving DecidableEq

structure Url where
  scheme : String
  username : String
  password : Option String
  host : Option Host
  port : Option ℕ
  target : String
  fragment : Option String

structure UrlLibrary where
  parse : String → Option Url
  join : Url → String → Option Url
  asStr : Url → String

def defaultPort (scheme : String) : Option ℕ :=
  if scheme = "https" ∨ scheme = "wss" then some 443
  else if scheme = "http" ∨ scheme = "ws" then some 80
  else if scheme = "ftp" then some 21
  else none

def Url.portOrKnownDefault (url : Url) : Option ℕ := url.port.or (defaultPort url.scheme)

def Url.withoutFragment (url : Url) : Url := { url with fragment := none }

def isAscii (text : String) : Bool := text.toList.all fun c => c.toNat < 128

def toAsciiLowercase (text : String) : String := String.ofList (text.toList.map Char.toLower)

def trimEndDots (text : String) : String :=
  String.ofList (text.toList.reverse.dropWhile (· == '.')).reverse

/-- A text of the form of an IPv4 address: four numbers below 256 with no leading zeros. -/
def isIpv4Literal (text : String) : Bool :=
  let parts := text.toList.splitOn '.'
  parts.length = 4 && parts.all fun part =>
    0 < part.length && part.length ≤ 3 && part.all isAsciiDigit &&
      (part.length = 1 || part.head? ≠ some '0') &&
      part.foldl (fun n c => n * 10 + (c.toNat - 48)) 0 < 256

def normalizeApprovedHost (value : String) : Except FailureCode String :=
  let normalized := trimEndDots (toAsciiLowercase value)
  -- an IPv6 address has a colon, which is refused anyway
  if normalized = "" ∨ 253 < byteLength normalized ∨ ¬ isAscii normalized ∨
      isIpv4Literal normalized ∨ normalized.toList.any (· ∈ ['/', '@', ':']) then
    .error .hostMismatch
  else .ok normalized

def validateUrl (url : Url) : Except FailureCode Unit :=
  if url.scheme ≠ "https" then .error .schemeRejected
  else if url.username ≠ "" ∨ url.password.isSome then .error .userInfoRejected
  else match url.host with
    | some (.domain _) =>
      if (∃ port ∈ url.port, port ≠ 443) ∨ url.portOrKnownDefault ≠ some 443 then
        .error .portRejected
      else .ok ()
    | some (.ipv4 _) | some (.ipv6 _) => .error .ipLiteralRejected
    | none => .error .invalidUrl

def validateNetworkUrl (library : UrlLibrary) (value : String) : Except FailureCode Url :=
  if 2048 < byteLength value then .error .invalidUrl
  else match library.parse value with
    | none => .error .invalidUrl
    | some url => do
      validateUrl url
      pure url.withoutFragment

def networkHost (url : Url) : Except FailureCode String :=
  match url.host with
  | some (.domain name) =>
    let host := trimEndDots (toAsciiLowercase name)
    if host = "" ∨ 253 < byteLength host ∨ ¬ isAscii host then .error .invalidUrl else .ok host
  | some (.ipv4 _) | some (.ipv6 _) => .error .ipLiteralRejected
  | none => .error .invalidUrl

/-! ## Answers -/

/-- What came next of a body. -/
inductive Chunk
  | bytes (chunk : List UInt8)
  | late
  | broken

structure Response where
  status : ℕ
  headers : List (String × List UInt8)
  body : List Chunk

/-- The answer asks to look elsewhere. -/
def isRedirect (status : ℕ) : Bool := status ∈ [301, 302, 303, 307, 308]

def maxReceiptImageHeaders : ℕ := 64

def maxReceiptImageHeaderBytes : ℕ := 16 * 1024

def maxReceiptImageEncodedBytes : ℕ := 8 * 1024 * 1024

/-- Neither too many headers nor too long ones. -/
def ensureHeaderBounds (headers : List (String × List UInt8)) : Except FailureCode Unit :=
  if maxReceiptImageHeaders < headers.length ∨ maxReceiptImageHeaderBytes <
      (headers.map fun header => byteLength header.1 + header.2.length).sum then
    .error .headerLimit
  else .ok ()

def headerText (value : List UInt8) : Option String :=
  if value.all fun b => (32 ≤ b && b < 127) || b == 9 then
    some (String.ofList (value.map fun b => Char.ofNat b.toNat))
  else none

def singleBoundedHeader (headers : List (String × List UInt8)) (name : String) (maxBytes : ℕ) :
    Except FailureCode (Option String) :=
  match headers.filter fun header => header.1 = name with
  | [] => .ok none
  | [(_, value)] =>
    if maxBytes < value.length then .error .headerLimit
    else match headerText value with
      | some text => .ok (some text)
      | none => .error .headerLimit
  | _ => .error .headerLimit

def parseU64 (text : String) : Option ℕ :=
  let value := text.toList.foldl (fun n c => n * 10 + (c.toNat - 48)) 0
  if text ≠ "" ∧ text.toList.all isAsciiDigit ∧ value < 2 ^ 64 then some value else none

def parseContentLength (headers : List (String × List UInt8)) : Except FailureCode (Option ℕ) :=
  match singleBoundedHeader headers "content-length" 32 with
  | .error _ => .error .contentLengthRejected
  | .ok none => .ok none
  | .ok (some text) =>
    match parseU64 text with
    | some length => .ok (some length)
    | none => .error .contentLengthRejected

def trim (text : List Char) : List Char :=
  ((text.dropWhile isWhitespace).reverse.dropWhile isWhitespace).reverse

def parseMediaType (headers : List (String × List UInt8)) : Except FailureCode String :=
  match singleBoundedHeader headers "content-type" 128 with
  | .error code => .error code
  | .ok none => .error .mediaTypeRejected
  | .ok (some value) =>
    let mediaType := toAsciiLowercase (String.ofList (trim (value.toList.takeWhile (· ≠ ';'))))
    if mediaType ∈ ["image/jpeg", "image/png", "image/webp"] then .ok mediaType
    else .error .mediaTypeRejected

def readBody (received : List UInt8) : List Chunk → Except FailureCode (List UInt8)
  | [] => .ok received
  | .late :: _ => .error .deadlineExceeded
  | .broken :: _ => .error .transportFailed
  | .bytes chunk :: rest =>
    if maxReceiptImageEncodedBytes < received.length + chunk.length then .error .bodyLimit
    else readBody (received ++ chunk) rest

/-! ## Decoding -/

structure DecodedImage where
  width : ℕ
  height : ℕ
  rgba : List UInt8

/-- How decoding ended. -/
inductive WorkerOutcome
  | done
  | late
  | lost

structure Codecs where
  decode : ImageFormat → List UInt8 → Option DecodedImage
  encodePng : DecodedImage → Option (List UInt8)

def maxReceiptImageDerivativeBytes : ℕ := 68 * 1024 * 1024

def decodeAndDeriveBlocking (codecs : Codecs) (source : List UInt8) (format : ImageFormat) :
    Except FailureCode (List UInt8 × ℕ × ℕ) :=
  match codecs.decode format source with
  | none => .error .decodeFailed
  | some image =>
    if ¬ (32 ≤ image.width ∧ image.width ≤ 4096) ∨ ¬ (32 ≤ image.height ∧ image.height ≤ 4096) ∨
        16777216 < image.width * image.height ∨
        64 * 1024 * 1024 < image.width * image.height * 4 then .error .dimensionsRejected
    else match codecs.encodePng image with
      | none => .error .derivativeLimit
      | some output =>
        if maxReceiptImageDerivativeBytes < output.length then .error .derivativeLimit
        else .ok (output, image.width, image.height)

def decodeAndDerive (codecs : Codecs) (worker : WorkerOutcome) (source : List UInt8)
    (format : ImageFormat) : Except FailureCode (List UInt8 × ℕ × ℕ) :=
  match worker with
  | .done => decodeAndDeriveBlocking codecs source format
  | .late => .error .deadlineExceeded
  | .lost => .error .blockingTaskFailed

/-! ## Downloading -/

structure Client where
  host : String
  addresses : List SocketAddr

structure Request where
  client : Client
  url : Url

structure HopProvenance where
  ordinal : ℕ
  hostSha256 : String
  urlSha256 : String
  pinnedAddresses : List IpAddr
  httpStatus : ℕ

structure Download where
  sourceBytes : List UInt8
  sourceSha256 : String
  sourceMediaType : String
  displayPngBytes : List UInt8
  displaySha256 : String
  width : ℕ
  height : ℕ
  finalUrlSha256 : String
  declaredLength : Option ℕ
  hops : List HopProvenance
  policyRevision : String
  decoderRevision : String
  derivativeRevision : String

structure HopOutside where
  startsAt : ℤ
  lookup : String → Option (Except FailureCode (List SocketAddr))
  resolvedAt : ℤ
  remainingAt : ℤ
  builds : Bool
  builtAt : ℤ
  respond : Request → Option (Option Response)

structure Outside where
  library : UrlLibrary
  codecs : Codecs
  sha256 : List UInt8 → String
  enteredAt : ℤ
  hop : ℕ → HopOutside
  budget : ℕ
  worker : WorkerOutcome

def maxReceiptImageRedirects : ℕ := 3

def ensureBeforeDeadline (now deadline : ℤ) : Except FailureCode Unit :=
  if now < deadline then .ok () else .error .deadlineExceeded

def sortedAddresses (addresses : List SocketAddr) : List SocketAddr :=
  (addresses.insertionSort fun left right => left.rank ≤ right.rank).destutter (· ≠ ·)

def resolve (hop : HopOutside) (host : String) : Except FailureCode (List SocketAddr) :=
  match hop.lookup host with
  | none => .error .deadlineExceeded
  | some (.error code) => .error code
  | some (.ok addresses) =>
    if addresses.isEmpty ∨ maxReceiptImageDnsAnswers < addresses.length then .error .dnsAnswerLimit
    else match validateAddresses addresses with
      | .error code => .error code
      | .ok _ => .ok (sortedAddresses addresses)

def buildClient (hop : HopOutside) (approvedHost : String) (deadline : ℤ) (current : Url) :
    Except FailureCode Client := do
  ensureBeforeDeadline hop.startsAt deadline
  let host ← networkHost current
  if host ≠ approvedHost then .error .redirectCrossHost
  else do
    let addresses ← resolve hop host
    ensureBeforeDeadline hop.resolvedAt deadline
    if deadline < hop.remainingAt then .error .deadlineExceeded
    else if hop.builds = false then .error .clientBuildFailed
    else do
      ensureBeforeDeadline hop.builtAt deadline
      pure ⟨host, addresses⟩

abbrev Downloading (α : Type) : Type := Fallible (List Request) FailureCode α

def send (hop : HopOutside) (request : Request) : Downloading Response := do
  update (· ++ [request])
  match hop.respond request with
  | none => fail .deadlineExceeded
  | some none => fail .transportFailed
  | some (some response) => do
    check (ensureHeaderBounds response.headers)
    pure response

/-- Where an answer leads, if that may be followed. -/
def redirectTarget (library : UrlLibrary) (approvedHost : String) (current : Url)
    (response : Response) : Except FailureCode Url := do
  let location ← singleBoundedHeader response.headers "location" 2048
  match location.bind (library.join current) with
  | none => .error .redirectLocationRejected
  | some joined => do
    let next := joined.withoutFragment
    let _ ← validateNetworkUrl library (library.asStr next)
    let host ← networkHost next
    if host ≠ approvedHost then .error .redirectCrossHost else pure next

def receive (outside : Outside) (current : Url) (hops : List HopProvenance)
    (response : Response) : Except FailureCode Download :=
  if response.status ≠ 200 then .error .httpStatusRejected
  else do
    let mediaType ← parseMediaType response.headers
    let declaredLength ← parseContentLength response.headers
    if ∃ length ∈ declaredLength, maxReceiptImageEncodedBytes < length then .error .bodyLimit
    else do
      let sourceBytes ← readBody [] response.body
      if ∃ length ∈ declaredLength, length ≠ sourceBytes.length then .error .contentLengthRejected
      else do
        let format ← detectAndMatchFormat sourceBytes mediaType
        validateImageStructure sourceBytes format outside.budget
        let (displayPngBytes, width, height) ←
          decodeAndDerive outside.codecs outside.worker sourceBytes format
        pure {
          sourceBytes := sourceBytes
          sourceSha256 := outside.sha256 sourceBytes
          sourceMediaType := mediaType
          displayPngBytes := displayPngBytes
          displaySha256 := outside.sha256 displayPngBytes
          width := width
          height := height
          finalUrlSha256 := outside.sha256 (utf8Bytes (outside.library.asStr current))
          declaredLength := declaredLength
          hops := hops
          policyRevision := "receipt-image-network-policy-v1"
          decoderRevision := "image-0.25.10-v1"
          derivativeRevision := "png-rgba8-best-paeth-v1" }

/-- One hop after the other; `left` redirections may still be followed. -/
def follow (outside : Outside) (approvedHost : String) (deadline : ℤ) :
    ℕ → Url → List HopProvenance → Downloading Download
  | left, current, hops => do
    let hop := outside.hop hops.length
    let client ← check (buildClient hop approvedHost deadline current)
    let response ← send hop ⟨client, current⟩
    -- four hops at most, so the ordinal fits into its byte
    let hops := hops ++ [{
      ordinal := hops.length
      hostSha256 := outside.sha256 (utf8Bytes client.host)
      urlSha256 := outside.sha256 (utf8Bytes (outside.library.asStr current))
      pinnedAddresses := client.addresses.map (·.ip)
      httpStatus := response.status }]
    if isRedirect response.status then
      match left with
      | 0 => fail .redirectLimit
      | left + 1 => do
        let next ← check (redirectTarget outside.library approvedHost current response)
        follow outside approvedHost deadline left next hops
    else check (receive outside current hops response)

def approve (outside : Outside) (normalizedUrl approvedDisplayHost : String) (deadline : ℤ) :
    Except FailureCode (String × Url) := do
  ensureBeforeDeadline outside.enteredAt deadline
  let approvedHost ← normalizeApprovedHost approvedDisplayHost
  let current ← validateNetworkUrl outside.library normalizedUrl
  let host ← networkHost current
  if host ≠ approvedHost then .error .hostMismatch else pure (approvedHost, current)

def downloadWithDeadline (outside : Outside) (normalizedUrl approvedDisplayHost : String)
    (deadline : ℤ) : Downloading Download := do
  let (approvedHost, current) ←
    check (approve outside normalizedUrl approvedDisplayHost deadline)
  follow outside approvedHost deadline maxReceiptImageRedirects current []

end Threadbook.ReceiptImage
