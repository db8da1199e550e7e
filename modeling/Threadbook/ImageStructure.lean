import Threadbook.Text

/-!
# The structure of downloaded images

Before an image is decoded, its container is walked through: segments of a JPEG image,
chunks of a PNG or a WebP image. Each walk looks at the clock again and again; its
`budget` counts the looks that come before the deadline.
-/

namespace Threadbook.ReceiptImage

/-- Why an image was not downloaded. -/
inductive FailureCode
  | deadlineExceeded
  | invalidUrl
  | schemeRejected
  | userInfoRejected
  | ipLiteralRejected
  | portRejected
  | hostMismatch
  | dnsFailed
  | dnsAnswerLimit
  | addressRejected
  | clientBuildFailed
  | transportFailed
  | redirectLocationRejected
  | redirectCrossHost
  | redirectLimit
  | httpStatusRejected
  | headerLimit
  | contentLengthRejected
  | bodyLimit
  | mediaTypeRejected
  | magicMismatch
  | structureRejected
  | dimensionsRejected
  | decodeFailed
  | derivativeLimit
  | blockingTaskFailed

inductive ImageFormat
  | jpeg
  | png
  | webP

/-! ## Reading bytes -/

def slice (bytes : List UInt8) (start stop : ℕ) : Option (List UInt8) :=
  if start ≤ stop ∧ stop ≤ bytes.length then some ((bytes.drop start).take (stop - start))
  else none

/-- A number, the first byte counting most. -/
def fromBeBytes (bytes : List UInt8) : ℕ := bytes.foldl (fun n b => n * 256 + b.toNat) 0

/-- A number, the last byte counting most. -/
def fromLeBytes (bytes : List UInt8) : ℕ := fromBeBytes bytes.reverse

def readBytes (bytes : List UInt8) (offset size : ℕ) : Except FailureCode (List UInt8) :=
  match slice bytes offset (offset + size) with
  | some value => .ok value
  | none => .error .structureRejected

/-- A big-endian number of two bytes. -/
def readBeU16 (bytes : List UInt8) (offset : ℕ) : Except FailureCode ℕ :=
  (readBytes bytes offset 2).map fromBeBytes

/-- A big-endian number of four bytes. -/
def readBeU32 (bytes : List UInt8) (offset : ℕ) : Except FailureCode ℕ :=
  (readBytes bytes offset 4).map fromBeBytes

/-- A little-endian number of four bytes. -/
def readLeU32 (bytes : List UInt8) (offset : ℕ) : Except FailureCode ℕ :=
  (readBytes bytes offset 4).map fromLeBytes

def ascii (text : String) : List UInt8 := text.toList.map fun c => c.toNat.toUInt8

def pngMagic : List UInt8 := [0x89, 0x50, 0x4e, 0x47, 0x0d, 0x0a, 0x1a, 0x0a]

def isWebp (bytes : List UInt8) : Bool :=
  12 ≤ bytes.length && bytes.take 4 == ascii "RIFF" &&
    (bytes.drop 8).take 4 == ascii "WEBP"

/-! ## JPEG -/

inductive JpegMode
  | segment
  | scan

def skipFill (bytes : List UInt8) (offset : ℕ) : ℕ :=
  offset + ((bytes.drop offset).takeWhile (· == 0xff)).length

def isRestart (marker : UInt8) : Bool := 0xd0 ≤ marker && marker ≤ 0xd7

/-- A start of frame. -/
def isSof (marker : UInt8) : Bool :=
  marker ∈ [0xc0, 0xc1, 0xc2, 0xc3, 0xc5, 0xc6, 0xc7, 0xc9, 0xca, 0xcb, 0xcd, 0xce, 0xcf]

def jpegSegmentEnd (bytes : List UInt8) (offset : ℕ) (marker : UInt8) :
    Except FailureCode ℕ := do
  let length ← readBeU16 bytes offset
  if length < 2 ∨ bytes.length < offset + length then .error .structureRejected
  else if marker = 0xe2 ∧ ((slice bytes (offset + 2) (offset + length)).any
      fun payload => (ascii "MPF").isPrefixOf payload && payload[3]? == some 0) then
    .error .structureRejected
  else .ok (offset + length)

def jpegFrom (bytes : List UInt8) : ℕ → JpegMode → ℕ → Bool → Bool → Except FailureCode Unit
  | 0, .segment, offset, _, _ =>
    if offset < bytes.length then .error .deadlineExceeded else .error .structureRejected
  | 0, .scan, _, _, _ => .error .deadlineExceeded
  | budget + 1, .segment, offset, sawSof, sawSos =>
    if offset < bytes.length ∧ bytes[offset]? = some 0xff then
      let markerAt := skipFill bytes offset
      match bytes[markerAt]? with
      | none => .error .structureRejected
      | some marker =>
        if marker = 0xd9 then
          if sawSof ∧ sawSos ∧ markerAt + 1 = bytes.length then .ok ()
          else .error .structureRejected
        else if marker = 0xd8 ∨ marker = 0x00 ∨ isRestart marker then .error .structureRejected
        else match jpegSegmentEnd bytes (markerAt + 1) marker with
          | .error code => .error code
          | .ok segmentEnd =>
            if isSof marker ∧ sawSof then .error .structureRejected
            else if marker = 0xda then jpegFrom bytes budget .scan segmentEnd sawSof true
            else jpegFrom bytes budget .segment segmentEnd (sawSof || isSof marker) sawSos
    else .error .structureRejected
  | budget + 1, .scan, offset, sawSof, sawSos =>
    match bytes[offset]? with
    | none => .error .structureRejected
    | some byte =>
      if byte ≠ 0xff then jpegFrom bytes budget .scan (offset + 1) sawSof sawSos
      else
        let next := skipFill bytes (offset + 1)
        match bytes[next]? with
        | none => .error .structureRejected
        | some marker =>
          if marker = 0x00 ∨ isRestart marker then
            jpegFrom bytes budget .scan (next + 1) sawSof sawSos
          else jpegFrom bytes budget .segment offset sawSof sawSos

def validateJpeg (bytes : List UInt8) (budget : ℕ) : Except FailureCode Unit :=
  if bytes.length < 4 ∨ bytes.take 2 ≠ [0xff, 0xd8] then .error .structureRejected
  else jpegFrom bytes budget .segment 2 false false

/-! ## PNG -/

def pngCrc32 (bytes : List UInt8) : UInt32 :=
  let shift (crc : UInt32) : UInt32 := (crc >>> 1) ^^^ (0xedb88320 &&& (0 - (crc &&& 1)))
  ~~~ (bytes.foldl (fun crc byte => shift^[8] (crc ^^^ byte.toUInt32)) 0xffffffff)

structure PngChunk where
  kind : List UInt8
  length : ℕ
  stop : ℕ

def readPngChunk (bytes : List UInt8) (offset : ℕ) : Except FailureCode PngChunk := do
  let length ← readBeU32 bytes offset
  let dataEnd := offset + 8 + length
  if bytes.length < dataEnd + 4 then .error .structureRejected
  else do
    let kind ← readBytes bytes (offset + 4) 4
    let covered ← readBytes bytes (offset + 4) (4 + length)
    let expectedCrc ← readBeU32 bytes dataEnd
    if (pngCrc32 covered).toNat ≠ expectedCrc then .error .structureRejected
    else .ok ⟨kind, length, dataEnd + 4⟩

/-- Walk through the chunks of a PNG image; `chunks` were seen before. -/
def pngFrom (bytes : List UInt8) : ℕ → ℕ → ℕ → Bool → Bool → Except FailureCode Unit
  | 0, offset, _, _, _ =>
    if offset < bytes.length then .error .deadlineExceeded else .error .structureRejected
  | budget + 1, offset, chunks, sawIdat, idatEnded =>
    if bytes.length ≤ offset ∨ 4096 < chunks + 1 then .error .structureRejected
    else match readPngChunk bytes offset with
      | .error code => .error code
      | .ok chunk =>
        -- the header is the first chunk and no other
        if (chunks = 0 ∧ (chunk.kind ≠ ascii "IHDR" ∨ chunk.length ≠ 13)) ∨
            (chunks ≠ 0 ∧ chunk.kind = ascii "IHDR") then .error .structureRejected
        else if chunk.kind ∈ [ascii "acTL", ascii "fcTL", ascii "fdAT"] then
          .error .structureRejected
        else if chunk.kind = ascii "IDAT" then
          if idatEnded then .error .structureRejected
          else pngFrom bytes budget chunk.stop (chunks + 1) true idatEnded
        else if chunk.kind = ascii "IEND" then
          if sawIdat ∧ chunk.length = 0 ∧ chunk.stop = bytes.length then .ok ()
          else .error .structureRejected
        else pngFrom bytes budget chunk.stop (chunks + 1) sawIdat (idatEnded || sawIdat)

def validatePng (bytes : List UInt8) (budget : ℕ) : Except FailureCode Unit :=
  if bytes.take 8 ≠ pngMagic then .error .structureRejected
  else pngFrom bytes budget 8 0 false false

/-! ## WebP -/

def webpFrom (bytes : List UInt8) : ℕ → ℕ → ℕ → ℕ → Bool → Except FailureCode Unit
  | 0, offset, _, imagePayloads, _ =>
    if offset < bytes.length then .error .deadlineExceeded
    else if offset = bytes.length ∧ imagePayloads = 1 then .ok ()
    else .error .structureRejected
  | budget + 1, offset, chunks, imagePayloads, vp8x =>
    if bytes.length ≤ offset then
      if offset = bytes.length ∧ imagePayloads = 1 then .ok () else .error .structureRejected
    else if 4096 < chunks + 1 ∨ bytes.length < offset + 8 then .error .structureRejected
    else match readBytes bytes offset 4, readLeU32 bytes (offset + 4) with
      | .ok kind, .ok length =>
        let dataStart := offset + 8
        let next := dataStart + length + length % 2
        if bytes.length < dataStart + length ∨ kind ∈ [ascii "ANIM", ascii "ANMF"] then
          .error .structureRejected
        else if kind = ascii "VP8X" ∧ (vp8x ∨ length ≠ 10 ∨
            (bytes[dataStart]?.any fun flags => flags &&& 0x02 ≠ 0)) then
          .error .structureRejected
        else if kind ∈ [ascii "VP8 ", ascii "VP8L"] ∧ 1 < imagePayloads + 1 then
          .error .structureRejected
        else if bytes.length < next then .error .structureRejected
        else webpFrom bytes budget next (chunks + 1)
          (if kind ∈ [ascii "VP8 ", ascii "VP8L"] then imagePayloads + 1 else imagePayloads)
          (vp8x || kind = ascii "VP8X")
      | _, _ => .error .structureRejected

def validateWebp (bytes : List UInt8) (budget : ℕ) : Except FailureCode Unit :=
  if isWebp bytes then
    match readLeU32 bytes 4 with
    | .ok riffSize =>
      if riffSize + 8 ≠ bytes.length then .error .structureRejected
      else webpFrom bytes budget 12 0 0 false
    | .error code => .error code
  else .error .structureRejected

/-! ## All formats -/

def validateImageStructure (bytes : List UInt8) (format : ImageFormat) (budget : ℕ) :
    Except FailureCode Unit :=
  match format with
  | .jpeg => validateJpeg bytes budget
  | .png => validatePng bytes budget
  | .webP => validateWebp bytes budget

def detectAndMatchFormat (bytes : List UInt8) (mediaType : String) :
    Except FailureCode ImageFormat :=
  if bytes.take 2 = [0xff, 0xd8] then
    if mediaType = "image/jpeg" then .ok .jpeg else .error .magicMismatch
  else if bytes.take 8 = pngMagic then
    if mediaType = "image/png" then .ok .png else .error .magicMismatch
  else if isWebp bytes then
    if mediaType = "image/webp" then .ok .webP else .error .magicMismatch
  else .error .magicMismatch

end Threadbook.ReceiptImage
