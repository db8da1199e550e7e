import Threadbook.Errors
import Threadbook.Text
import Threadbook.Fallible

/-!
# Source images

The blob store keeps files under the hashes of their bytes; a source image is a blob that still
has its hash, and decodes to an image of a supported type and size. Decoding is the image
library's; what is checked around it is here. A verified image is within the bounds its readers
store (**`verifySourceImage_bounds`**), and so is the canonical PNG of one
(**`canonicalTryOnPng_bounds`**).
-/

namespace Threadbook

/-! ## Blobs -/

structure BlobFile where
  bytes : List UInt8
  identity : Bool
  isPrivate : Bool

abbrev BlobFiles : Type := String → Option BlobFile

inductive BlobError
  | notFound
  | platform (error : PlatformError)

def BlobError.toPlatform : BlobError → PlatformError
  | notFound => .io .other
  | platform error => error

/-- What is relied on outside: SHA-256 in hexadecimal, and the image library. -/
structure ImageServices where
  digest : List UInt8 → String
  guessFormat : List UInt8 → Option String
  isAnimated : List UInt8 → Option Bool
  dimensions : List UInt8 → Option (ℕ × ℕ)
  encodePng : List UInt8 → Option (List UInt8)

def verifyBlob (services : ImageServices) (files : BlobFiles) (sha256 : String) :
    Except BlobError ℕ :=
  if ¬ isHash sha256 then .error (.platform (.invalidInput "sha256"))
  else match files sha256 with
    | none => .error .notFound
    | some file =>
      if ¬ file.identity then .error (.platform (.corrupt "blob_final_identity"))
      else if ¬ file.isPrivate then .error (.platform (.corrupt "blob_final_permissions"))
      else if services.digest file.bytes ≠ sha256 then
        .error (.platform (.corrupt "blob_final_hash"))
      else .ok file.bytes.length

/-! ## Images -/

inductive PhotoMediaTypeV1
  | imageJpeg
  | imagePng
  | imageWebp
  deriving DecidableEq

def PhotoMediaTypeV1.text : PhotoMediaTypeV1 → String
  | imageJpeg => "image/jpeg"
  | imagePng => "image/png"
  | imageWebp => "image/webp"

inductive PhotoQuarantineReasonV1
  | blobUnavailable
  | blobIntegrityFailed
  | mediaTypeRejected
  | imageDecodeFailed
  | imageAnimated
  | imageDimensionLimit

def maxPhotoArtifactBytes : ℕ := 41943040

def maxPhotoAxis : ℕ := 16384

def maxPhotoPixels : ℕ := 67108864

structure VerifiedSourceImage where
  bytes : List UInt8
  mediaType : PhotoMediaTypeV1
  width : ℕ
  height : ℕ

def stillMediaType (services : ImageServices) (bytes : List UInt8) :
    Except PhotoQuarantineReasonV1 PhotoMediaTypeV1 :=
  match services.guessFormat bytes with
  | some "jpeg" => .ok .imageJpeg
  | some "png" => match services.isAnimated bytes with
    | none => .error .imageDecodeFailed
    | some true => .error .imageAnimated
    | some false => .ok .imagePng
  | some "webp" => match services.isAnimated bytes with
    | none => .error .imageDecodeFailed
    | some true => .error .imageAnimated
    | some false => .ok .imageWebp
  | _ => .error .mediaTypeRejected

def boundedDimensions (services : ImageServices) (bytes : List UInt8) :
    Except PhotoQuarantineReasonV1 (ℕ × ℕ) :=
  match services.dimensions bytes with
  | none => .error .imageDecodeFailed
  | some (width, height) =>
    if width = 0 ∨ height = 0 ∨ maxPhotoAxis < width ∨ maxPhotoAxis < height ∨
        maxPhotoPixels < width * height then .error .imageDimensionLimit
    else .ok (width, height)

def sourceBytes (services : ImageServices) (files : BlobFiles) (sha256 : String)
    (expectedLength : ℕ) : Except PhotoQuarantineReasonV1 (List UInt8) :=
  match verifyBlob services files sha256 with
  | .error .notFound => .error .blobUnavailable
  | .error (.platform _) => .error .blobIntegrityFailed
  | .ok byteLength =>
    if byteLength ≠ expectedLength then .error .blobIntegrityFailed
    else match files sha256 with
      | none => .error .blobUnavailable
      | some file => .ok file.bytes

def verifySourceImage (services : ImageServices) (files : BlobFiles) (sha256 : String)
    (expectedLength : ℕ) : Except PhotoQuarantineReasonV1 VerifiedSourceImage := do
  if expectedLength = 0 ∨ maxPhotoArtifactBytes < expectedLength then
    .error .imageDimensionLimit
  else do
    let bytes ← sourceBytes services files sha256 expectedLength
    let mediaType ← stillMediaType services bytes
    let dimensions ← boundedDimensions services bytes
    .ok ⟨bytes, mediaType, dimensions.1, dimensions.2⟩

section Verified

variable {services : ImageServices} {files : BlobFiles} {sha256 : String} {length : ℕ}
  {image : VerifiedSourceImage}

theorem verifyBlob_eq_ok : verifyBlob services files sha256 = .ok length ↔
    isHash sha256 ∧ ∃ file, files sha256 = some file ∧ file.identity ∧ file.isPrivate ∧
      services.digest file.bytes = sha256 ∧ file.bytes.length = length := by
  unfold verifyBlob
  split
  · rename_i hnot
    simp [hnot]
  · rename_i hhash
    rw [not_not] at hhash
    cases hfile : files sha256 with
    | none => simp
    | some file =>
      simp only [check_unless_eq_ok, not_not, Except.ok.injEq, hhash, true_and,
        Option.some.injEq, exists_eq_left', ne_eq]

theorem sourceBytes_eq_ok {bytes : List UInt8} :
    sourceBytes services files sha256 length = .ok bytes ↔
      verifyBlob services files sha256 = .ok length ∧
        (files sha256).map BlobFile.bytes = some bytes := by
  unfold sourceBytes
  cases hblob : verifyBlob services files sha256 with
  | error e => cases e <;> simp
  | ok byteLength =>
    simp only [check_unless_eq_ok, not_not, Except.ok.injEq, ne_eq]
    refine and_congr_right fun _ => ?_
    cases files sha256 <;> simp

/-- **What a verified image is**: a blob with its hash and length, that decodes. -/
theorem verifySourceImage_eq_ok : verifySourceImage services files sha256 length = .ok image ↔
    (0 < length ∧ length ≤ maxPhotoArtifactBytes) ∧
      sourceBytes services files sha256 length = .ok image.bytes ∧
      stillMediaType services image.bytes = .ok image.mediaType ∧
      boundedDimensions services image.bytes = .ok (image.width, image.height) := by
  rw [verifySourceImage, check_unless_eq_ok, not_or, not_lt, Nat.pos_iff_ne_zero]
  refine and_congr_right fun _ => ?_
  simp only [check_bind_eq_ok, Except.ok.injEq]
  constructor
  · rintro ⟨bytes, hbytes, mediaType, htype, dimensions, hdimensions, rfl⟩
    exact ⟨hbytes, htype, hdimensions⟩
  · rintro ⟨hbytes, htype, hdimensions⟩
    exact ⟨_, hbytes, _, htype, _, hdimensions, rfl⟩

theorem boundedDimensions_eq_ok {bytes : List UInt8} {width height : ℕ} :
    boundedDimensions services bytes = .ok (width, height) ↔
      services.dimensions bytes = some (width, height) ∧ 0 < width ∧ 0 < height ∧
        width ≤ maxPhotoAxis ∧ height ≤ maxPhotoAxis ∧ width * height ≤ maxPhotoPixels := by
  unfold boundedDimensions
  cases hdimensions : services.dimensions bytes with
  | none => simp
  | some dimensions =>
    obtain ⟨w, h⟩ := dimensions
    simp only [check_unless_eq_ok, not_or, not_lt, Except.ok.injEq, Prod.mk.injEq,
      Option.some.injEq, ← Nat.pos_iff_ne_zero]
    constructor
    · rintro ⟨hbounds, rfl, rfl⟩
      exact ⟨⟨rfl, rfl⟩, hbounds⟩
    · rintro ⟨⟨rfl, rfl⟩, hbounds⟩
      exact ⟨hbounds, rfl, rfl⟩

/-- **A verified image** has the length that was asked for, and is within the bounds. -/
theorem verifySourceImage_bounds (h : verifySourceImage services files sha256 length = .ok image) :
    isHash sha256 ∧ image.bytes.length = length ∧ 0 < length ∧ length ≤ maxPhotoArtifactBytes ∧
      0 < image.width ∧ image.width ≤ maxPhotoAxis ∧ 0 < image.height ∧
      image.height ≤ maxPhotoAxis ∧ image.width * image.height ≤ maxPhotoPixels := by
  obtain ⟨⟨hpos, hmax⟩, hbytes, -, hdimensions⟩ := verifySourceImage_eq_ok.mp h
  obtain ⟨hblob, hfile⟩ := sourceBytes_eq_ok.mp hbytes
  obtain ⟨hhash, file, hfound, -, -, -, hlength⟩ := verifyBlob_eq_ok.mp hblob
  rw [hfound] at hfile
  obtain hsame := Option.some.inj hfile
  obtain ⟨-, hwidth, hheight, hwide, hhigh, hpixels⟩ := boundedDimensions_eq_ok.mp hdimensions
  exact ⟨hhash, hsame ▸ hlength, hpos, hmax, hwidth, hwide, hheight, hhigh, hpixels⟩

theorem verifySourceImage_digest (h : verifySourceImage services files sha256 length = .ok image) :
    services.digest image.bytes = sha256 := by
  obtain ⟨-, hbytes, -⟩ := verifySourceImage_eq_ok.mp h
  obtain ⟨hblob, hfile⟩ := sourceBytes_eq_ok.mp hbytes
  obtain ⟨-, file, hfound, -, -, hdigest, -⟩ := verifyBlob_eq_ok.mp hblob
  rw [hfound] at hfile
  exact Option.some.inj hfile ▸ hdigest

end Verified

/-! ## Canonical images -/

def maxTryOnInputBytes : ℕ := 8388608

/-- The widest and highest an image for a try-on may be. -/
def maxTryOnInputAxis : ℕ := 4096

def maxTryOnInputPixels : ℕ := 16777216

/-- An image as it is sent. -/
structure CanonicalTryOnPng where
  bytes : List UInt8
  sha256 : String
  width : ℕ
  height : ℕ

def canonicalTryOnPng (services : ImageServices) (files : BlobFiles) (parentSha256 : String)
    (parentLength : ℕ) : Except PlatformError CanonicalTryOnPng :=
  match verifySourceImage services files parentSha256 parentLength with
  | .error _ => .error (.corrupt "try_on_parent_image")
  | .ok source =>
    if maxTryOnInputAxis < source.width ∨ maxTryOnInputAxis < source.height ∨
        maxTryOnInputPixels < source.width * source.height then
      .error (.invalidInput "try_on_image_dimensions")
    else match services.encodePng source.bytes with
      | none => .error (.corrupt "try_on_image_decode")
      | some bytes =>
        if bytes = [] ∨ maxTryOnInputBytes < bytes.length then
          .error (.invalidInput "try_on_image_size")
        else .ok ⟨bytes, services.digest bytes, source.width, source.height⟩

/-- **A canonical image** is within the bounds of what is sent, and has the hash of its bytes. -/
theorem canonicalTryOnPng_bounds {services : ImageServices} {files : BlobFiles} {sha256 : String}
    {length : ℕ} {image : CanonicalTryOnPng}
    (h : canonicalTryOnPng services files sha256 length = .ok image) :
    image.sha256 = services.digest image.bytes ∧ 0 < image.bytes.length ∧
      image.bytes.length ≤ maxTryOnInputBytes ∧ 0 < image.width ∧
      image.width ≤ maxTryOnInputAxis ∧ 0 < image.height ∧ image.height ≤ maxTryOnInputAxis ∧
      image.width * image.height ≤ maxTryOnInputPixels := by
  unfold canonicalTryOnPng at h
  cases hsource : verifySourceImage services files sha256 length with
  | error e =>
    rw [hsource] at h
    cases h
  | ok source =>
    rw [hsource] at h
    dsimp only at h
    obtain ⟨hbounds, h⟩ := check_unless_eq_ok.mp h
    cases hpng : services.encodePng source.bytes with
    | none =>
      rw [hpng] at h
      cases h
    | some bytes =>
      rw [hpng] at h
      obtain ⟨hsize, hsame⟩ := check_unless_eq_ok.mp h
      cases hsame
      simp only [not_or, not_lt] at hbounds hsize
      obtain ⟨-, -, -, -, hwidth, -, hheight, -⟩ := verifySourceImage_bounds hsource
      exact ⟨rfl, List.length_pos_iff.mpr hsize.1, hsize.2, hwidth, hbounds.1, hheight,
        hbounds.2.1, hbounds.2.2⟩

end Threadbook
