import Threadbook.BigEndian
import Threadbook.JsonText
import Threadbook.UpdateCompatibility

/-!
# Update packages

A package is a header (a mark and three lengths), a manifest in JSON, a signature and an artifact.
`encodeUpdatePackage` writes one; `verifyFile` reads one from the first byte to the last, trusts
the key that the manifest names if it is one of the stager's, and decides whether the release fits
what is installed.
-/

namespace Threadbook.Update

open Fallible

/-! ## Contract -/

def packageMagic : List UInt8 := utf8Bytes "WDU1"

def headerLength : ℕ := 4 + 4 + 2 + 8

def signatureLength : ℕ := 64

def maxManifestBytes : ℕ := 64 * 1024

def domainSeparator : List UInt8 := utf8Bytes "WardrobeUpdateManifestV1" ++ [0]

def artifactChunkBytes : ℕ := 64 * 1024

inductive UpdateArtifactKindV1
  | macosApplicationArchive

/-- A manifest with the artifact it is about. Its numbers are those of the program's types. -/
structure UpdateManifest extends UpdateManifestV1 where
  artifactKind : UpdateArtifactKindV1
  artifactSha256 : Sha256Digest
  schemaVersion_lt : schemaVersion < 2 ^ 8
  releaseSequence_lt : releaseSequence < 2 ^ 64
  artifactLength_lt : artifactLength < 2 ^ 64
  acceptedDatabases_lt : ∀ lineage ∈ acceptedDatabases, lineage.schemaVersion < 2 ^ 32
  targetDatabaseSchemaVersion_lt : targetDatabaseSchemaVersion < 2 ^ 32
  requiredBackupFormatVersion_lt : requiredBackupFormatVersion < 2 ^ 8
  requiredAssetManifestVersion_lt : requiredAssetManifestVersion < 2 ^ 8

structure UpdateTrustKey where
  keyId : String
  publicKey : List UInt8
  minimumReleaseSequence : ℕ
  maximumReleaseSequence : ℕ

structure TrustedUpdateRuntimeContext where
  applicationId : String
  channel : UpdateChannelV1
  applicationVersion : String
  installedReleaseSequence : ℕ
  operatingSystem : UpdateOperatingSystemV1
  architecture : UpdateArchitectureV1
  macosVersion : String
  database : AcceptedDatabaseLineageV1
  supportedBackupFormatVersion : ℕ
  supportedAssetManifestVersion : ℕ

def UpdateTrustKey.range (self : UpdateTrustKey) : UpdateSigningKeyRangeV1 :=
  ⟨self.keyId, self.minimumReleaseSequence, self.maximumReleaseSequence⟩

def TrustedUpdateRuntimeContext.compatibilityFor (self : TrustedUpdateRuntimeContext)
    (key : UpdateTrustKey) : UpdateCompatibilityContext where
  applicationId := self.applicationId
  channel := self.channel
  applicationVersion := self.applicationVersion
  installedReleaseSequence := self.installedReleaseSequence
  operatingSystem := self.operatingSystem
  architecture := self.architecture
  macosVersion := self.macosVersion
  database := self.database
  supportedBackupFormatVersion := self.supportedBackupFormatVersion
  supportedAssetManifestVersion := self.supportedAssetManifestVersion
  signingKey := key.range

/-- Why a package is refused; `panicked` is a stop of the program with a message. -/
inductive UpdatePackageError
  | conflict (code : String)
  | incompatible (reason : UpdateCompatibilityFailureV1)
  | invalid (code : String)
  | platform (error : PlatformError)
  | publicationOutcomeUnknown
  | signatureInvalid
  | panicked (message : String)
  deriving DecidableEq

abbrev UpdatePackageResult (α : Type) : Type := Except UpdatePackageError α

/-- The libraries that packages rest on: a JSON reader, SHA-256 and Ed25519. -/
structure UpdateServices where
  fromSlice : List UInt8 → Option UpdateManifest
  digest : List UInt8 → Sha256Digest
  verify : (publicKey message signature : List UInt8) → Bool

/-! ## Manifests in JSON -/

def UpdateChannelV1.name : UpdateChannelV1 → String
  | .personal => "personal"
  | .development => "development"

def UpdateOperatingSystemV1.name : UpdateOperatingSystemV1 → String
  | .macos => "macos"
  | .linux => "linux"
  | .windows => "windows"

def UpdateArchitectureV1.name : UpdateArchitectureV1 → String
  | .aarch64 => "aarch64"
  | .x86_64 => "x86_64"

def UpdateArtifactKindV1.name : UpdateArtifactKindV1 → String
  | .macosApplicationArchive => "macos_application_archive"

def AcceptedDatabaseLineageV1.tokens (self : AcceptedDatabaseLineageV1) : List JsonToken :=
  jsonObject [("schema_version", [.number self.schemaVersion]),
    ("migration_prefix_sha256", [.string self.migrationPrefixSha256.text])]

def UpdateManifest.tokens (self : UpdateManifest) : List JsonToken :=
  jsonObject [("schema_version", [.number self.schemaVersion]),
    ("application_id", [.string self.applicationId]),
    ("channel", [.string self.channel.name]),
    ("key_id", [.string self.keyId]),
    ("release_id", [.string self.releaseId]),
    ("release_sequence", [.number self.releaseSequence]),
    ("target_version", [.string self.targetVersion]),
    ("target_os", [.string self.targetOs.name]),
    ("target_architecture", [.string self.targetArchitecture.name]),
    ("minimum_macos_version", [.string self.minimumMacosVersion]),
    ("artifact_kind", [.string self.artifactKind.name]),
    ("artifact_length", [.number self.artifactLength]),
    ("artifact_sha256", [.string self.artifactSha256.text]),
    ("accepted_source_version_min", [.string self.acceptedSourceVersionMin]),
    ("accepted_source_version_max", [.string self.acceptedSourceVersionMax]),
    ("accepted_databases", jsonArray (self.acceptedDatabases.map AcceptedDatabaseLineageV1.tokens)),
    ("target_database_schema_version", [.number self.targetDatabaseSchemaVersion]),
    ("target_migration_prefix_sha256", [.string self.targetMigrationPrefixSha256.text]),
    ("required_backup_format_version", [.number self.requiredBackupFormatVersion]),
    ("required_asset_manifest_version", [.number self.requiredAssetManifestVersion])]

def UpdateManifest.toVec (self : UpdateManifest) : List UInt8 := jsonBytes self.tokens

def canonicalManifestBytes (manifest : UpdateManifest) : UpdatePackageResult (List UInt8) := do
  manifest.validate.mapError .incompatible
  .ok manifest.toVec

/-! ## Writing -/

def encodeUpdatePackage (services : UpdateServices) (manifest : UpdateManifest)
    (signature artifact : List UInt8) : UpdatePackageResult (List UInt8) := do
  let manifestBytes ← canonicalManifestBytes manifest
  if signature.length ≠ signatureLength then .error (.invalid "signature_length")
  else if artifact.length ≠ manifest.artifactLength then .error (.invalid "artifact_length")
  else if services.digest artifact ≠ manifest.artifactSha256 then
    .error (.invalid "artifact_sha256")
  else .ok (packageMagic ++ BigEndian.write 4 manifestBytes.length ++
    BigEndian.write 2 signature.length ++ BigEndian.write 8 artifact.length ++
    manifestBytes ++ signature ++ artifact)

/-! ## Trust -/

def validateTrustKey (key : UpdateTrustKey) : UpdatePackageResult Unit :=
  key.range.validate.mapError .incompatible

def rangesOverlap (leftMin leftMax rightMin rightMax : ℕ) : Bool :=
  leftMin ≤ rightMax && rightMin ≤ leftMax

/-- Two keys of one id that may sign the same release. -/
def UpdateTrustKey.overlaps (existing key : UpdateTrustKey) : Bool :=
  existing.keyId == key.keyId &&
    rangesOverlap existing.minimumReleaseSequence existing.maximumReleaseSequence
      key.minimumReleaseSequence key.maximumReleaseSequence

def acceptTrustKeysAfter : List UpdateTrustKey → List UpdateTrustKey → UpdatePackageResult Unit
  | _, [] => .ok ()
  | earlier, key :: rest => do
    validateTrustKey key
    if earlier.any fun existing => existing.overlaps key then .error (.invalid "trust_key_overlap")
    else acceptTrustKeysAfter (earlier ++ [key]) rest

/-- Accept keys: a few, each valid, and none for a release of an earlier one. -/
def acceptTrustKeys (trustKeys : List UpdateTrustKey) : UpdatePackageResult Unit :=
  if 16 < trustKeys.length then .error (.invalid "trust_key_count")
  else acceptTrustKeysAfter [] trustKeys

structure UpdatePackageStager where
  trustKeys : List UpdateTrustKey
  accepted : acceptTrustKeys trustKeys = .ok ()

def UpdateTrustKey.covers (key : UpdateTrustKey) (manifest : UpdateManifest) : Bool :=
  key.keyId == manifest.keyId && key.minimumReleaseSequence ≤ manifest.releaseSequence &&
    manifest.releaseSequence ≤ key.maximumReleaseSequence

def UpdatePackageStager.trustKeyFor (self : UpdatePackageStager) (manifest : UpdateManifest) :
    UpdatePackageResult UpdateTrustKey :=
  match self.trustKeys.find? fun key => key.covers manifest with
  | none => .error .signatureInvalid
  | some key => .ok key

/-! ## Reading -/

/-- What is known of a file without reading it. -/
structure FileMetadata where
  isFile : Bool
  isSymlink : Bool
  nlink : ℕ
  dev : ℕ
  ino : ℕ
  len : ℕ
  mtime : ℤ
  mtimeNsec : ℤ

structure FileIdentity where
  device : ℕ
  inode : ℕ
  length : ℕ
  modifiedSeconds : ℤ
  modifiedNanoseconds : ℤ
  deriving DecidableEq

structure PackageFile where
  bytes : List UInt8
  metadata : FileMetadata
  measured : metadata.len = bytes.length

structure VerifiedPackage where
  identity : FileIdentity
  manifest : UpdateManifest
  manifestSha256 : Sha256Digest
  packageSha256 : Sha256Digest
  keyId : String

structure PackageReader where
  rest : List UInt8
  hashed : List UInt8

abbrev PackageReading (α : Type) : Type := Fallible PackageReader UpdatePackageError α

def privateRegularFileIdentity (metadata : FileMetadata) : UpdatePackageResult FileIdentity :=
  if ¬ metadata.isFile ∨ metadata.isSymlink ∨ metadata.nlink ≠ 1 then
    .error (.invalid "package_identity")
  else .ok ⟨metadata.dev, metadata.ino, metadata.len, metadata.mtime, metadata.mtimeNsec⟩

def readExactHashed (length : ℕ) : PackageReading (List UInt8) := fun reader =>
  if length ≤ reader.rest.length then
    (.ok (reader.rest.take length),
      ⟨reader.rest.drop length, reader.hashed ++ reader.rest.take length⟩)
  else (.error (.invalid "package_truncated"), reader)

def readArtifact (remaining : ℕ) (artifact : List UInt8) : PackageReading (List UInt8) :=
  if _h : remaining = 0 then pure artifact
  else do
    let chunk ← readExactHashed (min remaining artifactChunkBytes)
    readArtifact (remaining - min remaining artifactChunkBytes) (artifact ++ chunk)
  termination_by remaining
  decreasing_by
    have : 0 < min remaining artifactChunkBytes := by simp [artifactChunkBytes]; omega
    omega

def manifestFromSlice (services : UpdateServices) (manifestBytes : List UInt8) :
    UpdatePackageResult UpdateManifest :=
  match services.fromSlice manifestBytes with
  | none => .error (.invalid "manifest_json")
  | some manifest => .ok manifest

/-- Refuse a release that does not fit what is installed. -/
def requireCompatible (manifest : UpdateManifest) (context : UpdateCompatibilityContext) :
    UpdatePackageResult Unit := do
  let decision ←
    (evaluateUpdateCompatibility manifest.toUpdateManifestV1 context).mapError .panicked
  match decision with
  | .compatible => .ok ()
  | .rejected reason => .error (.incompatible reason)

structure PackageHeader where
  manifestLength : ℕ
  signatureLength : ℕ
  artifactLength : ℕ

def readHeader : PackageReading PackageHeader := do
  let header ← readExactHashed headerLength
  rejectIf (.invalid "package_magic") (header.take 4 ≠ packageMagic)
  pure ⟨BigEndian.read ((header.drop 4).take 4), BigEndian.read ((header.drop 8).take 2),
    BigEndian.read ((header.drop 10).take 8)⟩

/-- Verify a package from its first byte on. When it has been read, the file is as `after` says. -/
def verifyFile (services : UpdateServices) (stager : UpdatePackageStager)
    (context : TrustedUpdateRuntimeContext) (before after : FileMetadata) :
    PackageReading VerifiedPackage := do
  let identity ← check (privateRegularFileIdentity before)
  rejectIf (.invalid "package_length") (identity.length < headerLength + signatureLength)
  let header ← readHeader
  rejectIf (.invalid "manifest_length")
    (header.manifestLength = 0 ∨ maxManifestBytes < header.manifestLength)
  rejectIf (.invalid "signature_length") (header.signatureLength ≠ signatureLength)
  rejectIf (.invalid "artifact_length")
    (header.artifactLength = 0 ∨ maxUpdateArtifactBytesV1 < header.artifactLength)
  rejectIf (.invalid "package_length") (identity.length ≠
    headerLength + header.manifestLength + header.signatureLength + header.artifactLength)
  let manifestBytes ← readExactHashed header.manifestLength
  let manifest ← check (manifestFromSlice services manifestBytes)
  let canonical ← check (canonicalManifestBytes manifest)
  rejectIf (.invalid "manifest_canonical") (canonical ≠ manifestBytes)
  rejectIf (.invalid "artifact_length") (manifest.artifactLength ≠ header.artifactLength)
  let signature ← readExactHashed signatureLength
  let trustKey ← check (stager.trustKeyFor manifest)
  rejectIf .signatureInvalid
    (¬ services.verify trustKey.publicKey (domainSeparator ++ manifestBytes) signature)
  check (requireCompatible manifest (context.compatibilityFor trustKey))
  let artifact ← readArtifact header.artifactLength []
  rejectIf (.invalid "artifact_sha256")
    (services.digest artifact ≠ manifest.artifactSha256)
  let identityAfter ← check (privateRegularFileIdentity after)
  rejectIf (.invalid "package_changed") (identityAfter ≠ identity)
  let reader ← state
  pure ⟨identity, manifest, services.digest manifestBytes, services.digest reader.hashed,
    trustKey.keyId⟩

def PackageFile.verify (self : PackageFile) (services : UpdateServices)
    (stager : UpdatePackageStager) (context : TrustedUpdateRuntimeContext) (after : FileMetadata) :
    UpdatePackageResult VerifiedPackage :=
  (verifyFile services stager context self.metadata after ⟨self.bytes, []⟩).1

end Threadbook.Update
