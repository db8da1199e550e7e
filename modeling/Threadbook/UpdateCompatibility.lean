import Threadbook.Numeral
import Threadbook.OutfitContract

/-!
# Update compatibility

A release manifest is decided about against what is installed. A decision is `compatible` exactly
when every requirement is met (`evaluateUpdateCompatibility_compatible_iff`), and along updates
that were all decided so, versions and release sequences grow and the database schema never
shrinks (`update_antirollback`).
-/

namespace Threadbook.Update

/-! ## Contract -/

def updateApplicationIdV1 : String := "com.devrai.wardrobe"

def updateManifestSchemaVersionV1 : ℕ := 1

def maxUpdateArtifactBytesV1 : ℕ := 4 * 1024 * 1024 * 1024

def maxUpdateIdentifierCharsV1 : ℕ := 128

def maxUpdateVersionCharsV1 : ℕ := 64

def maxAcceptedDatabaseLineagesV1 : ℕ := 128

inductive UpdateChannelV1
  | personal
  | development
  deriving DecidableEq

inductive UpdateOperatingSystemV1
  | macos
  | linux
  | windows
  deriving DecidableEq

inductive UpdateArchitectureV1
  | aarch64
  | x86_64
  deriving DecidableEq

inductive UpdateCompatibilityFailureV1
  | invalidSchemaVersion
  | invalidApplicationId
  | invalidChannel
  | invalidKeyId
  | invalidReleaseId
  | invalidReleaseSequence
  | invalidVersion
  | invalidSourceVersionRange
  | invalidArtifactLength
  | invalidDatabaseLineage
  | invalidTargetDatabase
  | invalidFormatVersion
  | invalidSigningKeyRange
  | invalidPlatform
  | applicationMismatch
  | channelMismatch
  | platformMismatch
  | architectureMismatch
  | macosVersionUnsupported
  | sourceVersionUnsupported
  | targetVersionNotNewer
  | releaseSequenceDowngrade
  | signingKeyMismatch
  | signingKeyOutOfRange
  | databaseLineageUnsupported
  | targetDatabaseDowngrade
  | backupFormatUnsupported
  | assetManifestFormatUnsupported
  deriving DecidableEq

structure Sha256Digest where
  text : String
  wellFormed : isHash text = true

instance : DecidableEq Sha256Digest := fun a b =>
  decidable_of_iff (a.text = b.text) (by cases a; cases b; simp)

structure AcceptedDatabaseLineageV1 where
  schemaVersion : ℕ
  migrationPrefixSha256 : Sha256Digest
  deriving DecidableEq

structure UpdateSigningKeyRangeV1 where
  keyId : String
  minimumReleaseSequence : ℕ
  maximumReleaseSequence : ℕ

structure UpdateManifestV1 where
  schemaVersion : ℕ
  applicationId : String
  channel : UpdateChannelV1
  keyId : String
  releaseId : String
  releaseSequence : ℕ
  targetVersion : String
  targetOs : UpdateOperatingSystemV1
  targetArchitecture : UpdateArchitectureV1
  minimumMacosVersion : String
  artifactLength : ℕ
  acceptedSourceVersionMin : String
  acceptedSourceVersionMax : String
  acceptedDatabases : List AcceptedDatabaseLineageV1
  targetDatabaseSchemaVersion : ℕ
  targetMigrationPrefixSha256 : Sha256Digest
  requiredBackupFormatVersion : ℕ
  requiredAssetManifestVersion : ℕ

structure UpdateCompatibilityContext where
  applicationId : String
  channel : UpdateChannelV1
  applicationVersion : String
  installedReleaseSequence : ℕ
  operatingSystem : UpdateOperatingSystemV1
  architecture : UpdateArchitectureV1
  macosVersion : String
  database : AcceptedDatabaseLineageV1
  supportedBackupFormatVersion : ℕ
  supportedAssetManifestVersion : ℕ
  signingKey : UpdateSigningKeyRangeV1

inductive UpdateCompatibilityDecisionV1
  | compatible
  | rejected (reason : UpdateCompatibilityFailureV1)
  deriving DecidableEq

abbrev UpdateResult (α : Type) : Type := Except UpdateCompatibilityFailureV1 α

/-! ## Versions -/

/-- Three 32-bit numbers. -/
structure NumericVersionV1 where
  major : Fin (2 ^ 32)
  minor : Fin (2 ^ 32)
  patch : Fin (2 ^ 32)

/-- The numbers, compared from the first one on. -/
def NumericVersionV1.key (self : NumericVersionV1) :
    Fin (2 ^ 32) ×ₗ Fin (2 ^ 32) ×ₗ Fin (2 ^ 32) :=
  toLex (self.major, toLex (self.minor, self.patch))

theorem NumericVersionV1.key_injective : Function.Injective NumericVersionV1.key := by
  rintro ⟨major, minor, patch⟩ ⟨major', minor', patch'⟩ h
  obtain ⟨rfl, hrest⟩ := Prod.mk.inj (toLex_inj.mp h)
  obtain ⟨rfl, rfl⟩ := Prod.mk.inj (toLex_inj.mp hrest)
  rfl

instance : LinearOrder NumericVersionV1 :=
  LinearOrder.lift' NumericVersionV1.key NumericVersionV1.key_injective

def decimalValue (digits : List Char) : ℕ := Numeral.value 10 (digits.map fun c => c.toNat - 48)

def parseVersionComponent (component : Option (List Char)) : UpdateResult (Fin (2 ^ 32)) :=
  match component with
  | none => .error .invalidVersion
  | some component =>
    if component = [] ∨ 1 < component.length ∧ component.head? = some '0' then
      .error .invalidVersion
    else if h : decimalValue component < 2 ^ 32 then .ok ⟨decimalValue component, h⟩
    else .error .invalidVersion

/-- Read a version: three numbers between full stops. -/
def NumericVersionV1.parse (value : String) : UpdateResult NumericVersionV1 :=
  if value = "" ∨ maxUpdateVersionCharsV1 < byteLength value ∨
      value.toList.any (fun c => !(isAsciiDigit c || c == '.')) then .error .invalidVersion
  else do
    let components := value.toList.splitOn '.'
    let major ← parseVersionComponent components[0]?
    let minor ← parseVersionComponent components[1]?
    let patch ← parseVersionComponent components[2]?
    if components[3]?.isSome then .error .invalidVersion
    else .ok ⟨major, minor, patch⟩

/-! ## Validation -/

def isAsciiLowercase (c : Char) : Bool := 'a' ≤ c && c ≤ 'z'

def isApplicationIdPart (part : List Char) : Bool :=
  part ≠ [] && part.all (fun c => isAsciiLowercase c || isAsciiDigit c || c == '-') &&
    part.head?.any isAsciiLowercase

def validateApplicationId (value : String) : UpdateResult Unit :=
  let parts := value.toList.splitOn '.'
  if maxUpdateIdentifierCharsV1 < byteLength value ∨ parts.length < 3 ∨
      ¬ parts.all isApplicationIdPart then .error .invalidApplicationId
  else .ok ()

def isIdentifierChar (c : Char) : Bool :=
  isAsciiDigit c || isAsciiLowercase c || ('A' ≤ c && c ≤ 'Z') || c == '.' || c == '_' || c == '-'

def validateIdentifier (failure : UpdateCompatibilityFailureV1) (value : String) :
    UpdateResult Unit :=
  if value = "" ∨ maxUpdateIdentifierCharsV1 < byteLength value ∨
      ¬ value.toList.all isIdentifierChar then .error failure
  else .ok ()

def AcceptedDatabaseLineageV1.validate (self : AcceptedDatabaseLineageV1) : UpdateResult Unit :=
  if self.schemaVersion = 0 then .error .invalidDatabaseLineage else .ok ()

def validateLineages (lineages : List AcceptedDatabaseLineageV1) : UpdateResult Unit :=
  if lineages = [] ∨ maxAcceptedDatabaseLineagesV1 < lineages.length then
    .error .invalidDatabaseLineage
  else do
    lineages.forM AcceptedDatabaseLineageV1.validate
    if (lineages.zip lineages.tail).any fun pair =>
        pair.2.schemaVersion ≤ pair.1.schemaVersion then .error .invalidDatabaseLineage
    else .ok ()

def UpdateSigningKeyRangeV1.validate (self : UpdateSigningKeyRangeV1) : UpdateResult Unit := do
  validateIdentifier .invalidKeyId self.keyId
  if self.minimumReleaseSequence = 0 ∨
      self.maximumReleaseSequence < self.minimumReleaseSequence ∨
      maxSafeIntegerV1 < self.maximumReleaseSequence then .error .invalidSigningKeyRange
  else .ok ()

def UpdateManifestV1.validate (self : UpdateManifestV1) : UpdateResult Unit :=
  if self.schemaVersion ≠ updateManifestSchemaVersionV1 then .error .invalidSchemaVersion
  else do
    validateApplicationId self.applicationId
    validateIdentifier .invalidKeyId self.keyId
    validateIdentifier .invalidReleaseId self.releaseId
    if self.releaseSequence = 0 ∨ maxSafeIntegerV1 < self.releaseSequence then
      .error .invalidReleaseSequence
    else do
      let targetVersion ← NumericVersionV1.parse self.targetVersion
      let sourceMin ← NumericVersionV1.parse self.acceptedSourceVersionMin
      let sourceMax ← NumericVersionV1.parse self.acceptedSourceVersionMax
      let _ ← NumericVersionV1.parse self.minimumMacosVersion
      if sourceMax < sourceMin ∨ targetVersion < sourceMin then .error .invalidSourceVersionRange
      else if self.artifactLength = 0 ∨ maxUpdateArtifactBytesV1 < self.artifactLength ∨
          maxSafeIntegerV1 < self.artifactLength then .error .invalidArtifactLength
      else do
        validateLineages self.acceptedDatabases
        if self.targetDatabaseSchemaVersion = 0 then .error .invalidTargetDatabase
        else if self.requiredBackupFormatVersion = 0 ∨ self.requiredAssetManifestVersion = 0 then
          .error .invalidFormatVersion
        else .ok ()

def UpdateCompatibilityContext.validate (self : UpdateCompatibilityContext) : UpdateResult Unit := do
  validateApplicationId self.applicationId
  if self.applicationId ≠ updateApplicationIdV1 then .error .invalidApplicationId
  else if self.channel ≠ .personal then .error .invalidChannel
  else do
    let _ ← NumericVersionV1.parse self.applicationVersion
    let _ ← NumericVersionV1.parse self.macosVersion
    if self.installedReleaseSequence = 0 ∨ maxSafeIntegerV1 < self.installedReleaseSequence then
      .error .invalidReleaseSequence
    else if self.operatingSystem ≠ .macos then .error .invalidPlatform
    else do
      self.database.validate
      if self.supportedBackupFormatVersion = 0 ∨ self.supportedAssetManifestVersion = 0 then
        .error .invalidFormatVersion
      else self.signingKey.validate

/-! ## Decision -/

def expectVersion (message : String) (value : String) : Except String NumericVersionV1 :=
  (NumericVersionV1.parse value).mapError fun _ => message

def evaluateFormats (manifest : UpdateManifestV1) (context : UpdateCompatibilityContext) :
    UpdateCompatibilityDecisionV1 :=
  if ¬ manifest.acceptedDatabases.any (fun lineage => lineage = context.database) then
    .rejected .databaseLineageUnsupported
  else if manifest.targetDatabaseSchemaVersion < context.database.schemaVersion then
    .rejected .targetDatabaseDowngrade
  else if manifest.requiredBackupFormatVersion ≠ context.supportedBackupFormatVersion then
    .rejected .backupFormatUnsupported
  else if manifest.requiredAssetManifestVersion ≠ context.supportedAssetManifestVersion then
    .rejected .assetManifestFormatUnsupported
  else .compatible

def evaluateSequence (manifest : UpdateManifestV1) (context : UpdateCompatibilityContext) :
    UpdateCompatibilityDecisionV1 :=
  if manifest.releaseSequence ≤ context.installedReleaseSequence then
    .rejected .releaseSequenceDowngrade
  else if manifest.keyId ≠ context.signingKey.keyId then .rejected .signingKeyMismatch
  else if manifest.releaseSequence < context.signingKey.minimumReleaseSequence ∨
      context.signingKey.maximumReleaseSequence < manifest.releaseSequence then
    .rejected .signingKeyOutOfRange
  else evaluateFormats manifest context

/-- Decide about the versions of a release, and the rest. -/
def evaluateVersions (manifest : UpdateManifestV1) (context : UpdateCompatibilityContext) :
    Except String UpdateCompatibilityDecisionV1 := do
  let minimumMacosVersion ← expectVersion "validated manifest" manifest.minimumMacosVersion
  let macosVersion ← expectVersion "validated context" context.macosVersion
  if macosVersion < minimumMacosVersion then .ok (.rejected .macosVersionUnsupported)
  else do
    let sourceVersion ← expectVersion "validated context" context.applicationVersion
    let sourceMin ← expectVersion "validated manifest" manifest.acceptedSourceVersionMin
    let sourceMax ← expectVersion "validated manifest" manifest.acceptedSourceVersionMax
    if sourceVersion < sourceMin ∨ sourceMax < sourceVersion then
      .ok (.rejected .sourceVersionUnsupported)
    else do
      let targetVersion ← expectVersion "validated manifest" manifest.targetVersion
      if targetVersion ≤ sourceVersion then .ok (.rejected .targetVersionNotNewer)
      else .ok (evaluateSequence manifest context)

/-- Decide about a release. -/
def evaluateUpdateCompatibility (manifest : UpdateManifestV1)
    (context : UpdateCompatibilityContext) : Except String UpdateCompatibilityDecisionV1 :=
  match manifest.validate with
  | .error reason => .ok (.rejected reason)
  | .ok _ =>
    match context.validate with
    | .error reason => .ok (.rejected reason)
    | .ok _ =>
      if manifest.applicationId ≠ context.applicationId then .ok (.rejected .applicationMismatch)
      else if manifest.channel ≠ context.channel then .ok (.rejected .channelMismatch)
      else if manifest.targetOs ≠ context.operatingSystem then .ok (.rejected .platformMismatch)
      else if manifest.targetArchitecture ≠ context.architecture then
        .ok (.rejected .architectureMismatch)
      else evaluateVersions manifest context

/-! ## Requirements -/

/-- **Everything an update has to meet.** -/
structure Meets (manifest : UpdateManifestV1) (context : UpdateCompatibilityContext) : Prop where
  validManifest : manifest.validate = .ok ()
  validContext : context.validate = .ok ()
  application : manifest.applicationId = context.applicationId
  channel : manifest.channel = context.channel
  operatingSystem : manifest.targetOs = context.operatingSystem
  architecture : manifest.targetArchitecture = context.architecture
  macosVersion : ∃ minimum running, NumericVersionV1.parse manifest.minimumMacosVersion =
    .ok minimum ∧ NumericVersionV1.parse context.macosVersion = .ok running ∧ minimum ≤ running
  versions : ∃ source sourceMin sourceMax target,
    NumericVersionV1.parse context.applicationVersion = .ok source ∧
    NumericVersionV1.parse manifest.acceptedSourceVersionMin = .ok sourceMin ∧
    NumericVersionV1.parse manifest.acceptedSourceVersionMax = .ok sourceMax ∧
    NumericVersionV1.parse manifest.targetVersion = .ok target ∧
    sourceMin ≤ source ∧ source ≤ sourceMax ∧ source < target
  releaseSequence : context.installedReleaseSequence < manifest.releaseSequence
  signingKey : manifest.keyId = context.signingKey.keyId
  signingRange : context.signingKey.minimumReleaseSequence ≤ manifest.releaseSequence ∧
    manifest.releaseSequence ≤ context.signingKey.maximumReleaseSequence
  database : context.database ∈ manifest.acceptedDatabases
  databaseSchema : context.database.schemaVersion ≤ manifest.targetDatabaseSchemaVersion
  backupFormat : manifest.requiredBackupFormatVersion = context.supportedBackupFormatVersion
  assetManifest : manifest.requiredAssetManifestVersion = context.supportedAssetManifestVersion

variable {manifest : UpdateManifestV1} {context : UpdateCompatibilityContext}

theorem UpdateManifestV1.parses (h : manifest.validate = .ok ()) :
    ∃ target sourceMin sourceMax minimum,
      NumericVersionV1.parse manifest.targetVersion = .ok target ∧
      NumericVersionV1.parse manifest.acceptedSourceVersionMin = .ok sourceMin ∧
      NumericVersionV1.parse manifest.acceptedSourceVersionMax = .ok sourceMax ∧
      NumericVersionV1.parse manifest.minimumMacosVersion = .ok minimum := by
  simp only [UpdateManifestV1.validate, check_unless_eq_ok, check_then_eq_ok] at h
  obtain ⟨-, -, -, -, -, h⟩ := h
  obtain ⟨target, htarget, h⟩ := check_bind_eq_ok.mp h
  obtain ⟨sourceMin, hmin, h⟩ := check_bind_eq_ok.mp h
  obtain ⟨sourceMax, hmax, h⟩ := check_bind_eq_ok.mp h
  obtain ⟨minimum, hmacos, -⟩ := check_bind_eq_ok.mp h
  exact ⟨target, sourceMin, sourceMax, minimum, htarget, hmin, hmax, hmacos⟩

theorem UpdateCompatibilityContext.parses (h : context.validate = .ok ()) :
    ∃ source running, NumericVersionV1.parse context.applicationVersion = .ok source ∧
      NumericVersionV1.parse context.macosVersion = .ok running := by
  simp only [UpdateCompatibilityContext.validate, check_unless_eq_ok, check_then_eq_ok] at h
  obtain ⟨-, -, -, h⟩ := h
  obtain ⟨source, hsource, h⟩ := check_bind_eq_ok.mp h
  obtain ⟨running, hrunning, -⟩ := check_bind_eq_ok.mp h
  exact ⟨source, running, hsource, hrunning⟩

theorem expectVersion_of_parse {message value : String} {version : NumericVersionV1}
    (h : NumericVersionV1.parse value = .ok version) :
    expectVersion message value = .ok version := by
  rw [expectVersion, h]
  rfl

theorem evaluateFormats_compatible_iff :
    evaluateFormats manifest context = .compatible ↔
      context.database ∈ manifest.acceptedDatabases ∧
      context.database.schemaVersion ≤ manifest.targetDatabaseSchemaVersion ∧
      manifest.requiredBackupFormatVersion = context.supportedBackupFormatVersion ∧
      manifest.requiredAssetManifestVersion = context.supportedAssetManifestVersion := by
  have hany : manifest.acceptedDatabases.any (fun lineage => lineage = context.database) = true ↔
      context.database ∈ manifest.acceptedDatabases := by simp
  unfold evaluateFormats
  simp only [hany]
  split_ifs with h1 h2 h3 h4
  · simp only [false_iff]
    rintro ⟨-, hle, -⟩
    omega
  · simp [h3]
  · simp [h4]
  · simp only [true_iff]
    exact ⟨h1, not_lt.mp h2, not_not.mp h3, not_not.mp h4⟩
  · simp [h1]

theorem evaluateSequence_compatible_iff :
    evaluateSequence manifest context = .compatible ↔
      context.installedReleaseSequence < manifest.releaseSequence ∧
      manifest.keyId = context.signingKey.keyId ∧
      (context.signingKey.minimumReleaseSequence ≤ manifest.releaseSequence ∧
        manifest.releaseSequence ≤ context.signingKey.maximumReleaseSequence) ∧
      evaluateFormats manifest context = .compatible := by
  unfold evaluateSequence
  split_ifs with h1 h2 h3
  · simp only [false_iff]
    rintro ⟨hlt, -⟩
    omega
  · simp [h2]
  · simp only [false_iff]
    rintro ⟨-, -, ⟨hmin, hmax⟩, -⟩
    omega
  · rw [not_or, not_lt, not_lt] at h3
    simp only [not_le.mp h1, not_not.mp h2, h3, true_and]

theorem evaluateVersions_eq {minimum running source sourceMin sourceMax target : NumericVersionV1}
    (hminimum : NumericVersionV1.parse manifest.minimumMacosVersion = .ok minimum)
    (hrunning : NumericVersionV1.parse context.macosVersion = .ok running)
    (hsource : NumericVersionV1.parse context.applicationVersion = .ok source)
    (hmin : NumericVersionV1.parse manifest.acceptedSourceVersionMin = .ok sourceMin)
    (hmax : NumericVersionV1.parse manifest.acceptedSourceVersionMax = .ok sourceMax)
    (htarget : NumericVersionV1.parse manifest.targetVersion = .ok target) :
    evaluateVersions manifest context = .ok (
      if running < minimum then .rejected .macosVersionUnsupported
      else if source < sourceMin ∨ sourceMax < source then .rejected .sourceVersionUnsupported
      else if target ≤ source then .rejected .targetVersionNotNewer
      else evaluateSequence manifest context) := by
  unfold evaluateVersions
  simp only [expectVersion_of_parse hminimum, expectVersion_of_parse hrunning,
    expectVersion_of_parse hsource, expectVersion_of_parse hmin, expectVersion_of_parse hmax,
    expectVersion_of_parse htarget, bind, Except.bind]
  split_ifs <;> rfl

theorem evaluateVersions_compatible_iff {manifest : UpdateManifestV1}
    {context : UpdateCompatibilityContext} (hmanifest : manifest.validate = .ok ())
    (hcontext : context.validate = .ok ()) :
    evaluateVersions manifest context = .ok .compatible ↔
      (∃ minimum running, NumericVersionV1.parse manifest.minimumMacosVersion = .ok minimum ∧
        NumericVersionV1.parse context.macosVersion = .ok running ∧ minimum ≤ running) ∧
      (∃ source sourceMin sourceMax target,
        NumericVersionV1.parse context.applicationVersion = .ok source ∧
        NumericVersionV1.parse manifest.acceptedSourceVersionMin = .ok sourceMin ∧
        NumericVersionV1.parse manifest.acceptedSourceVersionMax = .ok sourceMax ∧
        NumericVersionV1.parse manifest.targetVersion = .ok target ∧
        sourceMin ≤ source ∧ source ≤ sourceMax ∧ source < target) ∧
      evaluateSequence manifest context = .compatible := by
  obtain ⟨target, sourceMin, sourceMax, minimum, htarget, hmin, hmax, hminimum⟩ :=
    UpdateManifestV1.parses hmanifest
  obtain ⟨source, running, hsource, hrunning⟩ := UpdateCompatibilityContext.parses hcontext
  rw [evaluateVersions_eq hminimum hrunning hsource hmin hmax htarget]
  simp only [hminimum, hrunning, hsource, hmin, hmax, htarget, Except.ok.injEq, exists_and_left,
    exists_eq_left']
  split_ifs with h1 h2 h3
  · simp [not_le.mpr h1]
  · rw [← not_le, ← not_le, ← not_and_or] at h2
    simp only [false_iff]
    rintro ⟨-, ⟨hle, hle', -⟩, -⟩
    exact h2 ⟨hle, hle'⟩
  · simp [not_lt.mpr h3]
  · rw [not_or, not_lt, not_lt] at h2
    simp [not_lt.mp h1, h2.1, h2.2, not_le.mp h3]

/-- **A decision is compatible** exactly when every requirement is met. -/
theorem evaluateUpdateCompatibility_compatible_iff :
    evaluateUpdateCompatibility manifest context = .ok .compatible ↔ Meets manifest context := by
  unfold evaluateUpdateCompatibility
  constructor
  · intro h
    cases hmanifest : manifest.validate with
    | error reason => simp [hmanifest] at h
    | ok u =>
      cases hcontext : context.validate with
      | error reason => simp [hmanifest, hcontext] at h
      | ok v =>
        simp only [hmanifest, hcontext] at h
        split at h
        · cases h
        rename_i happlication
        split at h
        · cases h
        rename_i hchannel
        split at h
        · cases h
        rename_i hsystem
        split at h
        · cases h
        rename_i harchitecture
        obtain ⟨hmacos, hversions, hsequence⟩ :=
          (evaluateVersions_compatible_iff hmanifest hcontext).mp h
        obtain ⟨hnewer, hkey, hrange, hformats⟩ := evaluateSequence_compatible_iff.mp hsequence
        obtain ⟨hdatabase, hschema, hbackup, hasset⟩ := evaluateFormats_compatible_iff.mp hformats
        exact ⟨hmanifest, hcontext, not_not.mp happlication, not_not.mp hchannel, not_not.mp hsystem,
          not_not.mp harchitecture, hmacos, hversions, hnewer, hkey, hrange, hdatabase, hschema, hbackup, hasset⟩
  · intro h
    simp only [h.validManifest, h.validContext, ne_eq, h.application, h.channel, h.operatingSystem,
      h.architecture, not_true_eq_false, if_false]
    rw [evaluateVersions_compatible_iff h.validManifest h.validContext,
      evaluateSequence_compatible_iff, evaluateFormats_compatible_iff]
    exact ⟨h.macosVersion, h.versions, h.releaseSequence, h.signingKey, h.signingRange, h.database,
      h.databaseSchema, h.backupFormat, h.assetManifest⟩

/-! ## Chains of updates -/

structure Release where
  version : String
  releaseSequence : ℕ
  databaseSchemaVersion : ℕ
  deriving DecidableEq

def UpdateCompatibilityContext.release (self : UpdateCompatibilityContext) : Release :=
  ⟨self.applicationVersion, self.installedReleaseSequence, self.database.schemaVersion⟩

def UpdateManifestV1.release (self : UpdateManifestV1) : Release :=
  ⟨self.targetVersion, self.releaseSequence, self.targetDatabaseSchemaVersion⟩

structure Updates (context : UpdateCompatibilityContext) (manifest : UpdateManifestV1)
    (next : UpdateCompatibilityContext) : Prop where
  compatible : evaluateUpdateCompatibility manifest context = .ok .compatible
  applicationVersion : next.applicationVersion = manifest.targetVersion
  installedReleaseSequence : next.installedReleaseSequence = manifest.releaseSequence
  database : next.database =
    ⟨manifest.targetDatabaseSchemaVersion, manifest.targetMigrationPrefixSha256⟩

/-- Updates, each decided about the state that the one before left. -/
inductive Chain : UpdateCompatibilityContext → List UpdateManifestV1 → UpdateCompatibilityContext →
    Prop
  | installed (context : UpdateCompatibilityContext) : Chain context [] context
  | update {start context next : UpdateCompatibilityContext} {log : List UpdateManifestV1}
      {manifest : UpdateManifestV1} (h : Chain start log context)
      (h' : Updates context manifest next) : Chain start (log ++ [manifest]) next

def history (start : UpdateCompatibilityContext) (log : List UpdateManifestV1) : List Release :=
  start.release :: log.map UpdateManifestV1.release

structure Advances (earlier later : Release) : Prop where
  version : ∃ v w, NumericVersionV1.parse earlier.version = .ok v ∧
    NumericVersionV1.parse later.version = .ok w ∧ v < w
  releaseSequence : earlier.releaseSequence < later.releaseSequence
  databaseSchemaVersion : earlier.databaseSchemaVersion ≤ later.databaseSchemaVersion

theorem Advances.trans {a b c : Release} (h : Advances a b) (h' : Advances b c) : Advances a c := by
  obtain ⟨u, v, hu, hv, hlt⟩ := h.version
  obtain ⟨v', w, hv', hw, hlt'⟩ := h'.version
  rw [hv] at hv'
  cases hv'
  exact ⟨⟨u, w, hu, hw, hlt.trans hlt'⟩, h.releaseSequence.trans h'.releaseSequence,
    h.databaseSchemaVersion.trans h'.databaseSchemaVersion⟩

theorem Advances.ne {a b : Release} (h : Advances a b) : a ≠ b := by
  rintro rfl
  exact lt_irrefl _ h.releaseSequence

/-- **An update that is taken advances.** -/
theorem Meets.advances (h : Meets manifest context) :
    Advances context.release manifest.release := by
  obtain ⟨source, -, -, target, hsource, -, -, htarget, -, -, hlt⟩ := h.versions
  exact ⟨⟨source, target, hsource, htarget, hlt⟩, h.releaseSequence, h.databaseSchema⟩

theorem Updates.release {next : UpdateCompatibilityContext} (h : Updates context manifest next) :
    next.release = manifest.release := by
  rw [UpdateCompatibilityContext.release, UpdateManifestV1.release, h.applicationVersion,
    h.installedReleaseSequence, h.database]

theorem Chain.advances {start final : UpdateCompatibilityContext} {log : List UpdateManifestV1}
    (h : Chain start log final) :
    ∃ earlier, history start log = earlier ++ [final.release] ∧
      (history start log).Pairwise Advances := by
  induction h with
  | installed => exact ⟨[], rfl, List.pairwise_singleton _ _⟩
  | @update context next log manifest _ hupdates ih =>
    obtain ⟨earlier, heq, hpairwise⟩ := ih
    have hadvances := (evaluateUpdateCompatibility_compatible_iff.mp hupdates.compatible).advances
    have hhistory : history start (log ++ [manifest]) = history start log ++ [next.release] := by
      rw [history, List.map_append, List.map_singleton, ← List.cons_append, ← history,
        hupdates.release]
    refine ⟨history start log, hhistory, ?_⟩
    rw [hhistory, List.pairwise_append]
    refine ⟨hpairwise, List.pairwise_singleton _ _, ?_⟩
    intro release hrelease later hlater
    rw [List.mem_singleton.mp hlater, hupdates.release]
    -- the release is the one installed, or was before it
    rw [heq] at hrelease hpairwise
    rcases List.mem_append.mp hrelease with hearlier | hinstalled
    · have hbefore := (List.pairwise_append.mp hpairwise).2.2 release hearlier context.release
        (List.mem_singleton_self _)
      exact hbefore.trans hadvances
    · rw [List.mem_singleton.mp hinstalled]
      exact hadvances

/-- **Updates never roll back.** A decision is compatible exactly when every requirement is met;
and along any chain of updates that were decided so, each release is of a greater version and a
greater sequence than all before it, and of no lesser database schema. So no release is installed
twice, and none that was installed, nor any before it, is compatible any more. -/
theorem update_antirollback :
    (∀ manifest context,
      evaluateUpdateCompatibility manifest context = .ok .compatible ↔ Meets manifest context) ∧
    ∀ start log final, Chain start log final →
      (history start log).Pairwise Advances ∧ (history start log).Nodup ∧
        ∀ release ∈ history start log, ∀ manifest,
          evaluateUpdateCompatibility manifest final = .ok .compatible →
          Advances release manifest.release := by
  refine ⟨fun manifest context => evaluateUpdateCompatibility_compatible_iff, ?_⟩
  intro start log final h
  obtain ⟨earlier, heq, hpairwise⟩ := h.advances
  refine ⟨hpairwise, hpairwise.imp Advances.ne, ?_⟩
  intro release hrelease manifest hcompatible
  have hadvances := (evaluateUpdateCompatibility_compatible_iff.mp hcompatible).advances
  rw [heq] at hrelease hpairwise
  rcases List.mem_append.mp hrelease with hearlier | hinstalled
  · have hbefore := (List.pairwise_append.mp hpairwise).2.2 release hearlier final.release
      (List.mem_singleton_self _)
    exact hbefore.trans hadvances
  · rw [List.mem_singleton.mp hinstalled]
    exact hadvances

namespace Example

def digestOf (c : Char) (h : isHash (String.ofList (List.replicate 64 c)) = true) : Sha256Digest :=
  ⟨_, h⟩

def sourceDatabase : AcceptedDatabaseLineageV1 := ⟨13, digestOf 'a' (by decide)⟩

def secondRelease : UpdateManifestV1 where
  schemaVersion := 1
  applicationId := updateApplicationIdV1
  channel := .personal
  keyId := "wardrobe-release-2026"
  releaseId := "wardrobe-0.2.0-2"
  releaseSequence := 2
  targetVersion := "0.2.0"
  targetOs := .macos
  targetArchitecture := .aarch64
  minimumMacosVersion := "15.0.0"
  artifactLength := 4096
  acceptedSourceVersionMin := "0.1.0"
  acceptedSourceVersionMax := "0.1.9"
  acceptedDatabases := [sourceDatabase]
  targetDatabaseSchemaVersion := 15
  targetMigrationPrefixSha256 := digestOf 'c' (by decide)
  requiredBackupFormatVersion := 1
  requiredAssetManifestVersion := 1

def firstInstalled : UpdateCompatibilityContext where
  applicationId := updateApplicationIdV1
  channel := .personal
  applicationVersion := "0.1.0"
  installedReleaseSequence := 1
  operatingSystem := .macos
  architecture := .aarch64
  macosVersion := "15.5.0"
  database := sourceDatabase
  supportedBackupFormatVersion := 1
  supportedAssetManifestVersion := 1
  signingKey := ⟨"wardrobe-release-2026", 2, 100⟩

def secondInstalled : UpdateCompatibilityContext :=
  { firstInstalled with
    applicationVersion := "0.2.0"
    installedReleaseSequence := 2
    database := ⟨15, digestOf 'c' (by decide)⟩ }

/-- The update is taken, and is not taken again. -/
theorem second_antirollback :
    Advances firstInstalled.release secondRelease.release ∧
      evaluateUpdateCompatibility secondRelease secondInstalled ≠ .ok .compatible := by
  have hchain : Chain firstInstalled [secondRelease] secondInstalled :=
    .update (.installed firstInstalled) ⟨by decide +kernel, rfl, rfl, rfl⟩
  obtain ⟨hpairwise, -, hlater⟩ := update_antirollback.2 _ _ _ hchain
  refine ⟨(List.pairwise_cons.mp hpairwise).1 _ (List.mem_singleton_self _), fun hcompatible => ?_⟩
  exact (hlater secondRelease.release (by decide) secondRelease hcompatible).ne rfl

end Example

end Threadbook.Update
