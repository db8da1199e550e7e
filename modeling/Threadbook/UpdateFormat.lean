import Threadbook.UpdatePackage

/-!
# The format of update packages

What reading accepts is what writing makes. Each read takes bytes off the front of the file
(`readExactHashed_eq_ok`, `readHeader_eq_ok`, `readArtifact_eq_ok`), so that a file is accepted
exactly when it is the package of a manifest, a signature and an artifact that belong together
(`Packs`, `PackageFile.verify_eq_ok_iff`). Manifests are told by their JSON
(`UpdateManifest.toVec_injective`). **`update_package_format_exact`** is the format as a whole.
-/

namespace Threadbook.Update

open Fallible List

open Fallible (state_bind bind_eq_ok rejectIf_bind_eq_ok pure_run)

variable {services : UpdateServices} {stager : UpdatePackageStager}
variable {context : TrustedUpdateRuntimeContext}

/-! ## Reads -/

section Reads

variable {reader reader' : PackageReader}

theorem readExactHashed_eq_ok {length : ℕ} {bytes : List UInt8} :
    readExactHashed length reader = (.ok bytes, reader') ↔
      bytes.length = length ∧ reader.rest = bytes ++ reader'.rest ∧
        reader'.hashed = reader.hashed ++ bytes := by
  obtain ⟨rest, hashed⟩ := reader
  obtain ⟨rest', hashed'⟩ := reader'
  constructor
  · intro h
    unfold readExactHashed at h
    split at h
    · rename_i hlength
      simp only [Prod.mk.injEq, Except.ok.injEq, PackageReader.mk.injEq] at h
      obtain ⟨rfl, rfl, rfl⟩ := h
      exact ⟨by simpa using hlength, by simp, rfl⟩
    · cases (Prod.mk.inj h).1
  · rintro ⟨rfl, hrest, hhashed⟩
    obtain rfl : rest = bytes ++ rest' := hrest
    obtain rfl : hashed' = hashed ++ bytes := hhashed
    simp [readExactHashed]

theorem readArtifact_eq_ok {remaining : ℕ} {earlier artifact : List UInt8} :
    readArtifact remaining earlier reader = (.ok artifact, reader') ↔
      ∃ bytes, bytes.length = remaining ∧ reader.rest = bytes ++ reader'.rest ∧
        reader'.hashed = reader.hashed ++ bytes ∧ artifact = earlier ++ bytes := by
  induction remaining, earlier using readArtifact.induct generalizing reader with
  | case1 earlier =>
    rw [readArtifact, dif_pos rfl, pure_run]
    constructor
    · intro h
      obtain ⟨hartifact, rfl⟩ := Prod.mk.inj h
      cases hartifact
      exact ⟨[], rfl, rfl, by simp, by simp⟩
    · rintro ⟨bytes, hlength, hrest, hhashed, rfl⟩
      obtain rfl := eq_nil_of_length_eq_zero hlength
      obtain ⟨rest, hashed⟩ := reader
      obtain ⟨rest', hashed'⟩ := reader'
      simp_all
  | case2 remaining earlier hremaining ih =>
    rw [readArtifact, dif_neg hremaining, bind_eq_ok]
    simp only [readExactHashed_eq_ok]
    constructor
    · rintro ⟨chunk, next, ⟨hchunk, hrest, hhashed⟩, h⟩
      obtain ⟨bytes, hlength, hrest', hhashed', rfl⟩ := (ih chunk).mp h
      refine ⟨chunk ++ bytes, ?_, ?_, ?_, append_assoc ..⟩
      · rw [length_append]
        omega
      · rw [hrest, hrest', append_assoc]
      · rw [hhashed', hhashed, append_assoc]
    · rintro ⟨bytes, rfl, hrest, hhashed, rfl⟩
      -- the first chunk is what the program takes of the artifact at once
      have hsplit := take_append_drop (min bytes.length artifactChunkBytes) bytes
      refine ⟨bytes.take (min bytes.length artifactChunkBytes),
        ⟨bytes.drop (min bytes.length artifactChunkBytes) ++ reader'.rest,
          reader.hashed ++ bytes.take (min bytes.length artifactChunkBytes)⟩,
        ⟨by simp, ?_, rfl⟩, ?_⟩
      · rw [← append_assoc, hsplit, hrest]
      · refine (ih _).mpr ⟨bytes.drop (min bytes.length artifactChunkBytes), by simp, rfl, ?_, ?_⟩
        · rw [append_assoc, hsplit, hhashed]
        · rw [append_assoc, hsplit]

def PackageHeader.bytes (self : PackageHeader) : List UInt8 :=
  packageMagic ++ BigEndian.write 4 self.manifestLength ++
    BigEndian.write 2 self.signatureLength ++ BigEndian.write 8 self.artifactLength

structure PackageHeader.Fits (header : PackageHeader) : Prop where
  manifestLength : header.manifestLength < 256 ^ 4
  signatureLength : header.signatureLength < 256 ^ 2
  artifactLength : header.artifactLength < 256 ^ 8

theorem PackageHeader.bytes_length (self : PackageHeader) : self.bytes.length = headerLength := by
  simp [bytes, headerLength, packageMagic]
  rfl

theorem PackageHeader.bytes_of_fields {bytes : List UInt8} (hlength : bytes.length = headerLength)
    (hmagic : bytes.take 4 = packageMagic) :
    (⟨BigEndian.read ((bytes.drop 4).take 4), BigEndian.read ((bytes.drop 8).take 2),
      BigEndian.read ((bytes.drop 10).take 8)⟩ : PackageHeader).bytes = bytes := by
  have hlength' : bytes.length = 18 := hlength
  have hmanifest : ((bytes.drop 4).take 4).length = 4 := by simp [hlength']
  have hsignature : ((bytes.drop 8).take 2).length = 2 := by simp [hlength']
  have hartifact : ((bytes.drop 10).take 8).length = 8 := by simp [hlength']
  rw [PackageHeader.bytes, BigEndian.write_read_of_length hmanifest,
    BigEndian.write_read_of_length hsignature, BigEndian.write_read_of_length hartifact, ← hmagic]
  have hrest : (bytes.drop 10).take 8 = bytes.drop 10 := take_of_length_le (by simp [hlength'])
  have hsplit (i k : ℕ) : bytes.drop i = (bytes.drop i).take k ++ bytes.drop (i + k) := by
    conv_lhs => rw [← take_append_drop k (bytes.drop i), drop_drop]
  have hmiddle : bytes.drop 8 = (bytes.drop 8).take 2 ++ bytes.drop 10 := hsplit 8 2
  have hfront : bytes.drop 4 = (bytes.drop 4).take 4 ++ bytes.drop 8 := hsplit 4 4
  rw [hrest, append_assoc, append_assoc, ← hmiddle, ← hfront, take_append_drop]

theorem PackageHeader.Fits.fields_of_bytes {self : PackageHeader} (hfits : self.Fits) :
    self.bytes.take 4 = packageMagic ∧
      (⟨BigEndian.read ((self.bytes.drop 4).take 4), BigEndian.read ((self.bytes.drop 8).take 2),
        BigEndian.read ((self.bytes.drop 10).take 8)⟩ : PackageHeader) = self := by
  have hmagic : packageMagic.length = 4 := by decide
  have hfields : (self.bytes.drop 4).take 4 = BigEndian.write 4 self.manifestLength ∧
      (self.bytes.drop 8).take 2 = BigEndian.write 2 self.signatureLength ∧
      (self.bytes.drop 10).take 8 = BigEndian.write 8 self.artifactLength := by
    simp [PackageHeader.bytes, drop_append, drop_of_length_le, hmagic]
  obtain ⟨hmanifest, hsignature, hartifact⟩ := hfields
  refine ⟨by simp [PackageHeader.bytes, hmagic], ?_⟩
  rw [hmanifest, hsignature, hartifact, BigEndian.read_write hfits.manifestLength,
    BigEndian.read_write hfits.signatureLength, BigEndian.read_write hfits.artifactLength]

theorem readHeader_eq_ok {header : PackageHeader} :
    readHeader reader = (.ok header, reader') ↔
      header.Fits ∧ reader.rest = header.bytes ++ reader'.rest ∧
        reader'.hashed = reader.hashed ++ header.bytes := by
  rw [readHeader, bind_eq_ok]
  simp only [readExactHashed_eq_ok, rejectIf_bind_eq_ok, not_not]
  constructor
  · rintro ⟨bytes, next, ⟨hlength, hrest, hhashed⟩, hmagic, h⟩
    obtain ⟨hheader, rfl⟩ := Prod.mk.inj h
    cases hheader
    rw [PackageHeader.bytes_of_fields hlength hmagic]
    have hfits (i width : ℕ) : BigEndian.read ((bytes.drop i).take width) < 256 ^ width := by
      refine (BigEndian.read_lt _).trans_le (Nat.pow_le_pow_right (by decide) ?_)
      exact length_take_le ..
    exact ⟨⟨hfits 4 4, hfits 8 2, hfits 10 8⟩, hrest, hhashed⟩
  · rintro ⟨hfits, hrest, hhashed⟩
    obtain ⟨hmagic, hfields⟩ := hfits.fields_of_bytes
    refine ⟨header.bytes, reader', ⟨header.bytes_length, hrest, hhashed⟩, hmagic, ?_⟩
    rw [hfields, pure_run]

end Reads

/-! ## Keys -/

theorem acceptTrustKeysAfter_pairwise {earlier rest : List UpdateTrustKey}
    (h : acceptTrustKeysAfter earlier rest = .ok ())
    (hearlier : earlier.Pairwise fun existing key => existing.overlaps key = false) :
    (earlier ++ rest).Pairwise fun existing key => existing.overlaps key = false := by
  induction rest generalizing earlier with
  | nil => rwa [append_nil]
  | cons key rest ih =>
    simp only [acceptTrustKeysAfter, check_then_eq_ok, check_unless_eq_ok] at h
    obtain ⟨-, hoverlap, hrest⟩ := h
    rw [append_cons]
    refine ih hrest (pairwise_append.mpr ⟨hearlier, pairwise_singleton _ _, ?_⟩)
    intro existing hexisting other hother
    rw [mem_singleton.mp hother]
    simpa using fun hbad => hoverlap (any_eq_true.mpr ⟨existing, hexisting, hbad⟩)

variable {manifest : UpdateManifest} {key : UpdateTrustKey} {signature artifact bytes : List UInt8}
  {value : String}

theorem UpdateTrustKey.overlaps_of_covers {key' : UpdateTrustKey} (h : key.covers manifest)
    (h' : key'.covers manifest) : key.overlaps key' = true := by
  simp only [covers, Bool.and_eq_true, beq_iff_eq, decide_eq_true_eq] at h h'
  obtain ⟨⟨hid, hmin⟩, hmax⟩ := h
  obtain ⟨⟨hid', hmin'⟩, hmax'⟩ := h'
  simp only [overlaps, rangesOverlap, Bool.and_eq_true, beq_iff_eq, decide_eq_true_eq]
  exact ⟨hid.trans hid'.symm, hmin.trans hmax', hmin'.trans hmax⟩

/-- **At most one key may sign a release**, so the first that may is the one. -/
theorem UpdatePackageStager.trustKeyFor_eq_ok :
    stager.trustKeyFor manifest = .ok key ↔ key ∈ stager.trustKeys ∧ key.covers manifest := by
  have hpairwise : stager.trustKeys.Pairwise fun existing key => existing.overlaps key = false := by
    have haccepted := stager.accepted
    rw [acceptTrustKeys, check_unless_eq_ok] at haccepted
    simpa using acceptTrustKeysAfter_pairwise haccepted.2 .nil
  have hunique : ∀ a ∈ stager.trustKeys, ∀ b ∈ stager.trustKeys, a.covers manifest →
      b.covers manifest → a = b := by
    have hapart {a b : UpdateTrustKey} (h : a.overlaps b = false) (ha : a.covers manifest)
        (hb : b.covers manifest) : False := by
      rw [UpdateTrustKey.overlaps_of_covers ha hb] at h
      cases h
    intro a ha b hb
    exact List.Pairwise.forall_of_forall_of_flip
      (R := fun a b : UpdateTrustKey => a.covers manifest → b.covers manifest → a = b)
      (fun _ _ _ _ => rfl) (hpairwise.imp fun h ha hb => (hapart h ha hb).elim)
      (hpairwise.imp fun h hb ha => (hapart h ha hb).elim) ha hb
  unfold UpdatePackageStager.trustKeyFor
  cases hfind : stager.trustKeys.find? fun key => key.covers manifest with
  | none =>
    simp only [reduceCtorEq, false_iff, not_and]
    exact find?_eq_none.mp hfind key
  | some found =>
    have hfound := mem_of_find?_eq_some hfind
    have hcovers := find?_some hfind
    simp only [Except.ok.injEq]
    constructor
    · rintro rfl
      exact ⟨hfound, hcovers⟩
    · rintro ⟨hkey, hkeyCovers⟩
      exact hunique _ hfound _ hkey hcovers hkeyCovers

/-! ## Packages -/

/-- **What belongs together**: a valid manifest, a signature of it under the key that may sign the
release, and the artifact it is about; and the release fits what is installed. -/
structure Packs (services : UpdateServices) (stager : UpdatePackageStager)
    (context : TrustedUpdateRuntimeContext) (manifest : UpdateManifest)
    (signature artifact : List UInt8) (key : UpdateTrustKey) : Prop where
  valid : manifest.validate = .ok ()
  fits : manifest.toVec.length ≤ maxManifestBytes
  trusted : key ∈ stager.trustKeys
  covers : key.covers manifest
  signed : signature.length = signatureLength
  verifies : services.verify key.publicKey (domainSeparator ++ manifest.toVec) signature
  compatible : evaluateUpdateCompatibility manifest.toUpdateManifestV1
    (context.compatibilityFor key) = .ok .compatible
  artifactLength : artifact.length = manifest.artifactLength
  artifactSha256 : services.digest artifact = manifest.artifactSha256

def packageBytes (manifest : UpdateManifest) (signature artifact : List UInt8) : List UInt8 :=
  (⟨manifest.toVec.length, signature.length, artifact.length⟩ : PackageHeader).bytes ++
    manifest.toVec ++ signature ++ artifact

theorem canonicalManifestBytes_eq_ok :
    canonicalManifestBytes manifest = .ok bytes ↔
      manifest.validate = .ok () ∧ manifest.toVec = bytes := by
  rw [canonicalManifestBytes, check_then_eq_ok, check_mapError_eq_ok, Except.ok.injEq]

theorem encodeUpdatePackage_eq_ok :
    encodeUpdatePackage services manifest signature artifact = .ok bytes ↔
      manifest.validate = .ok () ∧ signature.length = signatureLength ∧
        artifact.length = manifest.artifactLength ∧
        services.digest artifact = manifest.artifactSha256 ∧
        packageBytes manifest signature artifact = bytes := by
  simp only [encodeUpdatePackage, check_bind_eq_ok, canonicalManifestBytes_eq_ok,
    check_unless_eq_ok, not_not, Except.ok.injEq]
  constructor
  · rintro ⟨_, ⟨hvalid, rfl⟩, hsigned, hlength, hdigest, rfl⟩
    exact ⟨hvalid, hsigned, hlength, hdigest, rfl⟩
  · rintro ⟨hvalid, hsigned, hlength, hdigest, rfl⟩
    exact ⟨_, ⟨hvalid, rfl⟩, hsigned, hlength, hdigest, rfl⟩

theorem Packs.encodes (h : Packs services stager context manifest signature artifact key) :
    encodeUpdatePackage services manifest signature artifact =
      .ok (packageBytes manifest signature artifact) :=
  encodeUpdatePackage_eq_ok.mpr ⟨h.valid, h.signed, h.artifactLength, h.artifactSha256, rfl⟩

theorem requireCompatible_eq_ok {installed : UpdateCompatibilityContext} :
    requireCompatible manifest installed = .ok () ↔
      evaluateUpdateCompatibility manifest.toUpdateManifestV1 installed = .ok .compatible := by
  simp only [requireCompatible, check_bind_eq_ok, check_mapError_eq_ok]
  constructor
  · rintro ⟨decision, hdecision, h⟩
    cases decision with
    | compatible => exact hdecision
    | rejected reason => cases h
  · intro h
    exact ⟨.compatible, h, rfl⟩

theorem manifestFromSlice_eq_ok :
    manifestFromSlice services bytes = .ok manifest ↔ services.fromSlice bytes = some manifest := by
  rw [manifestFromSlice]
  cases services.fromSlice bytes <;> simp

theorem UpdateManifest.toVec_length_ne_zero (manifest : UpdateManifest) :
    manifest.toVec.length ≠ 0 := by
  rw [Ne, length_eq_zero_iff]
  exact jsonBytes_object_ne_nil _

theorem UpdateManifestV1.artifactLength_of_valid {manifest : UpdateManifestV1}
    (h : manifest.validate = .ok ()) :
    manifest.artifactLength ≠ 0 ∧ manifest.artifactLength ≤ maxUpdateArtifactBytesV1 := by
  simp only [UpdateManifestV1.validate, check_unless_eq_ok, check_then_eq_ok] at h
  obtain ⟨-, -, -, -, -, h⟩ := h
  obtain ⟨_, -, h⟩ := check_bind_eq_ok.mp h
  obtain ⟨_, -, h⟩ := check_bind_eq_ok.mp h
  obtain ⟨_, -, h⟩ := check_bind_eq_ok.mp h
  obtain ⟨_, -, h⟩ := check_bind_eq_ok.mp h
  simp only [check_unless_eq_ok] at h
  have hlength := h.2.1
  rw [not_or, not_or, not_lt, not_lt] at hlength
  exact ⟨hlength.1, hlength.2.1⟩

theorem Packs.header_fits (h : Packs services stager context manifest signature artifact key) :
    (⟨manifest.toVec.length, signature.length, artifact.length⟩ : PackageHeader).Fits := by
  have hmanifest := h.fits
  have hsigned := h.signed
  have hlimit := (UpdateManifestV1.artifactLength_of_valid h.valid).2
  have hartifact := h.artifactLength
  simp only [maxManifestBytes, signatureLength, maxUpdateArtifactBytesV1]
    at hmanifest hsigned hlimit
  exact ⟨show manifest.toVec.length < _ by omega, show signature.length < _ by omega,
    show artifact.length < _ by omega⟩

variable (services stager context) in
/-- **Reading a package**, from the first byte to the last. -/
theorem verifyFile_eq_ok {before after : FileMetadata} {reader reader' : PackageReader}
    {verified : VerifiedPackage} (hlen : before.len = reader.rest.length)
    (hserde : ∀ manifest : UpdateManifest, manifest.validate = .ok () →
      services.fromSlice manifest.toVec = some manifest) :
    verifyFile services stager context before after reader = (.ok verified, reader') ↔
      ∃ manifest signature artifact key identity,
        Packs services stager context manifest signature artifact key ∧
        reader.rest = packageBytes manifest signature artifact ∧ reader'.rest = [] ∧
        reader'.hashed = reader.hashed ++ reader.rest ∧
        privateRegularFileIdentity before = .ok identity ∧
        privateRegularFileIdentity after = .ok identity ∧
        verified = ⟨identity, manifest, services.digest manifest.toVec,
          services.digest (reader.hashed ++ reader.rest), key.keyId⟩ := by
  have hidentity {metadata : FileMetadata} {identity : FileIdentity}
      (h : privateRegularFileIdentity metadata = .ok identity) :
      identity.length = metadata.len := by
    rw [privateRegularFileIdentity, check_unless_eq_ok] at h
    obtain rfl := Except.ok.inj h.2
    rfl
  simp only [verifyFile, Fallible.check_bind_eq_ok, rejectIf_bind_eq_ok]
  constructor
  · rintro ⟨identity, hbefore, -, h⟩
    obtain ⟨header, first, hheader, h⟩ := bind_eq_ok.mp h
    obtain ⟨-, hrest, hhashed⟩ := readHeader_eq_ok.mp hheader
    simp only [rejectIf_bind_eq_ok, not_or, not_lt, not_not] at h
    obtain ⟨hmanifestLength, hsignatureLength, -, htotal, h⟩ := h
    obtain ⟨manifestBytes, second, hmanifestBytes, h⟩ := bind_eq_ok.mp h
    obtain ⟨hlength, hrestM, hhashedM⟩ := readExactHashed_eq_ok.mp hmanifestBytes
    simp only [Fallible.check_bind_eq_ok, rejectIf_bind_eq_ok, not_not] at h
    obtain ⟨manifest, -, canonical, hcanonical, rfl, hartifactLength, h⟩ := h
    obtain ⟨hvalid, rfl⟩ := canonicalManifestBytes_eq_ok.mp hcanonical
    obtain ⟨signature, third, hsignature, h⟩ := bind_eq_ok.mp h
    obtain ⟨hsigned, hrestS, hhashedS⟩ := readExactHashed_eq_ok.mp hsignature
    simp only [Fallible.check_bind_eq_ok, rejectIf_bind_eq_ok, not_not] at h
    obtain ⟨key, hkey, hverifies, ⟨⟩, hcompatible, h⟩ := h
    obtain ⟨htrusted, hcovers⟩ := UpdatePackageStager.trustKeyFor_eq_ok.mp hkey
    obtain ⟨artifact, last, hartifact, h⟩ := bind_eq_ok.mp h
    obtain ⟨_, hbytes, hrestA, hhashedA, rfl⟩ := readArtifact_eq_ok.mp hartifact
    simp only [Fallible.check_bind_eq_ok, rejectIf_bind_eq_ok, not_not,
      state_bind, pure_run, Prod.mk.injEq, Except.ok.injEq] at h
    obtain ⟨hdigest, identityAfter, hafter, rfl, rfl, rfl⟩ := h
    have hheaderEq : header = ⟨manifest.toVec.length, signature.length, artifact.length⟩ := by
      rw [hlength, hsigned, hbytes, ← hsignatureLength]
    have hall : reader.rest = packageBytes manifest signature artifact ++ last.rest := by
      rw [hrest, hrestM, hrestS, hrestA, packageBytes, ← hheaderEq]
      simp only [append_assoc]
    -- the file has the length that its header gives, so nothing is left
    have hnothing : last.rest = [] := by
      have hcount := congrArg length hall
      rw [← hlen, ← hidentity hbefore, htotal, packageBytes, length_append,
        length_append, length_append, length_append, PackageHeader.bytes_length,
        hlength, hsigned, hbytes, hsignatureLength] at hcount
      exact eq_nil_of_length_eq_zero (by omega)
    have hhashedAll : last.hashed = reader.hashed ++ reader.rest := by
      rw [hhashedA, hhashedS, hhashedM, hhashed, hrest, hrestM, hrestS, hrestA, hnothing]
      simp only [append_assoc, append_nil]
    rw [hnothing, append_nil] at hall
    refine ⟨manifest, signature, artifact, key, identityAfter, ?_, hall, hnothing, hhashedAll,
      hbefore, hafter, by rw [hhashedAll]⟩
    exact ⟨hvalid, hlength ▸ hmanifestLength.2, htrusted, hcovers, hsigned,
      by simpa using hverifies, requireCompatible_eq_ok.mp hcompatible, hbytes.trans hartifactLength.symm, hdigest⟩
  · rintro ⟨manifest, signature, artifact, key, identity, hpacks, hbytes, hrest, hhashed, hbefore,
      hafter, rfl⟩
    have hlimit := UpdateManifestV1.artifactLength_of_valid hpacks.valid
    have hpackage : before.len = headerLength + manifest.toVec.length + signature.length +
        artifact.length := by
      rw [hlen, hbytes, packageBytes, length_append, length_append, length_append,
        PackageHeader.bytes_length]
    have hnonempty := manifest.toVec_length_ne_zero
    refine ⟨identity, hbefore, by rw [hidentity hbefore, hpackage, hpacks.signed]; omega, ?_⟩
    refine bind_eq_ok.mpr ⟨⟨manifest.toVec.length, signature.length, artifact.length⟩,
      ⟨manifest.toVec ++ signature ++ artifact, _⟩,
      readHeader_eq_ok.mpr ⟨hpacks.header_fits, ?_, rfl⟩, ?_⟩
    · rw [hbytes, packageBytes, append_assoc, append_assoc, append_assoc]
    simp only [rejectIf_bind_eq_ok, not_or, not_lt, not_not]
    refine ⟨⟨hnonempty, hpacks.fits⟩, hpacks.signed, ?_, ?_, ?_⟩
    · rw [hpacks.artifactLength]
      exact hlimit
    · rw [hidentity hbefore, hpackage]
    refine bind_eq_ok.mpr ⟨manifest.toVec, ⟨signature ++ artifact, _⟩,
      readExactHashed_eq_ok.mpr ⟨rfl, append_assoc .., rfl⟩, ?_⟩
    simp only [Fallible.check_bind_eq_ok, rejectIf_bind_eq_ok, not_not]
    refine ⟨manifest, manifestFromSlice_eq_ok.mpr (hserde manifest hpacks.valid), manifest.toVec,
      canonicalManifestBytes_eq_ok.mpr ⟨hpacks.valid, rfl⟩, rfl, hpacks.artifactLength.symm, ?_⟩
    refine bind_eq_ok.mpr ⟨signature, ⟨artifact, _⟩,
      readExactHashed_eq_ok.mpr ⟨hpacks.signed, rfl, rfl⟩, ?_⟩
    simp only [Fallible.check_bind_eq_ok, rejectIf_bind_eq_ok, not_not]
    refine ⟨key, UpdatePackageStager.trustKeyFor_eq_ok.mpr ⟨hpacks.trusted, hpacks.covers⟩,
      hpacks.verifies, (), requireCompatible_eq_ok.mpr hpacks.compatible, ?_⟩
    refine bind_eq_ok.mpr ⟨artifact, ⟨[], _⟩,
      readArtifact_eq_ok.mpr ⟨artifact, rfl, (append_nil _).symm, rfl, rfl⟩, ?_⟩
    simp only [Fallible.check_bind_eq_ok, rejectIf_bind_eq_ok, not_not,
      state_bind, pure_run, Prod.mk.injEq, Except.ok.injEq]
    have hhashedAll : reader.hashed ++
        (⟨manifest.toVec.length, signature.length, artifact.length⟩ : PackageHeader).bytes ++
        manifest.toVec ++ signature ++ artifact = reader.hashed ++ reader.rest := by
      rw [hbytes, packageBytes]
      simp only [append_assoc]
    refine ⟨hpacks.artifactSha256, identity, hafter, rfl, by rw [hhashedAll], ?_⟩
    obtain ⟨rest', hashed'⟩ := reader'
    rw [hhashedAll]
    exact congrArg₂ PackageReader.mk hrest.symm hhashed.symm

/-! ## Manifests are told by their JSON -/

theorem isPlain_of_isIdentifierChar {c : Char} (h : isIdentifierChar c) : JsonToken.isPlain c := by
  simp only [JsonToken.isPlain, Bool.and_eq_true, bne_iff_ne, decide_eq_true_eq]
  refine ⟨⟨?_, ?_⟩, ?_⟩
  · rintro rfl
    exact absurd h (by decide)
  · rintro rfl
    exact absurd h (by decide)
  · simp only [isIdentifierChar, isAsciiDigit, isAsciiLowercase, Bool.or_eq_true, Bool.and_eq_true,
      decide_eq_true_eq, beq_iff_eq, Char.le_def, UInt32.le_iff_toNat_le] at h
    rcases h with ((((⟨h, -⟩ | ⟨h, -⟩) | ⟨h, -⟩) | rfl) | rfl) | rfl
    · exact (show 32 ≤ 48 by decide).trans h
    · exact (show 32 ≤ 97 by decide).trans h
    · exact (show 32 ≤ 65 by decide).trans h
    all_goals decide

theorem isPlainText_of_identifierChars (h : ∀ c ∈ value.toList, isIdentifierChar c) :
    (JsonToken.string value).isPlainText :=
  all_eq_true.mpr fun c hc => isPlain_of_isIdentifierChar (h c hc)

theorem isPlainText_of_identifier {failure : UpdateCompatibilityFailureV1}
    (h : validateIdentifier failure value = .ok ()) : (JsonToken.string value).isPlainText := by
  rw [validateIdentifier, check_unless_eq_ok, not_or, not_or, not_not] at h
  exact isPlainText_of_identifierChars (all_eq_true.mp h.1.2.2)

theorem isPlainText_of_version {version : NumericVersionV1}
    (h : NumericVersionV1.parse value = .ok version) : (JsonToken.string value).isPlainText := by
  rw [NumericVersionV1.parse, check_unless_eq_ok, not_or, not_or] at h
  apply isPlainText_of_identifierChars
  intro c hc
  have hchar := h.1.2.2
  simp only [Bool.not_eq_true, any_eq_false, Bool.not_eq_false'] at hchar
  have := hchar c hc
  simp only [isIdentifierChar, Bool.or_eq_true, beq_iff_eq] at this ⊢
  tauto

theorem isPlainText_of_digest (digest : Sha256Digest) :
    (JsonToken.string digest.text).isPlainText := by
  apply isPlainText_of_identifierChars
  intro c hc
  have hhash := digest.wellFormed
  rw [isHash, decide_eq_true_eq] at hhash
  have hdigit := all_eq_true.mp hhash.2 c hc
  simp only [isLowerHexDigit, isIdentifierChar, isAsciiLowercase, Bool.or_eq_true,
    Bool.and_eq_true, decide_eq_true_eq] at hdigit ⊢
  rcases hdigit with hdigit | ⟨ha, hf⟩
  · exact .inl (.inl (.inl (.inl (.inl hdigit))))
  · exact .inl (.inl (.inl (.inl (.inr ⟨ha, hf.trans (by decide)⟩))))

theorem mem_or_eq_of_splitOn (sep : Char) {c : Char} {text : List Char} (h : c ∈ text) :
    c = sep ∨ ∃ piece ∈ text.splitOn sep, c ∈ piece := by
  have hintersperse (pieces : List (List Char)) (piece : List Char)
      (h : piece ∈ pieces.intersperse [sep]) : piece = [sep] ∨ piece ∈ pieces := by
    induction pieces with
    | nil => exact .inr h
    | cons first rest ih =>
      cases rest with
      | nil => exact .inr h
      | cons second rest =>
        rw [intersperse_cons_cons] at h
        simp only [mem_cons] at h ih ⊢
        rcases h with rfl | rfl | h
        · exact .inr (.inl rfl)
        · exact .inl rfl
        · exact (ih h).imp_right .inr
  have hjoined : [sep].intercalate (text.splitOn sep) = text := intercalate_splitOn sep
  rw [← hjoined] at h
  obtain ⟨piece, hpiece, hc⟩ := mem_flatten.mp h
  rcases hintersperse _ _ hpiece with rfl | hpiece
  · exact .inl (mem_singleton.mp hc)
  · exact .inr ⟨piece, hpiece, hc⟩

theorem isPlainText_of_applicationId (h : validateApplicationId value = .ok ()) :
    (JsonToken.string value).isPlainText := by
  rw [validateApplicationId, check_unless_eq_ok, not_or, not_or, not_not] at h
  apply isPlainText_of_identifierChars
  intro c hc
  rcases mem_or_eq_of_splitOn '.' hc with rfl | ⟨part, hpart, hc⟩
  · decide
  · have hchars := all_eq_true.mp h.1.2.2 part hpart
    simp only [isApplicationIdPart, Bool.and_eq_true, all_eq_true] at hchars
    have := hchars.1.2 c hc
    simp only [isIdentifierChar, Bool.or_eq_true, beq_iff_eq] at this ⊢
    tauto

theorem UpdateManifestV1.plainTexts {manifest : UpdateManifestV1}
    (h : manifest.validate = .ok ()) :
    (JsonToken.string manifest.applicationId).isPlainText ∧
      (JsonToken.string manifest.keyId).isPlainText ∧
      (JsonToken.string manifest.releaseId).isPlainText := by
  simp only [UpdateManifestV1.validate, check_unless_eq_ok, check_then_eq_ok] at h
  exact ⟨isPlainText_of_applicationId h.2.1, isPlainText_of_identifier h.2.2.1,
    isPlainText_of_identifier h.2.2.2.1⟩

theorem AcceptedDatabaseLineageV1.legible (lineage : AcceptedDatabaseLineageV1) :
    Legible lineage.tokens := by
  apply legible_object
  simp only [forall_mem_cons, not_mem_nil, false_implies, implies_true, and_true]
  exact ⟨⟨by decide, legible_singleton rfl⟩, by decide,
    legible_singleton (isPlainText_of_digest _)⟩

theorem UpdateManifest.legible (h : manifest.validate = .ok ()) : Legible manifest.tokens := by
  obtain ⟨target, sourceMin, sourceMax, minimum, htarget, hmin, hmax, hmacos⟩ :=
    UpdateManifestV1.parses h
  obtain ⟨happlication, hkey, hrelease⟩ := UpdateManifestV1.plainTexts h
  have hchannel : (JsonToken.string manifest.channel.name).isPlainText := by
    cases manifest.channel <;> decide
  have hos : (JsonToken.string manifest.targetOs.name).isPlainText := by
    cases manifest.targetOs <;> decide
  have harchitecture : (JsonToken.string manifest.targetArchitecture.name).isPlainText := by
    cases manifest.targetArchitecture <;> decide
  have hkind : (JsonToken.string manifest.artifactKind.name).isPlainText := by
    cases manifest.artifactKind
    decide
  apply legible_object
  simp only [forall_mem_cons, not_mem_nil, false_implies, implies_true, and_true]
  refine ⟨⟨by decide, legible_singleton rfl⟩, ⟨by decide, legible_singleton happlication⟩,
    ⟨by decide, legible_singleton hchannel⟩, ⟨by decide, legible_singleton hkey⟩,
    ⟨by decide, legible_singleton hrelease⟩, ⟨by decide, legible_singleton rfl⟩,
    ⟨by decide, legible_singleton (isPlainText_of_version htarget)⟩,
    ⟨by decide, legible_singleton hos⟩, ⟨by decide, legible_singleton harchitecture⟩,
    ⟨by decide, legible_singleton (isPlainText_of_version hmacos)⟩,
    ⟨by decide, legible_singleton hkind⟩, ⟨by decide, legible_singleton rfl⟩,
    ⟨by decide, legible_singleton (isPlainText_of_digest _)⟩,
    ⟨by decide, legible_singleton (isPlainText_of_version hmin)⟩,
    ⟨by decide, legible_singleton (isPlainText_of_version hmax)⟩, ⟨by decide, ?_⟩,
    ⟨by decide, legible_singleton rfl⟩,
    ⟨by decide, legible_singleton (isPlainText_of_digest _)⟩,
    ⟨by decide, legible_singleton rfl⟩, by decide, legible_singleton rfl⟩
  apply legible_array
  intro item hitem
  obtain ⟨lineage, -, rfl⟩ := mem_map.mp hitem
  exact lineage.legible

theorem Sha256Digest.text_injective : Function.Injective Sha256Digest.text := by
  rintro ⟨text, h⟩ ⟨text', h'⟩ rfl
  rfl

theorem AcceptedDatabaseLineageV1.tokens_append_inj (a b : AcceptedDatabaseLineageV1)
    (rest rest' : List JsonToken) (h : a.tokens ++ rest = b.tokens ++ rest') :
    a = b ∧ rest = rest' := by
  obtain ⟨schemaVersion, digest⟩ := a
  obtain ⟨schemaVersion', digest'⟩ := b
  simp only [tokens, jsonObject, separated, map_cons, map_nil, flatMap_cons,
    flatMap_nil, cons_append, nil_append, append_nil, cons.injEq,
    JsonToken.number.injEq, JsonToken.string.injEq, true_and] at h
  obtain ⟨rfl, htext, hrest⟩ := h
  exact ⟨congrArg _ (Sha256Digest.text_injective htext), hrest⟩

/-- **Manifests are told by their tokens.** -/
theorem UpdateManifest.tokens_injective : Function.Injective UpdateManifest.tokens := by
  have hchannel : Function.Injective UpdateChannelV1.name := by
    intro a b h
    cases a <;> cases b <;> simp_all [UpdateChannelV1.name]
  have hos : Function.Injective UpdateOperatingSystemV1.name := by
    intro a b h
    cases a <;> cases b <;> simp_all [UpdateOperatingSystemV1.name]
  have harchitecture : Function.Injective UpdateArchitectureV1.name := by
    intro a b h
    cases a <;> cases b <;> simp_all [UpdateArchitectureV1.name]
  rintro ⟨⟨schemaVersion, applicationId, channel, keyId, releaseId, releaseSequence, targetVersion,
    targetOs, targetArchitecture, minimumMacosVersion, artifactLength, sourceMin, sourceMax,
    databases, databaseSchemaVersion, migrationPrefix, backupFormat, assetManifest⟩, ⟨⟩, digest,
    _, _, _, _, _, _, _⟩ ⟨⟨schemaVersion', applicationId', channel', keyId', releaseId',
    releaseSequence', targetVersion', targetOs', targetArchitecture', minimumMacosVersion',
    artifactLength', sourceMin', sourceMax', databases', databaseSchemaVersion', migrationPrefix',
    backupFormat', assetManifest'⟩, ⟨⟩, digest', _, _, _, _, _, _, _⟩ h
  simp only [tokens, jsonObject, separated, map_cons, map_nil, flatMap_cons,
    flatMap_nil, cons_append, nil_append, append_nil, cons.injEq,
    JsonToken.number.injEq, JsonToken.string.injEq, true_and] at h
  obtain ⟨rfl, rfl, hchannelName, rfl, rfl, rfl, rfl, hosName, harchitectureName, rfl, rfl, hdigest,
    rfl, rfl, hrest⟩ := h
  obtain rfl := hchannel hchannelName
  obtain rfl := hos hosName
  obtain rfl := harchitecture harchitectureName
  obtain rfl := Sha256Digest.text_injective hdigest
  -- the databases are an array in the middle of the object
  rw [append_assoc, append_assoc] at hrest
  obtain ⟨rfl, hafter⟩ := array_append_inj AcceptedDatabaseLineageV1.tokens_append_inj
    (by simp [AcceptedDatabaseLineageV1.tokens, jsonObject]) (fun _ => cons_ne_nil _ _) hrest
  simp only [cons_append, nil_append, cons.injEq, JsonToken.number.injEq,
    JsonToken.string.injEq, true_and, and_true] at hafter
  obtain ⟨rfl, hprefix, rfl, rfl⟩ := hafter
  obtain rfl := Sha256Digest.text_injective hprefix
  rfl

/-- **Valid manifests are told by their JSON.** -/
theorem UpdateManifest.toVec_injective {manifest' : UpdateManifest} (h : manifest.validate = .ok ())
    (h' : manifest'.validate = .ok ()) (heq : manifest.toVec = manifest'.toVec) :
    manifest = manifest' :=
  UpdateManifest.tokens_injective (jsonBytes_injective (legible h) (legible h') heq)

/-! ## Exactness -/

theorem PackageHeader.Fits.eq_of_bytes {header header' : PackageHeader} (h : header.Fits)
    (h' : header'.Fits) (heq : header.bytes = header'.bytes) : header = header' := by
  rw [← h.fields_of_bytes.2, heq, h'.fields_of_bytes.2]

/-- **A package is told from what follows it**: its lengths come first, and its manifest has one
form. -/
theorem Packs.append_inj {manifest' : UpdateManifest} {signature' artifact' rest rest' : List UInt8}
    {key' : UpdateTrustKey}
    (hserde : ∀ manifest : UpdateManifest, manifest.validate = .ok () →
      services.fromSlice manifest.toVec = some manifest)
    (h : Packs services stager context manifest signature artifact key)
    (h' : Packs services stager context manifest' signature' artifact' key')
    (heq : packageBytes manifest signature artifact ++ rest =
      packageBytes manifest' signature' artifact' ++ rest') :
    manifest = manifest' ∧ signature = signature' ∧ artifact = artifact' ∧ rest = rest' := by
  simp only [packageBytes, List.append_assoc] at heq
  obtain ⟨hheader, hrest⟩ := List.append_inj heq
    ((PackageHeader.bytes_length _).trans (PackageHeader.bytes_length _).symm)
  obtain ⟨hmanifest, hsignature, hartifact⟩ := PackageHeader.mk.inj
    (h.header_fits.eq_of_bytes h'.header_fits hheader)
  obtain ⟨hvec, hafterManifest⟩ := List.append_inj hrest hmanifest
  obtain ⟨rfl, hafterSignature⟩ := List.append_inj hafterManifest hsignature
  obtain ⟨rfl, rfl⟩ := List.append_inj hafterSignature hartifact
  refine ⟨?_, rfl, rfl, rfl⟩
  have hread := hserde manifest h.valid
  rw [hvec, hserde manifest' h'.valid] at hread
  exact (Option.some.inj hread).symm

def PackageFile.Settled (self : PackageFile) (after : FileMetadata) : Prop :=
  ∃ identity, privateRegularFileIdentity self.metadata = .ok identity ∧
    privateRegularFileIdentity after = .ok identity

theorem PackageFile.verify_eq_ok {file : PackageFile} {after : FileMetadata}
    {verified : VerifiedPackage}
    (hserde : ∀ manifest : UpdateManifest, manifest.validate = .ok () →
      services.fromSlice manifest.toVec = some manifest) :
    file.verify services stager context after = .ok verified ↔
      ∃ manifest signature artifact key identity,
        Packs services stager context manifest signature artifact key ∧
        file.bytes = packageBytes manifest signature artifact ∧
        privateRegularFileIdentity file.metadata = .ok identity ∧
        privateRegularFileIdentity after = .ok identity ∧
        verified = ⟨identity, manifest, services.digest manifest.toVec,
          services.digest file.bytes, key.keyId⟩ := by
  have hread (reader' : PackageReader) := @verifyFile_eq_ok services stager context file.metadata
    after ⟨file.bytes, []⟩ reader' verified file.measured hserde
  constructor
  · intro h
    obtain ⟨manifest, signature, artifact, key, identity, hpacks, hbytes, -, -, hbefore, hafter,
      hverified⟩ := (hread _).mp (Prod.ext h rfl)
    exact ⟨manifest, signature, artifact, key, identity, hpacks, hbytes, hbefore, hafter, hverified⟩
  · rintro ⟨manifest, signature, artifact, key, identity, hpacks, hbytes, hbefore, hafter,
      hverified⟩
    have hrun := (hread ⟨[], [] ++ file.bytes⟩).mpr ⟨manifest, signature, artifact, key,
      identity, hpacks, hbytes, rfl, rfl, hbefore, hafter, hverified⟩
    exact congrArg Prod.fst hrun

/-- **The format is exact.** Where a JSON reader reads what the serializer writes of a valid
manifest: a settled file is accepted exactly when it is what the encoder makes of a manifest, a
signature and an artifact that belong together; these are unique; no accepted file is the
beginning of another; and what the encoder makes within the limits, signed by a trusted key and
fit for what is installed, is accepted. -/
theorem update_package_format_exact (services : UpdateServices)
    (hserde : ∀ manifest : UpdateManifest, manifest.validate = .ok () →
      services.fromSlice manifest.toVec = some manifest)
    (stager : UpdatePackageStager) (context : TrustedUpdateRuntimeContext) :
    (∀ (file : PackageFile) after,
      (∃ verified, file.verify services stager context after = .ok verified) ↔
        file.Settled after ∧ ∃ manifest signature artifact key,
          Packs services stager context manifest signature artifact key ∧
          encodeUpdatePackage services manifest signature artifact = .ok file.bytes) ∧
    (∀ manifest signature artifact key manifest' signature' artifact' key' bytes,
      Packs services stager context manifest signature artifact key →
      Packs services stager context manifest' signature' artifact' key' →
      encodeUpdatePackage services manifest signature artifact = .ok bytes →
      encodeUpdatePackage services manifest' signature' artifact' = .ok bytes →
      manifest = manifest' ∧ signature = signature' ∧ artifact = artifact' ∧ key = key') ∧
    (∀ (file file' : PackageFile) after after' verified verified',
      file.verify services stager context after = .ok verified →
      file'.verify services stager context after' = .ok verified' →
      file.bytes <+: file'.bytes → file.bytes = file'.bytes) ∧
    ∀ manifest signature artifact key bytes,
      encodeUpdatePackage services manifest signature artifact = .ok bytes →
      manifest.toVec.length ≤ maxManifestBytes →
      key ∈ stager.trustKeys → key.covers manifest →
      services.verify key.publicKey (domainSeparator ++ manifest.toVec) signature →
      evaluateUpdateCompatibility manifest.toUpdateManifestV1 (context.compatibilityFor key) =
        .ok .compatible →
      ∀ (file : PackageFile) after, file.bytes = bytes → file.Settled after →
        ∃ verified, file.verify services stager context after = .ok verified ∧
          verified.manifest = manifest := by
  refine ⟨fun file after => ?_, ?_, ?_, ?_⟩
  · constructor
    · rintro ⟨verified, h⟩
      obtain ⟨manifest, signature, artifact, key, identity, hpacks, hbytes, hbefore, hafter, -⟩ :=
        (PackageFile.verify_eq_ok hserde).mp h
      refine ⟨⟨identity, hbefore, hafter⟩, manifest, signature, artifact, key, hpacks, ?_⟩
      rw [hbytes]
      exact hpacks.encodes
    · rintro ⟨⟨identity, hbefore, hafter⟩, manifest, signature, artifact, key, hpacks, hencode⟩
      have hbytes := Except.ok.inj (hpacks.encodes.symm.trans hencode)
      exact ⟨_, (PackageFile.verify_eq_ok hserde).mpr
        ⟨manifest, signature, artifact, key, identity, hpacks, hbytes.symm, hbefore, hafter, rfl⟩⟩
  · intro manifest signature artifact key manifest' signature' artifact' key' bytes h h' hencode
      hencode'
    have hbytes := Except.ok.inj (h.encodes.symm.trans hencode)
    have hbytes' := Except.ok.inj (h'.encodes.symm.trans hencode')
    have hsame : packageBytes manifest signature artifact ++ [] =
        packageBytes manifest' signature' artifact' ++ [] := by rw [hbytes, hbytes']
    obtain ⟨rfl, rfl, rfl, -⟩ := h.append_inj hserde h' hsame
    have hkey := UpdatePackageStager.trustKeyFor_eq_ok.mpr ⟨h.trusted, h.covers⟩
    have hkey' := UpdatePackageStager.trustKeyFor_eq_ok.mpr ⟨h'.trusted, h'.covers⟩
    exact ⟨rfl, rfl, rfl, Except.ok.inj (hkey.symm.trans hkey')⟩
  · rintro file file' after after' verified verified' h h' ⟨rest, hprefix⟩
    obtain ⟨manifest, signature, artifact, key, -, hpacks, hbytes, -⟩ :=
      (PackageFile.verify_eq_ok hserde).mp h
    obtain ⟨manifest', signature', artifact', key', -, hpacks', hbytes', -⟩ :=
      (PackageFile.verify_eq_ok hserde).mp h'
    have hsame : packageBytes manifest signature artifact ++ rest =
        packageBytes manifest' signature' artifact' ++ [] := by
      rw [← hbytes, hprefix, hbytes', List.append_nil]
    obtain ⟨-, -, -, rfl⟩ := hpacks.append_inj hserde hpacks' hsame
    rw [← hprefix, List.append_nil]
  · rintro manifest signature artifact key bytes hencode hfits htrusted hcovers hverifies
      hcompatible file after rfl ⟨identity, hbefore, hafter⟩
    obtain ⟨hvalid, hsigned, hlength, hdigest, hbytes⟩ := encodeUpdatePackage_eq_ok.mp hencode
    have hpacks : Packs services stager context manifest signature artifact key :=
      ⟨hvalid, hfits, htrusted, hcovers, hsigned, hverifies, hcompatible, hlength, hdigest⟩
    exact ⟨_, (PackageFile.verify_eq_ok hserde).mpr ⟨manifest, signature, artifact, key, identity,
      hpacks, hbytes.symm, hbefore, hafter, rfl⟩, rfl⟩

namespace Example

def archive : List UInt8 := List.replicate 4096 80

def packagedRelease : UpdateManifest where
  toUpdateManifestV1 := secondRelease
  artifactKind := .macosApplicationArchive
  artifactSha256 := digestOf 'd' (by decide)
  schemaVersion_lt := by decide
  releaseSequence_lt := by decide
  artifactLength_lt := by decide
  acceptedDatabases_lt := by decide
  targetDatabaseSchemaVersion_lt := by decide
  requiredBackupFormatVersion_lt := by decide
  requiredAssetManifestVersion_lt := by decide

def releaseKey : UpdateTrustKey := ⟨"wardrobe-release-2026", List.replicate 32 7, 2, 100⟩

def releaseStager : UpdatePackageStager := ⟨[releaseKey], by decide⟩

def firstRuntime : TrustedUpdateRuntimeContext where
  applicationId := updateApplicationIdV1
  channel := .personal
  applicationVersion := "0.1.0"
  installedReleaseSequence := 1
  operatingSystem := .macos
  architecture := .aarch64
  macosVersion := "15.5.0"
  database := sourceDatabase
  supportedBackupFormatVersion := 1
  supportedAssetManifestVersion := 1

open Classical in
noncomputable def packageServices : UpdateServices where
  fromSlice bytes :=
    if h : ∃ manifest : UpdateManifest, manifest.validate = .ok () ∧ manifest.toVec = bytes then
      some h.choose
    else none
  digest bytes := if bytes = archive then digestOf 'd' (by decide) else digestOf 'e' (by decide)
  verify publicKey message signature := signature == publicKey ++ message.take 32

theorem packageServices_reads (manifest : UpdateManifest) (h : manifest.validate = .ok ()) :
    packageServices.fromSlice manifest.toVec = some manifest := by
  have hexists : ∃ other : UpdateManifest, other.validate = .ok () ∧
      other.toVec = manifest.toVec := ⟨manifest, h, rfl⟩
  refine (dif_pos hexists).trans (congrArg some ?_)
  exact UpdateManifest.toVec_injective hexists.choose_spec.1 h hexists.choose_spec.2

theorem packaged_release_taken :
    ∃ bytes, encodeUpdatePackage packageServices packagedRelease
        (releaseKey.publicKey ++ (domainSeparator ++ packagedRelease.toVec).take 32) archive =
        .ok bytes ∧
      ∀ (file : PackageFile) after, file.bytes = bytes → file.Settled after →
        ∃ verified, file.verify packageServices releaseStager firstRuntime after = .ok verified ∧
          verified.manifest = packagedRelease := by
  have hvalid : packagedRelease.validate = .ok () := by decide +kernel
  have hfits : packagedRelease.toVec.length ≤ maxManifestBytes := by decide +kernel
  have hsigned : (releaseKey.publicKey ++
      (domainSeparator ++ packagedRelease.toVec).take 32).length = signatureLength := by
    decide +kernel
  have hcompatible : evaluateUpdateCompatibility packagedRelease.toUpdateManifestV1
      (firstRuntime.compatibilityFor releaseKey) = .ok .compatible := by decide +kernel
  have harchive : archive.length = packagedRelease.artifactLength := by
    rw [archive, List.length_replicate]
    rfl
  have hdigest : packageServices.digest archive = packagedRelease.artifactSha256 := by
    simp only [packageServices, if_true]
    rfl
  have hencode : encodeUpdatePackage packageServices packagedRelease (releaseKey.publicKey ++
      (domainSeparator ++ packagedRelease.toVec).take 32) archive = .ok _ :=
    encodeUpdatePackage_eq_ok.mpr ⟨hvalid, hsigned, harchive, hdigest, rfl⟩
  refine ⟨_, hencode, ?_⟩
  have hverifies : packageServices.verify releaseKey.publicKey
      (domainSeparator ++ packagedRelease.toVec)
      (releaseKey.publicKey ++ (domainSeparator ++ packagedRelease.toVec).take 32) :=
    beq_self_eq_true _
  exact (update_package_format_exact packageServices packageServices_reads releaseStager
    firstRuntime).2.2.2 packagedRelease _ archive releaseKey _ hencode hfits
    (List.mem_singleton_self _) (by decide +kernel) hverifies hcompatible

end Example

end Threadbook.Update
