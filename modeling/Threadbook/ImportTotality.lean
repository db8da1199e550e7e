import Threadbook.ImportEffects

/-!
# When the transactions of an import succeed

No two contents have the same digest (`Function.Injective services.digest`), and the parser
lists a part before its parts. Then a transaction of an import fails only where a source was
recorded under another identity before, or with bytes that it now has not.
-/

namespace Threadbook.Imports

variable {services : ImportServices} {t t' : ImportTables}

variable {id : SourceId} {blob : BlobRecord}

theorem SourceId.KnownBy.kind {kind kind' : SourceKind} {identity identity' : IdentityKey}
    (h : id.KnownBy kind identity) (h' : id.KnownBy kind' identity') : kind = kind' := by
  cases id <;> exact h.1.trans h'.1.symm

section

variable (hc : Consistent services t)

include hc

theorem putBlob_total (hdigest : Function.Injective services.digest) {bytes : List UInt8}
    {maxBytes : ℕ} (hsmall : bytes.length ≤ maxBytes) :
    ∃ record, (putBlob services bytes maxBytes t).1 = .ok record := by
  rw [putBlob, if_neg (Nat.not_lt.mpr hsmall)]
  split
  · rename_i stored hstored
    rw [hdigest (hc.files _ _ hstored), if_pos rfl]
    exact ⟨_, rfl⟩
  · exact ⟨_, rfl⟩

theorem insertBlobRecord_total (hdigest : Function.Injective services.digest)
    (hblob : Describes services blob.sha256 blob.byteLength) :
    ∃ t', insertBlobRecord blob t = .ok t' := by
  rw [insertBlobRecord]
  split
  · rename_i length hlength
    obtain ⟨bytes, hbytes, hbyteLength⟩ := hblob
    obtain ⟨stored, hstored, rfl⟩ := hc.blobs _ _ hlength
    obtain rfl := hdigest (hbytes.trans hstored.symm)
    rw [if_pos hbyteLength]
    exact ⟨t, rfl⟩
  · exact ⟨_, rfl⟩

theorem upsertSource_total {row : LocalSourceRow}
    {update : LocalSourceRow → Except PlatformError LocalSourceRow}
    (hknown : id.KnownBy row.sourceKind row.identityKey)
    (hsame : ∀ stored, t.localSources.find? id = some stored →
      stored.identityKey = row.identityKey ∧ ∃ updated, update stored = .ok updated) :
    ∃ t', upsertSource id row update t = .ok t' := by
  rw [upsertSource]
  split
  · rename_i storedId stored hfound
    obtain ⟨-, hstored, -⟩ := sourceWith_eq_some hc hknown hfound
    obtain ⟨updated, hupdated⟩ := (hsame stored hstored).2
    rw [hupdated]
    exact ⟨_, rfl⟩
  · rename_i hnone
    rcases hfind : t.localSources.find? id with _ | stored
    · exact ⟨_, rfl⟩
    · -- a row of the same identity would have been found
      have hkind := (hc.keyed _ _ hfind).known.kind hknown
      exact absurd ⟨hkind, (hsame stored hfind).1⟩ (sourceWith_eq_none hnone hfind)

theorem recordMaterializedSource_total (hdigest : Function.Injective services.digest)
    {entry : SourceEntry} (hknown : entry.Known) {reason : Option Reason}
    (hblob : Describes services blob.sha256 blob.byteLength)
    (hsame : ∀ stored, t.localSources.find? entry.sourceId = some stored →
      stored.identityKey = entry.identityKey) :
    ∃ t', recordMaterializedSource entry blob reason t = .ok t' := by
  obtain ⟨t₁, hinsert⟩ := insertBlobRecord_total hc hdigest hblob
  obtain ⟨blobs, rfl, hc₁⟩ := insertBlobRecord_eq_ok hc hblob hinsert
  obtain ⟨t₂, hupsert⟩ : ∃ t₂, upsertSource entry.sourceId
      (materializedRow entry (.blob blob.sha256 blob.byteLength) reason none)
      (fun stored => .ok (materializedRow entry (.blob blob.sha256 blob.byteLength) reason
        (some stored))) { t with blobs := blobs } = .ok t₂ :=
    upsertSource_total hc₁ hknown.identity fun stored hstored => ⟨hsame stored hstored, _, rfl⟩
  cases reason with
  | none => exact ⟨t₂, check_bind_eq_ok.mpr ⟨_, hinsert, check_bind_eq_ok.mpr ⟨t₂, hupsert, rfl⟩⟩⟩
  | some reason =>
    exact ⟨_, check_bind_eq_ok.mpr ⟨_, hinsert, check_bind_eq_ok.mpr ⟨t₂, hupsert, rfl⟩⟩⟩

theorem upsertQuarantineSource_total {entry : SourceEntry} (hknown : entry.Known) {reason : Reason}
    (hsame : ∀ stored, t.localSources.find? entry.sourceId = some stored →
      stored.identityKey = entry.identityKey ∧ ∃ reason, stored.blob = .noBlob reason) :
    ∃ t', upsertQuarantineSource entry reason t = .ok t' := by
  refine Exists.elim (upsertSource_total hc hknown.identity fun stored hstored => ?_)
    fun t₁ hupsert => ⟨_, check_bind_eq_ok.mpr ⟨t₁, hupsert, rfl⟩⟩
  obtain ⟨hidentity, oldReason, hblob⟩ := hsame stored hstored
  exact ⟨hidentity, _, by rw [hblob]⟩

theorem recordMboxChild_total (hdigest : Function.Injective services.digest) {parent : SourceId}
    {byteRange : ℕ × ℕ} {ordinal : ℕ} (hblob : Describes services blob.sha256 blob.byteLength) :
    ∃ t', recordMboxChild parent blob byteRange ordinal t = .ok t' := by
  obtain ⟨t₁, hinsert⟩ := insertBlobRecord_total hc hdigest hblob
  obtain ⟨blobs, rfl, hc₁⟩ := insertBlobRecord_eq_ok hc hblob hinsert
  have hknown : (SourceId.mboxMessage parent blob.sha256 ordinal).KnownBy .mboxMessage
      (.mboxMessage parent blob.sha256 ordinal) := ⟨rfl, rfl⟩
  obtain ⟨t₂, hupsert⟩ : ∃ t₂, upsertSource (.mboxMessage parent blob.sha256 ordinal)
      (childRow parent blob.sha256 blob.byteLength byteRange ordinal none)
      (fun stored => .ok { stored with byteRange := some byteRange })
      { t with blobs := blobs } = .ok t₂ :=
    upsertSource_total hc₁ hknown fun stored hstored => ⟨(hc.keyed _ _ hstored).known.2, _, rfl⟩
  exact ⟨t₂, check_bind_eq_ok.mpr ⟨_, hinsert, hupsert⟩⟩

theorem markSourceQuarantined_total {parent : SourceId} {sha256 : String} {ordinal : ℕ}
    {reason : Reason} (hrow : (t.localSources.find? (.mboxMessage parent sha256 ordinal)).isSome) :
    ∃ t', markSourceQuarantined (.mboxMessage parent sha256 ordinal) reason t = .ok t' := by
  obtain ⟨stored, hstored⟩ := Option.isSome_iff_exists.mp hrow
  obtain ⟨length, hblob⟩ := (hc.keyed _ _ hstored).message _ _ _ rfl
  rw [markSourceQuarantined, hstored]
  simp only [hblob]
  exact ⟨_, rfl⟩

end

theorem recordMessagePart_total {part : PreparedMimePart}
    (hparent : ∀ parent ∈ part.parentOrdinal, parent = part.ordinal ∨
      (t.mimeParts.find? (id, parent)).isSome) :
    ∃ t', recordMessagePart id t part = .ok t' ∧
      (t'.mimeParts.find? (id, part.ordinal)).isSome ∧
      ∀ key, (t.mimeParts.find? key).isSome → (t'.mimeParts.find? key).isSome := by
  have hgrow : ∀ key, (t.mimeParts.find? key).isSome →
      ((t.mimeParts.insertOrIgnore (id, part.ordinal) (mimePartRow part)).1.find? key).isSome := by
    intro key hkey
    rw [find?_insertOrIgnore_or, Option.isSome_or, hkey, Bool.true_or]
  have hself : ((t.mimeParts.insertOrIgnore (id, part.ordinal) (mimePartRow part)).1.find?
      (id, part.ordinal)).isSome := by
    rw [find?_insertOrIgnore_or, if_pos rfl, Option.isSome_or, Option.isSome_some, Bool.or_true]
  rw [recordMessagePart, if_neg]
  · split
    · exact ⟨_, rfl, hself, hgrow⟩
    · exact ⟨_, rfl, hself, hgrow⟩
  · rintro ⟨-, parent, hmem, hnone⟩
    rcases hparent parent hmem with rfl | hstored
    · rw [Option.isNone_iff_eq_none.mp hnone] at hself
      cases hself
    · have hfound := hgrow _ hstored
      rw [Option.isNone_iff_eq_none.mp hnone] at hfound
      cases hfound

/-- **Recording the parts of a mail** succeeds. -/
theorem recordMessageParts_total (hfirst : ParentsFirst services.parse) {bytes : List UInt8}
    {parts : List PreparedMimePart} (h : prepareMessageParts services.parse bytes = .ok parts) :
    ∃ t', recordMessageParts id parts t = .ok t' := by
  have hloop : ∀ (l : List PreparedMimePart) (start : ℕ) (t : ImportTables),
      l.map PreparedMimePart.ordinal = List.range' start l.length →
      (∀ part ∈ l, ∀ parent ∈ part.parentOrdinal, parent < part.ordinal) →
      (∀ ordinal < start, (t.mimeParts.find? (id, ordinal)).isSome) →
      ∃ t', l.foldlM (recordMessagePart id) t = .ok t' := by
    intro l
    induction l with
    | nil => exact fun _ t _ _ _ => ⟨t, rfl⟩
    | cons part l ih =>
      intro start t hordinals hparents hstored
      rw [List.map_cons, List.length_cons, List.range'_succ, List.cons.injEq] at hordinals
      rw [List.forall_mem_cons] at hparents
      have hone : ∃ t₁, recordMessagePart id t part = .ok t₁ ∧ _ := recordMessagePart_total
        fun parent hmem => Or.inr (hstored parent (hordinals.1 ▸ hparents.1 parent hmem))
      obtain ⟨t₁, hpart, hself, hgrow⟩ := hone
      obtain ⟨t', hrest⟩ := ih (start + 1) t₁ hordinals.2 hparents.2 fun ordinal hlt => by
        rcases Nat.lt_succ_iff_lt_or_eq.mp hlt with hlt | rfl
        · exact hgrow _ (hstored ordinal hlt)
        · rwa [hordinals.1] at hself
      exact ⟨t', check_foldlM_cons_eq_ok.mpr ⟨t₁, hpart, hrest⟩⟩
  refine hloop parts 0 t ?_ (parentOrdinal_lt hfirst h) fun ordinal hlt => absurd hlt (by omega)
  rw [ordinal_of_prepareMessageParts h, List.range_eq_range']

end Threadbook.Imports
