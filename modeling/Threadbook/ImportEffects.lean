import Threadbook.ImportRequests

/-!
# What an import changes

Everything an import records is about one source: its row, its quarantine record, its parts and
its evidence, which together are the `SourceView`. Every transaction changes the view of one
source, in a way that its view before determines, and leaves those of all others. A source is
found again by its identity because each row has the identity of its source (`Keyed`).
-/

namespace Threadbook.Imports

open Table Option

variable {services : ImportServices} {t t' t'' : ImportTables}

/-! ## Identities -/

def SourceId.KnownBy : SourceId → SourceKind → IdentityKey → Prop
  | .inRoot kind root device file, k, identity =>
    k = kind.sourceKind ∧ identity = .inRoot root device file
  | .named kind requestId index, k, identity =>
    k = kind.sourceKind ∧ (identity = .named requestId index ∨
      ∃ sha256, identity = .content (.named kind requestId index) sha256)
  | .quarantinedFile requestId index device file, k, identity =>
    k = .folderImage ∧ identity = .quarantinedFile requestId index device file
  | .mboxMessage parent sha256 ordinal, k, identity =>
    k = .mboxMessage ∧ identity = .mboxMessage parent sha256 ordinal

def SourceId.root? : SourceId → Option ImportRootId
  | .inRoot _ root _ _ => some root
  | _ => none

def SourceKind.candidateKind? : SourceKind → Option CandidateKind
  | .folderImage => some .image
  | .eml => some .eml
  | .mbox => some .mbox
  | .mboxMessage => none

def IdentityKey.owner (kind : SourceKind) : IdentityKey → Option SourceId
  | .inRoot root device file => kind.candidateKind?.map (.inRoot · root device file)
  | .named requestId index => kind.candidateKind?.map (.named · requestId index)
  | .content source _ => some source
  | .quarantinedFile requestId index device file =>
    some (.quarantinedFile requestId index device file)
  | .mboxMessage parent sha256 ordinal => some (.mboxMessage parent sha256 ordinal)

theorem candidateKind?_sourceKind (kind : CandidateKind) :
    kind.sourceKind.candidateKind? = some kind := by
  cases kind <;> rfl

variable {id : SourceId} {kind : SourceKind} {identity : IdentityKey} {row : LocalSourceRow}
  {blob : BlobRecord}

/-- **An identity** is of one source only. -/
theorem SourceId.KnownBy.owner (h : id.KnownBy kind identity) : identity.owner kind = some id := by
  cases id with
  | inRoot kind root device file =>
    obtain ⟨rfl, rfl⟩ := h
    rw [IdentityKey.owner, candidateKind?_sourceKind]
    rfl
  | named kind requestId index =>
    obtain ⟨rfl, rfl | ⟨sha256, rfl⟩⟩ := h
    · rw [IdentityKey.owner, candidateKind?_sourceKind]
      rfl
    · rfl
  | quarantinedFile requestId index device file =>
    obtain ⟨-, rfl⟩ := h
    rfl
  | mboxMessage parent sha256 ordinal =>
    obtain ⟨-, rfl⟩ := h
    rfl

theorem SourceId.KnownBy.unique {id' : SourceId} (h : id.KnownBy kind identity)
    (h' : id'.KnownBy kind identity) : id = id' :=
  some.inj (h.owner.symm.trans h'.owner)

structure LocalSourceRow.Keyed (row : LocalSourceRow) (id : SourceId) : Prop where
  known : id.KnownBy row.sourceKind row.identityKey
  root : row.rootId = id.root?
  message : ∀ parent sha256 ordinal, id = .mboxMessage parent sha256 ordinal →
    ∃ length, row.blob = .blob sha256 length
  irregular : ∀ requestId index device file, id = .quarantinedFile requestId index device file →
    ∃ reason, row.blob = .noBlob reason

def Describes (services : ImportServices) (sha256 : String) (length : ℕ) : Prop :=
  ∃ bytes, services.digest bytes = sha256 ∧ bytes.length = length

structure Consistent (services : ImportServices) (t : ImportTables) : Prop where
  keyed : ∀ id row, t.localSources.find? id = some row → row.Keyed id
  files : ∀ sha256 bytes, t.blobFiles.find? sha256 = some bytes → services.digest bytes = sha256
  blobs : ∀ sha256 length, t.blobs.find? sha256 = some length → Describes services sha256 length

theorem sourceWith_eq_some (hc : Consistent services t) (hknown : id.KnownBy kind identity)
    {entry : SourceId × LocalSourceRow} (h : sourceWith t kind identity = some entry) :
    entry.1 = id ∧ t.localSources.find? id = some entry.2 ∧ entry.2.identityKey = identity := by
  rw [sourceWith] at h
  have hmem := List.mem_of_find?_eq_some h
  have hfound := List.find?_some h
  rw [decide_eq_true_eq] at hfound
  have hrow := mem_rows.mp hmem
  have hrowKnown := (hc.keyed _ _ hrow).known
  rw [hfound.1, hfound.2] at hrowKnown
  obtain rfl := hrowKnown.unique hknown
  exact ⟨rfl, hrow, hfound.2⟩

theorem sourceWith_eq_none (h : sourceWith t kind identity = none)
    (hrow : t.localSources.find? id = some row) :
    ¬ (row.sourceKind = kind ∧ row.identityKey = identity) := by
  have hnot := List.find?_eq_none.mp h (id, row) (mem_rows.mpr hrow)
  simpa using hnot

/-- **Recording a source** inserts its row or updates it. A row with another identity is in the
way. -/
theorem upsertSource_eq_ok (hc : Consistent services t)
    {update : LocalSourceRow → Except PlatformError LocalSourceRow}
    (hknown : id.KnownBy row.sourceKind row.identityKey)
    (h : upsertSource id row update t = .ok t') :
    ∃ recorded, t' = { t with localSources := t.localSources.put id recorded } ∧
      ((t.localSources.find? id = none ∧ recorded = row) ∨
        ∃ stored, t.localSources.find? id = some stored ∧ stored.identityKey = row.identityKey ∧
          update stored = .ok recorded) := by
  rw [upsertSource] at h
  split at h
  · rename_i stored hfound
    obtain ⟨hid, hstored, hidentity⟩ := sourceWith_eq_some hc hknown hfound
    simp only at hid hstored hidentity
    subst hid
    rw [check_bind_eq_ok] at h
    obtain ⟨updated, hupdated, h⟩ := h
    cases h
    exact ⟨updated, rfl, Or.inr ⟨stored, hstored, hidentity, hupdated⟩⟩
  · rw [check_unless_eq_ok] at h
    obtain ⟨hfree, h⟩ := h
    cases h
    exact ⟨row, rfl, Or.inl ⟨by simpa using hfree, rfl⟩⟩

/-! ## Views -/

@[ext]
structure SourceView where
  row : Option LocalSourceRow
  quarantine : Option Reason
  parts : ℕ → Option MimePartRow
  evidence : Option ℕ → Option EvidenceRow

def view (t : ImportTables) (id : SourceId) : SourceView where
  row := t.localSources.find? id
  quarantine := t.quarantineRecords.find? id
  parts := fun ordinal => t.mimeParts.find? (id, ordinal)
  evidence := fun part => t.evidence.find? (id, part)

structure Touches (ids : SourceId → Prop) (t t' : ImportTables) : Prop where
  views : ∀ id, ¬ ids id → view t' id = view t id
  importRoots : t'.importRoots = t.importRoots
  importScans : t'.importScans = t.importScans
  evidenceGeneration : t'.evidenceGeneration = t.evidenceGeneration
  commandReceipts : t'.commandReceipts = t.commandReceipts
  blobFiles : ∀ sha256 bytes, t.blobFiles.find? sha256 = some bytes →
    t'.blobFiles.find? sha256 = some bytes

namespace Touches

variable {ids ids' : SourceId → Prop}

theorem refl (ids : SourceId → Prop) (t : ImportTables) : Touches ids t t :=
  ⟨fun _ _ => rfl, rfl, rfl, rfl, rfl, fun _ _ h => h⟩

theorem trans (h : Touches ids t t') (h' : Touches ids t' t'') : Touches ids t t'' where
  views := fun id hid => (h'.views id hid).trans (h.views id hid)
  importRoots := h'.importRoots.trans h.importRoots
  importScans := h'.importScans.trans h.importScans
  evidenceGeneration := h'.evidenceGeneration.trans h.evidenceGeneration
  commandReceipts := h'.commandReceipts.trans h.commandReceipts
  blobFiles := fun sha256 bytes hfile => h'.blobFiles sha256 bytes (h.blobFiles sha256 bytes hfile)

theorem mono (h : Touches ids t t') (himp : ∀ id, ids id → ids' id) : Touches ids' t t' :=
  { h with views := fun id hid => h.views id fun hin => hid (himp id hin) }

end Touches

def materializedRow (entry : SourceEntry) (blob : SourceBlob) (reason : Option Reason) :
    Option LocalSourceRow → LocalSourceRow
  | none => ⟨entry.root.map Prod.fst, none, entry.sourceKind, entry.identityKey, blob, none, none,
      statusOf reason, entry.root.map Prod.snd⟩
  | some stored => { stored with
      blob := blob
      status := statusOf reason
      manifestGeneration := entry.root.map Prod.snd }

def unreadRow (entry : SourceEntry) (reason : Reason) : Option LocalSourceRow → LocalSourceRow
  | none => ⟨entry.root.map Prod.fst, none, entry.sourceKind, entry.identityKey, .noBlob reason,
      none, none, .quarantined, entry.root.map Prod.snd⟩
  | some stored => { stored with
      blob := .noBlob reason
      status := .quarantined
      manifestGeneration := entry.root.map Prod.snd }

namespace SourceView

def materialized (self : SourceView) (entry : SourceEntry) (blob : SourceBlob)
    (reason : Option Reason) : SourceView :=
  { self with
    row := some (materializedRow entry blob reason self.row)
    quarantine := reason.or self.quarantine }

def unread (self : SourceView) (entry : SourceEntry) (reason : Reason) : SourceView :=
  { self with
    row := some (unreadRow entry reason self.row)
    quarantine := some reason }

def withEvidence (self : SourceView) (part : Option ℕ) (kind : EvidenceKind) : SourceView :=
  { self with evidence := fun other =>
      (self.evidence other).or (if other = part then some ⟨kind, .unresolved⟩ else none) }

def withPartRow (self : SourceView) (part : PreparedMimePart) : SourceView where
  row := self.row
  quarantine := self.quarantine
  parts := fun other =>
    (self.parts other).or (if other = part.ordinal then some (mimePartRow part) else none)
  evidence := self.evidence

def withPart (self : SourceView) (part : PreparedMimePart) : SourceView :=
  if part.isImage then
    (self.withPartRow part).withEvidence (some part.ordinal) .messageAttachment
  else self.withPartRow part

def withParts (self : SourceView) (parts : List PreparedMimePart) : SourceView :=
  parts.foldl withPart self

def withContents (self : SourceView) (kind : CandidateKind)
    (parsed : Except Reason (List PreparedMimePart)) : SourceView :=
  match parsed, kind with
  | .ok _, .image => self.withEvidence none .image
  | .ok parts, .eml => self.withParts parts
  | _, _ => self

end SourceView

@[simp] theorem SourceView.withPart_row (self : SourceView) (part : PreparedMimePart) :
    (self.withPart part).row = self.row := by
  rw [withPart]
  split <;> rfl

@[simp] theorem SourceView.withPart_quarantine (self : SourceView) (part : PreparedMimePart) :
    (self.withPart part).quarantine = self.quarantine := by
  rw [withPart]
  split <;> rfl

@[simp] theorem SourceView.withParts_row (self : SourceView) (parts : List PreparedMimePart) :
    (self.withParts parts).row = self.row := by
  induction parts generalizing self with
  | nil => rfl
  | cons part parts ih =>
    rw [withParts, List.foldl_cons, ← withParts, ih, withPart_row]

@[simp] theorem SourceView.withParts_quarantine (self : SourceView)
    (parts : List PreparedMimePart) : (self.withParts parts).quarantine = self.quarantine := by
  induction parts generalizing self with
  | nil => rfl
  | cons part parts ih =>
    rw [withParts, List.foldl_cons, ← withParts, ih, withPart_quarantine]

@[simp] theorem SourceView.withContents_row (self : SourceView) (kind : CandidateKind)
    (parsed : Except Reason (List PreparedMimePart)) :
    (self.withContents kind parsed).row = self.row := by
  rcases parsed with reason | parts
  · cases kind <;> rfl
  · cases kind
    · rfl
    · exact self.withParts_row parts
    · rfl

@[simp] theorem SourceView.withContents_quarantine (self : SourceView) (kind : CandidateKind)
    (parsed : Except Reason (List PreparedMimePart)) :
    (self.withContents kind parsed).quarantine = self.quarantine := by
  rcases parsed with reason | parts
  · cases kind <;> rfl
  · cases kind
    · rfl
    · exact self.withParts_quarantine parts
    · rfl

/-! ## Transactions -/

theorem view_put_row (t : ImportTables) (id : SourceId) (row : LocalSourceRow) (other : SourceId) :
    view { t with localSources := t.localSources.put id row } other =
      if other = id then { view t id with row := some row } else view t other := by
  by_cases hother : other = id
  · subst hother
    ext1 <;> simp [view, find?_put]
  · rw [if_neg hother]
    ext1 <;> simp [view, find?_put, hother]

theorem view_insertQuarantine (t : ImportTables) (id : SourceId) (reason : Reason)
    (other : SourceId) :
    view (insertQuarantine id reason t) other =
      if other = id then { view t id with quarantine := some reason } else view t other := by
  by_cases hother : other = id
  · subst hother
    ext1 <;> simp [view, insertQuarantine, find?_put]
  · rw [if_neg hother]
    ext1 <;> simp [view, insertQuarantine, find?_put, hother]

theorem insertBlobRecord_eq_ok (hc : Consistent services t)
    (hblob : Describes services blob.sha256 blob.byteLength)
    (h : insertBlobRecord blob t = .ok t') :
    ∃ blobs, t' = { t with blobs := blobs } ∧ Consistent services t' := by
  rw [insertBlobRecord] at h
  split at h
  · split at h
    · cases h
      exact ⟨t.blobs, rfl, hc⟩
    · cases h
  · cases h
    refine ⟨_, rfl, hc.keyed, hc.files, fun sha256 length hlength => ?_⟩
    rw [find?_put] at hlength
    split at hlength
    · rename_i hsha
      cases hlength
      rwa [hsha]
    · exact hc.blobs _ _ hlength

structure Records (services : ImportServices) (id : SourceId) (t t' : ImportTables)
    (after : SourceView) : Prop where
  view_self : view t' id = after
  touches : Touches (· = id) t t'
  consistent : Consistent services t'

theorem records_put (hc : Consistent services t) (hrow : row.Keyed id) :
    Records services id t { t with localSources := t.localSources.put id row }
      { view t id with row := some row } where
  view_self := by rw [view_put_row, if_pos rfl]
  touches := ⟨fun other hother => by rw [view_put_row, if_neg hother], rfl, rfl, rfl, rfl,
    fun _ _ h => h⟩
  consistent := by
    refine ⟨fun other stored hstored => ?_, hc.files, hc.blobs⟩
    rw [find?_put] at hstored
    split at hstored
    · rename_i hother
      cases hstored
      rwa [hother]
    · exact hc.keyed _ _ hstored

theorem Records.quarantine {after : SourceView} (h : Records services id t t' after)
    (reason : Reason) :
    Records services id t (insertQuarantine id reason t') { after with quarantine := some reason } where
  view_self := by rw [view_insertQuarantine, if_pos rfl, h.view_self]
  touches := h.touches.trans ⟨fun other hother => by rw [view_insertQuarantine, if_neg hother],
    rfl, rfl, rfl, rfl, fun _ _ h => h⟩
  consistent := ⟨h.consistent.keyed, h.consistent.files, h.consistent.blobs⟩

structure SourceEntry.Known (entry : SourceEntry) : Prop where
  identity : entry.sourceId.KnownBy entry.sourceKind entry.identityKey
  root : entry.root.map Prod.fst = entry.sourceId.root?
  file : ∀ parent sha256 ordinal, entry.sourceId ≠ .mboxMessage parent sha256 ordinal

def SourceEntry.Regular (entry : SourceEntry) : Prop :=
  ∀ requestId index device file, entry.sourceId ≠ .quarantinedFile requestId index device file

/-- **A source that was read** is recorded. -/
theorem recordMaterializedSource_eq_ok (hc : Consistent services t) {entry : SourceEntry}
    (hknown : entry.Known) (hregular : entry.Regular) {reason : Option Reason}
    (hblob : Describes services blob.sha256 blob.byteLength)
    (h : recordMaterializedSource entry blob reason t = .ok t') :
    Records services entry.sourceId t t'
      ((view t entry.sourceId).materialized entry (.blob blob.sha256 blob.byteLength) reason) ∧
      ∀ stored, t.localSources.find? entry.sourceId = some stored →
        stored.identityKey = entry.identityKey := by
  rw [recordMaterializedSource, check_bind_eq_ok] at h
  obtain ⟨t₁, hinsert, h⟩ := h
  obtain ⟨blobs, rfl, hc₁⟩ := insertBlobRecord_eq_ok hc hblob hinsert
  rw [check_bind_eq_ok] at h
  obtain ⟨t₂, hupsert, h⟩ := h
  obtain ⟨recorded, rfl, hrecorded⟩ := upsertSource_eq_ok hc₁ hknown.identity hupsert
  have hrow : recorded = materializedRow entry (.blob blob.sha256 blob.byteLength) reason
      (t.localSources.find? entry.sourceId) ∧ recorded.Keyed entry.sourceId ∧
      ∀ stored, t.localSources.find? entry.sourceId = some stored →
        stored.identityKey = entry.identityKey := by
    rcases hrecorded with ⟨hnone, rfl⟩ | ⟨stored, hstored, hidentity, hupdate⟩
    · change t.localSources.find? entry.sourceId = none at hnone
      rw [hnone]
      exact ⟨rfl, ⟨hknown.identity, hknown.root, fun _ _ _ heq => absurd heq (hknown.file _ _ _),
        fun _ _ _ _ heq => absurd heq (hregular _ _ _ _)⟩, fun _ hsome => nomatch hsome⟩
    · change t.localSources.find? entry.sourceId = some stored at hstored
      cases hupdate
      rw [hstored]
      exact ⟨rfl, ⟨(hc.keyed _ _ hstored).known, (hc.keyed _ _ hstored).root,
        fun _ _ _ heq => absurd heq (hknown.file _ _ _),
        fun _ _ _ _ heq => absurd heq (hregular _ _ _ _)⟩,
        fun other hother => by rw [← some.inj hother]; exact hidentity⟩
  refine ⟨?_, hrow.2.2⟩
  have hput := records_put hc₁ hrow.2.1
  have hrecords : Records services entry.sourceId t { t with
      blobs := blobs, localSources := t.localSources.put entry.sourceId recorded }
      { view t entry.sourceId with row := some recorded } :=
    ⟨hput.view_self, ⟨hput.touches.views, rfl, rfl, rfl, rfl, fun _ _ h => h⟩, hput.consistent⟩
  rw [hrow.1] at hrecords h
  cases reason with
  | none =>
    cases h
    exact hrecords
  | some reason =>
    cases h
    exact hrecords.quarantine reason

/-- **A source that could not be read** is recorded, if no bytes of it are. -/
theorem upsertQuarantineSource_eq_ok (hc : Consistent services t) {entry : SourceEntry}
    (hknown : entry.Known) {reason : Reason}
    (h : upsertQuarantineSource entry reason t = .ok t') :
    Records services entry.sourceId t t' ((view t entry.sourceId).unread entry reason) ∧
      ∀ stored, t.localSources.find? entry.sourceId = some stored →
        stored.identityKey = entry.identityKey ∧ ∃ reason, stored.blob = .noBlob reason := by
  rw [upsertQuarantineSource, check_bind_eq_ok] at h
  obtain ⟨t₁, hupsert, h⟩ := h
  obtain ⟨recorded, rfl, hrecorded⟩ := upsertSource_eq_ok hc hknown.identity hupsert
  cases h
  rcases hrecorded with ⟨hnone, rfl⟩ | ⟨stored, hstored, hidentity, hupdate⟩
  · refine ⟨?_, fun stored hstored => by rw [hnone] at hstored; cases hstored⟩
    have hrow : (unreadRow entry reason none).Keyed entry.sourceId :=
      ⟨hknown.identity, hknown.root, fun _ _ _ heq => absurd heq (hknown.file _ _ _),
        fun _ _ _ _ _ => ⟨reason, rfl⟩⟩
    have hrecords := (records_put hc hrow).quarantine reason
    rw [SourceView.unread]
    simp only [view, hnone]
    exact hrecords
  · split at hupdate
    · cases hupdate
    · rename_i oldReason hblob
      cases hupdate
      refine ⟨?_, fun other hother => ?_⟩
      · have hrow : (unreadRow entry reason (some stored)).Keyed entry.sourceId :=
          ⟨(hc.keyed _ _ hstored).known, (hc.keyed _ _ hstored).root,
            fun _ _ _ heq => absurd heq (hknown.file _ _ _), fun _ _ _ _ _ => ⟨reason, rfl⟩⟩
        have hrecords := (records_put hc hrow).quarantine reason
        rw [SourceView.unread]
        simp only [view, hstored]
        exact hrecords
      · rw [hstored] at hother
        cases hother
        exact ⟨hidentity, oldReason, hblob⟩

def childRow (parent : SourceId) (sha256 : String) (byteLength : ℕ) (byteRange : ℕ × ℕ)
    (ordinal : ℕ) : Option LocalSourceRow → LocalSourceRow
  | none => ⟨none, some parent, .mboxMessage, .mboxMessage parent sha256 ordinal,
      .blob sha256 byteLength, some byteRange, some ordinal, .imported, none⟩
  | some stored => { stored with byteRange := some byteRange }

/-- **A message of a mailbox** is recorded. -/
theorem recordMboxChild_eq_ok (hc : Consistent services t) {parent : SourceId} {byteRange : ℕ × ℕ}
    {ordinal : ℕ} (hblob : Describes services blob.sha256 blob.byteLength)
    (h : recordMboxChild parent blob byteRange ordinal t = .ok t') :
    Records services (.mboxMessage parent blob.sha256 ordinal) t t'
      { view t (.mboxMessage parent blob.sha256 ordinal) with
        row := some (childRow parent blob.sha256 blob.byteLength byteRange ordinal
          (t.localSources.find? (.mboxMessage parent blob.sha256 ordinal))) } := by
  rw [recordMboxChild, check_bind_eq_ok] at h
  obtain ⟨t₁, hinsert, h⟩ := h
  obtain ⟨blobs, rfl, hc₁⟩ := insertBlobRecord_eq_ok hc hblob hinsert
  have hknown : (SourceId.mboxMessage parent blob.sha256 ordinal).KnownBy .mboxMessage
      (.mboxMessage parent blob.sha256 ordinal) := ⟨rfl, rfl⟩
  obtain ⟨recorded, rfl, hrecorded⟩ := upsertSource_eq_ok hc₁ hknown h
  have hrow : recorded = childRow parent blob.sha256 blob.byteLength byteRange ordinal
      (t.localSources.find? (.mboxMessage parent blob.sha256 ordinal)) ∧
      recorded.Keyed (.mboxMessage parent blob.sha256 ordinal) := by
    rcases hrecorded with ⟨hnone, rfl⟩ | ⟨stored, hstored, -, hupdate⟩
    · change t.localSources.find? _ = none at hnone
      rw [hnone]
      refine ⟨rfl, hknown, rfl, fun _ _ _ heq => ?_, fun _ _ _ _ heq => (nomatch heq)⟩
      obtain ⟨-, rfl, -⟩ := SourceId.mboxMessage.inj heq
      exact ⟨_, rfl⟩
    · change t.localSources.find? _ = some stored at hstored
      cases hupdate
      rw [hstored]
      have hkeyed := hc.keyed _ _ hstored
      exact ⟨rfl, hkeyed.known, hkeyed.root, hkeyed.message, hkeyed.irregular⟩
  have hput := records_put hc₁ hrow.2
  rw [hrow.1] at hput ⊢
  exact ⟨hput.view_self, ⟨hput.touches.views, rfl, rfl, rfl, rfl, fun _ _ h => h⟩, hput.consistent⟩

/-- **A source** is put into quarantine. -/
theorem markSourceQuarantined_eq_ok (hc : Consistent services t) {reason : Reason}
    (h : markSourceQuarantined id reason t = .ok t') :
    ∃ stored, t.localSources.find? id = some stored ∧
      Records services id t t' { view t id with
        row := some { stored with status := .quarantined }
        quarantine := some reason } := by
  rw [markSourceQuarantined] at h
  split at h
  · cases h
  · rename_i stored hstored
    split at h
    · cases h
    · cases h
      have hrow : ({ stored with status := .quarantined } : LocalSourceRow).Keyed id :=
        ⟨(hc.keyed _ _ hstored).known, (hc.keyed _ _ hstored).root, (hc.keyed _ _ hstored).message,
          (hc.keyed _ _ hstored).irregular⟩
      exact ⟨stored, hstored, (records_put hc hrow).quarantine reason⟩

theorem find?_insertOrIgnore_or {κ ρ : Type} [DecidableEq κ] (table : Table κ ρ) (k : κ) (r : ρ)
    (i : κ) : (table.insertOrIgnore k r).1.find? i =
      (table.find? i).or (if i = k then some r else none) := by
  rw [find?_insertOrIgnore]
  by_cases hi : i = k
  · rw [if_pos hi, if_pos hi, hi]
    cases table.find? k <;> rfl
  · rw [if_neg hi, if_neg hi, or_none]

section

variable (hc : Consistent services t)

include hc

/-- **A piece of evidence** is recorded, if there is none. -/
theorem records_ensureEvidence (id : SourceId) (part : Option ℕ) (kind : EvidenceKind) :
    Records services id t (ensureEvidence id part kind t) ((view t id).withEvidence part kind) where
  view_self := by
    ext1
    · rfl
    · rfl
    · rfl
    · funext other
      simp only [view, ensureEvidence, SourceView.withEvidence, find?_insertOrIgnore_or,
        Prod.mk.injEq, true_and]
  touches := by
    refine ⟨fun other hother => ?_, rfl, rfl, rfl, rfl, fun _ _ h => h⟩
    ext1
    · rfl
    · rfl
    · rfl
    · funext part'
      simp only [view, ensureEvidence, find?_insertOrIgnore_or, Prod.mk.injEq, hother, false_and,
        if_false, or_none]
  consistent := ⟨hc.keyed, hc.files, hc.blobs⟩

/-- **A part** is recorded, if there is none with its ordinal. -/
theorem recordMessagePart_eq_ok {part : PreparedMimePart}
    (h : recordMessagePart id t part = .ok t') :
    Records services id t t' ((view t id).withPart part) := by
  rw [recordMessagePart, check_unless_eq_ok] at h
  obtain ⟨-, h⟩ := h
  -- the part alone
  have hpart : Records services id t { t with
      mimeParts := (t.mimeParts.insertOrIgnore (id, part.ordinal) (mimePartRow part)).1 }
      ((view t id).withPartRow part) := by
    refine ⟨?_, ⟨fun other hother => ?_, rfl, rfl, rfl, rfl, fun _ _ h => h⟩,
      ⟨hc.keyed, hc.files, hc.blobs⟩⟩
    · ext1
      · rfl
      · rfl
      · funext other
        simp only [view, SourceView.withPartRow, find?_insertOrIgnore_or, Prod.mk.injEq, true_and]
      · rfl
    · ext1
      · rfl
      · rfl
      · funext ordinal
        simp only [view, find?_insertOrIgnore_or, Prod.mk.injEq, hother, false_and, if_false,
          or_none]
      · rfl
  rw [SourceView.withPart]
  split at h
  · rename_i himage
    cases h
    have hevidence := records_ensureEvidence hpart.consistent id (some part.ordinal) .messageAttachment
    rw [hpart.view_self] at hevidence
    rw [if_pos himage]
    exact ⟨hevidence.view_self, hpart.touches.trans hevidence.touches, hevidence.consistent⟩
  · rename_i himage
    cases h
    rw [if_neg himage]
    exact hpart

/-- **The parts of a mail** are recorded, those that are not. -/
theorem recordMessageParts_eq_ok {parts : List PreparedMimePart}
    (h : recordMessageParts id parts t = .ok t') :
    Records services id t t' ((view t id).withParts parts) := by
  rw [recordMessageParts] at h
  induction parts generalizing t with
  | nil =>
    cases h
    exact ⟨rfl, .refl _ _, hc⟩
  | cons part parts ih =>
    rw [check_foldlM_cons_eq_ok] at h
    obtain ⟨t₁, hpart, h⟩ := h
    have hfirst := recordMessagePart_eq_ok hc hpart
    have hrest := ih hfirst.consistent h
    rw [hfirst.view_self] at hrest
    exact ⟨hrest.view_self, hfirst.touches.trans hrest.touches, hrest.consistent⟩

/-- **Completing a scan** changes no more than the status of rows. -/
theorem consistent_completeScan (root : ImportRootId) (generation : ℕ) (counts : ImportCounts) :
    Consistent services (completeScan root generation counts t) := by
  refine ⟨fun id row hrow => ?_, hc.files, hc.blobs⟩
  rw [completeScan] at hrow
  simp only [find?_mapRows, map_eq_some_iff] at hrow
  obtain ⟨stored, hstored, rfl⟩ := hrow
  have hkeyed := hc.keyed _ _ hstored
  split
  · exact ⟨hkeyed.known, hkeyed.root, hkeyed.message, hkeyed.irregular⟩
  · exact hkeyed

end

/-! ## Files -/

/-- What keeping bytes does: no view changes, and the store has the bytes that are recorded. -/
structure Stores (services : ImportServices) (t t' : ImportTables) : Prop where
  touches : Touches (fun _ => False) t t'
  consistent : Consistent services t'

theorem putBlob_stores (hc : Consistent services t) (bytes : List UInt8) (maxBytes : ℕ) :
    Stores services t (putBlob services bytes maxBytes t).2 := by
  have hstill : Stores services t t := ⟨.refl _ _, hc⟩
  rw [putBlob]
  split
  · exact hstill
  · split
    · split
      · exact hstill
      · exact hstill
    · rename_i hfree
      refine ⟨⟨fun _ _ => rfl, rfl, rfl, rfl, rfl, fun sha256 stored hstored => ?_⟩,
        hc.keyed, fun sha256 stored hstored => ?_, hc.blobs⟩
      · rw [find?_put, if_neg]
        · exact hstored
        · rintro rfl
          rw [hfree] at hstored
          cases hstored
      · rw [find?_put] at hstored
        split at hstored
        · rename_i hsha
          rw [← some.inj hstored, hsha]
        · exact hc.files _ _ hstored

variable {candidate : Candidate} {bytes : List UInt8} {maxBytes batchBytes : ℕ} {inRoot : Bool}

theorem putBlob_eq_ok {record : BlobRecord}
    (h : putBlob services bytes maxBytes t = (.ok record, t')) :
    bytes.length ≤ maxBytes ∧ record.sha256 = services.digest bytes ∧
      record.byteLength = bytes.length ∧
      ∃ stored, t'.blobFiles.find? record.sha256 = some stored ∧ stored.length = bytes.length := by
  rw [putBlob] at h
  split at h
  · cases h
  · rename_i hsmall
    split at h
    · rename_i stored hstored
      split at h
      · rename_i hlength
        cases h
        exact ⟨Nat.not_lt.mp hsmall, rfl, rfl, stored, hstored, hlength⟩
      · cases h
    · cases h
      exact ⟨Nat.not_lt.mp hsmall, rfl, rfl, bytes, by rw [find?_put, if_pos rfl], rfl⟩

theorem putBlob_eq_error {e : PlatformError}
    (h : putBlob services bytes maxBytes t = (.error e, t')) :
    t' = t ∧ (maxBytes < bytes.length ∨ ∃ stored,
      t.blobFiles.find? (services.digest bytes) = some stored ∧ stored.length ≠ bytes.length) := by
  rw [putBlob] at h
  split at h
  · rename_i hlarge
    cases h
    exact ⟨rfl, Or.inl hlarge⟩
  · split at h
    · rename_i stored hstored
      split at h
      · cases h
      · rename_i hlength
        cases h
        exact ⟨rfl, Or.inr ⟨stored, hstored, hlength⟩⟩
    · cases h

theorem noBlobReason_eq_none (h : noBlobReason candidate batchBytes = none) :
    candidate.metadata.isSymlink = false ∧ candidate.metadata.isFile = true ∧
      candidate.metadata.length ≤ candidate.kind.limit ∧
      batchBytes + candidate.metadata.length ≤ batchLimit := by
  rw [noBlobReason] at h
  split at h
  · cases h
  · rename_i hregular
    split at h
    · cases h
    · rename_i hsmall
      split at h
      · cases h
      · rename_i hbatch
        simp only [not_or, Bool.not_eq_true, Bool.not_eq_false] at hregular
        exact ⟨hregular.1, hregular.2, Nat.not_lt.mp hsmall, Nat.not_lt.mp hbatch⟩

theorem openCandidate_eq_ok {opened : OpenedFile}
    (h : openCandidate candidate inRoot = .ok opened) :
    candidate.opened = some opened ∧ sameFile opened.metadata candidate.metadata ∧
      opened.bytes.length = candidate.metadata.length := by
  rw [openCandidate] at h
  split at h
  · cases h
  · rename_i stored hstored
    rw [check_unless_eq_ok, check_unless_eq_ok, check_unless_eq_ok] at h
    obtain ⟨-, hsame, hlength, h⟩ := h
    cases h
    rw [not_or, Decidable.not_not, Decidable.not_not] at hsame
    refine ⟨hstored, hsame.2, (Decidable.not_not.mp hlength).trans ?_⟩
    have hsame := hsame.2
    rw [sameFile, decide_eq_true_eq] at hsame
    exact hsame.2.2

inductive Verdict
  | unread (reason : Reason)
  | read (sha256 : String) (bytes : List UInt8) (parsed : Except Reason (List PreparedMimePart))

def examine (services : ImportServices) (candidate : Candidate) (inRoot : Bool)
    (batchBytes : ℕ) : Verdict :=
  match noBlobReason candidate batchBytes with
  | some reason => .unread reason
  | none => match openCandidate candidate inRoot with
    | .error _ => .unread "open_or_identity_failed"
    | .ok opened =>
      if candidate.kind.limit < opened.bytes.length ∨ ¬ sameFile opened.after opened.metadata then
        .unread "open_or_identity_failed"
      else .read (services.digest opened.bytes) opened.bytes
        (parseResult services candidate.kind opened.bytes)

theorem materialize_stores (hc : Consistent services t) (candidate : Candidate) (inRoot : Bool) :
    Stores services t (materialize services candidate inRoot t).2 := by
  rw [materialize]
  split
  · exact ⟨.refl _ _, hc⟩
  · rename_i opened hopened
    have hstores := putBlob_stores hc opened.bytes candidate.kind.limit
    split
    · rename_i hput
      rw [hput] at hstores
      exact hstores
    · rename_i hput
      rw [hput] at hstores
      split
      · exact hstores
      · dsimp only
        split
        · exact hstores
        · exact hstores

section Digests

/-! No two contents have the same digest. -/

variable (hdigest : Function.Injective services.digest)

include hdigest

theorem putBlob_files (hc : Consistent services t) {record : BlobRecord}
    (h : putBlob services bytes maxBytes t = (.ok record, t')) :
    t'.blobFiles.find? record.sha256 = some bytes := by
  have hstores := putBlob_stores hc bytes maxBytes
  rw [h] at hstores
  obtain ⟨-, hsha, -, stored, hstored, -⟩ := putBlob_eq_ok h
  have hbytes := hstores.consistent.files _ _ hstored
  rw [hstored, hdigest (hbytes.trans hsha)]

/-- **A file that is not read** has a verdict that says so. -/
theorem examine_of_error (hc : Consistent services t) {e : PlatformError}
    (h : materialize services candidate inRoot t = (.error e, t'))
    (hreason : noBlobReason candidate batchBytes = none) :
    examine services candidate inRoot batchBytes = .unread "open_or_identity_failed" := by
  rw [materialize] at h
  cases hopened : openCandidate candidate inRoot with
  | error e' => simp only [examine, hreason, hopened]
  | ok opened =>
    rw [hopened] at h
    simp only [examine, hreason, hopened]
    dsimp only at h
    split at h
    · rename_i hput
      obtain ⟨-, hlarge | ⟨stored, hstored, hlength⟩⟩ := putBlob_eq_error hput
      · simp [hlarge]
      · -- other bytes would have the same digest
        exact absurd (congrArg List.length (hdigest (hc.files _ _ hstored))) hlength
    · rename_i record _ hput
      have hstored := putBlob_files hdigest hc hput
      obtain ⟨-, -, hbyteLength, -⟩ := putBlob_eq_ok hput
      split at h
      · rename_i hafter
        simp [hafter]
      · rw [hstored, getD_some, hbyteLength, if_neg (by simp)] at h
        cases h

/-- **A file that is read** has a verdict with its bytes. -/
theorem examine_of_ok (hc : Consistent services t) {m : Materialized}
    (h : materialize services candidate inRoot t = (.ok m, t'))
    (hreason : noBlobReason candidate batchBytes = none) :
    examine services candidate inRoot batchBytes =
      .read m.record.sha256 m.bytes (parseResult services candidate.kind m.bytes) ∧
    m.record.sha256 = services.digest m.bytes ∧ m.record.byteLength = m.bytes.length := by
  rw [materialize] at h
  cases hopened : openCandidate candidate inRoot with
  | error e' =>
    rw [hopened] at h
    cases h
  | ok opened =>
    rw [hopened] at h
    simp only [examine, hreason, hopened]
    dsimp only at h
    split at h
    · cases h
    · rename_i record _ hput
      have hstored := putBlob_files hdigest hc hput
      obtain ⟨hsmall, hsha, hbyteLength, -⟩ := putBlob_eq_ok hput
      split at h
      · cases h
      · rename_i hafter
        rw [hstored, getD_some, hbyteLength, if_neg (by simp)] at h
        cases h
        refine ⟨?_, hsha, hbyteLength⟩
        simp [hsha, Nat.not_lt.mpr hsmall, Decidable.not_not.mp hafter]

end Digests

end Threadbook.Imports
