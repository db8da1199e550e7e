import Threadbook.ImportSteps

/-!
# Mailboxes that are imported again

A message is known by its mailbox, its digest and the number of messages before it that have the
same digest. So when a mailbox is imported again with more messages at its end, the messages
that were there have the sources they had, and the others get new ones. This needs that the
mailbox is the same source, as a file of a folder is; a file that a request names is a new
source with each request (**`mboxrd_round_trip`**).
-/

namespace Threadbook.Imports

open List

variable {services : ImportServices} {t t' t₀ t₁ t₂ : ImportTables}

/-! ## The sources of messages -/

theorem length_childIds (parent : SourceId) (texts : List (List UInt8)) (occurrences : List String) :
    (childIds services parent texts occurrences).length = texts.length := by
  induction texts generalizing occurrences with
  | nil => rfl
  | cons raw rest ih => rw [childIds, length_cons, ih, length_cons]

theorem childIds_append (parent : SourceId) (texts more : List (List UInt8))
    (occurrences : List String) :
    childIds services parent (texts ++ more) occurrences =
      childIds services parent texts occurrences ++
        childIds services parent more ((texts.map services.digest).reverse ++ occurrences) := by
  induction texts generalizing occurrences with
  | nil => rfl
  | cons raw rest ih =>
    rw [cons_append, childIds, ih, childIds, cons_append, map_cons,
      reverse_cons, append_assoc, singleton_append]

variable {messages more : List MboxMessage} {ids : SourceId → Prop} {id : SourceId}
  {first second : FileImport}

theorem exists_of_mem_childIds {parent : SourceId} {texts : List (List UInt8)}
    {occurrences : List String} (h : id ∈ childIds services parent texts occurrences) :
    ∃ sha256 ordinal, id = .mboxMessage parent sha256 ordinal ∧
      occurrences.count sha256 ≤ ordinal := by
  induction texts generalizing occurrences with
  | nil => cases h
  | cons raw rest ih =>
    rcases mem_cons.mp h with rfl | h
    · exact ⟨_, _, rfl, le_rfl⟩
    · obtain ⟨sha256, ordinal, rfl, hle⟩ := ih h
      exact ⟨sha256, ordinal, rfl, le_trans (count_le_count_cons ..) hle⟩

/-- **No two messages** of a mailbox have the same source. -/
theorem nodup_childIds (parent : SourceId) (texts : List (List UInt8))
    (occurrences : List String) : (childIds services parent texts occurrences).Nodup := by
  induction texts generalizing occurrences with
  | nil => exact nodup_nil
  | cons raw rest ih =>
    refine nodup_cons.mpr ⟨fun hmem => ?_, ih _⟩
    obtain ⟨sha256, ordinal, heq, hle⟩ := exists_of_mem_childIds hmem
    obtain ⟨-, rfl, rfl⟩ := SourceId.mboxMessage.inj heq
    rw [count_cons_self] at hle
    exact Nat.not_succ_le_self _ hle

def messageSources (services : ImportServices) (mailbox : SourceId) (messages : List MboxMessage) :
    List SourceId :=
  childIds services mailbox (messages.map MboxMessage.text) []

theorem isMessageOf_of_mem {mailbox : SourceId}
    (h : id ∈ messageSources services mailbox messages) :
    IsMessageOf mailbox id := by
  obtain ⟨sha256, ordinal, rfl, -⟩ := exists_of_mem_childIds h
  exact ⟨sha256, ordinal, rfl⟩

/-- **Messages at the end** leave the sources of those before them. -/
theorem take_messageSources (mailbox : SourceId) (messages more : List MboxMessage) :
    (messageSources services mailbox (messages ++ more)).take messages.length =
      messageSources services mailbox messages := by
  have hlength : (childIds services mailbox (messages.map MboxMessage.text) []).length = _ :=
    length_childIds mailbox (messages.map MboxMessage.text) []
  rw [length_map] at hlength
  rw [messageSources, map_append, childIds_append, ← hlength, take_left]
  rfl

/-! ## Imports of files -/

structure FileImport where
  requestId : RequestId
  index : ℕ
  candidate : Candidate
  root : Option (ImportRootId × ℕ)
  batchBytes : ℕ

namespace FileImport

def sourceId (self : FileImport) : SourceId :=
  sourceIdOf self.requestId self.index self.candidate self.root

def run (services : ImportServices) (self : FileImport) (os : ℕ → Option PlatformError × Unit)
    (t : ImportTables) : Except PlatformError Imported × ImportTables :=
  (importCandidate services self.requestId self.index self.candidate self.root
    self.batchBytes).exec os t

structure Reads (file : FileImport) (messages : List MboxMessage) : Prop where
  kind : file.candidate.kind = .mbox
  regular : noBlobReason file.candidate file.batchBytes = none
  opened : ∃ opened, openCandidate file.candidate file.root.isSome = .ok opened ∧
    sameFile opened.after opened.metadata ∧ opened.bytes = writeMboxrd messages

end FileImport

structure Edits (services : ImportServices) (ids : SourceId → Prop) (t t' : ImportTables) :
    Prop where
  touches : Touches ids t t'
  consistent : Consistent services t → Consistent services t'

theorem Edits.refl (services : ImportServices) (ids : SourceId → Prop) (t : ImportTables) :
    Edits services ids t t := ⟨.refl _ _, fun h => h⟩

theorem Edits.trans (t t₁ t' : ImportTables) (h : Edits services ids t t₁)
    (h' : Edits services ids t₁ t') : Edits services ids t t' :=
  ⟨h.touches.trans h'.touches, fun hc => h'.consistent (h.consistent hc)⟩

theorem admits_edits (services : ImportServices) (ids : SourceId → Prop) :
    Admits services ids (Consistent services) (Edits services ids) :=
  ⟨fun _ h => h, fun _ _ _ htouches h => ⟨h, htouches, fun _ => h⟩⟩

namespace FileImport

variable {file : FileImport}

def entry (self : FileImport) : SourceEntry :=
  entryOf self.requestId self.index self.candidate self.root

def verdict (services : ImportServices) (self : FileImport) : Verdict :=
  examine services self.candidate self.root.isSome self.batchBytes

section

variable (hdigest : Function.Injective services.digest)

include hdigest

theorem guarded (file : FileImport) {outside : Surroundings ImportTables Unit}
    {failed : ImportTables → Prop}
    (hfine : (Dependable services ∧ (file.verdict services).Fine t file.entry file.candidate.kind) ∨
      ∀ t, Consistent services t → failed t)
    (hfault : ∀ t, Consistent services t → outside.mayFail t → failed t)
    (hc : Consistent services t) :
    Guarded ⟨Consistent services, Edits services (IsSourceOf file.sourceId), outside.allows⟩
      (importCandidate services file.requestId file.index file.candidate file.root file.batchBytes)
      (Ends (fun _ t' => FileImported services (Consistent services) file.entry file.candidate.kind
        (file.verdict services) t t') failed) t := by
  refine (importCandidate_guarded (admits_edits services _) hdigest file.requestId file.index
    file.candidate file.root file.batchBytes (fun _ h => h) hfine hfault hc).mono ?_
  rintro (e | imported) t' h
  · exact h
  · exact h.2

/-- **A file** that is imported, whatever comes of it: only its sources are touched. -/
theorem run_edits (file : FileImport) (os : ℕ → Option PlatformError × Unit)
    (hc : Consistent services t) :
    Edits services (IsSourceOf file.sourceId) t (file.run services os t).2 := by
  have hguarded : Guarded ⟨_, _, anything.allows⟩ _ (Ends _ fun _ => True) t := guarded hdigest file
    (.inr fun _ _ => trivial) (fun _ _ _ => trivial) hc
  exact hguarded.exec_moves (anything_allows os) (Edits.refl _ _) Edits.trans

/-- **A file** whose import ends well. -/
theorem run_eq_ok (file : FileImport) (os : ℕ → Option PlatformError × Unit)
    (hc : Consistent services t) {imported : Imported}
    (h : (file.run services os t).1 = .ok imported) :
    FileImported services (Consistent services) file.entry file.candidate.kind
      (file.verdict services) t (file.run services os t).2 := by
  have hguarded : Guarded ⟨_, _, anything.allows⟩ _ (Ends _ fun _ => True) t := guarded hdigest file
    (.inr fun _ _ => trivial) (fun _ _ _ => trivial) hc
  have hrun := hguarded.exec (anything_allows os)
  rw [run] at h ⊢
  rw [h] at hrun
  exact hrun

end

/-- **A file that can be recorded** is imported, if nothing outside fails. -/
theorem run_total (hdepends : Dependable services) (file : FileImport)
    (hc : Consistent services t)
    (hfine : (file.verdict services).Fine t file.entry file.candidate.kind) :
    ∃ imported, (file.run services noFaults t).1 = .ok imported := by
  have hguarded : Guarded ⟨_, _, calm.allows⟩ _ (Ends _ fun _ => False) t := guarded hdepends.digest file
    (.inl ⟨hdepends, hfine⟩) (fun _ _ h => h) hc
  have hrun := hguarded.exec calm_allows
  rw [run]
  cases hresult : ((importCandidate services file.requestId file.index file.candidate file.root
    file.batchBytes).exec noFaults t).1 with
  | ok imported => exact ⟨imported, rfl⟩
  | error e =>
    rw [hresult] at hrun
    exact hrun.elim

end FileImport

/-! ## In between -/

theorem FileImport.not_isMessageOf (file : FileImport) (parent : SourceId) :
    ¬ IsMessageOf parent file.sourceId := by
  rintro ⟨sha256, ordinal, h⟩
  simp only [sourceId, sourceIdOf] at h
  split at h <;> cases h

/-- **Two files** have no source in common, unless they are the same source. -/
theorem FileImport.sourceId_eq {file other : FileImport} (h : IsSourceOf file.sourceId id)
    (h' : IsSourceOf other.sourceId id) : file.sourceId = other.sourceId := by
  rcases h with rfl | ⟨sha256, ordinal, rfl⟩
  · rcases h' with h' | h'
    · exact h'
    · exact (file.not_isMessageOf _ h').elim
  · rcases h' with h' | ⟨_, _, h'⟩
    · exact (other.not_isMessageOf _ ⟨_, _, h'.symm⟩).elim
    · exact (SourceId.mboxMessage.inj h').1

def identityAt (t : ImportTables) (id : SourceId) : Option IdentityKey :=
  (t.localSources.find? id).map (·.identityKey)

theorem present_iff_identityAt : Present t id ↔ (identityAt t id).isSome := by
  rw [identityAt, Option.isSome_map]
  rfl

inductive Step (services : ImportServices) (files : FileImport → Prop) (t : ImportTables) :
    ImportTables → Prop
  | file (file : FileImport) (os : ℕ → Option PlatformError × Unit) (hfile : files file) :
      Step services files t (file.run services os t).2
  | notRegular (requestId : RequestId) (index device file : ℕ) (reason : Reason) {after : ImportTables}
      (h : upsertQuarantineSource ⟨.quarantinedFile requestId index device file, .folderImage,
        .quarantinedFile requestId index device file, none⟩ reason t = .ok after) :
      Step services files t after
  | beginScan (requestId : RequestId) (root : ImportRootId) (existing : ℕ) {after : ImportTables}
      (h : beginScan requestId root existing t = .ok after) : Step services files t after
  | completeScan (root : ImportRootId) (generation : ℕ) (counts : ImportCounts) :
      Step services files t (completeScan root generation counts t)
  | rootStatus (root : ImportRootId) (status : RootStatus) :
      Step services files t (setRootStatus root status t)
  | generation : Step services files t (bumpEvidenceGeneration t)
  | response (requestId : RequestId) (command : ImportCommand) (response : ImportResponseV1)
      {after : ImportTables} (h : storeResponse services requestId command response t = .ok after) :
      Step services files t after
  | decisions (evidence : Table (SourceId × Option ℕ) EvidenceRow) :
      Step services files t { t with evidence := evidence }

structure Changes (services : ImportServices) (ids : SourceId → Prop) (t t' : ImportTables) :
    Prop where
  consistent : Consistent services t'
  identities : ∀ id, ¬ ids id → identityAt t' id = identityAt t id

theorem Changes.trans (h : Changes services ids t t₁) (h' : Changes services ids t₁ t') :
    Changes services ids t t' :=
  ⟨h'.consistent, fun id hid => (h'.identities id hid).trans (h.identities id hid)⟩

theorem Changes.mono {ids' : SourceId → Prop} (h : Changes services ids t t')
    (himp : ∀ id, ids id → ids' id) : Changes services ids' t t' :=
  ⟨h.consistent, fun id hid => h.identities id fun hin => hid (himp id hin)⟩

theorem Changes.of_touches (h : Touches ids t t') (hc : Consistent services t') :
    Changes services ids t t' where
  consistent := hc
  identities := fun id hid => by
    have hrow := congrArg SourceView.row (h.views id hid)
    exact congrArg (Option.map LocalSourceRow.identityKey) hrow

theorem Changes.of_same (hc : Consistent services t) (hsources : t'.localSources = t.localSources)
    (hfiles : t'.blobFiles = t.blobFiles) (hblobs : t'.blobs = t.blobs) :
    Changes services ids t t' where
  consistent := by
    refine ⟨?_, ?_, ?_⟩
    · rw [hsources]
      exact hc.keyed
    · rw [hfiles]
      exact hc.files
    · rw [hblobs]
      exact hc.blobs
  identities := fun id _ => by rw [identityAt, identityAt, hsources]

theorem changes_completeScan (hc : Consistent services t) (root : ImportRootId) (generation : ℕ)
    (counts : ImportCounts) :
    Changes services ids t (completeScan root generation counts t) where
  consistent := consistent_completeScan hc root generation counts
  identities := fun id _ => by
    simp only [identityAt, completeScan, Table.find?_mapRows, Option.map_map]
    refine congrArg (Option.map · _) (funext fun row => ?_)
    change LocalSourceRow.identityKey (if _ then _ else _) = _
    split <;> rfl

def Changeable (files : FileImport → Prop) (id : SourceId) : Prop :=
  (∃ file, files file ∧ IsSourceOf file.sourceId id) ∨
    ∃ requestId index device file, id = .quarantinedFile requestId index device file

/-- **A step** changes what files it imports. -/
theorem Step.changes (hdigest : Function.Injective services.digest) {files : FileImport → Prop}
    (hc : Consistent services t) (h : Step services files t t') :
    Changes services (Changeable files) t t' := by
  cases h with
  | file file os hfile =>
    have hedits := file.run_edits hdigest os hc
    exact (Changes.of_touches hedits.touches (hedits.consistent hc)).mono fun id hid =>
      Or.inl ⟨file, hfile, hid⟩
  | notRegular requestId index device number reason h =>
    obtain ⟨hrecords, -⟩ := upsertQuarantineSource_eq_ok hc
      (notRegular_known requestId index device number) h
    exact (Changes.of_touches hrecords.touches hrecords.consistent).mono fun id hid =>
      Or.inr ⟨_, _, _, _, hid⟩
  | beginScan requestId root existing h =>
    rw [Imports.beginScan] at h
    split at h
    · cases h
    · cases h
      exact .of_same hc rfl rfl rfl
  | completeScan root generation counts => exact changes_completeScan hc root generation counts
  | rootStatus root status => exact .of_same hc rfl rfl rfl
  | generation => exact .of_same hc rfl rfl rfl
  | response requestId command response h =>
    rw [storeResponse] at h
    split at h
    · cases h
    · cases h
      exact .of_same hc rfl rfl rfl
  | decisions evidence => exact .of_same hc rfl rfl rfl

/-- **Steps** one after another. -/
theorem changes_of_steps (hdigest : Function.Injective services.digest)
    {files : FileImport → Prop} (hc : Consistent services t)
    (h : Relation.ReflTransGen (Step services files) t t') :
    Changes services (Changeable files) t t' := by
  induction h with
  | refl => exact ⟨hc, fun _ _ => rfl⟩
  | tail _ hstep ih => exact ih.trans (hstep.changes hdigest ih.consistent)

theorem consistent_initial : Consistent services .initial := by
  constructor <;> simp [ImportTables.initial]

theorem not_changeable (mailbox : FileImport) (hid : IsSourceOf mailbox.sourceId id) :
    ¬ Changeable (fun file => file.sourceId ≠ mailbox.sourceId) id := by
  rintro (⟨file, hother, hid'⟩ | ⟨requestId, index, device, number, rfl⟩)
  · exact hother (FileImport.sourceId_eq hid' hid)
  · rcases hid with hid | ⟨sha256, ordinal, hid⟩
    · simp only [FileImport.sourceId, sourceIdOf] at hid
      split at hid <;> cases hid
    · cases hid

/-! ## Mailboxes -/

theorem texts_slicesFrom (messages : List MboxMessage) :
    (slicesFrom 0 messages).map (sliceOf (writeMboxrd messages)) =
      messages.map MboxMessage.text := by
  have hpartitions := partitions_slicesFrom [] messages
  rw [nil_append, length_nil] at hpartitions
  exact hpartitions.texts

/-- A file has some messages, not too many, and none of them is too long. -/
structure Fits (messages : List MboxMessage) : Prop where
  some : messages ≠ []
  few : messages.length ≤ mboxMessageLimit
  small : ∀ message ∈ messages, message.text.length ≤ emlLimit

theorem splitMboxrd_of_fits (h : Fits messages) :
    splitMboxrd (writeMboxrd messages) = .ok (slicesFrom 0 messages) := by
  rw [splitMboxrd_writeMboxrd, if_neg (Nat.not_lt.mpr h.few), if_neg h.some]

theorem splits_iff_fits (messages : List MboxMessage) :
    (∃ slices, splitMboxrd (writeMboxrd messages) = .ok slices ∧
      ∀ slice ∈ slices, (sliceOf (writeMboxrd messages) slice).length ≤ emlLimit) ↔
      Fits messages := by
  have hsmall : (∀ slice ∈ slicesFrom 0 messages,
      (sliceOf (writeMboxrd messages) slice).length ≤ emlLimit) ↔
      ∀ message ∈ messages, message.text.length ≤ emlLimit := by
    rw [← forall_mem_map (P := fun text : List UInt8 => text.length ≤ emlLimit),
      texts_slicesFrom, forall_mem_map]
  constructor
  · rintro ⟨slices, hsplit, hslices⟩
    rw [splitMboxrd_writeMboxrd] at hsplit
    split at hsplit
    · cases hsplit
    · split at hsplit
      · cases hsplit
      · rename_i hfew hsome
        cases hsplit
        exact ⟨hsome, Nat.not_lt.mp hfew, hsmall.mp hslices⟩
  · intro h
    exact ⟨_, splitMboxrd_of_fits h, hsmall.mpr h.small⟩

namespace FileImport

variable {file : FileImport} {messages : List MboxMessage}

/-- **A mailbox** that can be read is read. -/
theorem Reads.verdict_eq (h : file.Reads messages) :
    file.verdict services =
      .read (services.digest (writeMboxrd messages)) (writeMboxrd messages) (.ok []) := by
  obtain ⟨opened, hopened, hafter, hbytes⟩ := h.opened
  obtain ⟨-, -, hsmall, -⟩ := noBlobReason_eq_none h.regular
  obtain ⟨-, -, hlength⟩ := openCandidate_eq_ok hopened
  rw [← hlength] at hsmall
  rw [verdict, examine, h.regular, hopened]
  simp only [Nat.not_lt.mpr hsmall, hafter, not_true_eq_false, or_self, if_false]
  rw [hbytes, h.kind]
  rfl

theorem Reads.messages_eq (h : file.Reads messages) (hfits : Fits messages) :
    (file.verdict services).messages services file.sourceId file.candidate.kind =
      messageSources services file.sourceId messages := by
  rw [h.verdict_eq, h.kind, Verdict.messages, splitMboxrd_of_fits hfits]
  simp only [if_true]
  rw [texts_slicesFrom, messageSources]

/-- **A mailbox** can be recorded exactly if it fits, and its source is not known by other
bytes. -/
theorem Reads.fine_iff (h : file.Reads messages) :
    (file.verdict services).Fine t file.entry file.candidate.kind ↔
      (∀ identity ∈ identityAt t file.sourceId, identity =
        (file.entry.persisted (services.digest (writeMboxrd messages))).identityKey) ∧
      Fits messages := by
  rw [h.verdict_eq, h.kind, Verdict.Fine]
  simp only [forall_const]
  rw [splits_iff_fits, identityAt]
  refine and_congr_left fun _ => ?_
  simp only [Option.mem_def, Option.map_eq_some_iff, forall_exists_index, and_imp,
    forall_apply_eq_imp_iff₂]
  rfl

theorem identityAt_of_imported {sha256 : String} {bytes : List UInt8}
    {parsed : Except Reason (List PreparedMimePart)} (h : FileImported services
      (Consistent services) file.entry file.candidate.kind (.read sha256 bytes parsed) t t') :
    identityAt t' file.sourceId = some (file.entry.persisted sha256).identityKey := by
  have hrow := congrArg SourceView.row h.view_self
  rw [SourceView.seen, SourceView.withContents_row] at hrow
  have hidentity : identityAt t' file.sourceId = some (materializedRow
      (file.entry.persisted sha256) (.blob sha256 bytes.length) (reasonOf parsed)
      (view t file.sourceId).row).identityKey :=
    congrArg (Option.map LocalSourceRow.identityKey) hrow
  rw [hidentity]
  cases hstored : (view t file.sourceId).row with
  | none => rfl
  | some stored => exact congrArg some (h.fine.1 stored hstored)

end FileImport

/-! ## Imported again -/

structure Reidentifies (services : ImportServices) (first second : FileImport)
    (messages more : List MboxMessage) (t₀ before after : ImportTables) : Prop where
  earlier : (messageSources services second.sourceId (messages ++ more)).take messages.length =
    messageSources services first.sourceId messages
  known : ∀ id ∈ messageSources services first.sourceId messages, Present before id
  added : ∀ id, (Present after id ∧ ¬ Present before id) ↔
    id ∈ (messageSources services second.sourceId (messages ++ more)).drop messages.length ∧
      ¬ Present t₀ id

/-- **A mailbox that grows** and is the same source. -/
theorem reidentifies_of_imported (hfits : Fits messages) (hfits' : Fits (messages ++ more))
    (hfirst : first.Reads messages) (hsecond : second.Reads (messages ++ more))
    (hsame : second.sourceId = first.sourceId)
    (himported : FileImported services (Consistent services) first.entry first.candidate.kind
      (first.verdict services) t₀ t₁)
    (hquiet : Changes services (Changeable (·.sourceId ≠ first.sourceId)) t₁ t)
    (himported' : FileImported services (Consistent services) second.entry second.candidate.kind
      (second.verdict services) t t₂) :
    Reidentifies services first second messages more t₀ t t₂ := by
  have htake : (messageSources services first.sourceId (messages ++ more)).take _ = _ :=
    take_messageSources first.sourceId messages more
  have hnodup : (messageSources services first.sourceId (messages ++ more)).Nodup :=
    nodup_childIds _ _ _
  have hsplit := take_append_drop messages.length
    (messageSources services first.sourceId (messages ++ more))
  rw [htake] at hsplit
  rw [← hsplit, nodup_append'] at hnodup
  -- what is recorded after the first import, of the mailbox
  have hbefore : ∀ id, IsSourceOf first.sourceId id → (Present t id ↔
      Present t₀ id ∨ id = first.sourceId ∨ id ∈ messageSources services first.sourceId messages) := by
    intro id hid
    rw [present_iff_identityAt, hquiet.identities id (not_changeable first hid), ← present_iff_identityAt,
      himported.present, show first.entry.sourceId = first.sourceId from rfl,
      hfirst.messages_eq hfits]
  have hafter : ∀ id, Present t₂ id ↔ Present t id ∨ id = first.sourceId ∨
      id ∈ messageSources services first.sourceId (messages ++ more) := by
    intro id
    rw [himported'.present, show second.entry.sourceId = second.sourceId from rfl,
      hsecond.messages_eq hfits', hsame]
  refine ⟨?_, fun id hid => ?_, fun id => ?_⟩
  · rw [hsame, htake]
  · exact (hbefore id (.inr (isMessageOf_of_mem hid))).mpr (.inr (.inr hid))
  · rw [hsame, hafter]
    constructor
    · rintro ⟨hpresent | rfl | hmem, hnot⟩
      · exact absurd hpresent hnot
      · exact absurd ((hbefore _ (.inl rfl)).mpr (.inr (.inl rfl))) hnot
      · rw [hbefore id (.inr (isMessageOf_of_mem hmem))] at hnot
        rw [← hsplit, mem_append] at hmem
        rcases hmem with hmem | hmem
        · exact absurd (.inr (.inr hmem)) hnot
        · exact ⟨hmem, fun h => hnot (.inl h)⟩
    · rintro ⟨hmem, hnot⟩
      have hall : id ∈ messageSources services first.sourceId (messages ++ more) :=
        mem_of_mem_drop hmem
      have hmessage := isMessageOf_of_mem hall
      refine ⟨Or.inr (.inr hall), ?_⟩
      rw [hbefore id (.inr hmessage)]
      rintro (h | rfl | h)
      · exact hnot h
      · exact first.not_isMessageOf _ hmessage
      · exact hnodup.2.2 h hmem

theorem writeMboxrd_append_eq (h : writeMboxrd (messages ++ more) = writeMboxrd messages) :
    more = [] := by
  rw [writeMboxrd, flatMap_append, ← writeMboxrd, append_right_eq_self] at h
  cases more with
  | nil => rfl
  | cons message rest =>
    rw [flatMap_cons, append_eq_nil_iff, append_eq_nil_iff] at h
    exact absurd h.1.2 (text_ne_nil message)

theorem persisted_identityKey_eq_iff (hdigest : Function.Injective services.digest)
    (hfirst : first.Reads messages) (hsecond : second.Reads (messages ++ more))
    (hsame : second.sourceId = first.sourceId) :
    (first.entry.persisted (services.digest (writeMboxrd messages))).identityKey =
      (second.entry.persisted (services.digest (writeMboxrd (messages ++ more)))).identityKey ↔
      second.root.isSome ∨ more = [] := by
  obtain ⟨requestId, index, candidate, root, batchBytes⟩ := first
  obtain ⟨requestId', index', candidate', root', batchBytes'⟩ := second
  simp only [FileImport.sourceId, sourceIdOf] at hsame
  rcases root with _ | ⟨root, generation⟩ <;> rcases root' with _ | ⟨root', generation'⟩
  · simp only [SourceEntry.persisted, FileImport.entry, entryOf, sourceIdOf, Option.isSome_none,
      Bool.false_eq_true, if_false, false_or, IdentityKey.content.injEq, hsame, true_and]
    constructor
    · intro h
      exact writeMboxrd_append_eq (hdigest h.symm)
    · rintro rfl
      rw [append_nil]
  · cases hsame
  · cases hsame
  · obtain ⟨-, rfl, hdevice, hfile⟩ := SourceId.inRoot.inj hsame
    simp only [SourceEntry.persisted, FileImport.entry, entryOf, identityOf, Option.isSome_some,
      if_true, true_or, hdevice, hfile]

/-- **A mailbox that is imported again**, as it was or with messages at its end, is found again
exactly if it is the same source, it is a file of a folder or has not grown, and it fits. -/
theorem reimport_iff (hdepends : Dependable services) {os : ℕ → Option PlatformError × Unit}
    (hfirst : first.Reads messages) (hsecond : second.Reads (messages ++ more))
    (hc : Consistent services t₀) {imported : Imported}
    (himported : (first.run services os t₀).1 = .ok imported)
    (hquiet : Changes services (Changeable (·.sourceId ≠ first.sourceId))
      (first.run services os t₀).2 t) :
    ((∃ again, (second.run services noFaults t).1 = .ok again) ∧
      Reidentifies services first second messages more t₀ t (second.run services noFaults t).2) ↔
      second.sourceId = first.sourceId ∧ (second.root.isSome ∨ more = []) ∧
        Fits (messages ++ more) := by
  have hrun := first.run_eq_ok hdepends.digest os hc himported
  have hfits : Fits messages := (hfirst.fine_iff.mp hrun.fine).2
  have hidentity := hquiet.identities _ (not_changeable first (.inl rfl))
  have hstored := hrun
  rw [hfirst.verdict_eq] at hstored
  rw [FileImport.identityAt_of_imported hstored] at hidentity
  constructor
  · rintro ⟨⟨again, hagain⟩, hfound⟩
    have hrun' := second.run_eq_ok hdepends.digest noFaults hquiet.consistent hagain
    obtain ⟨hknown, hfits'⟩ := hsecond.fine_iff.mp hrun'.fine
    -- the first message is one of the first mailbox
    have hsame : second.sourceId = first.sourceId := by
      obtain ⟨message, rest, rfl⟩ := exists_cons_of_ne_nil hfits.some
      have hearlier := hfound.earlier
      simp only [messageSources, cons_append, map_cons, childIds, length_cons,
        take_succ_cons, cons.injEq] at hearlier
      exact (SourceId.mboxMessage.inj hearlier.1).1
    rw [hsame] at hknown
    exact ⟨hsame, (persisted_identityKey_eq_iff hdepends.digest hfirst hsecond hsame).mp
      (hknown _ hidentity), hfits'⟩
  · rintro ⟨hsame, hgrown, hfits'⟩
    have hfine : (second.verdict services).Fine t second.entry second.candidate.kind := by
      refine hsecond.fine_iff.mpr ⟨fun identity hmem => ?_, hfits'⟩
      rw [hsame, hidentity, Option.mem_some_iff] at hmem
      exact hmem.symm.trans
        ((persisted_identityKey_eq_iff hdepends.digest hfirst hsecond hsame).mpr hgrown)
    obtain ⟨again, hagain⟩ := second.run_total hdepends hquiet.consistent hfine
    exact ⟨⟨again, hagain⟩, reidentifies_of_imported hfits hfits' hfirst hsecond hsame hrun hquiet
      (second.run_eq_ok hdepends.digest noFaults hquiet.consistent hagain)⟩

/-- **Mailboxes** are read as they were written exactly if no message quotes a separator line,
and are found again exactly if they are the same source and fit, in every state that is
reached. -/
theorem mboxrd_round_trip (hdepends : Dependable services) :
    (∀ messages : List MboxMessage, Decodes messages ↔
      messages ≠ [] ∧ messages.length ≤ mboxMessageLimit ∧
        ∀ message ∈ messages, ∀ line ∈ linesOf message.body, isQuotedFromLine line = false) ∧
    ∀ (first second : FileImport) (messages more : List MboxMessage)
      (os : ℕ → Option PlatformError × Unit) (t₀ t : ImportTables) (imported : Imported),
      first.Reads messages → second.Reads (messages ++ more) →
      Relation.ReflTransGen (Step services fun _ => True) .initial t₀ →
      (first.run services os t₀).1 = .ok imported →
      Relation.ReflTransGen (Step services (·.sourceId ≠ first.sourceId))
        (first.run services os t₀).2 t →
      (((∃ again, (second.run services noFaults t).1 = .ok again) ∧
        Reidentifies services first second messages more t₀ t (second.run services noFaults t).2) ↔
        second.sourceId = first.sourceId ∧ (second.root.isSome ∨ more = []) ∧
          Fits (messages ++ more)) := by
  refine ⟨decodes_iff, ?_⟩
  intro first second messages more os t₀ t imported hfirst hsecond hreached himported hbetween
  have hc := (changes_of_steps hdepends.digest consistent_initial hreached).consistent
  have hquiet := changes_of_steps hdepends.digest
    ((first.run_edits hdepends.digest os hc).consistent hc) hbetween
  exact reimport_iff hdepends hfirst hsecond hc himported hquiet

/-! ## Examples -/

namespace MailboxExample

/-- A message with one line, `>From `. -/
def quoting : MboxMessage := ⟨[], quoteMark :: fromMark ++ [newline], by simp, rfl⟩

/-- The message is read with one `>` more than it has. -/
theorem quoting_not_decoded : ¬ Decodes [quoting] := by
  rintro ⟨slices, hsplit, -, hdecoded⟩
  rw [show splitMboxrd (writeMboxrd [quoting]) = .ok [(6, 15)] from by decide] at hsplit
  obtain rfl := Except.ok.inj hsplit
  exact absurd hdecoded (by decide)

def short : MboxMessage := ⟨[], [104, newline], by simp, rfl⟩

/-- A mailbox in a folder, at one of its scans. -/
def mailbox (generation : ℕ) (messages : List MboxMessage) : FileImport :=
  let metadata : FileMetadata := ⟨1, 2, (writeMboxrd messages).length, false, true, false⟩
  { requestId := .above 1
    index := 0
    candidate := ⟨metadata, .mbox, some ⟨true, metadata, writeMboxrd messages, metadata⟩⟩
    root := some (⟨1, 1⟩, generation)
    batchBytes := 0 }

theorem mailbox_reads (generation : ℕ) {messages : List MboxMessage}
    (hsmall : (writeMboxrd messages).length ≤ CandidateKind.mbox.limit) :
    (mailbox generation messages).Reads messages where
  kind := rfl
  regular := by
    have hbatch : (writeMboxrd messages).length ≤ batchLimit := le_trans hsmall (by decide)
    simp [noBlobReason, mailbox, Nat.not_lt.mpr hsmall, Nat.not_lt.mpr hbatch]
  opened := ⟨⟨true, ⟨1, 2, (writeMboxrd messages).length, false, true, false⟩,
    writeMboxrd messages, ⟨1, 2, (writeMboxrd messages).length, false, true, false⟩⟩,
    by simp [openCandidate, mailbox, sameFile], by simp [sameFile], rfl⟩

/-- A mailbox with one message gets another one, and is imported again by the next scan. -/
theorem mailbox_grows :
    let t := ((mailbox 1 [short]).run plainServices noFaults .initial).2
    (∃ again, ((mailbox 2 [short, quoting]).run plainServices noFaults t).1 = .ok again) ∧
      Reidentifies plainServices (mailbox 1 [short]) (mailbox 2 [short, quoting]) [short] [quoting]
        .initial t ((mailbox 2 [short, quoting]).run plainServices noFaults t).2 := by
  have hsmall : (writeMboxrd [short]).length ≤ CandidateKind.mbox.limit := by decide
  have hsmall' : (writeMboxrd [short, quoting]).length ≤ CandidateKind.mbox.limit := by decide
  have hfits : Fits [short] := ⟨by simp, by decide, by decide⟩
  have hfirst := mailbox_reads 1 hsmall
  obtain ⟨imported, himported⟩ := (mailbox 1 [short]).run_total plainServices_dependable
    consistent_initial (hfirst.fine_iff.mpr ⟨by simp [identityAt, ImportTables.initial], hfits⟩)
  exact ((mboxrd_round_trip plainServices_dependable).2 _ _ _ [quoting] noFaults _ _ _ hfirst
    (mailbox_reads 2 hsmall') .refl himported .refl).mpr ⟨rfl, Or.inl rfl, by simp, by decide, by decide⟩

end MailboxExample

end Threadbook.Imports
