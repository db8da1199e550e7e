import Threadbook.ImportTotality

/-!
# The steps of an import

What importing one file does, step by step, under any rules that admit changes of its source
(`Admits`). Whatever happens, only the file's source and the messages in it are touched. If this
ends well, its source has the view that its verdict leaves (**`importCandidate_guarded`**).
It fails only if something outside does, or if the file is not `Fine`: then `failed` must
allow it.
-/

namespace Threadbook.Imports

open Threadbook.Task (statement check)

variable {services : ImportServices} {t t' : ImportTables}
  {kept : ImportTables → Prop} {moves : ImportTables → ImportTables → Prop}
  {outside : Surroundings ImportTables Unit} {failed : ImportTables → Prop}

/-! ## Rules -/

/-- Nothing is excluded. -/
def anything : Surroundings ImportTables Unit := ⟨fun _ => True, fun _ => True⟩

theorem anything_allows (os : ℕ → Option PlatformError × Unit) (n : ℕ) (t : ImportTables) :
    anything.allows t (os n) := ⟨fun _ => trivial, trivial⟩

/-- Nothing outside fails. -/
def calm : Surroundings ImportTables Unit := ⟨fun _ => False, fun _ => True⟩

/-- Nothing is contributed but the answers. -/
def noFaults : ℕ → Option PlatformError × Unit := fun _ => (none, ())

theorem calm_allows (n : ℕ) (t : ImportTables) : calm.allows t (noFaults n) :=
  ⟨fun h => (nomatch h), trivial⟩

variable {ids : SourceId → Prop} {parent id : SourceId} {entry : SourceEntry} {t₁ : ImportTables}
  {effect : ImportTables → Except PlatformError ImportTables} {bytes : List UInt8}

/-- **A transaction.** -/
theorem guarded_transaction {Q : Unit → ImportTables → Prop} (hkept : kept t) (hstill : moves t t)
    (hok : ∀ t', effect t = .ok t' → moves t t' ∧ Q () t')
    (herror : ∀ e, effect t = .error e → failed t) (hfault : outside.mayFail t → failed t) :
    Guarded ⟨kept, moves, outside.allows⟩ (transaction effect) (Ends Q failed) t := by
  refine Guarded.statement hkept hstill (fun o _ => ?_) (fun o _ => ?_) fun e h => hfault h
  · rcases heffect : effect t with e | t'
    · exact hstill
    · exact (hok t' heffect).1
  · rcases heffect : effect t with e | t'
    · exact herror e heffect
    · exact (hok t' heffect).2

/-- **A query.** -/
theorem guarded_query {α : Type} {read : ImportTables → α} {Q : α → ImportTables → Prop}
    (hkept : kept t) (hstill : moves t t) (hQ : Q (read t) t) (hfault : outside.mayFail t → failed t) :
    Guarded ⟨kept, moves, outside.allows⟩ (query read) (Ends Q failed) t :=
  Guarded.statement hkept hstill (fun _ _ => hstill) (fun _ _ => hQ) fun _ h => hfault h

/-- **An action** that fails by its answer only. -/
theorem guarded_answer {β : Type} {effect : ImportTables → β × ImportTables}
    {Q : β → ImportTables → Prop} (hkept : kept t)
    (h : moves t (effect t).2 ∧ Q (effect t).1 (effect t).2) :
    Guarded ⟨kept, moves, outside.allows⟩ (answer effect) (Ends Q failed) t :=
  ⟨hkept, fun _ _ => h⟩

/-- **A statement** with its own answer. -/
theorem guarded_statement {β : Type} {effect : ImportTables → Except PlatformError β × ImportTables}
    {Q : β → ImportTables → Prop} (hkept : kept t) (hstill : moves t t)
    (h : moves t (effect t).2 ∧ Ends Q failed (effect t).1 (effect t).2)
    (hfault : outside.mayFail t → failed t) :
    Guarded ⟨kept, moves, outside.allows⟩ (statement fun _ t => effect t) (Ends Q failed) t :=
  Guarded.statement hkept hstill (fun _ _ => h.1) (fun _ _ => h.2) fun _ h => hfault h

/-- Rules under which some sources may change. -/
structure Admits (services : ImportServices) (ids : SourceId → Prop) (kept : ImportTables → Prop)
    (moves : ImportTables → ImportTables → Prop) : Prop where
  consistent : ∀ t, kept t → Consistent services t
  step : ∀ t t', kept t → Touches ids t t' → Consistent services t' → kept t' ∧ moves t t'

namespace Admits

variable {ids : SourceId → Prop}

theorem still (h : Admits services ids kept moves) (hkept : kept t) : moves t t :=
  (h.step t t hkept (.refl _ _) (h.consistent t hkept)).2

theorem records (h : Admits services ids kept moves) (hkept : kept t) {id : SourceId}
    (hid : ids id) {after : SourceView} (hrecords : Records services id t t' after) :
    kept t' ∧ moves t t' :=
  h.step t t' hkept (hrecords.touches.mono fun _ heq => heq ▸ hid) hrecords.consistent

theorem stores (h : Admits services ids kept moves) (hkept : kept t)
    (hstores : Stores services t t') : kept t' ∧ moves t t' :=
  h.step t t' hkept (hstores.touches.mono fun _ hfalse => hfalse.elim) hstores.consistent

end Admits

/-- **A transaction about one source.** It fails if it is not total, where that is allowed. -/
theorem guarded_records (hadmits : Admits services ids kept moves) (hkept : kept t) (hid : ids id)
    {P : ImportTables → Prop}
    (hok : ∀ t', effect t = .ok t' → (∃ after, Records services id t t' after) ∧ P t')
    (htotal : (∃ t', effect t = .ok t') ∨ ∀ t, kept t → failed t)
    (hfault : outside.mayFail t → failed t) :
    Guarded ⟨kept, moves, outside.allows⟩ (transaction effect)
      (Ends (fun _ t' => kept t' ∧ P t') failed) t := by
  refine guarded_transaction hkept (hadmits.still hkept) (fun t' heffect => ?_) (fun e herror => ?_)
    hfault
  · obtain ⟨⟨after, hrecords⟩, hP⟩ := hok t' heffect
    have hadmitted := hadmits.records hkept hid hrecords
    exact ⟨hadmitted.2, hadmitted.1, hP⟩
  · rcases htotal with ⟨t', htotal⟩ | hallowed
    · rw [htotal] at herror
      cases herror
    · exact hallowed t hkept

/-- **Bytes** that are kept. -/
theorem guarded_putBlob (hadmits : Admits services ids kept moves) (hkept : kept t) {maxBytes : ℕ}
    (hfine : (Function.Injective services.digest ∧ bytes.length ≤ maxBytes) ∨
      ∀ t, kept t → failed t) (hfault : outside.mayFail t → failed t) :
    Guarded ⟨kept, moves, outside.allows⟩ (statement fun _ t => putBlob services bytes maxBytes t)
      (Ends (fun record t' => kept t' ∧ Stores services t t' ∧ bytes.length ≤ maxBytes ∧
        record.sha256 = services.digest bytes ∧ record.byteLength = bytes.length) failed) t := by
  have hstores := putBlob_stores (hadmits.consistent t hkept) bytes maxBytes
  have hadmitted := hadmits.stores hkept hstores
  refine guarded_statement hkept (hadmits.still hkept) ⟨hadmitted.2, ?_⟩ hfault
  rcases hresult : putBlob services bytes maxBytes t with ⟨e | record, t'⟩ <;>
    rw [hresult] at hstores hadmitted
  · rcases hfine with ⟨hdigest, hsmall⟩ | hallowed
    · obtain ⟨record, hok⟩ := putBlob_total (hadmits.consistent t hkept) hdigest hsmall
      rw [hresult] at hok
      cases hok
    · exact hallowed _ hadmitted.1
  · obtain ⟨hsmall, hsha, hlength, -⟩ := putBlob_eq_ok hresult
    exact ⟨hadmitted.1, hstores, hsmall, hsha, hlength⟩

/-! ## Mailboxes -/

/-- What an import relies on: no two contents have one digest, and parts come after their
parents. -/
structure Dependable (services : ImportServices) : Prop where
  digest : Function.Injective services.digest
  parse : ParentsFirst services.parse

def IsMessageOf (parent id : SourceId) : Prop :=
  ∃ sha256 ordinal, id = .mboxMessage parent sha256 ordinal

def Present (t : ImportTables) (id : SourceId) : Prop := (view t id).row.isSome

def childIds (services : ImportServices) (parent : SourceId) :
    List (List UInt8) → List String → List SourceId
  | [], _ => []
  | raw :: rest, occurrences =>
    .mboxMessage parent (services.digest raw) (occurrences.count (services.digest raw)) ::
      childIds services parent rest (services.digest raw :: occurrences)

theorem Records.present {after : SourceView} (h : Records services id t t' after)
    (hrow : after.row.isSome) (other : SourceId) :
    Present t' other ↔ Present t other ∨ other = id := by
  by_cases hother : other = id
  · subst hother
    rw [Present, h.view_self]
    simp [hrow]
  · rw [Present, h.touches.views other hother, ← Present]
    simp [hother]

structure MessagesImported (kept : ImportTables → Prop) (parent : SourceId) (ids : List SourceId)
    (t t' : ImportTables) : Prop where
  kept : kept t'
  touches : Touches (IsMessageOf parent) t t'
  present : ∀ id, Present t' id ↔ Present t id ∨ id ∈ ids

theorem MessagesImported.trans {ids ids' : List SourceId}
    (h : MessagesImported kept parent ids t t₁) (h' : MessagesImported kept parent ids' t₁ t') :
    MessagesImported kept parent (ids ++ ids') t t' where
  kept := h'.kept
  touches := h.touches.trans h'.touches
  present := fun id => by rw [h'.present, h.present, List.mem_append, or_assoc]

theorem MessagesImported.again (h : MessagesImported kept parent [id] t t₁)
    (hid : IsMessageOf parent id) (hkept : kept t') {after : SourceView}
    (hrecords : Records services id t₁ t' after) (hrow : after.row.isSome) :
    MessagesImported kept parent [id] t t' where
  kept := hkept
  touches := h.touches.trans (hrecords.touches.mono fun _ heq => heq ▸ hid)
  present := fun other => by
    rw [hrecords.present hrow, h.present, List.mem_singleton, or_assoc, or_self]

/-- **Importing one message**: its bytes and its row. -/
theorem recordMessage_guarded (hadmits : Admits services ids kept moves)
    (hids : ∀ id, IsMessageOf parent id → ids id) (hkept : kept t) {blob : BlobRecord}
    (hblob : Describes services blob.sha256 blob.byteLength) (slice : ℕ × ℕ) (ordinal : ℕ)
    (hfine : Dependable services ∨ ∀ t, kept t → failed t) (hfault : outside.mayFail t → failed t) :
    Guarded ⟨kept, moves, outside.allows⟩ (transaction (recordMboxChild parent blob slice ordinal))
      (Ends (fun _ t' => MessagesImported kept parent [.mboxMessage parent blob.sha256 ordinal] t t')
        failed) t := by
  have hc := hadmits.consistent t hkept
  have hid : IsMessageOf parent (.mboxMessage parent blob.sha256 ordinal) := ⟨_, _, rfl⟩
  refine (guarded_records (P := fun t' => MessagesImported (fun _ => True) parent
    [.mboxMessage parent blob.sha256 ordinal] t t') hadmits hkept (hids _ hid) ?_
    (hfine.imp_left fun h => recordMboxChild_total hc h.digest hblob) hfault).mono ?_
  · intro t' hok
    have hrecords := recordMboxChild_eq_ok hc hblob hok
    refine ⟨⟨_, hrecords⟩, trivial, hrecords.touches.mono fun _ heq => heq ▸ hid, fun id => ?_⟩
    rw [hrecords.present rfl, List.mem_singleton]
  · rintro (e | u) t' h
    · exact h
    · exact { h.2 with kept := h.1 }

/-- **What is in a message** is recorded after it, or why it is in quarantine. -/
theorem contents_guarded (hadmits : Admits services ids kept moves)
    (hids : ∀ id, IsMessageOf parent id → ids id) {sha256 : String} {ordinal : ℕ}
    (h : MessagesImported kept parent [.mboxMessage parent sha256 ordinal] t t₁)
    (hok : ∀ t', effect t₁ = .ok t' → ∃ after : SourceView, after.row.isSome ∧
      Records services (.mboxMessage parent sha256 ordinal) t₁ t' after)
    (htotal : (∃ t', effect t₁ = .ok t') ∨ ∀ t, kept t → failed t)
    (hfault : outside.mayFail t₁ → failed t₁) :
    Guarded ⟨kept, moves, outside.allows⟩ (transaction effect)
      (Ends (fun _ t' => MessagesImported kept parent [.mboxMessage parent sha256 ordinal] t t')
        failed) t₁ := by
  have hid : IsMessageOf parent (.mboxMessage parent sha256 ordinal) := ⟨_, _, rfl⟩
  refine (guarded_records (P := fun t' => MessagesImported (fun _ => True) parent
    [.mboxMessage parent sha256 ordinal] t t') hadmits h.kept (hids _ hid) ?_ htotal hfault).mono ?_
  · intro t' heffect
    obtain ⟨after, hrow, hrecords⟩ := hok t' heffect
    have hplain : MessagesImported (fun _ => True) parent [.mboxMessage parent sha256 ordinal] t t₁ :=
      { h with kept := trivial }
    exact ⟨⟨after, hrecords⟩, hplain.again hid trivial hrecords hrow⟩
  · rintro (e | u) t' h
    · exact h
    · exact { h.2 with kept := h.1 }

theorem present_of_messagesImported (h : MessagesImported kept parent [id] t t') : Present t' id :=
  (h.present id).mpr (.inr (List.mem_singleton_self id))

/-- **Importing messages** records each of them. -/
theorem importSlices_guarded (hadmits : Admits services ids kept moves)
    (hids : ∀ id, IsMessageOf parent id → ids id)
    (hfault : ∀ t, kept t → outside.mayFail t → failed t) {slices : List (ℕ × ℕ)}
    (hfine : (Dependable services ∧ ∀ slice ∈ slices, (sliceOf bytes slice).length ≤ emlLimit) ∨
      ∀ t, kept t → failed t) (occurrences : List String) (counts : ImportCounts) (hkept : kept t) :
    Guarded ⟨kept, moves, outside.allows⟩
      (importSlices services parent bytes slices occurrences counts)
      (Ends (fun _ t' => (∀ slice ∈ slices, (sliceOf bytes slice).length ≤ emlLimit) ∧
        MessagesImported kept parent
          (childIds services parent (slices.map (sliceOf bytes)) occurrences) t t') failed) t := by
  induction slices generalizing occurrences counts t with
  | nil =>
    refine Guarded.pure ?_
    exact ⟨fun _ hmem => (nomatch hmem), hkept, .refl _ _, fun id => by simp [childIds]⟩
  | cons slice slices ih =>
    have hrestFine : (Dependable services ∧ ∀ slice ∈ slices,
        (sliceOf bytes slice).length ≤ emlLimit) ∨ ∀ t, kept t → failed t :=
      hfine.imp_left fun h => ⟨h.1, fun slice hmem => h.2 slice (.tail _ hmem)⟩
    rw [importSlices]
    refine (guarded_query (Q := fun _ t' => t = t') hkept (hadmits.still hkept) rfl
      (hfault t hkept)).step ?_
    intro existed t₀ heq
    subst heq
    refine (guarded_putBlob hadmits hkept (hfine.imp_left fun h =>
      ⟨h.1.digest, h.2 slice (.head _)⟩) (hfault t hkept)).step ?_
    rintro record t₁ ⟨hkept₁, hstores, hsmall, hsha, hlength⟩
    have hblob : Describes services record.sha256 record.byteLength := ⟨_, hsha.symm, hlength.symm⟩
    have hstored : MessagesImported kept parent [] t t₁ :=
      ⟨hkept₁, hstores.touches.mono fun _ hfalse => hfalse.elim, fun id => by
        rw [Present, hstores.touches.views id not_false, ← Present]
        simp⟩
    refine (recordMessage_guarded hadmits hids hkept₁ hblob slice _
      (hfine.imp_left And.left) (hfault t₁ hkept₁)).step ?_
    rintro - t₂ hmessage
    have hc₂ := hadmits.consistent t₂ hmessage.kept
    rw [hsha] at hmessage
    have hpresent := present_of_messagesImported hmessage
    -- the rest of the messages, after this one
    have hrest : ∀ (t₃ : ImportTables) (next : ImportCounts),
        MessagesImported kept parent [.mboxMessage parent (services.digest (sliceOf bytes slice))
          (occurrences.count (services.digest (sliceOf bytes slice)))] t₁ t₃ →
        Guarded ⟨kept, moves, outside.allows⟩ (importSlices services parent bytes slices
          (services.digest (sliceOf bytes slice) :: occurrences) next)
          (Ends (fun _ t' => (∀ other ∈ slice :: slices, (sliceOf bytes other).length ≤ emlLimit) ∧
            MessagesImported kept parent
              (childIds services parent ((slice :: slices).map (sliceOf bytes)) occurrences) t t')
            failed) t₃ := by
      intro t₃ next h₃
      refine (ih hrestFine _ next h₃.kept).mono ?_
      rintro (e | counts') t' h
      · exact h
      · exact ⟨List.forall_mem_cons.mpr ⟨hsmall, h.1⟩, (hstored.trans h₃).trans h.2⟩
    cases hparse : prepareMessageParts services.parse (unescapeMboxrd (sliceOf bytes slice)) with
    | ok parts =>
      refine (contents_guarded hadmits hids hmessage (fun t' hok =>
        ⟨_, ?_, recordMessageParts_eq_ok hc₂ hok⟩) (hfine.imp_left fun h =>
        recordMessageParts_total h.1.parse hparse) (hfault t₂ hmessage.kept)).step ?_
      · rw [SourceView.withParts_row]
        exact hpresent
      · intro u t₃ h₃
        exact hrest t₃ _ h₃
    | error reason =>
      refine (contents_guarded hadmits hids hmessage (fun t' hok => ?_) (hfine.imp_left fun h =>
        markSourceQuarantined_total hc₂ hpresent) (hfault t₂ hmessage.kept)).step ?_
      · obtain ⟨stored, -, hrecords⟩ := markSourceQuarantined_eq_ok hc₂ hok
        exact ⟨_, rfl, hrecords⟩
      · intro u t₃ h₃
        exact hrest t₃ _ h₃

/-- **Importing a mailbox** records its messages. -/
theorem importMboxChildren_guarded (hadmits : Admits services ids kept moves)
    (hids : ∀ id, IsMessageOf parent id → ids id)
    (hfault : ∀ t, kept t → outside.mayFail t → failed t)
    (hfine : (Dependable services ∧ ∃ slices, splitMboxrd bytes = .ok slices ∧
      ∀ slice ∈ slices, (sliceOf bytes slice).length ≤ emlLimit) ∨ ∀ t, kept t → failed t)
    (hkept : kept t) :
    Guarded ⟨kept, moves, outside.allows⟩ (importMboxChildren services parent bytes)
      (Ends (fun _ t' => ∃ slices, splitMboxrd bytes = .ok slices ∧
        (∀ slice ∈ slices, (sliceOf bytes slice).length ≤ emlLimit) ∧ MessagesImported kept parent
          (childIds services parent (slices.map (sliceOf bytes)) []) t t') failed) t := by
  rw [importMboxChildren]
  cases hsplit : splitMboxrd bytes with
  | error e =>
    rcases hfine with ⟨-, slices, hok, -⟩ | hallowed
    · rw [hsplit] at hok
      cases hok
    · exact hallowed t hkept
  | ok slices =>
    have hsmall := hfine.imp_left fun ⟨hdependable, slices', hok, hsmall⟩ => by
      rw [hsplit] at hok
      cases hok
      exact (⟨hdependable, hsmall⟩ : Dependable services ∧ _)
    refine (importSlices_guarded hadmits hids hfault hsmall [] {} hkept).mono ?_
    rintro (e | counts) t' h
    · exact h
    · exact ⟨slices, rfl, h.1, h.2⟩

/-! ## One file -/

/-- What a file is recorded as, before its bytes are known. -/
def entryOf (requestId : RequestId) (index : ℕ) (candidate : Candidate)
    (root : Option (ImportRootId × ℕ)) : SourceEntry :=
  ⟨sourceIdOf requestId index candidate root, candidate.kind.sourceKind,
    identityOf requestId index candidate root, root⟩

/-- What a file is recorded as, when its bytes are known. -/
def SourceEntry.persisted (entry : SourceEntry) (sha256 : String) : SourceEntry :=
  { entry with identityKey :=
      if entry.root.isSome then entry.identityKey else .content entry.sourceId sha256 }

theorem entryOf_known (requestId : RequestId) (index : ℕ) (candidate : Candidate)
    (root : Option (ImportRootId × ℕ)) : (entryOf requestId index candidate root).Known := by
  rcases root with _ | ⟨root, generation⟩
  · exact ⟨⟨rfl, .inl rfl⟩, rfl, fun _ _ _ h => nomatch h⟩
  · exact ⟨⟨rfl, rfl⟩, rfl, fun _ _ _ h => nomatch h⟩

theorem notRegular_known (requestId : RequestId) (index device file : ℕ) :
    (⟨.quarantinedFile requestId index device file, .folderImage,
      .quarantinedFile requestId index device file, none⟩ : SourceEntry).Known :=
  ⟨⟨rfl, rfl⟩, rfl, fun _ _ _ h => nomatch h⟩

theorem persisted_known (requestId : RequestId) (index : ℕ) (candidate : Candidate)
    (root : Option (ImportRootId × ℕ)) (sha256 : String) :
    ((entryOf requestId index candidate root).persisted sha256).Known := by
  rcases root with _ | ⟨root, generation⟩
  · exact ⟨⟨rfl, .inr ⟨sha256, rfl⟩⟩, rfl, fun _ _ _ h => nomatch h⟩
  · exact ⟨⟨rfl, rfl⟩, rfl, fun _ _ _ h => nomatch h⟩

theorem persisted_regular (requestId : RequestId) (index : ℕ) (candidate : Candidate)
    (root : Option (ImportRootId × ℕ)) (sha256 : String) :
    ((entryOf requestId index candidate root).persisted sha256).Regular := by
  intro requestId' index' device file heq
  rcases root with _ | ⟨root, generation⟩
  · cases heq
  · cases heq

def SourceView.seen (self : SourceView) (entry : SourceEntry) (kind : CandidateKind) :
    Verdict → SourceView
  | .unread reason => self.unread entry reason
  | .read sha256 bytes parsed =>
    (self.materialized (entry.persisted sha256) (.blob sha256 bytes.length)
      (reasonOf parsed)).withContents kind parsed

def Verdict.messages (services : ImportServices) (sourceId : SourceId) (kind : CandidateKind) :
    Verdict → List SourceId
  | .unread _ => []
  | .read _ bytes _ =>
    if kind = .mbox then
      match splitMboxrd bytes with
      | .ok slices => childIds services sourceId (slices.map (sliceOf bytes)) []
      | .error _ => []
    else []

/-- How many bytes a file brings. -/
def Verdict.byteLength : Verdict → ℕ
  | .unread _ => 0
  | .read _ bytes _ => bytes.length

/-- A file that can be recorded: its source, if it is known already, is not known by other bytes,
and no longer without its bytes; and if it is a mailbox, its messages can be told apart, and none
is too long. -/
def Verdict.Fine (t : ImportTables) (entry : SourceEntry) (kind : CandidateKind) : Verdict → Prop
  | .unread _ => ∀ stored, t.localSources.find? entry.sourceId = some stored →
      stored.identityKey = entry.identityKey ∧ ∃ reason, stored.blob = .noBlob reason
  | .read sha256 bytes _ =>
    (∀ stored, t.localSources.find? entry.sourceId = some stored →
      stored.identityKey = (entry.persisted sha256).identityKey) ∧
    (kind = .mbox → ∃ slices, splitMboxrd bytes = .ok slices ∧
      ∀ slice ∈ slices, (sliceOf bytes slice).length ≤ emlLimit)

def IsSourceOf (sourceId id : SourceId) : Prop := id = sourceId ∨ IsMessageOf sourceId id

theorem not_isMessageOf_self (id : SourceId) : ¬ IsMessageOf id id := by
  rintro ⟨sha256, ordinal, h⟩
  have hsize := congrArg sizeOf h
  simp only [SourceId.mboxMessage.sizeOf_spec] at hsize
  omega

structure FileImported (services : ImportServices) (kept : ImportTables → Prop)
    (entry : SourceEntry) (kind : CandidateKind) (verdict : Verdict) (t t' : ImportTables) :
    Prop where
  kept : kept t'
  touches : Touches (IsSourceOf entry.sourceId) t t'
  view_self : view t' entry.sourceId = (view t entry.sourceId).seen entry kind verdict
  present : ∀ id, Present t' id ↔ Present t id ∨ id = entry.sourceId ∨
    id ∈ verdict.messages services entry.sourceId kind
  fine : verdict.Fine t entry kind

section

variable (hadmits : Admits services ids kept moves)

include hadmits

/-- **What is not read** is recorded. -/
theorem upsertQuarantineSource_guarded (hkept : kept t) (hknown : entry.Known)
    (hid : ids entry.sourceId) (kind : CandidateKind) (reason : Reason)
    (hfine : (Verdict.unread reason).Fine t entry kind ∨ ∀ t, kept t → failed t)
    (hfault : outside.mayFail t → failed t) :
    Guarded ⟨kept, moves, outside.allows⟩ (transaction (upsertQuarantineSource entry reason))
      (Ends (fun _ t' => FileImported services kept entry kind (.unread reason) t t') failed) t := by
  have hc := hadmits.consistent t hkept
  refine (guarded_records (P := fun t' => FileImported services (fun _ => True) entry kind
    (.unread reason) t t') hadmits hkept hid (fun t' hok => ?_)
    (hfine.imp_left fun h => upsertQuarantineSource_total hc hknown h) hfault).mono ?_
  · obtain ⟨hrecords, hunread⟩ := upsertQuarantineSource_eq_ok hc hknown hok
    refine ⟨⟨_, hrecords⟩, trivial, hrecords.touches.mono fun _ heq => .inl heq,
      hrecords.view_self, fun id => ?_, hunread⟩
    rw [hrecords.present rfl]
    simp [Verdict.messages]
  · rintro (e | u) t' h
    · exact h
    · exact { h.2 with kept := h.1 }

/-- **A file that is not read** is put into quarantine. -/
theorem quarantineCandidate_guarded (hkept : kept t) (hknown : entry.Known)
    (hid : ids entry.sourceId) (kind : CandidateKind) (reason : Reason) (batchBytes : ℕ)
    (hfine : (Verdict.unread reason).Fine t entry kind ∨ ∀ t, kept t → failed t)
    (hfault : outside.mayFail t → failed t) :
    Guarded ⟨kept, moves, outside.allows⟩ (quarantineCandidate entry reason batchBytes)
      (Ends (fun imported t' => imported.batchBytes = batchBytes ∧
        FileImported services kept entry kind (.unread reason) t t') failed) t := by
  rw [quarantineCandidate]
  refine (upsertQuarantineSource_guarded hadmits hkept hknown hid kind reason hfine hfault).step ?_
  rintro - t' himported
  exact Guarded.pure ⟨rfl, himported⟩

theorem recordContents_guarded (hkept : kept t) (hid : ids id) (kind : CandidateKind)
    (bytes : List UInt8) (hfine : Dependable services ∨ ∀ t, kept t → failed t)
    (hfault : outside.mayFail t → failed t) :
    Guarded ⟨kept, moves, outside.allows⟩
      (recordContents id kind (parseResult services kind bytes))
      (Ends (fun _ t' => kept t' ∧ Records services id t t'
        ((view t id).withContents kind (parseResult services kind bytes))) failed) t := by
  have hc := hadmits.consistent t hkept
  have hstill : Records services id t t (view t id) := ⟨rfl, .refl _ _, hc⟩
  cases hparsed : parseResult services kind bytes with
  | error reason =>
    rw [recordContents]
    · exact ⟨hkept, hstill⟩
    all_goals simp
  | ok parts =>
    cases kind with
    | image =>
      have hevidence := records_ensureEvidence hc id none .image
      rw [recordContents]
      refine guarded_records hadmits hkept hid (fun t' hok => ?_) ?_ hfault
      · cases hok
        exact ⟨⟨_, hevidence⟩, hevidence⟩
      · exact .inl ⟨_, rfl⟩
    | eml =>
      exact guarded_records hadmits hkept hid (fun t' hok =>
        ⟨⟨_, recordMessageParts_eq_ok hc hok⟩, recordMessageParts_eq_ok hc hok⟩)
        (hfine.imp_left fun h => recordMessageParts_total h.parse hparsed) hfault
    | mbox => exact ⟨hkept, hstill⟩

/-- **A file that is read** is recorded with what is in it. -/
theorem importMaterialized_guarded (hkept : kept t) {m : Materialized}
    (hknown : (entry.persisted m.record.sha256).Known)
    (hregular : (entry.persisted m.record.sha256).Regular)
    (hids : ∀ id, IsSourceOf entry.sourceId id → ids id) (kind : CandidateKind) (batchBytes : ℕ)
    (hlength : m.record.byteLength = m.bytes.length)
    (hblob : Describes services m.record.sha256 m.bytes.length)
    (hfine : (Dependable services ∧ (Verdict.read m.record.sha256 m.bytes
      (parseResult services kind m.bytes)).Fine t entry kind) ∨ ∀ t, kept t → failed t)
    (hfault : ∀ t, kept t → outside.mayFail t → failed t) :
    Guarded ⟨kept, moves, outside.allows⟩
      (importMaterialized services (entry.persisted m.record.sha256) kind m batchBytes)
      (Ends (fun imported t' => imported.batchBytes = batchBytes ∧
        FileImported services kept entry kind
          (.read m.record.sha256 m.bytes (parseResult services kind m.bytes)) t t') failed) t := by
  have hc := hadmits.consistent t hkept
  have hid : ids entry.sourceId := hids _ (.inl rfl)
  rw [← hlength] at hblob
  rw [importMaterialized]
  refine (guarded_query (Q := fun _ t' => t = t') hkept (hadmits.still hkept) rfl
    (hfault t hkept)).step ?_
  intro wasPresent t₀ heq
  subst heq
  -- the row
  refine (guarded_records (P := fun t₁ => Records services entry.sourceId t t₁
    ((view t entry.sourceId).materialized (entry.persisted m.record.sha256)
      (.blob m.record.sha256 m.bytes.length) (reasonOf (parseResult services kind m.bytes))) ∧
    ∀ stored, t.localSources.find? entry.sourceId = some stored →
      stored.identityKey = (entry.persisted m.record.sha256).identityKey) hadmits hkept hid (fun t₁ hok => ?_) (hfine.imp_left fun h =>
      recordMaterializedSource_total hc h.1.digest hknown hblob h.2.1) (hfault t hkept)).step ?_
  · obtain ⟨hrecords, hidentity⟩ := recordMaterializedSource_eq_ok hc hknown hregular hblob hok
    rw [hlength] at hrecords
    exact ⟨⟨_, hrecords⟩, hrecords, hidentity⟩
  rintro - t₁ ⟨hkept₁, hrow, hidentity⟩
  -- what is in the file
  refine (recordContents_guarded hadmits hkept₁ hid kind m.bytes (hfine.imp_left And.left)
    (hfault t₁ hkept₁)).step ?_
  rintro - t₂ ⟨hkept₂, hcontents⟩
  rw [hrow.view_self] at hcontents
  have hrow' : (((view t entry.sourceId).materialized (entry.persisted m.record.sha256)
      (.blob m.record.sha256 m.bytes.length)
      (reasonOf (parseResult services kind m.bytes))).withContents kind
      (parseResult services kind m.bytes)).row.isSome := by
    rw [SourceView.withContents_row]
    rfl
  have himported : MessagesImported kept entry.sourceId [] t₂ t₂ :=
    ⟨hkept₂, .refl _ _, fun id => by simp⟩
  -- the file and then its messages
  have hdone : ∀ (messages : List SourceId) (t₃ : ImportTables),
      (Verdict.read m.record.sha256 m.bytes (parseResult services kind m.bytes)).messages services
        entry.sourceId kind = messages →
      (kind = .mbox → ∃ slices, splitMboxrd m.bytes = .ok slices ∧
        ∀ slice ∈ slices, (sliceOf m.bytes slice).length ≤ emlLimit) →
      MessagesImported kept entry.sourceId messages t₂ t₃ →
      FileImported services kept entry kind
        (.read m.record.sha256 m.bytes (parseResult services kind m.bytes)) t t₃ := by
    rintro messages t₃ rfl hsplits h₃
    refine ⟨h₃.kept, ?_, ?_, fun id => ?_, hidentity, hsplits⟩
    · exact ((hrow.touches.trans hcontents.touches).mono fun _ heq => .inl heq).trans
        (h₃.touches.mono fun _ hmessage => .inr hmessage)
    · rw [h₃.touches.views _ (not_isMessageOf_self _), hcontents.view_self]
      rfl
    · rw [h₃.present, hcontents.present hrow', hrow.present rfl]
      tauto
  by_cases hkind : kind = .mbox
  · subst hkind
    rw [if_pos ⟨rfl, rfl⟩]
    refine (importMboxChildren_guarded hadmits (fun id h => hids id (.inr h)) hfault
      (hfine.imp_left fun h => ⟨h.1, h.2.2 rfl⟩) hkept₂).step ?_
    rintro counts t₃ ⟨slices, hsplit, hsmall, h₃⟩
    refine Guarded.pure ?_
    refine ⟨rfl, hdone _ t₃ ?_ (fun _ => ⟨slices, hsplit, hsmall⟩) h₃⟩
    simp [Verdict.messages, hsplit]
  · rw [if_neg fun h => hkind h.1]
    refine Guarded.pure ?_
    refine ⟨rfl, hdone _ t₂ ?_ (fun h => absurd h hkind) himported⟩
    simp [Verdict.messages, hkind]

end

theorem Stores.fine_iff {kind : CandidateKind} {verdict : Verdict}
    (hstores : Stores services t t') :
    verdict.Fine t' entry kind ↔ verdict.Fine t entry kind := by
  have hrow : t'.localSources.find? entry.sourceId = t.localSources.find? entry.sourceId :=
    congrArg SourceView.row (hstores.touches.views entry.sourceId not_false)
  cases verdict <;> simp only [Verdict.Fine, hrow]

theorem FileImported.of_stores {kind : CandidateKind} {verdict : Verdict}
    (hstores : Stores services t t₁) (h : FileImported services kept entry kind verdict t₁ t') :
    FileImported services kept entry kind verdict t t' where
  kept := h.kept
  touches := (hstores.touches.mono fun _ hfalse => hfalse.elim).trans h.touches
  view_self := by rw [h.view_self, hstores.touches.views _ not_false]
  present := fun id => by rw [h.present, Present, hstores.touches.views id not_false, ← Present]
  fine := hstores.fine_iff.mp h.fine

/-- **Importing a file** leaves the view of its source that its verdict says. -/
theorem importCandidate_guarded (hadmits : Admits services ids kept moves)
    (hdigest : Function.Injective services.digest) (requestId : RequestId) (index : ℕ)
    (candidate : Candidate) (root : Option (ImportRootId × ℕ)) (batchBytes : ℕ)
    (hids : ∀ id, IsSourceOf (sourceIdOf requestId index candidate root) id → ids id)
    (hfine : (Dependable services ∧ (examine services candidate root.isSome batchBytes).Fine t
      (entryOf requestId index candidate root) candidate.kind) ∨ ∀ t, kept t → failed t)
    (hfault : ∀ t, kept t → outside.mayFail t → failed t) (hkept : kept t) :
    Guarded ⟨kept, moves, outside.allows⟩
      (importCandidate services requestId index candidate root batchBytes)
      (Ends (fun imported t' =>
        imported.batchBytes = batchBytes +
          (examine services candidate root.isSome batchBytes).byteLength ∧
        FileImported services kept (entryOf requestId index candidate root) candidate.kind
          (examine services candidate root.isSome batchBytes) t t') failed) t := by
  have hc := hadmits.consistent t hkept
  have hknown := entryOf_known requestId index candidate root
  have hid : ids (entryOf requestId index candidate root).sourceId := hids _ (.inl rfl)
  rw [importCandidate]
  cases hreason : noBlobReason candidate batchBytes with
  | some reason =>
    have hverdict : examine services candidate root.isSome batchBytes = .unread reason := by
      simp only [examine, hreason]
    rw [hverdict] at hfine ⊢
    exact quarantineCandidate_guarded hadmits hkept hknown hid candidate.kind reason batchBytes
      (hfine.imp_left And.right) (hfault t hkept)
  | none =>
    have hstores := materialize_stores hc candidate root.isSome
    have hadmitted := hadmits.stores hkept hstores
    refine (guarded_answer (Q := fun result t₁ => materialize services candidate root.isSome t =
      (result, t₁)) hkept ⟨hadmitted.2, rfl⟩).step ?_
    intro result t₁ hresult
    rw [hresult] at hstores hadmitted
    have hfine₁ := hfine.imp_left (And.imp_right hstores.fine_iff.mpr)
    cases result with
    | error e =>
      rw [examine_of_error hdigest hc hresult hreason] at hfine₁ ⊢
      refine (quarantineCandidate_guarded hadmits hadmitted.1 hknown hid candidate.kind
        "open_or_identity_failed" batchBytes (hfine₁.imp_left And.right)
        (hfault t₁ hadmitted.1)).mono ?_
      rintro (e | imported) t' h
      · exact h
      · exact ⟨h.1, h.2.of_stores hstores⟩
    | ok m =>
      obtain ⟨hverdict, hsha, hlength⟩ := examine_of_ok hdigest hc hresult hreason
      rw [hverdict] at hfine₁ ⊢
      refine (importMaterialized_guarded hadmits hadmitted.1
        (persisted_known requestId index candidate root _)
        (persisted_regular requestId index candidate root _) hids candidate.kind
        (batchBytes + m.record.byteLength) hlength ⟨m.bytes, hsha.symm, rfl⟩ hfine₁ hfault).mono ?_
      rintro (e | imported) t' h
      · exact h
      · refine ⟨?_, h.2.of_stores hstores⟩
        rw [h.1, hlength]
        rfl

/-! ## Plain services -/

/-- A digest that no two contents share, a parser that finds no mail, and a decoder that knows one
image. -/
def plainServices : ImportServices where
  digest bytes := String.ofList (bytes.map fun b => Char.ofNat b.toNat)
  parse _ := none
  decoder := ⟨fun bytes => if bytes = [2] then some .jpeg else none, fun _ => none, fun _ => none,
    fun _ _ => some (1, 1), fun _ _ => true⟩
  serialize _ _ := []

theorem plainServices_dependable : Dependable plainServices where
  digest := by
    intro bytes bytes' h
    refine List.map_injective_iff.mpr (fun a b hab => ?_) (String.ofList_injective h)
    have hchar := congrArg Char.toNat hab
    rw [Char.toNat_ofNat, Char.toNat_ofNat] at hchar
    have := a.toNat_lt
    have := b.toNat_lt
    rw [if_pos (.inl (by omega)), if_pos (.inl (by omega))] at hchar
    exact UInt8.toNat_inj.mp hchar
  parse := fun _ _ h => nomatch h

end Threadbook.Imports
