import Threadbook.ImportSteps

/-!
# Scans of a folder

A scan imports the files of a folder one after another. What it finds of each file is its
`Finding`; a source may be found more than once, as a file with two names is. In the end the
view of a source of the root is its view before, changed by what was found of it in turn
(**`importCandidates_guarded`**), and what was not found is missing (**`importFolder_guarded`**).
-/

namespace Threadbook.Imports

variable {services : ImportServices} {t t' t₁ : ImportTables} {root : ImportRootId}
  {kept : ImportTables → Prop} {moves : ImportTables → ImportTables → Prop}
  {outside : Surroundings ImportTables Unit} {failed : ImportTables → Prop}

/-! ## Findings -/

structure Finding where
  kind : CandidateKind
  device : ℕ
  file : ℕ
  verdict : Verdict

namespace Finding

def sourceId (root : ImportRootId) (found : Finding) : SourceId :=
  .inRoot found.kind root found.device found.file

theorem root?_sourceId (root : ImportRootId) (found : Finding) :
    (found.sourceId root).root? = some root := rfl

def entry (root : ImportRootId) (generation : ℕ) (found : Finding) : SourceEntry :=
  ⟨found.sourceId root, found.kind.sourceKind, .inRoot root found.device found.file,
    some (root, generation)⟩

def Brings (services : ImportServices) (root : ImportRootId) (found : Finding) (id : SourceId) :
    Prop :=
  id = found.sourceId root ∨
    id ∈ found.verdict.messages services (found.sourceId root) found.kind

end Finding

/-- What a scan finds, when so many bytes were read before it. -/
def findings (services : ImportServices) : List Candidate → ℕ → List Finding
  | [], _ => []
  | candidate :: candidates, batchBytes =>
    let verdict := examine services candidate true batchBytes
    ⟨candidate.kind, candidate.metadata.device, candidate.metadata.file, verdict⟩ ::
      findings services candidates (batchBytes + verdict.byteLength)

/-- How many bytes were read in the end. -/
def bytesAfter (found : List Finding) (batchBytes : ℕ) : ℕ :=
  found.foldl (fun batchBytes f => batchBytes + f.verdict.byteLength) batchBytes

def findingsOf (root : ImportRootId) (id : SourceId) (found : List Finding) : List Finding :=
  found.filter fun f => f.sourceId root = id

def SourceView.scanned (self : SourceView) (root : ImportRootId) (generation : ℕ)
    (found : List Finding) : SourceView :=
  found.foldl (fun v f => v.seen (f.entry root generation) f.kind f.verdict) self

def IsRootSource (root : ImportRootId) (id : SourceId) : Prop :=
  id.root? = some root ∨ ∃ mailbox, mailbox.root? = some root ∧ IsMessageOf mailbox id

variable {f : Finding} {generation : ℕ} {found : List Finding}

theorem isRootSource_of_isSourceOf {id : SourceId} (h : IsSourceOf (f.sourceId root) id) :
    IsRootSource root id := by
  rcases h with rfl | h
  · exact Or.inl rfl
  · exact Or.inr ⟨_, rfl, h⟩

theorem not_isMessageOf_of_root {mailbox id : SourceId} (h : id.root? = some root) :
    ¬ IsMessageOf mailbox id := by
  rintro ⟨sha256, ordinal, rfl⟩
  cases h

structure FilesImported (services : ImportServices) (kept : ImportTables → Prop)
    (root : ImportRootId) (generation : ℕ) (found : List Finding) (t t' : ImportTables) :
    Prop where
  kept : kept t'
  touched : Touches (fun id => ∃ f ∈ found, IsSourceOf (f.sourceId root) id) t t'
  views : ∀ id, id.root? = some root →
    view t' id = (view t id).scanned root generation (findingsOf root id found)
  present : ∀ id, Present t' id ↔ Present t id ∨ ∃ f ∈ found, f.Brings services root id

theorem FilesImported.touches (h : FilesImported services kept root generation found t t') :
    Touches (IsRootSource root) t t' :=
  h.touched.mono fun _ ⟨_, _, hof⟩ => isRootSource_of_isSourceOf hof

/-! ## Rows -/

def Verdict.IsRead : Verdict → Prop
  | .unread _ => False
  | .read _ _ _ => True

def Verdict.status : Verdict → SourceStatus
  | .unread _ => .quarantined
  | .read _ _ parsed => statusOf (reasonOf parsed)

def Verdict.blob : Verdict → SourceBlob
  | .unread reason => .noBlob reason
  | .read sha256 bytes _ => .blob sha256 bytes.length

/-- **The row** of a source after a verdict. -/
theorem SourceView.seen_row (self : SourceView) (entry : SourceEntry) (kind : CandidateKind)
    (verdict : Verdict) :
    ∃ row, (self.seen entry kind verdict).row = some row ∧ row.status = verdict.status ∧
      row.blob = verdict.blob ∧ row.manifestGeneration = entry.root.map Prod.snd ∧
      ∀ stored, self.row = some stored → row.identityKey = stored.identityKey := by
  cases verdict with
  | unread reason =>
    refine ⟨_, rfl, ?_⟩
    cases hstored : self.row with
    | none => exact ⟨rfl, rfl, rfl, fun _ h => nomatch h⟩
    | some stored => exact ⟨rfl, rfl, rfl, fun _ h => by rw [← Option.some.inj h]; rfl⟩
  | read sha256 bytes parsed =>
    rw [SourceView.seen, SourceView.withContents_row]
    refine ⟨_, rfl, ?_⟩
    cases hstored : self.row with
    | none => exact ⟨rfl, rfl, rfl, fun _ h => nomatch h⟩
    | some stored => exact ⟨rfl, rfl, rfl, fun _ h => by rw [← Option.some.inj h]; rfl⟩

/-- **The row** of a file of a root that is recorded. -/
theorem row_of_imported {kept : ImportTables → Prop}
    (h : FileImported services kept (f.entry root generation) f.kind f.verdict t t')
    (hc : Consistent services t') :
    ∃ row, t'.localSources.find? (f.sourceId root) = some row ∧
      row.identityKey = .inRoot root f.device f.file ∧ row.status = f.verdict.status ∧
      row.blob = f.verdict.blob ∧ row.manifestGeneration = some generation := by
  obtain ⟨row, hrow, hstatus, hblob, hgeneration, -⟩ := SourceView.seen_row
    (view t (f.entry root generation).sourceId) (f.entry root generation) f.kind f.verdict
  rw [← h.view_self] at hrow
  exact ⟨row, hrow, (hc.keyed _ _ hrow).known.2, hstatus, hblob, hgeneration⟩

/-! ## Fine findings -/

/-- Findings that can all be recorded: each can, as far as its source is known already, and a file
that was read stays one. -/
structure AllFine (t : ImportTables) (root : ImportRootId) (found : List Finding) : Prop where
  each : ∀ f ∈ found, f.verdict.Fine t (f.entry root 0) f.kind
  steady : found.Pairwise fun f g =>
    f.sourceId root = g.sourceId root → f.verdict.IsRead → g.verdict.IsRead

theorem fine_entry :
    f.verdict.Fine t (f.entry root generation) f.kind ↔
      f.verdict.Fine t (f.entry root 0) f.kind := by
  cases hverdict : f.verdict <;> rfl

/-- **A file that is recorded** leaves those after it fine. -/
theorem fine_after {g : Finding} {kept : ImportTables → Prop}
    (h : FileImported services kept (f.entry root generation) f.kind f.verdict t t')
    (hc : Consistent services t') (hg : g.verdict.Fine t (g.entry root 0) g.kind)
    (hsteady : f.sourceId root = g.sourceId root → f.verdict.IsRead → g.verdict.IsRead) :
    g.verdict.Fine t' (g.entry root 0) g.kind := by
  by_cases hsame : g.sourceId root = f.sourceId root
  · -- the row is the one that was recorded
    obtain ⟨row, hrow, hidentity, -, hblob, -⟩ := row_of_imported h hc
    obtain ⟨-, -, hdevice, hfile⟩ := SourceId.inRoot.inj hsame
    rw [← hsame] at hrow
    rw [← hdevice, ← hfile] at hidentity
    have hstored : ∀ stored, t'.localSources.find? (g.sourceId root) = some stored →
        stored = row := fun stored h => Option.mem_unique h hrow
    cases hverdict : g.verdict with
    | unread reason =>
      intro stored hfound
      obtain rfl := hstored stored hfound
      refine ⟨hidentity, ?_⟩
      rw [hblob]
      cases hf : f.verdict with
      | unread reason => exact ⟨reason, rfl⟩
      | read sha256 bytes parsed =>
        have hread := hsteady hsame.symm
        rw [hf, hverdict] at hread
        exact (hread trivial).elim
    | read sha256 bytes parsed =>
      rw [hverdict] at hg
      refine ⟨fun stored hfound => ?_, hg.2⟩
      obtain rfl := hstored stored hfound
      exact hidentity
  · have hrow : t'.localSources.find? (g.sourceId root) = t.localSources.find? (g.sourceId root) :=
      congrArg SourceView.row (h.touches.views _ fun hof =>
        hof.elim hsame (not_isMessageOf_of_root (g.root?_sourceId root)))
    have hentry : (g.entry root 0).sourceId = g.sourceId root := rfl
    cases hverdict : g.verdict <;> rw [hverdict] at hg <;>
      simpa only [Verdict.Fine, hentry, hrow] using hg

theorem AllFine.tail {kept : ImportTables → Prop} (hfine : AllFine t root (f :: found))
    (h : FileImported services kept (f.entry root generation) f.kind f.verdict t t')
    (hc : Consistent services t') : AllFine t' root found := by
  obtain ⟨hfirst, hrest⟩ := List.pairwise_cons.mp hfine.steady
  refine ⟨fun g hg => ?_, hrest⟩
  exact fine_after h hc (hfine.each g (.tail _ hg)) (hfirst g hg)

/-! ## The files of a folder -/

theorem FilesImported.cons
    (h : FileImported services kept (f.entry root generation) f.kind f.verdict t t₁)
    (h' : FilesImported services kept root generation found t₁ t') :
    FilesImported services kept root generation (f :: found) t t' where
  kept := h'.kept
  touched := (h.touches.mono fun _ hid => ⟨f, .head _, hid⟩).trans
    (h'.touched.mono fun _ ⟨g, hg, hid⟩ => ⟨g, .tail _ hg, hid⟩)
  views := fun id hid => by
    rw [h'.views id hid, findingsOf, findingsOf, List.filter_cons]
    by_cases hsame : f.sourceId root = id
    · rw [if_pos (decide_eq_true hsame), SourceView.scanned, SourceView.scanned, List.foldl_cons,
        ← hsame]
      exact congrArg (List.foldl _ · _) h.view_self
    · rw [if_neg (by simpa using hsame), h.touches.views id fun hof =>
        hof.elim (fun heq => hsame heq.symm) (not_isMessageOf_of_root hid)]
  present := fun id => by
    rw [h'.present, h.present, List.exists_mem_cons_iff, or_assoc]
    exact Iff.rfl

/-- **Importing the files of a folder** changes the view of each source by what is found of it. -/
theorem importCandidates_guarded {ids : SourceId → Prop}
    (hadmits : Admits services ids kept moves) (hdigest : Function.Injective services.digest)
    (requestId : RequestId) (root : ImportRootId) (generation : ℕ)
    (hids : ∀ id, IsRootSource root id → ids id)
    (hfault : ∀ t, kept t → outside.mayFail t → failed t) (candidates : List Candidate)
    (index : ℕ) (progress : Progress)
    (hfine : (Dependable services ∧ AllFine t root (findings services candidates
      progress.batchBytes)) ∨ ∀ t, kept t → failed t) (hkept : kept t) :
    Guarded ⟨kept, moves, outside.allows⟩
      (importCandidates services requestId (root, generation) candidates index progress)
      (Ends (fun progress' t' =>
        progress'.batchBytes = bytesAfter (findings services candidates progress.batchBytes)
          progress.batchBytes ∧
        (candidates = [] → progress'.changed = progress.changed) ∧
        (candidates ≠ [] → progress'.changed = true) ∧
        FilesImported services kept root generation
          (findings services candidates progress.batchBytes) t t')
        failed) t := by
  induction candidates generalizing index progress t with
  | nil =>
    refine Guarded.pure ?_
    exact ⟨rfl, fun _ => rfl, fun h => (h rfl).elim, hkept, .refl _ _, fun _ _ => rfl,
      fun id => by simp [findings]⟩
  | cons candidate candidates ih =>
    rw [importCandidates]
    have hone : Guarded ⟨kept, moves, outside.allows⟩ _ (Ends _ failed) t :=
      importCandidate_guarded hadmits hdigest
      requestId index candidate (some (root, generation)) progress.batchBytes
      (fun id hid => hids id (isRootSource_of_isSourceOf (f := ⟨candidate.kind,
        candidate.metadata.device, candidate.metadata.file,
        examine services candidate true progress.batchBytes⟩) hid))
      (hfine.imp_left fun h => ⟨h.1, fine_entry.mpr (h.2.each _ (.head _))⟩)
      hfault hkept
    refine hone.step ?_
    rintro imported t₁ ⟨hbytes, himported⟩
    have hrest := ih (t := t₁) (index + 1) ⟨imported.batchBytes,
      progress.counts.add imported.counts, true⟩ (hfine.imp_left fun h => ⟨h.1, ?_⟩) himported.kept
    · refine hrest.mono ?_
      rintro (e | progress') t' h
      · exact h
      · obtain ⟨hbytes', hsame, hchanged, hfiles⟩ := h
        dsimp only at hbytes' hsame hchanged hfiles
        rw [hbytes] at hbytes' hfiles
        refine ⟨hbytes', fun h => (nomatch h), fun _ => ?_, .cons himported hfiles⟩
        by_cases hempty : candidates = []
        · exact hsame hempty
        · exact hchanged hempty
    · rw [hbytes]
      exact h.2.tail himported (hadmits.consistent _ himported.kept)

end Threadbook.Imports
