import Threadbook.ImportConvergence

/-!
# What a request visits

A request visits the files that it names and the folders that can be scanned, in turn. If every
visit is fine at the start (`AllVisitsFine`) and nothing outside fails, all of them are made
(**`importPaths_calm`**, **`refreshEach_calm`**).
-/

namespace Threadbook.Imports

open Table List

open Threadbook.Task (statement check)

variable {services : ImportServices} {t t' t₁ t₂ : ImportTables} {root : ImportRootId}

/-! ## Visits -/

inductive Visit
  | file (entry : SourceEntry) (kind : CandidateKind) (verdict : Verdict)
  | folder (root : ImportRootId) (found : List Finding)

namespace Visit

def Concerns (id : SourceId) : Visit → Prop
  | .file entry _ _ => entry.sourceId = id
  | .folder root _ => id.root? = some root

def verdict? (id : SourceId) : Visit → Option Verdict
  | .file entry _ verdict => if entry.sourceId = id then some verdict else none
  | .folder root found => (findingsOf root id found).getLast?.map Finding.verdict

/-- A visit that raises the generation of the evidence. -/
def Counts : Visit → Prop
  | .file _ _ _ => True
  | .folder _ found => found ≠ []

def Fine (t : ImportTables) : Visit → Prop
  | .file entry kind verdict => verdict.Fine t entry kind
  | .folder root found => Settled t root ∧ AllFine t root found

def Steady : Visit → Visit → Prop
  | .folder root found, .folder root' found' => root = root' → ∀ f ∈ found, ∀ g ∈ found',
      f.sourceId root = g.sourceId root → f.verdict.IsRead → g.verdict.IsRead
  | _, _ => True

def Named : Visit → Prop
  | .file entry _ _ => entry.sourceId.root? = none ∧
      ∀ mailbox, ¬ IsMessageOf mailbox entry.sourceId
  | .folder _ _ => True

def Apart : Visit → Visit → Prop
  | .file entry _ _, .file other _ _ => entry.sourceId ≠ other.sourceId
  | _, _ => True

def Examined (services : ImportServices) : Visit → Prop
  | .file _ _ _ => True
  | .folder _ found => ∃ candidates batchBytes, found = findings services candidates batchBytes

end Visit

structure AllVisitsFine (t : ImportTables) (visits : List Visit) : Prop where
  each : ∀ visit ∈ visits, visit.Fine t
  steady : visits.Pairwise Visit.Steady

structure Orderly (services : ImportServices) (visits : List Visit) : Prop where
  named : ∀ visit ∈ visits, visit.Named
  examined : ∀ visit ∈ visits, visit.Examined services
  apart : visits.Pairwise Visit.Apart

def Visited (services : ImportServices) : Visit → ImportTables → ImportTables → Prop
  | .file entry kind verdict, t, t' =>
    FileImported services (Healthy services) entry kind verdict t t'
  | .folder root found, t, t' => Completed services root found t t'

/-! ## Rows -/

variable {visit : Visit} {batchBytes : ℕ} {entry : SourceEntry} {kind : CandidateKind}
  {verdict : Verdict} {visits : List Visit} {ids : SourceId → Prop} {requestId : RequestId}

theorem fine_congr (hrow : (view t' entry.sourceId).row = (view t entry.sourceId).row)
    (h : verdict.Fine t entry kind) : verdict.Fine t' entry kind := by
  change t'.localSources.find? entry.sourceId = t.localSources.find? entry.sourceId at hrow
  cases verdict <;> simpa only [Verdict.Fine, hrow] using h

theorem fine_of_row (hrow : ∀ row, (view t' entry.sourceId).row = some row →
      ∃ stored, (view t entry.sourceId).row = some stored ∧
        row.identityKey = stored.identityKey ∧ row.blob = stored.blob)
    (h : verdict.Fine t entry kind) : verdict.Fine t' entry kind := by
  cases verdict with
  | unread reason =>
    intro row hfound
    obtain ⟨stored, hstored, hidentity, hblob⟩ := hrow row hfound
    rw [hidentity, hblob]
    exact h stored hstored
  | read sha256 bytes parsed =>
    refine ⟨fun row hfound => ?_, h.2⟩
    obtain ⟨stored, hstored, hidentity, -⟩ := hrow row hfound
    rw [hidentity]
    exact h.1 stored hstored

theorem finishedRow_identityKey (generation : ℕ) (row : LocalSourceRow) :
    (finishedRow root generation row).identityKey = row.identityKey := by
  rw [finishedRow]
  split <;> rfl

theorem AllFine.congr {found : List Finding} (h : AllFine t root found)
    (hrow : ∀ id, (view t' id).row = (view t id).row) : AllFine t' root found :=
  ⟨fun f hf => fine_congr (hrow _) (h.each f hf), h.steady⟩

theorem Visit.Fine.congr (h : visit.Fine t) (hrow : ∀ id, (view t' id).row = (view t id).row)
    (hsettled : ∀ root, Settled t root → Settled t' root) : visit.Fine t' := by
  cases visit with
  | file entry kind verdict => exact fine_congr (hrow _) h
  | folder root found => exact ⟨hsettled root h.1, h.2.congr hrow⟩

theorem AllVisitsFine.congr (h : AllVisitsFine t visits)
    (hrow : ∀ id, (view t' id).row = (view t id).row)
    (hsettled : ∀ root, Settled t root → Settled t' root) : AllVisitsFine t' visits :=
  ⟨fun visit hmem => (h.each visit hmem).congr hrow hsettled, h.steady⟩

theorem Touches.settled_iff (h : Touches ids t t') : Settled t' root ↔ Settled t root := by
  rw [Settled, Settled, existingGeneration, existingGeneration, h.importRoots, h.importScans]

/-! ## One visit after another -/

/-- **A file** that is visited leaves other visits fine. -/
theorem fine_after_file (h : FileImported services (Healthy services) entry kind verdict t t')
    (hroot : entry.sourceId.root? = none) (hfine : visit.Fine t) (hnamed : visit.Named)
    (hapart : (Visit.file entry kind verdict).Apart visit) : visit.Fine t' := by
  cases visit with
  | file other kind' verdict' =>
    refine fine_congr (congrArg SourceView.row (h.touches.views _ ?_)) hfine
    rintro (heq | hof)
    · exact hapart heq.symm
    · exact hnamed.2 _ hof
  | folder root found =>
    refine ⟨h.touches.settled_iff.mpr hfine.1, fun f hf => ?_, hfine.2.steady⟩
    refine fine_congr (congrArg SourceView.row (h.touches.views _ ?_)) (hfine.2.each f hf)
    rintro (heq | hof)
    · rw [← heq] at hroot
      cases hroot
    · exact not_isMessageOf_of_root (f.root?_sourceId root) hof

/-- **A folder** that is visited leaves what is found later fine, if files that were read stay
so. -/
theorem fine_after_folder {candidates : List Candidate} (hhealthy : Healthy services t)
    (h : Completed services root (findings services candidates batchBytes) t t') {g : Finding}
    {other : ImportRootId} (hfine : g.verdict.Fine t (g.entry other 0) g.kind)
    (hsteady : root = other → ∀ f ∈ findings services candidates batchBytes,
      f.sourceId root = g.sourceId root → f.verdict.IsRead → g.verdict.IsRead) :
    g.verdict.Fine t' (g.entry other 0) g.kind := by
  have hkeyed := (h.healthy hhealthy).consistent.keyed
  by_cases hroot : root = other
  · subst hroot
    have hview := view_of_completed h (g.root?_sourceId root)
    cases hlast : (findingsOf root (g.sourceId root)
        (findings services candidates batchBytes)).getLast? with
    | none =>
      -- it was not found, and at most marked as missing
      rw [getLast?_eq_none_iff] at hlast
      refine fine_of_row (fun row hrow => ?_) hfine
      change (view t' (g.sourceId root)).row = some row at hrow
      rw [hview, hlast] at hrow
      obtain ⟨stored, hstored, rfl⟩ := Option.map_eq_some_iff.mp hrow
      exact ⟨stored, hstored, finishedRow_identityKey _ _, finishedRow_blob _ _⟩
    | some last =>
      obtain ⟨hmem, hsource⟩ := of_getLast?_findingsOf hlast
      rw [scanned_of_getLast? hlast] at hview
      obtain ⟨row, hrow, -, hblob, -, -⟩ := SourceView.seen_row
        ((view t (g.sourceId root)).scanned root (existingGeneration t root + 1)
          (findingsOf root (g.sourceId root) (findings services candidates batchBytes)).dropLast)
        (last.entry root (existingGeneration t root + 1)) last.kind last.verdict
      have hrow' : t'.localSources.find? (g.sourceId root) =
          some (finishedRow root (existingGeneration t root + 1) row) := by
        refine (congrArg SourceView.row hview).trans ?_
        rw [SourceView.finished, hrow]
        rfl
      have hidentity := (hkeyed _ _ hrow').known.2
      have hstored : ∀ stored, t'.localSources.find? (g.sourceId root) = some stored →
          stored.identityKey = .inRoot root g.device g.file ∧ stored.blob = last.verdict.blob := by
        intro stored hfound
        obtain rfl := Option.mem_unique hfound hrow'
        exact ⟨hidentity, (finishedRow_blob _ _).trans hblob⟩
      cases hverdict : g.verdict with
      | unread reason =>
        intro stored hfound
        obtain ⟨hkey, hblob'⟩ := hstored stored hfound
        refine ⟨hkey, ?_⟩
        rw [hblob']
        cases hlastVerdict : last.verdict with
        | unread reason => exact ⟨reason, rfl⟩
        | read sha256 bytes parsed =>
          have hread := hsteady rfl last hmem hsource
          rw [hlastVerdict, hverdict] at hread
          exact (hread trivial).elim
      | read sha256 bytes parsed =>
        rw [hverdict] at hfine
        exact ⟨fun stored hfound => (hstored stored hfound).1, hfine.2⟩
  · obtain ⟨t₁, t₂, counts, -, -, ⟨hviews, -⟩, hfiles, rfl⟩ := h
    have hid : (g.sourceId other).root? ≠ some root := fun heq => hroot (Option.some.inj heq).symm
    refine fine_congr (congrArg SourceView.row ?_) hfine
    change view _ (g.sourceId other) = view t (g.sourceId other)
    rw [view_completeScan_of_ne hfiles.kept.healthy.consistent hid, hfiles.touches.views _ ?_, hviews]
    rintro (hof | ⟨mailbox, -, hof⟩)
    · exact hid hof
    · exact not_isMessageOf_of_root (g.root?_sourceId other) hof

theorem view_of_completed_of_not {found : List Finding} (h : Completed services root found t t')
    {id : SourceId} (hid : ¬ IsRootSource root id) : view t' id = view t id := by
  obtain ⟨t₁, t₂, counts, -, -, ⟨hviews, -⟩, hfiles, rfl⟩ := h
  rw [view_completeScan_of_ne hfiles.kept.healthy.consistent fun heq => hid (.inl heq),
    hfiles.touches.views _ hid, hviews]

/-- **A visit** leaves those after it fine. -/
theorem AllVisitsFine.tail (hhealthy : Healthy services t)
    (hfine : AllVisitsFine t (visit :: visits)) (horderly : Orderly services (visit :: visits))
    (h : Visited services visit t t') : AllVisitsFine t' visits := by
  obtain ⟨hsteady, hrest⟩ := pairwise_cons.mp hfine.steady
  refine ⟨fun next hnext => ?_, hrest⟩
  have hnextFine := hfine.each next (.tail _ hnext)
  have hnamed := horderly.named next (.tail _ hnext)
  cases visit with
  | file entry kind verdict =>
    exact fine_after_file h (horderly.named _ (.head _)).1 hnextFine hnamed
      ((pairwise_cons.mp horderly.apart).1 next hnext)
  | folder root found =>
    obtain ⟨candidates, batchBytes, rfl⟩ := horderly.examined _ (.head _)
    cases next with
    | file entry kind verdict =>
      refine fine_congr (congrArg SourceView.row (view_of_completed_of_not h ?_)) hnextFine
      rintro (hroot | ⟨mailbox, -, hof⟩)
      · rw [hnamed.1] at hroot
        cases hroot
      · exact hnamed.2 _ hof
    | folder other found =>
      refine ⟨h.settled hnextFine.1, fun g hg => ?_, hnextFine.2.steady⟩
      refine fine_after_folder hhealthy h (hnextFine.2.each g hg) fun heq f hf hsame hread => ?_
      exact hsteady _ hnext heq f hf g hg hsame hread

/-- **The tables** stay healthy when a visit is made. -/
theorem Visited.healthy (hhealthy : Healthy services t) (hexamined : visit.Examined services)
    (h : Visited services visit t t') : Healthy services t' := by
  cases visit with
  | file entry kind verdict => exact FileImported.kept h
  | folder root found =>
    obtain ⟨candidates, batchBytes, rfl⟩ := hexamined
    exact Completed.healthy hhealthy h

/-! ## Visits that are made -/

/-- Visits that are made in turn. What happens besides leaves the sources as they are. -/
inductive Made (services : ImportServices) : List Visit → ImportTables → ImportTables → Prop
  | nil (t : ImportTables) : Made services [] t t
  | quiet {visits : List Visit} {t t₁ t' : ImportTables} (hviews : ∀ id, view t₁ id = view t id)
      (hsettled : ∀ root, Settled t root → Settled t₁ root) (hhealthy : Healthy services t₁)
      (h : Made services visits t₁ t') : Made services visits t t'
  | visit {visit : Visit} {visits : List Visit} {t t₁ t' : ImportTables}
      (hvisit : Visited services visit t t₁) (h : Made services visits t₁ t') :
      Made services (visit :: visits) t t'

theorem Made.append {visits' : List Visit} (h : Made services visits t t₁)
    (h' : Made services visits' t₁ t') : Made services (visits ++ visits') t t' := by
  induction h with
  | nil t => exact h'
  | quiet hviews hsettled hhealthy _ ih => exact .quiet hviews hsettled hhealthy (ih h')
  | visit hvisit _ ih => exact .visit hvisit (ih h')

/-- **Visits that are made** leave those after them fine. -/
theorem Made.rest {rest : List Visit} (h : Made services visits t t')
    (hhealthy : Healthy services t) (hfine : AllVisitsFine t (visits ++ rest))
    (horderly : Orderly services (visits ++ rest)) : AllVisitsFine t' rest := by
  induction h with
  | nil t => exact hfine
  | quiet hviews hsettled hhealthy' _ ih =>
    exact ih hhealthy' (hfine.congr (fun id => by rw [hviews]) hsettled) horderly
  | visit hvisit _ ih =>
    refine ih (hvisit.healthy hhealthy (horderly.examined _ (.head _)))
      (hfine.tail hhealthy horderly hvisit) ⟨?_, ?_, ?_⟩
    · exact fun visit hmem => horderly.named visit (.tail _ hmem)
    · exact fun visit hmem => horderly.examined visit (.tail _ hmem)
    · exact (pairwise_cons.mp horderly.apart).2

/-- What visits leave alone. -/
structure Frame (t t' : ImportTables) : Prop where
  evidenceGeneration : t'.evidenceGeneration = t.evidenceGeneration
  commandReceipts : t'.commandReceipts = t.commandReceipts
  known : ∀ root, (t.importRoots.find? root).isSome → (t'.importRoots.find? root).isSome

theorem Frame.refl (t : ImportTables) : Frame t t := ⟨rfl, rfl, fun _ h => h⟩

theorem Frame.trans (h : Frame t t₁) (h' : Frame t₁ t') : Frame t t' :=
  ⟨h'.evidenceGeneration.trans h.evidenceGeneration, h'.commandReceipts.trans h.commandReceipts,
    fun root hroot => h'.known root (h.known root hroot)⟩

theorem Touches.frame (h : Touches ids t t') : Frame t t' :=
  ⟨h.evidenceGeneration, h.commandReceipts, fun root hroot => by rwa [h.importRoots]⟩

/-! ## Folders -/

def folderVisit (services : ImportServices) (found : FolderFound) (batchBytes : ℕ) :
    List Visit × ℕ :=
  match found.scan with
  | none => ([], batchBytes)
  | some candidates => ([.folder found.root (findings services candidates batchBytes)],
      bytesAfter (findings services candidates batchBytes) batchBytes)

def CalmMove (services : ImportServices) (t t' : ImportTables) : Prop :=
  Healthy services t' ∧ t'.evidenceGeneration = t.evidenceGeneration

/-- Nothing outside fails, and no generation is raised. -/
def calmRules (services : ImportServices) : Rules ImportTables (Option PlatformError × Unit) where
  kept := Healthy services
  moves := CalmMove services
  allows := calm.allows

theorem Admits.calm {kept : ImportTables → Prop}
    (h : Admits services ids kept fun _ t' => Healthy services t') :
    Admits services ids kept (CalmMove services) where
  consistent := h.consistent
  step := fun t t' hkept htouches hc =>
    ⟨(h.step t t' hkept htouches hc).1, (h.step t t' hkept htouches hc).2,
      htouches.evidenceGeneration⟩

structure MadeBy (services : ImportServices) (visits : List Visit × ℕ) (batchBytes : ℕ)
    (changed : Bool) (t t' : ImportTables) : Prop where
  healthy : Healthy services t'
  frame : Frame t t'
  made : Made services visits.1 t t'
  bytes : batchBytes = visits.2
  changed : changed = true ↔ ∃ visit ∈ visits.1, visit.Counts

theorem calm_query {α : Type} {read : ImportTables → α} (h : Healthy services t) :
    Guarded (calmRules services) (query read) (Ends (fun a t' => a = read t ∧ t' = t)
      fun _ => False) t := by
  have hguarded : Guarded ⟨Healthy services, CalmMove services, calm.allows⟩
      (query read) (Ends (fun a t' => a = read t ∧ t' = t) fun _ => False) t :=
    guarded_query h ⟨h, rfl⟩ ⟨rfl, rfl⟩ id
  exact hguarded

theorem calm_transaction (h : Healthy services t)
    {effect : ImportTables → Except PlatformError ImportTables}
    (htotal : ∃ t', effect t = .ok t' ∧ CalmMove services t t') :
    Guarded (calmRules services) (transaction effect)
      (Ends (fun _ t' => effect t = .ok t' ∧ Healthy services t') fun _ => False) t := by
  obtain ⟨after, hok, hmove⟩ := htotal
  have hguarded : Guarded ⟨Healthy services, CalmMove services, calm.allows⟩
      (transaction effect) (Ends (fun _ t' => effect t = .ok t' ∧ Healthy services t')
        fun _ => False) t := by
    refine guarded_transaction h ⟨h, rfl⟩ (fun t' heffect => ?_) (fun e herror => ?_) id
    · obtain rfl := Except.ok.inj (hok.symm.trans heffect)
      exact ⟨hmove, heffect, hmove.1⟩
    · rw [hok] at herror
      cases herror
  exact hguarded

theorem calm_update {f : ImportTables → ImportTables} (h : Healthy services t)
    (hf : CalmMove services t (f t)) :
    Guarded (calmRules services) (transaction fun t => .ok (f t)) (Ends (fun _ t' => t' = f t)
      fun _ => False) t := by
  refine (calm_transaction h ⟨f t, rfl, hf⟩).mono ?_
  rintro (e | u) t' h'
  · exact h'
  · exact (Except.ok.inj h'.1).symm

/-- **A scan begins** if there is none of the next generation. -/
theorem beginScan_total (requestId : RequestId) (h : Settled t root) :
    ∃ t', beginScan requestId root (existingGeneration t root) t = .ok t' := by
  rw [beginScan, if_neg]
  · exact ⟨_, rfl⟩
  · rw [h]
    exact fun hsome => by cases hsome

theorem beginScan_frame {existing : ℕ} (h : beginScan requestId root existing t = .ok t') :
    Frame t t' := by
  rw [beginScan] at h
  split at h
  · cases h
  · cases h
    refine ⟨rfl, rfl, fun other hother => ?_⟩
    rw [find?_put]
    split
    · rfl
    · exact hother

theorem completeScan_frame (generation : ℕ) (counts : ImportCounts) :
    Frame t (completeScan root generation counts t) := by
  refine ⟨rfl, rfl, fun other hother => ?_⟩
  rw [completeScan, find?_modify]
  split
  · rw [Option.isSome_map]
    exact hother
  · exact hother

theorem setRootStatus_frame (status : RootStatus) : Frame t (setRootStatus root status t) := by
  refine ⟨rfl, rfl, fun other hother => ?_⟩
  rw [setRootStatus, find?_modify]
  split
  · rw [Option.isSome_map]
    exact hother
  · exact hother

theorem made_setRootStatus (h : Healthy services t) (root : ImportRootId) (status : RootStatus) :
    Made services [] t (setRootStatus root status t) := by
  have hviews : ∀ id, view (setRootStatus root status t) id = view t id := fun _ => rfl
  refine .quiet hviews (fun other hother => ?_) (healthy_setRootStatus h root status) (.nil _)
  have hexisting : existingGeneration (setRootStatus root status t) other =
      existingGeneration t other := by
    simp only [existingGeneration, setRootStatus, find?_modify]
    split
    · cases t.importRoots.find? other <;> rfl
    · rfl
  rw [Settled, hexisting]
  exact hother

/-- **A folder** is imported, if its files are fine. -/
theorem importFolder_calm (hdepends : Dependable services) (requestId : RequestId)
    (found : FolderFound) (batchBytes : ℕ) (h : Healthy services t)
    (hfine : ∀ visit ∈ (folderVisit services found batchBytes).1, visit.Fine t) :
    Guarded (calmRules services) (importFolder services requestId found batchBytes)
      (Ends (fun progress t' => MadeBy services (folderVisit services found batchBytes)
        progress.batchBytes progress.changed t t') fun _ => False) t := by
  rw [importFolder]
  refine (calm_query h).step ?_
  rintro existing t₀ ⟨rfl, rfl⟩
  cases hscan : found.scan with
  | none =>
    have hvisit : folderVisit services found batchBytes = ([], batchBytes) := by
      rw [folderVisit, hscan]
    rw [hvisit]
    have hstill : MadeBy services ([], batchBytes) batchBytes false t₀ t₀ :=
      ⟨h, .refl _, .nil _, rfl, by simp⟩
    dsimp only
    split
    · refine (calm_update h ⟨healthy_setRootStatus h _ _, rfl⟩).step ?_
      rintro - t' rfl
      exact Guarded.pure ⟨healthy_setRootStatus h _ _, setRootStatus_frame _,
        made_setRootStatus h _ _, rfl, by simp⟩
    · exact Guarded.pure hstill
  | some candidates =>
    have hvisit : folderVisit services found batchBytes =
        ([.folder found.root (findings services candidates batchBytes)],
          bytesAfter (findings services candidates batchBytes) batchBytes) := by
      rw [folderVisit, hscan]
    rw [hvisit] at hfine ⊢
    obtain ⟨hsettled, hallFine⟩ : Visit.Fine t₀ _ := hfine _ (mem_singleton_self _)
    dsimp only
    obtain ⟨after, hafter⟩ := beginScan_total requestId hsettled
    refine (calm_transaction h ⟨after, hafter,
      (beginScan_eq_ok h hafter).2.1.healthy, (beginScan_frame hafter).evidenceGeneration⟩).step ?_
    rintro - t₁ ⟨hok, -⟩
    obtain ⟨-, hscanning, hbegun⟩ := beginScan_eq_ok h hok
    have hscan : Guarded ⟨_, CalmMove services, calm.allows⟩ _ (Ends _ fun _ => False) t₁ :=
      importCandidates_guarded (admits_scanning services found.root _).calm hdepends.digest requestId
        found.root (existingGeneration t₀ found.root + 1) (fun _ hid => hid) (fun _ _ h => h)
        candidates 0 ⟨batchBytes, {}, false⟩
        (.inl ⟨hdepends, hallFine.congr fun id => by rw [hbegun.views]⟩) hscanning
    have hfiles : Guarded (calmRules services) _ _ t₁ :=
      hscan.weaken (fun _ h => h.healthy) (fun _ _ _ h => h) fun _ _ ho => ho
    refine hfiles.step ?_
    rintro progress t₂ ⟨hbytes, hsame, hchanged, hfiles⟩
    have hcompleted : Completed services found.root (findings services candidates batchBytes) t₀
        (completeScan found.root (existingGeneration t₀ found.root + 1) progress.counts t₂) :=
      ⟨t₁, t₂, progress.counts, hsettled, hscanning, hbegun, hfiles, rfl⟩
    have hhealthy := hcompleted.healthy h
    refine (calm_update hfiles.kept.healthy ⟨hhealthy, rfl⟩).step ?_
    rintro - t' rfl
    refine Guarded.pure ⟨hhealthy, ?_, .visit hcompleted (.nil _), hbytes, ?_⟩
    · exact ((beginScan_frame hok).trans hfiles.touches.frame).trans (completeScan_frame _ _)
    · cases candidates with
      | nil => simp [hsame rfl, Visit.Counts, findings]
      | cons candidate candidates => simp [hchanged (cons_ne_nil _ _), Visit.Counts, findings]

/-! ## Paths -/

def notRegularEntry (requestId : RequestId) (index : ℕ) (metadata : FileMetadata) : SourceEntry :=
  ⟨.quarantinedFile requestId index metadata.device metadata.file, .folderImage,
    .quarantinedFile requestId index metadata.device metadata.file, none⟩

/-- Something that is neither a file nor a folder. -/
def FileMetadata.Irregular (metadata : FileMetadata) : Prop :=
  metadata.isSymlink ∨ (¬ metadata.isDir ∧ ¬ metadata.isFile)

instance (metadata : FileMetadata) : Decidable metadata.Irregular :=
  inferInstanceAs (Decidable (_ ∨ _))

/-- A path that does not lead to a file of another type. -/
def PathFound.Supported (found : PathFound) : Prop :=
  ∀ metadata, found.metadata = some metadata → ¬ metadata.Irregular → ¬ metadata.isDir →
    found.kind.isSome

def pathVisit (services : ImportServices) (requestId : RequestId) (index : ℕ) (found : PathFound)
    (batchBytes : ℕ) : List Visit × ℕ :=
  match found.metadata with
  | none => ([], batchBytes)
  | some metadata =>
    if metadata.Irregular then
      ([.file (notRegularEntry requestId index metadata) .image (.unread "not_regular")], batchBytes)
    else if metadata.isDir then
      folderVisit services ⟨⟨metadata.device, metadata.file⟩, found.scan⟩ batchBytes
    else match found.kind with
      | none => ([], batchBytes)
      | some kind =>
        let candidate : Candidate := ⟨metadata, kind, found.opened⟩
        let verdict := examine services candidate false batchBytes
        ([.file (entryOf requestId index candidate none) kind verdict],
          batchBytes + verdict.byteLength)

def pathVisits (services : ImportServices) (requestId : RequestId) :
    List PathFound → ℕ → ℕ → List Visit
  | [], _, _ => []
  | found :: rest, index, batchBytes =>
    (pathVisit services requestId index found batchBytes).1 ++
      pathVisits services requestId rest (index + 1)
        (pathVisit services requestId index found batchBytes).2

theorem FileImported.madeBy
    (himported : FileImported services (Healthy services) entry kind verdict t t') :
    MadeBy services ([.file entry kind verdict], batchBytes) batchBytes true t t' where
  healthy := himported.kept
  frame := himported.touches.frame
  made := .visit himported (.nil _)
  bytes := rfl
  changed := by simp [Visit.Counts]

/-- **What a path leads to** is imported, if it is supported and fine. -/
theorem importPath_calm (hdepends : Dependable services) (requestId : RequestId) (index : ℕ)
    (found : PathFound) (batch : Batch) (h : Healthy services t) (hsupported : found.Supported)
    (hfine : ∀ visit ∈ (pathVisit services requestId index found batch.batchBytes).1, visit.Fine t) :
    Guarded (calmRules services) (importPath services requestId index found batch)
      (Ends (fun batch' t' => ∃ changed, batch'.changed = (batch.changed || changed) ∧
        MadeBy services (pathVisit services requestId index found batch.batchBytes)
          batch'.batchBytes changed t t') fun _ => False) t := by
  rw [importPath]
  rw [pathVisit] at hfine ⊢
  cases hmetadata : found.metadata with
  | none => exact Guarded.pure ⟨false, rfl, h, .refl _, .nil _, rfl, by simp⟩
  | some metadata =>
    rw [hmetadata] at hfine
    dsimp only at hfine ⊢
    by_cases hirregular : metadata.Irregular
    · rw [if_pos hirregular] at hfine
      rw [if_pos hirregular, if_pos (show metadata.isSymlink ∨ _ from hirregular)]
      have hrecord : Guarded ⟨_, CalmMove services, calm.allows⟩ _ (Ends _ fun _ => False) t :=
        upsertQuarantineSource_guarded (admits_unrooted services).calm h (notRegular_known _ _ _ _)
          rfl .image "not_regular" (.inl (hfine _ (mem_singleton_self _))) id
      refine Guarded.step hrecord ?_
      intro u t' himported
      exact Guarded.pure ⟨true, by simp [Batch.next], FileImported.madeBy himported⟩
    · rw [if_neg hirregular] at hfine
      rw [if_neg hirregular, if_neg (show ¬ (metadata.isSymlink ∨ _) from hirregular)]
      by_cases hdir : metadata.isDir = true
      · rw [if_pos hdir] at hfine
        rw [if_pos hdir, if_pos hdir]
        refine (importFolder_calm hdepends requestId _ batch.batchBytes h hfine).step ?_
        intro progress t' hmade
        exact Guarded.pure ⟨progress.changed, rfl, hmade⟩
      · rw [if_neg hdir] at hfine
        rw [if_neg hdir, if_neg hdir]
        obtain ⟨kind, hkind⟩ := Option.isSome_iff_exists.mp (hsupported metadata hmetadata hirregular hdir)
        rw [hkind] at hfine ⊢
        dsimp only at hfine ⊢
        have hfile : Guarded ⟨_, CalmMove services, calm.allows⟩ _ (Ends _ fun _ => False) t :=
          importCandidate_guarded (admits_unrooted services).calm hdepends.digest requestId index
            ⟨metadata, kind, found.opened⟩ none batch.batchBytes (fun id hid => ?_)
            (.inl ⟨hdepends, hfine _ (mem_singleton_self _)⟩) (fun _ _ h => h) h
        · refine Guarded.step hfile ?_
          rintro imported t' ⟨hbytes, himported⟩
          refine Guarded.pure ⟨true, by simp [Batch.next], ?_⟩
          rw [show (batch.next _ imported.batchBytes true).batchBytes = _ from hbytes]
          exact FileImported.madeBy himported
        · rcases hid with rfl | ⟨sha256, ordinal, rfl⟩
          · rfl
          · rfl

def SourceId.index? : SourceId → Option ℕ
  | .named _ _ index => some index
  | .quarantinedFile _ index _ _ => some index
  | _ => none

theorem of_mem_pathVisit {index : ℕ} {found : PathFound}
    (h : visit ∈ (pathVisit services requestId index found batchBytes).1) :
    visit.Named ∧ visit.Examined services ∧ ∀ entry kind verdict, visit = .file entry kind verdict →
        entry.sourceId.index? = some index := by
  rw [pathVisit] at h
  split at h
  · cases h
  · split at h
    · obtain rfl := mem_singleton.mp h
      refine ⟨⟨rfl, fun mailbox hof => ?_⟩, trivial, fun entry kind verdict heq => ?_⟩
      · obtain ⟨sha256, ordinal, heq⟩ := hof
        cases heq
      · obtain ⟨rfl, -, -⟩ := Visit.file.inj heq
        rfl
    · split at h
      · rw [folderVisit] at h
        split at h
        · cases h
        · obtain rfl := mem_singleton.mp h
          exact ⟨trivial, ⟨_, _, rfl⟩, fun _ _ _ heq => (nomatch heq)⟩
      · split at h
        · cases h
        · obtain rfl := mem_singleton.mp h
          refine ⟨⟨rfl, fun mailbox hof => ?_⟩, trivial, fun entry kind verdict heq => ?_⟩
          · obtain ⟨sha256, ordinal, heq⟩ := hof
            cases heq
          · obtain ⟨rfl, -, -⟩ := Visit.file.inj heq
            rfl

theorem of_mem_pathVisits {found : List PathFound} {index : ℕ}
    (h : visit ∈ pathVisits services requestId found index batchBytes) :
    visit.Named ∧ visit.Examined services ∧ ∀ entry kind verdict, visit = .file entry kind verdict →
        ∃ i, index ≤ i ∧ entry.sourceId.index? = some i := by
  induction found generalizing index batchBytes with
  | nil => cases h
  | cons path rest ih =>
    rw [pathVisits, mem_append] at h
    rcases h with h | h
    · obtain ⟨hnamed, hexamined, hindex⟩ := of_mem_pathVisit h
      exact ⟨hnamed, hexamined, fun entry kind verdict heq =>
        ⟨index, le_rfl, hindex entry kind verdict heq⟩⟩
    · obtain ⟨hnamed, hexamined, hindex⟩ := ih h
      refine ⟨hnamed, hexamined, fun entry kind verdict heq => ?_⟩
      obtain ⟨i, hle, hi⟩ := hindex entry kind verdict heq
      exact ⟨i, Nat.le_of_succ_le hle, hi⟩

/-- **The visits** of a request come in order. -/
theorem orderly_pathVisits (services : ImportServices) (requestId : RequestId) (found : List PathFound)
    (index batchBytes : ℕ) :
    Orderly services (pathVisits services requestId found index batchBytes) := by
  refine ⟨fun _ h => (of_mem_pathVisits h).1, fun _ h => (of_mem_pathVisits h).2.1, ?_⟩
  induction found generalizing index batchBytes with
  | nil => exact .nil
  | cons path rest ih =>
    refine pairwise_append.mpr ⟨?_, ih _ _, fun first hfirst later hlater => ?_⟩
    · -- there is at most one visit
      rw [pathVisit]
      split
      · exact .nil
      · split
        · exact pairwise_singleton ..
        · split
          · rw [folderVisit]
            split
            · exact .nil
            · exact pairwise_singleton ..
          · split
            · exact .nil
            · exact pairwise_singleton ..
    · cases first with
      | folder root found => trivial
      | file entry kind verdict =>
        cases later with
        | folder root found => trivial
        | file other kind' verdict' =>
          obtain ⟨-, -, hindex⟩ := of_mem_pathVisit hfirst
          obtain ⟨-, -, hindex'⟩ := of_mem_pathVisits hlater
          obtain ⟨i, hle, hi⟩ := hindex' _ _ _ rfl
          intro heq
          rw [← heq, hindex _ _ _ rfl] at hi
          cases hi
          exact Nat.not_succ_le_self _ hle

/-- **Visits** one after the other. -/
theorem MadeBy.append {visits visits' : List Visit × ℕ} {batchBytes' : ℕ} {changed changed' : Bool}
    (h : MadeBy services visits batchBytes changed t t₁)
    (h' : MadeBy services visits' batchBytes' changed' t₁ t') :
    MadeBy services (visits.1 ++ visits'.1, visits'.2) batchBytes' (changed || changed') t t' where
  healthy := h'.healthy
  frame := h.frame.trans h'.frame
  made := h.made.append h'.made
  bytes := h'.bytes
  changed := by
    rw [Bool.or_eq_true, h.changed, h'.changed]
    simp only [mem_append, or_and_right, exists_or]

/-- **What paths lead to** is imported, if it is all supported and fine. -/
theorem importPaths_calm (hdepends : Dependable services) (requestId : RequestId)
    (found : List PathFound) (index : ℕ) (batch : Batch) (h : Healthy services t)
    (hsupported : ∀ path ∈ found, path.Supported)
    (hfine : AllVisitsFine t (pathVisits services requestId found index batch.batchBytes)) :
    Guarded (calmRules services) (importPaths services requestId found index batch)
      (Ends (fun batch' t' => ∃ changed, batch'.changed = (batch.changed || changed) ∧
        MadeBy services (pathVisits services requestId found index batch.batchBytes,
          batch'.batchBytes) batch'.batchBytes changed t t') fun _ => False) t := by
  induction found generalizing index batch t with
  | nil => exact Guarded.pure ⟨false, by simp, h, .refl _, .nil _, rfl, by simp [pathVisits]⟩
  | cons path rest ih =>
    have horderly := orderly_pathVisits services requestId (path :: rest) index batch.batchBytes
    rw [forall_mem_cons] at hsupported
    rw [pathVisits] at hfine horderly ⊢
    rw [importPaths]
    refine (importPath_calm hdepends requestId index path batch h hsupported.1
      fun visit hmem => hfine.each visit (mem_append_left _ hmem)).step ?_
    rintro batch₁ t₁ ⟨changed, hchanged, hmade⟩
    have hrest := ih (index + 1) batch₁ hmade.healthy hsupported.2 (by
      rw [hmade.bytes]
      exact hmade.made.rest h hfine horderly)
    refine hrest.mono ?_
    rintro (e | batch') t' h'
    · exact h'
    · obtain ⟨changed', hchanged', hmade'⟩ := h'
      rw [hmade.bytes] at hmade'
      exact ⟨changed || changed', by rw [hchanged', hchanged, Bool.or_assoc], hmade.append hmade'⟩

/-! ## Roots -/

def rootVisit (services : ImportServices) (root : ImportRootId) (found : Option FolderFound)
    (batchBytes : ℕ) : List Visit × ℕ :=
  match found.filter fun folder => folder.root = root with
  | none => ([], batchBytes)
  | some folder => folderVisit services folder batchBytes

def rootVisits (services : ImportServices) (found : ImportRootId → Option FolderFound) :
    List ImportRootId → ℕ → List Visit
  | [], _ => []
  | root :: roots, batchBytes =>
    (rootVisit services root (found root) batchBytes).1 ++
      rootVisits services found roots (rootVisit services root (found root) batchBytes).2

theorem of_mem_rootVisit {found : Option FolderFound}
    (h : visit ∈ (rootVisit services root found batchBytes).1) :
    ∃ other candidates batchBytes, visit = .folder other (findings services candidates batchBytes) := by
  rw [rootVisit] at h
  split at h
  · cases h
  · rw [folderVisit] at h
    split at h
    · cases h
    · obtain rfl := mem_singleton.mp h
      exact ⟨_, _, _, rfl⟩

theorem of_mem_rootVisits {found : ImportRootId → Option FolderFound} {roots : List ImportRootId}
    (h : visit ∈ rootVisits services found roots batchBytes) :
    ∃ other candidates batchBytes, visit = .folder other (findings services candidates batchBytes) := by
  induction roots generalizing batchBytes with
  | nil => cases h
  | cons root roots ih =>
    rw [rootVisits, mem_append] at h
    rcases h with h | h
    · exact of_mem_rootVisit h
    · exact ih h

theorem orderly_rootVisits (services : ImportServices) (found : ImportRootId → Option FolderFound) (roots : List ImportRootId)
    (batchBytes : ℕ) : Orderly services (rootVisits services found roots batchBytes) := by
  refine ⟨fun visit h => ?_, fun visit h => ?_, ?_⟩
  · obtain ⟨other, candidates, batchBytes', rfl⟩ := of_mem_rootVisits h
    trivial
  · obtain ⟨other, candidates, batchBytes', rfl⟩ := of_mem_rootVisits h
    exact ⟨candidates, batchBytes', rfl⟩
  · refine List.Pairwise.imp_of_mem (R := fun _ _ => True) (fun h _ _ => ?_)
      (pairwise_of_forall fun _ _ => trivial)
    obtain ⟨other, candidates, batchBytes', rfl⟩ := of_mem_rootVisits h
    trivial

/-- **A root** is refreshed, if it is known and its files are fine. -/
theorem refreshRoot_calm (hdepends : Dependable services) (requestId : RequestId)
    (root : ImportRootId) (found : Option FolderFound) (batch : Batch) (h : Healthy services t)
    (hknown : (t.importRoots.find? root).isSome)
    (hfine : ∀ visit ∈ (rootVisit services root found batch.batchBytes).1, visit.Fine t) :
    Guarded (calmRules services) (refreshRoot services requestId root found batch)
      (Ends (fun batch' t' => ∃ changed, batch'.changed = (batch.changed || changed) ∧
        MadeBy services (rootVisit services root found batch.batchBytes) batch'.batchBytes changed
          t t') fun _ => False) t := by
  rw [refreshRoot]
  rw [rootVisit] at hfine ⊢
  refine (calm_query h).step ?_
  rintro known t₀ ⟨rfl, rfl⟩
  rw [hknown, if_neg (by simp)]
  cases hfound : found.filter fun folder => folder.root = root with
  | none =>
    refine (calm_update h ⟨healthy_setRootStatus h _ _, rfl⟩).step ?_
    rintro - t' rfl
    exact Guarded.pure ⟨false, rfl, healthy_setRootStatus h _ _, setRootStatus_frame _,
      made_setRootStatus h _ _, rfl, by simp⟩
  | some folder =>
    rw [hfound] at hfine
    refine (importFolder_calm hdepends requestId folder batch.batchBytes h hfine).step ?_
    intro progress t' hmade
    exact Guarded.pure ⟨progress.changed, rfl, hmade⟩

/-- **Roots** are refreshed, if they are known and all files are fine. -/
theorem refreshEach_calm (hdepends : Dependable services) (requestId : RequestId)
    (found : ImportRootId → Option FolderFound) (roots : List ImportRootId) (batch : Batch)
    (h : Healthy services t) (hknown : ∀ root ∈ roots, (t.importRoots.find? root).isSome)
    (hfine : AllVisitsFine t (rootVisits services found roots batch.batchBytes)) :
    Guarded (calmRules services) (refreshEach services requestId found roots batch)
      (Ends (fun batch' t' => ∃ changed, batch'.changed = (batch.changed || changed) ∧
        MadeBy services (rootVisits services found roots batch.batchBytes, batch'.batchBytes)
          batch'.batchBytes changed t t') fun _ => False) t := by
  induction roots generalizing batch t with
  | nil => exact Guarded.pure ⟨false, by simp, h, .refl _, .nil _, rfl, by simp [rootVisits]⟩
  | cons root roots ih =>
    have horderly := orderly_rootVisits services found (root :: roots) batch.batchBytes
    rw [forall_mem_cons] at hknown
    rw [rootVisits] at hfine horderly ⊢
    rw [refreshEach]
    refine (refreshRoot_calm hdepends requestId root (found root) batch h hknown.1
      fun visit hmem => hfine.each visit (mem_append_left _ hmem)).step ?_
    rintro batch₁ t₁ ⟨changed, hchanged, hmade⟩
    have hrest := ih batch₁ hmade.healthy
      (fun other hmem => hmade.frame.known other (hknown.2 other hmem)) (by
        rw [hmade.bytes]
        exact hmade.made.rest h hfine horderly)
    refine hrest.mono ?_
    rintro (e | batch') t' h'
    · exact h'
    · obtain ⟨changed', hchanged', hmade'⟩ := h'
      rw [hmade.bytes] at hmade'
      exact ⟨changed || changed', by rw [hchanged', hchanged, Bool.or_assoc], hmade.append hmade'⟩

end Threadbook.Imports
