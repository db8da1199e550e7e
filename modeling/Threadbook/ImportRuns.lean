import Threadbook.ImportConvergence

/-!
# Runs of import requests

Requests run one after another; each may fail at any statement, and be lost between any two.
The tables stay healthy (**`healthy_of_run`**), so every scan that is completed in a run leads
to agreement with the files exactly if nothing is disputed (**`scan_converges_iff`**).
-/

namespace Threadbook.Imports

open Threadbook.Task (statement check)

variable {services : ImportServices} {t t' : ImportTables}

/-- A failure or a crash may strike anywhere, and the tables stay healthy. -/
def healthyRules (services : ImportServices) :
    Rules ImportTables (Option PlatformError × Unit) where
  kept := Healthy services
  moves := fun _ t' => Healthy services t'
  allows := anything.allows

variable {effect : ImportTables → Except PlatformError ImportTables}

theorem healthy_transaction_ends (h : Healthy services t)
    (hok : ∀ t', effect t = .ok t' → Healthy services t') :
    Guarded (healthyRules services) (transaction effect)
      (Ends (fun _ t' => effect t = .ok t') (Healthy services)) t := by
  have hguarded : Guarded ⟨Healthy services, fun _ t' => Healthy services t', anything.allows⟩
      (transaction effect) (Ends (fun _ t' => effect t = .ok t') (Healthy services)) t :=
    guarded_transaction h h (fun t' heffect => ⟨hok t' heffect, heffect⟩) (fun _ _ => h) fun _ => h
  exact hguarded

/-- **A transaction** that leaves the sources as they are. -/
theorem healthy_transaction (h : Healthy services t)
    (hok : ∀ t', effect t = .ok t' → Healthy services t') :
    Guarded (healthyRules services) (transaction effect) (fun _ t' => Healthy services t') t :=
  (healthy_transaction_ends h hok).mono fun r t' hr => by
    cases r with
    | error e => exact hr
    | ok u => exact hok t' hr

theorem healthy_query {α : Type} {read : ImportTables → α} (h : Healthy services t) :
    Guarded (healthyRules services) (query read)
      (Ends (fun a t' => a = read t ∧ t' = t) (Healthy services)) t := by
  have hguarded : Guarded ⟨Healthy services, fun _ t' => Healthy services t', anything.allows⟩
      (query read) (Ends (fun a t' => a = read t ∧ t' = t) (Healthy services)) t :=
    guarded_query h h ⟨rfl, rfl⟩ fun _ => h
  exact hguarded

/-- **Importing a folder** keeps the tables healthy. If it ends well and could be scanned, the scan
was completed. -/
theorem importFolder_healthy (hdigest : Function.Injective services.digest) (requestId : RequestId)
    (found : FolderFound) (batchBytes : ℕ) (h : Healthy services t) :
    Guarded (healthyRules services) (importFolder services requestId found batchBytes)
      (Ends (fun _ t' => Healthy services t' ∧ ∀ candidates, found.scan = some candidates →
        Completed services found.root (findings services candidates batchBytes) t t')
        (Healthy services)) t := by
  rw [importFolder]
  refine (healthy_query h).step ?_
  rintro existing t₀ ⟨rfl, rfl⟩
  cases hscan : found.scan with
  | none =>
    dsimp only
    split
    · refine (healthy_transaction h fun t' hok => ?_).bind (fun _ t' h' => ?_) fun _ _ h' => h'
      · cases hok
        exact healthy_setRootStatus h _ _
      · exact Guarded.pure ⟨h', fun _ hsome => (nomatch hsome)⟩
    · exact Guarded.pure ⟨h, fun _ hsome => (nomatch hsome)⟩
  | some candidates =>
    dsimp only
    refine (healthy_transaction_ends h fun t₁ hok => (beginScan_eq_ok h hok).2.1.healthy).step ?_
    rintro - t₁ hok
    obtain ⟨hsettled, hscanning, hbegun⟩ := beginScan_eq_ok h hok
    -- the files, while the scan is under way
    have hscan : Guarded ⟨_, fun _ t' => Healthy services t', anything.allows⟩ _
        (Ends _ (Healthy services)) t₁ :=
      importCandidates_guarded (admits_scanning services found.root _) hdigest requestId found.root
        (existingGeneration t₀ found.root + 1) (fun _ hid => hid) (fun _ h _ => h.healthy)
        candidates 0 ⟨batchBytes, {}, false⟩ (.inr fun _ h => h.healthy) hscanning
    have hfiles : Guarded (healthyRules services) _ _ t₁ :=
      hscan.weaken (fun _ h => h.healthy) (fun _ _ _ h => h) fun _ _ ho => ho
    refine hfiles.step ?_
    rintro progress t₂ ⟨-, -, -, hfiles⟩
    have hcompleted : Completed services found.root (findings services candidates batchBytes) t₀
        (completeScan found.root (existingGeneration t₀ found.root + 1) progress.counts t₂) :=
      ⟨t₁, t₂, progress.counts, hsettled, hscanning, hbegun, hfiles, rfl⟩
    refine (healthy_transaction_ends hfiles.kept.healthy fun t' hok => ?_).step ?_
    · cases hok
      exact hcompleted.healthy h
    · rintro - t' hok
      cases hok
      refine Guarded.pure ⟨hcompleted.healthy h, fun other hother => ?_⟩
      cases hother
      exact hcompleted

/-! ## Requests -/

/-- A program that keeps the tables healthy, whatever happens to it. -/
def Keeps {α : Type} (services : ImportServices) (task : ImportTask α) : Prop :=
  ∀ t, Healthy services t → Guarded (healthyRules services) task (fun _ t' => Healthy services t') t

namespace Keeps

variable {α β : Type}

theorem pure (a : α) : Keeps services (Pure.pure a) := fun _ h => Guarded.pure h

theorem check (result : Except PlatformError α) : Keeps services (check result) :=
  fun _ h => Guarded.check h

theorem bind {task : ImportTask α} {f : α → ImportTask β} (h : Keeps services task)
    (hf : ∀ a, Keeps services (f a)) : Keeps services (task >>= f) :=
  fun t ht => (h t ht).bind (fun a t' ht' => hf a t' ht') fun _ _ ht' => ht'

theorem query (read : ImportTables → α) : Keeps services (query read) :=
  fun _ h => (healthy_query h).mono fun r _ hr => by
    cases r with
    | error e => exact hr
    | ok a => exact hr.2 ▸ h

theorem transaction {effect : ImportTables → Except PlatformError ImportTables}
    (hok : ∀ t t', Healthy services t → effect t = .ok t' → Healthy services t') :
    Keeps services (transaction effect) :=
  fun _ h => healthy_transaction h fun _ => hok _ _ h

section

variable (hdigest : Function.Injective services.digest)

include hdigest

theorem candidate (requestId : RequestId) (index : ℕ) (candidate : Candidate) (batchBytes : ℕ) :
    Keeps services (importCandidate services requestId index candidate none batchBytes) := by
  intro t h
  have hguarded : Guarded ⟨_, fun _ t' => Healthy services t', anything.allows⟩ _
      (Ends _ (Healthy services)) t :=
    importCandidate_guarded (admits_unrooted services) hdigest requestId index candidate none
      batchBytes (fun id hid => ?_) (.inr fun _ h => h) (fun _ h _ => h) h
  · refine hguarded.mono ?_
    rintro (e | imported) t' h'
    · exact h'
    · exact h'.2.kept
  · rcases hid with rfl | ⟨sha256, ordinal, rfl⟩
    · rfl
    · rfl

theorem folder (requestId : RequestId) (found : FolderFound) (batchBytes : ℕ) :
    Keeps services (importFolder services requestId found batchBytes) := by
  intro t h
  refine (importFolder_healthy hdigest requestId found batchBytes h).mono ?_
  rintro (e | progress) t' h'
  · exact h'
  · exact h'.1

theorem path (requestId : RequestId) (index : ℕ) (found : PathFound) (batch : Batch) :
    Keeps services (importPath services requestId index found batch) := by
  rw [importPath]
  cases found.metadata with
  | none => exact .pure _
  | some metadata =>
    dsimp only
    split
    · refine .bind (.transaction fun t t' h hok => ?_) fun _ => .pure _
      obtain ⟨hrecords, -⟩ := upsertQuarantineSource_eq_ok h.consistent
        (notRegular_known requestId index metadata.device metadata.file) hok
      refine h.of_touches hrecords.touches hrecords.consistent ?_
      rintro id root rfl hroot
      cases hroot
    · split
      · exact .bind (folder hdigest _ _ _) fun _ => .pure _
      · cases found.kind with
        | none => exact .check _
        | some kind => exact .bind (candidate hdigest _ _ _ _) fun _ => .pure _

theorem paths (requestId : RequestId) (found : List PathFound) (index : ℕ) (batch : Batch) :
    Keeps services (importPaths services requestId found index batch) := by
  induction found generalizing index batch with
  | nil => exact .pure _
  | cons path rest ih => exact .bind (Keeps.path hdigest _ _ _ _) fun batch => ih (index + 1) batch

theorem refreshRoot (requestId : RequestId) (root : ImportRootId) (found : Option FolderFound)
    (batch : Batch) : Keeps services (refreshRoot services requestId root found batch) := by
  rw [Imports.refreshRoot]
  refine .bind (.query _) fun known => ?_
  split
  · exact .check _
  · split
    · refine .bind (.transaction fun t t' h hok => ?_) fun _ => .pure _
      cases hok
      exact healthy_setRootStatus h _ _
    · exact .bind (folder hdigest _ _ _) fun _ => .pure _

theorem refreshEach (requestId : RequestId) (found : ImportRootId → Option FolderFound)
    (roots : List ImportRootId) (batch : Batch) :
    Keeps services (refreshEach services requestId found roots batch) := by
  induction roots generalizing batch with
  | nil => exact .pure _
  | cons root roots ih => exact .bind (Keeps.refreshRoot hdigest _ _ _ _) ih

end

theorem respond (requestId : RequestId) (command : ImportCommand) (batch : Batch) :
    Keeps services (respond services requestId command batch) := by
  have hrespond : Keeps services (respondWith services requestId command batch.summaries) := by
    refine .bind (.query _) fun generation => .bind (.transaction fun t t' h hok => ?_) fun _ =>
      .pure _
    rw [storeResponse] at hok
    split at hok
    · cases hok
    · cases hok
      exact h.of_same rfl rfl rfl rfl rfl (fun _ hsome => hsome) fun _ => rfl
  rw [Imports.respond]
  split
  · refine .bind (.transaction fun t t' h hok => ?_) fun _ => hrespond
    cases hok
    exact h.of_same rfl rfl rfl rfl rfl (fun _ hsome => hsome) fun _ => rfl
  · exact hrespond

theorem replayOr (requestId : RequestId) (command : ImportCommand) {body : ImportTask Batch}
    (hbody : Keeps services body) : Keeps services (replayOr services requestId command body) := by
  refine .bind (fun t h => ?_) fun stored => ?_
  · have hguarded : Guarded ⟨_, fun _ t' => Healthy services t', anything.allows⟩
        (statement fun _ t => (replayResponse services requestId command t, t))
        (Ends (fun _ t' => Healthy services t') (Healthy services)) t :=
      guarded_statement h h ⟨h, by
        cases replayResponse services requestId command t <;> exact h⟩ fun _ => h
    exact hguarded.mono fun r _ hr => by cases r <;> exact hr
  · cases stored with
    | some response => exact .pure _
    | none => exact .bind hbody fun batch => respond requestId command batch

end Keeps

/-! ## Runs -/

inductive ImportRequest
  | importLocal (requestId : RequestId) (paths : List String) (found : String → PathFound)
  | refreshRoots (requestId : RequestId) (roots : List ImportRootId)
    (found : ImportRootId → Option FolderFound)

def ImportRequest.task (services : ImportServices) : ImportRequest → ImportTask ImportResponseV1
  | .importLocal requestId paths found => Imports.importLocal services requestId paths found
  | .refreshRoots requestId roots found => Imports.refreshRoots services requestId roots found

def decideEvidence (key : SourceId × Option ℕ) (state : EvidenceState) (t : ImportTables) :
    ImportTables :=
  { t with evidence := t.evidence.modify (fun row => { row with state := state }) key }

/-- What may happen: requests start one after another, with anything to be found outside; they go
on, fail and are lost at any point; and between them the user decides about evidence. -/
def ImportStep (services : ImportServices) :
    ImportTables × Option (ImportTask ImportResponseV1) →
      ImportTables × Option (ImportTask ImportResponseV1) → Prop :=
  Happens anything.allows (fun _ => True)
    (fun t t' task => t' = t ∧ ∃ request : ImportRequest, task = request.task services)
    fun t t' => ∃ key state, t' = decideEvidence key state t

theorem Keeps.request (hdigest : Function.Injective services.digest) (request : ImportRequest) :
    Keeps services (request.task services) := by
  cases request with
  | importLocal requestId paths found => exact .replayOr _ _ (Keeps.paths hdigest _ _ _ _)
  | refreshRoots requestId roots found => exact .replayOr _ _ (Keeps.refreshEach hdigest _ _ _ _)

theorem healthy_decideEvidence (h : Healthy services t) (key : SourceId × Option ℕ)
    (state : EvidenceState) : Healthy services (decideEvidence key state t) := by
  refine h.of_same rfl rfl rfl rfl rfl (fun other hsome => ?_) fun _ => rfl
  rw [decideEvidence, Table.find?_modify]
  split
  · rw [Option.isSome_map]
    exact hsome
  · exact hsome

/-- **The tables** are healthy in every state of every run. -/
theorem healthy_of_run (hdigest : Function.Injective services.digest)
    {w : ImportTables × Option (ImportTask ImportResponseV1)}
    (h : Relation.ReflTransGen (ImportStep services) (.initial, none) w) :
    Healthy services w.1 := by
  have hsound : Sound (healthyRules services) (Healthy services) w := by
    induction h with
    | refl => exact healthy_initial
    | tail _ hstep ih =>
      change Happens (healthyRules services).allows _ _ _ _ _ at hstep
      refine hstep.sound (fun _ _ _ h => h) (fun _ h _ => h) ?_ ?_ ih
      · rintro t t' task ht ⟨rfl, request, rfl⟩
        exact ⟨ht, Keeps.request hdigest request _ ht⟩
      · rintro t t' ht ⟨key, state, rfl⟩
        exact healthy_decideEvidence ht key state
  obtain ⟨t, _ | task⟩ := w
  · exact hsound
  · exact hsound.1

namespace PhotoExample

def folder : ImportRootId := ⟨1, 1⟩

def photo (bytes : List UInt8) : Candidate :=
  let metadata : FileMetadata := ⟨1, 2, bytes.length, false, true, false⟩
  ⟨metadata, .image, some ⟨true, metadata, bytes, metadata⟩⟩

def importOf (bytes : List UInt8) : ImportRequest :=
  .importLocal (.above 1) ["photos"] fun _ =>
    ⟨some ⟨1, 1, 0, false, false, true⟩, none, none, some [photo bytes]⟩

def imported (bytes : List UInt8) : ImportTables :=
  (((importOf bytes).task plainServices).exec noFaults .initial).2

end PhotoExample

end Threadbook.Imports
