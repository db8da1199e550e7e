import Threadbook.ImportRuns
import Threadbook.ImportVisits

/-!
# Repeated import requests

A request may be cut off at any statement, and repeated with other files in place. If it is
`Ready`, it is carried out: its response is stored, each file is recorded as it was found, and
every change of the sources so far is followed by a new generation of the evidence
(**`retry_completes`**).

It is not ready if a mailbox cannot be split, if a folder has a scan that was cut off, or if a file
whose bytes are stored cannot be read any longer: then the request fails each time, and the files
after that one are never recorded.
-/

namespace Threadbook.Imports

open Threadbook.Task (statement check)

variable {services : ImportServices} {t t' t₁ : ImportTables} {root : ImportRootId}

/-! ## What visits record -/

def Reflects (verdict : Verdict) (v : SourceView) : Prop :=
  ∃ row, v.row = some row ∧ row.status = verdict.status ∧ row.blob = verdict.blob ∧
    (row.status = .quarantined → v.quarantine.isSome)

def Visit.Brings (services : ImportServices) (id : SourceId) : Visit → Prop
  | .file entry kind verdict =>
    id = entry.sourceId ∨ id ∈ verdict.messages services entry.sourceId kind
  | .folder root found => ∃ f ∈ found, f.Brings services root id

/-- **What visits come to**: a source is as the last visit that concerns it found its file, and all
messages are there. -/
structure AllRecorded (services : ImportServices) (visits : List Visit) (t : ImportTables) :
    Prop where
  sources : ∀ pre visit post id verdict, visits = pre ++ visit :: post →
    visit.verdict? id = some verdict → (∀ later ∈ post, ¬ later.Concerns id) →
    Reflects verdict (view t id)
  present : ∀ visit ∈ visits, ∀ id, visit.Brings services id → Present t id

theorem reflects_seen (v : SourceView) (entry : SourceEntry) (kind : CandidateKind)
    (verdict : Verdict) : Reflects verdict (v.seen entry kind verdict) := by
  obtain ⟨row, hrow, hstatus, hblob, -, -⟩ := v.seen_row entry kind verdict
  refine ⟨row, hrow, hstatus, hblob, fun hquarantined => ?_⟩
  refine (v.seen_quarantine entry kind verdict).2 fun hpasses => ?_
  rw [Verdict.Passes, ← hstatus, hquarantined] at hpasses
  cases hpasses

theorem reflects_finished {generation : ℕ} (v : SourceView) (f : Finding) :
    Reflects f.verdict
      ((v.seen (f.entry root generation) f.kind f.verdict).finished root generation) := by
  obtain ⟨row, hrow, hstatus, hblob, hquarantine⟩ :=
    reflects_seen v (f.entry root generation) f.kind f.verdict
  obtain ⟨row', hrow', -, -, hgeneration, -⟩ := v.seen_row (f.entry root generation) f.kind f.verdict
  obtain rfl := Option.mem_unique hrow hrow'
  have hfresh : finishedRow root generation row = row := by
    have hstale : ¬ isStale root generation row = true := by
      simp [isStale, hgeneration, Finding.entry]
    rw [finishedRow, if_neg hstale]
  refine ⟨row, ?_, hstatus, hblob, hquarantine⟩
  rw [SourceView.finished, hrow, Option.map_some, hfresh]

variable {id : SourceId} {visit : Visit} {announced : SourceId → Option LocalSourceRow} {start : ℕ}

/-- **A visit** records what it finds. -/
theorem reflects_of_visited (h : Visited services visit t t') {verdict : Verdict}
    (hverdict : visit.verdict? id = some verdict) : Reflects verdict (view t' id) := by
  cases visit with
  | file entry kind verdict' =>
    rw [Visit.verdict?] at hverdict
    split at hverdict
    · rename_i hid
      cases hverdict
      rw [← hid, FileImported.view_self h]
      exact reflects_seen _ _ _ _
    · cases hverdict
  | folder root found =>
    obtain ⟨last, hlast, rfl⟩ := Option.map_eq_some_iff.mp hverdict
    obtain ⟨-, rfl⟩ := of_getLast?_findingsOf hlast
    rw [view_of_completed h (last.root?_sourceId root), scanned_of_getLast? hlast]
    exact reflects_finished _ _

theorem view_of_visited_of_not (h : Visited services visit t t') (hid : ¬ visit.Concerns id)
    (hmessage : ∀ mailbox, ¬ IsMessageOf mailbox id) : view t' id = view t id := by
  cases visit with
  | file entry kind verdict =>
    refine (FileImported.touches h).views id ?_
    rintro (heq | hof)
    · exact hid heq.symm
    · exact hmessage _ hof
  | folder root found =>
    refine view_of_completed_of_not h ?_
    rintro (hroot | ⟨mailbox, -, hof⟩)
    · exact hid hroot
    · exact hmessage _ hof

theorem present_of_visited (h : Visited services visit t t') (id : SourceId) :
    Present t' id ↔ Present t id ∨ visit.Brings services id := by
  cases visit with
  | file entry kind verdict => exact FileImported.present h id
  | folder root found =>
    obtain ⟨t₁, t₂, counts, -, -, ⟨hviews, -⟩, hfiles, rfl⟩ := h
    rw [Present, view_completeScan, SourceView.finished, Option.isSome_map, ← Present,
      hfiles.present, Present, hviews]
    exact Iff.rfl

theorem not_isMessageOf_of_verdict (hnamed : visit.Named) {verdict : Verdict}
    (hverdict : visit.verdict? id = some verdict) (mailbox : SourceId) :
    ¬ IsMessageOf mailbox id := by
  cases visit with
  | file entry kind verdict' =>
    rw [Visit.verdict?] at hverdict
    split at hverdict
    · rename_i hid
      exact hid ▸ hnamed.2 mailbox
    · cases hverdict
  | folder root found =>
    obtain ⟨last, hlast, -⟩ := Option.map_eq_some_iff.mp hverdict
    obtain ⟨-, rfl⟩ := of_getLast?_findingsOf hlast
    exact not_isMessageOf_of_root (last.root?_sourceId root)

theorem Made.present {visits : List Visit} (h : Made services visits t t') (hid : Present t id) :
    Present t' id := by
  induction h with
  | nil t => exact hid
  | quiet hviews _ _ _ ih =>
    refine ih ?_
    rw [Present, hviews]
    exact hid
  | visit hvisit _ ih => exact ih ((present_of_visited hvisit id).mpr (.inl hid))

theorem Made.view_eq {visits : List Visit} (h : Made services visits t t')
    (hid : ∀ visit ∈ visits, ¬ visit.Concerns id) (hmessage : ∀ mailbox, ¬ IsMessageOf mailbox id) :
    view t' id = view t id := by
  induction h with
  | nil t => rfl
  | quiet hviews _ _ _ ih => rw [ih hid, hviews]
  | visit hvisit _ ih =>
    rw [List.forall_mem_cons] at hid
    rw [ih hid.2, view_of_visited_of_not hvisit hid.1 hmessage]

/-- **Visits that are made** are recorded, each of them whatever the others found. -/
theorem Made.allRecorded {visits : List Visit} (h : Made services visits t t')
    (hnamed : ∀ visit ∈ visits, visit.Named) : AllRecorded services visits t' := by
  induction h with
  | nil t =>
    refine ⟨fun pre visit post id verdict heq => ?_, fun visit hmem => (nomatch hmem)⟩
    exact absurd heq (by simp)
  | quiet _ _ _ _ ih => exact ih hnamed
  | @visit visit visits t t₁ t' hvisit hrest ih =>
    rw [List.forall_mem_cons] at hnamed
    have hlater := ih hnamed.2
    refine ⟨fun pre visited post id verdict heq hverdict hpost => ?_, fun visited hmem id hid => ?_⟩
    · cases pre with
      | nil =>
        obtain ⟨rfl, rfl⟩ := List.cons.inj heq
        rw [hrest.view_eq hpost (not_isMessageOf_of_verdict hnamed.1 hverdict)]
        exact reflects_of_visited hvisit hverdict
      | cons first pre =>
        exact hlater.sources pre visited post id verdict (List.cons.inj heq).2 hverdict hpost
    · rcases List.mem_cons.mp hmem with rfl | hmem
      · exact hrest.present ((present_of_visited hvisit id).mpr (.inr hid))
      · exact hlater.present visited hmem id hid

/-! ## Announced changes -/

def sources (t : ImportTables) : SourceId → Option LocalSourceRow := t.localSources.find?

def announce (t t' : ImportTables) (announced : SourceId → Option LocalSourceRow) :
    SourceId → Option LocalSourceRow :=
  if t.evidenceGeneration < t'.evidenceGeneration then sources t' else announced

/-- A state of a run, and the sources as they were when the generation was last raised in it. -/
inductive Announced (services : ImportServices) :
    ImportTables × Option (ImportTask ImportResponseV1) →
      (SourceId → Option LocalSourceRow) → Prop
  | initial : Announced services (.initial, none) (sources .initial)
  | step {w w' : ImportTables × Option (ImportTask ImportResponseV1)}
      {announced : SourceId → Option LocalSourceRow} (h : Announced services w announced)
      (hstep : ImportStep services w w') :
      Announced services w' (announce w.1 w'.1 announced)

theorem Announced.run {w : ImportTables × Option (ImportTask ImportResponseV1)}
    (h : Announced services w announced) :
    Relation.ReflTransGen (ImportStep services) (.initial, none) w := by
  induction h with
  | initial => exact .refl
  | step _ hstep ih => exact ih.tail hstep

/-- **Visits that find no file**, where all sources are missing already, change no source. -/
theorem Made.sources_eq {visits : List Visit} (h : Made services visits t t')
    (hcounts : ∀ visit ∈ visits, ¬ visit.Counts)
    (hmissing : ∀ root found, Visit.folder root found ∈ visits → ∀ id row, id.root? = some root →
      sources t id = some row → row.status = .missing) : sources t' = sources t := by
  induction h with
  | nil t => rfl
  | @quiet visits t t₁ t' hviews _ _ _ ih =>
    have hsame : sources t₁ = sources t := funext fun id => congrArg SourceView.row (hviews id)
    rw [ih hcounts (hsame ▸ hmissing), hsame]
  | @visit visit visits t t₁ t' hvisit hrest ih =>
    rw [List.forall_mem_cons] at hcounts
    cases visit with
    | file entry kind verdict => exact (hcounts.1 trivial).elim
    | folder root found =>
      have hnothing : found = [] := not_not.mp hcounts.1
      subst hnothing
      obtain ⟨t₀, t₂, counts, -, -, ⟨hviews, -⟩, hfiles, rfl⟩ := hvisit
      have hrows : sources t₂ = sources t := by
        refine funext fun id => ?_
        have hview : view t₂ id = view t id := by
          rw [hfiles.touched.views id (fun ⟨f, hf, _⟩ => (nomatch hf)), hviews]
        exact congrArg SourceView.row hview
      have hsame : sources (completeScan root (existingGeneration t root + 1) counts t₂) =
          sources t := by
        refine funext fun id => ?_
        refine (congrArg SourceView.row (view_completeScan _ _ id)).trans ?_
        change (sources t₂ id).map _ = _
        rw [hrows]
        cases hrow : sources t id with
        | none => rfl
        | some row =>
          rw [Option.map_some, finishedRow]
          split
          · -- what is marked as missing was so before
            rename_i hstale
            have hroot : row.rootId = some root := by
              simp only [isStale, decide_eq_true_eq] at hstale
              exact hstale.1
            have hrow' : sources t₂ id = some row := by rw [hrows, hrow]
            have hid : id.root? = some root :=
              (hfiles.kept.healthy.consistent.keyed id row hrow').root.symm.trans hroot
            rw [← hmissing root [] (.head _) id row hid hrow]
          · rfl
      rw [ih hcounts.2 fun other found hmem => ?_, hsame]
      rw [hsame]
      exact hmissing other found (.tail _ hmem)

/-! ## Requests -/

namespace ImportRequest

def requestId : ImportRequest → RequestId
  | .importLocal requestId _ _ => requestId
  | .refreshRoots requestId _ _ => requestId

def command : ImportRequest → ImportCommand
  | .importLocal _ paths _ => .importLocalSources paths
  | .refreshRoots _ roots _ => .refreshImportRoots roots

def body (services : ImportServices) : ImportRequest → ImportTask Batch
  | .importLocal requestId paths found =>
    importPaths services requestId (paths.map found) 0 ⟨[], 0, false⟩
  | .refreshRoots requestId roots found =>
    refreshEach services requestId found roots ⟨[], 0, false⟩

theorem task_eq (services : ImportServices) (request : ImportRequest) :
    request.task services =
      replayOr services request.requestId request.command (request.body services) := by
  cases request <;> rfl

def visits (services : ImportServices) : ImportRequest → List Visit
  | .importLocal requestId paths found => pathVisits services requestId (paths.map found) 0 0
  | .refreshRoots _ roots found => rootVisits services found roots 0

/-- Nothing in the request is refused: each path leads to a folder or a file of a type that is
known, and each root is known. -/
def Supported (t : ImportTables) : ImportRequest → Prop
  | .importLocal _ paths found => ∀ path ∈ paths, (found path).Supported
  | .refreshRoots _ roots _ => ∀ root ∈ roots, (t.importRoots.find? root).isSome

end ImportRequest

theorem orderly_visits (services : ImportServices) (request : ImportRequest) :
    Orderly services (request.visits services) := by
  cases request with
  | importLocal requestId paths found => exact orderly_pathVisits services _ _ _ _
  | refreshRoots requestId roots found => exact orderly_rootVisits services _ _ _

/-- **What a request goes through** is imported. -/
theorem body_calm (hdepends : Dependable services) (h : Healthy services t)
    (request : ImportRequest) (hsupported : request.Supported t)
    (hfine : AllVisitsFine t (request.visits services)) :
    Guarded (calmRules services) (request.body services)
      (Ends (fun batch t' => MadeBy services (request.visits services, batch.batchBytes)
        batch.batchBytes batch.changed t t') fun _ => False) t := by
  cases request with
  | importLocal requestId paths found =>
    have hpaths := importPaths_calm hdepends requestId (paths.map found) 0 ⟨[], 0, false⟩ h
      (fun path hmem => by
        obtain ⟨p, hp, rfl⟩ := List.mem_map.mp hmem
        exact hsupported p hp) hfine
    refine hpaths.mono ?_
    rintro (e | batch) t' h'
    · exact h'
    · obtain ⟨changed, hchanged, hmade⟩ := h'
      obtain rfl : batch.changed = changed := hchanged.trans (Bool.false_or _)
      exact hmade
  | refreshRoots requestId roots found =>
    have hroots := refreshEach_calm hdepends requestId found roots ⟨[], 0, false⟩ h hsupported hfine
    refine hroots.mono ?_
    rintro (e | batch) t' h'
    · exact h'
    · obtain ⟨changed, hchanged, hmade⟩ := h'
      obtain rfl : batch.changed = changed := hchanged.trans (Bool.false_or _)
      exact hmade

/-! ## Responses -/

def RetryMove (start : ℕ) (t t' : ImportTables) : Prop :=
  (t.evidenceGeneration = start ∧
    (t'.evidenceGeneration = start ∨ t'.evidenceGeneration = start + 1)) ∨
  (t.evidenceGeneration = start + 1 ∧ t'.evidenceGeneration = start + 1 ∧ sources t' = sources t)

/-- Nothing outside fails, and the generation is raised in the end. -/
def retryRules (start : ℕ) : Rules ImportTables (Option PlatformError × Unit) where
  kept := fun _ => True
  moves := RetryMove start
  allows := calm.allows

theorem retry_still (hstart : t.evidenceGeneration = start ∨ t.evidenceGeneration = start + 1) :
    RetryMove start t t :=
  hstart.imp (fun h => ⟨h, .inl h⟩) fun h => ⟨h, h, rfl⟩

theorem retry_statement {α : Type} (effect : ImportTables → Except PlatformError α × ImportTables)
    {a : α} {after : ImportTables} (heffect : effect t = (.ok a, after))
    (hstill : RetryMove start t t) (hmove : RetryMove start t after) :
    Guarded (retryRules start) (statement fun _ t => effect t)
      (Ends (fun a' t' => a' = a ∧ t' = after) fun _ => False) t := by
  have hguarded : Guarded ⟨fun _ => True, RetryMove start, calm.allows⟩
      (statement fun _ t => effect t) (Ends (fun a' t' => a' = a ∧ t' = after) fun _ => False) t := by
    refine guarded_statement trivial hstill ?_ id
    rw [heffect]
    exact ⟨hmove, rfl, rfl⟩
  exact hguarded

theorem retry_transaction {effect : ImportTables → Except PlatformError ImportTables}
    {after : ImportTables} (heffect : effect t = .ok after) (hstill : RetryMove start t t)
    (hmove : RetryMove start t after) :
    Guarded (retryRules start) (transaction effect)
      (Ends (fun _ t' => t' = after) fun _ => False) t := by
  have hguarded : Guarded ⟨fun _ => True, RetryMove start, calm.allows⟩
      (transaction effect) (Ends (fun _ t' => t' = after) fun _ => False) t := by
    refine guarded_transaction trivial hstill (fun t' hok => ?_) (fun e herror => ?_) id
    · obtain rfl := Except.ok.inj (heffect.symm.trans hok)
      exact ⟨hmove, rfl⟩
    · rw [heffect] at herror
      cases herror
  exact hguarded

structure Responded (services : ImportServices) (requestId : RequestId) (command : ImportCommand)
    (response : ImportResponseV1) (t t' : ImportTables) : Prop where
  stored : t'.commandReceipts.find? requestId =
    some ⟨command.name, envelopeHash services requestId command, response⟩
  fresh : response.replayed = false
  generation : response.evidenceGeneration = t'.evidenceGeneration
  views : ∀ id, view t' id = view t id

theorem respondWith_calm {requestId : RequestId} (command : ImportCommand)
    (summaries : List ImportSummaryV1)
    (hstart : t.evidenceGeneration = start ∨ t.evidenceGeneration = start + 1)
    (hfree : t.commandReceipts.find? requestId = none) :
    Guarded (retryRules start) (respondWith services requestId command summaries)
      (Ends (fun response t' => t'.evidenceGeneration = t.evidenceGeneration ∧
        Responded services requestId command response t t') fun _ => False) t := by
  have hstill := retry_still hstart
  rw [respondWith]
  refine (retry_statement (fun t => (.ok t.evidenceGeneration, t)) rfl hstill hstill).step ?_
  rintro generation t₀ ⟨rfl, rfl⟩
  let response : ImportResponseV1 := ⟨requestId, summaries, t₀.evidenceGeneration, false⟩
  let after : ImportTables := { t₀ with
    commandReceipts := t₀.commandReceipts.put requestId ⟨command.name,
      envelopeHash services requestId command, response⟩ }
  have hstore : storeResponse services requestId command response t₀ = .ok after := by
    rw [storeResponse, hfree]
    rfl
  have hmove : RetryMove start t₀ after :=
    hstart.imp (fun h => ⟨h, .inl h⟩) fun h => ⟨h, h, rfl⟩
  refine (retry_transaction hstore hstill hmove).step ?_
  rintro - t' rfl
  refine Guarded.pure ⟨rfl, ?_, rfl, rfl, fun _ => rfl⟩
  exact (Table.find?_put ..).trans (if_pos rfl)

/-- **The response** is stored, and the generation is raised if something may have changed. -/
theorem respond_calm {requestId : RequestId} (command : ImportCommand) (batch : Batch)
    (hfree : t.commandReceipts.find? requestId = none) :
    Guarded (retryRules t.evidenceGeneration) (respond services requestId command batch)
      (Ends (fun response t' => Responded services requestId command response t t' ∧
        t'.evidenceGeneration = t.evidenceGeneration + if batch.changed then 1 else 0)
        fun _ => False) t := by
  rw [respond]
  cases hchanged : batch.changed with
  | false =>
    rw [if_neg Bool.false_ne_true]
    refine (respondWith_calm command batch.summaries (.inl rfl) hfree).mono ?_
    rintro (e | response) t' h'
    · exact h'
    · exact ⟨h'.2, h'.1⟩
  | true =>
    rw [if_pos rfl]
    have hraised : Guarded (retryRules t.evidenceGeneration)
        (transaction fun t => .ok (bumpEvidenceGeneration t))
        (Ends (fun _ t' => t' = bumpEvidenceGeneration t) fun _ => False) t :=
      retry_transaction rfl (retry_still (.inl rfl)) (.inl ⟨rfl, .inr rfl⟩)
    refine hraised.step ?_
    rintro - t₁ rfl
    have hlater : (bumpEvidenceGeneration t).evidenceGeneration = t.evidenceGeneration + 1 := rfl
    refine (respondWith_calm command batch.summaries (.inr hlater) hfree).mono ?_
    rintro (e | response) t' h'
    · exact h'
    · exact ⟨⟨h'.2.stored, h'.2.fresh, h'.2.generation, h'.2.views⟩, h'.1⟩

/-! ## Repeated requests -/

/-- **A request can be carried out**: nothing in it is refused, its files are fine, and if it finds
no file, then no change of the sources is unannounced, and none is left to be made. -/
structure CanRun (services : ImportServices) (announced : SourceId → Option LocalSourceRow)
    (t : ImportTables) (request : ImportRequest) : Prop where
  supported : request.Supported t
  fine : AllVisitsFine t (request.visits services)
  counts : (∃ visit ∈ request.visits services, visit.Counts) ∨
    announced = sources t ∧ ∀ root found, Visit.folder root found ∈ request.visits services →
      ∀ id row, id.root? = some root → sources t id = some row → row.status = .missing

/-- **A request is ready**: it can be carried out, or was answered before. -/
def Ready (services : ImportServices) (announced : SourceId → Option LocalSourceRow)
    (t : ImportTables) (request : ImportRequest) : Prop :=
  match t.commandReceipts.find? request.requestId with
  | some receipt => receipt.commandName = request.command.name ∧
      receipt.envelopeHash = envelopeHash services request.requestId request.command
  | none => CanRun services announced t request

/-- **What a request comes to** if it is carried out: its response is stored, what it visits is
recorded, and all changes of the sources are announced. -/
structure CarriedOut (services : ImportServices) (request : ImportRequest)
    (response : ImportResponseV1) (t' : ImportTables) : Prop where
  stored : t'.commandReceipts.find? request.requestId = some ⟨request.command.name,
    envelopeHash services request.requestId request.command, response⟩
  recorded : AllRecorded services (request.visits services) t'
  announced : Announced services (t', none) (sources t')

/-- **A request that was not answered** is carried out, if it can be. -/
theorem request_calm (hdepends : Dependable services) (hhealthy : Healthy services t)
    {request : ImportRequest} (hfree : t.commandReceipts.find? request.requestId = none)
    (hrun : CanRun services announced t request) :
    Guarded (retryRules t.evidenceGeneration) (request.task services)
      (Ends (fun response t' =>
        t'.commandReceipts.find? request.requestId = some ⟨request.command.name,
          envelopeHash services request.requestId request.command, response⟩ ∧
        AllRecorded services (request.visits services) t' ∧
        (t'.evidenceGeneration = t.evidenceGeneration + 1 ∨ announced = sources t'))
        fun _ => False) t := by
  have horderly := orderly_visits services request
  rw [request.task_eq, replayOr]
  have hstill : RetryMove t.evidenceGeneration t t := retry_still (.inl rfl)
  refine (retry_statement (fun t => (replayResponse services request.requestId request.command t, t))
    (by rw [replayResponse, hfree]) hstill hstill).step ?_
  rintro stored t₀ ⟨rfl, rfl⟩
  -- going through the files keeps the generation as it was
  have hbody := (body_calm hdepends hhealthy request hrun.supported hrun.fine).keep
    (I := fun t' => t'.evidenceGeneration = t₀.evidenceGeneration)
    (fun s s' hs hmove => hmove.2.trans hs) rfl
  have hbody' : Guarded (retryRules t₀.evidenceGeneration) (request.body services)
      (Ends (fun batch t' => MadeBy services (request.visits services, batch.batchBytes)
        batch.batchBytes batch.changed t₀ t') fun _ => False) t₀ :=
    Guarded.weaken (hbody.mono fun r t' h' => h'.1) (fun _ _ => trivial)
      (fun s s' hs hmove => .inl ⟨hs.2, .inl (hmove.2.trans hs.2)⟩) fun _ _ ho => ho
  refine hbody'.step ?_
  intro batch t₁ hmade
  have hfree₁ : t₁.commandReceipts.find? request.requestId = none := by
    rw [hmade.frame.commandReceipts, hfree]
  rw [← hmade.frame.evidenceGeneration]
  refine (respond_calm request.command batch hfree₁).mono ?_
  rintro (e | response) t' h'
  · exact h'
  obtain ⟨hresponded, hgeneration⟩ := h'
  have hrecorded := hmade.made.allRecorded horderly.named
  refine ⟨hresponded.stored, ⟨fun pre visit post id verdict heq hverdict hpost => ?_,
    fun visit hmem id hid => ?_⟩, ?_⟩
  · rw [hresponded.views]
    exact hrecorded.sources pre visit post id verdict heq hverdict hpost
  · rw [Present, hresponded.views]
    exact hrecorded.present visit hmem id hid
  · rcases hchanged : batch.changed with _ | _
    · -- nothing was found, and nothing was to be announced
      have hnone : ∀ visit ∈ request.visits services, ¬ visit.Counts := by
        intro visit hmem hcounts
        have := hmade.changed.mpr ⟨visit, hmem, hcounts⟩
        rw [hchanged] at this
        cases this
      rcases hrun.counts with ⟨visit, hmem, hcounts⟩ | ⟨hannounced, hmissing⟩
      · exact (hnone visit hmem hcounts).elim
      · refine .inr ?_
        have hsources : sources t' = sources t₁ :=
          funext fun id => congrArg SourceView.row (hresponded.views id)
        rw [hsources, hmade.made.sources_eq hnone hmissing, hannounced]
    · rw [hchanged] at hgeneration
      exact .inl hgeneration

theorem announce_of_le (h : t'.evidenceGeneration ≤ t.evidenceGeneration) :
    announce t t' announced = announced :=
  if_neg (Nat.not_lt.mpr h)

/-- **What a request announces**: nothing, or the sources as they are in the end. -/
theorem announced_exec (hrun : Announced services (t, none) announced) (request : ImportRequest)
    {Q : Except PlatformError ImportResponseV1 → ImportTables → Prop}
    (h : Guarded (retryRules t.evidenceGeneration) (request.task services) Q t) :
    ∃ announced', Announced services (((request.task services).exec noFaults t).2, none) announced' ∧
      (((request.task services).exec noFaults t).2.evidenceGeneration = t.evidenceGeneration ∧
          announced' = announced ∨
        announced' = sources ((request.task services).exec noFaults t).2) := by
  let I : ImportTables × Option (ImportTask ImportResponseV1) → Prop := fun w =>
    ∃ announced', Announced services w announced' ∧
      (w.1.evidenceGeneration = t.evidenceGeneration ∧ announced' = announced ∨
        w.1.evidenceGeneration = t.evidenceGeneration + 1 ∧ announced' = sources w.1)
  have hfinal : I (((request.task services).exec noFaults t).2, none) := by
    refine h.exec_run (I := I) calm_allows ?_ ?_ ?_
    · rintro γ action next o s - hmove ⟨announced', hannounced, hcases⟩
      refine ⟨_, hannounced.step (.act action next o ⟨fun _ => trivial, trivial⟩), ?_⟩
      dsimp only at hcases ⊢
      rcases hmove with ⟨hstart, hend | hend⟩ | ⟨hstart, hend, hsources⟩
      · rw [announce_of_le (by rw [hstart, hend])]
        rcases hcases with hcases | hcases
        · exact .inl ⟨hend, hcases.2⟩
        · omega
      · rw [announce, if_pos (by rw [hstart, hend]; exact Nat.lt_succ_self _)]
        exact .inr ⟨hend, rfl⟩
      · rw [announce_of_le (by rw [hstart, hend])]
        rcases hcases with hcases | hcases
        · omega
        · exact .inr ⟨hend, hcases.2.trans hsources.symm⟩
    · rintro result s ⟨announced', hannounced, hcases⟩
      refine ⟨_, hannounced.step (.finish result), ?_⟩
      rw [announce_of_le le_rfl]
      exact hcases
    · refine ⟨_, hrun.step (.start ⟨rfl, request, rfl⟩), .inl ⟨rfl, ?_⟩⟩
      exact announce_of_le le_rfl
  obtain ⟨announced', hannounced, hcases⟩ := hfinal
  exact ⟨announced', hannounced, hcases.imp_right And.right⟩

/-- **A request that is ready** completes, at any time of any run: if it was answered before, its
response is given again and nothing changes, and if not, it is carried out. -/
theorem retry_completes (hdepends : Dependable services)
    {announced : SourceId → Option LocalSourceRow} (hrun : Announced services (t, none) announced)
    (request : ImportRequest) (hready : Ready services announced t request) :
    ∃ response t', (request.task services).exec noFaults t = (.ok response, t') ∧
      ((∃ receipt, t.commandReceipts.find? request.requestId = some receipt ∧ t' = t ∧
          response = { receipt.response with replayed := true }) ∨
        (t.commandReceipts.find? request.requestId = none ∧
          CarriedOut services request response t')) := by
  rw [Ready] at hready
  cases hreceipt : t.commandReceipts.find? request.requestId with
  | some receipt =>
    rw [hreceipt] at hready
    have hreplay : replayResponse services request.requestId request.command t =
        .ok (some receipt.response) := by
      rw [replayResponse, hreceipt]
      exact if_pos hready
    have hstill : RetryMove t.evidenceGeneration t t := retry_still (Or.inl rfl)
    have hguarded : Guarded (retryRules t.evidenceGeneration) (request.task services)
        (Ends (fun response t' => response = { receipt.response with replayed := true } ∧ t' = t)
          fun _ => False) t := by
      rw [request.task_eq, replayOr]
      refine (retry_statement (fun t =>
        (replayResponse services request.requestId request.command t, t))
        (by rw [hreplay]) hstill hstill).step ?_
      rintro stored t₀ ⟨rfl, rfl⟩
      exact Guarded.pure ⟨rfl, rfl⟩
    have hend := hguarded.exec calm_allows
    rcases hexec : (request.task services).exec noFaults t with ⟨e | response, t'⟩
    · rw [hexec] at hend
      exact hend.elim
    · rw [hexec] at hend
      obtain ⟨rfl, rfl⟩ := hend
      exact ⟨_, _, rfl, Or.inl ⟨receipt, rfl, rfl, rfl⟩⟩
  | none =>
    rw [hreceipt] at hready
    have hguarded := request_calm hdepends (healthy_of_run hdepends.digest hrun.run) hreceipt hready
    have hend := hguarded.exec calm_allows
    obtain ⟨announced', hannounced, hcases⟩ := announced_exec hrun request hguarded
    rcases hexec : (request.task services).exec noFaults t with ⟨e | response, t'⟩
    · rw [hexec] at hend
      exact hend.elim
    · rw [hexec] at hend hannounced hcases
      obtain ⟨hstored, hrecorded, hgeneration⟩ := hend
      refine ⟨response, t', rfl, Or.inr ⟨rfl, hstored, hrecorded, ?_⟩⟩
      rcases hcases with ⟨hsame, rfl⟩ | rfl
      · rcases hgeneration with hgeneration | hsources
        · rw [hsame] at hgeneration
          exact absurd hgeneration (Nat.ne_of_lt (Nat.lt_succ_self _))
        · exact hsources ▸ hannounced
      · exact hannounced

/-! ## Examples -/

namespace RetryExample

def fileOf (kind : CandidateKind) (file : ℕ) (bytes : List UInt8) : PathFound :=
  let metadata : FileMetadata := ⟨1, file, bytes.length, false, true, false⟩
  ⟨some metadata, some kind, some ⟨true, metadata, bytes, metadata⟩, none⟩

def mailboxAndPhoto : ImportRequest :=
  .importLocal (.above 1) ["mailbox", "photo"] fun path =>
    if path = "mailbox" then fileOf .mbox 3 [1] else fileOf .image 4 [2]

def blocked : ImportTables := ((mailboxAndPhoto.task plainServices).exec noFaults .initial).2

/-- The mailbox is recorded and cannot be split, so the request fails: it is not answered, the photo
is not recorded, and the new source is not announced. Repeating it leads to the same. -/
theorem mailbox_blocks_photo :
    Announced plainServices (.initial, none) (sources .initial) ∧
      ((mailboxAndPhoto.task plainServices).exec noFaults .initial).1 =
        .error (.invalidInput "mbox_delimiter_missing") ∧
      (mailboxAndPhoto.task plainServices).exec noFaults blocked =
        (.error (.invalidInput "mbox_delimiter_missing"), blocked) ∧
      blocked.commandReceipts.find? (.above 1) = none ∧
      blocked.localSources.find? (.named .image (.above 1) 1) = none ∧
      ((blocked.localSources.find? (.named .mbox (.above 1) 0)).map (·.status)) = some .imported ∧
      blocked.evidenceGeneration = ImportTables.initial.evidenceGeneration := by
  refine ⟨.initial, ?_⟩
  refine ⟨rfl, rfl, ?_⟩
  decide

def photoAlone : ImportRequest :=
  .importLocal (.above 1) ["photo"] fun _ => fileOf .image 4 [2]

theorem photoAlone_canRun :
    CanRun plainServices (sources .initial) .initial photoAlone where
  supported := fun path _ metadata hmetadata _ _ => rfl
  fine := by
    refine ⟨fun visit hvisit => ?_, List.pairwise_singleton ..⟩
    obtain rfl := List.mem_singleton.mp hvisit
    exact ⟨fun stored hstored => (nomatch hstored), fun hkind => (nomatch hkind)⟩
  counts := .inl ⟨_, List.mem_singleton_self _, trivial⟩

/-- A photo is imported, at the first attempt and whenever the request is repeated. -/
theorem photo_carried_out :
    ∃ response t', (photoAlone.task plainServices).exec noFaults .initial = (.ok response, t') ∧
      CarriedOut plainServices photoAlone response t' := by
  obtain ⟨response, t', hexec, ⟨receipt, hreceipt, -⟩ | ⟨-, hdone⟩⟩ :=
    retry_completes plainServices_dependable .initial photoAlone photoAlone_canRun
  · cases hreceipt
  · exact ⟨response, t', hexec, hdone⟩

end RetryExample

end Threadbook.Imports
