import Threadbook.Attire.TryOnRuns
import Threadbook.Attire.TryOnShown

/-!
# One page, many moments

While a page is read, other calls commit. The page shows one moment between its first statement and
its last, and shows the job that was submitted last, if the run is quiet
(`TryOnPageRun.Quiet`, **`page_shows_one_moment`**). Else the statements may disagree: a job that
was submitted after the revision was read is shown with a revision it was never there with
(**`submitted_while_shown`**).
-/

namespace Threadbook.TryOn

open Table List Fallible
open Catalog (CatalogServices)
open Outfits (OutfitId maxStoredRevision)

variable {services : TryOnServices} {h h' : TryOnHistory}

/-! ## What work keeps -/

theorem WorkStep.onward (hstep : WorkStep services h h') : Onward h.tables h'.tables := by
  cases hstep with
  | operation operation result tables run => exact operation_onward run
  | files files => exact .refl _

theorem WorkSteps.onward (hsteps : WorkSteps services h h') : Onward h.tables h'.tables := by
  induction hsteps with
  | refl => exact .refl _
  | tail _ hstep ih => exact ih.trans _ _ _ hstep.onward

theorem WorkSteps.views (hsteps : WorkSteps services h h') (jobId : TryOnJobId) :
    Moves (h.tables.view jobId) (h'.tables.view jobId) := by
  induction hsteps with
  | refl => exact .refl
  | tail _ hstep ih =>
    refine ih.trans ?_
    cases hstep with
    | operation operation result tables run => exact (operation_moved run).views jobId
    | files files => exact .refl

theorem WorkSteps.changes (hsteps : WorkSteps services h h') :
    TryOnChanges services h.toTryOnStore h'.toTryOnStore := by
  induction hsteps with
  | refl => exact .refl
  | tail _ hstep ih =>
    refine ih.tail ?_
    cases hstep with
    | operation operation result tables run => exact .operation operation result tables run
    | files files => exact .edited _ (.refl _)

variable {jobId : TryOnJobId} {outfitId : OutfitId}

theorem WorkSteps.job (hsteps : WorkSteps services h h') {job : TryOnJobRow}
    (hjob : h.tables.jobs.find? jobId = some job) :
    ∃ job', h'.tables.jobs.find? jobId = some job' ∧ job'.approvalId = job.approvalId := by
  have hview : (h.tables.view jobId).job = some job := hjob
  obtain ⟨job', hjob', -, happroval⟩ := Moves.job (hsteps.views jobId) hview
  exact ⟨job', hjob', happroval⟩

/-! ## The job submitted last -/

def TryOnTables.ofOutfit (t : TryOnTables) (outfitId : OutfitId) (jobId : TryOnJobId) : Bool :=
  (t.jobs.find? jobId).any fun job =>
    (t.approvals.find? job.approvalId).any fun approval => approval.outfitId = outfitId

def TryOnHistory.lastSubmitted (h : TryOnHistory) (outfitId : OutfitId) : Option TryOnJobId :=
  (h.submitted.filter (h.tables.ofOutfit outfitId)).getLast?

theorem ofOutfit_eq_true {t : TryOnTables} :
    t.ofOutfit outfitId jobId ↔ ∃ job approval, t.jobs.find? jobId = some job ∧
      t.approvals.find? job.approvalId = some approval ∧ approval.outfitId = outfitId := by
  simp only [TryOnTables.ofOutfit, Option.any_eq_true, decide_eq_true_eq]
  constructor
  · rintro ⟨job, hjob, approval, happroval, houtfit⟩
    exact ⟨job, approval, hjob, happroval, houtfit⟩
  · rintro ⟨job, approval, hjob, happroval, houtfit⟩
    exact ⟨job, hjob, approval, happroval, houtfit⟩

theorem mem_outfitJobs {t : TryOnTables} {entry : TryOnJobId × TryOnJobRow} :
    entry ∈ outfitJobs t outfitId ↔
      t.jobs.find? entry.1 = some entry.2 ∧ t.ofOutfit outfitId entry.1 := by
  rw [outfitJobs, mem_filter, mem_rows]
  refine and_congr_right fun hjob => ?_
  rw [TryOnTables.ofOutfit, hjob]
  rfl

theorem lastSubmitted_ofOutfit (hlast : h.lastSubmitted outfitId = some jobId) :
    h.tables.ofOutfit outfitId jobId :=
  (mem_filter.mp (mem_of_getLast? hlast)).2

theorem WorkSteps.ofOutfit (hsteps : WorkSteps services h h')
    (houtfit : h.tables.ofOutfit outfitId jobId) : h'.tables.ofOutfit outfitId jobId := by
  obtain ⟨job, approval, hjob, happroval, houtfit⟩ := ofOutfit_eq_true.mp houtfit
  obtain ⟨job', hjob', hsame⟩ := hsteps.job hjob
  obtain ⟨approval', happroval', hsameOutfit⟩ := hsteps.onward.approvals _ approval happroval
  exact ofOutfit_eq_true.mpr ⟨job', approval', hjob', hsame ▸ happroval',
    hsameOutfit.trans houtfit⟩

theorem shownBefore_eq_true {services : TryOnPageServices} {a b : TryOnJobId × TryOnJobRow} :
    shownBefore services a b ↔ b.2.createdAtMs < a.2.createdAtMs ∨
      b.2.createdAtMs = a.2.createdAtMs ∧ services.jobIdText b.1 ≤ services.jobIdText a.1 := by
  simp only [shownBefore, Bool.or_eq_true, Bool.and_eq_true, decide_eq_true_eq, beq_iff_eq]

theorem head_shownBefore {services : TryOnPageServices}
    {entries : List (TryOnJobId × TryOnJobRow)} {entry : TryOnJobId × TryOnJobRow}
    (hhead : (entries.mergeSort (shownBefore services)).head? = some entry) :
    ∀ other ∈ entries, other ≠ entry → shownBefore services entry other := by
  have hsorted : (entries.mergeSort (shownBefore services)).Pairwise
      fun a b => shownBefore services a b := pairwise_mergeSort
    (fun a b c hab hbc => by
      rw [shownBefore_eq_true] at hab hbc ⊢
      obtain hab | ⟨hab, htext⟩ := hab <;> obtain hbc | ⟨hbc, htext'⟩ := hbc
      · exact .inl (hbc.trans hab)
      · exact .inl (hbc ▸ hab)
      · exact .inl (hab ▸ hbc)
      · exact .inr ⟨hbc.trans hab, htext'.trans htext⟩)
    (fun a b => by
      rw [Bool.or_eq_true, shownBefore_eq_true, shownBefore_eq_true]
      obtain hlt | heq | hgt := lt_trichotomy a.2.createdAtMs b.2.createdAtMs
      · exact .inr (.inl hlt)
      · obtain htext | htext := le_total (services.jobIdText a.1) (services.jobIdText b.1)
        · exact .inr (.inr ⟨heq, htext⟩)
        · exact .inl (.inr ⟨heq.symm, htext⟩)
      · exact .inl (.inl hgt)) entries
  obtain ⟨rest, hrest⟩ := head?_eq_some_iff.mp hhead
  intro other hother hne
  have hmem : other ∈ entries.mergeSort (shownBefore services) := mem_mergeSort.mpr hother
  rw [hrest] at hsorted hmem
  exact (pairwise_cons.mp hsorted).1 other ((mem_cons.mp hmem).resolve_left hne)

/-- **The latest job** is the one submitted last, if none comes before it. -/
theorem latestJobId_eq_lastSubmitted {services : TryOnPageServices}
    (hsound : HistorySound services.toTryOnServices h)
    (hlatest : ∀ jobId job, h.lastSubmitted outfitId = some jobId →
      h.tables.jobs.find? jobId = some job → ∀ entry ∈ outfitJobs h.tables outfitId,
        entry.1 ≠ jobId → shownBefore services entry (jobId, job) = false) :
    latestJobId services h.tables outfitId = h.lastSubmitted outfitId := by
  cases hlast : h.lastSubmitted outfitId with
  | none =>
    -- every job was submitted
    have hnone : outfitJobs h.tables outfitId = [] := by
      rw [eq_nil_iff_forall_not_mem]
      intro entry hentry
      obtain ⟨hjob, houtfit⟩ := mem_outfitJobs.mp hentry
      rw [TryOnHistory.lastSubmitted, getLast?_eq_none_iff, filter_eq_nil_iff] at hlast
      exact hlast entry.1 (hsound.submitted entry.1 entry.2 hjob) houtfit
    rw [latestJobId, hnone, mergeSort_nil]
    rfl
  | some jobId =>
    have houtfit := lastSubmitted_ofOutfit hlast
    obtain ⟨job, -, hjob, -⟩ := ofOutfit_eq_true.mp houtfit
    have hmem : (jobId, job) ∈ outfitJobs h.tables outfitId := mem_outfitJobs.mpr ⟨hjob, houtfit⟩
    rw [latestJobId, Option.map_eq_some_iff]
    cases hhead : ((outfitJobs h.tables outfitId).mergeSort (shownBefore services)).head? with
    | none =>
      rw [head?_eq_none_iff] at hhead
      have hsome : (jobId, job) ∈ (outfitJobs h.tables outfitId).mergeSort (shownBefore services) :=
        mem_mergeSort.mpr hmem
      rw [hhead] at hsome
      cases hsome
    | some entry =>
      refine ⟨entry, rfl, ?_⟩
      by_contra hne
      have hentry : entry ∈ outfitJobs h.tables outfitId :=
        mem_mergeSort.mp (mem_of_head? hhead)
      have hbefore := head_shownBefore hhead (jobId, job) hmem fun heq => hne (by rw [← heq])
      rw [hlatest jobId job hlast hjob entry hentry hne] at hbefore
      cases hbefore

/-! ## Runs -/

structure TryOnPageRun (services : TryOnServices) where
  states : ℕ → TryOnHistory
  steps : ∀ i, states (i + 1) = states i ∨ WorkStep services (states i) (states (i + 1))
  named : ℕ
  revised : ℕ
  found : ℕ
  shown : ℕ
  stored : ℕ
  worn : ℕ
  inOrder : named ≤ revised ∧ revised ≤ found ∧ found ≤ shown ∧ shown ≤ stored ∧ stored ≤ worn

namespace TryOnPageRun

def reads (run : TryOnPageRun services) : TryOnPageReads where
  named := (run.states run.named).toTryOnStore
  revised := (run.states run.revised).toTryOnStore
  found := (run.states run.found).toTryOnStore
  shown := (run.states run.shown).toTryOnStore
  stored := (run.states run.stored).toTryOnStore
  worn := (run.states run.worn).toTryOnStore

theorem between (run : TryOnPageRun services) {i j : ℕ} (hle : i ≤ j) :
    WorkSteps services (run.states i) (run.states j) := by
  induction hle with
  | refl => exact .refl
  | step _ ih =>
    obtain hsame | hstep := run.steps _
    · rw [Nat.succ_eq_add_one, hsame]
      exact ih
    · exact ih.tail hstep

end TryOnPageRun

structure Shows (services : TryOnPageServices) (h : TryOnHistory) (request : GetOutfitTryOnV1Request)
    (response : GetOutfitTryOnV1Response) : Prop where
  requestId : response.requestId = request.requestId
  outfitId : response.outfitId = request.outfitId
  name : (h.tables.outfits.outfits.find? request.outfitId).map (·.name) = some response.outfitName
  revision : response.tryOnRevision = h.tables.tryOnRevision
  unused : h.lastSubmitted request.outfitId = none →
    response.latestJob = none ∧ response.output = none ∧ response.garmentSources = []
  latest : ∀ jobId, h.lastSubmitted request.outfitId = some jobId →
    ∃ row job, h.tables.jobs.find? jobId = some row ∧ response.latestJob = some job ∧
      ShowsJob services jobId row job ∧ job.outfitId = request.outfitId ∧
      (row.state = .succeeded → ∃ stored output, h.tables.outputs.find? ⟨jobId⟩ = some stored ∧
        response.output = some output ∧ ShowsOutput services jobId stored output ∧
        output.outfitId = request.outfitId) ∧
      (row.state ≠ .succeeded → response.output = none) ∧
      List.Forall₂ (ShowsGarment services) (garmentRows h.tables row.approvalId)
        response.garmentSources

/-- Nothing comes between the statements that they would disagree about. -/
structure TryOnPageRun.Quiet (services : TryOnPageServices)
    (run : TryOnPageRun services.toTryOnServices) (outfitId : OutfitId) : Prop where
  latest : ∀ jobId job, (run.states run.found).lastSubmitted outfitId = some jobId →
    (run.states run.found).tables.jobs.find? jobId = some job →
      ∀ entry ∈ outfitJobs (run.states run.found).tables outfitId, entry.1 ≠ jobId →
        shownBefore services entry (jobId, job) = false
  moment : ∃ moment, run.named ≤ moment ∧ moment ≤ run.shown ∧
    (run.states moment).tables.tryOnRevision = (run.states run.revised).tables.tryOnRevision ∧
    (run.states moment).lastSubmitted outfitId = (run.states run.found).lastSubmitted outfitId ∧
    ∀ jobId, (run.states run.found).lastSubmitted outfitId = some jobId →
      (run.states moment).tables.jobs.find? jobId = (run.states run.shown).tables.jobs.find? jobId
  settled : ∀ jobId job, (run.states run.found).lastSubmitted outfitId = some jobId →
    (run.states run.shown).tables.jobs.find? jobId = some job → job.state ≠ .succeeded →
      (run.states run.stored).tables.outputs.find? ⟨jobId⟩ = none
  times : ∀ jobId job, (run.states run.found).lastSubmitted outfitId = some jobId →
    (run.states run.shown).tables.jobs.find? jobId = some job →
      Shown services job.createdAtMs ∧ Shown services job.updatedAtMs ∧
      ∀ output, (run.states run.shown).tables.outputs.find? ⟨jobId⟩ = some output →
        Shown services output.createdAtMs

theorem WorkSteps.garmentRows (hsteps : WorkSteps services h h')
    (hsound : HistorySound services h) {approvalId : TryOnApprovalId}
    (happroval : (h.tables.approvals.find? approvalId).isSome) :
    garmentRows h'.tables approvalId = TryOn.garmentRows h.tables approvalId := by
  obtain ⟨assets, response, hbound⟩ : ∃ assets response,
      Bound services h.tables approvalId assets response := by
    refine hsound.bound.bound approvalId ?_
    rwa [TryOnTables.approvalView, Option.isSome_map]
  have hkept : Bound services h'.tables approvalId assets response :=
    Bound.keep (s := h.toTryOnStore) (u := h'.toTryOnStore) hbound hsteps.changes
  rw [TryOn.garmentRows, TryOn.garmentRows, hbound.rows, hkept.rows]

theorem WorkSteps.output (hsteps : WorkSteps services h h') (hsound : HistorySound services h)
    {job : TryOnJobRow} (hjob : h.tables.jobs.find? jobId = some job)
    (hstate : job.state = .succeeded) :
    ∃ output, h.tables.outputs.find? ⟨jobId⟩ = some output ∧
      h'.tables.outputs.find? ⟨jobId⟩ = some output ∧ 0 < output.byteLength ∧
      output.byteLength ≤ maxTryOnOutputBytes := by
  obtain ⟨output, houtput, hpos, hmax⟩ := (hsound.views jobId).outputLength hjob hstate
  exact ⟨output, houtput, Moves.output (hsteps.views jobId) houtput, hpos, hmax⟩

section Page

variable {services : TryOnPageServices} {run : TryOnPageRun services.toTryOnServices}
  {request : GetOutfitTryOnV1Request} {outfitId : OutfitId}

theorem TryOnPageRun.sound (run : TryOnPageRun services.toTryOnServices)
    (hsound : HistorySound services.toTryOnServices (run.states run.named)) {i : ℕ}
    (hi : run.named ≤ i) : HistorySound services.toTryOnServices (run.states i) :=
  (run.between hi).sound hsound

variable {jobId : TryOnJobId}

/-- **The job submitted last** is shown, and passes the checks. -/
theorem TryOnPageRun.Quiet.job (hquiet : run.Quiet services outfitId)
    (hsound : HistorySound services.toTryOnServices (run.states run.named))
    (hlast : (run.states run.found).lastSubmitted outfitId = some jobId) :
    ∃ row job, (run.states run.shown).tables.jobs.find? jobId = some row ∧
      loadJob services (run.states run.shown).tables jobId = .ok job ∧
      ShowsJob services jobId row job ∧ job.outfitId = outfitId ∧ job.validate = .ok () := by
  obtain ⟨hrevised, hfound, hshown, -⟩ := run.inOrder
  have hsoundShown := run.sound hsound (hrevised.trans (hfound.trans hshown))
  have houtfit := (run.between hshown).ofOutfit (lastSubmitted_ofOutfit hlast)
  obtain ⟨row, approval, hrow, happroval, rfl⟩ := ofOutfit_eq_true.mp houtfit
  obtain ⟨hcreated, hupdated, -⟩ := hquiet.times jobId row hlast hrow
  obtain ⟨job, hload, hshows, hof, hvalid⟩ := loadJob_shows hrow happroval
    ((hsoundShown.views jobId).allowed row hrow) (hsoundShown.counted jobId row hrow) hcreated
    hupdated
  exact ⟨row, job, hrow, hload, hshows, hof, hvalid⟩

/-- **Its output** is shown just when it succeeded. -/
theorem TryOnPageRun.Quiet.output (hquiet : run.Quiet services outfitId)
    (hsound : HistorySound services.toTryOnServices (run.states run.named))
    (hintact : Intact services (run.states run.stored).toTryOnStore)
    (hlast : (run.states run.found).lastSubmitted outfitId = some jobId) {row : TryOnJobRow}
    (hrow : (run.states run.shown).tables.jobs.find? jobId = some row) {job : TryOnJobV1}
    (hshows : ShowsJob services jobId row job) :
    ∃ output, loadOutput services (run.states run.stored).files (run.states run.stored).tables
        jobId = .ok output ∧
      (row.state = .succeeded → ∃ stored shown,
        (run.states run.shown).tables.outputs.find? ⟨jobId⟩ = some stored ∧
        output = some shown ∧ ShowsOutput services jobId stored shown ∧
        shown.outfitId = outfitId) ∧
      (row.state ≠ .succeeded → output = none) ∧
      validateJobOutput services outfitId job output = .ok () := by
  obtain ⟨hrevised, hfound, hshown, hstored, -⟩ := run.inOrder
  have hsoundShown := run.sound hsound (hrevised.trans (hfound.trans hshown))
  have houtfit := (run.between (hshown.trans hstored)).ofOutfit (lastSubmitted_ofOutfit hlast)
  by_cases hstate : row.state = .succeeded
  · obtain ⟨-, -, htimes⟩ := hquiet.times jobId row hlast hrow
    obtain ⟨stored, hbefore, hafter, hpos, hmax⟩ :=
      (run.between hstored).output hsoundShown hrow hstate
    obtain ⟨later, approval, hlater, happroval, rfl⟩ := ofOutfit_eq_true.mp houtfit
    obtain ⟨shown, hload, hshown, hof, hvalid⟩ := loadOutput_shows hintact hlater happroval hafter
      hpos hmax (htimes stored hbefore)
    refine ⟨some shown, hload, fun _ => ⟨stored, shown, hbefore, rfl, hshown, hof⟩,
      fun hnot => absurd hstate hnot, ?_⟩
    rw [validateJobOutput, if_pos (hshows.state.trans hstate), check_then_eq_ok]
    exact ⟨hvalid, if_pos ⟨hshown.jobId.trans hshows.jobId.symm, hof⟩⟩
  · have hnone := hquiet.settled jobId row hlast hrow hstate
    refine ⟨none, ?_, fun hdone => absurd hdone hstate, fun _ => rfl, ?_⟩
    · rw [loadOutput, hnone]
    · exact if_neg (hshows.state ▸ hstate)

/-- **The garments of its approval** are shown. -/
theorem TryOnPageRun.garments (run : TryOnPageRun services.toTryOnServices)
    (hsound : HistorySound services.toTryOnServices (run.states run.named))
    (hintact : Intact services (run.states run.worn).toTryOnStore)
    (hlast : (run.states run.found).lastSubmitted outfitId = some jobId) {row : TryOnJobRow}
    (hrow : (run.states run.shown).tables.jobs.find? jobId = some row) :
    ∃ sources, loadGarmentSources services (run.states run.worn).files
        (run.states run.worn).tables jobId = .ok sources ∧
      List.Forall₂ (ShowsGarment services)
        (garmentRows (run.states run.worn).tables row.approvalId) sources ∧
      tryOnMinGarments ≤ sources.length ∧ sources.length ≤ tryOnMaxGarments ∧
      validateGarmentSources services 0 [] sources = .ok () := by
  obtain ⟨hrevised, hfound, hshown, hstored, hworn⟩ := run.inOrder
  have hsoundWorn :=
    run.sound hsound (hrevised.trans (hfound.trans (hshown.trans (hstored.trans hworn))))
  have houtfit :=
    (run.between (hshown.trans (hstored.trans hworn))).ofOutfit (lastSubmitted_ofOutfit hlast)
  obtain ⟨later, approval, hlater, happroval, -⟩ := ofOutfit_eq_true.mp houtfit
  obtain ⟨job', hjob', hsame⟩ := (run.between (hstored.trans hworn)).job hrow
  obtain rfl : job' = later := Option.mem_unique hjob' hlater
  rw [← hsame]
  exact loadGarmentSources_shows hintact hsoundWorn.showable hsoundWorn.bound hlater
    (Option.isSome_of_mem happroval)

def pageOf (request : GetOutfitTryOnV1Request) (outfitName : String) (tryOnRevision : ℕ)
    (latest : TryOnLatest) : GetOutfitTryOnV1Response where
  schemaVersion := schemaVersionV1
  requestId := request.requestId
  outfitId := request.outfitId
  outfitName
  latestJob := latest.job
  output := latest.output
  garmentSources := latest.garmentSources
  tryOnRevision

theorem getOutfitTryOn_eq_ok {reads : TryOnPageReads} {outfit : Outfits.OutfitRow}
    {latest : TryOnLatest} (hrequest : request.validate = .ok ())
    (houtfit : reads.named.tables.outfits.outfits.find? request.outfitId = some outfit)
    (hlatest : loadLatest services request.outfitId reads = .ok latest)
    (hvalid : (pageOf request outfit.name reads.revised.tables.tryOnRevision latest).validate
      services = .ok ()) :
    getOutfitTryOn services request reads =
      .ok (pageOf request outfit.name reads.revised.tables.tryOnRevision latest) := by
  rw [getOutfitTryOn, check_then_eq_ok, check_mapError_eq_ok]
  refine ⟨hrequest, ?_⟩
  simp only [houtfit, hlatest]
  change (do ((pageOf request outfit.name reads.revised.tables.tryOnRevision latest).validate
    services).mapError _; Except.ok _) = _
  rw [hvalid]
  rfl

theorem page_validate {outfitName : String} {tryOnRevision : ℕ} {latest : TryOnLatest}
    (hname : isBoundedDisplayName outfitName) (hrevision : tryOnRevision ≤ maxStoredRevision)
    (hnone : latest.job = none → latest.output = none ∧ latest.garmentSources = [])
    (hsome : ∀ job, latest.job = some job → job.validate = .ok () ∧
      job.outfitId = request.outfitId ∧ tryOnMinGarments ≤ latest.garmentSources.length ∧
      latest.garmentSources.length ≤ tryOnMaxGarments ∧
      validateGarmentSources services 0 [] latest.garmentSources = .ok () ∧
      validateJobOutput services request.outfitId job latest.output = .ok ()) :
    (pageOf request outfitName tryOnRevision latest).validate services = .ok () := by
  have hbounded : ¬ maxSafeIntegerV1 ≤ tryOnRevision := by
    rw [maxStoredRevision] at hrevision
    rw [maxSafeIntegerV1]
    omega
  rw [GetOutfitTryOnV1Response.validate, check_then_eq_ok, check_unless_eq_ok]
  refine ⟨rfl, not_or.mpr ⟨not_not.mpr hname, hbounded⟩, ?_⟩
  cases hjob : latest.job with
  | none =>
    obtain ⟨houtput, hgarments⟩ := hnone hjob
    simp [pageOf, hjob, houtput, hgarments]
  | some job =>
    obtain ⟨hvalid, hof, hmin, hmax, hgarments, houtput⟩ := hsome job hjob
    simp only [pageOf, hjob]
    rw [check_then_eq_ok, check_unless_eq_ok, check_then_eq_ok]
    exact ⟨hvalid, not_or.mpr ⟨not_not.mpr hof, not_not.mpr ⟨hmin, hmax⟩⟩, hgarments, houtput⟩

/-- **The page shows one moment.** In every history, whatever calls commit between its statements,
the page of an outfit that is there is shown if the run is quiet, and all of it is that of one
moment between the first statement and the last: the job submitted last, its output just when it
succeeded, and the garments of its approval. -/
theorem page_shows_one_moment {catalogServices : CatalogServices} {h₀ : TryOnHistory}
    (hfresh : h₀.Fresh) (run : TryOnPageRun services.toTryOnServices)
    (hreached : HistorySteps services.toTryOnServices catalogServices h₀ (run.states run.named))
    (request : GetOutfitTryOnV1Request) (hrequest : request.validate = .ok ())
    (hexists :
      ((run.states run.named).tables.outfits.outfits.find? request.outfitId).isSome)
    (hintact : ∀ i, run.named ≤ i → i ≤ run.worn →
      Intact services (run.states i).toTryOnStore)
    (hquiet : run.Quiet services request.outfitId) :
    ∃ response, getOutfitTryOn services request run.reads = .ok response ∧
      ∃ moment, run.named ≤ moment ∧ moment ≤ run.worn ∧
        Shows services (run.states moment) request response := by
  have hsound := hreached.sound hfresh.sound
  obtain ⟨hrevised, hfound, hshown, hstored, hworn⟩ := run.inOrder
  obtain ⟨outfit, houtfit⟩ := Option.isSome_iff_exists.mp hexists
  have hname := isBoundedDisplayName_of_allowed (hsound.kept.outfits _ outfit houtfit)
  have hlatest := latestJobId_eq_lastSubmitted
    (run.sound hsound (hrevised.trans hfound)) hquiet.latest
  obtain ⟨moment, hfrom, hto, hrevision, hsame, hrows⟩ := hquiet.moment
  have hmoment := run.sound hsound hfrom
  have hlast : moment ≤ run.worn := hto.trans (hstored.trans hworn)
  have hbounded := (run.sound hsound hrevised).revision
  -- outfits are the same all along
  have houtfits : (run.states moment).tables.outfits.outfits.find? request.outfitId =
      some outfit := by
    rw [(run.between hfrom).onward.outfits]
    exact houtfit
  cases hfoundJob : (run.states run.found).lastSubmitted request.outfitId with
  | none =>
    have hload : loadLatest services request.outfitId run.reads = .ok ⟨none, none, []⟩ := by
      have hread : latestJobId services run.reads.found.tables request.outfitId = none :=
        hlatest.trans hfoundJob
      rw [loadLatest, hread]
    refine ⟨_, getOutfitTryOn_eq_ok hrequest houtfit hload (page_validate hname hbounded
      (fun _ => ⟨rfl, rfl⟩) fun job hjob => by cases hjob), moment, hfrom, hlast, ?_⟩
    refine ⟨rfl, rfl, by rw [houtfits]; rfl, hrevision.symm, fun _ => ⟨rfl, rfl, rfl⟩,
      fun jobId hsome => ?_⟩
    rw [hsame, hfoundJob] at hsome
    cases hsome
  | some jobId =>
    obtain ⟨row, job, hrow, hloadJob, hshows, hof, hvalid⟩ := hquiet.job hsound hfoundJob
    obtain ⟨output, hloadOutput, hdone, hundone, hjobOutput⟩ := hquiet.output hsound
      (hintact _ (hrevised.trans (hfound.trans (hshown.trans hstored))) hworn) hfoundJob hrow hshows
    obtain ⟨sources, hloadSources, hgarments, hmin, hmax, hsources⟩ := run.garments hsound
      (hintact _ (hfrom.trans hlast) le_rfl) hfoundJob hrow
    have hload : loadLatest services request.outfitId run.reads =
        .ok ⟨some job, output, sources⟩ := by
      have hread : latestJobId services run.reads.found.tables request.outfitId = some jobId :=
        hlatest.trans hfoundJob
      rw [loadLatest, hread]
      change (do
        let job ← loadJob services (run.states run.shown).tables jobId
        let output ← loadOutput services (run.states run.stored).files
          (run.states run.stored).tables jobId
        let garmentSources ← loadGarmentSources services (run.states run.worn).files
          (run.states run.worn).tables jobId
        Except.ok (TryOnLatest.mk (some job) output garmentSources)) = _
      rw [hloadJob, hloadOutput, hloadSources]
      rfl
    have hcheck : ∀ other, some job = some other → other.validate = .ok () ∧
        other.outfitId = request.outfitId ∧ tryOnMinGarments ≤ sources.length ∧
        sources.length ≤ tryOnMaxGarments ∧ validateGarmentSources services 0 [] sources = .ok () ∧
        validateJobOutput services request.outfitId other output = .ok () := by
      intro other hother
      obtain rfl := Option.some.inj hother
      exact ⟨hvalid, hof, hmin, hmax, hsources, hjobOutput⟩
    refine ⟨_, getOutfitTryOn_eq_ok hrequest houtfit hload (page_validate hname hbounded
      (fun hnone => by cases hnone) hcheck), moment, hfrom, hlast, ?_⟩
    refine ⟨rfl, rfl, by rw [houtfits]; rfl, hrevision.symm, fun hnone => ?_, fun other hsome => ?_⟩
    · rw [hsame, hfoundJob] at hnone
      cases hnone
    · obtain rfl : jobId = other := by
        rw [hsame, hfoundJob] at hsome
        exact Option.some.inj hsome
      have hrowThen : (run.states moment).tables.jobs.find? jobId = some row :=
        (hrows jobId hfoundJob).trans hrow
      refine ⟨row, job, hrowThen, rfl, hshows, hof, fun hstate => ?_, hundone, ?_⟩
      · -- the output it had then is the one it has when it is looked up
        obtain ⟨stored, shown, hstored, rfl, hshown⟩ := hdone hstate
        obtain ⟨before, hbefore, hafter, -⟩ := (run.between hto).output hmoment hrowThen hstate
        obtain rfl : before = stored := Option.some.inj (hafter.symm.trans hstored)
        exact ⟨before, shown, hbefore, rfl, hshown⟩
      · have houtfitThen := lastSubmitted_ofOutfit hsome
        obtain ⟨found, approval, hfound, happroval, -⟩ := ofOutfit_eq_true.mp houtfitThen
        obtain rfl : row = found := Option.some.inj (hrowThen.symm.trans hfound)
        rw [← (run.between hlast).garmentRows hmoment (Option.isSome_of_mem happroval)]
        exact hgarments

end Page

/-! ## A page that shows no moment

The outfit is previewed and its job submitted after the revision was read and before the job is
looked up.
-/

namespace Example

def pageServices : TryOnPageServices :=
  { countServices with pngSize := fun _ => some (tryOnOutputWidth, tryOnOutputHeight) }

def commit {β : Type} (operation : TryOnOperation β) (h : TryOnHistory) : TryOnHistory :=
  ⟨⟨(operation.run countServices h.files h.tables).2, h.files⟩,
    h.submitted ++ operation.submits h.tables (operation.run countServices h.files h.tables).2⟩

theorem commit_step {β : Type} (operation : TryOnOperation β) (h : TryOnHistory) :
    WorkStep countServices h (commit operation h) :=
  .operation operation (operation.run countServices h.files h.tables).1 _ rfl

/-- Nothing is previewed. -/
def unused : TryOnHistory := ⟨store, []⟩

def previewed : TryOnHistory := commit (.preview previewRequest 0) unused

def spent : TryOnHistory := commit (.submit submitRequest 0) previewed

theorem unused_fresh : unused.Fresh where
  kept := by
    have houtfits : tables.outfits.outfits.rows.all (fun entry => entry.2.allowed) = true := by
      decide +kernel
    have hmembers : tables.outfits.members.rows.all (fun entry => entry.2.allowed entry.1.2 &&
        entry.2.attributes.validate.isOk) = true := by
      decide +kernel
    refine ⟨fun outfitId row hrow => all_eq_true.mp houtfits _ (mem_rows.mpr hrow),
      fun key row hrow => ?_⟩
    have hrow := all_eq_true.mp hmembers (key, row) (mem_rows.mpr hrow)
    rw [Bool.and_eq_true] at hrow
    refine ⟨hrow.1, ?_⟩
    cases hvalid : row.attributes.validate with
    | ok u => rfl
    | error e => simp [hvalid, Except.isOk, Except.toBool] at hrow
  store := store_fresh
  views _ := rfl
  revision := Nat.zero_le _
  submitted := rfl

def busyRun : TryOnPageRun countServices where
  states
    | 0 => unused
    | 1 => previewed
    | _ + 2 => spent
  steps
    | 0 => .inr (commit_step _ _)
    | 1 => .inr (commit_step _ _)
    | _ + 2 => .inl rfl
  named := 0
  revised := 0
  found := 2
  shown := 2
  stored := 2
  worn := 2
  inOrder := by decide

theorem busyRun_states (i : ℕ) : busyRun.states (i + 2) = spent := rfl

def isIntact (s : TryOnStore) : Bool :=
  s.tables.outputs.rows.isEmpty && s.tables.assets.rows.all fun entry =>
    match verifySourceImage countServices.toImageServices s.files entry.2.parentBlobSha256
        entry.2.parentByteLength with
    | .error _ => false
    | .ok image => image.mediaType.text = entry.2.parentMediaType ∧
        image.width = entry.2.parentWidth ∧ image.height = entry.2.parentHeight

theorem intact_of_isIntact {s : TryOnStore} (h : isIntact s = true) : Intact pageServices s where
  garments key row hrow _ := by
    rw [isIntact, Bool.and_eq_true] at h
    have hentry := List.all_eq_true.mp h.2 (key, row) (mem_rows.mpr hrow)
    simp only at hentry
    split at hentry
    · cases hentry
    · rename_i image himage
      exact ⟨image, himage, of_decide_eq_true hentry⟩
  outputs outputId row hrow := by
    rw [isIntact, Bool.and_eq_true, List.isEmpty_iff] at h
    have hmem := mem_rows.mpr hrow
    rw [h.1] at hmem
    cases hmem

theorem spent_facts : isIntact unused.toTryOnStore = true ∧ isIntact previewed.toTryOnStore = true ∧
    isIntact spent.toTryOnStore = true ∧ spent.tables.tryOnRevision ≠ 0 ∧
    (∀ jobId job, spent.tables.jobs.find? jobId = some job → jobId = ⟨.above 6⟩) ∧
    spent.submitted = [⟨.above 6⟩] ∧ spent.tables.ofOutfit (.above 1) ⟨.above 6⟩ = true ∧
    (spent.tables.outfits.outfits.find? (.above 1)).isSome = true := by
  have hall : (isIntact unused.toTryOnStore && isIntact previewed.toTryOnStore &&
      isIntact spent.toTryOnStore && spent.tables.tryOnRevision != 0 &&
      spent.tables.jobs.rows.all (fun entry => entry.1 == ⟨.above 6⟩) &&
      spent.submitted == [⟨.above 6⟩] && spent.tables.ofOutfit (.above 1) ⟨.above 6⟩ &&
      (spent.tables.outfits.outfits.find? (.above 1)).isSome) = true := by
    decide +kernel
  simp only [Bool.and_eq_true, bne_iff_ne, beq_iff_eq] at hall
  obtain ⟨⟨⟨⟨⟨⟨⟨hunused, hpreviewed⟩, hspent⟩, hrevision⟩, hjobs⟩, hsubmitted⟩, houtfit⟩, hname⟩ :=
    hall
  refine ⟨hunused, hpreviewed, hspent, hrevision, fun jobId job hjob => ?_, hsubmitted, houtfit,
    hname⟩
  exact beq_iff_eq.mp (all_eq_true.mp hjobs (jobId, job) (mem_rows.mpr hjob))

theorem lastSubmitted_of_nil {h : TryOnHistory} {outfitId : OutfitId} (hnone : h.submitted = []) :
    h.lastSubmitted outfitId = none := by
  rw [TryOnHistory.lastSubmitted, hnone]
  rfl

theorem spent_lastSubmitted : spent.lastSubmitted (.above 1) = some ⟨.above 6⟩ := by
  obtain ⟨-, -, -, -, -, hsubmitted, houtfit, -⟩ := spent_facts
  rw [TryOnHistory.lastSubmitted, hsubmitted, filter_cons_of_pos houtfit]
  rfl

theorem spent_steps (catalogServices : CatalogServices) :
    HistorySteps countServices catalogServices unused spent :=
  .tail (.single (.work _ (commit_step _ _))) (.work _ (commit_step _ _))

def quietRun : TryOnPageRun countServices where
  states _ := spent
  steps _ := .inl rfl
  named := 0
  revised := 0
  found := 0
  shown := 0
  stored := 0
  worn := 0
  inOrder := by decide

theorem shown_always (milliseconds : ℤ) : Shown pageServices milliseconds :=
  ⟨_, rfl, by decide +kernel⟩

theorem quietRun_quiet : quietRun.Quiet pageServices (.above 1) where
  latest jobId job hlast _ entry hentry hne := by
    obtain ⟨-, -, -, -, hjobs, -⟩ := spent_facts
    obtain rfl := Option.some.inj (hlast.symm.trans spent_lastSubmitted)
    exact absurd (hjobs _ _ (mem_outfitJobs.mp hentry).1) hne
  moment := ⟨0, le_rfl, le_rfl, rfl, rfl, fun _ _ => rfl⟩
  settled jobId job _ _ _ := by
    obtain ⟨-, -, hintact, -⟩ := spent_facts
    rw [isIntact, Bool.and_eq_true, List.isEmpty_iff] at hintact
    by_contra hsome
    obtain ⟨row, hrow⟩ := Option.ne_none_iff_exists'.mp hsome
    have hmem := mem_rows.mpr hrow
    rw [show (quietRun.states quietRun.stored).tables = spent.tables from rfl, hintact.1] at hmem
    cases hmem
  times _ _ _ _ := ⟨shown_always _, shown_always _, fun _ _ => shown_always _⟩

def pageRequest : GetOutfitTryOnV1Request := ⟨1, .above 7, .above 1⟩

def catalogServices : CatalogServices :=
  ⟨fun bytes => String.ofList (Nat.toDigits 16 bytes.length), fun _ => []⟩

end Example

theorem waiting_job_shown : ∃ response,
    getOutfitTryOn Example.pageServices Example.pageRequest Example.quietRun.reads = .ok response ∧
      Shows Example.pageServices Example.spent Example.pageRequest response := by
  obtain ⟨-, -, hintact, -, -, -, -, hname⟩ := Example.spent_facts
  let run : TryOnPageRun Example.pageServices.toTryOnServices := Example.quietRun
  have hstates : run.states run.named = Example.spent := rfl
  have hnamed : ((run.states run.named).tables.outfits.outfits.find?
      Example.pageRequest.outfitId).isSome = true := by
    rw [hstates]
    exact hname
  obtain ⟨response, hpage, moment, -, -, hshows⟩ := @page_shows_one_moment Example.pageServices
    Example.catalogServices _ Example.unused_fresh run (Example.spent_steps _)
    Example.pageRequest rfl hnamed (fun _ _ _ => Example.intact_of_isIntact hintact)
    Example.quietRun_quiet
  exact ⟨response, hpage, hshows⟩

theorem getOutfitTryOn_reads {services : TryOnPageServices} {request : GetOutfitTryOnV1Request}
    {reads : TryOnPageReads} {response : GetOutfitTryOnV1Response}
    (h : getOutfitTryOn services request reads = .ok response) :
    response.tryOnRevision = reads.revised.tables.tryOnRevision ∧
      (response.latestJob = none →
        latestJobId services reads.found.tables request.outfitId = none) := by
  rw [getOutfitTryOn, check_then_eq_ok] at h
  obtain ⟨-, h⟩ := h
  split at h
  · cases h
  · obtain ⟨latest, hlatest, h⟩ := Threadbook.check_bind_eq_ok.mp h
    rw [check_then_eq_ok] at h
    obtain rfl := Except.ok.inj h.2
    refine ⟨rfl, fun hnone => ?_⟩
    rw [loadLatest] at hlatest
    split at hlatest
    · rename_i hfound
      exact hfound
    · obtain ⟨job, -, hlatest⟩ := Threadbook.check_bind_eq_ok.mp hlatest
      obtain ⟨output, -, hlatest⟩ := Threadbook.check_bind_eq_ok.mp hlatest
      obtain ⟨sources, -, hlatest⟩ := Threadbook.check_bind_eq_ok.mp hlatest
      cases hlatest
      cases hnone

/-- **A job submitted while the page is read** is shown with a revision from before it. -/
theorem submitted_while_shown :
    ¬ ∀ (h₀ : TryOnHistory) (run : TryOnPageRun Example.countServices)
      (request : GetOutfitTryOnV1Request), h₀.Fresh →
      HistorySteps Example.countServices Example.catalogServices h₀ (run.states run.named) →
      request.validate = .ok () →
      ((run.states run.named).tables.outfits.outfits.find? request.outfitId).isSome →
      (∀ i, run.named ≤ i → i ≤ run.worn →
        Intact Example.pageServices (run.states i).toTryOnStore) →
      ∃ response, getOutfitTryOn Example.pageServices request run.reads = .ok response ∧
        ∃ moment, run.named ≤ moment ∧ moment ≤ run.worn ∧
          Shows Example.pageServices (run.states moment) request response := by
  intro h
  obtain ⟨hunused, hpreviewed, hspent, hrevision, -, -⟩ := Example.spent_facts
  have hintact : ∀ i, Intact Example.pageServices (Example.busyRun.states i).toTryOnStore
    | 0 => Example.intact_of_isIntact hunused
    | 1 => Example.intact_of_isIntact hpreviewed
    | _ + 2 => Example.intact_of_isIntact hspent
  obtain ⟨response, hpage, moment, -, -, hshows⟩ := h Example.unused Example.busyRun
    Example.pageRequest Example.unused_fresh .refl rfl rfl fun i _ _ => hintact i
  obtain ⟨hread, hjob⟩ := getOutfitTryOn_reads hpage
  -- a job was found
  have hsound : HistorySound Example.countServices Example.spent :=
    HistorySteps.sound (Example.spent_steps Example.catalogServices)
      Example.unused_fresh.sound
  have hfound : latestJobId Example.pageServices Example.spent.tables (.above 1) ≠ none := by
    have hlatest : latestJobId Example.pageServices Example.spent.tables (.above 1) =
        Example.spent.lastSubmitted (.above 1) :=
      latestJobId_eq_lastSubmitted hsound Example.quietRun_quiet.latest
    rw [hlatest, Example.spent_lastSubmitted]
    exact Option.some_ne_none _
  have hshown : response.latestJob ≠ none := fun hnone => hfound (hjob hnone)
  rcases moment with _ | _ | i
  · exact hshown (hshows.unused (Example.lastSubmitted_of_nil rfl)).1
  · exact hshown (hshows.unused (Example.lastSubmitted_of_nil rfl)).1
  · have hsame := hshows.revision
    rw [Example.busyRun_states, hread] at hsame
    exact hrevision hsame.symm

end Threadbook.TryOn
