import Threadbook.GmailCommit

/-!
# Whole runs of commits

`HeadsCurrent` says what the two head tables are for: each head is the latest row
of the observations, or of the available revisions, it summarizes. One effect keeps
it (`headsCurrent_withEffect`), so a transaction does (`commitBatch_eq_ok` opens one
up), so every run of commits does. `commit_run_invariant` collects what holds after
each call of a run: heads, checkpoints, rollback and replay.
-/

namespace Threadbook

open Fallible Table

open Fallible (atomically_eq_ok require_bind_eq_ok state_bind bind_eq_ok rejectIf_bind_eq_ok
  bind_of_ok forEach_visits update_bind)

variable {m : Materializer} {key : SyncKey} {effect : PreparedEffect} {t t' : GmailTables}
  {operation : Option GmailOperationContext}

/-! ## Heads -/

def observedHeads (t : GmailTables) (scopeId : String) (source : ProviderSourceId) :
    Set ScopeHeadRow :=
  {head | ∃ row, t.observations.find? ⟨scopeId, source, head.headHistoryId⟩ = some row ∧
    head.accountKey = row.accountKey ∧ head.availability = row.availability}

def availableHeads (t : GmailTables) (source : ProviderSourceId) : Set SourceHeadRow :=
  {head | head.headRevision.providerSource = source ∧ head.availability = .available ∧
    (storedRevision t head.headRevision).isSome}

structure HeadsCurrent (t : GmailTables) : Prop where
  scopeHeads : ∀ scopeId source, Table.IsLatest ScopeHeadRow.headHistoryId
    (observedHeads t scopeId source) (t.scopeHeads.find? (scopeId, source))
  sourceHeads : ∀ source, Table.IsLatest (fun head => head.headRevision.historyId)
    (availableHeads t source) (t.sourceHeads.find? source)

theorem observedHeads_withEffect (hfits : ObservationFits key effect t) (scopeId : String)
    (source : ProviderSourceId) :
    observedHeads (withEffect key operation effect t) scopeId source =
      if (scopeId, source) = (key.scopeId, providerSourceId key effect.messageId) then
        insert (effectHead key effect) (observedHeads t scopeId source)
      else observedHeads t scopeId source := by
  have hget : (t.observations.find? (observationKey key effect)).getD
      (effectObservation key effect) = effectObservation key effect := getD_eq_iff.mpr hfits
  ext ⟨accountKey, historyId, availability⟩
  by_cases hkey : (⟨scopeId, source, historyId⟩ : ObservationKey) = observationKey key effect
  · -- the effect's own observation
    obtain ⟨rfl, rfl, rfl⟩ := ObservationKey.mk.inj hkey
    rw [if_pos rfl, Set.mem_insert_iff]
    simp only [observedHeads, Set.mem_ofPred_eq, withEffect_observations,
      find?_insertOrIgnore, hget]
    constructor
    · rintro ⟨row, hrow, rfl, rfl⟩
      obtain rfl := Option.some.inj ((if_pos rfl).symm.trans hrow)
      exact .inl rfl
    · rintro (heq | ⟨row, hrow, rfl, rfl⟩)
      · obtain ⟨rfl, -, rfl⟩ := ScopeHeadRow.mk.inj heq
        exact ⟨_, if_pos rfl, rfl, rfl⟩
      · obtain rfl := hfits row hrow
        exact ⟨_, if_pos rfl, rfl, rfl⟩
  · have hold : (⟨accountKey, historyId, availability⟩ : ScopeHeadRow) ∈
        observedHeads (withEffect key operation effect t) scopeId source ↔
        ⟨accountKey, historyId, availability⟩ ∈ observedHeads t scopeId source := by
      simp only [observedHeads, Set.mem_ofPred_eq, withEffect_observations,
        find?_insertOrIgnore, if_neg hkey]
    rw [hold]
    split
    · rename_i hsame
      cases hsame
      rw [Set.mem_insert_iff]
      refine ⟨.inr, fun h => h.resolve_left fun heq => hkey ?_⟩
      obtain ⟨-, rfl, -⟩ := ScopeHeadRow.mk.inj heq
      rfl
    · rfl

theorem availableHeads_withEffect (source : ProviderSourceId) :
    availableHeads (withEffect key operation effect t) source =
      if effect.availability = .available ∧ source = providerSourceId key effect.messageId then
        insert ⟨effectRevision key effect, .available⟩ (availableHeads t source)
      else availableHeads t source := by
  ext ⟨revision, availability⟩
  simp only [availableHeads, Set.mem_ofPred_eq, storedRevision_withEffect]
  by_cases hnew : effect.availability = .available ∧ source = providerSourceId key effect.messageId
  · obtain ⟨ha, rfl⟩ := hnew
    by_cases hrevision : revision = effectRevision key effect
    · subst hrevision
      simp +contextual [ha, effectRevision]
    · simp [ha, hrevision]
  · rw [if_neg hnew]
    by_cases hrevision : effect.availability = .available ∧ revision = effectRevision key effect
    · obtain ⟨ha, rfl⟩ := hrevision
      have hsource : ¬ (effectRevision key effect).providerSource = source := fun h =>
        hnew ⟨ha, h.symm⟩
      simp [hsource]
    · rw [if_neg hrevision]
      rfl

/-- **Step**: an admissible effect keeps every head current. -/
theorem headsCurrent_withEffect (h : HeadsCurrent t) (hfits : ObservationFits key effect t) :
    HeadsCurrent (withEffect key operation effect t) := by
  refine ⟨fun scopeId source => ?_, fun source => ?_⟩
  · rw [observedHeads_withEffect hfits, withEffect_scopeHeads]
    split
    · rename_i hkey
      rw [hkey]
      cases hkey
      exact isLatest_advance (h.scopeHeads _ _)
    · rename_i hkey
      rw [find?_advance_of_ne hkey]
      exact h.scopeHeads _ _
  · rw [availableHeads_withEffect]
    by_cases ha : effect.availability = .available
    · rw [withEffect_sourceHeads_of_available ha]
      split
      · rename_i hsource
        obtain ⟨-, rfl⟩ := hsource
        exact isLatest_advance (h.sourceHeads _)
      · rename_i hsource
        rw [find?_advance_of_ne fun he => hsource ⟨ha, he⟩]
        exact h.sourceHeads _
    · rw [if_neg fun hnew => ha hnew.1, withEffect_of_unavailable ha]
      exact h.sourceHeads _

/-! ## Growth -/

structure Grows (t t' : GmailTables) : Prop where
  observations : ∀ k row, t.observations.find? k = some row → t'.observations.find? k = some row
  revisions : ∀ revision row, storedRevision t revision = some row → SameRevision revision t t'
  members : ∀ k row, t.scopeSources.find? k = some row → t'.scopeSources.find? k = some row
  checkpoints : t'.checkpoints = t.checkpoints
  evidenceGeneration : t'.evidenceGeneration = t.evidenceGeneration

theorem Grows.refl (t : GmailTables) : Grows t t :=
  ⟨fun _ _ h => h, fun _ _ _ => .refl _ _, fun _ _ h => h, rfl, rfl⟩

theorem Grows.trans {t₁ t₂ t₃ : GmailTables} (h : Grows t₁ t₂) (h' : Grows t₂ t₃) : Grows t₁ t₃ := by
  refine ⟨fun k row hrow => h'.observations k row (h.observations k row hrow),
    fun revision row hrow => ?_, fun k row hrow => h'.members k row (h.members k row hrow),
    h'.checkpoints.trans h.checkpoints, h'.evidenceGeneration.trans h.evidenceGeneration⟩
  have hfirst := h.revisions revision row hrow
  exact hfirst.trans (h'.revisions revision row (hfirst.row.trans hrow))

theorem grows_withMessage (messageId : String) : Grows t (withMessage key messageId t) :=
  ⟨fun _ _ h => h, fun _ _ _ => ⟨rfl, rfl, rfl, rfl, rfl⟩,
    fun _ _ h => find?_insertOrIgnore_of_some h, rfl, rfl⟩

theorem grows_withEffect : Grows t (withEffect key operation effect t) := by
  refine ⟨fun k row h => ?_, fun revision row h => sameRevision_withEffect h, fun k row h => ?_,
    withEffect_checkpoints, withEffect_evidenceGeneration⟩
  · rw [withEffect_observations]
    exact find?_insertOrIgnore_of_some h
  · rw [withEffect_scopeSources]
    exact find?_insertOrIgnore_of_some h

/-! ## The invariant -/

structure CommitInvariant (t : GmailTables) : Prop where
  heads : HeadsCurrent t
  materializations : ∀ revision row, t.materializations.find? revision = some row →
    row.localSource = ⟨revision⟩ ∧ row.provenance = ⟨revision⟩

theorem materializations_withEffect {revision : RevisionId} {row : MaterializationRow}
    (h : (withEffect key operation effect t).materializations.find? revision = some row) :
    t.materializations.find? revision = some row ∨
      row.localSource = ⟨revision⟩ ∧ row.provenance = ⟨revision⟩ := by
  by_cases ha : effect.availability = .available
  · rw [withEffect_of_available ha] at h
    by_cases hs : (storedRevision t (effectRevision key effect)).isSome
    · rw [withRevision_of_stored (t := withMessage key effect.messageId t) hs] at h
      exact .inl h
    · rw [withRevision_of_new (t := withMessage key effect.messageId t) hs] at h
      have hput := (find?_put _ _ _ revision).symm.trans h
      split at hput
      · rename_i he
        cases hput
        exact .inr ⟨by rw [he], by rw [he]⟩
      · exact .inl hput
  · rw [withEffect_of_unavailable ha] at h
    exact .inl h

theorem commitInvariant_withEffect (h : CommitInvariant t) (hfits : ObservationFits key effect t) :
    CommitInvariant (withEffect key operation effect t) := by
  refine ⟨headsCurrent_withEffect h.heads hfits, fun revision row hrow => ?_⟩
  rcases materializations_withEffect hrow with hold | hown
  · exact h.materializations revision row hold
  · exact hown

theorem commitInvariant_withMessage (h : CommitInvariant t) (messageId : String) :
    CommitInvariant (withMessage key messageId t) :=
  ⟨⟨h.heads.scopeHeads, h.heads.sourceHeads⟩, h.materializations⟩

/-! ## The transaction -/

variable {r : GmailOperationCommit}

section Transaction

variable {batch : SyncBatch} {initialization : Option GmailScopeInitialization}

def SameButScopes (t t' : GmailTables) : Prop :=
  ∃ accounts scopes, t' = { t with accounts, scopes }

theorem initializeGmailScope_frame (i : GmailScopeInitialization) :
    Fallible.Steps SameButScopes (initializeGmailScope i) := by
  have hrefl : ∀ t, SameButScopes t t := fun t => ⟨t.accounts, t.scopes, rfl⟩
  have htrans : ∀ t₁ t₂ t₃, SameButScopes t₁ t₂ → SameButScopes t₂ t₃ → SameButScopes t₁ t₃ := by
    rintro t₁ t₂ t₃ ⟨accounts, scopes, rfl⟩ ⟨accounts', scopes', rfl⟩
    exact ⟨accounts', scopes', rfl⟩
  have haccount : Fallible.Steps SameButScopes (initializeAccount i) := by
    refine Fallible.Steps.bind htrans (Fallible.Steps.state hrefl) fun t => ?_
    split
    · exact Fallible.Steps.pure hrefl _
    · refine Fallible.Steps.bind htrans (Fallible.Steps.rejectIf hrefl _ _) fun _ => ?_
      exact Fallible.Steps.update fun t => ⟨_, t.scopes, rfl⟩
  have hscope : Fallible.Steps SameButScopes (initializeScope i) := by
    refine Fallible.Steps.bind htrans (Fallible.Steps.state hrefl) fun t => ?_
    split
    · exact Fallible.Steps.pure hrefl _
    · refine Fallible.Steps.bind htrans (Fallible.Steps.rejectIf hrefl _ _) fun _ => ?_
      exact Fallible.Steps.update fun t => ⟨t.accounts, _, rfl⟩
  refine Fallible.Steps.bind htrans haccount fun _ => ?_
  refine Fallible.Steps.bind htrans (Fallible.Steps.state hrefl) fun _ => ?_
  refine Fallible.Steps.bind htrans (Fallible.Steps.rejectIf hrefl _ _) fun _ => ?_
  refine Fallible.Steps.bind htrans hscope fun _ => ?_
  exact Fallible.Steps.bind htrans (Fallible.Steps.state hrefl) fun _ =>
    Fallible.Steps.rejectIf hrefl _ _

theorem finishSyncOperation_frame {context : GmailOperationContext}
    {summary : GmailSyncSummaryV1} {u : Unit}
    (h : finishSyncOperation m context summary t = (.ok u, t')) :
    ∃ connectorState operations commandReceipts,
      t' = { t with connectorState, operations, commandReceipts } := by
  simp only [finishSyncOperation, update_bind, state_bind,
    rejectIf_bind_eq_ok, update_run] at h
  obtain ⟨-, hrun⟩ := h
  cases hrun
  exact ⟨_, _, _, rfl⟩

def withCheckpoint (key : SyncKey) (nextCheckpoint : HistoryId) (revisionsInserted : ℕ)
    (t : GmailTables) : GmailTables :=
  { t with
    checkpoints := t.checkpoints.put key.scopeId nextCheckpoint
    evidenceGeneration :=
      if 0 < revisionsInserted then t.evidenceGeneration + 1 else t.evidenceGeneration }

def commitReport (discovered : List Bool) (reports : List (Bool × Bool)) (generation : ℕ) :
    SyncCommit :=
  ⟨discovered.count true + (reports.map Prod.fst).count true, (reports.map Prod.snd).count true,
    (reports.map Prod.snd).count false, generation⟩

variable {prepared : List PreparedEffect}

/-- **The transaction, opened up**: it succeeds exactly when each of its steps does. -/
theorem commitPrepared_eq_ok :
    commitPrepared m key batch operation initialization prepared t = (.ok r, t') ↔
      ∃ placed discovered known reports stored summary,
        placeScope initialization t = (.ok (), placed) ∧ ensureScopeKey key placed = .ok () ∧
        compareCheckpoint key batch.expectedCheckpoint placed = .ok () ∧
        Fallible.forEach (commitDiscovered key) batch.discoveredMessageIds placed =
          (.ok discovered, known) ∧
        Fallible.forEach (commitEffect m key operation) prepared known = (.ok reports, stored) ∧
        syncSummary batch (commitReport discovered reports (withCheckpoint key batch.nextCheckpoint
          ((reports.map Prod.snd).count true) stored).evidenceGeneration) = .ok summary ∧
        finishOperation m operation summary (withCheckpoint key batch.nextCheckpoint
          ((reports.map Prod.snd).count true) stored) = (.ok (), t') ∧
        r = ⟨summary, commitReport discovered reports (withCheckpoint key batch.nextCheckpoint
          ((reports.map Prod.snd).count true) stored).evidenceGeneration⟩ := by
  have hcheckpoint : ∀ (n : ℕ) (t : GmailTables), commitCheckpoint key batch.nextCheckpoint n t =
      (.ok (withCheckpoint key batch.nextCheckpoint n t).evidenceGeneration,
        withCheckpoint key batch.nextCheckpoint n t) := fun _ _ => rfl
  rw [commitPrepared]
  constructor
  · intro h
    obtain ⟨⟨⟩, placed, hplace, h⟩ := bind_eq_ok.mp h
    rw [state_bind, require_bind_eq_ok, require_bind_eq_ok] at h
    obtain ⟨hscope, hexpected, h⟩ := h
    obtain ⟨discovered, known, hdiscovers, h⟩ := bind_eq_ok.mp h
    obtain ⟨reports, stored, hcommits, h⟩ := bind_eq_ok.mp h
    rw [bind_of_ok (hcheckpoint _ _)] at h
    obtain ⟨summary, hsummary, h⟩ := Fallible.check_bind_eq_ok.mp h
    obtain ⟨⟨⟩, t₁, hfinish, h⟩ := bind_eq_ok.mp h
    obtain ⟨hr, rfl⟩ := Prod.mk.inj h
    exact ⟨placed, discovered, known, reports, stored, summary, hplace, hscope, hexpected,
      hdiscovers, hcommits, hsummary, hfinish, (Except.ok.inj hr).symm⟩
  · rintro ⟨placed, discovered, known, reports, stored, summary, hplace, hscope, hexpected,
      hdiscovers, hcommits, hsummary, hfinish, rfl⟩
    rw [bind_of_ok hplace, state_bind, require_bind_eq_ok,
      require_bind_eq_ok]
    refine ⟨hscope, hexpected, ?_⟩
    rw [bind_of_ok hdiscovers, bind_of_ok hcommits,
      bind_of_ok (hcheckpoint _ _), Fallible.check_bind_eq_ok]
    refine ⟨summary, hsummary, ?_⟩
    rw [bind_of_ok hfinish]
    rfl

structure Committed (m : Materializer) (key : SyncKey) (batch : SyncBatch)
    (operation : Option GmailOperationContext) (t t' : GmailTables) where
  prepared : List PreparedEffect
  placed : GmailTables
  discovered : List Bool
  known : GmailTables
  reports : List (Bool × Bool)
  stored : GmailTables
  prepares : prepareEffects m ∅ batch.effects = .ok prepared
  places : SameButScopes t placed
  expects : (t.checkpoints.find? key.scopeId).map HistoryId.text = batch.expectedCheckpoint
  discovers : forEach (commitDiscovered key) batch.discoveredMessageIds placed =
    (.ok discovered, known)
  commits : forEach (commitEffect m key operation) prepared known = (.ok reports, stored)
  finishes : ∃ connectorState operations commandReceipts,
    t' = { withCheckpoint key batch.nextCheckpoint ((reports.map Prod.snd).count true) stored with
      connectorState, operations, commandReceipts }

theorem placeScope_frame {placed : GmailTables}
    (h : placeScope initialization t = (.ok (), placed)) : SameButScopes t placed := by
  rcases initialization with _ | i
  · cases h
    exact ⟨t.accounts, t.scopes, rfl⟩
  · have hframe := initializeGmailScope_frame i t
    rwa [show initializeGmailScope i t = (.ok (), placed) from h] at hframe

/-- **Inversion**: a commit that succeeds went through its transaction. -/
theorem commitBatch_eq_ok (h : commitBatch m key batch operation initialization t = (.ok r, t')) :
    Nonempty (Committed m key batch operation t t') := by
  simp only [commitBatch, state_bind, require_bind_eq_ok] at h
  obtain ⟨-, h⟩ := h
  obtain ⟨prepared, hprepared, h⟩ := Fallible.check_bind_eq_ok.mp h
  rw [atomically_eq_ok, commitPrepared_eq_ok] at h
  obtain ⟨placed, discovered, known, reports, stored, summary, hplace, -, hexpected, hdiscovers,
    hcommits, -, hfinish, -⟩ := h
  have hplaced := placeScope_frame hplace
  refine ⟨⟨prepared, placed, discovered, known, reports, stored, hprepared, hplaced, ?_,
    hdiscovers, hcommits, ?_⟩⟩
  · obtain ⟨accounts, scopes, rfl⟩ := hplaced
    by_contra hne
    rw [compareCheckpoint, if_pos hne] at hexpected
    cases hexpected
  · rcases operation with _ | context
    · obtain ⟨-, rfl⟩ := Prod.mk.inj hfinish
      exact ⟨_, _, _, rfl⟩
    · exact finishSyncOperation_frame hfinish

/-- **Rollback**: a commit that fails changes nothing. -/
theorem commitBatch_of_error {e : SyncError}
    (h : commitBatch m key batch operation initialization t = (.error e, t')) : t' = t := by
  rw [commitBatch, state_bind, check_bind] at h
  split at h
  · rw [check_bind] at h
    split at h
    · exact atomically_of_error h
    · exact (Prod.mk.inj h).2.symm
  · exact (Prod.mk.inj h).2.symm

/-! ## What a commit preserves -/

def CommitStep (t t' : GmailTables) : Prop := Grows t t' ∧ (CommitInvariant t → CommitInvariant t')

theorem CommitStep.refl (t : GmailTables) : CommitStep t t := ⟨.refl t, id⟩

theorem CommitStep.trans (t₁ t₂ t₃ : GmailTables) (h : CommitStep t₁ t₂) (h' : CommitStep t₂ t₃) :
    CommitStep t₁ t₃ :=
  ⟨h.1.trans h'.1, h'.2 ∘ h.2⟩

/-- **Step**: every step of a commit grows the tables and keeps the invariant. -/
theorem commitEffect_step {report : Bool × Bool}
    (h : commitEffect m key operation effect t = (.ok report, t')) :
    CommitStep t t' := by
  obtain ⟨hadmissible, -, rfl⟩ := commitEffect_eq_ok.mp h
  exact ⟨grows_withEffect, fun hinv => commitInvariant_withEffect hinv hadmissible.observation⟩

theorem commitDiscovered_step {messageId : String} {inserted : Bool}
    (h : commitDiscovered key messageId t = (.ok inserted, t')) :
    CommitStep t t' := by
  obtain ⟨-, -, rfl⟩ := commitDiscovered_eq_ok.mp h
  exact ⟨grows_withMessage messageId, fun hinv => commitInvariant_withMessage hinv messageId⟩

namespace Committed

theorem step_known (c : Committed m key batch operation t t') : CommitStep t c.known := by
  have hplaced : CommitStep t c.placed := by
    obtain ⟨accounts, scopes, heq⟩ := c.places
    rw [heq]
    exact ⟨⟨fun _ _ h => h, fun _ _ _ => ⟨rfl, rfl, rfl, rfl, rfl⟩, fun _ _ h => h, rfl, rfl⟩,
      fun h => ⟨⟨h.heads.scopeHeads, h.heads.sourceHeads⟩, h.materializations⟩⟩
  have hdiscovers := forEach_visits (R := CommitStep) CommitStep.refl CommitStep.trans
    (fun _ _ _ _ _ h => commitDiscovered_step h) c.discovers
  exact hplaced.trans _ _ _ hdiscovers.1

theorem step_stored (c : Committed m key batch operation t t') :
    CommitStep t c.stored ∧ ∀ effect ∈ c.prepared, ∃ t₁, CommitStep t t₁ ∧
      Admissible m key operation effect t₁ ∧
      CommitStep (withEffect key operation effect t₁) c.stored := by
  have hcommits := forEach_visits (R := CommitStep) CommitStep.refl CommitStep.trans
    (fun _ _ _ _ _ h => commitEffect_step h) c.commits
  refine ⟨c.step_known.trans _ _ _ hcommits.1, fun effect he => ?_⟩
  obtain ⟨report, t₁, t₂, hbefore, hrun, hafter⟩ := hcommits.2 effect he
  obtain ⟨hadmissible, -, rfl⟩ := commitEffect_eq_ok.mp hrun
  exact ⟨t₁, c.step_known.trans _ _ _ hbefore, hadmissible, hafter⟩

theorem invariant (c : Committed m key batch operation t t') (h : CommitInvariant t) :
    CommitInvariant t' := by
  obtain ⟨hheads, hmaterializations⟩ := c.step_stored.1.2 h
  obtain ⟨connectorState, operations, commandReceipts, heq⟩ := c.finishes
  rw [heq]
  exact ⟨⟨hheads.scopeHeads, hheads.sourceHeads⟩, hmaterializations⟩

theorem checkpoints (c : Committed m key batch operation t t') (scopeId : String) :
    t'.checkpoints.find? scopeId =
      if scopeId = key.scopeId then some batch.nextCheckpoint else t.checkpoints.find? scopeId := by
  obtain ⟨connectorState, operations, commandReceipts, heq⟩ := c.finishes
  rw [heq]
  change (c.stored.checkpoints.put key.scopeId batch.nextCheckpoint).find? scopeId = _
  rw [find?_put, c.step_stored.1.1.checkpoints]

end Committed

/-! ## Collisions and replays -/

theorem prepareEffects_forall₂ {seen : Finset (String × HistoryId)} {effects : List RevisionEffect}
    (h : prepareEffects m seen effects = .ok prepared) :
    List.Forall₂ (fun effect p => prepareEffect m effect = .ok p) effects prepared := by
  induction effects generalizing seen prepared with
  | nil =>
    cases h
    exact List.Forall₂.nil
  | cons effect rest ih =>
    rw [prepareEffects] at h
    split at h
    · cases h
    · obtain ⟨p, hp, h⟩ := check_bind_eq_ok.mp h
      obtain ⟨others, hothers, h⟩ := check_bind_eq_ok.mp h
      cases h
      exact List.Forall₂.cons hp (ih hothers)

theorem exists_prepared {seen : Finset (String × HistoryId)} {effects : List RevisionEffect}
    (h : prepareEffects m seen effects = .ok prepared) {effect : RevisionEffect}
    (he : effect ∈ effects) : ∃ p ∈ prepared, prepareEffect m effect = .ok p :=
  exists_of_forall₂ (List.Forall₂.flip (prepareEffects_forall₂ h)) effect he

theorem prepareEffect_eq_ok {effect : RevisionEffect} {p : PreparedEffect}
    (h : prepareEffect m effect = .ok p) :
    p.messageId = effect.messageId ∧ p.historyId = effect.revision := by
  cases effect with
  | available messageId revision raw =>
    rw [prepareEffect] at h
    split at h
    · cases h
    · split at h
      · cases h
      · cases h
        exact ⟨rfl, rfl⟩
  | unavailable messageId revision reason =>
    cases h
    exact ⟨rfl, rfl⟩

theorem materializationMatches_congr (hinv : CommitInvariant t) {revision : RevisionId}
    (h : SameRevision revision t t') :
    materializationMatches m t' revision effect = materializationMatches m t revision effect := by
  unfold materializationMatches
  rw [h.materialization]
  rcases hrow : t.materializations.find? revision with _ | row
  · rfl
  · obtain ⟨hlocal, hprovenance⟩ := hinv.materializations revision row hrow
    simp only [hlocal, hprovenance, h.localSource, h.provenance, actualMaterializationManifests,
      h.parts]

def Collides (m : Materializer) (key : SyncKey) (effect : RevisionEffect) (t : GmailTables) :
    Prop :=
  ∃ p, prepareEffect m effect = .ok p ∧ (¬ ObservationFits key p t ∨
    p.availability = .available ∧ ∃ row, storedRevision t (effectRevision key p) = some row ∧
      ¬ (row.reason = p.reason ∧ row.graphSha256 = p.graphSha256 ∧
        materializationMatches m t (effectRevision key p) p = .ok true))

theorem Committed.not_collides (c : Committed m key batch operation t t') (hinv : CommitInvariant t)
    {effect : RevisionEffect} (he : effect ∈ batch.effects) : ¬ Collides m key effect t := by
  rintro ⟨p, hp, hcollides⟩
  obtain ⟨p', hp', hprepared⟩ := exists_prepared c.prepares he
  obtain rfl := Except.ok.inj (hp.symm.trans hprepared)
  obtain ⟨t₁, hgrows, hadmissible, -⟩ := c.step_stored.2 p hp'
  rcases hcollides with hobs | ⟨ha, row, hrow, hdiffers⟩
  · exact hobs fun row hrow => hadmissible.observation row (hgrows.1.observations _ row hrow)
  · have hsame := hgrows.1.revisions _ row hrow
    obtain ⟨-, hfits⟩ := hadmissible.revision ha
    rw [hsame.row, hrow] at hfits
    rw [materializationMatches_congr hinv hsame] at hfits
    exact hdiffers hfits

theorem commitEffects_replayed {reports : List (Bool × Bool)}
    (hstored : ∀ p ∈ prepared, (t.observations.find? (observationKey key p)).isSome)
    (h : forEach (commitEffect m key operation) prepared t = (.ok reports, t')) :
    t'.observations = t.observations ∧ ∀ report ∈ reports, report.2 = false := by
  induction prepared generalizing t reports with
  | nil =>
    obtain ⟨hreports, rfl⟩ := Prod.mk.inj h
    cases hreports
    exact ⟨rfl, by simp⟩
  | cons p rest ih =>
    obtain ⟨report, t₁, others, hstep, hrest, rfl⟩ := forEach_cons_eq_ok.mp h
    obtain ⟨-, rfl, rfl⟩ := commitEffect_eq_ok.mp hstep
    obtain ⟨row, hrow⟩ := Option.isSome_iff_exists.mp (hstored p (.head _))
    have hsame : (withEffect key operation p t).observations = t.observations := by
      rw [withEffect_observations, insertOrIgnore_of_some hrow]
    obtain ⟨hobservations, hreports⟩ := ih (fun q hq => by
      rw [hsame]
      exact hstored q (.tail _ hq)) hrest
    refine ⟨hobservations.trans hsame, fun r hr => ?_⟩
    rcases List.mem_cons.mp hr with rfl | hr
    · rw [effectReport, insertOrIgnore_of_some hrow]
    · exact hreports r hr

def Restates (key : SyncKey) (batch : SyncBatch) (t : GmailTables) : Prop :=
  ∀ effect ∈ batch.effects, (t.observations.find?
    ⟨key.scopeId, providerSourceId key effect.messageId, effect.revision⟩).isSome

/-- **Replay**: a commit of effects observed before adds no observation and leaves
the generation. -/
theorem Committed.of_restates (c : Committed m key batch operation t t')
    (h : Restates key batch t) :
    t'.observations = t.observations ∧ t'.evidenceGeneration = t.evidenceGeneration := by
  have hknown : c.known.observations = t.observations := by
    have hdiscovers := (forEach_visits
      (R := fun t t' : GmailTables => t'.observations = t.observations) (fun _ => rfl)
      (fun _ _ _ h h' => h'.trans h) (fun _ _ _ _ _ h => by
        obtain ⟨-, -, rfl⟩ := commitDiscovered_eq_ok.mp h
        rfl) c.discovers).1
    obtain ⟨accounts, scopes, heq⟩ := c.places
    rw [hdiscovers, heq]
  have hstored : ∀ p ∈ c.prepared, (c.known.observations.find? (observationKey key p)).isSome := by
    intro p hp
    obtain ⟨effect, he, hprepared⟩ :=
      exists_of_forall₂ (prepareEffects_forall₂ c.prepares) p hp
    obtain ⟨hid, hrevision⟩ := prepareEffect_eq_ok hprepared
    rw [hknown, observationKey, hid, hrevision]
    exact h effect he
  obtain ⟨hobservations, hreports⟩ := commitEffects_replayed hstored c.commits
  have hcount : (c.reports.map Prod.snd).count true = 0 := by
    rw [List.count_eq_zero]
    intro hmem
    obtain ⟨report, hreport, htrue⟩ := List.mem_map.mp hmem
    rw [hreports report hreport] at htrue
    cases htrue
  obtain ⟨connectorState, operations, commandReceipts, heq⟩ := c.finishes
  rw [heq, hcount]
  exact ⟨hobservations.trans hknown, c.step_stored.1.1.evidenceGeneration⟩

end Transaction

/-! ## Runs -/

/-- One call of `commitBatch`; the disk may fail it at the last moment. -/
structure CommitCall where
  key : SyncKey
  batch : SyncBatch
  operation : Option GmailOperationContext
  initialization : Option GmailScopeInitialization
  storageFails : Bool

def CommitCall.run (m : Materializer) (call : CommitCall) : Transaction GmailOperationCommit :=
  let commit := commitBatch m call.key call.batch call.operation call.initialization
  if call.storageFails then
    atomically (do
      let _ ← commit
      fail .store)
  else commit

/-- What was called and what it returned, latest first. -/
abbrev CommitLog : Type := List (CommitCall × Except SyncError GmailOperationCommit)

inductive CommitRun (m : Materializer) (t₀ : GmailTables) : CommitLog → GmailTables → Prop
  | start : CommitRun m t₀ [] t₀
  | call {log t call result t'} (before : CommitRun m t₀ log t)
      (runs : call.run m t = (result, t')) : CommitRun m t₀ ((call, result) :: log) t'

def lastCheckpoint (scopeId : String) : CommitLog → Option HistoryId
  | [] => none
  | (call, .ok _) :: log =>
    if call.key.scopeId = scopeId then some call.batch.nextCheckpoint
    else lastCheckpoint scopeId log
  | (_, .error _) :: log => lastCheckpoint scopeId log

structure GmailTables.Fresh (t : GmailTables) : Prop where
  checkpoints : t.checkpoints = empty
  providerSources : t.providerSources = empty
  scopeSources : t.scopeSources = empty
  sourceRevisions : t.sourceRevisions = empty
  materializations : t.materializations = empty
  localSources : t.localSources = empty
  provenance : t.provenance = empty
  mimeParts : t.mimeParts = empty
  sourceHeads : t.sourceHeads = empty
  observations : t.observations = empty
  scopeHeads : t.scopeHeads = empty

theorem GmailTables.Fresh.invariant (h : t.Fresh) : CommitInvariant t := by
  refine ⟨⟨fun scopeId source => ?_, fun source => ?_⟩, fun revision row hrow => ?_⟩
  · rw [h.scopeHeads]
    simp [Table.IsLatest, observedHeads, h.observations]
  · rw [h.sourceHeads]
    simp [Table.IsLatest, availableHeads, storedRevision, h.sourceRevisions]
  · rw [h.materializations] at hrow
    simp at hrow

theorem CommitCall.run_of_error {call : CommitCall} {e : SyncError}
    (h : call.run m t = (.error e, t')) : t' = t := by
  unfold CommitCall.run at h
  split at h
  · exact atomically_of_error h
  · exact commitBatch_of_error h

theorem CommitCall.run_eq_ok {call : CommitCall} (h : call.run m t = (.ok r, t')) :
    Nonempty (Committed m call.key call.batch call.operation t t') := by
  unfold CommitCall.run at h
  split at h
  · rw [atomically_eq_ok, bind_eq_ok] at h
    obtain ⟨_, _, _, hfail⟩ := h
    cases (Prod.mk.inj hfail).1
  · exact commitBatch_eq_ok h

/-- **Step**: a call keeps the invariant, and moves the checkpoints as its log says. -/
theorem CommitCall.run_step {call : CommitCall} {result : Except SyncError GmailOperationCommit}
    (h : call.run m t = (result, t')) (hinv : CommitInvariant t) {log : CommitLog}
    (hlog : ∀ scopeId, t.checkpoints.find? scopeId = lastCheckpoint scopeId log) :
    CommitInvariant t' ∧
      ∀ scopeId, t'.checkpoints.find? scopeId = lastCheckpoint scopeId ((call, result) :: log) := by
  cases result with
  | error e =>
    obtain rfl := CommitCall.run_of_error h
    exact ⟨hinv, hlog⟩
  | ok r =>
    obtain ⟨c⟩ := CommitCall.run_eq_ok h
    refine ⟨c.invariant hinv, fun scopeId => ?_⟩
    rw [c.checkpoints, lastCheckpoint, hlog]
    simp only [eq_comm]

/-- **Run**: after every call of a run the invariant holds and the checkpoints are
those of the last successful batches. -/
theorem CommitRun.invariant {t₀ : GmailTables} {log : CommitLog} (hfresh : t₀.Fresh)
    (h : CommitRun m t₀ log t) : CommitInvariant t ∧
      ∀ scopeId, t.checkpoints.find? scopeId = lastCheckpoint scopeId log := by
  induction h with
  | start => exact ⟨hfresh.invariant, fun scopeId => by rw [hfresh.checkpoints]; rfl⟩
  | call before runs ih => exact CommitCall.run_step runs ih.1 ih.2

/-- **The commit store over whole runs**: after every call each scope head is the
latest observation and each source head the latest available revision, and each
checkpoint is that of the scope's last successful batch; whatever call comes next, a
failure, an unexpected checkpoint and a collision leave every table as it was, and
effects observed before add no observation and leave the generation. -/
theorem commit_run_invariant {t₀ : GmailTables} {log : CommitLog} (hfresh : t₀.Fresh)
    (hrun : CommitRun m t₀ log t) :
    HeadsCurrent t ∧
    (∀ scopeId, t.checkpoints.find? scopeId = lastCheckpoint scopeId log) ∧
    ∀ (call : CommitCall) (result : Except SyncError GmailOperationCommit) (t' : GmailTables),
      call.run m t = (result, t') →
      (result.toOption = none → t' = t) ∧
      ((t.checkpoints.find? call.key.scopeId).map HistoryId.text ≠ call.batch.expectedCheckpoint →
        result.toOption = none ∧ t' = t) ∧
      ((∃ effect ∈ call.batch.effects, Collides m call.key effect t) →
        result.toOption = none ∧ t' = t) ∧
      (Restates call.key call.batch t →
        t'.observations = t.observations ∧ t'.evidenceGeneration = t.evidenceGeneration) := by
  obtain ⟨hinv, hcheckpoints⟩ := CommitRun.invariant hfresh hrun
  refine ⟨hinv.heads, hcheckpoints, fun call result t' h => ?_⟩
  cases result with
  | error e =>
    obtain rfl := CommitCall.run_of_error h
    exact ⟨fun _ => rfl, fun _ => ⟨rfl, rfl⟩, fun _ => ⟨rfl, rfl⟩, fun _ => ⟨rfl, rfl⟩⟩
  | ok r =>
    obtain ⟨c⟩ := CommitCall.run_eq_ok h
    refine ⟨fun hok => absurd hok (by simp [Except.toOption]), fun hexpected => absurd c.expects hexpected, ?_,
      c.of_restates⟩
    rintro ⟨effect, he, hcollides⟩
    exact absurd hcollides (c.not_collides hinv he)

namespace CommitExample

def materializer : Materializer where
  prepareMessageParts _ := some []
  digest raw := String.ofList (raw.map fun b => Char.ofNat b.toNat)
  mimeJson _ := []
  ordinalsJson _ := []
  responseJson _ requestId _ := requestId
  isUuid _ := true

def tables : GmailTables where
  accounts := empty
  scopes := empty.put "scope" ⟨"account", "fingerprint", "Label_1", "p", "m", "label", "Label_1"⟩
  checkpoints := empty
  providerSources := empty
  scopeSources := empty
  sourceRevisions := empty
  materializations := empty
  localSources := empty
  provenance := empty
  mimeParts := empty
  blobs := empty
  sourceHeads := empty
  observations := empty
  scopeHeads := empty
  evidenceGeneration := 0
  operationRevisions := empty
  operations := empty
  connectorState := ⟨"disconnected", none, none, none⟩
  commandReceipts := empty

def call : CommitCall where
  key := ⟨"account", "scope", "Label_1"⟩
  batch := ⟨.reconciled, none, ⟨"12", by decide⟩, ["m1", "m2"],
    [.available "m1" ⟨"11", by decide⟩ [1], .unavailable "m2" ⟨"9", by decide⟩ .messageDeleted],
    1, 4, 1⟩
  operation := none
  initialization := none
  storageFails := false

theorem tables_fresh : tables.Fresh := ⟨rfl, rfl, rfl, rfl, rfl, rfl, rfl, rfl, rfl, rfl, rfl⟩

/-- One successful call on the fresh database, and what the theorem says after it. -/
theorem run_invariant :
    ∃ log t, CommitRun materializer tables log t ∧
      (∃ r, log = [(call, .ok r)] ∧ r.commit.revisionsInserted = 2) ∧ HeadsCurrent t ∧
      t.checkpoints.find? "scope" = some ⟨"12", by decide⟩ := by
  have hrun : CommitRun materializer tables
      [(call, (call.run materializer tables).1)] (call.run materializer tables).2 :=
    .call .start rfl
  have hinvariant := commit_run_invariant tables_fresh hrun
  exact ⟨_, _, hrun, ⟨_, rfl, rfl⟩, hinvariant.1, (hinvariant.2.1 "scope").trans rfl⟩

end CommitExample

end Threadbook
