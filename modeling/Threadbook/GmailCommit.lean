import Threadbook.GmailRepository

/-!
# What a commit does to the tables

One lemma for each step of the transaction says exactly when it succeeds and what
it leaves behind: `commitDiscovered_eq_ok`, `insertOrReplayAvailableRevision_eq_ok`,
`insertOrReplayScopeObservation_eq_ok` and, assembled from them,
`commitEffect_eq_ok`. Everything later about commits is derived from these.
-/

namespace Threadbook

open Table

open Fallible (require_bind_eq_ok state_bind bind_eq_ok rejectIf_bind_eq_ok bind_of_ok pure_run
  update_bind rejectIf_eq_ok)

variable {m : Materializer} {key : SyncKey} {effect : PreparedEffect} {t t' : GmailTables}

/-! ## Messages -/

def withMessage (key : SyncKey) (messageId : String) (t : GmailTables) : GmailTables :=
  { t with
    providerSources := (t.providerSources.insertOrIgnore (providerSourceId key messageId)
      (key.accountKey, messageId)).1
    scopeSources := (t.scopeSources.insertOrIgnore (key.scopeId, providerSourceId key messageId)
      key.accountKey).1 }

/-- A message may be recorded: its id is well formed and its row, if any, is its own. -/
def MessageFits (key : SyncKey) (messageId : String) (t : GmailTables) : Prop :=
  validateProviderValue messageId = .ok () ∧
    ∀ row, t.providerSources.find? (providerSourceId key messageId) = some row →
      row = (key.accountKey, messageId)

theorem getD_eq_iff {α : Type} {o : Option α} {a : α} : o.getD a = a ↔ ∀ b, o = some b → b = a := by
  rcases o with _ | b <;> simp

variable {messageId : String} {revision : RevisionId}

theorem ensureProviderSource_eq_ok {inserted : Bool} :
    ensureProviderSource key messageId t = (.ok inserted, t') ↔ MessageFits key messageId t ∧
      inserted = (t.providerSources.insertOrIgnore (providerSourceId key messageId)
        (key.accountKey, messageId)).2 ∧
      t' = { t with providerSources := (t.providerSources.insertOrIgnore
        (providerSourceId key messageId) (key.accountKey, messageId)).1 } := by
  simp only [ensureProviderSource, require_bind_eq_ok, state_bind,
    update_bind, rejectIf_bind_eq_ok, pure_run, MessageFits, not_not,
    find?_insertOrIgnore, if_true, Option.some.injEq, getD_eq_iff,
    Prod.mk.injEq, Except.ok.injEq, and_assoc, eq_comm (b := inserted), eq_comm (b := t')]

/-- **Discovering a message** succeeds exactly when it fits. -/
theorem commitDiscovered_eq_ok {inserted : Bool} :
    commitDiscovered key messageId t = (.ok inserted, t') ↔ MessageFits key messageId t ∧
      inserted = (t.providerSources.insertOrIgnore (providerSourceId key messageId)
        (key.accountKey, messageId)).2 ∧ t' = withMessage key messageId t := by
  rw [commitDiscovered, bind_eq_ok]
  constructor
  · rintro ⟨inserted', t₁, hsource, hrest⟩
    obtain ⟨hfits, rfl, rfl⟩ := ensureProviderSource_eq_ok.mp hsource
    obtain ⟨hinserted, rfl⟩ := Prod.mk.inj hrest
    exact ⟨hfits, (Except.ok.inj hinserted).symm, rfl⟩
  · rintro ⟨hfits, rfl, rfl⟩
    exact ⟨_, _, ensureProviderSource_eq_ok.mpr ⟨hfits, rfl, rfl⟩, rfl⟩

/-! ## Revisions -/

def effectRevision (key : SyncKey) (effect : PreparedEffect) : RevisionId :=
  ⟨providerSourceId key effect.messageId, effect.historyId⟩

def storedRevision (t : GmailTables) (revision : RevisionId) : Option RevisionRow :=
  (t.sourceRevisions.find? revision).filter fun row => row.availability = .available

def revisionRow (effect : PreparedEffect) : RevisionRow :=
  ⟨effect.availability, effect.reason, effect.graphSha256⟩

def withBlob (effect : PreparedEffect) (blobs : Table String ℕ) : Table String ℕ :=
  match effect.blob with
  | some blob => (blobs.insertOrIgnore blob.sha256 blob.byteLength).1
  | none => blobs

def withRows (revision : RevisionId) (effect : PreparedEffect) (t : GmailTables) : GmailTables :=
  { t with
    sourceRevisions := t.sourceRevisions.put revision (revisionRow effect)
    blobs := withBlob effect t.blobs
    localSources := t.localSources.put ⟨revision⟩ ⟨effect.blob.map PreparedBlobMetadata.sha256,
      effect.blob.map PreparedBlobMetadata.byteLength,
      if effect.blob.isSome then "imported" else "unavailable",
      if effect.blob.isSome then none else some effect.reason⟩
    provenance := t.provenance.put ⟨revision⟩ (effect.blob.map PreparedBlobMetadata.sha256)
    mimeParts := t.mimeParts.put ⟨revision⟩ effect.parts
    materializations := t.materializations.put revision ⟨⟨revision⟩, ⟨revision⟩,
      effect.blob.map PreparedBlobMetadata.sha256, effect.mimeManifestSha256,
      effect.evidenceManifestSha256⟩ }

structure RowsFit (revision : RevisionId) (effect : PreparedEffect) (t : GmailTables) : Prop where
  fresh : t.sourceRevisions.find? revision = none
  blob : ∀ blob, effect.blob = some blob →
    ∀ length, t.blobs.find? blob.sha256 = some length → length = blob.byteLength
  localSource : t.localSources.find? ⟨revision⟩ = none
  provenance : t.provenance.find? ⟨revision⟩ = none
  materialization : t.materializations.find? revision = none

theorem insertBlob_bind_eq_ok {α : Type} {blob : PreparedBlobMetadata} {f : Unit → Transaction α}
    {a : α} :
    (insertBlob blob >>= f) t = (.ok a, t') ↔
      (∀ length, t.blobs.find? blob.sha256 = some length → length = blob.byteLength) ∧
      f () { t with blobs := (t.blobs.insertOrIgnore blob.sha256 blob.byteLength).1 } =
        (.ok a, t') := by
  rw [insertBlob, bind_eq_ok]
  simp only [state_bind, update_bind, rejectIf_eq_ok, not_not,
    find?_insertOrIgnore, if_true, Option.some.injEq, getD_eq_iff]
  constructor
  · rintro ⟨u, t₁, ⟨hblob, rfl⟩, hrest⟩
    exact ⟨hblob, hrest⟩
  · rintro ⟨hblob, hrest⟩
    exact ⟨(), _, ⟨hblob, rfl⟩, hrest⟩

/-- **Inserting a revision** succeeds exactly when its rows fit. -/
theorem insertRevision_eq_ok {u : Unit} : insertRevision revision effect t = (.ok u, t') ↔
      RowsFit revision effect t ∧ t' = withRows revision effect t := by
  have hfit : RowsFit revision effect t ↔ t.sourceRevisions.find? revision = none ∧
      (∀ blob, effect.blob = some blob →
        ∀ length, t.blobs.find? blob.sha256 = some length → length = blob.byteLength) ∧
      t.localSources.find? ⟨revision⟩ = none ∧ t.provenance.find? ⟨revision⟩ = none ∧
      t.materializations.find? revision = none :=
    ⟨fun h => ⟨h.1, h.2, h.3, h.4, h.5⟩, fun ⟨h₁, h₂, h₃, h₄, h₅⟩ => ⟨h₁, h₂, h₃, h₄, h₅⟩⟩
  rw [hfit]
  rcases hb : effect.blob with _ | blob
  · simp [insertRevision, hb, rejectIf_bind_eq_ok, withRows, withBlob, revisionRow,
      eq_comm (b := t'), and_assoc]
  · simp [insertRevision, hb, rejectIf_bind_eq_ok, insertBlob_bind_eq_ok, withRows,
      withBlob, revisionRow, eq_comm (b := t'), and_assoc]

def withSourceHead (revision : RevisionId) (availability : Availability) (t : GmailTables) :
    GmailTables :=
  { t with
    sourceHeads := t.sourceHeads.advance (fun head => head.headRevision.historyId)
      revision.providerSource ⟨revision, availability⟩ }

theorem advanceAvailableHead_run {availability : Availability} :
    advanceAvailableHead revision.providerSource revision revision.historyId availability t =
      (.ok (), withSourceHead revision availability t) := by
  rw [advanceAvailableHead, Fallible.update_run, withSourceHead, advance]
  rcases t.sourceHeads.find? revision.providerSource with _ | head
  · rfl
  · by_cases h : head.headRevision.historyId < revision.historyId <;> simp [h]

def RevisionFits (m : Materializer) (revision : RevisionId) (effect : PreparedEffect)
    (t : GmailTables) : Prop :=
  effect.blob.isSome ∧ match storedRevision t revision with
    | some row => row.reason = effect.reason ∧ row.graphSha256 = effect.graphSha256 ∧
        materializationMatches m t revision effect = .ok true
    | none => RowsFit revision effect t

def withRevision (revision : RevisionId) (effect : PreparedEffect) (t : GmailTables) :
    GmailTables :=
  withSourceHead revision effect.availability
    (if (storedRevision t revision).isSome then t else withRows revision effect t)

/-- **Storing an available revision** succeeds exactly when it fits. -/
theorem insertOrReplayAvailableRevision_eq_ok {r : RevisionId × Bool}
    (havailable : effect.availability = .available) :
    insertOrReplayAvailableRevision m (providerSourceId key effect.messageId) effect t =
        (.ok r, t') ↔
      RevisionFits m (effectRevision key effect) effect t ∧
        r = (effectRevision key effect, (storedRevision t (effectRevision key effect)).isNone) ∧
        t' = withRevision (effectRevision key effect) effect t := by
  have hlookup : (t.sourceRevisions.find? ⟨providerSourceId key effect.messageId,
      effect.historyId⟩).filter (fun row => decide (row.availability = .available)) =
      storedRevision t (effectRevision key effect) := rfl
  have hadvance : ∀ (new : Bool) (t : GmailTables),
      (advanceAvailableHead (providerSourceId key effect.messageId)
          ⟨providerSourceId key effect.messageId, effect.historyId⟩ effect.historyId
          effect.availability >>= fun _ => pure
          ((⟨providerSourceId key effect.messageId, effect.historyId⟩, new) : RevisionId × Bool)) t =
        (.ok (effectRevision key effect, new),
          withSourceHead (effectRevision key effect) effect.availability t) := fun new t =>
    bind_of_ok (@advanceAvailableHead_run t (effectRevision key effect) _)
  have hblob : ¬ (effect.availability ≠ .available ∨ effect.blob.isNone = true) ↔
      effect.blob.isSome = true := by
    rcases effect.blob with _ | blob <;> simp [havailable]
  simp only [insertOrReplayAvailableRevision, rejectIf_bind_eq_ok, state_bind,
    RevisionFits, withRevision, hlookup, hblob, and_assoc]
  rcases hs : storedRevision t (effectRevision key effect) with _ | row
  · -- a new revision: its rows, then the head
    simp only [bind_eq_ok, insertRevision_eq_ok, hadvance]
    simp [effectRevision, eq_comm (b := r), eq_comm (b := t')]
  · -- a stored one: compared, then the head
    simp only [rejectIf_bind_eq_ok, Fallible.check_bind_eq_ok, hadvance]
    simp [effectRevision, and_assoc, eq_comm (b := r), eq_comm (b := t')]

/-! ## Observations -/

def observedRevision (key : SyncKey) (effect : PreparedEffect) : Option RevisionId :=
  if effect.availability = .available then some (effectRevision key effect) else none

def effectObservation (key : SyncKey) (effect : PreparedEffect) : ObservationRow :=
  observationRow key effect (observedRevision key effect)

/-- An observation may be recorded: the one stored, if any, is the same. -/
def ObservationFits (key : SyncKey) (effect : PreparedEffect) (t : GmailTables) : Prop :=
  ∀ row, t.observations.find? (observationKey key effect) = some row →
    row = effectObservation key effect

def withObservation (key : SyncKey) (effect : PreparedEffect) (t : GmailTables) : GmailTables :=
  { t with
    observations := (t.observations.insertOrIgnore (observationKey key effect)
      (effectObservation key effect)).1 }

/-- **Recording an observation** succeeds exactly when it fits. -/
theorem insertOrReplayScopeObservation_eq_ok {inserted : Bool} :
    insertOrReplayScopeObservation key effect (observedRevision key effect) t = (.ok inserted, t') ↔
      ObservationFits key effect t ∧
        inserted = (t.observations.insertOrIgnore (observationKey key effect)
          (effectObservation key effect)).2 ∧ t' = withObservation key effect t := by
  simp only [insertOrReplayScopeObservation, state_bind, update_bind,
    rejectIf_bind_eq_ok, pure_run, ObservationFits, withObservation,
    effectObservation, not_not, find?_insertOrIgnore, if_true, Option.some.injEq, getD_eq_iff,
    Prod.mk.injEq, Except.ok.injEq, eq_comm (b := inserted), eq_comm (b := t')]

def effectHead (key : SyncKey) (effect : PreparedEffect) : ScopeHeadRow :=
  ⟨key.accountKey, effect.historyId, effect.availability⟩

def withScopeHead (key : SyncKey) (effect : PreparedEffect) (t : GmailTables) : GmailTables :=
  { t with
    scopeHeads := t.scopeHeads.advance ScopeHeadRow.headHistoryId
      (key.scopeId, providerSourceId key effect.messageId) (effectHead key effect) }

theorem advanceScopeHead_run :
    advanceScopeHead key (providerSourceId key effect.messageId) effect.historyId
      effect.availability t = (.ok (), withScopeHead key effect t) := by
  rw [advanceScopeHead, Fallible.update_run, withScopeHead, advance]
  rcases t.scopeHeads.find? (key.scopeId, providerSourceId key effect.messageId) with _ | head
  · rfl
  · by_cases h : head.headHistoryId < effect.historyId <;> simp [effectHead, h]

/-! ## Commands -/

/-- The command, if the effect is recorded under one, exists. -/
def OperationFits (operation : Option GmailOperationContext) (effect : PreparedEffect)
    (t : GmailTables) : Prop :=
  ∀ context, operation = some context → effect.availability = .available →
    (t.operations.find? context.requestId).isSome

def withOperationRevision (operation : Option GmailOperationContext)
    (revision : Option RevisionId) (t : GmailTables) : GmailTables :=
  match operation, revision with
  | some context, some revision => { t with
      operationRevisions :=
        (t.operationRevisions.insertOrIgnore (context.requestId, revision) ()).1 }
  | _, _ => t

theorem recordOperationRevision_eq_ok {operation : Option GmailOperationContext} {u : Unit} :
    recordOperationRevision operation (observedRevision key effect) t = (.ok u, t') ↔
      OperationFits operation effect t ∧
        t' = withOperationRevision operation (observedRevision key effect) t := by
  unfold OperationFits observedRevision
  rcases operation with _ | context
  · simp [recordOperationRevision, withOperationRevision, eq_comm (b := t')]
  · by_cases ha : effect.availability = .available
    · simp [recordOperationRevision, withOperationRevision, ha, rejectIf_bind_eq_ok,
        Option.isSome_iff_ne_none, eq_comm (b := t')]
    · simp [recordOperationRevision, withOperationRevision, ha, eq_comm (b := t')]

/-! ## Effects -/

structure Admissible (m : Materializer) (key : SyncKey) (operation : Option GmailOperationContext)
    (effect : PreparedEffect) (t : GmailTables) : Prop where
  message : MessageFits key effect.messageId t
  revision : effect.availability = .available → RevisionFits m (effectRevision key effect) effect t
  observation : ObservationFits key effect t
  command : OperationFits operation effect t

def withEffect (key : SyncKey) (operation : Option GmailOperationContext)
    (effect : PreparedEffect) (t : GmailTables) : GmailTables :=
  let recorded := withMessage key effect.messageId t
  let stored := if effect.availability = .available then
    withRevision (effectRevision key effect) effect recorded else recorded
  withOperationRevision operation (observedRevision key effect)
    (withScopeHead key effect (withObservation key effect stored))

def effectReport (key : SyncKey) (effect : PreparedEffect) (t : GmailTables) : Bool × Bool :=
  ((t.providerSources.insertOrIgnore (providerSourceId key effect.messageId)
      (key.accountKey, effect.messageId)).2,
    (t.observations.insertOrIgnore (observationKey key effect) (effectObservation key effect)).2)

theorem revisionFits_withMessage : RevisionFits m revision effect (withMessage key messageId t) ↔
      RevisionFits m revision effect t := by
  have hrows : RowsFit revision effect (withMessage key messageId t) ↔ RowsFit revision effect t :=
    ⟨fun h => ⟨h.1, h.2, h.3, h.4, h.5⟩, fun h => ⟨h.1, h.2, h.3, h.4, h.5⟩⟩
  change _ ∧ _ ↔ _ ∧ _
  rw [show storedRevision (withMessage key messageId t) revision = storedRevision t revision from rfl,
    hrows]
  rfl

@[simp] theorem withRevision_observations (revision : RevisionId) :
    (withRevision revision effect t).observations = t.observations := by
  unfold withRevision
  split <;> rfl

@[simp] theorem withRevision_operations (revision : RevisionId) :
    (withRevision revision effect t).operations = t.operations := by
  unfold withRevision
  split <;> rfl

theorem observe_eq_ok {operation : Option GmailOperationContext} {inserted : Bool}
    {report : Bool × Bool} :
    (do
      let observed ← insertOrReplayScopeObservation key effect (observedRevision key effect)
      advanceScopeHead key (providerSourceId key effect.messageId) effect.historyId
        effect.availability
      recordOperationRevision operation (observedRevision key effect)
      pure (inserted, observed) : Transaction (Bool × Bool)) t = (.ok report, t') ↔
    ObservationFits key effect t ∧ OperationFits operation effect t ∧
      report = (inserted, (t.observations.insertOrIgnore (observationKey key effect)
        (effectObservation key effect)).2) ∧
      t' = withOperationRevision operation (observedRevision key effect)
        (withScopeHead key effect (withObservation key effect t)) := by
  simp only [bind_eq_ok, insertOrReplayScopeObservation_eq_ok]
  constructor
  · rintro ⟨observed, t₂, ⟨hobs, rfl, rfl⟩, u, t₃, hhead, w, t₄, hop, hrest⟩
    rw [advanceScopeHead_run] at hhead
    cases hhead
    obtain ⟨hcommand, rfl⟩ := recordOperationRevision_eq_ok.mp hop
    obtain ⟨hreport, rfl⟩ := Prod.mk.inj hrest
    exact ⟨hobs, hcommand, (Except.ok.inj hreport).symm, rfl⟩
  · rintro ⟨hobs, hcommand, rfl, rfl⟩
    exact ⟨_, _, ⟨hobs, rfl, rfl⟩, _, _, advanceScopeHead_run, (), _,
      recordOperationRevision_eq_ok.mpr ⟨hcommand, rfl⟩, rfl⟩

/-- **Committing an effect** succeeds exactly when it is admissible. -/
theorem commitEffect_eq_ok {operation : Option GmailOperationContext} {report : Bool × Bool} :
    commitEffect m key operation effect t = (.ok report, t') ↔
      Admissible m key operation effect t ∧ report = effectReport key effect t ∧
        t' = withEffect key operation effect t := by
  by_cases ha : effect.availability = .available
  · have hsome : observedRevision key effect = some (effectRevision key effect) := if_pos ha
    have hobserve := fun inserted t₁ =>
      @observe_eq_ok key effect t₁ t' operation inserted report
    rw [hsome] at hobserve
    rw [commitEffect, bind_eq_ok]
    simp only [if_pos ha]
    constructor
    · rintro ⟨inserted, t₁, hdiscovered, hrest⟩
      obtain ⟨hmessage, rfl, rfl⟩ := commitDiscovered_eq_ok.mp hdiscovered
      obtain ⟨r, t₂, hstored, hrest⟩ := bind_eq_ok.mp hrest
      obtain ⟨hrevision, rfl, rfl⟩ := (insertOrReplayAvailableRevision_eq_ok ha).mp hstored
      obtain ⟨hobs, hcommand, rfl, rfl⟩ := (hobserve _ _).mp hrest
      refine ⟨⟨hmessage, fun _ => revisionFits_withMessage.mp hrevision, ?_, ?_⟩, ?_, ?_⟩
      · rw [ObservationFits, withRevision_observations] at hobs
        exact hobs
      · rw [OperationFits, withRevision_operations] at hcommand
        exact hcommand
      · rw [effectReport, withRevision_observations]
        rfl
      · simp only [withEffect, if_pos ha, hsome]
    · rintro ⟨⟨hmessage, hrevision, hobs, hcommand⟩, rfl, rfl⟩
      refine ⟨_, _, commitDiscovered_eq_ok.mpr ⟨hmessage, rfl, rfl⟩, bind_eq_ok.mpr
        ⟨_, _, (insertOrReplayAvailableRevision_eq_ok ha).mpr
          ⟨revisionFits_withMessage.mpr (hrevision ha), rfl, rfl⟩, (hobserve _ _).mpr ⟨?_, ?_, ?_, ?_⟩⟩⟩
      · rw [ObservationFits, withRevision_observations]
        exact hobs
      · rw [OperationFits, withRevision_operations]
        exact hcommand
      · rw [effectReport, withRevision_observations]
        rfl
      · simp only [withEffect, if_pos ha, hsome]
  · have hnone : observedRevision key effect = none := if_neg ha
    have hobserve := fun inserted t₁ =>
      @observe_eq_ok key effect t₁ t' operation inserted report
    rw [hnone] at hobserve
    rw [commitEffect, bind_eq_ok]
    simp only [if_neg ha]
    constructor
    · rintro ⟨inserted, t₁, hdiscovered, hrest⟩
      obtain ⟨hmessage, rfl, rfl⟩ := commitDiscovered_eq_ok.mp hdiscovered
      obtain ⟨hobs, hcommand, rfl, rfl⟩ := (hobserve _ _).mp hrest
      exact ⟨⟨hmessage, fun h => absurd h ha, hobs, hcommand⟩, rfl, by
        simp only [withEffect, if_neg ha, hnone]⟩
    · rintro ⟨⟨hmessage, -, hobs, hcommand⟩, rfl, rfl⟩
      refine ⟨_, _, commitDiscovered_eq_ok.mpr ⟨hmessage, rfl, rfl⟩,
        (hobserve _ _).mpr ⟨hobs, hcommand, rfl, ?_⟩⟩
      simp only [withEffect, if_neg ha, hnone]

/-! ## What an effect leaves behind -/

section Tables

variable {operation : Option GmailOperationContext}

theorem withOperationRevision_eq (revision : Option RevisionId) :
    withOperationRevision operation revision t =
      { t with operationRevisions := (withOperationRevision operation revision t).operationRevisions } := by
  rcases operation with _ | context <;> rcases revision with _ | revision <;> rfl

theorem withEffect_eq : withEffect key operation effect t =
      { withScopeHead key effect (withObservation key effect
          (withMessage key effect.messageId t)) with
        sourceRevisions := (withEffect key operation effect t).sourceRevisions
        materializations := (withEffect key operation effect t).materializations
        localSources := (withEffect key operation effect t).localSources
        provenance := (withEffect key operation effect t).provenance
        mimeParts := (withEffect key operation effect t).mimeParts
        blobs := (withEffect key operation effect t).blobs
        sourceHeads := (withEffect key operation effect t).sourceHeads
        operationRevisions := (withEffect key operation effect t).operationRevisions } := by
  unfold withEffect withRevision
  rw [withOperationRevision_eq]
  split
  · split <;> rfl
  · rfl

@[simp] theorem withEffect_observations : (withEffect key operation effect t).observations =
      (t.observations.insertOrIgnore (observationKey key effect) (effectObservation key effect)).1 := by
  rw [withEffect_eq]
  rfl

@[simp] theorem withEffect_scopeHeads : (withEffect key operation effect t).scopeHeads =
      t.scopeHeads.advance ScopeHeadRow.headHistoryId
        (key.scopeId, providerSourceId key effect.messageId) (effectHead key effect) := by
  rw [withEffect_eq]
  rfl

@[simp] theorem withEffect_checkpoints :
    (withEffect key operation effect t).checkpoints = t.checkpoints := by
  rw [withEffect_eq]
  rfl

@[simp] theorem withEffect_evidenceGeneration :
    (withEffect key operation effect t).evidenceGeneration = t.evidenceGeneration := by
  rw [withEffect_eq]
  rfl

@[simp] theorem withEffect_scopeSources : (withEffect key operation effect t).scopeSources =
      (t.scopeSources.insertOrIgnore (key.scopeId, providerSourceId key effect.messageId)
        key.accountKey).1 := by
  rw [withEffect_eq]
  rfl

theorem withEffect_sourceHeads_of_available (ha : effect.availability = .available) :
    (withEffect key operation effect t).sourceHeads =
      t.sourceHeads.advance (fun head => head.headRevision.historyId)
        (providerSourceId key effect.messageId) ⟨effectRevision key effect, .available⟩ := by
  unfold withEffect withRevision
  rw [withOperationRevision_eq, if_pos ha, ← ha]
  split <;> rfl

theorem withEffect_of_unavailable (ha : effect.availability ≠ .available) :
    withEffect key operation effect t =
      withScopeHead key effect (withObservation key effect (withMessage key effect.messageId t)) := by
  simp [withEffect, withOperationRevision, observedRevision, ha]

variable {revision : RevisionId}

theorem withRevision_of_stored (h : (storedRevision t revision).isSome) :
    withRevision revision effect t = withSourceHead revision effect.availability t := by
  rw [withRevision, if_pos h]

theorem withRevision_of_new (h : ¬ (storedRevision t revision).isSome) :
    withRevision revision effect t =
      withSourceHead revision effect.availability (withRows revision effect t) := by
  rw [withRevision, if_neg h]

theorem withEffect_of_available (ha : effect.availability = .available) :
    withEffect key operation effect t = { withScopeHead key effect (withObservation key effect
          (withRevision (effectRevision key effect) effect
            (withMessage key effect.messageId t))) with
        operationRevisions := (withEffect key operation effect t).operationRevisions } := by
  unfold withEffect
  rw [withOperationRevision_eq, if_pos ha]

theorem storedRevision_withEffect (revision : RevisionId) :
    storedRevision (withEffect key operation effect t) revision =
      if effect.availability = .available ∧ revision = effectRevision key effect then
        some ((storedRevision t revision).getD (revisionRow effect))
      else storedRevision t revision := by
  by_cases ha : effect.availability = .available
  · rw [withEffect_of_available ha]
    change storedRevision (withRevision (effectRevision key effect) effect
      (withMessage key effect.messageId t)) revision = _
    by_cases hs : (storedRevision t (effectRevision key effect)).isSome
    · rw [withRevision_of_stored (t := withMessage key effect.messageId t) hs]
      change storedRevision t revision = _
      split
      · rename_i h
        obtain ⟨row, hrow⟩ := Option.isSome_iff_exists.mp hs
        rw [h.2, hrow, Option.getD_some]
      · rfl
    · rw [withRevision_of_new (t := withMessage key effect.messageId t) hs]
      change ((t.sourceRevisions.put _ _).find? revision).filter _ = _
      rw [find?_put]
      by_cases hi : revision = effectRevision key effect
      · subst hi
        rw [Option.not_isSome_iff_eq_none] at hs
        simp [ha, hs, revisionRow]
      · rw [if_neg hi, if_neg fun h => hi h.2]
        rfl
  · rw [withEffect_of_unavailable ha, if_neg fun h => ha h.1]
    rfl

structure SameRevision (revision : RevisionId) (t t' : GmailTables) : Prop where
  row : storedRevision t' revision = storedRevision t revision
  materialization : t'.materializations.find? revision = t.materializations.find? revision
  localSource : t'.localSources.find? ⟨revision⟩ = t.localSources.find? ⟨revision⟩
  provenance : t'.provenance.find? ⟨revision⟩ = t.provenance.find? ⟨revision⟩
  parts : t'.mimeParts.find? ⟨revision⟩ = t.mimeParts.find? ⟨revision⟩

theorem SameRevision.refl (revision : RevisionId) (t : GmailTables) : SameRevision revision t t :=
  ⟨rfl, rfl, rfl, rfl, rfl⟩

theorem SameRevision.trans {t₁ t₂ t₃ : GmailTables} (h : SameRevision revision t₁ t₂)
    (h' : SameRevision revision t₂ t₃) : SameRevision revision t₁ t₃ :=
  ⟨h'.1.trans h.1, h'.2.trans h.2, h'.3.trans h.3, h'.4.trans h.4, h'.5.trans h.5⟩

/-- **Frame**: an effect leaves every revision stored before it as it is. -/
theorem sameRevision_withEffect {row : RevisionRow} (h : storedRevision t revision = some row) :
    SameRevision revision t (withEffect key operation effect t) := by
  have hrow : storedRevision (withEffect key operation effect t) revision =
      storedRevision t revision := by
    rw [storedRevision_withEffect, h]
    split <;> rfl
  by_cases ha : effect.availability = .available
  · rw [withEffect_of_available ha] at hrow ⊢
    by_cases hs : (storedRevision t (effectRevision key effect)).isSome
    · rw [withRevision_of_stored (t := withMessage key effect.messageId t) hs] at hrow ⊢
      exact ⟨hrow, rfl, rfl, rfl, rfl⟩
    · -- the rows of the new revision stand under other keys
      have hne : revision ≠ effectRevision key effect := fun he => hs (by rw [← he, h]; rfl)
      rw [withRevision_of_new (t := withMessage key effect.messageId t) hs] at hrow ⊢
      refine ⟨hrow, ?_, ?_, ?_, ?_⟩
      all_goals
        refine (find?_put _ _ _ _).trans (if_neg ?_)
        simpa using hne
  · rw [withEffect_of_unavailable ha] at hrow ⊢
    exact ⟨hrow, rfl, rfl, rfl, rfl⟩

end Tables

end Threadbook
