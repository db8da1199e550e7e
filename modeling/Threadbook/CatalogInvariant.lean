import Threadbook.CatalogRuns

/-!
# Reachable catalogs

Every decision of a reachable catalog was made by a command at an earlier state of its run,
where it captured what it lists. From there an undo of the head puts the state before that
command back, as far as the command listed it: it is exact, and keeps assigned evidence
linked, exactly where the items the decision lists held no evidence that it did not list.
-/

namespace Threadbook.Catalog

open Table Fallible
open Promotion (ItemAttributesV1 RequestId ReplayStatusV1)

variable {services : CatalogServices} {t t' : CatalogTables} {command : CatalogCommand}
  {response : MutationResponse}

structure CatalogTables.Fresh (t : CatalogTables) : Prop where
  catalogRevision : t.catalogRevision = 0
  items : ∀ x, t.items.find? x = none
  evidence : ∀ e, t.evidence.find? e = none
  itemEvidence : ∀ e, t.itemEvidence.find? e = none
  decisions : ∀ id, t.decisions.find? id = none
  commandReceipts : ∀ id, t.commandReceipts.find? id = none

inductive Reachable (services : CatalogServices)
    (admitted : CatalogTables → CatalogCommand → Prop) : CatalogTables → Prop
  | empty {t : CatalogTables} (fresh : t.Fresh) : Reachable services admitted t
  | command {t t' : CatalogTables} (reached : Reachable services admitted t)
      (command : CatalogCommand) (result : Except PlatformError MutationResponse)
      (run : command.execute services t = (result, t'))
      (admits : ∀ response, Creates services command t response t' → admitted t command) :
      Reachable services admitted t'
  | imported {t t' : CatalogTables} (reached : Reachable services admitted t)
      (statements : List ImportStatement) (result : Except PlatformError PUnit)
      (run : importTransaction statements t = (result, t')) : Reachable services admitted t'
  | promoted {t t' : CatalogTables} (reached : Reachable services admitted t)
      (promotion : CatalogPromotion) (result : Except PlatformError PUnit)
      (run : promoteReceiptPurchaseUnit promotion t = (result, t')) :
      Reachable services admitted t'

/-! ## Origins -/

/-- Where a decision comes from: a command that made it at an earlier state. -/
structure Origin (services : CatalogServices) (P : CatalogTables → Prop) (id : DecisionId)
    (t saved after : CatalogTables) (command : CatalogCommand) (response : MutationResponse) :
    Prop where
  holds : P saved
  linked : saved.placement.Linked
  creates : Creates services command saved response after
  decision : response.decision.decisionId = id
  change : ChangesListed services command saved after
  later : Steps services after t

/-- Links are between items and evidence that exist, and every decision but those of promotions
has an origin. -/
structure Traced (services : CatalogServices) (P : CatalogTables → Prop) (t : CatalogTables) :
    Prop where
  linked : t.placement.Linked
  origin : ∀ id row, t.decisions.find? id = some row → row.kind ≠ .promoteReceiptPurchaseUnit →
    ∃ saved after command response, Origin services P id t saved after command response

variable {P : CatalogTables → Prop} {id : DecisionId} {saved after : CatalogTables}

theorem Origin.row (h : Origin services P id t saved after command response) :
    ∃ row, Appended services command saved response after row ∧
      t.decisions.find? id = some row := by
  obtain ⟨row, happended⟩ := h.creates.appended
  refine ⟨row, happended, ?_⟩
  apply h.later.progress.decisions
  rw [← h.decision, happended.answered.2.1, happended.decisions, find?_put, if_pos rfl]

/-- **An undo of a decision with an origin**: nothing but new evidence came after the decision,
and the state before it is restored. -/
theorem Origin.undo {request : UndoDecisionV1Request} {origin : MutationResponse}
    (horigin : Origin services P request.decisionId t saved after command origin)
    (h : Creates services (.undo request) t response t') :
    Placement.Extends .unresolved after.placement t.placement ∧
      t'.placement = Placement.restore saved.placement t.placement
        (command.listedItems services saved) (command.listedEvidence services saved) ∧
      (CatalogCommand.undo request).listedItems services t =
        command.listedItems services saved ∧
      (CatalogCommand.undo request).listedEvidence services t =
        command.listedEvidence services saved ∧
      ChangesListed services (.undo request) t t' := by
  obtain ⟨outcome, t₁, hmutate, -, hafter⟩ := h.mutation
  have hplacement : t'.placement = t₁.placement := by
    rw [hafter]
    rfl
  obtain ⟨-, row, snapshot, t₂, hrow, hkind, hhead, -, -, -⟩ := undoDecision_eq_ok hmutate
  obtain ⟨made, happended, hmade⟩ := horigin.row
  obtain rfl : row = made := Option.mem_unique hrow hmade
  have hextends := horigin.later.progress.still
    (hhead.symm.trans happended.row_revision)
  have hinverse : inverseOf t request.decisionId = some (captureProjection saved
      (command.listedItems services saved) (command.listedEvidence services saved)) := by
    rw [inverseOf, hrow, Option.bind_some, happended.row_inverse]
  obtain ⟨hrestored, hchange⟩ := undoDecision_placement horigin.linked horigin.change hextends
    hinverse hmutate
  obtain ⟨hitems, hevidence⟩ := listed_undo services horigin.change.stored hinverse
  refine ⟨hextends, hplacement.trans hrestored, hitems, hevidence, ?_⟩
  rw [ChangesListed, hplacement]
  exact hchange

theorem Creates.undo_origin {request : UndoDecisionV1Request} (htraced : Traced services P t)
    (h : Creates services (.undo request) t response t') :
    ∃ saved after command origin,
      Origin services P request.decisionId t saved after command origin := by
  obtain ⟨outcome, t₁, hmutate, -, -⟩ := h.mutation
  obtain ⟨-, row, snapshot, t₂, hrow, hkind, -, -, -, -⟩ := undoDecision_eq_ok hmutate
  exact htraced.origin _ row hrow hkind

/-- **Every command changes what it lists.** -/
theorem Creates.change (htraced : Traced services P t)
    (h : Creates services command t response t') : ChangesListed services command t t' := by
  obtain ⟨outcome, t₁, hmutate, -, hafter⟩ := h.mutation
  have hplacement : t'.placement = t₁.placement := by
    rw [hafter]
    rfl
  rw [ChangesListed, hplacement]
  cases command with
  | save request => exact (saveItem_eq_ok hmutate).2.1 htraced.linked
  | decide request => exact (decideEvidence_eq_ok hmutate).2.1
  | merge request => exact (mergeItems_eq_ok hmutate).2.1 htraced.linked
  | split request => exact (splitItem_eq_ok hmutate).2.1 htraced.linked
  | undo request =>
    obtain ⟨saved, after, command, origin, horigin⟩ := h.undo_origin htraced
    obtain ⟨-, -, -, -, hchange⟩ := horigin.undo h
    rw [ChangesListed, hplacement] at hchange
    exact hchange

variable {promotion : CatalogPromotion}

theorem Promotes.linked (h : Promotes promotion t t') (hlinked : t.placement.Linked) :
    t'.placement.Linked := by
  intro e x hlink
  rw [h.link] at hlink
  rw [h.item, h.state]
  by_cases he : e = promotion.evidenceId
  · rw [if_pos he] at hlink
    rw [if_pos (Option.some.inj hlink).symm, if_pos he]
    exact ⟨rfl, rfl⟩
  · rw [if_neg he] at hlink
    obtain ⟨hitem, hstate⟩ := hlinked e x hlink
    rw [if_neg he]
    refine ⟨?_, hstate⟩
    split
    · rfl
    · exact hitem

/-- **A step keeps the origins** of decisions, and gives a new decision its own. -/
theorem Traced.step (htraced : Traced services P t) (hP : P t) (hstep : Step services t t') :
    Traced services P t' := by
  have hkept : ∀ id row, t.decisions.find? id = some row →
      row.kind ≠ .promoteReceiptPurchaseUnit →
      ∃ saved after command response, Origin services P id t' saved after command response := by
    intro id row hrow hkind
    obtain ⟨saved, after, command, response, horigin⟩ := htraced.origin id row hrow hkind
    exact ⟨saved, after, command, response, { horigin with later := horigin.later.tail hstep }⟩
  rcases hstep.cases with rfl | ⟨command, response, hcreates⟩ | himports | ⟨promotion, hpromotes⟩
  · exact ⟨htraced.linked, hkept⟩
  · obtain ⟨made, happended⟩ := hcreates.appended
    have hchange := hcreates.change htraced
    refine ⟨hchange.linked htraced.linked, ?_⟩
    intro id row hrow hkind
    rw [happended.decisions, find?_put] at hrow
    split at hrow
    · rename_i heq
      exact ⟨t, t', command, response, hP, htraced.linked, hcreates,
        happended.answered.2.1.trans heq.symm, hchange, Relation.ReflTransGen.refl⟩
    · exact hkept id row hrow hkind
  · refine ⟨himports.extends_placement.linked htraced.linked, ?_⟩
    intro id row hrow hkind
    rw [himports.decisions] at hrow
    exact hkept id row hrow hkind
  · refine ⟨hpromotes.linked htraced.linked, ?_⟩
    obtain ⟨made, hmade, -, hdecisions⟩ := hpromotes.decisions
    intro id row hrow hkind
    rw [hdecisions, find?_put] at hrow
    split at hrow
    · rw [← Option.some.inj hrow] at hkind
      exact absurd hmade hkind
    · exact hkept id row hrow hkind

theorem CatalogTables.Fresh.traced (hfresh : t.Fresh) : Traced services P t where
  linked e x hlink := by
    simp only [CatalogTables.placement, CatalogTables.linkOf, hfresh.itemEvidence,
      Option.map_none] at hlink
    cases hlink
  origin id row hrow := by
    rw [hfresh.decisions] at hrow
    cases hrow

theorem Reachable.traced {admitted : CatalogTables → CatalogCommand → Prop}
    (h : Reachable services admitted t) : Traced services (Reachable services admitted) t := by
  induction h with
  | empty fresh => exact fresh.traced
  | command reached command result run _ ih =>
    exact ih.step reached (Step.command command result run)
  | imported reached statements result run ih =>
    exact ih.step reached (Step.imported statements result run)
  | promoted reached promotion result run ih =>
    exact ih.step reached (Step.promoted promotion result run)

/-! ## A run

An item is saved with one piece of evidence, another is assigned to it, and the assignment is
undone. The decision to assign lists only the evidence it assigned, but undoing it deletes every
link of the item.
-/

namespace Example

def lastDigit (bytes : List UInt8) : String :=
  String.ofList (List.replicate 31 '0' ++ (bytes.getLast?.map fun b => Char.ofNat b.toNat).toList)

def lastDigitServices : CatalogServices := ⟨lastDigit, fun _ => []⟩

def noTables : CatalogTables :=
  ⟨0, 0, .empty, .empty, .empty, .empty, .empty, .empty, .empty, .empty⟩

def shirt : ItemAttributesV1 := ⟨"Shirt", .top, none, none, none, none, none, []⟩

def source : SourceRow :=
  ⟨none, none, .imageFile, .present, "/shirt.jpg", none, none, some "missing"⟩

def importedTables : CatalogTables :=
  (importTransaction [.recordSource (.above 9) source,
    .ensureEvidence (.above 20) (.above 9) .image 0,
    .ensureEvidence (.above 21) (.above 9) .image 1] noTables).2

def save : SaveItemV1Request := ⟨1, .above 0, none, shirt, [.above 21], 0⟩

def savedTables : CatalogTables :=
  ((CatalogCommand.save save).execute lastDigitServices importedTables).2

def assign : DecideEvidenceV1Request :=
  ⟨1, .above 1, .above 20, .assign, some (savedItemId lastDigitServices save), 1⟩

def assignedTables : CatalogTables :=
  ((CatalogCommand.decide assign).execute lastDigitServices savedTables).2

def undo : UndoDecisionV1Request := ⟨1, .above 2, decisionIdOf lastDigitServices (.above 1), 2⟩

def undoneTables : CatalogTables :=
  ((CatalogCommand.undo undo).execute lastDigitServices assignedTables).2

theorem noTables_fresh : noTables.Fresh := ⟨rfl, fun _ => rfl, fun _ => rfl, fun _ => rfl,
  fun _ => rfl, fun _ => rfl⟩

theorem succeeds {services : CatalogServices} {command : CatalogCommand} {t t' : CatalogTables}
    (hafter : t' = (command.execute services t).2)
    (h : (command.execute services t).1.isOk = true) :
    ∃ response, command.execute services t = (.ok response, t') := by
  subst hafter
  cases hrun : command.execute services t with
  | mk result t' =>
    rw [hrun] at h
    cases result with
    | error e => cases h
    | ok response => exact ⟨response, rfl⟩

variable {admitted : CatalogTables → CatalogCommand → Prop}

theorem imported_reachable : Reachable lastDigitServices admitted importedTables :=
  .imported (.empty noTables_fresh) [.recordSource (.above 9) source,
    .ensureEvidence (.above 20) (.above 9) .image 0,
    .ensureEvidence (.above 21) (.above 9) .image 1] _ Prod.mk.eta.symm

theorem reachable_of_execute {services : CatalogServices} {t t' : CatalogTables}
    {command : CatalogCommand} (h : t' = (command.execute services t).2)
    (reached : Reachable services admitted t) (admits : admitted t command) :
    Reachable services admitted t' :=
  .command reached command _ (Prod.ext rfl h.symm) fun _ _ => admits

section

variable (hadmitted : ∀ t command, (∀ request, command ≠ .undo request) → admitted t command)

include hadmitted

theorem saved_reachable : Reachable lastDigitServices admitted savedTables :=
  reachable_of_execute savedTables.eq_1 imported_reachable (hadmitted _ _ (by simp))

theorem assigned_reachable : Reachable lastDigitServices admitted assignedTables :=
  reachable_of_execute assignedTables.eq_1 (saved_reachable hadmitted) (hadmitted _ _ (by simp))

end

theorem run_facts :
    (savedTables.commandReceipts.find? (.above 1) = none ∧
      ((CatalogCommand.decide assign).execute lastDigitServices savedTables).1.isOk = true) ∧
    (assignedTables.commandReceipts.find? (.above 2) = none ∧
      ((CatalogCommand.undo undo).execute lastDigitServices assignedTables).1.isOk = true) ∧
    (assignedTables.evidence.find? (.above 20)).map (·.state) = some .assigned ∧
    ((undoneTables.evidence.find? (.above 21)).map (·.state) = some .assigned ∧
      undoneTables.itemEvidence.find? (.above 21) = none) ∧
    undoneTables.linkOf (.above 21) ≠ savedTables.linkOf (.above 21) := by decide +kernel

theorem decide_creates :
    ∃ response, Creates lastDigitServices (.decide assign) savedTables response assignedTables := by
  obtain ⟨⟨hnew, hok⟩, -⟩ := run_facts
  obtain ⟨response, hrun⟩ := succeeds assignedTables.eq_1 hok
  exact ⟨response, hnew, hrun⟩

theorem undo_creates :
    ∃ response, Creates lastDigitServices (.undo undo) assignedTables response undoneTables := by
  obtain ⟨-, ⟨hnew, hok⟩, -⟩ := run_facts
  obtain ⟨response, hrun⟩ := succeeds undoneTables.eq_1 hok
  exact ⟨response, hnew, hrun⟩

end Example

/-! ## Exact undo -/

def Unrestricted : CatalogTables → CatalogCommand → Prop := fun _ _ => True

/-- Every item and every piece of evidence of the first catalog is in the second as it was,
and other items are inactive and hold no evidence. -/
abbrev SameCatalog (t t' : CatalogTables) : Prop := t.placement.SameAs t'.placement

abbrev ListsAllHeld (services : CatalogServices) (command : CatalogCommand)
    (t : CatalogTables) : Prop :=
  t.placement.Covered (command.listedItems services t) (command.listedEvidence services t)

/-- **When undo is exact.** The decision an undo accepts was made by a command at an earlier
state of the run. The undo leaves the catalog as it was right before that command, and undoing
the undo leaves it as it was right after, exactly when the items the decision lists held no
evidence that it does not list. -/
theorem undo_exact_iff {request : UndoDecisionV1Request}
    (hreached : Reachable services Unrestricted t)
    (hundo : Creates services (.undo request) t response t') :
    (∃ saved after command origin, Origin services (Reachable services Unrestricted)
      request.decisionId t saved after command origin) ∧
    ∀ saved after command origin, Origin services (Reachable services Unrestricted)
      request.decisionId t saved after command origin →
      ((SameCatalog saved t' ∧
        ∀ (again : UndoDecisionV1Request) (answer : MutationResponse) (t₂ t₃ : CatalogTables),
          Steps services t' t₂ → again.decisionId = response.decision.decisionId →
          Creates services (.undo again) t₂ answer t₃ → SameCatalog after t₃) ↔
        ListsAllHeld services command saved) := by
  have htraced := hreached.traced
  refine ⟨hundo.undo_origin htraced, ?_⟩
  intro saved after command origin horigin
  obtain ⟨hextends, hrestored, hitems, hevidence, hchange⟩ := horigin.undo hundo
  have hexact : SameCatalog saved t' ↔ ListsAllHeld services command saved := by
    rw [SameCatalog, hrestored]
    exact Placement.sameAs_restore_iff horigin.linked horigin.change hextends
  refine ⟨fun h => hexact.mp h.1, fun hcovered => ⟨hexact.mpr hcovered, ?_⟩⟩
  intro again answer t₂ t₃ hsteps hid hagain
  -- the undo is itself a decision, made at a state that extends the one after the first
  have hundone : Origin services (Reachable services Unrestricted) again.decisionId t₂ t t'
      (.undo request) response := ⟨hreached, htraced.linked, hundo, hid.symm, hchange, hsteps⟩
  obtain ⟨hextends', hrestored', -, -, -⟩ := hundone.undo hagain
  have hcovered' : ListsAllHeld services (.undo request) t := by
    rw [ListsAllHeld, hitems, hevidence]
    exact (hcovered.of_change horigin.change).of_extends hextends
  have hsame : SameCatalog t t₃ := by
    rw [SameCatalog, hrestored']
    exact (Placement.sameAs_restore_iff htraced.linked hchange hextends').mpr hcovered'
  exact hsame.of_extends hextends

theorem undo_exact_iff_assigned :
    ∃ saved after command origin, Origin Example.lastDigitServices
      (Reachable Example.lastDigitServices Unrestricted) Example.undo.decisionId
      Example.assignedTables
      saved after command origin := by
  obtain ⟨response, hundo⟩ := Example.undo_creates
  exact (undo_exact_iff (Example.assigned_reachable fun _ _ _ => trivial) hundo).1

theorem undo_drops_unlisted_link :
    ∃ response answer, Reachable Example.lastDigitServices Unrestricted Example.savedTables ∧
      Creates Example.lastDigitServices (.decide Example.assign) Example.savedTables response
        Example.assignedTables ∧
      Example.undo.decisionId = response.decision.decisionId ∧
      Creates Example.lastDigitServices (.undo Example.undo) Example.assignedTables answer
        Example.undoneTables ∧
      ¬ SameCatalog Example.savedTables Example.undoneTables := by
  obtain ⟨response, hassign⟩ := Example.decide_creates
  obtain ⟨answer, hundo⟩ := Example.undo_creates
  obtain ⟨made, happended⟩ := hassign.appended
  refine ⟨response, answer, Example.saved_reachable fun _ _ _ => trivial, hassign,
    happended.answered.2.1.symm, hundo, ?_⟩
  intro hsame
  have hlink : Example.undoneTables.linkOf (.above 21) = Example.savedTables.linkOf (.above 21) :=
    hsame.link (.above 21)
  exact Example.run_facts.2.2.2.2 hlink

/-! ## Agreement -/

def ActiveDecided (t : CatalogTables) : Prop :=
  ∀ x, t.placement.Active x → ∃ id row, t.decisions.find? id = some row ∧
    (t.decisionEntities.find? (id, .item x)).isSome

def UndoListsAllHeld (services : CatalogServices) (t : CatalogTables)
    (command : CatalogCommand) : Prop :=
  ∀ request, command = .undo request → ListsAllHeld services command t

theorem Creates.consistent (htraced : Traced services CatalogTables.Consistent t)
    (hconsistent : t.Consistent) (h : Creates services command t response t')
    (hadmitted : UndoListsAllHeld services t command) : t'.Consistent := by
  obtain ⟨outcome, t₁, hmutate, -, hafter⟩ := h.mutation
  have hplacement : t'.placement = t₁.placement := by
    rw [hafter]
    rfl
  cases command with
  | save request =>
    rw [CatalogTables.Consistent, hplacement]
    exact (saveItem_eq_ok hmutate).2.2 hconsistent
  | decide request =>
    rw [CatalogTables.Consistent, hplacement]
    exact (decideEvidence_eq_ok hmutate).2.2 hconsistent
  | merge request =>
    rw [CatalogTables.Consistent, hplacement]
    exact (mergeItems_eq_ok hmutate).2.2 hconsistent
  | split request =>
    rw [CatalogTables.Consistent, hplacement]
    exact (splitItem_eq_ok hmutate).2.2 hconsistent
  | undo request =>
    -- what is put back agreed with itself when it was captured
    obtain ⟨saved, after, command, origin, horigin⟩ := h.undo_origin htraced
    obtain ⟨-, hrestored, hitems, hevidence, -⟩ := horigin.undo h
    have hcovered := hadmitted request rfl
    rw [ListsAllHeld, hitems, hevidence] at hcovered
    rw [CatalogTables.Consistent, hrestored]
    exact hconsistent.restore (horigin.holds.restorable horigin.change) hcovered

theorem Creates.activeDecided (htraced : Traced services P t) (hdecided : ActiveDecided t)
    (h : Creates services command t response t') : ActiveDecided t' := by
  obtain ⟨made, happended⟩ := h.appended
  have hchange := h.change htraced
  intro x hactive
  by_cases hx : x ∈ command.listedItems services t
  · refine ⟨decisionIdOf services command.requestId, made, ?_, happended.named x hx⟩
    rw [happended.decisions, find?_put, if_pos rfl]
  · obtain ⟨a, ha⟩ := hactive
    rw [hchange.item_frame x hx] at ha
    obtain ⟨id, row, hrow, hnamed⟩ := hdecided x ⟨a, ha⟩
    refine ⟨id, row, ?_, happended.entities_kept _ hnamed⟩
    exact h.progress.decisions id row hrow

theorem Promotes.consistent (h : Promotes promotion t t') (hconsistent : t.Consistent) :
    t'.Consistent := by
  refine ⟨?_, ?_⟩
  · intro e
    rw [h.state, h.link]
    split
    · simp
    · exact hconsistent.assigned_iff e
  · intro e x hlink
    rw [Placement.Active, h.item]
    rw [h.link] at hlink
    by_cases he : e = promotion.evidenceId
    · rw [if_pos he] at hlink
      exact ⟨promotion.attributes, if_pos (Option.some.inj hlink).symm⟩
    · rw [if_neg he] at hlink
      obtain ⟨a, ha⟩ := hconsistent.active e x hlink
      refine ⟨a, ?_⟩
      rw [if_neg ?_, ha]
      intro heq
      rw [heq, h.item_new] at ha
      cases ha

theorem Promotes.activeDecided (h : Promotes promotion t t') (hdecided : ActiveDecided t) :
    ActiveDecided t' := by
  obtain ⟨made, -, -, hdecisions⟩ := h.decisions
  rintro x ⟨a, ha⟩
  rw [h.item] at ha
  by_cases hx : x = promotion.itemId
  · refine ⟨promotion.decisionId, made, ?_, hx ▸ h.named⟩
    rw [hdecisions, find?_put, if_pos rfl]
  · rw [if_neg hx] at ha
    obtain ⟨id, row, hrow, hnamed⟩ := hdecided x ⟨a, ha⟩
    refine ⟨id, row, ?_, h.entities_kept _ hnamed⟩
    rw [hdecisions]
    exact decisions_kept h.decision_new hrow

/-- What every reachable catalog satisfies where undos are admitted as above. -/
structure Agrees (services : CatalogServices) (t : CatalogTables) : Prop where
  traced : Traced services CatalogTables.Consistent t
  consistent : t.Consistent
  decided : ActiveDecided t

theorem Agrees.execute {result : Except PlatformError MutationResponse}
    (h : Agrees services t) (run : command.execute services t = (result, t'))
    (hadmitted : ∀ response, Creates services command t response t' →
      UndoListsAllHeld services t command) : Agrees services t' := by
  have htraced := h.traced.step h.consistent (Step.command command result run)
  cases result with
  | error e => exact execute_of_error run ▸ h
  | ok response =>
    cases execute_eq_ok run with
    | inl hsame => exact hsame ▸ h
    | inr hcreates =>
      exact ⟨htraced, hcreates.consistent h.traced h.consistent (hadmitted _ hcreates),
        hcreates.activeDecided h.traced h.decided⟩

theorem Agrees.imported {statements : List ImportStatement} {result : Except PlatformError PUnit}
    (h : Agrees services t) (run : importTransaction statements t = (result, t')) :
    Agrees services t' := by
  have himports := imports_of_import run
  have hextends := himports.extends_placement
  refine ⟨h.traced.step h.consistent (Step.imported statements result run),
    h.consistent.of_extends (by decide) hextends, ?_⟩
  rintro x ⟨a, ha⟩
  rw [hextends.item] at ha
  rw [himports.decisions, himports.decisionEntities]
  exact h.decided x ⟨a, ha⟩

theorem Agrees.promoted {result : Except PlatformError PUnit} (h : Agrees services t)
    (run : promoteReceiptPurchaseUnit promotion t = (result, t')) : Agrees services t' := by
  have htraced := h.traced.step h.consistent (Step.promoted promotion result run)
  cases result with
  | error e => exact atomically_of_error run ▸ h
  | ok u =>
    have hpromotes := promoteReceiptPurchaseUnit_eq_ok run
    exact ⟨htraced, hpromotes.consistent h.consistent,
      hpromotes.activeDecided h.decided⟩

theorem CatalogTables.Fresh.agrees (hfresh : t.Fresh) : Agrees services t := by
  refine ⟨hfresh.traced, ⟨?_, ?_⟩, ?_⟩
  · intro e
    simp [CatalogTables.placement, CatalogTables.linkOf, hfresh.evidence, hfresh.itemEvidence]
  · intro e x hlink
    simp [CatalogTables.placement, CatalogTables.linkOf, hfresh.itemEvidence] at hlink
  · rintro x ⟨a, ha⟩
    simp [CatalogTables.placement, hfresh.items] at ha

/-- **Agreement over runs.** -/
theorem Reachable.agrees (h : Reachable services (UndoListsAllHeld services) t) :
    Agrees services t := by
  induction h with
  | empty fresh => exact fresh.agrees
  | command reached command result run admits ih => exact ih.execute run admits
  | imported reached statements result run ih => exact ih.imported run
  | promoted reached promotion result run ih => exact ih.promoted run

theorem ActiveDecided.loads (hdecided : ActiveDecided t) {x : ItemId}
    (hactive : t.placement.Active x) : ∃ item, loadCatalogItem t x = .ok item := by
  obtain ⟨id, row, hrow, hnamed⟩ := hdecided x hactive
  obtain ⟨item, hitem, hflag⟩ := active_iff.mp hactive
  have hlast : ∃ decisionId, lastDecision t x = some decisionId := by
    have hmem : (id, row) ∈ decisionsOf t x :=
      List.mem_filter.mpr ⟨mem_rows.mpr hrow, hnamed⟩
    cases hmax : (decisionsOf t x).argmax fun row => row.2.catalogRevision with
    | none =>
      rw [List.argmax_eq_none.mp hmax] at hmem
      cases hmem
    | some last => exact ⟨last.1, by rw [lastDecision, hmax, Option.map_some]⟩
  obtain ⟨decisionId, hlast⟩ := hlast
  refine ⟨⟨x, item.attributes, itemEvidenceIds t x, decisionId⟩, ?_⟩
  simp [loadCatalogItem, hitem, hflag, hlast]

/-- **The catalog invariant.** In every run that only undoes decisions whose items hold no
evidence besides what the decision lists, evidence is assigned exactly when it is linked, it has
one link, the linked item is active, every active item is named by a decision, and loading it
succeeds. -/
theorem catalog_invariant (hreached : Reachable services (UndoListsAllHeld services) t) :
    (∀ e, (∃ row, t.evidence.find? e = some row ∧ row.state = .assigned) ↔
      (t.itemEvidence.find? e).isSome) ∧
    (t.itemEvidence.rows.map Prod.fst).Nodup ∧
    (∀ e link, t.itemEvidence.find? e = some link →
      ∃ row, t.items.find? link.itemId = some row ∧ row.active = true) ∧
    ∀ x row, t.items.find? x = some row → row.active = true →
      (∃ id decision, t.decisions.find? id = some decision ∧
        (t.decisionEntities.find? (id, .item x)).isSome) ∧
      ∃ item, loadCatalogItem t x = .ok item := by
  have hagrees := hreached.agrees
  refine ⟨?_, Table.rows_nodup _, ?_, ?_⟩
  · intro e
    have hassigned := hagrees.consistent.assigned_iff e
    simp only [CatalogTables.placement, CatalogTables.linkOf, Option.map_eq_some_iff,
      Option.isSome_map] at hassigned
    exact hassigned
  · intro e link hlink
    have hplaced : t.placement.link e = some link.itemId := by
      simp only [CatalogTables.placement, CatalogTables.linkOf, hlink, Option.map_some]
    exact active_iff.mp (hagrees.consistent.active e _ hplaced)
  · intro x row hrow hflag
    have hactive : t.placement.Active x := active_iff.mpr ⟨row, hrow, hflag⟩
    exact ⟨hagrees.decided x hactive, hagrees.decided.loads hactive⟩

theorem catalog_invariant_assigned :
    (Example.assignedTables.itemEvidence.find? (.above 20)).isSome := by
  refine ((catalog_invariant (Example.assigned_reachable ?_)).1 (.above 20)).mp ?_
  · intro t command hnot request heq
    exact absurd heq (hnot request)
  · obtain ⟨-, -, hassigned, -⟩ := Example.run_facts
    exact Option.map_eq_some_iff.mp hassigned

theorem undo_leaves_assigned_unlinked :
    Reachable Example.lastDigitServices Unrestricted Example.undoneTables ∧
      (∃ row, Example.undoneTables.evidence.find? (.above 21) = some row ∧ row.state = .assigned) ∧
      Example.undoneTables.itemEvidence.find? (.above 21) = none := by
  obtain ⟨-, -, -, ⟨hassigned, hunlinked⟩, -⟩ := Example.run_facts
  refine ⟨?_, Option.map_eq_some_iff.mp hassigned, hunlinked⟩
  exact Example.reachable_of_execute Example.undoneTables.eq_1
    (Example.assigned_reachable fun _ _ _ => trivial) trivial

end Threadbook.Catalog
