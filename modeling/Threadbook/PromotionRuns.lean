import Mathlib
import Threadbook.PromotionInvariant

/-!
# Runs of receipt promotion

Commands run one after the other, each a transaction, in any order, with what other parts of
the program do in between. Whatever is run, the tables stay consistent and no unit is promoted
twice (`promotion_exactly_once`).
-/

namespace Threadbook.Promotion

open Fallible Table List

variable {services : PromotionServices} {t t' : PromotionTables}

/-! ## Runs -/

inductive Command
  | list (request : ListReceiptPurchaseUnitsV1Request)
  | promote (request : PromoteReceiptPurchaseUnitV1Request) (nowMs : ℤ)
  | review (request : ReviewReceiptV1Request) (nowMs : ℤ)
  | delete (target : DeletionTargetV1) (deletionRequestId : RequestId) (nowMs : ℤ)
  | store (orderId : ReceiptOrderEvidenceId) (row : OrderRow)

def Command.tables (services : PromotionServices) (t : PromotionTables) :
    Command → PromotionTables
  | .list _ => t
  | .promote request nowMs => (promoteReceiptPurchaseUnit services request nowMs t).2
  | .review request nowMs => (reviewReceipt services request nowMs t).2
  | .delete target deletionRequestId nowMs =>
    (deletePurchaseUnit services target deletionRequestId nowMs t).2
  | .store orderId row => (storeOrder services orderId row t).2

abbrev CarriedOut := PromoteReceiptPurchaseUnitV1Request × PromoteReceiptPurchaseUnitV1Response

def Command.carriedOut (services : PromotionServices) (t : PromotionTables) :
    Command → List CarriedOut
  | .promote request nowMs =>
    match (promoteReceiptPurchaseUnit services request nowMs t).1 with
    | .ok response => if response.replayStatus = .created then [(request, response)] else []
    | .error _ => []
  | .list _ | .review _ _ | .delete _ _ _ | .store _ _ => []

/-- What other parts of the program do: raise revisions, and keep answers of their own. -/
structure Elsewhere (t t' : PromotionTables) : Prop where
  rows : t' = { t with
    receiptRevision := t'.receiptRevision
    evidenceGeneration := t'.evidenceGeneration
    catalogRevision := t'.catalogRevision
    commandReceipts := t'.commandReceipts }
  receiptRevision : t.receiptRevision ≤ t'.receiptRevision
  evidenceGeneration : t.evidenceGeneration ≤ t'.evidenceGeneration
  catalogRevision : t.catalogRevision ≤ t'.catalogRevision
  kept : ∀ id row, t.commandReceipts.find? id = some row → t'.commandReceipts.find? id = some row
  added : ∀ id row, t'.commandReceipts.find? id = some row →
    t.commandReceipts.find? id = some row ∨ row.commandName ∉ [promoteCommand, reviewCommand]

inductive Reachable (services : PromotionServices) : List CarriedOut → PromotionTables → Prop
  | fresh {t : PromotionTables} (h : Fresh t) : Reachable services [] t
  | command {log : List CarriedOut} {t : PromotionTables} (h : Reachable services log t)
      (command : Command) :
      Reachable services (log ++ command.carriedOut services t) (command.tables services t)
  | elsewhere {log : List CarriedOut} {t t' : PromotionTables} (h : Reachable services log t)
      (h' : Elsewhere t t') : Reachable services log t'

def runAll (services : PromotionServices) (t : PromotionTables) :
    List Command → List CarriedOut × PromotionTables
  | [] => ([], t)
  | command :: rest =>
    let run := runAll services (command.tables services t) rest
    (command.carriedOut services t ++ run.1, run.2)

variable {log : List CarriedOut} {request : PromoteReceiptPurchaseUnitV1Request}

theorem Reachable.runAll (h : Reachable services log t) (commands : List Command) :
    Reachable services (log ++ (runAll services t commands).1) (runAll services t commands).2 := by
  induction commands generalizing log t with
  | nil => simpa [Promotion.runAll] using h
  | cons command rest ih =>
    rw [Promotion.runAll, ← append_assoc]
    exact ih (h.command command)

/-! ## Consistency -/

theorem Consistent.elsewhere (hc : Consistent services t) (h : Elsewhere t t') :
    Consistent services t' := by
  have hrows := h.rows
  have hkeeps : Keeps t t' := Keeps.of_eq (by rw [hrows]) (by rw [hrows])
  refine ⟨by rw [hrows]; exact hc.orders, by rw [hrows]; exact hc.lineOwner, ?_,
    by rw [hrows]; exact hc.reviewHeads, ?_, ?_, ?_, by rw [hrows]; exact hc.unitOwner, ?_⟩
  · intro id row hrow
    rw [hrows] at hrow
    exact (hc.decisions id row hrow).mono hkeeps
  · intro source row hrow
    rw [hrows] at hrow
    exact (hc.authorityHeads source row hrow).mono hkeeps (by rw [hrows])
  · intro id row hrow
    rw [hrows] at hrow
    exact (hc.snapshots id row hrow).mono hkeeps
  · intro key row hrow
    rw [hrows] at hrow
    exact (hc.promotions key row hrow).mono (by rw [hrows]) (by rw [hrows])
  · intro id row hrow hname
    rcases h.added id row hrow with hold | hother
    · exact hc.receipts id row hold hname
    · exact absurd (mem_cons.mpr (.inl hname)) hother

theorem consistent_of_run {α : Type} {x : PromotionTransaction α}
    (hc : Consistent services t)
    (h : ∀ a t', atomically x t = (.ok a, t') → Consistent services t') :
    Consistent services (atomically x t).2 := by
  rcases hrun : atomically x t with ⟨e | a, t'⟩
  · rw [atomically_of_error hrun]
    exact hc
  · exact h a t' hrun

theorem Consistent.command (hc : Consistent services t) (command : Command) :
    Consistent services (command.tables services t) := by
  cases command with
  | list request => exact hc
  | promote request nowMs => exact consistent_of_run hc fun _ _ h => hc.promote h
  | review request nowMs => exact consistent_of_run hc fun _ _ h => hc.review h
  | delete target deletionRequestId nowMs =>
    refine consistent_of_run hc fun _ _ h => ?_
    obtain ⟨id, hdeletes⟩ := hc.deletes h
    exact hc.of_deletes hdeletes
  | store orderId row => exact consistent_of_run hc fun _ _ h => hc.store h

/-- **Every run keeps the tables consistent.** -/
theorem Reachable.consistent (h : Reachable services log t) : Consistent services t := by
  induction h with
  | fresh h => exact h.consistent
  | command _ command ih => exact ih.command command
  | elsewhere _ h ih => exact ih.elsewhere h

/-! ## Promotions carried out -/

def CarriedOut.key (done : CarriedOut) : ReceiptOrderLineId × ℕ :=
  (done.2.unit.orderLineId, done.2.unit.unitOrdinal)

def CarriedOut.Kept (services : PromotionServices) (t : PromotionTables) (done : CarriedOut) :
    Prop :=
  (∃ row, t.promotions.find? done.key = some row ∧
      row.purchaseUnitId = done.2.unit.purchaseUnitId ∧ row.requestId = done.1.requestId ∧
      t.commandReceipts.find? done.1.requestId =
        some ⟨promoteCommand, promotionEnvelope services done.1, .promote done.2⟩) ∨
    (t.deletions.find? done.2.unit.purchaseUnitId).isSome

structure Accounted (services : PromotionServices) (log : List CarriedOut)
    (t : PromotionTables) : Prop where
  once : (log.map CarriedOut.key).Nodup
  derived : ∀ done ∈ log, ReceiptPurchaseUnitId.deriveV1 services.toContractServices done.key.1
    done.key.2 = .ok done.2.unit.purchaseUnitId
  accepted : ∀ done ∈ log, done.1.validate = .ok () ∧
    done.2.validate services.toContractServices = .ok ()
  kept : ∀ done ∈ log, done.Kept services t

theorem CarriedOut.Kept.mono {done : CarriedOut} (h : done.Kept services t)
    (hpromotions : ∀ key row, t.promotions.find? key = some row → t'.promotions.find? key = some row)
    (hreceipts : ∀ id row, t.commandReceipts.find? id = some row →
      t'.commandReceipts.find? id = some row)
    (hdeletions : ∀ id, (t.deletions.find? id).isSome → (t'.deletions.find? id).isSome) :
    done.Kept services t' := by
  rcases h with ⟨row, hrow, hunit, hrequest, hreceipt⟩ | hdeleted
  · exact Or.inl ⟨row, hpromotions _ _ hrow, hunit, hrequest, hreceipts _ _ hreceipt⟩
  · exact Or.inr (hdeletions _ hdeleted)

theorem Accounted.mono (h : Accounted services log t)
    (hkept : ∀ done : CarriedOut, done.Kept services t → done.Kept services t') :
    Accounted services log t' :=
  { h with kept := fun done hdone => hkept done (h.kept done hdone) }

variable {response : PromoteReceiptPurchaseUnitV1Response}

/-- **A new promotion** is of a unit that no promotion before it is of. -/
theorem Accounted.promote (h : Accounted services log t) {nowMs : ℤ}
    {current : ReceiptPurchaseUnitV1} (hp : Promotes services t request nowMs current response) :
    Accounted services (log ++ [(request, response)])
      (afterPromotion services t request current nowMs response) := by
  obtain ⟨hsame, offered, -, hunit⟩ := hp.unitOf
  obtain ⟨-, -, -, hderived, -⟩ := unit_validate_eq_ok.mp hunit.valid
  obtain ⟨promotedAt, hanswer⟩ := hp.answer
  have hkey : CarriedOut.key (request, response) = (current.orderLineId, current.unitOrdinal) := by
    rw [CarriedOut.key, hanswer]
    rfl
  have hid : response.unit.purchaseUnitId = current.purchaseUnitId := by
    rw [hanswer]
    rfl
  refine ⟨?_, ?_, ?_, ?_⟩
  · -- a promotion of the same unit would have left its row, or its deletion
    rw [map_append, map_singleton, nodup_append]
    refine ⟨h.once, nodup_singleton _, ?_⟩
    intro key hmem other hother heq
    rw [mem_singleton, hkey] at hother
    obtain ⟨done, hdone, rfl⟩ := mem_map.mp hmem
    rw [hother] at heq
    rcases h.kept done hdone with ⟨row, hrow, -⟩ | hdeleted
    · rw [heq, hp.unpromoted] at hrow
      cases hrow
    · have hsameId := h.derived done hdone
      rw [heq, hderived] at hsameId
      rw [← Except.ok.inj hsameId, hsame, hp.undeleted] at hdeleted
      cases hdeleted
  · intro done hdone
    rcases mem_append.mp hdone with hdone | hdone
    · exact h.derived done hdone
    · obtain rfl := mem_singleton.mp hdone
      rw [hkey, hid]
      exact hderived
  · intro done hdone
    rcases mem_append.mp hdone with hdone | hdone
    · exact h.accepted done hdone
    · obtain rfl := mem_singleton.mp hdone
      exact ⟨hp.accepted, hp.valid⟩
  · intro done hdone
    rcases mem_append.mp hdone with hdone | hdone
    · refine (h.kept done hdone).mono ?_ ?_ fun _ hdeleted => hdeleted
      · intro key row hrow
        simp only [afterPromotion, find?_put]
        rw [if_neg]
        · exact hrow
        · rintro rfl
          rw [hp.unpromoted] at hrow
          cases hrow
      · intro id row hrow
        simp only [afterPromotion, find?_put]
        rw [if_neg]
        · exact hrow
        · rintro rfl
          rw [hp.unanswered] at hrow
          cases hrow
    · obtain rfl := mem_singleton.mp hdone
      left
      refine ⟨promotionRow request current (t.catalogRevision + 1) (t.evidenceGeneration + 1) nowMs,
        ?_, ?_, rfl, ?_⟩
      · rw [hkey, afterPromotion, find?_put, if_pos rfl]
      · exact hsame.symm.trans hid.symm
      · rw [afterPromotion, find?_put, if_pos rfl]

theorem CarriedOut.Kept.of_deletes (hc : Consistent services t) {done : CarriedOut}
    (h : done.Kept services t) {id : ReceiptPurchaseUnitId} (hd : Deletes t t' id) :
    done.Kept services t' := by
  rcases h with ⟨row, hrow, hunit, hrequest, hreceipt⟩ | hdeleted
  · by_cases hid : row.purchaseUnitId = id
    · right
      rw [← hunit, hid]
      exact hd.deleted
    · left
      refine ⟨row, (hd.promotions _ _).mpr ⟨hrow, hid⟩, hunit, hrequest, ?_⟩
      rcases hd.kept _ _ hreceipt with hkept | ⟨key, promotion, hpromotion, hof, hsame⟩
      · exact hkept
      · -- the deleted promotion would answer the same request
        have hkey := hc.unitOwner _ _ _ _ hpromotion hrow (.inr (hsame.trans hrequest.symm))
        rw [hkey, hrow] at hpromotion
        rw [Option.some.inj hpromotion] at hid
        exact absurd hof hid
  · right
    by_cases hid : done.2.unit.purchaseUnitId = id
    · rw [hid]
      exact hd.deleted
    · rw [hd.deletions _ hid]
      exact hdeleted

theorem Accounted.command (hc : Consistent services t) (h : Accounted services log t)
    (command : Command) :
    Accounted services (log ++ command.carriedOut services t) (command.tables services t) := by
  cases command with
  | list request => simpa [Command.carriedOut, Command.tables] using h
  | promote request nowMs =>
    rcases hrun : promoteReceiptPurchaseUnit services request nowMs t with ⟨e | response, t'⟩
    · obtain rfl := atomically_of_error hrun
      simpa [Command.carriedOut, Command.tables, hrun] using h
    · obtain ⟨rfl, row, -, -, -, hreplayed⟩ | ⟨current, hpromotes, rfl⟩ :=
        promoteReceiptPurchaseUnit_eq_ok hrun
      · -- a replay says so
        have hstatus : response.replayStatus = .replayed := by
          unfold replayedPromotion at hreplayed
          split at hreplayed
          · obtain ⟨⟨⟩, -, hreplayed⟩ := check_bind_eq_ok.mp hreplayed
            cases hreplayed
            rfl
          · cases hreplayed
          · cases hreplayed
        simpa [Command.carriedOut, Command.tables, hrun, hstatus] using h
      · obtain ⟨promotedAt, hanswer⟩ := hpromotes.answer
        have hstatus : response.replayStatus = .created := by
          rw [hanswer]
          rfl
        simp only [Command.carriedOut, Command.tables, hrun, hstatus, if_pos]
        exact h.promote hpromotes
  | review request nowMs =>
    rw [Command.carriedOut, Command.tables, append_nil]
    rcases hrun : reviewReceipt services request nowMs t with ⟨e | response, t'⟩
    · obtain rfl := atomically_of_error hrun
      exact h
    · obtain ⟨-, rfl⟩ | ⟨loaded, hunanswered, -, -, -, -, -, rfl, -⟩ := reviewReceipt_eq_ok hrun
      · exact h
      · refine h.mono fun done hkept => hkept.mono (fun _ _ hrow => hrow) ?_ fun _ hd => hd
        intro id row hrow
        simp only [afterReview, find?_put]
        rw [if_neg]
        · exact hrow
        · rintro rfl
          rw [hunanswered] at hrow
          cases hrow
  | delete target deletionRequestId nowMs =>
    rw [Command.carriedOut, Command.tables, append_nil]
    rcases hrun : deletePurchaseUnit services target deletionRequestId nowMs t with ⟨e | u, t'⟩
    · obtain rfl := atomically_of_error hrun
      exact h
    · obtain ⟨id, hdeletes⟩ := hc.deletes hrun
      exact h.mono fun done hkept => hkept.of_deletes hc hdeletes
  | store orderId row =>
    rw [Command.carriedOut, Command.tables, append_nil]
    rcases hrun : storeOrder services orderId row t with ⟨e | u, t'⟩
    · obtain rfl := atomically_of_error hrun
      exact h
    · obtain ⟨-, -, -, -, rfl⟩ := storeOrder_eq_ok hrun
      exact h.mono fun done hkept => hkept.mono (fun _ _ hrow => hrow) (fun _ _ hrow => hrow)
        fun _ hd => hd

/-- **Every run accounts for the promotions carried out in it.** -/
theorem Reachable.accounted (h : Reachable services log t) : Accounted services log t := by
  induction h with
  | fresh h => exact ⟨nodup_nil, by simp, by simp, by simp⟩
  | command h command ih => exact ih.command h.consistent command
  | elsewhere h hother ih =>
    refine ih.mono fun done hkept => hkept.mono ?_ hother.kept ?_
    · rw [hother.rows]
      exact fun _ _ hrow => hrow
    · rw [hother.rows]
      exact fun _ hd => hd

/-! ## Replay -/

/-- **A replay** answers as before and writes nothing. -/
theorem promote_of_stored (haccepted : request.validate = .ok ())
    (hstored : t.commandReceipts.find? request.requestId =
      some ⟨promoteCommand, promotionEnvelope services request, .promote response⟩)
    (hvalid : response.validate services.toContractServices = .ok ()) (nowMs : ℤ) :
    promoteReceiptPurchaseUnit services request nowMs t =
      (.ok { response with replayStatus := .replayed }, t) := by
  rw [promoteReceiptPurchaseUnit, Fallible.atomically_eq_ok, Fallible.require_bind_eq_ok,
    check_mapError_eq_ok, Fallible.state_bind, Fallible.check_bind_eq_ok]
  refine ⟨haccepted, some (.promote response), ?_, ?_⟩
  · rw [replay, hstored]
    simp
  · simp [replayedPromotion, hvalid, Except.mapError, bind, Except.bind]

/-- **A request id that was used otherwise** is a conflict that writes nothing. -/
theorem promote_of_changed (haccepted : request.validate = .ok ()) {row : CommandReceiptRow}
    (hstored : t.commandReceipts.find? request.requestId = some row)
    (hchanged : row.commandName ≠ promoteCommand ∨
      row.envelopeHash ≠ promotionEnvelope services request) (nowMs : ℤ) :
    promoteReceiptPurchaseUnit services request nowMs t =
      (.error (.conflict "command_envelope_changed"), t) := by
  have hreplay : replay t promoteCommand request.requestId (promotionEnvelope services request) =
      .error (.conflict "command_envelope_changed") := by
    rw [replay, hstored]
    simp only
    rw [if_neg]
    rintro ⟨hname, hhash⟩
    exact hchanged.elim (fun h => h hname) (fun h => h hhash)
  rw [promoteReceiptPurchaseUnit, atomically]
  simp only [check_bind, haccepted, Except.mapError, state_bind, hreplay]

/-- **A promotion that is not as expected** fails and writes nothing. -/
theorem promote_of_stale (hunanswered : t.commandReceipts.find? request.requestId = none)
    (hstale : ∀ projection current, projectPurchaseUnits services t none = .ok projection →
      current ∈ projection.units → current.purchaseUnitId = request.purchaseUnitId →
      t.catalogRevision ≠ request.expectedCatalogRevision ∨ ¬ request.Expects current) (nowMs : ℤ) :
    ∃ e, promoteReceiptPurchaseUnit services request nowMs t = (.error e, t) := by
  rcases hrun : promoteReceiptPurchaseUnit services request nowMs t with ⟨e | response, t'⟩
  · obtain rfl := atomically_of_error hrun
    exact ⟨e, rfl⟩
  · exfalso
    obtain ⟨-, row, hrow, -⟩ | ⟨current, hpromotes, -⟩ := promoteReceiptPurchaseUnit_eq_ok hrun
    · rw [hunanswered] at hrow
      cases hrow
    · obtain ⟨projection, hproject, hfind⟩ := hpromotes.projected
      have hfound : current ∈ projection.units ∧
          current.purchaseUnitId = request.purchaseUnitId := by
        refine ⟨?_, hpromotes.unitOf.1⟩
        unfold Projection.findUnit at hfind
        split at hfind
        · rename_i found hsome
          cases hfind
          exact mem_of_find?_eq_some hsome
        · split at hfind <;> cases hfind
      rcases hstale projection current hproject hfound.1 hfound.2 with hcatalog | hexpects
      · exact hcatalog hpromotes.catalogRevision
      · exact hexpects hpromotes.expected

/-! ## One authority -/

/-- **What is offered** is of the only authority its source has promotions or deletions under. -/
theorem available_authority {sourceFilter : Option SourceId} {projection : Projection}
    (h : projectPurchaseUnits services t sourceFilter = .ok projection)
    {unit : ReceiptPurchaseUnitV1} (hunit : unit ∈ projection.units)
    (havailable : unit.status = .available) :
    (∀ key row snapshot, t.promotions.find? key = some row →
        t.snapshots.find? row.authoritySnapshotId = some snapshot →
        snapshot.localSourceId = unit.authority.sourceId →
        snapshot.authorityId = unit.authority.authorityId ∧
          snapshot.orderEvidenceId = unit.authority.orderEvidenceId) ∧
      ∀ id row, t.deletions.find? id = some row → row.localSourceId = unit.authority.sourceId →
        row.authorityId = unit.authority.authorityId ∧
          row.orderEvidenceId = unit.authority.orderEvidenceId := by
  rcases unit_of_projection h hunit with ⟨offered, hoffered, hof⟩ | ⟨joined, -, rfl⟩
  · obtain ⟨-, hload, -⟩ := mem_offeredLines.mp hoffered
    obtain ⟨row, reviewHead, -, -, -, horder⟩ := loadOrder_eq_ok hload
    obtain ⟨decision, values, provenance, hoffers, -, hunit⟩ := hof.offers
    have hunchanged := hoffers.unchanged
    simp only [sourceHasPriorAuthorityState, Bool.or_eq_false_iff, any_eq_false] at hunchanged
    obtain ⟨hpromotions, hdeletions⟩ := hunchanged
    have hid : unit.authority.orderEvidenceId = offered.head.orderEvidenceId := by
      rw [hunit]
      simp [currentUnit, sourceAuthority, horder, OrderRow.order]
    have hauthority : unit.authority.authorityId = offered.head.authorityId := by
      rw [hunit]
      rfl
    have hsource : unit.authority.sourceId = offered.source := by
      rw [hunit]
      rfl
    rw [hid, hauthority, hsource]
    refine ⟨fun key row snapshot hrow hsnapshot hlocal => ?_, fun id row hrow hlocal => ?_⟩
    · have hnone := hpromotions (key, row) (mem_rows.mpr hrow)
      simpa [hsnapshot, hlocal] using hnone
    · have hnone := hdeletions (id, row) (mem_rows.mpr hrow)
      simpa [hlocal] using hnone
  · cases havailable

/-! ## Exactly once -/

/-- **Promotion is exactly once**, over every run. The promotions carried out are of different
units, and each is kept, answer and all, unless its unit was deleted; what is offered is under
the only authority its source has promotions or deletions under; a replay answers as before, a
request id that was used otherwise is a conflict, a promotion that is not as expected fails, and
none of these writes anything. -/
theorem promotion_exactly_once {log : List CarriedOut} (h : Reachable services log t) :
    ((log.map CarriedOut.key).Nodup ∧
        ∀ done ∈ log, done.1.validate = .ok () ∧ done.Kept services t) ∧
      (∀ sourceFilter projection unit,
        projectPurchaseUnits services t sourceFilter = .ok projection → unit ∈ projection.units →
        unit.status = .available →
        (∀ key row, t.promotions.find? key = some row →
            ∃ snapshot, t.snapshots.find? row.authoritySnapshotId = some snapshot ∧
              (snapshot.localSourceId = unit.authority.sourceId →
                snapshot.authorityId = unit.authority.authorityId ∧
                  snapshot.orderEvidenceId = unit.authority.orderEvidenceId)) ∧
          ∀ id row, t.deletions.find? id = some row → row.localSourceId = unit.authority.sourceId →
            row.authorityId = unit.authority.authorityId ∧
              row.orderEvidenceId = unit.authority.orderEvidenceId) ∧
      (∀ done ∈ log, ∀ (request : PromoteReceiptPurchaseUnitV1Request) (nowMs : ℤ),
        request.validate = .ok () → request.requestId = done.1.requestId →
        promotionEnvelope services request = promotionEnvelope services done.1 →
        t.deletions.find? done.2.unit.purchaseUnitId = none →
        promoteReceiptPurchaseUnit services request nowMs t =
          (.ok { done.2 with replayStatus := .replayed }, t)) ∧
      (∀ (request : PromoteReceiptPurchaseUnitV1Request) (row : CommandReceiptRow) (nowMs : ℤ),
        request.validate = .ok () → t.commandReceipts.find? request.requestId = some row →
        row.commandName ≠ promoteCommand ∨
          row.envelopeHash ≠ promotionEnvelope services request →
        promoteReceiptPurchaseUnit services request nowMs t =
          (.error (.conflict "command_envelope_changed"), t)) ∧
      ∀ (request : PromoteReceiptPurchaseUnitV1Request) (nowMs : ℤ),
        t.commandReceipts.find? request.requestId = none →
        (∀ projection current, projectPurchaseUnits services t none = .ok projection →
          current ∈ projection.units → current.purchaseUnitId = request.purchaseUnitId →
          t.catalogRevision ≠ request.expectedCatalogRevision ∨ ¬ request.Expects current) →
        ∃ e, promoteReceiptPurchaseUnit services request nowMs t = (.error e, t) := by
  have hc := h.consistent
  have ha := h.accounted
  refine ⟨⟨ha.once, fun done hdone => ⟨(ha.accepted done hdone).1, ha.kept done hdone⟩⟩, ?_, ?_, ?_,
    fun request nowMs hnone hstale => promote_of_stale hnone hstale nowMs⟩
  · intro sourceFilter projection unit hproject hunit havailable
    obtain ⟨hpromotions, hdeletions⟩ := available_authority hproject hunit havailable
    refine ⟨fun key row hrow => ?_, hdeletions⟩
    obtain ⟨snapshot, hsnapshot, -⟩ := (hc.promotions key row hrow).snapshot
    exact ⟨snapshot, hsnapshot, hpromotions key row snapshot hrow hsnapshot⟩
  · intro done hdone request nowMs haccepted hid henvelope hundeleted
    obtain ⟨-, hvalid⟩ := ha.accepted done hdone
    rcases ha.kept done hdone with ⟨row, -, -, -, hreceipt⟩ | hdeleted
    · rw [← hid, ← henvelope] at hreceipt
      exact promote_of_stored haccepted hreceipt hvalid nowMs
    · rw [hundeleted] at hdeleted
      cases hdeleted
  · intro request row nowMs haccepted hrow hchanged
    exact promote_of_changed haccepted hrow hchanged nowMs

namespace PromotionExample

def lastByteDigest (bytes : List UInt8) : String :=
  String.ofList ((List.replicate (bytes.getLast?.getD 0).toNat '1' ++ List.replicate 64 '0').take 64)

def exampleServices : PromotionServices where
  digest := lastByteDigest
  parsesTimestamp := fun _ => true
  timestampFromMs := fun _ => .ok "2026-01-01T00:00:00Z"
  serializeUnit := fun _ _ _ _ => []
  serializePromotion := fun request => [UInt8.ofNat request.expectedCatalogRevision]
  serializeReview := fun request => [UInt8.ofNat request.expectedReceiptRevision]

def noTables : PromotionTables where
  receiptRevision := 0
  evidenceGeneration := 0
  catalogRevision := 0
  orders := .empty
  reviewDecisions := .empty
  reviewHeads := .empty
  authorityHeads := .empty
  snapshots := .empty
  promotions := .empty
  deletions := .empty
  commandReceipts := .empty
  catalogItems := .empty
  evidence := .empty
  catalogDecisions := .empty

theorem noTables_fresh : Fresh noTables := ⟨rfl, rfl, rfl, rfl, rfl, rfl, rfl⟩

def cited {α : Type} (value : α) : EvidenceV1 α := ⟨some value, [⟨.above 9, 0, 1, ""⟩]⟩

def unknown {α : Type} : EvidenceV1 α := ⟨none, []⟩

def orderRow (quantity price : ℕ) : OrderRow where
  runId := .above 2
  runCreatedAtMs := 0
  parseId := .above 3
  sourceId := .above 4
  output := ⟨unknown, unknown, unknown, unknown,
    [⟨unknown, cited .purchase, cited quantity, cited price,
      ⟨unknown, unknown, unknown, unknown⟩⟩]⟩
  lineIds := [(.above 5, .above 6)]

def confirmation (receiptRevision : ℕ) : ReviewReceiptV1Request :=
  ⟨1, .above 7, .above 1, .confirm, none, receiptRevision⟩

def promotion : PromoteReceiptPurchaseUnitV1Request where
  schemaVersion := 1
  requestId := .above 8
  purchaseUnitId := digestUuid 8 (lastByteDigest
    (utf8Bytes receiptPurchaseUnitIdentityVersionV1 ++ [0] ++ uuidBytes (.above 5) ++
      bigEndian32 0))
  expectedPurchaseUnitRevision := 1
  expectedUnitSnapshotSha256 := lastByteDigest []
  expectedAuthorityId := ⟨.above 7⟩
  expectedAuthorityRevision := 1
  expectedReceiptRevision := 1
  expectedReviewDecisionId := ⟨.above 7⟩
  expectedCatalogRevision := 0
  attributes := ⟨"Coat", .outerwear, none, none, none, none, none, []⟩

def commands : List Command :=
  [.store (.above 1) (orderRow 2 100), .review (confirmation 0) 0, .promote promotion 0]

def run : List CarriedOut × PromotionTables := runAll exampleServices noTables commands

theorem run_reachable : Reachable exampleServices run.1 run.2 := by
  have hfresh : Reachable exampleServices [] noTables := .fresh noTables_fresh
  have hrun := hfresh.runAll commands
  rw [nil_append] at hrun
  exact hrun

theorem run_exactly_once :
    ∃ done, run.1 = [done] ∧ ∀ nowMs,
      promoteReceiptPurchaseUnit exampleServices promotion nowMs run.2 =
        (.ok { done.2 with replayStatus := .replayed }, run.2) := by
  have hlength : run.1.length = 1 := by decide +kernel
  have hlogged : ∀ done ∈ run.1, done.1 = promotion ∧
      run.2.deletions.find? done.2.unit.purchaseUnitId = none := by decide +kernel
  obtain ⟨done, hrun⟩ := List.length_eq_one_iff.mp hlength
  have hdone : done ∈ run.1 := by rw [hrun]; exact List.mem_singleton_self done
  obtain ⟨hrequest, hundeleted⟩ := hlogged done hdone
  refine ⟨done, hrun, fun nowMs => ?_⟩
  obtain ⟨-, -, hreplay, -⟩ := promotion_exactly_once run_reachable
  exact hreplay done hdone promotion nowMs (by decide +kernel) (by rw [hrequest]) (by rw [hrequest])
    hundeleted

end PromotionExample

end Threadbook.Promotion
