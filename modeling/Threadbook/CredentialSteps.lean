import Threadbook.CredentialInvariant

/-!
# What each step does to the two stores

One statement for each action: where the vault is consistent and the action is taken as the
commands take it, the vault stays consistent, what others rely on is left as it is
(`Guarantees`), and the answer is one of these.
-/

namespace Threadbook.Credentials

open Fallible Table List

def VaultAction.ofStartup {β : Type} : VaultAction β → Bool
  | .database (.settleSave _ _) | .database (.settleDelete _) => true
  | _ => false

def VaultAction.prepares {β : Type} : VaultAction β → Option CredentialId
  | .database (.prepare _ id) => some id
  | _ => none

/-- What others rely on. -/
structure Guarantees (services : CredentialServices) {β : Type} (action : VaultAction β)
    (v v' : Vault) : Prop where
  kept : Consistent services v'
  settles : action.ofStartup = false → Settles v v'
  spares : ∀ requestId, action.ofStartup = false → action.prepares ≠ some ⟨requestId⟩ →
    Spares requestId v v'

section Steps

variable {services : CredentialServices} {v v' : Vault} {β : Type} {action : VaultAction β}

theorem Consistent.guarantees (h : Consistent services v) : Guarantees services action v v where
  kept := h
  settles := fun _ => .refl v
  spares := fun requestId _ _ => .refl requestId v

theorem Consistent.other (h : Consistent services v) {requestId : String} (commandName : String)
    (hnew : v.receipts.find? requestId = none) :
    let v' := { v with receipts := v.receipts.put requestId (.other commandName) }
    Consistent services v' ∧ Settles v v' := by
  have hreceipts : ∀ r envelope, v.receipts.find? r = some envelope →
      (v.receipts.put requestId (.other commandName)).find? r = some envelope :=
    fun _ _ hr => find?_put_of_new hnew hr
  have hsettles : Settles v { v with receipts := v.receipts.put requestId (.other commandName) } :=
    { Settles.refl v with receipts := hreceipts }
  have hdelete : ∀ d id, (v.receipts.put requestId (.other commandName)).find? d =
      some (.delete id) → v.receipts.find? d = some (.delete id) := by
    intro d id hd
    rw [find?_put] at hd
    split at hd
    · cases hd
    · exact hd
  refine ⟨{ h with
    saved := fun id row hrow => ?_
    reserved := fun r l hentry => hsettles.receipts_isSome (h.reserved r l hentry)
    prepared := fun d id row hd hrow => h.prepared d id row (hdelete d id hd) hrow
    requested := fun id row d hrow hd => hreceipts d _ (h.requested id row d hrow hd)
    finished := fun d hd => hsettles.receipts_isSome (h.finished d hd)
    gone := fun d id hd hrow => h.gone d id (hdelete d id hd) hrow
    deleted := fun id hid => (h.deleted id hid).imp_right hsettles.receipts_isSome },
    hsettles⟩
  obtain ⟨hsave, hreceipt, hentry, hvalid⟩ := h.saved id row hrow
  exact ⟨hsave, hreceipts _ _ hreceipt, hentry, hvalid⟩

theorem perform_database {operation : VaultOperation β} {o : VaultOutside}
    {answer : Except CommandError β}
    (hperform : vaultMachine.perform (.database operation) o v = (answer, v')) :
    answer = .error .failed ∧ v' = v ∨
      (operation.run o v).1.mapError .platform = answer ∧ (operation.run o v).2 = v' := by
  change (if o.fails then (.error .failed, v) else _) = (answer, v') at hperform
  split at hperform
  · exact .inl ⟨(Prod.mk.inj hperform).1.symm, (Prod.mk.inj hperform).2.symm⟩
  · exact .inr (Prod.mk.inj hperform)

end Steps

/-! ## Saving -/

variable {answer : Except CommandError PUnit}

section Saving

variable {services : CredentialServices} {v : Vault} {requestId displayLabel locator : String}
  {provider : CredentialProviderV1} {nowMs : ℤ}

theorem reserveCoreCredential_of_receipt {envelope : CommandEnvelope}
    (hreceipt : v.receipts.find? requestId = some envelope) :
    reserveCoreCredential requestId provider displayLabel locator nowMs v =
      (if envelope ≠ .save provider displayLabel then .error (.conflict "command_envelope_changed")
      else match v.bySaveRequest requestId with
        | none => .error (.corrupt "credential_receipt_without_reference")
        | some (id, row) => .ok (if row.status = .active then .replay (row.reference id)
            else .writeSecret row.locator (row.reference id)), v) := by
  refine atomically_of_same ?_
  rw [state_bind]
  simp only [hreceipt]
  by_cases hchanged : envelope ≠ .save provider displayLabel
  · rw [rejectIf, if_pos hchanged, if_pos hchanged]
    rfl
  · rw [rejectIf, if_neg hchanged, if_neg hchanged]
    rcases v.bySaveRequest requestId with _ | ⟨id, row⟩
    · rfl
    · by_cases hactive : row.status = .active
      · simp only [if_pos hactive]
        rfl
      · simp only [if_neg hactive]
        rfl

theorem reserveCoreCredential_of_new (h : Consistent services v)
    (hnew : v.receipts.find? requestId = none) (hfresh : ∀ entry ∈ v.issued, entry.2 ≠ locator)
    (hlabel : services.validLabel displayLabel = true) :
    reserveCoreCredential requestId provider displayLabel locator nowMs v =
      (.ok (.writeSecret locator ⟨⟨requestId⟩, provider, displayLabel, .pendingSave, nowMs⟩),
        v.reserve requestId provider displayLabel locator nowMs) := by
  refine atomically_eq_ok.mpr ?_
  rw [state_bind]
  simp only [hnew]
  have hfree : ¬ ((v.rows.find? ⟨requestId⟩).isSome ∨ ∃ entry ∈ v.rows.rows,
      entry.2.locator = locator ∨ entry.2.saveRequestId = requestId) := by
    rw [h.row_eq_none hnew]
    rintro (hsome | ⟨⟨id, row⟩, hmem, hlocator | hsave⟩)
    · cases hsome
    · exact hfresh _ (h.saved id row (mem_rows.mp hmem)).2.2.1 hlocator
    · obtain ⟨hid, hreceipt, -⟩ := h.saved id row (mem_rows.mp hmem)
      rw [← hid, hsave, hnew] at hreceipt
      cases hreceipt
  refine rejectIf_bind_eq_ok.mpr ⟨hfree, ?_⟩
  rw [update_bind, state_bind]
  have hafter := (h.reserve hnew hfresh hlabel provider nowMs).bySaveRequest requestId
  rw [Vault.reserve, find?_put, if_pos rfl, Option.map_some] at hafter
  simp only [hafter]
  rfl

/-- **Reserving** a credential. -/
theorem reserve_spec (h : Consistent services v) {o : VaultOutside}
    (hfresh : ∀ entry ∈ v.issued, entry.2 ≠ o.locator)
    (hlabel : services.validLabel displayLabel = true)
    (hallowed : v.receipts.find? requestId = some (.save provider displayLabel) →
      ∃ locator, v.Savable requestId locator) {answer : Except CommandError SaveCredentialPlanV1}
    {v' : Vault}
    (hperform : vaultMachine.perform (.database (.reserve requestId provider displayLabel)) o v =
      (answer, v')) :
    Guarantees services (.database (.reserve requestId provider displayLabel)) v v' ∧
      (answer = .error .failed ∨
        answer = .error (.platform (.conflict "command_envelope_changed")) ∨
        (∃ reference : CredentialReferenceV1, answer = .ok (.replay reference) ∧
          reference.credentialId = ⟨requestId⟩ ∧ reference.provider = provider ∧
          reference.displayLabel = displayLabel ∧ reference.status = .active) ∨
        ∃ (locator : String) (reference : CredentialReferenceV1),
          answer = .ok (.writeSecret locator reference) ∧ reference.credentialId = ⟨requestId⟩ ∧
          reference.status = .pendingSave ∧ v'.Savable requestId locator ∧
          (requestId, locator) ∈ v'.issued ∧
          v'.receipts.find? requestId = some (.save provider displayLabel)) := by
  rcases perform_database hperform with ⟨rfl, rfl⟩ | ⟨hanswer, hafter⟩
  · exact ⟨h.guarantees, .inl rfl⟩
  rw [VaultOperation.run] at hanswer hafter
  rcases hreceipt : v.receipts.find? requestId with _ | envelope
  · -- the request is new
    rw [reserveCoreCredential_of_new h hreceipt hfresh hlabel] at hanswer hafter
    subst hanswer hafter
    have hchanges := Vault.changes_reserve provider displayLabel o.locator o.nowMs hreceipt
    have hnone := h.row_eq_none hreceipt
    refine ⟨⟨h.reserve hreceipt hfresh hlabel provider o.nowMs, fun _ => ?_, fun r _ _ => ?_⟩,
      .inr (.inr (.inr ⟨o.locator, _, rfl, rfl, rfl,
        ⟨_, (hchanges.rows _).trans (if_pos rfl), rfl, .inl rfl⟩, mem_cons_self, ?_⟩))⟩
    · refine hchanges.settles (fun _ => .inl hreceipt) fun row hrow => ?_
      rw [hnone] at hrow
      cases hrow
    · refine hchanges.spares fun _ row hrow => ?_
      rw [hnone] at hrow
      cases hrow
    · rw [Vault.reserve, find?_put, if_pos rfl]
  · -- the request is replayed
    rw [reserveCoreCredential_of_receipt hreceipt] at hanswer hafter
    subst hafter
    refine ⟨h.guarantees, ?_⟩
    by_cases hchanged : envelope ≠ .save provider displayLabel
    · rw [if_pos hchanged] at hanswer
      exact .inr (.inl hanswer.symm)
    rw [if_neg hchanged] at hanswer
    rw [not_not.mp hchanged] at hreceipt
    obtain ⟨l, row, hrow, hat, hstatus⟩ := hallowed hreceipt
    obtain ⟨-, hsaved, hentry, -⟩ := h.saved _ row hrow
    rw [hreceipt] at hsaved
    obtain ⟨hprovider, hlabel⟩ := CommandEnvelope.save.inj (Option.some.inj hsaved)
    rw [h.bySaveRequest, hrow] at hanswer
    subst hanswer hat
    by_cases hactive : row.status = .active
    · refine .inr (.inr (.inl ⟨row.reference ⟨requestId⟩, ?_, rfl, hprovider.symm,
        hlabel.symm, hactive⟩))
      simp [hactive, Except.mapError]
    · refine .inr (.inr (.inr ⟨row.locator, row.reference ⟨requestId⟩, ?_, rfl,
        hstatus.resolve_right hactive, ⟨row, hrow, rfl, hstatus⟩, hentry, hreceipt⟩))
      simp [hactive, Except.mapError]

/-- **Writing a secret** for a credential that can be activated. -/
theorem put_spec (h : Consistent services v) (hsavable : v.Savable requestId locator)
    (hissued : (requestId, locator) ∈ v.issued) {secret : String} {o : VaultOutside} {v' : Vault}
    (hperform : vaultMachine.perform (.put locator secret) o v = (answer, v')) :
    Guarantees services (.put locator secret) v v' ∧
      (answer = .error .failed ∨ answer = .ok ⟨⟩ ∧ v'.Has locator) := by
  have hput : Guarantees services (.put locator secret) v
      { v with keychain := v.keychain.put locator secret } := by
    obtain ⟨row, hrow, hat, hstatus⟩ := hsavable
    have hkept : row.status ≠ .saveFailed := by
      rcases hstatus with hstatus | hstatus <;> simp [hstatus]
    refine ⟨h.putSecret hissued hrow hkept secret, fun _ => ?_, fun r _ _ l hother => ?_⟩
    · refine { Settles.refl v with marked := fun id found _ hfound hmarked => ?_ }
      refine .inr ⟨found, hfound, hmarked, rfl, fun hnot hthere => ?_⟩
      rcases Vault.has_put.mp hthere with heq | hthere
      · -- one locator is issued for one credential
        have hentry := (h.saved id found hfound).2.2.1
        rw [heq] at hentry
        have hid : id = ⟨requestId⟩ :=
          congrArg CredentialId.mk (h.request _ _ _ hentry hissued)
        rw [hid, hrow] at hfound
        cases hfound
        rw [hmarked] at hstatus
        simp at hstatus
      · exact hnot hthere
    · exact ⟨hother, fun hthere => Vault.has_put.mpr (.inr hthere)⟩
  change ((if o.fails then .error .failed else .ok ⟨⟩), (if o.fails ∧ ¬ o.effect then v else _)) =
    (answer, v') at hperform
  cases hperform
  by_cases hfails : o.fails = true
  · refine ⟨?_, .inl (if_pos hfails)⟩
    split
    · exact h.guarantees
    · exact hput
  · rw [if_neg hfails, if_neg fun hboth => hfails hboth.1]
    exact ⟨hput, .inr ⟨rfl, Vault.has_put.mpr (.inl rfl)⟩⟩

/-- **Activating** a credential that has its secret. -/
theorem activate_spec (h : Consistent services v) (hsavable : v.Savable requestId locator)
    (hthere : v.Has locator) {o : VaultOutside} {answer : Except CommandError CredentialReferenceV1}
    {v' : Vault}
    (hperform : vaultMachine.perform (.database (.activate requestId ⟨requestId⟩)) o v =
      (answer, v')) :
    Guarantees services (.database (.activate requestId ⟨requestId⟩)) v v' ∧
      (answer = .error .failed ∨ ∃ reference, answer = .ok reference ∧
        reference.credentialId = ⟨requestId⟩ ∧ reference.status = .active ∧
        services.validLabel reference.displayLabel = true ∧
        v.receipts.find? requestId = some (.save reference.provider reference.displayLabel)) := by
  rcases perform_database hperform with ⟨rfl, rfl⟩ | ⟨hanswer, hafter⟩
  · exact ⟨h.guarantees, .inl rfl⟩
  obtain ⟨row, hrow, rfl, hstatus⟩ := hsavable
  obtain ⟨hsave, hreceipt, -, hvalid⟩ := h.saved _ row hrow
  have hrun : activateCoreCredential requestId ⟨requestId⟩ o.nowMs v =
      (.ok ⟨⟨requestId⟩, row.provider, row.displayLabel, .active, o.nowMs⟩, { v with
          rows := v.rows.put ⟨requestId⟩
            { row with status := .active, updatedAtMs := o.nowMs } }) := by
    rw [activateCoreCredential, state_bind]
    simp only [hrow]
    refine rejectIf_bind_eq_ok.mpr ⟨?_, ?_⟩
    · rintro (hne | ⟨hpending, hactive⟩)
      · exact hne hsave
      · exact hstatus.elim hpending hactive
    · simp [find?_put, CredentialRow.reference]
  rw [VaultOperation.run, hrun] at hanswer hafter
  subst hanswer hafter
  have hopen : row.status ≠ .pendingDelete := by
    rcases hstatus with hstatus | hstatus <;> simp [hstatus]
  have hchanges : Changes ⟨requestId⟩
      (some { row with status := .active, updatedAtMs := o.nowMs }) v { v with
        rows := v.rows.put ⟨requestId⟩ { row with status := .active, updatedAtMs := o.nowMs } } :=
    ⟨fun other => find?_put _ _ _ other, fun _ _ => id, rfl, fun _ => id, fun _ => id, fun _ => id⟩
  refine ⟨⟨?_, fun _ => ?_, fun r _ _ => ?_⟩, .inr ⟨_, rfl, rfl, rfl, hvalid, hreceipt⟩⟩
  · exact h.rewrite hrow hchanges hopen (by simp) (fun _ => hthere) (by simp) rfl rfl rfl rfl
  · refine hchanges.settles (fun hnone => ?_) fun found hfound hmarked => ?_
    · rw [hrow] at hnone
      cases hnone
    · rw [hrow] at hfound
      rw [← Option.some.inj hfound] at hmarked
      exact absurd hmarked hopen
  · refine hchanges.spares fun _ found hfound _ => ⟨_, rfl, ?_, .inr rfl⟩
    rw [hrow] at hfound
    rw [← Option.some.inj hfound]

end Saving

/-! ## Deleting -/

section Deleting

variable {services : CredentialServices} {v v' : Vault} {requestId : String} {id : CredentialId}
  {o : VaultOutside} {nowMs : ℤ}

theorem prepareCoreCredentialDelete_of_receipt {envelope : CommandEnvelope}
    (hreceipt : v.receipts.find? requestId = some envelope) :
    prepareCoreCredentialDelete requestId id nowMs v =
      (if envelope ≠ .delete id then .error (.conflict "command_envelope_changed")
      else match v.rows.find? id with
        | some row => .ok (.deleteSecret row.locator id)
        | none => .ok (.replay id true), v) := by
  refine atomically_of_same ?_
  rw [state_bind]
  simp only [hreceipt]
  by_cases hchanged : envelope ≠ .delete id
  · rw [rejectIf, if_pos hchanged, if_pos hchanged]
    rfl
  · rw [rejectIf, if_neg hchanged, if_neg hchanged]
    rcases v.rows.find? id with _ | row <;> rfl

theorem prepareCoreCredentialDelete_of_new (h : Consistent services v)
    (hnew : v.receipts.find? requestId = none) :
    prepareCoreCredentialDelete requestId id nowMs v =
      match v.rows.find? id with
      | none => (.error (.invalidInput "credential_id"), v)
      | some row => (.ok (.deleteSecret row.locator id), v.mark requestId id row nowMs) := by
  rcases hrow : v.rows.find? id with _ | row
  · refine atomically_of_same ?_
    rw [state_bind]
    simp only [hnew, hrow]
    rfl
  · refine atomically_eq_ok.mpr ?_
    rw [state_bind]
    simp only [hnew, hrow]
    refine rejectIf_bind_eq_ok.mpr ⟨?_, rfl⟩
    -- a request without a receipt marks no row
    rintro ⟨⟨other, found⟩, hmem, -, hmarks⟩
    have hsome := h.requested other found requestId (mem_rows.mp hmem) hmarks
    rw [hnew] at hsome
    cases hsome

/-- **Preparing** a deletion. -/
theorem prepare_spec (h : Consistent services v)
    {answer : Except CommandError DeleteCredentialPlanV1}
    (hperform : vaultMachine.perform (.database (.prepare requestId id)) o v = (answer, v')) :
    Guarantees services (.database (.prepare requestId id)) v v' ∧ (answer = .error .failed ∨
        answer = .error (.platform (.conflict "command_envelope_changed")) ∨
        answer = .error (.platform (.invalidInput "credential_id")) ∨
        v'.receipts.find? requestId = some (.delete id) ∧
          (answer = .ok (.replay id true) ∧ id ∈ v'.deletions ∨
            ∃ row, answer = .ok (.deleteSecret row.locator id) ∧ v'.rows.find? id = some row ∧
              row.status = .pendingDelete)) := by
  rcases perform_database hperform with ⟨rfl, rfl⟩ | ⟨hanswer, hafter⟩
  · exact ⟨h.guarantees, .inl rfl⟩
  rw [VaultOperation.run] at hanswer hafter
  rcases hreceipt : v.receipts.find? requestId with _ | envelope
  · rw [prepareCoreCredentialDelete_of_new h hreceipt] at hanswer hafter
    rcases hrow : v.rows.find? id with _ | row <;> rw [hrow] at hanswer hafter <;>
      subst hanswer hafter
    · exact ⟨h.guarantees, .inr (.inr (.inl rfl))⟩
    have hchanges := Vault.changes_mark id row o.nowMs hreceipt
    refine ⟨⟨h.mark hreceipt hrow o.nowMs, fun _ => ?_, fun r _ hprepares => ?_⟩,
      .inr (.inr (.inr ⟨?_, .inr ⟨row.marked requestId o.nowMs, rfl,
        (hchanges.rows id).trans (if_pos rfl), rfl⟩⟩))⟩
    · refine hchanges.settles (fun hnone => ?_) fun found hfound _ => .inr ⟨_, rfl, rfl, ?_⟩
      · rw [hrow] at hnone
        cases hnone
      · rw [hrow] at hfound
        rw [← Option.some.inj hfound]
        rfl
    · exact hchanges.spares fun heq => absurd (congrArg some heq.symm) hprepares
    · exact (find?_put v.receipts _ _ _).trans (if_pos rfl)
  · rw [prepareCoreCredentialDelete_of_receipt hreceipt] at hanswer hafter
    subst hafter
    refine ⟨h.guarantees, ?_⟩
    by_cases hchanged : envelope ≠ .delete id
    · rw [if_pos hchanged] at hanswer
      exact .inr (.inl hanswer.symm)
    rw [if_neg hchanged] at hanswer
    rw [not_not.mp hchanged] at hreceipt
    refine .inr (.inr (.inr ⟨hreceipt, ?_⟩))
    rcases hrow : v.rows.find? id with _ | row <;> rw [hrow] at hanswer <;> subst hanswer
    · exact .inl ⟨rfl, h.gone requestId id hreceipt hrow⟩
    · exact .inr ⟨row, rfl, rfl, h.prepared requestId id row hreceipt hrow⟩

/-- **Deleting a secret** whose credential is marked, or gone. -/
theorem delete_spec (h : Consistent services v) {locator : String}
    (hissued : (id.saveRequestId, locator) ∈ v.issued)
    (hmarked : ∀ row, v.rows.find? id = some row → row.status = .pendingDelete)
    (hperform : vaultMachine.perform (.delete locator) o v = (answer, v')) :
    Guarantees services (.delete locator) v v' ∧ v'.rows = v.rows ∧ v'.receipts = v.receipts ∧
      (answer = .error .failed ∨ answer = .ok ⟨⟩ ∧ ¬ v'.Has locator) := by
  have hdelete : Guarantees services (.delete locator) v
      { v with keychain := v.keychain.delete locator } := by
    refine ⟨h.deleteSecret hissued fun row hrow => ?_, fun _ => ?_, fun r _ _ l hother => ?_⟩
    · rw [hmarked row hrow]
      simp
    · exact { Settles.refl v with
        marked := fun other found _ hfound hstatus => .inr ⟨found, hfound, hstatus, rfl,
          fun hnot hthere => hnot (Vault.has_delete.mp hthere).2⟩ }
    · refine ⟨hother, fun hthere => Vault.has_delete.mpr ⟨?_, hthere⟩⟩
      rintro rfl
      -- a credential that can be activated is not marked
      obtain ⟨row, hrow, rfl, hstatus⟩ := hother
      have hid : r = id.saveRequestId := h.request _ _ _ (h.saved _ row hrow).2.2.1 hissued
      subst hid
      rw [hmarked row hrow] at hstatus
      simp at hstatus
  change ((if o.fails then .error .failed else .ok ⟨⟩), (if o.fails ∧ ¬ o.effect then v else _)) =
    (answer, v') at hperform
  cases hperform
  by_cases hfails : o.fails = true
  · rw [if_pos hfails]
    split
    · exact ⟨h.guarantees, rfl, rfl, .inl rfl⟩
    · exact ⟨hdelete, rfl, rfl, .inl rfl⟩
  · rw [if_neg hfails, if_neg fun hboth => hfails hboth.1]
    exact ⟨hdelete, rfl, rfl, .inr ⟨rfl, fun hthere => (Vault.has_delete.mp hthere).1 rfl⟩⟩

/-- **Finishing** a deletion, once the secret is deleted. -/
theorem finish_spec (h : Consistent services v)
    (hreceipt : v.receipts.find? requestId = some (.delete id))
    (hdeleted : ∀ row, v.rows.find? id = some row → ¬ v.Has row.locator)
    (hperform : vaultMachine.perform (.database (.finish requestId id)) o v = (answer, v')) :
    Guarantees services (.database (.finish requestId id)) v v' ∧
      (answer = .error .failed ∨ answer = .ok ⟨⟩ ∧ requestId ∈ v'.finished ∧
        v'.receipts.find? requestId = some (.delete id)) := by
  rcases perform_database hperform with ⟨rfl, rfl⟩ | ⟨hanswer, hafter⟩
  · exact ⟨h.guarantees, .inl rfl⟩
  rw [VaultOperation.run, finishCoreCredentialDelete, state_bind] at hanswer hafter
  rw [update_bind] at hanswer hafter
  by_cases hmarked : (v.rows.find? id).any fun row =>
      row.deleteRequestId = some requestId ∧ row.status = .pendingDelete
  · rw [if_pos hmarked] at hanswer hafter
    subst hanswer hafter
    rcases hrow : v.rows.find? id with _ | row
    · simp [hrow] at hmarked
    obtain ⟨hmarks, hstatus⟩ : row.deleteRequestId = some requestId ∧
        row.status = .pendingDelete := by simpa [hrow] using hmarked
    have hchanges : Changes id none v { v with
        rows := v.rows.delete id, deletions := id :: v.deletions,
        finished := requestId :: v.finished } :=
      ⟨fun other => find?_delete _ _ other, fun _ _ hr => hr, rfl, fun _ hentry => hentry,
        fun _ => mem_cons_of_mem _, fun _ => mem_cons_of_mem _⟩
    refine ⟨⟨?_, fun _ => hchanges.settles (fun _ => .inr rfl) fun _ _ _ => .inl rfl,
      fun r _ _ => ?_⟩, .inr ⟨rfl, mem_cons_self, hreceipt⟩⟩
    · refine h.erase hrow hchanges (hdeleted row hrow) rfl rfl (fun d hd => ?_) rfl
      rcases mem_cons.mp hd with rfl | hd
      · exact .inr hmarks
      · exact .inl hd
    · refine hchanges.spares fun _ found hfound hsavable => ?_
      rw [hrow] at hfound
      rw [← Option.some.inj hfound, hstatus] at hsavable
      simp at hsavable
  · rw [if_neg hmarked] at hanswer hafter
    subst hanswer hafter
    refine ⟨⟨h.finish hreceipt fun row hrow hmarks => hmarked ?_, fun _ => ?_, fun r _ _ => ?_⟩,
      .inr ⟨rfl, mem_cons_self, hreceipt⟩⟩
    · simp [hrow, hmarks, h.prepared requestId id row hreceipt hrow]
    · exact { Settles.refl v with finished := fun _ => .tail _ }
    · exact fun l hsavable => ⟨hsavable, fun hthere => hthere⟩

end Deleting

/-! ## Settling -/

section Settling

variable {services : CredentialServices} {v v' : Vault} {id : CredentialId} {row : CredentialRow}
  {o : VaultOutside}

structure PendingIn (v : Vault) (entries : List (String × CredentialStatusV1)) : Prop where
  nodup : (entries.map Prod.fst).Nodup
  mem : ∀ locator status, (locator, status) ∈ entries ↔ ∃ id row, v.rows.find? id = some row ∧
    row.locator = locator ∧ row.status = status ∧ (status = .pendingSave ∨ status = .pendingDelete)

theorem Consistent.eq_of_locator (h : Consistent services v) {other : CredentialId}
    {found : CredentialRow} (hrow : v.rows.find? id = some row)
    (hfound : v.rows.find? other = some found) (hlocator : row.locator = found.locator) :
    id = other := by
  have hentry := (h.saved id row hrow).2.2.1
  rw [hlocator] at hentry
  exact congrArg CredentialId.mk (h.request _ _ _ hentry (h.saved other found hfound).2.2.1)

/-- **Reading what is pending.** -/
theorem pending_spec (h : Consistent services v)
    {answer : Except CommandError (List (String × CredentialStatusV1))}
    (hperform : vaultMachine.perform (.database .pending) o v = (answer, v')) :
    v' = v ∧ (answer = .error .failed ∨ ∃ entries, answer = .ok entries ∧ PendingIn v entries) := by
  rcases perform_database hperform with ⟨rfl, rfl⟩ | ⟨rfl, rfl⟩
  · exact ⟨rfl, .inl rfl⟩
  refine ⟨rfl, .inr ⟨_, rfl, ?_, fun locator status => ?_⟩⟩
  · rw [map_map]
    refine List.Nodup.map_on ?_ ?_
    · rintro ⟨id, row⟩ hmem ⟨other, found⟩ hmem' hlocator
      rw [mem_insertionSort, mem_filter] at hmem hmem'
      have hrow := mem_rows.mp hmem.1
      have hfound := mem_rows.mp hmem'.1
      obtain rfl := h.eq_of_locator hrow hfound hlocator
      rw [hrow] at hfound
      rw [Option.some.inj hfound]
    · exact (perm_insertionSort _ _).nodup_iff.mpr
        ((List.Nodup.of_map _ v.rows.rows_nodup).filter _)
  · rw [mem_map]
    constructor
    · rintro ⟨⟨id, row⟩, hmem, heq⟩
      rw [mem_insertionSort, mem_filter] at hmem
      cases heq
      exact ⟨id, row, mem_rows.mp hmem.1, rfl, rfl, by simpa using hmem.2⟩
    · rintro ⟨id, row, hrow, rfl, rfl, hpending⟩
      refine ⟨(id, row), ?_, rfl⟩
      rw [mem_insertionSort, mem_filter]
      exact ⟨mem_rows.mpr hrow, by simpa using hpending⟩

theorem PendingIn.settle {entry : String × CredentialStatusV1}
    {entries : List (String × CredentialStatusV1)} (hpending : PendingIn v (entry :: entries))
    (h : Consistent services v) (hrow : v.rows.find? id = some row)
    (hlocator : row.locator = entry.1) {found : Option CredentialRow}
    (hchanges : Changes id found v v')
    (hsettled : ∀ row', found = some row' →
      row'.status ≠ .pendingSave ∧ row'.status ≠ .pendingDelete) : PendingIn v' entries := by
  obtain ⟨hnew, hnodup⟩ := nodup_cons.mp hpending.nodup
  refine ⟨hnodup, fun locator status => ?_⟩
  constructor
  · intro hmem
    obtain ⟨other, row', hrow', hat, hstatus, hopen⟩ :=
      (hpending.mem locator status).mp (.tail _ hmem)
    have hne : other ≠ id := by
      rintro rfl
      rw [hrow] at hrow'
      cases hrow'
      rw [← hlocator, hat] at hnew
      exact hnew (mem_map_of_mem hmem)
    exact ⟨other, row', by rw [hchanges.rows, if_neg hne, hrow'], hat, hstatus, hopen⟩
  · rintro ⟨other, row', hrow', hat, hstatus, hopen⟩
    rw [hchanges.rows] at hrow'
    split at hrow'
    · obtain ⟨hsave, hdelete⟩ := hsettled row' hrow'
      rw [hstatus] at hsave hdelete
      exact absurd hopen (not_or.mpr ⟨hsave, hdelete⟩)
    · rename_i hne
      rcases mem_cons.mp ((hpending.mem locator status).mpr
        ⟨other, row', hrow', hat, hstatus, hopen⟩) with heq | hmem
      · refine absurd (h.eq_of_locator hrow' hrow ?_) hne
        rw [hat, hlocator, ← heq]
      · exact hmem

/-- **Settling a save** as the keychain has it. -/
theorem settleSave_spec (h : Consistent services v) (hrow : v.rows.find? id = some row)
    (hstatus : row.status = .pendingSave) {next : CredentialStatusV1}
    (hnext : next = .active ∧ v.Has row.locator ∨ next = .saveFailed ∧ ¬ v.Has row.locator)

    (hperform : vaultMachine.perform (.database (.settleSave row.locator next)) o v = (answer, v')) :
    Consistent services v' ∧ (answer = .error .failed ∨ answer = .ok ⟨⟩ ∧
      ∃ row', row'.status = next ∧ Changes id (some row') v v') := by
  rcases perform_database hperform with ⟨rfl, rfl⟩ | ⟨rfl, rfl⟩
  · exact ⟨h, Or.inl rfl⟩
  have hchanges : Changes id (some { row with status := next, updatedAtMs := o.nowMs }) v
      (settleSave row.locator next o.nowMs v).2 := by
    refine ⟨fun other => ?_, fun _ _ hr => hr, rfl, fun _ hentry => hentry, fun _ hd => hd,
      fun _ hid => hid⟩
    refine (find?_mapRows _ v.rows other).trans ?_
    split
    · rename_i heq
      rw [heq, hrow, Option.map_some, if_pos ⟨rfl, hstatus⟩]
    · rename_i hne
      rcases hfound : v.rows.find? other with _ | found
      · rfl
      · rw [Option.map_some, if_neg]
        exact fun hboth => hne (h.eq_of_locator hfound hrow hboth.1)
  refine ⟨h.rewrite hrow hchanges (by simp [hstatus]) ?_ ?_ ?_ rfl rfl rfl rfl,
    Or.inr ⟨rfl, _, rfl, hchanges⟩⟩
  · rcases hnext with ⟨hnext, -⟩ | ⟨hnext, -⟩ <;> simp [hnext]
  · rcases hnext with ⟨-, hthere⟩ | ⟨hnext, -⟩
    · exact fun _ => hthere
    · simp [hnext]
  · rcases hnext with ⟨hnext, -⟩ | ⟨-, hnot⟩
    · simp [hnext]
    · exact fun _ => hnot

/-- **Settling a deletion**, once the secret is deleted. -/
theorem settleDelete_spec (h : Consistent services v) (hrow : v.rows.find? id = some row)
    (hstatus : row.status = .pendingDelete) (hdeleted : ¬ v.Has row.locator)
    (hperform : vaultMachine.perform (.database (.settleDelete row.locator)) o v = (answer, v')) :
    Consistent services v' ∧
      (answer = .error .failed ∨ answer = .ok ⟨⟩ ∧ Changes id none v v') := by
  rcases perform_database hperform with ⟨rfl, rfl⟩ | ⟨rfl, rfl⟩
  · exact ⟨h, .inl rfl⟩
  have hmarked : ∀ other found, v.rows.find? other = some found →
      (found.markedAt row.locator = true ↔ other = id) := by
    intro other found hfound
    rw [CredentialRow.markedAt, decide_eq_true_iff]
    constructor
    · exact fun hboth => h.eq_of_locator hfound hrow hboth.1
    · rintro rfl
      rw [hrow] at hfound
      cases hfound
      exact ⟨rfl, hstatus⟩
  have hchanges : Changes id none v (settleDelete row.locator v).2 := by
    refine ⟨fun other => ?_, fun _ _ hr => hr, rfl, fun _ hentry => hentry, fun _ hd => hd,
      fun _ hid => mem_append_right _ hid⟩
    refine (find?_deleteWhere _ v.rows other).trans ?_
    rcases hfound : v.rows.find? other with _ | found
    · simp
    · by_cases heq : other = id
      · simp [heq, (hmarked other found hfound).mpr heq]
      · have hnot := mt (hmarked other found hfound).mp heq
        simp [heq, hnot]
  have hdeletions : (v.rows.rows.filter fun entry => entry.2.markedAt row.locator).map Prod.fst =
      [id] := by
    refine perm_singleton.mp ((perm_ext_iff_of_nodup ?_ (nodup_singleton id)).mpr fun other => ?_)
    · exact List.Nodup.sublist (filter_sublist.map _) v.rows.rows_nodup
    · rw [mem_map, mem_singleton]
      constructor
      · rintro ⟨⟨other, found⟩, hmem, rfl⟩
        obtain ⟨hmem, hat⟩ := mem_filter.mp hmem
        exact (hmarked other found (mem_rows.mp hmem)).mp hat
      · rintro rfl
        exact ⟨(other, row), mem_filter.mpr ⟨mem_rows.mpr hrow,
          (hmarked other row hrow).mpr rfl⟩, rfl⟩
  refine ⟨h.erase hrow hchanges hdeleted rfl rfl (fun d hd => .inl hd) ?_, .inr ⟨rfl, hchanges⟩⟩
  exact congrArg (· ++ v.deletions) hdeletions

end Settling

end Threadbook.Credentials
