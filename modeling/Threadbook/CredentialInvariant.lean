import Threadbook.CredentialStore

/-!
# What the two stores agree on

A vault is `Consistent` if a secret is there for each active credential and, under an issued
locator, for no credential that is gone or has failed; a marked credential is marked by a deletion
that is not finished, and one that is gone was deleted once. Each step keeps this where it is taken
as the commands take it, and `Settles` says what it leaves as it is.
-/

namespace Threadbook

open Table List

theorem Table.find?_put_of_new {κ ρ : Type} [DecidableEq κ] {t : Table κ ρ} {k i : κ} {r w : ρ}
    (hnew : t.find? k = none) (h : t.find? i = some w) : (t.put k r).find? i = some w := by
  have hne : i ≠ k := by
    rintro rfl
    rw [hnew] at h
    cases h
  rw [find?_put, if_neg hne, h]

namespace Credentials

/-! ## The invariant -/

def Vault.Has (v : Vault) (locator : String) : Prop := (v.keychain.find? locator).isSome

def Vault.Savable (v : Vault) (requestId locator : String) : Prop :=
  ∃ row, v.rows.find? ⟨requestId⟩ = some row ∧ row.locator = locator ∧
    (row.status = .pendingSave ∨ row.status = .active)

structure Issued (v : Vault) : Prop where
  reserved : ∀ r l, (r, l) ∈ v.issued → (v.receipts.find? r).isSome
  locator : ∀ r l l', (r, l) ∈ v.issued → (r, l') ∈ v.issued → l = l'
  request : ∀ r r' l, (r, l) ∈ v.issued → (r', l) ∈ v.issued → r = r'

structure Consistent (services : CredentialServices) (v : Vault) : Prop extends Issued v where
  saved : ∀ id row, v.rows.find? id = some row → row.saveRequestId = id.saveRequestId ∧
    v.receipts.find? id.saveRequestId = some (.save row.provider row.displayLabel) ∧
    (id.saveRequestId, row.locator) ∈ v.issued ∧ services.validLabel row.displayLabel = true
  secret : ∀ l, v.Has l → ∃ r row, (r, l) ∈ v.issued ∧ v.rows.find? ⟨r⟩ = some row ∧
    row.status ≠ .saveFailed
  active : ∀ id row, v.rows.find? id = some row → row.status = .active → v.Has row.locator
  prepared : ∀ d id row, v.receipts.find? d = some (.delete id) → v.rows.find? id = some row →
    row.status = .pendingDelete
  requested : ∀ id row d, v.rows.find? id = some row → row.deleteRequestId = some d →
    v.receipts.find? d = some (.delete id)
  marked : ∀ id row, v.rows.find? id = some row → row.status = .pendingDelete →
    ∃ d, row.deleteRequestId = some d ∧ d ∉ v.finished
  finished : ∀ d ∈ v.finished, (v.receipts.find? d).isSome
  gone : ∀ d id, v.receipts.find? d = some (.delete id) → v.rows.find? id = none → id ∈ v.deletions
  deleted : ∀ id ∈ v.deletions, v.rows.find? id = none ∧
    (v.receipts.find? id.saveRequestId).isSome
  once : v.deletions.Nodup

/-- What any step leaves as it is. -/
structure Settles (v v' : Vault) : Prop where
  receipts : ∀ r envelope, v.receipts.find? r = some envelope → v'.receipts.find? r = some envelope
  issued : ∀ entry ∈ v.issued, entry ∈ v'.issued
  finished : ∀ d ∈ v.finished, d ∈ v'.finished
  deletions : ∀ id ∈ v.deletions, id ∈ v'.deletions
  gone : ∀ id, (v.receipts.find? id.saveRequestId).isSome → v.rows.find? id = none →
    v'.rows.find? id = none
  marked : ∀ id row, (v.receipts.find? id.saveRequestId).isSome → v.rows.find? id = some row →
    row.status = .pendingDelete → v'.rows.find? id = none ∨ ∃ row', v'.rows.find? id = some row' ∧
      row'.status = .pendingDelete ∧ row'.locator = row.locator ∧
      (¬ v.Has row.locator → ¬ v'.Has row.locator)

/-- What a step leaves as it is for a save that is underway. -/
def Spares (requestId : String) (v v' : Vault) : Prop :=
  ∀ locator, v.Savable requestId locator →
    v'.Savable requestId locator ∧ (v.Has locator → v'.Has locator)

theorem Settles.refl (v : Vault) : Settles v v where
  receipts := fun _ _ => id
  issued := fun _ => id
  finished := fun _ => id
  deletions := fun _ => id
  gone := fun _ _ => id
  marked := fun _ row _ hrow hmarked => .inr ⟨row, hrow, hmarked, rfl, id⟩

theorem Settles.receipts_isSome {v v' : Vault} (h : Settles v v') {r : String}
    (hr : (v.receipts.find? r).isSome) : (v'.receipts.find? r).isSome := by
  obtain ⟨envelope, henvelope⟩ := Option.isSome_iff_exists.mp hr
  rw [h.receipts r envelope henvelope]
  rfl

theorem Settles.trans {a b c : Vault} (h : Settles a b) (h' : Settles b c) : Settles a c where
  receipts := fun r envelope hr => h'.receipts r envelope (h.receipts r envelope hr)
  issued := fun entry hentry => h'.issued entry (h.issued entry hentry)
  finished := fun d hd => h'.finished d (h.finished d hd)
  deletions := fun id hid => h'.deletions id (h.deletions id hid)
  gone := fun id hsome hnone => h'.gone id (h.receipts_isSome hsome) (h.gone id hsome hnone)
  marked := fun id row hsome hrow hmarked => by
    have hsome' := h.receipts_isSome hsome
    rcases h.marked id row hsome hrow hmarked with hnone |
      ⟨row', hrow', hmarked', hsame, hunwritten⟩
    · exact .inl (h'.gone id hsome' hnone)
    · rcases h'.marked id row' hsome' hrow' hmarked' with hnone | ⟨row'', hrow'', hmarked'', hsame',
        hunwritten'⟩
      · exact .inl hnone
      · rw [hsame] at hsame' hunwritten'
        exact .inr ⟨row'', hrow'', hmarked'', hsame', fun h => hunwritten' (hunwritten h)⟩

theorem Spares.refl (requestId : String) (v : Vault) : Spares requestId v v :=
  fun _ hsavable => ⟨hsavable, id⟩

theorem Spares.trans {requestId : String} {a b c : Vault} (h : Spares requestId a b)
    (h' : Spares requestId b c) : Spares requestId a c := by
  intro locator hsavable
  obtain ⟨hsavable, hhas⟩ := h locator hsavable
  obtain ⟨hsavable, hhas'⟩ := h' locator hsavable
  exact ⟨hsavable, fun h => hhas' (hhas h)⟩

/-! ## Rows -/

section Rows

variable {services : CredentialServices} {v v' : Vault} {id : CredentialId}
  {row row' : CredentialRow} {found : Option CredentialRow}

structure Changes (id : CredentialId) (found : Option CredentialRow) (v v' : Vault) : Prop where
  rows : ∀ other, v'.rows.find? other = if other = id then found else v.rows.find? other
  receipts : ∀ r envelope, v.receipts.find? r = some envelope → v'.receipts.find? r = some envelope
  keychain : v'.keychain = v.keychain
  issued : ∀ entry ∈ v.issued, entry ∈ v'.issued
  finished : ∀ d ∈ v.finished, d ∈ v'.finished
  deletions : ∀ id ∈ v.deletions, id ∈ v'.deletions

theorem Changes.has (h : Changes id found v v') (locator : String) :
    v'.Has locator ↔ v.Has locator := by
  rw [Vault.Has, Vault.Has, h.keychain]

theorem Changes.receipts_isSome (h : Changes id found v v') {r : String}
    (hr : (v.receipts.find? r).isSome) : (v'.receipts.find? r).isSome := by
  obtain ⟨envelope, henvelope⟩ := Option.isSome_iff_exists.mp hr
  rw [h.receipts r envelope henvelope]
  rfl

/-- **A change settles**, unless it brings back a credential or takes back a mark. -/
theorem Changes.settles (h : Changes id found v v')
    (hgone : v.rows.find? id = none → v.receipts.find? id.saveRequestId = none ∨ found = none)
    (hmarked : ∀ row, v.rows.find? id = some row → row.status = .pendingDelete → found = none ∨
      ∃ row', found = some row' ∧ row'.status = .pendingDelete ∧ row'.locator = row.locator) :
    Settles v v' where
  receipts := h.receipts
  issued := h.issued
  finished := h.finished
  deletions := h.deletions
  gone := fun other hsome hnone => by
    rw [h.rows]
    split
    · rename_i heq
      subst heq
      refine (hgone hnone).resolve_left fun hreceipt => ?_
      rw [hreceipt] at hsome
      cases hsome
    · exact hnone
  marked := fun other old _ hold hstatus => by
    simp only [h.rows, h.has]
    split
    · rename_i heq
      subst heq
      refine (hmarked old hold hstatus).imp_right ?_
      rintro ⟨row', hsome, hstatus', hlocator⟩
      exact ⟨row', hsome, hstatus', hlocator, fun hnot => hnot⟩
    · exact .inr ⟨old, hold, hstatus, rfl, fun hnot => hnot⟩

/-- **A change spares a save**, unless its credential can be activated no more. -/
theorem Changes.spares (h : Changes id found v v') {requestId : String}
    (hsavable : (⟨requestId⟩ : CredentialId) = id → ∀ row, v.rows.find? id = some row →
      row.status = .pendingSave ∨ row.status = .active → ∃ row', found = some row' ∧
        row'.locator = row.locator ∧ (row'.status = .pendingSave ∨ row'.status = .active)) :
    Spares requestId v v' := by
  rintro locator ⟨row, hrow, hlocator, hstatus⟩
  refine ⟨?_, fun hthere => (h.has locator).mpr hthere⟩
  by_cases heq : (⟨requestId⟩ : CredentialId) = id
  · rw [heq] at hrow
    obtain ⟨row', hsome, hsame, hstatus'⟩ := hsavable heq row hrow hstatus
    exact ⟨row', by rw [h.rows, if_pos heq, hsome], hsame.trans hlocator, hstatus'⟩
  · exact ⟨row, by rw [h.rows, if_neg heq, hrow], hlocator, hstatus⟩

/-- **A row is changed** as the receipts and the keychain have it. -/
theorem Consistent.change (h : Consistent services v) (hchanges : Changes id found v v')
    (hissued : Issued v')
    (hsaved : ∀ row, found = some row → row.saveRequestId = id.saveRequestId ∧
      v'.receipts.find? id.saveRequestId = some (.save row.provider row.displayLabel) ∧
      (id.saveRequestId, row.locator) ∈ v'.issued ∧ services.validLabel row.displayLabel = true)
    (hsecret : ∀ l, v.Has l → (id.saveRequestId, l) ∈ v.issued →
      ∃ row, found = some row ∧ row.status ≠ .saveFailed)
    (hactive : ∀ row, found = some row → row.status = .active → v.Has row.locator)
    (hdelete : ∀ d other, v'.receipts.find? d = some (.delete other) →
      other = id ∨ v.receipts.find? d = some (.delete other))
    (hprepared : ∀ d row, v'.receipts.find? d = some (.delete id) → found = some row →
      row.status = .pendingDelete)
    (hrequested : ∀ row d, found = some row → row.deleteRequestId = some d →
      v'.receipts.find? d = some (.delete id))
    (hmarked : ∀ row, found = some row → row.status = .pendingDelete →
      ∃ d, row.deleteRequestId = some d ∧ d ∉ v'.finished)
    (hfinished : ∀ d ∈ v'.finished, d ∈ v.finished ∨ v'.receipts.find? d = some (.delete id))
    (hdeletions : v'.deletions = (if found = none then [id] else []) ++ v.deletions)
    (hnew : id ∉ v.deletions)
    (hreceipt : (v'.receipts.find? id.saveRequestId).isSome) : Consistent services v' := by
  have hcases : ∀ other row, v'.rows.find? other = some row →
      (other = id ∧ found = some row) ∨ (other ≠ id ∧ v.rows.find? other = some row) := by
    intro other row hrow
    rw [hchanges.rows] at hrow
    split at hrow
    · exact .inl ⟨‹_›, hrow⟩
    · exact .inr ⟨‹_›, hrow⟩
  have hmem : ∀ other, other ∈ v'.deletions ↔ other = id ∧ found = none ∨ other ∈ v.deletions := by
    intro other
    rw [hdeletions]
    split <;> simp [*]
  refine { hissued with
    saved := fun other row hrow => ?_, secret := fun l hthere => ?_,
    active := fun other row hrow hstatus => ?_, prepared := fun d other row hd hrow => ?_,
    requested := fun other row d hrow hd => ?_, marked := fun other row hrow hstatus => ?_,
    finished := fun d hd => ?_, gone := fun d other hd hgone => ?_,
    deleted := fun other hother => ?_, once := ?_ }
  · rcases hcases other row hrow with ⟨rfl, hsome⟩ | ⟨-, hrow⟩
    · exact hsaved row hsome
    · obtain ⟨hsave, hreceipt, hentry, hvalid⟩ := h.saved other row hrow
      exact ⟨hsave, hchanges.receipts _ _ hreceipt, hchanges.issued _ hentry, hvalid⟩
  · rw [hchanges.has] at hthere
    obtain ⟨r, row, hentry, hrow, hkept⟩ := h.secret l hthere
    by_cases heq : (⟨r⟩ : CredentialId) = id
    · subst heq
      obtain ⟨row', hsome, hkept'⟩ := hsecret l hthere hentry
      exact ⟨r, row', hchanges.issued _ hentry, by rw [hchanges.rows, if_pos rfl, hsome], hkept'⟩
    · exact ⟨r, row, hchanges.issued _ hentry, by rw [hchanges.rows, if_neg heq, hrow], hkept⟩
  · rw [hchanges.has]
    rcases hcases other row hrow with ⟨rfl, hsome⟩ | ⟨-, hrow⟩
    · exact hactive row hsome hstatus
    · exact h.active other row hrow hstatus
  · rcases hcases other row hrow with ⟨rfl, hsome⟩ | ⟨hne, hrow⟩
    · exact hprepared d row hd hsome
    · exact h.prepared d other row ((hdelete d other hd).resolve_left hne) hrow
  · rcases hcases other row hrow with ⟨rfl, hsome⟩ | ⟨-, hrow⟩
    · exact hrequested row d hsome hd
    · exact hchanges.receipts _ _ (h.requested other row d hrow hd)
  · rcases hcases other row hrow with ⟨rfl, hsome⟩ | ⟨hne, hrow⟩
    · exact hmarked row hsome hstatus
    · obtain ⟨d, hd, hopen⟩ := h.marked other row hrow hstatus
      refine ⟨d, hd, fun hdone => (hfinished d hdone).elim hopen fun hsame => ?_⟩
      -- one request deletes one credential
      have hother := hchanges.receipts _ _ (h.requested other row d hrow hd)
      rw [hsame] at hother
      exact hne (CommandEnvelope.delete.inj (Option.some.inj hother)).symm
  · rcases hfinished d hd with hdone | hsame
    · exact hchanges.receipts_isSome (h.finished d hdone)
    · rw [hsame]
      rfl
  · rw [hmem]
    rw [hchanges.rows] at hgone
    by_cases heq : other = id
    · rw [if_pos heq] at hgone
      exact .inl ⟨heq, hgone⟩
    · rw [if_neg heq] at hgone
      exact .inr (h.gone d other ((hdelete d other hd).resolve_left heq) hgone)
  · rw [hchanges.rows]
    rcases (hmem other).mp hother with ⟨rfl, hnone⟩ | hother
    · exact ⟨by rw [if_pos rfl, hnone], hreceipt⟩
    · obtain ⟨hnone, hsome⟩ := h.deleted other hother
      have hne : other ≠ id := fun heq => hnew (heq ▸ hother)
      rw [if_neg hne]
      exact ⟨hnone, hchanges.receipts_isSome hsome⟩
  · rw [hdeletions]
    split
    · exact nodup_cons.mpr ⟨hnew, h.once⟩
    · exact h.once

theorem Consistent.not_deleted (h : Consistent services v) (hrow : v.rows.find? id = some row) :
    id ∉ v.deletions := by
  intro hid
  rw [(h.deleted id hid).1] at hrow
  cases hrow

theorem Consistent.locator_of_issued (h : Consistent services v)
    (hrow : v.rows.find? id = some row) {l : String} (hissued : (id.saveRequestId, l) ∈ v.issued) :
    l = row.locator :=
  h.locator _ _ _ hissued (h.saved id row hrow).2.2.1

theorem Issued.of_eq (h : Issued v) (hreceipts : v'.receipts = v.receipts)
    (hissued : v'.issued = v.issued) : Issued v' := by
  obtain ⟨hreserved, hlocator, hrequest⟩ := h
  exact ⟨by rwa [hissued, hreceipts], by rwa [hissued], by rwa [hissued]⟩

/-- **A row is rewritten** as its new status demands. -/
theorem Consistent.rewrite (h : Consistent services v) (hrow : v.rows.find? id = some row)
    {status : CredentialStatusV1} {nowMs : ℤ}
    (hchanges : Changes id (some { row with status := status, updatedAtMs := nowMs }) v v')
    (hopen : row.status ≠ .pendingDelete) (hopen' : status ≠ .pendingDelete)
    (hactive : status = .active → v.Has row.locator)
    (hfailed : status = .saveFailed → ¬ v.Has row.locator)
    (hreceipts : v'.receipts = v.receipts) (hissued : v'.issued = v.issued)
    (hfinished : v'.finished = v.finished) (hdeletions : v'.deletions = v.deletions) :
    Consistent services v' := by
  obtain ⟨hsave, hreceipt, hentry, hvalid⟩ := h.saved id row hrow
  refine h.change hchanges (h.toIssued.of_eq hreceipts hissued) ?_ (fun l hthere hl => ?_) ?_
    (fun d other hd => ?_) (fun d _ hd => ?_) ?_ ?_ (fun d hd => ?_) hdeletions
    (h.not_deleted hrow) ?_
  · rintro _ ⟨⟩
    rw [hreceipts, hissued]
    exact ⟨hsave, hreceipt, hentry, hvalid⟩
  · refine ⟨_, rfl, fun hstatus => hfailed hstatus ?_⟩
    rwa [← h.locator_of_issued hrow hl]
  · rintro _ ⟨⟩
    exact hactive
  · rw [hreceipts] at hd
    exact .inr hd
  · rw [hreceipts] at hd
    exact absurd (h.prepared d id row hd hrow) hopen
  · rintro _ d ⟨⟩ hd
    rw [hreceipts]
    exact h.requested id row d hrow hd
  · rintro _ ⟨⟩ hstatus
    exact absurd hstatus hopen'
  · rw [hfinished] at hd
    exact .inl hd
  · rw [hreceipts, hreceipt]
    rfl

/-- **A marked row is deleted**, once its secret is. -/
theorem Consistent.erase (h : Consistent services v) (hrow : v.rows.find? id = some row)
    (hchanges : Changes id none v v') (hsecret : ¬ v.Has row.locator)
    (hreceipts : v'.receipts = v.receipts) (hissued : v'.issued = v.issued)
    (hfinished : ∀ d ∈ v'.finished, d ∈ v.finished ∨ row.deleteRequestId = some d)
    (hdeletions : v'.deletions = id :: v.deletions) : Consistent services v' := by
  refine h.change hchanges (h.toIssued.of_eq hreceipts hissued) nofun (fun l hthere hl => ?_)
    nofun (fun d other hd => ?_) nofun nofun nofun (fun d hd => ?_) hdeletions
    (h.not_deleted hrow) ?_
  · rw [h.locator_of_issued hrow hl] at hthere
    exact absurd hthere hsecret
  · rw [hreceipts] at hd
    exact .inr hd
  · rw [hreceipts]
    exact (hfinished d hd).imp_right (h.requested id row d hrow)
  · rw [hreceipts, (h.saved id row hrow).2.1]
    rfl

end Rows

/-! ## Secrets -/

section Secrets

variable {services : CredentialServices} {v : Vault} {r locator : String}

theorem Vault.has_put {secret l : String} :
    Vault.Has { v with keychain := v.keychain.put locator secret } l ↔ l = locator ∨ v.Has l := by
  rw [Vault.Has, find?_put]
  split <;> simp [Vault.Has, *]

theorem Vault.has_delete {l : String} :
    Vault.Has { v with keychain := v.keychain.delete locator } l ↔ l ≠ locator ∧ v.Has l := by
  rw [Vault.Has, find?_delete]
  split <;> simp [Vault.Has, *]

/-- **A secret is written** for a row that has not failed. -/
theorem Consistent.putSecret (h : Consistent services v) (hissued : (r, locator) ∈ v.issued)
    {row : CredentialRow} (hrow : v.rows.find? ⟨r⟩ = some row) (hkept : row.status ≠ .saveFailed)
    (secret : String) :
    Consistent services { v with keychain := v.keychain.put locator secret } := by
  refine { h with secret := fun l hthere => ?_, active := fun id found hfound hstatus => ?_ }
  · rcases Vault.has_put.mp hthere with rfl | hthere
    · exact ⟨r, row, hissued, hrow, hkept⟩
    · exact h.secret l hthere
  · exact Vault.has_put.mpr (.inr (h.active id found hfound hstatus))

/-- **A secret is deleted** for a row that is gone, or not active. -/
theorem Consistent.deleteSecret (h : Consistent services v) (hissued : (r, locator) ∈ v.issued)
    (hinactive : ∀ row, v.rows.find? ⟨r⟩ = some row → row.status ≠ .active) :
    Consistent services { v with keychain := v.keychain.delete locator } := by
  refine { h with secret := fun l hthere => ?_, active := fun id found hfound hstatus => ?_ }
  · exact h.secret l (Vault.has_delete.mp hthere).2
  · refine Vault.has_delete.mpr ⟨fun heq => ?_, h.active id found hfound hstatus⟩
    have hentry := (h.saved id found hfound).2.2.1
    rw [heq] at hentry
    have hid : id = ⟨r⟩ := congrArg CredentialId.mk (h.request _ r locator hentry hissued)
    rw [hid] at hfound
    exact hinactive found hfound hstatus

end Secrets

/-! ## Reserving -/

section Reserving

variable {services : CredentialServices} {v v' : Vault} {requestId displayLabel locator : String}
  {provider : CredentialProviderV1} {nowMs : ℤ}

theorem Consistent.bySaveRequest (h : Consistent services v) (requestId : String) :
    v.bySaveRequest requestId =
      (v.rows.find? ⟨requestId⟩).map fun row => (⟨requestId⟩, row) := by
  have hof : ∀ entry ∈ v.rows.rows, entry.2.saveRequestId = requestId →
      v.rows.find? ⟨requestId⟩ = some entry.2 ∧ entry = (⟨requestId⟩, entry.2) := by
    rintro ⟨id, row⟩ hmem heq
    have hrow := mem_rows.mp hmem
    have hid : id = ⟨requestId⟩ := congrArg CredentialId.mk ((h.saved id row hrow).1.symm.trans heq)
    subst hid
    exact ⟨hrow, rfl⟩
  rw [Vault.bySaveRequest]
  rcases hfind : v.rows.rows.find? fun entry => entry.2.saveRequestId = requestId with _ | entry
  · rcases hrow : v.rows.find? ⟨requestId⟩ with _ | row
    · exact hfind
    · have hnot := find?_eq_none.mp hfind _ (mem_rows.mpr hrow)
      simp [(h.saved _ row hrow).1] at hnot
  · obtain ⟨hrow, heq⟩ := hof entry (mem_of_find?_eq_some hfind)
      (by simpa using find?_some hfind)
    rw [hrow, Option.map_some, ← heq]
    exact hfind

def Vault.reserve (v : Vault) (requestId : String) (provider : CredentialProviderV1)
    (displayLabel locator : String) (nowMs : ℤ) : Vault :=
  { v with
    rows := v.rows.put ⟨requestId⟩
      ⟨locator, requestId, none, provider, displayLabel, .pendingSave, nowMs, nowMs⟩
    receipts := v.receipts.put requestId (.save provider displayLabel)
    issued := (requestId, locator) :: v.issued }

theorem Consistent.row_eq_none (h : Consistent services v)
    (hnew : v.receipts.find? requestId = none) : v.rows.find? ⟨requestId⟩ = none := by
  rcases hrow : v.rows.find? ⟨requestId⟩ with _ | row
  · rfl
  · rw [(h.saved _ row hrow).2.1] at hnew
    cases hnew

theorem Vault.changes_reserve (provider : CredentialProviderV1) (displayLabel locator : String)
    (nowMs : ℤ) (hnew : v.receipts.find? requestId = none) :
    Changes ⟨requestId⟩
      (some ⟨locator, requestId, none, provider, displayLabel, .pendingSave, nowMs, nowMs⟩) v
      (v.reserve requestId provider displayLabel locator nowMs) where
  rows := fun other => find?_put _ _ _ other
  receipts := fun _ _ hr => find?_put_of_new hnew hr
  keychain := rfl
  issued := fun _ hentry => .tail _ hentry
  finished := fun _ hd => hd
  deletions := fun _ hid => hid

theorem Consistent.reserve (h : Consistent services v)
    (hnew : v.receipts.find? requestId = none) (hfresh : ∀ entry ∈ v.issued, entry.2 ≠ locator)
    (hlabel : services.validLabel displayLabel = true) (provider : CredentialProviderV1)
    (nowMs : ℤ) :
    Consistent services (v.reserve requestId provider displayLabel locator nowMs) := by
  have hreceipt : (v.reserve requestId provider displayLabel locator nowMs).receipts.find?
      requestId = some (.save provider displayLabel) := by
    rw [Vault.reserve, find?_put, if_pos rfl]
  have hunissued : ∀ l, (requestId, l) ∉ v.issued := fun l hentry => by
    have hsome := h.reserved _ l hentry
    rw [hnew] at hsome
    cases hsome
  have hundeleted : (⟨requestId⟩ : CredentialId) ∉ v.deletions := fun hid => by
    have hsome := (h.deleted _ hid).2
    rw [hnew] at hsome
    cases hsome
  have hchanges := Vault.changes_reserve provider displayLabel locator nowMs hnew
  have hdelete : ∀ d id, (v.reserve requestId provider displayLabel locator nowMs).receipts.find?
      d = some (.delete id) → v.receipts.find? d = some (.delete id) := by
    intro d id hd
    rw [Vault.reserve, find?_put] at hd
    split at hd
    · cases hd
    · exact hd
  have hissued : Issued (v.reserve requestId provider displayLabel locator nowMs) := by
    refine ⟨fun r l hentry => ?_, fun r l l' hentry hentry' => ?_, fun r r' l hentry hentry' => ?_⟩
    · rcases mem_cons.mp hentry with heq | hentry
      · rw [(Prod.mk.inj heq).1, hreceipt]
        rfl
      · exact hchanges.receipts_isSome (h.reserved r l hentry)
    · rcases mem_cons.mp hentry with heq | hentry <;>
        rcases mem_cons.mp hentry' with heq' | hentry'
      · exact (Prod.mk.inj heq).2.trans (Prod.mk.inj heq').2.symm
      · rw [(Prod.mk.inj heq).1] at hentry'
        exact absurd hentry' (hunissued l')
      · rw [(Prod.mk.inj heq').1] at hentry
        exact absurd hentry (hunissued l)
      · exact h.locator r l l' hentry hentry'
    · rcases mem_cons.mp hentry with heq | hentry <;>
        rcases mem_cons.mp hentry' with heq' | hentry'
      · exact (Prod.mk.inj heq).1.trans (Prod.mk.inj heq').1.symm
      · exact absurd (Prod.mk.inj heq).2 (hfresh _ hentry')
      · exact absurd (Prod.mk.inj heq').2 (hfresh _ hentry)
      · exact h.request r r' l hentry hentry'
  refine h.change hchanges hissued ?_ (fun l _ hentry => absurd hentry (hunissued l)) ?_
    (fun d id hd => .inr (hdelete d id hd)) (fun d _ hd => ?_) ?_ ?_ (fun d hd => .inl hd) rfl
    hundeleted (by rw [hreceipt]; rfl)
  · rintro _ ⟨⟩
    exact ⟨rfl, hreceipt, mem_cons_self, hlabel⟩
  · rintro _ ⟨⟩ hstatus
    cases hstatus
  · -- what is to be deleted has been saved
    exact absurd (h.gone d _ (hdelete d _ hd) (h.row_eq_none hnew)) hundeleted
  · rintro _ d ⟨⟩ hd
    cases hd
  · rintro _ ⟨⟩ hstatus
    cases hstatus

end Reserving

/-! ## Deleting -/

section Deleting

variable {services : CredentialServices} {v : Vault} {requestId : String} {id : CredentialId}
  {row : CredentialRow} {nowMs : ℤ}

def Vault.mark (v : Vault) (requestId : String) (id : CredentialId) (row : CredentialRow)
    (nowMs : ℤ) : Vault :=
  { v with
    rows := v.rows.put id { row with
      status := .pendingDelete, deleteRequestId := some requestId, updatedAtMs := nowMs }
    receipts := v.receipts.put requestId (.delete id) }

def CredentialRow.marked (requestId : String) (nowMs : ℤ) (row : CredentialRow) : CredentialRow :=
  { row with status := .pendingDelete, deleteRequestId := some requestId, updatedAtMs := nowMs }

theorem Vault.changes_mark (id : CredentialId) (row : CredentialRow) (nowMs : ℤ)
    (hnew : v.receipts.find? requestId = none) :
    Changes id (some (row.marked requestId nowMs)) v (v.mark requestId id row nowMs) where
  rows := fun other => find?_put _ _ _ other
  receipts := fun _ _ hr => find?_put_of_new hnew hr
  keychain := rfl
  issued := fun _ hentry => hentry
  finished := fun _ hd => hd
  deletions := fun _ hid => hid

theorem Consistent.mark (h : Consistent services v) (hnew : v.receipts.find? requestId = none)
    (hrow : v.rows.find? id = some row) (nowMs : ℤ) :
    Consistent services (v.mark requestId id row nowMs) := by
  have hchanges := Vault.changes_mark id row nowMs hnew
  obtain ⟨hsave, hreceipt, hentry, hvalid⟩ := h.saved id row hrow
  have hmark : (v.mark requestId id row nowMs).receipts.find? requestId = some (.delete id) := by
    rw [Vault.mark, find?_put, if_pos rfl]
  have hissued : Issued (v.mark requestId id row nowMs) :=
    ⟨fun r l hentry => hchanges.receipts_isSome (h.reserved r l hentry), h.locator, h.request⟩
  refine h.change hchanges hissued ?_ (fun l _ _ => ⟨_, rfl, nofun⟩) ?_ (fun d other hd => ?_) ?_
    ?_ ?_ (fun d hd => .inl hd) rfl (h.not_deleted hrow)
    (hchanges.receipts_isSome (by rw [hreceipt]; rfl))
  · rintro _ ⟨⟩
    exact ⟨hsave, hchanges.receipts _ _ hreceipt, hentry, hvalid⟩
  · rintro _ ⟨⟩ hstatus
    cases hstatus
  · rw [Vault.mark, find?_put] at hd
    split at hd
    · exact .inl (CommandEnvelope.delete.inj (Option.some.inj hd)).symm
    · exact .inr hd
  · rintro d _ - ⟨⟩
    rfl
  · rintro _ d ⟨⟩ hd
    rw [← Option.some.inj hd]
    exact hmark
  · rintro _ ⟨⟩ -
    refine ⟨requestId, rfl, fun hdone => ?_⟩
    have hsome := h.finished requestId hdone
    rw [hnew] at hsome
    cases hsome

/-- **A deletion is finished** by a request that marks no row. -/
theorem Consistent.finish (h : Consistent services v)
    (hdelete : v.receipts.find? requestId = some (.delete id))
    (hother : ∀ row, v.rows.find? id = some row → row.deleteRequestId ≠ some requestId) :
    Consistent services { v with finished := requestId :: v.finished } := by
  refine { h with marked := fun other row hrow hstatus => ?_, finished := fun d hd => ?_ }
  · obtain ⟨d, hd, hopen⟩ := h.marked other row hrow hstatus
    refine ⟨d, hd, fun hdone => ?_⟩
    rcases mem_cons.mp hdone with rfl | hdone
    · have hsame := h.requested other row d hrow hd
      rw [hdelete] at hsame
      rw [CommandEnvelope.delete.inj (Option.some.inj hsame)] at hother
      exact hother row hrow hd
    · exact hopen hdone
  · rcases mem_cons.mp hd with rfl | hd
    · rw [hdelete]
      rfl
    · exact h.finished d hd

end Deleting

end Credentials

end Threadbook
