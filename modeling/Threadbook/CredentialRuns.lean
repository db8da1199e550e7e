import Threadbook.CredentialSteps

/-!
# The life of a credential

Saves, deletions and starts, interleaved action by action, with crashes and failures between any
two. **lifecycle_kept** says what holds in each state of a run in which a save is replayed only
while its credential is pending or active, and a credential is prepared for deletion only while no
save of it is underway. Without this a secret is written that cannot be activated, and stays in the
keychain: **LifecycleExample.orphan** is such a run.
-/

namespace Threadbook

open List

variable {C S O ε α β γ : Type} {A : Type → Type 1} {m : Machine S A O} {rules : LogRules S A}
  {log : List (Deed S A)} {s : S}

/-- **A call** that ends with its answer. -/
theorem Follows.answer {ends : Except ε β → List (Deed S A) → S → Prop}
    {action : A (Except ε β)} (hlawful : rules.lawful action)
    (h : ∀ s' o answer s'', rules.kept s' → rules.moves s s' →
      m.perform action o s' = (answer, s'') → rules.demands log ⟨s', action, answer, s''⟩ ∧
        ends answer (log ++ [⟨s', action, answer, s''⟩]) s'') :
    Follows m rules ends (Program.call action) log s :=
  ⟨hlawful, fun s' o hkept hmoves => h s' o _ _ hkept hmoves rfl⟩

theorem Follows.map {ends : Except ε γ → List (Deed S A) → S → Prop} {g : β → γ} {p : Program A ε β}
    (h : Follows m rules (fun result log s => ends (result.map g) log s) p log s) :
    Follows m rules ends (g <$> p) log s :=
  Follows.bind (h.mono fun result log s hends => by rcases result with e | b <;> exact hends)

namespace Credentials

/-! ## What is claimed -/

abbrev VaultDeed : Type 1 := Deed Vault VaultAction

abbrev VaultLog : Type 1 := List VaultDeed

def Admits : VaultDeed → Prop
  | ⟨_, .database (.reserve _ _ _), answer, _⟩ => ∃ plan, answer = .ok plan
  | ⟨_, .database (.prepare _ _), answer, _⟩ => ∃ plan, answer = .ok plan
  | _ => False

def Planned (log : VaultLog) (requestId locator : String) : Prop :=
  ∃ before after provider displayLabel, ∃ reference : CredentialReferenceV1,
    (⟨before, .database (.reserve requestId provider displayLabel),
      .ok (.writeSecret locator reference), after⟩ : VaultDeed) ∈ log ∧
    reference.status = .pendingSave

/-- **A secret is written** by a save, under the one locator of its request, where its credential
is pending or active. -/
def WritesOwnSecret (c : VaultCall) (log : VaultLog) : VaultDeed → Prop
  | ⟨v, .put locator secret, _, _⟩ => ∃ request, c = .save request ∧ secret = request.secret ∧
      (request.requestId, locator) ∈ v.issued ∧ v.Savable request.requestId locator ∧
      Planned log request.requestId locator
  | _ => True

/-- **An activation** is refused by no status: it fails only as the database does. -/
def Activates : VaultDeed → Prop
  | ⟨_, .database (.activate _ _), answer, _⟩ =>
    answer = .error .failed ∨ ∃ reference, answer = .ok reference
  | _ => True

/-- **Once a start is through**, each secret is that of an active credential. -/
def NoOrphans : VaultDeed → Prop
  | ⟨v, .ready, _, _⟩ => ∀ locator, v.Has locator →
      ∃ id row, v.rows.find? id = some row ∧ row.locator = locator ∧ row.status = .active
  | _ => True

def Refusal (e : CommandError) : Prop :=
  e = .invalidRequest ∨ e = .platform (.conflict "command_envelope_changed") ∨
    e = .platform (.invalidInput "credential_id")

/-- **How a call ends.** A request that was admitted fails only as the database or the keychain
does; a save returns the credential of its request, and a deletion has finished, or finds that the
credential was deleted. -/
def Ends (c : VaultCall) (result : Except CommandError VaultReply) (log : VaultLog) (v : Vault) :
    Prop :=
  match result with
  | .error e => e = .failed ∨ Refusal e ∧ ∀ deed ∈ log, ¬ Admits deed
  | .ok reply =>
    match c with
    | .startup => reply = .ready
    | .save request => ∃ response, reply = .saved response ∧
        response.requestId = request.requestId ∧
        response.credential.credentialId = ⟨request.requestId⟩ ∧
        response.credential.provider = request.provider ∧
        response.credential.displayLabel = request.displayLabel ∧
        response.credential.status = .active
    | .delete request => ∃ response, reply = .deleted response ∧
        response.requestId = request.requestId ∧ response.credentialId = request.credentialId ∧
        response.deleted = true ∧
        v.receipts.find? request.requestId = some (.delete request.credentialId) ∧
        (request.requestId ∈ v.finished ∨ request.credentialId ∈ v.deletions)

/-- **The life of a credential** is as it should be. -/
structure LifecycleKept (w : VaultWorld) : Prop where
  active : ∀ id row, w.state.rows.find? id = some row → row.status = .active →
    w.state.Has row.locator
  locator : ∀ requestId l l', (requestId, l) ∈ w.state.issued → (requestId, l') ∈ w.state.issued →
    l = l'
  deeds : ∀ call ∈ w.calls, ∀ before deed after, call.log = before ++ deed :: after →
    WritesOwnSecret call.call before deed ∧ Activates deed ∧ NoOrphans deed
  ends : ∀ call ∈ w.calls, ∀ result, call.rest = .done result →
    Ends call.call result call.log w.state
  once : w.state.deletions.Nodup
  deleted : ∀ id ∈ w.state.deletions, w.state.rows.find? id = none ∧
    ∀ l, (id.saveRequestId, l) ∈ w.state.issued → ¬ w.state.Has l
  finished : ∀ d id, w.state.receipts.find? d = some (.delete id) →
    (∀ d', w.state.receipts.find? d' = some (.delete id) → d' ∈ w.state.finished) →
    w.state.deletions.count id = 1

/-- **When it is kept**: a save is replayed while its credential is pending or active, and a
credential is prepared for deletion while no save of it is underway. -/
def Allowed {β : Type} (v : Vault) (others : List OngoingCall) : VaultAction β → Prop
  | .database (.reserve requestId provider displayLabel) =>
    v.receipts.find? requestId = some (.save provider displayLabel) →
      ∃ locator, v.Savable requestId locator
  | .database (.prepare _ id) => ∀ call ∈ others, ∀ request, call.call = .save request →
      (⟨request.requestId⟩ : CredentialId) = id → ¬ OngoingCall.underway call
  | _ => True

def Vault.fresh : Vault := ⟨.empty, .empty, .empty, [], [], []⟩

/-! ## The rules -/

/-- What others may do between two actions of a call. -/
def Moves : VaultCall → Vault → Vault → Prop
  | .startup, v, v' => v' = v
  | .save request, v, v' => Settles v v' ∧ Spares request.requestId v v'
  | .delete _, v, v' => Settles v v'

theorem Moves.refl (c : VaultCall) (v : Vault) : Moves c v v := by
  cases c with
  | startup => rfl
  | save request => exact ⟨.refl v, .refl _ v⟩
  | delete => exact Settles.refl v

theorem Moves.trans (c : VaultCall) (v v' v'' : Vault) (h : Moves c v v') (h' : Moves c v' v'') :
    Moves c v v'' := by
  cases c with
  | startup => exact Eq.trans h' h
  | save request => exact ⟨h.1.trans h'.1, h.2.trans h'.2⟩
  | delete => exact Settles.trans h h'

structure Demanded (services : CredentialServices) (c : VaultCall) (log : VaultLog)
    (deed : VaultDeed) : Prop where
  kept : Consistent services deed.after
  guarantees : c ≠ .startup → Guarantees services deed.action deed.before deed.after
  claimed : WritesOwnSecret c log deed ∧ Activates deed ∧ NoOrphans deed

abbrev vaultRules (services : CredentialServices) (c : VaultCall) : LogRules Vault VaultAction where
  kept := Consistent services
  moves := Moves c
  lawful := fun action => c ≠ .startup → action.ofStartup = false
  demands := Demanded services c

theorem Ends.later {c : VaultCall} {result : Except CommandError VaultReply} {log : VaultLog}
    {v v' : Vault} (h : Ends c result log v) (hsettles : Settles v v') : Ends c result log v' := by
  rcases result with e | reply
  · exact h
  · cases c with
    | startup => exact h
    | save => exact h
    | delete request =>
      obtain ⟨response, hreply, hid, hcredential, hdeleted, hreceipt, hends⟩ := h
      exact ⟨response, hreply, hid, hcredential, hdeleted, hsettles.receipts _ _ hreceipt,
        hends.imp (hsettles.finished _) (hsettles.deletions _)⟩

/-! ## A save -/

section Saving

variable {services : CredentialServices} {request : SaveCredentialV1Request} {log : VaultLog}
  {v : Vault} {locator : String} {reference : CredentialReferenceV1}

theorem saveResponse_of_active {requestId : String} {replayStatus : ReplayStatusV1}
    (hvalid : services.validLabel reference.displayLabel = true)
    (hactive : reference.status = .active) :
    saveResponse services requestId reference replayStatus =
      .ok ⟨requestId, reference, replayStatus⟩ := by
  simp [saveResponse, hvalid, hactive]

/-- **An active credential is returned.** -/
theorem follows_replaySave (hvalid : services.validLabel request.displayLabel = true)
    (hid : reference.credentialId = ⟨request.requestId⟩)
    (hprovider : reference.provider = request.provider)
    (hlabel : reference.displayLabel = request.displayLabel)
    (hactive : reference.status = .active) :
    Follows vaultMachine (vaultRules services (.save request))
      (fun result log v => Ends (.save request) (result.map .saved) log v)
      (carryOutSave services request (.replay reference)) log v := by
  rw [← hlabel] at hvalid
  rw [carryOutSave, saveResponse_of_active hvalid hactive]
  exact ⟨_, rfl, rfl, hid, hprovider, hlabel, hactive⟩

/-- **A secret is written, and its credential activated.** -/
theorem follows_writeSecret (hid : reference.credentialId = ⟨request.requestId⟩)
    (hplanned : Planned log request.requestId locator)
    (hsavable : v.Savable request.requestId locator)
    (hissued : (request.requestId, locator) ∈ v.issued)
    (hreceipt : v.receipts.find? request.requestId =
      some (.save request.provider request.displayLabel)) :
    Follows vaultMachine (vaultRules services (.save request))
      (fun result log v => Ends (.save request) (result.map .saved) log v)
      (carryOutSave services request (.writeSecret locator reference)) log v := by
  refine Follows.bind (Follows.bind (Follows.answer (fun _ => rfl)
    fun v₁ o answer v₂ hkept hmoves hperform => ?_))
  obtain ⟨hsettles, hspares⟩ := hmoves
  have hsavable₁ := (hspares locator hsavable).1
  have hissued₁ := hsettles.issued _ hissued
  obtain ⟨hguarantees, hanswer⟩ := put_spec hkept hsavable₁ hissued₁ hperform
  refine ⟨⟨hguarantees.kept, fun _ => hguarantees,
    ⟨request, rfl, rfl, hissued₁, hsavable₁, hplanned⟩, trivial, trivial⟩, ?_⟩
  rcases hanswer with rfl | ⟨rfl, hthere⟩
  · exact .inl rfl
  have hsavable₂ := (hguarantees.spares request.requestId rfl nofun locator hsavable₁).1
  have hreceipt₂ := (hguarantees.settles rfl).receipts _ _ (hsettles.receipts _ _ hreceipt)
  rw [hid]
  refine Follows.answer (fun _ => rfl) fun v₃ o answer v₄ hkept hmoves hperform => ?_
  obtain ⟨hsettles, hspares⟩ := hmoves
  obtain ⟨hsavable₃, hstays⟩ := hspares locator hsavable₂
  obtain ⟨hguarantees, hanswer⟩ := activate_spec hkept hsavable₃ (hstays hthere) hperform
  refine ⟨⟨hguarantees.kept, fun _ => hguarantees, trivial,
    hanswer.imp_right fun ⟨reference, heq, _⟩ => ⟨reference, heq⟩, trivial⟩, ?_⟩
  rcases hanswer with rfl | ⟨activated, rfl, hid, hactive, hvalid, hsaved⟩
  · exact .inl rfl
  rw [hsettles.receipts _ _ hreceipt₂] at hsaved
  obtain ⟨hprovider, hlabel⟩ := CommandEnvelope.save.inj (Option.some.inj hsaved)
  dsimp only
  rw [saveResponse_of_active hvalid hactive]
  exact ⟨_, rfl, rfl, hid, hprovider.symm, hlabel.symm, hactive⟩

end Saving

/-- **The first action** of a call: where it is allowed, what is demanded of it holds, and the call
follows the rules from there. -/
def Begins (services : CredentialServices) (c : VaultCall) (v : Vault) :
    VaultProgram VaultReply → Prop
  | .done result => Ends c result [] v
  | .act action next => ∀ others o, (∀ entry ∈ v.issued, entry.2 ≠ o.locator) →
      Allowed v others action →
        (c ≠ .startup → action.ofStartup = false) ∧
        Demanded services c [] (vaultMachine.deed action o v) ∧
        Follows vaultMachine (vaultRules services c) (Ends c)
          (next (vaultMachine.perform action o v).1) [vaultMachine.deed action o v]
          (vaultMachine.perform action o v).2

theorem Begins.of_follows {services : CredentialServices} {c : VaultCall} {v : Vault}
    {p : VaultProgram VaultReply} (hkept : Consistent services v)
    (h : Follows vaultMachine (vaultRules services c) (Ends c) p [] v) : Begins services c v p := by
  cases p with
  | done result => exact h
  | act action next =>
    intro others o _ _
    obtain ⟨hdemanded, hnext⟩ := h.2 v o hkept (.refl c v)
    exact ⟨h.1, hdemanded, hnext⟩

section Saving

variable {services : CredentialServices} {request : SaveCredentialV1Request} {v : Vault}

theorem begins_save (hkept : Consistent services v) :
    Begins services (.save request) v (VaultCall.program services (.save request)) := by
  change Begins services (.save request) v (.saved <$>
    (Program.check (request.validate services) >>= fun _ =>
      Program.call (.database (.reserve _ _ _)) >>= carryOutSave services request))
  rcases hvalidate : request.validate services with e | ⟨⟩
  · have he : e = .invalidRequest := by
      rw [SaveCredentialV1Request.validate] at hvalidate
      split at hvalidate
      · exact (Except.error.inj hvalidate).symm
      · cases hvalidate
    exact .inr ⟨.inl he, by simp⟩
  have hlabel : services.validLabel request.displayLabel = true := by
    rw [SaveCredentialV1Request.validate] at hvalidate
    split at hvalidate
    · cases hvalidate
    · rename_i hvalid
      by_contra hnot
      exact hvalid (.inr (.inr (.inl hnot)))
  intro others o hfresh hallowed
  refine ⟨fun _ => rfl, ?_⟩
  rcases hperform : vaultMachine.perform
    (.database (.reserve request.requestId request.provider request.displayLabel)) o v with
    ⟨answer, v'⟩
  obtain ⟨hguarantees, hanswer⟩ := reserve_spec hkept hfresh hlabel hallowed hperform
  rw [Machine.deed_of_answer (congrArg Prod.fst hperform), hperform]
  refine ⟨⟨hguarantees.kept, fun _ => hguarantees, trivial, trivial, trivial⟩, ?_⟩
  refine Follows.map (Follows.bind (p := Program.done answer) ?_)
  rcases hanswer with rfl | rfl | ⟨reference, rfl, hid, hprovider, hsame, hactive⟩ |
    ⟨locator, reference, rfl, hid, hpending, hsavable, hissued, hreceipt⟩
  · exact .inl rfl
  · refine .inr ⟨.inr (.inl rfl), fun deed hdeed => ?_⟩
    obtain rfl := mem_singleton.mp hdeed
    rintro ⟨plan, heq⟩
    cases heq
  · exact follows_replaySave (v := v') hlabel hid hprovider hsame hactive
  · exact follows_writeSecret hid ⟨_, _, _, _, reference, mem_singleton_self _, hpending⟩
      hsavable hissued hreceipt

end Saving

/-! ## A deletion -/

section Deleting

variable {services : CredentialServices} {request : DeleteCredentialV1Request} {log : VaultLog}
  {v v' : Vault} {requestId locator : String} {id : CredentialId}

structure Marked (requestId : String) (id : CredentialId) (locator : String) (v : Vault) :
    Prop where
  receipt : v.receipts.find? requestId = some (.delete id)
  saved : (v.receipts.find? id.saveRequestId).isSome
  issued : (id.saveRequestId, locator) ∈ v.issued
  row : ∀ row, v.rows.find? id = some row → row.status = .pendingDelete ∧ row.locator = locator

theorem Marked.later (h : Marked requestId id locator v) (hsettles : Settles v v') :
    Marked requestId id locator v' ∧ ((∀ row, v.rows.find? id = some row → ¬ v.Has row.locator) →
        ∀ row, v'.rows.find? id = some row → ¬ v'.Has row.locator) := by
  have hrow : ∀ row', v'.rows.find? id = some row' → ∃ row, v.rows.find? id = some row ∧
      row'.status = .pendingDelete ∧ row'.locator = row.locator ∧
      (¬ v.Has row.locator → ¬ v'.Has row.locator) := by
    intro row' hrow'
    rcases hrow : v.rows.find? id with _ | row
    · rw [hsettles.gone id h.saved hrow] at hrow'
      cases hrow'
    · rcases hsettles.marked id row h.saved hrow (h.row row hrow).1 with hnone |
        ⟨found, hfound, hstatus, hsame, hunwritten⟩
      · rw [hnone] at hrow'
        cases hrow'
      · rw [hfound] at hrow'
        cases hrow'
        exact ⟨row, rfl, hstatus, hsame, hunwritten⟩
  refine ⟨⟨hsettles.receipts _ _ h.receipt, hsettles.receipts_isSome h.saved,
    hsettles.issued _ h.issued, fun row' hrow' => ?_⟩, fun hdeleted row' hrow' => ?_⟩
  · obtain ⟨row, hold, hstatus, hsame, -⟩ := hrow row' hrow'
    exact ⟨hstatus, hsame.trans (h.row row hold).2⟩
  · obtain ⟨row, hold, -, hsame, hunwritten⟩ := hrow row' hrow'
    rw [hsame]
    exact hunwritten (hdeleted row hold)

/-- **A secret is deleted, and its row.** -/
theorem follows_carryOutDelete (hmarked : Marked request.requestId request.credentialId locator v) :
    Follows vaultMachine (vaultRules services (.delete request))
      (fun result log v => Ends (.delete request) (result.map .deleted) log v)
      (carryOutDelete request (.deleteSecret locator request.credentialId)) log v := by
  refine Follows.bind (Follows.answer (fun _ => rfl)
    fun v₁ o answer v₂ hkept hsettles hperform => ?_)
  have hmarked₁ := (hmarked.later hsettles).1
  obtain ⟨hguarantees, hrows, hreceipts, hanswer⟩ := delete_spec hkept hmarked₁.issued
    (fun row hrow => (hmarked₁.row row hrow).1) hperform
  refine ⟨⟨hguarantees.kept, fun _ => hguarantees, trivial, trivial, trivial⟩, ?_⟩
  rcases hanswer with rfl | ⟨rfl, hdeleted⟩
  · exact .inl rfl
  have hmarked₂ := (hmarked₁.later (hguarantees.settles rfl)).1
  refine Follows.bind (Follows.answer (fun _ => rfl)
    fun v₃ o answer v₄ hkept hsettles hperform => ?_)
  obtain ⟨hmarked₃, hstays⟩ := hmarked₂.later hsettles
  obtain ⟨hguarantees, hanswer⟩ := finish_spec hkept hmarked₃.receipt
    (hstays fun row hrow => by rw [(hmarked₂.row row hrow).2]; exact hdeleted) hperform
  refine ⟨⟨hguarantees.kept, fun _ => hguarantees, trivial, trivial, trivial⟩, ?_⟩
  rcases hanswer with rfl | ⟨rfl, hfinished, hreceipt⟩
  · exact .inl rfl
  · exact ⟨_, rfl, rfl, rfl, rfl, hreceipt, .inl hfinished⟩

theorem follows_delete :
    Follows vaultMachine (vaultRules services (.delete request)) (Ends (.delete request))
      (VaultCall.program services (.delete request)) [] v := by
  refine Follows.map ?_
  rw [deleteCredentialV1]
  rcases hvalidate : request.validate with e | ⟨⟩
  · have he : e = .invalidRequest := by
      rw [DeleteCredentialV1Request.validate] at hvalidate
      split at hvalidate
      · exact (Except.error.inj hvalidate).symm
      · cases hvalidate
    exact .inr ⟨.inl he, by simp⟩
  refine Follows.bind (p := Program.call _) (Follows.answer (fun _ => rfl)
    fun v₁ o answer v₂ hkept _ hperform => ?_)
  obtain ⟨hguarantees, hanswer⟩ := prepare_spec hkept hperform
  refine ⟨⟨hguarantees.kept, fun _ => hguarantees, trivial, trivial, trivial⟩, ?_⟩
  rcases hanswer with rfl | rfl | rfl | ⟨hreceipt, ⟨rfl, hdeleted⟩ | ⟨row, rfl, hrow, hstatus⟩⟩
  · exact .inl rfl
  · refine .inr ⟨.inr (.inl rfl), fun deed hdeed => ?_⟩
    obtain rfl := mem_singleton.mp hdeed
    rintro ⟨plan, heq⟩
    cases heq
  · refine .inr ⟨.inr (.inr rfl), fun deed hdeed => ?_⟩
    obtain rfl := mem_singleton.mp hdeed
    rintro ⟨plan, heq⟩
    cases heq
  · exact ⟨_, rfl, rfl, rfl, rfl, hreceipt, .inr hdeleted⟩
  · obtain ⟨-, hsaved, hissued, -⟩ := hguarantees.kept.saved _ row hrow
    refine follows_carryOutDelete (v := v₂) ⟨hreceipt, by rw [hsaved]; rfl, hissued,
      fun found hfound => ?_⟩
    rw [hrow] at hfound
    cases hfound
    exact ⟨hstatus, rfl⟩

end Deleting

/-! ## A start -/

section Starting

variable {services : CredentialServices} {log : VaultLog} {v : Vault}
  {locator : String} {status : CredentialStatusV1} {entries : List (String × CredentialStatusV1)}

def LeftToSettle (services : CredentialServices) (entries : List (String × CredentialStatusV1))
    (result : Except CommandError PUnit) (_log : VaultLog) (v : Vault) : Prop :=
  match result with
  | .ok _ => Consistent services v ∧ PendingIn v entries
  | .error e => e = .failed

/-- **One pending credential is settled.** -/
theorem follows_reconcileCredential (hpending : PendingIn v ((locator, status) :: entries)) :
    Follows vaultMachine (vaultRules services .startup) (LeftToSettle services entries)
      (reconcileCredential (locator, status)) log v := by
  obtain ⟨id, row, hrow, rfl, rfl, hopen⟩ := (hpending.mem locator status).mp mem_cons_self
  rcases hopen with hopen | hopen <;> rw [hopen] at hpending ⊢
  · -- the credential is active if its secret was written
    refine Follows.bind (Follows.answer (fun h => absurd rfl h)
      fun v₁ o answer v₂ hkept hsame hperform => ?_)
    obtain rfl : v₁ = v := hsame
    obtain ⟨hanswer, rfl⟩ := Prod.mk.inj hperform
    refine ⟨⟨hkept, fun h => absurd rfl h, trivial, trivial, trivial⟩, ?_⟩
    split at hanswer <;> subst hanswer
    · rfl
    refine Follows.answer (fun h => absurd rfl h) fun v₂ o answer v₃ hkept hsame hperform => ?_
    obtain rfl : v₂ = v₁ := hsame
    obtain ⟨hkept', hanswer⟩ := settleSave_spec hkept hrow hopen (by
      by_cases hthere : v₂.Has row.locator
      · exact .inl ⟨if_pos hthere, hthere⟩
      · exact .inr ⟨if_neg hthere, hthere⟩) hperform
    refine ⟨⟨hkept', fun h => absurd rfl h, trivial, trivial, trivial⟩, ?_⟩
    rcases hanswer with rfl | ⟨rfl, row', hnext, hchanges⟩
    · rfl
    · refine ⟨hkept', hpending.settle hkept hrow rfl hchanges fun found hfound => ?_⟩
      cases hfound
      rw [hnext]
      split <;> simp
  · refine Follows.bind (Follows.answer (fun h => absurd rfl h)
      fun v₁ o answer v₂ hkept hsame hdelete => ?_)
    obtain rfl : v₁ = v := hsame
    obtain ⟨hguarantees, hrows, -, hanswer⟩ := delete_spec hkept
      (hkept.saved id row hrow).2.2.1 (fun found hfound => by
        rw [hrow] at hfound
        rw [← Option.some.inj hfound, hopen]) hdelete
    refine ⟨⟨hguarantees.kept, fun h => absurd rfl h, trivial, trivial, trivial⟩, ?_⟩
    rcases hanswer with rfl | ⟨rfl, hdeleted⟩
    · rfl
    rw [← hrows] at hrow
    have hpending₂ : PendingIn v₂ ((row.locator, .pendingDelete) :: entries) :=
      ⟨hpending.nodup, by rw [hrows]; exact hpending.mem⟩
    refine Follows.answer (fun h => absurd rfl h) fun v₃ o answer v₄ hkept hsame hperform => ?_
    obtain rfl : v₃ = v₂ := hsame
    obtain ⟨hkept', hanswer⟩ := settleDelete_spec hkept hrow hopen hdeleted hperform
    refine ⟨⟨hkept', fun h => absurd rfl h, trivial, trivial, trivial⟩, ?_⟩
    rcases hanswer with rfl | ⟨rfl, hchanges⟩
    · rfl
    · exact ⟨hkept', hpending₂.settle hkept hrow rfl hchanges (by simp)⟩

/-- **All pending credentials are settled.** -/
theorem follows_reconcileEach (hkept : Consistent services v) (hpending : PendingIn v entries) :
    Follows vaultMachine (vaultRules services .startup) (LeftToSettle services [])
      (reconcileEach entries) log v := by
  induction entries generalizing log v with
  | nil => exact ⟨hkept, hpending⟩
  | cons entry entries ih =>
    refine Follows.bind ((follows_reconcileCredential hpending).mono fun result log v hleft => ?_)
    rcases result with e | u
    · exact hleft
    · exact ih hleft.1 hleft.2

theorem Consistent.no_orphans (h : Consistent services v) (hpending : PendingIn v [])
    (hthere : v.Has locator) :
    ∃ id row, v.rows.find? id = some row ∧ row.locator = locator ∧ row.status = .active := by
  obtain ⟨r, row, hissued, hrow, hkept⟩ := h.secret locator hthere
  have hsettled : ¬ (row.status = .pendingSave ∨ row.status = .pendingDelete) := fun hopen => by
    simpa using (hpending.mem row.locator row.status).mpr ⟨⟨r⟩, row, hrow, rfl, rfl, hopen⟩
  refine ⟨⟨r⟩, row, hrow, h.locator r _ _ (h.saved _ row hrow).2.2.1 hissued, ?_⟩
  cases hstatus : row.status with
  | active => rfl
  | pendingSave => exact absurd (.inl hstatus) hsettled
  | pendingDelete => exact absurd (.inr hstatus) hsettled
  | saveFailed => exact absurd hstatus hkept

theorem follows_startup : Follows vaultMachine (vaultRules services .startup) (Ends .startup)
      (VaultCall.program services .startup) [] v := by
  refine Follows.map (Follows.bind (Follows.answer (fun h => absurd rfl h)
    fun v₁ o answer v₂ hkept _ hperform => ?_))
  obtain ⟨rfl, hanswer⟩ := pending_spec hkept hperform
  refine ⟨⟨hkept, fun h => absurd rfl h, trivial, trivial, trivial⟩, ?_⟩
  rcases hanswer with rfl | ⟨entries, rfl, hpending⟩
  · exact .inl rfl
  refine Follows.bind ((follows_reconcileEach hkept hpending).mono fun result log v hleft => ?_)
  rcases result with e | u
  · exact .inl hleft
  · refine ⟨fun h => absurd rfl h, fun v₁ o hkept hsame => ?_⟩
    obtain rfl : v₁ = v := hsame
    exact ⟨⟨hkept, fun h => absurd rfl h, trivial, trivial,
      fun locator hthere => hkept.no_orphans hleft.2 hthere⟩, rfl⟩

end Starting

/-! ## All runs -/

section Runs

variable {services : CredentialServices} {v v' : Vault} {w w' : VaultWorld} {call : OngoingCall}

theorem begins (hkept : Consistent services v) (c : VaultCall) :
    Begins services c v (c.program services) := by
  cases c with
  | startup => exact .of_follows hkept follows_startup
  | save request => exact begins_save hkept
  | delete request => exact .of_follows hkept follows_delete

def GoodCall (services : CredentialServices) (v : Vault) (call : OngoingCall) : Prop :=
  (vaultRules services call.call).Meets call.log ∧
    (call.log = [] ∧ call.rest = call.call.program services ∨
      call.log ≠ [] ∧ Follows vaultMachine (vaultRules services call.call) (Ends call.call)
        call.rest call.log v)

theorem GoodCall.later (h : GoodCall services v call) (hsettles : Settles v v')
    (hspares : ∀ request, call.call = .save request → call.underway → Spares request.requestId v v')
    (hdone : call.call = .startup → ∃ result, call.rest = .done result) :
    GoodCall services v' call := by
  obtain ⟨c, log, rest⟩ := call
  obtain ⟨hmeets, hnew | ⟨hbegun, hfollows⟩⟩ := h
  · exact ⟨hmeets, .inl hnew⟩
  refine ⟨hmeets, .inr ⟨hbegun, ?_⟩⟩
  cases rest with
  | done result => exact Ends.later hfollows hsettles
  | act action next =>
    have hmoves : Moves c v v' := by
      cases c with
      | startup =>
        obtain ⟨result, hresult⟩ := hdone rfl
        cases hresult
      | save request => exact ⟨hsettles, hspares request rfl ⟨hbegun, nofun⟩⟩
      | delete => exact hsettles
    exact ⟨hfollows.1, fun s o hkept hmoves' =>
      hfollows.2 s o hkept (Moves.trans c v v' s hmoves hmoves')⟩

/-- What every run keeps. -/
structure WorldKept (services : CredentialServices) (w : VaultWorld) : Prop where
  kept : Consistent services w.state
  calls : ∀ call ∈ w.calls, GoodCall services w.state call
  alone : (∃ call, w.calls = [call] ∧ call.call = .startup) ∨
    ∀ call ∈ w.calls, call.call = .startup → ∃ result, call.rest = .done result

theorem WorldKept.started (h : WorldKept services w) (hstarted : Started w.calls) :
    ∀ call ∈ w.calls, call.call = .startup → ∃ result, call.rest = .done result := by
  rcases h.alone with ⟨call, hcalls, -⟩ | hdone
  · obtain ⟨log, hmem⟩ := hstarted
    rw [hcalls] at hmem ⊢
    intro other hother _
    obtain rfl := mem_singleton.mp hother
    obtain rfl := mem_singleton.mp hmem
    exact ⟨_, rfl⟩
  · exact hdone

theorem Allowed.spares {β : Type} {action : VaultAction β} {others : List OngoingCall}
    (h : Allowed v others action) (hcall : call ∈ others) {request : SaveCredentialV1Request}
    (hsave : call.call = .save request) (hunderway : call.underway) :
    action.prepares ≠ some ⟨request.requestId⟩ := by
  intro hprepares
  cases action with
  | database operation =>
    cases operation with
    | prepare d id => exact h call hcall request hsave (Option.some.inj hprepares).symm hunderway
    | _ => cases hprepares
  | _ => cases hprepares

/-- **One step** keeps it. -/
theorem WorldKept.step (hstep : VaultStep services Allowed w w') (h : WorldKept services w) :
    WorldKept services w' := by
  cases hstep with
  | boot =>
    refine ⟨h.kept, fun call hcall => ?_, .inl ⟨_, rfl, rfl⟩⟩
    obtain rfl := mem_singleton.mp hcall
    exact ⟨.nil _, .inl ⟨rfl, rfl⟩⟩
  | start c hc hstarted =>
    refine ⟨h.kept, forall_mem_cons.mpr ⟨⟨.nil _, .inl ⟨rfl, rfl⟩⟩, h.calls⟩,
      .inr (forall_mem_cons.mpr ⟨fun heq => absurd heq hc, h.started hstarted⟩)⟩
  | other requestId commandName hstarted hnew =>
    obtain ⟨hkept, hsettles⟩ := h.kept.other commandName hnew
    have hdone := h.started hstarted
    exact ⟨hkept, fun call hcall => (h.calls call hcall).later hsettles
      (fun _ _ _ _ hsavable => ⟨hsavable, fun hthere => hthere⟩) (hdone call hcall), .inr hdone⟩
  | @act v before after c log β action next o hallowed hfresh =>
    have hmem : (⟨c, log, .act action next⟩ : OngoingCall) ∈
        before ++ ⟨c, log, .act action next⟩ :: after := by simp
    obtain ⟨hmeets, hgood⟩ := h.calls _ hmem
    -- the call begins, or goes on
    obtain ⟨hlawful, hdemanded, hfollows⟩ : (c ≠ .startup → action.ofStartup = false) ∧
        Demanded services c log (vaultMachine.deed action o v) ∧
        Follows vaultMachine (vaultRules services c) (Ends c)
          (next (vaultMachine.perform action o v).1) (log ++ [vaultMachine.deed action o v])
          (vaultMachine.perform action o v).2 := by
      rcases hgood with ⟨hnil, hprogram⟩ | ⟨-, hlawful, hnext⟩
      · obtain rfl : log = [] := hnil
        have hbegins := begins h.kept c
        rw [← hprogram] at hbegins
        exact hbegins (before ++ after) o hfresh hallowed
      · obtain ⟨hdemanded, hfollows⟩ := hnext v o h.kept (.refl c v)
        exact ⟨hlawful, hdemanded, hfollows⟩
    have hnew : GoodCall services (vaultMachine.perform action o v).2
        ⟨c, log ++ [vaultMachine.deed action o v], next (vaultMachine.perform action o v).1⟩ :=
      ⟨hmeets.append hdemanded, .inr ⟨by simp, hfollows⟩⟩
    rcases h.alone with ⟨call, hcalls, hstartup⟩ | hdone
    · -- a start is alone
      obtain ⟨rfl, hrest⟩ | ⟨-, hnil⟩ := append_eq_singleton_iff.mp hcalls
      · obtain ⟨rfl, rfl⟩ := cons.inj hrest
        refine ⟨hdemanded.kept, fun call hcall => ?_, .inl ⟨_, rfl, hstartup⟩⟩
        obtain rfl := mem_singleton.mp hcall
        exact hnew
      · cases hnil
    · -- the other calls are left as good as they were
      have hc : c ≠ .startup := by
        intro heq
        obtain ⟨result, hresult⟩ := hdone _ hmem heq
        cases hresult
      have hguarantees := hdemanded.guarantees hc
      have hothers : ∀ call ∈ before ++ after,
          GoodCall services (vaultMachine.perform action o v).2 call ∧
            (call.call = .startup → ∃ result, call.rest = .done result) := by
        intro call hcall
        have hcall' : call ∈ before ++ ⟨c, log, .act action next⟩ :: after := by
          simp only [mem_append, mem_cons] at hcall ⊢
          exact hcall.imp_right .inr
        exact ⟨(h.calls call hcall').later (hguarantees.settles (hlawful hc))
          (fun request hsave hunderway => hguarantees.spares request.requestId (hlawful hc)
            (hallowed.spares hcall hsave hunderway)) (hdone call hcall'), hdone call hcall'⟩
      have hall : ∀ call ∈ before ++ ⟨c, log ++ [vaultMachine.deed action o v],
          next (vaultMachine.perform action o v).1⟩ :: after,
          GoodCall services (vaultMachine.perform action o v).2 call ∧
            (call.call = .startup → ∃ result, call.rest = .done result) := by
        intro call hcall
        simp only [mem_append, mem_cons] at hcall
        rcases hcall with hcall | rfl | hcall
        · exact hothers call (mem_append_left _ hcall)
        · exact ⟨hnew, fun heq => absurd heq hc⟩
        · exact hothers call (mem_append_right _ hcall)
      exact ⟨hdemanded.kept, fun call hcall => (hall call hcall).1,
        .inr fun call hcall => (hall call hcall).2⟩

theorem Consistent.fresh (services : CredentialServices) : Consistent services .fresh := by
  have hissued : Issued .fresh := by constructor <;> simp [Vault.fresh]
  constructor <;> first | exact hissued | simp [Vault.fresh, Vault.Has]

/-- **Credentials live as they should**, over every run that is allowed. -/
theorem lifecycle_kept
    (hrun : VaultSteps services Allowed ⟨.fresh, []⟩ w) : LifecycleKept w := by
  have h : WorldKept services w := by
    induction hrun with
    | refl => exact ⟨.fresh services, by simp, Or.inr (by simp)⟩
    | tail _ hstep ih => exact ih.step hstep
  have hkept := h.kept
  refine ⟨hkept.active, hkept.locator, fun call hcall before deed after heq => ?_,
    fun call hcall result hresult => ?_, hkept.once, fun id hid => ?_, fun d id hd hall => ?_⟩
  · exact ((h.calls call hcall).1 before deed after heq).claimed
  · obtain ⟨c, log, rest⟩ := call
    obtain rfl : rest = .done result := hresult
    obtain ⟨-, ⟨hnil, hprogram⟩ | ⟨-, hends⟩⟩ := h.calls _ hcall
    · obtain rfl : log = [] := hnil
      have hbegins := begins hkept c
      rw [← hprogram] at hbegins
      exact hbegins
    · exact hends
  · obtain ⟨hnone, -⟩ := hkept.deleted id hid
    refine ⟨hnone, fun l hissued hthere => ?_⟩
    obtain ⟨r, row, hentry, hrow, -⟩ := hkept.secret l hthere
    obtain rfl := hkept.request _ _ l hentry hissued
    rw [hnone] at hrow
    cases hrow
  · refine List.count_eq_one_of_mem hkept.once (hkept.gone d id hd ?_)
    rcases hrow : w.state.rows.find? id with _ | row
    · rfl
    · -- a row that is there is marked by a request that is not finished
      obtain ⟨d', hmarks, hopen⟩ := hkept.marked id row hrow (hkept.prepared d id row hd hrow)
      exact absurd (hall d' (hkept.requested id row d' hrow hmarks)) hopen

end Runs

/-! ## Runs of one call -/

def VaultWorld.passes (check : VaultWorld → Bool) (w : VaultWorld) : List VaultOutside → Bool
  | [] => true
  | o :: outsides => check w && w.state.issued.all (fun entry => entry.2 ≠ o.locator) &&
      VaultWorld.passes check (w.advance vaultMachine o) outsides

theorem VaultWorld.passes.steps {services : CredentialServices}
    {allowed : {β : Type} → Vault → List OngoingCall → VaultAction β → Prop}
    {check : VaultWorld → Bool}
    (hcheck : ∀ {v : Vault} {c : VaultCall} {log : VaultLog} {β : Type} {action : VaultAction β}
      {next : β → VaultProgram VaultReply} {calls : List OngoingCall},
      check ⟨v, ⟨c, log, .act action next⟩ :: calls⟩ = true → allowed v calls action)
    {outsides : List VaultOutside} {w : VaultWorld}
    (h : VaultWorld.passes check w outsides = true) :
    VaultSteps services allowed w (outsides.foldl (LoggedWorld.advance vaultMachine) w) := by
  induction outsides generalizing w with
  | nil => exact .refl
  | cons o outsides ih =>
    rw [VaultWorld.passes, Bool.and_eq_true, Bool.and_eq_true] at h
    obtain ⟨⟨hpasses, hfresh⟩, hrest⟩ := h
    refine .trans ?_ (ih hrest)
    obtain ⟨v, calls⟩ := w
    match calls with
    | [] => exact .refl
    | ⟨c, log, .done result⟩ :: calls => exact .refl
    | ⟨c, log, .act action next⟩ :: calls =>
      have hstep : VaultStep services allowed ⟨v, [] ++ ⟨c, log, .act action next⟩ :: calls⟩ _ :=
        .act action next o (hcheck hpasses) (by simpa using hfresh)
      exact .single hstep

namespace LifecycleExample

def services : CredentialServices where
  validLabel := fun displayLabel => displayLabel ≠ ""

def request : SaveCredentialV1Request := ⟨1, "save", .openAi, "Key", "secret"⟩

/-- A step that goes well. -/
def fine : VaultOutside := ⟨7, "unused", false, false⟩

def performed (v : Vault) (calls : List OngoingCall) (c : VaultCall)
    (outsides : List VaultOutside) : VaultWorld :=
  outsides.foldl (LoggedWorld.advance vaultMachine) ⟨v, ⟨c, [], c.program services⟩ :: calls⟩

/-- The application has started for the first time. -/
def started : VaultWorld := performed .fresh [] .startup [fine, fine]

def saved : VaultWorld :=
  performed started.state started.calls (.save request) [{ fine with locator := "a" }, fine, fine]

/-- Where the application crashes before the secret is written. -/
def crashed : VaultWorld :=
  performed started.state started.calls (.save request) [{ fine with locator := "a" }]

/-- The next start settles that the save has failed. -/
def restarted : VaultWorld := performed crashed.state [] .startup [fine, fine, fine, fine]

/-- The save is replayed: its secret is written, and its credential is not activated. -/
def replayed : VaultWorld :=
  performed restarted.state restarted.calls (.save request) [fine, fine, fine]

def plain (w : VaultWorld) : Bool :=
  match w.calls with
  | ⟨_, _, .act (.database (.reserve requestId _ _)) _⟩ :: _ =>
    (w.state.receipts.find? requestId).isNone
  | ⟨_, _, .act (.database (.prepare _ _)) _⟩ :: _ => false
  | _ => true

theorem allowed_of_plain {v : Vault} {c : VaultCall} {log : VaultLog} {β : Type}
    {action : VaultAction β} {next : β → VaultProgram VaultReply} {calls : List OngoingCall}
    (h : plain ⟨v, ⟨c, log, .act action next⟩ :: calls⟩ = true) : Allowed v calls action := by
  cases action with
  | database operation =>
    cases operation with
    | reserve requestId provider displayLabel =>
      intro hreceipt
      simp [plain, hreceipt] at h
    | prepare => cases h
    | _ => trivial
  | _ => trivial

theorem saved_kept :
    (saved.state.rows.find? ⟨"save"⟩).map CredentialRow.status = some .active ∧
      LifecycleKept saved := by
  have hstarted : VaultSteps services Allowed ⟨.fresh, []⟩ started :=
    .head .boot (VaultWorld.passes.steps allowed_of_plain (by decide +kernel))
  have hsaved : VaultSteps services Allowed started saved :=
    .head (.start (.save request) nofun ⟨_, List.mem_singleton_self _⟩)
      (VaultWorld.passes.steps allowed_of_plain (by decide +kernel))
  exact ⟨by decide +kernel, lifecycle_kept (hstarted.trans hsaved)⟩

def refused : VaultDeed → Bool
  | ⟨_, .database (.activate _ _), answer, _⟩ =>
    match answer with
    | .error e => e ≠ .failed
    | .ok _ => false
  | _ => false

theorem not_activates {deed : VaultDeed} (h : refused deed = true) : ¬ Activates deed := by
  obtain ⟨v, action, answer, v'⟩ := deed
  cases action with
  | database operation =>
    cases operation with
    | activate requestId credentialId =>
      rintro (rfl | ⟨reference, rfl⟩) <;> simp [refused] at h
    | _ => cases h
  | _ => cases h

/-- Whatever is done is allowed. -/
def Anything {β : Type} (_ : Vault) (_ : List OngoingCall) (_ : VaultAction β) : Prop := True

/-- **A replayed save leaves an orphan**: after a crash the credential is settled as failed, and
the replay writes a secret that it cannot activate. -/
theorem orphan : ¬ ∀ services w, VaultSteps services Anything ⟨.fresh, []⟩ w →
    LifecycleKept w := by
  intro h
  have hsteps {outsides : List VaultOutside} {w : VaultWorld}
      (hpasses : VaultWorld.passes (fun _ => true) w outsides = true) :
      VaultSteps services Anything w (outsides.foldl (LoggedWorld.advance vaultMachine) w) :=
    VaultWorld.passes.steps (fun _ => trivial) hpasses
  have hstarted : VaultSteps services Anything ⟨.fresh, []⟩ started :=
    .head .boot (hsteps (by decide +kernel))
  have hcrashed : VaultSteps services Anything started crashed :=
    .head (.start (.save request) nofun ⟨_, List.mem_singleton_self _⟩)
      (hsteps (by decide +kernel))
  have hrestarted : VaultSteps services Anything crashed restarted :=
    .head .boot (hsteps (by decide +kernel))
  have hreplayed : VaultSteps services Anything restarted replayed :=
    .head (.start (.save request) nofun ⟨_, List.mem_singleton_self _⟩)
      (hsteps (by decide +kernel))
  have hkept := h services replayed
    (hstarted.trans (hcrashed.trans (hrestarted.trans hreplayed)))
  have hlast : (replayed.calls.any fun call => call.log.any refused) = true := by decide +kernel
  obtain ⟨call, hcall, hany⟩ := List.any_eq_true.mp hlast
  obtain ⟨deed, hdeed, hrefused⟩ := List.any_eq_true.mp hany
  obtain ⟨before, after, heq⟩ := List.append_of_mem hdeed
  exact not_activates hrefused (hkept.deeds call hcall before deed after heq).2.1

end LifecycleExample

end Credentials

end Threadbook
