import Threadbook.LocalOnlyStore

/-!
# What calls do to the store of the local-only mode

A call that is refused leaves the files alone (`set_refused`); one that succeeds leaves records that
fit together, and answers what they say (`set_ok`). Whatever happens, the mode in the files is one
that some request asked for (`Authored`, `set_authored`): stores that were only ever changed by
calls are `StoreReached`.
-/

namespace Threadbook.LocalOnly

open Fallible

variable {services : LocalOnlyServices} {faults : StoreFaults}
variable {request : SetLocalOnlyV1Request} {store store' : LocalOnlyModeStore}

theorem loadChain_active {files : RecordFiles} {chain : Records}
    (h : files.loadChain services = .ok chain) : files.active = some chain.active := by
  have hread {α : Type} {file : Option α} {record : α} (h : readRecord file = .ok record) :
      file = some record := by
    cases file with
    | none => cases h
    | some other => exact congrArg some (Except.ok.inj h)
  unfold RecordFiles.loadChain at h
  obtain ⟨intent, -, h⟩ := check_bind_eq_ok.mp h
  obtain ⟨active, hactive, h⟩ := check_bind_eq_ok.mp h
  obtain ⟨acknowledgment, -, h⟩ := check_bind_eq_ok.mp h
  simp only [check_then_eq_ok, check_unless_eq_ok] at h
  obtain rfl := Except.ok.inj h.2.2.2.2.2
  exact hread hactive

theorem readChain_eq_some {readable : Bool} {chain : Records}
    (h : store.readChain services readable = some chain) :
    store.files.loadChain services = .ok chain := by
  unfold LocalOnlyModeStore.readChain at h
  split at h
  · cases hload : store.files.loadChain services with
    | error e =>
      rw [hload] at h
      cases h
    | ok chain' =>
      rw [hload] at h
      exact congrArg _ (Option.some.inj h)
  · cases h

/-! ## Publication -/

theorem rejectIf_bind {S ε α : Type} {e : ε} {p : Prop} [Decidable p]
    {f : Unit → Fallible S ε α} (s : S) : (rejectIf e p >>= f) s = if p then (.error e, s) else f () s := by
  unfold rejectIf
  split <;> rfl

variable {uncertain : Option UncertainPublication}
  {result : Except LocalOnlyStoreError SetLocalOnlyV1Response} {target : Records}
  {transitionNonce : String}

theorem outcomeUnknown_eq {α : Type} {result : Except LocalOnlyStoreError α}
    (h : (outcomeUnknown uncertain : StoreCall α) store = (result, store')) :
    result = .error .publicationOutcomeUnknown ∧ store'.files = store.files := by
  cases h
  exact ⟨rfl, rfl⟩

theorem renamed_active (files : RecordFiles) (target : Records) (index : ℕ) :
    (files.renamed target index).active = some target.active ∨
      (files.renamed target index).active = files.active := by
  unfold RecordFiles.renamed
  split
  · exact .inr rfl
  · exact .inl rfl
  · exact .inr rfl

theorem publishRecords_spec {indices : List ℕ} {started : Bool}
    {result : Except LocalOnlyStoreError Unit}
    (h : publishRecords faults target uncertain indices started store = (result, store')) :
    (store'.files.active = some target.active ∨ store'.files.active = store.files.active) ∧
      ∀ error, result = .error (.platform error) → started = false ∧ store'.files = store.files := by
  induction indices generalizing started store with
  | nil =>
    cases h
    exact ⟨.inr rfl, nofun⟩
  | cons index rest ih =>
    unfold publishRecords at h
    cases houtcome : faults.publishes index with
    | published =>
      rw [houtcome] at h
      obtain ⟨hactive, hrefused⟩ := ih h
      refine ⟨?_, fun error herror => absurd (hrefused error herror).1 (by decide)⟩
      rcases hactive with hactive | hactive
      · exact .inl hactive
      · rcases renamed_active store.files target index with hrenamed | hrenamed
        · exact .inl (hactive.trans hrenamed)
        · exact .inr (hactive.trans hrenamed)
    | before error =>
      rw [houtcome] at h
      cases started with
      | true =>
        obtain ⟨rfl, hfiles⟩ := outcomeUnknown_eq h
        exact ⟨.inr (by rw [hfiles]), nofun⟩
      | false =>
        cases h
        exact ⟨.inr rfl, fun error herror => ⟨rfl, rfl⟩⟩
    | unknown renamed =>
      rw [houtcome] at h
      obtain ⟨rfl, hfiles⟩ := outcomeUnknown_eq h
      refine ⟨?_, nofun⟩
      cases renamed with
      | true =>
        rw [hfiles]
        exact renamed_active store.files target index
      | false => exact .inr (by rw [hfiles]; rfl)

theorem publishTransition_spec
    (h : publishTransition services faults request target uncertain store = (result, store')) :
    (store'.files.active = some target.active ∨ store'.files.active = store.files.active) ∧
      (∀ error, result = .error (.platform error) → store'.files = store.files) ∧
      ∀ answer, result = .ok answer → ∃ chain, store'.files.loadChain services = .ok chain ∧
          chain.active.localOnly = request.enabled ∧
          answer = response request.requestId request.enabled chain.active.revision .created := by
  unfold publishTransition at h
  rcases hpublish : publishRecords faults target uncertain [0, 1, 2] false store with
    ⟨error | _, published⟩
  · rw [bind_of_error hpublish] at h
    cases h
    obtain ⟨hactive, hrefused⟩ := publishRecords_spec hpublish
    exact ⟨hactive, fun e he => (hrefused e (by rw [Except.error.inj he])).2, nofun⟩
  · rw [bind_of_ok hpublish, state_bind] at h
    obtain ⟨hactive, -⟩ := publishRecords_spec hpublish
    cases hloaded : published.readChain services faults.verifiable with
    | none =>
      simp only [hloaded] at h
      obtain ⟨rfl, hfiles⟩ := outcomeUnknown_eq h
      rw [hfiles]
      exact ⟨hactive, nofun, nofun⟩
    | some loaded =>
      simp only [hloaded] at h
      split at h
      · obtain ⟨rfl, hfiles⟩ := outcomeUnknown_eq h
        rw [hfiles]
        exact ⟨hactive, nofun, nofun⟩
      · rename_i hmatches
        rw [not_or, not_or, not_not, not_not, not_not] at hmatches
        cases h
        refine ⟨hactive, nofun, fun answer hanswer => ?_⟩
        cases hanswer
        exact ⟨loaded, readChain_eq_some hloaded, hmatches.2.2, by rw [hmatches.1]⟩

/-! ## Calls -/

theorem setNew_spec {current : Option Records}
    (h : setNew services faults request current store = (result, store')) :
    (∀ error, result = .error (.platform error) → store'.files = store.files) ∧
      (store'.files.active = store.files.active ∨ ∃ revision nonce,
        store'.files.active = some (targetRecords services request revision nonce).active) ∧
      ∀ answer, result = .ok answer → ∃ chain, store'.files.loadChain services = .ok chain ∧
        chain.active.localOnly = request.enabled ∧
        answer = response request.requestId request.enabled chain.active.revision .created := by
  simp only [setNew, state_bind, rejectIf_bind, check_bind] at h
  split at h
  · cases h
    exact ⟨fun _ _ => rfl, .inl rfl, by simp⟩
  split at h
  · cases h
    exact ⟨fun _ _ => rfl, .inl rfl, by simp⟩
  split at h
  · split at h
    · obtain ⟨hactive, hrefused, hok⟩ := publishTransition_spec h
      refine ⟨hrefused, ?_, hok⟩
      rcases hactive with hactive | hactive
      · exact .inr ⟨_, _, hactive⟩
      · exact .inl hactive
    · cases h
      exact ⟨fun _ _ => rfl, .inl rfl, by simp⟩
  · cases h
    exact ⟨fun _ _ => rfl, .inl rfl, by simp⟩

theorem validateRequest_eq_ok : validateRequest request = .ok () ↔ request.validate = .ok () := by
  rw [validateRequest, SetLocalOnlyV1Request.validate, check_unless_eq_ok, check_unless_eq_ok,
    check_unless_eq_ok]
  simp

/-- **What a call leaves and answers.** Refused, it leaves the files alone. The mode in the files
is the request's or the one before. If it succeeds, the files say what it answers: what was asked
for, or what was there for a request of the same hash. -/
theorem set_spec (h : set services faults request store = (result, store')) :
    (∀ error, result = .error (.platform error) → store'.files = store.files) ∧
      (store'.files.active = store.files.active ∨ request.validate = .ok () ∧ ∃ revision nonce,
          store'.files.active = some (targetRecords services request revision nonce).active) ∧
      ∀ answer, result = .ok answer → request.validate = .ok () ∧
        ∃ chain, store'.files.loadChain services = .ok chain ∧
          answer.localOnly = chain.active.localOnly ∧
          (chain.active.localOnly = request.enabled ∨
            chain.active.requestSha256 = services.requestHash request ∧
              store'.files = store.files) := by
  simp only [set, check_bind, state_bind, rejectIf_bind] at h
  split at h
  rotate_left
  · cases h
    exact ⟨fun _ _ => rfl, .inl rfl, by simp⟩
  rename_i hvalidate
  have hvalid := validateRequest_eq_ok.mp hvalidate
  split at h
  · cases h
    exact ⟨fun _ _ => rfl, .inl rfl, by simp⟩
  cases hcurrent : (store.readChain services faults.readable).filter
      fun chain => chain.active.requestId = request.requestId with
  | none =>
    simp only [hcurrent] at h
    obtain ⟨hrefused, hactive, hok⟩ := setNew_spec h
    refine ⟨hrefused, hactive.imp_right fun htarget => ⟨hvalid, htarget⟩, fun answer hanswer => ?_⟩
    obtain ⟨chain, hload, hmode, rfl⟩ := hok answer hanswer
    exact ⟨hvalid, chain, hload, hmode.symm, .inl hmode⟩
  | some chain =>
    simp only [hcurrent, rejectIf_bind] at h
    split at h
    · cases h
      exact ⟨fun _ _ => rfl, .inl rfl, by simp⟩
    · rename_i hhash
      rw [not_not] at hhash
      cases h
      refine ⟨by simp, .inl rfl, fun answer hanswer => ⟨hvalid, chain, ?_, ?_, .inr ⟨hhash, rfl⟩⟩⟩
      · exact readChain_eq_some (Option.filter_eq_some_iff.mp hcurrent).1
      · cases hanswer
        rfl

theorem loadAcknowledgedResponse_spec {readable : Bool} {proven : Option SetLocalOnlyV1Response}
    (h : store.loadAcknowledgedResponse services readable request = (proven, store')) :
    store'.files = store.files ∧ ∀ answer, proven = some answer →
      answer.localOnly = (store'.load services).localOnly := by
  unfold LocalOnlyModeStore.loadAcknowledgedResponse at h
  cases hacknowledged : store.acknowledgedResponse services readable request with
  | none =>
    rw [hacknowledged] at h
    cases h
    exact ⟨rfl, nofun⟩
  | some answer =>
    rw [hacknowledged] at h
    cases h
    refine ⟨rfl, fun other hother => ?_⟩
    cases hother
    unfold LocalOnlyModeStore.acknowledgedResponse at hacknowledged
    obtain ⟨chain, hchain, hrest⟩ := Option.bind_eq_some_iff.mp hacknowledged
    have hload := readChain_eq_some hchain
    simp only [Option.bind_eq_bind, Option.bind_eq_some_iff, Option.pure_def,
      Option.some.injEq] at hrest
    obtain ⟨-, -, -, -, -, -, -, -, rfl⟩ := hrest
    simp only [LocalOnlyModeStore.load, hload]
    rfl

/-! ## Reached stores -/

def Authored (services : LocalOnlyServices) (files : RecordFiles) : Prop :=
  ∀ active, files.active = some active → ∃ request : SetLocalOnlyV1Request,
    request.validate = .ok () ∧ active.requestSha256 = services.requestHash request ∧
      active.localOnly = request.enabled

theorem set_authored (h : set services faults request store = (result, store'))
    (hauthored : Authored services store.files) : Authored services store'.files := by
  intro active hactive
  rcases (set_spec h).2.1 with hsame | ⟨hvalid, revision, nonce, htarget⟩
  · exact hauthored active (hsame ▸ hactive)
  · rw [htarget] at hactive
    cases hactive
    exact ⟨request, hvalid, rfl, rfl⟩

/-- Stores that calls have made of no files, whatever went wrong, over any number of starts. -/
inductive StoreReached (services : LocalOnlyServices) : LocalOnlyModeStore → Prop
  | empty : StoreReached services ⟨⟨none, none, none⟩, none⟩
  | set {store store' : LocalOnlyModeStore} {faults : StoreFaults}
      {request : SetLocalOnlyV1Request}
      {result : Except LocalOnlyStoreError SetLocalOnlyV1Response}
      (h : StoreReached services store)
      (hset : LocalOnly.set services faults request store = (result, store')) :
      StoreReached services store'
  | look {store store' : LocalOnlyModeStore} {readable : Bool} {request : SetLocalOnlyV1Request}
      {proven : Option SetLocalOnlyV1Response} (h : StoreReached services store)
      (hlook : store.loadAcknowledgedResponse services readable request = (proven, store')) :
      StoreReached services store'
  | restart {store : LocalOnlyModeStore} (h : StoreReached services store) :
      StoreReached services { store with uncertain := none }

theorem StoreReached.authored (h : StoreReached services store) :
    Authored services store.files := by
  induction h with
  | empty => exact nofun
  | set _ hset ih => exact set_authored hset ih
  | look _ hlook ih =>
    rw [(loadAcknowledgedResponse_spec hlook).1]
    exact ih
  | restart _ ih => exact ih

/-- **A call that succeeds answers what was asked for**, and what the files say. -/
theorem set_ok {answer : SetLocalOnlyV1Response}
    (hhash : ∀ request request' : SetLocalOnlyV1Request, request.validate = .ok () →
      request'.validate = .ok () → services.requestHash request = services.requestHash request' →
      request = request')
    (hauthored : Authored services store.files)
    (h : set services faults request store = (.ok answer, store')) :
    answer.localOnly = request.enabled ∧ (store'.load services).localOnly = answer.localOnly := by
  obtain ⟨hvalid, chain, hload, hmode, hasked⟩ := (set_spec h).2.2 answer rfl
  refine ⟨?_, by rw [hmode, LocalOnlyModeStore.load, hload]⟩
  rw [hmode]
  rcases hasked with hasked | ⟨hsame, hfiles⟩
  · exact hasked
  · have hactive := loadChain_active hload
    obtain ⟨author, hauthorValid, hauthorHash, hauthorMode⟩ :=
      hauthored chain.active (hfiles ▸ hactive)
    obtain rfl := hhash author request hauthorValid hvalid (hauthorHash.symm.trans hsame)
    exact hauthorMode

/-! ## Calls in which nothing goes wrong -/

/-- Nothing goes wrong. -/
def faultless (transitionNonce : String) : StoreFaults where
  readable := true
  recognizable := true
  nonce := .ok transitionNonce
  prepared := .ok ()
  publishes _ := .published
  verifiable := true

structure Records.Hashed (records : Records) : Prop where
  request : isHash records.intent.requestSha256 = true ∧ isHash records.active.requestSha256 = true
  nonce : isHash records.intent.transitionNonce = true ∧
    isHash records.acknowledgment.transitionNonce = true
  digests : isHash records.acknowledgment.intentSha256 = true ∧
    isHash records.acknowledgment.activeSha256 = true
  checksums : isHash records.intent.checksumSha256 = true ∧
    isHash records.active.checksumSha256 = true ∧
    isHash records.acknowledgment.checksumSha256 = true

theorem loadChain_targetRecords {currentRevision : ℕ}
    (hrevision : currentRevision < maxSafeIntegerV1)
    (hhashed : (targetRecords services request currentRevision transitionNonce).Hashed) :
    RecordFiles.loadChain services
      ⟨some (targetRecords services request currentRevision transitionNonce).intent,
        some (targetRecords services request currentRevision transitionNonce).active,
        some (targetRecords services request currentRevision transitionNonce).acknowledgment⟩ =
      .ok (targetRecords services request currentRevision transitionNonce) := by
  obtain ⟨⟨hintent, hactive⟩, ⟨hnonce, hnonce'⟩, ⟨hdigest, hdigest'⟩, ⟨hsum, hsum', hsum''⟩⟩ :=
    hhashed
  have hle : ¬ maxSafeIntegerV1 < currentRevision + 1 := by omega
  simp only [targetRecords] at hintent hactive hnonce hnonce' hdigest hdigest' hsum hsum' hsum''
  simp [RecordFiles.loadChain, readRecord, targetRecords, TransitionIntentV1.validate,
    ActiveModeV1.validate, TransitionAcknowledgmentV1.validate, Records.fit, bind, Except.bind,
    hle, hintent, hnonce, hdigest, hdigest', hsum, hsum', hsum'']

theorem publishTransition_faultless (hload : RecordFiles.loadChain services
      ⟨some target.intent, some target.active, some target.acknowledgment⟩ = .ok target)
    (htarget : target.active.requestId = request.requestId ∧
      target.active.localOnly = request.enabled) :
    publishTransition services (faultless transitionNonce) request target uncertain store =
      (.ok (response request.requestId request.enabled target.active.revision .created),
        ⟨⟨some target.intent, some target.active, some target.acknowledgment⟩, none⟩) := by
  have hpublished : publishRecords (faultless transitionNonce) target uncertain [0, 1, 2] false
      store = (.ok (), { store with
        files := ⟨some target.intent, some target.active, some target.acknowledgment⟩ }) := rfl
  rw [publishTransition, bind_of_ok hpublished, state_bind, LocalOnlyModeStore.readChain]
  simp only [faultless, if_true, hload, Except.toOption, htarget, ne_eq, not_true_eq_false,
    or_self, if_false]
  rfl

/-- **A call in which nothing goes wrong** succeeds, where no transition is uncertain, the request
is new and names the current revision; its records are in the files. -/
theorem set_faultless (hvalid : request.validate = .ok ()) (huncertain : store.uncertain = none)
    (hother : ∀ chain, store.readChain services true = some chain →
      chain.active.requestId ≠ request.requestId)
    (hexpected : request.expectedRevision =
      store.currentRevision (store.readChain services true) none)
    (hhashed : (targetRecords services request request.expectedRevision transitionNonce).Hashed) :
    set services (faultless transitionNonce) request store =
      (.ok (response request.requestId request.enabled (request.expectedRevision + 1) .created),
        ⟨⟨some (targetRecords services request request.expectedRevision transitionNonce).intent,
          some (targetRecords services request request.expectedRevision transitionNonce).active,
          some (targetRecords services request request.expectedRevision
            transitionNonce).acknowledgment⟩, none⟩) := by
  have hrequest := validateRequest_eq_ok.mpr hvalid
  have hlt : request.expectedRevision < maxSafeIntegerV1 := by
    rw [SetLocalOnlyV1Request.validate, check_unless_eq_ok, check_when_eq_ok] at hvalid
    exact hvalid.2.1
  have hload := loadChain_targetRecords hlt hhashed
  have hnone : (store.readChain services true).filter
      (fun chain => chain.active.requestId = request.requestId) = none := by
    rw [Option.filter_eq_none_iff]
    intro chain hchain
    exact fun heq => hother chain hchain (of_decide_eq_true heq)
  have hle : ¬ maxSafeIntegerV1 < request.expectedRevision + 1 := by omega
  have hrecognized : store.recognized (store.readChain services true) true = none := by
    rw [LocalOnlyModeStore.recognized, huncertain]
    split <;> rfl
  have hcurrent : store.currentRevision (store.readChain services true) none =
      request.expectedRevision := hexpected.symm
  have hnew : ∀ uncertain, publishTransition services (faultless transitionNonce) request
      (targetRecords services request request.expectedRevision transitionNonce) uncertain store =
        _ := fun uncertain => publishTransition_faultless hload ⟨rfl, rfl⟩
  rw [set, check_bind, hrequest]
  simp only [state_bind, faultless]
  rw [rejectIf_bind, if_neg (by simp [huncertain])]
  simp only [hnone, setNew, state_bind]
  have hsame : request.expectedRevision = store.currentRevision (store.readChain services true)
      (store.recognized (store.readChain services true) true) := by
    rw [hrecognized, hexpected]
  rw [rejectIf_bind, if_neg (not_not.mpr hsame), rejectIf_bind, if_neg (hsame ▸ hle)]
  rw [← hsame]
  exact hnew _

end Threadbook.LocalOnly
