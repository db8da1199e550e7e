import Threadbook.HistoryId
import Threadbook.LocalOnlyCalls
import Threadbook.OutboundAuthority

/-!
# Runs of the outbound authority

The mutex lets one transition through at a time, and none ends while a lease is alive
(`Exclusive`). So the mode that is written holds for all leases after it (`since_ended`), and
between transitions the process never says that work may leave the machine where the store says
that it may not (`Durable`). **`outbound_authority`** collects what holds of every run; while a call
is between the store and its end, the process still says the mode of before
(`mode_behind_store`).
-/

namespace Threadbook.LocalOnly

open List

variable {services : LocalOnlyServices} {store₀ : LocalOnlyModeStore}
variable {w₀ w w' : OutboundWorld} {event : Event}

/-! ## One transition at a time -/

/-- The mode before a transition, once it is held. -/
def Phase.prior : Phase → Option OutboundAuthoritySnapshot
  | .waiting => none
  | .held prior => some prior
  | .answered prior _ => some prior

/-- **The invariant of the authority.** -/
structure Exclusive (w : OutboundWorld) : Prop where
  counted : w.authority.activeLeases = w.leases.length
  single : w.transitions.length ≤ 1
  marked : w.authority.transitioning = true ↔ w.transitions ≠ []
  held : ∀ transition ∈ w.transitions, ∀ prior, transition.phase.prior = some prior →
    w.leases = [] ∧ prior = w.authority.snapshot
  allowed : ∀ capability, some capability ∈ w.leases → w.authority.snapshot.localOnly = false

theorem Exclusive.alone (h : Exclusive w) {l₁ l₂ : List Transition} {transition : Transition}
    (heq : w.transitions = l₁ ++ transition :: l₂) : l₁ = [] ∧ l₂ = [] := by
  have hsingle := h.single
  rw [heq, length_append, length_cons] at hsingle
  exact ⟨eq_nil_of_length_eq_zero (by omega), eq_nil_of_length_eq_zero (by omega)⟩

variable {authority authority' : AuthorityState}

theorem addLease_eq_ok (h : authority.addLease = .ok authority') :
    authority' = { authority with activeLeases := authority.activeLeases + 1 } := by
  rw [AuthorityState.addLease, check_unless_eq_ok] at h
  exact (Except.ok.inj h.2).symm

theorem acquire_eq_ok (h : authority.acquire = .ok authority') :
    authority.transitioning = false ∧ authority.snapshot.localOnly = false ∧
      authority' = { authority with activeLeases := authority.activeLeases + 1 } := by
  rw [AuthorityState.acquire, check_unless_eq_ok, check_unless_eq_ok] at h
  exact ⟨by simpa using h.1, by simpa using h.2.1, addLease_eq_ok h.2.2⟩

theorem acquireLocalCleanup_eq_ok (h : authority.acquireLocalCleanup = .ok authority') :
    authority.transitioning = false ∧
      authority' = { authority with activeLeases := authority.activeLeases + 1 } := by
  rw [AuthorityState.acquireLocalCleanup, check_unless_eq_ok] at h
  exact ⟨by simpa using h.1, addLease_eq_ok h.2⟩

theorem beginTransition_eq_ok (h : authority.beginTransition = .ok authority') :
    authority.transitioning = false ∧ authority' = { authority with transitioning := true } := by
  rw [AuthorityState.beginTransition, check_unless_eq_ok] at h
  exact ⟨by simpa using h.1, (Except.ok.inj h.2).symm⟩

theorem Exclusive.idle (h : Exclusive w) (hmark : w.authority.transitioning = false) :
    w.transitions = [] := by
  by_contra hne
  rw [h.marked.mpr hne] at hmark
  cases hmark

/-- **A step keeps the invariant.** -/
theorem Exclusive.step (h : Exclusive w) (hstep : Step services w event w') : Exclusive w' := by
  cases hstep with
  | acquire capability hacquire =>
    obtain ⟨hmark, hmode, rfl⟩ := acquire_eq_ok hacquire
    have hidle := h.idle hmark
    exact ⟨by simp [h.counted], h.single, h.marked, by simp [hidle], fun _ _ => hmode⟩
  | acquireLocalCleanup hacquire =>
    obtain ⟨hmark, rfl⟩ := acquireLocalCleanup_eq_ok hacquire
    have hidle := h.idle hmark
    refine ⟨by simp [h.counted], h.single, h.marked, by simp [hidle], fun capability hmem => ?_⟩
    exact h.allowed capability (by simpa using hmem)
  | @dropLease l₁ l₂ capability hleases =>
    refine ⟨?_, h.single, h.marked, fun transition htransition prior hprior => ?_,
      fun other hother => ?_⟩
    · simp [AuthorityState.dropLease, h.counted, hleases]
    · have hnone := (h.held transition htransition prior hprior).1
      rw [hleases] at hnone
      simp at hnone
    · apply h.allowed other
      rw [hleases]
      rcases mem_append.mp hother with hleft | hright
      · exact mem_append_left _ hleft
      · exact mem_append_right _ (.tail _ hright)
  | beginTransition caller hvalid hbegin =>
    obtain ⟨hmark, rfl⟩ := beginTransition_eq_ok hbegin
    have hidle := h.idle hmark
    refine ⟨h.counted, by simp [hidle], by simp, ?_, h.allowed⟩
    intro transition htransition prior hprior
    rw [hidle, mem_singleton] at htransition
    subst htransition
    cases hprior
  | refuse hinvalid => exact ⟨h.counted, h.single, h.marked, h.held, h.allowed⟩
  | refuseTransition hvalid hbegin => exact ⟨h.counted, h.single, h.marked, h.held, h.allowed⟩
  | enterTransition htransition hidle =>
    obtain ⟨rfl, rfl⟩ := h.alone htransition
    have hleases : w.leases = [] := eq_nil_of_length_eq_zero (h.counted ▸ hidle)
    refine ⟨h.counted, by simp, by simp [h.marked, htransition], ?_, h.allowed⟩
    intro transition hmem prior hprior
    rw [nil_append, mem_singleton] at hmem
    subst hmem
    exact ⟨hleases, (Option.some.inj hprior).symm⟩
  | @setStore _ _ request prior faults result store htransition hset =>
    obtain ⟨rfl, rfl⟩ := h.alone htransition
    have hheld := h.held ⟨.setLocalOnly request, .held prior⟩ (by simp [htransition]) prior rfl
    refine ⟨h.counted, by simp, by simp [h.marked, htransition], ?_, h.allowed⟩
    intro transition hmem prior' hprior
    rw [nil_append, mem_singleton] at hmem
    subst hmem
    cases hprior
    exact hheld
  | @lookStore _ _ request prior readable proven store htransition hlook =>
    obtain ⟨rfl, rfl⟩ := h.alone htransition
    have hheld := h.held ⟨.setLocalOnly request, .answered prior .unknown⟩
      (by simp [htransition]) prior rfl
    refine ⟨h.counted, by simp, by simp [h.marked, htransition], ?_, h.allowed⟩
    intro transition hmem prior' hprior
    rw [nil_append, mem_singleton] at hmem
    subst hmem
    cases hprior
    exact hheld
  | @endCall _ _ request prior answer ending result htransition hconclude =>
    obtain ⟨rfl, rfl⟩ := h.alone htransition
    have hheld := h.held ⟨.setLocalOnly request, .answered prior answer⟩
      (by simp [htransition]) prior rfl
    refine ⟨h.counted, by simp, by simp [AuthorityState.publish], by simp, ?_⟩
    intro capability hmem
    rw [hheld.1] at hmem
    cases hmem
  | @endTransition _ _ prior ending htransition =>
    obtain ⟨rfl, rfl⟩ := h.alone htransition
    have hheld := h.held ⟨.direct, .held prior⟩ (by simp [htransition]) prior rfl
    refine ⟨h.counted, by simp, by simp [AuthorityState.publish], by simp, ?_⟩
    intro capability hmem
    rw [hheld.1] at hmem
    cases hmem
  | «return» hresult => exact ⟨h.counted, h.single, h.marked, h.held, h.allowed⟩

theorem exclusive_start (store : LocalOnlyModeStore) : Exclusive (.start services store) :=
  ⟨rfl, by simp [OutboundWorld.start], by simp [OutboundWorld.start, AuthorityState.new],
    by simp [OutboundWorld.start], by simp [OutboundWorld.start]⟩

theorem Run.exclusive (h : Run services w₀ w) (h₀ : Exclusive w₀) : Exclusive w := by
  induction h with
  | refl => exact h₀
  | tail _ hstep ih => exact ih.step hstep

/-! ## What is written, and what is granted -/

theorem Step.effect (h : Step services w event w') : w'.log = event :: w.log ∧
      (∀ caller ending written, event = .ended caller ending written →
        w'.authority.snapshot = written) ∧
      ((∀ caller ending written, event ≠ .ended caller ending written) →
        w'.authority.snapshot = w.authority.snapshot) ∧
      ∀ capability, event = .granted (some capability) →
        w.authority.transitioning = false ∧ w.authority.snapshot.localOnly = false := by
  cases h with
  | acquire capability hacquire =>
    obtain ⟨hmark, hmode, rfl⟩ := acquire_eq_ok hacquire
    exact ⟨rfl, by simp, fun _ => rfl, fun _ _ => ⟨hmark, hmode⟩⟩
  | acquireLocalCleanup hacquire =>
    obtain ⟨-, rfl⟩ := acquireLocalCleanup_eq_ok hacquire
    exact ⟨rfl, by simp, fun _ => rfl, by simp⟩
  | beginTransition caller hvalid hbegin =>
    obtain ⟨-, rfl⟩ := beginTransition_eq_ok hbegin
    exact ⟨rfl, by simp, fun _ => rfl, by simp⟩
  | endCall htransition hconclude =>
    refine ⟨rfl, fun caller ending written heq => ?_, fun hno => absurd rfl (hno _ _ _), by simp⟩
    exact (Event.ended.inj heq).2.2
  | endTransition ending htransition =>
    refine ⟨rfl, fun caller ending written heq => ?_, fun hno => absurd rfl (hno _ _ _), by simp⟩
    exact (Event.ended.inj heq).2.2
  | _ => exact ⟨rfl, by simp, fun _ => rfl, by simp⟩

/-- Some transition has ended with a mode in which work may leave the machine. -/
def Opened (events : List Event) : Prop :=
  ∃ caller ending written, .ended caller ending written ∈ events ∧ written.localOnly = false

/-- **The mode that is written holds on**: after a transition that ended with the local-only mode,
the mode is that, and no lease is given for work that leaves the machine, until a transition ends
otherwise. -/
theorem since_ended (h : Run services (.start services store₀) w) {newer older : List Event}
    {caller : Caller} {ending : Ending} {written : OutboundAuthoritySnapshot}
    (hlog : w.log = newer ++ .ended caller ending written :: older)
    (hwritten : written.localOnly = true) (hclosed : ¬ Opened newer) :
    w.authority.snapshot.localOnly = true ∧ ∀ capability, .granted (some capability) ∉ newer := by
  induction h generalizing newer with
  | refl => simp [OutboundWorld.start] at hlog
  | @tail before after event _ hstep ih =>
    obtain ⟨hevent, hended, hother, hgranted⟩ := hstep.effect
    rw [hevent] at hlog
    cases newer with
    | nil =>
      obtain ⟨heq, -⟩ := cons.inj hlog
      rw [hended _ _ _ heq]
      exact ⟨hwritten, by simp⟩
    | cons first newer =>
      obtain ⟨rfl, hrest⟩ := cons.inj hlog
      have hclosedRest : ¬ Opened newer := by
        rintro ⟨c, e, s, hmem, hfalse⟩
        exact hclosed ⟨c, e, s, .tail _ hmem, hfalse⟩
      obtain ⟨hmode, hnone⟩ := ih hrest hclosedRest
      constructor
      · by_cases hends : ∃ c e s, event = .ended c e s
        · obtain ⟨c, e, s, rfl⟩ := hends
          rw [hended _ _ _ rfl]
          by_contra hfalse
          exact hclosed ⟨c, e, s, .head _, by simpa using hfalse⟩
        · rw [hother fun c e s heq => hends ⟨c, e, s, heq⟩]
          exact hmode
      · intro capability hmem
        rcases mem_cons.mp hmem with heq | hmem
        · rw [(hgranted capability heq.symm).2] at hmode
          cases hmode
        · exact hnone capability hmem

/-! ## The mode and the store -/

def Agrees (services : LocalOnlyServices) (localOnly : Bool) (store : LocalOnlyModeStore) : Prop :=
  localOnly = false → (store.load services).localOnly = false

def Answers (services : LocalOnlyServices) (localOnly : Bool) (store : LocalOnlyModeStore)
    (request : SetLocalOnlyV1Request) : StoreAnswer → Prop
  | .ok response => response.localOnly = request.enabled ∧
      (store.load services).localOnly = response.localOnly
  | .refused _ => Agrees services localOnly store
  | .unknown => True
  | .looked (some proven) => (store.load services).localOnly = proven.localOnly
  | .looked none => True

def PhaseAgrees (services : LocalOnlyServices) (localOnly : Bool) (store : LocalOnlyModeStore)
    (transition : Transition) : Prop :=
  match transition.caller, transition.phase with
  | .setLocalOnly request, .answered _ answer => Answers services localOnly store request answer
  | _, _ => Agrees services localOnly store

def Closed (request : SetLocalOnlyV1Request) (events : List Event) : Prop :=
  ∃ ending written, .ended (.setLocalOnly request) ending written ∈ events ∧
    written.localOnly = true

def WrittenByCalls (events : List Event) : Prop :=
  ∀ snapshot written, .ended .direct (.publish snapshot) written ∉ events

/-- **The invariant of the mode and the store.** -/
structure Durable (services : LocalOnlyServices) (w : OutboundWorld) : Prop where
  authored : Authored services w.store.files
  idle : w.transitions = [] → Agrees services w.authority.snapshot.localOnly w.store
  phases : ∀ transition ∈ w.transitions,
    PhaseAgrees services w.authority.snapshot.localOnly w.store transition
  results : ∀ request response, (request, .ok response) ∈ w.results → request.enabled = true →
    Closed request w.log
  returned : ∀ newer older request response,
    w.log = newer ++ .returned request (.ok response) :: older → request.enabled = true →
      Closed request older

theorem Closed.cons {request : SetLocalOnlyV1Request} {events : List Event}
    (h : Closed request events) (event : Event) : Closed request (event :: events) := by
  obtain ⟨ending, written, hmem, hwritten⟩ := h
  exact ⟨ending, written, .tail _ hmem, hwritten⟩

theorem returned_cons {log : List Event} (h : ∀ newer older request response,
      log = newer ++ .returned request (.ok response) :: older → request.enabled = true →
        Closed request older)
    (hevent : ∀ request response, event = .returned request (.ok response) →
      request.enabled = true → Closed request log)
    (newer older : List Event) (request : SetLocalOnlyV1Request)
    (response : SetLocalOnlyV1Response)
    (hlog : event :: log = newer ++ .returned request (.ok response) :: older)
    (henabled : request.enabled = true) : Closed request older := by
  cases newer with
  | nil =>
    obtain ⟨rfl, rfl⟩ := cons.inj hlog
    exact hevent request response rfl henabled
  | cons first newer => exact h newer older request response (cons.inj hlog).2 henabled

theorem Durable.unchanged (h : Durable services w) (hlog : w'.log = event :: w.log)
    (hsnapshot : w'.authority.snapshot = w.authority.snapshot)
    (htransitions : w'.transitions = w.transitions) (hstore : w'.store = w.store)
    (hresults : ∀ request response, (request, .ok response) ∈ w'.results →
      (request, .ok response) ∈ w.results)
    (hevent : ∀ request response, event = .returned request (.ok response) →
      request.enabled = true → Closed request w.log) : Durable services w' := by
  refine ⟨by rw [hstore]; exact h.authored, ?_, ?_, ?_, ?_⟩
  · rw [htransitions, hsnapshot, hstore]
    exact h.idle
  · rw [htransitions, hsnapshot, hstore]
    exact h.phases
  · intro request response hmem henabled
    rw [hlog]
    exact (h.results request response (hresults request response hmem) henabled).cons event
  · rw [hlog]
    exact returned_cons h.returned hevent

theorem Durable.goesOn (h : Durable services w) {transition : Transition}
    (hlog : w'.log = event :: w.log) (htransitions : w'.transitions = [transition])
    (hauthored : Authored services w'.store.files) (hresults : w'.results = w.results)
    (hevent : ∀ request response, event ≠ .returned request (.ok response))
    (hphase : PhaseAgrees services w'.authority.snapshot.localOnly w'.store transition) :
    Durable services w' := by
  refine ⟨hauthored, ?_, ?_, ?_, ?_⟩
  · rw [htransitions]
    exact nofun
  · rw [htransitions]
    exact forall_mem_singleton.mpr hphase
  · intro request response hmem henabled
    rw [hresults] at hmem
    rw [hlog]
    exact (h.results request response hmem henabled).cons event
  · rw [hlog]
    exact returned_cons h.returned fun request response heq => absurd heq (hevent request response)

theorem Answers.conclude {prior : OutboundAuthoritySnapshot} {store : LocalOnlyModeStore}
    {request : SetLocalOnlyV1Request} {answer : StoreAnswer} {ending : Ending}
    {result : CommandResult} (h : Answers services prior.localOnly store request answer)
    (hconclude : answer.conclude = some (ending, result)) :
    Agrees services (ending.written prior).localOnly store ∧
      ∀ response, result = .ok response → request.enabled = true →
        (ending.written prior).localOnly = true := by
  cases answer with
  | ok response =>
    obtain ⟨hasked, hload⟩ := h
    have hending : ending = .publish response.snapshot := by
      cases hvalid : response.validate <;>
        simp only [StoreAnswer.conclude, hvalid, Option.some.injEq, Prod.mk.injEq] at hconclude <;>
        exact hconclude.1.symm
    subst hending
    refine ⟨fun hopen => hload.trans hopen, fun _ _ henabled => ?_⟩
    exact hasked.trans henabled
  | refused error =>
    obtain ⟨rfl, rfl⟩ := Prod.mk.inj (Option.some.inj hconclude)
    exact ⟨h, nofun⟩
  | unknown => cases hconclude
  | looked proven =>
    cases proven with
    | none =>
      obtain ⟨rfl, rfl⟩ := Prod.mk.inj (Option.some.inj hconclude)
      exact ⟨nofun, nofun⟩
    | some proven =>
      obtain ⟨rfl, rfl⟩ := Prod.mk.inj (Option.some.inj hconclude)
      exact ⟨fun hopen => Eq.trans h hopen, nofun⟩

variable (hhash : ∀ request request' : SetLocalOnlyV1Request, request.validate = .ok () →
  request'.validate = .ok () → services.requestHash request = services.requestHash request' →
  request = request')

include hhash in
/-- **A step keeps the invariant**, if it does not write a mode on its own. -/
theorem Durable.step (h : Durable services w) (hexclusive : Exclusive w)
    (hstep : Step services w event w') (hcalls : WrittenByCalls w'.log) : Durable services w' := by
  obtain ⟨hlog, -, -, -⟩ := hstep.effect
  cases hstep with
  | acquire capability hacquire =>
    obtain ⟨-, -, rfl⟩ := acquire_eq_ok hacquire
    exact h.unchanged hlog rfl rfl rfl (fun _ _ => id) (by simp)
  | acquireLocalCleanup hacquire =>
    obtain ⟨-, rfl⟩ := acquireLocalCleanup_eq_ok hacquire
    exact h.unchanged hlog rfl rfl rfl (fun _ _ => id) (by simp)
  | dropLease hleases => exact h.unchanged hlog rfl rfl rfl (fun _ _ => id) (by simp)
  | refuse hinvalid =>
    refine h.unchanged hlog rfl rfl rfl (fun request response hmem => ?_) (by simp)
    simpa using hmem
  | refuseTransition hvalid hbegin =>
    refine h.unchanged hlog rfl rfl rfl (fun request response hmem => ?_) (by simp)
    simpa using hmem
  | @«return» l₁ l₂ request result hresult =>
    have hall : ∀ request' response, (request', .ok response) ∈ l₁ ++ l₂ →
        (request', .ok response) ∈ w.results := by
      intro request' response hmem
      rw [hresult]
      rcases mem_append.mp hmem with hleft | hright
      · exact mem_append_left _ hleft
      · exact mem_append_right _ (.tail _ hright)
    refine h.unchanged hlog rfl rfl rfl hall fun request' response heq henabled => ?_
    obtain ⟨rfl, rfl⟩ := Event.returned.inj heq
    exact h.results request response (by rw [hresult]; simp) henabled
  | beginTransition caller hvalid hbegin =>
    obtain ⟨hmark, rfl⟩ := beginTransition_eq_ok hbegin
    have hidle := hexclusive.idle hmark
    refine h.goesOn hlog (congrArg _ hidle) h.authored rfl (by simp) ?_
    cases caller <;> exact h.idle hidle
  | @enterTransition l₁ l₂ caller htransition hidle =>
    obtain ⟨rfl, rfl⟩ := hexclusive.alone htransition
    have hagrees : Agrees services w.authority.snapshot.localOnly w.store := by
      have hphase := h.phases ⟨caller, .waiting⟩ (by simp [htransition])
      cases caller <;> exact hphase
    refine h.goesOn hlog rfl h.authored rfl (by simp) ?_
    cases caller <;> exact hagrees
  | @setStore l₁ l₂ request prior faults result store htransition hset =>
    obtain ⟨rfl, rfl⟩ := hexclusive.alone htransition
    have hagrees : Agrees services w.authority.snapshot.localOnly w.store :=
      h.phases ⟨.setLocalOnly request, .held prior⟩ (by simp [htransition])
    refine h.goesOn hlog rfl (set_authored hset h.authored) rfl (by simp) ?_
    rcases result with (error | -) | response
    · intro hopen
      rw [LocalOnlyModeStore.load, (set_spec hset).1 error rfl]
      exact hagrees hopen
    · trivial
    · exact set_ok hhash h.authored hset
  | @lookStore l₁ l₂ request prior readable proven store htransition hlook =>
    obtain ⟨rfl, rfl⟩ := hexclusive.alone htransition
    obtain ⟨hfiles, hproven⟩ := loadAcknowledgedResponse_spec hlook
    refine h.goesOn hlog rfl (hfiles ▸ h.authored) rfl (by simp) ?_
    cases proven with
    | none => trivial
    | some answer => exact (hproven answer rfl).symm
  | @endCall l₁ l₂ request prior answer ending result htransition hconclude =>
    obtain ⟨rfl, rfl⟩ := hexclusive.alone htransition
    have hanswers : Answers services w.authority.snapshot.localOnly w.store request answer :=
      h.phases ⟨.setLocalOnly request, .answered prior answer⟩ (by simp [htransition])
    have hprior := (hexclusive.held ⟨.setLocalOnly request, .answered prior answer⟩
      (by simp [htransition]) prior rfl).2
    have hwritten : Agrees services (ending.written prior).localOnly w.store ∧
        ∀ response, result = .ok response → request.enabled = true →
          (ending.written prior).localOnly = true := by
      rw [← hprior] at hanswers
      exact hanswers.conclude hconclude
    refine ⟨h.authored, fun _ => hwritten.1, by simp, fun request' response hmem henabled => ?_,
      returned_cons h.returned (by simp)⟩
    rcases mem_cons.mp hmem with heq | hmem
    · cases heq
      exact ⟨ending, _, .head _, hwritten.2 response rfl henabled⟩
    · exact (h.results request' response hmem henabled).cons _
  | @endTransition l₁ l₂ prior ending htransition =>
    obtain ⟨rfl, rfl⟩ := hexclusive.alone htransition
    have hagrees : Agrees services w.authority.snapshot.localOnly w.store :=
      h.phases ⟨.direct, .held prior⟩ (by simp [htransition])
    have hprior := (hexclusive.held ⟨.direct, .held prior⟩ (by simp [htransition]) prior rfl).2
    refine ⟨h.authored, fun _ => ?_, by simp, fun request response hmem henabled =>
      (h.results request response hmem henabled).cons _, returned_cons h.returned (by simp)⟩
    cases ending with
    | publish snapshot => exact absurd (.head _) (hcalls snapshot _)
    | failClosed => rintro ⟨⟩
    | drop =>
      rw [hprior] at *
      exact hagrees

theorem durable_start (hauthored : Authored services store₀.files) :
    Durable services (.start services store₀) := by
  refine ⟨hauthored, fun _ => id, ?_, ?_, ?_⟩ <;> simp [OutboundWorld.start]

include hhash in
theorem Run.durable (h : Run services (.start services store₀) w)
    (hreached : StoreReached services store₀) (hcalls : WrittenByCalls w.log) :
    Durable services w := by
  induction h with
  | refl => exact durable_start hreached.authored
  | tail hrun hstep ih =>
    have hbefore : WrittenByCalls _ := fun snapshot written hmem =>
      hcalls snapshot written (by rw [hstep.effect.1]; exact .tail _ hmem)
    exact (ih hbefore).step hhash (hrun.exclusive (exclusive_start store₀)) hstep hcalls

/-! ## The authority as a whole -/

/-- **Outbound work and the local-only mode.** Of every process that started on a store that calls
have made, and after any steps of any threads in any order, where hashes of requests differ:

* there is at most one transition, and the count of leases is that of the leases that are alive;
* a lease for work that leaves the machine is given only in a mode that allows it and while there
  is no transition; a transition ends only while no lease is alive; and dropping a lease takes one
  off the count.

If modes are written by calls only, then also:

* before a call for the local-only mode returns success, its transition has ended with that mode;
  from then on no lease for work that leaves the machine has been given, and none is alive, unless
  a transition has ended with the other mode since;
* while there is no transition, the process does not say that work may leave the machine where the
  store says that it may not. -/
theorem outbound_authority (services : LocalOnlyServices)
    (hhash : ∀ request request' : SetLocalOnlyV1Request, request.validate = .ok () →
      request'.validate = .ok () → services.requestHash request = services.requestHash request' →
      request = request')
    (store₀ : LocalOnlyModeStore) (hreached : StoreReached services store₀) (w : OutboundWorld)
    (hrun : Run services (.start services store₀) w) :
    (w.transitions.length ≤ 1 ∧ (w.authority.transitioning = true ↔ w.transitions ≠ []) ∧
      w.authority.activeLeases = w.leases.length) ∧
    (∀ event w', Step services w event w' →
      (∀ capability, event = .granted (some capability) →
        w.authority.snapshot.localOnly = false ∧ w.transitions = []) ∧
      (∀ caller ending written, event = .ended caller ending written → w.leases = []) ∧
      (event = .dropped → w.authority.activeLeases = w'.authority.activeLeases + 1)) ∧
    (WrittenByCalls w.log →
      (∀ newer older request response,
        w.log = newer ++ .returned request (.ok response) :: older → request.enabled = true →
        ∃ between before ending written,
          older = between ++ .ended (.setLocalOnly request) ending written :: before ∧
          written.localOnly = true ∧
          (Opened (newer ++ .returned request (.ok response) :: between) ∨
            ∀ capability, some capability ∉ w.leases ∧
              .granted (some capability) ∉
                newer ++ .returned request (.ok response) :: between)) ∧
      (w.transitions = [] → w.authority.snapshot.localOnly = false →
        (w.store.load services).localOnly = false)) := by
  have hexclusive := hrun.exclusive (exclusive_start store₀)
  refine ⟨⟨hexclusive.single, hexclusive.marked, hexclusive.counted⟩, ?_, fun hcalls => ?_⟩
  · intro event w' hstep
    refine ⟨fun capability heq => ?_, fun caller ending written heq => ?_, fun heq => ?_⟩
    · obtain ⟨hmark, hmode⟩ := hstep.effect.2.2.2 capability heq
      exact ⟨hmode, hexclusive.idle hmark⟩
    · subst heq
      cases hstep with
      | @endCall l₁ l₂ request prior answer _ _ htransition _ =>
        exact (hexclusive.held ⟨.setLocalOnly request, .answered prior answer⟩
          (by simp [htransition]) prior rfl).1
      | @endTransition l₁ l₂ prior _ htransition =>
        exact (hexclusive.held ⟨.direct, .held prior⟩ (by simp [htransition]) prior rfl).1
    · have hafter := hexclusive.step hstep
      subst heq
      cases hstep with
      | dropLease hleases =>
        rw [hexclusive.counted, hafter.counted, hleases]
        simp
        omega
  · have hdurable := hrun.durable hhash hreached hcalls
    refine ⟨fun newer older request response hlog henabled => ?_, hdurable.idle⟩
    obtain ⟨ending, written, hmem, hwritten⟩ :=
      hdurable.returned newer older request response hlog henabled
    obtain ⟨between, before, hsplit⟩ := List.append_of_mem hmem
    refine ⟨between, before, ending, written, hsplit, hwritten, ?_⟩
    by_cases hopened : Opened (newer ++ .returned request (.ok response) :: between)
    · exact .inl hopened
    · have hlog' : w.log = (newer ++ .returned request (.ok response) :: between) ++
          .ended (.setLocalOnly request) ending written :: before := by
        rw [hlog, hsplit]
        simp
      obtain ⟨hmode, hnone⟩ := since_ended hrun hlog' hwritten hopened
      refine .inr fun capability => ⟨fun hlease => ?_, hnone capability⟩
      rw [hexclusive.allowed capability hlease] at hmode
      cases hmode

namespace Example

/-- A number below 10⁶⁴ as a hash. -/
def digits64 (n : ℕ) : String := String.ofList ((Nat.toDigits 10 n).leftpad 64 '0')

def requestNumber (request : SetLocalOnlyV1Request) : ℕ :=
  (request.requestId.1.val * 2 + request.enabled.toNat) * 2 ^ 53 + request.expectedRevision

def hashServices : LocalOnlyServices where
  requestHash request := digits64 (requestNumber request)
  intentHash body := digits64 body.targetRevision
  activeHash body := digits64 body.revision
  acknowledgmentHash body := digits64 body.revision
  intentDigest intent := digits64 intent.targetRevision
  activeDigest active := digits64 active.revision

theorem digits64_injective {n m : ℕ} (h : digits64 n = digits64 m) : n = m := by
  have hvalue (k : ℕ) : Nat.ofDigitChars 10 ((Nat.toDigits 10 k).leftpad 64 '0') 0 = k := by
    have hzeros (count : ℕ) (digits : List Char) :
        Nat.ofDigitChars 10 (replicate count '0' ++ digits) 0 = Nat.ofDigitChars 10 digits 0 := by
      induction count with
      | zero => rfl
      | succ count ih => exact ih
    rw [leftpad, hzeros, Nat.ofDigitChars_toDigits (by decide) (by decide)]
  rw [← hvalue n, String.ofList_injective h, hvalue m]

theorem hashServices_hash (request request' : SetLocalOnlyV1Request)
    (h : request.validate = .ok ()) (h' : request'.validate = .ok ())
    (hhash : hashServices.requestHash request = hashServices.requestHash request') :
    request = request' := by
  have hnumber : requestNumber request = requestNumber request' := digits64_injective hhash
  obtain ⟨schemaVersion, requestId, enabled, expectedRevision⟩ := request
  obtain ⟨schemaVersion', requestId', enabled', expectedRevision'⟩ := request'
  rw [SetLocalOnlyV1Request.validate, check_unless_eq_ok, check_when_eq_ok, not_not] at h h'
  obtain ⟨rfl, hlt, -⟩ := h
  obtain ⟨rfl, hlt', -⟩ := h'
  simp only [maxSafeIntegerV1] at hlt hlt'
  simp only [requestNumber] at hnumber
  have henabled : enabled.toNat < 2 := Bool.toNat_lt enabled
  have henabled' : enabled'.toNat < 2 := Bool.toNat_lt enabled'
  have hid : requestId.1.val = requestId'.1.val := by omega
  have hmode : enabled.toNat = enabled'.toNat := by omega
  have hrevision : expectedRevision = expectedRevision' := by omega
  obtain rfl := Subtype.ext (Fin.ext hid)
  obtain rfl : enabled = enabled' := by
    cases enabled <;> cases enabled' <;> simp_all
  rw [hrevision]

/-- Nothing goes wrong. -/
def noFaults : StoreFaults where
  readable := true
  recognizable := true
  nonce := .ok (digits64 7)
  prepared := .ok ()
  publishes _ := .published
  verifiable := true

def offRequest : SetLocalOnlyV1Request := ⟨1, .above 1, false, 0⟩

def onRequest : SetLocalOnlyV1Request := ⟨1, .above 2, true, 1⟩

def offResponse : SetLocalOnlyV1Response := response (.above 1) false 1 .created

def onResponse : SetLocalOnlyV1Response := response (.above 2) true 2 .created

theorem isHash_digits64 {n : ℕ} (hn : n < 10 ^ 64) : isHash (digits64 n) = true := by
  have hlength : (Nat.toDigits 10 n).length ≤ 64 :=
    (Nat.length_toDigits_le_iff (by decide) (by decide)).mpr hn
  have hdigits : ∀ c ∈ (digits64 n).toList, isAsciiDigit c = true := by
    intro c hc
    rw [digits64, String.toList_ofList, leftpad, mem_append] at hc
    rcases hc with hzero | hdigit
    · rw [eq_of_mem_replicate hzero]
      decide
    · have hdigit := Nat.isDigit_of_mem_toDigits (by decide) (by decide) hdigit
      rw [Char.isDigit, Bool.and_eq_true] at hdigit
      simpa [isAsciiDigit, Char.le_def] using hdigit
  have hlong : byteLength (digits64 n) = 64 := by
    rw [HistoryId.byteLength_of_digits hdigits, digits64, String.toList_ofList, length_leftpad]
    omega
  simp only [isHash, hlong, true_and, decide_eq_true_eq, all_eq_true]
  intro c hc
  rw [isLowerHexDigit, hdigits c hc, Bool.true_or]

theorem hashed_of_requestNumber {request : SetLocalOnlyV1Request} {currentRevision : ℕ}
    (hnumber : requestNumber request < 10 ^ 64) (hrevision : currentRevision < maxSafeIntegerV1) :
    (targetRecords hashServices request currentRevision (digits64 7)).Hashed := by
  have hseven : isHash (digits64 7) = true := isHash_digits64 (by decide)
  have htarget : isHash (digits64 (currentRevision + 1)) = true := by
    apply isHash_digits64
    simp only [maxSafeIntegerV1] at hrevision
    omega
  exact ⟨⟨isHash_digits64 hnumber, isHash_digits64 hnumber⟩, ⟨hseven, hseven⟩,
    ⟨htarget, htarget⟩, ⟨htarget, htarget, htarget⟩⟩

theorem exists_stores : ∃ openStore closedStore : LocalOnlyModeStore,
    StoreReached hashServices openStore ∧ (openStore.load hashServices).localOnly = false ∧
      set hashServices noFaults onRequest openStore = (.ok onResponse, closedStore) ∧
        (closedStore.load hashServices).localOnly = true := by
  let opened := targetRecords hashServices offRequest 0 (digits64 7)
  have hhashed : opened.Hashed := hashed_of_requestNumber (by decide) (by decide)
  let empty : LocalOnlyModeStore := ⟨⟨none, none, none⟩, none⟩
  let openStore : LocalOnlyModeStore :=
    ⟨⟨some opened.intent, some opened.active, some opened.acknowledgment⟩, none⟩
  have hopen : set hashServices noFaults offRequest empty = (.ok offResponse, openStore) :=
    set_faultless (by decide) rfl (fun _ hchain => nomatch hchain) rfl hhashed
  have hread : openStore.readChain hashServices true = some opened := by
    rw [LocalOnlyModeStore.readChain, if_pos rfl, loadChain_targetRecords (by decide) hhashed]
    rfl
  have hother : ∀ chain, openStore.readChain hashServices true = some chain →
      chain.active.requestId ≠ onRequest.requestId := by
    intro chain hchain
    obtain rfl := Option.mem_unique hread hchain
    show offRequest.requestId ≠ onRequest.requestId
    decide
  have hclosed : set hashServices noFaults onRequest openStore = (.ok onResponse, _) :=
    set_faultless (by decide) rfl hother (by rw [hread]; rfl)
      (hashed_of_requestNumber (by decide) (by decide))
  have hreached : StoreReached hashServices openStore := .set .empty hopen
  exact ⟨openStore, _, hreached,
    (set_ok hashServices_hash StoreReached.empty.authored hopen).2, hclosed,
    (set_ok hashServices_hash hreached.authored hclosed).2⟩

theorem stored_run {openStore closedStore : LocalOnlyModeStore}
    (hset : set hashServices noFaults onRequest openStore = (.ok onResponse, closedStore)) :
    let start := OutboundWorld.start hashServices openStore
    Run hashServices start { start with
        authority := { start.authority with transitioning := true }
        transitions :=
          [⟨.setLocalOnly onRequest, .answered start.authority.snapshot (.ok onResponse)⟩]
        store := closedStore
        log := [.stored onRequest, .entered (.setLocalOnly onRequest),
          .began (.setLocalOnly onRequest)] } := by
  intro start
  let waiting : OutboundWorld :=
    { start with
      authority := { start.authority with transitioning := true }
      transitions := [⟨.setLocalOnly onRequest, .waiting⟩]
      log := [.began (.setLocalOnly onRequest)] }
  let held : OutboundWorld :=
    { waiting with
      transitions := [⟨.setLocalOnly onRequest, .held start.authority.snapshot⟩]
      log := .entered (.setLocalOnly onRequest) :: waiting.log }
  have hbegan : Step hashServices start (.began (.setLocalOnly onRequest)) waiting :=
    .beginTransition _ (fun request heq => by obtain rfl := Caller.setLocalOnly.inj heq; rfl) rfl
  have hentered : Step hashServices waiting (.entered (.setLocalOnly onRequest)) held :=
    @Step.enterTransition _ waiting [] [] _ rfl rfl
  exact (((Run.refl start).tail hbegan).tail hentered).tail
    (@Step.setStore _ held [] [] _ _ noFaults _ _ rfl hset)

/-- A call for the local-only mode has returned: no lease for work that leaves the machine is
alive. -/
theorem returned_closed : ∃ store₀ w older, Run hashServices (.start hashServices store₀) w ∧
    w.log = .returned onRequest (.ok onResponse) :: older ∧
    ∃ between before ending written,
      older = between ++ .ended (.setLocalOnly onRequest) ending written :: before ∧
        written.localOnly = true ∧
        (Opened (.returned onRequest (.ok onResponse) :: between) ∨
          ∀ capability, some capability ∉ w.leases ∧
            .granted (some capability) ∉ (.returned onRequest (.ok onResponse) :: between)) := by
  obtain ⟨openStore, closedStore, hreached, -, hset, -⟩ := exists_stores
  have hended := (stored_run hset).tail (@Step.endCall _ _ [] [] _ _ (.ok onResponse)
    (.publish onResponse.snapshot) (.ok onResponse) rfl rfl)
  have hreturned := hended.tail (@Step.return _ _ [] [] onRequest (.ok onResponse) rfl)
  refine ⟨openStore, _, _, hreturned, rfl, ?_⟩
  exact ((outbound_authority hashServices hashServices_hash openStore hreached _
    hreturned).2.2 (by simp [WrittenByCalls])).1 [] _ onRequest onResponse rfl rfl

end Example

/-- **The mode is behind the store** while a call is between the two: the store says the local-only
mode, and the process still the other. -/
theorem mode_behind_store : ¬ ∀ store₀, StoreReached Example.hashServices store₀ → ∀ w,
    Run Example.hashServices (.start Example.hashServices store₀) w → WrittenByCalls w.log →
      w.authority.snapshot.localOnly = false →
        (w.store.load Example.hashServices).localOnly = false := by
  intro h
  obtain ⟨openStore, closedStore, hreached, hopen, hset, hclosed⟩ := Example.exists_stores
  have hload := h openStore hreached _ (Example.stored_run hset) (by simp [WrittenByCalls]) hopen
  exact absurd (hload.symm.trans hclosed) (by decide)

end Threadbook.LocalOnly
