import Threadbook.LocalOnlyStore

/-!
# The outbound authority

Work that leaves the machine holds a lease. The mode is changed in a transition: it refuses new
leases, waits until the leases there are have been dropped, and then writes the mode. A call that
sets the mode changes the store within its transition, and writes what the store answered. Threads
go on one step at a time (`Step`), in any order.
-/

namespace Threadbook.LocalOnly

/-! ## The authority -/

inductive OutboundCapability
  | gmailAuthorize
  | gmailSync
  | gmailRevoke
  | receiptImageFetch
  | photoKitMaterialize
  | openAiRecommendation
  | openAiReceiptIntelligence
  | openAiTryOn

/-- The mode as the process knows it. -/
structure OutboundAuthoritySnapshot where
  localOnly : Bool
  revision : ℕ
  health : LocalOnlyAuthorityHealthV1

structure AuthorityState where
  snapshot : OutboundAuthoritySnapshot
  transitioning : Bool
  activeLeases : ℕ

/-- Why there is no lease or no transition; `panicked` is a stop of the thread with a message. -/
inductive AuthorityError
  | denied
  | transitionInProgress
  | panicked (message : String)

def maxActiveLeases : ℕ := 2 ^ 64 - 1

namespace AuthorityState

def new (snapshot : OutboundAuthoritySnapshot) : AuthorityState := ⟨snapshot, false, 0⟩

def addLease (self : AuthorityState) : Except AuthorityError AuthorityState :=
  if self.activeLeases = maxActiveLeases then .error (.panicked "bounded process lease count")
  else .ok { self with activeLeases := self.activeLeases + 1 }

/-- Take a lease for work that leaves the machine. -/
def acquire (self : AuthorityState) : Except AuthorityError AuthorityState :=
  if self.transitioning then .error .transitionInProgress
  else if self.snapshot.localOnly then .error .denied
  else self.addLease

def acquireLocalCleanup (self : AuthorityState) : Except AuthorityError AuthorityState :=
  if self.transitioning then .error .transitionInProgress else self.addLease

def dropLease (self : AuthorityState) : AuthorityState :=
  { self with activeLeases := self.activeLeases - 1 }

/-- Announce a transition; it has to wait for the leases. -/
def beginTransition (self : AuthorityState) : Except AuthorityError AuthorityState :=
  if self.transitioning then .error .transitionInProgress
  else .ok { self with transitioning := true }

def publish (self : AuthorityState) (snapshot : OutboundAuthoritySnapshot) : AuthorityState :=
  { self with snapshot, transitioning := false }

end AuthorityState

/-- The mode after a transition of which the outcome is unknown. -/
def failClosedSnapshot (prior : OutboundAuthoritySnapshot) : OutboundAuthoritySnapshot where
  localOnly := true
  revision := prior.revision
  health := if prior.revision = 0 then .failClosedDefault else .failClosedUncertain

/-! ## Calls -/

/-- How a call of the application ends. -/
inductive CommandError
  | invalidRequest (field : LocalOnlyField)
  | providerUnavailable
  | internal
  | storageUnavailable
  | localMode (error : PlatformError)

abbrev CommandResult : Type := Except CommandError SetLocalOnlyV1Response

inductive Ending
  | publish (snapshot : OutboundAuthoritySnapshot)
  | failClosed
  | drop

/-- The mode that an ending writes, of the mode before the transition. -/
def Ending.written (prior : OutboundAuthoritySnapshot) : Ending → OutboundAuthoritySnapshot
  | .publish snapshot => snapshot
  | .failClosed => failClosedSnapshot prior
  | .drop => prior

def SetLocalOnlyV1Response.snapshot (self : SetLocalOnlyV1Response) : OutboundAuthoritySnapshot :=
  ⟨self.localOnly, self.revision, self.authorityHealth⟩

inductive StoreAnswer
  | ok (response : SetLocalOnlyV1Response)
  | refused (error : PlatformError)
  | unknown
  | looked (proven : Option SetLocalOnlyV1Response)

def StoreAnswer.ofResult : Except LocalOnlyStoreError SetLocalOnlyV1Response → StoreAnswer
  | .ok response => .ok response
  | .error (.platform error) => .refused error
  | .error .publicationOutcomeUnknown => .unknown

/-- How a call ends its transition, and what it returns; after a first unknown answer it looks
once more. -/
def StoreAnswer.conclude : StoreAnswer → Option (Ending × CommandResult)
  | .ok response =>
    match response.validate with
    | .ok _ => some (.publish response.snapshot, .ok response)
    | .error _ => some (.publish response.snapshot, .error .internal)
  | .refused error => some (.drop, .error (.localMode error))
  | .unknown => none
  | .looked (some proven) => some (.publish proven.snapshot, .error .storageUnavailable)
  | .looked none => some (.failClosed, .error .storageUnavailable)

/-- Who made a transition: other code, or a call that sets the mode. -/
inductive Caller
  | direct
  | setLocalOnly (request : SetLocalOnlyV1Request)

/-- How far a transition is: it waits for leases, is held with the mode before it, or is held by a
call that the store has answered. -/
inductive Phase
  | waiting
  | held (prior : OutboundAuthoritySnapshot)
  | answered (prior : OutboundAuthoritySnapshot) (answer : StoreAnswer)

structure Transition where
  caller : Caller
  phase : Phase

/-! ## Steps -/

/-- What is seen of a step. -/
inductive Event
  | granted (capability : Option OutboundCapability)
  | dropped
  | began (caller : Caller)
  | entered (caller : Caller)
  | stored (request : SetLocalOnlyV1Request)
  | looked (request : SetLocalOnlyV1Request)
  | ended (caller : Caller) (ending : Ending) (written : OutboundAuthoritySnapshot)
  | refused (request : SetLocalOnlyV1Request)
  | returned (request : SetLocalOnlyV1Request) (result : CommandResult)

structure OutboundWorld where
  authority : AuthorityState
  leases : List (Option OutboundCapability)
  transitions : List Transition
  store : LocalOnlyModeStore
  results : List (SetLocalOnlyV1Request × CommandResult)
  log : List Event

def OutboundWorld.start (services : LocalOnlyServices) (store : LocalOnlyModeStore) :
    OutboundWorld :=
  let mode := store.load services
  ⟨.new ⟨mode.localOnly, mode.revision, mode.authorityHealth⟩, [], [], store, [], []⟩

inductive Step (services : LocalOnlyServices) : OutboundWorld → Event → OutboundWorld → Prop
  | acquire {w : OutboundWorld} {authority : AuthorityState} (capability : OutboundCapability)
      (h : w.authority.acquire = .ok authority) :
      Step services w (.granted (some capability))
        { w with
          authority
          leases := some capability :: w.leases
          log := .granted (some capability) :: w.log }
  | acquireLocalCleanup {w : OutboundWorld} {authority : AuthorityState}
      (h : w.authority.acquireLocalCleanup = .ok authority) :
      Step services w (.granted none)
        { w with authority, leases := none :: w.leases, log := .granted none :: w.log }
  | dropLease {w : OutboundWorld} {l₁ l₂ : List (Option OutboundCapability)}
      {capability : Option OutboundCapability} (h : w.leases = l₁ ++ capability :: l₂) :
      Step services w .dropped
        { w with
          authority := w.authority.dropLease
          leases := l₁ ++ l₂
          log := .dropped :: w.log }
  | beginTransition {w : OutboundWorld} {authority : AuthorityState} (caller : Caller)
      (hvalid : ∀ request, caller = .setLocalOnly request → request.validate = .ok ())
      (h : w.authority.beginTransition = .ok authority) :
      Step services w (.began caller)
        { w with
          authority
          transitions := ⟨caller, .waiting⟩ :: w.transitions
          log := .began caller :: w.log }
  | refuse {w : OutboundWorld} {request : SetLocalOnlyV1Request} {field : LocalOnlyField}
      (h : request.validate = .error field) :
      Step services w (.refused request)
        { w with
          results := (request, .error (.invalidRequest field)) :: w.results
          log := .refused request :: w.log }
  | refuseTransition {w : OutboundWorld} {request : SetLocalOnlyV1Request} {error : AuthorityError}
      (hvalid : request.validate = .ok ()) (h : w.authority.beginTransition = .error error) :
      Step services w (.refused request)
        { w with
          results := (request, .error .providerUnavailable) :: w.results
          log := .refused request :: w.log }
  | enterTransition {w : OutboundWorld} {l₁ l₂ : List Transition} {caller : Caller}
      (h : w.transitions = l₁ ++ ⟨caller, .waiting⟩ :: l₂) (hidle : w.authority.activeLeases = 0) :
      Step services w (.entered caller)
        { w with
          transitions := l₁ ++ ⟨caller, .held w.authority.snapshot⟩ :: l₂
          log := .entered caller :: w.log }
  | setStore {w : OutboundWorld} {l₁ l₂ : List Transition} {request : SetLocalOnlyV1Request}
      {prior : OutboundAuthoritySnapshot} {faults : StoreFaults}
      {result : Except LocalOnlyStoreError SetLocalOnlyV1Response} {store : LocalOnlyModeStore}
      (h : w.transitions = l₁ ++ ⟨.setLocalOnly request, .held prior⟩ :: l₂)
      (hset : set services faults request w.store = (result, store)) :
      Step services w (.stored request)
        { w with
          transitions := l₁ ++ ⟨.setLocalOnly request, .answered prior (.ofResult result)⟩ :: l₂
          store
          log := .stored request :: w.log }
  | lookStore {w : OutboundWorld} {l₁ l₂ : List Transition} {request : SetLocalOnlyV1Request}
      {prior : OutboundAuthoritySnapshot} {readable : Bool}
      {proven : Option SetLocalOnlyV1Response} {store : LocalOnlyModeStore}
      (h : w.transitions = l₁ ++ ⟨.setLocalOnly request, .answered prior .unknown⟩ :: l₂)
      (hlook : w.store.loadAcknowledgedResponse services readable request = (proven, store)) :
      Step services w (.looked request)
        { w with
          transitions := l₁ ++ ⟨.setLocalOnly request, .answered prior (.looked proven)⟩ :: l₂
          store
          log := .looked request :: w.log }
  | endCall {w : OutboundWorld} {l₁ l₂ : List Transition} {request : SetLocalOnlyV1Request}
      {prior : OutboundAuthoritySnapshot} {answer : StoreAnswer} {ending : Ending}
      {result : CommandResult}
      (h : w.transitions = l₁ ++ ⟨.setLocalOnly request, .answered prior answer⟩ :: l₂)
      (hconclude : answer.conclude = some (ending, result)) :
      Step services w (.ended (.setLocalOnly request) ending (ending.written prior))
        { w with
          authority := w.authority.publish (ending.written prior)
          transitions := l₁ ++ l₂
          results := (request, result) :: w.results
          log := .ended (.setLocalOnly request) ending (ending.written prior) :: w.log }
  | endTransition {w : OutboundWorld} {l₁ l₂ : List Transition}
      {prior : OutboundAuthoritySnapshot} (ending : Ending)
      (h : w.transitions = l₁ ++ ⟨.direct, .held prior⟩ :: l₂) :
      Step services w (.ended .direct ending (ending.written prior))
        { w with
          authority := w.authority.publish (ending.written prior)
          transitions := l₁ ++ l₂
          log := .ended .direct ending (ending.written prior) :: w.log }
  | return {w : OutboundWorld} {l₁ l₂ : List (SetLocalOnlyV1Request × CommandResult)}
      {request : SetLocalOnlyV1Request} {result : CommandResult}
      (h : w.results = l₁ ++ (request, result) :: l₂) :
      Step services w (.returned request result)
        { w with results := l₁ ++ l₂, log := .returned request result :: w.log }

inductive Run (services : LocalOnlyServices) : OutboundWorld → OutboundWorld → Prop
  | refl (w : OutboundWorld) : Run services w w
  | tail {w₀ w w' : OutboundWorld} {event : Event} (h : Run services w₀ w)
      (hstep : Step services w event w') : Run services w₀ w'

end Threadbook.LocalOnly
