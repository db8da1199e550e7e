import Threadbook.Interleaving
import Threadbook.Attire.TryOnRecovery

/-!
# The try-on renderer

A worker claims a job, lets its attempt out, hands the images to the provider and stores what comes
back: the output is announced, its file is put into the blob store, and a transaction records it.
The renderer is a `Program` whose actions are the calls of the repository, the keychain, the
provider, and the two halves of putting a file, since other workers, startup recovery or a crash may
come between any two of them.
-/

namespace Threadbook.TryOn

open Fallible
open Promotion (RequestId ReplayStatusV1)

/-! ## The provider -/

inductive OpenAiImageEditsFailureKind
  | moderationBlocked
  | rateLimited
  | providerFailure
  | providerUnavailable
  | outcomeUnknown
  | authentication
  | permissionDenied
  | requestRejected
  | providerProtocol

/-- How far a call of the provider got. -/
inductive OpenAiImageEditsDispatch
  | notSent
  | responded
  | unknown
  deriving DecidableEq

structure OpenAiImageEditsError where
  kind : OpenAiImageEditsFailureKind
  dispatch : OpenAiImageEditsDispatch

def OpenAiImageEditsError.failedBeforeSend (self : OpenAiImageEditsError) : Bool :=
  self.dispatch == .notSent

structure OpenAiImageEditsOutput where
  png : List UInt8
  metadata : TryOnAnswerMetadata

/-- The failure of a job whose call failed. -/
def mapFailure : OpenAiImageEditsFailureKind → TryOnFailureCodeV1
  | .moderationBlocked => .moderationBlocked
  | .rateLimited => .rateLimited
  | .providerFailure => .providerFailure
  | .providerUnavailable => .providerUnavailable
  | .outcomeUnknown => .outcomeUnknown
  | .authentication => .authentication
  | .permissionDenied => .permissionDenied
  | .requestRejected => .requestRejected
  | .providerProtocol => .providerProtocol

/-! ## Actions -/

structure TryOnDisk where
  tables : TryOnTables
  files : BlobFiles
  published : List String

/-- What is done in one go. -/
inductive TryOnAction : Type → Type 1
  | database {β : Type} (operation : TryOnOperation β) : TryOnAction (Except PlatformError β)
  | secret (locator : String) : TryOnAction (Option String)
  | generate (jobId : TryOnJobId) (secret : String) (portrait : List UInt8)
      (garments : List (List UInt8)) :
      TryOnAction (Except OpenAiImageEditsError OpenAiImageEditsOutput)
  | link (pngBytes : List UInt8) : TryOnAction (Except PlatformError Bool)
  | settle (pngBytes : List UInt8) (reused : Bool) :
      TryOnAction (Except PlatformError TryOnOutputIntent)

structure TryOnOutside where
  fault : Option PlatformError
  unlinked : Bool
  secret : Option String
  answer : Except OpenAiImageEditsError OpenAiImageEditsOutput

variable (services : TryOnServices)

def linkOutput (pngBytes : List UInt8) (s : TryOnDisk) : Except PlatformError Bool × TryOnDisk :=
  let sha256 := services.digest pngBytes
  match s.files sha256 with
  | some _ => (.ok true, s)
  | none =>
    (.ok false, { s with
      files := Function.update s.files sha256 (some ⟨pngBytes, false, true⟩)
      published := sha256 :: s.published })

def verifyOutput (pngBytes : List UInt8) (files : BlobFiles) :
    Except PlatformError TryOnOutputIntent :=
  match verifyBlob services.toImageServices files (services.digest pngBytes) with
  | .error e => .error e.toPlatform
  | .ok byteLength =>
    if byteLength = pngBytes.length then .ok ⟨services.digest pngBytes, byteLength⟩
    else .error (.corrupt "blob_final_length")

/-- With what was written unlinked, a file that was linked has one link. -/
def settledFiles (pngBytes : List UInt8) (reused : Bool) (files : BlobFiles) : BlobFiles :=
  if reused then files
  else Function.update files (services.digest pngBytes)
    ((files (services.digest pngBytes)).map fun file => { file with identity := true })

/-- How the actions work. A fault comes before anything is done, except that what was written may
be unlinked all the same. -/
def tryOnMachine : Machine TryOnDisk TryOnAction TryOnOutside where
  perform {_} action outside s :=
    match action with
    | .database operation =>
      match outside.fault with
      | some e => (.error e, s)
      | none =>
        let (result, tables) := operation.run services s.files s.tables
        (result, { s with tables })
    | .secret _ => (outside.secret, s)
    | .generate _ _ _ _ => (outside.answer, s)
    | .link pngBytes =>
      match outside.fault with
      | some e => (.error e, s)
      | none => linkOutput services pngBytes s
    | .settle pngBytes reused =>
      let files := settledFiles services pngBytes reused s.files
      match outside.fault with
      | some e => (.error e, if outside.unlinked then { s with files } else s)
      | none => (verifyOutput services pngBytes files, { s with files })

/-! ## Programs -/

abbrev Renderer (α : Type) : Type 1 := Program TryOnAction PlatformError α

/-- The rounds of a claim: at most so many, since a worker may be dropped in any of them. -/
def claimRounds (owner : String) (nowMs leaseMs : ℤ) : ℕ → Renderer (Option ClaimedTryOnJob)
  | 0 => pure none
  | rounds + 1 => do
    match ← Program.call (.database (.claimRound owner nowMs leaseMs)) with
    | .idle => pure none
    | .claimed claim => pure (some claim)
    | .again => claimRounds owner nowMs leaseMs rounds

def claimTryOnJob (rounds : ℕ) (owner : String) (nowMs leaseMs : ℤ) :
    Renderer (Option ClaimedTryOnJob) := do
  Program.check (rejectWhen (.invalidInput "try_on_claim")
    (owner.isEmpty ∨ 128 < (utf8Bytes owner).length ∨ leaseMs ≤ 0))
  claimRounds owner nowMs leaseMs rounds

def putOutput (pngBytes : List UInt8) (expectedSha256 : String) : Renderer TryOnOutputIntent := do
  Program.check (rejectWhen (.invalidInput "blob_too_large") (maxTryOnOutputBytes < pngBytes.length))
  Program.check (rejectWhen (.corrupt "blob_expected_hash_mismatch")
    (expectedSha256 ≠ services.digest pngBytes))
  let reused ← Program.call (.link pngBytes)
  Program.call (.settle pngBytes reused)

def finalizeOutput (claim : ClaimedTryOnJob) (pngBytes : List UInt8) (expectedSha256 : String)
    (nowMs : ℤ) : Renderer PUnit := do
  let record ← putOutput services pngBytes expectedSha256
  Program.call (.database (.finalizeOutput claim record nowMs))

/-- Store what the provider answered. -/
def deliver (claim : ClaimedTryOnJob) (nowMs : ℤ) :
    Except OpenAiImageEditsError OpenAiImageEditsOutput → Renderer PUnit
  | .ok output => do
    let expectedSha256 ← Program.call
      (.database (.beginOutput claim output.png ⟨nowMs, some output.metadata⟩ nowMs))
    finalizeOutput services claim output.png expectedSha256 nowMs
  | .error e => do
    if e.failedBeforeSend then Program.call (.database (.clearStarted claim nowMs)) else pure ⟨⟩
    Program.call (.database (.fail claim (mapFailure e.kind) nowMs))

def renderClaim (claim : ClaimedTryOnJob) (locator : String) (nowMs : ℤ) : Renderer PUnit := do
  match ← Program.perform (.secret locator) with
  | none => Program.call (.database (.fail claim .credentialUnavailable nowMs))
  | some secret => do
    let images ← Program.check (transportImages claim.assets)
    Program.call (.database (.markStarted claim nowMs))
    let answer ← Program.perform (.generate claim.jobId secret images.1 images.2)
    deliver services claim nowMs answer

/-- How long a worker may take: four minutes. -/
def renderLeaseMs : ℤ := 240000

def runOnce (rounds : ℕ) (owner : String) (nowMs : ℤ) : Renderer Bool := do
  match ← claimTryOnJob rounds owner nowMs renderLeaseMs with
  | none => pure false
  | some claim => do
    match ← Program.perform (.database (.authorize claim nowMs)) with
    | .error _ => Program.call (.database (.fail claim .credentialUnavailable nowMs))
    | .ok locator => renderClaim services claim locator nowMs
    pure true

inductive TryOnCall : Renderer PUnit → Prop
  | runOnce (rounds : ℕ) (owner : String) (nowMs : ℤ) :
    TryOnCall ((fun _ => ⟨⟩) <$> runOnce services rounds owner nowMs)
  | operation {β : Type} (operation : TryOnOperation β) :
    TryOnCall ((fun _ => ⟨⟩) <$> (Program.call (.database operation) : Renderer β))
  | finalize (claim : ClaimedTryOnJob) (pngBytes : List UInt8) (expectedSha256 : String)
      (nowMs : ℤ) : TryOnCall (finalizeOutput services claim pngBytes expectedSha256 nowMs)

end Threadbook.TryOn
