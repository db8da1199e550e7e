import Mathlib
import Threadbook.Materialization

/-!
# Streams into the blob store

Photographs arrive as streams whose length nobody announces. The streams of a session share one
budget behind a mutex: what the run has accepted, what is staged, and how much the streams may
still stage. A transfer follows one stream to its end; here the streams go on in any order, also
between taking from the budget and writing to a file.

* **The budget is exact** after any run: it is the sum of what its streams hold, no limit is
  passed, and nothing is ever given back that was not taken (`session_budget`).
* **A finished stream holds what was acknowledged**, all of it and nothing of a chunk whose
  write failed (`prepared_exact`).
-/

namespace Threadbook.Blob

open PhotoKit (UnknownLengthBlobLimits)

structure UnknownLengthBudgetState where
  acceptedRunBytes : ℕ := 0
  activeHardAllowance : ℕ := 0
  activeStagingBytes : ℕ := 0

/-- What one stream holds of the budget. -/
structure UnknownLengthBudgetLease where
  stagedBytes : ℕ
  hardAllowance : ℕ

/-! ## Taking from the budget -/

def checkedAdd (a b : ℕ) (error : PlatformError) : Except PlatformError ℕ :=
  if a + b < 2 ^ 64 then .ok (a + b) else .error error

def checkedSub (a b : ℕ) (error : PlatformError) : Except PlatformError ℕ :=
  if b ≤ a then .ok (a - b) else .error error

/-- The blocks a file system has left and their size, when it says. -/
abbrev Statvfs := Except IoErrorKind (ℕ × ℕ)

def availableBytes : Statvfs → Except PlatformError ℕ
  | .error kind => .error (.io kind)
  | .ok (blocks, size) =>
    if blocks * size < 2 ^ 64 then .ok (blocks * size) else .error (.corrupt "blob_free_space")

/-- Room on the disk for the reserve and for what the streams may still stage. -/
def ensureFree (limits : UnknownLengthBlobLimits) (disk : Statvfs) (active staging : ℕ) :
    Except PlatformError Unit := do
  let remainingAllowance ← checkedSub active staging (.corrupt "blob_stream_budget")
  let required ← checkedAdd limits.reserveFreeBytes remainingAllowance
    (.invalidInput "blob_free_space")
  let available ← availableBytes disk
  if available < required then .error (.invalidInput "blob_free_space") else .ok ()

variable (limits : UnknownLengthBlobLimits)

namespace UnknownLengthBudgetLease

def reserve (disk : Statvfs) (state : UnknownLengthBudgetState) :
    Except PlatformError (UnknownLengthBudgetLease × UnknownLengthBudgetState) := do
  let active ← checkedAdd state.activeHardAllowance limits.maxBlobBytes
    (.invalidInput "blob_active_staging_limit")
  if limits.maxActiveStagingBytes < active then .error (.invalidInput "blob_active_staging_limit")
  else do
    ensureFree limits disk active state.activeStagingBytes
    .ok (⟨0, limits.maxBlobBytes⟩, { state with activeHardAllowance := active })

def accept (disk : Statvfs) (bytes : ℕ)
    (lease : UnknownLengthBudgetLease) (state : UnknownLengthBudgetState) :
    Except PlatformError (UnknownLengthBudgetLease × UnknownLengthBudgetState) :=
  if limits.maxChunkBytes < bytes then .error (.invalidInput "blob_chunk_too_large")
  else do
    let resourceBytes ← checkedAdd lease.stagedBytes bytes (.invalidInput "blob_too_large")
    let runBytes ← checkedAdd state.acceptedRunBytes bytes (.invalidInput "blob_run_too_large")
    let activeStaging ← checkedAdd state.activeStagingBytes bytes
      (.invalidInput "blob_active_staging_limit")
    if limits.maxRunBytes < runBytes then .error (.invalidInput "blob_run_too_large")
    else if limits.maxBlobBytes < resourceBytes then .error (.invalidInput "blob_too_large")
    else if limits.maxActiveStagingBytes < activeStaging then
      .error (.invalidInput "blob_active_staging_limit")
    else do
      ensureFree limits disk state.activeHardAllowance state.activeStagingBytes
      .ok ({ lease with stagedBytes := resourceBytes },
        { state with acceptedRunBytes := runBytes, activeStagingBytes := activeStaging })

/-! ## Giving back -/

variable (bytes : ℕ) (lease : UnknownLengthBudgetLease) (state : UnknownLengthBudgetState)

/-- A chunk was accepted but not written. -/
def rollback : UnknownLengthBudgetLease × UnknownLengthBudgetState :=
  ({ lease with stagedBytes := lease.stagedBytes - bytes },
    { state with
      acceptedRunBytes := state.acceptedRunBytes - bytes
      activeStagingBytes := state.activeStagingBytes - bytes })

def releaseUnusedHardAllowance :
    Except PlatformError (UnknownLengthBudgetLease × UnknownLengthBudgetState) := do
  let unused ← checkedSub lease.hardAllowance lease.stagedBytes (.corrupt "blob_stream_budget")
  let active ← checkedSub state.activeHardAllowance unused (.corrupt "blob_stream_budget")
  .ok ({ lease with hardAllowance := lease.stagedBytes },
    { state with activeHardAllowance := active })

def drop : UnknownLengthBudgetState :=
  { state with
    activeHardAllowance := state.activeHardAllowance - lease.hardAllowance
    activeStagingBytes := state.activeStagingBytes - lease.stagedBytes }

end UnknownLengthBudgetLease

open UnknownLengthBudgetLease List

/-! ## The streams of a session -/

/-- Where a stream stands: between two calls, writing an accepted chunk, or finished. -/
inductive Phase
  | receiving
  | writing (chunk : List UInt8)
  | prepared (sha256 : String) (byteLength : ℕ)

/-- A stream, with its staging file and the bytes that went into its digest. -/
structure Stream where
  phase : Phase
  file : List UInt8
  digest : List UInt8
  lease : UnknownLengthBudgetLease

/-- What the file system shows of a staging file. -/
structure StagedFile where
  isFile : Bool
  nlink : ℕ
  mode : ℕ
  content : List UInt8

/-- A private file of its own, of the length expected. -/
def StagedFile.hasIdentity (found : StagedFile) (expectedLength : ℕ) : Bool :=
  found.isFile ∧ found.nlink = 1 ∧ found.mode &&& 0o077 = 0 ∧
    found.content.length = expectedLength

variable (sha256 : List UInt8 → String)

def verifyStaged (found : StagedFile) (expectedHash : String) (expectedLength : ℕ) :
    Except PlatformError Unit :=
  if ¬ found.hasIdentity expectedLength then .error (.corrupt "blob_staging_identity")
  else if sha256 found.content ≠ expectedHash then .error (.corrupt "blob_staging_hash")
  else .ok ()

/-- Finish a stream; `found` is its staging file once it is synchronized. -/
def Stream.finish (found : Except IoErrorKind StagedFile) (stream : Stream)
    (state : UnknownLengthBudgetState) :
    Except PlatformError (Stream × UnknownLengthBudgetState) :=
  let byteLength := stream.lease.stagedBytes
  if byteLength = 0 then .error (.invalidInput "blob_stream_empty")
  else do
    let file ← found.mapError .io
    if ¬ file.hasIdentity byteLength then .error (.corrupt "blob_staging_identity")
    else do
      verifyStaged sha256 file (sha256 stream.digest) byteLength
      let (lease, state) ← stream.lease.releaseUnusedHardAllowance state
      .ok ({ stream with phase := .prepared (sha256 stream.digest) byteLength, lease }, state)

/-- A session; `acknowledged` counts the bytes of the chunks that were written. -/
structure World where
  budget : UnknownLengthBudgetState := {}
  streams : List Stream := []
  acknowledged : ℕ := 0

/-- One stream goes on. -/
inductive World.Step : World → World → Prop
  | begin {w disk lease budget}
      (hreserve : reserve limits disk w.budget = .ok (lease, budget)) :
      Step w { w with budget, streams := ⟨.receiving, [], [], lease⟩ :: w.streams }
  | accept {w disk lease budget before after file digest held chunk}
      (hstreams : w.streams = before ++ ⟨.receiving, file, digest, held⟩ :: after)
      (haccept : held.accept limits disk chunk.length w.budget = .ok (lease, budget)) :
      Step w { w with budget, streams := before ++ ⟨.writing chunk, file, digest, lease⟩ :: after }
  | written {w before after file digest lease chunk}
      (hstreams : w.streams = before ++ ⟨.writing chunk, file, digest, lease⟩ :: after) :
      Step w
        { w with
          acknowledged := w.acknowledged + chunk.length
          streams := before ++ ⟨.receiving, file ++ chunk, digest ++ chunk, lease⟩ :: after }
  -- the write fails, after a part of the chunk
  | failed {w before after file digest lease chunk} (torn : List UInt8) (hpart : torn <+: chunk)
      (hstreams : w.streams = before ++ ⟨.writing chunk, file, digest, lease⟩ :: after) :
      Step w
        { w with
          budget := (lease.rollback chunk.length w.budget).2
          streams := before ++
            ⟨.receiving, file ++ torn, digest, (lease.rollback chunk.length w.budget).1⟩ :: after }
  | finish {w before after stream found finished budget}
      (hstreams : w.streams = before ++ stream :: after) (hphase : stream.phase = .receiving)
      (hfound : ∀ file, found = .ok file → file.content = stream.file)
      (hfinish : stream.finish sha256 found w.budget = .ok (finished, budget)) :
      Step w { w with budget, streams := before ++ finished :: after }
  -- given up, or promoted once it is prepared
  | close {w before after stream} (hstreams : w.streams = before ++ stream :: after)
      (hphase : ∀ chunk, stream.phase ≠ .writing chunk) :
      Step w { w with budget := stream.lease.drop w.budget, streams := before ++ after }

/-- The worlds a new session reaches. -/
inductive World.Reachable : World → Prop
  | new : Reachable {}
  | step {w w'} (hreachable : Reachable w) (hstep : w.Step limits sha256 w') : Reachable w'

/-! ## The invariant -/

/-- What a stream took for the chunk it is writing. -/
def Stream.pending (stream : Stream) : ℕ :=
  match stream.phase with
  | .writing chunk => chunk.length
  | _ => 0

/-- The lease accounts for the stream; a file that lost a part of a chunk stays too long. -/
structure Stream.Sound (stream : Stream) : Prop where
  staged : stream.lease.stagedBytes = stream.digest.length + stream.pending
  fits : stream.lease.stagedBytes ≤ stream.lease.hardAllowance
  hard : stream.lease.hardAllowance ≤ limits.maxBlobBytes
  whole : (∀ hash length, stream.phase ≠ .prepared hash length) →
    stream.lease.hardAllowance = limits.maxBlobBytes
  file : stream.file = stream.digest ∨ stream.digest.length < stream.file.length
  prepared : ∀ hash length, stream.phase = .prepared hash length →
    stream.file = stream.digest ∧ length = stream.file.length ∧ 0 < length ∧
      hash = sha256 stream.file ∧ stream.lease.hardAllowance = length

/-- The sum of what the streams hold. -/
def World.total (w : World) (share : Stream → ℕ) : ℕ := (w.streams.map share).sum

structure World.Sound (w : World) : Prop where
  hard : w.budget.activeHardAllowance = w.total fun stream => stream.lease.hardAllowance
  staging : w.budget.activeStagingBytes = w.total fun stream => stream.lease.stagedBytes
  run : w.budget.acceptedRunBytes = w.acknowledged + w.total Stream.pending
  active : w.budget.activeHardAllowance ≤ limits.maxActiveStagingBytes
  accepted : w.budget.acceptedRunBytes ≤ limits.maxRunBytes
  streams : ∀ stream ∈ w.streams, stream.Sound limits sha256

section Sound

variable {limits sha256} {w : World} {stream : Stream} {before after : List Stream}

theorem World.total_split (hstreams : w.streams = before ++ stream :: after)
    (share : Stream → ℕ) :
    w.total share = share stream + ((before ++ after).map share).sum := by
  simp [World.total, hstreams]
  omega

theorem World.le_total (hmem : stream ∈ w.streams) (share : Stream → ℕ) :
    share stream ≤ w.total share := by
  obtain ⟨before, after, hstreams⟩ := append_of_mem hmem
  rw [World.total_split hstreams]
  apply Nat.le_add_right

/-- One stream is exchanged; the budget moves by what it holds more or less than before. -/
theorem World.Sound.exchange (hw : w.Sound limits sha256)
    (hstreams : w.streams = before ++ stream :: after) {stream' : Stream}
    {budget : UnknownLengthBudgetState} {acknowledged : ℕ}
    (hstream : stream'.Sound limits sha256)
    (hhard : budget.activeHardAllowance + stream.lease.hardAllowance =
      w.budget.activeHardAllowance + stream'.lease.hardAllowance)
    (hstaging : budget.activeStagingBytes + stream.lease.stagedBytes =
      w.budget.activeStagingBytes + stream'.lease.stagedBytes)
    (hrun : budget.acceptedRunBytes + (w.acknowledged + stream.pending) =
      w.budget.acceptedRunBytes + (acknowledged + stream'.pending))
    (hactive : budget.activeHardAllowance ≤ limits.maxActiveStagingBytes)
    (haccepted : budget.acceptedRunBytes ≤ limits.maxRunBytes) :
    World.Sound limits sha256 ⟨budget, before ++ stream' :: after, acknowledged⟩ := by
  have hbefore := World.total_split hstreams
  have hafter := World.total_split (w := ⟨budget, before ++ stream' :: after, acknowledged⟩) rfl
  have hmem : ∀ other ∈ before ++ after, other ∈ w.streams := by
    intro other hother
    rw [hstreams]
    simp only [mem_append, mem_cons] at hother ⊢
    tauto
  constructor
  · have := hw.hard
    simp only [hafter, hbefore] at this ⊢
    omega
  · have := hw.staging
    simp only [hafter, hbefore] at this ⊢
    omega
  · have := hw.run
    simp only [hafter, hbefore] at this ⊢
    omega
  · exact hactive
  · exact haccepted
  · intro other hother
    simp only [mem_append, mem_cons] at hother
    rcases hother with hother | rfl | hother
    · exact hw.streams other (hmem other (mem_append_left _ hother))
    · exact hstream
    · exact hw.streams other (hmem other (mem_append_right _ hother))

/-! ## What each operation does -/

variable {disk : Statvfs} {lease lease' : UnknownLengthBudgetLease} {n : ℕ}
variable {state state' : UnknownLengthBudgetState}

theorem reserve_eq_ok (h : reserve limits disk state = .ok (lease, state')) :
    state.activeHardAllowance + limits.maxBlobBytes ≤ limits.maxActiveStagingBytes ∧
      lease = ⟨0, limits.maxBlobBytes⟩ ∧
      state' = { state with
        activeHardAllowance := state.activeHardAllowance + limits.maxBlobBytes } := by
  obtain ⟨active, hactive, h⟩ := check_bind_eq_ok.mp h
  obtain ⟨-, rfl⟩ := check_when_eq_ok.mp hactive
  obtain ⟨hlimit, h⟩ := check_unless_eq_ok.mp h
  obtain ⟨-, h⟩ := check_then_eq_ok.mp h
  cases h
  exact ⟨Nat.le_of_not_lt hlimit, rfl, rfl⟩

theorem accept_eq_ok (h : lease.accept limits disk n state = .ok (lease', state')) :
    lease.stagedBytes + n ≤ limits.maxBlobBytes ∧
      state.acceptedRunBytes + n ≤ limits.maxRunBytes ∧
      lease' = { lease with stagedBytes := lease.stagedBytes + n } ∧
      state' = { state with
        acceptedRunBytes := state.acceptedRunBytes + n
        activeStagingBytes := state.activeStagingBytes + n } := by
  obtain ⟨-, h⟩ := check_unless_eq_ok.mp h
  obtain ⟨resource, hresource, h⟩ := check_bind_eq_ok.mp h
  obtain ⟨-, rfl⟩ := check_when_eq_ok.mp hresource
  obtain ⟨run, hrun, h⟩ := check_bind_eq_ok.mp h
  obtain ⟨-, rfl⟩ := check_when_eq_ok.mp hrun
  obtain ⟨active, hactive, h⟩ := check_bind_eq_ok.mp h
  obtain ⟨-, rfl⟩ := check_when_eq_ok.mp hactive
  obtain ⟨hrunLimit, h⟩ := check_unless_eq_ok.mp h
  obtain ⟨hblobLimit, h⟩ := check_unless_eq_ok.mp h
  obtain ⟨-, h⟩ := check_unless_eq_ok.mp h
  obtain ⟨-, h⟩ := check_then_eq_ok.mp h
  cases h
  exact ⟨Nat.le_of_not_lt hblobLimit, Nat.le_of_not_lt hrunLimit, rfl, rfl⟩

theorem finish_eq_ok {found : Except IoErrorKind StagedFile} {finished : Stream}
    (hfound : ∀ file, found = .ok file → file.content = stream.file)
    (h : stream.finish sha256 found state = .ok (finished, state')) :
    0 < stream.lease.stagedBytes ∧ stream.file.length = stream.lease.stagedBytes ∧
      sha256 stream.file = sha256 stream.digest ∧
      stream.lease.hardAllowance - stream.lease.stagedBytes ≤ state.activeHardAllowance ∧
      finished = { stream with
        phase := .prepared (sha256 stream.digest) stream.lease.stagedBytes
        lease := { stream.lease with hardAllowance := stream.lease.stagedBytes } } ∧
      state' = { state with
        activeHardAllowance := state.activeHardAllowance -
          (stream.lease.hardAllowance - stream.lease.stagedBytes) } := by
  obtain ⟨hempty, h⟩ := check_unless_eq_ok.mp h
  obtain ⟨file, hfile, h⟩ := check_bind_eq_ok.mp h
  have hcontent := hfound file (check_mapError_eq_ok.mp hfile)
  obtain ⟨hidentity, h⟩ := check_unless_eq_ok.mp h
  obtain ⟨hverify, h⟩ := check_then_eq_ok.mp h
  obtain ⟨-, hverify⟩ := check_unless_eq_ok.mp hverify
  obtain ⟨hhash, -⟩ := check_unless_eq_ok.mp hverify
  obtain ⟨⟨released, budget⟩, hrelease, h⟩ := check_bind_eq_ok.mp h
  obtain ⟨unused, hunused, hrelease⟩ := check_bind_eq_ok.mp hrelease
  obtain ⟨-, rfl⟩ := check_when_eq_ok.mp hunused
  obtain ⟨active, hactive, hrelease⟩ := check_bind_eq_ok.mp hrelease
  obtain ⟨hle, rfl⟩ := check_when_eq_ok.mp hactive
  cases hrelease
  cases h
  have hlength := (of_decide_eq_true (not_not.mp hidentity)).2.2.2
  rw [hcontent] at hlength hhash
  exact ⟨Nat.pos_of_ne_zero hempty, hlength, not_not.mp hhash, hle, rfl, rfl⟩

/-! ## Every run -/

theorem World.Sound.step {w' : World} (hw : w.Sound limits sha256)
    (hstep : w.Step limits sha256 w') : w'.Sound limits sha256 := by
  have hsound : ∀ {before stream after}, w.streams = before ++ stream :: after →
      stream.Sound limits sha256 := fun hstreams => hw.streams _ (by simp [hstreams])
  cases hstep with
  | begin hreserve =>
    obtain ⟨hactive, rfl, rfl⟩ := reserve_eq_ok hreserve
    obtain ⟨hhard, hstaging, hrun, -, haccepted, hstreams⟩ := hw
    refine ⟨?_, ?_, ?_, hactive, haccepted, ?_⟩
    · simp [World.total] at hhard ⊢
      omega
    · simpa [World.total] using hstaging
    · simpa [World.total, Stream.pending] using hrun
    · intro stream hmem
      rcases mem_cons.mp hmem with rfl | hmem
      · constructor <;> simp [Stream.pending]
      · exact hstreams stream hmem
  | accept hstreams haccept =>
    obtain ⟨hblob, hrun, rfl, rfl⟩ := accept_eq_ok haccept
    obtain ⟨hstaged, -, hhard, hwhole, hfile, -⟩ := hsound hstreams
    have hallowance := hwhole (by simp)
    apply hw.exchange hstreams
    · constructor <;> simp_all [Stream.pending]
    · rfl
    · simp
      omega
    · simp [Stream.pending]
      omega
    · exact hw.active
    · exact hrun
  | written hstreams =>
    obtain ⟨hstaged, hfits, hhard, hwhole, hfile, -⟩ := hsound hstreams
    apply hw.exchange hstreams
    · refine ⟨?_, hfits, hhard, fun _ => hwhole (by simp), ?_, by simp⟩
      · simpa [Stream.pending] using hstaged
      · simpa using hfile
    · rfl
    · rfl
    · simp [Stream.pending]
    · exact hw.active
    · exact hw.accepted
  | @failed _ _ file digest lease chunk torn hpart hstreams =>
    obtain ⟨hstaged, hfits, hhard, hwhole, hfile, -⟩ := hsound hstreams
    have hheld := World.total_split hstreams
    have hstaging := hw.staging
    have hrun := hw.run
    simp only [hheld, Stream.pending] at hstaged hstaging hrun
    apply hw.exchange hstreams
    · refine ⟨?_, Nat.le_trans (Nat.sub_le ..) hfits, hhard, fun _ => hwhole (by simp), ?_, by simp⟩
      · simp [rollback, Stream.pending, hstaged]
      · -- nothing of the chunk is in the file, or the file has more than the digest
        rcases torn with _ | ⟨byte, rest⟩
        · simpa using hfile
        · right
          rcases hfile with hfile | hfile <;> simp at hfile ⊢
          · simp [hfile]
          · omega
    · rfl
    · simp [rollback]
      omega
    · simp [rollback, Stream.pending]
      omega
    · exact hw.active
    · exact Nat.le_trans (Nat.sub_le ..) hw.accepted
  | @finish _ _ stream _ _ _ hstreams hphase hfound hfinish =>
    obtain ⟨hstaged, hfits, hhard, -, hfile, -⟩ := hsound hstreams
    obtain ⟨hpos, hlength, hhash, hunused, rfl, rfl⟩ := finish_eq_ok hfound hfinish
    have hpending : stream.pending = 0 := by rw [Stream.pending, hphase]
    rw [hpending, Nat.add_zero] at hstaged
    have hwritten : stream.file = stream.digest := by
      rcases hfile with hfile | hfile
      · exact hfile
      · omega
    apply hw.exchange hstreams
    · refine ⟨hstaged, Nat.le_refl _, Nat.le_trans hfits hhard, fun hphase => ?_, Or.inl hwritten, ?_⟩
      · exact absurd rfl (hphase _ _)
      · rintro hash length hprepared
        cases hprepared
        exact ⟨hwritten, hlength.symm, hpos, hhash.symm, rfl⟩
    · simp
      omega
    · rfl
    · rw [hpending]
      simp [Stream.pending]
    · exact Nat.le_trans (Nat.sub_le ..) hw.active
    · exact hw.accepted
  | @close _ _ stream hstreams hphase =>
    have hpending : stream.pending = 0 := by
      rw [Stream.pending]
      split
      · next chunk hchunk => exact absurd hchunk (hphase chunk)
      · rfl
    obtain ⟨hhard, hstaging, hrun, hactive, haccepted, hall⟩ := hw
    simp only [World.total_split hstreams] at hhard hstaging hrun
    refine ⟨?_, ?_, ?_, Nat.le_trans (Nat.sub_le ..) hactive, haccepted, fun other hother => ?_⟩
    · simp only [World.total, UnknownLengthBudgetLease.drop]
      omega
    · simp only [World.total, UnknownLengthBudgetLease.drop]
      omega
    · simp only [World.total, UnknownLengthBudgetLease.drop]
      omega
    · apply hall other
      rw [hstreams]
      simp only [mem_append, mem_cons] at hother ⊢
      tauto

theorem World.Reachable.sound (h : w.Reachable limits sha256) : w.Sound limits sha256 := by
  induction h with
  | new => constructor <;> simp [World.total]
  | step _ hstep ih => exact ih.step hstep

/-! ## The results -/

/-- **The budget is exact**: it is what the streams hold, and within the limits. A stream gives
back no more than the budget has, so that no subtraction is cut off at zero. -/
theorem session_budget (h : w.Reachable limits sha256) :
    w.budget.acceptedRunBytes = w.acknowledged + w.total Stream.pending ∧
      (w.budget.activeHardAllowance = w.total fun stream => stream.lease.hardAllowance) ∧
      (w.budget.activeStagingBytes = w.total fun stream => stream.lease.stagedBytes) ∧
      w.budget.acceptedRunBytes ≤ limits.maxRunBytes ∧
      w.budget.activeHardAllowance ≤ limits.maxActiveStagingBytes ∧
      ∀ stream ∈ w.streams,
        stream.lease.stagedBytes = stream.digest.length + stream.pending ∧
        stream.lease.stagedBytes ≤ stream.lease.hardAllowance ∧
        stream.lease.hardAllowance ≤ limits.maxBlobBytes ∧
        stream.lease.hardAllowance ≤ w.budget.activeHardAllowance ∧
        stream.lease.stagedBytes ≤ w.budget.activeStagingBytes ∧
        stream.pending ≤ w.budget.acceptedRunBytes := by
  have hw := World.Reachable.sound h
  refine ⟨hw.run, hw.hard, hw.staging, hw.accepted, hw.active, fun stream hmem => ?_⟩
  have hstream := hw.streams stream hmem
  have hpending : stream.pending ≤ w.budget.acceptedRunBytes := by
    rw [hw.run]
    exact Nat.le_trans (World.le_total hmem Stream.pending) (Nat.le_add_left ..)
  refine ⟨hstream.staged, hstream.fits, hstream.hard, ?_, ?_, hpending⟩
  · rw [hw.hard]
    exact World.le_total hmem fun stream => stream.lease.hardAllowance
  · rw [hw.staging]
    exact World.le_total hmem fun stream => stream.lease.stagedBytes

/-- **A finished stream holds what was acknowledged**: its file has the bytes of the chunks that
were written, in their order and no others, and of its allowance as much as it needs is left. -/
theorem prepared_exact (h : w.Reachable limits sha256) (hmem : stream ∈ w.streams) {hash : String}
    {length : ℕ} (hphase : stream.phase = .prepared hash length) :
    stream.file = stream.digest ∧ length = stream.file.length ∧ 0 < length ∧
      length ≤ limits.maxBlobBytes ∧ hash = sha256 stream.file ∧
      stream.lease.stagedBytes = length ∧ stream.lease.hardAllowance = length := by
  have hstream := (World.Reachable.sound h).streams stream hmem
  obtain ⟨hfile, hlength, hpos, hhash, hallowance⟩ := hstream.prepared hash length hphase
  have hstaged := hstream.staged
  rw [Stream.pending, hphase] at hstaged
  rw [← hallowance]
  refine ⟨hfile, hallowance.trans hlength, hallowance ▸ hpos, hstream.hard, hhash, ?_, rfl⟩
  rw [hallowance, hlength, hfile, hstaged, Nat.add_zero]

end Sound

/-! ## A session with two streams -/

/-- Two streams of at most eight bytes at a time, and sixteen bytes in all. -/
def smallLimits : UnknownLengthBlobLimits := ⟨8, 16, 16, 4, 100⟩

def plenty : Statvfs := .ok (4, 50)

/-- Stands for the digest. -/
def digits (bytes : List UInt8) : String := toString (bytes.map UInt8.toNat)

/-- A finished stream of three bytes, and one that was just opened. -/
def twoStreams : World where
  budget := ⟨3, 11, 3⟩
  streams := [⟨.receiving, [], [], ⟨0, 8⟩⟩,
    ⟨.prepared (digits [1, 2, 3]) 3, [1, 2, 3], [1, 2, 3], ⟨3, 3⟩⟩]
  acknowledged := 3

theorem twoStreams_reachable : twoStreams.Reachable smallLimits digits := by
  have hopened : World.Reachable smallLimits digits
      ⟨⟨0, 8, 0⟩, [⟨.receiving, [], [], ⟨0, 8⟩⟩], 0⟩ :=
    .step .new (.begin (show reserve _ plenty _ = .ok (_, _) from rfl))
  have haccepted : World.Reachable smallLimits digits
      ⟨⟨3, 8, 3⟩, [⟨.writing [1, 2, 3], [], [], ⟨3, 8⟩⟩], 0⟩ :=
    .step hopened (@World.Step.accept _ _ _ plenty _ _ [] [] _ _ _ [1, 2, 3] rfl rfl)
  have hwritten : World.Reachable smallLimits digits
      ⟨⟨3, 8, 3⟩, [⟨.receiving, [1, 2, 3], [1, 2, 3], ⟨3, 8⟩⟩], 3⟩ :=
    .step haccepted (@World.Step.written _ _ _ [] [] [] [] _ [1, 2, 3] rfl)
  have hfinished : World.Reachable smallLimits digits
      ⟨⟨3, 3, 3⟩, [⟨.prepared (digits [1, 2, 3]) 3, [1, 2, 3], [1, 2, 3], ⟨3, 3⟩⟩], 3⟩ := by
    refine .step hwritten (@World.Step.finish _ _ _ [] [] _ (.ok ⟨true, 1, 0o600, [1, 2, 3]⟩)
      _ _ rfl rfl ?_ rfl)
    rintro file ⟨⟩
    rfl
  exact .step hfinished (.begin (show reserve _ plenty _ = .ok (_, _) from rfl))

theorem twoStreams_budget : twoStreams.budget.activeHardAllowance ≤ smallLimits.maxActiveStagingBytes :=
  (session_budget twoStreams_reachable).2.2.2.2.1

theorem twoStreams_prepared : [1, 2, 3].length ≤ smallLimits.maxBlobBytes :=
  (prepared_exact twoStreams_reachable (.tail _ (.head _)) rfl).2.2.2.1

end Threadbook.Blob
