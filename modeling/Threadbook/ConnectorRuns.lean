import Threadbook.ConnectorMembers

/-!
# Runs of the connector

Calls are made in any order, for operations that were handed out at some time, whether these are
current, superseded, ended or given up. Whatever was called: **only an operation with the current
fence changes anything, and it publishes once** (`connector_publishes_once`).
-/

namespace Threadbook.PhotoKit

open Fallible Table

open Promotion (RequestId)

def ConnectorTables.initial (storeAuthorityEpoch : String) (photokitRevision : ℕ)
    (blobs : Table String ℕ) : ConnectorTables where
  storeAuthorityEpoch := storeAuthorityEpoch
  photokitRevision := photokitRevision
  connector := ⟨.unconfigured, .notDetermined, none, none, 0, 0, 0, none, 0⟩
  enrollments := .empty
  locators := []
  assets := .empty
  operations := .empty
  observations := []
  attempts := []
  generations := .empty
  materializations := []
  blobs := blobs
  revisions := []
  heads := .empty
  members := []
  receipts := .empty

structure ConnectorWorld where
  tables : ConnectorTables
  handles : List PhotoKitOperation

def CommandAnswer.handle : CommandAnswer → Option PhotoKitOperation
  | .operation begun _ => some begun
  | _ => none

variable {services : ConnectorServices} {t t' : ConnectorTables} {w w' : ConnectorWorld}

/-- The call is made for an operation that was handed out, if for any. -/
def ConnectorWorld.permits (w : ConnectorWorld) (command : Command) : Prop :=
  ∀ operation ∈ command.handle, operation ∈ w.handles

variable (services) in
/-- One call, or something that other parts of the program do. -/
inductive ConnectorStep : ConnectorWorld → ConnectorWorld → Prop
  | answered {w : ConnectorWorld} {command : Command} {answer : CommandAnswer} {t' : ConnectorTables}
      (hpermits : w.permits command) (h : command.run services w.tables = (.ok answer, t')) :
      ConnectorStep w ⟨t', answer.handle.toList ++ w.handles⟩
  | failed {w : ConnectorWorld} {command : Command} {e : PlatformError} {t' : ConnectorTables}
      (hpermits : w.permits command) (h : command.run services w.tables = (.error e, t')) :
      ConnectorStep w ⟨t', w.handles⟩
  | elsewhere {w : ConnectorWorld} (blobs : Table String ℕ)
      (receipts : Table RequestId CommandReceiptRow) :
      ConnectorStep w ⟨{ w.tables with blobs := blobs, receipts := receipts }, w.handles⟩

abbrev ConnectorSteps (services : ConnectorServices) : ConnectorWorld → ConnectorWorld → Prop :=
  Relation.ReflTransGen (ConnectorStep services)

def ConnectorReachable (services : ConnectorServices) (w : ConnectorWorld) : Prop :=
  ∃ storeAuthorityEpoch photokitRevision blobs,
    ConnectorSteps services ⟨.initial storeAuthorityEpoch photokitRevision blobs, []⟩ w

/-! ## The invariant -/

structure Sound (services : ConnectorServices) (w : ConnectorWorld) : Prop where
  booked : Booked services w.tables
  rostered : Rostered w.tables
  counted : Counted w.tables
  headed : Headed w.tables.revisions w.tables.heads
  genuine : ∀ operation ∈ w.handles, w.tables.Genuine operation

theorem Sound.initial (storeAuthorityEpoch : String) (photokitRevision : ℕ)
    (blobs : Table String ℕ) :
    Sound services ⟨.initial storeAuthorityEpoch photokitRevision blobs, []⟩ where
  booked := by
    constructor <;> simp [ConnectorTables.initial]
  rostered := by
    constructor <;> simp [ConnectorTables.initial]
  counted := by
    constructor <;> simp [ConnectorTables.initial, ConnectorRow.counts]
  headed := headed_empty
  genuine := by simp

/-- **Moves** keep the tables sound and go onward. -/
theorem moves_sound (hbooked : Booked services t) (hrostered : Rostered t) (hcounted : Counted t)
    (h : Moves services t t') :
    Booked services t' ∧ Rostered t' ∧ Counted t' ∧ Onward t t' := by
  induction h with
  | refl => exact ⟨hbooked, hrostered, hcounted, .refl t⟩
  | tail _ hmove ih =>
    obtain ⟨hbooked', hrostered', hcounted', honward⟩ := ih
    exact ⟨hbooked'.move hmove, hrostered'.move hbooked' hmove, hcounted'.move hbooked' hmove,
      honward.trans (.of_move hbooked' hmove)⟩

theorem Command.run_genuine {command : Command} {answer : CommandAnswer} {operation : PhotoKitOperation}
    (hbooked : Booked services t) (h : command.run services t = (.ok answer, t'))
    (hanswer : answer.handle = some operation) : t'.Genuine operation := by
  cases command with
  | beginOperation operationId requestId trigger authorization nowMs =>
    obtain ⟨⟨begun, replayed⟩, hbegin, rfl⟩ :=
      wrapped_eq_ok (f := fun (result : PhotoKitOperation × Bool) =>
        CommandAnswer.operation result.1 result.2).mp h
    cases hanswer
    obtain ⟨-, rfl, row, hrow, rfl⟩ | ⟨-, -, -, enrollment, hbegun⟩ := beginOperation_ok hbegin
    · obtain ⟨⟨id, row⟩, hfound, rfl⟩ := Option.map_eq_some_iff.mp hrow
      have hfind := mem_rows.mp (List.mem_of_find?_eq_some hfound)
      exact ⟨row, (hbooked.keyed id row hfind).symm ▸ hfind, rfl⟩
    · obtain ⟨_, rfl⟩ := hbegun.moved
      exact ⟨_, (find?_put _ _ _ _).trans (if_pos rfl), rfl⟩
  | removePendingEnrollment | markMaterializing | recordAttempt =>
    obtain ⟨_, -, rfl⟩ := wrapped_eq_ok (f := fun _ => CommandAnswer.done).mp h
    cases hanswer
  | _ =>
    obtain ⟨_, -, rfl⟩ := wrapped_eq_ok.mp h
    cases hanswer

/-- **One step** keeps the world sound and goes onward. -/
theorem Sound.step (h : Sound services w) (hstep : ConnectorStep services w w') :
    Sound services w' ∧ Onward w.tables w'.tables := by
  cases hstep with
  | @answered command answer t' hpermits hrun =>
    have hmoves := Command.run_moves (fun operation hmem => h.genuine _ (hpermits _ hmem)) hrun
    obtain ⟨hbooked, hrostered, hcounted, honward⟩ :=
      moves_sound h.booked h.rostered h.counted hmoves
    refine ⟨⟨hbooked, hrostered, hcounted, command.run_headed _ _ _ h.headed hrun, ?_⟩, honward⟩
    intro operation hmem
    obtain hmem | hmem := List.mem_append.mp hmem
    · exact Command.run_genuine h.booked hrun (Option.mem_toList.mp hmem)
    · exact honward.genuine (h.genuine operation hmem)
  | failed hpermits hrun =>
    rw [Command.run_of_error services hrun]
    exact ⟨h, .refl _⟩
  | elsewhere blobs receipts =>
    refine ⟨⟨h.booked.congr rfl rfl rfl, ?_, ?_, h.headed, h.genuine⟩, .of_kept .refl .refl rfl⟩
    · exact h.rostered.congr h.booked rfl rfl fun _ _ _ _ => rfl
    · exact h.counted.congr_same rfl rfl rfl rfl rfl rfl rfl

theorem Sound.steps (h : Sound services w) (hsteps : ConnectorSteps services w w') :
    Sound services w' ∧ Onward w.tables w'.tables := by
  induction hsteps with
  | refl => exact ⟨h, .refl _⟩
  | tail _ hstep ih =>
    obtain ⟨hsound, honward⟩ := ih
    obtain ⟨hsound', honward'⟩ := hsound.step hstep
    exact ⟨hsound', honward.trans honward'⟩

theorem ConnectorReachable.sound (h : ConnectorReachable services w) : Sound services w := by
  obtain ⟨storeAuthorityEpoch, photokitRevision, blobs, hsteps⟩ := h
  exact ((Sound.initial storeAuthorityEpoch photokitRevision blobs).steps hsteps).1

/-! ## Replays -/

structure Ended (services : ConnectorServices) (t : ConnectorTables)
    (operation : PhotoKitOperation) (terminalState : OperationState)
    (publication : PhotoKitPublication) : Prop where
  stored : ∃ row stored, t.operations.find? operation.operationId = some row ∧
    row.state = terminalState ∧ row.terminalPublication = some stored ∧
    validateTerminalPublication services stored operation terminalState = .ok () ∧
    { stored with replayed := true } = { publication with replayed := true }
  terminal : terminalState.isTerminal

variable {operation : PhotoKitOperation} {terminalState : OperationState}
  {publication : PhotoKitPublication}

theorem Ended.onward (h : Ended services t operation terminalState publication)
    (honward : Onward t t') : Ended services t' operation terminalState publication := by
  obtain ⟨row, stored, hrow, hstate, hstored, hvalid, hsame⟩ := h.stored
  obtain ⟨row', hrow', -, hended⟩ := honward.operations _ row hrow
  have hnot : row.state.isLive = false := by
    have hterminal := h.terminal
    rw [hstate]
    cases terminalState <;> first | rfl | cases hterminal
  obtain rfl := hended hnot
  exact ⟨⟨row', stored, hrow', hstate, hstored, hvalid, hsame⟩, h.terminal⟩

theorem Ended.terminalPublication_eq (h : Ended services t operation terminalState publication) :
    terminalPublication services t operation = .ok { publication with replayed := true } := by
  obtain ⟨row, stored, hrow, hstate, hstored, hvalid, hsame⟩ := h.stored
  have hterminal : row.state = .complete ∨ row.state = .failed := by
    simpa [OperationState.isTerminal, hstate] using h.terminal
  simp only [terminalPublication, hrow, if_pos hterminal, hstored]
  rw [hstate, hvalid, ← hsame]
  rfl

theorem terminalPublication_eq_ok (h : terminalPublication services t operation = .ok publication) :
    ∃ row stored, t.operations.find? operation.operationId = some row ∧ row.state.isTerminal ∧
      row.terminalPublication = some stored ∧
      validateTerminalPublication services stored operation row.state = .ok () ∧
      publication = { stored with replayed := true } := by
  unfold terminalPublication at h
  cases hrow : t.operations.find? operation.operationId with
  | none =>
    rw [hrow] at h
    cases h
  | some row =>
    simp only [hrow] at h
    split at h
    · rename_i hterminal
      cases hstored : row.terminalPublication with
      | none =>
        rw [hstored] at h
        cases h
      | some stored =>
        rw [hstored] at h
        obtain ⟨hvalid, h⟩ := check_then_eq_ok.mp h
        refine ⟨row, stored, rfl, by simpa [OperationState.isTerminal] using hterminal, hstored,
          hvalid, (Except.ok.inj h).symm⟩
    · cases h

theorem Ended.of_replay {row : OperationRow}
    (h : terminalPublication services t operation = .ok publication)
    (hrow : t.operations.find? operation.operationId = some row) :
    Ended services t operation row.state publication := by
  obtain ⟨row', stored, hrow', hterminal, hstored, hvalid, rfl⟩ := terminalPublication_eq_ok h
  obtain rfl := Option.mem_unique hrow hrow'
  exact ⟨⟨row, stored, hrow, rfl, hstored, hvalid, rfl⟩, hterminal⟩

variable {observations : List PhotoKitFinalizedObservation}
  {authorization : PhotoKitAuthorizationV1} {terminalReason : String}

/-- **A completed operation** has ended. -/
theorem ended_of_finalizeComplete {ids : CompletionIds} {nowMs : ℤ} (hgenuine : t.Genuine operation)
    (h : finalizeComplete services ids operation authorization observations nowMs t =
      (.ok publication, t')) : Ended services t' operation .complete publication := by
  obtain ⟨rfl, hreplay, row, hrow, hstate⟩ | ⟨row, enrollment, generation, hcompleted⟩ :=
    finalizeComplete_ok hgenuine h
  · exact hstate ▸ Ended.of_replay hreplay hrow
  · obtain ⟨acceptedBytes, finishedAtMs, hoperations⟩ := hcompleted.operations_eq
    refine ⟨⟨row.published .complete none acceptedBytes publication finishedAtMs, publication, ?_,
      rfl, rfl, hcompleted.valid, rfl⟩, rfl⟩
    rw [hoperations]
    exact (find?_put _ _ _ _).trans (if_pos rfl)

theorem ended_of_finalizeGlobalUnavailable {revisionIds : String → String}
    {reason : Option PhotoKitAvailabilityReasonV1} {nowMs : ℤ} (hgenuine : t.Genuine operation)
    (h : finalizeGlobalUnavailable services revisionIds operation authorization reason
      terminalReason nowMs t = (.ok publication, t')) :
    Ended services t' operation .complete publication ∨
      Ended services t' operation .failed publication := by
  obtain ⟨rfl, hreplay⟩ | hwithheld := finalizeGlobalUnavailable_ok hgenuine h
  · obtain ⟨row, stored, hrow, hterminal, -⟩ := terminalPublication_eq_ok hreplay
    have hended := Ended.of_replay hreplay hrow
    simp only [OperationState.isTerminal, Bool.decide_or, Bool.or_eq_true,
      decide_eq_true_eq] at hterminal
    obtain hstate | hstate := hterminal
    · exact .inl (hstate ▸ hended)
    · exact .inr (hstate ▸ hended)
  · have hvalid := hwithheld.valid
    obtain ⟨row, connector, revisions, heads, revision, terminalReason, finishedAtMs, -, -, -,
      rfl⟩ := hwithheld.moved
    refine .inr ⟨⟨row.published .failed terminalReason none publication finishedAtMs, publication,
      ?_, rfl, rfl, hvalid, rfl⟩, rfl⟩
    exact (find?_put _ _ _ _).trans (if_pos rfl)

/-- **A later finalizer call** replays. -/
theorem Ended.finalizeGlobalUnavailable_eq
    (h : Ended services t operation terminalState publication)
    (hreason : validateTerminalReason terminalReason = .ok ()) (revisionIds : String → String)
    (authorization : PhotoKitAuthorizationV1) (reason : Option PhotoKitAvailabilityReasonV1)
    (nowMs : ℤ) :
    finalizeGlobalUnavailable services revisionIds operation authorization reason terminalReason
      nowMs t = (.ok { publication with replayed := true }, t) := by
  obtain ⟨row, -, hrow, hstate, -⟩ := h.stored
  have hterminal : row.state = .complete ∨ row.state = .failed := by
    simpa [OperationState.isTerminal, hstate] using h.terminal
  rw [finalizeGlobalUnavailable, atomically_eq_ok, require_bind_eq_ok, operationState_bind_eq_ok]
  refine ⟨hreason, row, hrow, ?_⟩
  rw [if_pos hterminal, state_bind, check_eq_ok]
  exact ⟨h.terminalPublication_eq, rfl⟩

theorem Ended.finalizeComplete_eq (h : Ended services t operation .complete publication)
    (hlength : observations.length ≤ 500) (ids : CompletionIds)
    (authorization : PhotoKitAuthorizationV1) (nowMs : ℤ) :
    finalizeComplete services ids operation authorization observations nowMs t =
      (.ok { publication with replayed := true }, t) := by
  obtain ⟨row, -, hrow, hstate, -⟩ := h.stored
  rw [finalizeComplete, atomically_eq_ok, rejectIf_bind_eq_ok, operationState_bind_eq_ok]
  refine ⟨not_lt.mpr hlength, row, hrow, ?_⟩
  rw [if_pos hstate, state_bind, check_eq_ok]
  exact ⟨h.terminalPublication_eq, rfl⟩

theorem Ended.finalizeComplete_refused (h : Ended services t operation .failed publication)
    (hlength : observations.length ≤ 500) (ids : CompletionIds)
    (authorization : PhotoKitAuthorizationV1) (nowMs : ℤ) :
    finalizeComplete services ids operation authorization observations nowMs t =
      (.error (.conflict "photokit_operation_not_replayable"), t) := by
  obtain ⟨row, -, hrow, hstate, -⟩ := h.stored
  have hread : operationState operation.operationId t = (.ok row.state, t) :=
    operationState_eq_ok.mpr ⟨rfl, row, hrow, rfl⟩
  refine atomically_of_same ?_
  rw [rejectIf, if_neg (not_lt.mpr hlength)]
  show (operationState operation.operationId >>= _) t = _
  rw [bind_of_ok hread, hstate, if_neg (by simp), rejectIf, if_pos (.inl rfl)]
  rfl

/-! ## Fencing -/

/-- **A call for an operation** changes the tables only if the operation is current. -/
theorem Command.run_current {command : Command} {answer : CommandAnswer}
    (hgenuine : t.Genuine operation) (hhandle : command.handle = some operation)
    (h : command.run services t = (.ok answer, t')) :
    t' = t ∨ ∃ current, current.isLive ∧ t.isCurrent operation current := by
  cases command with
  | recordObservation =>
    cases hhandle
    obtain ⟨observation, h, -⟩ := wrapped_eq_ok.mp h
    exact .inr ⟨.enumerating, rfl, (recordObservation_ok h).current⟩
  | markMaterializing =>
    cases hhandle
    obtain ⟨u, h, -⟩ := wrapped_eq_ok (f := fun _ => CommandAnswer.done).mp h
    exact .inr ⟨.enumerating, rfl, (markMaterializing_ok h).current⟩
  | recordAttempt =>
    cases hhandle
    obtain ⟨u, h, -⟩ := wrapped_eq_ok (f := fun _ => CommandAnswer.done).mp h
    exact .inr ⟨.materializing, rfl, (recordAttempt_ok h).current⟩
  | finalizeGlobalUnavailable =>
    cases hhandle
    obtain ⟨publication, h, -⟩ := wrapped_eq_ok.mp h
    obtain ⟨hsame, -⟩ | hwithheld := finalizeGlobalUnavailable_ok hgenuine h
    · exact .inl hsame
    · exact .inr hwithheld.current
  | finalizeComplete =>
    cases hhandle
    obtain ⟨publication, h, -⟩ := wrapped_eq_ok.mp h
    obtain ⟨hsame, -⟩ | ⟨row, enrollment, generation, hcompleted⟩ := finalizeComplete_ok hgenuine h
    · exact .inl hsame
    · exact .inr ⟨.materializing, rfl, hcompleted.current⟩
  | _ => cases hhandle

/-- The two calls that end an operation, with their arguments. -/
inductive Finalizer
  | complete (ids : CompletionIds) (authorization : PhotoKitAuthorizationV1)
      (observations : List PhotoKitFinalizedObservation) (nowMs : ℤ)
  | globalUnavailable (revisionIds : String → String) (authorization : PhotoKitAuthorizationV1)
      (reason : Option PhotoKitAvailabilityReasonV1) (terminalReason : String) (nowMs : ℤ)

variable (services) in
def Finalizer.run (operation : PhotoKitOperation) : Finalizer → Transaction PhotoKitPublication
  | .complete ids authorization observations nowMs =>
    finalizeComplete services ids operation authorization observations nowMs
  | .globalUnavailable revisionIds authorization reason terminalReason nowMs =>
    finalizeGlobalUnavailable services revisionIds operation authorization reason terminalReason
      nowMs

def Finalizer.command (operation : PhotoKitOperation) : Finalizer → Command
  | .complete ids authorization observations nowMs =>
    .finalizeComplete ids operation authorization observations nowMs
  | .globalUnavailable revisionIds authorization reason terminalReason nowMs =>
    .finalizeGlobalUnavailable revisionIds operation authorization reason terminalReason nowMs

theorem Finalizer.step {finalizer : Finalizer} (hhandle : operation ∈ w.handles)
    (h : finalizer.run services operation w.tables = (.ok publication, t')) :
    ConnectorStep services w ⟨t', w.handles⟩ := by
  have hrun : (finalizer.command operation).run services w.tables =
      (.ok (.publication publication), t') := by
    cases finalizer <;> exact wrapped_eq_ok.mpr ⟨publication, h, rfl⟩
  refine .answered (fun other hother => ?_) hrun
  cases finalizer <;> exact Option.some.inj hother ▸ hhandle

/-- The arguments are in order: that many observations, and that reason for the end, can be. -/
def Finalizer.WellFormed : Finalizer → Prop
  | .complete _ _ observations _ => observations.length ≤ 500
  | .globalUnavailable _ _ _ terminalReason _ => validateTerminalReason terminalReason = .ok ()

def Finalizer.Completes : Finalizer → Prop
  | .complete .. => True
  | .globalUnavailable .. => False

structure LastCompleted (t : ConnectorTables) (enrollmentEpoch : String) (generation : ℕ)
    (row : OperationRow) : Prop where
  row_eq : t.operations.find? row.operation.operationId = some row
  complete : row.state = .complete
  enrollment : row.operation.enrollmentEpoch = enrollmentEpoch
  generation : row.operation.proposedMembershipGeneration = generation
  last : ∀ id other, t.operations.find? id = some other → other.state = .complete →
    other.operation.enrollmentEpoch = enrollmentEpoch →
    other.operation.reconciliationFence ≤ row.operation.reconciliationFence

structure PublishesOnce (services : ConnectorServices) (w : ConnectorWorld) : Prop where
  fenced : ∀ (command : Command) operation answer t', operation ∈ w.handles →
    command.handle = some operation → command.run services w.tables = (.ok answer, t') →
    t' = w.tables ∨ ∃ current, current.isLive ∧ w.tables.isCurrent operation current
  untouched : ∀ (command : Command) e t', command.run services w.tables = (.error e, t') → t' = w.tables
  once : ∀ key key' generation generation', w.tables.generations.find? key = some generation →
    w.tables.generations.find? key' = some generation' →
    generation.operationId = generation'.operationId → key = key'
  replayed : ∀ (finalizer : Finalizer) operation publication t' w', operation ∈ w.handles →
    finalizer.run services operation w.tables = (.ok publication, t') →
    ConnectorSteps services ⟨t', w.handles⟩ w' → ∀ later : Finalizer, later.WellFormed →
      later.run services operation w'.tables =
          (.ok { publication with replayed := true }, w'.tables) ∨
        later.Completes ∧ ¬ finalizer.Completes ∧
          later.run services operation w'.tables =
            (.error (.conflict "photokit_operation_not_replayable"), w'.tables)
  increasing : ∀ w', ConnectorSteps services w w' → ∀ key generation,
    w'.tables.generations.find? key = some generation →
    w.tables.generations.find? key = some generation ∨
      ∀ number ∈ w.tables.generationsOf key.1, number < key.2
  active : ∀ enrollmentEpoch enrollment,
    w.tables.enrollments.find? enrollmentEpoch = some enrollment →
    Table.IsLatest id (w.tables.generationsOf enrollmentEpoch)
      enrollment.activeMembershipGeneration
  members : ∀ enrollmentEpoch enrollment generation,
    w.tables.enrollments.find? enrollmentEpoch = some enrollment →
    enrollment.activeMembershipGeneration = some generation →
    ∃ row, LastCompleted w.tables enrollmentEpoch generation row ∧
      ((w.tables.membersOf enrollmentEpoch generation).map fun member =>
          (member.ordinal, member.assetId)) =
        (w.tables.observationsOf row.operation.operationId).map fun observation =>
          (observation.ordinal, observation.assetId)
  headed : ∀ assetId, w.tables.headRevision assetId = lastRevision w.tables.revisions assetId
  counted : ∀ enrollmentEpoch, w.tables.connector.activeEnrollmentEpoch = some enrollmentEpoch →
    w.tables.connector.counts = w.tables.headCounts enrollmentEpoch
  uncounted : w.tables.connector.activeEnrollmentEpoch = none →
    w.tables.connector.counts = (0, 0, 0)

theorem Finalizer.replays {finalizer : Finalizer} {w' : ConnectorWorld} (h : Sound services w)
    (hhandle : operation ∈ w.handles)
    (hrun : finalizer.run services operation w.tables = (.ok publication, t'))
    (honward : Onward t' w'.tables) (later : Finalizer) (hwell : later.WellFormed) :
    later.run services operation w'.tables =
        (.ok { publication with replayed := true }, w'.tables) ∨
      later.Completes ∧ ¬ finalizer.Completes ∧ later.run services operation w'.tables =
          (.error (.conflict "photokit_operation_not_replayable"), w'.tables) := by
  have hgenuine := h.genuine operation hhandle
  have hended : Ended services w'.tables operation .complete publication ∨
      ¬ finalizer.Completes ∧ Ended services w'.tables operation .failed publication := by
    cases finalizer with
    | complete ids authorization observations nowMs =>
      exact .inl ((ended_of_finalizeComplete hgenuine hrun).onward honward)
    | globalUnavailable revisionIds authorization reason terminalReason nowMs =>
      obtain hended | hended := ended_of_finalizeGlobalUnavailable hgenuine hrun
      · exact .inl (hended.onward honward)
      · exact .inr ⟨not_false, hended.onward honward⟩
  cases later with
  | complete ids authorization observations nowMs =>
    obtain hended | ⟨hnot, hended⟩ := hended
    · exact .inl (hended.finalizeComplete_eq hwell ids authorization nowMs)
    · exact .inr ⟨trivial, hnot, hended.finalizeComplete_refused hwell ids authorization nowMs⟩
  | globalUnavailable revisionIds authorization reason terminalReason nowMs =>
    obtain hended | ⟨-, hended⟩ := hended
    · exact .inl (hended.finalizeGlobalUnavailable_eq hwell revisionIds authorization reason nowMs)
    · exact .inl (hended.finalizeGlobalUnavailable_eq hwell revisionIds authorization reason nowMs)

theorem Booked.generation_unique (h : Booked services t) {key key' : String × ℕ}
    {generation generation' : GenerationRow} (hrow : t.generations.find? key = some generation)
    (hrow' : t.generations.find? key' = some generation')
    (hsame : generation.operationId = generation'.operationId) : key = key' := by
  obtain ⟨row, hoperation, -, rfl⟩ := h.generated key generation hrow
  obtain ⟨row', hoperation', -, rfl⟩ := h.generated key' generation' hrow'
  rw [hsame, hoperation'] at hoperation
  rw [Option.some.inj hoperation]

theorem Booked.lastCompleted (h : Booked services t) {enrollmentEpoch : String}
    {enrollment : EnrollmentRow} {number : ℕ}
    (henrollment : t.enrollments.find? enrollmentEpoch = some enrollment)
    (hactive : enrollment.activeMembershipGeneration = some number) :
    ∃ row generation, LastCompleted t enrollmentEpoch number row ∧
      t.generations.find? (enrollmentEpoch, number) = some generation ∧
      generation.operationId = row.operation.operationId := by
  have hlatest := h.latest _ _ henrollment
  rw [hactive] at hlatest
  obtain ⟨hmem, hmax⟩ := hlatest
  obtain ⟨generation, hgeneration⟩ := Option.isSome_iff_exists.mp hmem
  obtain ⟨row, hrow, hcomplete, hkey⟩ := h.generated _ _ hgeneration
  obtain ⟨hepoch, hnumber⟩ := Prod.mk.inj hkey
  have hid := h.keyed _ _ hrow
  refine ⟨row, generation, ⟨hid.symm ▸ hrow, hcomplete, hepoch, hnumber, ?_⟩, hgeneration, hid.symm⟩
  intro id other hother hdone hsame
  by_contra hlt
  -- a later operation has a later generation
  have hless := h.ordered _ _ _ _ hrow hother (hepoch.trans hsame.symm) hcomplete (not_le.mp hlt)
  obtain ⟨found, hfound, -⟩ := h.completed id other hother hdone
  rw [hsame] at hfound
  have hle := hmax _ (Option.isSome_iff_exists.mpr ⟨found, hfound⟩)
  simp only [id_eq] at hle
  omega

/-- **Operations are fenced and publish once**, whatever was called before. -/
theorem connector_publishes_once (h : ConnectorReachable services w) :
    PublishesOnce services w := by
  have hsound := h.sound
  refine ⟨?_, ?_, ?_, ?_, ?_, hsound.booked.latest, ?_, hsound.headed.headRevision_eq, ?_, ?_⟩
  · intro command operation answer t' hhandle hcommand hrun
    exact Command.run_current (hsound.genuine operation hhandle) hcommand hrun
  · intro command e t' hrun
    exact Command.run_of_error services hrun
  · intro key key' generation generation' hrow hrow' hsame
    exact hsound.booked.generation_unique hrow hrow' hsame
  · intro finalizer operation publication t' w' hhandle hrun hsteps later hwell
    have hsound' := (hsound.step (finalizer.step hhandle hrun)).1
    exact Finalizer.replays hsound hhandle hrun (hsound'.steps hsteps).2 later hwell
  · intro w' hsteps
    exact (hsound.steps hsteps).2.later
  · intro enrollmentEpoch enrollment number henrollment hactive
    obtain ⟨row, generation, hlast, hgeneration, hown⟩ :=
      hsound.booked.lastCompleted henrollment hactive
    refine ⟨row, hlast, ?_⟩
    rw [hsound.rostered.rosters _ _ hgeneration, hown]
  · intro enrollmentEpoch hfollowed
    obtain ⟨enrollment, -, -, -, hcounts⟩ := hsound.counted.followed _ hfollowed
    exact hcounts
  · exact fun hnone => (hsound.counted.unfollowed hnone).2

/-! ## A run -/

variable (services) in
def ConnectorWorld.call (w : ConnectorWorld) (command : Command) : ConnectorWorld :=
  match command.run services w.tables with
  | (.ok answer, t') => ⟨t', answer.handle.toList ++ w.handles⟩
  | (.error _, t') => ⟨t', w.handles⟩

instance (w : ConnectorWorld) (command : Command) : Decidable (w.permits command) :=
  inferInstanceAs (Decidable (∀ operation ∈ command.handle, operation ∈ w.handles))

variable (services) in
/-- Each call is made for an operation that was handed out. -/
def ConnectorWorld.permitsAll : ConnectorWorld → List Command → Bool
  | _, [] => true
  | w, command :: rest => w.permits command && (w.call services command).permitsAll rest

theorem ConnectorWorld.steps_calls {commands : List Command} (h : w.permitsAll services commands) :
    ConnectorSteps services w (commands.foldl (ConnectorWorld.call services) w) := by
  induction commands generalizing w with
  | nil => exact .refl
  | cons command rest ih =>
    obtain ⟨hpermits, hrest⟩ := Bool.and_eq_true_iff.mp h
    refine .head ?_ (ih hrest)
    unfold ConnectorWorld.call
    rcases hrun : command.run services w.tables with ⟨e | answer, t'⟩
    · exact .failed (of_decide_eq_true hpermits) hrun
    · exact .answered (of_decide_eq_true hpermits) hrun

namespace ConnectorExample

def plain : ConnectorServices where
  isUuid _ := true
  isTimestamp _ := true
  formatTimestamp _ := .ok "2026-01-01T00:00:00Z"
  publicationLength _ := 1024
  responseLength _ := 512
  locatorLookup _ _ _ locator := locator.toList.map fun c => c.toNat.toUInt8
  encryptLocator _ _ _ _ _ locator := locator.toList.map fun c => c.toNat.toUInt8
  decryptLocator _ _ _ _ _ ciphertext := some ciphertext
  decodeUtf8 _ := some "album"

def start : ConnectorWorld := ⟨.initial "store" 0 .empty, []⟩

def album : ActivationInput :=
  ⟨[], "album", some [1], "album-locator", ⟨"", "", fun _ => ""⟩⟩

def sync : PhotoKitOperation := ⟨"operation", "request", "enrollment", "store", 1, 1, .user⟩

def begin : List Command :=
  [.reserveEnrollment "enrollment" "key" false 1,
    .activateEnrollment album "enrollment" 2,
    .beginOperation "operation" "request" .user .authorized 3]

def completion : CompletionIds := ⟨fun _ => "materialization", fun _ => "revision"⟩

def results : List PhotoKitFinalizedObservation :=
  [⟨0, .unavailable, .unsupportedResource, none⟩]

/-- It became the only member of the first generation, and then the connector was disabled. -/
def disable : List Command :=
  begin ++
    [.recordObservation ⟨"asset", "locator", some [2]⟩ sync [] 0 "photo" none false 4,
      .markMaterializing sync,
      .finalizeComplete completion sync .authorized results 5,
      .disableCommand ⟨"closing", "closing-request", fun _ => "closing-revision"⟩ ⟨.above 1, 1⟩
        (String.ofList (List.replicate 64 'a')) 6]

def disabled : ConnectorWorld := disable.foldl (ConnectorWorld.call plain) start

def begun : ConnectorWorld := begin.foldl (ConnectorWorld.call plain) start

/-- The album was not there. -/
def withhold : Finalizer :=
  .globalUnavailable (fun _ => "") .authorized (some .scopeUnavailable) "scope_unavailable" 4

def complete : Finalizer := .complete completion .authorized results 5

theorem reachable_of_calls {commands : List Command} (h : start.permitsAll plain commands) :
    ConnectorReachable plain (commands.foldl (ConnectorWorld.call plain) start) :=
  ⟨"store", 0, .empty, start.steps_calls h⟩

theorem disabled_reachable : ConnectorReachable plain disabled :=
  reachable_of_calls (by decide +kernel)

theorem disabled_counts_nothing :
    (ConnectorReachable plain disabled ∧ disabled.tables.connector.counts = (0, 0, 0) ∧
        disabled.tables.headCounts "enrollment" = (1, 0, 1)) ∧
      ConnectorReachable plain begun ∧ sync ∈ begun.handles ∧
        (withhold.run plain sync begun.tables).1.toOption.isSome ∧
        (complete.run plain sync (withhold.run plain sync begun.tables).2).1 =
          .error (.conflict "photokit_operation_not_replayable") := by
  refine ⟨⟨disabled_reachable, ?_, ?_⟩, reachable_of_calls (by decide +kernel), ?_, ?_, ?_⟩
  · decide +kernel
  · decide +kernel
  · decide +kernel
  · decide +kernel
  · rfl

/-- After the run the promises still hold, and the asset is the member of the first generation. -/
theorem disabled_publishes_once : PublishesOnce plain disabled ∧ sync ∈ disabled.handles ∧
    (disabled.tables.membersOf "enrollment" 1).map MemberRow.assetId = ["asset"] :=
  ⟨connector_publishes_once disabled_reachable, by decide +kernel, by decide +kernel⟩

end ConnectorExample

end Threadbook.PhotoKit
