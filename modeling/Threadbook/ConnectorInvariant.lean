import Threadbook.ConnectorClosings

/-!
# The books of the connector

Operations of an enrollment hold different fences, none above the fence of the enrollment, and a
generation belongs to the operation that completed with it. Later operations propose later
generations, so **the generation that counts is the latest, of the operation that completed last**
(`Booked.latest`).
-/

namespace Threadbook.PhotoKit

open Table Option

variable {services : ConnectorServices} {t t' : ConnectorTables}

def OperationState.isTerminal (state : OperationState) : Bool :=
  state = .complete ∨ state = .failed

def OperationRow.Published (services : ConnectorServices) (row : OperationRow) : Prop :=
  row.state.isTerminal → ∃ publication, row.terminalPublication = some publication ∧
    validateTerminalPublication services publication row.operation row.state = .ok ()

def ConnectorTables.generationsOf (t : ConnectorTables) (enrollmentEpoch : String) : Set ℕ :=
  {generation | (t.generations.find? (enrollmentEpoch, generation)).isSome}

structure Booked (services : ConnectorServices) (t : ConnectorTables) : Prop where
  keyed : ∀ id row, t.operations.find? id = some row → row.operation.operationId = id
  fenced : ∀ id row, t.operations.find? id = some row →
    ∃ enrollment, t.enrollments.find? row.operation.enrollmentEpoch = some enrollment ∧
      enrollment.state ≠ .pending ∧
      row.operation.reconciliationFence ≤ enrollment.operationFence
  distinct : ∀ id id' row row', t.operations.find? id = some row →
    t.operations.find? id' = some row' →
    row.operation.enrollmentEpoch = row'.operation.enrollmentEpoch →
    row.operation.reconciliationFence = row'.operation.reconciliationFence → id = id'
  published : ∀ id row, t.operations.find? id = some row → row.Published services
  generated : ∀ key generation, t.generations.find? key = some generation →
    ∃ row, t.operations.find? generation.operationId = some row ∧ row.state = .complete ∧
      (row.operation.enrollmentEpoch, row.operation.proposedMembershipGeneration) = key
  completed : ∀ id row, t.operations.find? id = some row → row.state = .complete →
    ∃ generation, t.generations.find?
        (row.operation.enrollmentEpoch, row.operation.proposedMembershipGeneration) =
          some generation ∧ generation.operationId = id
  latest : ∀ enrollmentEpoch enrollment, t.enrollments.find? enrollmentEpoch = some enrollment →
    Table.IsLatest id (t.generationsOf enrollmentEpoch) enrollment.activeMembershipGeneration
  ordered : ∀ id id' row row', t.operations.find? id = some row →
    t.operations.find? id' = some row' →
    row.operation.enrollmentEpoch = row'.operation.enrollmentEpoch → row.state = .complete →
    row.operation.reconciliationFence < row'.operation.reconciliationFence →
    row.operation.proposedMembershipGeneration < row'.operation.proposedMembershipGeneration

namespace Booked

theorem congr (h : Booked services t) (henrollments : t'.enrollments = t.enrollments)
    (hoperations : t'.operations = t.operations) (hgenerations : t'.generations = t.generations) :
    Booked services t' := by
  obtain ⟨keyed, fenced, distinct, published, generated, completed, latest, ordered⟩ := h
  refine ⟨?_, ?_, ?_, ?_, ?_, ?_, ?_, ?_⟩
  all_goals simp only [ConnectorTables.generationsOf, henrollments, hoperations, hgenerations]
  all_goals assumption

variable {enrollmentEpoch operationId : String} {row : OperationRow}

theorem enrollment (h : Booked services t) {enrollment : EnrollmentRow}
    (enrollment' : EnrollmentRow) (hrow : t.enrollments.find? enrollmentEpoch = some enrollment)
    (hgeneration : enrollment'.activeMembershipGeneration = enrollment.activeMembershipGeneration)
    (hfence : enrollment.operationFence ≤ enrollment'.operationFence)
    (hstate : enrollment.state ≠ .pending → enrollment'.state ≠ .pending) :
    Booked services { t with enrollments := t.enrollments.put enrollmentEpoch enrollment' } where
  keyed := h.keyed
  distinct := h.distinct
  published := h.published
  generated := h.generated
  completed := h.completed
  ordered := h.ordered
  fenced id row hoperation := by
    obtain ⟨current, hcurrent, hnot, hle⟩ := h.fenced id row hoperation
    show ∃ current, (t.enrollments.put _ _).find? _ = some current ∧ _
    rw [find?_put]
    by_cases hsame : row.operation.enrollmentEpoch = enrollmentEpoch
    · rw [hsame, hrow] at hcurrent
      cases hcurrent
      rw [if_pos hsame]
      exact ⟨_, rfl, hstate hnot, hle.trans hfence⟩
    · rw [if_neg hsame]
      exact ⟨_, hcurrent, hnot, hle⟩
  latest epoch current hcurrent := by
    change (t.enrollments.put _ _).find? _ = some current at hcurrent
    rw [find?_put] at hcurrent
    by_cases hsame : epoch = enrollmentEpoch
    · rw [if_pos hsame] at hcurrent
      cases hcurrent
      rw [hgeneration, hsame]
      exact h.latest _ _ hrow
    · rw [if_neg hsame] at hcurrent
      exact h.latest _ _ hcurrent

theorem operation_of_put {row' : OperationRow} (hrow : t.operations.find? operationId = some row)
    (hsame : row'.operation = row.operation) (id : String) (found : OperationRow)
    (hfound : (t.operations.put operationId row').find? id = some found) :
    ∃ found', t.operations.find? id = some found' ∧ found'.operation = found.operation ∧
      (found' = found ∨ found = row' ∧ found' = row ∧ id = operationId) := by
  rw [find?_put] at hfound
  split at hfound
  · rename_i hid
    cases hfound
    exact ⟨row, hid ▸ hrow, hsame.symm, Or.inr ⟨rfl, rfl, hid⟩⟩
  · exact ⟨found, hfound, rfl, Or.inl rfl⟩

theorem complete_of_put (row' : OperationRow) (hrow : t.operations.find? operationId = some row)
    (hincomplete : row.state ≠ .complete) (id : String) (found : OperationRow)
    (hfound : t.operations.find? id = some found) (hcomplete : found.state = .complete) :
    (t.operations.put operationId row').find? id = some found := by
  rw [find?_put, if_neg, hfound]
  rintro rfl
  obtain rfl := mem_unique hrow hfound
  exact hincomplete hcomplete

theorem operation (h : Booked services t) (row' : OperationRow)
    (hrow : t.operations.find? operationId = some row) (hsame : row'.operation = row.operation)
    (hbefore : row.state ≠ .complete) (hafter : row'.state ≠ .complete)
    (hpublished : row'.Published services) :
    Booked services (t.withOperation operationId row') := by
  have hfind := operation_of_put hrow hsame
  have hkept := complete_of_put row' hrow hbefore
  refine ⟨?_, ?_, ?_, ?_, ?_, ?_, h.latest, ?_⟩
  · intro id found hfound
    obtain ⟨found', hfound', hoperation, -⟩ := hfind id found hfound
    rw [← hoperation]
    exact h.keyed id found' hfound'
  · intro id found hfound
    obtain ⟨found', hfound', hoperation, -⟩ := hfind id found hfound
    rw [← hoperation]
    exact h.fenced id found' hfound'
  · intro id id' found other hfound hother
    obtain ⟨found', hfound', hoperation, -⟩ := hfind id found hfound
    obtain ⟨other', hother', hoperation', -⟩ := hfind id' other hother
    rw [← hoperation, ← hoperation']
    exact h.distinct id id' found' other' hfound' hother'
  · intro id found hfound
    obtain ⟨found', hfound', -, rfl | ⟨rfl, -⟩⟩ := hfind id found hfound
    · exact h.published id found' hfound'
    · exact hpublished
  · intro key generation hgeneration
    obtain ⟨found, hfound, hcomplete, hkey⟩ := h.generated key generation hgeneration
    exact ⟨found, hkept _ _ hfound hcomplete, hcomplete, hkey⟩
  · intro id found hfound hcomplete
    obtain ⟨found', hfound', -, rfl | ⟨rfl, -⟩⟩ := hfind id found hfound
    · exact h.completed id found' hfound' hcomplete
    · exact absurd hcomplete hafter
  · intro id id' found other hfound hother hepoch hcomplete
    obtain ⟨found', hfound', hoperation, hsame | ⟨rfl, -⟩⟩ := hfind id found hfound
    · obtain ⟨other', hother', hoperation', -⟩ := hfind id' other hother
      rw [← hoperation, ← hoperation']
      rw [← hoperation, ← hoperation'] at hepoch
      exact h.ordered id id' found' other' hfound' hother' hepoch (hsame ▸ hcomplete)
    · exact absurd hcomplete hafter

theorem reserve (h : Booked services t) {enrollment : EnrollmentRow}
    (hfresh : t.enrollments.find? enrollmentEpoch = none)
    (hgeneration : enrollment.activeMembershipGeneration = none) :
    Booked services { t with enrollments := t.enrollments.put enrollmentEpoch enrollment } where
  keyed := h.keyed
  distinct := h.distinct
  published := h.published
  generated := h.generated
  completed := h.completed
  ordered := h.ordered
  fenced id row hoperation := by
    obtain ⟨current, hcurrent, hnot, hle⟩ := h.fenced id row hoperation
    refine ⟨current, ?_, hnot, hle⟩
    show (t.enrollments.put _ _).find? _ = some current
    rw [find?_put, if_neg, hcurrent]
    rintro hsame
    rw [hsame, hfresh] at hcurrent
    cases hcurrent
  latest epoch current hcurrent := by
    change (t.enrollments.put _ _).find? _ = some current at hcurrent
    rw [find?_put] at hcurrent
    by_cases hsame : epoch = enrollmentEpoch
    · rw [if_pos hsame] at hcurrent
      cases hcurrent
      rw [hgeneration, hsame]
      refine Set.eq_empty_of_forall_notMem fun generation hmem => ?_
      -- a generation would be of an operation of the enrollment
      obtain ⟨found, hfound⟩ := isSome_iff_exists.mp hmem
      obtain ⟨row, hrow, -, hkey⟩ := h.generated _ _ hfound
      obtain ⟨other, hother, -⟩ := h.fenced _ _ hrow
      rw [(Prod.mk.inj hkey).1, hfresh] at hother
      cases hother
    · rw [if_neg hsame] at hcurrent
      exact h.latest _ _ hcurrent

theorem remove (h : Booked services t) {enrollment : EnrollmentRow}
    (hrow : t.enrollments.find? enrollmentEpoch = some enrollment)
    (hpending : enrollment.state = .pending) :
    Booked services { t with enrollments := t.enrollments.delete enrollmentEpoch } where
  keyed := h.keyed
  distinct := h.distinct
  published := h.published
  generated := h.generated
  completed := h.completed
  ordered := h.ordered
  fenced id row hoperation := by
    obtain ⟨current, hcurrent, hnot, hle⟩ := h.fenced id row hoperation
    refine ⟨current, ?_, hnot, hle⟩
    show (t.enrollments.delete _).find? _ = some current
    rw [find?_delete, if_neg, hcurrent]
    rintro hsame
    rw [hsame, hrow] at hcurrent
    exact hnot (some.inj hcurrent ▸ hpending)
  latest epoch current hcurrent := by
    change (t.enrollments.delete _).find? _ = some current at hcurrent
    rw [find?_delete] at hcurrent
    split at hcurrent
    · cases hcurrent
    · exact h.latest _ _ hcurrent

theorem le_latestGeneration {generation : ℕ} (hmem : generation ∈ t.generationsOf enrollmentEpoch) :
    generation ≤ t.latestGeneration enrollmentEpoch := by
  obtain ⟨row, hrow⟩ := isSome_iff_exists.mp hmem
  unfold ConnectorTables.latestGeneration
  refine List.le_max_of_le ?_ le_rfl
  refine List.mem_map.mpr ⟨((enrollmentEpoch, generation), row), ?_, rfl⟩
  exact List.mem_filter.mpr ⟨mem_rows.mpr hrow, by simp⟩

theorem begin (h : Booked services t) {enrollment : EnrollmentRow}
    (enrollment' : EnrollmentRow) (row : OperationRow)
    (hrow : t.enrollments.find? row.operation.enrollmentEpoch = some enrollment)
    (hgeneration : enrollment'.activeMembershipGeneration = enrollment.activeMembershipGeneration)
    (hfence : row.operation.reconciliationFence = enrollment.operationFence + 1)
    (hfence' : enrollment'.operationFence = row.operation.reconciliationFence)
    (hstate : enrollment'.state ≠ .pending)
    (hproposed : row.operation.proposedMembershipGeneration =
      t.latestGeneration row.operation.enrollmentEpoch + 1)
    (hfresh : t.operations.find? row.operation.operationId = none)
    (hincomplete : row.state ≠ .complete) (hpublished : row.Published services) :
    Booked services { t with
      enrollments := t.enrollments.put row.operation.enrollmentEpoch enrollment'
      operations := t.operations.put row.operation.operationId row } := by
  obtain ⟨keyed, fenced, distinct, published, generated, completed, latest, ordered⟩ :=
    h.enrollment enrollment' hrow hgeneration (by omega) fun _ => hstate
  -- an operation is the new one, or it has a smaller fence if it is of the same enrollment
  have hfind : ∀ id found, (t.operations.put row.operation.operationId row).find? id = some found →
      (found = row ∧ id = row.operation.operationId) ∨ t.operations.find? id = some found ∧
          (found.operation.enrollmentEpoch = row.operation.enrollmentEpoch →
            found.operation.reconciliationFence < row.operation.reconciliationFence) := by
    intro id found hfound
    rw [find?_put] at hfound
    split at hfound
    · rename_i hid
      exact Or.inl ⟨(some.inj hfound).symm, hid⟩
    · refine Or.inr ⟨hfound, fun hepoch => ?_⟩
      obtain ⟨current, hcurrent, -, hle⟩ := h.fenced id found hfound
      rw [hepoch, hrow] at hcurrent
      cases hcurrent
      omega
  have hkept : ∀ id found, t.operations.find? id = some found →
      (t.operations.put row.operation.operationId row).find? id = some found := by
    intro id found hfound
    rw [find?_put, if_neg, hfound]
    rintro rfl
    rw [hfresh] at hfound
    cases hfound
  refine ⟨?_, ?_, ?_, ?_, ?_, ?_, latest, ?_⟩
  · intro id found hfound
    obtain ⟨rfl, rfl⟩ | ⟨hold, -⟩ := hfind id found hfound
    · rfl
    · exact keyed id found hold
  · intro id found hfound
    obtain ⟨rfl, rfl⟩ | ⟨hold, -⟩ := hfind id found hfound
    · exact ⟨enrollment', (find?_put _ _ _ _).trans (if_pos rfl), hstate, hfence'.ge⟩
    · exact fenced id found hold
  · intro id id' found other hfound hother hepoch hsame
    obtain ⟨rfl, rfl⟩ | ⟨hold, hlt⟩ := hfind id found hfound
    · obtain ⟨-, rfl⟩ | ⟨-, hlt⟩ := hfind id' other hother
      · rfl
      · have := hlt hepoch.symm
        omega
    · obtain ⟨rfl, rfl⟩ | ⟨hold', -⟩ := hfind id' other hother
      · have := hlt hepoch
        omega
      · exact distinct id id' found other hold hold' hepoch hsame
  · intro id found hfound
    obtain ⟨rfl, rfl⟩ | ⟨hold, -⟩ := hfind id found hfound
    · exact hpublished
    · exact published id found hold
  · intro key generation hgenerated
    obtain ⟨found, hfound, hcomplete, hkey⟩ := generated key generation hgenerated
    exact ⟨found, hkept _ _ hfound, hcomplete, hkey⟩
  · intro id found hfound hcomplete
    obtain ⟨rfl, rfl⟩ | ⟨hold, -⟩ := hfind id found hfound
    · exact absurd hcomplete hincomplete
    · exact completed id found hold hcomplete
  · intro id id' found other hfound hother hepoch hcomplete hlt
    obtain ⟨rfl, rfl⟩ | ⟨hold, hbelow⟩ := hfind id found hfound
    · exact absurd hcomplete hincomplete
    · obtain ⟨rfl, rfl⟩ | ⟨hold', -⟩ := hfind id' other hother
      · -- its generation is there already
        obtain ⟨generation, hgenerated, -⟩ := h.completed id found hold hcomplete
        have hle := le_latestGeneration (isSome_iff_exists.mpr ⟨_, hgenerated⟩)
        rw [hepoch] at hle
        omega
      · exact ordered id id' found other hold hold' hepoch hcomplete hlt

theorem below (h : Booked services t) {enrollment : EnrollmentRow}
    (hrow : t.operations.find? operationId = some row)
    (henrollment : t.enrollments.find? row.operation.enrollmentEpoch = some enrollment)
    (hincomplete : row.state ≠ .complete)
    (hfence : enrollment.operationFence = row.operation.reconciliationFence) {generation : ℕ}
    (hmem : generation ∈ t.generationsOf row.operation.enrollmentEpoch) :
    generation < row.operation.proposedMembershipGeneration := by
  obtain ⟨found, hfound⟩ := isSome_iff_exists.mp hmem
  obtain ⟨other, hother, hcomplete, hkey⟩ := h.generated _ _ hfound
  obtain ⟨hepoch, rfl⟩ := Prod.mk.inj hkey
  obtain ⟨current, hcurrent, -, hle⟩ := h.fenced _ _ hother
  rw [hepoch, henrollment] at hcurrent
  cases hcurrent
  refine h.ordered _ _ _ _ hother hrow hepoch hcomplete (lt_of_le_of_ne (by omega) fun hsame => ?_)
  -- two operations of one enrollment do not hold one fence
  have hid := h.distinct _ _ _ _ hother hrow hepoch hsame
  rw [hid, hrow] at hother
  exact hincomplete (some.inj hother ▸ hcomplete)

theorem complete (h : Booked services t) (row' : OperationRow) {enrollment : EnrollmentRow}
    {generation : GenerationRow} (hrow : t.operations.find? row.operation.operationId = some row)
    (hsame : row'.operation = row.operation) (hincomplete : row.state ≠ .complete)
    (hcomplete : row'.state = .complete) (hpublished : row'.Published services)
    (henrollment : t.enrollments.find? row.operation.enrollmentEpoch = some enrollment)
    (hfence : enrollment.operationFence = row.operation.reconciliationFence)
    (hown : generation.operationId = row.operation.operationId) :
    Booked services { t with
      generations := t.generations.put
        (row.operation.enrollmentEpoch, row.operation.proposedMembershipGeneration) generation
      enrollments := t.enrollments.put row.operation.enrollmentEpoch { enrollment with
          activeMembershipGeneration := some row.operation.proposedMembershipGeneration }
      operations := t.operations.put row.operation.operationId row' } := by
  have hfind := operation_of_put hrow hsame
  have hkept := complete_of_put row' hrow hincomplete
  have hbelow : ∀ number ∈ t.generationsOf row.operation.enrollmentEpoch,
      number < row.operation.proposedMembershipGeneration :=
    fun _ => h.below hrow henrollment hincomplete hfence
  refine ⟨?_, ?_, ?_, ?_, ?_, ?_, ?_, ?_⟩
  · intro id found hfound
    obtain ⟨found', hfound', hoperation, -⟩ := hfind id found hfound
    rw [← hoperation]
    exact h.keyed id found' hfound'
  · intro id found hfound
    obtain ⟨found', hfound', hoperation, -⟩ := hfind id found hfound
    rw [← hoperation]
    obtain ⟨current, hcurrent, hnot, hle⟩ := h.fenced id found' hfound'
    show ∃ current, (t.enrollments.put _ _).find? _ = some current ∧ _
    rw [find?_put]
    split
    · rename_i hepoch
      rw [hepoch, henrollment] at hcurrent
      cases hcurrent
      exact ⟨_, rfl, hnot, hle⟩
    · exact ⟨current, hcurrent, hnot, hle⟩
  · intro id id' found other hfound hother
    obtain ⟨found', hfound', hoperation, -⟩ := hfind id found hfound
    obtain ⟨other', hother', hoperation', -⟩ := hfind id' other hother
    rw [← hoperation, ← hoperation']
    exact h.distinct id id' found' other' hfound' hother'
  · intro id found hfound
    obtain ⟨found', hfound', -, rfl | ⟨rfl, -⟩⟩ := hfind id found hfound
    · exact h.published id found' hfound'
    · exact hpublished
  · intro key found hfound
    change (t.generations.put _ _).find? key = some found at hfound
    rw [find?_put] at hfound
    split at hfound
    · rename_i hkey
      cases hfound
      refine ⟨row', ?_, hcomplete, by rw [hsame, hkey]⟩
      rw [hown]
      exact (find?_put _ _ _ _).trans (if_pos rfl)
    · obtain ⟨other, hother, hdone, hkey⟩ := h.generated key found hfound
      exact ⟨other, hkept _ _ hother hdone, hdone, hkey⟩
  · intro id found hfound hdone
    obtain ⟨found', hfound', -, rfl | ⟨rfl, rfl, rfl⟩⟩ := hfind id found hfound
    · obtain ⟨own, hown', howned⟩ := h.completed id found' hfound' hdone
      refine ⟨own, ?_, howned⟩
      show (t.generations.put _ _).find? _ = some own
      rw [find?_put, if_neg, hown']
      intro hkey
      obtain ⟨hepoch, hnumber⟩ := Prod.mk.inj hkey
      rw [hepoch, hnumber] at hown'
      exact lt_irrefl _ (hbelow _ (isSome_iff_exists.mpr ⟨own, hown'⟩))
    · refine ⟨generation, ?_, hown⟩
      rw [hsame]
      exact (find?_put _ _ _ _).trans (if_pos rfl)
  · intro epoch current hcurrent
    change (t.enrollments.put _ _).find? epoch = some current at hcurrent
    rw [find?_put] at hcurrent
    split at hcurrent
    · rename_i hepoch
      cases hcurrent
      rw [hepoch]
      constructor
      · show ((t.generations.put _ _).find? _).isSome
        rw [find?_put, if_pos rfl]
        rfl
      · intro number hmem
        change ((t.generations.put _ _).find? _).isSome at hmem
        rw [find?_put] at hmem
        split at hmem
        · rename_i hkey
          exact (Prod.mk.inj hkey).2.le
        · exact (hbelow number hmem).le
    · rename_i hepoch
      have hsame : { t with
          generations := t.generations.put
            (row.operation.enrollmentEpoch, row.operation.proposedMembershipGeneration) generation
          }.generationsOf epoch = t.generationsOf epoch := by
        ext number
        show ((t.generations.put _ _).find? _).isSome ↔ _
        rw [find?_put, if_neg]
        · rfl
        · exact fun hkey => hepoch (Prod.mk.inj hkey).1
      exact hsame ▸ h.latest epoch current hcurrent
  · intro id id' found other hfound hother hepoch hdone hlt
    obtain ⟨found', hfound', hoperation, hsame'⟩ := hfind id found hfound
    obtain ⟨other', hother', hoperation', -⟩ := hfind id' other hother
    rw [← hoperation, ← hoperation'] at hepoch hlt ⊢
    obtain rfl | ⟨-, rfl, -⟩ := hsame'
    · exact h.ordered id id' found' other' hfound' hother' hepoch hdone hlt
    · -- no operation of the enrollment holds a larger fence
      obtain ⟨current, hcurrent, -, hle⟩ := h.fenced id' other' hother'
      rw [← hepoch, henrollment] at hcurrent
      cases hcurrent
      omega

theorem pending_none (h : Booked services t) {enrollment : EnrollmentRow}
    (hrow : t.enrollments.find? enrollmentEpoch = some enrollment)
    (hpending : enrollment.state = .pending) : enrollment.activeMembershipGeneration = none := by
  have hlatest := h.latest _ _ hrow
  cases hactive : enrollment.activeMembershipGeneration with
  | none => rfl
  | some generation =>
    rw [hactive] at hlatest
    obtain ⟨found, hfound⟩ := isSome_iff_exists.mp hlatest.1
    obtain ⟨row, hoperation, -, hkey⟩ := h.generated _ _ hfound
    obtain ⟨other, hother, hnot, -⟩ := h.fenced _ _ hoperation
    rw [(Prod.mk.inj hkey).1, hrow] at hother
    exact absurd (some.inj hother ▸ hpending) hnot

theorem fresh_of_clashes {operation : PhotoKitOperation} {nowMs : ℤ} {enrollment : EnrollmentRow}
    {fence : ℕ}
    (h : (t.raised enrollmentEpoch enrollment fence).operationClashes (.begun operation nowMs) =
      false) : t.operations.find? operation.operationId = none := by
  simp only [ConnectorTables.operationClashes, decide_eq_false_iff_not, not_or,
    Bool.not_eq_true, isSome_eq_false_iff, isNone_iff_eq_none] at h
  exact h.1

theorem published_of_not_terminal (h : row.state.isTerminal = false) : row.Published services := by
  intro hterminal
  rw [h] at hterminal
  cases hterminal

section Moves

variable {operation : PhotoKitOperation} {publication : PhotoKitPublication}
  {enrollment : EnrollmentRow} {nowMs : ℤ}

section

variable (h : Booked services t)

include h

theorem closed (hclosed : Closed services t t' nowMs enrollment operation publication) :
    Booked services t' := by
  obtain ⟨connector, revisions, heads, revision, -, rfl⟩ := hclosed.moved
  refine (h.begin (enrollment.closed nowMs) ((OperationRow.begun operation nowMs).published .failed
      (some "scope_unavailable") none publication nowMs) hclosed.enrollment_eq rfl hclosed.fence
    hclosed.fence.symm ?_ hclosed.generation (fresh_of_clashes hclosed.fresh) ?_ ?_).congr
    rfl rfl rfl
  · exact fun hstate => nomatch hstate
  · exact fun hstate => nomatch hstate
  · exact fun _ => ⟨publication, rfl, hclosed.valid⟩

theorem followed {enrollmentEpoch : String} (hfollowed : Followed t t' enrollmentEpoch) :
    Booked services t' := by
  obtain ⟨row, locator, connector, nowMs, hrow, -, -, -, -, -, -, rfl⟩ := hfollowed.moved
  refine (h.enrollment (row.followed nowMs) hrow rfl le_rfl fun _ => ?_).congr
    rfl rfl rfl
  exact fun hstate => nomatch hstate

theorem begun (hbegun : Begun t t' operation nowMs enrollment) : Booked services t' := by
  obtain ⟨authorization, rfl⟩ := hbegun.moved
  refine (h.begin
    { enrollment with operationFence := operation.reconciliationFence } (.begun operation nowMs)
    hbegun.enrollment_eq rfl hbegun.fence rfl ?_
    hbegun.generation (fresh_of_clashes hbegun.fresh) ?_ ?_).congr rfl rfl rfl
  · exact fun hstate => nomatch hbegun.active.symm.trans hstate
  · exact fun hstate => nomatch hstate
  · exact published_of_not_terminal rfl

theorem recorded {observation : ObservationRow} (hgenuine : t.Genuine operation)
    (hrecorded : Recorded t t' operation observation) : Booked services t' := by
  obtain ⟨row, locators, hrow, -, -, rfl⟩ := hrecorded.moved
  obtain ⟨row', -, hrow', -, hstate, -⟩ := hgenuine.current hrecorded.current
  obtain rfl := mem_unique hrow hrow'
  refine (h.operation { row with observedCount := row.observedCount + 1 } hrow rfl
    ?_ ?_ ?_).congr rfl rfl rfl
  · simp [hstate]
  · simp [hstate]
  · exact published_of_not_terminal (by simp [hstate, OperationState.isTerminal])

theorem marked (hmarked : Marked t t' operation) : Booked services t' := by
  obtain ⟨row, hrow, hstate, -, rfl⟩ := hmarked.moved
  refine h.operation _ hrow rfl (by simp [hstate]) (fun hstate => nomatch hstate) ?_
  exact published_of_not_terminal rfl

theorem withheld (hgenuine : t.Genuine operation)
    (hwithheld : Withheld services t t' operation publication) : Booked services t' := by
  obtain ⟨row, connector, revisions, heads, revision, reason, nowMs, hrow, hlive, -, rfl⟩ :=
    hwithheld.moved
  obtain ⟨row', hrow', hoperation⟩ := hgenuine
  obtain rfl := mem_unique hrow hrow'
  refine (h.operation (row.published .failed reason none publication nowMs) hrow rfl
    (fun hstate => ?_) (fun hstate => nomatch hstate) fun _ => ?_).congr rfl rfl rfl
  · rw [hstate] at hlive
    cases hlive
  · refine ⟨publication, rfl, ?_⟩
    rw [show (row.published .failed reason none publication nowMs).operation = operation from
      hoperation]
    exact hwithheld.valid

theorem completes {observations : List PhotoKitFinalizedObservation} {row : OperationRow}
    {generation : GenerationRow} (hgenuine : t.Genuine operation)
    (hcompleted : Completed services t t' operation observations publication row enrollment
      generation) : Booked services t' := by
  obtain ⟨row', current, hrow', rfl, hstate, hcurrent, -, hfence, -⟩ :=
    hgenuine.current hcompleted.current
  obtain rfl := some.inj (hcompleted.row_eq.symm.trans hrow')
  obtain rfl := some.inj (hcompleted.enrollment_eq.symm.trans hcurrent)
  obtain ⟨acceptedBytes, nowMs, hoperations⟩ := hcompleted.operations_eq
  refine (h.complete (row.published .complete none acceptedBytes publication nowMs) hrow'
    rfl (by simp [hstate]) rfl ?_ hcurrent hfence hcompleted.own).congr hcompleted.enrollments_eq
    hoperations hcompleted.generations_eq
  exact fun _ => ⟨publication, rfl, hcompleted.valid⟩

theorem interrupted {operationId : String} (hinterrupted : Interrupted t t' operationId) :
    Booked services t' := by
  obtain ⟨row, nowMs, hrow, hlive, rfl⟩ := hinterrupted.moved
  refine (h.operation (row.interrupted nowMs) hrow rfl (fun hstate => ?_)
    (fun hstate => nomatch hstate) (published_of_not_terminal rfl)).congr rfl rfl rfl
  rw [hstate] at hlive
  cases hlive

/-- **A move** keeps the books in order. -/
theorem move (hmove : Move services t t') : Booked services t' := by
  cases hmove with
  | reserved keyReference allowIcloudDownloads nowMs hfresh => exact h.reserve hfresh rfl
  | removed hrow hpending => exact (h.remove hrow hpending).congr rfl rfl rfl
  | closed hclosed => exact h.closed hclosed
  | followed hfollowed => exact h.followed hfollowed
  | unfollowed hunfollowed =>
    obtain ⟨connector, revision, receipts, -, -, -, rfl⟩ := hunfollowed.moved
    exact h.congr rfl rfl rfl
  | noted receipts => exact h.congr rfl rfl rfl
  | begun hbegun => exact h.begun hbegun
  | recorded hgenuine hrecorded => exact h.recorded hgenuine hrecorded
  | marked hgenuine hmarked => exact h.marked hmarked
  | attempted hgenuine hattempted =>
    obtain ⟨attempt, rfl⟩ := hattempted.moved
    exact h.congr rfl rfl rfl
  | withheld hgenuine hwithheld => exact h.withheld hgenuine hwithheld
  | completed hgenuine hcompleted => exact h.completes hgenuine hcompleted
  | interrupted hinterrupted => exact h.interrupted hinterrupted
  | settled hsettled =>
    obtain ⟨state, updatedAtMs, rfl⟩ := hsettled.moved
    exact h.congr rfl rfl rfl

end

end Moves

end Booked

end Threadbook.PhotoKit
