import Threadbook.ConnectorInvariant

/-!
# Members, counts, and what stays

The members of a generation are what its operation has observed (`Rostered`), and the connector
counts the heads of the enrollment that is followed (`Counted`). Operations stay, those that have
ended as they are, and generations only rise (`Onward`).
-/

namespace Threadbook.PhotoKit

open Table List

variable {services : ConnectorServices} {t t' : ConnectorTables}

/-! ## Members -/

structure Rostered (t : ConnectorTables) : Prop where
  owned : ∀ member ∈ t.members,
    (t.generations.find? (member.enrollmentEpoch, member.membershipGeneration)).isSome
  rosters : ∀ key generation, t.generations.find? key = some generation →
    ((t.membersOf key.1 key.2).map fun member => (member.ordinal, member.assetId)) =
      (t.observationsOf generation.operationId).map fun row => (row.ordinal, row.assetId)

theorem Rostered.congr (h : Rostered t) (hbooked : Booked services t)
    (hmembers : t'.members = t.members) (hgenerations : t'.generations = t.generations)
    (hobservations : ∀ id row, t.operations.find? id = some row → row.state = .complete →
      t'.observationsOf id = t.observationsOf id) : Rostered t' where
  owned member hmember := by
    rw [hmembers] at hmember
    rw [hgenerations]
    exact h.owned member hmember
  rosters key generation hgeneration := by
    rw [hgenerations] at hgeneration
    obtain ⟨row, hrow, hcomplete, -⟩ := hbooked.generated key generation hgeneration
    rw [hobservations _ row hrow hcomplete, ← h.rosters key generation hgeneration]
    unfold ConnectorTables.membersOf
    rw [hmembers]

variable {operationId : String}

theorem observationsOf_congr {s s' : ConnectorTables}
    (h : (s'.observations.filter fun row => row.operationId = operationId) =
      s.observations.filter fun row => row.operationId = operationId) :
    s'.observationsOf operationId = s.observationsOf operationId := by
  unfold ConnectorTables.observationsOf
  rw [h]

theorem observationsOf_cleaned {other : String} (hne : other ≠ operationId) :
    (t.cleaned operationId).observationsOf other = t.observationsOf other := by
  refine observationsOf_congr ?_
  show (t.observations.filter _).filter _ = _
  rw [filter_filter]
  refine filter_congr fun row _ => ?_
  by_cases hrow : row.operationId = other
  · simp [hrow, hne]
  · simp [hrow]

theorem roster_of_enlisted {rows : List ObservationRow}
    {results : List PhotoKitFinalizedObservation} {members : List MemberRow}
    (haligned : rows.map ObservationRow.ordinal =
      results.map PhotoKitFinalizedObservation.ordinal)
    (h : List.Forall₂ (fun (member : MemberRow) observation =>
      member.ordinal = PhotoKitFinalizedObservation.ordinal observation.2 ∧
        member.assetId = ObservationRow.assetId observation.1) members (rows.zip results)) :
    (members.map fun member => (member.ordinal, member.assetId)) =
      rows.map fun row => (row.ordinal, row.assetId) := by
  induction rows generalizing results members with
  | nil =>
    rw [zip_nil_left] at h
    rw [forall₂_nil_right_iff.mp h]
    rfl
  | cons row rest ih =>
    cases results with
    | nil => cases haligned
    | cons result results =>
      obtain ⟨hordinal, haligned⟩ := cons.inj haligned
      rw [zip_cons_cons] at h
      obtain ⟨member, members', ⟨hsame, hasset⟩, hrest, rfl⟩ := forall₂_cons_right_iff.mp h
      rw [map_cons, map_cons, ih haligned hrest, hsame, hasset, hordinal]

variable {operation : PhotoKitOperation}

theorem Rostered.completed (h : Rostered t) {observations : List PhotoKitFinalizedObservation}
    {publication : PhotoKitPublication} {row : OperationRow} {enrollment : EnrollmentRow}
    {generation : GenerationRow}
    (hcompleted : Completed services t t' operation observations publication row enrollment
      generation) : Rostered t' := by
  obtain ⟨members, hmembers, hall⟩ := hcompleted.enlisted.members
  obtain ⟨hepochs, hall⟩ := (forall₂_and_left _ _).mp hall
  obtain ⟨hnumbers, hall⟩ := (forall₂_and_left _ _).mp hall
  have hfresh : t.generations.find?
      (operation.enrollmentEpoch, operation.proposedMembershipGeneration) = none := by
    have := hcompleted.fresh
    simp only [ConnectorTables.generationClashes, decide_eq_false_iff_not, not_or,
      Bool.not_eq_true, Option.isSome_eq_false_iff, Option.isNone_iff_eq_none] at this
    exact this.1
  constructor
  · intro member hmember
    rw [hcompleted.generations_eq, find?_put]
    split
    · rfl
    · rename_i hkey
      rw [hmembers, mem_append] at hmember
      obtain hmember | hmember := hmember
      · exact h.owned member hmember
      · exact absurd (Prod.ext (hepochs member hmember) (hnumbers member hmember)) hkey
  · intro key found hfound
    rw [hcompleted.generations_eq, find?_put] at hfound
    have hobserved : t'.observationsOf found.operationId = t.observationsOf found.operationId :=
      observationsOf_congr (by rw [hcompleted.observations_eq])
    rw [hobserved, ConnectorTables.membersOf, hmembers, filter_append]
    split at hfound
    · rename_i hkey
      cases hfound
      subst hkey
      -- nobody was a member before, and whoever was added is one
      rw [filter_eq_nil_iff.mpr, filter_eq_self.mpr, nil_append, hcompleted.own]
      · exact roster_of_enlisted hcompleted.aligned hall
      · intro member hmember
        simp [hepochs member hmember, hnumbers member hmember]
      · intro member hmember hsame
        simp only [decide_eq_true_eq] at hsame
        have howned := h.owned member hmember
        rw [hsame.1, hsame.2, hfresh] at howned
        cases howned
    · rename_i hkey
      have hnone : (members.filter fun row =>
          row.enrollmentEpoch = key.1 ∧ row.membershipGeneration = key.2) = [] := by
        refine filter_eq_nil_iff.mpr fun member hmember hsame => ?_
        simp only [decide_eq_true_eq, hepochs member hmember, hnumbers member hmember] at hsame
        exact hkey (Prod.ext hsame.1.symm hsame.2.symm)
      rw [hnone, append_nil]
      exact h.rosters key found hfound

theorem ne_of_incomplete {id : String} {row found : OperationRow}
    (hrow : t.operations.find? operationId = some row) (hstate : row.state ≠ .complete)
    (hfound : t.operations.find? id = some found) (hcomplete : found.state = .complete) :
    id ≠ operationId := by
  rintro rfl
  exact hstate (Option.mem_unique hrow hfound ▸ hcomplete)

theorem ne_complete_of_isLive {state : OperationState} (h : state.isLive) : state ≠ .complete := by
  rintro rfl
  cases h

theorem Rostered.recorded (h : Rostered t) (hbooked : Booked services t)
    {observation : ObservationRow} (hgenuine : t.Genuine operation)
    (hrecorded : Recorded t t' operation observation) : Rostered t' := by
  obtain ⟨row, -, hrow, -, hstate, -⟩ := hgenuine.current hrecorded.current
  have hown := hrecorded.own
  obtain ⟨-, locators, -, -, -, rfl⟩ := hrecorded.moved
  refine h.congr hbooked rfl rfl fun id found hfound hcomplete => observationsOf_congr ?_
  have hne := ne_of_incomplete hrow (by simp [hstate]) hfound hcomplete
  show (t.observations ++ [observation]).filter _ = _
  rw [filter_append, append_right_eq_self, filter_singleton]
  simp [hown, Ne.symm hne]

/-- **A move** keeps the members what was observed. -/
theorem Rostered.move (h : Rostered t) (hbooked : Booked services t)
    (hmove : Move services t t') : Rostered t' := by
  cases hmove with
  | reserved keyReference allowIcloudDownloads nowMs hfresh =>
    exact h.congr hbooked rfl rfl fun _ _ _ _ => rfl
  | removed hrow hpending => exact h.congr hbooked rfl rfl fun _ _ _ _ => rfl
  | closed hclosed =>
    obtain ⟨connector, revisions, heads, revision, -, rfl⟩ := hclosed.moved
    exact h.congr hbooked rfl rfl fun _ _ _ _ => rfl
  | followed hfollowed =>
    obtain ⟨row, locator, connector, nowMs, -, -, -, -, -, -, -, rfl⟩ := hfollowed.moved
    exact h.congr hbooked rfl rfl fun _ _ _ _ => rfl
  | unfollowed hunfollowed =>
    obtain ⟨connector, revision, receipts, -, -, -, rfl⟩ := hunfollowed.moved
    exact h.congr hbooked rfl rfl fun _ _ _ _ => rfl
  | noted receipts => exact h.congr hbooked rfl rfl fun _ _ _ _ => rfl
  | begun hbegun =>
    obtain ⟨authorization, rfl⟩ := hbegun.moved
    exact h.congr hbooked rfl rfl fun _ _ _ _ => rfl
  | recorded hgenuine hrecorded => exact h.recorded hbooked hgenuine hrecorded
  | marked hgenuine hmarked =>
    obtain ⟨row, -, -, -, rfl⟩ := hmarked.moved
    exact h.congr hbooked rfl rfl fun _ _ _ _ => rfl
  | attempted hgenuine hattempted =>
    obtain ⟨attempt, rfl⟩ := hattempted.moved
    exact h.congr hbooked rfl rfl fun _ _ _ _ => rfl
  | withheld hgenuine hwithheld =>
    obtain ⟨row, connector, revisions, heads, revision, reason, nowMs, hrow, hlive, -, rfl⟩ :=
      hwithheld.moved
    refine h.congr hbooked rfl rfl fun id found hfound hcomplete => ?_
    exact observationsOf_cleaned
      (ne_of_incomplete hrow (ne_complete_of_isLive hlive) hfound hcomplete)
  | completed hgenuine hcompleted => exact h.completed hcompleted
  | interrupted hinterrupted =>
    obtain ⟨row, nowMs, hrow, hlive, rfl⟩ := hinterrupted.moved
    refine h.congr hbooked rfl rfl fun id found hfound hcomplete => ?_
    exact observationsOf_cleaned
      (ne_of_incomplete hrow (ne_complete_of_isLive hlive) hfound hcomplete)
  | settled hsettled =>
    obtain ⟨state, updatedAtMs, rfl⟩ := hsettled.moved
    exact h.congr hbooked rfl rfl fun _ _ _ _ => rfl

/-! ## Counts -/

structure Counted (t : ConnectorTables) : Prop where
  followed : ∀ enrollmentEpoch, t.connector.activeEnrollmentEpoch = some enrollmentEpoch →
    ∃ enrollment, t.enrollments.find? enrollmentEpoch = some enrollment ∧
      enrollment.state ≠ .pending ∧
      t.connector.activeMembershipGeneration = enrollment.activeMembershipGeneration ∧
      t.connector.counts = t.headCounts enrollmentEpoch
  unfollowed : t.connector.activeEnrollmentEpoch = none →
    t.connector.activeMembershipGeneration = none ∧ t.connector.counts = (0, 0, 0)
  assets : ∀ assetId row, t.assets.find? assetId = some row →
    ∃ enrollment, t.enrollments.find? row.enrollmentEpoch = some enrollment ∧
      enrollment.activeMembershipGeneration.isSome

def GenerationsKept (enrollments enrollments' : Table String EnrollmentRow) : Prop :=
  ∀ epoch enrollment, enrollments.find? epoch = some enrollment →
    (∃ enrollment', enrollments'.find? epoch = some enrollment' ∧
      (enrollment.state ≠ .pending → enrollment'.state ≠ .pending) ∧
      enrollment'.activeMembershipGeneration = enrollment.activeMembershipGeneration) ∨
    enrollment.state = .pending ∧ enrollment.activeMembershipGeneration = none

namespace GenerationsKept

variable {enrollments : Table String EnrollmentRow} {enrollmentEpoch : String}

theorem refl : GenerationsKept enrollments enrollments :=
  fun _ enrollment hrow => .inl ⟨enrollment, hrow, id, rfl⟩

variable {enrollment : EnrollmentRow}

theorem changed {enrollment' : EnrollmentRow}
    (hrow : enrollments.find? enrollmentEpoch = some enrollment)
    (hgeneration : enrollment'.activeMembershipGeneration = enrollment.activeMembershipGeneration)
    (hstate : enrollment.state ≠ .pending → enrollment'.state ≠ .pending) :
    GenerationsKept enrollments (enrollments.put enrollmentEpoch enrollment') := by
  intro epoch current hcurrent
  left
  rw [find?_put]
  split
  · rename_i hepoch
    rw [hepoch, hrow] at hcurrent
    cases hcurrent
    exact ⟨enrollment', rfl, hstate, hgeneration⟩
  · exact ⟨current, hcurrent, id, rfl⟩

theorem reserved (hfresh : enrollments.find? enrollmentEpoch = none) :
    GenerationsKept enrollments (enrollments.put enrollmentEpoch enrollment) := by
  intro epoch current hcurrent
  refine .inl ⟨current, ?_, id, rfl⟩
  rw [find?_put, if_neg, hcurrent]
  rintro rfl
  rw [hfresh] at hcurrent
  cases hcurrent

theorem removed (hrow : enrollments.find? enrollmentEpoch = some enrollment)
    (hpending : enrollment.state = .pending)
    (hnone : enrollment.activeMembershipGeneration = none) :
    GenerationsKept enrollments (enrollments.delete enrollmentEpoch) := by
  intro epoch current hcurrent
  by_cases hsame : epoch = enrollmentEpoch
  · rw [hsame, hrow] at hcurrent
    cases hcurrent
    exact .inr ⟨hpending, hnone⟩
  · refine .inl ⟨current, ?_, id, rfl⟩
    rw [find?_delete, if_neg hsame, hcurrent]

end GenerationsKept

theorem headCounts_congr (hassets : t'.assets = t.assets) (hrevisions : t'.revisions = t.revisions)
    (hheads : t'.heads = t.heads) (enrollmentEpoch : String) :
    t'.headCounts enrollmentEpoch = t.headCounts enrollmentEpoch := by
  unfold ConnectorTables.headCounts ConnectorTables.headRevisions ConnectorTables.isAssetOf
    ConnectorTables.revision?
  rw [hassets, hrevisions, hheads]

theorem headCounts_of_no_assets {enrollmentEpoch : String}
    (h : ∀ assetId row, t.assets.find? assetId = some row → row.enrollmentEpoch ≠ enrollmentEpoch) :
    t.headCounts enrollmentEpoch = (0, 0, 0) := by
  have hnone : t.headRevisions enrollmentEpoch = [] := by
    refine filterMap_eq_nil_iff.mpr fun head _ => if_neg ?_
    unfold ConnectorTables.isAssetOf
    cases hrow : t.assets.find? head.1 with
    | none => simp
    | some row => simpa using h head.1 row hrow
  simp [ConnectorTables.headCounts, hnone]

namespace Counted

variable {enrollmentEpoch : String}

theorem no_assets (h : Counted t) {enrollment : EnrollmentRow}
    (hrow : t.enrollments.find? enrollmentEpoch = some enrollment)
    (hgeneration : enrollment.activeMembershipGeneration = none) {assetId : String} {row : AssetRow}
    (hasset : t.assets.find? assetId = some row) : row.enrollmentEpoch ≠ enrollmentEpoch := by
  rintro rfl
  obtain ⟨other, hother, hsome⟩ := h.assets assetId row hasset
  obtain rfl := Option.mem_unique hrow hother
  rw [hgeneration] at hsome
  cases hsome

theorem congr (h : Counted t) (hconnector : t'.connector.activeEnrollmentEpoch =
      t.connector.activeEnrollmentEpoch)
    (hgeneration : t'.connector.activeMembershipGeneration = t.connector.activeMembershipGeneration)
    (hcounts : t'.connector.counts = t.connector.counts)
    (henrollments : GenerationsKept t.enrollments t'.enrollments)
    (hassets : t'.assets = t.assets) (hrevisions : t'.revisions = t.revisions)
    (hheads : t'.heads = t.heads) : Counted t' where
  followed epoch hepoch := by
    rw [hconnector] at hepoch
    obtain ⟨enrollment, hrow, hstate, hactive, hcount⟩ := h.followed epoch hepoch
    obtain ⟨enrollment', hrow', hstate', hsame⟩ | ⟨hpending, -⟩ := henrollments epoch enrollment hrow
    · refine ⟨enrollment', hrow', hstate' hstate, ?_, ?_⟩
      · rw [hgeneration, hactive, hsame]
      · rw [hcounts, hcount, headCounts_congr hassets hrevisions hheads]
    · exact absurd hpending hstate
  unfollowed hnone := by
    rw [hconnector] at hnone
    rw [hgeneration, hcounts]
    exact h.unfollowed hnone
  assets assetId row hrow := by
    rw [hassets] at hrow
    obtain ⟨enrollment, henrollment, hsome⟩ := h.assets assetId row hrow
    obtain ⟨enrollment', hrow', -, hsame⟩ | ⟨-, hnone⟩ :=
      henrollments _ enrollment henrollment
    · exact ⟨enrollment', hrow', hsame ▸ hsome⟩
    · rw [hnone] at hsome
      cases hsome

theorem congr_same (h : Counted t) (hconnector : t'.connector.activeEnrollmentEpoch =
      t.connector.activeEnrollmentEpoch)
    (hgeneration : t'.connector.activeMembershipGeneration = t.connector.activeMembershipGeneration)
    (hcounts : t'.connector.counts = t.connector.counts)
    (henrollments : t'.enrollments = t.enrollments)
    (hassets : t'.assets = t.assets) (hrevisions : t'.revisions = t.revisions)
    (hheads : t'.heads = t.heads) : Counted t' := by
  refine h.congr hconnector hgeneration hcounts ?_ hassets hrevisions hheads
  rw [henrollments]
  exact .refl

variable {revisions : List RevisionRow}

theorem recounted (h : Counted t) {connector : ConnectorRow} {heads : Table String String}
    (hfollowed : t.connector.activeEnrollmentEpoch = some enrollmentEpoch)
    (hrecounted : Recounted t enrollmentEpoch connector revisions heads) :
    connector.counts =
      { t with revisions := revisions, heads := heads }.headCounts enrollmentEpoch := by
  obtain ⟨enrollment, hrow, -, -, hcount⟩ := h.followed _ hfollowed
  obtain ⟨hrevisions, hheads, hcounts⟩ | hcounts := hrecounted.counts
  · rw [hcounts, hcount]
    subst hrevisions hheads
    rfl
  · rw [hcounts, enrollmentCounts]
    split
    · rfl
    · rename_i hnone
      refine (headCounts_of_no_assets fun assetId row hasset => ?_).symm
      refine h.no_assets hrow ?_ hasset
      simpa [hrow] using hnone

theorem recount (h : Counted t) {connector : ConnectorRow} {heads : Table String String}
    (hfollowed : t.connector.activeEnrollmentEpoch = some enrollmentEpoch)
    (hrecounted : Recounted t enrollmentEpoch connector revisions heads)
    (hconnector : t'.connector = connector)
    (henrollments : GenerationsKept t.enrollments t'.enrollments) (hassets : t'.assets = t.assets)
    (hrevisions : t'.revisions = revisions) (hheads : t'.heads = heads) : Counted t' where
  followed epoch hepoch := by
    rw [hconnector, hrecounted.enrollment, hfollowed] at hepoch
    cases hepoch
    obtain ⟨enrollment, hrow, hstate, hactive, -⟩ := h.followed _ hfollowed
    obtain ⟨enrollment', hrow', hstate', hsame⟩ | ⟨hpending, -⟩ := henrollments _ enrollment hrow
    · refine ⟨enrollment', hrow', hstate' hstate, ?_, ?_⟩
      · rw [hconnector, hrecounted.generation, hactive, hsame]
      · rw [hconnector, h.recounted hfollowed hrecounted]
        have hsame := headCounts_congr (t := { t with revisions := revisions, heads := heads })
          hassets hrevisions hheads
        exact (hsame enrollmentEpoch).symm
    · exact absurd hpending hstate
  unfollowed hnone := by
    rw [hconnector, hrecounted.enrollment, hfollowed] at hnone
    cases hnone
  assets assetId row hrow := by
    rw [hassets] at hrow
    obtain ⟨enrollment, henrollment, hsome⟩ := h.assets assetId row hrow
    obtain ⟨enrollment', hrow', -, hsame⟩ | ⟨-, hnone⟩ :=
      henrollments _ enrollment henrollment
    · exact ⟨enrollment', hrow', hsame ▸ hsome⟩
    · rw [hnone] at hsome
      cases hsome

section Moves

variable {operation : PhotoKitOperation} {publication : PhotoKitPublication}
  {enrollment : EnrollmentRow}

theorem closed (h : Counted t) {nowMs : ℤ}
    (hclosed : Closed services t t' nowMs enrollment operation publication) : Counted t' := by
  have hrow := hclosed.enrollment_eq
  have hfollowed := hclosed.followed
  obtain ⟨connector, revisions, heads, revision, hrecounted, rfl⟩ := hclosed.moved
  refine h.recount hfollowed hrecounted rfl (.changed hrow rfl fun _ => ?_) rfl rfl rfl
  exact fun hstate => nomatch hstate

theorem follow (h : Counted t) (hbooked : Booked services t) {enrollmentEpoch : String}
    (hfollowed : Followed t t' enrollmentEpoch) : Counted t' := by
  obtain ⟨row, locator, connector, nowMs, hrow, hpending, -, -, hepoch, hgeneration, hcounts,
    rfl⟩ := hfollowed.moved
  have hnone := hbooked.pending_none hrow hpending
  constructor
  · intro epoch hsame
    obtain rfl := Option.mem_unique hepoch hsame
    refine ⟨row.followed nowMs, (find?_put _ _ _ _).trans (if_pos rfl), ?_,
      hgeneration.trans hnone.symm, hcounts.trans ?_⟩
    · exact fun hstate => nomatch hstate
    · exact (headCounts_of_no_assets fun _ _ hasset => h.no_assets hrow hnone hasset).symm
  · intro hunfollowed
    rw [hepoch] at hunfollowed
    cases hunfollowed
  · intro assetId asset hasset
    obtain ⟨current, hcurrent, hsome⟩ := h.assets assetId asset hasset
    refine ⟨current, (find?_put _ _ _ _).trans ((if_neg ?_).trans hcurrent), hsome⟩
    exact h.no_assets hrow hnone hasset

theorem withheld (h : Counted t) (hgenuine : t.Genuine operation)
    (hwithheld : Withheld services t t' operation publication) : Counted t' := by
  obtain ⟨current, -, hcurrent⟩ := hwithheld.current
  obtain ⟨-, -, -, -, -, -, hfollowed, -⟩ := hgenuine.current hcurrent
  obtain ⟨row, connector, revisions, heads, revision, reason, nowMs, -, -, hrecounted, rfl⟩ :=
    hwithheld.moved
  exact h.recount hfollowed hrecounted rfl .refl rfl rfl rfl

theorem completed (h : Counted t) (hgenuine : t.Genuine operation)
    {observations : List PhotoKitFinalizedObservation} {row : OperationRow}
    {generation : GenerationRow}
    (hcompleted : Completed services t t' operation observations publication row enrollment
      generation) : Counted t' := by
  obtain ⟨row', current, -, -, -, hcurrent, hfollowed, -, hactive⟩ :=
    hgenuine.current hcompleted.current
  have hput : t'.enrollments.find? operation.enrollmentEpoch = some { enrollment with
      activeMembershipGeneration := some operation.proposedMembershipGeneration } := by
    rw [hcompleted.enrollments_eq, find?_put, if_pos rfl]
  obtain rfl := Option.some.inj (hcompleted.enrollment_eq.symm.trans hcurrent)
  constructor
  · intro epoch hepoch
    rw [hcompleted.follows, hfollowed] at hepoch
    cases hepoch
    refine ⟨_, hput, ?_, hcompleted.follows_generation, hcompleted.counts⟩
    exact fun hstate => nomatch hactive.symm.trans hstate
  · intro hnone
    rw [hcompleted.follows, hfollowed] at hnone
    cases hnone
  · intro assetId asset hasset
    obtain hold | ⟨_, -, -, -, hnew⟩ := hcompleted.enlisted.added assetId asset hasset
    · obtain ⟨other, hother, hsome⟩ := h.assets assetId asset hold
      rw [hcompleted.enrollments_eq, find?_put]
      split
      · exact ⟨_, rfl, rfl⟩
      · exact ⟨other, hother, hsome⟩
    · rw [hnew]
      exact ⟨_, hput, rfl⟩

/-- **A move** keeps the counts right. -/
theorem move (h : Counted t) (hbooked : Booked services t) (hmove : Move services t t') :
    Counted t' := by
  cases hmove with
  | reserved keyReference allowIcloudDownloads nowMs hfresh =>
    exact h.congr rfl rfl rfl (.reserved hfresh) rfl rfl rfl
  | removed hrow hpending =>
    exact h.congr rfl rfl rfl (.removed hrow hpending (hbooked.pending_none hrow hpending))
      rfl rfl rfl
  | closed hclosed => exact h.closed hclosed
  | followed hfollowed => exact h.follow hbooked hfollowed
  | unfollowed hunfollowed =>
    obtain ⟨connector, revision, receipts, hepoch, hgeneration, hcounts, rfl⟩ := hunfollowed.moved
    refine ⟨fun epoch hsome => ?_, fun _ => ⟨hgeneration, hcounts⟩, h.assets⟩
    rw [hepoch] at hsome
    cases hsome
  | noted receipts => exact h.congr_same rfl rfl rfl rfl rfl rfl rfl
  | begun hbegun =>
    have hrow := hbegun.enrollment_eq
    obtain ⟨authorization, rfl⟩ := hbegun.moved
    exact h.congr rfl rfl rfl (.changed hrow rfl id) rfl rfl rfl
  | recorded hgenuine hrecorded =>
    obtain ⟨row, locators, -, -, -, rfl⟩ := hrecorded.moved
    exact h.congr_same rfl rfl rfl rfl rfl rfl rfl
  | marked hgenuine hmarked =>
    obtain ⟨row, -, -, -, rfl⟩ := hmarked.moved
    exact h.congr_same rfl rfl rfl rfl rfl rfl rfl
  | attempted hgenuine hattempted =>
    obtain ⟨attempt, rfl⟩ := hattempted.moved
    exact h.congr_same rfl rfl rfl rfl rfl rfl rfl
  | withheld hgenuine hwithheld => exact h.withheld hgenuine hwithheld
  | completed hgenuine hcompleted => exact h.completed hgenuine hcompleted
  | interrupted hinterrupted =>
    obtain ⟨row, nowMs, -, -, rfl⟩ := hinterrupted.moved
    exact h.congr_same rfl rfl rfl rfl rfl rfl rfl
  | settled hsettled =>
    obtain ⟨state, updatedAtMs, rfl⟩ := hsettled.moved
    exact h.congr_same rfl rfl rfl rfl rfl rfl rfl

end Moves

end Counted

/-! ## What stays -/

/-- Operations stay, those that have ended as they are. -/
def OperationsKept (operations operations' : Table String OperationRow) : Prop :=
  ∀ id row, operations.find? id = some row →
    ∃ row', operations'.find? id = some row' ∧ row'.operation = row.operation ∧
      (row.state.isLive = false → row' = row)

namespace OperationsKept

variable {operations : Table String OperationRow} {operationId : String} {row row' : OperationRow}

theorem refl : OperationsKept operations operations :=
  fun _ row hrow => ⟨row, hrow, rfl, fun _ => rfl⟩

theorem added (hfresh : operations.find? operationId = none) :
    OperationsKept operations (operations.put operationId row) := by
  intro id found hfound
  refine ⟨found, ?_, rfl, fun _ => rfl⟩
  rw [find?_put, if_neg, hfound]
  rintro rfl
  rw [hfresh] at hfound
  cases hfound

theorem changed (hrow : operations.find? operationId = some row) (hlive : row.state.isLive)
    (hsame : row'.operation = row.operation) :
    OperationsKept operations (operations.put operationId row') := by
  intro id found hfound
  rw [find?_put]
  split
  · rename_i hid
    rw [hid, hrow] at hfound
    cases hfound
    refine ⟨row', rfl, hsame, fun hended => ?_⟩
    rw [hlive] at hended
    cases hended
  · exact ⟨found, hfound, rfl, fun _ => rfl⟩

end OperationsKept

structure Onward (t t' : ConnectorTables) : Prop where
  operations : OperationsKept t.operations t'.operations
  kept : ∀ key generation, t.generations.find? key = some generation →
    t'.generations.find? key = some generation
  later : ∀ key generation, t'.generations.find? key = some generation →
    t.generations.find? key = some generation ∨ ∀ number ∈ t.generationsOf key.1, number < key.2
  generations : ∀ enrollmentEpoch enrollment generation,
    t.enrollments.find? enrollmentEpoch = some enrollment →
    enrollment.activeMembershipGeneration = some generation →
    ∃ enrollment' generation', t'.enrollments.find? enrollmentEpoch = some enrollment' ∧
      enrollment'.activeMembershipGeneration = some generation' ∧ generation ≤ generation'

namespace Onward

theorem refl (t : ConnectorTables) : Onward t t where
  operations := .refl
  kept _ _ h := h
  later _ _ h := .inl h
  generations _ enrollment generation hrow hactive :=
    ⟨enrollment, generation, hrow, hactive, le_rfl⟩

theorem trans {t₁ t₂ : ConnectorTables} (h : Onward t t₁) (h' : Onward t₁ t₂) : Onward t t₂ where
  operations id row hrow := by
    obtain ⟨row₁, hrow₁, hsame₁, hended₁⟩ := h.operations id row hrow
    obtain ⟨row₂, hrow₂, hsame₂, hended₂⟩ := h'.operations id row₁ hrow₁
    refine ⟨row₂, hrow₂, hsame₂.trans hsame₁, fun hended => ?_⟩
    obtain rfl := hended₁ hended
    exact hended₂ hended
  kept key generation hrow := h'.kept key generation (h.kept key generation hrow)
  later key generation hrow := by
    obtain hrow₁ | hlater := h'.later key generation hrow
    · exact h.later key generation hrow₁
    · refine .inr fun number hmem => hlater number ?_
      obtain ⟨found, hfound⟩ := Option.isSome_iff_exists.mp hmem
      exact Option.isSome_iff_exists.mpr ⟨found, h.kept _ _ hfound⟩
  generations epoch enrollment generation hrow hactive := by
    obtain ⟨enrollment₁, generation₁, hrow₁, hactive₁, hle₁⟩ :=
      h.generations epoch enrollment generation hrow hactive
    obtain ⟨enrollment₂, generation₂, hrow₂, hactive₂, hle₂⟩ :=
      h'.generations epoch enrollment₁ generation₁ hrow₁ hactive₁
    exact ⟨enrollment₂, generation₂, hrow₂, hactive₂, hle₁.trans hle₂⟩

variable {operation : PhotoKitOperation}

theorem genuine (h : Onward t t') (hgenuine : t.Genuine operation) : t'.Genuine operation := by
  obtain ⟨row, hrow, hsame⟩ := hgenuine
  obtain ⟨row', hrow', hsame', -⟩ := h.operations _ row hrow
  exact ⟨row', hrow', hsame'.trans hsame⟩

theorem of_kept (hoperations : OperationsKept t.operations t'.operations)
    (henrollments : GenerationsKept t.enrollments t'.enrollments)
    (hgenerations : t'.generations = t.generations) : Onward t t' where
  operations := hoperations
  kept _ _ hrow := hgenerations ▸ hrow
  later _ _ hrow := .inl (hgenerations ▸ hrow)
  generations epoch enrollment generation hrow hactive := by
    obtain ⟨enrollment', hrow', -, hsame⟩ | ⟨-, hnone⟩ := henrollments epoch enrollment hrow
    · exact ⟨enrollment', generation, hrow', hsame.trans hactive, le_rfl⟩
    · rw [hnone] at hactive
      cases hactive

theorem completed (hbooked : Booked services t) (hgenuine : t.Genuine operation)
    {observations : List PhotoKitFinalizedObservation} {publication : PhotoKitPublication}
    {row : OperationRow} {enrollment : EnrollmentRow} {generation : GenerationRow}
    (hcompleted : Completed services t t' operation observations publication row enrollment
      generation) : Onward t t' := by
  obtain ⟨row', current, hrow, rfl, hstate, hcurrent, -, hfence, -⟩ :=
    hgenuine.current hcompleted.current
  obtain ⟨acceptedBytes, nowMs, hoperations⟩ := hcompleted.operations_eq
  obtain rfl := Option.some.inj (hcompleted.row_eq.symm.trans hrow)
  have hbelow : ∀ number ∈ t.generationsOf row.operation.enrollmentEpoch,
      number < row.operation.proposedMembershipGeneration :=
    fun _ => hbooked.below hrow hcurrent (by simp [hstate]) hfence
  constructor
  · rw [hoperations]
    exact .changed hrow (by simp [hstate, OperationState.isLive]) rfl
  · intro key found hfound
    rw [hcompleted.generations_eq, find?_put, if_neg, hfound]
    rintro rfl
    exact lt_irrefl _ (hbelow _ (Option.isSome_iff_exists.mpr ⟨found, hfound⟩))
  · intro key found hfound
    rw [hcompleted.generations_eq, find?_put] at hfound
    split at hfound
    · rename_i hkey
      subst hkey
      exact .inr hbelow
    · exact .inl hfound
  · intro epoch found number hfound hactive
    rw [hcompleted.enrollments_eq, find?_put]
    split
    · rename_i hepoch
      refine ⟨_, _, rfl, rfl, ?_⟩
      have hlatest := hbooked.latest epoch found hfound
      rw [hactive, hepoch] at hlatest
      exact (hbelow _ hlatest.1).le
    · exact ⟨found, number, hfound, hactive, le_rfl⟩

/-- **A move** goes onward. -/
theorem of_move (hbooked : Booked services t) (hmove : Move services t t') : Onward t t' := by
  cases hmove with
  | reserved keyReference allowIcloudDownloads nowMs hfresh =>
    exact of_kept .refl (.reserved hfresh) rfl
  | removed hrow hpending =>
    exact of_kept .refl (.removed hrow hpending (hbooked.pending_none hrow hpending)) rfl
  | closed hclosed =>
    have hrow := hclosed.enrollment_eq
    have hfresh := Booked.fresh_of_clashes hclosed.fresh
    obtain ⟨connector, revisions, heads, revision, -, rfl⟩ := hclosed.moved
    refine of_kept (.added hfresh) (.changed hrow rfl fun _ => ?_) rfl
    exact fun hstate => nomatch hstate
  | followed hfollowed =>
    obtain ⟨row, locator, connector, nowMs, hrow, -, -, -, -, -, -, rfl⟩ := hfollowed.moved
    refine of_kept .refl (.changed hrow rfl fun _ => ?_) rfl
    exact fun hstate => nomatch hstate
  | unfollowed hunfollowed =>
    obtain ⟨connector, revision, receipts, -, -, -, rfl⟩ := hunfollowed.moved
    exact of_kept .refl .refl rfl
  | noted receipts => exact of_kept .refl .refl rfl
  | begun hbegun =>
    have hrow := hbegun.enrollment_eq
    have hfresh := Booked.fresh_of_clashes hbegun.fresh
    obtain ⟨authorization, rfl⟩ := hbegun.moved
    exact of_kept (.added hfresh) (.changed hrow rfl id) rfl
  | recorded hgenuine hrecorded =>
    obtain ⟨row', -, hrow', -, hstate, -⟩ := hgenuine.current hrecorded.current
    obtain ⟨row, locators, hrow, -, -, rfl⟩ := hrecorded.moved
    obtain rfl := Option.mem_unique hrow hrow'
    exact of_kept (.changed hrow (by simp [hstate, OperationState.isLive]) rfl) .refl rfl
  | marked hgenuine hmarked =>
    obtain ⟨row, hrow, hstate, -, rfl⟩ := hmarked.moved
    exact of_kept (.changed hrow (by simp [hstate, OperationState.isLive]) rfl) .refl rfl
  | attempted hgenuine hattempted =>
    obtain ⟨attempt, rfl⟩ := hattempted.moved
    exact of_kept .refl .refl rfl
  | withheld hgenuine hwithheld =>
    obtain ⟨row, connector, revisions, heads, revision, reason, nowMs, hrow, hlive, -, rfl⟩ :=
      hwithheld.moved
    exact of_kept (.changed hrow hlive rfl) .refl rfl
  | completed hgenuine hcompleted => exact completed hbooked hgenuine hcompleted
  | interrupted hinterrupted =>
    obtain ⟨row, nowMs, hrow, hlive, rfl⟩ := hinterrupted.moved
    exact of_kept (.changed hrow hlive rfl) .refl rfl
  | settled hsettled =>
    obtain ⟨state, updatedAtMs, rfl⟩ := hsettled.moved
    exact of_kept .refl .refl rfl

end Onward

end Threadbook.PhotoKit
