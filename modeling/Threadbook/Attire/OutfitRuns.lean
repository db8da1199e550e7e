import Threadbook.CatalogInvariant
import Threadbook.Attire.OutfitCreation

/-!
# Runs that make outfits

The catalog's commands, imports and promotions, the making of outfits and the user's deletions
write one database. Whatever they do in whatever order, every item stays storable and every
reference stays whole (**`Reached.sound`**), so a request that names the current revisions and
active items makes its outfit exactly when its name is printable ASCII and nothing is in the way
of its row (**`outfit_creation`**).
-/

namespace Threadbook.Outfits

open Table Fallible
open Catalog (CatalogTables CatalogServices EvidenceId Curated AcceptedStep)
open Promotion (ItemAttributesV1 RequestId ReplayStatusV1)

variable {services : OutfitServices} {catalogServices : CatalogServices} {files : BlobFiles}
  {t t' : OutfitTables} {request : CreateManualOutfitV1Request}

/-! ## Steps -/

def Vanish {κ ρ : Type} [DecidableEq κ] (table table' : Table κ ρ) : Prop :=
  ∀ key row, table'.find? key = some row → table.find? key = some row

/-- What a deletion does: it deletes rows, raises the revisions, and commits if every reference
is still whole. -/
structure Erases (t t' : OutfitTables) : Prop where
  items : Vanish t.catalog.items t'.catalog.items
  evidence : Vanish t.catalog.evidence t'.catalog.evidence
  itemEvidence : Vanish t.catalog.itemEvidence t'.catalog.itemEvidence
  sources : Vanish t.catalog.sources t'.catalog.sources
  decisions : Vanish t.catalog.decisions t'.catalog.decisions
  receipts : Vanish t.catalog.commandReceipts t'.catalog.commandReceipts
  outfits : Vanish t.outfits t'.outfits
  members : Vanish t.members t'.members
  responses : ∀ requestId, (t'.catalog.commandReceipts.find? requestId).isSome →
    t'.responses.find? requestId = t.responses.find? requestId
  catalogRevision : t'.catalog.catalogRevision = t.catalog.catalogRevision + 1
  outfitRevision : t'.outfitRevision = t.outfitRevision + 1
  bounded : t'.outfitRevision ≤ maxStoredRevision
  foreignKeys : t'.ForeignKeys

def OutfitTables.withCatalog (t : OutfitTables) (catalog : CatalogTables)
    (byteLengths : Table SourceId ℕ) (blobs : Table String ℕ) : OutfitTables :=
  { t with catalog, byteLengths, blobs }

/-- A transaction of one of the callers. -/
inductive OutfitStep (services : OutfitServices) (catalogServices : CatalogServices)
    (t : OutfitTables) : OutfitTables → Prop
  | catalog (catalog : CatalogTables) (byteLengths : Table SourceId ℕ) (blobs : Table String ℕ)
      (step : AcceptedStep catalogServices t.catalog catalog)
      (foreignKeys : ∀ sourceId row sha256, catalog.sources.find? sourceId = some row →
        row.blobSha256 = some sha256 → (blobs.find? sha256).isSome) :
      OutfitStep services catalogServices t (t.withCatalog catalog byteLengths blobs)
  | created (files : BlobFiles) (request : CreateManualOutfitV1Request) (clock : ℤ)
      (result : Except PlatformError CreateManualOutfitV1Response) (t' : OutfitTables)
      (run : createManualOutfit services files request clock t = (result, t')) :
      OutfitStep services catalogServices t t'
  | erased (t' : OutfitTables) (erases : Erases t t') : OutfitStep services catalogServices t t'

/-- A database nothing was done to. -/
structure OutfitTables.Fresh (t : OutfitTables) : Prop where
  catalog : t.catalog.Fresh
  sources : ∀ sourceId, t.catalog.sources.find? sourceId = none
  outfitRevision : t.outfitRevision = 0
  outfits : ∀ outfitId, t.outfits.find? outfitId = none
  members : ∀ key, t.members.find? key = none

def Reached (services : OutfitServices) (catalogServices : CatalogServices) (t : OutfitTables) :
    Prop :=
  ∃ t₀ : OutfitTables, t₀.Fresh ∧
    Relation.ReflTransGen (OutfitStep services catalogServices) t₀ t

/-! ## The invariant -/

/-- What holds of every database. -/
structure OutfitTables.Sound (t : OutfitTables) : Prop where
  curated : Curated t.catalog
  foreignKeys : t.ForeignKeys
  revisions : ∀ outfitId row, t.outfits.find? outfitId = some row →
    row.createdOutfitRevision ≤ t.outfitRevision

theorem OutfitTables.Fresh.sound (h : t.Fresh) : t.Sound where
  curated := by
    refine ⟨fun x row hrow => ?_, fun id row snapshot hrow => ?_⟩
    · rw [h.catalog.items] at hrow
      cases hrow
    · rw [h.catalog.decisions] at hrow
      cases hrow
  foreignKeys := by
    refine ⟨fun id row hrow => ?_, fun key row hrow => ?_, fun id row sha256 hrow => ?_⟩
    · rw [h.outfits] at hrow
      cases hrow
    · rw [h.members] at hrow
      cases hrow
    · rw [h.sources] at hrow
      cases hrow
  revisions id row hrow := by
    rw [h.outfits] at hrow
    cases hrow

variable {response : CreateManualOutfitV1Response} {clock nowMs : ℤ} {requestId : RequestId}
  {members : List OutfitMemberV1} {envelope : String}

theorem receipts_of_step {catalog : CatalogTables}
    (h : AcceptedStep catalogServices t.catalog catalog) {row : Catalog.CommandReceiptRow}
    (hrow : t.catalog.commandReceipts.find? requestId = some row) :
    catalog.commandReceipts.find? requestId = some row :=
  h.step.progress.receipts requestId row hrow

/-! ## Making an outfit -/

structure Asked (services : OutfitServices) (files : BlobFiles) (t : OutfitTables)
    (request : CreateManualOutfitV1Request) : Prop where
  valid : request.validate = .ok ()
  catalogRevision : t.catalog.catalogRevision = request.expectedCatalogRevision
  outfitRevision : t.outfitRevision = request.expectedOutfitRevision
  active : ∀ itemId ∈ request.itemIds, ∃ row, t.catalog.items.find? itemId = some row ∧ row.active
  intact : ∀ itemId ∈ request.itemIds, ∀ shown ∈ shownImage t itemId, ∃ image,
    verifySourceImage services.toImageServices files shown.blobSha256 shown.byteLength = .ok image

structure Admitted (services : OutfitServices) (t : OutfitTables)
    (request : CreateManualOutfitV1Request) (clock : ℤ) : Prop where
  ascii : request.name.toList.all isPrintableAscii
  revision : t.outfitRevision < maxStoredRevision
  unused : t.catalog.commandReceipts.find? request.requestId = none
  free : t.outfits.find? (outfitIdOf services request.requestId) = none
  clock : 0 ≤ clock ∧ clock ≤ maxStoredTime

structure Makes (services : OutfitServices) (files : BlobFiles) (t : OutfitTables)
    (request : CreateManualOutfitV1Request) (clock : ℤ)
    (response : CreateManualOutfitV1Response) (t' : OutfitTables) : Prop where
  run : createManualOutfit services files request clock t = (.ok response, t')
  revision : t'.outfitRevision = t.outfitRevision + 1
  answered : response.outfitRevision = t'.outfitRevision
  name : response.outfit.name = request.name
  items : response.outfit.members.map (·.itemId) = request.itemIds
  pinned : List.Forall₂ (Pinned services files t) request.itemIds.zipIdx response.outfit.members
  reads : loadOutfit t' response.outfit.outfitId = .ok response.outfit

theorem unixNowMs_eq_ok :
    unixNowMs clock = .ok nowMs ↔ (0 ≤ clock ∧ clock ≤ maxStoredTime) ∧ clock = nowMs := by
  rw [unixNowMs, check_unless_eq_ok, not_or, not_lt, not_lt, Except.ok.injEq]

/-- **The row of an outfit** goes in if its checks hold and its id is free. -/
theorem insertOutfit_succeeds {outfitId : OutfitId} {row : OutfitRow} (hsound : t.Sound)
    (hunused : t.catalog.commandReceipts.find? row.requestId = none)
    (hfree : t.outfits.find? outfitId = none) (hallowed : row.allowed)
    (hrevision : t.outfitRevision < row.createdOutfitRevision) :
    insertOutfit outfitId row t = (.ok ⟨⟩, { t with outfits := t.outfits.put outfitId row }) := by
  rw [insertOutfit, state_bind, rejectIf_bind_eq_ok, rejectIf_bind_eq_ok, rejectIf_bind_eq_ok]
  refine ⟨by simp [hallowed], by simp [hfree], ?_, rfl⟩
  rw [List.any_eq_true]
  rintro ⟨⟨id, other⟩, hmem, hclash⟩
  have hother := mem_rows.mp hmem
  rw [Bool.or_eq_true, decide_eq_true_eq, decide_eq_true_eq] at hclash
  obtain hrequest | hsame := hclash
  · -- its request has a receipt, and this one has none
    have hreceipt := hsound.foreignKeys.outfits id other hother
    rw [hrequest, hunused] at hreceipt
    cases hreceipt
  · have hle := hsound.revisions id other hother
    dsimp only at hsame
    omega

theorem madeOutfit_validate (services : OutfitServices) {revision : ℕ}
    (hname : validateName request.name = .ok ()) (hmin : minOutfitMembers ≤ request.itemIds.length)
    (hmax : request.itemIds.length ≤ maxOutfitMembers) (hnodup : request.itemIds.Nodup)
    (hpinned : List.Forall₂ (Pinned services files t) request.itemIds.zipIdx members)
    (hpos : 0 < revision) (hrevision : revision < maxSafeIntegerV1)
    (hvalid : ∀ member ∈ members, member.validate = .ok ()) :
    (madeOutfit services request members revision).validate = .ok () := by
  obtain ⟨hlength, hordinals, hitems⟩ := pinned_ordinals hpinned
  rw [OutfitV1.validate, check_then_eq_ok, check_unless_eq_ok, check_unless_eq_ok]
  refine ⟨hname, ?_, ?_, validateMembers_eq_ok hvalid ?_⟩
  · simp only [madeOutfit, hlength]
    omega
  · rw [not_not]
    simp only [madeOutfit, hitems, hnodup.dedup, hlength]
  · simp only [madeOutfit]
    rw [hordinals, List.range_eq_range']

theorem mem_zipIdx_of_forall₂ {itemIds : List ItemId}
    (hpinned : List.Forall₂ (Pinned services files t) itemIds.zipIdx members)
    {member : OutfitMemberV1} (hmember : member ∈ members) :
    ∃ entry, Pinned services files t entry member ∧ entry.2 < itemIds.length := by
  obtain ⟨entry, hentry, hpin⟩ : ∃ entry ∈ itemIds.zipIdx, Pinned services files t entry member := by
    generalize itemIds.zipIdx = entries at hpinned
    induction hpinned with
    | nil => cases hmember
    | cons hfirst _ ih =>
      obtain rfl | hmember := List.mem_cons.mp hmember
      · exact ⟨_, .head _, hfirst⟩
      · obtain ⟨entry, hentry, hpin⟩ := ih hmember
        exact ⟨entry, .tail _ hentry, hpin⟩
  exact ⟨entry, hpin, by simpa using (List.mem_zipIdx hentry).2.1⟩

def OutfitTables.answered (t : OutfitTables) (requestId : RequestId) (envelope : String)
    (response : CreateManualOutfitV1Response) : OutfitTables :=
  let receipts := t.catalog.commandReceipts.put requestId ⟨createCommand, envelope, .other⟩
  { t with
    catalog := { t.catalog with commandReceipts := receipts }
    outfitRevision := response.outfitRevision
    responses := t.responses.put requestId response }

def OutfitTables.made (services : OutfitServices) (t : OutfitTables)
    (request : CreateManualOutfitV1Request) (members : List OutfitMemberV1) (nowMs : ℤ) :
    OutfitTables :=
  let outfitId := outfitIdOf services request.requestId
  let row : OutfitRow := ⟨request.requestId, request.name, t.outfitRevision + 1, nowMs⟩
  let t₁ : OutfitTables := { t with outfits := t.outfits.put outfitId row }
  (t₁.putMembers outfitId members).answered request.requestId (envelopeHash services request)
    (createdResponse request (madeOutfit services request members (t.outfitRevision + 1))
      (t.outfitRevision + 1))

/-- **An outfit is stored** with its members, and reads back. -/
theorem storeOutfit_succeeds (hsound : t.Sound) (hvalid : request.validate = .ok ())
    (hcatalog : t.catalog.catalogRevision < maxSafeIntegerV1)
    (hpinned : List.Forall₂ (Pinned services files t) request.itemIds.zipIdx members)
    (hadmitted : Admitted services t request nowMs) :
    storeOutfit services request members (t.outfitRevision + 1) nowMs t =
        (.ok (createdResponse request (madeOutfit services request members (t.outfitRevision + 1))
          (t.outfitRevision + 1)), t.made services request members nowMs) ∧
      loadOutfit (t.made services request members nowMs) (outfitIdOf services request.requestId) =
        .ok (madeOutfit services request members (t.outfitRevision + 1)) := by
  obtain ⟨-, hname, hmin, hmax, -, -, hnodup⟩ := request_validate_eq_ok.mp hvalid
  obtain ⟨hlength, hordinals, hitems⟩ := pinned_ordinals hpinned
  have hrevision : t.outfitRevision + 1 ≤ maxStoredRevision := hadmitted.revision
  have hentries : ∀ member ∈ members, ∃ entry, Pinned services files t entry member ∧
      entry.2 < maxOutfitMembers := by
    intro member hmember
    obtain ⟨entry, hpin, hlt⟩ := mem_zipIdx_of_forall₂ hpinned hmember
    exact ⟨entry, hpin, hlt.trans_le hmax⟩
  have hmembers : ∀ member ∈ members, member.validate = .ok () := by
    intro member hmember
    obtain ⟨entry, hpin, hlt⟩ := hentries member hmember
    exact hpin.validate hsound.curated hcatalog hlt
  have hmade := madeOutfit_validate services hname hmin hmax hnodup hpinned
    (Nat.succ_pos t.outfitRevision) (Nat.lt_succ_of_le hrevision) hmembers
  set outfitId := outfitIdOf services request.requestId with hid
  set row : OutfitRow := ⟨request.requestId, request.name, t.outfitRevision + 1, nowMs⟩ with hrow
  have hallowed : row.allowed :=
    (outfitRow_allowed hname (Nat.le_add_left 1 _) hadmitted.clock.1).mpr
      ⟨hadmitted.ascii, hrevision⟩
  have hinsert : insertOutfit outfitId row t =
      (.ok ⟨⟩, { t with outfits := t.outfits.put outfitId row }) :=
    insertOutfit_succeeds hsound hadmitted.unused hadmitted.free hallowed (Nat.lt_succ_self _)
  set t₁ : OutfitTables := { t with outfits := t.outfits.put outfitId row } with ht₁
  have hfound : t₁.outfits.find? outfitId = some row := by rw [ht₁, find?_put, if_pos rfl]
  have hnone : ∀ ordinal, t₁.members.find? (outfitId, ordinal) = none := by
    intro ordinal
    by_contra hsome
    obtain ⟨other, hother⟩ := Option.ne_none_iff_exists'.mp hsome
    have houtfit := hsound.foreignKeys.members _ _ hother
    rw [hadmitted.free] at houtfit
    cases houtfit
  have hstorable : ∀ member ∈ members, Storable t₁ outfitId member := by
    intro member hmember
    obtain ⟨entry, hpin, hlt⟩ := hentries member hmember
    have hpin₁ : Pinned services files t₁ entry member := ⟨hpin.ordinal, hpin.itemId, hpin.row,
      hpin.asset⟩
    exact hpin₁.storable hsound.curated hsound.foreignKeys.sources hcatalog hlt
      (by rw [hfound]; rfl)
  obtain ⟨us, hus⟩ := insertMembers_succeeds hstorable (hordinals ▸ List.nodup_range)
    (hitems ▸ hnodup) (fun ordinal other hother => by rw [hnone] at hother; cases hother)
  set response := createdResponse request
    (madeOutfit services request members (t.outfitRevision + 1)) (t.outfitRevision + 1)
  have hresponse : response.validate = .ok () := by
    rw [CreateManualOutfitV1Response.validate, check_then_eq_ok, check_then_eq_ok]
    exact ⟨rfl, hmade, if_pos rfl⟩
  have hreceipt : t.catalog.commandReceipts.find? request.requestId = none := hadmitted.unused
  refine ⟨?_, ?_⟩
  · rw [storeOutfit]
    refine bind_eq_ok.mpr ⟨_, _, hinsert, bind_eq_ok.mpr ⟨us, _, hus, ?_⟩⟩
    refine bind_eq_ok.mpr ⟨⟨⟩, _, rejectIf_bind_eq_ok.mpr ⟨by omega, rfl⟩, ?_⟩
    rw [require_bind_eq_ok, check_mapError_eq_ok]
    refine ⟨hresponse, bind_eq_ok.mpr ⟨⟨⟩, _, ?_, rfl⟩⟩
    rw [storeReceipt, state_bind, rejectIf_bind_eq_ok]
    exact ⟨by simp [OutfitTables.putMembers, ht₁, hreceipt], rfl⟩
  · set u := (t₁.putMembers outfitId members).answered request.requestId
      (envelopeHash services request) response
    have hrow₁ : u.outfits.find? outfitId = some row := hfound
    have hrows : memberRows u outfitId = members.map fun member => (member.ordinal, member.stored) :=
      memberRows_putMembers hordinals (hlength ▸ hmax) hnone
    have hstates : ∀ member ∈ members, member.asset.state ≠ .unavailable :=
      fun member hmember => (hstorable member hmember).state
    exact loadOutfit_stored hrow₁ hrows hstates rfl hmade

theorem storeOutfit_admitted (hvalid : request.validate = .ok ())
    (hunused : t.catalog.commandReceipts.find? request.requestId = none)
    (hclock : 0 ≤ nowMs ∧ nowMs ≤ maxStoredTime)
    (h : storeOutfit services request members (t.outfitRevision + 1) nowMs t = (.ok response, t')) :
    Admitted services t request nowMs := by
  obtain ⟨-, hname, -⟩ := request_validate_eq_ok.mp hvalid
  rw [storeOutfit] at h
  obtain ⟨_, t₁, hinsert, -⟩ := bind_eq_ok.mp h
  rw [insertOutfit, state_bind, rejectIf_bind_eq_ok, rejectIf_bind_eq_ok] at hinsert
  obtain ⟨hallowed, hfree, -⟩ := hinsert
  rw [Bool.not_eq_false, outfitRow_allowed hname (Nat.le_add_left 1 _) hclock.1] at hallowed
  exact ⟨hallowed.1, hallowed.2, hunused, by simpa using hfree, hclock⟩

/-- **Carrying a request out** succeeds exactly at the revisions it names, when its items can be
pinned and the tables take its outfit. -/
theorem performCreate_eq_ok (hsound : t.Sound) (hvalid : request.validate = .ok ())
    (hunused : t.catalog.commandReceipts.find? request.requestId = none) :
    performCreate services files request clock t = (.ok response, t') ↔
      (t.catalog.catalogRevision = request.expectedCatalogRevision ∧
        t.outfitRevision = request.expectedOutfitRevision) ∧
      Admitted services t request clock ∧
      ∃ members, List.Forall₂ (Pinned services files t) request.itemIds.zipIdx members ∧
        response = createdResponse request
          (madeOutfit services request members (t.outfitRevision + 1)) (t.outfitRevision + 1) ∧
        t' = t.made services request members clock := by
  obtain ⟨-, -, -, -, hcatalog, -⟩ := request_validate_eq_ok.mp hvalid
  rw [performCreate, state_bind, rejectIf_bind_eq_ok, not_or, not_not, not_not]
  refine and_congr_right fun hrevisions => ?_
  have hbound : t.catalog.catalogRevision < maxSafeIntegerV1 := hrevisions.1 ▸ hcatalog
  simp only [Fallible.check_bind_eq_ok, check_mapM_eq_ok, pinMember_eq_ok, unixNowMs_eq_ok]
  constructor
  · rintro ⟨members, hpinned, nowMs, ⟨hclock, rfl⟩, hstore⟩
    have hadmitted := storeOutfit_admitted hvalid hunused hclock hstore
    obtain ⟨hrun, -⟩ := storeOutfit_succeeds hsound hvalid hbound hpinned hadmitted
    obtain ⟨hresponse, htables⟩ := Prod.mk.inj (hrun.symm.trans hstore)
    exact ⟨hadmitted, members, hpinned, (Except.ok.inj hresponse).symm, htables.symm⟩
  · rintro ⟨hadmitted, members, hpinned, rfl, rfl⟩
    exact ⟨members, hpinned, clock, ⟨hadmitted.clock, rfl⟩,
      (storeOutfit_succeeds hsound hvalid hbound hpinned hadmitted).1⟩

theorem replay_eq_none : replay t requestId envelope = .ok none ↔
      t.catalog.commandReceipts.find? requestId = none := by
  rw [replay]
  cases hrow : t.catalog.commandReceipts.find? requestId with
  | none => simp
  | some row =>
    dsimp only
    split
    · cases t.responses.find? requestId <;> simp
    · simp

/-- **A request is answered** from its receipt, or carried out now. -/
theorem createManualOutfit_eq_ok :
    createManualOutfit services files request clock t = (.ok response, t') ↔
      request.validate = .ok () ∧
        ((∃ stored, replay t request.requestId (envelopeHash services request) =
            .ok (some stored) ∧ { stored with replayStatus := .replayed } = response ∧ t = t') ∨
          (t.catalog.commandReceipts.find? request.requestId = none ∧
            performCreate services files request clock t = (.ok response, t'))) := by
  rw [createManualOutfit, atomically_eq_ok, require_bind_eq_ok, check_mapError_eq_ok, state_bind,
    Fallible.check_bind_eq_ok]
  refine and_congr_right fun _ => ?_
  constructor
  · rintro ⟨stored | stored, hreplay, hrun⟩
    · exact .inr ⟨replay_eq_none.mp hreplay, hrun⟩
    · obtain ⟨hresponse, rfl⟩ := Prod.mk.inj hrun
      exact .inl ⟨stored, hreplay, Except.ok.inj hresponse, rfl⟩
  · rintro (⟨stored, hreplay, rfl, rfl⟩ | ⟨hunused, hrun⟩)
    · exact ⟨some stored, hreplay, rfl⟩
    · exact ⟨none, replay_eq_none.mpr hunused, hrun⟩

/-! ## Every database is sound -/

variable {outfitId : OutfitId}

theorem find?_putMembers_or (members : List OutfitMemberV1) {key : OutfitId × ℕ} {row : OutfitMemberRow}
    (h : (t.putMembers outfitId members).members.find? key = some row) :
    key.1 = outfitId ∨ t.members.find? key = some row := by
  rw [or_iff_not_imp_left]
  intro hother
  rw [OutfitTables.putMembers] at h
  dsimp only at h
  revert h
  generalize t.members = table
  induction members generalizing table with
  | nil => exact id
  | cons member rest ih =>
    intro h
    have hrest := ih _ h
    rwa [find?_put, if_neg (fun heq => hother (congrArg Prod.fst heq))] at hrest

/-- **Making an outfit** keeps the database sound. -/
theorem OutfitTables.Sound.made (h : t.Sound) : (t.made services request members nowMs).Sound where
  curated := ⟨h.curated.items, h.curated.stored⟩
  foreignKeys := by
    refine ⟨fun id row hrow => ?_, fun key row hrow => ?_, h.foreignKeys.sources⟩
    · have hrow' : (t.outfits.put (outfitIdOf services request.requestId)
          ⟨request.requestId, request.name, t.outfitRevision + 1, nowMs⟩).find? id = some row := hrow
      change ((t.catalog.commandReceipts.put request.requestId _).find? row.requestId).isSome
      rw [find?_put] at hrow' ⊢
      by_cases hsame : row.requestId = request.requestId
      · rw [if_pos hsame]
        rfl
      · rw [if_neg hsame]
        split at hrow'
        · cases hrow'
          exact absurd rfl hsame
        · exact h.foreignKeys.outfits id row hrow'
    · change ((t.outfits.put (outfitIdOf services request.requestId) _).find? key.1).isSome
      rw [find?_put]
      split
      · rfl
      · obtain hmade | hold := find?_putMembers_or members hrow
        · rename_i hne
          exact absurd hmade hne
        · exact h.foreignKeys.members key row hold
  revisions id row hrow := by
    have hrow' : (t.outfits.put (outfitIdOf services request.requestId)
        ⟨request.requestId, request.name, t.outfitRevision + 1, nowMs⟩).find? id = some row := hrow
    rw [find?_put] at hrow'
    change row.createdOutfitRevision ≤ t.outfitRevision + 1
    split at hrow'
    · cases hrow'
      exact le_rfl
    · exact (h.revisions id row hrow').trans (Nat.le_succ _)

theorem createManualOutfit_cases (hsound : t.Sound)
    (h : createManualOutfit services files request clock t = (.ok response, t')) :
    t' = t ∨ t.catalog.commandReceipts.find? request.requestId = none ∧
      ∃ members, t' = t.made services request members clock := by
  obtain ⟨hvalid, ⟨_, -, -, rfl⟩ | ⟨hunused, hrun⟩⟩ := createManualOutfit_eq_ok.mp h
  · exact .inl rfl
  · obtain ⟨-, -, members, -, -, rfl⟩ := (performCreate_eq_ok hsound hvalid hunused).mp hrun
    exact .inr ⟨hunused, members, rfl⟩

/-- **Every step** keeps the database sound. -/
theorem OutfitStep.sound (h : OutfitStep services catalogServices t t') (hsound : t.Sound) :
    t'.Sound := by
  cases h with
  | catalog catalog byteLengths blobs step foreignKeys =>
    refine ⟨step.curated hsound.curated, ⟨fun id row hrow => ?_, hsound.foreignKeys.members,
      foreignKeys⟩, hsound.revisions⟩
    have hreceipt := hsound.foreignKeys.outfits id row hrow
    obtain ⟨receipt, hreceipt⟩ := Option.isSome_iff_exists.mp hreceipt
    exact Option.isSome_iff_exists.mpr ⟨receipt, receipts_of_step step hreceipt⟩
  | created files request clock result t' run =>
    cases result with
    | error e => exact atomically_of_error run ▸ hsound
    | ok response =>
      obtain rfl | ⟨-, members, rfl⟩ := createManualOutfit_cases hsound run
      · exact hsound
      · exact hsound.made
  | erased t' erases =>
    refine ⟨⟨fun itemId row hrow => ?_, fun id row snapshot hrow => ?_⟩, erases.foreignKeys,
      fun id row hrow => ?_⟩
    · obtain ⟨haccepted, hpos, hle⟩ := hsound.curated.items itemId row (erases.items _ _ hrow)
      refine ⟨haccepted, hpos, hle.trans ?_⟩
      rw [erases.catalogRevision]
      exact Nat.le_succ _
    · exact hsound.curated.stored id row snapshot (erases.decisions _ _ hrow)
    · refine (hsound.revisions id row (erases.outfits _ _ hrow)).trans ?_
      rw [erases.outfitRevision]
      exact Nat.le_succ _

/-- **Every database that is reached is sound.** -/
theorem Reached.sound (h : Reached services catalogServices t) : t.Sound := by
  obtain ⟨t₀, hfresh, hsteps⟩ := h
  induction hsteps with
  | refl => exact hfresh.sound
  | tail _ hstep ih => exact hstep.sound ih

theorem Reached.trans (h : Reached services catalogServices t)
    (hsteps : Relation.ReflTransGen (OutfitStep services catalogServices) t t') :
    Reached services catalogServices t' := by
  obtain ⟨t₀, hfresh, hrun⟩ := h
  exact ⟨t₀, hfresh, hrun.trans hsteps⟩

/-! ## Replays -/

def KeepingStep (services : OutfitServices) (catalogServices : CatalogServices)
    (requestId : RequestId) (t t' : OutfitTables) : Prop :=
  OutfitStep services catalogServices t t' ∧
    (t'.catalog.commandReceipts.find? requestId).isSome

/-- What a replay reads. -/
structure Receipted (t : OutfitTables) (requestId : RequestId) (envelope : String)
    (response : CreateManualOutfitV1Response) : Prop where
  receipt : t.catalog.commandReceipts.find? requestId = some ⟨createCommand, envelope, .other⟩
  response : t.responses.find? requestId = some response

section

variable (h : Receipted t requestId envelope response)

include h

theorem Receipted.replay_eq : replay t requestId envelope = .ok (some response) := by
  rw [replay, h.receipt]
  simp [h.response]

/-- **A step keeps the answer** of a receipt that stays. -/
theorem Receipted.keep (hsound : t.Sound)
    (hstep : KeepingStep services catalogServices requestId t t') :
    Receipted t' requestId envelope response := by
  obtain ⟨hstep, hkept⟩ := hstep
  cases hstep with
  | catalog catalog byteLengths blobs step foreignKeys =>
    exact ⟨receipts_of_step step h.receipt, h.response⟩
  | created files request clock result t' run =>
    cases result with
    | error e => exact atomically_of_error run ▸ h
    | ok answer =>
      obtain rfl | ⟨hunused, members, rfl⟩ := createManualOutfit_cases hsound run
      · exact h
      · -- the other request has no receipt before, so it is another one
        have hother : requestId ≠ request.requestId := by
          rintro rfl
          rw [h.receipt] at hunused
          cases hunused
        refine ⟨?_, ?_⟩
        · change (t.catalog.commandReceipts.put request.requestId _).find? requestId = _
          rw [find?_put, if_neg hother, h.receipt]
        · change (t.responses.put request.requestId _).find? requestId = _
          rw [find?_put, if_neg hother, h.response]
  | erased t' erases =>
    obtain ⟨row, hrow⟩ := Option.isSome_iff_exists.mp hkept
    have hsame := (erases.receipts _ _ hrow).symm.trans h.receipt
    exact ⟨hrow.trans hsame, (erases.responses _ hkept).trans h.response⟩

theorem Receipted.run (hreached : Reached services catalogServices t) {u : OutfitTables}
    (hsteps : Relation.ReflTransGen (KeepingStep services catalogServices requestId) t u) :
    Receipted u requestId envelope response := by
  induction hsteps with
  | refl => exact h
  | tail hbefore hstep ih =>
    have hsteps : Relation.ReflTransGen (OutfitStep services catalogServices) t _ :=
      Relation.ReflTransGen.mono (fun _ _ h => And.left h) _ _ hbefore
    exact ih.keep (hreached.trans hsteps).sound hstep

end

/-! ## Creation -/

theorem Asked.pinned (h : Asked services files t request) (hsound : t.Sound) :
    ∃ members, List.Forall₂ (Pinned services files t) request.itemIds.zipIdx members := by
  have htotal : ∃ members, request.itemIds.zipIdx.mapM (pinMember services files t) =
      .ok members := by
    refine check_mapM_total.mpr fun entry hentry => ?_
    have hmem : entry.1 ∈ request.itemIds := (List.mem_zipIdx hentry).2.2 ▸ List.getElem_mem _
    obtain ⟨row, hrow, hactive⟩ := h.active _ hmem
    obtain ⟨haccepted, -⟩ := hsound.curated.items _ row hrow
    obtain ⟨asset, hasset⟩ : ∃ asset, pinItemAsset services files t entry.1 = .ok asset := by
      cases hshown : shownImage t entry.1 with
      | none => exact ⟨_, pinItemAsset_eq_ok.mpr (.inl ⟨hshown, rfl⟩)⟩
      | some shown =>
        obtain ⟨image, himage⟩ := h.intact _ hmem shown hshown
        exact ⟨_, pinItemAsset_eq_ok.mpr (.inr ⟨shown, image, hshown, himage, rfl⟩)⟩
    exact ⟨⟨entry.2, entry.1, row.updatedRevision, row.attributes, asset⟩,
      pinMember_eq_ok.mpr ⟨rfl, rfl, ⟨row, hrow, hactive, rfl, rfl, haccepted⟩,
        pinItemAsset_eq_ok.mp hasset⟩⟩
  obtain ⟨members, hmembers⟩ := htotal
  exact ⟨members, (check_mapM_eq_ok.mp hmembers).imp fun _ _ => pinMember_eq_ok.mp⟩

/-- **An admitted request makes its outfit.** -/
theorem Asked.makes (h : Asked services files t request) (hsound : t.Sound)
    (hadmitted : Admitted services t request clock) :
    ∃ response t', Makes services files t request clock response t' ∧
      Receipted t' request.requestId (envelopeHash services request) response := by
  obtain ⟨members, hpinned⟩ := h.pinned hsound
  obtain ⟨hlength, -, hitems⟩ := pinned_ordinals hpinned
  obtain ⟨-, -, -, -, hcatalog, -⟩ := request_validate_eq_ok.mp h.valid
  refine ⟨_, t.made services request members clock, ⟨?_, rfl, rfl, rfl, hitems, hpinned, ?_⟩,
    ⟨?_, ?_⟩⟩
  · rw [createManualOutfit_eq_ok]
    exact ⟨h.valid, .inr ⟨hadmitted.unused, (performCreate_eq_ok hsound h.valid
      hadmitted.unused).mpr ⟨⟨h.catalogRevision, h.outfitRevision⟩, hadmitted, members, hpinned,
        rfl, rfl⟩⟩⟩
  · exact (storeOutfit_succeeds hsound h.valid (h.catalogRevision ▸ hcatalog) hpinned hadmitted).2
  · change (t.catalog.commandReceipts.put request.requestId _).find? request.requestId = _
    rw [find?_put, if_pos rfl]
  · change (t.responses.put request.requestId _).find? request.requestId = _
    rw [find?_put, if_pos rfl]

theorem Makes.admitted (h : Makes services files t request clock response t') (hsound : t.Sound) :
    Admitted services t request clock := by
  obtain ⟨hvalid, ⟨_, -, -, rfl⟩ | ⟨hunused, hrun⟩⟩ := createManualOutfit_eq_ok.mp h.run
  · have hrevision := h.revision
    omega
  · exact ((performCreate_eq_ok hsound hvalid hunused).mp hrun).2.1

/-- **Outfits are made exactly when the tables admit them.** On a database that transactions lead
to, a valid request at the current revisions for active items with intact images makes its outfit,
pins what is shown, raises the revision by one, reads back and is answered from its receipt from
then on, exactly when the name is printable ASCII, the request and the derived id are new, the
revision is not the last one and the clock can be stored. A request that fails changes
nothing. -/
theorem outfit_creation (hreached : Reached services catalogServices t)
    (hasked : Asked services files t request) (clock : ℤ) :
    ((∃ response t', Makes services files t request clock response t' ∧
        ∀ u, Relation.ReflTransGen (KeepingStep services catalogServices request.requestId) t' u →
          ∀ files clock, createManualOutfit services files request clock u =
            (.ok { response with replayStatus := .replayed }, u)) ↔
      Admitted services t request clock) ∧
    ∀ files request clock e t',
      createManualOutfit services files request clock t = (.error e, t') → t' = t := by
  refine ⟨⟨?_, fun hadmitted => ?_⟩, fun _ _ _ _ _ hrun => atomically_of_error hrun⟩
  · rintro ⟨response, t', hmakes, -⟩
    exact hmakes.admitted hreached.sound
  · obtain ⟨response, t', hmakes, hreceipted⟩ := hasked.makes hreached.sound hadmitted
    have hmade : Reached services catalogServices t' :=
      hreached.trans (.single (.created files request clock _ t' hmakes.run))
    refine ⟨response, t', hmakes, fun u hsteps files clock => ?_⟩
    have hkept := hreceipted.run hmade hsteps
    exact createManualOutfit_eq_ok.mpr
      ⟨hasked.valid, .inl ⟨response, hkept.replay_eq, rfl, rfl⟩⟩

/-! ## A run

A source is imported and two purchases of it are promoted. An outfit of the two items is made
under a plain name and refused under an accented one, which the request's own check accepts.
-/

namespace Example

open Catalog (importTransaction promoteReceiptPurchaseUnit)
open Catalog.Example (lastDigit lastDigitServices noTables noTables_fresh shirt source)

/-- Services for images that are never looked at. -/
def blindServices : OutfitServices :=
  ⟨⟨lastDigit, fun _ => none, fun _ => none, fun _ => none, fun _ => none⟩, fun _ => []⟩

def noFiles : BlobFiles := fun _ => none

def start : OutfitTables := ⟨noTables, .empty, .empty, 0, .empty, .empty, .empty⟩

def promotion (expectedCatalogRevision : ℕ) (seed : UInt8) : Catalog.CatalogPromotion :=
  ⟨.above seed, "", expectedCatalogRevision, .above (seed + 1), shirt, .above (seed + 2), .above 9,
    .above (seed + 3), 0⟩

def importedTables : CatalogTables :=
  (importTransaction [.recordSource (.above 9) source] noTables).2

def promotedTables : CatalogTables := (promoteReceiptPurchaseUnit (promotion 0 20) importedTables).2

def bothTables : CatalogTables := (promoteReceiptPurchaseUnit (promotion 1 30) promotedTables).2

def imported : OutfitTables := start.withCatalog importedTables .empty .empty

def promoted : OutfitTables := imported.withCatalog promotedTables .empty .empty

def tables : OutfitTables := promoted.withCatalog bothTables .empty .empty

def named (name : String) : CreateManualOutfitV1Request :=
  ⟨1, .above 4, name, [.above 21, .above 31], 2, 0⟩

theorem start_fresh : start.Fresh :=
  ⟨noTables_fresh, fun _ => rfl, rfl, fun _ => rfl, fun _ => rfl⟩

theorem sources_unbound {catalog : CatalogTables} {blobs : Table String ℕ}
    (h : catalog.sources.rows.all (fun entry => entry.2.blobSha256.isNone) = true)
    (sourceId : SourceId) (row : Catalog.SourceRow) (sha256 : String)
    (hrow : catalog.sources.find? sourceId = some row) (hblob : row.blobSha256 = some sha256) :
    (blobs.find? sha256).isSome := by
  have hnone := List.all_eq_true.mp h _ (mem_rows.mpr hrow)
  rw [hblob] at hnone
  cases hnone

theorem tables_reached : Reached blindServices lastDigitServices tables := by
  have hshirt : shirt.validate = .ok () := by decide +kernel
  have himported : OutfitStep blindServices lastDigitServices start imported :=
    .catalog importedTables .empty .empty
      (.imported [.recordSource (.above 9) source] _ Prod.mk.eta.symm)
      (sources_unbound (by decide +kernel))
  have hpromoted : OutfitStep blindServices lastDigitServices imported promoted :=
    .catalog promotedTables .empty .empty (.promoted (promotion 0 20) hshirt _ Prod.mk.eta.symm)
      (sources_unbound (by decide +kernel))
  have hboth : OutfitStep blindServices lastDigitServices promoted tables :=
    .catalog bothTables .empty .empty (.promoted (promotion 1 30) hshirt _ Prod.mk.eta.symm)
      (sources_unbound (by decide +kernel))
  exact ⟨start, start_fresh, .tail (.tail (.single himported) hpromoted) hboth⟩

theorem tables_catalog : tables.catalog = bothTables := rfl

theorem bothTables_ready : bothTables.catalogRevision = 2 ∧
    [ItemId.above 21, .above 31].all (fun itemId =>
      (bothTables.items.find? itemId).any (·.active)) = true ∧
    [ItemId.above 21, .above 31].all (fun itemId => (shownImage tables itemId).isNone) = true := by
  decide +kernel

theorem named_asked {name : String} (h : (named name).validate = .ok ()) :
    Asked blindServices noFiles tables (named name) where
  valid := h
  catalogRevision := by
    rw [tables_catalog]
    exact bothTables_ready.1
  outfitRevision := rfl
  active itemId hitem := by
    rw [tables_catalog]
    exact (Option.any_eq_true _ _).mp (List.all_eq_true.mp bothTables_ready.2.1 itemId hitem)
  intact itemId hitem shown hshown := by
    have hnone := List.all_eq_true.mp bothTables_ready.2.2 itemId hitem
    rw [Option.isNone_iff_eq_none] at hnone
    rw [hnone] at hshown
    cases hshown

end Example

/-- An outfit of the two items is made under a plain name. -/
theorem outfit_creation_summer : ∃ response t',
    Makes Example.blindServices Example.noFiles Example.tables (Example.named "Summer") 0 response t' ∧
      ∀ u, Relation.ReflTransGen (KeepingStep Example.blindServices Catalog.Example.lastDigitServices
        (Example.named "Summer").requestId) t' u → ∀ files clock,
          createManualOutfit Example.blindServices files (Example.named "Summer") clock u =
            (.ok { response with replayStatus := .replayed }, u) := by
  have hvalid : (Example.named "Summer").validate = .ok () := by decide +kernel
  have hasked := Example.named_asked hvalid
  refine (outfit_creation Example.tables_reached hasked 0).1.mpr ⟨?_, ?_, ?_, ?_, ?_⟩
  · decide +kernel
  · decide +kernel
  · decide +kernel
  · decide +kernel
  · decide +kernel

/-- **An accented name** is accepted by the check of the request and refused by the check of the
table, so the outfit is not made. -/
theorem accented_name_refused :
    Reached Example.blindServices Catalog.Example.lastDigitServices Example.tables ∧
      Asked Example.blindServices Example.noFiles Example.tables (Example.named "Été") ∧
      createManualOutfit Example.blindServices Example.noFiles (Example.named "Été") 0
        Example.tables = (.error .sqlite, Example.tables) := by
  refine ⟨Example.tables_reached, Example.named_asked (by decide +kernel), ?_⟩
  rcases hrun : createManualOutfit Example.blindServices Example.noFiles (Example.named "Été") 0
    Example.tables with ⟨result, t'⟩
  have hresult : result = .error .sqlite := by
    have heval : (createManualOutfit Example.blindServices Example.noFiles (Example.named "Été") 0
        Example.tables).1 = .error .sqlite := by decide +kernel
    rw [hrun] at heval
    exact heval
  obtain rfl := hresult
  rw [atomically_of_error hrun]

end Threadbook.Outfits
