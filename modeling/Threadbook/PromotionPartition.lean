import Mathlib
import Threadbook.PromotionLimits

/-!
# The projection is a partition

Each line of an order in force is in a projection as one exclusion of the line, or as many units
and deleted units as its quantity, each once; no unit is there twice, and each promotion is there
once (`projection_partition`). The hash that makes units' ids is taken not to collide on the
units of stored lines.
-/

namespace Threadbook.Promotion

open Fallible List

/-! ## Tagged lists -/

section Tagged

variable {κ β : Type} {tag : β → κ} {keys : List κ} {lists : List (List β)}

section

variable (h : List.Forall₂ (fun key list => ∀ b ∈ list, tag b = key) keys lists)

include h

theorem tag_mem_of_mem_flatten {b : β} (hb : b ∈ lists.flatten) : tag b ∈ keys := by
  obtain ⟨list, hlist, hb⟩ := mem_flatten.mp hb
  obtain ⟨key, hkey, htagged⟩ := exists_of_forall₂ h list hlist
  rw [htagged b hb]
  exact hkey

theorem filter_flatten_of_tagged [DecidableEq κ] (hnodup : keys.Nodup) :
    List.Forall₂ (fun key list => lists.flatten.filter (fun b => tag b = key) = list) keys
      lists := by
  induction h with
  | nil => exact .nil
  | @cons key list keys lists htagged hrest ih =>
    obtain ⟨hnew, hnodup⟩ := nodup_cons.mp hnodup
    refine .cons ?_ ?_
    · rw [flatten_cons, filter_append, filter_eq_self.mpr (by simpa using htagged),
        filter_eq_nil_iff.mpr, append_nil]
      intro b hb heq
      rw [← of_decide_eq_true heq] at hnew
      exact hnew (tag_mem_of_mem_flatten hrest hb)
    · have hboth := (forall₂_and_left _ _).mpr ⟨fun key (hkey : key ∈ keys) => hkey, ih hnodup⟩
      refine hboth.imp ?_
      rintro other rest ⟨hother, heq⟩
      rw [flatten_cons, filter_append, filter_eq_nil_iff.mpr, nil_append, heq]
      intro b hb hsame
      rw [← of_decide_eq_true hsame, htagged b hb] at hother
      exact hnew hother

theorem nodup_flatten_of_tagged (hnodup : keys.Nodup) (heach : ∀ list ∈ lists, list.Nodup) :
    lists.flatten.Nodup := by
  induction h with
  | nil => exact nodup_nil
  | @cons key list keys lists htagged hrest ih =>
    obtain ⟨hnew, hnodup⟩ := nodup_cons.mp hnodup
    rw [forall_mem_cons] at heach
    rw [flatten_cons, nodup_append]
    refine ⟨heach.1, ih hnodup heach.2, ?_⟩
    rintro b hb b' hb' rfl
    rw [← htagged b hb] at hnew
    exact hnew (tag_mem_of_mem_flatten hrest hb')

end

theorem filter_eq_singleton [DecidableEq κ] {l : List β} (h : (l.map tag).Nodup) {b : β}
    (hb : b ∈ l) : l.filter (fun a => tag a = tag b) = [b] := by
  induction l with
  | nil => cases hb
  | cons a rest ih =>
    rw [map_cons, nodup_cons] at h
    obtain ⟨hnew, hnodup⟩ := h
    rcases mem_cons.mp hb with rfl | hb
    · rw [filter_cons_of_pos (by simp), filter_eq_nil_iff.mpr]
      intro other hother heq
      rw [← of_decide_eq_true heq] at hnew
      exact hnew (mem_map_of_mem hother)
    · rw [filter_cons_of_neg, ih hnodup hb]
      intro heq
      rw [of_decide_eq_true heq] at hnew
      exact hnew (mem_map_of_mem hb)

end Tagged

/-! ## Identities -/

theorem eq_of_bytes_eq (k : ℕ) {n m : ℕ} (hn : n < 2 ^ (8 * k)) (hm : m < 2 ^ (8 * k))
    (h : ((range k).map fun i => UInt8.ofNat (n / 2 ^ (8 * (k - 1 - i)) % 2 ^ 8)) =
      (range k).map fun i => UInt8.ofNat (m / 2 ^ (8 * (k - 1 - i)) % 2 ^ 8)) : n = m := by
  have hbytes : ∀ j < k, n / 2 ^ (8 * j) % 2 ^ 8 = m / 2 ^ (8 * j) % 2 ^ 8 := by
    intro j hj
    have hbyte := map_inj_left.mp h (k - 1 - j) (mem_range.mpr (by omega))
    have hindex : k - 1 - (k - 1 - j) = j := by omega
    rw [hindex] at hbyte
    have hnat := congrArg UInt8.toNat hbyte
    rwa [UInt8.toNat_ofNat', UInt8.toNat_ofNat', Nat.mod_mod, Nat.mod_mod] at hnat
  clear h
  induction k generalizing n m with
  | zero => omega
  | succ k ih =>
    have hlow := hbytes 0 (by omega)
    have hpow : (2 : ℕ) ^ (8 * (k + 1)) = 2 ^ (8 * k) * 2 ^ 8 := by ring
    rw [hpow] at hn hm
    have hhigh : n / 2 ^ 8 = m / 2 ^ 8 := by
      refine ih (by omega) (by omega) fun j hj => ?_
      have hnext := hbytes (j + 1) (by omega)
      have hsplit : (2 : ℕ) ^ (8 * (j + 1)) = 2 ^ 8 * 2 ^ (8 * j) := by ring
      rwa [hsplit, ← Nat.div_div_eq_div_mul, ← Nat.div_div_eq_div_mul] at hnext
    simp only [Nat.mul_zero, Nat.pow_zero, Nat.div_one] at hlow
    omega

def unitIdentity (orderLineId : ReceiptOrderLineId) (unitOrdinal : ℕ) : List UInt8 :=
  utf8Bytes receiptPurchaseUnitIdentityVersionV1 ++ [0] ++ uuidBytes orderLineId ++
    bigEndian32 unitOrdinal

theorem unitIdentity_inj {line line' : ReceiptOrderLineId} {ordinal ordinal' : ℕ}
    (hlt : ordinal < maxReceiptQuantity) (hlt' : ordinal' < maxReceiptQuantity)
    (h : unitIdentity line ordinal = unitIdentity line' ordinal') :
    line = line' ∧ ordinal = ordinal' := by
  rw [maxReceiptQuantity] at hlt hlt'
  have hlength : ∀ line line' : ReceiptOrderLineId, (uuidBytes line).length =
      (uuidBytes line').length := by
    intro line line'
    rw [uuidBytes, uuidBytes, length_map, length_map]
  simp only [unitIdentity, append_assoc] at h
  obtain ⟨hline, hordinal⟩ := append_inj
    (append_cancel_left (append_cancel_left h)) (hlength line line')
  have hfour : (2 : ℕ) ^ (8 * 4) = 4294967296 := by norm_num
  refine ⟨Subtype.ext (Fin.ext ?_), eq_of_bytes_eq 4 (by omega) (by omega) hordinal⟩
  exact eq_of_bytes_eq 16 line.1.isLt line'.1.isLt hline

def StoredLine (t : PromotionTables) (orderLineId : ReceiptOrderLineId) : Prop :=
  ∃ id row, t.orders.find? id = some row ∧ orderLineId ∈ row.orderLineIds

def CollisionFree (services : PromotionServices) (t : PromotionTables) : Prop :=
  ∀ line line' ordinal ordinal', StoredLine t line → StoredLine t line' →
    ordinal < maxReceiptQuantity → ordinal' < maxReceiptQuantity →
    digestUuid 8 (services.digest (unitIdentity line ordinal)) =
      digestUuid 8 (services.digest (unitIdentity line' ordinal')) →
    unitIdentity line ordinal = unitIdentity line' ordinal'

variable {services : PromotionServices} {t : PromotionTables}

/-- **Units' ids** differ where the units do. -/
theorem CollisionFree.deriveV1_inj (h : CollisionFree services t)
    {line line' : ReceiptOrderLineId} {ordinal ordinal' : ℕ} {id : ReceiptPurchaseUnitId}
    (hline : StoredLine t line) (hline' : StoredLine t line')
    (hid : ReceiptPurchaseUnitId.deriveV1 services.toContractServices line ordinal = .ok id)
    (hid' : ReceiptPurchaseUnitId.deriveV1 services.toContractServices line' ordinal' = .ok id) :
    line = line' ∧ ordinal = ordinal' := by
  have hlt := deriveV1_lt hid
  have hlt' := deriveV1_lt hid'
  rw [ReceiptPurchaseUnitId.deriveV1, if_neg (not_le.mpr hlt)] at hid
  rw [ReceiptPurchaseUnitId.deriveV1, if_neg (not_le.mpr hlt')] at hid'
  refine unitIdentity_inj hlt hlt' (h line line' ordinal ordinal' hline hline' hlt hlt' ?_)
  exact (Except.ok.inj hid).trans (Except.ok.inj hid').symm

/-! ## Entries by line -/

variable {sourceFilter : Option SourceId}

def ProjectionEntry.orderLineId : ProjectionEntry → Option ReceiptOrderLineId
  | .unit offered => some offered.orderLineId
  | .exclusion excluded => excluded.orderLineId

variable {offered : OfferedLine} {projection : Projection}

variable {entries : List ProjectionEntry} {values : ReceiptPurchaseUnitValuesV1}
  {provenance : ReceiptPurchaseUnitProvenanceV1} {authority : ReceiptPurchaseUnitAuthorityV1}

theorem OfferedLine.Contributes.tagged (h : offered.Contributes services t entries) :
    ∀ entry ∈ entries, entry.orderLineId = some offered.line.orderLineId := by
  intro entry hentry
  cases entry with
  | exclusion excluded => exact (exclusion_of_contributes h hentry).1
  | unit unit =>
    obtain ⟨decision, values, provenance, -, -, hunit⟩ := (UnitOf.of_mem h hentry).offers
    rw [ProjectionEntry.orderLineId, hunit]
    rfl

theorem Consistent.offered_order (hc : Consistent services t)
    (h : offered ∈ offeredLines services t sourceFilter) :
    ∃ row, t.orders.find? offered.head.orderEvidenceId = some row ∧
      row.sourceId = offered.source ∧ offered.line.orderLineId ∈ row.orderLineIds := by
  obtain ⟨⟨hhead, -⟩, hload, hline⟩ := mem_offeredLines.mp h
  obtain ⟨row, reviewHead, hrow, -, -, horder⟩ := loadOrder_eq_ok hload
  obtain ⟨other, hother, hsource⟩ := (hc.authorityHeads _ _ hhead).order
  rw [hrow] at hother
  cases hother
  rw [horder] at hline
  exact ⟨row, hrow, hsource, hc.mem_orderLineIds hrow hline⟩

theorem Consistent.offered_stored (hc : Consistent services t)
    (h : offered ∈ offeredLines services t sourceFilter) :
    StoredLine t offered.line.orderLineId := by
  obtain ⟨row, hrow, -, hline⟩ := hc.offered_order h
  exact ⟨_, row, hrow, hline⟩

/-- **No line is offered twice.** -/
theorem Consistent.offered_nodup (hc : Consistent services t) (sourceFilter : Option SourceId) :
    ((offeredLines services t sourceFilter).map (·.line.orderLineId)).Nodup := by
  have hsources : (selectedHeads t sourceFilter).Pairwise fun a b => a.1 ≠ b.1 := by
    rw [← pairwise_map]
    have hperm : ((selectedHeads t sourceFilter).map Prod.fst).Perm
        ((t.authorityHeads.rows.filter fun row => selects sourceFilter row.1).map Prod.fst) :=
      (perm_insertionSort _ _).map _
    rw [← nodup_iff_pairwise_ne, hperm.nodup_iff]
    exact t.authorityHeads.rows_nodup.sublist (filter_sublist.map _)
  rw [offeredLines, map_flatMap, nodup_flatMap]
  refine ⟨?_, ?_⟩
  · rintro ⟨source, head⟩ -
    unfold headLines
    cases hload : loadOrder services t head.orderEvidenceId with
    | error e => exact nodup_nil
    | ok order =>
      obtain ⟨row, reviewHead, hrow, -, -, horder⟩ := loadOrder_eq_ok hload
      simp only [map_map]
      rw [horder]
      exact ((hc.orders _ _ hrow).sound reviewHead).lineIds
  · -- a line of two sources would be in two orders
    refine hsources.imp_of_mem ?_
    rintro ⟨source, head⟩ ⟨source', head'⟩ hmem hmem' hne line hline hline'
    obtain ⟨offered, hoffered, rfl⟩ := mem_map.mp hline
    obtain ⟨offered', hoffered', hsame⟩ := mem_map.mp hline'
    have hof : offered.source = source := by
      unfold headLines at hoffered
      split at hoffered
      · obtain ⟨_, -, rfl⟩ := mem_map.mp hoffered
        rfl
      · cases hoffered
    have hof' : offered'.source = source' := by
      unfold headLines at hoffered'
      split at hoffered'
      · obtain ⟨_, -, rfl⟩ := mem_map.mp hoffered'
        rfl
      · cases hoffered'
    have hlisted : offered ∈ offeredLines services t sourceFilter :=
      mem_flatMap.mpr ⟨_, hmem, hoffered⟩
    have hlisted' : offered' ∈ offeredLines services t sourceFilter :=
      mem_flatMap.mpr ⟨_, hmem', hoffered'⟩
    obtain ⟨row, hrow, hsource, hin⟩ := hc.offered_order hlisted
    obtain ⟨row', hrow', hsource', hin'⟩ := hc.offered_order hlisted'
    rw [hsame] at hin'
    rw [hc.lineOwner _ _ _ _ _ hrow hrow' hin hin', hrow'] at hrow
    cases hrow
    exact hne (hof.symm.trans (hsource.symm.trans (hsource'.trans hof')))

/-! ## What a line contributes -/

section Contributions

variable {contributions : List (List ProjectionEntry)}

theorem tagged_contributions
    (h : List.Forall₂ (OfferedLine.Contributes services t) (offeredLines services t sourceFilter)
      contributions) :
    List.Forall₂ (fun key list => ∀ entry ∈ list, ProjectionEntry.orderLineId entry = some key)
      ((offeredLines services t sourceFilter).map (·.line.orderLineId)) contributions := by
  rw [forall₂_map_left_iff]
  exact h.imp fun _ _ hcontributes => hcontributes.tagged

/-- **The entries of a line** are what it contributes. -/
theorem Consistent.entries_of_line (hc : Consistent services t)
    (h : List.Forall₂ (OfferedLine.Contributes services t) (offeredLines services t sourceFilter)
      contributions) {offered : OfferedLine}
    (hoffered : offered ∈ offeredLines services t sourceFilter) :
    ∃ entries, offered.Contributes services t entries ∧ contributions.flatten.filter
        (fun entry => entry.orderLineId = some offered.line.orderLineId) = entries := by
  have hnodup := (hc.offered_nodup sourceFilter).map (Option.some_injective ReceiptOrderLineId)
  rw [map_map] at hnodup
  have htagged : List.Forall₂
      (fun key list => ∀ entry ∈ list, ProjectionEntry.orderLineId entry = key)
      ((offeredLines services t sourceFilter).map (some ∘ (·.line.orderLineId))) contributions := by
    rw [← map_map, forall₂_map_left_iff]
    exact tagged_contributions h
  have hfilter := filter_flatten_of_tagged htagged hnodup
  rw [forall₂_map_left_iff] at hfilter
  obtain ⟨i, hi, hget⟩ := getElem_of_mem hoffered
  obtain ⟨hlength, hcontributes⟩ := forall₂_iff_get.mp h
  obtain ⟨-, hfiltered⟩ := forall₂_iff_get.mp hfilter
  have hi' : i < contributions.length := hlength ▸ hi
  have hline := hcontributes i hi hi'
  have hentries := hfiltered i hi hi'
  rw [get_eq_getElem, get_eq_getElem, hget] at hline hentries
  exact ⟨contributions[i], hline, hentries⟩

theorem unit_of_entry
    (h : List.Forall₂ (OfferedLine.Contributes services t) (offeredLines services t sourceFilter)
      contributions) {unit : ReceiptPurchaseUnitV1}
    (hunit : unit ∈ contributions.flatten.filterMap ProjectionEntry.unit?) :
    ∃ offered ∈ offeredLines services t sourceFilter, UnitOf services t offered unit ∧
      unit.orderLineId = offered.line.orderLineId := by
  obtain ⟨entry, hentry, heq⟩ := mem_filterMap.mp hunit
  obtain ⟨entries, hentries, hentry⟩ := mem_flatten.mp hentry
  obtain ⟨offered, hoffered, hcontributes⟩ := exists_of_forall₂ h entries hentries
  cases entry with
  | exclusion _ => cases heq
  | unit found =>
    cases heq
    exact ⟨offered, hoffered, UnitOf.of_mem hcontributes hentry,
      Option.some.inj (hcontributes.tagged _ hentry)⟩

def ProjectionEntry.unitOrdinal : ProjectionEntry → Option ℕ
  | .unit offered => some offered.unitOrdinal
  | .exclusion excluded => excluded.unitOrdinal

theorem projectUnit_ordinal {orderLineId : ReceiptOrderLineId} {unitOrdinal : ℕ}
    {entry : ProjectionEntry}
    (h : projectUnit services t authority orderLineId values provenance unitOrdinal = .ok entry) :
    entry.unitOrdinal = some unitOrdinal := by
  obtain ⟨id, -, ⟨-, rfl⟩ | ⟨-, -, rfl⟩⟩ := projectUnit_eq_ok.mp h <;> rfl

theorem ordinals_perm (entries : List ProjectionEntry) :
    ((entries.filterMap ProjectionEntry.unit?).map (·.unitOrdinal) ++
      (entries.filterMap ProjectionEntry.exclusion?).filterMap (·.unitOrdinal)).Perm
      (entries.filterMap ProjectionEntry.unitOrdinal) := by
  induction entries with
  | nil => exact .nil
  | cons entry rest ih =>
    cases entry with
    | unit unit => exact ih.cons unit.unitOrdinal
    | exclusion excluded =>
      cases hordinal : excluded.unitOrdinal with
      | none =>
        simp only [filterMap_cons, ProjectionEntry.unit?, ProjectionEntry.exclusion?,
          ProjectionEntry.unitOrdinal, hordinal]
        exact ih
      | some ordinal =>
        simp only [filterMap_cons, ProjectionEntry.unit?, ProjectionEntry.exclusion?,
          ProjectionEntry.unitOrdinal, hordinal]
        exact perm_middle.trans (ih.cons ordinal)

theorem ordinals_of_projected {orderLineId : ReceiptOrderLineId} {ordinals : List ℕ}
    (h : List.Forall₂ (fun unitOrdinal entry => projectUnit services t authority orderLineId values
      provenance unitOrdinal = .ok entry) ordinals entries) :
    entries.filterMap ProjectionEntry.unitOrdinal = ordinals := by
  induction h with
  | nil => rfl
  | cons hentry _ ih => rw [filterMap_cons, projectUnit_ordinal hentry, ih]

theorem OfferedLine.Contributes.ordinals_nodup {offered : OfferedLine}
    (h : offered.Contributes services t entries) :
    (entries.filterMap ProjectionEntry.unitOrdinal).Nodup := by
  cases h with
  | excluded reason => exact nodup_nil
  | units _ hprojected =>
    rw [ordinals_of_projected hprojected]
    exact nodup_range

def unitKey (unit : ReceiptPurchaseUnitV1) : ReceiptOrderLineId × ℕ :=
  (unit.orderLineId, unit.unitOrdinal)

/-- **No unit of a line is there twice.** -/
theorem Consistent.unitKeys_nodup (hc : Consistent services t)
    (h : List.Forall₂ (OfferedLine.Contributes services t) (offeredLines services t sourceFilter)
      contributions) :
    ((contributions.flatten.filterMap ProjectionEntry.unit?).map unitKey).Nodup := by
  have hflat : (contributions.flatten.filterMap ProjectionEntry.unit?).map unitKey =
      (contributions.map fun entries =>
        (entries.filterMap ProjectionEntry.unit?).map unitKey).flatten := by
    rw [filterMap_flatten, map_flatten, map_map]
    rfl
  have htagged : List.Forall₂ (fun key list => ∀ pair ∈ list, Prod.fst pair = key)
      ((offeredLines services t sourceFilter).map (·.line.orderLineId))
      (contributions.map fun entries =>
        (entries.filterMap ProjectionEntry.unit?).map unitKey) := by
    rw [forall₂_map_right_iff]
    refine (tagged_contributions h).imp fun key entries htagged pair hpair => ?_
    obtain ⟨unit, hunit, rfl⟩ := mem_map.mp hpair
    obtain ⟨entry, hentry, heq⟩ := mem_filterMap.mp hunit
    cases entry with
    | exclusion _ => cases heq
    | unit found =>
      cases heq
      exact Option.some.inj (htagged _ hentry)
  rw [hflat]
  refine nodup_flatten_of_tagged htagged (hc.offered_nodup sourceFilter) fun list hlist => ?_
  obtain ⟨entries, hentries, rfl⟩ := mem_map.mp hlist
  obtain ⟨offered, -, hcontributes⟩ := exists_of_forall₂ h entries hentries
  have hordinals := (ordinals_perm entries).nodup_iff.mpr hcontributes.ordinals_nodup
  refine List.Nodup.of_map Prod.snd ?_
  rw [map_map]
  exact (nodup_append.mp hordinals).1

end Contributions

/-! ## Promotions -/

theorem historical_eq {visible : List ReceiptPurchaseUnitId}
    {historical : List ReceiptPurchaseUnitV1}
    (h : loadHistoricalPromotions services t sourceFilter visible = .ok historical) :
    historical = ((joinedPromotions t sourceFilter).filter fun row =>
      !visible.contains row.promotion.purchaseUnitId).map
        (JoinedPromotion.unit (purchaseUnitSnapshot t)) := by
  refine Eq.symm ?_
  rw [← forall₂_eq_eq_eq, forall₂_map_left_iff]
  refine (check_mapM_eq_ok.mp h).imp fun joined unit hok => ?_
  simp only at hok
  split at hok
  · cases hok
  · exact Except.ok.inj hok

/-- **No two promotions are of one unit.** -/
theorem Consistent.joined_nodup (hc : Consistent services t) (sourceFilter : Option SourceId) :
    ((joinedPromotions t sourceFilter).map (·.promotion.purchaseUnitId)).Nodup := by
  have hnodup : (joinedPromotions t sourceFilter).Nodup := by
    rw [joinedPromotions, (perm_insertionSort _ _).nodup_iff]
    refine List.Nodup.filterMap ?_ t.promotions.rows_nodup.of_map
    rintro ⟨⟨line, ordinal⟩, row⟩ ⟨⟨line', ordinal'⟩, row'⟩ joined hjoined hjoined'
    obtain ⟨snapshot, -, rfl⟩ := Option.map_eq_some_iff.mp hjoined
    obtain ⟨snapshot', -, heq⟩ := Option.map_eq_some_iff.mp hjoined'
    obtain ⟨rfl, rfl, rfl, -⟩ := JoinedPromotion.mk.inj heq
    rfl
  refine hnodup.map_on ?_
  rintro ⟨line, ordinal, row, snapshot⟩ hjoined ⟨line', ordinal', row', snapshot'⟩ hjoined' heq
  obtain ⟨hrow, hsnapshot, -⟩ := mem_joinedPromotions.mp hjoined
  obtain ⟨hrow', hsnapshot', -⟩ := mem_joinedPromotions.mp hjoined'
  obtain ⟨rfl, rfl⟩ := Prod.mk.inj (hc.unitOwner _ _ _ _ hrow hrow' (.inl heq))
  rw [hrow] at hrow'
  obtain rfl : row = row' := Option.some.inj hrow'
  rw [hsnapshot] at hsnapshot'
  obtain rfl : snapshot = snapshot' := Option.some.inj hsnapshot'
  rfl

theorem Consistent.promotion_shown (hc : Consistent services t)
    (hoffered : offered ∈ offeredLines services t sourceFilter) {decision : ReceiptReviewDecisionV1}
    (hoffers : Offers t offered.source offered.head offered.order decision offered.line values
      provenance)
    (hprojected : List.Forall₂ (fun unitOrdinal entry =>
      projectUnit services t (sourceAuthority offered.source offered.head decision offered.order)
        offered.line.orderLineId values provenance unitOrdinal = .ok entry)
      (range values.quantity) entries) {joined : JoinedPromotion}
    (hjoined : joined ∈ joinedPromotions t sourceFilter)
    (hline : joined.orderLineId = offered.line.orderLineId) :
    ∃ unit, .unit unit ∈ entries ∧ unit.purchaseUnitId = joined.promotion.purchaseUnitId := by
  obtain ⟨hrow, hsnapshot, -⟩ := mem_joinedPromotions.mp hjoined
  have hvalid := hc.promotions _ _ hrow
  obtain ⟨snapshot, hfound, hof, hquantity⟩ := hvalid.snapshot
  rw [hsnapshot] at hfound
  cases hfound
  have hsnapshotValid := hc.snapshots _ _ hsnapshot
  obtain ⟨hauthority, -, hunder⟩ := hoffers.under hc hoffered
  obtain ⟨row, hrowOrder, hsource, hin⟩ := hc.offered_order hoffered
  -- the order of the promotion is the order of the line, so their source is the same
  have hsnapshotUnder := hsnapshotValid.under
  obtain ⟨order, -, index, line, horder, hlocal, -, -, -, hat, hlineId, -⟩ := hsnapshotUnder.ofLine
  have hinOrder : offered.line.orderLineId ∈ order.orderLineIds := by
    have hmem := hc.mem_orderLineIds horder (mem_of_getElem? hat)
    rwa [hlineId, hof, hline] at hmem
  have hsame := hc.lineOwner _ _ _ _ _ hrowOrder horder hin hinOrder
  rw [← hsame, hrowOrder] at horder
  cases horder
  -- so the promotion is under the authority in force, with its values
  have hunchanged := hoffers.unchanged
  simp only [sourceHasPriorAuthorityState, Bool.or_eq_false_iff, any_eq_false] at hunchanged
  have hprior := hunchanged.1 _ (Table.mem_rows.mpr hrow)
  simp only [hsnapshot, Option.any_some, ← hlocal, hsource, decide_true, Bool.true_and,
    Bool.or_eq_true, decide_eq_true_eq, not_or, not_not] at hprior
  rw [← hsnapshotValid.authorityId, hprior.1, hauthority, hof, hline] at hsnapshotUnder
  have hvalues := (hunder.unique hc hsnapshotUnder).2.2.2.1
  have hordinal : joined.unitOrdinal < values.quantity := by
    have hlt := hvalid.ordinal
    rw [hquantity, ← hvalues] at hlt
    exact hlt
  obtain ⟨hlength, hget⟩ := forall₂_iff_get.mp hprojected
  have hordinal' : joined.unitOrdinal < entries.length := by
    rw [← hlength, length_range]
    exact hordinal
  have hentry := hget joined.unitOrdinal (by rwa [length_range]) hordinal'
  rw [get_eq_getElem, get_eq_getElem, getElem_range] at hentry
  obtain ⟨id, hid, hcases⟩ := projectUnit_eq_ok.mp hentry
  have hderived := hvalid.purchaseUnitId
  simp only [hline] at hderived
  rw [hid] at hderived
  cases hderived
  rcases hcases with ⟨⟨deletion, hdeleted⟩, -⟩ | ⟨-, -, hunit⟩
  · rw [hvalid.undeleted] at hdeleted
    cases hdeleted
  · have hmem := getElem_mem hordinal'
    rw [hunit] at hmem
    exact ⟨_, hmem, rfl⟩

/-! ## The partition -/

def Projection.exclusionsOf (projection : Projection) (orderLineId : ReceiptOrderLineId) :
    List ReceiptPurchaseUnitExclusionV1 :=
  projection.exclusions.filter fun excluded => excluded.orderLineId = some orderLineId

def Projection.unitsOf (projection : Projection) (orderLineId : ReceiptOrderLineId) :
    List ReceiptPurchaseUnitV1 :=
  projection.units.filter fun offered => offered.orderLineId = orderLineId

inductive LinePartition (projection : Projection) (offered : OfferedLine) : Prop
  | excluded (reason : ReceiptPurchaseUnitExclusionReasonV1)
      (once : projection.exclusionsOf offered.line.orderLineId =
        [lineExclusion offered.source offered.order.orderEvidenceId reason offered.line])
      (promoted : ∀ unit ∈ projection.unitsOf offered.line.orderLineId, unit.status ≠ .available)
  | units (quantity : ℕ)
      (known : ∃ state decision index, offered.order.reviewHead = some ⟨state, decision⟩ ∧
        offered.order.lineItems[index]? = some offered.line ∧
        effectiveQuantity decision.correctedOrder index offered.line = some quantity)
      (once : ((projection.unitsOf offered.line.orderLineId).map (·.unitOrdinal) ++
        (projection.exclusionsOf offered.line.orderLineId).filterMap (·.unitOrdinal)).Perm
          (List.range quantity))
      (deleted : ∀ excluded ∈ projection.exclusionsOf offered.line.orderLineId,
        excluded.reason = .userDeleted ∧ excluded.unitOrdinal.isSome)

theorem effectiveQuantity_of_values {order : ReceiptOrderEvidenceV1} {line : ReceiptOrderLineV1}
    {corrected : Option CorrectedReceiptOrderV1} {index : ℕ}
    {reviewDecisionId : ReceiptReviewDecisionId}
    (h : effectiveValues order line corrected index reviewDecisionId = .ok (values, provenance)) :
    effectiveQuantity corrected index line = some values.quantity := by
  unfold effectiveValues at h
  cases corrected with
  | none =>
    cases hevent : line.eventKind.value <;> cases hquantity : line.quantity.value <;>
      simp only [hevent, hquantity] at h
    · cases h
    · cases h
    · cases h
    · obtain ⟨rfl, -⟩ := Prod.mk.inj (Except.ok.inj h)
      simpa [effectiveQuantity] using hquantity
  | some corrected =>
    cases hline : (corrected.lineItems[index]?).filter
      (fun candidate => candidate.orderLineId = line.orderLineId) with
    | none => simp [hline] at h
    | some correctedLine =>
      have hat := (Option.filter_eq_some_iff.mp hline).1
      cases hevent : correctedLine.eventKind <;> cases hquantity : correctedLine.quantity <;>
        simp only [hline, hevent, hquantity] at h
      · cases h
      · cases h
      · cases h
      · obtain ⟨rfl, -⟩ := Prod.mk.inj (Except.ok.inj h)
        simp only [effectiveQuantity, Option.bind_some, hat]
        exact hquantity

theorem Consistent.reviewRequired_of_line (hc : Consistent services t)
    (hoffered : offered ∈ offeredLines services t sourceFilter)
    {exclusions : List ReceiptPurchaseUnitExclusionV1}
    (h : appendReviewRequiredExclusions services t sourceFilter = .ok exclusions) :
    exclusions.filter (fun excluded => excluded.orderLineId = some offered.line.orderLineId) =
      [] := by
  rw [filter_eq_nil_iff]
  intro excluded hexcluded heq
  obtain ⟨orderId, row, order, line, hrow, hnone, hload, hline, rfl⟩ :=
    mem_reviewRequired h hexcluded
  have hsame : line.orderLineId = offered.line.orderLineId :=
    Option.some.inj (of_decide_eq_true heq)
  obtain ⟨other, reviewHead, hother, -, -, horder⟩ := loadOrder_eq_ok hload
  rw [hrow] at hother
  cases hother
  rw [horder] at hline
  have hin := hc.mem_orderLineIds hrow hline
  obtain ⟨offeredRow, hofferedRow, hsource, hofferedIn⟩ := hc.offered_order hoffered
  rw [hsame] at hin
  rw [hc.lineOwner _ _ _ _ _ hrow hofferedRow hin hofferedIn, hofferedRow] at hrow
  cases hrow
  obtain ⟨⟨hhead, -⟩, -⟩ := mem_offeredLines.mp hoffered
  rw [hsource, hhead] at hnone
  cases hnone

theorem filterMap_filter_line (entries : List ProjectionEntry) (orderLineId : ReceiptOrderLineId) :
    ((entries.filterMap ProjectionEntry.unit?).filter (fun offered =>
        offered.orderLineId = orderLineId) =
      (entries.filter (fun entry => entry.orderLineId = some orderLineId)).filterMap
        ProjectionEntry.unit?) ∧
    ((entries.filterMap ProjectionEntry.exclusion?).filter (fun excluded =>
        excluded.orderLineId = some orderLineId) =
      (entries.filter (fun entry => entry.orderLineId = some orderLineId)).filterMap
        ProjectionEntry.exclusion?) := by
  induction entries with
  | nil => exact ⟨rfl, rfl⟩
  | cons entry rest ih =>
    cases entry with
    | unit unit =>
      by_cases hline : unit.orderLineId = orderLineId <;>
        simpa [filterMap_cons, ProjectionEntry.unit?, ProjectionEntry.exclusion?,
          ProjectionEntry.orderLineId, hline] using ih
    | exclusion excluded =>
      by_cases hline : excluded.orderLineId = some orderLineId <;>
        simpa [filterMap_cons, ProjectionEntry.unit?, ProjectionEntry.exclusion?,
          ProjectionEntry.orderLineId, hline] using ih

/-- **Each line** is in a projection in one of the two ways. -/
theorem Consistent.line_partition (hc : Consistent services t)
    (h : projectPurchaseUnits services t sourceFilter = .ok projection)
    (hoffered : offered ∈ offeredLines services t sourceFilter) :
    LinePartition projection offered := by
  obtain ⟨reviewRequired, contributions, historical, hrequired, hcontributions, hhistorical,
    hunits, hexclusions⟩ := projectPurchaseUnits_eq_ok h
  obtain ⟨entries, hentries, hfilter⟩ := hc.entries_of_line hcontributions hoffered
  have hunitsOf : projection.unitsOf offered.line.orderLineId =
      entries.filterMap ProjectionEntry.unit? ++ historical.filter (fun unit =>
        unit.orderLineId = offered.line.orderLineId) := by
    rw [Projection.unitsOf, hunits, filter_append, (filterMap_filter_line _ _).1, hfilter]
  have hexclusionsOf : projection.exclusionsOf offered.line.orderLineId =
      entries.filterMap ProjectionEntry.exclusion? := by
    rw [Projection.exclusionsOf, hexclusions, filter_append,
      hc.reviewRequired_of_line hoffered hrequired, (filterMap_filter_line _ _).2, hfilter,
      nil_append]
  cases hentries with
  | excluded reason =>
    refine .excluded reason (by rw [hexclusionsOf]; rfl) fun unit hunit => ?_
    rw [hunitsOf] at hunit
    obtain ⟨joined, -, -, rfl, -⟩ := mem_historical hhistorical (mem_filter.mp hunit).1
    exact ReceiptPurchaseUnitStatusV1.noConfusion
  | @units decision values provenance entries hoffers hprojected =>
    obtain ⟨state, hdecided⟩ := hoffers.decided
    obtain ⟨index, hline, hvalues⟩ := hoffers.ofLine
    have hnone : historical.filter (fun unit =>
        unit.orderLineId = offered.line.orderLineId) = [] := by
      rw [filter_eq_nil_iff]
      intro unit hunit hsame
      obtain ⟨joined, hjoined, hvisible, rfl, -⟩ := mem_historical hhistorical hunit
      obtain ⟨shown, hshown, hid⟩ := hc.promotion_shown hoffered hoffers hprojected hjoined
        (of_decide_eq_true hsame)
      refine hvisible (mem_map.mpr ⟨shown, mem_filterMap.mpr ⟨.unit shown, ?_, rfl⟩, hid⟩)
      rw [← hfilter] at hshown
      exact (mem_filter.mp hshown).1
    refine .units values.quantity
      ⟨state, decision, index, hdecided, hline, effectiveQuantity_of_values hvalues⟩ ?_ ?_
    · rw [hunitsOf, hexclusionsOf, hnone, append_nil]
      have hperm := ordinals_perm entries
      rwa [ordinals_of_projected hprojected] at hperm
    · intro excluded hexcluded
      rw [hexclusionsOf] at hexcluded
      obtain ⟨entry, hentry, heq⟩ := mem_filterMap.mp hexcluded
      obtain ⟨ordinal, -, hok⟩ := exists_of_forall₂ hprojected entry hentry
      obtain ⟨id, -, ⟨-, rfl⟩ | ⟨-, -, rfl⟩⟩ := projectUnit_eq_ok.mp hok
      · cases heq
        exact ⟨rfl, rfl⟩
      · cases heq

/-- **No unit is there twice.** -/
theorem Consistent.unitIds_nodup (hc : Consistent services t) (hfree : CollisionFree services t)
    (h : projectPurchaseUnits services t sourceFilter = .ok projection) :
    (projection.units.map (·.purchaseUnitId)).Nodup := by
  obtain ⟨-, contributions, historical, -, hcontributions, hhistorical, hunits, -⟩ :=
    projectPurchaseUnits_eq_ok h
  rw [hunits, map_append, nodup_append]
  refine ⟨?_, ?_, ?_⟩
  · have hkeys := hc.unitKeys_nodup hcontributions
    refine hkeys.of_map.map_on fun unit hunit unit' hunit' heq => ?_
    obtain ⟨offered, hoffered, hof, hline⟩ := unit_of_entry hcontributions hunit
    obtain ⟨offered', hoffered', hof', hline'⟩ := unit_of_entry hcontributions hunit'
    have hderived' := hof'.derived
    rw [← heq] at hderived'
    obtain ⟨hsame, hordinal⟩ := hfree.deriveV1_inj (hc.offered_stored hoffered)
      (hc.offered_stored hoffered') hof.derived hderived'
    refine inj_on_of_nodup_map hkeys hunit hunit' ?_
    rw [unitKey, unitKey, hline, hline', hsame, hordinal]
  · rw [historical_eq hhistorical, map_map]
    exact (hc.joined_nodup sourceFilter).sublist (filter_sublist.map _)
  · rintro id hvisible id' hid' rfl
    obtain ⟨unit, hunit, rfl⟩ := mem_map.mp hid'
    obtain ⟨joined, -, hnot, rfl, -⟩ := mem_historical hhistorical hunit
    exact hnot hvisible

/-- **Each promotion is there once**, as the unit it is of. -/
theorem Consistent.promotion_once (hc : Consistent services t) (hfree : CollisionFree services t)
    (h : projectPurchaseUnits services t sourceFilter = .ok projection) {joined : JoinedPromotion}
    (hjoined : joined ∈ joinedPromotions t sourceFilter) :
    ∃ unit, projection.units.filter (fun unit =>
        unit.purchaseUnitId = joined.promotion.purchaseUnitId) = [unit] ∧
      unitKey unit = (joined.orderLineId, joined.unitOrdinal) ∧
      unit.status = joined.promotion.status := by
  have hnodup := hc.unitIds_nodup hfree h
  obtain ⟨-, contributions, historical, -, hcontributions, hhistorical, hunits, -⟩ :=
    projectPurchaseUnits_eq_ok h
  obtain ⟨hrow, hsnapshot, -⟩ := mem_joinedPromotions.mp hjoined
  by_cases hvisible : joined.promotion.purchaseUnitId ∈
      (contributions.flatten.filterMap ProjectionEntry.unit?).map (·.purchaseUnitId)
  · obtain ⟨unit, hunit, hid⟩ := mem_map.mp hvisible
    have hmem : unit ∈ projection.units := by
      rw [hunits]
      exact mem_append_left _ hunit
    obtain ⟨offered, hoffered, hof, hline⟩ := unit_of_entry hcontributions hunit
    -- the promotion's line is stored, so its unit is the one of that line
    have hvalid := hc.promotions _ _ hrow
    obtain ⟨snapshot, hfound, hofLine, -⟩ := hvalid.snapshot
    have hstored : StoredLine t joined.orderLineId := by
      obtain ⟨order, -, index, line, horder, -, -, -, -, hat, hlineId, -⟩ :=
        (hc.snapshots _ _ hfound).under.ofLine
      refine ⟨_, order, horder, ?_⟩
      have hin := hc.mem_orderLineIds horder (mem_of_getElem? hat)
      rwa [hlineId, hofLine] at hin
    have hderived := hof.derived
    rw [hid] at hderived
    obtain ⟨hsame, hordinal⟩ := hfree.deriveV1_inj (hc.offered_stored hoffered) hstored hderived
      hvalid.purchaseUnitId
    refine ⟨unit, ?_, ?_, ?_⟩
    · rw [← hid]
      exact filter_eq_singleton hnodup hmem
    · rw [unitKey, hline, hsame, hordinal]
    · obtain ⟨decision, values, provenance, -, -, hcurrent⟩ := hof.offers
      rw [hcurrent, hordinal]
      simp only [currentUnit, hsame, hrow, Option.map_some, Option.getD_some]
  · have hmem : joined.unit (purchaseUnitSnapshot t) ∈ projection.units := by
      rw [hunits, historical_eq hhistorical]
      refine mem_append_right _ (mem_map_of_mem (mem_filter.mpr ⟨hjoined, ?_⟩))
      simpa using hvisible
    exact ⟨joined.unit (purchaseUnitSnapshot t), filter_eq_singleton hnodup hmem, rfl, rfl⟩

/-- **A projection is a partition**, over every run. Each line of an order in force is in it as
one exclusion of the line, or each of its units once, as a unit or as deleted; no unit is in it
twice; and each promotion of a source is in it once. -/
theorem projection_partition {log : List CarriedOut} (h : Reachable services log t)
    (hfree : CollisionFree services t) {projection : Projection}
    (hproject : projectPurchaseUnits services t sourceFilter = .ok projection) :
    (∀ offered ∈ offeredLines services t sourceFilter, LinePartition projection offered) ∧
      (projection.units.map (·.purchaseUnitId)).Nodup ∧
      ∀ joined ∈ joinedPromotions t sourceFilter, ∃ unit, projection.units.filter (fun unit =>
          unit.purchaseUnitId = joined.promotion.purchaseUnitId) = [unit] ∧
        unitKey unit = (joined.orderLineId, joined.unitOrdinal) ∧
        unit.status = joined.promotion.status := by
  have hc := h.consistent
  exact ⟨fun offered hoffered => hc.line_partition hproject hoffered,
    hc.unitIds_nodup hfree hproject,
    fun joined hjoined => hc.promotion_once hfree hproject hjoined⟩

namespace PromotionExample

def ordinalDigest (bytes : List UInt8) : String :=
  String.ofList ((bytes.drop (bytes.length - 2)).flatMap (fun b =>
    [Nat.digitChar (b.toNat / 16), Nat.digitChar (b.toNat % 16)]) ++ List.replicate 60 '0')

def distinctServices : PromotionServices := { exampleServices with digest := ordinalDigest }

def unitId (unitOrdinal : ℕ) : ReceiptPurchaseUnitId :=
  digestUuid 8 (ordinalDigest (unitIdentity (.above 5) unitOrdinal))

def mixed : List CarriedOut × PromotionTables :=
  runAll distinctServices noTables
    [.store (.above 1) (orderRow 2 100), .review (confirmation 0) 0,
      .promote { promotion with
        purchaseUnitId := unitId 0
        expectedUnitSnapshotSha256 := ordinalDigest [] } 0,
      .delete (.purchaseUnit (unitId 1)) (.above 9) 0]

theorem hexValue_digitChar : ∀ d < 16, hexValue (Nat.digitChar d) = d := by decide

theorem ordinalDigest_value (line : ReceiptOrderLineId) {ordinal : ℕ} (h : ordinal < 2 ^ 16) :
    (digestUuid 8 (ordinalDigest (unitIdentity line ordinal))).1.val / 16 ^ 28 = ordinal := by
  have hbytes : (unitIdentity line ordinal).drop ((unitIdentity line ordinal).length - 2) =
      [UInt8.ofNat (ordinal / 2 ^ 8 % 2 ^ 8), UInt8.ofNat (ordinal % 2 ^ 8)] := by
    have hsplit : unitIdentity line ordinal =
        (utf8Bytes receiptPurchaseUnitIdentityVersionV1 ++ [0] ++ uuidBytes line ++
          [UInt8.ofNat (ordinal / 2 ^ 24 % 2 ^ 8), UInt8.ofNat (ordinal / 2 ^ 16 % 2 ^ 8)]) ++
          [UInt8.ofNat (ordinal / 2 ^ 8 % 2 ^ 8), UInt8.ofNat (ordinal % 2 ^ 8)] := by
      rw [append_assoc, unitIdentity]
      congr 1
      simp [bigEndian32, range, range.loop]
    rw [hsplit, length_append, length_cons, length_singleton, Nat.add_sub_cancel, drop_left]
  -- the digits of the two bytes come first, those of a constant after them
  have hdigits : uuidDigits 8 (ordinalDigest (unitIdentity line ordinal)) =
      ordinal / 2 ^ 12 % 16 :: ordinal / 2 ^ 8 % 16 :: ordinal / 2 ^ 4 % 16 ::
        ordinal % 16 :: (replicate 8 0 ++ 8 :: (replicate 3 0 ++ 8 :: replicate 15 0)) := by
    have hd : ∀ n, hexValue (Nat.digitChar (n % 16)) = n % 16 :=
      fun n => hexValue_digitChar _ (Nat.mod_lt n (by decide))
    have h1 : ordinal / 2 ^ 8 % 2 ^ 8 / 16 = ordinal / 2 ^ 12 % 16 := by omega
    have h2 : ordinal / 2 ^ 8 % 2 ^ 8 % 16 = ordinal / 2 ^ 8 % 16 := by omega
    have h3 : ordinal % 2 ^ 8 / 16 = ordinal / 2 ^ 4 % 16 := by omega
    have h4 : ordinal % 2 ^ 8 % 16 = ordinal % 16 := by omega
    have hzero : hexValue '0' = 0 := by decide
    rw [uuidDigits, ordinalDigest, hbytes]
    simp only [flatMap_cons, flatMap_nil, UInt8.toNat_ofNat', Nat.mod_mod, h1, h2, h3, h4,
      append_nil, cons_append, nil_append, String.toList_ofList, map_cons,
      map_replicate, hzero, hd]
    rfl
  have hvalue : Numeral.value 16 (uuidDigits 8 (ordinalDigest (unitIdentity line ordinal))) =
      ordinal * 16 ^ 28 + 8 * 16 ^ 19 + 8 * 16 ^ 15 := by
    have hrest : Numeral.value 16 (replicate 8 0 ++ 8 :: (replicate 3 0 ++ 8 ::
        replicate 15 0)) = 8 * 16 ^ 19 + 8 * 16 ^ 15 := by decide
    rw [hdigits, Numeral.value_cons, Numeral.value_cons, Numeral.value_cons, Numeral.value_cons,
      hrest]
    simp only [length_cons, length_append, length_replicate]
    omega
  rw [digestUuid, dif_pos]
  · simp only [hvalue]
    omega
  · rw [hvalue]
    omega
theorem mixed_reachable : Reachable distinctServices mixed.1 mixed.2 := by
  have hfresh : Reachable distinctServices [] noTables := .fresh noTables_fresh
  have hrun := hfresh.runAll [.store (.above 1) (orderRow 2 100), .review (confirmation 0) 0,
      .promote { promotion with
        purchaseUnitId := unitId 0
        expectedUnitSnapshotSha256 := ordinalDigest [] } 0,
      .delete (.purchaseUnit (unitId 1)) (.above 9) 0]
  rw [nil_append] at hrun
  exact hrun

theorem mixed_facts : (∀ entry ∈ mixed.2.orders.rows, entry.2.orderLineIds = [.above 5]) ∧
    (projectPurchaseUnits distinctServices mixed.2 none).toOption.map
      (fun projection => (projection.units.length, projection.exclusions.length)) =
        some (1, 1) := by
  decide +kernel

theorem mixed_collisionFree : CollisionFree distinctServices mixed.2 := by
  intro line line' ordinal ordinal' hline hline' hlt hlt' heq
  have honly : ∀ line, StoredLine mixed.2 line → line = .above 5 := by
    rintro line ⟨id, row, hrow, hin⟩
    rw [mixed_facts.1 (id, row) (Table.mem_rows.mpr hrow)] at hin
    exact mem_singleton.mp hin
  rw [maxReceiptQuantity] at hlt hlt'
  have hordinal : ordinal = ordinal' := by
    rw [← ordinalDigest_value line (show ordinal < 2 ^ 16 by omega),
      ← ordinalDigest_value line' (show ordinal' < 2 ^ 16 by omega)]
    exact congrArg (fun id : ReceiptUuidId => id.1.val / 16 ^ 28) heq
  rw [honly line hline, honly line' hline', hordinal]

/-- One unit was promoted, the other deleted: the line's two entries. -/
theorem mixed_partition :
    ∃ projection, projectPurchaseUnits distinctServices mixed.2 none = .ok projection ∧
      projection.units.length = 1 ∧ projection.exclusions.length = 1 ∧
      (projection.units.map (·.purchaseUnitId)).Nodup := by
  have hproject := mixed_facts.2
  cases h : projectPurchaseUnits distinctServices mixed.2 none with
  | error e =>
    rw [h] at hproject
    cases hproject
  | ok projection =>
    rw [h] at hproject
    obtain ⟨hunits, hexclusions⟩ := Prod.mk.inj (Option.some.inj hproject)
    obtain ⟨-, hnodup, -⟩ := projection_partition mixed_reachable mixed_collisionFree h
    exact ⟨projection, rfl, hunits, hexclusions, hnodup⟩

end PromotionExample

end Threadbook.Promotion
