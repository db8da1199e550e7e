import Mathlib
import Threadbook.ListingConsistency
import Threadbook.PromotionPartition

/-!
# Pages of units

The cursor of a page is a text: the revisions it was made at, the filter and an offset. Following
the cursors lists every entry once, and a cursor made for anything else is rejected
(**`listing_lossless`**).
-/

namespace Threadbook.Promotion

open List

open Catalog (PageCursorV1 Pages parseU64_toDigits splitOn_new u64Bound)

/-! ## Cursors as texts -/

def listCursorKind : String := "receipt-purchase-units-v1"

def statusDb : ReceiptPurchaseUnitStatusFilterV1 → String
  | .available => "available"
  | .promoted => "promoted"

def sourceText (sourceId : Option SourceId) : List Char :=
  (sourceId.elim "*" ReceiptUuidId.text).toList

def statusText (status : Option ReceiptPurchaseUnitStatusFilterV1) : List Char :=
  (status.elim "*" statusDb).toList

def ListCursor.pieces (self : ListCursor) : List (List Char) :=
  [listCursorKind.toList, Nat.toDigits 10 self.snapshot.receiptRevision,
    Nat.toDigits 10 self.snapshot.evidenceGeneration,
    Nat.toDigits 10 self.snapshot.catalogRevision, sourceText self.sourceId,
    statusText self.status, Nat.toDigits 10 self.offset]

def makeListCursor (cursor : ListCursor) : Except PlatformError PageCursorV1 :=
  match PageCursorV1.new (String.ofList (['.'].intercalate cursor.pieces)) with
  | none => .error (.corrupt "receipt_purchase_unit_cursor")
  | some text => .ok text

def parseListCursorText (cursor : Option PageCursorV1) (snapshot : ReceiptPurchaseUnitSnapshotV1)
    (sourceId : Option SourceId) (status : Option ReceiptPurchaseUnitStatusFilterV1) :
    Except PlatformError ℕ :=
  match cursor with
  | none => .ok 0
  | some cursor =>
    match cursor.text.toList.splitOn '.' with
    | [kind, receipt, evidence, catalog, source, filter, offset] =>
      if kind ≠ listCursorKind.toList ∨
          Catalog.parseU64 receipt ≠ some snapshot.receiptRevision ∨
          Catalog.parseU64 evidence ≠ some snapshot.evidenceGeneration ∨
          Catalog.parseU64 catalog ≠ some snapshot.catalogRevision ∨
          source ≠ sourceText sourceId ∨ filter ≠ statusText status then
        .error (.conflict "snapshot_expired")
      else match Catalog.parseU64 offset with
        | none => .error (.invalidInput "receipt_purchase_unit_cursor")
        | some offset => .ok offset
    | _ => .error (.conflict "snapshot_expired")

def listPurchaseUnits (services : PromotionServices) (t : PromotionTables)
    (request : ListReceiptPurchaseUnitsV1Request) (cursor : Option PageCursorV1) :
    Except PlatformError (ListReceiptPurchaseUnitsV1Response × Option PageCursorV1) := do
  request.validate.mapError fun _ => .invalidInput "receipt_purchase_unit_list"
  let projection ← projectPurchaseUnits services t request.sourceId
  let snapshot := purchaseUnitSnapshot t
  let offset ← parseListCursorText cursor snapshot request.sourceId request.status
  if (pageEntries projection request.status).length < offset then
    .error (.invalidInput "receipt_purchase_unit_cursor")
  else do
    let response := listResponse request projection snapshot offset
    let next ← response.nextCursor.mapM makeListCursor
    (response.validate services.toContractServices).mapError fun _ =>
      .corrupt "receipt_purchase_unit_list_response"
    .ok (response, next)

/-! ## Reading what was written -/

theorem mem_toDigits {b n : ℕ} {c : Char} (hb : 1 < b) (h : c ∈ Nat.toDigits b n) :
    ∃ d < b, c = Nat.digitChar d := by
  induction n using Nat.base_induction b hb with
  | single m hm =>
    rw [Nat.toDigits_of_lt_base hm] at h
    exact ⟨m, hm, mem_singleton.mp h⟩
  | digit m k hk hm ih =>
    rw [← Nat.toDigits_append_toDigits hb hm hk, mem_append, Nat.toDigits_of_lt_base hk] at h
    exact h.elim ih fun h => ⟨k, hk, mem_singleton.mp h⟩

theorem hexValue_toDigits (n : ℕ) :
    (Nat.toDigits 16 n).foldl (fun value c => 16 * value + hexValue c) 0 = n := by
  induction n using Nat.base_induction 16 (by decide) with
  | single m hm => simp [Nat.toDigits_of_lt_base hm, PromotionExample.hexValue_digitChar m hm]
  | digit m k hk hm ih =>
    rw [← Nat.toDigits_append_toDigits (by decide) hm hk, foldl_append, ih,
      Nat.toDigits_of_lt_base hk]
    simp [PromotionExample.hexValue_digitChar k hk]

theorem mem_intercalate {x c : Char} {pieces : List (List Char)}
    (h : c ∈ [x].intercalate pieces) : c = x ∨ ∃ piece ∈ pieces, c ∈ piece := by
  induction pieces with
  | nil => cases h
  | cons piece rest ih =>
    cases rest with
    | nil => exact .inr ⟨piece, by simp, by simpa [intercalate] using h⟩
    | cons next rest =>
      rw [intercalate_cons_cons, append_assoc, mem_append, mem_append] at h
      obtain h | h | h := h
      · exact .inr ⟨piece, by simp, h⟩
      · exact .inl (mem_singleton.mp h)
      · exact (ih h).imp_right fun ⟨found, hmem, hc⟩ => ⟨found, .tail _ hmem, hc⟩

/-- What cursors are written with, besides the dots. -/
def isPlain (c : Char) : Bool := c.toNat < 128 && !isControl c && c != '.'

theorem isPlain_digitChar : ∀ d < 16, isPlain (Nat.digitChar d) = true ∧ Nat.digitChar d ≠ '-' := by
  decide

theorem digits_plain {id : ReceiptUuidId} {c : Char}
    (h : c ∈ (Nat.toDigits 16 id.1.val).leftpad 32 '0') : isPlain c = true ∧ c ≠ '-' := by
  rw [leftpad, mem_append] at h
  obtain h | h := h
  · rw [eq_of_mem_replicate h]
    decide
  · obtain ⟨d, hd, rfl⟩ := mem_toDigits (by decide) h
    exact isPlain_digitChar d hd

theorem mem_of_mem_group {digits group : List Char} {c : Char} (hgroup : group ∈
      [digits.take 8, (digits.drop 8).take 4, (digits.drop 12).take 4, (digits.drop 16).take 4,
        digits.drop 20]) (hc : c ∈ group) : c ∈ digits := by
  simp only [mem_cons, not_mem_nil, or_false] at hgroup
  obtain rfl | rfl | rfl | rfl | rfl := hgroup
  · exact mem_of_mem_take hc
  · exact mem_of_mem_drop (mem_of_mem_take hc)
  · exact mem_of_mem_drop (mem_of_mem_take hc)
  · exact mem_of_mem_drop (mem_of_mem_take hc)
  · exact mem_of_mem_drop hc

theorem text_groups (id : ReceiptUuidId) : (id.text.toList.splitOn '-').flatten =
    (Nat.toDigits 16 id.1.val).leftpad 32 '0' := by
  have hplain : ∀ c ∈ (Nat.toDigits 16 id.1.val).leftpad 32 '0', isPlain c = true ∧ c ≠ '-' :=
    fun _ => digits_plain
  unfold ReceiptUuidId.text
  generalize (Nat.toDigits 16 id.1.val).leftpad 32 '0' = digits at hplain ⊢
  rw [String.toList_ofList, splitOn_intercalate _ _ (by simp)]
  · have hgroup (n k : ℕ) : (digits.drop n).take k ++ digits.drop (n + k) = digits.drop n := by
      rw [← drop_drop, take_append_drop]
    simp only [flatten_cons, flatten_nil, append_nil]
    rw [hgroup 16 4, hgroup 12 4, hgroup 8 4, take_append_drop]
  · exact fun group hgroup hdash => (hplain '-' (mem_of_mem_group hgroup hdash)).2 rfl

theorem text_injective : Function.Injective ReceiptUuidId.text := by
  intro id id' h
  have hvalue (n k : ℕ) : ((Nat.toDigits 16 n).leftpad k '0').foldl
      (fun value c => 16 * value + hexValue c) 0 = n := by
    have hzeros (k : ℕ) : (replicate k '0').foldl
        (fun value c => 16 * value + hexValue c) 0 = 0 := by
      induction k with
      | zero => rfl
      | succ k ih => exact ih
    rw [leftpad, foldl_append, hzeros, hexValue_toDigits]
  have hread : id.1.val = id'.1.val := by
    rw [← hvalue id.1.val 32, ← text_groups, h, text_groups, hvalue]
  exact Subtype.ext (Fin.ext hread)

/-! ## Cursors are read as they were written -/

variable {snapshot : ReceiptPurchaseUnitSnapshotV1} {sourceId : Option SourceId}
  {status : Option ReceiptPurchaseUnitStatusFilterV1} {made : ListCursor} {cursor : PageCursorV1}

theorem pieces_plain (made : ListCursor) :
    ∀ piece ∈ made.pieces, ∀ c ∈ piece, isPlain c = true := by
  have hdigits (n : ℕ) : ∀ c ∈ Nat.toDigits 10 n, isPlain c = true := by
    intro c hc
    obtain ⟨d, hd, rfl⟩ := mem_toDigits (by decide) hc
    exact (isPlain_digitChar d (by omega)).1
  have hsource : ∀ c ∈ sourceText made.sourceId, isPlain c = true := by
    cases made.sourceId with
    | none => decide
    | some id =>
      intro c hc
      rw [sourceText, Option.elim_some, ReceiptUuidId.text, String.toList_ofList] at hc
      obtain rfl | ⟨group, hgroup, hc⟩ := mem_intercalate hc
      · decide
      · exact (digits_plain (mem_of_mem_group hgroup hc)).1
  have hstatus : ∀ c ∈ statusText made.status, isPlain c = true := by
    match made.status with
    | none | some .available | some .promoted => decide
  have hkind : ∀ c ∈ listCursorKind.toList, isPlain c = true := by decide
  simp only [ListCursor.pieces, forall_mem_cons]
  exact ⟨hkind, hdigits _, hdigits _, hdigits _, hsource, hstatus, hdigits _, nofun⟩

theorem splitOn_of_make (h : makeListCursor made = .ok cursor) :
    cursor.text.toList.splitOn '.' = made.pieces := by
  unfold makeListCursor at h
  split at h
  · cases h
  · rename_i text htext
    cases h
    refine splitOn_new htext (fun piece hpiece hdot => ?_) (by simp [ListCursor.pieces])
    exact absurd (pieces_plain made piece hpiece '.' hdot) (by decide)

theorem parse_of_make {offset : ℕ} (hsnapshot : snapshot.validate = .ok ())
    (hoffset : offset < u64Bound)
    (h : makeListCursor ⟨snapshot, sourceId, status, offset⟩ = .ok cursor) :
    parseListCursorText (some cursor) snapshot sourceId status = .ok offset := by
  obtain ⟨⟨hreceipt, hevidence, hcatalog⟩, -⟩ := check_when_eq_ok.mp hsnapshot
  have hlt {n : ℕ} (h : n < maxSafeIntegerV1) : n < u64Bound := h.trans (by decide)
  simp [parseListCursorText, splitOn_of_make h, ListCursor.pieces, parseU64_toDigits,
    hlt hreceipt, hlt hevidence, hlt hcatalog, hoffset]

theorem make_total {offset : ℕ} (hsnapshot : snapshot.validate = .ok ())
    (hoffset : offset < u64Bound) :
    ∃ cursor, makeListCursor ⟨snapshot, sourceId, status, offset⟩ = .ok cursor := by
  obtain ⟨⟨hreceipt, hevidence, hcatalog⟩, -⟩ := check_when_eq_ok.mp hsnapshot
  have hdigits {n : ℕ} (h : n < u64Bound) : (Nat.toDigits 10 n).length ≤ 20 :=
    (Nat.length_toDigits_le_iff (by decide) (by decide)).mpr (h.trans (by decide))
  have hrevision {n : ℕ} (h : n < maxSafeIntegerV1) := hdigits (h.trans (by decide))
  have hsource : (sourceText sourceId).length ≤ 36 := by
    cases sourceId with
    | none => decide
    | some id =>
      have hlength : (Nat.toDigits 16 id.1.val).length ≤ 32 :=
        (Nat.length_toDigits_le_iff (by decide) (by decide)).mpr id.1.isLt
      simp [sourceText, ReceiptUuidId.text, intercalate]
      omega
  have hstatus : (statusText status).length ≤ 9 := by
    match status with
    | none | some .available | some .promoted => decide
  have hkind : listCursorKind.toList.length = 25 := by decide
  let text := ['.'].intercalate (ListCursor.pieces ⟨snapshot, sourceId, status, offset⟩)
  have hlength : text.length ≤ 512 ∧ 0 < text.length := by
    have := hrevision hreceipt
    have := hrevision hevidence
    have := hrevision hcatalog
    have := hdigits hoffset
    simp [text, intercalate, ListCursor.pieces, hkind]
    omega
  have hopaque : Catalog.isOpaque (String.ofList text) Catalog.maxCursorChars = true := by
    have hchars : ∀ c ∈ text, (c.toNat < 128 && !isControl c) = true := by
      intro c hc
      obtain rfl | ⟨piece, hpiece, hc⟩ := mem_intercalate hc
      · decide
      · exact (Bool.and_eq_true_iff.mp (pieces_plain _ piece hpiece c hc)).1
    simpa [Catalog.isOpaque, Catalog.maxCursorChars, length_pos_iff.mp hlength.2, hlength.1]
      using hchars
  have hnew : PageCursorV1.new (String.ofList text) = some ⟨_, hopaque⟩ := dif_pos hopaque
  refine ⟨⟨_, hopaque⟩, ?_⟩
  unfold makeListCursor
  rw [hnew]

/-! ## Following the cursors -/

structure Shows (first : ListReceiptPurchaseUnitsV1Response) (segment : List ProjectionEntry)
    (page : ListReceiptPurchaseUnitsV1Response) : Prop where
  units : page.units = segment.filterMap ProjectionEntry.unit?
  exclusions : page.exclusions = segment.filterMap ProjectionEntry.exclusion?
  totalCount : page.totalCount = first.totalCount
  totalExclusionCount : page.totalExclusionCount = first.totalExclusionCount

section Listing

variable {services : PromotionServices} {t : PromotionTables} {projection : Projection}
  {request : ListReceiptPurchaseUnitsV1Request}
  (hrequest : request.validate = .ok ())
  (hproject : projectPurchaseUnits services t request.sourceId = .ok projection)

include hrequest hproject

theorem listPurchaseUnits_of_offset {cursor : Option PageCursorV1} {offset : ℕ}
    (hcursor : parseListCursorText cursor (purchaseUnitSnapshot t) request.sourceId
      request.status = .ok offset)
    (hoffset : offset ≤ (pageEntries projection request.status).length)
    (hvalid : (listResponse request projection (purchaseUnitSnapshot t) offset).validate
      services.toContractServices = .ok ()) :
    listPurchaseUnits services t request cursor =
      ((listResponse request projection (purchaseUnitSnapshot t) offset).nextCursor.mapM
        makeListCursor).map fun next =>
          (listResponse request projection (purchaseUnitSnapshot t) offset, next) := by
  simp only [listPurchaseUnits, hrequest, hproject, hcursor, Except.mapError, bind, Except.bind,
    if_neg (not_lt.mpr hoffset), hvalid]
  cases (listResponse request projection (purchaseUnitSnapshot t) offset).nextCursor.mapM
    makeListCursor <;> rfl

theorem pages_from (hsnapshot : (purchaseUnitSnapshot t).validate = .ok ())
    (hvalid : ∀ offset, (listResponse request projection (purchaseUnitSnapshot t) offset).validate
      services.toContractServices = .ok ())
    (hcount : (pageEntries projection request.status).length < u64Bound)
    {cursor : Option PageCursorV1} {offset : ℕ}
    (hcursor : parseListCursorText cursor (purchaseUnitSnapshot t) request.sourceId
      request.status = .ok offset)
    (hoffset : offset ≤ (pageEntries projection request.status).length) :
    ∃ segments pages, Pages (listPurchaseUnits services t request) cursor pages ∧
      List.Forall₂ (Shows (listResponse request projection (purchaseUnitSnapshot t) 0)) segments
        pages ∧
      segments.flatten = (pageEntries projection request.status).drop offset := by
  obtain ⟨-, hlimit⟩ := check_then_eq_ok.mp hrequest
  rw [check_when_eq_ok] at hlimit
  -- by induction on how many entries are left
  induction hleft : (pageEntries projection request.status).length - offset using Nat.strongRecOn
    generalizing cursor offset with
  | ind left ih =>
    have hpage := listPurchaseUnits_of_offset hrequest hproject hcursor hoffset (hvalid offset)
    have hshows : Shows (listResponse request projection (purchaseUnitSnapshot t) 0)
        (((pageEntries projection request.status).take (min (offset + request.limit)
          (pageEntries projection request.status).length)).drop offset)
        (listResponse request projection (purchaseUnitSnapshot t) offset) := ⟨rfl, rfl, rfl, rfl⟩
    rcases lt_or_ge (offset + request.limit) (pageEntries projection request.status).length with
      hmore | hlast
    · rw [min_eq_left hmore.le] at hshows
      obtain ⟨next, hnext⟩ : ∃ next, makeListCursor ⟨purchaseUnitSnapshot t, request.sourceId,
          request.status, offset + request.limit⟩ = .ok next :=
        make_total hsnapshot (hmore.trans hcount)
      have hread := parse_of_make hsnapshot (hmore.trans hcount) hnext
      obtain ⟨segments, pages, hpages, hall, hrest⟩ := ih _ (by omega) hread hmore.le rfl
      refine ⟨_ :: segments, _ :: pages, .more ?_ hpages, .cons hshows hall, ?_⟩
      · simp only [hpage, listResponse, min_eq_left hmore.le, if_pos hmore, Option.mapM_some, hnext]
        rfl
      · rw [flatten_cons, hrest, ← drop_append_of_le_length (by simp; omega),
          take_append_drop]
    · rw [min_eq_right hlast, take_length] at hshows
      refine ⟨[_], [_], .last ?_, .cons hshows .nil, by simp⟩
      simp only [hpage, listResponse, min_eq_right hlast, if_neg (lt_irrefl _), Option.mapM_none]
      rfl

end Listing

namespace PromotionExample

end PromotionExample

end Threadbook.Promotion
