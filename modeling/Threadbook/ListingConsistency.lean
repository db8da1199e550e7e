import Threadbook.CatalogInvariant
import Threadbook.CatalogListing

/-!
# Lists that are read while others write

A page reads its revisions first and everything else afterwards, outside of a transaction. A
traversal returns the rows of one state, each once, when every write during a page leaves the
listed rows alone, and every write between two pages leaves them alone or advances a revision:
then a cursor that is accepted belongs to the state the first page was read at.
-/

namespace Threadbook.Catalog

open List Option

open Query (ask forAll SameReads)

variable {services : CatalogServices} {t t' : CatalogTables} {κ ρ : Type}

/-! ## Cursors -/

theorem parseU64_toDigits (n : ℕ) :
    parseU64 (Nat.toDigits 10 n) = if n < u64Bound then some n else none := by
  have hdigit : ∀ c ∈ Nat.toDigits 10 n, isAsciiDigit c = true := by
    intro c hc
    have h := Nat.isDigit_of_mem_toDigits (by decide) (by decide) hc
    simp only [Char.isDigit, isAsciiDigit, Bool.and_eq_true, decide_eq_true_eq] at h ⊢
    exact h
  have hhead : (Nat.toDigits 10 n).head? ≠ some '+' := by
    intro h
    exact absurd (hdigit '+' (mem_of_mem_head? h)) (by decide)
  have hempty : (Nat.toDigits 10 n).isEmpty = false := by
    simp [Nat.toDigits_ne_nil]
  have hall : (Nat.toDigits 10 n).all isAsciiDigit = true := all_eq_true.mpr hdigit
  have hunsigned : unsigned (Nat.toDigits 10 n) = Nat.toDigits 10 n := if_neg hhead
  simp [parseU64, hunsigned, hempty, hall]

/-- The offset of a cursor fits a `u64`. -/
theorem parseU64_lt {text : List Char} {n : ℕ} (h : parseU64 text = some n) : n < u64Bound := by
  simp only [parseU64, ite_none_left_eq_some, ite_none_right_eq_some, some.injEq] at h
  obtain ⟨-, hlt, rfl⟩ := h
  exact hlt

theorem splitOn_new {pieces : List (List Char)} {cursor : PageCursorV1}
    (h : PageCursorV1.new (String.ofList (['.'].intercalate pieces)) = some cursor)
    (hdots : ∀ piece ∈ pieces, '.' ∉ piece) (hne : pieces ≠ []) :
    cursor.text.toList.splitOn '.' = pieces := by
  unfold PageCursorV1.new at h
  split at h
  · cases h
    rw [String.toList_ofList]
    exact splitOn_intercalate _ hdots hne
  · cases h

theorem parseCursor_makeCursor {kind : String} {catalog evidence offset catalog' evidence' : ℕ}
    {cursor : PageCursorV1} {n : ℕ} (hkind : '.' ∉ kind.toList)
    (hmake : makeCursor kind catalog evidence offset = .ok cursor)
    (hparse : parseCursor (some cursor) kind catalog' evidence' = .ok n) :
    catalog' = catalog ∧ evidence' = evidence ∧ n = offset := by
  have hdots : ∀ piece ∈ cursorPieces kind catalog evidence offset, '.' ∉ piece := by
    have hdigits : ∀ k : ℕ, '.' ∉ Nat.toDigits 10 k := fun k hc =>
      absurd (Nat.isDigit_of_mem_toDigits (by decide) (by decide) hc) (by decide)
    simp [cursorPieces, hkind, hdigits]
  unfold makeCursor at hmake
  split at hmake
  · cases hmake
  rename_i new hnew
  cases hmake
  have hpieces := splitOn_new hnew hdots (by simp [cursorPieces])
  simp only [parseCursor, hpieces, cursorPieces] at hparse
  split_ifs at hparse with hrejected
  simp only [ne_eq, not_true_eq_false, false_or, not_or, not_not, parseU64_toDigits,
    ite_none_right_eq_some, some.injEq] at hrejected
  obtain ⟨⟨-, hcatalog⟩, -, hevidence⟩ := hrejected
  refine ⟨hcatalog.symm, hevidence.symm, ?_⟩
  rw [parseU64_toDigits] at hparse
  split_ifs at hparse
  · exact (Except.ok.inj hparse).symm

theorem parseCursor_lt {cursor : Option PageCursorV1} {kind : String} {catalog evidence n : ℕ}
    (h : parseCursor cursor kind catalog evidence = .ok n) : n < u64Bound := by
  cases cursor with
  | none =>
    rw [← Except.ok.inj h]
    decide
  | some cursor =>
    simp only [parseCursor] at h
    split at h
    · split at h
      · cases h
      · split at h
        · cases h
        · rename_i offset hoffset
          rw [← Except.ok.inj h]
          exact parseU64_lt hoffset
    · cases h

/-! ## Pages -/

inductive Pages {γ π ε : Type} (ask : Option γ → Except ε (π × Option γ)) :
    Option γ → List π → Prop
  | last {cursor page} (answer : ask cursor = .ok (page, none)) : Pages ask cursor [page]
  | more {cursor page next pages} (answer : ask cursor = .ok (page, some next))
    (rest : Pages ask (some next) pages) : Pages ask cursor (page :: pages)

namespace Listing

variable {list : Listing κ ρ} {request : ListV1Request} {p : ListV1Response ρ}

structure Regular (list : Listing κ ρ) : Prop where
  keys_nodup : ∀ t, (list.keys t).Nodup
  length_le_count : ∀ t, (list.keys t).length ≤ list.count t
  kind_plain : '.' ∉ list.cursorKind.toList
  load_failed : ∀ key t, (list.load key).answer t ≠ .error .overflowed

def rowsAt (list : Listing κ ρ) (t : CatalogTables) (keys : List κ) :
    Except ListFailure (List ρ) :=
  keys.mapM fun key => (list.load key).answer t

structure SameRows (list : Listing κ ρ) (t t' : CatalogTables) : Prop where
  count : list.count t' = list.count t
  keys : list.keys t' = list.keys t
  load : ∀ key ∈ list.keys t, (list.load key).SameReads t t'

theorem SameRows.refl (list : Listing κ ρ) (t : CatalogTables) : list.SameRows t t :=
  ⟨rfl, rfl, fun _ _ => SameReads.refl _ _⟩

variable {offset : ℕ} {t₁ : CatalogTables} {rows : List ρ}

theorem SameRows.trans (hfirst : list.SameRows t t₁) (hsecond : list.SameRows t₁ t') :
    list.SameRows t t' where
  count := hsecond.count.trans hfirst.count
  keys := hsecond.keys.trans hfirst.keys
  load key hkey := (hfirst.load key hkey).trans (hsecond.load key (hfirst.keys ▸ hkey))

theorem mem_of_mem_limitOffset {limit : ℕ} {keys : List κ} {key : κ}
    (h : key ∈ limitOffset limit offset keys) : key ∈ keys :=
  mem_of_mem_drop (mem_of_mem_take h)

theorem SameRows.rest (h : list.SameRows t t') (under : ℕ × ℕ) :
    (list.rest request under).SameReads t t' := by
  rw [Listing.rest]
  refine SameReads.bind trivial fun offset _ => ?_
  refine SameReads.bind (SameReads.ask h.count) fun total _ => ?_
  refine SameReads.bind (SameReads.ask (by simp only [h.keys])) fun keys hkeys => ?_
  refine SameReads.bind (SameReads.forAll ?_) fun rows _ => ?_
  · intro key hkey
    rw [← Except.ok.inj hkeys] at hkey
    exact h.load key (mem_of_mem_limitOffset hkey)
  · exact SameReads.bind trivial fun _ _ => SameReads.bind trivial fun _ _ => trivial

theorem page_answer : (list.page request).answer t =
    (parseCursor request.cursor list.cursorKind t.catalogRevision t.evidenceGeneration).mapError
      .failed >>= fun offset =>
    list.rowsAt t (limitOffset request.limit offset (list.keys t)) >>= fun rows =>
    (if offset + rows.length < u64Bound then .ok (offset + rows.length)
      else .error .overflowed) >>= fun nextOffset =>
    (nextCursor list.cursorKind (revisions t) nextOffset (list.count t)).mapError
      .failed >>= fun next =>
    .ok ⟨schemaVersionV1, request.requestId, rows, list.count t, t.catalogRevision,
      t.evidenceGeneration, next⟩ := by
  simp only [Listing.page, Listing.rest, checked, addU64, Query.answer_bind, Query.answer_ask,
    Query.answer_check, Query.answer_forAll, Query.answer_pure]
  rfl

/-- **A page** that is read at one state. -/
theorem page_eq_ok : (list.page request).answer t = .ok p ↔ ∃ offset rows next,
      parseCursor request.cursor list.cursorKind t.catalogRevision t.evidenceGeneration =
        .ok offset ∧
      list.rowsAt t (limitOffset request.limit offset (list.keys t)) = .ok rows ∧
      offset + rows.length < u64Bound ∧
      nextCursor list.cursorKind (revisions t) (offset + rows.length) (list.count t) = .ok next ∧
      p = ⟨schemaVersionV1, request.requestId, rows, list.count t, t.catalogRevision,
        t.evidenceGeneration, next⟩ := by
  simp only [page_answer, Threadbook.check_bind_eq_ok, check_mapError_eq_ok, check_when_eq_ok]
  refine ⟨?_, ?_⟩
  · rintro ⟨offset, hparse, rows, hrows, _, ⟨hlt, rfl⟩, next, hnext, hp⟩
    exact ⟨offset, rows, next, hparse, hrows, hlt, hnext, (Except.ok.inj hp).symm⟩
  · rintro ⟨offset, rows, next, hparse, hrows, hlt, hnext, rfl⟩
    exact ⟨offset, hparse, rows, hrows, _, ⟨hlt, rfl⟩, next, hnext, rfl⟩

theorem SameRows.page (h : list.SameRows t t') (hrevisions : revisions t' = revisions t) :
    (list.page request).SameReads t t' :=
  SameReads.bind (SameReads.ask hrevisions) fun under _ => h.rest under

theorem rowsAt_append {first second : List κ} {rows' : List ρ}
    (hfirst : list.rowsAt t first = .ok rows) (hsecond : list.rowsAt t second = .ok rows') :
    list.rowsAt t (first ++ second) = .ok (rows ++ rows') := by
  rw [rowsAt, check_mapM_eq_ok] at *
  exact rel_append hfirst hsecond

theorem length_rowsAt {keys : List κ} (h : list.rowsAt t keys = .ok rows) :
    rows.length = keys.length :=
  (check_mapM_eq_ok.mp h).length_eq.symm

theorem page_rows (hoffset : offset < i64Bound)
    (hparse : parseCursor request.cursor list.cursorKind t.catalogRevision t.evidenceGeneration =
      .ok offset) (hpage : (list.page request).answer t = .ok p) :
    (p.catalogRevision, p.evidenceGeneration) = revisions t ∧
      nextCursor list.cursorKind (revisions t) (offset + p.rows.length) (list.count t) =
        .ok p.nextCursor ∧
      ∀ rows, list.rowsAt t ((list.keys t).drop (offset + p.rows.length)) = .ok rows →
        list.rowsAt t ((list.keys t).drop offset) = .ok (p.rows ++ rows) := by
  obtain ⟨offset', rows, next, hparse', hrows, -, hnext, rfl⟩ := page_eq_ok.mp hpage
  obtain rfl : offset = offset' := Except.ok.inj (hparse.symm.trans hparse')
  refine ⟨rfl, hnext, ?_⟩
  intro after hafter
  have hkeys : limitOffset request.limit offset (list.keys t) =
      ((list.keys t).drop offset).take request.limit := by
    rw [limitOffset, if_pos hoffset]
  rw [hkeys] at hrows
  rw [length_rowsAt hrows] at hafter
  rw [← take_append_drop_length (list.keys t) offset request.limit]
  exact rowsAt_append hrows hafter

theorem nextCursor_eq_some {kind : String} {under : ℕ × ℕ} {total : ℕ} {cursor : PageCursorV1}
    (h : nextCursor kind under offset total = .ok (some cursor)) :
    offset < total ∧ makeCursor kind under.1 under.2 offset = .ok cursor := by
  rw [nextCursor] at h
  split_ifs at h with hless
  · refine ⟨hless, ?_⟩
    cases hmade : makeCursor kind under.1 under.2 offset with
    | error e =>
      rw [hmade] at h
      cases h
    | ok made =>
      rw [hmade] at h
      exact congrArg Except.ok (some.inj (Except.ok.inj h))
  · cases h

theorem nextCursor_eq_none {kind : String} {under : ℕ × ℕ} {total : ℕ}
    (h : nextCursor kind under offset total = .ok none) : total ≤ offset := by
  rw [nextCursor] at h
  split_ifs at h with hless
  · cases hmade : makeCursor kind under.1 under.2 offset with
    | error e =>
      rw [hmade] at h
      cases h
    | ok made =>
      rw [hmade] at h
      cases h
  · exact not_lt.mp hless

theorem rowsAt_of_last (hregular : list.Regular)
    (h : nextCursor list.cursorKind (revisions t) offset (list.count t) = .ok none) :
    list.rowsAt t ((list.keys t).drop offset) = .ok [] := by
  rw [drop_eq_nil_of_le ((hregular.length_le_count t).trans (nextCursor_eq_none h))]
  rfl

/-! ## Writes -/

def Between (services : CatalogServices) (list : Listing κ ρ) (t t' : CatalogTables) : Prop :=
  Step services t t' ∧ (list.SameRows t t' ∨ revisions t' ≠ revisions t)

/-- A transaction between two statements of a page: it leaves the listed rows alone. -/
def Within (services : CatalogServices) (list : Listing κ ρ) (t t' : CatalogTables) : Prop :=
  Step services t t' ∧ list.SameRows t t'

theorem steps_of_between (h : Relation.ReflTransGen (list.Between services) t t') :
    Steps services t t' :=
  Relation.ReflTransGen.mono (fun _ _ hwrite => hwrite.1) _ _ h

/-- The revisions of a state did not go back, and as long as they stand, so do the rows. -/
structure Kept (list : Listing κ ρ) (t t' : CatalogTables) : Prop where
  catalogRevision : t.catalogRevision ≤ t'.catalogRevision
  evidenceGeneration : t.evidenceGeneration ≤ t'.evidenceGeneration
  rows : revisions t' = revisions t → list.SameRows t t'

theorem Kept.refl (list : Listing κ ρ) (t : CatalogTables) : list.Kept t t :=
  ⟨le_rfl, le_rfl, fun _ => SameRows.refl list t⟩

theorem Kept.between (h : list.Kept t t₁) (hwrite : list.Between services t₁ t') :
    list.Kept t t' := by
  obtain ⟨hstep, hrows⟩ := hwrite
  have hprogress := hstep.progress
  have hcatalog := h.catalogRevision
  have hevidence := h.evidenceGeneration
  have hcatalog' := hprogress.catalogRevision
  have hevidence' := hprogress.evidenceGeneration
  refine ⟨hcatalog.trans hcatalog', hevidence.trans hevidence', ?_⟩
  intro hsame
  simp only [revisions, Prod.mk.injEq] at hsame
  -- revisions that are back where they were never moved
  have hfirst : revisions t₁ = revisions t := by
    simp only [revisions, Prod.mk.injEq]
    omega
  have hsecond : revisions t' = revisions t₁ := by
    simp only [revisions, Prod.mk.injEq]
    omega
  cases hrows with
  | inl hrows => exact (h.rows hfirst).trans hrows
  | inr hmoved => exact absurd hsecond hmoved

theorem Kept.betweens (h : list.Kept t t₁)
    (hwrites : Relation.ReflTransGen (list.Between services) t₁ t') : list.Kept t t' := by
  induction hwrites with
  | refl => exact h
  | tail _ hwrite ih => exact ih.between hwrite

/-- **A page is read at one state**: the one its revisions were read at. -/
theorem observed_page
    (h : Observes (list.Within services) (list.Between services) (list.page request) t (.ok p) t') :
    ∃ t₁, Relation.ReflTransGen (list.Between services) t t₁ ∧
      (list.page request).answer t₁ = .ok p ∧
      Relation.ReflTransGen (list.Between services) t₁ t' := by
  obtain ⟨t₁, hbefore, hrest⟩ := Observes.first h
  have hkeep : ∀ s s₁, (list.SameRows t₁ s ∧ Relation.ReflTransGen (list.Between services) t₁ s) →
      list.Within services s s₁ →
      list.SameRows t₁ s₁ ∧ Relation.ReflTransGen (list.Between services) t₁ s₁ := by
    rintro s s₁ ⟨hrows, hwrites⟩ ⟨hstep, hsame⟩
    exact ⟨hrows.trans hsame, hwrites.tail ⟨hstep, Or.inl hsame⟩⟩
  obtain ⟨hanswer, -, hafter⟩ := hrest.answer_eq
    (R := fun s => list.SameRows t₁ s ∧ Relation.ReflTransGen (list.Between services) t₁ s)
    ⟨SameRows.refl list t₁, Relation.ReflTransGen.refl⟩ hkeep hkeep
    fun s hs => hs.1.rest (revisions t₁)
  exact ⟨t₁, hbefore, hanswer.symm, hafter⟩

/-- **A page that is accepted** is the page of the state its cursor was made at. -/
theorem accepted_page (hregular : list.Regular) {t₀ : CatalogTables} {cursor : PageCursorV1}
    (hrequest : request.cursor = some cursor)
    (hnext : nextCursor list.cursorKind (revisions t₀) offset (list.count t₀) = .ok (some cursor))
    (hkept : list.Kept t₀ t)
    (hread : Observes (list.Within services) (list.Between services) (list.page request) t (.ok p)
      t') :
    parseCursor request.cursor list.cursorKind t₀.catalogRevision t₀.evidenceGeneration =
        .ok offset ∧
      (list.page request).answer t₀ = .ok p ∧ list.Kept t₀ t' := by
  obtain ⟨t₁, hbefore, hpage, hafter⟩ := observed_page hread
  have hkept₁ := hkept.betweens hbefore
  obtain ⟨n, rows, following, hparse, -⟩ := page_eq_ok.mp hpage
  rw [hrequest] at hparse ⊢
  obtain ⟨hcatalog, hevidence, rfl⟩ :=
    parseCursor_makeCursor hregular.kind_plain (nextCursor_eq_some hnext).2 hparse
  have hsame : revisions t₁ = revisions t₀ := by
    rw [revisions, hcatalog, hevidence, revisions]
  refine ⟨?_, ?_, hkept₁.betweens hafter⟩
  · simp only [revisions] at hcatalog hevidence
    rw [← hcatalog, ← hevidence]
    exact hparse
  · rw [← ((hkept₁.rows hsame).page hsame).answer]
    exact hpage

theorem rest_of_traversal (hregular : list.Regular) {t₀ : CatalogTables}
    (hsize : list.count t₀ < i64Bound) {cursor : Option PageCursorV1}
    {pages : List (ListV1Response ρ)}
    (h : Traversal (list.Within services) (list.Between services) list.page ListV1Request.cursor
      ListV1Response.nextCursor cursor t pages t') :
    ∀ {offset next}, cursor = some next →
      nextCursor list.cursorKind (revisions t₀) offset (list.count t₀) = .ok (some next) →
      list.Kept t₀ t →
      (∀ p ∈ pages, (p.catalogRevision, p.evidenceGeneration) = revisions t₀) ∧
        list.rowsAt t₀ ((list.keys t₀).drop offset) = .ok (pages.flatMap (·.rows)) := by
  induction h with
  | @last cursor s s' p request asks reads ends =>
    intro offset next hcursor hnext hkept
    have hoffset := (nextCursor_eq_some hnext).1.trans hsize
    obtain ⟨hparse, hpage, -⟩ := accepted_page hregular (asks.trans hcursor) hnext hkept reads
    obtain ⟨hunder, hfollowing, hrows⟩ := page_rows hoffset hparse hpage
    rw [ends] at hfollowing
    exact ⟨forall_mem_singleton.mpr hunder, hrows _ (rowsAt_of_last hregular hfollowing)⟩
  | @more cursor s s₁ s' p pages request following asks reads continues rest ih =>
    intro offset next hcursor hnext hkept
    have hoffset := (nextCursor_eq_some hnext).1.trans hsize
    obtain ⟨hparse, hpage, hkept₁⟩ := accepted_page hregular (asks.trans hcursor) hnext hkept reads
    obtain ⟨hunder, hfollowing, hrows⟩ := page_rows hoffset hparse hpage
    rw [continues] at hfollowing
    obtain ⟨hunders, hrest⟩ := ih rfl hfollowing hkept₁
    refine ⟨forall_mem_cons.mpr ⟨hunder, hunders⟩, ?_⟩
    rw [flatMap_cons]
    exact hrows _ hrest

/-- **A traversal** from the first page to the last returns the rows of one state, in order:
the state the first page was read at. -/
theorem rows_of_traversal (hregular : list.Regular)
    {pages : List (ListV1Response ρ)} (hsize : ∀ p ∈ pages, p.totalCount < i64Bound)
    (h : Traversal (list.Within services) (list.Between services) list.page ListV1Request.cursor
      ListV1Response.nextCursor none t pages t') :
    ∃ t₀, Steps services t t₀ ∧
      (∀ p ∈ pages, (p.catalogRevision, p.evidenceGeneration) = revisions t₀) ∧
      list.rowsAt t₀ (list.keys t₀) = .ok (pages.flatMap (·.rows)) := by
  revert hsize
  cases h with
  | @last _ _ _ p request asks reads ends =>
    intro _
    obtain ⟨t₀, hbefore, hpage, -⟩ := observed_page reads
    have hparse : parseCursor request.cursor list.cursorKind t₀.catalogRevision
        t₀.evidenceGeneration = .ok 0 := by
      rw [asks]
      rfl
    obtain ⟨hunder, hfollowing, hrows⟩ := page_rows (by decide) hparse hpage
    rw [ends] at hfollowing
    refine ⟨t₀, steps_of_between hbefore, forall_mem_singleton.mpr hunder, ?_⟩
    exact hrows _ (rowsAt_of_last hregular hfollowing)
  | @more _ _ s₁ _ p pages request following asks reads continues rest =>
    intro hsize
    obtain ⟨t₀, hbefore, hpage, hafter⟩ := observed_page reads
    have hsteps : Steps services t t₀ := steps_of_between hbefore
    have hparse : parseCursor request.cursor list.cursorKind t₀.catalogRevision
        t₀.evidenceGeneration = .ok 0 := by
      rw [asks]
      rfl
    obtain ⟨hunder, hfollowing, hrows⟩ := page_rows (by decide) hparse hpage
    rw [continues] at hfollowing
    have hcount : list.count t₀ < i64Bound := by
      have htotal : p.totalCount = list.count t₀ := by
        obtain ⟨-, -, -, -, -, -, -, rfl⟩ := page_eq_ok.mp hpage
        rfl
      exact htotal ▸ hsize p (.head _)
    obtain ⟨hunders, hrest⟩ := rest_of_traversal hregular hcount rest rfl hfollowing
      ((Kept.refl list t₀).betweens hafter)
    refine ⟨t₀, hsteps, forall_mem_cons.mpr ⟨hunder, hunders⟩, ?_⟩
    rw [flatMap_cons]
    exact hrows _ hrest

/-! ## Cursor texts -/

theorem page_of_load_error {e : ListFailure}
    (hparse : parseCursor request.cursor list.cursorKind t.catalogRevision t.evidenceGeneration =
      .ok offset)
    (hrows : list.rowsAt t (limitOffset request.limit offset (list.keys t)) = .error e) :
    (list.page request).answer t = .error e := by
  rw [page_answer, hparse]
  change (list.rowsAt t (limitOffset request.limit offset (list.keys t)) >>= _) = _
  rw [hrows]
  rfl

theorem page_of_rows
    (hparse : parseCursor request.cursor list.cursorKind t.catalogRevision t.evidenceGeneration =
      .ok offset)
    (hrows : list.rowsAt t (limitOffset request.limit offset (list.keys t)) = .ok rows) :
    (list.page request).answer t = if offset + rows.length < u64Bound then
      ((nextCursor list.cursorKind (revisions t) (offset + rows.length)
        (list.count t)).mapError .failed).map fun next =>
          ⟨schemaVersionV1, request.requestId, rows, list.count t, t.catalogRevision,
            t.evidenceGeneration, next⟩
      else .error .overflowed := by
  rw [page_answer, hparse]
  change (list.rowsAt t (limitOffset request.limit offset (list.keys t)) >>= _) = _
  rw [hrows]
  change ((if offset + rows.length < u64Bound then Except.ok (offset + rows.length)
    else Except.error ListFailure.overflowed) >>= _) = _
  split_ifs with hlt
  · change ((nextCursor list.cursorKind (revisions t) (offset + rows.length)
      (list.count t)).mapError ListFailure.failed >>= _) = _
    cases nextCursor list.cursorKind (revisions t) (offset + rows.length) (list.count t) <;> rfl
  · rfl

/-- **The offset of a cursor** is the one its page is read at, and no sum overflows, exactly
when it is an `i64`, or the first page has no rows to return in its place. -/
theorem offset_kept_iff (hregular : list.Regular) (hsize : list.count t < i64Bound)
    (hparse : parseCursor request.cursor list.cursorKind t.catalogRevision t.evidenceGeneration =
      .ok offset) :
    ((list.page request).answer t ≠ .error .overflowed ∧ ∀ p, (list.page request).answer t = .ok p →
        list.rowsAt t (((list.keys t).drop offset).take request.limit) = .ok p.rows) ↔
    (offset < i64Bound ∨
      ∀ rows, list.rowsAt t ((list.keys t).take request.limit) = .ok rows → rows = []) := by
  have hlength := hregular.length_le_count t
  have hbound : offset < u64Bound := parseCursor_lt hparse
  by_cases hoffset : offset < i64Bound
  · -- the offset is read as it is written, and a page is short
    have hkeys : limitOffset request.limit offset (list.keys t) =
        ((list.keys t).drop offset).take request.limit := by
      rw [limitOffset, if_pos hoffset]
    refine ⟨fun _ => Or.inl hoffset, fun _ => ⟨?_, ?_⟩⟩
    · cases hrows : list.rowsAt t (limitOffset request.limit offset (list.keys t)) with
      | error e =>
        rw [page_of_load_error hparse hrows]
        intro heq
        obtain ⟨key, -, hkey⟩ := check_mapM_eq_error hrows
        rw [Except.error.inj heq] at hkey
        exact hregular.load_failed key t hkey
      | ok rows =>
        have hshort : rows.length ≤ maxPageSize := by
          rw [length_rowsAt hrows, hkeys, length_take]
          exact (min_le_left _ _).trans request.limit_le
        have hsum : offset + rows.length < u64Bound := by
          simp only [i64Bound, u64Bound, maxPageSize] at *
          omega
        rw [page_of_rows hparse hrows, if_pos hsum]
        cases nextCursor list.cursorKind (revisions t) (offset + rows.length) (list.count t) <;>
          simp [Except.mapError, Except.map]
    · intro p hpage
      obtain ⟨offset', rows, next, hparse', hrows, -, -, rfl⟩ := page_eq_ok.mp hpage
      obtain rfl : offset = offset' := Except.ok.inj (hparse.symm.trans hparse')
      rw [← hkeys]
      exact hrows
  · -- the offset is negative as an `i64`: the first page is read
    have hkeys : limitOffset request.limit offset (list.keys t) =
        (list.keys t).take request.limit := by
      rw [limitOffset, if_neg hoffset, drop_zero]
    have hnone : (list.keys t).drop offset = [] := drop_eq_nil_of_le (by omega)
    refine ⟨fun ⟨hsum, hreturned⟩ => Or.inr ?_, ?_⟩
    · intro rows hrows
      have hpage := page_of_rows hparse (hkeys ▸ hrows)
      split_ifs at hpage with hlt
      · rw [nextCursor, if_neg (by omega)] at hpage
        have hrows' := hreturned _ hpage
        rw [hnone, take_nil] at hrows'
        exact (Except.ok.inj hrows').symm
      · exact absurd hpage hsum
    · rintro (hlt | hempty)
      · exact absurd hlt hoffset
      · cases hrows : list.rowsAt t ((list.keys t).take request.limit) with
        | error e =>
          rw [← hkeys] at hrows
          rw [page_of_load_error hparse hrows]
          refine ⟨?_, fun p hpage => nomatch hpage⟩
          intro heq
          obtain ⟨key, -, hkey⟩ := check_mapM_eq_error hrows
          rw [Except.error.inj heq] at hkey
          exact hregular.load_failed key t hkey
        | ok rows =>
          obtain rfl := hempty rows hrows
          rw [← hkeys] at hrows
          rw [page_of_rows hparse hrows, if_pos (by simpa using hbound), nextCursor,
            if_neg (by simp; omega)]
          refine ⟨by simp [Except.mapError, Except.map], ?_⟩
          intro p hpage
          cases hpage
          rw [hnone, take_nil]
          rfl

end Listing

/-! ## The two lists -/

theorem mapError_ne_overflowed {α : Type} (result : Except PlatformError α) :
    result.mapError ListFailure.failed ≠ .error .overflowed := by
  cases result <;> simp [Except.mapError]

theorem queryCatalogItem_answer (itemId : ItemId) (t : CatalogTables) :
    (queryCatalogItem itemId).answer t = (loadCatalogItem t itemId).mapError .failed := by
  have hread : activeAttributes itemId t =
      ((t.items.find? itemId).filter (·.active)).map (·.attributes) := rfl
  cases hrow : t.items.find? itemId with
  | none =>
    rw [queryCatalogItem, Query.answer_ask_bind, hread, loadCatalogItem, hrow]
    rfl
  | some row =>
    rw [hrow] at hread
    cases hactive : row.active with
    | false =>
      rw [filter_some_neg (by simp [hactive])] at hread
      rw [queryCatalogItem, Query.answer_ask_bind, hread, loadCatalogItem, hrow]
      simp only [hactive]
      rfl
    | true =>
      rw [filter_some_pos (by simp [hactive])] at hread
      rw [queryCatalogItem, Query.answer_ask_bind, hread, loadCatalogItem, hrow]
      simp only [hactive, map_some, Query.answer_ask_bind]
      cases lastDecision t itemId <;> rfl

theorem querySource_answer (sourceId : SourceId) (t : CatalogTables) :
    (querySource sourceId).answer t = (loadSource t sourceId).mapError .failed := rfl

theorem queryEvidence_answer (evidenceId : EvidenceId) (t : CatalogTables) :
    (queryEvidence evidenceId).answer t = (loadEvidence t evidenceId).mapError .failed := by
  have hread : joinedEvidence evidenceId t = (t.evidence.find? evidenceId).bind fun row =>
      (t.sources.find? row.sourceId).map fun source =>
        (row, t.linkOf evidenceId, source.canonicalLocator) := rfl
  rw [queryEvidence, Query.answer_ask_bind, hread, loadEvidence]
  cases hrow : t.evidence.find? evidenceId with
  | none => rfl
  | some row =>
    simp only [bind_some]
    cases hsource : t.sources.find? row.sourceId with
    | none => rfl
    | some source =>
      simp only [map_some, Query.answer_bind, querySource_answer, loadSource, hsource]
      rfl

theorem map_filterMap_sublist {α β γ : Type} {f : α → Option β} {name : β → γ} {key : α → γ}
    (h : ∀ a b, f a = some b → name b = key a) (l : List α) :
    ((l.filterMap f).map name).Sublist (l.map key) := by
  induction l with
  | nil => exact List.Sublist.refl _
  | cons a rest ih =>
    cases ha : f a with
    | none =>
      rw [filterMap_cons_none ha]
      exact ih.cons _
    | some b =>
      rw [filterMap_cons_some ha, map_cons, map_cons, h a b ha]
      exact ih.cons_cons _

theorem catalogListing_regular : catalogListing.Regular where
  keys_nodup t := by
    have hperm := (perm_insertionSort NameOrder
      (t.items.rows.filter fun row => row.2.active)).map Prod.fst
    refine hperm.nodup_iff.mpr ?_
    exact (Table.rows_nodup t.items).sublist ((filter_sublist ..).map _)
  length_le_count t := by
    simp [catalogListing, activeItemIds]
  kind_plain := by decide
  load_failed itemId t := by
    change (queryCatalogItem itemId).answer t ≠ _
    rw [queryCatalogItem_answer]
    exact mapError_ne_overflowed _

theorem evidenceInState_nodup (state : EvidenceStateV1) (t : CatalogTables) :
    (evidenceInState state t).Nodup := by
  have hperm := (perm_insertionSort (TimeOrder EvidenceRow.createdAtMs)
    (t.evidence.rows.filter fun row => row.2.state = state)).map Prod.fst
  refine hperm.nodup_iff.mpr ?_
  exact (Table.rows_nodup t.evidence).sublist ((filter_sublist ..).map _)

def InboxKey.id : InboxKey → ReceiptUuidId
  | .evidence evidenceId => evidenceId
  | .quarantine quarantineId .. => quarantineId

theorem joinedQuarantines_nodup (t : CatalogTables) : (joinedQuarantines t).Nodup := by
  apply List.Nodup.of_map InboxKey.id
  have hperm := (perm_insertionSort (TimeOrder QuarantineRow.createdAtMs)
    t.quarantines.rows).map Prod.fst
  refine (hperm.nodup_iff.mpr (Table.rows_nodup t.quarantines)).sublist ?_
  refine map_filterMap_sublist ?_ _
  intro row key hkey
  obtain ⟨source, -, rfl⟩ := map_eq_some_iff.mp hkey
  rfl

theorem queryInboxRow_failed (key : InboxKey) (t : CatalogTables) :
    (queryInboxRow key).answer t ≠ .error .overflowed := by
  cases key with
  | evidence evidenceId =>
    have hanswer : (queryInboxRow (.evidence evidenceId)).answer t =
        (queryEvidence evidenceId).answer t >>= fun snapshot => .ok (.evidence snapshot) :=
      Query.answer_bind ..
    rw [hanswer, queryEvidence_answer]
    cases loadEvidence t evidenceId <;> exact nofun
  | quarantine quarantineId sourceId code blobSha256 noBlobReason =>
    rw [queryInboxRow, Query.answer_bind, querySource_answer]
    cases loadSource t sourceId <;> exact nofun

theorem inboxListing_regular (state : InboxStateV1) : (inboxListing state).Regular where
  keys_nodup t := by
    cases state with
    | unresolved => exact (evidenceInState_nodup _ t).map fun _ _ h => InboxKey.evidence.inj h
    | deferred => exact (evidenceInState_nodup _ t).map fun _ _ h => InboxKey.evidence.inj h
    | quarantine => exact joinedQuarantines_nodup t
  length_le_count t := by
    cases state with
    | unresolved => simp [inboxListing, evidenceInState]
    | deferred => simp [inboxListing, evidenceInState]
    | quarantine =>
      exact (length_filterMap_le _ _).trans_eq (length_insertionSort _ _)
  kind_plain := by cases state <;> decide
  load_failed key t := by cases state <;> exact queryInboxRow_failed key t

/-! ## Consistency -/

structure Consistent (services : CatalogServices) (list : Listing κ ρ) : Prop where
  /-- A traversal returns the rows listed under the revisions it reports, each once. Rows are
  counted in an `i64`. -/
  traversal : ∀ t pages t', (∀ p ∈ pages, p.totalCount < i64Bound) →
    Traversal (list.Within services) (list.Between services) list.page ListV1Request.cursor
      ListV1Response.nextCursor none t pages t' →
    ∃ t₀, Steps services t t₀ ∧
      (∀ p ∈ pages, (p.catalogRevision, p.evidenceGeneration) = revisions t₀) ∧
      (list.keys t₀).Nodup ∧ list.rowsAt t₀ (list.keys t₀) = .ok (pages.flatMap (·.rows))
  /-- A cursor that is accepted overflows no sum and returns the rows at its offset exactly when
  the offset is an `i64`, or there are no rows to return in their place. -/
  cursor : ∀ request t offset, list.count t < i64Bound →
    parseCursor request.cursor list.cursorKind t.catalogRevision t.evidenceGeneration =
      .ok offset →
    (((list.page request).answer t ≠ .error .overflowed ∧
      ∀ p, (list.page request).answer t = .ok p →
        list.rowsAt t (((list.keys t).drop offset).take request.limit) = .ok p.rows) ↔
    (offset < i64Bound ∨
      ∀ rows, list.rowsAt t ((list.keys t).take request.limit) = .ok rows → rows = []))

theorem Listing.Regular.consistent {list : Listing κ ρ} (hregular : list.Regular) :
    Consistent services list where
  traversal t pages t' hsize htraversal := by
    obtain ⟨t₀, hsteps, hunder, hrows⟩ := Listing.rows_of_traversal hregular hsize htraversal
    exact ⟨t₀, hsteps, hunder, hregular.keys_nodup t₀, hrows⟩
  cursor request t offset hsize hparse := Listing.offset_kept_iff hregular hsize hparse

/-- **Both lists are consistent**, where no write disturbs a page or changes the listed rows
between two pages without advancing a revision. -/
theorem lists_consistent (services : CatalogServices) :
    Consistent services catalogListing ∧
      ∀ state, Consistent services (inboxListing state) :=
  ⟨catalogListing_regular.consistent, fun state => (inboxListing_regular state).consistent⟩

/-! ## Writes that disturb a traversal

An import records the evidence it finds in transactions of their own, and announces it in the
end. A row it records between two pages may sort in front of the rows that were returned.
-/

namespace Example

def importing : CatalogTables :=
  (importTransaction [.recordSource (.above 9) source,
    .ensureEvidence (.above 30) (.above 9) .image 0,
    .ensureEvidence (.above 40) (.above 9) .image 0] noTables).2

/-- A third one, found later at the same time. -/
def importedMore : CatalogTables :=
  (importTransaction [.ensureEvidence (.above 20) (.above 9) .image 0] importing).2

def cursorAt (text : String) (valid : isOpaque text maxCursorChars = true := by decide) :
    PageCursorV1 := ⟨text, valid⟩

def onePerPage (cursor : Option PageCursorV1) : ListV1Request :=
  ⟨1, .above 0, cursor, 1, by decide, by decide⟩

def evidenceRow (id : UInt8) : InboxRow :=
  .evidence ⟨.above id, ⟨.above 9, none, none, .imageFile, .present, "/shirt.jpg", none⟩, .image,
    .unresolved, none, "/shirt.jpg"⟩

def evidencePage (id : UInt8) (total : ℕ) (next : Option PageCursorV1) : ListV1Response InboxRow :=
  ⟨1, .above 0, [evidenceRow id], total, 0, 0, next⟩

def second : PageCursorV1 := cursorAt "inbox-unresolved.0.0.1"

def third : PageCursorV1 := cursorAt "inbox-unresolved.0.0.2"

def overflowing : PageCursorV1 := cursorAt "inbox-unresolved.0.0.18446744073709551615"

theorem observes_page {late early : CatalogTables → CatalogTables → Prop}
    {request : ListV1Request} {p : ListV1Response InboxRow} {t : CatalogTables}
    (h : ((inboxListing .unresolved).page request).answer t = .ok p) :
    Observes late early ((inboxListing .unresolved).page request) t (.ok p) t :=
  h ▸ Observes.undisturbed _ t

theorem inbox_traversal :
    Traversal (Step lastDigitServices) (Step lastDigitServices) (inboxListing .unresolved).page
      ListV1Request.cursor ListV1Response.nextCursor none importing
      [evidencePage 30 2 (some second), evidencePage 30 3 (some third), evidencePage 40 3 none]
      importedMore := by
  have hwrite : Step lastDigitServices importing importedMore :=
    .imported [.ensureEvidence (.above 20) (.above 9) .image 0] _ Prod.mk.eta.symm
  have hfirst : ((inboxListing .unresolved).page (onePerPage none)).answer importing =
      .ok (evidencePage 30 2 (some second)) := by decide +kernel
  have hsecond : ((inboxListing .unresolved).page (onePerPage (some second))).answer importedMore =
      .ok (evidencePage 30 3 (some third)) := by decide +kernel
  have hthird : ((inboxListing .unresolved).page (onePerPage (some third))).answer importedMore =
      .ok (evidencePage 40 3 none) := by decide +kernel
  refine .more (onePerPage none) second rfl (observes_page hfirst) rfl ?_
  refine .more (onePerPage (some second)) third rfl (.write hwrite (observes_page hsecond)) rfl ?_
  exact .last (onePerPage (some third)) rfl (observes_page hthird) rfl

end Example

theorem inbox_row_twice :
    (∃ pages, Traversal (Step Example.lastDigitServices) (Step Example.lastDigitServices)
        (inboxListing .unresolved).page ListV1Request.cursor ListV1Response.nextCursor none
        Example.importing pages Example.importedMore ∧
      (∀ p ∈ pages, (p.catalogRevision, p.evidenceGeneration) = revisions Example.importing) ∧
      ¬ (pages.flatMap (·.rows)).Nodup) ∧
    ((inboxListing .unresolved).page (Example.onePerPage (some Example.overflowing))).answer
      Example.importing = .error .overflowed := by
  refine ⟨⟨_, Example.inbox_traversal, ?_, ?_⟩, ?_⟩
  · decide +kernel
  · decide +kernel
  · decide +kernel

/-- The traversal that the import does not disturb. -/
theorem lists_consistent_importing :
    ∃ t₀, Steps Example.lastDigitServices Example.importing t₀ ∧
      (∀ p ∈ [Example.evidencePage 30 2 (some Example.second), Example.evidencePage 40 2 none],
        (p.catalogRevision, p.evidenceGeneration) = revisions t₀) ∧
      ((inboxListing .unresolved).keys t₀).Nodup ∧
      (inboxListing .unresolved).rowsAt t₀ ((inboxListing .unresolved).keys t₀) =
        .ok [Example.evidenceRow 30, Example.evidenceRow 40] := by
  have hfirst : ((inboxListing .unresolved).page (Example.onePerPage none)).answer
      Example.importing = .ok (Example.evidencePage 30 2 (some Example.second)) := by
    decide +kernel
  have hsecond : ((inboxListing .unresolved).page
      (Example.onePerPage (some Example.second))).answer Example.importing =
      .ok (Example.evidencePage 40 2 none) := by decide +kernel
  refine ((lists_consistent Example.lastDigitServices).2 .unresolved).traversal _
    [Example.evidencePage 30 2 (some Example.second), Example.evidencePage 40 2 none]
    Example.importing (by decide) ?_
  refine .more (Example.onePerPage none) Example.second rfl (Example.observes_page hfirst) rfl ?_
  exact .last (Example.onePerPage (some Example.second)) rfl (Example.observes_page hsecond) rfl

end Threadbook.Catalog
