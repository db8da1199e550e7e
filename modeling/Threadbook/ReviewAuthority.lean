import Mathlib
import Threadbook.PromotionRuns

/-!
# The authority of reviews

A review puts a decision at the head of its order and of its order's source. Two counters
go with it: the receipt revision, which all reviews share, and the authority revision of the
source. Over every run, heads are the latest decisions, and a review that is stale, replayed
or fails changes nothing (**`review_authority`**). So the constraints and the triggers that
guard the heads never stop a review.
-/

namespace Threadbook.Promotion

open Fallible Table List Option

variable {services : PromotionServices} {t t' : PromotionTables}

/-! ## What a review does -/

structure PastDecision where
  sourceId : SourceId
  orderEvidenceId : ReceiptOrderEvidenceId
  decisionId : ReceiptReviewDecisionId
  receiptRevision : ℕ

/-- A review that was carried out. -/
structure Decides (services : PromotionServices) (t : PromotionTables)
    (request : ReviewReceiptV1Request) (nowMs : ℤ) (response : ReviewReceiptV1Response)
    (t' : PromotionTables) : Prop where
  unanswered : t.commandReceipts.find? request.requestId = none
  revision : t.receiptRevision = request.expectedReceiptRevision
  order : ∃ order, t.orders.find? request.orderEvidenceId = some order ∧
    order.sourceId = response.order.sourceId
  new : t.reviewDecisions.find? ⟨request.requestId⟩ = none
  created : response.replayStatus = .created
  newRevision : response.newReceiptRevision = t.receiptRevision + 1
  tables : t' = afterReview services t request response.order.sourceId nowMs response

/-- **A review** decides, or leaves the tables alone. -/
theorem reviewReceipt_cases (request : ReviewReceiptV1Request) (nowMs : ℤ) :
    (∃ response t', reviewReceipt services request nowMs t = (.ok response, t') ∧
      Decides services t request nowMs response t') ∨
    ((reviewReceipt services request nowMs t).2 = t ∧
      ∀ response, (reviewReceipt services request nowMs t).1 = .ok response →
        response.replayStatus = .replayed) := by
  rcases hrun : reviewReceipt services request nowMs t with ⟨e | response, t'⟩
  · exact .inr ⟨Fallible.atomically_of_error hrun, by simp⟩
  obtain ⟨hanswered, rfl⟩ | ⟨loaded, hunanswered, -, hload, -, hrevision, hnew, htables, hanswer⟩ :=
    reviewReceipt_eq_ok hrun
  · right
    refine ⟨rfl, ?_⟩
    rintro _ ⟨rfl⟩
    rw [reviewReceipt, Fallible.atomically_eq_ok, Fallible.require_bind_eq_ok,
      Fallible.state_bind, Fallible.check_bind_eq_ok] at hrun
    obtain ⟨-, stored, hreplay, hrun⟩ := hrun
    obtain ⟨row, hrow⟩ := isSome_iff_exists.mp hanswered
    rw [replay, hrow] at hreplay
    simp only at hreplay
    split at hreplay
    · obtain rfl := Except.ok.inj hreplay
      have hreplayed := (Prod.mk.inj hrun).1
      cases hresponse : row.response with
      | review stored =>
        rw [hresponse] at hreplayed
        obtain rfl := Except.ok.inj hreplayed
        rfl
      | promote stored | other =>
        rw [hresponse] at hreplayed
        cases hreplayed
    · cases hreplay
  · left
    obtain ⟨row, reviewHead, hrow, -, -, rfl⟩ := loadOrder_eq_ok hload
    -- the answer shows the order again, with its new head
    simp only [reviewResponse, check_bind_eq_ok, check_mapError_eq_ok] at hanswer
    obtain ⟨order, horder, decision, -, ⟨⟩, -, hanswer⟩ := hanswer
    obtain ⟨row', reviewHead', hrow', -, -, rfl⟩ := loadOrder_eq_ok horder
    have hsame : row' = row := by
      rw [htables] at hrow'
      exact mem_unique hrow' hrow
    subst hsame
    obtain rfl := Except.ok.inj hanswer
    exact ⟨_, t', rfl, hunanswered, hrevision, ⟨row', hrow, rfl⟩, hnew, rfl,
      by rw [htables]; rfl, htables⟩

variable {log : List PastDecision} {request : ReviewReceiptV1Request} {nowMs : ℤ}

/-- **A stale review** is refused. -/
theorem review_of_stale (hunanswered : t.commandReceipts.find? request.requestId = none)
    (hstale : t.receiptRevision ≠ request.expectedReceiptRevision) :
    ∃ e, reviewReceipt services request nowMs t = (.error e, t) := by
  rcases hrun : reviewReceipt services request nowMs t with ⟨e | response, t'⟩
  · obtain rfl := atomically_of_error hrun
    exact ⟨e, rfl⟩
  · obtain ⟨hanswered, -⟩ | ⟨-, -, -, -, -, hrevision, -⟩ := reviewReceipt_eq_ok hrun
    · rw [hunanswered] at hanswered
      cases hanswered
    · exact absurd hrevision hstale

structure Beside (t t' : PromotionTables) : Prop where
  orders : ∀ id row, t.orders.find? id = some row → t'.orders.find? id = some row
  reviewDecisions : t'.reviewDecisions = t.reviewDecisions
  reviewHeads : t'.reviewHeads = t.reviewHeads
  authorityHeads : t'.authorityHeads = t.authorityHeads
  receiptRevision : t.receiptRevision ≤ t'.receiptRevision

theorem Beside.refl (t : PromotionTables) : Beside t t :=
  ⟨fun _ _ h => h, rfl, rfl, rfl, le_rfl⟩

theorem Elsewhere.beside (h : Elsewhere t t') : Beside t t' := by
  have hrows := h.rows
  exact ⟨fun id row hrow => by rw [hrows]; exact hrow, by rw [hrows], by rw [hrows], by rw [hrows],
    h.receiptRevision⟩

def Command.decided (services : PromotionServices) (t : PromotionTables) :
    Command → List PastDecision
  | .review request nowMs =>
    match (reviewReceipt services request nowMs t).1 with
    | .ok response =>
      if response.replayStatus = .created then
        [⟨response.order.sourceId, request.orderEvidenceId, ⟨request.requestId⟩,
          response.newReceiptRevision⟩]
      else []
    | .error _ => []
  | .list _ | .promote _ _ | .delete _ _ _ | .store _ _ => []

/-- **A command** makes one decision, or happens beside the reviews. -/
theorem Command.decided_cases (command : Command) :
    (∃ request nowMs response t', command = .review request nowMs ∧
      Decides services t request nowMs response t' ∧ command.tables services t = t' ∧
      command.decided services t = [⟨response.order.sourceId, request.orderEvidenceId,
        ⟨request.requestId⟩, t.receiptRevision + 1⟩]) ∨
    (Beside t (command.tables services t) ∧ command.decided services t = []) := by
  cases command with
  | list request => exact .inr ⟨.refl t, rfl⟩
  | promote request nowMs =>
    refine .inr ⟨?_, rfl⟩
    rw [Command.tables]
    rcases hrun : promoteReceiptPurchaseUnit services request nowMs t with ⟨e | response, t'⟩
    · obtain rfl := atomically_of_error hrun
      exact .refl _
    · obtain ⟨rfl, -⟩ | ⟨current, -, rfl⟩ := promoteReceiptPurchaseUnit_eq_ok hrun
      · exact .refl _
      · exact ⟨fun _ _ h => h, rfl, rfl, rfl, le_rfl⟩
  | review request nowMs =>
    have hcases : (∃ response t', reviewReceipt services request nowMs t = (.ok response, t') ∧ _) ∨ _ :=
      reviewReceipt_cases request nowMs
    rcases hcases with ⟨response, t', hrun, hdecides⟩ | ⟨hsame, hreplayed⟩
    · left
      refine ⟨request, nowMs, response, t', rfl, hdecides, by rw [Command.tables, hrun], ?_⟩
      simp only [Command.decided, hrun, hdecides.created, if_true, hdecides.newRevision]
    · right
      rw [Command.tables, hsame]
      refine ⟨.refl t, ?_⟩
      rcases hresult : (reviewReceipt services request nowMs t).1 with e | response
      · simp [Command.decided, hresult]
      · simp [Command.decided, hresult, hreplayed response hresult]
  | delete target deletionRequestId nowMs =>
    refine .inr ⟨?_, rfl⟩
    rw [Command.tables]
    rcases hrun : deletePurchaseUnit services target deletionRequestId nowMs t with ⟨e | u, t'⟩
    · obtain rfl := atomically_of_error hrun
      exact .refl _
    · obtain ⟨found, -, rfl⟩ := deletePurchaseUnit_eq_ok hrun
      rcases hbranch : found.branch with _ | branch <;> simp only [afterDeletion, hbranch]
      · exact ⟨fun _ _ h => h, rfl, rfl, rfl, Nat.le_succ _⟩
      · exact ⟨fun _ _ h => h, rfl, rfl, rfl, Nat.le_succ _⟩
  | store orderId row =>
    refine .inr ⟨?_, rfl⟩
    rw [Command.tables]
    rcases hrun : storeOrder services orderId row t with ⟨e | u, t'⟩
    · obtain rfl := atomically_of_error hrun
      exact .refl _
    · obtain ⟨-, -, -, hnew, rfl⟩ := storeOrder_eq_ok hrun
      refine ⟨fun id other hother => ?_, rfl, rfl, rfl, le_rfl⟩
      simp only [find?_put]
      rw [if_neg]
      · exact hother
      · rintro rfl
        rw [hnew] at hother
        cases hother

/-! ## Runs -/

/-- The tables after a run, and the decisions made in it, the latest first. -/
inductive Reviews (services : PromotionServices) : List PastDecision → PromotionTables → Prop
  | fresh {t : PromotionTables} (h : Fresh t) : Reviews services [] t
  | command {log : List PastDecision} {t : PromotionTables} (h : Reviews services log t)
      (command : Command) :
      Reviews services (command.decided services t ++ log) (command.tables services t)
  | elsewhere {log : List PastDecision} {t t' : PromotionTables} (h : Reviews services log t)
      (h' : Elsewhere t t') : Reviews services log t'

def latestOf (log : List PastDecision) (orderId : ReceiptOrderEvidenceId) : Option PastDecision :=
  log.find? fun past => past.orderEvidenceId = orderId

def latestFor (log : List PastDecision) (source : SourceId) : Option PastDecision :=
  log.find? fun past => past.sourceId = source

def PastDecision.head (self : PastDecision) (authorityRevision : ℕ) : AuthorityHeadRow :=
  ⟨⟨self.decisionId.requestId⟩, self.orderEvidenceId, self.decisionId, self.receiptRevision,
    authorityRevision⟩

structure Follows (log : List PastDecision) (t : PromotionTables) : Prop where
  ordered : log.Pairwise fun later earlier => earlier.receiptRevision < later.receiptRevision
  bounded : ∀ past ∈ log, 0 < past.receiptRevision ∧ past.receiptRevision ≤ t.receiptRevision
  orders : ∀ past ∈ log, ∃ order, t.orders.find? past.orderEvidenceId = some order ∧
    order.sourceId = past.sourceId
  stored : ∀ past ∈ log, ∃ row, t.reviewDecisions.find? past.decisionId = some row ∧
    row.orderEvidenceId = past.orderEvidenceId ∧ row.receiptRevision = past.receiptRevision
  logged : ∀ id row, t.reviewDecisions.find? id = some row → ∃ past ∈ log, past.decisionId = id
  orderHeads : ∀ orderId, t.reviewHeads.find? orderId = (latestOf log orderId).map (·.decisionId)
  sourceHeads : ∀ source, t.authorityHeads.find? source = (latestFor log source).map
    (·.head (log.countP fun past => past.sourceId = source))

theorem Follows.beside (h : Follows log t) (hb : Beside t t') : Follows log t' where
  ordered := h.ordered
  bounded := fun past hmem =>
    ⟨(h.bounded past hmem).1, (h.bounded past hmem).2.trans hb.receiptRevision⟩
  orders := fun past hmem => by
    obtain ⟨order, horder, hsource⟩ := h.orders past hmem
    exact ⟨order, hb.orders _ _ horder, hsource⟩
  stored := by
    rw [hb.reviewDecisions]
    exact h.stored
  logged := by
    rw [hb.reviewDecisions]
    exact h.logged
  orderHeads := by
    rw [hb.reviewHeads]
    exact h.orderHeads
  sourceHeads := by
    rw [hb.authorityHeads]
    exact h.sourceHeads

variable {response : ReviewReceiptV1Response}

/-- **A decision** goes to the front of the log, and to the heads. -/
theorem Follows.decide (h : Follows log t) (hd : Decides services t request nowMs response t') :
    Follows (⟨response.order.sourceId, request.orderEvidenceId, ⟨request.requestId⟩,
      t.receiptRevision + 1⟩ :: log) t' := by
  obtain ⟨order, horder, hsource⟩ := hd.order
  have htables := hd.tables
  subst htables
  -- a stored decision is another one
  have hold : ∀ id row, t.reviewDecisions.find? id = some row → id ≠ ⟨request.requestId⟩ := by
    rintro id row hrow rfl
    rw [hd.new] at hrow
    cases hrow
  refine ⟨?_, ?_, ?_, ?_, ?_, ?_, ?_⟩
  · exact pairwise_cons.mpr ⟨fun past hmem => Nat.lt_succ_of_le (h.bounded past hmem).2, h.ordered⟩
  · intro past hmem
    rcases mem_cons.mp hmem with rfl | hmem
    · exact ⟨Nat.succ_pos _, le_rfl⟩
    · exact ⟨(h.bounded past hmem).1, Nat.le_succ_of_le (h.bounded past hmem).2⟩
  · intro past hmem
    rcases mem_cons.mp hmem with rfl | hmem
    · exact ⟨order, horder, hsource⟩
    · exact h.orders past hmem
  · intro past hmem
    rcases mem_cons.mp hmem with rfl | hmem
    · exact ⟨_, by rw [afterReview, find?_put, if_pos rfl], rfl, rfl⟩
    · obtain ⟨row, hrow, hrest⟩ := h.stored past hmem
      exact ⟨row, by rw [afterReview, find?_put, if_neg (hold _ _ hrow), hrow], hrest⟩
  · intro id row hrow
    rw [afterReview, find?_put] at hrow
    split at hrow
    · rename_i hid
      exact ⟨_, .head _, hid.symm⟩
    · obtain ⟨past, hmem, hid⟩ := h.logged id row hrow
      exact ⟨past, .tail _ hmem, hid⟩
  · intro orderId
    rw [afterReview, find?_put, latestOf, find?_cons]
    by_cases hid : request.orderEvidenceId = orderId
    · simp [hid]
    · simp only [hid, decide_false, if_neg (Ne.symm hid)]
      exact h.orderHeads orderId
  · intro source
    rw [afterReview, find?_put, latestFor, find?_cons, countP_cons]
    by_cases hid : response.order.sourceId = source
    · subst hid
      have hhead := h.sourceHeads response.order.sourceId
      simp only [if_true, decide_true, map_some, PastDecision.head, nextAuthorityHead, hhead]
      rcases hlatest : latestFor log response.order.sourceId with _ | past
      · have hnone := find?_eq_none.mp hlatest
        rw [countP_eq_zero.mpr hnone]
        rfl
      · rfl
    · simp only [hid, decide_false, if_neg (Ne.symm hid)]
      exact h.sourceHeads source

/-- **Every run** leads to the tables of its decisions. -/
theorem Reviews.follows (h : Reviews services log t) : Follows log t := by
  induction h with
  | fresh h =>
    refine ⟨List.Pairwise.nil, by simp, by simp, by simp, ?_, ?_, ?_⟩
    · simp [h.reviewDecisions]
    · simp [h.reviewHeads, latestOf]
    · simp [h.authorityHeads, latestFor]
  | command _ command ih =>
    rcases command.decided_cases with
      ⟨request, nowMs, response, t', -, hdecides, htables, hdecided⟩ | ⟨hbeside, hdecided⟩
    · rw [hdecided, htables]
      exact ih.decide hdecides
    · rw [hdecided]
      exact ih.beside hbeside
  | elsewhere _ h' ih => exact ih.beside h'.beside

/-! ## Heads -/

theorem isLatest_find? {α : Type} {rank : α → ℕ} {l : List α}
    (hfalls : l.Pairwise fun later earlier => rank earlier < rank later) (p : α → Bool) :
    Table.IsLatest rank {a | a ∈ l ∧ p a = true} (l.find? p) := by
  rcases hfound : l.find? p with _ | a
  · refine Set.eq_empty_of_forall_notMem fun a ha => ?_
    exact find?_eq_none.mp hfound a ha.1 ha.2
  · obtain ⟨hp, before, after, rfl, hbefore⟩ := find?_eq_some_iff_append.mp hfound
    refine ⟨⟨by simp, hp⟩, fun b hb => ?_⟩
    rcases mem_append.mp hb.1 with hin | hin
    · -- nothing before the first one has the property
      have hnot := hbefore b hin
      rw [hb.2] at hnot
      cases hnot
    · rcases mem_cons.mp hin with rfl | hin
      · exact le_rfl
      · exact ((pairwise_cons.mp (pairwise_append.mp hfalls).2.1).1 b hin).le

def orderDecisions (t : PromotionTables) (orderId : ReceiptOrderEvidenceId) :
    Set (ReceiptReviewDecisionId × ReviewDecisionRow) :=
  {decision | t.reviewDecisions.find? decision.1 = some decision.2 ∧
    decision.2.orderEvidenceId = orderId}

def sourceDecisions (t : PromotionTables) (source : SourceId) :
    Set (ReceiptReviewDecisionId × ReviewDecisionRow) :=
  {decision | t.reviewDecisions.find? decision.1 = some decision.2 ∧
    ∃ order, t.orders.find? decision.2.orderEvidenceId = some order ∧ order.sourceId = source}

def decisionUnder (t : PromotionTables) (id : ReceiptReviewDecisionId) :
    Option (ReceiptReviewDecisionId × ReviewDecisionRow) :=
  (t.reviewDecisions.find? id).map fun row => (id, row)

def decisionRevision (decision : ReceiptReviewDecisionId × ReviewDecisionRow) : ℕ :=
  decision.2.receiptRevision

theorem Follows.isLatest (h : Follows log t) {p : PastDecision → Bool}
    {decisions : Set (ReceiptReviewDecisionId × ReviewDecisionRow)}
    (hdecisions : ∀ past ∈ log, ∀ row, t.reviewDecisions.find? past.decisionId = some row →
      ((past.decisionId, row) ∈ decisions ↔ p past = true))
    (hstored : ∀ decision ∈ decisions, t.reviewDecisions.find? decision.1 = some decision.2) :
    Table.IsLatest decisionRevision decisions
      ((log.find? p).bind fun past => decisionUnder t past.decisionId) := by
  have hlatest := isLatest_find? h.ordered p
  have hof : ∀ decision ∈ decisions, ∃ past ∈ log, p past = true ∧
      decision.2.receiptRevision = past.receiptRevision := by
    rintro ⟨id, row⟩ hmem
    have hrow := hstored _ hmem
    obtain ⟨past, hpast, rfl⟩ := h.logged id row hrow
    obtain ⟨row', hrow', -, hrevision⟩ := h.stored past hpast
    obtain rfl := mem_unique hrow hrow'
    exact ⟨past, hpast, (hdecisions past hpast row hrow).mp hmem, hrevision⟩
  rcases hfound : log.find? p with _ | past <;> rw [hfound] at hlatest
  · refine Set.eq_empty_of_forall_notMem fun decision hmem => ?_
    obtain ⟨past, hpast, hp, -⟩ := hof decision hmem
    exact find?_eq_none.mp hfound past hpast hp
  · obtain ⟨⟨hpast, hp⟩, hmax⟩ := hlatest
    obtain ⟨row, hrow, -, hrevision⟩ := h.stored past hpast
    simp only [bind_some, decisionUnder, hrow, map_some]
    refine ⟨(hdecisions past hpast row hrow).mpr hp, fun decision hmem => ?_⟩
    obtain ⟨other, hother, hpOther, hsame⟩ := hof decision hmem
    calc decision.2.receiptRevision = other.receiptRevision := hsame
      _ ≤ past.receiptRevision := hmax other ⟨hother, hpOther⟩
      _ = row.receiptRevision := hrevision.symm

structure HeadsLatest (log : List PastDecision) (t : PromotionTables) : Prop where
  last : ∀ orderId, t.reviewHeads.find? orderId = (latestOf log orderId).map (·.decisionId)
  order : ∀ orderId, Table.IsLatest decisionRevision (orderDecisions t orderId)
    ((t.reviewHeads.find? orderId).bind (decisionUnder t))
  source : ∀ source, Table.IsLatest decisionRevision (sourceDecisions t source)
    ((t.authorityHeads.find? source).bind fun head => decisionUnder t head.reviewDecisionId)
  head : ∀ source, ∀ head ∈ t.authorityHeads.find? source,
    ∃ row, t.reviewDecisions.find? head.reviewDecisionId = some row ∧
      row.orderEvidenceId = head.orderEvidenceId ∧ row.receiptRevision = head.receiptRevision

theorem Follows.headsLatest (h : Follows log t) : HeadsLatest log t where
  last := h.orderHeads
  order := by
    intro orderId
    rw [h.orderHeads, Option.bind_map]
    refine h.isLatest (fun past hpast row hrow => ?_) fun decision hmem => hmem.1
    obtain ⟨row', hrow', horder, -⟩ := h.stored past hpast
    obtain rfl := Option.mem_unique hrow hrow'
    simp [orderDecisions, hrow, horder]
  source := by
    intro source
    rw [h.sourceHeads, Option.bind_map]
    refine h.isLatest (fun past hpast row hrow => ?_) fun decision hmem => hmem.1
    obtain ⟨row', hrow', horder, -⟩ := h.stored past hpast
    obtain rfl := Option.mem_unique hrow hrow'
    obtain ⟨order, hstored, hsource⟩ := h.orders past hpast
    simp [sourceDecisions, hrow, horder, hstored, hsource]
  head := by
    intro source head hhead
    rw [h.sourceHeads, Option.mem_map] at hhead
    obtain ⟨past, hpast, rfl⟩ := hhead
    exact h.stored past (mem_of_find?_eq_some hpast)

/-! ## Guards -/

/-- The triggers on `receipt_review_heads`: the decision is about the order, and later than the
one at its head. -/
def refusesReviewHead (t : PromotionTables) (orderId : ReceiptOrderEvidenceId)
    (id : ReceiptReviewDecisionId) (receiptRevision : ℕ) : Prop :=
  (¬ ∃ row ∈ t.reviewDecisions.find? id, row.orderEvidenceId = orderId ∧
    row.receiptRevision = receiptRevision) ∨
  (∃ old ∈ t.reviewHeads.find? orderId, ∃ row ∈ t.reviewDecisions.find? old,
    receiptRevision ≤ row.receiptRevision) ∨
  -- no decision is at the head of two orders
  ∃ other, other ≠ orderId ∧ t.reviewHeads.find? other = some id

/-- The triggers on `receipt_source_authority_heads`: the decision is about an order of the
source, and both revisions grow. -/
def refusesAuthorityHead (t : PromotionTables) (source : SourceId) (head : AuthorityHeadRow) :
    Prop :=
  (¬ ∃ row ∈ t.reviewDecisions.find? head.reviewDecisionId,
    row.orderEvidenceId = head.orderEvidenceId ∧ row.receiptRevision = head.receiptRevision ∧
    ∃ order ∈ t.orders.find? row.orderEvidenceId, order.sourceId = source) ∨
  (∃ old ∈ t.authorityHeads.find? source,
    head.receiptRevision ≤ old.receiptRevision ∨ head.authorityRevision ≤ old.authorityRevision) ∨
  -- no decision and no order is at the head of two sources
  ∃ other row, other ≠ source ∧ t.authorityHeads.find? other = some row ∧
    (row.authorityId = head.authorityId ∨ row.reviewDecisionId = head.reviewDecisionId ∨
      row.orderEvidenceId = head.orderEvidenceId)

def afterDecision (t : PromotionTables) (request : ReviewReceiptV1Request) (nowMs : ℤ) :
    PromotionTables :=
  { t with
    receiptRevision := t.receiptRevision + 1
    reviewDecisions := t.reviewDecisions.put ⟨request.requestId⟩
      (reviewDecisionRow request (t.receiptRevision + 1) nowMs) }

/-- **No guard stops a review** whose decision is new: its revision is, and its heads are in
order. -/
theorem Follows.unhindered (h : Follows log t) {order : OrderRow} (nowMs : ℤ)
    (horder : t.orders.find? request.orderEvidenceId = some order)
    (hnew : t.reviewDecisions.find? ⟨request.requestId⟩ = none) :
    (∀ id row, t.reviewDecisions.find? id = some row → row.receiptRevision ≠ t.receiptRevision + 1) ∧
      ¬ refusesReviewHead (afterDecision t request nowMs) request.orderEvidenceId
        ⟨request.requestId⟩ (t.receiptRevision + 1) ∧
      ¬ refusesAuthorityHead (afterDecision t request nowMs) order.sourceId
        (nextAuthorityHead (afterDecision t request nowMs) order.sourceId request) := by
  have hstored : (afterDecision t request nowMs).reviewDecisions.find? ⟨request.requestId⟩ =
      some (reviewDecisionRow request (t.receiptRevision + 1) nowMs) := by
    rw [afterDecision, find?_put, if_pos rfl]
  have hbound : ∀ id row, t.reviewDecisions.find? id = some row →
      row.receiptRevision ≤ t.receiptRevision := by
    intro id row hrow
    obtain ⟨past, hpast, rfl⟩ := h.logged id row hrow
    obtain ⟨row', hrow', -, hrevision⟩ := h.stored past hpast
    obtain rfl := mem_unique hrow hrow'
    rw [hrevision]
    exact (h.bounded past hpast).2
  have hold : ∀ past ∈ log, past.decisionId ≠ ⟨request.requestId⟩ := by
    intro past hpast heq
    obtain ⟨row, hrow, -⟩ := h.stored past hpast
    rw [heq, hnew] at hrow
    cases hrow
  refine ⟨fun id row hrow heq => ?_, ?_, ?_⟩
  · exact absurd (hbound id row hrow) (by rw [heq]; exact Nat.not_succ_le_self _)
  · rintro (hnone | ⟨old, hhead, row, hrow, hle⟩ | ⟨other, -, hhead⟩)
    · exact hnone ⟨_, hstored, rfl, rfl⟩
    · change t.reviewHeads.find? request.orderEvidenceId = some old at hhead
      rw [h.orderHeads, map_eq_some_iff] at hhead
      obtain ⟨past, hpast, rfl⟩ := hhead
      rw [afterDecision, find?_put, if_neg (hold past (mem_of_find?_eq_some hpast))] at hrow
      exact absurd (hle.trans (hbound _ row hrow)) (Nat.not_succ_le_self _)
    · change t.reviewHeads.find? other = _ at hhead
      rw [h.orderHeads, map_eq_some_iff] at hhead
      obtain ⟨past, hpast, heq⟩ := hhead
      exact hold past (mem_of_find?_eq_some hpast) heq
  · rintro (hnone | ⟨old, hhead, hle⟩ | ⟨other, row, hne, hhead, hsame⟩)
    · exact hnone ⟨_, hstored, rfl, rfl, order, horder, rfl⟩
    · change t.authorityHeads.find? order.sourceId = some old at hhead
      have hnext : (nextAuthorityHead (afterDecision t request nowMs) order.sourceId
          request).authorityRevision = old.authorityRevision + 1 := by
        change ((t.authorityHeads.find? order.sourceId).map _).getD 1 = _
        rw [hhead]
        rfl
      rcases hle with hle | hle
      · rw [h.sourceHeads, map_eq_some_iff] at hhead
        obtain ⟨past, hpast, rfl⟩ := hhead
        exact absurd (hle.trans (h.bounded past (mem_of_find?_eq_some hpast)).2)
          (Nat.not_succ_le_self _)
      · rw [hnext] at hle
        exact Nat.not_succ_le_self _ hle
    · change t.authorityHeads.find? other = some row at hhead
      rw [h.sourceHeads, map_eq_some_iff] at hhead
      obtain ⟨past, hpast, rfl⟩ := hhead
      have hmem := mem_of_find?_eq_some hpast
      have hsource : past.sourceId = other := by
        have hfound := find?_some hpast
        exact of_decide_eq_true hfound
      rcases hsame with hsame | hsame | hsame
      · exact hold past hmem hsame
      · exact hold past hmem hsame
      · -- an order is of one source only
        obtain ⟨row, hrow, hof⟩ := h.orders past hmem
        change past.orderEvidenceId = request.orderEvidenceId at hsame
        rw [hsame, horder] at hrow
        cases hrow
        exact hne (hsource.symm.trans hof.symm)

/-! ## Monotony -/

structure Moves (t t' : PromotionTables) (request : ReviewReceiptV1Request) (source : SourceId) :
    Prop where
  receiptRevision : t'.receiptRevision = t.receiptRevision + 1
  orderHead : t'.reviewHeads.find? request.orderEvidenceId = some ⟨request.requestId⟩
  otherOrders : ∀ orderId, orderId ≠ request.orderEvidenceId →
    t'.reviewHeads.find? orderId = t.reviewHeads.find? orderId
  sourceHead : ∃ head, t'.authorityHeads.find? source = some head ∧
    head.reviewDecisionId = ⟨request.requestId⟩ ∧ head.receiptRevision = t'.receiptRevision ∧
    ∀ old ∈ t.authorityHeads.find? source, old.authorityRevision < head.authorityRevision
  otherSources : ∀ other, other ≠ source →
    t'.authorityHeads.find? other = t.authorityHeads.find? other

theorem Decides.moves (h : Decides services t request nowMs response t') :
    Moves t t' request response.order.sourceId := by
  have htables := h.tables
  subst htables
  refine ⟨rfl, ?_, fun orderId hne => ?_,
    ⟨nextAuthorityHead (afterDecision t request nowMs) response.order.sourceId request, ?_, rfl,
      rfl, ?_⟩, fun other hne => ?_⟩
  · rw [afterReview, find?_put, if_pos rfl]
  · rw [afterReview, find?_put, if_neg hne]
  · rw [afterReview, find?_put, if_pos rfl]
    rfl
  · intro old hold
    simp only [nextAuthorityHead, afterDecision, mem_def.mp hold, map_some, getD_some]
    exact Nat.lt_succ_self _
  · rw [afterReview, find?_put, if_neg hne]

structure ReviewSteps (services : PromotionServices) (t : PromotionTables)
    (request : ReviewReceiptV1Request) (nowMs : ℤ) : Prop where
  created : ∀ response, (reviewReceipt services request nowMs t).1 = .ok response →
    response.replayStatus = .created →
    Moves t (reviewReceipt services request nowMs t).2 request response.order.sourceId
  otherwise : (∀ response, (reviewReceipt services request nowMs t).1 = .ok response →
    response.replayStatus = .replayed) → (reviewReceipt services request nowMs t).2 = t
  answered : (t.commandReceipts.find? request.requestId).isSome →
    (reviewReceipt services request nowMs t).2 = t
  stale : t.commandReceipts.find? request.requestId = none →
    t.receiptRevision ≠ request.expectedReceiptRevision →
    ∃ e, reviewReceipt services request nowMs t = (.error e, t)

/-- **Every review** moves its own heads, or changes nothing. -/
theorem reviewSteps (request : ReviewReceiptV1Request) (nowMs : ℤ) :
    ReviewSteps services t request nowMs := by
  have hcases : (∃ response t', reviewReceipt services request nowMs t = (.ok response, t') ∧ _) ∨ _ :=
    reviewReceipt_cases request nowMs
  rcases hcases with ⟨response, t', hrun, hdecides⟩ | ⟨hsame, hreplayed⟩
  · refine ⟨?_, ?_, ?_, review_of_stale⟩
    · rintro _ hresponse -
      rw [hrun] at hresponse ⊢
      cases hresponse
      exact hdecides.moves
    · intro hall
      have hreplayed := hall response (by rw [hrun])
      rw [hdecides.created] at hreplayed
      cases hreplayed
    · intro hanswered
      rw [hdecides.unanswered] at hanswered
      cases hanswered
  · refine ⟨fun response hresponse hcreated => ?_, fun _ => hsame, fun _ => hsame, review_of_stale⟩
    rw [hreplayed response hresponse] at hcreated
    cases hcreated

inductive Leads (services : PromotionServices) (t : PromotionTables) :
    List PastDecision → PromotionTables → Prop
  | here : Leads services t [] t
  | command {later : List PastDecision} {t' : PromotionTables} (h : Leads services t later t')
      (command : Command) :
      Leads services t (command.decided services t' ++ later) (command.tables services t')
  | elsewhere {later : List PastDecision} {t' t'' : PromotionTables}
      (h : Leads services t later t') (h' : Elsewhere t' t'') : Leads services t later t''

theorem Reviews.leads {later : List PastDecision} (h : Reviews services log t)
    (hleads : Leads services t later t') : Reviews services (later ++ log) t' := by
  induction hleads with
  | here => exact h
  | command _ command ih =>
    rw [append_assoc]
    exact ih.command command
  | elsewhere _ h' ih => exact ih.elsewhere h'

def HeadsAdvance (t t' : PromotionTables) : Prop :=
  ∀ source, ∀ old ∈ t.authorityHeads.find? source, ∃ new ∈ t'.authorityHeads.find? source,
    new = old ∨ old.receiptRevision < new.receiptRevision ∧
      old.authorityRevision < new.authorityRevision

/-- **Heads advance** from any time of a run to any later one. -/
theorem Follows.headsAdvance {later : List PastDecision} (h : Follows log t)
    (h' : Follows (later ++ log) t') : HeadsAdvance t t' := by
  intro source old hold
  rw [h.sourceHeads, mem_def, map_eq_some_iff] at hold
  obtain ⟨past, hpast, rfl⟩ := hold
  rw [h'.sourceHeads, latestFor, find?_append, countP_append]
  rcases hlater : later.find? fun past => past.sourceId = source with _ | newer
  · -- nothing was decided about the source since
    have hnone := countP_eq_zero.mpr (find?_eq_none.mp hlater)
    rw [hlater, hnone, Nat.zero_add, none_or]
    exact ⟨_, mem_map_of_mem _ hpast, .inl rfl⟩
  · rw [hlater, some_or]
    refine ⟨_, rfl, .inr ⟨?_, ?_⟩⟩
    · have hmem := mem_of_find?_eq_some hlater
      exact (pairwise_append.mp h'.ordered).2.2 newer hmem past (mem_of_find?_eq_some hpast)
    · have hsource := find?_some hlater
      have hpositive : 0 < later.countP fun past => past.sourceId = source :=
        countP_pos_iff.mpr ⟨newer, mem_of_find?_eq_some hlater, hsource⟩
      exact Nat.lt_add_of_pos_left hpositive

/-- **The authority of reviews**, over every run. The heads are the latest decisions; a review
moves the heads of its order and its source and the receipt revision by one, or changes nothing;
from then on, a source's head only changes together with both of its revisions; and no guard of
the heads stops a review. -/
theorem review_authority {log : List PastDecision} (h : Reviews services log t) :
    HeadsLatest log t ∧ (∀ request nowMs, ReviewSteps services t request nowMs) ∧
      (∀ later t', Leads services t later t' → HeadsAdvance t t') ∧
      ∀ (request : ReviewReceiptV1Request) (nowMs : ℤ) (order : OrderRow),
        t.orders.find? request.orderEvidenceId = some order →
        t.reviewDecisions.find? ⟨request.requestId⟩ = none →
        (∀ id row, t.reviewDecisions.find? id = some row →
          row.receiptRevision ≠ t.receiptRevision + 1) ∧
        ¬ refusesReviewHead (afterDecision t request nowMs) request.orderEvidenceId
          ⟨request.requestId⟩ (t.receiptRevision + 1) ∧
        ¬ refusesAuthorityHead (afterDecision t request nowMs) order.sourceId
          (nextAuthorityHead (afterDecision t request nowMs) order.sourceId request) :=
  ⟨h.follows.headsLatest, reviewSteps,
    fun _ _ hleads => h.follows.headsAdvance (h.leads hleads).follows,
    fun _ nowMs _ horder hnew => h.follows.unhindered nowMs horder hnew⟩

namespace PromotionExample

def rejection : ReviewReceiptV1Request := ⟨1, .above 10, .above 1, .reject, none, 1⟩

def reviewedTables : PromotionTables :=
  (Command.review rejection 0).tables exampleServices
    ((Command.review (confirmation 0) 0).tables exampleServices
      ((Command.store (.above 1) (orderRow 2 100)).tables exampleServices noTables))

theorem reviewedTables_authority :
    ∃ log, Reviews exampleServices log reviewedTables ∧ HeadsLatest log reviewedTables ∧
      (reviewedTables.authorityHeads.find? (.above 4)).map (fun head =>
        (head.reviewDecisionId, head.authorityRevision)) = some (⟨.above 10⟩, 2) := by
  have hfresh : Reviews exampleServices _ _ := .fresh noTables_fresh
  have hreviews := ((hfresh.command (.store (.above 1) (orderRow 2 100))).command
    (.review (confirmation 0) 0)).command (.review rejection 0)
  exact ⟨_, hreviews, (review_authority hreviews).1, by decide +kernel⟩

end PromotionExample

end Threadbook.Promotion
