import Mathlib.Data.Finset.Sort
import Threadbook.Paging

/-!
# What a listing returns, and what it may use

A `MailboxScope` is what the provider itself says of a scope: a profile, then every page of the
listing up to the one that names no next token. The messages to fetch are then settled, and so are
the provider's answers. A coordinator's run is compared with that scope: it returns a batch only
for a scope that **fits** the limits, and the batch then **reports** all of it.

`Called n` counts the provider's own steps, so a bound on them is a bound on the calls of a run
whatever its outcome.

The results are **listings_bounded** for the search and the reconcile, and **reconcile_starts** for
the places where the label coordinator starts a reconcile.
-/

namespace Threadbook

open Fallible

open Fallible (require_bind_eq_ok bind_eq_ok bind_of_ok bind_of_error)

variable {union : BTreeSet String}

section Coordinators

variable {σ : Type} {limits : SyncLimits} {gateway : GmailGateway σ}

/-! ## Calls of the provider -/

/-- One call of the provider moves its state. -/
inductive Provides (gateway : GmailGateway σ) : σ → σ → Prop
  | profile (g) : Provides gateway g (gateway.profileHistoryId g).2
  | list (label token size g) : Provides gateway g (gateway.listMessages label token size g).2
  | search (query token size g) : Provides gateway g (gateway.listSearchMessages query token size g).2
  | get (messageId g) : Provides gateway g (gateway.getMessage messageId g).2
  | history (start label token size g) :
    Provides gateway g (gateway.listHistory start label token size g).2

inductive Called (gateway : GmailGateway σ) : ℕ → σ → σ → Prop
  | none (g) : Called gateway 0 g g
  | more {n g g' g''} (before : Called gateway n g g') (last : Provides gateway g' g'') :
    Called gateway (n + 1) g g''

theorem Called.trans {m n : ℕ} {g g' g'' : σ} (h : Called gateway m g g')
    (h' : Called gateway n g' g'') : Called gateway (m + n) g g'' := by
  induction h' with
  | none g => exact h
  | more before last ih => exact .more (ih h) last

structure WithinLimits (limits : SyncLimits) (s : Session σ) : Prop where
  calls : s.budget.calls ≤ limits.maxGatewayCalls
  rawBytes : s.budget.rawBytes ≤ limits.maxTotalRawBytes

def Counted (limits : SyncLimits) (gateway : GmailGateway σ) (s s' : Session σ) : Prop :=
  s.budget.calls ≤ limits.maxGatewayCalls → s'.budget.calls ≤ limits.maxGatewayCalls ∧
    ∃ n, s'.budget.calls = s.budget.calls + n ∧ Called gateway n s.gateway s'.gateway

theorem Counted.refl (s : Session σ) : Counted limits gateway s s :=
  fun h => ⟨h, 0, rfl, .none _⟩

theorem Counted.trans (s s' s'' : Session σ) (h : Counted limits gateway s s')
    (h' : Counted limits gateway s' s'') : Counted limits gateway s s'' := by
  intro hlimit
  obtain ⟨hlimit, m, hm, hcalled⟩ := h hlimit
  obtain ⟨hlimit, n, hn, hcalled'⟩ := h' hlimit
  exact ⟨hlimit, m + n, by omega, hcalled.trans hcalled'⟩

/-! ### Every part of a run counts its calls -/

section Counted

theorem call_counted {α : Type} {answer : Fallible σ GatewayError α}
    (hprovides : ∀ g, Provides gateway g (answer g).2) :
    Fallible.Steps (Counted limits gateway) (call limits answer) := by
  intro s
  rcases lt_or_ge s.budget.calls limits.maxGatewayCalls with h | h
  · rw [call_of_lt h]
    exact fun _ => ⟨h, 1, rfl, .more (.none _) (hprovides _)⟩
  · rw [call_of_ge h]
    exact .refl s

theorem consumeRaw_counted (length : ℕ) :
    Fallible.Steps (Counted limits gateway) (consumeRaw limits length) := by
  intro s h
  have hcalls : (s.budget.consumeRaw limits length).2.calls = s.budget.calls := by
    simp only [Budget.consumeRaw]
    split_ifs <;> rfl
  exact ⟨hcalls.trans_le h, 0, hcalls, .none _⟩

theorem profileAnchor_counted : Fallible.Steps (Counted limits gateway) (profileAnchor limits gateway) :=
  .bind Counted.trans (.mapError _ (call_counted .profile)) fun _ => .check Counted.refl _

theorem readPages_counted {ε π α : Type} {fault : GatewayError → ε} {wrap : SyncError → ε}
    {tooMany : ε} {ask : Option String → Fallible σ GatewayError π}
    {nextToken : π → Option String} {absorb : α → π → Except ε α}
    (hprovides : ∀ token g, Provides gateway g (ask token g).2) (remaining : ℕ) (place : PageCursor α) :
    Fallible.Steps (Counted limits gateway)
      (readPages tooMany (readPage limits fault wrap ask nextToken absorb) remaining place) := by
  have hpage (place : PageCursor α) : Fallible.Steps (Counted limits gateway)
      (readPage limits fault wrap ask nextToken absorb place) := by
    refine .bind Counted.trans (.mapError _ (call_counted (hprovides _))) fun _ => ?_
    refine .bind Counted.trans (.check Counted.refl _) fun _ => ?_
    exact .bind Counted.trans (.check Counted.refl _) fun _ => .pure Counted.refl _
  induction remaining generalizing place with
  | zero =>
    refine .bind Counted.trans (hpage place) fun next => ?_
    split
    · exact .pure Counted.refl _
    · exact .fail Counted.refl _
  | succ remaining ih =>
    refine .bind Counted.trans (hpage place) fun next => ?_
    split
    · exact .pure Counted.refl _
    · exact ih next

theorem listIds_counted {ask : Option String → Fallible σ GatewayError MessagePage}
    (hprovides : ∀ token g, Provides gateway g (ask token g).2) :
    Fallible.Steps (Counted limits gateway) (listIds limits ask) :=
  .bind Counted.trans (readPages_counted hprovides _ _) fun _ => .pure Counted.refl _

theorem reconcileMessage_counted (key : SyncKey) (anchor : HistoryId) (messageId : String) :
    Fallible.Steps (Counted limits gateway) (reconcileMessage limits gateway key anchor messageId) := by
  refine .bind Counted.trans (.attempt (call_counted (.get messageId))) fun answer => ?_
  rcases answer with error | message
  · cases error <;> first | exact .pure Counted.refl _ | exact .fail Counted.refl _
  · refine .bind Counted.trans (.check Counted.refl _) fun _ => ?_
    refine .bind Counted.trans (consumeRaw_counted _) fun _ => ?_
    refine .bind Counted.trans (.check Counted.refl _) fun _ => ?_
    split <;> exact .pure Counted.refl _

theorem searchMessage_counted (messageId : String) :
    Fallible.Steps (Counted limits gateway) (searchMessage limits gateway messageId) := by
  refine .bind Counted.trans (.mapError _ (call_counted (.get messageId))) fun message => ?_
  refine .bind Counted.trans (.check Counted.refl _) fun _ => ?_
  refine .bind Counted.trans (consumeRaw_counted _) fun _ => ?_
  exact .bind Counted.trans (.check Counted.refl _) fun _ => .pure Counted.refl _

theorem reconcile_counted (store : GmailSyncStore) (key : SyncKey) (expected : Option String) :
    Fallible.Steps (Counted limits gateway) (reconcile limits gateway store key expected) := by
  refine .bind Counted.trans profileAnchor_counted fun anchor => ?_
  refine .bind Counted.trans (listIds_counted fun token g => .list ..) fun _ => ?_
  refine .bind Counted.trans (.check Counted.refl _) fun _ => ?_
  refine .bind Counted.trans (.check Counted.refl _) fun union => ?_
  refine .bind Counted.trans (.forEach Counted.refl Counted.trans
    (reconcileMessage_counted key anchor) _) fun _ => ?_
  exact .bind Counted.trans (.state Counted.refl) fun _ => .pure Counted.refl _

theorem search_counted (isUuid : String → Bool) (self : GmailSearchCoordinator)
    (store : GmailSyncStore) (key : SyncKey) (query : String) :
    Fallible.Steps (Counted self.limits gateway) (self.collect isUuid gateway store key query) := by
  refine .bind Counted.trans (.check Counted.refl _) fun _ => ?_
  refine .bind Counted.trans (.check Counted.refl _) fun _ => ?_
  refine .bind Counted.trans (.check Counted.refl _) fun _ => ?_
  refine .bind Counted.trans profileAnchor_counted fun anchor => ?_
  refine .bind Counted.trans (listIds_counted fun token g => .search ..) fun _ => ?_
  refine .bind Counted.trans (.forEach Counted.refl Counted.trans searchMessage_counted _)
    fun _ => ?_
  exact .bind Counted.trans (.state Counted.refl) fun _ => .pure Counted.refl _

end Counted

/-! ## The scope, as the provider tells it -/

/-- **A scope of the mailbox**: the provider's profile, then its pages to the one without a
token. -/
structure MailboxScope (gateway : GmailGateway σ)
    (ask : Option String → Fallible σ GatewayError MessagePage) (g : σ) where
  profile : String
  profiled : σ
  pages : List MessagePage
  listed : σ
  profile_answer : gateway.profileHistoryId g = (.ok profile, profiled)
  chain : PageChain ask MessagePage.nextPageToken none profiled pages listed

/-- What the provider answers when asked for each message, one after the other. -/
def fetchAll (gateway : GmailGateway σ) :
    List String → σ → List (Except GatewayError RawGmailMessage) × σ
  | [], g => ([], g)
  | messageId :: rest, g =>
    let later := fetchAll gateway rest (gateway.getMessage messageId g).2
    ((gateway.getMessage messageId g).1 :: later.1, later.2)

def answerBytes : Except GatewayError RawGmailMessage → ℕ
  | .ok message => message.raw.length
  | .error _ => 0

namespace MailboxScope

variable {ask : Option String → Fallible σ GatewayError MessagePage} {g : σ}

/-- Every id the pages list or the store knows, once each and in ascending order. -/
def ids (scope : MailboxScope gateway ask g) (known : List String) : List String :=
  (scope.pages.flatMap MessagePage.messageIds ++ known).toFinset.sort (· ≤ ·)

def rawBytes (scope : MailboxScope gateway ask g) (known : List String) : ℕ :=
  ((fetchAll gateway (scope.ids known) scope.listed).1.map answerBytes).sum

structure Fits (scope : MailboxScope gateway ask g) (known : List String) (limits : SyncLimits)
    (used : Budget) : Prop where
  pages : scope.pages.length ≤ limits.maxPages
  ids : (scope.ids known).length ≤ limits.maxUniqueMessages
  calls : used.calls + 1 + scope.pages.length + (scope.ids known).length ≤ limits.maxGatewayCalls
  rawBytes : used.rawBytes + scope.rawBytes known ≤ limits.maxTotalRawBytes

structure Reported (scope : MailboxScope gateway ask g) (known : List String) (used : Budget)
    (batch : SyncBatch) : Prop where
  discovered : batch.discoveredMessageIds = scope.ids known
  effects : batch.effects.map RevisionEffect.messageId = scope.ids known
  pages : batch.pages = scope.pages.length
  calls : batch.gatewayCalls = used.calls + 1 + scope.pages.length + (scope.ids known).length
  rawBytes : batch.rawBytes = used.rawBytes + scope.rawBytes known

end MailboxScope

theorem PageChain.unique {π : Type} {ask : Option String → Fallible σ GatewayError π}
    {nextToken : π → Option String} {token : Option String} {g g' g'' : σ} {pages pages' : List π}
    (h : PageChain ask nextToken token g pages g')
    (h' : PageChain ask nextToken token g pages' g'') : pages = pages' ∧ g' = g'' := by
  induction h generalizing pages' with
  | last answer final =>
    cases h' with
    | last answer' final' => simp_all
    | more answer' follows' rest' => simp_all
  | more answer follows rest ih =>
    cases h' with
    | last answer' final' => simp_all
    | more answer' follows' rest' =>
      obtain ⟨hpage, rfl⟩ := Prod.mk.inj (answer.symm.trans answer')
      cases hpage
      obtain rfl := Option.mem_unique follows follows'
      obtain ⟨rfl, hg⟩ := ih rest'
      exact ⟨rfl, hg⟩

variable {ask : Option String → Fallible σ GatewayError MessagePage}

theorem MailboxScope.unique {g : σ} (scope scope' : MailboxScope gateway ask g) :
    scope = scope' := by
  obtain ⟨profile, profiled, pages, listed, hprofile, hchain⟩ := scope
  obtain ⟨profile', profiled', pages', listed', hprofile', hchain'⟩ := scope'
  obtain ⟨hsame, rfl⟩ := Prod.mk.inj (hprofile.symm.trans hprofile')
  cases hsame
  obtain ⟨rfl, rfl⟩ := hchain.unique hchain'
  rfl

/-! ## A run reads its scope -/

section Reads

variable {s s' : Session σ} {listed : BTreeSet String}

theorem addIds_eq_ok {ids : List String} (h : addIds limits listed ids = .ok union) :
    (∀ i, i ∈ union.toList ↔ i ∈ listed.toList ∨ i ∈ ids) ∧
      (listed.length ≤ limits.maxUniqueMessages → union.length ≤ limits.maxUniqueMessages) := by
  induction ids generalizing listed with
  | nil =>
    cases h
    simp
  | cons messageId rest ih =>
    obtain ⟨-, -, h⟩ := check_bind_eq_ok.mp h
    obtain ⟨hlimit, h⟩ := check_unless_eq_ok.mp h
    obtain ⟨hmem, hlength⟩ := ih h
    refine ⟨fun i => ?_, fun _ => hlength (not_lt.mp hlimit)⟩
    rw [hmem, BTreeSet.mem_add, List.mem_cons]
    tauto

theorem foldlM_addIds_eq_ok {pages : List MessagePage}

    (h : pages.foldlM (fun listed page => addIds limits listed page.messageIds) listed = .ok union) :
    (∀ i, i ∈ union.toList ↔ i ∈ listed.toList ∨ i ∈ pages.flatMap MessagePage.messageIds) ∧
      (listed.length ≤ limits.maxUniqueMessages → union.length ≤ limits.maxUniqueMessages) := by
  induction pages generalizing listed with
  | nil =>
    obtain rfl := check_foldlM_nil_eq_ok.mp h
    simp
  | cons page rest ih =>
    obtain ⟨next, hpage, hrest⟩ := check_foldlM_cons_eq_ok.mp h
    obtain ⟨hmem, hlength⟩ := addIds_eq_ok hpage
    obtain ⟨hmem', hlength'⟩ := ih hrest
    refine ⟨fun i => ?_, fun hl => hlength' (hlength hl)⟩
    rw [hmem', hmem, List.flatMap_cons, List.mem_append, or_assoc]

theorem toList_eq_sort {set : BTreeSet String} {l : List String}
    (h : ∀ i, i ∈ set.toList ↔ i ∈ l) : set.toList = l.toFinset.sort (· ≤ ·) := by
  have hsame : l.toFinset = set.toList.toFinset := by
    ext i
    rw [List.mem_toFinset, List.mem_toFinset, h]
  rw [hsame]
  exact ((List.toFinset_sort (· ≤ ·) set.keys_nodup).mpr
    (set.keys_sorted.imp fun h => le_of_lt h)).symm

structure Fetched (limits : SyncLimits) (gateway : GmailGateway σ) (messageId : String)
    (effect : RevisionEffect) (s s' : Session σ) : Prop where
  about : effect.messageId = messageId
  moved : s'.gateway = (gateway.getMessage messageId s.gateway).2
  calls : s'.budget.calls = s.budget.calls + 1
  rawBytes : s'.budget.rawBytes =
    s.budget.rawBytes + answerBytes (gateway.getMessage messageId s.gateway).1
  within : s.budget.rawBytes ≤ limits.maxTotalRawBytes →
    s'.budget.rawBytes ≤ limits.maxTotalRawBytes

theorem consumeRaw_eq_ok {length : ℕ} {u : Unit} (h : consumeRaw limits length s = (.ok u, s')) :
    s'.gateway = s.gateway ∧ s'.budget.calls = s.budget.calls ∧
      s'.budget.rawBytes = s.budget.rawBytes + length ∧
      s'.budget.rawBytes ≤ limits.maxTotalRawBytes := by
  obtain ⟨hresult, rfl⟩ := Prod.mk.inj h
  simp only [Budget.consumeRaw] at hresult ⊢
  split_ifs at hresult ⊢ with hlong hsum hlimit
  exact ⟨trivial, rfl, rfl, not_lt.mp hlimit⟩

theorem reconcileMessage_eq_ok {key : SyncKey} {anchor : HistoryId} {messageId : String}
    {effect : RevisionEffect}
    (h : reconcileMessage limits gateway key anchor messageId s = (.ok effect, s')) :
    Fetched limits gateway messageId effect s s' := by
  obtain ⟨result, s₁, hcall, h⟩ := bind_eq_ok.mp h
  obtain ⟨hresult, rfl⟩ := Prod.mk.inj hcall
  obtain rfl := Except.ok.inj hresult
  rcases lt_or_ge s.budget.calls limits.maxGatewayCalls with hcalls | hcalls
  · rw [call_of_lt hcalls] at h
    rcases hanswer : (gateway.getMessage messageId s.gateway).1 with error | message
    · rw [hanswer] at h
      cases error <;> try cases h
      -- the provider no longer has the message
      exact {
        about := rfl
        moved := rfl
        calls := rfl
        rawBytes := by rw [hanswer]; rfl
        within := id }
    · rw [hanswer] at h
      obtain ⟨-, h⟩ := require_bind_eq_ok.mp h
      obtain ⟨_, s₂, hconsume, h⟩ := bind_eq_ok.mp h
      obtain ⟨hgateway, hcalls, hraw, hwithin⟩ := consumeRaw_eq_ok hconsume
      obtain ⟨messageHistory, -, h⟩ := Fallible.check_bind_eq_ok.mp h
      have hend : effect.messageId = messageId ∧ s₂ = s' := by
        split at h <;> cases h <;> exact ⟨rfl, rfl⟩
      obtain ⟨habout, rfl⟩ := hend
      exact {
        about := habout
        moved := hgateway
        calls := hcalls
        rawBytes := by rw [hraw, hanswer]; rfl
        within := fun _ => hwithin }
  · rw [call_of_ge hcalls] at h
    cases h

theorem searchMessage_eq_ok {messageId : String} {effect : RevisionEffect}
    (h : searchMessage limits gateway messageId s = (.ok effect, s')) :
    Fetched limits gateway messageId effect s s' := by
  obtain ⟨message, s₁, hcall, h⟩ := bind_eq_ok.mp h
  obtain ⟨-, hanswer, hbudget⟩ := call_eq_ok.mp (Fallible.mapError_eq_ok.mp hcall)
  obtain ⟨-, h⟩ := require_bind_eq_ok.mp h
  obtain ⟨_, s₂, hconsume, h⟩ := bind_eq_ok.mp h
  obtain ⟨hgateway, hcalls, hraw, hwithin⟩ := consumeRaw_eq_ok hconsume
  obtain ⟨revision, -, h⟩ := Fallible.check_bind_eq_ok.mp h
  obtain ⟨heffect, rfl⟩ := Prod.mk.inj h
  obtain rfl := Except.ok.inj heffect
  exact {
    about := rfl
    moved := by rw [hgateway, hanswer]
    calls := by rw [hcalls, hbudget]
    rawBytes := by rw [hraw, hbudget, hanswer, answerBytes]
    within := fun _ => hwithin }

/-- **All messages are fetched**: what the session looks like after the loop. -/
theorem fetches_eq_ok {f : String → Fallible (Session σ) SyncError RevisionEffect}
    (hf : ∀ messageId effect s s', f messageId s = (.ok effect, s') →
      Fetched limits gateway messageId effect s s') {ids : List String}
    {effects : List RevisionEffect} (h : forEach f ids s = (.ok effects, s')) :
    effects.map RevisionEffect.messageId = ids ∧
      s'.budget.calls = s.budget.calls + ids.length ∧
      s'.budget.rawBytes =
        s.budget.rawBytes + ((fetchAll gateway ids s.gateway).1.map answerBytes).sum ∧
      (s.budget.rawBytes ≤ limits.maxTotalRawBytes →
        s'.budget.rawBytes ≤ limits.maxTotalRawBytes) := by
  induction ids generalizing s effects with
  | nil =>
    obtain ⟨heffects, rfl⟩ := Prod.mk.inj h
    cases heffects
    exact ⟨rfl, rfl, rfl, id⟩
  | cons messageId rest ih =>
    obtain ⟨effect, s₁, later, hfirst, hrest, rfl⟩ := forEach_cons_eq_ok.mp h
    have hfetched := hf _ _ _ _ hfirst
    obtain ⟨habout, hcalls, hraw, hwithin⟩ := ih hrest
    refine ⟨?_, ?_, ?_, fun hlimit => hwithin (hfetched.within hlimit)⟩
    · rw [List.map_cons, hfetched.about, habout]
    · rw [hcalls, hfetched.calls, List.length_cons]
      omega
    · rw [hraw, hfetched.rawBytes, hfetched.moved]
      simp only [fetchAll, List.map_cons, List.sum_cons]
      omega

/-- **The listing is read**: every page of it, into a set within the limit. -/
theorem listIds_eq_ok {ask : Option String → Fallible σ GatewayError MessagePage}
    (hvalid : 1 ≤ limits.maxPages) {count : ℕ}
    (h : listIds limits ask s = (.ok (listed, count), s')) :
    ∃ pages, PageChain ask MessagePage.nextPageToken none s.gateway pages s'.gateway ∧
      (∀ i, i ∈ listed.toList ↔ i ∈ pages.flatMap MessagePage.messageIds) ∧
      s'.budget = { s.budget with calls := s.budget.calls + pages.length } ∧
      count = pages.length ∧ pages.length ≤ limits.maxPages ∧
      listed.length ≤ limits.maxUniqueMessages := by
  obtain ⟨last, s₁, hread, h⟩ := bind_eq_ok.mp h
  obtain ⟨hlast, rfl⟩ := Prod.mk.inj h
  obtain ⟨rfl, rfl⟩ := Prod.mk.inj (Except.ok.inj hlast)
  obtain ⟨pages, hchain, hbudget, hfold, hcount, hlength⟩ := readPages_eq_ok hread
  obtain ⟨hmem, hids⟩ := foldlM_addIds_eq_ok hfold
  refine ⟨pages, hchain, fun i => ?_, hbudget, ?_, by omega, hids (Nat.zero_le _)⟩
  · rw [hmem]
    simp [PageCursor.start, BTreeMap.empty, BTreeMap.keys]
  · rw [hcount]
    exact Nat.zero_add _

theorem profileAnchor_eq_ok {anchor : HistoryId}
    (h : profileAnchor limits gateway s = (.ok anchor, s')) :
    ∃ profile, gateway.profileHistoryId s.gateway = (.ok profile, s'.gateway) ∧
      s'.budget = { s.budget with calls := s.budget.calls + 1 } := by
  obtain ⟨profile, s₁, hcall, h⟩ := bind_eq_ok.mp h
  obtain ⟨-, hanswer, hbudget⟩ := call_eq_ok.mp (mapError_eq_ok.mp hcall)
  obtain ⟨-, rfl⟩ := check_eq_ok.mp h
  exact ⟨profile, hanswer, hbudget⟩

end Reads

/-! ## A run collects its scope -/

/-- **A run collects its scope**: whatever its outcome its calls are within the limit; a batch
reports a scope that fits; and a scope that does not fit, or does not end, is an error. -/
structure Collects (limits : SyncLimits) (gateway : GmailGateway σ)
    (ask : Option String → Fallible σ GatewayError MessagePage)
    (known : Except SyncError (List String)) (run : Fallible (Session σ) SyncError SyncBatch)
    (s : Session σ) : Prop where
  called : (run s).2.budget.calls ≤ limits.maxGatewayCalls ∧
    ∃ n, (run s).2.budget.calls = s.budget.calls + n ∧
      Called gateway n s.gateway (run s).2.gateway
  complete : ∀ batch, (run s).1 = .ok batch → ∃ ids, known = .ok ids ∧
    ∃ scope : MailboxScope gateway ask s.gateway,
      scope.Reported ids s.budget batch ∧ scope.Fits ids limits s.budget
  exceeded : ∀ (scope : MailboxScope gateway ask s.gateway) (ids : List String),
    known = .ok ids → ¬ scope.Fits ids limits s.budget → ∃ e, (run s).1 = .error e
  endless : IsEmpty (MailboxScope gateway ask s.gateway) → ∃ e, (run s).1 = .error e

theorem Collects.of_complete {known : Except SyncError (List String)}
    {run : Fallible (Session σ) SyncError SyncBatch} {s : Session σ}
    (hcalls : s.budget.calls ≤ limits.maxGatewayCalls)
    (hcounted : Counted limits gateway s (run s).2)
    (hcomplete : ∀ batch, (run s).1 = .ok batch → ∃ ids, known = .ok ids ∧
      ∃ scope : MailboxScope gateway ask s.gateway,
        scope.Reported ids s.budget batch ∧ scope.Fits ids limits s.budget) :
    Collects limits gateway ask known run s where
  called := hcounted hcalls
  complete := hcomplete
  exceeded scope ids hknown hexceeds := by
    rcases hrun : (run s).1 with e | batch
    · exact ⟨e, rfl⟩
    · obtain ⟨ids', hknown', scope', -, hfits⟩ := hcomplete batch hrun
      obtain rfl := Except.ok.inj (hknown.symm.trans hknown')
      obtain rfl := scope.unique scope'
      exact absurd hfits hexceeds
  endless hnone := by
    rcases hrun : (run s).1 with e | batch
    · exact ⟨e, rfl⟩
    · obtain ⟨-, -, scope, -⟩ := hcomplete batch hrun
      exact hnone.elim scope

theorem SyncLimits.one_le_maxPages (hvalid : limits.validate = .ok limits) :
    1 ≤ limits.maxPages := by
  rw [SyncLimits.validate] at hvalid
  obtain ⟨hgood, -⟩ := check_unless_eq_ok.mp hvalid
  omega

/-- **The batch of a run that read its listing and fetched its messages** reports the scope, which
fits. -/
theorem reported_of_fetches {f : String → Fallible (Session σ) SyncError RevisionEffect}
    (hf : ∀ messageId effect s s', f messageId s = (.ok effect, s') →
      Fetched limits gateway messageId effect s s') {s s₁ s₂ s₃ : Session σ} {profile : String}
    {pages : List MessagePage} {known : List String} {effects : List RevisionEffect}
    {batch : SyncBatch} (hlimit : s.budget.rawBytes ≤ limits.maxTotalRawBytes)
    (hprofile : gateway.profileHistoryId s.gateway = (.ok profile, s₁.gateway))
    (hprofiled : s₁.budget = { s.budget with calls := s.budget.calls + 1 })
    (hchain : PageChain ask MessagePage.nextPageToken none s₁.gateway pages s₂.gateway)
    (hlisted : s₂.budget = { s₁.budget with calls := s₁.budget.calls + pages.length })
    (hpages : pages.length ≤ limits.maxPages)
    (hmem : ∀ i, i ∈ union.toList ↔ i ∈ pages.flatMap MessagePage.messageIds ++ known)
    (hunion : union.length ≤ limits.maxUniqueMessages)
    (hfetched : forEach f union.toList s₂ = (.ok effects, s₃))
    (hcalls : s₃.budget.calls ≤ limits.maxGatewayCalls)
    (hdiscovered : batch.discoveredMessageIds = union.toList) (heffects : batch.effects = effects)
    (hcount : batch.pages = pages.length) (hused : batch.gatewayCalls = s₃.budget.calls)
    (hraw : batch.rawBytes = s₃.budget.rawBytes) :
    ∃ scope : MailboxScope gateway ask s.gateway,
      scope.Reported known s.budget batch ∧ scope.Fits known limits s.budget := by
  obtain ⟨habout, htook, hbytes, hwithin⟩ := fetches_eq_ok hf hfetched
  let scope : MailboxScope gateway ask s.gateway :=
    ⟨profile, s₁.gateway, pages, s₂.gateway, hprofile, hchain⟩
  have hids : union.toList = scope.ids known := toList_eq_sort hmem
  have htotal : s₃.budget.calls =
      s.budget.calls + 1 + scope.pages.length + (scope.ids known).length := by
    rw [htook, hlisted, hprofiled, hids]
  have hsum : s₃.budget.rawBytes = s.budget.rawBytes + scope.rawBytes known := by
    rw [hbytes, hlisted, hprofiled, hids]
    rfl
  refine ⟨scope, ⟨?_, ?_, hcount, hused.trans htotal, hraw.trans hsum⟩, ⟨hpages, ?_, ?_, ?_⟩⟩
  · rw [hdiscovered, hids]
  · rw [heffects, habout, hids]
  · rw [← hids, BTreeSet.toList, BTreeMap.length_keys]
    exact hunion
  · rw [← htotal]
    exact hcalls
  · rw [← hsum]
    refine hwithin ?_
    rw [hlisted, hprofiled]
    exact hlimit

theorem search_collects (isUuid : String → Bool) (self : GmailSearchCoordinator)
    (store : GmailSyncStore) (key : SyncKey) (query : String) (g : σ) :
    Collects self.limits gateway
      (fun token => gateway.listSearchMessages query token self.limits.pageSize) (.ok [])
      (self.collect isUuid gateway store key query) (.start g) := by
  have hcounted : Counted self.limits gateway (.start g)
      (self.collect isUuid gateway store key query (.start g)).2 :=
    search_counted isUuid self store key query _
  refine .of_complete (Nat.zero_le _) hcounted fun batch hbatch => ?_
  have hcalls := (hcounted (Nat.zero_le _)).1
  rcases hrun : self.collect isUuid gateway store key query (.start g) with ⟨result, s'⟩
  rw [hrun] at hbatch hcalls
  obtain rfl : result = .ok batch := hbatch
  obtain ⟨-, hrun⟩ := require_bind_eq_ok.mp hrun
  obtain ⟨-, hrun⟩ := require_bind_eq_ok.mp hrun
  obtain ⟨expected, -, hrun⟩ := Fallible.check_bind_eq_ok.mp hrun
  obtain ⟨anchor, s₁, hanchor, hrun⟩ := bind_eq_ok.mp hrun
  obtain ⟨⟨listed, count⟩, s₂, hlisted, hrun⟩ := bind_eq_ok.mp hrun
  obtain ⟨effects, s₃, hfetched, hrun⟩ := bind_eq_ok.mp hrun
  obtain ⟨hbatch, rfl⟩ := Prod.mk.inj hrun
  obtain rfl := Except.ok.inj hbatch
  obtain ⟨profile, hprofile, hbudget₁⟩ := profileAnchor_eq_ok hanchor
  obtain ⟨pages, hchain, hmem, hbudget₂, rfl, hpages, hunique⟩ :=
    listIds_eq_ok (SyncLimits.one_le_maxPages self.valid) hlisted
  refine ⟨[], rfl, ?_⟩
  exact reported_of_fetches (fun _ _ _ _ => searchMessage_eq_ok) (Nat.zero_le _) hprofile hbudget₁
    hchain hbudget₂ hpages (fun i => by rw [hmem, List.append_nil]) hunique hfetched hcalls
    rfl rfl rfl rfl rfl

theorem reconcile_collects (self : GmailHistoryCoordinator) (store : GmailSyncStore)
    (key : SyncKey) (expected : Option String) {s : Session σ} (h : WithinLimits self.limits s) :
    Collects self.limits gateway
      (fun token => gateway.listMessages key.labelId token self.limits.pageSize)
      (store.knownMessageIds key) (reconcile self.limits gateway store key expected) s := by
  have hcounted : Counted self.limits gateway s
      (reconcile self.limits gateway store key expected s).2 :=
    reconcile_counted store key expected s
  refine .of_complete h.calls hcounted fun batch hbatch => ?_
  have hcalls := (hcounted h.calls).1
  rcases hrun : reconcile self.limits gateway store key expected s with ⟨result, s'⟩
  rw [hrun] at hbatch hcalls
  obtain rfl : result = .ok batch := hbatch
  obtain ⟨anchor, s₁, hanchor, hrun⟩ := bind_eq_ok.mp hrun
  obtain ⟨⟨listed, count⟩, s₂, hlisted, hrun⟩ := bind_eq_ok.mp hrun
  obtain ⟨known, hknown, hrun⟩ := Fallible.check_bind_eq_ok.mp hrun
  obtain ⟨union, hunion, hrun⟩ := Fallible.check_bind_eq_ok.mp hrun
  obtain ⟨effects, s₃, hfetched, hrun⟩ := bind_eq_ok.mp hrun
  obtain ⟨hbatch, rfl⟩ := Prod.mk.inj hrun
  obtain rfl := Except.ok.inj hbatch
  obtain ⟨profile, hprofile, hbudget₁⟩ := profileAnchor_eq_ok hanchor
  obtain ⟨pages, hchain, hmem, hbudget₂, rfl, hpages, hunique⟩ :=
    listIds_eq_ok (SyncLimits.one_le_maxPages self.valid) hlisted
  obtain ⟨hadded, hwithin⟩ := addIds_eq_ok hunion
  refine ⟨known, hknown, ?_⟩
  exact reported_of_fetches (fun _ _ _ _ => reconcileMessage_eq_ok) h.rawBytes hprofile hbudget₁
    hchain hbudget₂ hpages (fun i => by rw [hadded, hmem, List.mem_append]) (hwithin hunique)
    hfetched hcalls rfl rfl rfl rfl rfl

/-! ## Where the label coordinator reconciles -/

section Starts

def KeepsRaw {α : Type} (limits : SyncLimits) (x : Fallible (Session σ) SyncFailure α) : Prop :=
  ∀ s, s.budget.rawBytes ≤ limits.maxTotalRawBytes →
    (∃ error, (x s).1 = .error (.fatal error)) ∨
      (x s).2.budget.rawBytes ≤ limits.maxTotalRawBytes

variable {α β : Type}

variable {x : Fallible (Session σ) SyncFailure α}

theorem KeepsRaw.of_still (h : ∀ s, (x s).2 = s) : KeepsRaw limits x := by
  intro s hs
  right
  rw [h]
  exact hs

theorem KeepsRaw.bind {f : α → Fallible (Session σ) SyncFailure β} (hx : KeepsRaw limits x)
    (hf : ∀ a, KeepsRaw limits (f a)) : KeepsRaw limits (x >>= f) := by
  intro s hs
  have hfirst := hx s hs
  rcases hrun : x s with ⟨e | a, s'⟩ <;> rw [hrun] at hfirst
  · rw [bind_of_error hrun]
    rcases hfirst with ⟨error, herror⟩ | hkept
    · exact .inl ⟨error, congrArg _ (Except.error.inj herror)⟩
    · exact .inr hkept
  · rw [bind_of_ok hrun]
    rcases hfirst with ⟨error, herror⟩ | hkept
    · cases herror
    · exact hf a s' hkept

theorem KeepsRaw.forEach {f : α → Fallible (Session σ) SyncFailure β}
    (hf : ∀ a, KeepsRaw limits (f a)) : ∀ l : List α, KeepsRaw limits (forEach f l)
  | [] => .of_still fun _ => rfl
  | a :: rest => .bind (hf a) fun _ => .bind (.forEach hf rest) fun _ => .of_still fun _ => rfl

theorem call_raw {answer : Fallible σ GatewayError α} (s : Session σ) :
    (call limits answer s).2.budget.rawBytes = s.budget.rawBytes := by
  rcases lt_or_ge s.budget.calls limits.maxGatewayCalls with h | h
  · rw [call_of_lt h]
  · rw [call_of_ge h]

theorem mapError_state {ε ε' : Type} {fault : ε → ε'} {x : Fallible (Session σ) ε α}
    (s : Session σ) : (mapError fault x s).2 = (x s).2 := by
  rcases h : x s with ⟨e | a, s'⟩ <;> simp [mapError, h]

theorem KeepsRaw.of_raw (h : ∀ s, (x s).2.budget.rawBytes = s.budget.rawBytes) :
    KeepsRaw limits x := by
  intro s hs
  right
  rw [h]
  exact hs

theorem consumeRaw_keepsRaw (length : ℕ) :
    KeepsRaw limits ((consumeRaw limits length : Fallible (Session σ) _ _).mapError .fatal) := by
  intro s hs
  rcases hrun : consumeRaw limits length s with ⟨e | a, s'⟩
  · exact .inl ⟨e, by rw [mapError_of_error hrun]⟩
  · right
    rw [mapError_of_ok hrun]
    exact (consumeRaw_eq_ok hrun).2.2.2

theorem scanHistory_keepsRaw (key : SyncKey) (cursor : HistoryId) :
    KeepsRaw limits (scanHistory limits gateway key cursor) := by
  have hpage (place : PageCursor (EventBuffer × HistoryId)) : KeepsRaw limits
      (readPage limits historyFailure .fatal
        (fun token => gateway.listHistory cursor.text key.labelId token limits.pageSize)
        HistoryPage.nextPageToken (absorbHistory cursor) place) := by
    refine .bind (.of_raw fun s => ?_) fun _ => ?_
    · rw [mapError_state, call_raw]
    · exact .bind (.of_still fun _ => rfl) fun _ =>
        .bind (.of_still fun _ => rfl) fun _ => .of_still fun _ => rfl
  have hpages (remaining : ℕ) : ∀ place : PageCursor (EventBuffer × HistoryId), KeepsRaw limits
      (readPages (.fatal .scopeTooLarge) (readPage limits historyFailure .fatal
        (fun token => gateway.listHistory cursor.text key.labelId token limits.pageSize)
        HistoryPage.nextPageToken (absorbHistory cursor)) remaining place) := by
    induction remaining with
    | zero =>
      refine fun place => .bind (hpage place) fun next => ?_
      split <;> exact .of_still fun _ => rfl
    | succ remaining ih =>
      refine fun place => .bind (hpage place) fun next => ?_
      split
      · exact .of_still fun _ => rfl
      · exact ih next
  exact .bind (hpages _ _) fun _ => .of_still fun _ => rfl

theorem incrementalMessage_keepsRaw (key : SyncKey) (terminal : HistoryId)
    (entry : String × HistoryId ×ₗ HistoryEventKind) :
    KeepsRaw limits (incrementalMessage limits gateway key terminal entry) := by
  have hfetch : KeepsRaw limits (incrementalMessage limits gateway key terminal
      (entry.1, toLex ((ofLex entry.2).1, .messageAdded))) := by
    refine .bind (.of_raw fun s => call_raw s) fun answer => ?_
    rcases answer with error | message
    · cases error <;> exact .of_still fun _ => rfl
    · refine .bind (.of_still fun _ => rfl) fun _ => ?_
      refine .bind (consumeRaw_keepsRaw _) fun _ => ?_
      refine .bind (.of_still fun _ => rfl) fun _ => ?_
      split_ifs <;> exact .of_still fun _ => rfl
  obtain ⟨messageId, selected, kind⟩ := entry
  cases kind with
  | messageAdded | scopedLabelAdded => exact hfetch
  | scopedLabelRemoved | messageDeleted => exact .of_still fun _ => rfl

theorem incrementalOnce_keepsRaw (key : SyncKey) (expected : String) (cursor : HistoryId) :
    KeepsRaw limits (incrementalOnce limits gateway key expected cursor) := by
  refine .bind (scanHistory_keepsRaw key cursor) fun scan => ?_
  simp only
  split
  · exact .of_still fun _ => rfl
  · refine .bind (.forEach (incrementalMessage_keepsRaw key _) _) fun _ => ?_
    exact .of_still fun _ => rfl

theorem incremental_keepsRaw (key : SyncKey) (expected : String) (cursor : HistoryId) :
    ∀ attempts, KeepsRaw limits (incremental limits gateway key expected cursor attempts)
  | 0 => .of_still fun _ => rfl
  | 1 => incrementalOnce_keepsRaw key expected cursor
  | attempts + 2 => by
    intro s hs
    have honce : KeepsRaw limits (incrementalOnce limits gateway key expected cursor) :=
      incrementalOnce_keepsRaw key expected cursor
    have honce := honce s hs
    rcases hrun : incrementalOnce limits gateway key expected cursor s with ⟨result, s'⟩
    rw [hrun] at honce
    rw [incremental, bind_of_ok (attempt_run _ s), hrun]
    rcases result with error | batch
    · cases error with
      | fatal error => exact .inl ⟨error, rfl⟩
      | historyNotFound => exact .inr (honce.resolve_left nofun)
      | restart => exact incremental_keepsRaw key expected cursor _ s' (honce.resolve_left nofun)
    · exact .inr (honce.resolve_left nofun)

theorem incremental_mode {key : SyncKey} {expected : String} {cursor : HistoryId} {attempts : ℕ}
    {batch : SyncBatch} {s s' : Session σ}
    (h : incremental limits gateway key expected cursor attempts s = (.ok batch, s')) :
    batch.mode = .incremental := by
  have honce {s s' : Session σ}
      (h : incrementalOnce limits gateway key expected cursor s = (.ok batch, s')) :
      batch.mode = .incremental := by
    obtain ⟨scan, s₁, -, h⟩ := bind_eq_ok.mp h
    simp only at h
    split at h
    · cases h
    · obtain ⟨effects, s₂, -, h⟩ := bind_eq_ok.mp h
      obtain ⟨hbatch, -⟩ := Prod.mk.inj h
      exact Except.ok.inj hbatch ▸ rfl
  induction attempts generalizing s with
  | zero => cases h
  | succ attempts ih =>
    cases attempts with
    | zero => exact honce h
    | succ attempts =>
      obtain ⟨result, s₁, hattempt, h⟩ := bind_eq_ok.mp h
      split at h
      · exact ih h
      · obtain ⟨rfl, rfl⟩ := check_eq_ok.mp h
        obtain ⟨hresult, hs⟩ := Prod.mk.inj hattempt
        exact honce (Prod.ext (Except.ok.inj hresult) hs)

theorem incremental_counted (key : SyncKey) (expected : String) (cursor : HistoryId) :
    ∀ attempts, Fallible.Steps (Counted limits gateway)
      (incremental limits gateway key expected cursor attempts) := by
  have hmessage (terminal : HistoryId) (entry : String × HistoryId ×ₗ HistoryEventKind) :
      Fallible.Steps (Counted limits gateway)
        (incrementalMessage limits gateway key terminal entry) := by
    have hfetch : Fallible.Steps (Counted limits gateway) (incrementalMessage limits gateway key
        terminal (entry.1, toLex ((ofLex entry.2).1, .messageAdded))) := by
      refine .bind Counted.trans (.attempt (call_counted (.get entry.1))) fun answer => ?_
      rcases answer with error | message
      · cases error <;> exact .refl
      · refine .bind Counted.trans (.check Counted.refl _) fun _ => ?_
        refine .bind Counted.trans (.mapError _ (consumeRaw_counted _)) fun _ => ?_
        refine .bind Counted.trans (.check Counted.refl _) fun _ => ?_
        split_ifs <;> exact .refl
    obtain ⟨messageId, selected, kind⟩ := entry
    cases kind with
    | messageAdded | scopedLabelAdded => exact hfetch
    | scopedLabelRemoved | messageDeleted => exact .refl
  have honce : Fallible.Steps (Counted limits gateway)
      (incrementalOnce limits gateway key expected cursor) := by
    refine .bind Counted.trans ?_ fun scan => ?_
    · exact .bind Counted.trans (readPages_counted (fun token g => .history ..) _ _)
        fun _ => .pure Counted.refl _
    · simp only
      split
      · exact .fail Counted.refl _
      · refine .bind Counted.trans (.forEach Counted.refl Counted.trans (hmessage _) _) fun _ => ?_
        exact .bind Counted.trans (.state Counted.refl) fun _ => .pure Counted.refl _
  intro attempts
  induction attempts with
  | zero => exact .fail Counted.refl _
  | succ attempts ih =>
    cases attempts with
    | zero => exact honce
    | succ attempts =>
      refine .bind Counted.trans (.attempt honce) fun result => ?_
      split
      · exact ih
      · exact .check Counted.refl _

end Starts

/-- **Where a reconcile starts**: a run of the label coordinator is a reconcile from a session
within the limits, or it ends without one, in an error or with an incremental batch. -/
theorem reconcile_starts (isUuid : String → Bool) (self : GmailHistoryCoordinator)
    (store : GmailSyncStore) (key : SyncKey) (g : σ) :
    (∃ expected s, WithinLimits self.limits s ∧
      self.collect isUuid gateway store key (.start g) =
        reconcile self.limits gateway store key expected s) ∨
    (∃ e, (self.collect isUuid gateway store key (.start g)).1 = .error e) ∨
    ∃ batch, (self.collect isUuid gateway store key (.start g)).1 = .ok batch ∧
      batch.mode = .incremental := by
  have hstart : WithinLimits self.limits (Session.start g) := ⟨Nat.zero_le _, Nat.zero_le _⟩
  unfold GmailHistoryCoordinator.collect
  rcases hkey : validateKey isUuid key with e | u
  · exact .inr (.inl ⟨e, rfl⟩)
  rw [check_bind]
  simp only
  rcases hcheckpoint : store.checkpoint key with e | checkpoint
  · exact .inr (.inl ⟨e, rfl⟩)
  rw [check_bind]
  simp only
  rcases checkpoint with _ | expected
  · exact .inl ⟨none, _, hstart, rfl⟩
  rcases hcursor : HistoryId.parse expected with e | cursor
  · exact .inl ⟨some expected, _, hstart, by simp only [hcursor]⟩
  simp only [hcursor]
  have hkeeps : KeepsRaw self.limits
      (incremental self.limits gateway key expected cursor self.limits.maxScanAttempts) :=
    incremental_keepsRaw key expected cursor _
  have hcounts : Fallible.Steps (Counted self.limits gateway)
      (incremental self.limits gateway key expected cursor self.limits.maxScanAttempts) :=
    incremental_counted key expected cursor _
  have hraw := hkeeps (.start g) hstart.rawBytes
  have hcalls := (hcounts (.start g) hstart.calls).1
  rw [bind_of_ok (attempt_run _ _)]
  rcases hrun : incremental self.limits gateway key expected cursor self.limits.maxScanAttempts
    (.start g) with ⟨error | batch, s⟩
  · rw [hrun] at hraw hcalls
    cases error with
    | fatal error => exact .inr (.inl ⟨error, rfl⟩)
    | restart => exact .inr (.inl ⟨.scopeTooLarge, rfl⟩)
    | historyNotFound =>
      -- the history has expired, with what was fetched before that within the limit
      exact .inl ⟨some expected, s, ⟨hcalls, hraw.resolve_left nofun⟩, rfl⟩
  · exact .inr (.inr ⟨batch, rfl, incremental_mode hrun⟩)

/-- **Listings are complete and bounded.** From every state of every provider, a search and a
reconcile collect their scope; and the label coordinator reconciles only from a session within its
limits. -/
theorem listings_bounded (isUuid : String → Bool) (gateway : GmailGateway σ)
    (store : GmailSyncStore) (key : SyncKey) :
    (∀ (self : GmailSearchCoordinator) (query : String) (g : σ),
      Collects self.limits gateway
        (fun token => gateway.listSearchMessages query token self.limits.pageSize) (.ok [])
        (self.collect isUuid gateway store key query) (.start g)) ∧
    (∀ (self : GmailHistoryCoordinator) (expected : Option String) (s : Session σ),
      WithinLimits self.limits s →
      Collects self.limits gateway
        (fun token => gateway.listMessages key.labelId token self.limits.pageSize)
        (store.knownMessageIds key) (reconcile self.limits gateway store key expected) s) ∧
    ∀ (self : GmailHistoryCoordinator) (g : σ),
      (∃ expected s, WithinLimits self.limits s ∧
        self.collect isUuid gateway store key (.start g) =
          reconcile self.limits gateway store key expected s) ∨
      (∃ e, (self.collect isUuid gateway store key (.start g)).1 = .error e) ∨
      ∃ batch, (self.collect isUuid gateway store key (.start g)).1 = .ok batch ∧
        batch.mode = .incremental := by
  refine ⟨fun self query g => ?_, fun self expected s h => ?_, fun self g => ?_⟩
  · exact search_collects isUuid self store key query g
  · exact reconcile_collects self store key expected h
  · exact reconcile_starts isUuid self store key g

end Coordinators

namespace ListingExample

def pageAfter : Option String → Except GatewayError MessagePage
  | none => .ok ⟨["b", "a"], some "next"⟩
  | some "next" => .ok ⟨["a", "c"], none⟩
  | some _ => .error .malformedRequest

def gateway : GmailGateway Unit where
  profileHistoryId := fun g => (.ok "9", g)
  listMessages _ token _ := fun g => (pageAfter token, g)
  listSearchMessages _ token _ := fun g => (pageAfter token, g)
  getMessage messageId := fun g => (.ok ⟨messageId, "7", ["label"], [1, 2]⟩, g)
  listHistory _ _ _ _ := fun g => (.error .historyNotFound, g)

/-- The store knows one message the label no longer lists. -/
def store : GmailSyncStore := ⟨fun _ => .ok none, fun _ => .ok ["d"]⟩

def key : SyncKey := ⟨"account", "scope", "label"⟩

/-- Every limit is reached exactly. -/
def coordinator : GmailHistoryCoordinator := ⟨⟨2, 2, 4, 8, 7, 1, 1⟩, by decide⟩

/-- The reconcile reports the four messages, and uses what it may use. -/
theorem full_scope :
    (reconcile coordinator.limits gateway store key none (.start ())).1.map
        (fun batch => (batch.discoveredMessageIds, batch.pages, batch.gatewayCalls, batch.rawBytes))
      = .ok (["a", "b", "c", "d"], 2, 7, 8) ∧
    Collects coordinator.limits gateway
      (fun token => gateway.listMessages key.labelId token coordinator.limits.pageSize)
      (store.knownMessageIds key) (reconcile coordinator.limits gateway store key none)
      (.start ()) :=
  ⟨by decide +kernel, (listings_bounded (fun _ => true) gateway store key).2.1 coordinator none
    (.start ()) ⟨Nat.zero_le _, Nat.zero_le _⟩⟩

end ListingExample

end Threadbook
