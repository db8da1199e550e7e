import Threadbook.GmailSync

/-!
# Page chains

`PageChain ask nextToken token s pages s'` says that the provider, asked from
`token` on, hands out `pages` until one names no next token. The page loop reads
exactly such a chain: `readPages_eq_ok` inverts a successful loop, and
`readPages_of_chain` runs the loop along a given chain, up to the call budget.
-/

namespace Threadbook

open Fallible

inductive PageChain {σ π : Type} (ask : Option String → Fallible σ GatewayError π)
    (nextToken : π → Option String) : Option String → σ → List π → σ → Prop
  | last {token s page s'} (answer : ask token s = (.ok page, s'))
      (final : nextToken page = none) : PageChain ask nextToken token s [page] s'
  | more {token s page s' next pages s''} (answer : ask token s = (.ok page, s'))
      (follows : nextToken page = some next)
      (rest : PageChain ask nextToken (some next) s' pages s'') :
      PageChain ask nextToken token s (page :: pages) s''

namespace PageChain

variable {σ π : Type} {ask : Option String → Fallible σ GatewayError π}
  {nextToken : π → Option String} {token : Option String} {s s' : σ} {pages : List π}

theorem length_pos (h : PageChain ask nextToken token s pages s') : 0 < pages.length := by
  cases h <;> simp

end PageChain

/-! ## Calls -/

section Calls

variable {σ α : Type} {limits : SyncLimits} {answer : Fallible σ GatewayError α} {s : Session σ}

theorem call_of_lt (h : s.budget.calls < limits.maxGatewayCalls) :
    call limits answer s = ((answer s.gateway).1,
      ⟨(answer s.gateway).2, { s.budget with calls := s.budget.calls + 1 }⟩) := by
  rw [call, if_neg (not_le.mpr h)]

theorem call_of_ge (h : limits.maxGatewayCalls ≤ s.budget.calls) :
    call limits answer s = (.error .cancelled, s) := by
  rw [call, if_pos h]

theorem call_eq_ok {a : α} {s' : Session σ} :
    call limits answer s = (.ok a, s') ↔ s.budget.calls < limits.maxGatewayCalls ∧
      answer s.gateway = (.ok a, s'.gateway) ∧
      s'.budget = { s.budget with calls := s.budget.calls + 1 } := by
  rcases lt_or_ge s.budget.calls limits.maxGatewayCalls with h | h
  · rw [call_of_lt h]
    constructor
    · intro heq
      obtain ⟨hval, rfl⟩ := Prod.mk.inj heq
      exact ⟨h, Prod.ext hval rfl, rfl⟩
    · rintro ⟨-, hanswer, hbudget⟩
      cases s'
      simp_all
  · rw [call_of_ge h]
    constructor
    · intro heq
      exact absurd (Prod.mk.inj heq).1 (by simp)
    · rintro ⟨hlt, -⟩
      exact absurd hlt (not_lt.mpr h)

end Calls

/-! ## Tokens -/

theorem validateNextToken_of_fresh {token : String} {seen : Finset String}
    (hvalid : validateProviderValue token = .ok ()) (hfresh : token ∉ seen) :
    validateNextToken (some token) seen = .ok (some token, insert token seen) := by
  rw [validateNextToken, hvalid]
  change (if token ∈ seen then _ else _) = _
  rw [if_neg hfresh]

theorem validateNextToken_eq_ok {token : Option String} {seen : Finset String}
    {next : Option String × Finset String} (h : validateNextToken token seen = .ok next) :
    next.1 = token := by
  rcases token with _ | token
  · exact (Except.ok.inj h) ▸ rfl
  · rw [validateNextToken] at h
    rcases hv : validateProviderValue token with e | u <;> rw [hv] at h
    · cases h
    · change (if token ∈ seen then _ else _) = _ at h
      split at h
      · cases h
      · exact (Except.ok.inj h) ▸ rfl

/-! ## The page loop -/

section Loop

variable {σ ε π α : Type} {limits : SyncLimits} {fault : GatewayError → ε} {wrap : SyncError → ε}
  {tooMany : ε} {ask : Option String → Fallible σ GatewayError π} {nextToken : π → Option String}
  {absorb : α → π → Except ε α}

variable {place : PageCursor α} {s s' : Session σ}

/-- **One page, inverted**: reading a page succeeds only if the provider answered
it, it was absorbed, and its token was accepted. -/
theorem readPage_eq_ok {next : PageCursor α}
    (h : readPage limits fault wrap ask nextToken absorb place s = (.ok next, s')) :
    ∃ page, ask place.token s.gateway = (.ok page, s'.gateway) ∧
      s'.budget = { s.budget with calls := s.budget.calls + 1 } ∧
      absorb place.collected page = .ok next.collected ∧
      next.token = nextToken page ∧ next.pages = place.pages + 1 := by
  rw [readPage, bind_eq_ok] at h
  obtain ⟨page, s₁, hcall, h⟩ := h
  rw [mapError_eq_ok, call_eq_ok] at hcall
  obtain ⟨-, hask, hbudget⟩ := hcall
  rw [bind_eq_ok] at h
  obtain ⟨collected, s₂, habsorb, h⟩ := h
  obtain ⟨hkept, rfl⟩ := check_eq_ok.mp habsorb
  rw [bind_eq_ok] at h
  obtain ⟨⟨token, seen⟩, s₃, htoken, h⟩ := h
  obtain ⟨haccepted, rfl⟩ := check_eq_ok.mp htoken
  obtain ⟨hnext, rfl⟩ := Prod.mk.inj h
  cases hnext
  have hsame := validateNextToken_eq_ok (check_mapError_eq_ok.mp haccepted)
  exact ⟨page, hask, hbudget, hkept, hsame, rfl⟩

/-- **The loop, inverted**: a page loop that succeeds has read a chain of pages,
within the page limit, and absorbed them in order. -/
theorem readPages_eq_ok {remaining : ℕ} {last : PageCursor α}
    (h : readPages tooMany (readPage limits fault wrap ask nextToken absorb) remaining place s =
      (.ok last, s')) :
    ∃ pages, PageChain ask nextToken place.token s.gateway pages s'.gateway ∧
      s'.budget = { s.budget with calls := s.budget.calls + pages.length } ∧
      pages.foldlM absorb place.collected = .ok last.collected ∧
      last.pages = place.pages + pages.length ∧ pages.length ≤ remaining + 1 := by
  induction remaining generalizing place s with
  | zero =>
    rw [readPages, bind_eq_ok] at h
    obtain ⟨next, s₁, hread, h⟩ := h
    obtain ⟨page, hask, hbudget, habsorb, htoken, hpages⟩ := readPage_eq_ok hread
    split at h
    · rename_i hnone
      obtain ⟨hlast, rfl⟩ := Prod.mk.inj h
      cases hlast
      have hend : nextToken page = none := htoken ▸ Option.isNone_iff_eq_none.mp hnone
      exact ⟨[page], .last hask hend, hbudget, check_foldlM_singleton.mpr habsorb, hpages, le_rfl⟩
    · exact absurd (Prod.mk.inj h).1 (by simp)
  | succ remaining ih =>
    rw [readPages, bind_eq_ok] at h
    obtain ⟨next, s₁, hread, h⟩ := h
    obtain ⟨page, hask, hbudget, habsorb, htoken, hpages⟩ := readPage_eq_ok hread
    split at h
    · rename_i hnone
      obtain ⟨hlast, rfl⟩ := Prod.mk.inj h
      cases hlast
      have hend : nextToken page = none := htoken ▸ Option.isNone_iff_eq_none.mp hnone
      exact ⟨[page], .last hask hend, hbudget, check_foldlM_singleton.mpr habsorb, hpages, by simp⟩
    · rename_i hsome
      obtain ⟨pages, hchain, hbudget', hfold, hread', hlen⟩ := ih h
      obtain ⟨t, ht⟩ : ∃ t, next.token = some t :=
        Option.ne_none_iff_exists'.mp fun hn => hsome (by rw [hn]; rfl)
      rw [ht] at hchain htoken
      refine ⟨page :: pages, .more hask htoken.symm hchain, ?_, ?_, ?_, by simpa using hlen⟩
      · rw [hbudget', hbudget]
        simp [Nat.add_assoc, Nat.add_comm 1]
      · exact check_foldlM_cons_eq_ok.mpr ⟨_, habsorb, hfold⟩
      · rw [hread', hpages, List.length_cons]
        omega

theorem readPage_of_answer {collected : α} {page : π} {g g' : σ} {budget : Budget}
    {next : Option String × Finset String} (hcalls : budget.calls < limits.maxGatewayCalls)
    (hask : ask place.token g = (.ok page, g'))
    (habsorb : absorb place.collected page = .ok collected)
    (hnext : validateNextToken (nextToken page) place.seen = .ok next) :
    readPage limits fault wrap ask nextToken absorb place ⟨g, budget⟩ =
      (.ok ⟨collected, next.1, next.2, place.pages + 1⟩,
        ⟨g', { budget with calls := budget.calls + 1 }⟩) := by
  have hcall : mapError fault (call limits (ask place.token)) ⟨g, budget⟩ =
      (.ok page, ⟨g', { budget with calls := budget.calls + 1 }⟩) := by
    refine mapError_of_ok ?_
    rw [call_of_lt hcalls, hask]
  rw [readPage, bind_of_ok hcall, bind_of_ok (by rw [habsorb]; rfl),
    bind_of_ok (by rw [hnext]; rfl)]
  rfl

theorem readPage_outOfCalls (hcalls : limits.maxGatewayCalls ≤ s.budget.calls) :
    readPage limits fault wrap ask nextToken absorb place s = (.error (fault .cancelled), s) := by
  rw [readPage, bind_of_error (mapError_of_error (call_of_ge hcalls))]

theorem readPages_of_error {remaining : ℕ} {e : ε}
    {readPage' : PageCursor α → Fallible (Session σ) ε (PageCursor α)}
    (h : readPage' place s = (.error e, s')) :
    readPages tooMany readPage' remaining place s = (.error e, s') := by
  cases remaining <;> rw [readPages, bind_of_error h]

def pageTokens (nextToken : π → Option String) (pages : List π) : List String :=
  pages.filterMap nextToken

variable (limits fault wrap tooMany)

/-- **The loop along a chain**: with fresh well-formed tokens, a chain within the
page limit whose pages can be absorbed is read to its end, unless the call budget
runs out on the way. -/
theorem readPages_of_chain {token : Option String} {g g' : σ} {pages : List π}
    (hchain : PageChain ask nextToken token g pages g') :
    ∀ (remaining : ℕ) (place : PageCursor α) (collected : α) (budget : Budget),
      place.token = token → pages.length ≤ remaining + 1 →
      pages.foldlM absorb place.collected = .ok collected →
      (∀ t ∈ pageTokens nextToken pages, validateProviderValue t = .ok ()) →
      (pageTokens nextToken pages).Nodup → (∀ t ∈ pageTokens nextToken pages, t ∉ place.seen) →
      ((readPages tooMany (readPage limits fault wrap ask nextToken absorb) remaining place
          ⟨g, budget⟩).1 = .error (fault .cancelled) ∧
        limits.maxGatewayCalls < budget.calls + pages.length) ∨
      ∃ last : PageCursor α, last.collected = collected ∧ last.pages = place.pages + pages.length ∧
        readPages tooMany (readPage limits fault wrap ask nextToken absorb) remaining place
          ⟨g, budget⟩ = (.ok last, ⟨g', { budget with calls := budget.calls + pages.length }⟩) := by
  induction hchain with
  | @last token g page g' answer final =>
    intro remaining place collected budget htoken _ hfold _ _ _
    rcases lt_or_ge budget.calls limits.maxGatewayCalls with hcalls | hcalls
    · right
      have habsorb := check_foldlM_singleton.mp hfold
      have hnext : validateNextToken (nextToken page) place.seen = .ok (none, place.seen) := by
        rw [final]
        rfl
      have hread : readPage limits fault wrap ask nextToken absorb place ⟨g, budget⟩ =
          (.ok ⟨collected, none, place.seen, place.pages + 1⟩,
            ⟨g', { budget with calls := budget.calls + 1 }⟩) :=
        readPage_of_answer hcalls (htoken ▸ answer) habsorb hnext
      refine ⟨⟨collected, none, place.seen, place.pages + 1⟩, rfl, rfl, ?_⟩
      cases remaining <;> rw [readPages, bind_of_ok hread] <;> rfl
    · left
      refine ⟨?_, by simp; omega⟩
      rw [readPages_of_error (readPage_outOfCalls hcalls)]
  | @more token g page g' next pages g'' answer follows rest ih =>
    intro remaining place collected budget htoken hlen hfold hvalid hnodup hseen
    have htokens : pageTokens nextToken (page :: pages) = next :: pageTokens nextToken pages := by
      simp [pageTokens, follows]
    rw [htokens] at hvalid hnodup hseen
    obtain ⟨hfresh, hnodup'⟩ := List.nodup_cons.mp hnodup
    rcases lt_or_ge budget.calls limits.maxGatewayCalls with hcalls | hcalls
    · obtain ⟨middle, habsorb, hfold'⟩ := check_foldlM_cons_eq_ok.mp hfold
      have hnext : validateNextToken (nextToken page) place.seen =
          .ok (some next, insert next place.seen) := by
        rw [follows]
        exact validateNextToken_of_fresh (hvalid next (.head _))
          (hseen next (.head _))
      have hread : readPage limits fault wrap ask nextToken absorb place ⟨g, budget⟩ =
          (.ok ⟨middle, some next, insert next place.seen, place.pages + 1⟩,
            ⟨g', { budget with calls := budget.calls + 1 }⟩) :=
        readPage_of_answer hcalls (htoken ▸ answer) habsorb hnext
      -- a further page is still allowed, because the chain fits the page limit
      obtain ⟨remaining, rfl⟩ : ∃ r, remaining = r + 1 := by
        have hpos := rest.length_pos
        exact ⟨remaining - 1, by simp at hlen; omega⟩
      have hrun : readPages tooMany (readPage limits fault wrap ask nextToken absorb)
          (remaining + 1) place ⟨g, budget⟩ =
          readPages tooMany (readPage limits fault wrap ask nextToken absorb) remaining
            ⟨middle, some next, insert next place.seen, place.pages + 1⟩
            ⟨g', { budget with calls := budget.calls + 1 }⟩ := by
        rw [readPages, bind_of_ok hread]
        rfl
      have htail := ih remaining ⟨middle, some next, insert next place.seen, place.pages + 1⟩
        collected { budget with calls := budget.calls + 1 } rfl (by simpa using hlen) hfold'
        (fun t ht => hvalid t (.tail _ ht)) hnodup'
        fun t ht => by
          rw [Finset.mem_insert, not_or]
          exact ⟨fun he => hfresh (he ▸ ht), hseen t (.tail _ ht)⟩
      rw [hrun]
      rcases htail with ⟨hout, hbudget⟩ | ⟨last, hcollected, hpages, hlast⟩
      · refine Or.inl ⟨hout, ?_⟩
        simp only [List.length_cons] at hbudget ⊢
        omega
      · refine Or.inr ⟨last, hcollected, ?_, ?_⟩
        · rw [hpages, List.length_cons]
          change place.pages + 1 + pages.length = _
          omega
        · rw [hlast]
          simp [Nat.add_assoc, Nat.add_comm 1]
    · left
      refine ⟨?_, by simp; omega⟩
      rw [readPages_of_error (readPage_outOfCalls hcalls)]

end Loop

end Threadbook
