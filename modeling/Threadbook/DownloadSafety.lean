import Threadbook.ImageDownload

/-!
# Pinned downloads

A download only ever asks the approved host, over https, at addresses that were examined.
But the addresses are registered under the host as it is compared, in lower case and without
the dots at its end, whereas the request goes to the host as the URL has it. So the client
only keeps to the registered addresses where the two are written alike
(**`download_safe_iff`**).
-/

namespace Threadbook.ReceiptImage

open Fallible List Option

variable {outside : Outside} {approvedHost : String} {deadline : ℤ}

/-! ## Checks -/

structure Url.IsNetwork (url : Url) (approvedHost : String) : Prop where
  scheme : url.scheme = "https"
  username : url.username = ""
  password : url.password = none
  port : url.portOrKnownDefault = some 443
  host : networkHost url = .ok approvedHost

variable {url current : Url} {request : Request} {host : String} {response : Response}
  {addresses : List SocketAddr} {hop : HopOutside}

theorem networkHost_eq_ok (h : networkHost url = .ok host) :
    ∃ name, url.host = some (.domain name) ∧ host = trimEndDots (toAsciiLowercase name) := by
  rw [networkHost] at h
  rcases hhost : url.host with _ | (name | bits | bits) <;> simp only [hhost, reduceCtorEq] at h
  exact ⟨name, rfl, (check_unless_eq_ok.mp h).2 |> Except.ok.inj |>.symm⟩

theorem validateUrl_eq_ok (h : validateUrl url = .ok ()) :
    url.scheme = "https" ∧ url.username = "" ∧ url.password = none ∧
      url.portOrKnownDefault = some 443 := by
  rw [validateUrl, check_unless_eq_ok, check_unless_eq_ok, not_not, not_or, not_not,
    not_isSome_iff_eq_none] at h
  obtain ⟨hscheme, ⟨husername, hpassword⟩, h⟩ := h
  rcases hhost : url.host with _ | (name | bits | bits) <;> simp only [hhost, reduceCtorEq] at h
  rw [check_unless_eq_ok, not_or, not_not] at h
  exact ⟨hscheme, husername, hpassword, h.1.2⟩

theorem validateNetworkUrl_eq_ok {library : UrlLibrary} {value : String}
    (h : validateNetworkUrl library value = .ok url) :
    ∃ parsed, library.parse value = some parsed ∧ validateUrl parsed = .ok () ∧
      url = parsed.withoutFragment := by
  rw [validateNetworkUrl, check_unless_eq_ok] at h
  obtain ⟨-, h⟩ := h
  rcases hparse : library.parse value with _ | parsed <;> simp only [hparse, reduceCtorEq] at h
  rw [check_then_eq_ok] at h
  exact ⟨parsed, rfl, h.1, (Except.ok.inj h.2).symm⟩

theorem isNetwork_withoutFragment (hurl : validateUrl url = .ok ())
    (hhost : networkHost url.withoutFragment = .ok host) : url.withoutFragment.IsNetwork host := by
  obtain ⟨hscheme, husername, hpassword, hport⟩ := validateUrl_eq_ok hurl
  exact ⟨hscheme, husername, hpassword, hport, hhost⟩

/-- **The URL a download starts with** is one of the approved host. -/
theorem approve_eq_ok {normalizedUrl approvedDisplayHost : String} {start : Url}
    (h : approve outside normalizedUrl approvedDisplayHost deadline = .ok (approvedHost, start)) :
    normalizeApprovedHost approvedDisplayHost = .ok approvedHost ∧
      start.IsNetwork approvedHost := by
  rw [approve, check_then_eq_ok] at h
  obtain ⟨host, hnormal, h⟩ := check_bind_eq_ok.mp h.2
  obtain ⟨url, hurl, h⟩ := check_bind_eq_ok.mp h
  obtain ⟨name, hname, h⟩ := check_bind_eq_ok.mp h
  obtain ⟨hsame, h⟩ := check_unless_eq_ok.mp h
  obtain ⟨rfl, rfl⟩ := Prod.mk.inj (Except.ok.inj h)
  obtain ⟨parsed, -, hvalid, rfl⟩ := validateNetworkUrl_eq_ok hurl
  rw [not_not] at hsame
  exact ⟨hnormal, isNetwork_withoutFragment hvalid (by rw [hname, hsame])⟩

def Rejoins (library : UrlLibrary) : Prop :=
  ∀ base reference joined, library.join base reference = some joined →
    ∀ parsed, library.parse (library.asStr joined.withoutFragment) = some parsed →
      parsed = joined.withoutFragment

/-- **A URL that is redirected to** is one of the approved host. -/
theorem redirectTarget_eq_ok {library : UrlLibrary} (hlibrary : Rejoins library) {next : Url}
    (h : redirectTarget library approvedHost current response = .ok next) :
    next.IsNetwork approvedHost := by
  obtain ⟨location, -, h⟩ := check_bind_eq_ok.mp h
  rcases hjoin : location.bind (library.join current) with _ | joined <;>
    simp only [hjoin, reduceCtorEq] at h
  obtain ⟨reference, -, hjoined⟩ := bind_eq_some_iff.mp hjoin
  obtain ⟨again, hagain, h⟩ := check_bind_eq_ok.mp h
  obtain ⟨host, hhost, h⟩ := check_bind_eq_ok.mp h
  obtain ⟨hsame, h⟩ := check_unless_eq_ok.mp h
  cases h
  obtain ⟨parsed, hparsed, hvalid, -⟩ := validateNetworkUrl_eq_ok hagain
  obtain rfl := hlibrary current reference joined hjoined parsed hparsed
  rw [not_not] at hsame
  exact isNetwork_withoutFragment hvalid (by rw [hhost, hsame])

/-! ## Clients -/

theorem validateAddresses_eq_ok (h : validateAddresses addresses = .ok ()) :
    ∀ address ∈ addresses, address.port = 443 ∧ permits address.ip = true := by
  rw [validateAddresses, check_unless_eq_ok, not_or, not_or] at h
  obtain ⟨⟨-, -, hall⟩, -⟩ := h
  intro address hmem
  by_contra hbad
  refine hall ⟨address, hmem, ?_⟩
  rw [not_and_or, Bool.not_eq_true] at hbad
  exact hbad

theorem mem_of_mem_sortedAddresses {address : SocketAddr}
    (h : address ∈ sortedAddresses addresses) :
    address ∈ addresses :=
  (mem_insertionSort _).mp ((destutter_sublist _ _).mem h)

/-- **The addresses that are registered** were examined. -/
theorem resolve_eq_ok (h : resolve hop host = .ok addresses) :
    ∀ address ∈ addresses, address.port = 443 ∧ permits address.ip = true := by
  rw [resolve] at h
  rcases hlookup : hop.lookup host with _ | (code | found) <;>
    simp only [hlookup, reduceCtorEq] at h
  obtain ⟨-, h⟩ := check_unless_eq_ok.mp h
  rcases hvalid : validateAddresses found with code | u <;> simp only [hvalid, reduceCtorEq] at h
  cases h
  exact fun address hmem => validateAddresses_eq_ok hvalid address (mem_of_mem_sortedAddresses hmem)

variable {client : Client}

theorem buildClient_eq_ok (h : buildClient hop approvedHost deadline current = .ok client) :
    client.host = approvedHost ∧
      ∀ address ∈ client.addresses, address.port = 443 ∧ permits address.ip = true := by
  rw [buildClient, check_then_eq_ok] at h
  obtain ⟨host, -, h⟩ := check_bind_eq_ok.mp h.2
  obtain ⟨hsame, h⟩ := check_unless_eq_ok.mp h
  obtain ⟨addresses, hresolve, h⟩ := check_bind_eq_ok.mp h
  rw [check_then_eq_ok, check_unless_eq_ok, check_unless_eq_ok, check_then_eq_ok] at h
  obtain ⟨-, -, -, -, h⟩ := h
  cases h
  exact ⟨not_not.mp hsame, resolve_eq_ok hresolve⟩

/-! ## Requests -/

structure Vetted (approvedHost : String) (request : Request) : Prop where
  url : request.url.IsNetwork approvedHost
  client : request.client.host = approvedHost
  addresses : ∀ address ∈ request.client.addresses,
    address.port = 443 ∧ permits address.ip = true

/-- The client knows the addresses of the very host that it is asked for. -/
def Pinned (request : Request) : Prop := request.url.host = some (.domain request.client.host)

def Url.IsPlain (url : Url) : Prop :=
  ∃ name, url.host = some (.domain name) ∧ trimEndDots (toAsciiLowercase name) = name

/-- **Pinning** is a matter of how the host is written. -/
theorem Vetted.pinned_iff (h : Vetted approvedHost request) :
    Pinned request ↔ request.url.IsPlain := by
  obtain ⟨name, hname, hhost⟩ := networkHost_eq_ok h.url.host
  rw [Pinned, Url.IsPlain, h.client, hname, hhost]
  constructor
  · intro hsame
    obtain hsame := Host.domain.inj (some.inj hsame)
    exact ⟨name, rfl, hsame.symm⟩
  · rintro ⟨other, hother, hplain⟩
    obtain rfl := Host.domain.inj (some.inj hother)
    rw [hplain]

/-- The requests that a download leads to from one of its hops on, as the outside answers;
so many redirections may still be followed. -/
inductive Asks (outside : Outside) (approvedHost : String) (deadline : ℤ) :
    ℕ → ℕ → Url → Request → Prop
  | here {left hop : ℕ} {current : Url} {client : Client}
      (hclient : buildClient (outside.hop hop) approvedHost deadline current = .ok client) :
      Asks outside approvedHost deadline left hop current ⟨client, current⟩
  | redirect {left hop : ℕ} {current next : Url} {client : Client} {response : Response}
      {request : Request}
      (hclient : buildClient (outside.hop hop) approvedHost deadline current = .ok client)
      (hresponse : (outside.hop hop).respond ⟨client, current⟩ = some (some response))
      (hheaders : ensureHeaderBounds response.headers = .ok ())
      (hredirect : isRedirect response.status = true)
      (hnext : redirectTarget outside.library approvedHost current response = .ok next)
      (h : Asks outside approvedHost deadline left (hop + 1) next request) :
      Asks outside approvedHost deadline (left + 1) hop current request

/-- **Every request** is vetted, however long the way to it. -/
theorem Asks.vetted (hlibrary : Rejoins outside.library) {left hop : ℕ}
    (h : Asks outside approvedHost deadline left hop current request)
    (hcurrent : current.IsNetwork approvedHost) : Vetted approvedHost request := by
  induction h with
  | here hclient =>
    obtain ⟨hhost, haddresses⟩ := buildClient_eq_ok hclient
    exact ⟨hcurrent, hhost, haddresses⟩
  | redirect _ _ _ _ hnext _ ih => exact ih (redirectTarget_eq_ok hlibrary hnext)

structure Checked (outside : Outside) (requests : List Request) (download : Download) : Prop where
  received : ∃ request response, requests.getLast? = some request ∧
    (outside.hop (requests.length - 1)).respond request = some (some response) ∧
    response.status = 200 ∧ readBody [] response.body = .ok download.sourceBytes ∧
    parseMediaType response.headers = .ok download.sourceMediaType ∧
    parseContentLength response.headers = .ok download.declaredLength
  length : download.sourceBytes.length ≤ maxReceiptImageEncodedBytes
  declared : ∀ length ∈ download.declaredLength, length = download.sourceBytes.length
  structured : ∃ format,
    detectAndMatchFormat download.sourceBytes download.sourceMediaType = .ok format ∧
    validateImageStructure download.sourceBytes format outside.budget = .ok ()

theorem readBody_length {received body : List UInt8} {chunks : List Chunk}
    (hreceived : received.length ≤ maxReceiptImageEncodedBytes)
    (h : readBody received chunks = .ok body) : body.length ≤ maxReceiptImageEncodedBytes := by
  induction chunks generalizing received with
  | nil =>
    cases h
    exact hreceived
  | cons chunk rest ih =>
    cases chunk with
    | bytes chunk =>
      obtain ⟨hlength, h⟩ := check_unless_eq_ok.mp h
      exact ih (by rw [length_append]; exact not_lt.mp hlength) h
    | late | broken => cases h

/-- **An image that is received** passed the checks. -/
theorem receive_eq_ok {hops : List HopProvenance} {download : Download}
    (h : receive outside current hops response = .ok download) {requests : List Request}
    (hlast : requests.getLast? = some request)
    (hresponse : (outside.hop (requests.length - 1)).respond request = some (some response)) :
    Checked outside requests download := by
  rw [receive, check_unless_eq_ok, not_not] at h
  obtain ⟨hstatus, h⟩ := h
  obtain ⟨mediaType, hmedia, h⟩ := check_bind_eq_ok.mp h
  obtain ⟨declared, hdeclared, h⟩ := check_bind_eq_ok.mp h
  obtain ⟨-, h⟩ := check_unless_eq_ok.mp h
  obtain ⟨body, hbody, h⟩ := check_bind_eq_ok.mp h
  obtain ⟨hlength, h⟩ := check_unless_eq_ok.mp h
  obtain ⟨format, hformat, h⟩ := check_bind_eq_ok.mp h
  rw [check_then_eq_ok] at h
  obtain ⟨hstructure, h⟩ := h
  obtain ⟨⟨display, width, height⟩, -, h⟩ := check_bind_eq_ok.mp h
  cases h
  refine ⟨⟨request, response, hlast, hresponse, hstatus, hbody, hmedia, hdeclared⟩,
    readBody_length (Nat.zero_le _) hbody, fun length hmem => ?_, format, hformat, hstructure⟩
  by_contra hne
  exact hlength ⟨length, hmem, hne⟩

/-! ## Runs -/

theorem send_requests (hop : HopOutside) (request : Request) (s : List Request) :
    (send hop request s).2 = s ++ [request] := by
  rw [send, update_bind]
  rcases hop.respond request with _ | _ | response <;> try rfl
  simp only [check_bind]
  cases ensureHeaderBounds response.headers <;> rfl

theorem send_eq_ok {s : List Request} : (send hop request s).1 = .ok response ↔
      hop.respond request = some (some response) ∧
        ensureHeaderBounds response.headers = .ok () := by
  rw [send, update_bind]
  rcases hop.respond request with _ | _ | answer
  · simp
  · simp
  · simp only [check_bind, some.injEq]
    rcases hheaders : ensureHeaderBounds answer.headers with code | u
    · constructor
      · simp
      · rintro ⟨rfl, hok⟩
        rw [hok] at hheaders
        cases hheaders
    · constructor
      · intro h
        cases h
        exact ⟨rfl, hheaders⟩
      · rintro ⟨rfl, -⟩
        rfl

structure Followed (outside : Outside) (approvedHost : String) (deadline : ℤ) (left hop : ℕ)
    (current : Url) (outcome : Except FailureCode Download) (requests : List Request) : Prop where
  asks : ∀ request, request ∈ requests ↔
    Asks outside approvedHost deadline left hop current request
  few : requests.length ≤ left + 1
  received : ∀ download, outcome = .ok download → ∃ request response hops,
    requests.getLast? = some request ∧
    (outside.hop (hop + requests.length - 1)).respond request = some (some response) ∧
    receive outside request.url hops response = .ok download

section Hops

variable {left hop : ℕ} {current : Url} {outcome : Except FailureCode Download}

theorem followed_nil {code : FailureCode}
    (hclient : buildClient (outside.hop hop) approvedHost deadline current = .error code) :
    Followed outside approvedHost deadline left hop current (.error code) [] where
  asks := by
    intro request
    constructor
    · simp
    · intro h
      cases h with
      | here hok => simp [hclient] at hok
      | redirect hok => simp [hclient] at hok
  few := Nat.zero_le _
  received := by simp

section

variable (hclient : buildClient (outside.hop hop) approvedHost deadline current = .ok client)

include hclient

theorem followed_here
    (hends : ∀ response next, (outside.hop hop).respond ⟨client, current⟩ = some (some response) →
      ensureHeaderBounds response.headers = .ok () → isRedirect response.status = true →
      redirectTarget outside.library approvedHost current response = .ok next → left = 0)
    (hreceived : ∀ download, outcome = .ok download → ∃ response hops,
      (outside.hop hop).respond ⟨client, current⟩ = some (some response) ∧
      receive outside current hops response = .ok download) :
    Followed outside approvedHost deadline left hop current outcome [⟨client, current⟩] where
  asks := by
    intro request
    rw [mem_singleton]
    constructor
    · rintro rfl
      exact Asks.here hclient
    · intro h
      cases h with
      | here hok =>
        obtain rfl := Except.ok.inj (hclient.symm.trans hok)
        rfl
      | redirect hok hresponse hheaders hredirect hnext _ =>
        obtain rfl := Except.ok.inj (hclient.symm.trans hok)
        cases hends _ _ hresponse hheaders hredirect hnext
  few := by simp
  received := by
    intro download hdownload
    obtain ⟨response, hops, hresponse, hreceive⟩ := hreceived download hdownload
    exact ⟨_, response, hops, rfl, hresponse, hreceive⟩

theorem followed_cons {response : Response} {next : Url} {requests : List Request}
    (hresponse : (outside.hop hop).respond ⟨client, current⟩ = some (some response))
    (hheaders : ensureHeaderBounds response.headers = .ok ())
    (hredirect : isRedirect response.status = true)
    (hnext : redirectTarget outside.library approvedHost current response = .ok next)
    (h : Followed outside approvedHost deadline left (hop + 1) next outcome requests) :
    Followed outside approvedHost deadline (left + 1) hop current outcome
      (⟨client, current⟩ :: requests) where
  asks := by
    intro request
    rw [mem_cons, h.asks]
    constructor
    · rintro (rfl | hlater)
      · exact Asks.here hclient
      · exact Asks.redirect hclient hresponse hheaders hredirect hnext hlater
    · intro hasks
      cases hasks with
      | here hok =>
        obtain rfl := Except.ok.inj (hclient.symm.trans hok)
        exact Or.inl rfl
      | redirect hok hanswer _ _ htarget hlater =>
        obtain rfl := Except.ok.inj (hclient.symm.trans hok)
        obtain rfl := some.inj (mem_unique hresponse hanswer)
        obtain rfl := Except.ok.inj (hnext.symm.trans htarget)
        exact Or.inr hlater
  few := Nat.succ_le_succ h.few
  received := by
    intro download hdownload
    obtain ⟨request, answer, hops, hlast, hanswer, hreceive⟩ := h.received download hdownload
    have hne : requests ≠ [] := by
      rintro rfl
      simp at hlast
    refine ⟨request, answer, hops, ?_, ?_, hreceive⟩
    · rw [getLast?_cons_of_ne_nil hne, hlast]
    · rwa [length_cons, Nat.add_comm requests.length, ← Nat.add_assoc]

end

end Hops

/-- **Hop by hop**, by induction on the redirections that are left. -/
theorem follow_followed (left : ℕ) (current : Url) (hops : List HopProvenance)
    (s : List Request) : ∃ requests,
      (follow outside approvedHost deadline left current hops s).2 = s ++ requests ∧
      Followed outside approvedHost deadline left hops.length current
        (follow outside approvedHost deadline left current hops s).1 requests := by
  induction left generalizing current hops s with
  | zero =>
    rw [follow, check_bind]
    rcases hclient : buildClient (outside.hop hops.length) approvedHost deadline current
      with code | client
    · exact ⟨[], by simp, followed_nil hclient⟩
    rcases hsend : send (outside.hop hops.length) ⟨client, current⟩ s with ⟨code | response, s'⟩ <;>
      obtain rfl : s' = s ++ [⟨client, current⟩] := by
        rw [← send_requests (outside.hop hops.length), hsend]
    · simp only [bind_of_error hsend]
      exact ⟨_, rfl, followed_here hclient (fun _ _ _ _ _ _ => rfl) (by simp)⟩
    obtain ⟨hresponse, -⟩ := send_eq_ok.mp (congrArg Prod.fst hsend)
    simp only [bind_of_ok hsend]
    split
    · exact ⟨_, rfl, followed_here hclient (fun _ _ _ _ _ _ => rfl) (by simp)⟩
    · exact ⟨_, rfl, followed_here hclient (fun _ _ _ _ _ _ => rfl)
        fun download hreceive => ⟨response, _, hresponse, hreceive⟩⟩
  | succ left ih =>
    rw [follow, check_bind]
    rcases hclient : buildClient (outside.hop hops.length) approvedHost deadline current
      with code | client
    · exact ⟨[], by simp, followed_nil hclient⟩
    rcases hsend : send (outside.hop hops.length) ⟨client, current⟩ s with ⟨code | response, s'⟩ <;>
      obtain rfl : s' = s ++ [⟨client, current⟩] := by
        rw [← send_requests (outside.hop hops.length), hsend]
    · simp only [bind_of_error hsend]
      refine ⟨_, rfl, followed_here hclient (fun response _ hresponse hheaders _ _ => ?_) (by simp)⟩
      have hok := send_eq_ok (s := s).mpr ⟨hresponse, hheaders⟩
      rw [hsend] at hok
      cases hok
    obtain ⟨hresponse, hheaders⟩ := send_eq_ok.mp (congrArg Prod.fst hsend)
    simp only [bind_of_ok hsend]
    split
    · rename_i hredirect
      rw [check_bind]
      rcases hnext : redirectTarget outside.library approvedHost current response with code | next
      · refine ⟨_, rfl, followed_here hclient (fun answer next hanswer _ _ htarget => ?_) (by simp)⟩
        obtain rfl := some.inj (mem_unique hresponse hanswer)
        rw [hnext] at htarget
        cases htarget
      · -- the answer leads on: what follows is a download with one redirection less
        obtain ⟨requests, hrequests, hfollowed⟩ := ih next (hops ++ [_]) (s ++ [⟨client, current⟩])
        refine ⟨⟨client, current⟩ :: requests, ?_,
          followed_cons hclient hresponse hheaders hredirect hnext (by simpa using hfollowed)⟩
        rw [hrequests, append_assoc, singleton_append]
    · rename_i hredirect
      refine ⟨_, rfl, followed_here hclient (fun answer _ hanswer _ hmoved _ => ?_)
        fun download hreceive => ⟨response, _, hresponse, hreceive⟩⟩
      obtain rfl := some.inj (mem_unique hresponse hanswer)
      exact absurd hmoved hredirect

/-! ## Downloads -/

section Downloads

variable {normalizedUrl approvedDisplayHost : String}

/-- **A safe download**: every request is vetted and pinned, there are four at most, and an
image that is returned was checked. -/
structure Safe (outside : Outside) (normalizedUrl approvedDisplayHost : String) (deadline : ℤ)
    (outcome : Except FailureCode Download) (requests : List Request) : Prop where
  vetted : ∀ request ∈ requests, ∃ approvedHost,
    normalizeApprovedHost approvedDisplayHost = .ok approvedHost ∧ Vetted approvedHost request
  pinned : ∀ request ∈ requests, Pinned request
  few : requests.length ≤ 4
  checked : ∀ download, outcome = .ok download → Checked outside requests download

def PlainWay (outside : Outside) (normalizedUrl approvedDisplayHost : String) (deadline : ℤ) :
    Prop :=
  ∀ approvedHost start,
    approve outside normalizedUrl approvedDisplayHost deadline = .ok (approvedHost, start) →
    ∀ request, Asks outside approvedHost deadline maxReceiptImageRedirects 0 start request →
      request.url.IsPlain

theorem download_followed {start : Url}
    (happrove : approve outside normalizedUrl approvedDisplayHost deadline =
      .ok (approvedHost, start)) :
    Followed outside approvedHost deadline maxReceiptImageRedirects 0 start
      (downloadWithDeadline outside normalizedUrl approvedDisplayHost deadline []).1
      (downloadWithDeadline outside normalizedUrl approvedDisplayHost deadline []).2 := by
  rw [downloadWithDeadline, check_bind, happrove]
  have hgoes : ∃ requests,
      (follow outside approvedHost deadline maxReceiptImageRedirects start [] []).2 =
        [] ++ requests ∧ _ := follow_followed maxReceiptImageRedirects start [] []
  obtain ⟨requests, hrequests, hfollowed⟩ := hgoes
  rw [nil_append] at hrequests
  simp only [hrequests]
  exact hfollowed

/-- **A download is safe** exactly if all hosts on its way are written in lower case and
without dots at their end. -/
theorem download_safe_iff (hlibrary : Rejoins outside.library) :
    Safe outside normalizedUrl approvedDisplayHost deadline
        (downloadWithDeadline outside normalizedUrl approvedDisplayHost deadline []).1
        (downloadWithDeadline outside normalizedUrl approvedDisplayHost deadline []).2 ↔
      PlainWay outside normalizedUrl approvedDisplayHost deadline := by
  rcases happrove : approve outside normalizedUrl approvedDisplayHost deadline
    with code | ⟨approvedHost, start⟩
  · -- nothing is approved, so nothing is asked
    rw [downloadWithDeadline, check_bind, PlainWay, happrove]
    constructor
    · simp
    · intro _
      exact ⟨by simp, by simp, by simp, by simp⟩
  obtain ⟨hnormal, hstart⟩ := approve_eq_ok happrove
  have hfollowed := download_followed happrove
  have hvetted := fun request hmem =>
    ((hfollowed.asks request).mp hmem).vetted hlibrary hstart
  constructor
  · intro hsafe host first hother request hasks
    obtain ⟨rfl, rfl⟩ := Prod.mk.inj (Except.ok.inj (happrove.symm.trans hother))
    have hmem := (hfollowed.asks request).mpr hasks
    exact (hvetted request hmem).pinned_iff.mp (hsafe.pinned request hmem)
  · intro hplain
    refine ⟨fun request hmem => ⟨approvedHost, hnormal, hvetted request hmem⟩,
      fun request hmem => ?_, hfollowed.few, fun download hdownload => ?_⟩
    · exact (hvetted request hmem).pinned_iff.mpr
        (hplain _ _ happrove request ((hfollowed.asks request).mp hmem))
    · obtain ⟨request, response, hops, hlast, hresponse, hreceive⟩ :=
        hfollowed.received download hdownload
      rw [Nat.zero_add] at hresponse
      exact receive_eq_ok hreceive hlast hresponse

end Downloads

/-! ## Two downloads -/

def httpsStart : List Char := ['h', 't', 't', 'p', 's', ':', '/', '/']

def parseHostAndPath (text : String) : Option Url :=
  if text.toList.take 8 = httpsStart then
    some {
      scheme := "https"
      username := ""
      password := none
      host := some (.domain (String.ofList ((text.toList.drop 8).takeWhile (· ≠ '/'))))
      port := none
      target := String.ofList ((text.toList.drop 8).dropWhile (· ≠ '/'))
      fragment := none }
  else none

def writeHostAndPath (url : Url) : String :=
  match url.host with
  | some (.domain name) => String.ofList (httpsStart ++ name.toList ++ url.target.toList)
  | _ => ""

def hostsAndPaths : UrlLibrary where
  parse := parseHostAndPath
  join base reference := parseHostAndPath (writeHostAndPath { base with target := reference })
  asStr := writeHostAndPath

theorem hostsAndPaths_rejoins : Rejoins hostsAndPaths := by
  intro base reference joined hjoined parsed hparsed
  obtain ⟨text, htext⟩ : ∃ text, parseHostAndPath text = some joined := ⟨_, hjoined⟩
  rw [parseHostAndPath, ite_none_right_eq_some] at htext
  obtain ⟨hstart, htext⟩ := htext
  cases htext
  have hwritten : writeHostAndPath {
      scheme := "https"
      username := ""
      password := none
      host := some (.domain (String.ofList ((text.toList.drop 8).takeWhile (· ≠ '/'))))
      port := none
      target := String.ofList ((text.toList.drop 8).dropWhile (· ≠ '/'))
      fragment := none } = text := by
    rw [writeHostAndPath]
    simp only [String.toList_ofList, append_assoc, takeWhile_append_dropWhile, ← hstart,
      take_append_drop, String.ofList_toList]
  simp only [hostsAndPaths, Url.withoutFragment, hwritten, parseHostAndPath, hstart, if_true] at hparsed
  exact (some.inj hparsed).symm

def smallImageServer : Outside where
  library := hostsAndPaths
  codecs := ⟨fun _ _ => some ⟨32, 32, []⟩, fun _ => some pngMagic⟩
  sha256 := fun _ => ""
  enteredAt := 0
  hop := fun _ => {
    startsAt := 0
    lookup := fun _ => some (.ok [⟨.v4 (ipv4 8 8 8 8), 443⟩])
    resolvedAt := 0
    remainingAt := 0
    builds := true
    builtAt := 0
    respond := fun request => some (some
      (if request.url.target = "/old" then ⟨302, [("location", ascii "/new")], []⟩
      else ⟨200, [("content-type", ascii "image/jpeg")],
        [.bytes [0xff, 0xd8, 0xff, 0xc0, 0x00, 0x02, 0xff, 0xda, 0x00, 0x02, 0xff, 0xd9]]⟩)) }
  budget := 100
  worker := .done

def smallImageRun (url : String) : Except FailureCode Download × List Request :=
  downloadWithDeadline smallImageServer url "CDN.example.com" 10 []

def smallImageHost : Host := .domain "cdn.example.com"

theorem smallImage_safe :
    Safe smallImageServer "https://cdn.example.com/old" "CDN.example.com" 10
      (smallImageRun "https://cdn.example.com/old").1
      (smallImageRun "https://cdn.example.com/old").2 ∧
    (smallImageRun "https://cdn.example.com/old").2.length = 2 ∧
    (smallImageRun "https://cdn.example.com/old").1.isOk = true := by
  refine ⟨(download_safe_iff hostsAndPaths_rejoins).mpr ?_, by decide +kernel, by decide +kernel⟩
  have hhosts : ∀ request ∈ (smallImageRun "https://cdn.example.com/old").2,
      request.url.host = some smallImageHost := by decide +kernel
  intro approvedHost start happrove request hasks
  exact ⟨_, hhosts request ((download_followed happrove).asks request |>.mpr hasks),
    by decide +kernel⟩

/-- **A dot at the end of the host** takes the request past the registered addresses. -/
theorem dotted_host_unpinned :
    ¬ ∀ outside normalizedUrl approvedDisplayHost deadline, Rejoins outside.library →
      Safe outside normalizedUrl approvedDisplayHost deadline
        (downloadWithDeadline outside normalizedUrl approvedDisplayHost deadline []).1
        (downloadWithDeadline outside normalizedUrl approvedDisplayHost deadline []).2 := by
  intro hall
  have hsafe := hall smallImageServer "https://cdn.example.com./new" "CDN.example.com" 10
    hostsAndPaths_rejoins
  have hasked : ∃ request ∈ (smallImageRun "https://cdn.example.com./new").2,
      ¬ request.url.host = some (.domain request.client.host) := by decide +kernel
  obtain ⟨request, hmem, hunpinned⟩ := hasked
  exact hunpinned (hsafe.pinned request hmem)

end Threadbook.ReceiptImage
