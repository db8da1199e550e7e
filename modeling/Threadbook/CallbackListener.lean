import Threadbook.Fallible
import Mathlib.Data.List.Infix

/-!
# The listener for the OAuth callback

The listener takes one connection, reads the head of a request from it and takes the code out of
the request line. `handle_eq_ok` says which connections it gets a code from, however their bytes
are split; `waits_for_callback_iff` says when that makes it wait for its own callback: if no
connection is the callback, or the first one is.
-/

namespace Threadbook.GmailHttp

open List

inductive GoogleHttpError
  | client
  | transport
  | timeout
  | malformedRequest
  deriving DecidableEq

abbrev Text : Type := List UInt8

structure CallbackUrl where
  path : String
  queryPairs : List (String × String)
  deriving DecidableEq

structure HttpServices where
  isUtf8 : List UInt8 → Bool
  parseUrl : Text → Option CallbackUrl

structure PendingPkceAuthorization where
  state : String
  verifier : String
  callbackPath : String

/-- What comes of a connection after its last bytes. -/
inductive StreamEnd
  | closed
  | fails
  | silent
  deriving DecidableEq

structure Connection where
  loopback : Bool
  reads : List (List UInt8)
  ending : StreamEnd
  answered : Bool
  nonempty : ∀ bytes ∈ reads, bytes ≠ []

def Connection.sent (c : Connection) : List UInt8 := c.reads.flatten

/-! ## Reading a request -/

def MAX_REQUEST_BYTES : ℕ := 8192
def MAX_CODE_BYTES : ℕ := 4096

/-- The empty line behind the head of a request. -/
def headEnd : List UInt8 := [13, 10, 13, 10]

def hasHeadEnd (request : List UInt8) : Bool := request.tails.any (headEnd.isPrefixOf ·)

def StreamEnd.error : StreamEnd → GoogleHttpError
  | closed => .malformedRequest
  | fails => .transport
  | silent => .timeout

def readRequest (ending : StreamEnd) : List UInt8 → List (List UInt8) →
    Except GoogleHttpError (List UInt8)
  | request, [] => if hasHeadEnd request then .ok request else .error ending.error
  | request, bytes :: rest =>
    if hasHeadEnd request then .ok request
    else if bytes = [] ∨ request.length + bytes.length > MAX_REQUEST_BYTES then
      .error .malformedRequest
    else readRequest ending (request ++ bytes) rest

def firstLine : Text → Text
  | [] => []
  | 13 :: 10 :: _ => []
  | byte :: rest => byte :: firstLine rest

def get : Text := [71, 69, 84]
def http11 : Text := [72, 84, 84, 80, 47, 49, 46, 49]

/-- The fields of a request line, between single blanks: the method, the target, the version. -/
def requestTarget (line : Text) : Except GoogleHttpError Text :=
  match line.splitOn 32 with
  | first :: rest =>
    if first ≠ get ∨ rest.getLast? ≠ some http11 then .error .malformedRequest
    else match rest.dropLast with
      | [target] => .ok target
      | _ => .error .malformedRequest
  | [] => .error .malformedRequest

def collectPairs : List (String × String) → Option String → Option String →
    Except GoogleHttpError (Option String × Option String)
  | [], code, state => .ok (code, state)
  | (name, value) :: rest, code, state =>
    if name = "code" then
      if code.isNone then collectPairs rest (some value) state else .error .malformedRequest
    else if name = "state" then
      if state.isNone then collectPairs rest code (some value) else .error .malformedRequest
    else collectPairs rest code state

section Listener

variable (services : HttpServices) (pending : PendingPkceAuthorization)

/-- `http://127.0.0.1`, in front of the target. -/
def origin : Text := [104, 116, 116, 112, 58, 47, 47, 49, 50, 55, 46, 48, 46, 48, 46, 49]

def callbackCode (line : Text) : Except GoogleHttpError String := do
  let target ← requestTarget line
  match services.parseUrl (origin ++ target) with
  | none => .error .malformedRequest
  | some callback =>
    if callback.path ≠ pending.callbackPath then .error .malformedRequest
    else do
      let (code, state) ← collectPairs callback.queryPairs none none
      if state ≠ some pending.state then .error .malformedRequest
      else match code with
        | none => .error .malformedRequest
        | some code =>
          if code ≠ "" ∧ code.utf8ByteSize ≤ MAX_CODE_BYTES then .ok code
          else .error .malformedRequest

def handle (c : Connection) : Except GoogleHttpError String :=
  if ¬ c.loopback then .error .malformedRequest
  else do
    let request ← readRequest c.ending [] c.reads
    if ¬ services.isUtf8 request then .error .malformedRequest
    else do
      let code ← callbackCode services pending (firstLine request)
      if ¬ c.answered then .error .transport else .ok code

/-- Wait for a connection, until the time limit: what is done with the first one is the result. -/
def waitForCode (connections : List Connection) : Except GoogleHttpError (String × String) :=
  match connections with
  | [] => .error .timeout
  | c :: _ => (handle services pending c).map fun code => (code, pending.verifier)

/-! ## The callback -/

/-- The head of a request ends with its first empty line. -/
def EndsHead (head : List UInt8) : Prop := hasHeadEnd head = true ∧ hasHeadEnd head.dropLast = false

def valuesOf (name : String) (pairs : List (String × String)) : List String :=
  (pairs.filter (·.1 = name)).map Prod.snd

/-- The request line of the callback: its target has the path that was issued, one state, the one
that was issued, and one code. -/
def Authorizes (line : Text) (code : String) : Prop :=
  ∃ target url, line.splitOn 32 = [get, target, http11] ∧
    services.parseUrl (origin ++ target) = some url ∧ url.path = pending.callbackPath ∧
    valuesOf "state" url.queryPairs = [pending.state] ∧ valuesOf "code" url.queryPairs = [code] ∧
    code ≠ "" ∧ code.utf8ByteSize ≤ MAX_CODE_BYTES

/-- The connection sends the callback, with the code. -/
def Genuine (c : Connection) (code : String) : Prop :=
  ∃ head rest, c.sent = head ++ rest ∧ EndsHead head ∧ head.length ≤ MAX_REQUEST_BYTES ∧
    Authorizes services pending (firstLine head) code

def untilHead : List UInt8 → List (List UInt8) → Option (List UInt8)
  | request, [] => if hasHeadEnd request then some request else none
  | request, bytes :: rest =>
    if hasHeadEnd request then some request else untilHead (request ++ bytes) rest

def Served (c : Connection) : Prop :=
  c.loopback = true ∧ c.answered = true ∧ ∃ request, untilHead [] c.reads = some request ∧
    request.length ≤ MAX_REQUEST_BYTES ∧ services.isUtf8 request = true

/-! ## The head of a request -/

theorem hasHeadEnd_iff {request : List UInt8} : hasHeadEnd request = true ↔ headEnd <:+: request := by
  rw [hasHeadEnd, any_eq_true, List.infix_iff_prefix_suffix]
  constructor
  · rintro ⟨t, ht, hprefix⟩
    exact ⟨t, List.isPrefixOf_iff_prefix.mp hprefix, (mem_tails ..).mp ht⟩
  · rintro ⟨t, hprefix, hsuffix⟩
    exact ⟨t, (mem_tails ..).mpr hsuffix, List.isPrefixOf_iff_prefix.mpr hprefix⟩

theorem hasHeadEnd_mono {a b : List UInt8} (h : hasHeadEnd a = true) (hab : a <+: b) :
    hasHeadEnd b = true :=
  hasHeadEnd_iff.mpr ((hasHeadEnd_iff.mp h).trans hab.isInfix)

theorem exists_head {request : List UInt8} (h : hasHeadEnd request = true) :
    ∃ head, head <+: request ∧ EndsHead head := by
  induction request using reverseRecOn with
  | nil => exact absurd h (by decide)
  | append_singleton front byte ih =>
    by_cases hfront : hasHeadEnd front = true
    · obtain ⟨head, hprefix, hhead⟩ := ih hfront
      exact ⟨head, hprefix.trans (prefix_append ..), hhead⟩
    · refine ⟨_, prefix_refl _, h, ?_⟩
      rw [dropLast_concat]
      exact Bool.eq_false_iff.mpr hfront

theorem EndsHead.unique {a b l : List UInt8} (ha : EndsHead a) (hb : EndsHead b) (hal : a <+: l)
    (hbl : b <+: l) : a = b := by
  have hshort {x y : List UInt8} (hx : EndsHead x) (hy : EndsHead y) (hxy : x <+: y) : x = y := by
    by_contra hne
    have hy0 : y ≠ [] := by
      rintro rfl
      exact absurd hy.1 (by decide)
    rw [← dropLast_append_getLast hy0, prefix_concat_iff,
      dropLast_append_getLast hy0] at hxy
    have hdrop := hasHeadEnd_mono hx.1 (hxy.resolve_left hne)
    rw [hy.2] at hdrop
    cases hdrop
  rcases List.prefix_or_prefix_of_prefix hal hbl with h | h
  · exact hshort ha hb h
  · exact (hshort hb ha h).symm

theorem firstLine_append {l : Text} (h : [13, 10] <:+: l) (more : Text) :
    firstLine (l ++ more) = firstLine l := by
  induction l with
  | nil => cases infix_nil.mp h
  | cons byte rest ih =>
    rcases infix_cons_iff.mp h with hprefix | hrest
    · obtain ⟨tail, htail⟩ := hprefix
      obtain ⟨rfl, rfl⟩ := cons.inj htail
      rfl
    · obtain ⟨next, rest, rfl⟩ := exists_cons_of_ne_nil (fun hnil => by
        rw [hnil] at hrest
        cases infix_nil.mp hrest : rest ≠ [])
      have hih := ih hrest
      by_cases hbreak : byte = 13 ∧ next = 10
      · obtain ⟨rfl, rfl⟩ := hbreak
        rfl
      · have hline (tail : Text) : firstLine (byte :: next :: tail) = byte :: firstLine (next :: tail) := by
          rw [firstLine]
          rintro tail' rfl htail
          exact hbreak ⟨rfl, (cons.inj htail).1⟩
        rw [cons_append, cons_append, hline, hline]
        exact congrArg _ hih

theorem EndsHead.firstLine {head : List UInt8} (h : EndsHead head) (more : List UInt8) :
    firstLine (head ++ more) = GmailHttp.firstLine head :=
  firstLine_append (List.IsInfix.trans ⟨[], [13, 10], rfl⟩ (hasHeadEnd_iff.mp h.1)) more

/-! ## What is read -/

theorem untilHead_extends {request out : List UInt8} {reads : List (List UInt8)}
    (h : untilHead request reads = some out) :
    request <+: out ∧ out <+: request ++ reads.flatten ∧ hasHeadEnd out = true := by
  induction reads generalizing request with
  | nil =>
    rw [untilHead] at h
    split at h
    · rename_i hend
      cases h
      exact ⟨prefix_refl _, by simp, hend⟩
    · cases h
  | cons bytes rest ih =>
    rw [untilHead] at h
    split at h
    · rename_i hend
      cases h
      exact ⟨prefix_refl _, prefix_append .., hend⟩
    · obtain ⟨hfront, hback, hend⟩ := ih h
      rw [append_assoc] at hback
      exact ⟨(prefix_append ..).trans hfront, hback, hend⟩

/-- **However the bytes are split**, the request is what is read until the head is complete. -/
theorem readRequest_eq_ok {ending : StreamEnd} {request out : List UInt8}
    {reads : List (List UInt8)} (hreads : ∀ bytes ∈ reads, bytes ≠ [])
    (hlength : request.length ≤ MAX_REQUEST_BYTES) :
    readRequest ending request reads = .ok out ↔
      untilHead request reads = some out ∧ out.length ≤ MAX_REQUEST_BYTES := by
  induction reads generalizing request with
  | nil =>
    rw [readRequest, untilHead]
    split
    · simp only [Except.ok.injEq, Option.some.injEq, iff_self_and]
      rintro rfl
      exact hlength
    · simp
  | cons bytes rest ih =>
    rw [forall_mem_cons] at hreads
    rw [readRequest, untilHead]
    split
    · simp only [Except.ok.injEq, Option.some.injEq, iff_self_and]
      rintro rfl
      exact hlength
    · by_cases hmore : request.length + bytes.length > MAX_REQUEST_BYTES
      · rw [if_pos (.inr hmore)]
        refine ⟨nofun, fun ⟨h, hle⟩ => ?_⟩
        have hlong := (untilHead_extends h).1.length_le
        rw [length_append] at hlong
        omega
      · rw [if_neg (not_or_intro hreads.1 hmore), ih hreads.2 (by rw [length_append]; omega)]

/-! ## What a request line brings -/

theorem requestTarget_eq_ok {line target : Text} :
    requestTarget line = .ok target ↔ line.splitOn 32 = [get, target, http11] := by
  unfold requestTarget
  rcases line.splitOn 32 with _ | ⟨first, rest⟩
  · simp
  dsimp only
  rcases eq_nil_or_concat rest with rfl | ⟨middle, last, rfl⟩
  · simp
  · rw [concat_eq_append, getLast?_concat, dropLast_concat]
    by_cases hfields : first = get ∧ last = http11
    · obtain ⟨rfl, rfl⟩ := hfields
      rcases middle with _ | ⟨a, _ | ⟨b, more⟩⟩ <;> simp
    · rw [if_pos (by simpa [imp_iff_not_or] using hfields)]
      refine ⟨nofun, fun h => absurd ?_ hfields⟩
      obtain ⟨hfirst, hrest⟩ := cons.inj h
      have hlast : middle ++ [last] = [target] ++ [http11] := hrest
      exact ⟨hfirst, (append_singleton_inj.mp hlast).2⟩

theorem collectPairs_eq_ok {pairs : List (String × String)} {code state code' state' : Option String} :
    collectPairs pairs code state = .ok (code', state') ↔
      code.toList ++ valuesOf "code" pairs = code'.toList ∧
        state.toList ++ valuesOf "state" pairs = state'.toList := by
  induction pairs generalizing code state with
  | nil =>
    cases code <;> cases code' <;> cases state <;> cases state' <;> simp [collectPairs, valuesOf]
  | cons pair rest ih =>
    obtain ⟨name, value⟩ := pair
    by_cases hcode : name = "code"
    · cases code with
      | none => simp [collectPairs, valuesOf, hcode, ih]
      | some first => cases code' <;> simp [collectPairs, valuesOf, hcode]
    · by_cases hstate : name = "state"
      · cases state with
        | none => simp [collectPairs, valuesOf, hstate, ih]
        | some first => cases state' <;> simp [collectPairs, valuesOf, hstate]
      · simp [collectPairs, valuesOf, hcode, hstate, ih]

variable {services pending}

theorem callbackCode_eq_ok {line : Text} {code : String} :
    callbackCode services pending line = .ok code ↔ Authorizes services pending line code := by
  unfold callbackCode Authorizes
  rw [check_bind_eq_ok]
  simp only [requestTarget_eq_ok]
  refine exists_congr fun target => ?_
  rcases hparse : services.parseUrl (origin ++ target) with _ | url
  · simp
  by_cases hpath : url.path = pending.callbackPath
  · dsimp only
    rw [if_neg (not_not_intro hpath), check_bind_eq_ok]
    constructor
    · rintro ⟨hline, ⟨found, state⟩, hpairs, hrest⟩
      dsimp only at hrest
      rw [collectPairs_eq_ok] at hpairs
      split at hrest
      · cases hrest
      rename_i hstate
      obtain rfl := not_not.mp hstate
      rcases found with _ | found
      · cases hrest
      dsimp only at hrest
      obtain ⟨hbounds, rfl⟩ := check_when_eq_ok.mp hrest
      exact ⟨url, hline, rfl, hpath, hpairs.2, hpairs.1, hbounds⟩
    · rintro ⟨url', hline, hurl, -, hstate, hcode, hbounds⟩
      cases hurl
      refine ⟨hline, (some code, some pending.state), collectPairs_eq_ok.mpr ⟨hcode, hstate⟩, ?_⟩
      dsimp only
      rw [if_neg (not_not_intro rfl), if_pos hbounds]
  · dsimp only
    rw [if_pos hpath]
    refine ⟨nofun, ?_⟩
    rintro ⟨url', -, hurl, hpath', -⟩
    cases hurl
    exact absurd hpath' hpath

/-- **What the listener takes a code from**: the callback, if it is served. -/
theorem handle_eq_ok {c : Connection} {code : String} :
    handle services pending c = .ok code ↔ Genuine services pending c code ∧ Served services c := by
  have hread (out : List UInt8) : readRequest c.ending [] c.reads = .ok out ↔
      untilHead [] c.reads = some out ∧ out.length ≤ MAX_REQUEST_BYTES :=
    readRequest_eq_ok c.nonempty (Nat.zero_le _)
  unfold handle
  simp only [check_unless_eq_ok, check_bind_eq_ok, callbackCode_eq_ok, not_not]
  constructor
  · rintro ⟨hloopback, request, hrequest, hutf8, code', hcode, hanswered, hsame⟩
    cases hsame
    obtain ⟨huntil, hlength⟩ := (hread _).mp hrequest
    obtain ⟨-, hsent, hend⟩ := untilHead_extends huntil
    obtain ⟨head, ⟨more, rfl⟩, hhead⟩ := exists_head hend
    obtain ⟨rest, hrest⟩ := hsent
    rw [hhead.firstLine] at hcode
    refine ⟨⟨head, more ++ rest, ?_, hhead, ?_, hcode⟩, hloopback, hanswered, _, huntil, hlength, hutf8⟩
    · rw [← append_assoc, hrest]
      rfl
    · rw [length_append] at hlength
      omega
  · rintro ⟨⟨head, rest, hsent, hhead, -, hcode⟩, hloopback, hanswered, request, huntil, hlength, hutf8⟩
    obtain ⟨-, hread', hend⟩ := untilHead_extends huntil
    obtain ⟨head', ⟨more, rfl⟩, hhead'⟩ := exists_head hend
    -- the head that is read is the head that was sent
    have hsame : head' = head := hhead'.unique hhead ((prefix_append ..).trans hread')
      ⟨rest, hsent.symm⟩
    refine ⟨hloopback, _, (hread _).mpr ⟨huntil, hlength⟩, hutf8, code, ?_, hanswered, rfl⟩
    rwa [hhead'.firstLine, hsame]

/-- **The listener waits for its own callback** exactly where no connection is the callback, or
the first one is, and is served: it returns a code just if some connection is the callback, and the
code of one. -/
theorem waits_for_callback_iff (services : HttpServices) (pending : PendingPkceAuthorization)
    (connections : List Connection) :
    (((∃ code, waitForCode services pending connections = .ok (code, pending.verifier)) ↔
        ∃ c ∈ connections, ∃ code, Genuine services pending c code) ∧
      ∀ code verifier, waitForCode services pending connections = .ok (code, verifier) →
        ∃ c ∈ connections, Genuine services pending c code) ↔
    ((∀ c ∈ connections, ∀ code, ¬ Genuine services pending c code) ∨
      ∃ c ∈ connections.head?, Served services c ∧ ∃ code, Genuine services pending c code) := by
  rcases connections with _ | ⟨c, rest⟩
  · simp [waitForCode]
  have hwait (code verifier : String) :
      waitForCode services pending (c :: rest) = .ok (code, verifier) ↔
        (Genuine services pending c code ∧ Served services c) ∧ pending.verifier = verifier := by
    rw [← handle_eq_ok, waitForCode]
    rcases handle services pending c with e | found
    · simp [Except.map]
    · simp [Except.map]
  simp only [hwait, and_true, List.head?_cons, Option.mem_def, Option.some.injEq, exists_eq_left']
  constructor
  · rintro ⟨hiff, -⟩
    by_cases hnone : ∃ d ∈ c :: rest, ∃ code, Genuine services pending d code
    · obtain ⟨code, hgenuine, hserved⟩ := hiff.mpr hnone
      exact .inr ⟨hserved, code, hgenuine⟩
    · push Not at hnone
      exact .inl hnone
  · rintro (hnone | ⟨hserved, code, hgenuine⟩)
    · have hfirst := hnone c (List.mem_cons_self ..)
      refine ⟨⟨fun ⟨code, hgenuine, _⟩ => (hfirst code hgenuine).elim, ?_⟩,
        fun code _ ⟨⟨hgenuine, _⟩, _⟩ => (hfirst code hgenuine).elim⟩
      rintro ⟨d, hd, code, hgenuine⟩
      exact (hnone d hd code hgenuine).elim
    · refine ⟨⟨fun _ => ⟨c, List.mem_cons_self .., code, hgenuine⟩, fun _ => ⟨code, hgenuine, hserved⟩⟩, ?_⟩
      exact fun code _ ⟨⟨hgenuine, _⟩, _⟩ => ⟨c, List.mem_cons_self .., hgenuine⟩

end Listener

/-! ## A connection that sends nothing -/

section Example

def issued : PendingPkceAuthorization := ⟨"s", "v", "/oauth2/callback/AAAAAAAAAAAAAAAAAAAAAA"⟩

/-- `/oauth2/callback/`, the random part, and `?code=c&state=s`. -/
def issuedTarget : Text :=
  [47, 111, 97, 117, 116, 104, 50, 47, 99, 97, 108, 108, 98, 97, 99, 107, 47] ++
    List.replicate 22 65 ++ [63, 99, 111, 100, 101, 61, 99, 38, 115, 116, 97, 116, 101, 61, 115]

def issuedServices : HttpServices where
  isUtf8 _ := true
  parseUrl url :=
    if url = origin ++ issuedTarget then some ⟨issued.callbackPath, [("code", "c"), ("state", "s")]⟩
    else none

def issuedRequest : List UInt8 := get ++ [32] ++ issuedTarget ++ [32] ++ http11 ++ headEnd

def speculative : Connection := ⟨true, [], .closed, true, nofun⟩

def callback : Connection := ⟨true, [issuedRequest], .silent, true, by decide⟩

/-- **A speculative connection ends the wait**: the callback that comes behind it is not read. -/
theorem speculative_ends_wait :
    waitForCode issuedServices issued [speculative, callback] = .error .malformedRequest ∧
      ¬ ((∃ code, waitForCode issuedServices issued [speculative, callback] =
          .ok (code, issued.verifier)) ↔
        ∃ c ∈ [speculative, callback], ∃ code, Genuine issuedServices issued c code) := by
  have hwait : waitForCode issuedServices issued [speculative, callback] = .error .malformedRequest :=
    rfl
  have hhead : hasHeadEnd issuedRequest = true ∧ hasHeadEnd issuedRequest.dropLast = false := by
    decide
  have hparse : issuedServices.parseUrl (origin ++ issuedTarget) =
      some ⟨issued.callbackPath, [("code", "c"), ("state", "s")]⟩ := by
    simp only [issuedServices, if_true]
  have hline : (firstLine issuedRequest).splitOn 32 = [get, issuedTarget, http11] := by decide
  have hgenuine : Genuine issuedServices issued callback "c" :=
    ⟨issuedRequest, [], rfl, hhead, by decide, issuedTarget, _, hline, hparse, rfl, by decide,
      by decide, by decide, by decide⟩
  refine ⟨hwait, fun hiff => ?_⟩
  obtain ⟨code, hcode⟩ := hiff.mpr ⟨callback, by simp, "c", hgenuine⟩
  rw [hwait] at hcode
  cases hcode

end Example

end Threadbook.GmailHttp
