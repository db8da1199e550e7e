import Mathlib.Data.List.Range
import Threadbook.NativePort
import Threadbook.SetupMemory

/-!
# The albums of a setup

The bridge lists the albums of the library, one event each; the port decodes the events, and the
connector offers each album under its label with a token. A title is bounded three times on its
way: in bytes by the bridge and by the decoder, in characters by the contract of the offer. Each of
them answers a title it does not accept by failing the whole listing, so that one album can hide
the others. `offers_iff` says for which libraries all albums are offered.
-/

namespace Threadbook.PhotoKit

open Fallible Table List

/-! ## The bridge -/

structure LibraryAlbum where
  localIdentifier : String
  localizedTitle : Option String

structure EmittedEvent where
  event : String
  fields : JsonObject

def maximumAlbums : ℕ := 100
def maximumLabelBytes : ℕ := 512
def maximumIdentifierBytes : ℕ := 512

/-- `trimmingCharacters(in: .whitespacesAndNewlines)`, whose characters are those that Rust calls
whitespace. -/
def trimmingCharacters (label : String) : String :=
  String.ofList ((label.toList.dropWhile isWhitespace).rdropWhile isWhitespace)

def boundedLabel (label : String) : Option String :=
  let normalized := trimmingCharacters label
  if normalized ≠ "" ∧ byteLength normalized ≤ maximumLabelBytes ∧
      Char.ofNat 0 ∉ normalized.toList then some normalized
  else none

def boundedIdentifier (identifier : String) : Prop :=
  identifier ≠ "" ∧ byteLength identifier ≤ maximumIdentifierBytes ∧
    Char.ofNat 0 ∉ identifier.toList

instance (identifier : String) : Decidable (boundedIdentifier identifier) :=
  inferInstanceAs (Decidable (_ ∧ _))

def LibraryAlbum.title (album : LibraryAlbum) : String :=
  album.localizedTitle.getD "Untitled Album"

def EmittedEvent.fail (reason : String) : EmittedEvent :=
  ⟨"operation_terminal", [("status", .string "failed"), ("reason", .string reason)]⟩

def EmittedEvent.complete (fields : JsonObject) : EmittedEvent :=
  ⟨"operation_terminal", ("status", .string "completed") :: fields⟩

def EmittedEvent.album (album : LibraryAlbum) (label : String) : EmittedEvent :=
  ⟨"album", [("album_identifier", .string album.localIdentifier), ("label", .string label)]⟩

def emitAlbums (terminal : EmittedEvent) : List LibraryAlbum → List EmittedEvent
  | [] => [terminal]
  | album :: rest =>
    match boundedLabel album.title with
    | some label =>
      if boundedIdentifier album.localIdentifier then
        .album album label :: emitAlbums terminal rest
      else [.fail "invalid_album"]
    | none => [.fail "invalid_album"]

def listAlbums (library : List LibraryAlbum) : List EmittedEvent :=
  let count := min library.length maximumAlbums
  emitAlbums (.complete [("album_count", .unsigned count),
    ("truncated", .bool (library.length > maximumAlbums))]) (library.take maximumAlbums)

/-- The object of a control frame; what writes it and reads it back is not modelled here. -/
def controlEvent (identity : RequestIdentity) (e : EmittedEvent) : JsonObject :=
  [("protocol_version", .unsigned 1), ("event", .string e.event),
    ("operation_id", .string (Uuid.hyphenated identity.operationId)),
    ("enrollment_epoch", .string (Uuid.hyphenated identity.enrollmentEpoch)),
    ("reconciliation_fence", .unsigned identity.reconciliationFence),
    ("generation", .unsigned identity.generation),
    ("sequence", .unsigned identity.requestSequence)] ++ e.fields

/-! ## The port -/

/-- A listing has nothing that its albums are written to. -/
def noSinks : Sinks Unit where
  observe _ s := (.ok (), s)
  writeChunk _ s := (.ok (), s)
  acceptedBytes _ := 0

def receiveEvents (identity : RequestIdentity) :
    List EmittedEvent → Consumer → Except PhotoKitNativeError Answer
  | [], consumer => consumer.conclude
  | e :: rest, consumer => do
    let event ← decodeEvent (controlEvent identity e) .listAlbums e.event
    let consumer ← (consumer.consume noSinks event ()).1
    receiveEvents identity rest consumer

def mapNativeError : PhotoKitNativeError → PhotoKitConnectorPortErrorKind
  | .unavailable | .cancelled => .unavailable
  | .invalidResponse | .imageValidation => .dataIntegrity
  | .sinkRejected => .scopeTooLarge

def listRegularAlbums (identity : RequestIdentity) (events : List EmittedEvent) :
    Except PhotoKitConnectorPortErrorKind (List PhotoKitNativeAlbum) :=
  match receiveEvents identity events Call.listRegularAlbums.consumer with
  | .ok (.albums albums) => .ok albums
  | .ok _ => .error .internal
  | .error e => .error (mapNativeError e)

/-! ## What the decoder makes of the events -/

section Decoding

variable {identity : RequestIdentity}

theorem validateBoundedText_eq_ok {value : String} {maximum : ℕ} :
    validateBoundedText value maximum = .ok () ↔
      value ≠ "" ∧ byteLength value ≤ maximum ∧ Char.ofNat 0 ∉ value.toList := by
  unfold validateBoundedText
  split <;> rename_i h
  · simp only [reduceCtorEq, false_iff]
    rintro ⟨hne, hle, hnul⟩
    rcases h with h | h | h
    · exact hne (String.isEmpty_iff.mp h)
    · exact absurd h (not_lt.mpr hle)
    · exact hnul h
  · push Not at h
    exact iff_of_true rfl ⟨fun hv => h.1 (String.isEmpty_iff.mpr hv), h.2.1, h.2.2⟩

theorem boundedString_of_get {object : JsonObject} {key value : String} {maximum : ℕ}
    (hget : object.get key = some (.string value))
    (hvalue : validateBoundedText value maximum = .ok ()) :
    boundedString object key maximum = .ok value := by
  rw [boundedString, hget]
  exact check_then_eq_ok.mpr ⟨hvalue, rfl⟩

theorem decodeEvent_album (album : LibraryAlbum) (label : String)
    (hid : validateBoundedText album.localIdentifier 512 = .ok ())
    (hlabel : validateBoundedText label 512 = .ok ()) :
    decodeEvent (controlEvent identity (.album album label)) .listAlbums "album" =
      .ok (.album ⟨album.localIdentifier, label⟩) := by
  have hkeys : exactKeys (controlEvent identity (.album album label))
      ["album_identifier", "label"] = .ok () := if_pos ⟨rfl, rfl⟩
  have hid : boundedString (controlEvent identity (.album album label)) "album_identifier" 512 =
      .ok album.localIdentifier := boundedString_of_get rfl hid
  have hlabel : boundedString (controlEvent identity (.album album label)) "label" 512 =
      .ok label := boundedString_of_get rfl hlabel
  exact check_then_eq_ok.mpr ⟨hkeys, check_then_eq_ok.mpr ⟨rfl,
    check_bind_eq_ok.mpr ⟨_, hid, check_bind_eq_ok.mpr ⟨_, hlabel, rfl⟩⟩⟩⟩

theorem decodeEvent_fail :
    decodeEvent (controlEvent identity (.fail "invalid_album")) .listAlbums "operation_terminal" =
      .ok (.terminal (.failed "invalid_album")) := by
  rfl

theorem decodeEvent_complete {count : ℕ} {truncated : Bool} (hcount : count ≤ PHOTOKIT_MAX_ALBUMS) :
    decodeEvent (controlEvent identity (.complete [("album_count", .unsigned count),
      ("truncated", .bool truncated)])) .listAlbums "operation_terminal" =
      .ok (.terminal (.albums count truncated)) := by
  have hterminal : decodeCompleted (controlEvent identity (.complete
      [("album_count", .unsigned count), ("truncated", .bool truncated)])) .listAlbums =
      .ok (.albums count truncated) :=
    check_then_eq_ok.mpr ⟨if_pos ⟨rfl, rfl⟩, check_bind_eq_ok.mpr ⟨count, if_pos hcount, rfl⟩⟩
  exact check_bind_eq_ok.mpr ⟨"completed", rfl, check_bind_eq_ok.mpr ⟨_, hterminal, rfl⟩⟩

def LibraryAlbum.native (album : LibraryAlbum) : PhotoKitNativeAlbum :=
  ⟨album.localIdentifier, trimmingCharacters album.title⟩

/-- The bridge and the decoder accept the album. -/
def LibraryAlbum.Sent (album : LibraryAlbum) : Prop :=
  (boundedLabel album.title).isSome ∧ boundedIdentifier album.localIdentifier

instance (album : LibraryAlbum) : Decidable album.Sent := inferInstanceAs (Decidable (_ ∧ _))

theorem boundedLabel_eq_some {title label : String} (h : boundedLabel title = some label) :
    label = trimmingCharacters title ∧ validateBoundedText label 512 = .ok () := by
  simp only [boundedLabel] at h
  split at h
  · rename_i hbounds
    cases h
    exact ⟨rfl, validateBoundedText_eq_ok.mpr hbounds⟩
  · cases h

theorem receiveEvents_cons {e : EmittedEvent} {rest : List EmittedEvent} {event : NativeEvent}
    {consumer : Consumer}
    (hevent : decodeEvent (controlEvent identity e) .listAlbums e.event = .ok event) :
    receiveEvents identity (e :: rest) consumer =
      ((consumer.consume noSinks event ()).1 >>= receiveEvents identity rest) := by
  rw [receiveEvents, hevent]
  rfl

theorem receiveEvents_emitAlbums {count : ℕ} {truncated : Bool} {library : List LibraryAlbum}
    {received : List PhotoKitNativeAlbum}
    (hcount : received.length + library.length = count) (hmax : count ≤ PHOTOKIT_MAX_ALBUMS) :
    receiveEvents identity (emitAlbums (.complete [("album_count", .unsigned count),
        ("truncated", .bool truncated)]) library) (.albums received none) =
      if ∀ album ∈ library, album.Sent then .ok (.albums (received ++ library.map LibraryAlbum.native))
      else .error .unavailable := by
  induction library generalizing received with
  | nil =>
    rw [emitAlbums, receiveEvents_cons (decodeEvent_complete hmax)]
    have hcount : count = received.length := hcount.symm
    rw [if_pos (by simp)]
    simp [Consumer.consume, Consumer.consumeAlbum, receiveEvents, Consumer.conclude,
      hcount, bind, Except.bind]
  | cons album rest ih =>
    have hfail (hnot : ¬ album.Sent) :
        receiveEvents identity [.fail "invalid_album"] (.albums received none) =
          if ∀ a ∈ album :: rest, a.Sent then
            .ok (.albums (received ++ (album :: rest).map LibraryAlbum.native))
          else .error .unavailable := by
      rw [receiveEvents_cons decodeEvent_fail, if_neg fun h => hnot (h album mem_cons_self)]
      rfl
    rw [emitAlbums]
    rcases hlabel : boundedLabel album.title with _ | label
    · exact hfail fun h => by simp [LibraryAlbum.Sent, hlabel] at h
    · dsimp only
      by_cases hidentifier : boundedIdentifier album.localIdentifier
      · rw [if_pos hidentifier]
        obtain ⟨rfl, hbounds⟩ := boundedLabel_eq_some hlabel
        have hlength : received.length < PHOTOKIT_MAX_ALBUMS := by
          rw [length_cons] at hcount
          omega
        have hconsume : (Consumer.albums received none).consume noSinks
            (.album album.native) () = (.ok (.albums (received ++ [album.native]) none), ()) := by
          simp [Consumer.consume, Consumer.consumeAlbum, hlength]
        have hsent : album.Sent := ⟨by rw [hlabel]; rfl, hidentifier⟩
        rw [receiveEvents_cons (decodeEvent_album album _
          (validateBoundedText_eq_ok.mpr hidentifier) hbounds)]
        refine (congrArg (·.1 >>= receiveEvents identity _) hconsume).trans ?_
        have hcount : (received ++ [album.native]).length + rest.length = count := by
          rw [← hcount]
          simp only [length_append, length_cons, length_nil]
          omega
        refine (ih hcount).trans ?_
        simp [hsent]
      · rw [if_neg hidentifier]
        exact hfail fun h => hidentifier h.2

theorem listRegularAlbums_eq (identity : RequestIdentity) (library : List LibraryAlbum) :
    listRegularAlbums identity (listAlbums library) =
      if ∀ album ∈ library.take maximumAlbums, album.Sent then
        .ok ((library.take maximumAlbums).map LibraryAlbum.native)
      else .error .unavailable := by
  have hlength : (library.take maximumAlbums).length = min library.length maximumAlbums := by
    rw [length_take, Nat.min_comm]
  have hcount : ([] : List PhotoKitNativeAlbum).length + (library.take maximumAlbums).length =
      min library.length maximumAlbums := by
    rw [length_nil, hlength, Nat.zero_add]
  rw [listRegularAlbums, listAlbums]
  dsimp only [Call.consumer]
  rw [receiveEvents_emitAlbums hcount (Nat.min_le_right _ _)]
  by_cases hsent : ∀ album ∈ library.take maximumAlbums, album.Sent
  · rw [if_pos hsent, if_pos hsent]
    rfl
  · rw [if_neg hsent, if_neg hsent]
    rfl

end Decoding

/-! ## What the contract makes of a label -/

def Acceptable (album : PhotoKitNativeAlbum) : Prop :=
  ¬ (album.albumLocator = "" ∨ byteLength album.albumLocator > 1024) ∧
    ¬ (album.label.length > MAX_PHOTOKIT_ALBUM_LABEL_CHARS ∨
      ¬ (⟨"", album.label⟩ : PhotoKitAlbumCandidateV1).isValid)

/-- **An album every layer accepts**: its identifier is bounded, and its trimmed title has between
one and eighty characters, no control character among them. -/
def LibraryAlbum.Listable (album : LibraryAlbum) : Prop :=
  boundedIdentifier album.localIdentifier ∧
    let label := (trimmingCharacters album.title).toList
    1 ≤ label.length ∧ label.length ≤ MAX_PHOTOKIT_ALBUM_LABEL_CHARS ∧
      ∀ c ∈ label, isControl c = false

theorem utf8Len_le {cs : List Char} {k : ℕ} (h : ∀ c ∈ cs, c.utf8Size ≤ k) :
    String.utf8Len cs ≤ k * cs.length := by
  induction cs with
  | nil => simp
  | cons c cs ih =>
    have hc := h c mem_cons_self
    have hcs := ih fun d hd => h d (.tail _ hd)
    rw [String.utf8Len_cons, length_cons, Nat.mul_succ]
    omega

theorem head?_trimmed (cs : List Char) :
    ((cs.dropWhile isWhitespace).rdropWhile isWhitespace).head?.all (!isWhitespace ·) = true := by
  rcases htrimmed : (cs.dropWhile isWhitespace).rdropWhile isWhitespace with _ | ⟨c, rest⟩
  · rfl
  · obtain ⟨tail, htail⟩ := List.rdropWhile_prefix isWhitespace (cs.dropWhile isWhitespace)
    rw [htrimmed, cons_append] at htail
    have hne : cs.dropWhile isWhitespace ≠ [] := by simp [← htail]
    have hhead := head_dropWhile_not isWhitespace hne
    simp only [← htail, head_cons] at hhead
    simp [hhead]

theorem getLast?_trimmed (cs : List Char) :
    ((cs.dropWhile isWhitespace).rdropWhile isWhitespace).getLast?.all (!isWhitespace ·) = true := by
  by_cases hne : (cs.dropWhile isWhitespace).rdropWhile isWhitespace = []
  · rw [hne]
    rfl
  · rw [getLast?_eq_some_getLast hne]
    simpa using rdropWhile_last_not isWhitespace _ hne

theorem isValid_trimmed (token title : String) :
    (⟨token, trimmingCharacters title⟩ : PhotoKitAlbumCandidateV1).isValid = true ↔
      1 ≤ (trimmingCharacters title).toList.length ∧
        (trimmingCharacters title).toList.length ≤ MAX_PHOTOKIT_ALBUM_LABEL_CHARS ∧
        ∀ c ∈ (trimmingCharacters title).toList, isControl c = false := by
  have hhead := head?_trimmed title.toList
  have hlast := getLast?_trimmed title.toList
  simp [PhotoKitAlbumCandidateV1.isValid, trimmingCharacters, hhead, hlast, and_assoc]

theorem listable_iff (album : LibraryAlbum) :
    album.Listable ↔ album.Sent ∧ Acceptable album.native := by
  have hbytes (label : String) (h : label.toList.length ≤ MAX_PHOTOKIT_ALBUM_LABEL_CHARS) :
      byteLength label ≤ maximumLabelBytes := by
    have hle := utf8Len_le fun (c : Char) (_ : c ∈ label.toList) => Char.utf8Size_le_four c
    rw [byteLength, ← String.ofList_toList (s := label), String.utf8ByteSize_ofList]
    exact hle.trans ((Nat.mul_le_mul_left 4 h).trans (by decide))
  have hnative : Acceptable album.native ↔
      ¬ (album.localIdentifier = "" ∨ byteLength album.localIdentifier > 1024) ∧
        (trimmingCharacters album.title).toList.length ≤ MAX_PHOTOKIT_ALBUM_LABEL_CHARS ∧
        (⟨"", trimmingCharacters album.title⟩ : PhotoKitAlbumCandidateV1).isValid = true := by
    simp [Acceptable, LibraryAlbum.native, ← String.length_toList]
  rw [hnative, isValid_trimmed]
  constructor
  · rintro ⟨hidentifier, hshort, hlong, hcontrol⟩
    have hlabel : trimmingCharacters album.title ≠ "" := fun h => by simp [h] at hshort
    have hnul : Char.ofNat 0 ∉ (trimmingCharacters album.title).toList := fun h =>
      absurd (hcontrol _ h) (by decide)
    refine ⟨⟨?_, hidentifier⟩, ?_, hlong, hshort, hlong, hcontrol⟩
    · simp only [boundedLabel]
      rw [if_pos ⟨hlabel, hbytes _ hlong, hnul⟩]
      rfl
    · rintro (hempty | hlarge)
      · exact hidentifier.1 hempty
      · exact absurd (hidentifier.2.1.trans (by decide : _ ≤ 1024)) (not_le.mpr hlarge)
  · rintro ⟨⟨-, hidentifier⟩, -, -, hlabel⟩
    exact ⟨hidentifier, hlabel⟩


/-! ## Choosing an offered album -/

section Choosing

open Setup

variable {services : SetupServices} {r : SetupRuntime}

/-- The token configures this album: a choice of it before the end of the session, answered while
the library is authorized, gives the command for the album. -/
def Configures (services : SetupServices) (r : SetupRuntime)
    (setupSessionId selectionToken albumLocator : String) (expiresAtMs : ℤ) : Prop :=
  ∀ (call : ConfigureScopeCall) (envelopeHash : String) (nowMs : ℤ),
    call.entry = ⟨.ok (), .ok envelopeHash, .ok nowMs, .ok ()⟩ → nowMs < expiresAtMs →
    call.setupSessionId = setupSessionId → call.selectionToken = selectionToken →
    call.receipt = .ok none → call.authorization = .ok .authorized →
    (configureScope services call r).2.commands =
      r.commands ++ [⟨setupSessionId, selectionToken, albumLocator, nowMs⟩]

theorem takeSession_commands {call : ConfigureScopeCall} {nowMs : ℤ} {session : SetupSession}
    {albumLocator : String}
    (hsession : r.setup.sessions.find? call.setupSessionId = some session)
    (htoken : session.albumsByToken.find? call.selectionToken = some albumLocator) :
    (takeSession services call nowMs r).2.commands =
      r.commands ++ [⟨call.setupSessionId, call.selectionToken, albumLocator, nowMs⟩] := by
  have hbind {α β : Type} {x : Setup α} {f : α → Setup β} (hx : Fallible.Steps Eq x)
      (hf : ∀ a, Fallible.Steps Eq (f a)) : Fallible.Steps Eq (x >>= f) :=
    Fallible.Steps.bind (R := Eq) (fun _ _ _ => Eq.trans) hx hf
  -- what follows the command leaves the state alone
  have hrest : Fallible.Steps Eq (do
      let response ← ask call.response
      storedResponse (response.validate services.isTimestamp).isOk response call.stored :
        Setup ConfigurePhotoKitScopeV1Response) :=
    hbind (.check (R := Eq) (fun _ => rfl) _) fun _ =>
      hbind (.rejectIf (R := Eq) (fun _ => rfl) _ _) fun _ =>
        hbind (.check (R := Eq) (fun _ => rfl) _) fun _ =>
          hbind (.rejectIf (R := Eq) (fun _ => rfl) _ _) fun _ => .pure (R := Eq) (fun _ => rfl) _
  rw [takeSession, state_bind, hsession]
  dsimp only
  unfold change
  rw [update_bind, htoken]
  exact congrArg SetupRuntime.commands (hrest _).symm

theorem configures_of_held {setupSessionId token albumLocator : String} {expiresAtMs : ℤ}
    {albumsByToken : Table String String}
    (hsession : r.setup.sessions.find? setupSessionId = some ⟨expiresAtMs, albumsByToken⟩)
    (htoken : albumsByToken.find? token = some albumLocator)
    (hnew : r.setup.consumedTokens.find? token = none) :
    Configures services r setupSessionId token albumLocator expiresAtMs := by
  intro call envelopeHash nowMs hentry htimely hid hselected hreceipt hauthorization
  have henter : call.entry.enter r = (.ok (envelopeHash, nowMs), r) := by rw [hentry]; rfl
  let now : SetupRuntime := { r with setup := r.setup.expire nowMs }
  have hheld : now.setup.sessions.find? call.setupSessionId = some ⟨expiresAtMs, albumsByToken⟩ := by
    have hfilter := find?_deleteWhere (fun s : SetupSession => s.expiresAtMs ≤ nowMs)
      r.setup.sessions call.setupSessionId
    rw [hid, hsession, Option.filter_some, if_pos (by simpa using htimely)] at hfilter
    rw [hid]
    exact hfilter
  have hfresh : now.setup.consumedTokens.find? call.selectionToken = none := by
    have hfilter := find?_deleteWhere (fun e : ℤ => e ≤ nowMs) r.setup.consumedTokens token
    rw [hnew] at hfilter
    rw [hselected]
    exact hfilter
  have hchoose : (chooseAlbum services call nowMs now).2.commands =
      r.commands ++ [⟨setupSessionId, token, albumLocator, nowMs⟩] := by
    rw [chooseAlbum, state_bind, refuse_bind, hfresh, hheld]
    dsimp only
    rw [if_neg (by simp), if_neg (not_le.mpr htimely), refuse_bind, hselected, htoken,
      if_neg (by simp), hauthorization]
    subst hid hselected
    exact takeSession_commands hheld htoken
  have hrun : configureScope services call r = chooseAlbum services call nowMs now := by
    rw [configureScope, bind_of_ok henter, hreceipt]
    rfl
  rw [hrun, hchoose]

end Choosing

/-! ## Offering the albums -/

section Offering

open Setup

variable {services : SetupServices} {r r' : SetupRuntime} {albumsByToken : Table String String}
  {start : ℕ} {albums : List PhotoKitNativeAlbum}

def offersFrom (services : SetupServices) : ℕ → List PhotoKitNativeAlbum →
    List PhotoKitAlbumCandidateV1
  | _, [] => []
  | drawn, album :: rest => ⟨services.uuids drawn, album.label⟩ :: offersFrom services (drawn + 1) rest

theorem offersFrom_tokens (services : SetupServices) (drawn : ℕ) (albums : List PhotoKitNativeAlbum) :
    (offersFrom services drawn albums).map (·.selectionToken) =
      (range' drawn albums.length).map services.uuids := by
  induction albums generalizing drawn with
  | nil => rfl
  | cons album rest ih => simp [offersFrom, ih, range'_succ]

theorem mem_offersFrom {drawn : ℕ} {offer : PhotoKitAlbumCandidateV1}
    (haccept : ∀ album ∈ albums, Acceptable album) (h : offer ∈ offersFrom services drawn albums) :
    offer.isValid = true ∧ ∃ i, drawn ≤ i ∧ offer.selectionToken = services.uuids i := by
  induction albums generalizing drawn with
  | nil => cases h
  | cons album rest ih =>
    rcases mem_cons.mp h with rfl | h
    · have hlabel := (haccept album mem_cons_self).2
      push Not at hlabel
      exact ⟨hlabel.2, drawn, le_rfl, rfl⟩
    · obtain ⟨hvalid, i, hi, htoken⟩ := ih (fun a ha => haccept a (.tail _ ha)) h
      exact ⟨hvalid, i, by omega, htoken⟩

theorem issueTokens_run (hinj : Function.Injective services.uuids)
    (candidates : List PhotoKitAlbumCandidateV1) (hstart : start ≤ r.drawn)
    (h : DrawnSince services start r.drawn albumsByToken)
    (htokens : ∀ i < r.drawn + albums.length, isSelectionToken (services.uuids i))
    (haccept : ∀ album ∈ albums, Acceptable album) :
    ∃ issued, issueTokens services albums albumsByToken candidates r =
        (.ok (issued, candidates ++ offersFrom services r.drawn albums),
          { r with drawn := r.drawn + albums.length }) ∧
      (∀ token l, albumsByToken.find? token = some l → issued.find? token = some l) ∧
      List.Forall₂ (fun offer album => offer.displayLabel = album.label ∧
          issued.find? offer.selectionToken = some album.albumLocator)
        (offersFrom services r.drawn albums) albums := by
  induction albums generalizing albumsByToken candidates r with
  | nil => exact ⟨albumsByToken, by simp [issueTokens, offersFrom], fun _ _ => id, .nil⟩
  | cons album rest ih =>
    obtain ⟨hlocator, hlabel⟩ := haccept album mem_cons_self
    have hlength : (album :: rest).length = rest.length + 1 := rfl
    have hdraw := drawToken_run hinj h albumsByToken.len
    rw [if_pos (htokens _ (by omega))] at hdraw
    obtain ⟨issued, hrun, hkept, hissued⟩ := ih (r := { r with drawn := r.drawn + 1 })
      (candidates ++ [⟨services.uuids r.drawn, album.label⟩]) (Nat.le_succ_of_le hstart)
      (h.put hstart album.albumLocator) (fun i hi => htokens i (by dsimp only at hi; omega))
      fun a ha => haccept a (.tail _ ha)
    have hfirst : issued.find? (services.uuids r.drawn) = some album.albumLocator :=
      hkept _ _ (by rw [find?_put, if_pos rfl])
    refine ⟨issued, ?_, fun token l hl => hkept _ _ ?_, .cons ⟨rfl, hfirst⟩ hissued⟩
    · rw [issueTokens, refuse_bind, if_neg hlocator, bind_of_ok hdraw, refuse_bind]
      refine ((if_neg hlabel).trans hrun).trans ?_
      simp [offersFrom, hlength, Nat.add_assoc, Nat.add_comm 1]
    · obtain ⟨i, -, hi, htoken⟩ := h token l hl
      rw [find?_put, if_neg (fun heq => absurd (hinj (htoken.symm.trans heq)) (by omega)), hl]

theorem acceptable_of_issueTokens {candidates : List PhotoKitAlbumCandidateV1}
    {out : Table String String × List PhotoKitAlbumCandidateV1}
    (h : issueTokens services albums albumsByToken candidates r = (.ok out, r')) :
    ∀ album ∈ albums, Acceptable album := by
  induction albums generalizing albumsByToken candidates r with
  | nil => simp
  | cons album rest ih =>
    rw [issueTokens, refuse_bind] at h
    split at h
    · cases h
    rename_i hlocator
    obtain ⟨token, s, -, h⟩ := bind_eq_ok.mp h
    rw [refuse_bind] at h
    split at h
    · cases h
    · rename_i hlabel
      exact forall_mem_cons.mpr ⟨⟨hlocator, hlabel⟩, ih h⟩

variable {call : BeginSetupCall} {envelopeHash expiresAt : String} {nowMs laterMs : ℤ}
  {snapshot : PhotoKitConnectorSnapshotV1}

/-- **A setup that finds everything in order** but, possibly, the albums: the request is new, the
library is authorized, the clock works, its time has a format, and the UUIDs are new tokens. -/
structure InOrder (services : SetupServices) (call : BeginSetupCall) (r : SetupRuntime)
    (envelopeHash : String) (nowMs laterMs : ℤ) (expiresAt : String)
    (snapshot : PhotoKitConnectorSnapshotV1) : Prop where
  uuids : Function.Injective services.uuids
  tokens : ∀ i ≤ r.drawn + maximumAlbums, isSelectionToken (services.uuids i)
  sound : r.Sound services
  entry : call.entry = ⟨.ok (), .ok envelopeHash, .ok nowMs, .ok ()⟩
  fresh : (r.setup.expire nowMs).beginReplays.find? call.requestId.text = none
  authorization : call.authorization = .ok .authorized
  reads : call.snapshot = .ok snapshot
  authorized : snapshot.authorization = .authorized
  valid : (snapshot.validate services.isTimestamp).isOk
  clock : call.laterMs = .ok laterMs
  representable : laterMs + SETUP_SESSION_MILLIS ≤ i64Max
  format : services.formatTimestamp (laterMs + SETUP_SESSION_MILLIS) = .ok expiresAt
  timestamp : services.isTimestamp expiresAt

def answerSetup (services : SetupServices) (call : BeginSetupCall) (envelopeHash : String)
    (snapshot : PhotoKitConnectorSnapshotV1) (setupSessionId expiresAt : Option String)
    (albumCandidates : List PhotoKitAlbumCandidateV1) (replayExpiresAtMs : ℤ) :
    Setup BeginPhotoKitSetupV1Response := do
  let response : BeginPhotoKitSetupV1Response :=
    { schemaVersion := schemaVersionV1, requestId := call.requestId, snapshot, setupSessionId
      expiresAt, albumCandidates, replayStatus := .created }
  refuse .dataIntegrity (¬ response.isValid services.isTimestamp)
  loop (SetupMemory.insertBeginReplay call.requestId.text
    ⟨envelopeHash, replayExpiresAtMs, response⟩)
  pure response

theorem InOrder.beginSetup_eq
    (h : InOrder services call r envelopeHash nowMs laterMs expiresAt snapshot) :
    beginSetup services call r = (openSession services call >>= fun (sessionId, stamp, offers, ms) =>
      answerSetup services call envelopeHash snapshot sessionId stamp offers ms)
        { r with setup := r.setup.expire nowMs } := by
  have henter : call.entry.enter r = (.ok (envelopeHash, nowMs), r) := by rw [h.entry]; rfl
  rw [beginSetup, bind_of_ok henter]
  dsimp only
  unfold change
  rw [update_bind, state_bind]
  dsimp only
  rw [h.fresh]
  dsimp only
  rw [h.authorization, h.reads]
  rfl

theorem InOrder.acceptable
    (h : InOrder services call r envelopeHash nowMs laterMs expiresAt snapshot)
    {response : BeginPhotoKitSetupV1Response} (hok : (beginSetup services call r).1 = .ok response) :
    ∃ albums, call.albums = .ok albums ∧ ∀ album ∈ albums, Acceptable album := by
  have hrun := Prod.ext (y := (Except.ok response, (beginSetup services call r).2)) hok rfl
  rw [h.beginSetup_eq] at hrun
  obtain ⟨out, s, hopen, -⟩ := Fallible.bind_eq_ok.mp hrun
  rw [openSession] at hopen
  obtain ⟨albums, hanswer, hopen⟩ := Fallible.check_bind_eq_ok.mp hopen
  rw [refuse_bind] at hopen
  split at hopen
  · cases hopen
  obtain ⟨e, -, hopen⟩ := Fallible.check_bind_eq_ok.mp hopen
  obtain ⟨sessionId, s', -, hopen⟩ := Fallible.bind_eq_ok.mp hopen
  obtain ⟨issued, s'', hissue, -⟩ := Fallible.bind_eq_ok.mp hopen
  refine ⟨albums, ?_, acceptable_of_issueTokens hissue⟩
  rcases hcall : call.albums with e | listed
  · simp [hcall, Except.mapError] at hanswer
  · simpa [hcall, Except.mapError] using hanswer

theorem InOrder.openSession_run
    (h : InOrder services call r envelopeHash nowMs laterMs expiresAt snapshot)
    (hsound : r'.Sound services) (hdrawn : r'.drawn = r.drawn) (halbums : call.albums = .ok albums)
    (hmax : albums.length ≤ MAX_PHOTOKIT_ALBUM_CANDIDATES)
    (haccept : ∀ album ∈ albums, Acceptable album) :
    ∃ issued m, openSession services call r' = (.ok (some (services.uuids r.drawn), some expiresAt,
            offersFrom services (r.drawn + 1) albums, laterMs + SETUP_SESSION_MILLIS),
          { r' with drawn := r.drawn + 1 + albums.length, setup := m }) ∧
      m.Bounded ∧ m.consumedTokens = r'.setup.consumedTokens ∧
      m.sessions.find? (services.uuids r.drawn) = some ⟨laterMs + SETUP_SESSION_MILLIS, issued⟩ ∧
      List.Forall₂ (fun offer album => offer.displayLabel = album.label ∧
          issued.find? offer.selectionToken = some album.albumLocator)
        (offersFrom services (r.drawn + 1) albums) albums := by
  have hlist : ask call.albums r' = (.ok albums, r') := by rw [halbums]; rfl
  have hclock : ask (call.laterMs >>= sessionEnd) r' =
      (.ok (laterMs + SETUP_SESSION_MILLIS), r') := by
    have hend : sessionEnd laterMs = .ok (laterMs + SETUP_SESSION_MILLIS) :=
      if_neg (not_lt.mpr h.representable)
    rw [h.clock]
    exact congrArg (fun answer => ask answer r') hend
  have hdraw : drawUuid services r' = (.ok (services.uuids r.drawn), { r' with drawn := r.drawn + 1 }) := by
    rw [← hdrawn]
    rfl
  have hempty : DrawnSince services r.drawn (r.drawn + 1) empty := fun _ _ h => by simp at h
  obtain ⟨issued, hissue, -, hissued⟩ := issueTokens_run (r := { r' with drawn := r.drawn + 1 })
    h.uuids [] (Nat.le_succ _) hempty
    (fun i hi => h.tokens i (by
      have hmax : albums.length ≤ maximumAlbums := hmax
      dsimp only at hi
      omega)) haccept
  obtain ⟨m, hinsert, hbounded, hheld, hspent, -, -⟩ := hsound.bounded.insertSession
    (services.uuids r.drawn) ⟨laterMs + SETUP_SESSION_MILLIS, issued⟩
  refine ⟨issued, m, ?_, hbounded, hspent, hheld, hissued⟩
  rw [openSession, bind_of_ok hlist, refuse_bind, if_neg (not_lt.mpr hmax),
    bind_of_ok hclock, bind_of_ok hdraw, bind_of_ok hissue]
  dsimp only
  have hloop : loop (SetupMemory.insertSession (services.uuids r.drawn)
      ⟨laterMs + SETUP_SESSION_MILLIS, issued⟩) { r' with drawn := r.drawn + 1 + albums.length } =
      (.ok (), { r' with drawn := r.drawn + 1 + albums.length, setup := m }) := by
    rw [loop, hinsert]
  rw [bind_of_ok hloop, h.format]
  rfl

/-- What is offered, and what each offer configures. -/
def Offers (services : SetupServices) (call : BeginSetupCall) (laterMs : ℤ) (r : SetupRuntime)
    (library : List LibraryAlbum) : Prop :=
  ∃ response setupSessionId, (beginSetup services call r).1 = .ok response ∧
    response.isValid services.isTimestamp ∧ response.setupSessionId = some setupSessionId ∧
    List.Forall₂ (fun offer album =>
        offer.displayLabel = trimmingCharacters album.title ∧ offer.isValid ∧
        Configures services (beginSetup services call r).2 setupSessionId offer.selectionToken
          album.localIdentifier (laterMs + SETUP_SESSION_MILLIS))
      response.albumCandidates (library.take maximumAlbums)

theorem InOrder.beginSetup_run
    (h : InOrder services call r envelopeHash nowMs laterMs expiresAt snapshot)
    (halbums : call.albums = .ok albums) (hmax : albums.length ≤ MAX_PHOTOKIT_ALBUM_CANDIDATES)
    (haccept : ∀ album ∈ albums, Acceptable album) :
    ∃ response issued m, beginSetup services call r =
        (.ok response, { r with drawn := r.drawn + 1 + albums.length, setup := m }) ∧
      response.isValid services.isTimestamp = true ∧
      response.setupSessionId = some (services.uuids r.drawn) ∧
      response.albumCandidates = offersFrom services (r.drawn + 1) albums ∧
      m.consumedTokens = (r.setup.expire nowMs).consumedTokens ∧
      m.sessions.find? (services.uuids r.drawn) = some ⟨laterMs + SETUP_SESSION_MILLIS, issued⟩ ∧
      List.Forall₂ (fun offer album => offer.displayLabel = album.label ∧
          issued.find? offer.selectionToken = some album.albumLocator)
        (offersFrom services (r.drawn + 1) albums) albums := by
  have hexpired : ({ r with setup := r.setup.expire nowMs } : SetupRuntime).Sound services :=
    (Sure.expire nowMs r h.sound).2.1
  obtain ⟨issued, m, hopen, hbounded, hspent, hheld, hissued⟩ :=
    h.openSession_run hexpired rfl halbums hmax haccept
  let response : BeginPhotoKitSetupV1Response :=
    { schemaVersion := schemaVersionV1, requestId := call.requestId, snapshot
      setupSessionId := some (services.uuids r.drawn), expiresAt := some expiresAt
      albumCandidates := offersFrom services (r.drawn + 1) albums, replayStatus := .created }
  have hvalid : response.isValid services.isTimestamp = true := by
    have htokens := offersFrom_tokens services (r.drawn + 1) albums
    have hlength := congrArg length htokens
    simp only [length_map, length_range'] at hlength
    have hnodup : ((offersFrom services (r.drawn + 1) albums).map (·.selectionToken)).Nodup := by
      rw [htokens]
      exact (nodup_range' ..).map h.uuids
    have hoffers : ∀ offer ∈ offersFrom services (r.drawn + 1) albums, offer.isValid = true :=
      fun offer hoffer => (mem_offersFrom haccept hoffer).1
    simp [BeginPhotoKitSetupV1Response.isValid, response, hlength, hmax, hnodup, h.valid,
      h.timestamp, h.authorized]
    exact hoffers
  obtain ⟨m', hreplay, -, hsessions, hconsumed⟩ := hbounded.insertBeginReplay call.requestId.text
    ⟨envelopeHash, laterMs + SETUP_SESSION_MILLIS, response⟩
  refine ⟨response, issued, m', ?_, hvalid, rfl, rfl, hconsumed.trans hspent, hsessions ▸ hheld,
    hissued⟩
  rw [h.beginSetup_eq, bind_of_ok hopen]
  dsimp only
  rw [answerSetup, refuse_bind, if_neg (not_not_intro hvalid)]
  have hloop (s : SetupRuntime) (hs : s.setup = m) : loop (SetupMemory.insertBeginReplay
      call.requestId.text ⟨envelopeHash, laterMs + SETUP_SESSION_MILLIS, response⟩) s =
      (.ok (), { s with setup := m' }) := by
    rw [loop, hs, hreplay]
  rw [bind_of_ok (hloop _ rfl)]
  rfl

theorem InOrder.offers (h : InOrder services call r envelopeHash nowMs laterMs expiresAt snapshot)
    {library : List LibraryAlbum}
    (halbums : call.albums = .ok ((library.take maximumAlbums).map LibraryAlbum.native))
    (hlistable : ∀ album ∈ library.take maximumAlbums, album.Listable) :
    Offers services call laterMs r library := by
  have haccept : ∀ album ∈ (library.take maximumAlbums).map LibraryAlbum.native, Acceptable album := by
    intro album halbum
    obtain ⟨album, hlisted, rfl⟩ := mem_map.mp halbum
    exact ((listable_iff album).mp (hlistable album hlisted)).2
  have hmax : ((library.take maximumAlbums).map LibraryAlbum.native).length ≤
      MAX_PHOTOKIT_ALBUM_CANDIDATES := by
    rw [length_map]
    exact length_take_le _ _
  obtain ⟨response, issued, m, hrun, hvalid, hid, hcandidates, hspent, hheld, hissued⟩ :=
    h.beginSetup_run halbums hmax haccept
  refine ⟨response, services.uuids r.drawn, by rw [hrun], hvalid, hid, ?_⟩
  rw [hrun, hcandidates]
  have hoffers := (forall₂_and_left _ _).mpr
    ⟨fun offer hoffer => mem_offersFrom haccept hoffer, forall₂_map_right_iff.mp hissued⟩
  refine hoffers.imp fun offer album ⟨⟨hoffer, i, hi, htoken⟩, hlabel, hfind⟩ =>
    ⟨hlabel, hoffer, configures_of_held hheld hfind ?_⟩
  -- the tokens consumed so far were drawn before
  rcases hfound : m.consumedTokens.find? offer.selectionToken with _ | e
  · rfl
  · rw [hspent] at hfound
    obtain ⟨j, hj, htoken'⟩ := h.sound.spent (SetupMemory.find?_of_deleteWhere hfound)
    exact absurd (h.uuids (htoken.symm.trans htoken')) (by omega)

end Offering

/-! ## Which libraries are offered -/

section Library

variable {services : SetupServices} {call : BeginSetupCall} {r : SetupRuntime}
  {envelopeHash expiresAt : String} {nowMs laterMs : ℤ} {snapshot : PhotoKitConnectorSnapshotV1}
  {library : List LibraryAlbum}

/-- **A setup offers the albums of a library exactly if each of the first hundred is listable**, by
its identifier and its trimmed title. Otherwise it offers none. -/
theorem offers_iff (identity : RequestIdentity)
    (h : InOrder services call r envelopeHash nowMs laterMs expiresAt snapshot)
    (halbums : call.albums = listRegularAlbums identity (listAlbums library)) :
    Offers services call laterMs r library ↔ ∀ album ∈ library.take maximumAlbums, album.Listable := by
  rw [listRegularAlbums_eq] at halbums
  constructor
  · rintro ⟨response, -, hok, -⟩
    obtain ⟨albums, hanswer, haccept⟩ := h.acceptable hok
    rw [halbums] at hanswer
    split at hanswer
    · rename_i hsent
      obtain rfl := Except.ok.inj hanswer
      exact fun album hlisted => (listable_iff album).mpr
        ⟨hsent album hlisted, haccept _ (List.mem_map_of_mem hlisted)⟩
    · cases hanswer
  · intro hlistable
    rw [if_pos fun album hlisted => ((listable_iff album).mp (hlistable album hlisted)).1] at halbums
    exact h.offers halbums hlistable

end Library

/-! ## A blank title -/

section Example

def setupOf (library : List LibraryAlbum) : BeginSetupCall where
  entry := enteredAt 0
  requestId := ReceiptUuidId.above 1
  authorization := .ok .authorized
  snapshot := .ok emptySnapshot
  albums := listRegularAlbums (.synthetic 1 2 1) (listAlbums library)
  laterMs := .ok 5

theorem setupOf_inOrder (library : List LibraryAlbum) :
    InOrder wornServices (setupOf library) .new "hash" 0 5 "2026-07-15T01:15:00Z" emptySnapshot where
  uuids := wornServices_injective
  tokens i hi := by
    have hi : i + 1 ≤ MAX_PHOTOKIT_SELECTION_TOKEN_BYTES := by
      simp only [SetupRuntime.new, maximumAlbums, MAX_PHOTOKIT_SELECTION_TOKEN_BYTES] at hi ⊢
      omega
    have hsize : ∀ c ∈ replicate (i + 1) 'u', c.utf8Size ≤ 1 := by
      intro c hc
      rw [eq_of_mem_replicate hc]
      decide
    have hlen := utf8Len_le hsize
    rw [length_replicate, Nat.one_mul] at hlen
    have hbytes : byteLength (String.ofList (replicate (i + 1) 'u')) ≤
        MAX_PHOTOKIT_SELECTION_TOKEN_BYTES := by
      rw [byteLength, String.utf8ByteSize_ofList]
      exact hlen.trans hi
    simp [isSelectionToken, wornServices, hbytes]
  sound := sound_new
  entry := rfl
  fresh := rfl
  authorization := rfl
  reads := rfl
  authorized := rfl
  valid := by decide
  clock := rfl
  representable := by decide
  format := rfl
  timestamp := rfl

def coats : LibraryAlbum := ⟨"album-1", some " Coats "⟩

def blank : LibraryAlbum := ⟨"album-2", some " "⟩

theorem offers_iff_coats : Offers wornServices (setupOf [coats]) 5 .new [coats] := by
  refine (offers_iff (.synthetic 1 2 1) (setupOf_inOrder [coats]) rfl).mpr ?_
  intro album halbum
  obtain rfl := List.mem_singleton.mp halbum
  exact ⟨by decide, by decide, by decide, by decide⟩

theorem blank_title_hides_coats :
    coats.Listable ∧ ¬ Offers wornServices (setupOf [coats, blank]) 5 .new [coats, blank] := by
  refine ⟨⟨by decide, by decide, by decide, by decide⟩, ?_⟩
  rintro ⟨response, -, hok, -⟩
  obtain ⟨albums, hanswer, -⟩ := (setupOf_inOrder [coats, blank]).acceptable hok
  have hnone : ¬ ∀ album ∈ [coats, blank].take maximumAlbums, album.Sent := by decide
  have hlisting := listRegularAlbums_eq (.synthetic 1 2 1) [coats, blank]
  rw [if_neg hnone] at hlisting
  cases hlisting.symm.trans hanswer

end Example

end Threadbook.PhotoKit
