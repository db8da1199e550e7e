import Threadbook.ReceiptContract

/-!
# Links in a projection

A `LinkIn` a text is `http://` or `https://`, in any letter case and anywhere,
followed by a visible character. The scheme scan sees the link through the maximal
run of scheme characters that ends at its colon, so a link is found when that run
starts with a letter and has at most 32 bytes (`LinkIn.uriAt_iff`); glued to a digit,
or at the end of a longer run, it is not. `link_rejected_iff` says when a projection
with a link is rejected.
-/

namespace Threadbook

structure LinkIn (text : String) where
  before : List Char
  word : List Char
  next : Char
  after : List Char
  splits : text.toList = before ++ word ++ "://".toList ++ next :: after
  /-- the scheme is `http` or `https` up to letter case -/
  scheme : word.map Char.toLower = "http".toList ∨ word.map Char.toLower = "https".toList
  visible : isWhitespace next = false

namespace LinkIn

variable {text : String}

/-- The bytes up to the run that ends at the link's colon. -/
def boundary (link : LinkIn text) : List UInt8 := (encode link.before).rdropWhile isSchemeCharacter

def run (link : LinkIn text) : List UInt8 :=
  (encode link.before).rtakeWhile isSchemeCharacter ++ encode link.word

def rest (link : LinkIn text) : List UInt8 := utf8Bytes "//" ++ encode (link.next :: link.after)

def Fits (link : LinkIn text) : Prop :=
  (∃ b, link.run.head? = some b ∧ Byte.isAsciiAlphabetic b = true) ∧ link.run.length ≤ 32

theorem encode_of_toLower {c d : Char} (h : c.toLower = d) (hlo : 'a' ≤ d) (hhi : d ≤ 'z') :
    ∃ b, String.utf8EncodeChar c = [b] ∧ Byte.isAsciiAlphabetic b = true := by
  have hlo' : 97 ≤ d.val.toNat := UInt32.le_iff_toNat_le.mp hlo
  have hhi' : d.val.toNat ≤ 122 := UInt32.le_iff_toNat_le.mp hhi
  have hrange : 65 ≤ c.val.toNat ∧ c.val.toNat ≤ 90 ∨ 97 ≤ c.val.toNat ∧ c.val.toNat ≤ 122 := by
    unfold Char.toLower at h
    split at h
    · rename_i hupper
      exact .inl ⟨UInt32.le_iff_toNat_le.mp hupper.1, UInt32.le_iff_toNat_le.mp hupper.2⟩
    · subst h
      exact .inr ⟨hlo', hhi'⟩
  have hsize : c.utf8Size = 1 := by
    have hle : c.val ≤ 127 := UInt32.le_iff_toNat_le.mpr (by simp only [UInt32.reduceToNat]; omega)
    simp [Char.utf8Size, hle]
  refine ⟨c.val.toUInt8, String.utf8EncodeChar_eq_singleton hsize, ?_⟩
  have hbyte : c.val.toUInt8.toNat = c.val.toNat := by
    rw [UInt32.toNat_toUInt8]
    omega
  simp only [Byte.isAsciiAlphabetic, Byte.isAsciiUppercase, Bool.or_eq_true, Bool.and_eq_true,
    decide_eq_true_eq, UInt8.le_iff_toNat_le, hbyte, UInt8.reduceToNat]
  exact hrange

theorem encode_of_map_toLower {word lower : List Char} (h : word.map Char.toLower = lower)
    (hlower : ∀ d ∈ lower, 'a' ≤ d ∧ d ≤ 'z') :
    ∀ b ∈ encode word, Byte.isAsciiAlphabetic b = true := by
  intro b hb
  obtain ⟨c, hc, hb⟩ := List.mem_flatMap.mp hb
  have hd := hlower c.toLower (h ▸ List.mem_map_of_mem hc)
  obtain ⟨b', hencode, hletter⟩ := encode_of_toLower rfl hd.1 hd.2
  rw [hencode, List.mem_singleton] at hb
  exact hb ▸ hletter

theorem encode_word (link : LinkIn text) : encode link.word ≠ [] ∧
    ∀ b ∈ encode link.word, Byte.isAsciiAlphabetic b = true := by
  constructor
  · rcases hw : link.word with _ | ⟨c, rest⟩
    · have hscheme := link.scheme
      rw [hw] at hscheme
      rcases hscheme with h | h <;> cases h
    · rw [encode_cons]
      simp
  · rcases link.scheme with h | h
    · exact encode_of_map_toLower h (by decide)
    · exact encode_of_map_toLower h (by decide)

theorem utf8Bytes_eq (link : LinkIn text) :
    utf8Bytes text = link.boundary ++ link.run ++ ':'.toUInt8 :: link.rest := by
  have hcolon : encode "://".toList = ':'.toUInt8 :: utf8Bytes "//" := by decide
  rw [utf8Bytes, link.splits, encode_append, encode_append, encode_append, hcolon, boundary, run,
    rest, ← List.append_assoc, List.rdropWhile_append_rtakeWhile]
  simp

theorem isRun (link : LinkIn text) :
    IsRun isSchemeCharacter link.boundary link.run (':'.toUInt8 :: link.rest) where
  inside := fun b hb => by
    rcases List.mem_append.mp hb with hb | hb
    · exact List.mem_rtakeWhile_imp hb
    · exact isSchemeCharacter_of_letter (link.encode_word.2 b hb)
  left := fun b hb => by
    have hne : link.boundary ≠ [] := fun hnil => by rw [hnil] at hb; cases hb
    have hlast := List.rdropWhile_last_not isSchemeCharacter (encode link.before) hne
    have hb' : (encode link.before |>.rdropWhile isSchemeCharacter).getLast hne = b :=
      Option.some.inj ((List.getLast?_eq_some_getLast hne).symm.trans hb)
    rw [hb'] at hlast
    simpa using hlast
  right := fun b hb => by
    cases hb
    decide

/-- **A link is found** exactly when its run fits. -/
theorem uriAt_iff (link : LinkIn text) : UriAt link.boundary link.run link.rest ↔ link.Fits := by
  have hslashes : link.rest = '/'.toUInt8 :: '/'.toUInt8 :: encode (link.next :: link.after) := by
    have h : utf8Bytes "//" = ['/'.toUInt8, '/'.toUInt8] := by decide
    rw [rest, h]
    rfl
  refine ⟨fun h => ⟨h.letter, h.short⟩, fun h => ⟨link.isRun, h.1, h.2, ?_, ?_⟩⟩
  · exact ⟨'/'.toUInt8, by rw [hslashes]; rfl, by decide⟩
  · have htake : link.rest.take 2 = utf8Bytes "//" := by
      rw [hslashes]
      rfl
    simp [isReportedScheme, htake]

end LinkIn

/-! ## When a projection with a link is rejected -/

def OtherAddress (text : String) : Prop :=
  (∃ before scheme after, utf8Bytes text = before ++ scheme ++ ':'.toUInt8 :: after ∧
    UriAt before scheme after ∧
      ∀ link : LinkIn text, ¬ (link.boundary = before ∧ link.run = scheme)) ∨
  ∃ before run after, utf8Bytes text = before ++ run ++ after ∧ WebAddressAt before run after

theorem containsUrlOrUri_iff {text : String} :
    containsUrlOrUri text = true ↔ (∃ link : LinkIn text, link.Fits) ∨ OtherAddress text := by
  rw [containsUrlOrUri, Bool.or_eq_true, containsUriScheme_iff, containsBareWebAddress_iff]
  constructor
  · rintro (⟨before, scheme, after, heq, huri⟩ | hweb)
    · by_cases hlink : ∃ link : LinkIn text, link.boundary = before ∧ link.run = scheme
      · obtain ⟨link, rfl, rfl⟩ := hlink
        have hrest : link.rest = after := by
          have hsplit := link.utf8Bytes_eq.symm.trans heq
          exact (List.cons.inj (List.append_cancel_left hsplit)).2
        exact .inl ⟨link, link.uriAt_iff.mp (hrest ▸ huri)⟩
      · exact .inr (.inl ⟨before, scheme, after, heq, huri, fun link h => hlink ⟨link, h⟩⟩)
    · exact .inr (.inr hweb)
  · rintro (⟨link, hfits⟩ | ⟨before, scheme, after, heq, huri, -⟩ | hweb)
    · exact .inl ⟨_, _, _, link.utf8Bytes_eq, link.uriAt_iff.mpr hfits⟩
    · exact .inl ⟨before, scheme, after, heq, huri⟩
    · exact .inr hweb

theorem rejected_iff {projection : ReceiptIntelligenceProjectionV1} :
    (∃ e, projection.validate = .error e) ↔
      (∃ fragment ∈ projection.fragments, ∃ link : LinkIn fragment.text, link.Fits) ∨
        ¬ projection.WellShaped ∨
        ∃ fragment ∈ projection.fragments, OtherAddress fragment.text := by
  have hrejected : (∃ e, projection.validate = .error e) ↔ ¬ projection.validate = .ok () := by
    rcases projection.validate with e | u <;> simp
  rw [hrejected, ReceiptIntelligenceProjectionV1.validate_eq_ok, not_and_or]
  simp only [not_forall, Bool.not_eq_false, containsUrlOrUri_iff]
  constructor
  · rintro (hshape | ⟨fragment, hf, hlink | hother⟩)
    · exact .inr (.inl hshape)
    · exact .inl ⟨fragment, hf, hlink⟩
    · exact .inr (.inr ⟨fragment, hf, hother⟩)
  · rintro (⟨fragment, hf, hlink⟩ | hshape | ⟨fragment, hf, hother⟩)
    · exact .inr ⟨fragment, hf, .inl hlink⟩
    · exact .inl hshape
    · exact .inr ⟨fragment, hf, .inr hother⟩

def HasLink (projection : ReceiptIntelligenceProjectionV1) : Prop :=
  ∃ fragment ∈ projection.fragments, Nonempty (LinkIn fragment.text)

/-- **When a projection with a link is rejected**: exactly when the run of some link
fits, or the shape of the projection is wrong, or there is another address in it. -/
theorem link_rejected_iff (projection : ReceiptIntelligenceProjectionV1) :
    (HasLink projection → ∃ e, projection.validate = .error e) ↔
      (HasLink projection →
        (∃ fragment ∈ projection.fragments, ∃ link : LinkIn fragment.text, link.Fits) ∨
          ¬ projection.WellShaped ∨
          ∃ fragment ∈ projection.fragments, OtherAddress fragment.text) :=
  imp_congr_right fun _ => rejected_iff

/-- A link glued to a digit, with a host name of one label. -/
def gluedLink : ReceiptIntelligenceProjectionV1 :=
  ⟨"receipt-intelligence-projection-v1", [⟨"fragment-0000", "1http://intranet/x"⟩]⟩

theorem gluedLink_accepted : ¬ ∀ projection : ReceiptIntelligenceProjectionV1,
    HasLink projection → ∃ e, projection.validate = .error e := by
  intro h
  have hlink : HasLink gluedLink :=
    ⟨_, List.mem_cons_self .., ⟨['1'], "http".toList, 'i', "ntranet/x".toList, by decide,
      by decide, by decide⟩⟩
  have hvalid : gluedLink.validate = .ok () := by decide
  obtain ⟨e, he⟩ := h gluedLink hlink
  rw [hvalid] at he
  cases he

end Threadbook
