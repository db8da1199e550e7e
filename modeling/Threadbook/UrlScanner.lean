import Mathlib.Data.List.DropRight
import Threadbook.Text

/-!
# The address scanner

The two scans a receipt text has to pass before it may be shown to a provider:
`containsUriScheme` looks for a scheme in front of a colon, `containsBareWebAddress`
for a host name without one. Both walk over the bytes with an index and boundary
tests; `containsUriScheme_iff` and `containsBareWebAddress_iff` say what they find in
terms of maximal runs of scheme and host characters.
-/

namespace Threadbook

open List

/-- Schemes recognised without `//`. -/
def uriSchemesWithoutAuthority : List String :=
  ["bitcoin", "blob", "cid", "data", "facetime", "facetime-audio", "file", "ftp", "ftps", "geo",
    "http", "https", "intent", "javascript", "ldap", "ldaps", "magnet", "mailto", "market",
    "mid", "news", "nntp", "sip", "sips", "sms", "smsto", "sftp", "ssh", "tel", "urn",
    "vbscript", "webcal", "ws", "wss"]

/-- Top-level domains recognised in a bare host name. -/
def commonOrReservedTlds : List String :=
  ["ai", "app", "au", "biz", "boutique", "br", "ca", "cc", "ch", "clothing", "cloud", "cn", "co",
    "com", "de", "dev", "dk", "edu", "email", "es", "eu", "example", "fashion", "fi", "fr",
    "gov", "hk", "ie", "in", "info", "invalid", "io", "it", "jp", "kr", "ly", "me", "mx", "net",
    "nl", "no", "nz", "online", "org", "sale", "se", "sg", "shoes", "shop", "site", "store",
    "tech", "test", "tv", "uk", "us", "website", "xyz"]

def asciiEqIgnoreCase (left right : List UInt8) : Bool :=
  left.length = right.length &&
    (left.zip right).all fun pair => Byte.toAsciiLowercase pair.1 == Byte.toAsciiLowercase pair.2

/-! ## Schemes -/

def isSchemeCharacter (b : UInt8) : Bool :=
  Byte.isAsciiAlphanumeric b || b == '+'.toUInt8 || b == '-'.toUInt8 || b == '.'.toUInt8

/-- The scheme is one the scanner reports: in front of `//`, listed, or with a
namespace character. -/
def isReportedScheme (scheme after : List UInt8) : Bool :=
  after.take 2 == utf8Bytes "//" ||
    uriSchemesWithoutAuthority.any (fun known => asciiEqIgnoreCase scheme (utf8Bytes known)) ||
    scheme.any fun b => b == '+'.toUInt8 || b == '-'.toUInt8 || b == '.'.toUInt8

/-- A scheme of at most 32 bytes starts here. The source's loop gives up after 33. -/
def uriSchemeAt (bytes : List UInt8) : Bool :=
  let scheme := bytes.take 1 ++ ((bytes.drop 1).take 32).takeWhile isSchemeCharacter
  let tail := bytes.drop scheme.length
  scheme.length ≤ 32 && tail.head? == some ':'.toUInt8 &&
    (tail.drop 1).head?.any (fun b => !Byte.isAsciiWhitespace b) &&
    isReportedScheme scheme (tail.drop 1)

/-- The scan for a scheme, from a place whose preceding byte is `previous`. -/
def containsUriSchemeFrom (previous : Option UInt8) : List UInt8 → Bool
  | [] => false
  | b :: rest =>
    (previous.all (fun x => !isSchemeCharacter x) && Byte.isAsciiAlphabetic b &&
      uriSchemeAt (b :: rest)) || containsUriSchemeFrom (some b) rest

def containsUriScheme (bytes : List UInt8) : Bool := containsUriSchemeFrom none bytes

/-! ## Host names -/

def isHostnameCharacter (b : UInt8) : Bool :=
  Byte.isAsciiAlphanumeric b || b == '-'.toUInt8 || b == '.'.toUInt8

def validHostnameLabel (label : List UInt8) : Bool :=
  label ≠ [] && label.length ≤ 63 && label.head?.any Byte.isAsciiAlphanumeric &&
    label.getLast?.any Byte.isAsciiAlphanumeric &&
    label.all fun b => Byte.isAsciiAlphanumeric b || b == '-'.toUInt8

/-- A top-level domain the scanner knows. -/
def isKnownTld (tld : List UInt8) : Bool :=
  (4 ≤ tld.length && asciiEqIgnoreCase (tld.take 4) (utf8Bytes "xn--") &&
    (tld.drop 4).all Byte.isAsciiAlphanumeric) ||
    commonOrReservedTlds.any fun known => asciiEqIgnoreCase tld (utf8Bytes known)

/-- What follows a host name continues it to a URL. -/
def hasUrlTail (tail : List UInt8) : Bool :=
  match tail.head? with
  | none => false
  | some b =>
    if b = '/'.toUInt8 ∨ b = '?'.toUInt8 ∨ b = '#'.toUInt8 then true
    else if b = ':'.toUInt8 then (tail.drop 1).head?.any Byte.isAsciiDigit
    else false

def labelValue (label : List UInt8) : ℕ :=
  label.foldl (fun value b => 10 * value + (b.toNat - '0'.toNat)) 0

def isIpv4Address (labels : List (List UInt8)) : Bool :=
  labels.length = 4 && labels.all fun label =>
    label ≠ [] && label.length ≤ 3 && label.all Byte.isAsciiDigit && labelValue label ≤ 255

/-- A run of host characters is an address; `before` is what precedes it, nearest
first, and `after` what follows. -/
def isWebAddress (before run after : List UInt8) : Bool :=
  let hostname := run.rdropWhile (· == '.'.toUInt8)
  let labels := hostname.splitOn '.'.toUInt8
  let precededByAt := before.head? == some '@'.toUInt8
  let protocolRelative := before.take 2 == utf8Bytes "//"
  let urlTail := hasUrlTail (run.drop hostname.length ++ after)
  let tld := labels.getLast?.getD []
  let alphabeticTld := 2 ≤ tld.length && tld.all Byte.isAsciiAlphabetic
  let wwwPrefixed := asciiEqIgnoreCase (labels.head?.getD []) (utf8Bytes "www")
  (2 ≤ labels.length && labels.all validHostnameLabel && (!precededByAt || urlTail) &&
      (isIpv4Address labels || isKnownTld tld || protocolRelative ||
        (wwwPrefixed && alphabeticTld) || (alphabeticTld && urlTail))) ||
    (asciiEqIgnoreCase hostname (utf8Bytes "localhost") && urlTail)

/-- The scan for host names, from a place preceded by `before`, nearest first; the
first `skip` bytes belong to a run already looked at. -/
def containsBareWebAddressFrom (before : List UInt8) : ℕ → List UInt8 → Bool
  | _, [] => false
  | skip + 1, b :: rest => containsBareWebAddressFrom (b :: before) skip rest
  | 0, b :: rest =>
    if Byte.isAsciiAlphanumeric b && before.head?.all (fun x => !isHostnameCharacter x) then
      let run := b :: rest.takeWhile isHostnameCharacter
      isWebAddress before run (rest.dropWhile isHostnameCharacter) ||
        containsBareWebAddressFrom (b :: before) (run.length - 1) rest
    else containsBareWebAddressFrom (b :: before) 0 rest

def containsBareWebAddress (bytes : List UInt8) : Bool := containsBareWebAddressFrom [] 0 bytes

def containsUrlOrUri (text : String) : Bool :=
  containsUriScheme (utf8Bytes text) || containsBareWebAddress (utf8Bytes text)

/-! ## What the scans find -/

structure UriAt (before scheme after : List UInt8) : Prop where
  run : IsRun isSchemeCharacter before scheme (':'.toUInt8 :: after)
  letter : ∃ b, scheme.head? = some b ∧ Byte.isAsciiAlphabetic b = true
  short : scheme.length ≤ 32
  follows : ∃ b, after.head? = some b ∧ Byte.isAsciiWhitespace b = false
  reported : isReportedScheme scheme after = true

theorem isSchemeCharacter_of_letter {b : UInt8} (h : Byte.isAsciiAlphabetic b = true) :
    isSchemeCharacter b = true := by
  simp [isSchemeCharacter, Byte.isAsciiAlphanumeric, h]

theorem uriSchemeAt_iff {b : UInt8} {rest : List UInt8} (hb : Byte.isAsciiAlphabetic b = true) :
    uriSchemeAt (b :: rest) = true ↔ ∃ scheme after, b :: rest = scheme ++ ':'.toUInt8 :: after ∧
      (∀ x ∈ scheme, isSchemeCharacter x = true) ∧ scheme ≠ [] ∧ scheme.length ≤ 32 ∧
      (∃ x, after.head? = some x ∧ Byte.isAsciiWhitespace x = false) ∧
      isReportedScheme scheme after = true := by
  have hcolon : isSchemeCharacter ':'.toUInt8 = false := by decide
  have hscheme : (b :: rest).take 1 ++
      (((b :: rest).drop 1).take 32).takeWhile isSchemeCharacter =
        b :: (rest.take 32).takeWhile isSchemeCharacter := rfl
  simp only [uriSchemeAt, hscheme, Bool.and_eq_true, decide_eq_true_eq, beq_iff_eq,
    Option.any_eq_true, Bool.not_eq_true']
  constructor
  · rintro ⟨⟨⟨hshort, hhead⟩, hfollows⟩, hreported⟩
    obtain ⟨after, htail⟩ : ∃ after, (b :: rest).drop
        (b :: (rest.take 32).takeWhile isSchemeCharacter).length = ':'.toUInt8 :: after := by
      rcases h : (b :: rest).drop _ with _ | ⟨c, after⟩ <;> rw [h] at hhead
      · cases hhead
      · exact ⟨after, by rw [Option.some.inj hhead]⟩
    rw [htail] at hfollows hreported
    refine ⟨b :: (rest.take 32).takeWhile isSchemeCharacter, after, ?_, ?_, by simp, hshort,
      hfollows, hreported⟩
    · have hstart : b :: (rest.take 32).takeWhile isSchemeCharacter <+: b :: rest :=
        List.cons_prefix_cons.mpr
          ⟨rfl, (List.takeWhile_prefix _).trans (List.take_prefix _ _)⟩
      rw [← htail]
      exact (prefix_iff_eq_append.mp hstart).symm
    · intro x hx
      rcases mem_cons.mp hx with rfl | hx
      · exact isSchemeCharacter_of_letter hb
      · exact mem_takeWhile_imp hx
  · rintro ⟨scheme, after, heq, hinside, hne, hshort, hfollows, hreported⟩
    rcases scheme with _ | ⟨c, run⟩
    · exact absurd rfl hne
    · obtain ⟨rfl, hrest⟩ : b = c ∧ rest = run ++ ':'.toUInt8 :: after := by simpa using heq
      subst hrest
      -- the source reads at most 32 bytes more, which is enough to reach the colon
      have hlen : run.length + 1 ≤ 32 := hshort
      obtain ⟨n, hn⟩ : ∃ n, 32 - run.length = n + 1 := ⟨31 - run.length, by omega⟩
      have hrun : ((run ++ ':'.toUInt8 :: after).take 32).takeWhile isSchemeCharacter = run := by
        rw [take_append, take_of_length_le (by omega), hn, take_succ_cons]
        rw [takeWhile_append_of_pos fun x hx => hinside x (.tail _ hx)]
        simp [hcolon]
      have htail : (b :: (run ++ ':'.toUInt8 :: after)).drop (b :: run).length =
          ':'.toUInt8 :: after := by simp
      rw [hrun, htail]
      exact ⟨⟨⟨hshort, rfl⟩, hfollows⟩, hreported⟩

/-- **The scheme scan** reports exactly the texts with a reported scheme in front of a colon. -/
theorem containsUriScheme_iff {bytes : List UInt8} :
    containsUriScheme bytes = true ↔ ∃ before scheme after,
      bytes = before ++ scheme ++ ':'.toUInt8 :: after ∧ UriAt before scheme after := by
  have hfrom : ∀ (bytes pre : List UInt8), containsUriSchemeFrom pre.getLast? bytes = true ↔
      ∃ before scheme after, bytes = before ++ scheme ++ ':'.toUInt8 :: after ∧
        UriAt (pre ++ before) scheme after := by
    intro bytes
    induction bytes with
    | nil => simp [containsUriSchemeFrom]
    | cons b rest ih =>
      intro pre
      have hih := ih (pre ++ [b])
      rw [getLast?_append, getLast?_singleton, Option.some_or] at hih
      rw [containsUriSchemeFrom, Bool.or_eq_true, hih]
      constructor
      · rintro (hhere | ⟨before, scheme, after, rfl, huri⟩)
        · simp only [Bool.and_eq_true] at hhere
          obtain ⟨⟨hboundary, hletter⟩, hscheme⟩ := hhere
          obtain ⟨scheme, after, heq, hinside, hne, hshort, hfollows, hreported⟩ :=
            (uriSchemeAt_iff hletter).mp hscheme
          refine ⟨[], scheme, after, heq, ⟨hinside, fun x hx => ?_, fun x hx => ?_⟩, ⟨b, ?_, hletter⟩,
            hshort, hfollows, hreported⟩
          · rw [append_nil] at hx
            simpa [hx] using hboundary
          · cases hx
            decide
          · rcases scheme with _ | ⟨c, run⟩
            · exact absurd rfl hne
            · rw [(cons.inj heq).1]
              rfl
        · exact ⟨b :: before, scheme, after, rfl, by simpa using huri⟩
      · rintro ⟨before, scheme, after, heq, huri⟩
        rcases before with _ | ⟨c, before⟩
        · left
          obtain ⟨c, hhead, hletter⟩ := huri.letter
          rcases scheme with _ | ⟨d, run⟩
          · cases hhead
          · cases hhead
            obtain ⟨rfl, hrest⟩ := cons.inj heq
            rw [Bool.and_eq_true, Bool.and_eq_true, uriSchemeAt_iff hletter]
            refine ⟨⟨?_, hletter⟩, b :: run, after, heq, huri.run.inside, by simp, huri.short,
              huri.follows, huri.reported⟩
            rcases hp : pre.getLast? with _ | x
            · rfl
            · simpa using huri.run.left x (by simpa using hp)
        · right
          obtain ⟨rfl, rfl⟩ := cons.inj heq
          exact ⟨before, scheme, after, rfl, by simpa using huri⟩
  simpa [containsUriScheme] using hfrom bytes []

structure WebAddressAt (before run after : List UInt8) : Prop where
  maximal : IsRun isHostnameCharacter before run after
  start : ∃ b, run.head? = some b ∧ Byte.isAsciiAlphanumeric b = true
  address : isWebAddress before.reverse run after = true

theorem isHostnameCharacter_of_alphanumeric {b : UInt8}
    (h : Byte.isAsciiAlphanumeric b = true) : isHostnameCharacter b = true := by
  simp [isHostnameCharacter, h]

theorem webAddressAt_here_iff {b : UInt8} {before rest : List UInt8} :
    (∃ run after, b :: rest = run ++ after ∧ WebAddressAt before.reverse run after) ↔
      (Byte.isAsciiAlphanumeric b && before.head?.all fun x => !isHostnameCharacter x) = true ∧
        isWebAddress before (b :: rest.takeWhile isHostnameCharacter)
          (rest.dropWhile isHostnameCharacter) = true := by
  constructor
  · rintro ⟨run, after, heq, hmaximal, ⟨c, hhead, hstart⟩, haddress⟩
    have hrun := hmaximal.takeWhile
    rcases run with _ | ⟨d, run⟩
    · cases hhead
    · obtain rfl := Option.some.inj hhead
      obtain ⟨rfl, hrest⟩ : b = d ∧ rest = run ++ after := by simpa using heq
      have hb := isHostnameCharacter_of_alphanumeric hstart
      rw [cons_append, takeWhile_cons_of_pos hb, ← hrest] at hrun
      have htake : rest.takeWhile isHostnameCharacter = run := (cons.inj hrun).2
      have hdrop : rest.dropWhile isHostnameCharacter = after := by
        have hsplit := takeWhile_append_dropWhile (p := isHostnameCharacter) (l := rest)
        rw [htake, hrest] at hsplit
        rw [hrest]
        exact append_cancel_left hsplit
      rw [htake, hdrop]
      rw [reverse_reverse] at haddress
      refine ⟨?_, haddress⟩
      rw [Bool.and_eq_true]
      refine ⟨hstart, ?_⟩
      rcases hp : before.head? with _ | x
      · rfl
      · simpa using hmaximal.left x (by simpa using hp)
  · rintro ⟨hboundary, haddress⟩
    obtain ⟨hstart, hleft⟩ := (Bool.and_eq_true _ _).mp hboundary
    have hb := isHostnameCharacter_of_alphanumeric hstart
    have hrun : IsRun isHostnameCharacter before.reverse ((b :: rest).takeWhile isHostnameCharacter)
        ((b :: rest).dropWhile isHostnameCharacter) := isRun_takeWhile fun x hx => by
      rw [getLast?_reverse] at hx
      simpa [hx] using hleft
    rw [takeWhile_cons_of_pos hb, dropWhile_cons_of_pos hb] at hrun
    exact ⟨_, _, by simp, hrun, ⟨b, rfl, hstart⟩, by rwa [reverse_reverse]⟩

theorem containsBareWebAddressFrom_iff (bytes : List UInt8) :
    ∀ (before : List UInt8) (skip : ℕ),
      (∀ i < skip, ∃ x, ((bytes.take i).reverse ++ before).head? = some x ∧
        isHostnameCharacter x = true) →
      (containsBareWebAddressFrom before skip bytes = true ↔ ∃ middle run after,
        bytes = middle ++ run ++ after ∧ WebAddressAt (before.reverse ++ middle) run after) := by
  induction bytes with
  | nil =>
    intro before skip _
    have hnone : ¬ ∃ middle run after, [] = middle ++ run ++ after ∧
        WebAddressAt (before.reverse ++ middle) run after := by
      rintro ⟨middle, run, after, heq, haddress⟩
      obtain ⟨b, hb, -⟩ := haddress.start
      simp_all
    simp only [containsBareWebAddressFrom, hnone, Bool.false_eq_true]
  | cons b rest ih =>
    intro before skip hskip
    -- an address starts here or further on
    have hsplit : (∃ middle run after, b :: rest = middle ++ run ++ after ∧
        WebAddressAt (before.reverse ++ middle) run after) ↔
        (∃ run after, b :: rest = run ++ after ∧ WebAddressAt before.reverse run after) ∨
          ∃ middle run after, rest = middle ++ run ++ after ∧
            WebAddressAt ((b :: before).reverse ++ middle) run after := by
      constructor
      · rintro ⟨middle, run, after, heq, haddress⟩
        rcases middle with _ | ⟨c, middle⟩
        · exact Or.inl ⟨run, after, heq, by simpa using haddress⟩
        · obtain ⟨rfl, hrest⟩ : b = c ∧ rest = middle ++ run ++ after := by simpa using heq
          exact Or.inr ⟨middle, run, after, hrest, by simpa using haddress⟩
      · rintro (⟨run, after, heq, haddress⟩ | ⟨middle, run, after, rfl, haddress⟩)
        · exact ⟨[], run, after, heq, by simpa using haddress⟩
        · exact ⟨b :: middle, run, after, by simp, by simpa using haddress⟩
    rw [hsplit, webAddressAt_here_iff]
    rcases skip with _ | skip
    · rw [containsBareWebAddressFrom]
      split
      · rename_i hboundary
        have hb := isHostnameCharacter_of_alphanumeric ((Bool.and_eq_true _ _).mp hboundary).1
        rw [Bool.or_eq_true, ih]
        · simp only [hboundary, true_and]
        · -- the bytes skipped follow bytes of the run
          intro i hi
          rcases i with _ | i
          · exact ⟨b, rfl, hb⟩
          · have hlen : i + 1 < (rest.takeWhile isHostnameCharacter).length := by simpa using hi
            have htake : rest.take (i + 1) = (rest.takeWhile isHostnameCharacter).take (i + 1) := by
              conv_lhs => rw [← takeWhile_append_dropWhile (p := isHostnameCharacter) (l := rest)]
              exact take_append_of_le_length hlen.le
            have hhosts : ∀ x ∈ rest.take (i + 1), isHostnameCharacter x = true := by
              intro x hx
              rw [htake] at hx
              exact mem_takeWhile_imp (mem_of_mem_take hx)
            have hne : rest.take (i + 1) ≠ [] := by
              rw [← length_pos_iff, htake, length_take]
              omega
            refine ⟨(rest.take (i + 1)).getLast hne, ?_, hhosts _ (getLast_mem hne)⟩
            rw [head?_append, head?_reverse, getLast?_eq_some_getLast hne]
            rfl
      · rename_i hboundary
        rw [ih _ 0 (by simp)]
        simp only [hboundary, Bool.false_eq_true, false_and, false_or]
    · have hhead := hskip 0 (by simp)
      have hnot : ¬ (Byte.isAsciiAlphanumeric b && before.head?.all fun x =>
          !isHostnameCharacter x) = true := by
        obtain ⟨x, hx, hhost⟩ := hhead
        have hx : before.head? = some x := by simpa using hx
        simp [hx, hhost]
      rw [containsBareWebAddressFrom, ih]
      · simp only [hnot, Bool.false_eq_true, false_and, false_or]
      · intro i hi
        simpa using hskip (i + 1) (by omega)

/-- **The host scan** reports exactly the texts with a reported run of host characters. -/
theorem containsBareWebAddress_iff {bytes : List UInt8} :
    containsBareWebAddress bytes = true ↔ ∃ before run after,
      bytes = before ++ run ++ after ∧ WebAddressAt before run after := by
  simpa [containsBareWebAddress] using containsBareWebAddressFrom_iff bytes [] 0 (by simp)

end Threadbook
