import Mathlib.Data.List.Chain
import Mathlib.Data.List.Basic
import Threadbook.Text

/-!
# JSON texts as a serializer writes them

A serializer emits marks, names and values without blanks between them: a list of tokens
(`JsonToken`), each with its own characters. Where no two numbers meet and the texts need no
escapes (`Legible`), different tokens make different texts (`writeTokens_injective`), and their
UTF-8 forms differ as well (`jsonBytes_injective`). Arrays of elements that can be told apart are
told apart, whatever follows them (`array_append_inj`).
-/

namespace Threadbook

inductive JsonToken
  | beginObject
  | endObject
  | beginArray
  | endArray
  | comma
  | colon
  | number (value : ℕ)
  | string (value : String)

namespace JsonToken

def hexDigit (n : ℕ) : Char := if n < 10 then Char.ofNat (48 + n) else Char.ofNat (87 + n)

def escapeChar (c : Char) : List Char :=
  if c = '\"' then ['\\', '\"']
  else if c = '\\' then ['\\', '\\']
  else if c.toNat = 8 then ['\\', 'b']
  else if c.toNat = 9 then ['\\', 't']
  else if c.toNat = 10 then ['\\', 'n']
  else if c.toNat = 12 then ['\\', 'f']
  else if c.toNat = 13 then ['\\', 'r']
  else if c.toNat < 32 then
    ['\\', 'u', '0', '0', hexDigit (c.toNat / 16), hexDigit (c.toNat % 16)]
  else [c]

def write : JsonToken → List Char
  | beginObject => [Char.ofNat 123]
  | endObject => [Char.ofNat 125]
  | beginArray => ['[']
  | endArray => [']']
  | comma => [',']
  | colon => [':']
  | number value => Nat.toDigits 10 value
  | string value => '\"' :: value.toList.flatMap escapeChar ++ ['\"']

/-- A character that stands for itself within quotation marks. -/
def isPlain (c : Char) : Bool := c != '\"' && c != '\\' && 32 ≤ c.toNat

/-- A text within quotation marks that needs no escapes. -/
def isPlainText : JsonToken → Bool
  | string value => value.toList.all isPlain
  | _ => true

def isNumber : JsonToken → Bool
  | number _ => true
  | _ => false

end JsonToken

open JsonToken List

def writeTokens (tokens : List JsonToken) : List Char := tokens.flatMap JsonToken.write

def jsonBytes (tokens : List JsonToken) : List UInt8 := encode (writeTokens tokens)

def separated : List (List JsonToken) → List JsonToken
  | [] => []
  | first :: rest => first ++ rest.flatMap fun item => comma :: item

def jsonObject (fields : List (String × List JsonToken)) : List JsonToken :=
  beginObject :: separated (fields.map fun field => string field.1 :: colon :: field.2) ++
    [endObject]

def jsonArray (items : List (List JsonToken)) : List JsonToken :=
  beginArray :: separated items ++ [endArray]

/-! ## Different tokens make different texts -/

structure Legible (tokens : List JsonToken) : Prop where
  plain : ∀ token ∈ tokens, token.isPlainText
  apart : tokens.IsChain fun token next => ¬ (token.isNumber ∧ next.isNumber)

theorem escapeChar_of_isPlain {c : Char} (h : isPlain c) : escapeChar c = [c] := by
  simp only [isPlain, Bool.and_eq_true, bne_iff_ne, decide_eq_true_eq] at h
  obtain ⟨⟨hquote, hbackslash⟩, hprintable⟩ := h
  simp only [escapeChar, if_neg hquote, if_neg hbackslash]
  repeat rw [if_neg (by omega)]

theorem write_string_of_isPlain {value : String} (h : value.toList.all isPlain) :
    write (string value) = '\"' :: value.toList ++ ['\"'] := by
  have hself : value.toList.flatMap escapeChar = value.toList := by
    have hall : ∀ c ∈ value.toList, escapeChar c = [c] := fun c hc =>
      escapeChar_of_isPlain (all_eq_true.mp h c hc)
    rw [flatMap_congr hall]
    simp
  rw [write, hself]

theorem append_stop_inj {α : Type} {p : α → Bool} {l l' rest rest' : List α}
    (hl : ∀ a ∈ l, p a) (hl' : ∀ a ∈ l', p a) (hrest : ∀ a ∈ rest.head?, p a = false)
    (hrest' : ∀ a ∈ rest'.head?, p a = false) (h : l ++ rest = l' ++ rest') :
    l = l' ∧ rest = rest' := by
  induction l generalizing l' with
  | nil =>
    cases l' with
    | nil => exact ⟨rfl, h⟩
    | cons a l' =>
      obtain rfl := h
      have hstop := hrest a rfl
      rw [hl' a (.head _)] at hstop
      cases hstop
  | cons a l ih =>
    cases l' with
    | nil =>
      obtain rfl := h
      have hstop := hrest' a rfl
      rw [hl a (.head _)] at hstop
      cases hstop
    | cons b l' =>
      obtain ⟨rfl, htail⟩ := cons.inj h
      obtain ⟨rfl, rfl⟩ := ih (fun c hc => hl c (.tail _ hc))
        (fun c hc => hl' c (.tail _ hc)) htail
      exact ⟨rfl, rfl⟩

theorem toDigits_injective : Function.Injective (Nat.toDigits 10) := by
  intro n m h
  rw [← Nat.ofDigitChars_toDigits (b := 10) (n := n) (by decide) (by decide), h,
    Nat.ofDigitChars_toDigits (by decide) (by decide)]

theorem toDigits_append_ne {n : ℕ} {c : Char} {rest rest' : List Char} (hc : c.isDigit = false) :
    Nat.toDigits 10 n ++ rest ≠ c :: rest' := by
  intro h
  cases hdigits : Nat.toDigits 10 n with
  | nil => exact Nat.toDigits_ne_nil hdigits
  | cons d digits =>
    rw [hdigits] at h
    obtain ⟨rfl, -⟩ := cons.inj h
    have hdigit : d.isDigit := Nat.isDigit_of_mem_toDigits (by decide) (by decide)
      (hdigits ▸ mem_cons_self ..)
    rw [hc] at hdigit
    cases hdigit

variable {tokens tokens' : List JsonToken} {token : JsonToken}

theorem Legible.stops {value : ℕ} (h : Legible (number value :: tokens)) :
    ∀ c ∈ (writeTokens tokens).head?, c.isDigit = false := by
  cases tokens with
  | nil => simp [writeTokens]
  | cons token tokens =>
    have hapart := (isChain_cons_cons.mp h.apart).1
    cases token <;> simp_all [writeTokens, write, isNumber]

theorem Legible.tail (h : Legible (token :: tokens)) : Legible tokens :=
  ⟨fun t ht => h.plain t (.tail _ ht), h.apart.tail⟩

theorem writeTokens_cons_inj {token' : JsonToken} (h : Legible (token :: tokens))
    (h' : Legible (token' :: tokens'))
    (heq : writeTokens (token :: tokens) = writeTokens (token' :: tokens')) :
    token = token' ∧ writeTokens tokens = writeTokens tokens' := by
  have hplain := h.plain token (.head _)
  have hplain' := h'.plain token' (.head _)
  simp only [writeTokens, flatMap_cons] at heq ⊢
  -- two numbers end at the first character that is no digit, two texts at the next mark
  by_cases hnumbers : token.isNumber ∧ token'.isNumber
  · obtain ⟨hnumber, hnumber'⟩ := hnumbers
    cases token with
    | number n =>
      cases token' with
      | number m =>
        have hdigits (k : ℕ) : ∀ c ∈ Nat.toDigits 10 k, c.isDigit = true :=
          fun c hc => Nat.isDigit_of_mem_toDigits (by decide) (by decide) hc
        obtain ⟨hvalue, hrest⟩ := append_stop_inj (hdigits n) (hdigits m) h.stops h'.stops heq
        exact ⟨congrArg number (toDigits_injective hvalue), hrest⟩
      | _ => cases hnumber'
    | _ => cases hnumber
  by_cases hstrings : ∃ s s', token = string s ∧ token' = string s'
  · obtain ⟨s, s', rfl, rfl⟩ := hstrings
    rw [write_string_of_isPlain hplain, write_string_of_isPlain hplain'] at heq
    simp only [cons_append, append_assoc, cons.injEq, true_and] at heq
    have hstop (rest : List Char) :
        ∀ c ∈ (['\"'] ++ rest).head?, isPlain c = false := by simp [isPlain]
    obtain ⟨hvalue, hrest⟩ := append_stop_inj (all_eq_true.mp hplain)
      (all_eq_true.mp hplain') (hstop _) (hstop _) heq
    exact ⟨congrArg string (String.toList_inj.mp hvalue), (cons.inj hrest).2⟩
  -- the others begin with characters that no other token begins with
  · cases token <;> cases token' <;>
      simp_all [write, isNumber, toDigits_append_ne, (toDigits_append_ne _).symm]

/-- **Legible tokens are told by their text.** -/
theorem writeTokens_injective (h : Legible tokens) (h' : Legible tokens')
    (heq : writeTokens tokens = writeTokens tokens') : tokens = tokens' := by
  have hne (token : JsonToken) : token.write ≠ [] := by
    cases token <;> simp [write, Nat.toDigits_ne_nil]
  induction tokens generalizing tokens' with
  | nil =>
    cases tokens' with
    | nil => rfl
    | cons token tokens' => exact absurd (append_eq_nil_iff.mp heq.symm).1 (hne token)
  | cons token tokens ih =>
    cases tokens' with
    | nil => exact absurd (append_eq_nil_iff.mp heq).1 (hne token)
    | cons token' tokens' =>
      obtain ⟨rfl, hrest⟩ := writeTokens_cons_inj h h' heq
      rw [ih h.tail h'.tail hrest]

theorem jsonBytes_injective (h : Legible tokens) (h' : Legible tokens')
    (heq : jsonBytes tokens = jsonBytes tokens') : tokens = tokens' :=
  writeTokens_injective h h' (encode_injective heq)

theorem jsonBytes_object_ne_nil (fields : List (String × List JsonToken)) :
    jsonBytes (jsonObject fields) ≠ [] := by
  intro h
  have hnil : writeTokens (jsonObject fields) = [] := encode_injective h
  exact absurd hnil (cons_ne_nil _ _)

/-! ## Legible objects and arrays -/

theorem legible_singleton (h : token.isPlainText) : Legible [token] :=
  ⟨fun _ ht => mem_singleton.mp ht ▸ h, isChain_singleton _⟩

theorem Legible.append (h : Legible tokens) (h' : Legible tokens')
    (hmark : ∀ token ∈ tokens'.head?, token.isNumber = false) : Legible (tokens ++ tokens') := by
  refine ⟨fun token htoken => ?_, isChain_append.mpr ⟨h.apart, h'.apart, ?_⟩⟩
  · rcases mem_append.mp htoken with hleft | hright
    · exact h.plain token hleft
    · exact h'.plain token hright
  · intro token _ next hnext hnumbers
    rw [hmark next hnext] at hnumbers
    cases hnumbers.2

theorem Legible.cons (h : Legible tokens) (hplain : token.isPlainText)
    (hmark : token.isNumber = false) : Legible (token :: tokens) := by
  refine ⟨fun t ht => ?_, isChain_cons.mpr ⟨fun next _ hnumbers => ?_, h.apart⟩⟩
  · rcases mem_cons.mp ht with rfl | ht
    · exact hplain
    · exact h.plain t ht
  · rw [hmark] at hnumbers
    cases hnumbers.1

theorem legible_separated {items : List (List JsonToken)} (h : ∀ item ∈ items, Legible item) :
    Legible (separated items) := by
  cases items with
  | nil => exact ⟨by simp [separated], .nil⟩
  | cons first rest =>
    obtain ⟨hfirst, hrest⟩ := forall_mem_cons.mp h
    have hcomma : ∀ l : List (List JsonToken),
        ∀ token ∈ (l.flatMap fun item => comma :: item).head?, token.isNumber = false := by
      intro l
      cases l <;> simp [isNumber]
    refine hfirst.append ?_ (hcomma rest)
    clear h
    induction rest with
    | nil => exact ⟨by simp, .nil⟩
    | cons item rest ih =>
      obtain ⟨hitem, hrest⟩ := forall_mem_cons.mp hrest
      exact (hitem.cons rfl rfl).append (ih hrest) (hcomma rest)

theorem legible_array {items : List (List JsonToken)} (h : ∀ item ∈ items, Legible item) :
    Legible (jsonArray items) :=
  ((legible_separated h).cons rfl rfl).append (legible_singleton rfl) (by simp [isNumber])

theorem legible_object {fields : List (String × List JsonToken)}
    (h : ∀ field ∈ fields, (string field.1).isPlainText ∧ Legible field.2) :
    Legible (jsonObject fields) := by
  refine ((legible_separated ?_).cons rfl rfl).append (legible_singleton rfl) (by simp [isNumber])
  intro item hitem
  obtain ⟨field, hfield, rfl⟩ := mem_map.mp hitem
  obtain ⟨hname, hvalue⟩ := h field hfield
  exact (hvalue.cons rfl rfl).cons hname rfl

/-! ## Arrays -/

section Arrays

variable {α : Type} {item : α → List JsonToken}
variable (hitem : ∀ a b rest rest', item a ++ rest = item b ++ rest' → a = b ∧ rest = rest')

include hitem

theorem further_append_inj {l l' : List α} {rest rest' : List JsonToken}
    (h : (l.flatMap fun a => comma :: item a) ++ endArray :: rest =
      (l'.flatMap fun a => comma :: item a) ++ endArray :: rest') : l = l' ∧ rest = rest' := by
  induction l generalizing l' with
  | nil =>
    cases l' with
    | nil => exact ⟨rfl, (cons.inj h).2⟩
    | cons b l' => cases (cons.inj h).1
  | cons a l ih =>
    cases l' with
    | nil => cases (cons.inj h).1
    | cons b l' =>
      simp only [flatMap_cons, cons_append, append_assoc, cons.injEq,
        true_and] at h
      obtain ⟨rfl, hfurther⟩ := hitem _ _ _ _ h
      obtain ⟨rfl, hrest⟩ := ih hfurther
      exact ⟨rfl, hrest⟩

/-- **Arrays are told from what follows** when their items are, and no item begins as an array
ends. -/
theorem array_append_inj (hfirst : ∀ a, ∀ token ∈ (item a).head?, token ≠ endArray)
    (hne : ∀ a, item a ≠ []) {l l' : List α} {rest rest' : List JsonToken}
    (h : jsonArray (l.map item) ++ rest = jsonArray (l'.map item) ++ rest') :
    l = l' ∧ rest = rest' := by
  have hbegin (a : α) (rest rest' : List JsonToken) : item a ++ rest ≠ endArray :: rest' := by
    intro heq
    cases hcase : item a with
    | nil => exact hne a hcase
    | cons token tokens =>
      rw [hcase] at heq
      exact hfirst a token (by rw [hcase]; rfl) (cons.inj heq).1
  cases l with
  | nil =>
    cases l' with
    | nil => exact ⟨rfl, by simpa [jsonArray, separated] using h⟩
    | cons b l' =>
      simp only [jsonArray, separated, map_nil, map_cons, cons_append,
        nil_append, append_assoc, cons.injEq, true_and] at h
      exact absurd h.symm (hbegin b _ _)
  | cons a l =>
    cases l' with
    | nil =>
      simp only [jsonArray, separated, map_nil, map_cons, cons_append,
        nil_append, append_assoc, cons.injEq, true_and] at h
      exact absurd h (hbegin a _ _)
    | cons b l' =>
      simp only [jsonArray, separated, map_cons, flatMap_map, cons_append,
        nil_append, append_assoc, cons.injEq, true_and] at h
      obtain ⟨rfl, hfurther⟩ := hitem _ _ _ _ h
      obtain ⟨rfl, hrest⟩ := further_append_inj hitem hfurther
      exact ⟨rfl, hrest⟩

end Arrays

end Threadbook
