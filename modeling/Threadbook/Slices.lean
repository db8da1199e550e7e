import Mathlib
import Threadbook.Text

/-!
# Slices of texts

Cutting texts: at byte offsets, at white space, at line breaks and at separators. A
text is a list of characters here, its bytes their encoding. `findText_eq_some` says
that an occurrence found by its byte offset is one between whole characters, and each
cut is an infix of the text it is taken from.
-/

namespace Threadbook

open List

/-! ## Byte offsets -/

def Byte.isContinuation (b : UInt8) : Bool := 0x80 ≤ b && b < 0xc0

def isCharBoundary (bytes : List UInt8) (index : ℕ) : Bool :=
  index == 0 || index == bytes.length || bytes[index]?.any fun b => !Byte.isContinuation b

def bytesBetween (bytes : List UInt8) (start stop : ℕ) : List UInt8 :=
  (bytes.take stop).drop start

/-- The byte offset of a text's first occurrence in another. -/
def findText (quote : List Char) : List Char → Option ℕ
  | [] => if quote = [] then some 0 else none
  | c :: rest =>
    if quote.isPrefixOf (c :: rest) then some 0 else (findText quote rest).map (c.utf8Size + ·)

theorem length_utf8Bytes (s : String) : (utf8Bytes s).length = byteLength s := by
  have hlen (cs : List Char) : (encode cs).length = String.utf8Len cs := by
    induction cs with
    | nil => rfl
    | cons c cs ih => rw [encode_cons, length_append, ih, String.length_utf8EncodeChar,
        String.utf8Len_cons, Nat.add_comm]
  rw [utf8Bytes, hlen, ← String.utf8ByteSize_ofList, String.ofList_toList]

theorem utf8EncodeChar_ascii {c : Char} (h : c.toNat ≤ 127) :
    String.utf8EncodeChar c = [UInt8.ofNat c.toNat] := by
  simp only [String.utf8EncodeChar, Char.toNat_val]
  rw [if_pos h]

theorem letter_of_toLower {c : Char} (h : 97 ≤ c.toLower.toNat ∧ c.toLower.toNat ≤ 122) :
    (65 ≤ c.toNat ∧ c.toNat ≤ 90) ∨ (97 ≤ c.toNat ∧ c.toNat ≤ 122) := by
  by_cases hupper : c.val ≥ 'A'.val ∧ c.val ≤ 'Z'.val
  · left
    rw [ge_iff_le, UInt32.le_iff_toNat_le, UInt32.le_iff_toNat_le] at hupper
    exact hupper
  · right
    rw [Char.toLower, dif_neg hupper] at h
    exact h

theorem isContinuation_of_first {b : UInt8} (h : b.IsUTF8FirstByte) :
    Byte.isContinuation b = false := by
  have hall : ∀ n : Fin 256, (UInt8.ofFin n).IsUTF8FirstByte →
      Byte.isContinuation (UInt8.ofFin n) = false := by decide +kernel
  exact hall b.toFin h

theorem isContinuation_head {c : Char} {cs : List Char} {b : UInt8}
    (h : (encode (c :: cs)).head? = some b) : Byte.isContinuation b = false := by
  rcases hc : String.utf8EncodeChar c with _ | ⟨x, rest⟩
  · exact absurd hc String.utf8EncodeChar_ne_nil
  · have hfirst : x.IsUTF8FirstByte := by
      have hzero := UInt8.isUTF8FirstByte_getElem_zero_utf8EncodeChar (c := c)
      simpa [hc] using hzero
    rw [encode_cons, hc] at h
    obtain rfl : x = b := by simpa using h
    exact isContinuation_of_first hfirst

theorem isCharBoundary_encode (before after : List Char) :
    isCharBoundary (encode (before ++ after)) (encode before).length = true := by
  rcases after with _ | ⟨c, rest⟩
  · simp [isCharBoundary]
  · rcases hhead : (encode (c :: rest)).head? with _ | b
    · have hnil := head?_eq_none_iff.mp hhead
      simp [encode_cons, String.utf8EncodeChar_ne_nil] at hnil
    · have hget : (encode (before ++ c :: rest))[(encode before).length]? = some b := by
        rw [encode_append, getElem?_append_right le_rfl, Nat.sub_self, ← head?_eq_getElem?]
        exact hhead
      rw [isCharBoundary, hget, Option.any_some, isContinuation_head hhead, Bool.not_false,
        Bool.or_true]

theorem bytesBetween_encode (before quote after : List Char) :
    bytesBetween (encode (before ++ quote ++ after)) (encode before).length
      ((encode before).length + (encode quote).length) = encode quote := by
  rw [bytesBetween, encode_append, encode_append, ← length_append, take_left,
    drop_left]

/-- **What a search finds** is an occurrence between whole characters. -/
theorem findText_eq_some {quote text : List Char} {n : ℕ} (h : findText quote text = some n) :
    ∃ before after, text = before ++ quote ++ after ∧ n = (encode before).length := by
  induction text generalizing n with
  | nil =>
    rw [findText] at h
    split at h
    · rename_i hnil
      obtain rfl : 0 = n := by simpa using h
      exact ⟨[], [], by simp [hnil], rfl⟩
    · cases h
  | cons c rest ih =>
    rw [findText] at h
    split at h
    · -- found here
      rename_i hstart
      obtain rfl : 0 = n := by simpa using h
      obtain ⟨after, hafter⟩ := List.isPrefixOf_iff_prefix.mp hstart
      exact ⟨[], after, by simp [hafter], rfl⟩
    · -- found later, if at all
      obtain ⟨m, hm, rfl⟩ := Option.map_eq_some_iff.mp h
      obtain ⟨before, after, hrest, hlen⟩ := ih hm
      refine ⟨c :: before, after, by simp [hrest], ?_⟩
      rw [encode_cons, length_append, String.length_utf8EncodeChar, hlen]

theorem findText_isSome {quote text : List Char} (h : quote <:+: text) :
    (findText quote text).isSome = true := by
  induction text with
  | nil =>
    have hnil : quote = [] := infix_nil.mp h
    simp [findText, hnil]
  | cons c rest ih =>
    rw [findText]
    split
    · rfl
    · rename_i hstart
      rw [Option.isSome_map]
      rcases infix_cons_iff.mp h with hhere | hthere
      · exact absurd (List.isPrefixOf_iff_prefix.mpr hhere) hstart
      · exact ih hthere

def toAsciiLowercase (value : List Char) : List Char := value.map Char.toLower

/-! ## White space -/

def trimStart (cs : List Char) : List Char := cs.dropWhile isWhitespace

def trimEnd (cs : List Char) : List Char := cs.rdropWhile isWhitespace

/-- A text without white space at its ends. -/
def trimChars (cs : List Char) : List Char := trimEnd (trimStart cs)

theorem trimStart_suffix (cs : List Char) : trimStart cs <:+ cs := List.dropWhile_suffix _

theorem trimEnd_isPrefix (cs : List Char) : trimEnd cs <+: cs := List.rdropWhile_prefix _ _

theorem trimChars_isInfix (cs : List Char) : trimChars cs <:+: cs :=
  (trimEnd_isPrefix _).isInfix.trans (trimStart_suffix cs).isInfix

theorem trimChars_eq_self_iff {cs : List Char} :
    trimChars cs = cs ↔ (∀ c ∈ cs.head?, isWhitespace c = false) ∧
      ∀ c ∈ cs.getLast?, isWhitespace c = false := by
  have hstart : trimStart cs = cs ↔ ∀ c ∈ cs.head?, isWhitespace c = false := by
    rcases cs with _ | ⟨c, rest⟩
    · simp [trimStart]
    · rw [trimStart, dropWhile_eq_self_iff]
      simp
  have hend : trimEnd cs = cs ↔ ∀ c ∈ cs.getLast?, isWhitespace c = false := by
    rw [trimEnd, rdropWhile_eq_self_iff]
    rcases eq_nil_or_concat cs with rfl | ⟨rest, c, rfl⟩
    · simp
    · simp
  rw [← hstart, ← hend]
  refine ⟨fun h => ?_, fun ⟨h₁, h₂⟩ => by rw [trimChars, h₁, h₂]⟩
  -- both cuts shorten the text, so neither does
  have hs : trimStart cs = cs := by
    refine (trimStart_suffix cs).eq_of_length_le ?_
    calc cs.length = (trimChars cs).length := by rw [h]
      _ ≤ (trimStart cs).length := (trimEnd_isPrefix _).length_le
  exact ⟨hs, by rw [trimChars, hs] at h; exact h⟩

theorem trimChars_trimChars (cs : List Char) : trimChars (trimChars cs) = trimChars cs := by
  rw [trimChars_eq_self_iff]
  refine ⟨fun c hc => ?_, fun c hc => ?_⟩
  · have hhead : (trimStart cs).head? = some c := by
      rcases hcs : trimChars cs with _ | ⟨x, rest⟩
      · simp [hcs] at hc
      · rw [hcs] at hc
        obtain ⟨after, hafter⟩ := trimEnd_isPrefix (trimStart cs)
        change trimChars cs ++ after = _ at hafter
        rw [hcs] at hafter
        rw [← hafter]
        exact hc
    have hnot := head?_dropWhile_not isWhitespace cs
    rw [← trimStart, hhead] at hnot
    simpa using hnot
  · have hne : trimChars cs ≠ [] := by rintro hnil; simp [hnil] at hc
    have hlast := rdropWhile_last_not isWhitespace (trimStart cs) hne
    rw [getLast?_eq_some_getLast hne] at hc
    obtain rfl : (trimChars cs).getLast hne = c := by simpa using hc
    exact Bool.not_eq_true _ ▸ hlast

/-! ## Lines and separators -/

/-- The pieces of a text, each but the last ended by the separator. -/
def splitInclusive (sep : Char) : List Char → List (List Char)
  | [] => []
  | c :: rest =>
    if c = sep then [c] :: splitInclusive sep rest
    else match splitInclusive sep rest with
      | [] => [[c]]
      | piece :: pieces => (c :: piece) :: pieces

def stripLineBreak (line : List Char) : List Char :=
  if line.getLast? = some '\n' then
    if line.dropLast.getLast? = some '\r' then line.dropLast.dropLast else line.dropLast
  else line

def lines (text : List Char) : List (List Char) := (splitInclusive '\n' text).map stripLineBreak

def trimListMarks : List Char → List Char
  | '-' :: ' ' :: rest => trimListMarks rest
  | cs => cs

theorem flatten_splitInclusive (sep : Char) (text : List Char) :
    (splitInclusive sep text).flatten = text := by
  induction text with
  | nil => rfl
  | cons c rest ih =>
    rw [splitInclusive]
    split
    · simp [ih]
    · rcases hpieces : splitInclusive sep rest with _ | ⟨piece, pieces⟩
      · rw [hpieces] at ih
        simpa using ih
      · rw [hpieces] at ih
        simpa using ih

theorem stripLineBreak_isPrefix (line : List Char) : stripLineBreak line <+: line := by
  rw [stripLineBreak]
  split
  · split
    · exact (List.dropLast_prefix _).trans (List.dropLast_prefix _)
    · exact List.dropLast_prefix _
  · exact prefix_rfl

theorem infix_of_mem_lines {line text : List Char} (h : line ∈ lines text) : line <:+: text := by
  obtain ⟨piece, hpiece, rfl⟩ := mem_map.mp h
  have hpart : piece <:+: text := by
    have := infix_of_mem_flatten hpiece
    rwa [flatten_splitInclusive] at this
  exact (stripLineBreak_isPrefix piece).isInfix.trans hpart

theorem trimListMarks_suffix (cs : List Char) : trimListMarks cs <:+ cs := by
  induction cs using trimListMarks.induct with
  | case1 rest ih =>
    rw [trimListMarks]
    exact ih.trans ((suffix_cons _ _).trans (suffix_cons _ _))
  | case2 cs hcs =>
    rw [trimListMarks]
    exact hcs

theorem infix_of_mem_splitOn {sep : Char} {piece text : List Char} (h : piece ∈ text.splitOn sep) :
    piece <:+: text := by
  have hmem : piece ∈ (text.splitOn sep).intersperse [sep] := by
    obtain ⟨i, hi, rfl⟩ := mem_iff_getElem.mp h
    rw [getElem_eq_getElem_intersperse_two_mul hi]
    exact getElem_mem _
  have hpart := infix_of_mem_flatten hmem
  change piece <:+: [sep].intercalate (text.splitOn sep) at hpart
  rwa [intercalate_splitOn] at hpart

end Threadbook
