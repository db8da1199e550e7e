import Mathlib.Data.List.TakeWhile
import Mathlib.Data.String.Basic

/-!
# Texts and their bytes

The character classes the program tests, on characters and on the bytes of a
text's UTF-8 encoding, and maximal runs: stretches of a list whose elements have a
property while the neighbours on both sides do not.
-/

namespace Threadbook

abbrev byteLength (s : String) : ℕ := s.utf8ByteSize

def isAsciiDigit (c : Char) : Bool := '0' ≤ c && c ≤ '9'

def isLowerHexDigit (c : Char) : Bool := isAsciiDigit c || ('a' ≤ c && c ≤ 'f')

/-- A SHA-256 digest in lower-case hexadecimal. -/
def isHash (value : String) : Bool := byteLength value = 64 ∧ value.toList.all isLowerHexDigit

def isControl (c : Char) : Bool := c.toNat < 0x20 || (0x7f ≤ c.toNat && c.toNat < 0xa0)

def isWhitespace (c : Char) : Bool :=
  (0x9 ≤ c.toNat && c.toNat ≤ 0xd) || c.toNat == 0x20 || c.toNat == 0x85 || c.toNat == 0xa0 ||
    c.toNat == 0x1680 || (0x2000 ≤ c.toNat && c.toNat ≤ 0x200a) || c.toNat == 0x2028 ||
    c.toNat == 0x2029 || c.toNat == 0x202f || c.toNat == 0x205f || c.toNat == 0x3000

def isBlank (s : String) : Bool := s.toList.all isWhitespace

instance decidableForallMemChars (p : Char → Prop) [DecidablePred p] (cs : List Char) :
    Decidable (∀ c ∈ cs, p c) :=
  List.decidableBAll p cs

def encode (cs : List Char) : List UInt8 := cs.flatMap String.utf8EncodeChar

def utf8Bytes (s : String) : List UInt8 := encode s.toList

@[simp] theorem encode_append (cs ds : List Char) : encode (cs ++ ds) = encode cs ++ encode ds :=
  List.flatMap_append

@[simp] theorem encode_cons (c : Char) (cs : List Char) :
    encode (c :: cs) = String.utf8EncodeChar c ++ encode cs := List.flatMap_cons

theorem encode_injective : Function.Injective encode := by
  intro cs ds h
  have hbytes : (String.ofList cs).toByteArray = (String.ofList ds).toByteArray := by
    rw [String.toByteArray_ofList, String.toByteArray_ofList]
    exact congrArg List.toByteArray h
  exact String.ofList_injective (String.toByteArray_inj.mp hbytes)

theorem utf8Bytes_injective {s s' : String} (h : utf8Bytes s = utf8Bytes s') : s = s' :=
  String.toList_inj.mp (encode_injective h)

/-! ## Bytes -/

namespace Byte

def isAsciiUppercase (b : UInt8) : Bool := 65 ≤ b && b ≤ 90

def isAsciiAlphabetic (b : UInt8) : Bool := isAsciiUppercase b || (97 ≤ b && b ≤ 122)

def isAsciiDigit (b : UInt8) : Bool := 48 ≤ b && b ≤ 57

def isAsciiAlphanumeric (b : UInt8) : Bool := isAsciiAlphabetic b || isAsciiDigit b

/-- ASCII white space: blank, tab, line feed, form feed, carriage return. -/
def isAsciiWhitespace (b : UInt8) : Bool := b == 32 || b == 9 || b == 10 || b == 12 || b == 13

/-- The lower-case letter of an ASCII letter; other bytes stay. -/
def toAsciiLowercase (b : UInt8) : UInt8 := if isAsciiUppercase b then b + 32 else b

end Byte

/-! ## Runs -/

section Runs

variable {α : Type} {p : α → Bool} {before run after : List α}

/-- A stretch whose elements have `p`, between neighbours that do not. -/
structure IsRun (p : α → Bool) (before run after : List α) : Prop where
  inside : ∀ x ∈ run, p x = true
  left : ∀ x, before.getLast? = some x → p x = false
  right : ∀ x, after.head? = some x → p x = false

theorem IsRun.takeWhile (h : IsRun p before run after) : (run ++ after).takeWhile p = run := by
  rw [List.takeWhile_append_of_pos h.inside]
  rcases after with _ | ⟨x, rest⟩
  · simp
  · simp [h.right x rfl]

theorem isRun_takeWhile {l : List α} (hleft : ∀ x, before.getLast? = some x → p x = false) :
    IsRun p before (l.takeWhile p) (l.dropWhile p) where
  inside := fun _ => List.mem_takeWhile_imp
  left := hleft
  right := fun x hx => by
    have h := List.head?_dropWhile_not p l
    rw [hx] at h
    simpa using h

end Runs

end Threadbook
