import Mathlib.Order.Compare
import Threadbook.Numeral
import Threadbook.Text

/-!
# Gmail history ids: canonical decimal text under numeric order

A `HistoryId` is the text the provider sent with its leading zeros stripped; the
coordinators only ever compare it through `cmpNumeric`, first by length and then
byte by byte. `HistoryId.parse` is the one way in, and its output carries the
canonical form as a field. `cmpNumeric_eq` reads the comparison back as the order
of the numbers denoted, which makes the ids a linear order (`instLinearOrder`)
in which distinct texts are distinct numbers.
-/

namespace Threadbook

inductive SyncError
  | invalidConfiguration
  | scopeTooLarge
  | authentication
  | permission
  | rateLimited
  | quota
  | transport
  | server
  | timeout
  | malformedRequest
  | malformedResponse
  | cancelled
  | revisionCollision
  | compareAndSwap
  | store
  deriving DecidableEq

/-- The texts a history id may hold: at most 64 decimal digits, no leading zero
unless the text is `"0"`. -/
def CanonicalDigits (cs : List Char) : Prop :=
  cs ≠ [] ∧ cs.length ≤ 64 ∧ (∀ c ∈ cs, isAsciiDigit c = true) ∧ (cs.head? = some '0' → cs = ['0'])

instance (cs : List Char) : Decidable (CanonicalDigits cs) := by
  unfold CanonicalDigits
  infer_instance

structure HistoryId where
  text : String
  canonical : CanonicalDigits text.toList

namespace HistoryId

@[ext] theorem ext {a b : HistoryId} (h : a.text = b.text) : a = b := by
  cases a
  cases b
  simpa using h

instance : DecidableEq HistoryId := fun a b =>
  decidable_of_iff (a.text = b.text) ⟨ext, fun h => h ▸ rfl⟩

/-! ## Parsing -/

/-- The text without its leading zeros; all zeros become `"0"`. -/
def trimZeros (cs : List Char) : List Char :=
  let canonical := cs.dropWhile (· == '0')
  if canonical.isEmpty then ['0'] else canonical

theorem byteLength_ge_length (cs : List Char) : cs.length ≤ byteLength (String.ofList cs) := by
  rw [byteLength, String.utf8ByteSize_ofList]
  induction cs with
  | nil => simp
  | cons c cs ih =>
    have hc : 0 < c.utf8Size := Char.utf8Size_pos c
    rw [List.length_cons, String.utf8Len_cons]
    omega

theorem canonical_trimZeros {cs : List Char} (hlen : cs.length ≤ 64)
    (hdigits : ∀ c ∈ cs, isAsciiDigit c = true) : CanonicalDigits (trimZeros cs) := by
  unfold trimZeros
  rcases hd : cs.dropWhile (· == '0') with _ | ⟨c, rest⟩
  · decide
  · have hsuffix : (c :: rest) <:+ cs := hd ▸ List.dropWhile_suffix _
    have hc : (c == '0') = false := by
      have h := List.head_dropWhile_not (· == '0') (l := cs) (by simp [hd])
      simpa [hd] using h
    refine ⟨by simp, le_trans hsuffix.length_le hlen, fun x hx => hdigits x ?_, fun hz => ?_⟩
    · exact hsuffix.subset hx
    · simp at hz
      simp [hz] at hc

def parse (value : String) : Except SyncError HistoryId :=
  if h : value.toList ≠ [] ∧ byteLength value ≤ 64 ∧ ∀ c ∈ value.toList, isAsciiDigit c = true then
    .ok ⟨String.ofList (trimZeros value.toList), by
      rw [String.toList_ofList]
      refine canonical_trimZeros (le_trans ?_ h.2.1) h.2.2
      simpa using byteLength_ge_length value.toList⟩
  else .error .malformedResponse

theorem utf8Size_of_isAsciiDigit {c : Char} (h : isAsciiDigit c = true) : c.utf8Size = 1 := by
  simp only [isAsciiDigit, Bool.and_eq_true, decide_eq_true_eq] at h
  have hle : c.val ≤ 57 := h.2
  have hval : c.val ≤ 127 := UInt32.le_trans hle (by decide)
  simp [Char.utf8Size, hval]

theorem byteLength_of_digits {value : String} (h : ∀ c ∈ value.toList, isAsciiDigit c = true) :
    byteLength value = value.toList.length := by
  have hlist : ∀ cs : List Char, (∀ c ∈ cs, isAsciiDigit c = true) → String.utf8Len cs = cs.length := by
    intro cs
    induction cs with
    | nil => simp
    | cons c cs ih =>
      intro hcs
      rw [String.utf8Len_cons, List.length_cons, ih fun x hx => hcs x (.tail _ hx),
        utf8Size_of_isAsciiDigit (hcs c (.head _))]
  have hof : value = String.ofList value.toList := by simp
  calc byteLength value = byteLength (String.ofList value.toList) := by rw [← hof]
    _ = String.utf8Len value.toList := String.utf8ByteSize_ofList _
    _ = value.toList.length := hlist _ h

/-! ## Numeric order -/

def cmpNumeric (a b : HistoryId) : Ordering :=
  (compare (byteLength a.text) (byteLength b.text)).then (compareOfLessAndEq a.text b.text)

/-- The later of two ids; the first one when they are equal. -/
protected def max (a b : HistoryId) : HistoryId := if a.cmpNumeric b = .lt then b else a

def digits (a : HistoryId) : List ℕ := a.text.toList.map fun c => c.toNat - '0'.toNat

def toNat (a : HistoryId) : ℕ := Numeral.value 10 a.digits

theorem toNat_of_isAsciiDigit {c : Char} (h : isAsciiDigit c = true) :
    '0'.toNat ≤ c.toNat ∧ c.toNat ≤ '9'.toNat := by
  simpa [isAsciiDigit, Char.le_def, UInt32.le_iff_toNat_le] using h

theorem digits_lt (a : HistoryId) : ∀ d ∈ a.digits, d < 10 := by
  intro d hd
  obtain ⟨c, hc, rfl⟩ := List.mem_map.mp hd
  have h := toNat_of_isAsciiDigit (a.canonical.2.2.1 c hc)
  have h9 : '9'.toNat = '0'.toNat + 9 := by decide
  omega

theorem digits_trimmed (a : HistoryId) : Numeral.Trimmed a.digits := by
  obtain ⟨hne, -, hdigits, hhead⟩ := a.canonical
  refine ⟨by simpa [digits] using hne, fun hzero => ?_⟩
  rcases hl : a.text.toList with _ | ⟨c, rest⟩
  · exact absurd hl hne
  · rw [hl] at hdigits hhead
    have hc := toNat_of_isAsciiDigit (hdigits c (.head _))
    have hc0 : c.toNat - '0'.toNat = 0 := by simpa [digits, hl] using hzero
    have hchar : c = '0' := Char.toNat_inj.mp (by omega)
    have hrest := hhead (by rw [hchar]; rfl)
    rw [digits, hl, hrest]
    decide

theorem map_digit_lt_iff {xs ys : List Char} (hx : ∀ c ∈ xs, isAsciiDigit c = true)
    (hy : ∀ c ∈ ys, isAsciiDigit c = true) :
    xs.map (fun c => c.toNat - '0'.toNat) < ys.map (fun c => c.toNat - '0'.toNat) ↔ xs < ys := by
  induction xs generalizing ys with
  | nil => cases ys <;> simp
  | cons x xs ih =>
    rcases ys with _ | ⟨y, ys⟩
    · simp
    · have hx0 := toNat_of_isAsciiDigit (hx x (.head _))
      have hy0 := toNat_of_isAsciiDigit (hy y (.head _))
      have hlt : x.toNat - '0'.toNat < y.toNat - '0'.toNat ↔ x < y := by
        rw [Char.lt_def, UInt32.lt_iff_toNat_lt]
        change _ ↔ x.toNat < y.toNat
        omega
      have heq : x.toNat - '0'.toNat = y.toNat - '0'.toNat ↔ x = y := by
        rw [← Char.toNat_inj]
        omega
      rw [List.map_cons, List.map_cons, List.cons_lt_cons_iff, List.cons_lt_cons_iff, hlt, heq,
        ih (fun c hc => hx c (.tail _ hc))
          fun c hc => hy c (.tail _ hc)]

theorem toNat_lt_iff (a b : HistoryId) :
    a.toNat < b.toNat ↔ byteLength a.text < byteLength b.text ∨
      byteLength a.text = byteLength b.text ∧ a.text < b.text := by
  have h := Numeral.value_lt_iff (b := 10) (by omega) a.digits_lt b.digits_lt a.digits_trimmed
    b.digits_trimmed
  rw [byteLength_of_digits a.canonical.2.2.1, byteLength_of_digits b.canonical.2.2.1,
    String.lt_iff_toList_lt, ← map_digit_lt_iff a.canonical.2.2.1 b.canonical.2.2.1]
  simpa [toNat, digits] using h

theorem toNat_injective : Function.Injective toNat := by
  intro a b h
  have hab := (toNat_lt_iff a b).not.mp (by omega)
  have hba := (toNat_lt_iff b a).not.mp (by omega)
  push Not at hab hba
  have hlen : byteLength a.text = byteLength b.text := le_antisymm hba.1 hab.1
  exact ext (le_antisymm (hba.2 hlen.symm) (hab.2 hlen))

/-- **The comparison is numeric**: comparing texts by length and then byte by
byte compares the numbers they denote. -/
theorem cmpNumeric_eq (a b : HistoryId) : a.cmpNumeric b = compare a.toNat b.toNat := by
  unfold cmpNumeric
  rcases lt_trichotomy a.toNat b.toNat with h | h | h
  · rw [Nat.compare_eq_lt.mpr h]
    rcases (toNat_lt_iff a b).mp h with hlen | ⟨hlen, htext⟩
    · rw [Nat.compare_eq_lt.mpr hlen]
      rfl
    · rw [Nat.compare_eq_eq.mpr hlen]
      simp [compareOfLessAndEq, htext]
  · rw [toNat_injective h]
    simp [compareOfLessAndEq]
  · rw [Nat.compare_eq_gt.mpr h]
    rcases (toNat_lt_iff b a).mp h with hlen | ⟨hlen, htext⟩
    · rw [Nat.compare_eq_gt.mpr hlen]
      rfl
    · rw [Nat.compare_eq_eq.mpr hlen.symm]
      have hne : a.text ≠ b.text := fun he => lt_irrefl _ (he ▸ htext)
      simp [compareOfLessAndEq, not_lt_of_gt htext, hne]

instance : LT HistoryId := ⟨fun a b => a.cmpNumeric b = .lt⟩

instance : LE HistoryId := ⟨fun a b => a.cmpNumeric b ≠ .gt⟩

instance : DecidableLT HistoryId := fun a b => inferInstanceAs (Decidable (a.cmpNumeric b = .lt))

instance : DecidableLE HistoryId := fun a b => inferInstanceAs (Decidable (a.cmpNumeric b ≠ .gt))

theorem lt_iff_toNat {a b : HistoryId} : a < b ↔ a.toNat < b.toNat := by
  change a.cmpNumeric b = .lt ↔ _
  rw [cmpNumeric_eq, Nat.compare_eq_lt]

theorem le_iff_toNat {a b : HistoryId} : a ≤ b ↔ a.toNat ≤ b.toNat := by
  change a.cmpNumeric b ≠ .gt ↔ _
  rw [cmpNumeric_eq, Ne, Nat.compare_eq_gt, not_lt]

instance instLinearOrder : LinearOrder HistoryId where
  le_refl a := le_iff_toNat.mpr le_rfl
  le_trans a b c hab hbc := le_iff_toNat.mpr (le_trans (le_iff_toNat.mp hab) (le_iff_toNat.mp hbc))
  lt_iff_le_not_ge a b := by
    rw [lt_iff_toNat, le_iff_toNat, le_iff_toNat]
    exact lt_iff_le_not_ge
  le_antisymm a b hab hba :=
    toNat_injective (le_antisymm (le_iff_toNat.mp hab) (le_iff_toNat.mp hba))
  le_total a b := by
    rw [le_iff_toNat, le_iff_toNat]
    exact le_total _ _
  toDecidableLE := inferInstance
  toDecidableLT := inferInstance
  toDecidableEq := inferInstance

/-- The source's `max` is the maximum of the order. -/
theorem max_eq (a b : HistoryId) : a.max b = Max.max a b := by
  change (if a < b then b else a) = _
  rcases lt_or_ge a b with h | h
  · rw [if_pos h, max_eq_right h.le]
  · rw [if_neg (not_lt.mpr h), max_eq_left h]

example : (parse "0009").toOption.map HistoryId.text = some "9" := by decide

/-! ## Decimal strings -/

/-- The number a text of digits denotes. -/
def valueOf (value : String) : ℕ := Numeral.value 10 (value.toList.map fun c => c.toNat - '0'.toNat)

/-- A decimal string that `parse` is to read. -/
def IsDecimal (value : String) : Prop :=
  value.toList ≠ [] ∧ value.toList.length ≤ 64 ∧ ∀ c ∈ value.toList, isAsciiDigit c = true

instance (value : String) : Decidable (IsDecimal value) := by
  unfold IsDecimal
  infer_instance

def hashed (a : HistoryId) : List UInt8 := utf8Bytes a.text ++ [0xff]

theorem value_trimZeros (cs : List Char) :
    Numeral.value 10 ((trimZeros cs).map fun c => c.toNat - '0'.toNat) =
      Numeral.value 10 (cs.map fun c => c.toNat - '0'.toNat) := by
  induction cs with
  | nil => decide
  | cons c rest ih =>
    by_cases hc : c = '0'
    · have htrim : trimZeros (c :: rest) = trimZeros rest := by
        simp [trimZeros, hc]
      rw [htrim, ih, List.map_cons, Numeral.value_cons, hc, Nat.sub_self, Nat.zero_mul, Nat.zero_add]
    · simp [trimZeros, hc]

theorem IsDecimal.parse {value : String} (h : IsDecimal value) :
    ∃ a, parse value = .ok a ∧ a.toNat = valueOf value := by
  obtain ⟨hne, hlen, hdigits⟩ := h
  have hparse : value.toList ≠ [] ∧ byteLength value ≤ 64 ∧
      ∀ c ∈ value.toList, isAsciiDigit c = true :=
    ⟨hne, (byteLength_of_digits hdigits).trans_le hlen, hdigits⟩
  refine ⟨_, dif_pos hparse, ?_⟩
  rw [toNat, digits, String.toList_ofList, value_trimZeros, valueOf]

theorem isDecimal_text (a : HistoryId) : IsDecimal a.text :=
  ⟨a.canonical.1, a.canonical.2.1, a.canonical.2.2.1⟩

theorem parse_text (a : HistoryId) : parse a.text = .ok a := by
  obtain ⟨b, hparse, hvalue⟩ := a.isDecimal_text.parse
  rw [hparse, toNat_injective (hvalue.trans rfl)]

theorem hashed_eq_iff {a b : HistoryId} : a.hashed = b.hashed ↔ a = b := by
  refine ⟨fun h => ext (utf8Bytes_injective ?_), fun h => h ▸ rfl⟩
  exact List.append_cancel_right h

/-- **History ids are canonical**: of two decimal strings both are read; the ids compare, are equal
and are hashed as the numbers the strings denote, each is read back from its text, and the larger
of them denotes the larger number. -/
theorem canonical_numeric {x y : String} (hx : IsDecimal x) (hy : IsDecimal y) :
    ∃ a b : HistoryId, parse x = .ok a ∧ parse y = .ok b ∧
      a.cmpNumeric b = compare (valueOf x) (valueOf y) ∧
      (a = b ↔ valueOf x = valueOf y) ∧ (a.hashed = b.hashed ↔ valueOf x = valueOf y) ∧
      parse a.text = .ok a ∧ valueOf a.text = valueOf x ∧
      valueOf (a.max b).text = Max.max (valueOf x) (valueOf y) := by
  obtain ⟨a, ha, hax⟩ := hx.parse
  obtain ⟨b, hb, hby⟩ := hy.parse
  have heq : a = b ↔ valueOf x = valueOf y := by
    rw [← hax, ← hby]
    exact toNat_injective.eq_iff.symm
  refine ⟨a, b, ha, hb, ?_, heq, hashed_eq_iff.trans heq, a.parse_text, hax, ?_⟩
  · rw [cmpNumeric_eq, hax, hby]
  · rw [← hax, ← hby, max_eq]
    change (Max.max a b).toNat = _
    rcases le_total a b with h | h
    · rw [max_eq_right h, max_eq_right (le_iff_toNat.mp h)]
    · rw [max_eq_left h, max_eq_left (le_iff_toNat.mp h)]

/-- Numbers beyond 64 bits, one of them with leading zeros. -/
theorem canonical_numeric_beyond_u64 :
    IsDecimal "0099999999999999999999" ∧ ∃ a b : HistoryId,
      parse "0099999999999999999999" = .ok a ∧ parse "100000000000000000000" = .ok b ∧
      a.cmpNumeric b = .lt := by
  have hx : IsDecimal "0099999999999999999999" := by decide
  obtain ⟨a, b, ha, hb, hcmp, -⟩ := canonical_numeric hx (y := "100000000000000000000") (by decide)
  exact ⟨hx, a, b, ha, hb, hcmp.trans (by decide)⟩

end HistoryId

end Threadbook
