import Threadbook.ReceiptSanitizer

/-!
# Normalised texts

A normalised text consists of the visible characters of a text (**`visible_normalize`**), starts
and ends with one, and is normalised already (**`normalize_normalize`**). Two texts side by side
are normalised one by one, with a blank between them where one stands at the joint
(**`normalize_append`**).
-/

namespace Threadbook

open List

def isVisible (c : Char) : Bool := !(isWhitespace c || isControl c)

section Step

variable {state : List Char × Bool} {c : Char}

theorem normalizeStep_of_blank (h : isVisible c = false) :
    normalizeStep state c = (state.1, decide (state.1 ≠ [])) := by
  rw [isVisible, Bool.not_eq_false'] at h
  rw [normalizeStep, if_pos h]

theorem normalizeStep_of_visible (h : isVisible c = true) : normalizeStep state c =
      (state.1 ++ (if state.2 then [' '] else []) ++ [c], false) := by
  rw [isVisible, Bool.not_eq_true'] at h
  rw [normalizeStep, if_neg (Bool.not_eq_true _ ▸ h)]
  cases state.2
  · simp
  · simp

end Step

/-- What normalising has done of a text: what it has put out, and whether a blank is due. -/
def normalizing (value : List Char) : List Char × Bool := value.foldl normalizeStep ([], false)

theorem normalizing_concat (value : List Char) (c : Char) :
    normalizing (value ++ [c]) = normalizeStep (normalizing value) c := by
  rw [normalizing, foldl_concat, ← normalizing]

theorem normalizeInlineWhitespace_eq (value : List Char) :
    normalizeInlineWhitespace value = (normalizing value).1 := rfl

/-- **Exactly the visible characters are kept**, in order, among blanks. -/
theorem visible_normalize (value : List Char) :
    (normalizeInlineWhitespace value).filter isVisible = value.filter isVisible := by
  induction value using reverseRecOn with
  | nil => rfl
  | append_singleton value c ih =>
    rw [normalizeInlineWhitespace_eq] at ih
    rw [normalizeInlineWhitespace_eq, normalizing_concat, filter_append, ← ih]
    cases hc : isVisible c with
    | false =>
      rw [normalizeStep_of_blank hc]
      simp [hc]
    | true =>
      rw [normalizeStep_of_visible hc, filter_append, filter_append]
      have hblank : (if (normalizing value).2 then [' '] else []).filter isVisible = [] := by
        cases (normalizing value).2 <;> decide
      rw [hblank, append_nil]

def StartsEndsVisible (value : List Char) : Prop :=
  (∀ c ∈ value.head?, isVisible c = true) ∧ ∀ c ∈ value.getLast?, isVisible c = true

theorem normalizing_spec (value : List Char) : StartsEndsVisible (normalizing value).1 ∧
      normalizing (normalizing value).1 = ((normalizing value).1, false) ∧
      ((normalizing value).2 = true → (normalizing value).1 ≠ []) := by
  induction value using reverseRecOn with
  | nil => exact ⟨⟨nofun, nofun⟩, rfl, nofun⟩
  | append_singleton value c ih =>
    obtain ⟨⟨hhead, hlast⟩, hsame, hdue⟩ := ih
    rw [normalizing_concat]
    cases hc : isVisible c with
    | false =>
      rw [normalizeStep_of_blank hc]
      exact ⟨⟨hhead, hlast⟩, hsame, of_decide_eq_true⟩
    | true =>
      rw [normalizeStep_of_visible hc]
      refine ⟨⟨?_, ?_⟩, ?_, nofun⟩
      · -- a blank is due only behind something
        intro d hd
        rcases hnil : (normalizing value).1 with _ | ⟨first, rest⟩
        · have hnot : (normalizing value).2 = false := by
            by_contra hdue'
            exact hdue (Bool.eq_true_of_not_eq_false hdue') hnil
          rw [hnil, hnot] at hd
          obtain rfl : c = d := by simpa using hd
          exact hc
        · rw [hnil] at hd
          apply hhead
          rw [hnil]
          exact hd
      · intro d hd
        rw [getLast?_concat] at hd
        cases hd
        exact hc
      · dsimp only
        rw [normalizing_concat]
        cases hdue' : (normalizing value).2 with
        | false =>
          rw [if_neg Bool.false_ne_true, append_nil, hsame, normalizeStep_of_visible hc]
          simp
        | true =>
          have hspace : isVisible ' ' = false := by decide
          rw [if_pos rfl, normalizing_concat, hsame, normalizeStep_of_blank hspace,
            normalizeStep_of_visible hc, decide_eq_true (hdue hdue')]
          simp

theorem normalize_startsEndsVisible (value : List Char) :
    StartsEndsVisible (normalizeInlineWhitespace value) := (normalizing_spec value).1

theorem normalize_eq_nil_iff {value : List Char} :
    normalizeInlineWhitespace value = [] ↔ ∀ c ∈ value, isVisible c = false := by
  have hfilter := visible_normalize value
  constructor
  · intro h c hc
    rw [h, filter_nil] at hfilter
    have hnot := filter_eq_nil_iff.mp hfilter.symm c hc
    exact Bool.eq_false_of_not_eq_true hnot
  · intro h
    have hnone : value.filter isVisible = [] :=
      filter_eq_nil_iff.mpr fun c hc => Bool.not_eq_true _ ▸ h c hc
    rw [hnone] at hfilter
    by_contra hne
    have hlast := (normalize_startsEndsVisible value).2 _ (getLast?_eq_some_getLast hne)
    exact filter_eq_nil_iff.mp hfilter _ (getLast_mem hne) hlast

/-! ## Two texts side by side -/

def endsBlank (value : List Char) : Bool := value.getLast?.any fun c => !isVisible c

def startsBlank (value : List Char) : Bool := value.head?.any fun c => !isVisible c

theorem normalizing_due (value : List Char) : (normalizing value).2 =
      (decide (normalizeInlineWhitespace value ≠ []) && endsBlank value) := by
  induction value using reverseRecOn with
  | nil => rfl
  | append_singleton value c _ =>
    rw [normalizeInlineWhitespace_eq, normalizing_concat, endsBlank, getLast?_concat,
      Option.any_some]
    cases hc : isVisible c with
    | false => rw [normalizeStep_of_blank hc, Bool.not_false, Bool.and_true]
    | true => rw [normalizeStep_of_visible hc, Bool.not_true, Bool.and_false]

theorem foldl_normalizeStep_visible {state : List Char × Bool} {c : Char} (hc : isVisible c = true)
    (rest : List Char) :
    (c :: rest).foldl normalizeStep state =
      (state.1 ++ (if state.2 then [' '] else []) ++ (normalizing (c :: rest)).1,
        (normalizing (c :: rest)).2) := by
  induction rest using reverseRecOn with
  | nil =>
    rw [normalizing, foldl_cons, foldl_nil, foldl_cons, foldl_nil,
      normalizeStep_of_visible hc, normalizeStep_of_visible hc]
    rfl
  | append_singleton rest d ih =>
    have hne : (normalizing (c :: rest)).1 ≠ [] := by
      intro hnil
      exact absurd (normalize_eq_nil_iff.mp hnil c (.head _)) (Bool.not_eq_false _ ▸ hc)
    rw [← cons_append, foldl_concat, ih, normalizing_concat]
    cases hd : isVisible d with
    | false =>
      rw [normalizeStep_of_blank hd, normalizeStep_of_blank hd, decide_eq_true hne]
      simp [hne]
    | true =>
      rw [normalizeStep_of_visible hd, normalizeStep_of_visible hd]
      simp [append_assoc]

/-- **Two texts side by side** are normalised one by one; a blank stands between them where one of
them has a blank character at the joint. -/
theorem normalize_append {left right : List Char} (hleft : normalizeInlineWhitespace left ≠ [])
    (hright : normalizeInlineWhitespace right ≠ []) :
    normalizeInlineWhitespace (left ++ right) = normalizeInlineWhitespace left ++
      (if endsBlank left || startsBlank right then [' '] else []) ++
        normalizeInlineWhitespace right := by
  have hsplit : normalizing (left ++ right) = right.foldl normalizeStep (normalizing left) := by
    rw [normalizing, foldl_append, ← normalizing]
  have hdue := normalizing_due left
  rw [decide_eq_true hleft, Bool.true_and] at hdue
  -- leading blank characters of the second text make a blank due, and no more
  have hlead (state : List Char × Bool) (hstate : state.1 ≠ []) :
      right.foldl normalizeStep state =
        (state.1 ++ (if state.2 || startsBlank right then [' '] else []) ++ (normalizing right).1,
          (normalizing right).2) := by
    clear hsplit hdue
    induction right generalizing state with
    | nil => exact absurd rfl hright
    | cons c rest ih =>
      cases hc : isVisible c with
      | true =>
        rw [foldl_normalizeStep_visible hc]
        simp [startsBlank, hc]
      | false =>
        have hstart : normalizing (c :: rest) = normalizing rest := by
          rw [normalizing, foldl_cons, normalizeStep_of_blank hc]
          rfl
        rw [foldl_cons, normalizeStep_of_blank hc, decide_eq_true hstate, hstart]
        rw [normalizeInlineWhitespace_eq, hstart, ← normalizeInlineWhitespace_eq] at hright
        rw [ih hright (state.1, true) hstate]
        simp [startsBlank, hc]
  rw [normalizeInlineWhitespace_eq, hsplit, hlead (normalizing left) hleft, hdue]
  rfl

theorem normalize_append_of_blank {left : List Char} (hleft : normalizeInlineWhitespace left = [])
    (right : List Char) :
    normalizeInlineWhitespace (left ++ right) = normalizeInlineWhitespace right := by
  have hstate : normalizing left = ([], false) := by
    refine Prod.ext hleft ?_
    rw [normalizing_due, hleft]
    rfl
  rw [normalizeInlineWhitespace_eq, normalizing, foldl_append, ← normalizing, hstate]
  rfl

theorem normalize_append_blank (left : List Char) {right : List Char}
    (hright : normalizeInlineWhitespace right = []) :
    normalizeInlineWhitespace (left ++ right) = normalizeInlineWhitespace left := by
  have hblank := normalize_eq_nil_iff.mp hright
  induction right using reverseRecOn with
  | nil => rw [append_nil]
  | append_singleton right c ih =>
    have hbefore : ∀ d ∈ right, isVisible d = false := fun d hd =>
      hblank d (mem_append_left _ hd)
    rw [← append_assoc, normalizeInlineWhitespace_eq, normalizing_concat,
      normalizeStep_of_blank (hblank c (by simp))]
    exact ih (normalize_eq_nil_iff.mpr hbefore) hbefore

end Threadbook
