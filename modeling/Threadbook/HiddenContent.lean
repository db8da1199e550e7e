import Threadbook.ReceiptSanitizer

/-!
# Hidden content

Which characters of a token stream are hidden, said without the sink's stack: those
between a suppressed start tag and its matching end tag, the one of its name that balances
the start tags of that name in between. `hidden_stays_hidden` says when the sink keeps
all of them out: when no suppressed start tag is self-closing while nothing is suppressed
yet, and no end tag takes the last element off the stack while another is still open.
-/

namespace Threadbook

open List

/-! ## Open elements -/

/-- A suppressed element whose matching end tag has not come. -/
structure OpenElement where
  name : List Char
  depth : ℕ

def openStart (opens : List OpenElement) (tag : Tag) : List OpenElement :=
  let name := toAsciiLowercase tag.name
  if isVoidElement name then opens
  else
    (opens.map fun element =>
      if element.name = name then { element with depth := element.depth + 1 } else element) ++
        if isSuppressing tag then [⟨name, 1⟩] else []

def openEnd (opens : List OpenElement) (tag : Tag) : List OpenElement :=
  let name := toAsciiLowercase tag.name
  (opens.map fun element =>
    if element.name = name then { element with depth := element.depth - 1 } else element).filter
      fun element => 0 < element.depth

def openStep (opens : List OpenElement) : Token → List OpenElement
  | .tag tag =>
    match tag.kind with
    | .startTag => openStart opens tag
    | .endTag => openEnd opens tag
  | .characters _ | .other => opens

def openElements (tokens : List Token) : List OpenElement := tokens.foldl openStep []

def Hidden (tokens : List Token) : Prop := openElements tokens ≠ []

instance (tokens : List Token) : Decidable (Hidden tokens) :=
  inferInstanceAs (Decidable (openElements tokens ≠ []))

def withoutHidden (tokens : List Token) : List Token :=
  (tokens.foldl (fun (state : List Token × List OpenElement) token =>
    match token with
    | .characters _ => (if state.2 = [] then state.1 ++ [token] else state.1, state.2)
    | _ => (state.1 ++ [token], openStep state.2 token)) ([], [])).1

/-! ## What the sink has to be given -/

section Sink

variable {remote : List Char → Bool} {state : SanitizerState} {tokens : List Token}

def StepMeets (state : SanitizerState) (opens : List OpenElement) : Token → Prop
  | .tag tag =>
    let name := toAsciiLowercase tag.name
    match tag.kind with
    | .startTag =>
      -- a suppressed element that is not void is not self-closing, unless inside another
      state.suppressed = [] → isSuppressing tag = true → isVoidElement name = false →
        tag.selfClosing = false
    | .endTag =>
      -- an end tag of the outermost suppressed element leaves none open
      state.suppressed ≠ [] → lastOf name state.suppressed = some 0 → openEnd opens tag = []
  | .characters _ | .other => True

def WellMarked (remote : List Char → Bool) (tokens : List Token) : Prop :=
  ∀ before token, before ++ [token] <+: tokens →
    (processTokens remote before).failed = false →
      StepMeets (processTokens remote before) (openElements before) token

/-- Wherever characters are hidden, they leave the sink as it is, whatever they are. -/
def KeepsHidden (remote : List Char → Bool) (tokens : List Token) : Prop :=
  ∀ before characters, before <+: tokens → Hidden before →
    processToken remote (processTokens remote before) (.characters characters) =
      processTokens remote before

theorem openElements_concat (tokens : List Token) (token : Token) :
    openElements (tokens ++ [token]) = openStep (openElements tokens) token := by
  rw [openElements, foldl_concat, ← openElements]

theorem processTokens_concat (tokens : List Token) (token : Token) :
    processTokens remote (tokens ++ [token]) =
      processToken remote (processTokens remote tokens) token := by
  rw [processTokens, foldl_concat, ← processTokens]

/-! ## The output's length -/

/-- An output that is too long has been noticed. -/
def OutputChecked (state : SanitizerState) : Prop :=
  maxFragmentTotalBytes * 2 < (encode state.output).length → state.failed = true

theorem checkOutput_checked (state : SanitizerState) : OutputChecked (checkOutput state) := by
  intro h
  rw [checkOutput] at h ⊢
  split
  · rfl
  · rename_i hshort
    rw [if_neg hshort] at h
    exact absurd h hshort

theorem OutputChecked.checkOutput (h : OutputChecked state) (hok : state.failed = false) :
    checkOutput state = state := by
  rw [Threadbook.checkOutput, if_neg]
  intro hlong
  rw [h hlong] at hok
  cases hok

variable {opens : List OpenElement} {name : List Char}

theorem structuralStart_rawText (h : rawTextElements.any (·.toList == name) = true) :
    structuralStart name state = state := by
  obtain ⟨element, hmem, heq⟩ := any_eq_true.mp h
  obtain rfl : element.toList = name := by simpa using heq
  simp only [rawTextElements, mem_cons, not_mem_nil, or_false] at hmem
  rcases hmem with rfl | rfl | rfl | rfl | rfl | rfl | rfl | rfl
  all_goals rfl

theorem not_image_of_rawText (h : rawTextElements.any (·.toList == name) = true) :
    name ≠ "img".toList := by
  rintro rfl
  exact absurd h (by decide)

theorem processStart_output_rawText {tag : Tag}
    (h : rawTextElements.any (·.toList == toAsciiLowercase tag.name) = true) :
    (processStart remote state tag).output = state.output ∧
      (processStart remote state tag).failed = state.failed := by
  rw [processStart]
  dsimp only
  split
  · split
    · exact ⟨rfl, rfl⟩
    · exact ⟨rfl, rfl⟩
  · rw [if_neg (not_image_of_rawText h), structuralStart_rawText h]
    exact ⟨rfl, rfl⟩

theorem OutputChecked.processToken (h : OutputChecked state) (token : Token) :
    OutputChecked (processToken remote state token) := by
  unfold Threadbook.processToken
  split
  · exact h
  cases token with
  | characters characters =>
    dsimp only
    split
    · exact checkOutput_checked _
    · exact checkOutput_checked _
  | other => exact checkOutput_checked _
  | tag tag =>
    dsimp only
    cases tag.kind with
    | startTag =>
      dsimp only
      split
      · rename_i hraw
        obtain ⟨houtput, hfailed⟩ := @processStart_output_rawText remote state tag hraw
        intro hlong
        rw [houtput] at hlong
        rw [hfailed]
        exact h hlong
      · exact checkOutput_checked _
    | endTag => exact checkOutput_checked _

theorem processTokens_checked (tokens : List Token) : OutputChecked (processTokens remote tokens) := by
  induction tokens using reverseRecOn with
  | nil =>
    intro h
    have hempty : ¬ maxFragmentTotalBytes * 2 < (encode SanitizerState.default.output).length := by
      decide
    exact absurd h hempty
  | append_singleton tokens token ih =>
    rw [processTokens_concat]
    exact ih.processToken token

/-! ## Covered states -/

def Covered (state : SanitizerState) (opens : List OpenElement) : Prop :=
  state.failed = false → opens ≠ [] → state.suppressed ≠ []

theorem Covered.characters (hchecked : OutputChecked state) (h : Covered state opens)
    (hopen : opens ≠ []) (characters : List Char) :
    processToken remote state (.characters characters) = state := by
  rw [processToken]
  cases hfailed : state.failed with
  | true => rfl
  | false =>
    rw [if_neg Bool.false_ne_true, if_neg (h hfailed hopen)]
    exact hchecked.checkOutput hfailed

@[simp] theorem checkOutput_suppressed : (checkOutput state).suppressed = state.suppressed := by
  rw [checkOutput]
  split <;> rfl

theorem structuralStart_suppressed (name : List Char) :
    (structuralStart name state).suppressed = state.suppressed := by
  rw [structuralStart]
  split
  · rfl
  split
  · rfl
  split <;> rfl

theorem structuralEnd_suppressed (name : List Char) :
    (structuralEnd name state).suppressed = state.suppressed := by
  rw [structuralEnd]
  split <;> rfl

theorem imageAttribute_suppressed (attr : Attribute) :
    (imageAttribute remote state attr).suppressed = state.suppressed := by
  rw [imageAttribute]
  dsimp only
  split
  · split
    · rfl
    · split <;> rfl
  split
  · split <;> rfl
  · rfl

theorem foldl_imageAttribute_suppressed (attrs : List Attribute) :
    (attrs.foldl (imageAttribute remote) state).suppressed = state.suppressed := by
  induction attrs generalizing state with
  | nil => rfl
  | cons attr rest ih =>
    rw [foldl_cons, ih]
    exact imageAttribute_suppressed attr

theorem processStart_suppressed (tag : Tag) :
    (processStart remote state tag).suppressed =
      if (isSuppressing tag || state.suppressed ≠ []) && !tag.selfClosing &&
          !isVoidElement (toAsciiLowercase tag.name) then
        state.suppressed ++ [toAsciiLowercase tag.name]
      else state.suppressed := by
  rw [processStart]
  dsimp only
  by_cases hidden : (isSuppressing tag || decide (state.suppressed ≠ [])) = true
  · rw [if_pos hidden, hidden, Bool.true_and]
    split <;> rfl
  · rw [if_neg hidden, structuralStart_suppressed, Bool.eq_false_of_not_eq_true hidden,
      Bool.false_and, Bool.false_and, if_neg Bool.false_ne_true]
    split
    · exact foldl_imageAttribute_suppressed _
    · rfl

theorem processEnd_suppressed (tag : Tag) :
    (processEnd state tag).suppressed =
      match lastOf (toAsciiLowercase tag.name) state.suppressed with
      | some index => state.suppressed.take index
      | none => state.suppressed := by
  rw [processEnd]
  by_cases hempty : state.suppressed = []
  · rw [if_neg (not_not.mpr hempty), structuralEnd_suppressed, hempty]
    cases lastOf (toAsciiLowercase tag.name) [] with
    | none => rfl
    | some index => exact take_nil.symm
  · rw [if_pos hempty]
    cases lastOf (toAsciiLowercase tag.name) state.suppressed <;> rfl

theorem processToken_suppressed (hok : state.failed = false) (token : Token) :
    (processToken remote state token).suppressed =
      match token with
      | .tag tag =>
        match tag.kind with
        | .startTag => (processStart remote state tag).suppressed
        | .endTag => (processEnd state tag).suppressed
      | .characters _ | .other => state.suppressed := by
  unfold processToken
  rw [hok, if_neg Bool.false_ne_true]
  cases token with
  | characters characters =>
    dsimp only
    split
    · exact checkOutput_suppressed
    · exact checkOutput_suppressed
  | other => exact checkOutput_suppressed
  | tag tag =>
    dsimp only
    cases tag.kind with
    | startTag =>
      dsimp only
      split
      · rfl
      · exact checkOutput_suppressed
    | endTag => exact checkOutput_suppressed

theorem take_lastOf_eq_nil_iff {elements : List (List Char)} {index : ℕ}
    (h : lastOf name elements = some index) : elements.take index = [] ↔ index = 0 := by
  have hne : elements ≠ [] := by
    rintro rfl
    cases h
  rw [take_eq_nil_iff, or_iff_left hne]

theorem covered_start_iff (hcovered : opens ≠ [] → state.suppressed ≠ []) (tag : Tag) :
    (openStart opens tag ≠ [] → (processStart remote state tag).suppressed ≠ []) ↔
      (state.suppressed = [] → isSuppressing tag = true →
        isVoidElement (toAsciiLowercase tag.name) = false → tag.selfClosing = false) := by
  rw [processStart_suppressed, openStart]
  cases hvoid : isVoidElement (toAsciiLowercase tag.name) with
  | true =>
    -- a void element opens nothing
    rw [if_pos rfl, Bool.not_true, Bool.and_false, if_neg Bool.false_ne_true]
    exact iff_of_true hcovered fun _ _ h => absurd h Bool.true_eq_false_eq_False
  | false =>
    rw [if_neg Bool.false_ne_true, Bool.not_false, Bool.and_true]
    by_cases hempty : state.suppressed = []
    · have hopens : opens = [] := by
        by_contra hne
        exact hcovered hne hempty
      rw [hempty, hopens]
      cases isSuppressing tag <;> cases tag.selfClosing <;> simp
    · refine iff_of_true (fun _ => ?_) fun h => absurd h hempty
      split
      · exact append_ne_nil_of_left_ne_nil hempty _
      · exact hempty

theorem covered_end_iff (hcovered : opens ≠ [] → state.suppressed ≠ []) (tag : Tag) :
    (openEnd opens tag ≠ [] → (processEnd state tag).suppressed ≠ []) ↔
      (state.suppressed ≠ [] → lastOf (toAsciiLowercase tag.name) state.suppressed = some 0 →
        openEnd opens tag = []) := by
  rw [processEnd_suppressed]
  have hopens (h : openEnd opens tag ≠ []) : state.suppressed ≠ [] := by
    apply hcovered
    rintro rfl
    exact h rfl
  rcases hlast : lastOf (toAsciiLowercase tag.name) state.suppressed with _ | index
  · exact iff_of_true hopens fun _ h => absurd h (Option.some_ne_none 0).symm
  · have htake := take_lastOf_eq_nil_iff hlast
    dsimp only
    rw [ne_eq (take _ _), htake, Option.some.injEq]
    refine ⟨fun h _ hzero => ?_, fun h hne hzero => hne (h (hopens hne) hzero)⟩
    by_contra hne
    exact h hne hzero

theorem failed_of_not_stepMeets (hchecked : OutputChecked state) (hok : state.failed = false)
    {token : Token} (h : ¬ StepMeets state opens token) :
    (processToken remote state token).failed = false := by
  unfold processToken
  rw [hok, if_neg Bool.false_ne_true]
  cases token with
  | characters characters => exact absurd trivial h
  | other => exact absurd trivial h
  | tag tag =>
    unfold StepMeets at h
    dsimp only at h ⊢
    cases hkind : tag.kind with
    | startTag =>
      rw [hkind] at h
      push Not at h
      obtain ⟨-, hsuppressing, -, hself⟩ := h
      have hstart : processStart remote state tag = state := by
        rw [processStart, hsuppressing, Bool.eq_true_of_not_eq_false hself]
        rfl
      dsimp only
      rw [hstart, hchecked.checkOutput hok]
      split
      · exact hok
      · exact hok
    | endTag =>
      rw [hkind] at h
      push Not at h
      obtain ⟨hne, hlast, -⟩ := h
      have hend : processEnd state tag = { state with suppressed := state.suppressed.take 0 } := by
        rw [processEnd, if_pos hne, hlast]
      have hchecked' : OutputChecked { state with suppressed := state.suppressed.take 0 } := hchecked
      dsimp only
      rw [hend, hchecked'.checkOutput hok]
      exact hok

/-- **One token**: hidden content stays covered exactly when the token meets the
condition. -/
theorem Covered.step_iff (hcovered : Covered state opens) (hchecked : OutputChecked state)
    (hok : state.failed = false) (token : Token) :
    Covered (processToken remote state token) (openStep opens token) ↔
      StepMeets state opens token := by
  have hstack := @processToken_suppressed remote state hok token
  have hafter (h : openStep opens token ≠ [] →
      (processToken remote state token).suppressed ≠ []) :
      Covered (processToken remote state token) (openStep opens token) := fun _ => h
  have hbefore (h : ¬ StepMeets state opens token)
      (hcov : Covered (processToken remote state token) (openStep opens token)) :=
    hcov (failed_of_not_stepMeets hchecked hok h)
  cases token with
  | characters characters => exact iff_of_true (hafter (hstack ▸ hcovered hok)) trivial
  | other => exact iff_of_true (hafter (hstack ▸ hcovered hok)) trivial
  | tag tag =>
    obtain ⟨kind, name, selfClosing, attrs⟩ := tag
    cases kind with
    | startTag =>
      have hstart : (processToken remote state
          (.tag ⟨.startTag, name, selfClosing, attrs⟩)).suppressed =
            (processStart remote state ⟨.startTag, name, selfClosing, attrs⟩).suppressed := hstack
      have hiff := @covered_start_iff remote state opens (hcovered hok)
        ⟨.startTag, name, selfClosing, attrs⟩
      rw [← hstart] at hiff
      refine ⟨fun h => ?_, fun h => hafter (hiff.mpr h)⟩
      by_contra hnot
      exact hnot (hiff.mp (hbefore hnot h))
    | endTag =>
      have hend : (processToken remote state
          (.tag ⟨.endTag, name, selfClosing, attrs⟩)).suppressed =
            (processEnd state ⟨.endTag, name, selfClosing, attrs⟩).suppressed := hstack
      have hiff := covered_end_iff (hcovered hok) ⟨.endTag, name, selfClosing, attrs⟩
      rw [← hend] at hiff
      refine ⟨fun h => ?_, fun h => hafter (hiff.mpr h)⟩
      by_contra hnot
      exact hnot (hiff.mp (hbefore hnot h))

/-! ## Whole streams -/

theorem appendCharacters_ne (output : List Char) :
    appendCharacters output ['x'] ≠ output := by
  have hnormal : normalizeInlineWhitespace ['x'] = ['x'] := by decide
  intro h
  have hlen := congrArg length h
  rw [appendCharacters, hnormal] at hlen
  split at hlen
  · rename_i hnil
    cases hnil
  split at hlen
  · rw [length_append, length_cons] at hlen
    omega
  · rw [length_append, length_singleton] at hlen
    omega

theorem checkOutput_output : (checkOutput state).output = state.output := by
  rw [checkOutput]
  split <;> rfl

theorem covered_of_unchanged
    (h : opens ≠ [] → processToken remote state (.characters ['x']) = state) :
    Covered state opens := by
  intro hok hopen hempty
  have hsame := h hopen
  unfold processToken at hsame
  rw [hok, if_neg Bool.false_ne_true] at hsame
  dsimp only at hsame
  rw [if_pos hempty] at hsame
  have houtput := congrArg SanitizerState.output hsame
  rw [checkOutput_output] at houtput
  exact appendCharacters_ne state.output houtput

theorem processToken_failed (h : state.failed = true) (token : Token) :
    processToken remote state token = state := by
  unfold processToken
  rw [h, if_pos rfl]

theorem WellMarked.covered (h : WellMarked remote tokens) :
    Covered (processTokens remote tokens) (openElements tokens) := by
  induction tokens using reverseRecOn with
  | nil =>
    intro _ hopen
    exact absurd rfl hopen
  | append_singleton tokens token ih =>
    have hbefore : WellMarked remote tokens := by
      intro before t hstart
      exact h before t (hstart.trans (prefix_append _ _))
    rw [processTokens_concat, openElements_concat]
    cases hok : (processTokens remote tokens).failed with
    | true =>
      intro hfailed
      rw [processToken_failed hok, hok] at hfailed
      cases hfailed
    | false =>
      exact ((ih hbefore).step_iff (processTokens_checked tokens) hok token).mpr
        (h tokens token prefix_rfl hok)

theorem withoutHidden_concat (tokens : List Token) (token : Token) :
    withoutHidden (tokens ++ [token]) = withoutHidden tokens ++
      match token with
      | .characters _ => if openElements tokens = [] then [token] else []
      | _ => [token] := by
  have hopens (tokens : List Token) :
      (tokens.foldl (fun (state : List Token × List OpenElement) token =>
        match token with
        | .characters _ => (if state.2 = [] then state.1 ++ [token] else state.1, state.2)
        | _ => (state.1 ++ [token], openStep state.2 token)) ([], [])).2 = openElements tokens := by
    induction tokens using reverseRecOn with
    | nil => rfl
    | append_singleton tokens token ih =>
      rw [foldl_concat, openElements_concat, ← ih]
      cases token <;> rfl
  rw [withoutHidden, foldl_concat, ← withoutHidden]
  cases token with
  | characters characters =>
    dsimp only
    rw [hopens]
    split
    · rfl
    · rw [append_nil]
  | tag tag => rfl
  | other => rfl

/-- **Hidden characters change nothing** in a well marked stream. -/
theorem WellMarked.processTokens_withoutHidden (h : WellMarked remote tokens) :
    processTokens remote (withoutHidden tokens) = processTokens remote tokens := by
  induction tokens using reverseRecOn with
  | nil => rfl
  | append_singleton tokens token ih =>
    have hbefore : WellMarked remote tokens := by
      intro before t hstart
      exact h before t (hstart.trans (prefix_append _ _))
    rw [withoutHidden_concat]
    cases token with
    | characters characters =>
      dsimp only
      split
      · rw [processTokens_concat, processTokens_concat, ih hbefore]
      · rename_i hopen
        rw [append_nil, ih hbefore, processTokens_concat]
        exact (hbefore.covered.characters (processTokens_checked tokens) hopen characters).symm
    | tag tag => rw [processTokens_concat, processTokens_concat, ih hbefore]
    | other => rw [processTokens_concat, processTokens_concat, ih hbefore]

/-- **Hidden content stays hidden**: hidden characters leave the sink as it is at every
point of a stream exactly when the stream is well marked; and then what is given out is
what the stream without its hidden characters gives. -/
theorem hidden_stays_hidden (remote : List Char → Bool) (tokens : List Token) :
    (WellMarked remote tokens ↔ KeepsHidden remote tokens) ∧
      (WellMarked remote tokens →
        (processTokens remote tokens).finish =
          (processTokens remote (withoutHidden tokens)).finish) := by
  refine ⟨⟨fun h before characters hstart hopen => ?_, fun h before token hstart hok => ?_⟩,
    fun h => by rw [h.processTokens_withoutHidden]⟩
  · have hbefore : WellMarked remote before := by
      intro start t hearly
      exact h start t (hearly.trans hstart)
    exact hbefore.covered.characters (processTokens_checked before) hopen characters
  · -- hidden characters change neither the state before the token nor the one after it
    have hpart : before <+: tokens := (List.prefix_append _ _).trans hstart
    have hcovered : Covered (processTokens remote before) (openElements before) :=
      covered_of_unchanged fun hopen => h before ['x'] hpart hopen
    have hafter : Covered (processTokens remote (before ++ [token]))
        (openElements (before ++ [token])) :=
      covered_of_unchanged fun hopen => h (before ++ [token]) ['x'] hstart hopen
    rw [processTokens_concat, openElements_concat] at hafter
    exact (hcovered.step_iff (processTokens_checked before) hok token).mp hafter

end Sink

namespace HiddenExample

def selfClosingScript : List Token :=
  [.tag ⟨.startTag, "script".toList, true, []⟩, .characters "alert(1)".toList,
    .tag ⟨.endTag, "script".toList, false, []⟩]

/-- The text between the script's start tag and its matching end tag is given out. -/
theorem script_text_emitted :
    Hidden (selfClosingScript.take 1) ∧ openElements selfClosingScript = [] ∧
      (processTokens (fun _ => false) selfClosingScript).finish =
        .ok ⟨"alert(1)".toList, [], []⟩ := by
  refine ⟨by decide, by decide, ?_⟩
  have hstate : processTokens (fun _ => false) selfClosingScript =
      ⟨"alert(1)".toList, [], [], [], 0, false⟩ := by decide
  have hmarks : popMarks (normalizeInlineWhitespace "alert(1)".toList) = "alert(1)".toList := by
    rw [popMarks, if_neg (by decide)]
    decide
  have hlines : lines "alert(1)".toList = ["alert(1)".toList] := by decide
  have htext : canonicalizeStructuralText "alert(1)".toList = "alert(1)".toList := by
    rw [canonicalizeStructuralText, hlines, List.foldl_cons, List.foldl_nil, hmarks]
    rfl
  rw [hstate, SanitizerState.finish, htext]
  decide

end HiddenExample

end Threadbook
