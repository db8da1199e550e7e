import Threadbook.HiddenContent
import Threadbook.InlineText

/-!
# Split characters

The tokenizer delivers a run of characters in one token or in several. The sink joins tokens by a
rule of its own, so a cut in a run may add a blank to the text or take one away: it leaves the
text as it is, whatever comes behind it, exactly when the rule puts a blank where the run has one
(**`characters_cut_iff`**). A splitting of a whole document all of whose cuts are such leaves the
text as it is (`HarmlessSplitting.alike`).
-/

namespace Threadbook

open List

/-! ## Appending -/

section Append

variable {output characters : List Char}

def blankIf (b : Bool) : List Char := if b then [' '] else []

/-- White space behind the output shows. -/
def dueBlank (output : List Char) : Bool := decide (output ≠ []) && !endsWithAny output [' ', '\n']

def wantsBlank (output normalized : List Char) : Bool :=
  decide (output ≠ []) && !endsWithAny output [' ', '\n', '|', '-'] &&
    !normalized.head?.any fun c => [',', '.', ':', ';', '!', '?', ')', ']', '}'].contains c

theorem appendCharacters_of_blank (h : normalizeInlineWhitespace characters = []) :
    appendCharacters output characters = output ++ blankIf (dueBlank output) := by
  simp only [appendCharacters, h, if_true, dueBlank, blankIf, Bool.and_eq_true, decide_eq_true_eq,
    Bool.not_eq_true', Bool.not_eq_true]
  split
  · rfl
  · rw [append_nil]

theorem appendCharacters_of_visible (h : normalizeInlineWhitespace characters ≠ []) :
    appendCharacters output characters =
      output ++ blankIf (wantsBlank output (normalizeInlineWhitespace characters)) ++
        normalizeInlineWhitespace characters := by
  simp only [appendCharacters, h, if_false, wantsBlank, blankIf, Bool.and_eq_true,
    decide_eq_true_eq, Bool.not_eq_true', Bool.not_eq_true, and_assoc]
  split
  · rw [append_assoc, singleton_append]
  · rw [append_nil]

theorem endsWithAny_append {left right : List Char} (h : right ≠ []) (marks : List Char) :
    endsWithAny (left ++ right) marks = endsWithAny right marks := by
  rw [endsWithAny, getLast?_append_of_ne_nil _ h, ← endsWithAny]

theorem wantsBlank_append {left right : List Char} (h : right ≠ []) (normalized : List Char) :
    wantsBlank (left ++ right) normalized = wantsBlank right normalized := by
  have hne : left ++ right ≠ [] := append_ne_nil_of_right_ne_nil left h
  rw [wantsBlank, wantsBlank, endsWithAny_append h, decide_eq_true h, decide_eq_true hne]

theorem due_behind_blank (output : List Char) :
    dueBlank (output ++ blankIf (dueBlank output)) = false ∧
      ∀ normalized, wantsBlank (output ++ blankIf (dueBlank output)) normalized = false := by
  cases hdue : dueBlank output with
  | true =>
    have hends (marks : List Char) (hmark : marks.contains ' ' = true) :
        endsWithAny (output ++ blankIf true) marks = true := by
      rw [endsWithAny_append (show blankIf true ≠ [] from nofun)]
      simpa [endsWithAny, blankIf] using hmark
    simp only [dueBlank, wantsBlank, hends [' ', '\n'] (by decide),
      hends [' ', '\n', '|', '-'] (by decide), Bool.not_true, Bool.and_false, Bool.false_and,
      implies_true, and_self]
  | false =>
    rw [show blankIf false = [] from rfl, append_nil]
    refine ⟨hdue, fun normalized => ?_⟩
    rw [dueBlank, Bool.and_eq_false_iff, decide_eq_false_iff_not, not_not,
      Bool.not_eq_false'] at hdue
    rcases hdue with rfl | hends
    · rfl
    · have hmore : endsWithAny output [' ', '\n', '|', '-'] = true := by
        rw [endsWithAny, Option.any_eq_true] at hends ⊢
        obtain ⟨c, hc, hmark⟩ := hends
        refine ⟨c, hc, ?_⟩
        simp only [contains_cons, contains_nil, Bool.or_false, Bool.or_eq_true,
          beq_iff_eq] at hmark ⊢
        rcases hmark with h | h
        · exact .inl h
        · exact .inr (.inl h)
      rw [wantsBlank, hmore, Bool.not_true, Bool.and_false, Bool.false_and]

/-- **The rule puts a blank at a cut where the run has one.** -/
def sameJoint (output before after : List Char) : Bool :=
  if normalizeInlineWhitespace before = [] then
    if normalizeInlineWhitespace after = [] then true
    else dueBlank output == wantsBlank output (normalizeInlineWhitespace after)
  else if normalizeInlineWhitespace after = [] then false
  else (endsBlank before || startsBlank after) ==
    wantsBlank (normalizeInlineWhitespace before) (normalizeInlineWhitespace after)

/-- **A run and its two parts** are put out alike, but that a blank may stand in one of them and
not in the other; none does if the joint is the same. -/
theorem appendCharacters_cut (output before after : List Char) : ∃ front rest whole parts,
      appendCharacters output (before ++ after) = front ++ blankIf whole ++ rest ∧
      appendCharacters (appendCharacters output before) after = front ++ blankIf parts ++ rest ∧
      (sameJoint output before after = true ↔ whole = parts) := by
  by_cases hbefore : normalizeInlineWhitespace before = []
  · have hrun := normalize_append_of_blank hbefore after
    have hfirst : appendCharacters output before = output ++ blankIf (dueBlank output) :=
      appendCharacters_of_blank hbefore
    obtain ⟨hdue, hwants⟩ := due_behind_blank output
    by_cases hafter : normalizeInlineWhitespace after = []
    · -- nothing is visible
      refine ⟨output ++ blankIf (dueBlank output), [], false, false, ?_, ?_, ?_⟩
      · rw [appendCharacters_of_blank (hrun.trans hafter)]
        simp [blankIf]
      · rw [hfirst, appendCharacters_of_blank hafter, hdue]
        simp
      · rw [sameJoint, if_pos hbefore, if_pos hafter]
        exact iff_of_true rfl rfl
    · refine ⟨output, normalizeInlineWhitespace after,
        wantsBlank output (normalizeInlineWhitespace after), dueBlank output, ?_, ?_, ?_⟩
      · rw [appendCharacters_of_visible (hrun ▸ hafter), hrun]
      · rw [hfirst, appendCharacters_of_visible hafter, hwants, show blankIf false = [] from rfl,
          append_nil]
      · rw [sameJoint, if_pos hbefore, if_neg hafter, beq_iff_eq]
        exact eq_comm
  · have hfirst : appendCharacters output before =
        output ++ blankIf (wantsBlank output (normalizeInlineWhitespace before)) ++
          normalizeInlineWhitespace before := appendCharacters_of_visible hbefore
    by_cases hafter : normalizeInlineWhitespace after = []
    · -- white space at the end shows in the output of the parts alone
      have hdue : dueBlank (appendCharacters output before) = true := by
        rw [hfirst, dueBlank, endsWithAny_append hbefore,
          decide_eq_true (append_ne_nil_of_right_ne_nil _ hbefore), Bool.true_and]
        have hvisible := (normalize_startsEndsVisible before).2
        rw [endsWithAny]
        cases hlast : (normalizeInlineWhitespace before).getLast? with
        | none => rfl
        | some c =>
          rw [Option.any_some, Bool.not_eq_true']
          by_contra hmem
          have hc := hvisible c hlast
          have hcases : c = ' ' ∨ c = '\n' := or_iff_not_imp_left.mpr (by simpa using hmem)
          rcases hcases with rfl | rfl
          · exact absurd hc (by decide)
          · exact absurd hc (by decide)
      refine ⟨appendCharacters output before, [], false, true, ?_, ?_, ?_⟩
      · have hrun := normalize_append_blank before hafter
        rw [appendCharacters_of_visible (hrun ▸ hbefore), hrun, ← hfirst]
        simp [blankIf]
      · rw [appendCharacters_of_blank hafter, hdue, append_nil]
      · rw [sameJoint, if_neg hbefore, if_pos hafter]
    · have hrun := normalize_append hbefore hafter
      have hne : normalizeInlineWhitespace (before ++ after) ≠ [] := by
        rw [hrun, append_assoc]
        exact append_ne_nil_of_left_ne_nil hbefore _
      have hhead : wantsBlank output (normalizeInlineWhitespace (before ++ after)) =
          wantsBlank output (normalizeInlineWhitespace before) := by
        rw [wantsBlank, wantsBlank, hrun, append_assoc, head?_append_of_ne_nil _ hbefore]
      refine ⟨appendCharacters output before, normalizeInlineWhitespace after,
        endsBlank before || startsBlank after,
        wantsBlank (normalizeInlineWhitespace before) (normalizeInlineWhitespace after), ?_, ?_, ?_⟩
      · rw [appendCharacters_of_visible hne, hhead, hrun, hfirst]
        simp only [append_assoc, blankIf]
      · rw [appendCharacters_of_visible hafter, hfirst, wantsBlank_append hbefore]
      · rw [sameJoint, if_neg hbefore, if_neg hafter, beq_iff_eq]

end Append

/-! ## Cuts -/

section Cuts

variable {remote : List Char → Bool} {state state' : SanitizerState}

def Alike (state state' : SanitizerState) : Prop :=
  state = state' ∨ (state.failed = true ∧ state'.failed = true)

theorem Alike.processTokens (h : Alike state state') (tokens : List Token) :
    Alike (tokens.foldl (processToken remote) state)
      (tokens.foldl (processToken remote) state') := by
  have hfailed {state : SanitizerState} (h : state.failed = true) :
      tokens.foldl (processToken remote) state = state := by
    induction tokens with
    | nil => rfl
    | cons token rest ih => rw [foldl_cons, processToken_failed h, ih]
  rcases h with rfl | ⟨h, h'⟩
  · exact .inl rfl
  · rw [hfailed h, hfailed h']
    exact .inr ⟨h, h'⟩

theorem Alike.finish (h : Alike state state') : state.finish = state'.finish := by
  rcases h with rfl | ⟨h, h'⟩
  · rfl
  · rw [SanitizerState.finish, SanitizerState.finish, if_pos h, if_pos h']

def TooLong (output : List Char) : Prop := maxFragmentTotalBytes * 2 < (encode output).length

instance (output : List Char) : Decidable (TooLong output) :=
  inferInstanceAs (Decidable (_ < _))

/-- **A cut between two parts of a run that changes nothing**: the run is not shown, or it makes
the output too long in one token and in two, or the joint is the same. -/
def CutHarmless (state : SanitizerState) (before after : List Char) : Prop :=
  state.failed = true ∨ state.suppressed ≠ [] ∨
    (TooLong (appendCharacters state.output (before ++ after)) ∧
      TooLong (appendCharacters (appendCharacters state.output before) after)) ∨
    sameJoint state.output before after = true

instance (state : SanitizerState) (before after : List Char) :
    Decidable (CutHarmless state before after) :=
  inferInstanceAs (Decidable (_ ∨ _ ∨ _ ∨ _))

def SanitizerState.showing (self : SanitizerState) (output : List Char) : SanitizerState :=
  { self with output, failed := decide (TooLong output) }

theorem processToken_shown (hok : state.failed = false) (hshown : state.suppressed = [])
    (characters : List Char) :
    processToken remote state (.characters characters) =
      state.showing (appendCharacters state.output characters) := by
  obtain ⟨output, cids, suppressed, sources, cells, failed⟩ := state
  obtain rfl : failed = false := hok
  obtain rfl : suppressed = [] := hshown
  by_cases hlong : TooLong (appendCharacters output characters)
  · rw [SanitizerState.showing, decide_eq_true hlong]
    exact if_pos hlong
  · rw [SanitizerState.showing, decide_eq_false hlong]
    exact if_neg hlong

theorem appendCharacters_prefix (output characters : List Char) :
    output <+: appendCharacters output characters := by
  by_cases h : normalizeInlineWhitespace characters = []
  · rw [appendCharacters_of_blank h]
    exact prefix_append _ _
  · rw [appendCharacters_of_visible h, append_assoc]
    exact prefix_append _ _

theorem TooLong.append {output : List Char} (h : TooLong output) (characters : List Char) :
    TooLong (appendCharacters output characters) := by
  obtain ⟨rest, hrest⟩ := appendCharacters_prefix output characters
  have hlength : (encode output).length ≤ (encode (appendCharacters output characters)).length := by
    rw [← hrest, encode_append, length_append]
    exact Nat.le_add_right _ _
  exact h.trans_le hlength

theorem showing_failed {output : List Char} (h : ¬ TooLong output) :
    (state.showing output).failed = false := decide_eq_false h

theorem processToken_twice (hok : state.failed = false) (hshown : state.suppressed = [])
    (before after : List Char) :
    Alike (processToken remote (processToken remote state (.characters before)) (.characters after))
      (state.showing (appendCharacters (appendCharacters state.output before) after)) := by
  rw [processToken_shown hok hshown before]
  by_cases hlong : TooLong (appendCharacters state.output before)
  · -- the sink has failed at the first part
    rw [processToken_failed (decide_eq_true hlong)]
    exact .inr ⟨decide_eq_true hlong, decide_eq_true (hlong.append after)⟩
  · exact .inl (processToken_shown (showing_failed hlong) hshown after)

theorem CutHarmless.alike {before after : List Char} (h : CutHarmless state before after) :
    Alike (processToken remote state (.characters (before ++ after)))
      (processToken remote (processToken remote state (.characters before))
        (.characters after)) := by
  cases hok : state.failed with
  | true =>
    rw [processToken_failed hok, processToken_failed hok, processToken_failed hok]
    exact .inl rfl
  | false =>
    by_cases hshown : state.suppressed = []
    · have htwice := @processToken_twice remote state hok hshown before after
      rw [processToken_shown hok hshown (before ++ after)]
      rcases h with hfailed | hhidden | ⟨hlong, hlong'⟩ | hjoint
      · rw [hok] at hfailed
        cases hfailed
      · exact absurd hshown hhidden
      · rcases htwice with heq | ⟨hfailed, -⟩
        · exact .inr ⟨decide_eq_true hlong, (congrArg SanitizerState.failed heq).trans
            (decide_eq_true hlong')⟩
        · exact .inr ⟨decide_eq_true hlong, hfailed⟩
      · obtain ⟨front, rest, whole, parts, hwhole, hparts, hiff⟩ :=
          appendCharacters_cut state.output before after
        obtain rfl := hiff.mp hjoint
        rw [hwhole.trans hparts.symm]
        rcases htwice with heq | ⟨hfailed, hfailed'⟩
        · exact .inl heq.symm
        · exact .inr ⟨hfailed', hfailed⟩
    · -- nothing is shown
      have hhidden (characters : List Char) :
          processToken remote state (.characters characters) = checkOutput state := by
        unfold processToken
        rw [hok, if_neg Bool.false_ne_true]
        dsimp only
        rw [if_neg hshown]
      rw [hhidden, hhidden]
      cases hfailed : (checkOutput state).failed with
      | true =>
        rw [processToken_failed hfailed]
        exact .inl rfl
      | false =>
        have hshort : checkOutput state = state := by
          rw [checkOutput] at hfailed ⊢
          split at hfailed
          · cases hfailed
          · rename_i hshort
            rw [if_neg hshort]
        rw [hshort, hhidden, hshort]
        exact .inl rfl

theorem appendCharacters_commas (output : List Char) (count : ℕ) :
    appendCharacters output (replicate (count + 1) ',') = output ++ replicate (count + 1) ',' := by
  have hcomma : isVisible ',' = true := by decide
  have hnormal (count : ℕ) : normalizing (replicate count ',') = (replicate count ',', false) := by
    induction count with
    | zero => rfl
    | succ count ih =>
      rw [replicate_succ', normalizing_concat, ih, normalizeStep_of_visible hcomma,
        if_neg Bool.false_ne_true, append_nil]
  have hsame : normalizeInlineWhitespace (replicate (count + 1) ',') =
      replicate (count + 1) ',' := congrArg Prod.fst (hnormal (count + 1))
  have hwants : wantsBlank output (replicate (count + 1) ',') = false := by
    rw [wantsBlank, replicate_succ, head?_cons, Option.any_some]
    simp
  rw [appendCharacters_of_visible (by rw [hsame]; exact cons_ne_nil _ _), hsame, hwants,
    show blankIf false = [] from rfl, append_nil]

theorem finish_ne_of_failed (h : state.failed ≠ state'.failed) : state.finish ≠ state'.finish := by
  have hone {state state' : SanitizerState} (h : state.failed = false) (h' : state'.failed = true) :
      state.finish ≠ state'.finish := by
    rw [SanitizerState.finish, SanitizerState.finish, if_pos h', h, if_neg Bool.false_ne_true]
    dsimp only
    split
    · simp
    · simp
  cases hfailed : state.failed with
  | false => exact hone hfailed (by rw [← Bool.not_eq_false, ← hfailed]; exact h.symm)
  | true => exact (hone (by rw [← Bool.not_eq_true, ← hfailed]; exact h.symm) hfailed).symm

theorem exists_commas {output output' : List Char}
    (hlength : (encode output).length ≠ (encode output').length) (h : ¬ TooLong output)
    (h' : ¬ TooLong output') :
    ∃ count, decide (TooLong (output ++ replicate (count + 1) ',')) ≠
      decide (TooLong (output' ++ replicate (count + 1) ',')) := by
  have hcount (count : ℕ) (output : List Char) :
      (encode (output ++ replicate count ',')).length = (encode output).length + count := by
    have hcomma : (encode [',']).length = 1 := by decide
    induction count with
    | zero => rw [replicate_zero, append_nil, Nat.add_zero]
    | succ count ih =>
      rw [replicate_succ', ← append_assoc, encode_append, length_append, ih, hcomma, Nat.add_assoc]
  refine ⟨maxFragmentTotalBytes * 2 - min (encode output).length (encode output').length - 1, ?_⟩
  simp only [TooLong, hcount, ne_eq, decide_eq_decide] at h h' ⊢
  omega

/-- **A cut that is not harmless shows**: some text behind the run comes out otherwise. -/
theorem exists_after_of_not_harmless {before after : List Char} (tokens : List Token)
    (h : ¬ CutHarmless (processTokens remote tokens) before after) :
    ∃ rest, (∀ characters more, rest ≠ .characters characters :: more) ∧
      (processTokens remote (tokens ++ .characters (before ++ after) :: rest)).finish ≠
        (processTokens remote
          (tokens ++ .characters before :: .characters after :: rest)).finish := by
  simp only [CutHarmless, not_or, Bool.not_eq_true, not_not] at h
  obtain ⟨hok, hshown, hlong, hjoint⟩ := h
  obtain ⟨front, tail, whole, parts, hwhole, hparts, hiff⟩ :=
    appendCharacters_cut (processTokens remote tokens).output before after
  have hlength : (encode (appendCharacters (processTokens remote tokens).output
      (before ++ after))).length ≠ (encode (appendCharacters
        (appendCharacters (processTokens remote tokens).output before) after)).length := by
    have hne : whole ≠ parts := fun heq => by
      rw [hiff.mpr heq] at hjoint
      cases hjoint
    have hone : (encode (blankIf true)).length = 1 ∧ (encode (blankIf false)).length = 0 := by
      decide
    rw [hwhole, hparts]
    simp only [encode_append, length_append]
    cases whole with
    | true =>
      cases parts with
      | true => exact absurd rfl hne
      | false => omega
    | false =>
      cases parts with
      | true => omega
      | false => exact absurd rfl hne
  have hrun (rest : List Token) :
      processTokens remote (tokens ++ .characters (before ++ after) :: rest) =
        rest.foldl (processToken remote) ((processTokens remote tokens).showing
          (appendCharacters (processTokens remote tokens).output (before ++ after))) := by
    rw [processTokens, foldl_append, ← processTokens, foldl_cons, processToken_shown hok hshown]
  have htwice (rest : List Token) : (processTokens remote
      (tokens ++ .characters before :: .characters after :: rest)).finish =
        (rest.foldl (processToken remote) ((processTokens remote tokens).showing (appendCharacters
          (appendCharacters (processTokens remote tokens).output before) after))).finish := by
    rw [processTokens, foldl_append, ← processTokens, foldl_cons, foldl_cons]
    exact ((processToken_twice hok hshown before after).processTokens rest).finish
  by_cases hone :
      TooLong (appendCharacters (processTokens remote tokens).output (before ++ after)) ↔ TooLong
          (appendCharacters (appendCharacters (processTokens remote tokens).output before) after)
  · -- neither output is too long yet
    have hshort : ¬ TooLong (appendCharacters (processTokens remote tokens).output
        (before ++ after)) := fun hlong' => hlong ⟨hlong', hone.mp hlong'⟩
    have hshort' := mt hone.mpr hshort
    obtain ⟨count, hcount⟩ := exists_commas hlength hshort hshort'
    refine ⟨[.other, .characters (replicate (count + 1) ',')], by simp, ?_⟩
    have hmore {output : List Char} (h : ¬ TooLong output) :
        [Token.other, .characters (replicate (count + 1) ',')].foldl (processToken remote)
          ((processTokens remote tokens).showing output) =
            ((processTokens remote tokens).showing output).showing
              (output ++ replicate (count + 1) ',') := by
      have hother : processToken remote ((processTokens remote tokens).showing output) .other =
          (processTokens remote tokens).showing output := by
        unfold processToken
        rw [showing_failed h, if_neg Bool.false_ne_true]
        exact if_neg h
      rw [foldl_cons, hother, foldl_cons, foldl_nil, processToken_shown (showing_failed h) hshown]
      exact congrArg _ (appendCharacters_commas output count)
    rw [hrun, htwice, hmore hshort, hmore hshort']
    exact finish_ne_of_failed hcount
  · refine ⟨[], by simp, ?_⟩
    rw [hrun, htwice]
    exact finish_ne_of_failed (mt decide_eq_decide.mp hone)

/-! ## Splittings -/

/-- **A splitting of a document**: every token of characters is delivered in parts, one after the
other, none of them empty. -/
inductive Splitting : List Token → List Token → Prop
  | nil : Splitting [] []
  | tag (tag : Tag) {doc tokens : List Token} (h : Splitting doc tokens) :
      Splitting (.tag tag :: doc) (.tag tag :: tokens)
  | other {doc tokens : List Token} (h : Splitting doc tokens) :
      Splitting (.other :: doc) (.other :: tokens)
  | characters (parts : List (List Char)) (hparts : ∀ part ∈ parts, part ≠ [])
      {doc tokens : List Token} (h : Splitting doc tokens) :
      Splitting (.characters parts.flatten :: doc) (parts.map .characters ++ tokens)

inductive HarmlessParts (remote : List Char → Bool) : SanitizerState → List (List Char) → Prop
  | one (state : SanitizerState) (part : List Char) : HarmlessParts remote state [part]
  | cons {state : SanitizerState} {part : List Char} {parts : List (List Char)}
      (hcut : CutHarmless state part parts.flatten)
      (h : HarmlessParts remote (processToken remote state (.characters part)) parts) :
      HarmlessParts remote state (part :: parts)

/-- **A splitting with harmless cuts** alone. -/
inductive HarmlessSplitting (remote : List Char → Bool) :
    SanitizerState → List Token → List Token → Prop
  | nil (state : SanitizerState) : HarmlessSplitting remote state [] []
  | tag {state : SanitizerState} (tag : Tag) {doc tokens : List Token}
      (h : HarmlessSplitting remote (processToken remote state (.tag tag)) doc tokens) :
      HarmlessSplitting remote state (.tag tag :: doc) (.tag tag :: tokens)
  | other {state : SanitizerState} {doc tokens : List Token}
      (h : HarmlessSplitting remote (processToken remote state .other) doc tokens) :
      HarmlessSplitting remote state (.other :: doc) (.other :: tokens)
  | characters {state : SanitizerState} {parts : List (List Char)}
      (hparts : HarmlessParts remote state parts) {doc tokens : List Token}
      (h : HarmlessSplitting remote ((parts.map .characters).foldl (processToken remote) state) doc
        tokens) :
      HarmlessSplitting remote state (.characters parts.flatten :: doc)
        (parts.map .characters ++ tokens)

theorem Alike.trans {state'' : SanitizerState} (h : Alike state state')
    (h' : Alike state' state'') : Alike state state'' := by
  rcases h with rfl | ⟨hfailed, hfailed'⟩
  · exact h'
  · rcases h' with rfl | ⟨-, hfailed''⟩
    · exact .inr ⟨hfailed, hfailed'⟩
    · exact .inr ⟨hfailed, hfailed''⟩

theorem HarmlessParts.alike {parts : List (List Char)} (h : HarmlessParts remote state parts) :
    Alike (processToken remote state (.characters parts.flatten))
      ((parts.map .characters).foldl (processToken remote) state) := by
  induction h with
  | one state part =>
    rw [flatten_singleton]
    exact .inl rfl
  | cons hcut _ ih =>
    rw [flatten_cons, map_cons, foldl_cons]
    exact hcut.alike.trans ih

theorem HarmlessSplitting.alike {doc tokens : List Token}
    (h : HarmlessSplitting remote state doc tokens) :
    Alike (doc.foldl (processToken remote) state) (tokens.foldl (processToken remote) state) := by
  induction h with
  | nil state => exact .inl rfl
  | tag tag _ ih => exact ih
  | other _ ih => exact ih
  | @characters state parts hparts doc tokens _ ih =>
    rw [foldl_cons, foldl_append]
    exact (hparts.alike.processTokens doc).trans ih

/-- **When splitting a run changes nothing**: a splitting of a document all of whose cuts are
harmless gives the same text; and a cut gives the same, whatever comes behind the run, exactly when
it is harmless. -/
theorem characters_cut_iff (remote : List Char → Bool) :
    (∀ doc tokens, HarmlessSplitting remote .default doc tokens →
      (processTokens remote tokens).finish = (processTokens remote doc).finish) ∧
    ∀ tokens before after,
      (∀ rest, (∀ characters more, rest ≠ .characters characters :: more) →
        (processTokens remote (tokens ++ .characters (before ++ after) :: rest)).finish =
          (processTokens remote
            (tokens ++ .characters before :: .characters after :: rest)).finish) ↔
      CutHarmless (processTokens remote tokens) before after := by
  refine ⟨fun doc tokens h => h.alike.finish.symm, fun tokens before after => ⟨fun h => ?_, ?_⟩⟩
  · by_contra hnot
    obtain ⟨rest, hrest, hne⟩ := exists_after_of_not_harmless tokens hnot
    exact hne (h rest hrest)
  · intro h rest _
    have hrun (rest : List Token) : processTokens remote (tokens ++ rest) =
        rest.foldl (processToken remote) (processTokens remote tokens) := by
      rw [processTokens, List.foldl_append, ← processTokens]
    rw [hrun, hrun, List.foldl_cons, List.foldl_cons, List.foldl_cons]
    exact (h.alike.processTokens rest).finish

end Cuts

namespace SplitExample

def word : List Token := [.characters "café".toList]

def wordInParts : List Token := [.characters "caf".toList, .characters "é".toList]

/-- A blank character is in the text of the word in parts. -/
theorem word_changed : ¬ ∀ remote doc tokens, Splitting doc tokens →
    (processTokens remote tokens).finish = (processTokens remote doc).finish := by
  intro h
  have hsplitting : Splitting word wordInParts :=
    .characters ["caf".toList, "é".toList] (by decide) .nil
  have hsame := h (fun _ => false) _ _ hsplitting
  have hmarks (line : List Char) (hline : endsWithAny line ['|', '-'] = false) :
      popMarks line = line := by
    rw [popMarks, if_neg (by rw [hline]; exact Bool.false_ne_true)]
  have hfinish (text : List Char) (hlines : lines text = [text])
      (hnormal : normalizeInlineWhitespace text = text) (hne : text ≠ [])
      (hends : endsWithAny text ['|', '-'] = false)
      (hshort : (encode text).length ≤ maxFragmentTotalBytes) :
      (⟨text, [], [], [], 0, false⟩ : SanitizerState).finish = .ok ⟨text, [], []⟩ := by
    have htext : canonicalizeStructuralText text = text := by
      rw [canonicalizeStructuralText, hlines, List.foldl_cons, List.foldl_nil, hnormal,
        hmarks text hends]
      simp [hne]
    rw [SanitizerState.finish, htext]
    exact if_neg (not_lt.mpr hshort)
  have hword : processTokens (fun _ => false) word = ⟨"café".toList, [], [], [], 0, false⟩ := by
    decide
  have hparts : processTokens (fun _ => false) wordInParts =
      ⟨"caf é".toList, [], [], [], 0, false⟩ := by decide
  rw [hword, hparts, hfinish _ (by decide) (by decide) (by decide) (by decide) (by decide),
    hfinish _ (by decide) (by decide) (by decide) (by decide) (by decide)] at hsame
  exact absurd hsame (by decide)

/-- A cut before a blank between words changes nothing. -/
theorem blank_between_words :
    (processTokens (fun _ => false)
        [.characters "Total".toList, .characters " due".toList]).finish =
      (processTokens (fun _ => false) [.characters "Total due".toList]).finish := by
  have hharmless : HarmlessParts (fun _ => false) .default ["Total".toList, " due".toList] :=
    .cons (by decide) (.one _ _)
  exact (characters_cut_iff fun _ => false).1 _ _ (.characters hharmless (.nil _))

end SplitExample

end Threadbook
