import Threadbook.Errors
import Threadbook.Lines

/-!
# Mailboxes in one file

In the mboxrd format a line that starts with `From ` stands before every message. A line of a
message that would be taken for one is written with a `>` in front; so is a line that already
has such a `>`. Reading cuts the file at the separator lines and takes the `>` away.

`unescapeMboxrd` takes it away only where the line had none before. So a file is read as it was
written exactly if none of its messages quotes a separator line (**`decodes_iff`**).
-/

namespace Threadbook.Imports

open List

/-! ## Reading -/

def mboxMessageLimit : ℕ := 2000

/-- The end of a line. -/
def newline : UInt8 := 10

def isNewline (byte : UInt8) : Bool := byte == newline

def quoteMark : UInt8 := 62

/-- What a separator line starts with, `From `. -/
def fromMark : List UInt8 := [70, 114, 111, 109, 32]

def linesOf (bytes : List UInt8) : List (List UInt8) := Lines.split isNewline bytes

def findDelimiters : List (List UInt8) → ℕ → List (ℕ × ℕ) → Except PlatformError (List (ℕ × ℕ))
  | [], _, delimiters => .ok delimiters
  | line :: lines, lineStart, delimiters =>
    let lineEnd := lineStart + line.length
    if fromMark.isPrefixOf line then
      let delimiters := delimiters ++ [(lineStart, lineEnd)]
      if mboxMessageLimit < delimiters.length then .error (.invalidInput "mbox_message_limit")
      else findDelimiters lines lineEnd delimiters
    else findDelimiters lines lineEnd delimiters

def slicesBetween (fileEnd : ℕ) : List (ℕ × ℕ) → List (ℕ × ℕ)
  | [] => []
  | (_, messageStart) :: delimiters =>
    let messageEnd := (delimiters.head?.map Prod.fst).getD fileEnd
    if messageStart < messageEnd then
      (messageStart, messageEnd) :: slicesBetween fileEnd delimiters
    else slicesBetween fileEnd delimiters

/-- Where the messages of a file start and end. -/
def splitMboxrd (bytes : List UInt8) : Except PlatformError (List (ℕ × ℕ)) := do
  let delimiters ← findDelimiters (linesOf bytes) 0 []
  if delimiters.isEmpty then .error (.invalidInput "mbox_delimiter_missing")
  else .ok (slicesBetween bytes.length delimiters)

def unescapeLine (line : List UInt8) : List UInt8 :=
  if (quoteMark :: fromMark).isPrefixOf line then line.tail else line

/-- A message without its quotes. -/
def unescapeMboxrd (raw : List UInt8) : List UInt8 := (linesOf raw).flatMap unescapeLine

/-! ## Writing -/

structure MboxMessage where
  separator : List UInt8
  body : List UInt8
  separator_line : newline ∉ separator
  ends : body.getLast? = some newline

def isFromLine (line : List UInt8) : Bool := fromMark.isPrefixOf (line.dropWhile (· == quoteMark))

def quoteLine (line : List UInt8) : List UInt8 :=
  if isFromLine line then quoteMark :: line else line

namespace MboxMessage

def separatorLine (self : MboxMessage) : List UInt8 := fromMark ++ self.separator ++ [newline]

def textLines (self : MboxMessage) : List (List UInt8) :=
  (linesOf self.body).map quoteLine ++ [[newline]]

def text (self : MboxMessage) : List UInt8 := self.textLines.flatten

def original (self : MboxMessage) : List UInt8 := self.body ++ [newline]

end MboxMessage

def writeMboxrd (messages : List MboxMessage) : List UInt8 :=
  messages.flatMap fun message => message.separatorLine ++ message.text

def isQuotedFromLine (line : List UInt8) : Bool := line.head? == some quoteMark && isFromLine line

/-- From `start` on, a file is made of the separator lines and the slices of the messages, in
turn. -/
def Partitions (bytes : List UInt8) : ℕ → List MboxMessage → List (ℕ × ℕ) → Prop
  | start, [], [] => start = bytes.length
  | start, message :: messages, (s, e) :: slices =>
    (bytes.drop start).take (s - start) = message.separatorLine ∧
      (bytes.drop s).take (e - s) = message.text ∧ start < s ∧ s < e ∧
      Partitions bytes e messages slices
  | _, _, _ => False

def Decodes (messages : List MboxMessage) : Prop :=
  ∃ slices, splitMboxrd (writeMboxrd messages) = .ok slices ∧
    Partitions (writeMboxrd messages) 0 messages slices ∧
    slices.map (fun slice => unescapeMboxrd
      (((writeMboxrd messages).drop slice.1).take (slice.2 - slice.1))) =
      messages.map MboxMessage.original

/-! ## Lines of a file -/

theorem isNewline_newline : isNewline newline = true := beq_self_eq_true newline

theorem isLine_separatorLine (message : MboxMessage) :
    Lines.IsLine isNewline message.separatorLine := by
  refine Lines.isLine_concat ?_ isNewline_newline
  intro b hb
  rcases mem_append.mp hb with hb | hb
  · have hmark : ∀ b ∈ fromMark, isNewline b = false := by simp [fromMark, isNewline, newline]
    exact hmark b hb
  · rw [isNewline, beq_eq_false_iff_ne]
    rintro rfl
    exact message.separator_line hb

variable {line : List UInt8}

theorem isLine_quoteLine (h : Lines.IsLine isNewline line) :
    Lines.IsLine isNewline (quoteLine line) := by
  rw [quoteLine]
  split
  · exact .cons (by decide) h
  · exact h

theorem isLine_of_mem_textLines {message : MboxMessage} (h : line ∈ message.textLines) :
    Lines.IsLine isNewline line := by
  rcases mem_append.mp h with h | h
  · obtain ⟨line, hline, rfl⟩ := mem_map.mp h
    exact isLine_quoteLine (Lines.isLine_of_mem_split message.ends isNewline_newline hline)
  · rw [mem_singleton.mp h]
    exact .last isNewline_newline

theorem not_isPrefixOf_quoteMark (rest : List UInt8) :
    fromMark.isPrefixOf (quoteMark :: rest) = false := rfl

theorem isFromLine_quoteMark (rest : List UInt8) :
    isFromLine (quoteMark :: rest) = isFromLine rest := by
  rw [isFromLine, dropWhile_cons_of_pos (by simp), isFromLine]

theorem isFromLine_of_head? (h : line.head? ≠ some quoteMark) :
    isFromLine line = fromMark.isPrefixOf line := by
  cases line with
  | nil => rfl
  | cons b rest =>
    have hb : b ≠ quoteMark := fun heq => h (by rw [heq]; rfl)
    rw [isFromLine, dropWhile_cons_of_neg (by simpa using hb)]

theorem isFromLine_of_isPrefixOf (h : fromMark.isPrefixOf line = true) :
    isFromLine line = true := by
  rw [isFromLine_of_head?, h]
  intro hhead
  obtain ⟨rest, rfl⟩ := head?_eq_some_iff.mp hhead
  cases h

theorem not_isPrefixOf_quoteLine (line : List UInt8) :
    fromMark.isPrefixOf (quoteLine line) = false := by
  rw [quoteLine]
  split
  · exact not_isPrefixOf_quoteMark line
  · rename_i h
    rw [Bool.eq_false_iff]
    exact fun hprefix => h (isFromLine_of_isPrefixOf hprefix)

theorem not_isPrefixOf_of_mem_textLines {message : MboxMessage} (h : line ∈ message.textLines) :
    fromMark.isPrefixOf line = false := by
  rcases mem_append.mp h with h | h
  · obtain ⟨line, -, rfl⟩ := mem_map.mp h
    exact not_isPrefixOf_quoteLine line
  · rw [mem_singleton.mp h]
    decide

theorem isPrefixOf_separatorLine (message : MboxMessage) :
    fromMark.isPrefixOf message.separatorLine = true := by
  rw [List.isPrefixOf_iff_prefix, MboxMessage.separatorLine, append_assoc]
  exact prefix_append _ _

def fileLines (messages : List MboxMessage) : List (List UInt8) :=
  messages.flatMap fun message => message.separatorLine :: message.textLines

theorem flatten_fileLines (messages : List MboxMessage) :
    (fileLines messages).flatten = writeMboxrd messages := by
  induction messages with
  | nil => rfl
  | cons message messages ih =>
    rw [fileLines, flatMap_cons, flatten_append, writeMboxrd, flatMap_cons]
    rw [fileLines, writeMboxrd] at ih
    rw [ih]
    rfl

/-- **The lines of a file** are those of its messages. -/
theorem linesOf_writeMboxrd (messages : List MboxMessage) :
    linesOf (writeMboxrd messages) = fileLines messages := by
  rw [linesOf, ← flatten_fileLines, Lines.split_flatten]
  intro line hline
  obtain ⟨message, -, hline⟩ := mem_flatMap.mp hline
  rcases mem_cons.mp hline with rfl | hline
  · exact isLine_separatorLine message
  · exact isLine_of_mem_textLines hline

/-! ## Positions -/

/-- The separator lines of messages that are written from `start` on. -/
def delimitersFrom : ℕ → List MboxMessage → List (ℕ × ℕ)
  | _, [] => []
  | start, message :: messages =>
    (start, start + message.separatorLine.length) ::
      delimitersFrom (start + message.separatorLine.length + message.text.length) messages

/-- The slices of messages that are written from `start` on. -/
def slicesFrom : ℕ → List MboxMessage → List (ℕ × ℕ)
  | _, [] => []
  | start, message :: messages =>
    (start + message.separatorLine.length,
      start + message.separatorLine.length + message.text.length) ::
      slicesFrom (start + message.separatorLine.length + message.text.length) messages

theorem findDelimiters_append {lines : List (List UInt8)}
    (h : ∀ line ∈ lines, fromMark.isPrefixOf line = false) (rest : List (List UInt8)) (start : ℕ)
    (delimiters : List (ℕ × ℕ)) :
    findDelimiters (lines ++ rest) start delimiters =
      findDelimiters rest (start + lines.flatten.length) delimiters := by
  induction lines generalizing start with
  | nil => rfl
  | cons line lines ih =>
    rw [forall_mem_cons] at h
    rw [cons_append, findDelimiters, h.1]
    simp only [Bool.false_eq_true, if_false]
    rw [ih h.2, flatten_cons, length_append, Nat.add_assoc]

/-- **The separator lines** of a file are found, unless there are too many. -/
theorem findDelimiters_fileLines {messages : List MboxMessage} {delimiters : List (ℕ × ℕ)}
    (hfew : delimiters.length ≤ mboxMessageLimit) (start : ℕ) :
    findDelimiters (fileLines messages) start delimiters =
      if mboxMessageLimit < delimiters.length + messages.length then
        .error (.invalidInput "mbox_message_limit")
      else .ok (delimiters ++ delimitersFrom start messages) := by
  induction messages generalizing start delimiters with
  | nil =>
    rw [length_nil, Nat.add_zero, if_neg (Nat.not_lt.mpr hfew), delimitersFrom,
      append_nil]
    rfl
  | cons message messages ih =>
    rw [fileLines, flatMap_cons, cons_append, findDelimiters, isPrefixOf_separatorLine]
    simp only [if_true, length_append, length_cons, length_nil]
    split
    · rw [if_pos (by omega)]
    · rename_i hroom
      have hfew' : (delimiters ++ [(start, start + message.separatorLine.length)]).length ≤
          mboxMessageLimit := by simpa using hroom
      have hstep := ih hfew' (start + message.separatorLine.length + message.text.length)
      rw [findDelimiters_append fun line => not_isPrefixOf_of_mem_textLines, ← fileLines]
      change findDelimiters (fileLines messages)
        (start + message.separatorLine.length + message.text.length) _ = _
      rw [hstep, length_append, length_singleton, delimitersFrom, append_assoc,
        singleton_append, Nat.add_assoc, Nat.add_comm 1]

theorem text_ne_nil (message : MboxMessage) : message.text ≠ [] := by
  rw [MboxMessage.text, MboxMessage.textLines, flatten_append]
  simp

/-- **The slices** between the separator lines. -/
theorem slicesBetween_delimitersFrom (messages : List MboxMessage) (start : ℕ) :
    slicesBetween (start + (writeMboxrd messages).length) (delimitersFrom start messages) =
      slicesFrom start messages := by
  induction messages generalizing start with
  | nil => rfl
  | cons message messages ih =>
    have hlength : start + (writeMboxrd (message :: messages)).length =
        start + message.separatorLine.length + message.text.length +
          (writeMboxrd messages).length := by
      rw [writeMboxrd, flatMap_cons, length_append, length_append, ← writeMboxrd]
      omega
    have hnext : ((delimitersFrom (start + message.separatorLine.length + message.text.length)
        messages).head?.map Prod.fst).getD (start + (writeMboxrd (message :: messages)).length) =
          start + message.separatorLine.length + message.text.length := by
      cases messages with
      | nil => exact hlength
      | cons next messages => rfl
    have hpositive := length_pos_of_ne_nil (text_ne_nil message)
    rw [delimitersFrom, slicesBetween, hnext]
    simp only [Nat.lt_add_of_pos_right hpositive, if_true]
    rw [hlength, ih, slicesFrom]

/-- **Splitting** a file finds the slices of its messages, if there are some and not too many. -/
theorem splitMboxrd_writeMboxrd (messages : List MboxMessage) :
    splitMboxrd (writeMboxrd messages) =
      if mboxMessageLimit < messages.length then .error (.invalidInput "mbox_message_limit")
      else if messages = [] then .error (.invalidInput "mbox_delimiter_missing")
      else .ok (slicesFrom 0 messages) := by
  rw [splitMboxrd, linesOf_writeMboxrd, findDelimiters_fileLines (Nat.zero_le _), length_nil,
    Nat.zero_add]
  split
  · rfl
  · change (if (delimitersFrom 0 messages).isEmpty then _ else _) = _
    rcases hmessages : messages with _ | ⟨message, rest⟩
    · rfl
    · have hslices := slicesBetween_delimitersFrom (message :: rest) 0
      rw [Nat.zero_add] at hslices
      rw [nil_append, hslices]
      rfl

theorem partitions_slicesFrom (before : List UInt8) (messages : List MboxMessage) :
    Partitions (before ++ writeMboxrd messages) before.length messages
      (slicesFrom before.length messages) := by
  induction messages generalizing before with
  | nil => simp [slicesFrom, Partitions, writeMboxrd]
  | cons message messages ih =>
    have hfile : before ++ writeMboxrd (message :: messages) =
        before ++ message.separatorLine ++ message.text ++ writeMboxrd messages := by
      simp [writeMboxrd]
    have hrest := ih (before ++ message.separatorLine ++ message.text)
    rw [length_append, length_append] at hrest
    have hseparator : 0 < message.separatorLine.length := by
      simp [MboxMessage.separatorLine]
    have hpositive := length_pos_of_ne_nil (text_ne_nil message)
    rw [hfile, slicesFrom]
    refine ⟨?_, ?_, Nat.lt_add_of_pos_right hseparator, Nat.lt_add_of_pos_right hpositive, hrest⟩
    · rw [append_assoc, append_assoc, drop_left, Nat.add_sub_cancel_left,
        take_left]
    · rw [append_assoc, ← length_append, drop_left, Nat.add_sub_cancel_left,
        take_left]

theorem Partitions.texts {bytes : List UInt8} {start : ℕ} {messages : List MboxMessage}
    {slices : List (ℕ × ℕ)} (h : Partitions bytes start messages slices) :
    slices.map (fun slice => (bytes.drop slice.1).take (slice.2 - slice.1)) =
      messages.map MboxMessage.text := by
  induction messages generalizing start slices with
  | nil =>
    cases slices with
    | nil => rfl
    | cons slice slices => cases h
  | cons message messages ih =>
    cases slices with
    | nil => cases h
    | cons slice slices =>
      obtain ⟨-, htext, -, -, hrest⟩ := h
      rw [map_cons, map_cons, htext, ih hrest]

/-! ## Quotes -/

theorem unescapeLine_quoteLine (line : List UInt8) :
    unescapeLine (quoteLine line) =
      if isQuotedFromLine line then quoteMark :: line else line := by
  rw [quoteLine, isQuotedFromLine]
  by_cases hfrom : isFromLine line = true
  · rw [if_pos hfrom, unescapeLine, isPrefixOf_cons_cons_self]
    by_cases hhead : line.head? = some quoteMark
    · obtain ⟨rest, rfl⟩ := head?_eq_some_iff.mp hhead
      rw [not_isPrefixOf_quoteMark, hfrom]
      rfl
    · rw [← isFromLine_of_head? hhead, hfrom]
      simp [hhead]
  · rw [if_neg hfrom, unescapeLine, if_neg, if_neg]
    · simp [hfrom]
    · -- what starts with a quoted mark would be such a line
      intro hprefix
      cases line with
      | nil => cases hprefix
      | cons b rest =>
        rw [isPrefixOf, Bool.and_eq_true, beq_iff_eq] at hprefix
        obtain ⟨rfl, hprefix⟩ := hprefix
        exact hfrom (by rw [isFromLine_quoteMark, isFromLine_of_isPrefixOf hprefix])

theorem unescapeMboxrd_text (message : MboxMessage) :
    unescapeMboxrd message.text =
      (linesOf message.body).flatMap (fun line =>
        if isQuotedFromLine line then quoteMark :: line else line) ++ [newline] := by
  rw [unescapeMboxrd, linesOf, MboxMessage.text,
    Lines.split_flatten fun line => isLine_of_mem_textLines, MboxMessage.textLines,
    flatMap_append, flatMap_map]
  simp only [unescapeLine_quoteLine]
  rfl

theorem flatMap_mark_eq_iff {p : List UInt8 → Bool} {lines : List (List UInt8)} :
    lines.flatMap (fun line => if p line then quoteMark :: line else line) = lines.flatten ↔
      ∀ line ∈ lines, p line = false := by
  have hle : ∀ ls : List (List UInt8), ls.flatten.length ≤
      (ls.flatMap fun line => if p line then quoteMark :: line else line).length := by
    intro ls
    induction ls with
    | nil => exact le_rfl
    | cons line ls ih =>
      rw [flatten_cons, flatMap_cons, length_append, length_append]
      refine Nat.add_le_add ?_ ih
      split
      · exact Nat.le_succ _
      · exact le_rfl
  induction lines with
  | nil => simp
  | cons line lines ih =>
    rw [flatMap_cons, flatten_cons, forall_mem_cons]
    by_cases hp : p line = true
    · refine iff_of_false (fun heq => ?_) (by simp [hp])
      have hlength := congrArg length heq
      rw [if_pos hp, length_append, length_append, length_cons] at hlength
      have := hle lines
      omega
    · rw [if_neg hp, append_cancel_left_eq]
      exact ih.trans ⟨fun h => ⟨Bool.eq_false_iff.mpr hp, h⟩, And.right⟩

/-- **A message** is read as it was written exactly if it quotes no separator line. -/
theorem unescapeMboxrd_text_eq_iff (message : MboxMessage) :
    unescapeMboxrd message.text = message.original ↔
      ∀ line ∈ linesOf message.body, isQuotedFromLine line = false := by
  have hbody : (linesOf message.body).flatten = message.body := Lines.flatten_split _
  rw [unescapeMboxrd_text, MboxMessage.original, append_cancel_right_eq,
    ← flatMap_mark_eq_iff, hbody]

/-- **A file** is read as it was written exactly if it has some messages, not too many, and none
of them quotes a separator line. -/
theorem decodes_iff (messages : List MboxMessage) :
    Decodes messages ↔ messages ≠ [] ∧ messages.length ≤ mboxMessageLimit ∧
      ∀ message ∈ messages, ∀ line ∈ linesOf message.body, isQuotedFromLine line = false := by
  have hpartitions := partitions_slicesFrom [] messages
  rw [nil_append, length_nil] at hpartitions
  have htexts := congrArg (map unescapeMboxrd) hpartitions.texts
  rw [map_map, map_map] at htexts
  rw [Decodes, splitMboxrd_writeMboxrd]
  constructor
  · rintro ⟨slices, hsplit, -, hdecoded⟩
    split at hsplit
    · cases hsplit
    · split at hsplit
      · cases hsplit
      · rename_i hfew hsome
        cases hsplit
        refine ⟨hsome, Nat.not_lt.mp hfew, fun message hmem => ?_⟩
        have hall := htexts.symm.trans hdecoded
        exact (unescapeMboxrd_text_eq_iff message).mp (map_inj_left.mp hall message hmem)
  · rintro ⟨hsome, hfew, hplain⟩
    rw [if_neg (Nat.not_lt.mpr hfew), if_neg hsome]
    refine ⟨_, rfl, hpartitions, htexts.trans (map_inj_left.mpr fun message hmem => ?_)⟩
    exact (unescapeMboxrd_text_eq_iff message).mpr (hplain message hmem)

end Threadbook.Imports
