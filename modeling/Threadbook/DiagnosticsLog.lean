import Threadbook.Errors
import Threadbook.Lines
import Threadbook.Table

/-!
# The diagnostic log

An event is appended as one line of JSON; a snapshot counts the lines. Writer and reader agree on
nothing but the ends of lines, and the writer does not look at how the file ends: behind a line
that was cut off, the next event shares that line and is lost. `log_keeps` says that the log keeps
what it acknowledged in every run in which no event is written behind such a line, and
`torn_line_loses_event` shows a run that loses one.
-/

namespace Threadbook.Diagnostics

open Table List

def MAX_LINE_BYTES : ℕ := 4 * 1024
def MAX_FILE_BYTES : ℕ := 1024 * 1024
def MAX_SAFE_INTEGER_V1 : ℕ := 9007199254740991
def u64Max : ℕ := 2 ^ 64 - 1

inductive DiagnosticSeverityV1
  | info
  | warning
  | error
  deriving DecidableEq

inductive DiagnosticComponentV1
  | application
  | blobStore
  | database
  | jobWorker
  | credentialStore
  deriving DecidableEq

inductive DiagnosticEventCodeV1
  | commandCompleted
  | commandFailed
  | storageCheckCompleted
  | jobTerminalFailure
  | credentialReconciled
  deriving DecidableEq

inductive DiagnosticOutcomeV1
  | succeeded
  | failed
  | retrying
  deriving DecidableEq

structure EventKey where
  severity : DiagnosticSeverityV1
  component : DiagnosticComponentV1
  eventCode : DiagnosticEventCodeV1
  outcome : DiagnosticOutcomeV1
  deriving DecidableEq

structure DiagnosticEventV1 extends EventKey where
  schemaVersion : ℕ
  timestamp : String
  operationId : Option String
  deriving DecidableEq

def EventKey.debug (key : EventKey) : String :=
  let severity := match key.severity with
    | .info => "Info"
    | .warning => "Warning"
    | .error => "Error"
  let component := match key.component with
    | .application => "Application"
    | .blobStore => "BlobStore"
    | .database => "Database"
    | .jobWorker => "JobWorker"
    | .credentialStore => "CredentialStore"
  let eventCode := match key.eventCode with
    | .commandCompleted => "CommandCompleted"
    | .commandFailed => "CommandFailed"
    | .storageCheckCompleted => "StorageCheckCompleted"
    | .jobTerminalFailure => "JobTerminalFailure"
    | .credentialReconciled => "CredentialReconciled"
  let outcome := match key.outcome with
    | .succeeded => "Succeeded"
    | .failed => "Failed"
    | .retrying => "Retrying"
  severity ++ ":" ++ component ++ ":" ++ eventCode ++ ":" ++ outcome

/-- The JSON of an event, written and read, and which texts are timestamps. -/
structure EventCodec where
  toVec : DiagnosticEventV1 → List UInt8
  fromSlice : List UInt8 → Option DiagnosticEventV1
  isTimestamp : String → Bool

inductive DiagnosticsHealthStateV1
  | ready
  | needsAttention
  | neverRun

structure DiagnosticsEventCountV1 where
  key : EventKey
  count : ℕ
  deriving DecidableEq

structure DiagnosticsLogSummaryV1 where
  status : DiagnosticsHealthStateV1
  eventCounts : List DiagnosticsEventCountV1
  droppedSinceProcessStart : ℕ
  malformedLineCount : ℕ
  truncatedLineCount : ℕ

/-! ## Reading -/

def newline : UInt8 := 10

def isNewline (byte : UInt8) : Bool := byte == newline

def incrementCount (value : ℕ) : Except PlatformError ℕ :=
  if value + 1 ≥ MAX_SAFE_INTEGER_V1 then .error (.corrupt "diagnostic_event_count")
  else .ok (value + 1)

section Codec

variable (codec : EventCodec)

def DiagnosticEventV1.isValid (event : DiagnosticEventV1) : Bool :=
  event.schemaVersion = schemaVersionV1 && codec.isTimestamp event.timestamp

def readLine (line : List UInt8) : Option DiagnosticEventV1 :=
  if line = [] ∨ line.length + 1 > MAX_LINE_BYTES then none
  else (codec.fromSlice line).filter (·.isValid codec)

def countLine (counts : ℕ × Table EventKey ℕ) (line : List UInt8) :
    Except PlatformError (ℕ × Table EventKey ℕ) :=
  match readLine codec line with
  | none => do
    let malformed ← incrementCount counts.1
    pure (malformed, counts.2)
  | some event => do
    let count ← incrementCount ((counts.2.find? event.toEventKey).getD 0)
    pure (counts.1, counts.2.put event.toEventKey count)

def completeLines (bytes : List UInt8) : List (List UInt8) :=
  if bytes = [newline] then [] else (Lines.split isNewline bytes).map List.dropLast

def aggregateSnapshot (bytes : List UInt8) (existed : Bool) (dropped : ℕ) :
    Except PlatformError DiagnosticsLogSummaryV1 := do
  let truncated := if bytes ≠ [] ∧ bytes.getLast? ≠ some newline then 1 else 0
  let bytes := if truncated = 1 then bytes.rdropWhile (!isNewline ·) else bytes
  let (malformed, events) ← (completeLines bytes).foldlM (countLine codec) (0, empty)
  let status :=
    if dropped > 0 ∨ malformed > 0 ∨ truncated > 0 then .needsAttention
    else if existed then .ready else .neverRun
  let eventCounts := (events.rows.map fun row => (⟨row.1, row.2⟩ : DiagnosticsEventCountV1)).mergeSort
    fun a b => a.key.debug ≤ b.key.debug
  pure ⟨status, eventCounts, dropped, malformed, truncated⟩

/-! ## Writing -/

structure JsonlDiagnostics where
  file : Option (List UInt8)
  dropped : ℕ

def JsonlDiagnostics.bytes (d : JsonlDiagnostics) : List UInt8 := d.file.getD []

def eventLine (event : DiagnosticEventV1) : List UInt8 := codec.toVec event ++ [newline]

/-- Append an event; `cut` says after how many bytes of the line the write is cut off, if it is.
A line that was written to its end may still not be acknowledged. -/
def append (event : DiagnosticEventV1) (cut : Option ℕ) (d : JsonlDiagnostics) :
    Except PlatformError Bool × JsonlDiagnostics :=
  let line := eventLine codec event
  if ¬ event.isValid codec then (.error (.invalidInput "diagnostic_event"), d)
  else if line.length > MAX_LINE_BYTES then (.error (.invalidInput "diagnostic_event_too_large"), d)
  else
    let opened := { d with file := some d.bytes }
    if d.bytes.length > MAX_FILE_BYTES then (.error (.corrupt "diagnostics_log_identity"), opened)
    else if d.bytes.length + line.length > MAX_FILE_BYTES then
      (.ok false, { opened with dropped := min (d.dropped + 1) u64Max })
    else match cut with
      | some k => (.error (.io .other), { opened with file := some (d.bytes ++ line.take k) })
      | none => (.ok true, { opened with file := some (d.bytes ++ line) })

def snapshot (d : JsonlDiagnostics) : Except PlatformError DiagnosticsLogSummaryV1 :=
  if d.dropped ≥ MAX_SAFE_INTEGER_V1 then .error (.corrupt "diagnostic_drop_count")
  else if d.bytes.length > MAX_FILE_BYTES then .error (.corrupt "diagnostics_log_identity")
  else aggregateSnapshot codec d.bytes d.file.isSome d.dropped

/-! ## Runs -/

/-- A step of a run; a process that crashes is started again. -/
inductive LogStep
  | append (event : DiagnosticEventV1) (cut : Option ℕ)
  | snapshot
  | restart

/-- A log with its history: the events acknowledged, those whose write was cut off, and how many
the process refused for lack of space. -/
structure LogRun where
  log : JsonlDiagnostics
  acknowledged : List DiagnosticEventV1
  cutOff : List DiagnosticEventV1
  refused : ℕ

def LogRun.new : LogRun := ⟨⟨none, 0⟩, [], [], 0⟩

def LogStep.perform : LogStep → LogRun → LogRun
  | append event cut, r =>
    match Diagnostics.append codec event cut r.log with
    | (.ok true, log) => { r with log, acknowledged := r.acknowledged ++ [event] }
    | (.ok false, log) => { r with log, refused := r.refused + 1 }
    | (.error (.io _), log) => { r with log, cutOff := r.cutOff ++ [event] }
    | (.error _, log) => { r with log }
  | snapshot, r => r
  | restart, r => { r with log := { r.log with dropped := 0 }, refused := 0 }

def runLog (steps : List LogStep) (r : LogRun) : LogRun := steps.foldl (fun r s => s.perform codec r) r

/-- The event passes the checks of its content. -/
def Writable (event : DiagnosticEventV1) : Prop :=
  event.isValid codec = true ∧ (eventLine codec event).length ≤ MAX_LINE_BYTES

def Fits (event : DiagnosticEventV1) (d : JsonlDiagnostics) : Prop :=
  d.bytes.length + (eventLine codec event).length ≤ MAX_FILE_BYTES

def JsonlDiagnostics.EndsLine (d : JsonlDiagnostics) : Prop :=
  d.bytes = [] ∨ d.bytes.getLast? = some newline

/-- No event is written behind a line that was cut off, and the count of the refused ones is below
the limit of safe integers. -/
def LogStep.Meets : LogStep → LogRun → Prop
  | append event cut, r => Writable codec event →
      (Fits codec event r.log → r.log.EndsLine ∨ cut = some 0) ∧
        (¬ Fits codec event r.log → r.log.dropped + 1 < MAX_SAFE_INTEGER_V1)
  | _, _ => True

def AllMeet : List LogStep → LogRun → Prop
  | [], _ => True
  | s :: rest, r => s.Meets codec r ∧ AllMeet rest (s.perform codec r)

/-- What the log promises: a snapshot succeeds and counts each acknowledged event, besides those
whose write was cut off behind the whole line; the others of these make at most one line each that
does not count; the refused ones are counted; and the file is not too large. -/
def Keeps (r : LogRun) : Prop :=
  r.log.bytes.length ≤ MAX_FILE_BYTES ∧ ∃ summary whole,
    Diagnostics.snapshot codec r.log = .ok summary ∧ whole.Sublist r.cutOff ∧
    (∀ key count, ⟨key, count⟩ ∈ summary.eventCounts ↔
      0 < count ∧ count = (r.acknowledged ++ whole).countP (·.toEventKey = key)) ∧
    (summary.eventCounts.map (·.key)).Nodup ∧
    summary.malformedLineCount + summary.truncatedLineCount + whole.length ≤ r.cutOff.length ∧
    summary.droppedSinceProcessStart = r.refused

/-- What is relied on of the JSON of an event: it is read back, and is one line. -/
def EventCodec.Reads (event : DiagnosticEventV1) : Prop :=
  codec.fromSlice (codec.toVec event) = some event ∧ newline ∉ codec.toVec event ∧
    codec.toVec event ≠ []

/-! ## What a snapshot counts -/

structure Written (events : List DiagnosticEventV1) (torn : List UInt8) (d : JsonlDiagnostics) :
    Prop where
  bytes : d.bytes = (events.map (eventLine codec)).flatten ++ torn
  events {event} : event ∈ events → Writable codec event ∧ codec.Reads event
  torn : newline ∉ torn
  length_le : d.bytes.length ≤ MAX_FILE_BYTES

variable {codec} {events : List DiagnosticEventV1} {torn : List UInt8} {d : JsonlDiagnostics}

theorem isNewline_eq_false {bytes : List UInt8} (h : newline ∉ bytes) :
    ∀ b ∈ bytes, isNewline b = false := by
  intro b hb
  rw [isNewline, beq_eq_false_iff_ne]
  rintro rfl
  exact h hb

theorem isLine_eventLine {event : DiagnosticEventV1} (h : codec.Reads event) :
    Lines.IsLine isNewline (eventLine codec event) :=
  Lines.isLine_concat (isNewline_eq_false h.2.1) rfl

theorem readLine_toVec {event : DiagnosticEventV1} (hw : Writable codec event)
    (h : codec.Reads event) : readLine codec (codec.toVec event) = some event := by
  have hlength : ¬ (codec.toVec event = [] ∨ (codec.toVec event).length + 1 > MAX_LINE_BYTES) := by
    have hle := hw.2
    rw [eventLine, length_append, length_singleton] at hle
    exact not_or_intro h.2.2 (not_lt.mpr hle)
  rw [readLine, if_neg hlength, h.1, Option.filter_some, if_pos hw.1]

def Counts (events : List DiagnosticEventV1) (t : Table EventKey ℕ) : Prop :=
  ∀ key count, t.find? key = some count ↔
    0 < count ∧ count = events.countP (·.toEventKey = key)

theorem Counts.getD {t : Table EventKey ℕ} (h : Counts events t) (key : EventKey) :
    (t.find? key).getD 0 = events.countP (·.toEventKey = key) := by
  rcases hfind : t.find? key with _ | count
  · by_contra hne
    have hsome := (h key _).mpr ⟨Nat.pos_of_ne_zero (Ne.symm hne), rfl⟩
    rw [hfind] at hsome
    cases hsome
  · exact ((h key count).mp hfind).2

theorem Counts.put {t : Table EventKey ℕ} (h : Counts events t) (event : DiagnosticEventV1) :
    Counts (events ++ [event])
      (t.put event.toEventKey (events.countP (·.toEventKey = event.toEventKey) + 1)) := by
  intro key count
  rw [find?_put, countP_append, countP_singleton]
  by_cases hkey : key = event.toEventKey
  · rw [if_pos hkey, hkey, if_pos (by simp), Option.some_inj]
    omega
  · rw [if_neg hkey, if_neg (by simpa using Ne.symm hkey), h key count, Nat.add_zero]

theorem foldlM_countLine {seen : List DiagnosticEventV1} {t : Table EventKey ℕ}
    (hevents : ∀ event ∈ events, Writable codec event ∧ codec.Reads event) (ht : Counts seen t)
    (hlength : seen.length + events.length + 1 < MAX_SAFE_INTEGER_V1) :
    ∃ t', (events.map codec.toVec).foldlM (countLine codec) (0, t) = .ok (0, t') ∧
      Counts (seen ++ events) t' := by
  induction events generalizing seen t with
  | nil => exact ⟨t, rfl, by rwa [append_nil]⟩
  | cons event rest ih =>
    rw [forall_mem_cons] at hevents
    rw [length_cons] at hlength
    have hcount : seen.countP (·.toEventKey = event.toEventKey) ≤ seen.length := countP_le_length
    have hincrement : incrementCount (seen.countP (·.toEventKey = event.toEventKey)) =
        .ok (seen.countP (·.toEventKey = event.toEventKey) + 1) := if_neg (by omega)
    have hstep : countLine codec (0, t) (codec.toVec event) = .ok (0,
        t.put event.toEventKey (seen.countP (·.toEventKey = event.toEventKey) + 1)) := by
      rw [countLine, readLine_toVec hevents.1.1 hevents.1.2]
      dsimp only
      rw [ht.getD, hincrement]
      rfl
    obtain ⟨t', hfold, hcounts⟩ := ih hevents.2 (ht.put event)
      (by rw [length_append, length_singleton]; omega)
    refine ⟨t', ?_, by simpa using hcounts⟩
    rw [map_cons, check_foldlM_cons_eq_ok]
    exact ⟨_, hstep, hfold⟩

theorem completeLines_eq (h : ∀ event ∈ events, codec.Reads event) :
    completeLines (events.map (eventLine codec)).flatten = events.map codec.toVec := by
  have hlines : ∀ line ∈ events.map (eventLine codec), Lines.IsLine isNewline line := by
    rw [forall_mem_map]
    exact fun event hevent => isLine_eventLine (h event hevent)
  have hne : (events.map (eventLine codec)).flatten ≠ [newline] := by
    rcases events with _ | ⟨event, rest⟩
    · simp
    · intro hflat
      have hfirst := (h event (.head _)).2.2
      rw [map_cons, flatten_cons, eventLine, append_assoc] at hflat
      have hlength := congrArg length hflat
      simp only [length_append, length_singleton] at hlength
      exact hfirst (length_eq_zero_iff.mp (by omega))
  rw [completeLines, if_neg hne, Lines.split_flatten hlines, map_map]
  exact map_congr_left fun event _ => dropLast_concat

theorem getLast?_lines (hne : events ≠ []) :
    (events.map (eventLine codec)).flatten.getLast? = some newline := by
  obtain ⟨front, event, rfl⟩ := (eq_nil_or_concat events).resolve_left hne
  simp [eventLine]

theorem Written.endsLine_iff (h : Written codec events torn d) : d.EndsLine ↔ torn = [] := by
  rw [JsonlDiagnostics.EndsLine, h.bytes]
  constructor
  · intro hend
    by_contra hne
    rw [getLast?_append_of_ne_nil _ hne] at hend
    rcases hend with hend | hend
    · exact hne (append_eq_nil_iff.mp hend).2
    · exact h.torn (mem_of_getLast? hend)
  · rintro rfl
    rw [append_nil]
    rcases eq_or_ne events [] with rfl | hne
    · exact .inl rfl
    · exact .inr (getLast?_lines hne)

theorem rdropWhile_torn (htorn : newline ∉ torn) :
    ((events.map (eventLine codec)).flatten ++ torn).rdropWhile (!isNewline ·) =
      (events.map (eventLine codec)).flatten := by
  have hdrop : ∀ b ∈ torn.reverse, (!isNewline b) = true := by
    intro b hb
    rw [isNewline_eq_false htorn b (mem_reverse.mp hb)]
    rfl
  rw [rdropWhile, reverse_append, dropWhile_append_of_pos hdrop]
  rcases eq_or_ne events [] with rfl | hne
  · rfl
  · have hlast : (events.map (eventLine codec)).flatten.getLast? = some newline := getLast?_lines hne
    obtain ⟨front, hfront⟩ := getLast?_eq_some_iff.mp hlast
    rw [hfront]
    simp [isNewline]

theorem Written.length_events (h : Written codec events torn d) : events.length ≤ MAX_FILE_BYTES := by
  have hlines : events.length ≤ (events.map (eventLine codec)).flatten.length := by
    clear h
    induction events with
    | nil => simp
    | cons event rest ih =>
      rw [map_cons, flatten_cons, length_append, length_cons, eventLine,
        length_append, length_singleton]
      omega
  have hle := h.length_le
  rw [h.bytes, length_append] at hle
  omega

/-- **What a snapshot counts**: every line that is complete, under the key of its event. -/
theorem Written.snapshot (h : Written codec events torn d) (hdropped : d.dropped < MAX_SAFE_INTEGER_V1) :
    ∃ summary, Diagnostics.snapshot codec d = .ok summary ∧
      (∀ key count, ⟨key, count⟩ ∈ summary.eventCounts ↔
        0 < count ∧ count = events.countP (·.toEventKey = key)) ∧
      (summary.eventCounts.map (·.key)).Nodup ∧ summary.malformedLineCount = 0 ∧
      summary.truncatedLineCount = (if torn = [] then 0 else 1) ∧
      summary.droppedSinceProcessStart = d.dropped := by
  have hempty : Counts [] empty := by
    intro key count
    simp only [find?_empty, countP_nil, reduceCtorEq, false_iff, not_and]
    omega
  obtain ⟨t, hfold, hcounts⟩ := foldlM_countLine (fun _ he => h.events he) hempty (by
    have hle := h.length_events
    rw [length_nil]
    exact lt_of_le_of_lt (by omega : _ ≤ MAX_FILE_BYTES + 1) (by decide))
  have htruncated : (d.bytes ≠ [] ∧ d.bytes.getLast? ≠ some newline) ↔ torn ≠ [] := by
    rw [← not_iff_not, not_and_or, not_not, not_not, not_not]
    exact h.endsLine_iff
  have hlines : completeLines (if (if d.bytes ≠ [] ∧ d.bytes.getLast? ≠ some newline then 1 else 0) = 1
      then d.bytes.rdropWhile (!isNewline ·) else d.bytes) = events.map codec.toVec := by
    rw [← completeLines_eq fun event he => (h.events he).2]
    by_cases htorn : torn = []
    · rw [if_neg (htruncated.not.mpr (not_not_intro htorn)), if_neg (by decide), h.bytes, htorn,
        append_nil]
    · rw [if_pos (if_pos (htruncated.mpr htorn)), h.bytes, rdropWhile_torn h.torn]
  have hcount : (if d.bytes ≠ [] ∧ d.bytes.getLast? ≠ some newline then 1 else 0) =
      if torn = [] then 0 else 1 := by
    by_cases htorn : torn = []
    · rw [if_pos htorn, if_neg (htruncated.not.mpr (not_not_intro htorn))]
    · rw [if_neg htorn, if_pos (htruncated.mpr htorn)]
  have hsnapshot : Diagnostics.snapshot codec d =
      aggregateSnapshot codec d.bytes d.file.isSome d.dropped := by
    rw [Diagnostics.snapshot, if_neg (not_le.mpr hdropped), if_neg (not_lt.mpr h.length_le)]
  rw [hsnapshot, aggregateSnapshot]
  dsimp only
  rw [hlines, hfold]
  refine ⟨_, rfl, fun key count => ?_, ?_, rfl, hcount, rfl⟩
  · rw [mem_mergeSort, mem_map]
    rw [← nil_append events, ← hcounts key count, ← mem_rows]
    constructor
    · rintro ⟨row, hrow, heq⟩
      cases heq
      exact hrow
    · exact fun hrow => ⟨(key, count), hrow, rfl⟩
  · have hperm := ((t.rows.map fun row => (⟨row.1, row.2⟩ : DiagnosticsEventCountV1)).mergeSort_perm
      fun a b => a.key.debug ≤ b.key.debug).map (·.key)
    rw [hperm.nodup_iff, map_map]
    exact t.rows_nodup
/-! ## What a step keeps -/

/-- The file holds the lines of the acknowledged events, and of those that were cut off behind the
whole line; of the others at most one is left over, and it is the last. -/
def LogRun.Sound (codec : EventCodec) (r : LogRun) : Prop :=
  ∃ events torn whole, Written codec events torn r.log ∧ whole.Sublist r.cutOff ∧
    events.Perm (r.acknowledged ++ whole) ∧
    whole.length + (if torn = [] then 0 else 1) ≤ r.cutOff.length ∧
    r.log.dropped = r.refused ∧ r.log.dropped < MAX_SAFE_INTEGER_V1

theorem LogRun.Sound.keeps {r : LogRun} (h : r.Sound codec) : Keeps codec r := by
  obtain ⟨events, torn, whole, hwritten, hwhole, hperm, hlength, hrefused, hdropped⟩ := h
  obtain ⟨summary, hsummary, hcounts, hnodup, hmalformed, htruncated, hshown⟩ :=
    hwritten.snapshot hdropped
  refine ⟨hwritten.length_le, summary, whole, hsummary, hwhole, fun key count => ?_, hnodup, ?_,
    hshown.trans hrefused⟩
  · rw [hcounts, hperm.countP_eq]
  · rw [hmalformed, htruncated]
    omega

theorem append_cases (event : DiagnosticEventV1) (cut : Option ℕ) (d : JsonlDiagnostics)
    (hlength : d.bytes.length ≤ MAX_FILE_BYTES) :
    (∃ code, append codec event cut d = (.error (.invalidInput code), d)) ∨
    (Writable codec event ∧ ¬ Fits codec event d ∧
      append codec event cut d = (.ok false, ⟨some d.bytes, min (d.dropped + 1) u64Max⟩)) ∨
    (Writable codec event ∧ Fits codec event d ∧ cut = none ∧
      append codec event cut d = (.ok true, ⟨some (d.bytes ++ eventLine codec event), d.dropped⟩)) ∨
    (Writable codec event ∧ Fits codec event d ∧ ∃ k, cut = some k ∧ append codec event cut d =
      (.error (.io .other), ⟨some (d.bytes ++ (eventLine codec event).take k), d.dropped⟩)) := by
  unfold append
  dsimp only
  split
  · exact .inl ⟨_, rfl⟩
  rename_i hvalid
  rw [not_not] at hvalid
  split
  · exact .inl ⟨_, rfl⟩
  rename_i hline
  rw [if_neg (not_lt.mpr hlength)]
  split
  · rename_i hfull
    exact .inr (.inl ⟨⟨hvalid, not_lt.mp hline⟩, not_le.mpr hfull, rfl⟩)
  · rename_i hfits
    rcases cut with _ | k
    · exact .inr (.inr (.inl ⟨⟨hvalid, not_lt.mp hline⟩, not_lt.mp hfits, rfl, rfl⟩))
    · exact .inr (.inr (.inr ⟨⟨hvalid, not_lt.mp hline⟩, not_lt.mp hfits, k, rfl, rfl⟩))

theorem Written.line {event : DiagnosticEventV1} (h : Written codec events [] d)
    (hwritable : Writable codec event) (hreads : codec.Reads event) (hfits : Fits codec event d)
    (dropped : ℕ) :
    Written codec (events ++ [event]) [] ⟨some (d.bytes ++ eventLine codec event), dropped⟩ where
  bytes := by
    change d.bytes ++ eventLine codec event = _
    rw [h.bytes]
    simp
  events hmem := by
    rcases mem_append.mp hmem with hmem | hmem
    · exact h.events hmem
    · rw [mem_singleton.mp hmem]
      exact ⟨hwritable, hreads⟩
  torn := not_mem_nil
  length_le := by
    change (d.bytes ++ eventLine codec event).length ≤ _
    rwa [length_append]

theorem Written.cut {event : DiagnosticEventV1} (h : Written codec events [] d)
    (hreads : codec.Reads event) (hfits : Fits codec event d) {k : ℕ}
    (hk : k < (eventLine codec event).length) (dropped : ℕ) :
    Written codec events ((eventLine codec event).take k)
      ⟨some (d.bytes ++ (eventLine codec event).take k), dropped⟩ where
  bytes := by
    change d.bytes ++ _ = _
    rw [h.bytes, append_nil]
  events := h.events
  torn hmem := by
    rw [eventLine, length_append, length_singleton] at hk
    rw [eventLine, take_append_of_le_length (by omega)] at hmem
    exact hreads.2.1 (mem_of_mem_take hmem)
  length_le := by
    change (d.bytes ++ (eventLine codec event).take k).length ≤ _
    have htake : ((eventLine codec event).take k).length ≤ (eventLine codec event).length :=
      length_take_le' ..
    rw [length_append]
    exact (Nat.add_le_add_left htake _).trans hfits

theorem Written.file (h : Written codec events torn d) {d' : JsonlDiagnostics}
    (hbytes : d'.bytes = d.bytes) : Written codec events torn d' where
  bytes := hbytes.trans h.bytes
  events := h.events
  torn := h.torn
  length_le := hbytes ▸ h.length_le

/-- **Step**: what meets the condition keeps the log sound. -/
theorem LogRun.Sound.perform {r : LogRun} (h : r.Sound codec) {s : LogStep}
    (hreads : ∀ event cut, s = .append event cut → event.isValid codec = true → codec.Reads event)
    (hmeets : s.Meets codec r) : (s.perform codec r).Sound codec := by
  obtain ⟨events, torn, whole, hwritten, hwhole, hperm, hlength, hrefused, hdropped⟩ := h
  cases s with
  | snapshot => exact ⟨events, torn, whole, hwritten, hwhole, hperm, hlength, hrefused, hdropped⟩
  | restart =>
    have hzero : 0 < MAX_SAFE_INTEGER_V1 := by decide
    exact ⟨events, torn, whole, hwritten.file rfl, hwhole, hperm, hlength, rfl, hzero⟩
  | append event cut =>
    rcases append_cases event cut r.log hwritten.length_le with ⟨code, happend⟩ |
      ⟨hwritable, hfull, happend⟩ | ⟨hwritable, hfits, rfl, happend⟩ | ⟨hwritable, hfits, k, rfl, happend⟩
    · rw [LogStep.perform, happend]
      exact ⟨events, torn, whole, hwritten, hwhole, hperm, hlength, hrefused, hdropped⟩
    · rw [LogStep.perform, happend]
      have hsafe := (hmeets hwritable).2 hfull
      have hmin : min (r.log.dropped + 1) u64Max = r.log.dropped + 1 :=
        min_eq_left (hsafe.le.trans (by decide))
      refine ⟨events, torn, whole, hwritten.file rfl, hwhole, hperm, hlength, ?_, ?_⟩
      · exact hmin.trans (by rw [hrefused])
      · exact hmin.trans_lt hsafe
    · -- the line starts where a line ended
      rw [LogStep.perform, happend]
      have hend := ((hmeets hwritable).1 hfits).resolve_right (by simp)
      obtain rfl := hwritten.endsLine_iff.mp hend
      refine ⟨events ++ [event], [], whole,
        hwritten.line hwritable (hreads event none rfl hwritable.1) hfits _, hwhole, ?_, hlength,
        hrefused, hdropped⟩
      dsimp only
      rw [append_assoc]
      refine (hperm.append_right [event]).trans ?_
      rw [append_assoc]
      exact perm_append_comm.append_left _
    · rw [LogStep.perform, happend]
      have hread := hreads event (some k) rfl hwritable.1
      have hmore : r.cutOff.length < (r.cutOff ++ [event]).length := by simp
      rcases (hmeets hwritable).1 hfits with hend | hk
      · obtain rfl := hwritten.endsLine_iff.mp hend
        rw [if_pos rfl, Nat.add_zero] at hlength
        rcases lt_or_ge k (eventLine codec event).length with hk | hk
        · refine ⟨events, _, whole, hwritten.cut hread hfits hk _,
            hwhole.trans (sublist_append_left ..), hperm, ?_, hrefused, hdropped⟩
          dsimp only
          split <;> omega
        · -- the whole line is written, though it is not acknowledged
          rw [take_of_length_le hk]
          refine ⟨events ++ [event], [], whole ++ [event], hwritten.line hwritable hread hfits _,
            hwhole.append (List.Sublist.refl _), ?_, ?_, hrefused, hdropped⟩
          · rw [← append_assoc]
            exact hperm.append_right _
          · rw [if_pos rfl, length_append, length_singleton]
            dsimp only
            omega
      · -- nothing is written
        cases hk
        rw [take_zero, append_nil]
        refine ⟨events, torn, whole, hwritten.file rfl, hwhole.trans (sublist_append_left ..),
          hperm, ?_, hrefused, hdropped⟩
        dsimp only
        omega

theorem runLog_sound {steps : List LogStep} {r : LogRun} (h : r.Sound codec)
    (hreads : ∀ event cut, .append event cut ∈ steps → event.isValid codec = true → codec.Reads event)
    (hmeets : AllMeet codec steps r) : (runLog codec steps r).Sound codec := by
  induction steps generalizing r with
  | nil => exact h
  | cons s rest ih =>
    refine ih (h.perform (fun event cut hs => hreads event cut (hs ▸ .head _)) hmeets.1)
      (fun event cut hmem => hreads event cut (.tail _ hmem)) hmeets.2

/-- **The log keeps what it acknowledged** in every run in which no event is written behind a line
that was cut off and no process refuses more events than are counted safely. -/
theorem log_keeps (codec : EventCodec) (steps : List LogStep)
    (hreads : ∀ event cut, .append event cut ∈ steps → event.isValid codec = true → codec.Reads event)
    (hmeets : AllMeet codec steps .new) : Keeps codec (runLog codec steps .new) := by
  have hnew : LogRun.new.Sound codec :=
    ⟨[], [], [], ⟨rfl, fun h => absurd h List.not_mem_nil, List.not_mem_nil, Nat.zero_le _⟩,
      List.Sublist.refl _, List.Perm.refl _, Nat.le_refl _, rfl, by decide⟩
  exact (runLog_sound hnew hreads hmeets).keeps

end Codec

/-! ## A log with a line that was cut off -/

section Example

def completed : DiagnosticEventV1 where
  severity := .info
  component := .database
  eventCode := .commandCompleted
  outcome := .succeeded
  schemaVersion := 1
  timestamp := "2026-07-15T01:05:11Z"
  operationId := none

/-- Its JSON, the fields in the order of the declaration. -/
@[irreducible] def completedJson : List UInt8 :=
  [123, 34, 115, 99, 104, 101, 109, 97, 95, 118, 101, 114, 115, 105, 111, 110, 34, 58, 49, 44,
   34, 116, 105, 109, 101, 115, 116, 97, 109, 112, 34, 58, 34, 50, 48, 50, 54, 45, 48, 55, 45,
   49, 53, 84, 48, 49, 58, 48, 53, 58, 49, 49, 90, 34, 44, 34, 115, 101, 118, 101, 114, 105,
   116, 121, 34, 58, 34, 105, 110, 102, 111, 34, 44, 34, 99, 111, 109, 112, 111, 110, 101, 110,
   116, 34, 58, 34, 100, 97, 116, 97, 98, 97, 115, 101, 34, 44, 34, 101, 118, 101, 110, 116, 95,
   99, 111, 100, 101, 34, 58, 34, 99, 111, 109, 109, 97, 110, 100, 95, 99, 111, 109, 112, 108,
   101, 116, 101, 100, 34, 44, 34, 111, 117, 116, 99, 111, 109, 101, 34, 58, 34, 115, 117, 99,
   99, 101, 101, 100, 101, 100, 34, 44, 34, 111, 112, 101, 114, 97, 116, 105, 111, 110, 95, 105,
   100, 34, 58, 110, 117, 108, 108, 125]

def completedCodec : EventCodec where
  toVec _ := completedJson
  fromSlice bytes := if bytes = completedJson then some completed else none
  isTimestamp _ := true

/-- The first write is cut off after ten bytes; the second is acknowledged. -/
def tornRun : List LogStep := [.append completed (some 10), .append completed none]

theorem completedCodec_reads {steps : List LogStep}
    (h : ∀ event cut, .append event cut ∈ steps → event = completed) (event : DiagnosticEventV1)
    (cut : Option ℕ) (hmem : .append event cut ∈ steps) : completedCodec.Reads event := by
  have hline : newline ∉ completedJson ∧ completedJson ≠ [] := by decide +kernel
  have hread : completedCodec.fromSlice completedJson = some completed := by
    exact if_pos rfl
  rw [h event cut hmem]
  exact ⟨hread, hline⟩

/-- A run with a line that is cut off, but no event behind it. -/
def keptRun : List LogStep :=
  [.append completed none, .snapshot, .restart, .append completed (some 10)]

theorem keptRun_meets : AllMeet completedCodec keptRun .new := by
  have hmeets (n : ℕ) (hend : (runLog completedCodec (keptRun.take n) .new).log.EndsLine)
      (hdropped : (runLog completedCodec (keptRun.take n) .new).log.dropped = 0)
      (event : DiagnosticEventV1) (cut : Option ℕ) :
      (LogStep.append event cut).Meets completedCodec (runLog completedCodec (keptRun.take n) .new) :=
    fun _ => ⟨fun _ => .inl hend, fun _ => by rw [hdropped]; decide⟩
  have hfirst := hmeets 0 (.inl rfl) rfl completed none
  have hlast := hmeets 3 (.inr (by decide +kernel)) (by decide +kernel) completed (some 10)
  exact ⟨hfirst, trivial, trivial, hlast, trivial⟩

theorem log_keeps_completed : Keeps completedCodec (runLog completedCodec keptRun .new) := by
  refine log_keeps completedCodec keptRun (fun event cut hmem _ =>
    completedCodec_reads (fun event cut hmem => ?_) event cut hmem) keptRun_meets
  simp [keptRun] at hmem
  rcases hmem with ⟨rfl, -⟩ | ⟨rfl, -⟩ <;> rfl

/-- **A torn line loses an event**: the event behind it is acknowledged, and not counted. -/
theorem torn_line_loses_event :
    (∀ event cut, .append event cut ∈ tornRun → completedCodec.Reads event) ∧
      (runLog completedCodec tornRun .new).acknowledged = [completed] ∧
      ¬ Keeps completedCodec (runLog completedCodec tornRun .new) := by
  have hacknowledged : (runLog completedCodec tornRun .new).acknowledged = [completed] := by
    decide +kernel
  have hsnapshot : (snapshot completedCodec (runLog completedCodec tornRun .new).log).toOption.map
      (·.eventCounts) = some [] := by
    decide +kernel
  refine ⟨completedCodec_reads fun event cut hmem => ?_, hacknowledged, ?_⟩
  · simp [tornRun] at hmem
    rcases hmem with ⟨rfl, -⟩ | ⟨rfl, -⟩ <;> rfl
  · rintro ⟨-, summary, whole, hsummary, -, hcounts, -⟩
    rw [hsummary] at hsnapshot
    have hnone : summary.eventCounts = [] := Option.some.inj hsnapshot
    have hcount := (hcounts completed.toEventKey _).mpr ⟨?_, rfl⟩
    · rw [hnone] at hcount
      cases hcount
    · rw [hacknowledged, List.countP_append]
      exact Nat.lt_add_right _ (by decide)

end Example

end Threadbook.Diagnostics
