import Threadbook.ReceiptCitation

/-!
# The receipt sanitizer

What is kept of a mail's HTML: the sink that takes the tokens of an HTML tokenizer one by
one, with its stack of suppressed elements, and the text it gives out at the end. The
tokenizer and the address parser are parameters.
-/

namespace Threadbook

/-! ## Tokens -/

structure Attribute where
  name : List Char
  value : List Char

inductive TagKind
  | startTag
  | endTag

structure Tag where
  kind : TagKind
  name : List Char
  selfClosing : Bool
  attrs : List Attribute

/-- A token; comments, doctypes, null characters, errors and the end are `other`. -/
inductive Token
  | characters (characters : List Char)
  | tag (tag : Tag)
  | other

/-! ## Texts -/

/-- One character of a text whose inner white space becomes single blanks. -/
def normalizeStep (state : List Char × Bool) (c : Char) : List Char × Bool :=
  if isWhitespace c || isControl c then (state.1, state.1 ≠ [])
  else if state.2 then (state.1 ++ [' ', c], false)
  else (state.1 ++ [c], false)

/-- A text whose white space and control characters become single blanks inside. -/
def normalizeInlineWhitespace (value : List Char) : List Char :=
  (value.foldl normalizeStep ([], false)).1

def endsWithAny (value marks : List Char) : Bool := value.getLast?.any fun c => marks.contains c

def appendCharacters (output characters : List Char) : List Char :=
  let normalized := normalizeInlineWhitespace characters
  if normalized = [] then
    if output ≠ [] ∧ ¬ endsWithAny output [' ', '\n'] then output ++ [' '] else output
  else if output ≠ [] ∧ ¬ endsWithAny output [' ', '\n', '|', '-'] ∧
      ¬ normalized.head?.any (fun c => [',', '.', ':', ';', '!', '?', ')', ']', '}'].contains c) then
    output ++ ' ' :: normalized
  else output ++ normalized

def appendBoundary (output boundary : List Char) : List Char :=
  if output = [] then output
  else if boundary = ['\n'] then
    let output := output.rdropWhile (· == ' ')
    if endsWithAny output ['\n'] then output else output ++ ['\n']
  else if ¬ endsWithAny output [' ', '\n'] then output ++ boundary
  else output

def popMarks (line : List Char) : List Char :=
  if endsWithAny line ['|', '-'] then popMarks (trimEnd line.dropLast) else line
termination_by line.length
decreasing_by
  rename_i h
  have hne : line ≠ [] := by
    rintro rfl
    cases h
  calc (trimEnd line.dropLast).length ≤ line.dropLast.length := (trimEnd_isPrefix _).length_le
    _ < line.length := by
      rw [List.length_dropLast]
      exact Nat.sub_one_lt (List.length_eq_zero_iff.not.mpr hne)

def canonicalizeStructuralText (value : List Char) : List Char :=
  (lines value).foldl (fun output line =>
    let line := popMarks (normalizeInlineWhitespace line)
    if line = [] then output
    else if output = [] then line
    else output ++ '\n' :: line) []

/-! ## Elements -/

/-- Elements whose content is never shown. -/
def suppressedElements : List String :=
  ["script", "style", "form", "input", "button", "select", "option", "textarea", "iframe",
    "object", "embed", "applet", "canvas", "svg", "math", "audio", "video", "source", "track",
    "template", "noscript", "head", "title", "meta", "link", "base", "dialog"]

@[inherit_doc suppressedElements]
def isSuppressedElement (name : List Char) : Bool := suppressedElements.any (·.toList == name)

def voidElements : List String :=
  ["area", "base", "br", "col", "embed", "hr", "img", "input", "link", "meta", "param", "source",
    "track", "wbr"]

def isVoidElement (name : List Char) : Bool := voidElements.any (·.toList == name)

/-- A style declaration that hides an element. -/
def isHidingDeclaration (declaration : List Char) : Bool :=
  let compact := declaration.filter fun c => !isWhitespace c
  "display:none".toList.isPrefixOf compact || "visibility:hidden".toList.isPrefixOf compact ||
    "content-visibility:hidden".toList.isPrefixOf compact

def hasHiddenAttribute (attributes : List Attribute) : Bool :=
  attributes.any fun attr =>
    let name := toAsciiLowercase attr.name
    let value := toAsciiLowercase attr.value
    name == "hidden".toList || (name == "aria-hidden".toList && trimChars value == "true".toList) ||
      (name == "style".toList && (value.splitOn ';').any isHidingDeclaration)

/-- Elements that start on a line of their own. -/
def blockElements : List String :=
  ["p", "div", "section", "article", "header", "footer", "aside", "main", "nav", "h1", "h2", "h3",
    "h4", "h5", "h6", "blockquote", "pre", "address", "ul", "ol", "dl", "dt", "dd", "tr", "table"]

/-! ## The sink -/

/-- The bound on all texts of a receipt. -/
def maxFragmentTotalBytes : ℕ := 128 * 1024

def isBoundedMetadata (value : List Char) (maxChars : ℕ) : Bool :=
  value ≠ [] && value.length ≤ maxChars && !value.any isControl

def safeContentId (value : List Char) : Option String :=
  let value := ((trimChars value).dropWhile (· == '<')).rdropWhile (· == '>')
  if isBoundedMetadata value maxReceiptMetadataChars then some (String.ofList value) else none

/-- The content id a `cid:` address names. -/
def cidReference (value : List Char) : Option String :=
  if toAsciiLowercase (value.take 4) = "cid:".toList then safeContentId (value.drop 4) else none

/-- The sink's state. Referenced content ids are kept in order. -/
structure SanitizerState where
  output : List Char
  referencedCids : List String
  suppressed : List (List Char)
  remoteImageSources : List (List Char)
  openCells : ℕ
  failed : Bool
  deriving DecidableEq

def SanitizerState.default : SanitizerState := ⟨[], [], [], [], 0, false⟩

def insertCid (cids : List String) (cid : String) : List String :=
  if cid ∈ cids then cids else cids.orderedInsert (· ≤ ·) cid

def imageAttribute (isRemoteHttpSource : List Char → Bool) (state : SanitizerState)
    (attr : Attribute) : SanitizerState :=
  let name := toAsciiLowercase attr.name
  if name = "src".toList then
    match cidReference attr.value with
    | some cid => { state with referencedCids := insertCid state.referencedCids cid }
    | none =>
      if isRemoteHttpSource attr.value then
        { state with remoteImageSources := state.remoteImageSources ++ [attr.value] }
      else state
  else if name = "alt".toList then
    let alt := normalizeInlineWhitespace attr.value
    if alt = [] then state
    else { state with
      output := appendBoundary state.output [' '] ++ "[image: ".toList ++ alt ++ [']'] }
  else state

def structuralStart (name : List Char) (state : SanitizerState) : SanitizerState :=
  if ("br" :: "hr" :: blockElements).any (·.toList == name) then
    { state with output := appendBoundary state.output ['\n'] }
  else if name = "li".toList then
    { state with output := appendBoundary state.output ['\n'] ++ "- ".toList }
  else if name = "td".toList ∨ name = "th".toList then
    { state with
      output := if 0 < state.openCells then appendBoundary state.output " | ".toList
        else state.output
      openCells := state.openCells + 1 }
  else state

def structuralEnd (name : List Char) (state : SanitizerState) : SanitizerState :=
  if ("li" :: blockElements).any (·.toList == name) then
    { state with
      output := appendBoundary state.output ['\n']
      openCells := if name = "tr".toList then 0 else state.openCells }
  else state

def lastOf (name : List Char) (elements : List (List Char)) : Option ℕ :=
  (elements.reverse.findIdx? (· == name)).map fun index => elements.length - 1 - index

/-- An element whose content is not to be shown. -/
def isSuppressing (tag : Tag) : Bool :=
  isSuppressedElement (toAsciiLowercase tag.name) || hasHiddenAttribute tag.attrs

def processStart (isRemoteHttpSource : List Char → Bool) (state : SanitizerState) (tag : Tag) :
    SanitizerState :=
  let name := toAsciiLowercase tag.name
  if isSuppressing tag || state.suppressed ≠ [] then
    if !tag.selfClosing && !isVoidElement name then
      { state with suppressed := state.suppressed ++ [name] }
    else state
  else
    let state := if name = "img".toList then
        tag.attrs.foldl (imageAttribute isRemoteHttpSource) state
      else state
    structuralStart name state

def processEnd (state : SanitizerState) (tag : Tag) : SanitizerState :=
  let name := toAsciiLowercase tag.name
  if state.suppressed ≠ [] then
    match lastOf name state.suppressed with
    | some index => { state with suppressed := state.suppressed.take index }
    | none => state
  else structuralEnd name state

/-- Elements after whose start tag the tokenizer reads raw text; the sink returns to it
before the check of the output's length. -/
def rawTextElements : List String :=
  ["script", "style", "xmp", "iframe", "noembed", "noframes", "title", "textarea"]

def checkOutput (state : SanitizerState) : SanitizerState :=
  if maxFragmentTotalBytes * 2 < (encode state.output).length then { state with failed := true }
  else state

def processToken (isRemoteHttpSource : List Char → Bool) (state : SanitizerState) (token : Token) :
    SanitizerState :=
  if state.failed then state
  else match token with
    | .characters characters =>
      if state.suppressed = [] then
        checkOutput { state with output := appendCharacters state.output characters }
      else checkOutput state
    | .tag tag =>
      match tag.kind with
      | .startTag =>
        let next := processStart isRemoteHttpSource state tag
        if rawTextElements.any (·.toList == toAsciiLowercase tag.name) then next
        else checkOutput next
      | .endTag => checkOutput (processEnd state tag)
    | .other => checkOutput state

def processTokens (isRemoteHttpSource : List Char → Bool) (tokens : List Token) : SanitizerState :=
  tokens.foldl (processToken isRemoteHttpSource) .default

structure SanitizedHtmlV1 where
  text : List Char
  referencedCids : List String
  remoteImageSources : List (List Char)
  deriving DecidableEq

/-- What is kept at the end. -/
def SanitizerState.finish (state : SanitizerState) : Except ReceiptParseError SanitizedHtmlV1 :=
  if state.failed then .error .htmlTokenizeFailed
  else
    let text := canonicalizeStructuralText state.output
    if maxFragmentTotalBytes < (encode text).length then .error .fragmentTotalLimit
    else .ok ⟨text, state.referencedCids, state.remoteImageSources⟩

end Threadbook
