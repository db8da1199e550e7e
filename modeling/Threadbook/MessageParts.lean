import Mathlib
import Threadbook.GmailRepository

/-!
# What a file must be to be imported

A mail is taken apart into its MIME parts, within limits on headers, parts, decoded bytes and
depth. An image has to be a still one of a known format and of a bearable size. What parses a
mail and decodes an image lies outside the repository.
-/

namespace Threadbook.Imports

open List

/-- Why a file is put into quarantine. -/
abbrev Reason := String

/-! ## Mails -/

def mimePartLimit : ℕ := 200
def mimeDepthLimit : ℕ := 16
def headerLimit : ℕ := 256 * 1024
def decodedPartLimit : ℕ := 25 * 1024 * 1024
def decodedTotalLimit : ℕ := 100 * 1024 * 1024

inductive PartType
  | text (length : ℕ)
  | html (length : ℕ)
  | binary (length : ℕ)
  | message (length : ℕ)
  | multipart (children : List ℕ)

structure MessagePart where
  offsetHeader : ℕ
  offsetBody : ℕ
  body : PartType
  contentType : Option (String × Option String)
  contentDisposition : Option String
  contentId : Option String

def windowPosition (pattern : List UInt8) : List UInt8 → Option ℕ
  | [] => none
  | byte :: rest =>
    if pattern.isPrefixOf (byte :: rest) then some 0
    else (windowPosition pattern rest).map (· + 1)

def headerEnd (bytes : List UInt8) : Option ℕ :=
  ((windowPosition [13, 10, 13, 10] bytes).map (· + 4)).or
    ((windowPosition [10, 10] bytes).map (· + 2))

def aggregateHeaders (parts : List MessagePart) : Except Reason ℕ :=
  parts.foldlM (fun total part =>
    if part.offsetBody < part.offsetHeader then .error "mail_headers_invalid"
    else .ok (total + (part.offsetBody - part.offsetHeader))) 0

def enterChildren (parent : ℕ) (parents : List (Option ℕ)) (children : List ℕ) :
    Except Reason (List (Option ℕ)) :=
  children.foldlM (fun parents child =>
    if parents.length ≤ child then .error "mail_parse_failed"
    else .ok (parents.set child (some parent))) parents

def parentsOf (parts : List MessagePart) : Except Reason (List (Option ℕ)) :=
  parts.zipIdx.foldlM (fun parents part =>
    match part.1.body with
    | .multipart children => enterChildren part.2 parents children
    | _ => .ok parents) (List.replicate parts.length none)

/-- What a body is, and how long it is decoded. -/
def bodyOf : PartType → Except Reason (BodyKind × ℕ)
  | .text length => .ok (.text, length)
  | .html length => .ok (.html, length)
  | .binary length => .ok (.binary, length)
  | .message length => .ok (.message, length)
  | .multipart children =>
    if mimePartLimit < children.length then .error "mail_part_limit" else .ok (.multipart, 0)

def contentTypeOf (part : MessagePart) : String :=
  match part.contentType with
  | some (type, subtype) => type ++ "/" ++ subtype.getD "octet-stream"
  | none => "application/octet-stream"

def preparePart (ordinal : ℕ) (part : MessagePart) (parent : Option ℕ) (bodyKind : BodyKind)
    (decodedBytes : ℕ) : PreparedMimePart where
  ordinal := ordinal
  parentOrdinal := parent
  contentType := contentTypeOf part
  disposition := part.contentDisposition
  contentId := part.contentId
  bodyKind := bodyKind
  decodedBytes := decodedBytes
  isImage := (contentTypeOf part).startsWith "image/"

/-- Prepare the parts from `ordinal` on, when so many bytes are decoded already. -/
def prepareParts : List (MessagePart × Option ℕ) → ℕ → ℕ → Except Reason (List PreparedMimePart)
  | [], _, _ => .ok []
  | (part, parent) :: rest, ordinal, total => do
    let (bodyKind, decodedBytes) ← bodyOf part.body
    if decodedPartLimit < decodedBytes then .error "mail_decoded_part_limit"
    else if decodedTotalLimit < total + decodedBytes then .error "mail_decoded_total_limit"
    else do
      let parsed ← prepareParts rest (ordinal + 1) (total + decodedBytes)
      .ok (preparePart ordinal part parent bodyKind decodedBytes :: parsed)

/-- The depth of a part, at most `room` levels below which are looked at. -/
def mimeDepth (parts : List MessagePart) : ℕ → ℕ → ℕ → Except Reason ℕ
  | 0, _, _ => .error "mail_depth_limit"
  | room + 1, partId, depth =>
    match parts[partId]? with
    | none => .error "mail_depth_limit"
    | some part => match part.body with
      | .multipart children => children.foldlM (fun maxDepth child => do
          let childDepth ← mimeDepth parts room child (depth + 1)
          .ok (max maxDepth childDepth)) depth
      | _ => .ok depth

def prepareMessageParts (parse : List UInt8 → Option (List MessagePart)) (bytes : List UInt8) :
    Except Reason (List PreparedMimePart) :=
  match headerEnd bytes with
  | none => .error "mail_headers_invalid"
  | some headerEnd =>
    if headerLimit < headerEnd then .error "mail_header_limit"
    else match parse bytes with
      | none => .error "mail_parse_failed"
      | some parts =>
        if mimePartLimit < parts.length then .error "mail_part_limit"
        else do
          let headers ← aggregateHeaders parts
          if headerLimit < headers then .error "mail_header_limit"
          else do
            let parents ← parentsOf parts
            let parsed ← prepareParts (parts.zip parents) 0 0
            -- the deepest part may be at depth `mimeDepthLimit`
            let depth ← mimeDepth parts (mimeDepthLimit + 1) 0 0
            if mimeDepthLimit < depth then .error "mail_depth_limit"
            else .ok parsed

/-! ## Images -/

inductive ImageFormat
  | jpeg
  | png
  | webP
  | other

structure ImageDecoder where
  guessFormat : List UInt8 → Option ImageFormat
  isApng : List UInt8 → Option Bool
  hasAnimation : List UInt8 → Option Bool
  intoDimensions : ImageFormat → List UInt8 → Option (ℕ × ℕ)
  decodes : ImageFormat → List UInt8 → Bool

def imagePixelLimit : ℕ := 64 * 1024 * 1024

def animated (decoder : ImageDecoder) (bytes : List UInt8) : ImageFormat → Option Bool
  | .png => decoder.isApng bytes
  | .webP => decoder.hasAnimation bytes
  | _ => some false

def validateImage (decoder : ImageDecoder) (bytes : List UInt8) : Except Reason Unit :=
  match decoder.guessFormat bytes with
  | none => .error "image_magic_invalid"
  | some .other => .error "image_format_unsupported"
  | some format => match animated decoder bytes format with
    | none => .error "image_decode_failed"
    | some true => .error "image_animated"
    | some false => match decoder.intoDimensions format bytes with
      | none => .error "image_decode_failed"
      | some (width, height) =>
        if imagePixelLimit < width * height then .error "image_pixel_limit"
        else if decoder.decodes format bytes then .ok ()
        else .error "image_decode_failed"

/-! ## The parts of a mail -/

variable {parsed : List PreparedMimePart} {parse : List UInt8 → Option (List MessagePart)}
  {bytes : List UInt8}

theorem prepareParts_ordinal {parts : List (MessagePart × Option ℕ)} {ordinal total : ℕ}
    (h : prepareParts parts ordinal total = .ok parsed) :
    parsed.map PreparedMimePart.ordinal = (range' ordinal parsed.length) ∧
      parsed.map PreparedMimePart.parentOrdinal = parts.map Prod.snd := by
  induction parts generalizing ordinal total parsed with
  | nil =>
    cases h
    exact ⟨rfl, rfl⟩
  | cons part parts ih =>
    obtain ⟨part, parent⟩ := part
    rw [prepareParts, check_bind_eq_ok] at h
    obtain ⟨⟨bodyKind, decodedBytes⟩, -, h⟩ := h
    rw [check_unless_eq_ok] at h
    obtain ⟨-, h⟩ := h
    rw [check_unless_eq_ok, check_bind_eq_ok] at h
    obtain ⟨-, rest, hrest, h⟩ := h
    cases h
    obtain ⟨hordinals, hparents⟩ := ih hrest
    refine ⟨?_, ?_⟩
    · rw [map_cons, hordinals, length_cons, range'_succ]
      rfl
    · rw [map_cons, map_cons, hparents]
      rfl

theorem prepareMessageParts_eq_ok (h : prepareMessageParts parse bytes = .ok parsed) :
    ∃ parts parents, parse bytes = some parts ∧ parentsOf parts = .ok parents ∧
      prepareParts (parts.zip parents) 0 0 = .ok parsed := by
  rw [prepareMessageParts] at h
  split at h
  · cases h
  · rw [check_unless_eq_ok] at h
    obtain ⟨-, h⟩ := h
    split at h
    · cases h
    · rename_i parts hparse
      rw [check_unless_eq_ok, check_bind_eq_ok] at h
      obtain ⟨-, headers, -, h⟩ := h
      rw [check_unless_eq_ok, check_bind_eq_ok] at h
      obtain ⟨-, parents, hparents, h⟩ := h
      rw [check_bind_eq_ok] at h
      obtain ⟨prepared, hprepared, h⟩ := h
      rw [check_bind_eq_ok] at h
      obtain ⟨depth, -, h⟩ := h
      rw [check_unless_eq_ok] at h
      obtain rfl := Except.ok.inj h.2
      exact ⟨parts, parents, hparse, hparents, hprepared⟩

/-- **The parts of a mail** are numbered in turn. -/
theorem ordinal_of_prepareMessageParts (h : prepareMessageParts parse bytes = .ok parsed) :
    parsed.map PreparedMimePart.ordinal = range parsed.length := by
  obtain ⟨parts, parents, -, -, hprepared⟩ := prepareMessageParts_eq_ok h
  rw [(prepareParts_ordinal hprepared).1, range_eq_range']

/-! ## Parents -/

def ChildrenAfter (parts : List MessagePart) : Prop :=
  ∀ (i : ℕ) (part : MessagePart), parts[i]? = some part →
    ∀ (children : List ℕ), part.body = .multipart children → ∀ child ∈ children, i < child

def ParentsFirst (parse : List UInt8 → Option (List MessagePart)) : Prop :=
  ∀ bytes parts, parse bytes = some parts → ChildrenAfter parts

def ParentsBefore (parents : List (Option ℕ)) : Prop :=
  ∀ (i p : ℕ), parents[i]? = some (some p) → p < i

theorem parentsBefore_enterChildren {parent : ℕ} {parents entered : List (Option ℕ)}
    {children : List ℕ} (h : enterChildren parent parents children = .ok entered)
    (hchildren : ∀ child ∈ children, parent < child) (hparents : ParentsBefore parents) :
    ParentsBefore entered := by
  rw [enterChildren] at h
  induction children generalizing parents with
  | nil =>
    cases h
    exact hparents
  | cons child children ih =>
    rw [check_foldlM_cons_eq_ok] at h
    obtain ⟨parents₁, hset, h⟩ := h
    rw [check_unless_eq_ok] at hset
    obtain rfl := Except.ok.inj hset.2
    rw [forall_mem_cons] at hchildren
    refine ih h hchildren.2 fun i p hget => ?_
    rw [getElem?_set] at hget
    split at hget
    · rename_i heq
      split at hget
      · obtain rfl := Option.some.inj (Option.some.inj hget)
        rw [← heq]
        exact hchildren.1
      · cases hget
    · exact hparents i p hget

theorem parentsBefore_parentsOf {parts : List MessagePart} {parents : List (Option ℕ)}
    (h : parentsOf parts = .ok parents) (hafter : ChildrenAfter parts) : ParentsBefore parents := by
  rw [parentsOf] at h
  have hloop : ∀ (l : List (MessagePart × ℕ)) (start : List (Option ℕ)),
      (∀ entry ∈ l, parts[entry.2]? = some entry.1) → ParentsBefore start →
      l.foldlM (fun parents part =>
        match part.1.body with
        | .multipart children => enterChildren part.2 parents children
        | _ => .ok parents) start = .ok parents → ParentsBefore parents := by
    intro l
    induction l with
    | nil =>
      intro start _ hstart h
      cases h
      exact hstart
    | cons entry l ih =>
      intro start hl hstart h
      rw [forall_mem_cons] at hl
      rw [check_foldlM_cons_eq_ok] at h
      obtain ⟨next, hnext, h⟩ := h
      refine ih next hl.2 ?_ h
      split at hnext
      · rename_i children hbody
        exact parentsBefore_enterChildren hnext (hafter _ _ hl.1 children hbody) hstart
      · cases hnext
        exact hstart
  refine hloop _ _ (fun entry hmem => ?_) (fun i p hget => ?_) h
  · exact mem_zipIdx_iff_getElem?.mp hmem
  · rw [getElem?_replicate] at hget
    split at hget <;> cases hget

/-- **The parts of a mail** come after their parents. -/
theorem parentOrdinal_lt (hfirst : ParentsFirst parse)
    (h : prepareMessageParts parse bytes = .ok parsed) :
    ∀ part ∈ parsed, ∀ parent ∈ part.parentOrdinal, parent < part.ordinal := by
  obtain ⟨parts, parents, hparse, hparents, hprepared⟩ := prepareMessageParts_eq_ok h
  obtain ⟨hordinals, hparentOrdinals⟩ := prepareParts_ordinal hprepared
  intro part hmem parent hparent
  obtain ⟨i, hi⟩ := List.getElem?_of_mem hmem
  have hordinal : part.ordinal = i := by
    have hget := congrArg (·[i]?) hordinals
    simp only [List.getElem?_map, hi, Option.map_some] at hget
    have hlt : i < parsed.length := (List.getElem?_eq_some_iff.mp hi).1
    rw [← List.range_eq_range', List.getElem?_range hlt] at hget
    exact Option.some.inj hget
  have hget := congrArg (·[i]?) hparentOrdinals
  simp only [List.getElem?_map, hi, Option.map_some, Option.mem_def.mp hparent] at hget
  obtain ⟨⟨part', parent'⟩, hzip, heq⟩ := Option.map_eq_some_iff.mp hget.symm
  obtain ⟨-, hparent'⟩ := List.getElem?_zip_eq_some.mp hzip
  rw [hordinal]
  exact parentsBefore_parentsOf hparents (hfirst _ _ hparse) i parent (by rw [hparent', ← heq])

end Threadbook.Imports
