import Threadbook.ReceiptParser

/-!
# The texts the parser keeps

Texts of fragments have no control characters but line breaks. The texts kept of headers
and references are bounded and free of control characters, but not always trimmed,
which the contract demands.
-/

namespace Threadbook

open List

/-! ## Characters that are kept -/

def IsClean (text : List Char) : Prop := ∀ c ∈ text, c ≠ '\n' → isControl c = false

theorem IsClean.append {left right : List Char} (hl : IsClean left) (hr : IsClean right) :
    IsClean (left ++ right) := by
  intro c hc hne
  rcases mem_append.mp hc with h | h
  · exact hl c h hne
  · exact hr c h hne

variable {value text : List Char} {maxChars : ℕ} {kept : String}

theorem IsClean.cons {c : Char} (hc : c ≠ '\n' → isControl c = false) (h : IsClean text) :
    IsClean (c :: text) := by
  intro d hd hne
  rcases mem_cons.mp hd with rfl | hd
  · exact hc hne
  · exact h d hd hne

theorem IsClean.mono {part : List Char} (h : IsClean text) (hsub : part ⊆ text) : IsClean part :=
  fun c hc => h c (hsub hc)

/-- A text that is short, visible and free of control characters. -/
def IsBounded (maxChars : ℕ) (value : String) : Prop :=
  value.toList ≠ [] ∧ value.length ≤ maxChars ∧ value.toList.any isControl = false

theorem isBounded_of_metadata (h : isBoundedMetadata value maxChars = true) :
    IsBounded maxChars (String.ofList value) := by
  simp only [isBoundedMetadata, Bool.and_eq_true, decide_eq_true_eq, Bool.not_eq_true'] at h
  rw [IsBounded, String.toList_ofList, String.length_ofList]
  exact ⟨h.1.1, h.1.2, h.2⟩

theorem safeContentId_isBounded (h : safeContentId value = some kept) :
    IsBounded maxReceiptMetadataChars kept := by
  rw [safeContentId] at h
  split at h
  · rename_i hbounded
    rw [← Option.some.inj h]
    exact isBounded_of_metadata hbounded
  · cases h

structure KeptHeaders.Bounded (headers : KeptHeaders) : Prop where
  contentType : IsBounded maxReceiptAttributeChars headers.contentType
  disposition : ∀ value ∈ headers.disposition, IsBounded maxReceiptMetadataChars value
  filename : ∀ value ∈ headers.filename, IsBounded maxReceiptMetadataChars value
  contentId : ∀ value ∈ headers.contentId, IsBounded maxReceiptMetadataChars value

def KeptHeaders.texts (headers : KeptHeaders) : List String :=
  headers.contentType :: (headers.disposition.toList ++ headers.filename.toList ++
    headers.contentId.toList)

def GoodCids (cids : List String) : Prop :=
  cids.Nodup ∧ ∀ cid ∈ cids, IsBounded maxReceiptMetadataChars cid

theorem GoodCids.insertCid {cids : List String} (h : GoodCids cids) {cid : String}
    (hcid : IsBounded maxReceiptMetadataChars cid) : GoodCids (insertCid cids cid) := by
  rw [Threadbook.insertCid]
  split
  · exact h
  · rename_i hnew
    have hperm := perm_orderedInsert (· ≤ ·) cid cids
    refine ⟨hperm.nodup_iff.mpr (nodup_cons.mpr ⟨hnew, h.1⟩), ?_⟩
    intro other hother
    rcases mem_cons.mp (hperm.mem_iff.mp hother) with rfl | hother
    · exact hcid
    · exact h.2 other hother

theorem cidReference_isBounded {cid : String} (h : cidReference value = some cid) :
    IsBounded maxReceiptMetadataChars cid := by
  rw [cidReference] at h
  split at h
  · exact safeContentId_isBounded h
  · cases h

section Sanitizer

variable {remote : List Char → Bool} {state : SanitizerState}

theorem GoodCids.imageAttribute (h : GoodCids state.referencedCids) (attr : Attribute) :
    GoodCids (imageAttribute remote state attr).referencedCids := by
  rw [Threadbook.imageAttribute]
  dsimp only
  split
  · split
    · rename_i cid hcid
      exact h.insertCid (cidReference_isBounded hcid)
    · split
      · exact h
      · exact h
  split
  · split
    · exact h
    · exact h
  · exact h

theorem GoodCids.foldl_imageAttribute (h : GoodCids state.referencedCids) (attrs : List Attribute) :
    GoodCids (attrs.foldl (Threadbook.imageAttribute remote) state).referencedCids := by
  induction attrs generalizing state with
  | nil => exact h
  | cons attr rest ih =>
    rw [foldl_cons]
    exact ih (h.imageAttribute attr)

theorem structuralStart_cids (name : List Char) :
    (structuralStart name state).referencedCids = state.referencedCids := by
  rw [structuralStart]
  split
  · rfl
  split
  · rfl
  split <;> rfl

theorem structuralEnd_cids (name : List Char) :
    (structuralEnd name state).referencedCids = state.referencedCids := by
  rw [structuralEnd]
  split <;> rfl

theorem checkOutput_cids : (checkOutput state).referencedCids = state.referencedCids := by
  rw [checkOutput]
  split <;> rfl

theorem GoodCids.processStart (h : GoodCids state.referencedCids) (tag : Tag) :
    GoodCids (processStart remote state tag).referencedCids := by
  rw [Threadbook.processStart]
  dsimp only
  split
  · split
    · exact h
    · exact h
  · rw [structuralStart_cids]
    split
    · exact h.foldl_imageAttribute _
    · exact h

theorem processEnd_cids (tag : Tag) :
    (processEnd state tag).referencedCids = state.referencedCids := by
  rw [processEnd]
  split
  · split <;> rfl
  · exact structuralEnd_cids _

theorem GoodCids.processToken (h : GoodCids state.referencedCids) (token : Token) :
    GoodCids (processToken remote state token).referencedCids := by
  unfold Threadbook.processToken
  split
  · exact h
  cases token with
  | characters characters =>
    dsimp only
    split
    · rw [checkOutput_cids]
      exact h
    · rw [checkOutput_cids]
      exact h
  | other =>
    dsimp only
    rw [checkOutput_cids]
    exact h
  | tag tag =>
    dsimp only
    cases tag.kind with
    | startTag =>
      dsimp only
      split
      · exact h.processStart tag
      · rw [checkOutput_cids]
        exact h.processStart tag
    | endTag =>
      dsimp only
      rw [checkOutput_cids, processEnd_cids]
      exact h

end Sanitizer

end Threadbook
