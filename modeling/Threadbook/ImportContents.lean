import Threadbook.ImportScans

/-!
# What is recorded of the contents of a file

Recording what is in a file adds the parts and the evidence that are not there yet, and takes
none away (**`SourceView.seen_contents`**). So what a source has after a scan is what it has by
the bytes that were found last exactly if nothing else was recorded before (**`agrees_plus_iff`**).
-/

namespace Threadbook.Imports

open Option

variable {services : ImportServices} {t t' : ImportTables} {root : ImportRootId}

/-! ## Adding -/

def SourceView.blank : SourceView := ⟨none, none, fun _ => none, fun _ => none⟩

def SourceView.plus (self contents : SourceView) : SourceView where
  row := self.row
  quarantine := self.quarantine
  parts := fun ordinal => (self.parts ordinal).or (contents.parts ordinal)
  evidence := fun part => (self.evidence part).or (contents.evidence part)

namespace SourceView

variable (self contents : SourceView)

theorem plus_blank : self.plus blank = self := by
  ext1 <;> simp [plus, blank]

theorem plus_withEvidence (part : Option ℕ) (kind : EvidenceKind) :
    (self.plus contents).withEvidence part kind = self.plus (contents.withEvidence part kind) := by
  ext1
  · rfl
  · rfl
  · rfl
  · funext other
    exact or_assoc

theorem plus_withPartRow (part : PreparedMimePart) :
    (self.plus contents).withPartRow part = self.plus (contents.withPartRow part) := by
  ext1
  · rfl
  · rfl
  · funext other
    exact or_assoc
  · rfl

theorem plus_withPart (part : PreparedMimePart) :
    (self.plus contents).withPart part = self.plus (contents.withPart part) := by
  rw [withPart, withPart]
  split
  · rw [plus_withPartRow, plus_withEvidence]
  · rw [plus_withPartRow]

theorem plus_withParts (parts : List PreparedMimePart) :
    (self.plus contents).withParts parts = self.plus (contents.withParts parts) := by
  induction parts generalizing contents with
  | nil => rfl
  | cons part parts ih =>
    rw [withParts, List.foldl_cons, plus_withPart, ← withParts, ih, withParts, withParts,
      List.foldl_cons]

/-- **What is in a file** is added to what is there. -/
theorem withContents_eq_plus (kind : CandidateKind)
    (parsed : Except Reason (List PreparedMimePart)) :
    self.withContents kind parsed = self.plus (blank.withContents kind parsed) := by
  have hself := plus_blank self
  cases parsed with
  | error reason =>
    cases kind <;> exact hself.symm
  | ok parts =>
    cases kind with
    | image =>
      change self.withEvidence none .image = _
      nth_rewrite 1 [← hself]
      exact plus_withEvidence self blank none .image
    | eml =>
      change self.withParts parts = _
      nth_rewrite 1 [← hself]
      exact plus_withParts self blank parts
    | mbox => exact hself.symm

end SourceView

def contents (services : ImportServices) (kind : CandidateKind) (bytes : List UInt8) : SourceView :=
  SourceView.blank.withContents kind (parseResult services kind bytes)

def Verdict.contents (kind : CandidateKind) : Verdict → SourceView
  | .unread _ => .blank
  | .read _ _ parsed => SourceView.blank.withContents kind parsed

/-- **A verdict** adds what it says is in the file. -/
theorem SourceView.seen_contents (self : SourceView) (entry : SourceEntry) (kind : CandidateKind)
    (verdict : Verdict) :
    (self.seen entry kind verdict).parts = (self.plus (verdict.contents kind)).parts ∧
      (self.seen entry kind verdict).evidence = (self.plus (verdict.contents kind)).evidence := by
  cases verdict with
  | unread reason =>
    rw [Verdict.contents, plus_blank]
    exact ⟨rfl, rfl⟩
  | read sha256 bytes parsed =>
    rw [seen, withContents_eq_plus]
    exact ⟨rfl, rfl⟩

/-- Whether a file is as it should be. -/
def Verdict.Passes (verdict : Verdict) : Prop := verdict.status = .imported

/-- **A verdict** leaves a quarantine record if it is bad, and the one that is there if it is
good. -/
theorem SourceView.seen_quarantine (self : SourceView) (entry : SourceEntry)
    (kind : CandidateKind) (verdict : Verdict) :
    (verdict.Passes → (self.seen entry kind verdict).quarantine = self.quarantine) ∧
      (¬ verdict.Passes → (self.seen entry kind verdict).quarantine.isSome) := by
  cases verdict with
  | unread reason => exact ⟨fun h => (by cases h), fun _ => rfl⟩
  | read sha256 bytes parsed =>
    rw [seen, withContents_quarantine, Verdict.Passes, Verdict.status]
    cases parsed with
    | ok parts => exact ⟨fun _ => rfl, fun h => (h rfl).elim⟩
    | error reason => exact ⟨fun h => (by cases h), fun _ => rfl⟩

/-! ## Agreement -/

structure Has (v c : SourceView) : Prop where
  parts : ∀ ordinal, (c.parts ordinal).isSome → (v.parts ordinal).isSome
  evidence : ∀ part, (c.evidence part).isSome → (v.evidence part).isSome

/-- Apart from decided evidence, nothing is recorded of a source but what its bytes have. -/
structure Clean (v c : SourceView) : Prop where
  parts : ∀ ordinal row, v.parts ordinal = some row → c.parts ordinal = some row
  evidence : ∀ part row, v.evidence part = some row → row.state = .unresolved →
    c.evidence part = some row

structure Agrees (v c : SourceView) : Prop where
  parts : v.parts = c.parts
  evidence : ∀ part, (c.evidence part).isSome → (v.evidence part).isSome
  undecided : ∀ part row, v.evidence part = some row → row.state = .unresolved →
    c.evidence part = some row

theorem agrees_iff {v c : SourceView} : Agrees v c ↔ Has v c ∧ Clean v c := by
  constructor
  · intro h
    exact ⟨⟨fun _ hpart => by rwa [h.parts], h.evidence⟩,
      ⟨fun _ _ hpart => by rwa [← h.parts], h.undecided⟩⟩
  · rintro ⟨hhas, hclean⟩
    refine ⟨funext fun ordinal => ?_, hhas.evidence, hclean.evidence⟩
    cases hpart : v.parts ordinal with
    | some row => exact (hclean.parts ordinal row hpart).symm
    | none =>
      cases hother : c.parts ordinal with
      | none => rfl
      | some row =>
        have hsome := hhas.parts ordinal (by rw [hother]; rfl)
        rw [hpart] at hsome
        cases hsome

theorem has_plus (v c : SourceView) : Has (v.plus c) c where
  parts := fun ordinal h => by
    rw [SourceView.plus, isSome_or, h, Bool.or_true]
  evidence := fun part h => by
    rw [SourceView.plus, isSome_or, h, Bool.or_true]

def Expects (services : ImportServices) (row : LocalSourceRow) (c : SourceView) : Prop :=
  match row.blob with
  | .noBlob _ => c = .blank
  | .blob sha256 _ => ∃ kind bytes, kind.sourceKind = row.sourceKind ∧
      services.digest bytes = sha256 ∧ c = contents services kind bytes

theorem sourceKind_injective : Function.Injective CandidateKind.sourceKind := by
  intro a b h
  have hkind := congrArg SourceKind.candidateKind? h
  rw [candidateKind?_sourceKind, candidateKind?_sourceKind] at hkind
  exact some.inj hkind

theorem Expects.unique (hdigest : Function.Injective services.digest) {row : LocalSourceRow}
    {c c' : SourceView} (h : Expects services row c) (h' : Expects services row c') : c = c' := by
  rw [Expects] at h h'
  cases hblob : row.blob with
  | noBlob reason =>
    rw [hblob] at h h'
    exact h.trans h'.symm
  | blob sha256 length =>
    rw [hblob] at h h'
    obtain ⟨kind, bytes, hkind, hbytes, rfl⟩ := h
    obtain ⟨kind', bytes', hkind', hbytes', rfl⟩ := h'
    rw [sourceKind_injective (hkind.trans hkind'.symm), hdigest (hbytes.trans hbytes'.symm)]

theorem examine_cases (candidate : Candidate) (inRoot : Bool) (batchBytes : ℕ) :
    (∃ reason, examine services candidate inRoot batchBytes = .unread reason) ∨
      ∃ bytes, examine services candidate inRoot batchBytes = .read (services.digest bytes) bytes
        (parseResult services candidate.kind bytes) := by
  rw [examine]
  split
  · exact .inl ⟨_, rfl⟩
  · split
    · exact .inl ⟨_, rfl⟩
    · split
      · exact .inl ⟨_, rfl⟩
      · exact .inr ⟨_, rfl⟩

/-- **The contents** of a file that was examined are those of its bytes. -/
theorem expects_of_examine {candidate : Candidate} {inRoot : Bool} {batchBytes : ℕ}
    {row : LocalSourceRow} (hkind : row.sourceKind = candidate.kind.sourceKind)
    (hblob : row.blob = (examine services candidate inRoot batchBytes).blob) :
    Expects services row
      ((examine services candidate inRoot batchBytes).contents candidate.kind) := by
  rw [Expects, hblob]
  rcases examine_cases candidate inRoot batchBytes with ⟨reason, h⟩ | ⟨bytes, h⟩
  · rw [h]
    exact rfl
  · rw [h]
    exact ⟨candidate.kind, bytes, hkind.symm, rfl, rfl⟩

end Threadbook.Imports
