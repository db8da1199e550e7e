import Threadbook.ConnectorKeeping

/-!
# The head of an asset

**The head of an asset is its last transition** (`Command.run_headed`): no call touches revisions
or heads but through transitions, and a transition that says something new adds a revision and
makes it the head.
-/

namespace Threadbook.PhotoKit

open List

open Promotion (RequestId)
open Fallible (Keeps)

def lastRevision (revisions : List RevisionRow) (assetId : String) : Option RevisionRow :=
  (revisions.filter fun row => row.assetId = assetId).getLast?

structure Headed (revisions : List RevisionRow) (heads : Table String String) : Prop where
  distinct : (revisions.map RevisionRow.revisionId).Nodup
  last : ∀ assetId, heads.find? assetId =
    (lastRevision revisions assetId).map RevisionRow.revisionId

theorem headed_empty : Headed [] .empty :=
  ⟨nodup_nil, fun _ => Table.find?_empty _⟩

theorem lastRevision_append (revisions : List RevisionRow) (row : RevisionRow) (assetId : String) :
    lastRevision (revisions ++ [row]) assetId =
      if row.assetId = assetId then some row else lastRevision revisions assetId := by
  unfold lastRevision
  by_cases h : row.assetId = assetId
  · simp [h]
  · simp [h]

variable {row : RevisionRow} {revisions : List RevisionRow}

theorem Headed.revised {heads : Table String String} (h : Headed revisions heads)
    (hfresh : ∀ other ∈ revisions, other.revisionId ≠ row.revisionId) :
    Headed (revisions ++ [row]) (heads.put row.assetId row.revisionId) where
  distinct := by
    rw [map_append, nodup_append]
    refine ⟨h.distinct, nodup_singleton _, ?_⟩
    rintro _ hother _ hrow rfl
    obtain ⟨other, hother, hsame⟩ := mem_map.mp hother
    exact hfresh other hother (hsame.trans (mem_singleton.mp hrow))
  last assetId := by
    rw [Table.find?_put, lastRevision_append]
    by_cases hasset : assetId = row.assetId
    · rw [if_pos hasset, if_pos hasset.symm]
      rfl
    · rw [if_neg hasset, if_neg (Ne.symm hasset)]
      exact h.last assetId

theorem lastRevision_mem {assetId : String} (h : lastRevision revisions assetId = some row) :
    row ∈ revisions ∧ row.assetId = assetId := by
  have hmem := mem_of_getLast? h
  simpa using mem_filter.mp hmem

theorem Headed.revision?_eq {t : ConnectorTables} (h : Headed t.revisions t.heads)
    (hrow : row ∈ t.revisions) : t.revision? row.revisionId = some row := by
  unfold ConnectorTables.revision?
  cases hfound : t.revisions.find? fun other => other.revisionId = row.revisionId with
  | none => simpa using find?_eq_none.mp hfound row hrow
  | some other =>
    have hsame : other.revisionId = row.revisionId := by simpa using find?_some hfound
    rw [inj_on_of_nodup_map h.distinct (mem_of_find?_eq_some hfound) hrow hsame]

theorem Headed.headRevision_eq {t : ConnectorTables} (h : Headed t.revisions t.heads)
    (assetId : String) : t.headRevision assetId = lastRevision t.revisions assetId := by
  unfold ConnectorTables.headRevision
  rw [h.last]
  cases hlast : lastRevision t.revisions assetId with
  | none => rfl
  | some row => exact h.revision?_eq (lastRevision_mem hlast).1

/-! ## Conditions on heads -/

/-- A condition that depends on revisions and heads only, and that transitions keep. -/
structure OnHeads (P : ConnectorTables → Prop) : Prop where
  same : ∀ t t', t'.revisions = t.revisions → t'.heads = t.heads → P t → P t'
  revised : ∀ t row, t.revisionClashes row = false → P t → P (t.revised row)

theorem headed_onHeads : OnHeads fun t => Headed t.revisions t.heads where
  same _ _ hrevisions hheads h := by
    rw [hrevisions, hheads]
    exact h
  revised t row hclash h := by
    refine h.revised fun other hother hsame => ?_
    have hnone : t.hasRevision row.revisionId = false := by
      simp only [ConnectorTables.revisionClashes, decide_eq_false_iff_not, not_or,
        Bool.not_eq_true] at hclash
      exact hclash.1
    simp only [ConnectorTables.hasRevision, any_eq_false, decide_eq_true_eq] at hnone
    exact hnone other hother hsame

namespace OnHeads

variable {P : ConnectorTables → Prop} {services : ConnectorServices}

theorem unaffected (hP : OnHeads P) : Unaffected P where
  locators t _ := hP.same t _ rfl rfl
  assets t _ _ _ := hP.same t _ rfl rfl
  blobs t _ := hP.same t _ rfl rfl
  materializations t _ := hP.same t _ rfl rfl
  revised := hP.revised
  members t _ _ := hP.same t _ rfl rfl

theorem lasting (hP : OnHeads P) : Lasting services (fun _ => True) P where
  photokitRevision t _ := hP.same t _ rfl rfl
  connector t _ _ := hP.same t _ rfl rfl
  enrollment t _ _ _ _ _ := hP.same t _ rfl rfl
  reserved t _ _ _ _ := hP.same t _ rfl rfl
  removed t _ := hP.same t _ rfl rfl
  operation t _ _ := hP.same t _ rfl rfl
  locator t _ _ _ := hP.same t _ rfl rfl
  observation t _ _ := hP.same t _ rfl rfl
  attempt t _ _ := hP.same t _ rfl rfl
  generation t _ _ _ _ := hP.same t _ rfl rfl
  finalized _ _ _ _ _ _ := finalizeObservation_keeps hP.unaffected
  revised := hP.revised
  cleaned t _ := hP.same t _ rfl rfl
  receipts t _ := hP.same t _ rfl rfl

end OnHeads

/-- **The head of an asset** stays its last transition. -/
theorem Command.run_headed {services : ConnectorServices} (command : Command) :
    Keeps (fun t => Headed t.revisions t.heads) (command.run services) :=
  headed_onHeads.lasting.run (by cases command <;> simp [Command.Made])

end Threadbook.PhotoKit
