import Threadbook.Attire.OutfitRuns

/-!
# Rows of outfits

Whatever is done to a database, a row of an outfit passes the checks of its table, and a row of a
member has attributes that are accepted (**`OutfitStep.kept`**): they were checked when the outfit
was made, and rows are never changed.
-/

namespace Threadbook.Outfits

open Fallible
open Catalog (CatalogServices)
open Promotion (RequestId)

variable {services : OutfitServices} {catalogServices : CatalogServices} {files : BlobFiles}
  {t t' : OutfitTables}

/-- The rows are as they may be. -/
structure OutfitTables.Kept (t : OutfitTables) : Prop where
  outfits : ∀ outfitId row, t.outfits.find? outfitId = some row → row.allowed
  members : ∀ key row, t.members.find? key = some row →
    row.allowed key.2 ∧ row.attributes.validate = .ok ()

theorem keeps_insertOutfit (outfitId : OutfitId) (row : OutfitRow) :
    Keeps OutfitTables.Kept (insertOutfit outfitId row) := by
  refine .bind .state fun t => .rejectIf_bind fun hallowed => .bind (.rejectIf _ _) fun _ =>
    .bind (.rejectIf _ _) fun _ => .update fun t ht => ⟨fun other found hfound => ?_, ht.members⟩
  rw [Table.find?_put] at hfound
  split at hfound
  · cases hfound
    simpa using hallowed
  · exact ht.outfits other found hfound

theorem keeps_insertMemberRow (outfitId : OutfitId) (ordinal : ℕ) {row : OutfitMemberRow}
    (hattributes : row.attributes.validate = .ok ()) :
    Keeps OutfitTables.Kept (insertMemberRow outfitId ordinal row) := by
  refine .bind .state fun t => .rejectIf_bind fun hallowed => .bind (.rejectIf _ _) fun _ =>
    .bind (.rejectIf _ _) fun _ => .bind (.rejectIf _ _) fun _ => .update fun t ht =>
      ⟨ht.outfits, fun key found hfound => ?_⟩
  rw [Table.find?_put] at hfound
  split at hfound
  · rename_i hkey
    cases hfound
    rw [hkey]
    exact ⟨by simpa using hallowed, hattributes⟩
  · exact ht.members key found hfound

theorem keeps_insertMember (outfitId : OutfitId) {member : OutfitMemberV1}
    (hattributes : member.attributes.validate = .ok ()) :
    Keeps OutfitTables.Kept (insertMember outfitId member) := by
  rw [insertMember]
  split
  · exact keeps_insertMemberRow _ _ hattributes
  · exact keeps_insertMemberRow _ _ hattributes
  · exact .fail _

theorem keeps_insertMembers (outfitId : OutfitId) {members : List OutfitMemberV1}
    (hmembers : ∀ member ∈ members, member.attributes.validate = .ok ()) :
    Keeps OutfitTables.Kept (forEach (insertMember outfitId) members) := by
  induction members with
  | nil => exact .pure []
  | cons member rest ih =>
    obtain ⟨hfirst, hrest⟩ := List.forall_mem_cons.mp hmembers
    exact .bind (keeps_insertMember outfitId hfirst) fun _ => .bind (ih hrest) fun _ => .pure _

theorem keeps_storeOutfit (request : CreateManualOutfitV1Request) {members : List OutfitMemberV1}
    (revision : ℕ) (nowMs : ℤ)
    (hmembers : ∀ member ∈ members, member.attributes.validate = .ok ()) :
    Keeps OutfitTables.Kept (storeOutfit services request members revision nowMs) := by
  refine .bind (keeps_insertOutfit _ _) fun _ => .bind (keeps_insertMembers _ hmembers) fun _ =>
    .bind (.bind (.rejectIf _ _) fun _ => .update fun t ht => ⟨ht.outfits, ht.members⟩) fun _ =>
      .bind (.check _) fun _ => .bind ?_ fun _ => .pure _
  exact .bind .state fun _ => .bind (.rejectIf _ _) fun _ =>
    .update fun t ht => ⟨ht.outfits, ht.members⟩

/-- **Making an outfit** keeps the rows as they may be: a member is pinned with attributes that
were accepted. -/
theorem keeps_createManualOutfit (request : CreateManualOutfitV1Request) (clock : ℤ) :
    Keeps OutfitTables.Kept (createManualOutfit services files request clock) := by
  refine .atomically (.bind (.check _) fun _ => .bind .state fun _ => .bind (.check _) fun stored =>
    ?_)
  split
  · exact .pure _
  · refine .bind .state fun t => .bind (.rejectIf _ _) fun _ => .check_bind fun members hpinned =>
      .bind (.check _) fun nowMs => keeps_storeOutfit _ _ _ fun member hmember => ?_
    obtain ⟨entry, -, hpin⟩ := exists_of_forall₂ (check_mapM_eq_ok.mp hpinned) member hmember
    obtain ⟨row, -, -, -, hattributes, hvalid⟩ := (pinMember_eq_ok.mp hpin).row
    rw [hattributes]
    exact hvalid

/-- **Every step** keeps the rows as they may be. -/
theorem OutfitStep.kept (h : OutfitStep services catalogServices t t') (ht : t.Kept) : t'.Kept := by
  cases h with
  | catalog => exact ⟨ht.outfits, ht.members⟩
  | created files request clock result t' run =>
    cases result with
    | error e => exact atomically_of_error run ▸ ht
    | ok response => exact keeps_createManualOutfit request clock t t' response ht run
  | erased t' erases =>
    exact ⟨fun id row hrow => ht.outfits id row (erases.outfits _ _ hrow),
      fun key row hrow => ht.members key row (erases.members _ _ hrow)⟩

end Threadbook.Outfits
