import Mathlib

/-!
# Undo from a partial snapshot

A `Placement` says which containers there are, which of them are active, and for each member
its state and the container it is in. Changes are undone from a snapshot of the containers
and members they list: listed containers are emptied and put back, then listed members are
(`restore`). What such an undo misses is a member that a listed container held without being
listed itself; `sameAs_restore_iff` says that it misses nothing else.
-/

namespace Threadbook

open Option

universe u

/-- Containers with their contents and whether they are active, and members with their state
and their container. -/
structure Placement (ι ε α σ : Type u) where
  item : ι → Option (α × Bool)
  state : ε → Option σ
  link : ε → Option ι

namespace Placement

variable {ι ε α σ : Type u}

variable {p q : Placement ι ε α σ} {fresh assigned : σ} {items : List ι} {members : List ε}

@[ext] theorem ext (hitem : ∀ x, p.item x = q.item x) (hstate : ∀ e, p.state e = q.state e)
    (hlink : ∀ e, p.link e = q.link e) : p = q := by
  cases p
  cases q
  congr 1
  · exact funext hitem
  · exact funext hstate
  · exact funext hlink

def Active (p : Placement ι ε α σ) (x : ι) : Prop := ∃ a, p.item x = some (a, true)

/-- Members are only in containers that are there, and are there themselves. -/
def Linked (p : Placement ι ε α σ) : Prop :=
  ∀ e x, p.link e = some x → (p.item x).isSome ∧ (p.state e).isSome

def Covered (p : Placement ι ε α σ) (items : List ι) (members : List ε) : Prop :=
  ∀ e x, p.link e = some x → x ∈ items → e ∈ members

/-- A change lists every container and every member it touches; of what a listed container
holds without being listed it may only lose track. -/
structure Change (p q : Placement ι ε α σ) (items : List ι) (members : List ε) : Prop where
  item_frame : ∀ x, x ∉ items → q.item x = p.item x
  item_kept : ∀ x, (p.item x).isSome → (q.item x).isSome
  state_frame : ∀ e, e ∉ members → q.state e = p.state e
  state_kept : ∀ e, (p.state e).isSome → (q.state e).isSome
  stored : ∀ e ∈ members, (p.state e).isSome
  link_frame : ∀ e, e ∉ members →
    q.link e = p.link e ∨ q.link e = none ∧ ∃ x ∈ items, p.link e = some x
  linked_before : ∀ e ∈ members, ∀ x, p.link e = some x → x ∈ items
  linked_after : ∀ e ∈ members, ∀ x, q.link e = some x → x ∈ items ∧ (q.item x).isSome

structure Extends (fresh : σ) (p q : Placement ι ε α σ) : Prop where
  item : ∀ x, q.item x = p.item x
  link : ∀ e, q.link e = p.link e
  state_kept : ∀ e s, p.state e = some s → q.state e = some s
  state_new : ∀ e, p.state e = none → q.state e = none ∨ q.state e = some fresh

/-- What was there is again as it was; what was not there is inactive and empty. -/
structure SameAs (p q : Placement ι ε α σ) : Prop where
  item : ∀ x i, p.item x = some i → q.item x = some i
  item_new : ∀ x, p.item x = none → ¬ q.Active x ∧ ∀ e, q.link e ≠ some x
  state : ∀ e s, p.state e = some s → q.state e = some s
  link : ∀ e, q.link e = p.link e

theorem Extends.refl (p : Placement ι ε α σ) : Extends fresh p p :=
  ⟨fun _ => rfl, fun _ => rfl, fun _ _ hs => hs, fun _ hnone => .inl hnone⟩

theorem Extends.trans {r : Placement ι ε α σ} (hpq : Extends fresh p q) (hqr : Extends fresh q r) :
    Extends fresh p r where
  item x := (hqr.item x).trans (hpq.item x)
  link e := (hqr.link e).trans (hpq.link e)
  state_kept e s hs := hqr.state_kept e s (hpq.state_kept e s hs)
  state_new e hnone := by
    cases hpq.state_new e hnone with
    | inl hq => exact hqr.state_new e hq
    | inr hq => exact .inr (hqr.state_kept e fresh hq)

theorem Extends.linked (hpq : Extends fresh p q) (hp : p.Linked) : q.Linked := by
  intro e x hlink
  rw [hpq.link] at hlink
  obtain ⟨hitem, hstate⟩ := hp e x hlink
  obtain ⟨s, hs⟩ := isSome_iff_exists.mp hstate
  rw [hpq.item, hpq.state_kept e s hs]
  exact ⟨hitem, rfl⟩

theorem Change.linked (hchange : Change p q items members) (hp : p.Linked) : q.Linked := by
  intro e x hlink
  by_cases he : e ∈ members
  · have hstate := hchange.state_kept e (hchange.stored e he)
    exact ⟨(hchange.linked_after e he x hlink).2, hstate⟩
  · cases hchange.link_frame e he with
    | inl hsame =>
      rw [hsame] at hlink
      obtain ⟨hitem, hstate⟩ := hp e x hlink
      exact ⟨hchange.item_kept x hitem, hchange.state_kept e hstate⟩
    | inr hlost =>
      rw [hlost.1] at hlink
      cases hlink

theorem Covered.of_change (hcovered : p.Covered items members)
    (hchange : Change p q items members) : q.Covered items members := by
  intro e x hlink hx
  by_contra he
  cases hchange.link_frame e he with
  | inl hsame => exact he (hcovered e x (hsame ▸ hlink) hx)
  | inr hlost =>
    rw [hlost.1] at hlink
    cases hlink

theorem Covered.of_extends (hcovered : p.Covered items members) (hextends : Extends fresh p q) :
    q.Covered items members := by
  intro e x hlink hx
  rw [hextends.link] at hlink
  exact hcovered e x hlink hx

theorem SameAs.of_extends {r : Placement ι ε α σ} (hsame : SameAs q r)
    (hextends : Extends fresh p q) : SameAs p r where
  item x i hi := hsame.item x i (hextends.item x ▸ hi)
  item_new x hnone := hsame.item_new x ((hextends.item x).trans hnone)
  state e s hs := hsame.state e s (hextends.state_kept e s hs)
  link e := (hsame.link e).trans (hextends.link e)

/-! ## Edits -/

section Edits

theorem foldl_same {β γ : Type u} {f : Placement ι ε α σ → β → Placement ι ε α σ}
    {g : Placement ι ε α σ → γ} (hf : ∀ p b, g (f p b) = g p) (l : List β)
    (p : Placement ι ε α σ) : g (l.foldl f p) = g p := by
  induction l generalizing p with
  | nil => rfl
  | cons b rest ih => rw [List.foldl_cons, ih, hf]

variable [DecidableEq ι]

@[simps] def put (x : ι) (i : α × Bool) (p : Placement ι ε α σ) : Placement ι ε α σ :=
  { p with item := fun y => if y = x then some i else p.item y }

@[simps] def deactivate (x : ι) (p : Placement ι ε α σ) : Placement ι ε α σ :=
  { p with item := fun y =>
      if y = x then (p.item y).map fun i => (i.1, false) else p.item y }

/-- Take every member out of a container. -/
@[simps] def clear (x : ι) (p : Placement ι ε α σ) : Placement ι ε α σ :=
  { p with link := fun e => (p.link e).filter fun y => y ≠ x }

/-- Move every member of a container to another. -/
@[simps] def moveAll (target source : ι) (p : Placement ι ε α σ) : Placement ι ε α σ :=
  { p with link := fun e => (p.link e).map fun y => if y = source then target else y }

theorem foldl_deactivate_item (items : List ι) (p : Placement ι ε α σ) (x : ι) :
    (items.foldl (fun p x => p.deactivate x) p).item x =
      if x ∈ items then (p.item x).map fun i => (i.1, false) else p.item x := by
  induction items generalizing p with
  | nil => simp
  | cons y rest ih =>
    rw [List.foldl_cons, ih, deactivate_item]
    by_cases hy : x = y
    · simp [hy, Function.comp_def]
    · simp [hy]

theorem foldl_moveAll_link {target : ι} (items : List ι) (p : Placement ι ε α σ) (e : ε) :
    (items.foldl (fun p x => p.moveAll target x) p).link e =
      (p.link e).map fun y => if y ∈ items then target else y := by
  induction items generalizing p with
  | nil => simp
  | cons y rest ih =>
    rw [List.foldl_cons, ih, moveAll_link, map_map]
    congr 1
    funext z
    by_cases hz : z = y
    · simp [hz]
    · simp [hz]

variable [DecidableEq ε]

/-- Take a member out of its container. -/
@[simps] def unlink (e : ε) (p : Placement ι ε α σ) : Placement ι ε α σ :=
  { p with link := fun f => if f = e then none else p.link f }

/-- Put a member into a container. -/
@[simps] def place (e : ε) (x : ι) (p : Placement ι ε α σ) : Placement ι ε α σ :=
  { p with link := fun f => if f = e then some x else p.link f }

@[simps] def mark (s : σ) (e : ε) (p : Placement ι ε α σ) : Placement ι ε α σ :=
  { p with state := fun f => if f = e then (p.state f).map fun _ => s else p.state f }

omit [DecidableEq ι] in
theorem foldl_mark_state (s : σ) (members : List ε) (p : Placement ι ε α σ) (e : ε) :
    (members.foldl (fun p f => p.mark s f) p).state e =
      if e ∈ members then (p.state e).map fun _ => s else p.state e := by
  induction members generalizing p with
  | nil => simp
  | cons f rest ih =>
    rw [List.foldl_cons, ih, mark_state]
    by_cases hf : e = f
    · simp [hf, Function.comp_def]
    · simp [hf]

/-- Put a member into a container and set its state. -/
def assign (s : σ) (x : ι) (p : Placement ι ε α σ) (e : ε) : Placement ι ε α σ :=
  (p.place e x).mark s e

omit [DecidableEq ι] in
theorem foldl_assign_link (s : σ) (x : ι) (members : List ε) (p : Placement ι ε α σ) (e : ε) :
    (members.foldl (assign s x) p).link e = if e ∈ members then some x else p.link e := by
  induction members generalizing p with
  | nil => simp
  | cons f rest ih =>
    rw [List.foldl_cons, ih, assign, mark_link, place_link]
    by_cases hf : e = f
    · simp [hf]
    · simp [hf]

omit [DecidableEq ι] in
theorem foldl_assign_state (s : σ) (x : ι) (members : List ε) (p : Placement ι ε α σ) (e : ε) :
    (members.foldl (assign s x) p).state e =
      if e ∈ members then (p.state e).map fun _ => s else p.state e := by
  induction members generalizing p with
  | nil => simp
  | cons f rest ih =>
    rw [List.foldl_cons, ih, assign, mark_state, place_state]
    by_cases hf : e = f
    · simp [hf, Function.comp_def]
    · simp [hf]

end Edits

/-! ## Restoring -/

section Restore

variable [DecidableEq ι] [DecidableEq ε]

/-- Put the listed containers and members back to where they were saved. A listed container
that was not there is deactivated. -/
def restore (saved current : Placement ι ε α σ) (items : List ι) (members : List ε) :
    Placement ι ε α σ where
  item x :=
    if x ∈ items then
      match saved.item x with
      | some i => some i
      | none => (current.item x).map fun i => (i.1, false)
    else current.item x
  state e := if e ∈ members then saved.state e else current.state e
  link e :=
    if e ∈ members then saved.link e else (current.link e).filter fun x => x ∉ items

variable {fresh : σ} {saved after current : Placement ι ε α σ} {items : List ι}
  {members : List ε}

theorem restore_item_of_mem {x : ι} (hx : x ∈ items) :
    (restore saved current items members).item x =
      match saved.item x with
      | some i => some i
      | none => (current.item x).map fun i => (i.1, false) := if_pos hx

theorem restore_item_of_not_mem {x : ι} (hx : x ∉ items) :
    (restore saved current items members).item x = current.item x := if_neg hx

theorem restore_state_of_mem {e : ε} (he : e ∈ members) :
    (restore saved current items members).state e = saved.state e := if_pos he

theorem restore_state_of_not_mem {e : ε} (he : e ∉ members) :
    (restore saved current items members).state e = current.state e := if_neg he

theorem restore_link_of_mem {e : ε} (he : e ∈ members) :
    (restore saved current items members).link e = saved.link e := if_pos he

theorem restore_link_of_not_mem {e : ε} (he : e ∉ members) :
    (restore saved current items members).link e =
      (current.link e).filter fun x => x ∉ items := if_neg he

theorem covered_of_restore_link (hchange : Change saved after items members)
    (hextends : Extends fresh after current)
    (hlink : ∀ e, (restore saved current items members).link e = saved.link e) :
    saved.Covered items members := by
  intro e x he hx
  by_contra hnot
  have hlost := hlink e
  rw [restore_link_of_not_mem hnot, hextends.link, he] at hlost
  cases hchange.link_frame e hnot with
  | inl hsame =>
    rw [hsame, he, filter_some] at hlost
    simp [hx] at hlost
  | inr hgone =>
    rw [hgone.1] at hlost
    cases hlost

/-- **Exact undo**: after a change, and members added since, putting back what the change
lists leaves everything as it was exactly when the containers it lists held nothing else. -/
theorem sameAs_restore_iff (hlinked : saved.Linked) (hchange : Change saved after items members)
    (hextends : Extends fresh after current) :
    SameAs saved (restore saved current items members) ↔ saved.Covered items members := by
  refine ⟨fun hsame => covered_of_restore_link hchange hextends hsame.link, fun hcovered => ?_⟩
  -- no listed container holds an unlisted member, so every link is back
  have hlink : ∀ e, (restore saved current items members).link e = saved.link e := by
    intro e
    by_cases he : e ∈ members
    · exact restore_link_of_mem he
    · have hkept : current.link e = saved.link e := by
        rw [hextends.link]
        cases hchange.link_frame e he with
        | inl hsame => exact hsame
        | inr hlost =>
          obtain ⟨-, x, hx, hlink⟩ := hlost
          exact absurd (hcovered e x hlink hx) he
      rw [restore_link_of_not_mem he, hkept]
      cases hlink : saved.link e with
      | none => rfl
      | some x =>
        have hx : x ∉ items := fun hx => he (hcovered e x hlink hx)
        rw [filter_some, if_pos (decide_eq_true hx)]
  refine ⟨?_, ?_, ?_, hlink⟩
  · intro x i hi
    by_cases hx : x ∈ items
    · rw [restore_item_of_mem hx, hi]
    · rw [restore_item_of_not_mem hx, hextends.item, hchange.item_frame x hx, hi]
  · intro x hnone
    refine ⟨?_, ?_⟩
    · rintro ⟨a, ha⟩
      by_cases hx : x ∈ items
      · rw [restore_item_of_mem hx, hnone, map_eq_some_iff] at ha
        obtain ⟨i, -, hi⟩ := ha
        cases (Prod.mk.inj hi).2
      · rw [restore_item_of_not_mem hx, hextends.item, hchange.item_frame x hx, hnone] at ha
        cases ha
    · intro e he
      rw [hlink] at he
      have hitem := (hlinked e x he).1
      rw [hnone] at hitem
      cases hitem
  · intro e s hs
    by_cases he : e ∈ members
    · rw [restore_state_of_mem he, hs]
    · rw [restore_state_of_not_mem he]
      apply hextends.state_kept
      rw [hchange.state_frame e he, hs]

theorem change_restore (hsaved : saved.Linked) (hchange : Change saved after items members)
    (hextends : Extends fresh after current) :
    Change current (restore saved current items members) items members := by
  have hafter : ∀ e, (after.state e).isSome → (current.state e).isSome := by
    intro e he
    obtain ⟨s, hs⟩ := isSome_iff_exists.mp he
    rw [hextends.state_kept e s hs]
    rfl
  have hitem : ∀ x, (current.item x).isSome →
      ((restore saved current items members).item x).isSome := by
    intro x hx
    by_cases hmem : x ∈ items
    · rw [restore_item_of_mem hmem]
      split
      · rfl
      · rwa [isSome_map]
    · rwa [restore_item_of_not_mem hmem]
  refine ⟨fun x => restore_item_of_not_mem, hitem, fun e => restore_state_of_not_mem, ?_, ?_, ?_,
    ?_, ?_⟩
  · intro e he
    by_cases hmem : e ∈ members
    · rw [restore_state_of_mem hmem]
      exact hchange.stored e hmem
    · rwa [restore_state_of_not_mem hmem]
  · intro e he
    exact hafter e (hchange.state_kept e (hchange.stored e he))
  · intro e he
    rw [restore_link_of_not_mem he]
    cases hlink : current.link e with
    | none => exact .inl rfl
    | some x =>
      by_cases hx : x ∈ items
      · exact .inr ⟨by simp [hx], x, hx, rfl⟩
      · exact .inl (by simp [hx])
  · intro e he x hlink
    rw [hextends.link] at hlink
    exact (hchange.linked_after e he x hlink).1
  · intro e he x hlink
    rw [restore_link_of_mem he] at hlink
    have hx := hchange.linked_before e he x hlink
    refine ⟨hx, ?_⟩
    obtain ⟨i, hi⟩ := isSome_iff_exists.mp (hsaved e x hlink).1
    rw [restore_item_of_mem hx, hi]
    rfl

end Restore

/-! ## Assigned members -/

/-- A member is in a container exactly when its state says so, and that container is
active. -/
structure Consistent (assigned : σ) (p : Placement ι ε α σ) : Prop where
  assigned_iff : ∀ e, p.state e = some assigned ↔ (p.link e).isSome
  active : ∀ e x, p.link e = some x → p.Active x

theorem Consistent.of_extends (hfresh : fresh ≠ assigned) (hp : Consistent assigned p)
    (hextends : Extends fresh p q) :
    Consistent assigned q where
  assigned_iff e := by
    rw [hextends.link, ← hp.assigned_iff]
    refine ⟨?_, hextends.state_kept e assigned⟩
    intro hq
    cases hs : p.state e with
    | some s => rw [← hextends.state_kept e s hs, hq]
    | none =>
      cases hextends.state_new e hs with
      | inl hnone =>
        rw [hnone] at hq
        cases hq
      | inr hnew =>
        rw [hnew] at hq
        exact absurd (some.inj hq) hfresh
  active e x hlink := by
    rw [hextends.link] at hlink
    obtain ⟨a, ha⟩ := hp.active e x hlink
    exact ⟨a, by rw [hextends.item, ha]⟩

structure Restorable (assigned : σ) (saved : Placement ι ε α σ) (items : List ι)
    (members : List ε) : Prop where
  assigned_iff : ∀ e ∈ members, saved.state e = some assigned ↔ (saved.link e).isSome
  active : ∀ e ∈ members, ∀ x, saved.link e = some x → x ∈ items ∧ saved.Active x

theorem Consistent.restorable (hp : Consistent assigned p) (hchange : Change p q items members) :
    Restorable assigned p items members where
  assigned_iff e _ := hp.assigned_iff e
  active e he x hlink := ⟨hchange.linked_before e he x hlink, hp.active e x hlink⟩

/-- **Undo keeps agreement** where the listed containers hold nothing unlisted. -/
theorem Consistent.restore [DecidableEq ι] [DecidableEq ε] {saved current : Placement ι ε α σ}
    (hcurrent : Consistent assigned current) (hsaved : Restorable assigned saved items members)
    (hcovered : current.Covered items members) :
    Consistent assigned (restore saved current items members) := by
  have hkept : ∀ e, e ∉ members →
      (Placement.restore saved current items members).link e = current.link e := by
    intro e he
    rw [restore_link_of_not_mem he]
    cases hlink : current.link e with
    | none => rfl
    | some x =>
      have hx : x ∉ items := fun hx => he (hcovered e x hlink hx)
      rw [filter_some, if_pos (decide_eq_true hx)]
  refine ⟨?_, ?_⟩
  · intro e
    by_cases he : e ∈ members
    · rw [restore_state_of_mem he, restore_link_of_mem he]
      exact hsaved.assigned_iff e he
    · rw [restore_state_of_not_mem he, hkept e he]
      exact hcurrent.assigned_iff e
  · intro e x hlink
    by_cases he : e ∈ members
    · rw [restore_link_of_mem he] at hlink
      obtain ⟨hx, a, ha⟩ := hsaved.active e he x hlink
      exact ⟨a, by rw [restore_item_of_mem hx, ha]⟩
    · rw [hkept e he] at hlink
      have hx : x ∉ items := fun hx => he (hcovered e x hlink hx)
      obtain ⟨a, ha⟩ := hcurrent.active e x hlink
      exact ⟨a, by rw [restore_item_of_not_mem hx, ha]⟩

end Placement

end Threadbook
