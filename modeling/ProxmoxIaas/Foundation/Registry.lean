import ProxmoxIaas.Foundation.Table

/-!
# Objects That Are Recorded After They Are Made

A task makes an object in another system on behalf of a row, and records the name of the object in
the row in a later step. Between the two steps the task alone knows the name. An object is lost
when its task ends in between, and left behind when its row is deleted while it is still there.

A row may keep a name on record whose object has been deleted, and an object may change hands when
its name is given again; a record counts only as long as the object is there and is that of the row.

## Main results

- `Registry.Tidy.unique`: a row has at most one object.
- `Registry.Tidy.not_object`: when a row has no object.
- `Registry.Tidy.mono`, `Registry.Tidy.make`, `Registry.Tidy.record`, `Registry.Tidy.forget`: steps
  that keep track of all objects.
- `Registry.Owned.mono`, `Registry.Owned.make`: steps that leave no object behind.
- `Registry.Tidy.keeps`, `Registry.Owned.keeps`, `Registry.Tidy.write`: the same for the rows of a
  table.
-/

/-- Rows, tasks and objects. -/
structure Registry (κ ρ υ : Type*) where
  /-- The stored rows, with the object on record. -/
  stored : κ → Option (Option υ)
  /-- The objects that tasks have made and not recorded, with their rows. -/
  pending : ρ → Option (κ × υ)
  /-- The objects, with the row that each was made for. -/
  objects : υ → Option κ

namespace Registry

variable {κ ρ υ : Type*} {R R' : Registry κ ρ υ} {k : κ} {r : ρ} {u : υ}

/-- Every object of a stored row is recorded or known to a task, and a task that has made an object
is the only one for a row whose record does not count. -/
structure Tidy (R : Registry κ ρ υ) : Prop where
  /-- Every object of a stored row is recorded or known to a task. -/
  known : ∀ u k recorded, R.objects u = some k → R.stored k = some recorded →
    recorded = some u ∨ ∃ r, R.pending r = some (k, u)
  /-- A row for which a task has made an object has no other one on record. -/
  unrecorded : ∀ r k u u', R.pending r = some (k, u) → R.stored k = some (some u') →
    R.objects u' = some k → u' = u
  /-- At most one task has made an object for a row. -/
  alone : ∀ r r' k u u', R.pending r = some (k, u) → R.pending r' = some (k, u') → r = r'

/-- Every object has its row. -/
def Owned (R : Registry κ ρ υ) : Prop := ∀ u k, R.objects u = some k → R.stored k ≠ none

/-- As far as the row and the tasks tell, a row has no object. -/
structure Vacant (R : Registry κ ρ υ) (k : κ) : Prop where
  /-- The object on record is not there, if there is one on record. -/
  record : ∀ u, R.stored k = some (some u) → R.objects u ≠ some k
  /-- No task has made an object that it has not recorded. -/
  made : ∀ r u, R.pending r ≠ some (k, u)

namespace Tidy

variable (h : R.Tidy)

include h

/-- A row has at most one object. -/
theorem unique {u' : υ} (hrow : R.stored k ≠ none) (hobject : R.objects u = some k)
    (hobject' : R.objects u' = some k) : u = u' := by
  obtain ⟨recorded, hstored⟩ := Option.ne_none_iff_exists'.mp hrow
  -- two names on record, one on record and one known to a task, or two known to tasks
  rcases h.known u k recorded hobject hstored with rfl | ⟨r, hpending⟩ <;>
    rcases h.known u' k _ hobject' hstored with heq | ⟨r', hpending'⟩
  · exact Option.some.inj heq
  · exact h.unrecorded r' k u' u hpending' hstored hobject
  · subst heq
    exact (h.unrecorded r k u u' hpending hstored hobject').symm
  · obtain rfl := h.alone r r' k u u' hpending hpending'
    exact (Prod.mk.inj (Option.some.inj (hpending.symm.trans hpending'))).2

/-- A stored row that is vacant has no object. -/
theorem not_object (hrow : R.stored k ≠ none) (hvacant : R.Vacant k) (u : υ) :
    R.objects u ≠ some k := by
  intro hobject
  obtain ⟨recorded, hstored⟩ := Option.ne_none_iff_exists'.mp hrow
  rcases h.known u k recorded hobject hstored with rfl | ⟨r, hpending⟩
  · exact hvacant.record u hstored hobject
  · exact hvacant.made r u hpending

/-- Objects and rows are deleted, and rows without objects are inserted. -/
theorem mono (hobjects : ∀ u k, R'.objects u = some k → R.objects u = some k)
    (hpending : ∀ r, R'.pending r = R.pending r)
    (hstored : ∀ k recorded, R'.stored k = some recorded →
      R.stored k = some recorded ∨ recorded = none ∧ ∀ u, R.objects u ≠ some k) : R'.Tidy where
  known u k recorded hobject hrow := by
    have hbefore := hobjects u k hobject
    -- a new row has no object, so nothing has to be known about it
    rcases hstored k recorded hrow with hold | ⟨-, hnone⟩
    · simp only [hpending]
      exact h.known u k recorded hbefore hold
    · exact absurd hbefore (hnone u)
  unrecorded r k u u' hmade hrow hobject := by
    rw [hpending] at hmade
    rcases hstored k (some u') hrow with hold | ⟨hnone, -⟩
    · exact h.unrecorded r k u u' hmade hold (hobjects u' k hobject)
    · cases hnone
  alone r r' k u u' hmade hmade' := by
    rw [hpending] at hmade hmade'
    exact h.alone r r' k u u' hmade hmade'

/-- A task makes an object for a row that is vacant. -/
theorem make [DecidableEq ρ] [DecidableEq υ] (hvacant : R.Vacant k)
    (hfree : R.pending r = none) (hstored : R'.stored = R.stored)
    (hobjects : ∀ u', R'.objects u' = if u' = u then some k else R.objects u')
    (hpending : ∀ r', R'.pending r' = if r' = r then some (k, u) else R.pending r') : R'.Tidy where
  known u' k' recorded hobject hrow := by
    rw [hobjects] at hobject
    rw [hstored] at hrow
    split at hobject
    case isTrue heq =>
      obtain rfl := Option.some.inj hobject
      exact Or.inr ⟨r, by rw [hpending, if_pos rfl, heq]⟩
    case isFalse =>
      -- what was known is still known: the task that makes the object held nothing before
      rcases h.known u' k' recorded hobject hrow with hrecorded | ⟨r', hmade⟩
      · exact Or.inl hrecorded
      · refine Or.inr ⟨r', ?_⟩
        have hne : r' ≠ r := by
          rintro rfl
          cases hfree.symm.trans hmade
        rw [hpending, if_neg hne, hmade]
  unrecorded r' k' u₁ u₂ hmade hrow hobject := by
    rw [hobjects] at hobject
    rw [hstored] at hrow
    rw [hpending] at hmade
    split at hmade
    case isTrue =>
      obtain ⟨rfl, rfl⟩ := Prod.mk.inj (Option.some.inj hmade)
      split at hobject
      case isTrue heq => exact heq
      case isFalse => exact absurd hobject (hvacant.record u₂ hrow)
    case isFalse =>
      split at hobject
      case isTrue heq =>
        -- the new object is that of a row for which no other task has made one
        obtain rfl := Option.some.inj hobject
        exact absurd hmade (hvacant.made r' u₁)
      case isFalse => exact h.unrecorded r' k' u₁ u₂ hmade hrow hobject
  alone r₁ r₂ k' u₁ u₂ hmade₁ hmade₂ := by
    rw [hpending] at hmade₁ hmade₂
    -- two tasks for one row would both know of it, and the row was vacant
    split at hmade₁ <;> split at hmade₂
    case isTrue.isTrue heq₁ heq₂ => exact heq₁.trans heq₂.symm
    case isTrue.isFalse =>
      obtain ⟨rfl, -⟩ := Prod.mk.inj (Option.some.inj hmade₁)
      exact absurd hmade₂ (hvacant.made r₂ u₂)
    case isFalse.isTrue =>
      obtain ⟨rfl, -⟩ := Prod.mk.inj (Option.some.inj hmade₂)
      exact absurd hmade₁ (hvacant.made r₁ u₁)
    case isFalse.isFalse => exact h.alone r₁ r₂ k' u₁ u₂ hmade₁ hmade₂

/-- A task records its object in the row, which is stored. -/
theorem record [DecidableEq κ] [DecidableEq ρ] (hmade : R.pending r = some (k, u))
    (hrow : R.stored k ≠ none) (hobjects : R'.objects = R.objects)
    (hpending : ∀ r', R'.pending r' = if r' = r then none else R.pending r')
    (hstored : ∀ k', R'.stored k' = if k' = k then some (some u) else R.stored k') : R'.Tidy where
  known u' k' recorded hobject hrow' := by
    rw [hobjects] at hobject
    rw [hstored] at hrow'
    split at hrow'
    case isTrue heq =>
      subst heq
      obtain rfl := Option.some.inj hrow'
      -- an object that was on record or that a task has made is the one that is recorded now
      obtain ⟨before, hbefore⟩ := Option.ne_none_iff_exists'.mp hrow
      rcases h.known u' k' before hobject hbefore with rfl | ⟨r', hmade'⟩
      · exact Or.inl (congrArg some (h.unrecorded r k' u u' hmade hbefore hobject).symm)
      · obtain rfl := h.alone r r' k' u u' hmade hmade'
        exact Or.inl (congrArg some
          (Prod.mk.inj (Option.some.inj (hmade.symm.trans hmade'))).2)
    case isFalse hne =>
      rcases h.known u' k' recorded hobject hrow' with hrecorded | ⟨r', hmade'⟩
      · exact Or.inl hrecorded
      · refine Or.inr ⟨r', ?_⟩
        have hother : r' ≠ r := by
          rintro rfl
          exact hne (Prod.mk.inj (Option.some.inj (hmade'.symm.trans hmade))).1
        rw [hpending, if_neg hother, hmade']
  unrecorded r' k' u₁ u₂ hmade' hrow' hobject := by
    rw [hobjects] at hobject
    rw [hpending] at hmade'
    rw [hstored] at hrow'
    split at hmade'
    case isTrue => cases hmade'
    case isFalse hne =>
      split at hrow'
      case isTrue heq =>
        -- another task for this row is the same one
        subst heq
        exact absurd (h.alone r' r k' u₁ u hmade' hmade) hne
      case isFalse => exact h.unrecorded r' k' u₁ u₂ hmade' hrow' hobject
  alone r₁ r₂ k' u₁ u₂ hmade₁ hmade₂ := by
    rw [hpending] at hmade₁ hmade₂
    split at hmade₁
    case isTrue => cases hmade₁
    case isFalse =>
      split at hmade₂
      case isTrue => cases hmade₂
      case isFalse => exact h.alone r₁ r₂ k' u₁ u₂ hmade₁ hmade₂

/-- A task forgets an object of a row that is gone. -/
theorem forget [DecidableEq ρ] (hmade : R.pending r = some (k, u)) (hgone : R.stored k = none)
    (hobjects : R'.objects = R.objects) (hstored : R'.stored = R.stored)
    (hpending : ∀ r', R'.pending r' = if r' = r then none else R.pending r') : R'.Tidy where
  known u' k' recorded hobject hrow := by
    rw [hobjects] at hobject
    rw [hstored] at hrow
    -- an object of the row that is gone need not be known any more
    refine (h.known u' k' recorded hobject hrow).imp_right fun ⟨r', hmade'⟩ => ⟨r', ?_⟩
    have hother : r' ≠ r := by
      rintro rfl
      obtain ⟨rfl, -⟩ := Prod.mk.inj (Option.some.inj (hmade'.symm.trans hmade))
      cases hgone.symm.trans hrow
    rw [hpending, if_neg hother, hmade']
  unrecorded r' k' u₁ u₂ hmade' hrow hobject := by
    rw [hobjects] at hobject
    rw [hstored] at hrow
    rw [hpending] at hmade'
    split at hmade'
    case isTrue => cases hmade'
    case isFalse => exact h.unrecorded r' k' u₁ u₂ hmade' hrow hobject
  alone r₁ r₂ k' u₁ u₂ hmade₁ hmade₂ := by
    rw [hpending] at hmade₁ hmade₂
    split at hmade₁
    case isTrue => cases hmade₁
    case isFalse =>
      split at hmade₂
      case isTrue => cases hmade₂
      case isFalse => exact h.alone r₁ r₂ k' u₁ u₂ hmade₁ hmade₂

end Tidy

namespace Owned

variable (h : R.Owned)

include h

/-- Objects are deleted, and rows without objects. -/
theorem mono (hobjects : ∀ u k, R'.objects u = some k → R.objects u = some k)
    (hstored : ∀ k, R.stored k ≠ none → R'.stored k = none → ∀ u, R.objects u ≠ some k) :
    R'.Owned := by
  intro u k hobject hgone
  have hbefore := hobjects u k hobject
  exact hstored k (h u k hbefore) hgone u hbefore

/-- A task makes an object for a stored row. -/
theorem make [DecidableEq υ] (hrow : R.stored k ≠ none) (hstored : R'.stored = R.stored)
    (hobjects : ∀ u', R'.objects u' = if u' = u then some k else R.objects u') : R'.Owned := by
  intro u' k' hobject
  rw [hobjects] at hobject
  rw [hstored]
  split at hobject
  case isTrue =>
    obtain rfl := Option.some.inj hobject
    exact hrow
  case isFalse => exact h u' k' hobject

end Owned

end Registry

/-! ### Tables of rows -/

namespace Serial

variable {α υ : Type*} {column : α → Option υ} {t : Serial α} {gone : ℕ → Prop}

/-- The rows of a table keep a column or are deleted, and new rows have no value. -/
structure Keeps (column : α → Option υ) (t t' : Serial α) (gone : ℕ → Prop) : Prop where
  /-- The sequence moves on. -/
  next_le : t.next ≤ t'.next
  /-- A row stays, or is one of those that may be deleted. -/
  row : ∀ id a, t.get? id = some a → gone id ∨ ∃ a', t'.get? id = some a'
  /-- A row was there before, or is new. -/
  old : ∀ id a', t'.get? id = some a' → (∃ a, t.get? id = some a ∧ column a' = column a) ∨
    (t.next ≤ id ∧ column a' = none)

namespace Keeps

/-- Nothing changes. -/
theorem refl (column : α → Option υ) (t : Serial α) (gone : ℕ → Prop) : Keeps column t t gone :=
  ⟨Nat.le_refl _, fun _ a hget => Or.inr ⟨a, hget⟩, fun _ a hget => Or.inl ⟨a, hget, rfl⟩⟩

/-- A write of other columns. -/
theorem modify (key : ℕ) {f : α → α} (hf : ∀ a, column (f a) = column a) :
    Keeps column t (t.modify key f) gone where
  next_le := Nat.le_refl _
  row id a hget := by
    right
    rw [get?_modify, hget]
    split
    case isTrue => exact ⟨f a, rfl⟩
    case isFalse => exact ⟨a, rfl⟩
  old id a' hget := by
    left
    rw [get?_modify] at hget
    split at hget
    case isTrue =>
      obtain ⟨a, hstored, rfl⟩ := Option.map_eq_some_iff.mp hget
      exact ⟨a, hstored, hf a⟩
    case isFalse => exact ⟨a', hget, rfl⟩

/-- A new row. -/
theorem add {a : α} (ha : column a = none) : Keeps column t (t.add a) gone where
  next_le := Nat.le_succ _
  row id b hget := by
    refine Or.inr ⟨b, ?_⟩
    rw [get?_add, if_neg (bound_of_get? hget).2.ne, hget]
  old id b hget := by
    rw [get?_add] at hget
    split at hget
    case isTrue heq =>
      obtain rfl := Option.some.inj hget
      exact Or.inr ⟨heq.ge, ha⟩
    case isFalse => exact Or.inl ⟨b, hget, rfl⟩

/-- Rows are deleted. -/
theorem deleteWhere {p : ℕ → α → Bool} (hp : ∀ id a, t.get? id = some a → p id a = true → gone id) :
    Keeps column t (t.deleteWhere p) gone where
  next_le := Nat.le_refl _
  row id a hget := by
    rw [get?_deleteWhere, hget]
    cases hdeleted : p id a with
    | true => exact Or.inl (hp id a hget hdeleted)
    | false => exact Or.inr ⟨a, by simp [hdeleted]⟩
  old id a hget := by
    rw [get?_deleteWhere] at hget
    exact Or.inl ⟨a, (Option.filter_eq_some_iff.mp hget).1, rfl⟩

end Keeps

end Serial

namespace Registry

variable {α ρ υ : Type*} {rows rows' : Serial α} {column : α → Option υ}
  {pending pending' : ρ → Option (ℕ × υ)} {objects objects' : υ → Option ℕ} {gone : ℕ → Prop}
  {k : ℕ} {r : ρ} {u : υ}

/-- The rows of a table with the objects of one column. -/
def ofTable (rows : Serial α) (column : α → Option υ) (pending : ρ → Option (ℕ × υ))
    (objects : υ → Option ℕ) : Registry ℕ ρ υ where
  stored id := (rows.get? id).map column
  pending := pending
  objects := objects

theorem ofTable_stored_ne_none :
    (ofTable rows column pending objects).stored k ≠ none ↔ rows.get? k ≠ none := by
  simp [ofTable]

/-- The rows keep the column, and tasks keep what they have made. -/
theorem Tidy.keeps (h : (ofTable rows column pending objects).Tidy)
    (hkeeps : rows.Keeps column rows' gone) (hbound : ∀ u k, objects u = some k → k < rows.next)
    (hobjects : ∀ u k, objects' u = some k → objects u = some k)
    (hpending : ∀ r, pending' r = pending r) :
    (ofTable rows' column pending' objects').Tidy := by
  refine h.mono hobjects hpending fun id recorded hstored => ?_
  obtain ⟨a', hget, rfl⟩ := Option.map_eq_some_iff.mp hstored
  rcases hkeeps.old id a' hget with ⟨a, hbefore, hcolumn⟩ | ⟨hnew, hnone⟩
  · left
    show (rows.get? id).map column = some (column a')
    rw [hbefore, hcolumn]
    rfl
  · exact Or.inr ⟨hnone, fun u hobject => absurd (hbound u id hobject) (not_lt.mpr hnew)⟩

/-- The rows keep the column, and only rows without objects are deleted. -/
theorem Owned.keeps (h : (ofTable rows column pending objects).Owned)
    (hkeeps : rows.Keeps column rows' gone) (hgone : ∀ k u, gone k → objects u ≠ some k)
    (hobjects : ∀ u k, objects' u = some k → objects u = some k) :
    (ofTable rows' column pending' objects').Owned := by
  refine h.mono hobjects fun id hrow hnone u => ?_
  obtain ⟨a, hget⟩ := Option.ne_none_iff_exists'.mp (ofTable_stored_ne_none.mp hrow)
  rcases hkeeps.row id a hget with hdeleted | ⟨a', hget'⟩
  · exact hgone id u hdeleted
  · exact absurd hnone (ofTable_stored_ne_none.mpr (by simp [hget']))

/-- Every object has a row, whose key was drawn from the sequence. -/
theorem Owned.bound (h : (ofTable rows column pending objects).Owned)
    (hobject : objects u = some k) : k < rows.next := by
  obtain ⟨a, hget⟩ := Option.ne_none_iff_exists'.mp (ofTable_stored_ne_none.mp (h u k hobject))
  exact (Serial.bound_of_get? hget).2

/-- Rows are written. -/
theorem Owned.write (h : (ofTable rows column pending objects).Owned) {write : α → α}
    (hrows : ∀ id, rows'.get? id = if id = k then (rows.get? id).map write else rows.get? id) :
    (ofTable rows' column pending' objects).Owned := by
  intro u id hobject
  refine ofTable_stored_ne_none.mpr ?_
  obtain ⟨a, hget⟩ := Option.ne_none_iff_exists'.mp (ofTable_stored_ne_none.mp (h u id hobject))
  rw [hrows, hget]
  split <;> exact Option.some_ne_none _

/-- Whether a row is vacant is decidable, if only some tasks hold objects. -/
def ofTable_vacant_decidable [DecidableEq υ] (tasks : List ρ)
    (htasks : ∀ r, pending r ≠ none → r ∈ tasks) :
    Decidable ((ofTable rows column pending objects).Vacant k) :=
  decidable_of_iff
    ((∀ a ∈ rows.get? k, ∀ u ∈ column a, objects u ≠ some k) ∧
      ∀ r ∈ tasks, ∀ made ∈ pending r, made.1 ≠ k)
    ⟨fun ⟨hrecord, hmade⟩ =>
        { record := fun u hstored => by
            obtain ⟨a, hget, hcolumn⟩ := Option.map_eq_some_iff.mp hstored
            exact hrecord a hget u hcolumn
          made := fun r u hpending =>
            hmade r (htasks r (ne_of_eq_of_ne hpending (Option.some_ne_none _))) _ hpending rfl },
      fun hvacant =>
        ⟨fun a hget u hcolumn => hvacant.record u (Option.map_eq_some_iff.mpr ⟨a, hget, hcolumn⟩),
          fun r _ made hpending heq =>
            hvacant.made r made.2 (hpending.trans (by rw [← heq]))⟩⟩

/-- A task writes its object into its row. If the column takes it, the task holds it no longer. -/
theorem Tidy.write [DecidableEq ρ] [DecidableEq υ] (h : (ofTable rows column pending objects).Tidy)
    {write : α → α} (hmade : pending r = some (k, u))
    (hrows : ∀ id, rows'.get? id = if id = k then (rows.get? id).map write else rows.get? id)
    (hwrite : ∀ a, rows.get? k = some a → column (write a) = some u ∨
      column (write a) = column a)
    (hpending : ∀ r', pending' r' = if r' = r ∧ (rows'.get? k).bind column = some u then none
      else pending r') :
    (ofTable rows' column pending' objects).Tidy := by
  have hrow : rows'.get? k = (rows.get? k).map write := by rw [hrows, if_pos rfl]
  by_cases hrecorded : (rows'.get? k).bind column = some u
  case pos =>
    -- the write has put the object on record
    obtain ⟨a', hget', hcolumn⟩ := Option.bind_eq_some_iff.mp hrecorded
    obtain ⟨a, hget, rfl⟩ := Option.map_eq_some_iff.mp (hrow.symm.trans hget')
    refine h.record hmade (ofTable_stored_ne_none.mpr (by simp [hget])) rfl (fun r' => ?_)
      fun id => ?_
    · show pending' r' = _
      simp only [hpending, hrecorded, and_true]
      rfl
    · show (rows'.get? id).map column = _
      rw [hrows]
      split
      case isTrue heq =>
        rw [heq, hget]
        exact congrArg some hcolumn
      case isFalse => rfl
  case neg =>
    -- the write has left the column as it was, so the task still holds the object
    refine h.mono (fun _ _ => id) (fun r' => ?_) fun id recorded hstored => Or.inl ?_
    · show pending' r' = pending r'
      rw [hpending, if_neg fun hboth => hrecorded hboth.2]
    obtain ⟨a', hget', rfl⟩ := Option.map_eq_some_iff.mp hstored
    show (rows.get? id).map column = _
    rw [hrows] at hget'
    split at hget'
    case isTrue heq =>
      subst heq
      obtain ⟨a, hget, rfl⟩ := Option.map_eq_some_iff.mp hget'
      have hcolumn : column (write a) = column a := by
        refine (hwrite a hget).resolve_left fun hsome => hrecorded ?_
        rw [hrow, hget]
        exact hsome
      rw [hget, hcolumn]
      rfl
    case isFalse =>
      rw [hget']
      rfl

end Registry
