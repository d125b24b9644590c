import Mathlib.Data.Finset.Card
import Mathlib.Order.SuccPred.Basic

/-!
# The First Free Element

A search that steps from an element to its successor until it finds one that is not in use. As
only finitely many elements are in use and no element is the last one, it comes to an end.

## Main results

- `le_firstFree`, `firstFree_notMem`, `mem_of_lt_firstFree`: the search finds the least element
  from the start on that is free.
- `firstFree_notMem_iff`: when the search does not run into another set.
-/

universe u

variable {α : Type u} [LinearOrder α] [SuccOrder α]

/-- The elements in use from the successor on are fewer. -/
theorem card_filter_succ_le_lt [NoMaxOrder α] {used : Finset α} {a : α} (h : a ∈ used) :
    (used.filter (Order.succ a ≤ ·)).card < (used.filter (a ≤ ·)).card := by
  refine Finset.card_lt_card ((Finset.ssubset_iff_of_subset ?_).mpr ⟨a, ?_, ?_⟩)
  · intro b hb
    rw [Finset.mem_filter] at hb ⊢
    exact ⟨hb.1, (Order.le_succ a).trans hb.2⟩
  · exact Finset.mem_filter.mpr ⟨h, le_rfl⟩
  · exact fun ha => (Order.lt_succ a).not_ge (Finset.mem_filter.mp ha).2

/-- Go on to the successor while an element is in use. -/
def firstFree [NoMaxOrder α] (used : Finset α) (a : α) : α :=
  if a ∈ used then firstFree used (Order.succ a) else a
termination_by (used.filter (a ≤ ·)).card
decreasing_by exact card_filter_succ_le_lt ‹a ∈ used›

variable [NoMaxOrder α] {used : Finset α} {a b : α}

theorem firstFree_of_notMem (h : a ∉ used) : firstFree used a = a := by
  rw [firstFree, if_neg h]

theorem firstFree_of_mem (h : a ∈ used) : firstFree used a = firstFree used (Order.succ a) := by
  rw [firstFree, if_pos h]

/-- What is found is free. -/
theorem firstFree_notMem (used : Finset α) (a : α) : firstFree used a ∉ used := by
  induction a using firstFree.induct used with
  | case1 a hmem ih => rwa [firstFree_of_mem hmem]
  | case2 a hfree => rwa [firstFree_of_notMem hfree]

/-- The search goes up. -/
theorem le_firstFree (used : Finset α) (a : α) : a ≤ firstFree used a := by
  induction a using firstFree.induct used with
  | case1 a hmem ih => exact (firstFree_of_mem hmem).symm ▸ (Order.le_succ a).trans ih
  | case2 a hfree => exact (firstFree_of_notMem hfree).ge

/-- The elements that the search passes are in use. -/
theorem mem_of_lt_firstFree (hle : a ≤ b) (hlt : b < firstFree used a) : b ∈ used := by
  induction a using firstFree.induct used with
  | case1 a hmem ih =>
    rw [firstFree_of_mem hmem] at hlt
    rcases hle.eq_or_lt with rfl | hgt
    · exact hmem
    · exact ih (Order.succ_le_of_lt hgt) hlt
  | case2 a hfree =>
    rw [firstFree_of_notMem hfree] at hlt
    exact absurd hlt hle.not_gt

/-- What is found is the only free element with nothing free before it. -/
theorem firstFree_eq_iff :
    firstFree used a = b ↔ a ≤ b ∧ b ∉ used ∧ ∀ c, a ≤ c → c < b → c ∈ used := by
  constructor
  · rintro rfl
    exact ⟨le_firstFree used a, firstFree_notMem used a, fun c => mem_of_lt_firstFree⟩
  · rintro ⟨hle, hfree, hbelow⟩
    rcases lt_trichotomy (firstFree used a) b with hlt | heq | hgt
    · exact absurd (hbelow _ (le_firstFree used a) hlt) (firstFree_notMem used a)
    · exact heq
    · exact absurd (mem_of_lt_firstFree hle hgt) hfree

/-- The search runs into an element of another set unless every element of it from the start on
is in use or lies above a free one. -/
theorem firstFree_notMem_iff {other : Finset α} :
    firstFree used a ∉ other ↔
      ∀ b ∈ other, a ≤ b → b ∈ used ∨ ∃ c, a ≤ c ∧ c < b ∧ c ∉ used := by
  constructor
  · intro h b hb hle
    by_cases hmem : b ∈ used
    · exact Or.inl hmem
    · -- the search stops at `b` if nothing before it is free
      by_contra hnone
      simp only [not_or, not_exists, not_and, not_not] at hnone
      exact h (firstFree_eq_iff.mpr ⟨hle, hmem, hnone.2⟩ ▸ hb)
  · intro h hmem
    rcases h _ hmem (le_firstFree used a) with hused | ⟨c, hle, hlt, hfree⟩
    · exact firstFree_notMem used a hused
    · exact hfree (mem_of_lt_firstFree hle hlt)
