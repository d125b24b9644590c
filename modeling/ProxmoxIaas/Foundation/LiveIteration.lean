import Mathlib.Data.List.Basic

/-!
# Iterating over a List that Changes

An iterator over a list object is the index of its next entry, and `l.drop i` are the entries
that it has still to visit if the list stays as it is. An entry that is removed behind the index
shifts the others, so that the iterator misses one.

## Main results

- `LiveIteration.drop_erase_of_notMem_take`: removing an entry that has not been visited skips
  no other entry.
- `LiveIteration.drop_erase_sublist`, `LiveIteration.drop_append_sublist`: no change of the list
  makes the iterator visit an entry again.
-/

namespace LiveIteration

variable {α : Type*} [DecidableEq α]

/-- Without the visited entries among the removed ones, no other entry is skipped. -/
theorem drop_erase_of_notMem_take {l : List α} {i : ℕ} {a : α} (h : a ∉ l.take i) :
    (l.erase a).drop i = (l.drop i).erase a := by
  have hsplit : l.erase a = l.take i ++ (l.drop i).erase a := by
    conv_lhs => rw [← List.take_append_drop i l]
    exact List.erase_append_right _ h
  rcases Nat.lt_or_ge i l.length with hlt | hge
  · have hlength : (l.take i).length = i := List.length_take_of_le (Nat.le_of_lt hlt)
    rw [hsplit]
    exact List.drop_left' hlength
  · -- nothing was left to visit
    have hle : (l.erase a).length ≤ i := Nat.le_trans List.erase_sublist.length_le hge
    rw [List.drop_eq_nil_of_le hle, List.drop_eq_nil_of_le hge, List.erase_nil]

theorem drop_erase_sublist (l : List α) (i : ℕ) (a : α) :
    ((l.erase a).drop i).Sublist (l.drop i) :=
  List.erase_sublist.drop i

/-- An entry still to be visited is visited or removed itself, unless the removed entry has been
visited. -/
theorem mem_drop_erase {l : List α} {i : ℕ} {a b : α} (h : a ∉ l.take i) (hne : b ≠ a)
    (hb : b ∈ l.drop i) : b ∈ (l.erase a).drop i := by
  rw [drop_erase_of_notMem_take h]
  exact (List.mem_erase_of_ne hne).mpr hb

omit [DecidableEq α] in
theorem drop_append_sublist (l : List α) (i : ℕ) (a : α) :
    ((l ++ [a]).drop i).Sublist (l.drop i ++ [a]) := by
  rw [List.drop_append]
  exact (List.Sublist.refl _).append (List.drop_sublist _ _)

omit [DecidableEq α] in
theorem mem_drop_append {l : List α} {i : ℕ} {b : α} (a : α) (hb : b ∈ l.drop i) :
    b ∈ (l ++ [a]).drop i := by
  rw [List.drop_append]
  exact List.mem_append_left _ hb

end LiveIteration
