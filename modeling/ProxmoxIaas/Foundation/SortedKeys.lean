import Mathlib.Data.List.Nodup
import Mathlib.Data.List.Sort

/-!
# Lists Sorted by a Key

Entries are compared by a key, so that entries with the same key come in any order. If the keys
differ, the sorted list is determined by the entries; and they differ if adjacent keys do.

## Main results

- `SortedKeys.nodup_map_of_adjacent`: in a sorted list it is enough that adjacent keys differ.
- `SortedKeys.insertionSort_eq`: a list with the keys of a sorted list is what sorting gives.
- `SortedKeys.find?_snd`, `SortedKeys.find?_fst`: the neighbours of an entry.
-/

namespace SortedKeys

universe u v

variable {α : Type u} {κ : Type v} {key : α → κ} {r : κ → κ → Prop}

/-- A linear order of keys, as a relation. -/
structure Linear (r : κ → κ → Prop) : Prop where
  /-- Of two keys, one comes before the other. -/
  total : ∀ k k', r k k' ∨ r k' k
  /-- The order is transitive. -/
  trans : ∀ {k k' k''}, r k k' → r k' k'' → r k k''
  /-- Keys in both orders are the same. -/
  antisymm : ∀ {k k'}, r k k' → r k' k → k = k'

/-- If adjacent keys of a sorted list differ, all keys do. -/
theorem nodup_map_of_adjacent (h : Linear r) {l : List α}
    (hsorted : l.Pairwise fun a b => r (key a) (key b))
    (hadjacent : ∀ before a b after, l = before ++ a :: b :: after → key a ≠ key b) :
    (l.map key).Nodup := by
  induction l with
  | nil => exact List.nodup_nil
  | cons a l ih =>
    obtain ⟨hle, hsorted⟩ := List.pairwise_cons.mp hsorted
    rw [List.map_cons, List.nodup_cons]
    refine ⟨fun hmem => ?_, ih hsorted fun before b c after hl => ?_⟩
    · obtain ⟨c, hc, hkey⟩ := List.mem_map.mp hmem
      cases l with
      | nil => cases hc
      | cons b l =>
        -- the key comes back, so the one in between is the same
        have hbc : r (key b) (key c) := by
          rcases List.mem_cons.mp hc with rfl | hc
          · exact (h.total _ _).elim id id
          · exact List.rel_of_pairwise_cons hsorted hc
        exact hadjacent [] a b l rfl
          (h.antisymm (hle b List.mem_cons_self) (hkey ▸ hbc))
    · exact hadjacent (a :: before) b c after (by rw [hl, List.cons_append])

/-- A list of the given entries that has the keys of a sorted list, which are different, is what
sorting gives. -/
theorem insertionSort_eq [DecidableRel r] (h : Linear r) {l sorted rows : List α}
    (hl : l.Pairwise fun a b => r (key a) (key b)) (hnodup : (l.map key).Nodup)
    (hkeys : sorted.map key = l.map key) (hperm : sorted.Perm rows) :
    rows.insertionSort (fun a b => r (key a) (key b)) = sorted := by
  have : Std.Total (fun a b : α => r (key a) (key b)) := ⟨fun _ _ => h.total _ _⟩
  have : IsTrans α (fun a b => r (key a) (key b)) := ⟨fun _ _ _ => h.trans⟩
  have hsorted : sorted.Pairwise fun a b => r (key a) (key b) := by
    rw [← List.pairwise_map, hkeys]
    exact List.pairwise_map.mpr hl
  have hinj := List.inj_on_of_nodup_map (hkeys ▸ hnodup : (sorted.map key).Nodup)
  refine List.Perm.eq_of_pairwise (fun a b ha hb hab hba => ?_) (List.pairwise_insertionSort _ _)
    hsorted ((List.perm_insertionSort _ _).trans hperm.symm)
  exact hinj (hperm.mem_iff.mpr ((List.mem_insertionSort _).mp ha)) hb (h.antisymm hab hba)

section Neighbours

variable {ν : Type*} [DecidableEq ν] {name : α → ν} {before after : List α} {a b : α}

/-- The entry in front of an entry. -/
theorem find?_snd (hnodup : ((before ++ a :: b :: after).map name).Nodup) :
    ((before ++ a :: b :: after).zip (before ++ a :: b :: after).tail).find?
      (fun p => name p.2 = name b) = some (a, b) := by
  induction before with
  | nil => simp
  | cons c before ih =>
    rw [List.cons_append, List.map_cons, List.nodup_cons] at hnodup
    have hrest := ih hnodup.2
    -- the second entry of the list is not the one that is looked for
    cases before with
    | nil =>
      have hne : name a ≠ name b := fun heq => by
        have hnotin := (List.nodup_cons.mp hnodup.2).1
        exact hnotin (heq ▸ List.mem_map_of_mem List.mem_cons_self)
      simp [hne]
    | cons d before =>
      have hne : name d ≠ name b := fun heq => by
        have hnotin := (List.nodup_cons.mp hnodup.2).1
        exact hnotin (heq ▸ List.mem_map_of_mem (by simp))
      simpa [hne] using hrest

/-- The entry behind an entry. -/
theorem find?_fst (hnodup : ((before ++ a :: b :: after).map name).Nodup) :
    ((before ++ a :: b :: after).zip (before ++ a :: b :: after).tail).find?
      (fun p => name p.1 = name a) = some (a, b) := by
  induction before with
  | nil => simp
  | cons c before ih =>
    rw [List.cons_append, List.map_cons, List.nodup_cons] at hnodup
    have hrest := ih hnodup.2
    have hne : name c ≠ name a := fun heq =>
      hnodup.1 (heq ▸ List.mem_map_of_mem (by simp))
    cases before with
    | nil => simp [hne]
    | cons d before => simpa [hne] using hrest

end Neighbours

end SortedKeys
