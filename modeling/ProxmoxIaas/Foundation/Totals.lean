import ProxmoxIaas.Foundation.Table
import Mathlib.Algebra.BigOperators.Group.List.Basic
import Mathlib.Algebra.Order.BigOperators.Group.List
import Mathlib.Algebra.Order.Ring.Nat
import Mathlib.Data.List.Perm.Subperm

/-!
# Totals of a Column

The total of a size over the rows of a table, and how the writes change it. A row that is
rewritten gives back its old size and takes the new one, so the rules are equations between
sums, without subtraction.

## Main results

- `Table.total_modify`, `Serial.total_add`: what a write does to a total.
- `Table.total_deleteWhere_le`: deleting rows increases no total.
- `Table.count_le`: a table with fewer rows that satisfy a condition.
- `Table.count_eq_count_iff`: when two conditions count the same rows.
-/

universe u v

namespace Table

variable {κ : Type u} {α : Type v} [DecidableEq κ]

/-- The total of a size over the rows. -/
def total (t : Table κ α) (size : α → ℕ) : ℕ := (t.entries.map fun r => size r.2).sum

/-- A rewritten row gives back its size and takes the new one. -/
theorem total_modify {t : Table κ α} {k : κ} {a : α} (h : t.get? k = some a) (f : α → α)
    (size : α → ℕ) : (t.modify k f).total size + size a = t.total size + size (f a) := by
  obtain ⟨before, after, hsplit, hentries⟩ := entries_modify h f
  simp only [total, hentries, hsplit, List.map_append, List.map_cons, List.sum_append,
    List.sum_cons]
  omega

/-- Without the row nothing is rewritten. -/
theorem modify_of_get?_eq_none {t : Table κ α} {k : κ} (h : t.get? k = none) (f : α → α) :
    t.modify k f = t :=
  modify_eq_self fun a ha => by
    rw [h] at ha
    cases ha

/-- Rewriting a row so that its size stays keeps the total. -/
theorem total_modify_of_eq {t : Table κ α} {k : κ} {f : α → α} {size : α → ℕ}
    (h : ∀ a, t.get? k = some a → size (f a) = size a) :
    (t.modify k f).total size = t.total size := by
  cases hget : t.get? k with
  | none => rw [modify_of_get?_eq_none hget]
  | some a =>
    have hsum := total_modify hget f size
    rw [h a hget] at hsum
    omega

/-- The sum is the size of one row exactly when the other rows have none. -/
theorem total_eq_iff {t : Table κ α} {k : κ} {a : α} (h : t.get? k = some a) (size : α → ℕ) :
    t.total size = size a ↔ ∀ k' b, t.get? k' = some b → k' ≠ k → size b = 0 := by
  obtain ⟨before, after, hsplit, -⟩ := entries_modify h id
  have hkeys := t.nodupKeys
  rw [List.NodupKeys, hsplit, List.keys, List.map_append, List.map_cons,
    List.nodup_append] at hkeys
  obtain ⟨-, hafter, hbefore⟩ := hkeys
  have hsum : t.total size = size a ↔
      (before.map fun r => size r.2).sum = 0 ∧ (after.map fun r => size r.2).sum = 0 := by
    rw [total, hsplit, List.map_append, List.sum_append, List.map_cons, List.sum_cons]
    dsimp only
    omega
  simp only [hsum, List.sum_eq_zero_iff, List.forall_mem_map]
  constructor
  · rintro ⟨hleft, hright⟩ k' b hb hne
    have hmem := get?_eq_some_iff.mp hb
    rw [hsplit, List.mem_append, List.mem_cons] at hmem
    rcases hmem with hmem | heq | hmem
    · exact hleft _ hmem
    · exact absurd (congrArg Sigma.fst heq) hne
    · exact hright _ hmem
  · intro hothers
    constructor
    · intro r hr
      refine hothers r.1 r.2 (get?_eq_some_iff.mpr ?_) ?_
      · rw [hsplit]
        exact List.mem_append_left _ hr
      · exact hbefore _ (List.mem_map_of_mem hr) _ List.mem_cons_self
    · intro r hr
      refine hothers r.1 r.2 (get?_eq_some_iff.mpr ?_) fun heq => ?_
      · rw [hsplit]
        exact List.mem_append_right _ (List.mem_cons_of_mem _ hr)
      · exact (List.nodup_cons.mp hafter).1 (List.mem_map.mpr ⟨r, hr, heq⟩)

omit [DecidableEq κ] in
/-- Deleting rows increases no total. -/
theorem total_deleteWhere_le (t : Table κ α) (p : κ → α → Bool) (size : α → ℕ) :
    (t.deleteWhere p).total size ≤ t.total size := by
  have hsub : (t.deleteWhere p).entries.Sublist t.entries := List.filter_sublist
  exact (hsub.map _).sum_le_sum fun _ _ => Nat.zero_le _

/-- If each row that counts was there before and counted, the number has not grown. -/
theorem count_le {t t' : Table κ α} {p : α → Bool}
    (h : ∀ k a, t'.get? k = some a → p a = true → ∃ b, t.get? k = some b ∧ p b = true) :
    t'.count p ≤ t.count p := by
  have hlength : ∀ s : Table κ α,
      s.count p = ((s.entries.filter fun r => p r.2).map (·.1)).length := by
    intro s
    rw [count, List.countP_eq_length_filter, List.length_map]
  have hnodup : ((t'.entries.filter fun r => p r.2).map (·.1)).Nodup :=
    (List.filter_sublist.map _).nodup t'.nodupKeys
  rw [hlength, hlength]
  refine (hnodup.subperm fun k hk => ?_).length_le
  -- A key that counts now has counted before.
  obtain ⟨⟨k, a⟩, hmem, rfl⟩ := List.mem_map.mp hk
  obtain ⟨hentry, hp⟩ := List.mem_filter.mp hmem
  obtain ⟨b, hb, hpb⟩ := h k a (get?_eq_some_iff.mpr hentry) hp
  exact List.mem_map.mpr ⟨⟨k, b⟩, List.mem_filter.mpr ⟨get?_eq_some_iff.mp hb, hpb⟩, rfl⟩

/-- A row that is rewritten counts at most if it counted before. -/
theorem count_modify_le {t : Table κ α} {k : κ} {f : α → α} {p : α → Bool}
    (h : ∀ a, p (f a) = true → p a = true) : (t.modify k f).count p ≤ t.count p := by
  refine count_le fun k' a ha hp => ?_
  rw [get?_modify] at ha
  by_cases hk : k' = k
  · rw [if_pos hk] at ha
    obtain ⟨b, hb, rfl⟩ := Option.map_eq_some_iff.mp ha
    exact ⟨b, hb, h b hp⟩
  · rw [if_neg hk] at ha
    exact ⟨a, ha, hp⟩

/-- A stronger condition counts as many rows exactly when it holds for the same ones. -/
theorem count_eq_count_iff {t : Table κ α} {p q : α → Bool}
    (h : ∀ a, p a = true → q a = true) :
    t.count p = t.count q ↔ ∀ k a, t.get? k = some a → q a = true → p a = true := by
  have hlist : ∀ l : List (Σ _ : κ, α), l.countP (fun r => p r.2) = l.countP (fun r => q r.2) ↔
      ∀ r ∈ l, q r.2 = true → p r.2 = true := by
    intro l
    induction l with
    | nil => simp
    | cons r l ih =>
      have hle : l.countP (fun r => p r.2) ≤ l.countP (fun r => q r.2) :=
        List.countP_mono_left fun r _ => h r.2
      rw [List.countP_cons, List.countP_cons, List.forall_mem_cons, ← ih]
      by_cases hp : p r.2 = true
      · simp [hp, h r.2 hp]
      · by_cases hq : q r.2 = true
        · -- the row counts for the weaker condition only
          simp only [hp, hq, if_true, if_false, Bool.false_eq_true]
          constructor
          · intro heq
            omega
          · rintro ⟨himp, -⟩
            exact (himp trivial).elim
        · simp [hp, hq]
  rw [count, count, hlist]
  constructor
  · exact fun hall k a ha => hall ⟨k, a⟩ (get?_eq_some_iff.mp ha)
  · exact fun hall r hr => hall r.1 r.2 (get?_eq_some_iff.mpr hr)

end Table

namespace Serial

variable {α : Type v}

/-- The total of a size over the rows. -/
def total (t : Serial α) (size : α → ℕ) : ℕ := t.rows.total size

theorem total_modify {t : Serial α} {k : ℕ} {a : α} (h : t.get? k = some a) (f : α → α)
    (size : α → ℕ) : (t.modify k f).total size + size a = t.total size + size (f a) :=
  Table.total_modify h f size

theorem total_modify_of_eq {t : Serial α} {k : ℕ} {f : α → α} {size : α → ℕ}
    (h : ∀ a, t.get? k = some a → size (f a) = size a) :
    (t.modify k f).total size = t.total size :=
  Table.total_modify_of_eq h

theorem total_deleteWhere_le (t : Serial α) (p : ℕ → α → Bool) (size : α → ℕ) :
    (t.deleteWhere p).total size ≤ t.total size :=
  Table.total_deleteWhere_le t.rows p size

/-- A new row adds its size. -/
theorem total_add (t : Serial α) (a : α) (size : α → ℕ) :
    (t.add a).total size = t.total size + size a := by
  have hkey : t.next ∉ t.rows := by
    rw [← AList.lookup_eq_none]
    exact t.get?_next
  simp only [total, Table.total, add, AList.entries_insert_of_notMem hkey, List.map_cons,
    List.sum_cons]
  exact Nat.add_comm _ _

theorem count_le {t t' : Serial α} {p : α → Bool}
    (h : ∀ k a, t'.get? k = some a → p a = true → ∃ b, t.get? k = some b ∧ p b = true) :
    t'.count p ≤ t.count p :=
  Table.count_le h

theorem count_modify_le {t : Serial α} {k : ℕ} {f : α → α} {p : α → Bool}
    (h : ∀ a, p (f a) = true → p a = true) : (t.modify k f).count p ≤ t.count p :=
  Table.count_modify_le h

theorem count_eq_count_iff {t : Serial α} {p q : α → Bool} (h : ∀ a, p a = true → q a = true) :
    t.count p = t.count q ↔ ∀ k a, t.get? k = some a → q a = true → p a = true :=
  Table.count_eq_count_iff h

end Serial
