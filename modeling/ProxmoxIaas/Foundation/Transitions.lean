import ProxmoxIaas.Foundation.Machine
import ProxmoxIaas.Foundation.Table

/-!
# Transitions of a Column

A column of a table is a state machine of its own when a write may change its values only along
a relation. What counts is the value before and after each step, for every key that has a row at
both ends; rows that are inserted or deleted make no transition.

## Main results

- `moves_map_iff`, `moves_modify_iff`: a write moves the column along the relation exactly when
  it does so for each row it rewrites.
- `moves_of_rows`: a step that only inserts and deletes rows moves nothing.
- `Machine.respects_congr`: a run respects two conditions alike if every step does.
-/

universe u v w

namespace Transitions

variable {κ : Type u} {α : Type v} {β : Type w} {allowed : β → β → Prop} {column : α → β}

/-- Between two lookups of a table, every change of a column is allowed. -/
def Moves (allowed : β → β → Prop) (column : α → β) (get get' : κ → Option α) : Prop :=
  ∀ k a b, get k = some a → get' k = some b → column a ≠ column b → allowed (column a) (column b)

/-- A step whose rows all existed before, or are new, moves nothing. -/
theorem moves_of_rows {get get' : κ → Option α}
    (h : ∀ k a b, get k = some a → get' k = some b → a = b) : Moves allowed column get get' := by
  intro k a b hget hget' hne
  exact absurd (congrArg column (h k a b hget hget')) hne

theorem moves_refl (get : κ → Option α) : Moves allowed column get get :=
  moves_of_rows fun _ _ _ hget hget' => Option.some.inj (hget.symm.trans hget')

/-- Rewriting the rows moves the column along the relation when it does so for each row. -/
theorem moves_map_iff {get get' : κ → Option α} {f : κ → α → α}
    (h : ∀ k, get' k = (get k).map (f k)) :
    Moves allowed column get get' ↔
      ∀ k a, get k = some a → column a ≠ column (f k a) → allowed (column a) (column (f k a)) := by
  constructor
  · intro hmoves k a hget
    refine hmoves k a (f k a) hget ?_
    rw [h, hget, Option.map_some]
  · intro hrows k a b hget hget' hne
    rw [h, hget, Option.map_some] at hget'
    obtain rfl := Option.some.inj hget'
    exact hrows k a hget hne

/-- Rewriting one row is a question about that row only. -/
theorem moves_modify_iff [DecidableEq κ] {get get' : κ → Option α} {key : κ} {f : α → α}
    (h : ∀ k, get' k = if k = key then (get k).map f else get k) :
    Moves allowed column get get' ↔
      ∀ a, get key = some a → column a ≠ column (f a) → allowed (column a) (column (f a)) := by
  constructor
  · intro hmoves a hget
    refine hmoves key a (f a) hget ?_
    rw [h, if_pos rfl, hget, Option.map_some]
  · intro hrow k a b hget hget' hne
    rw [h] at hget'
    by_cases hk : k = key
    · subst hk
      rw [if_pos rfl, hget, Option.map_some] at hget'
      obtain rfl := Option.some.inj hget'
      exact hrow a hget hne
    · -- every other row stays as it is
      rw [if_neg hk, hget] at hget'
      exact absurd (congrArg column (Option.some.inj hget')) hne

end Transitions

namespace Machine

variable {σ : Type u} {ι : Type v} {M : Machine σ ι} {ok ok' : σ → ι → Prop}

/-- Conditions that agree on every step agree on every run. -/
theorem respects_congr (h : ∀ s l, ok s l ↔ ok' s l) (s : σ) (ls : List ι) :
    M.Respects ok s ls ↔ M.Respects ok' s ls := by
  induction ls generalizing s with
  | nil => exact Iff.rfl
  | cons l ls ih =>
    show ok s l ∧ M.Respects ok (M.step s l) ls ↔ ok' s l ∧ M.Respects ok' (M.step s l) ls
    rw [h, ih]

end Machine
