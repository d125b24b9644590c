import Mathlib.Logic.Basic
import Mathlib.Tactic.TypeStar

/-!
# References between Rows

A row of one table names a row of another one. The references are sound when each of them leads
to a row that is good for the row that refers to it. Both tables are seen through their lookups.

## Main results

- `Sound.of_rows`: rows that refer to nothing new keep the references sound.
- `Sound.of_targets`: a step of the other table keeps them sound if it spares what is referred
  to.
-/

namespace References

variable {κ α ρ β : Type*} {ref : α → Option ρ} {good : α → β → Prop}
  {get get' : κ → Option α} {target target' : ρ → Option β}

/-- Every reference leads to a row that is good for the one that refers to it. -/
def Sound (ref : α → Option ρ) (good : α → β → Prop) (get : κ → Option α)
    (target : ρ → Option β) : Prop :=
  ∀ k a r, get k = some a → ref a = some r → ∃ b, target r = some b ∧ good a b

/-- Some row refers to a key. -/
def Referred (ref : α → Option ρ) (get : κ → Option α) (r : ρ) : Prop :=
  ∃ k a, get k = some a ∧ ref a = some r

/-- Each row after a step has a reference of its own that is good, or goes back to a row with the
same reference that asks for nothing else. -/
theorem Sound.of_rows (h : Sound ref good get target)
    (hrows : ∀ k a r, get' k = some a → ref a = some r →
      (∃ b, target r = some b ∧ good a b) ∨
        ∃ a', get k = some a' ∧ ref a' = some r ∧ ∀ b, good a' b → good a b) :
    Sound ref good get' target := by
  intro k a r hget href
  rcases hrows k a r hget href with hgood | ⟨a', hget', href', hkeeps⟩
  · exact hgood
  · obtain ⟨b, hb, hgood⟩ := h k a' r hget' href'
    exact ⟨b, hb, hkeeps b hgood⟩

/-- What is referred to stays, and stays good. -/
theorem Sound.of_targets (h : Sound ref good get target)
    (hstays : ∀ r b, target r = some b → Referred ref get r →
      ∃ b', target' r = some b' ∧ ∀ a, good a b → good a b') :
    Sound ref good get target' := by
  intro k a r hget href
  obtain ⟨b, hb, hgood⟩ := h k a r hget href
  obtain ⟨b', hb', hkeeps⟩ := hstays r b hb ⟨k, a, hget, href⟩
  exact ⟨b', hb', hkeeps a hgood⟩

end References
