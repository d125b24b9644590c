import Mathlib.Logic.Basic
import Mathlib.Tactic.TypeStar

/-!
# Unique Keys

The rows of a table have a key, or none: a partial function from the ids of the rows. A key is
unique when no two rows have it.

## Main results

- `Unique.of_le`: rows that lose their keys keep them unique.
- `Unique.write`: so does one row with a key that no other row has.
-/

namespace UniqueKeys

variable {ι κ : Type*} {key key' : ι → Option κ}

/-- No two rows have the same key. -/
def Unique (key : ι → Option κ) : Prop :=
  ∀ i j k, key i = some k → key j = some k → i = j

/-- Keys that were there before are unique. -/
theorem Unique.of_le (h : Unique key) (hle : ∀ i k, key' i = some k → key i = some k) :
    Unique key' :=
  fun i j k hi hj => h i j k (hle i k hi) (hle j k hj)

/-- A row is written whose key no other row has. -/
theorem Unique.write (h : Unique key) (row : ι)
    (hother : ∀ i k, i ≠ row → key' i = some k → key i = some k)
    (hfree : ∀ i k, i ≠ row → key' row = some k → key i ≠ some k) : Unique key' := by
  intro i j k hi hj
  by_cases hirow : i = row <;> by_cases hjrow : j = row
  · rw [hirow, hjrow]
  · subst hirow
    exact absurd (hother j k hjrow hj) (hfree j k hjrow hi)
  · subst hjrow
    exact absurd (hother i k hirow hi) (hfree i k hirow hj)
  · exact h i j k (hother i k hirow hi) (hother j k hjrow hj)

end UniqueKeys
