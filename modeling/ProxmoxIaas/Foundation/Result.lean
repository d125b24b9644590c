/-!
# Results of Fallible Calls

Inversion lemmas for calls in `Except ε`: a call that returned took every step of its body,
and each step returned. Steps that may be disabled are written in `Option` in the same way.

## Main results

- `Except.bind_eq_ok_iff`: a sequence of two calls returns exactly when both do.
- `Except.require_eq_ok_iff`, `Except.ofOption_eq_ok_iff`: what a passed check says.
- `Option.require_eq_some_iff`: what an enabled step says.
- `Option.mapM_eq_some_iff`, `Option.isSome_mapM_iff`: a call for each element of a list.
-/

universe u v w

namespace Except

variable {ε : Type u} {α β : Type v}

/-- Raise an error unless a condition holds. -/
def require (e : ε) (p : Prop) [Decidable p] : Except ε PUnit.{v + 1} :=
  if p then .ok ⟨⟩ else .error e

/-- The value of an option, or an error if there is none. -/
def ofOption (e : ε) : Option α → Except ε α
  | some a => .ok a
  | none => .error e

@[simp]
theorem bind_eq_ok_iff {x : Except ε α} {f : α → Except ε β} {b : β} :
    (x >>= f) = .ok b ↔ ∃ a, x = .ok a ∧ f a = .ok b := by
  cases x with
  | error e => simp [bind, Except.bind]
  | ok a => simp [bind, Except.bind]

/-- A sequence fails if its first part fails, or the second does after it. -/
theorem bind_eq_error_iff {x : Except ε α} {f : α → Except ε β} {e : ε} :
    (x >>= f) = .error e ↔ x = .error e ∨ ∃ a, x = .ok a ∧ f a = .error e := by
  cases x with
  | error e' => simp [bind, Except.bind]
  | ok a => simp [bind, Except.bind]

@[simp]
theorem pure_eq_ok_iff {a b : α} : (pure a : Except ε α) = .ok b ↔ a = b := by
  simp [pure, Except.pure]

@[simp]
theorem require_eq_ok_iff {e : ε} {p : Prop} [Decidable p] {u : PUnit.{v + 1}} :
    require e p = .ok u ↔ p := by
  unfold require
  split
  case isTrue h => simp [h]
  case isFalse h => simp [h]

@[simp]
theorem ofOption_eq_ok_iff {e : ε} {o : Option α} {a : α} :
    ofOption e o = .ok a ↔ o = some a := by
  cases o with
  | none => simp [ofOption]
  | some b => simp [ofOption]

/-- The option of a result is its value. -/
theorem toOption_eq_some_iff {x : Except ε α} {a : α} : x.toOption = some a ↔ x = .ok a := by
  cases x with
  | error e => exact iff_of_false nofun nofun
  | ok b => simp [Except.toOption]

end Except

namespace Option

/-- Go on only if a condition holds. -/
def require (p : Prop) [Decidable p] : Option PUnit.{v + 1} :=
  if p then some ⟨⟩ else none

@[simp]
theorem require_eq_some_iff {p : Prop} [Decidable p] {u : PUnit.{v + 1}} :
    require p = some u ↔ p := by
  unfold require
  split
  case isTrue h => simp [h]
  case isFalse h => simp [h]

section MapM

variable {α : Type u} {β : Type v} {f : α → Option β} {l : List α}

/-- The results of a call for each element of a list. -/
theorem mapM_eq_some_iff {results : List β} :
    l.mapM f = some results ↔ l.map f = results.map some := by
  induction l generalizing results with
  | nil =>
    cases results with
    | nil => simp
    | cons b results => simp
  | cons a l ih =>
    cases results with
    | nil => simp [List.mapM_cons, Option.bind_eq_some_iff]
    | cons b results => simp [List.mapM_cons, Option.bind_eq_some_iff, ih]

/-- A call for each element of a list returns if and only if every single one does. -/
theorem isSome_mapM_iff : (l.mapM f).isSome = true ↔ ∀ a ∈ l, (f a).isSome = true := by
  induction l with
  | nil => simp
  | cons a l ih =>
    rw [List.forall_mem_cons, ← ih, List.mapM_cons]
    cases f a with
    | none => simp
    | some b => cases l.mapM f <;> simp

end MapM

end Option
