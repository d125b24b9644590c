import ProxmoxIaas.Foundation.Table

/-!
# Exclusive Allocation

Two ways of saying that claimants `α` hold resources `β` exclusively.

`Exclusive` speaks of an allocator that marks resources as free without recording who holds
them: no resource is held twice, and a resource of the pool is free exactly when nobody
holds it. `Paired` speaks of an allocator that also records the holder of each resource:
the two records are inverse to each other.

## Main results

- `Exclusive.acquire`, `Exclusive.release`: handing out a free resource, and giving back a
  resource that nobody else holds, keep the allocation exclusive.
- `Table.AllocatedTo.acquire`, `Table.AllocatedTo.release`: the same for a pool whose resources
  are the rows of a table.
- `Paired.acquire`, `Paired.release`: the same for the two inverse records.
-/

universe u v

variable {α : Type u} {β : Type v}

/-- Claimants hold resources of a pool exclusively, and the free resources are those that
nobody holds. -/
structure Exclusive (pool free : Set β) (holds : α → Option β) : Prop where
  /-- No resource is held by two claimants. -/
  unique : ∀ a a' b, holds a = some b → holds a' = some b → a = a'
  /-- Only resources of the pool are held. -/
  mem_pool : ∀ a b, holds a = some b → b ∈ pool
  /-- A resource of the pool is free exactly when nobody holds it. -/
  free_iff : ∀ b ∈ pool, b ∈ free ↔ ∀ a, holds a ≠ some b

namespace Exclusive

variable {pool free : Set β} {holds : α → Option β}

/-- If nobody holds anything and the whole pool is free, the allocation is exclusive. -/
theorem of_unused (hfree : pool ⊆ free) (hholds : ∀ a, holds a = none) :
    Exclusive pool free holds where
  unique a a' b hb := by simp [hholds a] at hb
  mem_pool a b hb := by simp [hholds a] at hb
  free_iff b hb := by simp [hfree hb, hholds]

/-- A claimant that holds nothing acquires a free resource. -/
theorem acquire [DecidableEq α] (h : Exclusive pool free holds) {a : α} {b : β}
    (ha : holds a = none) (hb : b ∈ pool) (hfree : b ∈ free) :
    Exclusive pool (free \ {b}) (Function.update holds a (some b)) := by
  have hunheld : ∀ c, holds c ≠ some b := (h.free_iff b hb).mp hfree
  refine ⟨?_, ?_, ?_⟩
  · intro c c' d hc hc'
    by_cases hca : c = a <;> by_cases hca' : c' = a
    · rw [hca, hca']
    · rw [hca, Function.update_self, Option.some.injEq] at hc
      rw [Function.update_of_ne hca', ← hc] at hc'
      exact absurd hc' (hunheld c')
    · rw [hca', Function.update_self, Option.some.injEq] at hc'
      rw [Function.update_of_ne hca, ← hc'] at hc
      exact absurd hc (hunheld c)
    · rw [Function.update_of_ne hca] at hc
      rw [Function.update_of_ne hca'] at hc'
      exact h.unique c c' d hc hc'
  · intro c d hc
    by_cases hca : c = a
    · rw [hca, Function.update_self, Option.some.injEq] at hc
      exact hc ▸ hb
    · rw [Function.update_of_ne hca] at hc
      exact h.mem_pool c d hc
  · intro d hd
    rw [Set.mem_sdiff, Set.mem_singleton_iff, h.free_iff d hd]
    constructor
    · rintro ⟨hunheld', hdb⟩ c
      by_cases hca : c = a
      · rw [hca, Function.update_self]
        exact fun heq => hdb (Option.some.inj heq).symm
      · rw [Function.update_of_ne hca]
        exact hunheld' c
    · intro hupd
      refine ⟨fun c hc => ?_, fun hdb => ?_⟩
      · have hca : c ≠ a := by
          rintro rfl
          rw [ha] at hc
          cases hc
        exact hupd c (by rw [Function.update_of_ne hca]; exact hc)
      · exact hupd a (by rw [Function.update_self, hdb])

/-- A claimant gives up what it holds, and a resource that nobody else holds is marked as
free. The claimant holds that resource or nothing. -/
theorem release [DecidableEq α] (h : Exclusive pool free holds) {a : α} {b : β}
    (ha : ∀ c, holds a = some c → c = b) (hother : ∀ a', a' ≠ a → holds a' ≠ some b) :
    Exclusive pool (insert b free) (Function.update holds a none) := by
  have hsub : ∀ c d, Function.update holds a none c = some d → c ≠ a ∧ holds c = some d := by
    intro c d hc
    by_cases hca : c = a
    · rw [hca, Function.update_self] at hc
      cases hc
    · rw [Function.update_of_ne hca] at hc
      exact ⟨hca, hc⟩
  refine ⟨?_, ?_, ?_⟩
  · intro c c' d hc hc'
    exact h.unique c c' d (hsub c d hc).2 (hsub c' d hc').2
  · intro c d hc
    exact h.mem_pool c d (hsub c d hc).2
  · intro d hd
    rw [Set.mem_insert_iff, h.free_iff d hd]
    constructor
    · rintro (rfl | hunheld) c hc
      · exact hother c (hsub c d hc).1 (hsub c d hc).2
      · exact hunheld c (hsub c d hc).2
    · intro hupd
      refine or_iff_not_imp_left.mpr fun hdb c hc => ?_
      have hca : c ≠ a := by
        rintro rfl
        exact hdb (ha d hc)
      exact hupd c (by rw [Function.update_of_ne hca]; exact hc)

end Exclusive

namespace Table

variable {κ ρ : Type*} [DecidableEq κ] {t : Table κ ρ} {free : ρ → Prop}
  {holds : α → Option κ}

/-- The rows of a table are allocated exclusively; a condition on the row tells whether it is
free. -/
def AllocatedTo (t : Table κ ρ) (free : ρ → Prop) (holds : α → Option κ) : Prop :=
  Exclusive (t.keysWhere fun _ => True) (t.keysWhere free) holds

namespace AllocatedTo

/-- If nobody holds anything and every row is free, the rows are allocated exclusively. -/
theorem of_unused (hfree : ∀ k r, t.get? k = some r → free r) (hholds : ∀ a, holds a = none) :
    t.AllocatedTo free holds :=
  Exclusive.of_unused (fun k ⟨r, hget, _⟩ => ⟨r, hget, hfree k r hget⟩) hholds

/-- What is held is a row of the table. -/
theorem exists_row (h : t.AllocatedTo free holds) {a : α} {k : κ} (ha : holds a = some k) :
    ∃ r, t.get? k = some r :=
  (h.mem_pool a k ha).imp fun _ hr => hr.1

/-- A row is free exactly when nobody holds its key. -/
theorem row_free_iff (h : t.AllocatedTo free holds) {k : κ} {r : ρ} (hk : t.get? k = some r) :
    free r ↔ ∀ a, holds a ≠ some k := by
  rw [← mem_keysWhere (p := free) hk]
  exact h.free_iff k ((mem_keysWhere (p := fun _ => True) hk).mpr trivial)

/-- Tables with the same rows are allocated in the same way. -/
theorem congr {t' : Table κ ρ} (h : t.AllocatedTo free holds) (hget : t'.get? = t.get?) :
    t'.AllocatedTo free holds := by
  unfold AllocatedTo
  rw [keysWhere_congr hget, keysWhere_congr hget]
  exact h

/-- A write that frees no row and takes none keeps the allocation. -/
theorem modify (h : t.AllocatedTo free holds) {k : κ} {f : ρ → ρ}
    (hf : ∀ r, free (f r) ↔ free r) : (t.modify k f).AllocatedTo free holds := by
  unfold AllocatedTo
  rw [keysWhere_modify_any, keysWhere_modify_of_iff fun r _ => hf r]
  exact h

/-- A claimant that holds nothing acquires a free row. -/
theorem acquire [DecidableEq α] (h : t.AllocatedTo free holds) {a : α} {k : κ} {r : ρ}
    {f : ρ → ρ} (ha : holds a = none) (hk : t.get? k = some r) (hfree : free r)
    (hf : ∀ r, ¬ free (f r)) :
    (t.modify k f).AllocatedTo free (Function.update holds a (some k)) := by
  unfold AllocatedTo
  rw [keysWhere_modify_any, keysWhere_modify_of_false hf]
  exact Exclusive.acquire h ha ((mem_keysWhere hk).mpr trivial) ((mem_keysWhere hk).mpr hfree)

/-- A claimant gives up what it holds, and a row that nobody else holds becomes free. The
claimant holds that row or nothing. -/
theorem release [DecidableEq α] (h : t.AllocatedTo free holds) {a : α} {k : κ} {f : ρ → ρ}
    (ha : ∀ k', holds a = some k' → k' = k) (hother : ∀ a', a' ≠ a → holds a' ≠ some k)
    (hf : ∀ r, free (f r)) :
    (t.modify k f).AllocatedTo free (Function.update holds a none) := by
  cases hk : t.get? k with
  | some r =>
    unfold AllocatedTo
    rw [keysWhere_modify_any,
      keysWhere_modify_of_true (by rw [hk]; rfl) hf]
    exact Exclusive.release h ha hother
  | none =>
    -- Without a row there is nothing to free, and the claimant held nothing.
    have hnone : holds a = none := by
      cases hheld : holds a with
      | none => rfl
      | some k' =>
        obtain ⟨r, hr⟩ := h.exists_row hheld
        rw [ha k' hheld, hk] at hr
        cases hr
    have hsame : (t.modify k f).get? = t.get? := by
      funext k'
      rw [get?_modify]
      split
      case isTrue heq => rw [heq, hk, Option.map_none]
      case isFalse => rfl
    rw [← hnone, Function.update_eq_self]
    exact h.congr hsame

end AllocatedTo

end Table

/-- The record of what each claimant holds and the record of who owns each resource are
inverse to each other. -/
def Paired (holds : α → Option β) (owner : β → Option α) : Prop :=
  ∀ a b, owner b = some a ↔ holds a = some b

namespace Paired

variable {holds : α → Option β} {owner : β → Option α}

/-- No resource is held by two claimants. -/
theorem holds_unique (h : Paired holds owner) {a a' : α} {b : β} (ha : holds a = some b)
    (ha' : holds a' = some b) : a = a' := by
  have hown := (h a b).mpr ha
  rw [(h a' b).mpr ha', Option.some.injEq] at hown
  exact hown.symm

/-- A claimant that holds nothing acquires a resource that nobody owns. -/
theorem acquire [DecidableEq α] [DecidableEq β] (h : Paired holds owner) {a : α} {b : β}
    (ha : holds a = none) (hb : owner b = none) :
    Paired (Function.update holds a (some b)) (Function.update owner b (some a)) := by
  intro c d
  by_cases hca : c = a <;> by_cases hdb : d = b
  · simp [hca, hdb]
  · have hd : owner d ≠ some a := fun hd => by
      have := (h a d).mp hd
      rw [ha] at this
      cases this
    rw [hca, Function.update_of_ne hdb, Function.update_self]
    exact iff_of_false hd fun heq => hdb (Option.some.inj heq).symm
  · have hc : holds c ≠ some b := fun hc => by
      have := (h c b).mpr hc
      rw [hb] at this
      cases this
    rw [hdb, Function.update_self, Function.update_of_ne hca]
    exact iff_of_false (fun heq => hca (Option.some.inj heq).symm) hc
  · rw [Function.update_of_ne hca, Function.update_of_ne hdb]
    exact h c d

/-- A claimant gives up the resource it holds. -/
theorem release [DecidableEq α] [DecidableEq β] (h : Paired holds owner) {a : α} {b : β}
    (hab : holds a = some b) :
    Paired (Function.update holds a none) (Function.update owner b none) := by
  intro c d
  by_cases hca : c = a <;> by_cases hdb : d = b
  · simp [hca, hdb]
  · rw [hca, Function.update_of_ne hdb, Function.update_self, h a d, hab]
    exact iff_of_false (fun heq => hdb (Option.some.inj heq).symm) nofun
  · rw [hdb, Function.update_self, Function.update_of_ne hca]
    exact iff_of_false nofun fun hc => hca (h.holds_unique hc hab)
  · rw [Function.update_of_ne hca, Function.update_of_ne hdb]
    exact h c d

end Paired
