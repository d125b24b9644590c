import Mathlib.Data.Int.Order.Basic
import Mathlib.Data.List.Sort

/-!
# The Latest Entries of a List

Entries are listed from the latest to the earliest one, those of one time in the order in which they
stand, and only a number of them are kept.

## Main results

- `List.mem_latest_iff`: an entry is kept if less entries than that number are ahead of it.
- `List.mem_latest_append_iff`: the latest entries of two lists.
- `List.mem_latest_latest_append_iff`: those of three lists are among the latest ones of each.
-/

namespace List

variable {α β : Type*} [LinearOrder β]

/-- The latest entries of a list, from the latest to the earliest one. -/
def latest (time : α → β) (limit : ℕ) (l : List α) : List α :=
  (l.insertionSort fun a b => time b ≤ time a).take limit

/-- The number of entries ahead of one that stands between two parts of a list: the later ones, and
those of the same time that stand before it. -/
def ahead (time : α → β) (pre : List α) (a : α) (post : List α) : ℕ :=
  pre.countP (fun b => time a ≤ time b) + post.countP fun b => time a < time b

variable {time : α → β} {limit : ℕ} {a b : α} {l l₁ l₂ l₃ : List α}

/-- A list is sorted from the latest to the earliest entry. -/
theorem pairwise_insertionSort_time (time : α → β) (l : List α) :
    (l.insertionSort fun a b => time b ≤ time a).Pairwise fun a b => time b ≤ time a :=
  have : IsTrans α fun a b => time b ≤ time a := ⟨fun _ _ _ h h' => h'.trans h⟩
  have : Std.Total fun a b : α => time b ≤ time a := ⟨fun a b => le_total (time b) (time a)⟩
  List.pairwise_insertionSort _ l

/-- An entry is inserted in a sorted list, and the first ones are kept. -/
theorem mem_take_orderedInsert_iff (hsorted : l.Pairwise fun a b => time b ≤ time a) :
    a ∈ (l.orderedInsert (fun a b => time b ≤ time a) b).take limit ↔
      (a = b ∧ l.countP (fun c => time b < time c) < limit) ∨
        a ∈ l.take (limit - if time a ≤ time b then 1 else 0) := by
  induction l generalizing limit with
  | nil => cases limit <;> simp
  | cons c l ih =>
    obtain ⟨hfirst, hrest⟩ := List.pairwise_cons.mp hsorted
    cases limit with
    | zero => simp
    | succ limit =>
      by_cases hinsert : time c ≤ time b
      · -- The entry comes first: no other one is later.
        have hnone : (c :: l).countP (fun c => time b < time c) = 0 := by
          rw [List.countP_eq_zero]
          intro x hx
          rcases List.mem_cons.mp hx with rfl | hx
          · simpa using hinsert
          · simpa using (hfirst x hx).trans hinsert
        rw [List.orderedInsert_cons, if_pos hinsert, List.take_succ_cons, List.mem_cons, hnone]
        by_cases hlate : time a ≤ time b
        · simp [hlate]
        · have hnotin : ∀ n, a ∉ (c :: l).take n := by
            intro n hmem
            rcases List.mem_cons.mp (List.mem_of_mem_take hmem) with rfl | hmem
            · exact hlate hinsert
            · exact hlate ((hfirst a hmem).trans hinsert)
          simp [hnotin]
      · rw [List.orderedInsert_cons, if_neg hinsert, List.take_succ_cons, List.mem_cons, ih hrest,
          List.countP_cons_of_pos (by simpa using hinsert), Nat.succ_lt_succ_iff]
        by_cases hlate : time a ≤ time b
        · have hne : a ≠ c := by
            rintro rfl
            exact hinsert hlate
          cases limit <;> simp [hlate, hne]
        · simp only [if_neg hlate, Nat.sub_zero, List.take_succ_cons, List.mem_cons]
          tauto

/-- An entry is among the latest ones if less than that number are ahead of it. -/
theorem mem_latest_iff : a ∈ l.latest time limit ↔
    ∃ pre post, l = pre ++ a :: post ∧ ahead time pre a post < limit := by
  induction l generalizing limit with
  | nil => simp [latest]
  | cons b l ih =>
    have hcount : (l.insertionSort fun a b => time b ≤ time a).countP (fun c => time b < time c) =
        l.countP fun c => time b < time c :=
      (List.perm_insertionSort _ l).countP_eq _
    rw [latest, List.insertionSort_cons,
      mem_take_orderedInsert_iff (pairwise_insertionSort_time time l), hcount]
    have hrest : a ∈ (l.insertionSort fun a b => time b ≤ time a).take
        (limit - if time a ≤ time b then 1 else 0) ↔ _ := ih
    rw [hrest]
    constructor
    · rintro (⟨rfl, hlt⟩ | ⟨pre, post, rfl, hlt⟩)
      · exact ⟨[], l, rfl, by simpa [ahead] using hlt⟩
      · refine ⟨b :: pre, post, rfl, ?_⟩
        rw [ahead] at hlt ⊢
        rw [List.countP_cons]
        by_cases hlate : time a ≤ time b
        · simp only [hlate, decide_true, if_true] at hlt ⊢
          omega
        · simp only [hlate, decide_false, if_false, Bool.false_eq_true] at hlt ⊢
          omega
    · rintro ⟨pre, post, heq, hlt⟩
      cases pre with
      | nil =>
        obtain ⟨rfl, rfl⟩ := List.cons.inj heq
        exact Or.inl ⟨rfl, by simpa [ahead] using hlt⟩
      | cons c pre =>
        obtain ⟨rfl, rfl⟩ := List.cons.inj heq
        refine Or.inr ⟨pre, post, rfl, ?_⟩
        rw [ahead, List.countP_cons] at hlt
        rw [ahead]
        by_cases hlate : time a ≤ time b
        · simp only [hlate, decide_true, if_true] at hlt ⊢
          omega
        · simp only [hlate, decide_false, if_false, Bool.false_eq_true] at hlt ⊢
          omega

/-- An entry of two lists is among the latest ones if it is among those of its list that the other
list leaves room for. -/
theorem mem_latest_append_iff : a ∈ (l₁ ++ l₂).latest time limit ↔
    a ∈ l₁.latest time (limit - l₂.countP fun b => time a < time b) ∨
      a ∈ l₂.latest time (limit - l₁.countP fun b => time a ≤ time b) := by
  simp only [mem_latest_iff, ahead]
  constructor
  · rintro ⟨pre, post, heq, hlt⟩
    rcases List.append_eq_append_iff.mp heq with ⟨mid, rfl, rfl⟩ | ⟨mid, rfl, hmid⟩
    · refine Or.inr ⟨mid, post, rfl, ?_⟩
      rw [List.countP_append] at hlt
      omega
    · cases mid with
      | nil =>
        refine Or.inr ⟨[], post, hmid.symm, ?_⟩
        rw [List.append_nil, List.countP_nil]
        omega
      | cons c mid =>
        obtain ⟨rfl, hpost⟩ := List.cons.inj hmid
        refine Or.inl ⟨pre, mid, rfl, ?_⟩
        rw [hpost, show mid.append l₂ = mid ++ l₂ from rfl, List.countP_append] at hlt
        omega
  · rintro (⟨pre, post, rfl, hlt⟩ | ⟨pre, post, rfl, hlt⟩)
    · refine ⟨pre, post ++ l₂, by simp, ?_⟩
      rw [List.countP_append]
      omega
    · refine ⟨l₁ ++ pre, post, by simp, ?_⟩
      rw [List.countP_append]
      omega

/-- The latest entries are found among the latest ones. -/
theorem latest_latest {n : ℕ} (h : n ≤ limit) :
    (l.latest time limit).latest time n = l.latest time n := by
  have hsorted : (l.latest time limit).Pairwise fun a b => time b ≤ time a :=
    (pairwise_insertionSort_time time l).sublist (List.take_sublist _ _)
  rw [latest, hsorted.insertionSort_eq, latest, List.take_take, Nat.min_eq_left h, latest]

/-- The latest entries are counted first. -/
theorem countP_latest {p : α → Bool} (hp : ∀ a b, time a ≤ time b → p a = true → p b = true) :
    (l.latest time limit).countP p = min limit (l.countP p) := by
  rw [latest, ← (List.perm_insertionSort (fun a b => time b ≤ time a) l).countP_eq]
  have hsorted := pairwise_insertionSort_time time l
  generalize l.insertionSort (fun a b => time b ≤ time a) = s at hsorted ⊢
  induction s generalizing limit with
  | nil => simp
  | cons c s ih =>
    obtain ⟨hfirst, hrest⟩ := List.pairwise_cons.mp hsorted
    cases limit with
    | zero => simp
    | succ limit =>
      rw [List.take_succ_cons, List.countP_cons, List.countP_cons, ih hrest]
      by_cases hc : p c = true
      · simp [hc, Nat.succ_min_succ]
      · -- The later entries of the list are not counted either.
        have hnone : s.countP p = 0 :=
          List.countP_eq_zero.mpr fun x hx hpx => hc (hp x c (hfirst x hx) hpx)
        simp [hc, hnone]

/-- The latest entries of three lists are found among the latest ones of each list. -/
theorem mem_latest_latest_append_iff :
    a ∈ (l₁.latest time limit ++ l₂.latest time limit ++ l₃.latest time limit).latest time limit ↔
      a ∈ (l₁ ++ l₂ ++ l₃).latest time limit := by
  have hle : ∀ l : List α, (l.latest time limit).countP (fun b => time a ≤ time b) =
      min limit (l.countP fun b => time a ≤ time b) := fun l =>
    countP_latest fun b c hbc hb => decide_eq_true ((of_decide_eq_true hb).trans hbc)
  have hlt : ∀ l : List α, (l.latest time limit).countP (fun b => time a < time b) =
      min limit (l.countP fun b => time a < time b) := fun l =>
    countP_latest fun b c hbc hb => decide_eq_true ((of_decide_eq_true hb).trans_le hbc)
  have hsub : ∀ k m : ℕ, limit - min limit k - min limit m = limit - k - m := by omega
  have hadd : ∀ k m : ℕ, limit - (min limit k + min limit m) = limit - (k + m) := by omega
  simp only [mem_latest_append_iff, List.countP_append, hle, hlt, hsub, hadd]
  rw [latest_latest (by omega), latest_latest (by omega), latest_latest (by omega)]

end List
