import Mathlib.Data.List.Nodup

/-!
# Moving Entries in Front of Others

A list is put into a given order by pairwise moves, from the end of the order to its beginning: each
entry is moved directly in front of its successor. A pair is skipped if one of the two may not be
moved, so that the order falls into chains of linked entries. The last entry of a chain never moves
and takes the others with it.

## Main results

- `Moves.precedes_moveBefore`: what a move does to the order of two entries.
- `Moves.precedes_reorder`: two entries of a chain are in the given order afterwards, and entries of
  different chains stand as the last entries of these did before.
-/

namespace Moves

variable {α : Type*}

/-- An entry stands before another one. -/
def Precedes : List α → α → α → Prop
  | [], _, _ => False
  | a :: l, x, y => (x = a ∧ y ∈ l) ∨ Precedes l x y

@[simp]
theorem precedes_cons {a : α} {l : List α} {x y : α} :
    Precedes (a :: l) x y ↔ (x = a ∧ y ∈ l) ∨ Precedes l x y := Iff.rfl

/-- Both are entries. -/
theorem Precedes.mem {l : List α} {x y : α} (h : Precedes l x y) : x ∈ l ∧ y ∈ l := by
  induction l with
  | nil => cases h
  | cons a l ih =>
    rcases h with ⟨rfl, hy⟩ | h
    · exact ⟨List.mem_cons_self, List.mem_cons_of_mem _ hy⟩
    · exact ⟨List.mem_cons_of_mem _ (ih h).1, List.mem_cons_of_mem _ (ih h).2⟩

/-- The order in a concatenation. -/
theorem precedes_append {l l' : List α} {x y : α} :
    Precedes (l ++ l') x y ↔ Precedes l x y ∨ (x ∈ l ∧ y ∈ l') ∨ Precedes l' x y := by
  induction l with
  | nil => simp [Precedes]
  | cons a l ih =>
    simp only [List.cons_append, precedes_cons, ih, List.mem_append, List.mem_cons]
    tauto

/-- No entry stands before itself. -/
theorem not_precedes_self {l : List α} (hnodup : l.Nodup) (x : α) : ¬ Precedes l x x := by
  induction l with
  | nil => exact nofun
  | cons a l ih =>
    obtain ⟨hnotin, hnodup⟩ := List.nodup_cons.mp hnodup
    rintro (⟨rfl, hx⟩ | h)
    · exact hnotin hx
    · exact ih hnodup h

/-- Of two entries one stands before the other. -/
theorem precedes_or {l : List α} {x y : α} (hx : x ∈ l) (hy : y ∈ l) (hne : x ≠ y) :
    Precedes l x y ∨ Precedes l y x := by
  induction l with
  | nil => cases hx
  | cons a l ih =>
    rcases List.mem_cons.mp hx with rfl | hx'
    · exact Or.inl (Or.inl ⟨rfl, (List.mem_cons.mp hy).resolve_left hne.symm⟩)
    · rcases List.mem_cons.mp hy with rfl | hy'
      · exact Or.inr (Or.inl ⟨rfl, hx'⟩)
      · exact (ih hx' hy').imp Or.inr Or.inr

/-- The order in an image comes from the list. -/
theorem exists_of_precedes_map {β : Type*} {f : α → β} {l : List α} {x y : β}
    (h : Precedes (l.map f) x y) : ∃ a b, Precedes l a b ∧ f a = x ∧ f b = y := by
  induction l with
  | nil => cases h
  | cons a l ih =>
    rcases h with ⟨rfl, hy⟩ | h
    · obtain ⟨b, hb, rfl⟩ := List.mem_map.mp hy
      exact ⟨a, b, Or.inl ⟨rfl, hb⟩, rfl, rfl⟩
    · obtain ⟨c, b, hcb, hc, hb⟩ := ih h
      exact ⟨c, b, Or.inr hcb, hc, hb⟩

/-- Entries of a sorted list are related in their order. -/
theorem Precedes.rel {r : α → α → Prop} {l : List α} (hsorted : l.Pairwise r) {x y : α}
    (h : Precedes l x y) : r x y := by
  induction l with
  | nil => cases h
  | cons a l ih =>
    obtain ⟨hhead, htail⟩ := List.pairwise_cons.mp hsorted
    rcases h with ⟨rfl, hy⟩ | h
    · exact hhead y hy
    · exact ih htail h

variable [DecidableEq α]

/-- Without another entry, the order is the same. -/
theorem precedes_erase {l : List α} (hnodup : l.Nodup) {a x y : α} (hx : x ≠ a) (hy : y ≠ a) :
    Precedes (l.erase a) x y ↔ Precedes l x y := by
  induction l with
  | nil => rfl
  | cons b l ih =>
    obtain ⟨-, hnodup⟩ := List.nodup_cons.mp hnodup
    by_cases hb : b = a
    · subst hb
      rw [List.erase_cons_head, precedes_cons]
      exact ⟨Or.inr, fun h => h.resolve_left fun hhead => hx hhead.1⟩
    · rw [List.erase_cons_tail (by simpa using hb), precedes_cons, precedes_cons, ih hnodup,
        List.mem_erase_of_ne hy]

/-! ## One move -/

/-- Take an entry out and put it back in front of another one. -/
def moveBefore (a b : α) (l : List α) : List α :=
  (l.erase a).takeWhile (· ≠ b) ++ a :: (l.erase a).dropWhile (· ≠ b)

/-- A move keeps the entries. -/
theorem moveBefore_perm {a b : α} {l : List α} (ha : a ∈ l) : (moveBefore a b l).Perm l := by
  have hmiddle : (moveBefore a b l).Perm (a :: l.erase a) := by
    unfold moveBefore
    refine List.perm_middle.trans ?_
    rw [List.takeWhile_append_dropWhile]
  exact hmiddle.trans (List.perm_cons_erase ha).symm

/-- Where the entry is put. -/
private theorem exists_split {a b : α} {l : List α} (hnodup : l.Nodup) (hb : b ∈ l) (hne : b ≠ a) :
    ∃ before after, l.erase a = before ++ b :: after ∧
      moveBefore a b l = before ++ a :: b :: after ∧ (before ++ b :: after).Nodup ∧
      a ∉ before ++ b :: after := by
  have hnodup' : (l.erase a).Nodup := hnodup.erase a
  have hmem : b ∈ l.erase a := (List.mem_erase_of_ne hne).mpr hb
  have hnotin : a ∉ l.erase a := fun h => ((hnodup.mem_erase_iff).mp h).1 rfl
  obtain ⟨before, after, hsplit⟩ := List.append_of_mem hmem
  rw [hsplit] at hnodup' hnotin
  have hbefore : ∀ c ∈ before, (decide (c ≠ b)) = true := by
    rintro c hc
    refine decide_eq_true fun heq => ?_
    exact (List.nodup_append'.mp hnodup').2.2 (heq ▸ hc) List.mem_cons_self
  refine ⟨before, after, hsplit, ?_, hnodup', hnotin⟩
  unfold moveBefore
  rw [hsplit, List.takeWhile_append_of_pos hbefore, List.dropWhile_append_of_pos hbefore,
    List.takeWhile_cons_of_neg (by simp), List.dropWhile_cons_of_neg (by simp), List.append_nil]

/-- After a move, the entry stands before its successor and what comes after this one, and behind
what comes before this one. -/
theorem precedes_moveBefore {a b : α} {l : List α} (hnodup : l.Nodup) (hb : b ∈ l) (hne : b ≠ a)
    (x y : α) : Precedes (moveBefore a b l) x y ↔
      (x = a ∧ y ≠ a ∧ (y = b ∨ Precedes l b y)) ∨ (x ≠ a ∧ y = a ∧ Precedes l x b) ∨
        (x ≠ a ∧ y ≠ a ∧ Precedes l x y) := by
  obtain ⟨before, after, hsplit, hmoved, hnodup', hnotin⟩ := exists_split hnodup hb hne
  have herase : ∀ {x y}, x ≠ a → y ≠ a →
      (Precedes l x y ↔ Precedes (before ++ b :: after) x y) := fun hx hy => by
    rw [← precedes_erase hnodup hx hy, hsplit]
  obtain ⟨-, hafter, hdisjoint⟩ := List.nodup_append'.mp hnodup'
  have hbefore : b ∉ before := fun h => hdisjoint h List.mem_cons_self
  have hnotafter : b ∉ after := (List.nodup_cons.mp hafter).1
  simp only [List.mem_append, List.mem_cons, not_or] at hnotin
  rw [hmoved, precedes_append, precedes_cons, precedes_cons]
  by_cases hx : x = a
  · subst hx
    by_cases hy : y = x
    · subst hy
      have hself : ¬ Precedes before y y := fun h => hnotin.1 h.mem.1
      have hself' : ¬ Precedes after y y := fun h => hnotin.2.2 h.mem.1
      simp [hnotin.1, hnotin.2.1, hnotin.2.2, hself, hself']
    · have hfirst : ¬ Precedes before x y := fun h => hnotin.1 h.mem.1
      have hlast : ¬ Precedes after x y := fun h => hnotin.2.2 h.mem.1
      have hb' : ¬ Precedes before b y := fun h => hbefore h.mem.1
      have hb'' : ¬ Precedes after b y := fun h => hnotafter h.mem.1
      rw [herase hne hy, precedes_append, precedes_cons]
      simp [hnotin.1, hfirst, hlast, hb', hb'', hbefore, hy, hne.symm]
  · by_cases hy : y = a
    · subst hy
      have hfirst : ¬ Precedes before x y := fun h => hnotin.1 h.mem.2
      have hlast : ¬ Precedes after x y := fun h => hnotin.2.2 h.mem.2
      have hb' : ¬ Precedes before x b := fun h => hbefore h.mem.2
      have hb'' : ¬ Precedes after x b := fun h => hnotafter h.mem.2
      rw [herase hx hne, precedes_append, precedes_cons]
      simp [hnotin.2.1, hnotin.2.2, hfirst, hlast, hb', hb'', hnotafter, hx]
    · rw [herase hx hy, precedes_append, precedes_cons]
      simp [hx, hy]

/-! ## Chains of moves -/

/-- Put a list into an order: every entry is moved in front of its successor, the last pair first.
Only pairs of entries that may be moved are. -/
def reorder (movable : α → Bool) : List α → List α → List α
  | a :: b :: order, l =>
    if movable a && movable b then moveBefore a b (reorder movable (b :: order) l)
    else reorder movable (b :: order) l
  | _, l => l

/-- The last entry of the chain of an entry. -/
def chainEnd (movable : α → Bool) : List α → α → α
  | a :: b :: order, x =>
    if x = a ∧ (movable a && movable b) then chainEnd movable (b :: order) b
    else chainEnd movable (b :: order) x
  | _, x => x

variable {movable : α → Bool}

/-- Without movable entries nothing is moved. -/
theorem reorder_of_not_movable {order : List α} (h : ∀ a ∈ order, movable a = false) (l : List α) :
    reorder movable order l = l := by
  induction order with
  | nil => rfl
  | cons a order ih =>
    cases order with
    | nil => rfl
    | cons b order =>
      rw [reorder, if_neg (by simp [h a List.mem_cons_self])]
      exact ih fun c hmem => h c (List.mem_cons_of_mem _ hmem)

/-- Entries that are not in the order are chains of their own. -/
theorem chainEnd_of_not_mem {order : List α} {x : α} (h : x ∉ order) :
    chainEnd movable order x = x := by
  induction order with
  | nil => rfl
  | cons a order ih =>
    cases order with
    | nil => rfl
    | cons b order =>
      have hne : x ≠ a := fun heq => h (heq ▸ List.mem_cons_self)
      rw [chainEnd, if_neg fun hlinked => hne hlinked.1]
      exact ih fun hmem => h (List.mem_cons_of_mem _ hmem)

/-- The end of a chain is in the order. -/
theorem chainEnd_mem {order : List α} {x : α} (h : x ∈ order) : chainEnd movable order x ∈ order := by
  induction order generalizing x with
  | nil => cases h
  | cons a order ih =>
    cases order with
    | nil => exact h
    | cons b order =>
      rw [chainEnd]
      split
      · exact List.mem_cons_of_mem _ (ih List.mem_cons_self)
      · by_cases hx : x ∈ b :: order
        · exact List.mem_cons_of_mem _ (ih hx)
        · rw [chainEnd_of_not_mem hx]
          exact h

/-- Different entries with the same end are both in the order. -/
private theorem mem_of_chainEnd_eq {order : List α} {x y : α} (hne : x ≠ y)
    (heq : chainEnd movable order x = chainEnd movable order y) : y ∈ order := by
  by_contra hy
  rw [chainEnd_of_not_mem hy] at heq
  by_cases hx : x ∈ order
  · exact hy (heq ▸ chainEnd_mem hx)
  · exact hne ((chainEnd_of_not_mem hx).symm.trans heq)

/-- The moves keep the entries. -/
theorem reorder_perm {order l : List α} (hmovable : ∀ a ∈ order, movable a = true → a ∈ l) :
    (reorder movable order l).Perm l := by
  induction order with
  | nil => exact List.Perm.refl l
  | cons a order ih =>
    cases order with
    | nil => exact List.Perm.refl l
    | cons b order =>
      have hrest := ih fun a hmem => hmovable a (List.mem_cons_of_mem _ hmem)
      rw [reorder]
      split
      case isTrue hlinked =>
        have ha : a ∈ l := hmovable a List.mem_cons_self (Bool.and_eq_true_iff.mp hlinked).1
        exact (moveBefore_perm (hrest.mem_iff.mpr ha)).trans hrest
      case isFalse => exact hrest

/-- Entries of one chain stand in the given order afterwards, entries of different chains as the
ends of these did before. -/
theorem precedes_reorder {order l : List α} (horder : order.Nodup) (hnodup : l.Nodup)
    (hmovable : ∀ a ∈ order, movable a = true → a ∈ l) {x y : α} (hne : x ≠ y) :
    Precedes (reorder movable order l) x y ↔
      if chainEnd movable order x = chainEnd movable order y then Precedes order x y
      else Precedes l (chainEnd movable order x) (chainEnd movable order y) := by
  induction order generalizing x y with
  | nil => exact (if_neg hne).symm ▸ Iff.rfl
  | cons a order ih =>
    cases order with
    | nil => exact (if_neg hne).symm ▸ Iff.rfl
    | cons b order =>
      have hmovable' : ∀ a ∈ b :: order, movable a = true → a ∈ l :=
        fun a hmem => hmovable a (List.mem_cons_of_mem _ hmem)
      obtain ⟨hnotin, horder'⟩ := List.nodup_cons.mp horder
      have hrest : ∀ {x y}, x ≠ y → (Precedes (reorder movable (b :: order) l) x y ↔ _) :=
        fun hne => ih horder' hmovable' hne
      have hab : b ≠ a := fun heq => hnotin (heq ▸ List.mem_cons_self)
      -- Apart from the first entry, the order is that of the others.
      have htail : ∀ {x y}, x ≠ a → (Precedes (a :: b :: order) x y ↔ Precedes (b :: order) x y) :=
        fun hx => ⟨fun h => h.resolve_left fun hfirst => hx hfirst.1, Or.inr⟩
      rw [reorder]
      by_cases hlinked : (movable a && movable b) = true
      · have hend : chainEnd movable (a :: b :: order) a = chainEnd movable (b :: order) b := by
          rw [chainEnd, if_pos ⟨rfl, hlinked⟩]
        have hends : ∀ {z}, z ≠ a →
            chainEnd movable (a :: b :: order) z = chainEnd movable (b :: order) z := fun hz => by
          rw [chainEnd, if_neg fun h => hz h.1]
        have hperm : (reorder movable (b :: order) l).Perm l := reorder_perm hmovable'
        have hb : b ∈ reorder movable (b :: order) l :=
          hperm.mem_iff.mpr (hmovable' b List.mem_cons_self (Bool.and_eq_true_iff.mp hlinked).2)
        rw [if_pos hlinked, precedes_moveBefore (hperm.nodup_iff.mpr hnodup) hb hab]
        by_cases hx : x = a
        · -- The first entry stands directly before its successor.
          subst hx
          have hy : y ≠ x := hne.symm
          rw [hend, hends hy]
          by_cases hyb : y = b
          · subst hyb
            simp [hy]
          · rw [hrest (Ne.symm hyb)]
            simp only [hy, hyb, ne_eq, not_true_eq_false, not_false_eq_true, true_and, false_and,
              false_or, or_false]
            split
            case isTrue heq =>
              have hmem : y ∈ b :: order := mem_of_chainEnd_eq (Ne.symm hyb) heq
              have hlater : y ∈ order := (List.mem_cons.mp hmem).resolve_left hyb
              exact iff_of_true (Or.inl ⟨rfl, hlater⟩) (Or.inl ⟨rfl, hmem⟩)
            case isFalse => rfl
        · by_cases hy : y = a
          · -- What stands before the successor stands before the first entry.
            subst hy
            rw [hend, hends hx]
            have hnone : ¬ Precedes (y :: b :: order) x y := fun h =>
              hnotin ((htail hx).mp h).mem.2
            simp only [hx, ne_eq, not_true_eq_false, not_false_eq_true, true_and, false_and,
              false_or, or_false, and_false]
            by_cases hxb : x = b
            · subst hxb
              rw [if_pos rfl]
              exact iff_of_false (not_precedes_self (hperm.nodup_iff.mpr hnodup) x) hnone
            · rw [hrest hxb]
              split
              case isTrue =>
                refine iff_of_false (fun h => ?_) hnone
                rcases h with ⟨hfirst, -⟩ | h
                · exact hxb hfirst
                · exact (List.nodup_cons.mp horder').1 h.mem.2
              case isFalse => rfl
          · rw [hrest hne, hends hx, hends hy, htail hx]
            simp only [hx, hy, ne_eq, not_false_eq_true, true_and, false_and, false_or]
      · have hends : ∀ z, chainEnd movable (a :: b :: order) z = chainEnd movable (b :: order) z :=
          fun z => by rw [chainEnd, if_neg fun h => hlinked h.2]
        rw [if_neg hlinked, hrest hne, hends, hends]
        split
        case isTrue heq =>
          refine (htail fun hx => ?_).symm
          subst hx
          exact hnotin (mem_of_chainEnd_eq hne.symm heq.symm)
        case isFalse => rfl

end Moves
