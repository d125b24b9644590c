import Mathlib.Tactic.TypeStar
import Mathlib.Data.Bool.Basic
import Mathlib.Data.List.Forall2

/-!
# Editing the First Match

Lists in which the first entry that matches is edited or removed, as scripts do that search a list
and stop at what they were looking for. An upsert writes over that entry, or appends a new one if
there is none.

## Main results

- `FirstMatch.modify_modify`, `FirstMatch.modify_comm`: edits one after the other.
- `FirstMatch.find?_modify_self`, `FirstMatch.find?_modify_of_disjoint`: what is found after an edit.
- `FirstMatch.upsert_upsert`: an upsert that is repeated changes nothing.
- `FirstMatch.find?_eraseP_of_disjoint`: what is found after the first match was removed.
- `FirstMatch.filter_modify`, `FirstMatch.filter_upsert`: edits of some of the entries.
- `FirstMatch.forall₂_modify`, `FirstMatch.forall₂_upsert`, `FirstMatch.forall₂_eraseP`: edits of
  two lists whose entries are related.
-/

namespace FirstMatch

variable {α : Type*}

/-- The first match is edited. -/
def modify (p : α → Bool) (f : α → α) : List α → List α
  | [] => []
  | a :: l => if p a then f a :: l else a :: modify p f l

/-- The first match is edited, or a new entry is edited and appended. -/
def upsert (p : α → Bool) (f : α → α) (new : α) (l : List α) : List α :=
  if l.any p then modify p f l else l ++ [f new]

section Modify

variable {p q : α → Bool} {f g : α → α} {l : List α}

/-- Edits that agree on the first match are the same. -/
theorem modify_congr (h : ∀ a, l.find? p = some a → f a = g a) : modify p f l = modify p g l := by
  induction l with
  | nil => rfl
  | cons a l ih =>
    by_cases ha : p a = true
    · rw [modify, modify, if_pos ha, if_pos ha, h a (List.find?_cons_of_pos ha)]
    · rw [modify, modify, if_neg ha, if_neg ha,
        ih fun b hb => h b ((List.find?_cons_of_neg ha).trans hb)]

/-- An edit that does nothing to the first match does nothing. -/
theorem modify_eq_self (h : ∀ a, l.find? p = some a → f a = a) : modify p f l = l := by
  induction l with
  | nil => rfl
  | cons a l ih =>
    by_cases ha : p a = true
    · rw [modify, if_pos ha, h a (List.find?_cons_of_pos ha)]
    · rw [modify, if_neg ha, ih fun b hb => h b ((List.find?_cons_of_neg ha).trans hb)]

/-- Nothing is edited if there is no match. -/
theorem modify_of_any_eq_false (h : l.any p = false) : modify p f l = l :=
  modify_eq_self fun a ha => by
    have hp := List.any_eq_true.mpr ⟨a, List.mem_of_find?_eq_some ha, List.find?_some ha⟩
    exact absurd (h.symm.trans hp) Bool.false_ne_true

/-- The first match is found again if the edit keeps matches. -/
theorem find?_modify_self (hf : ∀ a, p a = true → p (f a) = true) :
    (modify p f l).find? p = (l.find? p).map f := by
  induction l with
  | nil => rfl
  | cons a l ih =>
    by_cases ha : p a = true
    · rw [modify, if_pos ha, List.find?_cons_of_pos (hf a ha), List.find?_cons_of_pos ha,
        Option.map_some]
    · rw [modify, if_neg ha, List.find?_cons_of_neg ha, List.find?_cons_of_neg ha, ih]

/-- An edit that keeps matches keeps whether there are any. -/
theorem any_modify_self (hf : ∀ a, p a = true → p (f a) = true) :
    (modify p f l).any p = l.any p := by
  rw [Bool.eq_iff_iff, List.any_eq_true, List.any_eq_true, ← List.find?_isSome, ← List.find?_isSome,
    find?_modify_self hf, Option.isSome_map]

/-- Two edits of the first match are one. -/
theorem modify_modify (hf : ∀ a, p a = true → p (f a) = true) :
    modify p g (modify p f l) = modify p (g ∘ f) l := by
  induction l with
  | nil => rfl
  | cons a l ih =>
    by_cases ha : p a = true
    · rw [modify, if_pos ha, modify, if_pos (hf a ha), modify, if_pos ha, Function.comp_apply]
    · rw [modify, if_neg ha, modify, if_neg ha, modify, if_neg ha, ih]

/-- The matches of another condition are found as before. -/
theorem find?_modify_of_disjoint (hpq : ∀ a, p a = true → q a = false)
    (hf : ∀ a, p a = true → q (f a) = false) : (modify p f l).find? q = l.find? q := by
  induction l with
  | nil => rfl
  | cons a l ih =>
    by_cases ha : p a = true
    · rw [modify, if_pos ha, List.find?_cons_of_neg (Bool.eq_false_iff.mp (hf a ha)),
        List.find?_cons_of_neg (Bool.eq_false_iff.mp (hpq a ha))]
    · rw [modify, if_neg ha, List.find?_cons, List.find?_cons, ih]

/-- The matches of another condition are kept, in their order. -/
theorem filter_modify_of_disjoint (hpq : ∀ a, p a = true → q a = false)
    (hf : ∀ a, p a = true → q (f a) = false) : (modify p f l).filter q = l.filter q := by
  induction l with
  | nil => rfl
  | cons a l ih =>
    by_cases ha : p a = true
    · rw [modify, if_pos ha, List.filter_cons_of_neg (Bool.eq_false_iff.mp (hf a ha)),
        List.filter_cons_of_neg (Bool.eq_false_iff.mp (hpq a ha))]
    · rw [modify, if_neg ha, List.filter_cons, List.filter_cons, ih]

/-- The first one of the matches is edited. -/
theorem filter_modify_self (hf : ∀ a, p a = true → p (f a) = true) :
    (modify p f l).filter p = (l.filter p).modifyHead f := by
  induction l with
  | nil => rfl
  | cons a l ih =>
    by_cases ha : p a = true
    · rw [modify, if_pos ha, List.filter_cons_of_pos (hf a ha), List.filter_cons_of_pos ha,
        List.modifyHead_cons]
    · rw [modify, if_neg ha, List.filter_cons_of_neg ha, List.filter_cons_of_neg ha, ih]

/-- Edits of the first matches of two conditions commute if each keeps what the other one sees. -/
theorem modify_comm (hpq : ∀ a, p a = true → q a = false)
    (hf : ∀ a, p a = true → q (f a) = false) (hg : ∀ a, q a = true → p (g a) = false) :
    modify q g (modify p f l) = modify p f (modify q g l) := by
  induction l with
  | nil => rfl
  | cons a l ih =>
    by_cases ha : p a = true
    · have hqf := Bool.eq_false_iff.mp (hf a ha)
      have hqa := Bool.eq_false_iff.mp (hpq a ha)
      rw [modify, if_pos ha, modify, if_neg hqf, modify, if_neg hqa, modify, if_pos ha]
    · by_cases hb : q a = true
      · have hpg := Bool.eq_false_iff.mp (hg a hb)
        rw [modify, if_neg ha, modify, if_pos hb, modify, if_pos hb, modify, if_neg hpg]
      · rw [modify, if_neg ha, modify, if_neg hb, modify, if_neg hb, modify, if_neg ha, ih]

end Modify

section Upsert

variable {p : α → Bool} {f : α → α} {new : α} {l : List α}

/-- An upsert that is repeated changes nothing, if the edit is one that does, keeps matches, and
makes the new entry a match. -/
theorem upsert_upsert (hf : ∀ a, p a = true → p (f a) = true) (hnew : p (f new) = true)
    (hidem : ∀ a, f (f a) = f a) : upsert p f new (upsert p f new l) = upsert p f new l := by
  by_cases hany : l.any p = true
  · rw [upsert, upsert, if_pos hany, if_pos ((any_modify_self hf).trans hany), modify_modify hf]
    exact modify_congr fun a _ => hidem a
  · have hsome : (l ++ [f new]).any p = true :=
      List.any_eq_true.mpr ⟨f new, List.mem_concat_self, hnew⟩
    have hnone : l.find? p = none := List.find?_eq_none.mpr fun a ha hp =>
      hany (List.any_eq_true.mpr ⟨a, ha, hp⟩)
    rw [upsert, upsert, if_neg hany, if_pos hsome]
    refine modify_eq_self fun a ha => ?_
    rw [List.find?_append, hnone, Option.none_or, List.find?_cons_of_pos hnew] at ha
    rw [← Option.some.inj ha, hidem]

/-- Without a match the new entry is appended. -/
theorem upsert_of_forall (h : ∀ a ∈ l, p a = false) : upsert p f new l = l ++ [f new] := by
  have hany : ¬ l.any p = true := fun hany => by
    obtain ⟨a, ha, hp⟩ := List.any_eq_true.mp hany
    exact Bool.false_ne_true ((h a ha).symm.trans hp)
  rw [upsert, if_neg hany]

end Upsert

section Erase

variable {p q : α → Bool} {l : List α}

/-- The matches of another condition are found as before the first match was removed. -/
theorem find?_eraseP_of_disjoint (hpq : ∀ a, p a = true → q a = false) :
    (l.eraseP p).find? q = l.find? q := by
  induction l with
  | nil => rfl
  | cons a l ih =>
    by_cases ha : p a = true
    · rw [List.eraseP_cons_of_pos ha, List.find?_cons_of_neg (Bool.eq_false_iff.mp (hpq a ha))]
    · rw [List.eraseP_cons_of_neg ha, List.find?_cons, List.find?_cons, ih]

/-- The first match is removed before a last entry that does not match. -/
theorem eraseP_concat {a : α} (ha : p a = false) : (l ++ [a]).eraseP p = l.eraseP p ++ [a] := by
  rw [List.eraseP_append]
  split
  case isTrue => rfl
  case isFalse hany =>
    have hnone : ∀ b ∈ l, ¬ p b = true := fun b hb hp => hany (List.any_eq_true.mpr ⟨b, hb, hp⟩)
    rw [List.eraseP_of_forall_not hnone, List.eraseP_cons_of_neg (Bool.eq_false_iff.mp ha),
      List.eraseP_nil]

/-- A last entry that is the only match is removed. -/
theorem eraseP_concat_of_forall {a : α} (h : ∀ b ∈ l, p b = false) (ha : p a = true) :
    (l ++ [a]).eraseP p = l := by
  rw [List.eraseP_append_right _ fun b hb => Bool.eq_false_iff.mp (h b hb),
    List.eraseP_cons_of_pos ha, List.append_nil]

/-- A last entry that is the only match is found. -/
theorem find?_concat_of_forall {a : α} (h : ∀ b ∈ l, p b = false) (ha : p a = true) :
    (l ++ [a]).find? p = some a := by
  rw [List.find?_append, List.find?_eq_none.mpr fun b hb => Bool.eq_false_iff.mp (h b hb),
    Option.none_or, List.find?_cons_of_pos ha]

/-- A last entry that does not match is not found. -/
theorem find?_concat {a : α} (ha : p a = false) : (l ++ [a]).find? p = l.find? p := by
  rw [List.find?_append, List.find?_cons_of_neg (Bool.eq_false_iff.mp ha), List.find?_nil,
    Option.or_none]

end Erase

section Filter

variable {p keep : α → Bool} {f : α → α} {new : α} {l : List α}

/-- An edit of one of the entries that are kept. -/
theorem filter_modify (hp : ∀ a, p a = true → keep a = true)
    (hf : ∀ a, p a = true → keep (f a) = true) :
    (modify p f l).filter keep = modify p f (l.filter keep) := by
  induction l with
  | nil => rfl
  | cons a l ih =>
    by_cases ha : p a = true
    · rw [modify, if_pos ha, List.filter_cons_of_pos (hf a ha), List.filter_cons_of_pos (hp a ha),
        modify, if_pos ha]
    · rw [modify, if_neg ha]
      by_cases hkeep : keep a = true
      · rw [List.filter_cons_of_pos hkeep, List.filter_cons_of_pos hkeep, modify, if_neg ha, ih]
      · rw [List.filter_cons_of_neg hkeep, List.filter_cons_of_neg hkeep, ih]

/-- Whether there is a match among the entries that are kept. -/
theorem any_filter (hp : ∀ a, p a = true → keep a = true) : (l.filter keep).any p = l.any p := by
  rw [List.any_filter]
  refine congrArg l.any (funext fun a => ?_)
  cases ha : p a with
  | false => rw [Bool.and_false]
  | true => rw [hp a ha, Bool.and_true]

/-- An upsert among the entries that are kept. -/
theorem filter_upsert (hp : ∀ a, p a = true → keep a = true)
    (hf : ∀ a, p a = true → keep (f a) = true) (hnew : keep (f new) = true) :
    (upsert p f new l).filter keep = upsert p f new (l.filter keep) := by
  rw [upsert, upsert, any_filter hp]
  split
  case isTrue => exact filter_modify hp hf
  case isFalse =>
    rw [List.filter_append, List.filter_cons_of_pos hnew, List.filter_nil]

/-- The first match is one of the entries that are kept. -/
theorem find?_filter (hp : ∀ a, p a = true → keep a = true) :
    (l.filter keep).find? p = l.find? p := by
  rw [List.find?_filter]
  refine congrArg (List.find? · l) (funext fun a => ?_)
  cases ha : p a with
  | false => simp
  | true => simp [hp a ha]

/-- The first match that is removed is one of the entries that are kept. -/
theorem filter_eraseP (hp : ∀ a, p a = true → keep a = true) :
    (l.eraseP p).filter keep = (l.filter keep).eraseP p := by
  induction l with
  | nil => rfl
  | cons a l ih =>
    by_cases ha : p a = true
    · rw [List.eraseP_cons_of_pos ha, List.filter_cons_of_pos (hp a ha), List.eraseP_cons_of_pos ha]
    · rw [List.eraseP_cons_of_neg ha]
      by_cases hkeep : keep a = true
      · rw [List.filter_cons_of_pos hkeep, List.filter_cons_of_pos hkeep,
          List.eraseP_cons_of_neg ha, ih]
      · rw [List.filter_cons_of_neg hkeep, List.filter_cons_of_neg hkeep, ih]

end Filter

section Related

variable {β : Type*} {R : α → β → Prop} {p : α → Bool} {q : β → Bool} {f : α → α} {g : β → β}
  {l : List α} {m : List β} (hpq : ∀ a b, R a b → p a = q b) (h : List.Forall₂ R l m)
include hpq h

/-- The first matches of related lists are edited. -/
theorem forall₂_modify (hf : ∀ a b, R a b → q b = true → R (f a) (g b)) :
    List.Forall₂ R (modify p f l) (modify q g m) := by
  induction h with
  | nil => exact List.Forall₂.nil
  | @cons a b l m hab hlm ih =>
    rw [modify, modify, hpq a b hab]
    split
    case isTrue hb => exact List.Forall₂.cons (hf a b hab hb) hlm
    case isFalse => exact List.Forall₂.cons hab ih

/-- Related lists have a match or none. -/
theorem any_eq : l.any p = m.any q := by
  induction h with
  | nil => rfl
  | cons hab _ ih => rw [List.any_cons, List.any_cons, hpq _ _ hab, ih]

/-- Upserts of related lists. -/
theorem forall₂_upsert {new : α} {new' : β} (hf : ∀ a b, R a b → q b = true → R (f a) (g b))
    (hnew : R (f new) (g new')) : List.Forall₂ R (upsert p f new l) (upsert q g new' m) := by
  rw [upsert, upsert, any_eq hpq h]
  split
  case isTrue => exact forall₂_modify hpq h hf
  case isFalse => exact List.rel_append h (List.Forall₂.cons hnew List.Forall₂.nil)

/-- The first matches of related lists are removed. -/
theorem forall₂_eraseP : List.Forall₂ R (l.eraseP p) (m.eraseP q) := by
  induction h with
  | nil => exact List.Forall₂.nil
  | @cons a b l m hab hlm ih =>
    rw [List.eraseP_cons, List.eraseP_cons, hpq a b hab]
    cases q b with
    | true => exact hlm
    | false => exact List.Forall₂.cons hab ih

omit hpq in
/-- What is the same for related entries is the same for the lists. -/
theorem map_eq_map {γ : Type*} {f : α → γ} {g : β → γ} (hfg : ∀ a b, R a b → f a = g b) :
    l.map f = m.map g := by
  induction h with
  | nil => rfl
  | cons hab _ ih => rw [List.map_cons, List.map_cons, hfg _ _ hab, ih]

omit hpq in
/-- Every entry is related to one. -/
theorem exists_related : ∀ a ∈ l, ∃ b, R a b := by
  induction h with
  | nil => exact List.forall_mem_nil _
  | @cons a b l m hab _ ih => exact List.forall_mem_cons.mpr ⟨⟨b, hab⟩, ih⟩

/-- In related lists no entry is found, or two that are related. -/
theorem find?_cases : l.find? p = none ∧ m.find? q = none ∨
    ∃ a b, l.find? p = some a ∧ m.find? q = some b ∧ R a b := by
  induction h with
  | nil => exact Or.inl ⟨rfl, rfl⟩
  | @cons a b l m hab hlm ih =>
    rw [List.find?_cons, List.find?_cons, hpq a b hab]
    cases q b with
    | true => exact Or.inr ⟨a, b, rfl, rfl, hab⟩
    | false => exact ih

end Related

end FirstMatch
