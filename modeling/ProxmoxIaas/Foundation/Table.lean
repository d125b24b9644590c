import Mathlib.Data.List.AList
import Mathlib.Data.Set.Insert

/-!
# Relational Tables

A table is a list of rows with pairwise distinct keys, in storage order. The order is
observable through `first?` only, which models a `SELECT` without `ORDER BY`; `toFront`
permutes the rows, so that results stated for every storage order can be proved.

Every write is described by what `get?` returns afterwards, so proofs about a table never
look at the list of its rows.

## Main results

- `Table.get?_mapRows`, `Table.get?_modify`, `Table.get?_deleteWhere`: what a write does to
  each row.
- `Table.first?_eq_some`, `Table.first?_eq_none_iff`: what a query without order returns.
- `Table.keysWhere_modify_of_true`, `Table.keysWhere_modify_of_false`: how a write changes the
  set of keys whose row satisfies a condition.
- `Table.column_insert`, `Table.column_modify`: a write updates a column at one key.
- `Serial.get?_add`: insertion under the next value of a sequence.
- `Serial.get?_addAllDistinct`, `Serial.exists_key_addAllDistinct`: a table after insertions that
  skip rows whose key is stored already.
-/

universe u v

/-- A table: rows with pairwise distinct keys, in storage order. -/
abbrev Table (κ : Type u) (α : Type v) := AList (fun _ : κ => α)

namespace Table

variable {κ : Type u} {α : Type v} [DecidableEq κ]

/-- The row stored under a key. -/
def get? (t : Table κ α) (k : κ) : Option α := t.lookup k

/-- Rewrite every row in place. -/
def mapRows {β : Type*} (t : Table κ α) (f : κ → α → β) : Table κ β :=
  ⟨t.entries.map fun r => ⟨r.1, f r.1 r.2⟩, by
    have hkeys : (t.entries.map fun r => (⟨r.1, f r.1 r.2⟩ : Σ _ : κ, β)).keys =
        t.entries.keys := by
      simp [List.keys, Function.comp_def]
    exact (congrArg List.Nodup hkeys).mpr t.nodupKeys⟩

/-- Rewrite the row stored under a key, if there is one. -/
def modify (t : Table κ α) (k : κ) (f : α → α) : Table κ α :=
  t.mapRows fun k' a => if k' = k then f a else a

/-- Delete the rows that satisfy a condition. -/
def deleteWhere (t : Table κ α) (p : κ → α → Bool) : Table κ α :=
  ⟨t.entries.filter fun r => !p r.1 r.2, t.nodupKeys.sublist List.filter_sublist⟩

/-- The rows that satisfy a condition, in storage order. -/
def select (t : Table κ α) (p : κ → α → Bool) : List (κ × α) :=
  (t.entries.filter fun r => p r.1 r.2).map fun r => (r.1, r.2)

/-- The first row in storage order that satisfies a condition. -/
def first? (t : Table κ α) (p : κ → α → Bool) : Option (κ × α) := (t.select p).head?

/-- Move a row to the front of the storage order. -/
def toFront (t : Table κ α) (k : κ) : Table κ α :=
  match t.get? k with
  | some a => t.insert k a
  | none => t

/-- The rows of `t.insert k a` with the new row in another place. -/
private theorem nodupKeys_of_perm {t : Table κ α} {k : κ} {a : α} {rows : List (Σ _ : κ, α)}
    (h : rows.Perm (⟨k, a⟩ :: (t.erase k).entries)) : rows.NodupKeys :=
  (List.perm_nodupKeys h).mpr (t.insert k a).nodupKeys

/-- Insert a row at the end of the storage order. -/
def append (t : Table κ α) (k : κ) (a : α) : Table κ α :=
  ⟨(t.erase k).entries ++ [⟨k, a⟩], nodupKeys_of_perm (List.perm_append_singleton _ _)⟩

/-- A row among others, in front of the row of a key. -/
def placeBefore (r : Σ _ : κ, α) (reference : κ) (rows : List (Σ _ : κ, α)) :
    List (Σ _ : κ, α) :=
  rows.takeWhile (fun r => r.1 ≠ reference) ++ r :: rows.dropWhile fun r => r.1 ≠ reference

/-- The row is added to the others. -/
theorem placeBefore_perm (r : Σ _ : κ, α) (reference : κ) (rows : List (Σ _ : κ, α)) :
    (placeBefore r reference rows).Perm (r :: rows) := by
  have hmiddle : (placeBefore r reference rows).Perm
      (r :: (rows.takeWhile (fun r => r.1 ≠ reference) ++
        rows.dropWhile fun r => r.1 ≠ reference)) := List.perm_middle
  rwa [List.takeWhile_append_dropWhile] at hmiddle

/-- Take a row out and put it back in front of another one. -/
def moveBefore (t : Table κ α) (k reference : κ) : Table κ α :=
  match t.get? k with
  | some a => ⟨placeBefore ⟨k, a⟩ reference (t.erase k).entries,
      nodupKeys_of_perm (placeBefore_perm _ _ _)⟩
  | none => t

/-- The keys whose row satisfies a condition. -/
def keysWhere (t : Table κ α) (p : α → Prop) : Set κ := {k | ∃ a, t.get? k = some a ∧ p a}

/-- The value of an optional column at each key. -/
def column {β : Type*} (t : Table κ α) (f : α → Option β) (k : κ) : Option β :=
  (t.get? k).bind f

/-- A key has a row exactly when the pair is among the entries. -/
theorem get?_eq_some_iff {t : Table κ α} {k : κ} {a : α} :
    t.get? k = some a ↔ (⟨k, a⟩ : Σ _ : κ, α) ∈ t.entries := by
  rw [← Option.mem_def]
  exact AList.mem_lookup_iff

@[simp]
theorem get?_empty (k : κ) : (∅ : Table κ α).get? k = none := rfl

@[simp]
theorem get?_insert (t : Table κ α) (k k' : κ) (a : α) :
    Table.get? (t.insert k a) k' = if k' = k then some a else t.get? k' := by
  unfold get?
  split
  case isTrue h => rw [h, AList.lookup_insert]
  case isFalse h => exact AList.lookup_insert_ne h

@[simp]
theorem get?_erase (t : Table κ α) (k k' : κ) :
    Table.get? (t.erase k) k' = if k' = k then none else t.get? k' := by
  unfold get?
  split
  case isTrue h => rw [h, AList.lookup_erase]
  case isFalse h => exact AList.lookup_erase_ne h

/-- The rows after an insertion are the new one and those under other keys. -/
theorem get?_insert_eq_some {t : Table κ α} {k k' : κ} {a a' : α} :
    Table.get? (t.insert k a) k' = some a' ↔ k' = k ∧ a = a' ∨ k' ≠ k ∧ t.get? k' = some a' := by
  rw [get?_insert]
  split
  case isTrue h => simp [h]
  case isFalse h => simp [h]

/-- The rows after a deletion are those under other keys. -/
theorem get?_erase_eq_some {t : Table κ α} {k k' : κ} {a : α} :
    Table.get? (t.erase k) k' = some a ↔ k' ≠ k ∧ t.get? k' = some a := by
  rw [get?_erase]
  split
  case isTrue h => simp [h]
  case isFalse h => simp [h]

@[simp]
theorem get?_mapRows {β : Type*} (t : Table κ α) (f : κ → α → β) (k : κ) :
    (t.mapRows f).get? k = (t.get? k).map (f k) :=
  List.dlookup_map₂ k

@[simp]
theorem get?_modify (t : Table κ α) (k k' : κ) (f : α → α) :
    (t.modify k f).get? k' = if k' = k then (t.get? k').map f else t.get? k' := by
  rw [modify, get?_mapRows]
  split
  case isTrue h => rfl
  case isFalse h => exact Option.map_id'

/-- A write neither adds nor removes rows. -/
theorem isSome_get?_modify (t : Table κ α) (k k' : κ) (f : α → α) :
    ((t.modify k f).get? k').isSome = (t.get? k').isSome := by
  rw [get?_modify]
  split
  case isTrue h => exact Option.isSome_map
  case isFalse h => rfl

@[simp]
theorem get?_deleteWhere (t : Table κ α) (p : κ → α → Bool) (k : κ) :
    (t.deleteWhere p).get? k = (t.get? k).filter fun a => !p k a := by
  ext a
  rw [Option.filter_eq_some_iff, get?_eq_some_iff, get?_eq_some_iff]
  exact List.mem_filter

@[simp]
theorem get?_toFront (t : Table κ α) (k k' : κ) : (t.toFront k).get? k' = t.get? k' := by
  unfold toFront
  split
  case h_1 a ha =>
    rw [get?_insert]
    split
    case isTrue h => rw [h, ha]
    case isFalse h => rfl
  case h_2 h => rfl

@[simp]
theorem get?_append (t : Table κ α) (k k' : κ) (a : α) :
    (t.append k a).get? k' = if k' = k then some a else t.get? k' := by
  rw [← get?_insert]
  exact AList.perm_lookup (List.perm_append_singleton _ _)

@[simp]
theorem get?_moveBefore (t : Table κ α) (k reference k' : κ) :
    (t.moveBefore k reference).get? k' = t.get? k' := by
  unfold moveBefore
  split
  case h_1 a ha =>
    have hinsert : Table.get? (t.insert k a) k' = t.get? k' := by
      rw [get?_insert]
      split
      case isTrue h => rw [h, ha]
      case isFalse => rfl
    rw [← hinsert]
    exact AList.perm_lookup (placeBefore_perm _ _ _)
  case h_2 => rfl

/-- A query finds a row at the front of the storage order, if it satisfies the condition. -/
theorem first?_toFront {t : Table κ α} {k : κ} {a : α} {p : κ → α → Bool}
    (hget : t.get? k = some a) (hp : p k a = true) : (t.toFront k).first? p = some (k, a) := by
  unfold toFront
  rw [hget]
  simp [first?, select, AList.insert, hp]

/-- The rows of a list, each under its key; the last one with a key stays. -/
def index (key : α → κ) (rows : List α) : Table κ α :=
  rows.foldl (fun t a => t.insert (key a) a) ∅

/-- A list whose rows have different keys is indexed as a whole. -/
theorem get?_index_eq_some_iff {key : α → κ} {rows : List α} {k : κ} {a : α}
    (h : ∀ a ∈ rows, ∀ b ∈ rows, key a = key b → a = b) :
    (index key rows).get? k = some a ↔ a ∈ rows ∧ key a = k := by
  have hfold : ∀ (rows : List α) (t : Table κ α),
      (∀ a ∈ rows, ∀ b ∈ rows, key a = key b → a = b) →
      ((rows.foldl (fun t a => t.insert (key a) a) t : Table κ α).get? k = some a ↔
        a ∈ rows ∧ key a = k ∨ t.get? k = some a ∧ ∀ b ∈ rows, key b ≠ k) := by
    intro rows
    induction rows with
    | nil => intro t _; simp
    | cons row rows ih =>
      intro t hkeys
      rw [List.foldl_cons, ih _ fun a ha b hb =>
        hkeys a (List.mem_cons_of_mem _ ha) b (List.mem_cons_of_mem _ hb)]
      rw [get?_insert_eq_some, List.mem_cons, List.forall_mem_cons]
      constructor
      · rintro (⟨hmem, hk⟩ | ⟨⟨hk, rfl⟩ | ⟨hk, hget⟩, hother⟩)
        · exact Or.inl ⟨Or.inr hmem, hk⟩
        · exact Or.inl ⟨Or.inl rfl, hk.symm⟩
        · exact Or.inr ⟨hget, Ne.symm hk, hother⟩
      · rintro (⟨rfl | hmem, hk⟩ | ⟨hget, hk, hother⟩)
        · by_cases hlater : ∃ b ∈ rows, key b = k
          · -- a later row with the key is the same row
            obtain ⟨b, hb, hkey⟩ := hlater
            have heq := hkeys a List.mem_cons_self b (List.mem_cons_of_mem _ hb)
              (hk.trans hkey.symm)
            exact Or.inl ⟨heq ▸ hb, hk⟩
          · exact Or.inr ⟨Or.inl ⟨hk.symm, rfl⟩, fun b hb hkey => hlater ⟨b, hb, hkey⟩⟩
        · exact Or.inl ⟨hmem, hk⟩
        · exact Or.inr ⟨Or.inr ⟨Ne.symm hk, hget⟩, hother⟩
  rw [index, hfold rows ∅ h]
  simp

/-- The selected rows are the stored rows that satisfy the condition. -/
theorem mem_select {t : Table κ α} {p : κ → α → Bool} {r : κ × α} :
    r ∈ t.select p ↔ t.get? r.1 = some r.2 ∧ p r.1 r.2 = true := by
  rw [get?_eq_some_iff, select, List.mem_map]
  constructor
  · rintro ⟨⟨k, a⟩, hmem, rfl⟩
    exact List.mem_filter.mp hmem
  · rintro ⟨hmem, hp⟩
    exact ⟨⟨r.1, r.2⟩, List.mem_filter.mpr ⟨hmem, hp⟩, rfl⟩

/-- Conditions that agree on the stored rows select the same rows. -/
theorem select_congr {t : Table κ α} {p q : κ → α → Bool}
    (h : ∀ k a, t.get? k = some a → p k a = q k a) : t.select p = t.select q := by
  unfold select
  rw [List.filter_congr fun r hr => h r.1 r.2 (get?_eq_some_iff.mpr hr)]

omit [DecidableEq κ] in
/-- The selected rows have different keys. -/
theorem nodup_keys_select (t : Table κ α) (p : κ → α → Bool) :
    ((t.select p).map Prod.fst).Nodup := by
  have hkeys : ((t.select p).map Prod.fst).Sublist t.keys := by
    simp only [select, List.map_map, AList.keys, List.keys]
    exact List.filter_sublist.map _
  exact hkeys.nodup t.nodupKeys

omit [DecidableEq κ] in
/-- The selection after a deletion. -/
theorem select_deleteWhere (t : Table κ α) (q p : κ → α → Bool) :
    (t.deleteWhere q).select p = t.select fun k a => !q k a && p k a := by
  simp only [select, deleteWhere, List.filter_filter, Bool.and_comm]

omit [DecidableEq κ] in
/-- The selection after every row is rewritten. -/
theorem select_mapRows {β : Type*} (t : Table κ α) (f : κ → α → β) (p : κ → β → Bool) :
    (t.mapRows f).select p = (t.select fun k a => p k (f k a)).map fun r => (r.1, f r.1 r.2) := by
  simp only [select, mapRows, List.filter_map, List.map_map, Function.comp_def]

/-- Nothing is selected when no row satisfies the condition. -/
theorem isEmpty_select_iff {t : Table κ α} {p : κ → α → Bool} :
    (t.select p).isEmpty = true ↔ ∀ k a, t.get? k = some a → p k a = false := by
  rw [List.isEmpty_iff, List.eq_nil_iff_forall_not_mem]
  simp only [Prod.forall, mem_select, not_and, Bool.not_eq_true]

/-- A write that would not change the row changes nothing. -/
theorem modify_eq_self {t : Table κ α} {k : κ} {f : α → α} (h : ∀ a, t.get? k = some a → f a = a) :
    t.modify k f = t := by
  have hrow : ∀ r ∈ t.entries, (⟨r.1, if r.1 = k then f r.2 else r.2⟩ : Σ _ : κ, α) = r := by
    rintro ⟨k', a⟩ hmem
    dsimp only
    split
    case isTrue hk =>
      subst hk
      rw [h a (get?_eq_some_iff.mpr hmem)]
    case isFalse => rfl
  refine AList.ext ?_
  exact (List.map_congr_left hrow).trans (List.map_id _)

/-- Two writes to a row are one. -/
theorem modify_modify (t : Table κ α) (k : κ) (f g : α → α) :
    (t.modify k f).modify k g = t.modify k (g ∘ f) := by
  refine AList.ext ?_
  show (t.entries.map _).map _ = t.entries.map _
  rw [List.map_map]
  refine List.map_congr_left fun r _ => ?_
  by_cases hr : r.1 = k
  · simp [hr]
  · simp [hr]

/-- Writes that agree on the row are the same. -/
theorem modify_congr {t : Table κ α} {k : κ} {f g : α → α}
    (h : ∀ a, t.get? k = some a → f a = g a) : t.modify k f = t.modify k g := by
  refine AList.ext (List.map_congr_left ?_)
  rintro ⟨k', a⟩ hmem
  dsimp only
  split
  case isTrue hk =>
    subst hk
    rw [h a (get?_eq_some_iff.mpr hmem)]
  case isFalse => rfl

/-- A write that does not decide the condition rewrites the selected rows. -/
theorem select_modify {t : Table κ α} {k : κ} {f : α → α} {p : κ → α → Bool}
    (hp : ∀ k' a, p k' (f a) = p k' a) :
    (t.modify k f).select p = (t.select p).map fun r => (r.1, if r.1 = k then f r.2 else r.2) := by
  have hsame : ∀ r : Σ _ : κ, α, p r.1 (if r.1 = k then f r.2 else r.2) = p r.1 r.2 := by
    intro r
    split
    case isTrue => exact hp _ _
    case isFalse => rfl
  simp only [select, modify, mapRows, List.filter_map, List.map_map, Function.comp_def, hsame]

/-- A new row at the end of the storage order is selected last. -/
theorem select_append {t : Table κ α} {k : κ} (h : t.get? k = none) (a : α)
    (p : κ → α → Bool) :
    (t.append k a).select p = t.select p ++ if p k a then [(k, a)] else [] := by
  have hkeys : k ∉ t.entries.keys := fun hk => by
    have hsome := AList.lookup_isSome.mpr (AList.mem_keys.mpr hk)
    rw [show t.lookup k = none from h] at hsome
    cases hsome
  have herase : (t.erase k).entries = t.entries := List.kerase_of_notMem_keys hkeys
  have hrows : (t.append k a).entries = t.entries ++ [⟨k, a⟩] :=
    congrArg (· ++ [(⟨k, a⟩ : Σ _ : κ, α)]) herase
  rw [select, hrows, List.filter_append, List.map_append, ← select]
  split
  case isTrue hp => simp [hp]
  case isFalse hp => simp [hp]

/-- A row found by a query is stored and satisfies its condition. -/
theorem first?_eq_some {t : Table κ α} {p : κ → α → Bool} {r : κ × α}
    (h : t.first? p = some r) : t.get? r.1 = some r.2 ∧ p r.1 r.2 = true :=
  mem_select.mp (List.mem_of_mem_head? h)

/-- A query finds nothing exactly when no stored row satisfies its condition. -/
theorem first?_eq_none_iff {t : Table κ α} {p : κ → α → Bool} :
    t.first? p = none ↔ ∀ k a, t.get? k = some a → p k a = false := by
  rw [first?, List.head?_eq_none_iff, List.eq_nil_iff_forall_not_mem]
  constructor
  · intro h k a hk
    by_contra hp
    exact h (k, a) (mem_select.mpr ⟨hk, by simpa using hp⟩)
  · intro h r hr
    obtain ⟨hk, hp⟩ := mem_select.mp hr
    rw [h _ _ hk] at hp
    exact Bool.false_ne_true hp

/-- Tables with the same rows have the same keys that satisfy a condition. -/
theorem keysWhere_congr {t t' : Table κ α} (h : t'.get? = t.get?) (p : α → Prop) :
    t'.keysWhere p = t.keysWhere p := by
  simp only [keysWhere, h]

/-- A key satisfies a condition when its row does. -/
theorem mem_keysWhere {t : Table κ α} {p : α → Prop} {k : κ} {a : α}
    (h : t.get? k = some a) : k ∈ t.keysWhere p ↔ p a := by
  simp [keysWhere, h]

/-- A write that does not touch the condition keeps the keys that satisfy it. -/
theorem keysWhere_modify_of_iff {t : Table κ α} {p : α → Prop} {k : κ} {f : α → α}
    (h : ∀ a, t.get? k = some a → (p (f a) ↔ p a)) :
    (t.modify k f).keysWhere p = t.keysWhere p := by
  ext k'
  cases hk : t.get? k' with
  | none => simp [keysWhere, hk]
  | some a =>
    by_cases hkk : k' = k
    · subst hkk
      simp [keysWhere, hk, h a hk]
    · simp [keysWhere, hk, hkk]

/-- A write keeps the keys that have a row. -/
theorem keysWhere_modify_any (t : Table κ α) (k : κ) (f : α → α) :
    ((t.modify k f).keysWhere fun _ => True) = t.keysWhere fun _ => True :=
  keysWhere_modify_of_iff (p := fun _ => True) fun _ _ => Iff.rfl

/-- A write that makes the condition true of a stored row adds its key. -/
theorem keysWhere_modify_of_true {t : Table κ α} {p : α → Prop} {k : κ} {f : α → α}
    (hk : (t.get? k).isSome) (h : ∀ a, p (f a)) :
    (t.modify k f).keysWhere p = insert k (t.keysWhere p) := by
  ext k'
  obtain ⟨a, ha⟩ := Option.isSome_iff_exists.mp hk
  by_cases hkk : k' = k
  · subst hkk
    simp [keysWhere, ha, h a]
  · simp [keysWhere, hkk]

/-- A write that makes the condition false removes its key. -/
theorem keysWhere_modify_of_false {t : Table κ α} {p : α → Prop} {k : κ} {f : α → α}
    (h : ∀ a, ¬ p (f a)) : (t.modify k f).keysWhere p = t.keysWhere p \ {k} := by
  ext k'
  by_cases hkk : k' = k
  · subst hkk
    simp [keysWhere, h]
  · simp [keysWhere, hkk]

variable {β : Type*}

/-- The value of a column at the key of a stored row. -/
theorem column_of_get? {t : Table κ α} {f : α → Option β} {k : κ} {a : α}
    (h : t.get? k = some a) : t.column f k = f a := by
  rw [column, h, Option.bind_some]

/-- A column has a value at a key when the row stored there has. -/
theorem column_eq_some_iff {t : Table κ α} {f : α → Option β} {k : κ} {b : β} :
    t.column f k = some b ↔ ∃ a, t.get? k = some a ∧ f a = some b :=
  Option.bind_eq_some_iff

/-- Tables with the same rows have the same columns. -/
theorem column_congr {t t' : Table κ α} (h : t'.get? = t.get?) (f : α → Option β) :
    t'.column f = t.column f :=
  funext fun k => congrArg (Option.bind · f) (congrFun h k)

/-- Inserting a row updates a column at its key. -/
theorem column_insert (t : Table κ α) (f : α → Option β) (k : κ) (a : α) :
    Table.column (t.insert k a) f = Function.update (t.column f) k (f a) := by
  ext1 k'
  by_cases hkk : k' = k
  · subst hkk
    simp [column]
  · simp [column, hkk]

/-- Rewriting a row updates a column at its key. -/
theorem column_modify (t : Table κ α) (f : α → Option β) (k : κ) (g : α → α) :
    (t.modify k g).column f = Function.update (t.column f) k ((t.get? k).bind (f ∘ g)) := by
  ext1 k'
  by_cases hkk : k' = k
  · subst hkk
    simp [column, Option.bind_map]
  · simp [column, hkk]

/-- Rewriting a row without touching a column keeps the column. -/
theorem column_modify_of_eq {t : Table κ α} {f : α → Option β} {k : κ} {g : α → α}
    (h : ∀ a, t.get? k = some a → f (g a) = f a) : (t.modify k g).column f = t.column f := by
  have hcol : (t.get? k).bind (f ∘ g) = t.column f k := by
    rw [column]
    cases hk : t.get? k with
    | none => rfl
    | some a => exact h a hk
  rw [column_modify, hcol, Function.update_eq_self]

/-- The number of rows that satisfy a condition. -/
def count (t : Table κ α) (p : α → Bool) : ℕ := t.entries.countP fun r => p r.2

/-- Tables with the same rows have the same numbers of rows. -/
theorem count_congr {t t' : Table κ α} (h : t'.get? = t.get?) (p : α → Bool) :
    t'.count p = t.count p := by
  refine List.Perm.countP_eq _ (List.lookup_ext t'.nodupKeys t.nodupKeys fun k a => ?_)
  rw [show t'.entries.dlookup k = t.entries.dlookup k from congrFun h k]

/-- Rewriting a row replaces it in its place. -/
theorem entries_modify {t : Table κ α} {k : κ} {a : α} (h : t.get? k = some a) (f : α → α) :
    ∃ before after, t.entries = before ++ ⟨k, a⟩ :: after ∧
      (t.modify k f).entries = before ++ ⟨k, f a⟩ :: after := by
  obtain ⟨before, after, hsplit⟩ := List.append_of_mem (get?_eq_some_iff.mp h)
  have hkeys := t.nodupKeys
  rw [List.NodupKeys, hsplit, List.keys, List.map_append, List.map_cons,
    List.nodup_append] at hkeys
  obtain ⟨-, hafter, hbefore⟩ := hkeys
  -- The rows around the one that is rewritten have other keys.
  have hsame : ∀ rows : List (Σ _ : κ, α), (∀ r ∈ rows, r.1 ≠ k) →
      (rows.map fun r => (⟨r.1, if r.1 = k then f r.2 else r.2⟩ : Σ _ : κ, α)) = rows := by
    intro rows hrows
    conv_rhs => rw [← List.map_id rows]
    refine List.map_congr_left fun r hr => ?_
    rw [if_neg (hrows r hr), id]
  refine ⟨before, after, hsplit, ?_⟩
  change t.entries.map (fun r => (⟨r.1, if r.1 = k then f r.2 else r.2⟩ : Σ _ : κ, α)) = _
  rw [hsplit, List.map_append, List.map_cons, if_pos rfl,
    hsame before fun r hr => hbefore _ (List.mem_map_of_mem hr) _ List.mem_cons_self,
    hsame after fun r hr heq =>
      (List.nodup_cons.mp hafter).1 (List.mem_map.mpr ⟨r, hr, heq⟩)]

/-- A row is counted if it satisfies the condition. -/
theorem count_modify {t : Table κ α} {k : κ} {a : α} (h : t.get? k = some a) (f : α → α)
    (p : α → Bool) :
    (t.modify k f).count p + (p a).toNat = t.count p + (p (f a)).toNat := by
  obtain ⟨before, after, hsplit, hentries⟩ := entries_modify h f
  simp only [count, hentries, hsplit, List.countP_append, List.countP_cons]
  cases p a <;> cases p (f a) <;> simp <;> omega

/-- Rewriting a row so that it satisfies the condition as before keeps the number. -/
theorem count_modify_of_eq {t : Table κ α} {k : κ} {f : α → α} {p : α → Bool}
    (h : ∀ a, t.get? k = some a → p (f a) = p a) : (t.modify k f).count p = t.count p := by
  cases hget : t.get? k with
  | none =>
    refine count_congr (funext fun k' => ?_) p
    rw [get?_modify]
    split
    case isTrue heq => rw [heq, hget]; rfl
    case isFalse => rfl
  | some a =>
    have := count_modify hget f p
    rw [h a hget] at this
    omega

/-- Deleting rows that do not satisfy the condition keeps the number. -/
theorem count_deleteWhere {t : Table κ α} {q : κ → α → Bool} {p : α → Bool}
    (h : ∀ k a, t.get? k = some a → q k a = true → p a = false) :
    (t.deleteWhere q).count p = t.count p := by
  rw [count, deleteWhere, List.countP_filter, count]
  refine List.countP_congr fun r hr => ?_
  have := h r.1 r.2 (get?_eq_some_iff.mpr hr)
  cases hq : q r.1 r.2 <;> simp_all

end Table

/-- A table whose keys are drawn from a sequence: keys are positive, and below the next
value of the sequence. -/
structure Serial (α : Type v) where
  /-- The stored rows. -/
  rows : Table ℕ α
  /-- The next value of the sequence. -/
  next : ℕ
  /-- The sequence starts at one. -/
  next_pos : 0 < next
  /-- Every key was drawn from the sequence. -/
  key_bound : ∀ k ∈ rows.keys, 0 < k ∧ k < next

namespace Serial

variable {α : Type v}

/-- The row stored under a key. -/
def get? (t : Serial α) (k : ℕ) : Option α := t.rows.get? k

/-- The first row in storage order that satisfies a condition. -/
def first? (t : Serial α) (p : ℕ → α → Bool) : Option (ℕ × α) := t.rows.first? p

/-- The rows that satisfy a condition, in storage order. -/
def select (t : Serial α) (p : ℕ → α → Bool) : List (ℕ × α) := t.rows.select p

/-- The rows that satisfy a condition, each under its key. -/
def rowsWhere (t : Serial α) (p : α → Bool) (k : ℕ) : Option α := (t.get? k).filter p

/-- The value of an optional column at each key. -/
def column {β : Type*} (t : Serial α) (f : α → Option β) : ℕ → Option β := t.rows.column f

/-- A key with a row was drawn from the sequence. -/
theorem bound_of_get? {t : Serial α} {k : ℕ} {a : α} (h : t.get? k = some a) :
    0 < k ∧ k < t.next :=
  t.key_bound k (List.mem_keys_of_mem (Table.get?_eq_some_iff.mp h))

/-- The empty table, whose sequence is at its start. -/
def empty : Serial α where
  rows := ∅
  next := 1
  next_pos := Nat.one_pos
  key_bound := by simp

/-- Insert a row under the next value of the sequence. -/
def add (t : Serial α) (a : α) : Serial α where
  rows := t.rows.insert t.next a
  next := t.next + 1
  next_pos := Nat.succ_pos _
  key_bound := by
    intro k hk
    rw [← AList.mem_keys, AList.mem_insert] at hk
    rcases hk with rfl | hk
    · exact ⟨t.next_pos, Nat.lt_succ_self _⟩
    · obtain ⟨hpos, hlt⟩ := t.key_bound k hk
      exact ⟨hpos, Nat.lt_succ_of_lt hlt⟩

/-- Rewrite every row in place. -/
def mapRows (t : Serial α) (f : ℕ → α → α) : Serial α where
  rows := t.rows.mapRows f
  next := t.next
  next_pos := t.next_pos
  key_bound := by
    intro k' hk'
    refine t.key_bound k' ?_
    rw [← AList.mem_keys, ← AList.lookup_isSome] at hk' ⊢
    have hrow : (t.rows.mapRows f).lookup k' = (t.rows.lookup k').map (f k') :=
      Table.get?_mapRows t.rows f k'
    rwa [hrow, Option.isSome_map] at hk'

/-- The table of other rows under the same keys. -/
def map {β : Type*} (t : Serial α) (f : α → β) : Serial β where
  rows := t.rows.mapRows fun _ => f
  next := t.next
  next_pos := t.next_pos
  key_bound := by
    intro k' hk'
    refine t.key_bound k' ?_
    rw [← AList.mem_keys, ← AList.lookup_isSome] at hk' ⊢
    have hrow : (t.rows.mapRows fun _ => f).lookup k' = (t.rows.lookup k').map f :=
      Table.get?_mapRows t.rows (fun _ => f) k'
    rwa [hrow, Option.isSome_map] at hk'

/-- Rewrite the row stored under a key, if there is one. -/
def modify (t : Serial α) (k : ℕ) (f : α → α) : Serial α where
  rows := t.rows.modify k f
  next := t.next
  next_pos := t.next_pos
  key_bound := by
    intro k' hk'
    refine t.key_bound k' ?_
    rw [← AList.mem_keys, ← AList.lookup_isSome] at hk' ⊢
    exact (Table.isSome_get?_modify t.rows k k' f) ▸ hk'

/-- Delete the rows that satisfy a condition. -/
def deleteWhere (t : Serial α) (p : ℕ → α → Bool) : Serial α where
  rows := t.rows.deleteWhere p
  next := t.next
  next_pos := t.next_pos
  key_bound := fun k hk =>
    t.key_bound k ((List.filter_sublist.map Sigma.fst).subset hk)

/-- Move a row to the front of the storage order. -/
def toFront (t : Serial α) (k : ℕ) : Serial α where
  rows := t.rows.toFront k
  next := t.next
  next_pos := t.next_pos
  key_bound := by
    intro k' hk'
    refine t.key_bound k' ?_
    rw [← AList.mem_keys, ← AList.lookup_isSome] at hk' ⊢
    exact (congrArg Option.isSome (Table.get?_toFront t.rows k k')) ▸ hk'

/-- No row is stored under the next value of the sequence. -/
theorem get?_next (t : Serial α) : t.get? t.next = none := by
  cases h : t.get? t.next with
  | none => rfl
  | some a => exact absurd (bound_of_get? h).2 (Nat.lt_irrefl _)

@[simp]
theorem get?_empty (k : ℕ) : (empty : Serial α).get? k = none := rfl

@[simp]
theorem get?_add (t : Serial α) (a : α) (k : ℕ) :
    (t.add a).get? k = if k = t.next then some a else t.get? k :=
  Table.get?_insert t.rows t.next k a

/-- Rows that are inserted one after the other. -/
theorem get?_foldl_add {t : Serial α} {rows : List α} {k : ℕ} {a : α}
    (h : (rows.foldl add t).get? k = some a) : t.get? k = some a ∨ (t.next ≤ k ∧ a ∈ rows) := by
  induction rows generalizing t with
  | nil => exact Or.inl h
  | cons row rows ih =>
    rcases ih h with hold | ⟨hnext, hmem⟩
    · rw [get?_add] at hold
      split at hold
      case isTrue hkey =>
        obtain rfl := Option.some.inj hold
        exact Or.inr ⟨hkey.ge, List.mem_cons_self⟩
      case isFalse => exact Or.inl hold
    · exact Or.inr ⟨Nat.le_of_succ_le hnext, List.mem_cons_of_mem _ hmem⟩

/-- Insertions keep the rows that are stored. -/
theorem get?_foldl_add_of_get? {t : Serial α} {k : ℕ} {a : α} (h : t.get? k = some a)
    (rows : List α) : (rows.foldl add t).get? k = some a := by
  induction rows generalizing t with
  | nil => exact h
  | cons row rows ih =>
    refine ih ?_
    rw [get?_add, if_neg (bound_of_get? h).2.ne, h]

/-- Every inserted row is stored. -/
theorem exists_get?_foldl_add {rows : List α} {a : α} (h : a ∈ rows) (t : Serial α) :
    ∃ k, (rows.foldl add t).get? k = some a := by
  induction rows generalizing t with
  | nil => cases h
  | cons row rows ih =>
    rcases List.mem_cons.mp h with rfl | hmem
    · refine ⟨t.next, get?_foldl_add_of_get? ?_ rows⟩
      rw [get?_add, if_pos rfl]
    · exact ih hmem (t.add row)

/-- The selection after a deletion. -/
theorem select_deleteWhere (t : Serial α) (q p : ℕ → α → Bool) :
    (t.deleteWhere q).select p = t.select fun k a => !q k a && p k a :=
  Table.select_deleteWhere t.rows q p

/-- The selection after every row is rewritten. -/
theorem select_mapRows (t : Serial α) (f : ℕ → α → α) (p : ℕ → α → Bool) :
    (t.mapRows f).select p = (t.select fun k a => p k (f k a)).map fun r => (r.1, f r.1 r.2) :=
  Table.select_mapRows t.rows f p

/-- A write that does not decide the condition rewrites the selected rows. -/
theorem select_modify {t : Serial α} {k : ℕ} {f : α → α} {p : ℕ → α → Bool}
    (hp : ∀ k' a, p k' (f a) = p k' a) :
    (t.modify k f).select p = (t.select p).map fun r => (r.1, if r.1 = k then f r.2 else r.2) :=
  Table.select_modify hp

/-- Conditions that agree on the stored rows select the same rows. -/
theorem select_congr {t : Serial α} {p q : ℕ → α → Bool}
    (h : ∀ k a, t.get? k = some a → p k a = q k a) : t.select p = t.select q :=
  Table.select_congr h

/-- Rows that are inserted are selected next to the other ones. -/
theorem select_foldl_add {t : Serial α} {rows : List α} {p : ℕ → α → Bool} {q : α → Bool}
    (h : ∀ k a, t.next ≤ k → p k a = q a) :
    (((rows.foldl add t).select p).map Prod.snd).Perm
      ((t.select p).map Prod.snd ++ rows.filter q) := by
  induction rows generalizing t with
  | nil => simp
  | cons row rows ih =>
    have hkey : t.next ∉ t.rows := by
      rw [← AList.lookup_eq_none]
      exact t.get?_next
    have hadd : (t.add row).select p =
        (if q row then [(t.next, row)] else []) ++ t.select p := by
      rw [← h t.next row (Nat.le_refl _)]
      simp only [select, Table.select, add, AList.entries_insert_of_notMem hkey, List.filter_cons]
      cases p t.next row <;> simp
    refine (ih fun k a hk => h k a (Nat.le_of_succ_le hk)).trans ?_
    rw [hadd, List.filter_cons]
    cases q row with
    | false => simp
    | true =>
      show (row :: (t.select p).map Prod.snd ++ rows.filter q).Perm
        ((t.select p).map Prod.snd ++ row :: rows.filter q)
      exact List.perm_middle.symm

/-- Insertions move the sequence on. -/
theorem next_foldl_add (t : Serial α) (rows : List α) : t.next ≤ (rows.foldl add t).next := by
  induction rows generalizing t with
  | nil => exact Nat.le_refl _
  | cons row rows ih => exact (Nat.le_succ _).trans (ih (t.add row))

@[simp]
theorem get?_mapRows (t : Serial α) (f : ℕ → α → α) (k : ℕ) :
    (t.mapRows f).get? k = (t.get? k).map (f k) :=
  Table.get?_mapRows t.rows f k

@[simp]
theorem get?_modify (t : Serial α) (k k' : ℕ) (f : α → α) :
    (t.modify k f).get? k' = if k' = k then (t.get? k').map f else t.get? k' :=
  Table.get?_modify t.rows k k' f

/-- Two writes to a row are one. -/
theorem modify_modify (t : Serial α) (k : ℕ) (f g : α → α) :
    (t.modify k f).modify k g = t.modify k (g ∘ f) := by
  unfold modify
  congr 1
  exact Table.modify_modify t.rows k f g

theorem isSome_get?_modify (t : Serial α) (k k' : ℕ) (f : α → α) :
    ((t.modify k f).get? k').isSome = (t.get? k').isSome :=
  Table.isSome_get?_modify t.rows k k' f

@[simp]
theorem get?_deleteWhere (t : Serial α) (p : ℕ → α → Bool) (k : ℕ) :
    (t.deleteWhere p).get? k = (t.get? k).filter fun a => !p k a :=
  Table.get?_deleteWhere t.rows p k

@[simp]
theorem get?_toFront (t : Serial α) (k k' : ℕ) : (t.toFront k).get? k' = t.get? k' :=
  Table.get?_toFront t.rows k k'

/-- A row that satisfies a condition. -/
theorem rowsWhere_eq_some_iff {t : Serial α} {p : α → Bool} {k : ℕ} {a : α} :
    t.rowsWhere p k = some a ↔ t.get? k = some a ∧ p a = true :=
  Option.filter_eq_some_iff

/-- Inserting a row that satisfies a condition adds it to the rows that do. -/
theorem rowsWhere_add {t : Serial α} {p : α → Bool} {a : α} (h : p a = true) (k : ℕ) :
    (t.add a).rowsWhere p k = if k = t.next then some a else t.rowsWhere p k := by
  rw [rowsWhere, rowsWhere, get?_add]
  split
  case isTrue => rw [Option.filter_some, if_pos h]
  case isFalse => rfl

/-- Rewriting a row, which changes nothing about a condition. -/
theorem rowsWhere_modify {t : Serial α} {p : α → Bool} {f : α → α} (h : ∀ a, p (f a) = p a)
    (k k' : ℕ) : (t.modify k f).rowsWhere p k' =
      if k' = k then (t.rowsWhere p k').map f else t.rowsWhere p k' := by
  rw [rowsWhere, rowsWhere, get?_modify]
  split
  case isTrue =>
    cases t.get? k' with
    | none => rfl
    | some a => cases hp : p a <;> simp [Option.filter_some, h, hp]
  case isFalse => rfl

/-- Deleting rows deletes them from the rows that satisfy a condition. -/
theorem rowsWhere_deleteWhere (t : Serial α) (p : α → Bool) (q : ℕ → α → Bool) (k : ℕ) :
    (t.deleteWhere q).rowsWhere p k = (t.rowsWhere p k).filter fun a => !q k a := by
  rw [rowsWhere, rowsWhere, get?_deleteWhere, Option.filter_filter, Option.filter_filter]
  simp only [Bool.and_comm]

/-- Inserting a row that does not satisfy a condition keeps the rows that do. -/
theorem rowsWhere_add_of_not {t : Serial α} {p : α → Bool} {a : α} (h : p a = false) :
    (t.add a).rowsWhere p = t.rowsWhere p := by
  ext1 k
  rw [rowsWhere, rowsWhere, get?_add]
  split
  case isTrue hk => rw [hk, get?_next, Option.filter_some, h, Option.filter_none]; rfl
  case isFalse => rfl

/-- Rewriting a row that does not satisfy a condition, and still does not, keeps the rows that
do. -/
theorem rowsWhere_modify_of_not {t : Serial α} {p : α → Bool} {k : ℕ} {f : α → α}
    (h : ∀ a, t.get? k = some a → p a = false ∧ p (f a) = false) :
    (t.modify k f).rowsWhere p = t.rowsWhere p := by
  ext1 k'
  rw [rowsWhere, rowsWhere, get?_modify]
  split
  case isTrue hk =>
    cases hget : t.get? k' with
    | none => rfl
    | some a =>
      obtain ⟨hold, hnew⟩ := h a (hk ▸ hget)
      rw [Option.map_some, Option.filter_some, Option.filter_some, hold, hnew]
      rfl
  case isFalse => rfl

/-- Deleting rows that do not satisfy a condition keeps the rows that do. -/
theorem rowsWhere_deleteWhere_of_not {t : Serial α} {p : α → Bool} {q : ℕ → α → Bool}
    (h : ∀ k a, t.get? k = some a → q k a = true → p a = false) :
    (t.deleteWhere q).rowsWhere p = t.rowsWhere p := by
  ext1 k
  rw [rowsWhere, rowsWhere, get?_deleteWhere]
  cases hget : t.get? k with
  | none => rfl
  | some a =>
    cases hq : q k a with
    | true => simp [Option.filter_some, hq, h k a hget hq]
    | false => simp [Option.filter_some, hq]

/-- A row found by a query is stored and satisfies its condition. -/
theorem first?_eq_some {t : Serial α} {p : ℕ → α → Bool} {r : ℕ × α}
    (h : t.first? p = some r) : t.get? r.1 = some r.2 ∧ p r.1 r.2 = true :=
  Table.first?_eq_some h

/-- A query finds nothing exactly when no stored row satisfies its condition. -/
theorem first?_eq_none_iff {t : Serial α} {p : ℕ → α → Bool} :
    t.first? p = none ↔ ∀ k a, t.get? k = some a → p k a = false :=
  Table.first?_eq_none_iff

/-- A statement about every stored row is one about the entries. -/
theorem forall_get?_iff {t : Serial α} {P : ℕ → α → Prop} :
    (∀ k a, t.get? k = some a → P k a) ↔ ∀ r ∈ t.rows.entries, P r.1 r.2 := by
  constructor
  · rintro h ⟨k, a⟩ hmem
    exact h k a (Table.get?_eq_some_iff.mpr hmem)
  · intro h k a hget
    exact h ⟨k, a⟩ (Table.get?_eq_some_iff.mp hget)

/-- The value of a column at the key of a stored row. -/
theorem column_of_get? {β : Type*} {t : Serial α} {f : α → Option β} {k : ℕ} {a : α}
    (h : t.get? k = some a) : t.column f k = f a :=
  Table.column_of_get? h

/-- A column has a value at a key when the row stored there has. -/
theorem column_eq_some_iff {β : Type*} {t : Serial α} {f : α → Option β} {k : ℕ} {b : β} :
    t.column f k = some b ↔ ∃ a, t.get? k = some a ∧ f a = some b :=
  Table.column_eq_some_iff

/-- The number of rows that satisfy a condition. -/
def count (t : Serial α) (p : α → Bool) : ℕ := t.rows.count p

/-- Tables with the same rows have the same numbers of rows. -/
theorem count_congr {t t' : Serial α} (h : t'.get? = t.get?) (p : α → Bool) :
    t'.count p = t.count p :=
  Table.count_congr h p

/-- A row is counted if it satisfies the condition. -/
theorem count_modify {t : Serial α} {k : ℕ} {a : α} (h : t.get? k = some a) (f : α → α)
    (p : α → Bool) :
    (t.modify k f).count p + (p a).toNat = t.count p + (p (f a)).toNat :=
  Table.count_modify h f p

/-- Rewriting a row so that it satisfies the condition as before keeps the number. -/
theorem count_modify_of_eq {t : Serial α} {k : ℕ} {f : α → α} {p : α → Bool}
    (h : ∀ a, t.get? k = some a → p (f a) = p a) : (t.modify k f).count p = t.count p :=
  Table.count_modify_of_eq h

/-- Deleting rows that do not satisfy the condition keeps the number. -/
theorem count_deleteWhere {t : Serial α} {q : ℕ → α → Bool} {p : α → Bool}
    (h : ∀ k a, t.get? k = some a → q k a = true → p a = false) :
    (t.deleteWhere q).count p = t.count p :=
  Table.count_deleteWhere h

/-- No row is counted if none satisfies the condition. -/
theorem count_eq_zero_iff {t : Serial α} {p : α → Bool} :
    t.count p = 0 ↔ ∀ k a, t.get? k = some a → p a = false := by
  rw [forall_get?_iff, count, Table.count, List.countP_eq_zero]
  simp only [Bool.not_eq_true]

/-- A row that is inserted is counted if it satisfies the condition. -/
theorem count_add (t : Serial α) (a : α) (p : α → Bool) :
    (t.add a).count p = t.count p + (p a).toNat := by
  have hkey : t.next ∉ t.rows := by
    rw [← AList.lookup_eq_none]
    exact t.get?_next
  simp only [count, Table.count, add, AList.entries_insert_of_notMem hkey, List.countP_cons]
  cases p a <;> simp

/-- Tables with the same rows have the same columns. -/
theorem column_congr {β : Type*} {t t' : Serial α} (h : t'.get? = t.get?)
    (f : α → Option β) : t'.column f = t.column f :=
  Table.column_congr h f

/-- Before an insertion no column has a value at the next value of the sequence. -/
theorem column_next {β : Type*} (t : Serial α) (f : α → Option β) :
    t.column f t.next = none :=
  congrArg (Option.bind · f) t.get?_next

/-- Inserting a row updates a column at the next value of the sequence. -/
theorem column_add {β : Type*} (t : Serial α) (f : α → Option β) (a : α) :
    (t.add a).column f = Function.update (t.column f) t.next (f a) :=
  Table.column_insert t.rows f t.next a

/-- Rewriting a row updates a column at its key. -/
theorem column_modify {β : Type*} (t : Serial α) (f : α → Option β) (k : ℕ) (g : α → α) :
    (t.modify k g).column f = Function.update (t.column f) k ((t.get? k).bind (f ∘ g)) :=
  Table.column_modify t.rows f k g

/-- Rewriting a row without touching a column keeps the column. -/
theorem column_modify_of_eq {β : Type*} {t : Serial α} {f : α → Option β} {k : ℕ} {g : α → α}
    (h : ∀ a, t.get? k = some a → f (g a) = f a) : (t.modify k g).column f = t.column f :=
  Table.column_modify_of_eq h

/-- Deleting the row under a key clears a column there. -/
theorem column_deleteWhere_key {β : Type*} (t : Serial α) (f : α → Option β) (k : ℕ) :
    (t.deleteWhere fun id _ => id = k).column f = Function.update (t.column f) k none := by
  funext k'
  change ((t.deleteWhere fun id _ => id = k).get? k').bind f = _
  rw [get?_deleteWhere]
  by_cases hk : k' = k
  · rw [hk, Function.update_self]
    cases t.get? k <;> simp
  · rw [Function.update_of_ne hk]
    change _ = (t.get? k').bind f
    cases t.get? k' with
    | none => rfl
    | some a => rw [Option.filter_some, if_pos (by simp [hk])]

variable {β : Type*} [DecidableEq β] {key : α → β}

/-- Insert a row unless a stored row has the same key. -/
def addDistinct (t : Serial α) (key : α → β) (a : α) : Serial α :=
  if (t.first? fun _ row => key row = key a).isSome then t else t.add a

/-- Insert rows one after the other, each unless a stored row has its key. -/
def addAllDistinct (t : Serial α) (key : α → β) : List α → Serial α
  | [] => t
  | a :: rows => addAllDistinct (t.addDistinct key a) key rows

/-- A conditional insertion stores the row under the next value of the sequence, or leaves a
row with the same key in place. -/
theorem addDistinct_cases (t : Serial α) (key : α → β) (a : α) :
    (t.addDistinct key a = t ∧ ∃ k b, t.get? k = some b ∧ key b = key a) ∨
      (t.addDistinct key a = t.add a ∧ ∀ k b, t.get? k = some b → key b ≠ key a) := by
  unfold addDistinct
  split
  case isTrue hsome =>
    obtain ⟨⟨k, b⟩, hfirst⟩ := Option.isSome_iff_exists.mp hsome
    obtain ⟨hget, hkey⟩ := first?_eq_some hfirst
    exact Or.inl ⟨rfl, k, b, hget, of_decide_eq_true hkey⟩
  case isFalse hnone =>
    refine Or.inr ⟨rfl, fun k b hget hkey => ?_⟩
    rw [Option.not_isSome_iff_eq_none, first?_eq_none_iff] at hnone
    exact absurd (hnone k b hget) (by simp [hkey])

/-- The rows of a seeded table were stored before or are among the inserted ones. -/
theorem get?_addAllDistinct {t : Serial α} {rows : List α} {k : ℕ} {a : α}
    (h : (t.addAllDistinct key rows).get? k = some a) : t.get? k = some a ∨ a ∈ rows := by
  induction rows generalizing t with
  | nil => exact Or.inl h
  | cons row rows ih =>
    rcases ih h with hold | hmem
    · rcases addDistinct_cases t key row with ⟨heq, -⟩ | ⟨heq, -⟩
      · rw [heq] at hold
        exact Or.inl hold
      · rw [heq, get?_add] at hold
        split at hold
        · cases hold
          exact Or.inr List.mem_cons_self
        · exact Or.inl hold
    · exact Or.inr (List.mem_cons_of_mem _ hmem)

/-- A stored row stays where it is when rows are inserted. -/
theorem get?_addAllDistinct_of_get? {t : Serial α} {rows : List α} {k : ℕ} {a : α}
    (h : t.get? k = some a) : (t.addAllDistinct key rows).get? k = some a := by
  induction rows generalizing t with
  | nil => exact h
  | cons row rows ih =>
    refine ih ?_
    rcases addDistinct_cases t key row with ⟨heq, -⟩ | ⟨heq, -⟩
    · rw [heq, h]
    · rw [heq, get?_add, if_neg (Nat.ne_of_lt (bound_of_get? h).2), h]

/-- Every inserted row has its key stored afterwards. -/
theorem exists_key_addAllDistinct {t : Serial α} {rows : List α} {a : α} (h : a ∈ rows) :
    ∃ k b, (t.addAllDistinct key rows).get? k = some b ∧ key b = key a := by
  induction rows generalizing t with
  | nil => cases h
  | cons row rows ih =>
    rcases List.mem_cons.mp h with rfl | hmem
    · have hstored : ∃ k b, (t.addDistinct key a).get? k = some b ∧ key b = key a := by
        rcases addDistinct_cases t key a with ⟨heq, hkey⟩ | ⟨heq, -⟩
        · rw [heq]
          exact hkey
        · exact ⟨t.next, a, by rw [heq, get?_add, if_pos rfl], rfl⟩
      obtain ⟨k, b, hget, hkey⟩ := hstored
      rw [addAllDistinct]
      exact ⟨k, b, get?_addAllDistinct_of_get? hget, hkey⟩
    · exact ih hmem

/-- Conditional insertions keep the keys of the rows different. -/
theorem key_injective_addAllDistinct {t : Serial α} {rows : List α}
    (h : ∀ k k' a a', t.get? k = some a → t.get? k' = some a' → key a = key a' → k = k')
    {k k' : ℕ} {a a' : α} (hk : (t.addAllDistinct key rows).get? k = some a)
    (hk' : (t.addAllDistinct key rows).get? k' = some a') (hkey : key a = key a') : k = k' := by
  induction rows generalizing t with
  | nil => exact h k k' a a' hk hk' hkey
  | cons row rows ih =>
    refine ih ?_ hk hk'
    rcases addDistinct_cases t key row with ⟨heq, -⟩ | ⟨heq, hnew⟩
    · rw [heq]
      exact h
    · -- The added row has a key that no other row has.
      intro i i' b b' hi hi' hkey'
      rw [heq, get?_add] at hi hi'
      split at hi <;> split at hi'
      case isTrue.isTrue hnext hnext' => rw [hnext, hnext']
      case isTrue.isFalse =>
        cases hi
        exact absurd hkey'.symm (hnew i' b' hi')
      case isFalse.isTrue =>
        cases hi'
        exact absurd hkey' (hnew i b hi)
      case isFalse.isFalse => exact h i i' b b' hi hi' hkey'

end Serial
