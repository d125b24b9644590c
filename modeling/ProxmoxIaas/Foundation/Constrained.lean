import ProxmoxIaas.Foundation.Table

/-!
# Tables with Constraints

A table that refuses a row which is not valid, or which conflicts with another row. A transaction
is a sequence of statements of which every one is checked against the rows as they are when it is
executed, and it takes effect as a whole or not at all.

The rows that a session has changed are written in the order of their ids, so a row may take the
key of one that was written before it, and not of one that is written after it.

## Main results

- `Constrained.isSome_executeAll_iff`: when a transaction succeeds.
- `Statement.allPermitted_updates_iff`: when the changed rows of a session may be written.
- `Statement.allPermitted_inserts_iff`: when new rows may be inserted.
- `Statement.get?_runAll_updates`, `Statement.runAll_inserts`: the rows afterwards.
- `Constrained.isSome_ensureAll_iff`: when the rows whose keys are missing may be inserted.
- `Constrained.of_commit`: the rows after a session is committed.
- `Constrained.hasKey_commit_iff`, `Constrained.hasKey_deleteWhere_iff`: the keys afterwards.
-/

universe u

/-- What a row of a table must satisfy, and which rows exclude each other. -/
structure Constraints (α : Type u) where
  /-- The condition on a row by itself. -/
  valid : α → Bool
  /-- Two rows with an equal unique key. -/
  conflict : α → α → Bool
  /-- Rows exclude each other. -/
  conflict_comm : ∀ a b, conflict a b = conflict b a

/-- A statement that writes a row. -/
inductive Statement (α : Type u) where
  /-- Replace a row. -/
  | update (id : ℕ) (row : α)
  /-- Insert a row under the next id. -/
  | insert (row : α)

/-- A table whose rows meet its constraints. -/
structure Constrained {α : Type u} (c : Constraints α) where
  /-- The rows. -/
  rows : Serial α
  /-- Every row is valid. -/
  valid : ∀ {id row}, rows.get? id = some row → c.valid row = true
  /-- No two rows conflict. -/
  distinct : ∀ {i j a b}, rows.get? i = some a → rows.get? j = some b → i ≠ j →
    c.conflict a b = false

namespace Statement

variable {α : Type u} {c : Constraints α} {rows : Serial α} {st : Statement α}

/-- The id that a statement writes. -/
def target (rows : Serial α) : Statement α → ℕ
  | update id _ => id
  | insert _ => rows.next

/-- The row that a statement writes. -/
def row : Statement α → α
  | update _ row => row
  | insert row => row

/-- The rows after a statement. -/
def run (rows : Serial α) : Statement α → Serial α
  | update id row => rows.modify id fun _ => row
  | insert row => rows.add row

/-- The row to be updated exists. -/
def present (rows : Serial α) : Statement α → Bool
  | update id _ => (rows.get? id).isSome
  | insert _ => true

/-- A statement is permitted: its row is valid, and conflicts with no other row. -/
def permitted (c : Constraints α) (rows : Serial α) (st : Statement α) : Bool :=
  st.present rows && c.valid st.row &&
    (rows.first? fun j other => j ≠ st.target rows ∧ c.conflict st.row other).isNone

/-- The rows after a sequence of statements. -/
def runAll (rows : Serial α) (sts : List (Statement α)) : Serial α := sts.foldl run rows

/-- Every statement of a sequence is permitted when it is executed. -/
def AllPermitted (c : Constraints α) : Serial α → List (Statement α) → Prop
  | _, [] => True
  | rows, st :: sts => st.permitted c rows = true ∧ AllPermitted c (st.run rows) sts

theorem permitted_iff : st.permitted c rows = true ↔ st.present rows = true ∧
    c.valid st.row = true ∧ ∀ j other, rows.get? j = some other → j ≠ st.target rows →
      c.conflict st.row other = false := by
  simp only [permitted, Bool.and_eq_true, Option.isNone_iff_eq_none, Serial.first?_eq_none_iff,
    decide_eq_false_iff_not, not_and, Bool.not_eq_true, and_assoc]

/-- A statement writes its row and no other one. -/
theorem get?_run (h : st.present rows = true) (k : ℕ) :
    (st.run rows).get? k = if k = st.target rows then some st.row else rows.get? k := by
  cases st with
  | update id row =>
    show (rows.modify id fun _ => row).get? k = if k = id then some row else rows.get? k
    rw [Serial.get?_modify]
    by_cases hk : k = id
    · subst hk
      obtain ⟨old, hold⟩ := Option.isSome_iff_exists.mp h
      rw [if_pos rfl, if_pos rfl, hold, Option.map_some]
    · rw [if_neg hk, if_neg hk]
  | insert row => exact Serial.get?_add rows row k

theorem runAll_append (rows : Serial α) (sts sts' : List (Statement α)) :
    runAll rows (sts ++ sts') = runAll (runAll rows sts) sts' :=
  List.foldl_append

theorem allPermitted_append {sts sts' : List (Statement α)} :
    AllPermitted c rows (sts ++ sts') ↔
      AllPermitted c rows sts ∧ AllPermitted c (runAll rows sts) sts' := by
  induction sts generalizing rows with
  | nil => exact (true_and _).symm.to_iff
  | cons st sts ih =>
    rw [List.cons_append, AllPermitted, AllPermitted, ih, and_assoc]
    rfl

end Statement

namespace Constrained

variable {α : Type u} {c : Constraints α}

/-- Tables with the same rows are equal. -/
@[ext]
theorem ext {t t' : Constrained c} (h : t.rows = t'.rows) : t = t' := by
  cases t
  cases t'
  cases h
  rfl

/-- The empty table. -/
def empty : Constrained c where
  rows := .empty
  valid h := by cases h
  distinct h := by cases h

/-- Execute a statement, if it is permitted. -/
def execute (t : Constrained c) (st : Statement α) : Option (Constrained c) :=
  if h : st.permitted c t.rows = true then
    some
      { rows := st.run t.rows
        valid := by
          intro id row hget
          obtain ⟨hpresent, hvalid, -⟩ := Statement.permitted_iff.mp h
          rw [Statement.get?_run hpresent] at hget
          split at hget
          case isTrue => exact Option.some.inj hget ▸ hvalid
          case isFalse => exact t.valid hget
        distinct := by
          intro i j a b ha hb hne
          obtain ⟨hpresent, -, hfree⟩ := Statement.permitted_iff.mp h
          rw [Statement.get?_run hpresent] at ha hb
          split at ha <;> split at hb
          case isTrue.isTrue hi hj => exact absurd (hi.trans hj.symm) hne
          case isTrue.isFalse hi hj => exact Option.some.inj ha ▸ hfree j b hb hj
          case isFalse.isTrue hi hj =>
            rw [c.conflict_comm]
            exact Option.some.inj hb ▸ hfree i a ha hi
          case isFalse.isFalse => exact t.distinct ha hb hne }
  else none

/-- Execute a transaction. -/
def executeAll (t : Constrained c) (sts : List (Statement α)) : Option (Constrained c) :=
  sts.foldlM execute t

/-- A statement is executed exactly when it is permitted. -/
theorem execute_eq_some_iff {t t' : Constrained c} {st : Statement α} :
    t.execute st = some t' ↔ st.permitted c t.rows = true ∧ t'.rows = st.run t.rows := by
  unfold execute
  split
  case isTrue h =>
    rw [Option.some.injEq]
    exact ⟨fun heq => ⟨h, heq ▸ rfl⟩, fun ⟨_, heq⟩ => ext heq.symm⟩
  case isFalse h => exact ⟨nofun, fun ⟨hpermitted, _⟩ => absurd hpermitted h⟩

/-- What a transaction that succeeds has done. -/
theorem rows_of_executeAll {t t' : Constrained c} {sts : List (Statement α)}
    (h : t.executeAll sts = some t') : t'.rows = Statement.runAll t.rows sts := by
  induction sts generalizing t with
  | nil =>
    cases h
    rfl
  | cons st sts ih =>
    rw [executeAll, List.foldlM_cons, Option.bind_eq_bind, Option.bind_eq_some_iff] at h
    obtain ⟨next, hnext, hrest⟩ := h
    rw [ih hrest, (execute_eq_some_iff.mp hnext).2]
    rfl

/-- A transaction succeeds exactly when every statement is permitted. -/
theorem isSome_executeAll_iff {t : Constrained c} {sts : List (Statement α)} :
    (t.executeAll sts).isSome = true ↔ Statement.AllPermitted c t.rows sts := by
  induction sts generalizing t with
  | nil => exact ⟨fun _ => trivial, fun _ => rfl⟩
  | cons st sts ih =>
    rw [executeAll, List.foldlM_cons, Option.bind_eq_bind, Statement.AllPermitted]
    cases hnext : t.execute st with
    | none =>
      refine ⟨nofun, fun ⟨hpermitted, _⟩ => ?_⟩
      rw [execute, dif_pos hpermitted] at hnext
      cases hnext
    | some next =>
      obtain ⟨hpermitted, hrows⟩ := execute_eq_some_iff.mp hnext
      rw [Option.bind_some, ← hrows]
      exact ih.trans (and_iff_right hpermitted).symm

end Constrained

namespace Statement

variable {α : Type u} {c : Constraints α} {rows : Serial α}

section Updates

variable {f : ℕ → α → α}

/-- The row that others see while the row with an id is written: those with smaller ids were
written before it. -/
def seenFrom (f : ℕ → α → α) (id j : ℕ) (row : α) : α := if j < id then f j row else row

theorem seenFrom_self (id : ℕ) (row : α) : seenFrom f id id row = row :=
  if_neg (Nat.lt_irrefl id)

theorem seenFrom_succ_self (id : ℕ) (row : α) : seenFrom f (id + 1) id row = f id row :=
  if_pos (Nat.lt_succ_self id)

theorem seenFrom_succ_of_ne {id j : ℕ} (h : j ≠ id) (row : α) :
    seenFrom f (id + 1) j row = seenFrom f id j row := by
  have hlt : j < id + 1 ↔ j < id := by omega
  simp only [seenFrom, hlt]

variable [DecidableEq α]

/-- The updates of the rows below an id whose objects are `f` in the session, in the order of
their ids. Objects that did not change are not written. -/
def updatesBelow (rows : Serial α) (f : ℕ → α → α) (n : ℕ) : List (Statement α) :=
  (List.range n).filterMap fun id => (rows.get? id).bind fun row =>
    if f id row = row then none else some (.update id (f id row))

/-- The updates of all rows. -/
def updates (rows : Serial α) (f : ℕ → α → α) : List (Statement α) :=
  updatesBelow rows f rows.next

/-- The updates are given by the objects of the stored rows. -/
theorem updates_congr {g : ℕ → α → α}
    (h : ∀ id row, rows.get? id = some row → f id row = g id row) :
    updates rows f = updates rows g := by
  refine List.filterMap_congr fun id _ => ?_
  cases hget : rows.get? id with
  | none => rfl
  | some row => rw [Option.bind_some, Option.bind_some, h id row hget]

theorem updatesBelow_succ (n : ℕ) :
    updatesBelow rows f (n + 1) = updatesBelow rows f n ++
      ((rows.get? n).bind fun row =>
        if f n row = row then none else some (.update n (f n row))).toList := by
  rw [updatesBelow, List.range_succ, List.filterMap_append]
  congr 1

/-- The rows after the updates below an id. -/
theorem get?_runAll_updatesBelow (n k : ℕ) :
    (runAll rows (updatesBelow rows f n)).get? k = (rows.get? k).map (seenFrom f n k) := by
  induction n with
  | zero =>
    have hseen : seenFrom f 0 k = id := funext fun row => if_neg (Nat.not_lt_zero k)
    rw [hseen, Option.map_id]
    rfl
  | succ n ih =>
    rw [updatesBelow_succ, runAll_append]
    by_cases hk : k = n
    · subst hk
      cases hget : rows.get? k with
      | none =>
        rw [hget] at ih
        exact ih
      | some row =>
        rw [hget, Option.map_some, seenFrom_self] at ih
        rw [Option.bind_some, Option.map_some, seenFrom_succ_self]
        split
        case isTrue heq => rw [heq]; exact ih
        case isFalse =>
          show ((runAll rows (updatesBelow rows f k)).modify k fun _ => f k row).get? k = _
          rw [Serial.get?_modify, if_pos rfl, ih, Option.map_some]
    · have hseen : seenFrom f (n + 1) k = seenFrom f n k := funext (seenFrom_succ_of_ne hk)
      rw [hseen, ← ih]
      cases rows.get? n with
      | none => rfl
      | some row =>
        rw [Option.bind_some]
        split
        case isTrue => rfl
        case isFalse =>
          show ((runAll rows (updatesBelow rows f n)).modify n fun _ => f n row).get? k = _
          rw [Serial.get?_modify, if_neg hk]

/-- When the updates below an id are permitted. -/
theorem allPermitted_updatesBelow_iff (n : ℕ) :
    AllPermitted c rows (updatesBelow rows f n) ↔
      ∀ id row, id < n → rows.get? id = some row → f id row ≠ row →
        c.valid (f id row) = true ∧ ∀ j other, rows.get? j = some other → j ≠ id →
          c.conflict (f id row) (seenFrom f id j other) = false := by
  induction n with
  | zero => exact ⟨fun _ _ _ h => absurd h (Nat.not_lt_zero _), fun _ => trivial⟩
  | succ n ih =>
    rw [updatesBelow_succ, allPermitted_append, ih]
    -- the statement of the last id sees the rows below it as they were written
    have hlast : AllPermitted c (runAll rows (updatesBelow rows f n))
        ((rows.get? n).bind fun row =>
          if f n row = row then none else some (.update n (f n row))).toList ↔
        ∀ row, rows.get? n = some row → f n row ≠ row →
          c.valid (f n row) = true ∧ ∀ j other, rows.get? j = some other → j ≠ n →
            c.conflict (f n row) (seenFrom f n j other) = false := by
      cases hget : rows.get? n with
      | none => exact ⟨fun _ _ h => (nomatch h), fun _ => trivial⟩
      | some row =>
        have hforall : (∀ row', some row = some row' → f n row' ≠ row' →
            c.valid (f n row') = true ∧ ∀ j other, rows.get? j = some other → j ≠ n →
              c.conflict (f n row') (seenFrom f n j other) = false) ↔
            (f n row ≠ row → c.valid (f n row) = true ∧
              ∀ j other, rows.get? j = some other → j ≠ n →
                c.conflict (f n row) (seenFrom f n j other) = false) :=
          ⟨fun h => h row rfl, fun h row' heq => by cases heq; exact h⟩
        rw [hforall, Option.bind_some]
        split
        case isTrue heq => exact ⟨fun _ hne => absurd heq hne, fun _ => trivial⟩
        case isFalse hne =>
          have hpresent : (update n (f n row)).present
              (runAll rows (updatesBelow rows f n)) = true := by
            rw [present, get?_runAll_updatesBelow, hget, Option.map_some, Option.isSome_some]
          show (_ ∧ True) ↔ _
          rw [and_true, permitted_iff, and_iff_right hpresent, imp_iff_right hne]
          refine and_congr_right fun _ =>
            ⟨fun h j other hother hj => ?_, fun h j seen hseen hj => ?_⟩
          · refine h j _ ?_ hj
            rw [get?_runAll_updatesBelow, hother, Option.map_some]
          · rw [get?_runAll_updatesBelow, Option.map_eq_some_iff] at hseen
            obtain ⟨other, hother, rfl⟩ := hseen
            exact h j other hother hj
    rw [hlast]
    constructor
    · rintro ⟨hbelow, hat⟩ id row hid hget hne
      rcases Nat.lt_succ_iff_lt_or_eq.mp hid with hlt | rfl
      · exact hbelow id row hlt hget hne
      · exact hat row hget hne
    · intro h
      exact ⟨fun id row hid => h id row (Nat.lt_succ_of_lt hid),
        fun row => h n row (Nat.lt_succ_self n)⟩

/-- The rows after all updates. -/
theorem get?_runAll_updates (k : ℕ) :
    (runAll rows (updates rows f)).get? k = (rows.get? k).map (f k) := by
  rw [updates, get?_runAll_updatesBelow]
  refine Option.map_congr fun row hrow => ?_
  exact if_pos (Serial.bound_of_get? hrow).2

/-- The changed rows of a session may be written exactly when each of them is valid and conflicts
with no other row, as that one is once the rows with smaller ids are written. -/
theorem allPermitted_updates_iff :
    AllPermitted c rows (updates rows f) ↔
      ∀ id row, rows.get? id = some row → f id row ≠ row →
        c.valid (f id row) = true ∧ ∀ j other, rows.get? j = some other → j ≠ id →
          c.conflict (f id row) (seenFrom f id j other) = false := by
  rw [updates, allPermitted_updatesBelow_iff]
  exact ⟨fun h id row hget => h id row (Serial.bound_of_get? hget).2 hget,
    fun h id row _ => h id row⟩

end Updates

/-- Insertions of rows. -/
def inserts (new : List α) : List (Statement α) := new.map insert

theorem runAll_inserts (rows : Serial α) (new : List α) :
    runAll rows (inserts new) = new.foldl Serial.add rows := by
  rw [runAll, inserts, List.foldl_map]
  rfl

/-- A row may be inserted exactly when it is valid and conflicts with no row of the table. -/
theorem permitted_insert_iff {row : α} :
    (insert row).permitted c rows = true ↔ c.valid row = true ∧
      ∀ j other, rows.get? j = some other → c.conflict row other = false := by
  have hpresent : (insert row).present rows = true := rfl
  rw [permitted_iff, and_iff_right hpresent]
  refine and_congr_right fun _ => forall_congr' fun j => forall_congr' fun other => ?_
  exact ⟨fun h hget => h hget (Serial.bound_of_get? hget).2.ne, fun h hget _ => h hget⟩

/-- New rows may be inserted exactly when each of them is valid and conflicts neither with a row
of the table nor with one inserted before it. -/
theorem allPermitted_inserts_iff {new : List α} :
    AllPermitted c rows (inserts new) ↔
      (∀ row ∈ new, c.valid row = true ∧
        ∀ j other, rows.get? j = some other → c.conflict row other = false) ∧
      new.Pairwise fun a b => c.conflict b a = false := by
  induction new generalizing rows with
  | nil => exact ⟨fun _ => ⟨nofun, .nil⟩, fun _ => trivial⟩
  | cons row new ih =>
    have htable : ∀ a, (∀ j other, (rows.add row).get? j = some other →
        c.conflict a other = false) ↔
          (∀ j other, rows.get? j = some other → c.conflict a other = false) ∧
            c.conflict a row = false := by
      intro a
      refine ⟨fun h => ⟨fun j other hget => h j other ?_, h rows.next row ?_⟩,
        fun ⟨hold, hnew⟩ j other hget => ?_⟩
      · rw [Serial.get?_add, if_neg (Serial.bound_of_get? hget).2.ne, hget]
      · rw [Serial.get?_add, if_pos rfl]
      · rw [Serial.get?_add] at hget
        split at hget
        case isTrue => exact Option.some.inj hget ▸ hnew
        case isFalse => exact hold j other hget
    rw [inserts, List.map_cons, AllPermitted, permitted_insert_iff, List.pairwise_cons]
    have htail : AllPermitted c (rows.add row) (inserts new) ↔ _ := ih
    rw [inserts] at htail
    show _ ∧ AllPermitted c (rows.add row) (new.map insert) ↔ _
    rw [htail]
    simp only [htable, List.forall_mem_cons]
    constructor
    · rintro ⟨hrow, hnew, hpairs⟩
      exact ⟨⟨hrow, fun a ha => ⟨(hnew a ha).1, (hnew a ha).2.1⟩⟩,
        fun a ha => (hnew a ha).2.2, hpairs⟩
    · rintro ⟨⟨hrow, hnew⟩, hfirst, hpairs⟩
      exact ⟨hrow, fun a ha => ⟨(hnew a ha).1, (hnew a ha).2, hfirst a ha⟩, hpairs⟩

end Statement

namespace Constrained

variable {α : Type u} {κ : Type*} {c : Constraints α} {key : α → κ} {t t' : Constrained c}

/-- A row of the table has a key. -/
def HasKey (key : α → κ) (t : Constrained c) (k : κ) : Prop :=
  ∃ id row, t.rows.get? id = some row ∧ key row = k

theorem HasKey.mono {k : κ} (h : HasKey key t k)
    (hrows : ∀ id other, t.rows.get? id = some other → t'.rows.get? id = some other) :
    HasKey key t' k := by
  obtain ⟨id, row, hget, hkey⟩ := h
  exact ⟨id, row, hrows id row hget, hkey⟩

variable [DecidableEq κ]

/-- Insert a row unless a row of the table has its key. -/
def ensure (key : α → κ) (t : Constrained c) (row : α) : Option (Constrained c) :=
  if (t.rows.first? fun _ other => key other = key row).isSome then some t
  else t.execute (.insert row)

/-- Insert the rows of a list whose keys are missing, one after the other. -/
def ensureAll (key : α → κ) (t : Constrained c) (rows : List α) : Option (Constrained c) :=
  rows.foldlM (ensure key) t

theorem isSome_first?_iff {k : κ} :
    (t.rows.first? fun _ other => key other = k).isSome = true ↔ HasKey key t k := by
  rw [Option.isSome_iff_exists]
  constructor
  · rintro ⟨⟨id, row⟩, hfound⟩
    obtain ⟨hget, hkey⟩ := Serial.first?_eq_some hfound
    exact ⟨id, row, hget, of_decide_eq_true hkey⟩
  · rintro ⟨id, row, hget, hkey⟩
    by_contra hnone
    rw [← Option.isSome_iff_exists, Bool.not_eq_true, Option.isSome_eq_false_iff,
      Option.isNone_iff_eq_none, Serial.first?_eq_none_iff] at hnone
    exact of_decide_eq_false (hnone id row hget) hkey

/-- A row whose key is there changes nothing. -/
theorem ensure_of_hasKey {row : α} (h : HasKey key t (key row)) : ensure key t row = some t :=
  if_pos (isSome_first?_iff.mpr h)

/-- A row whose key is missing is inserted. -/
theorem ensure_of_not_hasKey {row : α} (h : ¬ HasKey key t (key row)) :
    ensure key t row = t.execute (.insert row) :=
  if_neg (isSome_first?_iff.not.mpr h)

/-- The rows that were there stay, and the key is there afterwards. -/
theorem of_ensure {row : α} (h : ensure key t row = some t') :
    (∀ id other, t.rows.get? id = some other → t'.rows.get? id = some other) ∧
      HasKey key t' (key row) := by
  by_cases hkey : HasKey key t (key row)
  · obtain rfl := Option.some.inj ((ensure_of_hasKey hkey).symm.trans h)
    exact ⟨fun _ _ hget => hget, hkey⟩
  · rw [ensure_of_not_hasKey hkey] at h
    have hrows : t'.rows = t.rows.add row := (execute_eq_some_iff.mp h).2
    refine ⟨fun id other hget => ?_, t.rows.next, row, ?_, rfl⟩
    · rw [hrows, Serial.get?_add, if_neg (Serial.bound_of_get? hget).2.ne, hget]
    · rw [hrows, Serial.get?_add, if_pos rfl]

/-- The rows that were there stay, and all keys are there afterwards. -/
theorem of_ensureAll {rows : List α} (h : ensureAll key t rows = some t') :
    (∀ id other, t.rows.get? id = some other → t'.rows.get? id = some other) ∧
      ∀ row ∈ rows, HasKey key t' (key row) := by
  induction rows generalizing t with
  | nil =>
    cases h
    exact ⟨fun _ _ hget => hget, nofun⟩
  | cons row rows ih =>
    rw [ensureAll, List.foldlM_cons, Option.bind_eq_bind, Option.bind_eq_some_iff] at h
    obtain ⟨next, hnext, hrest⟩ := h
    obtain ⟨hold, hkey⟩ := of_ensure hnext
    obtain ⟨hkept, hkeys⟩ := ih hrest
    refine ⟨fun id other hget => hkept id other (hold id other hget), fun row' hmem => ?_⟩
    rcases List.mem_cons.mp hmem with rfl | hmem
    · exact hkey.mono hkept
    · exact hkeys row' hmem

/-- Rows whose keys are there change nothing. -/
theorem ensureAll_of_hasKey {rows : List α} (h : ∀ row ∈ rows, HasKey key t (key row)) :
    ensureAll key t rows = some t := by
  induction rows with
  | nil => rfl
  | cons row rows ih =>
    rw [ensureAll, List.foldlM_cons, ensure_of_hasKey (h row List.mem_cons_self)]
    exact ih fun row' hmem => h row' (List.mem_cons_of_mem _ hmem)

/-- Valid rows that do not conflict with each other may be inserted exactly when each of them
whose key is missing conflicts with no row of the table. -/
theorem isSome_ensureAll_iff {rows : List α} (hvalid : ∀ row ∈ rows, c.valid row = true)
    (hrows : rows.Pairwise fun a b => c.conflict b a = false)
    (hkey : ∀ a b, key a = key b → c.conflict a b = true) :
    (ensureAll key t rows).isSome = true ↔ ∀ row ∈ rows, ¬ HasKey key t (key row) →
      ∀ j other, t.rows.get? j = some other → c.conflict row other = false := by
  induction rows generalizing t with
  | nil => exact ⟨fun _ => nofun, fun _ => rfl⟩
  | cons row rows ih =>
    obtain ⟨hfirst, hrows⟩ := List.pairwise_cons.mp hrows
    have ih := fun t => ih (t := t) (fun row' hmem => hvalid row' (List.mem_cons_of_mem _ hmem))
      hrows
    rw [ensureAll, List.foldlM_cons, List.forall_mem_cons]
    by_cases hhas : HasKey key t (key row)
    · rw [ensure_of_hasKey hhas]
      exact (ih t).trans (and_iff_right fun hnot => absurd hhas hnot).symm
    · rw [ensure_of_not_hasKey hhas]
      by_cases hfree : ∀ j other, t.rows.get? j = some other → c.conflict row other = false
      · have hpermitted := Statement.permitted_insert_iff.mpr ⟨hvalid row List.mem_cons_self, hfree⟩
        obtain ⟨next, hnext⟩ : ∃ next, t.execute (.insert row) = some next := by
          rw [execute, dif_pos hpermitted]
          exact ⟨_, rfl⟩
        have hadd : next.rows = t.rows.add row := (execute_eq_some_iff.mp hnext).2
        rw [hnext]
        refine (ih next).trans ?_
        rw [and_iff_right fun _ => hfree]
        -- the new row has no key of the rest, and conflicts with none of it
        have hget : ∀ {j other}, next.rows.get? j = some other ↔
            t.rows.get? j = some other ∨ (j = t.rows.next ∧ row = other) := by
          intro j other
          rw [hadd, Serial.get?_add]
          split
          case isTrue hj =>
            subst hj
            rw [Serial.get?_next]
            simp
          case isFalse hj => simp [hj]
        refine forall_congr' fun row' => forall_congr' fun hmem => ?_
        have hsame : HasKey key next (key row') ↔ HasKey key t (key row') := by
          constructor
          · rintro ⟨id, other, hother, heq⟩
            rcases hget.mp hother with hother | ⟨-, rfl⟩
            · exact ⟨id, other, hother, heq⟩
            · exact absurd (hkey _ _ heq.symm) (by rw [hfirst row' hmem]; decide)
          · rintro ⟨id, other, hother, heq⟩
            exact ⟨id, other, hget.mpr (Or.inl hother), heq⟩
        rw [hsame]
        refine forall_congr' fun _ => ?_
        constructor
        · exact fun h j other hother => h j other (hget.mpr (Or.inl hother))
        · intro h j other hother
          rcases hget.mp hother with hother | ⟨-, rfl⟩
          · exact h j other hother
          · exact hfirst row' hmem
      · have hnone : t.execute (.insert row) = none := by
          rw [execute, dif_neg fun h => hfree (Statement.permitted_insert_iff.mp h).2]
        rw [hnone]
        exact ⟨nofun, fun h => absurd (h.1 hhas) hfree⟩

omit [DecidableEq κ] in
/-- Delete the rows that satisfy a condition. -/
def deleteWhere (t : Constrained c) (p : ℕ → α → Bool) : Constrained c where
  rows := t.rows.deleteWhere p
  valid h := by
    rw [Serial.get?_deleteWhere, Option.filter_eq_some_iff] at h
    exact t.valid h.1
  distinct ha hb hne := by
    rw [Serial.get?_deleteWhere, Option.filter_eq_some_iff] at ha hb
    exact t.distinct ha.1 hb.1 hne

omit [DecidableEq κ] in
/-- Once a row is deleted, no row has its key. -/
theorem hasKey_deleteWhere_iff (hkey : ∀ a b, key a = key b → c.conflict a b = true) {id : ℕ}
    {row : α} (hget : t.rows.get? id = some row) {k : κ} :
    HasKey key (t.deleteWhere fun id' _ => id' = id) k ↔ HasKey key t k ∧ k ≠ key row := by
  have hrows : ∀ id' other, (t.deleteWhere fun id' _ => id' = id).rows.get? id' = some other ↔
      t.rows.get? id' = some other ∧ id' ≠ id := by
    intro id' other
    rw [deleteWhere, Serial.get?_deleteWhere, Option.filter_eq_some_iff]
    simp
  constructor
  · rintro ⟨id', other, hother, rfl⟩
    obtain ⟨hother, hne⟩ := (hrows id' other).mp hother
    refine ⟨⟨id', other, hother, rfl⟩, fun heq => ?_⟩
    have hconflict := t.distinct hother hget hne
    rw [hkey other row heq] at hconflict
    cases hconflict
  · rintro ⟨⟨id', other, hother, rfl⟩, hne⟩
    refine ⟨id', other, (hrows id' other).mpr ⟨hother, ?_⟩, rfl⟩
    rintro rfl
    exact hne (congrArg key (Option.some.inj (hother.symm.trans hget)))

section Commit

variable [DecidableEq α]

/-- Commit a session: the rows whose objects changed are written, and new ones are inserted. -/
def commit (t : Constrained c) (object : ℕ → α → α) (new : List α) : Option (Constrained c) :=
  t.executeAll (Statement.updates t.rows object ++ Statement.inserts new)

omit [DecidableEq κ] in
/-- The rows after a session is committed are the objects of those before, and the new ones. -/
theorem of_commit {object : ℕ → α → α} {new : List α} (h : t.commit object new = some t') :
    (∀ k row, t.rows.get? k = some row → t'.rows.get? k = some (object k row)) ∧
      (∀ k row', t'.rows.get? k = some row' →
        (∃ row, t.rows.get? k = some row ∧ object k row = row') ∨ row' ∈ new) ∧
      ∀ row ∈ new, ∃ k, t'.rows.get? k = some row := by
  have hrows := rows_of_executeAll h
  rw [Statement.runAll_append, Statement.runAll_inserts] at hrows
  refine ⟨fun k row hget => ?_, fun k row' hget => ?_, fun row hmem => ?_⟩
  · rw [hrows]
    refine Serial.get?_foldl_add_of_get? ?_ _
    rw [Statement.get?_runAll_updates, hget, Option.map_some]
  · rw [hrows] at hget
    rcases Serial.get?_foldl_add hget with hold | ⟨-, hnew⟩
    · rw [Statement.get?_runAll_updates, Option.map_eq_some_iff] at hold
      exact Or.inl hold
    · exact Or.inr hnew
  · rw [hrows]
    exact Serial.exists_get?_foldl_add hmem _

omit [DecidableEq κ] in
/-- The keys after a session is committed that keeps the keys of the objects. -/
theorem hasKey_commit_iff {object : ℕ → α → α} {new : List α} (h : t.commit object new = some t')
    (hobject : ∀ id row, key (object id row) = key row) {k : κ} :
    HasKey key t' k ↔ HasKey key t k ∨ ∃ row ∈ new, key row = k := by
  obtain ⟨hold, hcases, hnew⟩ := of_commit h
  constructor
  · rintro ⟨id, row', hget, rfl⟩
    rcases hcases id row' hget with ⟨row, hrow, rfl⟩ | hmem
    · exact Or.inl ⟨id, row, hrow, (hobject id row).symm⟩
    · exact Or.inr ⟨row', hmem, rfl⟩
  · rintro (⟨id, row, hget, rfl⟩ | ⟨row, hmem, rfl⟩)
    · exact ⟨id, object id row, hold id row hget, hobject id row⟩
    · obtain ⟨id, hget⟩ := hnew row hmem
      exact ⟨id, row, hget, rfl⟩

end Commit

end Constrained
