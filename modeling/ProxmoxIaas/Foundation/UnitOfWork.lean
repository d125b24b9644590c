import ProxmoxIaas.Foundation.Result

/-!
# Units of Work

A session over a store that does not flush on its own. Reads see what is committed, writes are
collected, a commit applies them and a rollback forgets them. A program of a session may raise at
any point; what it has committed by then stays.

`Transaction.runOn` runs a program on a session and returns the session also when the program
raises, so that the work left behind by an error can be described.

## Main definitions

- `Session`: the committed content of a store, and the writes that are not committed.
- `Transaction`: programs over a session, with `query`, `write`, `commit` and `rollback`.

## Main results

- `Transaction.runOn_bind`, `Transaction.runOn_tryCatch`: how a run of a program goes on.
- `Transaction.result_query_bind`, `Transaction.result_write_bind`,
  `Transaction.result_call_bind`: the result of a program without a commit, step by step.
- `Transaction.KeepsCommitted.bind`: programs without a commit keep what is committed, whether or
  not they raise.
-/

/-- A session over a store. -/
structure Session (σ : Type) where
  /-- The committed content. -/
  committed : σ
  /-- The effect of the writes that are not committed. -/
  pending : σ → σ

namespace Session

variable {σ : Type}

/-- A session that has written nothing. -/
def start (committed : σ) : Session σ := { committed, pending := id }

/-- Collect a write. -/
def write (s : Session σ) (f : σ → σ) : Session σ := { s with pending := f ∘ s.pending }

/-- The content once the collected writes are applied. -/
def flushed (s : Session σ) : σ := s.pending s.committed

/-- Apply the collected writes. -/
def commit (s : Session σ) : Session σ := start s.flushed

/-- Forget the collected writes. Closing a session does the same. -/
def rollback (s : Session σ) : Session σ := start s.committed

@[simp]
theorem committed_start (c : σ) : (start c).committed = c := rfl

@[simp]
theorem flushed_start (c : σ) : (start c).flushed = c := rfl

@[simp]
theorem committed_write (s : Session σ) (f : σ → σ) : (s.write f).committed = s.committed := rfl

@[simp]
theorem flushed_write (s : Session σ) (f : σ → σ) : (s.write f).flushed = f s.flushed := rfl

@[simp]
theorem commit_start (c : σ) : (start c).commit = start c := rfl

@[simp]
theorem rollback_start (c : σ) : (start c).rollback = start c := rfl

end Session

/-- A program over a session that may raise an error. -/
abbrev Transaction (ε σ : Type) := ExceptT ε (StateM (Session σ))

namespace Transaction

variable {ε σ α β : Type}

/-- Run a program on a session. The session it leaves is returned also when it raises. -/
def runOn (m : Transaction ε σ α) (s : Session σ) : Except ε α × Session σ := m.run.run s

/-- Read the committed content. -/
def query (f : σ → α) : Transaction ε σ α := fun s => (.ok (f s.committed), s)

/-- Collect a write. -/
def write (f : σ → σ) : Transaction ε σ Unit := fun s => (.ok (), s.write f)

/-- Apply the collected writes. -/
def commit : Transaction ε σ Unit := fun s => (.ok (), s.commit)

/-- Forget the collected writes. -/
def rollback : Transaction ε σ Unit := fun s => (.ok (), s.rollback)

/-- A call that does not involve the session. -/
def call (x : Except ε α) : Transaction ε σ α := fun s => (x, s)

variable {m : Transaction ε σ α} {f : α → Transaction ε σ β} {s t : Session σ} {e : ε}

@[simp]
theorem runOn_pure (a : α) : (pure a : Transaction ε σ α).runOn s = (.ok a, s) := rfl

@[simp]
theorem runOn_query (g : σ → α) :
    (query g : Transaction ε σ α).runOn s = (.ok (g s.committed), s) := rfl

@[simp]
theorem runOn_write (g : σ → σ) : (write g : Transaction ε σ Unit).runOn s = (.ok (), s.write g) :=
  rfl

@[simp]
theorem runOn_commit : (commit : Transaction ε σ Unit).runOn s = (.ok (), s.commit) := rfl

@[simp]
theorem runOn_rollback : (rollback : Transaction ε σ Unit).runOn s = (.ok (), s.rollback) := rfl

@[simp]
theorem runOn_call (x : Except ε α) : (call x : Transaction ε σ α).runOn s = (x, s) := rfl

/-- A sequence goes on with the value and the session of its first part, unless that raised. -/
theorem runOn_bind : (m >>= f).runOn s = match m.runOn s with
    | (.ok a, t) => (f a).runOn t
    | (.error e, t) => (.error e, t) := by
  show ExceptT.bindCont f (m.runOn s).1 (m.runOn s).2 = _
  cases m.runOn s with
  | mk x t => cases x <;> rfl

/-- A program with a handler goes on by what the program did. -/
theorem runOn_tryCatch (handler : ε → Transaction ε σ α) :
    (tryCatch m handler).runOn s = match m.runOn s with
      | (.ok a, t) => (.ok a, t)
      | (.error e, t) => (handler e).runOn t := by
  show (match (m.runOn s).1 with
    | .ok a => StateT.pure (Except.ok a)
    | .error e => handler e) (m.runOn s).2 = _
  cases m.runOn s with
  | mk x t => cases x <;> rfl

/-- A call whose result is an error ends a sequence. -/
@[simp]
theorem runOn_call_bind_error (e : ε) :
    ((call (.error e) : Transaction ε σ α) >>= f).runOn s = (.error e, s) := runOn_bind

/-- A call that returns passes its value on. -/
@[simp]
theorem runOn_call_bind_ok (a : α) :
    ((call (.ok a) : Transaction ε σ α) >>= f).runOn s = (f a).runOn s := runOn_bind

/-- A read passes its value on. -/
@[simp]
theorem runOn_query_bind (g : σ → α) :
    ((query g : Transaction ε σ α) >>= f).runOn s = (f (g s.committed)).runOn s := runOn_bind

/-- A sequence goes on after a write. -/
@[simp]
theorem runOn_write_bind (g : σ → σ) (k : Unit → Transaction ε σ β) :
    ((write g : Transaction ε σ Unit) >>= k).runOn s = (k ()).runOn (s.write g) := runOn_bind

/-- A sequence goes on after a commit. -/
@[simp]
theorem runOn_commit_bind (k : Unit → Transaction ε σ β) :
    ((commit : Transaction ε σ Unit) >>= k).runOn s = (k ()).runOn s.commit := runOn_bind

/-- A sequence goes on after a rollback. -/
@[simp]
theorem runOn_rollback_bind (k : Unit → Transaction ε σ β) :
    ((rollback : Transaction ε σ Unit) >>= k).runOn s = (k ()).runOn s.rollback := runOn_bind

/-- The value of a program, and what a commit after it would leave. -/
def result (m : Transaction ε σ α) (s : Session σ) : Except ε (α × σ) :=
  match m.runOn s with
  | (.ok a, t) => .ok (a, t.flushed)
  | (.error e, _) => .error e

/-- The result of a program that returned. -/
theorem result_of_ok {a : α} (h : m.runOn s = (.ok a, t)) : m.result s = .ok (a, t.flushed) := by
  unfold result
  rw [h]

/-- The result of a program that raised. -/
theorem result_of_error (h : m.runOn s = (.error e, t)) : m.result s = .error e := by
  unfold result
  rw [h]

theorem result_pure (a : α) : (pure a : Transaction ε σ α).result s = .ok (a, s.flushed) := rfl

theorem result_query_bind (g : σ → α) :
    ((query g : Transaction ε σ α) >>= f).result s = (f (g s.committed)).result s := rfl

theorem result_write_bind (g : σ → σ) (k : Unit → Transaction ε σ β) :
    ((write g : Transaction ε σ Unit) >>= k).result s = (k ()).result (s.write g) := rfl

theorem result_call_bind (x : Except ε α) :
    (call x >>= f).result s = x >>= fun a => (f a).result s := by
  cases x <;> rfl

/-- A program that commits nothing, whether it returns or raises. -/
def KeepsCommitted (m : Transaction ε σ α) : Prop :=
  ∀ s, (m.runOn s).2.committed = s.committed

namespace KeepsCommitted

/-- Reading keeps what is committed. -/
theorem query (g : σ → α) : (query g : Transaction ε σ α).KeepsCommitted := fun _ => rfl

/-- Collecting a write keeps what is committed. -/
theorem write (g : σ → σ) : (write g : Transaction ε σ Unit).KeepsCommitted := fun _ => rfl

/-- A call outside the session keeps what is committed. -/
theorem call (x : Except ε α) : (call x : Transaction ε σ α).KeepsCommitted := fun _ => rfl

/-- Returning keeps what is committed. -/
theorem pure (a : α) : (pure a : Transaction ε σ α).KeepsCommitted := fun _ => rfl

/-- A sequence keeps what is committed if both of its parts do. -/
theorem bind (hm : m.KeepsCommitted) (hf : ∀ a, (f a).KeepsCommitted) :
    (m >>= f).KeepsCommitted := by
  intro s
  have hs := hm s
  rw [runOn_bind]
  cases hrun : m.runOn s with
  | mk x t =>
    rw [hrun] at hs
    cases x with
    | error e => exact hs
    | ok a => exact (hf a t).trans hs

end KeepsCommitted

end Transaction
