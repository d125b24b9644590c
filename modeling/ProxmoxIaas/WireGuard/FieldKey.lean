import ProxmoxIaas.Foundation.LazyInit
import Mathlib.Data.Nat.Notation
import Mathlib.Data.List.Basic

/-!
# The Key of Encrypted Fields

`_get_fernet` resolves the key of a process once, under a lock: it is the one of the settings, or
the one in a file, which is written if it is not there. The processes share the file, and nothing
keeps one of them from looking for it while another one is about to write it.

## Main results

- `keys_agree`: in every interleaving, the threads of a process use one key, which never changes,
  and with a key in the settings all processes do. Without one they do if no process looks for the
  file while another one makes it.
-/

namespace ProxmoxIaas.FieldKey

open LazyInit

/-- A key, by the characters of its bytes. -/
abbrev Key := List Char

/-- The key of the settings, if it is set and is encoded without an exception. -/
def configured (raw : List Char) : Option Key :=
  if raw = [] then none
  else if raw.all fun c => c.toNat < 128 then some raw
  else none

/-- How far `_resolve_key` has come. -/
inductive Phase where
  /-- It reads the settings. -/
  | settings
  /-- It looks for the file. -/
  | looking
  /-- It reads the file. -/
  | reading
  /-- It draws a key. -/
  | generating
  /-- It opens the file, which is empty then. -/
  | opening (key : Key)
  /-- It writes the file. -/
  | writing (key : Key)
  /-- It has a key, of which a `Fernet` is made. -/
  | resolved (key : Key)
  deriving DecidableEq, Repr

/-- What is decided outside. -/
structure Choice where
  /-- The key that is drawn. -/
  key : Key
  /-- Whether there is an exception of the file system. -/
  fails : Bool
  /-- How much is written before such an exception. -/
  written : ℕ

/-- `_resolve_key` and `Fernet`, which accepts a key or raises an exception. -/
def resolveKey (raw : List Char) (accepts : Key → Bool) : Body Choice Phase (Option Key) Key where
  start := .settings
  step c phase file :=
    match phase with
    | .settings =>
      match configured raw with
      | some key => (.more (.resolved key), file)
      | none => (.more .looking, file)
    | .looking => (.more (if file.isSome then .reading else .generating), file)
    | .reading =>
      match file with
      | some key => (.more (if c.fails then .generating else .resolved key), file)
      | none => (.more .generating, file)
    | .generating => (.more (.opening c.key), file)
    | .opening key =>
      if c.fails then (.more (.resolved key), file) else (.more (.writing key), some [])
    | .writing key =>
      (.more (.resolved key), some (if c.fails then key.take c.written else key))
    | .resolved key => (if accepts key then .value key else .error, file)

/-- The threads of the processes that use the key, with the file. -/
abbrev State := LazyInit.State ℕ ℕ Phase (Option Key) Key

/-- `_get_fernet` in all of them. The file may be there from before. -/
def system (raw : List Char) (accepts : Key → Bool) :
    Machine State (Label ℕ ℕ Choice) := machine (resolveKey raw accepts) fun _ => True

/-- A process is about to make the file. -/
def Phase.makesFile : Phase → Bool
  | .generating | .opening _ | .writing _ => true
  | .settings | .looking | .reading | .resolved _ => false

/-- No thread of a process looks for the file while another one makes it, and the file system does
what it is asked for. -/
def Alone (s : State) (x : Label ℕ ℕ Choice) : Prop :=
  x.choice.fails = false ∧
    (s.pc (x.process, x.thread) = .inside .looking →
      ∀ q phase, s.pc q = .inside phase → phase.makesFile = false)

/-- The other threads have not looked for the file. -/
def Quiet (s : State) (q : ℕ × ℕ) : Prop :=
  ∀ q' phase, s.pc q' = .inside phase → q' ≠ q → phase = .settings ∨ phase = .looking

/-- What the processes without a key in the settings agree on. -/
structure Agreed (s : State) : Prop where
  /-- The key that is kept is the one in the file. -/
  cached : ∀ p key, s.cached p = some key → s.shared = some key
  /-- So is the one that was resolved. -/
  resolved : ∀ q key, s.pc q = .inside (.resolved key) → s.shared = some key
  /-- A file that is read is there. -/
  reading : ∀ q, s.pc q = .inside .reading → s.shared.isSome = true
  /-- While the file is made, no process has a key or reads one. -/
  making : ∀ q phase, s.pc q = .inside phase → phase.makesFile = true →
    (∀ p, s.cached p = none) ∧ Quiet s q

section Agreed

variable {s s' : State} {q : ℕ × ℕ} {y : Pc Phase Key}

/-- A thread moves on. What is in the file changes only while no other thread relies on it. -/
theorem Agreed.write (h : Agreed s) (hpc : s'.pc = Function.update s.pc q y)
    (hcached : ∀ p key, s'.cached p = some key → s'.shared = some key)
    (hshared : s'.shared = s.shared ∨ Quiet s q)
    (hresolved : ∀ key, y = .inside (.resolved key) → s'.shared = some key)
    (hreading : y = .inside .reading → s'.shared.isSome = true)
    (hmakes : ∀ phase, y = .inside phase → phase.makesFile = true →
      (∀ p, s'.cached p = none) ∧ Quiet s q)
    (hother : ∀ q' phase', q' ≠ q → s.pc q' = .inside phase' → phase'.makesFile = true →
      (∀ p, s'.cached p = none) ∧
        ∀ phase, y = .inside phase → phase = .settings ∨ phase = .looking) :
    Agreed s' := by
  have hpc' : ∀ {q' phase}, s'.pc q' = .inside phase →
      (q' = q ∧ y = .inside phase) ∨ (q' ≠ q ∧ s.pc q' = .inside phase) := by
    intro q' phase hphase
    rw [hpc] at hphase
    by_cases hq : q' = q
    · rw [hq, Function.update_self] at hphase
      exact .inl ⟨hq, hphase⟩
    · rw [Function.update_of_ne hq] at hphase
      exact .inr ⟨hq, hphase⟩
  refine ⟨hcached, fun q' key hphase => ?_, fun q' hphase => ?_, fun q' phase hphase hmaking => ?_⟩
  · rcases hpc' hphase with ⟨-, hy⟩ | ⟨hq, hphase⟩
    · exact hresolved key hy
    · rcases hshared with hshared | hquiet
      · rw [hshared]
        exact h.resolved q' key hphase
      · rcases hquiet q' _ hphase hq with heq | heq <;> cases heq
  · rcases hpc' hphase with ⟨-, hy⟩ | ⟨hq, hphase⟩
    · exact hreading hy
    · rcases hshared with hshared | hquiet
      · rw [hshared]
        exact h.reading q' hphase
      · rcases hquiet q' _ hphase hq with heq | heq <;> cases heq
  · rcases hpc' hphase with ⟨rfl, hy⟩ | ⟨hq, hphase⟩
    · obtain ⟨hnone, hquiet⟩ := hmakes phase hy hmaking
      refine ⟨hnone, fun q'' phase'' hphase'' hne => ?_⟩
      rcases hpc' hphase'' with ⟨heq, -⟩ | ⟨-, hphase''⟩
      · exact absurd heq hne
      · exact hquiet q'' phase'' hphase'' hne
    · obtain ⟨hnone, hy⟩ := hother q' phase hq hphase hmaking
      refine ⟨hnone, fun q'' phase'' hphase'' hne => ?_⟩
      rcases hpc' hphase'' with ⟨-, hy'⟩ | ⟨-, hphase''⟩
      · exact hy phase'' hy'
      · exact (h.making q' phase hphase hmaking).2 q'' phase'' hphase'' hne

/-- No other thread makes the file while a thread has looked for it. -/
theorem Agreed.not_makes (h : Agreed s) {phase : Phase} (hphase : s.pc q = .inside phase)
    (hsettings : phase ≠ .settings) (hlooking : phase ≠ .looking) {q' : ℕ × ℕ} {phase' : Phase}
    (hq : q' ≠ q) (hphase' : s.pc q' = .inside phase') : phase'.makesFile = false := by
  refine Bool.eq_false_iff.mpr fun hmakes => ?_
  rcases (h.making q' phase' hphase' hmakes).2 q phase hphase (Ne.symm hq) with heq | heq
  · exact hsettings heq
  · exact hlooking heq

theorem Agreed.step (h : Agreed s) {raw : List Char} (hraw : configured raw = none)
    (accepts : Key → Bool) {x : Label ℕ ℕ Choice} (halone : Alone s x) :
    Agreed (LazyInit.step (resolveKey raw accepts) s x) := by
  have hmoved := moved_step (resolveKey raw accepts) s x
  generalize LazyInit.step (resolveKey raw accepts) s x = s' at hmoved ⊢
  cases hmoved with
  | idle => exact h
  | outside s' y hshared hcached hpc hy =>
    refine h.write hpc (fun p key hkey => ?_) (.inl hshared) (fun key hkey => absurd hkey (hy _))
      (fun hkey => absurd hkey (hy _)) (fun phase hphase => absurd hphase (hy _))
      fun q' phase' _ hphase' hmakes => ⟨fun p => ?_, fun phase hphase => absurd hphase (hy _)⟩
    · rw [hcached] at hkey
      rw [hshared]
      exact h.cached p key hkey
    · rw [hcached]
      exact (h.making q' phase' hphase' hmakes).1 p
  | enter =>
    refine h.write rfl h.cached (.inl rfl) (fun key hkey => (nomatch hkey))
      (fun hkey => (nomatch hkey)) (fun phase hphase hmakes => ?_)
      fun q' phase' _ hphase' hmakes =>
        ⟨(h.making q' phase' hphase' hmakes).1, fun phase hphase => ?_⟩
    · cases hphase
      cases hmakes
    · cases hphase
      exact .inl rfl
  | work phase hphase =>
    obtain ⟨hfails, hlooks⟩ := halone
    -- whoever has looked for the file knows that no other thread makes it
    have hnone : phase ≠ .settings → ∀ q' phase', q' ≠ (x.process, x.thread) →
        s.pc q' = .inside phase' → phase'.makesFile = true → False :=
      fun hsettings q' phase' hq hphase' hmakes => by
        by_cases hlooking : phase = .looking
        · rw [hlooks (hlooking ▸ hphase) q' phase' hphase'] at hmakes
          cases hmakes
        · rw [h.not_makes hphase hsettings hlooking hq hphase'] at hmakes
          cases hmakes
    cases phase with
    | settings =>
      simp only [resolveKey, hraw]
      refine h.write rfl h.cached (.inl rfl) (fun key hkey => (nomatch hkey))
        (fun hkey => (nomatch hkey)) (fun phase hphase hmakes => ?_)
        fun q' phase' _ hphase' hmakes =>
          ⟨(h.making q' phase' hphase' hmakes).1, fun phase hphase => ?_⟩
      · cases hphase
        cases hmakes
      · cases hphase
        exact .inr rfl
    | looking =>
      have hother := hnone (fun heq => nomatch heq)
      cases hfile : s.shared with
      | some key =>
        simp only [resolveKey, Option.isSome_some, if_true]
        refine h.write rfl (fun p key hkey => ?_) (.inl hfile.symm) (fun key hkey => (nomatch hkey))
          (fun _ => rfl) (fun phase hphase hmakes => ?_)
          fun q' phase' hq hphase' hmakes => (hother q' phase' hq hphase' hmakes).elim
        · exact hfile.symm.trans (h.cached p key hkey)
        · cases hphase
          cases hmakes
      | none =>
        simp only [resolveKey, Option.isSome_none, Bool.false_eq_true, if_false]
        have hcached : ∀ p, s.cached p = none := fun p => by
          cases hkey : s.cached p with
          | none => rfl
          | some key => cases hfile.symm.trans (h.cached p key hkey)
        refine h.write rfl (fun p key hkey => ?_) (.inl hfile.symm) (fun key hkey => (nomatch hkey))
          (fun hkey => (nomatch hkey)) (fun phase hphase hmakes => ⟨hcached, ?_⟩)
          fun q' phase' hq hphase' hmakes => (hother q' phase' hq hphase' hmakes).elim
        · cases (hcached p).symm.trans hkey
        · intro q' phase' hphase' hq
          cases phase' with
          | settings => exact .inl rfl
          | looking => exact .inr rfl
          | reading =>
            have hreading := h.reading q' hphase'
            rw [hfile] at hreading
            cases hreading
          | resolved key => cases hfile.symm.trans (h.resolved q' key hphase')
          | generating => exact (hother q' _ hq hphase' rfl).elim
          | opening key => exact (hother q' _ hq hphase' rfl).elim
          | writing key => exact (hother q' _ hq hphase' rfl).elim
    | reading =>
      obtain ⟨key, hfile⟩ := Option.isSome_iff_exists.mp (h.reading _ hphase)
      simp only [resolveKey, hfile, hfails, Bool.false_eq_true, if_false]
      refine h.write rfl (fun p key' hkey => ?_) (.inl hfile.symm) (fun key' hkey => ?_)
        (fun hkey => (nomatch hkey)) (fun phase hphase hmakes => ?_)
        fun q' phase' hq hphase' hmakes =>
          (hnone (fun heq => nomatch heq) q' phase' hq hphase' hmakes).elim
      · exact hfile.symm.trans (h.cached p key' hkey)
      · cases hkey
        rfl
      · cases hphase
        cases hmakes
    | generating =>
      obtain ⟨hcached, hquiet⟩ := h.making _ _ hphase rfl
      exact h.write rfl h.cached (.inl rfl) (fun key hkey => (nomatch hkey))
        (fun hkey => (nomatch hkey)) (fun _ _ _ => ⟨hcached, hquiet⟩)
        fun q' phase' hq hphase' hmakes =>
          (hnone (fun heq => nomatch heq) q' phase' hq hphase' hmakes).elim
    | opening key =>
      obtain ⟨hcached, hquiet⟩ := h.making _ _ hphase rfl
      simp only [resolveKey, hfails, Bool.false_eq_true, if_false]
      refine h.write rfl (fun p key' hkey => ?_) (.inr hquiet) (fun key hkey => (nomatch hkey))
        (fun hkey => (nomatch hkey)) (fun _ _ _ => ⟨hcached, hquiet⟩)
        fun q' phase' hq hphase' hmakes =>
          (hnone (fun heq => nomatch heq) q' phase' hq hphase' hmakes).elim
      cases (hcached p).symm.trans hkey
    | writing key =>
      obtain ⟨hcached, hquiet⟩ := h.making _ _ hphase rfl
      simp only [resolveKey, hfails, Bool.false_eq_true, if_false]
      refine h.write rfl (fun p key' hkey => ?_) (.inr hquiet) (fun key' hkey => ?_)
        (fun hkey => (nomatch hkey)) (fun phase hphase hmakes => ?_)
        fun q' phase' hq hphase' hmakes =>
          (hnone (fun heq => nomatch heq) q' phase' hq hphase' hmakes).elim
      · cases (hcached p).symm.trans hkey
      · cases hkey
        rfl
      · cases hphase
        cases hmakes
    | resolved key =>
      have hother := hnone (fun heq => nomatch heq)
      have hfile := h.resolved _ key hphase
      simp only [resolveKey]
      by_cases haccepts : accepts key = true
      · rw [if_pos haccepts]
        refine h.write rfl (fun p key' hkey => ?_) (.inl rfl) (fun key hkey => (nomatch hkey))
          (fun hkey => (nomatch hkey)) (fun phase hphase hmakes => (nomatch hphase))
          fun q' phase' hq hphase' hmakes => (hother q' phase' hq hphase' hmakes).elim
        by_cases hp : p = x.process
        · rw [hp] at hkey
          have hkept : (settle s x.process x.thread (.value key)).cached x.process = some key :=
            Function.update_self ..
          exact hfile.trans (hkept.symm.trans hkey)
        · exact h.cached p key' ((Function.update_of_ne hp ..).symm.trans hkey)
      · rw [if_neg haccepts]
        exact h.write rfl h.cached (.inl rfl) (fun key hkey => (nomatch hkey))
          (fun hkey => (nomatch hkey)) (fun phase hphase hmakes => (nomatch hphase))
          fun q' phase' hq hphase' hmakes => (hother q' phase' hq hphase' hmakes).elim

end Agreed

/-- What the processes with a key in the settings agree on. -/
structure Settled (key : Key) (s : State) : Prop where
  /-- No other key is kept. -/
  cached : ∀ p key', s.cached p = some key' → key' = key
  /-- No other key is resolved, and nobody looks for the file. -/
  inside : ∀ q phase, s.pc q = .inside phase → phase = .settings ∨ phase = .resolved key

theorem Settled.step {key : Key} {s : State} (h : Settled key s) {raw : List Char}
    (hraw : configured raw = some key) (accepts : Key → Bool) (x : Label ℕ ℕ Choice) :
    Settled key (LazyInit.step (resolveKey raw accepts) s x) := by
  have hpc : ∀ {s' : State} {y : Pc Phase Key},
      s'.pc = Function.update s.pc (x.process, x.thread) y →
      (∀ phase, y = .inside phase → phase = .settings ∨ phase = .resolved key) →
      ∀ q phase, s'.pc q = .inside phase → phase = .settings ∨ phase = .resolved key :=
    fun {s' y} hpc hy q phase hphase => by
      rw [hpc] at hphase
      by_cases hq : q = (x.process, x.thread)
      · rw [hq, Function.update_self] at hphase
        exact hy phase hphase
      · rw [Function.update_of_ne hq] at hphase
        exact h.inside q phase hphase
  have hmoved := moved_step (resolveKey raw accepts) s x
  generalize LazyInit.step (resolveKey raw accepts) s x = s' at hmoved ⊢
  cases hmoved with
  | idle => exact h
  | outside s' y hshared hcached hpc' hy =>
    exact ⟨fun p key' hkey => h.cached p key' (hcached ▸ hkey),
      hpc hpc' fun phase hphase => absurd hphase (hy phase)⟩
  | enter =>
    refine ⟨h.cached, hpc rfl fun phase hphase => ?_⟩
    cases hphase
    exact .inl rfl
  | work phase hphase =>
    rcases h.inside _ phase hphase with rfl | rfl
    · simp only [resolveKey, hraw]
      refine ⟨h.cached, hpc rfl fun phase hphase => ?_⟩
      cases hphase
      exact .inr rfl
    · simp only [resolveKey]
      by_cases haccepts : accepts key = true
      · rw [if_pos haccepts]
        refine ⟨fun p key' hkey => ?_, hpc rfl fun phase hphase => (nomatch hphase)⟩
        by_cases hp : p = x.process
        · have hkept : (settle s x.process x.thread (.value key)).cached x.process = some key :=
            Function.update_self ..
          exact (Option.some.inj (hkept.symm.trans (hp ▸ hkey))).symm
        · exact h.cached p key' ((Function.update_of_ne hp ..).symm.trans hkey)
      · rw [if_neg haccepts]
        exact ⟨h.cached, hpc rfl fun phase hphase => (nomatch hphase)⟩

/-! ## Agreement -/

section Agreement

variable {raw : List Char} {accepts : Key → Bool} {s : State}

theorem settled_reachable {key : Key} (hraw : configured raw = some key)
    (h : (system raw accepts).Reachable Machine.anyStep s) : Settled key s := by
  refine h.invariant (Settled key) (fun s hs => ?_) fun s x hs _ => hs.step hraw accepts x
  obtain ⟨-, hcached, -, hpc⟩ := hs
  rw [funext_iff] at hcached hpc
  exact ⟨fun p key' hkey => (nomatch (hcached p).symm.trans hkey),
    fun q phase hphase => (nomatch (hpc q).symm.trans hphase)⟩

/-- Without one, processes that are alone while they look for the file agree. -/
theorem agreed_reachable (hraw : configured raw = none)
    (h : (system raw accepts).Reachable Alone s) : Agreed s := by
  refine h.invariant Agreed (fun s hs => ?_) fun s x hs halone => hs.step hraw accepts halone
  obtain ⟨-, hcached, -, hpc⟩ := hs
  rw [funext_iff] at hcached hpc
  exact ⟨fun p key hkey => (nomatch (hcached p).symm.trans hkey),
    fun q key hkey => (nomatch (hpc q).symm.trans hkey),
    fun q hkey => (nomatch (hpc q).symm.trans hkey),
    fun q phase hphase => (nomatch (hpc q).symm.trans hphase)⟩

theorem cached_run (raw : List Char) (accepts : Key → Bool) (h : Inv s) {p : ℕ} {key : Key}
    (hkey : s.cached p = some key) (steps : List (Label ℕ ℕ Choice)) :
    Inv ((system raw accepts).run s steps) ∧
      ((system raw accepts).run s steps).cached p = some key := by
  induction steps generalizing s with
  | nil => exact ⟨h, hkey⟩
  | cons x steps ih => exact ih (h.step _ x) (h.cached_step _ x hkey)

end Agreement

-- Two processes that look for the file before either has written it use different keys.
example :
    let start : State := ⟨none, fun _ => none, fun _ => none, fun _ => .idle⟩
    let step := fun process key => Label.mk process 0 (Choice.mk [key] false 0)
    let both := [step 0 'a', step 1 'b']
    let s := (system [] fun _ => true).run start
      (both ++ both ++ both ++ both ++ both ++ both ++ both ++ both ++ both)
    s.pc (0, 0) = .done ['a'] ∧ s.pc (1, 0) = .done ['b'] := ⟨rfl, rfl⟩

end ProxmoxIaas.FieldKey
