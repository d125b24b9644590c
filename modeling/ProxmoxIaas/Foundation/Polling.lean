import Mathlib.Data.PNat.Defs
import Mathlib.Tactic.TypeStar

/-!
# Polling and Retrying

Programs that send a request again and again, until an answer settles the matter, a deadline has
passed, or a number of attempts has failed. What is outside may give any answer to any request, and
take any time for it; the program keeps a record of what was said.

## Main results

- `Polling.ended_poll`: how a poll ends, what was said until then, and how often it has asked.
- `Polling.Tells.andThen`: the rule for one action after another.
- `Polling.Tells.retry`: the rule for attempts.
-/

namespace Polling

variable {ρ α σ β ε : Type*}

/-- What is outside: the answer to each request, and how long it takes. -/
structure Outside (ρ α : Type*) where
  /-- The answer to a request, which may depend on how many there were before. -/
  answer : ℕ → ρ → α
  /-- The time until it comes. -/
  duration : ℕ → ℕ

/-- What was said so far, and the time. -/
structure Trace (ρ α : Type*) where
  /-- The requests with their answers, in order. -/
  log : List (ρ × α)
  /-- The time. -/
  now : ℕ

namespace Trace

/-- The answer to the next request. -/
def reply (o : Outside ρ α) (r : ρ) (t : Trace ρ α) : α := o.answer t.log.length r

/-- Send a request. -/
def exchange (o : Outside ρ α) (r : ρ) (t : Trace ρ α) : Trace ρ α where
  log := t.log ++ [(r, t.reply o r)]
  now := t.now + o.duration t.log.length

/-- Wait. -/
def sleep (time : ℕ) (t : Trace ρ α) : Trace ρ α := { t with now := t.now + time }

@[simp]
theorem log_sleep (time : ℕ) (t : Trace ρ α) : (t.sleep time).log = t.log := rfl

/-- Time does not go back. -/
theorem now_le_exchange (o : Outside ρ α) (r : ρ) (t : Trace ρ α) : t.now ≤ (t.exchange o r).now :=
  Nat.le_add_right ..

end Trace

/-- What a poll makes of an answer. -/
inductive Verdict (σ β : Type*) where
  /-- Ask again, in a new state. -/
  | more (s : σ)
  /-- The matter is settled. -/
  | done (b : β)

/-- Ask until the matter is settled or the deadline has passed, with pauses in between. -/
def poll (o : Outside ρ α) (r : ρ) (judge : σ → α → Verdict σ β) (late : β) (deadline : ℕ)
    (pause : ℕ+) (s : σ) (t : Trace ρ α) : β × Trace ρ α :=
  if t.now < deadline then
    match judge s (t.reply o r) with
    | .done b => (b, t.exchange o r)
    | .more s' => poll o r judge late deadline pause s' ((t.exchange o r).sleep pause)
  else (late, t)
termination_by deadline - t.now
decreasing_by
  have hpause := pause.pos
  have hnow := t.now_le_exchange o r
  simp only [Trace.sleep]
  omega

/-- The state after answers that do not settle the matter. -/
def stateAfter (judge : σ → α → Verdict σ β) : σ → List α → Option σ
  | s, [] => some s
  | s, a :: answers =>
    match judge s a with
    | .more s' => stateAfter judge s' answers
    | .done _ => none

/-- Make another attempt as long as there are some left and the error is one to try again after. -/
def retry (body : Trace ρ α → Except ε β × Trace ρ α) (again : ε → Bool) (wait : ℕ → ℕ) :
    ℕ → ℕ → Trace ρ α → Except ε β × Trace ρ α
  | 0, _, t => body t
  | left + 1, attempt, t =>
    match body t with
    | (.ok b, t') => (.ok b, t')
    | (.error e, t') =>
      if again e then retry body again wait left (attempt + 1) (t'.sleep (wait attempt))
      else (.error e, t')

/-- Go on with the value, unless there is an exception. -/
def andThen {γ : Type*} (first : Trace ρ α → Except ε β × Trace ρ α)
    (next : β → Trace ρ α → Except ε γ × Trace ρ α) (t : Trace ρ α) : Except ε γ × Trace ρ α :=
  match first t with
  | (.ok b, t') => next b t'
  | (.error e, t') => (.error e, t')

/-- What an action says and how it ends are as stated, whatever was said before. -/
def Tells (action : Trace ρ α → Except ε β × Trace ρ α)
    (P : List (ρ × α) → Except ε β → Prop) : Prop :=
  ∀ t, ∃ log, (action t).2.log = t.log ++ log ∧ P log (action t).1

theorem stateAfter_append (judge : σ → α → Verdict σ β) (s : σ) (answers answers' : List α) :
    stateAfter judge s (answers ++ answers') =
      (stateAfter judge s answers).bind fun s' => stateAfter judge s' answers' := by
  induction answers generalizing s with
  | nil => rfl
  | cons b answers ih =>
    rw [List.cons_append, stateAfter, stateAfter]
    cases judge s b with
    | more s' => exact ih s'
    | done b => rfl

/-- The requests of a poll are all the same. -/
theorem fst_of_mem_map {r : ρ} {answers : List α} {exchange : ρ × α}
    (h : exchange ∈ answers.map (r, ·)) : exchange.1 = r := by
  obtain ⟨a, -, rfl⟩ := List.mem_map.mp h
  rfl

theorem map_snd_map (r : ρ) (answers : List α) : (answers.map (r, ·)).map Prod.snd = answers := by
  rw [List.map_map]
  exact List.map_id answers

/-- Where there is nothing of a kind, none is counted. -/
theorem countP_eq_zero_of_forall {kind : ρ × α → Bool} {log : List (ρ × α)}
    (h : ∀ exchange ∈ log, kind exchange = false) : log.countP kind = 0 :=
  List.countP_eq_zero.mpr fun exchange hmem => Bool.eq_false_iff.mp (h exchange hmem)

section Tells

variable {γ : Type*} {first : Trace ρ α → Except ε β × Trace ρ α}
  {next : β → Trace ρ α → Except ε γ × Trace ρ α} {P : List (ρ × α) → Except ε β → Prop}

theorem tells_pure (result : Except ε β) :
    Tells (fun t : Trace ρ α => (result, t)) fun log r => log = [] ∧ r = result :=
  fun _ => ⟨[], (List.append_nil _).symm, rfl, rfl⟩

theorem tells_exchange (o : Outside ρ α) (r : ρ) (read : α → Except ε β) :
    Tells (fun t => (read (t.reply o r), t.exchange o r)) fun log result =>
      ∃ a, log = [(r, a)] ∧ result = read a :=
  fun t => ⟨[(r, t.reply o r)], rfl, t.reply o r, rfl, rfl⟩

theorem Tells.sleep (time : ℕ) (h : Tells first P) :
    Tells (fun t => first (t.sleep time)) P := fun t => h (t.sleep time)

/-- What is shown may be weakened. -/
theorem Tells.imp {Q : List (ρ × α) → Except ε β → Prop} (h : Tells first P)
    (himp : ∀ log result, P log result → Q log result) : Tells first Q := fun t =>
  let ⟨log, hlog, hresult⟩ := h t
  ⟨log, hlog, himp log _ hresult⟩

theorem Tells.andThen {Q : β → List (ρ × α) → Except ε γ → Prop} (h : Tells first P)
    (hnext : ∀ b, Tells (next b) (Q b)) :
    Tells (andThen first next) fun log result =>
      (∃ e, result = .error e ∧ P log (.error e)) ∨
        ∃ b log₁ log₂, log = log₁ ++ log₂ ∧ P log₁ (.ok b) ∧ Q b log₂ result := by
  intro t
  obtain ⟨log, hlog, hresult⟩ := h t
  unfold Polling.andThen
  match hfirst : first t with
  | (.error e, t') =>
    rw [hfirst] at hlog hresult
    exact ⟨log, hlog, .inl ⟨e, rfl, hresult⟩⟩
  | (.ok b, t') =>
    rw [hfirst] at hlog hresult
    obtain ⟨log', hlog', hresult'⟩ := hnext b t'
    refine ⟨log ++ log', ?_, .inr ⟨b, log, log', rfl, hresult, hresult'⟩⟩
    rw [hlog', hlog, List.append_assoc]

end Tells

section Poll

variable {o : Outside ρ α} {r : ρ} {judge : σ → α → Verdict σ β} {late : β} {deadline : ℕ}
  {pause : ℕ+} {s : σ} {t : Trace ρ α}

/-- A poll whose deadline has passed. -/
theorem poll_of_le (h : deadline ≤ t.now) :
    poll o r judge late deadline pause s t = (late, t) := by
  rw [poll, if_neg (Nat.not_lt.mpr h)]

/-- A poll whose matter is settled by the next answer. -/
theorem poll_of_done {b : β} (h : t.now < deadline) (hjudge : judge s (t.reply o r) = .done b) :
    poll o r judge late deadline pause s t = (b, t.exchange o r) := by
  rw [poll, if_pos h, hjudge]

/-- A poll that goes on after the next answer. -/
theorem poll_of_more {s' : σ} (h : t.now < deadline)
    (hjudge : judge s (t.reply o r) = .more s') :
    poll o r judge late deadline pause s t =
      poll o r judge late deadline pause s' ((t.exchange o r).sleep pause) := by
  rw [poll, if_pos h, hjudge]

/-- How a poll ends: late, or with an answer that settles the matter. In both cases it has asked
once for each pause until the deadline, and perhaps once more. -/
inductive Ended (r : ρ) (judge : σ → α → Verdict σ β) (late : β) (budget : ℕ) (pause : ℕ+) (s : σ)
    (before : List (ρ × α)) : β → List (ρ × α) → Prop where
  /-- No answer has settled the matter. -/
  | late (answers : List α) (hmore : (stateAfter judge s answers).isSome = true)
    (hlength : answers.length * pause < budget + pause) :
    Ended r judge late budget pause s before late (before ++ answers.map (r, ·))
  /-- The last answer has settled it. -/
  | done (answers : List α) (s' : σ) (a : α) (b : β)
    (hafter : stateAfter judge s answers = some s') (hdone : judge s' a = .done b)
    (hlength : (answers.length + 1) * pause < budget + pause) :
    Ended r judge late budget pause s before b (before ++ (answers ++ [a]).map (r, ·))

/-- One more pause takes as long as it does. -/
theorem length_succ_mul_lt {n now now' : ℕ} (hnow : now < deadline) (hpause : now + pause ≤ now')
    (h : n * pause < deadline - now' + pause) : (n + 1) * pause < deadline - now + pause := by
  have hpos := pause.pos
  cases n with
  | zero =>
    rw [Nat.zero_add, Nat.one_mul]
    omega
  | succ n =>
    rw [Nat.add_mul, Nat.one_mul] at h ⊢
    rw [Nat.add_mul, Nat.one_mul]
    omega

/-- A poll that goes on ends as it does after the first answer. -/
theorem Ended.cons {a : α} {s' : σ} {before : List (ρ × α)} {now now' : ℕ} (hnow : now < deadline)
    (hpause : now + pause ≤ now') (hjudge : judge s a = .more s') {b : β} {log : List (ρ × α)}
    (h : Ended r judge late (deadline - now') pause s' (before ++ [(r, a)]) b log) :
    Ended r judge late (deadline - now) pause s before b log := by
  have hafter : ∀ answers : List α,
      stateAfter judge s (a :: answers) = stateAfter judge s' answers := fun answers => by
    rw [stateAfter, hjudge]
  have hlog : ∀ answers : List α, before ++ [(r, a)] ++ answers.map (r, ·) =
      before ++ (a :: answers).map (r, ·) := fun answers => List.append_assoc ..
  cases h with
  | late answers hmore hlength =>
    rw [hlog]
    exact .late (a :: answers) ((hafter answers).symm ▸ hmore)
      (length_succ_mul_lt hnow hpause hlength)
  | done answers s'' last b hstate hdone hlength =>
    rw [hlog]
    exact .done (a :: answers) s'' last b ((hafter answers).trans hstate) hdone
      (length_succ_mul_lt hnow hpause hlength)

theorem ended_poll (o : Outside ρ α) (r : ρ) (judge : σ → α → Verdict σ β) (late : β)
    (deadline : ℕ) (pause : ℕ+) (s : σ) (t : Trace ρ α) :
    Ended r judge late (deadline - t.now) pause s t.log
      (poll o r judge late deadline pause s t).1
      (poll o r judge late deadline pause s t).2.log := by
  have hpause := pause.pos
  induction s, t using poll.induct o r judge deadline pause with
  | case1 s t hnow b hjudge =>
    have hlength : (([] : List α).length + 1) * (pause : ℕ) < deadline - t.now + pause := by
      rw [List.length_nil, Nat.zero_add, Nat.one_mul]
      omega
    have hdone : Ended r judge late (deadline - t.now) pause s t.log b
        (t.log ++ [(r, t.reply o r)]) := .done [] s _ b rfl hjudge hlength
    rw [poll_of_done hnow hjudge]
    exact hdone
  | case2 s t hnow s' hjudge ih =>
    rw [poll_of_more hnow hjudge]
    exact Ended.cons hnow (Nat.add_le_add_right (t.now_le_exchange o r) pause) hjudge ih
  | case3 s t hnow =>
    have hlength : ([] : List α).length * (pause : ℕ) < deadline - t.now + pause := by
      rw [List.length_nil, Nat.zero_mul]
      omega
    have hlate : Ended r judge late (deadline - t.now) pause s t.log late
        (t.log ++ ([] : List α).map (r, ·)) := .late [] rfl hlength
    rw [poll_of_le (Nat.le_of_not_lt hnow)]
    rwa [List.map_nil, List.append_nil] at hlate

end Poll

section Retry

/-- Attempts, of which each is as stated: each but the last one fails with an error to try again
after, and there are no more than are left. -/
inductive Retried (P : List (ρ × α) → Except ε β → Prop) (again : ε → Bool) :
    ℕ → List (ρ × α) → Except ε β → Prop where
  /-- The last attempt. -/
  | last (left : ℕ) (log : List (ρ × α)) (result : Except ε β) (h : P log result) :
    Retried P again left log result
  /-- An attempt that is followed by others. -/
  | more (left : ℕ) (log : List (ρ × α)) (e : ε) (rest : List (ρ × α)) (result : Except ε β)
    (h : P log (.error e)) (hagain : again e = true) (hrest : Retried P again left rest result) :
    Retried P again (left + 1) (log ++ rest) result

theorem Tells.retry {body : Trace ρ α → Except ε β × Trace ρ α}
    {P : List (ρ × α) → Except ε β → Prop} (h : Tells body P) (again : ε → Bool) (wait : ℕ → ℕ)
    (left attempt : ℕ) : Tells (retry body again wait left attempt) (Retried P again left) := by
  induction left generalizing attempt with
  | zero => exact h.imp fun log result => .last 0 log result
  | succ left ih =>
    intro t
    obtain ⟨log, hlog, hresult⟩ := h t
    rw [Polling.retry]
    match hbody : body t with
    | (.ok b, t') =>
      rw [hbody] at hlog hresult
      exact ⟨log, hlog, .last _ log _ hresult⟩
    | (.error e, t') =>
      rw [hbody] at hlog hresult
      by_cases he : again e = true
      · obtain ⟨rest, hrest, hretried⟩ := ih (attempt + 1) (t'.sleep (wait attempt))
        simp only [if_pos he]
        refine ⟨log ++ rest, ?_, .more left log e rest _ hresult he hretried⟩
        rw [hrest, Trace.log_sleep, hlog, List.append_assoc]
      · simp only [if_neg he]
        exact ⟨log, hlog, .last _ log _ hresult⟩

end Retry

end Polling
