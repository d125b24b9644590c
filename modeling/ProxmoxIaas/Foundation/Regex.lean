import Mathlib.Computability.Language

/-!
# Regular Expressions

Expressions over classes of characters, with sequences and repetitions between two bounds, and the
search for them at the start of a text. Between the anchors `^` and `$` the text has to end where
the search does, or right before a line feed that is its last character.

## Main results

- `Regex.mem_rests_iff`: the search finds the words of the language of an expression.
- `Regex.accepts_iff`: what is accepted between the anchors.
- `Regex.mem_seq_oneOf_iff`, `Regex.mem_repeated_oneOf_iff`: the languages of the usual pieces.
-/

universe u

/-- A regular expression. -/
inductive Regex (α : Type u) where
  /-- One character of a class. -/
  | oneOf (allowed : α → Bool)
  /-- One expression after the other. -/
  | seq (first second : Regex α)
  /-- An expression, as many times as two bounds allow. -/
  | repeated (item : Regex α) (min max : ℕ)

namespace Regex

variable {α : Type u}

/-- What may be left of a text after an expression was found a number of times. -/
def times (rests : List α → List (List α)) : ℕ → List α → List (List α)
  | 0, text => [text]
  | n + 1, text => (rests text).flatMap (times rests n)

/-- What may be left of a text after an expression was found at its start. -/
def rests : Regex α → List α → List (List α)
  | .oneOf _, [] => []
  | .oneOf allowed, c :: rest => if allowed c then [rest] else []
  | .seq first second, text => (first.rests text).flatMap second.rests
  | .repeated item min max, text =>
    (List.range' min (max + 1 - min)).flatMap fun n => times item.rests n text

/-- `re.match` for an expression between `^` and `$`. -/
def accepts [DecidableEq α] (regex : Regex α) (lineFeed : α) (text : List α) : Bool :=
  (regex.rests text).any fun rest => rest = [] || rest = [lineFeed]

/-- The words of an expression. -/
def language : Regex α → Language α
  | .oneOf allowed => {word | ∃ c, allowed c = true ∧ word = [c]}
  | .seq first second => first.language * second.language
  | .repeated item min max => {word | ∃ n, min ≤ n ∧ n ≤ max ∧ word ∈ item.language ^ n}

section Search

variable {regex : Regex α} {text rest word : List α}

/-- A search that finds the words of a language finds its powers if it is repeated. -/
theorem mem_times_iff {search : List α → List (List α)} {l : Language α}
    (h : ∀ text rest, rest ∈ search text ↔ ∃ word ∈ l, word ++ rest = text) {n : ℕ} :
    rest ∈ times search n text ↔ ∃ word ∈ l ^ n, word ++ rest = text := by
  induction n generalizing text with
  | zero =>
    rw [times, List.mem_singleton, pow_zero]
    constructor
    · rintro rfl
      exact ⟨[], Language.nil_mem_one, rfl⟩
    · rintro ⟨word, hword, rfl⟩
      rw [(Language.mem_one word).mp hword, List.nil_append]
  | succ n ih =>
    rw [times, List.mem_flatMap, pow_succ']
    constructor
    · rintro ⟨middle, hmiddle, hrest⟩
      obtain ⟨first, hfirst, rfl⟩ := (h _ _).mp hmiddle
      obtain ⟨others, hothers, rfl⟩ := ih.mp hrest
      exact ⟨first ++ others, Language.append_mem_mul hfirst hothers, List.append_assoc ..⟩
    · rintro ⟨word, hword, rfl⟩
      obtain ⟨first, hfirst, others, hothers, rfl⟩ := Language.mem_mul.mp hword
      exact ⟨others ++ rest, (h _ _).mpr ⟨first, hfirst, (List.append_assoc ..).symm⟩,
        ih.mpr ⟨others, hothers, rfl⟩⟩

/-- The search finds the words of the language at the start of a text. -/
theorem mem_rests_iff :
    rest ∈ regex.rests text ↔ ∃ word ∈ regex.language, word ++ rest = text := by
  induction regex generalizing text rest with
  | oneOf allowed =>
    cases text with
    | nil =>
      refine iff_of_false List.not_mem_nil ?_
      rintro ⟨word, ⟨c, -, rfl⟩, heq⟩
      cases heq
    | cons c text =>
      constructor
      · intro h
        rw [rests] at h
        split_ifs at h with hc
        · exact ⟨[c], ⟨c, hc, rfl⟩, congrArg (c :: ·) (List.mem_singleton.mp h)⟩
        · cases h
      · rintro ⟨word, ⟨d, hd, rfl⟩, heq⟩
        cases heq
        rw [rests, if_pos hd]
        exact List.mem_singleton_self _
  | seq first second ihfirst ihsecond =>
    rw [rests, List.mem_flatMap]
    constructor
    · rintro ⟨middle, hmiddle, hrest⟩
      obtain ⟨word, hword, rfl⟩ := ihfirst.mp hmiddle
      obtain ⟨word', hword', rfl⟩ := ihsecond.mp hrest
      exact ⟨word ++ word', Language.append_mem_mul hword hword', List.append_assoc ..⟩
    · rintro ⟨word, hword, rfl⟩
      obtain ⟨word₁, hword₁, word₂, hword₂, rfl⟩ := Language.mem_mul.mp hword
      exact ⟨word₂ ++ rest, ihfirst.mpr ⟨word₁, hword₁, (List.append_assoc ..).symm⟩,
        ihsecond.mpr ⟨word₂, hword₂, rfl⟩⟩
  | repeated item min max ih =>
    rw [rests, List.mem_flatMap]
    constructor
    · rintro ⟨n, hn, hrest⟩
      obtain ⟨word, hword, rfl⟩ := (mem_times_iff fun _ _ => ih).mp hrest
      have hbounds := List.mem_range'_1.mp hn
      exact ⟨word, ⟨n, hbounds.1, by omega, hword⟩, rfl⟩
    · rintro ⟨word, ⟨n, hmin, hmax, hword⟩, rfl⟩
      exact ⟨n, List.mem_range'_1.mpr ⟨hmin, by omega⟩,
        (mem_times_iff fun _ _ => ih).mpr ⟨word, hword, rfl⟩⟩

/-- Accepted are the words, and the words with a line feed behind them. -/
theorem accepts_iff [DecidableEq α] {lineFeed : α} :
    regex.accepts lineFeed text = true ↔
      text ∈ regex.language ∨ ∃ line ∈ regex.language, text = line ++ [lineFeed] := by
  simp only [accepts, List.any_eq_true, Bool.or_eq_true, decide_eq_true_eq]
  constructor
  · rintro ⟨rest, hrest, rfl | rfl⟩
    · obtain ⟨word, hword, rfl⟩ := mem_rests_iff.mp hrest
      exact Or.inl ((List.append_nil word).symm ▸ hword)
    · obtain ⟨word, hword, rfl⟩ := mem_rests_iff.mp hrest
      exact Or.inr ⟨word, hword, rfl⟩
  · rintro (htext | ⟨line, hline, rfl⟩)
    · exact ⟨[], mem_rests_iff.mpr ⟨text, htext, List.append_nil text⟩, Or.inl rfl⟩
    · exact ⟨[lineFeed], mem_rests_iff.mpr ⟨line, hline, rfl⟩, Or.inr rfl⟩

end Search

section Language

variable {allowed : α → Bool} {word : List α} {c : α}

/-- The words of a class and an expression after it. -/
theorem mem_seq_oneOf_iff {regex : Regex α} :
    word ∈ (seq (oneOf allowed) regex).language ↔
      ∃ c rest, allowed c = true ∧ rest ∈ regex.language ∧ word = c :: rest := by
  rw [language, Language.mem_mul]
  constructor
  · rintro ⟨_, ⟨c, hc, rfl⟩, rest, hrest, rfl⟩
    exact ⟨c, rest, hc, hrest, rfl⟩
  · rintro ⟨c, rest, hc, hrest, rfl⟩
    exact ⟨[c], ⟨c, hc, rfl⟩, rest, hrest, rfl⟩

/-- The words of an expression and a class after it. -/
theorem mem_seq_oneOf_right_iff {regex : Regex α} :
    word ∈ (seq regex (oneOf allowed)).language ↔
      ∃ start c, start ∈ regex.language ∧ allowed c = true ∧ word = start ++ [c] := by
  rw [language, Language.mem_mul]
  constructor
  · rintro ⟨start, hstart, _, ⟨c, hc, rfl⟩, rfl⟩
    exact ⟨start, c, hstart, hc, rfl⟩
  · rintro ⟨start, c, hstart, hc, rfl⟩
    exact ⟨start, hstart, [c], ⟨c, hc, rfl⟩, rfl⟩

/-- The words of a class that is repeated a number of times. -/
theorem mem_pow_oneOf_iff {n : ℕ} :
    word ∈ (oneOf allowed).language ^ n ↔ word.length = n ∧ ∀ c ∈ word, allowed c = true := by
  induction n generalizing word with
  | zero =>
    rw [pow_zero, Language.mem_one, List.length_eq_zero_iff]
    exact ⟨fun h => ⟨h, h ▸ nofun⟩, fun h => h.1⟩
  | succ n ih =>
    rw [pow_succ', Language.mem_mul]
    constructor
    · rintro ⟨_, ⟨c, hc, rfl⟩, rest, hrest, rfl⟩
      obtain ⟨rfl, hall⟩ := ih.mp hrest
      exact ⟨rfl, List.forall_mem_cons.mpr ⟨hc, hall⟩⟩
    · rintro ⟨hlength, hall⟩
      cases word with
      | nil => cases hlength
      | cons c rest =>
        obtain ⟨hc, hrest⟩ := List.forall_mem_cons.mp hall
        exact ⟨[c], ⟨c, hc, rfl⟩, rest, ih.mpr ⟨Nat.succ.inj hlength, hrest⟩, rfl⟩

/-- The words of a class that is repeated between two bounds. -/
theorem mem_repeated_oneOf_iff {min max : ℕ} :
    word ∈ (repeated (oneOf allowed) min max).language ↔
      (min ≤ word.length ∧ word.length ≤ max) ∧ ∀ c ∈ word, allowed c = true := by
  constructor
  · rintro ⟨n, hmin, hmax, hword⟩
    obtain ⟨rfl, hall⟩ := mem_pow_oneOf_iff.mp hword
    exact ⟨⟨hmin, hmax⟩, hall⟩
  · rintro ⟨⟨hmin, hmax⟩, hall⟩
    exact ⟨word.length, hmin, hmax, mem_pow_oneOf_iff.mpr ⟨rfl, hall⟩⟩

end Language

end Regex
