import Mathlib.Algebra.Order.Ring.Int
import Mathlib.Data.List.Infix
import Mathlib.Data.List.TakeWhile
import Mathlib.Tactic.Conv

/-!
# Text Operations

The operations on texts that dotted quads, CIDR ranges and firewall rules are read and written
with: splitting and joining at a separator, reading a decimal integer, and the case of letters.
A text is handled as the list of its characters.

## Main results

- `Text.split_join`: joining parts that do not contain the separator, and splitting again.
- `Text.nat?_digits`, `Text.int?_toString`: a printed number is read back.
- `Text.infix_iff_exists_split`: what lies within a text lies within one of its lines.
-/

namespace Text

/-- The decimal digits of a natural number. -/
def digits (n : ℕ) : List Char := Nat.toDigits 10 n

/-- Split at every occurrence of a separator. -/
def split (sep : Char) (text : List Char) : List (List Char) := text.splitOn sep

/-- Join parts with a separator. -/
def join (sep : Char) (parts : List (List Char)) : List Char := [sep].intercalate parts

/-- The part before the first separator, or the whole text. -/
def before (sep : Char) (text : List Char) : List Char := text.takeWhile (· != sep)

/-- The part after the last separator, if there is one. -/
def afterLast? (sep : Char) (text : List Char) : Option (List Char) :=
  if sep ∈ text then (split sep text).getLast? else none

/-- Remove white space at both ends. -/
def strip (text : List Char) : List Char :=
  ((text.dropWhile Char.isWhitespace).reverse.dropWhile Char.isWhitespace).reverse

/-- Read a sequence of decimal digits, in which single underscores may separate digits. -/
def nat? (text : List Char) : Option ℕ :=
  let groups := split '_' text
  if groups.all fun group => group ≠ [] && group.all Char.isDigit then
    some (Nat.ofDigitChars 10 groups.flatten 0)
  else none

/-- Read an integer: white space around it is ignored, and it may have a sign. -/
def int? (text : List Char) : Option ℤ :=
  match strip text with
  | '-' :: rest => (nat? rest).map fun n => -Int.ofNat n
  | '+' :: rest => (nat? rest).map Int.ofNat
  | rest => (nat? rest).map Int.ofNat

/-- The text with small letters. -/
def lower (text : String) : String := .ofList (text.toList.map Char.toLower)

/-- The text with capital letters. -/
def upper (text : String) : String := .ofList (text.toList.map Char.toUpper)

/-- The first characters of a text. -/
def take (n : ℕ) (text : String) : String := .ofList (text.toList.take n)

/-- Whether a text starts with another. -/
def startsWith (text start : String) : Bool := start.toList.isPrefixOf text.toList

/-- Whether a text matches a pattern of `LIKE`: `%` stands for any text, `_` for any character, and a
character after a backslash for itself. -/
def like : List Char → List Char → Bool
  | [], text => text.isEmpty
  | '%' :: pattern, text =>
    (List.range (text.length + 1)).any fun n => like pattern (text.drop n)
  | '_' :: pattern, _ :: text => like pattern text
  | '\\' :: c :: pattern, d :: text => c = d && like pattern text
  | c :: pattern, d :: text => c = d && like pattern text
  | _ :: _, [] => false

/-- Splitting undoes joining if no part contains the separator. -/
theorem split_join {sep : Char} {parts : List (List Char)} (hne : parts ≠ [])
    (hsep : ∀ part ∈ parts, sep ∉ part) : split sep (join sep parts) = parts :=
  List.splitOn_intercalate sep hsep hne

/-- A joined text has the separator and the characters of its parts. -/
theorem mem_of_mem_join {sep c : Char} {parts : List (List Char)} (h : c ∈ join sep parts) :
    c = sep ∨ ∃ part ∈ parts, c ∈ part := by
  obtain ⟨piece, hpiece, hc⟩ := List.mem_flatten.mp h
  induction parts with
  | nil => cases hpiece
  | cons part parts ih =>
    cases parts with
    | nil =>
      rw [List.intersperse_singleton, List.mem_singleton] at hpiece
      exact Or.inr ⟨part, List.mem_cons_self, hpiece ▸ hc⟩
    | cons next parts =>
      rw [List.intersperse_cons_cons, List.mem_cons, List.mem_cons] at hpiece
      obtain rfl | rfl | hpiece := hpiece
      · exact Or.inr ⟨piece, List.mem_cons_self, hc⟩
      · exact Or.inl (List.mem_singleton.mp hc)
      · have htail := ih (List.mem_flatten.mpr ⟨piece, hpiece, hc⟩) hpiece
        exact htail.imp_right fun ⟨p, hp, hmem⟩ => ⟨p, List.mem_cons_of_mem part hp, hmem⟩

/-- A text without the separator is its own part before it. -/
theorem before_of_not_mem {sep : Char} {text : List Char} (h : sep ∉ text) :
    before sep text = text := by
  refine List.takeWhile_eq_self_iff.mpr fun c hc => ?_
  rw [bne_iff_ne]
  rintro rfl
  exact h hc

/-- The part before the first separator does not contain it. -/
theorem not_mem_before {sep : Char} {text : List Char} : sep ∉ before sep text := fun h => by
  have hne := List.mem_takeWhile_imp h
  rw [bne_self_eq_false] at hne
  exact Bool.false_ne_true hne

/-- What comes before the first separator is not changed by an append after it. -/
theorem before_append_cons {sep : Char} {text rest : List Char} :
    before sep (text ++ sep :: rest) = before sep text := by
  unfold before
  induction text with
  | nil => simp
  | cons c text ih =>
    by_cases hc : c = sep
    · simp [hc]
    · simp [hc, ih]

/-- The first part of a split is the part before the first separator. -/
theorem head?_split {sep : Char} {text : List Char} :
    (split sep text).head? = some (before sep text) := by
  unfold split before
  induction text with
  | nil => rfl
  | cons c text ih =>
    rw [List.splitOn_cons_eq_if_modifyHead, List.takeWhile_cons]
    by_cases hc : c = sep
    · simp [hc]
    · -- the first character joins the part that the rest starts with
      rw [if_neg (by simpa using hc), if_pos (by simpa using hc), List.head?_modifyHead, ih]
      rfl

/-- A text without the separator is its only part. -/
theorem split_of_not_mem {sep : Char} {text : List Char} (h : sep ∉ text) :
    split sep text = [text] := by
  have hjoin : join sep [text] = text := by simp [join]
  conv_lhs => rw [← hjoin]
  exact split_join (List.cons_ne_nil _ _) fun part hpart => by
    rwa [List.mem_singleton.mp hpart]

/-- The digits of a number are digits. -/
theorem isDigit_of_mem_digits {n : ℕ} {c : Char} (h : c ∈ digits n) : c.isDigit = true :=
  Nat.isDigit_of_mem_toDigits (by decide) (by decide) h

/-- A character that is no digit does not occur among the digits of a number. -/
theorem not_mem_digits {c : Char} (h : c.isDigit = false) (n : ℕ) : c ∉ digits n := fun hc =>
  Bool.false_ne_true (h.symm.trans (isDigit_of_mem_digits hc))

/-- A digit is no white space. -/
private theorem isWhitespace_of_isDigit {c : Char} (h : c.isDigit = true) :
    c.isWhitespace = false := by
  simp only [Char.isDigit, Bool.and_eq_true, decide_eq_true_eq] at h
  simp only [Char.isWhitespace, Bool.or_eq_false_iff, decide_eq_false_iff_not]
  refine ⟨⟨⟨?_, ?_⟩, ?_⟩, ?_⟩ <;> rintro rfl <;> exact absurd h (by decide)

/-- A text of digits has no white space to strip. -/
private theorem strip_digits (n : ℕ) : strip (digits n) = digits n := by
  have hdrop : ∀ text : List Char, (∀ c ∈ text, c.isDigit = true) →
      text.dropWhile Char.isWhitespace = text := by
    intro text htext
    cases text with
    | nil => rfl
    | cons c rest =>
      rw [List.dropWhile_cons_of_neg]
      simp [isWhitespace_of_isDigit (htext c List.mem_cons_self)]
  unfold strip
  rw [hdrop _ fun c hc => isDigit_of_mem_digits hc,
    hdrop _ fun c hc => isDigit_of_mem_digits (List.mem_reverse.mp hc), List.reverse_reverse]

/-- The digits of a number are read as the number. -/
theorem nat?_digits (n : ℕ) : nat? (digits n) = some n := by
  have hgroups := split_of_not_mem (not_mem_digits (c := '_') rfl n)
  have hne : digits n ≠ [] := Nat.toDigits_ne_nil
  have hall : (digits n).all Char.isDigit = true :=
    List.all_eq_true.mpr fun c hc => isDigit_of_mem_digits hc
  unfold nat?
  rw [hgroups]
  simp only [List.all_cons, List.all_nil, hall, hne, ne_eq, not_false_eq_true, decide_true,
    Bool.and_true, List.flatten_cons, List.flatten_nil, List.append_nil, if_true]
  exact congrArg some Nat.ofDigitChars_ten_toDigits

/-- A printed natural number is read back as an integer. -/
theorem int?_digits (n : ℕ) : int? (digits n) = some (n : ℤ) := by
  unfold int?
  rw [strip_digits]
  -- No digit is a sign, so the text is read as it stands.
  split
  case h_1 rest heq => exact absurd (heq ▸ List.mem_cons_self) (not_mem_digits (c := '-') rfl n)
  case h_2 rest heq => exact absurd (heq ▸ List.mem_cons_self) (not_mem_digits (c := '+') rfl n)
  case h_3 => rw [nat?_digits, Option.map_some, Int.ofNat_eq_natCast]

/-- A printed negative number is read back as an integer. -/
private theorem int?_neg_digits (n : ℕ) : int? ('-' :: digits n) = some (-(n : ℤ)) := by
  have hreverse : ((digits n).reverse ++ ['-']).dropWhile Char.isWhitespace =
      (digits n).reverse ++ ['-'] := by
    cases hdigits : (digits n).reverse with
    | nil => exact absurd (List.reverse_eq_nil_iff.mp hdigits) Nat.toDigits_ne_nil
    | cons c rest =>
      have hc : c.isDigit = true := by
        refine isDigit_of_mem_digits (n := n) (List.mem_reverse.mp ?_)
        rw [hdigits]
        exact List.mem_cons_self
      rw [List.cons_append, List.dropWhile_cons_of_neg]
      simp [isWhitespace_of_isDigit hc]
  have hstrip : strip ('-' :: digits n) = '-' :: digits n := by
    unfold strip
    rw [List.dropWhile_cons_of_neg (by decide), List.reverse_cons, hreverse, List.reverse_append,
      List.reverse_reverse]
    rfl
  unfold int?
  rw [hstrip]
  show (nat? (digits n)).map (fun n => -Int.ofNat n) = some (-(n : ℤ))
  rw [nat?_digits, Option.map_some, Int.ofNat_eq_natCast]

/-- A printed integer is read back. -/
theorem int?_toString (z : ℤ) : int? (toString z).toList = some z := by
  cases z with
  | ofNat n =>
    have hdigits : (toString (Int.ofNat n)).toList = digits n := by
      show (toString (n : ℕ)).toList = digits n
      simp [digits]
    rw [hdigits, int?_digits, Int.ofNat_eq_natCast]
  | negSucc n =>
    have hdigits : (toString (Int.negSucc n)).toList = '-' :: digits (n + 1) := by
      show ("-" ++ toString (n + 1)).toList = '-' :: digits (n + 1)
      simp [digits]
    rw [hdigits, int?_neg_digits]
    rfl

/-- What is left after white space does not start with it. -/
theorem dropWhile_eq_self {p : Char → Bool} {text : List Char}
    (h : ∀ c ∈ text.head?, p c = false) : text.dropWhile p = text := by
  cases text with
  | nil => rfl
  | cons c text => rw [List.dropWhile_cons_of_neg (by simp [h c rfl])]

/-- A text with no white space at its ends is not changed. -/
theorem strip_eq_self {text : List Char} (hhead : ∀ c ∈ text.head?, c.isWhitespace = false)
    (hlast : ∀ c ∈ text.getLast?, c.isWhitespace = false) : strip text = text := by
  rw [strip, dropWhile_eq_self hhead, dropWhile_eq_self, List.reverse_reverse]
  rwa [List.head?_reverse]

/-- Stripping a second time changes nothing. -/
theorem strip_strip (text : List Char) : strip (strip text) = strip text := by
  have hdrop (text : List Char) : ∀ c ∈ (text.dropWhile Char.isWhitespace).head?,
      c.isWhitespace = false := by
    intro c hc
    have hnot := List.head?_dropWhile_not Char.isWhitespace text
    rw [hc] at hnot
    exact hnot
  refine strip_eq_self ?_ ?_
  · intro c hc
    -- a head of the whole is a head of what is left after white space
    rw [strip, List.head?_reverse] at hc
    obtain ⟨start, hstart⟩ := List.dropWhile_suffix Char.isWhitespace
      (l := (text.dropWhile Char.isWhitespace).reverse)
    refine hdrop text c ?_
    rw [← List.getLast?_reverse, ← hstart, List.getLast?_append, hc]
    rfl
  · intro c hc
    rw [strip, List.getLast?_reverse] at hc
    exact hdrop _ c hc

theorem mem_of_mem_strip {c : Char} {text : List Char} (h : c ∈ strip text) : c ∈ text := by
  rw [strip, List.mem_reverse] at h
  have h := (List.dropWhile_sublist _).mem h
  exact (List.dropWhile_sublist _).mem (List.mem_reverse.mp h)

theorem strip_cons {c : Char} (hc : c.isWhitespace = false) (text : List Char) :
    ∃ rest, strip (c :: text) = c :: rest := by
  rw [strip, List.dropWhile_cons_of_neg (by simp [hc]), List.reverse_cons, List.dropWhile_append]
  split
  · exact ⟨[], by simp [hc]⟩
  · exact ⟨_, by rw [List.reverse_append]; rfl⟩

/-- What is left of a text without the white space at its ends lies within it. -/
theorem strip_infix (text : List Char) : strip text <:+: text := by
  refine List.IsInfix.trans ?_ (List.dropWhile_suffix Char.isWhitespace).isInfix
  rw [strip, ← List.reverse_infix, List.reverse_reverse]
  exact (List.dropWhile_suffix Char.isWhitespace).isInfix

section Infix

variable {sep : Char} {part : List Char} (h : sep ∉ part)
include h

/-- What does not contain a separator and starts before one ends before it. -/
theorem prefix_append_cons_iff {a b : List Char} : part <+: a ++ sep :: b ↔ part <+: a := by
  refine ⟨fun hpart => ?_, fun hpart => hpart.trans (List.prefix_append a _)⟩
  rcases List.prefix_or_prefix_of_prefix hpart (List.prefix_append a (sep :: b)) with hle | hle
  · exact hle
  · obtain ⟨rest, rfl⟩ := hle
    rw [List.prefix_append_right_inj] at hpart
    cases rest with
    | nil => exact (List.append_nil a).symm ▸ List.prefix_rfl
    | cons c rest =>
      obtain ⟨rfl, -⟩ := List.cons_prefix_cons.mp hpart
      exact absurd (List.mem_append_right _ List.mem_cons_self) h

/-- What does not contain a separator lies on one of its sides. -/
theorem infix_append_cons_iff {a b : List Char} :
    part <:+: a ++ sep :: b ↔ part <:+: a ∨ part <:+: b := by
  induction a with
  | nil =>
    have hnil := prefix_append_cons_iff h (a := []) (b := b)
    rw [List.nil_append] at hnil
    rw [List.nil_append, List.infix_cons_iff, hnil, List.prefix_nil, List.infix_nil]
  | cons c a ih =>
    rw [List.cons_append, List.infix_cons_iff, ih, List.infix_cons_iff, or_assoc,
      ← List.cons_append, prefix_append_cons_iff h]

/-- What does not contain the separator lies within a text if it lies within one of its parts. -/
theorem infix_iff_exists_split {text : List Char} :
    part <:+: text ↔ ∃ line ∈ split sep text, part <:+: line := by
  have hjoin : join sep (split sep text) = text := List.intercalate_splitOn sep
  have hne : split sep text ≠ [] := List.splitOn_ne_nil sep text
  conv_lhs => rw [← hjoin]
  generalize split sep text = parts at hne
  induction parts with
  | nil => exact absurd rfl hne
  | cons line parts ih =>
    cases parts with
    | nil => simp [join]
    | cons next parts =>
      have hcons : join sep (line :: next :: parts) = line ++ sep :: join sep (next :: parts) := by
        simp [join, List.intercalate]
      rw [hcons, infix_append_cons_iff h, ih (List.cons_ne_nil _ _)]
      simp only [List.mem_cons, exists_eq_or_imp]

end Infix

end Text
