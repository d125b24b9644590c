import ProxmoxIaas.Foundation.Numerals

/-!
# Lines of Fields

How Python takes a text apart that a program has printed: white space at both ends is removed, the
text is split into lines at every line break of Unicode, and a line is split at its first separators
only, so that the last field may contain the separator.

## Main results

- `Text.splitLines_join`: lines that are joined are found again.
- `Text.splitUpTo_join`: so are the fields of a line, the last one of which may be any text.
- `Text.isTight_join`: joined texts without white space at their ends have none at theirs.
-/

namespace Text

/-- Remove white space at both ends. -/
def trim (text : List Char) : List Char :=
  ((text.dropWhile isSpace).reverse.dropWhile isSpace).reverse

/-- The characters that end a line. -/
def isLineBreak (c : Char) : Bool :=
  c.toNat ∈ [0xa, 0xb, 0xc, 0xd, 0x1c, 0x1d, 0x1e, 0x85, 0x2028, 0x2029]

/-- The lines of a text after the reversed start of the first one. A carriage return and a line feed
are one line break, and nothing is no line. -/
def linesAfter (start : List Char) : List Char → List (List Char)
  | [] => if start = [] then [] else [start.reverse]
  | '\r' :: '\n' :: rest => start.reverse :: linesAfter [] rest
  | c :: rest =>
    if isLineBreak c then start.reverse :: linesAfter [] rest else linesAfter (c :: start) rest

/-- The lines of a text. -/
def splitLines (text : List Char) : List (List Char) := linesAfter [] text

/-- Split at the first occurrences of a separator. -/
def splitUpTo (sep : Char) : ℕ → List Char → List (List Char)
  | 0, text => [text]
  | n + 1, text =>
    match text.dropWhile (· != sep) with
    | [] => [text]
    | _ :: rest => before sep text :: splitUpTo sep n rest

/-- A text with no white space at its ends. -/
def IsTight (text : List Char) : Prop :=
  (∀ c ∈ text.head?, isSpace c = false) ∧ ∀ c ∈ text.getLast?, isSpace c = false

section Trim

variable {text : List Char}

/-- A text with no white space at its ends is not changed. -/
theorem trim_of_isTight (h : IsTight text) : trim text = text := by
  rw [trim, dropWhile_eq_self h.1, dropWhile_eq_self, List.reverse_reverse]
  rw [List.head?_reverse]
  exact h.2

/-- A text with no white space has none at its ends. -/
theorem isTight_of_forall (h : ∀ c ∈ text, isSpace c = false) : IsTight text :=
  ⟨fun c hc => h c (List.mem_of_head? hc), fun c hc => h c (List.mem_of_getLast? hc)⟩

/-- A text does not end with white space if what follows a separator does not. -/
theorem not_isSpace_getLast?_append_cons {sep : Char} {rest : List Char}
    (hsep : isSpace sep = false) (h : ∀ c ∈ rest.getLast?, isSpace c = false) :
    ∀ c ∈ (text ++ sep :: rest).getLast?, isSpace c = false := by
  intro c hc
  rw [List.getLast?_append_of_ne_nil _ (List.cons_ne_nil _ _), List.getLast?_cons] at hc
  cases hlast : rest.getLast? with
  | none =>
    rw [hlast] at hc
    exact Option.some.inj hc ▸ hsep
  | some d =>
    rw [hlast] at hc
    exact Option.some.inj hc ▸ h d hlast

theorem join_cons_cons (sep : Char) (part next : List Char) (parts : List (List Char)) :
    join sep (part :: next :: parts) = part ++ sep :: join sep (next :: parts) := by
  simp [join, List.intercalate]

/-- Texts with no white space at their ends that are joined have none at theirs. -/
theorem isTight_join {sep : Char} {parts : List (List Char)}
    (h : ∀ part ∈ parts, part ≠ [] ∧ IsTight part) : IsTight (join sep parts) := by
  -- the text ends as the last one and starts as the first one, which are not empty
  have hends : ∀ parts : List (List Char), (∀ part ∈ parts, part ≠ [] ∧ IsTight part) →
      IsTight (join sep parts) ∧ (parts ≠ [] → join sep parts ≠ []) := by
    intro parts
    induction parts with
    | nil => exact fun _ => ⟨isTight_of_forall (List.forall_mem_nil _), absurd rfl⟩
    | cons part parts ih =>
      intro h
      obtain ⟨⟨hne, hpart⟩, hparts⟩ := List.forall_mem_cons.mp h
      cases parts with
      | nil => exact ⟨by simpa [join] using hpart, fun _ => by simpa [join] using hne⟩
      | cons next parts =>
        obtain ⟨htight, hrest⟩ := ih hparts
        have hrest := hrest (List.cons_ne_nil _ _)
        rw [join_cons_cons]
        refine ⟨⟨fun c hc => ?_, fun c hc => ?_⟩, fun _ => by simp⟩
        · rw [List.head?_append_of_ne_nil _ hne] at hc
          exact hpart.1 c hc
        · rw [List.getLast?_append_of_ne_nil _ (List.cons_ne_nil _ _),
            List.getLast?_cons_of_ne_nil hrest] at hc
          exact htight.2 c hc
  exact (hends parts h).1

end Trim

section Lines

/-- The text up to the next line break belongs to the line. -/
theorem linesAfter_append {text rest start : List Char} (h : ∀ c ∈ text, isLineBreak c = false) :
    linesAfter start (text ++ rest) = linesAfter (text.reverse ++ start) rest := by
  induction text generalizing start with
  | nil => rfl
  | cons c text ih =>
    obtain ⟨hc, htext⟩ := List.forall_mem_cons.mp h
    have hstep : linesAfter start (c :: (text ++ rest)) =
        linesAfter (c :: start) (text ++ rest) := by
      rw [linesAfter.eq_def]
      split
      case h_1 heq => cases heq
      case h_2 heq =>
        -- a carriage return is a line break
        obtain ⟨rfl, -⟩ := List.cons.inj heq
        cases hc
      case h_3 d rest' _ heq =>
        obtain ⟨rfl, rfl⟩ := List.cons.inj heq
        rw [if_neg (Bool.eq_false_iff.mp hc)]
    rw [List.cons_append, hstep, ih htext, List.reverse_cons, List.append_assoc]
    rfl

/-- Lines that are joined are found again. -/
theorem splitLines_join {lines : List (List Char)}
    (h : ∀ line ∈ lines, line ≠ [] ∧ ∀ c ∈ line, isLineBreak c = false) :
    splitLines (join '\n' lines) = lines := by
  induction lines with
  | nil => rfl
  | cons line lines ih =>
    obtain ⟨⟨hne, hline⟩, hlines⟩ := List.forall_mem_cons.mp h
    cases lines with
    | nil =>
      have hlast : join '\n' [line] = line ++ [] := by simp [join]
      rw [splitLines, hlast, linesAfter_append hline, linesAfter, if_neg (by simpa using hne)]
      simp
    | cons next lines =>
      rw [splitLines, join_cons_cons, linesAfter_append hline]
      show (line.reverse ++ []).reverse :: splitLines (join '\n' (next :: lines)) = _
      rw [ih hlines, List.append_nil, List.reverse_reverse]

end Lines

section Fields

variable {sep : Char}

/-- A field in front of the first separator. -/
theorem splitUpTo_append_cons {field rest : List Char} (h : sep ∉ field) (n : ℕ) :
    splitUpTo sep (n + 1) (field ++ sep :: rest) = field :: splitUpTo sep n rest := by
  have hall : ∀ c ∈ field, (c != sep) = true := fun c hc =>
    bne_iff_ne.mpr fun heq => h (heq ▸ hc)
  have hdrop : (field ++ sep :: rest).dropWhile (· != sep) = sep :: rest := by
    rw [List.dropWhile_append_of_pos hall, List.dropWhile_cons_of_neg (by simp)]
  rw [splitUpTo, hdrop, before_append_cons, before_of_not_mem h]

/-- Joined fields are found again, the last one of which may have separators. -/
theorem splitUpTo_join {fields : List (List Char)} (h : ∀ field ∈ fields, sep ∉ field)
    (last : List Char) :
    splitUpTo sep fields.length (join sep (fields ++ [last])) = fields ++ [last] := by
  induction fields with
  | nil => simp [splitUpTo, join]
  | cons field fields ih =>
    obtain ⟨hfield, hfields⟩ := List.forall_mem_cons.mp h
    obtain ⟨next, parts, hparts⟩ := List.exists_cons_of_ne_nil
      (List.append_ne_nil_of_right_ne_nil fields (List.cons_ne_nil last []))
    rw [List.cons_append, hparts, join_cons_cons, List.length_cons, splitUpTo_append_cons hfield,
      ← hparts, ih hfields]

end Fields

end Text
