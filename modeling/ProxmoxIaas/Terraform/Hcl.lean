import ProxmoxIaas.Foundation.Result
import ProxmoxIaas.Terraform.Model
import Mathlib.Tactic.Tauto

/-!
# The Assignments of a Variables File

Terraform reads a variables file as a sequence of assignments in its configuration language, HCL.
This is a reader for the assignments whose values are literals: texts without interpolation,
integers, booleans, and lists and maps of these. An assignment of any other expression, such as a
text with an interpolation or a sum of two numbers, is not read. Texts are compared as sequences of
characters, before the normal form that Terraform brings them to.

## Main results

- `Hcl.readsTo_of_quoted?`: a quoted text is read as a text that is shorter than its source, unless
  there is nothing to interpret in the source.
- `Hcl.quoted?_raw_iff`: which texts can be put between quotes as they are.
- `Hcl.skip_cons`, `Hcl.number?_digits`, `Hcl.identifier?_append`: the reader on the parts that a
  writer puts together.
-/

namespace ProxmoxIaas.Terraform.Hcl

/-! ### White space and comments -/

/-- Where in the source white space and comments are being skipped. -/
inductive Skipping where
  /-- Outside comments. -/
  | code
  /-- In a comment that ends with the line. -/
  | line
  /-- In a comment between `/*` and `*/`. -/
  | block

/-- Skip blanks and comments, and line ends where these do not count. A comment that does not end
leaves a character that nothing reads. -/
def skip (lines : Bool) : Skipping → List Char → List Char
  | .block, [] => ['/']
  | _, [] => []
  | .code, ' ' :: rest => skip lines .code rest
  | .code, '\t' :: rest => skip lines .code rest
  | .code, '#' :: rest => skip lines .line rest
  | .code, '/' :: '/' :: rest => skip lines .line rest
  | .code, '/' :: '*' :: rest => skip lines .block rest
  | .code, '\r' :: '\n' :: rest => if lines then skip lines .code rest else '\n' :: rest
  | .code, '\n' :: rest => if lines then skip lines .code rest else '\n' :: rest
  | .code, text => text
  | .line, '\n' :: rest => if lines then skip lines .code rest else '\n' :: rest
  | .line, _ :: rest => skip lines .line rest
  | .block, '*' :: '/' :: rest => skip lines .code rest
  | .block, _ :: rest => skip lines .block rest

/-- Skip what separates two parts of one line. -/
def blanks (text : List Char) : List Char := skip false .code text

/-- Skip what separates two parts of a list, or two assignments. -/
def gap (text : List Char) : List Char := skip true .code text

/-! ### Names and numbers -/

/-- What the language takes from Unicode: which characters beyond ASCII start an identifier, and
which continue one. -/
structure Letters where
  start : Char → Bool
  part : Char → Bool

/-- Whether an identifier can start with a character. -/
def Letters.isStart (letters : Letters) (c : Char) : Bool :=
  if c.val < 128 then c.isAlpha || c == '_' else letters.start c

/-- Whether an identifier can go on with a character. -/
def Letters.isPart (letters : Letters) (c : Char) : Bool :=
  if c.val < 128 then c.isAlphanum || c == '_' || c == '-' else letters.part c

/-- A name in the language. -/
def Letters.IsIdentifier (letters : Letters) (name : List Char) : Prop :=
  ∃ c rest, name = c :: rest ∧ letters.isStart c = true ∧ ∀ d ∈ rest, letters.isPart d = true

/-- Read a name. -/
def Letters.identifier? (letters : Letters) : List Char → Option (List Char × List Char)
  | c :: rest =>
    if letters.isStart c then
      some (c :: rest.takeWhile letters.isPart, rest.dropWhile letters.isPart)
    else none
  | [] => none

/-- Read a number. -/
def number? (text : List Char) : Option (ℕ × List Char) :=
  (Text.nat? (text.takeWhile Char.isDigit)).map fun n => (n, text.dropWhile Char.isDigit)

/-! ### Quoted texts -/

/-- The value of a hexadecimal digit. -/
def hexDigit? (c : Char) : Option ℕ :=
  if c.isDigit then some (c.toNat - '0'.toNat)
  else if 'a' ≤ c ∧ c ≤ 'f' then some (c.toNat - 'a'.toNat + 10)
  else if 'A' ≤ c ∧ c ≤ 'F' then some (c.toNat - 'A'.toNat + 10)
  else none

/-- The character of a code point; a surrogate or a number beyond Unicode becomes the replacement
character. -/
def character (n : ℕ) : Char := if n.isValidChar then Char.ofNat n else '\uFFFD'

/-- The character that hexadecimal digits stand for. -/
def hex? (digits : List Char) : Option Char :=
  (digits.mapM hexDigit?).map fun values => character (values.foldl (fun n d => 16 * n + d) 0)

/-- The character that a backslash and a letter stand for. -/
def escaped? : Char → Option Char
  | 'n' => some '\n'
  | 'r' => some '\r'
  | 't' => some '\t'
  | '"' => some '"'
  | '\\' => some '\\'
  | _ => none

/-- Read a text up to the closing quote. `${` and `%{` start an interpolation unless the first
character is doubled; a line end is not allowed. -/
def quoted? : List Char → Option (List Char × List Char)
  | [] => none
  | c :: rest =>
    if c = '"' then some ([], rest)
    else if c = '\n' ∨ c = '\r' then none
    else if c = '\\' then
      match rest with
      | 'u' :: a :: b :: c :: d :: rest => do
        let char ← hex? [a, b, c, d]
        (quoted? rest).map fun (text, rest) => (char :: text, rest)
      | 'U' :: a :: b :: c :: d :: e :: f :: g :: h :: rest => do
        let char ← hex? [a, b, c, d, e, f, g, h]
        (quoted? rest).map fun (text, rest) => (char :: text, rest)
      | d :: rest => do
        let char ← escaped? d
        (quoted? rest).map fun (text, rest) => (char :: text, rest)
      | [] => none
    else
      let literal := (quoted? rest).map fun (text, rest) => (c :: text, rest)
      if c = '$' ∨ c = '%' then
        match rest with
        | '{' :: _ => none
        | d :: '{' :: after =>
          if d = c then (quoted? after).map fun (text, rest) => (c :: '{' :: text, rest)
          else literal
        | _ => literal
      else literal
termination_by structural text => text

theorem quoted?_quote (rest : List Char) : quoted? ('"' :: rest) = some ([], rest) := by
  rw [quoted?.eq_def]
  simp

/-! ### Values and assignments -/

/-- Read a number or a boolean. -/
def scalar? (letters : Letters) (text : List Char) : Option (Value × List Char) :=
  match number? text with
  | some (n, rest) => some (.int n, rest)
  | none => do
    let (name, rest) ← letters.identifier? text
    if name = "true".toList then some (.bool true, rest)
    else if name = "false".toList then some (.bool false, rest)
    else none

/-- Read the key of a map. -/
def key? (letters : Letters) : List Char → Option (List Char × List Char)
  | '"' :: rest => quoted? rest
  | text => letters.identifier? text

/-- Read what separates the key of a map from its value. -/
def separator? : List Char → Option (List Char)
  | '=' :: rest => some rest
  | ':' :: rest => some rest
  | _ => none

mutual

/-- Read a literal. The number bounds the nesting of lists and maps and their lengths. -/
def value? (letters : Letters) : ℕ → List Char → Option (Value × List Char)
  | 0, _ => none
  | fuel + 1, text =>
    match text with
    | '"' :: rest => (quoted? rest).map fun (text, rest) => (.str text, rest)
    | '[' :: rest => (items? letters fuel rest).map fun (items, rest) => (.list items, rest)
    | '{' :: rest => (entries? letters fuel rest).map fun (entries, rest) => (.dict entries, rest)
    | '-' :: rest => (number? (blanks rest)).map fun (n, rest) => (.int (-n), rest)
    | _ => scalar? letters text

/-- Read the rest of a list. -/
def items? (letters : Letters) : ℕ → List Char → Option (List Value × List Char)
  | 0, _ => none
  | fuel + 1, text =>
    match gap text with
    | ']' :: rest => some ([], rest)
    | text => do
      let (value, rest) ← value? letters fuel text
      match gap rest with
      | ']' :: rest => some ([value], rest)
      | ',' :: rest => (items? letters fuel rest).map fun (items, rest) => (value :: items, rest)
      | _ => none

/-- Read the rest of a map. -/
def entries? (letters : Letters) : ℕ → List Char → Option (Dict × List Char)
  | 0, _ => none
  | fuel + 1, text =>
    match gap text with
    | '}' :: rest => some ([], rest)
    | text => do
      let (key, rest) ← key? letters text
      let rest ← separator? (blanks rest)
      let (value, rest) ← value? letters fuel (blanks rest)
      match blanks rest with
      | '}' :: rest => some ([(key, value)], rest)
      | ',' :: rest =>
        (entries? letters fuel rest).map fun (entries, rest) => ((key, value) :: entries, rest)
      | '\n' :: rest =>
        (entries? letters fuel rest).map fun (entries, rest) => ((key, value) :: entries, rest)
      | _ => none

end

/-- Read a sequence of assignments, one on each line. -/
def body? (letters : Letters) : ℕ → List Char → Option Dict
  | 0, _ => none
  | fuel + 1, text =>
    match gap text with
    | [] => some []
    | text => do
      let (name, rest) ← letters.identifier? text
      match blanks rest with
      | '=' :: rest => do
        let (value, rest) ← value? letters fuel (blanks rest)
        match blanks rest with
        | [] => some [(name, value)]
        | '\n' :: rest => (body? letters fuel rest).map fun entries => (name, value) :: entries
        | _ => none
      | _ => none

/-- The assignments of a variables file; no name may be assigned twice. -/
def assignments? (letters : Letters) (text : List Char) : Option Dict := do
  let entries ← body? letters (text.length + 1) text
  if (entries.map Prod.fst).Nodup then some entries else none

/-! ### Quoted texts and their sources -/

/-- Whether an interpolation, or its escaped form, occurs in a text. -/
def Interpolates (text : List Char) : Prop :=
  ['$', '{'] <:+: text ∨ ['%', '{'] <:+: text

/-- Whether there is nothing to interpret in a text between quotes. -/
def IsPlain (text : List Char) : Prop :=
  (∀ c ∈ text, c ≠ '"' ∧ c ≠ '\\' ∧ c ≠ '\n' ∧ c ≠ '\r') ∧ ¬ Interpolates text

theorem interpolates_cons {c : Char} {text : List Char} :
    Interpolates (c :: text) ↔
      ((c = '$' ∨ c = '%') ∧ text.head? = some '{') ∨ Interpolates text := by
  rw [Interpolates, Interpolates, List.infix_cons_iff, List.infix_cons_iff]
  cases text with
  | nil => simp
  | cons d text =>
    simp only [List.cons_prefix_cons, List.nil_prefix, and_true, List.head?_cons, Option.some.injEq,
      @eq_comm _ '$' c, @eq_comm _ '%' c, @eq_comm _ '{' d]
    tauto

theorem isPlain_cons {c : Char} {text : List Char} :
    IsPlain (c :: text) ↔ (c ≠ '"' ∧ c ≠ '\\' ∧ c ≠ '\n' ∧ c ≠ '\r') ∧
      ¬ ((c = '$' ∨ c = '%') ∧ text.head? = some '{') ∧ IsPlain text := by
  simp only [IsPlain, List.forall_mem_cons, interpolates_cons, not_or]
  tauto

theorem isPlain_nil : IsPlain [] := by
  simp [IsPlain, Interpolates]

/-- A source on one line that is longer than its value, or is its value and plain. -/
structure Shrinks (source value : List Char) : Prop where
  line : '\n' ∉ source
  length_le : value.length ≤ source.length
  plain : value.length = source.length → value = source ∧ IsPlain source

namespace Shrinks

variable {source value p q : List Char} {c : Char}

/-- A longer source for a shorter value. -/
theorem append (h : Shrinks source value) (hp : '\n' ∉ p) (hlt : q.length < p.length) :
    Shrinks (p ++ source) (q ++ value) where
  line := by
    rw [List.mem_append]
    exact not_or.mpr ⟨hp, h.line⟩
  length_le := by
    have hle := h.length_le
    simp only [List.length_append]
    omega
  plain := by
    intro heq
    have hle := h.length_le
    simp only [List.length_append] at heq
    omega

/-- A character that stands for itself. -/
theorem cons (h : Shrinks source value) (hc : c ≠ '"' ∧ c ≠ '\\' ∧ c ≠ '\n' ∧ c ≠ '\r')
    (hnext : ¬ ((c = '$' ∨ c = '%') ∧ source.head? = some '{')) :
    Shrinks (c :: source) (c :: value) where
  line := by
    rw [List.mem_cons]
    exact not_or.mpr ⟨hc.2.2.1.symm, h.line⟩
  length_le := Nat.succ_le_succ h.length_le
  plain := by
    intro heq
    obtain ⟨hvalue, hplain⟩ := h.plain (Nat.succ.inj heq)
    exact ⟨congrArg (List.cons c) hvalue, isPlain_cons.mpr ⟨hc, hnext, hplain⟩⟩

theorem nil : Shrinks [] [] where
  line := List.not_mem_nil
  length_le := le_rfl
  plain _ := ⟨rfl, isPlain_nil⟩

end Shrinks

/-- Hexadecimal digits are on one line. -/
theorem newline_not_mem_of_hex? {digits : List Char} {c : Char} (h : hex? digits = some c) :
    '\n' ∉ digits := by
  obtain ⟨values, hvalues, -⟩ := Option.map_eq_some_iff.mp h
  have hdigits := Option.isSome_mapM_iff.mp (Option.isSome_of_eq_some hvalues)
  exact fun hmem => absurd (hdigits '\n' hmem) nofun

/-- Nothing that a backslash and a letter stand for is written with a line end. -/
theorem ne_newline_of_escaped? {c char : Char} (h : escaped? c = some char) : '\n' ≠ c := by
  rintro rfl
  exact nomatch h

/-- What is read up to a closing quote. -/
def ReadsTo (text value rest : List Char) : Prop :=
  ∃ source, text = source ++ '"' :: rest ∧ Shrinks source value

section

variable {text value rest p : List Char} {c char : Char}

theorem ReadsTo.escape (h : ReadsTo text value rest) (hp : '\n' ∉ p) (hlt : 1 < p.length) :
    ReadsTo (p ++ text) (char :: value) rest := by
  obtain ⟨source, rfl, hsource⟩ := h
  refine ⟨p ++ source, by rw [List.append_assoc], ?_⟩
  exact @Shrinks.append source value p [char] hsource hp hlt

theorem ReadsTo.literal (h : ReadsTo text value rest) (hquote : ¬ c = '"')
    (hline : ¬ (c = '\n' ∨ c = '\r')) (hbackslash : ¬ c = '\\')
    (hnext : ¬ ((c = '$' ∨ c = '%') ∧ text.head? = some '{')) :
    ReadsTo (c :: text) (c :: value) rest := by
  obtain ⟨source, rfl, hsource⟩ := h
  refine ⟨c :: source, rfl, hsource.cons ⟨hquote, hbackslash, not_or.mp hline⟩ ?_⟩
  rintro ⟨hc, hhead⟩
  exact hnext ⟨hc, by rw [List.head?_append, hhead]; rfl⟩

end

/-- What is read as a quoted text. -/
theorem readsTo_of_quoted? {text value rest : List Char}
    (h : quoted? text = some (value, rest)) : ReadsTo text value rest := by
  fun_induction quoted? text generalizing value rest with
  | case2 rest =>
    obtain ⟨rfl, rfl⟩ := Prod.mk.inj (Option.some.inj h)
    exact ⟨[], rfl, .nil⟩
  | case4 a b c d text _ _ ih =>
    obtain ⟨char, hchar, h⟩ := Option.bind_eq_some_iff.mp h
    obtain ⟨⟨value, rest⟩, hread, hvalue⟩ := Option.map_eq_some_iff.mp h
    obtain ⟨rfl, rfl⟩ := Prod.mk.inj hvalue
    refine ReadsTo.escape (p := ['\\', 'u', a, b, c, d]) (ih hread) ?_ (by simp)
    simpa using newline_not_mem_of_hex? hchar
  | case5 a b c d e f g h' text _ _ ih =>
    obtain ⟨char, hchar, h⟩ := Option.bind_eq_some_iff.mp h
    obtain ⟨⟨value, rest⟩, hread, hvalue⟩ := Option.map_eq_some_iff.mp h
    obtain ⟨rfl, rfl⟩ := Prod.mk.inj hvalue
    refine ReadsTo.escape (p := ['\\', 'U', a, b, c, d, e, f, g, h']) (ih hread) ?_ (by simp)
    simpa using newline_not_mem_of_hex? hchar
  | case6 d text _ _ _ _ ih =>
    obtain ⟨char, hchar, h⟩ := Option.bind_eq_some_iff.mp h
    obtain ⟨⟨value, rest⟩, hread, hvalue⟩ := Option.map_eq_some_iff.mp h
    obtain ⟨rfl, rfl⟩ := Prod.mk.inj hvalue
    refine ReadsTo.escape (p := ['\\', d]) (ih hread) ?_ (by simp)
    simpa using ne_newline_of_escaped? hchar
  | case9 c text hbrace _ hline _ _ _ ih =>
    -- the doubled character stands for one
    obtain ⟨⟨value, rest⟩, hread, hvalue⟩ := Option.map_eq_some_iff.mp h
    obtain ⟨rfl, rfl⟩ := Prod.mk.inj hvalue
    obtain ⟨source, rfl, hsource⟩ := ih hread
    refine ⟨[c, c, '{'] ++ source, rfl, ?_⟩
    refine @Shrinks.append source value [c, c, '{'] [c, '{'] hsource ?_ ?_
    · simpa using fun heq => hline (Or.inl heq.symm)
    · simp
  | case10 c hquote hline hbackslash _ d after hd =>
    rename_i ih
    obtain ⟨⟨value, rest⟩, hread, hvalue⟩ := Option.map_eq_some_iff.mp h
    obtain ⟨rfl, rfl⟩ := Prod.mk.inj hvalue
    refine (ih hread).literal hquote hline hbackslash ?_
    rintro ⟨-, hhead⟩
    exact hd (Option.some.inj hhead)
  | case11 c text hquote hline hbackslash _ _ hbrace =>
    rename_i ih
    obtain ⟨⟨value, rest⟩, hread, hvalue⟩ := Option.map_eq_some_iff.mp h
    obtain ⟨rfl, rfl⟩ := Prod.mk.inj hvalue
    refine (ih hread).literal hquote hline hbackslash ?_
    rintro ⟨-, hhead⟩
    obtain ⟨after, rfl⟩ := List.head?_eq_some_iff.mp hhead
    exact hbrace after rfl
  | case12 c text hquote hline hbackslash _ hplain =>
    rename_i ih
    obtain ⟨⟨value, rest⟩, hread, hvalue⟩ := Option.map_eq_some_iff.mp h
    obtain ⟨rfl, rfl⟩ := Prod.mk.inj hvalue
    exact (ih hread).literal hquote hline hbackslash fun hnext => hplain hnext.1
  | _ => cases h

/-- A character that stands for itself. -/
theorem quoted?_cons {c : Char} {text : List Char} (hc : c ≠ '"' ∧ c ≠ '\\' ∧ c ≠ '\n' ∧ c ≠ '\r')
    (hnext : ¬ ((c = '$' ∨ c = '%') ∧ text.head? = some '{'))
    (hdouble : ¬ ((c = '$' ∨ c = '%') ∧ [c, '{'] <+: text)) :
    quoted? (c :: text) = (quoted? text).map fun (value, rest) => (c :: value, rest) := by
  obtain ⟨hquote, hbackslash, hnewline, hreturn⟩ := hc
  rw [quoted?.eq_def]
  simp only [if_neg hquote, if_neg (not_or.mpr ⟨hnewline, hreturn⟩), if_neg hbackslash]
  by_cases hmarker : c = '$' ∨ c = '%'
  · rw [if_pos hmarker]
    split
    · exact absurd ⟨hmarker, rfl⟩ hnext
    · rw [if_neg]
      rintro rfl
      exact hdouble ⟨hmarker, by simp⟩
    · rfl
  · rw [if_neg hmarker]

/-- An interpolation is not read. -/
theorem quoted?_interpolation {c : Char} (hc : c = '$' ∨ c = '%') (text : List Char) :
    quoted? (c :: '{' :: text) = none := by
  rw [quoted?.eq_def]
  rcases hc with rfl | rfl <;> simp

/-- A plain text is read as it stands. -/
theorem quoted?_plain {text rest : List Char} (h : IsPlain text) :
    quoted? (text ++ '"' :: rest) = some (text, rest) := by
  induction text with
  | nil => exact quoted?_quote rest
  | cons c text ih =>
    obtain ⟨hc, hnext, htext⟩ := isPlain_cons.mp h
    rw [List.cons_append, quoted?_cons hc, ih htext]
    · rfl
    · rintro ⟨hmarker, hhead⟩
      cases text with
      | nil => exact absurd hhead (by simp)
      | cons d text => exact hnext ⟨hmarker, hhead⟩
    · rintro ⟨hmarker, hprefix⟩
      cases text with
      | nil =>
        obtain ⟨hcq, -⟩ := List.cons_prefix_cons.mp hprefix
        exact hc.1 hcq
      | cons d text =>
        obtain ⟨rfl, hrest⟩ := List.cons_prefix_cons.mp hprefix
        obtain ⟨-, hnext', -⟩ := isPlain_cons.mp htext
        cases text with
        | nil => exact absurd (List.cons_prefix_cons.mp hrest).1 (by decide)
        | cons e text =>
          obtain ⟨rfl, -⟩ := List.cons_prefix_cons.mp hrest
          exact hnext' ⟨hmarker, rfl⟩

/-- A text between quotes at the end of a line is read as it stands if and only if it is plain. -/
theorem quoted?_raw_iff {text rest rest' : List Char}
    (hrest : rest = [] ∨ ∃ tail, rest = '\n' :: tail) :
    quoted? (text ++ '"' :: rest) = some (text, rest') ↔ IsPlain text ∧ rest' = rest := by
  constructor
  · intro h
    obtain ⟨source, hsplit, hsource⟩ := readsTo_of_quoted? h
    -- the source ends where the text does: after it there is a line end
    have hsame : source = text := by
      obtain ⟨more, rfl, hmore⟩ | ⟨more, rfl, hmore⟩ := List.append_eq_append_iff.mp hsplit
      · cases more with
        | nil => exact List.append_nil _
        | cons c more =>
          have hmore : rest = more ++ '"' :: rest' := (List.cons.inj hmore).2
          rcases hrest with rfl | ⟨tail, rfl⟩
          · exact absurd hmore (by simp)
          · cases more with
            | nil => exact absurd (List.cons.inj hmore).1 (by decide)
            | cons d more =>
              obtain rfl : '\n' = d := (List.cons.inj hmore).1
              exact absurd hsource.line (by simp)
      · have hle := hsource.length_le
        rw [List.length_append] at hle
        obtain rfl : more = [] := List.eq_nil_of_length_eq_zero (by omega)
        exact (List.append_nil source).symm
    subst hsame
    obtain ⟨-, hrest'⟩ := List.cons.inj (List.append_cancel_left hsplit)
    exact ⟨(hsource.plain rfl).2, hrest'.symm⟩
  · rintro ⟨hplain, rfl⟩
    exact quoted?_plain hplain

/-! ### The parts that a writer puts together -/

/-- Whether white space, a comment or a line end may start with a character. -/
def isTrivia (c : Char) : Bool := c ∈ [' ', '\t', '#', '/', '\r', '\n']

theorem skip_cons {c : Char} (hc : isTrivia c = false) (lines : Bool) (rest : List Char) :
    skip lines .code (c :: rest) = c :: rest := by
  simp only [isTrivia, List.mem_cons, List.not_mem_nil, or_false, decide_eq_false_iff_not,
    not_or] at hc
  simp [skip, hc]

/-- The text that follows a number or a name. -/
def Ends (p : Char → Bool) (rest : List Char) : Prop := ∀ c ∈ rest.head?, p c = false

variable {p : Char → Bool} {text rest : List Char}

theorem takeWhile_append_of_ends (htext : ∀ c ∈ text, p c = true) (hrest : Ends p rest) :
    (text ++ rest).takeWhile p = text := by
  rw [List.takeWhile_append_of_pos htext]
  cases rest with
  | nil => simp
  | cons c rest => simp [hrest c rfl]

theorem dropWhile_append_of_ends (htext : ∀ c ∈ text, p c = true) (hrest : Ends p rest) :
    (text ++ rest).dropWhile p = rest := by
  rw [List.dropWhile_append_of_pos htext]
  cases rest with
  | nil => rfl
  | cons c rest => simp [hrest c rfl]

theorem number?_digits (n : ℕ) (hrest : Ends Char.isDigit rest) :
    number? (Text.digits n ++ rest) = some (n, rest) := by
  have hdigits : ∀ c ∈ Text.digits n, c.isDigit = true := fun c => Text.isDigit_of_mem_digits
  rw [number?, takeWhile_append_of_ends hdigits hrest, dropWhile_append_of_ends hdigits hrest,
    Text.nat?_digits]
  rfl

variable {letters : Letters} {name : List Char}

theorem isTrivia_of_isStart {c : Char} (h : letters.isStart c = true) : isTrivia c = false := by
  rw [← Bool.not_eq_true, isTrivia, decide_eq_true_eq]
  intro hmem
  have hnone : ∀ c ∈ [' ', '\t', '#', '/', '\r', '\n'], letters.isStart c = false := by
    simp [Letters.isStart]
  rw [hnone c hmem] at h
  exact Bool.false_ne_true h

theorem identifier?_append (hname : letters.IsIdentifier name) (hrest : Ends letters.isPart rest) :
    letters.identifier? (name ++ rest) = some (name, rest) := by
  obtain ⟨c, part, rfl, hstart, hpart⟩ := hname
  rw [List.cons_append, Letters.identifier?, if_pos hstart, takeWhile_append_of_ends hpart hrest,
    dropWhile_append_of_ends hpart hrest]

/-- Only identifiers are read as names. -/
theorem isIdentifier_of_identifier? (h : letters.identifier? text = some (name, rest)) :
    letters.IsIdentifier name := by
  cases text with
  | nil => exact nomatch h
  | cons c text =>
    rw [Letters.identifier?] at h
    split at h
    case isTrue hstart =>
      obtain ⟨rfl, -⟩ := Prod.mk.inj (Option.some.inj h)
      exact ⟨c, _, rfl, hstart, fun d hd => List.mem_takeWhile_imp hd⟩
    case isFalse => exact nomatch h

/-! ### The reader step by step -/

variable {fuel : ℕ}

/-- A part is read as a value of one kind exactly when the part is read. -/
private theorem map_reading_iff {α : Type} {kind : α → Value} (hkind : ∀ a b, kind a = kind b → a = b)
    {reading : Option (α × List Char)} {part : α} :
    (reading.map fun (part, rest) => (kind part, rest)) = some (kind part, rest) ↔
      reading = some (part, rest) := by
  constructor
  · intro h
    obtain ⟨⟨part', rest'⟩, hread, hvalue⟩ := Option.map_eq_some_iff.mp h
    obtain ⟨hpart, rfl⟩ := Prod.mk.inj hvalue
    rw [hread, hkind _ _ hpart]
  · rintro rfl
    rfl

theorem value?_quote {chars : List Char} :
    value? letters (fuel + 1) ('"' :: text) = some (.str chars, rest) ↔
      quoted? text = some (chars, rest) :=
  map_reading_iff fun _ _ => Value.str.inj

theorem value?_list {items : List Value} :
    value? letters (fuel + 1) ('[' :: text) = some (.list items, rest) ↔
      items? letters fuel text = some (items, rest) :=
  map_reading_iff fun _ _ => Value.list.inj

theorem value?_dict {entries : Dict} :
    value? letters (fuel + 1) ('{' :: text) = some (.dict entries, rest) ↔
      entries? letters fuel text = some (entries, rest) :=
  map_reading_iff fun _ _ => Value.dict.inj

theorem value?_scalar {c : Char} (hc : c ∉ ['"', '[', '{', '-']) :
    value? letters (fuel + 1) (c :: text) = scalar? letters (c :: text) := by
  simp only [List.mem_cons, List.not_mem_nil, or_false, not_or] at hc
  simp [value?, hc]

/-- Reading the next item of a list. -/
theorem items?_cons_iff {c : Char} (hgap : isTrivia c = false) (hc : c ≠ ']') {value : Value}
    {items : List Value} :
    items? letters (fuel + 1) (c :: text) = some (value :: items, rest) ↔
      ∃ after, value? letters fuel (c :: text) = some (value, after) ∧
        (gap after = ']' :: rest ∧ items = [] ∨
          ∃ next, gap after = ',' :: next ∧ items? letters fuel next = some (items, rest)) := by
  have hopen : ∀ rest, c :: text = ']' :: rest → False := fun rest h => hc (List.cons.inj h).1
  rw [items?, gap, skip_cons hgap]
  simp only [Option.bind_eq_bind, Option.bind_eq_some_iff]
  constructor
  · rintro ⟨⟨value', after⟩, hvalue, h⟩
    split at h
    case h_1 close hclose =>
      obtain ⟨hitems, rfl⟩ := Prod.mk.inj (Option.some.inj h)
      obtain ⟨rfl, rfl⟩ := List.cons.inj hitems
      exact ⟨after, hvalue, Or.inl ⟨hclose, rfl⟩⟩
    case h_2 next hnext =>
      obtain ⟨⟨items', rest'⟩, hread, hitems⟩ := Option.map_eq_some_iff.mp h
      obtain ⟨hcons, rfl⟩ := Prod.mk.inj hitems
      obtain ⟨rfl, rfl⟩ := List.cons.inj hcons
      exact ⟨after, hvalue, Or.inr ⟨next, hnext, hread⟩⟩
    case h_3 => exact nomatch h
  · rintro ⟨after, hvalue, ⟨hclose, rfl⟩ | ⟨next, hnext, hread⟩⟩
    · refine ⟨_, hvalue, ?_⟩
      simp only [hclose]
    · refine ⟨_, hvalue, ?_⟩
      simp only [hnext, hread, Option.map_some]

/-- Reading the next entry of a map. -/
theorem entries?_cons_iff {key : List Char} {value : Value} {entries : Dict} :
    entries? letters (fuel + 1) ('"' :: text) = some ((key, value) :: entries, rest) ↔
      ∃ after, quoted? text = some (key, after) ∧ ∃ start,
        separator? (blanks after) = some start ∧ ∃ next,
          value? letters fuel (blanks start) = some (value, next) ∧
            (blanks next = '}' :: rest ∧ entries = [] ∨ ∃ more,
              (blanks next = ',' :: more ∨ blanks next = '\n' :: more) ∧
                entries? letters fuel more = some (entries, rest)) := by
  obtain ⟨c, hc⟩ : ∃ c, c = '"' := ⟨_, rfl⟩
  have hkey : key? letters (c :: text) = quoted? text := by rw [hc]; rfl
  have hgap : isTrivia c = false := by rw [hc]; rfl
  have hopen : ∀ rest, c :: text = '}' :: rest → False := fun rest h =>
    absurd (hc.symm.trans (List.cons.inj h).1) (by decide)
  rw [← hc, entries?, gap, skip_cons hgap]
  simp only [hkey, Option.bind_eq_bind, Option.bind_eq_some_iff]
  constructor
  · rintro ⟨⟨key', after⟩, hkey, start, hstart, ⟨value', next⟩, hvalue, h⟩
    split at h
    case h_1 close hclose =>
      obtain ⟨hentries, rfl⟩ := Prod.mk.inj (Option.some.inj h)
      obtain ⟨hentry, rfl⟩ := List.cons.inj hentries
      obtain ⟨rfl, rfl⟩ := Prod.mk.inj hentry
      exact ⟨after, hkey, start, hstart, next, hvalue, Or.inl ⟨hclose, rfl⟩⟩
    case h_2 more hmore =>
      obtain ⟨⟨entries', rest'⟩, hread, hentries⟩ := Option.map_eq_some_iff.mp h
      obtain ⟨hcons, rfl⟩ := Prod.mk.inj hentries
      obtain ⟨hentry, rfl⟩ := List.cons.inj hcons
      obtain ⟨rfl, rfl⟩ := Prod.mk.inj hentry
      exact ⟨after, hkey, start, hstart, next, hvalue, Or.inr ⟨more, Or.inl hmore, hread⟩⟩
    case h_3 more hmore =>
      obtain ⟨⟨entries', rest'⟩, hread, hentries⟩ := Option.map_eq_some_iff.mp h
      obtain ⟨hcons, rfl⟩ := Prod.mk.inj hentries
      obtain ⟨hentry, rfl⟩ := List.cons.inj hcons
      obtain ⟨rfl, rfl⟩ := Prod.mk.inj hentry
      exact ⟨after, hkey, start, hstart, next, hvalue, Or.inr ⟨more, Or.inr hmore, hread⟩⟩
    case h_4 => exact nomatch h
  · rintro ⟨after, hkey, start, hstart, next, hvalue,
      ⟨hclose, rfl⟩ | ⟨more, hmore | hmore, hread⟩⟩
    · refine ⟨_, hkey, _, hstart, _, hvalue, ?_⟩
      simp only [hclose]
    · refine ⟨_, hkey, _, hstart, _, hvalue, ?_⟩
      simp only [hmore, hread, Option.map_some]
    · refine ⟨_, hkey, _, hstart, _, hvalue, ?_⟩
      simp only [hmore, hread, Option.map_some]

/-- Reading the next assignment. -/
theorem body?_cons_iff {name : List Char} {value : Value} {entries : Dict} :
    body? letters (fuel + 1) text = some ((name, value) :: entries) ↔
      ∃ after, letters.identifier? (gap text) = some (name, after) ∧ ∃ start,
        blanks after = '=' :: start ∧ ∃ next,
          value? letters fuel (blanks start) = some (value, next) ∧
            (blanks next = [] ∧ entries = [] ∨ ∃ more,
              blanks next = '\n' :: more ∧ body? letters fuel more = some entries) := by
  rw [body?]
  constructor
  · intro h
    split at h
    case h_1 => exact nomatch h
    case h_2 =>
      obtain ⟨⟨name', after⟩, hname, h⟩ := Option.bind_eq_some_iff.mp h
      dsimp only at h
      split at h
      case h_1 start hstart =>
        obtain ⟨⟨value', next⟩, hvalue, h⟩ := Option.bind_eq_some_iff.mp h
        dsimp only at h
        split at h
        case h_1 hend =>
          obtain ⟨hentry, rfl⟩ := List.cons.inj (Option.some.inj h)
          obtain ⟨rfl, rfl⟩ := Prod.mk.inj hentry
          exact ⟨after, hname, start, hstart, next, hvalue, Or.inl ⟨hend, rfl⟩⟩
        case h_2 more hmore =>
          obtain ⟨entries', hread, hentries⟩ := Option.map_eq_some_iff.mp h
          obtain ⟨hentry, rfl⟩ := List.cons.inj hentries
          obtain ⟨rfl, rfl⟩ := Prod.mk.inj hentry
          exact ⟨after, hname, start, hstart, next, hvalue, Or.inr ⟨more, hmore, hread⟩⟩
        case h_3 => exact nomatch h
      case h_2 => exact nomatch h
  · rintro ⟨after, hname, start, hstart, next, hvalue, h⟩
    have hne : gap text ≠ [] := by
      intro hnil
      rw [hnil] at hname
      exact nomatch hname
    split
    case h_1 hnil => exact absurd hnil hne
    case h_2 => 
      simp only [hname, hstart, hvalue, Option.bind_eq_bind, Option.bind_some]
      rcases h with ⟨hend, rfl⟩ | ⟨more, hmore, hread⟩
      · simp only [hend]
      · simp only [hmore, hread, Option.map_some]

end ProxmoxIaas.Terraform.Hcl
