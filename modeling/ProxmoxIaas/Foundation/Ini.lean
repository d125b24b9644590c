import ProxmoxIaas.Foundation.Text

/-!
# Files in Sections

Files of sections with entries `key = value`, one on each line. Blank lines and comments are
skipped, and white space around keys and values is not part of them. Which characters end a line,
and which start a comment, differs between readers.

## Main results

- `Ini.Dialect.clean_of_mem`: values that are read are on one line, without comments, and have no
  white space at their ends.
- `Ini.Dialect.line_entry`, `Ini.Dialect.sections?_lines`: entries with such values are read back.
-/

namespace Ini

/-- The characters that keys, and values that need no care, are made of. -/
def isOrdinary (c : Char) : Bool :=
  c.isAlphanum || c ∈ ['+', '/', '=', '.', ':', ',', '[', ']', ' ']

/-- What differs between readers: the characters that end a line, a line feed among them, and those
that start a comment up to the end of the line. -/
structure Dialect where
  ends : Char → Bool
  comment : Char → Bool
  ends_newline : ends '\n' = true
  ordinary : ∀ c, isOrdinary c = true → ends c = false ∧ comment c = false

/-- A key and its value. -/
abbrev Entry := List Char × List Char

/-- A section: its name, and its entries in the order of the file. -/
abbrev Section := List Char × List Entry

/-- What a line is. -/
inductive Line where
  | blank
  | heading (name : List Char)
  | entry (key value : List Char)
  | invalid

/-- The lines of a file, put together. -/
def collect : List Line → Option (List Entry × List Section)
  | [] => some ([], [])
  | .blank :: lines => collect lines
  | .heading name :: lines =>
    (collect lines).map fun (entries, sections) => ([], (name, entries) :: sections)
  | .entry key value :: lines =>
    (collect lines).map fun (entries, sections) => ((key, value) :: entries, sections)
  | .invalid :: _ => none

namespace Dialect

variable (d : Dialect)

/-- Read a line. -/
def line (text : List Char) : Line :=
  let content := text.takeWhile fun c => !d.comment c
  match Text.strip content with
  | [] => .blank
  | '[' :: rest => if rest.getLast? = some ']' then .heading rest.dropLast else .invalid
  | _ =>
    let key := Text.before '=' content
    if '=' ∈ content then
      .entry (Text.strip key) (Text.strip (content.drop (key.length + 1)))
    else .invalid

/-- The sections of a file; an entry before the first section is an error. -/
def sections? (text : List Char) : Option (List Section) :=
  (collect ((text.splitOnP d.ends).map d.line)).bind fun (entries, sections) =>
    if entries = [] then some sections else none

/-- A value that is on one line, without a comment or white space at its ends. -/
def Clean (value : List Char) : Prop :=
  (∀ c ∈ value, d.ends c = false ∧ d.comment c = false) ∧ Text.strip value = value

variable {d}

/-! ### What is read -/

theorem clean_nil : d.Clean [] := ⟨fun _ hc => absurd hc List.not_mem_nil, rfl⟩

/-- A value on a line is clean. -/
theorem clean_of_line {text key value : List Char} (htext : ∀ c ∈ text, d.ends c = false)
    (h : d.line text = .entry key value) : d.Clean value := by
  have hcontent : ∀ c ∈ text.takeWhile fun c => !d.comment c,
      d.ends c = false ∧ d.comment c = false := fun c hc =>
    ⟨htext c ((List.takeWhile_sublist _).mem hc), by simpa using List.mem_takeWhile_imp hc⟩
  unfold line at h
  dsimp only at h
  split at h
  case h_1 => exact nomatch h
  case h_2 =>
    split at h
    · exact nomatch h
    · exact nomatch h
  case h_3 =>
    split at h
    case isTrue =>
      obtain ⟨-, rfl⟩ := Line.entry.inj h
      exact ⟨fun c hc => hcontent c (List.mem_of_mem_drop (Text.mem_of_mem_strip hc)),
        Text.strip_strip _⟩
    case isFalse => exact nomatch h

/-- The values that are collected are those of lines. -/
theorem exists_line_of_collect {lines : List Line} {entries : List Entry}
    {sections : List Section} (h : collect lines = some (entries, sections)) {entry : Entry}
    (hentry : entry ∈ entries ∨ ∃ s ∈ sections, entry ∈ s.2) :
    .entry entry.1 entry.2 ∈ lines := by
  induction lines generalizing entries sections with
  | nil =>
    obtain ⟨rfl, rfl⟩ := Prod.mk.inj (Option.some.inj h)
    simp at hentry
  | cons line lines ih =>
    cases line with
    | blank => exact List.mem_cons_of_mem _ (ih h hentry)
    | heading name =>
      obtain ⟨⟨first, rest⟩, hrest, heq⟩ := Option.map_eq_some_iff.mp h
      obtain ⟨rfl, rfl⟩ := Prod.mk.inj heq
      refine List.mem_cons_of_mem _ (ih hrest ?_)
      simpa using hentry
    | entry key value =>
      obtain ⟨⟨first, rest⟩, hrest, heq⟩ := Option.map_eq_some_iff.mp h
      obtain ⟨rfl, rfl⟩ := Prod.mk.inj heq
      rw [List.mem_cons] at hentry
      rcases hentry with (rfl | hfirst) | hsection
      · exact List.mem_cons_self
      · exact List.mem_cons_of_mem _ (ih hrest (Or.inl hfirst))
      · exact List.mem_cons_of_mem _ (ih hrest (Or.inr hsection))
    | invalid => exact nomatch h

/-- There is no separator in a part of a split. -/
theorem eq_false_of_mem_splitOnP {p : Char → Bool} {text part : List Char}
    (h : part ∈ text.splitOnP p) : ∀ c ∈ part, p c = false := by
  induction text generalizing part with
  | nil =>
    rw [List.splitOnP_nil, List.mem_singleton] at h
    subst h
    exact fun c hc => absurd hc List.not_mem_nil
  | cons c text ih =>
    rw [List.splitOnP_cons_eq_if_modifyHead] at h
    split at h
    case isTrue =>
      rcases List.mem_cons.mp h with rfl | h
      · exact fun c hc => absurd hc List.not_mem_nil
      · exact ih h
    case isFalse hc =>
      obtain ⟨first, rest, hsplit⟩ := List.exists_cons_of_ne_nil (List.splitOnP_ne_nil p text)
      rw [hsplit] at h ih
      rcases List.mem_cons.mp h with rfl | h
      · exact List.forall_mem_cons.mpr ⟨Bool.eq_false_iff.mpr hc, ih List.mem_cons_self⟩
      · exact ih (List.mem_cons_of_mem _ h)

/-- All values that are read are clean. -/
theorem clean_of_mem {text : List Char} {sections : List Section}
    (h : d.sections? text = some sections) {s : Section} (hs : s ∈ sections) {entry : Entry}
    (hentry : entry ∈ s.2) : d.Clean entry.2 := by
  obtain ⟨⟨entries, sections'⟩, hcollect, h⟩ := Option.bind_eq_some_iff.mp h
  dsimp only at h
  split at h
  case isTrue =>
    obtain rfl := Option.some.inj h
    have hmem := exists_line_of_collect hcollect (Or.inr ⟨s, hs, hentry⟩)
    obtain ⟨text, htext, hline⟩ := List.mem_map.mp hmem
    exact clean_of_line (eq_false_of_mem_splitOnP htext) hline
  case isFalse => exact nomatch h

/-! ### What is written -/

theorem takeWhile_eq_self {text : List Char} (h : ∀ c ∈ text, d.comment c = false) :
    (text.takeWhile fun c => !d.comment c) = text :=
  List.takeWhile_eq_self_iff.mpr fun c hc => by rw [h c hc]; rfl

theorem line_nil : d.line [] = .blank := rfl

/-- A heading. -/
theorem line_heading {name : List Char} (hname : ∀ c ∈ name, c.isAlphanum = true) :
    d.line ('[' :: (name ++ [']'])) = .heading name := by
  have hordinary : ∀ c ∈ '[' :: (name ++ [']']), isOrdinary c = true := by
    intro c hc
    simp only [List.mem_cons, List.mem_append, List.not_mem_nil, or_false] at hc
    rcases hc with rfl | hc | rfl
    · rfl
    · rw [isOrdinary, hname c hc, Bool.true_or]
    · rfl
  have hcontent := takeWhile_eq_self fun c hc => (d.ordinary c (hordinary c hc)).2
  have hstrip : Text.strip ('[' :: (name ++ [']'])) = '[' :: (name ++ [']']) := by
    refine Text.strip_eq_self ?_ ?_
    · intro c hc
      obtain rfl := Option.some.inj hc
      rfl
    · intro c hc
      rw [← List.cons_append, List.getLast?_concat] at hc
      obtain rfl := Option.some.inj hc
      rfl
  rw [line, hcontent, hstrip]
  simp

theorem ne_of_isAlphanum {c c' : Char} (hc : c.isAlphanum = true) (hc' : c'.isAlphanum = false) :
    c ≠ c' := by
  rintro rfl
  exact Bool.false_ne_true (hc'.symm.trans hc)

theorem isWhitespace_of_isAlphanum {c : Char} (hc : c.isAlphanum = true) :
    c.isWhitespace = false := by
  simp only [Char.isWhitespace, Bool.or_eq_false_iff, decide_eq_false_iff_not]
  exact ⟨⟨⟨ne_of_isAlphanum hc rfl, ne_of_isAlphanum hc rfl⟩, ne_of_isAlphanum hc rfl⟩,
    ne_of_isAlphanum hc rfl⟩

/-- White space around a key is not part of it. -/
theorem strip_key {key : List Char} (hkey : ∀ c ∈ key, c.isAlphanum = true) (hne : key ≠ []) :
    Text.strip (key ++ [' ']) = key := by
  have hspace : ∀ c ∈ key, c.isWhitespace = false := fun c hc =>
    isWhitespace_of_isAlphanum (hkey c hc)
  have hhead : (key ++ [' ']).dropWhile Char.isWhitespace = key ++ [' '] := by
    obtain ⟨c, key, rfl⟩ := List.exists_cons_of_ne_nil hne
    refine Text.dropWhile_eq_self fun c' hc' => ?_
    obtain rfl := Option.some.inj hc'
    exact hspace c List.mem_cons_self
  have hlast : key.reverse.dropWhile Char.isWhitespace = key.reverse :=
    Text.dropWhile_eq_self fun c hc => hspace c (List.mem_reverse.mp (List.mem_of_mem_head? hc))
  rw [Text.strip, hhead, List.reverse_append]
  change ((' ' :: key.reverse).dropWhile Char.isWhitespace).reverse = key
  rw [List.dropWhile_cons_of_pos rfl, hlast, List.reverse_reverse]

/-- An entry with a clean value. -/
theorem line_entry {key value : List Char} (hne : key ≠ []) (hkey : ∀ c ∈ key, c.isAlphanum = true)
    (hvalue : d.Clean value) : d.line (key ++ " = ".toList ++ value) = .entry key value := by
  have htext : key ++ " = ".toList ++ value = (key ++ [' ']) ++ '=' :: ' ' :: value := by
    simp
  have hordinary : ∀ c ∈ (key ++ [' ']) ++ ['=', ' '], isOrdinary c = true := by
    intro c hc
    simp only [List.mem_append, List.mem_cons, List.not_mem_nil, or_false] at hc
    rcases hc with (hc | rfl) | rfl | rfl
    · rw [isOrdinary, hkey c hc, Bool.true_or]
    all_goals rfl
  have hcontent : ((key ++ [' ']) ++ '=' :: ' ' :: value).takeWhile (fun c => !d.comment c) =
      (key ++ [' ']) ++ '=' :: ' ' :: value := by
    refine takeWhile_eq_self fun c hc => ?_
    have hsplit : c ∈ ((key ++ [' ']) ++ ['=', ' ']) ++ value := by simpa using hc
    rcases List.mem_append.mp hsplit with hc | hc
    · exact (d.ordinary c (hordinary c hc)).2
    · exact (hvalue.1 c hc).2
  have hequals : '=' ∉ key ++ [' '] := by
    intro hmem
    rcases List.mem_append.mp hmem with hmem | hmem
    · exact absurd (hkey _ hmem) (by decide)
    · exact absurd (List.mem_singleton.mp hmem) (by decide)
  have hbefore : Text.before '=' ((key ++ [' ']) ++ '=' :: ' ' :: value) = key ++ [' '] := by
    rw [Text.before_append_cons, Text.before_of_not_mem hequals]
  have hdrop : ((key ++ [' ']) ++ '=' :: ' ' :: value).drop ((key ++ [' ']).length + 1) =
      ' ' :: value := by
    rw [← List.drop_drop, List.drop_left]
    rfl
  have hafter : Text.strip (' ' :: value) = value := by
    rw [Text.strip, List.dropWhile_cons_of_pos rfl]
    exact hvalue.2
  rw [htext, line]
  simp only [hcontent, hbefore, hdrop, strip_key hkey hne, hafter]
  -- the line starts with the key
  obtain ⟨c, key, rfl⟩ := List.exists_cons_of_ne_nil hne
  have hc := hkey c List.mem_cons_self
  obtain ⟨rest, hrest⟩ := Text.strip_cons (isWhitespace_of_isAlphanum hc)
    (key ++ [' '] ++ '=' :: ' ' :: value)
  simp only [List.cons_append] at hrest ⊢
  rw [hrest]
  split
  case h_1 heq => cases heq
  case h_2 heq => exact absurd (List.cons.inj heq).1 (ne_of_isAlphanum hc rfl)
  case h_3 => simp

/-- The lines of a file are read one by one. -/
theorem sections?_lines {lines : List (List Char)}
    (hlines : ∀ line ∈ lines, ∀ c ∈ line, d.ends c = false) :
    d.sections? (lines.flatMap fun line => line ++ ['\n']) =
      (collect (lines.map d.line ++ [.blank])).bind fun (entries, sections) =>
        if entries = [] then some sections else none := by
  have hsplit : (lines.flatMap fun line => line ++ ['\n']).splitOnP d.ends = lines ++ [[]] := by
    induction lines with
    | nil => rfl
    | cons line lines ih =>
      obtain ⟨hline, hlines⟩ := List.forall_mem_cons.mp hlines
      rw [List.flatMap_cons, List.append_assoc, List.singleton_append,
        List.splitOnP_append_cons_of_forall_mem hline '\n' d.ends_newline, ih hlines]
      rfl
  rw [sections?, hsplit, List.map_append]
  rfl

end Dialect

end Ini
