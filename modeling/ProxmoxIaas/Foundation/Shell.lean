import ProxmoxIaas.Foundation.Text
import Mathlib.Data.List.Forall2
import Mathlib.Logic.Function.Basic

/-!
# Command Lines of a POSIX Shell

A command line is split into words and operators, and quotes are removed. Read here are lines that
need no expansion: outside quotes every character stands for itself or is a blank, a quote, a
backslash or a redirection, and a line with anything else is not read. A simple command is a list of
arguments, with a file for its output.

## Main results

- `denotes_quote`, `denotes_quoted`: a quoted text stands for itself, whatever its characters are.
- `read?_join`: a line of such pieces is the command with their texts as its arguments.
-/

namespace Shell

/-- A token. -/
inductive Token where
  /-- A word without its quotes. -/
  | word (text : List Char)
  /-- The operator `>`. -/
  | great
  deriving DecidableEq, Repr

/-- A character that stands for itself outside quotes, in a word that is an argument. -/
def isPlain (c : Char) : Bool :=
  c.isAlphanum || c ∈ ['_', '@', '%', '+', '=', ':', ',', '.', '/', '-']

/-- Whether a piece of a line is in quotes. -/
inductive Mode where
  | unquoted
  | single
  | double
  deriving DecidableEq, Repr

/-- The word that has been read, if one was begun. -/
def finish : Option (List Char) → List Token
  | none => []
  | some text => [.word text]

/-- A word with one character more. -/
def push (word : Option (List Char)) (c : Char) : Option (List Char) := some (word.getD [] ++ [c])

/-- Split a line into tokens. -/
def scan : Mode → Option (List Char) → List Char → Option (List Token)
  | .unquoted, word, [] => some (finish word)
  | .single, _, [] => none
  | .double, _, [] => none
  | .unquoted, word, '\\' :: c :: rest =>
    -- a line break that is escaped joins two lines, which is not read
    if c = '\n' then none else scan .unquoted (push word c) rest
  | .unquoted, word, c :: rest =>
    if c = ' ' ∨ c = '\t' then (scan .unquoted none rest).map (finish word ++ ·)
    else if c = '\'' then scan .single (some (word.getD [])) rest
    else if c = '"' then scan .double (some (word.getD [])) rest
    -- digits right before the operator would be the number of a file
    else if c = '>' ∧ word = none then (scan .unquoted none rest).map (.great :: ·)
    else if isPlain c then scan .unquoted (push word c) rest
    else none
  | .single, word, c :: rest =>
    if c = '\'' then scan .unquoted word rest else scan .single (push word c) rest
  | .double, word, c :: rest =>
    if c = '"' then scan .unquoted word rest
    -- these may begin an expansion or an escape
    else if c = '$' ∨ c = '\x60' ∨ c = '\\' then none
    else scan .double (push word c) rest

/-- A simple command. -/
structure Command where
  /-- The arguments, from the name of the command on. -/
  arguments : List (List Char)
  /-- The file that the output goes to. -/
  output : Option (List Char)
  deriving DecidableEq, Repr

/-- The command of some tokens; a redirection is read at the end. -/
def command? : List Token → Option Command
  | [] => some ⟨[], none⟩
  | .word text :: rest =>
    (command? rest).map fun command => { command with arguments := text :: command.arguments }
  | [.great, .word file] => some ⟨[], some file⟩
  | .great :: _ => none

/-- Words that begin a compound command. -/
def reserved : List (List Char) :=
  ["if", "then", "else", "elif", "fi", "do", "done", "case", "esac", "while", "until", "for",
    "in"].map String.toList

/-- Read a line that is a simple command. Its first word is neither reserved nor an assignment, and
as an argument of a program the line has no null character. -/
def read? (line : List Char) : Option Command :=
  if '\x00' ∈ line then none
  else ((scan .unquoted none line).bind command?).filter fun command =>
    command.arguments.head?.all fun name => name ∉ reserved && '=' ∉ name

/-- The output of `printf` for the format `%s`, which is used once for every argument. -/
def printf? : List (List Char) → Option (List Char)
  | format :: arguments => if format = ['%', 's'] then some arguments.flatten else none
  | [] => none

/-- The contents of the files. -/
abbrev Files := List Char → Option (List Char)

/-- Run `printf` with a file for its output. -/
def run? (files : Files) (command : Command) : Option Files :=
  match command with
  | ⟨name :: arguments, some file⟩ =>
    if name = "printf".toList then
      (printf? arguments).map fun text => Function.update files file (some text)
    else none
  | _ => none

/-- Replace every single quote by an escape for it. -/
def escape (quote text : List Char) : List Char :=
  text.flatMap fun c => if c = '\'' then quote else [c]

/-- Quote a text as one word. -/
def quote (text : List Char) : List Char :=
  if text = [] then "''".toList
  else if text.all isPlain then text
  else '\'' :: escape "'\"'\"'".toList text ++ ['\'']

/-- The text has no null character, which no argument of a program can have. -/
def NoNull (text : List Char) : Prop := '\x00' ∉ text

instance (text : List Char) : Decidable (NoNull text) := inferInstanceAs (Decidable ('\x00' ∉ text))

/-- A piece of a line stands for a text: it adds the text to the word that it is part of. -/
def Denotes (piece text : List Char) : Prop :=
  ∀ word rest, scan .unquoted word (piece ++ rest) =
    scan .unquoted (some (word.getD [] ++ text)) rest

section Scan

variable {word : Option (List Char)} {piece text rest : List Char}

/-- Outside quotes, a character that is no backslash. -/
theorem scan_unquoted {c : Char} (h : c ≠ '\\') :
    scan .unquoted word (c :: rest) =
      if c = ' ' ∨ c = '\t' then (scan .unquoted none rest).map (finish word ++ ·)
      else if c = '\'' then scan .single (some (word.getD [])) rest
      else if c = '"' then scan .double (some (word.getD [])) rest
      else if c = '>' ∧ word = none then (scan .unquoted none rest).map (.great :: ·)
      else if isPlain c then scan .unquoted (push word c) rest
      else none := by
  rw [scan]
  exact fun _ _ hc => absurd hc h

/-- In double quotes, a character that begins neither an expansion nor an escape. -/
theorem scan_double {c : Char} :
    scan .double word (c :: rest) =
      if c = '"' then scan .unquoted word rest
      else if c = '$' ∨ c = '\x60' ∨ c = '\\' then none
      else scan .double (push word c) rest := rfl

/-- A plain character is part of a word. -/
theorem scan_cons_of_isPlain {c : Char} (h : isPlain c = true) :
    scan .unquoted word (c :: rest) = scan .unquoted (push word c) rest := by
  have hne : ∀ d, isPlain d = false → c ≠ d := fun d hd heq => by
    rw [heq, hd] at h
    cases h
  rw [scan_unquoted, if_neg, if_neg, if_neg, if_neg, if_pos h]
  · exact fun hc => hne '>' (by decide) hc.1
  · exact hne '"' (by decide)
  · exact hne '\'' (by decide)
  · rintro (hc | hc)
    · exact hne ' ' (by decide) hc
    · exact hne '\t' (by decide) hc
  · exact hne '\\' (by decide)

/-- A blank ends a word. -/
theorem scan_blank :
    scan .unquoted word (' ' :: rest) = (scan .unquoted none rest).map (finish word ++ ·) := by
  rw [scan_unquoted (by decide), if_pos (Or.inl rfl)]

/-- The operator of a redirection, between blanks. -/
theorem scan_great :
    scan .unquoted none ('>' :: ' ' :: rest) = (scan .unquoted none rest).map (.great :: ·) := by
  rw [scan_unquoted (by decide), if_neg (by decide), if_neg (by decide), if_neg (by decide),
    if_pos ⟨rfl, rfl⟩, scan_blank]
  exact congrArg (Option.map _) Option.map_id'

/-- A single quote begins a quoted piece of a word. -/
theorem scan_open :
    scan .unquoted word ('\'' :: rest) = scan .single (some (word.getD [])) rest := by
  rw [scan_unquoted (by decide), if_neg (by decide), if_pos rfl]

/-- A single quote ends the quoted piece. -/
theorem scan_close : scan .single word ('\'' :: rest) = scan .unquoted word rest := rfl

/-- Every other character stands for itself in single quotes. -/
theorem scan_single {c : Char} (h : c ≠ '\'') :
    scan .single word (c :: rest) = scan .single (push word c) rest := if_neg h

/-- The escape that closes the quotes, puts a quote in double quotes and opens them again. -/
theorem scan_doubleQuoted (word : Option (List Char)) (rest : List Char) :
    scan .single word ("'\"'\"'".toList ++ rest) = scan .single (push word '\'') rest := by
  change scan .single word ('\'' :: '"' :: '\'' :: '"' :: '\'' :: rest) = _
  have hopen : ∀ word rest, scan .unquoted word ('"' :: rest) =
      scan .double (some (word.getD [])) rest := fun word rest => by
    rw [scan_unquoted (by decide), if_neg (by decide), if_neg (by decide), if_pos rfl]
  rw [scan_close, hopen, scan_double, if_neg (by decide), if_neg (by decide), scan_double,
    if_pos rfl, scan_open]
  rfl

/-- The escape that closes the quotes, puts a quote after a backslash and opens them again. -/
theorem scan_backslash (word : Option (List Char)) (rest : List Char) :
    scan .single word ("'\\''".toList ++ rest) = scan .single (push word '\'') rest := by
  change scan .single word ('\'' :: '\\' :: '\'' :: '\'' :: rest) = _
  have hescaped : ∀ word, scan .unquoted word ('\\' :: '\'' :: '\'' :: rest) =
      scan .unquoted (push word '\'') ('\'' :: rest) := fun word => if_neg (by decide)
  rw [scan_close, hescaped, scan_open]
  rfl

/-- In single quotes an escaped text adds itself, whatever it is. -/
theorem scan_escape {esc : List Char}
    (hesc : ∀ word rest, scan .single word (esc ++ rest) = scan .single (push word '\'') rest) :
    scan .single word (escape esc text ++ rest) =
      scan .single (if text = [] then word else some (word.getD [] ++ text)) rest := by
  induction text generalizing word with
  | nil => rfl
  | cons c text ih =>
    have hhead : scan .single word (escape esc (c :: text) ++ rest) =
        scan .single (push word c) (escape esc text ++ rest) := by
      rw [escape, List.flatMap_cons, List.append_assoc, ← escape]
      by_cases hc : c = '\''
      · rw [if_pos hc, hesc, hc]
      · rw [if_neg hc, List.singleton_append, scan_single hc]
    rw [hhead, ih, if_neg (List.cons_ne_nil c text)]
    split
    next htext => rw [htext, push]
    next => rw [push, Option.getD_some, List.append_assoc, List.singleton_append]

/-- Pieces without a blank between them are one word. -/
theorem Denotes.append {piece' text' : List Char} (h : Denotes piece text)
    (h' : Denotes piece' text') : Denotes (piece ++ piece') (text ++ text') := fun word rest => by
  rw [List.append_assoc, h, h', Option.getD_some, List.append_assoc]

/-- Plain characters stand for themselves. -/
theorem denotes_of_isPlain (hne : text ≠ []) (h : ∀ c ∈ text, isPlain c = true) :
    Denotes text text := fun word rest => by
  induction text generalizing word with
  | nil => exact absurd rfl hne
  | cons c text ih =>
    rw [List.cons_append, scan_cons_of_isPlain (h c List.mem_cons_self)]
    obtain rfl | htext := eq_or_ne text []
    · rfl
    · rw [ih htext fun d hd => h d (List.mem_cons_of_mem c hd), push, Option.getD_some,
        List.append_assoc, List.singleton_append]

/-- A text between single quotes stands for itself if its quotes are escaped. -/
theorem denotes_quoted {esc : List Char}
    (hesc : ∀ word rest, scan .single word (esc ++ rest) = scan .single (push word '\'') rest) :
    Denotes ('\'' :: (escape esc text ++ ['\''])) text := fun word rest => by
  rw [List.cons_append, List.append_assoc, List.singleton_append, scan_open, scan_escape hesc,
    scan_close]
  split
  next htext => rw [htext, List.append_nil]
  next => rfl

/-- A quoted text stands for itself. -/
theorem denotes_quote : Denotes (quote text) text := by
  unfold quote
  split_ifs with hempty hplain
  · -- an empty word needs its quotes
    subst hempty
    exact fun word rest => by
      change scan .unquoted word ('\'' :: '\'' :: rest) = _
      rw [scan_open, scan_close, List.append_nil]
  · exact denotes_of_isPlain hempty (List.all_eq_true.mp hplain)
  · exact denotes_quoted scan_doubleQuoted

/-- A piece before a blank is a word. -/
theorem Denotes.scan_blank (h : Denotes piece text) :
    scan .unquoted none (piece ++ ' ' :: rest) =
      (scan .unquoted none rest).map (.word text :: ·) := by
  rw [h, Shell.scan_blank]
  rfl

/-- A piece at the end of the line is a word. -/
theorem Denotes.scan_end (h : Denotes piece text) :
    scan .unquoted none piece = some [.word text] := by
  have heq := h none []
  rw [List.append_nil] at heq
  rw [heq]
  rfl

/-- Pieces with blanks between them are words. -/
theorem scan_join {pieces texts : List (List Char)} (h : List.Forall₂ Denotes pieces texts)
    (hne : pieces ≠ []) :
    scan .unquoted none (Text.join ' ' pieces) = some (texts.map .word) := by
  induction h with
  | nil => exact absurd rfl hne
  | @cons piece text pieces texts hpiece htail ih =>
    cases htail with
    | nil =>
      rw [Text.join, List.intercalate_singleton, hpiece.scan_end]
      rfl
    | cons hnext hrest =>
      rw [Text.join, List.intercalate_cons_cons, List.append_assoc, List.singleton_append,
        hpiece.scan_blank, ← Text.join, ih (List.cons_ne_nil _ _)]
      rfl

/-- An escape brings in no other characters than its own. -/
theorem mem_of_mem_escape {esc : List Char} {c : Char} (h : c ∈ escape esc text) :
    c ∈ esc ∨ c ∈ text := by
  obtain ⟨d, hd, hc⟩ := List.mem_flatMap.mp h
  by_cases hquote : d = '\''
  · exact Or.inl (by rwa [if_pos hquote] at hc)
  · rw [if_neg hquote, List.mem_singleton] at hc
    exact Or.inr (hc ▸ hd)

/-- Quoting brings in quotes only. -/
theorem mem_of_mem_quote {c : Char} (h : c ∈ quote text) :
    c ∈ "'\"'\"'".toList ∨ c ∈ text := by
  unfold quote at h
  split_ifs at h with hempty hplain
  · change c ∈ ['\'', '\''] at h
    obtain rfl : c = '\'' := by simpa using h
    exact Or.inl (by decide)
  · exact Or.inr h
  · obtain rfl | h := List.mem_cons.mp h
    · exact Or.inl (by decide)
    · obtain h | h := List.mem_append.mp h
      · exact mem_of_mem_escape h
      · exact Or.inl (List.mem_singleton.mp h ▸ by decide)

end Scan

/-- Tokens without an operator are the arguments of a command. -/
theorem command?_map_word (texts : List (List Char)) :
    command? (texts.map .word) = some ⟨texts, none⟩ := by
  induction texts with
  | nil => rfl
  | cons text texts ih => rw [List.map_cons, command?, ih, Option.map_some]

/-- What is read from a line by its tokens. -/
theorem read?_eq_some {line : List Char} {tokens : List Token} {command : Command}
    (hnull : '\x00' ∉ line) (hscan : scan .unquoted none line = some tokens)
    (hcommand : command? tokens = some command)
    (hname : command.arguments.head?.all (fun name => name ∉ reserved && '=' ∉ name) = true) :
    read? line = some command := by
  rw [read?, if_neg hnull, hscan, Option.bind_some, hcommand]
  exact Option.filter_some_pos hname

/-- A piece of a line that can be sent stands for a text. -/
structure Reads (piece text : List Char) : Prop where
  /-- The meaning of the piece. -/
  denotes : Denotes piece text
  /-- The piece can be part of an argument of a program. -/
  noNull : NoNull piece

section Reads

variable {piece text : List Char}

/-- Texts without a null character are appended. -/
theorem NoNull.append {text' : List Char} (h : NoNull text) (h' : NoNull text') :
    NoNull (text ++ text') :=
  fun hmem => (List.mem_append.mp hmem).elim h h'

/-- An escape brings in no null character. -/
theorem NoNull.escape {esc : List Char} (hesc : NoNull esc) (h : NoNull text) :
    NoNull (escape esc text) :=
  fun hmem => (mem_of_mem_escape hmem).elim hesc h

/-- Pieces without a blank between them are one word. -/
theorem Reads.append {piece' text' : List Char} (h : Reads piece text) (h' : Reads piece' text') :
    Reads (piece ++ piece') (text ++ text') :=
  ⟨h.denotes.append h'.denotes, h.noNull.append h'.noNull⟩

/-- Plain characters stand for themselves. -/
theorem reads_of_isPlain (hne : text ≠ []) (h : ∀ c ∈ text, isPlain c = true) :
    Reads text text :=
  ⟨denotes_of_isPlain hne h, fun hmem => absurd (h _ hmem) (by decide)⟩

/-- A literal of plain characters stands for itself. -/
theorem reads_literal (text : String) (h : (text.toList ≠ [] && text.toList.all isPlain) = true) :
    Reads text.toList text.toList := by
  rw [Bool.and_eq_true, decide_eq_true_eq] at h
  exact reads_of_isPlain h.1 (List.all_eq_true.mp h.2)

/-- A quoted text stands for itself. -/
theorem reads_quote (h : NoNull text) : Reads (quote text) text :=
  ⟨denotes_quote, fun hmem => (mem_of_mem_quote hmem).elim (absurd · (by decide)) h⟩

/-- A line of pieces with blanks between them is the command with their texts as its arguments. -/
theorem read?_join {pieces texts : List (List Char)} (h : List.Forall₂ Reads pieces texts)
    (hne : pieces ≠ [])
    (hname : texts.head?.all (fun name => name ∉ reserved && '=' ∉ name) = true) :
    read? (Text.join ' ' pieces) = some ⟨texts, none⟩ := by
  have hboth : List.Forall₂ (fun piece text => NoNull piece ∧ Denotes piece text) pieces texts :=
    h.imp fun _ _ hreads => ⟨hreads.noNull, hreads.denotes⟩
  obtain ⟨hnull, hdenotes⟩ := (List.forall₂_and_left pieces texts).mp hboth
  refine read?_eq_some (fun hmem => ?_) (scan_join hdenotes hne) (command?_map_word texts) hname
  obtain heq | ⟨piece, hpiece, hc⟩ := Text.mem_of_mem_join hmem
  · exact absurd heq (by decide)
  · exact hnull piece hpiece hc

end Reads

end Shell
