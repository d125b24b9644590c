import Mathlib.Data.List.Infix

/-!
# Texts in PHP Code

A script is split into the characters of its code and the texts between quotes. Texts in double
quotes are read only if they stand for themselves, without an escape sequence or a variable: an
escape sequence is longer than what it stands for.

A script is often put together from fixed code and texts that are inserted between quotes. The
script means what was asked if it is read as this code with exactly these texts.

## Main results

- `single_eq_some_iff`, `double_eq_some_iff`: which texts stand for themselves between quotes.
- `isRead_iff`: when a script means what was asked.
-/

namespace Php

/-- A token. -/
inductive Token where
  /-- A character of the code. -/
  | code (c : Char)
  /-- The value of a text between quotes. -/
  | text (value : List Char)
  deriving DecidableEq, Repr

/-- Read a text in single quotes, after the opening quote: its value, and what follows it. -/
def single : List Char → Option (List Char × List Char)
  | [] => none
  | '\'' :: rest => some ([], rest)
  | '\\' :: '\'' :: rest => (single rest).map (Prod.map ('\'' :: ·) id)
  | '\\' :: '\\' :: rest => (single rest).map (Prod.map ('\\' :: ·) id)
  -- a backslash before another character stands for itself
  | c :: rest => (single rest).map (Prod.map (c :: ·) id)

/-- Whether an escape sequence follows a backslash in double quotes. -/
def startsEscape : List Char → Bool
  | 'x' :: c :: _ | 'X' :: c :: _ =>
    c.isDigit || ('a' ≤ c && c ≤ 'f') || ('A' ≤ c && c ≤ 'F')
  | 'u' :: c :: _ => c = '{'
  | c :: _ => c ∈ ['n', 't', 'r', 'v', 'e', 'f', '\\', '$', '"'] || ('0' ≤ c && c ≤ '7')
  | [] => false

/-- Whether the name of a variable follows a dollar sign in double quotes. -/
def startsName : List Char → Bool
  | c :: _ => c.isAlpha || c = '_' || c = '{' || 128 ≤ c.toNat
  | [] => false

/-- Whether a text in double quotes goes on with an escape sequence or a variable. -/
def isSpecial : List Char → Bool
  | '\\' :: rest => startsEscape rest
  | '$' :: rest => startsName rest
  | '{' :: '$' :: _ => true
  | _ => false

/-- Read a text in double quotes, after the opening quote: its value, and what follows it. -/
def double : List Char → Option (List Char × List Char)
  | [] => none
  | c :: rest =>
    if c = '"' then some ([], rest)
    else if isSpecial (c :: rest) then none
    else (double rest).map (Prod.map (c :: ·) id)

/-- A character of the code that begins neither a text, nor a comment, nor the end of the code. -/
def isCode (c : Char) : Bool :=
  c.isAlphanum || c ∈ ['$', '_', ' ', '\n', '.', ',', ';', '(', ')', '{', '}', '=', '!', '-', '>', '&']

/-- What follows a text in single quotes is shorter. -/
theorem length_single {text value rest : List Char} (h : single text = some (value, rest)) :
    value.length + rest.length < text.length := by
  induction text using single.induct generalizing value with
  | case1 => cases h
  | case2 tail =>
    cases h
    simp
  | case3 tail ih | case4 tail ih =>
    obtain ⟨⟨value', rest'⟩, hsingle, heq⟩ := Option.map_eq_some_iff.mp h
    cases heq
    have hlt := ih hsingle
    simp only [List.length_cons, id] at hlt ⊢
    omega
  | case5 c tail _ _ _ ih =>
    rw [single] at h
    · obtain ⟨⟨value', rest'⟩, hsingle, heq⟩ := Option.map_eq_some_iff.mp h
      cases heq
      have hlt := ih hsingle
      simp only [List.length_cons, id] at hlt ⊢
      omega
    all_goals assumption

/-- What follows a text in double quotes is shorter. -/
theorem length_double {text value rest : List Char} (h : double text = some (value, rest)) :
    rest.length < text.length := by
  induction text generalizing value with
  | nil => cases h
  | cons c text ih =>
    rw [double] at h
    split_ifs at h
    · cases h
      exact Nat.lt_succ_self _
    · obtain ⟨⟨value', rest'⟩, hdouble, heq⟩ := Option.map_eq_some_iff.mp h
      cases heq
      exact Nat.lt_succ_of_lt (ih hdouble)

/-- Split a script into tokens. -/
def lex (script : List Char) : Option (List Token) :=
  match script with
  | [] => some []
  | c :: rest =>
    if c = '\'' then
      match _h : single rest with
      | some (value, rest') => (lex rest').map (.text value :: ·)
      | none => none
    else if c = '"' then
      match _h : double rest with
      | some (value, rest') => (lex rest').map (.text value :: ·)
      | none => none
    else if isCode c then (lex rest).map (.code c :: ·)
    else none
termination_by script.length
decreasing_by
  · have hlt := length_single _h
    simp only [List.length_cons]
    omega
  · have hlt := length_double _h
    simp only [List.length_cons]
    omega
  · simp

/-- A piece of a script that is put together. -/
inductive Piece where
  /-- Fixed code. -/
  | code (text : List Char)
  /-- A text that is inserted between single quotes. -/
  | single (text : List Char)
  /-- A text that is inserted between double quotes. -/
  | double (text : List Char)

/-- The characters of a piece. -/
def Piece.render : Piece → List Char
  | .code text => text
  | .single text => '\'' :: (text ++ ['\''])
  | .double text => '"' :: (text ++ ['"'])

/-- What is meant by a piece. -/
def Piece.meaning : Piece → List Token
  | .code text => text.map .code
  | .single text | .double text => [.text text]

/-- A text that stands for itself between single quotes. -/
structure IsPlain (text : List Char) : Prop where
  /-- No quote ends the text early. -/
  noQuote : '\'' ∉ text
  /-- Two backslashes would be read as one. -/
  noPair : ¬ ['\\', '\\'] <:+: text
  /-- A backslash at the end would escape the closing quote. -/
  noEnd : ¬ ['\\'] <:+ text

/-- A text that stands for itself between double quotes. -/
structure IsVerbatim (text : List Char) : Prop where
  /-- No quote ends the text early. -/
  noQuote : '"' ∉ text
  /-- There is no escape sequence and no variable, the closing quote included. -/
  noSpecial : ∀ rest, rest <:+ text → isSpecial (rest ++ ['"']) = false

/-- A piece that is read as it is meant. -/
def Piece.IsFaithful : Piece → Prop
  | .code text => ∀ c ∈ text, isCode c = true
  | .single text => IsPlain text
  | .double text => IsVerbatim text

/-- The script that is put together is read as it is meant. -/
def IsRead (pieces : List Piece) : Prop :=
  lex (pieces.flatMap Piece.render) = some (pieces.flatMap Piece.meaning)

section Single

variable {c : Char} {text value rest : List Char}

/-- The empty text is plain. -/
theorem isPlain_nil : IsPlain [] := ⟨by decide, by decide, by decide⟩

/-- Characters of the code are neither quotes nor backslashes. -/
theorem ne_of_isCode (h : isCode c = true) : c ≠ '\'' ∧ c ≠ '\\' := by
  constructor
  · rintro rfl
    exact absurd h (by decide)
  · rintro rfl
    exact absurd h (by decide)

/-- A text without quotes and backslashes is plain. -/
theorem isPlain_of_forall (h : ∀ c ∈ text, c ≠ '\'' ∧ c ≠ '\\') : IsPlain text where
  noQuote hmem := (h _ hmem).1 rfl
  noPair hpart := (h _ (hpart.subset List.mem_cons_self)).2 rfl
  noEnd hsuffix := (h '\\' (hsuffix.subset List.mem_cons_self)).2 rfl

/-- The first character of a text that stands for itself. -/
theorem isPlain_cons_iff :
    IsPlain (c :: text) ↔
      c ≠ '\'' ∧ (c = '\\' → text ≠ [] ∧ text.head? ≠ some '\\') ∧ IsPlain text := by
  have hpair : ['\\', '\\'] <:+: c :: text ↔
      (c = '\\' ∧ text.head? = some '\\') ∨ ['\\', '\\'] <:+: text := by
    rw [List.infix_cons_iff]
    refine or_congr_left ?_
    cases text with
    | nil => simp
    | cons d text => simp [eq_comm]
  have hend : ['\\'] <:+ c :: text ↔ (c = '\\' ∧ text = []) ∨ ['\\'] <:+ text := by
    rw [List.suffix_cons_iff]
    refine or_congr_left ?_
    simp [eq_comm]
  constructor
  · intro h
    refine ⟨fun hc => h.noQuote (hc ▸ List.mem_cons_self), fun hc => ⟨fun ht => ?_, fun ht => ?_⟩,
      fun hc => h.noQuote (List.mem_cons_of_mem c hc), fun hp => h.noPair (hpair.mpr (Or.inr hp)),
      fun he => h.noEnd (hend.mpr (Or.inr he))⟩
    · exact h.noEnd (hend.mpr (Or.inl ⟨hc, ht⟩))
    · exact h.noPair (hpair.mpr (Or.inl ⟨hc, ht⟩))
  · rintro ⟨hquote, hback, h⟩
    refine ⟨fun hmem => ?_, fun hp => ?_, fun he => ?_⟩
    · exact (List.mem_cons.mp hmem).elim (fun heq => hquote heq.symm) h.noQuote
    · exact (hpair.mp hp).elim (fun heq => (hback heq.1).2 heq.2) h.noPair
    · exact (hend.mp he).elim (fun heq => (hback heq.1).1 heq.2) h.noEnd

/-- A character that neither ends the text nor begins an escape stands for itself. -/
theorem single_cons (hquote : c ≠ '\'')
    (hback : c = '\\' → text.head? ≠ some '\'' ∧ text.head? ≠ some '\\') :
    single (c :: text) = (single text).map (Prod.map (c :: ·) id) := by
  rw [single]
  · exact hquote
  · rintro tail rfl rfl
    exact (hback rfl).1 rfl
  · rintro tail rfl rfl
    exact (hback rfl).2 rfl

/-- What is put in front of a text without quotes and backslashes does not matter. -/
theorem isPlain_append_iff {start : List Char} (h : ∀ c ∈ start, c ≠ '\'' ∧ c ≠ '\\') :
    IsPlain (start ++ text) ↔ IsPlain text := by
  induction start with
  | nil => rfl
  | cons c start ih =>
    obtain ⟨hc, hstart⟩ := List.forall_mem_cons.mp h
    rw [List.cons_append, isPlain_cons_iff, ih hstart]
    exact ⟨fun hplain => hplain.2.2, fun htext => ⟨hc.1, fun heq => absurd heq hc.2, htext⟩⟩

/-- A plain text is read as itself. -/
theorem single_of_isPlain (h : IsPlain text) :
    single (text ++ '\'' :: rest) = some (text, rest) := by
  induction text with
  | nil => rfl
  | cons c text ih =>
    obtain ⟨hquote, hback, htext⟩ := isPlain_cons_iff.mp h
    rw [List.cons_append, single_cons hquote, ih htext]
    · rfl
    · intro hc
      obtain ⟨hne, hhead⟩ := hback hc
      cases text with
      | nil => exact absurd rfl hne
      | cons d text =>
        refine ⟨fun hd => htext.noQuote ?_, hhead⟩
        rw [Option.some_inj.mp hd]
        exact List.mem_cons_self

/-- Backslashes before a text that starts with one. -/
theorem replicate_append_cons (n : ℕ) (text : List Char) :
    List.replicate n '\\' ++ '\\' :: text = List.replicate (n + 1) '\\' ++ text := by
  rw [List.replicate_succ', List.append_assoc, List.singleton_append]

/-- No text is read as itself with further backslashes in front: what was left out at a pair of
backslashes is never made up for. -/
theorem single_ne_replicate_append (n : ℕ) (text rest following : List Char) :
    single (text ++ '\'' :: rest) ≠
      some (List.replicate (n + 1) '\\' ++ text, following) := by
  induction text using single.induct generalizing n with
  | case1 => exact nofun
  | case2 text => exact nofun
  | case3 text ih =>
    intro h
    obtain ⟨⟨value, rest'⟩, _, heq⟩ := Option.map_eq_some_iff.mp h
    cases congrArg (fun p => p.1.head?) heq
  | case4 text ih =>
    intro h
    obtain ⟨⟨value, rest'⟩, hsingle, heq⟩ := Option.map_eq_some_iff.mp h
    obtain ⟨hvalue, rfl⟩ := Prod.mk.inj heq
    refine ih (n + 1) (hsingle.trans ?_)
    rw [replicate_append_cons, List.replicate_succ, List.cons_append, List.cons_inj_right,
      replicate_append_cons] at hvalue
    rw [hvalue]
    rfl
  | case5 c text hquote hescape hpair ih =>
    intro h
    by_cases hend : c = '\\' ∧ text = []
    · -- the closing quote is escaped
      obtain ⟨rfl, rfl⟩ := hend
      obtain ⟨⟨value, rest'⟩, _, heq⟩ := Option.map_eq_some_iff.mp h
      cases congrArg (fun p => p.1.head?) heq
    · rw [List.cons_append, single_cons hquote] at h
      · obtain ⟨⟨value, rest'⟩, hsingle, heq⟩ := Option.map_eq_some_iff.mp h
        obtain ⟨hvalue, rfl⟩ := Prod.mk.inj heq
        rw [List.replicate_succ, List.cons_append, List.cons_eq_cons] at hvalue
        obtain ⟨rfl, hvalue⟩ := hvalue
        refine ih n (hsingle.trans ?_)
        rw [replicate_append_cons] at hvalue
        rw [hvalue]
        rfl
      · rintro rfl
        cases text with
        | nil => exact absurd ⟨rfl, rfl⟩ hend
        | cons d text =>
          refine ⟨fun hd => hescape text rfl ?_, fun hd => hpair text rfl ?_⟩
          · rw [Option.some_inj.mp hd]
          · rw [Option.some_inj.mp hd]

/-- The first character of a text that is read as itself. -/
theorem single_cons_eq_some {following : List Char}
    (h : single (c :: text ++ '\'' :: rest) = some (c :: text, following)) :
    c ≠ '\'' ∧ (c = '\\' → text ≠ [] ∧ text.head? ≠ some '\\') ∧
      single (text ++ '\'' :: rest) = some (text, following) := by
  have hquote : c ≠ '\'' := by
    rintro rfl
    cases h
  by_cases hc : c = '\\'
  · subst hc
    cases text with
    | nil =>
      -- the closing quote is escaped
      obtain ⟨_, _, heq⟩ := Option.map_eq_some_iff.mp h
      cases congrArg (fun p => p.1.head?) heq
    | cons d text =>
      by_cases hd : d = '\''
      · subst hd
        obtain ⟨_, _, heq⟩ := Option.map_eq_some_iff.mp h
        cases congrArg (fun p => p.1.head?) heq
      · by_cases hpair : d = '\\'
        · -- the second backslash is left out
          subst hpair
          obtain ⟨⟨value, rest'⟩, hsingle, heq⟩ := Option.map_eq_some_iff.mp h
          obtain ⟨hvalue, rfl⟩ := Prod.mk.inj heq
          rw [List.cons_inj_right] at hvalue
          exact absurd (hvalue ▸ hsingle) (single_ne_replicate_append 0 text rest _)
        · have hne : ∀ e, d ≠ e → (d :: text ++ '\'' :: rest).head? ≠ some e :=
            fun e he heq => he (Option.some_inj.mp heq)
          rw [List.cons_append, single_cons hquote fun _ => ⟨hne _ hd, hne _ hpair⟩] at h
          obtain ⟨⟨value, rest'⟩, hsingle, heq⟩ := Option.map_eq_some_iff.mp h
          obtain ⟨hvalue, rfl⟩ := Prod.mk.inj heq
          rw [List.cons_inj_right] at hvalue
          exact ⟨hquote, fun _ => ⟨nofun, fun heq => hpair (Option.some_inj.mp heq)⟩,
            hvalue ▸ hsingle⟩
  · rw [List.cons_append, single_cons hquote fun heq => absurd heq hc] at h
    obtain ⟨⟨value, rest'⟩, hsingle, heq⟩ := Option.map_eq_some_iff.mp h
    obtain ⟨hvalue, rfl⟩ := Prod.mk.inj heq
    rw [List.cons_inj_right] at hvalue
    exact ⟨hquote, fun heq => absurd heq hc, hvalue ▸ hsingle⟩

/-- A text is read as itself if and only if it is plain. -/
theorem single_eq_some_iff {following : List Char} :
    single (text ++ '\'' :: rest) = some (text, following) ↔
      IsPlain text ∧ rest = following := by
  constructor
  · intro h
    induction text with
    | nil =>
      obtain ⟨_, rfl⟩ := Prod.mk.inj (Option.some_inj.mp h)
      exact ⟨isPlain_nil, rfl⟩
    | cons c text ih =>
      obtain ⟨hquote, hback, hsingle⟩ := single_cons_eq_some h
      exact (ih hsingle).imp_left fun htext => isPlain_cons_iff.mpr ⟨hquote, hback, htext⟩
  · rintro ⟨hplain, rfl⟩
    exact single_of_isPlain hplain

end Single

section Double

variable {c : Char} {text rest : List Char}

/-- Whether a text goes on with something special is seen before the closing quote. -/
theorem isSpecial_append (c : Char) (text rest : List Char) :
    isSpecial (c :: text ++ '"' :: rest) = isSpecial (c :: text ++ ['"']) := by
  have hescape : startsEscape (text ++ '"' :: rest) = startsEscape (text ++ ['"']) := by
    match text with
    | [] => rfl
    | [d] =>
      unfold startsEscape
      grind
    | d :: e :: text =>
      unfold startsEscape
      grind
  have hname : startsName (text ++ '"' :: rest) = startsName (text ++ ['"']) := by
    cases text with
    | nil => rfl
    | cons d text => rfl
  cases text with
  | nil =>
    unfold isSpecial
    grind
  | cons d text =>
    unfold isSpecial
    grind

/-- The first character of a text that stands for itself. -/
theorem isVerbatim_cons_iff :
    IsVerbatim (c :: text) ↔
      c ≠ '"' ∧ isSpecial (c :: text ++ ['"']) = false ∧ IsVerbatim text := by
  constructor
  · intro h
    exact ⟨fun hc => h.noQuote (hc ▸ List.mem_cons_self), h.noSpecial _ (List.suffix_refl _),
      fun hmem => h.noQuote (List.mem_cons_of_mem c hmem),
      fun rest hrest => h.noSpecial rest (List.suffix_cons_iff.mpr (Or.inr hrest))⟩
  · rintro ⟨hquote, hspecial, h⟩
    refine ⟨fun hmem => ?_, fun rest hrest => ?_⟩
    · exact (List.mem_cons.mp hmem).elim (fun heq => hquote heq.symm) h.noQuote
    · obtain rfl | hrest := List.suffix_cons_iff.mp hrest
      · exact hspecial
      · exact h.noSpecial rest hrest

/-- A text without quotes, backslashes and dollar signs is verbatim. -/
theorem isVerbatim_of_forall (h : ∀ c ∈ text, c ≠ '"' ∧ c ≠ '\\' ∧ c ≠ '$') : IsVerbatim text where
  noQuote hmem := (h _ hmem).1 rfl
  noSpecial rest hrest := by
    have hchars : ∀ c ∈ rest ++ ['"'], c ≠ '\\' ∧ c ≠ '$' :=
      List.forall_mem_append.mpr
        ⟨fun c hc => (h c (hrest.subset hc)).2, List.forall_mem_singleton.mpr (by decide)⟩
    -- each special beginning has a backslash or a dollar sign
    unfold isSpecial
    split
    case h_1 tail heq => exact absurd rfl (hchars _ (heq ▸ List.mem_cons_self)).1
    case h_2 tail heq => exact absurd rfl (hchars _ (heq ▸ List.mem_cons_self)).2
    case h_3 tail heq =>
      exact absurd rfl (hchars _ (heq ▸ List.mem_cons_of_mem _ List.mem_cons_self)).2
    case h_4 => rfl

/-- A text is read as itself if and only if it is verbatim. -/
theorem double_eq_some_iff {following : List Char} :
    double (text ++ '"' :: rest) = some (text, following) ↔
      IsVerbatim text ∧ rest = following := by
  induction text with
  | nil =>
    have hnil : IsVerbatim [] :=
      ⟨nofun, fun rest hrest => by rw [List.suffix_nil.mp hrest]; decide⟩
    constructor
    · intro h
      obtain ⟨_, rfl⟩ := Prod.mk.inj (Option.some_inj.mp h)
      exact ⟨hnil, rfl⟩
    · rintro ⟨_, rfl⟩
      rfl
  | cons c text ih =>
    rw [isVerbatim_cons_iff, and_assoc, and_assoc, ← ih, List.cons_append, double,
      ← List.cons_append, isSpecial_append]
    by_cases hc : c = '"'
    · rw [if_pos hc]
      exact iff_of_false nofun fun h => h.1 hc
    · rw [if_neg hc]
      cases isSpecial (c :: text ++ ['"']) with
      | true => exact iff_of_false nofun fun h => Bool.noConfusion h.2.1
      | false =>
        rw [if_neg Bool.false_ne_true]
        constructor
        · intro h
          obtain ⟨⟨value, rest'⟩, hdouble, heq⟩ := Option.map_eq_some_iff.mp h
          obtain ⟨hvalue, rfl⟩ := Prod.mk.inj heq
          rw [List.cons_inj_right] at hvalue
          exact ⟨hc, rfl, hvalue ▸ hdouble⟩
        · rintro ⟨_, _, hdouble⟩
          rw [hdouble]
          rfl

end Double

instance (text : List Char) : Decidable (IsPlain text) :=
  decidable_of_iff ('\'' ∉ text ∧ ¬ ['\\', '\\'] <:+: text ∧ ¬ ['\\'] <:+ text)
    ⟨fun ⟨hquote, hpair, hend⟩ => ⟨hquote, hpair, hend⟩, fun h => ⟨h.noQuote, h.noPair, h.noEnd⟩⟩

instance (text : List Char) : Decidable (IsVerbatim text) :=
  decidable_of_iff ('"' ∉ text ∧ ∀ rest ∈ text.tails, isSpecial (rest ++ ['"']) = false)
    ⟨fun ⟨hquote, hspecial⟩ =>
      ⟨hquote, fun rest hrest => hspecial rest ((List.mem_tails rest text).mpr hrest)⟩,
      fun h => ⟨h.noQuote, fun rest hrest => h.noSpecial rest ((List.mem_tails rest text).mp hrest)⟩⟩

instance (piece : Piece) : Decidable piece.IsFaithful :=
  match piece with
  | .code text => List.decidableBAll _ text
  | .single text => inferInstanceAs (Decidable (IsPlain text))
  | .double text => inferInstanceAs (Decidable (IsVerbatim text))

section Literal

variable (text : List Char)

/-- What holds of the characters of a literal. -/
theorem forall_mem_toList (p : Char → Bool) (h : text.all p = true) :
    ∀ c ∈ (String.ofList text).toList, p c = true := by
  rw [String.toList_ofList]
  exact List.all_eq_true.mp h

/-- A literal piece of code is faithful if its characters are. -/
theorem isFaithful_code (h : text.all isCode = true) :
    (Piece.code (String.ofList text).toList).IsFaithful := forall_mem_toList text isCode h

/-- A literal in single quotes is faithful if it is plain. -/
theorem isFaithful_single (h : decide (IsPlain text) = true) :
    (Piece.single (String.ofList text).toList).IsFaithful := by
  rw [String.toList_ofList]
  exact of_decide_eq_true h

/-- A literal in double quotes is faithful if it is verbatim. -/
theorem isFaithful_double (h : decide (IsVerbatim text) = true) :
    (Piece.double (String.ofList text).toList).IsFaithful := by
  rw [String.toList_ofList]
  exact of_decide_eq_true h

end Literal

section Render

variable {rest : List Char} {tokens : List Token}

/-- A character of the code. -/
theorem lex_cons_eq_some_iff {c : Char} :
    lex (c :: rest) = some (.code c :: tokens) ↔ isCode c = true ∧ lex rest = some tokens := by
  have hne : ∀ d, isCode d = false → isCode c = true → c ≠ d := fun d hd hc heq => by
    rw [heq, hd] at hc
    cases hc
  rw [lex]
  split_ifs with hsingle hdouble hcode
  · refine iff_of_false (fun h => ?_) fun h => hne '\'' (by decide) h.1 hsingle
    split at h
    next =>
      obtain ⟨_, _, heq⟩ := Option.map_eq_some_iff.mp h
      cases heq
    next => cases h
  · refine iff_of_false (fun h => ?_) fun h => hne '"' (by decide) h.1 hdouble
    split at h
    next =>
      obtain ⟨_, _, heq⟩ := Option.map_eq_some_iff.mp h
      cases heq
    next => cases h
  · rw [Option.map_eq_some_iff]
    simp [hcode]
  · simp [hcode]

/-- A text between single quotes. -/
theorem lex_single_eq_some_iff {text : List Char} :
    lex (Piece.render (.single text) ++ rest) = some (.text text :: tokens) ↔
      IsPlain text ∧ lex rest = some tokens := by
  have hrender : Piece.render (.single text) ++ rest = '\'' :: (text ++ '\'' :: rest) := by
    simp [Piece.render]
  rw [hrender, lex, if_pos rfl]
  constructor
  · intro h
    split at h
    next value following hsingle =>
      obtain ⟨tokens', hlex, heq⟩ := Option.map_eq_some_iff.mp h
      cases heq
      obtain ⟨hplain, rfl⟩ := single_eq_some_iff.mp hsingle
      exact ⟨hplain, hlex⟩
    next => cases h
  · rintro ⟨hplain, hlex⟩
    split
    next value following hsingle =>
      rw [single_of_isPlain hplain, Option.some_inj, Prod.mk.injEq] at hsingle
      obtain ⟨rfl, rfl⟩ := hsingle
      rw [hlex]
      rfl
    next hsingle =>
      rw [single_of_isPlain hplain] at hsingle
      cases hsingle

/-- A text between double quotes. -/
theorem lex_double_eq_some_iff {text : List Char} :
    lex (Piece.render (.double text) ++ rest) = some (.text text :: tokens) ↔
      IsVerbatim text ∧ lex rest = some tokens := by
  have hrender : Piece.render (.double text) ++ rest = '"' :: (text ++ '"' :: rest) := by
    simp [Piece.render]
  rw [hrender, lex, if_neg (by decide), if_pos rfl]
  constructor
  · intro h
    split at h
    next value following hdouble =>
      obtain ⟨tokens', hlex, heq⟩ := Option.map_eq_some_iff.mp h
      cases heq
      obtain ⟨hverbatim, rfl⟩ := double_eq_some_iff.mp hdouble
      exact ⟨hverbatim, hlex⟩
    next => cases h
  · rintro ⟨hverbatim, hlex⟩
    have hread := double_eq_some_iff.mpr ⟨hverbatim, rfl (a := rest)⟩
    split
    next value following hdouble =>
      rw [hread, Option.some_inj, Prod.mk.injEq] at hdouble
      obtain ⟨rfl, rfl⟩ := hdouble
      rw [hlex]
      rfl
    next hdouble =>
      rw [hread] at hdouble
      cases hdouble

/-- A piece is read as it is meant, and so is what follows it, or the whole is not. -/
theorem lex_piece_eq_some_iff (piece : Piece) :
    lex (piece.render ++ rest) = some (piece.meaning ++ tokens) ↔
      piece.IsFaithful ∧ lex rest = some tokens := by
  cases piece with
  | code text =>
    induction text with
    | nil => simp [Piece.render, Piece.meaning, Piece.IsFaithful]
    | cons c text ih =>
      have hcons : lex (c :: (text ++ rest)) = some (.code c :: (text.map .code ++ tokens)) ↔ _ :=
        lex_cons_eq_some_iff
      refine hcons.trans ((and_congr_right fun _ => ih).trans ?_)
      rw [← and_assoc, Piece.IsFaithful, Piece.IsFaithful, List.forall_mem_cons]
  | single text => exact lex_single_eq_some_iff
  | double text => exact lex_double_eq_some_iff

/-- A script is read as it is meant if and only if each of its pieces is faithful. -/
theorem isRead_iff (pieces : List Piece) :
    IsRead pieces ↔ ∀ piece ∈ pieces, piece.IsFaithful := by
  unfold IsRead
  induction pieces with
  | nil =>
    rw [List.flatMap_nil, List.flatMap_nil, lex]
    exact iff_of_true rfl nofun
  | cons piece pieces ih =>
    rw [List.flatMap_cons, List.flatMap_cons, lex_piece_eq_some_iff, ih, List.forall_mem_cons]

end Render

end Php
