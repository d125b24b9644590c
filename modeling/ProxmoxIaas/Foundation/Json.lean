import ProxmoxIaas.Foundation.Numerals
import Mathlib.Data.Int.Log
import Mathlib.Data.List.Nodup
import Mathlib.Data.Rat.Floor

/-!
# JSON Texts

JSON is read as Python reads it: `NaN` and `Infinity` are numbers, of two members of an object with
the same name the last one counts, a numeral of more than 4300 digits is refused by an error of its
own, and so are values that are nested too deeply. A text is split into tokens first. A numeral that
is refused is a token as well, so that the first error in the text is the one that is reported.

The characters of a text are given by their code points, since an escape sequence may stand for half
of a surrogate pair.

## Main results

- `loads_dumps`: an object of numbers and `null` that was written is read back.
-/

namespace Json

/-- A floating-point number of 64 bits; the sign of zero is not kept. -/
inductive Binary64 where
  | finite (value : ℚ)
  | infinite (negative : Bool)
  | nan
  deriving DecidableEq, Repr

/-- Round to an integer, a tie to the even one. -/
def roundHalfEven (q : ℚ) : ℤ :=
  let below := ⌊q⌋
  if q - below < 1 / 2 then below
  else if 1 / 2 < q - below then below + 1
  else if below % 2 = 0 then below else below + 1

/-- The number of 64 bits that is closest to a rational one. -/
def Binary64.ofRat (q : ℚ) : Binary64 :=
  let size := |q|
  -- 53 bits from the first one on, or fewer below the smallest normal number
  let unit : ℚ := 2 ^ max (Int.log 2 size - 52) (-1074)
  let value := roundHalfEven (size / unit) * unit
  if 2 ^ 1024 ≤ value then .infinite (q < 0)
  else .finite (if q < 0 then -value else value)

/-- Whether a number is less than zero. -/
def Binary64.isNegative : Binary64 → Bool
  | .finite value => value < 0
  | .infinite negative => negative
  | .nan => false

/-- A JSON value. -/
inductive Value where
  | null
  | bool (value : Bool)
  | int (value : ℤ)
  | float (value : Binary64)
  | text (codePoints : List ℕ)
  | array (elements : List Value)
  | object (members : List (List ℕ × Value))
  deriving Repr

/-- Why a text is refused. -/
inductive Error where
  /-- The text is no JSON. -/
  | decode
  /-- A numeral has too many digits. -/
  | digits
  /-- Values are nested too deeply. -/
  | recursion
  deriving DecidableEq, Repr

/-- A token. -/
inductive Token where
  | openObject
  | closeObject
  | openArray
  | closeArray
  | comma
  | colon
  | text (codePoints : List ℕ)
  | scalar (value : Value)
  /-- What cannot be read, and the error if a value is expected there. -/
  | bad (error : Error)
  deriving Repr

section Lexer

/-- The value of a hexadecimal digit. -/
def hexValue? (c : Char) : Option ℕ :=
  if c.isDigit then some (c.toNat - 48)
  else if 'a' ≤ c ∧ c ≤ 'f' then some (c.toNat - 87)
  else if 'A' ≤ c ∧ c ≤ 'F' then some (c.toNat - 55)
  else none

/-- The character that a backslash and a character stand for. -/
def escaped? (c : Char) : Option ℕ :=
  if c = '"' ∨ c = '\\' ∨ c = '/' then some c.toNat
  else if c = 'b' then some 8
  else if c = 'f' then some 12
  else if c = 'n' then some 10
  else if c = 'r' then some 13
  else if c = 't' then some 9
  else none

/-- Read a text after its opening quote: the code points, escaped surrogates as they are, and what
follows the closing quote. -/
def scanText : List Char → Option (List ℕ × List Char)
  | [] => none
  | '"' :: rest => some ([], rest)
  | '\\' :: 'u' :: a :: b :: c :: d :: rest =>
    match [a, b, c, d].mapM hexValue? with
    | some digits =>
      (scanText rest).map (Prod.map (digits.foldl (fun n digit => 16 * n + digit) 0 :: ·) id)
    | none => none
  | '\\' :: c :: rest =>
    match escaped? c with
    | some codePoint => (scanText rest).map (Prod.map (codePoint :: ·) id)
    | none => none
  | c :: rest =>
    -- control characters must be escaped
    if c.toNat < 32 then none else (scanText rest).map (Prod.map (c.toNat :: ·) id)

/-- Join the halves of surrogate pairs. -/
def joinSurrogates : List ℕ → List ℕ
  | high :: low :: rest =>
    if 0xd800 ≤ high ∧ high < 0xdc00 ∧ 0xdc00 ≤ low ∧ low < 0xe000 then
      (0x10000 + (high - 0xd800) * 0x400 + (low - 0xdc00)) :: joinSurrogates rest
    else high :: joinSurrogates (low :: rest)
  | codePoints => codePoints

/-- Read the digits at the start of a text. -/
def scanDigits (text : List Char) : List Char × List Char :=
  (text.takeWhile Char.isDigit, text.dropWhile Char.isDigit)

/-- Read a fraction, if there is one. -/
def scanFraction (text : List Char) : Option (List Char) × List Char :=
  match text with
  | '.' :: rest =>
    if (scanDigits rest).1 = [] then (none, text)
    else (some (scanDigits rest).1, (scanDigits rest).2)
  | _ => (none, text)

/-- Read the sign of an exponent, if there is one. -/
def scanSign (text : List Char) : ℤ × List Char :=
  match text with
  | '-' :: rest => (-1, rest)
  | '+' :: rest => (1, rest)
  | _ => (1, text)

/-- Read an exponent, if there is one. -/
def scanExponent (text : List Char) : Option ℤ × List Char :=
  match text with
  | c :: rest =>
    if c = 'e' ∨ c = 'E' then
      let (sign, unsigned) := scanSign rest
      let (digits, rest') := scanDigits unsigned
      if digits = [] then (none, text) else (some (sign * Nat.ofDigitChars 10 digits 0), rest')
    else (none, text)
  | [] => (none, text)

/-- The token of a numeral. -/
def numeral (sign : ℤ) (digits : List Char) (fraction : Option (List Char)) (exponent : Option ℤ) :
    Token :=
  match fraction, exponent with
  | none, none =>
    if digits.length ≤ Text.maxStrDigits then .scalar (.int (sign * Nat.ofDigitChars 10 digits 0))
    else .bad .digits
  | _, _ =>
    let decimals := fraction.getD []
    let mantissa : ℚ := Nat.ofDigitChars 10 (digits ++ decimals) 0
    .scalar (.float (.ofRat (sign * mantissa * 10 ^ (exponent.getD 0 - decimals.length))))

/-- Read a numeral without its sign. -/
def scanNumber (sign : ℤ) (text : List Char) : Option (Token × List Char) :=
  match text with
  | c :: rest =>
    if c.isDigit then
      let (digits, rest) := if c = '0' then (['0'], rest) else scanDigits text
      let (fraction, rest) := scanFraction rest
      let (exponent, rest) := scanExponent rest
      some (numeral sign digits fraction exponent, rest)
    else none
  | [] => none

/-- The token at the start of a text, and what follows it. -/
def scanToken (text : List Char) : Option (Token × List Char) :=
  match text with
  | '{' :: rest => some (.openObject, rest)
  | '}' :: rest => some (.closeObject, rest)
  | '[' :: rest => some (.openArray, rest)
  | ']' :: rest => some (.closeArray, rest)
  | ',' :: rest => some (.comma, rest)
  | ':' :: rest => some (.colon, rest)
  | '"' :: rest => (scanText rest).map (Prod.map (fun units => .text (joinSurrogates units)) id)
  | 't' :: 'r' :: 'u' :: 'e' :: rest => some (.scalar (.bool true), rest)
  | 'f' :: 'a' :: 'l' :: 's' :: 'e' :: rest => some (.scalar (.bool false), rest)
  | 'n' :: 'u' :: 'l' :: 'l' :: rest => some (.scalar .null, rest)
  | 'N' :: 'a' :: 'N' :: rest => some (.scalar (.float .nan), rest)
  | 'I' :: 'n' :: 'f' :: 'i' :: 'n' :: 'i' :: 't' :: 'y' :: rest =>
    some (.scalar (.float (.infinite false)), rest)
  | '-' :: 'I' :: 'n' :: 'f' :: 'i' :: 'n' :: 'i' :: 't' :: 'y' :: rest =>
    some (.scalar (.float (.infinite true)), rest)
  | '-' :: rest => scanNumber (-1) rest
  | _ => scanNumber 1 text

/-- What follows a text is shorter. -/
theorem length_scanText {text rest : List Char} {units : List ℕ}
    (h : scanText text = some (units, rest)) : rest.length < text.length := by
  induction text using scanText.induct generalizing units with
  | case1 => cases h
  | case2 tail =>
    cases h
    exact Nat.lt_succ_self _
  | case3 a b c d tail digits hdigits ih =>
    rw [scanText, hdigits] at h
    obtain ⟨⟨units', rest'⟩, hscan, heq⟩ := Option.map_eq_some_iff.mp h
    cases heq
    have hlt := ih hscan
    simp only [List.length_cons, id] at hlt ⊢
    omega
  | case4 a b c d tail hnone =>
    rw [scanText, hnone] at h
    cases h
  | case5 c tail hu codePoint hescaped ih =>
    rw [scanText, hescaped] at h
    · obtain ⟨⟨units', rest'⟩, hscan, heq⟩ := Option.map_eq_some_iff.mp h
      cases heq
      have hlt := ih hscan
      simp only [List.length_cons, id] at hlt ⊢
      omega
    · exact hu
  | case6 c tail hu hnone =>
    rw [scanText, hnone] at h
    · cases h
    · exact hu
  | case7 c tail hquote hu hback hlow =>
    rw [scanText, if_pos hlow] at h
    · cases h
    all_goals assumption
  | case8 c tail hquote hu hback hlow ih =>
    rw [scanText, if_neg hlow] at h
    · obtain ⟨⟨units', rest'⟩, hscan, heq⟩ := Option.map_eq_some_iff.mp h
      cases heq
      have hlt := ih hscan
      simp only [List.length_cons, id] at hlt ⊢
      omega
    all_goals assumption

/-- Digits that are read are part of the text. -/
theorem length_scanDigits (text : List Char) : (scanDigits text).2.length ≤ text.length :=
  (List.dropWhile_sublist _).length_le

/-- A fraction that is read is part of the text. -/
theorem length_scanFraction (text : List Char) : (scanFraction text).2.length ≤ text.length := by
  unfold scanFraction
  split
  next rest =>
    split
    next => exact le_rfl
    next => exact (length_scanDigits rest).trans (Nat.le_succ _)
  next => exact le_rfl

/-- A sign that is read is part of the text. -/
theorem length_scanSign (text : List Char) : (scanSign text).2.length ≤ text.length := by
  unfold scanSign
  split
  · exact Nat.le_succ _
  · exact Nat.le_succ _
  · exact le_rfl

/-- An exponent that is read is part of the text. -/
theorem length_scanExponent (text : List Char) : (scanExponent text).2.length ≤ text.length := by
  unfold scanExponent
  split
  next c rest =>
    split
    next =>
      dsimp only
      split
      next => exact le_rfl
      next =>
        exact ((length_scanDigits _).trans (length_scanSign rest)).trans (Nat.le_succ _)
    next => exact le_rfl
  next => exact le_rfl

/-- What follows a numeral is shorter. -/
theorem length_scanNumber {sign : ℤ} {text rest : List Char} {token : Token}
    (h : scanNumber sign text = some (token, rest)) : rest.length < text.length := by
  unfold scanNumber at h
  split at h
  next c rest' =>
    split at h
    next hdigit =>
      dsimp only at h
      cases h
      refine ((length_scanExponent _).trans (length_scanFraction _)).trans_lt ?_
      split
      next => exact Nat.lt_succ_self _
      next =>
        rw [scanDigits, List.dropWhile_cons_of_pos hdigit]
        exact (length_scanDigits rest').trans_lt (Nat.lt_succ_self _)
    next => cases h
  next => cases h

/-- What follows a token is shorter. -/
theorem length_scanToken {text rest : List Char} {token : Token}
    (h : scanToken text = some (token, rest)) : rest.length < text.length := by
  unfold scanToken at h
  split at h
  case h_7 =>
    obtain ⟨⟨units, rest'⟩, hscan, heq⟩ := Option.map_eq_some_iff.mp h
    cases heq
    exact (length_scanText hscan).trans (Nat.lt_succ_self _)
  case h_14 => exact (length_scanNumber h).trans (Nat.lt_succ_self _)
  case h_15 => exact length_scanNumber h
  all_goals
    cases h
    simp only [List.length_cons]
    omega

/-- White space between tokens. -/
def isWhite (c : Char) : Bool := c = ' ' || c = '\t' || c = '\n' || c = '\r'

/-- Split a text into tokens; nothing is read after what cannot be read. -/
def lex (text : List Char) : List Token :=
  match text with
  | [] => []
  | c :: rest =>
    if isWhite c then lex rest
    else match _h : scanToken (c :: rest) with
      | some (token, rest') => token :: lex rest'
      | none => [.bad .decode]
termination_by text.length
decreasing_by
  · exact Nat.lt_succ_self _
  · exact length_scanToken _h

end Lexer

section Parser

/-- A value that is not complete. -/
inductive Frame where
  /-- An array with the elements so far. -/
  | array (elements : List Value)
  /-- An object with the members so far, and the name of the member that is read. -/
  | object (members : List (List ℕ × Value)) (key : List ℕ)

/-- What is expected next. -/
inductive Mode where
  /-- A value. -/
  | value
  /-- A value or the end of the array. -/
  | firstElement
  /-- The name of a member or the end of the object. -/
  | firstKey
  /-- The name of a member. -/
  | key (members : List (List ℕ × Value))
  /-- The colon after the name of a member. -/
  | colon (members : List (List ℕ × Value)) (key : List ℕ)
  /-- What follows a value that is complete. -/
  | done (value : Value)

/-- The values that are not complete, the innermost first, and what is expected next. -/
structure State where
  /-- The values that are not complete. -/
  stack : List Frame
  /-- What is expected. -/
  mode : Mode

/-- Read the first token of a value. At most `limit` values may be nested. -/
def expectValue (limit : ℕ) (stack : List Frame) : Token → Except Error State
  | .scalar value => .ok ⟨stack, .done value⟩
  | .text codePoints => .ok ⟨stack, .done (.text codePoints)⟩
  | .openArray =>
    if stack.length < limit then .ok ⟨.array [] :: stack, .firstElement⟩ else .error .recursion
  | .openObject => if stack.length < limit then .ok ⟨stack, .firstKey⟩ else .error .recursion
  | .bad error => .error error
  | _ => .error .decode

/-- Read a token. -/
def step (limit : ℕ) : State → Token → Except Error State
  | ⟨stack, .value⟩, token => expectValue limit stack token
  | ⟨.array [] :: stack, .firstElement⟩, .closeArray => .ok ⟨stack, .done (.array [])⟩
  | ⟨stack, .firstElement⟩, token => expectValue limit stack token
  | ⟨stack, .firstKey⟩, .closeObject => .ok ⟨stack, .done (.object [])⟩
  | ⟨stack, .firstKey⟩, .text key => .ok ⟨stack, .colon [] key⟩
  | ⟨stack, .key members⟩, .text key => .ok ⟨stack, .colon members key⟩
  | ⟨stack, .colon members key⟩, .colon => .ok ⟨.object members key :: stack, .value⟩
  | ⟨.array elements :: stack, .done value⟩, .comma =>
    .ok ⟨.array (elements ++ [value]) :: stack, .value⟩
  | ⟨.array elements :: stack, .done value⟩, .closeArray =>
    .ok ⟨stack, .done (.array (elements ++ [value]))⟩
  | ⟨.object members key :: stack, .done value⟩, .comma =>
    .ok ⟨stack, .key (members ++ [(key, value)])⟩
  | ⟨.object members key :: stack, .done value⟩, .closeObject =>
    .ok ⟨stack, .done (.object (members ++ [(key, value)]))⟩
  | _, _ => .error .decode

/-- The value, if it is complete. -/
def finish : State → Except Error Value
  | ⟨[], .done value⟩ => .ok value
  | _ => .error .decode

/-- Read a text. -/
def loads (limit : ℕ) (text : List Char) : Except Error Value :=
  ((lex text).foldlM (step limit) ⟨[], .value⟩).bind finish

/-- The value of a member: the last one of its name. -/
def member? (members : List (List ℕ × Value)) (key : List ℕ) : Option Value :=
  (members.reverse.find? fun member => member.1 = key).map (·.2)

end Parser

section Printer

/-- Write a natural number, or `null`; `none` for a number with too many digits. -/
def dumpNumber? : Option ℕ → Option (List Char)
  | none => some ['n', 'u', 'l', 'l']
  | some n =>
    if (Text.digits n).length ≤ Text.maxStrDigits then some (Text.digits n) else none

/-- Write a member whose name needs no escape sequence. -/
def dumpMember? (member : List Char × Option ℕ) : Option (List Char) :=
  (dumpNumber? member.2).map fun text => '"' :: (member.1 ++ '"' :: ':' :: ' ' :: text)

/-- Write an object. -/
def dumps? (members : List (List Char × Option ℕ)) : Option (List Char) :=
  (members.mapM dumpMember?).map fun texts => '{' :: ([',', ' '].intercalate texts ++ ['}'])

/-- The value that was written. -/
def Value.ofNumber : Option ℕ → Value
  | none => .null
  | some n => .int n

end Printer

section RoundTrip

variable {rest : List Char}

/-- A name that needs no escape sequence. -/
def IsPlainKey (key : List Char) : Prop :=
  ∀ c ∈ key, c ≠ '"' ∧ c ≠ '\\' ∧ 32 ≤ c.toNat ∧ c.toNat < 0xd800

instance (key : List Char) : Decidable (IsPlainKey key) := List.decidableBAll _ key

/-- A text that is no part of a numeral comes after it. -/
def EndsNumber (rest : List Char) : Prop :=
  ∀ c ∈ rest.head?, c.isDigit = false ∧ c ≠ '.' ∧ c ≠ 'e' ∧ c ≠ 'E'

/-- Printed digits have no zero in front. -/
theorem head?_digits {n : ℕ} (h : n ≠ 0) : (Text.digits n).head? ≠ some '0' := by
  induction n using Nat.strongRecOn with
  | ind n ih =>
    unfold Text.digits at ih ⊢
    by_cases hlt : n < 10
    · rw [Nat.toDigits_of_lt_base hlt]
      have hchar : ∀ m < 10, m ≠ 0 → Nat.digitChar m ≠ '0' := by decide
      exact fun heq => hchar n hlt h (Option.some_inj.mp heq)
    · have hdiv : n / 10 ≠ 0 := by omega
      rw [Nat.toDigits_of_base_le (by decide) (by omega),
        List.head?_append_of_ne_nil _ Nat.toDigits_ne_nil]
      exact ih (n / 10) (by omega) hdiv

/-- The digits before a text that is no part of a numeral. -/
theorem scanDigits_append {digits : List Char} (h : ∀ c ∈ digits, c.isDigit = true)
    (hrest : EndsNumber rest) : scanDigits (digits ++ rest) = (digits, rest) := by
  have hend : rest.takeWhile Char.isDigit = [] ∧ rest.dropWhile Char.isDigit = rest := by
    cases rest with
    | nil => exact ⟨rfl, rfl⟩
    | cons c rest =>
      have hc := (hrest c rfl).1
      exact ⟨List.takeWhile_cons_of_neg (by simp [hc]), List.dropWhile_cons_of_neg (by simp [hc])⟩
  rw [scanDigits, List.takeWhile_append_of_pos h, List.dropWhile_append_of_pos h, hend.1, hend.2,
    List.append_nil]

/-- There is no fraction before a text that is no part of a numeral. -/
theorem scanFraction_eq (hrest : EndsNumber rest) : scanFraction rest = (none, rest) := by
  unfold scanFraction
  split
  next => exact absurd rfl (hrest '.' rfl).2.1
  next => rfl

/-- There is no exponent before a text that is no part of a numeral. -/
theorem scanExponent_eq (hrest : EndsNumber rest) : scanExponent rest = (none, rest) := by
  unfold scanExponent
  split
  next c rest' =>
    rw [if_neg]
    rintro (rfl | rfl)
    · exact (hrest 'e' rfl).2.2.1 rfl
    · exact (hrest 'E' rfl).2.2.2 rfl
  next => rfl

/-- A printed number is one token. -/
theorem scanNumber_digits {n : ℕ} (hn : (Text.digits n).length ≤ Text.maxStrDigits)
    (hrest : EndsNumber rest) :
    scanNumber 1 (Text.digits n ++ rest) = some (.scalar (.int n), rest) := by
  have hdigit : ∀ c ∈ Text.digits n, c.isDigit = true := fun c => Text.isDigit_of_mem_digits
  have hscan := scanDigits_append hdigit hrest
  have hvalue : Nat.ofDigitChars 10 (Text.digits n) 0 = n := Nat.ofDigitChars_ten_toDigits
  cases hdigits : Text.digits n with
  | nil => exact absurd hdigits Nat.toDigits_ne_nil
  | cons c digits =>
    rw [hdigits] at hscan hvalue hn hdigit
    have hfirst : (if c = '0' then (['0'], digits ++ rest) else scanDigits (c :: digits ++ rest)) =
        (c :: digits, rest) := by
      by_cases hc : c = '0'
      · -- the number is zero, and the zero is its only digit
        have hzero : n = 0 := by
          by_contra hne
          exact head?_digits hne (by rw [hdigits, hc]; rfl)
        subst hzero
        cases hdigits
        rfl
      · rw [if_neg hc, hscan]
    rw [List.cons_append, scanNumber, if_pos (hdigit c List.mem_cons_self), ← List.cons_append,
      hfirst]
    dsimp only
    rw [scanFraction_eq hrest, scanExponent_eq hrest]
    dsimp only
    rw [numeral, if_pos hn, hvalue, one_mul]

/-- The token of a text that starts with a digit. -/
theorem scanToken_of_isDigit {c : Char} {text : List Char} (h : c.isDigit = true) :
    scanToken (c :: text) = scanNumber 1 (c :: text) := by
  have hne : ∀ d, Char.isDigit d = false → c ≠ d := fun d hd heq => by
    rw [heq, hd] at h
    cases h
  unfold scanToken
  split
  case h_15 => rfl
  all_goals
    rename_i heq
    exact absurd (List.cons.inj heq).1 (hne _ (by decide))

/-- The token of what was written for a value. -/
theorem scanToken_dumpNumber {value : Option ℕ} {text : List Char}
    (h : dumpNumber? value = some text) (hrest : EndsNumber rest) :
    scanToken (text ++ rest) = some (.scalar (.ofNumber value), rest) := by
  cases value with
  | none =>
    cases h
    rfl
  | some n =>
    rw [dumpNumber?] at h
    split at h
    next hn =>
      cases h
      have hscan := scanNumber_digits hn hrest
      cases hdigits : Text.digits n with
      | nil => exact absurd hdigits Nat.toDigits_ne_nil
      | cons c digits =>
        have hc : c.isDigit = true := by
          refine Text.isDigit_of_mem_digits (n := n) ?_
          rw [hdigits]
          exact List.mem_cons_self
        rw [hdigits] at hscan
        rw [List.cons_append] at hscan ⊢
        rw [scanToken_of_isDigit hc, hscan, Value.ofNumber]
    next => cases h

/-- What was written for a value starts with no white space. -/
theorem isWhite_head_dumpNumber {value : Option ℕ} {text : List Char}
    (h : dumpNumber? value = some text) : ∃ c rest, text = c :: rest ∧ isWhite c = false := by
  cases value with
  | none =>
    cases h
    exact ⟨'n', _, rfl, rfl⟩
  | some n =>
    rw [dumpNumber?] at h
    split at h
    next =>
      cases h
      cases hdigits : Text.digits n with
      | nil => exact absurd hdigits Nat.toDigits_ne_nil
      | cons c digits =>
        refine ⟨c, digits, rfl, ?_⟩
        have hc : c.isDigit = true := by
          refine Text.isDigit_of_mem_digits (n := n) ?_
          rw [hdigits]
          exact List.mem_cons_self
        simp only [isWhite, Bool.or_eq_false_iff, decide_eq_false_iff_not]
        refine ⟨⟨⟨?_, ?_⟩, ?_⟩, ?_⟩ <;> rintro rfl <;> exact absurd hc (by decide)
    next => cases h

/-- A name without escape sequences is read as it is. -/
theorem scanText_append {key : List Char} (h : IsPlainKey key) :
    scanText (key ++ '"' :: rest) = some (key.map Char.toNat, rest) := by
  induction key with
  | nil => rfl
  | cons c key ih =>
    obtain ⟨⟨hquote, hback, hlow, _⟩, hkey⟩ := List.forall_mem_cons.mp h
    rw [List.cons_append, scanText, if_neg (by omega), ih hkey]
    · rfl
    · exact hquote
    · exact fun _ _ _ _ _ hc => absurd hc hback
    · exact fun _ _ hc => absurd hc hback

/-- There are no surrogates to join. -/
theorem joinSurrogates_eq {units : List ℕ} (h : ∀ unit ∈ units, unit < 0xd800) :
    joinSurrogates units = units := by
  induction units with
  | nil => rfl
  | cons high units ih =>
    cases units with
    | nil => rfl
    | cons low units =>
      have hhigh := h high List.mem_cons_self
      rw [joinSurrogates, if_neg (by omega), ih fun unit hunit => h unit (List.mem_cons_of_mem _ hunit)]

/-- The token at the start of a text. -/
theorem lex_cons {c : Char} {text : List Char} {token : Token} (hwhite : isWhite c = false)
    (h : scanToken (c :: text) = some (token, rest)) : lex (c :: text) = token :: lex rest := by
  rw [lex, if_neg (by simp [hwhite])]
  split
  next token' rest' heq =>
    rw [h] at heq
    cases heq
    rfl
  next heq =>
    rw [h] at heq
    cases heq

/-- A blank is skipped. -/
theorem lex_blank (text : List Char) : lex (' ' :: text) = lex text := by
  have hwhite : isWhite ' ' = true := rfl
  rw [lex, if_pos hwhite]

/-- The end of an object at the end of a text. -/
theorem lex_close : lex ['}'] = [.closeObject] := by
  have hclose : lex ['}'] = .closeObject :: lex [] := lex_cons rfl rfl
  rw [hclose, lex]

/-- The tokens of a member. -/
theorem lex_member {member : List Char × Option ℕ} {text : List Char}
    (hkey : IsPlainKey member.1) (h : dumpMember? member = some text) (hrest : EndsNumber rest) :
    lex (text ++ rest) =
      .text (member.1.map Char.toNat) :: .colon :: .scalar (.ofNumber member.2) :: lex rest := by
  obtain ⟨number, hnumber, rfl⟩ := Option.map_eq_some_iff.mp h
  obtain ⟨c, tail, rfl, hwhite⟩ := isWhite_head_dumpNumber hnumber
  have hjoin : joinSurrogates (member.1.map Char.toNat) = member.1.map Char.toNat := by
    refine joinSurrogates_eq fun unit hunit => ?_
    obtain ⟨d, hd, rfl⟩ := List.mem_map.mp hunit
    exact (hkey d hd).2.2.2
  have htext : scanToken ('"' :: (member.1 ++ '"' :: ':' :: ' ' :: (c :: tail ++ rest))) =
      some (.text (member.1.map Char.toNat), ':' :: ' ' :: (c :: tail ++ rest)) := by
    rw [scanToken, scanText_append hkey, Option.map_some, Prod.map, hjoin]
    rfl
  have happend : '"' :: (member.1 ++ '"' :: ':' :: ' ' :: c :: tail) ++ rest =
      '"' :: (member.1 ++ '"' :: ':' :: ' ' :: (c :: tail ++ rest)) := by
    simp
  have hcolon : lex (':' :: ' ' :: (c :: tail ++ rest)) =
      .colon :: lex (' ' :: (c :: tail ++ rest)) := lex_cons rfl rfl
  have hvalue : lex (c :: tail ++ rest) = .scalar (.ofNumber member.2) :: lex rest :=
    lex_cons hwhite (scanToken_dumpNumber hnumber hrest)
  rw [happend, lex_cons rfl htext, hcolon, lex_blank, hvalue]

/-- The members that were written, up to the end of their object. -/
theorem foldlM_members {limit : ℕ} {members : List (List Char × Option ℕ)}
    {texts : List (List Char)} {mode : Mode} {before : List (List ℕ × Value)} (hne : members ≠ [])
    (hkeys : ∀ member ∈ members, IsPlainKey member.1) (h : members.mapM dumpMember? = some texts)
    (hmode : ∀ key, step limit ⟨[], mode⟩ (.text key) = .ok ⟨[], .colon before key⟩) :
    (lex ([',', ' '].intercalate texts ++ ['}'])).foldlM (step limit) ⟨[], mode⟩ =
      .ok ⟨[], .done (.object (before ++
        members.map fun member => (member.1.map Char.toNat, .ofNumber member.2)))⟩ := by
  induction members generalizing texts mode before with
  | nil => exact absurd rfl hne
  | cons member members ih =>
    obtain ⟨hkey, hkeys⟩ := List.forall_mem_cons.mp hkeys
    rw [List.mapM_cons] at h
    obtain ⟨text, htext, h⟩ := Option.bind_eq_some_iff.mp h
    obtain ⟨texts, htexts, heq⟩ := Option.bind_eq_some_iff.mp h
    cases heq
    cases members with
    | nil =>
      rw [List.mapM_nil] at htexts
      obtain rfl : [] = texts := Option.some_inj.mp htexts
      have hend : EndsNumber ['}'] := by
        rintro _ ⟨⟩
        decide
      rw [List.intercalate_singleton, lex_member hkey htext hend, lex_close, List.foldlM_cons,
        hmode]
      rfl
    | cons next members =>
      obtain ⟨following, texts, rfl⟩ : ∃ following texts', texts = following :: texts' := by
        rw [List.mapM_cons] at htexts
        obtain ⟨following, _, htexts⟩ := Option.bind_eq_some_iff.mp htexts
        obtain ⟨texts', _, heq⟩ := Option.bind_eq_some_iff.mp htexts
        exact ⟨following, texts', (Option.some_inj.mp heq).symm⟩
      have hkey' (key : List ℕ) : step limit
          ⟨[], .key (before ++ [(member.1.map Char.toNat, .ofNumber member.2)])⟩ (.text key) =
            .ok ⟨[], .colon (before ++ [(member.1.map Char.toNat, .ofNumber member.2)]) key⟩ := rfl
      have hrest := ih (List.cons_ne_nil _ _) hkeys htexts hkey'
      have hend : EndsNumber
          (',' :: ' ' :: ([',', ' '].intercalate (following :: texts) ++ ['}'])) := by
        rintro _ ⟨⟩
        decide
      have hcomma : lex (',' :: ' ' :: ([',', ' '].intercalate (following :: texts) ++ ['}'])) =
          .comma :: lex ([',', ' '].intercalate (following :: texts) ++ ['}']) := by
        rw [← lex_blank ([',', ' '].intercalate (following :: texts) ++ ['}'])]
        exact lex_cons rfl rfl
      have happend : text ++ [',', ' '] ++ [',', ' '].intercalate (following :: texts) ++ ['}'] =
          text ++ (',' :: ' ' :: ([',', ' '].intercalate (following :: texts) ++ ['}'])) := by
        simp
      rw [List.intercalate_cons_cons, happend, lex_member hkey htext hend, hcomma,
        List.foldlM_cons, hmode]
      refine hrest.trans ?_
      simp only [List.append_assoc, List.singleton_append, List.map_cons]

/-- An object that was written is read back. -/
theorem loads_dumps {limit : ℕ} {members : List (List Char × Option ℕ)} {text : List Char}
    (hkeys : ∀ member ∈ members, IsPlainKey member.1) (h : dumps? members = some text) :
    loads (limit + 1) text =
      .ok (.object (members.map fun member => (member.1.map Char.toNat, .ofNumber member.2))) := by
  obtain ⟨texts, htexts, rfl⟩ := Option.map_eq_some_iff.mp h
  have hopen : lex ('{' :: ([',', ' '].intercalate texts ++ ['}'])) =
      .openObject :: lex ([',', ' '].intercalate texts ++ ['}']) := lex_cons rfl rfl
  have hstart : step (limit + 1) ⟨[], .value⟩ .openObject = .ok ⟨[], .firstKey⟩ := by
    have hlt : ([] : List Frame).length < limit + 1 := Nat.succ_pos limit
    rw [step, expectValue, if_pos hlt]
  have hmembers : (lex ([',', ' '].intercalate texts ++ ['}'])).foldlM (step (limit + 1))
      ⟨[], .firstKey⟩ = .ok ⟨[], .done (.object
        (members.map fun member => (member.1.map Char.toNat, .ofNumber member.2)))⟩ := by
    obtain rfl | hne := eq_or_ne members []
    · rw [List.mapM_nil] at htexts
      obtain rfl : [] = texts := Option.some_inj.mp htexts
      rw [List.intercalate_nil, List.nil_append, lex_close]
      rfl
    · have hmode (key : List ℕ) :
          step (limit + 1) ⟨[], .firstKey⟩ (.text key) = .ok ⟨[], .colon [] key⟩ := rfl
      exact foldlM_members hne hkeys htexts hmode
  rw [loads, hopen, List.foldlM_cons, hstart]
  exact congrArg (Except.bind · finish) hmembers

/-- The value of a member of an object whose names are all different. -/
theorem member?_of_nodup {members : List (List ℕ × Value)} {key : List ℕ} {value : Value}
    (hnodup : (members.map Prod.fst).Nodup) (h : (key, value) ∈ members) :
    member? members key = some value := by
  have hsome : (members.reverse.find? fun member => member.1 = key).isSome = true :=
    List.find?_isSome.mpr ⟨(key, value), List.mem_reverse.mpr h, decide_eq_true rfl⟩
  obtain ⟨member, hfind⟩ := Option.isSome_iff_exists.mp hsome
  have hfound := List.find?_some hfind
  have hkey : member.1 = key := of_decide_eq_true hfound
  have hmem : member ∈ members := List.mem_reverse.mp (List.mem_of_find?_eq_some hfind)
  have heq : member = (key, value) := List.inj_on_of_nodup_map hnodup hmem h hkey
  rw [member?, hfind, heq]
  rfl

end RoundTrip

end Json
