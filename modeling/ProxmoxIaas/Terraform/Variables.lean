import ProxmoxIaas.Foundation.Numerals
import ProxmoxIaas.Terraform.Hcl

/-!
# The Variables File of a Terraform Job

`run_terraform_job` and `destroy_terraform_job` write the variables of a job to `terraform.tfvars`,
one assignment on each line. `_format_tf_value` puts quotes around a text without escaping anything;
lists and maps are written by `json.dumps`, which escapes for JSON and not for HCL.

## Main results

- `quoted?_escape_iff`, `value?_dumps_iff`: what HCL reads of a value that `json.dumps` has written.
- `faithful_iff`: HCL reads the variables back if and only if their names are identifiers, texts
  have nothing to escape, and texts in lists and maps no interpolation and no character that HCL
  reads otherwise than JSON.
-/

namespace ProxmoxIaas.Terraform

/-! ### `json.dumps` -/

/-- The last four hexadecimal digits of a number. -/
def hex4 (n : ℕ) : List Char :=
  [Nat.digitChar (n / 4096 % 16), Nat.digitChar (n / 256 % 16), Nat.digitChar (n / 16 % 16),
    Nat.digitChar (n % 16)]

/-- A 16-bit unit of a text. -/
def unicodeEscape (n : ℕ) : List Char := '\\' :: 'u' :: hex4 n

/-- A character in a text of JSON: everything but printable ASCII is escaped, and characters beyond
the first 65536 as two surrogates. -/
def escapeChar (c : Char) : List Char :=
  if c = '"' then ['\\', '"']
  else if c = '\\' then ['\\', '\\']
  else if c = '\n' then ['\\', 'n']
  else if c = '\r' then ['\\', 'r']
  else if c = '\t' then ['\\', 't']
  else if c = '\x0c' then ['\\', 'f']
  else if c = '\x08' then ['\\', 'b']
  else if ' ' ≤ c ∧ c ≤ '~' then [c]
  else if c.toNat < 0x10000 then unicodeEscape c.toNat
  else
    let n := c.toNat - 0x10000
    unicodeEscape (0xd800 + n / 0x400 % 0x400) ++ unicodeEscape (0xdc00 + n % 0x400)

/-- A text of JSON. -/
def escape (text : List Char) : List Char := text.flatMap escapeChar

/-- A text between quotes. -/
def quote (text : List Char) : List Char := '"' :: (text ++ ['"'])

/-- `str` of an integer; numbers with more digits than Python prints raise an error. -/
def intText? (n : ℤ) : Option (List Char) :=
  if (Text.digits n.natAbs).length ≤ Text.maxStrDigits then
    some (if n < 0 then '-' :: Text.digits n.natAbs else Text.digits n.natAbs)
  else none

/-- `str` of a boolean, as JSON and HCL have it. -/
def boolText (b : Bool) : List Char := if b then "true".toList else "false".toList

/-- A floating-point number in JSON, where infinities and the missing number have other names. -/
def jsonFloat (text : List Char) : List Char :=
  if text = "inf".toList then "Infinity".toList
  else if text = "-inf".toList then "-Infinity".toList
  else if text = "nan".toList then "NaN".toList
  else text

/-- Put parts next to each other, with a comma and a blank between them. -/
def commaJoin (parts : List (List Char)) : List Char := [',', ' '].intercalate parts

mutual

/-- `json.dumps` with its defaults. It raises an error for an object that is not of JSON; the object
`None` is. -/
def jsonDumps : Value → Option (List Char)
  | .str text => some (quote (escape text))
  | .bool b => some (boolText b)
  | .int n => intText? n
  | .float text => some (jsonFloat text)
  | .list items => (jsonItems items).map fun parts => '[' :: (commaJoin parts ++ [']'])
  | .dict entries => (jsonEntries entries).map fun parts => '{' :: (commaJoin parts ++ ['}'])
  | .other text => if text = "None".toList then some "null".toList else none

/-- The items of a list. -/
def jsonItems : List Value → Option (List (List Char))
  | [] => some []
  | item :: items => do
    let part ← jsonDumps item
    let parts ← jsonItems items
    return part :: parts

/-- The entries of a dictionary. -/
def jsonEntries : Dict → Option (List (List Char))
  | [] => some []
  | (key, value) :: entries => do
    let part ← jsonDumps value
    let parts ← jsonEntries entries
    return (quote (escape key) ++ ':' :: ' ' :: part) :: parts

end

/-! ### The variables file -/

/-- `_format_tf_value`. -/
def formatTfValue : Value → Option (List Char)
  | .str text => some (quote text)
  | .bool b => some (boolText b)
  | .int n => intText? n
  | .float text => some text
  | .list items => jsonDumps (.list items)
  | .dict entries => jsonDumps (.dict entries)
  | .other text => some (quote text)

/-- The variables that are written to the file. The connection string of the backend is not: it is
passed in the environment. -/
def written (vars : Dict) : Dict :=
  vars.filter fun entry => entry.1 ≠ "backend_conn_str".toList

/-- A line of the file. -/
def tfvarsLine (entry : List Char × Value) : Option (List Char) :=
  (formatTfValue entry.2).map fun text => entry.1 ++ " = ".toList ++ text

/-- The content of `terraform.tfvars`. -/
def tfvarsContent (vars : Dict) : Option (List Char) :=
  ((written vars).mapM tfvarsLine).map (Text.join '\n')

open Hcl

/-! ### Texts of JSON -/

/-- A text that HCL reads as it is from a text of JSON: there is no interpolation in it, and neither
a form feed nor a backspace, which HCL has no escapes for, nor a character that JSON writes as two
surrogates. -/
def IsPortable (text : List Char) : Prop :=
  (∀ c ∈ text, c ≠ '\x0c' ∧ c ≠ '\x08' ∧ c.toNat < 0x10000) ∧ ¬ Interpolates text

theorem isPortable_cons {c : Char} {text : List Char} :
    IsPortable (c :: text) ↔ (c ≠ '\x0c' ∧ c ≠ '\x08' ∧ c.toNat < 0x10000) ∧
      ¬ ((c = '$' ∨ c = '%') ∧ text.head? = some '{') ∧ IsPortable text := by
  simp only [IsPortable, List.forall_mem_cons, interpolates_cons, not_or]
  tauto

theorem hexDigit?_digitChar : ∀ d < 16, hexDigit? (Nat.digitChar d) = some d := by
  decide

/-- The digits of a 16-bit unit are read as its character. -/
theorem hex?_hex4 {n : ℕ} (h : n < 0x10000) : hex? (hex4 n) = some (character n) := by
  have hdigit (d : ℕ) : hexDigit? (Nat.digitChar (d % 16)) = some (d % 16) :=
    hexDigit?_digitChar _ (Nat.mod_lt d (by decide))
  have hvalue : 16 * (16 * (16 * (16 * 0 + n / 4096 % 16) + n / 256 % 16) + n / 16 % 16) + n % 16 =
      n := by omega
  simp only [hex?, hex4, List.mapM_cons, List.mapM_nil, hdigit, Option.pure_def,
    Option.bind_eq_bind, Option.bind_some, Option.map_some, List.foldl_cons, List.foldl_nil, hvalue]

theorem quoted?_unicode {n : ℕ} (h : n < 0x10000) (text : List Char) :
    quoted? (unicodeEscape n ++ text) =
      (quoted? text).map fun (value, rest) => (character n :: value, rest) := by
  have hhex := hex?_hex4 h
  rw [hex4] at hhex
  rw [unicodeEscape, hex4, quoted?.eq_def]
  simp [hhex]

/-- The other escapes. -/
theorem quoted?_escaped {d : Char} (h : d ≠ 'u' ∧ d ≠ 'U') (text : List Char) :
    quoted? ('\\' :: d :: text) =
      (escaped? d).bind fun c => (quoted? text).map fun (value, rest) => (c :: value, rest) := by
  rw [quoted?.eq_def]
  simp only [Char.reduceEq, or_self, ↓reduceIte]
  split
  case h_1 heq => exact absurd (List.cons.inj heq).1 h.1
  case h_2 heq => exact absurd (List.cons.inj heq).1 h.2
  case h_3 heq =>
    obtain ⟨rfl, rfl⟩ := List.cons.inj heq
    rfl
  case h_4 heq => exact nomatch heq

theorem character_toNat (c : Char) : character c.toNat = c := by
  have hvalid : c.toNat.isValidChar := c.valid
  rw [character, if_pos hvalid, Char.ofNat_toNat]

/-- A character that JSON does not escape. -/
def IsPrintable (c : Char) : Prop := c ≠ '"' ∧ c ≠ '\\' ∧ ' ' ≤ c ∧ c ≤ '~'

theorem escapeChar_of_isPrintable {c : Char} (h : IsPrintable c) : escapeChar c = [c] := by
  obtain ⟨hquote, hbackslash, hlow, hhigh⟩ := h
  have hne : ∀ d : Char, ¬ ' ' ≤ d → c ≠ d := by
    rintro d hd rfl
    exact hd hlow
  rw [escapeChar, if_neg hquote, if_neg hbackslash, if_neg (hne _ (by decide)),
    if_neg (hne _ (by decide)), if_neg (hne _ (by decide)), if_neg (hne _ (by decide)),
    if_neg (hne _ (by decide)), if_pos ⟨hlow, hhigh⟩]

/-- Every other character is written with a backslash. -/
theorem head?_escapeChar {c : Char} (h : ¬ IsPrintable c) : (escapeChar c).head? = some '\\' := by
  have hcase {p : Prop} [Decidable p] {a b : List Char} (ha : p → a.head? = some '\\')
      (hb : ¬ p → b.head? = some '\\') : (if p then a else b).head? = some '\\' :=
    iteInduction (motive := fun chars : List Char => chars.head? = some '\\') ha hb
  unfold escapeChar
  refine hcase (fun _ => rfl) fun hquote => ?_
  refine hcase (fun _ => rfl) fun hbackslash => ?_
  iterate 5 refine hcase (fun _ => rfl) fun _ => ?_
  refine hcase (fun hrange => absurd ⟨hquote, hbackslash, hrange⟩ h) fun _ => ?_
  exact hcase (fun _ => rfl) fun _ => rfl

/-- A character of JSON is read as it is, unless HCL has no escape for it. -/
theorem quoted?_escapeChar {c : Char} {text : List Char}
    (hc : c ≠ '\x0c' ∧ c ≠ '\x08' ∧ c.toNat < 0x10000)
    (hnext : ¬ ((c = '$' ∨ c = '%') ∧ text.head? = some '{'))
    (hdouble : ¬ ((c = '$' ∨ c = '%') ∧ [c, '{'] <+: text)) :
    quoted? (escapeChar c ++ text) =
      (quoted? text).map fun (value, rest) => (c :: value, rest) := by
  by_cases hprintable : IsPrintable c
  · rw [escapeChar_of_isPrintable hprintable, List.singleton_append]
    obtain ⟨hquote, hbackslash, hlow, -⟩ := hprintable
    refine quoted?_cons ⟨hquote, hbackslash, ?_, ?_⟩ hnext hdouble
    · rintro rfl
      exact absurd hlow (by decide)
    · rintro rfl
      exact absurd hlow (by decide)
  · -- five characters have a letter after their backslash, the others a number
    have hletter : ∀ d letter, letter ≠ 'u' ∧ letter ≠ 'U' → escaped? letter = some d → c = d →
        quoted? (['\\', letter] ++ text) =
          (quoted? text).map fun (value, rest) => (c :: value, rest) := by
      rintro d letter hne hd rfl
      rw [List.cons_append, List.singleton_append, quoted?_escaped hne, hd]
      rfl
    have hcase {p : Prop} [Decidable p] {a b : List Char}
        (ha : p → quoted? (a ++ text) = (quoted? text).map fun (value, rest) => (c :: value, rest))
        (hb : ¬ p →
          quoted? (b ++ text) = (quoted? text).map fun (value, rest) => (c :: value, rest)) :
        quoted? ((if p then a else b) ++ text) =
          (quoted? text).map fun (value, rest) => (c :: value, rest) :=
      iteInduction (motive := fun chars : List Char => quoted? (chars ++ text) =
        (quoted? text).map fun (value, rest) => (c :: value, rest)) ha hb
    unfold escapeChar
    refine hcase (hletter '"' '"' (by decide) rfl) fun hquote => ?_
    refine hcase (hletter '\\' '\\' (by decide) rfl) fun hbackslash => ?_
    refine hcase (hletter '\n' 'n' (by decide) rfl) fun _ => ?_
    refine hcase (hletter '\r' 'r' (by decide) rfl) fun _ => ?_
    refine hcase (hletter '\t' 't' (by decide) rfl) fun _ => ?_
    refine hcase (fun hfeed => absurd hfeed hc.1) fun _ => ?_
    refine hcase (fun hback => absurd hback hc.2.1) fun _ => ?_
    refine hcase (fun hrange => absurd ⟨hquote, hbackslash, hrange⟩ hprintable) fun _ => ?_
    refine hcase (fun _ => ?_) fun hlarge => absurd hc.2.2 hlarge
    rw [quoted?_unicode hc.2.2, character_toNat]

/-- The first of two surrogates is read as the replacement character. -/
theorem character_surrogate {n : ℕ} (h : n < 0x400) : character (0xd800 + n) = '\uFFFD' := by
  refine if_neg ?_
  rw [Nat.isValidChar]
  omega

/-- Any other character is not. -/
theorem quoted?_escapeChar_ne {c : Char} (hc : ¬ (c ≠ '\x0c' ∧ c ≠ '\x08' ∧ c.toNat < 0x10000))
    (text value rest : List Char) : quoted? (escapeChar c ++ text) ≠ some (c :: value, rest) := by
  by_cases hfeed : c = '\x0c'
  · rw [hfeed]
    exact fun h => nomatch (quoted?_escaped (by decide) text).symm.trans h
  by_cases hback : c = '\x08'
  · rw [hback]
    exact fun h => nomatch (quoted?_escaped (by decide) text).symm.trans h
  have hlarge : ¬ c.toNat < 0x10000 := fun hlt => hc ⟨hfeed, hback, hlt⟩
  have hne (d : Char) (hd : d.toNat < 0x10000) : c ≠ d := by
    rintro rfl
    exact hlarge hd
  have hrange : ¬ (' ' ≤ c ∧ c ≤ '~') := by
    rintro ⟨-, hle⟩
    have hle : c.toNat ≤ 126 := hle
    omega
  have hescape : escapeChar c = unicodeEscape (0xd800 + (c.toNat - 0x10000) / 0x400 % 0x400) ++
      unicodeEscape (0xdc00 + (c.toNat - 0x10000) % 0x400) := by
    rw [escapeChar, if_neg (hne _ (by decide)), if_neg (hne _ (by decide)),
      if_neg (hne _ (by decide)), if_neg (hne _ (by decide)), if_neg (hne _ (by decide)),
      if_neg hfeed, if_neg hback, if_neg hrange, if_neg hlarge]
  have hsmall : (c.toNat - 0x10000) / 0x400 % 0x400 < 0x400 := Nat.mod_lt _ (by decide)
  rw [hescape, List.append_assoc, quoted?_unicode (by omega), character_surrogate hsmall]
  intro h
  obtain ⟨⟨value', rest'⟩, -, hvalue⟩ := Option.map_eq_some_iff.mp h
  exact hne '\uFFFD' (by decide) (List.cons.inj (Prod.mk.inj hvalue).1).1.symm

/-- An escaped interpolation stands for its last two characters. -/
theorem quoted?_double {c : Char} (hc : c = '$' ∨ c = '%') (text : List Char) :
    quoted? (c :: c :: '{' :: text) =
      (quoted? text).map fun (value, rest) => (c :: '{' :: value, rest) := by
  rw [quoted?.eq_def]
  rcases hc with rfl | rfl <;> simp

/-- What follows a character of a text, in JSON. -/
theorem escape_eq_cons {text rest tail : List Char} {c : Char} (hc : IsPrintable c)
    (h : escape text ++ '"' :: rest = c :: tail) :
    ∃ text', text = c :: text' ∧ tail = escape text' ++ '"' :: rest := by
  cases text with
  | nil => exact absurd (List.cons.inj h).1.symm hc.1
  | cons d text =>
    rw [escape, List.flatMap_cons, List.append_assoc] at h
    by_cases hd : IsPrintable d
    · rw [escapeChar_of_isPrintable hd] at h
      obtain ⟨rfl, rfl⟩ := List.cons.inj h
      exact ⟨text, rfl, rfl⟩
    · obtain ⟨more, hmore⟩ := List.head?_eq_some_iff.mp (head?_escapeChar hd)
      rw [hmore] at h
      exact absurd (List.cons.inj h).1.symm hc.2.1

theorem isPrintable_of_marker {c : Char} (h : c = '$' ∨ c = '%') : IsPrintable c := by
  rcases h with rfl | rfl <;> exact ⟨by decide, by decide, by decide, by decide⟩

theorem isPrintable_brace : IsPrintable '{' := ⟨by decide, by decide, by decide, by decide⟩

/-- A text of JSON is read as it is if and only if it is portable. -/
theorem quoted?_escape_iff {text rest rest' : List Char} :
    quoted? (escape text ++ '"' :: rest) = some (text, rest') ↔
      IsPortable text ∧ rest' = rest := by
  induction text with
  | nil =>
    have hnil : IsPortable [] := by simp [IsPortable, Interpolates]
    simp only [escape, List.flatMap_nil, List.nil_append, quoted?_quote, hnil, true_and,
      Option.some.injEq, Prod.mk.injEq, @eq_comm _ rest]
  | cons c text ih =>
    have happend : escape (c :: text) ++ '"' :: rest =
        escapeChar c ++ (escape text ++ '"' :: rest) := by
      rw [escape, List.flatMap_cons, List.append_assoc]
      rfl
    rw [happend, isPortable_cons]
    by_cases hc : c ≠ '\x0c' ∧ c ≠ '\x08' ∧ c.toNat < 0x10000
    swap
    · exact iff_of_false (quoted?_escapeChar_ne hc _ _ _) fun h => hc h.1.1
    by_cases hnext : (c = '$' ∨ c = '%') ∧ (escape text ++ '"' :: rest).head? = some '{'
    · -- an interpolation
      obtain ⟨hmarker, hhead⟩ := hnext
      obtain ⟨tail, htail⟩ := List.head?_eq_some_iff.mp hhead
      obtain ⟨after, rfl, -⟩ := escape_eq_cons isPrintable_brace htail
      refine iff_of_false ?_ fun h => h.1.2.1 ⟨hmarker, rfl⟩
      rw [htail, escapeChar_of_isPrintable (isPrintable_of_marker hmarker), List.singleton_append,
        quoted?_interpolation hmarker]
      rintro ⟨⟩
    by_cases hdouble : (c = '$' ∨ c = '%') ∧ [c, '{'] <+: escape text ++ '"' :: rest
    · -- an interpolation that is escaped: the first character is lost
      obtain ⟨hmarker, tail, htail⟩ := hdouble
      obtain ⟨text, rfl, htext⟩ :=
        escape_eq_cons (isPrintable_of_marker hmarker) htail.symm
      obtain ⟨after, rfl, -⟩ := escape_eq_cons isPrintable_brace htext.symm
      refine iff_of_false ?_ fun h => (isPortable_cons.mp h.1.2.2).2.1 ⟨hmarker, rfl⟩
      rw [← htail, escapeChar_of_isPrintable (isPrintable_of_marker hmarker)]
      change quoted? (c :: c :: '{' :: tail) ≠ _
      rw [quoted?_double hmarker]
      intro h
      obtain ⟨⟨value, rest''⟩, -, hvalue⟩ := Option.map_eq_some_iff.mp h
      have hbrace : '{' = c := (List.cons.inj (List.cons.inj (Prod.mk.inj hvalue).1).2).1
      rcases hmarker with rfl | rfl <;> exact absurd hbrace (by decide)
    have hfollows : ¬ ((c = '$' ∨ c = '%') ∧ text.head? = some '{') := by
      rintro ⟨hmarker, hhead⟩
      obtain ⟨after, rfl⟩ := List.head?_eq_some_iff.mp hhead
      refine hnext ⟨hmarker, ?_⟩
      rw [escape, List.flatMap_cons, escapeChar_of_isPrintable isPrintable_brace]
      rfl
    rw [quoted?_escapeChar hc hnext hdouble]
    simp only [hc, hfollows, ne_eq, not_false_eq_true, and_self, true_and]
    rw [← ih, Option.map_eq_some_iff]
    constructor
    · rintro ⟨⟨value, rest''⟩, hread, hvalue⟩
      obtain ⟨hcons, rfl⟩ := Prod.mk.inj hvalue
      obtain rfl := (List.cons.inj hcons).2
      exact hread
    · exact fun hread => ⟨_, hread, rfl⟩

/-! ### Values -/

mutual

/-- Whether all texts and keys of a value satisfy a condition, and all integers; there are no other
objects in it. -/
def Value.Forall (text : List Char → Prop) (integer : ℤ → Prop) : Value → Prop
  | .str chars => text chars
  | .bool _ => True
  | .int n => integer n
  | .float _ => False
  | .list items => Value.ForallItems text integer items
  | .dict entries => Value.ForallEntries text integer entries
  | .other _ => False

/-- The items of a list. -/
def Value.ForallItems (text : List Char → Prop) (integer : ℤ → Prop) : List Value → Prop
  | [] => True
  | item :: items => item.Forall text integer ∧ Value.ForallItems text integer items

/-- The entries of a dictionary. -/
def Value.ForallEntries (text : List Char → Prop) (integer : ℤ → Prop) : Dict → Prop
  | [] => True
  | (key, value) :: entries =>
    text key ∧ value.Forall text integer ∧ Value.ForallEntries text integer entries

end

/-- An integer that Python prints. -/
def IsPrinted (n : ℤ) : Prop := (Text.digits n.natAbs).length ≤ Text.maxStrDigits

theorem intText?_of_isPrinted {n : ℤ} (h : IsPrinted n) :
    intText? n = some (if n < 0 then '-' :: Text.digits n.natAbs else Text.digits n.natAbs) :=
  if_pos h

theorem isPrinted_of_intText? {n : ℤ} {text : List Char} (h : intText? n = some text) :
    IsPrinted n := by
  by_contra hlong
  exact nomatch (if_neg hlong).symm.trans h

/-- Whatever the texts are. -/
abbrev AnyText : List Char → Prop := fun _ => True

/-- Whatever the integers are. -/
abbrev AnyInteger : ℤ → Prop := fun _ => True

mutual

/-- JSON prints the integers of what it writes. -/
theorem forall_isPrinted : ∀ {value : Value} {text : List Char}, jsonDumps value = some text →
    value.Forall AnyText AnyInteger → value.Forall AnyText IsPrinted
  | .str _, _, _, _ => trivial
  | .bool _, _, _, _ => trivial
  | .int _, _, h, _ => isPrinted_of_intText? h
  | .list _, _, h, hliteral => by
    obtain ⟨parts, hparts, -⟩ := Option.map_eq_some_iff.mp h
    exact forallItems_isPrinted hparts hliteral
  | .dict _, _, h, hliteral => by
    obtain ⟨parts, hparts, -⟩ := Option.map_eq_some_iff.mp h
    exact forallEntries_isPrinted hparts hliteral

theorem forallItems_isPrinted : ∀ {items : List Value} {parts : List (List Char)},
    jsonItems items = some parts → Value.ForallItems AnyText AnyInteger items →
      Value.ForallItems AnyText IsPrinted items
  | [], _, _, _ => trivial
  | item :: items, _, h, hliteral => by
    obtain ⟨part, hpart, h⟩ := Option.bind_eq_some_iff.mp h
    obtain ⟨parts, hparts, -⟩ := Option.bind_eq_some_iff.mp h
    exact ⟨forall_isPrinted hpart hliteral.1, forallItems_isPrinted hparts hliteral.2⟩

theorem forallEntries_isPrinted : ∀ {entries : Dict} {parts : List (List Char)},
    jsonEntries entries = some parts → Value.ForallEntries AnyText AnyInteger entries →
      Value.ForallEntries AnyText IsPrinted entries
  | [], _, _, _ => trivial
  | (key, value) :: entries, _, h, hliteral => by
    obtain ⟨part, hpart, h⟩ := Option.bind_eq_some_iff.mp h
    obtain ⟨parts, hparts, -⟩ := Option.bind_eq_some_iff.mp h
    exact ⟨trivial, forall_isPrinted hpart hliteral.2.1,
      forallEntries_isPrinted hparts hliteral.2.2⟩

end

mutual

/-- JSON writes whatever it can print. -/
theorem exists_jsonDumps : ∀ {value : Value}, value.Forall AnyText IsPrinted →
    ∃ text, jsonDumps value = some text
  | .str _, _ => ⟨_, rfl⟩
  | .bool _, _ => ⟨_, rfl⟩
  | .int _, h => ⟨_, intText?_of_isPrinted h⟩
  | .list _, h => by
    obtain ⟨parts, hparts⟩ := exists_jsonItems h
    exact ⟨_, Option.map_eq_some_iff.mpr ⟨parts, hparts, rfl⟩⟩
  | .dict _, h => by
    obtain ⟨parts, hparts⟩ := exists_jsonEntries h
    exact ⟨_, Option.map_eq_some_iff.mpr ⟨parts, hparts, rfl⟩⟩

theorem exists_jsonItems : ∀ {items : List Value}, Value.ForallItems AnyText IsPrinted items →
    ∃ parts, jsonItems items = some parts
  | [], _ => ⟨_, rfl⟩
  | item :: items, h => by
    obtain ⟨part, hpart⟩ := exists_jsonDumps h.1
    obtain ⟨parts, hparts⟩ := exists_jsonItems h.2
    exact ⟨part :: parts, by rw [jsonItems, hpart, hparts]; rfl⟩

theorem exists_jsonEntries : ∀ {entries : Dict}, Value.ForallEntries AnyText IsPrinted entries →
    ∃ parts, jsonEntries entries = some parts
  | [], _ => ⟨_, rfl⟩
  | (key, value) :: entries, h => by
    obtain ⟨part, hpart⟩ := exists_jsonDumps h.2.1
    obtain ⟨parts, hparts⟩ := exists_jsonEntries h.2.2
    exact ⟨_ :: parts, by rw [jsonEntries, hpart, hparts]; rfl⟩

end
/-! ### What HCL reads of a value -/

variable {letters : Letters}

/-- What may follow a value. -/
def Follows (rest : List Char) : Prop := ∀ c ∈ rest.head?, c ∈ [',', ']', '}', '\n']

theorem Follows.ends {rest : List Char} (h : Follows rest) {p : Char → Bool}
    (hp : [',', ']', '}', '\n'].all (fun c => !p c) = true) : Ends p rest := by
  intro c hc
  have hnot := List.all_eq_true.mp hp c (h c hc)
  rwa [Bool.not_eq_true'] at hnot

theorem Follows.digits {rest : List Char} (h : Follows rest) : Ends Char.isDigit rest :=
  h.ends rfl

theorem Follows.parts {rest : List Char} (h : Follows rest) : Ends letters.isPart rest :=
  h.ends (by simp [Letters.isPart])

/-- The text of a value starts with a character that is neither skipped nor a closing bracket. -/
def Opens (text : List Char) : Prop :=
  ∃ c rest, text = c :: rest ∧ isTrivia c = false ∧ c ≠ ']'

theorem exists_digits (n : ℕ) :
    ∃ c rest, Text.digits n = c :: rest ∧ c.isDigit = true := by
  cases h : Text.digits n with
  | nil => exact absurd h Nat.toDigits_ne_nil
  | cons c rest =>
    have hmem : c ∈ Text.digits n := h ▸ List.mem_cons_self
    exact ⟨c, rest, rfl, Text.isDigit_of_mem_digits hmem⟩

theorem not_mem_of_isDigit {c : Char} (h : c.isDigit = true) {chars : List Char}
    (hchars : chars.all (fun c => !c.isDigit) = true) : c ∉ chars := by
  intro hmem
  have hnot := List.all_eq_true.mp hchars c hmem
  rw [h] at hnot
  exact Bool.false_ne_true hnot

theorem isTrivia_of_isDigit {c : Char} (h : c.isDigit = true) : isTrivia c = false :=
  decide_eq_false (not_mem_of_isDigit h rfl)

theorem opens_boolText (b : Bool) : Opens (boolText b) := by
  cases b <;> exact ⟨_, _, rfl, rfl, by decide⟩

theorem opens_intText {n : ℤ} {text : List Char} (h : intText? n = some text) : Opens text := by
  rw [intText?_of_isPrinted (isPrinted_of_intText? h)] at h
  obtain rfl := Option.some.inj h
  split
  · exact ⟨_, _, rfl, rfl, by decide⟩
  · obtain ⟨c, rest, hdigits, hc⟩ := exists_digits n.natAbs
    refine ⟨c, rest, hdigits, isTrivia_of_isDigit hc, ?_⟩
    rintro rfl
    exact absurd hc (by decide)

theorem opens_jsonDumps {value : Value} {text : List Char} (h : jsonDumps value = some text)
    (hliteral : value.Forall AnyText AnyInteger) : Opens text := by
  cases value with
  | str chars =>
    obtain rfl := Option.some.inj h
    exact ⟨_, _, rfl, rfl, by decide⟩
  | bool b =>
    obtain rfl := Option.some.inj h
    exact opens_boolText b
  | int n => exact opens_intText h
  | list items =>
    obtain ⟨parts, -, rfl⟩ := Option.map_eq_some_iff.mp h
    exact ⟨_, _, rfl, rfl, by decide⟩
  | dict entries =>
    obtain ⟨parts, -, rfl⟩ := Option.map_eq_some_iff.mp h
    exact ⟨_, _, rfl, rfl, by decide⟩
  | float _ => exact hliteral.elim
  | other _ => exact hliteral.elim

/-- An integer is read back. -/
theorem value?_intText {n : ℤ} {text rest : List Char} {fuel : ℕ} (h : intText? n = some text)
    (hrest : Follows rest) :
    value? letters (fuel + 1) (text ++ rest) = some (.int n, rest) := by
  rw [intText?_of_isPrinted (isPrinted_of_intText? h)] at h
  obtain rfl := Option.some.inj h
  obtain ⟨c, more, hdigits, hc⟩ := exists_digits n.natAbs
  have hnumber := number?_digits n.natAbs hrest.digits
  split
  case isTrue hneg =>
    have hblanks : blanks (Text.digits n.natAbs ++ rest) = Text.digits n.natAbs ++ rest := by
      rw [hdigits, List.cons_append, blanks, skip_cons (isTrivia_of_isDigit hc)]
    rw [List.cons_append, value?, hblanks, hnumber]
    simp only [Option.map_some, Option.some.injEq, Prod.mk.injEq, Value.int.injEq, and_true]
    omega
  case isFalse hneg =>
    rw [hdigits, List.cons_append, value?_scalar (not_mem_of_isDigit hc rfl),
      ← List.cons_append, ← hdigits, scalar?, hnumber]
    simp only [Option.some.injEq, Prod.mk.injEq, Value.int.injEq, and_true]
    omega

theorem number?_eq_none {c : Char} (hc : c.isDigit = false) (text : List Char) :
    number? (c :: text) = none := by
  rw [number?, List.takeWhile_cons_of_neg (by simp [hc])]
  rfl

/-- A boolean is read back. -/
theorem value?_boolText {b : Bool} {rest : List Char} {fuel : ℕ} (hrest : Follows rest) :
    value? letters (fuel + 1) (boolText b ++ rest) = some (.bool b, rest) := by
  have hends : Ends letters.isPart rest := hrest.parts
  cases b with
  | false =>
    have hname : letters.IsIdentifier "false".toList :=
      ⟨'f', ['a', 'l', 's', 'e'], rfl, rfl, by simp [Letters.isPart]⟩
    have hread := identifier?_append hname hends
    change value? letters (fuel + 1) ('f' :: (['a', 'l', 's', 'e'] ++ rest)) = _
    rw [value?_scalar (by decide), scalar?, number?_eq_none rfl]
    change (letters.identifier? ("false".toList ++ rest)).bind _ = _
    rw [hread]
    rfl
  | true =>
    have hname : letters.IsIdentifier "true".toList :=
      ⟨'t', ['r', 'u', 'e'], rfl, rfl, by simp [Letters.isPart]⟩
    have hread := identifier?_append hname hends
    change value? letters (fuel + 1) ('t' :: (['r', 'u', 'e'] ++ rest)) = _
    rw [value?_scalar (by decide), scalar?, number?_eq_none rfl]
    change (letters.identifier? ("true".toList ++ rest)).bind _ = _
    rw [hread]
    rfl

theorem follows_cons {c : Char} (h : c ∈ [',', ']', '}', '\n']) (rest : List Char) :
    Follows (c :: rest) := fun d hd => by
  obtain rfl := Option.some.inj hd
  exact h

theorem Opens.blanks {text rest : List Char} (h : Opens text) :
    blanks (text ++ rest) = text ++ rest := by
  obtain ⟨c, text, rfl, hc, -⟩ := h
  exact skip_cons hc _ _

theorem commaJoin_cons {part next : List Char} {parts : List (List Char)} :
    commaJoin (part :: next :: parts) = part ++ ',' :: ' ' :: commaJoin (next :: parts) := by
  simp [commaJoin, List.intercalate_cons_cons]

theorem items?_blank {fuel : ℕ} {text : List Char} :
    items? letters fuel (' ' :: text) = items? letters fuel text := by
  cases fuel with
  | zero => simp only [items?]
  | succ fuel =>
    have hgap : gap (' ' :: text) = gap text := by simp [gap, skip]
    rw [items?, items?, hgap]

theorem entries?_blank {fuel : ℕ} {text : List Char} :
    entries? letters fuel (' ' :: text) = entries? letters fuel text := by
  cases fuel with
  | zero => simp only [entries?]
  | succ fuel =>
    have hgap : gap (' ' :: text) = gap text := by simp [gap, skip]
    rw [entries?, entries?, hgap]

theorem exists_jsonItems_cons {item : Value} {items : List Value} {parts : List (List Char)}
    (h : jsonItems (item :: items) = some parts) : ∃ part parts', parts = part :: parts' := by
  obtain ⟨part, -, h⟩ := Option.bind_eq_some_iff.mp h
  obtain ⟨parts', -, h⟩ := Option.bind_eq_some_iff.mp h
  exact ⟨part, parts', (Option.some.inj h).symm⟩

theorem exists_jsonEntries_cons {entry : List Char × Value} {entries : Dict}
    {parts : List (List Char)} (h : jsonEntries (entry :: entries) = some parts) :
    ∃ part parts', parts = part :: parts' := by
  obtain ⟨part, -, h⟩ := Option.bind_eq_some_iff.mp h
  obtain ⟨parts', -, h⟩ := Option.bind_eq_some_iff.mp h
  exact ⟨_, parts', (Option.some.inj h).symm⟩

mutual

/-- What HCL reads of a value that JSON has written. -/
theorem value?_dumps_iff : ∀ {value : Value} {text rest rest' : List Char} {fuel : ℕ},
    jsonDumps value = some text → value.Forall AnyText AnyInteger → Follows rest →
      text.length < fuel →
        (value? letters fuel (text ++ rest) = some (value, rest') ↔
          value.Forall IsPortable AnyInteger ∧ rest' = rest)
  | .str chars, _, rest, _, fuel + 1, h, _, _, _ => by
    obtain rfl := Option.some.inj h
    rw [quote, List.cons_append, List.append_assoc, value?_quote]
    exact quoted?_escape_iff
  | .bool b, _, rest, _, fuel + 1, h, _, hrest, _ => by
    obtain rfl := Option.some.inj h
    rw [value?_boolText hrest]
    simp [Value.Forall, eq_comm]
  | .int n, _, rest, _, fuel + 1, h, _, hrest, _ => by
    rw [value?_intText h hrest]
    simp [Value.Forall, eq_comm]
  | .list items, _, rest, _, fuel + 1, h, hliteral, hrest, hfuel => by
    obtain ⟨parts, hparts, rfl⟩ := Option.map_eq_some_iff.mp h
    rw [List.cons_append, List.append_assoc, value?_list]
    exact items?_dumps_iff hparts hliteral (by simpa using hfuel)
  | .dict entries, _, rest, _, fuel + 1, h, hliteral, hrest, hfuel => by
    obtain ⟨parts, hparts, rfl⟩ := Option.map_eq_some_iff.mp h
    rw [List.cons_append, List.append_assoc, value?_dict]
    exact entries?_dumps_iff hparts hliteral (by simpa using hfuel)

theorem items?_dumps_iff : ∀ {items : List Value} {parts : List (List Char)}
    {rest rest' : List Char} {fuel : ℕ}, jsonItems items = some parts →
      Value.ForallItems AnyText AnyInteger items → (commaJoin parts).length + 1 < fuel →
        (items? letters fuel (commaJoin parts ++ ']' :: rest) = some (items, rest') ↔
          Value.ForallItems IsPortable AnyInteger items ∧ rest' = rest)
  | [], _, rest, _, fuel + 1, h, _, _ => by
    obtain rfl := Option.some.inj h
    rw [show commaJoin [] ++ ']' :: rest = ']' :: rest from rfl, items?, gap, skip_cons rfl]
    simp [Value.ForallItems, eq_comm]
  | item :: items, _, rest, _, fuel + 1, h, hliteral, hfuel => by
    obtain ⟨part, hpart, h⟩ := Option.bind_eq_some_iff.mp h
    obtain ⟨parts, hparts, h⟩ := Option.bind_eq_some_iff.mp h
    obtain rfl := Option.some.inj h
    obtain ⟨c, text, hc⟩ := opens_jsonDumps hpart hliteral.1
    have hstep (tail rest' : List Char) := @items?_cons_iff (text ++ tail) rest' letters fuel c
      hc.2.1 hc.2.2 item items
    simp only [← List.cons_append, ← hc.1] at hstep
    rw [Value.ForallItems]
    cases items with
    | nil =>
      obtain rfl := Option.some.inj hparts
      have hclose : gap (']' :: rest) = ']' :: rest := skip_cons rfl _ _
      have hread (after : List Char) := @value?_dumps_iff item part (']' :: rest) after fuel hpart
        hliteral.1 (follows_cons (by decide) rest) (by simpa [commaJoin] using hfuel)
      rw [show commaJoin [part] = part by simp [commaJoin], hstep]
      simp only [hread, Value.ForallItems, and_true]
      constructor
      · rintro ⟨after, ⟨hitem, rfl⟩, hend | ⟨next, hnext, -⟩⟩
        · rw [hclose] at hend
          exact ⟨hitem, (List.cons.inj hend).2.symm⟩
        · rw [hclose] at hnext
          exact absurd (List.cons.inj hnext).1 (by decide)
      · rintro ⟨hitem, rfl⟩
        exact ⟨_, ⟨hitem, rfl⟩, Or.inl hclose⟩
    | cons item' items =>
      obtain ⟨part', parts', rfl⟩ := exists_jsonItems_cons hparts
      have hcomma (tail : List Char) : gap (',' :: tail) = ',' :: tail := skip_cons rfl _ _
      rw [commaJoin_cons, List.length_append, List.length_cons, List.length_cons] at hfuel
      rw [commaJoin_cons, List.append_assoc, List.cons_append, List.cons_append, hstep]
      have hread (after : List Char) := @value?_dumps_iff item part
        (',' :: ' ' :: (commaJoin (part' :: parts') ++ ']' :: rest)) after fuel hpart
        hliteral.1 (follows_cons (by decide) _) (by omega)
      have hrest (rest' : List Char) := @items?_dumps_iff (item' :: items) (part' :: parts')
        rest rest' fuel hparts hliteral.2 (by omega)
      simp only [hread]
      constructor
      · rintro ⟨after, ⟨hitem, rfl⟩, ⟨hend, -⟩ | ⟨next, hnext, hitems⟩⟩
        · rw [hcomma] at hend
          exact absurd (List.cons.inj hend).1 (by decide)
        · rw [hcomma] at hnext
          obtain rfl := (List.cons.inj hnext).2
          rw [items?_blank, hrest] at hitems
          exact ⟨⟨hitem, hitems.1⟩, hitems.2⟩
      · rintro ⟨⟨hitem, hitems⟩, rfl⟩
        refine ⟨_, ⟨hitem, rfl⟩, Or.inr ⟨_, hcomma _, ?_⟩⟩
        rw [items?_blank, hrest]
        exact ⟨hitems, rfl⟩

theorem entries?_dumps_iff : ∀ {entries : Dict} {parts : List (List Char)}
    {rest rest' : List Char} {fuel : ℕ}, jsonEntries entries = some parts →
      Value.ForallEntries AnyText AnyInteger entries → (commaJoin parts).length + 1 < fuel →
        (entries? letters fuel (commaJoin parts ++ '}' :: rest) = some (entries, rest') ↔
          Value.ForallEntries IsPortable AnyInteger entries ∧ rest' = rest)
  | [], _, rest, _, fuel + 1, h, _, _ => by
    obtain rfl := Option.some.inj h
    rw [show commaJoin [] ++ '}' :: rest = '}' :: rest from rfl, entries?, gap, skip_cons rfl]
    simp [Value.ForallEntries, eq_comm]
  | (key, value) :: entries, _, rest, _, fuel + 1, h, hliteral, hfuel => by
    obtain ⟨part, hpart, h⟩ := Option.bind_eq_some_iff.mp h
    obtain ⟨parts, hparts, h⟩ := Option.bind_eq_some_iff.mp h
    obtain rfl := Option.some.inj h
    have hopens := opens_jsonDumps hpart hliteral.2.1
    -- the key and its value, whatever follows
    have hstep (tail rest' : List Char) : entries? letters (fuel + 1)
        (quote (escape key) ++ ':' :: ' ' :: part ++ tail) = some ((key, value) :: entries, rest') ↔
        IsPortable key ∧ ∃ next, value? letters fuel (part ++ tail) = some (value, next) ∧
          (blanks next = '}' :: rest' ∧ entries = [] ∨ ∃ more,
            (blanks next = ',' :: more ∨ blanks next = '\n' :: more) ∧
              entries? letters fuel more = some (entries, rest')) := by
      have htext : quote (escape key) ++ ':' :: ' ' :: part ++ tail =
          '"' :: (escape key ++ '"' :: ':' :: ' ' :: (part ++ tail)) := by simp [quote]
      have hcolon : blanks (':' :: ' ' :: (part ++ tail)) = ':' :: ' ' :: (part ++ tail) :=
        skip_cons rfl _ _
      have hblank : blanks (' ' :: (part ++ tail)) = part ++ tail := by
        rw [blanks, skip]
        exact hopens.blanks
      rw [htext, entries?_cons_iff]
      simp only [quoted?_escape_iff, and_assoc, exists_and_left, exists_eq_left]
      simp only [hcolon, separator?, Option.some.injEq, exists_eq_left', hblank]
    rw [Value.ForallEntries]
    cases entries with
    | nil =>
      obtain rfl := Option.some.inj hparts
      have hclose : blanks ('}' :: rest) = '}' :: rest := skip_cons rfl _ _
      have hlength : part.length < fuel := by
        simp only [commaJoin, List.intercalate_singleton, List.length_append,
          List.length_cons] at hfuel
        omega
      have hread (next : List Char) := @value?_dumps_iff value part ('}' :: rest) next fuel hpart
        hliteral.2.1 (follows_cons (by decide) rest) hlength
      rw [show commaJoin [quote (escape key) ++ ':' :: ' ' :: part] =
        quote (escape key) ++ ':' :: ' ' :: part by simp [commaJoin], hstep]
      simp only [hread, Value.ForallEntries, and_true]
      constructor
      · rintro ⟨hkey, next, ⟨hvalue, rfl⟩, hend | ⟨more, hmore | hmore, -⟩⟩
        · rw [hclose] at hend
          exact ⟨⟨hkey, hvalue⟩, (List.cons.inj hend).2.symm⟩
        · rw [hclose] at hmore
          exact absurd (List.cons.inj hmore).1 (by decide)
        · rw [hclose] at hmore
          exact absurd (List.cons.inj hmore).1 (by decide)
      · rintro ⟨⟨hkey, hvalue⟩, rfl⟩
        exact ⟨hkey, _, ⟨hvalue, rfl⟩, Or.inl hclose⟩
    | cons entry entries =>
      obtain ⟨part', parts', rfl⟩ := exists_jsonEntries_cons hparts
      have hcomma (tail : List Char) : blanks (',' :: tail) = ',' :: tail := skip_cons rfl _ _
      rw [commaJoin_cons, List.length_append, List.length_append, List.length_cons,
        List.length_cons, List.length_cons, List.length_cons] at hfuel
      rw [commaJoin_cons, List.append_assoc, List.cons_append, List.cons_append, hstep]
      have hread (next : List Char) := @value?_dumps_iff value part
        (',' :: ' ' :: (commaJoin (part' :: parts') ++ '}' :: rest)) next fuel hpart
        hliteral.2.1 (follows_cons (by decide) _) (by omega)
      have hrest (rest' : List Char) := @entries?_dumps_iff (entry :: entries) (part' :: parts')
        rest rest' fuel hparts hliteral.2.2 (by omega)
      simp only [hread]
      constructor
      · rintro ⟨hkey, next, ⟨hvalue, rfl⟩, ⟨hend, -⟩ | ⟨more, hmore | hmore, hentries⟩⟩
        · rw [hcomma] at hend
          exact absurd (List.cons.inj hend).1 (by decide)
        · rw [hcomma] at hmore
          obtain rfl := (List.cons.inj hmore).2
          rw [entries?_blank, hrest] at hentries
          exact ⟨⟨hkey, hvalue, hentries.1⟩, hentries.2⟩
        · rw [hcomma] at hmore
          exact absurd (List.cons.inj hmore).1 (by decide)
      · rintro ⟨⟨hkey, hvalue, hentries⟩, rfl⟩
        refine ⟨hkey, _, ⟨hvalue, rfl⟩, Or.inr ⟨_, Or.inl (hcomma _), ?_⟩⟩
        rw [entries?_blank, hrest]
        exact ⟨hentries, rfl⟩

end

/-! ### The file -/

/-- A value that HCL reads as it is from JSON. -/
def Value.IsPortable (value : Value) : Prop :=
  value.Forall Terraform.IsPortable AnyInteger ∧ value.Forall AnyText IsPrinted

/-- A value that HCL reads as it is from the file. -/
def Value.IsSafe : Value → Prop
  | .str text => IsPlain text
  | value => value.IsPortable

theorem follows_of_line {rest : List Char} (h : rest = [] ∨ ∃ tail, rest = '\n' :: tail) :
    Follows rest := by
  rcases h with rfl | ⟨tail, rfl⟩
  · exact fun c hc => nomatch hc
  · exact follows_cons (by decide) tail

/-- What HCL reads of a value in the file. -/
theorem value?_format_iff {value : Value} {text rest rest' : List Char} {fuel : ℕ}
    (h : formatTfValue value = some text) (hliteral : value.Forall AnyText AnyInteger)
    (hrest : rest = [] ∨ ∃ tail, rest = '\n' :: tail) (hfuel : text.length < fuel) :
    value? letters fuel (text ++ rest) = some (value, rest') ↔ value.IsSafe ∧ rest' = rest := by
  have hdumps (hformat : jsonDumps value = some text) :
      value? letters fuel (text ++ rest) = some (value, rest') ↔
        value.IsPortable ∧ rest' = rest := by
    rw [value?_dumps_iff hformat hliteral (follows_of_line hrest) hfuel, Value.IsPortable]
    simp only [forall_isPrinted hformat hliteral, and_true]
  cases value with
  | str chars =>
    obtain rfl := Option.some.inj h
    obtain ⟨fuel, rfl⟩ : ∃ n, fuel = n + 1 := ⟨fuel - 1, by omega⟩
    rw [quote, List.cons_append, List.append_assoc, value?_quote]
    exact quoted?_raw_iff hrest
  | bool b => exact hdumps h
  | int n => exact hdumps h
  | list items => exact hdumps h
  | dict entries => exact hdumps h
  | float _ => exact hliteral.elim
  | other _ => exact hliteral.elim

theorem opens_formatTfValue {value : Value} {text : List Char}
    (h : formatTfValue value = some text) (hliteral : value.Forall AnyText AnyInteger) :
    Opens text := by
  cases value with
  | str chars =>
    obtain rfl := Option.some.inj h
    exact ⟨_, _, rfl, rfl, by decide⟩
  | bool b => exact @opens_jsonDumps (.bool b) text h hliteral
  | int n => exact @opens_jsonDumps (.int n) text h hliteral
  | list items => exact opens_jsonDumps h hliteral
  | dict entries => exact opens_jsonDumps h hliteral
  | float _ => exact hliteral.elim
  | other _ => exact hliteral.elim

/-- A safe value is written. -/
theorem exists_formatTfValue {value : Value} (h : value.IsSafe) :
    ∃ text, formatTfValue value = some text := by
  cases value with
  | str chars => exact ⟨_, rfl⟩
  | bool b => exact ⟨_, rfl⟩
  | int n => exact @exists_jsonDumps (.int n) h.2
  | list items => exact exists_jsonDumps h.2
  | dict entries => exact exists_jsonDumps h.2
  | float text => exact h.1.elim
  | other text => exact h.1.elim

/-- A line of the file is read as an assignment of what its value is read as. -/
theorem body?_line_iff {name : List Char} (hname : letters.IsIdentifier name) {value : Value}
    {text tail : List Char} (hopens : Opens text) {fuel : ℕ} {vars : Dict} :
    body? letters (fuel + 1) (name ++ " = ".toList ++ text ++ tail) =
        some ((name, value) :: vars) ↔
      ∃ next, value? letters fuel (text ++ tail) = some (value, next) ∧
        (blanks next = [] ∧ vars = [] ∨ ∃ more,
          blanks next = '\n' :: more ∧ body? letters fuel more = some vars) := by
  have hgap : gap (name ++ " = ".toList ++ text ++ tail) =
      name ++ ' ' :: '=' :: ' ' :: (text ++ tail) := by
    obtain ⟨c, part, rfl, hstart, -⟩ := hname
    simp only [gap, List.append_assoc, List.cons_append]
    rw [skip_cons (isTrivia_of_isStart hstart)]
    rfl
  have hends : Ends letters.isPart (' ' :: '=' :: ' ' :: (text ++ tail)) := by
    intro c hc
    obtain rfl := Option.some.inj hc
    simp [Letters.isPart]
  have hequals : blanks (' ' :: '=' :: ' ' :: (text ++ tail)) = '=' :: ' ' :: (text ++ tail) := by
    rw [blanks, skip]
    exact skip_cons rfl _ _
  have hblank : blanks (' ' :: (text ++ tail)) = text ++ tail := by
    rw [blanks, skip]
    exact hopens.blanks
  rw [body?_cons_iff, hgap, identifier?_append hname hends]
  simp only [Option.some.injEq, Prod.mk.injEq, true_and, exists_eq_left', hequals,
    List.cons.injEq, hblank]

/-- HCL reads the file back if and only if all names are identifiers and all values are safe. -/
theorem body?_lines_iff {vars : Dict} {lines : List (List Char)} {fuel : ℕ}
    (h : vars.mapM tfvarsLine = some lines)
    (hliteral : ∀ entry ∈ vars, entry.2.Forall AnyText AnyInteger)
    (hfuel : (Text.join '\n' lines).length < fuel) :
    body? letters fuel (Text.join '\n' lines) = some vars ↔
      ∀ entry ∈ vars, letters.IsIdentifier entry.1 ∧ entry.2.IsSafe := by
  induction vars generalizing lines fuel with
  | nil =>
    obtain rfl := Option.some.inj h
    obtain ⟨fuel, rfl⟩ : ∃ n, fuel = n + 1 := ⟨fuel - 1, by omega⟩
    simp [Text.join, body?, gap, skip]
  | cons entry vars ih =>
    obtain ⟨name, value⟩ := entry
    rw [List.mapM_cons] at h
    obtain ⟨line, hline, h⟩ := Option.bind_eq_some_iff.mp h
    obtain ⟨lines, hlines, h⟩ := Option.bind_eq_some_iff.mp h
    obtain rfl := Option.some.inj h
    obtain ⟨text, htext, rfl⟩ := Option.map_eq_some_iff.mp hline
    obtain ⟨fuel, rfl⟩ : ∃ n, fuel = n + 1 := ⟨fuel - 1, by omega⟩
    obtain ⟨hvalue, hliteral⟩ := List.forall_mem_cons.mp hliteral
    rw [List.forall_mem_cons]
    by_cases hname : letters.IsIdentifier name
    swap
    · refine iff_of_false (fun h => ?_) fun h => hname h.1.1
      obtain ⟨after, hread, -⟩ := body?_cons_iff.mp h
      exact hname (isIdentifier_of_identifier? hread)
    have hopens := opens_formatTfValue htext hvalue
    cases lines with
    | nil =>
      obtain rfl : vars = [] := by
        cases vars with
        | nil => rfl
        | cons entry vars =>
          rw [List.mapM_cons] at hlines
          obtain ⟨line, -, hlines⟩ := Option.bind_eq_some_iff.mp hlines
          obtain ⟨lines, -, hlines⟩ := Option.bind_eq_some_iff.mp hlines
          cases hlines
      have hend : blanks [] = [] := by simp [blanks, skip]
      have hjoin : Text.join '\n' [name ++ " = ".toList ++ text] =
          name ++ " = ".toList ++ text ++ [] := by simp [Text.join]
      rw [hjoin] at hfuel ⊢
      rw [body?_line_iff hname hopens]
      have hlength : " = ".toList.length = 3 := rfl
      simp only [List.length_append, hlength] at hfuel
      have hread (next : List Char) := @value?_format_iff letters value text [] next fuel htext
        hvalue (Or.inl rfl) (by omega)
      simp only [hread]
      constructor
      · rintro ⟨next, ⟨hsafe, -⟩, -⟩
        exact ⟨⟨hname, hsafe⟩, by simp⟩
      · rintro ⟨⟨-, hsafe⟩, -⟩
        exact ⟨_, ⟨hsafe, rfl⟩, Or.inl ⟨hend, trivial⟩⟩
    | cons line lines =>
      have hend (tail : List Char) : blanks ('\n' :: tail) = '\n' :: tail := by
        simp [blanks, skip]
      have hjoin : Text.join '\n' ((name ++ " = ".toList ++ text) :: line :: lines) =
          name ++ " = ".toList ++ text ++ '\n' :: Text.join '\n' (line :: lines) := by
        simp [Text.join, List.intercalate_cons_cons]
      rw [hjoin] at hfuel ⊢
      simp only [List.length_append, List.length_cons] at hfuel
      rw [body?_line_iff hname hopens]
      have hread (next : List Char) := @value?_format_iff letters value text
        ('\n' :: Text.join '\n' (line :: lines)) next fuel htext hvalue (Or.inr ⟨_, rfl⟩) (by omega)
      have hrest := @ih (line :: lines) fuel hlines hliteral (by omega)
      simp only [hread]
      constructor
      · rintro ⟨next, ⟨hsafe, rfl⟩, ⟨hnil, -⟩ | ⟨more, hmore, hvars⟩⟩
        · rw [hend] at hnil
          cases hnil
        · rw [hend] at hmore
          obtain rfl := (List.cons.inj hmore).2
          exact ⟨⟨hname, hsafe⟩, hrest.mp hvars⟩
      · rintro ⟨⟨-, hsafe⟩, hvars⟩
        exact ⟨_, ⟨hsafe, rfl⟩, Or.inr ⟨_, hend _, hrest.mpr hvars⟩⟩

/-- A dictionary of variables: texts, integers, booleans, and lists and maps of these. -/
structure Variables where
  entries : Dict
  distinct : (entries.map Prod.fst).Nodup
  literal : ∀ entry ∈ entries, entry.2.Forall AnyText AnyInteger

/-- Reading the file gives exactly the variables that are written to it, with their values. -/
def Faithful (letters : Letters) (vars : Dict) : Prop :=
  ∃ content, tfvarsContent vars = some content ∧
    assignments? letters content = some (written vars)

/-- Safe variables are written. -/
theorem exists_lines {vars : Dict} (h : ∀ entry ∈ vars, entry.2.IsSafe) :
    ∃ lines, vars.mapM tfvarsLine = some lines := by
  refine Option.isSome_iff_exists.mp (Option.isSome_mapM_iff.mpr fun entry hentry => ?_)
  obtain ⟨text, htext⟩ := exists_formatTfValue (h entry hentry)
  rw [tfvarsLine, htext]
  rfl

theorem Variables.literal_written (vars : Variables) :
    ∀ entry ∈ written vars.entries, entry.2.Forall AnyText AnyInteger :=
  fun entry hentry => vars.literal entry (List.mem_filter.mp hentry).1

theorem safe_of_faithful {vars : Variables} (h : Faithful letters vars.entries) :
    ∀ entry ∈ written vars.entries, letters.IsIdentifier entry.1 ∧ entry.2.IsSafe := by
  obtain ⟨content, hcontent, h⟩ := h
  obtain ⟨lines, hlines, rfl⟩ := Option.map_eq_some_iff.mp hcontent
  obtain ⟨entries, hread, h⟩ := Option.bind_eq_some_iff.mp h
  split at h
  case isTrue =>
    obtain rfl := Option.some.inj h
    exact (body?_lines_iff hlines vars.literal_written (Nat.lt_succ_self _)).mp hread
  case isFalse => exact nomatch h

/-- The file is faithful if and only if the names of its variables are identifiers and all its
values are safe. -/
theorem faithful_iff (letters : Letters) (vars : Variables) :
    Faithful letters vars.entries ↔
      ∀ entry ∈ written vars.entries, letters.IsIdentifier entry.1 ∧ entry.2.IsSafe := by
  refine ⟨safe_of_faithful, fun h => ?_⟩
  have hnodup : ((written vars.entries).map Prod.fst).Nodup :=
    vars.distinct.sublist (List.filter_sublist.map Prod.fst)
  obtain ⟨lines, hlines⟩ := exists_lines fun entry hentry => (h entry hentry).2
  refine ⟨_, Option.map_eq_some_iff.mpr ⟨lines, hlines, rfl⟩, ?_⟩
  refine Option.bind_eq_some_iff.mpr ⟨written vars.entries, ?_, if_pos hnodup⟩
  exact (body?_lines_iff hlines vars.literal_written (Nat.lt_succ_self _)).mpr h

/-- A text that ends its quotes early, and brings an assignment with it. -/
theorem not_faithful : ¬ ∀ (letters : Letters) (vars : Variables),
    Faithful letters vars.entries := by
  intro h
  have hfaithful := h ⟨fun _ => false, fun _ => false⟩
    { entries := [("vm_name".toList, .str "web\"\nroot_password = \"x".toList)]
      distinct := by decide
      literal := by simp [Value.Forall, AnyText] }
  obtain ⟨-, hsafe⟩ := safe_of_faithful hfaithful _ List.mem_cons_self
  exact (hsafe.1 '"' (by decide)).1 rfl

example : tfvarsContent [("vm_name".toList, .str "web\"\nroot_password = \"x".toList)] =
    some "vm_name = \"web\"\nroot_password = \"x\"".toList := by
  decide

end ProxmoxIaas.Terraform
