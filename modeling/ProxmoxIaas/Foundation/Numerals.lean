import ProxmoxIaas.Foundation.Result
import ProxmoxIaas.Foundation.Text
import Mathlib.Data.List.MinMax

/-!
# Numerals in Texts

The decimal numerals that Python reads: a digit may belong to any script, an integer may have a
sign, white space around it and single underscores between its digits, and a numeral of more than
4300 digits is refused.

## Main results

- `Text.decimal?_replicate_append_digits`: a printed natural number is read back, also after zeros.
- `Text.integer?_append_of_decimal?`: a sequence of digits is read as an integer, also before spaces.
- `Text.integer?_toString`: a printed integer is read back.
-/

namespace Text

/-- The code points of the digit zero in each script. -/
def digitZeros : List ℕ :=
  [0x30, 0x660, 0x6f0, 0x7c0, 0x966, 0x9e6, 0xa66, 0xae6, 0xb66, 0xbe6, 0xc66, 0xce6, 0xd66, 0xde6,
    0xe50, 0xed0, 0xf20, 0x1040, 0x1090, 0x17e0, 0x1810, 0x1946, 0x19d0, 0x1a80, 0x1a90, 0x1b50,
    0x1bb0, 0x1c40, 0x1c50, 0xa620, 0xa8d0, 0xa900, 0xa9d0, 0xa9f0, 0xaa50, 0xabf0, 0xff10,
    0x104a0, 0x10d30, 0x11066, 0x110f0, 0x11136, 0x111d0, 0x112f0, 0x11450, 0x114d0, 0x11650,
    0x116c0, 0x11730, 0x118e0, 0x11950, 0x11c50, 0x11d50, 0x11da0, 0x16a60, 0x16ac0, 0x16b50,
    0x1d7ce, 0x1d7d8, 0x1d7e2, 0x1d7ec, 0x1d7f6, 0x1e140, 0x1e2f0, 0x1e950, 0x1fbf0]

/-- The value of a decimal digit of any script. -/
def digit? (c : Char) : Option ℕ :=
  (digitZeros.find? fun base => base ≤ c.toNat ∧ c.toNat < base + 10).map (c.toNat - ·)

/-- The white space that is removed around an integer. -/
def isSpace (c : Char) : Bool :=
  c.toNat ∈ [0x9, 0xa, 0xb, 0xc, 0xd, 0x1c, 0x1d, 0x1e, 0x1f, 0x20, 0x85, 0xa0, 0x1680, 0x2028,
    0x2029, 0x202f, 0x205f, 0x3000] || (0x2000 ≤ c.toNat && c.toNat ≤ 0x200a)

/-- The number that a list of digits stands for. -/
def ofDigitValues (digits : List ℕ) : ℕ := digits.foldl (fun n digit => 10 * n + digit) 0

/-- The largest number of digits that is converted. -/
def maxStrDigits : ℕ := 4300

/-- Read a sequence of decimal digits. -/
def decimal? (text : List Char) : Option ℕ := do
  let digits ← text.mapM digit?
  if digits ≠ [] ∧ digits.length ≤ maxStrDigits then some (ofDigitValues digits) else none

/-- Read the digits of an integer, among which single underscores may stand. -/
def underscored? (text : List Char) : Option ℕ :=
  let groups := split '_' text
  if groups.all (· ≠ []) then decimal? groups.flatten else none

/-- Read an integer as Python does. -/
def integer? (text : List Char) : Option ℤ :=
  match ((text.dropWhile isSpace).reverse.dropWhile isSpace).reverse with
  | '-' :: rest => (underscored? rest).map fun n => -Int.ofNat n
  | '+' :: rest => (underscored? rest).map Int.ofNat
  | rest => (underscored? rest).map Int.ofNat

/-- The value of a digit of the Latin script. -/
theorem digit?_of_isDigit {c : Char} (h : c.isDigit = true) :
    digit? c = some (c.toNat - '0'.toNat) := by
  have hbounds : 48 ≤ c.toNat ∧ c.toNat < 58 := by
    simp only [Char.isDigit, Bool.and_eq_true, decide_eq_true_eq] at h
    exact ⟨h.1, Nat.lt_succ_of_le h.2⟩
  have hbase : digitZeros.find? (fun base => base ≤ c.toNat ∧ c.toNat < base + 10) = some 0x30 :=
    List.find?_cons_of_pos (by simpa using hbounds)
  rw [digit?, hbase]
  rfl

/-- The values of digits of the Latin script. -/
theorem mapM_digit?_of_isDigit {text : List Char} (h : ∀ c ∈ text, c.isDigit = true) :
    text.mapM digit? = some (text.map fun c => c.toNat - '0'.toNat) := by
  induction text with
  | nil => rfl
  | cons c text ih =>
    obtain ⟨hc, htext⟩ := List.forall_mem_cons.mp h
    simp [List.mapM_cons, digit?_of_isDigit hc, ih htext]

/-- The number that a text of digits stands for. -/
theorem ofDigitValues_map (text : List Char) :
    ofDigitValues (text.map fun c => c.toNat - '0'.toNat) = Nat.ofDigitChars 10 text 0 := by
  rw [Nat.ofDigitChars_eq_foldl, ofDigitValues, List.foldl_map]

/-- The digits of a number that is not too long are read as the number, also after zeros. -/
theorem decimal?_replicate_append_digits (zeros : ℕ) {n : ℕ}
    (h : zeros + (digits n).length ≤ maxStrDigits) :
    decimal? (List.replicate zeros '0' ++ digits n) = some n := by
  have hdigits : ∀ c ∈ List.replicate zeros '0' ++ digits n, c.isDigit = true := by
    intro c hc
    rcases List.mem_append.mp hc with hc | hc
    · rw [List.eq_of_mem_replicate hc]
      rfl
    · exact isDigit_of_mem_digits hc
  have hne : List.replicate zeros '0' ++ digits n ≠ [] :=
    List.append_ne_nil_of_right_ne_nil _ Nat.toDigits_ne_nil
  have hvalue : Nat.ofDigitChars 10 (List.replicate zeros '0' ++ digits n) 0 = n := by
    rw [Nat.ofDigitChars_append, Nat.ofDigitChars_replicate_zero, Nat.mul_zero]
    exact Nat.ofDigitChars_ten_toDigits
  rw [decimal?, mapM_digit?_of_isDigit hdigits]
  simp only [Option.bind_eq_bind, Option.bind_some, ne_eq, List.map_eq_nil_iff, hne,
    not_false_eq_true, List.length_map, List.length_append, List.length_replicate, h, and_self,
    if_true, ofDigitValues_map, hvalue]

/-- The numbers that are not too long to be printed. -/
theorem length_digits_le_iff {n : ℕ} : (digits n).length ≤ maxStrDigits ↔ n < 10 ^ maxStrDigits :=
  Nat.length_toDigits_le_iff (by decide) (by decide)

section Integers

variable {text spaces : List Char} {n : ℕ}

/-- A code point of a digit is not in a list of code points between those of the digits. -/
private theorem toNat_not_mem_of_digit? {c : Char} (h : (digit? c).isSome = true) {others : List ℕ}
    (hothers : (digitZeros.all fun base => others.all fun other =>
      Nat.blt other base || Nat.ble (base + 10) other) = true) : c.toNat ∉ others := fun hmem => by
  rw [digit?, Option.isSome_map, List.find?_isSome] at h
  obtain ⟨base, hbase, hrange⟩ := h
  have hbounds : base ≤ c.toNat ∧ c.toNat < base + 10 := of_decide_eq_true hrange
  have hapart := List.all_eq_true.mp (List.all_eq_true.mp hothers base hbase) c.toNat hmem
  rw [Bool.or_eq_true, Nat.blt_eq, Nat.ble_eq] at hapart
  omega

/-- No digit is white space, a sign or an underscore. -/
theorem not_isSpace_of_digit? {c : Char} (h : (digit? c).isSome = true) :
    isSpace c = false ∧ c ∉ ['-', '+', '_'] := by
  constructor
  · rw [isSpace, Bool.or_eq_false_iff, decide_eq_false_iff_not, Bool.and_eq_false_iff,
      decide_eq_false_iff_not, decide_eq_false_iff_not]
    refine ⟨toNat_not_mem_of_digit? h rfl, ?_⟩
    have hnot : c.toNat ∉ List.range' 0x2000 11 := toNat_not_mem_of_digit? h rfl
    rw [List.mem_range'_1] at hnot
    omega
  · intro hmem
    have hnot : c.toNat ∉ ['-', '+', '_'].map Char.toNat := toNat_not_mem_of_digit? h rfl
    exact hnot (List.mem_map_of_mem hmem)

/-- A sequence of digits that is read has digits and nothing else. -/
theorem isSome_digit?_of_decimal? (h : decimal? text = some n) :
    text ≠ [] ∧ ∀ c ∈ text, (digit? c).isSome = true := by
  simp only [decimal?, Option.bind_eq_bind, Option.bind_eq_some_iff] at h
  obtain ⟨values, hvalues, h⟩ := h
  split at h
  case isFalse => cases h
  case isTrue hlength =>
    constructor
    · rintro rfl
      exact hlength.1 (Option.some.inj hvalues).symm
    · exact Option.isSome_mapM_iff.mp (Option.isSome_of_eq_some hvalues)

/-- Nothing but white space behind a text is removed if there is none at its ends. -/
private theorem trim_append (hne : text ≠ []) (hhead : ∀ c ∈ text.head?, isSpace c = false)
    (hlast : ∀ c ∈ text.getLast?, isSpace c = false) (hspaces : ∀ c ∈ spaces, isSpace c = true) :
    (((text ++ spaces).dropWhile isSpace).reverse.dropWhile isSpace).reverse = text := by
  have hstart : (text ++ spaces).dropWhile isSpace = text ++ spaces :=
    dropWhile_eq_self (by rwa [List.head?_append_of_ne_nil _ hne])
  rw [hstart, List.reverse_append, List.dropWhile_append_of_pos, dropWhile_eq_self,
    List.reverse_reverse]
  · rwa [List.head?_reverse]
  · exact fun c hc => hspaces c (List.mem_reverse.mp hc)

/-- A sequence of digits is read as the digits of an integer. -/
theorem underscored?_of_decimal? (h : decimal? text = some n) : underscored? text = some n := by
  obtain ⟨hne, hdigits⟩ := isSome_digit?_of_decimal? h
  have hscore : '_' ∉ text := fun hmem =>
    (not_isSpace_of_digit? (hdigits _ hmem)).2 (by decide)
  have hsplit : split '_' text = [text] := split_of_not_mem hscore
  simp only [underscored?, hsplit]
  rw [if_pos (by simpa using hne), List.flatten_singleton, h]

/-- A sequence of digits is read as an integer, also before white space. -/
theorem integer?_append_of_decimal? (h : decimal? text = some n)
    (hspaces : ∀ c ∈ spaces, isSpace c = true) : integer? (text ++ spaces) = some (n : ℤ) := by
  obtain ⟨hne, hdigits⟩ := isSome_digit?_of_decimal? h
  have hspace : ∀ c ∈ text, isSpace c = false := fun c hc => (not_isSpace_of_digit? (hdigits c hc)).1
  have hsign : ∀ c ∈ text, c ∉ ['-', '+', '_'] := fun c hc =>
    (not_isSpace_of_digit? (hdigits c hc)).2
  rw [integer?, trim_append hne (fun c hc => hspace c (List.mem_of_head? hc))
    (fun c hc => hspace c (List.mem_of_getLast? hc)) hspaces]
  -- no digit is a sign, so the text is read as it stands
  split
  case h_1 rest => exact absurd (by decide) (hsign '-' List.mem_cons_self)
  case h_2 rest => exact absurd (by decide) (hsign '+' List.mem_cons_self)
  case h_3 => rw [underscored?_of_decimal? h, Option.map_some, Int.ofNat_eq_natCast]

/-- A printed integer with digits that can be read is read back. -/
theorem integer?_toString {z : ℤ} (h : (digits z.natAbs).length ≤ maxStrDigits) :
    integer? (toString z).toList = some z := by
  have hread : ∀ n, (digits n).length ≤ maxStrDigits → decimal? (digits n) = some n :=
    fun n hn => decimal?_replicate_append_digits 0 (by omega)
  cases z with
  | ofNat n =>
    have hdigits : (toString (Int.ofNat n)).toList = digits n ++ [] := by
      show (toString (n : ℕ)).toList = digits n ++ []
      simp [digits]
    rw [hdigits, integer?_append_of_decimal? (hread n h) (List.forall_mem_nil _)]
    rfl
  | negSucc n =>
    have hdigits : (toString (Int.negSucc n)).toList = ('-' :: digits (n + 1)) ++ [] := by
      show ("-" ++ toString (n + 1)).toList = ('-' :: digits (n + 1)) ++ []
      simp [digits]
    obtain ⟨hne, hall⟩ := isSome_digit?_of_decimal? (hread (n + 1) h)
    have hlast : ∀ c ∈ ('-' :: digits (n + 1)).getLast?, isSpace c = false := fun c hc => by
      rw [List.getLast?_cons_of_ne_nil hne] at hc
      exact (not_isSpace_of_digit? (hall c (List.mem_of_getLast? hc))).1
    rw [hdigits, integer?, trim_append (List.cons_ne_nil _ _) (fun c hc => Option.some.inj hc ▸ rfl)
      hlast (List.forall_mem_nil _)]
    show (underscored? (digits (n + 1))).map (fun n => -Int.ofNat n) = some (Int.negSucc n)
    rw [underscored?_of_decimal? (hread (n + 1) h)]
    rfl

end Integers

end Text
