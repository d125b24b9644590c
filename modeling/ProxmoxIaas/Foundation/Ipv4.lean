import ProxmoxIaas.Foundation.Text

/-!
# IPv4 Addresses and Networks

Dotted quads and CIDR ranges, as texts and as values. Reading is strict: a quad has four
decimal octets without leading zeros, and a range has a prefix length.

## Main results

- `Ipv4.parse?_text`, `Ipv4.text_of_parse?`: a printed address is read back, and there is one text
  for an address.
- `Ipv4Net.parse?_text`: a printed range is read back, without its host bits.
- `Ipv4Net.mem_slash24_iff`: the addresses of a range with a prefix of 24 bits.
- `Ipv4.disjointRanges_slash24`: two different ranges of that kind have no common address.
-/

/-- An IPv4 address as its four octets. -/
structure Ipv4 where
  /-- First octet. -/
  a : Fin 256
  /-- Second octet. -/
  b : Fin 256
  /-- Third octet. -/
  c : Fin 256
  /-- Last octet. -/
  d : Fin 256
  deriving DecidableEq, Repr

namespace Ipv4

/-- Octets have literals. -/
instance : NeZero 256 := ⟨by decide⟩

/-- The address as a 32-bit number. -/
def value (x : Ipv4) : ℕ := ((x.a * 256 + x.b) * 256 + x.c) * 256 + x.d

/-- The address of a 32-bit number. -/
def ofValue (n : ℕ) : Ipv4 where
  a := Fin.ofNat 256 (n / 256 ^ 3)
  b := Fin.ofNat 256 (n / 256 ^ 2)
  c := Fin.ofNat 256 (n / 256)
  d := Fin.ofNat 256 n

/-- The number of an address determines it. -/
theorem ofValue_value (x : Ipv4) : ofValue x.value = x := by
  obtain ⟨a, b, c, d⟩ := x
  have ha := a.isLt
  have hb := b.isLt
  have hc := c.isLt
  have hd := d.isLt
  simp only [ofValue, value, mk.injEq, Fin.ext_iff, Fin.val_ofNat]
  omega

/-- The dotted quad. -/
def text (x : Ipv4) : String := s!"{x.a.val}.{x.b.val}.{x.c.val}.{x.d.val}"

/-- Read an octet: at most three decimal digits without a leading zero, below 256. -/
def octet? (digits : List Char) : Option (Fin 256) :=
  if digits ≠ [] ∧ digits.length ≤ 3 ∧ digits.all Char.isDigit ∧
      (digits.head? = some '0' → digits.length = 1) then
    let n := Nat.ofDigitChars 10 digits 0
    if h : n < 256 then some ⟨n, h⟩ else none
  else none

/-- Read a dotted quad. -/
def parse? (text : List Char) : Option Ipv4 :=
  match (Text.split '.' text).map octet? with
  | [some a, some b, some c, some d] => some ⟨a, b, c, d⟩
  | _ => none

/-- A printed octet is read back. -/
theorem octet?_digits : ∀ n : Fin 256, octet? (Text.digits n) = some n := by decide +kernel

/-- The characters of a dotted quad are its octets, joined with dots. -/
theorem toList_text (x : Ipv4) : x.text.toList =
    Text.join '.' [Text.digits x.a, Text.digits x.b, Text.digits x.c, Text.digits x.d] := by
  have hdot : (toString ".").toList = ['.'] := by decide
  simp [text, Text.join, Text.digits, List.intercalate, hdot]

/-- The parts of a dotted quad. -/
theorem split_text (x : Ipv4) : Text.split '.' x.text.toList =
    [Text.digits x.a, Text.digits x.b, Text.digits x.c, Text.digits x.d] := by
  rw [toList_text]
  refine Text.split_join (List.cons_ne_nil _ _) fun part hpart => ?_
  simp only [List.mem_cons, List.not_mem_nil, or_false] at hpart
  rcases hpart with rfl | rfl | rfl | rfl <;> exact Text.not_mem_digits rfl _

/-- A printed address is read back. -/
theorem parse?_text (x : Ipv4) : parse? x.text.toList = some x := by
  rw [parse?, split_text]
  simp only [List.map_cons, List.map_nil, octet?_digits]

/-- Three digits without leading zeros are the digits of their number. -/
theorem digits_of_three : ∀ a b c : Fin 10,
    Text.digits c = [Nat.digitChar c] ∧
      (b ≠ 0 → Text.digits (10 * b + c) = [Nat.digitChar b, Nat.digitChar c]) ∧
      (a ≠ 0 → Text.digits (10 * (10 * a + b) + c) =
        [Nat.digitChar a, Nat.digitChar b, Nat.digitChar c]) := by
  decide +kernel

/-- A decimal digit is the digit of its value. -/
theorem eq_digitChar {c : Char} (h : c.isDigit = true) :
    ∃ n : Fin 10, c = Nat.digitChar n := by
  have hdigit : ∀ n : Fin 10, Nat.digitChar n = Char.ofNat (48 + n) := by decide
  simp only [Char.isDigit, Bool.and_eq_true, decide_eq_true_eq, UInt32.le_iff_toNat_le] at h
  have hlow : 48 ≤ c.toNat := h.1
  have hhigh : c.toNat ≤ 57 := h.2
  refine ⟨⟨c.toNat - 48, by omega⟩, ?_⟩
  rw [hdigit, Nat.add_sub_cancel' hlow, Char.ofNat_toNat]

/-- An octet that is read is printed as it was. -/
theorem digits_of_octet? {digits : List Char} {n : Fin 256} (h : octet? digits = some n) :
    Text.digits n = digits := by
  unfold octet? at h
  split at h
  case isFalse => cases h
  case isTrue hshape =>
    obtain ⟨hne, hlength, hall, hlead⟩ := hshape
    dsimp only at h
    split at h
    case isFalse => cases h
    case isTrue hlt =>
      obtain rfl := Option.some.inj h
      have hvalue : ∀ k : Fin 10, (Nat.digitChar k).toNat - 48 = k := by decide
      rw [List.all_eq_true] at hall
      match digits, hne, hlength with
      | [x], _, _ =>
        obtain ⟨c, rfl⟩ := eq_digitChar (hall x (by simp))
        simpa [Nat.ofDigitChars, hvalue] using (digits_of_three 0 0 c).1
      | [x, y], _, _ =>
        obtain ⟨b, rfl⟩ := eq_digitChar (hall x (by simp))
        obtain ⟨c, rfl⟩ := eq_digitChar (hall y (by simp))
        have hb : b ≠ 0 := by
          rintro rfl
          exact absurd (hlead rfl) (by simp)
        simpa [Nat.ofDigitChars, hvalue] using (digits_of_three 0 b c).2.1 hb
      | [x, y, z], _, _ =>
        obtain ⟨a, rfl⟩ := eq_digitChar (hall x (by simp))
        obtain ⟨b, rfl⟩ := eq_digitChar (hall y (by simp))
        obtain ⟨c, rfl⟩ := eq_digitChar (hall z (by simp))
        have ha : a ≠ 0 := by
          rintro rfl
          exact absurd (hlead rfl) (by simp)
        simpa [Nat.ofDigitChars, hvalue] using (digits_of_three a b c).2.2 ha

/-- An address that is read is printed as it was: there is one text for it. -/
theorem text_of_parse? {text : String} {x : Ipv4} (h : parse? text.toList = some x) :
    x.text = text := by
  unfold parse? at h
  split at h
  case h_2 => cases h
  case h_1 a b c d hparts =>
    obtain rfl := Option.some.inj h
    rw [← String.toList_inj, toList_text]
    have hsplit : [Text.digits a, Text.digits b, Text.digits c, Text.digits d] =
        Text.split '.' text.toList := by
      match hlist : Text.split '.' text.toList with
      | [p, q, r, s] =>
        rw [hlist] at hparts
        simp only [List.map_cons, List.map_nil, List.cons.injEq, and_true] at hparts
        obtain ⟨ha, hb, hc, hd⟩ := hparts
        rw [digits_of_octet? ha, digits_of_octet? hb, digits_of_octet? hc, digits_of_octet? hd]
      | [] | [_] | [_, _] | [_, _, _] | _ :: _ :: _ :: _ :: _ :: _ =>
        rw [hlist] at hparts
        simp at hparts
    rw [hsplit]
    exact List.intercalate_splitOn '.'

/-- A dotted quad has no slash. -/
theorem slash_not_mem_text (x : Ipv4) : '/' ∉ x.text.toList := by
  have hdigits : ∀ n : ℕ, '/' ∉ Text.digits n := Text.not_mem_digits rfl
  simp [toList_text, Text.join, List.intercalate, hdigits]

end Ipv4

/-- An IPv4 network: an address without host bits, and a prefix length. -/
structure Ipv4Net where
  /-- The network address. -/
  network : ℕ
  /-- The number of bits the addresses of the network share. -/
  prefixLen : ℕ
  /-- There are 32 bits. -/
  prefixLen_le : prefixLen ≤ 32
  /-- The network address has no host bits. -/
  dvd_network : 2 ^ (32 - prefixLen) ∣ network
  deriving DecidableEq

namespace Ipv4Net

/-- The number of addresses of a network. -/
def size (net : Ipv4Net) : ℕ := 2 ^ (32 - net.prefixLen)

/-- The last address of a network. -/
def broadcast (net : Ipv4Net) : ℕ := net.network + net.size - 1

/-- The addresses of a network lie between its network address and its broadcast address. -/
instance : Membership Ipv4 Ipv4Net where
  mem net x := net.network ≤ x.value ∧ x.value ≤ net.broadcast

instance (x : Ipv4) (net : Ipv4Net) : Decidable (x ∈ net) :=
  inferInstanceAs (Decidable (_ ∧ _))

/-- The network of an address, for a prefix length: the host bits are cleared. -/
def ofHost (x : Ipv4) (prefixLen : ℕ) (h : prefixLen ≤ 32) : Ipv4Net where
  network := x.value / 2 ^ (32 - prefixLen) * 2 ^ (32 - prefixLen)
  prefixLen := prefixLen
  prefixLen_le := h
  dvd_network := Nat.dvd_mul_left _ _

/-- The CIDR range as a text. -/
def text (net : Ipv4Net) : String := s!"{(Ipv4.ofValue net.network).text}/{net.prefixLen}"

/-- The subnets of a network with a longer prefix, in their order. -/
def subnets (net : Ipv4Net) (prefixLen : ℕ) (h : prefixLen ≤ 32) : List Ipv4Net :=
  (List.range (2 ^ (prefixLen - net.prefixLen))).map fun i =>
    ofHost (.ofValue (net.network + i * 2 ^ (32 - prefixLen))) prefixLen h

/-- Read a CIDR range, ignoring its host bits. -/
def parse? (text : List Char) : Option Ipv4Net :=
  match Text.split '/' text with
  | [address, prefixLen] => do
    let x ← Ipv4.parse? address
    let n ← if prefixLen.length ≤ 2 then Text.nat? prefixLen else none
    if h : n ≤ 32 then some (ofHost x n h) else none
  | _ => none

/-- A printed range is read back, without its host bits. -/
theorem parse?_text (x : Ipv4) {n : ℕ} (h : n ≤ 32) :
    parse? (x.text.toList ++ '/' :: Text.digits n) = some (ofHost x n h) := by
  have hsplit : Text.split '/' (x.text.toList ++ '/' :: Text.digits n) =
      [x.text.toList, Text.digits n] := by
    have hjoin : x.text.toList ++ '/' :: Text.digits n =
        Text.join '/' [x.text.toList, Text.digits n] := by
      simp [Text.join, List.intercalate]
    rw [hjoin]
    refine Text.split_join (List.cons_ne_nil _ _) fun part hpart => ?_
    simp only [List.mem_cons, List.not_mem_nil, or_false] at hpart
    rcases hpart with rfl | rfl
    · exact x.slash_not_mem_text
    · exact Text.not_mem_digits rfl n
  have hlength : (Text.digits n).length ≤ 2 :=
    (Nat.length_toDigits_le_iff (by decide) (by decide)).mpr (by omega)
  unfold parse?
  rw [hsplit]
  simp only [Ipv4.parse?_text, hlength, if_true, Text.nat?_digits, Option.bind_eq_bind,
    Option.bind_some, dif_pos h]

/-- The addresses that share their first three octets with the host are those of its network
with a prefix of 24 bits. -/
theorem mem_slash24_iff {x y : Ipv4} (h : 24 ≤ 32) :
    y ∈ ofHost x 24 h ↔ y.a = x.a ∧ y.b = x.b ∧ y.c = x.c := by
  obtain ⟨a, b, c, d⟩ := x
  obtain ⟨a', b', c', d'⟩ := y
  simp only [Membership.mem, ofHost, broadcast, size, Ipv4.value, Fin.ext_iff]
  have hd := d.isLt
  have hd' := d'.isLt
  have hb := b.isLt
  have hb' := b'.isLt
  have hc := c.isLt
  have hc' := c'.isLt
  have hsize : 2 ^ (32 - 24) = 256 := rfl
  rw [hsize]
  omega

end Ipv4Net

/-- Two texts are CIDR ranges without a common address. -/
def DisjointRanges (cidr cidr' : String) : Prop :=
  ∃ net net', Ipv4Net.parse? cidr.toList = some net ∧ Ipv4Net.parse? cidr'.toList = some net' ∧
    ∀ x : Ipv4, x ∈ net → x ∉ net'

namespace Ipv4

/-- The range of the addresses that share their first three octets with an address. -/
def slash24 (x : Ipv4) : String := { x with d := 0 }.text ++ "/24"

/-- A range of that kind is given by the three octets. -/
theorem slash24_eq_iff {x y : Ipv4} :
    x.slash24 = y.slash24 ↔ x.a = y.a ∧ x.b = y.b ∧ x.c = y.c := by
  constructor
  · intro h
    have htext : { x with d := 0 }.text.toList = { y with d := 0 }.text.toList := by
      have happend := congrArg String.toList h
      rw [slash24, slash24, String.toList_append, String.toList_append] at happend
      exact List.append_cancel_right happend
    have hparse := congrArg parse? htext
    simp only [parse?_text, Option.some.injEq, mk.injEq] at hparse
    exact ⟨hparse.1, hparse.2.1, hparse.2.2.1⟩
  · rintro ⟨ha, hb, hc⟩
    rw [slash24, slash24, ha, hb, hc]

/-- The text of a range of that kind, with its octets. -/
theorem slash24_eq (x : Ipv4) : x.slash24 = s!"{x.a.val}.{x.b.val}.{x.c.val}.0/24" := by
  have htail : (toString ".0/24").toList = (toString ".").toList ++ ['0', '/', '2', '4'] := by
    decide
  apply String.toList_injective
  simp [slash24, text, htail]

/-- The text of a network with a prefix of 24 bits. -/
theorem text_ofHost_24 (x : Ipv4) : (Ipv4Net.ofHost x 24 (by decide)).text = x.slash24 := by
  have hnetwork : x.value / 2 ^ (32 - 24) * 2 ^ (32 - 24) = { x with d := 0 }.value := by
    have hd := x.d.isLt
    simp only [value, Fin.val_zero]
    omega
  have htail : (toString "/").toList ++ Nat.toDigits 10 24 = ['/', '2', '4'] := by decide
  apply String.toList_injective
  simp only [Ipv4Net.text, Ipv4Net.ofHost, hnetwork, ofValue_value, slash24]
  simp [htail]
  rfl

/-- Reading the range of an address. -/
theorem parse?_slash24 (x : Ipv4) :
    Ipv4Net.parse? x.slash24.toList = some (.ofHost { x with d := 0 } 24 (by decide)) := by
  have htext : x.slash24.toList = { x with d := 0 }.text.toList ++ '/' :: Text.digits 24 := by
    rw [slash24, String.toList_append]
    congr 1
  rw [htext, Ipv4Net.parse?_text]

/-- Two different ranges with a prefix of 24 bits have no common address. -/
theorem disjointRanges_slash24 {x y : Ipv4} (h : x.slash24 ≠ y.slash24) :
    DisjointRanges x.slash24 y.slash24 := by
  refine ⟨_, _, parse?_slash24 x, parse?_slash24 y, fun z hx hy => h ?_⟩
  obtain ⟨hxa, hxb, hxc⟩ := (Ipv4Net.mem_slash24_iff _).mp hx
  obtain ⟨hya, hyb, hyc⟩ := (Ipv4Net.mem_slash24_iff _).mp hy
  exact slash24_eq_iff.mpr ⟨hxa.symm.trans hya, hxb.symm.trans hyb, hxc.symm.trans hyc⟩

/-- A range with a prefix of 24 bits overlaps with itself. -/
theorem not_disjointRanges_slash24_self (x : Ipv4) : ¬ DisjointRanges x.slash24 x.slash24 := by
  rintro ⟨net, net', hnet, hnet', hdisjoint⟩
  obtain rfl := Option.some.inj ((parse?_slash24 x).symm.trans hnet)
  obtain rfl := Option.some.inj ((parse?_slash24 x).symm.trans hnet')
  have hmem : x ∈ Ipv4Net.ofHost { x with d := 0 } 24 (by decide) :=
    (Ipv4Net.mem_slash24_iff _).mpr ⟨rfl, rfl, rfl⟩
  exact hdisjoint x hmem hmem

end Ipv4
