import ProxmoxIaas.OpnsenseVm.Config
import Mathlib.Order.Bounds.Basic

/-!
# The Names of New Interfaces

Both functions `_next_opt` count on from the interfaces that exist. The one of the VLAN tasks finds
numbers with a pattern. The one of the WireGuard tasks reads what follows `opt` as an integer, so a
sign may be in front of the digits, white space around them and underscores among them.

## Main results

- `integerAfter_of_numberAfter`: a number that the pattern finds is read as an integer as well.
- `nextOptWireguard_not_mem`: the name of the WireGuard tasks is free, too.
- `nextNumber_eq_nextInteger_iff`: when both functions count to the same number.
- `returnsFreshNames_iff`: when they return the same name.
-/

namespace ProxmoxIaas.OpnsenseVm

/-- The number that the pattern finds in a name. -/
def numberAfter (word name : String) : Option ℕ := (digitsAfter word name).bind Text.decimal?

/-- The integer that the WireGuard tasks read after `opt`. -/
def integerAfter (name : String) : Option ℤ :=
  if Text.startsWith name "opt" then Text.integer? (name.toList.drop 3) else none

/-- Each numeral that the pattern finds can be read, and the number after it can be printed. -/
def CanCount (word : String) (names : List String) : Prop :=
  ∀ name ∈ names, ∀ digits, digitsAfter word name = some digits →
    ∃ n, Text.decimal? digits = some n ∧ n + 1 < 10 ^ Text.maxStrDigits

/-- The largest integer after `opt` is a number that the pattern finds, or zero if it finds none. -/
def SameLargest (names : List String) : Prop :=
  ∀ z, IsGreatest {z | ∃ name ∈ names, integerAfter name = some z} z →
    (∃ name ∈ names, ∃ n, numberAfter "opt" name = some n ∧ z = n) ∨
      (∀ name ∈ names, numberAfter "opt" name = none) ∧ z = 0

/-- Both functions `_next_opt` return the same name, which is not in the list, and `_next_vlanif`
returns a name that is not in its list. -/
def ReturnsFreshNames (names vlanifs : List String) : Prop :=
  (∃ opt, nextOpt names = some opt ∧ nextOptWireguard names = some opt ∧ opt ∉ names) ∧
    ∃ vlanif, nextVlanif vlanifs = some vlanif ∧ vlanif ∉ vlanifs

section Pattern

variable {word name : String} {names : List String} {n : ℕ}

/-- What follows the word are the digits that the pattern finds, perhaps with a line feed. -/
theorem drop_of_digitsAfter {digits : List Char} (h : digitsAfter word name = some digits) :
    Text.startsWith name word = true ∧
      ∃ spaces, (∀ c ∈ spaces, Text.isSpace c = true) ∧
        name.toList.drop word.toList.length = digits ++ spaces := by
  rw [digitsAfter] at h
  split at h
  case isFalse => cases h
  case isTrue hstart =>
    refine ⟨hstart, ?_⟩
    generalize name.toList.drop word.toList.length = rest at h
    simp only at h
    split_ifs at h with hlast hdigits hdigits
    · obtain rfl := Option.some.inj h
      exact ⟨['\n'], List.forall_mem_singleton.mpr rfl,
        (List.dropLast_append_getLast? '\n' hlast).symm⟩
    · obtain rfl := Option.some.inj h
      exact ⟨[], List.forall_mem_nil _, (List.append_nil rest).symm⟩

/-- A number that the pattern finds is read as an integer as well. -/
theorem integerAfter_of_numberAfter (h : numberAfter "opt" name = some n) :
    integerAfter name = some (n : ℤ) := by
  obtain ⟨digits, hdigits, hvalue⟩ := Option.bind_eq_some_iff.mp h
  obtain ⟨hstart, spaces, hspaces, hdrop⟩ := drop_of_digitsAfter hdigits
  rw [integerAfter, if_pos hstart]
  exact hdrop ▸ Text.integer?_append_of_decimal? hvalue hspaces

/-- The numerals that the pattern finds are read one after the other. -/
theorem mapM_digitsAfter_eq_some_iff {numbers : List ℕ} :
    (names.filterMap (digitsAfter word)).mapM Text.decimal? = some numbers ↔
      (∀ name ∈ names, ∀ digits, digitsAfter word name = some digits →
        (Text.decimal? digits).isSome = true) ∧ names.filterMap (numberAfter word) = numbers := by
  have hall : ((names.filterMap (digitsAfter word)).mapM Text.decimal?).isSome = true ↔
      ∀ name ∈ names, ∀ digits, digitsAfter word name = some digits →
        (Text.decimal? digits).isSome = true := by
    rw [Option.isSome_mapM_iff]
    constructor
    · exact fun h name hname digits hdigits => h digits (List.mem_filterMap.mpr ⟨name, hname, hdigits⟩)
    · intro h digits hmem
      obtain ⟨name, hname, hdigits⟩ := List.mem_filterMap.mp hmem
      exact h name hname digits hdigits
  have hvalues : ∀ values, (names.filterMap (digitsAfter word)).mapM Text.decimal? = some values →
      names.filterMap (numberAfter word) = values := by
    intro values hvalues
    calc names.filterMap (numberAfter word)
        = (names.filterMap (digitsAfter word)).filterMap Text.decimal? :=
          List.filterMap_filterMap.symm
      _ = ((names.filterMap (digitsAfter word)).map Text.decimal?).filterMap id := by
          rw [List.filterMap_map, Function.id_comp]
      _ = (values.map some).filterMap id := by rw [Option.mapM_eq_some_iff.mp hvalues]
      _ = values := by rw [List.filterMap_map, Function.id_comp, List.filterMap_some]
  rw [← hall]
  constructor
  · exact fun h => ⟨Option.isSome_of_eq_some h, hvalues numbers h⟩
  · rintro ⟨hsome, rfl⟩
    obtain ⟨values, h⟩ := Option.isSome_iff_exists.mp hsome
    rw [h, hvalues values h]

/-- A number has a name if it has at most as many digits as can be printed. -/
theorem numbered_isSome_iff {width : ℕ} :
    (numbered word width n).isSome = true ↔ n < 10 ^ Text.maxStrDigits := by
  rw [← Text.length_digits_le_iff]
  simp only [numbered]
  split
  case isTrue h => exact iff_of_true rfl h
  case isFalse h => exact iff_of_false (by rintro ⟨⟩) h

/-- The next number can be printed if and only if the one after each number can. -/
theorem nextNumber_lt_iff {numbers : List ℕ} {limit : ℕ} (hlimit : 1 < limit) :
    nextNumber numbers < limit ↔ ∀ n ∈ numbers, n + 1 < limit := by
  rw [nextNumber]
  split
  case h_1 m hmax =>
    obtain ⟨hmem, hle⟩ := List.max?_eq_some_iff.mp hmax
    exact ⟨fun h n hn => lt_of_le_of_lt (Nat.succ_le_succ (hle n hn)) h, fun h => h m hmem⟩
  case h_2 hmax =>
    rw [List.max?_eq_none_iff.mp hmax]
    exact iff_of_true hlimit nofun

/-- A name is returned if and only if the numerals that the pattern finds allow to count on. -/
theorem exists_numbered_iff (width : ℕ) :
    (∃ fresh, (do
        let numbers ← (names.filterMap (digitsAfter word)).mapM Text.decimal?
        numbered word width (nextNumber numbers)) = some fresh) ↔ CanCount word names := by
  have hlimit : 1 < 10 ^ Text.maxStrDigits := Nat.one_lt_pow (by decide) (by decide)
  simp only [Option.bind_eq_bind, Option.bind_eq_some_iff, mapM_digitsAfter_eq_some_iff]
  constructor
  · rintro ⟨fresh, numbers, ⟨hread, rfl⟩, hfresh⟩ name hname digits hdigits
    obtain ⟨n, hn⟩ := Option.isSome_iff_exists.mp (hread name hname digits hdigits)
    have hnumber : numberAfter word name = some n := Option.bind_eq_some_iff.mpr ⟨digits, hdigits, hn⟩
    have hlt := (nextNumber_lt_iff hlimit).mp (numbered_isSome_iff.mp (Option.isSome_of_eq_some hfresh))
    exact ⟨n, hn, hlt n (List.mem_filterMap.mpr ⟨name, hname, hnumber⟩)⟩
  · intro h
    have hread : ∀ name ∈ names, ∀ digits, digitsAfter word name = some digits →
        (Text.decimal? digits).isSome = true := fun name hname digits hdigits => by
      obtain ⟨n, hn, -⟩ := h name hname digits hdigits
      exact Option.isSome_of_eq_some hn
    have hlt : nextNumber (names.filterMap (numberAfter word)) < 10 ^ Text.maxStrDigits := by
      refine (nextNumber_lt_iff hlimit).mpr fun n hn => ?_
      obtain ⟨name, hname, hnumber⟩ := List.mem_filterMap.mp hn
      obtain ⟨digits, hdigits, hvalue⟩ := Option.bind_eq_some_iff.mp hnumber
      obtain ⟨n', hn', hbound⟩ := h name hname digits hdigits
      exact Option.some.inj (hvalue.symm.trans hn') ▸ hbound
    obtain ⟨fresh, hfresh⟩ := Option.isSome_iff_exists.mp (numbered_isSome_iff.mpr hlt)
    exact ⟨fresh, _, ⟨hread, rfl⟩, hfresh⟩

end Pattern

section Integer

variable {names : List String} {opt : String}

/-- Printed integers are different. -/
theorem toString_int_injective {y z : ℤ} (h : "opt" ++ toString y = "opt" ++ toString z) : y = z := by
  have htext : (toString y).toList = (toString z).toList := by
    have hlist := congrArg String.toList h
    rw [String.toList_append, String.toList_append] at hlist
    exact List.append_cancel_left hlist
  exact Option.some.inj (by rw [← Text.int?_toString y, htext, Text.int?_toString z])

/-- The name that is made of an integer after `opt` is read again. -/
theorem integerAfter_toString {z : ℤ} (h : (Text.digits z.natAbs).length ≤ Text.maxStrDigits) :
    integerAfter ("opt" ++ toString z) = some z := by
  have hlist : ("opt" ++ toString z).toList = "opt".toList ++ (toString z).toList :=
    String.toList_append
  have hstart : Text.startsWith ("opt" ++ toString z) "opt" = true := by
    rw [Text.startsWith, hlist, List.isPrefixOf_iff_prefix]
    exact List.prefix_append _ _
  have hdrop : ("opt" ++ toString z).toList.drop 3 = (toString z).toList := by
    have hlength : "opt".toList.length = 3 := rfl
    rw [hlist, ← hlength, List.drop_left]
  rw [integerAfter, if_pos hstart, hdrop, Text.integer?_toString h]

/-- The next integer is larger than all integers. -/
theorem lt_nextInteger {integers : List ℤ} {z : ℤ} (h : z ∈ integers) : z < nextInteger integers := by
  unfold nextInteger
  split
  case h_1 m hmax => exact Int.lt_add_one_of_le ((List.max?_le_iff hmax).mp le_rfl z h)
  case h_2 hmax => simp [List.max?_eq_none_iff.mp hmax] at h

/-- What `_next_opt` of the WireGuard tasks returns. -/
theorem nextOptWireguard_eq_some_iff :
    nextOptWireguard names = some opt ↔
      (Text.digits (nextInteger (names.filterMap integerAfter)).natAbs).length ≤ Text.maxStrDigits ∧
        "opt" ++ toString (nextInteger (names.filterMap integerAfter)) = opt := by
  have hdef : nextOptWireguard names =
      if (Text.digits (nextInteger (names.filterMap integerAfter)).natAbs).length ≤ Text.maxStrDigits
      then some ("opt" ++ toString (nextInteger (names.filterMap integerAfter))) else none := rfl
  rw [hdef, Option.ite_none_right_eq_some, Option.some.injEq]

/-- `_next_opt` of the WireGuard tasks returns a name that is not in use. -/
theorem nextOptWireguard_not_mem (h : nextOptWireguard names = some opt) : opt ∉ names := by
  obtain ⟨hlength, rfl⟩ := nextOptWireguard_eq_some_iff.mp h
  intro hmem
  have hread := List.mem_filterMap.mpr ⟨_, hmem, integerAfter_toString hlength⟩
  exact lt_irrefl _ (lt_nextInteger hread)

/-- What `_next_opt` of the VLAN tasks returns is printed in the same way. -/
theorem nextOpt_eq_toString (h : nextOpt names = some opt) :
    nextNumber (names.filterMap (numberAfter "opt")) < 10 ^ Text.maxStrDigits ∧
      "opt" ++ toString (nextNumber (names.filterMap (numberAfter "opt")) : ℤ) = opt := by
  simp only [nextOpt, Option.bind_eq_bind, Option.bind_eq_some_iff,
    mapM_digitsAfter_eq_some_iff] at h
  obtain ⟨numbers, ⟨-, rfl⟩, hopt⟩ := h
  refine ⟨numbered_isSome_iff.mp (Option.isSome_of_eq_some hopt), ?_⟩
  generalize nextNumber (names.filterMap (numberAfter "opt")) = n at hopt
  simp only [numbered] at hopt
  split at hopt
  case isFalse => cases hopt
  case isTrue =>
    have hzeros : 1 - (Text.digits n).length = 0 := Nat.sub_eq_zero_of_le Nat.length_toDigits_pos
    have hdigits : (toString (n : ℤ)).toList = Text.digits n := by
      show (toString n).toList = Text.digits n
      simp [Text.digits]
    rw [← Option.some.inj hopt, hzeros, List.replicate_zero, List.append_nil, ← hdigits,
      ← String.toList_append, String.ofList_toList]

end Integer

/-- Both functions count to the same number if and only if the largest integers are the same. -/
theorem nextNumber_eq_nextInteger_iff {names : List String} :
    nextInteger (names.filterMap integerAfter) =
        (nextNumber (names.filterMap (numberAfter "opt")) : ℤ) ↔ SameLargest names := by
  have hsub : ∀ n ∈ names.filterMap (numberAfter "opt"),
      (n : ℤ) ∈ names.filterMap integerAfter := fun n hn => by
    obtain ⟨name, hname, hnumber⟩ := List.mem_filterMap.mp hn
    exact List.mem_filterMap.mpr ⟨name, hname, integerAfter_of_numberAfter hnumber⟩
  have hset : ∀ z, IsGreatest {z | ∃ name ∈ names, integerAfter name = some z} z ↔
      (names.filterMap integerAfter).max? = some z := fun z => by
    have hread : {z | ∃ name ∈ names, integerAfter name = some z} =
        {z | z ∈ names.filterMap integerAfter} := Set.ext fun _ => List.mem_filterMap.symm
    rw [hread, List.max?_eq_some_iff]
    exact and_congr_right' ⟨fun h _ hmem => h hmem, fun h _ hmem => h _ hmem⟩
  have hnone : (∀ name ∈ names, numberAfter "opt" name = none) ↔
      names.filterMap (numberAfter "opt") = [] := List.filterMap_eq_nil_iff.symm
  have hmem : ∀ z : ℤ, (∃ name ∈ names, ∃ n, numberAfter "opt" name = some n ∧ z = n) ↔
      ∃ n ∈ names.filterMap (numberAfter "opt"), z = (n : ℤ) := fun z => by
    simp only [List.mem_filterMap]
    tauto
  simp only [SameLargest, hset, hnone, hmem]
  generalize names.filterMap (numberAfter "opt") = numbers at hsub ⊢
  generalize names.filterMap integerAfter = integers at hsub ⊢
  unfold nextInteger nextNumber
  cases hz : integers.max? with
  | none =>
    -- there is nothing to read, and the pattern finds less
    have hnumbers : numbers = [] := List.eq_nil_iff_forall_not_mem.mpr fun n hn => by
      have hmem := hsub n hn
      rw [List.max?_eq_none_iff.mp hz] at hmem
      cases hmem
    rw [hnumbers]
    exact iff_of_true rfl nofun
  | some z =>
    obtain ⟨-, hle⟩ := List.max?_eq_some_iff.mp hz
    cases hn : numbers.max? with
    | none =>
      rw [List.max?_eq_none_iff.mp hn]
      constructor
      · rintro hzero _ ⟨⟩
        exact Or.inr ⟨rfl, by push_cast at hzero; omega⟩
      · intro h
        rcases h z rfl with ⟨n, hmem, -⟩ | ⟨-, rfl⟩
        · cases hmem
        · rfl
    | some n =>
      obtain ⟨hmax, hlargest⟩ := List.max?_eq_some_iff.mp hn
      constructor
      · rintro hequal _ ⟨⟩
        exact Or.inl ⟨n, hmax, by push_cast at hequal; omega⟩
      · intro h
        rcases h z rfl with ⟨m, hmem, rfl⟩ | ⟨hnil, -⟩
        · -- the largest number is among the integers as well
          have hmn : m ≤ n := hlargest m hmem
          have hnm : (n : ℤ) ≤ (m : ℤ) := hle _ (hsub n hmax)
          push_cast
          omega
        · rw [hnil] at hmax
          cases hmax

end ProxmoxIaas.OpnsenseVm
