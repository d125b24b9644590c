import ProxmoxIaas.Foundation.Regex
import ProxmoxIaas.OpnsenseVm.Scripts
import ProxmoxIaas.VirtualMachines.Schema

/-!
# Names in Requests

The schemas bound the length of a name, and a validator compares it with a pattern. The messages of
the validators say what a name may be. The patterns of snapshots, tunnels and peers allow other
lengths than these messages, and the end of a pattern may be right before a line feed.

## Main results

- `mem_shellSafe_iff`, `mem_tunnelPattern_iff`: the words of the patterns.
- `Schema.name?_isSome_iff`: which texts a schema accepts.
- `acceptsExactly_iff`: for which texts that is what its messages say.
-/

namespace ProxmoxIaas.Names

open OpnsenseVm (isNameChar matchesName)
open VmSchema (lowerChar shellSafePattern)

/-- A small letter or a digit. -/
def isAlnum (c : Char) : Bool := c.isLower || c.isDigit

/-- `SHELL_SAFE_PATTERN`. -/
def shellSafe : Regex Char :=
  .seq (.oneOf Char.isLower) (.repeated (.oneOf VmSchema.isNameChar) 2 49)

/-- The pattern of the names of tunnels and peers. -/
def tunnelPattern : Regex Char :=
  .seq (.oneOf isAlnum) (.seq (.repeated (.oneOf isNameChar) 1 98) (.oneOf isAlnum))

/-- `VMSnapshotBase.validate_name`. -/
def validateSnapshotName (v : String) : Except String String := do
  Except.require "Snapshot name cannot be empty" (v ≠ "")
  let normalized := v.toList.map lowerChar
  Except.require ("Snapshot name must start with lowercase letter, contain only lowercase " ++
    "letters, numbers, hyphens, and underscores (3-100 characters)")
    (shellSafe.accepts '\n' normalized = true)
  return .ofList normalized

/-- The validator of the names of tunnels and peers. -/
def nameFormat (v : String) : Except String String := do
  Except.require "name must be lowercase letters, digits, and hyphens (2-100 chars)"
    (tunnelPattern.accepts '\n' v.toList = true)
  return v

/-- `WireGuardTunnelCreate._name_format`. -/
def tunnelNameFormat : String → Except String String := nameFormat

/-- `WireGuardPeerCreate._name_format`. -/
def peerNameFormat : String → Except String String := nameFormat

/-- The schemas with a name. -/
inductive Schema where
  /-- `VMBase`. -/
  | vm
  /-- `VMSnapshotBase`. -/
  | snapshot
  /-- `WireGuardTunnelCreate`. -/
  | tunnel
  /-- `WireGuardPeerCreate`. -/
  | peer
  deriving DecidableEq, Repr

namespace Schema

/-- `min_length` of the field. -/
def minLength : Schema → ℕ
  | .vm | .snapshot => 3
  | .tunnel | .peer => 2

/-- `max_length` of the field. -/
def maxLength : Schema → ℕ
  | .vm => 50
  | .snapshot | .tunnel | .peer => 100

/-- The validator of the field. -/
def validator : Schema → String → Except String String
  | .vm => VmSchema.validateName
  | .snapshot => validateSnapshotName
  | .tunnel => tunnelNameFormat
  | .peer => peerNameFormat

/-- The name that a schema makes of a text. The validator runs if the length is within the bounds. -/
def name? (schema : Schema) (v : String) : Option String := do
  Option.require (schema.minLength ≤ v.length ∧ v.length ≤ schema.maxLength)
  (schema.validator v).toOption

/-- The text that the messages are about: the names of VMs and snapshots are lower-cased. -/
def normalize : Schema → String → List Char
  | .vm, v | .snapshot, v => v.toList.map lowerChar
  | .tunnel, v | .peer, v => v.toList

end Schema

/-- A text with a length between two bounds, with a first character and with characters of two
classes. -/
structure Follows (min max : ℕ) (first allowed : Char → Bool) (text : List Char) : Prop where
  /-- The length. -/
  length : min ≤ text.length ∧ text.length ≤ max
  /-- The first character. -/
  head : ∀ c ∈ text.head?, first c = true
  /-- All characters. -/
  all : ∀ c ∈ text, allowed c = true

/-- There is no such character at the ends of a text. -/
def NotAtEnds (c : Char) (text : List Char) : Prop :=
  text.head? ≠ some c ∧ text.getLast? ≠ some c

/-- What the other messages about the name of a VM say. -/
structure IsTidy (text : List Char) : Prop where
  /-- There are no hyphens at the ends. -/
  hyphen : NotAtEnds '-' text
  /-- There are no underscores at the ends. -/
  underscore : NotAtEnds '_' text
  /-- No two hyphens or underscores are in a row. -/
  single : ¬ ['-', '-'] <:+: text ∧ ¬ ['_', '_'] <:+: text
  /-- All characters are safe in a shell. -/
  safe : ∀ c ∈ text, VmSchema.isUnquotedChar c = true

/-- What the messages of a schema say about a text. -/
def Schema.Documented : Schema → List Char → Prop
  | .vm, text => Follows 3 50 Char.isLower VmSchema.isNameChar text ∧ IsTidy text
  | .snapshot, text => Follows 3 100 Char.isLower VmSchema.isNameChar text
  | .tunnel, text | .peer, text => Follows 2 100 isNameChar isNameChar text

/-- A schema accepts a text if and only if its messages allow it, and no text with a line feed. -/
def AcceptsExactly (schema : Schema) (v : String) : Prop :=
  ((schema.name? v).isSome = true ↔ schema.Documented (schema.normalize v)) ∧
    ('\n' ∈ v.toList → schema.name? v = none)

/-- A text that is on no side of the differences: if it is documented, then it is not too long for a
snapshot, and neither too short nor with hyphens at its ends for a tunnel or a peer; and it is not
such a text and a line feed. -/
def Schema.Clear : Schema → List Char → Prop
  | .vm, _ => True
  | .snapshot, text =>
    (Schema.snapshot.Documented text → text.length ≤ 50) ∧
      ∀ line, text = line ++ ['\n'] → ¬ Follows 3 50 Char.isLower VmSchema.isNameChar line
  | .tunnel, text | .peer, text =>
    (Schema.tunnel.Documented text → 3 ≤ text.length ∧ NotAtEnds '-' text) ∧
      ∀ line, text = line ++ ['\n'] →
        ¬ (Follows 3 99 isNameChar isNameChar line ∧ NotAtEnds '-' line)

section Patterns

variable {text line : List Char} {c : Char}

/-- A small letter or a digit is a character of a tunnel's name that is no hyphen. -/
theorem isAlnum_iff : isAlnum c = true ↔ isNameChar c = true ∧ c ≠ '-' := by
  have hlower : c.isLower = (decide ('a' ≤ c) && decide (c ≤ 'z')) := rfl
  rw [isAlnum, isNameChar, hlower, Bool.or_eq_true, Bool.or_eq_true, Bool.or_eq_true,
    decide_eq_true_eq]
  constructor
  · intro h
    refine ⟨Or.inl h, ?_⟩
    rintro rfl
    exact absurd h (by decide)
  · rintro ⟨h | h, hne⟩
    · exact h
    · exact absurd h hne

/-- A small letter is a character of a VM's name. -/
theorem isNameChar_of_isLower (h : c.isLower = true) : VmSchema.isNameChar c = true := by
  rw [VmSchema.isNameChar, h, Bool.true_or, Bool.true_or, Bool.true_or]

/-- The words of `SHELL_SAFE_PATTERN`. -/
theorem mem_shellSafe_iff :
    text ∈ shellSafe.language ↔ Follows 3 50 Char.isLower VmSchema.isNameChar text := by
  rw [shellSafe, Regex.mem_seq_oneOf_iff]
  constructor
  · rintro ⟨c, rest, hc, hrest, rfl⟩
    obtain ⟨⟨hmin, hmax⟩, hall⟩ := Regex.mem_repeated_oneOf_iff.mp hrest
    refine ⟨?_, ?_, List.forall_mem_cons.mpr ⟨isNameChar_of_isLower hc, hall⟩⟩
    · rw [List.length_cons]
      omega
    · rintro _ ⟨⟩
      exact hc
  · rintro ⟨⟨hmin, hmax⟩, hhead, hall⟩
    cases text with
    | nil => exact absurd hmin (by decide)
    | cons c rest =>
      rw [List.length_cons] at hmin hmax
      exact ⟨c, rest, hhead c rfl, Regex.mem_repeated_oneOf_iff.mpr
        ⟨by omega, (List.forall_mem_cons.mp hall).2⟩, rfl⟩

/-- The words of the pattern for tunnels and peers. -/
theorem mem_tunnelPattern_iff :
    text ∈ tunnelPattern.language ↔
      Follows 3 100 isNameChar isNameChar text ∧ NotAtEnds '-' text := by
  rw [tunnelPattern, Regex.mem_seq_oneOf_iff]
  constructor
  · rintro ⟨c, _, hc, hrest, rfl⟩
    obtain ⟨middle, d, hmiddle, hd, rfl⟩ := Regex.mem_seq_oneOf_right_iff.mp hrest
    obtain ⟨⟨hmin, hmax⟩, hall⟩ := Regex.mem_repeated_oneOf_iff.mp hmiddle
    obtain ⟨hcname, hcne⟩ := isAlnum_iff.mp hc
    obtain ⟨hdname, hdne⟩ := isAlnum_iff.mp hd
    refine ⟨⟨?_, ?_, ?_⟩, ?_, ?_⟩
    · rw [List.length_cons, List.length_append, List.length_singleton]
      omega
    · rintro _ ⟨⟩
      exact hcname
    · exact List.forall_mem_cons.mpr ⟨hcname, List.forall_mem_append.mpr
        ⟨hall, fun e he => List.mem_singleton.mp he ▸ hdname⟩⟩
    · exact fun h => hcne (Option.some.inj h)
    · rw [← List.cons_append, List.getLast?_concat]
      exact fun h => hdne (Option.some.inj h)
  · rintro ⟨⟨⟨hmin, hmax⟩, -, hall⟩, hhead, hlast⟩
    -- three characters leave a first one, a last one and something in between
    cases text with
    | nil => exact absurd hmin (by decide)
    | cons c rest =>
      rcases List.eq_nil_or_concat rest with rfl | ⟨middle, d, rfl⟩
      · exact absurd hmin (by simp)
      · rw [List.concat_eq_append] at *
        rw [← List.cons_append, List.getLast?_concat] at hlast
        rw [List.length_cons, List.length_append, List.length_singleton] at hmin hmax
        obtain ⟨hc, hrest⟩ := List.forall_mem_cons.mp hall
        obtain ⟨hmiddle, hd⟩ := List.forall_mem_append.mp hrest
        refine ⟨c, _, isAlnum_iff.mpr ⟨hc, fun h => hhead (congrArg some h)⟩,
          Regex.mem_seq_oneOf_right_iff.mpr ⟨middle, d, Regex.mem_repeated_oneOf_iff.mpr
            ⟨by omega, hmiddle⟩, isAlnum_iff.mpr ⟨hd d (List.mem_singleton_self d), ?_⟩, rfl⟩, rfl⟩
        exact fun h => hlast (congrArg some h)

/-- The texts with a line feed at the end that a predicate holds of without it. -/
private theorem exists_eq_concat_iff {p : List Char → Prop} :
    (∃ line, p line ∧ text = line ++ ['\n']) ↔ text.getLast? = some '\n' ∧ p text.dropLast := by
  constructor
  · rintro ⟨line, hline, rfl⟩
    rw [List.getLast?_concat, List.dropLast_concat]
    exact ⟨rfl, hline⟩
  · rintro ⟨hlast, hline⟩
    exact ⟨text.dropLast, hline, (List.dropLast_append_getLast? '\n' hlast).symm⟩

/-- The pattern accepts what `SHELL_SAFE_PATTERN` of the schema of VMs accepts. -/
theorem accepts_shellSafe : shellSafe.accepts '\n' text = shellSafePattern text := by
  have hline : ∀ line, line ∈ shellSafe.language ↔ VmSchema.matchesLine line = true := by
    intro line
    rw [mem_shellSafe_iff]
    cases line with
    | nil => exact iff_of_false (fun h => absurd h.length.1 (by decide)) (by decide)
    | cons c rest =>
      simp only [VmSchema.matchesLine, Bool.and_eq_true, decide_eq_true_eq, List.all_eq_true]
      constructor
      · rintro ⟨⟨hmin, hmax⟩, hhead, hall⟩
        rw [List.length_cons] at hmin hmax
        exact ⟨⟨hhead c rfl, by omega⟩, (List.forall_mem_cons.mp hall).2⟩
      · rintro ⟨⟨hc, hmin, hmax⟩, hall⟩
        refine ⟨?_, ?_, List.forall_mem_cons.mpr ⟨isNameChar_of_isLower hc, hall⟩⟩
        · rw [List.length_cons]
          omega
        · rintro _ ⟨⟩
          exact hc
  rw [Bool.eq_iff_iff, Regex.accepts_iff, exists_eq_concat_iff]
  simp only [shellSafePattern, Bool.or_eq_true, Bool.and_eq_true, decide_eq_true_eq, hline]

/-- The words of the pattern for tunnels are the names that `matchesName` finds. -/
theorem mem_tunnelPattern_iff_matchesName :
    text ∈ tunnelPattern.language ↔ matchesName text = true := by
  rw [mem_tunnelPattern_iff]
  simp only [matchesName, Bool.and_eq_true, decide_eq_true_eq, List.all_eq_true]
  constructor
  · rintro ⟨⟨⟨hmin, hmax⟩, -, hall⟩, hhead, hlast⟩
    exact ⟨⟨⟨⟨hmin, hmax⟩, hall⟩, hhead⟩, hlast⟩
  · rintro ⟨⟨⟨⟨hmin, hmax⟩, hall⟩, hhead⟩, hlast⟩
    exact ⟨⟨⟨hmin, hmax⟩, fun c hc => hall c (List.mem_of_head? hc), hall⟩, hhead, hlast⟩

end Patterns

section Acceptance

variable {v : String} {text : List Char}

/-- Only a line feed has a line feed as its small letter. -/
theorem lowerChar_eq_lineFeed_iff {c : Char} : lowerChar c = '\n' ↔ c = '\n' := by
  unfold lowerChar
  split_ifs with hkelvin
  · rw [hkelvin]
    exact iff_of_false (by decide) (by decide)
  · by_cases hupper : c.isUpper = true
    · refine iff_of_false (fun h => ?_) (fun h => absurd hupper (h ▸ by decide))
      have htoNat := (VmSchema.toNat_toLower hupper).1
      rw [h] at htoNat
      change 10 = c.toNat + 32 at htoNat
      omega
    · rw [VmSchema.toLower_of_not_isUpper hupper]

/-- Lower-casing keeps line feeds. -/
theorem lineFeed_mem_normalize_iff {schema : Schema} :
    '\n' ∈ schema.normalize v ↔ '\n' ∈ v.toList := by
  have hlower : '\n' ∈ v.toList.map lowerChar ↔ '\n' ∈ v.toList := by
    rw [List.mem_map]
    constructor
    · rintro ⟨c, hc, hlower⟩
      exact lowerChar_eq_lineFeed_iff.mp hlower ▸ hc
    · exact fun h => ⟨'\n', h, lowerChar_eq_lineFeed_iff.mpr rfl⟩
  cases schema with
  | vm => exact hlower
  | snapshot => exact hlower
  | tunnel => exact Iff.rfl
  | peer => exact Iff.rfl

/-- Lower-casing keeps the length. -/
theorem length_normalize (schema : Schema) : (schema.normalize v).length = v.length := by
  cases schema with
  | vm => exact (List.length_map _).trans String.length_toList
  | snapshot => exact (List.length_map _).trans String.length_toList
  | tunnel => exact String.length_toList
  | peer => exact String.length_toList

/-- A schema accepts a text within the bounds that its validator accepts. -/
theorem Schema.name?_isSome_iff {schema : Schema} :
    (schema.name? v).isSome = true ↔
      (schema.minLength ≤ v.length ∧ v.length ≤ schema.maxLength) ∧
        ∃ name, schema.validator v = .ok name := by
  simp only [Schema.name?, Option.isSome_iff_exists, Option.bind_eq_bind, Option.bind_eq_some_iff,
    Option.require_eq_some_iff, exists_const, exists_and_left, Except.toOption_eq_some_iff]

/-- The validator of snapshots accepts the texts that the pattern accepts. -/
theorem exists_validateSnapshotName_iff :
    (∃ name, validateSnapshotName v = .ok name) ↔
      shellSafe.accepts '\n' (v.toList.map lowerChar) = true := by
  simp only [validateSnapshotName, Except.bind_eq_ok_iff, Except.require_eq_ok_iff,
    Except.pure_eq_ok_iff, exists_const]
  constructor
  · rintro ⟨_, -, h, -⟩
    exact h
  · intro h
    refine ⟨_, ?_, h, rfl⟩
    rintro rfl
    exact absurd h (by decide)

/-- The validator of tunnels and peers accepts the texts that the pattern accepts. -/
theorem exists_nameFormat_iff :
    (∃ name, nameFormat v = .ok name) ↔ tunnelPattern.accepts '\n' v.toList = true := by
  simp only [nameFormat, Except.bind_eq_ok_iff, Except.require_eq_ok_iff, Except.pure_eq_ok_iff,
    exists_const]
  constructor
  · rintro ⟨-, h, -⟩
    exact h
  · exact fun h => ⟨v, h, rfl⟩

/-- The names of new tunnels are those that `acceptsCreate` finds. -/
theorem tunnel_name?_isSome_iff :
    (Schema.tunnel.name? v).isSome = true ↔ OpnsenseVm.acceptsCreate v.toList = true := by
  have hvalidator : (∃ name, Schema.tunnel.validator v = .ok name) ↔
      tunnelPattern.accepts '\n' v.toList = true := exists_nameFormat_iff
  rw [Schema.name?_isSome_iff, hvalidator, Regex.accepts_iff, exists_eq_concat_iff]
  simp only [mem_tunnelPattern_iff_matchesName, OpnsenseVm.acceptsCreate, Bool.and_eq_true,
    Bool.or_eq_true, decide_eq_true_eq, String.length_toList, Schema.minLength, Schema.maxLength]

/-- The validator of VMs accepts what its messages say, and no line feed in particular: the text
goes through a shell as it is. -/
theorem exists_validateName_iff :
    (∃ name, VmSchema.validateName v = .ok name) ↔
      Schema.vm.Documented (v.toList.map lowerChar) := by
  simp only [VmSchema.validateName, Except.bind_eq_ok_iff, Except.require_eq_ok_iff,
    Except.pure_eq_ok_iff, exists_const, ← accepts_shellSafe, Regex.accepts_iff, mem_shellSafe_iff,
    VmSchema.quoteKeeps, Bool.and_eq_true, decide_eq_true_eq, List.all_eq_true]
  constructor
  · rintro ⟨_, -, hpattern, ⟨hhead, hlast, hhead', hlast'⟩, hsingle, ⟨-, hsafe⟩, -⟩
    refine ⟨?_, ⟨hhead, hlast⟩, ⟨hhead', hlast'⟩, hsingle, hsafe⟩
    rcases hpattern with hfollows | ⟨line, -, hline⟩
    · exact hfollows
    · -- a line feed would be quoted
      have hmem : '\n' ∈ v.toList.map lowerChar := hline ▸ List.mem_concat_self
      exact absurd (hsafe '\n' hmem) (by decide)
  · rintro ⟨hfollows, ⟨hhead, hlast⟩, ⟨hhead', hlast'⟩, hsingle, hsafe⟩
    have hne : v.toList.map lowerChar ≠ [] :=
      List.ne_nil_of_length_pos (lt_of_lt_of_le (by decide) hfollows.length.1)
    refine ⟨_, ?_, Or.inl hfollows, ⟨hhead, hlast, hhead', hlast'⟩, hsingle, ⟨hne, hsafe⟩, rfl⟩
    rintro rfl
    exact hne rfl

/-- A pattern whose words are documented accepts the documented texts within the bounds if and only
if they are its words, and the bounds leave no room for a word and a line feed. -/
theorem accepts_exactly_iff {regex : Regex Char} {bounds documented : Prop}
    (hwords : text ∈ regex.language → documented) (hfeed : documented → '\n' ∉ text)
    (hbounds : documented → bounds) :
    ((bounds ∧ regex.accepts '\n' text = true ↔ documented) ∧
        ('\n' ∈ text → ¬ (bounds ∧ regex.accepts '\n' text = true))) ↔
      (documented → text ∈ regex.language) ∧
        ∀ line, text = line ++ ['\n'] → bounds → line ∉ regex.language := by
  rw [Regex.accepts_iff]
  constructor
  · rintro ⟨hiff, hnone⟩
    constructor
    · intro hdocumented
      rcases (hiff.mpr hdocumented).2 with hword | ⟨line, -, rfl⟩
      · exact hword
      · exact absurd List.mem_concat_self (hfeed hdocumented)
    · rintro line rfl hb hline
      exact hnone List.mem_concat_self ⟨hb, Or.inr ⟨line, hline, rfl⟩⟩
  · rintro ⟨hword, hline⟩
    refine ⟨⟨?_, fun h => ⟨hbounds h, Or.inl (hword h)⟩⟩, ?_⟩
    · rintro ⟨hb, htext | ⟨line, hmem, heq⟩⟩
      · exact hwords htext
      · exact absurd hmem (hline line heq hb)
    · rintro hmem ⟨hb, htext | ⟨line, hword', heq⟩⟩
      · exact hfeed (hwords htext) hmem
      · exact hline line heq hb hword'

end Acceptance

section Exactness

variable {min max : ℕ} {first allowed : Char → Bool} {text : List Char} (v : String)

/-- A text has no characters outside of its class. -/
theorem Follows.not_mem {c : Char} (h : Follows min max first allowed text)
    (hc : allowed c = false) : c ∉ text := fun hmem =>
  Bool.false_ne_true (hc.symm.trans (h.all c hmem))

/-- The bounds may be replaced. -/
theorem Follows.of_length {min' max' : ℕ} (h : Follows min max first allowed text)
    (hlength : min' ≤ text.length ∧ text.length ≤ max') : Follows min' max' first allowed text :=
  ⟨hlength, h.head, h.all⟩

/-- A schema accepts exactly what its messages say, if that holds of its bounds and of its pattern. -/
theorem acceptsExactly_iff_accepts {schema : Schema} {accepted : Prop}
    (h : (schema.name? v).isSome = true ↔ accepted) :
    AcceptsExactly schema v ↔ ((accepted ↔ schema.Documented (schema.normalize v)) ∧
      ('\n' ∈ schema.normalize v → ¬ accepted)) := by
  rw [AcceptsExactly, lineFeed_mem_normalize_iff, ← h, Option.not_isSome_iff_eq_none]

/-- The schema of VMs accepts exactly what its messages say. -/
theorem vm_acceptsExactly : AcceptsExactly .vm v := by
  have haccepts : (Schema.vm.name? v).isSome = true ↔
      Schema.vm.Documented (Schema.vm.normalize v) := by
    rw [Schema.name?_isSome_iff, ← length_normalize .vm]
    exact (and_congr_right' exists_validateName_iff).trans
      (and_iff_right_of_imp fun hdocumented => hdocumented.1.length)
  rw [acceptsExactly_iff_accepts v haccepts]
  exact ⟨Iff.rfl, fun hmem hdocumented => hdocumented.1.not_mem (by decide) hmem⟩

/-- The schema of snapshots accepts exactly what its messages say if and only if the name is on no
side of the differences. -/
theorem snapshot_acceptsExactly_iff :
    AcceptsExactly .snapshot v ↔ Schema.snapshot.Clear (Schema.snapshot.normalize v) := by
  have haccepts : (Schema.snapshot.name? v).isSome = true ↔
      (3 ≤ (Schema.snapshot.normalize v).length ∧ (Schema.snapshot.normalize v).length ≤ 100) ∧
        shellSafe.accepts '\n' (Schema.snapshot.normalize v) = true := by
    rw [Schema.name?_isSome_iff, ← length_normalize .snapshot]
    exact and_congr_right' exists_validateSnapshotName_iff
  rw [acceptsExactly_iff_accepts v haccepts, accepts_exactly_iff]
  · generalize Schema.snapshot.normalize v = text
    refine and_congr (imp_congr_right fun hdocumented => ?_) (forall_congr' fun line => ?_)
    · rw [mem_shellSafe_iff]
      exact ⟨fun h => h.length.2, fun h => hdocumented.of_length ⟨hdocumented.length.1, h⟩⟩
    · rw [mem_shellSafe_iff]
      refine imp_congr_right fun hline => ⟨fun h hfollows => h ?_ hfollows, fun h _ => h⟩
      rw [hline, List.length_append, List.length_singleton]
      have hlength := hfollows.length
      omega
  · exact fun h => (mem_shellSafe_iff.mp h).of_length
      ⟨(mem_shellSafe_iff.mp h).length.1, (mem_shellSafe_iff.mp h).length.2.trans (by decide)⟩
  · exact fun hdocumented => hdocumented.not_mem (by decide)
  · exact fun hdocumented => hdocumented.length

/-- The schemas of tunnels and peers accept exactly what their messages say if and only if the name
is on no side of the differences. -/
theorem tunnel_acceptsExactly_iff {schema : Schema} (h : schema = .tunnel ∨ schema = .peer) :
    AcceptsExactly schema v ↔ Schema.tunnel.Clear v.toList := by
  have haccepts : (schema.name? v).isSome = true ↔
      (2 ≤ v.toList.length ∧ v.toList.length ≤ 100) ∧
        tunnelPattern.accepts '\n' v.toList = true := by
    rw [Schema.name?_isSome_iff, String.length_toList]
    rcases h with rfl | rfl <;> exact and_congr_right' exists_nameFormat_iff
  have hexact : AcceptsExactly schema v ↔
      ((2 ≤ v.toList.length ∧ v.toList.length ≤ 100) ∧
          tunnelPattern.accepts '\n' v.toList = true ↔ Schema.tunnel.Documented v.toList) ∧
        ('\n' ∈ v.toList → ¬ ((2 ≤ v.toList.length ∧ v.toList.length ≤ 100) ∧
          tunnelPattern.accepts '\n' v.toList = true)) := by
    rw [acceptsExactly_iff_accepts v haccepts]
    rcases h with rfl | rfl <;> exact Iff.rfl
  rw [hexact, accepts_exactly_iff]
  · generalize v.toList = text
    refine and_congr (imp_congr_right fun hdocumented => ?_) (forall_congr' fun line => ?_)
    · rw [mem_tunnelPattern_iff]
      exact and_congr_left' ⟨fun h => h.length.1,
        fun h => hdocumented.of_length ⟨h, hdocumented.length.2⟩⟩
    · rw [mem_tunnelPattern_iff]
      refine imp_congr_right fun hline => ?_
      rw [hline, List.length_append, List.length_singleton]
      constructor
      · rintro h ⟨hfollows, hends⟩
        have hlength := hfollows.length
        exact h (by omega) ⟨hfollows.of_length (by omega), hends⟩
      · rintro h hbounds ⟨hfollows, hends⟩
        have hlength := hfollows.length
        exact h ⟨hfollows.of_length (by omega), hends⟩
  · exact fun h => (mem_tunnelPattern_iff.mp h).1.of_length
      ⟨le_trans (by decide) (mem_tunnelPattern_iff.mp h).1.length.1,
        (mem_tunnelPattern_iff.mp h).1.length.2⟩
  · exact fun hdocumented => hdocumented.not_mem (by decide)
  · exact fun hdocumented => hdocumented.length

end Exactness

/-- The texts for which a schema accepts exactly what its messages say: those on no side of the
differences between the messages and the pattern. -/
theorem acceptsExactly_iff :
    ∀ (schema : Schema) (v : String),
      AcceptsExactly schema v ↔ schema.Clear (schema.normalize v) := by
  intro schema v
  cases schema with
  | vm => exact iff_of_true (vm_acceptsExactly v) trivial
  | snapshot => exact snapshot_acceptsExactly_iff v
  | tunnel => exact tunnel_acceptsExactly_iff v (Or.inl rfl)
  | peer => exact tunnel_acceptsExactly_iff v (Or.inr rfl)

/-- A tunnel with a name of two letters is rejected, and a snapshot may have a line feed in its
name. -/
theorem not_acceptsExactly :
    ¬ AcceptsExactly .tunnel "ab" ∧ ¬ AcceptsExactly .snapshot "abc\n" := by
  constructor
  · intro h
    have hdocumented : Schema.tunnel.Documented (Schema.tunnel.normalize "ab") :=
      ⟨by decide, fun _ hc => Option.some.inj hc ▸ rfl, List.all_eq_true.mp (by decide)⟩
    exact absurd (h.1.mpr hdocumented) (by decide)
  · intro h
    exact absurd (h.2 (by decide)) (by decide)

end ProxmoxIaas.Names
