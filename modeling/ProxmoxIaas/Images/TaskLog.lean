import ProxmoxIaas.Foundation.Table
import Mathlib.Data.List.Sort
import Mathlib.Data.List.Range

/-!
# The Tail of a Task Log

The log of a download is read through an API that counts from the start only. `get_task_log_tail`
asks for the number of lines, for the first lines and for the last ones, and merges the two parts
by the numbers of their lines.

## Main results

- `getTaskLogTail_serve`: the first and the last lines of the log, in order and each of them once.
-/

namespace ProxmoxIaas

namespace TaskLog

/-- An entry of a log as the API returns it. -/
structure LogEntry where
  /-- The number of the line, if the entry has one. -/
  n : Option ℕ
  /-- The text of the line. -/
  t : String
  deriving DecidableEq, Repr

/-- The answer of the API. -/
structure LogResponse where
  /-- The number of lines, if the answer has one. -/
  total : Option ℤ
  /-- The lines that were asked for. -/
  data : List LogEntry
  deriving DecidableEq, Repr

/-- The API of the hypervisor for a start and a limit. A call may fail. -/
abbrev LogApi := ℤ → ℤ → Option LogResponse

/-- A slice of the log; a call that fails yields nothing. -/
def fetchSlice (api : LogApi) (start limit : ℤ) : List LogEntry :=
  match api start limit with
  | some resp => resp.data
  | none => []

/-- The number of lines that the API reports. -/
def reportedTotal (api : LogApi) : ℤ :=
  match api 0 1 with
  | some resp => resp.total.getD 0
  | none => 0

/-- The entries with a number, under it. A later entry replaces one with the same number. -/
def merge (entries : List LogEntry) : Table ℕ (ℕ × LogEntry) :=
  .index Prod.fst (entries.filterMap fun entry => entry.n.map fun n => (n, entry))

/-- The rows of a table in the order of their keys. -/
def sortedRows (merged : Table ℕ (ℕ × LogEntry)) : List LogEntry :=
  (merged.keys.insertionSort (· ≤ ·)).filterMap fun n => (merged.get? n).map (·.2)

/-- `get_task_log_tail`. -/
def getTaskLogTail (api : LogApi) (tail header : ℤ) : List LogEntry :=
  let total := reportedTotal api
  if total ≤ 0 then []
  else
    let headerLines := if header > 0 then fetchSlice api 0 header else []
    let start := max 0 (total - tail)
    let tailLines := if tail > 0 then fetchSlice api start tail else []
    sortedRows (merge (headerLines ++ tailLines))

/-- The lines of a log with their numbers, from one on. -/
def numbered (log : List String) : List LogEntry :=
  log.zipIdx.map fun line => { n := some (line.2 + 1), t := line.1 }

/-- An API whose calls succeed, over a log that does not change. -/
def serve (log : List String) : LogApi := fun start limit =>
  some
    { total := some log.length
      data := ((numbered log).drop start.toNat).take limit.toNat }

/-- Distinct numbers that are sorted are the keys of a table in their order. -/
theorem insertionSort_keys {merged : Table ℕ (ℕ × LogEntry)} {numbers : List ℕ}
    (hsorted : numbers.Pairwise (· < ·))
    (hmem : ∀ n, n ∈ numbers ↔ (merged.get? n).isSome = true) :
    merged.keys.insertionSort (· ≤ ·) = numbers := by
  have hnodup : numbers.Nodup := hsorted.imp Nat.ne_of_lt
  have hperm : (merged.keys.insertionSort (· ≤ ·)).Perm numbers := by
    refine (List.perm_insertionSort _ _).trans ((List.perm_ext_iff_of_nodup ?_ hnodup).mpr ?_)
    · exact merged.nodupKeys
    · intro n
      rw [hmem, ← AList.mem_keys]
      exact AList.lookup_isSome.symm
  exact hperm.eq_of_pairwise' (List.pairwise_insertionSort _ _) (hsorted.imp Nat.le_of_lt)

/-- Entries that are merged in any order come out in the order of their numbers, each of them
once. -/
theorem sortedRows_merge {entries sorted : List LogEntry} {number : LogEntry → ℕ}
    (hnumber : ∀ entry ∈ sorted, entry.n = some (number entry))
    (hsorted : sorted.Pairwise fun a b => number a < number b)
    (hmem : ∀ entry, entry ∈ entries ↔ entry ∈ sorted) :
    sortedRows (merge entries) = sorted := by
  have hinj := List.inj_on_of_nodup_map
    (List.pairwise_map.mpr (hsorted.imp fun h => Nat.ne_of_lt h) : (sorted.map number).Nodup)
  have hlisted : ∀ row, row ∈ entries.filterMap (fun entry => entry.n.map fun n => (n, entry)) ↔
      row.2 ∈ sorted ∧ row.1 = number row.2 := by
    rintro ⟨m, entry⟩
    simp only [List.mem_filterMap, hmem, Option.map_eq_some_iff, Prod.mk.injEq]
    constructor
    · rintro ⟨entry, hentry, _, hn, rfl, rfl⟩
      rw [hnumber entry hentry] at hn
      exact ⟨hentry, (Option.some.inj hn).symm⟩
    · rintro ⟨hentry, rfl⟩
      exact ⟨entry, hentry, _, hnumber entry hentry, rfl, rfl⟩
  have hrows : ∀ n row, (merge entries).get? n = some row ↔
      (row.2 ∈ sorted ∧ row.1 = number row.2) ∧ row.1 = n := by
    intro n row
    rw [merge, Table.get?_index_eq_some_iff, hlisted]
    intro a ha b hb heq
    obtain ⟨ha, hanumber⟩ := (hlisted a).mp ha
    obtain ⟨hb, hbnumber⟩ := (hlisted b).mp hb
    refine Prod.ext heq (hinj ha hb ?_)
    rw [← hanumber, ← hbnumber, heq]
  have hkeys : (merge entries).keys.insertionSort (· ≤ ·) = sorted.map number := by
    refine insertionSort_keys (List.pairwise_map.mpr hsorted) fun n => ?_
    rw [List.mem_map, Option.isSome_iff_exists]
    constructor
    · rintro ⟨entry, hentry, rfl⟩
      exact ⟨(number entry, entry), (hrows _ _).mpr ⟨⟨hentry, rfl⟩, rfl⟩⟩
    · rintro ⟨⟨m, entry⟩, hrow⟩
      obtain ⟨⟨hentry, hm⟩, hn⟩ := (hrows _ _).mp hrow
      exact ⟨entry, hentry, hm.symm.trans hn⟩
  rw [sortedRows, hkeys, List.filterMap_map]
  refine (List.filterMap_congr fun entry hentry => ?_).trans List.filterMap_some
  rw [Function.comp_apply, (hrows _ (number entry, entry)).mpr ⟨⟨hentry, rfl⟩, rfl⟩, Option.map_some]

/-- The number of an entry that has one. -/
def number (entry : LogEntry) : ℕ := entry.n.getD 0

theorem number_of_mem_numbered {log : List String} {entry : LogEntry}
    (h : entry ∈ numbered log) : entry.n = some (number entry) := by
  obtain ⟨line, -, rfl⟩ := List.mem_map.mp h
  rfl

theorem length_numbered (log : List String) : (numbered log).length = log.length := by
  rw [numbered, List.length_map, List.length_zipIdx]

/-- Lines are numbered in their order. -/
theorem pairwise_numbered (log : List String) :
    (numbered log).Pairwise fun a b => number a < number b := by
  have hindices : (log.zipIdx.map Prod.snd).Pairwise (· < ·) := by
    rw [List.zipIdx_map_snd]
    exact List.pairwise_lt_range'
  rw [numbered, List.pairwise_map]
  exact (List.pairwise_map.mp hindices).imp fun h => Nat.succ_lt_succ h

/-- The first and the last lines of a log, in order and each of them once, also where the two
parts overlap or are longer than the log. -/
theorem getTaskLogTail_serve (log : List String) (tail header : ℤ) :
    getTaskLogTail (serve log) tail header =
      (numbered log).take header.toNat ++
        (numbered log).drop (max header.toNat (log.length - tail.toNat)) := by
  have htotal : reportedTotal (serve log) = log.length := rfl
  unfold getTaskLogTail
  rw [htotal]
  by_cases hempty : (log.length : ℤ) ≤ 0
  · have hnil : log = [] := List.length_eq_zero_iff.mp (by omega)
    subst hnil
    simp [numbered]
  · rw [if_neg hempty]
    have hheader : (if header > 0 then fetchSlice (serve log) 0 header else []) =
        (numbered log).take header.toNat := by
      split
      case isTrue => rfl
      case isFalse h => rw [Int.toNat_of_nonpos (not_lt.mp h), List.take_zero]
    have htail : (if tail > 0 then fetchSlice (serve log) (max 0 (log.length - tail)) tail else []) =
        (numbered log).drop (log.length - tail.toNat) := by
      split
      case isTrue h =>
        have hstart : (max 0 ((log.length : ℤ) - tail)).toNat = log.length - tail.toNat := by omega
        show ((numbered log).drop (max 0 ((log.length : ℤ) - tail)).toNat).take tail.toNat = _
        rw [hstart]
        refine List.take_of_length_le ?_
        rw [List.length_drop, length_numbered]
        omega
      case isFalse h =>
        rw [Int.toNat_of_nonpos (not_lt.mp h), Nat.sub_zero]
        exact (List.drop_of_length_le (length_numbered log).le).symm
    dsimp only
    rw [hheader, htail]
    have hsublist : ((numbered log).take header.toNat ++
        (numbered log).drop (max header.toNat (log.length - tail.toNat))).Sublist
          (numbered log) := by
      conv_rhs => rw [← List.take_append_drop header.toNat (numbered log)]
      refine (List.Sublist.refl _).append ?_
      exact List.drop_sublist_drop_left _ (le_max_left _ _)
    refine sortedRows_merge (fun entry hentry => number_of_mem_numbered (hsublist.subset hentry))
      ((pairwise_numbered log).sublist hsublist) fun entry => ?_
    rw [List.mem_append, List.mem_append]
    -- the parts overlap exactly when the last lines start among the first ones
    rcases le_total header.toNat (log.length - tail.toNat) with hle | hle
    · rw [max_eq_right hle]
    · rw [max_eq_left hle]
      have hall : entry ∈ (numbered log).take header.toNat ∨
          entry ∈ (numbered log).drop header.toNat ↔ entry ∈ numbered log := by
        rw [← List.mem_append, List.take_append_drop]
      constructor
      · rintro (h | h)
        · exact Or.inl h
        · exact hall.mpr (List.drop_subset _ _ h)
      · rintro (h | h)
        · exact Or.inl h
        · exact Or.inr (List.drop_subset_drop_left _ hle h)

/-- The last two of four lines with the first one, and all lines where the parts overlap. -/
example : (getTaskLogTail (serve ["a", "b", "c", "d"]) 2 1).map (·.t) = ["a", "c", "d"] := by
  decide

end TaskLog

end ProxmoxIaas
