import Mathlib.Data.List.Pairwise
import Mathlib.Tactic.SplitIfs

/-!
# Maps that are walked in the order of their keys

An ordered map is a list of entries whose keys increase, so that walking it meets every key once and
in order.  Finding, storing and erasing are stated by what a later search finds.

The order is a field of the structure, so that a map that is not sorted cannot be built.  An
insertion replaces the value of a key that is there, or finds its place among the others; an entry
is found by its key whatever was inserted before (`find_insert`, `find_erase`).  The order of the
keys is only asked to be linear where a key is inserted.
-/

namespace Dnp3
namespace Library

/-- Entries whose keys increase. -/
structure OrderedMap (κ α : Type) [LT κ] where
  entries : List (κ × α)
  sorted : entries.Pairwise fun a b => a.1 < b.1

namespace OrderedMap

variable {κ α : Type} [LT κ]

/-- The map without entries. -/
def empty : OrderedMap κ α where
  entries := []
  sorted := .nil

/-- The keys, in ascending order. -/
def keys (m : OrderedMap κ α) : List κ := m.entries.map Prod.fst

variable [DecidableEq κ]

/-- The value of a key. -/
def find (m : OrderedMap κ α) (key : κ) : Option α :=
  (m.entries.find? fun e => decide (e.1 = key)).map Prod.snd

/-- The key has an entry. -/
def contains (m : OrderedMap κ α) (key : κ) : Bool := (m.find key).isSome

/-- Remove the entry of a key. -/
def erase (m : OrderedMap κ α) (key : κ) : OrderedMap κ α where
  entries := m.entries.filter fun e => !decide (e.1 = key)
  sorted := m.sorted.filter _

theorem contains_iff (m : OrderedMap κ α) (key : κ) : m.contains key = true ↔ key ∈ m.keys := by
  rw [contains, find, Option.isSome_map, List.find?_isSome, keys, List.mem_map]
  constructor
  · rintro ⟨e, he, hkey⟩
    exact ⟨e, he, of_decide_eq_true hkey⟩
  · rintro ⟨e, he, rfl⟩
    exact ⟨e, he, decide_eq_true rfl⟩

theorem find_isNone_iff (m : OrderedMap κ α) (key : κ) :
    (m.find key).isNone = true ↔ key ∉ m.keys := by
  rw [← contains_iff, contains, ← Option.not_isSome, Bool.not_eq_true', Bool.not_eq_true]

theorem find_erase (m : OrderedMap κ α) (key other : κ) :
    (m.erase key).find other = if other = key then none else m.find other := by
  rw [find, find, erase, List.find?_filter]
  split_ifs with h
  · subst h
    rw [List.find?_eq_none.mpr, Option.map_none]
    intro e _
    simp
  · congr 1
    refine congrArg (fun p => List.find? p m.entries) (funext fun e => ?_)
    by_cases he : e.1 = other
    · simp [he, h]
    · simp [he]

/-- Keys increase, so an entry is the one that is found under its key. -/
theorem find_of_mem (hirrefl : ∀ key : κ, ¬ key < key) {m : OrderedMap κ α} {e : κ × α}
    (h : e ∈ m.entries) : m.find e.1 = some e.2 := by
  obtain ⟨entries, hsorted⟩ := m
  suffices hfind : entries.find? (fun e' => decide (e'.1 = e.1)) = some e by
    rw [find, hfind, Option.map_some]
  change e ∈ entries at h
  induction hsorted with
  | nil => cases h
  | @cons d rest hbelow _ ih =>
    rcases List.mem_cons.mp h with rfl | hrest
    · exact List.find?_cons_of_pos (decide_eq_true rfl)
    · have hne : d.1 ≠ e.1 := by
        intro hsame
        have hless := hbelow e hrest
        rw [hsame] at hless
        exact hirrefl e.1 hless
      rw [List.find?_cons_of_neg (by simpa using hne)]
      exact ih hrest

variable [DecidableLT κ]

/-- An entry is put in its place, or takes the place of the one with its key. -/
def insertEntry (key : κ) (value : α) : List (κ × α) → List (κ × α)
  | [] => [(key, value)]
  | e :: rest =>
    if key < e.1 then (key, value) :: e :: rest
    else if key = e.1 then (key, value) :: rest
    else e :: insertEntry key value rest

theorem mem_insertEntry {key : κ} {value : α} {e : κ × α} {entries : List (κ × α)}
    (h : e ∈ insertEntry key value entries) : e = (key, value) ∨ e ∈ entries := by
  induction entries with
  | nil => exact .inl (List.mem_singleton.mp h)
  | cons first rest ih =>
    rw [insertEntry] at h
    split_ifs at h
    · exact List.mem_cons.mp h
    · exact (List.mem_cons.mp h).imp_right (List.mem_cons_of_mem _)
    · rcases List.mem_cons.mp h with rfl | hrest
      · exact .inr List.mem_cons_self
      · exact (ih hrest).imp_right (List.mem_cons_of_mem _)

theorem find_insertEntry (key other : κ) (value : α) (entries : List (κ × α)) :
    ((insertEntry key value entries).find? fun e => decide (e.1 = other)).map Prod.snd =
      if other = key then some value
      else (entries.find? fun e => decide (e.1 = other)).map Prod.snd := by
  induction entries with
  | nil =>
    by_cases h : key = other
    · subst h
      simp [insertEntry]
    · simp [insertEntry, h, Ne.symm h]
  | cons first rest ih =>
    rw [insertEntry]
    by_cases hother : other = key
    · subst hother
      rw [if_pos rfl] at ih ⊢
      split_ifs with hlt heq
      · simp
      · simp
      · rw [List.find?_cons_of_neg (by simpa using Ne.symm heq)]
        exact ih
    · have hkey : decide (key = other) = false := decide_eq_false (Ne.symm hother)
      rw [if_neg hother] at ih ⊢
      split_ifs with hlt heq
      · rw [List.find?_cons, hkey]
      · rw [List.find?_cons, List.find?_cons, ← heq, hkey]
      · rw [List.find?_cons, List.find?_cons]
        split
        · rfl
        · exact ih

variable [LE κ] [Std.IsLinearOrder κ] [Std.LawfulOrderLT κ]

theorem sorted_insertEntry (key : κ) (value : α) {entries : List (κ × α)}
    (h : entries.Pairwise fun a b => a.1 < b.1) :
    (insertEntry key value entries).Pairwise fun a b => a.1 < b.1 := by
  induction entries with
  | nil => exact List.pairwise_singleton ..
  | cons first rest ih =>
    obtain ⟨hfirst, hrest⟩ := List.pairwise_cons.mp h
    rw [insertEntry]
    split_ifs with hlt heq
    · refine List.pairwise_cons.mpr ⟨fun e he => ?_, h⟩
      rcases List.mem_cons.mp he with rfl | hmem
      · exact hlt
      · exact Std.lt_trans hlt (hfirst e hmem)
    · subst heq
      exact List.pairwise_cons.mpr ⟨hfirst, hrest⟩
    · refine List.pairwise_cons.mpr ⟨fun e he => ?_, ih hrest⟩
      rcases mem_insertEntry he with rfl | hmem
      · rcases Std.lt_trichotomy key first.1 with hbefore | hsame | hbehind
        · exact absurd hbefore hlt
        · exact absurd hsame heq
        · exact hbehind
      · exact hfirst e hmem

/-- Store a value under a key. -/
def insert (m : OrderedMap κ α) (key : κ) (value : α) : OrderedMap κ α where
  entries := insertEntry key value m.entries
  sorted := sorted_insertEntry key value m.sorted

theorem find_insert (m : OrderedMap κ α) (key other : κ) (value : α) :
    (m.insert key value).find other = if other = key then some value else m.find other :=
  find_insertEntry key other value m.entries

theorem mem_keys_insert (m : OrderedMap κ α) (key other : κ) (value : α) :
    other ∈ (m.insert key value).keys ↔ other = key ∨ other ∈ m.keys := by
  rw [← contains_iff, ← contains_iff, contains, contains, find_insert]
  by_cases h : other = key
  · simp [h]
  · simp [h]

end OrderedMap
end Library
end Dnp3
