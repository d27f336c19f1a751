import Mathlib.Data.List.Basic

/-!
# Writes into a linear memory

A memory is a list of cells.  `splice` overwrites the cells from a position on, `memmove` copies a
range inside one memory, and the lemmas say which cells a write leaves alone and how adjacent
writes join.

`splice` writes cells at a position and leaves the others, and `memmove` is a `splice` of cells of
the memory itself, which are read before any of them is written.  The lemmas say what is found in
the memory in front of what was written, in it, and behind it, and how two writes combine when the
second begins where the first has ended.  Positions behind the end are not excluded by a type; every
lemma asks for what it needs.
-/

namespace Dnp3
namespace Library

variable {α : Type*}

/-- `mem` with the cells from `pos` on replaced by `cells`. -/
def splice (mem : List α) (pos : Nat) (cells : List α) : List α :=
  mem.take pos ++ cells ++ mem.drop (pos + cells.length)

/-- Copy `num` cells from `src` to `dest` inside one memory; the ranges may overlap. -/
def memmove (mem : List α) (dest src num : Nat) : List α :=
  splice mem dest ((mem.drop src).take num)

@[simp] theorem splice_nil (mem : List α) (pos : Nat) : splice mem pos [] = mem := by
  simp [splice]

theorem length_splice {mem cells : List α} {pos : Nat}
    (h : pos + cells.length ≤ mem.length) : (splice mem pos cells).length = mem.length := by
  simp only [splice, List.length_append, List.length_take, List.length_drop]
  omega

/-- What lies behind a write is untouched. -/
theorem drop_splice {mem cells : List α} {pos k : Nat} (hmem : pos ≤ mem.length)
    (hk : pos + cells.length ≤ k) : (splice mem pos cells).drop k = mem.drop k := by
  have hlen : (mem.take pos ++ cells).length = pos + cells.length := by
    simp only [List.length_append, List.length_take]
    omega
  rw [splice, List.drop_append, hlen, List.drop_eq_nil_of_le (by omega), List.nil_append,
    List.drop_drop]
  congr 1
  omega

/-- What lies before a write is untouched. -/
theorem take_splice {mem cells : List α} {pos k : Nat} (hmem : pos ≤ mem.length) (hk : k ≤ pos) :
    (splice mem pos cells).take k = mem.take k := by
  have hlen : (mem.take pos).length = pos := by
    rw [List.length_take]
    omega
  rw [splice, List.append_assoc, List.take_append_of_le_length (by omega), List.take_take,
    Nat.min_eq_left hk]

/-- A write can be read back. -/
theorem take_drop_splice (cells : List α) {mem : List α} {pos : Nat} (hmem : pos ≤ mem.length) :
    ((splice mem pos cells).drop pos).take cells.length = cells := by
  have hlen : (mem.take pos).length = pos := by
    rw [List.length_take]
    omega
  rw [splice, List.append_assoc, List.drop_append, hlen, List.drop_eq_nil_of_le (by omega),
    List.nil_append, Nat.sub_self, List.drop_zero, List.take_left]

/-- The memory up to the end of a write. -/
theorem take_splice_end (cells : List α) {mem : List α} {pos : Nat} (hmem : pos ≤ mem.length) :
    (splice mem pos cells).take (pos + cells.length) = mem.take pos ++ cells := by
  have hlen : (mem.take pos ++ cells).length = pos + cells.length := by
    simp only [List.length_append, List.length_take]
    omega
  rw [splice, ← hlen, List.take_left]

/-- Two adjacent writes are one. -/
theorem splice_splice (xs ys : List α) {mem : List α} {pos : Nat} (hmem : pos ≤ mem.length) :
    splice (splice mem pos xs) (pos + xs.length) ys = splice mem pos (xs ++ ys) := by
  have hdrop : (splice mem pos xs).drop (pos + xs.length + ys.length) =
      mem.drop (pos + (xs ++ ys).length) := by
    rw [drop_splice hmem (by omega), List.length_append, Nat.add_assoc]
  rw [splice, take_splice_end xs hmem, hdrop, splice, List.append_assoc (mem.take pos)]

/-- A write that ends by `k` happens in the first `k` cells. -/
theorem take_splice_of_le {mem cells : List α} {pos k : Nat} (hk : pos + cells.length ≤ k)
    (hmem : k ≤ mem.length) : (splice mem pos cells).take k = splice (mem.take k) pos cells := by
  have hlen : (mem.take pos ++ cells).length = pos + cells.length := by
    simp only [List.length_append, List.length_take]
    omega
  rw [splice, splice, List.take_append, hlen, List.take_of_length_le (by omega), List.take_take,
    Nat.min_eq_left (by omega), List.drop_take]

/-- A hole between two parts is filled. -/
theorem splice_append (front hole back : List α) {cells : List α}
    (h : hole.length = cells.length) :
    splice (front ++ hole ++ back) front.length cells = front ++ cells ++ back := by
  have hdrop : (front ++ hole ++ back).drop (front.length + cells.length) = back := by
    rw [← h, ← List.length_append, List.drop_left]
  rw [splice, hdrop, List.append_assoc front hole, List.take_left]

/-- One cell is overwritten. -/
theorem splice_singleton {mem : List α} {pos : Nat} (a : α) (h : pos < mem.length) :
    splice mem pos [a] = mem.set pos a := by
  rw [splice, List.set_eq_take_append_cons_drop, if_pos h, List.append_assoc]
  rfl

end Library
end Dnp3
