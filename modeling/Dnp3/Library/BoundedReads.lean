import Dnp3.Library.Codec

/-!
# Reads that know their end

A reader takes a value from the front of the bytes it is given, and fails when a byte it needs is
behind their end.  A reader has a *block* of `n` bytes when it always takes `n` bytes and its value
comes from them alone.  Iterating such readers reads one block after the other, so that the whole
iteration has a block as well.

`iterate_blocks` is this fact.  The other kind of reader looks at some place in the bytes and takes
none of them, like one that reads a single bit of a packed byte: `iterate_peeks` says that such
readers need no byte behind the bound that each of them keeps.  Codecs of `Library.Codec`, read with
their bytes checked, are readers with a block (`block_reader`).
-/

namespace Dnp3
namespace Library

variable {α β : Type*}

/-- The value in front and the bytes behind it; `none` when bytes are missing. -/
abbrev Reader (α : Type*) := List UInt8 → Option (α × List UInt8)

namespace Reader

/-- The reader takes `n` bytes, and its value comes from them. -/
def Block (read : Reader α) (n : Nat) (value : List UInt8 → α) : Prop :=
  ∀ b : List UInt8, n ≤ b.length → read b = some (value (b.take n), b.drop n)

/-- One reader after the other. -/
def pair (r : Reader α) (s : Reader β) : Reader (α × β) := fun b =>
  (r b).bind fun x => (s x.2).map fun y => ((x.1, y.1), y.2)

/-- A reader whose value is carried along a function. -/
def mapValue (f : α → β) (r : Reader α) : Reader β := fun b => (r b).map fun x => (f x.1, x.2)

theorem block_pair {r : Reader α} {s : Reader β} {m n : Nat} {f : List UInt8 → α}
    {g : List UInt8 → β} (hr : r.Block m f) (hs : s.Block n g) :
    (r.pair s).Block (m + n) fun b => (f (b.take m), g (b.drop m)) := by
  intro b hb
  have hrest : n ≤ (b.drop m).length := by
    rw [List.length_drop]
    omega
  rw [pair, hr b (by omega), Option.bind_some, hs _ hrest, Option.map_some]
  dsimp only
  rw [List.take_take, Nat.min_eq_left (Nat.le_add_right m n), List.drop_take,
    Nat.add_sub_cancel_left, List.drop_drop]

theorem block_mapValue {r : Reader α} {n : Nat} {f : List UInt8 → α} (hr : r.Block n f)
    (g : α → β) : (r.mapValue g).Block n (g ∘ f) := by
  intro b hb
  rw [mapValue, hr b hb]
  rfl

/-- The next `n` bytes. -/
def bytes (n : Nat) : Reader (List UInt8) := fun b =>
  if n ≤ b.length then some (b.take n, b.drop n) else none

theorem block_bytes (n : Nat) : (bytes n).Block n fun b => b.take n := by
  intro b hb
  rw [bytes, if_pos hb]
  dsimp only
  rw [List.take_take, Nat.min_self]

/-! ## Iteration -/

/-- The readers of the positions from `pos` on, one after the other. -/
def iterate (read : Nat → Reader α) : (pos count : Nat) → Reader (List α)
  | _, 0, b => some ([], b)
  | pos, count + 1, b =>
    (read pos b).bind fun x => (iterate read (pos + 1) count x.2).map fun xs => (x.1 :: xs.1, xs.2)

/-- The position-th block. -/
def blockAt (n : Nat) (b : List UInt8) (pos : Nat) : List UInt8 := (b.drop (pos * n)).take n

theorem blockAt_drop (n : Nat) (b : List UInt8) (pos : Nat) :
    blockAt n (b.drop n) pos = blockAt n b (pos + 1) := by
  rw [blockAt, blockAt, List.drop_drop, Nat.add_mul, Nat.one_mul, Nat.add_comm n]

theorem blockAt_append {n count : Nat} {b : List UInt8} (z : List UInt8) {pos : Nat}
    (hb : count * n ≤ b.length) (hpos : pos < count) :
    blockAt n (b ++ z) pos = blockAt n b pos := by
  have hmul : pos * n + n ≤ count * n := by
    calc pos * n + n = (pos + 1) * n := by rw [Nat.add_mul, Nat.one_mul]
      _ ≤ count * n := Nat.mul_le_mul_right n hpos
  have hle : n ≤ (b.drop (pos * n)).length := by
    rw [List.length_drop]
    omega
  rw [blockAt, blockAt, List.drop_append_of_le_length (by omega), List.take_append_of_le_length hle]

/-- Readers of equal blocks read the blocks in order. -/
theorem iterate_blocks {read : Nat → Reader α} {n : Nat} {value : Nat → List UInt8 → α}
    (hread : ∀ pos, (read pos).Block n (value pos)) (count : Nat) :
    ∀ (pos : Nat) (b : List UInt8), count * n ≤ b.length →
      iterate read pos count b =
        some ((List.range count).map fun k => value (pos + k) (blockAt n b k),
          b.drop (count * n)) := by
  induction count with
  | zero =>
    intro pos b _
    rw [iterate, Nat.zero_mul]
    rfl
  | succ count ih =>
    intro pos b hb
    have hn : (count + 1) * n = n + count * n := by
      rw [Nat.add_mul, Nat.one_mul, Nat.add_comm]
    have hrest : count * n ≤ (b.drop n).length := by
      rw [List.length_drop]
      omega
    rw [iterate, hread pos b (by omega), Option.bind_some, ih _ _ hrest, Option.map_some,
      List.drop_drop, hn, List.range_succ_eq_map, List.map_cons, List.map_map]
    congr 2
    · congr 1
      · rw [blockAt, Nat.zero_mul, List.drop_zero, Nat.add_zero]
      · refine List.map_congr_left fun k _ => ?_
        rw [blockAt_drop, Function.comp_apply, Nat.add_right_comm, Nat.add_assoc]

/-- Readers that take nothing, and need the bytes up to `bound`, leave the bytes where they are. -/
theorem iterate_peeks {read : Nat → Reader α} {value : Nat → α} {b : List UInt8} (count : Nat) :
    ∀ pos : Nat, (∀ k, k < count → read (pos + k) b = some (value (pos + k), b)) →
      iterate read pos count b = some ((List.range count).map fun k => value (pos + k), b) := by
  induction count with
  | zero => exact fun _ _ => rfl
  | succ count ih =>
    intro pos hread
    have hnext : ∀ k, k < count → read (pos + 1 + k) b = some (value (pos + 1 + k), b) := by
      intro k hk
      have h := hread (k + 1) (Nat.succ_lt_succ hk)
      rwa [← Nat.add_assoc, Nat.add_right_comm] at h
    have hfirst : read pos b = some (value pos, b) := hread 0 (Nat.succ_pos count)
    rw [iterate, hfirst, Option.bind_some, ih (pos + 1) hnext,
      Option.map_some, List.range_succ_eq_map, List.map_cons, List.map_map]
    congr 3
    refine List.map_congr_left fun k _ => ?_
    rw [Function.comp_apply, Nat.add_right_comm, Nat.add_assoc]

end Reader

namespace Codec

/-- A codec read with its bytes checked. -/
def reader (c : Codec α) : Reader α := fun b =>
  if c.size ≤ b.length then some (c.read b, b.drop c.size) else none

theorem read_take (c : Codec α) {b : List UInt8} (h : c.size ≤ b.length) :
    c.read (b.take c.size) = c.read b := by
  have hlen : c.size ≤ (b.take c.size).length := by
    rw [List.length_take]
    omega
  calc c.read (b.take c.size) = c.read (b.take c.size ++ b.drop c.size) :=
        (c.read_append _ hlen).symm
    _ = c.read b := by rw [List.take_append_drop]

theorem block_reader (c : Codec α) : c.reader.Block c.size c.read := by
  intro b hb
  rw [reader, if_pos hb, c.read_take hb]

end Codec
end Library
end Dnp3
