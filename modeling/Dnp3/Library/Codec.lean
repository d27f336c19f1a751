import Mathlib.Algebra.Order.Ring.Nat
import Mathlib.Data.List.Basic

/-!
# Codecs of fixed size

A codec writes a value as a fixed number of bytes and reads it back from the front of a buffer.  It
need not be lossless: what reading gives back after writing is the codec's *image* of the value, and
a codec is `Lossless` when every value is its own image.  Records are codecs of their fields in
sequence (`Codec.prod`), and a codec is carried to another type along a pair of conversions
(`Codec.map`).

The primitive codecs are the integers of the formats, in little-endian order, with their images and
the proof that they are lossless where they are.  `read_write_append` is the rule that proofs about
formats use: what was written is read back as its image, with anything behind it.
-/

namespace Dnp3
namespace Library

/-! ## Little-endian numbers -/

/-- The `n` little-endian bytes of a number; what does not fit is dropped. -/
def leBytes : Nat → Nat → List UInt8
  | 0, _ => []
  | n + 1, v => UInt8.ofNat v :: leBytes n (v / 256)

/-- The number with the given little-endian bytes. -/
def leNat : List UInt8 → Nat
  | [] => 0
  | b :: bs => b.toNat + 256 * leNat bs

@[simp] theorem length_leBytes (n v : Nat) : (leBytes n v).length = n := by
  induction n generalizing v with
  | zero => rfl
  | succ n ih => rw [leBytes, List.length_cons, ih]

theorem leNat_leBytes (n v : Nat) : leNat (leBytes n v) = v % 256 ^ n := by
  induction n generalizing v with
  | zero => rw [leBytes, leNat, Nat.pow_zero, Nat.mod_one]
  | succ n ih => rw [leBytes, leNat, ih, Nat.pow_succ', Nat.mod_mul, UInt8.toNat_ofNat']

theorem leNat_lt (b : List UInt8) : leNat b < 256 ^ b.length := by
  induction b with
  | nil => exact Nat.zero_lt_one
  | cons x b ih =>
    have hx := x.toNat_lt
    rw [leNat, List.length_cons, Nat.pow_succ']
    omega

/-! ## Codecs -/

/-- A codec of fixed size for values of type `α`. -/
structure Codec (α : Type*) where
  size : Nat
  write : α → List UInt8
  /-- Reads the first `size` bytes of a buffer that has them. -/
  read : List UInt8 → α
  length_write : ∀ a, (write a).length = size
  read_append : ∀ {b : List UInt8} (z : List UInt8), size ≤ b.length → read (b ++ z) = read b

namespace Codec

variable {α β γ : Type*}

/-- What a value comes back as. -/
def image (c : Codec α) (a : α) : α := c.read (c.write a)

/-- Every value comes back unchanged. -/
def Lossless (c : Codec α) : Prop := ∀ a, c.image a = a

@[simp] theorem read_write_append (c : Codec α) (a : α) (z : List UInt8) :
    c.read (c.write a ++ z) = c.image a :=
  c.read_append z (Nat.le_of_eq (c.length_write a).symm)

/-- Little-endian numbers of `n` bytes. -/
def le (n : Nat) : Codec Nat where
  size := n
  write := leBytes n
  read b := leNat (b.take n)
  length_write := length_leBytes n
  read_append z h := by rw [List.take_append_of_le_length h]

theorem image_le (n v : Nat) : (le n).image v = v % 256 ^ n := by
  show leNat ((leBytes n v).take n) = _
  rw [List.take_of_length_le (Nat.le_of_eq (length_leBytes n v)), leNat_leBytes]

/-- A codec carried along a pair of conversions. -/
def map (f : α → β) (g : β → α) (c : Codec α) : Codec β where
  size := c.size
  write b := c.write (g b)
  read b := f (c.read b)
  length_write b := c.length_write (g b)
  read_append z h := by rw [c.read_append z h]

theorem image_map (f : α → β) (g : β → α) (c : Codec α) (b : β) :
    (c.map f g).image b = f (c.image (g b)) := rfl

/-- No fields at all. -/
def unit : Codec Unit where
  size := 0
  write _ := []
  read _ := ()
  length_write _ := rfl
  read_append _ _ := rfl

/-- Two fields in sequence. -/
def prod (c : Codec α) (d : Codec β) : Codec (α × β) where
  size := c.size + d.size
  write p := c.write p.1 ++ d.write p.2
  read b := (c.read b, d.read (b.drop c.size))
  length_write p := by rw [List.length_append, c.length_write, d.length_write]
  read_append z h := by
    rw [c.read_append z (by omega), List.drop_append_of_le_length (by omega),
      d.read_append z (by rw [List.length_drop]; omega)]

theorem image_prod (c : Codec α) (d : Codec β) (p : α × β) :
    (c.prod d).image p = (c.image p.1, d.image p.2) := by
  show (c.read (c.write p.1 ++ d.write p.2), d.read ((c.write p.1 ++ d.write p.2).drop c.size)) = _
  rw [read_write_append, List.drop_left' (c.length_write p.1)]
  rfl

theorem Lossless.map {f : α → β} {g : β → α} {c : Codec α} (hc : c.Lossless)
    (hfg : ∀ b, f (g b) = b) : (c.map f g).Lossless := fun b => by
  rw [image_map, hc, hfg]

theorem Lossless.prod {c : Codec α} {d : Codec β} (hc : c.Lossless) (hd : d.Lossless) :
    (c.prod d).Lossless := fun p => by
  rw [image_prod, hc, hd]

/-- Values of a machine type of `n` bytes, given by their numbers. -/
theorem lossless_le_map {n : Nat} {f : Nat → α} {g : α → Nat} (hlt : ∀ a, g a < 256 ^ n)
    (hfg : ∀ a, f (g a) = a) : ((le n).map f g).Lossless := fun a => by
  rw [image_map, image_le, Nat.mod_eq_of_lt (hlt a), hfg]

/-- One byte. -/
def uint8 : Codec UInt8 := (le 1).map UInt8.ofNat UInt8.toNat

/-- Two bytes, the low one first. -/
def uint16 : Codec UInt16 := (le 2).map UInt16.ofNat UInt16.toNat

/-- Four bytes, the low one first. -/
def uint32 : Codec UInt32 := (le 4).map UInt32.ofNat UInt32.toNat

/-- Eight bytes, the low one first. -/
def uint64 : Codec UInt64 := (le 8).map UInt64.ofNat UInt64.toNat

/-- Two bytes in two's complement. -/
def int16 : Codec Int16 := uint16.map UInt16.toInt16 Int16.toUInt16

/-- Four bytes in two's complement. -/
def int32 : Codec Int32 := uint32.map UInt32.toInt32 Int32.toUInt32

theorem lossless_uint8 : uint8.Lossless := lossless_le_map UInt8.toNat_lt fun _ => UInt8.ofNat_toNat

theorem lossless_uint16 : uint16.Lossless :=
  lossless_le_map UInt16.toNat_lt fun _ => UInt16.ofNat_toNat

theorem lossless_uint32 : uint32.Lossless :=
  lossless_le_map UInt32.toNat_lt fun _ => UInt32.ofNat_toNat

theorem lossless_uint64 : uint64.Lossless :=
  lossless_le_map UInt64.toNat_lt fun _ => UInt64.ofNat_toNat

theorem lossless_int16 : int16.Lossless := lossless_uint16.map fun _ => rfl

theorem lossless_int32 : int32.Lossless := lossless_uint32.map fun _ => rfl

end Codec
end Library
end Dnp3
