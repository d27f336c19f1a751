import Mathlib.Data.List.GetD
import Mathlib.Logic.Function.Iterate

/-!
# Remainders of bit strings

A register of `w` bits is shifted to the right, and a polynomial is added when a one leaves it.  The
bits of a string enter it from the first to the last; what it then holds is the remainder of the
string.  Everything here is linear, and a polynomial whose highest bit is set makes the shift
injective, so that a string with its remainder behind it loses its remainder zero under every burst
of errors that is not longer than the register.

`remainder` is defined by the shifts of the register, as a program computes it, and the algebra is
stated for this definition: `remainder_xor` is linearity, and `remainder_eq_zero_iff` says when the
register ends empty.  `remainder_burst_ne_zero` is the property that checksums are chosen for; it
needs only the highest bit of the polynomial, and otherwise holds of all polynomials alike.
-/

namespace Dnp3
namespace Library
namespace CyclicCode

variable {w : Nat} (P : BitVec w)

/-- The register after a shift. -/
def shift (s : BitVec w) : BitVec w := if s.getLsbD 0 then (s >>> 1) ^^^ P else s >>> 1

/-- A bit in the lowest place. -/
def lowest (b : Bool) : BitVec w := (BitVec.ofBool b).setWidth w

/-- The register after one more bit. -/
def feed (s : BitVec w) (b : Bool) : BitVec w := shift P (s ^^^ lowest b)

/-- The register after a string. -/
def remainder (s : BitVec w) (bits : List Bool) : BitVec w := bits.foldl (feed P) s

/-- The bits of a register, from the lowest on. -/
def bitsOf (s : BitVec w) : List Bool := (List.range w).map s.getLsbD

/-- A string in a register, from the lowest place on. -/
def pack : List Bool → BitVec w
  | [] => 0#w
  | b :: bits => lowest b ^^^ (pack bits <<< 1)

/-! ## Shifts -/

@[simp] theorem getLsbD_lowest (b : Bool) (i : Nat) :
    (lowest b : BitVec w).getLsbD i = (decide (i = 0) && decide (i < w) && b) := by
  rw [lowest, BitVec.getLsbD_setWidth, BitVec.getLsbD_ofBool, Bool.and_left_comm, Bool.and_assoc]

@[simp] theorem lowest_false : (lowest false : BitVec w) = 0#w := by
  ext i hi
  simp [lowest]

@[simp] theorem shift_zero : shift P 0#w = 0#w := by
  simp [shift]

theorem shift_xor (s t : BitVec w) : shift P (s ^^^ t) = shift P s ^^^ shift P t := by
  unfold shift
  rw [BitVec.getLsbD_xor, BitVec.ushiftRight_xor_distrib]
  cases s.getLsbD 0 <;> cases t.getLsbD 0
  · rfl
  · exact BitVec.xor_assoc ..
  · show s >>> 1 ^^^ t >>> 1 ^^^ P = s >>> 1 ^^^ P ^^^ t >>> 1
    rw [BitVec.xor_assoc, BitVec.xor_comm (t >>> 1), BitVec.xor_assoc]
  · show s >>> 1 ^^^ t >>> 1 = s >>> 1 ^^^ P ^^^ (t >>> 1 ^^^ P)
    rw [BitVec.xor_comm (t >>> 1) P, ← BitVec.xor_assoc, BitVec.xor_assoc (s >>> 1) P P,
      BitVec.xor_self, BitVec.xor_zero]

theorem xor_eq_zero_iff {s t : BitVec w} : s ^^^ t = 0#w ↔ s = t := by
  constructor
  · intro h
    have hcancel : s ^^^ t ^^^ t = t := by rw [h, BitVec.zero_xor]
    rwa [BitVec.xor_assoc, BitVec.xor_self, BitVec.xor_zero] at hcancel
  · rintro rfl
    exact BitVec.xor_self

theorem eq_zero_of_shift {s : BitVec w} (hP : P.getLsbD (w - 1) = true) (h : shift P s = 0#w) :
    s = 0#w := by
  have hw : 0 < w := Nat.pos_of_ne_zero fun hzero => by
    subst hzero
    simp [BitVec.getLsbD_of_ge] at hP
  -- a one that leaves the register would show in the highest place
  have hlow : s.getLsbD 0 = false := by
    by_contra hset
    rw [Bool.not_eq_false] at hset
    rw [shift, if_pos hset] at h
    have hbit := congrArg (BitVec.getLsbD · (w - 1)) h
    simp only [BitVec.getLsbD_xor, BitVec.getLsbD_ushiftRight, hP] at hbit
    rw [BitVec.getLsbD_of_ge s _ (by omega)] at hbit
    simp at hbit
  rw [shift, if_neg (Bool.eq_false_iff.mp hlow)] at h
  refine BitVec.eq_of_getLsbD_eq fun i hi => ?_
  cases i with
  | zero => simpa using hlow
  | succ i =>
    have hbit := congrArg (BitVec.getLsbD · i) h
    simpa [BitVec.getLsbD_ushiftRight, Nat.add_comm] using hbit

theorem iterate_shift_zero (n : Nat) : (shift P)^[n] 0#w = 0#w := by
  induction n with
  | zero => rfl
  | succ n ih => rw [Function.iterate_succ_apply, shift_zero, ih]

theorem iterate_shift_xor (n : Nat) (s t : BitVec w) :
    (shift P)^[n] (s ^^^ t) = (shift P)^[n] s ^^^ (shift P)^[n] t := by
  induction n generalizing s t with
  | zero => rfl
  | succ n ih =>
    rw [Function.iterate_succ_apply, shift_xor, ih, Function.iterate_succ_apply,
      Function.iterate_succ_apply]

theorem eq_zero_of_iterate_shift {s : BitVec w} (hP : P.getLsbD (w - 1) = true) {n : Nat}
    (h : (shift P)^[n] s = 0#w) : s = 0#w := by
  induction n generalizing s with
  | zero => exact h
  | succ n ih =>
    rw [Function.iterate_succ_apply] at h
    exact eq_zero_of_shift P hP (ih h)

/-- Zeros in the lowest places leave the register unnoticed. -/
theorem iterate_shift_of_low {s : BitVec w} {n : Nat} (h : ∀ i < n, s.getLsbD i = false) :
    (shift P)^[n] s = s >>> n := by
  induction n with
  | zero => simp
  | succ n ih =>
    have hlow : (s >>> n).getLsbD 0 = false := by
      rw [BitVec.getLsbD_ushiftRight]
      exact h n (Nat.lt_succ_self n)
    rw [Function.iterate_succ_apply', ih fun i hi => h i (Nat.lt_succ_of_lt hi), shift,
      if_neg (Bool.eq_false_iff.mp hlow), BitVec.shiftRight_add]

/-! ## Strings in a register -/

theorem getLsbD_pack (bits : List Bool) (i : Nat) :
    (pack bits : BitVec w).getLsbD i = (decide (i < w) && bits.getD i false) := by
  induction bits generalizing i with
  | nil => simp [pack]
  | cons b bits ih =>
    rw [pack, BitVec.getLsbD_xor, getLsbD_lowest, BitVec.getLsbD_shiftLeft]
    cases i with
    | zero => simp
    | succ i =>
      rw [Nat.add_sub_cancel, ih]
      by_cases hi : i + 1 < w
      · simp [hi, Nat.lt_of_succ_lt hi]
      · simp [hi]

theorem pack_bitsOf (s : BitVec w) : pack (bitsOf s) = s := by
  refine BitVec.eq_of_getLsbD_eq fun i hi => ?_
  rw [getLsbD_pack, bitsOf, List.getD_eq_getElem?_getD, List.getElem?_map,
    List.getElem?_range hi, decide_eq_true hi]
  rfl

theorem length_bitsOf (s : BitVec w) : (bitsOf s).length = w := by
  rw [bitsOf, List.length_map, List.length_range]

theorem pack_ne_zero {bits : List Bool} (hlength : bits.length ≤ w) (hset : true ∈ bits) :
    (pack bits : BitVec w) ≠ 0#w := by
  intro hzero
  obtain ⟨i, hi⟩ := List.mem_iff_getElem?.mp hset
  have hlt := (List.getElem?_eq_some_iff.mp hi).1
  have hbit : (pack bits : BitVec w).getLsbD i = (0#w).getLsbD i := by rw [hzero]
  rw [getLsbD_pack, List.getD_eq_getElem?_getD, hi, decide_eq_true (Nat.lt_of_lt_of_le hlt hlength)]
    at hbit
  simp at hbit

/-- A string with room behind it is shifted back. -/
theorem shift_pack {bits : List Bool} (hlength : bits.length < w) :
    shift P (pack bits <<< 1) = pack bits := by
  have hlow : (pack bits <<< 1 : BitVec w).getLsbD 0 = false := by
    rw [BitVec.getLsbD_shiftLeft]
    simp
  rw [shift, if_neg (Bool.eq_false_iff.mp hlow)]
  refine BitVec.eq_of_getLsbD_eq fun i hi => ?_
  rw [BitVec.getLsbD_ushiftRight, BitVec.getLsbD_shiftLeft, Nat.add_sub_cancel_left]
  by_cases hnext : 1 + i < w
  · simp [hnext]
  · have hnone : bits.getD i false = false := List.getD_eq_default _ _ (by omega)
    rw [getLsbD_pack, hnone]
    simp

/-! ## Remainders -/

theorem remainder_append (s : BitVec w) (bits bits' : List Bool) :
    remainder P s (bits ++ bits') = remainder P (remainder P s bits) bits' :=
  List.foldl_append ..

/-- A string that fits into the register may enter it at once. -/
theorem remainder_eq_shifts (s : BitVec w) {bits : List Bool} (hlength : bits.length ≤ w) :
    remainder P s bits = (shift P)^[bits.length] (s ^^^ pack bits) := by
  induction bits generalizing s with
  | nil =>
    exact BitVec.xor_zero.symm
  | cons b bits ih =>
    have hlt : bits.length < w := hlength
    calc remainder P s (b :: bits)
        = (shift P)^[bits.length] (feed P s b ^^^ pack bits) := ih _ (Nat.le_of_lt hlt)
      _ = (shift P)^[bits.length] (shift P (s ^^^ lowest b) ^^^ shift P (pack bits <<< 1)) := by
        rw [shift_pack P hlt, feed]
      _ = (shift P)^[bits.length] (shift P (s ^^^ pack (b :: bits))) := by
        rw [← shift_xor, BitVec.xor_assoc, pack]
      _ = (shift P)^[(b :: bits).length] (s ^^^ pack (b :: bits)) := by
        rw [List.length_cons, Function.iterate_succ_apply]

theorem remainder_zeros (s : BitVec w) (n : Nat) :
    remainder P s (List.replicate n false) = (shift P)^[n] s := by
  induction n generalizing s with
  | zero => rfl
  | succ n ih =>
    rw [List.replicate_succ, Function.iterate_succ_apply, ← ih]
    show remainder P (feed P s false) _ = _
    rw [feed, lowest_false, BitVec.xor_zero]

/-- Errors are added to the remainder. -/
theorem remainder_xor (s t : BitVec w) {bits errors : List Bool}
    (hlength : bits.length = errors.length) :
    remainder P (s ^^^ t) (List.zipWith xor bits errors) =
      remainder P s bits ^^^ remainder P t errors := by
  induction bits generalizing s t errors with
  | nil =>
    obtain rfl := List.length_eq_zero_iff.mp hlength.symm
    rfl
  | cons b bits ih =>
    cases errors with
    | nil => cases hlength
    | cons e errors =>
      have hbit : (lowest (xor b e) : BitVec w) = lowest b ^^^ lowest e := by
        refine BitVec.eq_of_getLsbD_eq fun i _ => ?_
        rw [BitVec.getLsbD_xor, getLsbD_lowest, getLsbD_lowest, getLsbD_lowest]
        cases b <;> cases e <;> simp
      have hfeed : feed P (s ^^^ t) (xor b e) = feed P s b ^^^ feed P t e := by
        rw [feed, feed, feed, hbit, ← shift_xor]
        congr 1
        rw [BitVec.xor_assoc, BitVec.xor_assoc, ← BitVec.xor_assoc t, BitVec.xor_comm t,
          BitVec.xor_assoc]
      show remainder P (feed P (s ^^^ t) (xor b e)) _ = _
      rw [hfeed, ih _ _ (Nat.succ.inj hlength)]
      rfl

/-- The register is emptied by its own bits, and by no others. -/
theorem remainder_eq_zero_iff (hP : P.getLsbD (w - 1) = true) (s check : BitVec w) :
    remainder P s (bitsOf check) = 0#w ↔ s = check := by
  rw [remainder_eq_shifts P s (Nat.le_of_eq (length_bitsOf check)), pack_bitsOf]
  constructor
  · exact fun h => xor_eq_zero_iff.mp (eq_zero_of_iterate_shift P hP h)
  · intro h
    rw [xor_eq_zero_iff.mpr h, iterate_shift_zero]

/-! ## Bursts -/

/-- Errors are confined to some consecutive places. -/
def Burst (errors : List Bool) (length : Nat) : Prop :=
  ∃ start, ∀ i, errors[i]? = some true → start ≤ i ∧ i < start + length

theorem eq_replicate_false {bits : List Bool} (h : ∀ i : Nat, bits[i]? ≠ some true) :
    bits = List.replicate bits.length false := by
  rw [List.eq_replicate_iff]
  refine ⟨rfl, fun b hb => ?_⟩
  obtain ⟨i, hi⟩ := List.mem_iff_getElem?.mp hb
  cases b with
  | false => rfl
  | true => exact absurd hi (h i)

/-- A burst that is not longer than the register leaves a remainder. -/
theorem remainder_burst_ne_zero (hP : P.getLsbD (w - 1) = true) {errors : List Bool}
    (hburst : Burst errors w) (hset : true ∈ errors) : remainder P 0#w errors ≠ 0#w := by
  obtain ⟨start, hconfined⟩ := hburst
  have hfront : errors.take start = List.replicate (errors.take start).length false := by
    refine eq_replicate_false fun i hi => ?_
    rw [List.getElem?_take] at hi
    split at hi
    next hlt => exact Nat.not_le_of_lt hlt (hconfined i hi).1
    next => cases hi
  have hback : (errors.drop start).drop w =
      List.replicate ((errors.drop start).drop w).length false := by
    refine eq_replicate_false fun i hi => ?_
    rw [List.drop_drop, List.getElem?_drop] at hi
    have := (hconfined _ hi).2
    omega
  have hsplit : errors = errors.take start ++ ((errors.drop start).take w ++
      (errors.drop start).drop w) := by
    rw [List.take_append_drop, List.take_append_drop]
  have hwindow : true ∈ (errors.drop start).take w := by
    rw [hsplit, List.mem_append, List.mem_append] at hset
    rcases hset with hmem | hmem | hmem
    · rw [hfront] at hmem
      cases List.eq_of_mem_replicate hmem
    · exact hmem
    · rw [hback] at hmem
      cases List.eq_of_mem_replicate hmem
  have hlength : ((errors.drop start).take w).length ≤ w := by
    rw [List.length_take]
    exact Nat.min_le_left ..
  rw [hsplit, hfront, remainder_append, remainder_append, remainder_zeros, iterate_shift_zero,
    hback, remainder_zeros, remainder_eq_shifts P 0#w hlength, BitVec.zero_xor]
  exact fun hzero => pack_ne_zero hlength hwindow
    (eq_zero_of_iterate_shift P hP (eq_zero_of_iterate_shift P hP hzero))

/-- A string with its remainder behind it loses the remainder zero under a burst. -/
theorem remainder_code_ne_zero (hP : P.getLsbD (w - 1) = true) {bits errors : List Bool}
    (hlength : errors.length = bits.length + w) (hburst : Burst errors w) (hset : true ∈ errors) :
    remainder P 0#w (List.zipWith xor (bits ++ bitsOf (remainder P 0#w bits)) errors) ≠ 0#w := by
  have hcode : remainder P 0#w (bits ++ bitsOf (remainder P 0#w bits)) = 0#w := by
    rw [remainder_append]
    exact (remainder_eq_zero_iff P hP _ _).mpr rfl
  have hlengths : (bits ++ bitsOf (remainder P 0#w bits)).length = errors.length := by
    rw [List.length_append, length_bitsOf, hlength]
  have hxor := remainder_xor P 0#w 0#w hlengths
  rw [BitVec.xor_self, hcode, BitVec.zero_xor] at hxor
  rw [hxor]
  exact remainder_burst_ne_zero P hP hburst hset

end CyclicCode
end Library
end Dnp3
