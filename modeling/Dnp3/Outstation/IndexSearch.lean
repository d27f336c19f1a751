import Dnp3.Outstation.DatabaseBuffers
import Mathlib.Order.Basic

/-!
# The index search

The virtual indices of an array increase, and `FindClosestRawIndex` looks for one of them by halving
an interval of positions.  For an index that is not below the first element the interval shrinks
until the index is found, or nothing is left next to the place where it would be.

For an index below the first element only the upper end moves, from `u` to `u / 2 - 1`.  The search
stops at the end `0`; from the end `1` it goes to `0 - 1`, which is 65535, and the next element that
is read is the one at position 32767.  The ends come to `1` exactly when the binary digits of the
size plus one begin with `11`.
-/

namespace Dnp3
namespace Outstation

open App

/-! ## Positions in an increasing list -/

section Increasing

variable {α : Type*} [LinearOrder α] {l : List α} {v x : α}

/-- The place of an element in an increasing list: the number of those that are smaller. -/
def below (l : List α) (v : α) : Nat := l.countP (· < v)

theorem below_le_length (l : List α) (v : α) : below l v ≤ l.length := List.countP_le_length

/-- The elements before the place are the smaller ones. -/
theorem lt_below_iff (hl : l.Pairwise (· < ·)) {i : Nat} (hi : l[i]? = some x) :
    i < below l v ↔ x < v := by
  induction l generalizing i with
  | nil => cases hi
  | cons a l ih =>
    obtain ⟨ha, hl⟩ := List.pairwise_cons.mp hl
    by_cases hav : a < v
    · have hcount : below (a :: l) v = below l v + 1 := List.countP_cons_of_pos (by simpa using hav)
      rw [hcount]
      cases i with
      | zero =>
        obtain rfl : a = x := by simpa using hi
        simp [hav]
      | succ i => rw [Nat.add_lt_add_iff_right, ih hl (by simpa using hi)]
    · have hcount : below (a :: l) v = 0 := by
        refine List.countP_eq_zero.mpr fun y hy => ?_
        rw [decide_eq_true_eq, not_lt]
        rcases List.mem_cons.mp hy with rfl | hy
        · exact not_lt.mp hav
        · exact (not_lt.mp hav).trans (ha y hy).le
      have hx : ¬ x < v := by
        rcases List.mem_cons.mp (List.mem_of_getElem? hi) with rfl | hx
        · exact hav
        · exact not_lt.mpr ((not_lt.mp hav).trans (ha x hx).le)
      simp [hcount, hx]

/-- An element stands at its place. -/
theorem eq_below (hl : l.Pairwise (· < ·)) {i : Nat} (hi : l[i]? = some v) : i = below l v := by
  have hnot : ¬ i < below l v := by simp [lt_below_iff hl hi]
  by_contra hne
  have hlt : below l v < i := by omega
  have hlen := (List.getElem?_eq_some_iff.mp hi).1
  obtain ⟨y, hy⟩ : ∃ y, l[below l v]? = some y := ⟨_, List.getElem?_eq_getElem (by omega)⟩
  have hyv : y < v := by
    have h := List.pairwise_iff_getElem.mp hl _ _ (by omega) hlen hlt
    rwa [(List.getElem?_eq_some_iff.mp hy).2, (List.getElem?_eq_some_iff.mp hi).2] at h
  exact lt_irrefl _ ((lt_below_iff hl hy).mpr hyv)

end Increasing

namespace IndexSearch

/-! ## The search for an index that is not below the first element -/

/-- The position at which a virtual index is, or would be. -/
def place (view : List UInt16) (vIndex : UInt16) : Nat :=
  below (view.map UInt16.toNat) vIndex.toNat

variable {view : List UInt16} {vIndex index lower upper midpoint : UInt16}

theorem increasing_toNat (hview : view.Pairwise (· < ·)) :
    (view.map UInt16.toNat).Pairwise (· < ·) :=
  List.pairwise_map.mpr (hview.imp UInt16.lt_iff_toNat_lt.mp)

variable (vIndex) in
theorem lt_place_iff (hview : view.Pairwise (· < ·)) {i : Nat} (hi : view[i]? = some index) :
    i < place view vIndex ↔ index < vIndex := by
  rw [UInt16.lt_iff_toNat_lt]
  exact lt_below_iff (increasing_toNat hview) (by rw [List.getElem?_map, hi, Option.map_some])

theorem eq_place (hview : view.Pairwise (· < ·)) {i : Nat} (hi : view[i]? = some vIndex) :
    i = place view vIndex :=
  eq_below (increasing_toNat hview) (by rw [List.getElem?_map, hi, Option.map_some])

theorem place_le_length (view : List UInt16) (vIndex : UInt16) :
    place view vIndex ≤ view.length := by
  simpa [place] using below_le_length (view.map UInt16.toNat) vIndex.toNat

/-- An index is not there when another one stands at its place. -/
theorem notMem_of_place (hview : view.Pairwise (· < ·))
    (h : view[place view vIndex]? ≠ some vIndex) : vIndex ∉ view := by
  intro hmem
  obtain ⟨i, hi⟩ := List.mem_iff_getElem?.mp hmem
  rw [eq_place hview hi] at hi
  exact h hi

theorem toNat_getMidpoint (h : lower ≤ upper) :
    (getMidpoint lower upper).toNat = (upper.toNat - lower.toNat) / 2 + lower.toNat := by
  have hle : lower.toNat ≤ upper.toNat := UInt16.le_iff_toNat_le.mp h
  have hlt := upper.toNat_lt
  unfold getMidpoint
  rw [UInt16.toNat_add, UInt16.toNat_div, UInt16.toNat_sub_of_le _ _ h]
  exact Nat.mod_eq_of_lt (by simp only [UInt16.reduceToNat]; omega)

theorem toNat_last (hsize : view.length < 65536) (hne : view ≠ []) :
    (UInt16.ofNat view.length - 1).toNat = view.length - 1 := by
  have hpos : 0 < view.length := List.length_pos_iff.mpr hne
  rw [UInt16.toNat_sub_of_le, UInt16.toNat_ofNat_of_lt' hsize]
  · rfl
  · rw [UInt16.le_iff_toNat_le, UInt16.toNat_ofNat_of_lt' hsize]
    exact hpos

/-- The position is in the array, and it is the one at which the index would be or the one
before. -/
structure Beside (view : List UInt16) (vIndex position : UInt16) : Prop where
  inside : position.toNat < view.length
  beside : position.toNat = place view vIndex ∨ position.toNat + 1 = place view vIndex

/-- What is found: the position of the index, or one beside the place of a missing one. -/
structure Closest (view : List UInt16) (vIndex : UInt16) (result : Result) : Prop where
  beside : Beside view vIndex result.index
  found : result.isMatch = true → view[result.index.toNat]? = some vIndex
  missing : result.isMatch = false → vIndex ∉ view

/-- What holds each time the loop begins: the place of the index is in the interval or right behind
it, where the index is not, and when nothing is left the last midpoint is beside it. -/
structure Narrowed (view : List UInt16) (vIndex lower upper midpoint : UInt16) : Prop where
  upper_lt : upper.toNat < view.length
  lower_le : lower.toNat ≤ place view vIndex
  le_upper : place view vIndex ≤ upper.toNat + 1
  behind : view[upper.toNat + 1]? ≠ some vIndex
  beside : upper < lower → Beside view vIndex midpoint

namespace Narrowed

/-- The search begins with the whole array. -/
theorem initial (hsize : view.length < 65536) (hne : view ≠ []) :
    Narrowed view vIndex 0 (UInt16.ofNat view.length - 1) 0 := by
  have hpos : 0 < view.length := List.length_pos_iff.mpr hne
  have hupper := toNat_last hsize hne
  refine ⟨by omega, Nat.zero_le _, ?_, ?_, fun hcross => ?_⟩
  · have := place_le_length view vIndex
    omega
  · rw [hupper, List.getElem?_eq_none (by omega)]
    exact (nomatch ·)
  · exact absurd (UInt16.lt_iff_toNat_lt.mp hcross) (Nat.not_lt_zero _)

/-- The upper half is searched. -/
theorem raise (h : Narrowed view vIndex lower upper midpoint) (hsize : view.length < 65536)
    (hview : view.Pairwise (· < ·)) (hle : lower ≤ upper)
    (hindex : view[(getMidpoint lower upper).toNat]? = some index) (hlt : index < vIndex) :
    Narrowed view vIndex (getMidpoint lower upper + 1) upper (getMidpoint lower upper) := by
  have hmid := toNat_getMidpoint hle
  have hle' : lower.toNat ≤ upper.toNat := UInt16.le_iff_toNat_le.mp hle
  have hupper := h.upper_lt
  have hplace : (getMidpoint lower upper).toNat < place view vIndex :=
    (lt_place_iff vIndex hview hindex).mpr hlt
  have hnext : (getMidpoint lower upper + 1).toNat = (getMidpoint lower upper).toNat + 1 := by
    rw [UInt16.toNat_add]
    exact Nat.mod_eq_of_lt (by simp only [UInt16.reduceToNat]; omega)
  refine ⟨hupper, by omega, h.le_upper, h.behind, fun hcross => ⟨by omega, .inr ?_⟩⟩
  have := UInt16.lt_iff_toNat_lt.mp hcross
  have := h.le_upper
  omega

/-- The lower half is searched; the midpoint is not the first position. -/
theorem fall (h : Narrowed view vIndex lower upper midpoint) (hview : view.Pairwise (· < ·))
    (hle : lower ≤ upper) (hindex : view[(getMidpoint lower upper).toNat]? = some index)
    (hlt : vIndex < index) (hpos : 0 < (getMidpoint lower upper).toNat) :
    Narrowed view vIndex lower (getMidpoint lower upper - 1) (getMidpoint lower upper) := by
  have hmid := toNat_getMidpoint hle
  have hle' : lower.toNat ≤ upper.toNat := UInt16.le_iff_toNat_le.mp hle
  have hupper := h.upper_lt
  have hplace : ¬ (getMidpoint lower upper).toNat < place view vIndex := by
    rw [lt_place_iff vIndex hview hindex, UInt16.lt_iff_toNat_lt]
    have := UInt16.lt_iff_toNat_lt.mp hlt
    omega
  have hone : (1 : UInt16) ≤ getMidpoint lower upper := UInt16.le_iff_toNat_le.mpr hpos
  have hnext : (getMidpoint lower upper - 1).toNat = (getMidpoint lower upper).toNat - 1 := by
    rw [UInt16.toNat_sub_of_le _ _ hone]
    rfl
  refine ⟨by omega, h.lower_le, by omega, ?_, fun hcross => ⟨by omega, .inl ?_⟩⟩
  · rw [hnext, Nat.sub_add_cancel hpos, hindex]
    rintro ⟨⟩
    exact absurd (UInt16.lt_iff_toNat_lt.mp hlt) (Nat.lt_irrefl _)
  · have := UInt16.lt_iff_toNat_lt.mp hcross
    have := h.lower_le
    omega

/-- Nothing is left: the index is not there. -/
theorem missing (h : Narrowed view vIndex lower upper midpoint) (hview : view.Pairwise (· < ·))
    (hcross : upper < lower) : vIndex ∉ view := by
  have hplace : place view vIndex = upper.toNat + 1 := by
    have := UInt16.lt_iff_toNat_lt.mp hcross
    have := h.lower_le
    have := h.le_upper
    omega
  refine notMem_of_place hview ?_
  rw [hplace]
  exact h.behind

end Narrowed

/-- The first element is not behind the index. -/
def AtOrAboveFirst (view : List UInt16) (vIndex : UInt16) : Prop :=
  ∃ first, view[0]? = some first ∧ first ≤ vIndex

/-- The interval gets shorter until the index is found or nothing is left. -/
theorem search_spec (hsize : view.length < 65536) (hview : view.Pairwise (· < ·))
    (hfirst : AtOrAboveFirst view vIndex) (fuel : Nat) (lower upper midpoint : UInt16)
    (h : Narrowed view vIndex lower upper midpoint)
    (hfuel : upper.toNat + 1 - lower.toNat < fuel) :
    ∃ result, search view vIndex fuel lower upper midpoint = some result ∧
      Closest view vIndex result := by
  induction fuel generalizing lower upper midpoint with
  | zero => omega
  | succ fuel ih =>
    unfold search
    by_cases hle : lower ≤ upper
    · have hle' : lower.toNat ≤ upper.toNat := UInt16.le_iff_toNat_le.mp hle
      have hmid := toNat_getMidpoint hle
      have hupper := h.upper_lt
      obtain ⟨index, hindex⟩ : ∃ index, view[(getMidpoint lower upper).toNat]? = some index :=
        ⟨_, List.getElem?_eq_getElem (by omega)⟩
      rw [if_pos hle]
      dsimp only
      rw [hindex]
      dsimp only
      by_cases heq : index = vIndex
      · rw [if_pos heq]
        refine ⟨_, rfl, ⟨by dsimp only; omega, .inl ?_⟩, fun _ => heq ▸ hindex, (nomatch ·)⟩
        exact eq_place hview (heq ▸ hindex)
      rw [if_neg heq]
      by_cases hlt : index < vIndex
      · have hmax : lower < 65535 := by
          rw [UInt16.lt_iff_toNat_lt]
          simp only [UInt16.reduceToNat]
          omega
        rw [if_pos hlt, if_pos hmax]
        have hraised := h.raise hsize hview hle hindex hlt
        refine ih _ _ _ hraised ?_
        have hnext : (getMidpoint lower upper + 1).toNat = (getMidpoint lower upper).toNat + 1 := by
          rw [UInt16.toNat_add]
          exact Nat.mod_eq_of_lt (by simp only [UInt16.reduceToNat]; omega)
        omega
      · have hgt : vIndex < index := by
          rw [UInt16.lt_iff_toNat_lt] at hlt ⊢
          have := mt UInt16.toNat_inj.mp heq
          omega
        have hpos : 0 < (getMidpoint lower upper).toNat := by
          obtain ⟨first, hzero, hfirst⟩ := hfirst
          refine Nat.pos_of_ne_zero fun hmid0 => ?_
          rw [hmid0, hzero] at hindex
          obtain rfl := Option.some_inj.mp hindex
          have := UInt16.le_iff_toNat_le.mp hfirst
          have := UInt16.lt_iff_toNat_lt.mp hgt
          omega
        have hupos : upper > 0 := by
          rw [gt_iff_lt, UInt16.lt_iff_toNat_lt]
          simp only [UInt16.reduceToNat]
          omega
        rw [if_neg hlt, if_pos hupos]
        refine ih _ _ _ (h.fall hview hle hindex hgt hpos) ?_
        have hone : (1 : UInt16) ≤ getMidpoint lower upper := UInt16.le_iff_toNat_le.mpr hpos
        rw [UInt16.toNat_sub_of_le _ _ hone]
        simp only [UInt16.reduceToNat]
        omega
    · rw [if_neg hle]
      have hcross : upper < lower := by
        rw [UInt16.lt_iff_toNat_lt]
        have := mt UInt16.le_iff_toNat_le.mpr hle
        omega
      exact ⟨_, rfl, h.beside hcross, (nomatch ·), fun _ => h.missing hview hcross⟩

/-! ## The search for an index below the first element -/

/-- The upper end comes to `1`. -/
def EndsAtOne (upper : Nat) : Prop := ∃ k, (upper + 2) / 2 ^ k = 3

theorem endsAtOne_one : EndsAtOne 1 := ⟨0, rfl⟩

theorem not_endsAtOne_zero : ¬ EndsAtOne 0 := by
  rintro ⟨k, hk⟩
  have := Nat.div_le_self (0 + 2) (2 ^ k)
  omega

/-- Halving does not change it. -/
theorem endsAtOne_half {upper : Nat} (h : 2 ≤ upper) :
    EndsAtOne (upper / 2 - 1) ↔ EndsAtOne upper := by
  have hhalf : upper / 2 - 1 + 2 = (upper + 2) / 2 := by omega
  constructor
  · rintro ⟨k, hk⟩
    refine ⟨k + 1, ?_⟩
    rw [Nat.pow_succ', ← Nat.div_div_eq_div_mul, ← hhalf, hk]
  · rintro ⟨k, hk⟩
    cases k with
    | zero => rw [Nat.pow_zero, Nat.div_one] at hk; omega
    | succ k =>
      refine ⟨k, ?_⟩
      rw [hhalf, Nat.div_div_eq_div_mul, ← Nat.pow_succ', hk]

/-- A power of two does not end there. -/
theorem not_endsAtOne_pow (m : Nat) : ¬ EndsAtOne (2 ^ (m + 1) - 2) := by
  induction m with
  | zero => exact not_endsAtOne_zero
  | succ m ih =>
    have hpow : 2 ^ (m + 1 + 1) = 2 * 2 ^ (m + 1) := Nat.pow_succ'
    have hpos : 2 ≤ 2 ^ (m + 1) := Nat.le_self_pow (Nat.succ_ne_zero m) 2
    rw [← endsAtOne_half (by omega)]
    rwa [show (2 ^ (m + 1 + 1) - 2) / 2 - 1 = 2 ^ (m + 1) - 2 by omega]

/-- The element at the midpoint is outside the array. -/
theorem search_outside (fuel : Nat) (hread : view.length ≤ upper.toNat / 2) :
    search view vIndex (fuel + 1) 0 upper midpoint = none := by
  have hle : (0 : UInt16) ≤ upper := UInt16.le_iff_toNat_le.mpr (Nat.zero_le _)
  have hmid : (getMidpoint 0 upper).toNat = upper.toNat / 2 := by simp [toNat_getMidpoint hle]
  rw [search, if_pos hle]
  dsimp only
  rw [List.getElem?_eq_none (by omega)]

theorem toNat_half (h : 2 ≤ upper.toNat) :
    (getMidpoint 0 upper - 1).toNat = upper.toNat / 2 - 1 := by
  have hle : (0 : UInt16) ≤ upper := UInt16.le_iff_toNat_le.mpr (Nat.zero_le _)
  have hmid : (getMidpoint 0 upper).toNat = upper.toNat / 2 := by simp [toNat_getMidpoint hle]
  have hone : (1 : UInt16) ≤ getMidpoint 0 upper := by
    rw [UInt16.le_iff_toNat_le, hmid]
    simp only [UInt16.reduceToNat]
    omega
  rw [UInt16.toNat_sub_of_le _ _ hone, hmid]
  rfl

section BelowFirst

variable (hbelow : ∀ x ∈ view, vIndex < x) (fuel : Nat)
include hbelow

/-- One turn of the loop, below the first element. -/
theorem search_half (hread : upper.toNat / 2 < view.length) :
    search view vIndex (fuel + 1) 0 upper midpoint =
      if upper > 0 then
        search view vIndex fuel 0 (getMidpoint 0 upper - 1) (getMidpoint 0 upper)
      else some ⟨false, getMidpoint 0 upper⟩ := by
  have hle : (0 : UInt16) ≤ upper := UInt16.le_iff_toNat_le.mpr (Nat.zero_le _)
  have hmid : (getMidpoint 0 upper).toNat = upper.toNat / 2 := by simp [toNat_getMidpoint hle]
  obtain ⟨index, hindex⟩ : ∃ index, view[(getMidpoint 0 upper).toNat]? = some index :=
    ⟨_, List.getElem?_eq_getElem (by omega)⟩
  have hlt := UInt16.lt_iff_toNat_lt.mp (hbelow index (List.mem_of_getElem? hindex))
  have hne : index ≠ vIndex := by
    rintro rfl
    exact Nat.lt_irrefl _ hlt
  have hnot : ¬ index < vIndex := by
    rw [UInt16.lt_iff_toNat_lt]
    omega
  rw [search, if_pos hle]
  dsimp only
  rw [hindex]
  dsimp only
  rw [if_neg hne, if_neg hnot]

theorem search_zero (hne : view ≠ []) :
    search view vIndex (fuel + 1) 0 0 midpoint = some ⟨false, 0⟩ := by
  have hread : (0 : UInt16).toNat / 2 < view.length := List.length_pos_iff.mpr hne
  rw [search_half hbelow fuel hread, if_neg (by decide)]
  rfl

/-- Upper ends that do not come to `1` come to `0`. -/
theorem search_of_not_endsAtOne (digits : Nat) (upper midpoint : UInt16)
    (hdigits : upper.toNat < 2 ^ digits) (hread : upper.toNat / 2 < view.length)
    (hfuel : digits < fuel) (hends : ¬ EndsAtOne upper.toNat) :
    search view vIndex fuel 0 upper midpoint = some ⟨false, 0⟩ := by
  have hne : view ≠ [] := List.length_pos_iff.mp (by omega)
  induction digits generalizing fuel upper midpoint with
  | zero =>
    obtain ⟨fuel, rfl⟩ : ∃ n, fuel = n + 1 := ⟨fuel - 1, by omega⟩
    obtain rfl : upper = 0 := UInt16.toNat_inj.mp (by simpa using hdigits)
    exact search_zero hbelow fuel hne
  | succ digits ih =>
    obtain ⟨fuel, rfl⟩ : ∃ n, fuel = n + 1 := ⟨fuel - 1, by omega⟩
    rcases Nat.lt_or_ge upper.toNat 2 with hsmall | hbig
    · have hzero : upper.toNat ≠ 1 := fun h => hends (h ▸ endsAtOne_one)
      obtain rfl : upper = 0 := UInt16.toNat_inj.mp (show _ = 0 by omega)
      exact search_zero hbelow fuel hne
    · have hpos : upper > 0 := UInt16.lt_iff_toNat_lt.mpr (show 0 < _ by omega)
      have hhalf := toNat_half hbig
      rw [Nat.pow_succ] at hdigits
      rw [search_half hbelow fuel hread, if_pos hpos]
      refine ih fuel _ _ (by omega) (by omega) (by omega) ?_
      rwa [hhalf, endsAtOne_half hbig]

/-- Upper ends that come to `1` wrap. -/
theorem search_of_endsAtOne (digits : Nat) (upper midpoint : UInt16)
    (hdigits : upper.toNat < 2 ^ digits) (hread : upper.toNat / 2 < view.length)
    (hfuel : digits ≤ fuel) (hends : EndsAtOne upper.toNat) :
    ∃ fuel' midpoint', fuel ≤ fuel' + digits ∧
      search view vIndex fuel 0 upper midpoint = search view vIndex fuel' 0 65535 midpoint' := by
  induction digits generalizing fuel upper midpoint with
  | zero =>
    rw [show upper.toNat = 0 by simpa using hdigits] at hends
    exact absurd hends not_endsAtOne_zero
  | succ digits ih =>
    obtain ⟨fuel, rfl⟩ : ∃ n, fuel = n + 1 := ⟨fuel - 1, by omega⟩
    have hpos : upper > 0 := by
      rw [gt_iff_lt, UInt16.lt_iff_toNat_lt]
      refine Nat.pos_of_ne_zero fun h => not_endsAtOne_zero ?_
      rwa [h] at hends
    rw [search_half hbelow fuel hread, if_pos hpos]
    rcases Nat.lt_or_ge upper.toNat 2 with hsmall | hbig
    · have hpos' : 0 < upper.toNat := UInt16.lt_iff_toNat_lt.mp hpos
      obtain rfl : upper = 1 := UInt16.toNat_inj.mp (show _ = 1 by omega)
      exact ⟨fuel, _, by omega, rfl⟩
    · have hhalf := toNat_half hbig
      rw [Nat.pow_succ] at hdigits
      obtain ⟨fuel', midpoint', hle, hsearch⟩ := ih fuel (getMidpoint 0 upper - 1)
        (getMidpoint 0 upper) (by omega) (by omega) (by omega)
        (by rwa [hhalf, endsAtOne_half hbig])
      exact ⟨fuel', midpoint', by omega, hsearch⟩

end BelowFirst

/-! ## What is found -/

/-- The search leaves the array: the index is below the first element, the binary digits of the
size plus one begin with `11`, and the array ends before the position 32767. -/
structure LeavesArray (view : List UInt16) (vIndex : UInt16) : Prop where
  below : ∀ x ∈ view, vIndex < x
  digits : ∃ k, (view.length + 1) / 2 ^ k = 3
  short : view.length ≤ 32767

theorem not_leavesArray_nil (vIndex : UInt16) : ¬ LeavesArray [] vIndex := by
  rintro ⟨-, ⟨k, hk⟩, -⟩
  have hle : (0 + 1) / 2 ^ k ≤ 0 + 1 := Nat.div_le_self _ _
  rw [List.length_nil] at hk
  omega

theorem place_of_below (hbelow : ∀ x ∈ view, vIndex < x) : place view vIndex = 0 := by
  refine List.countP_eq_zero.mpr fun n hn => ?_
  obtain ⟨x, hx, rfl⟩ := List.mem_map.mp hn
  have := UInt16.lt_iff_toNat_lt.mp (hbelow x hx)
  rw [decide_eq_true_eq]
  omega

theorem atOrAboveFirst_of_not_below (hview : view.Pairwise (· < ·))
    (hbelow : ¬ ∀ x ∈ view, vIndex < x) : AtOrAboveFirst view vIndex := by
  push Not at hbelow
  obtain ⟨x, hx, hle⟩ := hbelow
  cases view with
  | nil => cases hx
  | cons first view =>
    refine ⟨first, rfl, UInt16.le_iff_toNat_le.mpr ?_⟩
    have hle : ¬ vIndex.toNat < x.toNat := fun h => hle (UInt16.lt_iff_toNat_lt.mpr h)
    rcases List.mem_cons.mp hx with rfl | hx
    · omega
    · have := UInt16.lt_iff_toNat_lt.mp ((List.pairwise_cons.mp hview).1 x hx)
      omega

theorem findClosestRawIndex_of_ne (hne : view ≠ []) : findClosestRawIndex view vIndex =
    search view vIndex 65536 0 (UInt16.ofNat view.length - 1) 0 := by
  rw [findClosestRawIndex, if_neg]
  rwa [List.isEmpty_iff]

/-- The digits of the size are those of the first upper end. -/
theorem endsAtOne_last (hne : view ≠ []) :
    EndsAtOne (view.length - 1) ↔ ∃ k, (view.length + 1) / 2 ^ k = 3 := by
  have hpos : 0 < view.length := List.length_pos_iff.mpr hne
  rw [EndsAtOne, show view.length - 1 + 2 = view.length + 1 by omega]

/-- Behind the wrap the upper ends come to `0`. -/
theorem search_wrapped (hbelow : ∀ x ∈ view, vIndex < x) (hlong : 32767 < view.length)
    (fuel : Nat) (hfuel : 16 < fuel) :
    search view vIndex fuel 0 65535 midpoint = some ⟨false, 0⟩ := by
  obtain ⟨fuel, rfl⟩ : ∃ n, fuel = n + 1 := ⟨fuel - 1, by omega⟩
  have hread : (65535 : UInt16).toNat / 2 < view.length := by
    simp only [UInt16.reduceToNat]
    omega
  rw [search_half hbelow fuel hread, if_pos (by decide)]
  have hhalf : (getMidpoint 0 65535 - 1).toNat = 2 ^ (14 + 1) - 2 := by decide
  refine search_of_not_endsAtOne hbelow fuel 15 _ _ ?_ ?_ (by omega) ?_
  · rw [hhalf]
    omega
  · rw [hhalf]
    omega
  · rw [hhalf]
    exact not_endsAtOne_pow 14

theorem findClosestRawIndex_spec (hsize : view.length < 65536) (hview : view.Pairwise (· < ·))
    (hne : view ≠ []) (hinside : ¬ LeavesArray view vIndex) :
    ∃ result, findClosestRawIndex view vIndex = some result ∧ Closest view vIndex result := by
  have hpos : 0 < view.length := List.length_pos_iff.mpr hne
  have hlast := toNat_last hsize hne
  rw [findClosestRawIndex_of_ne hne]
  by_cases hbelow : ∀ x ∈ view, vIndex < x
  · have hclosest : Closest view vIndex ⟨false, 0⟩ :=
      ⟨⟨hpos, .inl (place_of_below hbelow).symm⟩, (nomatch ·), fun _ hmem =>
        Nat.lt_irrefl _ (UInt16.lt_iff_toNat_lt.mp (hbelow vIndex hmem))⟩
    refine ⟨_, ?_, hclosest⟩
    by_cases hends : EndsAtOne (view.length - 1)
    · have hlong : 32767 < view.length := by
        by_contra hshort
        exact hinside ⟨hbelow, (endsAtOne_last hne).mp hends, by omega⟩
      obtain ⟨fuel, midpoint, hfuel, hsearch⟩ := search_of_endsAtOne hbelow 65536 16
        (UInt16.ofNat view.length - 1) 0 (by omega) (by omega) (by omega) (by rwa [hlast])
      rw [hsearch]
      exact search_wrapped hbelow hlong fuel (by omega)
    · exact search_of_not_endsAtOne hbelow 65536 16 _ _ (by omega) (by omega) (by omega)
        (by rwa [hlast])
  · exact search_spec hsize hview (atOrAboveFirst_of_not_below hview hbelow) _ _ _ _
      (.initial hsize hne) (by rw [hlast]; omega)

/-- Below the first element of such an array the search does not come to a result. -/
theorem findClosestRawIndex_leaves (h : LeavesArray view vIndex) :
    findClosestRawIndex view vIndex = none := by
  have hne : view ≠ [] := by
    rintro rfl
    exact not_leavesArray_nil vIndex h
  have hpos : 0 < view.length := List.length_pos_iff.mpr hne
  have hshort := h.short
  have hlast := @toNat_last view (by omega) hne
  obtain ⟨fuel, midpoint, hfuel, hsearch⟩ := search_of_endsAtOne h.below 65536 16
    (UInt16.ofNat view.length - 1) 0 (by omega) (by omega) (by omega)
    (by rw [hlast, endsAtOne_last hne]; exact h.digits)
  obtain ⟨fuel, rfl⟩ : ∃ n, fuel = n + 1 := ⟨fuel - 1, by omega⟩
  rw [findClosestRawIndex_of_ne hne, hsearch]
  refine search_outside fuel ?_
  simp only [UInt16.reduceToNat]
  omega

/-! ## Ranges -/

/-- A position that is moved behind a smaller element is the first one of the range. -/
theorem first_of_range (hsize : view.length < 65536) (hview : view.Pairwise (· < ·))
    {result : Result} (h : Closest view vIndex result) {element : UInt16}
    (helement : view[result.index.toNat]? = some element) :
    result.index < 65535 ∧
      (if element < vIndex then result.index + 1 else result.index).toNat = place view vIndex := by
  have hinside := h.beside.inside
  have hmax : result.index < 65535 := by
    rw [UInt16.lt_iff_toNat_lt]
    simp only [UInt16.reduceToNat]
    omega
  refine ⟨hmax, ?_⟩
  have hplace := lt_place_iff vIndex hview helement
  split
  next hlt =>
    rw [UInt16.toNat_add, Nat.mod_eq_of_lt (by simp only [UInt16.reduceToNat]; omega)]
    have := hplace.mpr hlt
    rcases h.beside.beside with hat | hbefore
    · omega
    · exact hbefore
  next hnot =>
    have := mt hplace.mp hnot
    rcases h.beside.beside with hat | hbefore
    · exact hat
    · omega

/-- Positions are ordered like the elements. -/
theorem lt_iff_lt (hview : view.Pairwise (· < ·)) {i j : Nat} {x y : UInt16}
    (hi : view[i]? = some x) (hj : view[j]? = some y) : i < j ↔ x.toNat < y.toNat := by
  rw [eq_place hview hj, lt_place_iff _ hview hi, UInt16.lt_iff_toNat_lt]

/-- A position that is moved before a greater element is the last one of the range, unless there is
none before it. -/
theorem last_of_range (hview : view.Pairwise (· < ·)) {result : Result}
    (h : Closest view vIndex result) {element : UInt16}
    (helement : view[result.index.toNat]? = some element) :
    (element > vIndex ∧ ¬ result.index > 0 → ∀ x ∈ view, vIndex < x) ∧
    (¬ (element > vIndex ∧ ¬ result.index > 0) →
      (if element > vIndex then result.index - 1 else result.index).toNat < view.length ∧
      ∀ i x, view[i]? = some x →
        (i ≤ (if element > vIndex then result.index - 1 else result.index).toNat ↔
          x.toNat ≤ vIndex.toNat)) := by
  have hinside := h.beside.inside
  have hplace := lt_place_iff vIndex hview helement
  rw [UInt16.lt_iff_toNat_lt] at hplace
  by_cases habove : element > vIndex
  · have hgt : vIndex.toNat < element.toNat := UInt16.lt_iff_toNat_lt.mp habove
    have hat : result.index.toNat = place view vIndex := by
      rcases h.beside.beside with hat | hbefore
      · exact hat
      · omega
    constructor
    · rintro ⟨-, hzero⟩ x hx
      obtain ⟨i, hi⟩ := List.mem_iff_getElem?.mp hx
      have hle := lt_iff_lt hview hi helement
      rw [gt_iff_lt, UInt16.lt_iff_toNat_lt] at hzero
      simp only [UInt16.reduceToNat] at hzero
      rw [UInt16.lt_iff_toNat_lt]
      omega
    · intro hpos
      have hpos : 0 < result.index.toNat := by
        by_contra hzero
        exact hpos ⟨habove, fun hp => hzero (UInt16.lt_iff_toNat_lt.mp hp)⟩
      have hone : (1 : UInt16) ≤ result.index := UInt16.le_iff_toNat_le.mpr hpos
      have hprev : (result.index - 1).toNat = result.index.toNat - 1 := by
        rw [UInt16.toNat_sub_of_le _ _ hone]
        rfl
      rw [if_pos habove, hprev]
      refine ⟨by omega, fun i x hi => ?_⟩
      have hbefore := lt_place_iff vIndex hview hi
      rw [UInt16.lt_iff_toNat_lt] at hbefore
      have horder := lt_iff_lt hview hi helement
      omega
  · have hle : element.toNat ≤ vIndex.toNat := by
      have := mt UInt16.lt_iff_toNat_lt.mpr habove
      omega
    constructor
    · exact fun hboth => absurd hboth.1 habove
    · intro _
      rw [if_neg habove]
      refine ⟨hinside, fun i x hi => ?_⟩
      have hbefore := lt_place_iff vIndex hview hi
      rw [UInt16.lt_iff_toNat_lt] at hbefore
      have horder := lt_iff_lt hview helement hi
      by_cases hmatch : result.isMatch = true
      · have hfound := (h.found hmatch).symm.trans helement
        obtain rfl := Option.some_inj.mp hfound
        omega
      · have hmissing := h.missing (by simpa using hmatch)
        have hne : ∀ y ∈ view, y.toNat ≠ vIndex.toNat := by
          rintro y hy heq
          exact hmissing (UInt16.toNat_inj.mp heq ▸ hy)
        have hx := hne x (List.mem_of_getElem? hi)
        have he := hne element (List.mem_of_getElem? helement)
        rcases h.beside.beside with hat | hbeside
        · omega
        · omega

/-- The search of an index says whether it is there, and where. -/
def FindsClosest (view : List UInt16) (vIndex : UInt16) : Prop :=
  ∃ result, findClosestRawIndex view vIndex = some result ∧
    (result.isMatch = true ↔ vIndex ∈ view) ∧
    (result.isMatch = true → view[result.index.toNat]? = some vIndex)

/-- The search of a range gives the positions of the virtual indices in it. -/
def FindsRange (view : List UInt16) (range : Range) : Prop :=
  ∃ found, findRawRange view range = some found ∧
    ∀ i, found.start.toNat ≤ i ∧ i ≤ found.stop.toNat ↔
      ∃ x, view[i]? = some x ∧ range.start ≤ x ∧ x ≤ range.stop

theorem Closest.isMatch_iff {result : Result} (h : Closest view vIndex result) :
    result.isMatch = true ↔ vIndex ∈ view := by
  constructor
  · exact fun hmatch => List.mem_of_getElem? (h.found hmatch)
  · intro hmem
    by_contra hmiss
    exact h.missing (by simpa using hmiss) hmem

theorem findsClosest_iff (hsize : view.length < 65536) (hview : view.Pairwise (· < ·)) :
    FindsClosest view vIndex ↔ ¬ LeavesArray view vIndex := by
  constructor
  · rintro ⟨result, hresult, -⟩ hleaves
    rw [findClosestRawIndex_leaves hleaves] at hresult
    cases hresult
  · intro hinside
    by_cases hne : view = []
    · subst hne
      exact ⟨⟨false, 0⟩, rfl, ⟨(nomatch ·), (nomatch ·)⟩, (nomatch ·)⟩
    · obtain ⟨result, hresult, hclosest⟩ := findClosestRawIndex_spec hsize hview hne hinside
      exact ⟨result, hresult, hclosest.isMatch_iff, hclosest.found⟩

/-- No position is in the invalid range. -/
theorem findsRange_invalid {range : Range} (hraw : findRawRange view range = some .invalid)
    (hnone : ∀ x ∈ view, range.start ≤ x → ¬ x ≤ range.stop) : FindsRange view range := by
  refine ⟨_, hraw, fun i => ⟨fun h => ?_, ?_⟩⟩
  · have h1 : 1 ≤ i := h.1
    have h2 : i ≤ 0 := h.2
    omega
  · rintro ⟨x, hx, hstart, hstop⟩
    exact absurd hstop (hnone x (List.mem_of_getElem? hx) hstart)

/-- Below the first element there is nothing of a range that ends there. -/
theorem LeavesArray.mono {v w : UInt16} (h : LeavesArray view w) (hle : v.toNat ≤ w.toNat) :
    LeavesArray view v := by
  refine ⟨fun x hx => ?_, h.digits, h.short⟩
  have := UInt16.lt_iff_toNat_lt.mp (h.below x hx)
  rw [UInt16.lt_iff_toNat_lt]
  omega

/-- The two ends of a range, found in an array that is not empty. -/
theorem findsRange_of_closest (hsize : view.length < 65536) (hview : view.Pairwise (· < ·))
    {range : Range} (hvalid : range.isValid = true) (hne : view ≠ []) {start stop : Result}
    (hstart : findClosestRawIndex view range.start = some start)
    (hstop : findClosestRawIndex view range.stop = some stop)
    (hfirst : Closest view range.start start) (hlast : Closest view range.stop stop) :
    FindsRange view range := by
  have helement : ∀ {i : Nat}, i < view.length → view[i]? = some (view.getD i 0) := by
    intro i hi
    rw [List.getD_eq_getElem?_getD, List.getElem?_eq_getElem hi, Option.getD_some]
  obtain ⟨hmax, hbegin⟩ := first_of_range hsize hview hfirst (helement hfirst.beside.inside)
  obtain ⟨hnone, hend⟩ := last_of_range hview hlast (helement hlast.beside.inside)
  have hraw : findRawRange view range =
      if view.getD stop.index.toNat 0 > range.stop ∧ ¬ stop.index > 0 then some .invalid
      else if (if view.getD start.index.toNat 0 < range.start then start.index + 1
            else start.index).toNat < view.length ∧
          (if view.getD stop.index.toNat 0 > range.stop then stop.index - 1
            else stop.index).toNat < view.length then
        some { start := if view.getD start.index.toNat 0 < range.start then start.index + 1
                else start.index
               stop := if view.getD stop.index.toNat 0 > range.stop then stop.index - 1
                else stop.index }
      else some .invalid := by
    rw [findRawRange, if_pos ⟨hvalid, by rwa [List.isEmpty_iff]⟩, hstart, hstop]
    dsimp only
    rw [if_neg fun h => h.2 hmax]
  have hbefore : ∀ i x, view[i]? = some x →
      ((if view.getD start.index.toNat 0 < range.start then start.index + 1
        else start.index).toNat ≤ i ↔ range.start.toNat ≤ x.toNat) := by
    intro i x hi
    have := lt_place_iff range.start hview hi
    rw [UInt16.lt_iff_toNat_lt] at this
    omega
  by_cases habove : view.getD stop.index.toNat 0 > range.stop ∧ ¬ stop.index > 0
  · rw [if_pos habove] at hraw
    refine findsRange_invalid hraw fun x hx _ hle => ?_
    have := UInt16.lt_iff_toNat_lt.mp (hnone habove x hx)
    have := UInt16.le_iff_toNat_le.mp hle
    omega
  · obtain ⟨hinside, hupto⟩ := hend habove
    rw [if_neg habove] at hraw
    by_cases hin : (if view.getD start.index.toNat 0 < range.start then start.index + 1
            else start.index).toNat < view.length
    · rw [if_pos ⟨hin, hinside⟩] at hraw
      refine ⟨_, hraw, fun i => ⟨fun h => ?_, ?_⟩⟩
      · have hi : i < view.length := Nat.lt_of_le_of_lt h.2 hinside
        refine ⟨_, helement hi, UInt16.le_iff_toNat_le.mpr ((hbefore i _ (helement hi)).mp h.1),
          UInt16.le_iff_toNat_le.mpr ((hupto i _ (helement hi)).mp h.2)⟩
      · rintro ⟨x, hi, hlo, hhi⟩
        exact ⟨(hbefore i x hi).mpr (UInt16.le_iff_toNat_le.mp hlo),
          (hupto i x hi).mpr (UInt16.le_iff_toNat_le.mp hhi)⟩
    · rw [if_neg fun h => hin h.1] at hraw
      refine findsRange_invalid hraw fun x hx hle _ => ?_
      obtain ⟨i, hi⟩ := List.mem_iff_getElem?.mp hx
      have hle := (hbefore i x hi).mpr (UInt16.le_iff_toNat_le.mp hle)
      have := (List.getElem?_eq_some_iff.mp hi).1
      omega

theorem findsRange_iff (hsize : view.length < 65536) (hview : view.Pairwise (· < ·))
    (range : Range) :
    FindsRange view range ↔ ¬ (range.isValid = true ∧ LeavesArray view range.start) := by
  constructor
  · rintro ⟨found, hfound, -⟩ ⟨hvalid, hleaves⟩
    have hne : ¬ view.isEmpty = true := by
      rw [List.isEmpty_iff]
      rintro rfl
      exact not_leavesArray_nil _ hleaves
    rw [findRawRange, if_pos ⟨hvalid, hne⟩, findClosestRawIndex_leaves hleaves] at hfound
    cases hfound
  · intro hinside
    by_cases hvalid : range.isValid = true
    · have horder : range.start.toNat ≤ range.stop.toNat :=
        UInt16.le_iff_toNat_le.mp (of_decide_eq_true hvalid)
      by_cases hne : view = []
      · subst hne
        refine findsRange_invalid ?_ fun x hx => by cases hx
        rw [findRawRange, if_neg fun h => h.2 rfl]
      · obtain ⟨start, hstart, hfirst⟩ := findClosestRawIndex_spec hsize hview hne
          fun hleaves => hinside ⟨hvalid, hleaves⟩
        obtain ⟨stop, hstop, hlast⟩ := findClosestRawIndex_spec hsize hview hne
          fun hleaves => hinside ⟨hvalid, hleaves.mono horder⟩
        exact findsRange_of_closest hsize hview hvalid hne hstart hstop hfirst hlast
    · refine findsRange_invalid ?_ fun x _ hlo hhi => hvalid (decide_eq_true ?_)
      · rw [findRawRange, if_neg fun h => hvalid h.1]
      · have := UInt16.le_iff_toNat_le.mp hlo
        have := UInt16.le_iff_toNat_le.mp hhi
        rw [UInt16.le_iff_toNat_le]
        omega

end IndexSearch

/-! ## Updates of points with their own indices -/

namespace DatabaseBuffers

open IndexSearch

variable {db : DatabaseBuffers} {t : StaticType} {index : UInt16}

/-- The points with the index are changed by the function, and nothing else is. -/
structure Touches (db : DatabaseBuffers) (t : StaticType) (index : UInt16)
    (f : Cell t → Cell t) (db' : DatabaseBuffers) : Prop where
  cells : (db'.buffers t).cells =
    (db.buffers t).cells.map fun c => if c.vIndex = index then f c else c
  others : ∀ t' ≠ t, db'.buffers t' = db.buffers t'
  ranges : db'.ranges = db.ranges
  class0 : db'.class0 = db.class0
  indexMode : db'.indexMode = db.indexMode
  lost : db'.lost = db.lost

/-- A change of a point does what it should: its search comes to an end, and either it touches the
point with the index and passes on what there is to record of it, or there is no such point and it
says so. -/
structure ChangesPoint (db : DatabaseBuffers) (t : StaticType) (index : UInt16)
    (change : Cell t → Cell t × Option EventUpdate)
    (result : DatabaseBuffers × Option EventUpdate × Bool) : Prop where
  ends : FindsClosest (db.buffers t).vIndices index
  present : ∀ c ∈ (db.buffers t).cells, c.vIndex = index →
    Touches db t index (fun c => (change c).1) result.1 ∧ result.2 = ((change c).2, true)
  missing : (∀ c ∈ (db.buffers t).cells, c.vIndex ≠ index) → result = (db, none, false)

/-- `Update` and `Modify` are one search and one change of the point that is found. -/
def changeAt (db : DatabaseBuffers) (t : StaticType) (index : UInt16)
    (value : Cell t → t.Value) (mode : EventMode) : DatabaseBuffers × Option EventUpdate × Bool :=
  match db.getRawIndex t index with
  | none => ({ db with lost := true }, none, false)
  | some rawIndex =>
    match (db.buffers t).cells[rawIndex.toNat]? with
    | some c => (db.updateAt t rawIndex (value c) mode, (c.updateAny (value c) mode).2, true)
    | none => (db, none, false)

theorem update_eq (db : DatabaseBuffers) (value : t.Value) (mode : EventMode) :
    db.update t value index mode = db.changeAt t index (fun _ => value) mode := rfl

theorem modify_eq (db : DatabaseBuffers) (modify : t.Value → t.Value) (mode : EventMode) :
    db.modify t modify index mode = db.changeAt t index (fun c => modify c.value) mode := rfl

/-- The cell at a position is the one with its virtual index. -/
theorem touches_updateAt {rawIndex : UInt16} {c : Cell t} (value : Cell t → t.Value)
    (mode : EventMode) (hc : (db.buffers t).cells[rawIndex.toNat]? = some c)
    (hindex : c.vIndex = index) :
    Touches db t index (fun c => (c.updateAny (value c) mode).1)
      (db.updateAt t rawIndex (value c) mode) := by
  refine ⟨?_, fun t' ht' => Function.update_of_ne ht' _ _, rfl, rfl, rfl, rfl⟩
  have hbuffer : (db.updateAt t rawIndex (value c) mode).buffers t =
      (db.buffers t).updateRange { start := rawIndex, stop := rawIndex }
        (fun c' => (c'.updateAny (value c) mode).1)
        fun c' => c'.vIndex_updateAny (value c) mode := Function.update_self _ _ _
  rw [hbuffer]
  ext1 i
  rw [StaticBuffer.getElem?_updateRange, List.getElem?_map]
  have hposition : ∀ {j : Nat} {d : Cell t}, (db.buffers t).cells[j]? = some d →
      j = place (db.buffers t).vIndices d.vIndex := fun hd =>
    eq_place (db.buffers t).increasing (by rw [List.getElem?_map, hd, Option.map_some])
  by_cases hi : i = rawIndex.toNat
  · subst hi
    rw [if_pos ⟨Nat.le_refl _, Nat.le_refl _⟩, hc]
    simp only [Option.map_some, hindex, if_pos]
  · rw [if_neg fun h => hi (Nat.le_antisymm h.2 h.1)]
    cases hd : (db.buffers t).cells[i]? with
    | none => rfl
    | some d =>
      have hne : d.vIndex ≠ index := by
        rintro rfl
        exact hi ((hposition hd).trans (hindex ▸ (hposition hc).symm))
      simp only [Option.map_some, if_neg hne]

variable (t index) in
/-- The search of a database with its own indices. -/
theorem getRawIndex_eq (hmode : db.indexMode = .discontiguous) : db.getRawIndex t index =
    (findClosestRawIndex (db.buffers t).vIndices index).map fun result =>
      if result.isMatch then result.index else 65535 := by
  rw [getRawIndex, hmode]

theorem changesPoint_iff (hmode : db.indexMode = .discontiguous)
    (value : Cell t → t.Value) (mode : EventMode) :
    db.ChangesPoint t index (fun c => c.updateAny (value c) mode)
        (db.changeAt t index value mode) ↔
      ¬ LeavesArray (db.buffers t).vIndices index := by
  have hsize : (db.buffers t).vIndices.length < 65536 := by
    rw [List.length_map]
    exact (db.buffers t).length_lt
  have hiff := @findsClosest_iff _ index hsize (db.buffers t).increasing
  constructor
  · exact fun h => hiff.mp h.ends
  · intro hinside
    have hends := hiff.mpr hinside
    obtain ⟨result, hresult, hmatch, hfound⟩ := id hends
    have hraw := getRawIndex_eq t index hmode
    rw [hresult, Option.map_some] at hraw
    refine ⟨hends, fun c hc hindex => ?_, fun hnone => ?_⟩
    · have hmatched := hmatch.mpr (List.mem_map.mpr ⟨c, hc, hindex⟩)
      rw [if_pos hmatched] at hraw
      obtain ⟨i, hi⟩ := List.mem_iff_getElem?.mp hc
      have hposition : i = result.index.toNat := by
        rw [eq_place (db.buffers t).increasing (hfound hmatched)]
        exact eq_place (db.buffers t).increasing
          (by rw [List.getElem?_map, hi, Option.map_some, hindex])
      rw [hposition] at hi
      unfold changeAt
      rw [hraw]
      dsimp only
      rw [hi]
      exact ⟨touches_updateAt value mode hi hindex, rfl⟩
    · have hmiss : ¬ result.isMatch = true := by
        intro hmatched
        obtain ⟨c, hc, hindex⟩ := List.mem_map.mp (hmatch.mp hmatched)
        exact hnone c hc hindex
      rw [if_neg hmiss] at hraw
      have hlen := (db.buffers t).length_lt
      unfold changeAt
      rw [hraw]
      dsimp only
      rw [List.getElem?_eq_none (by simp only [UInt16.reduceToNat]; omega)]

end DatabaseBuffers

/-! ## Where the search is right -/

/-- An array whose search for an index ends outside of it finds nothing; in all others the search
of an index, the search of a range, and updates and modifications of points are right. -/
theorem indexSearch_iff (db : DatabaseBuffers) (t : StaticType) :
    (∀ vIndex, IndexSearch.FindsClosest (db.buffers t).vIndices vIndex ↔
      ¬ IndexSearch.LeavesArray (db.buffers t).vIndices vIndex) ∧
    (∀ range, IndexSearch.FindsRange (db.buffers t).vIndices range ↔
      ¬ (range.isValid = true ∧
        IndexSearch.LeavesArray (db.buffers t).vIndices range.start)) ∧
    (db.indexMode = .discontiguous → ∀ index mode,
      (∀ value, db.ChangesPoint t index (fun c => c.updateAny value mode)
          (db.update t value index mode) ↔
        ¬ IndexSearch.LeavesArray (db.buffers t).vIndices index) ∧
      (∀ modify, db.ChangesPoint t index (fun c => c.updateAny (modify c.value) mode)
          (db.modify t modify index mode) ↔
        ¬ IndexSearch.LeavesArray (db.buffers t).vIndices index)) := by
  have hsize : (db.buffers t).vIndices.length < 65536 := by
    rw [List.length_map]
    exact (db.buffers t).length_lt
  refine ⟨fun vIndex => IndexSearch.findsClosest_iff hsize (db.buffers t).increasing,
    IndexSearch.findsRange_iff hsize (db.buffers t).increasing, fun hmode index mode => ⟨?_, ?_⟩⟩
  · intro value
    rw [DatabaseBuffers.update_eq]
    exact DatabaseBuffers.changesPoint_iff hmode (fun _ => value) mode
  · intro modify
    rw [DatabaseBuffers.modify_eq]
    exact DatabaseBuffers.changesPoint_iff hmode (fun c => modify c.value) mode

/-- Two points with their default indices; the second one is updated. -/
theorem indexSearch_iff_second :
    let db := DatabaseBuffers.ofTemplate (fun _ => 2) .allTypes .discontiguous
    db.ChangesPoint .binary 1 (fun c => c.updateAny StaticType.binary.initial .detect)
      (db.update .binary StaticType.binary.initial 1 .detect) :=
  (((indexSearch_iff (DatabaseBuffers.ofTemplate (fun _ => 2) .allTypes .discontiguous) .binary).2.2
    rfl 1 .detect).1 StaticType.binary.initial).mpr fun h =>
      absurd (h.below 0 (by decide +kernel)) (by decide)

/-- With two points at 1 and 3, the search for the index 0 leaves the array, and so does the one for
a range that begins there. -/
theorem not_indexSearch_below_first :
    List.Pairwise (· < ·) [(1 : UInt16), 3] ∧
      ¬ IndexSearch.FindsClosest [1, 3] 0 ∧ ¬ IndexSearch.FindsRange [1, 3] ⟨0, 3⟩ := by
  have hnone : IndexSearch.findClosestRawIndex [1, 3] 0 = none := by decide +kernel
  have hrange : IndexSearch.findRawRange [1, 3] ⟨0, 3⟩ = none := by decide +kernel
  refine ⟨by decide, ?_, ?_⟩
  · rintro ⟨result, hresult, -⟩
    rw [hnone] at hresult
    cases hresult
  · rintro ⟨found, hfound, -⟩
    rw [hrange] at hfound
    cases hfound

end Outstation
end Dnp3
