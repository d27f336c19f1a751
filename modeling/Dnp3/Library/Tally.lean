import Mathlib.Data.List.Basic

/-!
# Counters that follow the flags of a list

A container often keeps, beside its items, how many of them satisfy a predicate: in total, and by
some classification of the items.  `Tallies` says that a family of counters is right, and the lemmas
say how the counters have to move when one item of the list changes, appears or disappears.

`modifyFirst` changes the first items of a list that satisfy a predicate, up to a bound.
-/

namespace Dnp3
namespace Library

variable {α κ : Type*}

/-! ## Tallies -/

/-- For every key, the counter is the number of items that satisfy `p` and that the key covers. -/
def Tallies (covers : κ → α → Bool) (p : α → Bool) (count : κ → Nat) (l : List α) : Prop :=
  ∀ k, count k = l.countP fun a => p a && covers k a

section Tallies

variable {covers : κ → α → Bool} {p : α → Bool} {count count' : κ → Nat} {a a' : α}
  {l xs ys : List α}

/-- Only the flags and the keys of the items matter. -/
theorem Tallies.of_map_eq {β : Type*} {g : α → β} (h : Tallies covers p count l)
    (hg : ∀ {a a'}, g a = g a' → p a = p a' ∧ ∀ k, covers k a = covers k a')
    (hl : xs.map g = l.map g) : Tallies covers p count xs := by
  intro k
  have hcount : ∀ (xs l : List α), xs.map g = l.map g →
      xs.countP (fun a => p a && covers k a) = l.countP (fun a => p a && covers k a) := by
    intro xs
    induction xs with
    | nil =>
      intro l hl
      rw [List.map_nil, eq_comm, List.map_eq_nil_iff] at hl
      rw [hl]
    | cons a xs ih =>
      intro l hl
      cases l with
      | nil => cases hl
      | cons b l =>
        obtain ⟨hab, hl⟩ := List.cons.inj hl
        obtain ⟨hp, hk⟩ := hg hab
        rw [List.countP_cons, List.countP_cons, ih l hl, hp, hk k]
  rw [h k, hcount xs l hl]

/-- A counter does not exceed the number of items. -/
theorem Tallies.le_length (h : Tallies covers p count l) (k : κ) : count k ≤ l.length := by
  rw [h k]
  exact List.countP_le_length

/-- What an item contributes to the counter of a key. -/
def weight (covers : κ → α → Bool) (p : α → Bool) (a : α) (k : κ) : Nat :=
  if p a && covers k a then 1 else 0

theorem countP_middle (q : α → Bool) (xs ys : List α) (a : α) :
    (xs ++ a :: ys).countP q = (xs ++ ys).countP q + if q a then 1 else 0 := by
  rw [List.countP_append, List.countP_append, List.countP_cons, Nat.add_assoc]

/-- An item is added or removed. -/
theorem tallies_middle :
    Tallies covers p count (xs ++ a :: ys) ↔
      ∀ k, count k = (xs ++ ys).countP (fun a => p a && covers k a) + weight covers p a k := by
  refine forall_congr' fun k => ?_
  rw [countP_middle]
  rfl

/-- One item changes, and every counter moves by the difference of the contributions. -/
theorem Tallies.set (h : Tallies covers p count (xs ++ a :: ys))
    (hcount : ∀ k, count' k + weight covers p a k = count k + weight covers p a' k) :
    Tallies covers p count' (xs ++ a' :: ys) := by
  rw [tallies_middle] at h ⊢
  intro k
  have := hcount k
  have := h k
  omega

/-- One item is removed. -/
theorem Tallies.remove (h : Tallies covers p count (xs ++ a :: ys))
    (hcount : ∀ k, count' k + weight covers p a k = count k) :
    Tallies covers p count' (xs ++ ys) := by
  rw [tallies_middle] at h
  intro k
  have := hcount k
  have := h k
  omega

/-- An item in the list contributes. -/
theorem Tallies.weight_le (h : Tallies covers p count (xs ++ a :: ys)) (k : κ) :
    weight covers p a k ≤ count k := by
  rw [tallies_middle] at h
  rw [h k]
  exact Nat.le_add_left _ _

/-- One item is appended. -/
theorem Tallies.concat (h : Tallies covers p count l)
    (hcount : ∀ k, count' k = count k + weight covers p a k) :
    Tallies covers p count' (l ++ [a]) := by
  rw [tallies_middle]
  intro k
  rw [hcount k, h k, List.append_nil]

end Tallies

/-! ## The first items that match -/

/-- Change the first `n` items that satisfy `p`. -/
def modifyFirst (p : α → Bool) (f : α → α) : Nat → List α → List α
  | _, [] => []
  | 0, l => l
  | n + 1, a :: l => if p a then f a :: modifyFirst p f n l else a :: modifyFirst p f (n + 1) l

section ModifyFirst

variable {p q : α → Bool} {f : α → α}

@[simp] theorem modifyFirst_nil (n : Nat) : modifyFirst p f n [] = [] := by
  cases n <;> rfl

@[simp] theorem modifyFirst_zero (l : List α) : modifyFirst p f 0 l = l := by
  cases l <;> rfl

theorem modifyFirst_pos {a : α} (n : Nat) (l : List α) (h : p a = true) :
    modifyFirst p f (n + 1) (a :: l) = f a :: modifyFirst p f n l := by
  rw [modifyFirst, if_pos h]

theorem modifyFirst_neg {a : α} (n : Nat) (l : List α) (h : p a = false) :
    modifyFirst p f n (a :: l) = a :: modifyFirst p f n l := by
  cases n with
  | zero => rw [modifyFirst_zero, modifyFirst_zero]
  | succ n => rw [modifyFirst, if_neg (by rw [h]; exact Bool.false_ne_true)]

@[simp] theorem length_modifyFirst (n : Nat) (l : List α) :
    (modifyFirst p f n l).length = l.length := by
  induction l generalizing n with
  | nil => rw [modifyFirst_nil]
  | cons a l ih =>
    cases hp : p a with
    | false => rw [modifyFirst_neg n l hp, List.length_cons, ih, List.length_cons]
    | true =>
      cases n with
      | zero => rw [modifyFirst_zero]
      | succ n => rw [modifyFirst_pos n l hp, List.length_cons, ih, List.length_cons]

/-- With a large enough bound every item that matches is changed. -/
theorem modifyFirst_eq_map {n : Nat} {l : List α} (h : l.countP p ≤ n) :
    modifyFirst p f n l = l.map fun a => if p a then f a else a := by
  induction l generalizing n with
  | nil => rw [modifyFirst_nil, List.map_nil]
  | cons a l ih =>
    cases hp : p a with
    | false =>
      rw [List.countP_cons_of_neg (by rw [hp]; exact Bool.false_ne_true)] at h
      rw [modifyFirst_neg n l hp, List.map_cons, ih h, hp]
      rfl
    | true =>
      rw [List.countP_cons_of_pos hp] at h
      obtain ⟨m, rfl⟩ : ∃ m, n = m + 1 := ⟨n - 1, by omega⟩
      rw [modifyFirst_pos m l hp, List.map_cons, ih (by omega), hp]
      rfl

/-- What a change does not affect is mapped as before. -/
theorem map_modifyFirst {β : Type*} {g : α → β} (hg : ∀ a, g (f a) = g a) (n : Nat) (l : List α) :
    (modifyFirst p f n l).map g = l.map g := by
  induction l generalizing n with
  | nil => rw [modifyFirst_nil]
  | cons a l ih =>
    cases hp : p a with
    | false => rw [modifyFirst_neg n l hp, List.map_cons, ih, List.map_cons]
    | true =>
      cases n with
      | zero => rw [modifyFirst_zero]
      | succ n => rw [modifyFirst_pos n l hp, List.map_cons, ih, List.map_cons, hg]

theorem mem_modifyFirst {a : α} {n : Nat} {l : List α} (h : a ∈ modifyFirst p f n l) :
    a ∈ l ∨ ∃ a' ∈ l, p a' = true ∧ a = f a' := by
  induction l generalizing n with
  | nil =>
    rw [modifyFirst_nil] at h
    exact .inl h
  | cons b l ih =>
    have hrest : ∀ m, a ∈ modifyFirst p f m l →
        a ∈ b :: l ∨ ∃ a' ∈ b :: l, p a' = true ∧ a = f a' := by
      intro m hm
      rcases ih hm with hl | ⟨a', hl, hp, rfl⟩
      · exact .inl (List.mem_cons_of_mem b hl)
      · exact .inr ⟨a', List.mem_cons_of_mem b hl, hp, rfl⟩
    cases hp : p b with
    | false =>
      rw [modifyFirst_neg n l hp] at h
      rcases List.mem_cons.mp h with rfl | h
      · exact .inl List.mem_cons_self
      · exact hrest n h
    | true =>
      cases n with
      | zero =>
        rw [modifyFirst_zero] at h
        exact .inl h
      | succ n =>
        rw [modifyFirst_pos n l hp] at h
        rcases List.mem_cons.mp h with rfl | h
        · exact .inr ⟨b, List.mem_cons_self, hp, rfl⟩
        · exact hrest n h

/-- Changing the first items that match is changing the first of them that also satisfy `q`, exactly
when the former include all the latter and are otherwise fixed. -/
theorem modifyFirst_eq_iff (hf : ∀ a, q a = true → f a ≠ a) (n m : Nat) (l : List α) :
    modifyFirst p f n l = modifyFirst (fun a => p a && q a) f m l ↔
      (∀ a ∈ (l.filter p).take n, q a = false → f a = a) ∧
        ((l.filter p).take n).filter q = (l.filter fun a => p a && q a).take m := by
  induction l generalizing n m with
  | nil => simp
  | cons a l ih =>
    cases hp : p a with
    | false =>
      rw [modifyFirst_neg n l hp, modifyFirst_neg m l (by rw [hp]; rfl),
        List.filter_cons_of_neg (by rw [hp]; exact Bool.false_ne_true),
        List.filter_cons_of_neg (by rw [hp]; exact Bool.false_ne_true), List.cons.injEq]
      exact (and_iff_right rfl).trans (ih n m)
    | true =>
      rw [List.filter_cons_of_pos hp]
      cases hq : q a with
      | true =>
        have hpq : (p a && q a) = true := by rw [hp, hq]; rfl
        rw [List.filter_cons_of_pos (p := fun a => p a && q a) hpq]
        cases n with
        | zero =>
          cases m with
          | zero => simp
          | succ m =>
            rw [modifyFirst_zero, modifyFirst_pos m l hpq]
            simp [(hf a hq).symm]
        | succ n =>
          cases m with
          | zero =>
            rw [modifyFirst_zero, modifyFirst_pos n l hp]
            simp [hf a hq, hq]
          | succ m =>
            rw [modifyFirst_pos n l hp, modifyFirst_pos m l hpq, List.take_succ_cons,
              List.take_succ_cons, List.filter_cons_of_pos hq, List.cons.injEq, List.cons.injEq,
              List.forall_mem_cons, hq, ih n m]
            simp
      | false =>
        have hpq : (p a && q a) = false := by rw [hp, hq]; rfl
        rw [modifyFirst_neg m l hpq, List.filter_cons_of_neg (p := fun a => p a && q a)
          (by rw [hpq]; exact Bool.false_ne_true)]
        cases n with
        | zero =>
          have hzero := ih 0 m
          rw [modifyFirst_zero, List.take_zero] at hzero ⊢
          rw [List.cons.injEq]
          exact (and_iff_right rfl).trans hzero
        | succ n =>
          rw [modifyFirst_pos n l hp, List.take_succ_cons,
            List.filter_cons_of_neg (by rw [hq]; exact Bool.false_ne_true), List.cons.injEq,
            List.forall_mem_cons, ih n m, and_assoc]
          refine and_congr_left fun _ => ?_
          rw [forall_prop_of_true hq]

end ModifyFirst

end Library
end Dnp3
