import Mathlib.Data.List.Basic

/-!
# Filling until full

Something that takes items one at a time and may refuse one (a bounded buffer, a fragment, an
output window) is fed a list until the first refusal.  `fill` counts the items taken;
`fill_invariant` carries an invariant of the items taken so far through the whole run.

The result is a pair of the state and the number of items that were taken, and what happens to the
state at the refused item is part of it: a writer may have begun something that it cannot finish.
`fill_taken` and `fill_refused` are the two steps of the loop, and `refused_of_fill` tells a caller
that nothing was taken because already the first item was refused.
-/

namespace Dnp3
namespace Library

variable {σ α : Type*}

/-- Offer items until one is refused: the state afterwards and the number of items taken. -/
def fill (offer : σ → α → σ × Bool) : σ → List α → σ × Nat
  | s, [] => (s, 0)
  | s, a :: as =>
    match offer s a with
    | (s, true) => ((fill offer s as).1, (fill offer s as).2 + 1)
    | (s, false) => (s, 0)

variable {offer : σ → α → σ × Bool}

theorem fill_taken {s s' : σ} {a : α} (as : List α) (h : offer s a = (s', true)) :
    fill offer s (a :: as) = ((fill offer s' as).1, (fill offer s' as).2 + 1) := by
  rw [fill, h]

theorem fill_refused {s s' : σ} {a : α} (as : List α) (h : offer s a = (s', false)) :
    fill offer s (a :: as) = (s', 0) := by
  rw [fill, h]

/-- Nothing is taken when everything is refused. -/
theorem fill_of_refuses {s : σ} (as : List α) (h : ∀ a, (offer s a).2 = false) :
    (fill offer s as).2 = 0 := by
  cases as with
  | nil => rfl
  | cons a as =>
    rcases hs : offer s a with ⟨s', taken⟩
    have htaken : taken = false := by
      rw [← h a, hs]
    subst htaken
    rw [fill_refused as hs]

/-- When nothing is taken, the first item was refused. -/
theorem refused_of_fill {s : σ} {a : α} {as : List α} (h : (fill offer s (a :: as)).2 = 0) :
    (offer s a).2 = false := by
  rcases hs : offer s a with ⟨s', taken⟩
  cases taken with
  | true =>
    rw [fill_taken as hs] at h
    cases h
  | false => rfl

/-- Items that are offered through a map. -/
theorem fill_map {β : Type*} (f : β → α) (s : σ) (bs : List β) :
    fill (fun s b => offer s (f b)) s bs = fill offer s (bs.map f) := by
  induction bs generalizing s with
  | nil => rfl
  | cons b bs ih =>
    rw [List.map_cons, fill, fill]
    split
    next s' hs => rw [ih s']
    next s' hs => rfl

theorem fill_le_length (offer : σ → α → σ × Bool) (s : σ) (as : List α) :
    (fill offer s as).2 ≤ as.length := by
  induction as generalizing s with
  | nil => exact Nat.le_refl 0
  | cons a as ih =>
    rcases hs : offer s a with ⟨s', taken⟩
    cases taken with
    | true =>
      rw [fill_taken as hs]
      exact Nat.succ_le_succ (ih s')
    | false =>
      rw [fill_refused as hs]
      exact Nat.zero_le _

/-- An invariant of the items taken, kept by taking one more and by a refusal, holds at the end of
the items that were taken. -/
theorem fill_invariant {I : σ → List α → Prop}
    (taken : ∀ {s s' a acc}, I s acc → offer s a = (s', true) → I s' (acc ++ [a]))
    (refused : ∀ {s s' a acc}, I s acc → offer s a = (s', false) → I s' acc)
    {s : σ} {acc : List α} (as : List α) (hs : I s acc) :
    I (fill offer s as).1 (acc ++ as.take (fill offer s as).2) := by
  induction as generalizing s acc with
  | nil => simpa [fill] using hs
  | cons a as ih =>
    rcases ho : offer s a with ⟨s', b⟩
    cases b with
    | true =>
      have := ih (taken hs ho)
      rw [fill_taken as ho, List.take_succ_cons]
      rwa [List.append_assoc, List.singleton_append] at this
    | false =>
      rw [fill_refused as ho, List.take_zero, List.append_nil]
      exact refused hs ho

end Library
end Dnp3
