import Mathlib.Data.List.Basic

/-!
# Selection by a running best

A scan of a list that keeps the best element so far, under a relation that need not be transitive.
Where the list has elements that win against all others, the scan ends with one of them, in
whatever order it meets them.

A scheduler that looks for the next task this way can miss the task it should find: an element that
beats the best one so far need not beat what that one has beaten.  What can be said without
transitivity is about *winners*, elements that beat everything else and are beaten by nothing else.
If there is one, the scan ends with a winner (`runningBest_winner`), wherever it stands in the list.
-/

namespace Dnp3
namespace Library

variable {α β : Type*} {beats : α → α → Bool}

/-- The best element so far is replaced by each later one that beats it. -/
def runningBest (beats : α → α → Bool) (best : α) (xs : List α) : α :=
  xs.foldl (fun b x => if beats x b then x else b) best

@[simp] theorem runningBest_nil (best : α) : runningBest beats best [] = best := rfl

@[simp] theorem runningBest_cons (best x : α) (xs : List α) :
    runningBest beats best (x :: xs) = runningBest beats (if beats x best then x else best) xs :=
  rfl

theorem runningBest_mem (beats : α → α → Bool) (best : α) (xs : List α) :
    runningBest beats best xs ∈ best :: xs := by
  induction xs generalizing best with
  | nil => exact List.mem_singleton_self best
  | cons x xs ih =>
    rw [runningBest_cons]
    by_cases hx : beats x best
    · rw [if_pos hx]
      exact List.mem_cons_of_mem best (ih x)
    · rw [if_neg hx]
      rcases List.mem_cons.mp (ih best) with h | h
      · exact List.mem_cons.mpr (.inl h)
      · exact List.mem_cons_of_mem best (List.mem_cons_of_mem x h)

/-- A scan that has one of the winners as its best keeps one, as nothing else beats a winner. -/
theorem runningBest_keeps {W : α → Prop} {best : α} {xs : List α} (hbest : W best)
    (hun : ∀ w x, W w → x ∈ xs → ¬ W x → beats x w = false) :
    W (runningBest beats best xs) := by
  induction xs generalizing best with
  | nil => exact hbest
  | cons x xs ih =>
    rw [runningBest_cons]
    refine ih ?_ fun w y hw hy => hun w y hw (List.mem_cons_of_mem x hy)
    split
    · rename_i hx
      by_contra hW
      simp [hun best x hbest List.mem_cons_self hW] at hx
    · exact hbest

/-- The scan ends with a winner when there is one: a winner beats everything else, and nothing else
beats a winner. -/
theorem runningBest_winner {W : α → Prop} {best : α} {xs : List α}
    (hex : ∃ w ∈ best :: xs, W w)
    (hun : ∀ w x, W w → x ∈ best :: xs → ¬ W x → beats x w = false ∧ beats w x = true) :
    W (runningBest beats best xs) := by
  by_cases hbest : W best
  · exact runningBest_keeps hbest fun w x hw hx hW => (hun w x hw (List.mem_cons_of_mem _ hx) hW).1
  · induction xs generalizing best with
    | nil =>
      obtain ⟨w, hw, hW⟩ := hex
      rw [List.mem_singleton] at hw
      exact absurd (hw ▸ hW) hbest
    | cons x xs ih =>
      rw [runningBest_cons]
      by_cases hx : W x
      · rw [if_pos (hun x best hx List.mem_cons_self hbest).2]
        refine runningBest_keeps hx fun w y hw hy hW => (hun w y hw ?_ hW).1
        exact List.mem_cons_of_mem best (List.mem_cons_of_mem x hy)
      · obtain ⟨w, hw, hW⟩ := hex
        have hw' : w ∈ xs := by
          rcases List.mem_cons.mp hw with rfl | hw
          · exact absurd hW hbest
          · exact (List.mem_cons.mp hw).resolve_left fun h => hx (h ▸ hW)
        have hb : ¬ W (if beats x best then x else best) := by split <;> assumption
        refine ih ⟨w, List.mem_cons_of_mem _ hw', hW⟩ (fun v y hv hy => hun v y hv ?_) hb
        rcases List.mem_cons.mp hy with rfl | hy
        · split
          · exact List.mem_cons_of_mem best List.mem_cons_self
          · exact List.mem_cons_self
        · exact List.mem_cons_of_mem best (List.mem_cons_of_mem x hy)

/-- A scan looks only at the image of an element under a function that decides who beats whom. -/
theorem runningBest_map (beats : α → α → Bool) (f : β → α) (best : β) (xs : List β) :
    f (runningBest (fun x b => beats (f x) (f b)) best xs) =
      runningBest beats (f best) (xs.map f) := by
  induction xs generalizing best with
  | nil => rfl
  | cons x xs ih =>
    rw [runningBest_cons, ih, List.map_cons, runningBest_cons]
    split <;> rfl

end Library
end Dnp3
