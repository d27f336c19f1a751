import Mathlib.Data.List.Basic

/-!
# Resumable scanners

A scanner reads a stream of symbols and emits outputs.  It is given by its *productive step*: what
it does to the symbols that are pending, when it can do anything at all.  Two properties make a
scanner resumable.  A step uses up symbols, so scanning stops; and a step that is possible on the
pending symbols stays possible, with the same effect, when more symbols are appended.

From these two facts alone it does not matter where the stream is cut: scanning a prefix, keeping
what is left, and scanning that with the rest appended is scanning the whole
(`Scanner.scan_append`).

A `Receiver` is an implementation with a state of its own that is handed the stream in chunks.
It follows a scanner when, chunk by chunk, it emits what scanning its unread symbols emits
(`Receiver.Follows`); then what it emits over a whole run depends on the stream only
(`Receiver.Follows.run_out`).
-/

namespace Dnp3
namespace Library

/-- A resumable scanner over symbols `α` with outputs `ω`. -/
structure Scanner (α ω : Type*) where
  /-- One productive step: the symbols that remain, and the outputs. -/
  next : List α → Option (List α × List ω)
  shrinks : ∀ {xs ys : List α} {o : List ω}, next xs = some (ys, o) → ys.length < xs.length
  stable : ∀ {xs ys : List α} {o : List ω} (zs : List α), next xs = some (ys, o) →
    next (xs ++ zs) = some (ys ++ zs, o)

namespace Scanner

variable {α ω : Type*} (S : Scanner α ω)

/-- Scan until no productive step is left: the symbols still pending, and all outputs in order. -/
def scan (xs : List α) : List α × List ω :=
  match _h : S.next xs with
  | none => (xs, [])
  | some (ys, o) => ((scan ys).1, o ++ (scan ys).2)
termination_by xs.length
decreasing_by all_goals exact S.shrinks (by assumption)

variable {S}

theorem scan_of_next_none {xs : List α} (h : S.next xs = none) : S.scan xs = (xs, []) := by
  rw [scan]
  split
  · rfl
  · rename_i ys o h'
    rw [h] at h'
    exact absurd h' (by simp)

theorem scan_of_next_some {xs ys : List α} {o : List ω} (h : S.next xs = some (ys, o)) :
    S.scan xs = ((S.scan ys).1, o ++ (S.scan ys).2) := by
  rw [scan]
  split
  · rename_i h'
    rw [h] at h'
    exact absurd h' (by simp)
  · rename_i ys' o' h'
    rw [h] at h'
    obtain ⟨rfl, rfl⟩ := Prod.mk.inj (Option.some.inj h')
    rfl

/-- A silent step does not change what scanning gives. -/
theorem scan_of_next_silent {xs ys : List α} (h : S.next xs = some (ys, [])) :
    S.scan xs = S.scan ys := by
  rw [scan_of_next_some h, List.nil_append]

/-- The scanner's induction principle: along its own steps. -/
theorem scan_induction {motive : List α → Prop}
    (stop : ∀ xs, S.next xs = none → motive xs)
    (step : ∀ xs ys o, S.next xs = some (ys, o) → motive ys → motive xs) (xs : List α) :
    motive xs := by
  induction hn : xs.length using Nat.strongRecOn generalizing xs with
  | _ n ih =>
    cases h : S.next xs with
    | none => exact stop xs h
    | some p =>
      obtain ⟨ys, o⟩ := p
      exact step xs ys o h (ih ys.length (hn ▸ S.shrinks h) ys rfl)

/-- Nothing productive is left after scanning. -/
theorem next_scan (xs : List α) : S.next (S.scan xs).1 = none := by
  induction xs using scan_induction (S := S) with
  | stop xs h => rw [scan_of_next_none h]; exact h
  | step xs ys o h ih => rw [scan_of_next_some h]; exact ih

/-- **Scanning may be cut anywhere.**  Scan a prefix, then what it left with the rest appended. -/
theorem scan_append (xs zs : List α) :
    S.scan (xs ++ zs) =
      ((S.scan ((S.scan xs).1 ++ zs)).1, (S.scan xs).2 ++ (S.scan ((S.scan xs).1 ++ zs)).2) := by
  induction xs using scan_induction (S := S) with
  | stop xs h => rw [scan_of_next_none h, List.nil_append]
  | step xs ys o h ih =>
    rw [scan_of_next_some (S.stable zs h), scan_of_next_some h, ih]
    simp only [List.append_assoc]

/-- Appending after a silent scan of the pending symbols is appending to what the scan left. -/
theorem scan_append_of_silent {xs ys : List α} (h : S.scan xs = (ys, [])) (zs : List α) :
    S.scan (xs ++ zs) = S.scan (ys ++ zs) := by
  rw [scan_append, h, List.nil_append]

end Scanner

/-- An implementation that is handed its input in chunks. -/
structure Receiver (σ α ω : Type*) where
  /-- The number of symbols the next chunk may have. -/
  space : σ → Nat
  /-- Receive one chunk. -/
  receive : σ → List α → σ × List ω

namespace Receiver

variable {σ α ω : Type*} (R : Receiver σ α ω)

/-- Receive chunk after chunk, collecting the outputs. -/
def run : σ → List (List α) → σ × List ω
  | s, [] => (s, [])
  | s, c :: cs => ((run (R.receive s c).1 cs).1, (R.receive s c).2 ++ (run (R.receive s c).1 cs).2)

/-- Every chunk is non-empty and fits the space offered when it arrives. -/
def Fits : σ → List (List α) → Prop
  | _, [] => True
  | s, c :: cs => (1 ≤ c.length ∧ c.length ≤ R.space s) ∧ Fits (R.receive s c).1 cs

theorem Fits.of_append {R : Receiver σ α ω} {s : σ} {cs ds : List (List α)}
    (h : R.Fits s (cs ++ ds)) : R.Fits s cs := by
  induction cs generalizing s with
  | nil => trivial
  | cons c cs ih => exact ⟨h.1, ih h.2⟩

/-- `R` follows the scanner `S`: `unread` are the symbols it holds and `inv` what its states keep.
After a chunk the outputs are those of scanning the unread symbols with the chunk appended, and
the symbols then unread scan silently to the same remainder. -/
structure Follows (S : Scanner α ω) (unread : σ → List α) (inv : σ → Prop) : Prop where
  keeps : ∀ {s c}, inv s → c.length ≤ R.space s → inv (R.receive s c).1
  emits : ∀ {s c}, inv s → c.length ≤ R.space s →
    (R.receive s c).2 = (S.scan (unread s ++ c)).2
  leaves : ∀ {s c}, inv s → c.length ≤ R.space s →
    S.scan (unread (R.receive s c).1) = ((S.scan (unread s ++ c)).1, [])

variable {R} {S : Scanner α ω} {unread : σ → List α} {inv : σ → Prop}

/-- **What a receiver emits over a run depends on the stream only**, not on its chunks. -/
theorem Follows.run_out (hR : R.Follows S unread inv) {s : σ} {pending : List α} (hs : inv s)
    (hp : S.scan (unread s) = (pending, [])) {cs : List (List α)} (hc : R.Fits s cs) :
    (R.run s cs).2 = (S.scan (pending ++ cs.flatten)).2 := by
  induction cs generalizing s pending with
  | nil =>
    have hstop : S.next pending = none := by
      have := S.next_scan (unread s)
      rwa [hp] at this
    simp [run, Scanner.scan_of_next_none hstop]
  | cons c cs ih =>
    obtain ⟨⟨_, hle⟩, hcs⟩ := hc
    have hchunk := Scanner.scan_append_of_silent hp c
    have hrest := ih (hR.keeps hs hle) (hR.leaves hs hle) hcs
    rw [run, hR.emits hs hle, hrest, hchunk, List.flatten_cons, ← List.append_assoc,
      Scanner.scan_append (pending ++ c) cs.flatten]

/-- The states of a run keep the invariant. -/
theorem Follows.run_inv (hR : R.Follows S unread inv) {s : σ} (hs : inv s)
    {cs : List (List α)} (hc : R.Fits s cs) : inv (R.run s cs).1 := by
  induction cs generalizing s with
  | nil => exact hs
  | cons c cs ih => exact ih (hR.keeps hs hc.1.2) hc.2

/-- Chunks of one symbol fit whenever every state offers space. -/
theorem Follows.fits_singletons (hR : R.Follows S unread inv) (hspace : ∀ s, inv s → 1 ≤ R.space s)
    {s : σ} (hs : inv s) (xs : List α) : R.Fits s (xs.map fun x => [x]) := by
  induction xs generalizing s with
  | nil => trivial
  | cons x xs ih =>
    have hle : [x].length ≤ R.space s := hspace s hs
    exact ⟨⟨Nat.le_refl 1, hle⟩, ih (hR.keeps hs hle)⟩

end Receiver
end Library
end Dnp3
