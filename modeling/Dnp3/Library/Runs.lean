import Mathlib.Data.List.Basic

/-!
# Runs of a machine

A machine is a function from a state and an event to the next state; a run folds it over a list of
events.  `Throughout` says that every step of a run meets a condition on the state before the step
and the event, and an invariant that every such step keeps holds at the end of the run.

A condition on a run may be about its steps (`Throughout`, a condition on the state before a step
and the event) or about its states (`Always`).  The rules come in pairs.  `run_invariant` and
`always_invariant` are the inductions: what every step keeps under a condition holds at the end of a
run under it, and all along.  `throughout_iff` and `Throughout.imp` exchange a condition for another
one that agrees with it where an invariant holds.
-/

namespace Dnp3
namespace Library

variable {σ ε : Type*}

/-- The state after some events. -/
def run (step : σ → ε → σ) (s : σ) (events : List ε) : σ := events.foldl step s

/-- Every step of the run meets the condition. -/
def Throughout (step : σ → ε → σ) (P : σ → ε → Prop) : σ → List ε → Prop
  | _, [] => True
  | s, e :: es => P s e ∧ Throughout step P (step s e) es

instance Throughout.decidable {step : σ → ε → σ} {P : σ → ε → Prop}
    [∀ s e, Decidable (P s e)] : ∀ s es, Decidable (Throughout step P s es)
  | _, [] => isTrue trivial
  | s, e :: es =>
    have : Decidable (Throughout step P (step s e) es) := Throughout.decidable (step s e) es
    inferInstanceAs (Decidable (P s e ∧ Throughout step P (step s e) es))

/-- The condition holds in every state of the run. -/
def Always (step : σ → ε → σ) (P : σ → Prop) : σ → List ε → Prop
  | s, [] => P s
  | s, e :: es => P s ∧ Always step P (step s e) es

instance Always.decidable {step : σ → ε → σ} {P : σ → Prop} [∀ s, Decidable (P s)] :
    ∀ s es, Decidable (Always step P s es)
  | s, [] => inferInstanceAs (Decidable (P s))
  | s, e :: es =>
    have : Decidable (Always step P (step s e) es) := Always.decidable (step s e) es
    inferInstanceAs (Decidable (P s ∧ Always step P (step s e) es))

variable {step : σ → ε → σ} {P Q : σ → ε → Prop} {I : σ → Prop}

@[simp] theorem run_nil (s : σ) : run step s [] = s := rfl

@[simp] theorem run_cons (s : σ) (e : ε) (es : List ε) :
    run step s (e :: es) = run step (step s e) es := rfl

theorem run_append (s : σ) (es es' : List ε) :
    run step s (es ++ es') = run step (run step s es) es' := List.foldl_append

/-- What every step keeps under the condition holds after the run. -/
theorem run_invariant (hstep : ∀ s e, I s → P s e → I (step s e)) {s : σ} {es : List ε} (hs : I s)
    (hes : Throughout step P s es) : I (run step s es) := by
  induction es generalizing s with
  | nil => exact hs
  | cons e es ih => exact ih (hstep s e hs hes.1) hes.2

/-- What every step keeps holds after every run. -/
theorem run_keeps (hstep : ∀ s e, I s → I (step s e)) {s : σ} (es : List ε) (hs : I s) :
    I (run step s es) := by
  induction es generalizing s with
  | nil => exact hs
  | cons e es ih => exact ih (hstep s e hs)

/-- Conditions that agree on every step agree on runs. -/
theorem throughout_congr (h : ∀ s e, P s e ↔ Q s e) {s : σ} {es : List ε} :
    Throughout step P s es ↔ Throughout step Q s es := by
  induction es generalizing s with
  | nil => exact Iff.rfl
  | cons e es ih => exact and_congr (h s e) ih

/-- Conditions that agree where an invariant holds agree on runs. -/
theorem throughout_iff (hstep : ∀ s e, I s → I (step s e)) (h : ∀ s e, I s → (P s e ↔ Q s e))
    {s : σ} {es : List ε} (hs : I s) : Throughout step P s es ↔ Throughout step Q s es := by
  induction es generalizing s with
  | nil => exact Iff.rfl
  | cons e es ih => exact and_congr (h s e hs) (ih (hstep s e hs))

theorem throughout_append {s : σ} {es es' : List ε} :
    Throughout step P s (es ++ es') ↔
      Throughout step P s es ∧ Throughout step P (run step s es) es' := by
  induction es generalizing s with
  | nil => simp only [List.nil_append, Throughout, true_and, run_nil]
  | cons e es ih =>
    simp only [List.cons_append, Throughout, run_cons, ih]
    exact and_assoc.symm

/-- A condition that no event of the run depends on holds throughout. -/
theorem throughout_of_forall {s : σ} {es : List ε} (h : ∀ e ∈ es, ∀ s, P s e) :
    Throughout step P s es := by
  induction es generalizing s with
  | nil => exact trivial
  | cons e es ih =>
    exact ⟨h e List.mem_cons_self s, ih fun e' he' => h e' (List.mem_cons_of_mem e he')⟩

theorem Throughout.and {s : σ} {es : List ε} (h : Throughout step P s es)
    (h' : Throughout step Q s es) : Throughout step (fun s e => P s e ∧ Q s e) s es := by
  induction es generalizing s with
  | nil => exact trivial
  | cons e es ih => exact ⟨⟨h.1, h'.1⟩, ih h.2 h'.2⟩

/-- What follows from a condition where an invariant holds that is kept under the condition. -/
theorem Throughout.imp (hstep : ∀ s e, I s → P s e → I (step s e))
    (h : ∀ s e, I s → P s e → Q s e) {s : σ} {es : List ε} (hs : I s)
    (hes : Throughout step P s es) : Throughout step Q s es := by
  induction es generalizing s with
  | nil => exact trivial
  | cons e es ih => exact ⟨h s e hs hes.1, ih (hstep s e hs hes.1) hes.2⟩

/-- A run without the condition at any step, or up to a step that meets it. -/
theorem throughout_not_or (P : σ → ε → Prop) (s : σ) (es : List ε) :
    Throughout step (fun s e => ¬ P s e) s es ∨
      ∃ front e back, es = front ++ e :: back ∧ P (run step s front) e := by
  induction es generalizing s with
  | nil => exact .inl trivial
  | cons e es ih =>
    by_cases h : P s e
    · exact .inr ⟨[], e, es, rfl, h⟩
    · rcases ih (step s e) with hnot | ⟨front, e', back, rfl, h'⟩
      · exact .inl ⟨h, hnot⟩
      · exact .inr ⟨e :: front, e', back, rfl, h'⟩

theorem Always.head {s : σ} {es : List ε} (h : Always step I s es) : I s := by
  cases es with
  | nil => exact h
  | cons e es => exact h.1

/-- What every step keeps under the condition holds in all states of a run under the condition. -/
theorem always_invariant (hstep : ∀ s e, I s → P s e → I (step s e)) {s : σ} {es : List ε}
    (hs : I s) (hes : Throughout step P s es) : Always step I s es := by
  induction es generalizing s with
  | nil => exact hs
  | cons e es ih => exact ⟨hs, ih (hstep s e hs hes.1) hes.2⟩

theorem always_keeps (hstep : ∀ s e, I s → I (step s e)) {s : σ} (es : List ε) (hs : I s) :
    Always step I s es := by
  induction es generalizing s with
  | nil => exact hs
  | cons e es ih => exact ⟨hs, ih (hstep s e hs)⟩

theorem Always.last {s : σ} {es : List ε} (h : Always step I s es) : I (run step s es) := by
  induction es generalizing s with
  | nil => exact h
  | cons e es ih => exact ih h.2

/-- What a step must meet for the condition to hold after it is met throughout. -/
theorem Always.throughout {s : σ} {es : List ε} (hes : Always step I s es)
    (h : ∀ s e, I s → I (step s e) → P s e) : Throughout step P s es := by
  induction es generalizing s with
  | nil => exact trivial
  | cons e es ih => exact ⟨h s e hes.1 hes.2.head, ih hes.2⟩

theorem Always.imp {J : σ → Prop} (h : ∀ s, I s → J s) {s : σ} {es : List ε}
    (hes : Always step I s es) : Always step J s es := by
  induction es generalizing s with
  | nil => exact h s hes
  | cons e es ih => exact ⟨h s hes.1, ih hes.2⟩

theorem Always.and {J : σ → Prop} {s : σ} {es : List ε} (h : Always step I s es)
    (h' : Always step J s es) : Always step (fun s => I s ∧ J s) s es := by
  induction es generalizing s with
  | nil => exact ⟨h, h'⟩
  | cons e es ih => exact ⟨⟨h.1, h'.1⟩, ih h.2 h'.2⟩

end Library
end Dnp3
