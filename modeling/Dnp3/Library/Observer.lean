import Mathlib.Data.List.Basic

/-!
# Observers of a log

An observer reads a log entry by entry.  It keeps books of what it has read, and says of each entry
whether it is allowed behind those before it.  What a system may do over a whole run is stated as
an observer that accepts the log of the run; that it does is proved entry by entry, from a relation
between the books and the state of the system.

`accepts_append` splits a log at any place.  The rule that is used most is `accepts_append_silent`:
entries that the observer always allows and never books can be added anywhere.  Since the books are
a function of the log alone, the statement about a system is about what it did, and not about how
the model keeps its state.
-/

namespace Dnp3
namespace Library

/-- An observer with books `β` of entries `ε`. -/
structure Observer (β ε : Type*) where
  /-- The entry is allowed. -/
  allows : β → ε → Prop
  /-- The books with the entry read. -/
  next : β → ε → β

namespace Observer

variable {β ε : Type*} (O : Observer β ε)

/-- The books after some entries. -/
def after (b : β) (log : List ε) : β := log.foldl O.next b

/-- Every entry is allowed when it is read. -/
def Accepts : β → List ε → Prop
  | _, [] => True
  | b, e :: es => O.allows b e ∧ Accepts (O.next b e) es

instance Accepts.decidable [∀ b e, Decidable (O.allows b e)] :
    ∀ b es, Decidable (O.Accepts b es)
  | _, [] => isTrue trivial
  | b, e :: es =>
    have : Decidable (O.Accepts (O.next b e) es) := Accepts.decidable (O.next b e) es
    inferInstanceAs (Decidable (O.allows b e ∧ O.Accepts (O.next b e) es))

@[simp] theorem after_nil (b : β) : O.after b [] = b := rfl

theorem after_append (b : β) (log entries : List ε) :
    O.after b (log ++ entries) = O.after (O.after b log) entries := List.foldl_append

theorem after_concat (b : β) (log : List ε) (e : ε) :
    O.after b (log ++ [e]) = O.next (O.after b log) e := O.after_append b log [e]

theorem accepts_append (b : β) (log entries : List ε) :
    O.Accepts b (log ++ entries) ↔ O.Accepts b log ∧ O.Accepts (O.after b log) entries := by
  induction log generalizing b with
  | nil => simp [Accepts]
  | cons e log ih => simp [Accepts, ih, after, and_assoc]

/-- A log stays accepted when an allowed entry is added. -/
theorem accepts_concat {b : β} {log : List ε} {e : ε} (h : O.Accepts b log)
    (he : O.allows (O.after b log) e) : O.Accepts b (log ++ [e]) :=
  (O.accepts_append b log [e]).mpr ⟨h, he, trivial⟩

/-- Entries that the observer allows and does not book leave the books alone. -/
theorem after_append_silent {b : β} {log entries : List ε}
    (h : ∀ e ∈ entries, ∀ b, O.allows b e ∧ O.next b e = b) :
    O.after b (log ++ entries) = O.after b log := by
  rw [after_append]
  generalize O.after b log = b'
  induction entries with
  | nil => rfl
  | cons e entries ih =>
    rw [after, List.foldl_cons, (h e (by simp) b').2]
    exact ih fun e' he' => h e' (by simp [he'])

theorem accepts_append_silent {b : β} {log entries : List ε}
    (h : ∀ e ∈ entries, ∀ b, O.allows b e ∧ O.next b e = b) :
    O.Accepts b (log ++ entries) ↔ O.Accepts b log := by
  rw [accepts_append, and_iff_left_iff_imp]
  intro _
  generalize O.after b log = b'
  induction entries with
  | nil => exact trivial
  | cons e entries ih =>
    refine ⟨(h e (by simp) b').1, ?_⟩
    rw [(h e (by simp) b').2]
    exact ih fun e' he' => h e' (by simp [he'])

end Observer
end Library
end Dnp3
