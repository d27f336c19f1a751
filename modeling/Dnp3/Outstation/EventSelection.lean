import Dnp3.Outstation.EventCounts

/-!
# Event selection

What a READ asks for: a header selects the oldest records that match it and are not yet selected, up
to its maximum, and gives them its variation.  Records that earlier headers selected keep theirs,
and a header without a count leaves no matching record unselected.

The selectors bound their loop by the number of matching records that are left to select, but count
every matching record they come to, also one that is selected already.  So they do what is asked
exactly when the records they come to include all that are to be selected, and the others among them
would be selected the same way again.
-/

namespace Dnp3
namespace Outstation

open Library App

namespace EventBuffer

/-! ## Headers -/

/-- A header of an event READ, with or without a count. -/
inductive EventHeader where
  | all (gv : GroupVariation)
  | count (gv : GroupVariation) (count : UInt16)
  deriving DecidableEq, Repr

namespace EventHeader

/-- What the header asks for, if it asks for events. -/
def selection : EventHeader → Option EventSelection
  | all gv => eventSelection gv
  | count gv _ => eventSelection gv

/-- The maximum number of records to select. -/
def max : EventHeader → UInt32
  | all _ => 2 ^ 32 - 1
  | count _ n => n.toUInt32

end EventHeader

/-- The buffer after a header. -/
def processHeader (b : EventBuffer) : EventHeader → EventBuffer
  | .all gv => (b.selectAll gv).1
  | .count gv n => (b.selectCount gv n).1

theorem processHeader_eq (b : EventBuffer) (h : EventHeader) :
    b.processHeader h =
      match h.selection with
      | some s => b.selectEvents s h.max
      | none => b := by
  cases h with
  | all gv => exact b.selectMaxCount_eq gv _
  | count gv n => exact b.selectMaxCount_eq gv _

/-! ## What is asked -/

/-- The oldest matching records that are not yet selected are selected, up to a maximum. -/
def EventSelection.selectOldest (s : EventSelection) (max : Nat) (l : List SOERecord) :
    List SOERecord :=
  modifyFirst (fun r => s.isMatch r && !r.selected) s.select max l

/-- The header does what is asked of it. -/
def SelectsOldest (b : EventBuffer) (h : EventHeader) : Prop :=
  match h.selection with
  | some s =>
    (b.processHeader h).records = s.selectOldest h.max.toNat b.records ∧
      ∀ gv, h = .all gv →
        ∀ r ∈ (b.processHeader h).records, s.isMatch r = true → r.selected = true
  | none => (b.processHeader h).records = b.records

/-! ## When it is done -/

/-- Of the matching records to which the selector comes, those not yet selected are all it has to
select, and selecting the others again changes nothing. -/
def Reaches (b : EventBuffer) (h : EventHeader) : Prop :=
  ∀ s ∈ h.selection,
    let bound := min (s.count b.totalCounts - s.count b.selectedCounts).toNat h.max.toNat
    let reached := (b.records.filter s.isMatch).take bound
    (∀ r ∈ reached, r.selected = true → s.select r = r) ∧
      reached.filter (fun r => !r.selected) =
        (b.records.filter fun r => s.isMatch r && !r.selected).take h.max.toNat

theorem selectOldest_iff (b : EventBuffer) (s : EventSelection) (max : UInt32) :
    (b.selectEvents s max).records = s.selectOldest max.toNat b.records ↔
      let bound := min (s.count b.totalCounts - s.count b.selectedCounts).toNat max.toNat
      let reached := (b.records.filter s.isMatch).take bound
      (∀ r ∈ reached, r.selected = true → s.select r = r) ∧
        reached.filter (fun r => !r.selected) =
          (b.records.filter fun r => s.isMatch r && !r.selected).take max.toNat := by
  have hf : ∀ r : SOERecord, (!r.selected) = true → s.select r ≠ r := by
    intro r hr heq
    have hselected := s.selected_select r
    rw [heq] at hselected
    rw [hselected] at hr
    cases hr
  rw [records_selectEvents, EventSelection.selectOldest, modifyFirst_eq_iff hf]
  simp only [Bool.not_eq_false']

/-- A header without a count asks for all matching records. -/
theorem selectOldest_all {b : EventBuffer} {s : EventSelection} {r : SOERecord}
    (hr : r ∈ s.selectOldest (2 ^ 32 - 1) b.records) (hm : s.isMatch r = true) :
    r.selected = true := by
  have hlen := b.length_records_lt
  have hcount := List.countP_le_length (p := fun r => s.isMatch r && !r.selected) (l := b.records)
  rw [EventSelection.selectOldest, modifyFirst_eq_map (by omega), List.mem_map] at hr
  obtain ⟨r', -, rfl⟩ := hr
  split at hm
  next h => rw [if_pos h, s.selected_select]
  next h =>
    rw [if_neg h]
    rw [hm, Bool.true_and, Bool.not_eq_true', Bool.not_eq_false] at h
    exact h

/-- A header does what is asked exactly when its selector reaches the right records. -/
theorem selectsOldest_iff (b : EventBuffer) (h : EventHeader) :
    b.SelectsOldest h ↔ b.Reaches h := by
  have hprocess := b.processHeader_eq h
  unfold SelectsOldest Reaches
  cases hs : h.selection with
  | none =>
    rw [hs] at hprocess
    simp [hprocess]
  | some s =>
    rw [hs] at hprocess
    have hiff := b.selectOldest_iff s h.max
    constructor
    · rintro ⟨holdest, -⟩ s' hs'
      cases hs'
      rw [hprocess] at holdest
      exact hiff.mp holdest
    · intro hreach
      have holdest := hiff.mpr (hreach s rfl)
      rw [hprocess]
      refine ⟨holdest, ?_⟩
      rintro gv rfl r hr hm
      rw [holdest] at hr
      exact selectOldest_all hr hm

/-- In every run of headers from any state, every header does what is asked of it exactly when
every selector reaches the right records. -/
theorem selectsOldest_run_iff (b : EventBuffer) (headers : List EventHeader) :
    Throughout processHeader SelectsOldest b headers ↔
      Throughout processHeader Reaches b headers :=
  throughout_congr fun b h => b.selectsOldest_iff h

/-- One of two events is selected by its type, then the class of both is asked for: the first event
is selected again, and the second one is left out. -/
theorem not_selectsOldest_run :
    ¬ ∀ (b : EventBuffer) (headers : List EventHeader),
      Throughout processHeader SelectsOldest b headers := by
  intro h
  obtain ⟨-, ⟨-, hall⟩, -⟩ := h
    (run apply (initial (.allTypes 4)) [.update (binaryUpdate 0), .update (binaryUpdate 1)])
    [.count .group2Var0 1, .all .group60Var2]
  have hselected := hall .group60Var2 rfl (.ofUpdate 1 (binaryUpdate 1)) (by decide) (by decide)
  revert hselected
  decide

/-- When the counts are exact, the right records are reached exactly when they are fresh. -/
theorem Exact.reaches_iff {b : EventBuffer} (hb : b.Exact) (h : EventHeader) :
    b.Reaches h ↔ ∀ s ∈ h.selection, b.Fresh s h.max.toNat := by
  refine forall_congr' fun s => forall_congr' fun _ => ?_
  have hunselected : b.unselected s =
      ((b.records.filter s.isMatch).filter fun r => !r.selected).length := by
    rw [unselected, List.countP_eq_length_filter, List.filter_filter]
    simp only [Bool.and_comm]
  have hfilter : (b.records.filter fun r => s.isMatch r && !r.selected) =
      (b.records.filter s.isMatch).filter fun r => !r.selected := by
    rw [List.filter_filter]
    simp only [Bool.and_comm]
  dsimp only
  rw [(hb.remaining s).2, Nat.min_comm, Fresh, hfilter, hunselected]
  generalize b.records.filter s.isMatch = matching
  generalize h.max.toNat = max
  generalize hn : min max (matching.filter fun r => !r.selected).length = n
  have hle : n ≤ (matching.take n).length := by
    have := List.length_filter_le (fun r => !r.selected) matching
    rw [List.length_take]
    omega
  constructor
  · rintro ⟨-, hreached⟩ r hr
    have hlen := congrArg List.length hreached
    rw [List.length_take, hn] at hlen
    have hfull :
        ((matching.take n).filter fun r => !r.selected).length = (matching.take n).length :=
      Nat.le_antisymm (List.length_filter_le _ _) (by rw [hlen]; exact List.length_take_le n _)
    simpa using List.length_filter_eq_length_iff.mp hfull r hr
  · intro hfresh
    have hself : (matching.take n).filter (fun r => !r.selected) = matching.take n :=
      List.filter_eq_self.mpr fun r hr => by rw [hfresh r hr]; rfl
    refine ⟨fun r hr hs => ?_, ?_⟩
    · rw [hfresh r hr] at hs
      cases hs
    · have htake : (matching.filter fun r => !r.selected).take n = matching.take n := by
        conv_lhs => rw [← List.take_append_drop n matching, List.filter_append, hself]
        exact List.take_left' (Nat.le_antisymm (List.length_take_le n _) hle)
      rw [hself, ← htake, ← hn, ← List.take_eq_take_min]

end EventBuffer
end Outstation
end Dnp3
