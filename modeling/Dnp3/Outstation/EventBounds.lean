import Dnp3.Outstation.EventCounts

/-!
# No type has more events than its maximum

The counts of all records are right in every run, whatever the selections do to the counts of the
selected ones; so an update knows how many events of its type there are, and makes room for the new
one when there are as many as the configuration allows.

`Bounded` is the invariant: every counter of the total is that of the records, and the records of a
type are no more than the configuration allows.  A record that is selected, written or reset keeps
its class and type, so only updates and clearing matter: an update first discards the oldest record
of a type that is full, and clearing takes away what the counters have counted.  `bounded_run`
states the invariant of every run of the buffer, whatever operations it is made of.
-/

namespace Dnp3
namespace Outstation

open Library App Openpal

namespace EventBuffer

/-- The total counts are those of the records, and no type has more than its maximum. -/
structure Bounded (b : EventBuffer) : Prop where
  total : b.totalCounts.Counts (fun _ => true) b.records
  bounded : ∀ type, b.records.countP (fun r => r.type == type) ≤
    (b.config.getMaxEventsForType type).toNat

variable {b b' : EventBuffer}

theorem bounded_initial (config : EventBufferConfig) : (initial config).Bounded :=
  ⟨EventCount.Counts.initial _, fun _ => Nat.zero_le _⟩

/-- Records change in place. -/
theorem Bounded.update (h : b.Bounded) (htotal : b'.totalCounts = b.totalCounts)
    (hconfig : b'.config = b.config)
    (hrecords : b'.records.map (fun r => (r.clazz, r.type)) =
      b.records.map fun r => (r.clazz, r.type)) : b'.Bounded := by
  have hcount : ∀ type, b'.records.countP (fun r => r.type == type) =
      b.records.countP fun r => r.type == type := by
    intro type
    have hmap := congrArg (List.countP fun p : EventClass × EventType => p.2 == type) hrecords
    rwa [List.countP_map, List.countP_map] at hmap
  constructor
  · rw [htotal]
    refine h.total.of_map_eq ?_
    have hmap := congrArg (List.map fun p : EventClass × EventType => (p.1, p.2, true)) hrecords
    rwa [List.map_map, List.map_map] at hmap
  · intro type
    rw [hcount, hconfig]
    exact h.bounded type

/-- What does not depend on being selected or written stays the same. -/
theorem map_unselectRecords {β : Type} {f : SOERecord → β} (hf : ∀ r, f r.reset = f r)
    (l : List SOERecord) (s w : EventCount) :
    (unselectRecords l s w).records.map f = l.map f := by
  induction l generalizing s w with
  | nil => rfl
  | cons r rs ih =>
    simp only [unselectRecords]
    split
    · rw [List.map_cons, ih, List.map_cons, hf]
    · rw [List.map_cons, List.map_cons, hf]

theorem map_selectRecords {β : Type} {f : SOERecord → β} {isMatch : SOERecord → Bool}
    {select : SOERecord → SOERecord} (hselect : ∀ r, f (select r) = f r) (remaining max num : Nat)
    (s : EventCount) (l : List SOERecord) :
    (selectRecords isMatch select remaining max num s l).1.map f = l.map f := by
  induction l generalizing num s with
  | nil => rfl
  | cons r rs ih =>
    rw [selectRecords]
    split
    · split
      · rw [List.map_cons, ih, List.map_cons, hselect]
      · rw [List.map_cons, ih, List.map_cons]
    · rfl

theorem Bounded.selectMatching (h : b.Bounded) (total selected : UInt32)
    (isMatch : SOERecord → Bool) (select : SOERecord → SOERecord)
    (hselect : ∀ r, (select r).clazz = r.clazz ∧ (select r).type = r.type) (max : UInt32) :
    (b.selectMatching total selected isMatch select max).Bounded :=
  h.update rfl rfl
    (map_selectRecords (fun r => Prod.ext (hselect r).1 (hselect r).2) _ _ _ _ _)

theorem Bounded.selectMaxCount (h : b.Bounded) (gv : GroupVariation) (max : UInt32) :
    (b.selectMaxCount gv max).1.Bounded := by
  rw [EventBuffer.selectMaxCount]
  split
  next s _ =>
    exact h.selectMatching _ _ _ (fun r => r.select s) (fun r => ⟨rfl, r.type_select s⟩) max
  next =>
    exact h.selectMatching _ _ _ SOERecord.selectDefault (fun r => ⟨rfl, r.type_selectDefault⟩) max
  next => exact h

theorem Bounded.load (h : b.Bounded) (writer : HeaderWriter) : (b.load writer).1.Bounded := by
  have hmarks := EventWriter.write_spec writer b.selectedCounts b.writtenCounts b.records
  exact h.update rfl rfl (hmarks.map_eq fun _ => rfl)

/-- The records that are written are taken out of the total counts. -/
theorem total_foldl_removeFromCounts {front l : List SOERecord}
    (h : b.totalCounts.Counts (fun _ => true) (front ++ l)) :
    ((l.filter SOERecord.written).foldl EventBuffer.removeFromCounts b).totalCounts.Counts
      (fun _ => true) (front ++ l.filter fun r => !r.written) := by
  induction l generalizing b front with
  | nil => exact h
  | cons r rs ih =>
    cases hw : r.written with
    | true =>
      rw [List.filter_cons_of_pos hw, List.filter_cons_of_neg (by rw [hw]; exact Bool.false_ne_true),
        List.foldl_cons]
      have hremove : (b.removeFromCounts r).totalCounts.Counts (fun _ => true) (front ++ rs) :=
        h.remove
      exact ih hremove
    | false =>
      rw [List.filter_cons_of_neg (by rw [hw]; exact Bool.false_ne_true),
        List.filter_cons_of_pos (by rw [hw]; rfl), List.append_cons]
      rw [List.append_cons] at h
      exact ih h

theorem Bounded.clearWritten (h : b.Bounded) : b.clearWritten.Bounded := by
  have htotal : b.totalCounts.Counts (fun _ => true) ([] ++ b.records) := h.total
  refine ⟨total_foldl_removeFromCounts htotal, fun type => ?_⟩
  exact Nat.le_trans (List.Sublist.countP_le List.filter_sublist) (h.bounded type)

/-- Discarding the oldest record of a type leaves fewer of it, unless there was none. -/
theorem Bounded.removeOldestEventOfType (h : b.Bounded) (type : EventType) :
    (b.removeOldestEventOfType type).Bounded ∧
      ((b.removeOldestEventOfType type).records.countP (fun r => r.type == type) <
          b.records.countP (fun r => r.type == type) ∨
        (b.removeOldestEventOfType type).records.countP (fun r => r.type == type) = 0) := by
  unfold EventBuffer.removeOldestEventOfType
  dsimp only
  split
  next r hfind =>
    obtain ⟨hr, xs, ys, hl, hxs⟩ := List.find?_eq_some_iff_append.mp hfind
    have herase : b.records.eraseP (fun r => r.type == type) = xs ++ ys := by
      rw [hl, List.eraseP_append_right _ fun r' hr' => by simpa using hxs r' hr',
        List.eraseP_cons_of_pos (p := fun r : SOERecord => r.type == type) hr]
    have htotal := h.total
    rw [hl] at htotal
    have hremove := htotal.remove
    rw [← herase] at hremove
    refine ⟨⟨hremove, fun t => ?_⟩, .inl ?_⟩
    · exact Nat.le_trans (List.Sublist.countP_le List.eraseP_sublist) (h.bounded t)
    · show (b.records.eraseP _).countP _ < b.records.countP _
      rw [herase, hl, List.countP_append, List.countP_append,
        List.countP_cons_of_pos (p := fun r : SOERecord => r.type == type) hr]
      omega
  next hfind =>
    refine ⟨h, .inr ?_⟩
    rw [List.countP_eq_zero]
    exact fun r hr => List.find?_eq_none.mp hfind r hr

theorem Bounded.addRecord (h : b.Bounded) {r : SOERecord}
    (hroom : b.records.countP (fun r' => r'.type == r.type) <
      (b.config.getMaxEventsForType r.type).toNat) : (b.addRecord r).Bounded := by
  unfold EventBuffer.addRecord
  split
  next events hadd =>
    have hevents := hadd
    rw [LinkedList.add] at hevents
    split at hevents
    next hfit =>
      cases hevents
      have hlen : b.records.length + 1 < 2 ^ 32 := by
        rw [b.capacity_eq] at hfit
        exact Nat.lt_of_le_of_lt hfit b.config.totalEvents_lt
      refine ⟨h.total.concat_true rfl hlen, fun type => ?_⟩
      show (b.records ++ [r]).countP _ ≤ (b.config.getMaxEventsForType type).toNat
      rw [List.countP_append, List.countP_singleton]
      by_cases htype : r.type = type
      · rw [if_pos (by rw [htype]; exact beq_self_eq_true _), ← htype]
        exact hroom
      · rw [if_neg (by rw [beq_iff_eq]; exact htype)]
        exact h.bounded type
    next => cases hevents
  next => exact h

theorem Bounded.updateAny (h : b.Bounded) (evt : EventUpdate) : (b.updateAny evt).Bounded := by
  unfold EventBuffer.updateAny
  dsimp only
  split
  next hmax =>
    rw [gt_iff_lt, UInt16.lt_iff_toNat_lt] at hmax
    have htype : (SOERecord.ofUpdate b.nextId evt).type = evt.type := SOERecord.type_ofUpdate _ evt
    split
    · have hoverflow : ({ b with overflow := true } : EventBuffer).Bounded := ⟨h.total, h.bounded⟩
      obtain ⟨hremoved, hfewer⟩ := hoverflow.removeOldestEventOfType evt.type
      refine hremoved.addRecord ?_
      rw [SOERecord.type_ofUpdate]
      have hconfig : (({ b with overflow := true } : EventBuffer).removeOldestEventOfType
          evt.type).config = b.config := by
        unfold EventBuffer.removeOldestEventOfType
        dsimp only
        split <;> rfl
      rw [hconfig]
      have hle := h.bounded evt.type
      rcases hfewer with hlt | hzero
      · exact Nat.lt_of_lt_of_le hlt hle
      · rw [hzero]
        exact hmax
    next hfew =>
      rw [not_or] at hfew
      refine h.addRecord ?_
      rw [SOERecord.type_ofUpdate]
      have hcount := h.total.tallies (.ofType evt.type)
      have hfew := hfew.1
      simp only [CountKey.coversRecord, CountKey.covers, Bool.true_and] at hcount
      rw [← hcount]
      exact Nat.lt_of_not_le hfew
  next => exact h

theorem Bounded.apply (h : b.Bounded) (op : Operation) : (b.apply op).Bounded := by
  cases op with
  | update evt => exact h.updateAny evt
  | selectAll gv => exact h.selectMaxCount gv _
  | selectCount gv count => exact h.selectMaxCount gv _
  | selectAllByClass field =>
    exact h.selectMatching _ _ _ SOERecord.selectDefault (fun r => ⟨rfl, r.type_selectDefault⟩) _
  | load writer => exact h.load writer
  | clearWritten => exact h.clearWritten
  | unselect => exact h.update rfl rfl (map_unselectRecords (fun _ => rfl) _ _ _)
  | isOverflown =>
    rw [EventBuffer.apply, EventBuffer.isOverflown]
    dsimp only
    split
    · exact ⟨h.total, h.bounded⟩
    · exact h

theorem bounded_run (config : EventBufferConfig) (ops : List Operation) :
    (run apply (initial config) ops).Bounded :=
  run_keeps (I := Bounded) (fun _ op h => h.apply op) ops (bounded_initial config)

end EventBuffer
end Outstation
end Dnp3
