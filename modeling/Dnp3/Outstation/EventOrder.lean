import Dnp3.Outstation.EventBounds

/-!
# The event buffer keeps the last events in order

The array of the buffer has as many nodes as there may be events of all types together.  While no
type has more events than its maximum, a full array means that every type has as many as its
maximum; so an update that has to make room finds an event of its own type, and after that there is
a free node.  What is left of the events is in the order in which they were stored.

`event` is a record without the marks that selections and writing leave on it, so that the records
before and after an operation can be compared.  `Updates` lists what an update does to the list of
events, and all other operations leave some of the events in their order (`sublist_apply`).
`events_bounded_in_order` is the result for every run: the bounds, what is discarded, that storing
succeeds, and the order.
-/

namespace Dnp3
namespace Outstation

open Library App Openpal

/-! ## The events that records are of -/

namespace SOERecord

/-- The record without the marks of a selection. -/
def event (r : SOERecord) : SOERecord :=
  { r with value := r.value.selectDefaultVariation, selected := false, written := false }

@[simp] theorem event_reset (r : SOERecord) : r.reset.event = r.event := rfl

@[simp] theorem event_markWritten (r : SOERecord) : r.markWritten.event = r.event := rfl

@[simp] theorem selectDefaultVariation_idem (v : EventValue) :
    v.selectDefaultVariation.selectDefaultVariation = v.selectDefaultVariation := by
  cases v <;> rfl

@[simp] theorem event_selectDefault (r : SOERecord) : r.selectDefault.event = r.event := by
  simp [selectDefault, event]

@[simp] theorem event_select (r : SOERecord) (s : TypeSelection) :
    (r.select s).event = r.event := by
  have hvalue : (r.value.select s).selectDefaultVariation = r.value.selectDefaultVariation := by
    unfold EventValue.select
    split
    case h_9 => exact selectDefaultVariation_idem _
    all_goals simp_all [EventValue.selectDefaultVariation, ValueAndVariation.select,
      ValueAndVariation.selectDefaultVariation]
  simp [select, event, hvalue]

@[simp] theorem event_ofUpdate (id : Nat) (evt : EventUpdate) :
    (ofUpdate id evt).event = ofUpdate id evt := by
  cases evt <;> rfl

end SOERecord

/-! ## Counts of types -/

/-- Every record is of one of the types. -/
theorem length_eq_sum_types (l : List SOERecord) :
    l.length = l.countP (fun r => r.type == .binary) +
      l.countP (fun r => r.type == .doubleBitBinary) +
      l.countP (fun r => r.type == .analog) + l.countP (fun r => r.type == .counter) +
      l.countP (fun r => r.type == .frozenCounter) +
      l.countP (fun r => r.type == .binaryOutputStatus) +
      l.countP (fun r => r.type == .analogOutputStatus) +
      l.countP (fun r => r.type == .securityStat) := by
  induction l with
  | nil => rfl
  | cons r l ih =>
    simp only [List.length_cons, List.countP_cons, ih]
    cases r.type <;> simp <;> omega

namespace EventBuffer

variable {b : EventBuffer}

/-- The number of stored events of a type. -/
def numOfType (b : EventBuffer) (type : EventType) : Nat :=
  b.records.countP fun r => r.type == type

/-- The maximum number of events of a type. -/
def maxOfType (b : EventBuffer) (type : EventType) : Nat :=
  (b.config.getMaxEventsForType type).toNat

theorem Bounded.numOfType_eq (h : b.Bounded) (type : EventType) :
    (b.totalCounts.numOfType type).toNat = b.numOfType type := by
  have hcount := h.total.tallies (.ofType type)
  simp only [CountKey.coversRecord, CountKey.covers, Bool.true_and] at hcount
  exact hcount

/-- When the array is full, every type has as many events as it may have. -/
theorem Bounded.full (h : b.Bounded) (hfull : b.events.isFull = true) (type : EventType) :
    b.numOfType type = b.maxOfType type := by
  have hlength : b.records.length = b.config.totalEvents := by
    rw [← b.capacity_eq]
    simpa [LinkedList.isFull] using hfull
  have hsum := length_eq_sum_types b.records
  have hle := h.bounded
  have hbinary := hle .binary
  have hdouble := hle .doubleBitBinary
  have hanalog := hle .analog
  have hcounter := hle .counter
  have hfrozen := hle .frozenCounter
  have hoctet := hle .binaryOutputStatus
  have hstatus := hle .analogOutputStatus
  have hstat := hle .securityStat
  simp only [EventBufferConfig.totalEvents] at hlength
  simp only [EventBufferConfig.getMaxEventsForType] at *
  unfold numOfType maxOfType
  cases type <;> simp only [EventBufferConfig.getMaxEventsForType] <;> omega

/-- An update makes room exactly when the type has as many events as it may have. -/
theorem Bounded.makes_room_iff (h : b.Bounded) (type : EventType) :
    ((b.totalCounts.numOfType type).toNat ≥ (b.config.getMaxEventsForType type).toNat ∨
      b.events.isFull = true) ↔ b.numOfType type = b.maxOfType type := by
  have hle := h.bounded type
  rw [h.numOfType_eq]
  constructor
  · rintro (hge | hfull)
    · exact Nat.le_antisymm hle hge
    · exact h.full hfull type
  · intro heq
    exact .inl (Nat.le_of_eq heq.symm)

/-! ## Updates -/

/-- What an update does: an event of a type without room for any is not stored; otherwise it is
stored behind the others, and the oldest event of its type is discarded if there are as many as
there may be. -/
inductive Updates (b : EventBuffer) (evt : EventUpdate) : EventBuffer → Prop
  | nothing (hmax : b.maxOfType evt.type = 0) : Updates b evt b
  | stored (b' : EventBuffer) (hroom : b.numOfType evt.type < b.maxOfType evt.type)
      (hrecords : b'.records = b.records ++ [.ofUpdate b.nextId evt])
      (hid : b'.nextId = b.nextId + 1) : Updates b evt b'
  | replaced (b' : EventBuffer) (before after : List SOERecord) (oldest : SOERecord)
      (hmax : 0 < b.maxOfType evt.type) (hfull : b.numOfType evt.type = b.maxOfType evt.type)
      (hold : b.records = before ++ oldest :: after) (htype : oldest.type = evt.type)
      (holdest : ∀ r ∈ before, r.type ≠ evt.type)
      (hrecords : b'.records = before ++ after ++ [.ofUpdate b.nextId evt])
      (hid : b'.nextId = b.nextId + 1) : Updates b evt b'

/-- With a free node the record is stored. -/
theorem records_addRecord (hroom : b.records.length < b.config.totalEvents) (r : SOERecord) :
    (b.addRecord r).records = b.records ++ [r] ∧ (b.addRecord r).nextId = b.nextId + 1 := by
  have hfit : b.events.items.length + 1 ≤ b.events.capacity := by
    rw [b.capacity_eq]
    exact hroom
  unfold EventBuffer.addRecord
  split
  next events hadd =>
    rw [LinkedList.add, dif_pos hfit] at hadd
    cases hadd
    exact ⟨rfl, rfl⟩
  next hadd =>
    rw [LinkedList.add, dif_pos hfit] at hadd
    cases hadd

theorem Bounded.updates (h : b.Bounded) (evt : EventUpdate) : Updates b evt (b.updateAny evt) := by
  have hlength := b.events.length_le
  rw [b.capacity_eq] at hlength
  have hroom := h.makes_room_iff evt.type
  unfold EventBuffer.updateAny
  dsimp only
  split
  next hmax =>
    have hmax : 0 < b.maxOfType evt.type := by
      rwa [gt_iff_lt, UInt16.lt_iff_toNat_lt] at hmax
    split
    next hmakes =>
      have hfull := hroom.mp hmakes
      have hsome : ∃ r ∈ b.records, r.type == evt.type := by
        rw [← List.countP_pos_iff]
        exact Nat.lt_of_lt_of_eq hmax hfull.symm
      obtain ⟨oldest, hfind⟩ := Option.isSome_iff_exists.mp (List.find?_isSome.mpr hsome)
      obtain ⟨hoccurs, before, after, hold, hbefore⟩ := List.find?_eq_some_iff_append.mp hfind
      have herase : b.records.eraseP (fun r => r.type == evt.type) = before ++ after := by
        rw [hold, List.eraseP_append_right _ fun r hr => by simpa using hbefore r hr,
          List.eraseP_cons_of_pos (p := fun r : SOERecord => r.type == evt.type) hoccurs]
      set removed := ({ b with overflow := true } : EventBuffer).removeOldestEventOfType evt.type
        with hremoved
      have hrecords : removed.records = before ++ after ∧ removed.nextId = b.nextId ∧
          removed.config = b.config := by
        rw [hremoved]
        unfold EventBuffer.removeOldestEventOfType
        dsimp only
        split
        · exact ⟨herase, rfl, rfl⟩
        next hnone =>
          have hnone : b.records.find? (fun r => r.type == evt.type) = none := hnone
          rw [hfind] at hnone
          cases hnone
      have hfree : removed.records.length < removed.config.totalEvents := by
        rw [hrecords.1, hrecords.2.2]
        refine Nat.lt_of_lt_of_le ?_ hlength
        show _ < b.records.length
        rw [hold]
        simp
      obtain ⟨hadded, hid⟩ := records_addRecord hfree (.ofUpdate removed.nextId evt)
      rw [hrecords.2.1] at hadded hid
      rw [hrecords.2.1]
      exact .replaced _ before after oldest hmax hfull hold (by simpa using hoccurs)
        (fun r hr => by simpa using hbefore r hr) (hadded.trans (by rw [hrecords.1])) hid
    next hfew =>
      have hnot : b.numOfType evt.type ≠ b.maxOfType evt.type := fun heq => hfew (hroom.mpr heq)
      have hfree : b.records.length < b.config.totalEvents := by
        refine Nat.lt_of_le_of_ne hlength fun heq => hfew (.inr ?_)
        simp only [LinkedList.isFull, b.capacity_eq, beq_iff_eq]
        exact heq
      obtain ⟨hadded, hid⟩ := records_addRecord hfree (.ofUpdate b.nextId evt)
      exact .stored _ (Nat.lt_of_le_of_ne (h.bounded evt.type) hnot) hadded hid
  next hzero =>
    refine .nothing ?_
    rw [gt_iff_lt, UInt16.lt_iff_toNat_lt] at hzero
    exact Nat.eq_zero_of_not_pos hzero

/-! ## Runs -/

/-- The updates of types that have room for events, in order. -/
def storedUpdates (config : EventBufferConfig) (ops : List Operation) : List EventUpdate :=
  (ops.filterMap fun op =>
    match op with
    | .update evt => some evt
    | _ => none).filter fun evt => (config.getMaxEventsForType evt.type).toNat ≠ 0

/-- The records that a run has stored, oldest first. -/
def storedRecords (config : EventBufferConfig) (ops : List Operation) : List SOERecord :=
  (storedUpdates config ops).mapIdx SOERecord.ofUpdate

/-- An operation that stores nothing leaves some of the events, in order. -/
theorem sublist_apply (b : EventBuffer) {op : Operation} (hop : ∀ evt, op ≠ .update evt) :
    ((b.apply op).records.map SOERecord.event).Sublist (b.records.map SOERecord.event) ∧
      (b.apply op).nextId = b.nextId ∧ (b.apply op).config = b.config := by
  have hselect {select : SOERecord → SOERecord} (hselect : ∀ r, (select r).event = r.event)
      (total selected : UInt32) (isMatch : SOERecord → Bool) (max : UInt32) :
      (b.selectMatching total selected isMatch select max).records.map SOERecord.event =
        b.records.map SOERecord.event :=
    map_selectRecords hselect _ _ _ _ _
  have hmax (gv : GroupVariation) (max : UInt32) :
      ((b.selectMaxCount gv max).1.records.map SOERecord.event) =
          b.records.map SOERecord.event ∧
        (b.selectMaxCount gv max).1.nextId = b.nextId ∧
        (b.selectMaxCount gv max).1.config = b.config := by
    unfold selectMaxCount
    split
    · exact ⟨hselect (fun r => r.event_select _) _ _ _ _, rfl, rfl⟩
    · exact ⟨hselect SOERecord.event_selectDefault _ _ _ _, rfl, rfl⟩
    · exact ⟨rfl, rfl, rfl⟩
  cases op with
  | update evt => exact absurd rfl (hop evt)
  | selectAll gv => exact ⟨(hmax gv _).1 ▸ .refl _, (hmax gv _).2⟩
  | selectCount gv count => exact ⟨(hmax gv _).1 ▸ .refl _, (hmax gv _).2⟩
  | selectAllByClass field =>
    have hselected := hselect SOERecord.event_selectDefault (b.totalCounts.numOfField field)
      (b.selectedCounts.numOfField field) (fun r => field.hasEventType r.clazz) (2 ^ 32 - 1)
    refine ⟨?_, rfl, rfl⟩
    exact hselected ▸ .refl _
  | load writer =>
    have hmarks := EventWriter.write_spec writer b.selectedCounts b.writtenCounts b.records
    have hload : (b.load writer).1.records.map SOERecord.event =
        b.records.map SOERecord.event := hmarks.map_eq fun _ => rfl
    exact ⟨hload ▸ .refl _, rfl, rfl⟩
  | clearWritten => exact ⟨List.filter_sublist.map _, rfl, rfl⟩
  | unselect =>
    have hunselect : b.unselect.records.map SOERecord.event = b.records.map SOERecord.event :=
      map_unselectRecords SOERecord.event_reset _ _ _
    exact ⟨hunselect ▸ .refl _, rfl, rfl⟩
  | isOverflown =>
    unfold apply isOverflown
    dsimp only
    split <;> exact ⟨.refl _, rfl, rfl⟩

theorem config_updateAny (b : EventBuffer) (evt : EventUpdate) :
    (b.updateAny evt).config = b.config := by
  have hadd (b : EventBuffer) (r : SOERecord) : (b.addRecord r).config = b.config := by
    unfold EventBuffer.addRecord
    split <;> rfl
  have hremove (b : EventBuffer) (type : EventType) :
      (b.removeOldestEventOfType type).config = b.config := by
    unfold EventBuffer.removeOldestEventOfType
    dsimp only
    split <;> rfl
  unfold EventBuffer.updateAny
  dsimp only
  split
  · rw [hadd]
    split
    · rw [hremove]
    · rfl
  · rfl

theorem storedUpdates_zero {config : EventBufferConfig} (ops : List Operation)
    {evt : EventUpdate} (hmax : (config.getMaxEventsForType evt.type).toNat = 0) :
    storedUpdates config (ops ++ [Operation.update evt]) = storedUpdates config ops := by
  simp [storedUpdates, List.filterMap_append, hmax]

theorem storedUpdates_update {config : EventBufferConfig} (ops : List Operation)
    {evt : EventUpdate} (hmax : (config.getMaxEventsForType evt.type).toNat ≠ 0) :
    storedUpdates config (ops ++ [Operation.update evt]) = storedUpdates config ops ++ [evt] := by
  simp [storedUpdates, List.filterMap_append, hmax]

theorem storedUpdates_other {config : EventBufferConfig} (ops : List Operation)
    {op : Operation} (hop : ∀ evt, op ≠ .update evt) :
    storedUpdates config (ops ++ [op]) = storedUpdates config ops := by
  cases op with
  | update evt => exact absurd rfl (hop evt)
  | _ => simp [storedUpdates, List.filterMap_append]

/-- The events that remain are in the order in which they were stored. -/
theorem sublist_run (config : EventBufferConfig) (ops : List Operation) :
    (run apply (initial config) ops).config = config ∧
      (run apply (initial config) ops).nextId = (storedUpdates config ops).length ∧
      ((run apply (initial config) ops).records.map SOERecord.event).Sublist
        (storedRecords config ops) := by
  induction ops using List.reverseRecOn with
  | nil => exact ⟨rfl, rfl, .refl _⟩
  | append_singleton ops op ih =>
    have hbounded := bounded_run config ops
    rw [run_append]
    generalize hb : run apply (initial config) ops = b at ih hbounded
    obtain ⟨hconfig, hid, hsublist⟩ := ih
    rw [run_cons, run_nil]
    by_cases hupdate : ∃ evt, op = .update evt
    · obtain ⟨evt, rfl⟩ := hupdate
      have hkept : (b.updateAny evt).config = config := (config_updateAny b evt).trans hconfig
      have hmaxOf : b.maxOfType evt.type = (config.getMaxEventsForType evt.type).toNat := by
        rw [maxOfType, hconfig]
      refine ⟨hkept, ?_⟩
      have hstored : 0 < b.maxOfType evt.type →
          storedRecords config (ops ++ [Operation.update evt]) =
            storedRecords config ops ++ [SOERecord.ofUpdate b.nextId evt] := by
        intro hmax
        rw [storedRecords, storedUpdates_update ops (by omega), List.mapIdx_concat, ← hid]
        rfl
      have hlength : 0 < b.maxOfType evt.type →
          (storedUpdates config (ops ++ [Operation.update evt])).length = b.nextId + 1 := by
        intro hmax
        rw [storedUpdates_update ops (by omega), List.length_append, ← hid]
        rfl
      show (b.updateAny evt).nextId = _ ∧ List.Sublist ((b.updateAny evt).records.map _) _
      have hupdates := hbounded.updates evt
      generalize b.updateAny evt = b' at hupdates ⊢
      cases hupdates with
      | nothing hmax =>
        rw [storedRecords, storedUpdates_zero ops (by omega)]
        exact ⟨hid, hsublist⟩
      | stored _ hroom hrecords hnext =>
        have hmax : 0 < b.maxOfType evt.type := by omega
        rw [hrecords, hnext, hlength hmax, hstored hmax, List.map_append]
        exact ⟨rfl, hsublist.append (by simp)⟩
      | replaced _ before after oldest hmax hfull hold htype holdest hrecords hnext =>
        rw [hrecords, hnext, hlength hmax, hstored hmax, List.map_append]
        refine ⟨rfl, List.Sublist.append ?_ (by simp)⟩
        rw [hold] at hsublist
        refine List.Sublist.trans (List.Sublist.map _ ?_) hsublist
        exact (List.Sublist.refl before).append (List.sublist_cons_self oldest after)
    · have hother : ∀ evt, op ≠ .update evt := fun evt heq => hupdate ⟨evt, heq⟩
      obtain ⟨hless, hnext, hkept⟩ := sublist_apply b hother
      rw [storedRecords, storedUpdates_other ops hother]
      exact ⟨hkept.trans hconfig, hnext.trans hid, hless.trans hsublist⟩

/-- In every run no type has more events than its maximum, the events that remain are in the order
in which they were stored, and an update stores its event behind the others: when there are as many
of the type as there may be, the oldest of them, and no other, makes room. -/
theorem events_bounded_in_order (config : EventBufferConfig) (ops : List Operation) :
    let b := run apply (initial config) ops
    (∀ type, b.numOfType type ≤ (config.getMaxEventsForType type).toNat) ∧
      (b.records.map SOERecord.event).Sublist (storedRecords config ops) ∧
      ∀ evt, Updates b evt (b.updateAny evt) := by
  have hbounded := bounded_run config ops
  obtain ⟨hconfig, -, hsublist⟩ := sublist_run config ops
  refine ⟨fun type => ?_, hsublist, hbounded.updates⟩
  have hle := hbounded.bounded type
  rwa [hconfig] at hle

end EventBuffer
end Outstation
end Dnp3
