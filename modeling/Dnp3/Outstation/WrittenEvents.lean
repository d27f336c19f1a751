import Dnp3.Outstation.EventBounds
import Dnp3.Outstation.SelectBeforeOperate

/-!
# The records of a fragment

The records of the event buffer keep their identities while they are selected, written and
unselected; a record leaves the buffer when it is cleared after having been written, or when it is
discarded for a new event, and then it is the oldest of its type.

A record is written only when it was selected (`WrittenSelected`), a confirm clears the records that
are written and no others (`written_of_cleared`), and an update takes away at most the oldest record
of its type, when there was no room (`isDiscarded_of_updateAny`).  `Identified` says that the
identities of the records are different and increase with their age, and every operation keeps it.
These are the facts about the event buffer from which `Outstation.ConfirmedEvents` shows that no
event is lost before it has been confirmed.
-/

namespace Dnp3
namespace Outstation

open App Library Openpal

namespace EventBuffer

/-- The identities of the records, oldest first. -/
def ids (b : EventBuffer) : List Nat := b.records.map SOERecord.id

/-- No record is written. -/
def Unwritten (b : EventBuffer) : Prop := ∀ r ∈ b.records, r.written = false

/-- A record is written only when it is selected. -/
def WrittenSelected (b : EventBuffer) : Prop :=
  ∀ r ∈ b.records, r.written = true → r.selected = true

/-- The counter of the selected records has counted all of them. -/
def SelectionCounted (b : EventBuffer) : Prop :=
  b.records.countP SOERecord.selected ≤ b.selectedCounts.total.toNat

variable {b : EventBuffer}

theorem Exact.selectionCounted (h : b.Exact) : b.SelectionCounted := by
  have htotal := h.selected.tallies .all
  simp only [CountKey.coversRecord, CountKey.covers, Bool.and_true] at htotal
  exact Nat.le_of_eq htotal.symm

/-! ## Selecting and unselecting -/

/-- A record is reset, or stays as it is. -/
theorem mem_unselectRecords {l : List SOERecord} {s w : EventCount} {r : SOERecord}
    (h : r ∈ (unselectRecords l s w).records) : r ∈ l ∨ ∃ r' ∈ l, r = r'.reset := by
  induction l generalizing s w with
  | nil => cases h
  | cons r' l ih =>
    simp only [unselectRecords] at h
    split at h
    · rcases List.mem_cons.mp h with rfl | hmem
      · exact .inr ⟨r', List.mem_cons_self, rfl⟩
      · rcases ih hmem with hl | ⟨r'', hl, heq⟩
        · exact .inl (List.mem_cons_of_mem r' hl)
        · exact .inr ⟨r'', List.mem_cons_of_mem r' hl, heq⟩
    · rcases List.mem_cons.mp h with rfl | hmem
      · exact .inr ⟨r', List.mem_cons_self, rfl⟩
      · exact .inl (List.mem_cons_of_mem r' hmem)

@[simp] theorem ids_unselect (b : EventBuffer) : b.unselect.ids = b.ids :=
  map_unselectRecords (fun _ => rfl) _ _ _

theorem WrittenSelected.unselect (h : b.WrittenSelected) : b.unselect.WrittenSelected := by
  intro r hr hwritten
  rcases mem_unselectRecords hr with hmem | ⟨r', -, rfl⟩
  · exact h r hmem hwritten
  · cases hwritten

/-- All records are reset, if the counter has counted all that are selected. -/
theorem unwritten_unselect (h : b.WrittenSelected) (hcounted : b.SelectionCounted) :
    b.unselect.Unwritten := by
  intro r hr
  have hrecords : b.unselect.records = b.records.map SOERecord.reset :=
    unselectRecords_records hcounted h
  rw [hrecords, List.mem_map] at hr
  obtain ⟨r', -, rfl⟩ := hr
  rfl

@[simp] theorem ids_selectEvents (b : EventBuffer) (s : EventSelection) (max : UInt32) :
    (b.selectEvents s max).ids = b.ids := by
  have hid : ∀ r, (s.select r).id = r.id := fun r => by cases s <;> rfl
  rw [ids, records_selectEvents, map_modifyFirst hid, ids]

theorem written_selectEvents (b : EventBuffer) (s : EventSelection) (max : UInt32) :
    (b.selectEvents s max).records.map SOERecord.written = b.records.map SOERecord.written := by
  rw [records_selectEvents]
  exact map_modifyFirst s.written_select _ _

/-- A selection writes nothing. -/
theorem Unwritten.selectEvents (h : b.Unwritten) (s : EventSelection) (max : UInt32) :
    (b.selectEvents s max).Unwritten := by
  intro r hr
  have hmem := List.mem_map_of_mem (f := SOERecord.written) hr
  rw [written_selectEvents] at hmem
  obtain ⟨r', hr', heq⟩ := List.mem_map.mp hmem
  rw [← heq]
  exact h r' hr'

theorem WrittenSelected.selectEvents (h : b.WrittenSelected) (s : EventSelection) (max : UInt32) :
    (b.selectEvents s max).WrittenSelected := by
  intro r hr hwritten
  rw [records_selectEvents] at hr
  rcases mem_modifyFirst hr with hmem | ⟨r', -, -, rfl⟩
  · exact h r hmem hwritten
  · exact s.selected_select r'

/-! ## Writing and clearing -/

@[simp] theorem ids_load (b : EventBuffer) (writer : HeaderWriter) :
    (b.load writer).1.ids = b.ids :=
  (EventWriter.write_spec writer b.selectedCounts b.writtenCounts b.records).map_eq fun _ => rfl

theorem WrittenSelected.load (h : b.WrittenSelected) (writer : HeaderWriter) :
    (b.load writer).1.WrittenSelected :=
  (EventWriter.write_spec writer b.selectedCounts b.writtenCounts b.records).written_selected h

/-- Of records none of which was written, those that are written have just been written. -/
theorem mem_newlyWritten {b' : EventBuffer} (hids : b'.ids = b.ids) (h : b.Unwritten)
    {r : SOERecord} (hr : r ∈ b'.records) (hwritten : r.written = true) :
    r.id ∈ newlyWritten b b' := by
  obtain ⟨i, hi, rfl⟩ := List.mem_iff_getElem.mp hr
  have hlength : b'.records.length = b.records.length := by
    have hcongr := congrArg List.length hids
    rwa [ids, ids, List.length_map, List.length_map] at hcongr
  have hlt : i < b.records.length := hlength ▸ hi
  have hid : (b'.records[i]).id = (b.records[i]).id := by
    have hcongr := congrArg (·[i]?) hids
    simpa [ids, hi, hlt] using hcongr
  rw [newlyWritten, List.mem_map]
  refine ⟨(b.records[i], b'.records[i]), ?_, hid.symm⟩
  rw [List.mem_filter]
  constructor
  · rw [List.mem_iff_getElem]
    exact ⟨i, by rwa [List.length_zip, hlength, Nat.min_self], List.getElem_zip⟩
  · rw [h _ (List.getElem_mem _), hwritten]
    rfl

theorem mem_clearWritten {r : SOERecord} :
    r ∈ b.clearWritten.records ↔ r ∈ b.records ∧ r.written = false := by
  show r ∈ b.records.filter _ ↔ _
  rw [List.mem_filter, Bool.not_eq_true']

theorem unwritten_clearWritten (b : EventBuffer) : b.clearWritten.Unwritten :=
  fun _ hr => (mem_clearWritten.mp hr).2

theorem ids_clearWritten (b : EventBuffer) : b.clearWritten.ids.Sublist b.ids :=
  List.filter_sublist.map _

/-- A record that is cleared was written. -/
theorem written_of_cleared {r : SOERecord} (hr : r ∈ b.records)
    (hgone : r.id ∉ b.clearWritten.ids) :
    r.written = true := by
  cases hwritten : r.written with
  | true => rfl
  | false => exact absurd (List.mem_map_of_mem (mem_clearWritten.mpr ⟨hr, hwritten⟩)) hgone

/-! ## Updates -/

/-- The record is the oldest of its type, and there is no room for another one of this type. -/
def IsDiscarded (b : EventBuffer) (r : SOERecord) : Prop :=
  b.records.find? (fun r' => r'.type == r.type) = some r ∧
    ((b.totalCounts.numOfType r.type).toNat ≥ (b.config.getMaxEventsForType r.type).toNat ∨
      b.events.isFull = true)

/-- Every record is an old one or the new one. -/
theorem mem_addRecord {r new : SOERecord} (h : r ∈ (b.addRecord new).records) :
    r ∈ b.records ∨ r = new := by
  unfold addRecord at h
  split at h
  next events hadd =>
    rw [LinkedList.add] at hadd
    split at hadd
    · cases hadd
      rcases List.mem_append.mp h with hmem | hmem
      · exact .inl hmem
      · exact .inr (List.mem_singleton.mp hmem)
    · cases hadd
  · exact .inl h

/-- No record is lost when another one is added. -/
theorem mem_addRecord_of_mem {r : SOERecord} (new : SOERecord) (h : r ∈ b.records) :
    r ∈ (b.addRecord new).records := by
  unfold addRecord
  split
  next events hadd =>
    rw [LinkedList.add] at hadd
    split at hadd
    · cases hadd
      exact List.mem_append_left _ h
    · cases hadd
  · exact h

theorem records_removeOldestEventOfType (b : EventBuffer) (type : EventType) :
    (b.removeOldestEventOfType type).records = b.records.eraseP fun r => r.type == type := by
  unfold removeOldestEventOfType
  dsimp only
  split
  · rfl
  next hnone => rw [List.eraseP_of_forall_not (by simpa using hnone)]

/-- The records after an update are old ones, and a new one. -/
theorem mem_updateAny {evt : EventUpdate} {r : SOERecord} (h : r ∈ (b.updateAny evt).records) :
    r ∈ b.records ∨ r = .ofUpdate b.nextId evt := by
  unfold updateAny at h
  dsimp only at h
  split at h
  · rcases mem_addRecord h with hmem | heq
    · split at hmem
      · rw [records_removeOldestEventOfType] at hmem
        exact .inl (List.mem_of_mem_eraseP hmem)
      · exact .inl hmem
    · refine .inr ?_
      rw [heq]
      split
      · unfold removeOldestEventOfType
        dsimp only
        split <;> rfl
      · rfl
  · exact .inl h

/-- Only the oldest record of a type leaves the buffer in an update, when there is no room. -/
theorem isDiscarded_of_updateAny {evt : EventUpdate} {r : SOERecord} (hr : r ∈ b.records)
    (hgone : r.id ∉ (b.updateAny evt).ids) : b.IsDiscarded r := by
  have hnot : r ∉ (b.updateAny evt).records := fun h => hgone (List.mem_map_of_mem h)
  unfold updateAny at hnot
  dsimp only at hnot
  split at hnot
  · split at hnot
    next hfull =>
      have hnot' := fun h => hnot (mem_addRecord_of_mem _ h)
      rw [records_removeOldestEventOfType] at hnot'
      have hmatch : (r.type == evt.type) = true := by
        cases hm : r.type == evt.type with
        | true => rfl
        | false =>
          refine absurd ((List.mem_eraseP_of_neg ?_).mpr hr) hnot'
          rw [hm]
          exact Bool.false_ne_true
      have htype : r.type = evt.type := beq_iff_eq.mp hmatch
      rw [IsDiscarded, htype]
      refine ⟨?_, hfull⟩
      obtain ⟨d, l₁, l₂, hl₁, hd, hrecords, herase⟩ :=
        List.exists_of_eraseP (p := fun r' => r'.type == evt.type) hr hmatch
      have heq : r = d := by
        change r ∉ b.records.eraseP _ at hnot'
        rw [herase, List.mem_append, not_or] at hnot'
        rw [show b.records = l₁ ++ d :: l₂ from hrecords, List.mem_append, List.mem_cons] at hr
        rcases hr with h₁ | rfl | h₂
        · exact absurd h₁ hnot'.1
        · rfl
        · exact absurd h₂ hnot'.2
      rw [show b.records = l₁ ++ d :: l₂ from hrecords, List.find?_append,
        List.find?_eq_none.mpr fun x hx => hl₁ x hx, heq, Option.none_or, List.find?_cons, hd]
    next => exact absurd (mem_addRecord_of_mem _ hr) hnot
  · exact absurd hr hnot

/-- The records have different identities, which increase with their age. -/
structure Identified (b : EventBuffer) : Prop where
  increasing : b.ids.Pairwise (· < ·)
  bounded : ∀ id ∈ b.ids, id < b.nextId

namespace Identified

theorem initial (config : EventBufferConfig) : Identified (.initial config) :=
  ⟨.nil, fun _ h => by cases h⟩

theorem congr {b' : EventBuffer} (h : b.Identified) (hids : b'.ids = b.ids)
    (hnext : b'.nextId = b.nextId) : b'.Identified := by
  constructor
  · rw [hids]
    exact h.increasing
  · rw [hids, hnext]
    exact h.bounded

theorem sublist {b' : EventBuffer} (h : b.Identified) (hids : b'.ids.Sublist b.ids)
    (hnext : b'.nextId = b.nextId) : b'.Identified := by
  constructor
  · exact h.increasing.sublist hids
  · intro id hid
    rw [hnext]
    exact h.bounded id (hids.subset hid)

theorem removeOldestEventOfType (h : b.Identified) (type : EventType) :
    (b.removeOldestEventOfType type).Identified := by
  refine h.sublist ?_ ?_
  · rw [ids, records_removeOldestEventOfType]
    exact List.eraseP_sublist.map _
  · unfold EventBuffer.removeOldestEventOfType
    dsimp only
    split <;> rfl

theorem addRecord (h : b.Identified) {r : SOERecord} (hr : r.id = b.nextId) :
    (b.addRecord r).Identified := by
  unfold EventBuffer.addRecord
  split
  next events hadd =>
    rw [LinkedList.add] at hadd
    split at hadd
    · cases hadd
      have hids : (b.records ++ [r]).map SOERecord.id = b.ids ++ [b.nextId] := by
        rw [List.map_append, List.map_singleton, hr, ids]
      constructor
      · show ((b.records ++ [r]).map SOERecord.id).Pairwise (· < ·)
        rw [hids, List.pairwise_append]
        refine ⟨h.increasing, List.pairwise_singleton _ _, fun id hid id' hid' => ?_⟩
        rw [List.mem_singleton.mp hid']
        exact h.bounded id hid
      · show ∀ id ∈ (b.records ++ [r]).map SOERecord.id, id < b.nextId + 1
        intro id hid
        rw [hids, List.mem_append, List.mem_singleton] at hid
        rcases hid with hold | rfl
        · exact Nat.lt_succ_of_lt (h.bounded id hold)
        · exact Nat.lt_succ_self _
    · cases hadd
  · exact h

theorem updateAny (h : b.Identified) (evt : EventUpdate) : (b.updateAny evt).Identified := by
  unfold EventBuffer.updateAny
  dsimp only
  split
  · split
    · have hoverflow : Identified { b with overflow := true } := h.congr rfl rfl
      exact (hoverflow.removeOldestEventOfType evt.type).addRecord (SOERecord.id_ofUpdate _ evt)
    · exact h.addRecord (SOERecord.id_ofUpdate _ evt)
  · exact h

end Identified

end EventBuffer
end Outstation
end Dnp3
