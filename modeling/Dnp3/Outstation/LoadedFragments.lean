import Dnp3.Outstation.ConfirmedEvents
import Dnp3.Outstation.EventLoad

/-!
# What a loaded fragment leaves

The control field of a fragment says whether another one follows, and it is computed from what the
two loaders could write.  Whether the outstation goes on after the confirm is decided from the
counters of the event buffer and from the ranges of the database.  Here the two are shown to agree:
a fragment is the final one exactly when nothing is selected behind it.

A fragment in which an event was written is shorter than before by that event, so its confirm is
asked for.

For the events the two agree because the writer goes through the selected records in order and stops
only for one that does not fit: `Result.Ends` says how writing one header ends and `Written.Ends`
how writing all of them does, with the counters of the buffer next to the records that are left.
`Exact.load_complete` and `DatabaseBuffers.load_complete` are the two halves, and
`loadResponse_tells` is the fact about a whole response that `Outstation.ReadRuns` follows over a
run.
-/

namespace Dnp3
namespace Outstation

open App Library

/-! ## Writing events -/

namespace EventWriter

/-- Where writing a header ends: it is full only when there is more to write, what was passed needs
not be written any more, and records change only when room is taken. -/
structure Result.Ends (selectedCounts : EventCount) (room : Nat) (records : List SOERecord)
    (r : Result) : Prop where
  full : r.isFragmentFull = true →
    hasMoreUnwrittenEvents selectedCounts r.writtenCounts = true
  passed : ∀ record ∈ r.passed, isWritable record = false
  room_le : r.writer.remaining ≤ room
  unchanged : r.writer.remaining = room → r.passed ++ r.location = records

theorem Result.Ends.mono {selectedCounts : EventCount} {room room' : Nat}
    {records : List SOERecord} {r : Result} (h : r.Ends selectedCounts room records)
    (hle : room ≤ room') : r.Ends selectedCounts room' records := by
  refine ⟨h.full, h.passed, Nat.le_trans h.room_le hle, fun heq => h.unchanged ?_⟩
  have hroom := h.room_le
  omega

theorem isWritable_markWritten (r : SOERecord) : isWritable r.markWritten = false := by
  rw [isWritable, SOERecord.markWritten, Bool.not_true, Bool.and_false]

theorem writeRecords_ends {T : Type} (selectedCounts : EventCount)
    (value : SOERecord → Option T) (mark : Option Nat) (header : PrefixedWriteIterator T)
    (position : WSlice) (writtenCounts : EventCount) (records : List SOERecord) :
    (writeRecords selectedCounts value mark header position writtenCounts records).Ends
      selectedCounts position.size records := by
  have hstop : ∀ (header : PrefixedWriteIterator T) (position : WSlice)
      (writtenCounts : EventCount) (records : List SOERecord) (full : Bool),
      (full = true → hasMoreUnwrittenEvents selectedCounts writtenCounts = true) →
      Result.Ends selectedCounts position.size records
        ⟨⟨header.finish position, mark⟩, writtenCounts, [], records, full⟩ := by
    intro header position writtenCounts records full hfull
    refine ⟨hfull, fun record hrecord => (by cases hrecord), ?_, fun _ => rfl⟩
    exact Nat.le_of_eq (header.size_finish position)
  induction records generalizing header position writtenCounts with
  | nil => exact hstop header position writtenCounts [] false fun h => by cases h
  | cons record records ih =>
    rw [writeRecords]
    by_cases hmore : hasMoreUnwrittenEvents selectedCounts writtenCounts = true
    · simp only [hmore, Bool.not_true, Bool.false_eq_true, if_false]
      by_cases hwritable : isWritable record = true
      · rw [if_pos hwritable]
        cases value record with
        | none => exact hstop _ _ _ _ _ fun _ => hmore
        | some v =>
          dsimp only
          rcases hwrite : header.write position v record.index.toNat with ⟨⟨header', position'⟩, ok⟩
          cases ok with
          | true =>
            have hlt := PrefixedWriteIterator.size_write_lt hwrite
            have h := ih header' position' (writtenCounts.increment record.clazz record.type)
            have hroom := h.room_le
            refine ⟨h.full, fun r hr => ?_, Nat.le_trans hroom (Nat.le_of_lt hlt), fun heq => ?_⟩
            · rcases List.mem_cons.mp hr with rfl | hmem
              · exact isWritable_markWritten record
              · exact h.passed r hmem
            · have heq' : (writeRecords selectedCounts value mark header' position'
                  (writtenCounts.increment record.clazz record.type) records).writer.remaining =
                  position.size := heq
              omega
          | false =>
            have heq : (header', position') = (header, position) := by
              rw [PrefixedWriteIterator.write] at hwrite
              split at hwrite
              · cases hwrite
              · cases hwrite
                rfl
            cases heq
            exact hstop _ _ _ _ _ fun _ => hmore
      · rw [if_neg hwritable]
        have h := ih header position writtenCounts
        refine ⟨h.full, fun r hr => ?_, h.room_le, fun heq => ?_⟩
        · rcases List.mem_cons.mp hr with rfl | hmem
          · exact Bool.not_eq_true _ ▸ hwritable
          · exact h.passed r hmem
        · exact congrArg (record :: ·) (h.unchanged heq)
    · rw [Bool.not_eq_true] at hmore
      rw [hmore]
      exact hstop _ _ _ _ _ fun h => by cases h

theorem writeTypeWithSerializer_ends {T : Type} (selectedCounts : EventCount)
    (value : SOERecord → Option T) (writer : HeaderWriter) (serializer : DNP3Serializer T)
    (writtenCounts : EventCount) (records : List SOERecord) :
    (writeTypeWithSerializer selectedCounts value writer serializer writtenCounts records).Ends
      selectedCounts writer.remaining records :=
  (writeRecords_ends selectedCounts value _ _ _ writtenCounts records).mono
    (writer.follows_iterateOverCountWithPrefix _ _ serializer).remaining_le

theorem writeCTOTypeWithSerializer_ends {T : Type} (selectedCounts : EventCount)
    (value : SOERecord → Option T) (setTime : T → DNPTime → T) (writer : HeaderWriter)
    (serializer : DNP3Serializer T) (writtenCounts : EventCount) (records : List SOERecord) :
    (writeCTOTypeWithSerializer selectedCounts value setTime writer serializer writtenCounts
      records).Ends selectedCounts writer.remaining records :=
  (writeRecords_ends selectedCounts _ _ _ _ writtenCounts records).mono
    (writer.remaining_iterateOverCountWithPrefixAndCTO_le _ _ serializer _ _)

theorem loadHeader_ends (writer : HeaderWriter) (selectedCounts writtenCounts : EventCount)
    (records : List SOERecord) (record : SOERecord) :
    (loadHeader writer selectedCounts writtenCounts records record).Ends selectedCounts
      writer.remaining records := by
  unfold loadHeader
  split
  · unfold loadHeaderBinary
    split
    · exact writeTypeWithSerializer_ends ..
    · exact writeTypeWithSerializer_ends ..
    · exact writeCTOTypeWithSerializer_ends ..
  · unfold loadHeaderDoubleBinary
    split
    · exact writeTypeWithSerializer_ends ..
    · exact writeTypeWithSerializer_ends ..
    · exact writeCTOTypeWithSerializer_ends ..
  all_goals exact writeTypeWithSerializer_ends ..

/-- Where writing ends: something is left when the fragment is full, and otherwise the counters say
that nothing is left, or all records were passed. -/
structure Written.Ends (selectedCounts : EventCount) (room : Nat) (records : List SOERecord)
    (w : Written) : Prop where
  full : w.complete = false → hasMoreUnwrittenEvents selectedCounts w.writtenCounts = true
  complete : w.complete = true → hasMoreUnwrittenEvents selectedCounts w.writtenCounts = false ∨
    ∀ record ∈ w.records, isWritable record = false
  room_le : w.writer.remaining ≤ room
  unchanged : w.writer.remaining = room → w.records = records

theorem writeHeaders_ends (selectedCounts : EventCount) (fuel : Nat) (writer : HeaderWriter)
    (writtenCounts : EventCount) {records : List SOERecord} (hfuel : records.length ≤ fuel) :
    (writeHeaders selectedCounts fuel writer writtenCounts records).Ends selectedCounts
      writer.remaining records := by
  induction fuel generalizing writer writtenCounts records with
  | zero =>
    rw [List.length_eq_zero_iff.mp (Nat.le_zero.mp hfuel)]
    exact ⟨fun h => (by cases h), fun _ => .inr fun r hr => (by cases hr), Nat.le_refl _,
      fun _ => rfl⟩
  | succ fuel ih =>
    cases records with
    | nil =>
      exact ⟨fun h => (by cases h), fun _ => .inr fun r hr => (by cases hr), Nat.le_refl _,
        fun _ => rfl⟩
    | cons record records =>
      rw [List.length_cons] at hfuel
      rw [writeHeaders]
      by_cases hmore : hasMoreUnwrittenEvents selectedCounts writtenCounts = true
      · simp only [hmore, Bool.not_true, Bool.false_eq_true, if_false]
        by_cases hwritable : isWritable record = true
        · rw [if_pos hwritable]
          have hends := loadHeader_ends writer selectedCounts writtenCounts (record :: records)
            record
          have hprogress := loadHeader_progress hmore hwritable writer records
          generalize loadHeader writer selectedCounts writtenCounts (record :: records) record =
            result at hends hprogress ⊢
          by_cases hfull : result.isFragmentFull = true
          · rw [if_pos hfull]
            exact ⟨fun _ => hends.full hfull, fun h => (by cases h), hends.room_le, hends.unchanged⟩
          · rw [if_neg hfull]
            have hlen := hprogress (Bool.not_eq_true _ ▸ hfull)
            have hfuel' : result.location.length ≤ fuel := by omega
            have h := ih result.writer result.writtenCounts hfuel'
            have hroom := h.room_le
            have hroom' := hends.room_le
            refine ⟨h.full, fun hcomplete => ?_, Nat.le_trans hroom hroom', fun heq => ?_⟩
            · refine (h.complete hcomplete).imp_right fun hrest r hr => ?_
              rcases List.mem_append.mp hr with hmem | hmem
              · exact hends.passed r hmem
              · exact hrest r hmem
            · dsimp only at heq ⊢
              rw [h.unchanged (by omega)]
              exact hends.unchanged (by omega)
        · rw [if_neg hwritable]
          have h := ih writer writtenCounts (Nat.le_of_succ_le_succ hfuel)
          refine ⟨h.full, fun hcomplete => ?_, h.room_le, fun heq => ?_⟩
          · refine (h.complete hcomplete).imp_right fun hrest r hr => ?_
            rcases List.mem_cons.mp hr with rfl | hmem
            · exact Bool.not_eq_true _ ▸ hwritable
            · exact hrest r hmem
          · exact congrArg (record :: ·) (h.unchanged heq)
      · rw [Bool.not_eq_true] at hmore
        rw [hmore]
        exact ⟨fun h => (by cases h), fun _ => .inl hmore, Nat.le_refl _, fun _ => rfl⟩

end EventWriter

namespace EventBuffer

variable {b : EventBuffer}

/-- Some event is selected and not yet written, by the counters as by the records. -/
theorem Exact.hasAnySelection_iff (h : b.Exact) :
    b.hasAnySelection = true ↔ ∃ r ∈ b.records, EventWriter.isWritable r = true := by
  have hselected := h.selected.tallies .all
  have hwritten := h.written.tallies .all
  simp only [CountKey.coversRecord, CountKey.covers, Bool.and_true] at hselected hwritten
  have hsplit := countP_writable h.written_selected
  rw [hasAnySelection, decide_eq_true_eq, gt_iff_lt, UInt32.lt_iff_toNat_lt, ← List.countP_pos_iff]
  have hs : b.selectedCounts.total.toNat = b.records.countP SOERecord.selected := hselected
  have hw : b.writtenCounts.total.toNat = b.records.countP SOERecord.written := hwritten
  omega

/-- What was loaded is complete exactly when nothing is left to be written. -/
theorem Exact.load_complete (h : b.Exact) (w : HeaderWriter) :
    (b.load w).2.2 = !(b.load w).1.hasAnySelection := by
  have hends := EventWriter.writeHeaders_ends b.selectedCounts b.records.length w b.writtenCounts
    (Nat.le_refl _)
  have hexact := h.load w
  cases hcomplete : (b.load w).2.2 with
  | false =>
    have hmore : (b.load w).1.hasAnySelection = true := hends.full hcomplete
    rw [hmore]
    rfl
  | true =>
    have hnone : (b.load w).1.hasAnySelection = false := by
      rcases hends.complete hcomplete with hmore | hrecords
      · exact hmore
      · rw [← Bool.not_eq_true, hexact.hasAnySelection_iff]
        rintro ⟨r, hr, hwritable⟩
        have hnot : EventWriter.isWritable r = false := hrecords r hr
        rw [hwritable] at hnot
        cases hnot
    rw [hnone]
    rfl

/-- When something is written, there is less room. -/
theorem load_room (b : EventBuffer) (w : HeaderWriter) :
    newlyWritten b (b.load w).1 ≠ [] → (b.load w).2.1.remaining < w.remaining := by
  have hends := EventWriter.writeHeaders_ends b.selectedCounts b.records.length w b.writtenCounts
    (Nat.le_refl _)
  intro hevents
  refine Nat.lt_of_le_of_ne hends.room_le fun heq => hevents ?_
  have hrecords : (b.load w).1.records = b.records := hends.unchanged heq
  rw [newlyWritten, hrecords, List.map_eq_nil_iff, List.filter_eq_nil_iff]
  rintro ⟨r, r'⟩ hmem
  have hsame : r = r' := by
    rw [List.zip_eq_zipWith, List.zipWith_self, List.mem_map] at hmem
    obtain ⟨x, -, hx⟩ := hmem
    cases hx
    rfl
  rw [hsame]
  cases r'.written <;> decide

end EventBuffer

/-! ## Writing static data -/

namespace DatabaseBuffers

variable {t : StaticType} {I : Type}

/-- Writing stops for want of room only inside the range. -/
theorem isValid_loadWith {offer : I × WSlice → t.Value → (I × WSlice) × Bool}
    {variation : t.Variation} (fuel : Nat) (cells : List (Cell t)) (p : I × WSlice) (range : Range)
    (nextIndex : UInt16)
    (h : (loadWith offer variation fuel cells p range nextIndex).1.spaceRemaining = false) :
    (loadWith offer variation fuel cells p range nextIndex).1.range.isValid = true := by
  induction fuel generalizing cells p range nextIndex with
  | zero => cases h
  | succ fuel ih =>
    unfold loadWith at h ⊢
    split at h
    · cases h
    · split at h
      next hvalid =>
        rw [if_pos hvalid]
        split at h
        · exact ih _ _ _ _ h
        · exact hvalid.1
      next => cases h

theorem isValid_apply (w : StaticWriter t) (variation : t.Variation) (cells : List (Cell t))
    (writer : HeaderWriter) (range : Range)
    (h : (w.apply variation cells writer range).1.spaceRemaining = false) :
    (w.apply variation cells writer range).1.range.isValid = true := by
  cases w with
  | singleBitfield id => exact isValid_loadWith _ _ _ _ _ h
  | withSerializer s => exact isValid_loadWith _ _ _ _ _ h

theorem isValid_loadRange (fuel : Nat) (cells : List (Cell t)) (writer : HeaderWriter)
    (range : Range) (h : (loadRange fuel cells writer range).1.spaceRemaining = false) :
    (loadRange fuel cells writer range).1.range.isValid = true := by
  induction fuel generalizing cells writer range with
  | zero => cases h
  | succ fuel ih =>
    unfold loadRange at h ⊢
    split at h
    next hvalid =>
      rw [if_pos hvalid]
      split at h
      · cases h
      next c _ =>
        split at h
        next hselected =>
          rw [if_pos hselected]
          have hwritten := isValid_apply (getStaticWriter t c.selection.variation)
            c.selection.variation cells writer range
          generalize (getStaticWriter t c.selection.variation).apply c.selection.variation cells
            writer range = p at h hwritten ⊢
          obtain ⟨⟨cells', range', space⟩, writer'⟩ := p
          cases space with
          | true => exact ih _ _ _ h
          | false => exact hwritten rfl
        next hselected =>
          rw [if_neg hselected]
          exact ih _ _ _ h
    next => cases h

theorem isValid_loadTypes (types : List StaticType) (db : DatabaseBuffers) (w : HeaderWriter)
    (h : (loadTypes types db w).2.2 = false) :
    ∃ t ∈ types, ((loadTypes types db w).1.ranges t).isValid = true := by
  induction types generalizing db w with
  | nil => cases h
  | cons t types ih =>
    have hrange := (db.buffers_loadType t w).2
    have hsnd := db.loadType_snd t w
    have hvalid := isValid_loadRange (db.ranges t).count (db.buffers t).cells w (db.ranges t)
    rw [loadTypes] at h ⊢
    rcases hload : db.loadType t w with ⟨db₁, w₁, done⟩
    rw [hload] at h hrange hsnd
    cases done with
    | true =>
      obtain ⟨u, hu, hvalid'⟩ := ih db₁ w₁ h
      exact ⟨u, List.mem_cons_of_mem t hu, hvalid'⟩
    | false =>
      refine ⟨t, List.mem_cons_self, ?_⟩
      have hspace := (Prod.mk.inj hsnd).2
      rw [hrange]
      exact hvalid hspace.symm

/-- What was loaded is complete exactly when nothing is selected any more. -/
theorem load_complete {db : DatabaseBuffers} (hcovered : ∀ t, db.Covered t) (w : HeaderWriter) :
    (db.load w).2.2 = !(db.load w).1.hasAnySelection := by
  obtain ⟨objects, hspec⟩ := loadTypes_spec nodup_all hcovered w
  cases hcomplete : (db.load w).2.2 with
  | false =>
    have hany : (db.load w).1.hasAnySelection = true :=
      List.any_eq_true.mpr (isValid_loadTypes StaticType.all db w hcomplete)
    rw [hany]
    rfl
  | true =>
    have hnone : (db.load w).1.hasAnySelection = false := by
      rw [hasAnySelection, List.any_eq_false]
      intro t ht hvalid
      have hinvalid : (db.load w).1.ranges t = .invalid := (hspec.complete hcomplete t ht).2
      rw [hinvalid] at hvalid
      cases hvalid
    rw [hnone]
    rfl

theorem covered_load {db : DatabaseBuffers} (hcovered : ∀ t, db.Covered t) (w : HeaderWriter)
    (t : StaticType) : (db.load w).1.Covered t := by
  obtain ⟨objects, hspec⟩ := loadTypes_spec nodup_all hcovered w
  exact hspec.covered t

theorem SameSelection.hasAnySelection {db db' : DatabaseBuffers} (h : db.SameSelection db') :
    db'.hasAnySelection = db.hasAnySelection := by
  rw [DatabaseBuffers.hasAnySelection, DatabaseBuffers.hasAnySelection, h.2]

end DatabaseBuffers

/-! ## Fragments -/

namespace OContext

variable {W : Type}

/-- The counters of the event buffer are exact, and the ranges of the database hold all selected
points. -/
structure SelectionsExact (s : OContext W) : Prop where
  events : s.eventBuffer.Exact
  static : ∀ t, s.database.Covered t

/-- What a fragment of the response to a READ says. -/
structure FragmentSays (s loaded : OContext W) (control : AppControlField) (events : List Nat) :
    Prop where
  exact : loaded.SelectionsExact
  fir : control.FIR = (s.fragmentCount == 0)
  fin : control.FIN = !loaded.hasSelection
  con : control.FIN = false → control.CON = true
  con_events : events ≠ [] → control.CON = true
  count : loaded.fragmentCount = s.fragmentCount + 1

/-- The final fragment is the one behind which nothing is selected. -/
theorem loadResponse_tells {s : OContext W} (h : s.SelectionsExact) (writer : HeaderWriter) :
    FragmentSays s (s.loadResponse writer).1 (s.loadResponse writer).2.2.1
      (s.loadResponse writer).2.2.2 := by
  have hevents := h.events.load writer
  have hcomplete := h.events.load_complete writer
  have hroom := s.eventBuffer.load_room writer
  unfold loadResponse
  dsimp only
  generalize s.eventBuffer.load writer = loaded at hevents hcomplete hroom ⊢
  obtain ⟨eventBuffer, eventWriter, notFull⟩ := loaded
  dsimp only at hevents hcomplete hroom ⊢
  cases notFull with
  | true =>
    have hnone : eventBuffer.hasAnySelection = false := by
      rw [← Bool.not_eq_true', ← hcomplete]
    rw [if_pos rfl]
    refine ⟨⟨hevents, DatabaseBuffers.covered_load h.static eventWriter⟩, rfl, ?_, ?_, ?_, rfl⟩
    · show (s.database.load eventWriter).2.2 =
        !((s.database.load eventWriter).1.hasAnySelection || eventBuffer.hasAnySelection)
      rw [hnone, Bool.or_false, DatabaseBuffers.load_complete h.static]
    · intro hfin
      show (!(s.database.load eventWriter).2.2 || _) = true
      rw [show (s.database.load eventWriter).2.2 = false from hfin]
      rfl
    · intro hne
      show (_ || decide (eventWriter.remaining < writer.remaining)) = true
      rw [decide_eq_true (hroom hne), Bool.or_true]
  | false =>
    have hmore : eventBuffer.hasAnySelection = true := by
      rw [← Bool.not_eq_false', ← hcomplete]
    rw [if_neg Bool.false_ne_true]
    refine ⟨⟨hevents, h.static⟩, rfl, ?_, fun _ => rfl, fun _ => rfl, rfl⟩
    show false = !(s.database.hasAnySelection || eventBuffer.hasAnySelection)
    rw [hmore, Bool.or_true]
    rfl

end OContext
end Outstation
end Dnp3
