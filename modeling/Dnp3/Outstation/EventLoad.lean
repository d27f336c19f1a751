import Dnp3.App.PrefixedRoom
import Dnp3.Master.MeasurementHandler
import Dnp3.Outstation.EventBounds

/-!
# Loading events

`Load` writes a front part of the records that are selected and not yet written, and the master's
handler reads back what was written: the same events in the same order, each with its index, with
its value as the serializer of its variation encodes it, and with its time where the variation has
one.  The variations with a relative time are written under a common time of occurrence, which the
handler adds again.

A header takes records one after the other, so that it is determined by the records that were passed
and the values taken from them (`Passes`); what the handler makes of it depends only on how the
values of its variation are read (`Format`).
-/

namespace Dnp3
namespace Outstation

open Library App Master

/-! ## Events as the master is to see them -/

/-- A value as its serializer encodes it. -/
def transmitted {T : Type} (s : DNP3Serializer T) (wrap : List (Indexed T) → Values) (v : T)
    (index : UInt16) : DecodedObject where
  gv := (GroupVariationRecord.getRecord s.id.group s.id.variation).enumeration
  value := wrap [⟨s.image v, index⟩]

/-- The object that a binary input is read as. -/
def EventBinaryVariation.object (v : Binary) (index : UInt16) :
    EventBinaryVariation → DecodedObject
  | .group2Var1 => transmitted App.group2Var1 .binary v index
  | .group2Var2 => transmitted App.group2Var2 .binary v index
  | .group2Var3 =>
    ⟨.group2Var3, .binary [⟨{ App.group2Var3.image v with time := v.time }, index⟩]⟩

/-- The object that a double-bit binary input is read as. -/
def EventDoubleBinaryVariation.object (v : DoubleBitBinary) (index : UInt16) :
    EventDoubleBinaryVariation → DecodedObject
  | .group4Var1 => transmitted App.group4Var1 .doubleBitBinary v index
  | .group4Var2 => transmitted App.group4Var2 .doubleBitBinary v index
  | .group4Var3 =>
    ⟨.group4Var3, .doubleBitBinary [⟨{ App.group4Var3.image v with time := v.time }, index⟩]⟩

/-- The serializer that a variation is written with. -/
def EventCounterVariation.serializer : EventCounterVariation → DNP3Serializer Counter
  | .group22Var1 => App.group22Var1
  | .group22Var2 => App.group22Var2
  | .group22Var5 => App.group22Var5
  | .group22Var6 => App.group22Var6

/-- The serializer that a variation is written with. -/
def EventFrozenCounterVariation.serializer :
    EventFrozenCounterVariation → DNP3Serializer FrozenCounter
  | .group23Var1 => App.group23Var1
  | .group23Var2 => App.group23Var2
  | .group23Var5 => App.group23Var5
  | .group23Var6 => App.group23Var6

/-- The serializer that a variation is written with. -/
def EventAnalogVariation.serializer : EventAnalogVariation → DNP3Serializer Analog
  | .group32Var1 => App.group32Var1
  | .group32Var2 => App.group32Var2
  | .group32Var3 => App.group32Var3
  | .group32Var4 => App.group32Var4
  | .group32Var5 => App.group32Var5
  | .group32Var6 => App.group32Var6
  | .group32Var7 => App.group32Var7
  | .group32Var8 => App.group32Var8

/-- The serializer that a variation is written with. -/
def EventBinaryOutputStatusVariation.serializer :
    EventBinaryOutputStatusVariation → DNP3Serializer BinaryOutputStatus
  | .group11Var1 => App.group11Var1
  | .group11Var2 => App.group11Var2

/-- The serializer that a variation is written with. -/
def EventAnalogOutputStatusVariation.serializer :
    EventAnalogOutputStatusVariation → DNP3Serializer AnalogOutputStatus
  | .group42Var1 => App.group42Var1
  | .group42Var2 => App.group42Var2
  | .group42Var3 => App.group42Var3
  | .group42Var4 => App.group42Var4
  | .group42Var5 => App.group42Var5
  | .group42Var6 => App.group42Var6
  | .group42Var7 => App.group42Var7
  | .group42Var8 => App.group42Var8

/-- How the values of a security statistic are handed over. -/
def EventSecurityStatVariation.serializer :
    EventSecurityStatVariation → DNP3Serializer SecurityStat
  | .group122Var1 => App.group122Var1
  | .group122Var2 => App.group122Var2

/-- The values that a variation is parsed as. -/
def EventSecurityStatVariation.wrap :
    EventSecurityStatVariation → List (Indexed SecurityStat) → Values
  | .group122Var1 => .group122Var1
  | .group122Var2 => .group122Var2

/-- The event of a record, in the variation that is selected. -/
def SOERecord.object (r : SOERecord) : DecodedObject :=
  match r.value with
  | .binary v => v.selectedVariation.object
    { value := v.value, quality := Flags.getBinaryQuality r.flags v.value, time := r.time } r.index
  | .doubleBitBinary v => v.selectedVariation.object
    { value := v.value, quality := DoubleBitBinary.getQual r.flags v.value, time := r.time } r.index
  | .binaryOutputStatus v => transmitted v.selectedVariation.serializer .binaryOutputStatus
    { value := v.value, quality := Flags.getBinaryQuality r.flags v.value, time := r.time } r.index
  | .counter v => transmitted v.selectedVariation.serializer .counter
    { value := v.value, quality := r.flags, time := r.time } r.index
  | .frozenCounter v => transmitted v.selectedVariation.serializer .frozenCounter
    { value := v.value, quality := r.flags, time := r.time } r.index
  | .analog v => transmitted v.selectedVariation.serializer .analog
    { value := v.value, quality := r.flags, time := r.time } r.index
  | .analogOutputStatus v => transmitted v.selectedVariation.serializer .analogOutputStatus
    { value := v.value, quality := r.flags, time := r.time } r.index
  | .securityStat v => transmitted v.selectedVariation.serializer v.selectedVariation.wrap
    { value := v.value, quality := r.flags, time := r.time } r.index

/-! ## The room of an event -/

/-- The room for a header with one value: group, variation and qualifier, a count, an index and the
value. -/
def headerRoom {T : Type} (s : DNP3Serializer T) : Nat := 3 + (2 * IndexType.uint16.SIZE + s.size)

/-- The room for a header of relative times with one value: a common time stands in front. -/
def headerRoomCTO {T : Type} (s : DNP3Serializer T) : Nat :=
  3 + (1 + App.group51Var1.size) + headerRoom s

/-- The room for a header with one binary event. -/
def EventBinaryVariation.needed : EventBinaryVariation → Nat
  | .group2Var1 => headerRoom App.group2Var1
  | .group2Var2 => headerRoom App.group2Var2
  | .group2Var3 => headerRoomCTO App.group2Var3

/-- The room for a header with one double-bit binary event. -/
def EventDoubleBinaryVariation.needed : EventDoubleBinaryVariation → Nat
  | .group4Var1 => headerRoom App.group4Var1
  | .group4Var2 => headerRoom App.group4Var2
  | .group4Var3 => headerRoomCTO App.group4Var3

/-- The room that a record needs in a header of its own. -/
def SOERecord.needed (r : SOERecord) : Nat :=
  match r.value with
  | .binary v => v.selectedVariation.needed
  | .doubleBitBinary v => v.selectedVariation.needed
  | .binaryOutputStatus v => headerRoom v.selectedVariation.serializer
  | .counter v => headerRoom v.selectedVariation.serializer
  | .frozenCounter v => headerRoom v.selectedVariation.serializer
  | .analog v => headerRoom v.selectedVariation.serializer
  | .analogOutputStatus v => headerRoom v.selectedVariation.serializer
  | .securityStat v => headerRoom v.selectedVariation.serializer

theorem headerRoom_le_headerRoomCTO {T : Type} (s : DNP3Serializer T) :
    headerRoom s ≤ headerRoomCTO s := Nat.le_add_left _ _

namespace EventWriter

/-! ## The records that a header takes -/

/-- A record that was passed: it is written when it was to be written. -/
def passRecord (r : SOERecord) : SOERecord := if isWritable r then r.markWritten else r

/-- Writing stops in front of a record to be written that does not fit in a header of its own. -/
def StopsAt (w : HeaderWriter) (rest : List SOERecord) : Prop :=
  ∃ record, rest.head? = some record ∧ isWritable record = true ∧
    w.position.size < record.needed

/-- Some records were passed, all that were to be written among them are, and where writing goes on
the counts still say how many are left.  A fragment is full in front of a record to be written for
which there is no room. -/
structure Passes (selectedCounts : EventCount) (records passed : List SOERecord) (r : Result) :
    Prop where
  split : records = passed ++ r.location
  marked : r.passed = passed.map passRecord
  count : selectedCounts.total.toNat =
    r.writtenCounts.total.toNat + r.location.countP isWritable
  full : r.isFragmentFull = true → StopsAt r.writer r.location

theorem Passes.stay {selectedCounts writtenCounts : EventCount} {records : List SOERecord}
    (writer : HeaderWriter)
    (hcount : selectedCounts.total.toNat =
      writtenCounts.total.toNat + records.countP isWritable) {full : Bool}
    (hfull : full = true → StopsAt writer records) :
    Passes selectedCounts records [] ⟨writer, writtenCounts, [], records, full⟩ :=
  ⟨rfl, rfl, hcount, hfull⟩

theorem Passes.pass {selectedCounts : EventCount} {records passed : List SOERecord} {r : Result}
    (h : Passes selectedCounts records passed r) (record : SOERecord) :
    Passes selectedCounts (record :: records) (record :: passed) (r.pass (passRecord record)) :=
  ⟨congrArg (record :: ·) h.split, congrArg (passRecord record :: ·) h.marked, h.count, h.full⟩

theorem passRecord_of_writable {r : SOERecord} (h : isWritable r = true) :
    passRecord r = r.markWritten := if_pos h

theorem passRecord_of_not_writable {r : SOERecord} (h : ¬ isWritable r = true) :
    passRecord r = r := if_neg h

/-- What the records that were passed gave to the header. -/
structure Takes {T : Type} (value : SOERecord → Option T) (passed : List SOERecord)
    (taken : List (SOERecord × T)) : Prop where
  writable : passed.filter isWritable = taken.map Prod.fst
  value : ∀ q ∈ taken, value q.1 = some q.2

/-- The values as the iterator is given them. -/
def offered {T : Type} (taken : List (SOERecord × T)) : List (Indexed T) :=
  taken.map fun q => ⟨q.2, q.1.index⟩

/-- There is more to write exactly when something is left. -/
theorem hasMore_iff {selectedCounts writtenCounts : EventCount} {records : List SOERecord}
    (hcount : selectedCounts.total.toNat =
      writtenCounts.total.toNat + records.countP isWritable) :
    hasMoreUnwrittenEvents selectedCounts writtenCounts = true ↔ 0 < records.countP isWritable := by
  rw [hasMoreUnwrittenEvents, decide_eq_true_eq, gt_iff_lt, UInt32.lt_iff_toNat_lt]
  omega

/-- Writing a record counts it. -/
theorem count_increment {selectedCounts writtenCounts : EventCount} {record : SOERecord}
    {records : List SOERecord} (hwritable : isWritable record = true)
    (hcount : selectedCounts.total.toNat =
      writtenCounts.total.toNat + (record :: records).countP isWritable) :
    selectedCounts.total.toNat =
      (writtenCounts.increment record.clazz record.type).total.toNat +
        records.countP isWritable := by
  rw [List.countP_cons_of_pos hwritable] at hcount
  have hlt := selectedCounts.total.toNat_lt
  show _ = (writtenCounts.total + 1).toNat + _
  rw [UInt32.toNat_add, UInt32.toNat_one, Nat.mod_eq_of_lt (by omega)]
  omega

section Loop

variable {T : Type} {selectedCounts writtenCounts : EventCount} {value : SOERecord → Option T}
  {s : DNP3Serializer T} {front : List UInt8} {p : PrefixedWriteIterator T × WSlice}

/-- The loop over the records of a header that was started. -/
theorem writeRecords_takes (hneeded : ∀ r v, value r = some v → headerRoom s ≤ r.needed)
    (mark : Option Nat) {values : List (Indexed T)}
    (hfilled : PrefixedWriteIterator.Filled front .uint16 s p values) {records : List SOERecord}
    (hcount : selectedCounts.total.toNat =
      writtenCounts.total.toNat + records.countP isWritable) :
    ∃ passed taken p', Passes selectedCounts records passed
        (writeRecords selectedCounts value mark p.1 p.2 writtenCounts records) ∧
      Takes value passed taken ∧
      PrefixedWriteIterator.Filled front .uint16 s p' (values ++ offered taken) ∧
      (writeRecords selectedCounts value mark p.1 p.2 writtenCounts records).writer.position =
        p'.1.finish p'.2 := by
  have hstay : ∀ {records : List SOERecord} {writtenCounts : EventCount} {full : Bool}
      {p : PrefixedWriteIterator T × WSlice} {values : List (Indexed T)},
      PrefixedWriteIterator.Filled front .uint16 s p values →
      selectedCounts.total.toNat = writtenCounts.total.toNat + records.countP isWritable →
      (full = true → StopsAt ⟨p.1.finish p.2, mark⟩ records) →
      ∃ passed taken p', Passes selectedCounts records passed
          ⟨⟨p.1.finish p.2, mark⟩, writtenCounts, [], records, full⟩ ∧
        Takes value passed taken ∧
        PrefixedWriteIterator.Filled front .uint16 s p' (values ++ offered taken) ∧
        p.1.finish p.2 = p'.1.finish p'.2 := by
    intro records writtenCounts full p values hfilled hcount hfull
    refine ⟨[], [], p, .stay _ hcount hfull, ⟨rfl, fun q hq => ?_⟩, ?_, rfl⟩
    · cases hq
    · rwa [offered, List.map_nil, List.append_nil]
  induction records generalizing p values writtenCounts with
  | nil => exact hstay hfilled hcount fun h => by cases h
  | cons record records ih =>
    rw [writeRecords]
    by_cases hmore : hasMoreUnwrittenEvents selectedCounts writtenCounts = true
    · rw [hmore]
      simp only [Bool.not_true, Bool.false_eq_true, if_false]
      by_cases hwritable : isWritable record = true
      · rw [if_pos hwritable]
        cases hvalue : value record with
        | none => exact hstay hfilled hcount fun h => by cases h
        | some v =>
          dsimp only
          rcases hwrite : p.1.write p.2 v record.index.toNat with ⟨p', ok⟩
          cases ok with
          | false =>
            have hrefused := hfilled.refused (v := ⟨v, record.index⟩) hwrite
            have hroom : p'.2.size < s.size + 2 := hfilled.full hwrite
            refine hstay hrefused hcount fun _ => ⟨record, rfl, hwritable, ?_⟩
            rw [PrefixedWriteIterator.size_finish]
            refine Nat.lt_of_lt_of_le hroom (Nat.le_trans ?_ (hneeded record v hvalue))
            unfold headerRoom IndexType.SIZE
            omega
          | true =>
            have htaken := hfilled.taken (v := ⟨v, record.index⟩) hwrite
            obtain ⟨passed, taken, p'', hpasses, htakes, hfilled', hfinish⟩ :=
              ih htaken (count_increment hwritable hcount)
            refine ⟨record :: passed, (record, v) :: taken, p'', ?_, ⟨?_, ?_⟩, ?_, hfinish⟩
            · rw [← passRecord_of_writable hwritable]
              exact hpasses.pass record
            · rw [List.filter_cons_of_pos hwritable, htakes.writable, List.map_cons]
            · intro q hq
              rcases List.mem_cons.mp hq with rfl | hmem
              · exact hvalue
              · exact htakes.value q hmem
            · rw [List.append_assoc] at hfilled'
              exact hfilled'
      · rw [if_neg hwritable]
        rw [List.countP_cons_of_neg hwritable] at hcount
        obtain ⟨passed, taken, p', hpasses, htakes, hfilled', hfinish⟩ := ih hfilled hcount
        refine ⟨record :: passed, taken, p', ?_, ⟨?_, htakes.value⟩, hfilled', hfinish⟩
        · have hpass := hpasses.pass record
          rwa [passRecord_of_not_writable hwritable] at hpass
        · rw [List.filter_cons_of_neg hwritable, htakes.writable]
    · rw [Bool.not_eq_true] at hmore
      rw [hmore]
      exact hstay hfilled hcount fun h => by cases h

/-- A header that was started takes its first record. -/
theorem writeRecords_first (hneeded : ∀ r v, value r = some v → headerRoom s ≤ r.needed)
    (mark : Option Nat) {values : List (Indexed T)}
    (hfilled : PrefixedWriteIterator.Filled front .uint16 s p values) {record : SOERecord}
    {records : List SOERecord} (hwritable : isWritable record = true) {v : T}
    (hvalue : value record = some v)
    (hroom : (p.1.write p.2 v record.index.toNat).2 = true)
    (hcount : selectedCounts.total.toNat =
      writtenCounts.total.toNat + (record :: records).countP isWritable) :
    ∃ passed taken p', Passes selectedCounts (record :: records) passed
        (writeRecords selectedCounts value mark p.1 p.2 writtenCounts (record :: records)) ∧
      Takes value passed taken ∧ taken ≠ [] ∧
      PrefixedWriteIterator.Filled front .uint16 s p' (values ++ offered taken) ∧
      (writeRecords selectedCounts value mark p.1 p.2 writtenCounts
        (record :: records)).writer.position = p'.1.finish p'.2 := by
  have hmore : hasMoreUnwrittenEvents selectedCounts writtenCounts = true := by
    rw [hasMore_iff hcount, List.countP_cons_of_pos hwritable]
    exact Nat.succ_pos _
  rcases hwrite : p.1.write p.2 v record.index.toNat with ⟨p', ok⟩
  rw [hwrite] at hroom
  dsimp only at hroom
  subst hroom
  have htaken := hfilled.taken (v := ⟨v, record.index⟩) hwrite
  obtain ⟨passed, taken, p'', hpasses, htakes, hfilled', hfinish⟩ :=
    @writeRecords_takes T _ _ value _ _ _ hneeded mark _ htaken _ (count_increment hwritable hcount)
  rw [writeRecords, hmore, hwritable, hvalue]
  dsimp only
  rw [hwrite]
  refine ⟨record :: passed, (record, v) :: taken, p'', ?_, ⟨?_, ?_⟩, List.cons_ne_nil _ _, ?_,
    hfinish⟩
  · have hpass := hpasses.pass record
    rwa [passRecord_of_writable hwritable] at hpass
  · rw [List.filter_cons_of_pos hwritable, htakes.writable, List.map_cons]
  · intro q hq
    rcases List.mem_cons.mp hq with rfl | hmem
    · exact hvalue
    · exact htakes.value q hmem
  · rw [List.append_assoc] at hfilled'
    exact hfilled'

/-- A header that was not started takes nothing. -/
theorem writeRecords_null (mark : Option Nat) (position : WSlice) {record : SOERecord}
    {records : List SOERecord} (hwritable : isWritable record = true) {v : T}
    (hvalue : value record = some v)
    (hcount : selectedCounts.total.toNat =
      writtenCounts.total.toNat + (record :: records).countP isWritable) :
    writeRecords selectedCounts value mark (.null .uint16 s) position writtenCounts
        (record :: records) =
      ⟨⟨position, mark⟩, writtenCounts, [], record :: records, true⟩ := by
  have hmore : hasMoreUnwrittenEvents selectedCounts writtenCounts = true := by
    rw [hasMore_iff hcount, List.countP_cons_of_pos hwritable]
    exact Nat.succ_pos _
  rw [writeRecords, hmore, hwritable, hvalue]
  rfl

end Loop

/-! ## What a header says -/

/-- The values that `value` takes from records are those of one type of events, their records need
the room of the serializer, and the parser reads them. -/
structure Format {T : Type} (s : DNP3Serializer T) (wrap : List (Indexed T) → Values)
    (value : SOERecord → Option T) (type : EventType) : Prop where
  supported : prefixReader (GroupVariationRecord.getRecord s.id.group s.id.variation).enumeration =
    some (.fixedSize s.codec wrap)
  type_eq : ∀ r v, value r = some v → r.type = type
  room : ∀ r v, value r = some v → headerRoom s ≤ r.needed

/-- The handler makes the events of their records of the values under a header. -/
def Reads {T : Type} (s : DNP3Serializer T) (wrap : List (Indexed T) → Values)
    (value : SOERecord → Option T) (h : MeasurementHandler) : Prop :=
  ∀ (record : HeaderRecord) (taken : List (SOERecord × T)),
    record.enumeration = (GroupVariationRecord.getRecord s.id.group s.id.variation).enumeration →
    (∀ q ∈ taken, value q.1 = some q.2) →
    MeasurementHandler.objects (h.processPrefixed record
        (wrap ((offered taken).map fun v => ⟨s.image v.value, v.index⟩))).1.processed =
      MeasurementHandler.objects h.processed ++ taken.map fun q => q.1.object

section Header

variable {T : Type} {s : DNP3Serializer T} {wrap : List (Indexed T) → Values}
  {value : SOERecord → Option T} {type : EventType}

/-- Not more values are taken than there are records of the type. -/
theorem Takes.length_lt (hformat : Format s wrap value type) {records passed rest : List SOERecord}
    {taken : List (SOERecord × T)} (h : Takes value passed taken)
    (hsplit : records = passed ++ rest)
    (hbound : records.countP (fun r => r.type == type) < 65536) : taken.length < 65536 := by
  refine Nat.lt_of_le_of_lt ?_ hbound
  have hall : (taken.map Prod.fst).countP (fun r => r.type == type) =
      (taken.map Prod.fst).length := by
    rw [List.countP_eq_length]
    intro r hr
    obtain ⟨q, hq, rfl⟩ := List.mem_map.mp hr
    rw [beq_iff_eq]
    exact hformat.type_eq _ _ (h.value q hq)
  rw [← List.length_map (f := Prod.fst), ← hall, ← h.writable, hsplit, List.countP_append]
  exact Nat.le_trans (List.Sublist.countP_le List.filter_sublist) (Nat.le_add_right _ _)

/-- A header that was started is one header for the handler, with the events of the records it has
taken. -/
theorem writeRecords_says (hformat : Format s wrap value type)
    {selectedCounts writtenCounts : EventCount} {w : HeaderWriter}
    {p : PrefixedWriteIterator T × WSlice}
    (hstarted : w.Started .uint16 .uint16CntUint16Index s p) (mark : Option Nat)
    {record : SOERecord} {records : List SOERecord} (hwritable : isWritable record = true) {v : T}
    (hvalue : value record = some v)
    (hcount : selectedCounts.total.toNat =
      writtenCounts.total.toNat + (record :: records).countP isWritable)
    (hbound : (record :: records).countP (fun r => r.type == type) < 65536) :
    ∃ passed bytes header, Passes selectedCounts (record :: records) passed
        (writeRecords selectedCounts value mark p.1 p.2 writtenCounts (record :: records)) ∧
      (writeRecords selectedCounts value mark p.1 p.2 writtenCounts
        (record :: records)).writer.position.written = w.position.written ++ bytes ∧
      ParsesHeaders bytes [header] ∧
      ∀ (h : MeasurementHandler) (count : Nat), Reads s wrap value h →
        MeasurementHandler.objects
            (MeasurementHandler.processHeader count h (header count)).1.processed =
          MeasurementHandler.objects h.processed ++
            (passed.filter isWritable).map SOERecord.object := by
  obtain ⟨passed, taken, p', hpasses, htakes, hsome, hfilled, hfinish⟩ := writeRecords_first
    hformat.room mark hstarted.filled hwritable hvalue (hstarted.taken v record.index.toNat) hcount
  rw [List.nil_append] at hfilled
  have hlen : (offered taken).length = taken.length := List.length_map _
  have hsupported : (Contents.prefixed s wrap (offered taken)).Supported := hformat.supported
  obtain ⟨bytes, hbytes, hparses⟩ := parsesHeaders_prefixed hfilled hsupported
    (by rw [hlen]; exact List.length_pos_iff.mpr hsome)
    (by rw [hlen]; exact htakes.length_lt hformat hpasses.split hbound)
  refine ⟨passed, bytes, _, hpasses, hfinish ▸ hbytes, hparses, fun h count hreads => ?_⟩
  rw [htakes.writable, List.map_map]
  exact hreads _ taken rfl htakes.value

/-- What a header passes and what its bytes say. -/
def Result.Says (selectedCounts : EventCount) (w : HeaderWriter) (records : List SOERecord)
    (r : Result) : Prop :=
  ∃ passed bytes headers, Passes selectedCounts records passed r ∧
    r.writer.position.written = w.position.written ++ bytes ∧ ParsesHeaders bytes headers ∧
    MeasurementHandler.Says headers ((passed.filter isWritable).map SOERecord.object)

/-- A header for which there is no room, in a writer that has gone back to where it was. -/
theorem Result.Says.null {selectedCounts writtenCounts : EventCount} {w : HeaderWriter}
    {position : WSlice} {mark : Option Nat} {record : SOERecord} {records : List SOERecord}
    (hposition : position.written = w.position.written) (hroom : position.size < record.needed)
    (hwritable : isWritable record = true)
    (hcount : selectedCounts.total.toNat =
      writtenCounts.total.toNat + (record :: records).countP isWritable) :
    Result.Says selectedCounts w (record :: records)
      ⟨⟨position, mark⟩, writtenCounts, [], record :: records, true⟩ := by
  refine ⟨[], [], [], .stay _ hcount fun _ => ⟨record, rfl, hwritable, hroom⟩, ?_, .nil, .nil⟩
  rw [List.append_nil]
  exact hposition

variable {selectedCounts writtenCounts : EventCount} {record : SOERecord}
  {records : List SOERecord} {v : T}

theorem writeTypeWithSerializer_says (hformat : Format s wrap value type)
    (hreads : ∀ h, Reads s wrap value h) (w : HeaderWriter) (hwritable : isWritable record = true)
    (hvalue : value record = some v)
    (hcount : selectedCounts.total.toNat =
      writtenCounts.total.toNat + (record :: records).countP isWritable)
    (hbound : (record :: records).countP (fun r => r.type == type) < 65536) :
    (writeTypeWithSerializer selectedCounts value w s writtenCounts (record :: records)).Says
      selectedCounts w (record :: records) := by
  rw [writeTypeWithSerializer]
  rcases w.iterateOverCountWithPrefix_started .uint16 .uint16CntUint16Index s with
    hnull | hstarted
  · rw [hnull]
    dsimp only
    rw [writeRecords_null _ _ hwritable hvalue hcount]
    have hroom := HeaderWriter.size_lt_of_null (congrArg Prod.snd hnull)
    exact .null rfl (Nat.lt_of_lt_of_le hroom (hformat.room record v hvalue)) hwritable hcount
  · obtain ⟨passed, bytes, header, hpasses, hbytes, hparses, hsaid⟩ := writeRecords_says hformat
      hstarted (w.iterateOverCountWithPrefix .uint16 .uint16CntUint16Index s).1.mark hwritable
      hvalue hcount hbound
    exact ⟨passed, bytes, [header], hpasses, hbytes, hparses,
      fun h count => hsaid h count (hreads h)⟩

/-- The values of records relative to a common time. -/
def relativeValues (value : SOERecord → Option T) (setTime : T → DNPTime → T) (cto : DNPTime)
    (r : SOERecord) : Option T :=
  (value r).bind (relativeTo cto setTime r)

/-- The handler adds the common time again. -/
theorem writeCTOTypeWithSerializer_says {setTime : T → DNPTime → T}
    (hformat : Format s wrap value type)
    (hneeded : ∀ r v, value r = some v → headerRoomCTO s ≤ r.needed)
    (hreads : ∀ h : MeasurementHandler, h.ctoMode = .synchronized →
      Reads s wrap (relativeValues value setTime h.commonTimeOccurence) h)
    (w : HeaderWriter) (hwritable : isWritable record = true) (hvalue : value record = some v)
    (htime : record.time.toNat < 2 ^ 48)
    (hcount : selectedCounts.total.toNat =
      writtenCounts.total.toNat + (record :: records).countP isWritable)
    (hbound : (record :: records).countP (fun r => r.type == type) < 65536) :
    (writeCTOTypeWithSerializer selectedCounts value setTime w s writtenCounts
      (record :: records)).Says selectedCounts w (record :: records) := by
  have hfirst : relativeValues value setTime record.time record = some (setTime v 0) := by
    rw [relativeValues, hvalue]
    exact relativeTo_self setTime record v
  have hrelative : Format s wrap (relativeValues value setTime record.time) type := by
    have hread : ∀ r v', relativeValues value setTime record.time r = some v' →
        ∃ v'', value r = some v'' := by
      intro r v' hv'
      obtain ⟨v'', hv'', -⟩ := Option.bind_eq_some_iff.mp hv'
      exact ⟨v'', hv''⟩
    refine ⟨hformat.supported, fun r v' hv' => ?_, fun r v' hv' => ?_⟩
    · obtain ⟨v'', hv''⟩ := hread r v' hv'
      exact hformat.type_eq r v'' hv''
    · obtain ⟨v'', hv''⟩ := hread r v' hv'
      exact hformat.room r v'' hv''
  rw [writeCTOTypeWithSerializer]
  show Result.Says selectedCounts w (record :: records) (writeRecords selectedCounts
    (relativeValues value setTime record.time) _ _ _ writtenCounts _)
  rcases w.iterateOverCountWithPrefixAndCTO_started .uint16 .uint16CntUint16Index s group51Var1
    record.time with ⟨hnull, hposition⟩ | ⟨w', hwritten, hstarted⟩
  · have hstop := writeRecords_null (s := s) (w.iterateOverCountWithPrefixAndCTO .uint16
      .uint16CntUint16Index s group51Var1 record.time).1.mark (w.iterateOverCountWithPrefixAndCTO
        .uint16 .uint16CntUint16Index s group51Var1 record.time).1.position hwritable hfirst hcount
    have hleft := w.remaining_iterateOverCountWithPrefixAndCTO_le .uint16 .uint16CntUint16Index s
      group51Var1 record.time
    have hroom := Nat.lt_of_le_of_lt hleft (HeaderWriter.size_lt_of_nullCTO hnull)
    rw [← hnull] at hstop
    refine Eq.mpr (congrArg _ hstop) ?_
    exact .null hposition (Nat.lt_of_lt_of_le hroom (hneeded record v hvalue)) hwritable hcount
  · obtain ⟨passed, bytes, header, hpasses, hbytes, hparses, hsaid⟩ := writeRecords_says hrelative
      hstarted (w.iterateOverCountWithPrefixAndCTO .uint16 .uint16CntUint16Index s group51Var1
        record.time).1.mark hwritable hfirst hcount hbound
    refine ⟨passed, _, _, hpasses, ?_, (parsesHeaders_cto htime).append hparses, ?_⟩
    · rw [← List.append_assoc, ← hwritten]
      exact hbytes
    · intro h count
      let h' : MeasurementHandler :=
        { h with ctoMode := .synchronized, commonTimeOccurence := record.time }
      exact hsaid h' (count + 1) (hreads h' rfl)

/-- A handler that passes the values on as they are reads their events. -/
theorem reads_of_passed (hsingles : ∀ vs, (wrap vs).singles = vs.map fun v => wrap [v])
    (hpassed : ∀ (h : MeasurementHandler) (record : HeaderRecord) (vs : List (Indexed T)),
      record.enumeration =
        (GroupVariationRecord.getRecord s.id.group s.id.variation).enumeration →
      h.processPrefixed record (wrap vs) =
        h.loadValues record (MeasurementHandler.modeFromType record.enumeration) (wrap vs))
    (hobject : ∀ r v, value r = some v → r.object = transmitted s wrap v r.index)
    (h : MeasurementHandler) : Reads s wrap value h := by
  intro record taken henumeration hvalue
  rw [hpassed h record _ henumeration, MeasurementHandler.objects_loadValues, hsingles]
  refine congrArg _ ?_
  rw [offered, List.map_map, List.map_map, List.map_map]
  refine List.map_congr_left fun q hq => ?_
  rw [hobject q.1 q.2 (hvalue q hq), transmitted, ← henumeration]
  rfl

end Header

/-! ## The formats of the types -/

/-- What is known of a record that is written as a binary event. -/
theorem readBinary_eq {variation : EventBinaryVariation} {r : SOERecord} {v : Binary}
    (h : readBinary variation r = some v) :
    r.type = .binary ∧ r.needed = variation.needed ∧ r.time = v.time ∧
      r.object = variation.object v r.index := by
  rw [readBinary] at h
  split at h
  next value hvalue =>
    split at h
    next hvariation =>
      cases h
      refine ⟨?_, ?_, rfl, ?_⟩
      · rw [SOERecord.type, hvalue]
        rfl
      · rw [SOERecord.needed, hvalue, ← hvariation]
      · rw [SOERecord.object, hvalue, ← hvariation]
    next => cases h
  next => cases h

theorem readDoubleBitBinary_eq {variation : EventDoubleBinaryVariation} {r : SOERecord}
    {v : DoubleBitBinary} (h : readDoubleBitBinary variation r = some v) :
    r.type = .doubleBitBinary ∧ r.needed = variation.needed ∧ r.time = v.time ∧
      r.object = variation.object v r.index := by
  rw [readDoubleBitBinary] at h
  split at h
  next value hvalue =>
    split at h
    next hvariation =>
      cases h
      refine ⟨?_, ?_, rfl, ?_⟩
      · rw [SOERecord.type, hvalue]
        rfl
      · rw [SOERecord.needed, hvalue, ← hvariation]
      · rw [SOERecord.object, hvalue, ← hvariation]
    next => cases h
  next => cases h

theorem readBinaryOutputStatus_eq {variation : EventBinaryOutputStatusVariation} {r : SOERecord}
    {v : BinaryOutputStatus} (h : readBinaryOutputStatus variation r = some v) :
    r.type = .binaryOutputStatus ∧ r.needed = headerRoom variation.serializer ∧
      r.object = transmitted variation.serializer .binaryOutputStatus v r.index := by
  rw [readBinaryOutputStatus] at h
  split at h
  next value hvalue =>
    split at h
    next hvariation =>
      cases h
      rw [SOERecord.type, SOERecord.needed, SOERecord.object, hvalue, ← hvariation]
      exact ⟨rfl, rfl, rfl⟩
    next => cases h
  next => cases h

theorem readCounter_eq {variation : EventCounterVariation} {r : SOERecord} {v : Counter}
    (h : readCounter variation r = some v) :
    r.type = .counter ∧ r.needed = headerRoom variation.serializer ∧
      r.object = transmitted variation.serializer .counter v r.index := by
  rw [readCounter] at h
  split at h
  next value hvalue =>
    split at h
    next hvariation =>
      cases h
      rw [SOERecord.type, SOERecord.needed, SOERecord.object, hvalue, ← hvariation]
      exact ⟨rfl, rfl, rfl⟩
    next => cases h
  next => cases h

theorem readFrozenCounter_eq {variation : EventFrozenCounterVariation} {r : SOERecord}
    {v : FrozenCounter} (h : readFrozenCounter variation r = some v) :
    r.type = .frozenCounter ∧ r.needed = headerRoom variation.serializer ∧
      r.object = transmitted variation.serializer .frozenCounter v r.index := by
  rw [readFrozenCounter] at h
  split at h
  next value hvalue =>
    split at h
    next hvariation =>
      cases h
      rw [SOERecord.type, SOERecord.needed, SOERecord.object, hvalue, ← hvariation]
      exact ⟨rfl, rfl, rfl⟩
    next => cases h
  next => cases h

theorem readAnalog_eq {variation : EventAnalogVariation} {r : SOERecord} {v : Analog}
    (h : readAnalog variation r = some v) :
    r.type = .analog ∧ r.needed = headerRoom variation.serializer ∧
      r.object = transmitted variation.serializer .analog v r.index := by
  rw [readAnalog] at h
  split at h
  next value hvalue =>
    split at h
    next hvariation =>
      cases h
      rw [SOERecord.type, SOERecord.needed, SOERecord.object, hvalue, ← hvariation]
      exact ⟨rfl, rfl, rfl⟩
    next => cases h
  next => cases h

theorem readAnalogOutputStatus_eq {variation : EventAnalogOutputStatusVariation} {r : SOERecord}
    {v : AnalogOutputStatus} (h : readAnalogOutputStatus variation r = some v) :
    r.type = .analogOutputStatus ∧ r.needed = headerRoom variation.serializer ∧
      r.object = transmitted variation.serializer .analogOutputStatus v r.index := by
  rw [readAnalogOutputStatus] at h
  split at h
  next value hvalue =>
    split at h
    next hvariation =>
      cases h
      rw [SOERecord.type, SOERecord.needed, SOERecord.object, hvalue, ← hvariation]
      exact ⟨rfl, rfl, rfl⟩
    next => cases h
  next => cases h

theorem readSecurityStat_eq {variation : EventSecurityStatVariation} {r : SOERecord}
    {v : SecurityStat} (h : readSecurityStat variation r = some v) :
    r.type = .securityStat ∧ r.needed = headerRoom variation.serializer ∧
      r.object = transmitted variation.serializer variation.wrap v r.index := by
  rw [readSecurityStat] at h
  split at h
  next value hvalue =>
    split at h
    next hvariation =>
      cases h
      rw [SOERecord.type, SOERecord.needed, SOERecord.object, hvalue, ← hvariation]
      exact ⟨rfl, rfl, rfl⟩
    next => cases h
  next => cases h

/-! ## Relative times -/

theorem image_group2Var3 (v : Binary) :
    group2Var3.image v = Binary.ofQuality v.quality (relativeTime v.time.toUInt16) := by
  have hlossless : (Layout.qv Codec.uint16).Lossless :=
    Codec.lossless_uint8.prod Codec.lossless_uint16
  rw [DNP3Serializer.image, group2Var3, Codec.image_map, hlossless]
  rfl

theorem image_group4Var3 (v : DoubleBitBinary) :
    group4Var3.image v = DoubleBitBinary.ofQuality v.quality (relativeTime v.time.toUInt16) := by
  have hlossless : (Layout.qv Codec.uint16).Lossless :=
    Codec.lossless_uint8.prod Codec.lossless_uint16
  rw [DNP3Serializer.image, group4Var3, Codec.image_map, hlossless]
  rfl

/-- A time that can be expressed relative to a common time is that sum. -/
theorem relativeTo_eq {T : Type} {cto : DNPTime} {setTime : T → DNPTime → T} {r : SOERecord}
    {v v' : T} (h : relativeTo cto setTime r v = some v') :
    v' = setTime v (r.time - cto) ∧ relativeTime (r.time - cto).toUInt16 + cto = r.time := by
  rw [relativeTo] at h
  split at h
  · cases h
  · split at h
    · cases h
    next hle =>
      cases h
      refine ⟨rfl, ?_⟩
      rw [gt_iff_lt, UInt64.not_lt, UInt64.le_iff_toNat_le] at hle
      have hsame : relativeTime (r.time - cto).toUInt16 = r.time - cto := by
        refine UInt64.toNat_inj.mp ?_
        rw [relativeTime, UInt16.toNat_toUInt64, UInt64.toNat_toUInt16]
        exact Nat.mod_eq_of_lt (Nat.lt_succ_of_le hle)
      rw [hsame, UInt64.sub_add_cancel]

/-- The handler restores the times of binaries. -/
theorem reads_group2Var3 (h : MeasurementHandler) (hmode : h.ctoMode = .synchronized) :
    Reads group2Var3 .binary (relativeValues (readBinary .group2Var3)
      (fun v time => { v with time := time }) h.commonTimeOccurence) h := by
  intro record taken hgv hvalue
  have hgv : record.enumeration = .group2Var3 := hgv
  rw [MeasurementHandler.processPrefixed, if_pos hgv, MeasurementHandler.processWithCTO,
    if_neg (by rw [hmode]; decide), MeasurementHandler.objects_loadValues]
  refine congrArg _ ?_
  simp only [MeasurementHandler.addTime, Values.singles, offered, List.map_map]
  refine List.map_congr_left fun q hq => ?_
  obtain ⟨v, hv, hrelative⟩ := Option.bind_eq_some_iff.mp (hvalue q hq)
  obtain ⟨-, -, htime, hobject⟩ := readBinary_eq hv
  obtain ⟨hv', hsum⟩ := relativeTo_eq hrelative
  rw [hobject, EventBinaryVariation.object, ← htime, ← hsum, ← hgv]
  simp only [Function.comp_apply, image_group2Var3, hv', Binary.ofQuality]

theorem reads_group4Var3 (h : MeasurementHandler) (hmode : h.ctoMode = .synchronized) :
    Reads group4Var3 .doubleBitBinary (relativeValues (readDoubleBitBinary .group4Var3)
      (fun v time => { v with time := time }) h.commonTimeOccurence) h := by
  intro record taken hgv hvalue
  have hgv : record.enumeration = .group4Var3 := hgv
  rw [MeasurementHandler.processPrefixed, if_pos hgv, MeasurementHandler.processWithCTO,
    if_neg (by rw [hmode]; decide), MeasurementHandler.objects_loadValues]
  refine congrArg _ ?_
  simp only [MeasurementHandler.addTime, Values.singles, offered, List.map_map]
  refine List.map_congr_left fun q hq => ?_
  obtain ⟨v, hv, hrelative⟩ := Option.bind_eq_some_iff.mp (hvalue q hq)
  obtain ⟨-, -, htime, hobject⟩ := readDoubleBitBinary_eq hv
  obtain ⟨hv', hsum⟩ := relativeTo_eq hrelative
  rw [hobject, EventDoubleBinaryVariation.object, ← htime, ← hsum, ← hgv]
  simp only [Function.comp_apply, image_group4Var3, hv', DoubleBitBinary.ofQuality]

/-! ## Headers by type -/

section LoadHeader

variable {selectedCounts writtenCounts : EventCount} {record : SOERecord}
  {records : List SOERecord} (w : HeaderWriter) (hwritable : isWritable record = true)
  (hcount : selectedCounts.total.toNat =
    writtenCounts.total.toNat + (record :: records).countP isWritable)
  (hbound : ∀ type, (record :: records).countP (fun r => r.type == type) < 65536)

include hwritable hcount hbound

/-- Output status events are written under one header and read back. -/
theorem loadHeaderBinaryOutputStatus_says {variation : EventBinaryOutputStatusVariation}
    {v : BinaryOutputStatus} (hvalue : readBinaryOutputStatus variation record = some v) :
    (loadHeaderBinaryOutputStatus w selectedCounts writtenCounts (record :: records)
      variation).Says selectedCounts w (record :: records) := by
  have hformat : Format variation.serializer .binaryOutputStatus (readBinaryOutputStatus variation)
      .binaryOutputStatus :=
    ⟨by cases variation <;> rfl, fun r v hv => (readBinaryOutputStatus_eq hv).1,
      fun r v hv => Nat.le_of_eq (readBinaryOutputStatus_eq hv).2.1.symm⟩
  have hreads := reads_of_passed (fun _ => rfl) (fun _ _ _ _ => rfl)
    (fun r v hv => (readBinaryOutputStatus_eq hv).2.2) (s := variation.serializer)
  have hsaid := writeTypeWithSerializer_says hformat hreads w hwritable hvalue hcount
    (hbound .binaryOutputStatus)
  cases variation <;> exact hsaid

/-- Counter events are written under one header and read back. -/
theorem loadHeaderCounter_says {variation : EventCounterVariation} {v : Counter}
    (hvalue : readCounter variation record = some v) :
    (loadHeaderCounter w selectedCounts writtenCounts (record :: records) variation).Says
      selectedCounts w (record :: records) := by
  have hformat : Format variation.serializer .counter (readCounter variation) .counter :=
    ⟨by cases variation <;> rfl, fun r v hv => (readCounter_eq hv).1,
      fun r v hv => Nat.le_of_eq (readCounter_eq hv).2.1.symm⟩
  have hreads := reads_of_passed (fun _ => rfl) (fun _ _ _ _ => rfl)
    (fun r v hv => (readCounter_eq hv).2.2) (s := variation.serializer)
  have hsaid := writeTypeWithSerializer_says hformat hreads w hwritable hvalue hcount
    (hbound .counter)
  cases variation <;> exact hsaid

theorem loadHeaderFrozenCounter_says {variation : EventFrozenCounterVariation} {v : FrozenCounter}
    (hvalue : readFrozenCounter variation record = some v) :
    (loadHeaderFrozenCounter w selectedCounts writtenCounts (record :: records) variation).Says
      selectedCounts w (record :: records) := by
  have hformat : Format variation.serializer .frozenCounter (readFrozenCounter variation)
      .frozenCounter :=
    ⟨by cases variation <;> rfl, fun r v hv => (readFrozenCounter_eq hv).1,
      fun r v hv => Nat.le_of_eq (readFrozenCounter_eq hv).2.1.symm⟩
  have hreads := reads_of_passed (fun _ => rfl) (fun _ _ _ _ => rfl)
    (fun r v hv => (readFrozenCounter_eq hv).2.2) (s := variation.serializer)
  have hsaid := writeTypeWithSerializer_says hformat hreads w hwritable hvalue hcount
    (hbound .frozenCounter)
  cases variation <;> exact hsaid

theorem loadHeaderAnalog_says {variation : EventAnalogVariation} {v : Analog}
    (hvalue : readAnalog variation record = some v) :
    (loadHeaderAnalog w selectedCounts writtenCounts (record :: records) variation).Says
      selectedCounts w (record :: records) := by
  have hformat : Format variation.serializer .analog (readAnalog variation) .analog :=
    ⟨by cases variation <;> rfl, fun r v hv => (readAnalog_eq hv).1,
      fun r v hv => Nat.le_of_eq (readAnalog_eq hv).2.1.symm⟩
  have hreads := reads_of_passed (fun _ => rfl) (fun _ _ _ _ => rfl)
    (fun r v hv => (readAnalog_eq hv).2.2) (s := variation.serializer)
  have hsaid := writeTypeWithSerializer_says hformat hreads w hwritable hvalue hcount
    (hbound .analog)
  cases variation <;> exact hsaid

theorem loadHeaderAnalogOutputStatus_says {variation : EventAnalogOutputStatusVariation}
    {v : AnalogOutputStatus} (hvalue : readAnalogOutputStatus variation record = some v) :
    (loadHeaderAnalogOutputStatus w selectedCounts writtenCounts (record :: records)
      variation).Says selectedCounts w (record :: records) := by
  have hformat : Format variation.serializer .analogOutputStatus (readAnalogOutputStatus variation)
      .analogOutputStatus :=
    ⟨by cases variation <;> rfl, fun r v hv => (readAnalogOutputStatus_eq hv).1,
      fun r v hv => Nat.le_of_eq (readAnalogOutputStatus_eq hv).2.1.symm⟩
  have hreads := reads_of_passed (fun _ => rfl) (fun _ _ _ _ => rfl)
    (fun r v hv => (readAnalogOutputStatus_eq hv).2.2) (s := variation.serializer)
  have hsaid := writeTypeWithSerializer_says hformat hreads w hwritable hvalue hcount
    (hbound .analogOutputStatus)
  cases variation <;> exact hsaid

theorem loadHeaderSecurityStat_says {variation : EventSecurityStatVariation} {v : SecurityStat}
    (hvalue : readSecurityStat variation record = some v) :
    (loadHeaderSecurityStat w selectedCounts writtenCounts (record :: records) variation).Says
      selectedCounts w (record :: records) := by
  have hformat : Format variation.serializer variation.wrap (readSecurityStat variation)
      .securityStat :=
    ⟨by cases variation <;> rfl, fun r v hv => (readSecurityStat_eq hv).1,
      fun r v hv => Nat.le_of_eq (readSecurityStat_eq hv).2.1.symm⟩
  have hreads := reads_of_passed (fun _ => by cases variation <;> rfl)
    (fun _ _ _ _ => by cases variation <;> rfl) (fun r v hv => (readSecurityStat_eq hv).2.2)
    (s := variation.serializer)
  have hsaid := writeTypeWithSerializer_says hformat hreads w hwritable hvalue hcount
    (hbound .securityStat)
  cases variation <;> exact hsaid

/-- Binary events with relative times go under a common time of occurrence. -/
theorem loadHeaderBinary_says (htime : record.time.toNat < 2 ^ 48)
    {variation : EventBinaryVariation} {v : Binary}
    (hvalue : readBinary variation record = some v) :
    (loadHeaderBinary w selectedCounts writtenCounts (record :: records) variation).Says
      selectedCounts w (record :: records) := by
  have htype : ∀ r v, readBinary variation r = some v → r.type = .binary :=
    fun r v hv => (readBinary_eq hv).1
  have hobject : ∀ r v, readBinary variation r = some v → r.object = variation.object v r.index :=
    fun r v hv => (readBinary_eq hv).2.2.2
  have hneeded : ∀ r v, readBinary variation r = some v → r.needed = variation.needed :=
    fun r v hv => (readBinary_eq hv).2.1
  cases variation with
  | group2Var1 =>
    have hroom : ∀ r v, readBinary .group2Var1 r = some v →
        headerRoom group2Var1 ≤ r.needed := fun r v hv => Nat.le_of_eq (hneeded r v hv).symm
    have hreads := reads_of_passed (s := group2Var1) (fun _ => rfl) (fun h record vs hgv => by
      rw [MeasurementHandler.processPrefixed, if_neg (by rw [hgv]; decide)]) hobject
    exact writeTypeWithSerializer_says ⟨rfl, htype, hroom⟩ hreads w hwritable hvalue hcount
      (hbound .binary)
  | group2Var2 =>
    have hroom : ∀ r v, readBinary .group2Var2 r = some v →
        headerRoom group2Var2 ≤ r.needed := fun r v hv => Nat.le_of_eq (hneeded r v hv).symm
    have hreads := reads_of_passed (s := group2Var2) (fun _ => rfl) (fun h record vs hgv => by
      rw [MeasurementHandler.processPrefixed, if_neg (by rw [hgv]; decide)]) hobject
    exact writeTypeWithSerializer_says ⟨rfl, htype, hroom⟩ hreads w hwritable hvalue hcount
      (hbound .binary)
  | group2Var3 =>
    have hroom : ∀ r v, readBinary .group2Var3 r = some v →
        headerRoomCTO group2Var3 ≤ r.needed := fun r v hv => Nat.le_of_eq (hneeded r v hv).symm
    exact writeCTOTypeWithSerializer_says ⟨rfl, htype, fun r v hv => Nat.le_trans
      (headerRoom_le_headerRoomCTO _) (hroom r v hv)⟩ hroom reads_group2Var3 w hwritable hvalue
        htime hcount (hbound .binary)

theorem loadHeaderDoubleBinary_says (htime : record.time.toNat < 2 ^ 48)
    {variation : EventDoubleBinaryVariation} {v : DoubleBitBinary}
    (hvalue : readDoubleBitBinary variation record = some v) :
    (loadHeaderDoubleBinary w selectedCounts writtenCounts (record :: records) variation).Says
      selectedCounts w (record :: records) := by
  have htype : ∀ r v, readDoubleBitBinary variation r = some v → r.type = .doubleBitBinary :=
    fun r v hv => (readDoubleBitBinary_eq hv).1
  have hobject : ∀ r v, readDoubleBitBinary variation r = some v →
      r.object = variation.object v r.index :=
    fun r v hv => (readDoubleBitBinary_eq hv).2.2.2
  have hneeded : ∀ r v, readDoubleBitBinary variation r = some v → r.needed = variation.needed :=
    fun r v hv => (readDoubleBitBinary_eq hv).2.1
  cases variation with
  | group4Var1 =>
    have hroom : ∀ r v, readDoubleBitBinary .group4Var1 r = some v →
        headerRoom group4Var1 ≤ r.needed := fun r v hv => Nat.le_of_eq (hneeded r v hv).symm
    have hreads := reads_of_passed (s := group4Var1) (fun _ => rfl) (fun h record vs hgv => by
      rw [MeasurementHandler.processPrefixed, if_neg (by rw [hgv]; decide)]) hobject
    exact writeTypeWithSerializer_says ⟨rfl, htype, hroom⟩ hreads w hwritable hvalue hcount
      (hbound .doubleBitBinary)
  | group4Var2 =>
    have hroom : ∀ r v, readDoubleBitBinary .group4Var2 r = some v →
        headerRoom group4Var2 ≤ r.needed := fun r v hv => Nat.le_of_eq (hneeded r v hv).symm
    have hreads := reads_of_passed (s := group4Var2) (fun _ => rfl) (fun h record vs hgv => by
      rw [MeasurementHandler.processPrefixed, if_neg (by rw [hgv]; decide)]) hobject
    exact writeTypeWithSerializer_says ⟨rfl, htype, hroom⟩ hreads w hwritable hvalue hcount
      (hbound .doubleBitBinary)
  | group4Var3 =>
    have hroom : ∀ r v, readDoubleBitBinary .group4Var3 r = some v →
        headerRoomCTO group4Var3 ≤ r.needed := fun r v hv => Nat.le_of_eq (hneeded r v hv).symm
    exact writeCTOTypeWithSerializer_says ⟨rfl, htype, fun r v hv => Nat.le_trans
      (headerRoom_le_headerRoomCTO _) (hroom r v hv)⟩ hroom reads_group4Var3 w hwritable hvalue
        htime hcount (hbound .doubleBitBinary)

/-- The header for the first record says a front of the records. -/
theorem loadHeader_says (htime : record.time.toNat < 2 ^ 48) :
    (loadHeader w selectedCounts writtenCounts (record :: records) record).Says selectedCounts w
      (record :: records) := by
  rw [loadHeader]
  cases hvalue : record.value with
  | binary v =>
    exact loadHeaderBinary_says w hwritable hcount hbound htime
      (by rw [readBinary, hvalue]; exact if_pos rfl)
  | doubleBitBinary v =>
    exact loadHeaderDoubleBinary_says w hwritable hcount hbound htime
      (by rw [readDoubleBitBinary, hvalue]; exact if_pos rfl)
  | binaryOutputStatus v =>
    exact loadHeaderBinaryOutputStatus_says w hwritable hcount hbound
      (by rw [readBinaryOutputStatus, hvalue]; exact if_pos rfl)
  | counter v =>
    exact loadHeaderCounter_says w hwritable hcount hbound
      (by rw [readCounter, hvalue]; exact if_pos rfl)
  | frozenCounter v =>
    exact loadHeaderFrozenCounter_says w hwritable hcount hbound
      (by rw [readFrozenCounter, hvalue]; exact if_pos rfl)
  | analog v =>
    exact loadHeaderAnalog_says w hwritable hcount hbound
      (by rw [readAnalog, hvalue]; exact if_pos rfl)
  | analogOutputStatus v =>
    exact loadHeaderAnalogOutputStatus_says w hwritable hcount hbound
      (by rw [readAnalogOutputStatus, hvalue]; exact if_pos rfl)
  | securityStat v =>
    exact loadHeaderSecurityStat_says w hwritable hcount hbound
      (by rw [readSecurityStat, hvalue]; exact if_pos rfl)

end LoadHeader

/-! ## All headers -/

/-- What was passed in a fragment, what is left, and what the fragment says.  When it is not
complete, the first record that is left did not fit. -/
structure Writes (w : HeaderWriter) (records passed rest : List SOERecord) (bytes : List UInt8)
    (headers : List (Nat → ObjectHeader)) (r : Written) : Prop where
  split : records = passed ++ rest
  marked : r.records = passed.map passRecord ++ rest
  complete : r.complete = true ↔ rest.countP isWritable = 0
  stops : r.complete = false → StopsAt r.writer rest
  written : r.writer.position.written = w.position.written ++ bytes
  parses : ParsesHeaders bytes headers
  said : MeasurementHandler.Says headers ((passed.filter isWritable).map SOERecord.object)

theorem Writes.stay (w : HeaderWriter) (c : EventCount) {records : List SOERecord}
    (hnone : records.countP isWritable = 0) :
    Writes w records [] records [] [] ⟨w, c, records, true⟩ :=
  ⟨rfl, rfl, iff_of_true rfl hnone, Bool.noConfusion, (List.append_nil _).symm, .nil, .nil⟩

/-- Header by header, the fragment says the records that were written. -/
theorem writeHeaders_says {selectedCounts : EventCount} (fuel : Nat) (w : HeaderWriter)
    {writtenCounts : EventCount} {records : List SOERecord} (hfuel : records.length ≤ fuel)
    (hcount : selectedCounts.total.toNat =
      writtenCounts.total.toNat + records.countP isWritable)
    (hbound : ∀ type, records.countP (fun r => r.type == type) < 65536)
    (htimes : ∀ r ∈ records, r.time.toNat < 2 ^ 48) :
    ∃ passed rest bytes headers, Writes w records passed rest bytes headers
      (writeHeaders selectedCounts fuel w writtenCounts records) := by
  induction fuel generalizing w writtenCounts records with
  | zero =>
    rw [List.length_eq_zero_iff.mp (Nat.le_zero.mp hfuel)]
    exact ⟨_, _, _, _, .stay w writtenCounts rfl⟩
  | succ fuel ih =>
    cases records with
    | nil => exact ⟨_, _, _, _, .stay w writtenCounts rfl⟩
    | cons record records =>
      rw [List.length_cons] at hfuel
      rw [writeHeaders]
      by_cases hmore : hasMoreUnwrittenEvents selectedCounts writtenCounts = true
      · simp only [hmore, Bool.not_true, Bool.false_eq_true, if_false]
        by_cases hwritable : isWritable record = true
        · rw [if_pos hwritable]
          obtain ⟨passed, bytes, headers, hpasses, hbytes, hparses, hsaid⟩ :=
            loadHeader_says w hwritable hcount hbound (htimes record List.mem_cons_self)
          have hprogress := loadHeader_progress hmore hwritable w records
          generalize loadHeader w selectedCounts writtenCounts (record :: records) record = result
            at hpasses hbytes hprogress ⊢
          by_cases hfull : result.isFragmentFull = true
          · rw [if_pos hfull]
            obtain ⟨next, hnext, hleft, -⟩ := hpasses.full hfull
            refine ⟨passed, result.location, bytes, headers, hpasses.split, ?_, ?_,
              fun _ => hpasses.full hfull, hbytes, hparses, hsaid⟩
            · rw [← hpasses.marked]
            · refine iff_of_false Bool.false_ne_true ?_
              obtain ⟨rest, hrest⟩ := List.head?_eq_some_iff.mp hnext
              rw [hrest, List.countP_cons_of_pos hleft]
              exact Nat.succ_ne_zero _
          · rw [if_neg hfull]
            have hlen := hprogress (Bool.not_eq_true _ ▸ hfull)
            have hbound' : ∀ type, result.location.countP (fun r => r.type == type) < 65536 := by
              intro type
              refine Nat.lt_of_le_of_lt ?_ (hbound type)
              rw [hpasses.split, List.countP_append]
              exact Nat.le_add_left _ _
            have htimes' : ∀ r ∈ result.location, r.time.toNat < 2 ^ 48 := by
              intro r hr
              refine htimes r ?_
              rw [hpasses.split]
              exact List.mem_append_right _ hr
            obtain ⟨passed', rest, bytes', headers', h⟩ := ih result.writer (by omega)
              hpasses.count hbound' htimes'
            refine ⟨passed ++ passed', rest, bytes ++ bytes', headers ++ headers', ?_, ?_,
              h.complete, h.stops, ?_, hparses.append h.parses, ?_⟩
            · rw [hpasses.split, h.split, List.append_assoc]
            · rw [List.map_append, List.append_assoc, ← hpasses.marked, ← h.marked]
            · exact h.written.trans (by rw [hbytes, List.append_assoc])
            · rw [List.filter_append, List.map_append]
              exact hsaid.append h.said
        · rw [if_neg hwritable]
          rw [List.countP_cons_of_neg hwritable] at hcount
          have hbound' : ∀ type, records.countP (fun r => r.type == type) < 65536 := fun type =>
            Nat.lt_of_le_of_lt (List.Sublist.countP_le (List.sublist_cons_self _ _)) (hbound type)
          obtain ⟨passed, rest, bytes, headers, h⟩ := ih w (Nat.le_of_succ_le_succ hfuel) hcount
            hbound' fun r hr => htimes r (List.mem_cons_of_mem _ hr)
          refine ⟨record :: passed, rest, bytes, headers, ?_, ?_, h.complete, h.stops, h.written,
            h.parses, ?_⟩
          · rw [h.split]
            rfl
          · rw [List.map_cons, passRecord_of_not_writable hwritable]
            exact congrArg (record :: ·) h.marked
          · rw [List.filter_cons_of_neg hwritable]
            exact h.said
      · have hnone := (hasMore_iff hcount).not.mp hmore
        rw [Bool.not_eq_true] at hmore
        rw [hmore]
        exact ⟨_, _, _, _, .stay w writtenCounts (Nat.eq_zero_of_not_pos hnone)⟩

end EventWriter

/-! ## Times -/

theorem image_time {t : DNPTime} (h : t.toNat < 2 ^ 48) : dnpTime.image t = t := by
  rw [image_dnpTime, Nat.min_eq_left (Nat.le_sub_one_of_lt h), UInt64.ofNat_toNat]

/-- A variation with a time transmits the time of the record. -/
theorem SOERecord.time_object {r : SOERecord} (htime : r.time.toNat < 2 ^ 48)
    (htimed : typeHasTimestamp r.object.gv = true) : r.object.value.time = some r.time := by
  rw [SOERecord.object] at htimed ⊢
  cases hvalue : r.value with
  | binary v =>
    rw [hvalue] at htimed
    dsimp only at htimed ⊢
    cases hvariation : v.selectedVariation with
    | group2Var1 =>
      rw [hvariation] at htimed
      cases htimed
    | group2Var2 =>
      simp only [EventBinaryVariation.object, transmitted, Values.time, DNP3Serializer.image,
        App.group2Var2, Codec.image_map, Layout.qt, Codec.image_prod, convertQT, image_time htime,
        Binary.ofQuality]
    | group2Var3 => rfl
  | doubleBitBinary v =>
    rw [hvalue] at htimed
    dsimp only at htimed ⊢
    cases hvariation : v.selectedVariation with
    | group4Var1 =>
      rw [hvariation] at htimed
      cases htimed
    | group4Var2 =>
      simp only [EventDoubleBinaryVariation.object, transmitted, Values.time, DNP3Serializer.image,
        App.group4Var2, Codec.image_map, Layout.qt, Codec.image_prod, convertQT, image_time htime,
        DoubleBitBinary.ofQuality]
    | group4Var3 => rfl
  | binaryOutputStatus v =>
    rw [hvalue] at htimed
    dsimp only at htimed ⊢
    cases hvariation : v.selectedVariation with
    | group11Var1 =>
      rw [hvariation] at htimed
      cases htimed
    | group11Var2 =>
      simp only [transmitted, Values.time, DNP3Serializer.image,
        EventBinaryOutputStatusVariation.serializer, App.group11Var2, Codec.image_map, Layout.qt,
        Codec.image_prod, convertQT, image_time htime, BinaryOutputStatus.ofQuality]
  | counter v =>
    rw [hvalue] at htimed
    dsimp only at htimed ⊢
    cases hvariation : v.selectedVariation with
    | group22Var1 | group22Var2 =>
      rw [hvariation] at htimed
      cases htimed
    | group22Var5 | group22Var6 =>
      simp only [transmitted, Values.time, DNP3Serializer.image, EventCounterVariation.serializer,
        App.group22Var5, App.group22Var6, Codec.image_map, Layout.qvt, Codec.image_prod, convertQVT,
        convertQVTandTruncate, image_time htime, counterFactory]
  | frozenCounter v =>
    rw [hvalue] at htimed
    dsimp only at htimed ⊢
    cases hvariation : v.selectedVariation with
    | group23Var1 | group23Var2 =>
      rw [hvariation] at htimed
      cases htimed
    | group23Var5 | group23Var6 =>
      simp only [transmitted, Values.time, DNP3Serializer.image,
        EventFrozenCounterVariation.serializer, App.group23Var5, App.group23Var6, Codec.image_map,
        Layout.qvt, Codec.image_prod, convertQVT, convertQVTandTruncate, image_time htime,
        frozenCounterFactory]
  | analog v =>
    rw [hvalue] at htimed
    dsimp only at htimed ⊢
    cases hvariation : v.selectedVariation with
    | group32Var1 | group32Var2 | group32Var5 | group32Var6 =>
      rw [hvariation] at htimed
      cases htimed
    | group32Var3 | group32Var4 | group32Var7 | group32Var8 =>
      simp only [transmitted, Values.time, DNP3Serializer.image, EventAnalogVariation.serializer,
        App.group32Var3, App.group32Var4, App.group32Var7, App.group32Var8, Codec.image_map,
        Layout.qvt, Codec.image_prod, convertQVT, convertQVTRangeCheck, image_time htime,
        analogFactory]
  | analogOutputStatus v =>
    rw [hvalue] at htimed
    dsimp only at htimed ⊢
    cases hvariation : v.selectedVariation with
    | group42Var1 | group42Var2 | group42Var5 | group42Var6 =>
      rw [hvariation] at htimed
      cases htimed
    | group42Var3 | group42Var4 | group42Var7 | group42Var8 =>
      simp only [transmitted, Values.time, DNP3Serializer.image,
        EventAnalogOutputStatusVariation.serializer, App.group42Var3, App.group42Var4,
        App.group42Var7, App.group42Var8, Codec.image_map, Layout.qvt, Codec.image_prod, convertQVT,
        convertQVTRangeCheck, image_time htime, analogOutputStatusFactory]
  | securityStat v =>
    rw [hvalue] at htimed
    dsimp only at htimed ⊢
    cases hvariation : v.selectedVariation with
    | group122Var1 =>
      rw [hvariation] at htimed
      cases htimed
    | group122Var2 =>
      simp only [transmitted, Values.time, DNP3Serializer.image,
        EventSecurityStatVariation.serializer, EventSecurityStatVariation.wrap, App.group122Var2,
        Codec.image_map, Codec.image_prod, image_time htime, securityStatFactory]

/-! ## Load -/

namespace EventBuffer

/-- The counts of the records that are selected and of those that are written are exact. -/
structure CountsExact (b : EventBuffer) : Prop where
  selected : b.selectedCounts.total.toNat = b.records.countP SOERecord.selected
  written : b.writtenCounts.total.toNat = b.records.countP SOERecord.written
  written_selected : ∀ r ∈ b.records, r.written = true → r.selected = true

/-- The records to be written are the selected ones without those that are written. -/
theorem countP_writable {l : List SOERecord}
    (h : ∀ r ∈ l, r.written = true → r.selected = true) :
    l.countP SOERecord.selected =
      l.countP SOERecord.written + l.countP EventWriter.isWritable := by
  induction l with
  | nil => rfl
  | cons r l ih =>
    have hrest := ih fun r' hr' => h r' (List.mem_cons_of_mem r hr')
    have hr := h r List.mem_cons_self
    rw [List.countP_cons, List.countP_cons, List.countP_cons, hrest, EventWriter.isWritable]
    cases hs : r.selected <;> cases hw : r.written
    · simp
    · rw [hs] at hr
      cases hr hw
    · simp
      omega
    · simp
      omega

/-- What `Load` does to a buffer, and what the fragment says to the master. -/
structure LoadsFront (b : EventBuffer) (w : HeaderWriter) (passed rest : List SOERecord)
    (bytes : List UInt8) : Prop where
  split : b.records = passed ++ rest
  marked : (b.load w).1.records = passed.map EventWriter.passRecord ++ rest
  complete : (b.load w).2.2 = true ↔
    ∀ r ∈ (b.load w).1.records, r.selected = true → r.written = true
  stops : (b.load w).2.2 = false → EventWriter.StopsAt (b.load w).2.1 rest
  written : (b.load w).2.1.position.written = w.position.written ++ bytes
  parsed : (MeasurementHandler.processMeasurements bytes).1 = .ok
  measured : MeasurementHandler.objects (MeasurementHandler.processMeasurements bytes).2 =
    (passed.filter EventWriter.isWritable).map SOERecord.object
  timed : ∀ r ∈ passed.filter EventWriter.isWritable,
    typeHasTimestamp r.object.gv = true → r.object.value.time = some r.time

/-- In every state with exact counts, `Load` marks as written the records to be written in a front
part of the sequence of events and says whether nothing is left; otherwise the first record left
over does not fit into the room that is left.  The master reads back exactly the events that were
written. -/
theorem load_front (config : EventBufferConfig) (ops : List Operation)
    (hexact : (run apply (initial config) ops).CountsExact)
    (htimes : ∀ r ∈ (run apply (initial config) ops).records, r.time.toNat < 2 ^ 48)
    (w : HeaderWriter) :
    ∃ passed rest bytes, (run apply (initial config) ops).LoadsFront w passed rest bytes := by
  have hbounded := (bounded_run config ops).bounded
  generalize run apply (initial config) ops = b at hexact htimes hbounded ⊢
  have hcount : b.selectedCounts.total.toNat =
      b.writtenCounts.total.toNat + b.records.countP EventWriter.isWritable := by
    rw [hexact.selected, hexact.written, countP_writable hexact.written_selected]
  obtain ⟨passed, rest, bytes, headers, h⟩ := EventWriter.writeHeaders_says b.records.length w
    (Nat.le_refl _) hcount (fun type => Nat.lt_of_le_of_lt (hbounded type) (UInt16.toNat_lt _))
    htimes
  obtain ⟨hparsed, hmeasured⟩ := MeasurementHandler.processMeasurements_of_says h.parses h.said
  refine ⟨passed, rest, bytes, h.split, h.marked, ?_, h.stops, h.written, hparsed, hmeasured, ?_⟩
  · refine h.complete.trans ?_
    rw [List.countP_eq_zero, show (b.load w).1.records = _ from h.marked]
    constructor
    · intro hnone r hr hs
      rcases List.mem_append.mp hr with hmem | hmem
      · obtain ⟨r', -, rfl⟩ := List.mem_map.mp hmem
        by_cases hwritable : EventWriter.isWritable r' = true
        · rw [EventWriter.passRecord_of_writable hwritable]
          rfl
        · rw [EventWriter.passRecord_of_not_writable hwritable] at hs ⊢
          rw [EventWriter.isWritable, hs, Bool.true_and, Bool.not_eq_true', Bool.not_eq_false]
            at hwritable
          exact hwritable
      · have hwritable := hnone r hmem
        rw [EventWriter.isWritable, hs, Bool.true_and, Bool.not_eq_true', Bool.not_eq_false]
          at hwritable
        exact hwritable
    · intro hall r hr hwritable
      rw [EventWriter.isWritable, Bool.and_eq_true, Bool.not_eq_true'] at hwritable
      have hw := hall r (List.mem_append_right _ hr) hwritable.1
      rw [hwritable.2] at hw
      cases hw
  · intro r hr htimed
    refine r.time_object (htimes r ?_) htimed
    rw [h.split]
    exact List.mem_append_left _ (List.mem_of_mem_filter hr)

/-- A change of a binary point that is reported with a relative time. -/
def timedUpdate (index : UInt16) (time : DNPTime) : EventUpdate :=
  .binary ⟨{ value := true, quality := 0x81, time := time }, index, .ec1, .group2Var3⟩

/-- Three events are selected; the second one is earlier than the first, so that it starts a header
with a common time of its own, and for the third one there is no room. -/
theorem load_front_timed :
    let b := run apply (initial (.allTypes 4))
      [.update (timedUpdate 0 1000), .update (timedUpdate 1 998), .update (timedUpdate 2 999),
        .selectAll .group2Var0]
    let w := HeaderWriter.ofSlice (.ofMemory (List.replicate 40 0))
    (b.CountsExact ∧ ∀ r ∈ b.records, r.time.toNat < 2 ^ 48) ∧
      (∃ passed rest bytes, b.LoadsFront w passed rest bytes) ∧
      (b.load w).1.records.map SOERecord.written = [true, true, false] ∧
      (b.load w).2.2 = false := by
  intro b w
  have hexact : b.CountsExact := ⟨by decide, by decide, by decide⟩
  have htimes : ∀ r ∈ b.records, r.time.toNat < 2 ^ 48 := by decide
  refine ⟨⟨hexact, htimes⟩, load_front (.allTypes 4)
    [.update (timedUpdate 0 1000), .update (timedUpdate 1 998), .update (timedUpdate 2 999),
      .selectAll .group2Var0] hexact htimes w, ?_, ?_⟩
  · decide +kernel
  · decide +kernel

end EventBuffer
end Outstation
end Dnp3
