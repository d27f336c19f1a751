import Dnp3.App.HeaderWriter
import Dnp3.Outstation.SOERecord

/-!
# Writing events

`EventWriter` goes through the records in order and writes those that are selected and not yet
written, as many as fit.  Consecutive records of one type and variation share a header of
index-prefixed objects; a record of another kind, or one whose time is too far from the common time
of the header, ends the header, and the next header starts with it.

A loop over the list gives the records it has passed and those from which to go on.  The writer asks
its recorder, the event buffer, whether there is more to write; the answer depends on the selected
count, which stays, and on the written count, which grows with each record.
-/

namespace Dnp3
namespace Outstation

open App

namespace EventWriter

/-- `HasMoreUnwrittenEvents` of the recorder. -/
def hasMoreUnwrittenEvents (selectedCounts writtenCounts : EventCount) : Bool :=
  selectedCounts.total > writtenCounts.total

/-- The event is selected, and in no fragment yet. -/
def isWritable (record : SOERecord) : Bool := record.selected && !record.written

/-- Where writing one header has come to. -/
structure Result where
  writer : HeaderWriter
  writtenCounts : EventCount
  /-- The records that were passed. -/
  passed : List SOERecord
  /-- The records from which to go on. -/
  location : List SOERecord
  isFragmentFull : Bool

/-- The same with one more record passed. -/
def Result.pass (record : SOERecord) (r : Result) : Result :=
  { r with passed := record :: r.passed }

section Loop

variable {T : Type} (selectedCounts : EventCount) (value : SOERecord → Option T)

/-- The loop over the records of one header.  `value` is the value of a record that belongs under
the header.  At the end the header is finished. -/
def writeRecords (mark : Option Nat) : PrefixedWriteIterator T → WSlice → EventCount →
    List SOERecord → Result
  | header, position, writtenCounts, [] =>
    { writer := ⟨header.finish position, mark⟩, writtenCounts := writtenCounts, passed := [],
      location := [], isFragmentFull := false }
  | header, position, writtenCounts, record :: records =>
    if !hasMoreUnwrittenEvents selectedCounts writtenCounts then
      -- nothing follows this location, because nothing more is unwritten
      { writer := ⟨header.finish position, mark⟩, writtenCounts := writtenCounts, passed := [],
        location := record :: records, isFragmentFull := false }
    else if isWritable record then
      match value record with
      | some v =>
        match header.write position v record.index.toNat with
        | ((header, position), true) =>
          (writeRecords mark header position
            (writtenCounts.increment record.clazz record.type) records).pass record.markWritten
        | ((header, position), false) =>
          { writer := ⟨header.finish position, mark⟩, writtenCounts := writtenCounts, passed := [],
            location := record :: records, isFragmentFull := true }
      | none =>
        { writer := ⟨header.finish position, mark⟩, writtenCounts := writtenCounts, passed := [],
          location := record :: records, isFragmentFull := false }
    else (writeRecords mark header position writtenCounts records).pass record

/-- Write a header for the records that `value` takes. -/
def writeTypeWithSerializer (writer : HeaderWriter) (serializer : DNP3Serializer T)
    (writtenCounts : EventCount) (records : List SOERecord) : Result :=
  let (writer, header) :=
    writer.iterateOverCountWithPrefix .uint16 .uint16CntUint16Index serializer
  writeRecords selectedCounts value writer.mark header writer.position writtenCounts records

/-- The value with its time relative to a common time, when it can be expressed. -/
def relativeTo (cto : DNPTime) (setTime : T → DNPTime → T) (record : SOERecord) (v : T) :
    Option T :=
  if record.time < cto then none
  else if record.time - cto > 65535 then none
  else some (setTime v (record.time - cto))

/-- Write a header with a common time of occurrence, that of the first record. -/
def writeCTOTypeWithSerializer (setTime : T → DNPTime → T) (writer : HeaderWriter)
    (serializer : DNP3Serializer T) (writtenCounts : EventCount) (records : List SOERecord) :
    Result :=
  let cto := (records.head?.map SOERecord.time).getD 0
  let (writer, header) :=
    writer.iterateOverCountWithPrefixAndCTO .uint16 .uint16CntUint16Index serializer group51Var1 cto
  writeRecords selectedCounts (fun r => (value r).bind (relativeTo cto setTime r)) writer.mark
    header writer.position writtenCounts records

end Loop

/-! ## The records of a header

`ReadEvent` of a record whose type and selected variation are those of the header. -/

/-- The value of an event that is of this type and has this variation. -/
def readBinary (var : EventBinaryVariation) (r : SOERecord) : Option Binary :=
  match r.value with
  | .binary v =>
    if v.selectedVariation = var then
      some { value := v.value, quality := Flags.getBinaryQuality r.flags v.value, time := r.time }
    else none
  | _ => none

/-- The value of an event that is of this type and has this variation. -/
def readDoubleBitBinary (var : EventDoubleBinaryVariation) (r : SOERecord) :
    Option DoubleBitBinary :=
  match r.value with
  | .doubleBitBinary v =>
    if v.selectedVariation = var then
      some { value := v.value, quality := DoubleBitBinary.getQual r.flags v.value, time := r.time }
    else none
  | _ => none

/-- The value of an event that is of this type and has this variation. -/
def readBinaryOutputStatus (var : EventBinaryOutputStatusVariation) (r : SOERecord) :
    Option BinaryOutputStatus :=
  match r.value with
  | .binaryOutputStatus v =>
    if v.selectedVariation = var then
      some { value := v.value, quality := Flags.getBinaryQuality r.flags v.value, time := r.time }
    else none
  | _ => none

/-- The value of an event that is of this type and has this variation. -/
def readCounter (var : EventCounterVariation) (r : SOERecord) : Option Counter :=
  match r.value with
  | .counter v =>
    if v.selectedVariation = var then
      some { value := v.value, quality := r.flags, time := r.time }
    else none
  | _ => none

/-- The value of an event that is of this type and has this variation. -/
def readFrozenCounter (var : EventFrozenCounterVariation) (r : SOERecord) : Option FrozenCounter :=
  match r.value with
  | .frozenCounter v =>
    if v.selectedVariation = var then
      some { value := v.value, quality := r.flags, time := r.time }
    else none
  | _ => none

/-- The value of an event that is of this type and has this variation. -/
def readAnalog (var : EventAnalogVariation) (r : SOERecord) : Option Analog :=
  match r.value with
  | .analog v =>
    if v.selectedVariation = var then
      some { value := v.value, quality := r.flags, time := r.time }
    else none
  | _ => none

/-- The value of an event that is of this type and has this variation. -/
def readAnalogOutputStatus (var : EventAnalogOutputStatusVariation) (r : SOERecord) :
    Option AnalogOutputStatus :=
  match r.value with
  | .analogOutputStatus v =>
    if v.selectedVariation = var then
      some { value := v.value, quality := r.flags, time := r.time }
    else none
  | _ => none

/-- The value of an event that is of this type and has this variation. -/
def readSecurityStat (var : EventSecurityStatVariation) (r : SOERecord) : Option SecurityStat :=
  match r.value with
  | .securityStat v =>
    if v.selectedVariation = var then
      some { value := v.value, quality := r.flags, time := r.time }
    else none
  | _ => none

/-! ## Headers by type and variation -/

section Load

variable (writer : HeaderWriter) (selectedCounts writtenCounts : EventCount)
  (records : List SOERecord)

/-- A header of binary inputs; relative times have a common time in front of it. -/
def loadHeaderBinary (variation : EventBinaryVariation) : Result :=
  match variation with
  | .group2Var1 =>
    writeTypeWithSerializer selectedCounts (readBinary variation) writer group2Var1 writtenCounts
      records
  | .group2Var2 =>
    writeTypeWithSerializer selectedCounts (readBinary variation) writer group2Var2 writtenCounts
      records
  | .group2Var3 =>
    writeCTOTypeWithSerializer selectedCounts (readBinary variation)
      (fun v time => { v with time := time }) writer group2Var3 writtenCounts records

/-- A header of double-bit binary inputs; relative times have a common time in front of it. -/
def loadHeaderDoubleBinary (variation : EventDoubleBinaryVariation) : Result :=
  match variation with
  | .group4Var1 =>
    writeTypeWithSerializer selectedCounts (readDoubleBitBinary variation) writer group4Var1
      writtenCounts records
  | .group4Var2 =>
    writeTypeWithSerializer selectedCounts (readDoubleBitBinary variation) writer group4Var2
      writtenCounts records
  | .group4Var3 =>
    writeCTOTypeWithSerializer selectedCounts (readDoubleBitBinary variation)
      (fun v time => { v with time := time }) writer group4Var3 writtenCounts records

/-- A header of counters. -/
def loadHeaderCounter (variation : EventCounterVariation) : Result :=
  let serializer := match variation with
    | .group22Var1 => group22Var1
    | .group22Var2 => group22Var2
    | .group22Var5 => group22Var5
    | .group22Var6 => group22Var6
  writeTypeWithSerializer selectedCounts (readCounter variation) writer serializer writtenCounts
    records

/-- A header of frozen counters. -/
def loadHeaderFrozenCounter (variation : EventFrozenCounterVariation) : Result :=
  let serializer := match variation with
    | .group23Var1 => group23Var1
    | .group23Var2 => group23Var2
    | .group23Var5 => group23Var5
    | .group23Var6 => group23Var6
  writeTypeWithSerializer selectedCounts (readFrozenCounter variation) writer serializer
    writtenCounts records

/-- A header of analog inputs. -/
def loadHeaderAnalog (variation : EventAnalogVariation) : Result :=
  let serializer := match variation with
    | .group32Var1 => group32Var1
    | .group32Var2 => group32Var2
    | .group32Var3 => group32Var3
    | .group32Var4 => group32Var4
    | .group32Var5 => group32Var5
    | .group32Var6 => group32Var6
    | .group32Var7 => group32Var7
    | .group32Var8 => group32Var8
  writeTypeWithSerializer selectedCounts (readAnalog variation) writer serializer writtenCounts
    records

/-- A header of binary outputs. -/
def loadHeaderBinaryOutputStatus (variation : EventBinaryOutputStatusVariation) : Result :=
  let serializer := match variation with
    | .group11Var1 => group11Var1
    | .group11Var2 => group11Var2
  writeTypeWithSerializer selectedCounts (readBinaryOutputStatus variation) writer serializer
    writtenCounts records

/-- A header of analog outputs. -/
def loadHeaderAnalogOutputStatus (variation : EventAnalogOutputStatusVariation) : Result :=
  let serializer := match variation with
    | .group42Var1 => group42Var1
    | .group42Var2 => group42Var2
    | .group42Var3 => group42Var3
    | .group42Var4 => group42Var4
    | .group42Var5 => group42Var5
    | .group42Var6 => group42Var6
    | .group42Var7 => group42Var7
    | .group42Var8 => group42Var8
  writeTypeWithSerializer selectedCounts (readAnalogOutputStatus variation) writer serializer
    writtenCounts records

/-- A header of security statistics. -/
def loadHeaderSecurityStat (variation : EventSecurityStatVariation) : Result :=
  let serializer := match variation with
    | .group122Var1 => group122Var1
    | .group122Var2 => group122Var2
  writeTypeWithSerializer selectedCounts (readSecurityStat variation) writer serializer
    writtenCounts records

/-- Write the header that starts with a record, the first of `records`. -/
def loadHeader (record : SOERecord) : Result :=
  match record.value with
  | .binary v => loadHeaderBinary writer selectedCounts writtenCounts records v.selectedVariation
  | .doubleBitBinary v =>
    loadHeaderDoubleBinary writer selectedCounts writtenCounts records v.selectedVariation
  | .counter v => loadHeaderCounter writer selectedCounts writtenCounts records v.selectedVariation
  | .frozenCounter v =>
    loadHeaderFrozenCounter writer selectedCounts writtenCounts records v.selectedVariation
  | .analog v => loadHeaderAnalog writer selectedCounts writtenCounts records v.selectedVariation
  | .binaryOutputStatus v =>
    loadHeaderBinaryOutputStatus writer selectedCounts writtenCounts records v.selectedVariation
  | .analogOutputStatus v =>
    loadHeaderAnalogOutputStatus writer selectedCounts writtenCounts records v.selectedVariation
  | .securityStat v =>
    loadHeaderSecurityStat writer selectedCounts writtenCounts records v.selectedVariation

end Load

/-- The records after writing, and whether all of them were written. -/
structure Written where
  writer : HeaderWriter
  writtenCounts : EventCount
  records : List SOERecord
  complete : Bool

/-- The loop over the headers.  Every header passes a record unless the fragment is full, so the
number of records is enough fuel. -/
def writeHeaders (selectedCounts : EventCount) :
    Nat → HeaderWriter → EventCount → List SOERecord → Written
  | 0, writer, writtenCounts, records => ⟨writer, writtenCounts, records, true⟩
  | _ + 1, writer, writtenCounts, [] => ⟨writer, writtenCounts, [], true⟩
  | fuel + 1, writer, writtenCounts, record :: records =>
    if !hasMoreUnwrittenEvents selectedCounts writtenCounts then
      ⟨writer, writtenCounts, record :: records, true⟩
    else if isWritable record then
      let result := loadHeader writer selectedCounts writtenCounts (record :: records) record
      if result.isFragmentFull then
        ⟨result.writer, result.writtenCounts, result.passed ++ result.location, false⟩
      else
        let w := writeHeaders selectedCounts fuel result.writer result.writtenCounts
          result.location
        { w with records := result.passed ++ w.records }
    else
      let w := writeHeaders selectedCounts fuel writer writtenCounts records
      { w with records := record :: w.records }

/-- Write the selected records that are not yet written. -/
def write (writer : HeaderWriter) (selectedCounts writtenCounts : EventCount)
    (records : List SOERecord) : Written :=
  writeHeaders selectedCounts records.length writer writtenCounts records

/-! ## What writing does to the records -/

/-- Some records that are selected and not written become written, and are counted. -/
inductive Marks : EventCount → List SOERecord → EventCount → List SOERecord → Prop where
  | nil (c : EventCount) : Marks c [] c []
  | keep {c c' : EventCount} {l l' : List SOERecord} (r : SOERecord) (h : Marks c l c' l') :
      Marks c (r :: l) c' (r :: l')
  | mark {c c' : EventCount} {l l' : List SOERecord} (r : SOERecord) (hs : r.selected = true)
      (hw : r.written = false) (h : Marks (c.increment r.clazz r.type) l c' l') :
      Marks c (r :: l) c' (r.markWritten :: l')

namespace Marks

theorem refl (c : EventCount) (l : List SOERecord) : Marks c l c l := by
  induction l with
  | nil => exact .nil c
  | cons r l ih => exact .keep r ih

theorem append {c c' c'' : EventCount} {l l' m m' : List SOERecord} (h : Marks c l c' l')
    (h' : Marks c' m c'' m') : Marks c (l ++ m) c'' (l' ++ m') := by
  induction h with
  | nil => exact h'
  | keep r _ ih => exact .keep r (ih h')
  | mark r hs hw _ ih => exact .mark r hs hw (ih h')

theorem length_eq {c c' : EventCount} {l l' : List SOERecord} (h : Marks c l c' l') :
    l'.length = l.length := by
  induction h with
  | nil => rfl
  | keep r _ ih => rw [List.length_cons, ih, List.length_cons]
  | mark r hs hw _ ih => rw [List.length_cons, ih, List.length_cons]

end Marks

/-- The records that were passed are a front part of the records, some of it marked. -/
def Result.Spec (writtenCounts : EventCount) (records : List SOERecord) (r : Result) : Prop :=
  ∃ front, records = front ++ r.location ∧ Marks writtenCounts front r.writtenCounts r.passed

theorem Result.Spec.stay (writer : HeaderWriter) (c : EventCount) (records : List SOERecord)
    (full : Bool) : Result.Spec c records ⟨writer, c, [], records, full⟩ :=
  ⟨[], rfl, .nil c⟩

theorem writeRecords_spec {T : Type} (selectedCounts : EventCount) (value : SOERecord → Option T)
    (mark : Option Nat) (header : PrefixedWriteIterator T) (position : WSlice)
    (writtenCounts : EventCount) (records : List SOERecord) :
    (writeRecords selectedCounts value mark header position writtenCounts records).Spec
      writtenCounts records := by
  induction records generalizing header position writtenCounts with
  | nil => exact .stay _ _ _ _
  | cons r rs ih =>
    unfold writeRecords
    split
    · exact .stay _ _ _ _
    · split
      · rename_i hwritable
        rw [isWritable, Bool.and_eq_true, Bool.not_eq_true'] at hwritable
        split
        · split
          · rename_i header' position' _
            obtain ⟨front, hfront, hmarks⟩ := ih header' position'
              (writtenCounts.increment r.clazz r.type)
            exact ⟨r :: front, congrArg (r :: ·) hfront, .mark r hwritable.1 hwritable.2 hmarks⟩
          · exact .stay _ _ _ _
        · exact .stay _ _ _ _
      · obtain ⟨front, hfront, hmarks⟩ := ih header position writtenCounts
        exact ⟨r :: front, congrArg (r :: ·) hfront, .keep r hmarks⟩

theorem loadHeader_spec (writer : HeaderWriter) (selectedCounts writtenCounts : EventCount)
    (records : List SOERecord) (record : SOERecord) :
    (loadHeader writer selectedCounts writtenCounts records record).Spec writtenCounts records := by
  unfold loadHeader
  split
  · unfold loadHeaderBinary
    split <;> exact writeRecords_spec ..
  · unfold loadHeaderDoubleBinary
    split <;> exact writeRecords_spec ..
  all_goals exact writeRecords_spec ..

theorem writeHeaders_spec (selectedCounts : EventCount) (fuel : Nat) (writer : HeaderWriter)
    (writtenCounts : EventCount) (records : List SOERecord) :
    Marks writtenCounts records
      (writeHeaders selectedCounts fuel writer writtenCounts records).writtenCounts
      (writeHeaders selectedCounts fuel writer writtenCounts records).records := by
  induction fuel generalizing writer writtenCounts records with
  | zero => exact .refl _ _
  | succ fuel ih =>
    cases records with
    | nil => exact .refl _ _
    | cons r rs =>
      unfold writeHeaders
      split
      · exact .refl _ _
      · split
        · obtain ⟨front, hfront, hmarks⟩ := loadHeader_spec writer selectedCounts writtenCounts
            (r :: rs) r
          generalize loadHeader writer selectedCounts writtenCounts (r :: rs) r = result
            at hfront hmarks ⊢
          rw [hfront]
          dsimp only
          split
          · exact hmarks.append (.refl _ _)
          · exact hmarks.append (ih _ _ _)
        · exact .keep r (ih writer writtenCounts rs)

/-! ## Every header makes progress -/

/-- A header passes its first record, or the fragment is full. -/
theorem writeRecords_progress {T : Type} {selectedCounts : EventCount}
    {value : SOERecord → Option T} {writtenCounts : EventCount} {record : SOERecord} {v : T}
    (hmore : hasMoreUnwrittenEvents selectedCounts writtenCounts = true)
    (hwritable : isWritable record = true) (hv : value record = some v) (mark : Option Nat)
    (header : PrefixedWriteIterator T) (position : WSlice) (records : List SOERecord)
    (hfull : (writeRecords selectedCounts value mark header position writtenCounts
      (record :: records)).isFragmentFull = false) :
    (writeRecords selectedCounts value mark header position writtenCounts
      (record :: records)).location.length ≤ records.length := by
  rw [writeRecords, hmore, hwritable, hv] at hfull ⊢
  simp only [Bool.not_true, Bool.false_eq_true, if_false, if_true] at hfull ⊢
  split at hfull
  · rename_i header' position' _
    obtain ⟨front, hfront, -⟩ := writeRecords_spec selectedCounts value mark header' position'
      (writtenCounts.increment record.clazz record.type) records
    have hlen := congrArg List.length hfront
    rw [List.length_append] at hlen
    show (writeRecords selectedCounts value mark header' position'
      (writtenCounts.increment record.clazz record.type) records).location.length ≤ records.length
    omega
  · cases hfull

theorem relativeTo_self {T : Type} (setTime : T → DNPTime → T) (record : SOERecord) (v : T) :
    relativeTo record.time setTime record v = some (setTime v 0) := by
  simp [relativeTo]

section Progress

variable {selectedCounts writtenCounts : EventCount} {record : SOERecord}
  (hmore : hasMoreUnwrittenEvents selectedCounts writtenCounts = true)
  (hwritable : isWritable record = true)

include hmore hwritable

theorem writeTypeWithSerializer_progress {T : Type} {value : SOERecord → Option T} {v : T}
    (hv : value record = some v) (writer : HeaderWriter) (serializer : DNP3Serializer T)
    (records : List SOERecord)
    (hfull : (writeTypeWithSerializer selectedCounts value writer serializer writtenCounts
      (record :: records)).isFragmentFull = false) :
    (writeTypeWithSerializer selectedCounts value writer serializer writtenCounts
      (record :: records)).location.length ≤ records.length :=
  writeRecords_progress hmore hwritable hv _ _ _ records hfull

theorem writeCTOTypeWithSerializer_progress {T : Type} {value : SOERecord → Option T} {v : T}
    (hv : value record = some v) (setTime : T → DNPTime → T) (writer : HeaderWriter)
    (serializer : DNP3Serializer T) (records : List SOERecord)
    (hfull : (writeCTOTypeWithSerializer selectedCounts value setTime writer serializer
      writtenCounts (record :: records)).isFragmentFull = false) :
    (writeCTOTypeWithSerializer selectedCounts value setTime writer serializer writtenCounts
      (record :: records)).location.length ≤ records.length := by
  have hread : (value record).bind (relativeTo record.time setTime record) =
      some (setTime v 0) := by
    rw [hv]
    exact relativeTo_self setTime record v
  rw [writeCTOTypeWithSerializer] at hfull ⊢
  exact writeRecords_progress hmore hwritable hread _ _ _ records hfull

/-- The header is chosen by the first record, so it takes that record. -/
theorem loadHeader_progress (writer : HeaderWriter) (records : List SOERecord)
    (hfull : (loadHeader writer selectedCounts writtenCounts (record :: records)
      record).isFragmentFull = false) :
    (loadHeader writer selectedCounts writtenCounts (record :: records)
      record).location.length ≤ records.length := by
  unfold loadHeader at hfull ⊢
  cases hvalue : record.value with
  | binary v =>
    have hread : ∀ var, v.selectedVariation = var → readBinary var record = some
        { value := v.value, quality := Flags.getBinaryQuality record.flags v.value,
          time := record.time } := by
      intro var hvar
      simp only [readBinary, hvalue, hvar, if_true]
    simp only [hvalue, loadHeaderBinary] at hfull ⊢
    cases hvar : v.selectedVariation with
    | group2Var3 =>
      rw [hvar] at hfull
      exact writeCTOTypeWithSerializer_progress hmore hwritable (hread _ hvar) _ _ _ _ hfull
    | _ =>
      rw [hvar] at hfull
      exact writeTypeWithSerializer_progress hmore hwritable (hread _ hvar) _ _ _ hfull
  | doubleBitBinary v =>
    have hread : ∀ var, v.selectedVariation = var → readDoubleBitBinary var record = some
        { value := v.value, quality := DoubleBitBinary.getQual record.flags v.value,
          time := record.time } := by
      intro var hvar
      simp only [readDoubleBitBinary, hvalue, hvar, if_true]
    simp only [hvalue, loadHeaderDoubleBinary] at hfull ⊢
    cases hvar : v.selectedVariation with
    | group4Var3 =>
      rw [hvar] at hfull
      exact writeCTOTypeWithSerializer_progress hmore hwritable (hread _ hvar) _ _ _ _ hfull
    | _ =>
      rw [hvar] at hfull
      exact writeTypeWithSerializer_progress hmore hwritable (hread _ hvar) _ _ _ hfull
  | binaryOutputStatus v =>
    have hread : readBinaryOutputStatus v.selectedVariation record = some
        { value := v.value, quality := Flags.getBinaryQuality record.flags v.value,
          time := record.time } := by
      simp only [readBinaryOutputStatus, hvalue, if_true]
    simp only [hvalue, loadHeaderBinaryOutputStatus] at hfull ⊢
    exact writeTypeWithSerializer_progress hmore hwritable hread _ _ _ hfull
  | counter v =>
    have hread : readCounter v.selectedVariation record = some
        { value := v.value, quality := record.flags, time := record.time } := by
      simp only [readCounter, hvalue, if_true]
    simp only [hvalue, loadHeaderCounter] at hfull ⊢
    exact writeTypeWithSerializer_progress hmore hwritable hread _ _ _ hfull
  | frozenCounter v =>
    have hread : readFrozenCounter v.selectedVariation record = some
        { value := v.value, quality := record.flags, time := record.time } := by
      simp only [readFrozenCounter, hvalue, if_true]
    simp only [hvalue, loadHeaderFrozenCounter] at hfull ⊢
    exact writeTypeWithSerializer_progress hmore hwritable hread _ _ _ hfull
  | analog v =>
    have hread : readAnalog v.selectedVariation record = some
        { value := v.value, quality := record.flags, time := record.time } := by
      simp only [readAnalog, hvalue, if_true]
    simp only [hvalue, loadHeaderAnalog] at hfull ⊢
    exact writeTypeWithSerializer_progress hmore hwritable hread _ _ _ hfull
  | analogOutputStatus v =>
    have hread : readAnalogOutputStatus v.selectedVariation record = some
        { value := v.value, quality := record.flags, time := record.time } := by
      simp only [readAnalogOutputStatus, hvalue, if_true]
    simp only [hvalue, loadHeaderAnalogOutputStatus] at hfull ⊢
    exact writeTypeWithSerializer_progress hmore hwritable hread _ _ _ hfull
  | securityStat v =>
    have hread : readSecurityStat v.selectedVariation record = some
        { value := v.value, quality := record.flags, time := record.time } := by
      simp only [readSecurityStat, hvalue, if_true]
    simp only [hvalue, loadHeaderSecurityStat] at hfull ⊢
    exact writeTypeWithSerializer_progress hmore hwritable hread _ _ _ hfull

end Progress

/-- More fuel than records changes nothing. -/
theorem writeHeaders_fuel (selectedCounts : EventCount) (fuel fuel' : Nat) (writer : HeaderWriter)
    (writtenCounts : EventCount) {records : List SOERecord} (h : records.length ≤ fuel)
    (h' : records.length ≤ fuel') :
    writeHeaders selectedCounts fuel writer writtenCounts records =
      writeHeaders selectedCounts fuel' writer writtenCounts records := by
  induction fuel generalizing fuel' writer writtenCounts records with
  | zero =>
    rw [List.length_eq_zero_iff.mp (Nat.le_zero.mp h)]
    cases fuel' <;> rfl
  | succ fuel ih =>
    cases records with
    | nil => cases fuel' <;> rfl
    | cons r rs =>
      obtain ⟨m, rfl⟩ : ∃ m, fuel' = m + 1 := ⟨fuel' - 1, by
        rw [List.length_cons] at h'
        omega⟩
      rw [List.length_cons] at h h'
      unfold writeHeaders
      split
      · rfl
      · rename_i hmore
        rw [Bool.not_eq_true, Bool.not_eq_false'] at hmore
        split
        · rename_i hwritable
          have hprogress := loadHeader_progress hmore hwritable writer rs
          generalize loadHeader writer selectedCounts writtenCounts (r :: rs) r = result
            at hprogress ⊢
          dsimp only
          split
          · rfl
          · rename_i hfull
            have hlen := hprogress (Bool.not_eq_true _ ▸ hfull)
            have hfuel : result.location.length ≤ fuel := by omega
            have hm : result.location.length ≤ m := by omega
            rw [ih m result.writer result.writtenCounts hfuel hm]
        · have hfuel : rs.length ≤ fuel := by omega
          have hm : rs.length ≤ m := by omega
          rw [ih m writer writtenCounts hfuel hm]

/-- Writing marks records that are selected and not written. -/
theorem write_spec (writer : HeaderWriter) (selectedCounts writtenCounts : EventCount)
    (records : List SOERecord) :
    Marks writtenCounts records (write writer selectedCounts writtenCounts records).writtenCounts
      (write writer selectedCounts writtenCounts records).records :=
  writeHeaders_spec _ _ _ _ _

end EventWriter
end Outstation
end Dnp3
