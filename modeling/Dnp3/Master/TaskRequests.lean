import Dnp3.App.WrittenFront
import Dnp3.Master.MasterTask

/-!
# The requests of tasks

A request starts with the control field that has the sequence number of the master and with the
function code of the task.  The objects are written behind; those of a command depend on the
commands alone, so that they are the same in every request of the task.

The header of a request is set before its objects are written, and its objects are appended; a task
of the user builds its own, through a header writer (`Surroundings.Appends`).  For commands the
bytes are known exactly, as long as they fit: `CommandTask.written_buildRequest` says that the
request is its two octets of header and the objects of the command set, so that a SELECT and an
OPERATE with the same commands have the same objects.
-/

namespace Dnp3
namespace Master

open App

/-! ## Commands -/

/-- The object of a command. -/
def CommandRecord.indexed {T : Type} (rec : CommandRecord T) : Indexed T where
  value := rec.command
  index := rec.index

namespace TypedCommandHeader

variable {T : Type} (type : CommandType T)

/-- The header of commands, as it is sent. -/
def objects (h : TypedCommandHeader T) : List UInt8 :=
  HeaderWriter.headerBytes type.serializer.id .uint16CntUint16Index ++
    IndexType.uint16.bytes (h.records.length % IndexType.uint16.modulus) ++
    (h.records.map CommandRecord.indexed).flatMap
      (PrefixedWriteIterator.object .uint16 type.serializer)

theorem filled_writeRecords {front : List UInt8} {s : DNP3Serializer T}
    {p p' : PrefixedWriteIterator T × WSlice} {values : List (Indexed T)}
    (h : PrefixedWriteIterator.Filled front .uint16 s p values) {records : List (CommandRecord T)}
    (hw : writeRecords p.1 p.2 records = (p', true)) :
    PrefixedWriteIterator.Filled front .uint16 s p'
      (values ++ records.map CommandRecord.indexed) := by
  induction records generalizing p values with
  | nil =>
    cases hw
    simpa using h
  | cons rec records ih =>
    rw [writeRecords] at hw
    split at hw
    next iter position hwritten =>
      have htaken := h.taken (v := rec.indexed) hwritten
      have hrest := ih htaken hw
      simpa using hrest
    · cases hw

theorem isValid_writeRecords (iter : PrefixedWriteIterator T) (position : WSlice)
    (records : List (CommandRecord T)) :
    (writeRecords iter position records).1.1.isValid = iter.isValid := by
  have hwrite (iter : PrefixedWriteIterator T) (position : WSlice) (value : T) (index : Nat) :
      (iter.write position value index).1.1.isValid = iter.isValid := by
    unfold PrefixedWriteIterator.write
    split <;> rfl
  induction records generalizing iter position with
  | nil => rfl
  | cons rec records ih =>
    have hrec := hwrite iter position rec.command rec.index.toNat
    rw [writeRecords]
    split
    next iter' position' hwritten =>
      rw [hwritten] at hrec
      rw [ih, hrec]
    next iter' position' hwritten =>
      rw [hwritten] at hrec
      exact hrec

theorem behind_writeRecords {w : WSlice} {p : PrefixedWriteIterator T × WSlice}
    (h : w.Extends p.2) (hbehind : PrefixedWriteIterator.Behind w p.1)
    (records : List (CommandRecord T)) :
    w.Extends (writeRecords p.1 p.2 records).1.2 ∧
      PrefixedWriteIterator.Behind w (writeRecords p.1 p.2 records).1.1 := by
  induction records generalizing p with
  | nil => exact ⟨h, hbehind⟩
  | cons rec records ih =>
    have hwrite := PrefixedWriteIterator.behind_write h hbehind rec.command rec.index.toNat
    rw [writeRecords]
    split
    next iter position hwritten =>
      rw [hwritten] at hwrite
      exact ih hwrite.1 hwrite.2
    next iter position hwritten =>
      rw [hwritten] at hwrite
      exact hwrite

theorem extends_write (h : TypedCommandHeader T) (writer : HeaderWriter) :
    writer.Extends (h.write type writer).1 := by
  unfold write
  split
  · exact .refl _
  · have hiter := writer.behind_iterateOverCountWithPrefix .uint16 .uint16CntUint16Index
      type.serializer
    have hrecords := behind_writeRecords (p := (_, _)) hiter.1 hiter.2 h.records
    exact PrefixedWriteIterator.extends_finish hrecords.1 hrecords.2

/-- What is written when all commands fit. -/
theorem written_write {h : TypedCommandHeader T} {writer writer' : HeaderWriter}
    (hw : h.write type writer = (writer', true)) :
    writer'.position.written = writer.position.written ++ h.objects type := by
  unfold write at hw
  split at hw
  · cases hw
  · dsimp only at hw
    obtain ⟨rfl, hwritten⟩ := Prod.mk.inj hw
    rw [Bool.and_eq_true] at hwritten
    rcases writer.iterateOverCountWithPrefix_spec .uint16 .uint16CntUint16Index type.serializer
      with hnull | hfilled
    · rw [isValid_writeRecords, hnull] at hwritten
      cases hwritten.2
    · have hrecords := filled_writeRecords hfilled (Prod.ext rfl hwritten.1)
      rw [hrecords.written_finish_mod]
      simp [objects]

end TypedCommandHeader

namespace ICommandHeader

/-- The header as it is sent. -/
def objects : ICommandHeader → List UInt8
  | crob header => header.objects .crob
  | aoInt32 header => header.objects .aoInt32
  | aoInt16 header => header.objects .aoInt16
  | aoFloat32 header => header.objects .aoFloat32
  | aoDouble64 header => header.objects .aoDouble64

theorem extends_write (header : ICommandHeader) (writer : HeaderWriter) :
    writer.Extends (header.write writer).1 := by
  cases header <;> exact TypedCommandHeader.extends_write _ _ _

theorem written_write {header : ICommandHeader} {writer writer' : HeaderWriter}
    (hw : header.write writer = (writer', true)) :
    writer'.position.written = writer.position.written ++ header.objects := by
  cases header <;> exact TypedCommandHeader.written_write _ hw

end ICommandHeader

namespace CommandSetOps

/-- The commands as they are sent. -/
def objects (set : CommandSet) : List UInt8 := set.flatMap ICommandHeader.objects

theorem extends_write (writer : HeaderWriter) (set : CommandSet) :
    writer.Extends (write writer set).1 := by
  induction set generalizing writer with
  | nil => exact .refl _
  | cons header set ih =>
    have hheader := header.extends_write writer
    rw [write]
    split
    next writer' hwritten =>
      rw [hwritten] at hheader
      exact hheader.trans (ih writer')
    next writer' hwritten =>
      rw [hwritten] at hheader
      exact hheader

theorem written_write {set : CommandSet} {writer writer' : HeaderWriter}
    (hw : write writer set = (writer', true)) :
    writer'.position.written = writer.position.written ++ objects set := by
  induction set generalizing writer with
  | nil =>
    cases hw
    simp [objects]
  | cons header set ih =>
    rw [write] at hw
    split at hw
    next writer₁ hwritten =>
      rw [ih hw, ICommandHeader.written_write hwritten, List.append_assoc]
      rfl
    · cases hw

end CommandSetOps

/-! ## Requests -/

/-- The builder of a request writes through a header writer, behind what has been written. -/
def Surroundings.Appends (a : Surroundings) : Prop :=
  ∀ position : WSlice, (HeaderWriter.ofSlice position).Extends (a.builder (.ofSlice position)).1

/-- The request of a command task, with all its commands. -/
theorem CommandTask.written_buildRequest {codes : List FunctionCode} {code : FunctionCode}
    {commands : CommandSet} {mem : List UInt8} {seq : AppSeqNum} (hmem : 2 ≤ mem.length)
    (hbuilt : (buildRequest (code :: codes) commands (.create mem) seq).2.2 = true) :
    (buildRequest (code :: codes) commands (.create mem) seq).2.1.toRSlice =
      (AppControlField.request seq).toByte :: code.toType :: CommandSetOps.objects commands := by
  have hheader := (APDURequest.written_header hmem (.request seq) code).2
  have hwritten := CommandSetOps.written_write (Prod.ext rfl hbuilt)
  have hstart : (((APDURequest.create mem).setFunction code).setControl
      (.request seq)).getWriter.position.written =
        [(AppControlField.request seq).toByte, code.toType] := hheader
  rw [hstart] at hwritten
  exact hwritten

namespace TaskBody

variable {a : Surroundings} {mem : List UInt8} {seq : AppSeqNum} {body : TaskBody}

/-- The tasks that read measurements. -/
def isPoll : TaskBody → Bool
  | startupIntegrity _ _ | eventScan _ _ _ | userPoll _ _ _ => true
  | _ => false

/-- The request of a poll is a read. -/
theorem starts_buildRequest (happends : a.Appends) (hmem : 2 ≤ mem.length)
    (hpoll : body.isPoll = true) :
    (body.buildRequest a (.create mem) seq).2.1.Starts (.request seq) .read := by
  cases body with
  | startupIntegrity classes rxCount =>
    exact (APDURequest.starts_classRequest hmem .read classes seq).set _ _
  | eventScan classes retryPeriod rxCount =>
    exact APDURequest.starts_classRequest hmem .read classes seq
  | userPoll recurring period rxCount =>
    exact APDURequest.starts_withWriter (APDURequest.written_header hmem (.request seq) .read).2
      (happends _)
  | _ => cases hpoll

/-- The buffer of requests keeps its size. -/
theorem length_buildRequest (happends : a.Appends) (mem : List UInt8) (seq : AppSeqNum)
    (body : TaskBody) :
    (body.buildRequest a (.create mem) seq).2.1.room = mem.length := by
  cases body with
  | enableUnsolicited classes retryPeriod => exact APDURequest.room_classRequest ..
  | clearRestart retryPeriod => exact APDURequest.room_clearRestartIIN ..
  | assignClass retryPeriod | userPoll recurring period rxCount | emptyResponse func =>
    refine (APDURequest.room_withWriter (happends _)).trans ?_
    simp
  | startupIntegrity classes rxCount =>
    refine (APDURequest.room_setControl ..).trans ((APDURequest.room_setFunction ..).trans ?_)
    exact APDURequest.room_classRequest ..
  | disableUnsolicited enabled retryPeriod => exact APDURequest.room_classRequest ..
  | serialTimeSync delay start =>
    unfold buildRequest SerialTimeSyncTask.buildRequest
    dsimp only
    split
    · simp [build.measureDelay]
    · refine (APDURequest.room_withWriter (HeaderWriter.extends_writeSingleValue ..)).trans ?_
      simp
  | eventScan classes retryPeriod rxCount => exact APDURequest.room_classRequest ..
  | command functionCodes commands =>
    cases functionCodes with
    | nil => rfl
    | cons code codes =>
      refine (APDURequest.room_withWriter (CommandSetOps.extends_write _ _)).trans ?_
      simp
  | restartOperation func handler => simp [buildRequest]

end TaskBody

end Master
end Dnp3
