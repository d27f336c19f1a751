import Dnp3.App.APDUHandler
import Dnp3.Outstation.StaticSelection

/-!
# The assignment of classes

An ASSIGN_CLASS request is made of pairs of headers: one of class data, and one for points of a type
that get this class.  The handler passes the range of the second header to the database as it is.
`assignClassToRange` takes it for positions in the array of the type, while a READ maps virtual
indices to positions; the two agree as long as the index of every point is its position.

`assignsRange_iff` has the exact condition under which a pair of headers does this: the positions of
the range, clipped to the array, have to be those of the points with a virtual index in the range
(`Addressed`).  Where virtual indices are positions this is always so; where they are not, the
handler clips by positions what was given in virtual indices, and the indications it answers are
wrong as well.
-/

namespace Dnp3
namespace Outstation

open App

/-- A call of `RecordClassAssignment` that is posted to the executor. -/
structure ClassAssignment where
  type : AssignClassType
  clazz : PointClass
  start : UInt16
  stop : UInt16
  deriving DecidableEq, Repr

/-- An ASSIGN_CLASS request, with what it has assigned so far. -/
structure AssignClassHandler where
  /-- The position of the last header of class data; none stands for -1. -/
  classHeader : Option Nat
  clazz : PointClass
  database : DatabaseBuffers
  posted : List ClassAssignment

namespace AssignClassHandler

/-- Nothing was assigned. -/
def initial (database : DatabaseBuffers) : AssignClassHandler where
  classHeader := none
  clazz := .class0
  database := database
  posted := []

/-- The types of the points of a header. -/
def assignClassType : GroupVariation → Option AssignClassType
  | .group1Var0 => some .binaryInput
  | .group3Var0 => some .doubleBinaryInput
  | .group10Var0 => some .binaryOutputStatus
  | .group20Var0 => some .counter
  | .group21Var0 => some .frozenCounter
  | .group30Var0 => some .analogInput
  | .group40Var0 => some .analogOutputStatus
  | _ => none

/-- The class of a header of class data. -/
def pointClass : GroupVariation → Option PointClass
  | .group60Var1 => some .class0
  | .group60Var2 => some .class1
  | .group60Var3 => some .class2
  | .group60Var4 => some .class3
  | _ => none

/-- The header before this one was of class data. -/
def isExpectingAssignment (h : AssignClassHandler) (current : Nat) : Bool :=
  0 < current && h.classHeader == some (current - 1)

/-- The application is told of a range of points that exist. -/
def notifyApplicationOfAssignment (h : AssignClassHandler) (type : AssignClassType)
    (clazz : PointClass) (range : Range) : AssignClassHandler :=
  if range.isValid then
    { h with posted := h.posted ++ [⟨type, clazz, range.start, range.stop⟩] }
  else h

/-- Assign the points of a range that exist; the others are an error. -/
def processAssignRange (h : AssignClassHandler) (type : AssignClassType) (clazz : PointClass)
    (range : Range) : AssignClassHandler × IINField :=
  let (database, actual) := h.database.assignClassToRange type clazz range
  (({ h with database := database }).notifyApplicationOfAssignment type clazz actual,
    if actual = range then .empty else .ofBit .paramError)

/-- Assign all points of a type. -/
def processAssignAll (h : AssignClassHandler) (type : AssignClassType) (clazz : PointClass) :
    AssignClassHandler × IINField :=
  let (database, full) := h.database.assignClassToAll type clazz
  (({ h with database := database }).notifyApplicationOfAssignment type clazz full,
    if full.isValid then .empty else .ofBit .paramError)

/-- The class that the next header assigns. -/
def recordClass (h : AssignClassHandler) (current : Nat) (gv : GroupVariation) :
    AssignClassHandler × IINField :=
  match pointClass gv with
  | some clazz => ({ h with classHeader := some current, clazz := clazz }, .empty)
  | none => ({ h with classHeader := none }, .ofBit .paramError)

/-- `ProcessHeader(AllObjectsHeader)`. -/
def processAllObjects (h : AssignClassHandler) (current : Nat) (gv : GroupVariation) :
    AssignClassHandler × IINField :=
  if h.isExpectingAssignment current then
    let h := { h with classHeader := none }
    match assignClassType gv with
    | some type => h.processAssignAll type h.clazz
    | none => (h, .ofBit .funcNotSupported)
  else h.recordClass current gv

/-- `ProcessHeader(RangeHeader)`. -/
def processRange (h : AssignClassHandler) (current : Nat) (gv : GroupVariation) (range : Range) :
    AssignClassHandler × IINField :=
  if h.isExpectingAssignment current then
    let h := { h with classHeader := none }
    match assignClassType gv with
    | some type => h.processAssignRange type h.clazz range
    | none => (h, .ofBit .funcNotSupported)
  else (h, .ofBit .paramError)

/-- A header of class data says which class, the one behind it which points. -/
def processHeader (current : Nat) (h : AssignClassHandler) :
    ObjectHeader → AssignClassHandler × IINField
  | .allObjects record => h.processAllObjects current record.enumeration
  | .range record range => h.processRange current record.enumeration range
  | _ => APDUHandler.processUnsupportedHeader h

/-- `IsAllowed`. -/
def isAllowed : APDUParser.WhiteList := fun _ _ _ => true

/-- The headers of a request. -/
def headersOf (objects : List UInt8) : ParseResult × List ObjectHeader :=
  APDUParser.parse objects false isAllowed

/-- The handler after some headers of a request. -/
def after (database : DatabaseBuffers) (headers : List ObjectHeader) :
    APDUHandler AssignClassHandler :=
  APDUHandler.onHeaders processHeader (initial database) headers

/-- `HandleAssignClass`, for an application that supports it. -/
def handleAssignClass (database : DatabaseBuffers) (objects : List UInt8) :
    AssignClassHandler × IINField :=
  let (result, headers) := headersOf objects
  let handler := after database headers
  (handler.state, if result = .ok then handler.errors else iinFromParseResult result)

/-! ## What the database does with a range -/

section Database

variable (db : DatabaseBuffers) (type : AssignClassType) (clazz : PointClass) (range : Range)

/-- A virtual index of the range. -/
def InRange (range : Range) (v : UInt16) : Prop := range.start ≤ v ∧ v ≤ range.stop

instance (range : Range) (v : UInt16) : Decidable (InRange range v) :=
  inferInstanceAs (Decidable (_ ∧ _))

/-- The positions of a range, as far as there are any, are those of its virtual indices, except for
points that have the class already; and they all exist exactly when all its virtual indices do. -/
structure Addressed : Prop where
  points : ∀ i c, (db.buffers type.staticType).cells[i]? = some c →
    c.setClass clazz = c ∨
      ((range.start.toNat ≤ i ∧ i ≤ range.stop.toNat) ↔ InRange range c.vIndex)
  exist : range.stop.toNat < (db.buffers type.staticType).cells.length ↔
    ∀ v, InRange range v → v ∈ (db.buffers type.staticType).vIndices

variable {db type clazz range}

/-- The range is within the array exactly when clipping it changes nothing. -/
theorem intersection_eq_iff (hvalid : range.isValid = true) :
    range.intersection (DatabaseBuffers.rangeOf (db.buffers type.staticType).size) = range ↔
      range.stop.toNat < (db.buffers type.staticType).cells.length := by
  rw [Range.isValid, decide_eq_true_eq, UInt16.le_iff_toNat_le] at hvalid
  have hmem (i : Nat) := DatabaseBuffers.mem_intersection (r := range)
    (s := DatabaseBuffers.rangeOf (db.buffers type.staticType).size) (i := i)
  have hsize (i : Nat) := DatabaseBuffers.mem_rangeOf (b := db.buffers type.staticType) (i := i)
  constructor
  · intro heq
    rw [heq] at hmem
    exact (hsize _).mp ((hmem range.stop.toNat).mp ⟨hvalid, Nat.le_refl _⟩).2
  · intro hlt
    have hstart := (hsize range.start.toNat).mpr (Nat.lt_of_le_of_lt hvalid hlt)
    have hstop := (hsize range.stop.toNat).mpr hlt
    have heq (r s : Range) (h : r.start.toNat = s.start.toNat) (h' : r.stop.toNat = s.stop.toNat) :
        r = s := by
      obtain ⟨start, stop⟩ := r
      obtain ⟨start', stop'⟩ := s
      rw [Range.mk.injEq]
      exact ⟨UInt16.toNat_inj.mp h, UInt16.toNat_inj.mp h'⟩
    refine heq _ _ ?_ ?_
    · show (max _ _ : UInt16).toNat = _
      rw [DatabaseBuffers.toNat_max]
      omega
    · show (min _ _ : UInt16).toNat = _
      rw [DatabaseBuffers.toNat_min]
      omega

theorem getElem?_assignClassToRange (db : DatabaseBuffers) (type : AssignClassType)
    (clazz : PointClass) (range : Range) (i : Nat) :
    ((db.assignClassToRange type clazz range).1.buffers type.staticType).cells[i]? =
      (db.buffers type.staticType).cells[i]?.map fun c =>
        if range.start.toNat ≤ i ∧ i ≤ range.stop.toNat then c.setClass clazz else c := by
  dsimp only [DatabaseBuffers.assignClassToRange, DatabaseBuffers.setBuffer]
  rw [Function.update_self, StaticBuffer.getElem?_updateRange]
  by_cases hi : i < (db.buffers type.staticType).cells.length
  · by_cases hmem : range.start.toNat ≤ i ∧ i ≤ range.stop.toNat
    · rw [if_pos (DatabaseBuffers.mem_intersection.mpr ⟨hmem, DatabaseBuffers.mem_rangeOf.mpr hi⟩)]
      simp only [hmem, and_self, if_true]
    · rw [if_neg fun h => hmem (DatabaseBuffers.mem_intersection.mp h).1]
      simp only [hmem, if_false, Option.map_id']
  · rw [List.getElem?_eq_none (Nat.le_of_not_lt hi), Option.map_none, Option.map_none, ite_self]

theorem buffers_assignClassToRange {t : StaticType} (h : t ≠ type.staticType) :
    (db.assignClassToRange type clazz range).1.buffers t = db.buffers t :=
  Function.update_of_ne h _ _

end Database

/-! ## What a pair of headers does -/

/-- The points of the type with a virtual index in the range get the class, no other point changes,
and the parameter error says that some index of the range does not exist. -/
structure AssignsRange (db db' : DatabaseBuffers) (type : AssignClassType) (clazz : PointClass)
    (range : Range) (result : IINField) : Prop where
  points : ∀ i : Nat, (db'.buffers type.staticType).cells[i]? =
    (db.buffers type.staticType).cells[i]?.map fun c =>
      if InRange range c.vIndex then c.setClass clazz else c
  others : ∀ t, t ≠ type.staticType → db'.buffers t = db.buffers t
  error : result.isSet .paramError = true ↔
    ∃ v, InRange range v ∧ v ∉ (db.buffers type.staticType).vIndices

theorem assignsRange_assignClassToRange {db : DatabaseBuffers} {type : AssignClassType}
    {clazz : PointClass} {range : Range} (hvalid : range.isValid = true) :
    AssignsRange db (db.assignClassToRange type clazz range).1 type clazz range
        (if (db.assignClassToRange type clazz range).2 = range then .empty
          else .ofBit .paramError) ↔
      Addressed db type clazz range := by
  have herror : (if (db.assignClassToRange type clazz range).2 = range then IINField.empty
      else .ofBit .paramError).isSet .paramError = true ↔
      ¬ range.stop.toNat < (db.buffers type.staticType).cells.length := by
    rw [← intersection_eq_iff hvalid]
    show (if range.intersection _ = range then _ else _ : IINField).isSet _ = true ↔ _
    split
    next heq => exact ⟨fun h => absurd h (by decide), fun h => absurd heq h⟩
    next hne => exact ⟨fun _ => hne, fun _ => by decide⟩
  constructor
  · intro h
    refine ⟨fun i c hc => ?_, ?_⟩
    · have hi := h.points i
      rw [getElem?_assignClassToRange, hc, Option.map_some, Option.map_some, Option.some_inj] at hi
      by_cases hpos : range.start.toNat ≤ i ∧ i ≤ range.stop.toNat
      · by_cases hv : InRange range c.vIndex
        · exact .inr (iff_of_true hpos hv)
        · rw [if_pos hpos, if_neg hv] at hi
          exact .inl hi
      · by_cases hv : InRange range c.vIndex
        · rw [if_neg hpos, if_pos hv] at hi
          exact .inl hi.symm
        · exact .inr (iff_of_false hpos hv)
    · rw [← not_iff_not, ← herror, h.error]
      simp only [not_forall, exists_prop]
  · intro h
    refine ⟨fun i => ?_, fun t ht => buffers_assignClassToRange ht, ?_⟩
    · rw [getElem?_assignClassToRange]
      cases hc : (db.buffers type.staticType).cells[i]? with
      | none => rfl
      | some c =>
        rw [Option.map_some, Option.map_some]
        rcases h.points i c hc with hsame | hiff
        · rw [hsame, ite_self, ite_self]
        · by_cases hpos : range.start.toNat ≤ i ∧ i ≤ range.stop.toNat
          · rw [if_pos hpos, if_pos (hiff.mp hpos)]
          · rw [if_neg hpos, if_neg fun hv => hpos (hiff.mpr hv)]
    · rw [herror, h.exist]
      simp only [not_forall, exists_prop]

/-- Without an assignment: it is right only when there is nothing to assign. -/
theorem assignsRange_refl {db : DatabaseBuffers} {type : AssignClassType} {clazz : PointClass}
    {range : Range} :
    AssignsRange db db type clazz range (.ofBit .paramError) ↔
      (∀ c ∈ (db.buffers type.staticType).cells, InRange range c.vIndex → c.setClass clazz = c) ∧
        ∃ v, InRange range v ∧ v ∉ (db.buffers type.staticType).vIndices := by
  constructor
  · intro h
    refine ⟨fun c hc hv => ?_, h.error.mp (by decide)⟩
    obtain ⟨i, hi⟩ := List.getElem?_of_mem hc
    have hpoint := h.points i
    rw [hi, Option.map_some, Option.some_inj, if_pos hv] at hpoint
    exact hpoint.symm
  · rintro ⟨hpoints, hmissing⟩
    refine ⟨fun i => ?_, fun _ _ => rfl, fun _ => hmissing, fun _ => by decide⟩
    cases hc : (db.buffers type.staticType).cells[i]? with
    | none => rfl
    | some c =>
      rw [Option.map_some]
      split
      next hv => rw [hpoints c (List.mem_of_getElem? hc) hv]
      next => rfl

theorem after_append_one (db : DatabaseBuffers) (headers : List ObjectHeader)
    (header : ObjectHeader) :
    (after db (headers ++ [header])).state =
      (processHeader headers.length (after db headers).state header).1 := by
  rw [after, APDUHandler.onHeaders_append]
  show (processHeader (APDUHandler.onHeaders _ _ headers).numTotalHeaders _ header).1 = _
  rw [APDUHandler.numTotalHeaders_onHeaders]
  rfl

/-- A header of class data, as a header that may be expected to be an assignment. -/
theorem processAllObjects_classHeader (h : AssignClassHandler) (current : Nat)
    {gv : GroupVariation} {clazz : PointClass} (hclass : pointClass gv = some clazz) :
    (h.processAllObjects current gv).1 =
      if h.isExpectingAssignment current then { h with classHeader := none }
      else { h with classHeader := some current, clazz := clazz } := by
  have htype : assignClassType gv = none := by
    revert hclass
    cases gv <;> first | (intro; rfl) | (intro hclass; cases hclass)
  rw [processAllObjects]
  split
  · rw [htype]
  · rw [recordClass, hclass]

/-- A range header behind a header of class data assigns the class to the points with a virtual
index in the range exactly when the range addresses them as positions too; where the header of class
data stands for the assignment of another one, only when there is nothing to assign. -/
theorem assignsRange_iff (db : DatabaseBuffers) {objects : List UInt8}
    {headers rest : List ObjectHeader} {classRecord record : HeaderRecord} {range : Range}
    {clazz : PointClass} {type : AssignClassType}
    (hrequest : (headersOf objects).2 =
      headers ++ .allObjects classRecord :: .range record range :: rest)
    (hclass : pointClass classRecord.enumeration = some clazz)
    (htype : assignClassType record.enumeration = some type) :
    AssignsRange (after db headers).state.database
        (after db (headers ++ [.allObjects classRecord] ++ [.range record range])).state.database
        type clazz range
        (processHeader (headers.length + 1) (after db (headers ++ [.allObjects classRecord])).state
          (.range record range)).2 ↔
      if (after db headers).state.isExpectingAssignment headers.length then
        (∀ c ∈ ((after db headers).state.database.buffers type.staticType).cells,
            InRange range c.vIndex → c.setClass clazz = c) ∧
          ∃ v, InRange range v ∧
            v ∉ ((after db headers).state.database.buffers type.staticType).vIndices
      else Addressed (after db headers).state.database type clazz range := by
  have hmem : ObjectHeader.range record range ∈ (headersOf objects).2 := by
    rw [hrequest]
    simp
  have hvalid : range.isValid = true := APDUParser.hasRange_parse hmem
  rw [after_append_one _ (headers ++ [_]), after_append_one, List.length_append,
    List.length_singleton]
  generalize (after db headers).state = h
  show AssignsRange h.database ((((h.processAllObjects headers.length _).1).processRange
    (headers.length + 1) _ range).1).database type clazz range (((h.processAllObjects
      headers.length _).1).processRange (headers.length + 1) _ range).2 ↔ _
  rw [processAllObjects_classHeader h _ hclass]
  cases hexpecting : h.isExpectingAssignment headers.length with
  | true =>
    rw [if_pos rfl, if_pos rfl]
    exact assignsRange_refl
  | false =>
    rw [if_neg Bool.false_ne_true, if_neg Bool.false_ne_true, processRange, if_pos (by
      simp [isExpectingAssignment])]
    dsimp only
    rw [htype, ← assignsRange_assignClassToRange hvalid]
    dsimp only [processAssignRange, notifyApplicationOfAssignment]
    split <;> rfl

/-- Where the index of every point is its position, every range addresses them. -/
theorem addressed_of_positions {db : DatabaseBuffers} {type : AssignClassType}
    (h : ∀ (i : Nat) (c : Cell type.staticType),
      (db.buffers type.staticType).cells[i]? = some c → c.vIndex.toNat = i)
    (clazz : PointClass) {range : Range} (hvalid : range.isValid = true) :
    Addressed db type clazz range := by
  rw [Range.isValid, decide_eq_true_eq] at hvalid
  refine ⟨fun i c hc => ?_, fun hlt v hv => ?_, fun hall => ?_⟩
  · refine .inr ?_
    rw [InRange, UInt16.le_iff_toNat_le, UInt16.le_iff_toNat_le, h i c hc]
  · have hle := UInt16.le_iff_toNat_le.mp hv.2
    obtain ⟨c, hc⟩ : ∃ c, (db.buffers type.staticType).cells[v.toNat]? = some c :=
      ⟨_, List.getElem?_eq_getElem (Nat.lt_of_le_of_lt hle hlt)⟩
    refine List.mem_map.mpr ⟨c, List.mem_of_getElem? hc, ?_⟩
    exact UInt16.toNat_inj.mp (h _ c hc)
  · obtain ⟨c, hc, hstop⟩ := List.mem_map.mp (hall range.stop ⟨hvalid, UInt16.le_refl _⟩)
    obtain ⟨i, hi⟩ := List.getElem?_of_mem hc
    rw [← hstop, h i c hi]
    exact (List.getElem?_eq_some_iff.mp hi).1

/-- The headers of a request for a class, as a variation of group 60, and a range of binaries. -/
def binaryHeaders (variation : UInt8) (range : Range) : List ObjectHeader :=
  [.allObjects { GroupVariationRecord.getRecord 60 variation with qualifier := 6, headerIndex := 0 },
    .range { GroupVariationRecord.getRecord 1 0 with qualifier := 0, headerIndex := 1 } range]

/-- Two binaries of class 1, both assigned to class 2. -/
theorem assignsRange_two_binaries :
    (headersOf [60, 3, 6, 1, 0, 0, 0, 1]).2 = binaryHeaders 3 ⟨0, 1⟩ ∧
      AssignsRange (.ofTemplate (fun _ => 2) ⟨0⟩ .contiguous)
        (after (.ofTemplate (fun _ => 2) ⟨0⟩ .contiguous) (binaryHeaders 3 ⟨0, 1⟩)).state.database
        .binaryInput .class2 ⟨0, 1⟩ .empty := by
  have hheaders : (headersOf [60, 3, 6, 1, 0, 0, 0, 1]).2 = [] ++ binaryHeaders 3 ⟨0, 1⟩ := by
    decide
  refine ⟨hheaders, ?_⟩
  refine (assignsRange_iff (.ofTemplate (fun _ => 2) ⟨0⟩ .contiguous) hheaders rfl rfl).mpr ?_
  rw [if_neg (by decide)]
  refine addressed_of_positions (fun i c hc => ?_) _ (by decide)
  match i with
  | 0 => cases hc; rfl
  | 1 => cases hc; rfl
  | i + 2 => cases hc

/-- Binaries with the virtual indices 10 and 20. -/
def discontiguousBinaries : DatabaseBuffers :=
  (DatabaseBuffers.ofTemplate (fun _ => 0) ⟨0⟩ .discontiguous).setBuffer .binary
    { cells := [Cell.initial .binary 10, Cell.initial .binary 20]
      length_lt := by decide
      increasing := by decide }

/-- A request for the binary with index 10 assigns nothing, and says that there is none. -/
theorem not_assignsRange :
    headersOf [60, 2, 6, 1, 0, 0, 10, 10] = (.ok, binaryHeaders 2 ⟨10, 10⟩) ∧
      ¬ AssignsRange discontiguousBinaries
        (handleAssignClass discontiguousBinaries [60, 2, 6, 1, 0, 0, 10, 10]).1.database
        .binaryInput .class1 ⟨10, 10⟩
        (handleAssignClass discontiguousBinaries [60, 2, 6, 1, 0, 0, 10, 10]).2 := by
  refine ⟨by decide, fun h => ?_⟩
  obtain ⟨v, hv, hmissing⟩ := h.error.mp (by decide)
  have hindex : v = 10 := UInt16.le_antisymm hv.2 hv.1
  rw [hindex] at hmissing
  exact hmissing (by decide)

end AssignClassHandler
end Outstation
end Dnp3
