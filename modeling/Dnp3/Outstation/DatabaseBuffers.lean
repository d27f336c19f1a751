import Mathlib.Logic.Function.Basic
import Dnp3.App.IINField
import Dnp3.App.HeaderWriter
import Dnp3.Outstation.Cell

/-!
# The static database

`DatabaseBuffers` holds the cells of every type, and for every type the range in which cells are
selected for the response that is being sent.  A READ selects cells and snapshots their values;
`load` writes the selected cells of one type after the other, deselects what it has written, and
narrows the ranges, so that the next fragment continues where this one ended.

A header is written for a run of cells: selected, of one variation, with consecutive virtual
indices.

The loops of the source that write cells through an iterator take fuel here.  The functions on one
type are written once, for all types, and the switches over the variations are tables:
`staticSelection` says what a group and variation selects, `getStaticWriter` how a variation is
written.  Points are given by virtual indices, and `findClosestRawIndex` searches their positions as
the source does, in sixteen-bit arithmetic; what the search finds is the subject of
`Outstation.IndexSearch`.
-/

namespace Dnp3
namespace Outstation

open App

/-! ## Index search -/

namespace IndexSearch

/-- What a search has found: the index itself, or one that is close to it. -/
structure Result where
  isMatch : Bool
  index : UInt16
  deriving DecidableEq, Repr

/-- The middle of two indices, in 16-bit arithmetic. -/
def getMidpoint (lower upper : UInt16) : UInt16 := (upper - lower) / 2 + lower

/-- The loop of the binary search through the virtual indices of an array.  There is no result when
it reads outside the array or does not end. -/
def search (view : List UInt16) (vIndex : UInt16) :
    Nat → (lower upper midpoint : UInt16) → Option Result
  | 0, _, _, _ => none
  | fuel + 1, lower, upper, midpoint =>
    if lower ≤ upper then
      let midpoint := getMidpoint lower upper
      match view[midpoint.toNat]? with
      | none => none
      | some index =>
        if index = vIndex then some ⟨true, midpoint⟩
        else if index < vIndex then
          if lower < 65535 then search view vIndex fuel (midpoint + 1) upper midpoint
          else some ⟨false, midpoint⟩
        else if upper > 0 then
          -- wraps at the first element
          search view vIndex fuel lower (midpoint - 1) midpoint
        else some ⟨false, midpoint⟩
    else some ⟨false, midpoint⟩

/-- The place of a virtual index, or one that is close to it. -/
def findClosestRawIndex (view : List UInt16) (vIndex : UInt16) : Option Result :=
  if view.isEmpty then some ⟨false, 0⟩
  else search view vIndex 65536 0 (UInt16.ofNat view.length - 1) 0

/-- The range of positions of a range of virtual indices. -/
def findRawRange (view : List UInt16) (range : Range) : Option Range :=
  if range.isValid ∧ ¬ view.isEmpty then
    match findClosestRawIndex view range.start, findClosestRawIndex view range.stop with
    | some start, some stop =>
      let below := view.getD start.index.toNat 0 < range.start
      let above := view.getD stop.index.toNat 0 > range.stop
      if below ∧ ¬ start.index < 65535 then some .invalid
      else
        let start := if below then start.index + 1 else start.index
        if above ∧ ¬ stop.index > 0 then some .invalid
        else
          let stop := if above then stop.index - 1 else stop.index
          if start.toNat < view.length ∧ stop.toNat < view.length then
            some { start := start, stop := stop }
          else some .invalid
    | _, _ => none
  else some .invalid

end IndexSearch

/-! ## Writers -/

/-- How the cells of a variation are written. -/
inductive StaticWriter : StaticType → Type where
  /-- `WriteSingleBitfield`. -/
  | singleBitfield (id : GroupVariationID) : StaticWriter .binary
  /-- `WriteWithSerializer`. -/
  | withSerializer {t : StaticType} (s : DNP3Serializer t.Value) : StaticWriter t

/-- `GetStaticWriter` of every type; there is only one writer for frozen counters. -/
def getStaticWriter : (t : StaticType) → t.Variation → StaticWriter t
  | .binary, .group1Var1 => .singleBitfield ⟨1, 1⟩
  | .binary, _ => .withSerializer group1Var2
  | .doubleBitBinary, _ => .withSerializer (t := .doubleBitBinary) group3Var2
  | .counter, .group20Var1 => .withSerializer (t := .counter) group20Var1
  | .counter, .group20Var2 => .withSerializer (t := .counter) group20Var2
  | .counter, .group20Var5 => .withSerializer (t := .counter) group20Var5
  | .counter, .group20Var6 => .withSerializer (t := .counter) group20Var6
  | .frozenCounter, _ => .withSerializer (t := .frozenCounter) group21Var1
  | .analog, .group30Var1 => .withSerializer (t := .analog) group30Var1
  | .analog, .group30Var2 => .withSerializer (t := .analog) group30Var2
  | .analog, .group30Var3 => .withSerializer (t := .analog) group30Var3
  | .analog, .group30Var4 => .withSerializer (t := .analog) group30Var4
  | .analog, .group30Var5 => .withSerializer (t := .analog) group30Var5
  | .analog, .group30Var6 => .withSerializer (t := .analog) group30Var6
  | .binaryOutputStatus, _ => .withSerializer (t := .binaryOutputStatus) group10Var2
  | .analogOutputStatus, .group40Var1 => .withSerializer (t := .analogOutputStatus) group40Var1
  | .analogOutputStatus, .group40Var2 => .withSerializer (t := .analogOutputStatus) group40Var2
  | .analogOutputStatus, .group40Var3 => .withSerializer (t := .analogOutputStatus) group40Var3
  | .analogOutputStatus, .group40Var4 => .withSerializer (t := .analogOutputStatus) group40Var4
  | .timeAndInterval, _ => .withSerializer (t := .timeAndInterval) group50Var4
  | .securityStat, _ => .withSerializer (t := .securityStat) group121Var1

/-- The cells, the range that is left, and whether there may be room for more. -/
structure Loaded (t : StaticType) where
  cells : List (Cell t)
  range : Range
  spaceRemaining : Bool

section LoadFunctions

variable {t : StaticType} {I : Type}

/-- The loop that writes cells through an iterator, from the start of the range on, while they are
selected with the variation and have the next index.  The length of the range is enough fuel. -/
def loadWith (offer : I × WSlice → t.Value → (I × WSlice) × Bool) (variation : t.Variation) :
    Nat → List (Cell t) → I × WSlice → Range → (nextIndex : UInt16) → Loaded t × (I × WSlice)
  | 0, cells, p, range, _ => (⟨cells, range, true⟩, p)
  | fuel + 1, cells, p, range, nextIndex =>
    match cells[range.start.toNat]? with
    | none => (⟨cells, range, true⟩, p)
    | some c =>
      if range.isValid ∧ c.selection.selected ∧ c.selection.variation = variation ∧
          c.vIndex = nextIndex then
        match offer p c.selection.value with
        | (p, true) =>
          loadWith offer variation fuel (cells.set range.start.toNat c.deselect) p range.advance
            (nextIndex + 1)
        | (p, false) => (⟨cells, range, false⟩, p)
      else (⟨cells, range, true⟩, p)

/-- Load values behind a header with a range. -/
def loadWithRangeIterator (variation : t.Variation) (cells : List (Cell t))
    (p : RangeWriteIterator t.Value × WSlice) (range : Range) (nextIndex : UInt16) :
    Loaded t × (RangeWriteIterator t.Value × WSlice) :=
  loadWith (fun (p : RangeWriteIterator t.Value × WSlice) v => p.1.write p.2 v) variation
    range.count cells p range nextIndex

/-- Load values behind a header that packs them. -/
def loadWithBitfieldIterator (variation : StaticBinaryVariation) (cells : List (Cell .binary))
    (p : BitfieldRangeWriteIterator × WSlice) (range : Range) (nextIndex : UInt16) :
    Loaded .binary × (BitfieldRangeWriteIterator × WSlice) :=
  loadWith (t := .binary)
    (fun (p : BitfieldRangeWriteIterator × WSlice) (v : Binary) => p.1.write p.2 v.value) variation
    range.count cells p range nextIndex

/-- The virtual indices of the ends of a range of positions. -/
def mappedRange (cells : List (Cell t)) (range : Range) : Range where
  start := StaticBuffer.vIndexAt cells range.start
  stop := StaticBuffer.vIndexAt cells range.stop

/-- The type of the indices of a header. -/
def indexTypeOf (mapped : Range) : IndexType := if mapped.isOneByte then .uint8 else .uint16

/-- The qualifier of a header with a range. -/
def startStopQualifier : IndexType → QualifierCode
  | .uint8 => .uint8StartStop
  | .uint16 => .uint16StartStop

/-- Write a header of packed values, as many as have the same variation and fit. -/
def writeSingleBitfield (id : GroupVariationID) (variation : StaticBinaryVariation)
    (cells : List (Cell .binary)) (writer : HeaderWriter) (range : Range) :
    Loaded .binary × HeaderWriter :=
  let mapped := mappedRange cells range
  let type := indexTypeOf mapped
  let (writer, it) := writer.iterateOverSingleBitfield type id (startStopQualifier type)
    mapped.start.toNat
  let (loaded, p) := loadWithBitfieldIterator variation cells (it, writer.position) range
    mapped.start
  (loaded, { writer with position := p.1.finish p.2 })

/-- Write a header of values, as many as have the same variation and fit. -/
def writeWithSerializer (s : DNP3Serializer t.Value) (variation : t.Variation)
    (cells : List (Cell t)) (writer : HeaderWriter) (range : Range) : Loaded t × HeaderWriter :=
  let mapped := mappedRange cells range
  let type := indexTypeOf mapped
  let (writer, it) := writer.iterateOverRange type (startStopQualifier type) s mapped.start.toNat
  let (loaded, p) := loadWithRangeIterator variation cells (it, writer.position) range mapped.start
  (loaded, { writer with position := p.1.finish p.2 })

/-- Call a writer for the cell at the start of the range, which has this variation. -/
def StaticWriter.apply : {t : StaticType} → StaticWriter t → t.Variation → List (Cell t) →
    HeaderWriter → Range → Loaded t × HeaderWriter
  | _, .singleBitfield id, variation, cells, writer, range =>
    writeSingleBitfield id variation cells writer range
  | _, .withSerializer s, variation, cells, writer, range =>
    writeWithSerializer s variation cells writer range

/-- The loop of `LoadType`: write a run, or skip a cell that is not selected. -/
def loadRange : Nat → List (Cell t) → HeaderWriter → Range → Loaded t × HeaderWriter
  | 0, cells, writer, range => (⟨cells, range, true⟩, writer)
  | fuel + 1, cells, writer, range =>
    if range.isValid then
      match cells[range.start.toNat]? with
      | none => (⟨cells, range, true⟩, writer)
      | some c =>
        if c.selection.selected then
          match (getStaticWriter t c.selection.variation).apply c.selection.variation cells writer
            range with
          | (⟨cells, range, true⟩, writer) => loadRange fuel cells writer range
          | (⟨cells, range, false⟩, writer) => (⟨cells, range, false⟩, writer)
        else loadRange fuel cells writer range.advance
    else (⟨cells, range, true⟩, writer)

end LoadFunctions

/-! ## Virtual indices stay -/

section Keep

variable {t : StaticType} {I : Type}

theorem map_vIndex_set {cells : List (Cell t)} {i : Nat} {c c' : Cell t} (h : cells[i]? = some c)
    (hc : c'.vIndex = c.vIndex) :
    (cells.set i c').map Cell.vIndex = cells.map Cell.vIndex := by
  rw [List.map_set, hc]
  refine List.ext_getElem? fun j => ?_
  rw [List.getElem?_set]
  split
  next hij =>
    subst hij
    obtain ⟨hlt, hget⟩ := List.getElem?_eq_some_iff.mp h
    simp [hlt, hget]
  next => rfl

theorem map_vIndex_loadWith (offer : I × WSlice → t.Value → (I × WSlice) × Bool)
    (variation : t.Variation) (fuel : Nat) (cells : List (Cell t)) (p : I × WSlice) (range : Range)
    (nextIndex : UInt16) :
    (loadWith offer variation fuel cells p range nextIndex).1.cells.map Cell.vIndex =
      cells.map Cell.vIndex := by
  induction fuel generalizing cells p range nextIndex with
  | zero => rfl
  | succ fuel ih =>
    rw [loadWith]
    split
    · rfl
    next c hc =>
      split
      · split
        · rw [ih]
          exact map_vIndex_set hc c.vIndex_deselect
        · rfl
      · rfl

theorem map_vIndex_apply (w : StaticWriter t) (variation : t.Variation) (cells : List (Cell t))
    (writer : HeaderWriter) (range : Range) :
    (w.apply variation cells writer range).1.cells.map Cell.vIndex = cells.map Cell.vIndex := by
  cases w with
  | singleBitfield id => exact map_vIndex_loadWith _ _ _ _ _ _ _
  | withSerializer s => exact map_vIndex_loadWith _ _ _ _ _ _ _

theorem map_vIndex_loadRange (fuel : Nat) (cells : List (Cell t)) (writer : HeaderWriter)
    (range : Range) :
    (loadRange fuel cells writer range).1.cells.map Cell.vIndex = cells.map Cell.vIndex := by
  induction fuel generalizing cells writer range with
  | zero => rfl
  | succ fuel ih =>
    rw [loadRange]
    split
    · split
      · rfl
      next c hc =>
        split
        · have hkeep := map_vIndex_apply (getStaticWriter t c.selection.variation)
            c.selection.variation cells writer range
          split
          next hw =>
            rw [hw] at hkeep
            rw [ih, hkeep]
          next hw =>
            rw [hw] at hkeep
            exact hkeep
        · exact ih _ _ _
    · rfl

end Keep

/-! ## The database -/

/-- The points of an outstation, and what a READ has selected of them. -/
structure DatabaseBuffers where
  buffers : (t : StaticType) → StaticBuffer t
  ranges : StaticType → Range
  class0 : StaticTypeBitField
  indexMode : IndexMode
  /-- An index search has had no result; it then counts as finding nothing. -/
  lost : Bool

/-- `CheckForPromotion`: a packed binary cannot carry any flag. -/
def checkForPromotion : (t : StaticType) → t.Value → t.Variation → t.Variation
  | .binary, value, .group1Var1 => if value.isQualityOnlineOnly then .group1Var1 else .group1Var2
  | _, _, variation => variation

/-- Snapshot the cell with a variation, or with its own; a selected cell stays as it is. -/
def Cell.select {t : StaticType} (variation : Option t.Variation) (c : Cell t) : Cell t :=
  if c.selection.selected then c
  else
    { c with
      selection :=
        { selected := true
          value := c.value
          variation := checkForPromotion t c.value (variation.getD c.variation) } }

@[simp] theorem Cell.vIndex_select {t : StaticType} (variation : Option t.Variation) (c : Cell t) :
    (c.select variation).vIndex = c.vIndex := by
  unfold select
  split <;> rfl

/-- A type of points and a variation of it; no variation stands for the default of each point. -/
structure StaticSelection where
  type : StaticType
  variation : Option type.Variation

/-- The cases of `SelectAll` and of `SelectRange`. -/
def staticSelection : GroupVariation → Option StaticSelection
  | .group1Var0 => some ⟨.binary, none⟩
  | .group1Var1 => some ⟨.binary, some .group1Var1⟩
  | .group1Var2 => some ⟨.binary, some .group1Var2⟩
  | .group3Var0 => some ⟨.doubleBitBinary, none⟩
  | .group3Var2 => some ⟨.doubleBitBinary, some .group3Var2⟩
  | .group10Var0 => some ⟨.binaryOutputStatus, none⟩
  | .group10Var2 => some ⟨.binaryOutputStatus, some .group10Var2⟩
  | .group20Var0 => some ⟨.counter, none⟩
  | .group20Var1 => some ⟨.counter, some .group20Var1⟩
  | .group20Var2 => some ⟨.counter, some .group20Var2⟩
  | .group20Var5 => some ⟨.counter, some .group20Var5⟩
  | .group20Var6 => some ⟨.counter, some .group20Var6⟩
  | .group21Var0 => some ⟨.frozenCounter, none⟩
  | .group21Var1 => some ⟨.frozenCounter, some .group21Var1⟩
  | .group21Var2 => some ⟨.frozenCounter, some .group21Var2⟩
  | .group21Var5 => some ⟨.frozenCounter, some .group21Var5⟩
  | .group21Var6 => some ⟨.frozenCounter, some .group21Var6⟩
  | .group21Var9 => some ⟨.frozenCounter, some .group21Var9⟩
  | .group21Var10 => some ⟨.frozenCounter, some .group21Var10⟩
  | .group30Var0 => some ⟨.analog, none⟩
  | .group30Var1 => some ⟨.analog, some .group30Var1⟩
  | .group30Var2 => some ⟨.analog, some .group30Var2⟩
  | .group30Var3 => some ⟨.analog, some .group30Var3⟩
  | .group30Var4 => some ⟨.analog, some .group30Var4⟩
  | .group30Var5 => some ⟨.analog, some .group30Var5⟩
  | .group30Var6 => some ⟨.analog, some .group30Var6⟩
  | .group40Var0 => some ⟨.analogOutputStatus, none⟩
  | .group40Var1 => some ⟨.analogOutputStatus, some .group40Var1⟩
  | .group40Var2 => some ⟨.analogOutputStatus, some .group40Var2⟩
  | .group40Var3 => some ⟨.analogOutputStatus, some .group40Var3⟩
  | .group40Var4 => some ⟨.analogOutputStatus, some .group40Var4⟩
  | .group50Var4 => some ⟨.timeAndInterval, some .group50Var4⟩
  | .group121Var0 => some ⟨.securityStat, none⟩
  | .group121Var1 => some ⟨.securityStat, some .group121Var1⟩
  | _ => none

/-- The types whose points can be assigned to a class. -/
inductive AssignClassType where
  | binaryInput
  | doubleBinaryInput
  | counter
  | frozenCounter
  | analogInput
  | binaryOutputStatus
  | analogOutputStatus
  | securityStat
  deriving DecidableEq, Repr

/-- The points that a header of the request is about. -/
def AssignClassType.staticType : AssignClassType → StaticType
  | binaryInput => .binary
  | doubleBinaryInput => .doubleBitBinary
  | counter => .counter
  | frozenCounter => .frozenCounter
  | analogInput => .analog
  | binaryOutputStatus => .binaryOutputStatus
  | analogOutputStatus => .analogOutputStatus
  | securityStat => .securityStat

namespace DatabaseBuffers

/-- The numbers of points of a `DatabaseTemplate`; the points have their default indices. -/
def ofTemplate (sizes : StaticType → UInt16) (class0 : StaticTypeBitField)
    (indexMode : IndexMode) : DatabaseBuffers where
  buffers t :=
    { cells := (List.range (sizes t).toNat).map fun i => Cell.initial t (UInt16.ofNat i)
      length_lt := by
        rw [List.length_map, List.length_range]
        exact (sizes t).toNat_lt
      increasing := by
        rw [List.map_map, List.pairwise_map]
        refine List.Pairwise.imp_of_mem ?_ List.pairwise_lt_range
        intro i j hi hj hij
        rw [List.mem_range] at hi hj
        have hsize := (sizes t).toNat_lt
        show UInt16.ofNat i < UInt16.ofNat j
        rw [UInt16.lt_iff_toNat_lt, UInt16.toNat_ofNat_of_lt' (by simp only [UInt16.size]; omega),
          UInt16.toNat_ofNat_of_lt' (by simp only [UInt16.size]; omega)]
        exact hij }
  ranges _ := .invalid
  class0 := class0
  indexMode := indexMode
  lost := false

/-- Replace the cells of a type. -/
def setBuffer (db : DatabaseBuffers) (t : StaticType) (b : StaticBuffer t) : DatabaseBuffers :=
  { db with buffers := Function.update db.buffers t b }

/-- `SelectedRanges::Set`. -/
def setRange (db : DatabaseBuffers) (t : StaticType) (range : Range) : DatabaseBuffers :=
  { db with ranges := Function.update db.ranges t range }

/-- All indices of an array. -/
def rangeOf (size : UInt16) : Range :=
  if size > 0 then { start := 0, stop := size - 1 } else .invalid

/-! ### Selection -/

/-- Select the points of a range that exist, with a variation or each with its own. -/
def genericSelect (db : DatabaseBuffers) (t : StaticType) (range : Range)
    (variation : Option t.Variation) : DatabaseBuffers × IINField :=
  if range.isValid then
    let view := db.buffers t
    let allowed := range.intersection (rangeOf view.size)
    if allowed.isValid then
      -- truncated ranges and cells that are selected already are reported
      let ret := if allowed = range then IINField.empty else .ofBit .paramError
      let ret := if (view.inRange allowed).any fun c => c.selection.selected then
        ret.setBit .paramError else ret
      ((db.setBuffer t (view.updateRange allowed (Cell.select variation)
          (Cell.vIndex_select variation))).setRange t ((db.ranges t).union allowed), ret)
    else (db, .ofBit .paramError)
  else (db, .empty)

/-- Select all points of a type. -/
def selectAllOf (db : DatabaseBuffers) (s : StaticSelection) : DatabaseBuffers × IINField :=
  db.genericSelect s.type (rangeOf (db.buffers s.type).size) s.variation

/-- Select all points of a type, if it is in class 0. -/
def selectAllClass0 (db : DatabaseBuffers) (t : StaticType) : DatabaseBuffers :=
  if db.class0.isSet t then (db.selectAllOf ⟨t, none⟩).1 else db

/-- Select what a header without a range asks for. -/
def selectAll (db : DatabaseBuffers) (gv : GroupVariation) : DatabaseBuffers × IINField :=
  if gv = .group60Var1 then (StaticType.all.foldl selectAllClass0 db, .empty)
  else
    match staticSelection gv with
    | some s => db.selectAllOf s
    | none => (db, .ofBit .funcNotSupported)

/-- Select a range of virtual indices, which are searched for unless they are the places
themselves. -/
def selectVirtualRange (db : DatabaseBuffers) (s : StaticSelection) (range : Range) :
    DatabaseBuffers × IINField :=
  match db.indexMode with
  | .discontiguous =>
    match IndexSearch.findRawRange (db.buffers s.type).vIndices range with
    | none => ({ db with lost := true }, .ofBit .paramError)
    | some mapped =>
      if mapped.isValid then
        let clipped := if range.count = mapped.count then IINField.empty else .ofBit .paramError
        let (db, ret) := db.genericSelect s.type mapped s.variation
        (db, clipped.or ret)
      else (db, .ofBit .paramError)
  | .contiguous => db.genericSelect s.type range s.variation

/-- Select what a header with a range asks for. -/
def selectRange (db : DatabaseBuffers) (gv : GroupVariation) (range : Range) :
    DatabaseBuffers × IINField :=
  match staticSelection gv with
  | some s => db.selectVirtualRange s range
  | none => (db, .ofBit .funcNotSupported)

/-- No point of a type is selected any longer. -/
def deselect (db : DatabaseBuffers) (t : StaticType) : DatabaseBuffers :=
  if (db.ranges t).isValid then
    (db.setBuffer t ((db.buffers t).updateRange (db.ranges t) Cell.deselect
      Cell.vIndex_deselect)).setRange t .invalid
  else db

/-- No point is selected any longer. -/
def unselect (db : DatabaseBuffers) : DatabaseBuffers := StaticType.all.foldl deselect db

/-- Some point is selected. -/
def hasAnySelection (db : DatabaseBuffers) : Bool :=
  StaticType.all.any fun t => (db.ranges t).isValid

/-! ### Responses -/

/-- Write the selected cells of a type; whether all of them were written. -/
def loadType (db : DatabaseBuffers) (t : StaticType) (writer : HeaderWriter) :
    DatabaseBuffers × HeaderWriter × Bool :=
  let l := loadRange (db.ranges t).count (db.buffers t).cells writer (db.ranges t)
  ((db.setBuffer t ((db.buffers t).replace l.1.cells (map_vIndex_loadRange _ _ _ _))).setRange t
    l.1.range, l.2, l.1.spaceRemaining)

/-- The loop of `Load` over the types; it ends with the first type that is not written completely.
-/
def loadTypes : List StaticType → DatabaseBuffers → HeaderWriter →
    DatabaseBuffers × HeaderWriter × Bool
  | [], db, writer => (db, writer, true)
  | t :: types, db, writer =>
    match db.loadType t writer with
    | (db, writer, true) => loadTypes types db writer
    | (db, writer, false) => (db, writer, false)

/-- Load as much as fits, type by type; whether everything was loaded. -/
def load (db : DatabaseBuffers) (writer : HeaderWriter) : DatabaseBuffers × HeaderWriter × Bool :=
  loadTypes StaticType.all db writer

/-! ### Classes -/

/-- `AssignClassTo`: the positions of a range within the array get a class. -/
def assignClassToRange (db : DatabaseBuffers) (type : AssignClassType) (clazz : PointClass)
    (range : Range) : DatabaseBuffers × Range :=
  let view := db.buffers type.staticType
  let clipped := range.intersection (rangeOf view.size)
  (db.setBuffer type.staticType (view.updateRange clipped (fun c => c.setClass clazz)
    fun c => c.vIndex_setClass clazz), clipped)

/-- Assign all points of a type to a class. -/
def assignClassToAll (db : DatabaseBuffers) (type : AssignClassType) (clazz : PointClass) :
    DatabaseBuffers × Range :=
  db.assignClassToRange type clazz (rangeOf (db.buffers type.staticType).size)

/-! ### Updates -/

/-- `GetRawIndex`: 65535 when there is no such point. -/
def getRawIndex (db : DatabaseBuffers) (t : StaticType) (index : UInt16) : Option UInt16 :=
  match db.indexMode with
  | .contiguous => some index
  | .discontiguous =>
    (IndexSearch.findClosestRawIndex (db.buffers t).vIndices index).map fun result =>
      if result.isMatch then result.index else 65535

/-- Update the point at a position. -/
def updateAt (db : DatabaseBuffers) (t : StaticType) (rawIndex : UInt16) (value : t.Value)
    (mode : EventMode) : DatabaseBuffers :=
  db.setBuffer t ((db.buffers t).updateRange { start := rawIndex, stop := rawIndex }
    (fun c => (c.updateAny value mode).1) fun c => c.vIndex_updateAny value mode)

/-- `Database::Update` of every type: the event to record, and whether there is such a point. -/
def update (db : DatabaseBuffers) (t : StaticType) (value : t.Value) (index : UInt16)
    (mode : EventMode) : DatabaseBuffers × Option EventUpdate × Bool :=
  match db.getRawIndex t index with
  | none => ({ db with lost := true }, none, false)
  | some rawIndex =>
    match (db.buffers t).cells[rawIndex.toNat]? with
    | some c => (db.updateAt t rawIndex value mode, (c.updateAny value mode).2, true)
    | none => (db, none, false)

/-- `Database::Modify` of every type: the new value is made from the one that is stored. -/
def modify (db : DatabaseBuffers) (t : StaticType) (modify : t.Value → t.Value) (index : UInt16)
    (mode : EventMode) : DatabaseBuffers × Option EventUpdate × Bool :=
  match db.getRawIndex t index with
  | none => ({ db with lost := true }, none, false)
  | some rawIndex =>
    match (db.buffers t).cells[rawIndex.toNat]? with
    | some c => (db.updateAt t rawIndex (modify c.value) mode,
        (c.updateAny (modify c.value) mode).2, true)
    | none => (db, none, false)

end DatabaseBuffers
end Outstation
end Dnp3
