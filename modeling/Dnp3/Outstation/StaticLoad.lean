import Dnp3.App.Decode
import Dnp3.Outstation.DatabaseBuffers

/-!
# Loading the selected cells

The loops of `load` walk along the range of a type.  `Spans` splits the cells into those in front of
the range, those in it, and those behind it; a loop moves cells from the middle to the front and
deselects them.  A writer takes a run of cells at once, and offers their values to one header, so
what it writes is known from the run and from how many values the header took.

`runOf` is such a run: cells that are selected with the same variation and have consecutive virtual
indices.  `apply_spec` says what a writer does with it, `Spans.apply_writes` what this does to the
range, and `loadRange_spec` what the whole loop writes: the pending objects of some cells in front,
all of them if it does not stop.  The exception is a header with one-byte indices that takes all 256
of them (`FullRun`), where the counter of the header goes around.
-/

namespace Dnp3
namespace Outstation

open Library App

variable {t : StaticType}

/-! ## Ranges of positions -/

/-- The cells in front of the range, in it, and behind it. -/
structure Spans (cells : List (Cell t)) (range : Range)
    (front seg back : List (Cell t)) : Prop where
  cells_eq : cells = front ++ seg ++ back
  length_lt : cells.length < 65536
  ends : seg ≠ [] →
    range.start.toNat = front.length ∧ range.stop.toNat + 1 = front.length + seg.length
  invalid : seg = [] → range = .invalid

namespace Spans

variable {cells front seg back : List (Cell t)} {range : Range} {c : Cell t}

theorem isValid (h : Spans cells range front (c :: seg) back) : range.isValid = true := by
  obtain ⟨hstart, hstop⟩ := h.ends (List.cons_ne_nil c seg)
  rw [List.length_cons] at hstop
  rw [Range.isValid, decide_eq_true_eq, UInt16.le_iff_toNat_le]
  omega

theorem count (h : Spans cells range front seg back) : range.count = seg.length := by
  cases seg with
  | nil =>
    rw [h.invalid rfl]
    rfl
  | cons c seg =>
    have hvalid := h.isValid
    obtain ⟨hstart, hstop⟩ := h.ends (List.cons_ne_nil c seg)
    rw [List.length_cons] at hstop ⊢
    rw [Range.count, if_pos hvalid, hstart]
    omega

theorem head (h : Spans cells range front (c :: seg) back) :
    cells[range.start.toNat]? = some c := by
  obtain ⟨hstart, -⟩ := h.ends (List.cons_ne_nil c seg)
  rw [h.cells_eq, hstart, List.append_assoc, List.cons_append,
    List.getElem?_append_right (Nat.le_refl _), Nat.sub_self, List.getElem?_cons_zero]

/-- The last cell of the range. -/
theorem getLast? (h : Spans cells range front seg back) (hne : seg ≠ []) :
    cells[range.stop.toNat]? = seg.getLast? := by
  obtain ⟨-, hstop⟩ := h.ends hne
  have hpos := List.length_pos_iff.mpr hne
  rw [List.getLast?_eq_getElem?, h.cells_eq, List.append_assoc,
    List.getElem?_append_right (by omega), List.getElem?_append_left (by omega)]
  congr 1
  omega

/-- Replace the first cell of the range. -/
theorem set (h : Spans cells range front (c :: seg) back) (c' : Cell t) :
    Spans (cells.set range.start.toNat c') range front (c' :: seg) back := by
  obtain ⟨hstart, hstop⟩ := h.ends (List.cons_ne_nil c seg)
  refine ⟨?_, ?_, fun _ => ⟨hstart, hstop⟩, fun hnil => by cases hnil⟩
  · rw [h.cells_eq, hstart, List.append_assoc, List.cons_append,
      List.set_append_right _ _ (Nat.le_refl _), Nat.sub_self, List.set_cons_zero,
      List.append_assoc, List.cons_append]
  · rw [List.length_set]
    exact h.length_lt

/-- Pass the first cell of the range. -/
theorem advance (h : Spans cells range front (c :: seg) back) :
    Spans cells range.advance (front ++ [c]) seg back := by
  obtain ⟨hstart, hstop⟩ := h.ends (List.cons_ne_nil c seg)
  have hlen := congrArg List.length h.cells_eq
  have hlt := h.length_lt
  simp only [List.length_append, List.length_cons] at hlen hstop
  refine ⟨?_, hlt, ?_, ?_⟩
  · rw [h.cells_eq, ← List.append_cons]
  · intro hne
    have hpos := List.length_pos_iff.mpr hne
    have hless : range.start < range.stop := by
      rw [UInt16.lt_iff_toNat_lt]
      omega
    have hnext : (range.start + 1).toNat = range.start.toNat + 1 := by
      rw [UInt16.toNat_add]
      exact Nat.mod_eq_of_lt (by rw [UInt16.toNat_one]; omega)
    rw [Range.advance, h.isValid, if_pos rfl, if_pos hless, List.length_append,
      List.length_singleton]
    refine ⟨by rw [hnext, hstart], ?_⟩
    show range.stop.toNat + 1 = _
    omega
  · intro hnil
    subst hnil
    have hnot : ¬ range.start < range.stop := by
      rw [UInt16.lt_iff_toNat_lt]
      rw [List.length_nil] at hstop
      omega
    rw [Range.advance, h.isValid, if_pos rfl, if_neg hnot]

end Spans

/-- A valid range of positions of cells. -/
theorem Spans.exists {cells : List (Cell t)} {range : Range} (hlt : cells.length < 65536)
    (hvalid : range.isValid = true) (hstop : range.stop.toNat < cells.length) :
    Spans cells range (cells.take range.start.toNat)
      ((cells.take (range.stop.toNat + 1)).drop range.start.toNat)
      (cells.drop (range.stop.toNat + 1)) := by
  rw [Range.isValid, decide_eq_true_eq, UInt16.le_iff_toNat_le] at hvalid
  have hfront : (cells.take range.start.toNat).length = range.start.toNat :=
    List.length_take_of_le (by omega)
  have hseg : ((cells.take (range.stop.toNat + 1)).drop range.start.toNat).length =
      range.stop.toNat + 1 - range.start.toNat := by
    rw [List.length_drop, List.length_take_of_le (by omega)]
  refine ⟨?_, hlt, fun _ => ⟨hfront.symm, ?_⟩, ?_⟩
  · have htake : (cells.take (range.stop.toNat + 1)).take range.start.toNat =
        cells.take range.start.toNat := by
      rw [List.take_take, Nat.min_eq_left (by omega)]
    rw [← htake, List.take_append_drop, List.take_append_drop]
  · rw [hfront, hseg]
    omega
  · intro hnil
    have hlen := congrArg List.length hnil
    rw [hseg, List.length_nil] at hlen
    omega

/-! ## Runs of cells -/

/-- The cells at the front that can share a header: selected, of the variation, and with
consecutive indices. -/
def runOf (variation : t.Variation) : UInt16 → List (Cell t) → List (Cell t)
  | _, [] => []
  | nextIndex, c :: cells =>
    if c.selection.selected ∧ c.selection.variation = variation ∧ c.vIndex = nextIndex then
      c :: runOf variation (nextIndex + 1) cells
    else []

theorem runOf_front (variation : t.Variation) (nextIndex : UInt16) (cells : List (Cell t)) :
    runOf variation nextIndex cells <+: cells := by
  induction cells generalizing nextIndex with
  | nil => exact List.prefix_refl _
  | cons c cells ih =>
    rw [runOf]
    split
    · exact List.cons_prefix_cons.mpr ⟨rfl, ih _⟩
    · exact List.nil_prefix

theorem selected_of_mem_runOf {variation : t.Variation} {nextIndex : UInt16}
    {cells : List (Cell t)} {c : Cell t} (h : c ∈ runOf variation nextIndex cells) :
    c.selection.selected = true ∧ c.selection.variation = variation := by
  induction cells generalizing nextIndex with
  | nil => cases h
  | cons d cells ih =>
    rw [runOf] at h
    split at h
    next hd =>
      rcases List.mem_cons.mp h with rfl | hmem
      · exact ⟨hd.1, hd.2.1⟩
      · exact ih hmem
    next => cases h

/-- The run of a selected cell starts with it. -/
theorem runOf_self {c : Cell t} (hc : c.selection.selected = true) (cells : List (Cell t)) :
    runOf c.selection.variation c.vIndex (c :: cells) =
      c :: runOf c.selection.variation (c.vIndex + 1) cells := by
  rw [runOf, if_pos ⟨hc, rfl, rfl⟩]

/-- The indices of a run are consecutive; they do not wrap, since indices increase. -/
theorem vIndex_runOf {variation : t.Variation} {nextIndex : UInt16} {cells : List (Cell t)}
    (hinc : (cells.map Cell.vIndex).Pairwise (· < ·)) {i : Nat} {c : Cell t}
    (h : (runOf variation nextIndex cells)[i]? = some c) :
    c.vIndex.toNat = nextIndex.toNat + i := by
  induction cells generalizing nextIndex i with
  | nil => cases h
  | cons d cells ih =>
    rw [runOf] at h
    split at h
    next hd =>
      rw [List.map_cons, List.pairwise_cons] at hinc
      cases i with
      | zero =>
        cases h
        rw [hd.2.2, Nat.add_zero]
      | succ i =>
        rw [List.getElem?_cons_succ] at h
        have hrest := ih hinc.2 h
        -- the next index is above this one, so it has not wrapped
        have hmem : c ∈ cells := (runOf_front _ _ _).subset (List.mem_of_getElem? h)
        have hless := hinc.1 c.vIndex (List.mem_map_of_mem hmem)
        rw [UInt16.lt_iff_toNat_lt, hd.2.2] at hless
        rw [UInt16.toNat_add, UInt16.toNat_one] at hrest
        have hlt := c.vIndex.toNat_lt
        rw [Nat.mod_eq_of_lt (by omega)] at hrest
        omega
    next => cases h

/-- The values of a run. -/
def valuesOf (cells : List (Cell t)) : List t.Value := cells.map fun c => c.selection.value

/-- The loop offers the values of the run, and moves the cells that were taken to the front. -/
theorem loadWith_spec {I : Type} (offer : I × WSlice → t.Value → (I × WSlice) × Bool)
    (variation : t.Variation) {cells front seg back : List (Cell t)} {range : Range}
    (h : Spans cells range front seg back) (p : I × WSlice) (nextIndex : UInt16) :
    (loadWith offer variation seg.length cells p range nextIndex).2 =
        (fill offer p (valuesOf (runOf variation nextIndex seg))).1 ∧
      (loadWith offer variation seg.length cells p range nextIndex).1.spaceRemaining =
        decide ((fill offer p (valuesOf (runOf variation nextIndex seg))).2 =
          (runOf variation nextIndex seg).length) ∧
      Spans (loadWith offer variation seg.length cells p range nextIndex).1.cells
        (loadWith offer variation seg.length cells p range nextIndex).1.range
        (front ++ (seg.take (fill offer p (valuesOf (runOf variation nextIndex seg))).2).map
          Cell.deselect)
        (seg.drop (fill offer p (valuesOf (runOf variation nextIndex seg))).2) back := by
  induction seg generalizing cells range front p nextIndex with
  | nil => exact ⟨rfl, rfl, by simpa [runOf, valuesOf, fill, loadWith] using h⟩
  | cons c seg ih =>
    rw [List.length_cons, loadWith, h.head, runOf]
    dsimp only
    by_cases hc : c.selection.selected ∧ c.selection.variation = variation ∧ c.vIndex = nextIndex
    · rw [if_pos ⟨h.isValid, hc⟩, if_pos hc, valuesOf, List.map_cons]
      rcases hoffer : offer p c.selection.value with ⟨p', taken⟩
      cases taken with
      | true =>
        obtain ⟨hp, hspace, hspans⟩ := ih (h.set c.deselect).advance p' (nextIndex + 1)
        rw [fill_taken _ hoffer]
        refine ⟨hp, ?_, ?_⟩
        · rw [List.length_cons, hspace]
          exact decide_eq_decide.mpr Nat.succ_inj.symm
        · rw [List.take_succ_cons, List.drop_succ_cons, List.map_cons, List.append_cons]
          exact hspans
      | false =>
        rw [fill_refused _ hoffer]
        refine ⟨rfl, rfl, ?_⟩
        rw [List.take_zero, List.map_nil, List.append_nil, List.drop_zero]
        exact h
    · rw [if_neg fun hcond => hc hcond.2, if_neg hc]
      refine ⟨rfl, rfl, ?_⟩
      show Spans cells range (front ++ (List.take 0 _).map Cell.deselect) (List.drop 0 _) back
      rw [List.take_zero, List.map_nil, List.append_nil, List.drop_zero]
      exact h

/-! ## Headers of runs -/

namespace StaticType

/-- The collection of a type. -/
def wrap : (t : StaticType) → List (Indexed t.Value) → Values
  | binary => .binary
  | doubleBitBinary => .doubleBitBinary
  | counter => .counter
  | frozenCounter => .frozenCounter
  | analog => .analog
  | binaryOutputStatus => .binaryOutputStatus
  | analogOutputStatus => .analogOutputStatus
  | timeAndInterval => .timeAndInterval
  | securityStat => .group121Var1

theorem singles_wrap (t : StaticType) (values : List (Indexed t.Value)) :
    (t.wrap values).singles = values.map fun v => t.wrap [v] := by
  cases t <;> rfl

end StaticType

namespace StaticWriter

/-- What a writer puts under one header. -/
def contents : {t : StaticType} → StaticWriter t → Nat → List t.Value → Contents
  | _, .singleBitfield id, start, values =>
    .bits id Binary.ofValue .binary start (values.map fun v => v.value)
  | t, .withSerializer s, start, values => .range s t.wrap start values

/-- The group and variation of a writer. -/
def id : {t : StaticType} → StaticWriter t → GroupVariationID
  | _, .singleBitfield id => id
  | _, .withSerializer s => s.id

/-- The value as the writer transmits it. -/
def image : {t : StaticType} → StaticWriter t → t.Value → t.Value
  | _, .singleBitfield _, v => Binary.ofValue v.value
  | _, .withSerializer s, v => s.image v

/-- The bytes of some objects. -/
def bytesOf : {t : StaticType} → StaticWriter t → Nat → Nat
  | _, .singleBitfield _, n => (n + 7) / 8
  | _, .withSerializer s, n => n * s.size

/-- The object of a value. -/
def object (w : StaticWriter t) (index : UInt16) (value : t.Value) : DecodedObject where
  gv := (GroupVariationRecord.getRecord w.id.group w.id.variation).enumeration
  value := t.wrap [⟨w.image value, index⟩]

/-- A writer offers the run in front to one header. -/
theorem apply_spec (w : StaticWriter t) {cells front seg back : List (Cell t)} {range : Range}
    {c : Cell t} (h : Spans cells range front (c :: seg) back) (writer : HeaderWriter)
    (variation : t.Variation) :
    ∃ run, run = runOf variation c.vIndex (c :: seg) ∧
      ∃ e, e = (w.contents c.vIndex.toNat (valuesOf run)).emit
        (indexTypeOf (mappedRange cells range)) writer ∧
      (w.apply variation cells writer range).2 = e.1 ∧
      (w.apply variation cells writer range).1.spaceRemaining = decide (e.2 = run.length) ∧
      Spans (w.apply variation cells writer range).1.cells
        (w.apply variation cells writer range).1.range
        (front ++ ((c :: seg).take e.2).map Cell.deselect) ((c :: seg).drop e.2) back := by
  have hstart : (mappedRange cells range).start = c.vIndex := by
    rw [mappedRange, StaticBuffer.vIndexAt, h.head]
  refine ⟨_, rfl, _, rfl, ?_⟩
  cases w with
  | singleBitfield id =>
    have hqualifier (type : IndexType) (values : List Bool) : startStopQualifier type =
        (Contents.bits id Binary.ofValue .binary c.vIndex.toNat values).qualifier type := by
      cases type <;> rfl
    have hload := loadWith_spec (t := .binary)
      (fun (p : BitfieldRangeWriteIterator × WSlice) (v : Binary) => p.1.write p.2 v.value) variation
      h ((writer.iterateOverSingleBitfield (indexTypeOf (mappedRange cells range)) id
          (startStopQualifier (indexTypeOf (mappedRange cells range))) c.vIndex.toNat).2,
        (writer.iterateOverSingleBitfield (indexTypeOf (mappedRange cells range)) id
          (startStopQualifier (indexTypeOf (mappedRange cells range))) c.vIndex.toNat).1.position)
      c.vIndex
    rw [← h.count, fill_map (fun v : Binary => v.value)] at hload
    obtain ⟨hp, hspace, hspans⟩ := hload
    simp only [apply, writeSingleBitfield, hstart, loadWithBitfieldIterator, contents,
      Contents.emit, HeaderWriter.writeBits, ← hqualifier]
    refine ⟨?_, hspace, hspans⟩
    rw [hp]
  | withSerializer s =>
    have hqualifier (type : IndexType) (values : List t.Value) : startStopQualifier type =
        (Contents.range s t.wrap c.vIndex.toNat values).qualifier type := by
      cases type <;> rfl
    have hload := loadWith_spec (fun (p : RangeWriteIterator t.Value × WSlice) v => p.1.write p.2 v)
      variation h ((writer.iterateOverRange (indexTypeOf (mappedRange cells range))
          (startStopQualifier (indexTypeOf (mappedRange cells range))) s c.vIndex.toNat).2,
        (writer.iterateOverRange (indexTypeOf (mappedRange cells range))
          (startStopQualifier (indexTypeOf (mappedRange cells range))) s
          c.vIndex.toNat).1.position) c.vIndex
    rw [← h.count] at hload
    obtain ⟨hp, hspace, hspans⟩ := hload
    simp only [apply, writeWithSerializer, hstart, loadWithRangeIterator, contents, Contents.emit,
      HeaderWriter.writeRange, ← hqualifier]
    refine ⟨?_, hspace, hspans⟩
    rw [hp]

theorem emit_le (w : StaticWriter t) (start : Nat) (values : List t.Value) (type : IndexType)
    (writer : HeaderWriter) :
    ((w.contents start values).emit type writer).2 ≤ values.length := by
  cases w with
  | singleBitfield id =>
    have hle := writer.writeBits_le type id ((Contents.bits id Binary.ofValue .binary start
      (values.map fun v => v.value)).qualifier type) start (values.map fun v => v.value)
    rwa [List.length_map] at hle
  | withSerializer s => exact writer.writeRange_le ..

/-- Nothing is taken only when there is no room, and then nothing is written. -/
theorem emit_zero (w : StaticWriter t) {start : Nat} {v : t.Value} {values : List t.Value}
    {type : IndexType} {writer : HeaderWriter}
    (h : ((w.contents start (v :: values)).emit type writer).2 = 0) :
    ((w.contents start (v :: values)).emit type writer).1 = writer ∧
      writer.position.size < 3 + 2 * type.SIZE + w.bytesOf 1 := by
  cases w with
  | singleBitfield id =>
    obtain ⟨hsame, hroom⟩ := HeaderWriter.writeBits_zero h
    exact ⟨hsame, hroom⟩
  | withSerializer s =>
    obtain ⟨hsame, hroom⟩ := HeaderWriter.writeRange_zero h
    refine ⟨hsame, ?_⟩
    rw [bytesOf, Nat.one_mul, Nat.add_assoc]
    exact hroom

/-- What is taken has room. -/
theorem emit_room (w : StaticWriter t) {start : Nat} {values : List t.Value} {type : IndexType}
    {writer : HeaderWriter} (hpos : 0 < ((w.contents start values).emit type writer).2)
    (hle : ((w.contents start values).emit type writer).2 ≤ type.modulus) :
    3 + 2 * type.SIZE + w.bytesOf ((w.contents start values).emit type writer).2 ≤
      writer.position.size := by
  cases w with
  | singleBitfield id => exact HeaderWriter.writeBits_room hpos hle
  | withSerializer s => exact HeaderWriter.writeRange_room hpos

/-- The objects of a header are those of the cells that were taken. -/
theorem objects_received (w : StaticWriter t) {run : List (Cell t)} {start n : Nat}
    (hindex : ∀ (i : Nat) (c : Cell t), run[i]? = some c → c.vIndex.toNat = start + i)
    (type : IndexType) :
    ((w.contents start (valuesOf run)).received n
      ((w.contents start (valuesOf run)).headerRecord type 0)).objects =
      (run.take n).map fun c => w.object c.vIndex c.selection.value := by
  have hofNat : ∀ (i : Nat) (c : Cell t), run[i]? = some c →
      UInt16.ofNat (start + i) = c.vIndex := by
    intro i c hc
    rw [← hindex i c hc, UInt16.ofNat_toNat]
  refine List.ext_getElem? fun i => ?_
  cases w with
  | singleBitfield id =>
    simp only [contents, Contents.received, ObjectHeader.objects, Values.singles,
      List.getElem?_map, List.getElem?_zipIdx, List.map_map, valuesOf, List.getElem?_take,
      Option.map_map]
    split
    · cases hc : run[i]? with
      | none => rfl
      | some c =>
        have := hofNat i c hc
        simp only [Option.map_some, Function.comp_apply, Nat.zero_add, this]
        rfl
    · rfl
  | withSerializer s =>
    simp only [contents, Contents.received, ObjectHeader.objects, StaticType.singles_wrap,
      List.getElem?_map, List.getElem?_zipIdx, List.map_map, valuesOf, List.getElem?_take,
      Option.map_map]
    split
    · cases hc : run[i]? with
      | none => rfl
      | some c =>
        have := hofNat i c hc
        simp only [Option.map_some, Function.comp_apply, Nat.zero_add, this]
        rfl
    · rfl

end StaticWriter

/-- How the objects of a writer are to be read. -/
def StaticWriter.reader : {t : StaticType} → StaticWriter t → RangeReader
  | _, .singleBitfield _ => .bitfield Binary.ofValue .binary
  | t, .withSerializer s => .fixedSize s.codec t.wrap

/-- The parser reads what the static writers write. -/
theorem rangeReader_getStaticWriter (t : StaticType) (variation : t.Variation) :
    rangeReader (GroupVariationRecord.getRecord (getStaticWriter t variation).id.group
      (getStaticWriter t variation).id.variation).enumeration =
      some (getStaticWriter t variation).reader := by
  cases t <;> cases variation <;> rfl

theorem supported_getStaticWriter (t : StaticType) (variation : t.Variation) (start : Nat)
    (values : List t.Value) :
    ((getStaticWriter t variation).contents start values).Supported := by
  have hreader := rangeReader_getStaticWriter t variation
  cases hw : getStaticWriter t variation with
  | singleBitfield id =>
    rw [hw] at hreader
    exact hreader
  | withSerializer s =>
    rw [hw] at hreader
    exact hreader

/-! ## One run -/

/-- The virtual indices increase along the cells. -/
def Increasing (cells : List (Cell t)) : Prop := (cells.map Cell.vIndex).Pairwise (· < ·)

theorem Increasing.vIndex_lt {cells : List (Cell t)} (h : Increasing cells) {i j : Nat}
    {c d : Cell t} (hi : cells[i]? = some c) (hj : cells[j]? = some d) (hij : i < j) :
    c.vIndex.toNat < d.vIndex.toNat := by
  obtain ⟨hilt, rfl⟩ := List.getElem?_eq_some_iff.mp hi
  obtain ⟨hjlt, rfl⟩ := List.getElem?_eq_some_iff.mp hj
  have hlt := List.pairwise_iff_getElem.mp h i j (by rwa [List.length_map])
    (by rwa [List.length_map]) hij
  rw [List.getElem_map, List.getElem_map, UInt16.lt_iff_toNat_lt] at hlt
  exact hlt

/-- All points a header with one-byte indices can address are selected with one variation, they are
all there is to write, and there is room for them under one header. -/
def FullRun (cells : List (Cell t)) (range : Range) (room : Nat) : Prop :=
  range = { start := 0, stop := 255 } ∧ ∃ variation : t.Variation,
    (∀ i < 256, ∃ c, cells[i]? = some c ∧ c.vIndex.toNat = i ∧ c.selection.selected = true ∧
      c.selection.variation = variation) ∧
    5 + (getStaticWriter t variation).bytesOf 256 ≤ room

/-- The object that is written for a selected cell. -/
def Cell.object (c : Cell t) : DecodedObject :=
  (getStaticWriter t c.selection.variation).object c.vIndex c.selection.value

/-- The writer has written the objects; without objects it is as before. -/
structure Emits (w w' : HeaderWriter) (objects : List DecodedObject) : Prop where
  written : ∃ bytes, w'.position.written = w.position.written ++ bytes ∧ Parses bytes objects
  unchanged : objects = [] → w' = w

theorem Emits.refl (w : HeaderWriter) : Emits w w [] :=
  ⟨⟨[], (List.append_nil _).symm, .nil⟩, fun _ => rfl⟩

theorem Emits.trans {w w' w'' : HeaderWriter} {objects objects' : List DecodedObject}
    (h : Emits w w' objects) (h' : Emits w' w'' objects') : Emits w w'' (objects ++ objects') := by
  obtain ⟨bytes, hw, hparses⟩ := h.written
  obtain ⟨bytes', hw', hparses'⟩ := h'.written
  refine ⟨⟨bytes ++ bytes', ?_, hparses.append hparses'⟩, ?_⟩
  · rw [hw', hw, List.append_assoc]
  · intro hnil
    obtain ⟨hobjects, hobjects'⟩ := List.append_eq_nil_iff.mp hnil
    rw [h'.unchanged hobjects', h.unchanged hobjects]

section Run

variable {cells front seg back : List (Cell t)} {range : Range} {c : Cell t}

/-- The position of a cell of the range. -/
theorem Spans.getElem? (h : Spans cells range front seg back) {i : Nat} {d : Cell t}
    (hi : seg[i]? = some d) : cells[front.length + i]? = some d := by
  obtain ⟨hlt, -⟩ := List.getElem?_eq_some_iff.mp hi
  rw [h.cells_eq, List.append_assoc, List.getElem?_append_right (Nat.le_add_right _ _),
    Nat.add_sub_cancel_left, List.getElem?_append_left hlt, hi]

/-- No cell of the range has an index above that of the last one. -/
theorem Spans.vIndex_le (h : Spans cells range front seg back) (hinc : Increasing cells) {i : Nat}
    {d : Cell t} (hi : seg[i]? = some d) :
    d.vIndex.toNat ≤ (mappedRange cells range).stop.toNat ∧
      (d.vIndex.toNat = (mappedRange cells range).stop.toNat → i + 1 = seg.length) := by
  obtain ⟨hlt, -⟩ := List.getElem?_eq_some_iff.mp hi
  have hne : seg ≠ [] := by
    rintro rfl
    cases hi
  obtain ⟨-, hstop⟩ := h.ends hne
  obtain ⟨last, hlast⟩ : ∃ last, seg[seg.length - 1]? = some last :=
    ⟨_, List.getElem?_eq_getElem (by omega)⟩
  have hget := h.getElem? hlast
  have hpos := h.getElem? hi
  rw [show front.length + (seg.length - 1) = range.stop.toNat from by omega] at hget
  have hmapped : (mappedRange cells range).stop = last.vIndex := by
    show StaticBuffer.vIndexAt cells range.stop = last.vIndex
    rw [StaticBuffer.vIndexAt, hget]
  rw [hmapped]
  by_cases hi' : i + 1 = seg.length
  · rw [show front.length + i = range.stop.toNat from by omega, hget] at hpos
    cases hpos
    exact ⟨Nat.le_refl _, fun _ => hi'⟩
  · have hless := hinc.vIndex_lt hpos hget (by omega)
    exact ⟨Nat.le_of_lt hless, fun heq => absurd heq (Nat.ne_of_lt hless)⟩

/-- The run in front as cells of the range. -/
theorem getElem?_runOf {variation : t.Variation} {nextIndex : UInt16} {i : Nat} {d : Cell t}
    (hi : (runOf variation nextIndex seg)[i]? = some d) : seg[i]? = some d := by
  obtain ⟨rest, hrest⟩ := runOf_front variation nextIndex seg
  obtain ⟨hlt, -⟩ := List.getElem?_eq_some_iff.mp hi
  rw [← hrest, List.getElem?_append_left hlt]
  exact hi

/-- The values that were taken can be counted, unless the whole range of one-byte indices was
written. -/
theorem Spans.within_run (h : Spans cells range front (c :: seg) back) (hinc : Increasing cells)
    (w : StaticWriter t) {variation : t.Variation} {n : Nat} (hpos : 0 < n)
    (hle : n ≤ (runOf variation c.vIndex (c :: seg)).length)
    (hfull : ¬ (indexTypeOf (mappedRange cells range) = .uint8 ∧ n = 256)) :
    (w.contents c.vIndex.toNat (valuesOf (runOf variation c.vIndex (c :: seg)))).Within
      (indexTypeOf (mappedRange cells range)) n := by
  have hseg : Increasing (c :: seg) := by
    have hsub : (c :: seg).Sublist cells := by
      rw [h.cells_eq]
      exact (List.sublist_append_right _ _).trans (List.sublist_append_left _ _)
    exact List.Pairwise.sublist (hsub.map _) hinc
  obtain ⟨last, hlast⟩ : ∃ last, (runOf variation c.vIndex (c :: seg))[n - 1]? = some last :=
    ⟨_, List.getElem?_eq_getElem (by omega)⟩
  have hindex := vIndex_runOf hseg hlast
  have hstop := (h.vIndex_le hinc (getElem?_runOf hlast)).1
  have hlen : n < 65536 := by
    have hprefix := (runOf_front variation c.vIndex (c :: seg)).length_le
    have hcells := congrArg List.length h.cells_eq
    have hlt := h.length_lt
    simp only [List.length_append] at hcells
    omega
  have hbound : c.vIndex.toNat + n ≤ (indexTypeOf (mappedRange cells range)).modulus ∧
      n < (indexTypeOf (mappedRange cells range)).modulus := by
    rw [indexTypeOf] at hfull ⊢
    split at hfull
    next hone =>
      rw [if_pos hone]
      have hstop255 : (mappedRange cells range).stop.toNat ≤ 255 := by
        rw [Range.isOneByte, Bool.and_eq_true] at hone
        exact UInt16.le_iff_toNat_le.mp (of_decide_eq_true hone.2)
      have hne : n ≠ 256 := fun heq => hfull ⟨rfl, heq⟩
      show c.vIndex.toNat + n ≤ 256 ∧ n < 256
      omega
    next hone =>
      rw [if_neg hone]
      have hlt := last.vIndex.toNat_lt
      show c.vIndex.toNat + n ≤ 65536 ∧ n < 65536
      omega
  cases w with
  | singleBitfield id => exact hbound
  | withSerializer s => exact hbound

/-- When a header with one-byte indices takes 256 cells, they are all the cells of the range. -/
theorem Spans.fullRun_of_taken (h : Spans cells range front (c :: seg) back)
    (hinc : Increasing cells)
    {writer : HeaderWriter} (hone : indexTypeOf (mappedRange cells range) = .uint8)
    (htaken : (((getStaticWriter t c.selection.variation).contents c.vIndex.toNat
      (valuesOf (runOf c.selection.variation c.vIndex (c :: seg)))).emit .uint8 writer).2 = 256) :
    FullRun cells range writer.position.size := by
  have hle := (getStaticWriter t c.selection.variation).emit_le c.vIndex.toNat
    (valuesOf (runOf c.selection.variation c.vIndex (c :: seg))) .uint8 writer
  have hroom := (getStaticWriter t c.selection.variation).emit_room
    (Nat.lt_of_lt_of_eq (by decide : 0 < 256) htaken.symm) (Nat.le_of_eq htaken)
  rw [htaken] at hle hroom
  rw [valuesOf, List.length_map] at hle
  have hsub : (c :: seg).Sublist cells := by
    rw [h.cells_eq]
    exact (List.sublist_append_right _ _).trans (List.sublist_append_left _ _)
  have hseg : Increasing (c :: seg) := List.Pairwise.sublist (hsub.map _) hinc
  have hstop255 : (mappedRange cells range).stop.toNat ≤ 255 := by
    rw [indexTypeOf] at hone
    split at hone
    next hbyte =>
      rw [Range.isOneByte, Bool.and_eq_true] at hbyte
      exact UInt16.le_iff_toNat_le.mp (of_decide_eq_true hbyte.2)
    next => cases hone
  -- the last of the 256 cells has an index of at most 255, so the first has index 0
  obtain ⟨last, hlast⟩ : ∃ last, (runOf c.selection.variation c.vIndex (c :: seg))[255]? =
    some last := ⟨_, List.getElem?_eq_getElem (by omega)⟩
  have hlastIndex := vIndex_runOf hseg hlast
  obtain ⟨hlastStop, hlastEnd⟩ := h.vIndex_le hinc (getElem?_runOf hlast)
  have hlength : 255 + 1 = (c :: seg).length := hlastEnd (by omega)
  obtain ⟨hstart, hstop⟩ := h.ends (List.cons_ne_nil c seg)
  have hfront : front.length = 0 := by
    by_contra hne
    obtain ⟨d, hd⟩ : ∃ d, cells[0]? = some d :=
      ⟨_, List.getElem?_eq_getElem (by
        have hcells := congrArg List.length h.cells_eq
        simp only [List.length_append, List.length_cons] at hcells
        omega)⟩
    have hless := hinc.vIndex_lt hd h.head (by omega)
    omega
  refine ⟨?_, c.selection.variation, ?_, hroom⟩
  · have hstart0 : range.start = 0 := UInt16.toNat_inj.mp (by rw [hstart, hfront]; rfl)
    have hstop255 : range.stop = 255 := UInt16.toNat_inj.mp (by
      show range.stop.toNat = 255
      omega)
    cases range
    rw [Range.mk.injEq]
    exact ⟨hstart0, hstop255⟩
  · intro i hi
    obtain ⟨d, hd⟩ : ∃ d, (runOf c.selection.variation c.vIndex (c :: seg))[i]? = some d :=
      ⟨_, List.getElem?_eq_getElem (by omega)⟩
    obtain ⟨hselected, hvariation⟩ := selected_of_mem_runOf (List.mem_of_getElem? hd)
    have hpos := h.getElem? (getElem?_runOf hd)
    rw [hfront, Nat.zero_add] at hpos
    have hindex := vIndex_runOf hseg hd
    exact ⟨d, hpos, by omega, hselected, hvariation⟩

/-- The room for a header with one object of a cell: group, variation and qualifier, the first and
the last index, and the object. -/
def Cell.needed (type : IndexType) (c : Cell t) : Nat :=
  3 + 2 * type.SIZE + (getStaticWriter t c.selection.variation).bytesOf 1

/-- The indices of a header that cells are written under are no longer than this. -/
def indexTypeFor (cells : List (Cell t)) : IndexType :=
  if cells.any fun c => decide (255 < c.vIndex) then .uint16 else .uint8

theorem indexTypeFor_le {cells cells' : List (Cell t)}
    (h : ∀ c ∈ cells', 255 < c.vIndex → ∃ d ∈ cells, 255 < d.vIndex) :
    (indexTypeFor cells').SIZE ≤ (indexTypeFor cells).SIZE := by
  unfold indexTypeFor
  by_cases hlong : cells'.any (fun c => decide (255 < c.vIndex)) = true
  · obtain ⟨c, hc, hindex⟩ := List.any_eq_true.mp hlong
    obtain ⟨d, hd, hindex'⟩ := h c hc (of_decide_eq_true hindex)
    have hlong' : cells.any (fun c => decide (255 < c.vIndex)) = true :=
      List.any_eq_true.mpr ⟨d, hd, decide_eq_true hindex'⟩
    rw [if_pos hlong, if_pos hlong']
  · rw [if_neg hlong]
    split <;> decide

theorem Cell.needed_mono {type type' : IndexType} (h : type.SIZE ≤ type'.SIZE) (c : Cell t) :
    c.needed type ≤ c.needed type' := by
  unfold Cell.needed
  omega

/-- The header over a range has indices of one byte when the last cell has. -/
theorem Spans.indexTypeOf_le (h : Spans cells range front (c :: seg) back)
    (hinc : Increasing cells) :
    (indexTypeOf (mappedRange cells range)).SIZE ≤ (indexTypeFor (c :: seg)).SIZE := by
  unfold indexTypeFor
  split
  · cases indexTypeOf (mappedRange cells range) <;> decide
  next hshort =>
    rw [Bool.not_eq_true, List.any_eq_false] at hshort
    have hindex : ∀ d ∈ c :: seg, d.vIndex ≤ 255 := fun d hd => by
      simpa using hshort d hd
    have hstart : StaticBuffer.vIndexAt cells range.start ≤ 255 := by
      rw [StaticBuffer.vIndexAt, h.head]
      exact hindex c List.mem_cons_self
    have hstop : StaticBuffer.vIndexAt cells range.stop ≤ 255 := by
      rw [StaticBuffer.vIndexAt, h.getLast? (List.cons_ne_nil c seg)]
      rw [List.getLast?_cons]
      exact hindex _ (List.mem_of_getLast? List.getLast?_cons)
    have hvalid : (mappedRange cells range).isValid = true := by
      rw [Range.isValid, decide_eq_true_eq, UInt16.le_iff_toNat_le, mappedRange,
        StaticBuffer.vIndexAt, h.head]
      exact (h.vIndex_le hinc (d := c) (i := 0) rfl).1
    have hone : (mappedRange cells range).isOneByte = true := by
      rw [Range.isOneByte, hvalid, Bool.true_and, Bool.and_eq_true]
      exact ⟨decide_eq_true hstart, decide_eq_true hstop⟩
    rw [indexTypeOf, if_pos hone]

/-- What a writer does at a selected cell: it writes some of the cells in front, at least one unless
there is no room for it. -/
theorem Spans.apply_writes (h : Spans cells range front (c :: seg) back) (hinc : Increasing cells)
    (hc : c.selection.selected = true) {writer writer' : HeaderWriter} {loaded : Loaded t}
    (happly : (getStaticWriter t c.selection.variation).apply c.selection.variation cells writer
      range = (loaded, writer')) :
    ∃ n, Spans loaded.cells loaded.range (front ++ ((c :: seg).take n).map Cell.deselect)
        ((c :: seg).drop n) back ∧
      (∀ d ∈ (c :: seg).take n, d.selection.selected = true) ∧
      (¬ FullRun cells range writer.position.size →
        Emits writer writer' (((c :: seg).take n).map Cell.object)) ∧
      (loaded.spaceRemaining = true → 0 < n) ∧
      (n = 0 → writer.position.size < c.needed (indexTypeFor (c :: seg))) := by
  obtain ⟨run, rfl, e, he, hwriter, hspace, hspans⟩ :=
    (getStaticWriter t c.selection.variation).apply_spec h writer c.selection.variation
  rw [happly] at hwriter hspace hspans
  have hle := (getStaticWriter t c.selection.variation).emit_le c.vIndex.toNat
    (valuesOf (runOf c.selection.variation c.vIndex (c :: seg)))
    (indexTypeOf (mappedRange cells range)) writer
  rw [← he, valuesOf, List.length_map] at hle
  have hrun := runOf_self hc seg
  have htake : (c :: seg).take e.2 =
      (runOf c.selection.variation c.vIndex (c :: seg)).take e.2 := by
    obtain ⟨rest, hrest⟩ := runOf_front c.selection.variation c.vIndex (c :: seg)
    exact (congrArg (List.take e.2) hrest).symm.trans (List.take_append_of_le_length hle)
  refine ⟨e.2, hspans, ?_, ?_, ?_, ?_⟩
  · intro d hd
    rw [htake] at hd
    exact (selected_of_mem_runOf (List.mem_of_mem_take hd)).1
  · intro hfull
    rw [htake]
    rcases Nat.eq_zero_or_pos e.2 with hzero | hpos
    · have hsame := hzero
      rw [he, hrun, valuesOf, List.map_cons] at hsame
      obtain ⟨hsame, -⟩ := (getStaticWriter t c.selection.variation).emit_zero hsame
      rw [hzero, List.take_zero, List.map_nil, show writer' = e.1 from hwriter, he, hrun, valuesOf,
        List.map_cons, hsame]
      exact .refl writer
    · have hnotFull : ¬ (indexTypeOf (mappedRange cells range) = .uint8 ∧ e.2 = 256) := by
        rintro ⟨hone, hall⟩
        rw [he, hone] at hall
        exact hfull (h.fullRun_of_taken hinc hone hall)
      have hwithin := h.within_run hinc (getStaticWriter t c.selection.variation) hpos hle hnotFull
      have hseg : Increasing (c :: seg) := by
        have hsub : (c :: seg).Sublist cells := by
          rw [h.cells_eq]
          exact (List.sublist_append_right _ _).trans (List.sublist_append_left _ _)
        exact List.Pairwise.sublist (hsub.map _) hinc
      obtain ⟨bytes, hbytes, hparses⟩ := Contents.parses_emit _ _ writer
        (supported_getStaticWriter t c.selection.variation c.vIndex.toNat
          (valuesOf (runOf c.selection.variation c.vIndex (c :: seg))))
        (show 0 < (Contents.emit _ (indexTypeOf (mappedRange cells range)) writer).2 by
          rw [← he]; exact hpos)
        (by rw [← he]; exact hwithin)
      rw [← he, StaticWriter.objects_received _ fun i d hd => vIndex_runOf hseg hd] at hparses
      have hobjects : ((runOf c.selection.variation c.vIndex (c :: seg)).take e.2).map
          (fun d => (getStaticWriter t c.selection.variation).object d.vIndex d.selection.value) =
          ((runOf c.selection.variation c.vIndex (c :: seg)).take e.2).map Cell.object := by
        refine List.map_congr_left fun d hd => ?_
        rw [Cell.object, (selected_of_mem_runOf (List.mem_of_mem_take hd)).2]
      refine ⟨⟨bytes, ?_, ?_⟩, fun hnil => ?_⟩
      · rw [show writer' = e.1 from hwriter, he]
        exact hbytes
      · rwa [hobjects] at hparses
      · rw [List.map_eq_nil_iff, hrun, List.take_eq_nil_iff] at hnil
        rcases hnil with hnil | hnil
        · omega
        · cases hnil
  · intro hmore
    rw [hspace, decide_eq_true_eq, hrun, List.length_cons] at hmore
    omega
  · intro hzero
    rw [he, hrun, valuesOf, List.map_cons] at hzero
    obtain ⟨-, hroom⟩ := (getStaticWriter t c.selection.variation).emit_zero hzero
    exact Nat.lt_of_lt_of_le hroom (c.needed_mono (h.indexTypeOf_le hinc))

theorem Spans.not_fullRun (h : Spans cells range front seg back) (hfront : front ≠ [])
    (room : Nat) : ¬ FullRun cells range room := by
  rintro ⟨rfl, -⟩
  cases seg with
  | nil =>
    have hinvalid := h.invalid rfl
    revert hinvalid
    decide
  | cons c seg =>
    obtain ⟨hstart, -⟩ := h.ends (List.cons_ne_nil c seg)
    exact hfront (List.length_eq_zero_iff.mp hstart.symm)

end Run

/-! ## The range of a type -/

theorem Cell.deselect_of_not_selected {c : Cell t} (h : c.selection.selected = false) :
    c.deselect = c := by
  cases c with
  | mk value vIndex variation metadata selection =>
    cases selection
    cases h
    rfl

/-- The objects that are still to be written. -/
def pendingOf (cells : List (Cell t)) : List DecodedObject :=
  (cells.filter fun c => c.selection.selected).map Cell.object

theorem pendingOf_append (cells cells' : List (Cell t)) :
    pendingOf (cells ++ cells') = pendingOf cells ++ pendingOf cells' := by
  rw [pendingOf, List.filter_append, List.map_append]
  rfl

theorem pendingOf_of_selected {cells : List (Cell t)}
    (h : ∀ c ∈ cells, c.selection.selected = true) : pendingOf cells = cells.map Cell.object := by
  rw [pendingOf, List.filter_eq_self.mpr h]

/-- The loop over a range writes the pending objects of some of the cells in front: of all of them,
or as far as there is room. -/
theorem loadRange_spec {fuel : Nat} {cells front seg back : List (Cell t)} {range : Range}
    {writer writer' : HeaderWriter} {loaded : Loaded t} (h : Spans cells range front seg back)
    (hinc : Increasing cells) (hfuel : seg.length ≤ fuel)
    (hload : loadRange fuel cells writer range = (loaded, writer')) :
    ∃ n, Spans loaded.cells loaded.range (front ++ (seg.take n).map Cell.deselect) (seg.drop n)
        back ∧
      (¬ FullRun cells range writer.position.size →
        Emits writer writer' (pendingOf (seg.take n))) ∧
      (loaded.spaceRemaining = true → seg.drop n = []) ∧
      (loaded.spaceRemaining = false → pendingOf (seg.take n) = [] →
        ∃ c ∈ seg, c.selection.selected = true ∧
          writer.position.size < c.needed (indexTypeFor seg)) := by
  induction fuel generalizing cells range front seg writer with
  | zero =>
    have hnil := List.length_eq_zero_iff.mp (Nat.le_zero.mp hfuel)
    subst hnil
    cases hload
    refine ⟨0, ?_, fun _ => .refl _, fun _ => rfl, fun hspace => by cases hspace⟩
    rwa [List.take_nil, List.map_nil, List.append_nil]
  | succ fuel ih =>
    cases seg with
    | nil =>
      obtain rfl := h.invalid rfl
      cases hload
      refine ⟨0, ?_, fun _ => .refl _, fun _ => rfl, fun hspace => by cases hspace⟩
      rwa [List.take_nil, List.map_nil, List.append_nil]
    | cons c seg =>
      rw [List.length_cons] at hfuel
      rw [loadRange, if_pos h.isValid, h.head] at hload
      dsimp only at hload
      by_cases hc : c.selection.selected = true
      · rw [if_pos hc] at hload
        have hkeep := map_vIndex_apply (getStaticWriter t c.selection.variation)
          c.selection.variation cells writer range
        rcases happly : (getStaticWriter t c.selection.variation).apply c.selection.variation cells
          writer range with ⟨⟨cells₁, range₁, space⟩, writer₁⟩
        rw [happly] at hload hkeep
        obtain ⟨n, hspans, hselected, hemits, hmore, hzero⟩ := h.apply_writes hinc hc happly
        have hinc₁ : Increasing cells₁ := by
          rw [Increasing, hkeep]
          exact hinc
        cases space with
        | false =>
          cases hload
          refine ⟨n, hspans, ?_, fun hspace => (by cases hspace), fun _ hnil => ?_⟩
          · rw [pendingOf_of_selected hselected]
            exact hemits
          · rw [pendingOf_of_selected hselected, List.map_eq_nil_iff, List.take_eq_nil_iff] at hnil
            rcases hnil with hnil | hnil
            · exact ⟨c, List.mem_cons_self, hc, hzero hnil⟩
            · cases hnil
        | true =>
          have hn := hmore rfl
          have hfront : front ++ ((c :: seg).take n).map Cell.deselect ≠ [] := by
            intro hnil
            rw [List.append_eq_nil_iff, List.map_eq_nil_iff, List.take_eq_nil_iff] at hnil
            rcases hnil.2 with hnil | hnil
            · omega
            · cases hnil
          obtain ⟨m, hspans', hemits', hdone, hstuck⟩ := ih hspans hinc₁
            (by rw [List.length_drop, List.length_cons]; omega) hload
          refine ⟨n + m, ?_, ?_, ?_, ?_⟩
          · rw [List.take_add, List.map_append, ← List.append_assoc, ← List.drop_drop]
            exact hspans'
          · intro hfull
            rw [List.take_add, pendingOf_append, pendingOf_of_selected hselected]
            exact (hemits hfull).trans (hemits' (hspans.not_fullRun hfront _))
          · intro hspace
            rw [← List.drop_drop]
            exact hdone hspace
          · intro _ hnil
            rw [List.take_add, pendingOf_append, pendingOf_of_selected hselected,
              List.append_eq_nil_iff, List.map_eq_nil_iff, List.take_eq_nil_iff] at hnil
            rcases hnil.1 with hnil | hnil
            · omega
            · cases hnil
      · rw [if_neg hc] at hload
        have hc := Bool.eq_false_iff.mpr hc
        have hadvance := h.advance
        have hfull' : ¬ FullRun cells range.advance writer.position.size :=
          hadvance.not_fullRun (by simp) _
        obtain ⟨n, hspans, hemits, hdone, hstuck⟩ := ih hadvance hinc (by omega) hload
        have hpending : pendingOf ((c :: seg).take (n + 1)) = pendingOf (seg.take n) := by
          rw [List.take_succ_cons, pendingOf, List.filter_cons_of_neg (by rw [hc]; decide)]
          rfl
        refine ⟨n + 1, ?_, ?_, hdone, ?_⟩
        · rw [List.take_succ_cons, List.map_cons, Cell.deselect_of_not_selected hc,
            List.append_cons, List.drop_succ_cons]
          exact hspans
        · intro _
          rw [hpending]
          exact hemits hfull'
        · intro hspace hnil
          rw [hpending] at hnil
          obtain ⟨d, hd, hdselected, hroom⟩ := hstuck hspace hnil
          have hmono : (indexTypeFor seg).SIZE ≤ (indexTypeFor (c :: seg)).SIZE :=
            indexTypeFor_le fun e he hlong => ⟨e, List.mem_cons_of_mem c he, hlong⟩
          exact ⟨d, List.mem_cons_of_mem c hd, hdselected,
            Nat.lt_of_lt_of_le hroom (d.needed_mono hmono)⟩

end Outstation
end Dnp3
