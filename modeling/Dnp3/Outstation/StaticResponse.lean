import Dnp3.Library.Runs
import Dnp3.Outstation.StaticSelection

/-!
# The response to a static READ

The points a READ asks for, each with the value it has when the READ is processed and the variation
of the first header that asks for it, are exactly what the fragments of the response say, when every
variation is written as itself and no header with one-byte indices takes all 256 of them.

`DatabaseBuffers.points` is what a READ asks for, read off the headers of the request and the
database alone, and `Answers` says that the fragments of the response, decoded one after the other,
are these points and that the last one completes it.  `answers_iff` gives the exact condition.  A
fragment has to have room for one object under a header, since an object that fits into no fragment
is never written; and a variation has to be written as itself, which some of those of frozen
counters are not.
-/

namespace Dnp3
namespace Outstation

open Library App

/-- The writer a variation asks for. -/
def requestedWriter : (t : StaticType) → t.Variation → StaticWriter t
  | .binary, .group1Var1 => .singleBitfield ⟨1, 1⟩
  | .binary, .group1Var2 => .withSerializer group1Var2
  | .doubleBitBinary, .group3Var2 => .withSerializer (t := .doubleBitBinary) group3Var2
  | .counter, .group20Var1 => .withSerializer (t := .counter) group20Var1
  | .counter, .group20Var2 => .withSerializer (t := .counter) group20Var2
  | .counter, .group20Var5 => .withSerializer (t := .counter) group20Var5
  | .counter, .group20Var6 => .withSerializer (t := .counter) group20Var6
  | .frozenCounter, .group21Var1 => .withSerializer (t := .frozenCounter) group21Var1
  | .frozenCounter, .group21Var2 => .withSerializer (t := .frozenCounter) group21Var2
  | .frozenCounter, .group21Var5 => .withSerializer (t := .frozenCounter) group21Var5
  | .frozenCounter, .group21Var6 => .withSerializer (t := .frozenCounter) group21Var6
  | .frozenCounter, .group21Var9 => .withSerializer (t := .frozenCounter) group21Var9
  | .frozenCounter, .group21Var10 => .withSerializer (t := .frozenCounter) group21Var10
  | .analog, .group30Var1 => .withSerializer (t := .analog) group30Var1
  | .analog, .group30Var2 => .withSerializer (t := .analog) group30Var2
  | .analog, .group30Var3 => .withSerializer (t := .analog) group30Var3
  | .analog, .group30Var4 => .withSerializer (t := .analog) group30Var4
  | .analog, .group30Var5 => .withSerializer (t := .analog) group30Var5
  | .analog, .group30Var6 => .withSerializer (t := .analog) group30Var6
  | .binaryOutputStatus, .group10Var2 => .withSerializer (t := .binaryOutputStatus) group10Var2
  | .analogOutputStatus, .group40Var1 => .withSerializer (t := .analogOutputStatus) group40Var1
  | .analogOutputStatus, .group40Var2 => .withSerializer (t := .analogOutputStatus) group40Var2
  | .analogOutputStatus, .group40Var3 => .withSerializer (t := .analogOutputStatus) group40Var3
  | .analogOutputStatus, .group40Var4 => .withSerializer (t := .analogOutputStatus) group40Var4
  | .timeAndInterval, .group50Var4 => .withSerializer (t := .timeAndInterval) group50Var4
  | .securityStat, .group121Var1 => .withSerializer (t := .securityStat) group121Var1

/-- A point as a READ asks for it. -/
structure SelectedPoint where
  type : StaticType
  vIndex : UInt16
  variation : type.Variation
  value : type.Value

namespace SelectedPoint

/-- The object that was asked for. -/
def object (p : SelectedPoint) : DecodedObject :=
  (requestedWriter p.type p.variation).object p.vIndex p.value

/-- The room for a header with this object and indices of a type. -/
def needed (type : IndexType) (p : SelectedPoint) : Nat :=
  3 + 2 * type.SIZE + (requestedWriter p.type p.variation).bytesOf 1

/-- Indices of two bytes need the most room. -/
theorem needed_le (type : IndexType) (p : SelectedPoint) : p.needed type ≤ p.needed .uint16 := by
  have hsize : type.SIZE ≤ IndexType.uint16.SIZE := by cases type <;> decide
  unfold needed
  omega

/-- The object that is written. -/
def written (p : SelectedPoint) : DecodedObject :=
  (getStaticWriter p.type p.variation).object p.vIndex p.value

/-- The variation is written as itself. -/
def HasWriter : SelectedPoint → Prop
  | ⟨.frozenCounter, _, variation, _⟩ => variation = .group21Var1
  | _ => True

theorem HasWriter.eq {p : SelectedPoint} (h : p.HasWriter) :
    getStaticWriter p.type p.variation = requestedWriter p.type p.variation := by
  obtain ⟨type, vIndex, variation, value⟩ := p
  cases type <;> cases variation <;> first | rfl | cases h

/-- Only the frozen counters are written in a variation that was not asked for. -/
theorem written_eq_iff (p : SelectedPoint) : p.written = p.object ↔ p.HasWriter := by
  constructor
  · intro h
    obtain ⟨type, vIndex, variation, value⟩ := p
    have hgv : (GroupVariationRecord.getRecord (getStaticWriter type variation).id.group
        (getStaticWriter type variation).id.variation).enumeration =
        (GroupVariationRecord.getRecord (requestedWriter type variation).id.group
          (requestedWriter type variation).id.variation).enumeration :=
      congrArg DecodedObject.gv h
    cases type with
    | frozenCounter => cases variation <;> first | rfl | exact absurd hgv (by decide)
    | _ => trivial
  · intro h
    rw [written, object, h.eq]

end SelectedPoint

namespace DatabaseBuffers

/-- The points the headers of a READ ask for, in the order of the types and of the indices. -/
def points (db : DatabaseBuffers) (headers : List StaticHeader) : List SelectedPoint :=
  StaticType.all.flatMap fun t => (db.buffers t).cells.zipIdx.filterMap fun p =>
    (headers.findSome? (db.asks t p.2)).map fun variation =>
      { type := t
        vIndex := p.1.vIndex
        variation := checkForPromotion t p.1.value (variation.getD p.1.variation)
        value := p.1.value }

variable {db : DatabaseBuffers} {t : StaticType}

/-- The cells after a READ. -/
theorem cells_read (hcovered : ∀ t, db.Covered t) (headers : List StaticHeader) (t : StaticType) :
    ((db.read headers).buffers t).cells = (db.buffers t).cells.zipIdx.map fun p =>
      selectIf (headers.findSome? (db.asks t p.2)) p.1.deselect := by
  obtain ⟨-, hcells, hclass0, hmode⟩ := unselect_spec hcovered
  have hasks : ∀ i, db.unselect.asks t i = db.asks t i := by
    intro i
    funext header
    have hindices : (db.unselect.buffers t).vIndices = (db.buffers t).vIndices := by
      rw [StaticBuffer.vIndices, hcells, List.map_map]
      rfl
    cases header with
    | all gv => rw [asks, asks, hclass0]
    | range gv range => rw [asks, asks, rawRange, rawRange, hmode, hindices]
  refine List.ext_getElem? fun i => ?_
  rw [read, (db.unselect.processHeaders_selects headers).cells, hcells, List.getElem?_map,
    List.getElem?_map, List.getElem?_zipIdx, hasks, Option.map_map, Option.map_map, Nat.zero_add]
  rfl

theorem covered_read (hcovered : ∀ t, db.Covered t) (headers : List StaticHeader)
    (t : StaticType) : (db.read headers).Covered t :=
  (db.unselect.processHeaders_selects headers).covered t ((unselect_spec hcovered).1.covered t)

/-- A point and the cell that was selected for it. -/
theorem select_deselect (c : Cell t) (variation : Option t.Variation) :
    (c.deselect.select variation).selection =
      { selected := true
        value := c.value
        variation := checkForPromotion t c.value (variation.getD c.variation) } := by
  rw [Cell.select, if_neg (by rw [Cell.selected_deselect]; decide)]
  rfl

/-- The pending objects after a READ are those of the points it asks for. -/
theorem pendingAll_read (hcovered : ∀ t, db.Covered t) (headers : List StaticHeader) :
    (db.read headers).pendingAll = (db.points headers).map SelectedPoint.written := by
  rw [pendingAll, points, List.map_flatMap]
  refine List.flatMap_congr fun t _ => ?_
  rw [pending, cells_read hcovered, pendingOf]
  induction (db.buffers t).cells.zipIdx with
  | nil => rfl
  | cons p cells ih =>
    rw [List.map_cons, List.filterMap_cons]
    cases hasked : headers.findSome? (db.asks t p.2) with
    | none =>
      rw [List.filter_cons_of_neg (by
        rw [selectIf_none, id, Cell.selected_deselect]
        decide)]
      exact ih
    | some variation =>
      have hselection := select_deselect p.1 variation
      rw [List.filter_cons_of_pos (by
        show (p.1.deselect.select variation).selection.selected = true
        rw [hselection])]
      rw [List.map_cons, ih, Option.map_some, List.map_cons]
      refine congrArg (· :: _) ?_
      show (p.1.deselect.select variation).object = _
      rw [Cell.object, hselection, Cell.vIndex_select, Cell.vIndex_deselect]
      rfl

/-- The indices of the headers over some points of a type: of one byte, unless there is a point with
a longer one. -/
def indexTypeOfPoints (points : List SelectedPoint) (t : StaticType) : IndexType :=
  if points.any fun p => p.type = t ∧ 255 < p.vIndex then .uint16 else .uint8

/-- A cell selected by a READ belongs to a point it asks for. -/
theorem exists_point (hcovered : ∀ t, db.Covered t) {headers : List StaticHeader} {c : Cell t}
    (hc : c ∈ ((db.read headers).buffers t).cells) (hselected : c.selection.selected = true) :
    ∃ p ∈ db.points headers, p.type = t ∧ p.vIndex = c.vIndex ∧
      ∀ type, p.HasWriter → c.needed type = p.needed type := by
  rw [cells_read hcovered] at hc
  obtain ⟨p, hp, rfl⟩ := List.mem_map.mp hc
  cases hasked : headers.findSome? (db.asks t p.2) with
  | none =>
    rw [hasked] at hselected
    cases hselected
  | some variation =>
    have hselection := select_deselect p.1 variation
    refine ⟨⟨t, p.1.vIndex, checkForPromotion t p.1.value (variation.getD p.1.variation),
      p.1.value⟩, List.mem_flatMap.mpr ⟨t, t.mem_all, List.mem_filterMap.mpr ⟨p, hp, ?_⟩⟩, rfl, ?_,
      ?_⟩
    · rw [hasked]
      rfl
    · show _ = (p.1.deselect.select variation).vIndex
      rw [Cell.vIndex_select, Cell.vIndex_deselect]
    · intro type hwriter
      show (p.1.deselect.select variation).needed type = _
      rw [Cell.needed, hselection, SelectedPoint.needed, ← hwriter.eq]

/-- The selected cells after a READ have no longer indices than the points it asks for. -/
theorem selectedIndexType_read (hcovered : ∀ t, db.Covered t) (headers : List StaticHeader)
    (t : StaticType) : ((db.read headers).selectedIndexType t).SIZE ≤
      (indexTypeOfPoints (db.points headers) t).SIZE := by
  unfold selectedIndexType indexTypeFor
  split
  next hlong =>
    obtain ⟨c, hc, hindex⟩ := List.any_eq_true.mp hlong
    obtain ⟨hmem, hselected⟩ := List.mem_filter.mp hc
    obtain ⟨p, hp, htype, hsame, -⟩ := exists_point hcovered hmem hselected
    have hany : (db.points headers).any (fun p => p.type = t ∧ 255 < p.vIndex) = true := by
      refine List.any_eq_true.mpr ⟨p, hp, decide_eq_true ⟨htype, ?_⟩⟩
      rw [hsame]
      exact of_decide_eq_true hindex
    rw [indexTypeOfPoints, if_pos hany]
  next => cases indexTypeOfPoints (db.points headers) t <;> decide

/-! ## Runs of the database -/

/-- What happens to the database. -/
inductive Operation where
  | update (u : PointUpdate)
  | read (headers : List StaticHeader)
  | load (memory : List UInt8)
  | assignClass (type : AssignClassType) (clazz : PointClass) (range : Range)

/-- What the outstation does with its database. -/
def apply (db : DatabaseBuffers) : Operation → DatabaseBuffers
  | .update u => db.applyUpdate u
  | .read headers => db.read headers
  | .load memory => (db.load (.ofSlice (.ofMemory memory))).1
  | .assignClass type clazz range => (db.assignClassToRange type clazz range).1

theorem sameSelection_assignClass (db : DatabaseBuffers) (type : AssignClassType)
    (clazz : PointClass) (range : Range) :
    SameSelection db (db.assignClassToRange type clazz range).1 := by
  refine ⟨fun u => ?_, rfl⟩
  dsimp only [assignClassToRange, setBuffer]
  by_cases hu : u = type.staticType
  · subst hu
    rw [Function.update_self]
    refine List.ext_getElem? fun i => ?_
    rw [List.getElem?_map, List.getElem?_map, StaticBuffer.getElem?_updateRange]
    split
    · rw [Option.map_map]
      rfl
    · rfl
  · rw [Function.update_of_ne hu]

/-- Selected cells stay in their ranges. -/
theorem covered_apply (hcovered : ∀ t, db.Covered t) (op : Operation) (t : StaticType) :
    (db.apply op).Covered t := by
  cases op with
  | update u => exact (db.sameSelection_update u.type u.value u.index u.mode).covered (hcovered t)
  | read headers => exact covered_read hcovered headers t
  | load memory =>
    obtain ⟨objects, h⟩ := loadTypes_spec nodup_all hcovered (.ofSlice (.ofMemory memory))
    exact h.covered t
  | assignClass type clazz range =>
    exact (db.sameSelection_assignClass type clazz range).covered (hcovered t)

theorem covered_run (h : db.Unselected) (ops : List Operation) (t : StaticType) :
    (run apply db ops).Covered t :=
  run_keeps (I := fun db : DatabaseBuffers => ∀ t, db.Covered t)
    (fun _ op hcovered => covered_apply hcovered op) ops h.covered t

/-! ## The response -/

/-- The READ is answered by these fragments: the last one completes the response, together they say
the points that were asked for, and no range stays selected. -/
def Answers (db : DatabaseBuffers) (headers : List StaticHeader) (fragments : List Fragment) :
    Prop :=
  ((db.read headers).respond fragments).complete = true ∧
    decodeFragments ((db.read headers).respond fragments).fragments =
      some ((db.points headers).map SelectedPoint.object) ∧
    ∀ t, (((db.read headers).respond fragments).db.ranges t).isValid = false

/-- There is room in every fragment for every object that is asked for, under a header with the
indices that the points of its type need, and there are enough fragments for one object each. -/
structure EnoughRoom (db : DatabaseBuffers) (headers : List StaticHeader)
    (fragments : List Fragment) : Prop where
  room : ∀ f ∈ fragments, ∀ p ∈ db.points headers,
    p.needed (indexTypeOfPoints (db.points headers) p.type) ≤ f.memory.length
  many : (db.points headers).length < fragments.length

/-- When no header with one-byte indices takes all 256 of them, a READ is answered as it asks
exactly when every point it asks for has a writer for its variation. -/
theorem answers_iff {db₀ : DatabaseBuffers} (h₀ : db₀.Unselected) (ops : List Operation)
    {headers : List StaticHeader} {fragments : List Fragment}
    (hroom : (run apply db₀ ops).EnoughRoom headers fragments)
    (hrun : ((run apply db₀ ops).read headers).NoFullRun fragments) :
    (run apply db₀ ops).Answers headers fragments ↔
      ∀ p ∈ (run apply db₀ ops).points headers, p.HasWriter := by
  have hcovered := covered_run h₀ ops
  generalize run apply db₀ ops = db at hcovered hroom hrun ⊢
  obtain ⟨objects, hdecode, hpending, hcomplete⟩ :=
    respond_spec (covered_read hcovered headers) hrun
  rw [pendingAll_read hcovered] at hpending
  have hwritten : ((db.read headers).respond fragments).complete = true →
      objects = (db.points headers).map SelectedPoint.written := by
    intro hdone
    have hnil : ((db.read headers).respond fragments).db.pendingAll = [] := by
      rw [pendingAll, List.flatMap_eq_nil_iff]
      exact fun t _ => (hcomplete hdone t).1
    rw [hnil, List.append_nil] at hpending
    exact hpending
  constructor
  · rintro ⟨hdone, hobjects, -⟩
    rw [hdecode, Option.some_inj, hwritten hdone] at hobjects
    intro p hp
    exact p.written_eq_iff.mp (List.map_inj_left.mp hobjects p hp)
  · intro hwriters
    have hroomy : ∀ f ∈ fragments, (db.read headers).Roomy f.memory.length := by
      intro f hf t c hc hselected
      obtain ⟨p, hp, rfl, -, hneeded⟩ := exists_point hcovered hc hselected
      refine Nat.le_trans (c.needed_mono (selectedIndexType_read hcovered headers p.type)) ?_
      rw [hneeded _ (hwriters p hp)]
      exact hroom.room f hf p hp
    have hdone := respond_complete (covered_read hcovered headers) hrun hroomy (by
      rw [pendingAll_read hcovered, List.length_map]
      exact hroom.many)
    refine ⟨hdone, ?_, fun t => ?_⟩
    · rw [hdecode, hwritten hdone]
      refine congrArg some (List.map_congr_left fun p hp => ?_)
      exact p.written_eq_iff.mpr (hwriters p hp)
    · rw [(hcomplete hdone t).2]
      rfl

/-! ## Small databases -/

/-- No type has 256 points. -/
def Small (db : DatabaseBuffers) : Prop := ∀ t, (db.buffers t).cells.length < 256

instance : Decidable db.Small :=
  decidable_of_iff (∀ t ∈ StaticType.all, (db.buffers t).cells.length < 256)
    ⟨fun h t => h t t.mem_all, fun h t _ => h t⟩

theorem Small.congr {db' : DatabaseBuffers} (hsmall : db.Small)
    (h : ∀ t, (db'.buffers t).cells.length = (db.buffers t).cells.length) : db'.Small := by
  intro t
  rw [h]
  exact hsmall t

theorem length_loadType (db : DatabaseBuffers) (t : StaticType) (w : HeaderWriter)
    (u : StaticType) :
    ((db.loadType t w).1.buffers u).cells.length = (db.buffers u).cells.length := by
  by_cases hu : u = t
  · subst hu
    rw [(db.buffers_loadType u w).1, ← List.length_map (f := Cell.vIndex), map_vIndex_loadRange,
      List.length_map]
  · rw [(db.loadType_others w hu).1]

theorem length_loadTypes (types : List StaticType) (db : DatabaseBuffers) (w : HeaderWriter)
    (u : StaticType) :
    ((loadTypes types db w).1.buffers u).cells.length = (db.buffers u).cells.length := by
  induction types generalizing db w with
  | nil => rfl
  | cons t types ih =>
    rw [loadTypes]
    have hlength := db.length_loadType t w u
    rcases hload : db.loadType t w with ⟨db₁, w₁, done⟩
    rw [hload] at hlength
    cases done with
    | false => exact hlength
    | true => exact (ih db₁ w₁).trans hlength

theorem Small.not_fullRun (hsmall : db.Small) (t : StaticType) (room : Nat) :
    ¬ FullRun (db.buffers t).cells (db.ranges t) room := by
  rintro ⟨-, variation, hcells, -⟩
  obtain ⟨c, hc, -⟩ := hcells 255 (by decide)
  have hlt := (List.getElem?_eq_some_iff.mp hc).1
  have hlength := hsmall t
  omega

theorem Small.noFullRunIn (hsmall : db.Small) (types : List StaticType) (w : HeaderWriter) :
    NoFullRunIn types db w := by
  induction types generalizing db w with
  | nil => trivial
  | cons t types ih =>
    refine ⟨hsmall.not_fullRun t _, fun _ => ?_⟩
    exact ih (hsmall.congr (db.length_loadType t w)) _

theorem SameSelection.length {db' : DatabaseBuffers} (h : SameSelection db db') (u : StaticType) :
    (db'.buffers u).cells.length = (db.buffers u).cells.length := by
  have hlength := congrArg List.length (h.cells u)
  rwa [List.length_map, List.length_map] at hlength

/-- A database without 256 points of a type never has a full run. -/
theorem Small.noFullRun (hsmall : db.Small) (fragments : List Fragment) :
    db.NoFullRun fragments := by
  induction fragments generalizing db with
  | nil => trivial
  | cons f fragments ih =>
    have hbefore : (db.before f).1.Small := hsmall.congr (db.sameSelection_before f).length
    refine ⟨hbefore.noFullRunIn _ _, fun _ => ?_⟩
    exact ih (hbefore.congr (length_loadTypes _ _ _))

/-- Without ranges nothing is loaded. -/
theorem loadTypes_of_invalid {types : List StaticType} {db : DatabaseBuffers}
    (h : ∀ t ∈ types, db.ranges t = .invalid) (w : HeaderWriter) :
    (db.loadTypes types w).2 = (w, true) := by
  induction types generalizing db with
  | nil => rfl
  | cons t types ih =>
    have hload : loadRange (db.ranges t).count (db.buffers t).cells w (db.ranges t) =
        (⟨(db.buffers t).cells, .invalid, true⟩, w) := by
      rw [h t List.mem_cons_self]
      rfl
    have hranges := (db.buffers_loadType t w).2
    have hsnd := db.loadType_snd t w
    rw [hload] at hranges hsnd
    rcases htype : db.loadType t w with ⟨db', w', done⟩
    rw [htype] at hranges hsnd
    cases hsnd
    rw [loadTypes, htype]
    refine ih fun u hu => ?_
    by_cases hut : u = t
    · rw [hut, hranges]
    · have hother := (db.loadType_others w hut).2
      rw [htype] at hother
      rw [hother, h u (List.mem_cons_of_mem t hu)]

/-- A type whose cells all go under one header is written by it. -/
theorem loadRange_once {t : StaticType} {cells : List (Cell t)} {range : Range} {c : Cell t}
    {seg : List (Cell t)} (h : Spans cells range [] (c :: seg) [])
    (hc : c.selection.selected = true)
    {w : HeaderWriter} {e : HeaderWriter × Nat}
    (he : e = ((getStaticWriter t c.selection.variation).contents c.vIndex.toNat
      (valuesOf (runOf c.selection.variation c.vIndex (c :: seg)))).emit
        (indexTypeOf (mappedRange cells range)) w)
    (hrun : (runOf c.selection.variation c.vIndex (c :: seg)).length = e.2)
    (hall : e.2 = (c :: seg).length) :
    (loadRange range.count cells w range).2 = e.1 ∧
      (loadRange range.count cells w range).1.spaceRemaining = true := by
  obtain ⟨run, rfl, e', he', hwriter, hspace, hspans⟩ :=
    (getStaticWriter t c.selection.variation).apply_spec h w c.selection.variation
  rw [← he] at he'
  subst he'
  rw [hall, List.drop_length] at hspans
  have hinvalid := hspans.invalid rfl
  rcases happly : (getStaticWriter t c.selection.variation).apply c.selection.variation cells w
    range with ⟨⟨cells', range', space⟩, w'⟩
  rw [happly] at hwriter hspace hinvalid
  obtain rfl : space = true := hspace.trans (decide_eq_true hrun.symm)
  obtain rfl : w' = e'.1 := hwriter
  obtain rfl : range' = .invalid := hinvalid
  have hstop : loadRange seg.length cells' e'.1 .invalid = (⟨cells', .invalid, true⟩, e'.1) := by
    cases seg.length <;> rfl
  have hload : loadRange (seg.length + 1) cells w range = (⟨cells', .invalid, true⟩, e'.1) := by
    rw [loadRange, if_pos h.isValid, h.head]
    dsimp only
    rw [if_pos hc, happly]
    exact hstop
  rw [h.count, List.length_cons, hload]
  exact ⟨rfl, rfl⟩

/-- A database with `n` points of one type. -/
def ofType (t : StaticType) (n : UInt16) : DatabaseBuffers :=
  ofTemplate (fun u => if u = t then n else 0) ⟨0⟩ .contiguous

/-- Fragments of one size, without updates between them. -/
def emptyFragments (n size : Nat) : List Fragment :=
  List.replicate n { updates := [], memory := List.replicate size 0 }

/-- Two counters, read with 16 bits and then in their default variation: the first header counts.  A
fragment has room for one of them. -/
theorem answers_two_counters :
    let headers := [.all .group20Var2, .all .group20Var0]
    ((ofType .counter 2).Unselected ∧
      (ofType .counter 2).EnoughRoom headers (emptyFragments 3 8)) ∧
    ((ofType .counter 2).Answers headers (emptyFragments 3 8) ↔
      ∀ p ∈ (ofType .counter 2).points headers, p.HasWriter) := by
  intro headers
  have hunselected : (ofType .counter 2).Unselected := unselected_ofTemplate _ _ _
  have hroom : (ofType .counter 2).EnoughRoom headers (emptyFragments 3 8) :=
    ⟨by decide, by decide⟩
  refine ⟨⟨hunselected, hroom⟩, ?_⟩
  exact answers_iff hunselected [] hroom (Small.noFullRun (by decide) _)

/-- All 256 binaries of a database, selected with their flags. -/
def binaries : DatabaseBuffers := (ofType .binary 256).read [.all .group1Var2]

/-- The writer of such a fragment. -/
def emptyWriter (size : Nat) : HeaderWriter := .ofSlice (.ofMemory (List.replicate size 0))

/-- The 256 values take up the count of one byte, so that their stop index is left out. -/
theorem emit_binaries {values : List Binary} (hvalues : values.length = 256) :
    ∃ w', ((getStaticWriter .binary .group1Var2).contents 0 values).emit .uint8 (emptyWriter 300) =
        (w', 256) ∧
      w'.position.written = [1, 2, 0, 0, 0] ++ values.flatMap group1Var2.write := by
  rcases (emptyWriter 300).iterateOverRange_spec .uint8 .uint8StartStop group1Var2 0 with h | h
  · exact absurd h (by decide +kernel)
  · have hiterator := h.iterator
    have hwritten : ((emptyWriter 300).iterateOverRange .uint8 .uint8StartStop group1Var2
        0).1.position.written = [1, 2, 0, 0, 0] := by decide +kernel
    have hsize : ((emptyWriter 300).iterateOverRange .uint8 .uint8StartStop group1Var2
        0).1.position.size = 295 := by decide +kernel
    rcases hstart : (emptyWriter 300).iterateOverRange .uint8 .uint8StartStop group1Var2 0 with
      ⟨w, it⟩
    rw [hstart] at hwritten hsize hiterator
    have hit : it = _ := hiterator
    have hvalid : it.isValid = true := by rw [hit]; rfl
    have hcount : it.count < it.type.modulus := by rw [hit]; decide
    have hroom : values.length * it.serializer.size ≤ w.position.size := by
      rw [hvalues, hsize, hit]
      decide
    obtain ⟨position', hfill, hfilled⟩ := RangeWriteIterator.fill_roomy hvalid hcount hroom
    refine ⟨{ w with position := position' }, ?_, ?_⟩
    · show (emptyWriter 300).writeRange .uint8 .uint8StartStop group1Var2 0 values = _
      rw [HeaderWriter.writeRange, hstart]
      dsimp only
      rw [hfill, hvalues, hit]
      rfl
    · rw [hfilled, hwritten, hit]
      rfl

/-- A response that is complete with the first fragment. -/
theorem fragments_respond_succ {db db' : DatabaseBuffers} {w : HeaderWriter} (n : Nat) {size : Nat}
    (h : db.load (emptyWriter size) = (db', w, true)) :
    (db.respond (emptyFragments (n + 1) size)).fragments = [w.position.written] := by
  have hbefore : db.before { updates := [], memory := List.replicate size 0 } =
      (db, emptyWriter size) := rfl
  rw [emptyFragments, List.replicate_succ, respond, hbefore, h]

theorem fragments_binaries :
    (binaries.respond (emptyFragments 257 300)).fragments =
      [[1, 2, 0, 0, 0] ++ (List.replicate 256 (StaticType.initial .binary)).flatMap
        group1Var2.write] := by
  -- one evaluation of the selection serves all of these
  obtain ⟨hcells, hhead, hvalues, hlength, hends, hindex, hothers⟩ :
      (binaries.buffers .binary).cells ≠ [] ∧
      (∀ c ∈ (binaries.buffers .binary).cells.head?, c.selection.selected = true ∧
        c.selection.variation = .group1Var2 ∧ c.vIndex = 0) ∧
      valuesOf (runOf (t := .binary) .group1Var2 0 (binaries.buffers .binary).cells) =
        List.replicate 256 (StaticType.initial .binary) ∧
      (binaries.buffers .binary).cells.length = 256 ∧
      ((binaries.ranges .binary).start.toNat = 0 ∧
        (binaries.ranges .binary).stop.toNat + 1 = 256) ∧
      indexTypeOf (mappedRange (binaries.buffers .binary).cells
        (binaries.ranges .binary)) = .uint8 ∧
      ∀ t ∈ StaticType.all.tail, binaries.ranges t = .invalid := by decide +kernel
  have hspans : Spans (binaries.buffers .binary).cells (binaries.ranges .binary) []
      (binaries.buffers .binary).cells [] :=
    ⟨by simp, by omega, fun _ => ⟨hends.1, by simpa [hlength] using hends.2⟩,
      fun h => absurd h hcells⟩
  generalize hdefaults : List.replicate 256 (StaticType.initial .binary) = values at hvalues ⊢
  have hlen : values.length = 256 := by rw [← hdefaults, List.length_replicate]
  obtain ⟨w', hemit, hwritten⟩ := emit_binaries hlen
  have hload : (binaries.loadType .binary (emptyWriter 300)).2 = (w', true) := by
    rw [loadType_snd]
    generalize (binaries.buffers .binary).cells = cells at *
    cases cells with
    | nil => exact absurd rfl hcells
    | cons c seg =>
      obtain ⟨hselected, hvariation, hvIndex⟩ := hhead c rfl
      rw [← hvariation, ← hvIndex] at hvalues
      have hrun := congrArg List.length hvalues
      rw [valuesOf, List.length_map, hlen] at hrun
      have he : (w', 256) = ((getStaticWriter .binary c.selection.variation).contents
          c.vIndex.toNat (valuesOf (runOf c.selection.variation c.vIndex (c :: seg)))).emit
            (indexTypeOf (mappedRange (c :: seg) (binaries.ranges .binary))) (emptyWriter 300) := by
        rw [hvalues, hindex, hvariation, hvIndex]
        exact hemit.symm
      obtain ⟨hwriter, hspace⟩ := loadRange_once hspans hselected he hrun hlength.symm
      rw [hwriter, hspace]
  have hothers' : ∀ t ∈ StaticType.all.tail,
      (binaries.loadType .binary (emptyWriter 300)).1.ranges t = .invalid := by
    intro t ht
    have hne : t ≠ .binary := by
      rintro rfl
      exact absurd ht (by decide)
    rw [(binaries.loadType_others (emptyWriter 300) hne).2, hothers t ht]
  have hall : (binaries.load (emptyWriter 300)).2 = (w', true) := by
    rcases htype : binaries.loadType .binary (emptyWriter 300) with ⟨db', w'', done⟩
    rw [htype] at hload hothers'
    cases hload
    rw [load, StaticType.all, loadTypes, htype]
    exact loadTypes_of_invalid hothers' w'
  rcases hloaded : binaries.load (emptyWriter 300) with ⟨db', w'', done⟩
  rw [hloaded] at hall
  cases hall
  rw [← hwritten]
  exact fragments_respond_succ 256 hloaded

/-- A frozen counter that is read as `Group21Var2` is answered as `Group21Var1`, and 256 binaries
that are answered with one header cannot be decoded. -/
theorem not_answers :
    ((ofType .frozenCounter 1).EnoughRoom [.all .group21Var2] (emptyFragments 2 20) ∧
      ¬ (ofType .frozenCounter 1).Answers [.all .group21Var2] (emptyFragments 2 20)) ∧
    (ofType .binary 256).EnoughRoom [.all .group1Var2] (emptyFragments 257 300) ∧
      ¬ (ofType .binary 256).Answers [.all .group1Var2] (emptyFragments 257 300) := by
  refine ⟨⟨⟨by decide, by decide⟩, fun h => ?_⟩, ⟨fun f hf p hp => ?_, by decide +kernel⟩, ?_⟩
  · exact absurd h.2.1 (by decide)
  · have hroom : ∀ p ∈ (ofType .binary 256).points [.all .group1Var2], p.needed .uint16 ≤ 300 := by
      decide +kernel
    rw [List.eq_of_mem_replicate hf]
    exact Nat.le_trans (p.needed_le _) (Nat.le_trans (hroom p hp) (by rw [List.length_replicate]))
  · rintro ⟨-, hdecode, -⟩
    have hfragments := fragments_binaries
    rw [binaries] at hfragments
    rw [hfragments] at hdecode
    exact absurd hdecode (by decide +kernel)

end DatabaseBuffers
end Outstation
end Dnp3
