import Dnp3.Outstation.StaticRead

/-!
# Static selection

A header of a READ asks for points of a type: for all of them, for those of class 0, or for a range,
which the database maps to positions in its array.  A header selects what it asks for and leaves
alone what is selected already, so after the headers of a READ a point has the value it had and the
variation of the first header that asks for it.

The fragments of the response say all these points once, provided that every variation is written
as itself and that no header with one-byte indices takes all 256 of them, for then its count wraps.
-/

namespace Dnp3
namespace Outstation

open Library App

/-- A header of a static READ. -/
inductive StaticHeader where
  | all (gv : GroupVariation)
  | range (gv : GroupVariation) (range : Range)
  deriving DecidableEq, Repr

/-- The selection for a type, when it is for this type. -/
def StaticSelection.at (s : StaticSelection) (t : StaticType) : Option (Option t.Variation) :=
  if h : s.type = t then some (h ▸ s.variation) else none

namespace DatabaseBuffers

/-- The database after a header. -/
def processHeader (db : DatabaseBuffers) : StaticHeader → DatabaseBuffers
  | .all gv => (db.selectAll gv).1
  | .range gv range => (db.selectRange gv range).1

/-- The database after the headers of a READ. -/
def read (db : DatabaseBuffers) (headers : List StaticHeader) : DatabaseBuffers :=
  headers.foldl processHeader db.unselect

/-- The positions of a range of the request. -/
def rawRange (db : DatabaseBuffers) (t : StaticType) (range : Range) : Option Range :=
  match db.indexMode with
  | .discontiguous => IndexSearch.findRawRange (db.buffers t).vIndices range
  | .contiguous => some range

/-- Whether a header asks for the point at a position, and with which variation; no variation stands
for the default of the point. -/
def asks (db : DatabaseBuffers) (t : StaticType) (i : Nat) :
    StaticHeader → Option (Option t.Variation)
  | .all gv =>
    if gv = .group60Var1 then if db.class0.isSet t then some none else none
    else (staticSelection gv).bind fun s => s.at t
  | .range gv range =>
    (staticSelection gv).bind fun s =>
      match db.rawRange t range with
      | some raw => if raw.start.toNat ≤ i ∧ i ≤ raw.stop.toNat then s.at t else none
      | none => none

/-! ## What a header does -/

/-- A cell after a header that may ask for it. -/
def selectIf {t : StaticType} (asked : Option (Option t.Variation)) (c : Cell t) : Cell t :=
  match asked with
  | some variation => c.select variation
  | none => c

/-- The cells that are asked for are selected, and nothing else changes. -/
structure Selects (db db' : DatabaseBuffers) (asked : (t : StaticType) → Nat →
    Option (Option t.Variation)) : Prop where
  cells : ∀ t i, (db'.buffers t).cells[i]? = (db.buffers t).cells[i]?.map (selectIf (asked t i))
  covered : ∀ t, db.Covered t → db'.Covered t
  class0 : db'.class0 = db.class0
  indexMode : db'.indexMode = db.indexMode

variable {db db' : DatabaseBuffers} {t : StaticType}

theorem selectIf_none : selectIf (t := t) none = id := rfl

theorem Selects.refl (db : DatabaseBuffers) : Selects db db fun _ _ => none := by
  refine ⟨fun t i => ?_, fun _ h => h, rfl, rfl⟩
  rw [selectIf_none, Option.map_id, id]

/-- The positions of an array. -/
theorem mem_rangeOf {b : StaticBuffer t} {i : Nat} :
    ((rangeOf b.size).start.toNat ≤ i ∧ i ≤ (rangeOf b.size).stop.toNat) ↔ i < b.cells.length := by
  have hsize := b.size_toNat
  rw [rangeOf]
  by_cases hpos : b.size > 0
  · have hstop : (b.size - 1).toNat = b.size.toNat - 1 := by
      rw [UInt16.toNat_sub_of_le, UInt16.toNat_one]
      rw [UInt16.le_iff_toNat_le]
      rw [gt_iff_lt, UInt16.lt_iff_toNat_lt] at hpos
      exact hpos
    rw [gt_iff_lt, UInt16.lt_iff_toNat_lt, UInt16.toNat_zero] at hpos
    rw [if_pos (by rw [gt_iff_lt, UInt16.lt_iff_toNat_lt, UInt16.toNat_zero]; exact hpos)]
    show (0 : UInt16).toNat ≤ i ∧ i ≤ (b.size - 1).toNat ↔ _
    rw [hstop, UInt16.toNat_zero]
    omega
  · rw [if_neg hpos]
    rw [gt_iff_lt, UInt16.lt_iff_toNat_lt, UInt16.toNat_zero] at hpos
    show (1 : UInt16).toNat ≤ i ∧ i ≤ (0 : UInt16).toNat ↔ _
    rw [UInt16.toNat_one, UInt16.toNat_zero]
    omega

theorem toNat_max (a b : UInt16) : (max a b).toNat = max a.toNat b.toNat := by
  show (if a ≤ b then b else a).toNat = _
  by_cases h : a ≤ b
  · rw [if_pos h, Nat.max_eq_right (UInt16.le_iff_toNat_le.mp h)]
  · rw [if_neg h]
    rw [UInt16.le_iff_toNat_le] at h
    omega

theorem toNat_min (a b : UInt16) : (min a b).toNat = min a.toNat b.toNat := by
  show (if a ≤ b then a else b).toNat = _
  by_cases h : a ≤ b
  · rw [if_pos h, Nat.min_eq_left (UInt16.le_iff_toNat_le.mp h)]
  · rw [if_neg h]
    rw [UInt16.le_iff_toNat_le] at h
    omega

theorem mem_intersection {r s : Range} {i : Nat} :
    ((r.intersection s).start.toNat ≤ i ∧ i ≤ (r.intersection s).stop.toNat) ↔
      (r.start.toNat ≤ i ∧ i ≤ r.stop.toNat) ∧ s.start.toNat ≤ i ∧ i ≤ s.stop.toNat := by
  show ((max r.start s.start).toNat ≤ i ∧ i ≤ (min r.stop s.stop).toNat) ↔ _
  rw [toNat_max, toNat_min]
  omega

theorem isValid_of_mem {r : Range} {i : Nat} (h : r.start.toNat ≤ i ∧ i ≤ r.stop.toNat) :
    r.isValid = true := by
  rw [Range.isValid, decide_eq_true_eq, UInt16.le_iff_toNat_le]
  exact Nat.le_trans h.1 h.2

theorem at_self (t : StaticType) (variation : Option t.Variation) :
    (StaticSelection.mk t variation).at t = some variation := by
  rw [StaticSelection.at, dif_pos rfl]

theorem at_of_ne (s : StaticSelection) {u : StaticType} (h : u ≠ s.type) : s.at u = none := by
  rw [StaticSelection.at, dif_neg (Ne.symm h)]

/-- What a selection of a range of positions asks for. -/
def askedIn (s : StaticSelection) (range : Range) (u : StaticType) (i : Nat) :
    Option (Option u.Variation) :=
  if range.start.toNat ≤ i ∧ i ≤ range.stop.toNat then s.at u else none

theorem mem_union_left {r s : Range} {i : Nat} (h : r.start.toNat ≤ i ∧ i ≤ r.stop.toNat) :
    (r.union s).start.toNat ≤ i ∧ i ≤ (r.union s).stop.toNat := by
  show (min r.start s.start).toNat ≤ i ∧ i ≤ (max r.stop s.stop).toNat
  rw [toNat_max, toNat_min]
  omega

theorem mem_union_right {r s : Range} {i : Nat} (h : s.start.toNat ≤ i ∧ i ≤ s.stop.toNat) :
    (r.union s).start.toNat ≤ i ∧ i ≤ (r.union s).stop.toNat := by
  show (min r.start s.start).toNat ≤ i ∧ i ≤ (max r.stop s.stop).toNat
  rw [toNat_max, toNat_min]
  omega

/-- A selected cell stays as it is. -/
theorem select_of_selected {c : Cell t} (h : c.selection.selected = true)
    (variation : Option t.Variation) : c.select variation = c := by
  rw [Cell.select, if_pos h]

theorem selected_select (c : Cell t) (variation : Option t.Variation) :
    (c.select variation).selection.selected = true := by
  rw [Cell.select]
  split
  · assumption
  · rfl

/-- Selecting cells of a range and merging it into the selected range keeps the cells covered. -/
theorem covered_select (hcovered : db.Covered t) {range : Range} (f : Cell t → Cell t)
    (hf : ∀ c, (f c).vIndex = c.vIndex) (hselects : ∀ c, (f c).selection.selected = true)
    (hvalid : range.start.toNat ≤ range.stop.toNat)
    (hstop : range.stop.toNat < (db.buffers t).cells.length) :
    ((db.setBuffer t ((db.buffers t).updateRange range f hf)).setRange t
      ((db.ranges t).union range)).Covered t := by
  have hbuffer : ((db.setBuffer t ((db.buffers t).updateRange range f hf)).setRange t
      ((db.ranges t).union range)).buffers t = (db.buffers t).updateRange range f hf :=
    Function.update_self _ _ _
  have hrange : ((db.setBuffer t ((db.buffers t).updateRange range f hf)).setRange t
      ((db.ranges t).union range)).ranges t = (db.ranges t).union range :=
    Function.update_self _ _ _
  constructor
  · rw [hbuffer, hrange]
    refine .inr ⟨isValid_of_mem (mem_union_right ⟨hvalid, Nat.le_refl _⟩), ?_⟩
    show (max (db.ranges t).stop range.stop).toNat < (List.mapIdx _ _).length
    rw [toNat_max, List.length_mapIdx, Nat.max_lt]
    refine ⟨?_, hstop⟩
    rcases hcovered.range with hinvalid | hold
    · rw [hinvalid]
      exact Nat.lt_of_le_of_lt (Nat.zero_le _) hstop
    · exact hold.2
  · intro i c hc hselected
    rw [hrange]
    rw [hbuffer, StaticBuffer.getElem?_updateRange] at hc
    by_cases hi : range.start.toNat ≤ i ∧ i ≤ range.stop.toNat
    · exact mem_union_right hi
    · rw [if_neg hi] at hc
      exact mem_union_left (hcovered.selected i c hc hselected)
  · intro _
    rw [hbuffer, hrange]
    show ∃ c, ((db.buffers t).updateRange range f hf).cells[(max (db.ranges t).stop
      range.stop).toNat]? = some c ∧ _
    rw [StaticBuffer.getElem?_updateRange, toNat_max]
    by_cases hlater : (db.ranges t).stop.toNat ≤ range.stop.toNat
    · rw [Nat.max_eq_right hlater, if_pos ⟨hvalid, Nat.le_refl _⟩, List.getElem?_eq_getElem hstop]
      exact ⟨_, rfl, hselects _⟩
    · rw [Nat.max_eq_left (by omega), if_neg (by omega)]
      rcases hcovered.range with hinvalid | hold
      · rw [hinvalid] at hlater
        exact absurd (Nat.zero_le _) hlater
      · exact hcovered.last hold.1

/-- Only cells that exist matter. -/
theorem Selects.congr {asked asked' : (t : StaticType) → Nat → Option (Option t.Variation)}
    (h : Selects db db' asked) (heq : ∀ t i, i < (db.buffers t).cells.length →
      asked t i = asked' t i) : Selects db db' asked' := by
  refine ⟨fun t i => ?_, h.covered, h.class0, h.indexMode⟩
  rw [h.cells]
  by_cases hi : i < (db.buffers t).cells.length
  · rw [heq t i hi]
  · rw [List.getElem?_eq_none (Nat.le_of_not_lt hi)]
    rfl

theorem Selects.length {asked : (t : StaticType) → Nat → Option (Option t.Variation)}
    (h : Selects db db' asked) (t : StaticType) :
    (db'.buffers t).cells.length = (db.buffers t).cells.length := by
  refine Nat.le_antisymm ?_ ?_
  · rw [← List.getElem?_eq_none_iff, h.cells, List.getElem?_eq_none (Nat.le_refl _)]
    rfl
  · have hnone : (db'.buffers t).cells[(db'.buffers t).cells.length]? = none :=
      List.getElem?_eq_none (Nat.le_refl _)
    rwa [h.cells, Option.map_eq_none_iff, List.getElem?_eq_none_iff] at hnone

theorem genericSelect_selects (db : DatabaseBuffers) (s : StaticSelection) (range : Range) :
    Selects db (db.genericSelect s.type range s.variation).1 (askedIn s range) := by
  have hallowed : ∀ i, ((range.intersection (rangeOf (db.buffers s.type).size)).start.toNat ≤ i ∧
      i ≤ (range.intersection (rangeOf (db.buffers s.type).size)).stop.toNat) ↔
      (range.start.toNat ≤ i ∧ i ≤ range.stop.toNat) ∧
        i < (db.buffers s.type).cells.length := by
    intro i
    rw [mem_intersection, mem_rangeOf]
  have hnothing : (∀ i, i < (db.buffers s.type).cells.length →
      ¬ (range.start.toNat ≤ i ∧ i ≤ range.stop.toNat)) → Selects db db (askedIn s range) := by
    intro hnone
    refine (Selects.refl db).congr fun u i hi => ?_
    rw [askedIn]
    by_cases hu : u = s.type
    · subst hu
      rw [if_neg (hnone i hi)]
    · rw [at_of_ne s hu, ite_self]
  rw [genericSelect]
  by_cases hvalid : range.isValid = true
  · rw [if_pos hvalid]
    dsimp only
    by_cases hsome : (range.intersection (rangeOf (db.buffers s.type).size)).isValid = true
    · rw [if_pos hsome]
      have hstart := hsome
      rw [Range.isValid, decide_eq_true_eq, UInt16.le_iff_toNat_le] at hstart
      have hlast := (hallowed _).mp ⟨hstart, Nat.le_refl _⟩
      refine ⟨fun u i => ?_, fun u hcovered => ?_, rfl, rfl⟩
      · dsimp only [setRange, setBuffer]
        by_cases hu : u = s.type
        · subst hu
          rw [Function.update_self, StaticBuffer.getElem?_updateRange, askedIn, at_self]
          by_cases hi : i < (db.buffers s.type).cells.length
          · by_cases hrange : range.start.toNat ≤ i ∧ i ≤ range.stop.toNat
            · rw [if_pos ((hallowed i).mpr ⟨hrange, hi⟩), if_pos hrange]
              rfl
            · rw [if_neg fun h => hrange ((hallowed i).mp h).1, if_neg hrange, selectIf_none,
                Option.map_id, id]
          · rw [List.getElem?_eq_none (Nat.le_of_not_lt hi)]
            split <;> rfl
        · rw [Function.update_of_ne hu, askedIn, at_of_ne s hu, ite_self, selectIf_none,
            Option.map_id, id]
      · by_cases hu : u = s.type
        · subst hu
          exact covered_select hcovered _ _ (fun c => selected_select c s.variation) hstart hlast.2
        · exact hcovered.congr ⟨Function.update_of_ne hu _ _, Function.update_of_ne hu _ _⟩
    · rw [if_neg hsome]
      exact hnothing fun i hi hrange => hsome (isValid_of_mem ((hallowed i).mpr ⟨hrange, hi⟩))
  · rw [if_neg hvalid]
    exact hnothing fun i _ hrange => hvalid (isValid_of_mem hrange)

/-- The first selection counts. -/
theorem selectIf_selectIf (asked asked' : Option (Option t.Variation)) (c : Cell t) :
    selectIf asked' (selectIf asked c) = selectIf (asked.or asked') c := by
  cases asked with
  | none => rfl
  | some variation =>
    cases asked' with
    | none => rfl
    | some variation' => exact select_of_selected (selected_select c variation) variation'

theorem Selects.trans {db'' : DatabaseBuffers}
    {asked asked' : (t : StaticType) → Nat → Option (Option t.Variation)}
    (h : Selects db db' asked) (h' : Selects db' db'' asked') :
    Selects db db'' fun t i => (asked t i).or (asked' t i) := by
  refine ⟨fun t i => ?_, fun t hcovered => h'.covered t (h.covered t hcovered),
    h'.class0.trans h.class0, h'.indexMode.trans h.indexMode⟩
  rw [h'.cells, h.cells, Option.map_map]
  refine congrArg (fun f => Option.map f _) (funext fun c => ?_)
  exact selectIf_selectIf _ _ c

/-- Only the virtual indices, the mode and the class 0 types say what a header asks for. -/
theorem Selects.asks {asked : (t : StaticType) → Nat → Option (Option t.Variation)}
    (h : Selects db db' asked) (t : StaticType) (i : Nat) (header : StaticHeader) :
    db'.asks t i header = db.asks t i header := by
  have hindices : (db'.buffers t).vIndices = (db.buffers t).vIndices := by
    refine List.ext_getElem? fun j => ?_
    rw [List.getElem?_map, List.getElem?_map, h.cells, Option.map_map]
    refine congrArg (fun f => Option.map f _) (funext fun c => ?_)
    show (selectIf (asked t j) c).vIndex = c.vIndex
    cases asked t j with
    | none => rfl
    | some variation => exact c.vIndex_select variation
  cases header with
  | all gv => rw [DatabaseBuffers.asks, DatabaseBuffers.asks, h.class0]
  | range gv range =>
    rw [DatabaseBuffers.asks, DatabaseBuffers.asks, rawRange, rawRange, h.indexMode, hindices]

theorem selectAllOf_selects (db : DatabaseBuffers) (s : StaticSelection) :
    Selects db (db.selectAllOf s).1 fun u _ => s.at u := by
  refine (genericSelect_selects db s (rangeOf (db.buffers s.type).size)).congr fun u i hi => ?_
  rw [askedIn]
  by_cases hu : u = s.type
  · subst hu
    rw [if_pos (mem_rangeOf.mpr hi)]
  · rw [at_of_ne s hu, ite_self]

theorem selectAllClass0_selects (db : DatabaseBuffers) (types : List StaticType) :
    Selects db (types.foldl selectAllClass0 db) fun u _ =>
      if u ∈ types ∧ db.class0.isSet u = true then some none else none := by
  induction types generalizing db with
  | nil =>
    refine (Selects.refl db).congr fun u i _ => ?_
    rw [if_neg fun h => List.not_mem_nil h.1]
  | cons t types ih =>
    have hfirst : Selects db (db.selectAllClass0 t) fun u _ =>
        if u = t ∧ db.class0.isSet u = true then some none else none := by
      rw [selectAllClass0]
      by_cases hset : db.class0.isSet t = true
      · rw [if_pos hset]
        refine (db.selectAllOf_selects ⟨t, none⟩).congr fun u i _ => ?_
        by_cases hu : u = t
        · subst hu
          rw [at_self, if_pos ⟨rfl, hset⟩]
        · rw [at_of_ne _ hu, if_neg fun h => hu h.1]
      · rw [if_neg hset]
        refine (Selects.refl db).congr fun u i _ => ?_
        rw [if_neg]
        rintro ⟨rfl, h⟩
        exact hset h
    refine (hfirst.trans (ih (db.selectAllClass0 t))).congr fun u i _ => ?_
    rw [hfirst.class0]
    by_cases hset : db.class0.isSet u = true
    · by_cases hu : u = t
      · rw [if_pos ⟨hu, hset⟩, Option.some_or, if_pos ⟨List.mem_cons.mpr (.inl hu), hset⟩]
      · by_cases hmem : u ∈ types
        · rw [if_neg fun h => hu h.1, if_pos ⟨hmem, hset⟩,
            if_pos ⟨List.mem_cons_of_mem t hmem, hset⟩]
          rfl
        · rw [if_neg fun h => hu h.1, if_neg fun h => hmem h.1, if_neg]
          · rfl
          · rintro ⟨h, -⟩
            rcases List.mem_cons.mp h with h | h
            · exact hu h
            · exact hmem h
    · rw [if_neg fun h => hset h.2, if_neg fun h => hset h.2, if_neg fun h => hset h.2]
      rfl

/-- A header selects what it asks for. -/
theorem processHeader_selects (db : DatabaseBuffers) (header : StaticHeader) :
    Selects db (db.processHeader header) fun t i => db.asks t i header := by
  cases header with
  | all gv =>
    rw [processHeader, selectAll]
    by_cases hgv : gv = .group60Var1
    · rw [if_pos hgv]
      refine (db.selectAllClass0_selects StaticType.all).congr fun u i _ => ?_
      rw [asks, if_pos hgv]
      by_cases hset : db.class0.isSet u = true
      · rw [if_pos hset, if_pos ⟨u.mem_all, hset⟩]
      · rw [if_neg hset, if_neg fun h => hset h.2]
    · rw [if_neg hgv]
      cases hs : staticSelection gv with
      | none =>
        refine (Selects.refl db).congr fun u i _ => ?_
        rw [asks, if_neg hgv, hs]
        rfl
      | some s =>
        refine (db.selectAllOf_selects s).congr fun u i _ => ?_
        rw [asks, if_neg hgv, hs]
        rfl
  | range gv range =>
    rw [processHeader, selectRange]
    cases hs : staticSelection gv with
    | none =>
      refine (Selects.refl db).congr fun u i _ => ?_
      rw [asks, hs]
      rfl
    | some s =>
      -- the type decides both the mapping of the range and what is selected
      have hasks : ∀ u i, db.asks u i (.range gv range) =
          match db.rawRange s.type range with
          | some raw => askedIn s raw u i
          | none => none := by
        intro u i
        rw [asks, hs, Option.bind_some]
        by_cases hu : u = s.type
        · rw [hu]
          rfl
        · cases db.rawRange u range with
          | none =>
            cases db.rawRange s.type range with
            | none => rfl
            | some raw =>
              dsimp only
              rw [askedIn, at_of_ne s hu, ite_self]
          | some raw' =>
            dsimp only
            rw [at_of_ne s hu, ite_self]
            cases db.rawRange s.type range with
            | none => rfl
            | some raw =>
              dsimp only
              rw [askedIn, at_of_ne s hu, ite_self]
      dsimp only
      rw [selectVirtualRange]
      cases hmode : db.indexMode with
      | contiguous =>
        refine (genericSelect_selects db s range).congr fun u i _ => ?_
        rw [hasks, rawRange, hmode]
      | discontiguous =>
        dsimp only
        cases hraw : IndexSearch.findRawRange (db.buffers s.type).vIndices range with
        | none =>
          refine ⟨fun u i => ?_, fun u h => ⟨h.range, h.selected, h.last⟩, rfl, hmode.symm⟩
          rw [hasks, rawRange, hmode]
          dsimp only
          rw [hraw, selectIf_none, Option.map_id, id]
        | some raw =>
          dsimp only
          by_cases hvalid : raw.isValid = true
          · rw [if_pos hvalid]
            refine (genericSelect_selects db s raw).congr fun u i _ => ?_
            rw [hasks, rawRange, hmode]
            dsimp only
            rw [hraw]
          · rw [if_neg hvalid]
            refine (Selects.refl db).congr fun u i _ => ?_
            rw [hasks, rawRange, hmode]
            dsimp only
            rw [hraw]
            dsimp only
            rw [askedIn, if_neg fun h => hvalid (isValid_of_mem h)]

/-- The headers of a READ select what the first of them asks for. -/
theorem processHeaders_selects (db : DatabaseBuffers) (headers : List StaticHeader) :
    Selects db (headers.foldl processHeader db) fun t i => headers.findSome? (db.asks t i) := by
  induction headers generalizing db with
  | nil => exact .refl db
  | cons header headers ih =>
    have hfirst := db.processHeader_selects header
    refine (hfirst.trans (ih (db.processHeader header))).congr fun t i _ => ?_
    have hrest : headers.findSome? ((db.processHeader header).asks t i) =
        headers.findSome? (db.asks t i) :=
      congrArg (fun f => headers.findSome? f) (funext fun h => hfirst.asks t i h)
    rw [hrest, List.findSome?_cons]
    cases db.asks t i header <;> rfl

/-! ## Nothing selected -/

/-- No range is selected, and no cell. -/
structure Unselected (db : DatabaseBuffers) : Prop where
  ranges : ∀ t, db.ranges t = .invalid
  cells : ∀ t, ∀ c ∈ (db.buffers t).cells, c.selection.selected = false

theorem Unselected.covered (h : db.Unselected) (t : StaticType) : db.Covered t := by
  refine ⟨.inl (h.ranges t), fun i c hc hselected => ?_, fun hvalid => ?_⟩
  · rw [h.cells t c (List.mem_of_getElem? hc)] at hselected
    cases hselected
  · rw [h.ranges t] at hvalid
    cases hvalid

/-- A new database has nothing selected. -/
theorem unselected_ofTemplate (sizes : StaticType → UInt16) (class0 : StaticTypeBitField)
    (indexMode : IndexMode) : (ofTemplate sizes class0 indexMode).Unselected := by
  refine ⟨fun _ => rfl, fun t c hc => ?_⟩
  obtain ⟨i, -, rfl⟩ := List.mem_map.mp hc
  rfl

/-- The cells of a type without their selection. -/
structure Deselects (db db' : DatabaseBuffers) (types : List StaticType) : Prop where
  cells : ∀ t, (db'.buffers t).cells =
    if t ∈ types then (db.buffers t).cells.map Cell.deselect else (db.buffers t).cells
  ranges : ∀ t, db'.ranges t = if t ∈ types then .invalid else db.ranges t
  class0 : db'.class0 = db.class0
  indexMode : db'.indexMode = db.indexMode

theorem deselect_spec (hcovered : db.Covered t) : Deselects db (db.deselect t) [t] := by
  rw [deselect]
  by_cases hvalid : (db.ranges t).isValid = true
  · rw [if_pos hvalid]
    refine ⟨fun u => ?_, fun u => ?_, rfl, rfl⟩
    · dsimp only [setRange, setBuffer]
      by_cases hu : u = t
      · subst hu
        rw [Function.update_self, if_pos List.mem_cons_self]
        refine List.ext_getElem? fun i => ?_
        rw [StaticBuffer.getElem?_updateRange, List.getElem?_map]
        by_cases hi : (db.ranges u).start.toNat ≤ i ∧ i ≤ (db.ranges u).stop.toNat
        · rw [if_pos hi]
        · rw [if_neg hi]
          cases hc : (db.buffers u).cells[i]? with
          | none => rfl
          | some c =>
            have hunselected : c.selection.selected = false := by
              rw [Bool.eq_false_iff]
              intro hselected
              exact hi (hcovered.selected i c hc hselected)
            rw [Option.map_some, Cell.deselect_of_not_selected hunselected]
      · rw [Function.update_of_ne hu, if_neg fun h => hu (List.mem_singleton.mp h)]
    · dsimp only [setRange, setBuffer]
      by_cases hu : u = t
      · subst hu
        rw [Function.update_self, if_pos List.mem_cons_self]
      · rw [Function.update_of_ne hu, if_neg fun h => hu (List.mem_singleton.mp h)]
  · rw [if_neg hvalid]
    have hinvalid : db.ranges t = .invalid := by
      rcases hcovered.range with h | h
      · exact h
      · exact absurd h.1 hvalid
    refine ⟨fun u => ?_, fun u => ?_, rfl, rfl⟩
    · by_cases hu : u = t
      · subst hu
        rw [if_pos List.mem_cons_self]
        refine (List.map_id' _).symm.trans (List.map_congr_left fun c hc => ?_)
        obtain ⟨i, hi⟩ := List.getElem?_of_mem hc
        have hunselected : c.selection.selected = false := by
          rw [Bool.eq_false_iff]
          intro hselected
          have hrange := hcovered.selected i c hi hselected
          rw [hinvalid] at hrange
          exact absurd (Nat.le_trans hrange.1 hrange.2) (by decide)
        exact (Cell.deselect_of_not_selected hunselected).symm
      · rw [if_neg fun h => hu (List.mem_singleton.mp h)]
    · by_cases hu : u = t
      · subst hu
        rw [if_pos List.mem_cons_self, hinvalid]
      · rw [if_neg fun h => hu (List.mem_singleton.mp h)]

theorem deselectAll_spec {types : List StaticType} (hnodup : types.Nodup) {db : DatabaseBuffers}
    (hcovered : ∀ t, db.Covered t) : Deselects db (types.foldl deselect db) types := by
  induction types generalizing db with
  | nil =>
    refine ⟨fun t => ?_, fun t => ?_, rfl, rfl⟩
    · rw [if_neg List.not_mem_nil]
      rfl
    · rw [if_neg List.not_mem_nil]
      rfl
  | cons t types ih =>
    obtain ⟨hnotMem, hnodup⟩ := List.nodup_cons.mp hnodup
    have hfirst := deselect_spec (hcovered t)
    have hcovered' : ∀ u, (db.deselect t).Covered u := by
      intro u
      have hcells := hfirst.cells u
      have hranges := hfirst.ranges u
      by_cases hu : u = t
      · rw [if_pos (List.mem_singleton.mpr hu)] at hcells hranges
        refine ⟨.inl hranges, fun i c hc hselected => ?_, fun hvalid => ?_⟩
        · rw [hcells, List.getElem?_map] at hc
          obtain ⟨d, -, rfl⟩ := Option.map_eq_some_iff.mp hc
          cases hselected
        · rw [hranges] at hvalid
          cases hvalid
      · rw [if_neg fun h => hu (List.mem_singleton.mp h)] at hcells hranges
        constructor
        · rw [hcells, hranges]
          exact (hcovered u).range
        · rw [hcells, hranges]
          exact (hcovered u).selected
        · rw [hcells, hranges]
          exact (hcovered u).last
    have hrest := ih hnodup hcovered'
    refine ⟨fun u => ?_, fun u => ?_, hrest.class0.trans hfirst.class0,
      hrest.indexMode.trans hfirst.indexMode⟩
    · rw [List.foldl_cons, hrest.cells, hfirst.cells]
      by_cases hu : u = t
      · rw [if_neg (by rwa [hu]), if_pos (List.mem_singleton.mpr hu),
          if_pos (List.mem_cons.mpr (.inl hu))]
      · by_cases hmem : u ∈ types
        · rw [if_pos hmem, if_neg fun h => hu (List.mem_singleton.mp h),
            if_pos (List.mem_cons_of_mem t hmem)]
        · rw [if_neg hmem, if_neg fun h => hu (List.mem_singleton.mp h), if_neg]
          intro h
          rcases List.mem_cons.mp h with h | h
          · exact hu h
          · exact hmem h
    · rw [List.foldl_cons, hrest.ranges, hfirst.ranges]
      by_cases hu : u = t
      · rw [if_neg (by rwa [hu]), if_pos (List.mem_singleton.mpr hu),
          if_pos (List.mem_cons.mpr (.inl hu))]
      · by_cases hmem : u ∈ types
        · rw [if_pos hmem, if_pos (List.mem_cons_of_mem t hmem)]
        · rw [if_neg hmem, if_neg fun h => hu (List.mem_singleton.mp h), if_neg]
          intro h
          rcases List.mem_cons.mp h with h | h
          · exact hu h
          · exact hmem h

/-- `unselect` leaves nothing selected. -/
theorem unselect_spec (hcovered : ∀ t, db.Covered t) :
    db.unselect.Unselected ∧
      (∀ t, (db.unselect.buffers t).cells = (db.buffers t).cells.map Cell.deselect) ∧
      db.unselect.class0 = db.class0 ∧ db.unselect.indexMode = db.indexMode := by
  have hspec := deselectAll_spec nodup_all hcovered
  have hcells : ∀ t, (db.unselect.buffers t).cells = (db.buffers t).cells.map Cell.deselect := by
    intro t
    rw [unselect, hspec.cells, if_pos t.mem_all]
  refine ⟨⟨fun t => ?_, fun t c hc => ?_⟩, hcells, hspec.class0, hspec.indexMode⟩
  · rw [unselect, hspec.ranges, if_pos t.mem_all]
  · rw [hcells] at hc
    obtain ⟨d, -, rfl⟩ := List.mem_map.mp hc
    rfl

end DatabaseBuffers
end Outstation
end Dnp3
