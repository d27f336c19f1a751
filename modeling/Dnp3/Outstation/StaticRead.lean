import Dnp3.Outstation.StaticLoad

/-!
# Static responses over several fragments

A READ selects points, and its response is written fragment by fragment; between two fragments
points may be updated.  What the fragments say together is compared with what the headers of the
READ ask for: every point that some header covers, once, with the value it had when the READ was
processed and the variation of the first header that covers it.

`pending` is the list of the objects of a type that have been selected and not been written yet, and
`Covered` the invariant that the range of the type has all selected cells in it and ends with one.
`loadType` takes objects from the front of this list (`loadType_spec`), and so does `load` from the
lists of all types (`loadTypes_spec`).  An update changes the value of a point and neither what is
selected nor its order, so that a response that takes several fragments is described by what was
pending when it began: `respond_spec` says what its fragments are, `respond_complete` that there are
only as many of them as there are objects.
-/

namespace Dnp3
namespace Outstation

open Library App

namespace DatabaseBuffers

/-! ## Points and ranges -/

/-- The range of a type is empty or lies in the array; it holds all selected cells and ends with
one. -/
structure Covered (db : DatabaseBuffers) (t : StaticType) : Prop where
  range : db.ranges t = .invalid ∨
    (db.ranges t).isValid = true ∧ (db.ranges t).stop.toNat < (db.buffers t).cells.length
  selected : ∀ (i : Nat) (c : Cell t), (db.buffers t).cells[i]? = some c →
    c.selection.selected = true →
    (db.ranges t).start.toNat ≤ i ∧ i ≤ (db.ranges t).stop.toNat
  last : (db.ranges t).isValid = true → ∃ c : Cell t,
    (db.buffers t).cells[(db.ranges t).stop.toNat]? = some c ∧ c.selection.selected = true

/-- The objects of a type that are still to be written. -/
def pending (db : DatabaseBuffers) (t : StaticType) : List DecodedObject :=
  pendingOf (db.buffers t).cells

variable {db : DatabaseBuffers} {t : StaticType}

theorem pendingOf_eq_nil {cells : List (Cell t)} (h : ∀ c ∈ cells, c.selection.selected = false) :
    pendingOf cells = [] := by
  rw [pendingOf, List.map_eq_nil_iff, List.filter_eq_nil_iff]
  intro c hc
  rw [h c hc]
  decide

/-- The range splits the cells. -/
theorem Covered.spans (h : db.Covered t) :
    ∃ front seg back, Spans (db.buffers t).cells (db.ranges t) front seg back ∧
      (∀ c ∈ front, c.selection.selected = false) ∧
      (∀ c ∈ back, c.selection.selected = false) ∧
      ∀ c, seg.getLast? = some c → c.selection.selected = true := by
  rcases h.range with hinvalid | ⟨hvalid, hstop⟩
  · refine ⟨(db.buffers t).cells, [], [], ?_, ?_, List.forall_mem_nil _, fun c hc => ?_⟩
    · refine ⟨by simp, (db.buffers t).length_lt, fun hne => absurd rfl hne, fun _ => hinvalid⟩
    · intro c hc
      obtain ⟨i, hi, rfl⟩ := List.mem_iff_getElem.mp hc
      rw [Bool.eq_false_iff]
      intro hselected
      have hrange := h.selected i _ (List.getElem?_eq_getElem hi) hselected
      rw [hinvalid] at hrange
      exact absurd (Nat.le_trans hrange.1 hrange.2) (by decide)
    · cases hc
  · have hspans := Spans.exists (db.buffers t).length_lt hvalid hstop
    refine ⟨_, _, _, hspans, ?_, ?_, ?_⟩
    · intro c hc
      obtain ⟨i, hi, rfl⟩ := List.mem_iff_getElem.mp hc
      rw [Bool.eq_false_iff]
      intro hselected
      rw [List.length_take] at hi
      rw [List.getElem_take] at hselected
      have hrange := h.selected i _ (List.getElem?_eq_getElem (by omega)) hselected
      omega
    · intro c hc
      obtain ⟨i, hi, rfl⟩ := List.mem_iff_getElem.mp hc
      rw [Bool.eq_false_iff]
      intro hselected
      rw [List.length_drop] at hi
      rw [List.getElem_drop] at hselected
      have hrange := h.selected _ _ (List.getElem?_eq_getElem (by omega)) hselected
      omega
    · intro c hc
      obtain ⟨d, hd, hselected⟩ := h.last hvalid
      rw [hspans.getLast? (List.ne_nil_of_mem (List.mem_of_getLast? hc)), hc] at hd
      cases hd
      exact hselected

/-- A split of the cells covers the selected ones. -/
theorem Covered.of_spans {front seg back : List (Cell t)}
    (h : Spans (db.buffers t).cells (db.ranges t) front seg back)
    (hfront : ∀ c ∈ front, c.selection.selected = false)
    (hback : ∀ c ∈ back, c.selection.selected = false)
    (hlast : ∀ c, seg.getLast? = some c → c.selection.selected = true) : db.Covered t := by
  have hlen := congrArg List.length h.cells_eq
  simp only [List.length_append] at hlen
  constructor
  · rcases List.eq_nil_or_concat seg with rfl | ⟨seg, c, rfl⟩
    · exact .inl (h.invalid rfl)
    · obtain ⟨hstart, hstop⟩ := h.ends (by simp)
      simp only [List.concat_eq_append, List.length_append, List.length_singleton] at hlen hstop
      refine .inr ⟨?_, by omega⟩
      rw [Range.isValid, decide_eq_true_eq, UInt16.le_iff_toNat_le]
      omega
  · intro i c hi hselected
    rw [h.cells_eq, List.append_assoc] at hi
    by_cases hlt : i < front.length
    · rw [List.getElem?_append_left hlt] at hi
      have hunselected := hfront c (List.mem_of_getElem? hi)
      rw [hselected] at hunselected
      cases hunselected
    · rw [List.getElem?_append_right (by omega)] at hi
      by_cases hseg : i - front.length < seg.length
      · obtain ⟨hstart, hstop⟩ := h.ends (by
          rintro rfl
          exact absurd hseg (Nat.not_lt_zero _))
        omega
      · rw [List.getElem?_append_right (by omega)] at hi
        have hunselected := hback c (List.mem_of_getElem? hi)
        rw [hselected] at hunselected
        cases hunselected
  · intro hvalid
    have hne : seg ≠ [] := by
      intro hnil
      rw [h.invalid hnil] at hvalid
      cases hvalid
    rw [h.getLast? hne, List.getLast?_eq_some_getLast hne]
    exact ⟨_, rfl, hlast _ (List.getLast?_eq_some_getLast hne)⟩

/-- The indices of a header over the selected cells of a type are no longer than this. -/
def selectedIndexType (db : DatabaseBuffers) (t : StaticType) : IndexType :=
  indexTypeFor ((db.buffers t).cells.filter fun c => c.selection.selected)

/-! ## Loading one type -/

/-- What `loadType` does: some pending objects are written, the others stay pending, and when it
stops without having written anything there was no room for an object. -/
structure LoadsType (db : DatabaseBuffers) (t : StaticType) (w : HeaderWriter)
    (db' : DatabaseBuffers) (w' : HeaderWriter) (done : Bool)
    (objects : List DecodedObject) : Prop where
  emits : ¬ FullRun (db.buffers t).cells (db.ranges t) w.position.size → Emits w w' objects
  pending : objects ++ db'.pending t = db.pending t
  covered : db'.Covered t
  complete : done = true → db'.pending t = [] ∧ db'.ranges t = .invalid
  stuck : done = false → objects = [] →
    ∃ c ∈ (db.buffers t).cells, c.selection.selected = true ∧
      w.position.size < c.needed (db.selectedIndexType t)
  selected : ∀ c ∈ (db'.buffers t).cells, c.selection.selected = true → c ∈ (db.buffers t).cells
  others : ∀ u, u ≠ t → db'.buffers u = db.buffers u ∧ db'.ranges u = db.ranges u

/-- Loading a type is the loop over its range. -/
theorem buffers_loadType (db : DatabaseBuffers) (t : StaticType) (w : HeaderWriter) :
    ((db.loadType t w).1.buffers t).cells =
        (loadRange (db.ranges t).count (db.buffers t).cells w (db.ranges t)).1.cells ∧
      (db.loadType t w).1.ranges t =
        (loadRange (db.ranges t).count (db.buffers t).cells w (db.ranges t)).1.range := by
  constructor
  · simp only [loadType, setRange, setBuffer, Function.update_self]
    rfl
  · simp only [loadType, setRange, setBuffer, Function.update_self]

theorem loadType_snd (db : DatabaseBuffers) (t : StaticType) (w : HeaderWriter) :
    (db.loadType t w).2 =
      ((loadRange (db.ranges t).count (db.buffers t).cells w (db.ranges t)).2,
        (loadRange (db.ranges t).count (db.buffers t).cells w (db.ranges t)).1.spaceRemaining) :=
  rfl

theorem loadType_others (db : DatabaseBuffers) (w : HeaderWriter) {t u : StaticType} (h : u ≠ t) :
    (db.loadType t w).1.buffers u = db.buffers u ∧
      (db.loadType t w).1.ranges u = db.ranges u := by
  simp only [loadType, setRange, setBuffer, Function.update_of_ne h, and_self]

/-- Some of the pending objects are written; the others stay pending when there is no room. -/
theorem loadType_spec (hcovered : db.Covered t) (w : HeaderWriter) :
    ∃ objects, db.LoadsType t w (db.loadType t w).1 (db.loadType t w).2.1 (db.loadType t w).2.2
      objects := by
  obtain ⟨front, seg, back, hspans, hfront, hback, hlast⟩ := hcovered.spans
  obtain ⟨hcells, hrange⟩ := db.buffers_loadType t w
  rcases hload : loadRange (db.ranges t).count (db.buffers t).cells w (db.ranges t) with
    ⟨loaded, w'⟩
  have hresult : (db.loadType t w).2 = (w', loaded.spaceRemaining) := by
    rw [loadType_snd, hload]
  obtain ⟨n, hspans', hemits, hdone, hstuck⟩ := loadRange_spec hspans (db.buffers t).increasing
    (Nat.le_of_eq hspans.count.symm) hload
  rw [hload] at hcells hrange
  rw [← hcells, ← hrange] at hspans'
  have hfront' : ∀ c ∈ front ++ (seg.take n).map Cell.deselect, c.selection.selected = false := by
    intro c hc
    rcases List.mem_append.mp hc with hmem | hmem
    · exact hfront c hmem
    · obtain ⟨d, -, rfl⟩ := List.mem_map.mp hmem
      exact d.selected_deselect
  have hpending' : (db.loadType t w).1.pending t = pendingOf (seg.drop n) := by
    rw [pending, hspans'.cells_eq, pendingOf_append, pendingOf_append, pendingOf_eq_nil hfront',
      pendingOf_eq_nil hback, List.nil_append, List.append_nil]
  refine ⟨pendingOf (seg.take n), ?_, ?_, ?_, ?_, ?_, ?_, fun u hu => db.loadType_others w hu⟩
  · rw [hresult]
    exact hemits
  · rw [hpending', ← pendingOf_append, List.take_append_drop, pending, hspans.cells_eq,
      pendingOf_append, pendingOf_append, pendingOf_eq_nil hfront, pendingOf_eq_nil hback,
      List.nil_append, List.append_nil]
  · refine .of_spans hspans' hfront' hback fun c hc => hlast c ?_
    rw [List.getLast?_drop] at hc
    split at hc
    · cases hc
    · exact hc
  · intro hcomplete
    rw [hresult] at hcomplete
    have hnil := hdone hcomplete
    refine ⟨?_, hspans'.invalid hnil⟩
    rw [hpending', hnil]
    rfl
  · intro hincomplete hnil
    rw [hresult] at hincomplete
    obtain ⟨c, hc, hselected, hroom⟩ := hstuck hincomplete hnil
    have hmem : ∀ d ∈ seg, d ∈ (db.buffers t).cells := by
      intro d hd
      rw [hspans.cells_eq]
      exact List.mem_append_left _ (List.mem_append_right _ hd)
    refine ⟨c, hmem c hc, hselected, Nat.lt_of_lt_of_le hroom (c.needed_mono ?_)⟩
    -- the last cell of the range is selected, and no index is above its own
    refine indexTypeFor_le fun d hd hlong => ?_
    have hne := List.ne_nil_of_mem hd
    have hend := List.getLast?_eq_some_getLast hne
    refine ⟨seg.getLast hne, List.mem_filter.mpr ⟨hmem _ (List.getLast_mem hne), hlast _ hend⟩, ?_⟩
    obtain ⟨i, hi⟩ := List.getElem?_of_mem hd
    have hle : d.vIndex.toNat ≤
        (StaticBuffer.vIndexAt (db.buffers t).cells (db.ranges t).stop).toNat :=
      (hspans.vIndex_le (db.buffers t).increasing hi).1
    rw [StaticBuffer.vIndexAt, hspans.getLast? hne, hend] at hle
    rw [UInt16.lt_iff_toNat_lt] at hlong ⊢
    exact Nat.lt_of_lt_of_le hlong hle
  · intro c hc hselected
    rw [hspans'.cells_eq] at hc
    rw [hspans.cells_eq]
    rcases List.mem_append.mp hc with hmem | hmem
    · rcases List.mem_append.mp hmem with hmem | hmem
      · rw [hfront' c hmem] at hselected
        cases hselected
      · exact List.mem_append_left _ (List.mem_append_right _ (List.mem_of_mem_drop hmem))
    · exact List.mem_append_right _ hmem

/-! ## Loading all types -/

/-- No type of the list is loaded when all of its one-byte indices would go under one header. -/
def NoFullRunIn : List StaticType → DatabaseBuffers → HeaderWriter → Prop
  | [], _, _ => True
  | t :: types, db, w =>
    ¬ FullRun (db.buffers t).cells (db.ranges t) w.position.size ∧
      ((db.loadType t w).2.2 = true →
        NoFullRunIn types (db.loadType t w).1 (db.loadType t w).2.1)

/-- What `load` does to the types of a list. -/
structure Loads (types : List StaticType) (db : DatabaseBuffers) (w : HeaderWriter)
    (db' : DatabaseBuffers) (w' : HeaderWriter) (done : Bool)
    (objects : List DecodedObject) : Prop where
  emits : NoFullRunIn types db w → Emits w w' objects
  pending : objects ++ types.flatMap db'.pending = types.flatMap db.pending
  covered : ∀ u, db'.Covered u
  complete : done = true → ∀ u ∈ types, db'.pending u = [] ∧ db'.ranges u = .invalid
  stuck : done = false → NoFullRunIn types db w → objects = [] →
    ∃ u, ∃ c ∈ (db.buffers u).cells, c.selection.selected = true ∧
      w.position.size < c.needed (db.selectedIndexType u)
  selected : ∀ u, ∀ c ∈ (db'.buffers u).cells, c.selection.selected = true →
    c ∈ (db.buffers u).cells
  others : ∀ u ∉ types, db'.buffers u = db.buffers u ∧ db'.ranges u = db.ranges u

theorem Covered.congr {db db' : DatabaseBuffers} {u : StaticType} (h : db.Covered u)
    (hsame : db'.buffers u = db.buffers u ∧ db'.ranges u = db.ranges u) : db'.Covered u := by
  constructor
  · rw [hsame.1, hsame.2]
    exact h.range
  · rw [hsame.1, hsame.2]
    exact h.selected
  · rw [hsame.1, hsame.2]
    exact h.last

theorem pending_congr {db db' : DatabaseBuffers} {u : StaticType}
    (hsame : db'.buffers u = db.buffers u) : db'.pending u = db.pending u := by
  rw [DatabaseBuffers.pending, hsame]
  rfl

/-- With fewer cells selected, indices do not get longer. -/
theorem selectedIndexType_le {db db' : DatabaseBuffers} {u : StaticType}
    (h : ∀ c ∈ (db'.buffers u).cells, c.selection.selected = true → c ∈ (db.buffers u).cells) :
    (db'.selectedIndexType u).SIZE ≤ (db.selectedIndexType u).SIZE := by
  refine indexTypeFor_le fun c hc hlong => ?_
  obtain ⟨hmem, hselected⟩ := List.mem_filter.mp hc
  exact ⟨c, List.mem_filter.mpr ⟨h c hmem hselected, hselected⟩, hlong⟩

/-- Types are loaded one after the other, up to the first for which there is no room. -/
theorem loadTypes_spec {types : List StaticType} (hnodup : types.Nodup) {db : DatabaseBuffers}
    (hcovered : ∀ u, db.Covered u) (w : HeaderWriter) :
    ∃ objects, Loads types db w (loadTypes types db w).1 (loadTypes types db w).2.1
      (loadTypes types db w).2.2 objects := by
  induction types generalizing db w with
  | nil =>
    refine ⟨[], fun _ => .refl w, rfl, hcovered, fun _ u hu => ?_, fun hdone => ?_,
      fun _ _ hc _ => hc, fun _ _ => ⟨rfl, rfl⟩⟩
    · cases hu
    · cases hdone
  | cons t types ih =>
    obtain ⟨hnotMem, hnodup⟩ := List.nodup_cons.mp hnodup
    obtain ⟨objects, h⟩ := loadType_spec (hcovered t) w
    rw [loadTypes]
    rcases hload : db.loadType t w with ⟨db₁, w₁, done⟩
    rw [hload] at h
    have hne : ∀ u ∈ types, u ≠ t := by
      rintro u hu rfl
      exact hnotMem hu
    have hcovered₁ : ∀ u, db₁.Covered u := by
      intro u
      by_cases hu : u = t
      · rw [hu]
        exact h.covered
      · exact (hcovered u).congr (h.others u hu)
    have hpending₁ : types.flatMap db₁.pending = types.flatMap db.pending := by
      refine List.flatMap_congr fun u hu => ?_
      exact pending_congr (h.others u (hne u hu)).1
    cases done with
    | false =>
      refine ⟨objects, ⟨?_, ?_, hcovered₁, fun hdone => ?_, ?_, ?_, ?_⟩⟩
      · intro hrun
        exact h.emits hrun.1
      · rw [List.flatMap_cons, List.flatMap_cons, ← List.append_assoc, h.pending]
        exact congrArg _ hpending₁
      · cases hdone
      · intro _ _ hnil
        obtain ⟨c, hc⟩ := h.stuck rfl hnil
        exact ⟨t, c, hc⟩
      · intro u c hc hselected
        by_cases hu : u = t
        · subst hu
          exact h.selected c hc hselected
        · rwa [← (h.others u hu).1]
      · intro u hu
        exact h.others u fun heq => hu (heq ▸ List.mem_cons_self)
    | true =>
      obtain ⟨objects', h'⟩ := ih hnodup hcovered₁ w₁
      dsimp only
      generalize hrest : loadTypes types db₁ w₁ = rest at h'
      obtain ⟨db₂, w₂, done₂⟩ := rest
      have hsame := h'.others t hnotMem
      have hdone := h.complete rfl
      refine ⟨objects ++ objects', ⟨?_, ?_, h'.covered, ?_, ?_, ?_, ?_⟩⟩
      · rintro ⟨hfull, hrun⟩
        rw [hload] at hrun
        exact (h.emits hfull).trans (h'.emits (hrun rfl))
      · rw [List.flatMap_cons, List.flatMap_cons, pending_congr hsame.1, hdone.1, List.nil_append,
          List.append_assoc, h'.pending, hpending₁, ← h.pending, hdone.1, List.append_nil]
      · intro hcomplete u hu
        rcases List.mem_cons.mp hu with rfl | hmem
        · rw [pending_congr hsame.1, hsame.2]
          exact hdone
        · exact h'.complete hcomplete u hmem
      · rintro hincomplete ⟨hfull, hrun⟩ hnil
        rw [hload] at hrun
        obtain ⟨hobjects, hobjects'⟩ := List.append_eq_nil_iff.mp hnil
        obtain ⟨u, c, hc, hselected, hroom⟩ := h'.stuck hincomplete (hrun rfl) hobjects'
        have hw : w₁ = w := (h.emits hfull).unchanged hobjects
        have hbefore : ∀ d ∈ (db₁.buffers u).cells, d.selection.selected = true →
            d ∈ (db.buffers u).cells := by
          intro d hd hdselected
          by_cases hu : u = t
          · subst hu
            exact h.selected d hd hdselected
          · rwa [← (h.others u hu).1]
        rw [hw] at hroom
        refine ⟨u, c, hbefore c hc hselected, hselected, Nat.lt_of_lt_of_le hroom ?_⟩
        exact c.needed_mono (selectedIndexType_le hbefore)
      · intro u c hc hselected
        have hc₁ := h'.selected u c hc hselected
        by_cases hu : u = t
        · subst hu
          exact h.selected c hc₁ hselected
        · rwa [← (h.others u hu).1]
      · intro u hu
        rw [List.mem_cons, not_or] at hu
        obtain ⟨hbuffer, hrange⟩ := h'.others u hu.2
        obtain ⟨hbuffer₁, hrange₁⟩ := h.others u hu.1
        exact ⟨hbuffer.trans hbuffer₁, hrange.trans hrange₁⟩

/-! ## Updates -/

/-- A call of `Update` for one point. -/
structure PointUpdate where
  type : StaticType
  value : type.Value
  index : UInt16
  mode : EventMode

/-- The database after an update. -/
def applyUpdate (db : DatabaseBuffers) (u : PointUpdate) : DatabaseBuffers :=
  (db.update u.type u.value u.index u.mode).1

/-- What a response depends on is the same in both databases. -/
structure SameSelection (db db' : DatabaseBuffers) : Prop where
  cells : ∀ u, (db'.buffers u).cells.map (fun c => (c.vIndex, c.selection)) =
    (db.buffers u).cells.map fun c => (c.vIndex, c.selection)
  ranges : db'.ranges = db.ranges

theorem SameSelection.refl (db : DatabaseBuffers) : SameSelection db db := ⟨fun _ => rfl, rfl⟩

theorem SameSelection.trans {db db' db'' : DatabaseBuffers} (h : SameSelection db db')
    (h' : SameSelection db' db'') : SameSelection db db'' :=
  ⟨fun u => (h'.cells u).trans (h.cells u), h'.ranges.trans h.ranges⟩

theorem SameSelection.getElem? {db db' : DatabaseBuffers} (h : SameSelection db db')
    {u : StaticType} {i : Nat} {c' : Cell u} (hc : (db'.buffers u).cells[i]? = some c') :
    ∃ c, (db.buffers u).cells[i]? = some c ∧ c.vIndex = c'.vIndex ∧
      c.selection = c'.selection := by
  have hget := congrArg (fun l => l[i]?) (h.cells u)
  simp only [List.getElem?_map, hc, Option.map_some] at hget
  obtain ⟨c, hc, heq⟩ := Option.map_eq_some_iff.mp hget.symm
  rw [Prod.mk.injEq] at heq
  exact ⟨c, hc, heq.1, heq.2⟩

/-- Only the indices and the selections of the cells matter. -/
theorem pendingOf_congr {cells cells' : List (Cell t)}
    (h : cells'.map (fun c => (c.vIndex, c.selection)) =
      cells.map fun c => (c.vIndex, c.selection)) : pendingOf cells' = pendingOf cells := by
  have hfilter (l : List (Cell t)) : pendingOf l =
      ((l.map fun c => (c.vIndex, c.selection)).filter fun p => p.2.selected).map
        fun p => (getStaticWriter t p.2.variation).object p.1 p.2.value := by
    rw [List.filter_map, List.map_map]
    rfl
  rw [hfilter, hfilter, h]

theorem SameSelection.pending {db db' : DatabaseBuffers} (h : SameSelection db db') :
    db'.pending = db.pending :=
  funext fun u => pendingOf_congr (h.cells u)

/-- The ranges hold all selected cells when the selections are the same. -/
theorem SameSelection.covered {db db' : DatabaseBuffers} (h : SameSelection db db')
    {u : StaticType} (hcovered : db.Covered u) : db'.Covered u := by
  have hlen := congrArg List.length (h.cells u)
  rw [List.length_map, List.length_map] at hlen
  constructor
  · rw [h.ranges, hlen]
    exact hcovered.range
  · intro i c' hc' hselected
    obtain ⟨c, hc, -, hselection⟩ := h.getElem? hc'
    rw [h.ranges]
    exact hcovered.selected i c hc (by rwa [hselection])
  · intro hvalid
    rw [h.ranges] at hvalid ⊢
    obtain ⟨c, hc, hselected⟩ := hcovered.last hvalid
    have hget := congrArg (fun l => l[(db.ranges u).stop.toNat]?) (h.cells u)
    simp only [List.getElem?_map, hc, Option.map_some] at hget
    obtain ⟨c', hc', heq⟩ := Option.map_eq_some_iff.mp hget
    rw [Prod.mk.injEq] at heq
    exact ⟨c', hc', by rwa [heq.2]⟩

/-- An update does not change what is selected. -/
theorem sameSelection_update (db : DatabaseBuffers) (t : StaticType) (value : t.Value)
    (index : UInt16) (mode : EventMode) :
    SameSelection db (db.update t value index mode).1 := by
  rw [update]
  split
  · exact ⟨fun _ => rfl, rfl⟩
  · split
    · refine ⟨fun u => ?_, rfl⟩
      dsimp only [updateAt, setBuffer]
      by_cases hu : u = t
      · subst hu
        rw [Function.update_self]
        refine List.ext_getElem? fun i => ?_
        rw [List.getElem?_map, List.getElem?_map, StaticBuffer.getElem?_updateRange]
        split
        · rw [Option.map_map]
          cases (db.buffers u).cells[i]? with
          | none => rfl
          | some c => rfl
        · rfl
      · rw [Function.update_of_ne hu]
    · exact .refl db

theorem sameSelection_updates (db : DatabaseBuffers) (updates : List PointUpdate) :
    SameSelection db (updates.foldl applyUpdate db) := by
  induction updates generalizing db with
  | nil => exact .refl db
  | cons u updates ih =>
    have hfirst := db.sameSelection_update u.type u.value u.index u.mode
    exact hfirst.trans (ih (db.applyUpdate u))

/-! ## Responses -/

/-- A fragment: what is updated before it is written, and the memory it is written to. -/
structure Fragment where
  updates : List PointUpdate
  memory : List UInt8

/-- The fragments of a response, and the database after the last one. -/
structure Response where
  db : DatabaseBuffers
  fragments : List (List UInt8)
  complete : Bool

/-- The database and the writer when a fragment is loaded. -/
def before (db : DatabaseBuffers) (f : Fragment) : DatabaseBuffers × HeaderWriter :=
  (f.updates.foldl applyUpdate db, .ofSlice (.ofMemory f.memory))

/-- Load fragments until everything is written. -/
def respond (db : DatabaseBuffers) : List Fragment → Response
  | [] => { db := db, fragments := [], complete := false }
  | f :: fs =>
    match (db.before f).1.load (db.before f).2 with
    | (db, w, true) => { db := db, fragments := [w.position.written], complete := true }
    | (db, w, false) =>
      let rest := respond db fs
      { rest with fragments := w.position.written :: rest.fragments }

/-- At no step of the response all one-byte indices of a type go under one header. -/
def NoFullRun (db : DatabaseBuffers) : List Fragment → Prop
  | [] => True
  | f :: fs =>
    NoFullRunIn StaticType.all (db.before f).1 (db.before f).2 ∧
      (((db.before f).1.load (db.before f).2).2.2 = false →
        NoFullRun ((db.before f).1.load (db.before f).2).1 fs)

/-- All objects that are still to be written. -/
def pendingAll (db : DatabaseBuffers) : List DecodedObject := StaticType.all.flatMap db.pending

theorem written_ofMemory (memory : List UInt8) :
    (HeaderWriter.ofSlice (.ofMemory memory)).position.written = [] := rfl

/-- Fragments are decoded one after the other. -/
theorem decodeFragments_cons {bytes : List UInt8} {fragments : List (List UInt8)}
    {objects objects' : List DecodedObject} (h : Parses bytes objects)
    (h' : decodeFragments fragments = some objects') :
    decodeFragments (bytes :: fragments) = some (objects ++ objects') := by
  obtain ⟨parts, hparts, hflat⟩ := Option.map_eq_some_iff.mp h'
  rw [decodeFragments, List.mapM_cons, h.decodeFragment, hparts]
  show some (objects :: parts).flatten = _
  rw [List.flatten_cons, hflat]

theorem nodup_all : StaticType.all.Nodup := by decide

theorem sameSelection_before (db : DatabaseBuffers) (f : Fragment) :
    SameSelection db (db.before f).1 := db.sameSelection_updates f.updates

theorem pendingAll_before (db : DatabaseBuffers) (f : Fragment) :
    (db.before f).1.pendingAll = db.pendingAll := by
  rw [pendingAll, (db.sameSelection_before f).pending]
  rfl

/-- The fragments say the pending objects, as far as they go. -/
theorem respond_spec {db : DatabaseBuffers} (hcovered : ∀ u, db.Covered u) {fs : List Fragment}
    (hrun : db.NoFullRun fs) :
    ∃ objects, decodeFragments (db.respond fs).fragments = some objects ∧
      objects ++ (db.respond fs).db.pendingAll = db.pendingAll ∧
      ((db.respond fs).complete = true →
        ∀ u, (db.respond fs).db.pending u = [] ∧ (db.respond fs).db.ranges u = .invalid) := by
  induction fs generalizing db with
  | nil => exact ⟨[], rfl, rfl, fun hcomplete => by cases hcomplete⟩
  | cons f fs ih =>
    obtain ⟨hrun, hrest⟩ := hrun
    obtain ⟨objects, h⟩ := loadTypes_spec nodup_all
      (fun u => (db.sameSelection_before f).covered (hcovered u)) (db.before f).2
    have hpending : objects ++ (loadTypes StaticType.all (db.before f).1
        (db.before f).2).1.pendingAll = db.pendingAll := h.pending.trans (db.pendingAll_before f)
    obtain ⟨bytes, hw, hparses⟩ := (h.emits hrun).written
    rw [show (db.before f).2.position.written = [] from written_ofMemory f.memory,
      List.nil_append] at hw
    rw [respond]
    rw [load] at hrest ⊢
    rcases hload : loadTypes StaticType.all (db.before f).1 (db.before f).2 with ⟨db₁, w₁, done⟩
    rw [hload] at h hw hpending hrest
    cases done with
    | true =>
      refine ⟨objects, ?_, hpending, fun _ u => h.complete rfl u u.mem_all⟩
      have hlast := decodeFragments_cons hparses (show decodeFragments [] = some [] from rfl)
      rw [List.append_nil, ← hw] at hlast
      exact hlast
    | false =>
      obtain ⟨objects', hdecode, hpending', hcomplete⟩ := ih h.covered (hrest rfl)
      refine ⟨objects ++ objects', ?_, ?_, hcomplete⟩
      · have hall := decodeFragments_cons hparses hdecode
        rw [← hw] at hall
        exact hall
      · rw [List.append_assoc]
        exact (congrArg (objects ++ ·) hpending').trans hpending

/-- Every selected cell has room in a fragment of this size. -/
def Roomy (db : DatabaseBuffers) (room : Nat) : Prop :=
  ∀ u, ∀ c ∈ (db.buffers u).cells, c.selection.selected = true →
    c.needed (db.selectedIndexType u) ≤ room

theorem SameSelection.selectedIndexType {db db' : DatabaseBuffers} (h : SameSelection db db')
    (u : StaticType) : db'.selectedIndexType u = db.selectedIndexType u := by
  have hany (l : List (Cell u)) : ((l.filter fun c => c.selection.selected).any
      fun c => decide (255 < c.vIndex)) = ((l.map fun c => (c.vIndex, c.selection)).any
        fun p => p.2.selected && decide (255 < p.1)) := by
    rw [List.any_filter, List.any_map]
    rfl
  rw [DatabaseBuffers.selectedIndexType, DatabaseBuffers.selectedIndexType, indexTypeFor,
    indexTypeFor, hany, hany, h.cells u]

theorem SameSelection.roomy {db db' : DatabaseBuffers} (h : SameSelection db db') {room : Nat}
    (hroom : db.Roomy room) : db'.Roomy room := by
  intro u c' hc' hselected
  obtain ⟨i, hi⟩ := List.getElem?_of_mem hc'
  obtain ⟨c, hc, -, hselection⟩ := h.getElem? hi
  have hneeded := hroom u c (List.mem_of_getElem? hc) (by rwa [hselection])
  rwa [Cell.needed, hselection, ← h.selectedIndexType u] at hneeded

/-- With room for an object in every fragment, each fragment says at least one, so there are not
more fragments than objects, and one. -/
theorem respond_complete {db : DatabaseBuffers} (hcovered : ∀ u, db.Covered u)
    {fs : List Fragment} (hrun : db.NoFullRun fs) (hroom : ∀ f ∈ fs, db.Roomy f.memory.length)
    (hmany : db.pendingAll.length < fs.length) : (db.respond fs).complete = true := by
  induction fs generalizing db with
  | nil => exact absurd hmany (Nat.not_lt_zero _)
  | cons f fs ih =>
    obtain ⟨hrun, hrest⟩ := hrun
    obtain ⟨objects, h⟩ := loadTypes_spec nodup_all
      (fun u => (db.sameSelection_before f).covered (hcovered u)) (db.before f).2
    have hpending : objects ++ (loadTypes StaticType.all (db.before f).1
        (db.before f).2).1.pendingAll = db.pendingAll := h.pending.trans (db.pendingAll_before f)
    rw [respond]
    rw [load] at hrest ⊢
    rcases hload : loadTypes StaticType.all (db.before f).1 (db.before f).2 with ⟨db₁, w₁, done⟩
    rw [hload] at h hpending hrest
    cases done with
    | true => rfl
    | false =>
      have hsome : objects ≠ [] := by
        intro hnil
        obtain ⟨u, c, hc, hselected, hsmall⟩ := h.stuck rfl hrun hnil
        have hfits :=
          (db.sameSelection_before f).roomy (hroom f List.mem_cons_self) u c hc hselected
        exact absurd hsmall (Nat.not_lt.mpr hfits)
      have hpos := List.length_pos_iff.mpr hsome
      have hlen : objects.length + db₁.pendingAll.length = db.pendingAll.length := by
        rw [← List.length_append]
        exact congrArg List.length hpending
      rw [List.length_cons] at hmany
      refine ih h.covered (hrest rfl) ?_ (by omega)
      intro g hg u c hc hselected
      have hfits := (db.sameSelection_before f).roomy (hroom g (List.mem_cons_of_mem f hg)) u c
        (h.selected u c hc hselected) hselected
      exact Nat.le_trans (c.needed_mono (selectedIndexType_le (h.selected u))) hfits

end DatabaseBuffers
end Outstation
end Dnp3
