import Dnp3.Library.Runs
import Dnp3.Outstation.EventBuffer

/-!
# The counts of the event buffer

When the counts of a buffer are *exact*, the total, selected and written counts are the numbers of
records, of selected records and of written records, in total and for every type and class; nothing
has been decremented at zero, no difference has wrapped, and only selected records are written.

Every operation but selecting keeps the counts exact.  The selectors count how many matching records
are left to select, but go through the matching records from the front, selected or not; so they
keep the counts exact when the matching records they come to are not yet selected, and count a
record twice when they select it again.
-/

namespace Dnp3
namespace Outstation

open Library App Openpal

/-! ## Exact counts -/

/-- The key covers the record. -/
def CountKey.coversRecord (k : CountKey) (r : SOERecord) : Bool := k.covers r.clazz r.type

/-- The counts are the numbers of records that satisfy `p`, and have never wrapped. -/
structure EventCount.Counts (c : EventCount) (p : SOERecord → Bool)
    (l : List SOERecord) : Prop where
  tallies : Tallies CountKey.coversRecord p (fun k => (c.get k).toNat) l
  underflow : c.underflow = false

namespace EventCount.Counts

variable {c : EventCount} {p : SOERecord → Bool} {r r' : SOERecord} {l xs ys : List SOERecord}

theorem initial (p : SOERecord → Bool) : EventCount.initial.Counts p [] where
  tallies k := by
    show (EventCount.initial.get k).toNat = _
    rw [EventCount.get_initial, List.countP_nil]
    rfl
  underflow := rfl

/-- Records change, but nothing that is counted. -/
theorem of_map_eq (h : c.Counts p l)
    (hl : xs.map (fun r => (r.clazz, r.type, p r)) = l.map fun r => (r.clazz, r.type, p r)) :
    c.Counts p xs where
  tallies := h.tallies.of_map_eq (fun hg => by
    simp only [Prod.mk.injEq] at hg
    obtain ⟨hclass, htype, hp⟩ := hg
    exact ⟨hp, fun k => by rw [CountKey.coversRecord, CountKey.coversRecord, hclass, htype]⟩) hl
  underflow := h.underflow

/-- Incrementing for a record adds its contribution. -/
theorem toNat_get_increment (hp : p r = true) (hlt : ∀ k, (c.get k).toNat + 1 < 2 ^ 32)
    (k : CountKey) : ((c.increment r.clazz r.type).get k).toNat =
      (c.get k).toNat + weight CountKey.coversRecord p r k := by
  rw [EventCount.get_increment, weight, hp, Bool.true_and, CountKey.coversRecord]
  split
  · rw [UInt32.toNat_add]
    exact Nat.mod_eq_of_lt (hlt k)
  · rfl

/-- Decrementing for a record that is counted takes its contribution away. -/
theorem toNat_get_decrement (h : c.Counts p (xs ++ r :: ys)) (hp : p r = true) (k : CountKey) :
    ((c.decrement r.clazz r.type).get k).toNat + weight CountKey.coversRecord p r k =
      (c.get k).toNat := by
  have hle := h.tallies.weight_le k
  rw [weight, hp, Bool.true_and, CountKey.coversRecord] at hle ⊢
  rw [EventCount.get_decrement]
  split at hle
  · rename_i hcovers
    have hone : (1 : UInt32) ≤ c.get k := UInt32.le_iff_toNat_le.mpr hle
    rw [if_pos hcovers, if_pos hcovers, UInt32.toNat_sub_of_le _ _ hone]
    exact Nat.sub_add_cancel hle
  · rename_i hcovers
    rw [if_neg hcovers, if_neg hcovers, Nat.add_zero]

theorem underflow_decrement (h : c.Counts p (xs ++ r :: ys)) (hp : p r = true) :
    (c.decrement r.clazz r.type).underflow = false := by
  rw [EventCount.underflow_decrement, h.underflow]
  intro k hk
  have hle := h.tallies.weight_le k
  rw [weight, hp, Bool.true_and, CountKey.coversRecord, if_pos hk] at hle
  exact hle

/-- A record begins to be counted. -/
theorem set_true (h : c.Counts p (xs ++ r :: ys)) (r' : SOERecord) (hclass : r'.clazz = r.clazz)
    (htype : r'.type = r.type) (hp : p r = false) (hp' : p r' = true)
    (hlen : (xs ++ r :: ys).length < 2 ^ 32) :
    (c.increment r.clazz r.type).Counts p (xs ++ r' :: ys) := by
  have hweight : ∀ k, weight CountKey.coversRecord p r k = 0 := fun k => by
    rw [weight, hp, Bool.false_and]
    rfl
  have hlt : ∀ k, (c.get k).toNat + 1 < 2 ^ 32 := by
    intro k
    have htallies := tallies_middle.mp h.tallies k
    have hcount := List.countP_le_length (p := fun a => p a && CountKey.coversRecord k a)
      (l := xs ++ ys)
    simp only [List.length_append, List.length_cons] at hlen hcount
    rw [hweight] at htallies
    omega
  refine ⟨h.tallies.set fun k => ?_, h.underflow⟩
  have hinc := toNat_get_increment (r := r') (p := p) (c := c) hp' hlt k
  rw [hclass, htype] at hinc
  rw [hinc, hweight, Nat.add_zero]

/-- A record ceases to be counted, if it was. -/
theorem set_false (h : c.Counts p (xs ++ r :: ys)) (r' : SOERecord) (hp' : p r' = false) :
    (c.decrementIf (p r) r.clazz r.type).Counts p (xs ++ r' :: ys) := by
  have hweight : ∀ k, weight CountKey.coversRecord p r' k = 0 := fun k => by
    rw [weight, hp', Bool.false_and]
    rfl
  cases hp : p r with
  | true =>
    refine ⟨h.tallies.set fun k => ?_, h.underflow_decrement hp⟩
    rw [hweight, Nat.add_zero]
    exact h.toNat_get_decrement hp k
  | false =>
    refine ⟨h.tallies.set fun k => ?_, h.underflow⟩
    rw [hweight, weight, hp, Bool.false_and]
    rfl

/-- A record is removed; it was counted, or not. -/
theorem remove (h : c.Counts p (xs ++ r :: ys)) :
    (c.decrementIf (p r) r.clazz r.type).Counts p (xs ++ ys) := by
  cases hp : p r with
  | true =>
    exact ⟨h.tallies.remove fun k => h.toNat_get_decrement hp k, h.underflow_decrement hp⟩
  | false =>
    refine ⟨h.tallies.remove fun k => ?_, h.underflow⟩
    rw [weight, hp, Bool.false_and]
    rfl

/-- A record that is counted is appended. -/
theorem concat_true (h : c.Counts p l) (hp : p r = true) (hlen : l.length + 1 < 2 ^ 32) :
    (c.increment r.clazz r.type).Counts p (l ++ [r]) := by
  refine ⟨h.tallies.concat fun k => ?_, h.underflow⟩
  refine toNat_get_increment hp (fun k => ?_) k
  have hle := h.tallies.le_length k
  omega

/-- A record that is not counted is appended. -/
theorem concat_false (h : c.Counts p l) (hp : p r = false) : c.Counts p (l ++ [r]) := by
  refine ⟨h.tallies.concat fun k => ?_, h.underflow⟩
  rw [weight, hp, Bool.false_and]
  rfl

end EventCount.Counts

/-! ## The loops -/

section Loops

variable {c : EventCount} {front l l' : List SOERecord}

/-- Resetting a record takes it out of the selected and the written counts. -/
theorem total_decrementIf (counted : Bool) (clazz : EventClass) (type : EventType)
    (h : counted = true → 0 < c.total.toNat) :
    (c.decrementIf counted clazz type).total.toNat = c.total.toNat - counted.toNat := by
  cases counted with
  | true =>
    have hone : (1 : UInt32) ≤ c.total := UInt32.le_iff_toNat_le.mpr (h rfl)
    exact UInt32.toNat_sub_of_le _ _ hone
  | false => rfl

/-- A record that is neither selected nor written is its own reset. -/
theorem SOERecord.reset_eq {r : SOERecord} (hs : r.selected = false) (hw : r.written = false) :
    r.reset = r := by
  cases r
  cases hs
  cases hw
  rfl

/-- The loop of `Unselect` resets all records, when it does not count fewer selected records than
there are. -/
theorem unselectRecords_records {s w : EventCount}
    (hs : l.countP SOERecord.selected ≤ s.total.toNat)
    (hws : ∀ r ∈ l, r.written = true → r.selected = true) :
    (unselectRecords l s w).records = l.map SOERecord.reset := by
  induction l generalizing s w with
  | nil => rfl
  | cons r rs ih =>
    have hws' : ∀ r ∈ rs, r.written = true → r.selected = true := fun r' hr' =>
      hws r' (List.mem_cons_of_mem r hr')
    have hcount : rs.countP SOERecord.selected + r.selected.toNat ≤ s.total.toNat := by
      rw [List.countP_cons] at hs
      cases hsel : r.selected <;> rw [hsel] at hs <;> exact hs
    have htotal := total_decrementIf (c := s) r.selected r.clazz r.type fun hsel => by
      rw [hsel] at hcount
      exact Nat.lt_of_lt_of_le (Nat.succ_pos _) hcount
    simp only [unselectRecords]
    split
    · rw [ih (by omega) hws', List.map_cons]
    · -- no record is left that is selected, and so none that is written
      rename_i hzero
      have hnone : rs.countP SOERecord.selected = 0 := by
        have : (s.decrementIf r.selected r.clazz r.type).total.toNat = 0 := by
          rw [gt_iff_lt, UInt32.lt_iff_toNat_lt] at hzero
          exact Nat.eq_zero_of_not_pos hzero
        omega
      have hreset : rs.map SOERecord.reset = rs := by
        refine (List.map_congr_left fun r' hr' => ?_).trans (List.map_id rs)
        have hsel : r'.selected = false := by
          simpa using List.countP_eq_zero.mp hnone r' hr'
        refine SOERecord.reset_eq hsel ?_
        cases hw : r'.written with
        | false => rfl
        | true =>
          rw [hws' r' hr' hw] at hsel
          cases hsel
      rw [List.map_cons, hreset]

theorem unselectRecords_counts {s w : EventCount}
    (hs : s.Counts SOERecord.selected (front ++ l)) (hw : w.Counts SOERecord.written (front ++ l)) :
    (unselectRecords l s w).selectedCounts.Counts SOERecord.selected
        (front ++ (unselectRecords l s w).records) ∧
      (unselectRecords l s w).writtenCounts.Counts SOERecord.written
        (front ++ (unselectRecords l s w).records) := by
  induction l generalizing front s w with
  | nil => exact ⟨hs, hw⟩
  | cons r rs ih =>
    have hs' := hs.set_false r.reset rfl
    have hw' := hw.set_false r.reset rfl
    simp only [unselectRecords]
    split
    · rw [List.append_cons] at hs' hw' ⊢
      exact ih hs' hw'
    · exact ⟨hs', hw'⟩

/-- The loop of the selectors changes the first records that match. -/
theorem selectRecords_records (isMatch : SOERecord → Bool) (select : SOERecord → SOERecord)
    {remaining max num n : Nat} (h : min remaining max = num + n) :
    (selectRecords isMatch select remaining max num c l).1 = modifyFirst isMatch select n l := by
  induction l generalizing num n c with
  | nil => rw [modifyFirst_nil, selectRecords]
  | cons r rs ih =>
    simp only [selectRecords]
    cases n with
    | zero => rw [if_neg (by omega), modifyFirst_zero]
    | succ n =>
      rw [if_pos (by omega)]
      cases hr : isMatch r with
      | true => rw [if_pos rfl, modifyFirst_pos n rs hr, ih (n := n) (by omega)]
      | false =>
        rw [if_neg (by exact Bool.false_ne_true), modifyFirst_neg (n + 1) rs hr, ih h]

/-- The selectors count exactly the records they select, when these are not yet selected. -/
theorem selectRecords_counts {isMatch : SOERecord → Bool} {select : SOERecord → SOERecord}
    (hclass : ∀ r, (select r).clazz = r.clazz) (htype : ∀ r, (select r).type = r.type)
    (hselect : ∀ r, (select r).selected = true) {remaining max num n : Nat}
    (h : min remaining max = num + n)
    (hfresh : ∀ r ∈ (l.filter isMatch).take n, r.selected = false)
    (hc : c.Counts SOERecord.selected (front ++ l)) (hlen : (front ++ l).length < 2 ^ 32) :
    (selectRecords isMatch select remaining max num c l).2.Counts SOERecord.selected
      (front ++ (selectRecords isMatch select remaining max num c l).1) := by
  induction l generalizing front num n c with
  | nil => exact hc
  | cons r rs ih =>
    simp only [selectRecords]
    cases n with
    | zero =>
      rw [if_neg (by omega)]
      exact hc
    | succ n =>
      rw [if_pos (by omega)]
      cases hr : isMatch r with
      | true =>
        rw [List.filter_cons_of_pos hr, List.take_succ_cons] at hfresh
        have hc' := hc.set_true (select r) (hclass r) (htype r) (hfresh r List.mem_cons_self)
          (hselect r) hlen
        rw [if_pos rfl, List.append_cons]
        rw [List.append_cons] at hc'
        refine ih (by omega) (fun r' hr' => hfresh r' (List.mem_cons_of_mem r hr')) hc' ?_
        simpa using hlen
      | false =>
        rw [List.filter_cons_of_neg (by rw [hr]; exact Bool.false_ne_true)] at hfresh
        rw [if_neg (by exact Bool.false_ne_true), List.append_cons]
        rw [List.append_cons] at hc hlen
        exact ih h hfresh hc hlen

end Loops

namespace EventWriter.Marks

variable {c c' d : EventCount} {front l l' : List SOERecord}

/-- What does not depend on being written is not changed. -/
theorem map_eq {β : Type} {f : SOERecord → β} (h : Marks c l c' l')
    (hf : ∀ r, f r.markWritten = f r) : l'.map f = l.map f := by
  induction h with
  | nil => rfl
  | keep r _ ih => rw [List.map_cons, ih, List.map_cons]
  | mark r _ _ _ ih => rw [List.map_cons, ih, List.map_cons, hf]

theorem counts (h : Marks c l c' l') (hc : c.Counts SOERecord.written (front ++ l))
    (hlen : (front ++ l).length < 2 ^ 32) : c'.Counts SOERecord.written (front ++ l') := by
  induction h generalizing front with
  | nil => exact hc
  | keep r _ ih =>
    rw [List.append_cons] at hc hlen ⊢
    exact ih hc hlen
  | mark r _ hw _ ih =>
    have hc' := hc.set_true r.markWritten rfl rfl hw rfl hlen
    rw [List.append_cons] at hc' ⊢
    refine ih hc' ?_
    simpa using hlen

theorem written_selected (h : Marks c l c' l')
    (hl : ∀ r ∈ l, r.written = true → r.selected = true) :
    ∀ r ∈ l', r.written = true → r.selected = true := by
  induction h with
  | nil => exact hl
  | keep r _ ih =>
    rw [List.forall_mem_cons] at hl ⊢
    exact ⟨hl.1, ih hl.2⟩
  | mark r hs _ _ ih =>
    rw [List.forall_mem_cons] at hl ⊢
    exact ⟨fun _ => hs, ih hl.2⟩

end EventWriter.Marks

/-- The counts of the buffer are those of its records. -/
structure EventBuffer.Exact (b : EventBuffer) : Prop where
  total : b.totalCounts.Counts (fun _ => true) b.records
  selected : b.selectedCounts.Counts SOERecord.selected b.records
  written : b.writtenCounts.Counts SOERecord.written b.records
  written_selected : ∀ r ∈ b.records, r.written = true → r.selected = true
  wrapped : b.wrapped = false

namespace EventBuffer

/-! ## What a selection counts -/

namespace EventSelection

/-- The records that match. -/
def isMatch : EventSelection → SOERecord → Bool
  | byType s, r => r.type == s.type
  | byClass field, r => field.hasEventType r.clazz

/-- How a record is selected. -/
def select : EventSelection → SOERecord → SOERecord
  | byType s, r => r.select s
  | byClass _, r => r.selectDefault

/-- The counter of the records that match. -/
def count : EventSelection → EventCount → UInt32
  | byType s, c => c.numOfType s.type
  | byClass field, c => c.numOfField field

@[simp] theorem clazz_select (s : EventSelection) (r : SOERecord) :
    (s.select r).clazz = r.clazz := by
  cases s <;> rfl

@[simp] theorem type_select (s : EventSelection) (r : SOERecord) : (s.select r).type = r.type := by
  cases s with
  | byType s => exact r.type_select s
  | byClass field => exact r.type_selectDefault

@[simp] theorem selected_select (s : EventSelection) (r : SOERecord) :
    (s.select r).selected = true := by
  cases s <;> rfl

@[simp] theorem written_select (s : EventSelection) (r : SOERecord) :
    (s.select r).written = r.written := by
  cases s <;> rfl

@[simp] theorem isMatch_select (s t : EventSelection) (r : SOERecord) :
    s.isMatch (t.select r) = s.isMatch r := by
  cases s with
  | byType s => simp only [isMatch, type_select]
  | byClass field => simp only [isMatch, clazz_select]

/-- The records of a set of classes, class by class. -/
theorem countP_hasEventType (field : ClassField) (p : SOERecord → Bool) (l : List SOERecord) :
    (l.countP fun r => p r && field.hasEventType r.clazz) =
      (if field.hasClass1 then l.countP fun r => p r && r.clazz == .ec1 else 0) +
        (if field.hasClass2 then l.countP fun r => p r && r.clazz == .ec2 else 0) +
        (if field.hasClass3 then l.countP fun r => p r && r.clazz == .ec3 else 0) := by
  unfold ClassField.hasEventType
  generalize field.hasClass1 = c1
  generalize field.hasClass2 = c2
  generalize field.hasClass3 = c3
  induction l with
  | nil => cases c1 <;> cases c2 <;> cases c3 <;> rfl
  | cons r l ih =>
    simp only [List.countP_cons, ih]
    cases r.clazz <;> cases p r <;> cases c1 <;> cases c2 <;> cases c3 <;> simp <;> omega

/-- The counter of a selection is the number of records that match. -/
theorem toNat_count (s : EventSelection) {c : EventCount} {p : SOERecord → Bool}
    {l : List SOERecord} (h : c.Counts p l) (hlen : l.length < 2 ^ 32) :
    (s.count c).toNat = l.countP fun r => p r && s.isMatch r := by
  cases s with
  | byType s => exact h.tallies (.ofType s.type)
  | byClass field =>
    have hle := List.countP_le_length (p := fun r => p r && field.hasEventType r.clazz) (l := l)
    have hsum := countP_hasEventType field p l
    have h1 : (c.numOfClass .ec1).toNat = l.countP fun r => p r && r.clazz == .ec1 :=
      h.tallies (.ofClass .ec1)
    have h2 : (c.numOfClass .ec2).toNat = l.countP fun r => p r && r.clazz == .ec2 :=
      h.tallies (.ofClass .ec2)
    have h3 : (c.numOfClass .ec3).toNat = l.countP fun r => p r && r.clazz == .ec3 :=
      h.tallies (.ofClass .ec3)
    show (c.numOfField field).toNat = l.countP fun r => p r && field.hasEventType r.clazz
    have hite : ∀ (b : Bool) (n : UInt32),
        (if b then n else 0).toNat = if b then n.toNat else 0 := by
      intro b n
      cases b <;> rfl
    rw [hsum, ← h1, ← h2, ← h3] at hle ⊢
    rw [EventCount.numOfField, UInt32.toNat_add, UInt32.toNat_add, hite, hite, hite]
    omega

end EventSelection

/-- Both selectors. -/
def selectEvents (b : EventBuffer) (s : EventSelection) (max : UInt32) : EventBuffer :=
  b.selectMatching (s.count b.totalCounts) (s.count b.selectedCounts) s.isMatch s.select max

theorem selectByType_eq (b : EventBuffer) (s : TypeSelection) (max : UInt32) :
    b.selectByType s max = b.selectEvents (.byType s) max := rfl

theorem selectByClass_eq (b : EventBuffer) (field : ClassField) (max : UInt32) :
    b.selectByClass field max = b.selectEvents (.byClass field) max := rfl

theorem selectMaxCount_eq (b : EventBuffer) (gv : GroupVariation) (max : UInt32) :
    (b.selectMaxCount gv max).1 =
      match eventSelection gv with
      | some s => b.selectEvents s max
      | none => b := by
  unfold selectMaxCount
  rcases eventSelection gv with - | - | - <;> rfl

/-- The number of matching records that are not selected. -/
def unselected (b : EventBuffer) (s : EventSelection) : Nat :=
  b.records.countP fun r => s.isMatch r && !r.selected

theorem countP_split (q : SOERecord → Bool) (l : List SOERecord) :
    (l.countP fun r => q r) =
      (l.countP fun r => r.selected && q r) + l.countP fun r => q r && !r.selected := by
  induction l with
  | nil => rfl
  | cons r l ih =>
    simp only [List.countP_cons, ih]
    cases q r <;> cases r.selected <;> simp <;> omega

/-- The difference the selectors compute. -/
theorem Exact.remaining {b : EventBuffer} (h : b.Exact) (s : EventSelection) :
    s.count b.selectedCounts ≤ s.count b.totalCounts ∧
      (s.count b.totalCounts - s.count b.selectedCounts).toNat = b.unselected s := by
  have hlen := b.length_records_lt
  have htotal := s.toNat_count h.total hlen
  have hselected := s.toNat_count h.selected hlen
  simp only [Bool.true_and] at htotal
  have hsplit := countP_split s.isMatch b.records
  have hle : s.count b.selectedCounts ≤ s.count b.totalCounts := by
    rw [UInt32.le_iff_toNat_le]
    omega
  refine ⟨hle, ?_⟩
  rw [UInt32.toNat_sub_of_le _ _ hle, unselected]
  omega

/-! ## The operations -/

/-- The records to which a selector comes are not yet selected: the first `min(max, k)` records that
match, where `k` of the records that match are not selected. -/
def Fresh (b : EventBuffer) (s : EventSelection) (max : Nat) : Prop :=
  ∀ r ∈ (b.records.filter s.isMatch).take (min max (b.unselected s)), r.selected = false

theorem exact_initial (config : EventBufferConfig) : (initial config).Exact where
  total := .initial _
  selected := .initial _
  written := .initial _
  written_selected := fun r hr => by cases hr
  wrapped := rfl

/-- Both selectors change the first records that match. -/
theorem records_selectEvents (b : EventBuffer) (s : EventSelection) (max : UInt32) :
    (b.selectEvents s max).records = modifyFirst s.isMatch s.select
      (min (s.count b.totalCounts - s.count b.selectedCounts).toNat max.toNat) b.records :=
  selectRecords_records _ _ (Nat.zero_add _).symm

/-- Both selectors keep the counts exact on fresh records. -/
theorem Exact.selectEvents {b : EventBuffer} (h : b.Exact) (s : EventSelection) (max : UInt32)
    (hfresh : b.Fresh s max.toNat) : (b.selectEvents s max).Exact := by
  obtain ⟨hle, hremaining⟩ := h.remaining s
  have hkeep : ∀ {β : Type} {g : SOERecord → β}, (∀ r, g (s.select r) = g r) →
      (b.selectEvents s max).records.map g = b.records.map g := by
    intro β g hg
    rw [records_selectEvents]
    exact map_modifyFirst hg _ _
  refine ⟨h.total.of_map_eq (hkeep fun r => ?_), ?_, h.written.of_map_eq (hkeep fun r => ?_),
    ?_, ?_⟩
  · rw [s.clazz_select, s.type_select]
  · have hnum : min (s.count b.totalCounts - s.count b.selectedCounts).toNat max.toNat =
        0 + min max.toNat (b.unselected s) := by
      rw [hremaining, Nat.zero_add, Nat.min_comm]
    have hselected : b.selectedCounts.Counts SOERecord.selected ([] ++ b.records) := h.selected
    exact selectRecords_counts s.clazz_select s.type_select s.selected_select hnum hfresh hselected
      b.length_records_lt
  · rw [s.clazz_select, s.type_select, s.written_select]
  · intro r hr hw
    rw [records_selectEvents] at hr
    rcases mem_modifyFirst hr with hr | ⟨r', hr', -, rfl⟩
    · exact h.written_selected r hr hw
    · exact s.selected_select r'
  · show (b.wrapped || decide (s.count b.totalCounts < s.count b.selectedCounts)) = false
    rw [h.wrapped, Bool.false_or, decide_eq_false_iff_not, UInt32.not_lt]
    exact hle

theorem Exact.load {b : EventBuffer} (h : b.Exact) (writer : HeaderWriter) :
    (b.load writer).1.Exact := by
  have hmarks := EventWriter.write_spec writer b.selectedCounts b.writtenCounts b.records
  have hwritten : b.writtenCounts.Counts SOERecord.written ([] ++ b.records) := h.written
  refine ⟨h.total.of_map_eq (hmarks.map_eq fun _ => rfl),
    h.selected.of_map_eq (hmarks.map_eq fun _ => rfl), ?_,
    hmarks.written_selected h.written_selected, h.wrapped⟩
  exact hmarks.counts hwritten b.length_records_lt

theorem Exact.unselect {b : EventBuffer} (h : b.Exact) : b.unselect.Exact := by
  have hselected : b.selectedCounts.Counts SOERecord.selected ([] ++ b.records) := h.selected
  have hwritten : b.writtenCounts.Counts SOERecord.written ([] ++ b.records) := h.written
  obtain ⟨hs, hw⟩ := unselectRecords_counts hselected hwritten
  have hcount : b.records.countP SOERecord.selected ≤ b.selectedCounts.total.toNat := by
    have := h.selected.tallies .all
    simp only [CountKey.coversRecord, CountKey.covers, Bool.and_true] at this
    exact Nat.le_of_eq this.symm
  have hrecords : b.unselect.records = b.records.map SOERecord.reset :=
    unselectRecords_records hcount h.written_selected
  refine ⟨h.total.of_map_eq ?_, hs, hw, ?_, h.wrapped⟩
  · rw [hrecords, List.map_map]
    rfl
  · intro r hr hwr
    rw [hrecords, List.mem_map] at hr
    obtain ⟨r', -, rfl⟩ := hr
    cases hwr

/-- The three counts of the buffer are those of a list. -/
structure CountsOf (b : EventBuffer) (l : List SOERecord) : Prop where
  total : b.totalCounts.Counts (fun _ => true) l
  selected : b.selectedCounts.Counts SOERecord.selected l
  written : b.writtenCounts.Counts SOERecord.written l

theorem CountsOf.removeFromCounts {b : EventBuffer} {r : SOERecord} {xs ys : List SOERecord}
    (h : b.CountsOf (xs ++ r :: ys)) : (b.removeFromCounts r).CountsOf (xs ++ ys) :=
  ⟨h.total.remove, h.selected.remove, h.written.remove⟩

/-- The records that are written are taken out of the counts. -/
theorem CountsOf.foldl_removeFromCounts {b : EventBuffer} {front l : List SOERecord}
    (h : b.CountsOf (front ++ l)) :
    ((l.filter SOERecord.written).foldl EventBuffer.removeFromCounts b).CountsOf
      (front ++ l.filter fun r => !r.written) := by
  induction l generalizing b front with
  | nil => exact h
  | cons r rs ih =>
    cases hw : r.written with
    | true =>
      rw [List.filter_cons_of_pos hw, List.filter_cons_of_neg (by rw [hw]; exact Bool.false_ne_true),
        List.foldl_cons]
      exact ih h.removeFromCounts
    | false =>
      rw [List.filter_cons_of_neg (by rw [hw]; exact Bool.false_ne_true),
        List.filter_cons_of_pos (by rw [hw]; rfl), List.append_cons]
      rw [List.append_cons] at h
      exact ih h

theorem Exact.countsOf {b : EventBuffer} (h : b.Exact) : b.CountsOf b.records :=
  ⟨h.total, h.selected, h.written⟩

theorem Exact.clearWritten {b : EventBuffer} (h : b.Exact) : b.clearWritten.Exact := by
  have hcounts : b.CountsOf ([] ++ b.records) := h.countsOf
  obtain ⟨htotal, hselected, hwritten⟩ := hcounts.foldl_removeFromCounts
  refine ⟨htotal, hselected, hwritten, ?_, h.wrapped⟩
  intro r hr
  exact h.written_selected r (List.mem_of_mem_filter hr)

/-- Discarding the oldest record of a type, which there need not be. -/
theorem Exact.removeOldestEventOfType {b : EventBuffer} (h : b.Exact) (type : EventType) :
    (b.removeOldestEventOfType type).Exact := by
  unfold EventBuffer.removeOldestEventOfType
  dsimp only
  split
  next r hfind =>
    obtain ⟨hr, xs, ys, hl, hxs⟩ := List.find?_eq_some_iff_append.mp hfind
    have herase : b.records.eraseP (fun r => r.type == type) = xs ++ ys := by
      rw [hl, List.eraseP_append_right _ fun r' hr' => by simpa using hxs r' hr',
        List.eraseP_cons_of_pos (p := fun r : SOERecord => r.type == type) hr]
    have hcounts := h.countsOf
    rw [hl] at hcounts
    obtain ⟨htotal, hselected, hwritten⟩ := hcounts.removeFromCounts
    rw [← herase] at htotal hselected hwritten
    refine ⟨htotal, hselected, hwritten, ?_, h.wrapped⟩
    intro r' hr'
    exact h.written_selected r' (List.mem_of_mem_eraseP hr')
  next => exact h

/-- Appending a new record. -/
theorem Exact.addRecord {b : EventBuffer} (h : b.Exact) {r : SOERecord} (hs : r.selected = false)
    (hw : r.written = false) : (b.addRecord r).Exact := by
  unfold EventBuffer.addRecord
  split
  next events hadd =>
    have hevents := hadd
    rw [LinkedList.add] at hevents
    split at hevents
    next hfit =>
      cases hevents
      have hlen : b.records.length + 1 < 2 ^ 32 := by
        rw [b.capacity_eq] at hfit
        exact Nat.lt_of_le_of_lt hfit b.config.totalEvents_lt
      refine ⟨h.total.concat_true rfl hlen, h.selected.concat_false hs, h.written.concat_false hw,
        ?_, h.wrapped⟩
      intro r' hr'
      rcases List.mem_append.mp hr' with hr' | hr'
      · exact h.written_selected r' hr'
      · rw [List.mem_singleton.mp hr', hw]
        intro hfalse
        cases hfalse
    next => cases hevents
  next => exact h

theorem Exact.updateAny {b : EventBuffer} (h : b.Exact) (evt : EventUpdate) :
    (b.updateAny evt).Exact := by
  unfold EventBuffer.updateAny
  dsimp only
  split
  · refine Exact.addRecord ?_ (SOERecord.selected_ofUpdate _ evt) (SOERecord.written_ofUpdate _ evt)
    split
    · have hoverflow : ({ b with overflow := true } : EventBuffer).Exact :=
        ⟨h.total, h.selected, h.written, h.written_selected, h.wrapped⟩
      exact hoverflow.removeOldestEventOfType evt.type
    · exact h
  · exact h

theorem Exact.isOverflown {b : EventBuffer} (h : b.Exact) : b.isOverflown.1.Exact := by
  unfold EventBuffer.isOverflown
  dsimp only
  split
  · exact ⟨h.total, h.selected, h.written, h.written_selected, h.wrapped⟩
  · exact h

theorem Exact.selectMaxCount {b : EventBuffer} (h : b.Exact) (gv : GroupVariation) (max : UInt32)
    (hfresh : ∀ s ∈ eventSelection gv, b.Fresh s max.toNat) :
    (b.selectMaxCount gv max).1.Exact := by
  rw [selectMaxCount_eq]
  cases hs : eventSelection gv with
  | none => exact h
  | some s => exact h.selectEvents s max (hfresh s hs)

/-! ## Runs -/

/-- An operation of the buffer with its arguments. -/
inductive Operation where
  | update (evt : EventUpdate)
  | selectAll (gv : GroupVariation)
  | selectCount (gv : GroupVariation) (count : UInt16)
  | selectAllByClass (field : ClassField)
  | load (writer : HeaderWriter)
  | clearWritten
  | unselect
  | isOverflown

/-- The buffer after an operation. -/
def apply (b : EventBuffer) : Operation → EventBuffer
  | .update evt => b.updateAny evt
  | .selectAll gv => (b.selectAll gv).1
  | .selectCount gv count => (b.selectCount gv count).1
  | .selectAllByClass field => b.selectAllByClass field
  | .load writer => (b.load writer).1
  | .clearWritten => b.clearWritten
  | .unselect => b.unselect
  | .isOverflown => b.isOverflown.1

/-- Whatever an operation selects is fresh. -/
def SelectsFresh (b : EventBuffer) : Operation → Prop
  | .selectAll gv => ∀ s ∈ eventSelection gv, b.Fresh s (2 ^ 32 - 1)
  | .selectCount gv count => ∀ s ∈ eventSelection gv, b.Fresh s count.toNat
  | .selectAllByClass field => b.Fresh (.byClass field) (2 ^ 32 - 1)
  | _ => True

theorem Exact.apply {b : EventBuffer} (h : b.Exact) (op : Operation) (hfresh : b.SelectsFresh op) :
    (b.apply op).Exact := by
  cases op with
  | update evt => exact h.updateAny evt
  | selectAll gv => exact h.selectMaxCount gv _ hfresh
  | selectCount gv count =>
    refine h.selectMaxCount gv count.toUInt32 ?_
    rwa [UInt16.toNat_toUInt32]
  | selectAllByClass field => exact h.selectEvents (.byClass field) _ hfresh
  | load writer => exact h.load writer
  | clearWritten => exact h.clearWritten
  | unselect => exact h.unselect
  | isOverflown => exact h.isOverflown

/-- In every run in which whatever is selected is fresh, the counts are exact. -/
theorem exact_run (config : EventBufferConfig) (ops : List Operation)
    (hfresh : Throughout apply SelectsFresh (initial config) ops) :
    (run apply (initial config) ops).Exact :=
  run_invariant (fun _ op h hop => h.apply op hop) (exact_initial config) hfresh

/-- A change of a binary point in class 1. -/
def binaryUpdate (index : UInt16) : EventUpdate :=
  .binary ⟨{ value := true, quality := 0x81, time := 0 }, index, .ec1, .group2Var1⟩

/-- A change of a counter in class 2. -/
def counterUpdate (index : UInt16) : EventUpdate :=
  .counter ⟨{ value := 7, quality := 0x01, time := 0 }, index, .ec2, .group22Var1⟩

/-- Of three events one is selected by its type and another one by its class; both are written and
cleared, and then all events of class 1 are selected. -/
theorem exact_run_example :
    let b := run apply (initial (.allTypes 4))
      [.update (binaryUpdate 0), .update (counterUpdate 0), .update (binaryUpdate 1),
        .selectCount .group2Var0 1, .selectAllByClass ⟨ClassField.CLASS_2⟩,
        .load (.ofSlice (.ofMemory (List.replicate 40 0))), .clearWritten,
        .update (counterUpdate 1), .selectAll .group60Var2]
    b.Exact ∧ b.records.map (fun r => (r.selected, r.written)) =
      [(true, false), (false, false)] := by
  intro b
  refine ⟨exact_run _ _
    ⟨trivial, trivial, trivial, ?_, ?_, trivial, trivial, trivial, ?_, trivial⟩, ?_⟩
  · intro s hs
    cases hs
    unfold Fresh
    decide
  · unfold SelectsFresh Fresh
    decide
  · intro s hs
    cases hs
    unfold Fresh
    decide +kernel
  · decide +kernel

/-- Of two events one is selected, and then all of their class: the first one is counted twice, and
the second one is not selected. -/
theorem not_exact_run :
    ¬ ∀ (config : EventBufferConfig) (ops : List Operation),
      (run apply (initial config) ops).Exact := by
  intro h
  have hselected := (h (.allTypes 4) [.update (binaryUpdate 0), .update (binaryUpdate 1),
    .selectCount .group2Var0 1, .selectAll .group60Var2]).selected.tallies .all
  revert hselected
  decide

end EventBuffer

end Outstation
end Dnp3
