import Dnp3.Outstation.EventOrder
import Dnp3.Outstation.WrittenEvents

/-!
# The overflow indication

An update that has to make room sets a flag, and `IsOverflown` clears it again when there is room.
Room is looked for in the array and type by type, but security statistics are not among the types.
So while the statistics have as many events as they may have, and other types of events are
configured and have room, the indication that an event was discarded disappears with the next query.

`discards_iff` says which updates these are, and `isOverflown_eq` what the query answers: it looks
at all types but the security statistics, and at the room of the whole array.  So the flag is
cleared too early in one situation, `OnlyStatisticsFull`, and `overflow_indication` states that it
is the only one: in every run the answers of all queries are right exactly when none is made in this
situation after a discarded event.
-/

namespace Dnp3
namespace Outstation

open Library App Openpal

namespace EventBuffer

variable {b : EventBuffer}

/-- There may be events of the type, and there are as many as there may be. -/
def HoldsMaximum (b : EventBuffer) (type : EventType) : Prop :=
  0 < b.maxOfType type ∧ b.numOfType type = b.maxOfType type

instance (b : EventBuffer) (type : EventType) : Decidable (b.HoldsMaximum type) :=
  inferInstanceAs (Decidable (_ ∧ _))

/-! ## Discarded events -/

/-- An event that was stored before the update is not stored any more. -/
def Discards (b : EventBuffer) (evt : EventUpdate) : Prop :=
  ∃ id ∈ b.ids, id ∉ (b.updateAny evt).ids

instance (b : EventBuffer) (evt : EventUpdate) : Decidable (b.Discards evt) :=
  inferInstanceAs (Decidable (∃ id ∈ b.ids, id ∉ (b.updateAny evt).ids))

/-- An update discards an event exactly when its type holds the maximum. -/
theorem discards_iff (h : b.Bounded) (hid : b.Identified) (evt : EventUpdate) :
    b.Discards evt ↔ b.HoldsMaximum evt.type := by
  have hupdates := h.updates evt
  unfold Discards HoldsMaximum
  generalize b.updateAny evt = b' at hupdates
  cases hupdates with
  | nothing hmax =>
    constructor
    · rintro ⟨id, hmem, hnot⟩
      exact absurd hmem hnot
    · rintro ⟨hpos, -⟩
      omega
  | stored b' hroom hrecords hnext =>
    constructor
    · rintro ⟨id, hmem, hnot⟩
      refine absurd ?_ hnot
      rw [ids, hrecords, List.map_append]
      exact List.mem_append_left _ hmem
    · rintro ⟨-, hfull⟩
      omega
  | replaced b' before after oldest hmax hfull hold htype holdest hrecords hnext =>
    refine ⟨fun _ => ⟨hmax, hfull⟩, fun _ => ⟨oldest.id, ?_, ?_⟩⟩
    · rw [ids, hold]
      simp
    · have hbound := hid.bounded oldest.id (by rw [ids, hold]; simp)
      have hincreasing := hid.increasing
      rw [ids, hold, List.map_append, List.map_cons, List.pairwise_append,
        List.pairwise_cons] at hincreasing
      obtain ⟨-, ⟨hafter, -⟩, hbefore⟩ := hincreasing
      rw [ids, hrecords, List.map_append, List.map_append, List.map_singleton,
        SOERecord.id_ofUpdate]
      intro hmem
      rcases List.mem_append.mp hmem with hmem | hmem
      · rcases List.mem_append.mp hmem with hmem | hmem
        · exact Nat.lt_irrefl _ (hbefore _ hmem _ List.mem_cons_self)
        · exact Nat.lt_irrefl _ (hafter _ hmem)
      · exact Nat.ne_of_lt hbound (List.mem_singleton.mp hmem)

theorem overflow_addRecord (b : EventBuffer) (r : SOERecord) :
    (b.addRecord r).overflow = b.overflow := by
  unfold addRecord
  split <;> rfl

theorem overflow_removeOldestEventOfType (b : EventBuffer) (type : EventType) :
    (b.removeOldestEventOfType type).overflow = b.overflow := by
  unfold removeOldestEventOfType
  dsimp only
  split <;> rfl

/-- The flag is set by the updates that discard an event. -/
theorem overflow_updateAny (h : b.Bounded) (hid : b.Identified) (evt : EventUpdate) :
    (b.updateAny evt).overflow = (b.overflow || decide (b.Discards evt)) := by
  have hdiscards := discards_iff h hid evt
  have hroom := h.makes_room_iff evt.type
  have hmax : b.config.getMaxEventsForType evt.type > 0 ↔ 0 < b.maxOfType evt.type :=
    UInt16.lt_iff_toNat_lt
  unfold updateAny
  dsimp only
  split
  next hpos =>
    rw [overflow_addRecord]
    split
    next hmakes =>
      rw [overflow_removeOldestEventOfType,
        decide_eq_true (hdiscards.mpr ⟨hmax.mp hpos, hroom.mp hmakes⟩), Bool.or_true]
    next hfew =>
      rw [decide_eq_false fun hd => hfew (hroom.mpr (hdiscards.mp hd).2), Bool.or_false]
  next hzero =>
    rw [decide_eq_false fun hd => hzero (hmax.mpr (hdiscards.mp hd).1), Bool.or_false]

/-! ## The query -/

theorem isTypeOverflown_iff (h : b.Bounded) (type : EventType) :
    b.isTypeOverflown type = true ↔ b.HoldsMaximum type := by
  have hle := h.bounded type
  have hnum := h.numOfType_eq type
  have hmax : b.config.getMaxEventsForType type > 0 ↔ 0 < b.maxOfType type :=
    UInt16.lt_iff_toNat_lt
  unfold isTypeOverflown
  dsimp only
  split
  next hpos =>
    rw [decide_eq_true_iff, hnum]
    constructor
    · exact fun hge => ⟨hmax.mp hpos, Nat.le_antisymm hle hge⟩
    · exact fun hholds => Nat.le_of_eq hholds.2.symm
  next hzero =>
    constructor
    · exact fun hfalse => by cases hfalse
    · exact fun hholds => absurd (hmax.mpr hholds.1) hzero

/-- The types that are looked at are all but the security statistics. -/
theorem isAnyTypeOverflown_iff (h : b.Bounded) :
    b.isAnyTypeOverflown = true ↔ ∃ type, type ≠ .securityStat ∧ b.HoldsMaximum type := by
  simp only [isAnyTypeOverflown, Bool.or_eq_true, isTypeOverflown_iff h]
  constructor
  · rintro ((((((h | h) | h) | h) | h) | h) | h) <;> exact ⟨_, by decide, h⟩
  · rintro ⟨type, hne, hholds⟩
    cases type with
    | securityStat => exact absurd rfl hne
    | _ => simp [hholds]

/-- The array is full when every type has as many events as it may have. -/
theorem isFull_iff (h : b.Bounded) :
    b.events.isFull = true ↔ ∀ type, b.numOfType type = b.maxOfType type := by
  refine ⟨fun hfull => h.full hfull, fun hall => ?_⟩
  have hlength := length_eq_sum_types b.records
  have hcapacity : b.events.isFull = (b.records.length == b.config.totalEvents) := by
    rw [LinkedList.isFull, b.capacity_eq]
  rw [hcapacity, beq_iff_eq, hlength]
  have hbinary := hall .binary
  have hdouble := hall .doubleBitBinary
  have hanalog := hall .analog
  have hcounter := hall .counter
  have hfrozen := hall .frozenCounter
  have houtput := hall .binaryOutputStatus
  have hstatus := hall .analogOutputStatus
  have hstat := hall .securityStat
  simp only [numOfType, maxOfType, EventBufferConfig.getMaxEventsForType] at *
  simp only [EventBufferConfig.totalEvents]
  omega

/-- The security statistics alone hold their maximum, and events of another type are configured. -/
structure OnlyStatisticsFull (b : EventBuffer) : Prop where
  full : b.HoldsMaximum .securityStat
  others : ∀ type, type ≠ .securityStat → ¬ b.HoldsMaximum type
  configured : ∃ type, type ≠ .securityStat ∧ 0 < b.maxOfType type

/-- There is enough space when no type holds its maximum, or the statistics alone do. -/
theorem hasEnoughSpace_iff (h : b.Bounded) (hconfigured : ∃ type, 0 < b.maxOfType type) :
    b.hasEnoughSpaceToClearOverflow = true ↔
      ¬ (∃ type, b.HoldsMaximum type) ∨ b.OnlyStatisticsFull := by
  have hany := isAnyTypeOverflown_iff h
  have hfull := isFull_iff h
  have hle := h.bounded
  have hspace : b.hasEnoughSpaceToClearOverflow = true ↔
      ¬ (∀ type, b.numOfType type = b.maxOfType type) ∧
        ¬ ∃ type, type ≠ .securityStat ∧ b.HoldsMaximum type := by
    rw [hasEnoughSpaceToClearOverflow, Bool.not_eq_true', Bool.or_eq_false_iff, ← hfull, ← hany,
      Bool.not_eq_true, Bool.not_eq_true]
  rw [hspace]
  constructor
  · rintro ⟨hroom, hothers⟩
    by_cases hstat : b.HoldsMaximum .securityStat
    · refine .inr ⟨hstat, fun type hne hholds => hothers ⟨type, hne, hholds⟩, ?_⟩
      obtain ⟨type, hne⟩ := not_forall.mp hroom
      refine ⟨type, ?_, ?_⟩
      · rintro rfl
        exact hne hstat.2
      · exact Nat.pos_of_ne_zero fun hzero => hne (by
          have hbound := hle type
          rw [show (b.config.getMaxEventsForType type).toNat = 0 from hzero] at hbound
          rw [hzero]
          exact Nat.le_zero.mp hbound)
    · refine .inl ?_
      rintro ⟨type, hholds⟩
      refine hothers ⟨type, ?_, hholds⟩
      rintro rfl
      exact hstat hholds
  · rintro (hnone | ⟨hstat, hothers, type, hne, hpos⟩)
    · obtain ⟨type, hpos⟩ := hconfigured
      refine ⟨fun hall => hnone ⟨type, hpos, hall type⟩, ?_⟩
      rintro ⟨type, -, hholds⟩
      exact hnone ⟨type, hholds⟩
    · refine ⟨fun hall => hothers type hne ⟨hpos, hall type⟩, ?_⟩
      rintro ⟨type, hne, hholds⟩
      exact hothers type hne hholds

theorem isOverflown_eq (b : EventBuffer) :
    b.isOverflown.2 = (b.overflow && !b.hasEnoughSpaceToClearOverflow) ∧
      b.isOverflown.1.overflow = b.isOverflown.2 := by
  unfold isOverflown
  cases hoverflow : b.overflow <;> cases b.hasEnoughSpaceToClearOverflow <;> simp [hoverflow]

/-! ## Runs -/

/-- Only updates and queries change the flag. -/
theorem overflow_apply (b : EventBuffer) {op : Operation} (hupdate : ∀ evt, op ≠ .update evt)
    (hquery : op ≠ .isOverflown) : (b.apply op).overflow = b.overflow := by
  have hmax (gv : GroupVariation) (max : UInt32) :
      (b.selectMaxCount gv max).1.overflow = b.overflow := by
    unfold selectMaxCount
    split <;> rfl
  cases op with
  | update evt => exact absurd rfl (hupdate evt)
  | isOverflown => exact absurd rfl hquery
  | selectAll gv => exact hmax gv _
  | selectCount gv count => exact hmax gv _
  | _ => rfl

theorem config_apply (b : EventBuffer) (op : Operation) : (b.apply op).config = b.config := by
  by_cases hop : ∃ evt, op = .update evt
  · obtain ⟨evt, rfl⟩ := hop
    exact config_updateAny b evt
  · exact (sublist_apply b (not_exists.mp hop)).2.2

theorem Identified.apply (h : b.Identified) (op : Operation) : (b.apply op).Identified := by
  by_cases hop : ∃ evt, op = .update evt
  · obtain ⟨evt, rfl⟩ := hop
    exact h.updateAny evt
  · have hsub := sublist_apply b (not_exists.mp hop)
    refine h.sublist ?_ hsub.2.1
    have hids := hsub.1.map SOERecord.id
    rwa [List.map_map, List.map_map] at hids

/-- A buffer, and whether an event was discarded since the last query that returned false. -/
structure Watched where
  buffer : EventBuffer
  discarded : Bool

namespace Watched

/-- An empty buffer, and nothing was discarded. -/
def initial (config : EventBufferConfig) : Watched := ⟨.initial config, false⟩

/-- An operation on the buffer; whether a discarded event was not reported yet goes along. -/
def step (w : Watched) (op : Operation) : Watched where
  buffer := w.buffer.apply op
  discarded :=
    match op with
    | .update evt => w.discarded || decide (w.buffer.Discards evt)
    | .isOverflown => w.discarded && w.buffer.isOverflown.2
    | _ => w.discarded

/-- A query says whether an event was discarded and some type of events holds its maximum. -/
def AnswersRight (w : Watched) (op : Operation) : Prop :=
  op = .isOverflown →
    (w.buffer.isOverflown.2 = true ↔
      w.discarded = true ∧ ∃ type, w.buffer.HoldsMaximum type)

/-- No query is made while an event was discarded and the statistics alone hold their maximum. -/
def NotOnlyStatistics (w : Watched) (op : Operation) : Prop :=
  op = .isOverflown → ¬ (w.discarded = true ∧ w.buffer.OnlyStatisticsFull)

/-- What holds in every run: the flag says whether an event was discarded. -/
structure Sound (w : Watched) : Prop where
  bounded : w.buffer.Bounded
  identified : w.buffer.Identified
  flag : w.buffer.overflow = w.discarded
  configured : w.discarded = true → ∃ type, 0 < w.buffer.maxOfType type

theorem sound_initial (config : EventBufferConfig) : Sound (initial config) :=
  ⟨bounded_initial config, .initial config, rfl, (nomatch ·)⟩

theorem Sound.step {w : Watched} (h : Sound w) (op : Operation) : Sound (w.step op) := by
  have hbounded := h.bounded.apply op
  have hidentified := h.identified.apply op
  have hflag : (w.step op).buffer.overflow = (w.step op).discarded := by
    by_cases hupdate : ∃ evt, op = .update evt
    · obtain ⟨evt, rfl⟩ := hupdate
      exact (overflow_updateAny h.bounded h.identified evt).trans (by rw [h.flag]; rfl)
    by_cases hquery : op = .isOverflown
    · subst hquery
      have hquery := isOverflown_eq w.buffer
      refine hquery.2.trans (hquery.1.trans ?_)
      show _ = (w.discarded && w.buffer.isOverflown.2)
      rw [hquery.1, h.flag, ← Bool.and_assoc, Bool.and_self]
    · have hdiscarded : (w.step op).discarded = w.discarded := by
        cases op with
        | update evt => exact absurd ⟨evt, rfl⟩ hupdate
        | isOverflown => exact absurd rfl hquery
        | _ => rfl
      rw [hdiscarded, ← h.flag]
      exact overflow_apply w.buffer (not_exists.mp hupdate) hquery
  refine ⟨hbounded, hidentified, hflag, fun hdiscarded => ?_⟩
  have hconfig : (w.step op).buffer.config = w.buffer.config := config_apply w.buffer op
  have hbefore : w.discarded = true ∨ ∃ evt, op = .update evt ∧ w.buffer.Discards evt := by
    cases op with
    | update evt =>
      have hor : (w.discarded || decide (w.buffer.Discards evt)) = true := hdiscarded
      rw [Bool.or_eq_true, decide_eq_true_iff] at hor
      exact hor.imp id fun hd => ⟨evt, rfl, hd⟩
    | isOverflown =>
      have hand : (w.discarded && w.buffer.isOverflown.2) = true := hdiscarded
      exact .inl ((Bool.and_eq_true _ _).mp hand).1
    | _ => exact .inl hdiscarded
  unfold maxOfType
  rw [hconfig]
  rcases hbefore with hold | ⟨evt, -, hd⟩
  · exact h.configured hold
  · exact ⟨evt.type, ((discards_iff h.bounded h.identified evt).mp hd).1⟩

theorem answersRight_iff {w : Watched} (h : Sound w) (op : Operation) :
    w.AnswersRight op ↔ w.NotOnlyStatistics op := by
  refine imp_congr_right fun _ => ?_
  rw [(isOverflown_eq w.buffer).1, h.flag, Bool.and_eq_true, Bool.not_eq_true']
  by_cases hdiscarded : w.discarded = true
  · have hspace := hasEnoughSpace_iff h.bounded (h.configured hdiscarded)
    have hsome : w.buffer.OnlyStatisticsFull → ∃ type, w.buffer.HoldsMaximum type :=
      fun honly => ⟨_, honly.full⟩
    rw [← Bool.not_eq_true, hspace]
    tauto
  · simp [hdiscarded]

end Watched

/-- In every run the overflow indication is right at every query, exactly when at no query an event
was discarded and the security statistics alone hold their maximum. -/
theorem overflow_indication (config : EventBufferConfig) (ops : List Operation) :
    Throughout Watched.step Watched.AnswersRight (.initial config) ops ↔
      Throughout Watched.step Watched.NotOnlyStatistics (.initial config) ops :=
  throughout_iff (I := Watched.Sound) (fun _ op h => h.step op)
    (fun _ op h => Watched.answersRight_iff h op) (Watched.sound_initial config)

/-- A change of a statistic in class 1. -/
def statisticUpdate (index : UInt16) : EventUpdate :=
  .securityStat ⟨{ quality := 1, value := ⟨0, 1⟩, time := 0 }, index, .ec1, .group122Var1⟩

/-- With room for one statistic and one binary event, the second of two statistics discards the
first one, and the query after it says that nothing was discarded. -/
theorem not_overflow_indication :
    ¬ Throughout Watched.step Watched.AnswersRight
      (.initial { EventBufferConfig.allTypes 0 with
        maxBinaryEvents := 1, maxSecurityStatisticEvents := 1 })
      [.update (statisticUpdate 0), .update (statisticUpdate 1), .isOverflown] := by
  rintro ⟨-, -, hanswer, -⟩
  have hright := (hanswer rfl).mpr ⟨by decide +kernel, .securityStat, by decide +kernel⟩
  exact absurd hright (by decide +kernel)

end EventBuffer
end Outstation
end Dnp3
