import Dnp3.Master.TaskRequests

/-!
# Echoes of commands

A response is held against a set of commands header by header.  What a set is after that depends,
at every position, on the header of the response with the same number alone.  A set whose points
are all selected has been echoed command by command; a point that has succeeded has been echoed by
the response that was held against it last.  The commands themselves stay what they are.

For each of the three levels (commands of one type, headers of any type, sets) there are the same
notions and the same four facts.  A response to a SELECT selects a point only by an echo
(`SelectedBy`), and lets nothing succeed; a response to an OPERATE lets a point succeed only by an
echo with the status that is recorded (`EchoedWhereSucceeded`); and neither changes the commands
(`asMade`).
-/

namespace Dnp3
namespace Master

open App

/-! ## Commands of one type -/

namespace CommandRecord

variable {T : Type} (type : CommandType T)

/-- The item has the index and the values of the command. -/
def EchoedBy (rec : CommandRecord T) (item : Indexed T) : Prop :=
  item.index = rec.index ∧ type.valuesEqual item.value rec.command = true

/-- The item is an echo that the command was selected. -/
def SelectedBy (rec : CommandRecord T) (item : Indexed T) : Prop :=
  rec.EchoedBy type item ∧ type.status item.value = .success

@[simp] theorem indexed_visitSelect (rec : CommandRecord T) (item : Indexed T) :
    (rec.visitSelect type item).indexed = rec.indexed := by
  unfold visitSelect
  repeat' split
  all_goals rfl

@[simp] theorem indexed_visitOperate (rec : CommandRecord T) (item : Indexed T) :
    (rec.visitOperate type item).indexed = rec.indexed := by
  unfold visitOperate
  repeat' split
  all_goals rfl

/-- A new point that is selected was selected by the item. -/
theorem selectedBy_visitSelect {rec : CommandRecord T} {item : Indexed T} (hnew : rec.state = .init)
    (hselected : (rec.visitSelect type item).state = .selectSuccess) :
    rec.SelectedBy type item := by
  unfold visitSelect at hselected
  split at hselected
  · rw [hnew] at hselected
    cases hselected
  next hindex =>
    split at hselected
    · cases hselected
    next hvalues =>
      split at hselected
      · cases hselected
      next hstatus =>
        exact ⟨⟨by simpa using hindex, by simpa using hvalues⟩, by simpa using hstatus⟩

/-- The response to a select lets no point succeed. -/
theorem visitSelect_ne_success {rec : CommandRecord T} (item : Indexed T)
    (hne : rec.state ≠ .success) : (rec.visitSelect type item).state ≠ .success := by
  unfold visitSelect
  repeat' split
  all_goals simp [hne]

/-- A point that succeeds has been echoed, with the status that is recorded. -/
theorem echoedBy_visitOperate {rec : CommandRecord T} {item : Indexed T}
    (hne : rec.state ≠ .success) (hsuccess : (rec.visitOperate type item).state = .success) :
    rec.EchoedBy type item ∧ (rec.visitOperate type item).status = type.status item.value := by
  unfold visitOperate at hsuccess ⊢
  split at hsuccess
  · exact absurd hsuccess hne
  next hindex =>
    split at hsuccess
    · cases hsuccess
    next hvalues =>
      rw [if_neg hindex, if_neg hvalues]
      exact ⟨⟨by simpa using hindex, by simpa using hvalues⟩, rfl⟩

end CommandRecord

/-! ## Headers of one type -/

namespace TypedCommandHeader

variable {T : Type} (type : CommandType T)

/-- The header as it was made, before any response. -/
def asMade (h : TypedCommandHeader T) : TypedCommandHeader T :=
  ofPairs (h.records.map CommandRecord.indexed)

/-- A command of the header is in state `SUCCESS`. -/
def Succeeded (h : TypedCommandHeader T) : Prop := ∃ rec ∈ h.records, rec.state = .success

/-- Every command that has succeeded is echoed at its position, with the status that is
recorded. -/
def EchoedWhereSucceeded (h : TypedCommandHeader T) (items : List (Indexed T)) : Prop :=
  ∀ (j : Nat) (rec : CommandRecord T), h.records[j]? = some rec → rec.state = .success →
    ∃ item, items[j]? = some item ∧ rec.EchoedBy type item ∧ rec.status = type.status item.value

/-- Item by item, the commands are selected. -/
def SelectedBy (h : TypedCommandHeader T) (items : List (Indexed T)) : Prop :=
  List.Forall₂ (CommandRecord.SelectedBy type) h.records items

variable {h : TypedCommandHeader T} {visit : CommandRecord T → Indexed T → CommandRecord T}

theorem getElem?_visitAll (records : List (CommandRecord T)) (items : List (Indexed T)) (j : Nat) :
    (visitAll visit records items)[j]? =
      records[j]?.map fun rec => items[j]?.elim rec (visit rec) := by
  induction records generalizing items j with
  | nil => cases items <;> simp [visitAll]
  | cons rec records ih =>
    cases items with
    | nil => simp [visitAll]
    | cons item items =>
      cases j with
      | zero => simp [visitAll]
      | succ j => simpa [visitAll] using ih items j

theorem map_indexed_visitAll
    (hvisit : ∀ rec item, (visit rec item).indexed = rec.indexed)
    (records : List (CommandRecord T)) (items : List (Indexed T)) :
    (visitAll visit records items).map CommandRecord.indexed =
      records.map CommandRecord.indexed := by
  ext j : 1
  rw [List.getElem?_map, getElem?_visitAll, List.getElem?_map, Option.map_map]
  congr 1
  ext rec : 1
  cases items[j]? with
  | none => rfl
  | some item => exact hvisit rec item

theorem asMade_apply (hvisit : ∀ rec item, (visit rec item).indexed = rec.indexed)
    (h : TypedCommandHeader T) (items : List (Indexed T)) :
    (h.apply visit items).asMade = h.asMade := by
  unfold apply
  split
  · rfl
  · simp only [asMade, map_indexed_visitAll hvisit]

theorem objects_asMade (h : TypedCommandHeader T) : h.asMade.objects type = h.objects type := by
  have hindexed : h.asMade.records.map CommandRecord.indexed =
      h.records.map CommandRecord.indexed := by
    simp [asMade, ofPairs, CommandRecord.ofPair, CommandRecord.indexed, Function.comp_def]
  have hlength : h.asMade.records.length = h.records.length := by
    simpa using congrArg List.length hindexed
  unfold objects
  rw [hindexed, hlength]

/-- The points of a header that is as it was made are new. -/
theorem init_of_asMade (hmade : h.asMade = h) : ∀ rec ∈ h.records, rec.state = .init := by
  intro rec hrec
  rw [← hmade] at hrec
  simp only [asMade, ofPairs, List.map_map, List.mem_map] at hrec
  obtain ⟨_, _, rfl⟩ := hrec
  rfl

/-- The same commands are selected by the same items. -/
theorem forall₂_visitAll {records : List (CommandRecord T)} {items : List (Indexed T)}
    (hlength : items.length ≤ records.length) (hnew : ∀ rec ∈ records, rec.state = .init)
    (hall : ∀ rec ∈ visitAll (CommandRecord.visitSelect type) records items,
      rec.state = .selectSuccess) :
    List.Forall₂ (CommandRecord.SelectedBy type) records items := by
  induction records generalizing items with
  | nil =>
    obtain rfl : items = [] := by simpa using hlength
    exact .nil
  | cons rec records ih =>
    have hrec := hnew rec List.mem_cons_self
    cases items with
    | nil =>
      have hselected := hall rec (by simp [visitAll])
      rw [hrec] at hselected
      cases hselected
    | cons item items =>
      simp only [visitAll, List.forall_mem_cons] at hall
      refine .cons (CommandRecord.selectedBy_visitSelect type hrec hall.1) ?_
      exact ih (by simpa using hlength) (fun rec' h => hnew rec' (List.mem_cons_of_mem _ h)) hall.2

/-- A new header with commands whose points are all selected was echoed. -/
theorem selectedBy_apply (hmade : h.asMade = h) (hne : h.records ≠ []) {items : List (Indexed T)}
    (hall : (h.applySelectResponse type items).areAllSelected = true) :
    h.SelectedBy type items := by
  have hnew := init_of_asMade hmade
  unfold areAllSelected applySelectResponse apply at hall
  rw [List.all_eq_true] at hall
  split at hall
  · obtain ⟨rec, hrec⟩ := List.exists_mem_of_ne_nil _ hne
    have hselected := hall rec hrec
    rw [hnew rec hrec] at hselected
    cases hselected
  next hlength =>
    exact forall₂_visitAll type (by omega) hnew fun rec hrec => by simpa using hall rec hrec

theorem not_areAllSelected (hmade : h.asMade = h) (hne : h.records ≠ []) :
    h.areAllSelected = false := by
  obtain ⟨rec, hrec⟩ := List.exists_mem_of_ne_nil _ hne
  unfold areAllSelected
  rw [List.all_eq_false]
  exact ⟨rec, hrec, by rw [init_of_asMade hmade rec hrec]; decide⟩

theorem not_succeeded_of_asMade (hmade : h.asMade = h) : ¬ h.Succeeded := by
  rintro ⟨rec, hrec, hsuccess⟩
  rw [init_of_asMade hmade rec hrec] at hsuccess
  cases hsuccess

theorem not_succeeded_applySelectResponse (hne : ¬ h.Succeeded) (items : List (Indexed T)) :
    ¬ (h.applySelectResponse type items).Succeeded := by
  unfold applySelectResponse apply
  split
  · exact hne
  · rintro ⟨rec, hrec, hsuccess⟩
    obtain ⟨j, hj⟩ := List.mem_iff_getElem?.mp hrec
    rw [getElem?_visitAll, Option.map_eq_some_iff] at hj
    obtain ⟨old, hold, rfl⟩ := hj
    have hold : old.state ≠ .success := fun hs => hne ⟨old, List.mem_of_getElem? hold, hs⟩
    cases hitem : items[j]? with
    | none => exact hold (by simpa [hitem] using hsuccess)
    | some item =>
      rw [hitem] at hsuccess
      exact CommandRecord.visitSelect_ne_success type item hold hsuccess

/-- Where nothing has succeeded, the response to an operate lets succeed what it echoes. -/
theorem echoed_applyOperateResponse (hne : ¬ h.Succeeded) (items : List (Indexed T)) :
    (h.applyOperateResponse type items).EchoedWhereSucceeded type items := by
  intro j rec hrec hsuccess
  unfold applyOperateResponse apply at hrec
  split at hrec
  · exact absurd ⟨rec, List.mem_of_getElem? hrec, hsuccess⟩ hne
  · rw [getElem?_visitAll, Option.map_eq_some_iff] at hrec
    obtain ⟨old, hold, rfl⟩ := hrec
    have hstate : old.state ≠ .success := fun hs => hne ⟨old, List.mem_of_getElem? hold, hs⟩
    cases hitem : items[j]? with
    | none => exact absurd (by simpa [hitem] using hsuccess) hstate
    | some item =>
      rw [hitem] at hsuccess
      have hechoed := CommandRecord.echoedBy_visitOperate type hstate hsuccess
      have hindexed := CommandRecord.indexed_visitOperate type old item
      refine ⟨item, rfl, ?_, hechoed.2⟩
      have hindex := congrArg Indexed.index hindexed
      have hvalue := congrArg Indexed.value hindexed
      refine ⟨hechoed.1.1.trans hindex.symm, ?_⟩
      have hcommand : (old.visitOperate type item).command = old.command := hvalue
      rw [Option.elim_some, hcommand]
      exact hechoed.1.2

/-- A header that is written has commands. -/
theorem ne_nil_of_write {writer writer' : HeaderWriter}
    (hw : h.write type writer = (writer', true)) : h.records ≠ [] := by
  intro hnil
  unfold write at hw
  rw [hnil, List.isEmpty_nil, if_pos rfl] at hw
  cases hw

end TypedCommandHeader

/-! ## Headers of any type -/

namespace ICommandHeader

variable {header : ICommandHeader} {values : Values}

/-- The header as it was made, before any response. -/
def asMade : ICommandHeader → ICommandHeader
  | crob header => crob header.asMade
  | aoInt32 header => aoInt32 header.asMade
  | aoInt16 header => aoInt16 header.asMade
  | aoFloat32 header => aoFloat32 header.asMade
  | aoDouble64 header => aoDouble64 header.asMade

/-- The values are of the type of the header, and this holds of the two. -/
def OfType
    (R : ∀ {T : Type}, CommandType T → TypedCommandHeader T → List (Indexed T) → Prop) :
    ICommandHeader → Values → Prop
  | crob header, .controlRelayOutputBlock vs => R .crob header vs
  | aoInt32 header, .analogOutputInt32 vs => R .aoInt32 header vs
  | aoInt16 header, .analogOutputInt16 vs => R .aoInt16 header vs
  | aoFloat32 header, .analogOutputFloat32 vs => R .aoFloat32 header vs
  | aoDouble64 header, .analogOutputDouble64 vs => R .aoDouble64 header vs
  | _, _ => False

/-- This holds of the header, whatever its type. -/
def OfAny (R : ∀ {T : Type}, TypedCommandHeader T → Prop) : ICommandHeader → Prop
  | crob header => R header
  | aoInt32 header => R header
  | aoInt16 header => R header
  | aoFloat32 header => R header
  | aoDouble64 header => R header

/-- A command of the header is in state `SUCCESS`. -/
def Succeeded (header : ICommandHeader) : Prop := header.OfAny TypedCommandHeader.Succeeded

/-- The header has commands. -/
def Nonempty (header : ICommandHeader) : Prop := header.OfAny fun h => h.records ≠ []

/-- Item by item, the commands of the header are selected by items of their type. -/
def SelectedBy (header : ICommandHeader) (values : Values) : Prop :=
  header.OfType TypedCommandHeader.SelectedBy values

/-- Every command of the header that has succeeded is echoed by an item of its type. -/
def EchoedWhereSucceeded (header : ICommandHeader) (values : Values) : Prop :=
  header.OfType TypedCommandHeader.EchoedWhereSucceeded values

@[simp] theorem objects_asMade (header : ICommandHeader) :
    header.asMade.objects = header.objects := by
  cases header <;> exact TypedCommandHeader.objects_asMade _ _

@[simp] theorem asMade_applySelectResponse (header : ICommandHeader) (values : Values) :
    (header.applySelectResponse values).asMade = header.asMade := by
  unfold applySelectResponse
  split
  all_goals simp [asMade, TypedCommandHeader.applySelectResponse, TypedCommandHeader.asMade_apply]

@[simp] theorem asMade_applyOperateResponse (header : ICommandHeader) (values : Values) :
    (header.applyOperateResponse values).asMade = header.asMade := by
  unfold applyOperateResponse
  split
  all_goals simp [asMade, TypedCommandHeader.applyOperateResponse, TypedCommandHeader.asMade_apply]

theorem not_areAllSelected (hmade : header.asMade = header) (hne : header.Nonempty) :
    header.areAllSelected = false := by
  cases header <;> exact TypedCommandHeader.not_areAllSelected (by simpa [asMade] using hmade) hne

theorem selectedBy_applySelectResponse (hmade : header.asMade = header) (hne : header.Nonempty)
    (hall : (header.applySelectResponse values).areAllSelected = true) :
    header.SelectedBy values := by
  unfold applySelectResponse at hall
  split at hall
  case h_6 =>
    rw [not_areAllSelected hmade hne] at hall
    cases hall
  all_goals exact TypedCommandHeader.selectedBy_apply _ (by simpa [asMade] using hmade) hne hall

theorem not_succeeded_of_asMade (hmade : header.asMade = header) : ¬ header.Succeeded := by
  cases header <;> exact TypedCommandHeader.not_succeeded_of_asMade (by simpa [asMade] using hmade)

theorem not_succeeded_applySelectResponse (hne : ¬ header.Succeeded) (values : Values) :
    ¬ (header.applySelectResponse values).Succeeded := by
  unfold applySelectResponse
  split
  case h_6 => exact hne
  all_goals exact TypedCommandHeader.not_succeeded_applySelectResponse _ hne _

theorem echoed_applyOperateResponse (hne : ¬ header.Succeeded)
    (hsuccess : (header.applyOperateResponse values).Succeeded) :
    (header.applyOperateResponse values).EchoedWhereSucceeded values := by
  unfold applyOperateResponse at hsuccess ⊢
  split at hsuccess
  case h_6 => exact absurd hsuccess hne
  all_goals exact TypedCommandHeader.echoed_applyOperateResponse _ hne _

theorem nonempty_of_write {writer writer' : HeaderWriter}
    (hw : header.write writer = (writer', true)) : header.Nonempty := by
  cases header <;> exact TypedCommandHeader.ne_nil_of_write _ hw

end ICommandHeader

/-! ## Sets -/

namespace CommandSetOps

variable {set : CommandSet} {mode : Mode}

/-- What a header of a response does to the header of the set with its number. -/
def visit (mode : Mode) (header : ICommandHeader) : ObjectHeader → ICommandHeader
  | .prefixOf record _ values =>
    if record.getQualifierCode ≠ .uint16CntUint16Index then header
    else
      match mode with
      | .select => header.applySelectResponse values
      | .operate => header.applyOperateResponse values
  | _ => header

/-- The header changes where it has the number of the header of the response. -/
theorem processHeader_state (mode : Mode) (n : Nat) (set : CommandSet) (header : ObjectHeader) :
    (processHeader mode n set header).1 =
      set.modify header.record.headerIndex fun h => visit mode h header := by
  have hnone : ∀ {k} {h : ICommandHeader → ICommandHeader}, h = id → set = set.modify k h := by
    rintro k h rfl
    rw [List.modify_id]
  unfold processHeader
  split
  next record count values =>
    split
    case h_6 hvalues =>
      refine hnone ?_
      ext header : 1
      cases mode <;> cases values <;> simp_all [visit, ICommandHeader.applySelectResponse,
        ICommandHeader.applyOperateResponse]
    all_goals
      unfold processAny
      split
      next hqualifier =>
        refine hnone ?_
        ext header : 1
        exact if_pos hqualifier
      next hqualifier =>
        split
        next hlength => exact (List.modify_eq_self hlength).symm
        · cases mode <;> simp [visit, hqualifier, ObjectHeader.record]
  next hother =>
    refine hnone ?_
    ext h : 1
    cases header with
    | prefixOf record count values => exact absurd rfl (hother record count values)
    | _ => rfl

/-- Headers that carry their numbers change the headers of the set with these numbers. -/
theorem getElem?_onHeaders {parsed : List ObjectHeader}
    (hnumbered : ∀ (k : Nat) (header : ObjectHeader), parsed[k]? = some header →
      header.record.headerIndex = k) (k : Nat) :
    (APDUHandler.onHeaders (processHeader mode) set parsed).state[k]? =
      set[k]?.map fun header => parsed[k]?.elim header (visit mode header) := by
  induction parsed using List.reverseRecOn with
  | nil => simp [APDUHandler.onHeaders, APDUHandler.initial]
  | append_singleton parsed last ih =>
    have hlast : last.record.headerIndex = parsed.length := hnumbered _ _ (by simp)
    have hbefore : ∀ (j : Nat) (header : ObjectHeader), parsed[j]? = some header →
        header.record.headerIndex = j := by
      intro j header hj
      refine hnumbered j header ?_
      rw [List.getElem?_append_left (List.getElem?_eq_some_iff.mp hj).1, hj]
    rw [APDUHandler.onHeaders_append, List.foldl_cons, List.foldl_nil, APDUHandler.onHeader]
    simp only [processHeader_state, hlast, List.getElem?_modify, ih hbefore]
    cases hheader : set[k]? with
    | none => rfl
    | some header =>
      rcases Nat.lt_trichotomy k parsed.length with hlt | rfl | hgt
      · simp [List.getElem?_append_left hlt, Nat.ne_of_gt hlt]
      · simp
      · have hnone : (parsed ++ [last])[k]? = none :=
          List.getElem?_eq_none (by rw [List.length_append]; exact hgt)
        have hnone' : parsed[k]? = none := by simpa using hgt.le
        simp [hnone, hnone', Nat.ne_of_lt hgt]

theorem getElem?_applyResponse (mode : Mode) (set : CommandSet) (objects : List UInt8) (k : Nat) :
    (applyResponse mode set objects).2[k]? =
      set[k]?.map fun header =>
        (APDUParser.parse objects true isAllowed).2[k]?.elim header (visit mode header) :=
  getElem?_onHeaders (fun _ _ h => (APDUParser.isOf_parse h).2) k

/-- What every header of a response keeps of a header, the response keeps of the set. -/
theorem forall_applyResponse {I : ICommandHeader → Prop}
    (hvisit : ∀ header parsed, I header → I (visit mode header parsed)) (objects : List UInt8)
    (hset : ∀ header ∈ set, I header) :
    ∀ header ∈ (applyResponse mode set objects).2, I header := by
  intro header hheader
  obtain ⟨k, hk⟩ := List.mem_iff_getElem?.mp hheader
  rw [getElem?_applyResponse, Option.map_eq_some_iff] at hk
  obtain ⟨old, hold, rfl⟩ := hk
  have hold := hset old (List.mem_of_getElem? hold)
  cases (APDUParser.parse objects true isAllowed).2[k]? with
  | none => exact hold
  | some parsed => exact hvisit old parsed hold

theorem asMade_visit (mode : Mode) (header : ICommandHeader) (parsed : ObjectHeader) :
    (visit mode header parsed).asMade = header.asMade := by
  unfold visit
  split
  · split
    · rfl
    · cases mode <;> simp
  · rfl

/-- No response changes the commands. -/
theorem asMade_applyResponse (mode : Mode) (set : CommandSet) (objects : List UInt8) :
    (applyResponse mode set objects).2.map ICommandHeader.asMade =
      set.map ICommandHeader.asMade := by
  ext k : 1
  rw [List.getElem?_map, getElem?_applyResponse, Option.map_map, List.getElem?_map]
  congr 1
  ext header : 1
  cases hparsed : (APDUParser.parse objects true isAllowed).2[k]? with
  | none => rfl
  | some parsed => exact asMade_visit mode header parsed

theorem asMade_of_mem (hmade : set.map ICommandHeader.asMade = set) {k : Nat}
    {header : ICommandHeader} (hk : set[k]? = some header) : header.asMade = header := by
  have hmap := congrArg (fun s : CommandSet => s[k]?) hmade
  simpa [hk] using hmap

theorem not_succeeded_of_asMade (hmade : set.map ICommandHeader.asMade = set) :
    ∀ header ∈ set, ¬ header.Succeeded := by
  intro header hheader
  obtain ⟨k, hk⟩ := List.mem_iff_getElem?.mp hheader
  exact ICommandHeader.not_succeeded_of_asMade (asMade_of_mem hmade hk)

/-- Sets of the same commands are sent alike. -/
theorem objects_congr {set' : CommandSet}
    (hmade : set'.map ICommandHeader.asMade = set.map ICommandHeader.asMade) :
    objects set' = objects set := by
  have hobjects (set : CommandSet) : objects set = objects (set.map ICommandHeader.asMade) := by
    simp [objects, List.flatMap_map]
  rw [hobjects set', hmade, ← hobjects]

/-- The objects parse, and header by header they are those that select the commands. -/
def SelectedBy (set : CommandSet) (objects : List UInt8) : Prop :=
  (APDUParser.parse objects true isAllowed).1 = .ok ∧
    ∀ (k : Nat) (header : ICommandHeader), set[k]? = some header → ∃ record count values,
      (APDUParser.parse objects true isAllowed).2[k]? = some (.prefixOf record count values) ∧
        header.SelectedBy values

/-- Every command that has succeeded is echoed at its position by the objects. -/
def EchoedWhereSucceeded (set : CommandSet) (objects : List UInt8) : Prop :=
  ∀ (k : Nat) (header : ICommandHeader), set[k]? = some header → header.Succeeded →
    ∃ record count values,
      (APDUParser.parse objects true isAllowed).2[k]? = some (.prefixOf record count values) ∧
        header.EchoedWhereSucceeded values

/-- When all points of a new set are selected, the response to the select has echoed them all. -/
theorem selectedBy_processSelectResponse (hmade : set.map ICommandHeader.asMade = set)
    (hne : ∀ header ∈ set, header.Nonempty) {objects : List UInt8}
    (hok : (processSelectResponse set objects).2 = .ok) : SelectedBy set objects := by
  unfold processSelectResponse at hok
  dsimp only at hok
  split at hok
  · cases hok
  next hresult =>
    have hresult : (applyResponse .select set objects).1 = .ok := by simpa using hresult
    refine ⟨hresult, fun k header hk => ?_⟩
    have hall : (applyResponse .select set objects).2.all ICommandHeader.areAllSelected = true := by
      by_contra hnot
      rw [if_neg hnot] at hok
      cases hok
    have hheader := asMade_of_mem hmade hk
    have hnonempty := hne header (List.mem_of_getElem? hk)
    rw [List.all_eq_true] at hall
    have hselected := hall _ (List.mem_of_getElem? (by
      rw [getElem?_applyResponse, hk, Option.map_some]))
    have hunvisited := ICommandHeader.not_areAllSelected hheader hnonempty
    cases hparsed : (APDUParser.parse objects true isAllowed).2[k]? with
    | none => simp [hparsed, hunvisited] at hselected
    | some parsed =>
      rw [hparsed, Option.elim_some] at hselected
      unfold visit at hselected
      split at hselected
      next record count values =>
        split at hselected
        · simp [hunvisited] at hselected
        · exact ⟨record, count, values, rfl,
            ICommandHeader.selectedBy_applySelectResponse hheader hnonempty hselected⟩
      · simp [hunvisited] at hselected

/-- The response to a select lets nothing succeed. -/
theorem not_succeeded_processSelectResponse (hset : ∀ header ∈ set, ¬ header.Succeeded)
    (objects : List UInt8) :
    ∀ header ∈ (processSelectResponse set objects).1, ¬ header.Succeeded := by
  have happlied : ∀ header ∈ (applyResponse .select set objects).2, ¬ header.Succeeded :=
    forall_applyResponse (fun header parsed h => ?_) objects hset
  · unfold processSelectResponse
    dsimp only
    split
    · exact happlied
    · exact happlied
  · unfold visit
    split
    · split
      · exact h
      · exact ICommandHeader.not_succeeded_applySelectResponse h _
    · exact h

theorem asMade_processSelectResponse (set : CommandSet) (objects : List UInt8) :
    (processSelectResponse set objects).1.map ICommandHeader.asMade =
      set.map ICommandHeader.asMade := by
  unfold processSelectResponse
  dsimp only
  split
  · exact asMade_applyResponse .select set objects
  · exact asMade_applyResponse .select set objects

/-- Where nothing has succeeded, what succeeds has been echoed by the response to the operate. -/
theorem echoed_processOperateResponse (hset : ∀ header ∈ set, ¬ header.Succeeded)
    (objects : List UInt8) :
    EchoedWhereSucceeded (processOperateResponse set objects).1 objects := by
  intro k header hk hsuccess
  have hk : (applyResponse .operate set objects).2[k]? = some header := hk
  rw [getElem?_applyResponse, Option.map_eq_some_iff] at hk
  obtain ⟨old, hold, rfl⟩ := hk
  have hold := hset old (List.mem_of_getElem? hold)
  cases hparsed : (APDUParser.parse objects true isAllowed).2[k]? with
  | none =>
    rw [hparsed] at hsuccess
    exact absurd hsuccess hold
  | some parsed =>
    rw [hparsed, Option.elim_some] at hsuccess
    rw [Option.elim_some]
    unfold visit at hsuccess ⊢
    split at hsuccess
    next record count values =>
      split at hsuccess
      · exact absurd hsuccess hold
      next hqualifier =>
        refine ⟨record, count, values, rfl, ?_⟩
        dsimp only
        rw [if_neg hqualifier]
        exact ICommandHeader.echoed_applyOperateResponse hold hsuccess
    · exact absurd hsuccess hold

/-- Headers that are written have commands. -/
theorem nonempty_of_write {writer writer' : HeaderWriter}
    (hw : write writer set = (writer', true)) : ∀ header ∈ set, header.Nonempty := by
  induction set generalizing writer with
  | nil => simp
  | cons first set ih =>
    rw [write] at hw
    split at hw
    next writer₁ hfirst =>
      rw [List.forall_mem_cons]
      exact ⟨ICommandHeader.nonempty_of_write hfirst, ih hw⟩
    · cases hw

end CommandSetOps
end Master
end Dnp3
