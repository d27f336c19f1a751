import Dnp3.App.HandledHeaders

/-!
# The two passes

The first pass of the parser asks the white-list and calls no handler; the second hands the headers
over.  A pass does the same with and without a handler, so that the second pass cannot fail where
the first did not: nothing is handed over of a section that is rejected, and everything of a section
that is accepted.

A section falls into one of the cases of `PassCases`, by induction on the bytes: it ends, its first
header is found by every pass (`StartsWith`), or it is rejected by every pass (`Fails`).  What a
pass asks and calls is then a function of the headers, `passCalls`, and the two passes are put
together in `parse_cases`.  From this come the three results of the module.

* `parse_eq`: what the handler receives is what the parser of `App.Parser` returns.
* `parse_all_or_nothing`: a rejected section hands nothing over, an accepted one all of its headers.
* `collections_inside`: sizes are exact, and a collection reads within the objects of its header.
-/

namespace Dnp3
namespace App
namespace Handled
namespace APDUParser

open Library
open App.APDUParser (WhiteList)

/-! ## One header -/

/-- The question a pass asks about a header. -/
def question (index : Nat) (h : HeaderBytes) : HandlerCall :=
  .isAllowed index h.gv.enumeration h.qualifierCode

/-- The white-list allows a header. -/
def allows (isAllowed : WhiteList) (index : Nat) (h : HeaderBytes) : Bool :=
  isAllowed index h.gv.enumeration h.qualifierCode

/-- Whether a pass goes on behind a header: it does without a white-list, or when it is allowed. -/
def passes (pWhiteList : Option WhiteList) (index : Nat) (h : HeaderBytes) : Bool :=
  pWhiteList.all fun isAllowed => allows isAllowed index h

/-- The questions of a pass. -/
def questions (pWhiteList : Option WhiteList) (index : Nat) (h : HeaderBytes) : List HandlerCall :=
  if pWhiteList.isSome then [question index h] else []

/-- The bytes start with a header, which every pass finds: it is handed over unless the white-list
rejects it. -/
structure StartsWith (expectsContents : Bool) (index : Nat) (buffer : List UInt8)
    (h : HeaderBytes) (callback : Callback) (rest : List UInt8) : Prop where
  bytes : buffer = h.bytes ++ rest
  laid : h.Laid expectsContents
  handsOver : HandsOver expectsContents h index callback
  handled : ∀ pHandler pWhiteList, passes pWhiteList index h = true →
    parseHeader buffer index expectsContents pHandler pWhiteList =
      .after (questions pWhiteList index h) (.ok pHandler callback rest)
  rejected : ∀ pHandler pWhiteList, passes pWhiteList index h = false →
    ∃ buffer', parseHeader buffer index expectsContents pHandler pWhiteList =
      .after (questions pWhiteList index h) (.error .notOnWhitelist buffer')
  parsed : ∀ pWhiteList,
    App.APDUParser.parseHeader buffer index expectsContents pWhiteList =
      if passes pWhiteList index h then .ok (callback.header, rest) else .error .notOnWhitelist

/-- Every pass fails at the header in front, without handing it over. -/
structure Fails (expectsContents : Bool) (index : Nat) (buffer : List UInt8) : Prop where
  handled : ∀ pHandler pWhiteList,
    ∃ e, e ≠ .ok ∧
      (parseHeader buffer index expectsContents pHandler pWhiteList).result = e ∧
      (parseHeader buffer index expectsContents pHandler pWhiteList).callbacks = [] ∧
      App.APDUParser.parseHeader buffer index expectsContents pWhiteList = .error e

section ThreeBytes

variable (expectsContents : Bool) (index : Nat) (group variation qualifier : UInt8)
  (rest : List UInt8)

theorem length_three : ¬ (group :: variation :: qualifier :: rest).length < 3 := by
  rw [List.length_cons, List.length_cons, List.length_cons]
  omega

theorem parseHeader_cons (pHandler : Bool) (pWhiteList : Option WhiteList) :
    parseHeader (group :: variation :: qualifier :: rest) index expectsContents pHandler
        pWhiteList =
      if (recordOf group variation qualifier index).enumeration = .unknown then
        .error .unknownObject rest
      else
        match pWhiteList with
        | none => parseQualifier rest (recordOf group variation qualifier index) expectsContents
            pHandler
        | some isAllowed =>
          .after [question index ⟨group, variation, qualifier, [], []⟩]
            (if allows isAllowed index ⟨group, variation, qualifier, [], []⟩ then
              parseQualifier rest (recordOf group variation qualifier index) expectsContents
                pHandler
            else .error .notOnWhitelist rest) := by
  rw [parseHeader, if_neg (length_three group variation qualifier rest)]
  rfl

theorem parsed_cons (pWhiteList : Option WhiteList) :
    App.APDUParser.parseHeader (group :: variation :: qualifier :: rest) index expectsContents
        pWhiteList =
      if (recordOf group variation qualifier index).enumeration = .unknown then
        .error .unknownObject
      else if pWhiteList.any fun isAllowed =>
          !allows isAllowed index ⟨group, variation, qualifier, [], []⟩ then
        .error .notOnWhitelist
      else
        App.APDUParser.parseQualifier rest (recordOf group variation qualifier index)
          expectsContents := by
  rw [App.APDUParser.parseHeader, if_neg (length_three group variation qualifier rest)]
  rfl

/-- What fails behind the qualifier fails in every pass. -/
theorem fails_of_rejected
    (hunknown : ¬ (recordOf group variation qualifier index).enumeration = .unknown)
    {e : ParseResult} (he : e ≠ .ok) {buffer : List UInt8}
    (hparsed : App.APDUParser.parseQualifier rest (recordOf group variation qualifier index)
      expectsContents = .error e)
    (hf : ∀ pHandler, parseQualifier rest (recordOf group variation qualifier index)
      expectsContents pHandler = .error e buffer) :
    Fails expectsContents index (group :: variation :: qualifier :: rest) := by
  refine ⟨fun pHandler pWhiteList => ?_⟩
  rw [parseHeader_cons, if_neg hunknown, parsed_cons, if_neg hunknown, hf, hparsed]
  cases pWhiteList with
  | none => exact ⟨e, he, rfl, rfl, rfl⟩
  | some isAllowed =>
    rw [Option.any_some]
    dsimp only
    cases allows isAllowed index ⟨group, variation, qualifier, [], []⟩ with
    | true => exact ⟨e, he, rfl, rfl, rfl⟩
    | false => exact ⟨.notOnWhitelist, by decide, rfl, rfl, rfl⟩

/-- What fits behind the qualifier is found by every pass. -/
theorem startsWith_of_accepted
    (hunknown : ¬ (recordOf group variation qualifier index).enumeration = .unknown)
    {field objects rest' : List UInt8} {callback : Callback}
    (hrest : rest = field ++ (objects ++ rest'))
    (hlaid : HeaderBytes.Laid expectsContents ⟨group, variation, qualifier, field, objects⟩)
    (hover : HandsOver expectsContents ⟨group, variation, qualifier, field, objects⟩ index callback)
    (hparsed : App.APDUParser.parseQualifier rest (recordOf group variation qualifier index)
      expectsContents = .ok (callback.header, rest'))
    (hf : ∀ pHandler, parseQualifier rest (recordOf group variation qualifier index)
      expectsContents pHandler = .ok pHandler callback rest') :
    StartsWith expectsContents index (group :: variation :: qualifier :: rest)
      ⟨group, variation, qualifier, field, objects⟩ callback rest' := by
  refine ⟨?_, hlaid, hover, ?_, ?_, ?_⟩
  · rw [hrest, HeaderBytes.bytes, List.cons_append, List.cons_append, List.cons_append,
      List.append_assoc]
  · intro pHandler pWhiteList hpass
    rw [parseHeader_cons, if_neg hunknown, hf]
    cases pWhiteList with
    | none => rfl
    | some isAllowed =>
      have hallowed : allows isAllowed index ⟨group, variation, qualifier, [], []⟩ = true := hpass
      dsimp only
      rw [if_pos hallowed]
      rfl
  · intro pHandler pWhiteList hpass
    cases pWhiteList with
    | none => exact absurd hpass.symm Bool.false_ne_true
    | some isAllowed =>
      have hallowed : ¬ allows isAllowed index ⟨group, variation, qualifier, [], []⟩ = true := by
        intro h
        exact Bool.false_ne_true (hpass.symm.trans h)
      refine ⟨rest, ?_⟩
      rw [parseHeader_cons, if_neg hunknown]
      dsimp only
      rw [if_neg hallowed]
      rfl
  · intro pWhiteList
    rw [parsed_cons, if_neg hunknown, hparsed]
    cases pWhiteList with
    | none => rfl
    | some isAllowed =>
      have hpasses : passes (some isAllowed) index ⟨group, variation, qualifier, field, objects⟩ =
        allows isAllowed index ⟨group, variation, qualifier, [], []⟩ := rfl
      rw [hpasses, Option.any_some]
      cases allows isAllowed index ⟨group, variation, qualifier, [], []⟩ <;> rfl

end ThreeBytes

/-- A header is found by all passes or by none. -/
theorem parseHeader_cases (expectsContents : Bool) (index : Nat) (buffer : List UInt8) :
    Fails expectsContents index buffer ∨
      ∃ h callback rest, StartsWith expectsContents index buffer h callback rest := by
  rcases buffer with _ | ⟨group, _ | ⟨variation, _ | ⟨qualifier, rest⟩⟩⟩
  · exact .inl ⟨fun _ _ => ⟨.notEnoughDataForHeader, by decide, rfl, rfl, rfl⟩⟩
  · exact .inl ⟨fun _ _ => ⟨.notEnoughDataForHeader, by decide, rfl, rfl, rfl⟩⟩
  · exact .inl ⟨fun _ _ => ⟨.notEnoughDataForHeader, by decide, rfl, rfl, rfl⟩⟩
  by_cases hunknown : (recordOf group variation qualifier index).enumeration = .unknown
  · refine .inl ⟨fun pHandler pWhiteList => ⟨.unknownObject, by decide, ?_, ?_, ?_⟩⟩
    · rw [parseHeader_cons, if_pos hunknown]
      rfl
    · rw [parseHeader_cons, if_pos hunknown]
      rfl
    · rw [parsed_cons, if_pos hunknown]
  cases handles_qualifier expectsContents group variation qualifier index rest with
  | rejected e buffer he hparsed hf =>
    exact .inl (fails_of_rejected expectsContents index group variation qualifier rest hunknown he
      hparsed hf)
  | accepted callback rest' hQ hparsed hf =>
    obtain ⟨field, objects, hrest, hlaid, hover⟩ := hQ
    exact .inr ⟨_, _, _, startsWith_of_accepted expectsContents index group variation qualifier
      rest hunknown hrest hlaid hover hparsed hf⟩

/-! ## A pass -/

/-- The headers of a section and the callbacks that hand them over, from number `index` on. -/
inductive Handed (expectsContents : Bool) :
    Nat → List UInt8 → List HeaderBytes → List Callback → Prop
  | nil (index : Nat) : Handed expectsContents index [] [] []
  | cons {index : Nat} {buffer rest : List UInt8} {h : HeaderBytes} {callback : Callback}
      {headers : List HeaderBytes} {callbacks : List Callback}
      (hstarts : StartsWith expectsContents index buffer h callback rest)
      (hrest : Handed expectsContents (index + 1) rest headers callbacks) :
      Handed expectsContents index buffer (h :: headers) (callback :: callbacks)

theorem Handed.headersOf {expectsContents : Bool} {index : Nat} {buffer : List UInt8}
    {headers : List HeaderBytes} {callbacks : List Callback}
    (h : Handed expectsContents index buffer headers callbacks) :
    HeadersOf expectsContents buffer headers := by
  induction h with
  | nil index => exact headersOf_nil expectsContents
  | cons hstarts hrest ih =>
    rw [hstarts.bytes]
    exact ih.cons hstarts.laid

theorem Handed.length {expectsContents : Bool} {index : Nat} {buffer : List UInt8}
    {headers : List HeaderBytes} {callbacks : List Callback}
    (h : Handed expectsContents index buffer headers callbacks) :
    callbacks.length = headers.length := by
  induction h with
  | nil index => rfl
  | cons hstarts hrest ih => rw [List.length_cons, List.length_cons, ih]

/-- The callback at a position hands over the header there. -/
theorem Handed.getElem {expectsContents : Bool} {index : Nat} {buffer : List UInt8}
    {headers : List HeaderBytes} {callbacks : List Callback}
    (h : Handed expectsContents index buffer headers callbacks) {i : Nat} {header : HeaderBytes}
    (hi : headers[i]? = some header) :
    ∃ callback, callbacks[i]? = some callback ∧
      HandsOver expectsContents header (index + i) callback := by
  induction h generalizing i with
  | nil index => exact absurd hi.symm (Option.some_ne_none header)
  | @cons index buffer rest first callback headers callbacks hstarts hrest ih =>
    cases i with
    | zero =>
      rw [List.getElem?_cons_zero, Option.some_inj] at hi
      subst hi
      exact ⟨callback, rfl, hstarts.handsOver⟩
    | succ i =>
      obtain ⟨callback', hget, hover⟩ := ih hi
      rw [Nat.add_right_comm, Nat.add_assoc] at hover
      exact ⟨callback', hget, hover⟩

/-- The calls of a pass that accepts the headers. -/
def passCalls (pHandler : Bool) (pWhiteList : Option WhiteList) :
    Nat → List HeaderBytes → List Callback → List HandlerCall
  | index, h :: headers, callback :: callbacks =>
    questions pWhiteList index h ++
      ((if pHandler then [.onHeader callback] else []) ++
        passCalls pHandler pWhiteList (index + 1) headers callbacks)
  | _, _, _ => []

theorem passCalls_first (isAllowed : WhiteList) {headers : List HeaderBytes} :
    ∀ {index : Nat} {callbacks : List Callback}, callbacks.length = headers.length →
      passCalls false (some isAllowed) index headers callbacks =
        headers.mapIdx fun i h => question (index + i) h := by
  induction headers with
  | nil => exact fun _ => rfl
  | cons h headers ih =>
    intro index callbacks hlen
    cases callbacks with
    | nil => exact absurd hlen.symm (Nat.succ_ne_zero _)
    | cons callback callbacks =>
      rw [passCalls, ih (Nat.succ.inj hlen), List.mapIdx_cons]
      show question index h :: _ = _
      congr 1
      refine List.mapIdx_eq_mapIdx_iff.mpr fun i _ => ?_
      rw [Nat.add_right_comm, Nat.add_assoc]

theorem passCalls_second {headers : List HeaderBytes} :
    ∀ {index : Nat} {callbacks : List Callback}, callbacks.length = headers.length →
      passCalls true none index headers callbacks = callbacks.map HandlerCall.onHeader := by
  induction headers with
  | nil =>
    intro index callbacks hlen
    rw [List.length_eq_zero_iff.mp hlen]
    rfl
  | cons h headers ih =>
    intro index callbacks hlen
    cases callbacks with
    | nil => exact absurd hlen.symm (Nat.succ_ne_zero _)
    | cons callback callbacks =>
      rw [passCalls, ih (Nat.succ.inj hlen)]
      rfl

theorem not_isEmpty_of_starts {expectsContents : Bool} {index : Nat} {buffer rest : List UInt8}
    {h : HeaderBytes} {callback : Callback}
    (hstarts : StartsWith expectsContents index buffer h callback rest) :
    ¬ buffer.isEmpty = true := by
  intro hempty
  have hbytes := hstarts.bytes
  rw [List.isEmpty_iff.mp hempty] at hbytes
  exact h.bytes_ne_nil (List.append_eq_nil_iff.mp hbytes.symm).1

/-- The loop at a header that is handed over. -/
theorem parseHeaders_of_starts {expectsContents : Bool} {pWhiteList : Option WhiteList}
    {index : Nat} {buffer rest : List UInt8} {h : HeaderBytes} {callback : Callback} (fuel : Nat)
    (hstarts : StartsWith expectsContents index buffer h callback rest)
    (hpass : passes pWhiteList index h = true) (pHandler : Bool) :
    parseHeaders expectsContents pHandler pWhiteList (fuel + 1) index buffer =
      ((parseHeaders expectsContents pHandler pWhiteList fuel (index + 1) rest).1,
        questions pWhiteList index h ++
          ((if pHandler then [HandlerCall.onHeader callback] else []) ++
            (parseHeaders expectsContents pHandler pWhiteList fuel (index + 1) rest).2)) := by
  rw [parseHeaders, if_neg (not_isEmpty_of_starts hstarts)]
  dsimp only
  rw [hstarts.handled pHandler pWhiteList hpass, ← List.append_assoc]
  rfl

theorem parsed_of_starts {expectsContents : Bool} {pWhiteList : Option WhiteList}
    {index : Nat} {buffer rest : List UInt8} {h : HeaderBytes} {callback : Callback} (fuel : Nat)
    (hstarts : StartsWith expectsContents index buffer h callback rest)
    (hpass : passes pWhiteList index h = true) :
    App.APDUParser.parseHeaders expectsContents pWhiteList (fuel + 1) index buffer =
      ((App.APDUParser.parseHeaders expectsContents pWhiteList fuel (index + 1) rest).1,
        callback.header ::
          (App.APDUParser.parseHeaders expectsContents pWhiteList fuel (index + 1) rest).2) := by
  have hparsed := hstarts.parsed pWhiteList
  rw [hpass, if_pos rfl] at hparsed
  exact App.APDUParser.parseHeaders_ok fuel hparsed

/-- Every pass that allows the headers of a section finds them, and hands them over when it has a
handler. -/
theorem Handed.pass {expectsContents : Bool} {index : Nat} {buffer : List UInt8}
    {headers : List HeaderBytes} {callbacks : List Callback}
    (h : Handed expectsContents index buffer headers callbacks) {pWhiteList : Option WhiteList}
    (hallowed : ∀ i h, headers[i]? = some h → passes pWhiteList (index + i) h = true) :
    ∀ fuel, buffer.length ≤ fuel →
      (∀ pHandler, parseHeaders expectsContents pHandler pWhiteList fuel index buffer =
        (.ok, passCalls pHandler pWhiteList index headers callbacks)) ∧
      App.APDUParser.parseHeaders expectsContents pWhiteList fuel index buffer =
        (.ok, callbacks.map Callback.header) := by
  induction h with
  | nil index =>
    intro fuel _
    cases fuel with
    | zero => exact ⟨fun _ => rfl, rfl⟩
    | succ fuel => exact ⟨fun _ => rfl, rfl⟩
  | @cons index buffer rest first callback headers callbacks hstarts hrest ih =>
    intro fuel hlen
    have hbytes := congrArg List.length hstarts.bytes
    rw [List.length_append, HeaderBytes.length_bytes] at hbytes
    have hfirst : passes pWhiteList index first = true := hallowed 0 first rfl
    have hnext : ∀ i h, headers[i]? = some h → passes pWhiteList (index + 1 + i) h = true := by
      intro i h hi
      have hpasses := hallowed (i + 1) h hi
      rwa [← Nat.add_assoc, Nat.add_right_comm] at hpasses
    obtain ⟨fuel, rfl⟩ : ∃ k, fuel = k + 1 := ⟨fuel - 1, by omega⟩
    obtain ⟨hpass, hparsed⟩ := ih hnext fuel (by omega)
    refine ⟨fun pHandler => ?_, ?_⟩
    · rw [parseHeaders_of_starts fuel hstarts hfirst, hpass, passCalls]
    · rw [parsed_of_starts fuel hstarts hfirst, hparsed]
      rfl

/-- What a pass does with the bytes of a section. -/
inductive PassCases (expectsContents : Bool) (pWhiteList : Option WhiteList) (fuel index : Nat)
    (buffer : List UInt8) : Prop
  | rejected (e : ParseResult) (he : e ≠ .ok)
      (hpass : ∀ pHandler,
        (parseHeaders expectsContents pHandler pWhiteList fuel index buffer).1 = e)
      (hfirst : (parseHeaders expectsContents false pWhiteList fuel index buffer).2.filterMap
        HandlerCall.callback? = [])
      (hparsed :
        (App.APDUParser.parseHeaders expectsContents pWhiteList fuel index buffer).1 = e)
  | accepted (headers : List HeaderBytes) (callbacks : List Callback)
      (hhanded : Handed expectsContents index buffer headers callbacks)
      (hallowed : ∀ i h, headers[i]? = some h → passes pWhiteList (index + i) h = true)

/-- The loop at a header that every pass rejects. -/
theorem passCases_of_fails {expectsContents : Bool} {pWhiteList : Option WhiteList}
    {fuel index : Nat} {buffer : List UInt8} (hne : ¬ buffer.isEmpty = true)
    (h : Fails expectsContents index buffer) :
    PassCases expectsContents pWhiteList (fuel + 1) index buffer := by
  obtain ⟨e, he, -, -, hparsed⟩ := h.handled false pWhiteList
  have hpass : ∀ pHandler,
      parseHeaders expectsContents pHandler pWhiteList (fuel + 1) index buffer =
        (e, (parseHeader buffer index expectsContents pHandler pWhiteList).calls) := by
    intro pHandler
    obtain ⟨e', he', hresult', -, hparsed'⟩ := h.handled pHandler pWhiteList
    obtain rfl : e = e' := by
      rw [hparsed] at hparsed'
      exact Except.error.inj hparsed'
    rw [parseHeaders, if_neg hne]
    dsimp only
    rw [hresult', if_neg he]
  refine .rejected e he (fun pHandler => by rw [hpass]) ?_ ?_
  · rw [hpass]
    obtain ⟨-, -, -, hcallbacks, -⟩ := h.handled false pWhiteList
    exact hcallbacks
  · rw [App.APDUParser.parseHeaders, if_neg hne, hparsed]

/-- The loop at a header that is not on the white-list. -/
theorem passCases_of_rejected {expectsContents : Bool} {pWhiteList : Option WhiteList}
    {fuel index : Nat} {buffer rest : List UInt8} {h : HeaderBytes} {callback : Callback}
    (hstarts : StartsWith expectsContents index buffer h callback rest)
    (hpass : passes pWhiteList index h = false) :
    PassCases expectsContents pWhiteList (fuel + 1) index buffer := by
  have hne := not_isEmpty_of_starts hstarts
  have hloop : ∀ pHandler,
      parseHeaders expectsContents pHandler pWhiteList (fuel + 1) index buffer =
        (.notOnWhitelist, questions pWhiteList index h ++ []) := by
    intro pHandler
    obtain ⟨buffer', hparse⟩ := hstarts.rejected pHandler pWhiteList hpass
    rw [parseHeaders, if_neg hne]
    dsimp only
    rw [hparse]
    rfl
  refine .rejected .notOnWhitelist (by decide) (fun pHandler => by rw [hloop]) ?_ ?_
  · rw [hloop, List.append_nil, questions]
    split <;> rfl
  · rw [App.APDUParser.parseHeaders, if_neg hne, hstarts.parsed, hpass,
      if_neg Bool.false_ne_true]

/-- The loop at a header that is handed over, from what it does behind it. -/
theorem passCases_of_starts {expectsContents : Bool} {pWhiteList : Option WhiteList}
    {fuel index : Nat} {buffer rest : List UInt8} {h : HeaderBytes} {callback : Callback}
    (hstarts : StartsWith expectsContents index buffer h callback rest)
    (hpass : passes pWhiteList index h = true)
    (hrest : PassCases expectsContents pWhiteList fuel (index + 1) rest) :
    PassCases expectsContents pWhiteList (fuel + 1) index buffer := by
  cases hrest with
  | rejected e he hp hfirst hp' =>
    refine .rejected e he (fun pHandler => ?_) ?_ ?_
    · rw [parseHeaders_of_starts fuel hstarts hpass]
      exact hp pHandler
    · rw [parseHeaders_of_starts fuel hstarts hpass, List.filterMap_append, List.filterMap_append,
        hfirst, questions]
      split <;> rfl
    · rw [parsed_of_starts fuel hstarts hpass]
      exact hp'
  | accepted headers callbacks hhanded hallowed =>
    refine .accepted (h :: headers) (callback :: callbacks) (.cons hstarts hhanded) ?_
    intro i header hi
    cases i with
    | zero =>
      rw [List.getElem?_cons_zero, Option.some_inj] at hi
      rw [← hi]
      exact hpass
    | succ i =>
      have hnext := hallowed i header hi
      rw [Nat.add_right_comm] at hnext
      exact hnext

/-- A pass over the bytes of a section. -/
theorem pass_cases (expectsContents : Bool) (pWhiteList : Option WhiteList) (fuel : Nat) :
    ∀ (index : Nat) (buffer : List UInt8), buffer.length ≤ fuel →
      PassCases expectsContents pWhiteList fuel index buffer := by
  induction fuel with
  | zero =>
    intro index buffer hlen
    rw [List.length_eq_zero_iff.mp (Nat.le_zero.mp hlen)]
    exact .accepted [] [] (.nil index) fun i h hi => absurd hi.symm (Option.some_ne_none h)
  | succ fuel ih =>
    intro index buffer hlen
    by_cases hempty : buffer.isEmpty = true
    · rw [List.isEmpty_iff.mp hempty]
      exact .accepted [] [] (.nil index) fun i h hi => absurd hi.symm (Option.some_ne_none h)
    rcases parseHeader_cases expectsContents index buffer with hfails | ⟨h, callback, rest, hstarts⟩
    · exact passCases_of_fails hempty hfails
    · cases hpass : passes pWhiteList index h with
      | false => exact passCases_of_rejected hstarts hpass
      | true =>
        refine passCases_of_starts hstarts hpass (ih _ _ ?_)
        have hbytes := congrArg List.length hstarts.bytes
        rw [List.length_append, HeaderBytes.length_bytes] at hbytes
        omega

/-! ## Both passes -/

/-- The headers that the calls hand over. -/
def handedOver (calls : List HandlerCall) : List Callback := calls.filterMap HandlerCall.callback?

theorem handedOver_questions (headers : List HeaderBytes) :
    handedOver (headers.mapIdx question) = [] := by
  rw [handedOver, List.filterMap_eq_nil_iff]
  intro call hmem
  obtain ⟨i, hi, rfl⟩ := List.mem_mapIdx.mp hmem
  rfl

theorem handedOver_onHeader (callbacks : List Callback) :
    handedOver (callbacks.map HandlerCall.onHeader) = callbacks := by
  rw [handedOver, List.filterMap_map]
  exact List.filterMap_some

/-- What the two passes do with a section. -/
inductive ParseCases (expectsContents : Bool) (isAllowed : WhiteList) (buffer : List UInt8) : Prop
  | rejected (he : (parse buffer expectsContents isAllowed).1 ≠ .ok)
      (hnothing : handedOver (parse buffer expectsContents isAllowed).2 = [])
      (hparsed : App.APDUParser.parse buffer expectsContents isAllowed =
        ((parse buffer expectsContents isAllowed).1, []))
  | accepted (headers : List HeaderBytes) (callbacks : List Callback)
      (hhanded : Handed expectsContents 0 buffer headers callbacks)
      (hallowed : ∀ i h, headers[i]? = some h → allows isAllowed i h = true)
      (hparse : parse buffer expectsContents isAllowed =
        (.ok, headers.mapIdx question ++ callbacks.map HandlerCall.onHeader))
      (hparsed : App.APDUParser.parse buffer expectsContents isAllowed =
        (.ok, callbacks.map Callback.header))

theorem parse_cases (expectsContents : Bool) (isAllowed : WhiteList) (buffer : List UInt8) :
    ParseCases expectsContents isAllowed buffer := by
  have hfirst := pass_cases expectsContents (some isAllowed) buffer.length 0 buffer (Nat.le_refl _)
  cases hfirst with
  | rejected e he hpass hcallbacks hparsed =>
    have hparse : parse buffer expectsContents isAllowed =
        parseSinglePass buffer expectsContents false (some isAllowed) := by
      rw [parse]
      dsimp only
      rw [parseSinglePass, hpass, if_neg he]
    have he' : (parse buffer expectsContents isAllowed).1 = e := by
      rw [hparse]
      exact hpass false
    refine .rejected (by rwa [he']) ?_ ?_
    · rw [hparse]
      exact hcallbacks
    · rw [he', App.APDUParser.parse]
      dsimp only
      rw [App.APDUParser.parseSinglePass, hparsed, if_neg he]
  | accepted headers callbacks hhanded hallowed =>
    have hlen := hhanded.length
    obtain ⟨hpass, hparsed⟩ := hhanded.pass hallowed buffer.length (Nat.le_refl _)
    -- without a white-list the second pass finds the headers that the first has found
    have hunlisted : ∀ (i : Nat) (h : HeaderBytes), headers[i]? = some h →
        passes none (0 + i) h = true := fun _ _ _ => rfl
    obtain ⟨hpass', hparsed'⟩ := hhanded.pass hunlisted buffer.length (Nat.le_refl _)
    refine .accepted headers callbacks hhanded ?_ ?_ ?_
    · intro i h hi
      have hpasses := hallowed i h hi
      rwa [Nat.zero_add] at hpasses
    · rw [parse]
      dsimp only
      rw [parseSinglePass, hpass, if_pos rfl, parseSinglePass, hpass',
        passCalls_first isAllowed hlen, passCalls_second hlen]
      simp only [Nat.zero_add]
    · rw [App.APDUParser.parse]
      dsimp only
      rw [App.APDUParser.parseSinglePass, hparsed, if_pos rfl, App.APDUParser.parseSinglePass,
        hparsed']

/-- The calls of an accepted section hand over its headers. -/
theorem handedOver_parse {expectsContents : Bool} {isAllowed : WhiteList} {buffer : List UInt8}
    {headers : List HeaderBytes} {callbacks : List Callback}
    (hparse : parse buffer expectsContents isAllowed =
      (.ok, headers.mapIdx question ++ callbacks.map HandlerCall.onHeader)) :
    handedOver (parse buffer expectsContents isAllowed).2 = callbacks := by
  rw [hparse, handedOver, List.filterMap_append]
  show handedOver _ ++ handedOver _ = callbacks
  rw [handedOver_questions, handedOver_onHeader, List.nil_append]

/-- What the handler receives is what the parser without handlers returns. -/
theorem parse_eq (buffer : List UInt8) (expectsContents : Bool) (isAllowed : WhiteList) :
    App.APDUParser.parse buffer expectsContents isAllowed =
      ((parse buffer expectsContents isAllowed).1,
        (handedOver (parse buffer expectsContents isAllowed).2).map Callback.header) := by
  cases parse_cases expectsContents isAllowed buffer with
  | rejected he hnothing hparsed =>
    rw [hparsed, hnothing]
    rfl
  | accepted headers callbacks hhanded hallowed hparse hparsed =>
    rw [hparsed, handedOver_parse hparse, hparse]

/-- A section that is rejected hands over nothing.  A section that is accepted consists of headers
(`HeadersOf.unique`: of no others), all of them on the white-list; each is asked about once and then
handed over once, in order, with its number. -/
theorem parse_all_or_nothing (buffer : List UInt8) (expectsContents : Bool)
    (isAllowed : WhiteList) :
    ((parse buffer expectsContents isAllowed).1 ≠ .ok →
      handedOver (parse buffer expectsContents isAllowed).2 = []) ∧
    ((parse buffer expectsContents isAllowed).1 = .ok →
      ∃ headers, HeadersOf expectsContents buffer headers ∧
        (∀ i h, headers[i]? = some h → allows isAllowed i h = true) ∧
        (parse buffer expectsContents isAllowed).2 = headers.mapIdx question ++
          (handedOver (parse buffer expectsContents isAllowed).2).map .onHeader ∧
        (handedOver (parse buffer expectsContents isAllowed).2).map Callback.record =
          headers.mapIdx fun i h => h.record i) := by
  cases parse_cases expectsContents isAllowed buffer with
  | rejected he hnothing hparsed => exact ⟨fun _ => hnothing, fun h => absurd h he⟩
  | accepted headers callbacks hhanded hallowed hparse hparsed =>
    refine ⟨fun he => absurd (by rw [hparse]) he, fun _ => ?_⟩
    have hcallbacks := handedOver_parse hparse
    refine ⟨headers, hhanded.headersOf, hallowed, ?_, ?_⟩
    · rw [hcallbacks, hparse]
    · rw [hcallbacks]
      refine List.ext_getElem? fun i => ?_
      rw [List.getElem?_map, List.getElem?_mapIdx]
      cases hi : headers[i]? with
      | none =>
        have hlen := hhanded.length
        rw [List.getElem?_eq_none_iff] at hi
        rw [List.getElem?_eq_none (by omega)]
        rfl
      | some header =>
        obtain ⟨callback, hget, hover⟩ := hhanded.getElem hi
        rw [Nat.zero_add] at hover
        rw [hget, Option.map_some, Option.map_some, hover.record]

/-- Two class scans. -/
theorem parse_all_or_nothing_scan :
    ∃ headers, HeadersOf true [60, 2, 6, 60, 3, 6] headers ∧
      (handedOver (parse [60, 2, 6, 60, 3, 6] true fun _ _ _ => true).2).map Callback.record =
        headers.mapIdx fun i h => h.record i := by
  obtain ⟨headers, hheaders, -, -, hrecords⟩ :=
    (parse_all_or_nothing [60, 2, 6, 60, 3, 6] true fun _ _ _ => true).2 (by decide +kernel)
  exact ⟨headers, hheaders, hrecords⟩

/-- No required size wraps.  Every header that is parsed takes its own bytes off the front, and a
collection that is handed over with it reads the objects of the header and nothing behind them,
where reading a bit or a byte that is not there fails (`StaysInside`, `readBit`); it yields the
announced number of elements, with the indices of the range or the ones in front of the values
(`HandsOver`).  The headers of an accepted section add up to it. -/
theorem collections_inside (expectsContents : Bool) :
    (∀ record, SizesExact record) ∧
    (∀ buffer index,
      (parseHeader buffer index expectsContents true none).result = .ok →
      ∃ h callback,
        buffer = h.bytes ++ (parseHeader buffer index expectsContents true none).buffer ∧
        h.Laid expectsContents ∧
        (parseHeader buffer index expectsContents true none).calls = [.onHeader callback] ∧
        HandsOver expectsContents h index callback) ∧
    (∀ buffer isAllowed, (parse buffer expectsContents isAllowed).1 = .ok →
      ∃ headers, HeadersOf expectsContents buffer headers ∧
        (headers.map fun h => h.bytes.length).sum = buffer.length ∧
        (handedOver (parse buffer expectsContents isAllowed).2).length = headers.length ∧
        ∀ i h, headers[i]? = some h →
          ∃ callback, (handedOver (parse buffer expectsContents isAllowed).2)[i]? = some callback ∧
            HandsOver expectsContents h i callback) := by
  refine ⟨sizesExact, ?_, ?_⟩
  · intro buffer index hok
    rcases parseHeader_cases expectsContents index buffer with hfails | ⟨h, callback, rest, hstarts⟩
    · obtain ⟨e, he, hresult, -⟩ := hfails.handled true none
      exact absurd (hresult.symm.trans hok) he
    · have hparse := hstarts.handled true none rfl
      refine ⟨h, callback, ?_, hstarts.laid, ?_, hstarts.handsOver⟩
      · rw [hparse]
        exact hstarts.bytes
      · rw [hparse]
        rfl
  · intro buffer isAllowed hok
    cases parse_cases expectsContents isAllowed buffer with
    | rejected he hnothing hparsed => exact absurd hok he
    | accepted headers callbacks hhanded hallowed hparse hparsed =>
      have hcallbacks := handedOver_parse hparse
      rw [hcallbacks]
      refine ⟨headers, hhanded.headersOf, hhanded.headersOf.length, hhanded.length, ?_⟩
      intro i h hi
      obtain ⟨callback, hget, hover⟩ := hhanded.getElem hi
      rw [Nat.zero_add] at hover
      exact ⟨callback, hget, hover⟩

end APDUParser
end Handled
end App
end Dnp3
