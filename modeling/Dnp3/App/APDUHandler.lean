import Dnp3.App.IINField
import Dnp3.App.Parser

/-!
# Handlers of object headers

The parser hands the headers of a request to a handler, one after the other.  A handler answers
every header with indications; `IAPDUHandler` collects them and counts the headers, and what a
handler does with a header may depend on the number of headers before it.

`APDUHandler` is that class with the fields of the handler that derives from it as a parameter, and
`APDUHandler.Process` the functions it overrides.  `onHeaders` is the second pass of the parser from
the handler's side.  Its two rules carry the proofs about requests: `onHeaders_tracks` for something
that every header adds to, `onHeaders_keeps` for something that every header keeps.

The last section says what a handler may rely on: the headers come with the numbers 0, 1, 2, ...  in
this order, and a header of a range without contents has a range that is not empty
(`hasRange_parse`).
-/

namespace Dnp3
namespace App

/-- `IINFromParseResult`. -/
def iinFromParseResult : ParseResult → IINField
  | .ok => .empty
  | .unknownObject => .ofBit .objectUnknown
  | _ => .ofBit .paramError

/-- What is kept over the headers of a request: the indications so far, the number of headers, and
the handler's own fields. -/
structure APDUHandler (S : Type) where
  errors : IINField
  numTotalHeaders : Nat
  state : S

namespace APDUHandler

variable {S : Type}

/-- The `ProcessHeader` functions of a handler, given the number of headers before this one. -/
abbrev Process (S : Type) := Nat → S → ObjectHeader → S × IINField

/-- `ProcessUnsupportedHeader`: what a handler does not override. -/
def processUnsupportedHeader (s : S) : S × IINField := (s, .ofBit .funcNotSupported)

/-- A handler that has seen no header. -/
def initial (s : S) : APDUHandler S where
  errors := .empty
  numTotalHeaders := 0
  state := s

/-- `OnHeader`: process a header and record its result. -/
def onHeader (process : Process S) (h : APDUHandler S) (header : ObjectHeader) : APDUHandler S :=
  let (state, result) := process h.numTotalHeaders h.state header
  { errors := h.errors.or result, numTotalHeaders := h.numTotalHeaders + 1, state := state }

/-- Process the headers in order, each with the errors and the state of those before it. -/
def onHeaders (process : Process S) (s : S) (headers : List ObjectHeader) : APDUHandler S :=
  headers.foldl (onHeader process) (initial s)

theorem onHeaders_append (process : Process S) (s : S) (headers headers' : List ObjectHeader) :
    onHeaders process s (headers ++ headers') =
      headers'.foldl (onHeader process) (onHeaders process s headers) :=
  List.foldl_append

theorem numTotalHeaders_foldl (process : Process S) (h : APDUHandler S)
    (headers : List ObjectHeader) :
    (headers.foldl (onHeader process) h).numTotalHeaders = h.numTotalHeaders + headers.length := by
  induction headers generalizing h with
  | nil => rfl
  | cons header headers ih =>
    rw [List.foldl_cons, ih, List.length_cons]
    show h.numTotalHeaders + 1 + headers.length = _
    omega

theorem numTotalHeaders_onHeaders (process : Process S) (s : S) (headers : List ObjectHeader) :
    (onHeaders process s headers).numTotalHeaders = headers.length := by
  rw [onHeaders, numTotalHeaders_foldl]
  exact Nat.zero_add _

/-- What every header adds to, all headers have added to. -/
theorem onHeaders_tracks {I : List ObjectHeader → S → Prop} {process : Process S} {s : S}
    (hstep : ∀ n done s header, I done s → I (done ++ [header]) (process n s header).1)
    (hs : I [] s) (headers : List ObjectHeader) :
    I headers (onHeaders process s headers).state := by
  suffices ∀ done (h : APDUHandler S), I done h.state →
      I (done ++ headers) (headers.foldl (onHeader process) h).state from
    this [] (initial s) hs
  induction headers with
  | nil =>
    intro done h hh
    rw [List.append_nil]
    exact hh
  | cons header headers ih =>
    intro done h hh
    rw [List.append_cons]
    exact ih _ _ (hstep _ _ _ header hh)

/-- What every header keeps, all headers keep. -/
theorem onHeaders_keeps {I : S → Prop} {process : Process S} {s : S}
    (hstep : ∀ n s header, I s → I (process n s header).1) (hs : I s)
    (headers : List ObjectHeader) : I (onHeaders process s headers).state := by
  suffices ∀ h : APDUHandler S, I h.state → I (headers.foldl (onHeader process) h).state from
    this (initial s) hs
  induction headers with
  | nil => exact fun _ h => h
  | cons header headers ih => exact fun h hh => ih _ (hstep _ _ header hh)

end APDUHandler

/-! ## The headers that the parser hands over -/

namespace ObjectHeader

/-- The header that the objects stand behind. -/
def record : ObjectHeader → HeaderRecord
  | .allObjects record | .count record _ | .range record _ | .countOf record _ _
  | .rangeOf record _ _ | .prefixOf record _ _ | .freeFormat record _ => record

end ObjectHeader

namespace APDUParser

/-- The range of a header without contents, when it has one, is not empty. -/
def HasRange : ObjectHeader → Prop
  | .range _ range => range.isValid = true
  | _ => True

/-- The header is about the object of the record, and has a range if it is one of a range. -/
structure IsOf (record : HeaderRecord) (header : ObjectHeader) : Prop where
  record : header.record = record
  hasRange : HasRange header

theorem isOf_process {buffer rest : List UInt8} {size : Nat} {record : HeaderRecord}
    {header header' : ObjectHeader} (h : process buffer size header = .ok (header', rest))
    (hheader : IsOf record header) : IsOf record header' := by
  rw [process] at h
  split at h
  · cases h
  · cases h
    exact hheader

theorem isValid_parseRange {n : NumParser} {buffer rest : List UInt8} {range : Range}
    (h : n.parseRange buffer = .ok (range, rest)) : range.isValid = true := by
  rw [NumParser.parseRange] at h
  split at h
  · cases h
  · dsimp only at h
    split at h
    next hvalid =>
      cases h
      exact hvalid
    · cases h

theorem isOf_rangeParser {n : NumParser} {buffer rest : List UInt8} {expectsContents : Bool}
    {record : HeaderRecord} {header : ObjectHeader}
    (h : RangeParser.parseHeader buffer n expectsContents record = .ok (header, rest)) :
    IsOf record header := by
  rw [RangeParser.parseHeader] at h
  split at h
  · cases h
  next range buffer' hrange =>
    split at h
    · rw [RangeParser.parseRangeOfObjects] at h
      split at h
      · exact isOf_process h ⟨rfl, trivial⟩
      · exact isOf_process h ⟨rfl, trivial⟩
      · exact isOf_process h ⟨rfl, trivial⟩
      · rw [RangeParser.parseRangeOfOctetData] at h
        split at h
        · exact isOf_process h ⟨rfl, trivial⟩
        · cases h
      · cases h
    · cases h
      exact ⟨rfl, isValid_parseRange hrange⟩

theorem isOf_countParser {n : NumParser} {buffer rest : List UInt8} {expectsContents : Bool}
    {record : HeaderRecord} {header : ObjectHeader}
    (h : CountParser.parseHeader buffer n expectsContents record = .ok (header, rest)) :
    IsOf record header := by
  rw [CountParser.parseHeader] at h
  split at h
  · cases h
  · split at h
    · rw [CountParser.parseCountOfObjects] at h
      split at h
      · exact isOf_process h ⟨rfl, trivial⟩
      · cases h
    · cases h
      exact ⟨rfl, trivial⟩

theorem isOf_countIndexParser {n : NumParser} {buffer rest : List UInt8}
    {record : HeaderRecord} {header : ObjectHeader}
    (h : CountIndexParser.parseHeader buffer n record = .ok (header, rest)) :
    IsOf record header := by
  rw [CountIndexParser.parseHeader] at h
  split at h
  · cases h
  · rw [CountIndexParser.parseCountOfObjects] at h
    split at h
    · exact isOf_process h ⟨rfl, trivial⟩
    · rw [CountIndexParser.parseIndexPrefixedOctetData] at h
      split at h
      · cases h
      · exact isOf_process h ⟨rfl, trivial⟩
    · cases h

theorem isOf_freeFormatParser {buffer rest : List UInt8} {record : HeaderRecord}
    {header : ObjectHeader} (h : FreeFormatParser.parseHeader buffer record = .ok (header, rest)) :
    IsOf record header := by
  rw [FreeFormatParser.parseHeader] at h
  split at h
  · cases h
  · dsimp only at h
    split at h
    · cases h
    · split at h
      · cases h
      · split at h
        · cases h
        · split at h
          · cases h
            exact ⟨rfl, trivial⟩
          · cases h

/-- A header carries its number. -/
theorem isOf_parseHeader {buffer rest : List UInt8} {count : Nat} {expectsContents : Bool}
    {whiteList : Option WhiteList} {header : ObjectHeader}
    (h : parseHeader buffer count expectsContents whiteList = .ok (header, rest)) :
    HasRange header ∧ header.record.headerIndex = count := by
  rw [parseHeader] at h
  split at h
  · cases h
  · dsimp only at h
    split at h
    · cases h
    · split at h
      · cases h
      · have hof : IsOf { GroupVariationRecord.getRecord (buffer.getD 0 0) (buffer.getD 1 0) with
            qualifier := buffer.getD 2 0
            headerIndex := count } header := by
          rw [parseQualifier] at h
          split at h
          · cases h
            exact ⟨rfl, trivial⟩
          · exact isOf_countParser h
          · exact isOf_countParser h
          · exact isOf_rangeParser h
          · exact isOf_rangeParser h
          · exact isOf_countIndexParser h
          · exact isOf_countIndexParser h
          · exact isOf_freeFormatParser h
          · cases h
        exact ⟨hof.hasRange, by rw [hof.record]⟩

theorem isOf_parseHeaders {expectsContents : Bool} {whiteList : Option WhiteList}
    (fuel count : Nat) (buffer : List UInt8) {k : Nat} {header : ObjectHeader}
    (h : (parseHeaders expectsContents whiteList fuel count buffer).2[k]? = some header) :
    HasRange header ∧ header.record.headerIndex = count + k := by
  induction fuel generalizing count buffer k with
  | zero => cases h
  | succ fuel ih =>
    rw [parseHeaders] at h
    split at h
    · cases h
    · split at h
      · cases h
      next first rest hfirst =>
        cases k with
        | zero =>
          obtain rfl : first = header := by simpa using h
          exact isOf_parseHeader hfirst
        | succ k =>
          have hrest := ih (count + 1) rest (by simpa using h)
          rwa [Nat.add_assoc, Nat.add_comm 1 k] at hrest

/-- The parser numbers its headers, and hands over no empty range. -/
theorem isOf_parse {buffer : List UInt8} {expectsContents : Bool} {whiteList : WhiteList} {k : Nat}
    {header : ObjectHeader} (h : (parse buffer expectsContents whiteList).2[k]? = some header) :
    HasRange header ∧ header.record.headerIndex = k := by
  rw [parse] at h
  dsimp only at h
  split at h
  · simpa using isOf_parseHeaders _ 0 _ h
  · cases h

theorem hasRange_parse {buffer : List UInt8} {expectsContents : Bool} {whiteList : WhiteList}
    {header : ObjectHeader} (h : header ∈ (parse buffer expectsContents whiteList).2) :
    HasRange header := by
  obtain ⟨k, hk⟩ := List.mem_iff_getElem?.mp h
  exact (isOf_parse hk).1

end APDUParser
end App
end Dnp3
