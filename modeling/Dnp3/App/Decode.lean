import Dnp3.App.HeaderRoom

/-!
# Decoded objects

What a fragment says is the list of its objects, whatever headers they stand under: for each the
group variation and the value with its index.  `Parses` relates bytes to the objects that the parser
finds in them, one header after the other, and `decodeFragment` is what a handler that allows
everything sees.

Two fragments that announce the same objects under different headers decode to the same list, and
that is what makes the list the right thing to speak of when a response is compared with the events
or the points it was made of.  `Parses` is closed under appending (`Parses.append`), so a fragment
is decoded by writing it header by header; `Contents.parses_emit` is the step, and says that a
header that was written by an iterator decodes to the values that the iterator took, each as its
variation transmits it.
-/

namespace Dnp3
namespace App

/-- An object: its group variation, and a collection of one value. -/
structure DecodedObject where
  gv : GroupVariation
  value : Values
  deriving DecidableEq, Repr

/-- The values of a collection one at a time. -/
def Values.singles : Values → List Values
  | iinValue vs => vs.map fun v => iinValue [v]
  | binary vs => vs.map fun v => binary [v]
  | doubleBitBinary vs => vs.map fun v => doubleBitBinary [v]
  | binaryOutputStatus vs => vs.map fun v => binaryOutputStatus [v]
  | counter vs => vs.map fun v => counter [v]
  | frozenCounter vs => vs.map fun v => frozenCounter [v]
  | analog vs => vs.map fun v => analog [v]
  | analogOutputStatus vs => vs.map fun v => analogOutputStatus [v]
  | octetString vs => vs.map fun v => octetString [v]
  | timeAndInterval vs => vs.map fun v => timeAndInterval [v]
  | group121Var1 vs => vs.map fun v => group121Var1 [v]
  | group122Var1 vs => vs.map fun v => group122Var1 [v]
  | group122Var2 vs => vs.map fun v => group122Var2 [v]
  | binaryCommandEvent vs => vs.map fun v => binaryCommandEvent [v]
  | analogCommandEvent vs => vs.map fun v => analogCommandEvent [v]
  | controlRelayOutputBlock vs => vs.map fun v => controlRelayOutputBlock [v]
  | analogOutputInt16 vs => vs.map fun v => analogOutputInt16 [v]
  | analogOutputInt32 vs => vs.map fun v => analogOutputInt32 [v]
  | analogOutputFloat32 vs => vs.map fun v => analogOutputFloat32 [v]
  | analogOutputDouble64 vs => vs.map fun v => analogOutputDouble64 [v]
  | group50Var1 vs => vs.map fun v => group50Var1 [v]
  | group51Var1 vs => vs.map fun v => group51Var1 [v]
  | group51Var2 vs => vs.map fun v => group51Var2 [v]
  | group52Var1 vs => vs.map fun v => group52Var1 [v]
  | group52Var2 vs => vs.map fun v => group52Var2 [v]
  | group120Var4 vs => vs.map fun v => group120Var4 [v]

/-- The time of a single measurement. -/
def Values.time : Values → Option DNPTime
  | binary [v] => some v.value.time
  | doubleBitBinary [v] => some v.value.time
  | binaryOutputStatus [v] => some v.value.time
  | counter [v] => some v.value.time
  | frozenCounter [v] => some v.value.time
  | analog [v] => some v.value.time
  | analogOutputStatus [v] => some v.value.time
  | group122Var1 [v] => some v.value.time
  | group122Var2 [v] => some v.value.time
  | _ => none

/-- The objects under a header. -/
def ObjectHeader.objects : ObjectHeader → List DecodedObject
  | rangeOf record _ values | prefixOf record _ values | countOf record _ values =>
    values.singles.map fun v => ⟨record.enumeration, v⟩
  | allObjects _ | count _ _ | range _ _ | freeFormat _ _ => []

/-- The objects of a fragment, when it parses. -/
def decodeFragment (bytes : List UInt8) : Option (List DecodedObject) :=
  match APDUParser.parse bytes true fun _ _ _ => true with
  | (.ok, headers) => some (headers.flatMap ObjectHeader.objects)
  | _ => none

/-- The objects of some fragments, when all of them parse. -/
def decodeFragments (fragments : List (List UInt8)) : Option (List DecodedObject) :=
  (fragments.mapM decodeFragment).map List.flatten

/-- The bytes are headers with these objects under them. -/
inductive Parses : List UInt8 → List DecodedObject → Prop where
  | nil : Parses [] []
  | cons {bytes rest : List UInt8} {objects objects' : List DecodedObject}
      (header : ∀ (count : Nat) (whiteList : Option APDUParser.WhiteList) (tail : List UInt8),
        (∀ allowed ∈ whiteList, ∀ gv qc, allowed count gv qc) →
        ∃ h, APDUParser.parseHeader (bytes ++ tail) count true whiteList = .ok (h, tail) ∧
          h.objects = objects)
      (tail : Parses rest objects') : Parses (bytes ++ rest) (objects ++ objects')

namespace Parses

variable {bytes bytes' : List UInt8} {objects objects' : List DecodedObject}

theorem append (h : Parses bytes objects) (h' : Parses bytes' objects') :
    Parses (bytes ++ bytes') (objects ++ objects') := by
  induction h with
  | nil => exact h'
  | cons header _ ih =>
    rw [List.append_assoc, List.append_assoc]
    exact .cons header ih

/-- The parser finds the objects. -/
theorem parseHeaders (h : Parses bytes objects) (whiteList : Option APDUParser.WhiteList)
    (hallowed : ∀ allowed ∈ whiteList, ∀ count gv qc, allowed count gv qc)
    (count : Nat) {fuel : Nat}
    (hfuel : bytes.length ≤ fuel) :
    ∃ headers, APDUParser.parseHeaders true whiteList fuel count bytes = (.ok, headers) ∧
      headers.flatMap ObjectHeader.objects = objects := by
  induction h generalizing count fuel with
  | nil => exact ⟨[], APDUParser.parseHeaders_nil _ _ _ _, rfl⟩
  | @cons front rest _ _ header _ ih =>
    obtain ⟨h, hparse, hobjects⟩ := header count whiteList rest
      fun allowed ha gv qc => hallowed allowed ha count gv qc
    have hne : front ≠ [] := by
      rintro rfl
      obtain ⟨h, hnil, -⟩ := header count whiteList []
        fun allowed ha gv qc => hallowed allowed ha count gv qc
      cases hnil
    have hpos := List.length_pos_iff.mpr hne
    rw [List.length_append] at hfuel
    obtain ⟨fuel, rfl⟩ : ∃ n, fuel = n + 1 := ⟨fuel - 1, by omega⟩
    have hfuel : rest.length ≤ fuel := by omega
    obtain ⟨headers, hrest, hflat⟩ := ih (count + 1) hfuel
    refine ⟨h :: headers, ?_, ?_⟩
    · rw [APDUParser.parseHeaders_ok fuel hparse, hrest]
    · rw [List.flatMap_cons, hobjects, hflat]

theorem decodeFragment (h : Parses bytes objects) : App.decodeFragment bytes = some objects := by
  obtain ⟨checked, hcheck, -⟩ := h.parseHeaders (some fun _ _ _ => true)
    (by rintro allowed ⟨⟩ _ _ _; rfl) 0 (Nat.le_refl _)
  obtain ⟨headers, hpass, hflat⟩ := h.parseHeaders none
    (by rintro allowed ⟨⟩) 0 (Nat.le_refl _)
  have hparse : APDUParser.parse bytes true (fun _ _ _ => true) = (.ok, headers) := by
    rw [APDUParser.parse, APDUParser.parseSinglePass, hcheck]
    exact hpass
  rw [App.decodeFragment, hparse]
  exact congrArg some hflat

end Parses

/-- What an iterator writes is decoded as what its variation transmits. -/
theorem Contents.parses_emit (c : Contents) (t : IndexType) (w : HeaderWriter) (hs : c.Supported)
    (hpos : 0 < (c.emit t w).2) (hwithin : c.Within t (c.emit t w).2) :
    ∃ bytes, (c.emit t w).1.position.written = w.position.written ++ bytes ∧
      Parses bytes (c.received (c.emit t w).2 (c.headerRecord t 0)).objects := by
  obtain ⟨body, hbody, hw⟩ := c.emit_spec t w hpos hwithin.lt
  refine ⟨_, hw, ?_⟩
  rw [← List.append_nil (HeaderWriter.headerBytes c.id (c.qualifier t) ++ body),
    ← List.append_nil (ObjectHeader.objects _)]
  refine .cons (fun count whiteList tail hallowed => ⟨_, parseHeader_body hbody hs hpos hwithin count
    (fun allowed ha => hallowed allowed ha _ _) tail, ?_⟩) .nil
  cases c <;> rfl

end App
end Dnp3
