import Dnp3.App.CollectionBounds

/-!
# Headers and what is handed over

Every function of a pass that parses a header does the same with and without a handler: it fails
without a call, or it succeeds, takes the bytes of one header, and calls the handler once when there
is one.  What it calls it with is the header that the bytes lay out.

`Handles` states this about a function, and its rules follow the way these functions are written: a
number is read in front, a descriptor states the size of the objects, the size is compared with what
is left, the handler is called, and the bytes are skipped.  There is one lemma for each of the
parsers of ranges, counts, counts with indices and free format, and `handles_qualifier` puts them
together.  `App.ParserPasses` does the same for a whole section.
-/

namespace Dnp3
namespace App
namespace Handled

open Library

/-- A function behaves the same with and without a handler.  With success its callback and the bytes
it leaves are as `Q` says, and it does what the parser without handlers does. -/
inductive Handles (parsed : Parsed) (Q : Callback → List UInt8 → Prop) (f : Bool → Outcome) : Prop
  | rejected (e : ParseResult) (buffer : List UInt8) (he : e ≠ .ok) (hparsed : parsed = .error e)
      (hf : ∀ pHandler, f pHandler = .error e buffer)
  | accepted (callback : Callback) (rest : List UInt8) (hQ : Q callback rest)
      (hparsed : parsed = .ok (callback.header, rest))
      (hf : ∀ pHandler, f pHandler = .ok pHandler callback rest)

theorem Handles.mono {parsed : Parsed} {Q Q' : Callback → List UInt8 → Prop} {f : Bool → Outcome}
    (h : Handles parsed Q f) (hQ : ∀ callback rest, Q callback rest → Q' callback rest) :
    Handles parsed Q' f := by
  cases h with
  | rejected e buffer he hparsed hf => exact .rejected e buffer he hparsed hf
  | accepted callback rest h hparsed hf => exact .accepted callback rest (hQ _ _ h) hparsed hf

theorem Handles.congr {parsed : Parsed} {Q : Callback → List UInt8 → Prop} {f g : Bool → Outcome}
    (h : Handles parsed Q f) (hg : ∀ pHandler, g pHandler = f pHandler) : Handles parsed Q g := by
  cases h with
  | rejected e buffer he hparsed hf =>
    exact .rejected e buffer he hparsed fun pHandler => (hg pHandler).trans (hf pHandler)
  | accepted callback rest hQ hparsed hf =>
    exact .accepted callback rest hQ hparsed fun pHandler => (hg pHandler).trans (hf pHandler)

/-- The size check of the parsers. -/
theorem handles_process {buffer : List UInt8} {required : UInt32} {size : Nat}
    {Q : Callback → List UInt8 → Prop} (callback : Callback) {header : ObjectHeader}
    {f : Bool → Outcome} (hsize : required.toNat = size)
    (hf : ∀ pHandler, f pHandler =
      if buffer.length < required.toNat then .error .notEnoughDataForObjects buffer
      else .ok pHandler callback (buffer.drop required.toNat))
    (hQ : ∀ objects rest, buffer = objects ++ rest → objects.length = size →
      Q callback rest ∧ callback.header = header) :
    Handles (process buffer size header) Q f := by
  subst hsize
  by_cases hlen : buffer.length < required.toNat
  · refine .rejected .notEnoughDataForObjects buffer (by decide) ?_ ?_
    · rw [process, if_pos hlen]
    · intro pHandler
      rw [hf, if_pos hlen]
  · have htake : (buffer.take required.toNat).length = required.toNat := by
      rw [List.length_take]
      omega
    obtain ⟨hrest, hheader⟩ := hQ _ _ (List.take_append_drop required.toNat buffer).symm htake
    refine .accepted callback _ hrest ?_ ?_
    · rw [process, if_neg hlen, hheader]
    · intro pHandler
      rw [hf, if_neg hlen]

/-! ## Ranges -/

/-- The callback has the range, and its collection the objects in front of `rest` with the indices
of the range. -/
inductive OverRange (record : HeaderRecord) (range : Range) (buffer : List UInt8) :
    Callback → List UInt8 → Prop
  | intro {T : Type} {wrap : List (Indexed T) → Values} {c : BufferedCollection (Indexed T)}
      {objects rest : List UInt8} {values : List (Indexed T)} (hbuffer : buffer = objects ++ rest)
      (hlen : objects.length =
        (range.count * rangeBits record.toGroupVariationRecord + 7) / 8)
      (hinside : StaysInside c objects range.count values)
      (hindex : values.map (·.index.toNat) = List.range' range.start.toNat range.count) :
      OverRange record range buffer (.rangeOf record range wrap c) rest

/-- The indices of a range do not wrap. -/
theorem toNat_indexAt {range : Range} {pos : Nat} (h : pos < range.count) :
    (App.RangeParser.indexAt range pos).toNat = range.start.toNat + pos := by
  have hstop := range.stop.toNat_lt
  have hlt : range.start.toNat + pos < 2 ^ 16 := by
    rw [Range.count] at h
    split at h
    next hvalid =>
      have hle := UInt16.le_iff_toNat_le.mp (of_decide_eq_true hvalid)
      omega
    · omega
  have hpos : (UInt16.ofNat pos).toNat = pos := by
    rw [UInt16.toNat_ofNat']
    omega
  rw [App.RangeParser.indexAt, UInt16.toNat_add, hpos, Nat.mod_eq_of_lt hlt]

theorem map_index_collect {T : Type} {range : Range} (size : Nat) (value : List UInt8 → Nat → T)
    (b : List UInt8) :
    (collect size (fun b pos =>
        (⟨value b pos, App.RangeParser.indexAt range pos⟩ : Indexed T)) b 0 range.count).map
          (·.index.toNat) = List.range' range.start.toNat range.count := by
  rw [collect_eq_map, List.map_map, List.range'_eq_map_range]
  refine List.map_congr_left fun k hk => ?_
  rw [Function.comp_apply, Nat.zero_add]
  exact toNat_indexAt (List.mem_range.mp hk)

/-- What is collected over a range is handed over with it. -/
theorem overRange_collect {T : Type} {record : HeaderRecord} {range : Range}
    (wrap : List (Indexed T) → Values) {c : BufferedCollection (Indexed T)} {size : Nat}
    {value : List UInt8 → Nat → T} {objects rest : List UInt8}
    (hlen : objects.length =
      (range.count * rangeBits record.toGroupVariationRecord + 7) / 8)
    (hinside : StaysInside c objects range.count (collect size
      (fun b pos => ⟨value b pos, App.RangeParser.indexAt range pos⟩) (objects ++ rest) 0
        range.count)) :
    OverRange record range (objects ++ rest) (.rangeOf record range wrap c) rest ∧
      (Callback.rangeOf record range wrap c).header = .rangeOf record range (wrap (collect size
        (fun b pos => ⟨value b pos, App.RangeParser.indexAt range pos⟩) (objects ++ rest) 0
          range.count)) := by
  refine ⟨.intro rfl hlen hinside (map_index_collect size value _), ?_⟩
  rw [Callback.header, hinside.yields, Option.getD_some]

/-- Eight bits a byte. -/
theorem length_of_bytes {count size len : Nat} (h : len = count * size) :
    len = (count * (8 * size) + 7) / 8 := by
  have hmul : count * (8 * size) = 8 * (count * size) := Nat.mul_left_comm count 8 size
  omega

theorem handles_parseRangeOfObjects (buffer : List UInt8) (record : HeaderRecord) (range : Range) :
    Handles (App.RangeParser.parseRangeOfObjects buffer record range)
      (OverRange record range buffer) (RangeParser.parseRangeOfObjects buffer record range) := by
  have hcount := toNat_countUInt32 range
  have hexact := sizesExact record
  rw [App.RangeParser.parseRangeOfObjects]
  cases hreader : rangeReader record.enumeration with
  | none =>
    refine .rejected .invalidObjectQualifier buffer (by decide) rfl fun pHandler => ?_
    rw [RangeParser.parseRangeOfObjects, hreader]
  | some reader =>
    cases reader with
    | fixedSize codec wrap =>
      have hbits : rangeBits record.toGroupVariationRecord = 8 * codec.size := by
        rw [rangeBits, hreader]
      refine handles_process (RangeParser.invokeRangeOf codec wrap record range buffer)
        (hexact.fixedSize hreader range) (fun pHandler => ?_) fun objects rest hbuffer hlen => ?_
      · rw [RangeParser.parseRangeOfObjects, hreader]
        rfl
      · subst hbuffer
        refine overRange_collect wrap (by rw [hbits]; exact length_of_bytes hlen) ?_
        refine staysInside_blocks (fun pos => Reader.block_mapValue codec.block_reader _) ?_ hcount
          hlen rest
        intro b pos hb
        rw [Function.comp_apply, Function.comp_apply, codec.read_take hb]
    | bitfield ofBit wrap =>
      have hbits : rangeBits record.toGroupVariationRecord = 1 := by
        rw [rangeBits, hreader]
      have hsize : App.numBytesInBits range.count = (range.count + 7) / 8 := by
        rw [App.numBytesInBits]
        split <;> omega
      dsimp only
      rw [hsize]
      refine handles_process (RangeParser.invokeRangeBitfieldType ofBit wrap record range buffer)
        (hexact.bitfield ofBit wrap range) (fun pHandler => ?_) fun objects rest hbuffer hlen => ?_
      · rw [RangeParser.parseRangeOfObjects, hreader]
        rfl
      · subst hbuffer
        refine overRange_collect wrap (by rw [hbits, Nat.mul_one]; exact hlen) ?_
        refine staysInside_peeks hcount (fun k hk z => ?_) rest
        have hpos : k / 8 < objects.length := by omega
        rw [Reader.mapValue, readBit_append z hpos, getBit_append z hpos]
        exact ⟨rfl, rfl⟩
    | doubleBitfield ofBits wrap =>
      have hbits : rangeBits record.toGroupVariationRecord = 2 := by
        rw [rangeBits, hreader]
      have hsize : App.numBytesInDoubleBits range.count = (range.count * 2 + 7) / 8 := by
        rw [App.numBytesInDoubleBits]
        split <;> omega
      dsimp only
      rw [hsize]
      refine handles_process
        (RangeParser.invokeRangeDoubleBitfieldType ofBits wrap record range buffer)
        (hexact.doubleBitfield ofBits wrap range) (fun pHandler => ?_)
        fun objects rest hbuffer hlen => ?_
      · rw [RangeParser.parseRangeOfObjects, hreader]
        rfl
      · subst hbuffer
        refine overRange_collect wrap (by rw [hbits]; exact hlen) ?_
        refine staysInside_peeks hcount (fun k hk z => ?_) rest
        have hpos : k / 4 < objects.length := by omega
        rw [Reader.mapValue, readDoubleBit_append z hpos, getDoubleBit_append z hpos]
        exact ⟨rfl, rfl⟩
    | octetData =>
      by_cases hvar : record.variation > 0
      · have hbits : rangeBits record.toGroupVariationRecord = 8 * record.variation.toNat := by
          rw [rangeBits, hreader]
        dsimp only
        rw [App.RangeParser.parseRangeOfOctetData, if_pos hvar]
        dsimp only
        rw [Nat.mul_comm]
        refine handles_process
          (.rangeOf record range .octetString
            { buffer := buffer
              COUNT := range.countUInt32
              readFunc := fun pos =>
                (Reader.bytes record.variation.toNat).mapValue fun octets =>
                  ⟨octets, App.RangeParser.indexAt range pos⟩ })
          (hexact.octetData range) (fun pHandler => ?_) fun objects rest hbuffer hlen => ?_
        · rw [RangeParser.parseRangeOfObjects, hreader]
          dsimp only
          rw [RangeParser.parseRangeOfOctetData, if_pos hvar]
        · subst hbuffer
          refine overRange_collect .octetString (by rw [hbits]; exact length_of_bytes hlen) ?_
          refine staysInside_blocks (fun pos => Reader.block_mapValue (Reader.block_bytes _) _) ?_
            hcount hlen rest
          intro b pos _
          rw [Function.comp_apply, Function.comp_apply, List.take_take, Nat.min_self]
      · refine .rejected .invalidObject buffer (by decide) ?_ fun pHandler => ?_
        · dsimp only
          rw [App.RangeParser.parseRangeOfOctetData, if_neg hvar]
        · rw [RangeParser.parseRangeOfObjects, hreader]
          dsimp only
          rw [RangeParser.parseRangeOfOctetData, if_neg hvar]

/-! ## Counts -/

/-- The callback has the count, and its collection the objects in front of `rest`. -/
inductive OverCount (record : HeaderRecord) (count : UInt16) (buffer : List UInt8) :
    Callback → List UInt8 → Prop
  | intro {T : Type} {wrap : List T → Values} {c : BufferedCollection T}
      {objects rest : List UInt8} {values : List T} (hbuffer : buffer = objects ++ rest)
      (hlen : objects.length =
        (count.toNat * countBits record.toGroupVariationRecord + 7) / 8)
      (hinside : StaysInside c objects count.toNat values) :
      OverCount record count buffer (.countOf record count wrap c) rest

theorem handles_countParser (buffer : List UInt8) (record : HeaderRecord) (count : UInt16) :
    Handles (App.CountParser.parseCountOfObjects buffer record count)
      (OverCount record count buffer) (CountParser.parseCountOfObjects buffer record count) := by
  rw [App.CountParser.parseCountOfObjects]
  cases hreader : countReader record.enumeration with
  | none =>
    refine .rejected .invalidObjectQualifier buffer (by decide) rfl fun pHandler => ?_
    rw [CountParser.parseCountOfObjects, hreader]
  | some reader =>
    cases reader with
    | fixedSize codec wrap =>
      have hbits : countBits record.toGroupVariationRecord = 8 * codec.size := by
        rw [countBits, hreader]
      refine handles_process (CountParser.invokeCountOf codec wrap record count buffer)
        ((sizesExact record).counted hreader count) (fun pHandler => ?_)
        fun objects rest hbuffer hlen => ?_
      · rw [CountParser.parseCountOfObjects, hreader]
        rfl
      · subst hbuffer
        have hinside := staysInside_blocks (fun _ : Nat => codec.block_reader)
          (fun b _ hb => codec.read_take hb) (toNat_count count) hlen rest
        refine ⟨.intro rfl (by rw [hbits]; exact length_of_bytes hlen) hinside, ?_⟩
        rw [CountParser.invokeCountOf, Callback.header, hinside.yields, Option.getD_some]

/-! ## Counts of objects with an index in front -/

/-- The callback has the count, and its collection the objects in front of `rest`; the indices are
the numbers in front of the values. -/
inductive OverPrefix (record : HeaderRecord) (n : NumParser) (count : UInt16)
    (buffer : List UInt8) : Callback → List UInt8 → Prop
  | intro {T : Type} {wrap : List (Indexed T) → Values} {c : BufferedCollection (Indexed T)}
      {objects rest : List UInt8} {values : List (Indexed T)} (hbuffer : buffer = objects ++ rest)
      (hlen : objects.length =
        (count.toNat * prefixBits n record.toGroupVariationRecord + 7) / 8)
      (hinside : StaysInside c objects count.toNat values)
      (hindex : values.map (·.index.toNat) = (List.range count.toNat).map fun k =>
        n.value (objects.drop (k * (prefixBits n record.toGroupVariationRecord / 8)))) :
      OverPrefix record n count buffer (.prefixOf record count wrap c) rest

theorem toNat_value (n : NumParser) (b : List UInt8) :
    (UInt16.ofNat (n.value b)).toNat = n.value b := by
  have hlt := leNat_lt (b.take n.SIZE)
  have hlen : (b.take n.SIZE).length ≤ 2 := by
    rw [List.length_take]
    cases n <;> simp [IndexType.SIZE]
  have hpow : 256 ^ (b.take n.SIZE).length ≤ 256 ^ 2 := Nat.pow_le_pow_right (by decide) hlen
  rw [IndexType.value, UInt16.toNat_ofNat']
  omega

/-- What is collected from prefixed objects is handed over with its indices. -/
theorem overPrefix_collect {T : Type} {record : HeaderRecord} {n : NumParser} {count : UInt16}
    (wrap : List (Indexed T) → Values) {read : Reader T} {size : Nat} {value : List UInt8 → T}
    (hread : read.Block size value) (hvalue : ∀ b, size ≤ b.length → value (b.take size) = value b)
    {objects rest : List UInt8} (hlen : objects.length = count.toNat * (n.SIZE + size))
    (hbits : prefixBits n record.toGroupVariationRecord = 8 * (n.SIZE + size)) :
    OverPrefix record n count (objects ++ rest)
        (.prefixOf record count wrap
          { buffer := objects ++ rest
            COUNT := count.toUInt32
            readFunc := fun _ => CountIndexParser.readPrefixed n read }) rest ∧
      (Callback.prefixOf record count wrap
          { buffer := objects ++ rest
            COUNT := count.toUInt32
            readFunc := fun _ => CountIndexParser.readPrefixed n read }).header =
        .prefixOf record count (wrap (collect (n.SIZE + size)
          (fun b _ => ⟨value (b.drop n.SIZE), (n.readNum b).1⟩) (objects ++ rest) 0
            count.toNat)) := by
  have hinside := staysInside_blocks (fun _ : Nat => block_readPrefixed n hread) ?_
    (UInt16.toNat_toUInt32 count) hlen rest
  · refine ⟨.intro rfl (by rw [hbits]; exact length_of_bytes hlen) hinside ?_, ?_⟩
    · rw [collect_eq_map, List.map_map, hbits, Nat.mul_div_cancel_left _ (by decide)]
      refine List.map_congr_left fun k hk => ?_
      have hk := List.mem_range.mp hk
      have hmul : k * (n.SIZE + size) + (n.SIZE + size) ≤ count.toNat * (n.SIZE + size) := by
        calc k * (n.SIZE + size) + (n.SIZE + size) = (k + 1) * (n.SIZE + size) :=
              (Nat.succ_mul k _).symm
          _ ≤ count.toNat * (n.SIZE + size) := Nat.mul_le_mul_right _ hk
      show (UInt16.ofNat (n.value _)).toNat = _
      rw [toNat_value, List.drop_append_of_le_length (by omega), value_append]
      rw [List.length_drop]
      omega
    · rw [Callback.header, hinside.yields, Option.getD_some]
  · intro b _ hb
    have hrest : size ≤ (b.drop n.SIZE).length := by
      rw [List.length_drop]
      omega
    show (⟨_, UInt16.ofNat (n.value (b.take _))⟩ : Indexed T) = ⟨_, UInt16.ofNat (n.value b)⟩
    rw [value_take (Nat.le_add_right _ _), List.drop_take, Nat.add_sub_cancel_left, hvalue _ hrest]

theorem handles_countIndexParser (buffer : List UInt8) (record : HeaderRecord) (n : NumParser)
    (count : UInt16) :
    Handles (App.CountIndexParser.parseCountOfObjects buffer record n count)
      (OverPrefix record n count buffer)
      (CountIndexParser.parseCountOfObjects buffer record n count) := by
  have hexact := sizesExact record
  rw [App.CountIndexParser.parseCountOfObjects]
  cases hreader : prefixReader record.enumeration with
  | none =>
    refine .rejected .invalidObjectQualifier buffer (by decide) rfl fun pHandler => ?_
    rw [CountIndexParser.parseCountOfObjects, hreader]
  | some reader =>
    cases reader with
    | fixedSize codec wrap =>
      have hbits : prefixBits n record.toGroupVariationRecord = 8 * (n.SIZE + codec.size) := by
        rw [prefixBits, hreader]
      dsimp only
      rw [Nat.add_comm codec.size]
      refine handles_process (CountIndexParser.invokeCountOf codec wrap record n count buffer)
        (hexact.prefixed hreader n count) (fun pHandler => ?_)
        fun objects rest hbuffer hlen => ?_
      · rw [CountIndexParser.parseCountOfObjects, hreader]
        rfl
      · subst hbuffer
        exact overPrefix_collect wrap codec.block_reader (fun b hb => codec.read_take hb) hlen hbits
    | octetData =>
      by_cases hvar : record.variation = 0
      · refine .rejected .invalidObject buffer (by decide) ?_ fun pHandler => ?_
        · dsimp only
          rw [App.CountIndexParser.parseIndexPrefixedOctetData, if_pos hvar]
        · rw [CountIndexParser.parseCountOfObjects, hreader]
          dsimp only
          rw [CountIndexParser.parseIndexPrefixedOctetData, if_pos hvar]
      · have hbits : prefixBits n record.toGroupVariationRecord =
            8 * (n.SIZE + record.variation.toNat) := by
          rw [prefixBits, hreader]
        dsimp only
        rw [App.CountIndexParser.parseIndexPrefixedOctetData, if_neg hvar]
        refine handles_process
          (.prefixOf record count .octetString
            { buffer := buffer
              COUNT := count.toUInt32
              readFunc := fun _ =>
                CountIndexParser.readPrefixed n (Reader.bytes record.variation.toNat) })
          (hexact.prefixedOctetData n count) (fun pHandler => ?_)
          fun objects rest hbuffer hlen => ?_
        · rw [CountIndexParser.parseCountOfObjects, hreader]
          dsimp only
          rw [CountIndexParser.parseIndexPrefixedOctetData, if_neg hvar]
        · subst hbuffer
          refine overPrefix_collect .octetString (Reader.block_bytes _) ?_ hlen hbits
          intro b _
          rw [List.take_take, Nat.min_self]

/-! ## Fields -/

/-- Reading a count fails, or takes the field with the count. -/
theorem parseCount_cases (n : NumParser) (buffer : List UInt8) :
    (∃ e, e ≠ .ok ∧ n.parseCount buffer = .error e) ∨
      ∃ (field rest : List UInt8) (count : UInt16), buffer = field ++ rest ∧
        field.length = n.SIZE ∧ count.toNat = n.value field ∧
        n.parseCount buffer = .ok (count, rest) := by
  rw [NumParser.parseCount]
  split
  · exact .inl ⟨_, by decide, rfl⟩
  next hlen =>
    split
    · exact .inl ⟨_, by decide, rfl⟩
    · refine .inr ⟨buffer.take n.SIZE, buffer.drop n.SIZE, _,
        (List.take_append_drop n.SIZE buffer).symm, ?_, ?_, rfl⟩
      · rw [List.length_take]
        omega
      · rw [value_take (Nat.le_refl _)]
        exact toNat_value n buffer

/-- Reading a range fails, or takes the field with the start and the stop. -/
theorem parseRange_cases (n : NumParser) (buffer : List UInt8) :
    (∃ e, e ≠ .ok ∧ n.parseRange buffer = .error e) ∨
      ∃ (field rest : List UInt8) (range : Range), buffer = field ++ rest ∧
        field.length = 2 * n.SIZE ∧ range.start.toNat = n.value field ∧
        range.stop.toNat = n.value (field.drop n.SIZE) ∧
        range.count = n.value (field.drop n.SIZE) + 1 - n.value field ∧
        n.value field ≤ n.value (field.drop n.SIZE) ∧
        n.parseRange buffer = .ok (range, rest) := by
  rw [NumParser.parseRange]
  split
  · exact .inl ⟨_, by decide, rfl⟩
  next hlen =>
    dsimp only
    split
    next hvalid =>
      have hstart : n.value (buffer.take (2 * n.SIZE)) = n.value buffer :=
        value_take (by omega)
      have hstop : n.value ((buffer.take (2 * n.SIZE)).drop n.SIZE) =
          n.value (buffer.drop n.SIZE) := by
        rw [List.drop_take]
        exact value_take (by omega)
      have hle : n.value buffer ≤ n.value (buffer.drop n.SIZE) := by
        have h := UInt16.le_iff_toNat_le.mp (of_decide_eq_true hvalid)
        rw [← toNat_value n buffer, ← toNat_value n (buffer.drop n.SIZE)]
        exact h
      refine .inr ⟨buffer.take (2 * n.SIZE), buffer.drop (2 * n.SIZE),
        ⟨(n.readNum buffer).1, (n.readNum (n.readNum buffer).2).1⟩,
        (List.take_append_drop _ buffer).symm, ?_, ?_, ?_, ?_, ?_, ?_⟩
      · rw [List.length_take]
        omega
      · rw [hstart]
        exact toNat_value n buffer
      · rw [hstop]
        exact toNat_value n (buffer.drop n.SIZE)
      · rw [hstart, hstop, Range.count, if_pos hvalid]
        show (UInt16.ofNat (n.value _)).toNat - (UInt16.ofNat (n.value _)).toNat + 1 = _
        rw [toNat_value, toNat_value]
        show n.value (buffer.drop n.SIZE) - n.value buffer + 1 = _
        omega
      · rw [hstart, hstop]
        exact hle
      · rw [Nat.two_mul, ← List.drop_drop]
        rfl
    · exact .inl ⟨_, by decide, rfl⟩

/-! ## Headers -/

/-- The callback hands over the header that the bytes lay out.  A collection stays inside the
objects of the header and yields as many values as it announces: with the indices from the start to
the stop of a range, or with the numbers in front of the values. -/
inductive HandsOver (expectsContents : Bool) (h : HeaderBytes) (index : Nat) : Callback → Prop
  | allObjects (hqc : h.qualifierCode = .allObjects) :
      HandsOver expectsContents h index (.allObjects (h.record index))
  | count {count : UInt16} (hqc : h.qualifierCode ∈ QualifierCode.counts)
      (hcontents : expectsContents = false) (hcount : count.toNat = h.announced) :
      HandsOver expectsContents h index (.count (h.record index) count)
  | range {range : Range} (hqc : h.qualifierCode ∈ QualifierCode.ranges)
      (hcontents : expectsContents = false) (hstart : range.start.toNat = h.first)
      (hstop : range.stop.toNat = h.second) (hle : h.first ≤ h.second) :
      HandsOver expectsContents h index (.range (h.record index) range)
  | countOf {T : Type} {count : UInt16} {wrap : List T → Values} {c : BufferedCollection T}
      {values : List T} (hqc : h.qualifierCode ∈ QualifierCode.counts)
      (hcount : count.toNat = h.announced)
      (hinside : StaysInside c h.objects h.announced values) :
      HandsOver expectsContents h index (.countOf (h.record index) count wrap c)
  | rangeOf {T : Type} {range : Range} {wrap : List (Indexed T) → Values}
      {c : BufferedCollection (Indexed T)} {values : List (Indexed T)}
      (hqc : h.qualifierCode ∈ QualifierCode.ranges) (hstart : range.start.toNat = h.first)
      (hstop : range.stop.toNat = h.second) (hle : h.first ≤ h.second)
      (hinside : StaysInside c h.objects h.announced values)
      (hindex : values.map (·.index.toNat) = List.range' h.first h.announced) :
      HandsOver expectsContents h index (.rangeOf (h.record index) range wrap c)
  | prefixOf {T : Type} {count : UInt16} {wrap : List (Indexed T) → Values}
      {c : BufferedCollection (Indexed T)} {values : List (Indexed T)}
      (hqc : h.qualifierCode ∈ QualifierCode.prefixedCounts) (hcount : count.toNat = h.announced)
      (hinside : StaysInside c h.objects h.announced values)
      (hindex : values.map (·.index.toNat) = (List.range h.announced).map fun k =>
        h.qualifierCode.number.value
          (h.objects.drop (k * (h.objectBits expectsContents / 8)))) :
      HandsOver expectsContents h index (.prefixOf (h.record index) count wrap c)
  | freeFormat (hqc : h.qualifierCode = .uint16FreeFormat) (hcount : h.announced = 1) :
      HandsOver expectsContents h index (.freeFormat (h.record index) 1 h.objects)

theorem HandsOver.record {expectsContents : Bool} {h : HeaderBytes} {index : Nat}
    {callback : Callback} (hover : HandsOver expectsContents h index callback) :
    callback.record = h.record index := by
  cases hover <;> rfl

/-- Behind the three bytes in front of them, the bytes are a field, the objects it announces, and
`rest`, and the callback hands this header over. -/
def Fits (expectsContents : Bool) (group variation qualifier : UInt8) (index : Nat)
    (buffer : List UInt8) (callback : Callback) (rest : List UInt8) : Prop :=
  ∃ field objects : List UInt8, buffer = field ++ (objects ++ rest) ∧
    HeaderBytes.Laid expectsContents ⟨group, variation, qualifier, field, objects⟩ ∧
    HandsOver expectsContents ⟨group, variation, qualifier, field, objects⟩ index callback

/-- The record of a header. -/
def recordOf (group variation qualifier : UInt8) (index : Nat) : HeaderRecord :=
  HeaderBytes.record ⟨group, variation, qualifier, [], []⟩ index

section Qualifiers

variable (expectsContents : Bool) (group variation : UInt8) {qualifier : UInt8} (index : Nat)

theorem handles_rangeHeader (hqc : QualifierCode.fromType qualifier ∈ QualifierCode.ranges)
    (buffer : List UInt8) :
    Handles
      (App.RangeParser.parseHeader buffer (QualifierCode.fromType qualifier).number
        expectsContents (recordOf group variation qualifier index))
      (Fits expectsContents group variation qualifier index buffer)
      (RangeParser.parseHeader buffer (QualifierCode.fromType qualifier).number expectsContents
        (recordOf group variation qualifier index)) := by
  rw [App.RangeParser.parseHeader]
  obtain ⟨e, he, hparse⟩ | ⟨field, rest, range, rfl, hlen, hstart, hstop, hcount, hle, hparse⟩ :=
    parseRange_cases (QualifierCode.fromType qualifier).number buffer
  · rw [hparse]
    exact .rejected e _ he rfl fun pHandler => by rw [RangeParser.parseHeader, hparse]
  have hfield := hlen.trans (HeaderBytes.fieldSize_ranges hqc).symm
  have hqc' : ∀ objects, HeaderBytes.qualifierCode ⟨group, variation, qualifier, field, objects⟩ ∈
      QualifierCode.ranges := fun _ => hqc
  rw [hparse]
  cases expectsContents with
  | false =>
    refine .accepted (.range (recordOf group variation qualifier index) range) rest
      ⟨field, [], rfl, ⟨hfield, ?_⟩, .range hqc rfl hstart hstop hle⟩ rfl fun pHandler => ?_
    · rw [HeaderBytes.objectBits_ranges (hqc' []), if_neg Bool.false_ne_true, Nat.mul_zero]
      rfl
    · rw [RangeParser.parseHeader, hparse]
      rfl
  | true =>
    refine ((handles_parseRangeOfObjects rest (recordOf group variation qualifier index)
      range).congr (fun pHandler => ?_)).mono fun callback rest' hover => ?_
    · rw [RangeParser.parseHeader, hparse]
      rfl
    · cases hover with
      | @intro T wrap c objects rest' values hbuffer hlength hinside hindex =>
        subst hbuffer
        have hannounced : range.count =
            HeaderBytes.announced ⟨group, variation, qualifier, field, objects⟩ :=
          hcount.trans (HeaderBytes.announced_ranges (hqc' objects)).symm
        rw [hannounced] at hlength hinside hindex
        refine ⟨field, objects, rfl, ⟨hfield, ?_⟩, .rangeOf hqc hstart hstop hle hinside ?_⟩
        · rw [HeaderBytes.objectBits_ranges (hqc' objects), if_pos rfl]
          exact hlength
        · rw [hindex, hstart]
          rfl

theorem handles_countHeader (hqc : QualifierCode.fromType qualifier ∈ QualifierCode.counts)
    (buffer : List UInt8) :
    Handles
      (App.CountParser.parseHeader buffer (QualifierCode.fromType qualifier).number
        expectsContents (recordOf group variation qualifier index))
      (Fits expectsContents group variation qualifier index buffer)
      (CountParser.parseHeader buffer (QualifierCode.fromType qualifier).number expectsContents
        (recordOf group variation qualifier index)) := by
  rw [App.CountParser.parseHeader]
  obtain ⟨e, he, hparse⟩ | ⟨field, rest, count, rfl, hlen, hcount, hparse⟩ :=
    parseCount_cases (QualifierCode.fromType qualifier).number buffer
  · rw [hparse]
    exact .rejected e _ he rfl fun pHandler => by rw [CountParser.parseHeader, hparse]
  have hfield := hlen.trans (HeaderBytes.fieldSize_counts hqc).symm
  have hqc' : ∀ objects, HeaderBytes.qualifierCode ⟨group, variation, qualifier, field, objects⟩ ∈
      QualifierCode.counts := fun _ => hqc
  have hannounced : ∀ objects, count.toNat =
      HeaderBytes.announced ⟨group, variation, qualifier, field, objects⟩ :=
    fun objects => hcount.trans (HeaderBytes.announced_counts (hqc' objects)).symm
  rw [hparse]
  cases expectsContents with
  | false =>
    refine .accepted (.count (recordOf group variation qualifier index) count) rest
      ⟨field, [], rfl, ⟨hfield, ?_⟩, .count hqc rfl (hannounced [])⟩ rfl fun pHandler => ?_
    · rw [HeaderBytes.objectBits_counts (hqc' []), if_neg Bool.false_ne_true, Nat.mul_zero]
      rfl
    · rw [CountParser.parseHeader, hparse]
      rfl
  | true =>
    refine ((handles_countParser rest (recordOf group variation qualifier index)
      count).congr (fun pHandler => ?_)).mono fun callback rest' hover => ?_
    · rw [CountParser.parseHeader, hparse]
      rfl
    · cases hover with
      | @intro T wrap c objects rest' values hbuffer hlength hinside =>
        subst hbuffer
        rw [hannounced objects] at hlength hinside
        refine ⟨field, objects, rfl, ⟨hfield, ?_⟩, .countOf hqc (hannounced objects) hinside⟩
        rw [HeaderBytes.objectBits_counts (hqc' objects), if_pos rfl]
        exact hlength

theorem handles_prefixHeader
    (hqc : QualifierCode.fromType qualifier ∈ QualifierCode.prefixedCounts)
    (buffer : List UInt8) :
    Handles
      (App.CountIndexParser.parseHeader buffer (QualifierCode.fromType qualifier).number
        (recordOf group variation qualifier index))
      (Fits expectsContents group variation qualifier index buffer)
      (CountIndexParser.parseHeader buffer (QualifierCode.fromType qualifier).number
        (recordOf group variation qualifier index)) := by
  rw [App.CountIndexParser.parseHeader]
  obtain ⟨e, he, hparse⟩ | ⟨field, rest, count, rfl, hlen, hcount, hparse⟩ :=
    parseCount_cases (QualifierCode.fromType qualifier).number buffer
  · rw [hparse]
    exact .rejected e _ he rfl fun pHandler => by rw [CountIndexParser.parseHeader, hparse]
  have hfield := hlen.trans (HeaderBytes.fieldSize_prefixedCounts hqc).symm
  have hqc' : ∀ objects, HeaderBytes.qualifierCode ⟨group, variation, qualifier, field, objects⟩ ∈
      QualifierCode.prefixedCounts := fun _ => hqc
  rw [hparse]
  refine ((handles_countIndexParser rest (recordOf group variation qualifier index)
    (QualifierCode.fromType qualifier).number count).congr (fun pHandler => ?_)).mono
      fun callback rest' hover => ?_
  · rw [CountIndexParser.parseHeader, hparse]
  · cases hover with
    | @intro T wrap c objects rest' values hbuffer hlength hinside hindex =>
      subst hbuffer
      have hannounced : count.toNat =
          HeaderBytes.announced ⟨group, variation, qualifier, field, objects⟩ :=
        hcount.trans (HeaderBytes.announced_prefixedCounts (hqc' objects)).symm
      have hbits : HeaderBytes.objectBits expectsContents
          ⟨group, variation, qualifier, field, objects⟩ = _ :=
        HeaderBytes.objectBits_prefixedCounts (hqc' objects)
      rw [hannounced] at hlength hinside hindex
      refine ⟨field, objects, rfl, ⟨hfield, ?_⟩, .prefixOf hqc hannounced hinside ?_⟩
      · rw [hbits]
        exact hlength
      · rw [hbits, hindex]
        rfl

/-- The field of a free-format header has a count of one and the size of the object. -/
theorem handles_freeFormatHeader
    (hqc : QualifierCode.fromType qualifier = .uint16FreeFormat) (buffer : List UInt8) :
    Handles
      (App.FreeFormatParser.parseHeader buffer (recordOf group variation qualifier index))
      (Fits expectsContents group variation qualifier index buffer)
      (FreeFormatParser.parseHeader buffer (recordOf group variation qualifier index)) := by
  rw [App.FreeFormatParser.parseHeader]
  by_cases hlen : buffer.length < 3
  · rw [if_pos hlen]
    refine .rejected .notEnoughDataForHeader buffer (by decide) rfl fun pHandler => ?_
    rw [FreeFormatParser.parseHeader, if_pos hlen]
  rw [if_neg hlen]
  dsimp only
  by_cases hcount : buffer.getD 0 0 ≠ 1
  · rw [if_pos hcount]
    refine .rejected .unreasonableObjectCount (buffer.drop 3) (by decide) rfl fun pHandler => ?_
    rw [FreeFormatParser.parseHeader, if_neg hlen]
    dsimp only
    rw [if_pos hcount]
  rw [if_neg hcount]
  by_cases hsize : (buffer.drop 3).length < leNat ((buffer.drop 1).take 2)
  · rw [if_pos hsize]
    refine .rejected .notEnoughDataForObjects (buffer.drop 3) (by decide) rfl fun pHandler => ?_
    rw [FreeFormatParser.parseHeader, if_neg hlen]
    dsimp only
    rw [if_neg hcount, if_pos hsize]
  rw [if_neg hsize]
  have hnone : App.FreeFormatParser.objectReader
      (recordOf group variation qualifier index).enumeration = none → ∀ pHandler,
      FreeFormatParser.parseHeader buffer (recordOf group variation qualifier index) pHandler =
        .error .invalidObjectQualifier
          ((buffer.drop 3).drop (leNat ((buffer.drop 1).take 2))) := by
    intro hreader pHandler
    rw [FreeFormatParser.parseHeader, if_neg hlen]
    dsimp only
    refine (if_neg hcount).trans ((if_neg hsize).trans ?_)
    rw [hreader]
  have hsome : ∀ reads, App.FreeFormatParser.objectReader
      (recordOf group variation qualifier index).enumeration = some reads → ∀ pHandler,
      FreeFormatParser.parseHeader buffer (recordOf group variation qualifier index) pHandler =
        FreeFormatParser.parseFreeFormat reads (recordOf group variation qualifier index)
          (buffer.getD 0 0) ((buffer.drop 3).take (leNat ((buffer.drop 1).take 2)))
          ((buffer.drop 3).drop (leNat ((buffer.drop 1).take 2))) pHandler := by
    intro reads hreader pHandler
    rw [FreeFormatParser.parseHeader, if_neg hlen]
    dsimp only
    refine (if_neg hcount).trans ((if_neg hsize).trans ?_)
    rw [hreader]
  cases hreader : App.FreeFormatParser.objectReader
      (recordOf group variation qualifier index).enumeration with
  | none => exact .rejected _ _ (by decide) rfl (hnone hreader)
  | some reads =>
    dsimp only
    by_cases hreads : reads ((buffer.drop 3).take (leNat ((buffer.drop 1).take 2))) = true
    · rw [if_pos hreads]
      have hone : buffer.getD 0 0 = 1 := Decidable.not_not.mp hcount
      have hfirst : (buffer.take 3).getD 0 0 = 1 := by
        rw [← hone, List.getD_eq_getElem?_getD, List.getElem?_take_of_lt (by decide),
          ← List.getD_eq_getElem?_getD]
      have hsecond : ((buffer.take 3).drop 1).take 2 = (buffer.drop 1).take 2 := by
        rw [List.drop_take, List.take_take, Nat.min_self]
      have hobjects : ((buffer.drop 3).take (leNat ((buffer.drop 1).take 2))).length =
          leNat ((buffer.drop 1).take 2) := by
        rw [List.length_take]
        omega
      have hannounced : HeaderBytes.announced ⟨group, variation, qualifier, buffer.take 3,
          (buffer.drop 3).take (leNat ((buffer.drop 1).take 2))⟩ = 1 := by
        rw [HeaderBytes.announced, HeaderBytes.qualifierCode, hqc]
        dsimp only
        rw [hfirst]
        rfl
      refine .accepted (.freeFormat (recordOf group variation qualifier index) 1 _) _
        ⟨buffer.take 3, _, ?_, ⟨?_, ?_⟩, .freeFormat hqc hannounced⟩ rfl fun pHandler => ?_
      · rw [List.take_append_drop, List.take_append_drop]
      · rw [HeaderBytes.qualifierCode, hqc, List.length_take]
        exact Nat.min_eq_left (Nat.le_of_not_lt hlen)
      · rw [hannounced, HeaderBytes.objectBits, HeaderBytes.qualifierCode, hqc]
        dsimp only
        rw [hsecond, hobjects]
        omega
      · rw [hsome reads hreader, FreeFormatParser.parseFreeFormat, if_pos hreads, hone]
    · rw [if_neg hreads]
      refine .rejected .notEnoughDataForObjects
        ((buffer.drop 3).drop (leNat ((buffer.drop 1).take 2))) (by decide) rfl fun pHandler => ?_
      rw [hsome reads hreader, FreeFormatParser.parseFreeFormat, if_neg hreads]

end Qualifiers

/-- Behind the three bytes of a header, with and without a handler. -/
theorem handles_qualifier (expectsContents : Bool) (group variation qualifier : UInt8)
    (index : Nat) (buffer : List UInt8) :
    Handles
      (App.APDUParser.parseQualifier buffer (recordOf group variation qualifier index)
        expectsContents)
      (Fits expectsContents group variation qualifier index buffer)
      (APDUParser.parseQualifier buffer (recordOf group variation qualifier index)
        expectsContents) := by
  have hcode : (recordOf group variation qualifier index).getQualifierCode =
      .fromType qualifier := rfl
  have hf : ∀ pHandler, APDUParser.parseQualifier buffer
      (recordOf group variation qualifier index) expectsContents pHandler = _ := fun _ => by
    rw [APDUParser.parseQualifier, hcode]
  rw [App.APDUParser.parseQualifier, hcode]
  cases hqc : QualifierCode.fromType qualifier with
  | allObjects =>
    refine .accepted (.allObjects (recordOf group variation qualifier index)) buffer
      ⟨[], [], rfl, ⟨?_, ?_⟩, .allObjects hqc⟩ rfl fun pHandler => ?_
    · rw [HeaderBytes.qualifierCode, hqc]
      rfl
    · rw [HeaderBytes.announced, HeaderBytes.qualifierCode, hqc, Nat.zero_mul]
      rfl
    · rw [hf, hqc]
      rfl
  | uint8Cnt =>
    have hhandles := handles_countHeader expectsContents group variation index
      (by rw [hqc]; decide) buffer
    rw [hqc] at hhandles
    exact hhandles.congr fun pHandler => by rw [hf, hqc]; rfl
  | uint16Cnt =>
    have hhandles := handles_countHeader expectsContents group variation index
      (by rw [hqc]; decide) buffer
    rw [hqc] at hhandles
    exact hhandles.congr fun pHandler => by rw [hf, hqc]; rfl
  | uint8StartStop =>
    have hhandles := handles_rangeHeader expectsContents group variation index
      (by rw [hqc]; decide) buffer
    rw [hqc] at hhandles
    exact hhandles.congr fun pHandler => by rw [hf, hqc]; rfl
  | uint16StartStop =>
    have hhandles := handles_rangeHeader expectsContents group variation index
      (by rw [hqc]; decide) buffer
    rw [hqc] at hhandles
    exact hhandles.congr fun pHandler => by rw [hf, hqc]; rfl
  | uint8CntUint8Index =>
    have hhandles := handles_prefixHeader expectsContents group variation index
      (by rw [hqc]; decide) buffer
    rw [hqc] at hhandles
    exact hhandles.congr fun pHandler => by rw [hf, hqc]; rfl
  | uint16CntUint16Index =>
    have hhandles := handles_prefixHeader expectsContents group variation index
      (by rw [hqc]; decide) buffer
    rw [hqc] at hhandles
    exact hhandles.congr fun pHandler => by rw [hf, hqc]; rfl
  | uint16FreeFormat =>
    exact (handles_freeFormatHeader expectsContents group variation index hqc buffer).congr
      fun pHandler => by rw [hf, hqc]
  | undefined =>
    exact .rejected .unknownQualifier buffer (by decide) rfl fun pHandler => by rw [hf, hqc]

end Handled
end App
end Dnp3
