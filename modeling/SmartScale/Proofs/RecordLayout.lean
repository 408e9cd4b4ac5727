import SmartScale.Record

/-!
# The layout of records

A record has 44 bytes, and decoding them gives the record back bit for bit: the tag, whatever it is,
and every weight, whether or not it is a number.  Any 44 bytes are the layout of a record, the one
that they decode to.  Whether that is a valid one is decided by the first seven of them.
-/

namespace SmartScale

namespace Record

@[simp]
theorem encodeReading_length (x : Reading) : (encodeReading x).length = 4 := by
  simp [encodeReading]

@[simp]
theorem flatMap_encodeReading_length (xs : List Reading) :
    (xs.flatMap encodeReading).length = 4 * xs.length := by
  induction xs with
  | nil => rfl
  | cons x rest ih =>
      rw [List.flatMap_cons, List.length_append, ih, encodeReading_length, List.length_cons]
      omega

@[simp]
theorem encode_length (r : Record) : r.encode.length = recordLength := by
  simp only [encode, List.length_append, flatMap_encodeReading_length, encodeReading_length,
    Vector.length_toList]
  rfl

/-! ## One weight -/

theorem decodeReading_append_right (pre bytes : List UInt8) (start : Nat) :
    decodeReading (pre ++ bytes) (pre.length + start) = decodeReading bytes start := by
  have hbyte : ∀ i, (pre ++ bytes).getD (pre.length + start + i) 0 = bytes.getD (start + i) 0 := by
    intro i
    rw [List.getD_eq_getElem?_getD, List.getD_eq_getElem?_getD,
      List.getElem?_append_right (by omega)]
    congr 2
    omega
  simp only [decodeReading, hbyte]

/-- The four bytes of a weight give it back, whatever stands behind them. -/
theorem decodeReading_encodeReading (x : Reading) (rest : List UInt8) :
    decodeReading (encodeReading x ++ rest) 0 = x := by
  have hbyte : ∀ i < 4, ((encodeReading x ++ rest).getD (0 + i) 0).toNat =
      x.bits.toNat >>> (8 * i) % 256 := by
    intro i hi
    rw [Nat.zero_add, List.getD_eq_getElem?_getD, List.getElem?_append_left (by simpa using hi)]
    simp [encodeReading, hi]
  have hword : x.bits.toNat < UInt32.size := x.bits.toNat_lt
  have hbits : (List.range 4).foldr
      (fun i n => ((encodeReading x ++ rest).getD (0 + i) 0).toNat + (n <<< 8)) 0 =
        x.bits.toNat := by
    rw [show List.range 4 = [0, 1, 2, 3] from rfl]
    simp only [List.foldr_cons, List.foldr_nil, hbyte _ (by decide : 0 < 4),
      hbyte _ (by decide : 1 < 4), hbyte _ (by decide : 2 < 4), hbyte _ (by decide : 3 < 4)]
    -- no byte is left over, for the word has four
    simp only [UInt32.size] at hword
    omega
  rw [decodeReading, hbits, UInt32.ofNat_toNat]

/-- The weight at a place in a row of weights. -/
theorem decodeReading_flatMap (pre rest : List UInt8) (xs : List Reading) (i : Nat)
    (hi : i < xs.length) :
    decodeReading (pre ++ xs.flatMap encodeReading ++ rest) (pre.length + 4 * i) = xs[i] := by
  induction xs generalizing pre i with
  | nil => cases hi
  | cons x others ih =>
      rw [List.flatMap_cons]
      cases i with
      | zero =>
          rw [List.append_assoc, decodeReading_append_right, List.append_assoc]
          exact decodeReading_encodeReading x _
      | succ i =>
          have hlater := ih (pre ++ encodeReading x) i (by simpa using hi)
          rw [List.length_append, encodeReading_length] at hlater
          rw [← List.append_assoc, show pre.length + 4 * (i + 1) = pre.length + 4 + 4 * i by omega]
          exact hlater

/-! ## The record -/

theorem decode_encode_tag (r : Record) : (decode r.encode).tag = r.tag := by
  refine Vector.ext fun i hi => ?_
  have hbyte : r.encode.getD i 0 = r.tag[i] := by
    rw [encode, List.append_assoc, List.append_assoc, List.getD_eq_getElem?_getD,
      List.getElem?_append_left (by simpa using hi)]
    simp [hi]
  simpa [decode] using hbyte

theorem decode_encode_weights (r : Record) : (decode r.encode).weights = r.weights := by
  refine Vector.ext fun i hi => ?_
  have hplace := decodeReading_flatMap r.tag.toList
    (r.tolerances.toList.flatMap encodeReading ++ encodeReading r.offset) r.weights.toList i
    (by simpa using hi)
  rw [← List.append_assoc, Vector.length_toList] at hplace
  simpa [decode, encode] using hplace

theorem decode_encode_tolerances (r : Record) : (decode r.encode).tolerances = r.tolerances := by
  refine Vector.ext fun i hi => ?_
  have hplace := decodeReading_flatMap (r.tag.toList ++ r.weights.toList.flatMap encodeReading)
    (encodeReading r.offset) r.tolerances.toList i (by simpa using hi)
  have hstart : (r.tag.toList ++ r.weights.toList.flatMap encodeReading).length + 4 * i =
      tagLength + 4 * (slotCount + i) := by
    rw [List.length_append, flatMap_encodeReading_length, Vector.length_toList,
      Vector.length_toList]
    omega
  rw [hstart] at hplace
  simpa [decode, encode] using hplace

theorem decode_encode_offset (r : Record) : (decode r.encode).offset = r.offset := by
  have hplace := decodeReading_append_right
    (r.tag.toList ++ r.weights.toList.flatMap encodeReading ++
      r.tolerances.toList.flatMap encodeReading) (encodeReading r.offset) 0
  have hstart : (r.tag.toList ++ r.weights.toList.flatMap encodeReading ++
      r.tolerances.toList.flatMap encodeReading).length + 0 = tagLength + 8 * slotCount := by
    rw [List.length_append, List.length_append, flatMap_encodeReading_length,
      flatMap_encodeReading_length, Vector.length_toList, Vector.length_toList,
      Vector.length_toList]
    omega
  have hlast := decodeReading_encodeReading r.offset []
  rw [List.append_nil] at hlast
  rw [hstart, hlast] at hplace
  exact hplace

/-- Decoding undoes encoding, bit for bit. -/
@[simp]
theorem decode_encode (r : Record) : decode r.encode = r := by
  have htag := decode_encode_tag r
  have hweights := decode_encode_weights r
  have htolerances := decode_encode_tolerances r
  have hoffset := decode_encode_offset r
  cases hdecoded : decode r.encode with
  | mk tag weights tolerances offset =>
      rw [hdecoded] at htag hweights htolerances hoffset
      cases htag
      cases hweights
      cases htolerances
      cases hoffset
      rfl

/-! ## The bytes -/

/-- Four bytes, put together to a word and taken apart again. -/
theorem encodeReading_decodeReading_zero (a b c d : UInt8) (rest : List UInt8) :
    encodeReading (decodeReading (a :: b :: c :: d :: rest) 0) = [a, b, c, d] := by
  have ha := a.toNat_lt
  have hb := b.toNat_lt
  have hc := c.toNat_lt
  have hd := d.toNat_lt
  have hword : (decodeReading (a :: b :: c :: d :: rest) 0).bits.toNat =
      a.toNat + 256 * b.toNat + 65536 * c.toNat + 16777216 * d.toNat := by
    have hsum : decodeReading (a :: b :: c :: d :: rest) 0 = ⟨UInt32.ofNat
        (a.toNat + (b.toNat + (c.toNat + (d.toNat + 0 <<< 8) <<< 8) <<< 8) <<< 8)⟩ := rfl
    rw [hsum, UInt32.toNat_ofNat']
    simp only [Nat.shiftLeft_eq]
    omega
  -- the byte at a place is what the shift leaves below 256
  have hbyte : ∀ i (x : UInt8),
      (a.toNat + 256 * b.toNat + 65536 * c.toNat + 16777216 * d.toNat) / 2 ^ (8 * i) % 2 ^ 8 =
        x.toNat →
      UInt8.ofNat ((decodeReading (a :: b :: c :: d :: rest) 0).bits.toNat >>> (8 * i)) = x := by
    intro i x hx
    apply UInt8.toNat_inj.mp
    rw [UInt8.toNat_ofNat', hword, Nat.shiftRight_eq_div_pow]
    exact hx
  rw [encodeReading, show List.range 4 = [0, 1, 2, 3] from rfl]
  simp only [List.map_cons, List.map_nil]
  rw [hbyte 0 a (by omega), hbyte 1 b (by omega), hbyte 2 c (by omega), hbyte 3 d (by omega)]

section Bytes

variable {bytes : List UInt8} {start : Nat}

theorem encodeReading_decodeReading (h : start + 4 ≤ bytes.length) :
    encodeReading (decodeReading bytes start) = (bytes.drop start).take 4 := by
  have hfront : (bytes.take start).length = start := List.length_take_of_le (by omega)
  have hstart : decodeReading bytes start = decodeReading (bytes.drop start) 0 := by
    calc decodeReading bytes start
        = decodeReading (bytes.take start ++ bytes.drop start) ((bytes.take start).length + 0) := by
          rw [List.take_append_drop, hfront, Nat.add_zero]
      _ = decodeReading (bytes.drop start) 0 := decodeReading_append_right _ _ 0
  have hleft : 4 ≤ (bytes.drop start).length := by
    rw [List.length_drop]
    omega
  rw [hstart]
  match bytes.drop start, hleft with
  | a :: b :: c :: d :: rest, _ => exact encodeReading_decodeReading_zero a b c d rest

/-- A row of weights, all of whose bytes are there. -/
theorem flatMap_decodeReading (n : Nat) (h : start + 4 * n ≤ bytes.length) :
    (List.ofFn fun i : Fin n => decodeReading bytes (start + 4 * i)).flatMap encodeReading =
      (bytes.drop start).take (4 * n) := by
  induction n generalizing start with
  | zero => simp
  | succ n ih =>
      have hlater : (List.ofFn fun i : Fin n => decodeReading bytes (start + 4 + 4 * i)).flatMap
          encodeReading = (bytes.drop (start + 4)).take (4 * n) := ih (by omega)
      have hplace : ∀ i : Fin n, start + 4 * (i.succ : Nat) = start + 4 + 4 * i := by
        intro i
        rw [Fin.val_succ]
        omega
      rw [List.ofFn_succ, List.flatMap_cons, Fin.val_zero, Nat.mul_zero, Nat.add_zero]
      simp only [hplace]
      rw [hlater, encodeReading_decodeReading (by omega), ← List.drop_drop, ← List.take_add,
        Nat.mul_succ, Nat.add_comm]

theorem decode_tag (h : tagLength ≤ bytes.length) :
    (decode bytes).tag.toList = bytes.take tagLength := by
  apply List.ext_getElem
  · rw [Vector.length_toList, List.length_take_of_le h]
  · intro i htag hbytes
    have hi : i < bytes.length := by
      rw [Vector.length_toList] at htag
      omega
    simp [decode, hi]

theorem decode_weights (h : tagLength + 4 * slotCount ≤ bytes.length) :
    (decode bytes).weights.toList.flatMap encodeReading =
      (bytes.drop tagLength).take (4 * slotCount) := by
  rw [decode, Vector.toList_ofFn]
  exact flatMap_decodeReading slotCount h

theorem decode_tolerances (h : tagLength + 4 * slotCount + 4 * slotCount ≤ bytes.length) :
    (decode bytes).tolerances.toList.flatMap encodeReading =
      (bytes.drop (tagLength + 4 * slotCount)).take (4 * slotCount) := by
  have hplace : ∀ i : Fin slotCount,
      tagLength + 4 * (slotCount + i) = tagLength + 4 * slotCount + 4 * i := by
    intro i
    rw [Nat.mul_add, Nat.add_assoc]
  rw [decode, Vector.toList_ofFn]
  simp only [hplace]
  exact flatMap_decodeReading slotCount h

/-- Encoding undoes decoding: no byte of the layout is lost. -/
theorem encode_decode (h : bytes.length = recordLength) : (decode bytes).encode = bytes := by
  have hlength : bytes.length = tagLength + 4 * slotCount + 4 * slotCount + 4 := h
  have hoffset : encodeReading (decode bytes).offset =
      bytes.drop (tagLength + 4 * slotCount + 4 * slotCount) := by
    have hlast : (bytes.drop (tagLength + 4 * slotCount + 4 * slotCount)).length ≤ 4 := by
      rw [List.length_drop]
      omega
    rw [← List.take_of_length_le hlast]
    exact encodeReading_decodeReading (Nat.le_of_eq hlength.symm)
  rw [encode, hoffset, decode_tag (by omega), decode_weights (by omega),
    decode_tolerances (by omega)]
  -- the four parts lie one behind the other
  rw [← List.take_add, ← List.take_add, List.take_append_drop]

/-! ## The tag -/

/-- A text is read up to its end mark exactly if the text and the mark stand there. -/
theorem takeWhile_eq_iff {text : List UInt8} (htext : ∀ b ∈ text, b ≠ 0)
    (hlength : text.length < bytes.length) :
    bytes.takeWhile (· != 0) = text ↔ bytes.take (text.length + 1) = text ++ [0] := by
  induction text generalizing bytes with
  | nil =>
      cases bytes with
      | nil => cases hlength
      | cons first rest =>
          rw [List.takeWhile_cons]
          by_cases hzero : first = 0 <;> simp [hzero]
  | cons c text ih =>
      cases bytes with
      | nil => cases hlength
      | cons first rest =>
          have hc : c ≠ 0 := htext c List.mem_cons_self
          have hrest := ih (fun b hb => htext b (List.mem_cons_of_mem c hb))
            (Nat.lt_of_succ_lt_succ hlength)
          by_cases hfirst : first = c
          · simpa [hfirst, hc] using hrest
          · -- neither side begins with the text
            rw [List.takeWhile_cons]
            by_cases hzero : first = 0 <;> simp [hzero, hfirst, hc.symm]

/-- The tag is valid exactly if the layout begins with its text and a zero byte. -/
theorem decode_isValid (h : bytes.length = recordLength) :
    (decode bytes).isValid = true ↔ bytes.take 7 = tagText ++ [0] := by
  have hlength : bytes.length = 44 := h
  have htext : ∀ b ∈ tagText, b ≠ 0 := by simp [tagText]
  have htag : tagText.length < (bytes.take tagLength).length := by
    rw [List.length_take, hlength]
    decide
  have hseven : (bytes.take tagLength).take 7 = bytes.take 7 := by
    rw [List.take_take]
    rfl
  rw [isValid, decode_tag (by rw [hlength]; decide), beq_iff_eq, takeWhile_eq_iff htext htag]
  exact hseven ▸ Iff.rfl

theorem encode_stamp (r : Record) : r.stamp.encode = validTag.toList ++ r.encode.drop tagLength := by
  have htag : r.tag.toList.length = tagLength := Vector.length_toList
  simp only [encode, stamp, List.append_assoc]
  rw [List.drop_append_of_le_length (Nat.le_of_eq htag.symm),
    List.drop_of_length_le (Nat.le_of_eq htag), List.nil_append]

/-- To stamp a valid record is to clear the last byte of its tag. -/
theorem encode_stamp_decode (h : bytes.length = recordLength)
    (hvalid : (decode bytes).isValid = true) : (decode bytes).stamp.encode = bytes.set 7 0 := by
  have hlength : bytes.length = 44 := h
  have htext : bytes.take 7 = tagText ++ [0] := (decode_isValid h).mp hvalid
  calc (decode bytes).stamp.encode
      = validTag.toList ++ bytes.drop 8 := by
          rw [encode_stamp, encode_decode h]
          rfl
    _ = tagText ++ [0] ++ 0 :: bytes.drop 8 := rfl
    _ = bytes.set 7 0 := by rw [← htext, List.set_eq_take_append_cons_drop, if_pos (by omega)]

end Bytes

@[simp]
theorem stamp_isValid (r : Record) : r.stamp.isValid = true := by
  change (validTag.toList.takeWhile (· != 0) == tagText) = true
  decide

end Record

end SmartScale
