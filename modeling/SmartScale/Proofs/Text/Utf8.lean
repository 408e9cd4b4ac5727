import SmartScale.Text.Utf8

/-!
# Well-formed text

`Utf8.encode` writes a text character by character.  `Utf8.decode` accepts exactly what it writes
(`Utf8.decode_eq_ok_iff`), so well-formed bytes are the encodings of texts and nothing else.

No character is written with a first byte that continues another one.  Bytes can therefore be cut in
front of any byte that continues nothing: the whole is well formed exactly if both parts are
(`Utf8.decode_append_iff`).
-/

namespace SmartScale

namespace Utf8

/-! ## Encodings -/

theorem toList_eq_data (bytes : ByteArray) : bytes.toList = bytes.data.toList := by
  have hloop : ∀ i front, ByteArray.toList.loop bytes i front =
      front.reverse ++ bytes.data.toList.drop i := by
    intro i front
    fun_induction ByteArray.toList.loop bytes i front with
    | case1 i front hi ih =>
        have hlt : i < bytes.data.toList.length := by simpa using hi
        rw [ih, List.drop_eq_getElem_cons hlt]
        simp [ByteArray.get!, hi]
    | case2 i front hi =>
        have hle : bytes.data.toList.length ≤ i := by simpa using hi
        simp [List.drop_eq_nil_of_le hle]
  exact hloop 0 []

/-- A text is written character by character. -/
theorem encode_ofList (text : List Char) :
    encode (String.ofList text) = text.flatMap String.utf8EncodeChar := by
  rw [encode, String.toUTF8_eq_toByteArray, String.toByteArray_ofList, toList_eq_data,
    List.utf8Encode, List.data_toByteArray]

theorem encode_eq_flatMap (text : String) :
    encode text = text.toList.flatMap String.utf8EncodeChar := by
  rw [← encode_ofList, String.ofList_toList]

/-! ## One character -/

/-- The byte continues a character. -/
def IsTail (b : UInt8) : Prop := 0x80 ≤ b.toNat ∧ b.toNat ≤ 0xBF

theorem tail?_of_isTail {b : UInt8} (h : IsTail b) : tail? b = some (b.toNat - 0x80) := by
  rw [tail?, if_pos]
  rw [UInt8.le_iff_toNat_le, UInt8.le_iff_toNat_le]
  exact h

theorem tail?_eq_some {b : UInt8} {y : Nat} (h : tail? b = some y) :
    IsTail b ∧ y = b.toNat - 0x80 := by
  rw [tail?, Option.ite_none_right_eq_some] at h
  rcases h with ⟨hrange, hy⟩
  rw [UInt8.le_iff_toNat_le, UInt8.le_iff_toNat_le] at hrange
  exact ⟨hrange, (Option.some.inj hy).symm⟩

/-- The bytes are those of a code point: no overlong form, no surrogate, nothing past the last code
point. -/
inductive Spells : Nat → List UInt8 → Prop
  | one {a : UInt8} {n : Nat} (ha : a.toNat < 0x80) (hn : n = a.toNat) : Spells n [a]
  | two {a b : UInt8} {n : Nat} (ha : 0xC2 ≤ a.toNat ∧ a.toNat ≤ 0xDF) (hb : IsTail b)
      (hn : n = (a.toNat - 0xC0) * 64 + (b.toNat - 0x80)) : Spells n [a, b]
  | three {a b c : UInt8} {n : Nat} (ha : 0xE0 ≤ a.toNat ∧ a.toNat ≤ 0xEF) (hb : IsTail b)
      (hc : IsTail c)
      (hn : n = (a.toNat - 0xE0) * 4096 + (b.toNat - 0x80) * 64 + (c.toNat - 0x80))
      (hrange : 0x800 ≤ n ∧ ¬ (0xD800 ≤ n ∧ n ≤ 0xDFFF)) : Spells n [a, b, c]
  | four {a b c d : UInt8} {n : Nat} (ha : 0xF0 ≤ a.toNat ∧ a.toNat ≤ 0xF4) (hb : IsTail b)
      (hc : IsTail c) (hd : IsTail d)
      (hn : n = (a.toNat - 0xF0) * 262144 + (b.toNat - 0x80) * 4096 + (c.toNat - 0x80) * 64 +
        (d.toNat - 0x80))
      (hrange : 0x10000 ≤ n ∧ n ≤ 0x10FFFF) : Spells n [a, b, c, d]

/-- A spelled code point is read, whatever follows it. -/
theorem Spells.sequence? {n : Nat} {bytes : List UInt8} (h : Spells n bytes) (rest : List UInt8) :
    sequence? (bytes ++ rest) = some (n, bytes.length) := by
  cases h with
  | one ha hn => simp [Utf8.sequence?, ha, hn]
  | @two a b n ha hb hn =>
      have hone : ¬ a.toNat < 0x80 := by omega
      simp [Utf8.sequence?, hone, ha, tail?_of_isTail hb, ← hn]
  | @three a b c n ha hb hc hn hrange =>
      have hone : ¬ a.toNat < 0x80 := by omega
      have htwo : ¬ (0xC2 ≤ a.toNat ∧ a.toNat ≤ 0xDF) := by omega
      simp only [Utf8.sequence?, List.cons_append, List.nil_append, if_neg hone, if_neg htwo,
        if_pos ha, Option.bind_eq_bind, Option.bind_eq_some_iff]
      refine ⟨_, tail?_of_isTail hb, _, tail?_of_isTail hc, ?_⟩
      rw [← hn, if_pos hrange]
      rfl
  | @four a b c d n ha hb hc hd hn hrange =>
      have hone : ¬ a.toNat < 0x80 := by omega
      have htwo : ¬ (0xC2 ≤ a.toNat ∧ a.toNat ≤ 0xDF) := by omega
      have hthree : ¬ (0xE0 ≤ a.toNat ∧ a.toNat ≤ 0xEF) := by omega
      simp only [Utf8.sequence?, List.cons_append, List.nil_append, if_neg hone, if_neg htwo,
        if_neg hthree, if_pos ha, Option.bind_eq_bind, Option.bind_eq_some_iff]
      refine ⟨_, tail?_of_isTail hb, _, tail?_of_isTail hc, _, tail?_of_isTail hd, ?_⟩
      rw [← hn, if_pos hrange]
      rfl

/-- What is read is a spelled code point. -/
theorem spells_of_sequence? {bytes : List UInt8} {n size : Nat}
    (h : sequence? bytes = some (n, size)) :
    ∃ front rest, bytes = front ++ rest ∧ size = front.length ∧ Spells n front := by
  unfold sequence? at h
  split at h
  · cases h
  · next a rest =>
    dsimp only at h
    split at h
    · next ha =>
      rcases Prod.mk.inj (Option.some.inj h) with ⟨hn, hsize⟩
      exact ⟨[a], rest, rfl, hsize.symm, .one ha hn.symm⟩
    · split at h
      · next ha =>
        split at h
        · next b rest =>
          rcases Option.map_eq_some_iff.mp h with ⟨y, hy, hpair⟩
          rcases tail?_eq_some hy with ⟨hb, hlow⟩
          rcases Prod.mk.inj hpair with ⟨hn, hsize⟩
          exact ⟨[a, b], rest, rfl, hsize.symm, .two ha hb (by rw [← hn, hlow])⟩
        · cases h
      · split at h
        · next ha =>
          split at h
          · next b c rest =>
            simp only [Option.bind_eq_bind, Option.bind_eq_some_iff,
              Option.ite_none_right_eq_some] at h
            rcases h with ⟨y, hy, z, hz, hrange, hpair⟩
            rcases tail?_eq_some hy with ⟨hb, hlow⟩
            rcases tail?_eq_some hz with ⟨hc, hlow'⟩
            rcases Prod.mk.inj (Option.some.inj hpair) with ⟨hn, hsize⟩
            rw [hn] at hrange
            exact ⟨[a, b, c], rest, rfl, hsize.symm,
              .three ha hb hc (by rw [← hn, hlow, hlow']) hrange⟩
          · cases h
        · split at h
          · next ha =>
            split at h
            · next b c d rest =>
              simp only [Option.bind_eq_bind, Option.bind_eq_some_iff,
                Option.ite_none_right_eq_some] at h
              rcases h with ⟨y, hy, z, hz, w, hw, hrange, hpair⟩
              rcases tail?_eq_some hy with ⟨hb, hlow⟩
              rcases tail?_eq_some hz with ⟨hc, hlow'⟩
              rcases tail?_eq_some hw with ⟨hd, hlow''⟩
              rcases Prod.mk.inj (Option.some.inj hpair) with ⟨hn, hsize⟩
              rw [hn] at hrange
              exact ⟨[a, b, c, d], rest, rfl, hsize.symm,
                .four ha hb hc hd (by rw [← hn, hlow, hlow', hlow'']) hrange⟩
            · cases h
          · cases h

theorem Spells.isValidChar {n : Nat} {bytes : List UInt8} (h : Spells n bytes) :
    n.isValidChar := by
  cases h with
  | one ha hn => exact .inl (by omega)
  | two ha hb hn =>
      have htail := hb.2
      exact .inl (by omega)
  | three ha hb hc hn hrange =>
      have htails := And.intro hb.2 hc.2
      by_cases hlow : n < 0xD800
      · exact .inl hlow
      · exact .inr ⟨by omega, by omega⟩
  | four ha hb hc hd hn hrange => exact .inr ⟨by omega, by omega⟩

/-- A character is written as its code point is spelled. -/
theorem Spells.encodeChar_eq {c : Char} {bytes : List UInt8} (h : Spells c.toNat bytes) :
    String.utf8EncodeChar c = bytes := by
  have hbyte : ∀ {k : Nat} {a : UInt8}, k = a.toNat → UInt8.ofNat k = a := by
    intro k a hk
    rw [hk, UInt8.ofNat_toNat]
  rw [String.utf8EncodeChar, show c.val.toNat = c.toNat from rfl]
  generalize c.toNat = n at h
  cases h with
  | one ha hn => rw [if_pos (by omega), hbyte hn]
  | two ha hb hn =>
      rcases hb with ⟨hlow, hhigh⟩
      rw [if_neg (by omega), if_pos (by omega)]
      congr
      · exact hbyte (by omega)
      · exact hbyte (by omega)
  | three ha hb hc hn hrange =>
      rcases hb with ⟨hlow, hhigh⟩
      rcases hc with ⟨hlow', hhigh'⟩
      rw [if_neg (by omega), if_neg (by omega), if_pos (by omega)]
      congr
      · exact hbyte (by omega)
      · exact hbyte (by omega)
      · exact hbyte (by omega)
  | four ha hb hc hd hn hrange =>
      rcases hb with ⟨hlow, hhigh⟩
      rcases hc with ⟨hlow', hhigh'⟩
      rcases hd with ⟨hlow'', hhigh''⟩
      rw [if_neg (by omega), if_neg (by omega), if_neg (by omega)]
      congr
      · exact hbyte (by omega)
      · exact hbyte (by omega)
      · exact hbyte (by omega)
      · exact hbyte (by omega)

/-- Every code point of a character is spelled by some bytes. -/
theorem exists_spells {n : Nat} (h : n.isValidChar) : ∃ bytes, Spells n bytes := by
  have hbyte : ∀ {k : Nat}, k < 256 → ∃ a : UInt8, a.toNat = k :=
    fun hk => ⟨_, UInt8.toNat_ofNat_of_lt hk⟩
  have htail : ∀ k : Nat, ∃ b : UInt8, IsTail b ∧ b.toNat - 0x80 = k % 64 := by
    intro k
    rcases hbyte (show 0x80 + k % 64 < 256 by omega) with ⟨b, hb⟩
    exact ⟨b, ⟨by omega, by omega⟩, by omega⟩
  rcases htail n with ⟨last, hlast, hlow⟩
  rcases htail (n / 64) with ⟨third, hthird, hlow'⟩
  rcases htail (n / 4096) with ⟨second, hsecond, hlow''⟩
  by_cases hone : n < 0x80
  · rcases hbyte (show n < 256 by omega) with ⟨a, ha⟩
    exact ⟨[a], .one (by omega) (by omega)⟩
  · by_cases htwo : n < 0x800
    · rcases hbyte (show 0xC0 + n / 64 < 256 by omega) with ⟨a, ha⟩
      exact ⟨[a, last], .two (by omega) hlast (by omega)⟩
    · by_cases hthree : n < 0x10000
      · rcases hbyte (show 0xE0 + n / 4096 < 256 by omega) with ⟨a, ha⟩
        refine ⟨[a, third, last], .three (by omega) hthird hlast (by omega) ⟨by omega, ?_⟩⟩
        rcases h with h | h
        · omega
        · omega
      · have hlimit : n < 0x110000 := by
          rcases h with h | h
          · omega
          · omega
        rcases hbyte (show 0xF0 + n / 262144 < 256 by omega) with ⟨a, ha⟩
        exact ⟨[a, second, third, last],
          .four (by omega) hsecond hthird hlast (by omega) ⟨by omega, by omega⟩⟩

theorem spells_encodeChar (c : Char) : Spells c.toNat (String.utf8EncodeChar c) := by
  rcases exists_spells c.valid with ⟨bytes, hbytes⟩
  rwa [Spells.encodeChar_eq hbytes]

theorem sequence?_encodeChar (c : Char) (rest : List UInt8) :
    sequence? (String.utf8EncodeChar c ++ rest) =
      some (c.toNat, (String.utf8EncodeChar c).length) :=
  (spells_encodeChar c).sequence? rest

/-- Only what is written for a character is read as one. -/
theorem encodeChar_of_sequence? {bytes : List UInt8} {n size : Nat}
    (h : sequence? bytes = some (n, size)) :
    bytes = String.utf8EncodeChar (Char.ofNat n) ++ bytes.drop size := by
  rcases spells_of_sequence? h with ⟨front, rest, rfl, rfl, hspells⟩
  have hpoint : (Char.ofNat n).toNat = n := by
    rw [Char.ofNat, dif_pos hspells.isValidChar]
    rfl
  rw [← hpoint] at hspells
  rw [hspells.encodeChar_eq, List.drop_left]

/-! ## Whole texts -/

theorem decodeFrom_of_sequence? {bytes : List UInt8} {n size fuel offset : Nat}
    (h : sequence? bytes = some (n, size)) : decodeFrom (fuel + 1) offset bytes =
      (decodeFrom fuel (offset + size) (bytes.drop size)).map (Char.ofNat n :: ·) := by
  cases bytes with
  | nil => cases h
  | cons b rest => rw [decodeFrom, h]

theorem decodeFrom_flatMap {text : List Char} {fuel : Nat} (offset : Nat)
    (hfuel : (text.flatMap String.utf8EncodeChar).length ≤ fuel) :
    decodeFrom fuel offset (text.flatMap String.utf8EncodeChar) = .ok text := by
  induction text generalizing fuel offset with
  | nil =>
      rw [List.flatMap_nil, decodeFrom]
  | cons c rest ih =>
      -- each character takes at least one byte, and so at least one unit of fuel
      have hsize : 0 < (String.utf8EncodeChar c).length := by
        rw [String.length_utf8EncodeChar]
        exact c.utf8Size_pos
      rw [List.flatMap_cons, List.length_append] at hfuel
      rcases Nat.exists_eq_succ_of_ne_zero (show fuel ≠ 0 by omega) with ⟨less, rfl⟩
      rw [List.flatMap_cons, decodeFrom_of_sequence? (sequence?_encodeChar c _), List.drop_left,
        ih _ (by omega), Char.ofNat_toNat]
      rfl

theorem eq_flatMap_of_decodeFrom {bytes : List UInt8} {text : List Char} {fuel offset : Nat}
    (h : decodeFrom fuel offset bytes = .ok text) :
    bytes = text.flatMap String.utf8EncodeChar := by
  induction fuel generalizing offset bytes text with
  | zero =>
      cases bytes with
      | nil =>
          cases h
          rfl
      | cons b rest => cases h
  | succ fuel ih =>
      cases hread : sequence? bytes with
      | none =>
          cases bytes with
          | nil =>
              cases h
              rfl
          | cons b rest =>
              rw [decodeFrom, hread] at h
              cases h
      | some pair =>
          rcases pair with ⟨n, size⟩
          rw [decodeFrom_of_sequence? hread] at h
          cases hrest : decodeFrom fuel (offset + size) (bytes.drop size) with
          | error e =>
              rw [hrest] at h
              cases h
          | ok more =>
              rw [hrest] at h
              cases h
              rw [List.flatMap_cons, ← ih hrest]
              exact encodeChar_of_sequence? hread

/-- Bytes are well formed exactly if they are what is written for a text. -/
theorem decode_eq_ok_iff {bytes : List UInt8} {text : List Char} :
    decode bytes = .ok text ↔ bytes = text.flatMap String.utf8EncodeChar := by
  constructor
  · exact eq_flatMap_of_decodeFrom
  · rintro rfl
    exact decodeFrom_flatMap 0 (Nat.le_refl _)

theorem decode_encode (text : String) : decode (encode text) = .ok text.toList :=
  decode_eq_ok_iff.mpr (encode_eq_flatMap text)

/-! ## Cuts -/

/-- Behind its first byte, a character has bytes that continue it. -/
theorem isTail_of_mem_drop {c : Char} {b : UInt8}
    (h : b ∈ (String.utf8EncodeChar c).drop 1) : IsTail b := by
  have hspells := spells_encodeChar c
  generalize String.utf8EncodeChar c = bytes at h hspells
  cases hspells with
  | one ha hn => cases h
  | two ha hb hn =>
      rcases List.mem_singleton.mp h with rfl
      exact hb
  | three ha hb hc hn hrange =>
      simp only [List.drop_succ_cons, List.drop_zero, List.mem_cons, List.not_mem_nil, or_false] at h
      rcases h with rfl | rfl
      · exact hb
      · exact hc
  | four ha hb hc hd hn hrange =>
      simp only [List.drop_succ_cons, List.drop_zero, List.mem_cons, List.not_mem_nil, or_false] at h
      rcases h with rfl | rfl | rfl
      · exact hb
      · exact hc
      · exact hd

/-- Bytes that begin a character, or end the text, can be cut off. -/
def Begins (bytes : List UInt8) : Prop := ∀ b ∈ bytes.head?, ¬ IsTail b

theorem flatMap_eq_append {text : List Char} {front bytes : List UInt8} (hbegins : Begins bytes)
    (h : text.flatMap String.utf8EncodeChar = front ++ bytes) :
    ∃ first last, text = first ++ last ∧ front = first.flatMap String.utf8EncodeChar ∧
      bytes = last.flatMap String.utf8EncodeChar := by
  induction text generalizing front with
  | nil =>
      rw [List.flatMap_nil, List.nil_eq, List.append_eq_nil_iff] at h
      exact ⟨[], [], rfl, h.1, h.2⟩
  | cons c rest ih =>
      rw [List.flatMap_cons, List.append_eq_append_iff] at h
      rcases h with ⟨more, rfl, hmore⟩ | ⟨more, hcut, hrest⟩
      · rcases ih hmore with ⟨first, last, rfl, rfl, rfl⟩
        exact ⟨c :: first, last, rfl, rfl, rfl⟩
      · cases more with
        | nil =>
            rw [List.append_nil] at hcut
            rw [List.nil_append] at hrest
            exact ⟨[c], rest, rfl, by simp [hcut], hrest⟩
        | cons m more =>
            cases front with
            | nil => exact ⟨[], c :: rest, rfl, rfl, by rw [List.flatMap_cons, hcut, hrest]; rfl⟩
            | cons f front =>
                -- the cut would go through the character
                have htail : IsTail m := by
                  apply isTail_of_mem_drop (c := c)
                  rw [hcut]
                  simp
                exact absurd htail (hbegins m (by rw [hrest]; rfl))

/-- In front of a byte that begins a character, a text can be cut in two. -/
theorem decode_append_iff {front bytes : List UInt8} (hbegins : Begins bytes) {text : List Char} :
    decode (front ++ bytes) = .ok text ↔
      ∃ first last, decode front = .ok first ∧ decode bytes = .ok last ∧ text = first ++ last := by
  simp only [decode_eq_ok_iff]
  constructor
  · intro h
    rcases flatMap_eq_append hbegins h.symm with ⟨first, last, htext, hfront, hbytes⟩
    exact ⟨first, last, hfront, hbytes, htext⟩
  · rintro ⟨first, last, rfl, rfl, rfl⟩
    rw [List.flatMap_append]

theorem begins_encodeChar (c : Char) (rest : List UInt8) :
    Begins (String.utf8EncodeChar c ++ rest) := by
  have hspells := spells_encodeChar c
  generalize String.utf8EncodeChar c = bytes at hspells
  intro b hb htail
  rcases htail with ⟨hlow, hhigh⟩
  cases hspells with
  | one ha hn =>
      rcases Option.some.inj hb with rfl
      omega
  | two ha htail hn =>
      rcases Option.some.inj hb with rfl
      omega
  | three ha htail htail' hn hrange =>
      rcases Option.some.inj hb with rfl
      omega
  | four ha htail htail' htail'' hn hrange =>
      rcases Option.some.inj hb with rfl
      omega

/-- A text can be cut off in front, whatever follows it. -/
theorem decode_flatMap_append (front : List Char) {bytes : List UInt8} {text : List Char} :
    decode (front.flatMap String.utf8EncodeChar ++ bytes) = .ok text ↔
      ∃ last, decode bytes = .ok last ∧ text = front ++ last := by
  simp only [decode_eq_ok_iff]
  constructor
  · intro h
    induction front generalizing text with
    | nil => exact ⟨text, h, rfl⟩
    | cons c front ih =>
        rw [List.flatMap_cons, List.append_assoc] at h
        cases text with
        | nil =>
            rw [List.flatMap_nil, List.append_eq_nil_iff] at h
            exact absurd h.1 String.utf8EncodeChar_ne_nil
        | cons d rest =>
            rw [List.flatMap_cons] at h
            -- both sides begin with one character, which is read from either
            have hread := sequence?_encodeChar c (front.flatMap String.utf8EncodeChar ++ bytes)
            rw [h, sequence?_encodeChar, Option.some.injEq, Prod.mk.injEq, Char.toNat_inj] at hread
            rcases hread with ⟨rfl, -⟩
            rcases ih (List.append_cancel_left h) with ⟨last, hlast, rfl⟩
            exact ⟨last, hlast, rfl⟩
  · rintro ⟨last, rfl, rfl⟩
    rw [List.flatMap_append]

/-- A text put between two parts, which no character joins, is found between what they decode to. -/
theorem decode_between_iff {front bytes : List UInt8} (hcut : front = [] ∨ Begins bytes)
    (middle : String) {text : List Char} : decode (front ++ (encode middle ++ bytes)) = .ok text ↔
      ∃ first last, decode front = .ok first ∧ decode bytes = .ok last ∧
        text = first ++ (middle.toList ++ last) := by
  have hmiddle : ∀ {more}, decode (encode middle ++ bytes) = .ok more ↔
      ∃ last, decode bytes = .ok last ∧ more = middle.toList ++ last := by
    intro more
    rw [encode_eq_flatMap, decode_flatMap_append]
  have hbegins : front = [] ∨ Begins (encode middle ++ bytes) := by
    rw [encode_eq_flatMap]
    cases middle.toList with
    | nil => exact hcut
    | cons c rest =>
        rw [List.flatMap_cons, List.append_assoc]
        exact .inr (begins_encodeChar c _)
  rcases hbegins with rfl | hbegins
  · rw [List.nil_append, hmiddle]
    constructor
    · rintro ⟨last, hlast, rfl⟩
      exact ⟨[], last, rfl, hlast, rfl⟩
    · rintro ⟨first, last, hfirst, hlast, rfl⟩
      cases hfirst
      exact ⟨last, hlast, rfl⟩
  · rw [decode_append_iff hbegins]
    constructor
    · rintro ⟨first, more, hfirst, hmore, rfl⟩
      rcases hmiddle.mp hmore with ⟨last, hlast, rfl⟩
      exact ⟨first, last, hfirst, hlast, rfl⟩
    · rintro ⟨first, last, hfirst, hlast, rfl⟩
      exact ⟨first, middle.toList ++ last, hfirst, hmiddle.mpr ⟨last, hlast, rfl⟩, rfl⟩

/-- A byte of one-byte size in what is written for a character is that character. -/
theorem toNat_eq_of_mem_encodeChar {c : Char} {b : UInt8} (h : b ∈ String.utf8EncodeChar c)
    (hsmall : b.toNat < 0x80) : c.toNat = b.toNat := by
  have hspells := spells_encodeChar c
  cases hbytes : String.utf8EncodeChar c with
  | nil => exact absurd hbytes String.utf8EncodeChar_ne_nil
  | cons a rest =>
      rw [hbytes] at h hspells
      rcases List.mem_cons.mp h with rfl | hrest
      · cases hspells with
        | one ha hn => exact hn
        | two ha hb hn => omega
        | three ha hb hc hn hrange => omega
        | four ha hb hc hd hn hrange => omega
      · have htail : IsTail b := by
          apply isTail_of_mem_drop (c := c)
          rw [hbytes]
          exact hrest
        exact absurd htail.1 (by omega)

theorem mem_of_mem_encode {text : String} {b : UInt8} (h : b ∈ encode text)
    (hsmall : b.toNat < 0x80) : Char.ofNat b.toNat ∈ text.toList := by
  rw [encode_eq_flatMap, List.mem_flatMap] at h
  rcases h with ⟨c, hc, hmem⟩
  rwa [← toNat_eq_of_mem_encodeChar hmem hsmall, Char.ofNat_toNat]

end Utf8

end SmartScale
