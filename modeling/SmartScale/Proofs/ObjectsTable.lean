import SmartScale.ObjectsTable
import SmartScale.Proofs.Csv.Table
import SmartScale.Proofs.Number.Spelling

/-!
# Tables of objects, written and read

`ObjectsTable.Written` says how rows can be written: each number in any spelling that is read as it,
blanks and tabs around every field, line ends of any kind, empty lines anywhere, and a mark for the
byte order in front.  However they are written, rows that pass the check are read back as they are
(`ObjectsTable.load_written`).
-/

namespace SmartScale

/-! ## Spellings -/

theorem DecimalLiteral.IsPart.bare {c : Char} (h : IsPart c) :
    Text.isBlank c = false ∧ c ≠ ',' ∧ c ≠ '"' := by
  rcases h with hletter | rfl | rfl | rfl
  · have hrange : 48 ≤ c.toNat ∧ c.toNat ≤ 122 := by
      rcases isAlphanum_iff.mp hletter with hupper | hlower | hdigit
      · have hupper := isUpper_iff.mp hupper
        omega
      · have hlower := isLower_iff.mp hlower
        omega
      · have hdigit : 48 ≤ c.toNat ∧ c.toNat ≤ 57 := Char.isDigit_iff_toNat.mp hdigit
        omega
    refine ⟨?_, ?_, ?_⟩
    · simp only [Text.isBlank, Bool.or_eq_false_iff, Bool.and_eq_false_iff, decide_eq_false_iff_not,
        beq_eq_false_iff_ne]
      omega
    · rintro rfl
      exact absurd hrange.1 (by decide)
    · rintro rfl
      exact absurd hrange.1 (by decide)
  · decide
  · decide
  · decide

theorem isBare_of_parse {text : String} {value : Reading} (h : Reading.parse text = .ok value) :
    Csv.IsBare text := by
  rw [Reading.parse] at h
  cases hliteral : DecimalLiteral.parse text.toList with
  | error e =>
      rw [hliteral] at h
      cases h
  | ok literal => exact fun c hc => (DecimalLiteral.isPart_of_parse hliteral c hc).bare

theorem isBare_of_digits {text : String} (h : ∀ c ∈ text.toList, c.isDigit = true) :
    Csv.IsBare text :=
  fun c hc => (DecimalLiteral.isPart_of_isDigit (h c hc)).bare

namespace ObjectsTable

/-- A table that is read has rows, and they have been checked. -/
theorem of_load {disk : Disk} {path : String} {rows : List ObjectRow}
    (h : load disk path = .ok rows) :
    rows.isEmpty = false ∧ checkObjects rows = .ok () := by
  have hparse : ∃ bytes, parse bytes = .ok rows := by
    unfold load at h
    split at h
    · cases h
    · cases h
    · exact ⟨_, h⟩
  rcases hparse with ⟨bytes, hparse⟩
  unfold parse at hparse
  split at hparse
  · cases hparse
  · split at hparse
    · cases hparse
    · split at hparse
      · cases hparse
      · split at hparse
        · cases hparse
        · next hrows =>
          split at hparse
          · cases hparse
          · next hchecked =>
            cases hparse
            exact ⟨by simpa using hrows, hchecked⟩

/-! ## Written tables -/

/-- Fields in which a row is written. -/
inductive Spells (row : ObjectRow) : List (List UInt8) → Prop
  | intro {slot weight tolerance : String} {fields : List (List UInt8)}
      (hdigits : slot.toList ≠ [] ∧ ∀ c ∈ slot.toList, c.isDigit = true)
      (hslot : DecimalLiteral.ofDigits slot.toList = row.slot.toNat)
      (hweight : Reading.parse weight = .ok row.weight)
      (htolerance : Reading.parse tolerance = .ok row.tolerance)
      (hfields : List.Forall₂ Csv.Padded [slot, weight, tolerance] fields) : Spells row fields

/-- Bytes in which the rows are written as a table. -/
inductive Written (rows : List ObjectRow) : List UInt8 → Prop
  | intro {mark lines : List UInt8} {names : List (List UInt8)}
      {records : List (List (List UInt8))}
      (hmark : mark = [] ∨ mark = Csv.Cursor.byteOrderMark)
      (hnames : List.Forall₂ Csv.Padded columns names) (hrecords : List.Forall₂ Spells rows records)
      (hlaid : Csv.Laid (names :: records) lines) : Written rows (mark ++ lines)

theorem isBare_columns : ∀ name ∈ columns, Csv.IsBare name := by
  have hparts : ∀ name ∈ columns, name.toList.all Char.isAlphanum = true := by decide
  exact fun name hname c hc =>
    DecimalLiteral.IsPart.bare (.inl (List.all_eq_true.mp (hparts name hname) c hc))

variable {row : ObjectRow} {rows : List ObjectRow} {fields : List (List UInt8)}
  {records : List (List (List UInt8))} {bytes : List UInt8}

theorem slot_eq_ok {digits : List Char} (hnil : digits ≠ [])
    (hdigits : ∀ c ∈ digits, c.isDigit = true)
    (hbound : DecimalLiteral.ofDigits digits < UInt64.size) :
    slot digits = .ok (DecimalLiteral.ofDigits digits) := by
  unfold slot
  split
  · exact absurd (hdigits 'x' (by simp)) (by decide)
  · exact Whole.parse_digits hnil hdigits hbound

theorem Spells.exists_texts (h : Spells row fields) :
    ∃ texts : List String, List.Forall₂ Csv.Padded texts fields ∧
      (∀ text ∈ texts, Csv.IsBare text) ∧ texts.length = columns.length ∧
        ∀ p, object p (texts.map String.toList) = .ok row := by
  cases h with
  | @intro slotText weightText toleranceText fields hdigits hslot hweight htolerance hfields =>
      refine ⟨_, hfields, ?_, rfl, ?_⟩
      · simp only [List.forall_mem_cons]
        exact ⟨isBare_of_digits hdigits.2, isBare_of_parse hweight, isBare_of_parse htolerance,
          fun _ hnil => absurd hnil List.not_mem_nil⟩
      · intro p
        have hbound : DecimalLiteral.ofDigits slotText.toList < UInt64.size :=
          hslot ▸ row.slot.toNat_lt
        have hindex := slot_eq_ok hdigits.1 hdigits.2 hbound
        rw [Reading.parse, ← weight] at hweight htolerance
        simp only [List.map_cons, List.map_nil, object, hindex, hweight, htolerance, hslot,
          UInt64.ofNat_toNat]

theorem Spells.isRecord (h : Spells row fields) : Csv.IsRecord fields := by
  rcases h.exists_texts with ⟨texts, hpadded, hbare, hlength, -⟩
  exact Csv.isRecord_of_padded hpadded hbare (by rw [hlength]; decide)

theorem Spells.read (h : Spells row fields) (p : Csv.Position) :
    (Csv.row columns.length p fields).bind (object p) = .ok row := by
  rcases h.exists_texts with ⟨texts, hpadded, hbare, hlength, hobject⟩
  rw [← hlength, Csv.row_eq_ok hpadded hbare p]
  exact hobject p

/-- Rows are read in their order; each takes one unit of fuel. -/
theorem rowsFrom_of_laid (hrecords : List.Forall₂ Spells rows records)
    (hlaid : Csv.Laid records bytes) {fuel : Nat} (hfuel : rows.length < fuel) (number : Nat)
    (p : Csv.Position) : rowsFrom fuel number ⟨bytes, p⟩ = .ok rows := by
  induction hrecords generalizing bytes fuel number p with
  | nil =>
      -- no record is left, which ends the rows before the fuel is used up
      rcases Nat.exists_eq_succ_of_ne_zero (Nat.ne_of_gt hfuel) with ⟨less, rfl⟩
      have hnext := hlaid.next_nil p
      rw [rowsFrom]
      split
      · rfl
      · next hsome =>
        rw [hsome] at hnext
        cases hnext
  | @cons row fields rows records hrow hrest ih =>
      rcases Nat.exists_eq_succ_of_ne_zero (Nat.ne_of_gt (Nat.zero_lt_of_lt hfuel)) with
        ⟨less, rfl⟩
      rcases hlaid.next hrow.isRecord p with ⟨rest, q, hnext, hlaid'⟩
      rw [rowsFrom, hnext]
      dsimp only
      rw [hrow.read, ih hlaid' (Nat.lt_of_succ_lt_succ hfuel)]
      rfl

/-- A header begins with a blank, a tab or an `s`. -/
theorem head_joined_ne {names : List (List UInt8)} (h : List.Forall₂ Csv.Padded columns names) :
    (Csv.joined names).head? ≠ some 0xEF := by
  rcases List.forall₂_cons_left_iff.mp h with ⟨first, more, hfirst, hmore, rfl⟩
  rcases List.forall₂_cons_left_iff.mp hmore with ⟨next, rest, -, -, rfl⟩
  rw [Csv.joined, List.intercalate_cons_cons]
  cases hfirst with
  | @intro before after hbefore hafter =>
      cases before with
      | nil =>
          have hslot : Utf8.encode "slot" = [115, 108, 111, 116] := Utf8.encode_eq_flatMap "slot"
          rw [hslot]
          intro hhead
          exact absurd (Option.some.inj hhead) (by decide)
      | cons b before =>
          intro hhead
          rcases Option.some.inj hhead with rfl
          exact absurd (hbefore 0xEF List.mem_cons_self) (by decide)

/-- A mark is taken off the lines, and without one nothing is taken for a mark. -/
theorem ofBytes_of_laid {mark : List UInt8} (hmark : mark = [] ∨ mark = Csv.Cursor.byteOrderMark)
    {names : List (List UInt8)} (hnames : List.Forall₂ Csv.Padded columns names)
    (hlaid : Csv.Laid (names :: records) bytes) :
    ∃ p, Csv.Cursor.ofBytes (mark ++ bytes) = ⟨bytes, p⟩ := by
  rcases hmark with rfl | rfl
  · rcases hlaid.head (Csv.isRecord_of_padded hnames isBare_columns (by decide)) with
      ⟨b, rest, rfl, hb⟩
    have hfirst : b ≠ 0xEF := by
      rintro rfl
      rcases hb with hend | hhead
      · exact absurd hend (by decide)
      · exact head_joined_ne hnames hhead
    have hmark : Csv.Cursor.byteOrderMark.isPrefixOf (b :: rest) = false := by
      rw [Csv.Cursor.byteOrderMark, List.isPrefixOf_cons_cons, beq_false_of_ne (Ne.symm hfirst),
        Bool.false_and]
    refine ⟨⟨0, 1, 0⟩, ?_⟩
    rw [List.nil_append, Csv.Cursor.ofBytes, hmark]
    rfl
  · exact ⟨⟨0, 1, 3⟩, rfl⟩

theorem isRecord_of_mem (h : List.Forall₂ Spells rows records) :
    ∀ fields ∈ records, Csv.IsRecord fields := by
  induction h with
  | nil => exact fun _ hfields => absurd hfields List.not_mem_nil
  | cons hrow hrest ih => exact List.forall_mem_cons.mpr ⟨hrow.isRecord, ih⟩

/-- Rows that pass the check are read back, however they are written. -/
theorem parse_written (h : Written rows bytes) (hrows : rows ≠ [])
    (hchecked : checkObjects rows = .ok ()) : parse bytes = .ok rows := by
  cases h with
  | @intro mark lines names records hmark hnames hrecords hlaid =>
      rcases ofBytes_of_laid hmark hnames hlaid with ⟨p, hcursor⟩
      rcases Csv.header_of_laid hnames isBare_columns (by decide) hlaid p with ⟨rest, q, hheader, hrest⟩
      have hall : ∀ fields ∈ names :: records, Csv.IsRecord fields :=
        List.forall_mem_cons.mpr
          ⟨Csv.isRecord_of_padded hnames isBare_columns (by decide), isRecord_of_mem hrecords⟩
      -- the header takes a line as each row does, and the mark only adds to the bytes
      have hfuel : rows.length < (mark ++ lines).length + 1 := by
        have hle := hlaid.length_le hall
        rw [List.length_cons, ← hrecords.length_eq] at hle
        rw [List.length_append]
        omega
      have hcolumns : (columns.map String.toList).map String.ofList = columns := by decide
      rw [parse, hcursor, hheader]
      dsimp only
      rw [if_neg (not_not.mpr hcolumns), rowsFrom_of_laid hrecords hrest hfuel]
      dsimp only
      rw [if_neg (by simpa using hrows), hchecked]

/-- Rows that pass the check are read back from the file that they are written to, in their order and
bit for bit, however they are written.  Whatever a file holds, what is read from it is not empty and
passes the check. -/
theorem load_written :
    (∀ disk path bytes rows, disk.lookup path = .ok (.file bytes) → rows ≠ [] →
      checkObjects rows = .ok () → Written rows bytes → load disk path = .ok rows) ∧
    ∀ disk path rows, load disk path = .ok rows → rows ≠ [] ∧ checkObjects rows = .ok () := by
  refine ⟨?_, ?_⟩
  · intro disk path bytes rows hfile hrows hchecked hwritten
    rw [load, hfile]
    exact parse_written hwritten hrows hchecked
  · intro disk path rows hload
    rcases of_load hload with ⟨hrows, hchecked⟩
    exact ⟨by simpa using hrows, hchecked⟩

/-- One row, with a blank in front of its weight, two kinds of line ends and an empty line; the last
line has no end. -/
theorem load_written_one :
    let bytes := Csv.joined (columns.map Utf8.encode) ++
      ([13, 10] ++ ([10] ++ Csv.joined [Utf8.encode "1", 32 :: Utf8.encode "2", Utf8.encode "0"]))
    let disk : Disk := ⟨["work"], [(["work", "table"], .file bytes)]⟩
    let rows : List ObjectRow := [⟨1, ⟨0x40000000⟩, ⟨0⟩⟩]
    disk.lookup "table" = .ok (.file bytes) ∧ rows ≠ [] ∧ checkObjects rows = .ok () ∧
      Written rows bytes ∧ load disk "table" = .ok rows := by
  intro bytes disk rows
  have hbare : ∀ text : String, Csv.Padded text (Utf8.encode text) := by
    intro text
    have h := @Csv.Padded.intro text [] [] (fun _ hb => nomatch hb) (fun _ hb => nomatch hb)
    rwa [List.nil_append, List.append_nil] at h
  have hblank : Csv.Padded "2" (32 :: Utf8.encode "2") := by
    have h := @Csv.Padded.intro "2" [32] []
      (fun _ hb => .inl (List.mem_singleton.mp hb)) (fun _ hb => nomatch hb)
    rwa [List.append_nil] at h
  have hlookup : disk.lookup "table" = .ok (.file bytes) := by
    have hresolve : disk.resolve "table" = .ok ["work", "table"] := by decide +kernel
    simp only [Disk.lookup, hresolve]
    rfl
  have hchecked : checkObjects rows = .ok () := by decide
  have hwritten : Written rows bytes := by
    refine @Written.intro rows [] bytes _ _ (.inl rfl) ?_ (.cons ?_ .nil)
      (.line .both (.empty .feed .last))
    · exact .cons (hbare _) (.cons (hbare _) (.cons (hbare _) .nil))
    · exact @Spells.intro _ "1" "2" "0" _ ⟨by decide, List.all_eq_true.mp (by decide)⟩ (by decide)
        (by decide) (by decide) (.cons (hbare _) (.cons hblank (.cons (hbare _) .nil)))
  exact ⟨hlookup, by decide, hchecked, hwritten,
    load_written.1 disk "table" bytes rows hlookup (by decide) hchecked hwritten⟩

end ObjectsTable

end SmartScale
