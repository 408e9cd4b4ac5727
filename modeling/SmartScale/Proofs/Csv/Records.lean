import SmartScale.Csv.Record

/-!
# Records, line by line

Records without quotes are laid out in lines: fields with commas between them, a line end of any
kind, empty lines anywhere (`Csv.Laid`).  From such bytes `Cursor.next` takes the records one after
the other, and what it leaves is laid out again (`Laid.next`).
-/

namespace SmartScale

namespace Csv

/-- How a line ends. -/
inductive LineEnd : List UInt8 → Prop
  | feed : LineEnd [10]
  | carriage : LineEnd [13]
  | both : LineEnd [13, 10]

/-- The fields of a record with commas between them. -/
def joined (fields : List (List UInt8)) : List UInt8 := [comma].intercalate fields

/-- Bytes in which the records are laid out, each in a line of its own. -/
inductive Laid : List (List (List UInt8)) → List UInt8 → Prop
  | done : Laid [] []
  /-- An empty line. -/
  | empty {records : List (List (List UInt8))} {ending bytes : List UInt8} (hend : LineEnd ending)
      (hrest : Laid records bytes) : Laid records (ending ++ bytes)
  | line {fields : List (List UInt8)} {records : List (List (List UInt8))}
      {ending bytes : List UInt8} (hend : LineEnd ending) (hrest : Laid records bytes) :
      Laid (fields :: records) (joined fields ++ (ending ++ bytes))
  /-- The last line may go without an end. -/
  | last {fields : List (List UInt8)} : Laid [fields] (joined fields)

/-- The byte is part of a field, wherever it stands. -/
def IsPlain (b : UInt8) : Prop := b ≠ comma ∧ b ≠ quoteMark ∧ isLineEnd b = false

/-- Fields that need no quotes and make up a line that is not empty. -/
structure IsRecord (fields : List (List UInt8)) : Prop where
  plain : ∀ field ∈ fields, ∀ b ∈ field, IsPlain b
  not_empty : joined fields ≠ []

variable {s : State} {b : UInt8} {field tail rest ending bytes : List UInt8}
  {fields done : List (List UInt8)} {records : List (List (List UInt8))} {p : Position}

/-! ## Single bytes -/

theorem scan_plain_cons (hb : IsPlain b) (hs : s ≠ .inQuotes) :
    scan s field done p (b :: rest) = scan .inField (field ++ [b]) done (p.advance b) rest := by
  simp [scan, hb.1, hb.2.1, hb.2.2, hs]

theorem scan_comma (hs : s ≠ .inQuotes) :
    scan s field done p (comma :: rest) =
      scan .fieldStart [] (done ++ [field]) (p.advance comma) rest := by
  have hquote : comma ≠ quoteMark := by decide
  have hend : isLineEnd comma = false := by decide
  simp [scan, hs, hquote, hend]

theorem scan_skip (hb : isLineEnd b = true) :
    scan .between [] [] p (b :: rest) = scan .between [] [] (p.advance b) rest := by
  simp [scan, hb]

/-- A record begins with its first byte as a field does. -/
theorem scan_between (hb : isLineEnd b = false) :
    scan .between [] [] p (b :: rest) = scan .fieldStart [] [] p (b :: rest) := by
  simp [scan, hb]

/-- What follows a record: nothing, or a line end, of which the first byte ends the record. -/
def Ends (tail rest : List UInt8) : Prop :=
  (tail = [] ∧ rest = []) ∨ ∃ b, isLineEnd b = true ∧ tail = b :: rest

theorem scan_end (h : Ends tail rest) (hbetween : s ≠ .between) (hquotes : s ≠ .inQuotes) :
    ∃ q, scan s field done p tail = (some (done ++ [field]), ⟨rest, q⟩) := by
  rcases h with ⟨rfl, rfl⟩ | ⟨b, hb, rfl⟩
  · exact ⟨p, by rw [scan, if_neg hbetween]⟩
  · have hcomma : b ≠ comma := by
      rintro rfl
      exact absurd hb (by decide)
    have hquote : b ≠ quoteMark := by
      rintro rfl
      exact absurd hb (by decide)
    exact ⟨p.advance b, by simp [scan, hb, hbetween, hquotes, hcomma, hquote]⟩

/-! ## Fields and records -/

theorem scan_plain (hfield : ∀ b ∈ field, IsPlain b) (hbetween : s ≠ .between)
    (hquotes : s ≠ .inQuotes) (front : List UInt8) :
    ∃ s' q, s' ≠ .between ∧ s' ≠ .inQuotes ∧
      scan s front done p (field ++ tail) = scan s' (front ++ field) done q tail := by
  induction field generalizing s front p with
  | nil => exact ⟨s, p, hbetween, hquotes, by rw [List.nil_append, List.append_nil]⟩
  | cons b field ih =>
      rw [List.forall_mem_cons] at hfield
      rcases ih hfield.2 (s := .inField) (by decide) (by decide) (front ++ [b]) with
        ⟨s', q, hbetween', hquotes', hscan⟩
      refine ⟨s', q, hbetween', hquotes', ?_⟩
      rw [List.cons_append, scan_plain_cons hfield.1 hquotes, hscan, List.append_assoc]
      rfl

theorem scan_joined (hfields : ∀ field ∈ fields, ∀ b ∈ field, IsPlain b) (hnil : fields ≠ [])
    (hend : Ends tail rest) (done : List (List UInt8)) (p : Position) :
    ∃ q, scan .fieldStart [] done p (joined fields ++ tail) =
      (some (done ++ fields), ⟨rest, q⟩) := by
  induction fields generalizing done p with
  | nil => exact absurd rfl hnil
  | cons field more ih =>
      rw [List.forall_mem_cons] at hfields
      cases more with
      | nil =>
          -- the last field is completed by what ends the record
          rw [joined, List.intercalate_singleton]
          rcases scan_plain hfields.1 (s := .fieldStart) (by decide) (by decide) [] with
            ⟨s, q, hbetween, hquotes, hscan⟩
          rw [hscan]
          exact scan_end hend hbetween hquotes
      | cons next more =>
          -- this field is completed by a comma, and the fields behind it are scanned afresh
          rw [joined, List.intercalate_cons_cons, List.append_assoc, List.append_assoc]
          rcases scan_plain hfields.1 (s := .fieldStart) (by decide) (by decide) [] with
            ⟨s, q, hbetween, hquotes, hscan⟩
          rcases ih hfields.2 (List.cons_ne_nil _ _) (done ++ [field]) (q.advance comma) with
            ⟨q', hrest⟩
          refine ⟨q', ?_⟩
          rw [hscan, List.singleton_append, scan_comma hquotes, List.nil_append, ← joined, hrest,
            List.append_assoc]
          rfl

theorem IsRecord.ne_nil (h : IsRecord fields) : fields ≠ [] := by
  rintro rfl
  exact h.not_empty rfl

/-- A line does not begin with a line end. -/
theorem IsRecord.head (h : IsRecord fields) :
    ∃ b line, joined fields = b :: line ∧ isLineEnd b = false := by
  rcases List.exists_cons_of_ne_nil h.ne_nil with ⟨field, more, rfl⟩
  have hfield := h.plain field List.mem_cons_self
  cases field with
  | cons b field =>
      have hb := (hfield b List.mem_cons_self).2.2
      cases more with
      | nil => exact ⟨b, field, by rw [joined, List.intercalate_singleton], hb⟩
      | cons next more => exact ⟨b, _, by rw [joined, List.intercalate_cons_cons]; rfl, hb⟩
  | nil =>
      cases more with
      | nil => exact absurd rfl h.not_empty
      | cons next more =>
          exact ⟨comma, _, by rw [joined, List.intercalate_cons_cons]; rfl, by decide⟩

theorem next_joined (h : IsRecord fields) (hend : Ends tail rest) (p : Position) :
    ∃ q, Cursor.next ⟨joined fields ++ tail, p⟩ = (some fields, ⟨rest, q⟩) := by
  rcases h.head with ⟨b, line, hline, hb⟩
  rcases scan_joined h.plain h.ne_nil hend [] p with ⟨q, hscan⟩
  rw [List.nil_append, hline, List.cons_append, ← scan_between hb] at hscan
  exact ⟨{ q with record := q.record + 1 }, by
    rw [Cursor.next, hline, List.cons_append, hscan]⟩

/-! ## Lines -/

theorem LineEnd.skip (h : LineEnd ending) (bytes : List UInt8) (p : Position) :
    ∃ q, Cursor.next ⟨ending ++ bytes, p⟩ = Cursor.next ⟨bytes, q⟩ := by
  have hskip : ∀ {b : UInt8} (rest : List UInt8) (p : Position), isLineEnd b = true →
      Cursor.next ⟨b :: rest, p⟩ = Cursor.next ⟨rest, p.advance b⟩ := by
    intro b rest p hb
    rw [Cursor.next, scan_skip hb, Cursor.next]
  cases h with
  | feed => exact ⟨_, hskip _ _ rfl⟩
  | carriage => exact ⟨_, hskip _ _ rfl⟩
  | both => exact ⟨_, (hskip _ _ rfl).trans (hskip _ _ rfl)⟩

/-- The first byte of a line end ends the record; a second one is left and makes an empty line. -/
theorem LineEnd.ends (h : LineEnd ending) (hrest : Laid records bytes) :
    ∃ rest, Ends (ending ++ bytes) rest ∧ Laid records rest := by
  cases h with
  | feed => exact ⟨bytes, .inr ⟨10, rfl, rfl⟩, hrest⟩
  | carriage => exact ⟨bytes, .inr ⟨13, rfl, rfl⟩, hrest⟩
  | both => exact ⟨[10] ++ bytes, .inr ⟨13, rfl, rfl⟩, .empty .feed hrest⟩

theorem Laid.next (h : Laid (fields :: records) bytes) (hrecord : IsRecord fields) (p : Position) :
    ∃ rest q, Cursor.next ⟨bytes, p⟩ = (some fields, ⟨rest, q⟩) ∧ Laid records rest := by
  generalize hall : fields :: records = all at h
  induction h generalizing p with
  | done => cases hall
  | empty hend hrest ih =>
      rcases hend.skip _ p with ⟨q, hskip⟩
      rw [hskip]
      exact ih q hall
  | line hend hrest ih =>
      cases hall
      rcases hend.ends hrest with ⟨rest, hends, hlaid⟩
      rcases next_joined hrecord hends p with ⟨q, hnext⟩
      exact ⟨rest, q, hnext, hlaid⟩
  | last =>
      cases hall
      rcases next_joined hrecord (.inl ⟨rfl, rfl⟩) p with ⟨q, hnext⟩
      rw [List.append_nil] at hnext
      exact ⟨[], q, hnext, .done⟩

theorem Laid.next_nil (h : Laid [] bytes) (p : Position) : (Cursor.next ⟨bytes, p⟩).1 = none := by
  generalize hall : ([] : List (List (List UInt8))) = all at h
  induction h generalizing p with
  | done => rfl
  | empty hend hrest ih =>
      rcases hend.skip _ p with ⟨q, hskip⟩
      rw [hskip]
      exact ih q hall
  | line hend hrest ih => cases hall
  | last => cases hall

/-- The first byte ends an empty line or begins the first record. -/
theorem Laid.head (h : Laid (fields :: records) bytes) (hrecord : IsRecord fields) :
    ∃ b rest, bytes = b :: rest ∧ (isLineEnd b = true ∨ (joined fields).head? = some b) := by
  rcases hrecord.head with ⟨b, line, hline, -⟩
  cases h with
  | empty hend hrest =>
      cases hend with
      | feed => exact ⟨10, _, rfl, .inl rfl⟩
      | carriage => exact ⟨13, _, rfl, .inl rfl⟩
      | both => exact ⟨13, _, rfl, .inl rfl⟩
  | line hend hrest => exact ⟨b, _, by rw [hline]; rfl, .inr (by rw [hline]; rfl)⟩
  | last => exact ⟨b, line, hline, .inr (by rw [hline]; rfl)⟩

/-- Each record takes at least one byte. -/
theorem Laid.length_le (h : Laid records bytes) (hrecords : ∀ fields ∈ records, IsRecord fields) :
    records.length ≤ bytes.length := by
  induction h with
  | done => exact Nat.le_refl 0
  | empty hend hrest ih =>
      rw [List.length_append]
      exact Nat.le_add_left_of_le (ih hrecords)
  | line hend hrest ih =>
      rw [List.forall_mem_cons] at hrecords
      have hline := List.length_pos_iff.mpr hrecords.1.not_empty
      have hmore := ih hrecords.2
      simp only [List.length_cons, List.length_append]
      omega
  | last =>
      rw [List.forall_mem_cons] at hrecords
      exact List.length_pos_iff.mpr hrecords.1.not_empty

end Csv

end SmartScale
