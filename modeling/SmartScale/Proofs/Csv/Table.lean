import Mathlib.Data.List.Forall2
import SmartScale.Csv.Table
import SmartScale.Proofs.Csv.Records
import SmartScale.Proofs.Text.Blank
import SmartScale.Proofs.Text.Utf8

/-!
# Padded texts in records

A text without white space and without separators (`Csv.IsBare`) can stand in a field with blanks and
tabs around it (`Csv.Padded`).  A header and a row of such fields are read as their texts
(`Csv.header_of_laid`, `Csv.row_eq_ok`).
-/

namespace SmartScale

namespace Csv

/-! ## Bare texts -/

/-- A text of which nothing is trimmed off and nothing is taken for a separator. -/
def IsBare (text : String) : Prop :=
  ∀ c ∈ text.toList, Text.isBlank c = false ∧ c ≠ ',' ∧ c ≠ '"'

variable {text : String} {b : UInt8} {field bytes : List UInt8} {texts : List String}
  {fields : List (List UInt8)} {records : List (List (List UInt8))}

/-- The blanks among the bytes are written for blanks among the characters. -/
theorem isBlank_of_isBlankByte (h : Text.isBlankByte b = true) :
    b.toNat < 0x80 ∧ Text.isBlank (Char.ofNat b.toNat) = true := by
  simp only [Text.isBlankByte, Bool.or_eq_true, beq_iff_eq] at h
  rcases h with (((rfl | rfl) | rfl) | rfl) | rfl <;> exact ⟨by decide, by decide⟩

theorem IsBare.isBlankByte_eq (h : IsBare text) (hb : b ∈ Utf8.encode text) :
    Text.isBlankByte b = false := by
  rw [Bool.eq_false_iff]
  intro hblank
  rcases isBlank_of_isBlankByte hblank with ⟨hsmall, hchar⟩
  rw [(h _ (Utf8.mem_of_mem_encode hb hsmall)).1] at hchar
  cases hchar

theorem IsBare.isPlain (h : IsBare text) (hb : b ∈ Utf8.encode text) : IsPlain b := by
  refine ⟨?_, ?_, ?_⟩
  · rintro rfl
    exact (h _ (Utf8.mem_of_mem_encode hb (by decide))).2.1 rfl
  · rintro rfl
    exact (h _ (Utf8.mem_of_mem_encode hb (by decide))).2.2 rfl
  · have hblank := h.isBlankByte_eq hb
    simp only [Text.isBlankByte, Bool.or_eq_false_iff] at hblank
    rw [isLineEnd, hblank.1.1.2, hblank.2]
    rfl

theorem IsBare.trim_eq (h : IsBare text) : Text.trim text.toList = text.toList :=
  Text.trimBy_of_forall fun c hc => (h c hc).1

/-! ## Padded texts -/

/-- Blanks and tabs. -/
def IsPadding (bytes : List UInt8) : Prop := ∀ b ∈ bytes, b = 32 ∨ b = 9

/-- The text with blanks and tabs around it. -/
inductive Padded (text : String) : List UInt8 → Prop
  | intro {before after : List UInt8} (hbefore : IsPadding before) (hafter : IsPadding after) :
      Padded text (before ++ (Utf8.encode text ++ after))

theorem IsPadding.exists_decode {bytes : List UInt8} (h : IsPadding bytes) :
    ∃ blanks : List Char, bytes = blanks.flatMap String.utf8EncodeChar ∧
      ∀ c ∈ blanks, Text.isBlank c = true := by
  induction bytes with
  | nil => exact ⟨[], rfl, fun _ hc => absurd hc List.not_mem_nil⟩
  | cons b rest ih =>
      rw [IsPadding, List.forall_mem_cons] at h
      rcases ih h.2 with ⟨blanks, rfl, hblanks⟩
      rcases h.1 with rfl | rfl
      · exact ⟨' ' :: blanks, rfl, List.forall_mem_cons.mpr ⟨by decide, hblanks⟩⟩
      · exact ⟨'\t' :: blanks, rfl, List.forall_mem_cons.mpr ⟨by decide, hblanks⟩⟩

/-- The field decodes to characters that leave the text when they are trimmed. -/
def Trims (text : String) (field : List UInt8) : Prop :=
  ∃ chars, Utf8.decode field = .ok chars ∧ Text.trim chars = text.toList

theorem Padded.trims (h : Padded text field) (hbare : IsBare text) : Trims text field := by
  cases h with
  | intro hbefore hafter =>
      rcases hbefore.exists_decode with ⟨front, rfl, hfront⟩
      rcases hafter.exists_decode with ⟨back, rfl, hback⟩
      refine ⟨front ++ (text.toList ++ back), ?_, ?_⟩
      · rw [Utf8.decode_eq_ok_iff, Utf8.encode_eq_flatMap, List.flatMap_append,
          List.flatMap_append]
      · rw [Text.trim, Text.trimBy_append_left hfront, Text.trimBy_append_right hback,
          ← Text.trim, hbare.trim_eq]

theorem IsPadding.isBlankByte_eq {bytes : List UInt8} (h : IsPadding bytes) :
    ∀ b ∈ bytes, Text.isBlankByte b = true := by
  intro b hb
  rcases h b hb with rfl | rfl
  · rfl
  · rfl

theorem Padded.trims_bytes (h : Padded text field) (hbare : IsBare text) :
    Trims text (Text.trimBy Text.isBlankByte field) := by
  cases h with
  | intro hbefore hafter =>
      rw [Text.trimBy_append_left hbefore.isBlankByte_eq,
        Text.trimBy_append_right hafter.isBlankByte_eq,
        Text.trimBy_of_forall fun b hb => hbare.isBlankByte_eq hb]
      exact ⟨text.toList, Utf8.decode_encode text, hbare.trim_eq⟩

theorem Padded.isPlain (h : Padded text field) (hbare : IsBare text) :
    ∀ b ∈ field, IsPlain b := by
  have hpadding : ∀ {bytes : List UInt8}, IsPadding bytes → ∀ b ∈ bytes, IsPlain b := by
    intro bytes hbytes b hb
    rcases hbytes b hb with rfl | rfl
    · exact ⟨by decide, by decide, by decide⟩
    · exact ⟨by decide, by decide, by decide⟩
  cases h with
  | intro hbefore hafter =>
      exact List.forall_mem_append.mpr ⟨hpadding hbefore,
        List.forall_mem_append.mpr ⟨fun b hb => hbare.isPlain hb, hpadding hafter⟩⟩

/-- Two or more padded texts make up a record. -/
theorem isRecord_of_padded (h : List.Forall₂ Padded texts fields)
    (hbare : ∀ text ∈ texts, IsBare text) (hlength : 1 < texts.length) : IsRecord fields where
  plain := by
    clear hlength
    induction h with
    | nil => exact fun _ hfield => absurd hfield List.not_mem_nil
    | cons hfield hrest ih =>
        rw [List.forall_mem_cons] at hbare
        exact List.forall_mem_cons.mpr ⟨hfield.isPlain hbare.1, ih hbare.2⟩
  not_empty := by
    cases h with
    | nil => exact absurd hlength (by decide)
    | cons hfield hrest =>
        cases hrest with
        | nil => exact absurd hlength (Nat.lt_irrefl 1)
        | cons hnext hrest =>
            rw [joined, List.intercalate_cons_cons]
            simp

/-! ## Rows of texts -/

theorem textsFrom_eq_ok {index : Nat} (h : List.Forall₂ Trims texts fields) :
    textsFrom index fields = .ok (texts.map String.toList) := by
  induction h generalizing index with
  | nil => rfl
  | cons hfield hrest ih =>
      rcases hfield with ⟨chars, hdecode, htrim⟩
      rw [textsFrom, hdecode]
      dsimp only
      rw [ih, htrim]
      rfl

/-- A header of padded names is read, and what it leaves is laid out as it was. -/
theorem header_of_laid (hnames : List.Forall₂ Padded texts fields)
    (hbare : ∀ text ∈ texts, IsBare text) (hlength : 1 < texts.length)
    (hlaid : Laid (fields :: records) bytes) (p : Position) :
    ∃ rest q, header ⟨bytes, p⟩ = (.ok (texts.map String.toList), ⟨rest, q⟩) ∧
      Laid records rest := by
  have htrims : List.Forall₂ Trims texts fields :=
    ((List.forall₂_and_left _ _).mpr ⟨hbare, hnames⟩).imp fun _ _ h => h.2.trims h.1
  rcases hlaid.next (isRecord_of_padded hnames hbare hlength) p with ⟨rest, q, hnext, hlaid'⟩
  refine ⟨rest, q, ?_, hlaid'⟩
  rw [header, hnext]
  dsimp only
  rw [Option.getD_some, textsFrom_eq_ok htrims]
  rfl

/-- A row of padded texts is read as these texts. -/
theorem row_eq_ok (h : List.Forall₂ Padded texts fields) (hbare : ∀ text ∈ texts, IsBare text)
    (p : Position) : row texts.length p fields = .ok (texts.map String.toList) := by
  have hfields : List.Forall₂ Trims texts (fields.map (Text.trimBy Text.isBlankByte)) := by
    rw [List.forall₂_map_right_iff]
    exact ((List.forall₂_and_left _ _).mpr ⟨hbare, h⟩).imp fun _ _ h => h.2.trims_bytes h.1
  rw [row, if_neg (not_not.mpr h.length_eq.symm), textsFrom_eq_ok hfields]
  rfl

end Csv

end SmartScale
