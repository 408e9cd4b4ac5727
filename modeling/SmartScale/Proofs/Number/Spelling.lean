import SmartScale.Number.Literal
import SmartScale.Number.Rendering
import SmartScale.Number.Whole

/-!
# How numbers are spelled

A decimal literal is spelled with letters, digits, signs and points only
(`DecimalLiteral.isPart_of_parse`), so it has nothing in it that separates one text from another.
The same goes for what is printed of a reading, be it short (`Reading.isPart_of_mem_jsonText`) or
with a fixed count of places (`Reading.isPart_of_mem_fixed`).  Digits spell every whole number that
is small enough (`Whole.parse_digits`), and no other number has the same digits
(`Whole.toString_inj`).
-/

namespace SmartScale

/-! ## Characters -/

theorem isUpper_iff {c : Char} : c.isUpper = true ↔ 65 ≤ c.toNat ∧ c.toNat ≤ 90 := by
  rw [show c.isUpper = decide ('A'.val ≤ c.val ∧ c.val ≤ 'Z'.val) from rfl, decide_eq_true_eq,
    UInt32.le_iff_toNat_le, UInt32.le_iff_toNat_le]
  rfl

theorem isLower_iff {c : Char} : c.isLower = true ↔ 97 ≤ c.toNat ∧ c.toNat ≤ 122 := by
  rw [show c.isLower = (decide ('a'.val ≤ c.val) && decide (c.val ≤ 'z'.val)) from rfl,
    Bool.and_eq_true, decide_eq_true_eq, decide_eq_true_eq, UInt32.le_iff_toNat_le,
    UInt32.le_iff_toNat_le]
  rfl

theorem isAlpha_iff {c : Char} : c.isAlpha = true ↔ c.isUpper = true ∨ c.isLower = true := by
  rw [show c.isAlpha = (c.isUpper || c.isLower) from rfl, Bool.or_eq_true]

theorem isAlphanum_iff {c : Char} :
    c.isAlphanum = true ↔ c.isUpper = true ∨ c.isLower = true ∨ c.isDigit = true := by
  rw [show c.isAlphanum = (c.isAlpha || c.isDigit) from rfl, Bool.or_eq_true, isAlpha_iff, or_assoc]

theorem isAlpha_of_isLower_toLower {c : Char} (h : c.toLower.isLower = true) :
    c.isAlpha = true := by
  rw [isAlpha_iff]
  by_cases hupper : 'A'.val ≤ c.val ∧ c.val ≤ 'Z'.val
  · exact .inl (decide_eq_true hupper)
  · have hsame : c.toLower = c := dif_neg hupper
    exact .inr (hsame ▸ h)

/-! ## Decimal literals -/

namespace DecimalLiteral

/-- The character may be part of a literal. -/
def IsPart (c : Char) : Prop := c.isAlphanum = true ∨ c = '+' ∨ c = '-' ∨ c = '.'

variable {text : List Char}

theorem isPart_of_isDigit {c : Char} (h : c.isDigit = true) : IsPart c :=
  .inl (by rw [Char.isAlphanum, h, Bool.or_true])

theorem isPart_of_isAlpha {c : Char} (h : c.isAlpha = true) : IsPart c :=
  .inl (by rw [Char.isAlphanum, h, Bool.true_or])

theorem isPart_of_all (h : text.all Char.isDigit = true) : ∀ c ∈ text, IsPart c :=
  fun c hc => isPart_of_isDigit (List.all_eq_true.mp h c hc)

/-- A sign is part of a literal if what follows it is. -/
theorem isPart_of_splitSign (h : ∀ c ∈ (splitSign text).2, IsPart c) : ∀ c ∈ text, IsPart c := by
  unfold splitSign at h
  split at h
  · exact List.forall_mem_cons.mpr ⟨.inr (.inr (.inl rfl)), h⟩
  · exact List.forall_mem_cons.mpr ⟨.inr (.inl rfl), h⟩
  · exact h

theorem isPart_of_exponent? {e : Int} (h : exponent? text = some e) : ∀ c ∈ text, IsPart c := by
  unfold exponent? at h
  split at h
  · exact fun c hc => absurd hc List.not_mem_nil
  · next c rest =>
    split at h
    · next hmark =>
      have hletter : IsPart c := by
        rcases hmark with rfl | rfl
        · exact isPart_of_isAlpha rfl
        · exact isPart_of_isAlpha rfl
      refine List.forall_mem_cons.mpr ⟨hletter, isPart_of_splitSign ?_⟩
      dsimp only at h
      split at h
      · cases h
      · next hdigits =>
        simp only [Bool.or_eq_true, Bool.not_eq_true', not_or, Bool.not_eq_false] at hdigits
        exact isPart_of_all hdigits.2
    · cases h

theorem isPart_of_number? {value : DecimalValue} (h : number? text = some value) :
    ∀ c ∈ text, IsPart c := by
  rw [← List.takeWhile_append_dropWhile (p := Char.isDigit) (l := text)]
  refine List.forall_mem_append.mpr ⟨isPart_of_all List.all_takeWhile, ?_⟩
  unfold number? at h
  dsimp only at h
  generalize text.dropWhile Char.isDigit = rest at h ⊢
  -- with a point or without one, what is left is an exponent
  have hexponent : ∀ {fraction more : List Char},
      (if (text.takeWhile Char.isDigit).isEmpty && fraction.isEmpty then none
        else (exponent? more).map fun e =>
          DecimalValue.number (ofDigits (text.takeWhile Char.isDigit ++ fraction))
            (e - fraction.length)) = some value → ∀ c ∈ more, IsPart c := by
    intro fraction more hvalue
    rw [Option.ite_none_left_eq_some] at hvalue
    rcases Option.map_eq_some_iff.mp hvalue.2 with ⟨e, he, -⟩
    exact isPart_of_exponent? he
  split at h
  · next fraction =>
    refine List.forall_mem_cons.mpr ⟨.inr (.inr (.inr rfl)), ?_⟩
    rw [← List.takeWhile_append_dropWhile (p := Char.isDigit) (l := fraction)]
    exact List.forall_mem_append.mpr ⟨isPart_of_all List.all_takeWhile, hexponent h⟩
  · exact hexponent h

theorem isPart_of_word? {value : DecimalValue} (h : word? text = some value) :
    ∀ c ∈ text, IsPart c := by
  have hletters : ∀ word ∈ ["inf".toList, "infinity".toList, "nan".toList],
      word.all Char.isLower = true := by decide
  have hword : text.map Char.toLower ∈ ["inf".toList, "infinity".toList, "nan".toList] := by
    unfold word? at h
    dsimp only at h
    split at h
    · next hinfinite =>
      rcases hinfinite with hinfinite | hinfinite
      · simp [hinfinite]
      · simp [hinfinite]
    · split at h
      · next hnan => simp [hnan]
      · cases h
  intro c hc
  exact isPart_of_isAlpha <| isAlpha_of_isLower_toLower <|
    List.all_eq_true.mp (hletters _ hword) _ (List.mem_map_of_mem hc)

theorem isPart_of_parse {literal : DecimalLiteral} (h : parse text = .ok literal) :
    ∀ c ∈ text, IsPart c := by
  apply isPart_of_splitSign
  unfold parse at h
  dsimp only at h
  split at h
  · cases h
  · split at h
    · next value hvalue =>
      rcases Option.or_eq_some_iff.mp hvalue with hword | ⟨-, hnumber⟩
      · exact isPart_of_word? hword
      · exact isPart_of_number? hnumber
    · cases h

end DecimalLiteral

/-! ## Whole numbers -/

namespace Whole

variable {digits : List Char} {bound : Nat}

theorem digit?_of_isDigit {c : Char} (h : c.isDigit = true) :
    digit? 10 c = some (c.toNat - '0'.toNat) := by
  have hrange : 48 ≤ c.toNat ∧ c.toNat ≤ 57 := Char.isDigit_iff_toNat.mp h
  have hvalue : c.toNat - '0'.toNat < 10 := by
    rw [show '0'.toNat = 48 from rfl]
    omega
  rw [digit?, if_pos h, if_pos hvalue]

/-- More digits make a number no smaller. -/
theorem le_foldl_digits (digits : List Char) (value : Nat) :
    value ≤ digits.foldl (fun n c => 10 * n + (c.toNat - '0'.toNat)) value := by
  induction digits generalizing value with
  | nil => exact Nat.le_refl value
  | cons c rest ih =>
      rw [List.foldl_cons]
      exact Nat.le_trans (by omega) (ih _)

theorem extend_digits (hdigits : ∀ c ∈ digits, c.isDigit = true) (value : Nat)
    (hbound : digits.foldl (fun n c => 10 * n + (c.toNat - '0'.toNat)) value < bound) :
    extend 10 bound value digits =
      .ok (digits.foldl (fun n c => 10 * n + (c.toNat - '0'.toNat)) value) := by
  induction digits generalizing value with
  | nil => rfl
  | cons c rest ih =>
      rw [List.forall_mem_cons] at hdigits
      rw [List.foldl_cons] at hbound ⊢
      -- no number on the way is larger than the last one, so none is out of bounds
      have hle := le_foldl_digits rest (10 * value + (c.toNat - '0'.toNat))
      rw [extend, digit?_of_isDigit hdigits.1]
      dsimp only
      rw [if_neg (by omega), ih hdigits.2 _ hbound]

theorem parse_digits (hnil : digits ≠ []) (hdigits : ∀ c ∈ digits, c.isDigit = true)
    (hbound : DecimalLiteral.ofDigits digits < bound) :
    parse 10 bound digits = .ok (DecimalLiteral.ofDigits digits) := by
  have hextend := extend_digits hdigits 0 hbound
  have hsign : ¬ '+'.isDigit = true := by decide
  unfold parse
  split
  · exact absurd rfl hnil
  · exact absurd (hdigits '+' List.mem_cons_self) hsign
  · exact absurd (hdigits '+' List.mem_cons_self) hsign
  · exact hextend

/-- A number can be told from its digits. -/
theorem toString_inj {m n : Nat} (h : toString m = toString n) : m = n := by
  have hread : ∀ k : Nat, Nat.ofDigitChars 10 (toString k).toList 0 = k := by
    intro k
    rw [Nat.toString_eq_repr, Nat.toList_repr]
    exact Nat.ofDigitChars_toDigits (by decide) (by decide)
  rw [← hread m, h, hread]

end Whole

/-! ## Printed numbers -/

namespace DecimalLiteral

theorem not_mem_of_isPart {c : Char} {text : List Char} (hc : ¬ IsPart c)
    (h : ∀ d ∈ text, IsPart d) : c ∉ text :=
  fun hmem => hc (h c hmem)

theorem isPart_minus : IsPart '-' := .inr (.inr (.inl rfl))

theorem isPart_point : IsPart '.' := .inr (.inr (.inr rfl))

theorem isPart_of_mem_zeros (n : Nat) : ∀ c ∈ List.replicate n '0', IsPart c := by
  intro c hc
  rw [List.eq_of_mem_replicate hc]
  exact isPart_of_isDigit rfl

theorem isPart_of_mem_toDigits (n : Nat) : ∀ c ∈ Nat.toDigits 10 n, IsPart c :=
  fun _ hc => isPart_of_isDigit (Nat.isDigit_of_mem_toDigits (by decide) (by decide) hc)

theorem isPart_of_mem_padZeros (width n : Nat) : ∀ c ∈ padZeros width n, IsPart c :=
  List.forall_mem_append.mpr ⟨isPart_of_mem_zeros _, isPart_of_mem_toDigits n⟩

theorem isPart_of_mem_signed {body : List Char} (h : ∀ c ∈ body, IsPart c) (negative : Bool) :
    ∀ c ∈ if negative then '-' :: body else body, IsPart c := by
  cases negative with
  | false => exact h
  | true => exact List.forall_mem_cons.mpr ⟨isPart_minus, h⟩

theorem isPart_of_mem_toString (n : Nat) : ∀ c ∈ (toString n).toList, IsPart c := by
  rw [Nat.toString_eq_repr, Nat.toList_repr]
  exact isPart_of_mem_toDigits n

end DecimalLiteral

namespace FloatStyle

open DecimalLiteral

/-- Everything but the digits that the style writes is part of a literal. -/
structure IsPlain (style : FloatStyle) : Prop where
  sign : ∀ c ∈ style.exponentSign, IsPart c
  words : ∀ word ∈ [style.nan, style.infinity, style.negativeInfinity], ∀ c ∈ word.toList, IsPart c

theorem isPlain_json : json.IsPlain := by
  constructor
  · simp [json, IsPart]
  · simp [json, IsPart]

variable {digits : List Char} {style : FloatStyle}

theorem isPart_of_mem_positional (h : ∀ c ∈ digits, IsPart c) (point : Int) :
    ∀ c ∈ positional digits point, IsPart c := by
  have hzero : IsPart '0' := isPart_of_isDigit rfl
  unfold positional
  dsimp only
  -- the point stands in front of the digits, behind them or among them
  split
  · simp only [List.forall_mem_cons, List.forall_mem_append]
    exact ⟨hzero, isPart_point, isPart_of_mem_zeros _, h⟩
  split
  · simp only [List.forall_mem_cons, List.forall_mem_append]
    exact ⟨⟨h, isPart_of_mem_zeros _⟩, isPart_point, hzero, List.forall_mem_nil _⟩
  · simp only [List.forall_mem_cons, List.forall_mem_append]
    exact ⟨fun c hc => h c (List.mem_of_mem_take hc), isPart_point,
      fun c hc => h c (List.mem_of_mem_drop hc)⟩

theorem isPart_of_mem_exponent (e : Int) : ∀ c ∈ (toString e).toList, IsPart c := by
  cases e with
  | ofNat n => exact isPart_of_mem_toString n
  | negSucc n =>
      rw [show toString (Int.negSucc n) = "-" ++ toString (n + 1) from rfl, String.toList_append]
      exact List.forall_mem_cons.mpr ⟨isPart_minus, isPart_of_mem_toString (n + 1)⟩

theorem IsPlain.isPart_of_mem_scientific (hstyle : style.IsPlain) (h : ∀ c ∈ digits, IsPart c)
    (point : Int) : ∀ c ∈ style.scientific digits point, IsPart c := by
  have hmark : IsPart 'e' := isPart_of_isAlpha rfl
  unfold scientific
  simp only [List.forall_mem_cons, List.forall_mem_append]
  refine ⟨⟨?_, hmark, ?_⟩, isPart_of_mem_exponent _⟩
  · cases digits with
    | nil => exact List.forall_mem_nil _
    | cons first rest =>
        rw [List.forall_mem_cons] at h
        dsimp only
        split
        · exact List.forall_mem_singleton.mpr h.1
        · exact List.forall_mem_cons.mpr ⟨h.1, List.forall_mem_cons.mpr ⟨isPart_point, h.2⟩⟩
  · split
    · exact hstyle.sign
    · exact List.forall_mem_nil _

theorem IsPlain.isPart_of_mem_render (hstyle : style.IsPlain) (f : BinaryFormat) (negative : Bool)
    (pattern : Nat) : ∀ c ∈ (style.render f negative pattern).toList, IsPart c := by
  have hdecimal : ∀ d : Decimal, ∀ c ∈ style.decimal d, IsPart c := by
    intro d
    unfold decimal
    dsimp only
    split
    · exact hstyle.isPart_of_mem_scientific (isPart_of_mem_toDigits _) _
    · exact isPart_of_mem_positional (isPart_of_mem_toDigits _) _
  unfold render
  -- a value that is not a number, an infinite one and a finite one
  split
  · exact hstyle.words _ (by simp)
  split
  · split
    · exact hstyle.words _ (by simp)
    · exact hstyle.words _ (by simp)
  · rw [String.toList_ofList]
    apply isPart_of_mem_signed
    split
    · simp [IsPart]
    · exact hdecimal _

end FloatStyle

namespace Reading

open DecimalLiteral

theorem isPart_of_mem_jsonText (r : Reading) : ∀ c ∈ r.jsonText.toList, IsPart c := by
  unfold jsonText
  split
  · exact FloatStyle.isPlain_json.words _ (by simp)
  · exact FloatStyle.isPlain_json.isPart_of_mem_render _ _ _

theorem isPart_of_mem_fixed (places : Nat) (r : Reading) :
    ∀ c ∈ (r.fixed places).toList, IsPart c := by
  unfold fixed
  split
  · simp [IsPart]
  · rw [String.toList_ofList]
    apply isPart_of_mem_signed
    split
    · simp [IsPart]
    · simp only [List.forall_mem_cons, List.forall_mem_append]
      exact ⟨fun c hc => isPart_of_mem_padZeros _ _ c (List.mem_of_mem_take hc), isPart_point,
        fun c hc => isPart_of_mem_padZeros _ _ c (List.mem_of_mem_drop hc)⟩

end Reading

end SmartScale
