import Mathlib.Data.List.Forall2
import Mathlib.Data.List.ReduceOption
import Mathlib.Logic.Relation
import SmartScale.Cli.Readings
import SmartScale.Proofs.Text.Blank
import SmartScale.Proofs.Text.Lines
import SmartScale.Proofs.Text.Utf8

/-!
# The grammar of recorded readings

A line says a reading or nothing (`Readings.Says`), or it is at fault (`Readings.Fails`).  A text is
read exactly if each of its lines says something, and gives then what its lines say
(`Readings.ofLines_eq_ok_iff`); otherwise the first line at fault is reported, with the number that
it has among all lines (`Readings.ofLines_eq_error_iff`).

What the lines say is also what the pieces between the line feeds say
(`Readings.parse_eq_ok_iff_pieces`).  An edit that touches one piece, without touching what it says,
therefore touches none of the readings (`Readings.Edit.reads_iff`).
-/

namespace SmartScale

namespace Readings

/-! ## Lines -/

/-- What a line says: a reading, or nothing. -/
inductive Says : List UInt8 → Option Reading → Prop
  | nothing {text : String} (hempty : content text.toList = []) : Says (Utf8.encode text) none
  | reading {text : String} {value : Reading}
      (hvalue : Reading.parse (String.ofList (content text.toList)) = .ok value) :
      Says (Utf8.encode text) (some value)

/-- What is at fault in the line with a number. -/
inductive Fails (number : Nat) : List UInt8 → ReadingsError → Prop
  | notText {line : List UInt8} (h : ∀ text : String, line ≠ Utf8.encode text) :
      Fails number line .notText
  | badReading {text : String} {e : LiteralError} (hcontent : content text.toList ≠ [])
      (herror : Reading.parse (String.ofList (content text.toList)) = .error e) :
      Fails number (Utf8.encode text)
        (.badReading number (String.ofList (content text.toList)) e)

/-- Lines that say the readings, in this order. -/
def Reads (lines : List (List UInt8)) (values : List Reading) : Prop :=
  ∃ said, List.Forall₂ Says lines said ∧ values = said.reduceOption

variable {line front bytes : List UInt8} {rest lines : List (List UInt8)} {number : Nat}
  {said : Option Reading} {value : Reading} {values : List Reading} {e : ReadingsError}

theorem ofLines_saying (h : Says line said) :
    ofLines number (line :: rest) = (ofLines (number + 1) rest).map (said.toList ++ ·) := by
  cases h with
  | @nothing text hempty =>
      rw [ofLines, Utf8.decode_encode]
      simp only [hempty, List.isEmpty_nil, if_true]
      cases ofLines (number + 1) rest <;> rfl
  | @reading text value hvalue =>
      rw [Reading.parse, String.toList_ofList] at hvalue
      -- nothing is no reading, so the line is not skipped
      have hcontent : content text.toList ≠ [] := by
        intro hempty
        rw [hempty] at hvalue
        cases hvalue
      cases hliteral : DecimalLiteral.parse (content text.toList) with
      | error e =>
          rw [hliteral] at hvalue
          cases hvalue
      | ok literal =>
          rw [hliteral] at hvalue
          cases hvalue
          rw [ofLines, Utf8.decode_encode]
          simp only [List.isEmpty_iff, hcontent, if_false, hliteral]
          rfl

theorem ofLines_failing (h : Fails number line e) : ofLines number (line :: rest) = .error e := by
  cases h with
  | notText h =>
      cases hdecode : Utf8.decode line with
      | error offset => rw [ofLines, hdecode]
      | ok text =>
          rw [Utf8.decode_eq_ok_iff, ← Utf8.encode_ofList] at hdecode
          exact absurd hdecode (h _)
  | @badReading text e hcontent herror =>
      rw [Reading.parse, String.toList_ofList] at herror
      cases hliteral : DecimalLiteral.parse (content text.toList) with
      | ok literal =>
          rw [hliteral] at herror
          cases herror
      | error e =>
          rw [hliteral] at herror
          cases herror
          rw [ofLines, Utf8.decode_encode]
          simp only [List.isEmpty_iff, hcontent, if_false, hliteral]

/-- A line says something or is at fault. -/
theorem says_or_fails (number : Nat) (line : List UInt8) :
    (∃ said, Says line said) ∨ ∃ e, Fails number line e := by
  by_cases htext : ∃ text : String, line = Utf8.encode text
  · rcases htext with ⟨text, rfl⟩
    by_cases hcontent : content text.toList = []
    · exact .inl ⟨none, .nothing hcontent⟩
    · cases hvalue : Reading.parse (String.ofList (content text.toList)) with
      | ok value => exact .inl ⟨some value, .reading hvalue⟩
      | error e => exact .inr ⟨_, .badReading hcontent hvalue⟩
  · exact .inr ⟨.notText, .notText fun text hline => htext ⟨text, hline⟩⟩

/-! ## Texts -/

theorem reads_nil_iff : Reads [] values ↔ values = [] := by
  simp [Reads, List.forall₂_nil_left_iff]

theorem Reads.cons (h : Says line said) (hrest : Reads rest values) :
    Reads (line :: rest) (said.toList ++ values) := by
  rcases hrest with ⟨saids, hsaids, rfl⟩
  refine ⟨said :: saids, .cons h hsaids, ?_⟩
  cases said <;> rfl

theorem reads_cons_iff : Reads (line :: rest) values ↔
    ∃ said more, Says line said ∧ Reads rest more ∧ values = said.toList ++ more := by
  constructor
  · rintro ⟨_, hsaids, rfl⟩
    cases hsaids with
    | @cons _ said _ saids h hsaids =>
        refine ⟨said, saids.reduceOption, h, ⟨saids, hsaids, rfl⟩, ?_⟩
        cases said <;> rfl
  · rintro ⟨said, more, h, hrest, rfl⟩
    exact hrest.cons h

theorem ofLines_eq_ok_iff : ofLines number lines = .ok values ↔ Reads lines values := by
  induction lines generalizing number values with
  | nil =>
      rw [ofLines, Except.ok.injEq, reads_nil_iff]
      exact eq_comm
  | cons line rest ih =>
      rw [reads_cons_iff]
      constructor
      · intro h
        rcases says_or_fails number line with ⟨said, hsaid⟩ | ⟨e, he⟩
        · rw [ofLines_saying hsaid] at h
          cases hrest : ofLines (number + 1) rest with
          | error e =>
              rw [hrest] at h
              cases h
          | ok more =>
              rw [hrest] at h
              exact ⟨said, more, hsaid, ih.mp hrest, (Except.ok.inj h).symm⟩
        · rw [ofLines_failing he] at h
          cases h
      · rintro ⟨said, more, hsaid, hrest, rfl⟩
        rw [ofLines_saying hsaid, ih.mpr hrest]
        rfl

/-- The first line at fault is reported: those before it say something. -/
theorem ofLines_eq_error_iff : ofLines number lines = .error e ↔
    ∃ before line after, lines = before ++ line :: after ∧
      (∀ earlier ∈ before, ∃ said, Says earlier said) ∧ Fails (number + before.length) line e := by
  induction lines generalizing number with
  | nil =>
      rw [ofLines]
      constructor
      · intro h
        cases h
      · rintro ⟨before, line, after, hlines, -, -⟩
        exact absurd hlines.symm (List.append_ne_nil_of_right_ne_nil _ (List.cons_ne_nil _ _))
  | cons line rest ih =>
      constructor
      · intro h
        rcases says_or_fails number line with ⟨said, hsaid⟩ | ⟨e', he'⟩
        · rw [ofLines_saying hsaid] at h
          cases hrest : ofLines (number + 1) rest with
          | ok more =>
              rw [hrest] at h
              cases h
          | error e' =>
              rw [hrest] at h
              cases h
              rcases ih.mp hrest with ⟨before, faulty, after, rfl, hbefore, hfaulty⟩
              refine ⟨line :: before, faulty, after, rfl, ?_, ?_⟩
              · exact List.forall_mem_cons.mpr ⟨⟨said, hsaid⟩, hbefore⟩
              · rwa [List.length_cons, ← Nat.add_assoc, Nat.add_right_comm]
        · rw [ofLines_failing he', Except.error.injEq] at h
          exact ⟨[], line, rest, rfl, fun _ hmem => absurd hmem List.not_mem_nil, h ▸ he'⟩
      · rintro ⟨before, faulty, after, hlines, hbefore, hfaulty⟩
        cases before with
        | nil =>
            rcases List.cons.inj hlines with ⟨rfl, rfl⟩
            exact ofLines_failing hfaulty
        | cons first before =>
            rcases List.cons.inj hlines with ⟨rfl, rfl⟩
            rcases List.forall_mem_cons.mp hbefore with ⟨⟨said, hsaid⟩, hbefore⟩
            rw [List.length_cons, Nat.add_comm before.length, ← Nat.add_assoc] at hfaulty
            rw [ofLines_saying hsaid, ih.mpr ⟨before, faulty, after, rfl, hbefore, hfaulty⟩]
            rfl

/-! ## Contents -/

theorem content_eq_trimBy (text : List Char) :
    content text = Text.trimBy Text.isBlank (text.takeWhile (· != '#')) := rfl

theorem content_append_comment (text comment : List Char) :
    content (text ++ '#' :: comment) = content text := by
  rw [content, List.takeWhile_append]
  split
  · next hall =>
    have htext : text.takeWhile (· != '#') = text :=
      (List.takeWhile_prefix _).eq_of_length hall
    rw [List.takeWhile_cons_of_neg (by decide), List.append_nil, content, htext]
  · rfl

variable {blanks : List Char}

theorem content_blanks_append (h : ∀ c ∈ blanks, Text.isBlank c = true) (text : List Char) :
    content (blanks ++ text) = content text := by
  have hmark : ∀ c ∈ blanks, (c != '#') = true := by
    intro c hc
    rw [bne_iff_ne]
    rintro rfl
    exact absurd (h '#' hc) (by decide)
  rw [content_eq_trimBy, List.takeWhile_append_of_pos hmark, Text.trimBy_append_left h,
    content_eq_trimBy]

theorem content_append_blanks (h : ∀ c ∈ blanks, Text.isBlank c = true) (text : List Char) :
    content (text ++ blanks) = content text := by
  have hkept : ∀ c ∈ blanks.takeWhile (· != '#'), Text.isBlank c = true :=
    fun c hc => h c (List.takeWhile_subset _ hc)
  rw [content_eq_trimBy, List.takeWhile_append]
  split
  · next hall =>
    have htext : text.takeWhile (· != '#') = text :=
      (List.takeWhile_prefix _).eq_of_length hall
    rw [Text.trimBy_append_right hkept, content_eq_trimBy, htext]
  · rfl

/-! ## Pieces -/

theorem reads_append_iff {front : List (List UInt8)} : Reads (front ++ lines) values ↔
    ∃ first last, Reads front first ∧ Reads lines last ∧ values = first ++ last := by
  induction front generalizing values with
  | nil => simp [reads_nil_iff]
  | cons line front ih =>
      simp only [List.cons_append, reads_cons_iff, ih]
      constructor
      · rintro ⟨said, _, hsaid, ⟨first, last, hfirst, hlast, rfl⟩, rfl⟩
        exact ⟨_, last, ⟨said, first, hsaid, hfirst, rfl⟩, hlast, (List.append_assoc _ _ _).symm⟩
      · rintro ⟨_, last, ⟨said, first, hsaid, hfirst, rfl⟩, hlast, rfl⟩
        exact ⟨said, _, hsaid, ⟨first, last, hfirst, hlast, rfl⟩, List.append_assoc _ _ _⟩

theorem encode_empty : Utf8.encode "" = [] := Utf8.encode_eq_flatMap ""

theorem says_nil : Says [] none := by
  rw [← encode_empty]
  exact .nothing rfl

theorem encode_carriage : Utf8.encode "\r" = [carriageReturn] := Utf8.encode_eq_flatMap "\r"

theorem begins_nil : Utf8.Begins [] := fun _ h => nomatch h

/-- A line that says nothing can be left out. -/
theorem reads_cons_of_says_none (h : Says line none) :
    Reads (line :: rest) values ↔ Reads rest values := by
  have hlines : ofLines 0 (line :: rest) = ofLines 1 rest := by
    rw [ofLines_saying h]
    cases ofLines 1 rest <;> rfl
  rw [← ofLines_eq_ok_iff, hlines, ofLines_eq_ok_iff]

theorem Says.exists_decode (h : Says line said) : ∃ text, Utf8.decode line = .ok text := by
  cases h with
  | nothing hempty => exact ⟨_, Utf8.decode_encode _⟩
  | reading hvalue => exact ⟨_, Utf8.decode_encode _⟩

/-- Only the content counts for what a line says. -/
theorem Says.of_content {line' : List UInt8} {text text' : List Char} (h : Says line said)
    (hline : Utf8.decode line = .ok text) (hline' : Utf8.decode line' = .ok text')
    (hcontent : content text' = content text) : Says line' said := by
  have hencode : line' = Utf8.encode (String.ofList text') := by
    rw [Utf8.encode_ofList]
    exact Utf8.decode_eq_ok_iff.mp hline'
  cases h with
  | nothing hempty =>
      rw [Utf8.decode_encode, Except.ok.injEq] at hline
      rw [hline, ← hcontent] at hempty
      rw [hencode]
      exact .nothing (by rwa [String.toList_ofList])
  | reading hvalue =>
      rw [Utf8.decode_encode, Except.ok.injEq] at hline
      rw [hline, ← hcontent] at hvalue
      rw [hencode]
      exact .reading (by rwa [String.toList_ofList])

/-- A text put into a line, without a change of its content, does not change what the line says. -/
theorem says_between_iff (hcut : front = [] ∨ Utf8.Begins bytes) {middle : String}
    (hcontent : ∀ first last, Utf8.decode front = .ok first → Utf8.decode bytes = .ok last →
      content (first ++ (middle.toList ++ last)) = content (first ++ last)) :
    Says (front ++ (Utf8.encode middle ++ bytes)) said ↔ Says (front ++ bytes) said := by
  have hwithout : ∀ {text}, Utf8.decode (front ++ bytes) = .ok text ↔
      ∃ first last, Utf8.decode front = .ok first ∧ Utf8.decode bytes = .ok last ∧
        text = first ++ last := by
    intro text
    simpa [encode_empty] using @Utf8.decode_between_iff _ _ hcut "" text
  constructor
  · intro h
    rcases h.exists_decode with ⟨text, htext⟩
    rcases (Utf8.decode_between_iff hcut middle).mp htext with ⟨first, last, hfirst, hlast, rfl⟩
    exact h.of_content htext (hwithout.mpr ⟨first, last, hfirst, hlast, rfl⟩)
      (hcontent first last hfirst hlast).symm
  · intro h
    rcases h.exists_decode with ⟨text, htext⟩
    rcases hwithout.mp htext with ⟨first, last, hfirst, hlast, rfl⟩
    exact h.of_content htext
      ((Utf8.decode_between_iff hcut middle).mpr ⟨first, last, hfirst, hlast, rfl⟩)
      (hcontent first last hfirst hlast)

theorem says_dropCarriage_iff :
    Says (Text.dropCarriage carriageReturn line) said ↔ Says line said := by
  rw [Text.dropCarriage]
  split
  · next hlast =>
    rcases List.getLast?_eq_some_iff.mp hlast with ⟨text, rfl⟩
    rw [List.dropLast_concat]
    have hblank : ∀ c ∈ ['\r'], Text.isBlank c = true := by
      intro c hc
      rcases List.mem_singleton.mp hc with rfl
      decide
    have hbetween := @says_between_iff text [] said (.inr begins_nil) "\r" <| by
      intro first last _ hlast
      cases hlast
      rw [List.append_nil, List.append_nil]
      exact content_append_blanks hblank first
    simpa [encode_carriage] using hbetween.symm
  · rfl

theorem reads_map_dropCarriage :
    Reads (lines.map (Text.dropCarriage carriageReturn)) values ↔ Reads lines values := by
  induction lines generalizing values with
  | nil => rfl
  | cons line rest ih => simp only [List.map_cons, reads_cons_iff, says_dropCarriage_iff, ih]

/-- A text is read exactly if its pieces say something, and gives what they say. -/
theorem parse_eq_ok_iff_pieces :
    parse bytes = .ok values ↔ Reads (bytes.splitOn lineFeed) values := by
  -- an empty piece at the end is no line, and it says nothing either
  have hlast : Reads (if Text.lastPiece lineFeed bytes = [] then [] else
      [Text.lastPiece lineFeed bytes]) = Reads [Text.lastPiece lineFeed bytes] := by
    funext values
    split
    · next hempty => rw [hempty, reads_cons_of_says_none says_nil]
    · rfl
  rw [parse, Text.linesBy_eq_cutLines, ofLines_eq_ok_iff, Text.splitOn_eq_dropLast_append,
    reads_append_iff, ← hlast, Text.cutLines, reads_append_iff]
  simp only [reads_map_dropCarriage]
  rfl

/-! ## Edits -/

/-- The byte that begins a comment. -/
def commentMark : UInt8 := 35

/-- White space that ends no line. -/
def IsSpace (text : String) : Prop := ∀ c ∈ text.toList, Text.isBlank c = true ∧ c ≠ '\n'

/-- Ways to write more without saying more. -/
inductive Edit : List UInt8 → List UInt8 → Prop
  /-- One more line, with a comment or with nothing. -/
  | line {before line after : List UInt8} (hstart : Text.EndsLine lineFeed before)
      (hfeed : lineFeed ∉ line) (hnothing : Says line none) :
      Edit (before ++ after) (before ++ (line ++ lineFeed :: after))
  /-- A comment at the end of a line. -/
  | comment {before after : List UInt8} {comment : String} (hfeed : '\n' ∉ comment.toList)
      (hend : after = [] ∨ after.head? = some lineFeed) :
      Edit (before ++ after) (before ++ (Utf8.encode ("#" ++ comment) ++ after))
  /-- White space at the beginning of a line. -/
  | leading {before after : List UInt8} {space : String} (hspace : IsSpace space)
      (hstart : Text.EndsLine lineFeed before) :
      Edit (before ++ after) (before ++ (Utf8.encode space ++ after))
  /-- White space at the end of a line, carriage returns included, or in front of a comment. -/
  | trailing {before after : List UInt8} {space : String} (hspace : IsSpace space)
      (hend : after = [] ∨ after.head? = some lineFeed ∨ after.head? = some commentMark) :
      Edit (before ++ after) (before ++ (Utf8.encode space ++ after))
  /-- A line feed at the end of the text. -/
  | feed {text : List UInt8} : Edit text (text ++ [lineFeed])

variable {before after : List UInt8} {middle : String}

theorem lineFeed_not_mem_encode (h : '\n' ∉ middle.toList) : lineFeed ∉ Utf8.encode middle :=
  fun hmem => h (Utf8.mem_of_mem_encode hmem (by decide))

/-- A text put into one line, without a change of its content, changes nothing of what is read. -/
theorem reads_between_iff (hfeed : '\n' ∉ middle.toList)
    (hcut : Text.lastPiece lineFeed before = [] ∨ Utf8.Begins (Text.firstPiece lineFeed after))
    (hcontent : ∀ first last, Utf8.decode (Text.lastPiece lineFeed before) = .ok first →
      Utf8.decode (Text.firstPiece lineFeed after) = .ok last →
        content (first ++ (middle.toList ++ last)) = content (first ++ last)) :
    Reads ((before ++ after).splitOn lineFeed) values ↔
      Reads ((before ++ (Utf8.encode middle ++ after)).splitOn lineFeed) values := by
  rw [Text.splitOn_append, Text.splitOn_between before after (lineFeed_not_mem_encode hfeed)]
  simp only [reads_append_iff, reads_cons_iff, says_between_iff hcut hcontent]

/-- What stands in front of a line feed is cut off by it. -/
theorem firstPiece_of_ends (h : after = [] ∨ after.head? = some lineFeed) :
    Text.firstPiece lineFeed after = [] := by
  rcases h with rfl | hhead
  · rfl
  · rcases List.head?_eq_some_iff.mp hhead with ⟨rest, rfl⟩
    exact Text.firstPiece_feed rest

/-- What begins with a comment is not touched by white space in front of it. -/
theorem content_append_space {space last : List Char} (h : ∀ c ∈ space, Text.isBlank c = true)
    (hlast : last = [] ∨ last.head? = some '#') (first : List Char) :
    content (first ++ (space ++ last)) = content (first ++ last) := by
  rcases hlast with rfl | hhead
  · rw [List.append_nil, List.append_nil, content_append_blanks h]
  · rcases List.head?_eq_some_iff.mp hhead with ⟨comment, rfl⟩
    rw [← List.append_assoc, content_append_comment, content_append_comment,
      content_append_blanks h]

theorem Edit.reads_iff {a b : List UInt8} (h : Edit a b) :
    Reads (a.splitOn lineFeed) values ↔ Reads (b.splitOn lineFeed) values := by
  cases h with
  | @line before line after hstart hfeed hnothing =>
      rw [hstart.splitOn_append, hstart.splitOn_append,
        List.splitOn_append_cons_self_of_not_mem hfeed, reads_append_iff, reads_append_iff]
      simp only [reads_cons_of_says_none hnothing]
  | @comment before after comment hfeed hend =>
      -- nothing of the piece is left behind the cut, so all of it that follows is comment
      refine reads_between_iff (by simpa using hfeed) ?_ ?_
      · exact .inr (firstPiece_of_ends hend ▸ begins_nil)
      · intro first last _ hlast
        rw [firstPiece_of_ends hend] at hlast
        cases hlast
        simpa using content_append_comment first comment.toList
  | @leading before after space hspace hstart =>
      refine reads_between_iff (fun hmem => (hspace _ hmem).2 rfl) (.inl hstart.lastPiece_eq) ?_
      intro first last hfirst _
      rw [hstart.lastPiece_eq] at hfirst
      cases hfirst
      exact content_blanks_append (fun c hc => (hspace c hc).1) last
  | @trailing before after space hspace hend =>
      have hblank : ∀ c ∈ space.toList, Text.isBlank c = true := fun c hc => (hspace c hc).1
      -- behind the cut, the piece ends or begins a comment
      have hpiece : Text.firstPiece lineFeed after = [] ∨
          ∃ rest, Text.firstPiece lineFeed after = commentMark :: rest := by
        rcases hend with rfl | hfeed | hmark
        · exact .inl rfl
        · exact .inl (firstPiece_of_ends (.inr hfeed))
        · rcases List.head?_eq_some_iff.mp hmark with ⟨rest, rfl⟩
          exact .inr ⟨_, Text.firstPiece_cons (by decide) rest⟩
      refine reads_between_iff (fun hmem => (hspace _ hmem).2 rfl) (.inr ?_) ?_
      · rcases hpiece with hpiece | ⟨rest, hpiece⟩
        · exact hpiece ▸ begins_nil
        · rw [hpiece]
          exact Utf8.begins_encodeChar '#' rest
      · intro first last _ hlast
        refine content_append_space hblank ?_ first
        rcases hpiece with hpiece | ⟨rest, hpiece⟩
        · rw [hpiece] at hlast
          cases hlast
          exact .inl rfl
        · rw [hpiece] at hlast
          rcases (Utf8.decode_flatMap_append ['#']).mp hlast with ⟨more, -, rfl⟩
          exact .inr rfl
  | feed =>
      rw [Text.splitOn_feed, reads_append_iff]
      simp only [reads_cons_of_says_none says_nil, reads_nil_iff]
      simp

theorem toOption_eq_some_iff {answer : Except ReadingsError (List Reading)} :
    answer.toOption = some values ↔ answer = .ok values := by
  cases answer <;> simp [Except.toOption]

/-- Edits do not touch what is read. -/
theorem parse_eq_of_edits {a b : List UInt8} (h : Relation.EqvGen Edit a b) :
    (parse a).toOption = (parse b).toOption := by
  have hreads : ∀ values,
      Reads (a.splitOn lineFeed) values ↔ Reads (b.splitOn lineFeed) values := by
    induction h with
    | rel a b hedit => exact fun values => hedit.reads_iff
    | refl a => exact fun values => Iff.rfl
    | symm a b _ ih => exact fun values => (ih values).symm
    | trans a b c _ _ ih ih' => exact fun values => (ih values).trans (ih' values)
  apply Option.ext
  intro values
  rw [toOption_eq_some_iff, toOption_eq_some_iff, parse_eq_ok_iff_pieces, hreads,
    parse_eq_ok_iff_pieces]

/-- Texts are read one after the other where the first ends its last line. -/
theorem parse_append_eq_ok_iff {a b : List UInt8} (h : Text.EndsLine lineFeed a) :
    parse (a ++ b) = .ok values ↔
      ∃ first last, parse a = .ok first ∧ parse b = .ok last ∧ values = first ++ last := by
  have hfirst : ∀ first, parse a = .ok first ↔ Reads (a.splitOn lineFeed).dropLast first := by
    intro first
    rw [parse_eq_ok_iff_pieces, h.splitOn, reads_append_iff, List.dropLast_concat]
    simp only [reads_cons_of_says_none says_nil, reads_nil_iff]
    simp
  rw [parse_eq_ok_iff_pieces, h.splitOn_append, reads_append_iff]
  simp only [hfirst, parse_eq_ok_iff_pieces]

/-- Recorded readings are read by the line.  If every line says a reading or nothing, the readings
are what the lines say, in their order; otherwise the first line at fault is reported, by its number
among all lines.  Lines without a reading, comments, white space around a reading, carriage returns
in front of line feeds and a line feed at the end can be written or left out, and where a text ends
its last line, what follows is read as it is alone. -/
theorem parse_follows_lines :
    (∀ bytes values, parse bytes = .ok values ↔
      Reads (Text.cutLines lineFeed carriageReturn bytes) values) ∧
    (∀ bytes e, parse bytes = .error e ↔
      ∃ before line after, Text.cutLines lineFeed carriageReturn bytes = before ++ line :: after ∧
        (∀ earlier ∈ before, ∃ said, Says earlier said) ∧ Fails (before.length + 1) line e) ∧
    (∀ a b, Relation.EqvGen Edit a b → (parse a).toOption = (parse b).toOption) ∧
    ∀ a b values, Text.EndsLine lineFeed a → (parse (a ++ b) = .ok values ↔
      ∃ first last, parse a = .ok first ∧ parse b = .ok last ∧ values = first ++ last) := by
  refine ⟨?_, ?_, fun a b => parse_eq_of_edits, fun a b values => parse_append_eq_ok_iff⟩
  · intro bytes values
    rw [parse, Text.linesBy_eq_cutLines, ofLines_eq_ok_iff]
  · intro bytes e
    rw [parse, Text.linesBy_eq_cutLines, ofLines_eq_error_iff]
    simp only [Nat.add_comm 1]

/-- The readings `1` and `2`, in two lines, with and without a blank in front of the second. -/
theorem parse_follows_lines_spaced :
    let one : List UInt8 := [49, 10]
    let two : List UInt8 := [50]
    Text.EndsLine lineFeed one ∧ Relation.EqvGen Edit (one ++ two) (one ++ 32 :: two) ∧
      (parse (one ++ two)).toOption = (parse (one ++ 32 :: two)).toOption ∧
      parse (one ++ two) = .ok [⟨0x3f800000⟩, ⟨0x40000000⟩] := by
  intro one two
  have hstart : Text.EndsLine lineFeed one := .inr rfl
  have hspace : IsSpace " " := by
    intro c hc
    rcases List.mem_singleton.mp hc with rfl
    exact ⟨by decide, by decide⟩
  have hblank : Utf8.encode " " = [32] := Utf8.encode_eq_flatMap " "
  have hedit : Relation.EqvGen Edit (one ++ two) (one ++ (Utf8.encode " " ++ two)) :=
    .rel _ _ (.leading hspace hstart)
  rw [hblank] at hedit
  rcases parse_follows_lines with ⟨-, -, hedits, happend⟩
  refine ⟨hstart, hedit, hedits _ _ hedit, (happend _ _ _ hstart).mpr ?_⟩
  exact ⟨[⟨0x3f800000⟩], [⟨0x40000000⟩], by decide +kernel, by decide +kernel, rfl⟩

end Readings

end SmartScale
