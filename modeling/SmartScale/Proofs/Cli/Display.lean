import SmartScale.Cli.Display
import SmartScale.Proofs.Number.Spelling
import SmartScale.Proofs.Text.Json
import SmartScale.Proofs.Text.Lines

/-!
# What printed lines say

The lines that the command line prints are spelled out here, for people and for machines.  The line
about an event has its number, its value and what is said (`Event.spelled`); the last line of a run
has its counts (`Summary.spelled`); a record is shown with its address, its slots and its offset
(`Record.spelled`), and a store in order with its path (`Record.spelledHealth`).

The program prints what is spelled out here (`Event.present_eq`, `Summary.present_eq`,
`Detector.showRecord_eq`, `Detector.showHealth_eq`), although for machines it builds values first
and then puts their fields in order.

Nothing is lost in either format.  The number of an event, its outcome and its value, as far as it
is printed, can be told from its line (`Event.spelled_inj`), and all counts from the last line
(`Summary.spelled_inj`).
-/

namespace SmartScale

open DecimalLiteral (IsPart isPart_of_mem_toDigits isPart_of_mem_toString not_mem_of_isPart)

/-! ## Separators -/

/-- What is in front of a separator and what follows it can be told from the text, if the first
character of the separator does not come earlier. -/
theorem eq_of_append_separator {a b x y separator : String} {c : Char}
    (hfirst : separator.toList.head? = some c) (ha : c ∉ a.toList) (hb : c ∉ b.toList)
    (h : a ++ (separator ++ x) = b ++ (separator ++ y)) : a = b ∧ x = y := by
  rcases List.head?_eq_some_iff.mp hfirst with ⟨more, hmore⟩
  have hpieces := congrArg (fun text => text.toList.splitOn c) h
  simp only [String.toList_append, hmore, List.cons_append] at hpieces
  rw [List.splitOn_append_cons_self_of_not_mem ha, List.splitOn_append_cons_self_of_not_mem hb,
    List.cons.injEq, String.toList_inj] at hpieces
  rw [hpieces.1, String.append_right_inj, String.append_right_inj] at h
  exact ⟨hpieces.1, h⟩

/-- A number can be told from a text that goes on with what is no part of a number. -/
theorem number_of_append {m n : Nat} {x y separator : String} {c : Char}
    (hfirst : separator.toList.head? = some c) (hc : ¬ IsPart c)
    (h : toString m ++ (separator ++ x) = toString n ++ (separator ++ y)) : m = n ∧ x = y := by
  have hdigits : ∀ k : Nat, c ∉ (toString k).toList :=
    fun k => not_mem_of_isPart hc (isPart_of_mem_toString k)
  rcases eq_of_append_separator hfirst (hdigits m) (hdigits n) h with ⟨hnumber, hrest⟩
  exact ⟨Whole.toString_inj hnumber, hrest⟩

/-- The blanks that fill up a column may as well follow the blank after it. -/
theorem padRight_append_blank (width : Nat) (text rest : String) :
    padRight width text ++ (" " ++ rest) =
      text ++ (" " ++ (String.ofList (List.replicate (width - text.length) ' ') ++ rest)) := by
  have hblanks : ∀ n, List.replicate n ' ' ++ [' '] = ' ' :: List.replicate n ' ' :=
    fun n => by rw [← List.replicate_succ', List.replicate_succ]
  rw [padRight, ← String.toList_inj]
  simp only [String.toList_append, String.toList_ofList, List.append_assoc]
  rw [show " ".toList = [' '] from rfl, ← List.append_assoc (List.replicate _ _), hblanks]
  rfl

/-- A text without blanks can be told from the column that it stands in. -/
theorem padLeft_inj {width : Nat} {a b : String} (ha : ' ' ∉ a.toList) (hb : ' ' ∉ b.toList)
    (h : padLeft width a = padLeft width b) : a = b := by
  have hkept : ∀ text : String, ' ' ∉ text.toList →
      (padLeft width text).toList.filter (· ≠ ' ') = text.toList := by
    intro text htext
    have hplain : ∀ c ∈ text.toList, decide (c ≠ ' ') = true :=
      fun c hc => decide_eq_true fun hblank => htext (hblank ▸ hc)
    rw [padLeft, String.toList_append, String.toList_ofList, List.filter_append,
      List.filter_eq_self.mpr hplain]
    simp
  rw [← String.toList_inj, ← hkept a ha, h, hkept b hb]

theorem unlines_singleton (line : String) : unlines [line] = line ++ "\n" := by
  simp [unlines]

/-- Line feeds cut a text into the lines that it was made of, and nothing follows the last one. -/
theorem splitOn_unlines {lines : List String} (h : ∀ line ∈ lines, '\n' ∉ line.toList) :
    (unlines lines).toList.splitOn '\n' = lines.map String.toList ++ [[]] := by
  induction lines with
  | nil => rfl
  | cons line rest ih =>
      rw [List.forall_mem_cons] at h
      have hcons : (unlines (line :: rest)).toList =
          line.toList ++ '\n' :: (unlines rest).toList := by
        simp [unlines]
      rw [hcons, List.splitOn_append_cons_self_of_not_mem h.1, ih h.2, List.map_cons,
        List.cons_append]

/-! ## Slots -/

theorem finRange_slotCount : List.finRange slotCount =
    [⟨0, by decide⟩, ⟨1, by decide⟩, ⟨2, by decide⟩, ⟨3, by decide⟩] := by decide

theorem toList_slots {α : Type} (v : Vector α slotCount) (x : α) :
    v.toList = [v.getD 0 x, v.getD 1 x, v.getD 2 x, v.getD 3 x] := by
  rcases v with ⟨⟨items⟩, hsize⟩
  rcases items with _ | ⟨a, _ | ⟨b, _ | ⟨c, _ | ⟨d, _ | ⟨e, rest⟩⟩⟩⟩⟩
  case cons.cons.cons.cons.nil => rfl
  all_goals cases hsize

theorem get_eq_getD {α : Type} (v : Vector α slotCount) (slot : Fin slotCount) (x : α) :
    v.get slot = v.getD slot x := by
  have hslot : slot.val < v.toArray.size := by
    rw [v.size_toArray]
    exact slot.isLt
  rw [Vector.getD, Array.getD, dif_pos hslot]
  rfl

/-! ## Outcomes -/

namespace Outcome

/-- What is said, in words. -/
def words : Outcome → String
  | noChange => "no_change"
  | noMatch => "no_match"
  | noObject => "no_object"
  | object slot => "object " ++ toString slot

/-- What is said, without the slot. -/
def kind : Outcome → String
  | noChange => "no_change"
  | noMatch => "no_match"
  | noObject => "no_object"
  | object _ => "object"

def codeText : Outcome → String
  | noChange => "-3"
  | noMatch => "-2"
  | noObject => "-1"
  | object slot => toString (min slot 2147483647)

def slotText : Outcome → String
  | object slot => toString slot
  | _ => "null"

theorem display_eq (outcome : Outcome) : outcome.display = outcome.words := by
  cases outcome <;> rfl

theorem toString_code (outcome : Outcome) : toString outcome.code = outcome.codeText := by
  cases outcome with
  | object slot =>
      have hmin : min (slot : Int) 2147483647 = ((min slot 2147483647 : Nat) : Int) := by omega
      rw [code, maxCode, hmin, Json.toString_whole, codeText]
  | _ => decide

theorem quoted_name (outcome : Outcome) :
    Json.quoted outcome.name = "\"" ++ outcome.kind ++ "\"" := by
  have hobject : Json.quoted "object" = "\"" ++ "object" ++ "\"" := by decide
  cases outcome with
  | object slot => exact hobject
  | _ => decide

theorem compact_slot (outcome : Outcome) :
    ((outcome.slot?.map fun slot => Json.whole slot).getD .null).compact = outcome.slotText := by
  cases outcome with
  | object slot =>
      change (Json.whole slot).compact = toString slot
      rw [Json.compact, Json.toString_whole]
  | _ =>
      change Json.null.compact = "null"
      rw [Json.compact]

theorem isPart_of_mem_codeText (outcome : Outcome) : ∀ c ∈ outcome.codeText.toList, IsPart c := by
  cases outcome with
  | object slot => exact isPart_of_mem_toString _
  | _ => simp [codeText, IsPart]

theorem isPart_of_mem_slotText (outcome : Outcome) : ∀ c ∈ outcome.slotText.toList, IsPart c := by
  cases outcome with
  | object slot => exact isPart_of_mem_toString _
  | _ => simp [slotText, IsPart]

theorem not_mem_kind {c : Char} (h : c ∈ ['\n', '"']) (outcome : Outcome) :
    c ∉ outcome.kind.toList := by
  rw [List.mem_cons, List.mem_singleton] at h
  rcases h with rfl | rfl
  · cases outcome <;> simp [kind]
  · cases outcome <;> simp [kind]

theorem lineFeed_not_mem_words (outcome : Outcome) : '\n' ∉ outcome.words.toList := by
  cases outcome with
  | object slot =>
      have hslot : '\n' ∉ (toString slot).toList :=
        not_mem_of_isPart (by simp [IsPart]) (isPart_of_mem_toString slot)
      rw [words, String.toList_append, List.mem_append, not_or]
      exact ⟨by decide, hslot⟩
  | _ => decide

variable {outcome other : Outcome}

/-- The outcome can be told from the words. -/
theorem words_inj (h : outcome.words = other.words) : outcome = other := by
  cases outcome <;> cases other
  case object.object slot slot' => rw [Whole.toString_inj ((String.append_right_inj _).mp h)]
  all_goals simp [words, ← String.toList_inj] at h ⊢

/-- It can be told from the kind and the slot as well. -/
theorem eq_of_kind_eq (hkind : outcome.kind = other.kind)
    (hslot : outcome.slotText = other.slotText) : outcome = other := by
  cases outcome <;> cases other
  case object.object slot slot' => rw [Whole.toString_inj hslot]
  all_goals simp [kind] at hkind ⊢

end Outcome

/-! ## Events -/

namespace Event

/-- The line about an event. -/
def spelled (e : Event) (json : Bool) : String :=
  if json then
    "\x7b\"code\":" ++ e.outcome.codeText ++ ",\"outcome\":\"" ++ e.outcome.kind ++
      "\",\"sample\":" ++ toString e.sample ++ ",\"slot\":" ++ e.outcome.slotText ++
      ",\"value\":" ++ e.value.jsonText ++ "\x7d"
  else
    "#" ++ padRight 5 (toString e.sample) ++ " " ++ padLeft 10 (e.value.fixed 3) ++ " -> " ++
      e.outcome.words

theorem compact_json (e : Event) : e.json.compact = e.spelled true := by
  have hsorted : Json.sortFields (Json.compactFields [("sample", .whole e.sample),
      ("value", .weight e.value), ("outcome", .text e.outcome.name),
      ("code", .whole e.outcome.code),
      ("slot", (e.outcome.slot?.map fun slot => Json.whole slot).getD .null)]) =
      [("code", e.outcome.codeText), ("outcome", "\"" ++ e.outcome.kind ++ "\""),
        ("sample", toString e.sample), ("slot", e.outcome.slotText),
        ("value", e.value.jsonText)] := by
    simp only [Json.compactFields, Json.compact, Json.toString_whole, Outcome.toString_code,
      Outcome.quoted_name, Outcome.compact_slot]
    simp [Json.sortFields, Json.insertField]
  unfold json
  rw [Json.compact_object ["code", "outcome", "sample", "slot", "value"] hsorted rfl (by decide),
    ← String.toList_inj]
  simp [spelled]

/-- The program prints this line about an event. -/
theorem present_eq (e : Event) (json : Bool) : e.present json = e.spelled json := by
  cases json with
  | false =>
      change e.line = _
      rw [line, Outcome.display_eq]
      rfl
  | true => exact e.compact_json

/-- For machines a value that is no number is `null`. -/
example : Event.present ⟨7, Reading.quietNaN, .noMatch⟩ true =
    "\x7b\"code\":-2,\"outcome\":\"no_match\",\"sample\":7,\"slot\":null,\"value\":null\x7d" := by
  decide +kernel

theorem lineFeed_not_mem_spelled (e : Event) (json : Bool) : '\n' ∉ (e.spelled json).toList := by
  have hfeed : ¬ IsPart '\n' := by simp [IsPart]
  have hnumber := not_mem_of_isPart hfeed (isPart_of_mem_toDigits e.sample)
  cases json with
  | false =>
      have hvalue := not_mem_of_isPart hfeed (e.value.isPart_of_mem_fixed 3)
      have hwords := e.outcome.lineFeed_not_mem_words
      simp [spelled, padRight, padLeft, hnumber, hvalue, hwords]
  | true =>
      have hvalue := not_mem_of_isPart hfeed e.value.isPart_of_mem_jsonText
      have hcode := not_mem_of_isPart hfeed e.outcome.isPart_of_mem_codeText
      have hslot := not_mem_of_isPart hfeed e.outcome.isPart_of_mem_slotText
      have hkind : '\n' ∉ e.outcome.kind.toList := Outcome.not_mem_kind (by simp) _
      simp [spelled, hnumber, hvalue, hcode, hslot, hkind]

variable {a b : Event}

theorem spelled_inj_of_text (h : a.spelled false = b.spelled false) :
    a.sample = b.sample ∧ a.outcome = b.outcome ∧ a.value.fixed 3 = b.value.fixed 3 := by
  have hblank : ¬ IsPart ' ' := by simp [IsPart]
  have hvalue : ∀ e : Event, ' ' ∉ (e.value.fixed 3).toList :=
    fun e => not_mem_of_isPart hblank (e.value.isPart_of_mem_fixed 3)
  -- the head of the arrow does not come before the arrow
  have hhead : ∀ e : Event, '>' ∉ (padLeft 10 (e.value.fixed 3) ++ " -").toList := by
    intro e
    have hnone : '>' ∉ (e.value.fixed 3).toList :=
      not_mem_of_isPart (by simp [IsPart]) (e.value.isPart_of_mem_fixed 3)
    simp [padLeft, hnone]
  have harrow : ∀ front words : String,
      front ++ (" -> " ++ words) = front ++ " -" ++ ("> " ++ words) := by
    intro front words
    simp [← String.toList_inj]
  simp only [spelled, Bool.false_eq_true, if_false, String.append_assoc, String.append_right_inj,
    padRight_append_blank] at h
  rcases number_of_append (by decide) hblank h with ⟨hnumber, h⟩
  rw [hnumber, String.append_right_inj, harrow, harrow] at h
  rcases eq_of_append_separator (by decide) (hhead a) (hhead b) h with ⟨hcolumn, hwords⟩
  exact ⟨hnumber, Outcome.words_inj hwords,
    padLeft_inj (hvalue a) (hvalue b) ((String.append_left_inj _).mp hcolumn)⟩

theorem spelled_inj_of_json (h : a.spelled true = b.spelled true) :
    a.sample = b.sample ∧ a.outcome = b.outcome ∧ a.value.jsonText = b.value.jsonText := by
  have hcomma : ¬ IsPart ',' := by simp [IsPart]
  have hcode : ∀ e : Event, ',' ∉ e.outcome.codeText.toList :=
    fun e => not_mem_of_isPart hcomma e.outcome.isPart_of_mem_codeText
  have hslot : ∀ e : Event, ',' ∉ e.outcome.slotText.toList :=
    fun e => not_mem_of_isPart hcomma e.outcome.isPart_of_mem_slotText
  have hquote : ∀ e : Event, '"' ∉ e.outcome.kind.toList :=
    fun e => Outcome.not_mem_kind (by simp) e.outcome
  simp only [spelled, if_true, String.append_assoc, String.append_right_inj] at h
  -- one field after the other: the code, the kind, the number, the slot, and the value at the end
  rcases eq_of_append_separator (by decide) (hcode a) (hcode b) h with ⟨-, h⟩
  rcases eq_of_append_separator (by decide) (hquote a) (hquote b) h with ⟨hkind, h⟩
  rcases number_of_append (by decide) hcomma h with ⟨hnumber, h⟩
  rcases eq_of_append_separator (by decide) (hslot a) (hslot b) h with ⟨hslots, h⟩
  exact ⟨hnumber, Outcome.eq_of_kind_eq hkind hslots, (String.append_left_inj _).mp h⟩

/-- The number of an event, its outcome and its value, as far as it is printed, can be told from the
line. -/
theorem spelled_inj {json : Bool} (h : a.spelled json = b.spelled json) :
    a.sample = b.sample ∧ a.outcome = b.outcome ∧
      if json then a.value.jsonText = b.value.jsonText else a.value.fixed 3 = b.value.fixed 3 := by
  cases json with
  | false => exact spelled_inj_of_text h
  | true => exact spelled_inj_of_json h

end Event

/-! ## Summaries -/

namespace Summary

/-- How often each slot was confirmed, in the order of the slots. -/
def countsText (s : Summary) (separator : String) : String :=
  let count := fun slot => toString (s.confirmations.getD slot 0)
  count 0 ++ separator ++ count 1 ++ separator ++ count 2 ++ separator ++ count 3

/-- The last line of a run. -/
def spelled (s : Summary) (json : Bool) : String :=
  if json then
    "\x7b\"summary\":\x7b\"confirmations\":[" ++ s.countsText "," ++ "],\"no_match\":" ++
      toString s.noMatch ++ ",\"no_object\":" ++ toString s.noObject ++ ",\"samples\":" ++
      toString s.samples ++ "\x7d\x7d"
  else
    "samples=" ++ toString s.samples ++ " confirmations=[" ++ s.countsText ", " ++
      "] no_object=" ++ toString s.noObject ++ " no_match=" ++ toString s.noMatch

theorem intercalate_confirmations (s : Summary) (separator : String) :
    String.intercalate separator (s.confirmations.toList.map toString) =
      s.countsText separator := by
  rw [toList_slots s.confirmations 0]
  simp only [List.map_cons, List.map_nil, String.intercalate_cons_cons,
    String.intercalate_singleton, countsText, String.append_assoc]

theorem compact_json (s : Summary) : s.json.compact = s.spelled true := by
  have hcounts : Json.sortFields (Json.compactFields [("samples", .whole s.samples),
      ("confirmations", .list (s.confirmations.toList.map fun (n : Nat) => Json.whole n)),
      ("no_object", .whole s.noObject), ("no_match", .whole s.noMatch)]) =
      [("confirmations", "[" ++ s.countsText "," ++ "]"), ("no_match", toString s.noMatch),
        ("no_object", toString s.noObject), ("samples", toString s.samples)] := by
    have hitems : Json.compactItems
        (s.confirmations.toList.map fun (n : Nat) => Json.whole n) =
        s.confirmations.toList.map toString := by
      rw [Json.compactItems_eq_map, List.map_map]
      apply List.map_congr_left
      intro n _
      rw [Function.comp_apply, Json.compact, Json.toString_whole]
    simp only [Json.compactFields, Json.compact, Json.toString_whole, hitems,
      intercalate_confirmations]
    simp [Json.sortFields, Json.insertField]
  have hsummary : ∀ counts : Json, Json.sortFields (Json.compactFields [("summary", counts)]) =
      [("summary", counts.compact)] := by
    intro counts
    rw [Json.compactFields, Json.compactFields]
    rfl
  unfold json
  rw [Json.compact_object ["summary"] (hsummary _) rfl (by decide),
    Json.compact_object ["confirmations", "no_match", "no_object", "samples"] hcounts rfl
      (by decide), ← String.toList_inj]
  simp [spelled]

/-- The program prints this line at the end of a run. -/
theorem present_eq (s : Summary) (json : Bool) : s.present json = s.spelled json := by
  cases json with
  | false =>
      change s.line = _
      rw [line, intercalate_confirmations]
      rfl
  | true => exact s.compact_json

theorem lineFeed_not_mem_spelled (s : Summary) (json : Bool) : '\n' ∉ (s.spelled json).toList := by
  have hnumber : ∀ n, '\n' ∉ Nat.toDigits 10 n :=
    fun n => not_mem_of_isPart (by simp [IsPart]) (isPart_of_mem_toDigits n)
  cases json <;> simp [spelled, countsText, hnumber]

variable {a b : Summary}

theorem counts_of_append {x y separator after : String} {c d : Char}
    (hseparator : separator.toList.head? = some c) (hc : ¬ IsPart c)
    (hafter : after.toList.head? = some d) (hd : ¬ IsPart d)
    (h : a.countsText separator ++ (after ++ x) = b.countsText separator ++ (after ++ y)) :
    a.confirmations = b.confirmations ∧ x = y := by
  simp only [countsText, String.append_assoc] at h
  rcases number_of_append hseparator hc h with ⟨hzero, h⟩
  rcases number_of_append hseparator hc h with ⟨hone, h⟩
  rcases number_of_append hseparator hc h with ⟨htwo, h⟩
  rcases number_of_append hafter hd h with ⟨hthree, h⟩
  refine ⟨Vector.toList_inj.mp ?_, h⟩
  rw [toList_slots a.confirmations 0, toList_slots b.confirmations 0, hzero, hone, htwo, hthree]

/-- All counts can be told from the line. -/
theorem spelled_inj {json : Bool} (h : a.spelled json = b.spelled json) : a = b := by
  have hcomma : ¬ IsPart ',' := by simp [IsPart]
  have hbracket : ¬ IsPart ']' := by simp [IsPart]
  have hblank : ¬ IsPart ' ' := by simp [IsPart]
  have hcounts : a.samples = b.samples ∧ a.confirmations = b.confirmations ∧
      a.noObject = b.noObject ∧ a.noMatch = b.noMatch := by
    cases json with
    | false =>
        simp only [spelled, Bool.false_eq_true, if_false, String.append_assoc,
          String.append_right_inj] at h
        rcases number_of_append (by decide) hblank h with ⟨hsamples, h⟩
        rcases counts_of_append (by decide) hcomma (by decide) hbracket h with ⟨hconfirmed, h⟩
        rcases number_of_append (by decide) hblank h with ⟨hnoObject, h⟩
        exact ⟨hsamples, hconfirmed, hnoObject, Whole.toString_inj h⟩
    | true =>
        simp only [spelled, if_true, String.append_assoc, String.append_right_inj] at h
        rcases counts_of_append (by decide) hcomma (by decide) hbracket h with ⟨hconfirmed, h⟩
        rcases number_of_append (by decide) hcomma h with ⟨hnoMatch, h⟩
        rcases number_of_append (by decide) hcomma h with ⟨hnoObject, h⟩
        exact ⟨Whole.toString_inj ((String.append_left_inj _).mp h), hconfirmed, hnoObject,
          hnoMatch⟩
  cases a
  cases b
  simpa using hcounts

end Summary

/-! ## Records -/

namespace Record

/-- The line about a slot. -/
def rowText (r : Record) (slot : Nat) : String :=
  padRight 5 (toString slot) ++ " " ++ padRight 11 ((r.weights.getD slot .zero).fixed 3) ++ " " ++
    (r.tolerances.getD slot .zero).fixed 3

/-- The object about a slot. -/
def slotText (r : Record) (slot : Nat) : String :=
  "\x7b\"slot\":" ++ toString slot ++ ",\"tolerance\":" ++
    (r.tolerances.getD slot .zero).jsonText ++ ",\"weight\":" ++
    (r.weights.getD slot .zero).jsonText ++ "\x7d"

/-- What is shown of a record at an address. -/
def spelled (r : Record) (address : UInt64) (json : Bool) : String :=
  if json then
    "\x7b\"address\":" ++ toString address.toNat ++ ",\"calibrated\":" ++
      (if r.isValid then "true" else "false") ++ ",\"objects\":[" ++ r.slotText 0 ++ "," ++
      r.slotText 1 ++ "," ++ r.slotText 2 ++ "," ++ r.slotText 3 ++ "],\"offset\":" ++
      r.offset.jsonText ++ "\x7d\n"
  else
    "record @ " ++ toString address.toNat ++ ": " ++
      (if r.isValid then "calibrated" else "not calibrated") ++
      "\nslot  weight      tolerance\n" ++ r.rowText 0 ++ "\n" ++ r.rowText 1 ++ "\n" ++
      r.rowText 2 ++ "\n" ++ r.rowText 3 ++ "\noffset " ++ r.offset.fixed 3 ++ "\n"

/-- What is said of a store in order, with a record at an address. -/
def spelledHealth (r : Record) (address : UInt64) (path : String) (json : Bool) : String :=
  if json then
    "\x7b\"address\":" ++ toString address.toNat ++ ",\"calibrated\":" ++
      (if r.isValid then "true" else "false") ++ ",\"status\":\"ok\",\"store\":" ++
      Json.quoted path ++ "\x7d\n"
  else
    "status: ok\nstore: " ++ path ++ " @ " ++ toString address.toNat ++ "\ncalibrated: " ++
      (if r.isValid then "yes" else "no") ++ "\n"

end Record

namespace Detector

variable {σ : Type} (d : Detector σ)

theorem slotRow_eq (slot : Fin slotCount) : d.slotRow slot = d.record.rowText slot := by
  rw [slotRow, get_eq_getD _ _ .zero, get_eq_getD _ _ .zero]
  rfl

theorem compact_slotJson (slot : Fin slotCount) :
    (d.slotJson slot).compact = d.record.slotText slot := by
  have hsorted : Json.sortFields (Json.compactFields [("slot", .whole slot.val),
      ("weight", .weight (d.record.weights.get slot)),
      ("tolerance", .weight (d.record.tolerances.get slot))]) =
      [("slot", toString slot.val), ("tolerance", (d.record.tolerances.getD slot .zero).jsonText),
        ("weight", (d.record.weights.getD slot .zero).jsonText)] := by
    simp only [Json.compactFields, Json.compact, Json.toString_whole, get_eq_getD _ _ Reading.zero]
    simp [Json.sortFields, Json.insertField]
  unfold slotJson
  rw [Json.compact_object ["slot", "tolerance", "weight"] hsorted rfl (by decide),
    ← String.toList_inj]
  simp [Record.slotText]

/-- The record in effect is shown so. -/
theorem showRecord_eq (json : Bool) : d.showRecord json = d.record.spelled d.address json := by
  cases json with
  | false =>
      unfold showRecord recordLines unlines isCalibrated
      rw [← String.toList_inj, finRange_slotCount]
      simp [slotRow_eq, Record.spelled, Reading.display, displayPlaces]
  | true =>
      have hsorted : Json.sortFields (Json.compactFields d.recordFields) =
          [("address", toString d.address.toNat),
            ("calibrated", if d.record.isValid then "true" else "false"),
            ("objects", "[" ++ d.record.slotText 0 ++ "," ++ d.record.slotText 1 ++ "," ++
              d.record.slotText 2 ++ "," ++ d.record.slotText 3 ++ "]"),
            ("offset", d.record.offset.jsonText)] := by
        unfold recordFields isCalibrated
        simp only [Json.compactFields, Json.compact, Json.toString_whole, Json.compactItems_eq_map,
          finRange_slotCount, List.map_cons, List.map_nil, compact_slotJson,
          String.intercalate_cons_cons, String.intercalate_singleton, String.append_assoc]
        simp [Json.sortFields, Json.insertField]
      unfold showRecord
      rw [if_pos rfl, Json.compact_object ["address", "calibrated", "objects", "offset"] hsorted rfl
        (by decide), unlines_singleton, ← String.toList_inj]
      simp [Record.spelled]

/-- The store is said to be in order so. -/
theorem showHealth_eq (json : Bool) (path : String) :
    d.showHealth json path = d.record.spelledHealth d.address path json := by
  cases json with
  | false =>
      unfold showHealth unlines isCalibrated
      rw [← String.toList_inj]
      simp [Record.spelledHealth]
  | true =>
      have hsorted : Json.sortFields (Json.compactFields [("status", .text "ok"),
          ("store", .text path), ("address", .whole d.address.toNat),
          ("calibrated", .bool d.record.isValid)]) =
          [("address", toString d.address.toNat),
            ("calibrated", if d.record.isValid then "true" else "false"), ("status", "\"ok\""),
            ("store", Json.quoted path)] := by
        have hok : Json.quoted "ok" = "\"ok\"" := by decide
        simp only [Json.compactFields, Json.compact, Json.toString_whole, hok]
        simp [Json.sortFields, Json.insertField]
      unfold showHealth isCalibrated
      rw [if_pos rfl, Json.compact_object ["address", "calibrated", "status", "store"] hsorted rfl
        (by decide), unlines_singleton, ← String.toList_inj]
      simp [Record.spelledHealth]

/-- A path is a text like any other. -/
example : (Detector.new () 4).showHealth true "a \"b\"" =
    "\x7b\"address\":4,\"calibrated\":false,\"status\":\"ok\"," ++
      "\"store\":\"a \\\"b\\\"\"\x7d\n" := by
  decide +kernel

end Detector

end SmartScale
