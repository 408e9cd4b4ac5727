import SmartScale.Text.Lines

/-!
# Lines and pieces

Line feeds cut a text into pieces.  The lines of a text (`Text.linesBy`) are its pieces, where each
piece with a line feed after it loses one carriage return at its end, and where the last piece,
which has none after it, is left out if it is empty (`Text.linesBy_eq_cutLines`).

Pieces are simpler than lines to put together: where two texts meet, the last piece of the one and
the first piece of the other become one piece (`Text.splitOn_append`).
-/

namespace SmartScale

namespace Text

variable {α : Type} [DecidableEq α] {feed carriage : α} {line text : List α}

/-- The line without one carriage return at its end. -/
def dropCarriage (carriage : α) (line : List α) : List α :=
  if line.getLast? = some carriage then line.dropLast else line

/-- The lines of a text, made from its pieces. -/
def cutLines (feed carriage : α) (text : List α) : List (List α) :=
  let pieces := text.splitOn feed
  pieces.dropLast.map (dropCarriage carriage) ++
    if pieces.getLastD [] = [] then [] else [pieces.getLastD []]

/-! ## Lines -/

theorem dropCarriage_cons {c : α} (h : c ≠ carriage ∨ line ≠ []) :
    dropCarriage carriage (c :: line) = c :: dropCarriage carriage line := by
  cases line with
  | nil =>
      have hc : c ≠ carriage := h.resolve_right (· rfl)
      simp [dropCarriage, hc]
  | cons d rest =>
      rw [dropCarriage, dropCarriage, List.getLast?_cons_cons]
      split <;> rfl

theorem linesBy_append_feed (hline : feed ∉ line) (rest : List α) :
    linesBy feed carriage (line ++ feed :: rest) =
      dropCarriage carriage line :: linesBy feed carriage rest := by
  induction line with
  | nil => simp [linesBy, dropCarriage]
  | cons c line ih =>
      rw [List.mem_cons, not_or] at hline
      rw [List.cons_append, linesBy, if_neg (Ne.symm hline.1), ih hline.2]
      by_cases hdropped : c = carriage ∧ (line ++ feed :: rest).head? = some feed
      · -- only the carriage return right before the line feed is dropped
        rcases hdropped with ⟨rfl, hhead⟩
        cases line with
        | nil => simp [dropCarriage]
        | cons d more =>
            rw [List.cons_append, List.head?_cons, Option.some.injEq] at hhead
            exact absurd (hhead ▸ List.mem_cons_self) hline.2
      · have hkept : c ≠ carriage ∨ line ≠ [] := by
          by_cases hc : c = carriage
          · exact .inr fun hnil => hdropped ⟨hc, by rw [hnil]; rfl⟩
          · exact .inl hc
        rw [if_neg hdropped, dropCarriage_cons hkept]

theorem linesBy_of_not_mem (h : feed ∉ text) :
    linesBy feed carriage text = if text = [] then [] else [text] := by
  induction text with
  | nil => rfl
  | cons c rest ih =>
      rw [List.mem_cons, not_or] at h
      have hhead : rest.head? ≠ some feed := fun hfeed => h.2 (List.mem_of_head? hfeed)
      rw [linesBy, if_neg (Ne.symm h.1), if_neg (fun hboth => hhead hboth.2), ih h.2]
      cases rest <;> simp

theorem linesBy_eq_cutLines (feed carriage : α) (text : List α) :
    linesBy feed carriage text = cutLines feed carriage text := by
  by_cases hmem : feed ∈ text
  · rcases List.eq_append_cons_of_mem hmem with ⟨line, rest, rfl, hline⟩
    have hpieces : rest.splitOn feed ≠ [] := List.splitOn_ne_nil feed rest
    rw [linesBy_append_feed hline, linesBy_eq_cutLines feed carriage rest, cutLines, cutLines,
      List.splitOn_append_cons_self_of_not_mem hline, List.dropLast_cons_of_ne_nil hpieces,
      List.getLastD_cons]
    rcases List.exists_cons_of_ne_nil hpieces with ⟨piece, more, hcons⟩
    rw [hcons]
    rfl
  · rw [linesBy_of_not_mem hmem, cutLines, List.splitOn_eq_singleton hmem]
    rfl
termination_by text.length
decreasing_by simp [*]; omega

/-! ## Pieces -/

/-- What follows the last line feed. -/
def lastPiece (feed : α) (text : List α) : List α := (text.splitOn feed).getLastD []

/-- What precedes the first line feed. -/
def firstPiece (feed : α) (text : List α) : List α := (text.splitOn feed).headD []

/-- Where two texts meet, two pieces become one. -/
theorem splitOn_append (front text : List α) :
    (front ++ text).splitOn feed = (front.splitOn feed).dropLast ++
      (lastPiece feed front ++ firstPiece feed text) :: (text.splitOn feed).tail := by
  induction front with
  | nil =>
      rcases List.exists_cons_of_ne_nil (List.splitOn_ne_nil feed text) with ⟨piece, more, hcons⟩
      simp [lastPiece, firstPiece, hcons]
  | cons c front ih =>
      rcases List.exists_cons_of_ne_nil (List.splitOn_ne_nil feed front) with ⟨piece, more, hcons⟩
      rw [lastPiece, hcons] at ih
      rw [List.cons_append, List.splitOn_cons_eq_if_modifyHead, lastPiece,
        List.splitOn_cons_eq_if_modifyHead, hcons, ih]
      by_cases hc : c = feed
      · simp [hc]
      · cases more with
        | nil => simp [hc]
        | cons next more => simp [hc]

/-- The last piece ends the pieces. -/
theorem splitOn_eq_dropLast_append (text : List α) :
    text.splitOn feed = (text.splitOn feed).dropLast ++ [lastPiece feed text] := by
  have h : (text ++ []).splitOn feed = _ := splitOn_append text []
  simpa [firstPiece] using h

/-- A text without a line feed, put between two others, stays within one piece. -/
theorem splitOn_between (front text : List α) {middle : List α} (h : feed ∉ middle) :
    (front ++ (middle ++ text)).splitOn feed = (front.splitOn feed).dropLast ++
      (lastPiece feed front ++ (middle ++ firstPiece feed text)) :: (text.splitOn feed).tail := by
  have hmiddle : (middle ++ text).splitOn feed =
      (middle ++ firstPiece feed text) :: (text.splitOn feed).tail := by
    rw [splitOn_append, lastPiece, List.splitOn_eq_singleton h]
    rfl
  rw [splitOn_append, firstPiece, hmiddle]
  rfl

/-- The text ends with a line feed, or is empty, so that what follows begins a line. -/
def EndsLine (feed : α) (text : List α) : Prop := text = [] ∨ text.getLast? = some feed

theorem EndsLine.lastPiece_eq (h : EndsLine feed text) : lastPiece feed text = [] := by
  rcases h with rfl | hlast
  · rfl
  · rcases List.getLast?_eq_some_iff.mp hlast with ⟨front, rfl⟩
    rw [lastPiece, List.splitOn_append_cons_self]
    simp

theorem splitOn_feed (front : List α) :
    (front ++ [feed]).splitOn feed = front.splitOn feed ++ [[]] := by
  rw [List.splitOn_append_cons_self, List.splitOn_nil]

/-- The pieces of a text that ends its last line, and of what follows it, are put in a row. -/
theorem EndsLine.splitOn_append (h : EndsLine feed text) (rest : List α) :
    (text ++ rest).splitOn feed = (text.splitOn feed).dropLast ++ rest.splitOn feed := by
  rcases List.exists_cons_of_ne_nil (List.splitOn_ne_nil feed rest) with ⟨piece, more, hcons⟩
  rw [Text.splitOn_append, h.lastPiece_eq, firstPiece, hcons]
  rfl

theorem EndsLine.splitOn (h : EndsLine feed text) :
    text.splitOn feed = (text.splitOn feed).dropLast ++ [[]] := by
  simpa using h.splitOn_append []

theorem firstPiece_feed (rest : List α) : firstPiece feed (feed :: rest) = [] := by
  simp [firstPiece, List.splitOn_cons_eq_if_modifyHead]

theorem firstPiece_cons {c : α} (h : c ≠ feed) (rest : List α) :
    firstPiece feed (c :: rest) = c :: firstPiece feed rest := by
  rcases List.exists_cons_of_ne_nil (List.splitOn_ne_nil feed rest) with ⟨piece, more, hcons⟩
  simp [firstPiece, List.splitOn_cons_eq_if_modifyHead, h, hcons]

end Text

end SmartScale
