/-!
# Phrases

Looking for a phrase in a message without regard to the case of ASCII letters.
-/

namespace SmartScale

namespace Text

/-- The phrase occurs in the text. -/
def occurs (phrase : List Char) : List Char → Bool
  | [] => phrase.isEmpty
  | c :: rest => phrase.isPrefixOf (c :: rest) || occurs phrase rest

/-- The text with its ASCII capitals made small. -/
def lower (text : String) : List Char := text.toList.map Char.toLower

/-- The phrase, written small, occurs in the text in any letter case. -/
def mentions (text phrase : String) : Bool := occurs phrase.toList (lower text)

theorem occurs_iff {phrase text : List Char} : occurs phrase text = true ↔ phrase <:+: text := by
  induction text with
  | nil => rw [occurs, List.isEmpty_iff, List.infix_nil]
  | cons c rest ih =>
      rw [occurs, Bool.or_eq_true, List.isPrefixOf_iff_prefix, ih, List.infix_cons_iff]

theorem mentions_iff {text phrase : String} :
    mentions text phrase = true ↔ phrase.toList <:+: lower text := occurs_iff

/-- The text begins with the phrase, written small, in any letter case. -/
def opensWith (text phrase : String) : Bool := phrase.toList.isPrefixOf (lower text)

end Text

end SmartScale
