import SmartScale.Text.Json

/-!
# The text of an object

An object for machines is written with its fields in the order of their names.  Where the names are
known the order is known as well, and so is the text but for the values (`Json.compact_object`).
-/

namespace SmartScale

namespace Json

variable {fields : List (String × Json)} {sorted : List (String × String)}

theorem toString_whole (n : Nat) : toString (n : Int) = toString n := rfl

theorem compactItems_eq_map (items : List Json) : compactItems items = items.map compact := by
  induction items with
  | nil => rw [compactItems, List.map_nil]
  | cons item rest ih => rw [compactItems, List.map_cons, ih]

/-- The text of an object, from its fields in order, if no character of the names has to be
escaped. -/
theorem compact_object (names : List String) (hsorted : sortFields (compactFields fields) = sorted)
    (hnames : sorted.map Prod.fst = names)
    (hplain : ∀ name ∈ names, quoted name = "\"" ++ name ++ "\"") :
    (object fields).compact = "\x7b" ++ String.intercalate "," (sorted.map fun field =>
      "\"" ++ field.1 ++ "\":" ++ field.2) ++ "\x7d" := by
  have htexts : (sorted.map fun field => quoted field.1 ++ ":" ++ field.2) =
      sorted.map fun field => "\"" ++ field.1 ++ "\":" ++ field.2 := by
    apply List.map_congr_left
    intro field hfield
    rw [hplain field.1 (hnames ▸ List.mem_map_of_mem hfield), ← String.toList_inj]
    simp
  rw [compact, hsorted, htexts]

end Json

end SmartScale
