import SmartScale.Text.Blank

/-!
# Trimming

What is trimmed off a text can be put back in front of it and behind it: it is trimmed off again.
-/

namespace SmartScale

namespace Text

variable {α : Type} {test : α → Bool} {front text back : List α}

theorem dropEndWhile_append (h : ∀ x ∈ back, test x = true) :
    dropEndWhile test (text ++ back) = dropEndWhile test text := by
  have hback : ∀ x ∈ back.reverse, test x = true := fun x hx => h x (List.mem_reverse.mp hx)
  rw [dropEndWhile, List.reverse_append, List.dropWhile_append_of_pos hback, dropEndWhile]

theorem trimBy_append_left (h : ∀ x ∈ front, test x = true) :
    trimBy test (front ++ text) = trimBy test text := by
  rw [trimBy, List.dropWhile_append_of_pos h, trimBy]

theorem trimBy_append_right (h : ∀ x ∈ back, test x = true) :
    trimBy test (text ++ back) = trimBy test text := by
  rw [trimBy, List.dropWhile_append]
  split
  · next hempty =>
    have hback : back.dropWhile test = [] := by
      rw [← List.append_nil back, List.dropWhile_append_of_pos h]
      rfl
    rw [trimBy, hback, List.isEmpty_iff.mp hempty]
  · rw [dropEndWhile_append h, trimBy]

/-- A text without blanks is all that is left of it between blanks. -/
theorem trimBy_of_forall (h : ∀ x ∈ text, test x = false) : trimBy test text = text := by
  have hdrop : ∀ xs : List α, (∀ x ∈ xs, test x = false) → xs.dropWhile test = xs := by
    intro xs hxs
    cases xs with
    | nil => rfl
    | cons x rest => rw [List.dropWhile_cons_of_neg (by simp [hxs x List.mem_cons_self])]
  have hreverse : ∀ x ∈ text.reverse, test x = false := fun x hx => h x (List.mem_reverse.mp hx)
  rw [trimBy, dropEndWhile, hdrop text h, hdrop _ hreverse, List.reverse_reverse]

end Text

end SmartScale
