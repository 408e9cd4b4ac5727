import SmartScale.Cli.Explain
import SmartScale.Proofs.Text.Json

/-!
# What decides an explanation

A report gathers contexts on its way to the user.  If its cause has a type, the explanation and the
reason are those of the cause alone, whatever the contexts say.  If the cause is known by its text
alone, the reason tells nothing, and the explanation is made of the chain of texts and repeats it;
only a table without headers is explained in words of its own.

`Explain.explained_by_cause_or_chain` puts these together.
-/

namespace SmartScale

/-- The cause is more than a text. -/
def Cause.isTyped : Cause → Bool
  | plain _ => false
  | _ => true

theorem Cause.isTyped_eq_false_iff {cause : Cause} :
    cause.isTyped = false ↔ ∃ text, cause = .plain text := by
  cases cause <;> simp [isTyped]

namespace Report

/-- Adds contexts one after the other, the last of them being the outermost. -/
def under (root : Report) (contexts : List String) : Report :=
  contexts.foldl (fun report context => report.within context) root

variable (root : Report) (contexts : List String)

@[simp]
theorem cause_under : (root.under contexts).cause = root.cause := by
  induction contexts generalizing root with
  | nil => rfl
  | cons context rest ih => exact ih (root.within context)

theorem chain_under : (root.under contexts).chain = contexts.reverse ++ root.chain := by
  induction contexts generalizing root with
  | nil => rfl
  | cons context rest ih =>
      rw [List.reverse_cons, List.append_assoc]
      exact ih (root.within context)

end Report

namespace Explain

variable {a b r : Report}

/-! ## By the cause -/

theorem reason_eq_of_cause_eq (h : a.cause = b.cause) : reason a = reason b := by
  unfold reason
  rw [h]

theorem report_eq_of_cause_eq (h : a.cause = b.cause) (htyped : a.cause.isTyped = true) :
    report a = report b := by
  unfold report
  rw [← h]
  cases hcause : a.cause with
  | plain text =>
      -- the one kind of cause under which the texts of the two reports would be looked at
      rw [hcause] at htyped
      cases htyped
  | _ => rfl

theorem reason_of_not_typed (h : r.cause.isTyped = false) : reason r = "Error" := by
  rcases Cause.isTyped_eq_false_iff.mp h with ⟨text, hcause⟩
  unfold reason
  rw [hcause]

theorem reason_ne_of_typed {cause : Cause} (h : cause.isTyped = true) :
    reason (Report.ofCause cause) ≠ "Error" := by
  cases cause with
  | plain text => cases h
  | detector e => cases e <;> simp [reason, Report.ofCause]
  | _ => simp [reason, Report.ofCause]

/-- The explanation for machines is an object of two texts, the message and the reason. -/
theorem json_eq (r : Report) : json r =
    "\x7b\"message\":" ++ Json.quoted (report r) ++ ",\"reason\":" ++ Json.quoted (reason r) ++
      "\x7d" := by
  have hsorted : Json.sortFields
      (Json.compactFields [("reason", .text (reason r)), ("message", .text (report r))]) =
        [("message", Json.quoted (report r)), ("reason", Json.quoted (reason r))] := by
    simp [Json.compactFields, Json.compact, Json.sortFields, Json.insertField]
  unfold json
  rw [Json.compact_object ["message", "reason"] hsorted rfl (by decide), ← String.toList_inj]
  simp

/-! ## By the chain -/

theorem report_of_not_typed (h : r.cause.isTyped = false) : report r = plain r.text := by
  rcases Cause.isTyped_eq_false_iff.mp h with ⟨text, hcause⟩
  unfold report
  rw [hcause]

/-- The words by which a table without headers is known. -/
def headersPhrase : String := "objects csv must have headers"

/-- What a table without headers is explained by. -/
def headersHint : String := "Invalid headers in objects CSV. Expected 'slot,weight,tolerance'."

variable {text : String}

theorem plain_of_headers (h : headersPhrase.toList <:+: Text.lower text) :
    plain text = headersHint := by
  unfold plain
  exact if_pos (Text.mentions_iff.mpr h)

/-- Any other chain gets a piece of advice, or else only the advice to look closer. -/
theorem plain_cases (h : ¬ headersPhrase.toList <:+: Text.lower text) :
    (∃ what causes fix, plain text = advice what causes (fix ++ (" (" ++ text ++ ")"))) ∨
      plain text = "Something went wrong: " ++ text ++
        "\nHow to fix: Re-run with --log-level=debug for details." := by
  have hphrase : ¬ Text.mentions text "objects csv must have headers" = true :=
    fun hmentions => h (Text.mentions_iff.mp hmentions)
  unfold plain
  rw [if_neg hphrase]
  split
  · exact .inl ⟨_, _, _, rfl⟩
  split
  · exact .inl ⟨_, _, _, rfl⟩
  split
  · exact .inl ⟨_, _, _, rfl⟩
  · exact .inr rfl

/-- A piece of advice that ends with a text in brackets repeats the text. -/
theorem advice_quoted (what causes fix text : String) :
    advice what causes (fix ++ (" (" ++ text ++ ")")) =
      "What happened: " ++ what ++ ".\nLikely causes: " ++ causes ++ ".\nHow to fix: " ++ fix ++
        " (" ++ text ++ ")" := by
  unfold advice
  rw [← String.append_assoc, ← String.append_assoc, ← String.append_assoc]

theorem plain_of_no_headers (h : ¬ headersPhrase.toList <:+: Text.lower text) :
    ∃ front back, plain text = front ++ text ++ back := by
  rcases plain_cases h with ⟨what, causes, fix, hadvice⟩ | hother
  · exact ⟨_, _, hadvice.trans (advice_quoted what causes fix text)⟩
  · exact ⟨_, _, hother⟩

/-- The words about headers are kept for tables without headers. -/
theorem plain_eq_headersHint_iff :
    plain text = headersHint ↔ headersPhrase.toList <:+: Text.lower text := by
  refine ⟨fun heq => ?_, plain_of_headers⟩
  by_cases h : headersPhrase.toList <:+: Text.lower text
  · exact h
  · -- the first letters differ
    have hfirst : (plain text).toList.head? = some 'I' := by
      rw [heq]
      decide
    rcases plain_cases h with ⟨what, causes, fix, hadvice⟩ | hother
    · rw [hadvice, advice_quoted] at hfirst
      simp only [String.toList_append] at hfirst
      cases hfirst
    · rw [hother] at hfirst
      simp only [String.toList_append] at hfirst
      cases hfirst

/-- A failure passes through any contexts on its way to the user.

* If its cause has a type, it is explained as the cause alone, to the user and to machines, and the
  reason is never that of any error.
* If its cause is known by its text alone, the reason given is that of any error.  The explanation
  depends on the chain of texts alone, the outermost first.  A chain that mentions missing headers,
  in any letter case and wherever it does, is explained by them, whatever it begins with; any other
  chain is repeated as a whole. -/
theorem explained_by_cause_or_chain (contexts : List String) :
    (∀ cause : Cause, cause.isTyped = true →
      report ((Report.ofCause cause).under contexts) = report (Report.ofCause cause) ∧
      reason ((Report.ofCause cause).under contexts) = reason (Report.ofCause cause) ∧
      json ((Report.ofCause cause).under contexts) = json (Report.ofCause cause) ∧
      reason (Report.ofCause cause) ≠ "Error") ∧
    (∀ root : Report, root.cause.isTyped = false →
      let r := root.under contexts
      reason r = "Error" ∧
      json r = "\x7b\"message\":" ++ Json.quoted (report r) ++ ",\"reason\":\"Error\"\x7d" ∧
      r.text = String.intercalate ": " (contexts.reverse ++ root.chain) ∧
      (∀ other : Report, other.cause.isTyped = false → other.text = r.text →
        report other = report r) ∧
      (report r = headersHint ↔ headersPhrase.toList <:+: Text.lower r.text) ∧
      (¬ headersPhrase.toList <:+: Text.lower r.text →
        ∃ front back, report r = front ++ r.text ++ back)) := by
  constructor
  · intro cause htyped
    have hcause : ((Report.ofCause cause).under contexts).cause = (Report.ofCause cause).cause :=
      Report.cause_under _ contexts
    have hreport := report_eq_of_cause_eq hcause (hcause.symm ▸ htyped)
    have hreason := reason_eq_of_cause_eq hcause
    refine ⟨hreport, hreason, ?_, reason_ne_of_typed htyped⟩
    rw [json_eq, json_eq, hreport, hreason]
  · intro root hplain r
    have hr : r.cause.isTyped = false := by
      rw [Report.cause_under]
      exact hplain
    have hreason := reason_of_not_typed hr
    have hreport := report_of_not_typed hr
    refine ⟨hreason, ?_, ?_, fun other hother htext => ?_, ?_, fun h => ?_⟩
    · have hend : ",\"reason\":" ++ (Json.quoted "Error" ++ "\x7d") =
          ",\"reason\":\"Error\"\x7d" := by decide
      rw [json_eq, hreason, String.append_assoc, String.append_assoc, hend]
    · rw [Report.text, Report.chain_under]
    · rw [report_of_not_typed hother, hreport, htext]
    · rw [hreport]
      exact plain_eq_headersHint_iff
    · rw [hreport]
      exact plain_of_no_headers h

/-- A timeout is explained as such under a context that mentions missing headers.  A text under a
context that begins like a failure to read the settings is explained by the headers it mentions. -/
theorem explained_by_cause_or_chain_headers :
    let contexts := ["table.csv: objects CSV must have headers", "reading config x.toml"]
    let late := (Report.ofCause (.detector .timeout)).under contexts
    let missing := (Report.ofText "not found").under contexts
    report late = report (Report.ofCause (.detector .timeout)) ∧ reason late = "Timeout" ∧
      report missing = headersHint ∧ reason missing = "Error" := by
  intro contexts late missing
  rcases explained_by_cause_or_chain contexts with ⟨htyped, hplain⟩
  rcases htyped (.detector .timeout) rfl with ⟨hreport, hreason, -, -⟩
  rcases hplain (Report.ofText "not found") rfl with ⟨herror, -, htext, -, hheaders, -⟩
  refine ⟨hreport, hreason, hheaders.mpr ?_, herror⟩
  rw [htext, ← Text.mentions_iff]
  decide

end Explain

end SmartScale
