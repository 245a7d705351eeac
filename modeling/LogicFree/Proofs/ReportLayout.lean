import LogicFree.Report.Basic
import LogicFree.Proofs.TextSegments

/-! What a report is laid out as. It opens with the headline and ends with the hint, and
the rows of source context stand between the two wherever the place lies on a line. Only
a caret that stands too far to the right makes laying it out panic. -/

namespace LogicFree.Text

private theorem trimEnd_isPrefix (text : List Char) : trimEnd text <+: text := by
  have suffix := List.dropWhile_suffix (l := text.reverse) isBlank
  rw [← List.reverse_prefix, List.reverse_reverse] at suffix
  exact suffix

/-- Blanks are cut off only behind the last character that is none. -/
theorem trimEnd_append_cons (front : List Char) (c : Char) (back : List Char) (shown : isBlank c = false) :
    trimEnd (front ++ c :: back) = front ++ c :: trimEnd back := by
  simp only [trimEnd, List.reverse_append, List.reverse_cons, List.append_assoc, List.dropWhile_append]
  split
  next blank =>
    rw [List.isEmpty_iff.mp blank]
    simp [shown]
  next => simp

private theorem mem_expandTabs {text : List Char} {c : Char} (member : c ∈ expandTabs text) :
    c ∈ text ∨ c = ' ' := by
  obtain ⟨origin, inside, produced⟩ := List.mem_flatMap.mp member
  split at produced
  · exact .inr (List.eq_of_mem_replicate produced)
  · rw [List.mem_singleton.mp produced]
    exact .inl inside

/-- A line is shown without a line feed of its own. -/
theorem shown_free {line : List Char} (free : '\n' ∉ line) : '\n' ∉ trimEnd (expandTabs line) := by
  intro member
  rcases mem_expandTabs ((trimEnd_isPrefix _).subset member) with inside | space
  · exact free inside
  · cases space

theorem number_free (number : Nat) : '\n' ∉ (toString number).toList := by
  intro member
  have digit : Char.isDigit '\n' = true :=
    Nat.isDigit_of_mem_toDigits (b := 10) (n := number) (by decide) (by decide) (by simpa using member)
  cases digit

end LogicFree.Text

namespace LogicFree.Report
open Text

/-- The rows of source context: the margin, the source line, and the caret. -/
def rows (report : Report) (line : List Char) : List (List Char) :=
  [report.gutter ++ [' ', '|'], report.sourceRow line, report.caretRow line]

-- Rewriting with the definition itself derives its equation, which takes seconds.
theorem headline_eq (report : Report) :
    report.headline = "error: " ++ report.message ++ "\n" ++ " --> " ++ report.filename ++ ":" ++
      toString report.location.line ++ ":" ++ toString report.location.column ++ "\n" := rfl

private theorem gutter_free (report : Report) : '\n' ∉ report.gutter := by
  intro member
  cases List.eq_of_mem_replicate member

private theorem sourceRow_free (report : Report) {line : List Char} (free : '\n' ∉ line) :
    '\n' ∉ report.sourceRow line := by
  simp only [sourceRow, List.mem_append, not_or]
  exact ⟨⟨number_free _, by decide⟩, shown_free free⟩

private theorem caretRow_free (report : Report) (line : List Char) (annotated : '\n' ∉ report.annotation.toList) :
    '\n' ∉ report.caretRow line := by
  intro member
  have inside := (trimEnd_isPrefix _).subset member
  simp only [List.mem_append] at inside
  rcases inside with (((blank | bar) | indentation) | caret) | annotation
  · exact report.gutter_free blank
  · exact absurd bar (by decide)
  · cases List.eq_of_mem_replicate indentation
  · exact absurd caret (by decide)
  · exact annotated annotation

theorem rows_free (report : Report) {line : List Char} (free : '\n' ∉ line)
    (annotated : '\n' ∉ report.annotation.toList) : ∀ row ∈ report.rows line, '\n' ∉ row := by
  simp only [rows, List.forall_mem_cons, List.mem_append, not_or]
  exact ⟨⟨report.gutter_free, by decide⟩, report.sourceRow_free free, report.caretRow_free line annotated,
    List.forall_mem_nil _⟩

private theorem context_eq (report : Report) (line : List Char) :
    report.context line =
      if report.indent line ≤ maxIndent then .ok (String.ofList (closed (report.rows line)))
      else .error .formatWidth := by
  unfold context
  split
  next =>
    rw [← String.ofList_append, ← String.ofList_append]
    simp [rows]
  next => rfl

/-- Every text that a report can be laid out as. -/
theorem format_eq_ok_iff (report : Report) (text : String) :
    report.format = .ok text ↔
      report.sourceLine? = none ∧ text = report.headline ++ report.hint ∨
      ∃ line, report.sourceLine? = some line ∧ report.indent line ≤ maxIndent ∧
        text = report.headline ++ String.ofList (closed (report.rows line)) ++ report.hint := by
  unfold format
  cases found : report.sourceLine? with
  | none => simp [eq_comm]
  | some line =>
    simp only [context_eq]
    by_cases fits : report.indent line ≤ maxIndent
    · simp [fits, Except.map, eq_comm]
    · simp [fits, Except.map]

/-- The report is laid out, and the program does not panic. -/
def Returns (report : Report) : Prop := ∃ text, report.format = .ok text

theorem returns_iff (report : Report) :
    report.Returns ↔ ∀ line, report.sourceLine? = some line → report.indent line ≤ maxIndent := by
  simp only [Returns, format_eq_ok_iff]
  cases found : report.sourceLine? with
  | none => simp
  | some line => simp

theorem not_returns_iff (report : Report) : ¬ report.Returns ↔ report.format = .error .formatWidth := by
  cases outcome : report.format with
  | ok text => simp [Returns, outcome]
  | error panic =>
    cases panic
    simp [Returns, outcome]

end LogicFree.Report
