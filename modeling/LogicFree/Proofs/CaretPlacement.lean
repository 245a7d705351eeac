import LogicFree.Proofs.ReportContext

/-! The caret below its character. The row of the caret is indented by the width of the
text before the place, and the row of the source line shows that text with its tabs
widened, so a character that is shown has the caret right below it. Neither the rows nor
the headline hold line feeds of their own, which makes them rows of the printed text. -/

namespace LogicFree.Report
open Text

def placeRow (report : Report) : List Char :=
  (" --> " ++ report.filename ++ ":" ++ toString report.location.line ++ ":" ++
    toString report.location.column).toList

private theorem placeRow_free (report : Report) (named : '\n' ∉ report.filename.toList) : '\n' ∉ report.placeRow := by
  simp only [placeRow, String.toList_append, List.mem_append, not_or]
  exact ⟨⟨⟨⟨⟨by decide, named⟩, by decide⟩, number_free _⟩, by decide⟩, number_free _⟩

theorem toList_headline (report : Report) :
    report.headline.toList = ("error: " ++ report.message).toList ++ '\n' :: closed [report.placeRow] := by
  simp [headline_eq, placeRow]

/-- The printed text row by row. Only the message and the hint may take up several rows. -/
theorem splitOn_text (report : Report) {line : List Char} (free : '\n' ∉ line)
    (named : '\n' ∉ report.filename.toList) (annotated : '\n' ∉ report.annotation.toList) :
    (report.headline ++ String.ofList (closed (report.rows line)) ++ report.hint).toList.splitOn '\n' =
      ("error: " ++ report.message).toList.splitOn '\n' ++ [report.placeRow] ++ report.rows line ++
        report.hint.toList.splitOn '\n' := by
  have place : ∀ row ∈ [report.placeRow], '\n' ∉ row :=
    List.forall_mem_singleton.mpr (report.placeRow_free named)
  rw [String.toList_append, String.toList_append, String.toList_ofList, toList_headline, List.append_assoc,
    List.append_assoc, List.cons_append, List.splitOn_append_cons_self, splitOn_closed _ place,
    splitOn_closed _ (report.rows_free free annotated), List.append_assoc, List.append_assoc]

theorem caretRow_eq (report : Report) (line : List Char) :
    report.caretRow line =
      (report.gutter ++ [' ', '|', ' '] ++ List.replicate (report.indent line) ' ') ++
        '^' :: trimEnd (' ' :: report.annotation.toList) := by
  have shown : isBlank '^' = false := by decide
  rw [← trimEnd_append_cons _ _ _ shown, caretRow]
  simp

theorem idxOf_caret (report : Report) (line : List Char) :
    (report.caretRow line).idxOf '^' = report.gutter.length + 3 + report.indent line := by
  have before : '^' ∉ report.gutter ++ [' ', '|', ' '] ++ List.replicate (report.indent line) ' ' := by
    simp [gutter]
  rw [caretRow_eq, List.idxOf_append_of_notMem before, List.idxOf_cons_self]
  simp only [List.length_append, List.length_replicate, List.length_cons, List.length_nil]
  omega

private theorem getElem?_caret (report : Report) (line : List Char) :
    (report.caretRow line)[(report.caretRow line).idxOf '^']? = some '^' := by
  apply List.getElem?_idxOf
  rw [caretRow_eq]
  simp

theorem getElem?_sourceRow (report : Report) (front : List Char) {x : Char} (back : List Char)
    (shown : isBlank x = false) :
    (report.sourceRow (front ++ x :: back))[report.gutter.length + 3 + totalWidth front]? = some x := by
  have untabbed : x ≠ '\t' := by
    intro tab
    rw [tab] at shown
    exact absurd shown (by decide)
  have widened : expandTabs (front ++ x :: back) = expandTabs front ++ x :: expandTabs back := by
    rw [expandTabs_append]
    simp [expandTabs, untabbed]
  have position : report.gutter.length + 3 + totalWidth front =
      ((toString report.location.line).toList ++ [' ', '|', ' '] ++ expandTabs front).length := by
    simp only [gutter, List.length_append, List.length_replicate, String.length_toList, length_expandTabs,
      List.length_cons, List.length_nil]
  rw [sourceRow, widened, trimEnd_append_cons _ _ _ shown, ← List.append_assoc, position]
  simp

/-- Where a character stands that ends no line, the line that is shown holds it behind the
passed front of the segment. -/
theorem sourceLine?_at (report : Report) {front back : List Char} {x : Char}
    (cut : report.source.toList = front ++ x :: back) (placed : report.position = byteLength front)
    (unbroken : x ≠ '\n') (unreturned : x ≠ '\r') :
    ∃ before rest, report.sourceLine? = some (before ++ x :: rest) ∧
      report.location.column = before.length + 1 := by
  obtain ⟨site⟩ := exists_site report.source.toList report.position
  obtain ⟨more, ahead⟩ : ∃ more, site.ahead = x :: more := by
    have rest : x :: back = site.ahead ++ opened site.after :=
      site.rest_eq (by rw [placed, passed_front cut]; exact cut)
    -- If nothing of the segment were left, a line feed would stand here, or nothing at all.
    cases segment : site.ahead with
    | nil =>
      cases later : site.after with
      | nil => simp [segment, later] at rest
      | cons next after =>
        rw [segment, later, opened_cons] at rest
        exact absurd (List.cons.inj rest).1 unbroken
    | cons c more =>
      rw [segment] at rest
      rw [(List.cons.inj rest).1]
      exact ⟨more, rfl⟩
  obtain ⟨rest, kept⟩ := asLine_append_cons site.front more site.after unreturned
  refine ⟨site.front, rest, ?_, ?_⟩
  · rw [report.sourceLine?_site site, ahead, kept, if_neg (by simp)]
  · rw [report.location_site site]

theorem sourceLine?_of_char (report : Report) {front back : List Char} {x : Char}
    (cut : report.source.toList = front ++ x :: back) (placed : report.position = byteLength front)
    (shown : isBlank x = false) :
    ∃ before rest, report.sourceLine? = some (before ++ x :: rest) ∧
      report.indent (before ++ x :: rest) = totalWidth before := by
  have unbroken : x ≠ '\n' := by
    intro lineFeed
    rw [lineFeed] at shown
    exact absurd shown (by decide)
  have unreturned : x ≠ '\r' := by
    intro carriageReturn
    rw [carriageReturn] at shown
    exact absurd shown (by decide)
  obtain ⟨before, rest, found, column⟩ := report.sourceLine?_at cut placed unbroken unreturned
  refine ⟨before, rest, found, ?_⟩
  rw [indent, column, Nat.add_sub_cancel, List.take_left]

/-- The caret points at the character: the printed text holds the row of the source line
and the row of the caret right below it, and the first caret of the one stands where the
other shows the character at the place. -/
theorem caret_below (report : Report) (front back : List Char) (x : Char)
    (cut : report.source.toList = front ++ x :: back) (placed : report.position = byteLength front)
    (shown : isBlank x = false) (named : '\n' ∉ report.filename.toList)
    (annotated : '\n' ∉ report.annotation.toList) (text : String) (laidOut : report.format = .ok text) :
    ∃ line, report.sourceLine? = some line ∧
      text.toList.splitOn '\n' =
        ("error: " ++ report.message).toList.splitOn '\n' ++ [report.placeRow] ++
          [report.gutter ++ [' ', '|'], report.sourceRow line, report.caretRow line] ++
          report.hint.toList.splitOn '\n' ∧
      let column := (report.caretRow line).idxOf '^'
      (report.caretRow line)[column]? = some '^' ∧ (report.sourceRow line)[column]? = some x := by
  obtain ⟨before, rest, found, indented⟩ := report.sourceLine?_of_char cut placed shown
  refine ⟨before ++ x :: rest, found, ?_, report.getElem?_caret _, ?_⟩
  · rcases (report.format_eq_ok_iff text).mp laidOut with ⟨missing, -⟩ | ⟨line, same, -, printed⟩
    · rw [found] at missing
      cases missing
    · rw [found] at same
      cases same
      rw [printed]
      exact report.splitOn_text (sourceLine_free found) named annotated
  · rw [report.idxOf_caret, indented]
    exact report.getElem?_sourceRow before rest shown

theorem caret_below_tenth_line :
    let report : Report := .new "Jet templates are logic free" "\n\n\n\n\n\n\n\n\n\té f(x)\r\n" 13 "page.jsx"
      "call expression" none
    let text := "error: Jet templates are logic free\n --> page.jsx:10:4\n" ++
      "   |\n10 |     é f(x)\n   |       ^ call expression\n"
    report.format = .ok text ∧ ∃ line, report.sourceLine? = some line ∧
      (report.sourceRow line)[(report.caretRow line).idxOf '^']? = some 'f' := by
  intro report text
  have laidOut : report.format = .ok text := by decide
  obtain ⟨line, found, -, -, shown⟩ :=
    caret_below report "\n\n\n\n\n\n\n\n\n\té ".toList "(x)\r\n".toList 'f'
      (by decide) (by decide) (by decide) (by decide) (by decide) text laidOut
  exact ⟨laidOut, line, found, shown⟩

end LogicFree.Report
