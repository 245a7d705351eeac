import LogicFree.Proofs.CaretPlacement

/-! Offsets inside a character. The walk over a source passes every character that begins
before the offset, so an offset behind the first byte of a character has the place after
it, and a report for such an offset has its caret one column too far to the right. -/

namespace LogicFree.Text

private theorem passed_through {text front back : List Char} {c : Char} {offset : Nat}
    (cut : text = front ++ c :: back) (begun : byteLength front < offset)
    (within : offset ≤ byteLength front + c.utf8Size) : passed text offset = front ++ [c] := by
  induction front generalizing text offset with
  | nil =>
    rw [byteLength_nil] at begun within
    have finished : offset - c.utf8Size = 0 := by omega
    rw [cut, List.nil_append, passed_cons c back begun, finished, passed_zero, List.nil_append]
  | cons first front ih =>
    rw [byteLength_cons] at begun within
    rw [cut, List.cons_append, passed_cons first _ (by omega), ih rfl (by omega) (by omega), List.cons_append]

private theorem ne_of_wide {c narrow : Char} (wide : 1 < c.utf8Size) (single : narrow.utf8Size = 1) : c ≠ narrow := by
  intro same
  rw [same] at wide
  omega

end LogicFree.Text

namespace LogicFree.Location
open Text

variable {source : String} {front back : List Char} {c : Char} {offset : Nat}

/-- Behind the first byte of a character its place is that of the next one. -/
theorem ofOffset_through (cut : source.toList = front ++ c :: back) (begun : byteLength front < offset)
    (within : offset ≤ byteLength front + c.utf8Size) :
    ofOffset source offset = (ofOffset source (byteLength front)).advance c := by
  rw [ofOffset_eq, ofOffset_eq, passed_through cut begun within, passed_front cut, List.foldl_append,
    List.foldl_cons, List.foldl_nil]

private theorem ofOffset_through_ne (cut : source.toList = front ++ c :: back) (begun : byteLength front < offset)
    (within : offset ≤ byteLength front + c.utf8Size) :
    ofOffset source offset ≠ ofOffset source (byteLength front) := by
  intro same
  have later := rank_lt_advance (ofOffset source (byteLength front)) c
  rw [← ofOffset_through cut begun within, same] at later
  exact lt_irrefl _ later

end LogicFree.Location

namespace LogicFree.Report
open Text

def movedTo (report : Report) (offset : Nat) : Report :=
  .new report.message report.source offset report.filename report.annotation report.help

private theorem movedTo_position (report : Report) {offset : Nat} (inside : offset ≤ report.source.utf8ByteSize) :
    (report.movedTo offset).position = offset := Nat.min_eq_left inside

private theorem movedTo_self (report : Report) : report.movedTo report.position = report := by
  obtain ⟨message, source, position, filename, annotation, help, within⟩ := report
  simp [movedTo, new, within]

theorem sourceRow_movedTo (report : Report) {position : Nat} (line : List Char)
    (level : (report.movedTo position).location.line = report.location.line) :
    (report.movedTo position).sourceRow line = report.sourceRow line := by
  simp only [sourceRow, level]

variable (report : Report) {front back : List Char} {c : Char}

theorem caret_under (cut : report.source.toList = front ++ c :: back)
    (placed : report.position = byteLength front) :
    ∃ line, report.sourceLine? = some line ∧
      (isBlank c = false → (report.sourceRow line)[(report.caretRow line).idxOf '^']? = some c) := by
  by_cases shown : isBlank c = false
  · obtain ⟨before, rest, found, width⟩ := report.sourceLine?_of_char cut placed shown
    refine ⟨before ++ c :: rest, found, fun _ => ?_⟩
    rw [report.idxOf_caret, width]
    exact report.getElem?_sourceRow before rest shown
  · have inside : ¬ report.AtClosedEnd := by
      intro ⟨beyond, _⟩
      have size := c.utf8Size_pos
      rw [placed, ← byteLength_toList, cut, byteLength_append, byteLength_cons] at beyond
      omega
    rw [← sourceLine?_eq_none_iff] at inside
    obtain ⟨line, found⟩ := Option.ne_none_iff_exists'.mp inside
    exact ⟨line, found, fun other => absurd other shown⟩

/-- Behind the first byte of a character the report shows the same line, and its caret
stands one column further than that of the report about the character. -/
theorem caret_behind (cut : report.source.toList = front ++ c :: back)
    (begun : byteLength front < report.position)
    (within : report.position < byteLength front + c.utf8Size) :
    let exact := report.movedTo (byteLength front)
    exact.location.line = report.location.line ∧ exact.sourceLine? = report.sourceLine? ∧
      ∀ line, report.sourceLine? = some line →
        (report.caretRow line).idxOf '^' = (exact.caretRow line).idxOf '^' + 1 := by
  intro exact
  -- Only a character of several bytes has an inside, and it neither ends a line nor is a tab.
  have wide : 1 < c.utf8Size := by omega
  have unbroken : c ≠ '\n' := ne_of_wide wide rfl
  have unreturned : c ≠ '\r' := ne_of_wide wide rfl
  have untabbed : c ≠ '\t' := ne_of_wide wide rfl
  have start : exact.position = byteLength front := report.movedTo_position (begun.le.trans report.within)
  have further : report.location = ⟨exact.location.line, exact.location.column + 1⟩ := by
    have advanced : report.location = exact.location.advance c := by
      rw [location, location, start]
      exact Location.ofOffset_through cut begun within.le
    rwa [Location.advance, if_neg unbroken] at advanced
  have same : exact.sourceLine? = report.sourceLine? := by
    simp only [sourceLine?, further]
    rfl
  obtain ⟨before, rest, found, column⟩ := exact.sourceLine?_at cut start unbroken unreturned
  refine ⟨by rw [further], same, ?_⟩
  intro line shown
  rw [← same, found] at shown
  cases shown
  have narrow : exact.indent (before ++ c :: rest) = totalWidth before := by
    rw [indent, column, Nat.add_sub_cancel, List.take_left]
  have through : report.indent (before ++ c :: rest) = totalWidth before + 1 := by
    have opening : (before ++ c :: rest).take (before.length + 1) = before ++ [c] := by
      rw [List.append_cons, List.take_left' (by simp)]
    rw [indent, further, column]
    simp only [Nat.add_sub_cancel, opening, totalWidth_append, totalWidth_cons, totalWidth_nil, width, if_neg untabbed]
  have margin : report.gutter = exact.gutter := by
    simp only [gutter, further]
  rw [idxOf_caret, idxOf_caret, narrow, through, margin]
  omega

end LogicFree.Report

namespace LogicFree

def Failure.spans : Failure → List Span
  | .malformed _ _ _ span => [span]
  | .policy violations => violations.map (·.span)

private theorem Failure.report_placed {failure : Failure} {source filename : String} {index : Nat} {span : Span}
    {report : Report} (spanned : failure.spans[index]? = some span)
    (reported : (failure.reports source filename)[index]? = some report) :
    report.source = source ∧ report.position = min span.start source.utf8ByteSize := by
  cases failure with
  | malformed diagnostic line column place =>
    cases index with
    | zero =>
      cases spanned
      cases reported
      exact ⟨rfl, rfl⟩
    | succ later => cases spanned
  | policy violations =>
    rw [spans, List.getElem?_map] at spanned
    rw [reports, List.getElem?_map] at reported
    obtain ⟨violation, found, rfl⟩ := Option.map_eq_some_iff.mp spanned
    rw [found] at reported
    cases reported
    exact ⟨rfl, rfl⟩

/-- An offset resolves to the character that it lies in exactly where this character
begins. Behind the first byte it has the place of the next character, and the caret of a
report about it stands one column behind the character instead of under it. -/
theorem Location.inside_resolves_iff (source : String) (front back : List Char) (c : Char)
    (cut : source.toList = front ++ c :: back) (offset : Nat) (begun : Text.byteLength front ≤ offset)
    (within : offset < Text.byteLength front + c.utf8Size) :
    let start := Text.byteLength front
    (ofOffset source offset = ofOffset source start ↔ offset = start) ∧
    (offset ≠ start → ofOffset source offset = ofOffset source (start + c.utf8Size)) ∧
    ∀ (failure : Failure) (filename : String) (index : Nat) (span : Span) (report : Report),
      failure.spans[index]? = some span → span.start = offset →
      (failure.reports source filename)[index]? = some report →
      ∃ line, report.sourceLine? = some line ∧
        (let column := ((report.movedTo start).caretRow line).idxOf '^'
        (Text.isBlank c = false → (report.sourceRow line)[column]? = some c) ∧
          (report.caretRow line).idxOf '^' = if offset = start then column else column + 1) ∧
        ∀ text, report.format = .ok text →
          text = report.headline ++ String.ofList (Text.closed (report.rows line)) ++ report.hint := by
  intro start
  refine ⟨?_, ?_, ?_⟩
  · constructor
    · intro same
      by_contra inside
      exact ofOffset_through_ne cut (by omega) within.le same
    · intro same
      rw [same]
  · intro inside
    have size := c.utf8Size_pos
    rw [ofOffset_through cut (by omega) within.le, ofOffset_through cut (by omega) le_rfl]
  · intro failure filename index span report spanned starts reported
    obtain ⟨rfl, clamped⟩ := Failure.report_placed spanned reported
    have placed : report.position = offset := by
      have size := congrArg Text.byteLength cut
      rw [Text.byteLength_toList, Text.byteLength_append, Text.byteLength_cons] at size
      omega
    have inside : start ≤ report.source.utf8ByteSize := (begun.trans placed.ge).trans report.within
    obtain ⟨line, found, shown⟩ := (report.movedTo start).caret_under cut (report.movedTo_position inside)
    have printed (here : report.sourceLine? = some line) (text : String) (laidOut : report.format = .ok text) :
        text = report.headline ++ String.ofList (Text.closed (report.rows line)) ++ report.hint := by
      rcases (report.format_eq_ok_iff text).mp laidOut with ⟨missing, -⟩ | ⟨other, same, -, laid⟩
      · rw [here] at missing
        cases missing
      · rw [here] at same
        cases same
        exact laid
    by_cases exact : offset = start
    · have unmoved : report.movedTo start = report := by rw [← exact, ← placed, report.movedTo_self]
      rw [unmoved] at found shown ⊢
      exact ⟨line, found, ⟨shown, (if_pos exact).symm⟩, printed found⟩
    · obtain ⟨level, same, further⟩ := report.caret_behind cut (by omega) (by omega)
      rw [same] at found
      rw [report.sourceRow_movedTo line level] at shown
      refine ⟨line, found, ⟨shown, ?_⟩, printed found⟩
      rw [if_neg exact, further line found]

theorem Location.inside_resolves_iff_accented :
    let report := (⟨.call, ⟨2, 3⟩⟩ : Violation).report "xé;" "page.jsx"
    Text.byteLength "x".toList ≤ 2 ∧ 2 < Text.byteLength "x".toList + 'é'.utf8Size ∧
      ofOffset "xé;" 2 = ofOffset "xé;" 3 ∧
      ∃ line, report.sourceLine? = some line ∧
        let column := ((report.movedTo 1).caretRow line).idxOf '^'
        (report.sourceRow line)[column]? = some 'é' ∧ (report.caretRow line).idxOf '^' = column + 1 := by
  intro report
  obtain ⟨-, behind, carets⟩ :=
    Location.inside_resolves_iff "xé;" "x".toList ";".toList 'é' rfl 2 (by decide) (by decide)
  obtain ⟨line, found, ⟨shown, column⟩, -⟩ :=
    carets (.policy [⟨.call, ⟨2, 3⟩⟩]) "page.jsx" 0 ⟨2, 3⟩ report rfl rfl rfl
  exact ⟨by decide, by decide, behind (by decide), line, found, shown (by decide), column⟩

/-- The second byte of a letter does not resolve to the letter, and its caret stands
behind the letter. -/
theorem Location.inside_resolves_behind :
    ofOffset "é" 1 ≠ ofOffset "é" 0 ∧
      (Failure.ofDiagnostic "boom" "é" ⟨1, 2⟩).render "é" "template.jsx" =
        .ok "error: Unexpected token\n --> template.jsx:1:2\n  |\n1 | é\n  |  ^ boom\n" := by
  decide

end LogicFree
