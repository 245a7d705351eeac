import Mathlib.Data.Nat.Digits.Defs
import LogicFree.Proofs.SourceLocations

/-! When a report shows source context, and which line it shows. Places count line feeds
and lines are looked up among those that a text is read as; the two numberings agree, and
the lookup fails only at the end of a source whose last line is closed. Where there is a
line to show, a report is laid out unless the text before the caret is too wide. -/

namespace LogicFree.Text.Site

variable {text : List Char} {offset : Nat}

/-- Nothing stands on the last segment exactly at the end of a text that is empty or
ends in a line feed. -/
theorem closed_end_iff (site : Site text offset) :
    site.after = [] ∧ site.front ++ site.ahead = [] ↔
      byteLength text ≤ offset ∧ (text = [] ∨ text.getLast? = some '\n') := by
  constructor
  · intro ⟨last, empty⟩
    have whole := site.text_eq
    rw [last, empty, opened_nil, List.append_nil, List.append_nil] at whole
    have reached := site.start_le
    rw [← whole] at reached
    refine ⟨reached, ?_⟩
    rcases List.eq_nil_or_concat' site.before with first | ⟨earlier, line, ends⟩
    · left
      rw [whole, first, closed_nil]
    · right
      rw [whole, ends, closed_concat, List.getLast?_concat]
  · intro ⟨beyond, ends⟩
    have whole : text = closed site.before ++ site.front := by
      rw [← site.passed_eq, passed_all text beyond]
    have nothing : [] = site.ahead ++ opened site.after :=
      site.rest_eq (by rw [passed_all text beyond, List.append_nil])
    obtain ⟨noneAhead, noneOpened⟩ := List.append_eq_nil_iff.mp nothing.symm
    -- A front part would end the text, and it holds no line feed.
    have noneFront : site.front = [] := by
      rcases List.eq_nil_or_concat' site.front with nothing | ⟨more, c, last⟩
      · exact nothing
      · have free := site.front_free
        rw [last] at free whole
        rw [whole, ← List.append_assoc, List.getLast?_concat] at ends
        rcases ends with empty | lineFeed
        · simp at empty
        · cases lineFeed
          simp at free
    refine ⟨?_, by rw [noneFront, noneAhead]; rfl⟩
    cases last : site.after with
    | nil => rfl
    | cons next after => simp [last] at noneOpened

end LogicFree.Text.Site

namespace LogicFree.Report
open Text

/-- The end of a source that is empty or closes its last line. -/
def AtClosedEnd (report : Report) : Prop :=
  report.position = report.source.utf8ByteSize ∧
    (report.source = "" ∨ report.source.toList.getLast? = some '\n')

/-- A report that is laid out with three rows of source context, of which the second
shows the given row behind the line number. -/
def Prints (report : Report) (row : List Char) : Prop :=
  '\n' ∉ row ∧ ∃ indentation, report.format = .ok (report.headline ++
    String.ofList (closed
      [report.gutter ++ [' ', '|'],
        (toString report.location.line).toList ++ [' ', '|', ' '] ++ row,
        trimEnd (report.gutter ++ [' ', '|', ' '] ++ List.replicate indentation ' ' ++ ['^', ' '] ++
          report.annotation.toList)]) ++ report.hint)

theorem location_site (report : Report) (site : Site report.source.toList report.position) :
    report.location = ⟨site.before.length + 1, site.front.length + 1⟩ :=
  Location.ofOffset_site site

theorem sourceLine?_site (report : Report) (site : Site report.source.toList report.position) :
    report.sourceLine? =
      if site.after = [] ∧ site.front ++ site.ahead = [] then none
      else some (asLine (site.front ++ site.ahead) site.after) := by
  rw [sourceLine?, report.location_site site, Nat.add_sub_cancel, lines_getElem? site.segments]

theorem sourceLine_free {report : Report} {line : List Char} (found : report.sourceLine? = some line) :
    '\n' ∉ line := by
  obtain ⟨site⟩ := exists_site report.source.toList report.position
  rw [report.sourceLine?_site site, Option.ite_none_left_eq_some] at found
  obtain ⟨-, shown⟩ := found
  rw [← Option.some.inj shown]
  exact fun member => site.segment_free ((asLine_isPrefix _ _).subset member)

theorem sourceLine?_eq_none_iff (report : Report) : report.sourceLine? = none ↔ report.AtClosedEnd := by
  obtain ⟨site⟩ := exists_site report.source.toList report.position
  have ended := site.closed_end_iff
  rw [byteLength_toList, String.toList_eq_nil_iff, report.within.ge_iff_eq] at ended
  rw [report.sourceLine?_site site, AtClosedEnd, ← ended]
  split
  next missing => exact iff_of_true rfl missing
  next shown => exact iff_of_false (Option.some_ne_none _) shown

theorem row_unique {row other rest more : List Char} (free : '\n' ∉ row) (otherFree : '\n' ∉ other)
    (same : row ++ '\n' :: rest = other ++ '\n' :: more) : row = other := by
  have cut := congrArg (List.splitOn '\n') same
  rw [List.splitOn_append_cons_self_of_not_mem free, List.splitOn_append_cons_self_of_not_mem otherFree] at cut
  exact (List.cons.inj cut).1

private theorem prints_iff (report : Report) (row : List Char) :
    report.Prints row ↔ ∃ line, report.sourceLine? = some line ∧ report.indent line ≤ maxIndent ∧
      row = trimEnd (expandTabs line) := by
  constructor
  · rintro ⟨free, indentation, laidOut⟩
    rcases (report.format_eq_ok_iff _).mp laidOut with ⟨-, same⟩ | ⟨line, found, fits, same⟩
    · -- Without the rows the text would be shorter.
      have texts := congrArg String.toList same
      rw [String.toList_append, String.toList_append, String.toList_append, List.append_assoc,
        List.append_cancel_left_eq, String.toList_ofList] at texts
      exact absurd (List.append_left_eq_self.mp texts) (by simp)
    · refine ⟨line, found, fits, ?_⟩
      -- All that stands before the row is the same on both sides, so the two rows begin together.
      have texts := congrArg String.toList same
      simp only [String.toList_append, String.toList_ofList, List.append_assoc, rows, sourceRow, closed_cons,
        List.append_cancel_left_eq, List.cons_append, List.cons.injEq, true_and, List.nil_append] at texts
      exact row_unique free (shown_free (sourceLine_free found)) texts
  · rintro ⟨line, found, fits, rfl⟩
    refine ⟨shown_free (sourceLine_free found), report.indent line, ?_⟩
    exact (report.format_eq_ok_iff _).mpr (.inr ⟨line, found, fits, rfl⟩)

theorem Prints.returns {report : Report} {row : List Char} (printed : report.Prints row) :
    report.Returns := by
  obtain ⟨-, indentation, laidOut⟩ := printed
  exact ⟨_, laidOut⟩

/-- Source context is shown wherever a report can be laid out at all, except at the end of
a source that is empty or closes its last line. The row shown is the segment that holds the
position. -/
theorem context_shown_iff (report : Report) :
    ((∃ row, report.Prints row) ↔ report.Returns ∧ ¬ report.AtClosedEnd) ∧
    ∀ row, report.Prints row → ∃ before segment after,
      let start := byteLength before.flatten + before.length
      report.source.toList.splitOn '\n' = before ++ segment :: after ∧
        start ≤ report.position ∧ report.position ≤ start + byteLength segment ∧
        row = trimEnd (expandTabs (asLine segment after)) := by
  constructor
  · rw [← sourceLine?_eq_none_iff]
    constructor
    · intro ⟨row, printed⟩
      obtain ⟨line, found, -, -⟩ := (report.prints_iff row).mp printed
      rw [found]
      exact ⟨printed.returns, Option.some_ne_none line⟩
    · intro ⟨laidOut, shown⟩
      obtain ⟨line, found⟩ := Option.ne_none_iff_exists'.mp shown
      have fits := report.returns_iff.mp laidOut line found
      exact ⟨_, (report.prints_iff _).mpr ⟨line, found, fits, rfl⟩⟩
  · intro row printed
    obtain ⟨line, found, -, shown⟩ := (report.prints_iff row).mp printed
    obtain ⟨site⟩ := exists_site report.source.toList report.position
    rw [report.sourceLine?_site site, Option.ite_none_left_eq_some] at found
    refine ⟨site.before, site.front ++ site.ahead, site.after, site.segments, ?_, ?_, ?_⟩
    · have reached := site.start_le
      rwa [byteLength_closed] at reached
    · have stops := site.le_stop
      rw [byteLength_toList, byteLength_closed, Nat.min_eq_left report.within] at stops
      rw [byteLength_append]
      omega
    · rw [shown, ← Option.some.inj found.2]

def indented (tabs : Nat) : Report :=
  .new "Unexpected token" (String.ofList (List.replicate tabs '\t' ++ ['x'])) tabs "template.jsx" "boom" none

private theorem byteLength_tabs (tabs : Nat) : byteLength (List.replicate tabs '\t') = tabs := by
  induction tabs with
  | zero => rfl
  | succ tabs ih =>
    rw [List.replicate_succ, byteLength_cons, ih]
    exact Nat.add_comm 1 tabs

private theorem totalWidth_tabs (tabs : Nat) : totalWidth (List.replicate tabs '\t') = 4 * tabs := by
  induction tabs with
  | zero => rfl
  | succ tabs ih =>
    rw [List.replicate_succ, totalWidth_cons, ih]
    exact Nat.add_comm 4 (4 * tabs)

private theorem indented_position (tabs : Nat) : (indented tabs).position = tabs := by
  apply Nat.min_eq_left
  rw [byteLength_ofList, byteLength_append, byteLength_tabs]
  exact Nat.le_add_right _ _

private theorem sourceLine?_indented (tabs : Nat) :
    (indented tabs).sourceLine? = some (List.replicate tabs '\t' ++ ['x']) ∧
      (indented tabs).location = ⟨1, tabs + 1⟩ := by
  have text : (indented tabs).source.toList = List.replicate tabs '\t' ++ ['x'] := String.toList_ofList
  have free : '\n' ∉ List.replicate tabs '\t' ++ ['x'] := by simp
  let site : Site (indented tabs).source.toList (indented tabs).position :=
    { before := []
      front := List.replicate tabs '\t'
      ahead := ['x']
      after := []
      segments := by rw [text, List.splitOn_eq_singleton free]; rfl
      passed_eq := by
        rw [indented_position]
        have front := passed_front text
        rwa [byteLength_tabs] at front }
  constructor
  · rw [sourceLine?_site _ site]
    simp [site, asLine]
  · rw [location_site _ site]
    simp [site]

/-- The caret under an `x` behind tabs can be placed only if the tabs leave room for it. -/
theorem indented_returns_iff (tabs : Nat) : (indented tabs).Returns ↔ 4 * tabs ≤ maxIndent := by
  obtain ⟨found, placed⟩ := sourceLine?_indented tabs
  have width : (indented tabs).indent (List.replicate tabs '\t' ++ ['x']) = 4 * tabs := by
    rw [indent, placed, Nat.add_sub_cancel, List.take_left' List.length_replicate, totalWidth_tabs]
  rw [returns_iff, found]
  simp [width]

private theorem indented_panics {tabs : Nat} (wide : maxIndent < 4 * tabs) :
    (indented tabs).format = .error .formatWidth := by
  rw [← not_returns_iff, indented_returns_iff]
  omega

/-- Behind 16384 tabs the program panics and nothing is shown, although the place is not at
the end. -/
theorem context_missing :
    ¬ (indented 16384).AtClosedEnd ∧ (indented 16384).format = .error .formatWidth ∧
      ¬ ∃ row, (indented 16384).Prints row := by
  obtain ⟨found, -⟩ := sourceLine?_indented 16384
  have wide : maxIndent < 4 * 16384 := by decide
  refine ⟨?_, indented_panics wide, ?_⟩
  · rw [← sourceLine?_eq_none_iff, found]
    exact Option.some_ne_none _
  · intro ⟨row, printed⟩
    exact (not_returns_iff _).mpr (indented_panics wide) printed.returns

private theorem totalWidth_le {front text : List Char} (opens : front <+: text) : totalWidth front ≤ totalWidth text := by
  obtain ⟨back, rfl⟩ := opens
  rw [totalWidth_append]
  exact Nat.le_add_right _ _

private theorem line_le (report : Report) : report.location.line ≤ report.source.utf8ByteSize + 1 := by
  obtain ⟨site⟩ := exists_site report.source.toList report.position
  have whole := congrArg byteLength site.text_eq
  rw [byteLength_toList, byteLength_append, byteLength_append, byteLength_closed] at whole
  rw [report.location_site site]
  change site.before.length + 1 ≤ report.source.utf8ByteSize + 1
  omega

theorem gutter_length_le (report : Report) (addressed : report.source.utf8ByteSize < 2 ^ 64) :
    report.gutter.length ≤ 20 := by
  have line := report.line_le
  rw [gutter, List.length_replicate]
  exact Nat.repr_length _ 20 (by decide) (by omega)

private theorem returns_site_iff (report : Report) (site : Site report.source.toList report.position) :
    report.Returns ↔
      totalWidth ((asLine (site.front ++ site.ahead) site.after).take site.front.length) ≤ maxIndent := by
  rw [returns_iff, report.sourceLine?_site site]
  split
  next missing =>
    obtain ⟨last, empty⟩ := missing
    rw [last, empty]
    simp [asLine]
  next =>
    simp only [Option.some.injEq, forall_eq', indent, report.location_site site, Nat.add_sub_cancel]

/-- A report is laid out unless the characters before the caret take up more than 65535
columns on its line, and then the program panics. Lines and columns count from one, and
line numbers stay short, so nothing else can make it panic. -/
theorem laid_out_iff (report : Report) :
    let place := report.location
    let segments := report.source.toList.splitOn '\n'
    let narrow := ∀ segment, segments[place.line - 1]? = some segment →
      totalWidth ((asLine segment (segments.drop place.line)).take (place.column - 1)) ≤ 65535
    0 < place.line ∧ 0 < place.column ∧
      (report.source.utf8ByteSize < 2 ^ 64 → report.gutter.length ≤ 20) ∧
      ((∃ text, report.format = .ok text) ↔ narrow) ∧
      (report.format = .error .formatWidth ↔ ¬ narrow) ∧
      ((∀ segment ∈ segments, totalWidth segment ≤ 65535) → ∃ text, report.format = .ok text) := by
  obtain ⟨site⟩ := exists_site report.source.toList report.position
  intro place segments narrow
  have placed : place = ⟨site.before.length + 1, site.front.length + 1⟩ := report.location_site site
  have parts : segments = site.before ++ (site.front ++ site.ahead) :: site.after := site.segments
  have here : segments[place.line - 1]? = some (site.front ++ site.ahead) := by
    rw [placed, parts]
    simp
  have later : segments.drop place.line = site.after := by
    rw [placed, parts]
    simp
  have returns : report.Returns ↔ narrow := by
    rw [report.returns_site_iff site]
    change _ ↔ ∀ segment, segments[place.line - 1]? = some segment → _
    rw [here, later, placed]
    simp [maxIndent]
  refine ⟨by rw [placed]; exact Nat.succ_pos _, by rw [placed]; exact Nat.succ_pos _,
    report.gutter_length_le, returns, ?_, ?_⟩
  · rw [← returns, not_returns_iff]
  · intro short
    have line := short (site.front ++ site.ahead) (by rw [parts]; simp)
    have whole := asLine_isPrefix (site.front ++ site.ahead) site.after
    have opens : (asLine (site.front ++ site.ahead) site.after).take site.front.length <+: _ :=
      List.take_prefix _ _
    exact (report.returns_site_iff site).mpr (Nat.le_trans (totalWidth_le (opens.trans whole)) line)

/-- One tab more than fits, and rendering panics about a place inside the source. -/
theorem wide_not_laid_out :
    let source := String.ofList (List.replicate 16384 '\t' ++ ['x'])
    let failure := Failure.malformed "boom" 1 16385 ⟨16384, 16385⟩
    failure.render source "template.jsx" = .error .formatWidth ∧
      (indented 16384).format = .error .formatWidth ∧ (indented 16383).Returns := by
  intro source failure
  have panics : (indented 16384).format = .error .formatWidth := indented_panics (by decide)
  have single : failure.reports source "template.jsx" = [indented 16384] := rfl
  exact ⟨(Failure.render_single single).trans panics, panics, (indented_returns_iff 16383).mpr (by decide)⟩

end LogicFree.Report
